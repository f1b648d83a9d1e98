import TaintSummary.Proofs.Specifier

/-!
# The grammar of taint specifiers

A text is written for a taint (`Taint.WrittenAs`), or after its only `:` stands the name of no effect (`Taint.HasBadEffect`), or it
has too many separators (`Taint.HasExcess`). These three exclude each other and leave no text out, and reading a text tells which
of them it is (`taint_reading`).
-/

namespace TaintSummary

namespace Taint

/-- The texts that are written for a taint: an empty value is left out, or written as nothing after `=`. -/
inductive WrittenAs : Taint → Text → Prop
  | key (key : Text) : WrittenAs ⟨key, [], none⟩ key
  | keyValue (key value : Text) : WrittenAs ⟨key, value, none⟩ (key ++ '=' :: value)
  | keyEffect (key : Text) (e : Effect) : WrittenAs ⟨key, [], some e⟩ (key ++ ':' :: e.name)
  | keyValueEffect (key value : Text) (e : Effect) :
      WrittenAs ⟨key, value, some e⟩ (key ++ '=' :: value ++ ':' :: e.name)

/-- The text has two `:` or more, or its effect is that of a name or missing and two `=` or more stand before it. -/
def HasExcess (text : Text) : Prop :=
  2 ≤ text.count ':' ∨
    ∃ before effect, text = before ++ effectPart effect ∧ before.count ':' = 0 ∧ 2 ≤ before.count '='

theorem writtenAs_iff {t : Taint} {text : Text} :
    t.WrittenAs text ↔ ∃ keyValue, HasKeyValue keyValue t ∧ text = keyValue ++ effectPart t.effect := by
  constructor
  · intro h
    cases h with
    | key => exact ⟨text, Or.inr ⟨rfl, rfl⟩, (List.append_nil text).symm⟩
    | keyValue k v => exact ⟨k ++ '=' :: v, Or.inl rfl, (List.append_nil _).symm⟩
    | keyEffect k e => exact ⟨k, Or.inr ⟨rfl, rfl⟩, rfl⟩
    | keyValueEffect k v e => exact ⟨k ++ '=' :: v, Or.inl rfl, rfl⟩
  · obtain ⟨key, value, effect⟩ := t
    rintro ⟨keyValue, hkv, rfl⟩
    rcases hkv with rfl | ⟨rfl, hvalue⟩
    · cases effect with
      | none => simpa [effectPart] using WrittenAs.keyValue key value
      | some e => exact .keyValueEffect key value e
    · simp only at hvalue
      subst hvalue
      cases effect with
      | none => simpa [effectPart] using WrittenAs.key keyValue
      | some e => exact .keyEffect keyValue e

/-- The texts from which a taint is read. -/
theorem parseBody_eq_ok_iff_writtenAs {malformed : SpecifierError} {text : Text} {t : Taint} :
    parseBody malformed text = .ok t ↔ t.WrittenAs text ∧ t.Avoids [':', '='] := by
  rw [writtenAs_iff, parseBody_eq_ok_iff]

/-- No key and value are read from a text exactly when it has two `=` or more. -/
theorem ofKeyValue?_eq_none_iff {text : Text} {e : Option Effect} : ofKeyValue? text e = none ↔ 2 ≤ text.count '=' := by
  have hlength := Text.length_pieces '=' text
  unfold ofKeyValue?
  rcases hp : Text.pieces '=' text with _ | ⟨key, _ | ⟨value, _ | ⟨third, more⟩⟩⟩ <;>
    rw [hp] at hlength <;> simp only [List.length_cons, List.length_nil] at hlength
  · omega
  · simp only [reduceCtorEq, false_iff]
    omega
  · simp only [reduceCtorEq, false_iff]
    omega
  · simp only [true_iff]
    omega

/-- Too many separators are the error. -/
theorem parseBody_of_hasExcess {malformed : SpecifierError} {text : Text} (h : HasExcess text) :
    parseBody malformed text = .error malformed := by
  rcases h with hcolons | ⟨before, effect, rfl, hcolon, hequals⟩
  · exact parseBody_of_two_le_count hcolons
  · rw [parseBody_append_effectPart (List.count_eq_zero.mp hcolon), ofKeyValue?_eq_none_iff.mpr hequals]
    rfl

/-- Every text is written for a taint, has a bad effect or has too many separators. -/
theorem written_or_hasBadEffect_or_hasExcess (text : Text) :
    (∃ t : Taint, t.WrittenAs text ∧ t.Avoids [':', '=']) ∨ (∃ name, HasBadEffect text name) ∨ HasExcess text := by
  rcases effectPart_or_hasBadEffect text with ⟨before, effect, rfl, hcolon⟩ | hbad | hcolons
  · cases hread : ofKeyValue? before effect with
    | none =>
      have hequals : 2 ≤ before.count '=' := ofKeyValue?_eq_none_iff.mp hread
      exact Or.inr (Or.inr (Or.inr ⟨before, effect, rfl, List.count_eq_zero.mpr hcolon, hequals⟩))
    | some t =>
      have hparse : parse (before ++ effectPart effect) = .ok t := by
        rw [parse, parseBody_append_effectPart hcolon, hread]
        rfl
      exact Or.inl ⟨t, parseBody_eq_ok_iff_writtenAs.mp hparse⟩
  · exact Or.inr (Or.inl hbad)
  · exact Or.inr (Or.inr (Or.inl hcolons))

/-- An error that is not about an effect comes of too many separators. -/
theorem hasExcess_of_parseBody_eq_error {malformed e : SpecifierError} {text : Text}
    (he : ∀ name, e ≠ .invalidEffect name) (h : parseBody malformed text = .error e) : HasExcess text := by
  rcases written_or_hasBadEffect_or_hasExcess text with ⟨t, ht⟩ | ⟨name, hname⟩ | hexcess
  · rw [parseBody_eq_ok_iff_writtenAs.mpr ht] at h
    cases h
  · rw [parseBody_of_hasBadEffect hname] at h
    exact absurd (Except.error.inj h).symm (he name)
  · exact hexcess

section Errors

variable {malformed : SpecifierError} (hmalformed : ∀ name, malformed ≠ .invalidEffect name) {text : Text}
include hmalformed

/-- A name is refused exactly when it is a bad effect. -/
theorem parseBody_eq_invalidEffect_iff {name : Text} :
    parseBody malformed text = .error (.invalidEffect name) ↔ HasBadEffect text name := by
  refine ⟨fun h => ?_, parseBody_of_hasBadEffect⟩
  rcases written_or_hasBadEffect_or_hasExcess text with ⟨t, ht⟩ | ⟨other, hother⟩ | hexcess
  · rw [parseBody_eq_ok_iff_writtenAs.mpr ht] at h
    cases h
  · rw [parseBody_of_hasBadEffect hother] at h
    cases h
    exact hother
  · rw [parseBody_of_hasExcess hexcess] at h
    exact absurd (Except.error.inj h) (hmalformed name)

/-- A text is malformed exactly when it has too many separators. -/
theorem parseBody_eq_malformed_iff : parseBody malformed text = .error malformed ↔ HasExcess text :=
  ⟨hasExcess_of_parseBody_eq_error hmalformed, parseBody_of_hasExcess⟩

end Errors

/-- What a text is, and what comes of reading it. -/
structure Reading (text : Text) : Prop where
  /-- A taint is read exactly when the text is written for it and its key and its value hold no separator. -/
  taint : ∀ t, parse text = .ok t ↔ t.WrittenAs text ∧ t.Avoids [':', '=']
  /-- A name is refused exactly when it is a bad effect, whatever stands before it. -/
  badEffect : ∀ name, parse text = .error (.invalidEffect name) ↔ HasBadEffect text name
  /-- The text is malformed exactly when it has too many separators. -/
  excess : parse text = .error (.malformed .taint text) ↔ HasExcess text
  /-- The message of a malformed text ends with the text. -/
  message : (SpecifierError.malformed .taint text).message = "invalid taint: ".toList ++ text
  /-- Every text is of one of the three kinds. -/
  covered : (∃ t : Taint, t.WrittenAs text ∧ t.Avoids [':', '=']) ∨ (∃ name, HasBadEffect text name) ∨ HasExcess text
  /-- A text that is written for a taint has no bad effect. -/
  not_badEffect : ∀ t : Taint, t.WrittenAs text ∧ t.Avoids [':', '='] → ∀ name, ¬HasBadEffect text name
  /-- A text that is written for a taint does not have too many separators. -/
  not_excess : ∀ t : Taint, t.WrittenAs text ∧ t.Avoids [':', '='] → ¬HasExcess text
  /-- A text with a bad effect does not count as one with too many separators. -/
  badEffect_not_excess : ∀ name, HasBadEffect text name → ¬HasExcess text

end Taint

/-- Reading tells of every text whether it is written for a taint, has a bad effect or has too many separators, and it is always
exactly one of these. -/
theorem taint_reading (text : Text) : Taint.Reading text := by
  have hmalformed : ∀ name, SpecifierError.malformed .taint text ≠ .invalidEffect name := fun name h => by cases h
  have hbad : ∀ name, Taint.parse text = .error (.invalidEffect name) ↔ Taint.HasBadEffect text name :=
    fun name => Taint.parseBody_eq_invalidEffect_iff hmalformed
  have hexcess : Taint.parse text = .error (.malformed .taint text) ↔ Taint.HasExcess text :=
    Taint.parseBody_eq_malformed_iff hmalformed
  have htaint : ∀ t, Taint.parse text = .ok t ↔ t.WrittenAs text ∧ t.Avoids [':', '='] :=
    fun t => Taint.parseBody_eq_ok_iff_writtenAs
  constructor
  case taint => exact htaint
  case badEffect => exact hbad
  case excess => exact hexcess
  case message =>
    have hprefix : "invalid ".toList ++ Noun.word .taint ++ ": ".toList = "invalid taint: ".toList := by decide +kernel
    exact congrArg (· ++ text) hprefix
  case covered => exact Taint.written_or_hasBadEffect_or_hasExcess text
  case not_badEffect =>
    intro t ht name hname
    have hread := (htaint t).mpr ht
    rw [(hbad name).mpr hname] at hread
    cases hread
  case not_excess =>
    intro t ht hmany
    have hread := (htaint t).mpr ht
    rw [hexcess.mpr hmany] at hread
    cases hread
  case badEffect_not_excess =>
    intro name hname hmany
    have hread := (hbad name).mpr hname
    rw [hexcess.mpr hmany] at hread
    cases hread

/-- The effect is looked at before the `=` are counted. -/
example : Taint.parse "a=b=c:Bad".toList = .error (.invalidEffect "Bad".toList) := by rfl

end TaintSummary
