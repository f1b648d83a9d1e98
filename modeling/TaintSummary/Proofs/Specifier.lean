import TaintSummary.Proofs.Text.Pieces
import TaintSummary.Toleration

/-!
# Printing and reading specifiers

`Taint.parseBody_eq_ok_iff` gives the texts that are read as a taint, and `Toleration.unwrap?_eq_some_iff` the wrapper that is
looked for around them. A key or a value that is read never holds a character that the reader cuts at, so the taints and the
tolerations that survive printing and reading are exactly those without these characters (`parse_print_iff`).
-/

namespace TaintSummary

namespace Taint

/-- None of the characters stands in the key or in the value of the taint. -/
def Avoids (cs : List Char) (t : Taint) : Prop := ∀ c ∈ cs, c ∉ t.key ∧ c ∉ t.value

instance (cs : List Char) (t : Taint) : Decidable (t.Avoids cs) :=
  List.decidableBAll (fun c => c ∉ t.key ∧ c ∉ t.value) cs

/-- Avoiding more characters is avoiding fewer. -/
theorem Avoids.mono {cs ds : List Char} {t : Taint} (h : t.Avoids ds) (hsub : cs ⊆ ds) : t.Avoids cs :=
  fun c hc => h c (hsub hc)

/-- The text holds the key and the value of the taint: separated by `=`, or the key alone when the value is empty. -/
def HasKeyValue (text : Text) (t : Taint) : Prop := text = t.key ++ '=' :: t.value ∨ (text = t.key ∧ t.value = [])

/-- What a specifier says of an effect. -/
def effectPart : Option Effect → Text
  | some e => ':' :: e.name
  | none => []

/-- The name of an effect holds no separator, no parenthesis and no line feed. -/
theorem not_mem_name (e : Effect) : ∀ c ∈ [':', '=', '(', ')', '\n'], c ∉ e.name := by
  intro c hc
  simp only [List.mem_cons, List.not_mem_nil, or_false] at hc
  rcases hc with rfl | rfl | rfl | rfl | rfl <;> cases e <;> decide

/-- Nor does what is said of an effect hold more than `:`. -/
theorem not_mem_effectPart {c : Char} (hc : c ∈ ['=', '(', ')', '\n']) (effect : Option Effect) : c ∉ effectPart effect := by
  have hne : c ≠ ':' := by
    rintro rfl
    revert hc
    decide
  cases effect with
  | none => exact List.not_mem_nil
  | some e => exact List.not_mem_cons_of_ne_of_not_mem hne (not_mem_name e c (List.mem_cons_of_mem ':' hc))

/-- A key and a value without `=` are read from a text exactly when the text holds them. -/
theorem ofKeyValue?_eq_some_iff {text : Text} {e : Option Effect} {t : Taint} :
    ofKeyValue? text e = some t ↔ t.effect = e ∧ HasKeyValue text t ∧ t.Avoids ['='] := by
  obtain ⟨key, value, effect⟩ := t
  simp only [HasKeyValue, Avoids, List.mem_singleton, forall_eq]
  constructor
  · intro h
    unfold ofKeyValue? at h
    split at h
    · next k hp =>
      obtain ⟨rfl, hk⟩ := Text.pieces_eq_singleton_iff.mp hp
      simp only [Option.some.injEq, mk.injEq] at h
      obtain ⟨rfl, rfl, rfl⟩ := h
      exact ⟨rfl, Or.inr ⟨rfl, rfl⟩, hk, by simp⟩
    · next k v hp =>
      obtain ⟨rfl, hk, hv⟩ := Text.pieces_eq_pair_iff.mp hp
      simp only [Option.some.injEq, mk.injEq] at h
      obtain ⟨rfl, rfl, rfl⟩ := h
      exact ⟨rfl, Or.inl rfl, hk, hv⟩
    · simp at h
  · rintro ⟨rfl, rfl | ⟨rfl, rfl⟩, hk, hv⟩
    · rw [ofKeyValue?, Text.pieces_eq_pair_iff.mpr ⟨rfl, hk, hv⟩]
    · rw [ofKeyValue?, Text.pieces_eq_singleton_iff.mpr ⟨rfl, hk⟩]

/-- A character that a text does not hold stands in no key and no value that the text holds. -/
theorem HasKeyValue.not_mem {text : Text} {t : Taint} (h : HasKeyValue text t) {c : Char} (hc : c ∉ text) :
    c ∉ t.key ∧ c ∉ t.value := by
  rcases h with rfl | ⟨rfl, hv⟩
  · exact ⟨fun hk => hc (by simp [hk]), fun hv => hc (by simp [hv])⟩
  · exact ⟨hc, by simp [hv]⟩

/-- Conversely a text holds no other characters than the key, the value and `=`. -/
theorem HasKeyValue.not_mem_text {text : Text} {t : Taint} (h : HasKeyValue text t) {c : Char} (hc : c ≠ '=')
    (hk : c ∉ t.key) (hv : c ∉ t.value) : c ∉ text := by
  rcases h with rfl | ⟨rfl, -⟩
  · simp [hc, hk, hv]
  · exact hk

/-- After the only `:` of the text stands a name that no effect has. -/
def HasBadEffect (text name : Text) : Prop :=
  text.count ':' = 1 ∧ (∃ before, text = before ++ ':' :: name) ∧ ∀ e : Effect, name ≠ e.name

/-- A text ends with what is said of an effect, unless it has a bad effect or more than one `:`. -/
theorem effectPart_or_hasBadEffect (text : Text) :
    (∃ before effect, text = before ++ effectPart effect ∧ ':' ∉ before) ∨ (∃ name, HasBadEffect text name) ∨
      2 ≤ text.count ':' := by
  rcases hp : Text.pieces ':' text with _ | ⟨before, _ | ⟨name, _ | ⟨third, more⟩⟩⟩
  · exact absurd hp (Text.pieces_ne_nil ':' text)
  · obtain ⟨rfl, hcolon⟩ := Text.pieces_eq_singleton_iff.mp hp
    exact Or.inl ⟨text, none, (List.append_nil text).symm, hcolon⟩
  · obtain ⟨rfl, hbefore, hafter⟩ := Text.pieces_eq_pair_iff.mp hp
    by_cases hname : ∃ e : Effect, name = e.name
    · obtain ⟨e, rfl⟩ := hname
      exact Or.inl ⟨before, some e, rfl, hbefore⟩
    · have hone : (before ++ ':' :: name).count ':' = 1 := by
        rw [List.count_append, List.count_cons_self, List.count_eq_zero.mpr hbefore, List.count_eq_zero.mpr hafter]
      exact Or.inr (Or.inl ⟨name, hone, ⟨before, rfl⟩, fun e he => hname ⟨e, he⟩⟩)
  · have hlength := Text.length_pieces ':' text
    simp only [hp, List.length_cons] at hlength
    exact Or.inr (Or.inr (by omega))

/-- Once the effect is known, all depends on what stands before it. -/
theorem parseBody_append_effectPart {malformed : SpecifierError} {before : Text} {effect : Option Effect}
    (hcolon : ':' ∉ before) :
    parseBody malformed (before ++ effectPart effect) = (ofKeyValue? before effect).elim (.error malformed) .ok := by
  cases effect with
  | none =>
    have hp : Text.pieces ':' (before ++ effectPart none) = [before] :=
      Text.pieces_eq_singleton_iff.mpr ⟨List.append_nil before, hcolon⟩
    unfold parseBody
    cases hread : ofKeyValue? before none <;> simp [hp, hread]
  | some e =>
    have hp : Text.pieces ':' (before ++ effectPart (some e)) = [before, e.name] :=
      Text.pieces_eq_pair_iff.mpr ⟨rfl, hcolon, not_mem_name e ':' (by simp)⟩
    unfold parseBody
    cases hread : ofKeyValue? before (some e) <;> simp [hp, hread, Effect.ofName_name, Except.bind]

/-- The name of no effect is the error, whatever stands before it. -/
theorem parseBody_of_hasBadEffect {malformed : SpecifierError} {text name : Text} (h : HasBadEffect text name) :
    parseBody malformed text = .error (.invalidEffect name) := by
  obtain ⟨hone, ⟨before, rfl⟩, hname⟩ := h
  rw [List.count_append, List.count_cons_self] at hone
  have hbefore : ':' ∉ before := List.count_eq_zero.mp (by omega)
  have hafter : ':' ∉ name := List.count_eq_zero.mp (by omega)
  have herror : Effect.ofName name = .error (.invalidEffect name) := Effect.ofName_eq_error_iff.mpr ⟨rfl, hname⟩
  rw [parseBody, Text.pieces_eq_pair_iff.mpr ⟨rfl, hbefore, hafter⟩]
  simp [herror, Except.bind]

/-- More than one `:` is too many. -/
theorem parseBody_of_two_le_count {malformed : SpecifierError} {text : Text} (h : 2 ≤ text.count ':') :
    parseBody malformed text = .error malformed := by
  have hlength := Text.length_pieces ':' text
  unfold parseBody
  rcases hp : Text.pieces ':' text with _ | ⟨keyValue, _ | ⟨name, _ | ⟨third, more⟩⟩⟩
  · rfl
  · simp only [hp, List.length_cons, List.length_nil] at hlength
    omega
  · simp only [hp, List.length_cons, List.length_nil] at hlength
    omega
  · rfl

/-- The texts that are read as the taint: they hold its key and its value, and then its effect, and neither the key nor the value
holds a separator. -/
theorem parseBody_eq_ok_iff {malformed : SpecifierError} {text : Text} {t : Taint} :
    parseBody malformed text = .ok t ↔
      (∃ keyValue, HasKeyValue keyValue t ∧ text = keyValue ++ effectPart t.effect) ∧ t.Avoids [':', '='] := by
  constructor
  · intro h
    rcases effectPart_or_hasBadEffect text with ⟨before, effect, rfl, hcolon⟩ | ⟨name, hname⟩ | hcolons
    · rw [parseBody_append_effectPart hcolon] at h
      cases hread : ofKeyValue? before effect with
      | none => simp [hread] at h
      | some u =>
        rw [hread] at h
        cases h
        obtain ⟨rfl, hkv, hequals⟩ := ofKeyValue?_eq_some_iff.mp hread
        have hkey := hkv.not_mem hcolon
        exact ⟨⟨before, hkv, rfl⟩, by simpa [Avoids, hkey] using hequals⟩
    · rw [parseBody_of_hasBadEffect hname] at h
      cases h
    · rw [parseBody_of_two_le_count hcolons] at h
      cases h
  · rintro ⟨⟨kv, hkv, rfl⟩, ha⟩
    have hcolon : ':' ∉ kv := hkv.not_mem_text (by decide) (ha ':' (by simp)).1 (ha ':' (by simp)).2
    have hread : ofKeyValue? kv t.effect = some t := ofKeyValue?_eq_some_iff.mpr ⟨rfl, hkv, ha.mono (by simp)⟩
    rw [parseBody_append_effectPart hcolon, hread]
    rfl

/-- The specifier of a taint holds its key and its value, and then its effect. -/
theorem print_eq (t : Taint) : ∃ keyValue, HasKeyValue keyValue t ∧ t.print = keyValue ++ effectPart t.effect := by
  refine ⟨t.key ++ (if t.value = [] then [] else '=' :: t.value), ?_, ?_⟩
  · unfold HasKeyValue
    split
    · next hv => exact Or.inr ⟨List.append_nil _, hv⟩
    · exact Or.inl rfl
  · rw [print]
    cases t.effect <;> rfl

/-- A parenthesis or a line feed stands in the specifier of a taint only if it stands in its key or its value. -/
theorem not_mem_print {t : Taint} {c : Char} (hc : c ∈ ['(', ')', '\n']) (hkey : c ∉ t.key) (hvalue : c ∉ t.value) :
    c ∉ t.print := by
  obtain ⟨kv, hkv, heq⟩ := print_eq t
  have hne : c ≠ '=' := by
    rintro rfl
    revert hc
    decide
  rw [heq]
  simp [hkv.not_mem_text hne hkey hvalue, not_mem_effectPart (List.mem_cons_of_mem '=' hc)]

/-- The taints that survive printing and reading. -/
theorem parseBody_print_iff {malformed : SpecifierError} {t : Taint} :
    parseBody malformed t.print = .ok t ↔ t.Avoids [':', '='] := by
  rw [parseBody_eq_ok_iff]
  exact and_iff_right (print_eq t)

end Taint

namespace Toleration

/-- A wrapper is there when a `(` and a `)` after it come first of their kinds. -/
theorem unwrap?_eq_some_iff {text outer inner : Text} :
    unwrap? text = some (outer, inner) ↔
      ∃ rest, text = outer ++ '(' :: inner ++ ')' :: rest ∧ '(' ∉ outer ∧ ')' ∉ outer ∧ ')' ∉ inner := by
  constructor
  · intro h
    unfold unwrap? at h
    split at h
    · simp at h
    · next out after hopen =>
      obtain ⟨rfl, ho⟩ := Text.cut?_eq_some_iff.mp hopen
      split at h
      · simp at h
      · next hc =>
        obtain ⟨⟨inn, rest⟩, hclose, hpair⟩ := Option.map_eq_some_iff.mp h
        obtain ⟨rfl, hi⟩ := Text.cut?_eq_some_iff.mp hclose
        obtain ⟨rfl, rfl⟩ := Prod.mk.inj hpair
        exact ⟨rest, by simp, ho, hc, hi⟩
  · rintro ⟨rest, rfl, ho, hc, hi⟩
    have hopen : Text.cut? '(' (outer ++ '(' :: inner ++ ')' :: rest) = some (outer, inner ++ ')' :: rest) :=
      Text.cut?_eq_some_iff.mpr ⟨by simp, ho⟩
    have hclose : Text.cut? ')' (inner ++ ')' :: rest) = some (inner, rest) := Text.cut?_eq_some_iff.mpr ⟨rfl, hi⟩
    rw [unwrap?, hopen]
    simp only [if_neg hc, hclose, Option.map_some]

/-- The name of an operator names the operator. -/
theorem operatorOf_name (o : Operator) : operatorOf o.name = o := by
  cases o <;> decide

/-- The specifier of a toleration has a wrapper with the operator's name, and in it stands what comes first of the taint's
specifier, up to a `)`. -/
theorem split_print (t : Toleration) :
    ∃ inner, split t.print = (t.operator, inner) ∧ ')' ∉ inner ∧ (')' ∉ t.taint.print → inner = t.taint.print) := by
  have hname : '(' ∉ t.operator.name ∧ ')' ∉ t.operator.name := by
    cases t.operator <;> decide
  obtain ⟨⟨inner, rest⟩, hcut⟩ : ∃ p, Text.cut? ')' (t.taint.print ++ [')']) = some p := by
    rw [← Option.ne_none_iff_exists', ne_eq, Text.cut?_eq_none_iff]
    simp
  obtain ⟨heq, hi⟩ := Text.cut?_eq_some_iff.mp hcut
  have hprint : t.print = t.operator.name ++ '(' :: inner ++ ')' :: rest := by
    rw [print, List.append_assoc, List.cons_append, heq]
    simp
  refine ⟨inner, ?_, hi, fun h => ?_⟩
  · rw [split, unwrap?_eq_some_iff.mpr ⟨rest, hprint, hname.1, hname.2, hi⟩]
    simp only [operatorOf_name]
  · have hwhole : Text.cut? ')' (t.taint.print ++ [')']) = some (t.taint.print, []) :=
      Text.cut?_eq_some_iff.mpr ⟨rfl, h⟩
    rw [hcut] at hwhole
    exact congrArg Prod.fst (Option.some.inj hwhole)

/-- A toleration is read as its operator and, from what the wrapper holds, its taint. -/
theorem parse_eq_ok_iff {text : Text} {t : Toleration} :
    parse text = .ok t ↔
      (split text).1 = t.operator ∧ Taint.parseBody (.malformed .toleration text) (split text).2 = .ok t.taint := by
  obtain ⟨operator, taint⟩ := t
  rw [parse]
  cases Taint.parseBody (.malformed .toleration text) (split text).2 <;> simp [Except.map]

/-- A line feed stands in the specifier of a toleration only if it stands in the key or the value of its taint. -/
theorem not_mem_print {t : Toleration} (h : t.taint.Avoids ['\n']) : '\n' ∉ t.print := by
  obtain ⟨hkey, hvalue⟩ := h '\n' (by simp)
  have hname : '\n' ∉ t.operator.name := by cases t.operator <;> decide
  have htaint := Taint.not_mem_print (by simp) hkey hvalue
  simp [print, hname, htaint]

/-- The tolerations that survive printing and reading. -/
theorem parse_print_eq_ok_iff (t : Toleration) : parse t.print = .ok t ↔ t.taint.Avoids [':', '=', ')'] := by
  obtain ⟨inner, hsplit, hi, hwhole⟩ := split_print t
  rw [parse_eq_ok_iff, hsplit]
  constructor
  · rintro ⟨-, h⟩
    obtain ⟨⟨kv, hkv, rfl⟩, ha⟩ := Taint.parseBody_eq_ok_iff.mp h
    have hparen := hkv.not_mem fun hm => hi (List.mem_append_left _ hm)
    simpa [Taint.Avoids, hparen] using ha
  · intro h
    have hparen := h ')' (by simp)
    have hprint := hwhole (Taint.not_mem_print (by simp) hparen.1 hparen.2)
    have ha : t.taint.Avoids [':', '='] := h.mono (by simp)
    exact ⟨rfl, by rw [hprint]; exact Taint.parseBody_print_iff.mpr ha⟩

end Toleration

/-- Printing and then reading gives a taint back exactly when neither its key nor its value holds `:` or `=`, and a toleration
exactly when they do not hold `)` either. -/
theorem parse_print_iff :
    (∀ t : Taint, Taint.parse t.print = .ok t ↔ t.Avoids [':', '=']) ∧
      ∀ t : Toleration, Toleration.parse t.print = .ok t ↔ t.taint.Avoids [':', '=', ')'] :=
  ⟨fun _ => Taint.parseBody_print_iff, Toleration.parse_print_eq_ok_iff⟩

end TaintSummary
