import TaintSummary.Proofs.Specifier.Grammar
import TaintSummary.Proofs.Text.Trim

/-!
# The wrapper of a toleration specifier

A toleration is read from a taint specifier, with the operator that a wrapper around the specifier names. Where the wrapper stands
in a text is said by `Toleration.Wraps` alone, and what it names by `Toleration.NamesExists`; reading then comes down to reading the
taint (`toleration_reading`). Only the error of a malformed text shows what follows the wrapper.
-/

namespace TaintSummary

namespace Toleration

/-- The text is a wrapper around `inner`, with `outer` before it and `rest` after it. -/
def Wraps (text outer inner rest : Text) : Prop :=
  text = outer ++ '(' :: inner ++ ')' :: rest ∧ '(' ∉ outer ∧ ')' ∉ outer ∧ ')' ∉ inner

/-- The text has a wrapper. -/
def IsWrapped (text : Text) : Prop := ∃ outer inner rest, Wraps text outer inner rest

/-- But for white space around it, the text is the word `exists` in upper or lower case. -/
def NamesExists (outer : Text) : Prop :=
  ∃ before word after, outer = before ++ word ++ after ∧ Text.isBlank before = true ∧ Text.isBlank after = true ∧
    Text.eqIgnoringCase word "exists".toList = true

/-- A text is unwrapped at the parts of which it is put together. -/
theorem unwrap?_eq_some_iff_wraps {text outer inner : Text} :
    unwrap? text = some (outer, inner) ↔ ∃ rest, Wraps text outer inner rest := unwrap?_eq_some_iff

/-- A text has a wrapper in one way only. -/
theorem Wraps.unique {text outer inner rest outer' inner' rest' : Text} (h : Wraps text outer inner rest)
    (h' : Wraps text outer' inner' rest') : outer = outer' ∧ inner = inner' ∧ rest = rest' := by
  have hunwrap := unwrap?_eq_some_iff_wraps.mpr ⟨rest, h⟩
  rw [unwrap?_eq_some_iff_wraps.mpr ⟨rest', h'⟩] at hunwrap
  cases hunwrap
  refine ⟨rfl, rfl, ?_⟩
  have htext := h.1.symm.trans h'.1
  exact (List.cons.inj (List.append_cancel_left htext)).2

/-- What follows a wrapper may be anything. -/
theorem Wraps.append {text outer inner rest : Text} (h : Wraps text outer inner rest) (other : Text) :
    Wraps (outer ++ '(' :: inner ++ ')' :: other) outer inner other := ⟨rfl, h.2⟩

/-- A wrapped text tells its operator. -/
theorem split_of_wraps {text outer inner rest : Text} (h : Wraps text outer inner rest) :
    split text = (operatorOf outer, inner) := by
  rw [split, unwrap?_eq_some_iff_wraps.mpr ⟨rest, h⟩]

/-- A text that is not wrapped is meant as a whole, with the operator `equal`. -/
theorem split_of_not_isWrapped {text : Text} (h : ¬IsWrapped text) : split text = (.equal, text) := by
  have hnone : unwrap? text = none := by
    rw [Option.eq_none_iff_forall_not_mem]
    rintro ⟨outer, inner⟩ hmem
    obtain ⟨rest, hwraps⟩ := unwrap?_eq_some_iff_wraps.mp hmem
    exact h ⟨outer, inner, rest, hwraps⟩
  rw [split, hnone]

/-- Exactly the word `exists` names the operator. -/
theorem operatorOf_eq_exists_iff {outer : Text} : operatorOf outer = .exists ↔ NamesExists outer := by
  have hword : Text.eqIgnoringCase (Text.trim outer) Operator.exists.name =
      Text.eqIgnoringCase (Text.trim outer) "exists".toList := by
    have hlower : Operator.exists.name.map Char.toLower = "exists".toList.map Char.toLower := by decide +kernel
    rw [Text.eqIgnoringCase, Text.eqIgnoringCase, hlower]
  unfold operatorOf
  rw [hword]
  constructor
  · intro h
    -- what trimming leaves of `outer` is the word
    obtain ⟨before, after, htext, hbefore, hafter⟩ := Text.exists_eq_trim outer
    refine ⟨before, Text.trim outer, after, htext, hbefore, hafter, ?_⟩
    split at h
    · assumption
    · cases h
  · rintro ⟨before, word, after, rfl, hbefore, hafter, hnames⟩
    have hblank : ∀ c ∈ word, Unicode.isBlank c = false :=
      Text.not_isBlank_of_eqIgnoringCase hnames (by decide +kernel)
    have hne : word ≠ [] := by
      rintro rfl
      revert hnames
      decide +kernel
    rw [Text.trim_eq hbefore hafter hne hblank, if_pos hnames]

/-- The text is read with the operator, and its taint is read from `inner`. -/
structure ReadsAs (text : Text) (operator : Operator) (inner : Text) : Prop where
  /-- A toleration is read exactly when it has the operator and its taint is read. -/
  toleration : ∀ t, parse text = .ok t ↔ t.operator = operator ∧ Taint.parse inner = .ok t.taint
  /-- A name is refused exactly when it is refused as the effect of the taint. -/
  badEffect : ∀ name, parse text = .error (.invalidEffect name) ↔ Taint.parse inner = .error (.invalidEffect name)
  /-- The whole text is malformed exactly when the taint is. -/
  malformed : parse text = .error (.malformed .toleration text) ↔
    ∃ noun body, Taint.parse inner = .error (.malformed noun body)

/-- A text is read as its operator and its taint say. -/
theorem readsAs_of_split {text inner : Text} {operator : Operator} (h : split text = (operator, inner)) :
    ReadsAs text operator inner := by
  have hparse : parse text = (Taint.parseBody (.malformed .toleration text) inner).map (⟨operator, ·⟩) := by
    rw [parse, h]
  have herror : ∀ e, parse text = .error e ↔ Taint.parseBody (.malformed .toleration text) inner = .error e := by
    intro e
    rw [hparse]
    cases Taint.parseBody (.malformed .toleration text) inner <;> simp [Except.map]
  constructor
  case toleration =>
    intro t
    rw [parse_eq_ok_iff, h, Taint.parse, Taint.parseBody_eq_ok_iff_writtenAs, Taint.parseBody_eq_ok_iff_writtenAs]
    exact and_congr_left fun _ => eq_comm
  case badEffect =>
    intro name
    rw [herror, Taint.parse, Taint.parseBody_eq_invalidEffect_iff (by simp), Taint.parseBody_eq_invalidEffect_iff (by simp)]
  case malformed =>
    rw [herror, Taint.parseBody_eq_malformed_iff (by simp)]
    constructor
    · intro hexcess
      exact ⟨.taint, inner, Taint.parseBody_of_hasExcess hexcess⟩
    · rintro ⟨noun, body, hmalformed⟩
      exact Taint.hasExcess_of_parseBody_eq_error (by simp) hmalformed

/-- Where the wrapper of a text stands, and what comes of reading the text. -/
structure Reading (text : Text) : Prop where
  /-- A text has a wrapper in one way at most. -/
  unique : ∀ outer inner rest outer' inner' rest', Wraps text outer inner rest → Wraps text outer' inner' rest' →
    outer = outer' ∧ inner = inner' ∧ rest = rest'
  /-- A text with a wrapper is read with the operator that stands before the wrapper, and its taint from what stands in it. -/
  wrapped : ∀ outer inner rest, Wraps text outer inner rest →
    ∃ operator, (operator = .exists ↔ NamesExists outer) ∧ ReadsAs text operator inner
  /-- What follows the wrapper changes neither the toleration nor the effect that is refused. -/
  unaffected : ∀ outer inner rest other, Wraps text outer inner rest →
    (∀ t, parse (outer ++ '(' :: inner ++ ')' :: other) = .ok t ↔ parse text = .ok t) ∧
      ∀ name, parse (outer ++ '(' :: inner ++ ')' :: other) = .error (.invalidEffect name) ↔
        parse text = .error (.invalidEffect name)
  /-- A text without a wrapper is a taint specifier, and the operator is `equal`. -/
  bare : ¬IsWrapped text → ReadsAs text .equal text
  /-- The message of a malformed text ends with the whole text. -/
  message : (SpecifierError.malformed .toleration text).message = "invalid toleration: ".toList ++ text

end Toleration

/-- Reading a toleration is reading a taint: from what the one wrapper of the text holds, or from the whole text when it has no
wrapper. -/
theorem toleration_reading (text : Text) : Toleration.Reading text := by
  constructor
  case unique =>
    intro outer inner rest outer' inner' rest' h h'
    exact h.unique h'
  case wrapped =>
    intro outer inner rest h
    exact ⟨_, Toleration.operatorOf_eq_exists_iff, Toleration.readsAs_of_split (Toleration.split_of_wraps h)⟩
  case unaffected =>
    intro outer inner rest other h
    have hread := Toleration.readsAs_of_split (Toleration.split_of_wraps h)
    have hother := Toleration.readsAs_of_split (Toleration.split_of_wraps (h.append other))
    refine ⟨fun t => ?_, fun name => ?_⟩
    · rw [hother.toleration, hread.toleration]
    · rw [hother.badEffect, hread.badEffect]
  case bare =>
    intro h
    exact Toleration.readsAs_of_split (Toleration.split_of_not_isWrapped h)
  case message =>
    have hprefix : "invalid ".toList ++ Noun.word .toleration ++ ": ".toList = "invalid toleration: ".toList := by
      decide +kernel
    exact congrArg (· ++ text) hprefix

/-- White space and case do not matter to the operator, nor does what follows the wrapper. -/
example : Toleration.parse "EXISTS (key:NoExecute)=:".toList =
    .ok ⟨.exists, ⟨"key".toList, [], some .noExecute⟩⟩ := by rfl

end TaintSummary
