import TaintSummary.Proofs.Report.Yaml.Quoted

/-!
# YAML texts in each style

The first character of a written text shows its style (`scalar_eq_cons`). A text without quotes goes on up to a line feed or a
colon with a space, and a block up to a line that is neither empty nor indented like its own lines. So a text that is no block is
known from what is written where one of the former follows (`scalar_append_inj`), and any text where the line ends after it and the
next one is not indented like a block (`delimited_line`).
-/

namespace TaintSummary.Yaml

section Plain

/-- What ends a text without quotes: a line feed, or a colon with a space. -/
def EndsPlain (rest : Text) : Prop := rest.head? = some '\n' ∨ ∃ more, rest = ':' :: ' ' :: more

/-- What ends a text without quotes begins with a line feed or a colon and nothing else. -/
theorem EndsPlain.head?_ne {rest : Text} (h : EndsPlain rest) {c : Char} (hline : c ≠ '\n') (hcolon : c ≠ ':') :
    rest.head? ≠ some c := by
  rcases h with hhead | ⟨more, rfl⟩
  · rw [hhead]
    simpa using hline.symm
  · simpa using hcolon.symm

/-- What a text that begins with the character is like when it is written without quotes. -/
structure IsPlain (c : Char) (t : Text) : Prop where
  unbroken : ∀ d ∈ c :: t, isBreak d = false
  gap : isGap c = false
  start : startsWithMark (c :: t) = false
  inside : holdsMark c t = false

/-- A text is written without quotes only when nothing in it could be taken for a mark. -/
theorem isPlain_of_styleOf {t : Text} (h : styleOf t = .plain) : ∃ c u, t = c :: u ∧ IsPlain c u := by
  unfold styleOf at h
  split at h
  · split at h <;> cases h
  split at h
  · next hplain =>
    rw [Bool.and_eq_true] at hplain
    obtain ⟨hallowed, hambiguous⟩ := hplain
    cases t with
    | nil => exact absurd hambiguous (by decide)
    | cons c u =>
      simp only [plainAllowed, Bool.and_eq_true, Bool.not_eq_true', List.head?_cons, Option.any_some,
        List.any_eq_false, Bool.not_eq_true] at hallowed
      obtain ⟨⟨⟨⟨⟨⟨-, hbreak⟩, hgap⟩, -⟩, -⟩, hstart⟩, hinside⟩ := hallowed
      exact ⟨c, u, rfl, hbreak, hgap, hstart, hinside⟩
  · split at h <;> cases h

/-- A colon with a space is a mark wherever it stands in a text. -/
theorem holdsMark_colon (before : Char) (t u : Text) : holdsMark before (t ++ ':' :: ' ' :: u) = true := by
  induction t generalizing before with
  | nil => rfl
  | cons c t ih => rw [List.cons_append, holdsMark, ih, Bool.or_true]

/-- A text without quotes does not go on where one may end. -/
theorem IsPlain.eq_nil {c : Char} {t u rest rest' : Text} (h : IsPlain c (t ++ u)) (hrest : EndsPlain rest)
    (hrest' : EndsPlain rest') (heq : rest = u ++ rest') : u = [] := by
  cases u with
  | nil => rfl
  | cons d u =>
    exfalso
    rcases hrest with hhead | ⟨more, hmore⟩
    · obtain rfl : d = '\n' := by simpa [heq] using hhead
      exact absurd (h.unbroken '\n' (by simp)) (by decide)
    · rw [hmore] at heq
      obtain ⟨rfl, htail⟩ := List.cons.inj heq
      cases u with
      | nil =>
        -- the space would be the first character behind the other text
        exact hrest'.head?_ne (by decide) (by decide) (congrArg List.head? htail.symm)
      | cons e u =>
        obtain ⟨rfl, -⟩ := List.cons.inj htail
        exact Bool.eq_false_iff.mp h.inside (holdsMark_colon c t u)

/-- Texts without quotes are told apart where they may end. -/
theorem plain_append_inj {t t' rest rest' : Text} (ht : styleOf t = .plain) (ht' : styleOf t' = .plain) (hrest : EndsPlain rest)
    (hrest' : EndsPlain rest') (h : t ++ rest = t' ++ rest') : t = t' ∧ rest = rest' := by
  obtain ⟨c, u, rfl, hu⟩ := isPlain_of_styleOf ht
  obtain ⟨c', u', rfl, hu'⟩ := isPlain_of_styleOf ht'
  obtain ⟨rfl, htail⟩ := List.cons.inj h
  rcases List.append_eq_append_iff.mp htail with ⟨v, rfl, hv⟩ | ⟨v, rfl, hv⟩
  · obtain rfl := hu'.eq_nil hrest hrest' hv
    exact ⟨by rw [List.append_nil], hv⟩
  · obtain rfl := hu.eq_nil hrest' hrest hv
    exact ⟨by rw [List.append_nil], hv.symm⟩

end Plain

section Literal

/-- The next line does not belong to a block: it is not empty, and not indented like the lines of a block. -/
def EndsBlock (rest : Text) : Prop := rest.head?.any isBreak = false ∧ ¬indent <+: rest

/-- A line that is indented by two does not belong to a block. -/
theorem endsBlock_indented {c : Char} (h : c ≠ ' ') (rest : Text) : EndsBlock (' ' :: ' ' :: c :: rest) :=
  ⟨rfl, by simp [indent, Text.spaces, List.replicate, h.symm]⟩

/-- A further line of a block does not begin like what ends one. -/
theorem EndsBlock.ne_indentBefore {rest more : Text} {c : Char} (h : EndsBlock rest) :
    rest ≠ indentBefore true c ++ c :: more := by
  rintro rfl
  obtain ⟨hbreak, hindent⟩ := h
  cases hc : isBreak c with
  | true => simp [indentBefore, hc] at hbreak
  | false => simp [indentBefore, hc] at hindent

/-- A line of a block is indented at its first character, unless that ends it. -/
theorem literalBody_cons (atLineStart : Bool) (c : Char) (t : Text) :
    literalBody atLineStart (c :: t) = indentBefore atLineStart c ++ c :: literalBody (isBreak c) t := by
  rw [literalBody, indentBefore]
  cases isBreak c <;> simp

/-- Lines that are ended can be told from a line that follows them and does not belong to them. -/
theorem literalBody_append_inj {atLineStart : Bool} {t t' rest rest' : Text}
    (ht : t.getLast?.elim atLineStart isBreak = true) (ht' : t'.getLast?.elim atLineStart isBreak = true)
    (hrest : EndsBlock rest) (hrest' : EndsBlock rest')
    (h : literalBody atLineStart t ++ rest = literalBody atLineStart t' ++ rest') : t = t' ∧ rest = rest' := by
  have hlast : ∀ (b : Bool) (c : Char) (t : Text), (c :: t).getLast?.elim b isBreak = t.getLast?.elim (isBreak c) isBreak := by
    intro b c t
    rw [List.getLast?_cons]
    cases t.getLast? <;> rfl
  induction t generalizing atLineStart t' with
  | nil =>
    -- the line before has ended, so that whatever comes next begins a line
    obtain rfl : atLineStart = true := ht
    cases t' with
    | nil => exact ⟨rfl, h⟩
    | cons c' t' =>
      rw [literalBody_cons, List.append_assoc] at h
      exact absurd h hrest.ne_indentBefore
  | cons c t ih =>
    cases t' with
    | nil =>
      obtain rfl : atLineStart = true := ht'
      rw [literalBody_cons, List.append_assoc] at h
      exact absurd h.symm hrest'.ne_indentBefore
    | cons c' t' =>
      rw [literalBody_cons, literalBody_cons, List.append_assoc, List.append_assoc] at h
      obtain ⟨rfl, hmore⟩ := indentBefore_append_inj h
      rw [hlast] at ht ht'
      obtain ⟨rfl, hrests⟩ := ih ht ht' hmore
      exact ⟨rfl, hrests⟩

/-- The text with its last line ended. -/
def ended (t : Text) : Text := if t.getLast?.any isBreak then t else t ++ ['\n']

/-- Once the last line is ended, another line may begin. -/
theorem getLast?_ended (atLineStart : Bool) (t : Text) : (ended t).getLast?.elim atLineStart isBreak = true := by
  unfold ended
  split
  · next h =>
    cases hlast : t.getLast? with
    | none => simp [hlast] at h
    | some c => simpa [hlast] using h
  · rw [List.getLast?_concat]
    rfl

/-- A block is written with its last line ended by a line feed of its own where the text has none. -/
theorem literalBody_ended (t : Text) :
    literalBody true (ended t) = literalBody true t ++ if t.getLast?.any isBreak then [] else ['\n'] := by
  have hconcat : ∀ b, literalBody b (t ++ ['\n']) = literalBody b t ++ ['\n'] := by
    induction t with
    | nil => intro b; cases b <;> rfl
    | cons c t ih => intro b; rw [List.cons_append, literalBody_cons, literalBody_cons, ih, List.append_assoc, List.cons_append]
  unfold ended
  split
  · rw [List.append_nil]
  · exact hconcat true

/-- A block, its last line ended. -/
def block (t : Text) : Text := literalHead t ++ '\n' :: literalBody true (ended t)

/-- The head of a block is one line. -/
theorem lineFeed_notMem_literalHead (t : Text) : '\n' ∉ literalHead t := by
  unfold literalHead chomping
  repeat' split
  all_goals decide

/-- The head of a block shows whether its text ends with a break. -/
theorem hyphen_notMem_literalHead_iff (t : Text) : '-' ∉ literalHead t ↔ t.getLast?.any isBreak = true := by
  rw [literalHead, chomping, ← List.head?_reverse]
  cases t.reverse with
  | nil => simp
  | cons last before => cases hlast : isBreak last <;> simp [hlast]

/-- A block is told from what follows it when this does not belong to it. -/
theorem delimited_block : Text.Delimited block EndsBlock := by
  intro t t' rest rest' hrest hrest' h
  have hcut : ∀ t rest, Text.cut? '\n' (block t ++ rest) = some (literalHead t, literalBody true (ended t) ++ rest) := by
    intro t rest
    rw [Text.cut?_eq_some_iff, block, List.append_assoc, List.cons_append]
    exact ⟨rfl, lineFeed_notMem_literalHead t⟩
  have hparts := (hcut t rest).symm.trans ((congrArg (Text.cut? '\n') h).trans (hcut t' rest'))
  obtain ⟨hhead, hbody⟩ := Prod.mk.inj (Option.some.inj hparts)
  obtain ⟨hended, hrests⟩ := literalBody_append_inj (getLast?_ended true t) (getLast?_ended true t') hrest hrest' hbody
  -- the head tells which of the texts got a line feed at its end
  have hsame : t.getLast?.any isBreak = t'.getLast?.any isBreak := by
    rw [Bool.eq_iff_iff, ← hyphen_notMem_literalHead_iff, ← hyphen_notMem_literalHead_iff, hhead]
  unfold ended at hended
  rw [hsame] at hended
  split at hended
  · exact ⟨hended, hrests⟩
  · exact ⟨List.append_cancel_right hended, hrests⟩

end Literal

/-- The style of a text that is written with the character first. -/
def styleOfFirst (c : Char) : Style :=
  if c = '\x27' then .singleQuoted else if c = '"' then .doubleQuoted else if c = '|' then .literal else .plain

/-- The first character of what is written shows the style, and is none that stands in front of texts or for an empty record. -/
theorem scalar_eq_cons (t : Text) : ∃ c u, scalar t = c :: u ∧ styleOfFirst c = styleOf t ∧ c ≠ ' ' ∧ c ≠ '\x7b' := by
  unfold scalar
  cases hstyle : styleOf t with
  | singleQuoted => exact ⟨_, _, rfl, by decide⟩
  | doubleQuoted => exact ⟨_, _, rfl, by decide⟩
  | literal => exact ⟨_, _, rfl, by decide⟩
  | plain =>
    obtain ⟨c, u, rfl, hplain⟩ := isPlain_of_styleOf hstyle
    have hmark : c ∉ "#,[]\x7b\x7d&*!|>\x27\"%@\x60".toList := by
      have hstart := hplain.start
      simp only [startsWithMark, Bool.or_eq_false_iff, decide_eq_false_iff_not] at hstart
      exact hstart.1
    have hspace : c ≠ ' ' := fun h => absurd hplain.gap (by rw [h]; decide)
    simp only [String.reduceToList, List.mem_cons, not_or] at hmark
    exact ⟨c, u, rfl, by simp [styleOfFirst, hmark], hspace, by simp [hmark]⟩

/-- Texts that are written alike up to a point are written in the same style, since the first character shows it. -/
theorem styleOf_eq_of_append {t t' rest rest' : Text} (h : scalar t ++ rest = scalar t' ++ rest') : styleOf t = styleOf t' := by
  obtain ⟨c, u, ht, hstyle, -⟩ := scalar_eq_cons t
  obtain ⟨c', u', ht', hstyle', -⟩ := scalar_eq_cons t'
  rw [ht, ht'] at h
  rw [← hstyle, ← hstyle', (List.cons.inj h).1]

/-- Texts that are no blocks are told apart where a text without quotes may end. -/
theorem scalar_append_inj {t t' rest rest' : Text} (ht : styleOf t ≠ .literal) (hrest : EndsPlain rest)
    (hrest' : EndsPlain rest') (h : scalar t ++ rest = scalar t' ++ rest') : t = t' ∧ rest = rest' := by
  have hsame := styleOf_eq_of_append h
  unfold scalar at h
  rw [← hsame] at h
  cases hstyle : styleOf t with
  | literal => exact absurd hstyle ht
  | plain =>
    rw [hstyle] at h
    exact plain_append_inj hstyle (hsame ▸ hstyle) hrest hrest' h
  | singleQuoted =>
    simp only [hstyle, List.cons_append, List.cons.injEq, true_and] at h
    exact delimited_singleQuotedBody false (hrest.head?_ne (by decide) (by decide)) (hrest'.head?_ne (by decide) (by decide)) h
  | doubleQuoted =>
    simp only [hstyle, List.cons_append, List.append_assoc, List.cons.injEq, true_and] at h
    obtain ⟨rfl, hclosed⟩ := delimited_doubleQuoted rfl rfl h
    exact ⟨rfl, (List.cons.inj hclosed).2⟩

/-- A text and the end of its line. -/
def line (t : Text) : Text := scalar t ++ lineEnd t

/-- A text that is no block ends with the line on which it is written. -/
theorem line_of_ne_literal {t : Text} (h : styleOf t ≠ .literal) : line t = scalar t ++ ['\n'] := by
  rw [line, lineEnd]
  simp [h]

/-- A text that is a block is written with its last line ended. -/
theorem line_of_literal {t : Text} (h : styleOf t = .literal) : line t = block t := by
  rw [line, scalar, lineEnd, block, h, literalBody_ended]
  simp

/-- Whatever its style, a text is known from its line when the next one is not indented like a block. -/
theorem delimited_line : Text.Delimited line EndsBlock := by
  intro t t' rest rest' hrest hrest' h
  have hsame : styleOf t = styleOf t' := by
    rw [line, line, List.append_assoc, List.append_assoc] at h
    exact styleOf_eq_of_append h
  by_cases hstyle : styleOf t = .literal
  · rw [line_of_literal hstyle, line_of_literal (hsame ▸ hstyle)] at h
    exact delimited_block hrest hrest' h
  · rw [line_of_ne_literal hstyle, line_of_ne_literal (hsame ▸ hstyle), List.append_assoc, List.append_assoc] at h
    obtain ⟨rfl, hend⟩ := scalar_append_inj hstyle (Or.inl rfl) (Or.inl rfl) h
    exact ⟨rfl, (List.cons.inj hend).2⟩

end TaintSummary.Yaml
