import TaintSummary.Json.Parser
import TaintSummary.Proofs.Json.Strings

/-!
# Spellings of a value

`Json.Spells j t` says that the text is a spelling of the value: the tokens of the value, with JSON white space between them as one
likes. A number has many spellings, and none is given here. Every spelling is read, with the rest of the text left open
(`Written.read?_of_spells`), so that a printer may put its blanks where it wants to (`Written.parse_of_spells`).
-/

namespace TaintSummary.Json

/-- The text is JSON white space. -/
def IsBlank (t : Text) : Prop := ∀ c ∈ t, c = ' ' ∨ c = '\n' ∨ c = '\t' ∨ c = '\r'

theorem isBlank_nil : IsBlank [] := fun _ h => nomatch h

mutual

/-- The text is a spelling of the value. -/
inductive Spells : Json → Text → Prop
  | null : Spells .null "null".toList
  | bool (b : Bool) : Spells (.bool b) (if b then "true".toList else "false".toList)
  | string (t : Text) : Spells (.string t) (stringText t)
  | emptyArray {blank : Text} : IsBlank blank → Spells (.array []) ('[' :: (blank ++ [']']))
  | array {items : List Json} {t : Text} : SpellsItems items t → Spells (.array items) ('[' :: t)
  | emptyObject {blank : Text} : IsBlank blank → Spells (.object []) ('{' :: (blank ++ ['}']))
  | object {members : List (Text × Json)} {t : Text} : SpellsMembers members t → Spells (.object members) ('{' :: t)
  /-- Blanks may stand before a value. -/
  | indented {blank t : Text} {j : Json} : IsBlank blank → Spells j t → Spells j (blank ++ t)

/-- The text is a spelling of the items and the closing bracket. -/
inductive SpellsItems : List Json → Text → Prop
  | last {j : Json} {t blank : Text} : Spells j t → IsBlank blank → SpellsItems [j] (t ++ (blank ++ [']']))
  | cons {j : Json} {items : List Json} {t blank u : Text} :
      Spells j t → IsBlank blank → SpellsItems items u → SpellsItems (j :: items) (t ++ (blank ++ ',' :: u))

/-- The text is a spelling of the members and the closing brace. -/
inductive SpellsMembers : List (Text × Json) → Text → Prop
  | last {name : Text} {j : Json} {before between t blank : Text} :
      IsBlank before → IsBlank between → Spells j t → IsBlank blank →
        SpellsMembers [(name, j)] (before ++ (stringText name ++ (between ++ ':' :: (t ++ (blank ++ ['}'])))))
  | cons {name : Text} {j : Json} {members : List (Text × Json)} {before between t blank u : Text} :
      IsBlank before → IsBlank between → Spells j t → IsBlank blank → SpellsMembers members u →
        SpellsMembers ((name, j) :: members) (before ++ (stringText name ++ (between ++ ':' :: (t ++ (blank ++ ',' :: u)))))

end

namespace Written

mutual

/-- The value as it is written; a number is left out. -/
def ofJson : Json → Written
  | .null => .null
  | .bool b => .bool b
  | .integer _ => .null
  | .decimal _ => .null
  | .string t => .string (.written t)
  | .array items => .array (ofItems items)
  | .object members => .object (ofMembers members)
  termination_by structural j => j

/-- The items as they are written. -/
def ofItems : List Json → List Written
  | [] => []
  | j :: rest => ofJson j :: ofItems rest
  termination_by structural items => items

/-- The members as they are written. -/
def ofMembers : List (Text × Json) → List (StringLiteral × Written)
  | [] => []
  | (name, j) :: rest => (.written name, ofJson j) :: ofMembers rest
  termination_by structural members => members

end

/-- White space in front is skipped. -/
theorem skipBlank_append {blank : Text} (h : IsBlank blank) (t : Text) : skipBlank (blank ++ t) = skipBlank t := by
  induction blank with
  | nil => rfl
  | cons c blank ih =>
    obtain ⟨hc, hblank⟩ := List.forall_mem_cons.mp h
    rw [List.cons_append, skipBlank, if_pos hc, ih hblank]

theorem skipBlank_skipBlank (t : Text) : skipBlank (skipBlank t) = skipBlank t := by
  induction t with
  | nil => rfl
  | cons c t ih =>
    rw [skipBlank]
    split
    · exact ih
    · next hc => rw [skipBlank, if_neg hc]

/-- Blanks before a value are passed over. -/
theorem read?_skipBlank (fuel : Nat) (t : Text) : read? fuel (skipBlank t) = read? fuel t := by
  cases fuel with
  | zero => rfl
  | succ fuel => simp only [read?, skipBlank_skipBlank]

/-- White space in front of items makes no difference. -/
theorem readItems?_skipBlank (fuel : Nat) (t : Text) : readItems? fuel (skipBlank t) = readItems? fuel t := by
  cases fuel with
  | zero => rfl
  | succ fuel => simp only [readItems?, read?_skipBlank]

theorem readMembers?_skipBlank (fuel : Nat) (t : Text) : readMembers? fuel (skipBlank t) = readMembers? fuel t := by
  cases fuel with
  | zero => rfl
  | succ fuel => simp only [readMembers?, skipBlank_skipBlank]

/-- White space in front of a value makes no difference. -/
theorem read?_append {blank : Text} (h : IsBlank blank) (fuel : Nat) (t : Text) : read? fuel (blank ++ t) = read? fuel t := by
  rw [← read?_skipBlank, skipBlank_append h, read?_skipBlank]

/-- The characters with which a value begins that is no number. -/
def starts : List Char := ['n', 't', 'f', '"', '[', '{']

/-- Blanks aside, a spelling begins like a value. -/
theorem skipBlank_of_spells : ∀ {j : Json} {t : Text}, Spells j t → ∀ rest, ∃ c ∈ starts, ∃ u, skipBlank (t ++ rest) = c :: u
  | _, _, .null, _ => ⟨_, by decide, _, rfl⟩
  | _, _, .bool true, _ => ⟨_, by decide, _, rfl⟩
  | _, _, .bool false, _ => ⟨_, by decide, _, rfl⟩
  | _, _, .string _, _ => ⟨_, by decide, _, rfl⟩
  | _, _, .emptyArray _, _ => ⟨_, by decide, _, rfl⟩
  | _, _, .array _, _ => ⟨_, by decide, _, rfl⟩
  | _, _, .emptyObject _, _ => ⟨_, by decide, _, rfl⟩
  | _, _, .object _, _ => ⟨_, by decide, _, rfl⟩
  | _, _, .indented hblank h, rest => by
    rw [List.append_assoc, skipBlank_append hblank]
    exact skipBlank_of_spells h rest

/-- Items begin with a character that begins a value, after white space. -/
theorem skipBlank_of_spellsItems {items : List Json} {t : Text} (h : SpellsItems items t) (rest : Text) :
    ∃ c ∈ starts, ∃ u, skipBlank (t ++ rest) = c :: u := by
  cases h with
  | last h _ =>
    rw [List.append_assoc]
    exact skipBlank_of_spells h _
  | cons h _ _ =>
    rw [List.append_assoc]
    exact skipBlank_of_spells h _

/-- A spelling of members begins with the quote of a name. -/
theorem skipBlank_of_spellsMembers {members : List (Text × Json)} {t : Text} (h : SpellsMembers members t) (rest : Text) :
    ∃ u, skipBlank (t ++ rest) = '"' :: u := by
  cases h with
  | last hbefore _ _ _ =>
    rw [List.append_assoc, skipBlank_append hbefore]
    exact ⟨_, rfl⟩
  | cons hbefore _ _ _ _ =>
    rw [List.append_assoc, skipBlank_append hbefore]
    exact ⟨_, rfl⟩

/-- After blanks the next token is met. -/
theorem skipBlank_token {blank : Text} (h : IsBlank blank) {c : Char} (hc : c ∈ [',', ':', ']', '}']) (rest : Text) :
    skipBlank (blank ++ c :: rest) = c :: rest := by
  rw [skipBlank_append h]
  simp only [List.mem_cons, List.not_mem_nil, or_false] at hc
  rcases hc with rfl | rfl | rfl | rfl <;> rfl

/-- After blanks the quote of a name is met. -/
theorem skipBlank_quote (name : Text) {blank : Text} (h : IsBlank blank) (rest : Text) :
    skipBlank (blank ++ (stringText name ++ rest)) = '"' :: (name.flatMap escape ++ '"' :: rest) := by
  rw [skipBlank_append h]
  simp [stringText, skipBlank]

/-- An array is read item by item when something begins after the bracket. -/
theorem read?_bracket {c : Char} {t u rest : Text} {items : List Written} {fuel : Nat} (hc : c ∈ starts)
    (hskip : skipBlank t = c :: u) (hitems : readItems? fuel t = some (items, rest)) :
    read? (fuel + 1) ('[' :: t) = some (.array items, rest) := by
  have hbracket : skipBlank ('[' :: t) = '[' :: t := rfl
  rw [← readItems?_skipBlank, hskip] at hitems
  rw [read?, hbracket]
  simp only [hskip]
  simp only [starts, List.mem_cons, List.not_mem_nil, or_false] at hc
  rcases hc with rfl | rfl | rfl | rfl | rfl | rfl <;> simp [hitems]

/-- An object is read member by member when a name begins after the brace. -/
theorem read?_brace {t u rest : Text} {members : List (StringLiteral × Written)} {fuel : Nat}
    (hskip : skipBlank t = '"' :: u) (hmembers : readMembers? fuel t = some (members, rest)) :
    read? (fuel + 1) ('{' :: t) = some (.object members, rest) := by
  have hbrace : skipBlank ('{' :: t) = '{' :: t := rfl
  rw [← readMembers?_skipBlank, hskip] at hmembers
  rw [read?, hbrace]
  simp [hskip, hmembers]

section Sequences

variable {t u rest : Text} {w : Written} {fuel : Nat} (hvalue : read? fuel t = some (w, u))

include hvalue

/-- The item before the closing bracket is the last one. -/
theorem readItems?_last (hnext : skipBlank u = ']' :: rest) : readItems? (fuel + 1) t = some ([w], rest) := by
  rw [readItems?, hvalue]
  simp [hnext]

/-- The item before a comma is followed by more. -/
theorem readItems?_more {items : List Written} {after : Text} (hnext : skipBlank u = ',' :: rest)
    (hmore : readItems? fuel rest = some (items, after)) : readItems? (fuel + 1) t = some (w :: items, after) := by
  rw [readItems?, hvalue]
  simp [hnext, hmore]

variable {name before between : Text} (hbefore : IsBlank before) (hbetween : IsBlank between)

include hbefore hbetween

/-- The member before the closing brace is the last one. -/
theorem readMembers?_last (hnext : skipBlank u = '}' :: rest) :
    readMembers? (fuel + 1) (before ++ (stringText name ++ (between ++ ':' :: t))) = some ([(.written name, w)], rest) := by
  have hquote := skipBlank_quote name hbefore (between ++ ':' :: t)
  have hname := StringLiteral.read?_written name (between ++ ':' :: t)
  have hcolon := skipBlank_token hbetween (c := ':') (by decide) t
  rw [readMembers?, hquote]
  simp [hname, hcolon, hvalue, hnext]

/-- The member before a comma is followed by more. -/
theorem readMembers?_more {members : List (StringLiteral × Written)} {after : Text} (hnext : skipBlank u = ',' :: rest)
    (hmore : readMembers? fuel rest = some (members, after)) :
    readMembers? (fuel + 1) (before ++ (stringText name ++ (between ++ ':' :: t))) =
      some ((.written name, w) :: members, after) := by
  have hquote := skipBlank_quote name hbefore (between ++ ':' :: t)
  have hname := StringLiteral.read?_written name (between ++ ':' :: t)
  have hcolon := skipBlank_token hbetween (c := ':') (by decide) t
  rw [readMembers?, hquote]
  simp [hname, hcolon, hvalue, hnext, hmore]

end Sequences

mutual

/-- A spelling of a value is read as the value, by two steps for each character. -/
theorem read?_of_spells : ∀ {j : Json} {t : Text}, Spells j t → ∀ (fuel : Nat) (rest : Text), 2 * t.length ≤ fuel →
    read? fuel (t ++ rest) = some (ofJson j, rest)
  | _, _, .indented hblank h, fuel, rest, hfuel => by
    rw [List.length_append] at hfuel
    rw [List.append_assoc, read?_append hblank]
    exact read?_of_spells h fuel rest (by omega)
  | _, _, .null, fuel + 1, rest, _ => rfl
  | _, _, .bool true, fuel + 1, rest, _ => rfl
  | _, _, .bool false, fuel + 1, rest, _ => rfl
  | _, _, .string t, fuel + 1, rest, _ => by
    have hstring := StringLiteral.read?_written t rest
    simp [stringText, read?, skipBlank, hstring, ofJson]
  | _, _, .emptyArray hblank, fuel + 1, rest, _ => by
    simp [read?, skipBlank, skipBlank_append hblank, ofJson, ofItems]
  | _, _, .emptyObject hblank, fuel + 1, rest, _ => by
    simp [read?, skipBlank, skipBlank_append hblank, ofJson, ofMembers]
  | _, _, .array h, fuel + 1, rest, hfuel => by
    have hitems := readItems?_of_spells h fuel rest (by
      rw [List.length_cons] at hfuel
      omega)
    obtain ⟨c, hc, u, hskip⟩ := skipBlank_of_spellsItems h rest
    exact read?_bracket hc hskip hitems
  | _, _, .object h, fuel + 1, rest, hfuel => by
    have hmembers := readMembers?_of_spells h fuel rest (by
      rw [List.length_cons] at hfuel
      omega)
    obtain ⟨u, hskip⟩ := skipBlank_of_spellsMembers h rest
    exact read?_brace hskip hmembers
  termination_by structural _ _ h => h

/-- A spelling of items is read up to the closing bracket. -/
theorem readItems?_of_spells : ∀ {items : List Json} {t : Text}, SpellsItems items t → ∀ (fuel : Nat) (rest : Text),
    2 * t.length ≤ fuel → readItems? fuel (t ++ rest) = some (ofItems items, rest)
  | _, _, .last _ _, 0, _, hfuel => by simp at hfuel
  | _, _, .last h hblank, fuel + 1, rest, hfuel => by
    simp only [List.length_append, List.length_cons] at hfuel
    have hitem (u : Text) := read?_of_spells h fuel u (by omega)
    simp only [List.append_assoc, List.cons_append, List.nil_append]
    exact readItems?_last (hitem _) (skipBlank_token hblank (by decide) rest)
  | _, _, .cons _ _ _, 0, _, hfuel => by simp at hfuel
  | _, _, .cons h hblank hmore, fuel + 1, rest, hfuel => by
    simp only [List.length_append, List.length_cons] at hfuel
    have hitem (u : Text) := read?_of_spells h fuel u (by omega)
    have hitems := readItems?_of_spells hmore fuel rest (by omega)
    simp only [List.append_assoc, List.cons_append]
    exact readItems?_more (hitem _) (skipBlank_token hblank (by decide) _) hitems
  termination_by structural _ _ h => h

/-- A spelling of members is read up to the closing brace. -/
theorem readMembers?_of_spells : ∀ {members : List (Text × Json)} {t : Text}, SpellsMembers members t →
    ∀ (fuel : Nat) (rest : Text), 2 * t.length ≤ fuel → readMembers? fuel (t ++ rest) = some (ofMembers members, rest)
  | _, _, .last _ _ _ _, 0, _, hfuel => by simp at hfuel
  | _, _, .last hbefore hbetween h hblank, fuel + 1, rest, hfuel => by
    simp only [List.length_append, List.length_cons] at hfuel
    have hvalue (u : Text) := read?_of_spells h fuel u (by omega)
    simp only [List.append_assoc, List.cons_append, List.nil_append]
    exact readMembers?_last (hvalue _) hbefore hbetween (skipBlank_token hblank (by decide) rest)
  | _, _, .cons _ _ _ _ _, 0, _, hfuel => by simp at hfuel
  | _, _, .cons hbefore hbetween h hblank hmore, fuel + 1, rest, hfuel => by
    simp only [List.length_append, List.length_cons] at hfuel
    have hvalue (u : Text) := read?_of_spells h fuel u (by omega)
    have hmembers := readMembers?_of_spells hmore fuel rest (by omega)
    simp only [List.append_assoc, List.cons_append]
    exact readMembers?_more (hvalue _) hbefore hbetween (skipBlank_token hblank (by decide) _) hmembers
  termination_by structural _ _ h => h

end

/-- A spelling of a value, with blanks after it, is the value as it is written. -/
theorem parse_of_spells {j : Json} {t blank : Text} (h : Spells j t) (hblank : IsBlank blank) :
    parse (t ++ blank) = some (ofJson j) := by
  have hread := read?_of_spells h (2 * (t ++ blank).length + 2) blank (by
    rw [List.length_append]
    omega)
  have hrest : skipBlank blank = [] := by
    rw [← List.append_nil blank, skipBlank_append hblank]
    rfl
  rw [parse, hread, Option.bind_some]
  exact if_pos hrest

end Written

end TaintSummary.Json
