import TaintSummary.Json.Shape
import TaintSummary.Proofs.Json.Spelling

/-!
# Reading printed values

What `Json.render` and `Json.pretty` print for a value without numbers is a spelling of it, so that it is read as the value as it is
written there (`Written.parse_render`, `parse_pretty`). A shape passes over none of it when it knows the names of all its members
(`known_ofJson`), so that reading the text by the shape gives the value as well (`Shape.parse_render`).
-/

namespace TaintSummary

namespace Json

mutual

/-- There is no number in the value, and its arrays and objects stand in one another at most so deep. -/
def isPlain : (depth : Nat) → Json → Bool
  | _, .integer _ => false
  | _, .decimal _ => false
  | 0, .array _ => false
  | depth + 1, .array items => itemsPlain depth items
  | 0, .object _ => false
  | depth + 1, .object members => membersPlain depth members
  | _, _ => true
  termination_by structural _ j => j

/-- The items are plain. -/
def itemsPlain : (depth : Nat) → List Json → Bool
  | _, [] => true
  | depth, j :: rest => isPlain depth j && itemsPlain depth rest
  termination_by structural _ items => items

/-- The values of the members are plain. -/
def membersPlain : (depth : Nat) → List (Text × Json) → Bool
  | _, [] => true
  | depth, (_, j) :: rest => isPlain depth j && membersPlain depth rest
  termination_by structural _ members => members

end

mutual

/-- What is printed on one line is a spelling of the value. -/
theorem spells_render : ∀ (j : Json) (depth : Nat), isPlain depth j = true → Spells j (render j)
  | .null, _, _ => .null
  | .bool true, _, _ => .bool true
  | .bool false, _, _ => .bool false
  | .integer _, _, h => by simp [isPlain] at h
  | .decimal _, _, h => by simp [isPlain] at h
  | .string t, _, _ => .string t
  | .array _, 0, h => by simp [isPlain] at h
  | .array [], _ + 1, _ => .emptyArray isBlank_nil
  | .array (j :: more), depth + 1, h => .array (spellsItems_renderItems (j :: more) depth h (by simp))
  | .object _, 0, h => by simp [isPlain] at h
  | .object [], _ + 1, _ => .emptyObject isBlank_nil
  | .object (m :: more), depth + 1, h => .object (spellsMembers_renderMembers (m :: more) depth h (by simp))
  termination_by structural j => j

/-- The items printed one after the other are a spelling of them. -/
theorem spellsItems_renderItems : ∀ (items : List Json) (depth : Nat), itemsPlain depth items = true → items ≠ [] →
    SpellsItems items (renderItems items)
  | [], _, _, hne => absurd rfl hne
  | [j], depth, h, _ => by
    obtain ⟨hj, -⟩ := Bool.and_eq_true_iff.mp h
    exact .last (spells_render j depth hj) isBlank_nil
  | j :: k :: more, depth, h, _ => by
    obtain ⟨hj, hmore⟩ := Bool.and_eq_true_iff.mp h
    exact .cons (spells_render j depth hj) isBlank_nil (spellsItems_renderItems (k :: more) depth hmore (by simp))
  termination_by structural items => items

/-- The members printed one after the other are a spelling of them. -/
theorem spellsMembers_renderMembers : ∀ (members : List (Text × Json)) (depth : Nat), membersPlain depth members = true →
    members ≠ [] → SpellsMembers members (renderMembers members)
  | [], _, _, hne => absurd rfl hne
  | [(name, j)], depth, h, _ => by
    obtain ⟨hj, -⟩ := Bool.and_eq_true_iff.mp h
    have hlast := @SpellsMembers.last name j [] [] _ [] isBlank_nil isBlank_nil (spells_render j depth hj) isBlank_nil
    simpa [renderMembers] using hlast
  | (name, j) :: m :: more, depth, h, _ => by
    obtain ⟨hj, hmore⟩ := Bool.and_eq_true_iff.mp h
    have hrest := spellsMembers_renderMembers (m :: more) depth hmore (by simp)
    have hcons := @SpellsMembers.cons name j _ [] [] _ [] _ isBlank_nil isBlank_nil (spells_render j depth hj) isBlank_nil hrest
    simpa [renderMembers] using hcons
  termination_by structural members => members

end

/-- A new line is white space. -/
theorem isBlank_newLine (depth : Nat) : IsBlank (newLine depth) := by
  intro c hc
  rcases List.mem_cons.mp hc with rfl | hc
  · exact Or.inr (Or.inl rfl)
  · exact Or.inl (List.eq_of_mem_replicate hc)

theorem isBlank_space : IsBlank [' '] := by simp [IsBlank]

mutual

/-- What is printed over several lines is a spelling of the value as well. -/
theorem spells_renderLines : ∀ (j : Json) (depth indent : Nat), isPlain depth j = true → Spells j (renderLines indent j)
  | .null, _, _, _ => .null
  | .bool true, _, _, _ => .bool true
  | .bool false, _, _, _ => .bool false
  | .integer _, _, _, h => by simp [isPlain] at h
  | .decimal _, _, _, h => by simp [isPlain] at h
  | .string t, _, _, _ => .string t
  | .array _, 0, _, h => by simp [isPlain] at h
  | .array [], _ + 1, _, _ => .emptyArray isBlank_nil
  | .array (j :: more), depth + 1, indent, h => .array (spellsItems_renderItemLines (j :: more) depth indent h (by simp))
  | .object _, 0, _, h => by simp [isPlain] at h
  | .object [], _ + 1, _, _ => .emptyObject isBlank_nil
  | .object (m :: more), depth + 1, indent, h =>
    .object (spellsMembers_renderMemberLines (m :: more) depth indent h (by simp))
  termination_by structural j => j

/-- The items printed on lines of their own are a spelling of them. -/
theorem spellsItems_renderItemLines : ∀ (items : List Json) (depth indent : Nat), itemsPlain depth items = true →
    items ≠ [] → SpellsItems items (renderItemLines indent items)
  | [], _, _, _, hne => absurd rfl hne
  | [j], depth, indent, h, _ => by
    obtain ⟨hj, -⟩ := Bool.and_eq_true_iff.mp h
    have hitem := Spells.indented (isBlank_newLine (indent + 1)) (spells_renderLines j depth (indent + 1) hj)
    have hlast := SpellsItems.last hitem (isBlank_newLine indent)
    rwa [← List.append_assoc] at hlast
  | j :: k :: more, depth, indent, h, _ => by
    obtain ⟨hj, hmore⟩ := Bool.and_eq_true_iff.mp h
    have hitem := Spells.indented (isBlank_newLine (indent + 1)) (spells_renderLines j depth (indent + 1) hj)
    exact .cons hitem isBlank_nil (spellsItems_renderItemLines (k :: more) depth indent hmore (by simp))
  termination_by structural items => items

/-- The members printed on lines of their own are a spelling of them. -/
theorem spellsMembers_renderMemberLines : ∀ (members : List (Text × Json)) (depth indent : Nat),
    membersPlain depth members = true → members ≠ [] → SpellsMembers members (renderMemberLines indent members)
  | [], _, _, _, hne => absurd rfl hne
  | [(name, j)], depth, indent, h, _ => by
    obtain ⟨hj, -⟩ := Bool.and_eq_true_iff.mp h
    have hvalue := Spells.indented isBlank_space (spells_renderLines j depth (indent + 1) hj)
    have hlast := @SpellsMembers.last name j _ [] _ _ (isBlank_newLine (indent + 1)) isBlank_nil hvalue (isBlank_newLine indent)
    simpa [renderMemberLines] using hlast
  | (name, j) :: m :: more, depth, indent, h, _ => by
    obtain ⟨hj, hmore⟩ := Bool.and_eq_true_iff.mp h
    have hvalue := Spells.indented isBlank_space (spells_renderLines j depth (indent + 1) hj)
    have hrest := spellsMembers_renderMemberLines (m :: more) depth indent hmore (by simp)
    have hcons := @SpellsMembers.cons name j _ _ [] _ [] _ (isBlank_newLine (indent + 1)) isBlank_nil hvalue isBlank_nil hrest
    simpa [renderMemberLines] using hcons
  termination_by structural members => members

end

namespace Written

/-- What is printed on one line is read as the value as it is written. -/
theorem parse_render {depth : Nat} {j : Json} (h : isPlain depth j = true) : parse (render j) = some (ofJson j) := by
  have hparse := parse_of_spells (spells_render j depth h) isBlank_nil
  rwa [List.append_nil] at hparse

mutual

/-- A value as it is written stands for the value. -/
theorem value?_ofJson : ∀ (j : Json) (depth : Nat), isPlain depth j = true → value? depth (ofJson j) = some j
  | .null, _, _ => rfl
  | .bool _, _, _ => rfl
  | .integer _, _, h => by simp [isPlain] at h
  | .decimal _, _, h => by simp [isPlain] at h
  | .string t, _, _ => by rw [ofJson, value?, StringLiteral.text?_written, Option.map_some]
  | .array items, 0, h => by simp [isPlain] at h
  | .array items, depth + 1, h => by rw [ofJson, value?, itemValues?_ofItems items depth h, Option.map_some]
  | .object members, 0, h => by simp [isPlain] at h
  | .object members, depth + 1, h => by rw [ofJson, value?, memberValues?_ofMembers members depth h, Option.map_some]
  termination_by structural j => j

/-- The items as they are written down have the items for their values. -/
theorem itemValues?_ofItems : ∀ (items : List Json) (depth : Nat), itemsPlain depth items = true →
    itemValues? depth (ofItems items) = some items
  | [], _, _ => rfl
  | j :: rest, depth, h => by
    obtain ⟨hj, hrest⟩ := Bool.and_eq_true_iff.mp h
    rw [ofItems, itemValues?, value?_ofJson j depth hj, itemValues?_ofItems rest depth hrest]
    rfl
  termination_by structural items => items

/-- The members as they are written down have the members for their values. -/
theorem memberValues?_ofMembers : ∀ (members : List (Text × Json)) (depth : Nat), membersPlain depth members = true →
    memberValues? depth (ofMembers members) = some members
  | [], _, _ => rfl
  | (name, j) :: rest, depth, h => by
    obtain ⟨hj, hrest⟩ := Bool.and_eq_true_iff.mp h
    rw [ofMembers, memberValues?, StringLiteral.text?_written, value?_ofJson j depth hj,
      memberValues?_ofMembers rest depth hrest]
    rfl
  termination_by structural members => members

end

end Written

/-- A value without numbers that is not nested too deep is read from the lines over which it is printed. -/
theorem parse_pretty {j : Json} (h : isPlain depthLimit j = true) : parse (pretty j) = some j := by
  have hparse := Written.parse_of_spells (spells_renderLines j depthLimit 0 h) isBlank_nil
  rw [List.append_nil] at hparse
  rw [parse, pretty, hparse, Option.bind_some, Written.value?_ofJson j depthLimit h]

end Json

namespace Shape

mutual

/-- The shape passes over no member of the value. -/
def knows (s : Shape) : Json → Bool
  | .array items =>
    match s.required.item with
    | some s => knowsItems s items
    | none => true
  | .object members => knowsMembers s.required members
  | _ => true
  termination_by structural j => j

/-- The shape passes over no member of the items. -/
def knowsItems (s : Shape) : List Json → Bool
  | [] => true
  | j :: rest => knows s j && knowsItems s rest
  termination_by structural items => items

/-- The shape passes over none of the members, nor over a member of their values. -/
def knowsMembers (s : Shape) : List (Text × Json) → Bool
  | [] => true
  | (name, j) :: rest => !s.passesOver name && knows ((s.member name).getD .any) j && knowsMembers s rest
  termination_by structural members => members

end

open Json Json.Written

mutual

/-- Nothing is left out of a value when the shape passes over no member of it. -/
theorem known_ofJson : ∀ (j : Json) (s : Shape), s.knows j = true → s.known (ofJson j) = ofJson j
  | .null, _, _ => rfl
  | .bool _, _, _ => rfl
  | .integer _, _, _ => rfl
  | .decimal _, _, _ => rfl
  | .string _, _, _ => rfl
  | .array items, s, h => by
    rw [knows] at h
    rw [ofJson, known]
    cases hitem : s.required.item with
    | none => rfl
    | some item =>
      rw [hitem] at h
      exact congrArg Written.array (knownItems_ofItems items item h)
  | .object members, s, h => by
    rw [ofJson, known, knownMembers_ofMembers members s.required h]
  termination_by structural j => j

/-- Nothing is left out of the items. -/
theorem knownItems_ofItems : ∀ (items : List Json) (s : Shape), s.knowsItems items = true →
    s.knownItems (ofItems items) = ofItems items
  | [], _, _ => rfl
  | j :: rest, s, h => by
    obtain ⟨hj, hrest⟩ := Bool.and_eq_true_iff.mp h
    rw [ofItems, knownItems, known_ofJson j s hj, knownItems_ofItems rest s hrest]
  termination_by structural items => items

/-- Nothing is left out of the members when the shape knows all their names. -/
theorem knownMembers_ofMembers : ∀ (members : List (Text × Json)) (s : Shape), s.knowsMembers members = true →
    s.knownMembers (ofMembers members) = ofMembers members
  | [], _, _ => rfl
  | (name, j) :: rest, s, h => by
    obtain ⟨hmember, hrest⟩ := Bool.and_eq_true_iff.mp h
    obtain ⟨hname, hj⟩ := Bool.and_eq_true_iff.mp hmember
    rw [Bool.not_eq_true'] at hname
    rw [ofMembers, knownMembers, StringLiteral.text?_written]
    simp only [hname, known_ofJson j _ hj, knownMembers_ofMembers rest s hrest]
    rfl
  termination_by structural members => members

end

/-- A rendered value is read by every shape that passes over no member of it. -/
theorem parse_render {s : Shape} {j : Json} (hplain : isPlain depthLimit j = true) (hknown : s.knows j = true) :
    s.parse (render j) = some j := by
  rw [parse, Written.parse_render hplain, Option.bind_some, known_ofJson j s hknown, value?_ofJson j _ hplain]

end Shape

end TaintSummary
