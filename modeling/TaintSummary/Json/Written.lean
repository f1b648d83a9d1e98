import TaintSummary.Json.Literal

/-!
# Written JSON

A value as it is written: its form is known, and what it stands for is left open. `Written.value?` is what it stands for, if every
literal of it stands for something and it is not nested too deep. A reader that needs only a part of a value asks for that part
alone, and the rest may stand for nothing.
-/

namespace TaintSummary.Json

/-- A JSON value as it is written. -/
inductive Written
  | null
  | bool (value : Bool)
  | number (literal : NumberLiteral)
  | string (literal : StringLiteral)
  | array (items : List Written)
  | object (members : List (StringLiteral × Written))

namespace Written

mutual

/-- The value; arrays and objects may stand in one another `depth` deep. -/
def value? : (depth : Nat) → Written → Option Json
  | _, .null => some .null
  | _, .bool b => some (.bool b)
  | _, .number n => n.value?
  | _, .string s => s.text?.map .string
  | 0, .array _ => none
  | depth + 1, .array items => (itemValues? depth items).map .array
  | 0, .object _ => none
  | depth + 1, .object members => (memberValues? depth members).map .object
  termination_by structural _ w => w

/-- The values of the items. -/
def itemValues? : (depth : Nat) → List Written → Option (List Json)
  | _, [] => some []
  | depth, w :: rest => (value? depth w).bind fun j => (itemValues? depth rest).map (j :: ·)
  termination_by structural _ items => items

/-- The names and the values of the members. -/
def memberValues? : (depth : Nat) → List (StringLiteral × Written) → Option (List (Text × Json))
  | _, [] => some []
  | depth, (name, w) :: rest =>
    name.text?.bind fun name =>
      (value? depth w).bind fun j => (memberValues? depth rest).map ((name, j) :: ·)
  termination_by structural _ members => members

end

end Written

end TaintSummary.Json
