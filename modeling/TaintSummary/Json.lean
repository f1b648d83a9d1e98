import TaintSummary.SortedMap
import TaintSummary.Text

/-!
# JSON values

A value as it is written: an object keeps its members in the order of the text, repeated names included. Looking a member up
takes the last one of the name, and `canonical` is the value with each name once, in order.
-/

namespace TaintSummary

/-- A number other than an integer of 64 bits, as `digits · 10 ^ exponent`. -/
structure Decimal where
  negative : Bool
  digits : Nat
  exponent : Int
  deriving DecidableEq

/-- A JSON value. -/
inductive Json
  | null
  | bool (value : Bool)
  /-- A number written without fraction and exponent that fits a signed or unsigned 64 bit integer. -/
  | integer (value : Int)
  /-- Any other number. -/
  | decimal (value : Decimal)
  | string (value : Text)
  | array (items : List Json)
  | object (members : List (Text × Json))

namespace Json

/-- The values of the members with the name, in order. -/
def named (name : Text) (members : List (Text × Json)) : List Json :=
  (members.filter fun m => m.1 = name).map Prod.snd

/-- The value of the last member with the name. -/
def member? (name : Text) (members : List (Text × Json)) : Option Json :=
  (members.reverse.find? fun m => m.1 = name).map Prod.snd

/-- The member of an object; `none` when there is none or the value is no object. -/
def get? (name : Text) : Json → Option Json
  | .object members => member? name members
  | _ => none

/-- The value at the end of a path of member names. -/
def follow? : List Text → Json → Option Json
  | [], j => some j
  | name :: path, j => (get? name j).bind (follow? path)

/-- The text of a string. -/
def string? : Json → Option Text
  | .string t => some t
  | _ => none

/-- The items of an array. -/
def array? : Json → Option (List Json)
  | .array items => some items
  | _ => none

/-- The member is a string: its text; otherwise the empty text. -/
def textOf (name : Text) (j : Json) : Text := ((get? name j).bind string?).getD []

mutual

/-- The value with the members of each object in order of their names, of each name the last one. -/
def canonical : Json → Json
  | .array items => .array (canonicalItems items)
  | .object members => .object (SortedMap.ofList (canonicalMembers members)).entries
  | j => j
  termination_by structural j => j

/-- The items, each canonical. -/
def canonicalItems : List Json → List Json
  | [] => []
  | j :: rest => canonical j :: canonicalItems rest
  termination_by structural items => items

/-- The members, each value canonical. -/
def canonicalMembers : List (Text × Json) → List (Text × Json)
  | [] => []
  | (name, j) :: rest => (name, canonical j) :: canonicalMembers rest
  termination_by structural members => members

end

end Json

end TaintSummary
