import TaintSummary.Json.Parser
import TaintSummary.Timestamp

/-!
# Shapes of JSON values

What a field of an API object may hold. An object fits a record when every member whose name the record knows fits the shape
of that name; other members are free, and no member is required. Reading a text by its shape passes over the values that the shape
leaves free: they have to be well formed, and need not stand for anything.
-/

namespace TaintSummary

/-- A set of JSON values. -/
inductive Shape
  | any
  | text
  /-- The one text. -/
  | exactly (t : Text)
  | bool
  /-- A signed 64 bit integer. -/
  | int64
  | timestamp
  /-- Also null. -/
  | optional (s : Shape)
  | list (s : Shape)
  /-- An object with values of one shape. -/
  | map (s : Shape)
  /-- An object with these fields; other members are passed over. -/
  | record (fields : List (Text × Shape))
  /-- An object with these fields; other members are read with them. -/
  | openRecord (fields : List (Text × Shape))

namespace Shape

/-- Fields that may each be null. -/
def options (fields : List (String × Shape)) : Shape :=
  .record (fields.map fun f => (f.1.toList, .optional f.2))

/-- The shape of a record's field; any value for a name it does not know. -/
def field (fields : List (Text × Shape)) (name : Text) : Shape :=
  ((fields.find? fun f => f.1 = name).map Prod.snd).getD .any

/-- The shape of a value that is not null. -/
def required : Shape → Shape
  | .optional s => required s
  | s => s

/-- Null is one of the values. -/
def allowsNull : Shape → Bool
  | .any => true
  | .optional _ => true
  | _ => false

/-- A number that is not an integer is one of the values. -/
def allowsDecimal : Shape → Bool
  | .any => true
  | _ => false

/-- Some object is one of the values. -/
def allowsObject : Shape → Bool
  | .any => true
  | .map _ => true
  | .record _ => true
  | .openRecord _ => true
  | _ => false

/-- The shape of an object's member. -/
def member (name : Text) : Shape → Option Shape
  | .any => some .any
  | .map s => some s
  | .record fields => some (field fields name)
  | .openRecord fields => some (field fields name)
  | _ => none

/-- A member with the name is passed over. -/
def passesOver (name : Text) : Shape → Bool
  | .record fields => !fields.any fun f => f.1 = name
  | _ => false

/-- The shape of an array's items. -/
def item : Shape → Option Shape
  | .any => some .any
  | .list s => some s
  | _ => none

/-- Signed integers of 64 bits are below it, and not below its negative. -/
def int64Bound : Int := 9223372036854775808

mutual

/-- The value is one of the shape's. -/
def fits (s : Shape) : Json → Bool
  | .null => s.allowsNull
  | .bool _ =>
    match s.required with
    | .any => true
    | .bool => true
    | _ => false
  | .integer n =>
    match s.required with
    | .any => true
    | .int64 => -int64Bound ≤ n && n < int64Bound
    | _ => false
  | .decimal _ => s.required.allowsDecimal
  | .string t =>
    match s.required with
    | .any => true
    | .text => true
    | .exactly u => t = u
    | .timestamp => Timestamp.isTimestamp t
    | _ => false
  | .array items =>
    match s.required.item with
    | some s => fitItems s items
    | none => false
  | .object members => s.required.allowsObject && fitMembers s.required members
  termination_by structural j => j

/-- Every item fits. -/
def fitItems (s : Shape) : List Json → Bool
  | [] => true
  | j :: rest => fits s j && fitItems s rest
  termination_by structural items => items

/-- Every member fits the shape its name has in the object's shape. -/
def fitMembers (s : Shape) : List (Text × Json) → Bool
  | [] => true
  | (name, j) :: rest => (s.member name).any (fits · j) && fitMembers s rest
  termination_by structural members => members

end

mutual

/-- The written value without the members that are passed over. A member whose name stands for nothing stays. -/
def known (s : Shape) : Json.Written → Json.Written
  | .array items =>
    match s.required.item with
    | some s => .array (knownItems s items)
    | none => .array items
  | .object members => .object (knownMembers s.required members)
  | w => w
  termination_by structural w => w

/-- The items, each without the members that are passed over. -/
def knownItems (s : Shape) : List Json.Written → List Json.Written
  | [] => []
  | w :: rest => known s w :: knownItems s rest
  termination_by structural items => items

/-- The members that are not passed over. -/
def knownMembers (s : Shape) : List (Json.StringLiteral × Json.Written) → List (Json.StringLiteral × Json.Written)
  | [] => []
  | (literal, w) :: rest =>
    match literal.text? with
    | some name =>
      if s.passesOver name then knownMembers s rest
      else (literal, known ((s.member name).getD .any) w) :: knownMembers s rest
    | none => (literal, w) :: knownMembers s rest
  termination_by structural members => members

end

/-- What a text stands for, but for what the shape passes over. -/
def parse (s : Shape) (t : Text) : Option Json := (Json.Written.parse t).bind fun w => (s.known w).value? Json.depthLimit

end Shape

end TaintSummary
