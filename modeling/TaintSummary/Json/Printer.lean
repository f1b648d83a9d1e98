import TaintSummary.Json.Number
import TaintSummary.Text.Hex

/-!
# Writing JSON

A value on one line, and a value over several lines, each nested item on a line of its own and indented by two.
-/

namespace TaintSummary.Json

/-- A character inside a string: quotes, backslashes and control characters are escaped. -/
def escape (c : Char) : Text :=
  if c = '"' then "\\\"".toList
  else if c = '\\' then "\\\\".toList
  else if c = '\x08' then "\\b".toList
  else if c = '\x0c' then "\\f".toList
  else if c = '\n' then "\\n".toList
  else if c = '\r' then "\\r".toList
  else if c = '\t' then "\\t".toList
  else if c.toNat < 0x20 then "\\u".toList ++ Text.hexPadded false 4 c.toNat
  else [c]

/-- A text as a JSON string. -/
def stringText (t : Text) : Text := '"' :: t.flatMap escape ++ ['"']

mutual

/-- The value without blanks, members in the order they have. -/
def render : Json → Text
  | .null => "null".toList
  | .bool true => "true".toList
  | .bool false => "false".toList
  | .integer n => integerText n
  | .decimal d => d.text
  | .string t => stringText t
  | .array items => '[' :: renderItems items
  | .object members => '{' :: renderMembers members
  termination_by structural j => j

/-- Items and the closing bracket. -/
def renderItems : List Json → Text
  | [] => [']']
  | [j] => render j ++ [']']
  | j :: rest => render j ++ ',' :: renderItems rest
  termination_by structural items => items

/-- Members and the closing brace. -/
def renderMembers : List (Text × Json) → Text
  | [] => ['}']
  | [(name, j)] => stringText name ++ ':' :: render j ++ ['}']
  | (name, j) :: rest => stringText name ++ ':' :: render j ++ ',' :: renderMembers rest
  termination_by structural members => members

end

/-- The value on one line, each name of an object once and in order. -/
def compact (j : Json) : Text := render (canonical j)

/-- A new line, indented for items at the depth. -/
def newLine (depth : Nat) : Text := '\n' :: Text.spaces (2 * depth)

mutual

/-- The value over several lines, its closing bracket indented for the depth. -/
def renderLines (depth : Nat) : Json → Text
  | .null => "null".toList
  | .bool true => "true".toList
  | .bool false => "false".toList
  | .integer n => integerText n
  | .decimal d => d.text
  | .string t => stringText t
  | .array [] => "[]".toList
  | .array items => '[' :: renderItemLines depth items
  | .object [] => ['{', '}']
  | .object members => '{' :: renderMemberLines depth members
  termination_by structural j => j

/-- Items, each on its line, and the closing bracket. -/
def renderItemLines (depth : Nat) : List Json → Text
  | [] => newLine depth ++ [']']
  | [j] => newLine (depth + 1) ++ renderLines (depth + 1) j ++ newLine depth ++ [']']
  | j :: rest => newLine (depth + 1) ++ renderLines (depth + 1) j ++ ',' :: renderItemLines depth rest
  termination_by structural items => items

/-- Members, each on its line, and the closing brace. -/
def renderMemberLines (depth : Nat) : List (Text × Json) → Text
  | [] => newLine depth ++ ['}']
  | [(name, j)] =>
    newLine (depth + 1) ++ stringText name ++ ": ".toList ++ renderLines (depth + 1) j ++ newLine depth ++ ['}']
  | (name, j) :: rest =>
    newLine (depth + 1) ++ stringText name ++ ": ".toList ++ renderLines (depth + 1) j ++
      ',' :: renderMemberLines depth rest
  termination_by structural members => members

end

/-- The value over several lines. -/
def pretty (j : Json) : Text := renderLines 0 j

end TaintSummary.Json
