import TaintSummary.Json.Written

/-!
# Reading JSON

`Written.parse` reads a whole text as one value, and `Json.parse` as what that value stands for. A value may hold others 127
deep; objects keep repeated names.
-/

namespace TaintSummary.Json

/-- Arrays and objects may stand in one another this deep. -/
def depthLimit : Nat := 127

namespace Written

/-- The text after its leading JSON white space. -/
def skipBlank : Text → Text
  | [] => []
  | c :: rest => if c = ' ' ∨ c = '\n' ∨ c = '\t' ∨ c = '\r' then skipBlank rest else c :: rest

mutual

/-- The value at the start of the text, and the text after it. `fuel` bounds the recursion. -/
def read? : (fuel : Nat) → Text → Option (Written × Text)
  | 0, _ => none
  | fuel + 1, t =>
    match skipBlank t with
    | '"' :: rest => (StringLiteral.read? rest).map fun (s, r) => (.string s, r)
    | '[' :: rest =>
      match skipBlank rest with
      | ']' :: rest => some (.array [], rest)
      | rest => (readItems? fuel rest).map fun (items, r) => (.array items, r)
    | '{' :: rest =>
      match skipBlank rest with
      | '}' :: rest => some (.object [], rest)
      | rest => (readMembers? fuel rest).map fun (members, r) => (.object members, r)
    | 'n' :: 'u' :: 'l' :: 'l' :: rest => some (.null, rest)
    | 't' :: 'r' :: 'u' :: 'e' :: rest => some (.bool true, rest)
    | 'f' :: 'a' :: 'l' :: 's' :: 'e' :: rest => some (.bool false, rest)
    | t => (NumberLiteral.read? t).map fun (n, r) => (.number n, r)
  termination_by structural fuel => fuel

/-- Items up to the closing bracket. -/
def readItems? : (fuel : Nat) → Text → Option (List Written × Text)
  | 0, _ => none
  | fuel + 1, t =>
    (read? fuel t).bind fun (item, rest) =>
      match skipBlank rest with
      | ',' :: rest => (readItems? fuel rest).map fun (items, r) => (item :: items, r)
      | ']' :: rest => some ([item], rest)
      | _ => none
  termination_by structural fuel => fuel

/-- Members up to the closing brace. -/
def readMembers? : (fuel : Nat) → Text → Option (List (StringLiteral × Written) × Text)
  | 0, _ => none
  | fuel + 1, t =>
    match skipBlank t with
    | '"' :: rest =>
      (StringLiteral.read? rest).bind fun (name, rest) =>
        match skipBlank rest with
        | ':' :: rest =>
          (read? fuel rest).bind fun (value, rest) =>
            match skipBlank rest with
            | ',' :: rest => (readMembers? fuel rest).map fun (members, r) => ((name, value) :: members, r)
            | '}' :: rest => some ([(name, value)], rest)
            | _ => none
        | _ => none
    | _ => none
  termination_by structural fuel => fuel

end

/-- The value that the text is, blanks around it aside. Two steps for each character are enough. -/
def parse (t : Text) : Option Written :=
  (read? (2 * t.length + 2) t).bind fun (w, rest) => if skipBlank rest = [] then some w else none

end Written

/-- What the value stands for that the text is. -/
def parse (t : Text) : Option Json := (Written.parse t).bind (Written.value? depthLimit)

end TaintSummary.Json
