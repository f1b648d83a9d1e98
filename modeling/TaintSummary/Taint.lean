import TaintSummary.Effect

/-!
# Taints

A taint is a key, a value and perhaps an effect. Its specifier is `key[=value][:effect]`, empty parts left out. The effect is
checked before the key and the value are separated.
-/

namespace TaintSummary

/-- A mark on a node. -/
structure Taint where
  key : Text
  value : Text
  effect : Option Effect
  deriving DecidableEq

namespace Taint

/-- The specifier of the taint. -/
def print (t : Taint) : Text :=
  t.key ++ (if t.value = [] then [] else '=' :: t.value) ++
    (match t.effect with
      | some e => ':' :: e.name
      | none => [])

/-- The taint with the effect whose key and value are written in `text`; `none` when `text` has two `=` or more. -/
def ofKeyValue? (text : Text) (effect : Option Effect) : Option Taint :=
  match Text.pieces '=' text with
  | [key] => some ⟨key, [], effect⟩
  | [key, value] => some ⟨key, value, effect⟩
  | _ => none

/-- The taint written in `body`. Should `body` have too many separators, `malformed` is the error. -/
def parseBody (malformed : SpecifierError) (body : Text) : Except SpecifierError Taint :=
  let ofKeyValue (text : Text) (effect : Option Effect) : Except SpecifierError Taint :=
    match ofKeyValue? text effect with
    | some t => .ok t
    | none => .error malformed
  match Text.pieces ':' body with
  | [keyValue] => ofKeyValue keyValue none
  | [keyValue, effect] => (Effect.ofName effect).bind fun e => ofKeyValue keyValue (some e)
  | _ => .error malformed

/-- The taint of a specifier. -/
def parse (text : Text) : Except SpecifierError Taint := parseBody (.malformed .taint text) text

end Taint

end TaintSummary
