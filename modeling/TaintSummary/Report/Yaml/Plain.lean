import TaintSummary.Text.Hex

/-!
# Plain YAML scalars that are no strings

Which texts, written without quotes, stand for null, a truth value, an integer of up to 128 bits or a finite number.
-/

namespace TaintSummary.Yaml

/-- The text stands for null. -/
def readsAsNull (t : Text) : Bool :=
  t = [] || t = "null".toList || t = "Null".toList || t = "NULL".toList || t = ['~']

/-- The text stands for a truth value. -/
def readsAsBool (t : Text) : Bool :=
  ["true", "True", "TRUE", "false", "False", "FALSE"].any fun w => t = w.toList

/-- The text without a sign. -/
def unsigned : Text → Text
  | c :: rest => if c = '+' ∨ c = '-' then rest else c :: rest
  | [] => []

/-- Digits with a zero in front of others, whatever the sign: no number. -/
def isZeroPadded (t : Text) : Bool :=
  match unsigned t with
  | '0' :: c :: rest => (c :: rest).all Char.isDigit
  | _ => false

/-- The number that the text is in the base; at least one digit. -/
def inBase? (base : Nat) (t : Text) : Option Nat :=
  if t = [] then none
  else t.foldl (fun n c => do
    let n ← n
    let d ← Text.hexValue? c
    if d < base then return n * base + d else none) (some 0)

/-- The number behind a mark for its base, or in base ten. -/
def magnitude? : Text → Option Nat
  | '0' :: 'x' :: rest => inBase? 16 rest
  | '0' :: 'o' :: rest => inBase? 8 rest
  | '0' :: 'b' :: rest => inBase? 2 rest
  | t => if isZeroPadded t then none else inBase? 10 t

/-- The text stands for an integer of at most 128 bits. -/
def readsAsInteger : Text → Bool
  | '-' :: rest => (magnitude? rest).any (· ≤ Nat.pow 2 127)
  | '+' :: rest => (magnitude? rest).any (· < Nat.pow 2 128)
  | t => (magnitude? t).any (· < Nat.pow 2 128)

/-- A number that does not round to infinity: below the middle between the largest double and the next power of two. -/
def isFinite (digits : Text) (exponent : Int) : Bool :=
  let significant := digits.dropWhile (· = '0')
  let size : Int := significant.length + exponent
  if significant = [] ∨ size ≤ 308 then true
  else if 310 < size then false
  else
    match inBase? 10 significant with
    | some n => n * Nat.pow 10 exponent.toNat < (Nat.pow 2 54 - 1) * Nat.pow 2 970 * Nat.pow 10 (-exponent).toNat
    | none => false

/-- An exponent with its mark, or nothing. -/
def exponent? : Text → Option Int
  | [] => some 0
  | c :: rest =>
    if c = 'e' ∨ c = 'E' then
      (inBase? 10 (unsigned rest)).map fun n => if rest.head? = some '-' then -(n : Int) else n
    else none

/-- Digits, perhaps with a point and an exponent, that stand for a finite number. -/
def isFiniteDecimal (t : Text) : Bool :=
  let whole := t.takeWhile Char.isDigit
  let after := t.dropWhile Char.isDigit
  let (fraction, after) := match after with
    | '.' :: rest => (rest.takeWhile Char.isDigit, rest.dropWhile Char.isDigit)
    | _ => ([], after)
  match exponent? after with
  | some e => whole ++ fraction ≠ [] && isFinite (whole ++ fraction) (e - fraction.length)
  | none => false

/-- The text stands for a number, infinity and not-a-number included. -/
def readsAsFloat (t : Text) : Bool :=
  let positive := match t with
    | '+' :: rest => rest
    | _ => t
  [".inf", ".Inf", ".INF"].any (fun w => positive = w.toList)
    || ["-.inf", "-.Inf", "-.INF", ".nan", ".NaN", ".NAN"].any (fun w => t = w.toList)
    || isFiniteDecimal (unsigned t)

/-- Without quotes the text is no string, or could be taken for a number with a zero in front. -/
def isAmbiguous (t : Text) : Bool :=
  readsAsNull t || readsAsBool t || readsAsInteger t || isZeroPadded t || readsAsFloat t

end TaintSummary.Yaml
