import TaintSummary.Json

/-!
# JSON numbers

What a number stands for and how it is written. A number without fraction and exponent that fits 64 bits is kept as an
integer; any other is kept as the shortest decimal that stands for the double it is read as. `Binary.shortest` looks for it
on coarser to finer decimal grids: the first grid with a point in the interval of reals that round to the double has the
fewest digits.
-/

namespace TaintSummary

/-- A positive number `mantissa · 2 ^ exponent` with the gaps to its neighbours: the number below is half as far away as the
one above when `lowerGapHalved`. -/
structure Binary where
  mantissa : Nat
  exponent : Int
  lowerGapHalved : Bool

namespace Binary

/-- `n · 2 ^ q / 10 ^ k` as a fraction. -/
def scaled (n : Nat) (q k : Int) : Nat × Nat :=
  (n * Nat.pow 2 q.toNat * Nat.pow 10 (-k).toNat, Nat.pow 2 (-q).toNat * Nat.pow 10 k.toNat)

/-- The nearest multiple of `10 ^ k` among the two next to the number, if it rounds to the number. -/
def onGrid? (b : Binary) (k : Int) : Option Nat :=
  let q := b.exponent - 2
  let (value, unit) := scaled (4 * b.mantissa) q k
  let (low, _) := scaled (4 * b.mantissa - if b.lowerGapHalved then 1 else 2) q k
  let (high, _) := scaled (4 * b.mantissa + 2) q k
  let ends : Bool := b.mantissa % 2 == 0
  let inside (d : Nat) : Bool :=
    d ≠ 0 && (low < d * unit || (ends && low = d * unit)) && (d * unit < high || (ends && d * unit = high))
  let d := value / unit
  let below := value - d * unit
  let above := (d + 1) * unit - value
  match inside d, inside (d + 1) with
  | true, true => some (if below < above || (below = above && d % 2 = 0) then d else d + 1)
  | true, false => some d
  | false, true => some (d + 1)
  | false, false => none

/-- The digits and the exponent on the coarsest grid `10 ^ k`, `k < top`, that has a point rounding to the number; `steps`
grids are tried. -/
def search (b : Binary) : (steps : Nat) → (top : Int) → Nat × Int
  | 0, top => (b.mantissa, top)
  | steps + 1, top =>
    match b.onGrid? (top - 1) with
    | some d => (d, top - 1)
    | none => b.search steps (top - 1)

/-- The fewest digits that round to the number, with their exponent. Doubles lie between `10 ^ -324` and `10 ^ 309`. -/
def shortest (b : Binary) : Nat × Int := b.search 660 310

end Binary

/-- The shortest decimal that stands for a finite double. -/
def Decimal.ofFloat (f : Float) : Decimal :=
  let bits := f.toBits.toNat
  let fraction : Nat := bits % Nat.pow 2 52
  let biased : Nat := bits / Nat.pow 2 52 % 2048
  let negative : Bool := bits / Nat.pow 2 63 == 1
  if fraction = 0 ∧ biased = 0 then ⟨negative, 0, 0⟩
  else
    let b : Binary :=
      if biased = 0 then ⟨fraction, -1074, false⟩
      else ⟨fraction + Nat.pow 2 52, (biased : Int) - 1075, fraction = 0 && 1 < biased⟩
    let (digits, exponent) := b.shortest
    ⟨negative, digits, exponent⟩

/-- An exponent after its mark, with its sign always. -/
def Decimal.exponentText (e : Int) : Text := (if e < 0 then '-' else '+') :: Text.ofNat e.natAbs

/-- The decimal with a point and at least one digit after it where the point falls into the first sixteen places or the
first digit into the first five after the point, with an exponent elsewhere. -/
def Decimal.text (d : Decimal) : Text :=
  let digits := Text.ofNat d.digits
  let point : Int := digits.length + d.exponent
  let zeros (n : Int) : Text := List.replicate n.toNat '0'
  (if d.negative then ['-'] else []) ++
    (if d.digits = 0 then "0.0".toList
    else if 0 ≤ d.exponent ∧ point ≤ 16 then digits ++ zeros d.exponent ++ ".0".toList
    else if 0 < point ∧ point ≤ 16 then digits.take point.toNat ++ '.' :: digits.drop point.toNat
    else if -5 < point ∧ point ≤ 0 then "0.".toList ++ zeros (-point) ++ digits
    else match digits with
      | [] => []
      | [c] => c :: 'e' :: exponentText (point - 1)
      | c :: rest => c :: '.' :: rest ++ 'e' :: exponentText (point - 1))

namespace Json

/-- An integer in decimal digits. -/
def integerText (n : Int) : Text := if n < 0 then '-' :: Text.ofNat n.natAbs else Text.ofNat n.natAbs

/-- The value of a digit. -/
def digitValue (c : Char) : Nat := c.toNat - '0'.toNat

/-- Appends digits to a significand for as long as it stays below `2 ^ 64`: the significand, the number of digits taken and
the number left over. -/
def absorb (significand : Nat) : Text → Nat × Nat × Nat
  | [] => (significand, 0, 0)
  | c :: rest =>
    let next := significand * 10 + digitValue c
    if next < Nat.pow 2 64 then
      let (s, taken, left) := absorb next rest
      (s, taken + 1, left)
    else (significand, 0, rest.length + 1)

/-- A power of ten as a double. -/
def powerOfTen (n : Nat) : Float := Float.ofScientific 1 false n

/-- `f · 10 ^ exponent` by one multiplication or by divisions; `none` when it is too large. `steps` bounds the divisions by
`10 ^ 308`: three leave nothing of a 64 bit significand. -/
def scale? (f : Float) (exponent : Int) : (steps : Nat) → Option Float
  | 0 => some 0
  | steps + 1 =>
    if exponent.natAbs ≤ 308 then
      if 0 ≤ exponent then
        let scaled := f * powerOfTen exponent.toNat
        if scaled.isInf then none else some scaled
      else some (f / powerOfTen exponent.natAbs)
    else if f == 0 then some f
    else if 0 ≤ exponent then none
    else scale? (f / powerOfTen 308) (exponent + 308) steps

/-- The number with the given significand and power of ten. -/
def decimal? (negative : Bool) (significand : Nat) (exponent : Int) : Option Json :=
  (scale? significand.toUInt64.toFloat exponent 4).map fun f =>
    .decimal (Decimal.ofFloat (if negative then -f else f))

end Json

end TaintSummary
