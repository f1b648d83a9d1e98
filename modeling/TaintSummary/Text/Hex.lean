import TaintSummary.Text

/-!
# Hexadecimal digits

Numbers in base sixteen, with capital or small letters, and back.
-/

namespace TaintSummary.Text

/-- The digit of a number below sixteen. -/
def hexDigit (capital : Bool) (n : Nat) : Char :=
  if n < 10 then Char.ofNat ('0'.toNat + n)
  else Char.ofNat ((if capital then 'A' else 'a').toNat + (n - 10))

/-- The number of a digit, in either case. -/
def hexValue? (c : Char) : Option Nat :=
  if '0' ≤ c ∧ c ≤ '9' then some (c.toNat - '0'.toNat)
  else if 'a' ≤ c ∧ c ≤ 'f' then some (c.toNat - 'a'.toNat + 10)
  else if 'A' ≤ c ∧ c ≤ 'F' then some (c.toNat - 'A'.toNat + 10)
  else none

/-- The last `width` hexadecimal digits of a number. -/
def hexPadded (capital : Bool) : (width : Nat) → Nat → Text
  | 0, _ => []
  | width + 1, n => hexPadded capital width (n / 16) ++ [hexDigit capital (n % 16)]

/-- A number in small hexadecimal digits, without leading zeros. -/
def hex (n : Nat) : Text := Nat.toDigits 16 n

/-- A digit, capital or small, has the value of its number. -/
theorem hexValue?_hexDigit (capital : Bool) (n : Nat) (h : n < 16) : hexValue? (hexDigit capital n) = some n := by
  have hn : n ∈ List.range 16 := List.mem_range.mpr h
  revert n capital
  decide

end TaintSummary.Text
