import TaintSummary.Text.Hex

/-!
# Values in a query

Letters, digits and a few marks stand for themselves, a space is written as a plus sign, and every other byte of the UTF-8
encoding as a percent sign with two hexadecimal digits.
-/

namespace TaintSummary.Api.FormEncoding

/-- The byte is written as the character it is. -/
def isPlain (b : UInt8) : Bool :=
  (48 ≤ b && b ≤ 57) || (65 ≤ b && b ≤ 90) || (97 ≤ b && b ≤ 122) || b = 42 || b = 45 || b = 46 || b = 95

/-- A byte as it is written. -/
def byte (b : UInt8) : Text :=
  if b = 32 then ['+']
  else if isPlain b then [Char.ofNat b.toNat]
  else '%' :: Text.hexPadded true 2 b.toNat

/-- A text as it is written. -/
def encode (t : Text) : Text := (t.flatMap String.utf8EncodeChar).flatMap byte

end TaintSummary.Api.FormEncoding
