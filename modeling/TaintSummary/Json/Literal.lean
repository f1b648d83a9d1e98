import TaintSummary.Json.Number
import TaintSummary.Text.Hex

/-!
# JSON literals

Numbers and strings as they are written. Being well formed and standing for something are two things: a number may be too large
for a double, and a string may hold one half of a surrogate pair without the other.
-/

namespace TaintSummary.Json

/-- A number as it is written. -/
structure NumberLiteral where
  negative : Bool
  /-- The digits before the point. -/
  whole : Text
  /-- The digits after the point; none when there is no point. -/
  fraction : Text
  /-- The exponent, if one is written. -/
  exponent : Option Int

namespace NumberLiteral

/-- What the number stands for; `none` when it is too large for a double. -/
def value? (n : NumberLiteral) : Option Json :=
  let (significand, _, dropped) := absorb 0 n.whole
  match n.fraction, n.exponent with
  | [], none =>
    if dropped ≠ 0 then decimal? n.negative significand dropped
    else if !n.negative then some (.integer significand)
    else if significand ≠ 0 ∧ significand ≤ Nat.pow 2 63 then some (.integer (-significand))
    else decimal? true significand 0
  | fraction, exponent =>
    let (significand, taken, _) := absorb significand fraction
    decimal? n.negative significand (exponent.getD 0 + dropped - taken)

/-- The leading digits and what follows them. -/
def takeDigits (t : Text) : Text × Text := (t.takeWhile Char.isDigit, t.dropWhile Char.isDigit)

/-- The digits before the point: no zero stands before another digit. -/
def readWhole? (t : Text) : Option (Text × Text) :=
  match takeDigits t with
  | ([], _) => none
  | (first :: more, after) => if first = '0' ∧ more ≠ [] then none else some (first :: more, after)

/-- The point and the digits after it, if there is a point; `none` when no digit follows it. -/
def readFraction? : Text → Option (Text × Text)
  | '.' :: rest =>
    match takeDigits rest with
    | ([], _) => none
    | (digits, after) => some (digits, after)
  | t => some ([], t)

/-- The exponent, if there is one: `none` when no digit follows its mark and sign. -/
def readExponent? : Text → Option (Option Int × Text)
  | c :: rest =>
    if c = 'e' ∨ c = 'E' then
      let (negative, digitsOn) := match rest with
        | '+' :: r => (false, r)
        | '-' :: r => (true, r)
        | r => (false, r)
      match takeDigits digitsOn with
      | ([], _) => none
      | (digits, after) =>
        let n : Int := digits.foldl (fun n d => n * 10 + digitValue d) 0
        some (some (if negative then -n else n), after)
    else some (none, c :: rest)
  | [] => some (none, [])

/-- The number without a sign at the start of the text, and the text after it. -/
def readMagnitude? (negative : Bool) (t : Text) : Option (NumberLiteral × Text) := do
  let (whole, t) ← readWhole? t
  let (fraction, t) ← readFraction? t
  let (exponent, t) ← readExponent? t
  return (⟨negative, whole, fraction, exponent⟩, t)

/-- The number at the start of the text, and the text after it. -/
def read? : Text → Option (NumberLiteral × Text)
  | '-' :: rest => readMagnitude? true rest
  | t => readMagnitude? false t

end NumberLiteral

/-- A part of a string as it is written. -/
inductive StringPart
  /-- A character, by itself or escaped. -/
  | char (c : Char)
  /-- A UTF-16 unit, escaped as four hexadecimal digits. -/
  | unit (n : Nat)

/-- A string as it is written. -/
abbrev StringLiteral := List StringPart

namespace StringLiteral

/-- The first half of a surrogate pair. -/
def isHighSurrogate (n : Nat) : Bool := 0xD800 ≤ n && n < 0xDC00

/-- The second half of a surrogate pair. -/
def isLowSurrogate (n : Nat) : Bool := 0xDC00 ≤ n && n < 0xE000

/-- What the string stands for; `none` when it has one half of a surrogate pair without the other. -/
def text? : StringLiteral → Option Text
  | [] => some []
  | .char c :: rest => (text? rest).map (c :: ·)
  | .unit n :: rest =>
    if isHighSurrogate n then
      match rest with
      | .unit m :: rest =>
        if isLowSurrogate m then (text? rest).map (Char.ofNat (0x10000 + (n - 0xD800) * 0x400 + (m - 0xDC00)) :: ·)
        else none
      | _ => none
    else if isLowSurrogate n then none
    else (text? rest).map (Char.ofNat n :: ·)

/-- The character that a backslash and one more character stand for. -/
def simpleEscape? (c : Char) : Option Char :=
  if c = '"' then some '"'
  else if c = '\\' then some '\\'
  else if c = '/' then some '/'
  else if c = 'b' then some '\x08'
  else if c = 'f' then some '\x0c'
  else if c = 'n' then some '\n'
  else if c = 'r' then some '\r'
  else if c = 't' then some '\t'
  else none

/-- Four hexadecimal digits. -/
def hex4? (a b c d : Char) : Option Nat := do
  let a ← Text.hexValue? a
  let b ← Text.hexValue? b
  let c ← Text.hexValue? c
  let d ← Text.hexValue? d
  return ((a * 16 + b) * 16 + c) * 16 + d

/-- The string up to its closing quote, and the text after the quote. -/
def read? : Text → Option (StringLiteral × Text)
  | [] => none
  | '"' :: rest => some ([], rest)
  | '\\' :: 'u' :: a :: b :: c :: d :: rest =>
    (hex4? a b c d).bind fun n => (read? rest).map fun (s, r) => (.unit n :: s, r)
  | '\\' :: c :: rest => (simpleEscape? c).bind fun x => (read? rest).map fun (s, r) => (.char x :: s, r)
  | c :: rest =>
    if c = '\\' ∨ c.toNat < 0x20 then none
    else (read? rest).map fun (s, r) => (.char c :: s, r)

end StringLiteral

end TaintSummary.Json
