import TaintSummary.Text
import TaintSummary.Unicode.CodeRanges

/-!
# White space

The characters with the property White_Space, and text without white space at one end or both.
-/

namespace TaintSummary

namespace Unicode

/-- The property White_Space. -/
def whiteSpace : CodeRanges := [
    (0x9, 0xD), (0x20, 0x20), (0x85, 0x85), (0xA0, 0xA0), (0x1680, 0x1680), (0x2000, 0x200A), (0x2028, 0x2029),
    (0x202F, 0x202F), (0x205F, 0x205F), (0x3000, 0x3000)]

/-- The character has the property White_Space. -/
def isBlank (c : Char) : Bool := whiteSpace.has c

end Unicode

namespace Text

/-- The text without its leading white space. -/
def trimStart (t : Text) : Text := t.dropWhile Unicode.isBlank

/-- The text without its trailing white space. -/
def trimEnd (t : Text) : Text := (t.reverse.dropWhile Unicode.isBlank).reverse

/-- The text without white space at its ends. -/
def trim (t : Text) : Text := trimEnd (trimStart t)

/-- Every character of the text is white space. -/
def isBlank (t : Text) : Bool := t.all Unicode.isBlank

/-- Dropping a class of characters leaves nothing exactly when all are of the class. -/
theorem dropWhile_eq_nil {p : Char → Bool} {t : Text} : t.dropWhile p = [] ↔ t.all p = true := by
  induction t with
  | nil => simp
  | cons c rest ih => cases h : p c <;> simp [h, ih]

/-- Nothing is left of a text exactly when it is all white space. -/
theorem trimEnd_eq_nil_iff {t : Text} : trimEnd t = [] ↔ isBlank t = true := by
  rw [trimEnd, List.reverse_eq_nil_iff, dropWhile_eq_nil, List.all_reverse, isBlank]

end Text

end TaintSummary
