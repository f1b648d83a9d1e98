import TaintSummary.Text.Hex
import TaintSummary.Unicode.Printable

/-!
# Quoted text

Text between double quotes, for messages: quotes and backslashes are escaped, and so is every character that does not show
by itself.
-/

namespace TaintSummary.Text

/-- A character inside quotes. -/
def quotedChar (c : Char) : Text :=
  if c = '\x00' then "\\0".toList
  else if c = '\t' then "\\t".toList
  else if c = '\r' then "\\r".toList
  else if c = '\n' then "\\n".toList
  else if c = '"' then "\\\"".toList
  else if c = '\\' then "\\\\".toList
  else if Unicode.isPrintable c then [c]
  else "\\u\x7b".toList ++ hex c.toNat ++ "\x7d".toList

/-- The text between double quotes. -/
def quoted (t : Text) : Text := '"' :: t.flatMap quotedChar ++ ['"']

end TaintSummary.Text
