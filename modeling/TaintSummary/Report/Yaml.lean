import TaintSummary.Report
import TaintSummary.Report.Yaml.Plain

/-!
# Reports as YAML

A list of records in block style. A text is written plainly where that reads back as the same text, else between single quotes;
a text with line feeds becomes a literal block; what neither can hold stands between double quotes with escapes. Lines are
never folded.
-/

namespace TaintSummary.Yaml

/-- A line break. -/
def isBreak (c : Char) : Bool :=
  c = '\n' || c = '\r' || c = '\u0085' || c = '\u2028' || c = '\u2029'

/-- A blank, a break, a zero character or the end of the text. -/
def endsWord : Option Char → Bool
  | none => true
  | some c => c = ' ' || c = '\t' || c = '\x00' || isBreak c

/-- The character may stand in YAML text as it is. -/
def isPrintable (c : Char) : Bool :=
  c = '\n' || ('\x20' ≤ c && c ≤ '\x7E') || ('\u00A0' ≤ c && c ≠ '\uFEFF' && c ≠ '\uFFFE' && c ≠ '\uFFFF')

/-- Somewhere a character of the first class stands directly before one of the second. -/
def hasPair (p q : Char → Bool) : Text → Bool
  | a :: b :: rest => (p a && q b) || hasPair p q (b :: rest)
  | _ => false

/-- A space. -/
def isSpace (c : Char) : Bool := c = ' '

/-- A space directly before a break. -/
def hasSpaceBreak (t : Text) : Bool := hasPair isSpace isBreak t

/-- A break directly before a space. -/
def hasBreakSpace (t : Text) : Bool := hasPair isBreak isSpace t

/-- The first character would be read as a mark and not as text. -/
def startsWithMark : Text → Bool
  | [] => false
  | c :: rest =>
    c ∈ "#,[]\x7b\x7d&*!|>\x27\"%@\x60".toList || ((c = '?' || c = ':' || c = '-') && endsWord rest.head?)

/-- After a character, somewhere a colon ends a word or a number sign begins one. -/
def holdsMark (before : Char) : Text → Bool
  | [] => false
  | c :: rest => (c = ':' && endsWord rest.head?) || (c = '#' && endsWord (some before)) || holdsMark c rest

/-- The text begins like the start or the end of a document. -/
def startsLikeDocument (t : Text) : Bool := "---".toList.isPrefixOf t || "...".toList.isPrefixOf t

/-- A space or a break. -/
def isGap (c : Char) : Bool := isSpace c || isBreak c

/-- The text can be written without quotes. -/
def plainAllowed (t : Text) : Bool :=
  t.all isPrintable && !t.any isBreak && !t.head?.any isGap && !t.getLast?.any isGap &&
    !startsLikeDocument t && !startsWithMark t &&
    (match t with
      | [] => true
      | c :: rest => !holdsMark c rest)

/-- The text can stand between single quotes. -/
def singleQuotesAllowed (t : Text) : Bool := t.all isPrintable && !hasSpaceBreak t && !hasBreakSpace t

/-- The text can be a literal block. -/
def blockAllowed (t : Text) : Bool :=
  t ≠ [] && t.all isPrintable && !hasSpaceBreak t && !t.getLast?.any isSpace

/-- The ways of writing a text. -/
inductive Style
  | plain
  | singleQuoted
  | doubleQuoted
  | literal
  deriving DecidableEq

/-- How a text is written. -/
def styleOf (t : Text) : Style :=
  if '\n' ∈ t then if blockAllowed t then .literal else .doubleQuoted
  else if plainAllowed t && !isAmbiguous t then .plain
  else if singleQuotesAllowed t then .singleQuoted
  else .doubleQuoted

/-- The indentation of lines inside a text. -/
def indent : Text := Text.spaces 4

/-- The inside of single quotes: a quote is doubled, and what follows a break is indented. -/
def singleQuotedBody (afterBreak : Bool) : Text → Text
  | [] => if afterBreak then indent else []
  | c :: rest =>
    if isBreak c then c :: singleQuotedBody true rest
    else (if afterBreak then indent else []) ++ (if c = '\x27' then ['\x27', '\x27'] else [c]) ++
      singleQuotedBody false rest

/-- The letter that stands for a character after a backslash. -/
def escapeLetter? (c : Char) : Option Char :=
  (List.find? (fun p : Char × Char => p.1 = c) [('\x00', '0'), ('\x07', 'a'), ('\x08', 'b'), ('\t', 't'), ('\n', 'n'),
    ('\x0B', 'v'), ('\x0C', 'f'), ('\r', 'r'), ('\x1B', 'e'), ('"', '"'), ('\\', '\\'), ('\u0085', 'N'),
    ('\u2028', 'L'), ('\u2029', 'P')]).map Prod.snd

/-- A character inside double quotes. -/
def doubleQuotedChar (c : Char) : Text :=
  if isPrintable c && !isBreak c && c ≠ '"' && c ≠ '\\' then [c]
  else match escapeLetter? c with
    | some x => ['\\', x]
    | none =>
      if c.toNat ≤ 0xFF then '\\' :: 'x' :: Text.hexPadded true 2 c.toNat
      else if c.toNat ≤ 0xFFFF then '\\' :: 'u' :: Text.hexPadded true 4 c.toNat
      else '\\' :: 'U' :: Text.hexPadded true 8 c.toNat

/-- The lines of a literal block: a line that is not empty is indented. -/
def literalBody (atLineStart : Bool) : Text → Text
  | [] => []
  | c :: rest =>
    if isBreak c then c :: literalBody true rest
    else (if atLineStart then indent else []) ++ c :: literalBody false rest

/-- How a block ends: stripped when the text does not end with a break, kept when it ends with more than one or is nothing but
a break. -/
def chomping (t : Text) : Text :=
  match t.reverse with
  | [] => ['-']
  | last :: before =>
    if !isBreak last then ['-']
    else if before.head?.all isBreak then ['+'] else []

/-- The head of a literal block: the indentation where the text begins with a gap, and how it ends. -/
def literalHead (t : Text) : Text := '|' :: (if t.head?.any isGap then ['2'] else []) ++ chomping t

/-- A text as it is written. -/
def scalar (t : Text) : Text :=
  match styleOf t with
  | .plain => t
  | .singleQuoted => '\x27' :: singleQuotedBody false t ++ ['\x27']
  | .doubleQuoted => '"' :: t.flatMap doubleQuotedChar ++ ['"']
  | .literal => literalHead t ++ '\n' :: literalBody true t

/-- The line feed after a text, unless a block has ended the line. -/
def lineEnd (t : Text) : Text := if styleOf t = .literal && t.getLast?.any isBreak then [] else ['\n']

/-- A key that stands on one line before its colon. -/
def isSimpleKey (key : Text) : Bool := !key.any isBreak && Text.byteSize key ≤ 128

/-- A key with its value. -/
def entry (key value : Text) : Text :=
  (if isSimpleKey key then scalar key ++ [':']
    else "? ".toList ++ scalar key ++ lineEnd key ++ "  :".toList) ++ ' ' :: scalar value ++ lineEnd value

/-- A record as an item of the list. -/
def item (r : Record) : Text :=
  match r.entries with
  | [] => ['-', ' ', '{', '}', '\n']
  | (key, value) :: rest => "- ".toList ++ entry key value ++ rest.flatMap fun e => "  ".toList ++ entry e.1 e.2

/-- A list of records. -/
def render (records : List Record) : Text := if records.isEmpty then "[]\n".toList else records.flatMap item

end TaintSummary.Yaml
