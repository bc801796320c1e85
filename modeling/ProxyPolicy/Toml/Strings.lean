import ProxyPolicy.Text.Hex
import ProxyPolicy.Toml.Reader

/-!
# TOML strings

The four forms of a string: between double quotes with escapes or between single quotes without, on
one line or, between triple quotes, on several. In the latter a line feed right after the opening
quotes is dropped, every line ends with a line feed, and a backslash at the end of a line swallows
the blanks and line ends after it.
-/

namespace ProxyPolicy.Toml

open ProxyPolicy.Text

/-- Whether a character may stand for itself in a string of a given quote. -/
def isPlain (quote : Char) (c : Char) : Bool :=
  isCommentChar c && c != quote && (quote != '"' || c != '\\')

/-- So many hexadecimal digits that give a code point. -/
def codePoint (digits : Nat) : Read (List Char) := do
  let hex := (← get).take digits
  Read.require (hex.length = digits && hex.all isHexDigit)
  modify (·.drop digits)
  match scalar? (ofHex hex) with
  | some c => return [c]
  | none => failure

/-- Reads an escape. -/
def escape : Read (List Char) := do
  Read.char '\\'
  match ← Read.one fun _ => true with
  | 'b' => return ['\x08']
  | 't' => return ['\t']
  | 'n' => return ['\n']
  | 'f' => return ['\x0c']
  | 'r' => return ['\r']
  | '"' => return ['"']
  | '\\' => return ['\\']
  | 'u' => codePoint 4
  | 'U' => codePoint 8
  | _ => failure

/-- Reads a string on one line, between double quotes. -/
def basicString : Read (List Char) := do
  Read.char '"'
  let parts ← Read.many (Read.run1 (isPlain '"') <|> escape)
  Read.char '"'
  return parts.flatten

/-- Reads a string on one line, between single quotes. -/
def literalString : Read (List Char) := do
  Read.char '\x27'
  let text ← Read.run (isPlain '\x27')
  Read.char '\x27'
  return text

/-- Reads a backslash at the end of a line and the blanks and line ends after it. -/
def foldedLine : Read (List Char) := do
  Read.char '\\'
  spaces
  newline
  discard (Read.many (discard (Read.run1 isSpace) <|> newline))
  return []

/-- Reads the end of a line inside a string. -/
def lineFeed : Read (List Char) := do
  newline
  return ['\n']

/-- Reads one or two quotes that do not belong to the closing ones. -/
def innerQuotes (quote : Char) : Read (List Char) := do
  let run := (← get).takeWhile (· == quote)
  Read.require (run.length = 1 || run.length = 2)
  modify (·.drop run.length)
  return run

/-- Reads the closing quotes, and up to two quotes before them that belong to the string. -/
def closingQuotes (quote : Char) : Read (List Char) := do
  let run := (← get).takeWhile (· == quote)
  Read.require (3 ≤ run.length)
  let inner := min 2 (run.length - 3)
  modify (·.drop (inner + 3))
  return List.replicate inner quote

/-- Reads a string on several lines, whose content between the quotes is made of given pieces. -/
def longString (quote : Char) (piece : Read (List Char)) : Read (List Char) := do
  Read.text (List.replicate 3 quote)
  newline <|> pure ()
  let parts ← Read.many (piece <|> innerQuotes quote)
  let last ← closingQuotes quote
  return parts.flatten ++ last

/-- Reads a string on several lines, between double quotes. -/
def longBasicString : Read (List Char) :=
  longString '"' (Read.run1 (isPlain '"') <|> foldedLine <|> escape <|> lineFeed)

/-- Reads a string on several lines, between single quotes. -/
def longLiteralString : Read (List Char) :=
  longString '\x27' (Read.run1 (isPlain '\x27') <|> lineFeed)

/-- Reads a string of any form. -/
def string : Read String := do
  return String.ofList
    (← longBasicString <|> basicString <|> longLiteralString <|> literalString)

end ProxyPolicy.Toml
