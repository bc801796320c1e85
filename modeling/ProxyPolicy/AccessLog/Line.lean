import ProxyPolicy.Text.Blank
import ProxyPolicy.Text.Word

/-!
# Log lines

The form of a line of the proxy's access log:

    <time> <elapsed> <client> <result> <bytes> <method> <target> - <peer> <content type>

Fields are runs of characters that are not white space, separated by runs of white space; around the
peer a single white-space character separates. The time is made of ASCII digits and points, the
elapsed time and the size of decimal digits of any script, and the method of word characters. White
space may come before the time, and anything after the content type if white space comes first.
-/

namespace ProxyPolicy.AccessLog

open ProxyPolicy.Text

/-- The fields of a log line that an entry is made from. -/
structure Fields where
  /-- The time, in seconds. -/
  epoch : List Char
  /-- The client. -/
  client : List Char
  /-- The method of the request. -/
  method : List Char
  /-- The target of the request. -/
  target : List Char
  /-- The type of the content. -/
  contentType : List Char
  deriving DecidableEq, Repr

/-- Whether a character may stand in a time. -/
def isEpochChar (c : Char) : Bool := c.isDigit || c == '.'

/-- Whether a character may stand in a field. -/
def isFieldChar (c : Char) : Bool := !isBlank c

/-- The longest run of characters of a class at the start of a text, and the rest; nothing when the
run is empty. -/
def run? (p : Char → Bool) (cs : List Char) : Option (List Char × List Char) :=
  match cs.takeWhile p with
  | [] => none
  | field => some (field, cs.dropWhile p)

/-- What follows one character of a class. -/
def one? (p : Char → Bool) (cs : List Char) : Option (List Char) :=
  match cs with
  | c :: rest => if p c then some rest else none
  | [] => none

/-- A run of characters of a class with white space after it. -/
def field? (p : Char → Bool) (cs : List Char) : Option (List Char × List Char) := do
  let (field, rest) ← run? p cs
  let (_, rest) ← run? isBlank rest
  return (field, rest)

/-- The fields of a line of the log's form. -/
def fields? (line : List Char) : Option Fields := do
  let (epoch, rest) ← field? isEpochChar (line.dropWhile isBlank)
  let (_, rest) ← field? isDecimalDigit rest
  let (client, rest) ← field? isFieldChar rest
  let (_, rest) ← field? isFieldChar rest
  let (_, rest) ← field? isDecimalDigit rest
  let (method, rest) ← field? isWord rest
  let (target, rest) ← field? isFieldChar rest
  let rest ← one? (· == '-') rest
  let rest ← one? isBlank rest
  let (_, rest) ← run? isFieldChar rest
  let rest ← one? isBlank rest
  let (contentType, _) ← run? isFieldChar rest
  return ⟨epoch, client, method, target, contentType⟩

end ProxyPolicy.AccessLog
