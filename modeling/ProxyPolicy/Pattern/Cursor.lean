import ProxyPolicy.Text.Blank

/-!
# Reading a pattern

The text of a pattern that is still to be read, with the two switches that decide how it is read: in
a verbose pattern blanks and comments mean nothing, and only a Unicode pattern may ask for
characters outside ASCII by their class.
-/

namespace ProxyPolicy.Pattern

open ProxyPolicy.Text

/-- Where the reading of a pattern stands. -/
structure Cursor where
  /-- The characters still to be read. -/
  rest : List Char
  /-- Whether blanks and comments are skipped. -/
  verbose : Bool
  /-- Whether the pattern is one over Unicode text. -/
  unicode : Bool
  deriving Repr

/-- A step of reading, which fails where the text is no pattern. -/
abbrev Read := StateT Cursor Option

/-- A text without the blanks and comments at its start. A comment goes from `#` to the end of the
line. -/
def withoutBlanks (inComment : Bool) : List Char → List Char
  | [] => []
  | c :: cs =>
    if inComment then withoutBlanks (c != '\n') cs
    else if isBlank c then withoutBlanks false cs
    else if c == '#' then withoutBlanks true cs
    else c :: cs

/-- The longest run of characters of a class at the start of a text, and the rest; in a verbose
pattern, blanks and comments within the run are skipped. -/
def spacedRun (verbose : Bool) (p : Char → Bool) (inComment : Bool) :
    List Char → List Char × List Char
  | [] => ([], [])
  | c :: cs =>
    if inComment then spacedRun verbose p (c != '\n') cs
    else if verbose && isBlank c then spacedRun verbose p false cs
    else if verbose && c == '#' then spacedRun verbose p true cs
    else if p c then
      let (run, rest) := spacedRun verbose p false cs
      (c :: run, rest)
    else ([], c :: cs)

namespace Read

/-- Fails unless a condition holds. -/
def require (condition : Bool) : Read Unit := if condition then pure () else failure

/-- The next character, which stays to be read. -/
def current : Read Char := do
  match (← get).rest with
  | c :: _ => pure c
  | [] => failure

/-- Whether the text to be read starts with another. -/
def startsWith (text : List Char) : Read Bool := return text.isPrefixOf (← get).rest

/-- Passes over the next characters. -/
def skip (count : Nat) : Read Unit := modify fun s => { s with rest := s.rest.drop count }

/-- Passes over blanks and comments, if the pattern is verbose. -/
def skipBlanks : Read Unit :=
  modify fun s => if s.verbose then { s with rest := withoutBlanks false s.rest } else s

/-- Passes over the next character and the blanks after it. -/
def advance : Read Unit := do
  skip 1
  skipBlanks

/-- Reads a run of characters of a class. -/
def spaced (p : Char → Bool) : Read (List Char) := do
  let s ← get
  let (run, rest) := spacedRun s.verbose p false s.rest
  set { s with rest }
  return run

/-- Reads a text and the character that ends it. -/
def upTo (closing : Char) : Read (List Char) := do
  let text ← spaced (· != closing)
  require ((← current) == closing)
  skip 1
  return text

end Read

end ProxyPolicy.Pattern
