/-!
# Reading TOML

The steps from which the readers of TOML are made. A step takes characters from the start of the
text and fails where the text has not the form it asks for; an alternative starts again from where
its predecessor started. Blanks are spaces and tabs, and a line ends with a line feed that a
carriage return may precede.
-/

namespace ProxyPolicy.Toml

/-- A step of reading. -/
abbrev Read := StateT (List Char) Option

namespace Read

/-- Fails unless a condition holds. -/
def require (condition : Bool) : Read Unit := if condition then pure () else failure

/-- Takes one character of a class. -/
def one (p : Char → Bool) : Read Char := do
  match ← get with
  | c :: cs => if p c then do set cs; return c else failure
  | [] => failure

/-- Takes one given character. -/
def char (c : Char) : Read Unit := discard (one (· == c))

/-- Takes a given text. -/
def text (t : List Char) : Read Unit := do
  require (t.isPrefixOf (← get))
  modify (·.drop t.length)

/-- Takes a given text if it is there, and says whether it was. -/
def textIf (t : List Char) : Read Bool := do
  if t.isPrefixOf (← get) then
    modify (·.drop t.length)
    return true
  else return false

/-- Takes the longest run of characters of a class. -/
def run (p : Char → Bool) : Read (List Char) := do
  let cs ← get
  set (cs.dropWhile p)
  return cs.takeWhile p

/-- Takes the longest run of characters of a class, of which there must be one. -/
def run1 (p : Char → Bool) : Read (List Char) := do
  let cs ← run p
  require (!cs.isEmpty)
  return cs

/-- Repeats a step as long as it succeeds, at most so often; the outcomes so far are given, the
latest first. -/
def manyUpTo {α : Type} (step : Read α) : Nat → List α → Read (List α)
  | 0, done => return done.reverse
  | fuel + 1, done => fun cs =>
    match step cs with
    | some (x, rest) => manyUpTo step fuel (x :: done) rest
    | none => some (done.reverse, cs)

/-- Repeats a step as long as it succeeds. The step is to take a character, so that there can be no
more repetitions than characters. -/
def many {α : Type} (step : Read α) : Read (List α) := do
  manyUpTo step (← get).length []

/-- A step and further steps after a separator each. -/
def separated {α : Type} (step : Read α) (separator : Read Unit) : Read (List α) := do
  let first ← step
  return first :: (← many (separator *> step))

end Read

/-! ## Blanks, lines and comments -/

/-- Whether a character is a blank. -/
def isSpace (c : Char) : Bool := c == ' ' || c == '\t'

/-- Whether a character may stand in a comment: a tab, or what is not a control character. -/
def isCommentChar (c : Char) : Bool := c == '\t' || (' ' ≤ c && c != '\x7f')

/-- Passes over blanks. -/
def spaces : Read Unit := discard (Read.run isSpace)

/-- Takes the end of a line. -/
def newline : Read Unit := Read.text ['\r', '\n'] <|> Read.char '\n'

/-- Takes a comment. -/
def comment : Read Unit := do
  Read.char '#'
  discard (Read.run isCommentChar)

/-- Takes the end of a line or of the text. -/
def lineEnd : Read Unit := do
  if (← get).isEmpty then return else newline

/-- Takes what may stand behind the content of a line. -/
def lineRest : Read Unit := do
  spaces
  comment <|> pure ()
  lineEnd

/-- Passes over blanks, comments and the ends of lines. -/
def gaps : Read Unit :=
  discard (Read.many (discard (Read.run1 isSpace) <|> newline <|> comment))

end ProxyPolicy.Toml
