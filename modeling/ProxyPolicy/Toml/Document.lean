import ProxyPolicy.Toml.DateTime
import ProxyPolicy.Toml.Number
import ProxyPolicy.Toml.Strings
import ProxyPolicy.Toml.Table

/-!
# TOML documents

The text of a document is read into values and statements, one statement a line, and the statements
are then carried out on an empty table (`parse?`). Arrays and inline tables are nested less than
`maxNesting` deep, and a dotted key has fewer parts than that.
-/

namespace ProxyPolicy.Toml

/-- The depth that nesting does not reach. -/
def maxNesting : Nat := 80

/-- Whether a character may stand in a key without quotes. -/
def isBareKeyChar (c : Char) : Bool := c.isAlphanum || c == '-' || c == '_'

/-- Reads one part of a key. -/
def simpleKey : Read String := do
  return String.ofList (← basicString <|> literalString <|> Read.run1 isBareKeyChar)

/-- A key: the parts that lead to a table, and the last part. -/
structure Key where
  /-- The parts before the last. -/
  path : List String
  /-- The last part. -/
  name : String
  deriving DecidableEq, Repr

/-- Reads a key of one or more parts, with blanks around each. -/
def key : Read Key := do
  let parts ← Read.separated (spaces *> simpleKey <* spaces) (Read.char '.')
  Read.require (parts.length < maxNesting)
  match parts.getLast? with
  | some name => return ⟨parts.dropLast, name⟩
  | none => failure

/-- Reads a value without parts. -/
def scalar : Read Scalar :=
  (do return .text (← string)) <|> (do dateTime; return .dateTime) <|>
    pointNumber <|> namedNumber <|> integer <|> boolean

/-- Reads the values of an array; a comma may follow the last. -/
def arrayItems (value : Read Value) : Read (List Value) := do
  Read.char '['
  let items ← Read.separated (gaps *> value <* gaps) (Read.char ',') <|> pure []
  if !items.isEmpty then discard (Read.textIf [','])
  gaps
  Read.char ']'
  return items

/-- Reads a key and its value. -/
def keyValue (value : Read Value) : Read (Key × Value) := do
  let k ← key
  Read.char '='
  spaces
  return (k, ← value)

/-- Reads the entries of an inline table; no comma follows the last. -/
def inlineEntries (value : Read Value) : Read (List (Key × Value)) := do
  Read.char '\x7b'
  let entries ← Read.separated (keyValue value <* spaces) (Read.char ',') <|> pure []
  spaces
  Read.char '\x7d'
  return entries

/-- The inline table of these entries. -/
def inlineTable? (entries : List (Key × Value)) : Option Value :=
  entries.foldlM (fun table (k, v) => addEntry k.path k.name v table) (.table .inline [])

/-- Reads a value in which arrays and tables are nested at most so deep. -/
def value : Nat → Read Value
  | 0 => return .scalar (← scalar)
  | depth + 1 =>
    (do return .scalar (← scalar)) <|> (do return .array (← arrayItems (value depth))) <|> do
      match inlineTable? (← inlineEntries (value depth)) with
      | some table => return table
      | none => failure

/-- What one line of a document says. -/
inductive Statement where
  /-- The table that it is in has a value at a key. -/
  | entry (key : Key) (value : Value)
  /-- The entries that follow are in this table. -/
  | table (key : Key)
  /-- The entries that follow are in a further table of this list. -/
  | tables (key : Key)
  deriving Repr

/-- Reads a header of a table. -/
def header (opening closing : List Char) : Read Key := do
  Read.text opening
  let k ← key
  Read.text closing
  return k

/-- Reads one statement and the rest of its line. -/
def statement : Read Statement := do
  let s ←
    (do return .tables (← header ['[', '['] [']', ']'])) <|>
    (do return .table (← header ['['] [']'])) <|>
    (do let (k, v) ← keyValue (value (maxNesting - 1)); return .entry k v)
  lineRest
  return s

/-- Reads a line: a statement, a comment, or nothing. -/
def line : Read (Option Statement) := do
  let s ← (some <$> statement) <|> (comment *> lineEnd *> pure none) <|> (newline *> pure none)
  spaces
  return s

/-- Reads all lines. A byte order mark at the start is passed over. -/
def lines : Read (List (Option Statement)) := do
  discard (Read.textIf ['\ufeff'])
  spaces
  Read.many line

/-- The statements of a document. -/
def statements? (text : List Char) : Option (List Statement) := do
  match ← lines text with
  | (statements, []) => some (statements.filterMap id)
  | _ => none

/-- A document being built: the table of all, and the way to the table that entries go to. -/
structure Draft where
  /-- The table of all. -/
  root : Value
  /-- The way to the table that entries go to. -/
  current : List String
  deriving Repr

/-- Carries out one statement. -/
def Draft.apply (d : Draft) : Statement → Option Draft
  | .entry k v => do
    return { d with root := ← inCurrent d.current (addEntry k.path k.name v) d.root }
  | .table k => do return ⟨← openTable k.path k.name d.root, k.path ++ [k.name]⟩
  | .tables k => do return ⟨← openTables k.path k.name d.root, k.path ++ [k.name]⟩

/-- The table that statements describe. -/
def tableOf? (statements : List Statement) : Option Value := do
  return (← statements.foldlM Draft.apply ⟨.table .header [], []⟩).root

/-- The table that a text describes, if the text is a TOML document. -/
def parse? (text : String) : Option Value := (statements? text.toList).bind tableOf?

end ProxyPolicy.Toml
