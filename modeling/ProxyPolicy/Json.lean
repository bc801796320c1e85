import ProxyPolicy.Text.Hex

/-!
# JSON output

The documents that the program prints: strings, arrays and objects, one item a line and indented by
two blanks a level. Characters are written as they are, but for quotes, backslashes and controls.
-/

namespace ProxyPolicy

open ProxyPolicy.Text

/-- A document. -/
inductive Json where
  /-- A text. -/
  | string (s : String)
  /-- A list of documents. -/
  | array (items : List Json)
  /-- Documents with names, in order. -/
  | object (fields : List (String × Json))
  deriving Repr

namespace Json

/-- How a character is written between the quotes of a string. -/
def escapeChar (c : Char) : List Char :=
  if c = '"' then ['\\', '"']
  else if c = '\\' then ['\\', '\\']
  else if c = '\x08' then ['\\', 'b']
  else if c = '\t' then ['\\', 't']
  else if c = '\n' then ['\\', 'n']
  else if c = '\x0c' then ['\\', 'f']
  else if c = '\r' then ['\\', 'r']
  else if c < ' ' then
    ['\\', 'u', '0', '0'] ++ (if c.toNat < 16 then ['0'] else []) ++ toHex c.toNat
  else [c]

/-- A string with its quotes. -/
def quoted (s : String) : String := String.ofList ('"' :: s.toList.flatMap escapeChar ++ ['"'])

/-- Lines of items, separated by commas and indented by so many levels, between the brackets of the
level above. -/
def block (opening closing : String) (level : Nat) (items : List String) : String :=
  let indent (n : Nat) : String := String.ofList ('\n' :: List.replicate (2 * n) ' ')
  if items.isEmpty then opening ++ closing
  else
    opening ++ ",".intercalate (items.map (indent (level + 1) ++ ·)) ++ indent level ++ closing

mutual

/-- A document as text, at a level of indentation. -/
def render (level : Nat) : Json → String
  | string s => quoted s
  | array items => block "[" "]" level (renderItems (level + 1) items)
  | object fields => block "\x7b" "\x7d" level (renderFields (level + 1) fields)

/-- The items of an array as texts. -/
def renderItems (level : Nat) : List Json → List String
  | [] => []
  | item :: items => render level item :: renderItems level items

/-- The fields of an object as texts. -/
def renderFields (level : Nat) : List (String × Json) → List String
  | [] => []
  | (name, value) :: fields =>
    (quoted name ++ ": " ++ render level value) :: renderFields level fields

end

/-- A document as text. -/
def pretty (j : Json) : String := j.render 0

end Json

end ProxyPolicy
