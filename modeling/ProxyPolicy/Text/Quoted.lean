import ProxyPolicy.Text.Printable

/-!
# Quoted text

How a text is shown inside a message: in double quotes, so that its ends are visible, with every
character that would not be seen as itself escaped. `quote` writes this form.
-/

namespace ProxyPolicy.Text

/-- The escape that names a character by its code point. -/
def codePointEscape (c : Char) : List Char :=
  '\\' :: 'u' :: '\x7b' :: toHex c.toNat ++ ['\x7d']

/-- How one character is shown between double quotes: quote, backslash and the common controls by
their short escapes, other characters that cannot be seen on their own by their code point, and the
rest as they are. -/
def quoteChar (c : Char) : List Char :=
  if c = '\x00' then ['\\', '0']
  else if c = '\t' then ['\\', 't']
  else if c = '\r' then ['\\', 'r']
  else if c = '\n' then ['\\', 'n']
  else if c = '\\' then ['\\', '\\']
  else if c = '"' then ['\\', '"']
  else if extendsGrapheme c || !isPrintable c then codePointEscape c
  else [c]

/-- A text between double quotes, escaped. -/
def quote (s : String) : String :=
  String.ofList ('"' :: s.toList.flatMap quoteChar ++ ['"'])

end ProxyPolicy.Text
