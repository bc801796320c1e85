import ProxyPolicy.Pattern.Cursor
import ProxyPolicy.Pattern.PropertyName
import ProxyPolicy.Text.Hex

/-!
# Escapes

What a backslash and the characters after it mean in a pattern: a character, a class of characters,
or a place. Letters and digits that mean nothing are refused, so that they can come to mean
something; a digit would name a group, which no pattern can do.
-/

namespace ProxyPolicy.Pattern

open ProxyPolicy.Text

/-- The smallest part of a pattern. -/
inductive Atom where
  /-- One character. -/
  | literal (c : Char)
  /-- Any character of a class, with the number of automaton states that the class takes. -/
  | charClass (states : Nat)
  /-- A place between characters. -/
  | anchor
  deriving Repr

/-- The number of states taken to be needed for a class of characters that depends on Unicode. -/
def classStates (letter : Char) : Nat :=
  match letter.toLower with
  | 'd' => 200
  | 's' => 40
  | _ => 1500

/-- A run of so many hexadecimal digits. -/
def hexDigits : Nat → Read (List Char)
  | 0 => pure []
  | n + 1 => do
    let c ← Read.current
    Read.require (isHexDigit c)
    Read.advance
    return c :: (← hexDigits n)

/-- A character by its code point: so many hexadecimal digits, or any number of them in braces. Two
digits without braces name an octet, so outside Unicode text they must be ASCII. -/
def codePoint (digits : Nat) : Read Atom := do
  Read.advance
  let braced := (← Read.current) == '\x7b'
  let hex ←
    if braced then do
      Read.skip 1
      Read.upTo '\x7d'
    else hexDigits digits
  Read.require (!hex.isEmpty && hex.all isHexDigit)
  match scalar? (ofHex hex) with
  | some c => do
    Read.require ((← get).unicode || braced || digits != 2 || c.toNat < 128)
    return .literal c
  | none => failure

/-- The text before the first occurrence of another and the text after it. -/
def cutAt? (mark : List Char) : List Char → Option (List Char × List Char)
  | [] => none
  | c :: cs =>
    if mark.isPrefixOf (c :: cs) then some ([], (c :: cs).drop mark.length)
    else (cutAt? mark cs).map fun (before, after) => (c :: before, after)

/-- Whether the text between the braces of a class names a property, or a property and its value. -/
def isProperty (name : List Char) : Bool :=
  match cutAt? ['!', '='] name <|> cutAt? [':'] name <|> cutAt? ['='] name with
  | some (property, value) => isPropertyValue property value
  | none => isPropertyName name

/-- A class by the name of a Unicode property: one letter, or a name in braces. -/
def propertyClass : Read Atom := do
  Read.advance
  let c ← Read.current
  let name ←
    if c == '\x7b' then do
      Read.skip 1
      Read.upTo '\x7d'
    else do
      Read.require (c != '\\')
      Read.advance
      pure [c]
  Read.require ((← get).unicode && isProperty name)
  return .charClass 1500

/-- The kinds of word boundary that have a name. -/
def boundaryNames : List String := ["start", "end", "start-half", "end-half"]

/-- A word boundary, perhaps with the name of its kind in braces. Braces that do not begin with a
name are left for a count. -/
def wordBoundary : Read Atom := do
  if ← Read.startsWith ['\x7b'] then
    let before ← get
    Read.advance
    let c ← Read.current
    if c.isAlpha || c == '-' then
      let name ← Read.upTo '\x7d'
      Read.require (boundaryNames.contains (String.ofList name))
    else set before
  return .anchor

/-- What one escaped character means by itself. -/
def plainEscape (c : Char) : Read Atom :=
  match c with
  | 'a' => return .literal '\x07'
  | 'f' => return .literal '\x0c'
  | 't' => return .literal '\t'
  | 'n' => return .literal '\n'
  | 'r' => return .literal '\r'
  | 'v' => return .literal '\x0b'
  | 'A' | 'z' | 'B' | '<' | '>' => return .anchor
  | 'b' => wordBoundary
  | _ => if c.toNat < 128 && !c.isAlphanum then return .literal c else failure

/-- Reads an escape, from its backslash on. Outside Unicode text no class may hold what is not
ASCII, as the complements do. -/
def escape : Read Atom := do
  Read.skip 1
  let c ← Read.current
  match c with
  | 'x' => codePoint 2
  | 'u' => codePoint 4
  | 'U' => codePoint 8
  | 'p' | 'P' => propertyClass
  | 'd' | 's' | 'w' => do
    Read.skip 1
    return .charClass (classStates c)
  | 'D' | 'S' | 'W' => do
    Read.skip 1
    Read.require (← get).unicode
    return .charClass (classStates c)
  | _ => do
    Read.skip 1
    plainEscape c

end ProxyPolicy.Pattern
