import ProxyPolicy.Pattern.Escape

/-!
# Bracketed classes

A class written out between brackets: characters, ranges, escapes, named ASCII classes and further
bracketed classes, joined by the operators for intersection (`&&`), difference (`--`) and symmetric
difference (`~~`), which associate to the left.
-/

namespace ProxyPolicy.Pattern

open ProxyPolicy.Text

/-- How deep a class is nested and how many states it takes. -/
structure ClassShape where
  /-- The nesting depth. -/
  depth : Nat
  /-- The number of automaton states. -/
  states : Nat
  deriving Repr

/-- The shape of several items side by side. -/
def ClassShape.union : List ClassShape → ClassShape
  | [] => ⟨0, 0⟩
  | [item] => item
  | items => ⟨1 + (items.map (·.depth)).foldl max 0, (items.map (·.states)).foldl (· + ·) 0⟩

/-- The shape of an operator with its operands. -/
def ClassShape.combine (left right : ClassShape) : ClassShape :=
  ⟨1 + max left.depth right.depth, left.states + right.states⟩

/-- A bracketed class that is still open. -/
structure OpenClass where
  /-- The items since the last operator, the latest first. -/
  items : List ClassShape
  /-- What stands before the last operator. -/
  operand : Option ClassShape
  deriving Repr

/-- What a class holds when it is closed. -/
def OpenClass.content (b : OpenClass) : ClassShape :=
  match b.operand with
  | some left => left.combine (.union b.items)
  | none => .union b.items

/-- The names of the ASCII classes. -/
def asciiClassNames : List String :=
  ["alnum", "alpha", "ascii", "blank", "cntrl", "digit", "graph", "lower", "print", "punct",
    "space", "upper", "word", "xdigit"]

/-- What follows a named ASCII class, such as `[:alpha:]`, at the start of a text, and whether the
class is complemented. -/
def asciiClass? (text : List Char) : Option (Bool × List Char) :=
  match text with
  | '[' :: ':' :: more =>
    let negated := more.head? == some '^'
    let more := if negated then more.tail else more
    let name := more.takeWhile (· != ':')
    match more.dropWhile (· != ':') with
    | ':' :: ']' :: rest =>
      if asciiClassNames.contains (String.ofList name) then some (negated, rest) else none
    | _ => none
  | _ => none

/-- Opens a class, from its bracket on. Hyphens at its start, or else a closing bracket, stand for
themselves. Outside Unicode text a complement would hold what is not ASCII. -/
def openClass : Read OpenClass := do
  Read.advance
  if (← Read.current) == '^' then
    Read.require (← get).unicode
    Read.advance
  let hyphens ← Read.spaced (· == '-')
  let items := hyphens.map fun _ => ⟨0, 1⟩
  if items.isEmpty && (← Read.current) == ']' then
    Read.advance
    return ⟨[⟨0, 1⟩], none⟩
  return ⟨items, none⟩

/-- One end of a range, or an item by itself. -/
def classAtom : Read Atom := do
  let c ← Read.current
  if c == '\\' then escape
  else do
    Read.skip 1
    return .literal c

/-- The item that an atom is. Outside Unicode text it must be ASCII. -/
def classItem (atom : Atom) : Read ClassShape :=
  match atom with
  | .literal c => do
    Read.require ((← get).unicode || c.toNat < 128)
    return ⟨0, c.utf8Size⟩
  | .charClass states => return ⟨0, states⟩
  | .anchor => failure

/-- The character after a hyphen that decides whether it makes a range. In a verbose pattern blanks
are passed over, and so is the sign of a comment, though not the comment. -/
def afterHyphen (verbose : Bool) (rest : List Char) : Option Char :=
  if verbose then
    match rest.dropWhile isBlank with
    | [] => rest.head?
    | '#' :: more => (more.dropWhile isBlank).head? <|> rest.head?
    | c :: _ => some c
  else rest.head?

/-- An item or a range. -/
def classRange : Read ClassShape := do
  let first ← classAtom
  Read.skipBlanks
  let c ← Read.current
  let s ← get
  let next := afterHyphen s.verbose s.rest.tail
  if c != '-' || next == some ']' || next == some '-' then classItem first
  else do
    Read.advance
    match first, ← classAtom with
    | .literal a, .literal b => do
      Read.require (a ≤ b)
      discard (classItem (.literal a))
      discard (classItem (.literal b))
      return ⟨0, 8⟩
    | _, _ => failure

/-- Reads what stands next in a class. The innermost open class comes first, followed by those that
it stands in; the outcome is the classes then open, or the outermost class when it is closed. -/
def classStep (inner : OpenClass) (outer : List OpenClass) :
    Read (ClassShape ⊕ OpenClass × List OpenClass) := do
  Read.skipBlanks
  let c ← Read.current
  if let some (negated, rest) := asciiClass? (← get).rest then
    modify fun s => { s with rest }
    Read.require (!negated || (← get).unicode)
    return .inr ({ inner with items := ⟨0, 8⟩ :: inner.items }, outer)
  else if c == '[' then
    return .inr (← openClass, inner :: outer)
  else if c == ']' then
    Read.skip 1
    let closed : ClassShape := ⟨1 + inner.content.depth, inner.content.states + 8⟩
    match outer with
    | [] => return .inl closed
    | parent :: outer => return .inr ({ parent with items := closed :: parent.items }, outer)
  else if [['&', '&'], ['-', '-'], ['~', '~']].contains ((← get).rest.take 2) then
    Read.skip 2
    return .inr (⟨[], some inner.content⟩, outer)
  else
    let item ← classRange
    return .inr ({ inner with items := item :: inner.items }, outer)

/-- Reads a class to its end. Each step takes a character, so as many steps as there are characters
suffice. -/
def classLoop : Nat → OpenClass → List OpenClass → Read ClassShape
  | 0, _, _ => failure
  | fuel + 1, inner, outer => do
    match ← classStep inner outer with
    | .inl shape => return shape
    | .inr (inner, outer) => classLoop fuel inner outer

/-- Reads a bracketed class, from its bracket on. -/
def bracketedClass : Read ClassShape := do
  let fuel := (← get).rest.length
  classLoop fuel (← openClass) []

end ProxyPolicy.Pattern
