import ProxyPolicy.Pattern.Bracket
import ProxyPolicy.Text.Letter

/-!
# Patterns

Which texts are patterns: regular expressions without look-around and without references to groups.
A text is read once, from left to right, and only what decides whether it is accepted is kept of
each part (`Shape`): a pattern must not be nested too deep, and the automaton made from it must not
grow too large. The number of its states is an estimate.
-/

namespace ProxyPolicy.Pattern

open ProxyPolicy.Text

/-- What is kept of a part of a pattern. -/
structure Shape where
  /-- The nesting depth. -/
  depth : Nat
  /-- The number of automaton states. -/
  states : Nat
  /-- Whether the part matches the empty text only. -/
  isVoid : Bool
  /-- Whether the part only changes switches, so that it cannot be repeated. -/
  isSwitch : Bool
  deriving Repr

namespace Shape

/-- The shape of an atom. -/
def ofAtom : Atom → Shape
  | .literal c => ⟨0, c.utf8Size, false, false⟩
  | .charClass states => ⟨0, states, false, false⟩
  | .anchor => ⟨0, 1, true, false⟩

/-- The greatest depth of several parts. -/
def maxDepth (parts : List Shape) : Nat := (parts.map (·.depth)).foldl max 0

/-- The states of several parts together. -/
def totalStates (parts : List Shape) : Nat := (parts.map (·.states)).foldl (· + ·) 0

/-- The shape of parts that follow each other. -/
def sequence : List Shape → Shape
  | [] => ⟨0, 1, true, false⟩
  | [part] => part
  | parts => ⟨1 + maxDepth parts, totalStates parts, parts.all (·.isVoid), false⟩

/-- The shape of parts that are alternatives. -/
def alternatives : List Shape → Shape
  | [part] => part
  | parts => ⟨1 + maxDepth parts, totalStates parts + 1, parts.all (·.isVoid), false⟩

/-- The shape of a group around a part. -/
def group (part : Shape) : Shape := ⟨1 + part.depth, part.states + 2, part.isVoid, false⟩

/-- The states of a part that is copied: at least so often, and at most so often if there is a
bound. Each copy that may be left out takes one more state. -/
def copiedStates (least : Nat) (most : Option Nat) (states : Nat) : Nat :=
  match most with
  | some most => least * states + (most - least) * (states + 1) + 1
  | none => max least 1 * states + 2

/-- The shape of a part repeated. A part that matches the empty text only need not be copied. -/
def repeated (least : Nat) (most : Option Nat) (part : Shape) : Shape :=
  let states := if part.isVoid then part.states + 1 else copiedStates least most part.states
  ⟨1 + part.depth, states, part.isVoid || most == some 0, false⟩

end Shape

/-- A group that is still open. -/
structure OpenGroup where
  /-- The parts before it, the latest first. -/
  parts : List Shape
  /-- The alternatives before those parts, the latest first. -/
  branches : List Shape
  /-- Whether the pattern was verbose before it. -/
  verbose : Bool
  /-- Whether the pattern was one over Unicode text before it. -/
  unicode : Bool
  deriving Repr

/-- What has been read of a pattern. -/
structure Progress where
  /-- The parts of the alternative being read, the latest first. -/
  parts : List Shape
  /-- The alternatives before it in the same group, the latest first. -/
  branches : List Shape
  /-- The open groups, the innermost first. -/
  groups : List OpenGroup
  /-- The names of groups seen so far. -/
  names : List (List Char)
  deriving Repr

namespace Progress

/-- Before the first character. -/
def start : Progress := ⟨[], [], [], []⟩

/-- Adds a part. -/
def push (p : Progress) (part : Shape) : Progress := { p with parts := part :: p.parts }

/-- The shape of what is in the innermost group. -/
def content (p : Progress) : Shape := .alternatives (.sequence p.parts :: p.branches)

end Progress

/-! ## Repetition -/

/-- The part that an operator repeats, which must be there, and what comes before it. -/
def repeatable (p : Progress) : Read (Shape × Progress) :=
  match p.parts with
  | part :: parts => do
    Read.require (!part.isSwitch)
    return (part, { p with parts })
  | [] => failure

/-- Passes over the sign of a lazy repetition, if it is there. -/
def skipLazy : Read Unit := do
  if ← Read.startsWith ['?'] then Read.skip 1

/-- Reads one of the operators `?`, `*` and `+`. -/
def uncounted (p : Progress) (least : Nat) (most : Option Nat) : Read Progress := do
  let (part, p) ← repeatable p
  Read.skip 1
  skipLazy
  return p.push (part.repeated least most)

/-- Passes over blanks, whether the pattern is verbose or not. -/
def skipSpace : Read Unit := do
  modify fun s => { s with rest := s.rest.dropWhile isBlank }
  Read.skipBlanks

/-- Reads a number of at most 32 bits in decimal, with blanks around it; nothing if there is no
digit. -/
def count? : Read (Option Nat) := do
  modify fun s => { s with rest := s.rest.dropWhile isBlank }
  let digits ← Read.spaced Char.isDigit
  skipSpace
  if digits.isEmpty then return none
  Read.require (ofDecimal digits < 0x100000000)
  return some (ofDecimal digits)

/-- Reads a number that must be there. -/
def count : Read Nat := do
  match ← count? with
  | some n => return n
  | none => failure

/-- Reads a counted repetition: exactly, at least, or between so often. -/
def counted (p : Progress) : Read Progress := do
  let (part, p) ← repeatable p
  Read.advance
  let least ← count
  let most ←
    if (← Read.current) == ',' then do
      Read.advance
      if (← Read.current) == '\x7d' then pure none
      else do
        let most ← count
        pure (some most)
    else pure (some least)
  Read.require ((← Read.current) == '\x7d')
  Read.advance
  skipLazy
  Read.require (least ≤ most.getD least)
  return p.push (part.repeated least most)

/-! ## Groups -/

/-- The letters that switch something on or off. -/
def switchLetters : List Char := ['i', 'm', 's', 'U', 'u', 'R', 'x']

/-- Whether no character occurs twice. -/
def allDifferent : List Char → Bool
  | [] => true
  | c :: cs => !cs.contains c && allDifferent cs

/-- Whether a text is a list of switches: letters to switch on, then perhaps a hyphen and letters to
switch off. -/
def isSwitches (text : List Char) : Bool :=
  text.all (fun c => c == '-' || switchLetters.contains c) && allDifferent text &&
    text.getLast? != some '-'

/-- The state of one switch after a list of switches. -/
def switched (text : List Char) (letter : Char) (before : Bool) : Bool :=
  if (text.takeWhile (· != '-')).contains letter then true
  else if (text.dropWhile (· != '-')).contains letter then false
  else before

/-- Puts a list of switches in force. -/
def setSwitches (text : List Char) : Read Unit :=
  modify fun s =>
    { s with verbose := switched text 'x' s.verbose, unicode := switched text 'u' s.unicode }

/-- Whether a text can name a group. -/
def isGroupName : List Char → Bool
  | [] => false
  | c :: cs =>
    (c == '_' || isAlphabetic c) &&
      cs.all fun c => c == '_' || c == '.' || c == '[' || c == ']' || isAlphanumeric c

/-- Begins a group; the switches as they stand are kept for its end. -/
def beginGroup (p : Progress) : Read Progress := do
  let s ← get
  return { p with
    parts := [], branches := [], groups := ⟨p.parts, p.branches, s.verbose, s.unicode⟩ :: p.groups }

/-- Begins a group with a name, which no other group may have. -/
def beginNamedGroup (p : Progress) : Read Progress := do
  let rest := (← get).rest
  let name := rest.takeWhile (· != '>')
  Read.skip name.length
  Read.require ((← Read.current) == '>' && isGroupName name && !p.names.contains name)
  Read.skip 1
  beginGroup { p with names := name :: p.names }

/-- Reads switches: for the rest of the group they stand in, or for a group of their own. -/
def switches (p : Progress) : Read Progress := do
  let text := (← get).rest.takeWhile fun c => c != ':' && c != ')'
  Read.skip text.length
  let closing ← Read.current
  Read.require (isSwitches text && (closing == ':' || !text.isEmpty))
  Read.skip 1
  if closing == ':' then do
    let p ← beginGroup p
    setSwitches text
    return p
  else do
    setSwitches text
    return p.push ⟨0, 1, true, true⟩

/-- Reads the beginning of a group. Look-around is refused. -/
def openGroup (p : Progress) : Read Progress := do
  Read.advance
  if ← Read.startsWith ['?', '<', '='] then failure
  else if ← Read.startsWith ['?', '<', '!'] then failure
  else if ← Read.startsWith ['?', 'P', '<'] then do
    Read.skip 3
    beginNamedGroup p
  else if ← Read.startsWith ['?', '<'] then do
    Read.skip 2
    beginNamedGroup p
  else if ← Read.startsWith ['?'] then do
    Read.skip 1
    switches p
  else beginGroup p

/-- Reads the end of a group. -/
def closeGroup (p : Progress) : Read Progress := do
  match p.groups with
  | [] => failure
  | g :: groups => do
    Read.skip 1
    modify fun s => { s with verbose := g.verbose, unicode := g.unicode }
    return { p with parts := p.content.group :: g.parts, branches := g.branches, groups }

/-! ## The whole pattern -/

/-- Reads what stands next. A point outside Unicode text would match what is no character. -/
def step (p : Progress) : Read Progress := do
  match ← Read.current with
  | '(' => openGroup p
  | ')' => closeGroup p
  | '|' => do
    Read.skip 1
    return { p with parts := [], branches := .sequence p.parts :: p.branches }
  | '[' => do
    let shape ← bracketedClass
    return p.push ⟨shape.depth, shape.states, false, false⟩
  | '?' => uncounted p 0 (some 1)
  | '*' => uncounted p 0 none
  | '+' => uncounted p 1 none
  | '\x7b' => counted p
  | '\\' => return p.push (.ofAtom (← escape))
  | '.' => do
    Read.skip 1
    Read.require (← get).unicode
    return p.push ⟨0, 20, false, false⟩
  | '^' | '$' => do
    Read.skip 1
    return p.push (.ofAtom .anchor)
  | c => do
    Read.skip 1
    return p.push (.ofAtom (.literal c))

/-- Reads a pattern to its end. Each step takes a character, so as many steps as there are
characters suffice. -/
def loop : Nat → Progress → Read Progress
  | 0, p => pure p
  | fuel + 1, p => do
    Read.skipBlanks
    if (← get).rest.isEmpty then return p else loop fuel (← step p)

/-- The greatest nesting depth of a pattern. -/
def maxNesting : Nat := 250

/-- The greatest number of states of an automaton, as they are estimated here. -/
def maxStates : Nat := 327680

/-- The shape of the pattern that a text is. -/
def shape? (text : List Char) : Option Shape := do
  let (p, _) ← (loop (text.length + 1) .start).run ⟨text, false, true⟩
  if p.groups.isEmpty then some p.content else none

/-- Whether a text is a pattern within the limits. As the number of states is an estimate, a reader
that makes the automaton may judge otherwise of a pattern near `maxStates`. So the store and the
program do not fix this judgement: they take one as a parameter, and this is the one they run
with. -/
def isPattern (text : String) : Bool :=
  match shape? text.toList with
  | some shape => shape.depth ≤ maxNesting && shape.states ≤ maxStates
  | none => false

end ProxyPolicy.Pattern
