import ProxyPolicy.Text.Hex

/-!
# Sets and maps of code points

A character class is a finite union of ranges of code points, and a character mapping a finite
list of ranges that are shifted as a whole. Both are written as text, one range a word, in
hexadecimal: a literal of a thousand pairs is slow to elaborate, and the text is close to the form
in which the Unicode Character Database publishes the data.

A word of a set is `41-5a` or `aa`. A word of a map is `41-5a:61`, which sends the range to the
range of the same length that starts at `61`; `100-12e+2:101`, which does so for every second code
point; or `df:73.73`, which sends one code point to several.
-/

namespace ProxyPolicy.Text

/-- The words of a text: what stands between blanks and line ends. -/
def words (text : String) : List (List Char) :=
  (text.toList.splitOnP fun c => c == ' ' || c == '\n').filter (· ≠ [])

/-- A set of code points, as inclusive ranges. -/
structure CodeSet where
  /-- The first and the last code point of each range. -/
  ranges : List (Nat × Nat)

namespace CodeSet

/-- Whether a character lies in one of the ranges. -/
def contains (s : CodeSet) (c : Char) : Bool :=
  s.ranges.any fun r => r.1 ≤ c.toNat && c.toNat ≤ r.2

/-- The range that a word writes. -/
def rangeOfWord (w : List Char) : Nat × Nat :=
  match w.splitOn '-' with
  | first :: last :: _ => (ofHex first, ofHex last)
  | _ => (ofHex w, ofHex w)

/-- The set whose ranges a text writes, one a word. -/
def ofText (text : String) : CodeSet :=
  ⟨(words text).map rangeOfWord⟩

end CodeSet

/-- A range of code points that a mapping treats alike. -/
structure CodeMap.Run where
  /-- The first code point mapped. -/
  first : Nat
  /-- The last code point mapped. -/
  last : Nat
  /-- The distance between the code points mapped. -/
  step : Nat
  /-- The image of the first code point; the others' images are as far from it as they are from
  the first. -/
  image : List Nat

/-- A mapping of characters to texts, given by runs of code points. -/
structure CodeMap where
  /-- The runs, no two of which share a code point. -/
  runs : List CodeMap.Run

namespace CodeMap

/-- The image of a character in a run that holds it. -/
def Run.image? (r : Run) (c : Char) : Option (List Char) :=
  if r.first ≤ c.toNat ∧ c.toNat ≤ r.last ∧ (c.toNat - r.first) % r.step = 0 then
    some (r.image.map fun n => Char.ofNat (n + (c.toNat - r.first)))
  else none

/-- The image of a character, or nothing when the mapping leaves it alone. -/
def image? (m : CodeMap) (c : Char) : Option (List Char) :=
  m.runs.findSome? (·.image? c)

/-- The run that a word writes. -/
def runOfWord (w : List Char) : Run :=
  match w.splitOn ':' with
  | source :: target :: _ =>
    let image := (target.splitOn '.').map ofHex
    match source.splitOn '+' with
    | range :: step :: _ =>
      let r := CodeSet.rangeOfWord range
      ⟨r.1, r.2, ofHex step, image⟩
    | _ =>
      let r := CodeSet.rangeOfWord source
      ⟨r.1, r.2, 1, image⟩
  | _ => ⟨0, 0, 1, [0]⟩

/-- The mapping whose runs a text writes, one a word. -/
def ofText (text : String) : CodeMap :=
  ⟨(words text).map runOfWord⟩

end CodeMap

end ProxyPolicy.Text
