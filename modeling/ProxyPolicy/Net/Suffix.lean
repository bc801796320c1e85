/-!
# Public suffixes

A public suffix is a domain under which names are registered by the public, such as `com` or
`co.uk`. A rule names suffixes by their labels; `*` stands for any one label, and an exception names
a domain that a wildcard would otherwise make a suffix. The suffix of a name is that of the
exception that matches it, if there is one, and of the longest rule that matches otherwise; a name
that no rule matches ends in a suffix of one label. The registrable domain is the suffix and the
label before it.
-/

namespace ProxyPolicy.Net

/-- A part of a name between two dots. -/
abbrev Label := List Char

/-- The labels of a name, first to last. -/
def labels (name : List Char) : List Label := name.splitOn '.'

/-- The name that labels make. -/
def ofLabels (ls : List Label) : List Char := ['.'].intercalate ls

/-- A rule of a list of public suffixes. -/
structure SuffixRule where
  /-- The labels from the last to the first; `*` matches any label. -/
  pattern : List Label
  /-- Whether the rule names a domain that is not a suffix. -/
  exempt : Bool

namespace SuffixRule

/-- The rule that a line of a suffix list writes. -/
def ofText (text : String) : SuffixRule :=
  match text.toList with
  | '!' :: name => ⟨(labels name).reverse, true⟩
  | name => ⟨(labels name).reverse, false⟩

/-- Whether the labels of a pattern match the last labels of a name, both given from the last. -/
def patternMatches : List Label → List Label → Bool
  | [], _ => true
  | _ :: _, [] => false
  | p :: ps, l :: ls => (p == ['*'] || p == l) && patternMatches ps ls

/-- Whether a rule applies to a name whose labels are given from the last. -/
def applies (r : SuffixRule) (reversed : List Label) : Bool := patternMatches r.pattern reversed

end SuffixRule

/-- The number of labels in the public suffix of a name whose labels are given from the last. -/
def suffixLength (rules : List SuffixRule) (reversed : List Label) : Nat :=
  let matching := rules.filter (·.applies reversed)
  match matching.find? (·.exempt) with
  | some r => r.pattern.length - 1
  | none => (matching.map (·.pattern.length)).foldl max 1

/-- The registrable domain of a name: its public suffix and one more label. A name with an empty
label has none, nor has one that is itself a suffix. -/
def registrable? (rules : List SuffixRule) (name : List Char) : Option (List Char) :=
  let ls := labels name
  if ls.any (· == []) then none
  else
    let n := suffixLength rules ls.reverse
    if n < ls.length then some (ofLabels (ls.drop (ls.length - (n + 1)))) else none

end ProxyPolicy.Net
