import ProxyPolicy.Text.LetterCase

/-!
# Lower case

The lower-case form of a text. Every character is mapped on its own except the capital sigma, which
becomes the final form at the end of a word and the ordinary form elsewhere.
-/

namespace ProxyPolicy.Text

/-- Whether the first character that case does not ignore is a cased letter. -/
def startsCased (cs : List Char) : Bool :=
  match cs.dropWhile isCaseIgnorable with
  | c :: _ => isCased c
  | [] => false

/-- The lower-case sigma for its place: final when a cased letter stands before it and none
after. -/
def lowerSigma (before after : List Char) : Char :=
  if startsCased before && !startsCased after then 'ς' else 'σ'

/-- The lower-case form of the rest of a text, given the characters before it, nearest first. -/
def lowerFrom (before : List Char) : List Char → List Char
  | [] => []
  | c :: cs =>
    (if c = 'Σ' then [lowerSigma before cs] else lowerChar c) ++ lowerFrom (c :: before) cs

/-- The lower-case form of a text. -/
def lowercase (cs : List Char) : List Char := lowerFrom [] cs

end ProxyPolicy.Text
