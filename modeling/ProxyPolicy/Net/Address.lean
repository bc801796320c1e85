import ProxyPolicy.Text.Hex

/-!
# Address literals

The texts that are read as an address rather than as a name. An IPv4 literal is four decimal
octets without leading zeros. An IPv6 literal is eight groups of one to four hexadecimal digits, the
last two of which may be written as an IPv4 literal; one `::` may stand for one or more groups of
zeros. Neither has brackets, a zone or a port.
-/

namespace ProxyPolicy.Net

open ProxyPolicy.Text

/-- Whether a text writes a number up to 255 in decimal, without leading zeros. -/
def isOctet (cs : List Char) : Bool :=
  cs.all Char.isDigit && 1 ≤ cs.length && cs.length ≤ 3 && ofDecimal cs ≤ 255 &&
    (cs.length == 1 || cs.head? != some '0')

/-- Whether a text is an IPv4 literal. -/
def isIPv4 (cs : List Char) : Bool :=
  let parts := cs.splitOn '.'
  parts.length == 4 && parts.all isOctet

/-- Whether a text is one group of an IPv6 literal. -/
def isGroup (cs : List Char) : Bool :=
  cs.all isHexDigit && 1 ≤ cs.length && cs.length ≤ 4

/-- The number of 16-bit groups that some parts of an IPv6 literal write. Only the last part may be
an IPv4 literal, which counts as two. -/
def groupCount? : List (List Char) → Option Nat
  | [] => some 0
  | [part] => if isGroup part then some 1 else if isIPv4 part then some 2 else none
  | part :: parts => if isGroup part then (groupCount? parts).map (· + 1) else none

/-- The parts of a text between its colons; none for the empty text. -/
def groupParts (cs : List Char) : List (List Char) :=
  if cs = [] then [] else cs.splitOn ':'

/-- The texts before and after the first `::`. -/
def cutAtGap? : List Char → Option (List Char × List Char)
  | ':' :: ':' :: rest => some ([], rest)
  | c :: rest => (cutAtGap? rest).map fun p => (c :: p.1, p.2)
  | [] => none

/-- Whether a text is an IPv6 literal. -/
def isIPv6 (cs : List Char) : Bool :=
  match cutAtGap? cs with
  | none => groupCount? (groupParts cs) == some 8
  | some (before, after) =>
    let head := groupParts before
    head.all isGroup &&
      match groupCount? (groupParts after) with
      | some n => head.length + n ≤ 7
      | none => false

/-- Whether a text is an IPv4 or an IPv6 literal. -/
def isAddress (cs : List Char) : Bool := isIPv4 cs || isIPv6 cs

end ProxyPolicy.Net
