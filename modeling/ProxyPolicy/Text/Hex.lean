/-!
# Hexadecimal digits

Reading and writing numbers in base sixteen. Escapes, addresses and the written tables of
character classes all use the same digits, in either case when read and in lower case when written.
-/

namespace ProxyPolicy.Text

/-- The value of an ASCII hexadecimal digit of either case. -/
def hexValue? (c : Char) : Option Nat :=
  if '0' ≤ c ∧ c ≤ '9' then some (c.toNat - 48)
  else if 'a' ≤ c ∧ c ≤ 'f' then some (c.toNat - 87)
  else if 'A' ≤ c ∧ c ≤ 'F' then some (c.toNat - 55)
  else none

/-- Whether a character is an ASCII hexadecimal digit. -/
def isHexDigit (c : Char) : Bool := (hexValue? c).isSome

/-- The number that a run of hexadecimal digits writes; any other character counts as zero. -/
def ofHex (cs : List Char) : Nat :=
  cs.foldl (fun n c => 16 * n + (hexValue? c).getD 0) 0

/-- The lower-case hexadecimal digits of a number, without leading zeros. -/
def toHex (n : Nat) : List Char := Nat.toDigits 16 n

/-- The number that a run of ASCII decimal digits writes. -/
def ofDecimal (cs : List Char) : Nat :=
  cs.foldl (fun n c => 10 * n + (c.toNat - 48)) 0

/-- The character with this code point, if the code point is a scalar value. -/
def scalar? (n : Nat) : Option Char :=
  if h : n.isValidChar then some (Char.ofNatAux n h) else none

end ProxyPolicy.Text
