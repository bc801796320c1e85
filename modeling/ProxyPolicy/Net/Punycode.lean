import ProxyPolicy.Text.Hex

/-!
# Punycode

The encoding of a text as ASCII letters, digits and hyphens (RFC 3492). The part before the last
hyphen is the text's ASCII characters; the digits after it are numbers of variable length, each of
which says how far to advance, over code points and over places in the text, before the next
character is put in.
-/

namespace ProxyPolicy.Net.Punycode

open ProxyPolicy.Text

/-- The value of a digit: letters first, then decimal digits. -/
def digit? (c : Char) : Option Nat :=
  if 'a' ≤ c ∧ c ≤ 'z' then some (c.toNat - 97)
  else if 'A' ≤ c ∧ c ≤ 'Z' then some (c.toNat - 65)
  else if '0' ≤ c ∧ c ≤ '9' then some (c.toNat - 48 + 26)
  else none

/-- The number of times a distance is divided by 35 before it is at most 455, and the quotient. -/
def shrink (delta : Nat) : Nat × Nat :=
  if h : 455 < delta then
    let r := shrink (delta / 35)
    (r.1 + 1, r.2)
  else (0, delta)
termination_by delta
decreasing_by omega

/-- The bias for the next number, after a distance was read that led to a text of this length. -/
def adapt (delta length : Nat) (isFirst : Bool) : Nat :=
  let halved := if isFirst then delta / 700 else delta / 2
  let r := shrink (halved + halved / length)
  36 * r.1 + 36 * r.2 / (r.2 + 38)

/-- The least digit that does not end a number, at the place `k`. -/
def threshold (k bias : Nat) : Nat :=
  if k ≤ bias + 1 then 1 else if bias + 26 ≤ k then 26 else k - bias

/-- A number of which some digits are read. -/
structure Reading where
  /-- The value read so far. -/
  value : Nat
  /-- The weight of the next digit. -/
  weight : Nat
  /-- The place of the next digit, in steps of 36. -/
  place : Nat

/-- A text in the course of decoding. -/
structure Decoding where
  /-- The characters put in so far. -/
  text : List Char
  /-- The code point that is being put in. -/
  codePoint : Nat
  /-- The place in the text at which the next distance starts. -/
  position : Nat
  /-- The bias of the next number. -/
  bias : Nat
  /-- The number that has begun and not ended. -/
  reading : Option Reading

/-- Numbers are kept in 32-bit words; a larger one makes the text invalid. -/
def wordLimit : Nat := 0x100000000

namespace Decoding

/-- A whole distance read: the next character is put in. -/
def insert? (s : Decoding) (delta : Nat) : Option Decoding :=
  let total := s.position + delta
  let length := s.text.length + 1
  match scalar? (s.codePoint + total / length) with
  | none => none
  | some c =>
    let place := total % length
    some ⟨s.text.take place ++ c :: s.text.drop place, c.toNat, place + 1,
      adapt delta length (s.position == 0), none⟩

/-- One digit. -/
def feed? (s : Decoding) (c : Char) : Option Decoding :=
  match digit? c with
  | none => none
  | some d =>
    let r := s.reading.getD ⟨0, 1, 36⟩
    let value := r.value + d * r.weight
    if wordLimit ≤ s.position + value then none
    else
      let t := threshold r.place s.bias
      if d < t then s.insert? value
      else
        let weight := r.weight * (36 - t)
        if wordLimit ≤ weight then none
        else some { s with reading := some ⟨value, weight, r.place + 36⟩ }

end Decoding

/-- The text that a Punycode text stands for. -/
def decode? (cs : List Char) : Option (List Char) :=
  let tail := (cs.reverse.takeWhile (· != '-')).reverse
  let ascii := cs.take (cs.length - tail.length - 1)
  let digits := if ascii = [] then cs else tail
  match digits.foldlM Decoding.feed? ⟨ascii, 128, 0, 72, none⟩ with
  | some s => if s.reading.isNone then some s.text else none
  | none => none

end ProxyPolicy.Net.Punycode
