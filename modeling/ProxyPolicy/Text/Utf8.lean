/-!
# UTF-8

Decoding of octets, one at a time, by a machine that knows which octets may come next (the table of
well-formed byte sequences of the Unicode standard). An octet that cannot continue the character
begun ends it as one ill-formed unit and is then read afresh, so that each maximal ill-formed
subpart is one unit. A text is the units themselves when all are well formed (`decode?`), or the
units with the replacement character for the ill-formed ones (`decodeLossy`).
-/

namespace ProxyPolicy.Text.Utf8

/-- A character of which some octets are still owed. -/
structure Begun where
  /-- The bits read so far. -/
  bits : Nat
  /-- The number of octets owed after the next one. -/
  owed : Nat
  /-- The least octet that may come next. -/
  least : Nat
  /-- The greatest octet that may come next. -/
  greatest : Nat
  deriving DecidableEq, Repr

/-- A unit of decoded text: a character, or nothing for an ill-formed sequence of octets. -/
abbrev Chunk := Option Char

/-- What one octet does between two characters: it is a unit by itself or it begins a character. -/
def start (b : Nat) : Chunk ⊕ Begun :=
  if b < 0x80 then .inl (some (Char.ofNat b))
  else if b < 0xc2 then .inl none
  else if b < 0xe0 then .inr ⟨b - 0xc0, 0, 0x80, 0xbf⟩
  else if b = 0xe0 then .inr ⟨0, 1, 0xa0, 0xbf⟩
  else if b = 0xed then .inr ⟨0xd, 1, 0x80, 0x9f⟩
  else if b < 0xf0 then .inr ⟨b - 0xe0, 1, 0x80, 0xbf⟩
  else if b = 0xf0 then .inr ⟨0, 2, 0x90, 0xbf⟩
  else if b < 0xf4 then .inr ⟨b - 0xf0, 2, 0x80, 0xbf⟩
  else if b = 0xf4 then .inr ⟨4, 2, 0x80, 0x8f⟩
  else .inl none

/-- The machine's state: the units decoded and the character begun, if any. -/
structure Decoder where
  /-- The units decoded so far. -/
  units : Array Chunk
  /-- The character that has begun and not ended. -/
  begun : Option Begun

namespace Decoder

/-- Before the first octet. -/
def empty : Decoder := ⟨#[], none⟩

/-- An octet read between two characters. -/
def fresh (units : Array Chunk) (b : Nat) : Decoder :=
  match start b with
  | .inl u => ⟨units.push u, none⟩
  | .inr p => ⟨units, some p⟩

/-- One octet: it continues the character begun, or ends it as ill-formed and is read afresh. -/
def feed (d : Decoder) (b : UInt8) : Decoder :=
  match d.begun with
  | none => fresh d.units b.toNat
  | some p =>
    if p.least ≤ b.toNat ∧ b.toNat ≤ p.greatest then
      let bits := 64 * p.bits + (b.toNat - 0x80)
      if p.owed = 0 then ⟨d.units.push (some (Char.ofNat bits)), none⟩
      else ⟨d.units, some ⟨bits, p.owed - 1, 0x80, 0xbf⟩⟩
    else fresh (d.units.push none) b.toNat

/-- The units of the whole input: a character still owed octets at its end is ill-formed. -/
def finish (d : Decoder) : List Chunk :=
  match d.begun with
  | none => d.units.toList
  | some _ => (d.units.push none).toList

end Decoder

/-- The units of a sequence of octets. -/
def units (bs : List UInt8) : List Chunk := (bs.foldl Decoder.feed Decoder.empty).finish

/-- The character that stands for what could not be decoded. -/
def replacement : Char := '\ufffd'

/-- The text of a sequence of octets, with one replacement character for each maximal ill-formed
subpart. -/
def decodeLossy (bs : List UInt8) : List Char := (units bs).map (·.getD replacement)

/-- The text of a sequence of octets that is well formed throughout. -/
def decode? (bs : List UInt8) : Option (List Char) := (units bs).mapM id

/-- The octets of a text. -/
def encode (cs : List Char) : List UInt8 := cs.flatMap String.utf8EncodeChar

end ProxyPolicy.Text.Utf8
