import Mathlib.Algebra.Group.Nat.Defs
import Mathlib.Data.List.Basic
import ProxyPolicy.Text.Lines
import ProxyPolicy.Text.Utf8

/-!
# Line feeds in octets and in texts

A line feed is the same in octets and in the text that they decode to, however ill-formed the octets
are: it ends whatever character has begun, and it is never a part of another one. So the text of the
octets before a line feed and the text of those behind it are the same as if each were decoded by
itself (`units_append_lineFeed`), and a text without a line feed comes of octets without one
(`lineFeed_not_mem_decodeLossy`).

This rests on one invariant of the decoding machine: a character that has begun is owed octets of at
least `0x80` and will have a code of at least `0x80` (`Begun.PastAscii`).

Lines are split at line feeds alone, so that octets that end with a line feed and octets behind them
have the lines of the one followed by the lines of the other (`lines_decodeLossy_append`).
-/

namespace ProxyPolicy.Text

namespace Utf8

/-! ## Characters that have begun -/

/-- The least code of a character that has begun so. -/
def Begun.leastCode (p : Begun) : Nat := 64 ^ p.owed * (64 * p.bits + (p.least - 0x80))

/-- A character that has begun takes no ASCII octet and will be no ASCII character. -/
structure Begun.PastAscii (p : Begun) : Prop where
  /-- The next octet is none of ASCII. -/
  le_least : 0x80 ≤ p.least
  /-- The code will be none of ASCII. -/
  le_leastCode : 0x80 ≤ p.leastCode

/-- What an octet begins is past ASCII. -/
theorem pastAscii_of_start {b : Nat} {p : Begun} (h : start b = .inr p) : p.PastAscii := by
  unfold start at h
  split_ifs at h
  all_goals
    rw [← Sum.inr.inj h]
    constructor
    · dsimp only
      omega
    · unfold Begun.leastCode
      dsimp only
      omega

/-- The character that an octet is by itself has the code of the octet, which is one of ASCII. -/
theorem lt_of_start {b : Nat} {c : Char} (h : start b = .inl (some c)) :
    b < 0x80 ∧ c = Char.ofNat b := by
  unfold start at h
  split_ifs at h with hascii
  · exact ⟨hascii, (Option.some.inj (Sum.inl.inj h)).symm⟩
  · cases Sum.inl.inj h
  · cases Sum.inl.inj h

/-- A code that gives the line feed is that of the line feed: one that is no code of a character
gives the character of code zero. -/
theorem eq_of_ofNat_eq_lineFeed {n : Nat} (h : Char.ofNat n = '\n') : n = 0x0a := by
  unfold Char.ofNat at h
  by_cases hvalid : n.isValidChar
  · rw [dif_pos hvalid] at h
    exact congrArg Char.toNat h
  · rw [dif_neg hvalid] at h
    exact absurd h (by decide)

namespace Begun.PastAscii

variable {p : Begun}

/-- A character that goes on stays past ASCII. -/
theorem next (h : p.PastAscii) {b : Nat} (hb : p.least ≤ b) (howed : p.owed ≠ 0) :
    Begun.PastAscii ⟨64 * p.bits + (b - 0x80), p.owed - 1, 0x80, 0xbf⟩ where
  le_least := Nat.le_refl _
  le_leastCode := by
    obtain ⟨k, hk⟩ := Nat.exists_eq_succ_of_ne_zero howed
    have hcode := h.le_leastCode
    unfold leastCode at hcode ⊢
    rw [hk, Nat.pow_succ, Nat.mul_assoc] at hcode
    rw [hk]
    have hbits : 64 * p.bits + (p.least - 0x80) ≤ 64 * p.bits + (b - 0x80) := by omega
    calc 0x80 ≤ 64 ^ k * (64 * (64 * p.bits + (p.least - 0x80))) := hcode
      _ ≤ 64 ^ k * (64 * (64 * p.bits + (b - 0x80))) :=
        Nat.mul_le_mul_left _ (Nat.mul_le_mul_left _ hbits)
      _ = 64 ^ k * (64 * (64 * p.bits + (b - 0x80)) + (0x80 - 0x80)) := by simp

/-- A character that ends has a code past ASCII. -/
theorem last (h : p.PastAscii) {b : Nat} (hb : p.least ≤ b) (howed : p.owed = 0) :
    0x80 ≤ 64 * p.bits + (b - 0x80) := by
  have hcode := h.le_leastCode
  unfold leastCode at hcode
  rw [howed, Nat.pow_zero, Nat.one_mul] at hcode
  omega

end Begun.PastAscii

/-! ## The machine -/

namespace Decoder

/-- The machine's state with units decoded before. -/
def behind (us : Array Chunk) (d : Decoder) : Decoder := ⟨us ++ d.units, d.begun⟩

/-- A character that has begun in this state is past ASCII. -/
def Sound (d : Decoder) : Prop := ∀ p, d.begun = some p → p.PastAscii

/-- An octet read between two characters adds to the units before it. -/
theorem fresh_behind (us vs : Array Chunk) (b : Nat) :
    fresh (us ++ vs) b = (fresh vs b).behind us := by
  unfold fresh
  cases start b with
  | inl u => simp only [behind, Array.append_push]
  | inr p => rfl

/-- An octet adds to the units before it. -/
theorem feed_behind (us : Array Chunk) (d : Decoder) (b : UInt8) :
    (d.behind us).feed b = (d.feed b).behind us := by
  obtain ⟨vs, begun⟩ := d
  cases begun with
  | none => exact fresh_behind us vs b.toNat
  | some p =>
    simp only [behind, feed]
    split_ifs with hrange howed
    · simp only [Array.append_push]
    · rfl
    · rw [← Array.append_push]
      exact fresh_behind us (vs.push none) b.toNat

/-- Octets add to the units before them. -/
theorem foldl_feed_behind (us : Array Chunk) (d : Decoder) (bs : List UInt8) :
    bs.foldl feed (d.behind us) = (bs.foldl feed d).behind us := by
  induction bs generalizing d with
  | nil => rfl
  | cons b bs ih => rw [List.foldl_cons, List.foldl_cons, feed_behind, ih]

/-- The units before come first in the end. -/
theorem finish_behind (us : Array Chunk) (d : Decoder) :
    (d.behind us).finish = us.toList ++ d.finish := by
  obtain ⟨vs, begun⟩ := d
  cases begun with
  | none => simp [behind, finish]
  | some p => simp [behind, finish]

/-- Nothing has begun before the first octet. -/
theorem sound_empty : empty.Sound := by
  intro p hp
  cases hp

/-- An octet read between two characters leaves the machine sound. -/
theorem sound_fresh (us : Array Chunk) (b : Nat) : (fresh us b).Sound := by
  unfold fresh
  intro p hp
  cases hstart : start b with
  | inl u =>
    rw [hstart] at hp
    cases hp
  | inr q =>
    rw [hstart] at hp
    cases hp
    exact pastAscii_of_start hstart

/-- An octet leaves the machine sound. -/
theorem Sound.feed {d : Decoder} (h : d.Sound) (b : UInt8) : (d.feed b).Sound := by
  obtain ⟨us, begun⟩ := d
  cases begun with
  | none => exact sound_fresh us b.toNat
  | some q =>
    have hq : q.PastAscii := h q rfl
    simp only [Decoder.feed]
    split_ifs with hrange howed
    · intro p hp
      cases hp
    · intro p hp
      obtain rfl := Option.some.inj hp
      exact hq.next hrange.1 howed
    · exact sound_fresh _ _

/-- Octets leave the machine sound. -/
theorem Sound.foldl_feed {d : Decoder} (h : d.Sound) (bs : List UInt8) :
    (bs.foldl Decoder.feed d).Sound := by
  induction bs generalizing d with
  | nil => exact h
  | cons b bs ih => exact ih (h.feed b)

/-- A line feed ends what has begun, as the end of the input does, and is a character by itself. -/
theorem Sound.feed_lineFeed {d : Decoder} (h : d.Sound) :
    d.feed 0x0a = empty.behind (d.finish ++ [some '\n']).toArray := by
  have hfresh (us : Array Chunk) : fresh us 0x0a = ⟨us.push (some '\n'), none⟩ := rfl
  obtain ⟨us, begun⟩ := d
  cases begun with
  | none =>
    refine (hfresh us).trans ?_
    simp [behind, finish, empty, ← Array.toList_inj]
  | some p =>
    have hrange : ¬(p.least ≤ 0x0a ∧ 0x0a ≤ p.greatest) := by
      have hleast := (h p rfl).le_least
      omega
    have hfeed : Decoder.feed ⟨us, some p⟩ 0x0a = fresh (us.push none) 0x0a := if_neg hrange
    rw [hfeed, hfresh]
    simp [behind, finish, empty, ← Array.toList_inj]

/-- No octet but the line feed adds a line feed to the units. -/
theorem Sound.lineFeed_not_mem_feed {d : Decoder} (h : d.Sound) {b : UInt8} (hb : b ≠ 0x0a)
    (hd : some '\n' ∉ d.units) : some '\n' ∉ (d.feed b).units := by
  -- An octet between two characters is a line feed only by itself.
  have hfresh (us : Array Chunk) (hus : some '\n' ∉ us) : some '\n' ∉ (fresh us b.toNat).units := by
    unfold fresh
    cases hstart : start b.toNat with
    | inr p => exact hus
    | inl u =>
      rw [Array.mem_push, not_or]
      refine ⟨hus, ?_⟩
      rintro rfl
      have hcode := eq_of_ofNat_eq_lineFeed (lt_of_start hstart).2.symm
      exact hb (UInt8.toNat_inj.mp hcode)
  obtain ⟨us, begun⟩ := d
  cases begun with
  | none => exact hfresh us hd
  | some p =>
    simp only [Decoder.feed]
    split_ifs with hrange howed
    · rw [Array.mem_push, not_or]
      refine ⟨hd, ?_⟩
      intro heq
      have hcode := eq_of_ofNat_eq_lineFeed (Option.some.inj heq).symm
      have hpast := (h p rfl).last hrange.1 howed
      omega
    · exact hd
    · refine hfresh _ ?_
      rw [Array.mem_push, not_or]
      exact ⟨hd, by simp⟩

end Decoder

/-! ## Units and texts -/

/-- The units of octets around a line feed are those before it, the line feed, and those
behind it. -/
theorem units_append_lineFeed (as bs : List UInt8) :
    units (as ++ 0x0a :: bs) = units as ++ some '\n' :: units bs := by
  have hsound : (as.foldl Decoder.feed Decoder.empty).Sound := Decoder.sound_empty.foldl_feed as
  unfold units
  rw [List.foldl_append, List.foldl_cons, hsound.feed_lineFeed, Decoder.foldl_feed_behind,
    Decoder.finish_behind]
  simp

/-- The text of octets around a line feed is the text of those before it, the line feed, and the
text of those behind it. -/
theorem decodeLossy_append_lineFeed (as bs : List UInt8) :
    decodeLossy (as ++ 0x0a :: bs) = decodeLossy as ++ '\n' :: decodeLossy bs := by
  unfold decodeLossy
  rw [units_append_lineFeed, List.map_append, List.map_cons, Option.getD_some]

/-- No octets have no text. -/
theorem decodeLossy_nil : decodeLossy [] = [] := rfl

/-- Octets without a line feed have a text without one. -/
theorem lineFeed_not_mem_decodeLossy {bs : List UInt8} (h : 0x0a ∉ bs) : '\n' ∉ decodeLossy bs := by
  -- The machine stays sound and without a line feed from one octet to the next.
  have hfold (d : Decoder) (hd : d.Sound) (hunits : some '\n' ∉ d.units) :
      some '\n' ∉ (bs.foldl Decoder.feed d).units := by
    induction bs generalizing d with
    | nil => exact hunits
    | cons b bs ih =>
      rw [List.mem_cons, not_or] at h
      exact ih h.2 (d.feed b) (hd.feed b) (hd.lineFeed_not_mem_feed (Ne.symm h.1) hunits)
  have hunits : some '\n' ∉ units bs := by
    have hlast := hfold Decoder.empty Decoder.sound_empty (by simp [Decoder.empty])
    unfold units Decoder.finish
    split
    · exact fun hmem => hlast (Array.mem_toList_iff.mp hmem)
    · rw [Array.toList_push, List.mem_append, not_or]
      exact ⟨fun hmem => hlast (Array.mem_toList_iff.mp hmem), by simp⟩
  intro hmem
  obtain ⟨u, hu, heq⟩ := List.mem_map.mp hmem
  cases u with
  | none => exact absurd heq (by decide)
  | some c =>
    rw [Option.getD_some] at heq
    exact hunits (heq ▸ hu)

end Utf8

/-! ## Lines -/

open Utf8

/-- The lines of a text around a line feed are those that end before or at it, and those behind
it. -/
theorem lines_append_lineFeed (as bs : List Char) :
    lines (as ++ '\n' :: bs) = (as.splitOn '\n').map dropReturn ++ lines bs := by
  have hne : bs.splitOn '\n' ≠ [] := List.splitOn_ne_nil _ _
  unfold lines
  dsimp only
  rw [List.splitOn_append_cons_self, List.dropLast_append_of_ne_nil hne, List.map_append,
    List.append_assoc, List.getLast?_append_of_ne_nil _ hne]

/-- Nothing has no lines. -/
theorem lines_nil : lines [] = [] := rfl

/-- Whether octets are whole lines: there are none, or they end with a line feed. -/
def WholeLines (bs : List UInt8) : Prop := bs = [] ∨ bs.getLast? = some 0x0a

/-- Octets behind whole lines add their lines to those before. -/
theorem lines_decodeLossy_append {as : List UInt8} (h : WholeLines as) (bs : List UInt8) :
    lines (decodeLossy (as ++ bs)) = lines (decodeLossy as) ++ lines (decodeLossy bs) := by
  rcases h with rfl | hlast
  · rw [List.nil_append, decodeLossy_nil, lines_nil, List.nil_append]
  · obtain ⟨front, rfl⟩ := List.getLast?_eq_some_iff.mp hlast
    rw [List.append_assoc, List.singleton_append, decodeLossy_append_lineFeed,
      decodeLossy_append_lineFeed, lines_append_lineFeed, lines_append_lineFeed, decodeLossy_nil,
      lines_nil, List.append_nil]

/-- Octets up to their first line feed are one line by themselves, whatever they are. -/
theorem lines_decodeLossy_line {xs : List UInt8} (h : 0x0a ∉ xs) (bs : List UInt8) :
    lines (decodeLossy (xs ++ 0x0a :: bs)) =
      dropReturn (decodeLossy xs) :: lines (decodeLossy bs) := by
  have hline : '\n' ∉ decodeLossy xs := lineFeed_not_mem_decodeLossy h
  rw [decodeLossy_append_lineFeed, lines_append_lineFeed, List.splitOn_eq_singleton hline,
    List.map_singleton, List.singleton_append]

end ProxyPolicy.Text
