import Mathlib.Tactic.SplitIfs
import ProxyPolicy.Text.Utf8

/-!
# The order of octets

The storage compares texts octet by octet, and the texts of the model are compared character by
character. Both orders are the same, since UTF-8 keeps the order of code points: of two characters,
the later one has more octets and a greater first octet, or as many octets, which are the digits of
the two code points to the base 64 (`utf8EncodeChar_append_lt`). No text is a special case, neither
one with NULs nor one that is the beginning of another (`octets_lt_iff`).
-/

namespace ProxyPolicy.Text

/-- The octets of a text. -/
def octets (s : String) : List UInt8 := Utf8.encode s.toList

/-! ## Characters -/

/-- Of two numbers, the lesser one has lesser digits to the base 64 before the last, or the same
ones and a lesser last digit. -/
theorem lt_iff_digits {v w : Nat} :
    v < w ↔ v / 64 < w / 64 ∨ v / 64 = w / 64 ∧ v % 64 < w % 64 := by
  omega

/-- Characters are ordered as their first octets that differ, whatever follows them. -/
theorem utf8EncodeChar_append_lt {c d : Char} (h : c < d) (cs ds : List UInt8) :
    String.utf8EncodeChar c ++ cs < String.utf8EncodeChar d ++ ds := by
  have hlast : d.val.toNat < 0x110000 := by
    have hvalid : d.val.toNat.isValidChar := d.valid
    unfold Nat.isValidChar at hvalid
    omega
  replace h : c.val.toNat < d.val.toNat := h
  unfold String.utf8EncodeChar
  dsimp only
  generalize c.val.toNat = v at h ⊢
  generalize d.val.toNat = w at h hlast ⊢
  by_cases hfour : v ≤ 0xffff
  · -- One octet has one digit, and two or three octets have as many.
    split_ifs <;>
      simp only [List.cons_append, List.nil_append, List.cons_lt_cons_iff, UInt8.lt_iff_toNat_lt,
        UInt8.toNat_ofNat', ← UInt8.toNat_inj] <;>
      omega
  · rw [if_neg (by omega), if_neg (by omega), if_neg hfour, if_neg (by omega), if_neg (by omega),
      if_neg (by omega)]
    simp only [List.cons_append, List.nil_append, List.cons_lt_cons_iff, UInt8.lt_iff_toNat_lt,
      UInt8.toNat_ofNat', ← UInt8.toNat_inj]
    have htwo : v / 64 / 64 = v / 4096 ∧ w / 64 / 64 = w / 4096 := by omega
    -- The first digit that differs, from the last digit to the first.
    rcases lt_iff_digits.mp h with hfront | ⟨hsame, hdigit⟩
    · rcases lt_iff_digits.mp hfront with hfront' | ⟨hsame', hdigit'⟩
      · rw [htwo.1, htwo.2] at hfront'
        rcases lt_iff_digits.mp hfront' with hfirst | ⟨hfirst, hdigit''⟩
        · omega
        · omega
      · omega
    · omega

/-! ## Texts -/

/-- Texts are ordered as their octets. -/
theorem encode_lt {cs ds : List Char} (h : cs < ds) : Utf8.encode cs < Utf8.encode ds := by
  have hlex := List.lex_lt.mpr h
  clear h
  unfold Utf8.encode
  induction hlex with
  | @nil d ds =>
    have hne : (d :: ds).flatMap String.utf8EncodeChar ≠ [] := by
      rw [List.flatMap_cons]
      exact List.append_ne_nil_of_left_ne_nil String.utf8EncodeChar_ne_nil _
    obtain ⟨octet, rest, heq⟩ := List.exists_cons_of_ne_nil hne
    rw [heq]
    exact List.nil_lt_cons octet rest
  | rel hchars =>
    rw [List.flatMap_cons, List.flatMap_cons]
    exact utf8EncodeChar_append_lt hchars _ _
  | cons _ ih =>
    rw [List.flatMap_cons, List.flatMap_cons]
    exact List.append_left_lt ih

/-- Texts are ordered as their octets, and in no other way. -/
theorem octets_lt_iff {a b : String} : octets a < octets b ↔ a < b := by
  constructor
  · intro h
    rcases Std.lt_trichotomy a b with hlt | rfl | hgt
    · exact hlt
    · exact absurd h (List.lt_irrefl _)
    · exact absurd h (List.lt_asymm (encode_lt (String.lt_iff.mp hgt)))
  · intro h
    exact encode_lt (String.lt_iff.mp h)

/-- Texts with the same octets are the same. -/
theorem octets_inj {a b : String} : octets a = octets b ↔ a = b := by
  refine ⟨fun h => ?_, congrArg octets⟩
  rcases Std.lt_trichotomy a b with hlt | heq | hgt
  · exact absurd (octets_lt_iff.mpr hlt) (h ▸ List.lt_irrefl _)
  · exact heq
  · exact absurd (octets_lt_iff.mpr hgt) (h ▸ List.lt_irrefl _)

/-- A text compares as less than another exactly if its octets are less. -/
theorem compare_eq_lt_iff {a b : String} : compare a b = .lt ↔ octets a < octets b :=
  compareOfLessAndEq_eq_lt.trans octets_lt_iff.symm

/-- A text compares as less than another or equal exactly if its octets do. -/
theorem isLE_compare_iff {a b : String} : (compare a b).isLE = true ↔ octets a ≤ octets b := by
  rw [Ordering.isLE_iff_eq_lt_or_eq_eq, compare_eq_lt_iff, Std.compare_eq_iff_eq,
    List.le_iff_lt_or_eq, octets_inj]

end ProxyPolicy.Text
