import ProxyPolicy.Proofs.Time.Rounding
import ProxyPolicy.Time.Binary64

/-!
# Quotients in binary64

`toBinary64` rounds a quotient to binary64 (`roundsTo_toBinary64`). It finds the power of two of
which the numbers near the quotient are multiples: either the quotient is 53 digits of multiples
long, or the power is the lowest there is (`binaryPlaces_spec`). The nearest multiple is then the
result (`roundsTo_roundDiv`).

The whole part of such a number and the rest are taken from its digits (`Dyadic.floor_eq`,
`Dyadic.value_fract`).
-/

namespace ProxyPolicy.Time

/-! ## Numbers with binary places -/

/-- The number that is meant. -/
def Dyadic.value (d : Dyadic) : ℚ := d.numerator / 2 ^ d.places

/-- The whole part is the greatest whole number that is not above the number. -/
theorem Dyadic.floor_eq (d : Dyadic) : d.floor = ⌊d.value⌋₊ := by
  have h := Nat.floor_div_eq_div (K := ℚ) d.numerator (2 ^ d.places)
  rw [Nat.cast_pow, Nat.cast_ofNat] at h
  exact h.symm

/-- The rest is the fractional part of the number. -/
theorem Dyadic.value_fract (d : Dyadic) : d.fract.value = Int.fract d.value := by
  have h := Int.fract_div_natCast_eq_div_natCast_mod (k := ℚ) (m := d.numerator) (n := 2 ^ d.places)
  rw [Nat.cast_pow, Nat.cast_ofNat] at h
  exact h.symm

/-! ## The nearest whole number -/

/-- The nearest whole number is not farther than one half, and if it is as far, it is even. -/
theorem roundDiv_spec (num : ℕ) {den : ℕ} (hden : 0 < den) :
    |(num : ℚ) / den - roundDiv num den| ≤ 1 / 2 ∧
      (|(num : ℚ) / den - roundDiv num den| = 1 / 2 → Even (roundDiv num den)) := by
  have hpos : (0 : ℚ) < den := by exact_mod_cast hden
  have hparts : (num : ℚ) = (num / den : ℕ) * den + (num % den : ℕ) := by
    exact_mod_cast (Nat.div_add_mod' num den).symm
  have hquotient : (num : ℚ) / den = (num / den : ℕ) + (num % den : ℕ) / den := by
    rw [div_eq_iff hpos.ne', add_mul, div_mul_cancel₀ _ hpos.ne']
    exact hparts
  have hnonneg : (0 : ℚ) ≤ (num % den : ℕ) / den := by positivity
  have hlt : ((num % den : ℕ) : ℚ) / den < 1 := by
    rw [div_lt_one hpos]
    exact_mod_cast Nat.mod_lt num hden
  have hbelow : |((num / den : ℕ) : ℚ) + (num % den : ℕ) / den - (num / den : ℕ)| =
      (num % den : ℕ) / den := by
    rw [add_sub_cancel_left, abs_of_nonneg hnonneg]
  have habove : |((num / den : ℕ) : ℚ) + (num % den : ℕ) / den - (num / den + 1 : ℕ)| =
      1 - (num % den : ℕ) / den := by
    rw [Nat.cast_succ, add_sub_add_left_eq_sub, abs_of_nonpos (by linarith), neg_sub]
  rw [hquotient]
  unfold roundDiv
  dsimp only
  -- The remainder tells which of the two whole numbers beside the quotient is nearer.
  split_ifs with hlow hhigh heven
  · have hhalf : ((num % den : ℕ) : ℚ) / den < 1 / 2 := by
      rw [div_lt_div_iff₀ hpos two_pos, one_mul, mul_comm]
      exact_mod_cast hlow
    rw [hbelow]
    exact ⟨hhalf.le, fun htie => absurd htie hhalf.ne⟩
  · have hhalf : 1 / 2 < ((num % den : ℕ) : ℚ) / den := by
      rw [div_lt_div_iff₀ two_pos hpos, one_mul, mul_comm]
      exact_mod_cast hhigh
    rw [habove]
    exact ⟨by linarith, fun htie => absurd htie (by linarith)⟩
  -- Both are as near: one of them is even, and it is the one that is taken.
  all_goals
    have hhalf : ((num % den : ℕ) : ℚ) / den = 1 / 2 := by
      rw [div_eq_div_iff hpos.ne' two_ne_zero, one_mul, mul_comm]
      exact_mod_cast le_antisymm (not_lt.mp hhigh) (not_lt.mp hlow)
  · rw [hbelow, hhalf]
    exact ⟨le_rfl, fun _ => Nat.even_iff.mpr heven⟩
  · rw [habove, hhalf]
    exact ⟨by norm_num, fun _ => Nat.even_add_one.mpr fun h => heven (Nat.even_iff.mp h)⟩

/-- A quotient is rounded by its nearest whole number, if this has 53 digits, and with it its
multiple by a power of two. -/
theorem roundsTo_roundDiv {num den : ℕ} (hden : 0 < den) {e : ℤ} (he : -1074 ≤ e)
    (hsize : num < den * 2 ^ 53) (hfirst : e = -1074 ∨ den * 2 ^ 52 ≤ num) :
    RoundsTo (num / den * 2 ^ e) (roundDiv num den * 2 ^ e) := by
  have hpos : (0 : ℚ) < den := by exact_mod_cast hden
  have hscale : (0 : ℚ) < 2 ^ e := by positivity
  obtain ⟨hnear, heven⟩ := roundDiv_spec num hden
  have hdist : |(num : ℚ) / den * 2 ^ e - roundDiv num den * 2 ^ e| =
      |(num : ℚ) / den - roundDiv num den| * 2 ^ e := by
    rw [← sub_mul, abs_mul, abs_of_pos hscale]
  have hhalf : (2 : ℚ) ^ e / 2 = 1 / 2 * 2 ^ e := by ring
  refine roundsTo_mul_zpow he ?_ (hfirst.imp_right fun hle => ?_) ?_ fun htie => heven ?_
  · gcongr
    rw [div_lt_iff₀ hpos, mul_comm]
    exact_mod_cast hsize
  · gcongr
    rw [le_div_iff₀ hpos, mul_comm]
    exact_mod_cast hle
  · rw [hdist, hhalf]
    gcongr
  · rw [hdist, hhalf] at htie
    exact mul_right_cancel₀ hscale.ne' htie

/-! ## Quotients -/

/-- Doubling a quotient below one so often brings it to one, and not to two. -/
theorem doublings_spec {num den : ℕ} (hnum : 0 < num) (hlt : num < den) :
    den ≤ num * 2 ^ doublings num den ∧ num * 2 ^ doublings num den < 2 * den := by
  have hden : den ≠ 0 := (hnum.trans hlt).ne'
  have hnumLow := Nat.log2_self_le hnum.ne'
  have hnumHigh := Nat.lt_log2_self (n := num)
  have hdenLow := Nat.log2_self_le hden
  have hdenHigh := Nat.lt_log2_self (n := den)
  obtain ⟨s, hs⟩ := Nat.exists_eq_add_of_le ((Nat.le_log2 hden).mpr (hnumLow.trans hlt.le))
  -- The digits of the two numbers tell how often to double, up to once.
  have hbelow : num * 2 ^ s < 2 * den :=
    calc num * 2 ^ s < 2 ^ (num.log2 + 1) * 2 ^ s := by gcongr
      _ = 2 * 2 ^ den.log2 := by
        rw [hs]
        ring
      _ ≤ 2 * den := by gcongr
  have hreach : den ≤ num * 2 ^ (s + 1) :=
    calc den ≤ 2 ^ (den.log2 + 1) := hdenHigh.le
      _ = 2 ^ num.log2 * 2 ^ (s + 1) := by
        rw [hs]
        ring
      _ ≤ num * 2 ^ (s + 1) := by gcongr
  unfold doublings
  simp only [Nat.pow_eq, hs, Nat.add_sub_cancel_left]
  split_ifs with hone
  · exact ⟨hone, hbelow⟩
  · refine ⟨hreach, ?_⟩
    rw [pow_succ, ← mul_assoc]
    omega

/-- The whole part of a quotient has its first binary digit where the quotient has it. -/
theorem log2_div_spec {num den : ℕ} (hden : 0 < den) (h : den ≤ num) :
    den * 2 ^ (num / den).log2 ≤ num ∧ num < den * 2 ^ ((num / den).log2 + 1) := by
  have hne : num / den ≠ 0 := (Nat.div_pos h hden).ne'
  constructor
  · rw [mul_comm, ← Nat.le_div_iff_mul_le hden]
    exact Nat.log2_self_le hne
  · rw [mul_comm, ← Nat.div_lt_iff_lt_mul hden]
    exact Nat.lt_log2_self

/-- A quotient from one up to `2 ^ 53` has 53 digits with the places for the digits that its whole
part does not have. -/
theorem places_spec {num den : ℕ} (hden : 0 < den) (hle : den ≤ num) (hsize : num < den * 2 ^ 53) :
    den * 2 ^ 52 ≤ num * 2 ^ (52 - (num / den).log2) ∧
      num * 2 ^ (52 - (num / den).log2) < den * 2 ^ 53 := by
  obtain ⟨hlow, hhigh⟩ := log2_div_spec hden hle
  have hdigits : (num / den).log2 < 53 :=
    (Nat.pow_lt_pow_iff_right one_lt_two).mp (Nat.lt_of_mul_lt_mul_left (hlow.trans_lt hsize))
  obtain ⟨k, hk⟩ := Nat.exists_eq_add_of_le (Nat.le_of_lt_succ hdigits)
  have hplaces : 52 - (num / den).log2 = k := by omega
  rw [hplaces]
  constructor
  · calc den * 2 ^ 52 = den * 2 ^ (num / den).log2 * 2 ^ k := by rw [hk, pow_add, mul_assoc]
      _ ≤ num * 2 ^ k := by gcongr
  · calc num * 2 ^ k < den * 2 ^ ((num / den).log2 + 1) * 2 ^ k := by gcongr
      _ = den * 2 ^ (52 + 1) := by
        rw [hk]
        ring

/-- If fewer places are allowed than are needed for all digits, the quotient is shorter. -/
theorem min_places_spec {num den full : ℕ} (bound : ℕ) (hlow : den * 2 ^ 52 ≤ num * 2 ^ full)
    (hhigh : num * 2 ^ full < den * 2 ^ 53) :
    num * 2 ^ min bound full < den * 2 ^ 53 ∧
      (min bound full = bound ∨ den * 2 ^ 52 ≤ num * 2 ^ min bound full) := by
  rcases le_total bound full with hle | hle
  · rw [min_eq_left hle]
    have hpow : 2 ^ bound ≤ 2 ^ full := Nat.pow_le_pow_right two_pos hle
    exact ⟨(Nat.mul_le_mul_left num hpow).trans_lt hhigh, .inl rfl⟩
  · rw [min_eq_right hle]
    exact ⟨hhigh, .inr hlow⟩

/-- With its binary places, a quotient below `2 ^ 53` is less than `2 ^ 53`, and it has 53 digits
unless it would need more places than there are. -/
theorem binaryPlaces_spec {num den : ℕ} (hnum : 0 < num) (hden : 0 < den)
    (hsize : num < den * 2 ^ 53) :
    num * 2 ^ binaryPlaces num den < den * 2 ^ 53 ∧
      (binaryPlaces num den = 1074 ∨ den * 2 ^ 52 ≤ num * 2 ^ binaryPlaces num den) := by
  unfold binaryPlaces
  split_ifs with hle
  · obtain ⟨hlow, hhigh⟩ := places_spec hden hle hsize
    exact min_places_spec 1074 hlow hhigh
  · obtain ⟨hlow, hhigh⟩ := doublings_spec hnum (not_le.mp hle)
    have hscale : num * 2 ^ (52 + doublings num den) = num * 2 ^ doublings num den * 2 ^ 52 := by
      ring
    exact min_places_spec 1074 (by rw [hscale]; gcongr) (by omega)

/-- A quotient with more than 53 digits before the point is rounded to a multiple of a power of
two. -/
theorem roundsTo_of_large {num den : ℕ} (hden : 0 < den) (hsize : den * 2 ^ 53 ≤ num) {shift : ℕ}
    (hshift : (num / den).log2 = 52 + shift) :
    RoundsTo (num / den) (roundDiv num (den * 2 ^ shift) * 2 ^ shift) := by
  have hle : den ≤ num := (Nat.le_mul_of_pos_right den (by norm_num)).trans hsize
  obtain ⟨hlow, hhigh⟩ := log2_div_spec hden hle
  have hfirst : den * 2 ^ shift * 2 ^ 52 ≤ num := by
    rwa [mul_assoc, ← pow_add, add_comm shift, ← hshift]
  have hlast : num < den * 2 ^ shift * 2 ^ 53 := by
    rwa [mul_assoc, ← pow_add, add_comm shift, Nat.add_right_comm 52 1 shift, ← hshift]
  have hround := roundsTo_roundDiv (e := shift) (Nat.mul_pos hden (by positivity)) (by omega) hlast
    (.inr hfirst)
  have hquotient : (num : ℚ) / (den * 2 ^ shift : ℕ) * 2 ^ (shift : ℤ) = num / den := by
    rw [zpow_natCast, Nat.cast_mul, Nat.cast_pow, Nat.cast_ofNat, ← div_div,
      div_mul_cancel₀ _ (by positivity)]
  rwa [hquotient, zpow_natCast] at hround

/-- A quotient with at most 53 digits before the point is rounded to as many places as there are. -/
theorem roundsTo_of_small {num den : ℕ} (hnum : 0 < num) (hden : 0 < den)
    (hsize : num < den * 2 ^ 53) :
    RoundsTo (num / den)
      (roundDiv (num * 2 ^ binaryPlaces num den) den / 2 ^ binaryPlaces num den) := by
  obtain ⟨hsmall, hfirst⟩ := binaryPlaces_spec hnum hden hsize
  have hplaces : binaryPlaces num den ≤ 1074 := min_le_left _ _
  generalize binaryPlaces num den = places at hsmall hfirst hplaces ⊢
  have hround := roundsTo_roundDiv (e := -places) hden (by omega) hsmall
    (hfirst.imp_left fun heq => by omega)
  have hquotient : ((num * 2 ^ places : ℕ) : ℚ) / den * 2 ^ (-places : ℤ) = num / den := by
    rw [zpow_neg, zpow_natCast, Nat.cast_mul, Nat.cast_pow, Nat.cast_ofNat, mul_div_right_comm,
      mul_inv_cancel_right₀ (by positivity)]
  rwa [hquotient, zpow_neg, zpow_natCast, ← div_eq_mul_inv] at hround

/-- A quotient is rounded to the binary64 number that is computed for it. -/
theorem roundsTo_toBinary64 (num : ℕ) {den : ℕ} (hden : 0 < den) :
    RoundsTo (num / den) (toBinary64 num den).value := by
  unfold toBinary64 Dyadic.value
  simp only [Nat.pow_eq]
  split_ifs with hsize
  · have hdigits : 53 ≤ (num / den).log2 := by
      have hquotient : 2 ^ 53 ≤ num / den := by rwa [Nat.le_div_iff_mul_le hden, mul_comm]
      exact (Nat.le_log2 ((Nat.two_pow_pos 53).trans_le hquotient).ne').mpr hquotient
    have hshift : (num / den).log2 = 52 + ((num / den).log2 - 52) := by omega
    have hround := roundsTo_of_large hden hsize hshift
    rwa [pow_zero, div_one, Nat.cast_mul, Nat.cast_pow, Nat.cast_ofNat]
  · -- Zero has no first digit by which its places could be counted.
    rcases Nat.eq_zero_or_pos num with rfl | hnum
    · have hzero : roundDiv 0 den = 0 := by
        unfold roundDiv
        simp [hden]
      rw [zero_mul, hzero, Nat.cast_zero, zero_div, zero_div]
      exact (isBinary64_natCast (n := 0) (by norm_num)).roundsTo
    · exact roundsTo_of_small hnum hden (not_le.mp hsize)

end ProxyPolicy.Time
