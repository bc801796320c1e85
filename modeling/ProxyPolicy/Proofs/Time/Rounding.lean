import Mathlib.Algebra.Order.Field.Power
import Mathlib.Algebra.Order.Floor.Semifield
import Mathlib.Data.Rat.Floor
import Mathlib.Tactic.Linarith
import Mathlib.Tactic.NormNum
import Mathlib.Tactic.Positivity
import Mathlib.Tactic.Ring

/-!
# Rounding

What it is to round a number to binary64: to take a nearest one of the binary64 numbers, and of two
that are equally near the one whose last digit is even (`RoundsTo`). There is no bound on the size
of the numbers here, and none is negative.

Between two numbers with even last digits there is a third (`HasEvenDigit.exists_between`), so that
a number is rounded in one way only (`RoundsTo.unique`). From this and from nearness it follows that
rounding keeps the order of numbers (`RoundsTo.mono`), and so does not carry a number past a
binary64 number. How far it carries a number is bounded by the distance of the binary64 numbers of
its size (`RoundsTo.abs_sub_lt`).
-/

namespace ProxyPolicy.Time

/-! ## Binary64 numbers -/

/-- Whether a number has no more than 53 significant binary digits, none of them beyond the 1074th
binary place. It may be as great as it likes. -/
def IsBinary64 (x : ℚ) : Prop := ∃ (m : ℕ) (e : ℤ), m < 2 ^ 53 ∧ -1074 ≤ e ∧ x = m * 2 ^ e

/-- Whether the last of the 53 digits of a binary64 number is even. A number has 53 digits, with
zeros behind those that are needed, unless some of them were beyond the last place. -/
def HasEvenDigit (x : ℚ) : Prop :=
  ∃ (m : ℕ) (e : ℤ), 2 * m < 2 ^ 53 ∧ -1074 ≤ e ∧ (e = -1074 ∨ 2 ^ 52 ≤ 2 * m) ∧
    x = (2 * m : ℕ) * 2 ^ e

/-- A quotient by a power of two is a binary64 number if its digits and places suffice. -/
theorem isBinary64_div {n k : ℕ} (hn : n < 2 ^ 53) (hk : k ≤ 1074) :
    IsBinary64 (n / 2 ^ k) := by
  refine ⟨n, -k, hn, by omega, ?_⟩
  rw [zpow_neg, zpow_natCast, div_eq_mul_inv]

/-- A whole number of 53 digits is a binary64 number. -/
theorem isBinary64_natCast {n : ℕ} (hn : n < 2 ^ 53) : IsBinary64 n := by
  simpa using isBinary64_div hn (Nat.zero_le 1074)

/-- A binary64 number is not negative. -/
theorem IsBinary64.nonneg {x : ℚ} (h : IsBinary64 x) : 0 ≤ x := by
  obtain ⟨m, e, -, -, rfl⟩ := h
  positivity

/-- A multiple of a power of two is one of each lower power. -/
theorem exists_mul_zpow (m : ℕ) {e f : ℤ} (h : e ≤ f) : ∃ n : ℕ, (m : ℚ) * 2 ^ f = n * 2 ^ e := by
  refine ⟨m * 2 ^ (f - e).toNat, ?_⟩
  have hpow : (2 : ℚ) ^ f = 2 ^ (f - e).toNat * 2 ^ e := by
    rw [← zpow_natCast, ← zpow_add₀ two_ne_zero, Int.toNat_of_nonneg (sub_nonneg.mpr h),
      sub_add_cancel]
  rw [hpow]
  push_cast
  ring

/-- A number with 53 digits of which the first is not zero is greater than the numbers of a lower
power of two. -/
theorem mul_zpow_lt {m : ℕ} (hm : m < 2 ^ 53) {e f : ℤ} (h : f < e) :
    (m : ℚ) * 2 ^ f < 2 ^ 52 * 2 ^ e := by
  have hm' : (m : ℚ) < 2 ^ 53 := by exact_mod_cast hm
  calc (m : ℚ) * 2 ^ f < 2 ^ 53 * 2 ^ f := by gcongr
    _ = 2 ^ 52 * 2 ^ (f + 1) := by
      rw [zpow_add_one₀ two_ne_zero]
      ring
    _ ≤ 2 ^ 52 * 2 ^ e := by
      gcongr
      · norm_num
      · omega

/-- Between two numbers with even last digits there is another binary64 number. -/
theorem HasEvenDigit.exists_between {v w : ℚ} (hv : HasEvenDigit v) (hw : HasEvenDigit w)
    (h : v < w) : ∃ u, IsBinary64 u ∧ v < u ∧ u < w := by
  obtain ⟨m, e, hm, he, hfirst, rfl⟩ := hv
  obtain ⟨n, f, hn, hf, -, rfl⟩ := hw
  have hpos : (0 : ℚ) < 2 ^ e := by positivity
  -- The greater number is not of a lower power of two.
  have hle : e ≤ f := by
    by_contra hlt
    have hfull : (2 ^ 52 : ℚ) ≤ (2 * m : ℕ) := by
      exact_mod_cast hfirst.resolve_left (by omega)
    have hupper := mul_zpow_lt hn (not_le.mp hlt)
    have hlower := mul_le_mul_of_nonneg_right hfull hpos.le
    linarith
  obtain ⟨k, hk⟩ := exists_mul_zpow n hle
  have hw' : ((2 * n : ℕ) : ℚ) * 2 ^ f = (2 * k : ℕ) * 2 ^ e := by
    push_cast
    linarith
  rw [hw'] at h ⊢
  have hlt : 2 * m < 2 * k := by exact_mod_cast lt_of_mul_lt_mul_right h hpos.le
  refine ⟨(2 * m + 1 : ℕ) * 2 ^ e, ⟨2 * m + 1, e, by omega, he, rfl⟩, ?_, ?_⟩
  · gcongr
    omega
  · gcongr
    omega

/-! ## Rounding -/

/-- Whether a number is rounded to another one. -/
structure RoundsTo (x v : ℚ) : Prop where
  /-- It is rounded to a binary64 number. -/
  isBinary64 : IsBinary64 v
  /-- No binary64 number is nearer. -/
  nearest : ∀ w, IsBinary64 w → |x - v| ≤ |x - w|
  /-- If another one is as near, the last digit is even. -/
  even : ∀ w, IsBinary64 w → w ≠ v → |x - w| = |x - v| → HasEvenDigit v

/-- Of two numbers, the lower one is as near as the other one up to the middle between them. -/
theorem abs_sub_le_iff_le_middle {x v w : ℚ} (h : v < w) : |x - v| ≤ |x - w| ↔ 2 * x ≤ v + w := by
  rw [← sq_le_sq]
  constructor
  · intro hsq
    nlinarith
  · intro hx
    nlinarith

/-- Of two numbers, the greater one is as near as the other one from the middle between them. -/
theorem abs_sub_le_iff_middle_le {x v w : ℚ} (h : v < w) : |x - w| ≤ |x - v| ↔ v + w ≤ 2 * x := by
  rw [← sq_le_sq]
  constructor
  · intro hsq
    nlinarith
  · intro hx
    nlinarith

namespace RoundsTo

variable {x y v w z : ℚ}

/-- A number is not rounded to a number and to a lower one. -/
theorem le_of_roundsTo (hv : RoundsTo x v) (hw : RoundsTo x w) : w ≤ v := by
  by_contra h
  rw [not_le] at h
  have hnear : |x - v| = |x - w| :=
    le_antisymm (hv.nearest w hw.isBinary64) (hw.nearest v hv.isBinary64)
  have hvEven := hv.even w hw.isBinary64 h.ne' hnear.symm
  have hwEven := hw.even v hv.isBinary64 h.ne hnear
  -- A number between the two would be nearer, as `x` is in their middle.
  obtain ⟨u, hu, hvu, huw⟩ := hvEven.exists_between hwEven h
  have hmiddle := (abs_sub_le_iff_middle_le h).mp hnear.ge
  have hnearer := (abs_sub_le_iff_le_middle hvu).mp (hv.nearest u hu)
  linarith

/-- A number is rounded in one way. -/
theorem unique (hv : RoundsTo x v) (hw : RoundsTo x w) : v = w :=
  le_antisymm (hw.le_of_roundsTo hv) (hv.le_of_roundsTo hw)

/-- Rounding keeps the order of numbers. -/
theorem mono (hv : RoundsTo x v) (hw : RoundsTo y w) (h : x ≤ y) : v ≤ w := by
  by_contra hlt
  rw [not_le] at hlt
  have hx := (abs_sub_le_iff_middle_le hlt).mp (hv.nearest w hw.isBinary64)
  have hy := (abs_sub_le_iff_le_middle hlt).mp (hw.nearest v hv.isBinary64)
  -- The two numbers are the middle between the two to which they are rounded, so they are one.
  obtain rfl : x = y := by linarith
  exact hlt.ne' (hv.unique hw)

end RoundsTo

/-- A binary64 number is rounded to itself. -/
theorem IsBinary64.roundsTo {z : ℚ} (h : IsBinary64 z) : RoundsTo z z where
  isBinary64 := h
  nearest w _ := by
    rw [sub_self, abs_zero]
    exact abs_nonneg _
  even w _ hne htie := by
    rw [sub_self, abs_zero, abs_eq_zero, sub_eq_zero] at htie
    exact absurd htie.symm hne

namespace RoundsTo

variable {x y v w z : ℚ}

/-- A number is not rounded past a greater binary64 number. -/
theorem le_of_le (hv : RoundsTo x v) (hz : IsBinary64 z) (h : x ≤ z) : v ≤ z :=
  hv.mono hz.roundsTo h

/-- A number is not rounded past a lower binary64 number. -/
theorem ge_of_ge (hv : RoundsTo x v) (hz : IsBinary64 z) (h : z ≤ x) : z ≤ v :=
  hz.roundsTo.mono hv h

/-- A number that is nearer to a binary64 number than to a greater number is rounded to less than
the greater one. -/
theorem lt_of_lt_middle (hv : RoundsTo x v) (hz : IsBinary64 z) (hzw : z < w)
    (h : 2 * x < z + w) : v < w := by
  by_contra hle
  rw [not_lt] at hle
  have hmiddle := (abs_sub_le_iff_middle_le (hzw.trans_le hle)).mp (hv.nearest z hz)
  linarith

/-- A number of some size is rounded by less than the distance of the numbers of this size. -/
theorem abs_sub_lt (hv : RoundsTo x v) (hx : 0 ≤ x) {k : ℕ} (hk : k ≤ 1074)
    (hsize : x * 2 ^ k < 2 ^ 53) : |x - v| < 1 / 2 ^ k := by
  have hpos : (0 : ℚ) < 2 ^ k := by positivity
  have hfloor := Nat.floor_le (mul_nonneg hx hpos.le)
  have hceil := Nat.lt_floor_add_one (x * 2 ^ k)
  set n := ⌊x * 2 ^ k⌋₊
  have hn : n < 2 ^ 53 := by exact_mod_cast hfloor.trans_lt hsize
  have hlower : (n : ℚ) / 2 ^ k ≤ x := (div_le_iff₀ hpos).mpr hfloor
  have hupper : x < (n : ℚ) / 2 ^ k + 1 / 2 ^ k := by
    rw [← add_div]
    exact (lt_div_iff₀ hpos).mpr hceil
  calc |x - v| ≤ |x - n / 2 ^ k| := hv.nearest _ (isBinary64_div hn hk)
    _ = x - n / 2 ^ k := abs_of_nonneg (sub_nonneg.mpr hlower)
    _ < 1 / 2 ^ k := by linarith

end RoundsTo

/-! ## The nearest multiple -/

/-- A multiple of a power of two by a number of 53 digits, or by the next one, is a binary64
number. -/
theorem isBinary64_mul_zpow {m : ℕ} {e : ℤ} (hm : m ≤ 2 ^ 53) (he : -1074 ≤ e) :
    IsBinary64 (m * 2 ^ e) := by
  rcases hm.lt_or_eq with hlt | rfl
  · exact ⟨m, e, hlt, he, rfl⟩
  · refine ⟨2 ^ 52, e + 1, by norm_num, by omega, ?_⟩
    rw [zpow_add_one₀ two_ne_zero]
    push_cast
    ring

/-- Its last digit is even if the number is, unless digits are missing. -/
theorem hasEvenDigit_mul_zpow {m : ℕ} {e : ℤ} (hm : m ≤ 2 ^ 53) (he : -1074 ≤ e)
    (hfirst : e = -1074 ∨ 2 ^ 52 ≤ m) (heven : Even m) : HasEvenDigit (m * 2 ^ e) := by
  obtain ⟨k, rfl⟩ := heven
  rcases hm.lt_or_eq with hlt | hmax
  · exact ⟨k, e, by omega, he, by omega, by rw [two_mul]⟩
  · refine ⟨2 ^ 51, e + 1, by norm_num, by omega, .inr (by norm_num), ?_⟩
    rw [hmax, zpow_add_one₀ two_ne_zero]
    push_cast
    ring

/-- Of two multiples, one is at least as far from a number as half of what they are multiples of. -/
theorem le_abs_sub_add_abs_sub (q : ℚ) {u : ℚ} (hu : 0 < u) {m n : ℕ} (h : n ≠ m) :
    u ≤ |q - n * u| + |q - m * u| := by
  have hone : (1 : ℚ) ≤ |(m : ℚ) - n| := by
    have hint : 1 ≤ |(m : ℤ) - n| := Int.one_le_abs (by omega)
    exact_mod_cast hint
  calc u ≤ |(m : ℚ) - n| * u := le_mul_of_one_le_left hu.le hone
    _ = |(q - n * u) - (q - m * u)| := by
      rw [← abs_of_pos hu, ← abs_mul, abs_of_pos hu]
      congr 1
      ring
    _ ≤ |q - n * u| + |q - m * u| := abs_sub _ _

/-- A binary64 number is a multiple of a power of two, or it has its 53 digits behind the first
digit of a multiple with 53 digits. -/
theorem IsBinary64.eq_mul_zpow_or_lt {w : ℚ} (h : IsBinary64 w) (e : ℤ) :
    (∃ n : ℕ, w = n * 2 ^ e) ∨ (e ≠ -1074 ∧ w < 2 ^ 52 * 2 ^ e) := by
  obtain ⟨m, f, hm, hf, rfl⟩ := h
  rcases le_or_gt e f with hle | hlt
  · exact .inl (exists_mul_zpow m hle)
  · exact .inr ⟨by omega, mul_zpow_lt hm hlt⟩

/-- A number of 53 digits before the multiples of a power of two is rounded to the nearest of these
multiples, the even one of two. -/
theorem roundsTo_mul_zpow {q : ℚ} {m : ℕ} {e : ℤ} (he : -1074 ≤ e) (hsize : q < 2 ^ 53 * 2 ^ e)
    (hfirst : e = -1074 ∨ 2 ^ 52 * 2 ^ e ≤ q) (hnear : |q - m * 2 ^ e| ≤ 2 ^ e / 2)
    (heven : |q - m * 2 ^ e| = 2 ^ e / 2 → Even m) : RoundsTo q (m * 2 ^ e) := by
  have hpos : (0 : ℚ) < 2 ^ e := by positivity
  obtain ⟨hlower, hupper⟩ := abs_le.mp hnear
  have hm : m ≤ 2 ^ 53 := by
    have hlt : (m : ℚ) < 2 ^ 53 + 1 := by nlinarith
    have hlt' : m < 2 ^ 53 + 1 := by exact_mod_cast hlt
    omega
  have hfull : e = -1074 ∨ 2 ^ 52 ≤ m := by
    refine hfirst.imp_right fun hq => ?_
    have hlt : (2 ^ 52 : ℚ) < m + 1 := by nlinarith
    have hlt' : 2 ^ 52 < m + 1 := by exact_mod_cast hlt
    omega
  have hgrid (n : ℕ) : |q - m * 2 ^ e| ≤ |q - n * 2 ^ e| := by
    rcases eq_or_ne n m with rfl | hne
    · exact le_rfl
    · linarith [le_abs_sub_add_abs_sub q hpos hne]
  -- What is not a multiple is lower than the multiple that starts the numbers of this size.
  have hbelow (w : ℚ) (hexp : e ≠ -1074) (hw : w < 2 ^ 52 * 2 ^ e) :
      |q - m * 2 ^ e| < |q - w| := by
    have hq := hfirst.resolve_left hexp
    have hfloor := hgrid (2 ^ 52)
    rw [Nat.cast_pow, Nat.cast_ofNat, abs_of_nonneg (sub_nonneg.mpr hq)] at hfloor
    rw [abs_of_nonneg (sub_nonneg.mpr (hw.le.trans hq))]
    linarith
  refine ⟨isBinary64_mul_zpow hm he, fun w hw => ?_, fun w hw hne htie => ?_⟩
  · rcases hw.eq_mul_zpow_or_lt e with ⟨n, rfl⟩ | ⟨hexp, hlt⟩
    · exact hgrid n
    · exact (hbelow w hexp hlt).le
  · rcases hw.eq_mul_zpow_or_lt e with ⟨n, rfl⟩ | ⟨hexp, hlt⟩
    · have hnm : n ≠ m := fun heq => hne (by rw [heq])
      have hhalf : |q - m * 2 ^ e| = 2 ^ e / 2 := by
        linarith [le_abs_sub_add_abs_sub q hpos hnm]
      exact hasEvenDigit_mul_zpow hm he hfull (heven hhalf)
    · exact absurd htie (hbelow w hexp hlt).ne'

/-! ## Fractions -/

/-- What is left of a binary64 number without its whole part is a binary64 number. -/
theorem IsBinary64.fract {x : ℚ} (h : IsBinary64 x) : IsBinary64 (Int.fract x) := by
  obtain ⟨m, e, hm, he, rfl⟩ := h
  rcases le_or_gt 0 e with hwhole | hneg
  · -- Without places after the point nothing is left.
    obtain ⟨n, hn⟩ := exists_mul_zpow m hwhole
    rw [hn, zpow_zero, mul_one, Int.fract_natCast]
    exact isBinary64_natCast (n := 0) (by norm_num)
  · obtain ⟨k, rfl⟩ : ∃ k : ℕ, e = -k := ⟨e.natAbs, by omega⟩
    have hdiv : (m : ℚ) * 2 ^ (-(k : ℤ)) = m / (2 ^ k : ℕ) := by
      rw [zpow_neg, zpow_natCast, div_eq_mul_inv, Nat.cast_pow, Nat.cast_ofNat]
    rw [hdiv, Int.fract_div_natCast_eq_div_natCast_mod, Nat.cast_pow, Nat.cast_ofNat]
    exact isBinary64_div ((Nat.mod_le m (2 ^ k)).trans_lt hm) (by omega)

/-- A binary64 number below one is no nearer to one than the last of 53 places. -/
theorem IsBinary64.le_of_lt_one {x : ℚ} (h : IsBinary64 x) (hlt : x < 1) : x ≤ 1 - 1 / 2 ^ 53 := by
  have hplace : (2 : ℚ) ^ (-53 : ℤ) = 1 / 2 ^ 53 := by norm_num
  rcases h.eq_mul_zpow_or_lt (-53) with ⟨n, rfl⟩ | ⟨-, hsmall⟩
  · rw [hplace, mul_one_div] at hlt ⊢
    have hn : n < 2 ^ 53 := by exact_mod_cast (div_lt_one (by norm_num)).mp hlt
    have hn' : (n : ℚ) ≤ 2 ^ 53 - 1 := by
      rw [le_sub_iff_add_le]
      exact_mod_cast hn
    calc (n : ℚ) / 2 ^ 53 ≤ (2 ^ 53 - 1) / 2 ^ 53 := by gcongr
      _ = 1 - 1 / 2 ^ 53 := by norm_num
  · calc x ≤ 2 ^ 52 * 2 ^ (-53 : ℤ) := hsmall.le
      _ ≤ 1 - 1 / 2 ^ 53 := by norm_num

end ProxyPolicy.Time
