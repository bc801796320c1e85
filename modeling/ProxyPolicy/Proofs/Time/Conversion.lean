import Mathlib.Data.Prod.Lex
import ProxyPolicy.Proofs.Time.Binary64
import ProxyPolicy.Time.Instant

/-!
# Instants of numbers of seconds

A number of seconds denotes an instant by way of three roundings to binary64: of the number, of what
is left of it without its whole part, and of this times a billion (`Denotes`). The second of them
changes nothing. `Instant.ofDecimal?` gives this instant, up to the last second that has a date
(`Instant.ofDecimal?_eq_some_iff`).

Each step keeps the order of numbers, and so does the whole (`Denotes.mono`). There are never a
billion nanoseconds, since the greatest binary64 number below one, times a billion, is nearer to a
binary64 number below a billion (`Denotes.nanos_lt`). A number that is at least `2 ^ -10` below the
next whole one keeps its seconds (`Denotes.seconds_eq`), and up to `2 ^ 31` seconds the nanoseconds
are off by less than a thousand (`Denotes.abs_nanos_sub_lt`).
-/

namespace ProxyPolicy.Time

/-- The number that is meant. -/
def Decimal.value (d : Decimal) : ℚ := d.digits / 10 ^ d.places

/-- Whether a number of seconds denotes an instant. It is rounded and cut off; what is left is
rounded, and is a number of billionths that is rounded and cut off. -/
inductive Denotes (x : ℚ) : Instant → Prop where
  /-- The three numbers that the roundings give. -/
  | intro {v rest billionths : ℚ} (hv : RoundsTo x v) (hrest : RoundsTo (Int.fract v) rest)
    (hbillionths : RoundsTo (rest * 10 ^ 9) billionths) : Denotes x ⟨⌊v⌋₊, ⌊billionths⌋₊⟩

/-! ## The instant of a number -/

/-- What is left of a rounded number is not changed when it is rounded. -/
theorem RoundsTo.eq_fract {x v rest : ℚ} (hv : RoundsTo x v) (hrest : RoundsTo (Int.fract v) rest) :
    rest = Int.fract v :=
  hrest.unique hv.isBinary64.fract.roundsTo

/-- A number denotes one instant. -/
theorem Denotes.unique {x : ℚ} {s t : Instant} (hs : Denotes x s) (ht : Denotes x t) : s = t := by
  obtain ⟨hv, hrest, hbillionths⟩ := hs
  obtain ⟨hv', hrest', hbillionths'⟩ := ht
  obtain rfl := hv.unique hv'
  obtain rfl := hrest.unique hrest'
  obtain rfl := hbillionths.unique hbillionths'
  rfl

/-- A decimal number denotes an instant. -/
theorem denotes_value (d : Decimal) :
    let v := toBinary64 d.digits (Nat.pow 10 d.places)
    Denotes d.value ⟨v.floor,
      (toBinary64 (v.fract.numerator * 1000000000) (Nat.pow 2 v.fract.places)).floor⟩ := by
  intro v
  have hv : RoundsTo d.value v.value := by
    have h := roundsTo_toBinary64 d.digits (Nat.pow_pos (n := d.places) (by norm_num : 0 < 10))
    rwa [Nat.cast_pow, Nat.cast_ofNat] at h
  have hrest : RoundsTo (Int.fract v.value) v.fract.value := by
    rw [Dyadic.value_fract]
    exact hv.isBinary64.fract.roundsTo
  have hbillionths := roundsTo_toBinary64 (v.fract.numerator * 1000000000)
    (Nat.pow_pos (n := v.fract.places) two_pos)
  have hproduct : ((v.fract.numerator * 1000000000 : ℕ) : ℚ) / (2 ^ v.fract.places : ℕ) =
      v.fract.value * 10 ^ 9 := by
    unfold Dyadic.value
    push_cast
    ring
  rw [hproduct] at hbillionths
  rw [Dyadic.floor_eq, Dyadic.floor_eq]
  exact ⟨hv, hrest, hbillionths⟩

/-- The seconds are the whole part of the rounded number. -/
theorem Denotes.seconds_eq_floor {x v : ℚ} {t : Instant} (h : Denotes x t) (hv : RoundsTo x v) :
    t.seconds = ⌊v⌋₊ := by
  obtain ⟨hv', -, -⟩ := h
  rw [hv.unique hv']

/-- A decimal number is converted to the instant that it denotes, unless it is past the last
second. -/
theorem Instant.ofDecimal?_eq_some_iff {d : Decimal} {t : Instant} :
    Instant.ofDecimal? d = some t ↔ Denotes d.value t ∧ t.seconds ≤ lastSecond := by
  have hdenotes := denotes_value d
  unfold Instant.ofDecimal?
  dsimp only at hdenotes ⊢
  constructor
  · intro h
    split_ifs at h with hlast
    obtain rfl := Option.some.inj h
    exact ⟨hdenotes, hlast⟩
  · rintro ⟨ht, hlast⟩
    obtain rfl := hdenotes.unique ht
    exact if_pos hlast

/-! ## Order -/

/-- Greater numbers denote later instants, or the same. -/
theorem Denotes.mono {x y : ℚ} {s t : Instant} (hs : Denotes x s) (ht : Denotes y t) (h : x ≤ y) :
    toLex (s.seconds, s.nanos) ≤ toLex (t.seconds, t.nanos) := by
  obtain @⟨v, rest, billionths, hv, hrest, hbillionths⟩ := hs
  obtain @⟨v', rest', billionths', hv', hrest', hbillionths'⟩ := ht
  have hle : v ≤ v' := hv.mono hv' h
  rw [Prod.Lex.toLex_le_toLex]
  rcases (Nat.floor_le_floor hle).lt_or_eq with hlt | heq
  · exact .inl hlt
  · -- In one second, the rests are in the order of the numbers.
    refine .inr ⟨heq, Nat.floor_le_floor (hbillionths.mono hbillionths' ?_)⟩
    have hfloor : ⌊v⌋ = ⌊v'⌋ := by
      rw [← Int.natCast_floor_eq_floor hv.isBinary64.nonneg, heq,
        Int.natCast_floor_eq_floor hv'.isBinary64.nonneg]
    have hfract : Int.fract v ≤ Int.fract v' := by
      unfold Int.fract
      rw [hfloor]
      exact sub_le_sub_right hle _
    gcongr
    exact hrest.mono hrest' hfract

/-! ## Nanoseconds -/

/-- There are less than a billion nanoseconds. -/
theorem Denotes.nanos_lt {x : ℚ} {t : Instant} (h : Denotes x t) : t.nanos < 1000000000 := by
  obtain ⟨hv, hrest, hbillionths⟩ := h
  obtain rfl := hv.eq_fract hrest
  have hone := hv.isBinary64.fract.le_of_lt_one (Int.fract_lt_one _)
  -- The greatest binary64 number below a billion is the nearest one.
  have hnext : IsBinary64 (((10 ^ 9 * 2 ^ 23 - 1 : ℕ) : ℚ) / 2 ^ 23) :=
    isBinary64_div (by norm_num) (by norm_num)
  have hlt := hbillionths.lt_of_lt_middle (w := 10 ^ 9) hnext (by norm_num) (by
    norm_num at hone ⊢
    linarith)
  exact (Nat.floor_lt' (by norm_num)).mpr (hlt.trans_eq (by norm_num))

/-! ## Numbers with few decimal places -/

section FewPlaces

variable {n : ℕ} {φ v : ℚ} {t : Instant}

/-- Whole seconds and a fraction that is at least `2 ^ -10` below one are rounded to a number with
the same whole part. -/
theorem RoundsTo.floor_eq (hv : RoundsTo (n + φ) v) (hn : n ≤ lastSecond) (hnonneg : 0 ≤ φ)
    (hbelow : φ ≤ 1 - 1 / 2 ^ 10) : ⌊v⌋₊ = n := by
  have hsize : n < 2 ^ 43 := hn.trans_lt (by norm_num [lastSecond])
  have hlow : IsBinary64 n := isBinary64_natCast (by omega)
  have hhigh : IsBinary64 (((n + 1) * 2 ^ 10 - 1 : ℕ) / 2 ^ 10) :=
    isBinary64_div (by omega) (by norm_num)
  have hhigh_eq : (((n + 1) * 2 ^ 10 - 1 : ℕ) : ℚ) / 2 ^ 10 = n + (1 - 1 / 2 ^ 10) := by
    rw [Nat.cast_sub (by omega)]
    push_cast
    ring
  rw [hhigh_eq] at hhigh
  have hge := hv.ge_of_ge hlow (le_add_of_nonneg_right hnonneg)
  have hle := hv.le_of_le hhigh (by gcongr)
  rw [Nat.floor_eq_iff hv.isBinary64.nonneg]
  refine ⟨hge, hle.trans_lt ?_⟩
  gcongr
  norm_num

/-- Such a number keeps its seconds. -/
theorem Denotes.seconds_eq (h : Denotes (n + φ) t) (hn : n ≤ lastSecond) (hnonneg : 0 ≤ φ)
    (hbelow : φ ≤ 1 - 1 / 2 ^ 10) : t.seconds = n := by
  obtain ⟨hv, -, -⟩ := h
  exact hv.floor_eq hn hnonneg hbelow

/-- Up to `2 ^ 31` seconds, its nanoseconds are off by less than a thousand. -/
theorem Denotes.abs_nanos_sub_lt (h : Denotes (n + φ) t) (hn : n < 2 ^ 31) (hnonneg : 0 ≤ φ)
    (hbelow : φ ≤ 1 - 1 / 2 ^ 10) : |(t.nanos : ℚ) - φ * 10 ^ 9| < 1000 := by
  obtain @⟨v, rest, billionths, hv, hrest, hbillionths⟩ := h
  have hlast : n ≤ lastSecond := by
    unfold lastSecond
    omega
  have hn' : (n : ℚ) + 1 ≤ 2 ^ 31 := by exact_mod_cast hn
  have hfloor : ⌊v⌋ = (n : ℤ) := by
    rw [← Int.natCast_floor_eq_floor hv.isBinary64.nonneg,
      hv.floor_eq hlast hnonneg hbelow]
  obtain rfl := hv.eq_fract hrest
  have hlt := Int.fract_lt_one v
  have hfract := Int.fract_nonneg v
  -- The distances of binary64 numbers below `2 ^ 31` and below `2 ^ 30`.
  have hsum : |n + φ - v| < 1 / 2 ^ 22 :=
    hv.abs_sub_lt (by positivity) (by norm_num) (by norm_num at hbelow ⊢; linarith)
  have hproduct : |Int.fract v * 10 ^ 9 - billionths| < 1 / 2 ^ 23 :=
    hbillionths.abs_sub_lt (by positivity) (by norm_num) (by norm_num at hlt ⊢; linarith)
  have hrest : |Int.fract v * 10 ^ 9 - φ * 10 ^ 9| < 1 / 2 ^ 22 * 10 ^ 9 := by
    have hfract_eq : Int.fract v - φ = -(n + φ - v) := by
      rw [← Int.self_sub_floor, hfloor, Int.cast_natCast]
      ring
    rw [← sub_mul, hfract_eq, abs_mul, abs_neg, abs_of_pos (by norm_num : (0 : ℚ) < 10 ^ 9)]
    gcongr
  have hcut : |(⌊billionths⌋₊ : ℚ) - billionths| < 1 := by
    have hfloor_le := Nat.floor_le hbillionths.isBinary64.nonneg
    have hlt_floor := Nat.lt_floor_add_one billionths
    rw [abs_lt]
    constructor <;> linarith
  calc |(⌊billionths⌋₊ : ℚ) - φ * 10 ^ 9|
      ≤ |(⌊billionths⌋₊ : ℚ) - billionths| + |billionths - φ * 10 ^ 9| := abs_sub_le _ _ _
    _ ≤ |(⌊billionths⌋₊ : ℚ) - billionths| + (|Int.fract v * 10 ^ 9 - billionths| +
        |Int.fract v * 10 ^ 9 - φ * 10 ^ 9|) := by
      gcongr
      rw [abs_sub_comm (Int.fract v * 10 ^ 9)]
      exact abs_sub_le _ _ _
    _ < 1 + (1 / 2 ^ 23 + 1 / 2 ^ 22 * 10 ^ 9) := by gcongr
    _ < 1000 := by norm_num

end FewPlaces

end ProxyPolicy.Time
