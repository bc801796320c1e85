import Mathlib.Data.Nat.Basic
import Mathlib.Data.Prod.Lex
import Mathlib.Tactic.SplitIfs
import ProxyPolicy.Time.Instant

/-!
# Dates in order

An instant is shown as six numbers, from the year down to the second (`Instant.shown`). Later
seconds are shown as later dates and times, or as the same (`Instant.shown_mono`).

Within an era of 400 years, the year of a day is found by taking out the leap days before it. This
leaves no more than 365 days to the day from the start of its year (`dayOfYear_le`), and so no more
than eleven months (`monthFromMarch_le`). Hence the days are ordered as their years from March and
the days in these (`yearFromMarch_lex`), and these as the months counted through all years and the
days in them.
-/

namespace ProxyPolicy.Time

/-! ## Years from March -/

/-- The year of an era that a day of the era is in. -/
def yearOfEra (dayOfEra : ℕ) : ℕ :=
  (dayOfEra - dayOfEra / 1460 + dayOfEra / 36524 - dayOfEra / 146096) / 365

/-- The day in its year of a day of an era. -/
def dayOfYear (dayOfEra : ℕ) : ℕ :=
  dayOfEra - (365 * yearOfEra dayOfEra + yearOfEra dayOfEra / 4 - yearOfEra dayOfEra / 100)

/-- The month, from March as month zero, that a day of a year is in. -/
def monthFromMarch (dayOfYear : ℕ) : ℕ := (5 * dayOfYear + 2) / 153

/-- The day in its month of a day of a year. -/
def dayOfMonth (dayOfYear : ℕ) : ℕ := dayOfYear - (153 * monthFromMarch dayOfYear + 2) / 5 + 1

/-- An era has 400 years. -/
theorem yearOfEra_le {d : ℕ} (h : d < 146097) : yearOfEra d ≤ 399 := by
  unfold yearOfEra
  omega

/-- Later days of an era are in later years, or in the same. -/
theorem yearOfEra_mono {d d' : ℕ} (h : d ≤ d') : yearOfEra d ≤ yearOfEra d' := by
  induction h with
  | refl => exact le_rfl
  | @step n _ ih =>
    refine ih.trans ?_
    unfold yearOfEra
    omega

/-- A year of an era does not start behind its days. -/
theorem start_le {d : ℕ} (h : d < 146097) :
    365 * yearOfEra d + yearOfEra d / 4 - yearOfEra d / 100 ≤ d := by
  -- The last day of an era is a leap day, with which no other century of the era ends.
  rcases (Nat.le_of_lt_succ h).eq_or_lt with rfl | hlt
  · decide
  -- The year is compared with the one in which its century starts, where it can be computed.
  have hcenturies : 100 * (d / 36524) ≤ yearOfEra d := by
    have hcentury : d / 36524 ≤ 3 := by omega
    calc 100 * (d / 36524) ≤ yearOfEra (36524 * (d / 36524)) := by
          unfold yearOfEra
          omega
      _ ≤ yearOfEra d := yearOfEra_mono (Nat.mul_div_le d 36524)
  have hyears : 365 * yearOfEra d + d / 1460 ≤ d + d / 36524 := by
    unfold yearOfEra
    omega
  have hcycles : yearOfEra d / 4 ≤ d / 1460 := by omega
  omega

/-- A year has at most 366 days. -/
theorem dayOfYear_le {d : ℕ} (h : d < 146097) : dayOfYear d ≤ 365 := by
  rcases (Nat.le_of_lt_succ h).eq_or_lt with rfl | hlt
  · decide
  -- There is at most one leap day more than there are full cycles of four years, and there are no
  -- more centuries than are taken out.
  have hcycles : 4 * (d / 1460) ≤ yearOfEra d + 1 := by
    unfold yearOfEra
    omega
  have hcenturies : yearOfEra d < 100 * (d / 36524 + 1) := by
    unfold yearOfEra
    rcases lt_or_ge (d / 1460) (25 * (d / 36524 + 1)) with hfew | hmany <;> omega
  have hyears : d + d / 36524 < 365 * (yearOfEra d + 1) + d / 1460 := by
    unfold yearOfEra
    omega
  unfold dayOfYear
  omega

/-- A year has twelve months. -/
theorem monthFromMarch_le {d : ℕ} (h : d ≤ 365) : monthFromMarch d ≤ 11 := by
  unfold monthFromMarch
  omega

/-- Later days of a year are in later months, or are later days of the same month. -/
theorem monthFromMarch_lex {d d' : ℕ} (h : d < d') :
    monthFromMarch d < monthFromMarch d' ∨
      monthFromMarch d = monthFromMarch d' ∧ dayOfMonth d < dayOfMonth d' := by
  unfold dayOfMonth monthFromMarch
  omega

/-- The year from March on that a day is in. -/
def yearFromMarch (day : ℕ) : ℕ := yearOfEra (day % 146097) + 400 * (day / 146097)

/-- Later days are in later years, or are later days of the same year. -/
theorem yearFromMarch_lex {d d' : ℕ} (h : d < d') :
    yearFromMarch d < yearFromMarch d' ∨
      yearFromMarch d = yearFromMarch d' ∧
        dayOfYear (d % 146097) < dayOfYear (d' % 146097) := by
  have hyear := yearOfEra_le (Nat.mod_lt d (by decide : 0 < 146097))
  unfold yearFromMarch
  rcases (Nat.div_le_div_right (c := 146097) h.le).lt_or_eq with hera | hera
  · exact .inl (by omega)
  · -- In one era, the days and their years are counted from the same start.
    have hday : d % 146097 < d' % 146097 := by omega
    have hstart := start_le (Nat.mod_lt d (by decide : 0 < 146097))
    rw [hera]
    rcases (yearOfEra_mono hday.le).lt_or_eq with hlt | heq
    · exact .inl (by omega)
    · refine .inr ⟨by rw [heq], ?_⟩
      unfold dayOfYear
      rw [heq] at hstart ⊢
      omega

/-! ## Dates -/

/-- A date is made of its year and its month from March, which count the months of all years, and of
the day in the month. -/
theorem Date.ofDays_spec (days : ℕ) :
    let date := Date.ofDays days
    let day := dayOfYear ((days + 719468) % 146097)
    12 * date.year + date.month = 12 * yearFromMarch (days + 719468) + monthFromMarch day + 3 ∧
      1 ≤ date.month ∧ date.month ≤ 12 ∧ date.day = dayOfMonth day := by
  intro date day
  have hlast : monthFromMarch day ≤ 11 :=
    monthFromMarch_le (dayOfYear_le (Nat.mod_lt _ (by decide)))
  have hmonth : date.month =
      if monthFromMarch day < 10 then monthFromMarch day + 3 else monthFromMarch day - 9 := rfl
  have hyear : date.year =
      yearFromMarch (days + 719468) + if date.month ≤ 2 then 1 else 0 := rfl
  refine ⟨?_, ?_, ?_, rfl⟩ <;> split_ifs at hmonth hyear <;> omega

/-- Later days have later dates. -/
theorem Date.ofDays_lex {m n : ℕ} (h : m < n) :
    (ofDays m).year < (ofDays n).year ∨ (ofDays m).year = (ofDays n).year ∧
      ((ofDays m).month < (ofDays n).month ∨ (ofDays m).month = (ofDays n).month ∧
        (ofDays m).day < (ofDays n).day) := by
  obtain ⟨hcount, hpos, hle, hday⟩ := Date.ofDays_spec m
  obtain ⟨hcount', hpos', hle', hday'⟩ := Date.ofDays_spec n
  have hmonth := monthFromMarch_le
    (dayOfYear_le (Nat.mod_lt (m + 719468) (by decide : 0 < 146097)))
  rcases yearFromMarch_lex (Nat.add_lt_add_right h 719468) with hyear | ⟨hyear, hdays⟩
  · omega
  · rcases monthFromMarch_lex hdays with hlt | ⟨heq, hlt⟩
    · omega
    · omega

/-! ## Instants -/

/-- What is shown of an instant, from the year down to the second, to be compared in this order. -/
def Instant.shown (t : Instant) : ℕ ×ₗ ℕ ×ₗ ℕ ×ₗ ℕ ×ₗ ℕ ×ₗ ℕ :=
  let date := Date.ofDays (t.seconds / 86400)
  let second := t.seconds % 86400
  toLex (date.year, toLex (date.month, toLex (date.day,
    toLex (second / 3600, toLex (second / 60 % 60, second % 60)))))

/-- Nothing else is shown. -/
theorem Instant.display_of_shown {t : Instant} {year month day hour minute second : ℕ}
    (h : t.shown =
      toLex (year, toLex (month, toLex (day, toLex (hour, toLex (minute, second)))))) :
    t.display = yearText year ++ "-" ++ padded 2 month ++ "-" ++ padded 2 day ++ " " ++
      padded 2 hour ++ ":" ++ padded 2 minute ++ ":" ++ padded 2 second ++ " UTC" := by
  unfold shown at h
  simp only [toLex_inj, Prod.mk.injEq] at h
  obtain ⟨rfl, rfl, rfl, rfl, rfl, rfl⟩ := h
  rfl

/-- Later seconds are shown as later dates and times, or as the same. -/
theorem Instant.shown_mono {s t : Instant} (h : s.seconds ≤ t.seconds) : s.shown ≤ t.shown := by
  unfold shown
  simp only [Prod.Lex.toLex_le_toLex]
  rcases (Nat.div_le_div_right (c := 86400) h).lt_or_eq with hday | hday
  · -- On a later day, the time of day does not matter.
    rcases Date.ofDays_lex hday with hyear | ⟨hyear, hmonth | ⟨hmonth, hlt⟩⟩
    · exact .inl hyear
    · exact .inr ⟨hyear, .inl hmonth⟩
    · exact .inr ⟨hyear, .inr ⟨hmonth, .inl hlt⟩⟩
  · rw [hday]
    omega

end ProxyPolicy.Time
