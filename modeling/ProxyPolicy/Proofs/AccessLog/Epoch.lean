import ProxyPolicy.AccessLog.Line
import ProxyPolicy.Proofs.Text.Parts
import ProxyPolicy.Proofs.Time.Conversion

/-!
# Epoch times

The time of a log line is a text of digits and points. It writes a number if it has a digit and at
most one point (`IsNumber`); the number is that of the digits before the point, and of those behind
it by their places (`decimalValue`). A text is converted to an instant exactly when it writes a
number that denotes one which is not past the last second (`ofText?_eq_some_iff`).

For the texts that are written to a log, whole seconds with at most three decimal places, the
conversion is exact in the seconds, and in the nanoseconds up to a thousand (`epoch_exact`).
-/

namespace ProxyPolicy.AccessLog

open ProxyPolicy.Text ProxyPolicy.Time

/-! ## Decimal digits -/

/-- The number of digits that follow others is added to the number of these, by places. -/
theorem ofDecimal_append (xs ys : List Char) :
    ofDecimal (xs ++ ys) = ofDecimal xs * 10 ^ ys.length + ofDecimal ys := by
  induction ys using List.reverseRecOn with
  | nil => simp [ofDecimal]
  | append_singleton ys c ih =>
    have hlast (zs : List Char) : ofDecimal (zs ++ [c]) = 10 * ofDecimal zs + (c.toNat - 48) := by
      unfold ofDecimal
      rw [List.foldl_append, List.foldl_cons, List.foldl_nil]
    rw [← List.append_assoc, hlast, hlast, ih, List.length_append, List.length_singleton]
    ring

/-- A number of so many digits is less than that power of ten. -/
theorem ofDecimal_lt {cs : List Char} (h : cs.all Char.isDigit = true) :
    ofDecimal cs < 10 ^ cs.length := by
  induction cs using List.reverseRecOn with
  | nil => decide
  | append_singleton cs c ih =>
    rw [List.all_append, Bool.and_eq_true] at h
    have hdigit : c.isDigit = true := by simpa using h.2
    have hvalue : ofDecimal [c] < 10 := by
      have hcode := Char.isDigit_iff_toNat.mp hdigit
      have hzero : ('0').toNat = 48 := rfl
      have hnine : ('9').toNat = 57 := rfl
      simp only [ofDecimal, List.foldl_cons, List.foldl_nil]
      omega
    have hrest := ih h.1
    rw [ofDecimal_append, List.length_append, List.length_singleton, pow_succ]
    omega

/-- No point is among digits. -/
theorem point_not_mem {cs : List Char} (h : cs.all Char.isDigit = true) : '.' ∉ cs := fun hmem =>
  absurd (List.all_eq_true.mp h '.' hmem) (by decide)

/-! ## Numbers -/

/-- What is before the first point of a text. -/
def wholePart (cs : List Char) : List Char := cs.takeWhile (· != '.')

/-- What is behind the first point of a text. -/
def fractionPart (cs : List Char) : List Char := (cs.dropWhile (· != '.')).drop 1

/-- The number that a text of digits and at most one point writes. -/
def decimalValue (cs : List Char) : ℚ :=
  ofDecimal (wholePart cs) + ofDecimal (fractionPart cs) / 10 ^ (fractionPart cs).length

/-- Whether a text of digits and points writes a number. -/
def IsNumber (cs : List Char) : Prop := (∃ c ∈ cs, c.isDigit = true) ∧ cs.count '.' ≤ 1

/-- The ways in which digits and points follow one another in a text. -/
inductive EpochShape : List Char → Prop where
  /-- There are digits only. -/
  | whole {digits : List Char} (h : digits.all Char.isDigit = true) : EpochShape digits
  /-- There is a point between digits; they may be missing on either side. -/
  | pointed {whole fraction : List Char} (hwhole : whole.all Char.isDigit = true)
    (hfraction : fraction.all Char.isDigit = true) : EpochShape (whole ++ '.' :: fraction)
  /-- There are points with digits or none between them. -/
  | manyPoints {whole rest : List Char} (hwhole : whole.all Char.isDigit = true)
    (hrest : '.' ∈ rest) : EpochShape (whole ++ '.' :: rest)

/-- Digits are the characters of a time other than the point. -/
theorem all_isDigit_of_not_mem {cs : List Char} (h : cs.all isEpochChar = true)
    (hpoint : '.' ∉ cs) : cs.all Char.isDigit = true := by
  rw [List.all_eq_true] at h ⊢
  intro c hc
  rcases Bool.or_eq_true_iff.mp (h c hc) with hdigit | hdot
  · exact hdigit
  · exact absurd (eq_of_beq hdot ▸ hc) hpoint

/-- A text of digits and points is of one of the shapes. -/
theorem epochShape {cs : List Char} (h : cs.all isEpochChar = true) : EpochShape cs := by
  by_cases hpoint : '.' ∈ cs
  · obtain ⟨whole, rest, rfl, hwhole⟩ := List.eq_append_cons_of_mem hpoint
    rw [List.all_append, List.all_cons, Bool.and_eq_true, Bool.and_eq_true] at h
    obtain ⟨hbefore, -, hbehind⟩ := h
    have hdigits := all_isDigit_of_not_mem hbefore hwhole
    by_cases hmore : '.' ∈ rest
    · exact .manyPoints hdigits hmore
    · exact .pointed hdigits (all_isDigit_of_not_mem hbehind hmore)
  · exact .whole (all_isDigit_of_not_mem h hpoint)

/-- Digits write the number that they write without a point. -/
theorem decimalValue_whole {whole : List Char} (h : whole.all Char.isDigit = true) :
    decimalValue whole = ofDecimal whole := by
  unfold decimalValue wholePart fractionPart
  rw [takeWhile_bne_of_not_mem (point_not_mem h), dropWhile_bne_of_not_mem (point_not_mem h)]
  simp [ofDecimal]

/-- Digits with a point between them write the number of the first, and that of the others by their
places. -/
theorem decimalValue_pointed {whole : List Char} (h : whole.all Char.isDigit = true)
    (fraction : List Char) :
    decimalValue (whole ++ '.' :: fraction) =
      ofDecimal whole + ofDecimal fraction / 10 ^ fraction.length := by
  unfold decimalValue wholePart fractionPart
  rw [takeWhile_bne_append (point_not_mem h), dropWhile_bne_append (point_not_mem h)]
  rfl

/-- Digits write a number if there are any. -/
theorem isNumber_whole_iff {digits : List Char} (h : digits.all Char.isDigit = true) :
    IsNumber digits ↔ digits ≠ [] := by
  constructor
  · rintro ⟨⟨c, hc, -⟩, -⟩
    exact List.ne_nil_of_mem hc
  · intro hne
    obtain ⟨c, hc⟩ := List.exists_mem_of_ne_nil digits hne
    refine ⟨⟨c, hc, List.all_eq_true.mp h c hc⟩, ?_⟩
    rw [List.count_eq_zero.mpr (point_not_mem h)]
    exact Nat.zero_le 1

/-- Digits with a point between them write a number if there are any. -/
theorem isNumber_pointed_iff {whole fraction : List Char} (hwhole : whole.all Char.isDigit = true)
    (hfraction : fraction.all Char.isDigit = true) :
    IsNumber (whole ++ '.' :: fraction) ↔ whole ++ fraction ≠ [] := by
  have hcount : (whole ++ '.' :: fraction).count '.' = 1 := by
    rw [List.count_append, List.count_cons_self, List.count_eq_zero.mpr (point_not_mem hwhole),
      List.count_eq_zero.mpr (point_not_mem hfraction)]
  constructor
  · rintro ⟨⟨c, hc, hdigit⟩, -⟩
    have hmem : c ∈ whole ++ fraction := by
      rcases List.mem_append.mp hc with hmem | hmem
      · exact List.mem_append_left fraction hmem
      · rcases List.mem_cons.mp hmem with rfl | hmem
        · exact absurd hdigit (by decide)
        · exact List.mem_append_right whole hmem
    exact List.ne_nil_of_mem hmem
  · intro hne
    obtain ⟨c, hc⟩ := List.exists_mem_of_ne_nil _ hne
    have hdigits : (whole ++ fraction).all Char.isDigit = true := by
      rw [List.all_append, hwhole, hfraction, Bool.and_true]
    refine ⟨⟨c, ?_, List.all_eq_true.mp hdigits c hc⟩, hcount.le⟩
    exact (List.mem_append.mp hc).elim (List.mem_append_left _)
      fun hmem => List.mem_append_right whole (List.mem_cons_of_mem '.' hmem)

/-- A text of digits and points is read as the number that it writes, if it writes one. -/
theorem readDecimal_spec {cs : List Char} (h : cs.all isEpochChar = true) :
    match Decimal.ofText? cs with
    | some d => IsNumber cs ∧ d.value = decimalValue cs
    | none => ¬IsNumber cs := by
  unfold Decimal.ofText?
  cases epochShape h with
  | whole hdigits =>
    rw [takeWhile_bne_of_not_mem (point_not_mem hdigits),
      dropWhile_bne_of_not_mem (point_not_mem hdigits), isNumber_whole_iff hdigits,
      decimalValue_whole hdigits]
    by_cases hne : cs = []
    · simp [hne]
    · simp [hne, hdigits, Decimal.value]
  | @pointed whole fraction hwhole hfraction =>
    have hpoint : fraction.contains '.' = false := by
      simpa using point_not_mem hfraction
    have hdigits : (whole ++ fraction).all Char.isDigit = true := by
      rw [List.all_append, hwhole, hfraction, Bool.and_true]
    rw [takeWhile_bne_append (point_not_mem hwhole), dropWhile_bne_append (point_not_mem hwhole),
      isNumber_pointed_iff hwhole hfraction, decimalValue_pointed hwhole]
    simp only [List.drop_succ_cons, List.drop_zero]
    rw [hpoint, hdigits, if_neg Bool.false_ne_true]
    by_cases hne : whole ++ fraction = []
    · simp [hne]
    · have hempty : (whole ++ fraction).isEmpty = false := by simpa using hne
      rw [hempty, Bool.not_true, Bool.or_false, if_neg Bool.false_ne_true]
      refine ⟨hne, ?_⟩
      unfold Decimal.value
      rw [ofDecimal_append]
      push_cast
      field_simp
  | @manyPoints whole rest hwhole hrest =>
    -- The reader looks for a second point only behind the first one, and there it is.
    have hpoint : rest.contains '.' = true := by simpa using hrest
    rw [dropWhile_bne_append (point_not_mem hwhole)]
    simp only [List.drop_succ_cons, List.drop_zero]
    rw [if_pos hpoint]
    rintro ⟨-, hcount⟩
    have hmore := List.count_pos_iff.mpr hrest
    rw [List.count_append, List.count_cons_self] at hcount
    omega

/-- A text of digits and points is converted to an instant exactly when it writes a number that
denotes the instant, and this is not past the last second. -/
theorem ofText?_eq_some_iff {cs : List Char} (h : cs.all isEpochChar = true) {t : Instant} :
    Instant.ofText? cs = some t ↔
      IsNumber cs ∧ Denotes (decimalValue cs) t ∧ t.seconds ≤ lastSecond := by
  have hspec := readDecimal_spec h
  unfold Instant.ofText?
  cases hread : Decimal.ofText? cs with
  | none =>
    rw [hread] at hspec
    exact iff_of_false (fun h => nomatch h) fun h => hspec h.1
  | some d =>
    rw [hread] at hspec
    rw [Option.bind_some, Instant.ofDecimal?_eq_some_iff, hspec.2]
    exact (and_iff_right hspec.1).symm

/-- A text that writes a number denotes an instant, and is converted to it if this is not past the
last second. -/
theorem exists_denotes {cs : List Char} (h : cs.all isEpochChar = true) (hnumber : IsNumber cs) :
    ∃ t, Denotes (decimalValue cs) t ∧
      (t.seconds ≤ lastSecond → Instant.ofText? cs = some t) := by
  have hspec := readDecimal_spec h
  cases hread : Decimal.ofText? cs with
  | none =>
    rw [hread] at hspec
    exact absurd hnumber hspec
  | some d =>
    rw [hread] at hspec
    have hdenotes := denotes_value d
    rw [hspec.2] at hdenotes
    exact ⟨_, hdenotes, fun hlast => (ofText?_eq_some_iff h).mpr ⟨hnumber, hdenotes, hlast⟩⟩

/-! ## Times of a log -/

/-- Whether a text writes whole seconds and at most three decimal places, as in a log. -/
inductive IsLogTime (whole fraction : List Char) : List Char → Prop where
  /-- There are no decimal places, and no point. -/
  | whole (hfraction : fraction = []) : IsLogTime whole fraction whole
  /-- There is a point before the decimal places. -/
  | pointed (hplaces : fraction.length ≤ 3) : IsLogTime whole fraction (whole ++ '.' :: fraction)

namespace IsLogTime

variable {whole fraction cs : List Char}

/-- There are no more than three decimal places. -/
theorem length_le (h : IsLogTime whole fraction cs) : fraction.length ≤ 3 := by
  cases h with
  | whole hfraction => simp [hfraction]
  | pointed hplaces => exact hplaces

/-- The number is that of the seconds and of the decimal places. -/
theorem decimalValue_eq (h : IsLogTime whole fraction cs) (hwhole : whole.all Char.isDigit = true) :
    decimalValue cs = ofDecimal whole + ofDecimal fraction / 10 ^ fraction.length := by
  cases h with
  | whole hfraction =>
    rw [decimalValue_whole hwhole, hfraction]
    simp [ofDecimal]
  | pointed hplaces => exact decimalValue_pointed hwhole fraction

/-- The text writes a number if there are digits for the seconds. -/
theorem isNumber (h : IsLogTime whole fraction cs) (hne : whole ≠ [])
    (hwhole : whole.all Char.isDigit = true) (hfraction : fraction.all Char.isDigit = true) :
    IsNumber cs := by
  cases h with
  | whole _ => exact (isNumber_whole_iff hwhole).mpr hne
  | pointed _ =>
    exact (isNumber_pointed_iff hwhole hfraction).mpr (List.append_ne_nil_of_left_ne_nil hne _)

/-- The decimal places write at most 999 thousandths. -/
theorem fraction_le (h : IsLogTime whole fraction cs)
    (hfraction : fraction.all Char.isDigit = true) :
    (ofDecimal fraction : ℚ) / 10 ^ fraction.length ≤ 1 - 1 / 2 ^ 10 := by
  have hpos : (0 : ℚ) < 10 ^ fraction.length := by positivity
  have hlt : (ofDecimal fraction : ℚ) + 1 ≤ 10 ^ fraction.length := by
    exact_mod_cast ofDecimal_lt hfraction
  have hplaces : (10 : ℚ) ^ fraction.length ≤ 10 ^ 3 := by
    gcongr
    · norm_num
    · exact h.length_le
  rw [div_le_iff₀ hpos]
  linarith

end IsLogTime

/-- The conversion of a time, for every text of digits and points. It gives an instant exactly when
the text has a digit and at most one point, and the number that it writes is rounded to one with a
whole part up to the last second. The instant is the one that the roundings give, with less than a
billion nanoseconds. For whole seconds with at most three decimal places, the seconds are those that
are written; and up to `2 ^ 31` seconds, the nanoseconds are off by less than a thousand. -/
theorem epoch_exact {cs : List Char} (h : cs.all isEpochChar = true) :
    ((Instant.ofText? cs).isSome = true ↔
      (∃ c ∈ cs, c.isDigit = true) ∧ cs.count '.' ≤ 1 ∧
        ∃ v, RoundsTo (decimalValue cs) v ∧ ⌊v⌋₊ ≤ lastSecond) ∧
    (∀ t, Instant.ofText? cs = some t →
      Denotes (decimalValue cs) t ∧ t.nanos < 1000000000) ∧
    ∀ whole fraction, IsLogTime whole fraction cs → whole ≠ [] →
      whole.all Char.isDigit = true → fraction.all Char.isDigit = true →
      ofDecimal whole ≤ lastSecond →
      ∃ nanos, Instant.ofText? cs = some ⟨ofDecimal whole, nanos⟩ ∧
        (ofDecimal whole < 2 ^ 31 →
          |(nanos : ℤ) - ofDecimal fraction * 10 ^ (9 - fraction.length)| < 1000) := by
  refine ⟨⟨fun hsome => ?_, ?_⟩, ?_, ?_⟩
  · obtain ⟨t, ht⟩ := Option.isSome_iff_exists.mp hsome
    obtain ⟨⟨hdigit, hcount⟩, hdenotes, hlast⟩ := (ofText?_eq_some_iff h).mp ht
    obtain @⟨v, _, _, hv, -, -⟩ := hdenotes
    exact ⟨hdigit, hcount, v, hv, hlast⟩
  · rintro ⟨hdigit, hcount, v, hv, hlast⟩
    obtain ⟨t, hdenotes, hconverts⟩ := exists_denotes h ⟨hdigit, hcount⟩
    rw [← hdenotes.seconds_eq_floor hv] at hlast
    exact Option.isSome_iff_exists.mpr ⟨t, hconverts hlast⟩
  · intro t ht
    obtain ⟨-, hdenotes, -⟩ := (ofText?_eq_some_iff h).mp ht
    exact ⟨hdenotes, hdenotes.nanos_lt⟩
  · intro whole fraction hlog hne hwhole hfraction hlast
    obtain ⟨t, hdenotes, hconverts⟩ := exists_denotes h (hlog.isNumber hne hwhole hfraction)
    rw [hlog.decimalValue_eq hwhole] at hdenotes
    have hnonneg : (0 : ℚ) ≤ ofDecimal fraction / 10 ^ fraction.length := by positivity
    have hbelow := hlog.fraction_le hfraction
    -- The seconds that are written are those of the instant, so that these are not too late.
    have hseconds := hdenotes.seconds_eq hlast hnonneg hbelow
    refine ⟨t.nanos, ?_, fun hsize => ?_⟩
    · rw [hconverts (hseconds.trans_le hlast), ← hseconds]
    · have hnear := hdenotes.abs_nanos_sub_lt hsize hnonneg hbelow
      have hplaces : (10 : ℚ) ^ 9 = 10 ^ fraction.length * 10 ^ (9 - fraction.length) := by
        rw [← pow_add, Nat.add_sub_cancel' (hlog.length_le.trans (by norm_num))]
      rw [hplaces, ← mul_assoc, div_mul_cancel₀ _ (by positivity)] at hnear
      exact_mod_cast hnear

/-- A time of a log, one thousandth before the next second. -/
theorem epoch_exact_thousandth :
    let whole := ['1', '7', '0', '0', '0', '0', '0', '0', '0', '1']
    let fraction := ['9', '9', '9']
    let cs := whole ++ '.' :: fraction
    cs.all isEpochChar = true ∧ (Instant.ofText? cs).isSome = true ∧
      ∃ nanos, Instant.ofText? cs = some ⟨1700000001, nanos⟩ ∧ nanos < 1000000000 ∧
        |(nanos : ℤ) - 999000000| < 1000 := by
  intro whole fraction cs
  have hchars : cs.all isEpochChar = true := by decide
  obtain ⟨-, hbound, hexact⟩ := epoch_exact hchars
  obtain ⟨nanos, hconverts, hnear⟩ := hexact whole fraction (.pointed (by decide)) (by decide)
    (by decide) (by decide) (by decide)
  have hseconds : ofDecimal whole = 1700000001 := by decide
  have hthousandths : (ofDecimal fraction : ℤ) * 10 ^ (9 - fraction.length) = 999000000 := by
    decide
  rw [hseconds] at hconverts hnear
  rw [hthousandths] at hnear
  exact ⟨hchars, Option.isSome_of_eq_some hconverts, nanos, hconverts, (hbound _ hconverts).2,
    hnear (by norm_num)⟩

end ProxyPolicy.AccessLog
