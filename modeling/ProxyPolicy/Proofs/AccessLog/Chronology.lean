import ProxyPolicy.Net.SuffixRules
import ProxyPolicy.Proofs.AccessLog.Epoch
import ProxyPolicy.Proofs.AccessLog.Grammar
import ProxyPolicy.Proofs.Time.Calendar

/-!
# Times in order

The order of logged times is the order of their instants (`ofText?_mono`), whatever the number of
their digits; so texts that write one number are converted to one instant, however they are padded
with zeros (`ofText?_congr`). For two lines of a log, the entries have their times in the order in
which they were logged, and show them in this order (`chronology`).
-/

namespace ProxyPolicy.AccessLog

open ProxyPolicy.Net ProxyPolicy.Text ProxyPolicy.Time

/-! ## Times -/

variable {a b cs : List Char} {s t : Instant}

/-- A text that writes a greater number is converted to a later instant, or to the same. -/
theorem ofText?_mono (ha : a.all isEpochChar = true) (hb : b.all isEpochChar = true)
    (hs : Instant.ofText? a = some s) (ht : Instant.ofText? b = some t)
    (h : decimalValue a ≤ decimalValue b) :
    toLex (s.seconds, s.nanos) ≤ toLex (t.seconds, t.nanos) := by
  obtain ⟨-, hs, -⟩ := (ofText?_eq_some_iff ha).mp hs
  obtain ⟨-, ht, -⟩ := (ofText?_eq_some_iff hb).mp ht
  exact hs.mono ht h

/-- Texts that write one number are converted to one instant, or are not converted. -/
theorem ofText?_congr (ha : a.all isEpochChar = true) (hb : b.all isEpochChar = true)
    (hnumber : IsNumber a ↔ IsNumber b) (h : decimalValue a = decimalValue b) :
    Instant.ofText? a = Instant.ofText? b := by
  apply Option.ext
  intro t
  rw [ofText?_eq_some_iff ha, ofText?_eq_some_iff hb, hnumber, h]

/-! ## Padding -/

/-- Zeros are digits. -/
theorem all_isDigit_zeros (n : ℕ) : (List.replicate n '0').all Char.isDigit = true :=
  List.all_eq_true.mpr fun c hc => by rw [List.eq_of_mem_replicate hc]; rfl

/-- Zeros write zero. -/
theorem ofDecimal_zeros (n : ℕ) : ofDecimal (List.replicate n '0') = 0 := by
  induction n with
  | zero => rfl
  | succ n ih =>
    rw [List.replicate_succ', ofDecimal_append, ih, zero_mul, zero_add]
    rfl

/-- Digits are digits and points. -/
theorem all_isEpochChar_whole {whole : List Char} (h : whole.all Char.isDigit = true) :
    whole.all isEpochChar = true := by
  rw [List.all_eq_true] at h ⊢
  exact fun c hc => Bool.or_eq_true_iff.mpr (.inl (h c hc))

/-- Digits with a point between them are digits and points. -/
theorem all_isEpochChar_pointed {whole fraction : List Char}
    (hwhole : whole.all Char.isDigit = true) (hfraction : fraction.all Char.isDigit = true) :
    (whole ++ '.' :: fraction).all isEpochChar = true := by
  rw [List.all_append, List.all_cons, all_isEpochChar_whole hwhole,
    all_isEpochChar_whole hfraction]
  rfl

variable {whole fraction : List Char}

/-- Zeros before digits change nothing. -/
theorem ofText?_zeros_append (hwhole : whole.all Char.isDigit = true) (hne : whole ≠ []) (n : ℕ) :
    Instant.ofText? (List.replicate n '0' ++ whole) = Instant.ofText? whole := by
  have hzeros : (List.replicate n '0' ++ whole).all Char.isDigit = true := by
    rw [List.all_append, all_isDigit_zeros, hwhole, Bool.and_true]
  refine ofText?_congr (all_isEpochChar_whole hzeros) (all_isEpochChar_whole hwhole) ?_ ?_
  · rw [isNumber_whole_iff hzeros, isNumber_whole_iff hwhole]
    exact iff_of_true (List.append_ne_nil_of_right_ne_nil _ hne) hne
  · rw [decimalValue_whole hzeros, decimalValue_whole hwhole, ofDecimal_append, ofDecimal_zeros,
      zero_mul, zero_add]

/-- A point behind digits, and zeros behind the point, change nothing. -/
theorem ofText?_append_point (hwhole : whole.all Char.isDigit = true) (hne : whole ≠ []) (n : ℕ) :
    Instant.ofText? (whole ++ '.' :: List.replicate n '0') = Instant.ofText? whole := by
  have hzeros := all_isDigit_zeros n
  refine ofText?_congr (all_isEpochChar_pointed hwhole hzeros) (all_isEpochChar_whole hwhole) ?_ ?_
  · rw [isNumber_pointed_iff hwhole hzeros, isNumber_whole_iff hwhole]
    exact iff_of_true (List.append_ne_nil_of_left_ne_nil hne _) hne
  · rw [decimalValue_pointed hwhole, decimalValue_whole hwhole, ofDecimal_zeros, Nat.cast_zero,
      zero_div, add_zero]

/-- Zeros before the digits and behind the decimal places change nothing. -/
theorem ofText?_zeros_pointed (hwhole : whole.all Char.isDigit = true)
    (hfraction : fraction.all Char.isDigit = true) (hne : whole ++ fraction ≠ []) (m n : ℕ) :
    Instant.ofText? ((List.replicate m '0' ++ whole) ++ '.' :: (fraction ++ List.replicate n '0')) =
      Instant.ofText? (whole ++ '.' :: fraction) := by
  have hbefore : (List.replicate m '0' ++ whole).all Char.isDigit = true := by
    rw [List.all_append, all_isDigit_zeros, hwhole, Bool.and_true]
  have hbehind : (fraction ++ List.replicate n '0').all Char.isDigit = true := by
    rw [List.all_append, all_isDigit_zeros, hfraction, Bool.and_true]
  refine ofText?_congr (all_isEpochChar_pointed hbefore hbehind)
    (all_isEpochChar_pointed hwhole hfraction) ?_ ?_
  · rw [isNumber_pointed_iff hbefore hbehind, isNumber_pointed_iff hwhole hfraction]
    refine iff_of_true (fun hnil => hne ?_) hne
    simp only [List.append_eq_nil_iff] at hnil ⊢
    exact ⟨hnil.1.2, hnil.2.1⟩
  · rw [decimalValue_pointed hbefore, decimalValue_pointed hwhole, ofDecimal_append,
      ofDecimal_append, ofDecimal_zeros, ofDecimal_zeros, zero_mul, zero_add, add_zero,
      List.length_append, List.length_replicate, pow_add, Nat.cast_mul, Nat.cast_pow,
      Nat.cast_ofNat, mul_div_mul_right _ _ (by positivity)]

/-! ## Lines -/

/-- The number that a line of the log writes as its time. -/
def Reading.loggedTime (d : Reading) : ℚ := decimalValue d.epoch.field.chars

/-- The time of a reading is the one that the reader finds. -/
theorem Reading.epoch_eq {d : Reading} {text epoch : List Char} (hd : d.text = text)
    (h : (fields? text).map Fields.epoch = some epoch) : d.epoch.field.chars = epoch := by
  rw [← hd, d.fields?_text] at h
  exact Option.some.inj h

/-- The entry of a line has the instant to which the time of the line is converted. -/
theorem ofText?_of_parse {rules : List SuffixRule} {line : String} {e : Entry} {d : Reading}
    (h : parse rules line = .ok (some e)) (hd : d.text = line.toList) :
    Instant.ofText? d.epoch.field.chars = some e.time := by
  obtain ⟨d', hd', htime, -⟩ := (parse_eq_ok_some_iff line e).mp h
  rw [Reading.text_injective (hd.trans hd'.symm)]
  exact htime

/-- The characters of the time of a line are digits and points. -/
theorem Reading.all_epoch (d : Reading) : d.epoch.field.chars.all isEpochChar = true :=
  List.all_eq_true.mpr d.epoch.field.all

/-- Entries of lines have their times in the order in which these were logged. -/
theorem time_mono {rules : List SuffixRule} {line line' : String} {e e' : Entry} {d d' : Reading}
    (h : parse rules line = .ok (some e)) (h' : parse rules line' = .ok (some e'))
    (hd : d.text = line.toList) (hd' : d'.text = line'.toList)
    (hle : d.loggedTime ≤ d'.loggedTime) :
    toLex (e.time.seconds, e.time.nanos) ≤ toLex (e'.time.seconds, e'.time.nanos) :=
  ofText?_mono d.all_epoch d'.all_epoch (ofText?_of_parse h hd) (ofText?_of_parse h' hd') hle

/-- The seconds of an instant are in order if the instants are. -/
theorem seconds_le_of_toLex_le (h : toLex (s.seconds, s.nanos) ≤ toLex (t.seconds, t.nanos)) :
    s.seconds ≤ t.seconds := by
  rcases (Prod.Lex.toLex_le_toLex).mp h with hlt | ⟨heq, -⟩
  · exact hlt.le
  · exact heq.le

/-- The conversion of times keeps their order, for texts of digits and points of any length. A text
that writes no greater number than another one is converted to an instant that is not later, in
seconds and then nanoseconds. Texts that write the same number are converted to the same instant,
with zeros before the digits and behind the decimal places or without, and with a point or without.
So the entries of two lines have their times in the order in which these were logged, and show them
in this order. -/
theorem chronology :
    (∀ a b s t, a.all isEpochChar = true → b.all isEpochChar = true →
      Instant.ofText? a = some s → Instant.ofText? b = some t → decimalValue a ≤ decimalValue b →
      toLex (s.seconds, s.nanos) ≤ toLex (t.seconds, t.nanos)) ∧
    (∀ a b, a.all isEpochChar = true → b.all isEpochChar = true → IsNumber a → IsNumber b →
      decimalValue a = decimalValue b → Instant.ofText? a = Instant.ofText? b) ∧
    (∀ whole fraction m n, whole.all Char.isDigit = true → fraction.all Char.isDigit = true →
      (whole ++ fraction ≠ [] →
        Instant.ofText?
            ((List.replicate m '0' ++ whole) ++ '.' :: (fraction ++ List.replicate n '0')) =
          Instant.ofText? (whole ++ '.' :: fraction)) ∧
      (whole ≠ [] →
        Instant.ofText? (List.replicate m '0' ++ whole) = Instant.ofText? whole ∧
        Instant.ofText? (whole ++ '.' :: List.replicate n '0') = Instant.ofText? whole)) ∧
    ∀ (rules : List SuffixRule) (line line' : String) (e e' : Entry) (d d' : Reading),
      parse rules line = .ok (some e) → parse rules line' = .ok (some e') →
      d.text = line.toList → d'.text = line'.toList → d.loggedTime ≤ d'.loggedTime →
      toLex (e.time.seconds, e.time.nanos) ≤ toLex (e'.time.seconds, e'.time.nanos) ∧
        e.time.shown ≤ e'.time.shown := by
  refine ⟨fun a b s t => ofText?_mono, fun a b ha hb hnumber hnumber' =>
    ofText?_congr ha hb (iff_of_true hnumber hnumber'), ?_, ?_⟩
  · intro whole fraction m n hwhole hfraction
    exact ⟨fun hne => ofText?_zeros_pointed hwhole hfraction hne m n,
      fun hne => ⟨ofText?_zeros_append hwhole hne m, ofText?_append_point hwhole hne n⟩⟩
  · intro rules line line' e e' d d' h h' hd hd' hle
    have htimes := time_mono h h' hd hd' hle
    exact ⟨htimes, Instant.shown_mono (seconds_le_of_toLex_le htimes)⟩

/-- A time that is rounded up to the next second, and the time of that second, padded. -/
theorem chronology_rounded_up :
    let line := "1.9999999999999999999 5 c T/200 1 CONNECT 10.0.0.1:443 - D/1 -"
    let line' := "02.00 5 c T/200 1 CONNECT 10.0.0.1:443 - D/1 -"
    ∃ (e e' : Entry) (d d' : Reading),
      parse suffixRules line = .ok (some e) ∧ parse suffixRules line' = .ok (some e') ∧
      d.text = line.toList ∧ d'.text = line'.toList ∧ d.loggedTime < d'.loggedTime ∧
      e.time = ⟨2, 0⟩ ∧
      toLex (e.time.seconds, e.time.nanos) ≤ toLex (e'.time.seconds, e'.time.nanos) ∧
      e.time.shown ≤ e'.time.shown ∧
      Instant.ofText? (['0'] ++ ['2'] ++ '.' :: ([] ++ ['0', '0'])) =
        Instant.ofText? ['2', '.'] := by
  intro line line'
  let e : Entry := ⟨⟨2, 0⟩, "c", "CONNECT", "10.0.0.1", "10.0.0.1", "", "10.0.0.1:443", "-"⟩
  have hparse : parse suffixRules line = .ok (some e) := by decide +kernel
  have hparse' : parse suffixRules line' = .ok (some e) := by decide +kernel
  obtain ⟨d, hd, -⟩ := (parse_eq_ok_some_iff line e).mp hparse
  obtain ⟨d', hd', -⟩ := (parse_eq_ok_some_iff line' e).mp hparse'
  have hepoch : d.epoch.field.chars = "1.9999999999999999999".toList :=
    Reading.epoch_eq hd (by decide +kernel)
  have hepoch' : d'.epoch.field.chars = "02.00".toList := Reading.epoch_eq hd' (by decide +kernel)
  have hless : d.loggedTime < d'.loggedTime := by
    unfold Reading.loggedTime
    rw [hepoch, hepoch']
    decide +kernel
  obtain ⟨-, -, hpadding, hlines⟩ := chronology
  obtain ⟨htimes, hshown⟩ := hlines suffixRules line line' e e d d' hparse hparse' hd hd' hless.le
  have hpadded := (hpadding ['2'] [] 1 2 (by decide) (by decide)).1 (by decide)
  exact ⟨e, e, d, d', hparse, hparse', hd, hd', hless, rfl, htimes, hshown, hpadded⟩

end ProxyPolicy.AccessLog
