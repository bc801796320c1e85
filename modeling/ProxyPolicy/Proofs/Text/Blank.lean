import ProxyPolicy.Text.Word

/-!
# White space apart from the other classes

No digit and no word character is white space (`isBlank_of_isDecimalDigit`, `isBlank_of_isWord`), so
that white space ends a run of either. The classes are sets of code points; two of them are disjoint
if each range of the one lies before or behind each range of the other (`CodeSet.apart`), which is
decided on the ranges.

The long sets are written as text. `apart_ofText` decides on the characters of the text, which a
literal gives at once; the text itself would have to be decoded from its octets.
-/

namespace ProxyPolicy.Text

namespace CodeSet

/-- Whether each range of one set lies before or behind each range of the other. -/
def apart (s t : CodeSet) : Bool :=
  s.ranges.all fun r => t.ranges.all fun r' => decide (r.2 < r'.1 ∨ r'.2 < r.1)

/-- A character of one set is not in a set apart from it. -/
theorem contains_of_apart {s t : CodeSet} {c : Char} (h : s.apart t = true)
    (hc : s.contains c = true) : t.contains c = false := by
  unfold contains at hc ⊢
  -- The range that holds the character lies on one side of every range of the other set.
  obtain ⟨r, hr, hin⟩ := List.any_eq_true.mp hc
  rw [List.any_eq_false]
  intro r' hr'
  have hapart : r.2 < r'.1 ∨ r'.2 < r.1 := by
    unfold apart at h
    have hr := List.all_eq_true.mp h r hr
    simpa using List.all_eq_true.mp hr r' hr'
  simp only [Bool.and_eq_true, decide_eq_true_eq] at hin ⊢
  omega

/-- The set that a list of characters writes is apart from a set if the ranges of its words are. -/
theorem apart_ofText (cs : List Char) (t : CodeSet)
    (h : apart ⟨((cs.splitOnP fun c => c == ' ' || c == '\n').filter (· ≠ [])).map rangeOfWord⟩ t =
      true) : (ofText (String.ofList cs)).apart t = true := by
  unfold ofText words
  rw [String.toList_ofList]
  exact h

end CodeSet

/-- White space as a set of code points. -/
def blankSet : CodeSet :=
  ⟨[(0x9, 0xd), (0x20, 0x20), (0x85, 0x85), (0xa0, 0xa0), (0x1680, 0x1680), (0x2000, 0x200a),
    (0x2028, 0x2029), (0x202f, 0x202f), (0x205f, 0x205f), (0x3000, 0x3000)]⟩

/-- White space is the set of its code points. -/
theorem isBlank_eq (c : Char) : isBlank c = blankSet.contains c := by
  rw [Bool.eq_iff_iff]
  simp only [isBlank, blankSet, CodeSet.contains, List.any_cons, List.any_nil, Bool.or_eq_true,
    Bool.and_eq_true, decide_eq_true_eq, beq_iff_eq, Bool.or_false]
  omega

/-- The decimal digits as a set of code points. -/
def digitSet : CodeSet := ⟨zeroDigits.map fun z => (z, z + 9)⟩

/-- The decimal digits are the set of their code points. -/
theorem isDecimalDigit_eq (c : Char) : isDecimalDigit c = digitSet.contains c := by
  unfold isDecimalDigit digitSet CodeSet.contains
  rw [List.any_map]
  congr 1
  funext z
  rw [Bool.eq_iff_iff]
  simp only [Function.comp_apply, Bool.and_eq_true, decide_eq_true_eq]
  omega

/-- No decimal digit is white space. -/
theorem isBlank_of_isDecimalDigit {c : Char} (h : isDecimalDigit c = true) :
    isBlank c = false := by
  rw [isBlank_eq]
  rw [isDecimalDigit_eq] at h
  exact CodeSet.contains_of_apart (by decide +kernel) h

set_option maxRecDepth 40000 in
/-- No alphabetic character is white space. -/
theorem alphabeticSet_apart : alphabeticSet.apart blankSet = true :=
  CodeSet.apart_ofText _ _ (by decide +kernel)

set_option maxRecDepth 20000 in
/-- No mark, connector or joiner is white space. -/
theorem wordMarkSet_apart : wordMarkSet.apart blankSet = true :=
  CodeSet.apart_ofText _ _ (by decide +kernel)

/-- No visible ASCII character is white space. -/
theorem isBlank_of_visible {c : Char} (h : 0x21 ≤ c.toNat) (h' : c.toNat ≤ 0x7e) :
    isBlank c = false := by
  unfold isBlank
  simp only [Bool.or_eq_false_iff, Bool.and_eq_false_iff, decide_eq_false_iff_not,
    beq_eq_false_iff_ne]
  omega

/-- ASCII digits are visible. -/
theorem isBlank_of_isDigit {c : Char} (h : c.isDigit = true) : isBlank c = false := by
  obtain ⟨hlow, hhigh⟩ := Bool.and_eq_true_iff.mp h
  have hlow : 0x30 ≤ c.toNat := UInt32.le_iff_toNat_le.mp (of_decide_eq_true hlow)
  have hhigh : c.toNat ≤ 0x39 := UInt32.le_iff_toNat_le.mp (of_decide_eq_true hhigh)
  exact isBlank_of_visible (by omega) (by omega)

/-- ASCII letters are visible. -/
theorem isBlank_of_isAlpha {c : Char} (h : c.isAlpha = true) : isBlank c = false := by
  rcases Bool.or_eq_true_iff.mp h with hupper | hlower
  · have hbounds : 'A'.val ≤ c.val ∧ c.val ≤ 'Z'.val := of_decide_eq_true hupper
    have hlow : 0x41 ≤ c.toNat := UInt32.le_iff_toNat_le.mp hbounds.1
    have hhigh : c.toNat ≤ 0x5a := UInt32.le_iff_toNat_le.mp hbounds.2
    exact isBlank_of_visible (by omega) (by omega)
  · obtain ⟨hlow, hhigh⟩ := Bool.and_eq_true_iff.mp hlower
    have hlow : 0x61 ≤ c.toNat := UInt32.le_iff_toNat_le.mp (of_decide_eq_true hlow)
    have hhigh : c.toNat ≤ 0x7a := UInt32.le_iff_toNat_le.mp (of_decide_eq_true hhigh)
    exact isBlank_of_visible (by omega) (by omega)

/-- No word character is white space. -/
theorem isBlank_of_isWord {c : Char} (h : isWord c = true) : isBlank c = false := by
  unfold isWord at h
  by_cases hascii : c.toNat < 128
  · rw [if_pos hascii, Char.isAlphanum, Bool.or_eq_true, Bool.or_eq_true, beq_iff_eq] at h
    rcases h with (halpha | hdigit) | rfl
    · exact isBlank_of_isAlpha halpha
    · exact isBlank_of_isDigit hdigit
    · decide
  · rw [if_neg hascii, Bool.or_eq_true, Bool.or_eq_true] at h
    rcases h with (halphabetic | hdigit) | hmark
    · rw [isBlank_eq]
      exact CodeSet.contains_of_apart alphabeticSet_apart halphabetic
    · exact isBlank_of_isDecimalDigit hdigit
    · rw [isBlank_eq]
      exact CodeSet.contains_of_apart wordMarkSet_apart hmark

end ProxyPolicy.Text
