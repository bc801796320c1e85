import ProxyPolicy.Net.Idna
import ProxyPolicy.Proofs.List.Loops
import ProxyPolicy.Proofs.Text.Lowercase
import ProxyPolicy.Proofs.Text.Parts
import ProxyPolicy.Text.Percent

/-!
# Names of ASCII

A domain name of ASCII is prepared by writing its letters in lower case (`prepare?_of_ascii`): its
characters are not taken apart, none of them is a mark, and none composes with the one before it,
since the second part of every composite lies outside ASCII (`composites_parts`). So a colon in such
a name is still there after the preparation, and the name is refused for it (`toLabels?_of_colon`).
-/

namespace ProxyPolicy.Net

open ProxyPolicy.Text

/-! ## Octets -/

/-- A character of ASCII is written as the octet of its code. -/
theorem utf8EncodeChar_of_ascii {c : Char} (h : c.toNat < 128) :
    String.utf8EncodeChar c = [c.val.toUInt8] := by
  refine String.utf8EncodeChar_eq_singleton (Char.utf8Size_eq_one_iff.mpr ?_)
  rw [UInt32.le_iff_toNat_le]
  exact Nat.le_of_lt_succ h

/-- Octets of ASCII are decoded one by one. -/
theorem foldl_feed_of_ascii {cs : List Char} (h : ∀ c ∈ cs, c.toNat < 128)
    (us : Array Utf8.Chunk) :
    (cs.map (·.val.toUInt8)).foldl Utf8.Decoder.feed ⟨us, none⟩ =
      ⟨us ++ (cs.map some).toArray, none⟩ := by
  induction cs generalizing us with
  | nil => simp
  | cons c cs ih =>
    have hascii := h c List.mem_cons_self
    have hcode : c.val.toUInt8.toNat = c.toNat := by
      rw [UInt32.toNat_toUInt8]
      exact Nat.mod_eq_of_lt (Nat.lt_trans hascii (by decide))
    have hfeed : Utf8.Decoder.feed ⟨us, none⟩ c.val.toUInt8 = ⟨us.push (some c), none⟩ := by
      have hstart : Utf8.start c.toNat = .inl (some c) := by
        unfold Utf8.start
        rw [if_pos hascii, Char.ofNat_toNat]
      simp only [Utf8.Decoder.feed, Utf8.Decoder.fresh, hcode, hstart]
    rw [List.map_cons, List.foldl_cons, hfeed, ih fun d hd => h d (List.mem_cons_of_mem c hd)]
    simp

/-- A text of ASCII is decoded from its octets. -/
theorem decodeLossy_of_ascii {cs : List Char} (h : ∀ c ∈ cs, c.toNat < 128) :
    Utf8.decodeLossy (cs.map (·.val.toUInt8)) = cs := by
  unfold Utf8.decodeLossy Utf8.units Utf8.Decoder.empty
  rw [foldl_feed_of_ascii h]
  simp [Utf8.Decoder.finish, Function.comp_def]

/-- A text of ASCII without escapes stands for the octets of its codes. -/
theorem octets_of_ascii {cs : List Char} (h : ∀ c ∈ cs, c.toNat < 128) (hescape : '%' ∉ cs) :
    Percent.octets cs = cs.map (·.val.toUInt8) := by
  induction cs with
  | nil => rfl
  | cons c cs ih =>
    have hne : c ≠ '%' := by
      rintro rfl
      exact hescape List.mem_cons_self
    have hrest := ih (fun d hd => h d (List.mem_cons_of_mem c hd))
      fun hmem => hescape (List.mem_cons_of_mem c hmem)
    rw [Percent.octets, utf8EncodeChar_of_ascii (h c List.mem_cons_self), hrest]
    · rfl
    · intro high low rest hc
      exact absurd hc hne

namespace Idna

/-! ## Composition -/

/-- What holds of the runs that the words of a text write holds of the runs of the map. -/
theorem all_runs_ofText (cs : List Char) (p : CodeMap.Run → Bool)
    (h : (((cs.splitOnP fun c => c == ' ' || c == '\n').filter (· ≠ [])).map
      CodeMap.runOfWord).all p = true) : (CodeMap.ofText (String.ofList cs)).runs.all p = true := by
  unfold CodeMap.ofText words
  rw [String.toList_ofList]
  exact h

set_option maxRecDepth 40000 in
/-- The second part of a composite is no character of ASCII. -/
theorem composites_parts :
    (composites.runs.all fun r => r.image.drop 1 |>.all (128 ≤ ·)) = true :=
  all_runs_ofText _ _ (by decide +kernel)

/-- No character composes with one of ASCII after it. -/
theorem compose?_of_ascii (a : Char) {c : Char} (h : c.toNat < 128) : compose? a c = none := by
  unfold compose?
  dsimp only
  rw [if_neg (by omega), if_neg (by omega), Option.map_eq_none_iff, List.find?_eq_none]
  intro r hr himage
  have hparts := List.all_eq_true.mp composites_parts r hr
  rw [beq_iff_eq.mp himage] at hparts
  have hcode : 128 ≤ c.toNat := by simpa using hparts
  omega

/-- A character of ASCII is not taken apart. -/
theorem decompose_of_ascii (depth : Nat) {c : Char} (h : c.toNat < 128) :
    decompose depth c = [c] := by
  have hparts : parts? c = none := if_pos h
  cases depth with
  | zero => rfl
  | succ depth => rw [decompose, hparts]

/-- Characters of ASCII are no marks, so that their order stays. -/
theorem orderMarks_of_ascii {cs : List Char} (h : ∀ c ∈ cs, c.toNat < 128) :
    orderMarks cs = cs := by
  unfold orderMarks
  induction cs with
  | nil => rfl
  | cons c cs ih =>
    rw [List.foldr_cons, ih fun d hd => h d (List.mem_cons_of_mem c hd)]
    cases cs with
    | nil => rfl
    | cons d ds =>
      have hd : combiningClass d = 0 := if_pos (h d (List.mem_cons_of_mem c List.mem_cons_self))
      rw [placeMark, if_neg (by omega)]

/-- Characters of ASCII are put behind what is composed. -/
theorem reversed_foldl_push_of_ascii {cs : List Char} (h : ∀ c ∈ cs, c.toNat < 128)
    (done : List Char) (base : Option Char) :
    (cs.foldl Composing.push ⟨done, base, []⟩).reversed =
      cs.reverse ++ Composing.reversed ⟨done, base, []⟩ := by
  induction cs generalizing done base with
  | nil => rfl
  | cons c cs ih =>
    have hascii := h c List.mem_cons_self
    have hclass : combiningClass c = 0 := if_pos hascii
    have hnone : base.bind (compose? · c) = none := by
      cases base with
      | none => rfl
      | some a => exact compose?_of_ascii a hascii
    have hpush : Composing.push ⟨done, base, []⟩ c =
        ⟨Composing.reversed ⟨done, base, []⟩, some c, []⟩ := by
      simp only [Composing.push, if_true, hnone, hclass]
    rw [List.foldl_cons, hpush, ih fun d hd => h d (List.mem_cons_of_mem c hd)]
    simp [Composing.reversed]

/-- A text of ASCII is composed already. -/
theorem compose_of_ascii {cs : List Char} (h : ∀ c ∈ cs, c.toNat < 128) : compose cs = cs := by
  have hapart : cs.flatMap (decompose 4) = cs := by
    rw [List.flatMap_congr fun c hc => decompose_of_ascii 4 (h c hc)]
    simp
  unfold compose
  rw [hapart, orderMarks_of_ascii h, reversed_foldl_push_of_ascii h]
  simp [Composing.reversed]

/-! ## Preparation -/

/-- A character of ASCII in lower case is one of ASCII. -/
theorem toNat_lt_of_mem_map_toLower {name : List Char} (h : ∀ c ∈ name, c.toNat < 128) {c : Char}
    (hc : c ∈ name.map Char.toLower) : c.toNat < 128 := by
  obtain ⟨d, hd, rfl⟩ := List.mem_map.mp hc
  have hcode := h d hd
  rw [toNat_toLower]
  split_ifs <;> omega

/-- A name of ASCII is prepared by writing its letters in lower case. -/
theorem prepare?_of_ascii {name : List Char} (h : ∀ c ∈ name, c.toNat < 128) :
    prepare? name = some (name.map Char.toLower) := by
  have hmap : name.mapM mapChar? = some (name.map fun c => [c.toLower]) :=
    mapM_eq_some_map fun c hc => if_pos (h c hc)
  have hflat : (name.map fun c => [c.toLower]).flatten = name.map Char.toLower := by
    rw [← List.flatMap_def, ← List.map_eq_flatMap]
  unfold prepare?
  rw [hmap, Option.map_some, hflat, compose_of_ascii fun c => toNat_lt_of_mem_map_toLower h]

/-- A label of ASCII that does not start as an encoded label stands for itself. -/
theorem decoded?_of_ascii {label : Label} (h : ∀ c ∈ label, c.toNat < 128) (hplain : 'x' ∉ label) :
    decoded? label = some label := by
  have hmark : encodedMark.isPrefixOf label = false := by
    rw [Bool.eq_false_iff]
    intro hprefix
    obtain ⟨rest, rfl⟩ := List.isPrefixOf_iff_prefix.mp hprefix
    exact hplain (List.mem_append_left rest List.mem_cons_self)
  have hascii : label.all (·.toNat < 128) = true := by simpa [List.all_eq_true] using h
  unfold decoded?
  rw [hmark, hascii, Bool.true_or]
  rfl

/-- A name of ASCII that holds a colon is no domain name, if no label of it is encoded: the label
with the colon is refused. -/
theorem toLabels?_of_colon {name : List Char} (h : ∀ c ∈ name, c.toNat < 128)
    (hplain : 'x' ∉ name.map Char.toLower) (hcolon : ':' ∈ name) : toLabels? name = none := by
  have hlabels : ∀ label ∈ labels (name.map Char.toLower), decoded? label = some (id label) := by
    intro label hlabel
    have hascii : ∀ c ∈ label, c.toNat < 128 := fun c hc =>
      toNat_lt_of_mem_map_toLower h (mem_of_mem_splitOn hlabel hc)
    exact decoded?_of_ascii hascii fun hx => hplain (mem_of_mem_splitOn hlabel hx)
  have hdecoded := mapM_eq_some_map hlabels
  rw [List.map_id] at hdecoded
  have hkept : ':' ∈ name.map Char.toLower := List.mem_map.mpr ⟨':', hcolon, by decide⟩
  obtain hdot | ⟨label, hlabel, hmem⟩ := eq_or_exists_mem_splitOn (x := '.') hkept
  · cases hdot
  have hforbidden : label.any isForbidden = true := List.any_eq_true.mpr ⟨':', hmem, by decide⟩
  have hinvalid : isValidLabel label = false := by
    unfold isValidLabel
    rw [hforbidden, Bool.not_true, Bool.and_false]
  have hall : (labels (name.map Char.toLower)).all isValidLabel = false :=
    List.all_eq_false.mpr ⟨label, hlabel, by simp [hinvalid]⟩
  unfold toLabels?
  rw [prepare?_of_ascii h]
  simp only [hdecoded, hall, Bool.false_and, Bool.false_eq_true, if_false]

end Idna

end ProxyPolicy.Net
