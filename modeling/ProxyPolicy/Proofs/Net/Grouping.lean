import Mathlib.Data.List.Infix
import ProxyPolicy.Net.Canonical
import ProxyPolicy.Net.SuffixRules
import ProxyPolicy.Proofs.Text.Parts

/-!
# Grouping by registrable domain

A host that is reduced to its registrable domain shares the domain with all hosts between the two:
dropping leading labels leaves the matching unit as it is (`canonicalBy_grouping`). This holds for
any list of rules, since the suffix of a name depends on the last labels alone, as many as the
suffix has (`suffixLength_of_isPrefix`): a rule that is no longer than the suffix applies to the
shorter name exactly if it applies to the longer one, and no longer rule applied.

A host in between may be read as an address, and so may the domain itself, as that of
`a.[::1]:80.com` is; addresses are looked for before any domain (`domain_read_as_address`).
-/

namespace ProxyPolicy.Net

/-! ## Labels -/

/-- The name that labels without dots make has these labels. -/
theorem labels_ofLabels {ls : List Label} (hdots : ∀ l ∈ ls, '.' ∉ l) (hne : ls ≠ []) :
    labels (ofLabels ls) = ls :=
  List.splitOn_intercalate '.' hdots hne

/-- A name is made of its labels. -/
theorem ofLabels_labels (name : List Char) : ofLabels (labels name) = name :=
  List.intercalate_splitOn '.'

/-- Names are joined by a dot. -/
theorem ofLabels_append {as bs : List Label} (has : as ≠ []) (hbs : bs ≠ []) :
    ofLabels (as ++ bs) = ofLabels as ++ '.' :: ofLabels bs := by
  induction as with
  | nil => exact absurd rfl has
  | cons a as ih =>
    unfold ofLabels at ih ⊢
    rw [List.cons_append,
      List.intercalate_cons_of_ne_nil (List.append_ne_nil_of_right_ne_nil as hbs)]
    by_cases hnil : as = []
    · simp [hnil]
    · rw [ih hnil, List.intercalate_cons_of_ne_nil hnil]
      simp

/-- Whether a name is a domain or ends in the domain behind a dot. -/
def IsWithin (name domain : List Char) : Prop :=
  name = domain ∨ ∃ front, name = front ++ '.' :: domain

/-- A name is within a domain exactly when its labels end in those of the domain. -/
theorem isWithin_iff {name domain : List Char} :
    IsWithin name domain ↔ labels domain <:+ labels name := by
  constructor
  · rintro (rfl | ⟨front, rfl⟩)
    · exact List.suffix_rfl
    · exact ⟨labels front, (List.splitOn_append_cons_self front domain).symm⟩
  · rintro ⟨front, h⟩
    by_cases hnil : front = []
    · left
      rw [← ofLabels_labels name, ← h, hnil, List.nil_append, ofLabels_labels]
    · right
      refine ⟨ofLabels front, ?_⟩
      have hdomain : labels domain ≠ [] := List.splitOn_ne_nil '.' domain
      rw [← ofLabels_labels name, ← h, ofLabels_append hnil hdomain, ofLabels_labels]

/-- A name within a domain ends in the domain. -/
theorem IsWithin.suffix {name domain : List Char} (h : IsWithin name domain) : domain <:+ name := by
  obtain rfl | ⟨front, rfl⟩ := h
  · exact List.suffix_rfl
  · exact ⟨front ++ ['.'], by simp⟩

/-- What a name within a domain ends in is within the domain too, if it ends in the domain: the dot
before the domain is the same. -/
theorem IsWithin.of_suffix {name middle domain : List Char} (h : IsWithin name domain)
    (hmiddle : middle <:+ name) (hdomain : domain <:+ middle) : IsWithin middle domain := by
  obtain ⟨front, rfl⟩ := hdomain
  rcases List.eq_nil_or_concat' front with rfl | ⟨front, c, rfl⟩
  · exact .inl rfl
  · have hc : c :: domain <:+ name := by
      refine List.IsSuffix.trans ⟨front, ?_⟩ hmiddle
      simp
    obtain rfl | ⟨front', rfl⟩ := h
    · exact absurd hc.length_le (by simp)
    · have hdot : '.' :: domain <:+ front' ++ '.' :: domain := List.suffix_append front' _
      have heq := (List.suffix_of_suffix_length_le hc hdot le_rfl).eq_of_length rfl
      obtain rfl : c = '.' := (List.cons.inj heq).1
      exact .inr ⟨front, by simp⟩

/-! ## Rules -/

namespace SuffixRule

/-- Whether a pattern matches the last labels of a name depends on the name alone, if the labels are
enough; names are given from the last label. -/
theorem patternMatches_prefix_iff {ps ls ls' : List Label} (h : ls' <+: ls) :
    patternMatches ps ls' = true ↔ ps.length ≤ ls'.length ∧ patternMatches ps ls = true := by
  induction ps generalizing ls ls' with
  | nil => simp [patternMatches]
  | cons p ps ih =>
    cases ls' with
    | nil => simp [patternMatches]
    | cons l ls' =>
      obtain ⟨rest, rfl⟩ := h
      have htail := ih (List.prefix_append ls' rest)
      simp only [List.cons_append, patternMatches, Bool.and_eq_true, htail, List.length_cons,
        Nat.add_le_add_iff_right]
      exact and_left_comm

end SuffixRule

/-- The rules that apply to the last labels of a name are those that apply to the name and are no
longer. -/
theorem filter_applies_of_isPrefix (rules : List SuffixRule) {ls ls' : List Label}
    (h : ls' <+: ls) :
    rules.filter (·.applies ls') =
      (rules.filter (·.applies ls)).filter (·.pattern.length ≤ ls'.length) := by
  rw [List.filter_filter]
  apply List.filter_congr
  intro r _
  rw [Bool.eq_iff_iff, Bool.and_eq_true, decide_eq_true_eq]
  exact SuffixRule.patternMatches_prefix_iff h

/-- The first element of a kind is the first among some of the elements if it is one of them. -/
theorem find?_filter_of_find? {α : Type} {p q : α → Bool} {xs : List α} {x : α}
    (h : xs.find? p = some x) (hx : q x = true) : (xs.filter q).find? p = some x := by
  obtain ⟨hp, before, after, rfl, hbefore⟩ := List.find?_eq_some_iff_append.mp h
  rw [List.find?_eq_some_iff_append]
  refine ⟨hp, before.filter q, after.filter q, ?_, ?_⟩
  · rw [List.filter_append, List.filter_cons_of_pos hx]
  · exact fun y hy => hbefore y (List.mem_of_mem_filter hy)

/-- A rule that applies is no longer than the suffix, unless there is an exception. -/
theorem length_le_foldl_max {rules : List SuffixRule} {r : SuffixRule} (h : r ∈ rules) :
    r.pattern.length ≤ (rules.map (·.pattern.length)).foldl max 1 := by
  rw [List.foldl_max]
  cases hmax : (rules.map (·.pattern.length)).max? with
  | none =>
    rw [List.max?_eq_none_iff, List.map_eq_nil_iff] at hmax
    simp [hmax] at h
  | some m =>
    obtain ⟨-, hle⟩ := List.max?_eq_some_iff.mp hmax
    exact (hle _ (List.mem_map_of_mem h)).trans (le_max_right 1 m)

/-- The suffix of a name is also the suffix of its last labels, if these are more than the suffix
has; names are given from the last label. -/
theorem suffixLength_of_isPrefix {rules : List SuffixRule} {ls ls' : List Label} (h : ls' <+: ls)
    (hlength : suffixLength rules ls < ls'.length) :
    suffixLength rules ls' = suffixLength rules ls := by
  unfold suffixLength at hlength ⊢
  dsimp only at hlength ⊢
  rw [filter_applies_of_isPrefix rules h]
  generalize rules.filter (·.applies ls) = matching at hlength ⊢
  cases hexempt : matching.find? (·.exempt) with
  | some r =>
    rw [hexempt] at hlength
    dsimp only at hlength
    have hr : decide (r.pattern.length ≤ ls'.length) = true := by
      rw [decide_eq_true_eq]
      omega
    rw [find?_filter_of_find? hexempt hr]
  | none =>
    rw [hexempt] at hlength
    have hall : matching.filter (·.pattern.length ≤ ls'.length) = matching := by
      refine List.filter_eq_self.mpr fun r hr => ?_
      rw [decide_eq_true_eq]
      exact (length_le_foldl_max hr).trans hlength.le
    rw [hall, hexempt]

/-! ## Registrable domains -/

/-- The registrable domain of a name without empty labels has the last labels of the name, one more
than the suffix. -/
theorem registrable?_eq_some_iff {rules : List SuffixRule} {name domain : List Char} :
    registrable? rules name = some domain ↔
      [] ∉ labels name ∧ labels domain <:+ labels name ∧
        (labels domain).length = suffixLength rules (labels name).reverse + 1 := by
  have hdots (k : Nat) : ∀ l ∈ (labels name).drop k, '.' ∉ l :=
    fun l hl => Text.not_mem_of_mem_splitOn (List.mem_of_mem_drop hl)
  unfold registrable?
  dsimp only
  generalize suffixLength rules (labels name).reverse = n
  have hany : (labels name).any (· == []) = true ↔ [] ∈ labels name := by
    simp [List.any_eq_true]
  simp only [hany]
  constructor
  · intro h
    split_ifs at h with hempty hn
    have hlength : ((labels name).drop ((labels name).length - (n + 1))).length = n + 1 := by
      rw [List.length_drop]
      omega
    have hlabels : labels domain = (labels name).drop ((labels name).length - (n + 1)) := by
      rw [← Option.some.inj h]
      exact labels_ofLabels (hdots _) (List.ne_nil_of_length_pos (by omega))
    rw [hlabels]
    exact ⟨hempty, List.drop_suffix _ _, hlength⟩
  · rintro ⟨hempty, hsuffix, hlength⟩
    have hn : n < (labels name).length := by
      have hle := hsuffix.length_le
      omega
    rw [if_neg hempty, if_pos hn, ← hlength, ← List.suffix_iff_eq_drop.mp hsuffix, ofLabels_labels]

/-- Names between a name and its registrable domain have the same registrable domain. -/
theorem registrable?_of_isWithin {rules : List SuffixRule} {name middle domain : List Char}
    (h : registrable? rules name = some domain) (hname : IsWithin name middle)
    (hmiddle : IsWithin middle domain) : registrable? rules middle = some domain := by
  obtain ⟨hempty, -, hlength⟩ := registrable?_eq_some_iff.mp h
  have hsuffix := isWithin_iff.mp hname
  have hdomain := isWithin_iff.mp hmiddle
  have hprefix : (labels middle).reverse <+: (labels name).reverse :=
    List.reverse_prefix.mpr hsuffix
  have hmore : suffixLength rules (labels name).reverse < (labels middle).reverse.length := by
    rw [List.length_reverse]
    have hle := hdomain.length_le
    omega
  refine registrable?_eq_some_iff.mpr ⟨fun hmem => hempty (hsuffix.mem hmem), hdomain, ?_⟩
  rw [suffixLength_of_isPrefix hprefix hmore, hlength]

/-! ## Matching units -/

/-- A host that is no address and has a registrable domain is reduced to it. -/
theorem canonicalBy_of_registrable? {rules : List SuffixRule} {host domain : List Char}
    (haddress : addressOf? host = none) (h : registrable? rules host = some domain) :
    canonicalBy rules host = '.' :: domain := by
  simp only [canonicalBy, haddress, h]

/-- A host that is no address, with or without a port, and is reduced to its registrable domain is
the domain or ends in it behind a dot, so that no label is cut. All that is left of the host when
leading labels are dropped is reduced to the same domain while it ends in the domain, unless it is
read as an address; so the domain is reduced to itself unless it is read as an address. -/
theorem canonicalBy_grouping {rules : List SuffixRule} {host domain : List Char}
    (haddress : addressOf? host = none) (hdomain : registrable? rules host = some domain) :
    canonicalBy rules host = '.' :: domain ∧ IsWithin host domain ∧
      (∀ rest, IsWithin host rest → domain <:+ rest → addressOf? rest = none →
        canonicalBy rules rest = '.' :: domain) ∧
      (addressOf? domain = none → canonicalBy rules domain = '.' :: domain) := by
  have hwithin : IsWithin host domain :=
    isWithin_iff.mpr (registrable?_eq_some_iff.mp hdomain).2.1
  refine ⟨canonicalBy_of_registrable? haddress hdomain, hwithin, ?_, ?_⟩
  · intro rest hrest hends hname
    exact canonicalBy_of_registrable? hname
      (registrable?_of_isWithin hdomain hrest (hwithin.of_suffix hrest.suffix hends))
  · intro hname
    exact canonicalBy_of_registrable? hname
      (registrable?_of_isWithin hdomain hwithin (.inl rfl))

/-- Below an exception to a wildcard, a host and what is left of it without its first label are
reduced to the domain of the exception, and the domain to itself. -/
theorem canonicalBy_grouping_exception :
    let host := "a.b.www.ck".toList
    let domain := "www.ck".toList
    addressOf? host = none ∧ registrable? suffixRules host = some domain ∧
      canonicalBy suffixRules host = '.' :: domain ∧
      canonicalBy suffixRules "b.www.ck".toList = '.' :: domain ∧
      canonicalBy suffixRules domain = '.' :: domain := by
  intro host domain
  have haddress : addressOf? host = none := by decide +kernel
  have hdomain : registrable? suffixRules host = some domain := by decide +kernel
  obtain ⟨hhost, -, hrest, hself⟩ := canonicalBy_grouping haddress hdomain
  have hbetween : IsWithin host "b.www.ck".toList := .inr ⟨"a".toList, by decide⟩
  exact ⟨haddress, hdomain, hhost,
    hrest _ hbetween ⟨"b.".toList, by decide⟩ (by decide +kernel), hself (by decide +kernel)⟩

/-- A host that is no address can be reduced to a domain that is read as an address with a port, so
that the domain is not reduced to itself. -/
theorem domain_read_as_address :
    let host := "a.[::1]:80.com".toList
    let domain := "[::1]:80.com".toList
    addressOf? host = none ∧ registrable? suffixRules host = some domain ∧
      canonicalBy suffixRules host = '.' :: domain ∧
      canonicalBy suffixRules domain = "::1".toList ∧
      canonicalBy suffixRules domain ≠ '.' :: domain := by
  decide +kernel

end ProxyPolicy.Net
