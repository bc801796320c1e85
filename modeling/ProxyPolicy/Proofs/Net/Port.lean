import ProxyPolicy.Proofs.Net.Idempotence

/-!
# Names and their ports

The matching unit of an address does not depend on a port, but that of a name does: with a port
behind it, a name is taken for one whose last label ends in the port. No rule ends in such a label,
so that the suffix is that label alone, and the registrable domain is the last two labels of the
name with the port (`registrable?_hostPort`). So a port always changes the matching unit, and unless
the suffix of the name is a single label even the domain is another one (`canonicalBy_hostPort`).
-/

namespace ProxyPolicy.Net

open ProxyPolicy.Text

/-! ## Labels -/

/-- A text without a dot goes to the last label when it is put behind a name. -/
theorem labels_append {name rest : List Char} {front : List Label} {last : Label}
    (hlabels : labels name = front ++ [last]) (hrest : '.' ∉ rest) :
    labels (name ++ rest) = front ++ [last ++ rest] := by
  have hdots : ∀ l ∈ front ++ [last], '.' ∉ l := by
    rw [← hlabels]
    exact fun l hl => not_mem_of_mem_splitOn hl
  have hname : name ++ rest = ofLabels (front ++ [last ++ rest]) := by
    rw [← ofLabels_labels name, hlabels]
    by_cases hfront : front = []
    · simp [hfront, ofLabels]
    · rw [ofLabels_append hfront (List.cons_ne_nil _ _),
        ofLabels_append hfront (List.cons_ne_nil _ _)]
      simp [ofLabels]
  rw [hname]
  refine labels_ofLabels (fun l hl => ?_) (by simp)
  rcases List.mem_append.mp hl with hfront | hlast
  · exact hdots l (List.mem_append_left _ hfront)
  · rw [List.mem_singleton.mp hlast, List.mem_append]
    exact not_or.mpr ⟨hdots last (List.mem_append_right _ (List.mem_singleton.mpr rfl)), hrest⟩

/-- The last two labels of a name, as a name, if there are two and none before the last is empty. -/
def lastTwo? (name : List Char) : Option (List Char) :=
  match (labels name).reverse with
  | last :: second :: front =>
    if [] ∈ second :: front then none else some (ofLabels [second, last])
  | _ => none

/-! ## Rules -/

/-- Whether the last label that a rule writes is a name, which is no wildcard and holds no colon. -/
def SuffixRule.EndsInName (r : SuffixRule) : Prop :=
  ∃ l ∈ r.pattern.head?, l ≠ ['*'] ∧ ':' ∉ l

/-- A rule that ends in a name does not apply to a name whose last label holds a colon. -/
theorem SuffixRule.EndsInName.applies_eq_false {r : SuffixRule} (h : r.EndsInName) {last : Label}
    (hlast : ':' ∈ last) (front : List Label) : r.applies (last :: front) = false := by
  obtain ⟨l, hl, hwildcard, hcolon⟩ := h
  obtain ⟨ls, hpattern⟩ := List.head?_eq_some_iff.mp hl
  have hne : l ≠ last := fun heq => hcolon (heq ▸ hlast)
  simp [applies, hpattern, patternMatches, hwildcard, hne]

variable {rules : List SuffixRule}

/-- The suffix of a name whose last label holds a colon is that label. -/
theorem suffixLength_of_colon (hrules : ∀ r ∈ rules, r.EndsInName) {last : Label}
    (hlast : ':' ∈ last) (front : List Label) : suffixLength rules (last :: front) = 1 := by
  have hnone : rules.filter (·.applies (last :: front)) = [] := by
    rw [List.filter_eq_nil_iff]
    intro r hr
    rw [(hrules r hr).applies_eq_false hlast front]
    exact Bool.false_ne_true
  simp [suffixLength, hnone]

/-! ## Registrable domains -/

/-- The registrable domain of a name with a port is the last two labels of the name, with the
port. -/
theorem registrable?_hostPort (hrules : ∀ r ∈ rules, r.EndsInName) (host : List Char)
    {port : List Char} (hport : '.' ∉ port) :
    registrable? rules (host ++ ':' :: port) = (lastTwo? host).map (· ++ ':' :: port) := by
  -- The port belongs to the last label, which is then that of no rule: the suffix is this label.
  have hrest : '.' ∉ ':' :: port := List.not_mem_cons_of_ne_of_not_mem (by decide) hport
  obtain ⟨front, last, hlabels⟩ : ∃ front last, labels host = front ++ [last] :=
    (List.eq_nil_or_concat' _).resolve_left (List.splitOn_ne_nil '.' host)
  have hcolon : ':' ∈ last ++ ':' :: port := List.mem_append_right _ List.mem_cons_self
  have hany (ls : List Label) :
      (ls ++ [last ++ ':' :: port]).any (· == []) = true ↔ [] ∈ ls := by simp
  unfold registrable? lastTwo?
  rw [labels_append hlabels hrest, hlabels]
  simp only [hany, List.reverse_append, List.reverse_singleton, List.singleton_append,
    suffixLength_of_colon hrules hcolon]
  rcases List.eq_nil_or_concat' front with rfl | ⟨front, second, rfl⟩
  · simp
  · have hmem : [] ∈ second :: front.reverse ↔ [] ∈ front ++ [second] := by simp [or_comm]
    simp only [List.reverse_append, List.reverse_singleton, List.singleton_append, hmem]
    by_cases hempty : [] ∈ front ++ [second]
    · rw [if_pos hempty, if_pos hempty, Option.map_none]
    · have hlast : (front ++ [second] ++ [last ++ ':' :: port]).drop front.length =
          [second, last ++ ':' :: port] := by simp
      have hname : ofLabels [second, last ++ ':' :: port] =
          ofLabels [second, last] ++ ':' :: port := by
        simp [ofLabels]
      rw [if_neg hempty, if_neg hempty, Option.map_some, ← hname, ← hlast]
      simp

/-- A text led by a dot has an empty label before its last. -/
theorem lastTwo?_of_dot (cs : List Char) : lastTwo? ('.' :: cs) = none := by
  have hlabels : labels ('.' :: cs) = [] :: labels cs :=
    List.splitOn_append_cons_self_of_not_mem List.not_mem_nil cs
  obtain ⟨front, last, hcs⟩ : ∃ front last, labels cs = front ++ [last] :=
    (List.eq_nil_or_concat' _).resolve_left (List.splitOn_ne_nil '.' cs)
  unfold lastTwo?
  rw [hlabels, hcs]
  rcases List.eq_nil_or_concat' front with rfl | ⟨front, second, rfl⟩ <;> simp

/-! ## Matching units -/

/-- What stands for a text: a name that it has been reduced to, behind a dot, or else the text
itself. -/
def marked (text : List Char) (reduced : Option (List Char)) : List Char :=
  reduced.elim text ('.' :: ·)

/-- What stands for a text tells which name it has been reduced to, if there is none for a text led
by a dot. -/
theorem marked_inj {text : List Char} {reduced reduced' : Option (List Char)}
    (h : ∀ cs, text = '.' :: cs → reduced = none ∧ reduced' = none) :
    marked text reduced = marked text reduced' ↔ reduced = reduced' := by
  refine ⟨fun heq => ?_, congrArg _⟩
  unfold marked at heq
  match reduced, reduced' with
  | none, none => rfl
  | some name, some name' => rw [(List.cons.inj heq).2]
  | none, some name => cases (h name heq).2
  | some name, none => cases (h name heq.symm).1

/-- A text without delimiters is split nowhere, so that it writes no address unless it is one. -/
theorem addressOf?_of_undelimited {host : List Char} (hname : isAddress host = false)
    (hhost : Undelimited host) : addressOf? host = none := by
  have hhead : host.head? ≠ some '[' := fun h => hhost.2.1 (List.mem_of_mem_head? h)
  simp [addressOf?, hname, splitHostPort?_of_not_mem hhead hhost.1]

/-- A name with a port writes no address: it is none, and what it is split into is none. -/
theorem addressOf?_hostPort {host port : List Char} (hname : isAddress host = false)
    (hhost : Undelimited host) (hport : Undelimited port) :
    addressOf? (host ++ ':' :: port) = none := by
  have hsplit : splitHostPort? (host ++ ':' :: port) = some (host, port) :=
    (IsHostPort.plain hhost hport).splitHostPort?
  have hfour : isIPv4 (host ++ ':' :: port) = false := by
    rw [Bool.eq_false_iff]
    exact fun h => colon_not_mem_of_isIPv4 h (List.mem_append_right _ List.mem_cons_self)
  have hsix : isIPv6 (host ++ ':' :: port) = false := isIPv6_of_one_colon hhost.1 hport.1
  have hwhole : isAddress (host ++ ':' :: port) = false := by rw [isAddress, hfour, hsix]; rfl
  simp [addressOf?, hwhole, hsplit, hname]

/-- The matching unit of a text that writes no address. -/
theorem canonicalBy_eq_marked {host : List Char} (haddress : addressOf? host = none) :
    canonicalBy rules host = marked host (registrable? rules host) := by
  unfold canonicalBy marked
  rw [haddress]
  cases registrable? rules host <;> rfl

/-- What is in the matching unit of a name is in the name, or is the dot that marks a domain. -/
theorem mem_of_mem_marked {host : List Char} {c : Char}
    (hc : c ∈ marked host (registrable? rules host)) : c = '.' ∨ c ∈ host := by
  cases hdomain : registrable? rules host with
  | none =>
    rw [hdomain] at hc
    exact .inr hc
  | some domain =>
    rw [hdomain] at hc
    have hsuffix := (isWithin_iff.mpr (registrable?_eq_some_iff.mp hdomain).2.1).suffix
    exact (List.mem_cons.mp hc).imp_right (hsuffix.mem ·)

/-- A port with decimal digits holds no delimiter and no dot. -/
theorem undelimited_of_isDigit {port : List Char} (h : port.all Char.isDigit = true) :
    Undelimited port ∧ '.' ∉ port := by
  have hno {c : Char} (hc : c.isDigit = false) : c ∉ port := by
    intro hmem
    rw [List.all_eq_true.mp h c hmem] at hc
    cases hc
  exact ⟨⟨hno rfl, hno rfl, hno rfl⟩, hno rfl⟩

/-- A port behind a name changes its matching unit, although it is split off where an address is
looked for. By any rules that end in names, the unit of the name with the port is that of the name
as if its suffix were its last label, with the port behind it. It is never the unit of the name
itself; and it is this unit with the port behind it exactly if the registrable domain of the name is
its last two labels. -/
theorem canonicalBy_hostPort (hrules : ∀ r ∈ rules, r.EndsInName) {host port : List Char}
    (hname : isAddress host = false) (hhost : Undelimited host)
    (hport : port.all Char.isDigit = true) :
    splitHostPort? (host ++ ':' :: port) = some (host, port) ∧
    canonicalBy rules (host ++ ':' :: port) = marked host (lastTwo? host) ++ ':' :: port ∧
    canonicalBy rules (host ++ ':' :: port) ≠ canonicalBy rules host ∧
    (canonicalBy rules (host ++ ':' :: port) = canonicalBy rules host ++ ':' :: port ↔
      registrable? rules host = lastTwo? host) := by
  obtain ⟨hdigits, hdot⟩ := undelimited_of_isDigit hport
  have hunit : canonicalBy rules host = marked host (registrable? rules host) :=
    canonicalBy_eq_marked (addressOf?_of_undelimited hname hhost)
  have hunit' : canonicalBy rules (host ++ ':' :: port) =
      marked host (lastTwo? host) ++ ':' :: port := by
    rw [canonicalBy_eq_marked (addressOf?_hostPort hname hhost hdigits),
      registrable?_hostPort hrules host hdot]
    cases lastTwo? host <;> rfl
  refine ⟨(IsHostPort.plain hhost hdigits).splitHostPort?, hunit', ?_, ?_⟩
  · -- There is a colon in the one and none in the other.
    rw [hunit', hunit]
    intro heq
    have hcolon : ':' ∈ marked host (lastTwo? host) ++ ':' :: port :=
      List.mem_append_right _ List.mem_cons_self
    rw [heq] at hcolon
    rcases mem_of_mem_marked hcolon with hdot | hmem
    · cases hdot
    · exact hhost.1 hmem
  · rw [hunit', hunit, List.append_left_inj, marked_inj]
    · exact eq_comm
    · rintro cs rfl
      exact ⟨lastTwo?_of_dot cs, registrable?_of_dot rules cs⟩

/-- The unit of a name below a suffix of one label gets the port behind it. -/
theorem canonicalBy_hostPort_com :
    let host := "www.example.com".toList
    let port := "8080".toList
    (∀ r ∈ suffixRules, r.EndsInName) ∧ isAddress host = false ∧ Undelimited host ∧
      port.all Char.isDigit = true ∧ splitHostPort? (host ++ ':' :: port) = some (host, port) ∧
      canonicalBy suffixRules (host ++ ':' :: port) = ".example.com:8080".toList ∧
      canonicalBy suffixRules (host ++ ':' :: port) ≠ canonicalBy suffixRules host ∧
      canonicalBy suffixRules (host ++ ':' :: port) =
        canonicalBy suffixRules host ++ ':' :: port := by
  intro host port
  have hrules : ∀ r ∈ suffixRules, r.EndsInName := by
    unfold SuffixRule.EndsInName
    decide +kernel
  have hname : isAddress host = false := by decide +kernel
  have hhost : Undelimited host := ⟨by decide, by decide, by decide⟩
  have hport : port.all Char.isDigit = true := by decide
  obtain ⟨hsplit, hunit, hne, hiff⟩ := canonicalBy_hostPort hrules hname hhost hport
  have hlast : marked host (lastTwo? host) = ".example.com".toList := by decide +kernel
  rw [hlast] at hunit
  exact ⟨hrules, hname, hhost, hport, hsplit, hunit, hne, hiff.mpr (by decide +kernel)⟩

/-- Below a suffix of two labels a port makes a name be reduced to the suffix with the port. -/
theorem port_kept_in_domain :
    let host := "www.example.co.uk"
    let port := "443"
    isAddress host.toList = false ∧ Undelimited host.toList ∧
      port.toList.all Char.isDigit = true ∧ port ≠ "" ∧
      canonicalize suffixRules host = ".example.co.uk" ∧
      canonicalize suffixRules (host ++ ":" ++ port) = ".co.uk:443" ∧
      canonicalize suffixRules (host ++ ":" ++ port) ≠ canonicalize suffixRules host := by
  intro host port
  have hunit : canonicalize suffixRules host = ".example.co.uk" := by decide +kernel
  have hunit' : canonicalize suffixRules (host ++ ":" ++ port) = ".co.uk:443" := by decide +kernel
  refine ⟨by decide +kernel, ⟨by decide, by decide, by decide⟩, by decide, by decide, hunit, hunit',
    ?_⟩
  rw [hunit, hunit']
  decide

end ProxyPolicy.Net
