import ProxyPolicy.Net.HostPort
import ProxyPolicy.Proofs.Net.Literal

/-!
# Host and port

A text is split into a host and a port exactly when it is one of the two forms `host:port` and
`[host]:port` (`IsHostPort`). In the first neither part holds a colon or a bracket; in the second
the host may hold anything but the bracket that ends it. Every other text has one of six faults
(`Unsplittable`), and for each of them the split gives nothing.

With these two relations the split is known on every text (`splitHostPort?_exact`): the parts are
unique, put together they are the text, and an IPv6 literal without brackets is never split, since
it holds no less than two colons (`one_lt_count_of_isIPv6`).
-/

namespace ProxyPolicy.Net

open ProxyPolicy.Text

/-! ## Forms -/

/-- Whether a text holds no colon and no bracket. -/
def Undelimited (cs : List Char) : Prop := ':' ∉ cs ∧ '[' ∉ cs ∧ ']' ∉ cs

/-- Whether a text writes a host with a port. -/
inductive IsHostPort (host port : List Char) : List Char → Prop where
  /-- The two parts with a colon between them. -/
  | plain (hhost : Undelimited host) (hport : Undelimited port) :
    IsHostPort host port (host ++ ':' :: port)
  /-- The host between brackets. It may hold colons and opening brackets. -/
  | bracketed (hhost : ']' ∉ host) (hport : Undelimited port) :
    IsHostPort host port ('[' :: (host ++ ']' :: ':' :: port))

/-- Whether a text has a fault for which it writes no host with a port. -/
inductive Unsplittable : List Char → Prop where
  /-- No bracket closes the one that the text starts with. -/
  | unclosed {rest : List Char} (hclosing : ']' ∉ rest) : Unsplittable ('[' :: rest)
  /-- The host between brackets is not followed by a colon. -/
  | noPort {host after : List Char} (hhost : ']' ∉ host) (hafter : after.head? ≠ some ':') :
    Unsplittable ('[' :: (host ++ ']' :: after))
  /-- After the host between brackets, the port holds a delimiter. -/
  | badPort {host port : List Char} (hhost : ']' ∉ host) (hport : ¬Undelimited port) :
    Unsplittable ('[' :: (host ++ ']' :: ':' :: port))
  /-- There is no bracket at the start, and no colon. -/
  | noColon {cs : List Char} (hhead : cs.head? ≠ some '[') (hcolon : ':' ∉ cs) : Unsplittable cs
  /-- There is no bracket at the start, and more than one colon. -/
  | manyColons {cs : List Char} (hhead : cs.head? ≠ some '[') (hcolons : 1 < cs.count ':') :
    Unsplittable cs
  /-- There is no bracket at the start, but one further on. -/
  | bracket {cs : List Char} (hhead : cs.head? ≠ some '[') (hbracket : '[' ∈ cs ∨ ']' ∈ cs) :
    Unsplittable cs

/-- The search for a delimiter finds none exactly in a text without a colon and without a
bracket. -/
theorem any_isHostDelimiter_eq_false_iff {cs : List Char} :
    cs.any isHostDelimiter = false ↔ Undelimited cs := by
  unfold Undelimited
  rw [List.any_eq_false]
  simp only [isHostDelimiter, Bool.or_eq_true, beq_iff_eq, not_or]
  constructor
  · intro h
    exact ⟨fun hc => (h _ hc).1.1 rfl, fun hc => (h _ hc).1.2 rfl, fun hc => (h _ hc).2 rfl⟩
  · rintro ⟨hcolon, hopening, hclosing⟩ c hc
    exact ⟨⟨fun heq => hcolon (heq ▸ hc), fun heq => hopening (heq ▸ hc)⟩,
      fun heq => hclosing (heq ▸ hc)⟩

/-- The search for a delimiter finds one exactly in the other texts. -/
theorem any_isHostDelimiter_eq_true_iff {cs : List Char} :
    cs.any isHostDelimiter = true ↔ ¬Undelimited cs := by
  rw [← any_isHostDelimiter_eq_false_iff, Bool.not_eq_false]

/-! ## The split -/

/-- A text without an opening bracket at its start is split at its first colon. -/
theorem splitHostPort?_of_head {cs : List Char} (h : cs.head? ≠ some '[') :
    splitHostPort? cs =
      match cs.dropWhile (· != ':') with
      | _ :: port =>
        if (cs.takeWhile (· != ':')).any isHostDelimiter || port.any isHostDelimiter then none
        else some (cs.takeWhile (· != ':'), port)
      | [] => none := by
  unfold splitHostPort?
  split
  · exact absurd rfl h
  · rfl

/-- A text that writes a host with a port is split into the two. -/
theorem IsHostPort.splitHostPort? {host port input : List Char} (h : IsHostPort host port input) :
    splitHostPort? input = some (host, port) := by
  cases h with
  | plain hhost hport =>
    have hhead : (host ++ ':' :: port).head? ≠ some '[' := by
      intro hstart
      cases host with
      | nil => cases hstart
      | cons c cs => exact hhost.2.1 (List.mem_of_mem_head? hstart)
    rw [splitHostPort?_of_head hhead]
    simp only [dropWhile_bne_append hhost.1, takeWhile_bne_append hhost.1,
      any_isHostDelimiter_eq_false_iff.mpr hhost, any_isHostDelimiter_eq_false_iff.mpr hport]
    rfl
  | bracketed hhost hport =>
    unfold Net.splitHostPort?
    simp only [dropWhile_bne_append hhost, takeWhile_bne_append hhost,
      any_isHostDelimiter_eq_false_iff.mpr hport]
    rfl

/-- A text without a bracket at its start is not split if it holds no colon. -/
theorem splitHostPort?_of_not_mem {cs : List Char} (hhead : cs.head? ≠ some '[')
    (hcolon : ':' ∉ cs) : splitHostPort? cs = none := by
  rw [splitHostPort?_of_head hhead]
  simp only [dropWhile_bne_of_not_mem hcolon]

/-- A text without a bracket at its start is not split at its first colon if one of the parts holds
a delimiter. -/
theorem splitHostPort?_of_delimiter {host port : List Char}
    (hhead : (host ++ ':' :: port).head? ≠ some '[') (hhost : ':' ∉ host)
    (h : ¬Undelimited host ∨ ¬Undelimited port) :
    splitHostPort? (host ++ ':' :: port) = none := by
  have hany : (host.any isHostDelimiter || port.any isHostDelimiter) = true := by
    rw [Bool.or_eq_true]
    exact h.imp any_isHostDelimiter_eq_true_iff.mpr any_isHostDelimiter_eq_true_iff.mpr
  rw [splitHostPort?_of_head hhead]
  simp only [dropWhile_bne_append hhost, takeWhile_bne_append hhost, hany, if_true]

/-- A text with a fault is not split. -/
theorem Unsplittable.splitHostPort? {input : List Char} (h : Unsplittable input) :
    splitHostPort? input = none := by
  cases h with
  | unclosed hclosing =>
    unfold Net.splitHostPort?
    simp only [dropWhile_bne_of_not_mem hclosing]
  | noPort hhost hafter =>
    unfold Net.splitHostPort?
    simp only [dropWhile_bne_append hhost]
    split
    · rename_i heq
      obtain ⟨-, rfl⟩ := List.cons.inj heq
      exact absurd rfl hafter
    · rfl
  | badPort hhost hport =>
    unfold Net.splitHostPort?
    simp only [dropWhile_bne_append hhost, any_isHostDelimiter_eq_true_iff.mpr hport, if_true]
  | noColon hhead hcolon => exact splitHostPort?_of_not_mem hhead hcolon
  | manyColons hhead hcolons =>
    -- The text is parted at its first colon, so that the others are in the port.
    obtain ⟨host, port, rfl, hhost⟩ :=
      List.eq_append_cons_of_mem (List.count_pos_iff.mp (Nat.zero_lt_of_lt hcolons))
    rw [List.count_append, List.count_cons_self, List.count_eq_zero.mpr hhost] at hcolons
    refine splitHostPort?_of_delimiter hhead hhost (.inr fun hport => ?_)
    rw [List.count_eq_zero.mpr hport.1] at hcolons
    omega
  | bracket hhead hbracket =>
    by_cases hcolon : ':' ∈ input
    · obtain ⟨host, port, rfl, hhost⟩ := List.eq_append_cons_of_mem hcolon
      refine splitHostPort?_of_delimiter hhead hhost ?_
      rw [← not_and_or]
      rintro ⟨⟨-, hopening, hclosing⟩, -, hopening', hclosing'⟩
      simp [hopening, hclosing, hopening', hclosing'] at hbracket
    · exact splitHostPort?_of_not_mem hhead hcolon

/-- A text writes a host with a port or has a fault. -/
theorem isHostPort_or_unsplittable (input : List Char) :
    (∃ host port, IsHostPort host port input) ∨ Unsplittable input := by
  -- The first character decides whether a closing bracket or a colon is looked for.
  by_cases hhead : input.head? = some '['
  · obtain ⟨rest, rfl⟩ := List.head?_eq_some_iff.mp hhead
    by_cases hclosing : ']' ∈ rest
    · obtain ⟨host, after, rfl, hhost⟩ := List.eq_append_cons_of_mem hclosing
      rcases after with _ | ⟨c, port⟩
      · exact .inr (.noPort hhost (by simp))
      by_cases hc : c = ':'
      · subst hc
        by_cases hport : Undelimited port
        · exact .inl ⟨host, port, .bracketed hhost hport⟩
        · exact .inr (.badPort hhost hport)
      · exact .inr (.noPort hhost (by simpa using hc))
    · exact .inr (.unclosed hclosing)
  · by_cases hcolon : ':' ∈ input
    · by_cases hbracket : '[' ∈ input ∨ ']' ∈ input
      · exact .inr (.bracket hhead hbracket)
      obtain ⟨host, port, rfl, hhost⟩ := List.eq_append_cons_of_mem hcolon
      by_cases hport : ':' ∈ port
      · refine .inr (.manyColons hhead ?_)
        have hmore := List.count_pos_iff.mpr hport
        rw [List.count_append, List.count_cons_self]
        omega
      · simp only [List.mem_append, List.mem_cons, not_or] at hbracket
        obtain ⟨⟨hopening, -, hopening'⟩, hclosing, -, hclosing'⟩ := hbracket
        exact .inl ⟨host, port, .plain ⟨hhost, hopening, hclosing⟩ ⟨hport, hopening', hclosing'⟩⟩
    · exact .inr (.noColon hhead hcolon)

/-- A text is split into two parts exactly when it writes them as a host and a port. -/
theorem splitHostPort?_eq_some_iff {input host port : List Char} :
    splitHostPort? input = some (host, port) ↔ IsHostPort host port input := by
  refine ⟨fun hsplit => ?_, IsHostPort.splitHostPort?⟩
  rcases isHostPort_or_unsplittable input with ⟨host', port', h⟩ | h
  · obtain ⟨rfl, rfl⟩ := Prod.mk.inj (Option.some.inj (hsplit.symm.trans h.splitHostPort?))
    exact h
  · cases hsplit.symm.trans h.splitHostPort?

/-- A text is not split exactly when it has a fault. -/
theorem splitHostPort?_eq_none_iff {input : List Char} :
    splitHostPort? input = none ↔ Unsplittable input := by
  refine ⟨fun hsplit => ?_, Unsplittable.splitHostPort?⟩
  refine (isHostPort_or_unsplittable input).resolve_left ?_
  rintro ⟨host, port, h⟩
  cases hsplit.symm.trans h.splitHostPort?

/-! ## Addresses -/

/-- An IPv6 literal holds at least two colons: one colon would part it into two, which write three
groups at most. -/
theorem one_lt_count_of_isIPv6 {s : List Char} (h : isIPv6 s = true) : 1 < s.count ':' := by
  obtain ⟨xs, ys, rfl, hxs⟩ := List.eq_append_cons_of_mem (colon_mem_of_isIPv6 h)
  rw [List.count_append, List.count_cons_self]
  by_contra hcount
  have hys : ':' ∉ ys := fun hmem => hcount (by have := List.count_pos_iff.mpr hmem; omega)
  rw [isIPv6_of_one_colon hxs hys] at h
  cases h

/-- The split of a host from a port accepts two forms, on every text. It gives two parts exactly
when the text is one of the two forms with these parts, which can be put together to the text; no
text has these forms in two ways. It gives nothing exactly when the text has one of the faults; an
IPv6 literal without brackets is such a text. -/
theorem splitHostPort?_exact (input : List Char) :
    (∀ host port, splitHostPort? input = some (host, port) ↔ IsHostPort host port input) ∧
    (∀ host port host' port', IsHostPort host port input → IsHostPort host' port' input →
      host = host' ∧ port = port') ∧
    (splitHostPort? input = none ↔ Unsplittable input) ∧
    (isIPv6 input = true → splitHostPort? input = none) := by
  refine ⟨fun _ _ => splitHostPort?_eq_some_iff, ?_, splitHostPort?_eq_none_iff, fun h6 => ?_⟩
  · intro host port host' port' h h'
    exact Prod.mk.inj (Option.some.inj (h.splitHostPort?.symm.trans h'.splitHostPort?))
  · have hhead : input.head? ≠ some '[' := by
      intro hbracket
      obtain ⟨rest, rfl⟩ := List.head?_eq_some_iff.mp hbracket
      have haddress := isAddress_of_bracket rest
      rw [isAddress, h6, Bool.or_true] at haddress
      cases haddress
    exact splitHostPort?_eq_none_iff.mpr (.manyColons hhead (one_lt_count_of_isIPv6 h6))

/-- A host between brackets may hold an opening bracket and colons; an address without brackets has
too many colons. -/
theorem splitHostPort?_exact_brackets :
    let input := ['[', 'a', '[', ':', ':', ']', ':', '8', '0']
    (splitHostPort? input = some (['a', '[', ':', ':'], ['8', '0']) ∧
      IsHostPort ['a', '[', ':', ':'] ['8', '0'] input) ∧
    isIPv6 ['a', ':', ':'] = true ∧ splitHostPort? ['a', ':', ':'] = none ∧
      Unsplittable ['a', ':', ':'] := by
  intro input
  have hform : IsHostPort ['a', '[', ':', ':'] ['8', '0'] input :=
    .bracketed (by decide) ⟨by decide, by decide, by decide⟩
  have h6 : isIPv6 ['a', ':', ':'] = true := by decide +kernel
  obtain ⟨hsplit, -⟩ := splitHostPort?_exact input
  obtain ⟨-, -, hnone, hliteral⟩ := splitHostPort?_exact ['a', ':', ':']
  exact ⟨⟨(hsplit _ _).mpr hform, hform⟩, h6, hliteral h6, hnone.mp (hliteral h6)⟩

end ProxyPolicy.Net
