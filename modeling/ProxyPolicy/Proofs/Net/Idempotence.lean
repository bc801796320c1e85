import ProxyPolicy.Proofs.Net.Grouping
import ProxyPolicy.Proofs.Net.HostPort

/-!
# Reducing a host twice

A matching unit stands for itself, so that reducing a host twice is reducing it once
(`canonicalize_idempotent`). The texts that stand for themselves are exactly the addresses and the
texts that neither write an address nor have a registrable domain (`canonicalBy_eq_self_iff`).

The texts that need an argument are those that are made by the reduction, a dot and a domain, where
the domain keeps the colons and brackets of the host. The leading dot is what sets them apart: it
makes the first octet of an IPv4 literal empty and is in no group of an IPv6 literal, so no text led
by a dot is an address (`isAddress_of_dot`); the host that is split from a port keeps the dot
(`exists_cons_of_splitHostPort?`), so it is no address either; and the label before the dot is
empty, so there is no registrable domain (`registrable?_of_dot`).
-/

namespace ProxyPolicy.Net

open ProxyPolicy.Text

/-! ## Texts led by a dot -/

/-- A text led by a dot is no IPv4 literal: the octet before the dot is empty. -/
theorem isIPv4_of_dot (cs : List Char) : isIPv4 ('.' :: cs) = false := by
  have hparts : ('.' :: cs).splitOn '.' = [] :: cs.splitOn '.' := by
    simpa using List.splitOn_append_cons_self (a := '.') [] cs
  simp [isIPv4, hparts, isOctet]

/-- A text led by a dot is no group of an IPv6 literal. -/
theorem isGroup_of_dot (cs : List Char) : isGroup ('.' :: cs) = false := by
  have hdot : isHexDigit '.' = false := by decide
  simp [isGroup, hdot]

/-- The first part of a text led by a dot is led by the dot. -/
theorem exists_dot_mem_groupParts (cs : List Char) :
    ∃ part, '.' :: part ∈ groupParts ('.' :: cs) := by
  unfold groupParts
  rw [if_neg (List.cons_ne_nil '.' cs), List.splitOn_cons_eq_if_modifyHead, if_neg (by decide)]
  cases hparts : cs.splitOn ':' with
  | nil => exact absurd hparts (List.splitOn_ne_nil ':' cs)
  | cons part parts => exact ⟨part, List.mem_cons_self⟩

/-- A text led by a dot is no IPv6 literal, since its first part is none of one. -/
theorem isIPv6_of_dot (cs : List Char) : isIPv6 ('.' :: cs) = false := by
  rw [Bool.eq_false_iff]
  intro h
  unfold isIPv6 at h
  cases hcut : cutAtGap? ('.' :: cs) with
  | none =>
    -- All parts are counted, the first one too.
    rw [hcut] at h
    obtain ⟨part, hpart⟩ := exists_dot_mem_groupParts cs
    rcases isGroup_or_isIPv4_of_groupCount? (beq_iff_eq.mp h) hpart with hgroup | hoctets
    · exact absurd hgroup (by simp [isGroup_of_dot])
    · exact absurd hoctets (by simp [isIPv4_of_dot])
  | some cut =>
    obtain ⟨before, after⟩ := cut
    rw [hcut] at h
    -- The dot is before the gap.
    obtain ⟨before', rfl⟩ : ∃ before', before = '.' :: before' := by
      have heq := eq_of_cutAtGap? hcut
      cases before with
      | nil => cases (List.cons.inj heq).1
      | cons c before' =>
        obtain rfl := (List.cons.inj heq).1
        exact ⟨before', rfl⟩
    obtain ⟨part, hpart⟩ := exists_dot_mem_groupParts before'
    have hgroup := List.all_eq_true.mp (Bool.and_eq_true_iff.mp h).1 _ hpart
    exact absurd hgroup (by simp [isGroup_of_dot])

/-- A text led by a dot is no address. -/
theorem isAddress_of_dot (cs : List Char) : isAddress ('.' :: cs) = false := by
  rw [isAddress, isIPv4_of_dot, isIPv6_of_dot, Bool.false_or]

/-- The host that is split from a text starts as the text does, if the text starts with neither a
bracket nor a colon. -/
theorem exists_cons_of_splitHostPort? {c : Char} {cs host port : List Char}
    (hbracket : c ≠ '[') (hcolon : c ≠ ':') (h : splitHostPort? (c :: cs) = some (host, port)) :
    ∃ rest, host = c :: rest := by
  generalize hinput : c :: cs = input at h
  cases splitHostPort?_eq_some_iff.mp h with
  | plain hhost hport =>
    cases host with
    | nil => exact absurd (List.cons.inj hinput).1 hcolon
    | cons c' rest => exact ⟨rest, by rw [(List.cons.inj hinput).1]⟩
  | bracketed hhost hport => exact absurd (List.cons.inj hinput).1 hbracket

/-- A text led by a dot writes no address, with or without a port. -/
theorem addressOf?_of_dot (cs : List Char) : addressOf? ('.' :: cs) = none := by
  unfold addressOf?
  rw [isAddress_of_dot, if_neg Bool.false_ne_true]
  split
  · rename_i host port hsplit
    obtain ⟨rest, rfl⟩ := exists_cons_of_splitHostPort? (by decide) (by decide) hsplit
    rw [isAddress_of_dot, if_neg Bool.false_ne_true]
  · rfl

/-- A text led by a dot has no registrable domain: its first label is empty. -/
theorem registrable?_of_dot (rules : List SuffixRule) (cs : List Char) :
    registrable? rules ('.' :: cs) = none := by
  have hlabels : labels ('.' :: cs) = [] :: labels cs := by
    simpa [labels] using List.splitOn_append_cons_self (a := '.') [] cs
  rw [Option.eq_none_iff_forall_ne_some]
  intro domain h
  have hempty := (registrable?_eq_some_iff.mp h).1
  rw [hlabels] at hempty
  exact hempty List.mem_cons_self

/-! ## Matching units -/

/-- Whether a text is an address, or neither writes one nor has a registrable domain. -/
def StandsForItself (rules : List SuffixRule) (text : List Char) : Prop :=
  isAddress text = true ∨ addressOf? text = none ∧ registrable? rules text = none

/-- What a text writes as an address is one. -/
theorem isAddress_of_addressOf? {host address : List Char} (h : addressOf? host = some address) :
    isAddress address = true := by
  unfold addressOf? at h
  split_ifs at h with haddress
  · obtain rfl := Option.some.inj h
    exact haddress
  · split at h
    · split_ifs at h with hhost
      obtain rfl := Option.some.inj h
      exact hhost
    · cases h

variable {rules : List SuffixRule}

/-- A text led by a dot stands for itself. -/
theorem standsForItself_of_dot (cs : List Char) : StandsForItself rules ('.' :: cs) :=
  .inr ⟨addressOf?_of_dot cs, registrable?_of_dot rules cs⟩

/-- Reducing a host gives a text that stands for itself. -/
theorem standsForItself_canonicalBy (rules : List SuffixRule) (host : List Char) :
    StandsForItself rules (canonicalBy rules host) := by
  unfold canonicalBy
  cases haddress : addressOf? host with
  | some address => exact .inl (isAddress_of_addressOf? haddress)
  | none =>
    cases hdomain : registrable? rules host with
    | some domain => exact standsForItself_of_dot domain
    | none => exact .inr ⟨haddress, hdomain⟩

/-- A text that stands for itself is reduced to itself. -/
theorem canonicalBy_of_standsForItself {text : List Char} (h : StandsForItself rules text) :
    canonicalBy rules text = text := by
  rcases h with haddress | ⟨haddress, hdomain⟩
  · simp only [canonicalBy, addressOf?, haddress, if_true]
  · simp only [canonicalBy, haddress, hdomain]

/-- The texts that are reduced to themselves are those that stand for themselves. -/
theorem canonicalBy_eq_self_iff {text : List Char} :
    canonicalBy rules text = text ↔ StandsForItself rules text :=
  ⟨fun h => h ▸ standsForItself_canonicalBy rules text, canonicalBy_of_standsForItself⟩

/-- Reducing a host twice is reducing it once, whatever the list of rules is. -/
theorem canonicalBy_canonicalBy (rules : List SuffixRule) (host : List Char) :
    canonicalBy rules (canonicalBy rules host) = canonicalBy rules host :=
  canonicalBy_of_standsForItself (standsForItself_canonicalBy rules host)

/-- Reducing a text twice is reducing it once, by any list of rules. A host that is reduced to a dot
and its registrable domain is neither read as an address then nor split into an address and a port,
and has no registrable domain. -/
theorem canonicalize_idempotent :
    (∀ rules text, canonicalize rules (canonicalize rules text) = canonicalize rules text) ∧
      ∀ rules host, canonicalBy rules (canonicalBy rules host) = canonicalBy rules host ∧
        ∀ domain, addressOf? host = none → registrable? rules host = some domain →
          canonicalBy rules host = '.' :: domain ∧
          isAddress ('.' :: domain) = false ∧
          (∀ inner port, splitHostPort? ('.' :: domain) = some (inner, port) →
            isAddress inner = false) ∧
          registrable? rules ('.' :: domain) = none := by
  constructor
  · intro rules text
    have htwice := canonicalBy_canonicalBy rules text.toList
    simp only [canonicalize, String.toList_ofList, htwice]
  · intro rules host
    refine ⟨canonicalBy_canonicalBy rules host, fun domain haddress hdomain => ?_⟩
    refine ⟨canonicalBy_of_registrable? haddress hdomain, isAddress_of_dot domain, ?_,
      registrable?_of_dot rules domain⟩
    intro inner port hsplit
    obtain ⟨rest, rfl⟩ := exists_cons_of_splitHostPort? (by decide) (by decide) hsplit
    exact isAddress_of_dot rest

/-- A domain that is itself read as an address with a port is reduced to itself behind the dot. -/
theorem canonicalize_idempotent_brackets :
    let host := "a.[::1]:80.com"
    let domain := "[::1]:80.com".toList
    addressOf? host.toList = none ∧ registrable? suffixRules host.toList = some domain ∧
      addressOf? domain = some "::1".toList ∧
      canonicalize suffixRules host = ".[::1]:80.com" ∧
      canonicalize suffixRules ".[::1]:80.com" = ".[::1]:80.com" ∧
      registrable? suffixRules ('.' :: domain) = none := by
  intro host domain
  have haddress : addressOf? host.toList = none := by decide +kernel
  have hdomain : registrable? suffixRules host.toList = some domain := by decide +kernel
  obtain ⟨htwice, hrules⟩ := canonicalize_idempotent
  obtain ⟨-, hreduced⟩ := hrules suffixRules host.toList
  obtain ⟨hunit, -, -, hagain⟩ := hreduced domain haddress hdomain
  have hvalue : canonicalize suffixRules host = ".[::1]:80.com" := congrArg String.ofList hunit
  have hfixed := htwice suffixRules host
  rw [hvalue] at hfixed
  exact ⟨haddress, hdomain, by decide +kernel, hvalue, hfixed, hagain⟩

end ProxyPolicy.Net
