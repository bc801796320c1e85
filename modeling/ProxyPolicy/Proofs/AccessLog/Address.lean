import ProxyPolicy.Proofs.AccessLog.Spelling
import ProxyPolicy.Proofs.Net.Unbracketed

/-!
# Addresses and their ports

A port takes no part in the policy when the host is an address. The matching unit of an address is
the address, with or without a port (`canonicalBy_bracketed`, `canonicalBy_with_port`), and no list
of suffixes is asked. A target that names an address with a port is one spelling of that host
(`names_of_namesAddress`), and an address is still one in lower case; so the host of the entry and
its domain are both the address in lower case.
-/

namespace ProxyPolicy.AccessLog

open ProxyPolicy.Net ProxyPolicy.Text

variable {s p : List Char}

/-! ## Delimiters -/

/-- A digit is no delimiter. -/
theorem not_mem_delimiters_of_isDigit {c : Char} (h : c.isDigit = true) : c ∉ delimiters := by
  have hnone : ∀ d ∈ delimiters, d.isDigit = false := by simp [delimiters]
  intro hmem
  rw [hnone c hmem] at h
  cases h

/-- The only delimiter in an address is the colon. -/
theorem eq_colon_of_mem_delimiters (hs : isAddress s = true) {c : Char} (hc : c ∈ s)
    (hd : c ∈ delimiters) : c = ':' := by
  have hnone : ∀ d ∈ delimiters, isHexDigit d = false ∧ d ≠ '.' := by
    simp [delimiters, isHexDigit, hexValue?]
  rcases isHexDigit_of_isAddress hs hc with hhex | hcolon | hdot
  · rw [(hnone c hd).1] at hhex
    cases hhex
  · exact hcolon
  · exact absurd hdot (hnone c hd).2

/-- No delimiter is in an IPv4 literal. -/
theorem free_of_isIPv4 (hs : isIPv4 s = true) : ∀ c ∈ s, c ∉ delimiters := by
  intro c hc hd
  have hcolon := eq_colon_of_mem_delimiters (Bool.or_eq_true_iff.mpr (.inl hs)) hc hd
  exact colon_not_mem_of_isIPv4 hs (hcolon ▸ hc)

/-! ## Matching units -/

section Units

variable (rules : List SuffixRule)

/-- An address is its own matching unit. -/
theorem canonicalBy_of_isAddress (hs : isAddress s = true) : canonicalBy rules s = s := by
  simp [canonicalBy, addressOf?, hs]

/-- The matching unit of a text that is no address and is split into an address and a port is that
address. -/
theorem canonicalBy_of_splitHostPort? {host : List Char} (hhost : isAddress host = false)
    (hsplit : splitHostPort? host = some (s, p)) (hs : isAddress s = true) :
    canonicalBy rules host = s := by
  simp [canonicalBy, addressOf?, hhost, hsplit, hs]

/-- An address between brackets and with a port has the address as its matching unit. -/
theorem canonicalBy_bracketed (hs : isAddress s = true) (hp : p.any isHostDelimiter = false) :
    canonicalBy rules ('[' :: (s ++ ']' :: ':' :: p)) = s := by
  have hclosing : ']' ∉ s := fun hmem =>
    absurd (eq_colon_of_mem_delimiters hs hmem (by decide)) (by decide)
  have hport : ∀ q ∈ some p, q.any isHostDelimiter = false := fun _ hq => Option.some.inj hq ▸ hp
  exact canonicalBy_of_splitHostPort? rules (isAddress_of_bracket _)
    (splitHostPort?_bracketed hclosing hport) hs

/-- An IPv4 literal with a port has the literal as its matching unit. -/
theorem canonicalBy_with_port (hs : isIPv4 s = true) (hp : p.any isHostDelimiter = false) :
    canonicalBy rules (s ++ ':' :: p) = s := by
  have hcolon : ':' ∉ p := fun hmem => List.any_eq_false.mp hp ':' hmem rfl
  have hhost := any_isHostDelimiter_of_free (free_of_isIPv4 hs)
  have hport : ∀ q ∈ some p, q.any isHostDelimiter = false := fun _ hq => Option.some.inj hq ▸ hp
  exact canonicalBy_of_splitHostPort? rules (isAddress_with_port hs hcolon)
    (splitHostPort?_plain hhost hport) (Bool.or_eq_true_iff.mpr (.inl hs))

end Units

/-! ## Targets -/

/-- An address with a port, between brackets or not. -/
def addressText (bracketed : Bool) (s p : List Char) : List Char :=
  if bracketed then '[' :: (s ++ ']' :: ':' :: p) else s ++ ':' :: p

/-- The targets that name an address with a port: as the target of a tunnel, where an address
without brackets is an IPv4 literal, or in a text that is a URL. A port has decimal digits, and may
have none. -/
inductive NamesAddress (s : List Char) : List Char → Prop where
  /-- A tunnel to the address. -/
  | tunnel (bracketed : Bool) (p : List Char) (hp : p.all Char.isDigit = true)
      (hs : bracketed = true ∨ isIPv4 s = true) : NamesAddress s (addressText bracketed s p)
  /-- A URL with the address. -/
  | url (bracketed : Bool) (scheme p rest : List Char) (hp : p.all Char.isDigit = true)
      (hscheme : ∀ c ∈ scheme, c ∉ [':', '/', '?', '#'])
      (hrest : ∀ c ∈ rest.head?, c ∈ ['/', '?', '#'])
      (hurl : Url.isUrl (scheme ++ ':' :: '/' :: '/' :: (addressText bracketed s p ++ rest)) =
        true) :
      NamesAddress s (scheme ++ ':' :: '/' :: '/' :: (addressText bracketed s p ++ rest))

/-- An address with a port is the text of a host. -/
theorem exists_hostText (hs : isAddress s = true) (hp : p.all Char.isDigit = true)
    {bracketed : Bool} (hbracketed : bracketed = true ∨ isIPv4 s = true) :
    ∃ x : HostText, x.host = s ∧ x.text = addressText bracketed s p ∧ x.IsTunnel := by
  have hhost : ∀ c ∈ s, c ∈ delimiters → bracketed = true ∧ c = ':' := by
    intro c hc hd
    refine ⟨?_, eq_colon_of_mem_delimiters hs hc hd⟩
    rcases hbracketed with hopen | hfour
    · exact hopen
    · exact absurd hd (free_of_isIPv4 hfour c hc)
  have hport : ∀ q ∈ some p, ∀ c ∈ q, c ∉ delimiters := by
    intro q hq c hc
    obtain rfl := Option.some.inj hq
    exact not_mem_delimiters_of_isDigit (List.all_eq_true.mp hp c hc)
  let x : HostText := ⟨s, bracketed, some p, hhost, hport⟩
  refine ⟨x, rfl, ?_, fun _ => rfl⟩
  cases bracketed <;> rfl

/-- What may follow an authority is a path, a query and a fragment. -/
theorem exists_parts {rest : List Char} (h : ∀ c ∈ rest.head?, c ∈ ['/', '?', '#']) :
    ∃ (path : List Char) (query fragment : Option (List Char)),
      rest = path ++ (query.elim [] ('?' :: ·) ++ fragment.elim [] ('#' :: ·)) ∧
      (∀ c ∈ path.head?, c = '/') ∧ ∀ c ∈ path, c ∉ ['?', '#'] := by
  let inPath (c : Char) : Bool := c != '?' && c != '#'
  have hinPath {c : Char} : inPath c = true ↔ c ∉ ['?', '#'] := by simp [inPath]
  have hpath : ∀ c ∈ rest.takeWhile inPath, c ∉ ['?', '#'] := fun c hc =>
    hinPath.mp (List.mem_takeWhile_imp hc)
  have hstart : ∀ c ∈ (rest.takeWhile inPath).head?, c = '/' := by
    intro c hc
    have hfree := hpath c (List.mem_of_mem_head? hc)
    rw [List.head?_takeWhile, Option.mem_def, Option.filter_eq_some_iff] at hc
    have hfirst := h c hc.1
    grind
  have hsplit := (List.takeWhile_append_dropWhile (p := inPath) (l := rest)).symm
  cases htail : rest.dropWhile inPath with
  | nil =>
    rw [htail] at hsplit
    exact ⟨rest.takeWhile inPath, none, none, hsplit, hstart, hpath⟩
  | cons c cs =>
    have hc : inPath c = false := stops_dropWhile inPath rest c (by rw [htail]; rfl)
    have hsign : c = '?' ∨ c = '#' := by
      rw [Bool.and_eq_false_iff, bne_eq_false_iff_eq, bne_eq_false_iff_eq] at hc
      exact hc
    rw [htail] at hsplit
    rcases hsign with rfl | rfl
    · exact ⟨rest.takeWhile inPath, some cs, none, by simpa using hsplit, hstart, hpath⟩
    · exact ⟨rest.takeWhile inPath, none, some cs, hsplit, hstart, hpath⟩

/-- A target that names an address with a port is one of the spellings of the address. -/
theorem names_of_namesAddress (hs : isAddress s = true) {target : List Char}
    (h : NamesAddress s target) : Names target s := by
  cases h with
  | tunnel bracketed p hp hbracketed =>
    obtain ⟨x, rfl, htext, htunnel⟩ := exists_hostText hs hp hbracketed
    rw [← htext]
    exact .tunnel x htunnel
  | url bracketed scheme p rest hp hscheme hrest hurl =>
    -- Without brackets, only an IPv4 literal makes a URL.
    have hbracketed : bracketed = true ∨ isIPv4 s = true := by
      cases bracketed with
      | true => exact .inl rfl
      | false =>
        have hcolon : ':' ∉ scheme := fun hmem => hscheme ':' hmem List.mem_cons_self
        exact .inr (Url.isIPv4_of_isUrl hs hcolon (List.all_eq_true.mp hp) hrest hurl)
    obtain ⟨x, rfl, htext, -⟩ := exists_hostText hs hp hbracketed
    obtain ⟨path, query, fragment, rfl, hstart, hfree⟩ := exists_parts hrest
    let u : UrlText :=
      { toHostText := x, scheme, user := none, path, query, fragment
        scheme_free := hscheme, user_free := nofun, path_start := hstart, path_free := hfree }
    have hu : u.text = scheme ++ ':' :: '/' :: '/' :: (addressText bracketed x.host p ++
        (path ++ (query.elim [] ('?' :: ·) ++ fragment.elim [] ('#' :: ·)))) := by
      simp [u, UrlText.text, UrlText.authority, UrlText.userText, UrlText.tail, htext]
    rw [← hu] at hurl ⊢
    exact .url u hurl

/-- Ports never matter for addresses. An address is its own matching unit, and stays it between
brackets and with any port; an IPv4 literal stays it with a port and without brackets. The entry of
a line whose target names the address with a port, for a tunnel or in a URL, has the address in
lower case both as its host and as its domain. -/
theorem address_port_ignored (rules : List SuffixRule) (s : String)
    (hs : isAddress s.toList = true) :
    canonicalize rules s = s ∧
    (∀ p : String, p.toList.any isHostDelimiter = false →
      canonicalize rules ("[" ++ s ++ "]:" ++ p) = s ∧
      (isIPv4 s.toList = true → canonicalize rules (s ++ ":" ++ p) = s)) ∧
    ∀ (line : String) (e : Entry), parse rules line = .ok (some e) →
      NamesAddress s.toList e.url.toList →
      e.host = String.ofList (lowercase s.toList) ∧
      e.domain = String.ofList (lowercase s.toList) := by
  refine ⟨?_, ?_, ?_⟩
  · rw [canonicalize, canonicalBy_of_isAddress rules hs, String.ofList_toList]
  · intro p hp
    refine ⟨?_, fun hfour => ?_⟩
    · have hunit := canonicalBy_bracketed rules hs hp
      simpa [canonicalize] using congrArg String.ofList hunit
    · have hunit := canonicalBy_with_port rules hfour hp
      simpa [canonicalize] using congrArg String.ofList hunit
  · intro line e hparse htarget
    obtain ⟨hhost, hdomain⟩ := host_of_parse hparse
    rw [host_of_names (names_of_namesAddress hs htarget)] at hhost hdomain
    -- The host of the entry is an address again, and so its own matching unit.
    rw [canonicalBy_of_isAddress rules (isAddress_lowercase hs)] at hdomain
    exact ⟨hhost, hdomain⟩

/-- An IPv4 literal in a URL with an empty port, and an IPv6 literal with an IPv4 tail between
brackets. -/
theorem address_port_ignored_literals :
    let line := "7 5 c T/200 1 GET foo://192.0.2.1:/a?b - D/1 -"
    let line' := "8 5 c T/200 1 GET http://[::FfFf:192.0.2.1]:443#d - D/1 -"
    ∃ e e', parse suffixRules line = .ok (some e) ∧ parse suffixRules line' = .ok (some e') ∧
      canonicalize suffixRules "192.0.2.1:http" = "192.0.2.1" ∧
      canonicalize suffixRules "[::FfFf:192.0.2.1]:443" = "::FfFf:192.0.2.1" ∧
      e.host = "192.0.2.1" ∧ e.domain = "192.0.2.1" ∧
      e'.host = "::ffff:192.0.2.1" ∧ e'.domain = "::ffff:192.0.2.1" := by
  intro line line'
  let four := "192.0.2.1"
  let six := "::FfFf:192.0.2.1"
  let e : Entry := ⟨⟨7, 0⟩, "c", "GET", four, four, "/a", "foo://192.0.2.1:/a?b", "-"⟩
  let e' : Entry := ⟨⟨8, 0⟩, "c", "GET", "::ffff:192.0.2.1", "::ffff:192.0.2.1", "",
    "http://[::FfFf:192.0.2.1]:443#d", "-"⟩
  have hparse : parse suffixRules line = .ok (some e) := by decide +kernel
  have hparse' : parse suffixRules line' = .ok (some e') := by decide +kernel
  have hfour : isIPv4 four.toList = true := by decide +kernel
  have hnames : NamesAddress four.toList e.url.toList := by
    have htarget : e.url.toList = ['f', 'o', 'o'] ++ ':' :: '/' :: '/' ::
        (addressText false four.toList [] ++ ['/', 'a', '?', 'b']) := by decide +kernel
    rw [htarget]
    exact .url false _ _ _ rfl (by simp) (by simp) (by decide +kernel)
  have hnames' : NamesAddress six.toList e'.url.toList := by
    have htarget : e'.url.toList = ['h', 't', 't', 'p'] ++ ':' :: '/' :: '/' ::
        (addressText true six.toList ['4', '4', '3'] ++ ['#', 'd']) := by decide +kernel
    rw [htarget]
    exact .url true _ _ _ rfl (by simp) (by simp) (by decide +kernel)
  obtain ⟨-, hplain, hentry⟩ := address_port_ignored suffixRules four (by decide +kernel)
  obtain ⟨-, hbrackets, hentry'⟩ := address_port_ignored suffixRules six (by decide +kernel)
  obtain ⟨hhost, hdomain⟩ := hentry line e hparse hnames
  obtain ⟨hhost', hdomain'⟩ := hentry' line' e' hparse' hnames'
  have hlower : lowercase four.toList = four.toList := by decide +kernel
  have hlower' : lowercase six.toList = "::ffff:192.0.2.1".toList := by decide +kernel
  rw [hlower, String.ofList_toList] at hhost hdomain
  rw [hlower', String.ofList_toList] at hhost' hdomain'
  obtain ⟨-, hservice⟩ := hplain "http" (by decide +kernel)
  obtain ⟨hnumber, -⟩ := hbrackets "443" (by decide +kernel)
  exact ⟨e, e', hparse, hparse', hservice hfour, hnumber, hhost, hdomain, hhost', hdomain'⟩

end ProxyPolicy.AccessLog
