import ProxyPolicy.Net.Url
import ProxyPolicy.Proofs.Net.AsciiName
import ProxyPolicy.Proofs.Net.Literal

/-!
# Addresses without brackets

In a URL an IPv6 literal stands between brackets. Without them its first colon would start a port,
and what follows that colon is no port, since the literal goes on; a scheme that gives hosts no
ports refuses the colon itself. So a text that would be a URL with an address outside brackets and a
port is one for an IPv4 literal only (`isIPv4_of_isUrl`).
-/

namespace ProxyPolicy.Net.Url

open ProxyPolicy.Text

/-! ## Searches -/

/-- A search that stops where the second text starts passes over the first text as it would by
itself. -/
theorem dropWhile_append_of_head {p : Char → Bool} {xs ys : List Char}
    (h : ∀ c ∈ ys.head?, p c = false) : (xs ++ ys).dropWhile p = xs.dropWhile p ++ ys := by
  have hstop : ys.dropWhile p = ys := by
    cases ys with
    | nil => rfl
    | cons y ys => exact List.dropWhile_cons_of_neg (by simp [h y rfl])
  rw [List.dropWhile_append, hstop]
  split_ifs with hempty
  · rw [List.isEmpty_iff.mp hempty, List.nil_append]
  · rfl

/-- What surrounds a text without blanks and controls is trimmed on both sides of the text. -/
theorem trim_append (front : List Char) {middle back : List Char} (hne : middle ≠ [])
    (hmiddle : ∀ c ∈ middle, 0x20 < c.toNat) (hback : ∀ c ∈ back.head?, 0x20 < c.toNat) :
    ∃ front' back', trim (front ++ (middle ++ back)) = front' ++ (middle ++ back') ∧
      front' ⊆ front ∧ back'.head? = back.head? := by
  let outer (c : Char) : Bool := c.toNat ≤ 0x20
  let keep (c : Char) : Bool := c != '\t' && c != '\n' && c != '\r'
  have houter {c : Char} (hc : 0x20 < c.toNat) : outer c = false := decide_eq_false (by omega)
  have hkeep {c : Char} (hc : 0x20 < c.toNat) : keep c = true := by
    have hne (d : Char) (hd : d.toNat ≤ 0x20) : c ≠ d := by
      rintro rfl
      omega
    simp [keep, hne '\t' (by decide), hne '\n' (by decide), hne '\r' (by decide)]
  -- The search from the left stops at the middle, and so does the one from the right.
  have hleft : (front ++ (middle ++ back)).dropWhile outer =
      front.dropWhile outer ++ (middle ++ back) := by
    refine dropWhile_append_of_head fun c hc => houter (hmiddle c ?_)
    rw [List.head?_append_of_ne_nil middle hne] at hc
    exact List.mem_of_mem_head? hc
  have hright (cs : List Char) : (cs ++ (middle ++ back)).reverse.dropWhile outer =
      back.reverse.dropWhile outer ++ (middle.reverse ++ cs.reverse) := by
    rw [List.reverse_append, List.reverse_append, List.append_assoc]
    refine dropWhile_append_of_head fun c hc => houter (hmiddle c ?_)
    rw [List.head?_append_of_ne_nil _ (by simpa using hne)] at hc
    exact List.mem_reverse.mp (List.mem_of_mem_head? hc)
  refine ⟨(front.dropWhile outer).filter keep, (back.reverse.dropWhile outer).reverse.filter keep,
    ?_, ?_, ?_⟩
  · have hsame : middle.filter keep = middle :=
      List.filter_eq_self.mpr fun c hc => hkeep (hmiddle c hc)
    change (((front ++ (middle ++ back)).dropWhile outer).reverse.dropWhile outer).reverse.filter
      keep = _
    rw [hleft, hright]
    simp [hsame]
  · exact fun c hc => List.dropWhile_subset outer (List.mem_of_mem_filter hc)
  · cases back with
    | nil => rfl
    | cons c cs =>
      have hc := hback c rfl
      have hlast : (cs.reverse ++ [c]).dropWhile outer = cs.reverse.dropWhile outer ++ [c] :=
        dropWhile_append_of_head fun d hd => by
          obtain rfl := Option.some.inj hd
          exact houter hc
      rw [List.reverse_cons, hlast, List.reverse_append, List.reverse_singleton,
        List.singleton_append, List.filter_cons_of_pos (hkeep hc)]
      rfl

/-- The first colon of a URL ends the scheme. -/
theorem eq_of_splitScheme? {front rest scheme hierarchy : List Char} (hfront : ':' ∉ front)
    (h : splitScheme? (front ++ ':' :: rest) = some (scheme, hierarchy)) : hierarchy = rest := by
  have hdrop : (front ++ ':' :: rest).dropWhile isSchemeChar =
      front.dropWhile isSchemeChar ++ ':' :: rest :=
    dropWhile_append_of_head fun c hc => by
      obtain rfl := Option.some.inj hc
      decide
  unfold splitScheme? at h
  split at h
  · rw [hdrop] at h
    split_ifs at h
    cases hfound : front.dropWhile isSchemeChar with
    | nil =>
      rw [hfound] at h
      exact (Prod.mk.inj (Option.some.inj h)).2.symm
    | cons c cs =>
      have hc : c ≠ ':' := by
        rintro rfl
        have hmem : ':' ∈ front.dropWhile isSchemeChar := hfound ▸ List.mem_cons_self
        exact hfront (List.dropWhile_subset isSchemeChar hmem)
      rw [hfound] at h
      simp [hc] at h
  · cases h

/-! ## Hosts and ports -/

/-- Outside brackets, a host ends at the first colon. -/
theorem hostText_of_not_mem {host port : List Char} (hcolon : ':' ∉ host) (hbracket : '[' ∉ host) :
    hostText false (host ++ ':' :: port) = host := by
  induction host with
  | nil => rfl
  | cons c host ih =>
    have hc : c ≠ ':' := fun heq => hcolon (heq ▸ List.mem_cons_self)
    have hopen : (c == '[') = false :=
      beq_eq_false_iff_ne.mpr fun heq => hbracket (heq ▸ List.mem_cons_self)
    have hrest := ih (fun hmem => hcolon (List.mem_cons_of_mem c hmem))
      fun hmem => hbracket (List.mem_cons_of_mem c hmem)
    simp [hostText, hc, hopen, hrest]

/-- A text with a colon is no port. -/
theorem isPortText_of_colon {port : List Char} (hcolon : ':' ∈ port) (hslash : '\\' ∉ port) :
    isPortText (':' :: port) = false := by
  cases hrest : port.dropWhile Char.isDigit with
  | nil =>
    have hdigit := List.dropWhile_eq_nil_iff.mp hrest ':' hcolon
    exact absurd hdigit (by decide)
  | cons c cs =>
    have hmem : c ∈ port := List.dropWhile_subset Char.isDigit (hrest ▸ List.mem_cons_self)
    have hc : (c == '\\') = false := by
      rw [beq_eq_false_iff_ne]
      rintro rfl
      exact hslash hmem
    simp [isPortText, hrest, hc]

/-! ## Authorities with several colons -/

/-- An authority that writes an address without brackets and with a port would hold the characters
of addresses alone, and more than one colon. -/
structure ManyColons (authority : List Char) : Prop where
  /-- All characters are those of addresses. -/
  chars : ∀ c ∈ authority, isHexDigit c = true ∨ c = ':' ∨ c = '.'
  /-- There are two colons at least. -/
  colons : 2 ≤ authority.count ':'

namespace ManyColons

variable {authority : List Char}

/-- A character of such an authority is no other one. -/
theorem ne_of_mem (h : ManyColons authority) {c d : Char} (hc : c ∈ authority)
    (hd : isHexDigit d = false ∧ d ≠ ':' ∧ d ≠ '.') : c ≠ d := by
  rintro rfl
  obtain ⟨hhex, hcolon, hdot⟩ := hd
  rcases h.chars c hc with hdigit | heq | heq
  · rw [hhex] at hdigit
    cases hdigit
  · exact hcolon heq
  · exact hdot heq

/-- No other character is in such an authority. -/
theorem not_mem (h : ManyColons authority) {d : Char}
    (hd : isHexDigit d = false ∧ d ≠ ':' ∧ d ≠ '.') : d ∉ authority :=
  fun hmem => h.ne_of_mem hmem hd rfl

/-- The characters of such an authority are visible characters of ASCII. -/
theorem codes (h : ManyColons authority) {c : Char} (hc : c ∈ authority) :
    0x20 < c.toNat ∧ c.toNat < 128 := by
  rcases h.chars c hc with hhex | rfl | rfl
  · have hcode := isHexDigit_iff.mp hhex
    omega
  · decide
  · decide

/-- The first colon of such an authority is followed by another one. -/
theorem exists_eq_append (h : ManyColons authority) :
    ∃ host port, authority = host ++ ':' :: port ∧ ':' ∉ host ∧ ':' ∈ port := by
  have hmem : ':' ∈ authority := List.count_pos_iff.mp (by have hcolons := h.colons; omega)
  obtain ⟨host, port, rfl, hhost⟩ := List.eq_append_cons_of_mem hmem
  refine ⟨host, port, rfl, hhost, List.count_pos_iff.mp ?_⟩
  have hcolons := h.colons
  rw [List.count_append, List.count_eq_zero.mpr hhost, List.count_cons_self] at hcolons
  omega

/-- Such an authority is not empty. -/
theorem ne_nil (h : ManyColons authority) : authority ≠ [] := by
  rintro rfl
  exact absurd h.colons (by decide)

/-- Such an authority is refused where a host may have a port. -/
theorem isAuthority_eq_false (h : ManyColons authority) (kind : SchemeKind) (rest : List Char) :
    isAuthority kind authority rest = false := by
  have hslash : '\\' ∉ authority := h.not_mem (by decide)
  have hbracket : '[' ∉ authority := h.not_mem (by decide)
  have hat : authority.contains '@' = false := by
    rw [List.contains_eq_mem, decide_eq_false_iff_not]
    exact h.not_mem (by decide)
  have huser : splitUser authority = (none, authority) := by
    unfold splitUser
    rw [hat]
    rfl
  obtain ⟨host, port, rfl, hhost, hport⟩ := h.exists_eq_append
  have htext : hostText false (host ++ ':' :: port) = host :=
    hostText_of_not_mem hhost fun hmem => hbracket (List.mem_append_left _ hmem)
  have hnoport : isPortText (':' :: port) = false :=
    isPortText_of_colon hport fun hmem =>
      hslash (List.mem_append_right host (List.mem_cons_of_mem ':' hmem))
  unfold isAuthority
  simp only [huser, htext, List.drop_left, hnoport, Bool.and_false]
  by_cases hnil : host = []
  · simp [hnil]
  · simp [hnil]

/-- Such an authority is refused where a host has no port. -/
theorem isNetworkHost_eq_false (h : ManyColons authority) : isNetworkHost authority = false := by
  have hbracket : authority.head? ≠ some '[' := fun heq =>
    h.not_mem (by decide) (List.mem_of_mem_head? heq)
  have hascii : ∀ c ∈ authority, c.toNat < 128 := fun c hc => (h.codes hc).2
  have hescape : '%' ∉ authority := h.not_mem (by decide)
  have hcolon : ':' ∈ authority := List.count_pos_iff.mp (by have hcolons := h.colons; omega)
  have hplain : 'x' ∉ authority.map Char.toLower := by
    intro hmem
    obtain ⟨c, hc, hlower⟩ := List.mem_map.mp hmem
    rcases h.chars c hc with hhex | rfl | rfl
    · rw [← isHexDigit_toLower, hlower] at hhex
      exact absurd hhex (by decide)
    · exact absurd hlower (by decide)
    · exact absurd hlower (by decide)
  unfold isNetworkHost
  rw [if_neg hbracket, octets_of_ascii hascii hescape, decodeLossy_of_ascii hascii,
    Idna.toLabels?_of_colon hascii hplain hcolon]

/-- Such an authority is no drive letter, which has one colon at most. -/
theorem isDriveLetter_eq_false (h : ManyColons authority) : isDriveLetter authority = false := by
  have hcolons := h.colons
  unfold isDriveLetter
  split
  · rename_i c d
    have hc : c = ':' := by
      by_contra hne
      rw [List.count_cons_of_ne hne] at hcolons
      have hle := List.count_le_length (a := ':') (l := [d])
      simp only [List.length_singleton] at hle
      omega
    rw [hc]
    rfl
  · rfl

/-- Whatever the scheme is, no URL has such an authority. -/
theorem isHierarchy_eq_false (h : ManyColons authority) (kind : SchemeKind) {rest : List Char}
    (hrest : ∀ c ∈ rest.head?, c ∈ ['/', '?', '#']) :
    isHierarchy kind ('/' :: '/' :: (authority ++ rest)) = false := by
  have hends : ∀ c ∈ rest.head?, (!endsAuthority kind c) = false := by
    intro c hc
    have hcases := hrest c hc
    simp only [List.mem_cons, List.not_mem_nil, or_false] at hcases
    rcases hcases with rfl | rfl | rfl <;> rfl
  have hinside : ∀ c ∈ authority, (!endsAuthority kind c) = true := by
    intro c hc
    simp [endsAuthority, h.ne_of_mem hc (d := '/') (by decide),
      h.ne_of_mem hc (d := '?') (by decide), h.ne_of_mem hc (d := '#') (by decide),
      h.ne_of_mem hc (d := '\\') (by decide)]
  have htake : (authority ++ rest).takeWhile (!endsAuthority kind ·) = authority := by
    have hstop : rest.takeWhile (!endsAuthority kind ·) = [] := by
      cases rest with
      | nil => rfl
      | cons c cs => exact List.takeWhile_cons_of_neg (by simpa using hends c rfl)
    rw [List.takeWhile_append_of_pos hinside, hstop, List.append_nil]
  cases kind with
  | network =>
    have hstop : ∀ c ∈ (authority ++ rest).head?, isSlash c = false := by
      intro c hc
      rw [List.head?_append_of_ne_nil authority h.ne_nil] at hc
      have hmem := List.mem_of_mem_head? hc
      simp [isSlash, h.ne_of_mem hmem (d := '/') (by decide),
        h.ne_of_mem hmem (d := '\\') (by decide)]
    have hslashes : (['/', '/'] ++ (authority ++ rest)).dropWhile isSlash = authority ++ rest :=
      dropWhile_append_of_head hstop
    rw [List.cons_append, List.singleton_append] at hslashes
    simp only [isHierarchy, hslashes, htake, h.isAuthority_eq_false]
  | file =>
    simp only [isHierarchy, htake, h.isDriveLetter_eq_false, h.isNetworkHost_eq_false]
    simp [isSlash, h.ne_nil]
  | other => simp only [isHierarchy, htake, h.isAuthority_eq_false]

/-- A text with such an authority is no URL. -/
theorem isUrl_eq_false (h : ManyColons authority) {scheme rest : List Char} (hscheme : ':' ∉ scheme)
    (hrest : ∀ c ∈ rest.head?, c ∈ ['/', '?', '#']) :
    isUrl (scheme ++ ':' :: '/' :: '/' :: (authority ++ rest)) = false := by
  have hcodes : ∀ c ∈ ':' :: '/' :: '/' :: authority, 0x20 < c.toNat := by
    intro c hc
    simp only [List.mem_cons] at hc
    rcases hc with rfl | rfl | rfl | hc
    · decide
    · decide
    · decide
    · exact (h.codes hc).1
  have hrestCodes : ∀ c ∈ rest.head?, 0x20 < c.toNat := by
    intro c hc
    have hcases := hrest c hc
    simp only [List.mem_cons, List.not_mem_nil, or_false] at hcases
    rcases hcases with rfl | rfl | rfl <;> decide
  obtain ⟨scheme', rest', htrim, hsub, hhead⟩ :=
    trim_append scheme (List.cons_ne_nil ':' ('/' :: '/' :: authority)) hcodes hrestCodes
  simp only [List.cons_append] at htrim
  unfold isUrl
  rw [htrim]
  split
  · rename_i name hierarchy hsplit
    rw [eq_of_splitScheme? (fun hmem => hscheme (hsub hmem)) hsplit]
    exact h.isHierarchy_eq_false (SchemeKind.of name) (hhead ▸ hrest)
  · rfl

end ManyColons

/-- An address that a URL writes without brackets and with a port is an IPv4 literal. -/
theorem isIPv4_of_isUrl {scheme s port rest : List Char} (hs : isAddress s = true)
    (hscheme : ':' ∉ scheme) (hport : ∀ c ∈ port, c.isDigit = true)
    (hrest : ∀ c ∈ rest.head?, c ∈ ['/', '?', '#'])
    (hurl : isUrl (scheme ++ ':' :: '/' :: '/' :: (s ++ ':' :: port ++ rest)) = true) :
    isIPv4 s = true := by
  by_contra hnot
  rw [Bool.not_eq_true] at hnot
  have hsix : isIPv6 s = true := by simpa [isAddress, hnot] using hs
  have hmany : ManyColons (s ++ ':' :: port) := by
    refine ⟨?_, ?_⟩
    · intro c hc
      rcases List.mem_append.mp hc with hmem | hmem
      · exact isHexDigit_of_isAddress hs hmem
      rcases List.mem_cons.mp hmem with rfl | hmem
      · exact .inr (.inl rfl)
      · exact .inl (isHexDigit_of_isDigit (hport c hmem))
    · have hpos : 0 < s.count ':' := List.count_pos_iff.mpr (colon_mem_of_isIPv6 hsix)
      rw [List.count_append, List.count_cons_self]
      omega
  rw [hmany.isUrl_eq_false hscheme hrest] at hurl
  cases hurl

end ProxyPolicy.Net.Url
