import ProxyPolicy.Net.SuffixRules
import ProxyPolicy.Proofs.AccessLog.Grammar
import ProxyPolicy.Proofs.Net.HostPort
import ProxyPolicy.Proofs.Text.Lowercase

/-!
# Spellings of a target

A request names its host in many ways: as a tunnel or in a URL, with or without a port, between
brackets, after user information, and in letters of either case. A `HostText` is one way to write a
host, and a `UrlText` one way to write a URL around it. Their parts are apart from the delimiters
that end them, so that each search of the reader finds the delimiter that was meant
(`HostText.splitHostPort?_text`, `UrlText.hostOfAuthority_text`, `UrlText.ofUrl_text`), and the host
and its domain are the same for all spellings (`host_of_names`).
-/

namespace ProxyPolicy.AccessLog

open ProxyPolicy.Net ProxyPolicy.Text

/-- The characters that separate the parts of a target. -/
def delimiters : List Char := [':', '[', ']', '/', '@', '?', '#']

/-! ## Hosts -/

/-- A host as a target writes it. Between brackets it may hold colons. -/
structure HostText where
  /-- The host. -/
  host : List Char
  /-- Whether it is written between brackets. -/
  bracketed : Bool
  /-- The port. -/
  port : Option (List Char)
  /-- No delimiter is in the host, except colons between brackets. -/
  host_free : ∀ c ∈ host, c ∈ delimiters → bracketed = true ∧ c = ':'
  /-- No delimiter is in the port. -/
  port_free : ∀ p ∈ port, ∀ c ∈ p, c ∉ delimiters

namespace HostText

variable (x : HostText)

/-- What opens a host. -/
def opening : List Char := if x.bracketed then ['['] else []

/-- What closes a host. -/
def closing : List Char := if x.bracketed then [']'] else []

/-- The port with its colon. -/
def portText : List Char := x.port.elim [] (':' :: ·)

/-- The text of a host with its brackets and its port. -/
def text : List Char := x.opening ++ (x.host ++ (x.closing ++ x.portText))

/-- Whether the target of a tunnel may be written so. A host between brackets needs a port. -/
def IsTunnel : Prop := x.bracketed = true → x.port.isSome = true

variable {x}

/-- A delimiter other than the colon is not in a host. -/
theorem ne_of_mem_host {c d : Char} (hc : c ∈ x.host) (hd : d ∈ delimiters) (hcolon : d ≠ ':') :
    c ≠ d := by
  rintro rfl
  exact hcolon (x.host_free c hc hd).2

/-- A text holds its host, its port, brackets and a colon. -/
theorem mem_text {c : Char} (hc : c ∈ x.text) :
    c ∈ x.host ∨ (∃ p ∈ x.port, c ∈ p) ∨ c ∈ [':', '[', ']'] := by
  unfold text opening closing portText at hc
  rcases List.mem_append.mp hc with hopening | hc
  · have hbracket : c = '[' := by split at hopening <;> simp_all
    simp [hbracket]
  rcases List.mem_append.mp hc with hhost | hc
  · exact .inl hhost
  rcases List.mem_append.mp hc with hclosing | hport
  · have hbracket : c = ']' := by split at hclosing <;> simp_all
    simp [hbracket]
  cases h : x.port with
  | none =>
    rw [h] at hport
    cases hport
  | some p =>
    rw [h] at hport
    rcases List.mem_cons.mp hport with rfl | hmem
    · exact .inr (.inr List.mem_cons_self)
    · exact .inr (.inl ⟨p, rfl, hmem⟩)

/-- No delimiter of the other parts of a target is in the text of a host. -/
theorem not_mem_text {d : Char} (hd : d ∈ ['/', '@', '?', '#']) : d ∉ x.text := by
  have hdelimiter : d ∈ delimiters := List.mem_append_right [':', '[', ']'] hd
  have hapart : ∀ c ∈ [':', '[', ']'], c ∉ ['/', '@', '?', '#'] := by simp
  intro h
  rcases mem_text h with hhost | ⟨p, hport, hp⟩ | hbracket
  · refine hapart d ?_ hd
    rw [(x.host_free d hhost hdelimiter).2]
    exact List.mem_cons_self
  · exact x.port_free p hport d hp hdelimiter
  · exact hapart d hbracket hd

end HostText

/-! ## Host and port -/

/-- A search for a character stops where the character is. -/
theorem stops_bne_cons (d : Char) (cs : List Char) : Stops (· != d) (d :: cs) := by
  intro c hc
  obtain rfl := Option.some.inj hc
  exact bne_self_eq_false d

/-- A search for another class stops at once in a text that has none of it. -/
theorem stops_of_forall {p : Char → Bool} {cs : List Char} (h : ∀ c ∈ cs, p c = false) :
    Stops p cs := fun c hc => h c (List.mem_of_mem_head? hc)

/-- No bracket and no colon is in a text without delimiters. -/
theorem any_isHostDelimiter_of_free {cs : List Char} (h : ∀ c ∈ cs, c ∉ delimiters) :
    cs.any isHostDelimiter = false := by
  rw [List.any_eq_false]
  intro c hc hdelimiter
  refine h c hc ?_
  simp only [isHostDelimiter, Bool.or_eq_true, beq_iff_eq] at hdelimiter
  rcases hdelimiter with (rfl | rfl) | rfl <;> decide

/-- A host between brackets is split from its port, if it has one. -/
theorem splitHostPort?_bracketed {host : List Char} {port : Option (List Char)} (hhost : ']' ∉ host)
    (hport : ∀ p ∈ port, p.any isHostDelimiter = false) :
    splitHostPort? ('[' :: (host ++ ']' :: port.elim [] (':' :: ·))) =
      port.map fun p => (host, p) := by
  cases port with
  | none => exact splitHostPort?_eq_none_iff.mpr (.noPort hhost (by simp))
  | some p =>
    have hp := any_isHostDelimiter_eq_false_iff.mp (hport p rfl)
    exact splitHostPort?_eq_some_iff.mpr (.bracketed hhost hp)

/-- A host without brackets and colons is split from its port, if it has one. -/
theorem splitHostPort?_plain {host : List Char} {port : Option (List Char)}
    (hhost : host.any isHostDelimiter = false) (hport : ∀ p ∈ port, p.any isHostDelimiter = false) :
    splitHostPort? (host ++ port.elim [] (':' :: ·)) = port.map fun p => (host, p) := by
  have hfree := any_isHostDelimiter_eq_false_iff.mp hhost
  cases port with
  | none =>
    have hhead : host.head? ≠ some '[' := fun h => hfree.2.1 (List.mem_of_mem_head? h)
    rw [Option.elim_none, List.append_nil]
    exact splitHostPort?_eq_none_iff.mpr (.noColon hhead hfree.1)
  | some p =>
    have hp := any_isHostDelimiter_eq_false_iff.mp (hport p rfl)
    exact splitHostPort?_eq_some_iff.mpr (.plain hfree hp)

namespace HostText

variable (x : HostText)

/-- The text of a host is split into the host and the port, if it has one. -/
theorem splitHostPort?_text : splitHostPort? x.text = x.port.map fun p => (x.host, p) := by
  have hport : ∀ p ∈ x.port, p.any isHostDelimiter = false := fun p hp =>
    any_isHostDelimiter_of_free (x.port_free p hp)
  unfold text opening closing portText
  cases hbracketed : x.bracketed with
  | true =>
    have hclosing : ']' ∉ x.host := fun h => ne_of_mem_host h (by simp [delimiters]) (by decide) rfl
    exact splitHostPort?_bracketed hclosing hport
  | false =>
    have hfree : ∀ c ∈ x.host, c ∉ delimiters := by
      intro c hc hd
      have hcolon := (x.host_free c hc hd).1
      rw [hbracketed] at hcolon
      cases hcolon
    exact splitHostPort?_plain (any_isHostDelimiter_of_free hfree) hport

/-- The host of a tunnel is read off its text. -/
theorem ofHost_text (h : x.IsTunnel) : Target.ofHost x.text = ⟨lowercase x.host, []⟩ := by
  unfold Target.ofHost
  rw [splitHostPort?_text]
  cases hport : x.port with
  | some p => rfl
  | none =>
    -- Without a port there are no brackets, and the text is the host.
    have hbracketed : x.bracketed = false := by
      rw [Bool.eq_false_iff]
      intro htrue
      have hsome := h htrue
      rw [hport] at hsome
      cases hsome
    have htext : x.text = x.host := by
      simp [text, opening, closing, portText, hbracketed, hport]
    simp only [Option.map_none, htext]

/-- Without a port, the host is what is left of its text when the brackets are taken off. -/
theorem strip_text (hport : x.port = none) :
    ((x.text.dropWhile (· == '[')).reverse.dropWhile (· == ']')).reverse = x.host := by
  have htext : x.text = x.opening ++ (x.host ++ x.closing) := by
    simp [text, portText, hport]
  have hopening : ∀ c ∈ x.opening, (c == '[') = true := by
    unfold opening
    split <;> simp
  have hclosing : ∀ c ∈ x.closing.reverse, (c == ']') = true := by
    unfold closing
    split <;> simp
  have hrest : ∀ c ∈ x.host ++ x.closing, (c == '[') = false := by
    intro c hc
    rw [beq_eq_false_iff_ne]
    rcases List.mem_append.mp hc with hhost | hc
    · exact ne_of_mem_host hhost (by simp [delimiters]) (by decide)
    · have hc := eq_of_beq (hclosing c (List.mem_reverse.mpr hc))
      rw [hc]
      decide
  have hhost : ∀ c ∈ x.host.reverse, (c == ']') = false := by
    intro c hc
    rw [beq_eq_false_iff_ne]
    exact ne_of_mem_host (List.mem_reverse.mp hc) (by simp [delimiters]) (by decide)
  rw [htext, dropWhile_append_of_stops hopening (stops_of_forall hrest), List.reverse_append,
    dropWhile_append_of_stops hclosing (stops_of_forall hhost), List.reverse_reverse]

end HostText

/-! ## URLs -/

/-- A URL with an authority, as a target writes it. -/
structure UrlText extends HostText where
  /-- The scheme. -/
  scheme : List Char
  /-- The user information. -/
  user : Option (List Char)
  /-- The path. -/
  path : List Char
  /-- The query. -/
  query : Option (List Char)
  /-- The fragment. -/
  fragment : Option (List Char)
  /-- No delimiter that ends a scheme is in the scheme. -/
  scheme_free : ∀ c ∈ scheme, c ∉ [':', '/', '?', '#']
  /-- No delimiter that ends an authority is in the user information. -/
  user_free : ∀ u ∈ user, ∀ c ∈ u, c ∉ ['/', '?', '#']
  /-- A path starts with a slash, or is empty. -/
  path_start : ∀ c ∈ path.head?, c = '/'
  /-- No delimiter that ends a path is in the path. -/
  path_free : ∀ c ∈ path, c ∉ ['?', '#']

namespace UrlText

variable (u : UrlText)

/-- The user information with its sign. -/
def userText : List Char := u.user.elim [] (· ++ ['@'])

/-- The user information and the host. -/
def authority : List Char := u.userText ++ u.toHostText.text

/-- The query and the fragment with their signs. -/
def tail : List Char := u.query.elim [] ('?' :: ·) ++ u.fragment.elim [] ('#' :: ·)

/-- The text of a URL. -/
def text : List Char :=
  u.scheme ++ ':' :: ('/' :: '/' :: (u.authority ++ u.path) ++ u.tail)

/-- No delimiter after an authority is in the authority. -/
theorem not_mem_authority {d : Char} (hd : d ∈ ['/', '?', '#']) : d ∉ u.authority := by
  have hat : '@' ∉ ['/', '?', '#'] := by decide
  have hhost : d ∈ ['/', '@', '?', '#'] := by
    simp only [List.mem_cons] at hd ⊢
    tauto
  intro h
  rcases List.mem_append.mp h with huser | htext
  · unfold userText at huser
    cases hu : u.user with
    | none =>
      rw [hu] at huser
      cases huser
    | some name =>
      rw [hu] at huser
      rcases List.mem_append.mp huser with hname | hsign
      · exact u.user_free name hu d hname hd
      · rw [List.mem_singleton.mp hsign] at hd
        exact hat hd
  · exact HostText.not_mem_text hhost htext

/-- The host of an authority is what follows the last sign, without brackets and port. -/
theorem hostOfAuthority_text : hostOfAuthority u.authority = u.host := by
  have hfree : ∀ c ∈ u.toHostText.text.reverse, (c != '@') = true := by
    refine forall_ne_of_not_mem ?_
    rw [List.mem_reverse]
    exact HostText.not_mem_text (by simp)
  have hstops : Stops (· != '@') u.userText.reverse := by
    unfold userText
    cases u.user with
    | none => exact stops_of_forall (fun c hc => absurd hc List.not_mem_nil)
    | some name =>
      rw [Option.elim_some, List.reverse_append]
      exact stops_bne_cons '@' name.reverse
  have hlast : (u.authority.reverse.takeWhile (· != '@')).reverse = u.toHostText.text := by
    unfold authority
    rw [List.reverse_append, takeWhile_append_of_stops hfree hstops, List.reverse_reverse]
  unfold hostOfAuthority
  simp only [hlast, HostText.splitHostPort?_text]
  cases hport : u.port with
  | none => exact HostText.strip_text _ hport
  | some p => rfl

/-- What follows a path starts with the sign of a query or a fragment. -/
theorem stops_tail : Stops (fun c => c != '?' && c != '#') u.tail := by
  unfold tail
  intro c hc
  cases hquery : u.query with
  | some q =>
    rw [hquery] at hc
    obtain rfl := Option.some.inj hc
    rfl
  | none =>
    cases hfragment : u.fragment with
    | some f =>
      rw [hquery, hfragment] at hc
      obtain rfl := Option.some.inj hc
      rfl
    | none =>
      rw [hquery, hfragment] at hc
      cases hc

/-- The target of a URL is read off its text. -/
theorem ofUrl_text : Target.ofUrl u.text = ⟨lowercase u.host, Percent.decode u.path⟩ := by
  -- The first colon ends the scheme.
  have hscheme : ':' ∉ u.scheme := fun h => u.scheme_free ':' h (by simp)
  have hrest : u.text.dropWhile (· != ':') =
      ':' :: ('/' :: '/' :: (u.authority ++ u.path) ++ u.tail) :=
    dropWhile_append_of_stops (forall_ne_of_not_mem hscheme) (stops_bne_cons ':' _)
  -- The first sign of a query or a fragment ends the path.
  have hpath : ∀ c ∈ '/' :: '/' :: (u.authority ++ u.path), (c != '?' && c != '#') = true := by
    have hfree (d : Char) (hd : d ∈ ['?', '#']) : d ∉ '/' :: '/' :: (u.authority ++ u.path) := by
      simp only [List.mem_cons, List.mem_append, not_or]
      have hslash : d ≠ '/' := by
        rintro rfl
        simp at hd
      exact ⟨hslash, hslash, u.not_mem_authority (List.mem_cons_of_mem _ hd),
        fun h => u.path_free d h hd⟩
    intro c hc
    rw [Bool.and_eq_true]
    exact ⟨forall_ne_of_not_mem (hfree '?' (by simp)) c hc,
      forall_ne_of_not_mem (hfree '#' (by simp)) c hc⟩
  have hhierarchy :
      ((u.text.dropWhile (· != ':')).drop 1).takeWhile (fun c => c != '?' && c != '#') =
        '/' :: '/' :: (u.authority ++ u.path) := by
    rw [hrest, List.drop_one, List.tail_cons, takeWhile_append_of_stops hpath u.stops_tail]
  -- The first slash after the authority starts the path.
  have hauthority := forall_ne_of_not_mem (u.not_mem_authority (d := '/') (by simp))
  have hstart : Stops (· != '/') u.path := by
    intro c hc
    rw [u.path_start c hc]
    rfl
  unfold Target.ofUrl
  simp only [hhierarchy, takeWhile_append_of_stops hauthority hstart,
    dropWhile_append_of_stops hauthority hstart, hostOfAuthority_text]

end UrlText

/-! ## Targets -/

/-- A target names a host: as the target of a tunnel, or in a text that is a URL. -/
inductive Names : List Char → List Char → Prop where
  /-- A tunnel to a host. -/
  | tunnel (x : HostText) (h : x.IsTunnel) : Names x.text x.host
  /-- A URL with the host. -/
  | url (u : UrlText) (h : Url.isUrl u.text = true) : Names u.text u.host

/-- A tunnel has the host in lower case, and no path. -/
theorem Target.ofText_tunnel {x : HostText} (h : x.IsTunnel) :
    Target.ofText x.text = ⟨lowercase x.host, []⟩ := by
  have hslash : x.text.contains '/' = false := by
    rw [List.contains_eq_mem, decide_eq_false_iff_not]
    exact HostText.not_mem_text (by simp)
  unfold Target.ofText
  rw [hslash, Bool.false_and, if_neg Bool.false_ne_true, HostText.ofHost_text x h]

/-- A URL has the host in lower case, and its path decoded. -/
theorem Target.ofText_url {u : UrlText} (h : Url.isUrl u.text = true) :
    Target.ofText u.text = ⟨lowercase u.host, Percent.decode u.path⟩ := by
  have hslash : u.text.contains '/' = true := by
    rw [List.contains_eq_mem, decide_eq_true_eq]
    simp [UrlText.text]
  unfold Target.ofText
  rw [hslash, h, Bool.true_and, if_pos rfl, UrlText.ofUrl_text]

/-- The host of a target is the host that it names, in lower case. -/
theorem host_of_names {target host : List Char} (h : Names target host) :
    (Target.ofText target).host = lowercase host := by
  cases h with
  | tunnel x h => rw [Target.ofText_tunnel h]
  | url u h => rw [Target.ofText_url h]

/-- The host of an entry and its domain are those of the target that was logged. -/
theorem host_of_parse {rules : List SuffixRule} {line : String} {e : Entry}
    (h : parse rules line = .ok (some e)) :
    e.host = String.ofList (Target.ofText e.url.toList).host ∧
      e.domain = String.ofList (canonicalBy rules (Target.ofText e.url.toList).host) := by
  obtain ⟨_, -, -, hentry⟩ := (parse_eq_ok_some_iff line e).mp h
  rw [hentry]
  simp [Entry.ofFields]

end ProxyPolicy.AccessLog
