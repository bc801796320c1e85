import ProxyPolicy.Net.Address
import ProxyPolicy.Proofs.Text.Lowercase
import ProxyPolicy.Proofs.Text.Parts

/-!
# Address literals

An address is written in hexadecimal digits, colons and dots (`isHexDigit_of_isAddress`), and an
IPv4 literal in decimal digits and dots. So a literal with a port is no literal itself, whatever the
port is: one in brackets because of the brackets (`isAddress_of_bracket`), and an IPv4 literal
because an IPv6 literal has more than one colon (`isAddress_with_port`).

Whether a text is an address does not depend on the case of letters (`isAddress_map_toLower`): the
change keeps colons and dots, and keeps hexadecimal digits such.
-/

namespace ProxyPolicy.Net

open ProxyPolicy.Text

/-! ## The characters of a literal -/

/-- The codes of hexadecimal digits. -/
theorem isHexDigit_iff {c : Char} :
    isHexDigit c = true ↔
      (48 ≤ c.toNat ∧ c.toNat ≤ 57) ∨ (97 ≤ c.toNat ∧ c.toNat ≤ 102) ∨
        (65 ≤ c.toNat ∧ c.toNat ≤ 70) := by
  have hle (a b : Char) : a ≤ b ↔ a.toNat ≤ b.toNat := UInt32.le_iff_toNat_le
  unfold isHexDigit hexValue?
  simp only [hle]
  split_ifs with hdecimal hlower hupper
  · exact iff_of_true rfl (.inl hdecimal)
  · exact iff_of_true rfl (.inr (.inl hlower))
  · exact iff_of_true rfl (.inr (.inr hupper))
  · refine iff_of_false Bool.false_ne_true ?_
    rintro (h | h | h)
    · exact hdecimal h
    · exact hlower h
    · exact hupper h

/-- Decimal digits are hexadecimal digits. -/
theorem isHexDigit_of_isDigit {c : Char} (h : c.isDigit = true) : isHexDigit c = true :=
  isHexDigit_iff.mpr (.inl (Char.isDigit_iff_toNat.mp h))

/-- An IPv4 literal is written in decimal digits and dots. -/
theorem isDigit_of_isIPv4 {s : List Char} (h : isIPv4 s = true) {c : Char} (hc : c ∈ s) :
    c.isDigit = true ∨ c = '.' := by
  unfold isIPv4 at h
  obtain ⟨-, hparts⟩ := Bool.and_eq_true_iff.mp h
  rcases eq_or_exists_mem_splitOn (x := '.') hc with hdot | ⟨part, hpart, hmem⟩
  · exact .inr hdot
  · have hoctet := List.all_eq_true.mp hparts part hpart
    simp only [isOctet, Bool.and_eq_true] at hoctet
    exact .inl (List.all_eq_true.mp hoctet.1.1.1.1 c hmem)

/-- A text is what is before its first gap, the gap and what is after it. -/
theorem eq_of_cutAtGap? {cs before after : List Char} (h : cutAtGap? cs = some (before, after)) :
    cs = before ++ ':' :: ':' :: after := by
  fun_induction cutAtGap? cs generalizing before with
  | case1 rest =>
    obtain ⟨rfl, rfl⟩ := Prod.mk.inj (Option.some.inj h)
    rfl
  | case2 c rest _ ih =>
    obtain ⟨⟨before', after'⟩, hcut, heq⟩ := Option.map_eq_some_iff.mp h
    obtain ⟨rfl, rfl⟩ := Prod.mk.inj heq
    rw [ih hcut, List.cons_append]
  | case3 => cases h

/-- The parts of an IPv6 literal are groups, or one of them is an IPv4 literal. -/
theorem isGroup_or_isIPv4_of_groupCount? {parts : List (List Char)} {n : Nat}
    (h : groupCount? parts = some n) {part : List Char} (hpart : part ∈ parts) :
    isGroup part = true ∨ isIPv4 part = true := by
  fun_induction groupCount? parts generalizing n with
  | case1 => cases hpart
  | case2 single hgroup =>
    obtain rfl := List.mem_singleton.mp hpart
    exact .inl hgroup
  | case3 single _ hoctets =>
    obtain rfl := List.mem_singleton.mp hpart
    exact .inr hoctets
  | case4 => cases h
  | case5 first rest _ hgroup ih =>
    obtain ⟨m, hcount, -⟩ := Option.map_eq_some_iff.mp h
    rcases List.mem_cons.mp hpart with rfl | hrest
    · exact .inl hgroup
    · exact ih hcount hrest
  | case6 => cases h

/-- A part of an IPv6 literal is written in hexadecimal digits and dots. -/
theorem isHexDigit_of_mem_part {part : List Char} (h : isGroup part = true ∨ isIPv4 part = true)
    {c : Char} (hc : c ∈ part) : isHexDigit c = true ∨ c = '.' := by
  rcases h with hgroup | hoctets
  · simp only [isGroup, Bool.and_eq_true] at hgroup
    exact .inl (List.all_eq_true.mp hgroup.1.1 c hc)
  · exact (isDigit_of_isIPv4 hoctets hc).imp_left isHexDigit_of_isDigit

/-- What is in a text is a colon or is in a part of the text. -/
theorem eq_or_exists_mem_groupParts {cs : List Char} {c : Char} (hc : c ∈ cs) :
    c = ':' ∨ ∃ part ∈ groupParts cs, c ∈ part := by
  unfold groupParts
  rw [if_neg (List.ne_nil_of_mem hc)]
  exact eq_or_exists_mem_splitOn hc

/-- A text whose parts are counted is written in hexadecimal digits, colons and dots. -/
theorem isHexDigit_of_groupCount? {cs : List Char} {n : Nat}
    (h : groupCount? (groupParts cs) = some n) {c : Char} (hc : c ∈ cs) :
    isHexDigit c = true ∨ c = ':' ∨ c = '.' := by
  rcases eq_or_exists_mem_groupParts hc with hcolon | ⟨part, hpart, hmem⟩
  · exact .inr (.inl hcolon)
  · have hkind := isGroup_or_isIPv4_of_groupCount? h hpart
    exact (isHexDigit_of_mem_part hkind hmem).imp_right .inr

/-- An IPv6 literal is written in hexadecimal digits, colons and dots. -/
theorem isHexDigit_of_isIPv6 {s : List Char} (h : isIPv6 s = true) {c : Char} (hc : c ∈ s) :
    isHexDigit c = true ∨ c = ':' ∨ c = '.' := by
  unfold isIPv6 at h
  cases hcut : cutAtGap? s with
  | none =>
    rw [hcut] at h
    exact isHexDigit_of_groupCount? (beq_iff_eq.mp h) hc
  | some cut =>
    -- The character is before the gap, in it or behind it.
    obtain ⟨before, after⟩ := cut
    rw [hcut] at h
    obtain ⟨hhead, htail⟩ := Bool.and_eq_true_iff.mp h
    rw [eq_of_cutAtGap? hcut] at hc
    rcases List.mem_append.mp hc with hbefore | hrest
    · rcases eq_or_exists_mem_groupParts hbefore with hcolon | ⟨part, hpart, hmem⟩
      · exact .inr (.inl hcolon)
      · have hgroup := List.all_eq_true.mp hhead part hpart
        exact (isHexDigit_of_mem_part (.inl hgroup) hmem).imp_right .inr
    · rcases List.mem_cons.mp hrest with hcolon | hrest
      · exact .inr (.inl hcolon)
      rcases List.mem_cons.mp hrest with hcolon | hafter
      · exact .inr (.inl hcolon)
      cases hcount : groupCount? (groupParts after) with
      | none => simp [hcount] at htail
      | some n => exact isHexDigit_of_groupCount? hcount hafter

/-- An address is written in hexadecimal digits, colons and dots. -/
theorem isHexDigit_of_isAddress {s : List Char} (h : isAddress s = true) {c : Char} (hc : c ∈ s) :
    isHexDigit c = true ∨ c = ':' ∨ c = '.' := by
  rcases Bool.or_eq_true_iff.mp h with h4 | h6
  · exact (isDigit_of_isIPv4 h4 hc).imp isHexDigit_of_isDigit .inr
  · exact isHexDigit_of_isIPv6 h6 hc

/-- A character of an address is one of ASCII. -/
theorem toNat_lt_of_isAddress {s : List Char} (h : isAddress s = true) {c : Char} (hc : c ∈ s) :
    c.toNat < 128 := by
  rcases isHexDigit_of_isAddress h hc with hhex | rfl | rfl
  · have hcode := isHexDigit_iff.mp hhex
    omega
  · decide
  · decide

/-! ## Ports -/

/-- A text that starts with a bracket is no address. -/
theorem isAddress_of_bracket (cs : List Char) : isAddress ('[' :: cs) = false := by
  rw [Bool.eq_false_iff]
  intro h
  rcases isHexDigit_of_isAddress h List.mem_cons_self with hhex | hcolon | hdot
  · exact absurd hhex (by decide)
  · cases hcolon
  · cases hdot

/-- An IPv4 literal holds no colon. -/
theorem colon_not_mem_of_isIPv4 {s : List Char} (h : isIPv4 s = true) : ':' ∉ s := by
  intro hc
  rcases isDigit_of_isIPv4 h hc with hdigit | hdot
  · exact absurd hdigit (by decide)
  · cases hdot

/-- An IPv6 literal holds a colon: without one there is one part, and it writes two groups at
most. -/
theorem colon_mem_of_isIPv6 {s : List Char} (h : isIPv6 s = true) : ':' ∈ s := by
  by_contra hcolon
  have hcut : cutAtGap? s = none := by
    rw [Option.eq_none_iff_forall_ne_some]
    rintro ⟨before, after⟩ hcut
    rw [eq_of_cutAtGap? hcut] at hcolon
    exact hcolon (List.mem_append_right before List.mem_cons_self)
  unfold isIPv6 groupParts at h
  rw [hcut, List.splitOn_eq_singleton hcolon] at h
  by_cases hnil : s = []
  · rw [if_pos hnil] at h
    exact absurd h (by decide)
  · rw [if_neg hnil, groupCount?] at h
    split_ifs at h <;> exact absurd h (by decide)

/-- A text with one colon has no gap. -/
theorem cutAtGap?_of_one_colon {xs ys : List Char} (hxs : ':' ∉ xs) (hys : ':' ∉ ys) :
    cutAtGap? (xs ++ ':' :: ys) = none := by
  rw [Option.eq_none_iff_forall_ne_some]
  rintro ⟨before, after⟩ hcut
  have hcount := congrArg (List.count ':') (eq_of_cutAtGap? hcut)
  simp only [List.count_append, List.count_cons_self, List.count_eq_zero.mpr hxs,
    List.count_eq_zero.mpr hys] at hcount
  omega

/-- A text with one colon is no IPv6 literal: its two parts write three groups at most. -/
theorem isIPv6_of_one_colon {xs ys : List Char} (hxs : ':' ∉ xs) (hys : ':' ∉ ys) :
    isIPv6 (xs ++ ':' :: ys) = false := by
  have hparts : groupParts (xs ++ ':' :: ys) = [xs, ys] := by
    unfold groupParts
    rw [if_neg (by simp), List.splitOn_append_cons_self, List.splitOn_eq_singleton hxs,
      List.splitOn_eq_singleton hys, List.singleton_append]
  unfold isIPv6
  rw [cutAtGap?_of_one_colon hxs hys, hparts]
  simp only [groupCount?]
  split_ifs <;> rfl

/-- An IPv4 literal with a port is no address. -/
theorem isAddress_with_port {s p : List Char} (h : isIPv4 s = true) (hp : ':' ∉ p) :
    isAddress (s ++ ':' :: p) = false := by
  have h4 : isIPv4 (s ++ ':' :: p) = false := by
    rw [Bool.eq_false_iff]
    exact fun h4 => colon_not_mem_of_isIPv4 h4 (List.mem_append_right s List.mem_cons_self)
  rw [isAddress, h4, isIPv6_of_one_colon (colon_not_mem_of_isIPv4 h) hp, Bool.false_or]

/-! ## Lower case -/

/-- Whether a character is a decimal digit does not depend on case. -/
theorem isDigit_toLower (c : Char) : c.toLower.isDigit = c.isDigit := by
  rw [Bool.eq_iff_iff, Char.isDigit_iff_toNat, Char.isDigit_iff_toNat, toNat_toLower]
  have hzero : ('0').toNat = 48 := rfl
  have hnine : ('9').toNat = 57 := rfl
  split_ifs <;> omega

/-- Whether a character is a hexadecimal digit does not depend on case. -/
theorem isHexDigit_toLower (c : Char) : isHexDigit c.toLower = isHexDigit c := by
  rw [Bool.eq_iff_iff, isHexDigit_iff, isHexDigit_iff, toNat_toLower]
  split_ifs <;> omega

/-- Whether a text is an octet does not depend on case. -/
theorem isOctet_map_toLower (cs : List Char) : isOctet (cs.map Char.toLower) = isOctet cs := by
  have hdigits : (cs.map Char.toLower).all Char.isDigit = cs.all Char.isDigit := by
    rw [List.all_map]
    exact congrArg cs.all (funext isDigit_toLower)
  cases hall : cs.all Char.isDigit with
  | false =>
    rw [hall] at hdigits
    simp only [isOctet, hdigits, hall, Bool.false_and]
  | true =>
    -- Digits have no case.
    have hsame : cs.map Char.toLower = cs := by
      refine (List.map_congr_left fun c hc => ?_).trans (List.map_id cs)
      have hdigit := Char.isDigit_iff_toNat.mp (List.all_eq_true.mp hall c hc)
      have hnine : ('9').toNat = 57 := rfl
      refine Char.toNat_inj.mp ?_
      rw [toNat_toLower, if_neg (by omega)]
      rfl
    rw [hsame]

/-- Whether a text is an IPv4 literal does not depend on case. -/
theorem isIPv4_map_toLower (cs : List Char) : isIPv4 (cs.map Char.toLower) = isIPv4 cs := by
  have hparts : (cs.map Char.toLower).splitOn '.' = (cs.splitOn '.').map (·.map Char.toLower) :=
    splitOn_map (fun _ => toLower_eq_iff_of_not_isAlpha (by decide)) cs
  have hoctet : (isOctet ∘ fun part : List Char => part.map Char.toLower) = isOctet :=
    funext isOctet_map_toLower
  simp only [isIPv4, hparts, List.length_map, List.all_map, hoctet]

/-- Whether a text is a group does not depend on case. -/
theorem isGroup_map_toLower (cs : List Char) : isGroup (cs.map Char.toLower) = isGroup cs := by
  have hhex : isHexDigit ∘ Char.toLower = isHexDigit := funext isHexDigit_toLower
  simp only [isGroup, List.all_map, hhex, List.length_map]

/-- The number of groups that parts write does not depend on case. -/
theorem groupCount?_map_toLower (parts : List (List Char)) :
    groupCount? (parts.map (·.map Char.toLower)) = groupCount? parts := by
  fun_induction groupCount? parts with
  | case1 => rfl
  | case2 part hgroup => simp [groupCount?, isGroup_map_toLower, hgroup]
  | case3 part hgroup hoctets =>
    simp [groupCount?, isGroup_map_toLower, isIPv4_map_toLower, hgroup, hoctets]
  | case4 part hgroup hoctets =>
    simp [groupCount?, isGroup_map_toLower, isIPv4_map_toLower, hgroup, hoctets]
  | case5 part parts hne hgroup ih =>
    rw [List.map_cons, groupCount?, isGroup_map_toLower, if_pos hgroup, ih]
    simpa using hne
  | case6 part parts hne hgroup =>
    rw [List.map_cons, groupCount?, isGroup_map_toLower, if_neg hgroup]
    simpa using hne

/-- The parts of a text in lower case are those of the text in lower case. -/
theorem groupParts_map_toLower (cs : List Char) :
    groupParts (cs.map Char.toLower) = (groupParts cs).map (·.map Char.toLower) := by
  unfold groupParts
  rw [splitOn_map (fun _ => toLower_eq_iff_of_not_isAlpha (by decide)) cs]
  by_cases h : cs = []
  · rw [if_pos h, if_pos (by rw [h, List.map_nil]), List.map_nil]
  · rw [if_neg h, if_neg (by simpa using h)]

/-- The first gap of a text in lower case is where it is in the text. -/
theorem cutAtGap?_map_toLower (cs : List Char) :
    cutAtGap? (cs.map Char.toLower) =
      (cutAtGap? cs).map (Prod.map (·.map Char.toLower) (·.map Char.toLower)) := by
  have hcolon (c : Char) : c.toLower = ':' ↔ c = ':' :=
    toLower_eq_iff_of_not_isAlpha (by decide)
  fun_induction cutAtGap? cs with
  | case1 rest => rfl
  | case2 c rest hgap ih =>
    rw [List.map_cons, cutAtGap?, ih]
    · cases cutAtGap? rest <;> rfl
    · -- A gap in lower case is a gap.
      intro rest' hc hrest
      obtain ⟨d, ds, rfl, hd, -⟩ := List.map_eq_cons_iff.mp hrest
      exact hgap ds ((hcolon c).mp hc) (by rw [(hcolon d).mp hd])
  | case3 => rfl

/-- Whether a text is an IPv6 literal does not depend on case. -/
theorem isIPv6_map_toLower (cs : List Char) : isIPv6 (cs.map Char.toLower) = isIPv6 cs := by
  have hgroup : (isGroup ∘ fun part : List Char => part.map Char.toLower) = isGroup :=
    funext isGroup_map_toLower
  unfold isIPv6
  rw [cutAtGap?_map_toLower]
  cases cutAtGap? cs with
  | none => simp only [Option.map_none, groupParts_map_toLower, groupCount?_map_toLower]
  | some cut =>
    simp only [Option.map_some, Prod.map, groupParts_map_toLower, groupCount?_map_toLower,
      List.all_map, hgroup, List.length_map]

/-- Whether a text is an address does not depend on case. -/
theorem isAddress_map_toLower (cs : List Char) :
    isAddress (cs.map Char.toLower) = isAddress cs := by
  rw [isAddress, isIPv4_map_toLower, isIPv6_map_toLower, isAddress]

/-- An address in lower case is an address. -/
theorem isAddress_lowercase {s : List Char} (h : isAddress s = true) :
    isAddress (lowercase s) = true := by
  rw [lowercase_of_ascii fun c => toNat_lt_of_isAddress h, isAddress_map_toLower, h]

end ProxyPolicy.Net
