import ProxyPolicy.Proofs.Policy.Views
import ProxyPolicy.Proofs.Text.Parts

/-!
# The shape of identifiers

A text is an identifier exactly when it has thirty-six characters, a hyphen at four places and a
digit at all others (`isUuid_iff`). The digits are the letters from `a` to `f` and the decimal
digits, but those of all scripts: a text that is an identifier is written in hexadecimal digits
exactly when all its characters are of ASCII (`hasShape_isLowerHexDigit_iff`).

A cell of a table is read as an identifier under the same condition as a text that a caller gives,
so that digits of other scripts also come back from the tables (`Id.parse_foreign_digits`).
-/

namespace ProxyPolicy.Policy

open ProxyPolicy.Text

/-! ## Shapes -/

/-- The places of the hyphens in an identifier, counted from zero. -/
def hyphenPlaces : List Nat := [8, 13, 18, 23]

/-- Whether a text has the shape of an identifier whose digits are of a class. -/
structure HasShape (isDigit : Char → Bool) (cs : List Char) : Prop where
  /-- There are thirty-six characters. -/
  length : cs.length = 36
  /-- Four of them are hyphens. -/
  hyphen : ∀ i ∈ hyphenPlaces, cs[i]? = some '-'
  /-- All others are digits. -/
  digit : ∀ i c, i ∉ hyphenPlaces → cs[i]? = some c → isDigit c = true

/-- The parts between hyphens have the lengths of those of an identifier exactly when the hyphens
are at its places. -/
theorem map_length_splitOn_eq_idPartLengths_iff {cs : List Char} :
    (cs.splitOn '-').map List.length = idPartLengths ↔
      cs.length = 36 ∧ ∀ i, cs[i]? = some '-' ↔ i ∈ hyphenPlaces :=
  map_length_splitOn_iff

/-- The parts hold digits only exactly when the text does, apart from the separators. -/
theorem forall_mem_splitOn_iff {isDigit : Char → Bool} {x : Char} {cs : List Char} :
    (∀ part ∈ cs.splitOn x, ∀ c ∈ part, isDigit c = true) ↔
      ∀ c ∈ cs, c ≠ x → isDigit c = true := by
  constructor
  · intro h c hc hne
    obtain ⟨part, hpart, hmem⟩ := (eq_or_exists_mem_splitOn hc).resolve_left hne
    exact h part hpart c hmem
  · intro h part hpart c hc
    refine h c (mem_of_mem_splitOn hpart hc) ?_
    rintro rfl
    exact not_mem_of_mem_splitOn hpart hc

/-- A text is taken for an identifier exactly when it has the shape of one, with the digits of all
scripts. -/
theorem isUuid_iff {text : String} : isUuid text = true ↔ HasShape isIdDigit text.toList := by
  unfold isUuid
  simp only [Bool.and_eq_true, beq_iff_eq, List.all_eq_true,
    map_length_splitOn_eq_idPartLengths_iff, forall_mem_splitOn_iff]
  generalize text.toList = cs
  constructor
  · rintro ⟨⟨hlength, hhyphens⟩, hdigits⟩
    refine ⟨hlength, fun i hi => (hhyphens i).mpr hi, fun i c hi hc => ?_⟩
    refine hdigits c (List.mem_of_getElem? hc) ?_
    rintro rfl
    exact hi ((hhyphens i).mp hc)
  · rintro ⟨hlength, hhyphen, hdigit⟩
    refine ⟨⟨hlength, fun i => ⟨fun hi => ?_, hhyphen i⟩⟩, fun c hc hne => ?_⟩
    · -- A hyphen elsewhere would be a digit.
      by_contra hplace
      exact absurd (hdigit i '-' hplace hi) (by decide)
    · obtain ⟨i, hi⟩ := List.mem_iff_getElem?.mp hc
      refine hdigit i c (fun hplace => hne ?_) hi
      exact Option.some.inj (hi.symm.trans (hhyphen i hplace))

/-! ## Scripts -/

/-- Whether a character is a hexadecimal digit, in lower case if it is a letter. -/
def isLowerHexDigit (c : Char) : Bool := ('0' ≤ c && c ≤ '9') || ('a' ≤ c && c ≤ 'f')

/-- The decimal digits of ASCII are those from `0` to `9`: the digits of all other scripts have
higher code points. -/
theorem isDecimalDigit_iff_of_lt {c : Char} (h : c.toNat < 128) :
    isDecimalDigit c = true ↔ 0x30 ≤ c.toNat ∧ c.toNat ≤ 0x39 := by
  unfold isDecimalDigit
  simp only [List.any_eq_true, Bool.and_eq_true, decide_eq_true_eq]
  have hzeros : ∀ z ∈ zeroDigits, z = 0x30 ∨ 128 ≤ z := by decide
  constructor
  · rintro ⟨z, hz, hlow, hhigh⟩
    rcases hzeros z hz with rfl | hz <;> omega
  · rintro ⟨hlow, hhigh⟩
    exact ⟨0x30, by decide, hlow, by omega⟩

/-- The hexadecimal digits in lower case are the digits of identifiers that are of ASCII. -/
theorem isLowerHexDigit_iff {c : Char} :
    isLowerHexDigit c = true ↔ isIdDigit c = true ∧ c.toNat < 128 := by
  have hle (a b : Char) : a ≤ b ↔ a.toNat ≤ b.toNat := UInt32.le_iff_toNat_le
  unfold isLowerHexDigit isIdDigit
  simp only [Bool.or_eq_true, Bool.and_eq_true, decide_eq_true_eq, hle]
  change (0x30 ≤ c.toNat ∧ c.toNat ≤ 0x39 ∨ 0x61 ≤ c.toNat ∧ c.toNat ≤ 0x66) ↔
    (isDecimalDigit c = true ∨ 0x61 ≤ c.toNat ∧ c.toNat ≤ 0x66) ∧ c.toNat < 128
  by_cases hascii : c.toNat < 128
  · rw [isDecimalDigit_iff_of_lt hascii, and_iff_left hascii]
  · omega

/-- A text is written in hexadecimal digits as an identifier exactly when it is one and its
characters are of ASCII. -/
theorem hasShape_isLowerHexDigit_iff {cs : List Char} :
    HasShape isLowerHexDigit cs ↔ HasShape isIdDigit cs ∧ ∀ c ∈ cs, c.toNat < 128 := by
  constructor
  · rintro ⟨hlength, hhyphen, hdigit⟩
    refine ⟨⟨hlength, hhyphen, fun i c hi hc => ?_⟩, fun c hc => ?_⟩
    · exact (isLowerHexDigit_iff.mp (hdigit i c hi hc)).1
    · obtain ⟨i, hi⟩ := List.mem_iff_getElem?.mp hc
      by_cases hplace : i ∈ hyphenPlaces
      · obtain rfl : c = '-' := Option.some.inj (hi.symm.trans (hhyphen i hplace))
        decide
      · exact (isLowerHexDigit_iff.mp (hdigit i c hplace hi)).2
  · rintro ⟨⟨hlength, hhyphen, hdigit⟩, hascii⟩
    refine ⟨hlength, hhyphen, fun i c hi hc => ?_⟩
    exact isLowerHexDigit_iff.mpr ⟨hdigit i c hi hc, hascii c (List.mem_of_getElem? hc)⟩

/-! ## Identifiers that are read -/

namespace Tables

/-- The texts in those columns of the tables that are read as identifiers of a kind. -/
def idCells (t : Tables) (kind : Kind) : List String :=
  t.ids kind ++
    match kind with
    | .acl => t.grants.map (·.acl)
    | .source => t.members.map (·.source)
    | .group | .rule => []

/-- Whether reading the tables gives an identifier. -/
inductive Gives (t : Tables) : {kind : Kind} → Id kind → Prop where
  /-- It is that of a group that is listed. -/
  | group {groups : List Group} {group : Group} (hlisted : t.listGroups = .ok groups)
    (hgroup : group ∈ groups) : t.Gives group.id
  /-- It is that of a source that is listed. -/
  | source {sources : List Source} {source : Source} (hlisted : t.listSources = .ok sources)
    (hsource : source ∈ sources) : t.Gives source.id
  /-- It is that of an ACL that is listed. -/
  | acl {acls : List Acl} {acl : Acl} (hlisted : t.listAcls = .ok acls) (hacl : acl ∈ acls) :
    t.Gives acl.id
  /-- It is that of a rule that an ACL lists. -/
  | rule {acl : Id .acl} {rules : List Rule} {rule : Rule} (hlisted : t.aclRules acl = .ok rules)
    (hrule : rule ∈ rules) : t.Gives rule.id
  /-- It is that of an ACL granted to a group. -/
  | grant {group : Id .group} {entries : List (Id .acl × String)} {entry : Id .acl × String}
    (hlisted : t.groupAcls group = .ok entries) (hentry : entry ∈ entries) : t.Gives entry.1
  /-- It is that of a source in a group. -/
  | member {group : Id .group} {entries : List (Id .source × String)}
    {entry : Id .source × String} (hlisted : t.groupSources group = .ok entries)
    (hentry : entry ∈ entries) : t.Gives entry.1

variable {t : Tables}

/-- A row that is read as an entry of an identifier and a comment holds the identifier. -/
theorem mem_cells_of_entries {α : Type} {kind : Kind} {decode : α → Except Error (Id kind × String)}
    {id comment : α → String}
    (hdecode : ∀ r, decode r = do return (← decodeId kind 0 (id r), comment r))
    {order : α → α → Ordering} {rows : List α} {entries : List (Id kind × String)}
    (hlisted : (sortedBy order rows).mapM decode = .ok entries) {entry : Id kind × String}
    (hentry : entry ∈ entries) : entry.1.text ∈ rows.map id := by
  obtain ⟨r, hr, hread⟩ := (mem_listing hlisted).mp hentry
  rw [hdecode, bind_eq_ok_iff] at hread
  obtain ⟨i, hi, heq⟩ := hread
  obtain rfl := Except.ok.inj heq
  exact List.mem_map.mpr ⟨r, hr, (decodeId_eq_ok_iff.mp hi).symm⟩

/-- The row of a listed entity holds its identifier. -/
theorem mem_cells_of_listed {α β : Type} {kind : Kind} {decode : α → Except Error β}
    {id : α → String} {make : α → Id kind → β}
    (hdecode : ∀ r, decode r = do return make r (← decodeId kind 0 (id r)))
    {ident : β → Id kind} (hident : ∀ r i, ident (make r i) = i) {order : α → α → Ordering}
    {rows : List α} {listed : List β} (hlisted : (sortedBy order rows).mapM decode = .ok listed)
    {x : β} (hx : x ∈ listed) : (ident x).text ∈ rows.map id := by
  obtain ⟨r, hr, hread⟩ := (mem_listing hlisted).mp hx
  obtain ⟨i, hi, rfl⟩ := (decode_eq_ok_iff hdecode).mp hread
  rw [hident, hi]
  exact List.mem_map_of_mem hr

/-- An identifier that is read stands in a cell of the tables as it is. -/
theorem Gives.mem_idCells {kind : Kind} {id : Id kind} (h : t.Gives id) :
    id.text ∈ t.idCells kind := by
  unfold idCells
  rw [List.mem_append]
  cases h with
  | group hlisted hgroup =>
    exact .inl (mem_cells_of_listed decode_group (fun _ _ => rfl) hlisted hgroup)
  | source hlisted hsource =>
    exact .inl (mem_cells_of_listed decode_source (fun _ _ => rfl) hlisted hsource)
  | acl hlisted hacl =>
    exact .inl (mem_cells_of_listed decode_acl (fun _ _ => rfl) hlisted hacl)
  | rule hlisted hrule =>
    obtain ⟨-, -, hlisting⟩ := bind_eq_ok_iff.mp hlisted
    obtain ⟨row, hrow, hread⟩ := (mem_listing hlisting).mp hrule
    obtain ⟨l, -, hfound⟩ := List.mem_filterMap.mp hrow
    rw [(RuleRow.decode_eq_ok_iff.mp hread).id]
    exact .inl (List.mem_map_of_mem (List.mem_of_find?_eq_some hfound))
  | grant hlisted hentry =>
    obtain ⟨-, -, hlisting⟩ := bind_eq_ok_iff.mp hlisted
    have hcell := mem_cells_of_entries (fun _ => rfl) hlisting hentry
    exact .inr (List.map_subset _ (List.filter_subset_self _) hcell)
  | member hlisted hentry =>
    obtain ⟨-, -, hlisting⟩ := bind_eq_ok_iff.mp hlisted
    have hcell := mem_cells_of_entries (fun _ => rfl) hlisting hentry
    exact .inr (List.map_subset _ (List.filter_subset_self _) hcell)

end Tables

namespace Id

/-- A text gives an identifier, which then has this text, exactly when it has the shape of one. -/
theorem exists_text_eq_iff {kind : Kind} {text : String} :
    (∃ id : Id kind, id.text = text) ↔ HasShape isIdDigit text.toList := by
  rw [← isUuid_iff]
  constructor
  · rintro ⟨id, rfl⟩
    exact id.isUuid_text
  · intro h
    exact ⟨⟨text, h⟩, rfl⟩

/-- Which texts are identifiers, of whatever kind. A text is parsed as an identifier, which keeps it
as it is, exactly when it has the shape of one with the digits of all scripts, and is refused by
name otherwise; so the texts in hexadecimal digits are those that are parsed and are of ASCII. A
cell of a table is read as an identifier under the same condition, and every identifier that any
reading of any tables gives has the shape and stands in the tables as it is. -/
theorem parse_exact (kind : Kind) (text : String) :
    ((∃ id, parse kind text = .ok id) ↔ HasShape isIdDigit text.toList) ∧
    (∀ id, parse kind text = .ok id → id.text = text) ∧
    (¬HasShape isIdDigit text.toList → parse kind text = .error (.invalidId kind text)) ∧
    (HasShape isLowerHexDigit text.toList ↔
      (∃ id, parse kind text = .ok id) ∧ ∀ c ∈ text.toList, c.toNat < 128) ∧
    (∀ column, (∃ id, decodeId kind column text = .ok id) ↔ HasShape isIdDigit text.toList) ∧
    ∀ (t : Tables) (id : Id kind), t.Gives id →
      HasShape isIdDigit id.text.toList ∧ id.text ∈ t.idCells kind := by
  have hparse (id : Id kind) : parse kind text = .ok id ↔ id.text = text := idOfText_eq_ok_iff
  have hparses : (∃ id, parse kind text = .ok id) ↔ HasShape isIdDigit text.toList := by
    simp only [hparse, exists_text_eq_iff]
  refine ⟨hparses, fun id => (hparse id).mp, fun hshape => ?_, ?_, fun column => ?_,
    fun t id hgives => ⟨isUuid_iff.mp id.isUuid_text, hgives.mem_idCells⟩⟩
  · rw [← isUuid_iff] at hshape
    exact dif_neg hshape
  · rw [hparses, hasShape_isLowerHexDigit_iff]
  · simp only [decodeId_eq_ok_iff, exists_text_eq_iff]

/-- A text in hexadecimal digits is parsed, and read back from tables; with letters in upper case it
is refused. -/
theorem parse_exact_hexadecimal :
    let id : Id .acl := ⟨"88bf513a-802f-450d-9fc4-b49eeabf1b8f", by decide⟩
    let upper := "88BF513A-802F-450D-9FC4-B49EEABF1B8F"
    let t : Tables := { Tables.empty with acls := [⟨id.text, none⟩] }
    (parse .acl id.text = .ok id ∧ HasShape isLowerHexDigit id.text.toList) ∧
      (t.Gives id ∧ id.text ∈ t.idCells .acl) ∧
      ¬HasShape isIdDigit upper.toList ∧ parse .acl upper = .error (.invalidId .acl upper) := by
  intro id upper t
  obtain ⟨-, -, -, hlower, -, hreads⟩ := parse_exact .acl id.text
  obtain ⟨-, -, hrefuses, -⟩ := parse_exact .acl upper
  have hparse : parse .acl id.text = .ok id := idOfText_eq_ok_iff.mpr rfl
  have hlisted : t.listAcls = .ok [⟨id, ""⟩] := by
    rw [Tables.listAcls, sortedBy, List.mergeSort_singleton]
    decide +kernel
  have hgives : t.Gives id := .acl hlisted (List.mem_singleton.mpr rfl)
  have hupper : ¬HasShape isIdDigit upper.toList := by
    rw [← isUuid_iff]
    decide
  have hascii : ∀ c ∈ id.text.toList, c.toNat < 128 := by
    have hall : id.text.toList.all (·.toNat < 128) = true := by decide
    exact fun c hc => of_decide_eq_true (List.all_eq_true.mp hall c hc)
  exact ⟨⟨hparse, hlower.mpr ⟨⟨id, hparse⟩, hascii⟩⟩, ⟨hgives, (hreads t id hgives).2⟩, hupper,
    hrefuses hupper⟩

/-- A text with two digits of the Arabic script is an identifier of every kind, and is read back as
one from tables, though it is not written in hexadecimal digits. -/
theorem parse_foreign_digits :
    let id : Id .acl := ⟨"٨٨bf513a-802f-450d-9fc4-b49eeabf1b8f", by decide⟩
    let t : Tables := { Tables.empty with acls := [⟨id.text, none⟩] }
    (∀ kind, ∃ parsed, parse kind id.text = .ok parsed) ∧ t.listAcls = .ok [⟨id, ""⟩] ∧
      ¬HasShape isLowerHexDigit id.text.toList := by
  intro id t
  refine ⟨fun kind => ⟨⟨id.text, id.isUuid_text⟩, idOfText_eq_ok_iff.mpr rfl⟩, ?_, fun hshape => ?_⟩
  · rw [Tables.listAcls, sortedBy, List.mergeSort_singleton]
    decide +kernel
  · have hfirst : id.text.toList[0]? = some '٨' := by decide
    exact absurd (hshape.digit 0 '٨' (by decide) hfirst) (by decide)

end Id

end ProxyPolicy.Policy
