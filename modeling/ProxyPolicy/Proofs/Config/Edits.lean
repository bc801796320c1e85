import Mathlib
import ProxyPolicy.Proofs.Config.Settings
import ProxyPolicy.Proofs.Toml.Keys

/-!
# Defaults compose

What a document does not say of a setting is defaulted, setting by setting. So two documents give
the same configuration if one becomes the other by edits that touch no setting (`Edit`): a section
that is missing is added as an empty one, unknown keys and tables are added, or taken away, and
entries are put in another order. And a setting that is added where none was given is the only one
that changes (`Sets`).

The edits are followed on the entries of a document and on those of its sections. Lookups do not
depend on the order of the entries, since no key is repeated (`Plain`); that holds of every document
that is read, and the edits keep it.
-/

namespace ProxyPolicy

open ProxyPolicy.Toml

/-! ## Edits -/

/-- Whether entries are others with one more among them, at a key that was free. -/
structure AddsEntry (key : String) (v : Value) (entries entries' : List (String × Value)) :
    Prop where
  /-- The key was free. -/
  free : key ∉ entries.map (·.1)
  /-- The other entries are the same, in some order. -/
  perm : entries'.Perm ((key, v) :: entries)

/-- Whether entries are others with another table at a key. -/
def ReplacesTable (key : String) (inner inner' entries entries' : List (String × Value)) : Prop :=
  ∃ origin origin' rest, entries.Perm ((key, .table origin inner) :: rest) ∧
    entries'.Perm ((key, .table origin' inner') :: rest)

/-- An edit of a section that touches no setting. -/
inductive SectionEdit (name : SectionName) (entries entries' : List (String × Value)) : Prop where
  /-- The keys are put in another order. -/
  | reorder (h : entries'.Perm entries)
  /-- A key that names no setting is added. -/
  | unknown {key : String} {v : Value} (hunknown : ∀ s : Setting, s.home = name → s.key ≠ key)
      (h : AddsEntry key v entries entries')

/-- An edit of a document that touches no setting. -/
inductive Edit (entries entries' : List (String × Value)) : Prop where
  /-- The sections are put in another order. -/
  | reorder (h : entries'.Perm entries)
  /-- A section that is missing is added as an empty table. -/
  | emptySection {origin : Origin} (name : SectionName)
      (h : AddsEntry name.text (.table origin []) entries entries')
  /-- A table, or another value, that is no section is added. -/
  | unknown {key : String} {v : Value} (hunknown : ∀ name : SectionName, name.text ≠ key)
      (h : AddsEntry key v entries entries')
  /-- A section is edited. -/
  | inSection {inner inner' : List (String × Value)} (name : SectionName)
      (h : ReplacesTable name.text inner inner' entries entries')
      (hedit : SectionEdit name inner inner')

/-- A setting that was not given is given, in its section or in one that is added. -/
inductive Sets (s : Setting) (v : Value) (entries entries' : List (String × Value)) : Prop where
  /-- The section is there. -/
  | inSection {inner inner' : List (String × Value)}
      (h : ReplacesTable s.home.text inner inner' entries entries')
      (hadd : AddsEntry s.key v inner inner')
  /-- The section is added. -/
  | newSection {origin : Origin}
      (h : AddsEntry s.home.text (.table origin [(s.key, v)]) entries entries')

/-! ## Plain documents -/

variable {entries entries' : List (String × Value)} {key : String} {v : Value}

/-- Documents without repeated keys whose sections are such tables. -/
structure Plain (entries : List (String × Value)) : Prop where
  /-- No key is repeated. -/
  keys : (entries.map (·.1)).Nodup
  /-- The sections are tables in which no key is repeated. -/
  sections : ∀ (name : SectionName) (v : Value), (name.text, v) ∈ entries →
    ∃ origin inner, v = .table origin inner ∧ (inner.map (·.1)).Nodup

/-- Sections are told apart by their names. -/
theorem SectionName.text_injective {name name' : SectionName} (h : name.text = name'.text) :
    name = name' := by
  revert h
  cases name <;> cases name' <;> decide

/-- The sections of a plain document are tables. -/
theorem Plain.sectionsAreTables (h : Plain entries) : SectionsAreTables entries := by
  intro name v hfound
  obtain ⟨origin, inner, heq, -⟩ := h.sections name v (mem_of_lookup? hfound)
  exact ⟨origin, inner, heq⟩

/-- A document that a text describes is plain if its sections are tables. -/
theorem plain_of_parse? {text : String} {document : Value}
    (h : Toml.parse? text = some document) (hsections : SectionsAreTables (entriesOf document)) :
    Plain (entriesOf document) := by
  obtain ⟨hkeyed, origin, entries, rfl⟩ := isKeyedTable_of_parse? h
  obtain ⟨hkeys, hentries⟩ := Value.keyed_table_iff.mp hkeyed
  refine ⟨hkeys, fun name v hmem => ?_⟩
  obtain ⟨origin', inner, rfl⟩ := hsections name v ((lookup?_eq_some_iff hkeys).mpr hmem)
  exact ⟨origin', inner, rfl, (Value.keyed_table_iff.mp (hentries _ hmem)).1⟩

/-- The order of the entries does not matter for being plain. -/
theorem plain_iff_of_perm (h : entries'.Perm entries) : Plain entries' ↔ Plain entries := by
  have hkeys := (h.map (·.1)).nodup_iff
  constructor
  · rintro ⟨hnodup, hsections⟩
    exact ⟨hkeys.mp hnodup, fun name v hmem => hsections name v (h.mem_iff.mpr hmem)⟩
  · rintro ⟨hnodup, hsections⟩
    exact ⟨hkeys.mpr hnodup, fun name v hmem => hsections name v (h.mem_iff.mp hmem)⟩

/-- One more entry leaves a document plain if its key is new and it is as a section has to be. -/
theorem plain_cons_iff : Plain ((key, v) :: entries) ↔ key ∉ entries.map (·.1) ∧
    (∀ name : SectionName, name.text = key →
      ∃ origin inner, v = .table origin inner ∧ (inner.map (·.1)).Nodup) ∧ Plain entries := by
  constructor
  · rintro ⟨hkeys, hsections⟩
    obtain ⟨hfree, hkeys⟩ := List.nodup_cons.mp hkeys
    refine ⟨hfree, fun name hname => ?_, hkeys, fun name v' hmem => ?_⟩
    · exact hsections name v (by rw [hname]; exact List.mem_cons_self)
    · exact hsections name v' (List.mem_cons_of_mem _ hmem)
  · rintro ⟨hfree, hsection, hkeys, hsections⟩
    refine ⟨List.nodup_cons.mpr ⟨hfree, hkeys⟩, fun name v' hmem => ?_⟩
    rcases List.mem_cons.mp hmem with heq | hmem
    · obtain ⟨hname, rfl⟩ := Prod.mk.inj heq
      exact hsection name hname
    · exact hsections name v' hmem

/-- One more section leaves a document plain if it was missing and repeats no keys. -/
theorem plain_cons_section_iff {name : SectionName} {origin : Origin}
    {inner : List (String × Value)} :
    Plain ((name.text, .table origin inner) :: entries) ↔
      name.text ∉ entries.map (·.1) ∧ (inner.map (·.1)).Nodup ∧ Plain entries := by
  rw [plain_cons_iff]
  refine and_congr_right fun _ => and_congr_left fun _ => ⟨fun h => ?_, fun h _ _ => ?_⟩
  · obtain ⟨_, _, heq, hinner⟩ := h name rfl
    obtain ⟨-, rfl⟩ := Value.table.inj heq
    exact hinner
  · exact ⟨origin, inner, rfl, h⟩

/-! ## What edits change -/

/-- One more entry is found at its key, and the others as before. -/
theorem AddsEntry.lookup? (h : AddsEntry key v entries entries')
    (hkeys : (entries.map (·.1)).Nodup) (key' : String) :
    Toml.lookup? entries' key' = if key = key' then some v else Toml.lookup? entries key' := by
  have hcons : (((key, v) :: entries).map (·.1)).Nodup := List.nodup_cons.mpr ⟨h.free, hkeys⟩
  rw [lookup?_of_perm hcons h.perm, lookup?_cons]

/-- One more entry at a new key repeats no keys. -/
theorem AddsEntry.nodup_iff (h : AddsEntry key v entries entries') :
    (entries'.map (·.1)).Nodup ↔ (entries.map (·.1)).Nodup := by
  rw [(h.perm.map (·.1)).nodup_iff, List.map_cons, List.nodup_cons]
  exact and_iff_right h.free

/-- An edit of a section repeats no keys. -/
theorem SectionEdit.nodup_iff {name : SectionName} (h : SectionEdit name entries entries') :
    (entries'.map (·.1)).Nodup ↔ (entries.map (·.1)).Nodup := by
  cases h with
  | reorder h => exact (h.map (·.1)).nodup_iff
  | unknown _ h => exact h.nodup_iff

/-- An edit of a section touches no setting. -/
theorem SectionEdit.lookup? {s : Setting} (h : SectionEdit s.home entries entries')
    (hkeys : (entries.map (·.1)).Nodup) :
    Toml.lookup? entries' s.key = Toml.lookup? entries s.key := by
  cases h with
  | reorder h => exact lookup?_of_perm hkeys h s.key
  | unknown hunknown h => rw [h.lookup? hkeys, if_neg (hunknown s rfl).symm]

/-- The order of the sections does not matter. -/
theorem sectionOf_of_perm (hplain : Plain entries) (h : entries'.Perm entries)
    (name : SectionName) : sectionOf entries' name = sectionOf entries name := by
  unfold sectionOf
  rw [lookup?_of_perm hplain.keys h]

/-- The first of some entries is the section that it names. -/
theorem sectionOf_cons (entries : List (String × Value)) (key : String) (v : Value)
    (name : SectionName) :
    sectionOf ((key, v) :: entries) name =
      if key = name.text then entriesOf v else sectionOf entries name := by
  unfold sectionOf
  rw [lookup?_cons]
  split_ifs <;> rfl

/-- A section that is missing has no entries. -/
theorem sectionOf_of_free {name : SectionName} (h : name.text ∉ entries.map (·.1)) :
    sectionOf entries name = [] := by
  unfold sectionOf
  rw [lookup?_eq_none_iff.mpr h]
  rfl

section ReplacesTable

variable {name : SectionName} {inner inner' : List (String × Value)}
  (h : ReplacesTable name.text inner inner' entries entries')

include h

/-- The entries of a section may be replaced if keys are repeated in neither or in both. -/
theorem ReplacesTable.plain_iff (hkeys : (inner'.map (·.1)).Nodup ↔ (inner.map (·.1)).Nodup) :
    Plain entries' ↔ Plain entries := by
  obtain ⟨origin, origin', rest, hbefore, hafter⟩ := h
  rw [plain_iff_of_perm hafter, ← plain_iff_of_perm hbefore.symm, plain_cons_section_iff,
    plain_cons_section_iff, hkeys]

/-- The section has the entries that are replaced, without repeated keys. -/
theorem ReplacesTable.sectionOf_before (hplain : Plain entries) :
    sectionOf entries name = inner ∧ (inner.map (·.1)).Nodup := by
  obtain ⟨origin, origin', rest, hbefore, -⟩ := h
  refine ⟨?_, (plain_cons_section_iff.mp ((plain_iff_of_perm hbefore.symm).mpr hplain)).2.1⟩
  rw [← sectionOf_of_perm hplain hbefore.symm, sectionOf_cons, if_pos rfl]
  rfl

/-- The section has the new entries, and the other sections are as they were. -/
theorem ReplacesTable.sectionOf_after (hplain : Plain entries) (hplain' : Plain entries')
    (name' : SectionName) :
    sectionOf entries' name' = if name = name' then inner' else sectionOf entries name' := by
  obtain ⟨origin, origin', rest, hbefore, hafter⟩ := h
  rw [← sectionOf_of_perm hplain' hafter.symm, ← sectionOf_of_perm hplain hbefore.symm,
    sectionOf_cons, sectionOf_cons]
  by_cases hname : name = name'
  · rw [if_pos (congrArg SectionName.text hname), if_pos hname]
    rfl
  · have htext : name.text ≠ name'.text := fun htext => hname (SectionName.text_injective htext)
    rw [if_neg htext, if_neg htext, if_neg hname]

end ReplacesTable

/-- An edit keeps a document plain, and so does taking it back. -/
theorem Edit.plain_iff (h : Edit entries entries') : Plain entries' ↔ Plain entries := by
  cases h with
  | reorder h => exact plain_iff_of_perm h
  | emptySection name h =>
    rw [plain_iff_of_perm h.perm, plain_cons_section_iff]
    exact ⟨fun h => h.2.2, fun h' => ⟨h.free, List.nodup_nil, h'⟩⟩
  | unknown hunknown h =>
    rw [plain_iff_of_perm h.perm, plain_cons_iff]
    exact ⟨fun h => h.2.2, fun h' => ⟨h.free, fun name hname => absurd hname (hunknown name), h'⟩⟩
  | inSection name h hedit => exact h.plain_iff hedit.nodup_iff

/-- An edit touches no setting. -/
theorem Edit.given? (h : Edit entries entries') (hplain : Plain entries) (s : Setting) :
    s.given? entries' = s.given? entries := by
  have hplain' := h.plain_iff.mpr hplain
  unfold Setting.given?
  cases h with
  | reorder h => rw [sectionOf_of_perm hplain h]
  | emptySection name h =>
    rw [← sectionOf_of_perm hplain' h.perm.symm, sectionOf_cons]
    split_ifs with hname
    · -- The section had no entries when it was missing, and has none now.
      obtain rfl := SectionName.text_injective hname
      rw [sectionOf_of_free h.free]
      rfl
    · rfl
  | unknown hunknown h =>
    rw [← sectionOf_of_perm hplain' h.perm.symm, sectionOf_cons, if_neg (hunknown s.home).symm]
  | inSection name h hedit =>
    rw [h.sectionOf_after hplain hplain']
    split_ifs with hname
    · subst hname
      obtain ⟨hbefore, hkeys⟩ := h.sectionOf_before hplain
      rw [hbefore, hedit.lookup? hkeys]
    · rfl

/-- Any number of edits, some of them taken back, keep a document plain and touch no setting. -/
theorem given?_of_edits (h : Relation.EqvGen Edit entries entries') :
    (Plain entries' ↔ Plain entries) ∧
      (Plain entries → ∀ s : Setting, s.given? entries' = s.given? entries) := by
  induction h with
  | rel entries entries' h => exact ⟨h.plain_iff, fun hplain => h.given? hplain⟩
  | refl entries => exact ⟨Iff.rfl, fun _ _ => rfl⟩
  | symm entries entries' _ ih =>
    exact ⟨ih.1.symm, fun hplain s => (ih.2 (ih.1.mp hplain) s).symm⟩
  | trans entries entries' entries'' _ _ ih ih' =>
    exact ⟨ih'.1.trans ih.1,
      fun hplain s => (ih'.2 (ih.1.mpr hplain) s).trans (ih.2 hplain s)⟩

/-- A setting that is added to a section is given, and all others are as they were. -/
theorem given?_of_added {s : Setting} {inner inner' : List (String × Value)}
    (h : ReplacesTable s.home.text inner inner' entries entries')
    (hadd : AddsEntry s.key v inner inner') (hplain : Plain entries) :
    Plain entries' ∧
      ∀ s' : Setting, s'.given? entries' = if s = s' then some v else s'.given? entries := by
  have hplain' := (h.plain_iff hadd.nodup_iff).mpr hplain
  obtain ⟨hbefore, hkeys⟩ := h.sectionOf_before hplain
  refine ⟨hplain', fun s' => ?_⟩
  unfold Setting.given?
  rw [h.sectionOf_after hplain hplain']
  by_cases hhome : s.home = s'.home
  · rw [if_pos hhome, hadd.lookup? hkeys, ← hhome, hbefore]
    by_cases hkey : s.key = s'.key
    · rw [if_pos hkey, if_pos (Setting.eq_of_home_of_key hhome hkey)]
    · rw [if_neg hkey, if_neg fun heq => hkey (congrArg Setting.key heq)]
  · rw [if_neg hhome, if_neg fun heq => hhome (congrArg Setting.home heq)]

/-- A setting that is added is given, and all others are as they were. -/
theorem Sets.given? {s : Setting} (h : Sets s v entries entries') (hplain : Plain entries) :
    Plain entries' ∧
      ∀ s' : Setting, s'.given? entries' = if s = s' then some v else s'.given? entries := by
  cases h with
  | inSection h hadd => exact given?_of_added h hadd hplain
  | @newSection origin h =>
    -- The section is first added as an empty one, which changes nothing.
    have hempty : Edit entries ((s.home.text, .table origin []) :: entries) :=
      .emptySection s.home ⟨h.free, .refl _⟩
    have hreplaces : ReplacesTable s.home.text [] [(s.key, v)]
        ((s.home.text, .table origin []) :: entries) entries' :=
      ⟨origin, origin, entries, .refl _, h.perm⟩
    obtain ⟨hplain', hgiven⟩ := given?_of_added hreplaces ⟨List.not_mem_nil, .refl _⟩
      (hempty.plain_iff.mpr hplain)
    refine ⟨hplain', fun s' => ?_⟩
    rw [hgiven, hempty.given? hplain]

/-! ## Configurations -/

namespace Config

variable {text : String} {document : Value} {c : Config}

/-- A plain document that a text describes gives each setting, or leaves it at its default. -/
theorem ofValue?_eq_some_iff_of_parse? (h : Toml.parse? text = some document)
    (hplain : Plain (entriesOf document)) : ofValue? document = some c ↔
      ∀ s : Setting, s.read (s.given? (entriesOf document)) = some (c.get s) := by
  obtain ⟨-, origin, entries, rfl⟩ := isKeyedTable_of_parse? h
  exact ofValue?_eq_some_iff hplain.sectionsAreTables

/-- A text that describes a document gives the configuration of the document. -/
theorem parse_eq_ok_iff (h : Toml.parse? text = some document) :
    parse text = .ok c ↔ ofValue? document = some c := by
  unfold parse
  rw [h, Option.bind_some]
  cases ofValue? document with
  | none => simp
  | some c' => simp

/-- Defaults compose. A configuration that is read has each setting as its text gives it, or else
its default. Texts whose documents differ by edits that touch no setting give the same
configuration, or none gives any. And a setting that is added with a value of the right kind is set
to it, while the others stay as they are. -/
theorem parse_composes (hdocument : Toml.parse? text = some document)
    (hsections : SectionsAreTables (entriesOf document)) :
    (∀ c, parse text = .ok c ↔
      ∀ s : Setting, s.read (s.given? (entriesOf document)) = some (c.get s)) ∧
    (∀ text' document', Toml.parse? text' = some document' →
      Relation.EqvGen Edit (entriesOf document) (entriesOf document') → parse text' = parse text) ∧
    ∀ text' document' (s : Setting) v x, Toml.parse? text' = some document' →
      Sets s v (entriesOf document) (entriesOf document') → s.decode v = some x →
      ∀ c, parse text = .ok c →
        ∃ c', parse text' = .ok c' ∧ c'.get s = x ∧ ∀ s', s' ≠ s → c'.get s' = c.get s' := by
  have hplain := plain_of_parse? hdocument hsections
  have hread (c : Config) : parse text = .ok c ↔
      ∀ s : Setting, s.read (s.given? (entriesOf document)) = some (c.get s) := by
    rw [parse_eq_ok_iff hdocument, ofValue?_eq_some_iff_of_parse? hdocument hplain]
  refine ⟨hread, fun text' document' hdocument' hedits => ?_,
    fun text' document' s v x hdocument' hsets hx c hc => ?_⟩
  · obtain ⟨hplain', hgiven⟩ := given?_of_edits hedits
    have hsame : ofValue? document' = ofValue? document := by
      ext c
      rw [ofValue?_eq_some_iff_of_parse? hdocument' (hplain'.mpr hplain),
        ofValue?_eq_some_iff_of_parse? hdocument hplain]
      simp only [hgiven hplain]
    unfold parse
    rw [hdocument', hdocument, Option.bind_some, Option.bind_some, hsame]
  · -- The new configuration is the old one with another value for one setting.
    obtain ⟨hplain', hgiven⟩ := hsets.given? hplain
    refine ⟨ofSettings (Function.update c.get s x), ?_, ?_, fun s' hne => ?_⟩
    · rw [parse_eq_ok_iff hdocument', ofValue?_eq_some_iff_of_parse? hdocument' hplain']
      intro s'
      rw [hgiven, get_ofSettings]
      by_cases heq : s = s'
      · subst heq
        rw [if_pos rfl, Function.update_self]
        exact hx
      · rw [if_neg heq, Function.update_of_ne (Ne.symm heq)]
        exact (hread c).mp hc s'
    · rw [get_ofSettings, Function.update_self]
    · rw [get_ofSettings, Function.update_of_ne hne]

/-- A document with a section of one key; the same with an unknown key and an empty section; and the
same with another key in its section. -/
theorem parse_composes_tail :
    let text := "[tail]\nlines = 5\n"
    let edited := "color = true\n[tail]\nlines = 5\n[store]\n"
    let added := "[tail]\nlines = 5\nsquid_log = 'a.log'\n"
    ∃ c c', parse text = .ok c ∧ c.tail = ⟨"/var/log/squid/access.log", 5⟩ ∧
      c.store = ⟨"proxy-acl.db", 5000, "WAL"⟩ ∧ parse edited = .ok c ∧ parse added = .ok c' ∧
      c'.get .log = "a.log" ∧ ∀ s, s ≠ .log → c'.get s = c.get s := by
  intro text edited added
  let inner : List (String × Value) := [("lines", .scalar (.integer 5))]
  let color : String × Value := ("color", .scalar (.boolean true))
  let log : String × Value := ("squid_log", .scalar (.text "a.log"))
  have htext : Toml.parse? text = some (.table .header [("tail", .table .header inner)]) := by
    cbv
  have hedited : Toml.parse? edited = some (.table .header
      [color, ("tail", .table .header inner), ("store", .table .header [])]) := by
    cbv
  have hadded : Toml.parse? added =
      some (.table .header [("tail", .table .header (inner ++ [log]))]) := by
    cbv
  have hsections : SectionsAreTables [("tail", .table .header inner)] := by
    rintro (_ | _ | _ | _) v hfound
    all_goals simp [lookup?, SectionName.text] at hfound
    exact ⟨_, _, hfound.symm⟩
  obtain ⟨-, hedits, hsets⟩ := parse_composes htext hsections
  have hc : parse text = .ok ⟨.default, ⟨"/var/log/squid/access.log", 5⟩, .default, .default⟩ := by
    decide +kernel
  have hchain : Relation.EqvGen Edit [("tail", .table .header inner)]
      [color, ("tail", .table .header inner), ("store", .table .header [])] := by
    refine .trans _ [color, ("tail", .table .header inner)] _ (.rel _ _ ?_) (.rel _ _ ?_)
    · exact .unknown (by rintro (_ | _ | _ | _) <;> decide) ⟨by decide, .refl _⟩
    · exact .emptySection .store ⟨by decide, List.perm_append_singleton _ [_, _]⟩
  have hlog : Sets .log log.2 [("tail", .table .header inner)]
      [("tail", .table .header (inner ++ [log]))] :=
    .inSection ⟨.header, .header, [], .refl _, .refl _⟩
      ⟨by decide, List.perm_append_singleton _ inner⟩
  obtain ⟨c', hc', hset, hothers⟩ := hsets added _ .log log.2 "a.log" hadded hlog rfl _ hc
  exact ⟨_, c', hc, rfl, rfl, (hedits edited _ hedited hchain).trans hc, hc', hset, hothers⟩

end Config

end ProxyPolicy
