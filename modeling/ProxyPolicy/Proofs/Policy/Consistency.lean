import Mathlib.Data.List.Nodup
import ProxyPolicy.Proofs.Policy.Effect
import ProxyPolicy.Proofs.Policy.History

/-!
# The tables fit together

`Tables.Consistent` is what holds of the tables in every state that can be reached: identifiers and
keys are unique, rows name rows that are there, and the links are, up to their order, the rules, so
that each rule is in exactly one ACL. The storage keeps all of this by its constraints, except that
it would let a rule be in no ACL; that part holds because every operation makes, moves and removes a
rule and its link together.

Each change that an operation makes keeps the tables consistent (`Consistent.withRule` and its
neighbors), so every call does (`consistent_of_effect`), and so does every history
(`consistent_transcript`).
-/

namespace ProxyPolicy.Policy

/-- The tables fit together. -/
structure Tables.Consistent (t : Tables) : Prop where
  /-- No two entities of a kind share an identifier. -/
  ids_nodup : ∀ kind, (t.ids kind).Nodup
  /-- The rules named by the links are the rules, each of them once. -/
  links_perm : (t.links.map (·.rule)).Perm (t.ids .rule)
  /-- A link names an ACL. -/
  link_acl : ∀ l ∈ t.links, l.acl ∈ t.ids .acl
  /-- A membership names a group and a source. -/
  member_refs : ∀ m ∈ t.members, m.group ∈ t.ids .group ∧ m.source ∈ t.ids .source
  /-- No source is twice in a group. -/
  member_keys : (t.members.map MemberRow.key).Nodup
  /-- A grant names a group and an ACL. -/
  grant_refs : ∀ g ∈ t.grants, g.group ∈ t.ids .group ∧ g.acl ∈ t.ids .acl
  /-- No ACL is granted twice to a group. -/
  grant_keys : (t.grants.map GrantRow.key).Nodup

/-! ## Identifiers -/

/-- The identifier that a row adds to those of a kind, if it is the row of an entity. -/
def Row.ids : Row → Kind → List String
  | .source row, .source => [row.id]
  | .group row, .group => [row.id]
  | .acl row, .acl => [row.id]
  | .rule row, .rule => [row.id]
  | _, _ => []

namespace Tables

/-- A row adds its identifier after those that are there. -/
theorem ids_add (t : Tables) (row : Row) (kind : Kind) :
    (t.add row).ids kind = t.ids kind ++ row.ids kind := by
  cases row <;> cases kind <;> simp [add, ids, Row.ids]

/-- Entities stay when a row is added. -/
theorem mem_ids_add {t : Tables} (row : Row) {kind : Kind} {id : String} (h : id ∈ t.ids kind) :
    id ∈ (t.add row).ids kind := by
  rw [ids_add]
  exact List.mem_append_left _ h

/-- Identifiers stay unique when a row with a new one is added. -/
theorem ids_add_nodup {t : Tables} {row : Row} {kind : Kind} (h : (t.ids kind).Nodup)
    (hfresh : ∀ id ∈ row.ids kind, id ∉ t.ids kind) : ((t.add row).ids kind).Nodup := by
  have hrow : (row.ids kind).Nodup := by
    cases row <;> cases kind <;> simp [Row.ids]
  rw [ids_add, List.nodup_append]
  exact ⟨h, hrow, fun a ha b hb heq => hfresh b hb (heq ▸ ha)⟩

/-- New fields in a rule change no identifier. -/
@[simp]
theorem ids_withFields (t : Tables) (id : String) (f : RuleFields) (kind : Kind) :
    (t.withFields id f).ids kind = t.ids kind := by
  cases kind with
  | rule =>
    simp only [ids, withFields, List.map_map]
    apply List.map_congr_left
    intro r _
    by_cases hid : r.id = id
    · simp [hid, RuleFields.row]
    · simp [hid]
  | group => rfl
  | source => rfl
  | acl => rfl

/-- The other ACLs stay when one is taken away. -/
theorem mem_ids_withoutAcl {t : Tables} {id other : String} (h : other ∈ t.ids .acl)
    (hne : other ≠ id) : other ∈ (t.withoutAcl id).ids .acl := by
  obtain ⟨row, hrow, rfl⟩ := List.mem_map.mp h
  exact List.mem_map_of_mem (List.mem_filter.mpr ⟨hrow, by simpa using hne⟩)

/-- The other sources stay when one is taken away. -/
theorem mem_ids_withoutSource {t : Tables} {id other : String} (h : other ∈ t.ids .source)
    (hne : other ≠ id) : other ∈ (t.withoutSource id).ids .source := by
  obtain ⟨row, hrow, rfl⟩ := List.mem_map.mp h
  exact List.mem_map_of_mem (List.mem_filter.mpr ⟨hrow, by simpa using hne⟩)

/-- The identifiers without some rules are some of those that were there, in their order. -/
theorem ids_dropRules_sublist (t : Tables) (rules : List String) (kind : Kind) :
    ((t.dropRules rules).ids kind).Sublist (t.ids kind) := by
  cases kind with
  | rule => exact List.filter_sublist.map _
  | _ => exact List.Sublist.refl _

/-- The identifiers without an ACL are some of those that were there, in their order. -/
theorem ids_withoutAcl_sublist (t : Tables) (id : String) (kind : Kind) :
    ((t.withoutAcl id).ids kind).Sublist (t.ids kind) := by
  cases kind with
  | acl => exact List.filter_sublist.map _
  | _ => exact List.Sublist.refl _

/-- The identifiers without a source are some of those that were there, in their order. -/
theorem ids_withoutSource_sublist (t : Tables) (id : String) (kind : Kind) :
    ((t.withoutSource id).ids kind).Sublist (t.ids kind) := by
  cases kind with
  | source => exact List.filter_sublist.map _
  | _ => exact List.Sublist.refl _

/-- Links that point elsewhere name the same rules. -/
theorem links_rule_retarget (t : Tables) (rules : List String) (acl : String) :
    (t.retarget rules acl).links.map (·.rule) = t.links.map (·.rule) := by
  simp only [retarget, List.map_map]
  apply List.map_congr_left
  intro l _
  by_cases hl : l.rule ∈ rules
  · simp [hl]
  · simp [hl]

/-- Keys stay distinct when the rows of a group are replaced by rows for distinct entities: the rows
that stay are of other groups. -/
theorem keys_replaced_nodup {α : Type} {kind : Kind} {key : α → String × String}
    {row : Id kind × String → α} {group : String} {rows : List α}
    {entries : List (Id kind × String)} (hrow : ∀ e, key (row e) = (group, e.1.text))
    (hrows : (rows.map key).Nodup) (hentries : (entries.map Prod.fst).Nodup) :
    ((rows.filter (fun r => (key r).1 ≠ group) ++ entries.map row).map key).Nodup := by
  have hkeys : (entries.map row).map key =
      (entries.map Prod.fst).map fun entity => (group, entity.text) := by
    rw [List.map_map, List.map_map]
    exact List.map_congr_left fun e _ => hrow e
  rw [List.map_append, hkeys, List.nodup_append]
  refine ⟨(List.filter_sublist.map _).nodup hrows, ?_, ?_⟩
  · exact hentries.map fun _ _ heq => Id.text_injective (Prod.mk.inj heq).2
  · rintro _ hold _ hnew rfl
    obtain ⟨r, hr, heq⟩ := List.mem_map.mp hold
    obtain ⟨entity, -, hentity⟩ := List.mem_map.mp hnew
    have hother := (List.mem_filter.mp hr).2
    rw [heq, ← hentity] at hother
    simp at hother

end Tables

namespace Tables.Consistent

variable {t : Tables}

/-- No rows fit together. -/
theorem empty : Tables.empty.Consistent where
  ids_nodup kind := by cases kind <;> exact List.nodup_nil
  links_perm := List.Perm.refl _
  link_acl := by simp [Tables.empty]
  member_refs := by simp [Tables.empty]
  member_keys := List.nodup_nil
  grant_refs := by simp [Tables.empty]
  grant_keys := List.nodup_nil

/-- A link names a rule. -/
theorem link_rule (h : t.Consistent) {l : LinkRow} (hl : l ∈ t.links) : l.rule ∈ t.ids .rule :=
  h.links_perm.mem_iff.mp (List.mem_map_of_mem hl)

/-- Each rule has exactly one link. -/
theorem countP_links (h : t.Consistent) {id : String} (hid : id ∈ t.ids .rule) :
    t.links.countP (·.rule = id) = 1 := by
  have hcount : (t.links.map (·.rule)).count id = 1 := by
    rw [h.links_perm.count_eq]
    exact List.count_eq_one_of_mem (h.ids_nodup .rule) hid
  rw [List.count, List.countP_map] at hcount
  rw [← hcount]
  apply List.countP_congr
  simp

/-- The tables fit together with one more ACL. -/
theorem add_acl (h : t.Consistent) {row : AclRow} (hfresh : row.id ∉ t.ids .acl) :
    (t.add (.acl row)).Consistent where
  ids_nodup kind := ids_add_nodup (h.ids_nodup kind) (by cases kind <;> simp_all [Row.ids])
  links_perm := h.links_perm
  link_acl l hl := mem_ids_add _ (h.link_acl l hl)
  member_refs := h.member_refs
  member_keys := h.member_keys
  grant_refs g hg := ⟨(h.grant_refs g hg).1, mem_ids_add _ (h.grant_refs g hg).2⟩
  grant_keys := h.grant_keys

/-- The tables fit together with one more group. -/
theorem add_group (h : t.Consistent) {row : GroupRow} (hfresh : row.id ∉ t.ids .group) :
    (t.add (.group row)).Consistent where
  ids_nodup kind := ids_add_nodup (h.ids_nodup kind) (by cases kind <;> simp_all [Row.ids])
  links_perm := h.links_perm
  link_acl := h.link_acl
  member_refs m hm := ⟨mem_ids_add _ (h.member_refs m hm).1, (h.member_refs m hm).2⟩
  member_keys := h.member_keys
  grant_refs g hg := ⟨mem_ids_add _ (h.grant_refs g hg).1, (h.grant_refs g hg).2⟩
  grant_keys := h.grant_keys

/-- The tables fit together with a new source in a group. -/
theorem withSource (h : t.Consistent) {id group source comment memberComment : String}
    (hgroup : group ∈ t.ids .group) (hfresh : id ∉ t.ids .source)
    (hkey : (group, id) ∉ t.members.map MemberRow.key) :
    (t.withSource id group source comment memberComment).Consistent where
  ids_nodup kind := by
    refine ids_add_nodup (ids_add_nodup (h.ids_nodup kind) ?_) ?_
    · cases kind <;> simp_all [Row.ids]
    · simp [Row.ids]
  links_perm := h.links_perm
  link_acl := h.link_acl
  member_refs m hm := by
    rcases List.mem_append.mp hm with hold | hnew
    · obtain ⟨hg, hs⟩ := h.member_refs m hold
      exact ⟨hg, mem_ids_add _ (mem_ids_add _ hs)⟩
    · rw [List.mem_singleton.mp hnew]
      exact ⟨hgroup, mem_ids_add _ (by simp [ids_add, Row.ids])⟩
  member_keys := by
    simp only [Tables.withSource, Tables.add, List.map_append]
    rw [List.nodup_append]
    refine ⟨h.member_keys, List.nodup_singleton _, ?_⟩
    rintro a ha b hb rfl
    rw [List.mem_singleton.mp hb] at ha
    exact hkey ha
  grant_refs := h.grant_refs
  grant_keys := h.grant_keys

/-- The tables fit together with a new rule in an ACL. -/
theorem withRule (h : t.Consistent) {id acl : String} {f : RuleFields} (hacl : acl ∈ t.ids .acl)
    (hfresh : id ∉ t.ids .rule) : (t.withRule id acl f).Consistent where
  ids_nodup kind := by
    refine ids_add_nodup (ids_add_nodup (h.ids_nodup kind) ?_) ?_
    · cases kind <;> simp_all [Row.ids, RuleFields.row]
    · simp [Row.ids]
  links_perm := by
    -- The rule and its link are added together.
    simp only [Tables.withRule, Tables.add, Tables.ids, List.map_append]
    exact h.links_perm.append_right [id]
  link_acl l hl := by
    rcases List.mem_append.mp hl with hold | hnew
    · exact h.link_acl l hold
    · rw [List.mem_singleton.mp hnew]
      exact hacl
  member_refs := h.member_refs
  member_keys := h.member_keys
  grant_refs := h.grant_refs
  grant_keys := h.grant_keys

/-- The tables fit together with new fields in a rule. -/
theorem withFields (h : t.Consistent) (id : String) (f : RuleFields) :
    (t.withFields id f).Consistent where
  ids_nodup kind := by
    rw [ids_withFields]
    exact h.ids_nodup kind
  links_perm := by
    rw [ids_withFields]
    exact h.links_perm
  link_acl := h.link_acl
  member_refs := h.member_refs
  member_keys := h.member_keys
  grant_refs := h.grant_refs
  grant_keys := h.grant_keys

/-- The tables fit together with links that point at another ACL. -/
theorem retarget (h : t.Consistent) {rules : List String} {acl : String}
    (hacl : rules ≠ [] → acl ∈ t.ids .acl) : (t.retarget rules acl).Consistent where
  ids_nodup := h.ids_nodup
  links_perm := by
    rw [links_rule_retarget]
    exact h.links_perm
  link_acl l hl := by
    obtain ⟨old, hold, rfl⟩ := List.mem_map.mp hl
    by_cases hrule : old.rule ∈ rules
    · rw [if_pos hrule]
      exact hacl (List.ne_nil_of_mem hrule)
    · rw [if_neg hrule]
      exact h.link_acl old hold
  member_refs := h.member_refs
  member_keys := h.member_keys
  grant_refs := h.grant_refs
  grant_keys := h.grant_keys

/-- The tables fit together without some rules and their links. -/
theorem dropRules (h : t.Consistent) (rules : List String) : (t.dropRules rules).Consistent where
  ids_nodup kind := (ids_dropRules_sublist t rules kind).nodup (h.ids_nodup kind)
  links_perm := by
    -- The rules that go are the rules whose links go.
    have hfilter := h.links_perm.filter (· ∉ rules)
    rw [Tables.ids, List.filter_map, List.filter_map] at hfilter
    exact hfilter
  link_acl l hl := h.link_acl l (List.mem_of_mem_filter hl)
  member_refs := h.member_refs
  member_keys := h.member_keys
  grant_refs := h.grant_refs
  grant_keys := h.grant_keys

/-- The tables fit together without an ACL that no link names, and without its grants. -/
theorem withoutAcl (h : t.Consistent) {id : String} (hlinks : ∀ l ∈ t.links, l.acl ≠ id) :
    (t.withoutAcl id).Consistent where
  ids_nodup kind := (ids_withoutAcl_sublist t id kind).nodup (h.ids_nodup kind)
  links_perm := h.links_perm
  link_acl l hl := mem_ids_withoutAcl (h.link_acl l hl) (hlinks l hl)
  member_refs := h.member_refs
  member_keys := h.member_keys
  grant_refs g hg := by
    obtain ⟨hold, hother⟩ := List.mem_filter.mp hg
    obtain ⟨hgroup, hacl⟩ := h.grant_refs g hold
    exact ⟨hgroup, mem_ids_withoutAcl hacl (by simpa using hother)⟩
  grant_keys := (List.filter_sublist.map _).nodup h.grant_keys

/-- The tables fit together without a source that no membership names. -/
theorem withoutSource (h : t.Consistent) {id : String} (hmembers : ∀ m ∈ t.members, m.source ≠ id) :
    (t.withoutSource id).Consistent where
  ids_nodup kind := (ids_withoutSource_sublist t id kind).nodup (h.ids_nodup kind)
  links_perm := h.links_perm
  link_acl := h.link_acl
  member_refs m hm := by
    obtain ⟨hgroup, hsource⟩ := h.member_refs m hm
    exact ⟨hgroup, mem_ids_withoutSource hsource (hmembers m hm)⟩
  member_keys := h.member_keys
  grant_refs := h.grant_refs
  grant_keys := h.grant_keys

/-- The tables fit together with other grants to a group. -/
theorem withGrants (h : t.Consistent) {group : Id .group} {grants : List (Id .acl × String)}
    (hgroup : group.text ∈ t.ids .group) (hnodup : (grants.map Prod.fst).Nodup)
    (hacls : ∀ g ∈ grants, g.1.text ∈ t.ids .acl) : (t.withGrants group grants).Consistent where
  ids_nodup := h.ids_nodup
  links_perm := h.links_perm
  link_acl := h.link_acl
  member_refs := h.member_refs
  member_keys := h.member_keys
  grant_refs g hg := by
    rcases List.mem_append.mp hg with hold | hnew
    · exact h.grant_refs g (List.mem_of_mem_filter hold)
    · obtain ⟨new, hmem, rfl⟩ := List.mem_map.mp hnew
      exact ⟨hgroup, hacls new hmem⟩
  grant_keys := keys_replaced_nodup (fun _ => rfl) h.grant_keys hnodup

/-- The tables fit together with other members of a group. -/
theorem withMembers (h : t.Consistent) {group : Id .group} {members : List (Id .source × String)}
    (hgroup : group.text ∈ t.ids .group) (hnodup : (members.map Prod.fst).Nodup)
    (hsources : ∀ m ∈ members, m.1.text ∈ t.ids .source) :
    (t.withMembers group members).Consistent where
  ids_nodup := h.ids_nodup
  links_perm := h.links_perm
  link_acl := h.link_acl
  member_refs m hm := by
    rcases List.mem_append.mp hm with hold | hnew
    · exact h.member_refs m (List.mem_of_mem_filter hold)
    · obtain ⟨new, hmem, rfl⟩ := List.mem_map.mp hnew
      exact ⟨hgroup, hsources new hmem⟩
  member_keys := keys_replaced_nodup (fun _ => rfl) h.member_keys hnodup
  grant_refs := h.grant_refs
  grant_keys := h.grant_keys

end Tables.Consistent

/-! ## Calls -/

open Tables.Consistent in
/-- A call that succeeds keeps the tables consistent. -/
theorem consistent_of_effect {accepts : String → Bool} {op : Operation} {t t' : Tables}
    (heffect : op.Effect accepts t t') (h : t.Consistent) : t'.Consistent := by
  -- The guards say that new rows are new and refer to rows that are there, and that no link or
  -- membership refers to a row that goes.
  cases op with
  | createAcl fresh comment =>
    obtain ⟨-, hfresh, rfl⟩ := heffect
    exact h.add_acl hfresh
  | createGroup fresh comment =>
    obtain ⟨-, hfresh, rfl⟩ := heffect
    exact h.add_group hfresh
  | createSource fresh group source comment memberComment =>
    obtain ⟨-, hgroup, hfresh, hkey, rfl⟩ := heffect
    exact h.withSource hgroup hfresh hkey
  | createRule fresh acl f =>
    obtain ⟨-, hacl, hfresh, -, rfl⟩ := heffect
    exact h.withRule hacl hfresh
  | createInboxRule fresh inbox type value action =>
    obtain ⟨f, -, -, hinbox, hfresh, -, rfl⟩ := heffect
    exact h.withRule hinbox hfresh
  | updateRule rule f =>
    obtain ⟨-, -, rfl⟩ := heffect
    exact h.withFields _ f
  | moveRules rules destination =>
    obtain ⟨-, hacl, rfl⟩ := heffect
    exact h.retarget fun hne => hacl fun hnil => hne (by rw [hnil, List.map_nil])
  | deleteRules rules =>
    obtain ⟨-, -, rfl⟩ := heffect
    exact h.dropRules _
  | deleteAcl acl =>
    obtain ⟨-, hlinks, rfl⟩ := heffect
    exact h.withoutAcl hlinks
  | deleteSource source =>
    obtain ⟨-, hmembers, rfl⟩ := heffect
    exact h.withoutSource hmembers
  | replaceGrants group grants =>
    obtain ⟨hnodup, hgroup, hacls, rfl⟩ := heffect
    exact h.withGrants hgroup hnodup hacls
  | replaceMembers group members =>
    obtain ⟨hnodup, hgroup, hsources, rfl⟩ := heffect
    exact h.withMembers hgroup hnodup hsources

/-- After every history from the empty store, the tables are consistent. -/
theorem consistent_transcript (accepts : String → Bool) (calls : List Call) :
    (Store.empty.transcript accepts calls).2.tables.Consistent :=
  Store.transcript_keeps consistent_of_effect calls Tables.Consistent.empty

/-- The tables are consistent in every state that can be reached. -/
theorem Store.Reachable.consistent {accepts : String → Bool} {s : Store}
    (h : s.Reachable accepts) : s.tables.Consistent := by
  obtain ⟨calls, rfl⟩ := h
  exact consistent_transcript accepts calls

/-- After every history from the empty store: no two entities of a kind share an identifier; a rule
has exactly one link, and a link puts a rule that is there into an ACL that is there; memberships
name groups and sources that are there, and no two of them the same; grants name groups and ACLs
that are there, and no two of them the same. -/
theorem history_referential (accepts : String → Bool) (calls : List Call) :
    let t := (Store.empty.transcript accepts calls).2.tables
    (∀ kind, (t.ids kind).Nodup) ∧
    (∀ r ∈ t.rules, t.links.countP (·.rule = r.id) = 1) ∧
    (∀ l ∈ t.links, l.acl ∈ t.ids .acl ∧ l.rule ∈ t.ids .rule) ∧
    (∀ m ∈ t.members, m.group ∈ t.ids .group ∧ m.source ∈ t.ids .source) ∧
    (t.members.map fun m => (m.group, m.source)).Nodup ∧
    (∀ g ∈ t.grants, g.group ∈ t.ids .group ∧ g.acl ∈ t.ids .acl) ∧
    (t.grants.map fun g => (g.group, g.acl)).Nodup := by
  intro t
  have h : t.Consistent := consistent_transcript accepts calls
  refine ⟨h.ids_nodup, ?_, ?_, h.member_refs, h.member_keys, h.grant_refs, h.grant_keys⟩
  · intro r hr
    exact h.countP_links (List.mem_map_of_mem hr)
  · intro l hl
    exact ⟨h.link_acl l hl, h.link_rule hl⟩

/-- A history after which there is a row in each relation. -/
theorem history_referential_populated :
    let group : Id .group := ⟨"00000000-0000-4000-8000-000000000001", by decide⟩
    let source : Id .source := ⟨"00000000-0000-4000-8000-000000000002", by decide⟩
    let acl : Id .acl := ⟨"00000000-0000-4000-8000-000000000003", by decide⟩
    let rule : Id .rule := ⟨"00000000-0000-4000-8000-000000000004", by decide⟩
    let calls : List Call :=
      [.change (.createGroup group "staff"), .change (.createAcl acl "web"),
        .change (.createSource source group "10.0.0.7" "desk" ""),
        .change (.createRule rule acl ⟨.domain, "example.org", .block, ""⟩),
        .change (.replaceGrants group [(acl, "")])]
    let t := (Store.empty.transcript (fun _ => true) calls).2.tables
    t.members.map MemberRow.key = [(group.text, source.text)] ∧
      t.grants.map GrantRow.key = [(group.text, acl.text)] ∧
      t.links = [⟨acl.text, rule.text⟩] ∧ t.ids .rule = [rule.text] ∧
      ∀ r ∈ t.rules, t.links.countP (·.rule = r.id) = 1 := by
  intro group source acl rule calls t
  have hmembers : t.members.map MemberRow.key = [(group.text, source.text)] := by decide +kernel
  have hgrants : t.grants.map GrantRow.key = [(group.text, acl.text)] := by decide +kernel
  have hlinks : t.links = [⟨acl.text, rule.text⟩] := by decide +kernel
  have hrules : t.ids .rule = [rule.text] := by decide +kernel
  exact ⟨hmembers, hgrants, hlinks, hrules, (history_referential (fun _ => true) calls).2.1⟩

end ProxyPolicy.Policy
