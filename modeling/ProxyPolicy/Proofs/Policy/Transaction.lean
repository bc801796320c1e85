import ProxyPolicy.Proofs.Policy.Outcome

/-!
# What the operations do

An operation is a transaction of several statements, some of them in a loop. This module gives each
of them one equation: the checks that fail it, in the order in which they are made, or the tables
after it. A loop that adds rows adds all of them or none (`outcome_forM_require_add`), and one that
goes batch by batch changes the tables as a single statement on the whole list would
(`outcome_removeRules`, `outcome_moveRules_cases`), whatever the size of a batch.
-/

namespace ProxyPolicy.Policy

/-- The batches of a list make up the list. -/
theorem flatten_batches {α : Type} (size : Nat) (xs : List α) : (batches size xs).flatten = xs := by
  induction xs using batches.induct size with
  | case1 => simp [batches]
  | case2 x xs ih => rw [batches, List.flatten_cons, ih, List.cons_append, List.take_append_drop]

/-- Identifiers of the same text are the same. -/
theorem Id.text_injective {kind : Kind} {a b : Id kind} (h : a.text = b.text) : a = b := by
  cases a
  cases b
  simp_all

namespace Tables

/-- The outcome that gives the tables `t'` if all entities that a list names are there in `t`, and
the error for the first that is not there otherwise. -/
def ifKnown {α : Type} {kind : Kind} (t : Tables) (entity : α → Id kind) (xs : List α)
    (t' : Tables) : Except Error (Unit × Tables) :=
  match xs.find? fun x => (entity x).text ∉ t.ids kind with
  | some x => .error (.notFound kind (entity x).text)
  | none => .ok ((), t')

/-- The search for entities that are not there succeeds exactly when all are there. -/
theorem ifKnown_eq_ok_iff {α : Type} {kind : Kind} {t t' t'' : Tables} {entity : α → Id kind}
    {xs : List α} :
    t.ifKnown entity xs t' = .ok ((), t'') ↔
      (∀ x ∈ xs, (entity x).text ∈ t.ids kind) ∧ t'' = t' := by
  unfold ifKnown
  cases hfound : xs.find? fun x => (entity x).text ∉ t.ids kind with
  | some x =>
    have hunknown := List.find?_some hfound
    have hmem := List.mem_of_find?_eq_some hfound
    simp only [decide_eq_true_eq] at hunknown
    simp only [reduceCtorEq, false_iff, not_and]
    intro hknown
    exact absurd (hknown x hmem) hunknown
  | none =>
    have hknown : ∀ x ∈ xs, (entity x).text ∈ t.ids kind := by
      simpa using List.find?_eq_none.mp hfound
    simp only [Except.ok.injEq, Prod.mk.injEq, true_and]
    exact ⟨fun h => ⟨hknown, h.symm⟩, fun h => h.2.symm⟩

/-- The search goes on behind an entity that is there. -/
theorem ifKnown_cons {α : Type} {kind : Kind} (t : Tables) (entity : α → Id kind) (x : α)
    (xs : List α) (t' : Tables) :
    t.ifKnown entity (x :: xs) t' =
      if (entity x).text ∈ t.ids kind then t.ifKnown entity xs t'
      else .error (.notFound kind (entity x).text) := by
  unfold ifKnown
  rw [List.find?_cons]
  by_cases h : (entity x).text ∈ t.ids kind
  · simp [h]
  · simp [h]

/-- The tables with a new source in a group. -/
def withSource (t : Tables) (id group source comment memberComment : String) : Tables :=
  (t.add (.source ⟨id, source, some comment⟩)).add (.member ⟨group, id, some memberComment⟩)

/-- The tables with a new rule in an ACL. -/
def withRule (t : Tables) (id acl : String) (f : RuleFields) : Tables :=
  (t.add (.rule (f.row id))).add (.link ⟨acl, id⟩)

/-- The tables without these rules and their links. -/
def dropRules (t : Tables) (rules : List String) : Tables :=
  (t.withoutLinks rules).withoutRules rules

/-- The row that grants an ACL to a group. -/
def grantRow (group : Id .group) (g : Id .acl × String) : GrantRow :=
  ⟨group.text, g.1.text, some g.2⟩

/-- The row that makes a source a member of a group. -/
def memberRow (group : Id .group) (m : Id .source × String) : MemberRow :=
  ⟨group.text, m.1.text, some m.2⟩

/-- The tables with these grants in place of all grants to a group. -/
def withGrants (t : Tables) (group : Id .group) (grants : List (Id .acl × String)) : Tables :=
  { t with grants := t.grants.filter (·.group ≠ group.text) ++ grants.map (grantRow group) }

/-- The tables with these members in place of all members of a group. -/
def withMembers (t : Tables) (group : Id .group) (members : List (Id .source × String)) : Tables :=
  { t with members := t.members.filter (·.group ≠ group.text) ++ members.map (memberRow group) }

/-- Grants that are added one by one come after those that are there. -/
theorem foldl_add_grant (group : Id .group) (grants : List (Id .acl × String)) (t : Tables) :
    grants.foldl (fun t g => t.add (.grant (grantRow group g))) t =
      { t with grants := t.grants ++ grants.map (grantRow group) } := by
  induction grants generalizing t with
  | nil => simp
  | cons g gs ih =>
    rw [List.foldl_cons, ih]
    simp [add]

/-- Memberships that are added one by one come after those that are there. -/
theorem foldl_add_member (group : Id .group) (members : List (Id .source × String)) (t : Tables) :
    members.foldl (fun t m => t.add (.member (memberRow group m))) t =
      { t with members := t.members ++ members.map (memberRow group) } := by
  induction members generalizing t with
  | nil => simp
  | cons m ms ih =>
    rw [List.foldl_cons, ih]
    simp [add]

/-- Rules taken away in two steps are taken away in one. -/
theorem dropRules_dropRules (t : Tables) (as bs : List String) :
    (t.dropRules as).dropRules bs = t.dropRules (as ++ bs) := by
  simp [dropRules, withoutLinks, withoutRules, List.filter_filter, Bool.and_comm]

/-- No rules taken away leave the tables as they are. -/
@[simp]
theorem dropRules_nil (t : Tables) : t.dropRules [] = t := by
  have hlinks : t.links.filter (·.rule ∉ []) = t.links := List.filter_eq_self.mpr (by simp)
  have hrules : t.rules.filter (·.id ∉ []) = t.rules := List.filter_eq_self.mpr (by simp)
  unfold dropRules withoutLinks withoutRules
  rw [hlinks, hrules]

/-- Links pointed at an ACL stay as they are if no rules are named. -/
@[simp]
theorem retarget_nil (t : Tables) (acl : String) : t.retarget [] acl = t := by
  simp [retarget]

/-- Links pointed at an ACL in two steps are pointed at it in one. -/
theorem retarget_retarget (t : Tables) (as bs : List String) (acl : String) :
    (t.retarget as acl).retarget bs acl = t.retarget (as ++ bs) acl := by
  unfold retarget
  simp only [List.map_map, Tables.mk.injEq, true_and, and_true]
  apply List.map_congr_left
  intro l _
  grind

end Tables

namespace Transaction

/-! ## Single rows -/

/-- A source is created unless the group is unknown or one of the two new rows is there already. -/
theorem outcome_createSource (fresh : Id .source) (group : Id .group)
    (source comment memberComment : String) (t : Tables) :
    outcome (createSource fresh group source comment memberComment) t =
      if group.text ∈ t.ids .group then
        if fresh.text ∈ t.ids .source then .error (.storage (.repeatedKey "sources.source_id"))
        else if (group.text, fresh.text) ∈ t.members.map MemberRow.key then
          .error (.storage (.repeatedKey "members.group_id, members.source_id"))
        else .ok ((), t.withSource fresh.text group.text source comment memberComment)
      else .error (.notFound .group group.text) := by
  unfold createSource
  rw [outcome_require_bind]
  by_cases hgroup : group.text ∈ t.ids .group
  · rw [if_pos hgroup, if_pos hgroup]
    by_cases hfresh : fresh.text ∈ t.ids .source
    · rw [if_pos hfresh]
      exact outcome_bind_of_error (by rw [outcome_insertSource, if_pos hfresh])
    · rw [if_neg hfresh, outcome_bind_of_ok (by rw [outcome_insertSource, if_neg hfresh]),
        outcome_insertMember]
      -- The group is there, and the source is since the first statement.
      rw [if_pos (show _ ∧ _ by simp_all [Tables.ids, Tables.add])]
      rfl
  · rw [if_neg hgroup, if_neg hgroup]

/-- A rule is created unless the ACL is unknown or one of the two new rows is there already. -/
theorem outcome_createRule (fresh : Id .rule) (acl : Id .acl) (f : RuleFields) (t : Tables) :
    outcome (createRule fresh acl f) t =
      if acl.text ∈ t.ids .acl then
        if fresh.text ∈ t.ids .rule then .error (.storage (.repeatedKey "rules.rule_id"))
        else if fresh.text ∈ t.links.map (·.rule) then
          .error (.storage (.repeatedKey "aclrules.rule_id"))
        else .ok ((), t.withRule fresh.text acl.text f)
      else .error (.notFound .acl acl.text) := by
  unfold createRule
  rw [outcome_require_bind]
  by_cases hacl : acl.text ∈ t.ids .acl
  · rw [if_pos hacl, if_pos hacl]
    by_cases hfresh : fresh.text ∈ t.ids .rule
    · rw [if_pos hfresh]
      exact outcome_bind_of_error (by rw [outcome_insertRule, if_pos hfresh])
    · rw [if_neg hfresh, outcome_bind_of_ok (by rw [outcome_insertRule, if_neg hfresh]),
        outcome_insertLink]
      -- The ACL is there, and the rule is since the first statement.
      rw [if_pos (show _ ∧ _ by simp_all [Tables.ids, Tables.add])]
      rfl
  · rw [if_neg hacl, if_neg hacl]

/-- A rule gets new fields unless it is unknown. -/
theorem outcome_editRule (rule : Id .rule) (f : RuleFields) (t : Tables) :
    outcome (editRule rule f) t =
      if rule.text ∈ t.ids .rule then .ok ((), t.withFields rule.text f)
      else .error (.notFound .rule rule.text) := by
  unfold editRule
  rw [outcome_bind_of_ok (outcome_updateRule rule.text f t)]
  by_cases hrule : rule.text ∈ t.ids .rule
  · have hcount : t.rules.countP (·.id = rule.text) ≠ 0 := by
      simpa [List.countP_eq_zero, Tables.ids] using hrule
    rw [if_pos hrule, if_neg hcount]
    rfl
  · have hcount : t.rules.countP (·.id = rule.text) = 0 := by
      simpa [List.countP_eq_zero, Tables.ids] using hrule
    rw [if_neg hrule, if_pos hcount]
    rfl

/-- An ACL is taken away unless it is unknown or has rules. -/
theorem outcome_removeAcl (id : Id .acl) (t : Tables) :
    outcome (removeAcl id) t =
      if id.text ∈ t.ids .acl then
        if ∃ l ∈ t.links, l.acl = id.text then
          .error (.aclHasRules id.text (t.links.countP (·.acl = id.text)))
        else .ok ((), t.withoutAcl id.text)
      else .error (.notFound .acl id.text) := by
  unfold removeAcl
  rw [outcome_require_bind, outcome_refusedAs_deleteAcl]

/-- A source is taken away unless it is unknown or in a group. -/
theorem outcome_removeSource (id : Id .source) (t : Tables) :
    outcome (removeSource id) t =
      if id.text ∈ t.ids .source then
        if ∃ m ∈ t.members, m.source = id.text then
          .error (.sourceInUse id.text (t.members.countP (·.source = id.text)))
        else .ok ((), t.withoutSource id.text)
      else .error (.notFound .source id.text) := by
  unfold removeSource
  rw [outcome_require_bind, outcome_refusedAs_deleteSource]

/-! ## Loops that add rows -/

/-- A loop that asks for the entity of each entry and adds a row for it fails at the first entity
that is unknown, or adds all rows. The entries are to be distinct and free to be added at the start;
an entry stays free when a row for another is added, so that no statement of the loop is refused. -/
theorem outcome_forM_require_add {kind : Kind} (insert : Id kind × String → Transaction Unit)
    (row : Id kind × String → Row) (Free : Tables → Id kind × String → Prop)
    (hinsert : ∀ t e, e.1.text ∈ t.ids kind → Free t e →
      outcome (insert e) t = .ok ((), t.add (row e)))
    (hids : ∀ (t : Tables) e, (t.add (row e)).ids kind = t.ids kind)
    (hfree : ∀ (t : Tables) e e', e'.1 ≠ e.1 → Free t e' → Free (t.add (row e)) e')
    (entries : List (Id kind × String)) (t : Tables) (hnodup : (entries.map Prod.fst).Nodup)
    (hentries : ∀ e ∈ entries, Free t e) :
    outcome (entries.forM fun e => do require e.1; insert e) t =
      t.ifKnown Prod.fst entries (entries.foldl (fun t e => t.add (row e)) t) := by
  induction entries generalizing t with
  | nil => rfl
  | cons e es ih =>
    rw [List.map_cons, List.nodup_cons] at hnodup
    rw [outcome_forM_cons, Tables.ifKnown_cons]
    by_cases hknown : e.1.text ∈ t.ids kind
    · have hstep : outcome (do require e.1; insert e) t = .ok ((), t.add (row e)) := by
        rw [outcome_require_bind, if_pos hknown]
        exact hinsert t e hknown (hentries e List.mem_cons_self)
      -- The entries that are left are free also beside the row just added.
      have hleft : ∀ e' ∈ es, Free (t.add (row e)) e' := by
        intro e' he'
        refine hfree t e e' ?_ (hentries e' (List.mem_cons_of_mem _ he'))
        intro heq
        exact hnodup.1 (heq ▸ List.mem_map_of_mem he')
      rw [outcome_bind_of_ok hstep, ih (t.add (row e)) hnodup.2 hleft, if_pos hknown]
      unfold Tables.ifKnown
      rw [hids, List.foldl_cons]
    · have hstep : outcome (do require e.1; insert e) t = .error (.notFound kind e.1.text) := by
        rw [outcome_require_bind, if_neg hknown]
      rw [outcome_bind_of_error hstep, if_neg hknown]

/-- The loop that grants ACLs to a group fails at the first ACL that is unknown, or adds all grants,
if they are distinct and new. -/
theorem outcome_insertGrants (group : Id .group) (grants : List (Id .acl × String)) (t : Tables)
    (hgroup : group.text ∈ t.ids .group) (hnodup : (grants.map Prod.fst).Nodup)
    (hnew : ∀ g ∈ grants, (group.text, g.1.text) ∉ t.grants.map GrantRow.key) :
    outcome (grants.forM fun (acl, comment) => do
        require acl
        insertGrant ⟨group.text, acl.text, some comment⟩) t =
      t.ifKnown Prod.fst grants
        { t with grants := t.grants ++ grants.map (Tables.grantRow group) } := by
  rw [← Tables.foldl_add_grant]
  refine outcome_forM_require_add (fun g => insertGrant (Tables.grantRow group g))
    (fun g => .grant (Tables.grantRow group g))
    (fun t g => group.text ∈ t.ids .group ∧
      (Tables.grantRow group g).key ∉ t.grants.map GrantRow.key)
    ?_ ?_ ?_ grants t hnodup fun g hg => ⟨hgroup, hnew g hg⟩
  · rintro t g hacl ⟨hgroup, hkey⟩
    rw [outcome_insertGrant, if_neg hkey, if_pos ⟨hgroup, hacl⟩]
  · intro t g
    rfl
  · rintro t g g' hne ⟨hgroup, hkey⟩
    refine ⟨hgroup, ?_⟩
    simp only [Tables.add, List.map_append, List.mem_append, List.map_cons, List.map_nil,
      List.mem_singleton, not_or]
    exact ⟨hkey, fun heq => hne (Id.text_injective (Prod.mk.inj heq).2)⟩

/-- The loop that makes sources members of a group fails at the first source that is unknown, or
adds all memberships, if they are distinct and new. -/
theorem outcome_insertMembers (group : Id .group) (members : List (Id .source × String))
    (t : Tables) (hgroup : group.text ∈ t.ids .group) (hnodup : (members.map Prod.fst).Nodup)
    (hnew : ∀ m ∈ members, (group.text, m.1.text) ∉ t.members.map MemberRow.key) :
    outcome (members.forM fun (source, comment) => do
        require source
        insertMember ⟨group.text, source.text, some comment⟩) t =
      t.ifKnown Prod.fst members
        { t with members := t.members ++ members.map (Tables.memberRow group) } := by
  rw [← Tables.foldl_add_member]
  refine outcome_forM_require_add (fun m => insertMember (Tables.memberRow group m))
    (fun m => .member (Tables.memberRow group m))
    (fun t m => group.text ∈ t.ids .group ∧
      (Tables.memberRow group m).key ∉ t.members.map MemberRow.key)
    ?_ ?_ ?_ members t hnodup fun m hm => ⟨hgroup, hnew m hm⟩
  · rintro t m hsource ⟨hgroup, hkey⟩
    rw [outcome_insertMember, if_neg hkey, if_pos ⟨hgroup, hsource⟩]
  · intro t m
    rfl
  · rintro t m m' hne ⟨hgroup, hkey⟩
    refine ⟨hgroup, ?_⟩
    simp only [Tables.add, List.map_append, List.mem_append, List.map_cons, List.map_nil,
      List.mem_singleton, not_or]
    exact ⟨hkey, fun heq => hne (Id.text_injective (Prod.mk.inj heq).2)⟩

/-- The grants to a group are replaced unless the group or one of the ACLs is unknown. -/
theorem outcome_replaceGrants (group : Id .group) (grants : List (Id .acl × String)) (t : Tables)
    (hnodup : (grants.map Prod.fst).Nodup) :
    outcome (replaceGrants group grants) t =
      if group.text ∈ t.ids .group then t.ifKnown Prod.fst grants (t.withGrants group grants)
      else .error (.notFound .group group.text) := by
  unfold replaceGrants
  rw [outcome_require_bind]
  by_cases hgroup : group.text ∈ t.ids .group
  · -- No grant to the group is left, so that all of the list are new.
    have hnew : ∀ g ∈ grants, (group.text, g.1.text) ∉
        (t.withoutGrantsTo group.text).grants.map GrantRow.key := by
      intro g _ hmem
      simp only [Tables.withoutGrantsTo, GrantRow.key, List.mem_map, List.mem_filter,
        decide_eq_true_eq, Prod.mk.injEq] at hmem
      obtain ⟨old, ⟨-, hother⟩, hsame, -⟩ := hmem
      exact hother hsame
    rw [if_pos hgroup, if_pos hgroup, outcome_bind_of_ok (outcome_deleteGrantsTo group.text t),
      outcome_insertGrants group grants (t.withoutGrantsTo group.text) hgroup hnodup hnew]
    rfl
  · rw [if_neg hgroup, if_neg hgroup]

/-- The members of a group are replaced unless the group or one of the sources is unknown. -/
theorem outcome_replaceMembers (group : Id .group) (members : List (Id .source × String))
    (t : Tables) (hnodup : (members.map Prod.fst).Nodup) :
    outcome (replaceMembers group members) t =
      if group.text ∈ t.ids .group then t.ifKnown Prod.fst members (t.withMembers group members)
      else .error (.notFound .group group.text) := by
  unfold replaceMembers
  rw [outcome_require_bind]
  by_cases hgroup : group.text ∈ t.ids .group
  · -- No member of the group is left, so that all of the list are new.
    have hnew : ∀ m ∈ members, (group.text, m.1.text) ∉
        (t.withoutMembersOf group.text).members.map MemberRow.key := by
      intro m _ hmem
      simp only [Tables.withoutMembersOf, MemberRow.key, List.mem_map, List.mem_filter,
        decide_eq_true_eq, Prod.mk.injEq] at hmem
      obtain ⟨old, ⟨-, hother⟩, hsame, -⟩ := hmem
      exact hother hsame
    rw [if_pos hgroup, if_pos hgroup, outcome_bind_of_ok (outcome_deleteMembersOf group.text t),
      outcome_insertMembers group members (t.withoutMembersOf group.text) hgroup hnodup hnew]
    rfl
  · rw [if_neg hgroup, if_neg hgroup]

/-! ## Loops over batches -/

/-- The check that rules exist fails at the first that is unknown, and changes nothing. -/
theorem outcome_forM_require {kind : Kind} (ids : List (Id kind)) (t : Tables) :
    outcome (ids.forM require) t = t.ifKnown (fun id => id) ids t := by
  induction ids with
  | nil => rfl
  | cons id ids ih => rw [outcome_forM_cons, outcome_require_bind, ih, Tables.ifKnown_cons]

/-- A batch of rules is taken away without fail: its links are gone by the time its rules go. -/
theorem outcome_deleteBatch (rules : List (Id .rule)) (t : Tables) :
    outcome (deleteBatch rules) t = .ok ((), t.dropRules (rules.map (·.text))) := by
  unfold deleteBatch
  rw [outcome_bind_of_ok (outcome_deleteLinks _ t), outcome_deleteRules, if_neg]
  · rfl
  · rintro ⟨r, -, hr, l, hl, heq⟩
    simp only [Tables.withoutLinks, List.mem_filter, decide_eq_true_eq] at hl
    exact hl.2 (heq ▸ hr)

/-- The loop that takes rules away batch by batch takes them all away. -/
theorem outcome_forM_deleteBatch (bs : List (List (Id .rule))) (t : Tables) :
    outcome (bs.forM deleteBatch) t = .ok ((), t.dropRules (bs.flatten.map (·.text))) := by
  induction bs generalizing t with
  | nil => simp [Tables.dropRules_nil]
  | cons b bs ih =>
    rw [outcome_forM_cons, outcome_bind_of_ok (outcome_deleteBatch b t), ih,
      Tables.dropRules_dropRules, ← List.map_append, List.flatten_cons]

/-- Rules are taken away unless one is unknown; the error names the first. -/
theorem outcome_removeRules (batch : Nat) (rules : List (Id .rule)) (t : Tables) :
    outcome (removeRules batch rules) t =
      t.ifKnown (fun r => r) rules (t.dropRules (rules.map (·.text))) := by
  unfold removeRules
  rw [outcome_bind, outcome_forM_require]
  -- Once all rules are known, nothing is left that can fail.
  unfold Tables.ifKnown
  cases rules.find? fun r => r.text ∉ t.ids .rule with
  | some r => rfl
  | none =>
    simp only [Except.bind]
    rw [outcome_forM_deleteBatch, flatten_batches]

/-- The error for a missing rule says that some rule is not found. -/
theorem missingRule_eq (rules : List (Id .rule)) (t : Tables) :
    ∃ id, missingRule rules t = .notFound .rule id := ⟨_, rfl⟩

/-- A batch of rules is moved to an ACL that is there, or one of its rules is missing. -/
theorem outcome_moveBatch (destination : Id .acl) (rules : List (Id .rule)) (t : Tables)
    (hacl : destination.text ∈ t.ids .acl) :
    outcome (moveBatch destination rules) t =
      if t.links.countP (·.rule ∈ rules.map (·.text)) = rules.length then
        .ok ((), t.retarget (rules.map (·.text)) destination.text)
      else .error (missingRule rules (t.retarget (rules.map (·.text)) destination.text)) := by
  unfold moveBatch
  rw [outcome_bind_of_ok
    (by rw [outcome_retargetLinks, if_neg (fun h => h.2 hacl)])]
  by_cases hcount : t.links.countP (·.rule ∈ rules.map (·.text)) = rules.length
  · rw [if_pos hcount, if_neg (not_not_intro hcount)]
    rfl
  · rw [if_neg hcount, if_pos hcount]
    rfl

/-- The loop that moves rules batch by batch moves them all, or one of them is missing. -/
theorem outcome_forM_moveBatch_cases (destination : Id .acl) (bs : List (List (Id .rule)))
    (t : Tables) (hacl : destination.text ∈ t.ids .acl) :
    outcome (bs.forM (moveBatch destination)) t =
        .ok ((), t.retarget (bs.flatten.map (·.text)) destination.text) ∨
      ∃ id, outcome (bs.forM (moveBatch destination)) t = .error (.notFound .rule id) := by
  induction bs generalizing t with
  | nil => exact .inl (by simp)
  | cons b bs ih =>
    rw [outcome_forM_cons]
    by_cases hcount : t.links.countP (·.rule ∈ b.map (·.text)) = b.length
    · have hstep := outcome_moveBatch destination b t hacl
      rw [if_pos hcount] at hstep
      rw [outcome_bind_of_ok hstep, List.flatten_cons, List.map_append,
        ← Tables.retarget_retarget]
      -- Links that point elsewhere leave the ACLs as they are.
      exact ih _ hacl
    · have hstep := outcome_moveBatch destination b t hacl
      rw [if_neg hcount] at hstep
      obtain ⟨id, hid⟩ := missingRule_eq b (t.retarget (b.map (·.text)) destination.text)
      exact .inr ⟨id, outcome_bind_of_error (hid ▸ hstep)⟩

/-- Rules are moved to an ACL that is there, all of them or none: either the tables change as a
single statement on the whole list would change them, or a rule is missing. -/
theorem outcome_moveRules_cases (batch : Nat) (rules : List (Id .rule)) (destination : Id .acl)
    (t : Tables) :
    (destination.text ∈ t.ids .acl ∧ outcome (moveRules batch rules destination) t =
        .ok ((), t.retarget (rules.map (·.text)) destination.text)) ∨
      ∃ kind id, outcome (moveRules batch rules destination) t = .error (.notFound kind id) := by
  unfold moveRules
  rw [outcome_require_bind]
  by_cases hacl : destination.text ∈ t.ids .acl
  · rw [if_pos hacl]
    rcases outcome_forM_moveBatch_cases destination (batches batch rules) t hacl with h | ⟨id, h⟩
    · rw [flatten_batches] at h
      exact .inl ⟨hacl, h⟩
    · exact .inr ⟨.rule, id, h⟩
  · rw [if_neg hacl]
    exact .inr ⟨.acl, destination.text, rfl⟩

end Transaction

end ProxyPolicy.Policy
