import ProxyPolicy.Proofs.Policy.Moves
import ProxyPolicy.Proofs.Policy.Replacement

/-!
# Independent changes

Some changes look at the identifiers that are there and change none of them: a rule is given new
fields, rules are moved, and what belongs to a group is replaced. Such a change is an `Edit`: it is
refused for its arguments, or for the first entity that it needs and that is not there, or else it
changes the tables by a function. Since no edit adds or takes away an identifier, an edit comes to
the same before and after another (`Edit.apply_apply_fst`), and both can be exchanged if their
functions can (`Edit.alike_apply`). The functions of independent changes can be exchanged up to the
order of rows of different groups, which no question sees (`Tables.Alike.answer_eq`).
-/

namespace ProxyPolicy.Policy

namespace Tables

variable {t t' : Tables}

/-! ## Tables that answer alike -/

/-- Tables that are the same but for the order of the rows of different groups. -/
structure Alike (t t' : Tables) : Prop where
  /-- All but memberships and grants is the same. -/
  rest : t' = { t with members := t'.members, grants := t'.grants }
  /-- The members of a group are the same. -/
  members : ∀ group, t'.members.filter (·.group = group) = t.members.filter (·.group = group)
  /-- The grants to a group are the same. -/
  grants : ∀ group, t'.grants.filter (·.group = group) = t.grants.filter (·.group = group)

/-- Tables are alike to themselves. -/
theorem Alike.refl (t : Tables) : t.Alike t := ⟨rfl, fun _ => rfl, fun _ => rfl⟩

/-- Tables that are the same are alike. -/
theorem Alike.of_eq (h : t = t') : t.Alike t' := h ▸ .refl t

/-- Tables that are alike give the same answer to every question. -/
theorem Alike.answer_eq (h : t.Alike t') (q : Query) : q.answer t' = q.answer t := by
  obtain ⟨hrest, hmembers, hgrants⟩ := h
  -- Only memberships and grants can differ, and they are read group by group.
  generalize t'.members = members at hrest hmembers
  generalize t'.grants = grants at hrest hgrants
  subst hrest
  have hsources (id : Id .group) :
      { t with members := members, grants := grants }.groupSources id = t.groupSources id := by
    unfold groupSources
    rw [hmembers]
    rfl
  have hacls (id : Id .group) :
      { t with members := members, grants := grants }.groupAcls id = t.groupAcls id := by
    unfold groupAcls
    rw [hgrants]
    rfl
  cases q with
  | groupSources id => simp only [Query.answer, hsources]
  | groupAcls id => simp only [Query.answer, hacls]
  | groupViews =>
    simp only [Query.answer, groupViews, hsources, hacls]
    rfl
  | _ => rfl

end Tables

/-! ## Edits -/

/-- The outcome of asking for entities in turn: the first that is not there is refused. -/
def Tables.lookUp (t : Tables) (needs : List (Kind × String)) : Except Error Unit :=
  match needs.find? fun n => n.2 ∉ t.ids n.1 with
  | some n => .error (.notFound n.1 n.2)
  | none => .ok ()

/-- A change that looks at identifiers only, and changes none. -/
structure Edit where
  /-- Whether its arguments are refused by themselves. -/
  arguments : Except Error Unit
  /-- The entities that must be there, in the order in which they are looked up. -/
  needs : List (Kind × String)
  /-- The tables after the change. -/
  change : Tables → Tables
  /-- The identifiers stay the same. -/
  ids_change : ∀ t, (change t).ids = t.ids

namespace Edit

/-- Whether an edit can be made, or the reason why it is refused. -/
def check (e : Edit) (t : Tables) : Except Error Unit := do
  e.arguments
  t.lookUp e.needs

/-- What an edit gives on a store, and the store after it. -/
def apply (e : Edit) (s : Store) : Except Error Unit × Store :=
  match e.check s.tables with
  | .ok () => (.ok (), { s with tables := e.change s.tables })
  | .error err => (.error err, s)

variable (a b e : Edit) (s : Store)

/-- An edit is checked by the identifiers. -/
theorem check_congr {t t' : Tables} (h : t'.ids = t.ids) : e.check t' = e.check t := by
  unfold check Tables.lookUp
  rw [h]

/-- An edit gives what its check gives. -/
theorem apply_fst : (e.apply s).1 = e.check s.tables := by
  unfold apply
  cases e.check s.tables with
  | ok _ => rfl
  | error _ => rfl

/-- An edit changes the tables if its check succeeds. -/
theorem tables_apply_of_ok (h : e.check s.tables = .ok ()) :
    (e.apply s).2.tables = e.change s.tables := by
  unfold apply
  rw [h]

/-- An edit leaves the store as it is if its check fails. -/
theorem apply_snd_of_error {err : Error} (h : e.check s.tables = .error err) :
    (e.apply s).2 = s := by
  unfold apply
  rw [h]

/-- An edit changes no identifiers. -/
theorem ids_apply : (e.apply s).2.tables.ids = s.tables.ids := by
  cases h : e.check s.tables with
  | ok _ => rw [tables_apply_of_ok e s h, e.ids_change]
  | error err => rw [apply_snd_of_error e s h]

/-- An edit is checked after another as before it. -/
theorem check_apply : a.check (b.apply s).2.tables = a.check s.tables :=
  a.check_congr (b.ids_apply s)

/-- An edit comes to the same after another as before it. -/
theorem apply_apply_fst : (a.apply (b.apply s).2).1 = (a.apply s).1 := by
  rw [apply_fst, apply_fst, check_apply]

/-- Two edits can be exchanged if their changes can. -/
theorem alike_apply (h : (b.change (a.change s.tables)).Alike (a.change (b.change s.tables))) :
    (b.apply (a.apply s).2).2.tables.Alike (a.apply (b.apply s).2).2.tables := by
  have ha := check_apply a b s
  have hb := check_apply b a s
  cases hfirst : a.check s.tables with
  | error err =>
    -- The first edit fails in both places, and the other is made alone.
    rw [hfirst] at ha
    rw [apply_snd_of_error a s hfirst, apply_snd_of_error a _ ha]
    exact .refl _
  | ok _ =>
    cases hsecond : b.check s.tables with
    | error err =>
      rw [hsecond] at hb
      rw [apply_snd_of_error b s hsecond, apply_snd_of_error b _ hb]
      exact .refl _
    | ok _ =>
      rw [hfirst] at ha
      rw [hsecond] at hb
      rw [tables_apply_of_ok b _ hb, tables_apply_of_ok a s hfirst, tables_apply_of_ok a _ ha,
        tables_apply_of_ok b s hsecond]
      exact h

/-! ## The edits of the calls -/

/-- Gives a rule new fields. -/
def ofUpdate (accepts : String → Bool) (rule : Id .rule) (f : RuleFields) : Edit where
  arguments := f.validate accepts
  needs := [(.rule, rule.text)]
  change t := t.withFields rule.text f
  ids_change t := funext (Tables.ids_withFields t rule.text f)

/-- Moves rules to an ACL. -/
def ofMove (rules : List (Id .rule)) (destination : Id .acl) : Edit where
  arguments := requireDistinct rules
  needs :=
    if rules = [] then [] else (.acl, destination.text) :: rules.map fun r => (.rule, r.text)
  change t := t.retarget (rules.map (·.text)) destination.text
  ids_change _ := rfl

/-- Replaces what belongs to a group. -/
def ofReplacement {kind : Kind} (group : Id .group) (entries : List (Id kind × String))
    (change : Tables → Tables) (ids_change : ∀ t, (change t).ids = t.ids) : Edit where
  arguments := requireDistinct (entries.map Prod.fst)
  needs := (.group, group.text) :: entries.map fun e => (kind, e.1.text)
  change := change
  ids_change := ids_change

/-- Replaces the members of a group. -/
def ofMembers (group : Id .group) (members : List (Id .source × String)) : Edit :=
  .ofReplacement group members (·.withMembers group members) fun _ => rfl

/-- Replaces the grants to a group. -/
def ofGrants (group : Id .group) (grants : List (Id .acl × String)) : Edit :=
  .ofReplacement group grants (·.withGrants group grants) fun _ => rfl

end Edit

/-- A transaction asks for an entity and then for those of a list. -/
theorem Tables.ifKnown_eq_lookUp {α : Type} {kind kind' : Kind} (t t' : Tables) (x : String)
    (entity : α → Id kind') (xs : List α) :
    (if x ∈ t.ids kind then t.ifKnown entity xs t' else .error (.notFound kind x)) =
      (t.lookUp ((kind, x) :: xs.map fun y => (kind', (entity y).text))).map fun _ => ((), t') := by
  unfold lookUp ifKnown
  by_cases hx : x ∈ t.ids kind
  · rw [if_pos hx, List.find?_cons_of_neg (by simpa using hx), List.find?_map]
    unfold Function.comp
    cases xs.find? fun y => (entity y).text ∉ t.ids kind' with
    | some y => rfl
    | none => rfl
  · rw [if_neg hx, List.find?_cons_of_pos (by simpa using hx)]
    rfl

namespace Store

variable {accepts : String → Bool} {s : Store}

/-- A call is an edit if it checks the arguments of the edit, and its transaction what the edit
needs. -/
theorem run_eq_apply {op : Operation} {body : Transaction Unit} {e : Edit}
    (hlocked : s.locked = false)
    (hplan : op.plan accepts maxBatch = do
      e.arguments
      return some body)
    (houtcome : e.arguments = .ok () → body.outcome s.tables =
      (s.tables.lookUp e.needs).map fun _ => ((), e.change s.tables)) :
    s.run accepts op = e.apply s := by
  unfold run runBatched Edit.apply Edit.check
  rw [hplan]
  cases harguments : e.arguments with
  | error err => rfl
  | ok _ =>
    change s.write body = match s.tables.lookUp e.needs with
      | .ok () => (.ok (), { s with tables := e.change s.tables })
      | .error err => (.error err, s)
    rw [write_eq, hlocked, houtcome harguments]
    cases s.tables.lookUp e.needs with
    | error err => rfl
    | ok _ => rfl

end Store

/-- A call that is an edit in every state that can be reached. -/
def Operation.IsEdit (accepts : String → Bool) (op : Operation) (e : Edit) : Prop :=
  ∀ {s : Store}, s.Reachable accepts → s.run accepts op = e.apply s

section Calls

variable (accepts : String → Bool)

/-- Giving a rule new fields is an edit. -/
theorem isEdit_updateRule (rule : Id .rule) (f : RuleFields) :
    Operation.IsEdit accepts (.updateRule rule f) (.ofUpdate accepts rule f) := by
  intro s hs
  refine Store.run_eq_apply hs.locked_eq_false rfl fun _ => ?_
  rw [Transaction.outcome_editRule]
  exact Tables.ifKnown_eq_lookUp s.tables _ rule.text (fun r : Id .rule => r) []

/-- Moving rules is an edit. -/
theorem isEdit_moveRules (rules : List (Id .rule)) (destination : Id .acl) :
    Operation.IsEdit accepts (.moveRules rules destination) (.ofMove rules destination) := by
  intro s hs
  by_cases hempty : rules = []
  · -- No rules ask for nothing, not even for the ACL.
    subst hempty
    have hchange : (Edit.ofMove [] destination).change s.tables = s.tables :=
      Tables.retarget_nil s.tables destination.text
    unfold Edit.apply
    rw [hchange]
    rfl
  · have hplan : Operation.plan accepts maxBatch (.moveRules rules destination) = do
        (Edit.ofMove rules destination).arguments
        return some (.moveRules maxBatch rules destination) := by
      simp only [Operation.plan, List.isEmpty_iff, hempty, if_false]
      rfl
    have hneeds : (Edit.ofMove rules destination).needs =
        (.acl, destination.text) :: rules.map fun r => (.rule, r.text) := if_neg hempty
    refine Store.run_eq_apply hs.locked_eq_false hplan fun harguments => ?_
    have hnodup := (requireDistinct_eq_ok_iff rules).mp harguments
    rw [Transaction.outcome_moveRules hs.consistent maxBatch hnodup, hneeds]
    exact Tables.ifKnown_eq_lookUp s.tables _ destination.text (fun r => r) rules

/-- Replacing the members of a group is an edit. -/
theorem isEdit_replaceMembers (group : Id .group) (members : List (Id .source × String)) :
    Operation.IsEdit accepts (.replaceMembers group members) (.ofMembers group members) := by
  intro s hs
  refine Store.run_eq_apply hs.locked_eq_false rfl fun harguments => ?_
  have hnodup := (requireDistinct_eq_ok_iff _).mp harguments
  rw [Transaction.outcome_replaceMembers group members s.tables hnodup]
  exact Tables.ifKnown_eq_lookUp s.tables _ group.text Prod.fst members

/-- Replacing the grants to a group is an edit. -/
theorem isEdit_replaceGrants (group : Id .group) (grants : List (Id .acl × String)) :
    Operation.IsEdit accepts (.replaceGrants group grants) (.ofGrants group grants) := by
  intro s hs
  refine Store.run_eq_apply hs.locked_eq_false rfl fun harguments => ?_
  have hnodup := (requireDistinct_eq_ok_iff _).mp harguments
  rw [Transaction.outcome_replaceGrants group grants s.tables hnodup]
  exact Tables.ifKnown_eq_lookUp s.tables _ group.text Prod.fst grants

end Calls

/-! ## Changes that can be exchanged -/

namespace Tables

variable (t : Tables)

/-- Fields of different rules are changed in either order. -/
theorem withFields_comm {rule rule' : String} (hne : rule ≠ rule') (f f' : RuleFields) :
    (t.withFields rule f).withFields rule' f' = (t.withFields rule' f').withFields rule f := by
  unfold withFields
  simp only [List.map_map, Tables.mk.injEq, true_and, and_true]
  refine List.map_congr_left fun r _ => ?_
  by_cases h : r.id = rule
  · simp [h, RuleFields.row, hne]
  · by_cases h' : r.id = rule' <;> simp [h, h', RuleFields.row, hne.symm]

/-- Links of different rules are pointed at ACLs in either order. -/
theorem retarget_comm {rules rules' : List String} (hdisjoint : rules.Disjoint rules')
    (acl acl' : String) :
    (t.retarget rules acl).retarget rules' acl' = (t.retarget rules' acl').retarget rules acl := by
  unfold retarget
  simp only [List.map_map, Tables.mk.injEq, true_and, and_true]
  refine List.map_congr_left fun l _ => ?_
  by_cases h : l.rule ∈ rules
  · have h' : l.rule ∉ rules' := fun hmem => hdisjoint h hmem
    simp [h, h']
  · by_cases h' : l.rule ∈ rules' <;> simp [h, h']

/-- What belongs to different groups is replaced in either order, but for the order of rows of
different groups. -/
theorem filter_replaced_comm {α : Type} {key : α → String} {a b : String} (hne : a ≠ b)
    (rows : List α) {new new' : List α} (hnew : ∀ r ∈ new, key r = a)
    (hnew' : ∀ r ∈ new', key r = b) (group : String) :
    ((rows.filter (key · ≠ b) ++ new').filter (key · ≠ a) ++ new).filter (key · = group) =
      ((rows.filter (key · ≠ a) ++ new).filter (key · ≠ b) ++ new').filter (key · = group) := by
  -- A group has what was put in for it last, and nothing else was put in for it.
  by_cases ha : group = a
  · subst ha
    rw [filter_replaced _ hnew, filter_replaced_of_ne hne _ hnew', filter_replaced _ hnew]
  · by_cases hb : group = b
    · subst hb
      rw [filter_replaced _ hnew', filter_replaced_of_ne hne.symm _ hnew, filter_replaced _ hnew']
    · rw [filter_replaced_of_ne ha _ hnew, filter_replaced_of_ne hb _ hnew',
        filter_replaced_of_ne hb _ hnew', filter_replaced_of_ne ha _ hnew]

/-- Members of different groups are replaced in either order. -/
theorem alike_withMembers_comm {group group' : Id .group} (hne : group ≠ group')
    (members members' : List (Id .source × String)) :
    ((t.withMembers group members).withMembers group' members').Alike
      ((t.withMembers group' members').withMembers group members) where
  rest := rfl
  members := filter_replaced_comm (mt Id.text_injective hne) t.members
    (List.forall_mem_map.mpr fun _ _ => rfl) (List.forall_mem_map.mpr fun _ _ => rfl)
  grants _ := rfl

/-- Grants to different groups are replaced in either order. -/
theorem alike_withGrants_comm {group group' : Id .group} (hne : group ≠ group')
    (grants grants' : List (Id .acl × String)) :
    ((t.withGrants group grants).withGrants group' grants').Alike
      ((t.withGrants group' grants').withGrants group grants) where
  rest := rfl
  members _ := rfl
  grants := filter_replaced_comm (mt Id.text_injective hne) t.grants
    (List.forall_mem_map.mpr fun _ _ => rfl) (List.forall_mem_map.mpr fun _ _ => rfl)

end Tables

/-! ## Independent calls -/

/-- Calls that do not touch the same rows: fields against links, fields of different rules, links of
different rules, members against grants, and members or grants of different groups. -/
inductive Independent : Operation → Operation → Prop where
  /-- A move and new fields, also of a rule that is moved. -/
  | moveUpdate (rules : List (Id .rule)) (destination : Id .acl) (rule : Id .rule)
    (f : RuleFields) : Independent (.moveRules rules destination) (.updateRule rule f)
  /-- New fields of different rules. -/
  | updates {rule rule' : Id .rule} (hne : rule ≠ rule') (f f' : RuleFields) :
    Independent (.updateRule rule f) (.updateRule rule' f')
  /-- Moves of lists without a common rule. -/
  | moves {rules rules' : List (Id .rule)} (hdisjoint : rules.Disjoint rules')
    (destination destination' : Id .acl) :
    Independent (.moveRules rules destination) (.moveRules rules' destination')
  /-- New members and new grants, also of one group. -/
  | membersGrants (group group' : Id .group) (members : List (Id .source × String))
    (grants : List (Id .acl × String)) :
    Independent (.replaceMembers group members) (.replaceGrants group' grants)
  /-- New members of different groups. -/
  | members {group group' : Id .group} (hne : group ≠ group')
    (members members' : List (Id .source × String)) :
    Independent (.replaceMembers group members) (.replaceMembers group' members')
  /-- New grants to different groups. -/
  | grants {group group' : Id .group} (hne : group ≠ group')
    (grants grants' : List (Id .acl × String)) :
    Independent (.replaceGrants group grants) (.replaceGrants group' grants')

/-- Independent calls are edits whose changes can be exchanged. -/
theorem Independent.exists_edits {a b : Operation} (h : Independent a b)
    (accepts : String → Bool) :
    ∃ e e' : Edit, a.IsEdit accepts e ∧ b.IsEdit accepts e' ∧
      ∀ t, (e'.change (e.change t)).Alike (e.change (e'.change t)) := by
  cases h with
  | moveUpdate rules destination rule f =>
    exact ⟨_, _, isEdit_moveRules accepts rules destination, isEdit_updateRule accepts rule f,
      fun t => .refl _⟩
  | updates hne f f' =>
    refine ⟨_, _, isEdit_updateRule accepts _ f, isEdit_updateRule accepts _ f', fun t => ?_⟩
    exact .of_eq (t.withFields_comm (mt Id.text_injective hne) f f')
  | moves hdisjoint destination destination' =>
    refine ⟨_, _, isEdit_moveRules accepts _ destination, isEdit_moveRules accepts _ destination',
      fun t => ?_⟩
    have htexts := List.disjoint_map (fun _ _ => Id.text_injective) hdisjoint
    exact .of_eq (t.retarget_comm htexts destination.text destination'.text)
  | membersGrants group group' members grants =>
    exact ⟨_, _, isEdit_replaceMembers accepts group members,
      isEdit_replaceGrants accepts group' grants, fun t => .refl _⟩
  | members hne members members' =>
    exact ⟨_, _, isEdit_replaceMembers accepts _ members, isEdit_replaceMembers accepts _ members',
      fun t => t.alike_withMembers_comm hne members members'⟩
  | grants hne grants grants' =>
    exact ⟨_, _, isEdit_replaceGrants accepts _ grants, isEdit_replaceGrants accepts _ grants',
      fun t => t.alike_withGrants_comm hne grants grants'⟩

namespace Store

variable {accepts : String → Bool} {s : Store}

/-- Two calls commute on a store: each gives the same before and after the other, and every question
has the same answer at the end in either order. -/
structure Commutes (accepts : String → Bool) (s : Store) (a b : Operation) : Prop where
  /-- The first gives the same after the second. -/
  first : ((s.run accepts b).2.run accepts a).1 = (s.run accepts a).1
  /-- The second gives the same after the first. -/
  second : ((s.run accepts a).2.run accepts b).1 = (s.run accepts b).1
  /-- The answers at the end are the same. -/
  answers : ∀ q : Query, q.answer ((s.run accepts a).2.run accepts b).2.tables =
    q.answer ((s.run accepts b).2.run accepts a).2.tables

/-- In every state that can be reached, independent calls commute, whether they succeed or fail. -/
theorem commutes_of_independent (hs : s.Reachable accepts) {a b : Operation}
    (h : Independent a b) : s.Commutes accepts a b := by
  obtain ⟨e, e', ha, hb, halike⟩ := h.exists_edits accepts
  have hab := hb (hs.run a)
  have hba := ha (hs.run b)
  rw [ha hs] at hab
  rw [hb hs] at hba
  refine ⟨?_, ?_, fun q => ?_⟩
  · rw [ha hs, hb hs, hba, Edit.apply_apply_fst]
  · rw [ha hs, hb hs, hab, Edit.apply_apply_fst]
  · rw [ha hs, hb hs, hab, hba]
    exact ((e.alike_apply e' s (halike s.tables)).answer_eq q).symm

/-- New members of two groups, which leave rows in different orders, and new members of which one is
unknown. -/
theorem commutes_of_independent_reordered :
    let group : Id .group := ⟨"00000000-0000-4000-8000-000000000001", by decide⟩
    let other : Id .group := ⟨"00000000-0000-4000-8000-000000000002", by decide⟩
    let a : Id .source := ⟨"00000000-0000-4000-8000-000000000003", by decide⟩
    let unknown : Id .source := ⟨"00000000-0000-4000-8000-000000000004", by decide⟩
    let calls : List Call := [.change (.createGroup group "staff"),
      .change (.createGroup other "guests"), .change (.createSource a group "10.0.0.1" "" "desk")]
    let s := (Store.empty.transcript (fun _ => true) calls).2
    let first : Operation := .replaceMembers group [(a, "phone")]
    let second : Operation := .replaceMembers other [(a, "")]
    let failing : Operation := .replaceMembers other [(unknown, "")]
    let end₁ := ((s.run (fun _ => true) first).2.run (fun _ => true) second).2.tables
    let end₂ := ((s.run (fun _ => true) second).2.run (fun _ => true) first).2.tables
    s.Reachable (fun _ => true) ∧ Independent first second ∧ Independent first failing ∧
      end₁.members = [⟨group.text, a.text, some "phone"⟩, ⟨other.text, a.text, some ""⟩] ∧
      end₂.members = [⟨other.text, a.text, some ""⟩, ⟨group.text, a.text, some "phone"⟩] ∧
      (s.run (fun _ => true) failing).1 = .error (.notFound .source unknown.text) ∧
      s.Commutes (fun _ => true) first second ∧ s.Commutes (fun _ => true) first failing := by
  intro group other a unknown calls s first second failing end₁ end₂
  have hs : s.Reachable (fun _ => true) := ⟨calls, rfl⟩
  have hne : group ≠ other := by decide
  have hsecond : Independent first second := .members hne _ _
  have hfailing : Independent first failing := .members hne _ _
  have hend₁ : end₁.members =
      [⟨group.text, a.text, some "phone"⟩, ⟨other.text, a.text, some ""⟩] := by decide +kernel
  have hend₂ : end₂.members =
      [⟨other.text, a.text, some ""⟩, ⟨group.text, a.text, some "phone"⟩] := by decide +kernel
  have herror : (s.run (fun _ => true) failing).1 =
      .error (.notFound .source unknown.text) := by decide +kernel
  exact ⟨hs, hsecond, hfailing, hend₁, hend₂, herror, commutes_of_independent hs hsecond,
    commutes_of_independent hs hfailing⟩

end Store

end ProxyPolicy.Policy
