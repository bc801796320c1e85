import ProxyPolicy.Policy.Operation

/-!
# The outcomes of statements

A transaction that fails is rolled back, so that nothing depends on the tables that it had reached.
`outcome` forgets them: it is the result and the tables of a transaction that succeeds, or the error
of one that fails. `outcome_bind` splits a transaction into its statements, and each statement has
one equation that gives its outcome on any tables: the constraint that refuses it, in the order in
which the constraints are checked, or the tables after it (`Tables.retarget` and its neighbors).

These equations are all that the other modules use of the statements, and `Store.write_eq` all that
they use of the store.
-/

namespace ProxyPolicy.Policy

/-- The columns of a membership that no two memberships share. -/
def MemberRow.key (m : MemberRow) : String × String := (m.group, m.source)

/-- The columns of a grant that no two grants share. -/
def GrantRow.key (g : GrantRow) : String × String := (g.group, g.acl)

/-- The row that keeps the fields of a rule. -/
def RuleFields.row (f : RuleFields) (id : String) : RuleRow :=
  ⟨id, f.type.text, f.value, f.action.text, some f.comment⟩

namespace Tables

/-- The tables with new fields in the rule of an identifier. -/
def withFields (t : Tables) (id : String) (f : RuleFields) : Tables :=
  { t with rules := t.rules.map fun r => if r.id = id then f.row r.id else r }

/-- The tables with the links of these rules pointing at one ACL. -/
def retarget (t : Tables) (rules : List String) (acl : String) : Tables :=
  { t with links := t.links.map fun l => if l.rule ∈ rules then ⟨acl, l.rule⟩ else l }

/-- The tables without the memberships of a group. -/
def withoutMembersOf (t : Tables) (group : String) : Tables :=
  { t with members := t.members.filter (·.group ≠ group) }

/-- The tables without the grants to a group. -/
def withoutGrantsTo (t : Tables) (group : String) : Tables :=
  { t with grants := t.grants.filter (·.group ≠ group) }

/-- The tables without the links of these rules. -/
def withoutLinks (t : Tables) (rules : List String) : Tables :=
  { t with links := t.links.filter (·.rule ∉ rules) }

/-- The tables without these rules. Links stay as they are. -/
def withoutRules (t : Tables) (rules : List String) : Tables :=
  { t with rules := t.rules.filter (·.id ∉ rules) }

/-- The tables without an ACL and its grants. -/
def withoutAcl (t : Tables) (id : String) : Tables :=
  { t with acls := t.acls.filter (·.id ≠ id), grants := t.grants.filter (·.acl ≠ id) }

/-- The tables without a source. -/
def withoutSource (t : Tables) (id : String) : Tables :=
  { t with sources := t.sources.filter (·.id ≠ id) }

end Tables

namespace Transaction

/-- What a transaction comes to on the tables: its result and the tables that it leaves, or its
error. -/
def outcome {α : Type} (body : Transaction α) (t : Tables) : Except Error (α × Tables) :=
  match body.run.run t with
  | (.ok a, t') => .ok (a, t')
  | (.error e, _) => .error e

/-! ## Sequences -/

/-- Giving a value succeeds and changes nothing. -/
@[simp]
theorem outcome_pure {α : Type} (a : α) (t : Tables) : outcome (pure a) t = .ok (a, t) := rfl

/-- Setting the tables succeeds. -/
@[simp]
theorem outcome_set (t t' : Tables) : outcome (set t') t = .ok ((), t') := rfl

/-- Changing the tables by a function succeeds. -/
@[simp]
theorem outcome_modify (f : Tables → Tables) (t : Tables) :
    outcome (modify f) t = .ok ((), f t) := rfl

/-- A sequence of two transactions runs the second on what the first leaves, if it succeeds. -/
theorem outcome_bind {α β : Type} (body : Transaction α) (next : α → Transaction β) (t : Tables) :
    outcome (body >>= next) t = (outcome body t).bind fun p => outcome (next p.1) p.2 := by
  unfold outcome
  simp only [ExceptT.run_bind, StateT.run_bind]
  rcases body.run.run t with ⟨r | a, t'⟩ <;> rfl

/-- A sequence that starts by reading the tables goes on with them. -/
@[simp]
theorem outcome_get_bind {α : Type} (next : Tables → Transaction α) (t : Tables) :
    outcome (get >>= next) t = outcome (next t) t := rfl

/-- A sequence that starts by setting the tables goes on from them. -/
@[simp]
theorem outcome_set_bind {α : Type} (next : Unit → Transaction α) (t t' : Tables) :
    outcome (set t' >>= next) t = outcome (next ()) t' := rfl

/-- A sequence of two transactions goes on with the second if the first succeeds. -/
theorem outcome_bind_of_ok {α β : Type} {body : Transaction α} {next : α → Transaction β}
    {t t' : Tables} {a : α} (h : outcome body t = .ok (a, t')) :
    outcome (body >>= next) t = outcome (next a) t' := by
  rw [outcome_bind, h]
  rfl

/-- A sequence of two transactions fails if the first does. -/
theorem outcome_bind_of_error {α β : Type} {body : Transaction α} {next : α → Transaction β}
    {t : Tables} {e : Error} (h : outcome body t = .error e) :
    outcome (body >>= next) t = .error e := by
  rw [outcome_bind, h]
  rfl

/-- A loop runs its step on the first member and then goes on with the others. -/
theorem outcome_forM_cons {α : Type} (step : α → Transaction Unit) (x : α) (xs : List α)
    (t : Tables) : outcome ((x :: xs).forM step) t = outcome (step x >>= fun _ => xs.forM step) t :=
  rfl

/-! ## Checks -/

/-- A sequence that starts by asking for an entity fails when there is none of its identifier. -/
theorem outcome_require_bind {α : Type} {kind : Kind} (id : Id kind) (next : Unit → Transaction α)
    (t : Tables) :
    outcome (require id >>= next) t =
      if id.text ∈ t.ids kind then outcome (next ()) t
      else .error (.notFound kind id.text) := by
  have hrequire : outcome (require id) t =
      if id.text ∈ t.ids kind then .ok ((), t) else .error (.notFound kind id.text) := by
    unfold require Tables.require Tables.has
    rw [outcome_get_bind]
    by_cases h : id.text ∈ t.ids kind
    · simp only [List.contains_iff_mem, h, if_true]
      rfl
    · simp only [List.contains_iff_mem, h, if_false]
      rfl
  rw [outcome_bind, hrequire]
  by_cases h : id.text ∈ t.ids kind
  · simp only [h, if_true]
    rfl
  · simp only [h, if_false]
    rfl

/-- A sequence that starts with a fault fails when the condition of the fault holds. -/
theorem outcome_failIf_bind {α : Type} (condition : Bool) (fault : StorageFault)
    (next : Unit → Transaction α) (t : Tables) :
    outcome (failIf condition fault >>= next) t =
      if condition then .error (.storage fault) else outcome (next ()) t := by
  unfold failIf
  cases condition <;> rfl

/-! ## New rows -/

/-- A source is added unless its identifier is taken. -/
theorem outcome_insertSource (row : SourceRow) (t : Tables) :
    outcome (insertSource row) t =
      if row.id ∈ t.ids .source then .error (.storage (.repeatedKey "sources.source_id"))
      else .ok ((), t.add (.source row)) := by
  unfold insertSource
  simp only [outcome_get_bind, outcome_failIf_bind, outcome_modify, Tables.ids, List.any_eq_true,
    List.mem_map, decide_eq_true_eq]

/-- A group is added unless its identifier is taken. -/
theorem outcome_insertGroup (row : GroupRow) (t : Tables) :
    outcome (insertGroup row) t =
      if row.id ∈ t.ids .group then .error (.storage (.repeatedKey "groups.group_id"))
      else .ok ((), t.add (.group row)) := by
  unfold insertGroup
  simp only [outcome_get_bind, outcome_failIf_bind, outcome_modify, Tables.ids, List.any_eq_true,
    List.mem_map, decide_eq_true_eq]

/-- An ACL is added unless its identifier is taken. -/
theorem outcome_insertAcl (row : AclRow) (t : Tables) :
    outcome (insertAcl row) t =
      if row.id ∈ t.ids .acl then .error (.storage (.repeatedKey "acls.acl_id"))
      else .ok ((), t.add (.acl row)) := by
  unfold insertAcl
  simp only [outcome_get_bind, outcome_failIf_bind, outcome_modify, Tables.ids, List.any_eq_true,
    List.mem_map, decide_eq_true_eq]

/-- A rule is added unless its identifier is taken. -/
theorem outcome_insertRule (row : RuleRow) (t : Tables) :
    outcome (insertRule row) t =
      if row.id ∈ t.ids .rule then .error (.storage (.repeatedKey "rules.rule_id"))
      else .ok ((), t.add (.rule row)) := by
  unfold insertRule
  simp only [outcome_get_bind, outcome_failIf_bind, outcome_modify, Tables.ids, List.any_eq_true,
    List.mem_map, decide_eq_true_eq]

/-- A membership is added unless the source is in the group already, or one of the two is not
there. -/
theorem outcome_insertMember (row : MemberRow) (t : Tables) :
    outcome (insertMember row) t =
      if row.key ∈ t.members.map MemberRow.key then
        .error (.storage (.repeatedKey "members.group_id, members.source_id"))
      else if row.group ∈ t.ids .group ∧ row.source ∈ t.ids .source then
        .ok ((), t.add (.member row))
      else .error (.storage .brokenReference) := by
  unfold insertMember
  simp only [outcome_get_bind, outcome_failIf_bind, outcome_modify, MemberRow.key,
    List.any_eq_true, List.mem_map, decide_eq_true_eq, Prod.mk.injEq, Bool.or_eq_true,
    Bool.not_eq_true', List.contains_eq_mem, decide_eq_false_iff_not,
    ← Classical.not_and_iff_not_or_not, ite_not]

/-- A rule is put into an ACL unless it is in one already, or one of the two is not there. -/
theorem outcome_insertLink (row : LinkRow) (t : Tables) :
    outcome (insertLink row) t =
      if row.rule ∈ t.links.map (·.rule) then .error (.storage (.repeatedKey "aclrules.rule_id"))
      else if row.acl ∈ t.ids .acl ∧ row.rule ∈ t.ids .rule then .ok ((), t.add (.link row))
      else .error (.storage .brokenReference) := by
  unfold insertLink
  simp only [outcome_get_bind, outcome_failIf_bind, outcome_modify, List.any_eq_true,
    List.mem_map, decide_eq_true_eq, Bool.or_eq_true, Bool.not_eq_true', List.contains_eq_mem,
    decide_eq_false_iff_not,
    ← Classical.not_and_iff_not_or_not, ite_not]

/-- An ACL is granted to a group unless it is already, or one of the two is not there. -/
theorem outcome_insertGrant (row : GrantRow) (t : Tables) :
    outcome (insertGrant row) t =
      if row.key ∈ t.grants.map GrantRow.key then
        .error (.storage (.repeatedKey "groupaccess.group_id, groupaccess.acl_id"))
      else if row.group ∈ t.ids .group ∧ row.acl ∈ t.ids .acl then .ok ((), t.add (.grant row))
      else .error (.storage .brokenReference) := by
  unfold insertGrant
  simp only [outcome_get_bind, outcome_failIf_bind, outcome_modify, GrantRow.key,
    List.any_eq_true, List.mem_map, decide_eq_true_eq, Prod.mk.injEq, Bool.or_eq_true,
    Bool.not_eq_true', List.contains_eq_mem, decide_eq_false_iff_not,
    ← Classical.not_and_iff_not_or_not, ite_not]

/-! ## Changed rows -/

/-- Giving a rule new fields succeeds, also when there is no such rule. -/
theorem outcome_updateRule (id : String) (f : RuleFields) (t : Tables) :
    outcome (updateRule id f) t = .ok (t.rules.countP (·.id = id), t.withFields id f) := rfl

/-- Pointing links at an ACL fails if there are such links and no such ACL. -/
theorem outcome_retargetLinks (rules : List String) (acl : String) (t : Tables) :
    outcome (retargetLinks rules acl) t =
      if (∃ l ∈ t.links, l.rule ∈ rules) ∧ acl ∉ t.ids .acl then
        .error (.storage .brokenReference)
      else .ok (t.links.countP (·.rule ∈ rules), t.retarget rules acl) := by
  unfold retargetLinks
  simp only [outcome_get_bind, outcome_failIf_bind, outcome_set_bind, outcome_pure,
    List.contains_eq_mem, decide_eq_true_eq, Bool.and_eq_true, Bool.not_eq_true',
    decide_eq_false_iff_not, ne_eq, List.countP_eq_zero, Classical.not_forall,
    Classical.not_not, exists_prop]
  rfl

/-! ## Rows taken away -/

/-- Taking away the memberships of a group succeeds. -/
theorem outcome_deleteMembersOf (group : String) (t : Tables) :
    outcome (deleteMembersOf group) t = .ok ((), t.withoutMembersOf group) := rfl

/-- Taking away the grants to a group succeeds. -/
theorem outcome_deleteGrantsTo (group : String) (t : Tables) :
    outcome (deleteGrantsTo group) t = .ok ((), t.withoutGrantsTo group) := rfl

/-- Taking away the links of rules succeeds. -/
theorem outcome_deleteLinks (rules : List String) (t : Tables) :
    outcome (deleteLinks rules) t = .ok ((), t.withoutLinks rules) := by
  unfold deleteLinks Tables.withoutLinks
  simp only [outcome_modify, List.contains_eq_mem, decide_not]

/-- Rules are taken away unless a link names one of them. -/
theorem outcome_deleteRules (rules : List String) (t : Tables) :
    outcome (deleteRules rules) t =
      if ∃ r ∈ t.rules, r.id ∈ rules ∧ ∃ l ∈ t.links, l.rule = r.id then
        .error (.storage .brokenReference)
      else .ok ((), t.withoutRules rules) := by
  unfold deleteRules Tables.withoutRules
  simp only [outcome_get_bind, outcome_failIf_bind, outcome_set, List.contains_eq_mem,
    List.any_eq_true, Bool.and_eq_true, decide_eq_true_eq, decide_not]

/-- An ACL is taken away unless a link names it. -/
theorem outcome_deleteAcl (id : String) (t : Tables) :
    outcome (deleteAcl id) t =
      if ∃ l ∈ t.links, l.acl = id then .error (.storage .brokenReference)
      else .ok ((), t.withoutAcl id) := by
  unfold deleteAcl
  simp only [outcome_get_bind, outcome_failIf_bind, outcome_set, List.any_eq_true,
    decide_eq_true_eq]
  rfl

/-- A source is taken away unless a membership names it. -/
theorem outcome_deleteSource (id : String) (t : Tables) :
    outcome (deleteSource id) t =
      if ∃ m ∈ t.members, m.source = id then .error (.storage .brokenReference)
      else .ok ((), t.withoutSource id) := by
  unfold deleteSource
  simp only [outcome_get_bind, outcome_failIf_bind, outcome_set, List.any_eq_true,
    decide_eq_true_eq]
  rfl

/-! ## Refused statements -/

/-- A handler goes on from the tables that the failed transaction had reached. -/
theorem run_tryCatch {α : Type} (body : Transaction α) (handle : Error → Transaction α)
    (t : Tables) :
    (tryCatch body handle).run.run t =
      match body.run.run t with
      | (.ok a, t') => (.ok a, t')
      | (.error e, t') => (handle e).run.run t' := by
  rcases h : body.run.run t with ⟨e | a, t'⟩
  · simp only [ExceptT.run, StateT.run] at h ⊢
    simp [tryCatch, tryCatchThe, MonadExceptOf.tryCatch, ExceptT.tryCatch, ExceptT.mk, bind,
      StateT.bind, h]
  · simp only [ExceptT.run, StateT.run] at h ⊢
    simp [tryCatch, tryCatchThe, MonadExceptOf.tryCatch, ExceptT.tryCatch, ExceptT.mk, bind,
      StateT.bind, h]
    rfl

/-- A statement that leaves the tables alone when it fails, with the error that its refusal by a
constraint is turned into. -/
theorem outcome_refusedAs {statement : Transaction Unit} {cause : Tables → Error} {t : Tables}
    (hkeep : ∀ e t', statement.run.run t = (.error e, t') → t' = t) :
    outcome (refusedAs statement cause) t =
      match outcome statement t with
      | .ok p => .ok p
      | .error (.storage fault) =>
        if fault.isConstraint then .error (cause t) else .error (.storage fault)
      | .error e => .error e := by
  unfold outcome refusedAs
  rw [run_tryCatch]
  rcases hrun : statement.run.run t with ⟨e | a, t'⟩
  · rw [hkeep e t' hrun]
    cases e with
    | storage fault =>
      cases h : fault.isConstraint
      · simp only [h, if_false, Bool.false_eq_true]
        rfl
      · simp only [h, if_true]
        rfl
    | _ => rfl
  · rfl

/-- A check and the setting of the tables after it leave the tables alone when the check fails. -/
theorem run_failIf_set_eq_error {condition : Bool} {fault : StorageFault} {t t₁ t' : Tables}
    {e : Error}
    (h : (do failIf condition fault; set t₁ : Transaction Unit).run.run t = (.error e, t')) :
    t' = t := by
  unfold failIf at h
  cases condition
  · cases h
  · cases h
    rfl

/-- The deletion of an ACL, with its refusal turned into an error. -/
theorem outcome_refusedAs_deleteAcl (id : String) (cause : Tables → Error) (t : Tables) :
    outcome (refusedAs (deleteAcl id) cause) t =
      if ∃ l ∈ t.links, l.acl = id then .error (cause t) else .ok ((), t.withoutAcl id) := by
  have hkeep (e : Error) (t' : Tables) (h : (deleteAcl id).run.run t = (.error e, t')) : t' = t :=
    run_failIf_set_eq_error h
  rw [outcome_refusedAs hkeep, outcome_deleteAcl]
  by_cases h : ∃ l ∈ t.links, l.acl = id
  · simp only [h, if_true, StorageFault.isConstraint]
  · simp only [h, if_false]

/-- The deletion of a source, with its refusal turned into an error. -/
theorem outcome_refusedAs_deleteSource (id : String) (cause : Tables → Error) (t : Tables) :
    outcome (refusedAs (deleteSource id) cause) t =
      if ∃ m ∈ t.members, m.source = id then .error (cause t)
      else .ok ((), t.withoutSource id) := by
  have hkeep (e : Error) (t' : Tables) (h : (deleteSource id).run.run t = (.error e, t')) :
      t' = t :=
    run_failIf_set_eq_error h
  rw [outcome_refusedAs hkeep, outcome_deleteSource]
  by_cases h : ∃ m ∈ t.members, m.source = id
  · simp only [h, if_true, StorageFault.isConstraint]
  · simp only [h, if_false]

end Transaction

/-- A store that nobody has locked takes over the tables of a transaction that succeeds, and stays
as it is when the transaction fails. -/
theorem Store.write_eq (s : Store) (body : Transaction Unit) :
    s.write body =
      if s.locked then (.error (.storage .locked), s)
      else
        match body.outcome s.tables with
        | .ok (_, t') => (.ok (), { s with tables := t' })
        | .error e => (.error e, s) := by
  unfold write Transaction.outcome
  cases s.locked with
  | true => rfl
  | false => rcases body.run.run s.tables with ⟨e | _, t'⟩ <;> rfl

end ProxyPolicy.Policy
