import ProxyPolicy.Proofs.Policy.Consistency

/-!
# No fault of the storage reaches a caller

In every state that can be reached from the empty store, a call succeeds or fails by the caller's
own doing (`clientOnly_perform`). Two invariants carry this. The tables are consistent, so that no
statement behind the checks of its operation breaks a constraint, except the two whose refusal is
reported as what is still in use. And the texts of the tables decode (`Tables.Decodable`): an
identifier comes from a value of type `Id`, and the type and the action of a rule are the spellings
of a `RuleType` and a `RuleAction`.

`ClientOnly` says of a result that it is no fault of the storage; it is closed under the steps of
which checks and listings are made.
-/

namespace ProxyPolicy.Policy

/-! ## Results -/

/-- A result that is no fault of the storage. -/
def ClientOnly {α : Type} (r : Except Error α) : Prop := ∀ e, r = .error e → e.isClientError = true

namespace ClientOnly

variable {α β : Type}

/-- Success is no fault. -/
theorem ok (a : α) : ClientOnly (.ok a) := by
  intro e he
  cases he

/-- An error that is the caller's is no fault of the storage. -/
theorem error {e : Error} (h : e.isClientError = true) :
    ClientOnly (.error e : Except Error α) := by
  intro e' he
  cases he
  exact h

/-- A sequence of two steps is faultless if the first is, and the second is on what the first
gives. -/
theorem bind {r : Except Error α} {next : α → Except Error β} (h : ClientOnly r)
    (hnext : ∀ a, r = .ok a → ClientOnly (next a)) : ClientOnly (r >>= next) := by
  cases r with
  | error e => exact error (h e rfl)
  | ok a => exact hnext a rfl

/-- A result stays faultless when its value is changed. -/
theorem map {r : Except Error α} (f : α → β) (h : ClientOnly r) : ClientOnly (f <$> r) := by
  cases r with
  | error e => exact error (h e rfl)
  | ok a => exact ok (f a)

/-- A loop over a list is faultless if each of its steps is. -/
theorem mapM {f : α → Except Error β} {xs : List α} (h : ∀ x ∈ xs, ClientOnly (f x)) :
    ClientOnly (xs.mapM f) := by
  induction xs with
  | nil => exact ok []
  | cons x xs ih =>
    rw [List.mapM_cons]
    refine bind (h x List.mem_cons_self) fun y _ => ?_
    exact bind (ih fun x' hx' => h x' (List.mem_cons_of_mem _ hx')) fun ys _ => ok (y :: ys)

end ClientOnly

/-! ## Texts that decode -/

/-- Every spelling of a type is read back. -/
theorem RuleType.ofText?_text (type : RuleType) : RuleType.ofText? type.text = some type := by
  cases type <;> decide

/-- Every spelling of an action is read back. -/
theorem RuleAction.ofText?_text (action : RuleAction) :
    RuleAction.ofText? action.text = some action := by
  cases action <;> decide

/-- The type and the action of a row are spelled as some fields spell them. -/
def RuleRow.Spelled (r : RuleRow) : Prop :=
  ∃ f : RuleFields, r.type = f.type.text ∧ r.action = f.action.text

/-- The texts of the tables decode. -/
structure Tables.Decodable (t : Tables) : Prop where
  /-- Identifiers have the shape of identifiers. -/
  isUuid_ids : ∀ kind, ∀ id ∈ t.ids kind, isUuid id = true
  /-- Types and actions of rules are spelled as fields spell them. -/
  spelled : ∀ r ∈ t.rules, r.Spelled

namespace Tables.Decodable

open Tables

variable {t t' : Tables}

/-- No rows decode. -/
theorem empty : Tables.empty.Decodable where
  isUuid_ids kind := by cases kind <;> simp [Tables.ids, Tables.empty]
  spelled := by simp [Tables.empty]

/-- The texts decode with one more row whose texts do. -/
theorem add (h : t.Decodable) {row : Row} (hids : ∀ kind, ∀ id ∈ row.ids kind, isUuid id = true)
    (hrule : ∀ r, row = .rule r → r.Spelled) : (t.add row).Decodable where
  isUuid_ids kind id hid := by
    rw [ids_add, List.mem_append] at hid
    exact hid.elim (h.isUuid_ids kind id) (hids kind id)
  spelled r hr := by
    cases row with
    | rule new =>
      rcases List.mem_append.mp hr with hold | hnew
      · exact h.spelled r hold
      · rw [List.mem_singleton.mp hnew]
        exact hrule new rfl
    | _ => exact h.spelled r hr

/-- The texts decode with new fields in a rule. -/
theorem withFields (h : t.Decodable) (id : String) (f : RuleFields) :
    (t.withFields id f).Decodable where
  isUuid_ids kind := by
    rw [ids_withFields]
    exact h.isUuid_ids kind
  spelled r hr := by
    obtain ⟨old, hold, rfl⟩ := List.mem_map.mp hr
    by_cases hid : old.id = id
    · rw [if_pos hid]
      exact ⟨f, rfl, rfl⟩
    · rw [if_neg hid]
      exact h.spelled old hold

/-- The texts of fewer rows decode. -/
theorem of_subset (h : t.Decodable) (hids : ∀ kind, t'.ids kind ⊆ t.ids kind)
    (hrules : t'.rules ⊆ t.rules) : t'.Decodable where
  isUuid_ids kind id hid := h.isUuid_ids kind id (hids kind hid)
  spelled r hr := h.spelled r (hrules hr)

/-- The texts decode with a new source in a group. -/
theorem withSource (h : t.Decodable) (id : Id .source)
    (group source comment memberComment : String) :
    (t.withSource id.text group source comment memberComment).Decodable := by
  refine (h.add ?_ ?_).add ?_ ?_
  · intro kind
    cases kind <;> simp [Row.ids, id.isUuid_text]
  · intro r hr
    cases hr
  · simp [Row.ids]
  · intro r hr
    cases hr

/-- The texts decode with a new rule in an ACL. -/
theorem withRule (h : t.Decodable) (id : Id .rule) (acl : String) (f : RuleFields) :
    (t.withRule id.text acl f).Decodable := by
  refine (h.add ?_ ?_).add ?_ ?_
  · intro kind
    cases kind <;> simp [Row.ids, RuleFields.row, id.isUuid_text]
  · intro r hr
    cases hr
    exact ⟨f, rfl, rfl⟩
  · simp [Row.ids]
  · intro r hr
    cases hr

end Tables.Decodable

open Tables.Decodable in
/-- A call that succeeds keeps the texts decodable. -/
theorem decodable_of_effect {accepts : String → Bool} {op : Operation} {t t' : Tables}
    (heffect : op.Effect accepts t t') (h : t.Decodable) : t'.Decodable := by
  -- A row is new, and then its identifier is minted and its spellings are those of the types, or
  -- has been there before.
  cases op with
  | createAcl fresh comment =>
    obtain ⟨-, -, rfl⟩ := heffect
    refine h.add ?_ (by simp)
    intro kind
    cases kind <;> simp [Row.ids, fresh.isUuid_text]
  | createGroup fresh comment =>
    obtain ⟨-, -, rfl⟩ := heffect
    refine h.add ?_ (by simp)
    intro kind
    cases kind <;> simp [Row.ids, fresh.isUuid_text]
  | createSource fresh group source comment memberComment =>
    obtain ⟨-, -, -, -, rfl⟩ := heffect
    exact h.withSource fresh group.text source comment memberComment
  | createRule fresh acl f =>
    obtain ⟨-, -, -, -, rfl⟩ := heffect
    exact h.withRule fresh acl.text f
  | createInboxRule fresh inbox type value action =>
    obtain ⟨f, -, -, -, -, -, rfl⟩ := heffect
    exact h.withRule fresh inbox.text f
  | updateRule rule f =>
    obtain ⟨-, -, rfl⟩ := heffect
    exact h.withFields rule.text f
  | moveRules rules destination =>
    obtain ⟨-, -, rfl⟩ := heffect
    exact h.of_subset (fun kind => List.Subset.refl _) (List.Subset.refl _)
  | deleteRules rules =>
    obtain ⟨-, -, rfl⟩ := heffect
    exact h.of_subset (fun kind => (Tables.ids_dropRules_sublist t _ kind).subset)
      List.filter_sublist.subset
  | deleteAcl acl =>
    obtain ⟨-, -, rfl⟩ := heffect
    exact h.of_subset (fun kind => (Tables.ids_withoutAcl_sublist t _ kind).subset)
      (List.Subset.refl _)
  | deleteSource source =>
    obtain ⟨-, -, rfl⟩ := heffect
    exact h.of_subset (fun kind => (Tables.ids_withoutSource_sublist t _ kind).subset)
      (List.Subset.refl _)
  | replaceGrants group grants =>
    obtain ⟨-, -, -, rfl⟩ := heffect
    exact h.of_subset (fun kind => List.Subset.refl _) (List.Subset.refl _)
  | replaceMembers group members =>
    obtain ⟨-, -, -, rfl⟩ := heffect
    exact h.of_subset (fun kind => List.Subset.refl _) (List.Subset.refl _)

/-! ## Questions -/

/-- A text of the shape of an identifier decodes. -/
theorem clientOnly_decodeId {kind : Kind} {column : Nat} {text : String}
    (h : isUuid text = true) : ClientOnly (decodeId kind column text) := by
  unfold decodeId
  rw [dif_pos h]
  exact .ok _

namespace Tables

variable {t : Tables}

/-- Asking for an entity fails only as the caller's error. -/
theorem clientOnly_require {kind : Kind} (t : Tables) (id : Id kind) :
    ClientOnly (t.require id) := by
  unfold require
  cases t.has id with
  | true => exact .ok ()
  | false => exact .error rfl

/-- A listing of rows that decode is faultless. -/
theorem clientOnly_listing {α β : Type} {order : α → α → Ordering} {rows : List α}
    {decode : α → Except Error β} (h : ∀ r ∈ rows, ClientOnly (decode r)) :
    ClientOnly ((sortedBy order rows).mapM decode) := by
  refine ClientOnly.mapM fun r hr => h r ?_
  unfold sortedBy at hr
  exact List.mem_mergeSort.mp hr

/-- The rows of rules decode. -/
theorem Decodable.rule_decode (h : t.Decodable) {r : RuleRow} (hr : r ∈ t.rules) :
    ClientOnly r.decode := by
  obtain ⟨f, htype, haction⟩ := h.spelled r hr
  unfold RuleRow.decode
  refine (clientOnly_decodeId (h.isUuid_ids .rule _ (List.mem_map_of_mem hr))).bind fun id _ => ?_
  simp only [decodeType, decodeAction, htype, haction, RuleType.ofText?_text,
    RuleAction.ofText?_text]
  exact .ok _

/-- All sources are listed without fault. -/
theorem Decodable.listSources (h : t.Decodable) : ClientOnly t.listSources := by
  refine clientOnly_listing fun r hr => ?_
  have huuid := h.isUuid_ids .source _ (List.mem_map_of_mem hr)
  exact (clientOnly_decodeId huuid).bind fun _ _ => .ok _

/-- All groups are listed without fault. -/
theorem Decodable.listGroups (h : t.Decodable) : ClientOnly t.listGroups := by
  refine clientOnly_listing fun r hr => ?_
  have huuid := h.isUuid_ids .group _ (List.mem_map_of_mem hr)
  exact (clientOnly_decodeId huuid).bind fun _ _ => .ok _

/-- All ACLs are listed without fault. -/
theorem Decodable.listAcls (h : t.Decodable) : ClientOnly t.listAcls := by
  refine clientOnly_listing fun r hr => ?_
  have huuid := h.isUuid_ids .acl _ (List.mem_map_of_mem hr)
  exact (clientOnly_decodeId huuid).bind fun _ _ => .ok _

/-- The rules of an ACL are listed without fault. -/
theorem Decodable.aclRules (h : t.Decodable) (id : Id .acl) : ClientOnly (t.aclRules id) := by
  refine (clientOnly_require t id).bind fun _ _ => clientOnly_listing fun r hr => ?_
  -- A listed row is one of the rules, whatever link led to it.
  obtain ⟨l, -, hfound⟩ := List.mem_filterMap.mp hr
  exact h.rule_decode (List.mem_of_find?_eq_some hfound)

/-- The ACLs that a group is granted are listed without fault: what a grant names is there, and
decodes. -/
theorem Decodable.groupAcls (h : t.Decodable) (hfit : t.Consistent) (id : Id .group) :
    ClientOnly (t.groupAcls id) := by
  refine (clientOnly_require t id).bind fun _ _ => clientOnly_listing fun g hg => ?_
  have hacl := (hfit.grant_refs g (List.mem_of_mem_filter hg)).2
  exact (clientOnly_decodeId (h.isUuid_ids .acl _ hacl)).bind fun _ _ => .ok _

/-- The sources in a group are listed without fault: what a membership names is there, and
decodes. -/
theorem Decodable.groupSources (h : t.Decodable) (hfit : t.Consistent) (id : Id .group) :
    ClientOnly (t.groupSources id) := by
  refine (clientOnly_require t id).bind fun _ _ => clientOnly_listing fun m hm => ?_
  have hsource := (hfit.member_refs m (List.mem_of_mem_filter hm)).2
  exact (clientOnly_decodeId (h.isUuid_ids .source _ hsource)).bind fun _ _ => .ok _

/-- One group is read without fault. -/
theorem clientOnly_group (t : Tables) (id : Id .group) : ClientOnly (t.group id) := by
  unfold group
  cases t.groups.find? (·.id = id.text) with
  | some row => exact .ok _
  | none => exact .error rfl

/-- One ACL is read without fault. -/
theorem clientOnly_acl (t : Tables) (id : Id .acl) : ClientOnly (t.acl id) := by
  unfold acl
  cases t.acls.find? (·.id = id.text) with
  | some row => exact .ok _
  | none => exact .error rfl

end Tables

/-- Every question is answered without fault, if the tables are consistent and decode. -/
theorem clientOnly_answer {t : Tables} (hfit : t.Consistent) (h : t.Decodable) (query : Query) :
    ClientOnly (query.answer t) := by
  cases query with
  | listSources => exact h.listSources.map _
  | listGroups => exact h.listGroups.map _
  | listAcls => exact h.listAcls.map _
  | group id => exact (t.clientOnly_group id).map _
  | acl id => exact (t.clientOnly_acl id).map _
  | aclRules id => exact (h.aclRules id).map _
  | groupAcls id => exact (h.groupAcls hfit id).map _
  | groupSources id => exact (h.groupSources hfit id).map _
  | aclViews =>
    refine (h.listAcls.bind fun acls _ => ClientOnly.mapM fun acl _ => ?_).map _
    exact (h.aclRules acl.id).bind fun _ _ => .ok _
  | groupViews =>
    refine (h.listGroups.bind fun groups _ => ClientOnly.mapM fun group _ => ?_).map _
    refine (h.groupAcls hfit group.id).bind fun acls _ => ?_
    exact (h.groupSources hfit group.id).bind fun _ _ => .ok _

/-! ## Changes -/

/-- Whether the identifier that a change mints, if it creates something, is one that no entity of
its kind has. -/
def Operation.MintsUnused (t : Tables) : Operation → Prop
  | createAcl fresh _ => fresh.text ∉ t.ids .acl
  | createGroup fresh _ => fresh.text ∉ t.ids .group
  | createSource fresh _ _ _ _ => fresh.text ∉ t.ids .source
  | createRule fresh _ _ => fresh.text ∉ t.ids .rule
  | createInboxRule fresh _ _ _ _ => fresh.text ∉ t.ids .rule
  | _ => True

/-- The check for an empty text is faultless. -/
theorem clientOnly_requireText (field : Field) (text : String) :
    ClientOnly (requireText field text) := by
  unfold requireText
  cases text.isEmpty with
  | true => exact .error rfl
  | false => exact .ok ()

/-- The check of a rule's fields is faultless. -/
theorem clientOnly_validate (accepts : String → Bool) (f : RuleFields) :
    ClientOnly (f.validate accepts) := by
  unfold RuleFields.validate
  refine (clientOnly_requireText _ _).bind fun _ _ => ?_
  split
  · exact .error rfl
  · exact .ok ()

/-- Fields are read from texts without fault. -/
theorem clientOnly_ofTexts (type value action : String) :
    ClientOnly (RuleFields.ofTexts type value action) := by
  have htype : ClientOnly (RuleType.parse type) := by
    unfold RuleType.parse
    cases RuleType.ofText? type with
    | some _ => exact .ok _
    | none => exact .error rfl
  have haction : ClientOnly (RuleAction.parse action) := by
    unfold RuleAction.parse
    cases RuleAction.ofText? action with
    | some _ => exact .ok _
    | none => exact .error rfl
  unfold RuleFields.ofTexts
  refine (clientOnly_requireText _ _).bind fun _ _ => ?_
  refine (clientOnly_requireText _ _).bind fun _ _ => ?_
  refine (clientOnly_requireText _ _).bind fun _ _ => ?_
  exact htype.bind fun _ _ => haction.bind fun _ _ => .ok _

/-- The check for repetitions is faultless. -/
theorem clientOnly_requireDistinct {kind : Kind} (ids : List (Id kind)) :
    ClientOnly (requireDistinct ids) := by
  unfold requireDistinct
  cases firstRepeated? [] ids with
  | some id => exact .error rfl
  | none => exact .ok ()

/-- What is wrong with the arguments of a call is the caller's error. -/
theorem clientOnly_plan (accepts : String → Bool) (batch : Nat) (op : Operation) :
    ClientOnly (op.plan accepts batch) := by
  cases op with
  | createAcl fresh comment => exact (clientOnly_requireText _ _).bind fun _ _ => .ok _
  | createGroup fresh comment => exact (clientOnly_requireText _ _).bind fun _ _ => .ok _
  | createSource fresh group source comment memberComment =>
    exact (clientOnly_requireText _ _).bind fun _ _ => .ok _
  | createRule fresh acl f => exact (clientOnly_validate _ f).bind fun _ _ => .ok _
  | createInboxRule fresh inbox type value action =>
    refine (clientOnly_ofTexts type value action).bind fun f _ => ?_
    exact (clientOnly_validate _ f).bind fun _ _ => .ok _
  | updateRule rule f => exact (clientOnly_validate _ f).bind fun _ _ => .ok _
  | moveRules rules destination => exact (clientOnly_requireDistinct rules).bind fun _ _ => .ok _
  | deleteRules rules => exact (clientOnly_requireDistinct rules).bind fun _ _ => .ok _
  | deleteAcl acl => exact .ok _
  | deleteSource source => exact .ok _
  | replaceGrants group grants => exact (clientOnly_requireDistinct _).bind fun _ _ => .ok _
  | replaceMembers group members => exact (clientOnly_requireDistinct _).bind fun _ _ => .ok _

section Transactions

open Transaction

variable {t : Tables} (hfit : t.Consistent)

include hfit in
/-- A source is created without fault under an unused identifier: no membership names it yet. -/
theorem clientOnly_createSource {fresh : Id .source} (hfresh : fresh.text ∉ t.ids .source)
    (group : Id .group) (source comment memberComment : String) :
    ClientOnly (outcome (createSource fresh group source comment memberComment) t) := by
  have hkey : (group.text, fresh.text) ∉ t.members.map MemberRow.key := by
    intro hmem
    obtain ⟨m, hm, heq⟩ := List.mem_map.mp hmem
    have hsource := (hfit.member_refs m hm).2
    rw [(Prod.mk.inj heq).2] at hsource
    exact hfresh hsource
  rw [outcome_createSource, if_neg hfresh, if_neg hkey]
  split
  · exact .ok _
  · exact .error rfl

include hfit in
/-- A rule is created without fault under an unused identifier: no link names it yet. -/
theorem clientOnly_createRule {fresh : Id .rule} (hfresh : fresh.text ∉ t.ids .rule)
    (acl : Id .acl) (f : RuleFields) : ClientOnly (outcome (createRule fresh acl f) t) := by
  have hlink : fresh.text ∉ t.links.map (·.rule) := by
    intro hmem
    exact hfresh (hfit.links_perm.mem_iff.mp hmem)
  rw [outcome_createRule, if_neg hfresh, if_neg hlink]
  split
  · exact .ok _
  · exact .error rfl

/-- The search for entities that are not there is faultless. -/
theorem clientOnly_ifKnown {α : Type} {kind : Kind} (t : Tables) (entity : α → Id kind)
    (xs : List α) (t' : Tables) : ClientOnly (t.ifKnown entity xs t') := by
  unfold Tables.ifKnown
  split
  · exact .error rfl
  · exact .ok _

include hfit in
/-- No statement of a planned transaction breaks a constraint on consistent tables, if the
identifier that it mints is unused. -/
theorem clientOnly_outcome {accepts : String → Bool} {batch : Nat} {op : Operation}
    {body : Transaction Unit} (hfresh : op.MintsUnused t)
    (hplans : op.Plans accepts batch body) : ClientOnly (body.outcome t) := by
  -- A creation has one more error, of an identifier in use, which `hfresh` excludes. The tables fit
  -- together, so that its other rows have no key in use either.
  cases op with
  | createAcl fresh comment =>
    obtain ⟨-, rfl⟩ := hplans
    rw [outcome_insertAcl, if_neg hfresh]
    exact .ok _
  | createGroup fresh comment =>
    obtain ⟨-, rfl⟩ := hplans
    rw [outcome_insertGroup, if_neg hfresh]
    exact .ok _
  | createSource fresh group source comment memberComment =>
    obtain ⟨-, rfl⟩ := hplans
    exact clientOnly_createSource hfit hfresh group source comment memberComment
  | createRule fresh acl f =>
    obtain ⟨-, rfl⟩ := hplans
    exact clientOnly_createRule hfit hfresh acl f
  | createInboxRule fresh inbox type value action =>
    obtain ⟨f, -, -, rfl⟩ := hplans
    exact clientOnly_createRule hfit hfresh inbox f
  | updateRule rule f =>
    obtain ⟨-, rfl⟩ := hplans
    rw [outcome_editRule]
    split
    · exact .ok _
    · exact .error rfl
  | moveRules rules destination =>
    obtain ⟨-, -, rfl⟩ := hplans
    rcases outcome_moveRules_cases batch rules destination t with ⟨-, hok⟩ | ⟨_, _, herror⟩
    · rw [hok]
      exact .ok _
    · rw [herror]
      exact .error rfl
  | deleteRules rules =>
    obtain ⟨-, -, rfl⟩ := hplans
    rw [outcome_removeRules]
    exact clientOnly_ifKnown t _ rules _
  | deleteAcl acl =>
    obtain rfl := hplans
    rw [outcome_removeAcl]
    split_ifs
    · exact .error rfl
    · exact .ok _
    · exact .error rfl
  | deleteSource source =>
    obtain rfl := hplans
    rw [outcome_removeSource]
    split_ifs
    · exact .error rfl
    · exact .ok _
    · exact .error rfl
  | replaceGrants group grants =>
    obtain ⟨hnodup, rfl⟩ := hplans
    rw [outcome_replaceGrants group grants t hnodup]
    split
    · exact clientOnly_ifKnown t _ grants _
    · exact .error rfl
  | replaceMembers group members =>
    obtain ⟨hnodup, rfl⟩ := hplans
    rw [outcome_replaceMembers group members t hnodup]
    split
    · exact clientOnly_ifKnown t _ members _
    · exact .error rfl

end Transactions

/-! ## Calls -/

/-- Whether a call mints no identifier that is in use. -/
def Call.MintsUnused (t : Tables) : Call → Prop
  | .ask _ => True
  | .change op => op.MintsUnused t

/-- A call on a store that nobody has locked is faultless, if the tables are consistent and decode
and the identifier that it mints is unused. -/
theorem clientOnly_perform {s : Store} {c : Call} (accepts : String → Bool)
    (hlocked : s.locked = false) (hfit : s.tables.Consistent) (h : s.tables.Decodable)
    (hfresh : c.MintsUnused s.tables) : ClientOnly (s.perform accepts c).1 := by
  cases c with
  | ask query => exact clientOnly_answer hfit h query
  | change op =>
    refine ClientOnly.map (fun _ => Answer.done) ?_
    have hplanned := clientOnly_plan accepts maxBatch op
    -- The arguments are wrong, nothing is asked for, or a transaction runs.
    unfold Store.run Store.runBatched
    rcases hplan : op.plan accepts maxBatch with e | _ | body
    · exact .error (hplanned e hplan)
    · exact .ok ()
    · have hbody := clientOnly_outcome hfit hfresh (plans_of_plan hplan)
      simp only [Store.write_eq, hlocked, Bool.false_eq_true, if_false]
      rcases houtcome : body.outcome s.tables with e | ⟨_, t'⟩
      · exact .error (hbody e houtcome)
      · exact .ok ()

/-- After every history from the empty store, the texts of the tables decode. -/
theorem decodable_transcript (accepts : String → Bool) (calls : List Call) :
    (Store.empty.transcript accepts calls).2.tables.Decodable :=
  Store.transcript_keeps decodable_of_effect calls Tables.Decodable.empty

/-- The texts of the tables decode in every state that can be reached. -/
theorem Store.Reachable.decodable {accepts : String → Bool} {s : Store}
    (h : s.Reachable accepts) : s.tables.Decodable := by
  obtain ⟨calls, rfl⟩ := h
  exact decodable_transcript accepts calls

/-- After every history from the empty store, a call whose new identifier is unused succeeds or
fails by the caller's own doing, never by a fault of the storage. -/
theorem history_faultless (accepts : String → Bool) (calls : List Call) (c : Call) (e : Error)
    (hfresh : c.MintsUnused (Store.empty.transcript accepts calls).2.tables)
    (h : ((Store.empty.transcript accepts calls).2.perform accepts c).1 = .error e) :
    e.isClientError = true := by
  have hlocked := Store.transcript_locked accepts calls Store.empty
  have hfit := consistent_transcript accepts calls
  have hdecodes := decodable_transcript accepts calls
  exact clientOnly_perform accepts hlocked hfit hdecodes hfresh e h

/-- A second rule under an identifier of its own, for an ACL that is not there: the caller's
error. -/
theorem history_faultless_unknown_acl :
    let acl : Id .acl := ⟨"00000000-0000-4000-8000-000000000001", by decide⟩
    let unknown : Id .acl := ⟨"00000000-0000-4000-8000-000000000002", by decide⟩
    let first : Id .rule := ⟨"00000000-0000-4000-8000-000000000003", by decide⟩
    let second : Id .rule := ⟨"00000000-0000-4000-8000-000000000004", by decide⟩
    let fields : RuleFields := ⟨.domain, "example.org", .block, ""⟩
    let calls := [.change (.createAcl acl "web"), .change (.createRule first acl fields)]
    let s := (Store.empty.transcript (fun _ => true) calls).2
    let c := Call.change (.createRule second unknown fields)
    first.text ∈ s.tables.ids .rule ∧ c.MintsUnused s.tables ∧
      (s.perform (fun _ => true) c).1 = .error (.notFound .acl unknown.text) ∧
      (Error.notFound .acl unknown.text).isClientError = true := by
  intro acl unknown first second fields calls s c
  have hfirst : first.text ∈ s.tables.ids .rule := by decide
  have hfresh : second.text ∉ s.tables.ids .rule := by decide
  have herror : (s.perform (fun _ => true) c).1 = .error (.notFound .acl unknown.text) := by rfl
  exact ⟨hfirst, hfresh, herror, history_faultless _ calls c _ hfresh herror⟩

end ProxyPolicy.Policy
