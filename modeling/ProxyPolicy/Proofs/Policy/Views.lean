import ProxyPolicy.Proofs.Policy.Moves

/-!
# The views of an operator

An operator sees every ACL with its rules and every group with its grants and members. A view is put
together from several questions, each answered by itself; that the answers agree holds because the
tables fit together. Each stored rule has exactly one link, so that it is in exactly one view
(`Tables.Consistent.acl_eq_of_holds`); what a grant or a membership names is there, so that it is
also in the listing of its kind; and no two rows of a group share their key, so that the
identifiers that a group shows ascend (`Tables.Decodable.exists_shown`).
-/

namespace ProxyPolicy.Policy

/-! ## The order of a listing -/

section Order

variable {α : Type} {key : α → String}

/-- What a listing by a text shows ascends, if no two rows share the text. -/
theorem pairwise_lt_sortedBy {rows : List α} (hnodup : (rows.map key).Nodup) :
    ((sortedBy (compareOn key) rows).map key).Pairwise (· < ·) := by
  have hdistinct : ((sortedBy (compareOn key) rows).map key).Nodup :=
    ((sortedBy_perm _ rows).map key).nodup_iff.mpr hnodup
  have hne := List.pairwise_map.mp hdistinct
  refine List.pairwise_map.mpr (((pairwise_sortedBy (compareOn key) rows).and hne).imp ?_)
  rintro a b ⟨hle, hne⟩
  rcases Ordering.isLE_iff_eq_lt_or_eq_eq.mp hle with hlt | heq
  · exact compareOfLessAndEq_eq_lt.mp hlt
  · exact absurd (Std.compare_eq_iff_eq.mp heq) hne

end Order

/-! ## Entities -/

section Entities

variable {α β : Type} {kind : Kind} {decode : α → Except Error β} {id : α → String}
  {make : α → Id kind → β} {order : α → α → Ordering} {rows : List α}
  (hdecode : ∀ r, decode r = do return make r (← decodeId kind 0 (id r)))

include hdecode

/-- The row of an entity decodes to what is made of its identifier. -/
theorem decode_eq_ok_iff {r : α} {x : β} :
    decode r = .ok x ↔ ∃ i, i.text = id r ∧ make r i = x := by
  simp only [hdecode, bind_eq_ok_iff, decodeId_eq_ok_iff]
  refine exists_congr fun i => and_congr_right fun _ => ?_
  exact ⟨Except.ok.inj, congrArg Except.ok⟩

/-- Entities whose identifiers decode are listed, each of them once. -/
theorem entities_perm (ident : β → Id kind) (hident : ∀ r i, ident (make r i) = i)
    (order : α → α → Ordering)
    (hrows : ∀ r ∈ rows, isUuid (id r) = true) :
    ∃ listed, (sortedBy order rows).mapM decode = .ok listed ∧
      (listed.map fun x => (ident x).text).Perm (rows.map id) := by
  obtain ⟨listed, hlisting⟩ := exists_listing order fun r hr =>
    ⟨_, (decode_eq_ok_iff hdecode).mpr ⟨⟨id r, hrows r hr⟩, rfl, rfl⟩⟩
  refine ⟨listed, hlisting, listing_perm (fun x => (ident x).text) id ?_ hlisting⟩
  intro r x hx
  obtain ⟨i, hi, rfl⟩ := (decode_eq_ok_iff hdecode).mp hx
  rw [hident, hi]

/-- The first entity of an identifier is listed as what is made of it. -/
theorem exists_listed_of_mem {i : Id kind} (hi : i.text ∈ rows.map id) {listed : List β}
    (hlisting : (sortedBy order rows).mapM decode = .ok listed) :
    ∃ row, rows.find? (fun r => id r = i.text) = some row ∧ make row i ∈ listed := by
  obtain ⟨row, hrow, hid⟩ := List.mem_map.mp hi
  have hsome : (rows.find? fun r => id r = i.text).isSome := by
    rw [List.find?_isSome]
    exact ⟨row, hrow, by simpa using hid⟩
  obtain ⟨found, hfound⟩ := Option.isSome_iff_exists.mp hsome
  have hfoundId : id found = i.text := by simpa using List.find?_some hfound
  refine ⟨found, hfound, (mem_listing hlisting).mpr ⟨found, ?_, ?_⟩⟩
  · exact List.mem_of_find?_eq_some hfound
  · exact (decode_eq_ok_iff hdecode).mpr ⟨i, hfoundId.symm, rfl⟩

end Entities

namespace Tables

variable {t : Tables}

/-- The ACL of a row has the identifier of the row. -/
theorem decode_acl (r : AclRow) :
    r.decode = do return Acl.mk (← decodeId .acl 0 r.id) (r.comment.getD "") := rfl

/-- The group of a row has the identifier of the row. -/
theorem decode_group (r : GroupRow) :
    r.decode = do return Group.mk (← decodeId .group 0 r.id) (r.comment.getD "") := rfl

/-- The source of a row has the identifier of the row. -/
theorem decode_source (r : SourceRow) :
    r.decode = do return Source.mk (← decodeId .source 0 r.id) r.source (r.comment.getD "") := rfl

/-- All ACLs are listed, each of them once. -/
theorem Decodable.exists_listAcls (h : t.Decodable) :
    ∃ acls, t.listAcls = .ok acls ∧ (acls.map (·.id.text)).Perm (t.ids .acl) := by
  unfold Tables.listAcls
  refine entities_perm decode_acl Acl.id (fun _ _ => rfl) _ ?_
  intro r hr
  exact h.isUuid_ids .acl r.id (List.mem_map_of_mem hr)

/-- All groups are listed, each of them once. -/
theorem Decodable.exists_listGroups (h : t.Decodable) :
    ∃ groups, t.listGroups = .ok groups ∧ (groups.map (·.id.text)).Perm (t.ids .group) := by
  unfold Tables.listGroups
  refine entities_perm decode_group Group.id (fun _ _ => rfl) _ ?_
  intro r hr
  exact h.isUuid_ids .group r.id (List.mem_map_of_mem hr)

/-- All sources are listed, each of them once. -/
theorem Decodable.exists_listSources (h : t.Decodable) :
    ∃ sources, t.listSources = .ok sources ∧
      (sources.map (·.id.text)).Perm (t.ids .source) := by
  unfold Tables.listSources
  refine entities_perm decode_source Source.id (fun _ _ => rfl) _ ?_
  intro r hr
  exact h.isUuid_ids .source r.id (List.mem_map_of_mem hr)

/-- An identifier is in a listing exactly when there is an entity that has it. -/
theorem mem_listed_iff {β : Type} {kind : Kind} {ident : β → Id kind} {listed : List β}
    (h : (listed.map fun x => (ident x).text).Perm (t.ids kind)) {id : Id kind} :
    id ∈ listed.map ident ↔ id.text ∈ t.ids kind := by
  have htexts : (listed.map fun x => (ident x).text) = (listed.map ident).map (·.text) := by
    rw [List.map_map]
    rfl
  rw [← h.mem_iff, htexts]
  exact (List.mem_map_of_injective fun _ _ => Id.text_injective).symm

/-! ## Questions about one entity -/

/-- A question about an entity fails when there is none of its identifier. -/
theorem require_bind_of_unknown {α : Type} {kind : Kind} {id : Id kind} (h : id.text ∉ t.ids kind)
    (next : Unit → Except Error α) : t.require id >>= next = .error (.notFound kind id.text) := by
  have hunknown : t.require id = .error (.notFound kind id.text) := by
    unfold require
    rw [if_neg (mt has_eq_true_iff.mp h)]
  rw [hunknown]
  rfl

/-- An ACL that is there is read as it is listed. -/
theorem exists_acl {acls : List Acl} (hlisted : t.listAcls = .ok acls) {id : Id .acl}
    (hid : id.text ∈ t.ids .acl) : ∃ acl ∈ acls, t.acl id = .ok acl ∧ acl.id = id := by
  unfold listAcls at hlisted
  obtain ⟨row, hfound, hmem⟩ := exists_listed_of_mem decode_acl hid hlisted
  refine ⟨_, hmem, ?_, rfl⟩
  unfold acl
  rw [hfound]

/-- An ACL that is not there is not read. -/
theorem acl_of_unknown {id : Id .acl} (h : id.text ∉ t.ids .acl) :
    t.acl id = .error (.notFound .acl id.text) := by
  have hnone : t.acls.find? (·.id = id.text) = none := by
    simpa [ids] using h
  unfold acl
  rw [hnone]

/-- A group that is there is read as it is listed. -/
theorem exists_group {groups : List Group} (hlisted : t.listGroups = .ok groups) {id : Id .group}
    (hid : id.text ∈ t.ids .group) : ∃ group ∈ groups, t.group id = .ok group ∧ group.id = id := by
  unfold listGroups at hlisted
  obtain ⟨row, hfound, hmem⟩ := exists_listed_of_mem decode_group hid hlisted
  refine ⟨_, hmem, ?_, rfl⟩
  unfold group
  rw [hfound]

/-- A group that is not there is not read. -/
theorem group_of_unknown {id : Id .group} (h : id.text ∉ t.ids .group) :
    t.group id = .error (.notFound .group id.text) := by
  have hnone : t.groups.find? (·.id = id.text) = none := by
    simpa [ids] using h
  unfold group
  rw [hnone]

/-- Keys of rows that share their first column differ in the second. -/
theorem nodup_map_of_keys {α : Type} {key : α → String × String} {rows : List α}
    (h : (rows.map key).Nodup) (group : String) :
    ((rows.filter fun r => (key r).1 = group).map fun r => (key r).2).Nodup := by
  have hkeys : ((rows.filter fun r => (key r).1 = group).map key).Nodup :=
    (List.filter_sublist.map key).nodup h
  refine List.Nodup.of_map (fun other => (group, other)) ?_
  rw [List.map_map]
  refine Eq.subst (motive := List.Nodup) (List.map_congr_left fun r hr => ?_) hkeys
  have hgroup : (key r).1 = group := by simpa using (List.mem_filter.mp hr).2
  exact Prod.ext hgroup rfl

/-- What a group has is shown right: it is what is stored for the group, with the comments, in the
order of the identifiers; and the identifiers are in the listing of their kind. -/
structure Shows {kind : Kind} (shown : List (Id kind × String)) (stored : List (String × String))
    (listed : List (Id kind)) : Prop where
  /-- What is shown is what is stored. -/
  perm : (shown.map fun e => (e.1.text, e.2)).Perm stored
  /-- The identifiers ascend. -/
  ascending : (shown.map (·.1.text)).Pairwise (· < ·)
  /-- The identifiers are listed. -/
  known : ∀ e ∈ shown, e.1 ∈ listed

/-- Rows that are read as an identifier and a comment are shown right, if they name entities that
are there and no two rows name the same. -/
theorem Decodable.exists_shown (h : t.Decodable) {α : Type} {kind : Kind}
    {decode : α → Except Error (Id kind × String)} {id comment : α → String}
    (hdecode : ∀ r, decode r = do return (← decodeId kind 0 (id r), comment r)) {rows : List α}
    (hrefs : ∀ r ∈ rows, id r ∈ t.ids kind) (hnodup : (rows.map id).Nodup)
    {listed : List (Id kind)} (hlisted : ∀ i : Id kind, i ∈ listed ↔ i.text ∈ t.ids kind) :
    ∃ shown, (sortedBy (compareOn id) rows).mapM decode = .ok shown ∧
      Shows shown (rows.map fun r => (id r, comment r)) listed := by
  have hrows : ∀ r ∈ rows, isUuid (id r) = true := by
    intro r hr
    exact h.isUuid_ids kind (id r) (hrefs r hr)
  obtain ⟨shown, hshown, hperm⟩ := entries_perm hdecode (compareOn id) hrows
  have htexts : shown.map (·.1.text) = (sortedBy (compareOn id) rows).map id := by
    refine map_eq_of_mapM (fun e : Id kind × String => e.1.text) id ?_ hshown
    intro r e he
    obtain ⟨i, hi, rfl⟩ : ∃ i : Id kind, i.text = id r ∧ (i, comment r) = e :=
      (decode_eq_ok_iff hdecode).mp he
    exact hi
  refine ⟨shown, hshown, hperm, ?_, ?_⟩
  · rw [htexts]
    exact pairwise_lt_sortedBy hnodup
  · intro e he
    obtain ⟨r, hr, heq⟩ := List.mem_map.mp (hperm.mem_iff.mp (List.mem_map_of_mem he))
    rw [hlisted, ← (Prod.mk.inj heq).1]
    exact hrefs r hr

/-- The ACLs that are granted to a group, and the comments of the grants. -/
def grantsTo (t : Tables) (group : Id .group) : List (String × String) :=
  (t.grants.filter (·.group = group.text)).map fun g => (g.acl, g.comment.getD "")

/-- The sources in a group, and the comments of the memberships. -/
def membersOf (t : Tables) (group : Id .group) : List (String × String) :=
  (t.members.filter (·.group = group.text)).map fun m => (m.source, m.comment.getD "")

/-- The ACLs that a group is granted are shown right. -/
theorem groupAcls_spec (hfit : t.Consistent) (hdecodes : t.Decodable) {group : Id .group}
    (hgroup : group.text ∈ t.ids .group) {listed : List (Id .acl)}
    (hlisted : ∀ id : Id .acl, id ∈ listed ↔ id.text ∈ t.ids .acl) :
    ∃ shown, t.groupAcls group = .ok shown ∧ Shows shown (t.grantsTo group) listed := by
  have hdecode (g : GrantRow) :
      g.decode = do return (← decodeId .acl 0 g.acl, g.comment.getD "") := rfl
  have hrefs : ∀ g ∈ t.grants.filter (·.group = group.text), g.acl ∈ t.ids .acl := by
    intro g hg
    exact (hfit.grant_refs g (List.mem_of_mem_filter hg)).2
  have hnodup := nodup_map_of_keys hfit.grant_keys group.text
  unfold groupAcls
  rw [require_eq_ok_iff.mpr hgroup]
  exact hdecodes.exists_shown hdecode hrefs hnodup hlisted

/-- The sources in a group are shown right. -/
theorem groupSources_spec (hfit : t.Consistent) (hdecodes : t.Decodable) {group : Id .group}
    (hgroup : group.text ∈ t.ids .group) {listed : List (Id .source)}
    (hlisted : ∀ id : Id .source, id ∈ listed ↔ id.text ∈ t.ids .source) :
    ∃ shown, t.groupSources group = .ok shown ∧ Shows shown (t.membersOf group) listed := by
  have hdecode (m : MemberRow) :
      m.decode = do return (← decodeId .source 0 m.source, m.comment.getD "") := rfl
  have hrefs : ∀ m ∈ t.members.filter (·.group = group.text), m.source ∈ t.ids .source := by
    intro m hm
    exact (hfit.member_refs m (List.mem_of_mem_filter hm)).2
  have hnodup := nodup_map_of_keys hfit.member_keys group.text
  unfold groupSources
  rw [require_eq_ok_iff.mpr hgroup]
  exact hdecodes.exists_shown hdecode hrefs hnodup hlisted

/-! ## Views -/

/-- On consistent tables, a rule is held by one ACL only. -/
theorem Consistent.acl_eq_of_holds (h : t.Consistent) {acl acl' : Id .acl} {rule : Rule}
    (hacl : t.Holds acl rule) (hacl' : t.Holds acl' rule) : acl = acl' := by
  have hlinks : (t.links.map (·.rule)).Nodup :=
    h.links_perm.nodup_iff.mpr (h.ids_nodup .rule)
  have hlink := List.inj_on_of_nodup_map hlinks hacl.1 hacl'.1 rfl
  exact Id.text_injective (LinkRow.mk.inj hlink).1

/-- Views of ACLs are right: there is one for each ACL of the listing, in its order; a view has the
rules that its ACL holds; and each stored rule is in one view, once. -/
structure ShowsAcls (t : Tables) (acls : List Acl) (views : List AclView) : Prop where
  /-- The views are of the ACLs that are listed, in this order. -/
  inOrder : views.map (·.acl) = acls
  /-- The ACLs that are listed are those that are stored, each once. -/
  listed : (acls.map (·.id.text)).Perm (t.ids .acl)
  /-- The rules of a view are those that the ACL lists. -/
  rules : ∀ v ∈ views, t.aclRules v.acl.id = .ok v.rules
  /-- A rule of a view is stored and linked to the ACL. -/
  holds : ∀ v ∈ views, ∀ rule ∈ v.rules, t.Holds v.acl.id rule
  /-- Every stored rule comes once in all views together. -/
  once : ∀ row ∈ t.rules, ∃ rule, row.Keeps rule ∧ (views.flatMap (·.rules)).count rule = 1

/-- On consistent tables that decode, the views of all ACLs are right. -/
theorem exists_aclViews (hfit : t.Consistent) (hdecodes : t.Decodable) {acls : List Acl}
    (hlisted : t.listAcls = .ok acls) (hperm : (acls.map (·.id.text)).Perm (t.ids .acl)) :
    ∃ views, t.aclViews = .ok views ∧ t.ShowsAcls acls views := by
  have hview (acl : Acl) (v : AclView) :
      (do return ⟨acl, ← t.aclRules acl.id⟩ : Except Error AclView) = .ok v ↔
        v.acl = acl ∧ t.aclRules acl.id = .ok v.rules := by
    rw [bind_eq_ok_iff]
    constructor
    · rintro ⟨rules, hrules, heq⟩
      obtain rfl := Except.ok.inj heq
      exact ⟨rfl, hrules⟩
    · rintro ⟨rfl, hrules⟩
      exact ⟨v.rules, hrules, rfl⟩
  have hshow : ∀ acl ∈ acls, ∃ v,
      (do return ⟨acl, ← t.aclRules acl.id⟩ : Except Error AclView) = .ok v ∧
        t.aclRules v.acl.id = .ok v.rules ∧ v.rules.Nodup ∧
        ∀ rule, rule ∈ v.rules ↔ t.Holds v.acl.id rule := by
    intro acl hacl
    have hknown : acl.id.text ∈ t.ids .acl := hperm.mem_iff.mp (List.mem_map_of_mem hacl)
    obtain ⟨rules, hrules, hnodup, hholds⟩ := aclRules_spec hfit hdecodes hknown
    exact ⟨⟨acl, rules⟩, (hview acl _).mpr ⟨rfl, hrules⟩, hrules, hnodup.of_map, hholds⟩
  obtain ⟨views, hviews, hmem⟩ := exists_mapM_of_forall hshow
  have hacls : views.map (·.acl) = acls := by
    rw [map_eq_of_mapM (·.acl) (fun acl => acl) (fun acl v h => ((hview acl v).mp h).1) hviews,
      List.map_id']
  -- No rule is in two views, since they are of different ACLs.
  have hnodup : (views.flatMap (·.rules)).Nodup := by
    have hids : (views.map (·.acl.id.text)).Nodup := by
      have htexts := hperm.nodup_iff.mpr (hfit.ids_nodup .acl)
      rw [← hacls, List.map_map] at htexts
      exact htexts
    refine List.nodup_flatMap.mpr ⟨fun v hv => (hmem v hv).2.1, ?_⟩
    refine (List.pairwise_map.mp hids).imp_of_mem ?_
    intro v v' hv hv' hne rule hrule hrule'
    have hholds : t.Holds v.acl.id rule := ((hmem v hv).2.2 rule).mp hrule
    have hholds' : t.Holds v'.acl.id rule := ((hmem v' hv').2.2 rule).mp hrule'
    exact hne (congrArg Id.text (hfit.acl_eq_of_holds hholds hholds'))
  refine ⟨views, ?_, hacls, hperm, fun v hv => (hmem v hv).1,
    fun v hv rule => ((hmem v hv).2.2 rule).mp, ?_⟩
  · unfold aclViews
    rw [hlisted]
    exact hviews
  · intro row hrow
    obtain ⟨rule, hkeeps⟩ := hdecodes.exists_keeps hrow
    refine ⟨rule, hkeeps, ?_⟩
    -- The rule has a link, whose ACL is listed and therefore has a view.
    obtain ⟨l, hl, hlink⟩ := List.mem_map.mp
      (hfit.links_perm.mem_iff.mpr (Stores.mem_ids ⟨row, hrow, hkeeps⟩))
    obtain ⟨acl, hacl, htext⟩ := List.mem_map.mp (hperm.mem_iff.mpr (hfit.link_acl l hl))
    rw [← hacls] at hacl
    obtain ⟨v, hv, rfl⟩ := List.mem_map.mp hacl
    have hholds : t.Holds v.acl.id rule := by
      refine ⟨?_, row, hrow, hkeeps⟩
      rw [htext, ← hlink]
      exact hl
    have hshown : rule ∈ views.flatMap (·.rules) :=
      List.mem_flatMap.mpr ⟨v, hv, ((hmem v hv).2.2 rule).mpr hholds⟩
    rw [hnodup.count, if_pos hshown]

/-- Views of groups are right: there is one for each group of the listing, in its order, and it
shows right what the group is granted and what is in it. -/
structure ShowsGroups (t : Tables) (groups : List Group) (acls : List Acl) (sources : List Source)
    (views : List GroupView) : Prop where
  /-- The views are of the groups that are listed, in this order. -/
  inOrder : views.map (·.group) = groups
  /-- The groups that are listed are those that are stored, each once. -/
  listed : (groups.map (·.id.text)).Perm (t.ids .group)
  /-- The ACLs of a view are those granted to the group, and they are among the ACLs listed. -/
  grants : ∀ v ∈ views, Shows v.acls (t.grantsTo v.group.id) (acls.map (·.id))
  /-- The sources of a view are those in the group, and they are among the sources listed. -/
  members : ∀ v ∈ views, Shows v.sources (t.membersOf v.group.id) (sources.map (·.id))

/-- On consistent tables that decode, the views of all groups are right. -/
theorem exists_groupViews (hfit : t.Consistent) (hdecodes : t.Decodable) {groups : List Group}
    {acls : List Acl} {sources : List Source} (hlisted : t.listGroups = .ok groups)
    (hperm : (groups.map (·.id.text)).Perm (t.ids .group))
    (hacls : (acls.map (·.id.text)).Perm (t.ids .acl))
    (hsources : (sources.map (·.id.text)).Perm (t.ids .source)) :
    ∃ views, t.groupViews = .ok views ∧ t.ShowsGroups groups acls sources views := by
  have hview (group : Group) (v : GroupView) :
      (do return ⟨group, ← t.groupAcls group.id, ← t.groupSources group.id⟩ :
        Except Error GroupView) = .ok v ↔
        v.group = group ∧ t.groupAcls group.id = .ok v.acls ∧
          t.groupSources group.id = .ok v.sources := by
    simp only [bind_eq_ok_iff]
    constructor
    · rintro ⟨granted, hgranted, members, hmembers, heq⟩
      obtain rfl := Except.ok.inj heq
      exact ⟨rfl, hgranted, hmembers⟩
    · rintro ⟨rfl, hgranted, hmembers⟩
      exact ⟨v.acls, hgranted, v.sources, hmembers, rfl⟩
  have hshow : ∀ group ∈ groups, ∃ v,
      (do return ⟨group, ← t.groupAcls group.id, ← t.groupSources group.id⟩ :
        Except Error GroupView) = .ok v ∧
        Shows v.acls (t.grantsTo v.group.id) (acls.map (·.id)) ∧
        Shows v.sources (t.membersOf v.group.id) (sources.map (·.id)) := by
    intro group hgroup
    have hknown : group.id.text ∈ t.ids .group := hperm.mem_iff.mp (List.mem_map_of_mem hgroup)
    obtain ⟨granted, hgranted, hgrants⟩ :=
      groupAcls_spec hfit hdecodes hknown fun _ => mem_listed_iff hacls
    obtain ⟨members, hmembers, hshown⟩ :=
      groupSources_spec hfit hdecodes hknown fun _ => mem_listed_iff hsources
    exact ⟨⟨group, granted, members⟩, (hview group _).mpr ⟨rfl, hgranted, hmembers⟩, hgrants,
      hshown⟩
  obtain ⟨views, hviews, hmem⟩ := exists_mapM_of_forall hshow
  refine ⟨views, ?_, ?_, hperm, fun v hv => (hmem v hv).1, fun v hv => (hmem v hv).2⟩
  · unfold groupViews
    rw [hlisted]
    exact hviews
  · rw [map_eq_of_mapM (·.group) (fun group => group) (fun group v h => ((hview group v).mp h).1)
      hviews, List.map_id']

/-- The questions about an ACL agree: both are answered if it is listed, and both find that there is
no such ACL if it is not. -/
theorem acl_questions (hfit : t.Consistent) (hdecodes : t.Decodable) {acls : List Acl}
    (hlisted : t.listAcls = .ok acls) (hperm : (acls.map (·.id.text)).Perm (t.ids .acl))
    (id : Id .acl) :
    (id ∈ acls.map (·.id) ∧ (∃ acl ∈ acls, t.acl id = .ok acl ∧ acl.id = id) ∧
      ∃ rules, t.aclRules id = .ok rules) ∨
    (id ∉ acls.map (·.id) ∧ t.acl id = .error (.notFound .acl id.text) ∧
      t.aclRules id = .error (.notFound .acl id.text)) := by
  rw [mem_listed_iff hperm]
  by_cases hid : id.text ∈ t.ids .acl
  · obtain ⟨rules, hrules, -⟩ := aclRules_spec hfit hdecodes hid
    exact .inl ⟨hid, exists_acl hlisted hid, rules, hrules⟩
  · exact .inr ⟨hid, acl_of_unknown hid, require_bind_of_unknown hid _⟩

/-- The questions about a group agree: all are answered if it is listed, and all find that there is
no such group if it is not. -/
theorem group_questions (hfit : t.Consistent) (hdecodes : t.Decodable) {groups : List Group}
    (hlisted : t.listGroups = .ok groups)
    (hperm : (groups.map (·.id.text)).Perm (t.ids .group)) (id : Id .group) :
    (id ∈ groups.map (·.id) ∧ (∃ group ∈ groups, t.group id = .ok group ∧ group.id = id) ∧
      (∃ granted, t.groupAcls id = .ok granted) ∧ ∃ members, t.groupSources id = .ok members) ∨
    (id ∉ groups.map (·.id) ∧ t.group id = .error (.notFound .group id.text) ∧
      t.groupAcls id = .error (.notFound .group id.text) ∧
      t.groupSources id = .error (.notFound .group id.text)) := by
  obtain ⟨acls, -, hacls⟩ := hdecodes.exists_listAcls
  obtain ⟨sources, -, hsources⟩ := hdecodes.exists_listSources
  rw [mem_listed_iff hperm]
  by_cases hid : id.text ∈ t.ids .group
  · obtain ⟨granted, hgranted, -⟩ := groupAcls_spec hfit hdecodes hid fun _ => mem_listed_iff hacls
    obtain ⟨members, hmembers, -⟩ :=
      groupSources_spec hfit hdecodes hid fun _ => mem_listed_iff hsources
    exact .inl ⟨hid, exists_group hlisted hid, ⟨granted, hgranted⟩, members, hmembers⟩
  · exact .inr ⟨hid, group_of_unknown hid, require_bind_of_unknown hid _,
      require_bind_of_unknown hid _⟩

end Tables

namespace Store

/-- In every state that can be reached, the views of all ACLs and of all groups are given, and they
are right: they follow the listings, every stored rule is in one view of an ACL and there once, and
the view of a group shows what is stored for it, all of it listed. And the questions about an ACL,
or about a group, are all answered if it is listed, and otherwise all find that it is not there. -/
theorem views_complete {accepts : String → Bool} {s : Store} (hs : s.Reachable accepts) :
    ∃ acls groups sources aclViews groupViews,
      s.tables.listAcls = .ok acls ∧ s.tables.listGroups = .ok groups ∧
      s.tables.listSources = .ok sources ∧
      s.tables.aclViews = .ok aclViews ∧ s.tables.ShowsAcls acls aclViews ∧
      s.tables.groupViews = .ok groupViews ∧
      s.tables.ShowsGroups groups acls sources groupViews ∧
      (∀ id : Id .acl,
        (id ∈ acls.map (·.id) ∧ (∃ acl ∈ acls, s.tables.acl id = .ok acl ∧ acl.id = id) ∧
          ∃ rules, s.tables.aclRules id = .ok rules) ∨
        (id ∉ acls.map (·.id) ∧ s.tables.acl id = .error (.notFound .acl id.text) ∧
          s.tables.aclRules id = .error (.notFound .acl id.text))) ∧
      ∀ id : Id .group,
        (id ∈ groups.map (·.id) ∧
          (∃ group ∈ groups, s.tables.group id = .ok group ∧ group.id = id) ∧
          (∃ granted, s.tables.groupAcls id = .ok granted) ∧
          ∃ members, s.tables.groupSources id = .ok members) ∨
        (id ∉ groups.map (·.id) ∧ s.tables.group id = .error (.notFound .group id.text) ∧
          s.tables.groupAcls id = .error (.notFound .group id.text) ∧
          s.tables.groupSources id = .error (.notFound .group id.text)) := by
  have hfit : s.tables.Consistent := hs.consistent
  have hdecodes : s.tables.Decodable := hs.decodable
  obtain ⟨acls, hacls, haclIds⟩ := hdecodes.exists_listAcls
  obtain ⟨groups, hgroups, hgroupIds⟩ := hdecodes.exists_listGroups
  obtain ⟨sources, hsources, hsourceIds⟩ := hdecodes.exists_listSources
  obtain ⟨aclViews, haclViews, hshowsAcls⟩ :=
    Tables.exists_aclViews hfit hdecodes hacls haclIds
  obtain ⟨groupViews, hgroupViews, hshowsGroups⟩ :=
    Tables.exists_groupViews hfit hdecodes hgroups hgroupIds haclIds hsourceIds
  exact ⟨acls, groups, sources, aclViews, groupViews, hacls, hgroups, hsources, haclViews,
    hshowsAcls, hgroupViews, hshowsGroups, Tables.acl_questions hfit hdecodes hacls haclIds,
    Tables.group_questions hfit hdecodes hgroups hgroupIds⟩

/-- A group that is granted two ACLs, the later one of which was made first, and an ACL that is not
listed. -/
theorem views_complete_populated :
    let first : Id .acl := ⟨"00000000-0000-4000-8000-000000000001", by decide⟩
    let second : Id .acl := ⟨"00000000-0000-4000-8000-000000000002", by decide⟩
    let unknown : Id .acl := ⟨"00000000-0000-4000-8000-000000000003", by decide⟩
    let group : Id .group := ⟨"00000000-0000-4000-8000-000000000004", by decide⟩
    let rule : Id .rule := ⟨"00000000-0000-4000-8000-000000000005", by decide⟩
    let fields : RuleFields := ⟨.domain, "example.org", .block, ""⟩
    let calls : List Call := [.change (.createAcl second "mail"), .change (.createAcl first "web"),
      .change (.createGroup group "staff"), .change (.createRule rule first fields),
      .change (.replaceGrants group [(second, "b"), (first, "a")])]
    let s := (Store.empty.transcript (fun _ => true) calls).2
    s.Reachable (fun _ => true) ∧ s.tables.links = [⟨first.text, rule.text⟩] ∧
      s.tables.grantsTo group = [(second.text, "b"), (first.text, "a")] ∧
      ∃ acls groups sources aclViews groupViews, s.tables.listAcls = .ok acls ∧
        s.tables.aclViews = .ok aclViews ∧ s.tables.ShowsAcls acls aclViews ∧
        s.tables.groupViews = .ok groupViews ∧
        s.tables.ShowsGroups groups acls sources groupViews ∧
        unknown ∉ acls.map (·.id) ∧ s.tables.aclRules unknown = .error (.notFound .acl unknown.text)
    := by
  intro first second unknown group rule fields calls s
  have hs : s.Reachable (fun _ => true) := ⟨calls, rfl⟩
  have hlinks : s.tables.links = [⟨first.text, rule.text⟩] := by decide +kernel
  have hgrants : s.tables.grantsTo group = [(second.text, "b"), (first.text, "a")] := by
    decide +kernel
  have hunknown : s.tables.has unknown = false := by decide +kernel
  obtain ⟨acls, groups, sources, views, views', hacls, -, -, hviews, hshows, hviews', hshows',
    hquestions, -⟩ := views_complete hs
  refine ⟨hs, hlinks, hgrants, acls, groups, sources, views, views', hacls, hviews, hshows,
    hviews', hshows', ?_⟩
  rcases hquestions unknown with ⟨-, -, rules, hrules⟩ | ⟨hmissing, -, hrules⟩
  · unfold Tables.aclRules Tables.require at hrules
    rw [hunknown] at hrules
    cases hrules
  · exact ⟨hmissing, hrules⟩

end Store

end ProxyPolicy.Policy
