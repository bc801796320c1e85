import ProxyPolicy.Proofs.Policy.Views

/-!
# Deleting what is still in use

An ACL is deleted only if it has no rules. Two relations name it, and they react in opposite ways: a
link keeps the ACL from being deleted, and a grant goes with it. `Store.deleteAcl_exact` says which
of both happens and what is left. The number that a refusal gives counts links, while an operator
sees rules; both agree since each link of an ACL leads to a rule that the ACL lists
(`Tables.Consistent.length_aclRules`). What a listing shows of the rows that are left is what it
showed before without the others, in the same order, since sorting is stable (`sortedBy_filter`).
-/

namespace ProxyPolicy.Policy

/-! ## Listings of some of the rows -/

section Listings

variable {α β : Type}

/-- A row that is added in front is listed somewhere among the others: behind those that come before
it in the order, and before all the rest. -/
theorem exists_sortedBy_cons (order : α → α → Ordering) [Std.TransCmp order] (r : α)
    (rows : List α) :
    ∃ before after, sortedBy order (r :: rows) = before ++ r :: after ∧
      sortedBy order rows = before ++ after ∧ (∀ b ∈ before, (order r b).isLE = false) ∧
      ∀ b ∈ after, (order r b).isLE = true := by
  have htrans (a b c : α) (hab : (order a b).isLE) (hbc : (order b c).isLE) : (order a c).isLE :=
    Std.TransCmp.isLE_trans hab hbc
  obtain ⟨before, after, hcons, htail, hbefore⟩ :=
    List.mergeSort_cons htrans (isLE_or_isLE order) r rows
  refine ⟨before, after, hcons, htail, by simpa using hbefore, ?_⟩
  have hsorted := pairwise_sortedBy order (r :: rows)
  rw [sortedBy, hcons, List.pairwise_append] at hsorted
  exact (List.pairwise_cons.mp hsorted.2.1).1

variable {order : α → α → Ordering} [Std.TransCmp order]

/-- The place of a row that is added in front is given by the order. -/
theorem sortedBy_cons (r : α) (rows : List α) :
    sortedBy order (r :: rows) =
      (sortedBy order rows).filter (fun b => !(order r b).isLE) ++
        r :: (sortedBy order rows).filter fun b => (order r b).isLE := by
  obtain ⟨before, after, hcons, htail, hbefore, hafter⟩ := exists_sortedBy_cons order r rows
  have hfront : (before ++ after).filter (fun b => !(order r b).isLE) = before := by
    rw [List.filter_append, List.filter_eq_self.mpr, List.filter_eq_nil_iff.mpr, List.append_nil]
    · intro b hb
      simp [hafter b hb]
    · intro b hb
      simp [hbefore b hb]
  have hback : (before ++ after).filter (fun b => (order r b).isLE) = after := by
    rw [List.filter_append, List.filter_eq_nil_iff.mpr, List.filter_eq_self.mpr, List.nil_append]
    · exact hafter
    · intro b hb
      simp [hbefore b hb]
  rw [hcons, htail, hfront, hback]

/-- Of some rows, those that meet a condition are listed as they are in the listing of all rows. -/
theorem sortedBy_filter (p : α → Bool) (rows : List α) :
    sortedBy order (rows.filter p) = (sortedBy order rows).filter p := by
  induction rows with
  | nil => simp [sortedBy]
  | cons r rows ih =>
    cases hr : p r with
    | true =>
      -- The place of the new row does not depend on which other rows there are.
      have hcomm (q : α → Bool) :
          ((sortedBy order rows).filter q).filter p = ((sortedBy order rows).filter p).filter q :=
        List.filter_comm ..
      rw [List.filter_cons_of_pos hr, sortedBy_cons, sortedBy_cons, List.filter_append,
        List.filter_cons_of_pos hr, hcomm, hcomm, ih]
    | false =>
      have hr : ¬p r = true := by simp [hr]
      obtain ⟨before, after, hcons, htail, -⟩ := exists_sortedBy_cons order r rows
      rw [List.filter_cons_of_neg hr, ih, htail, hcons, List.filter_append, List.filter_append,
        List.filter_cons_of_neg hr]

/-- A listing of the rows that meet a condition shows what the listing of all rows shows of
those. -/
theorem listing_filter {decode : α → Except Error β} {p : α → Bool} {q : β → Bool}
    (hdecode : ∀ r x, decode r = .ok x → q x = p r) {rows : List α} {xs : List β}
    (h : (sortedBy order rows).mapM decode = .ok xs) :
    (sortedBy order (rows.filter p)).mapM decode = .ok (xs.filter q) := by
  rw [sortedBy_filter]
  exact mapM_filter hdecode h

end Listings

namespace Tables

variable {t : Tables}

/-! ## The rules that a refusal counts -/

/-- On consistent tables, each link of an ACL leads to a rule of the ACL. -/
theorem Consistent.length_ruleRowsOf (h : t.Consistent) (acl : String) :
    (t.ruleRowsOf acl).length = t.links.countP (·.acl = acl) := by
  have hids := congrArg List.length (h.ids_ruleRowsOf acl)
  rwa [List.length_map, List.length_map, ← List.countP_eq_length_filter] at hids

/-- On consistent tables, an ACL lists as many rules as links name it. -/
theorem Consistent.length_aclRules (h : t.Consistent) {acl : Id .acl} {rules : List Rule}
    (hrules : t.aclRules acl = .ok rules) :
    rules.length = t.links.countP (·.acl = acl.text) := by
  obtain ⟨-, -, hlisting⟩ := bind_eq_ok_iff.mp hrules
  rw [← h.length_ruleRowsOf, ← (sortedBy_perm RuleRow.order _).length_eq]
  exact (mapM_eq_ok_iff.mp hlisting).length_eq.symm

/-! ## What is left -/

/-- An identifier is another one exactly when its text is. -/
theorem decide_text_ne {kind : Kind} (a b : Id kind) :
    decide (a ≠ b) = decide (a.text ≠ b.text) := by
  have htext : a = b ↔ a.text = b.text := ⟨congrArg Id.text, Id.text_injective⟩
  rw [decide_eq_decide, Ne, Ne, htext]

/-- The listing of ACLs after one is taken away is the one before without it. -/
theorem listAcls_withoutAcl {acls : List Acl} (h : t.listAcls = .ok acls) (acl : Id .acl) :
    (t.withoutAcl acl.text).listAcls = .ok (acls.filter (·.id ≠ acl)) := by
  unfold listAcls at h ⊢
  refine listing_filter ?_ h
  intro r x hx
  obtain ⟨id, hid, rfl⟩ := (decode_eq_ok_iff decode_acl).mp hx
  rw [← hid]
  exact decide_text_ne id acl

/-- What a group is granted after an ACL is taken away is what it was granted before without that
ACL; if there was no such group before there is none after. -/
theorem groupAcls_withoutAcl (hfit : t.Consistent) (hdecodes : t.Decodable) (acl : Id .acl)
    (group : Id .group) :
    (t.withoutAcl acl.text).groupAcls group =
      (t.groupAcls group).map (·.filter (·.1 ≠ acl)) := by
  by_cases hgroup : group.text ∈ t.ids .group
  · obtain ⟨acls, -, hacls⟩ := hdecodes.exists_listAcls
    obtain ⟨granted, hgranted, -⟩ :=
      groupAcls_spec hfit hdecodes hgroup fun _ => mem_listed_iff hacls
    -- It is the same to take the ACL away before or after the grants of the group are picked.
    have hleft : (t.withoutAcl acl.text).grants.filter (·.group = group.text) =
        (t.grants.filter (·.group = group.text)).filter (·.acl ≠ acl.text) :=
      List.filter_comm ..
    have hsame : (t.withoutAcl acl.text).require group = .ok () := require_eq_ok_iff.mpr hgroup
    obtain ⟨-, -, hlisting⟩ := bind_eq_ok_iff.mp hgranted
    rw [hgranted]
    unfold groupAcls
    rw [hsame, hleft]
    refine listing_filter ?_ hlisting
    intro r x hx
    obtain ⟨id, hid, hrest⟩ := bind_eq_ok_iff.mp hx
    obtain rfl := Except.ok.inj hrest
    rw [decodeId_eq_ok_iff] at hid
    rw [← hid]
    exact decide_text_ne id acl
  · have hbefore : t.groupAcls group = .error (.notFound .group group.text) :=
      require_bind_of_unknown hgroup _
    rw [hbefore]
    exact require_bind_of_unknown (t := t.withoutAcl acl.text) hgroup _

/-- What tables are after they have lost an ACL: neither the ACL nor a grant of it is left, and all
the rest is as it was. -/
structure LosesAcl (t : Tables) (acl : Id .acl) (t' : Tables) : Prop where
  /-- There is no such ACL any more. -/
  gone : t'.has acl = false
  /-- The other ACLs are listed as they were. -/
  listed : ∀ acls, t.listAcls = .ok acls → t'.listAcls = .ok (acls.filter (·.id ≠ acl))
  /-- Every group is granted what it was granted before, without the ACL. -/
  granted : ∀ group, t'.groupAcls group = (t.groupAcls group).map (·.filter (·.1 ≠ acl))
  /-- The rows of all other ACLs stay. -/
  acls : t'.acls = t.acls.filter (·.id ≠ acl.text)
  /-- The grants of all other ACLs stay. -/
  grants : t'.grants = t.grants.filter (·.acl ≠ acl.text)
  /-- The groups stay. -/
  groups : t'.groups = t.groups
  /-- The memberships stay. -/
  members : t'.members = t.members
  /-- The sources stay. -/
  sources : t'.sources = t.sources
  /-- The rules stay. -/
  rules : t'.rules = t.rules
  /-- The links stay. -/
  links : t'.links = t.links

/-- Consistent tables that decode lose an ACL when its rows are taken away. -/
theorem losesAcl_withoutAcl (hfit : t.Consistent) (hdecodes : t.Decodable) (acl : Id .acl) :
    t.LosesAcl acl (t.withoutAcl acl.text) where
  gone := by
    rw [← Bool.not_eq_true, has_eq_true_iff]
    simp [ids, withoutAcl]
  listed _ h := listAcls_withoutAcl h acl
  granted := groupAcls_withoutAcl hfit hdecodes acl
  acls := rfl
  grants := rfl
  groups := rfl
  members := rfl
  sources := rfl
  rules := rfl
  links := rfl

end Tables

namespace Store

/-! ## The deletion of an ACL -/

/-- What a deletion of an ACL gives, and the store after it. -/
theorem run_deleteAcl {s : Store} (hlocked : s.locked = false) (accepts : String → Bool)
    (acl : Id .acl) :
    s.run accepts (.deleteAcl acl) =
      if acl.text ∈ s.tables.ids .acl then
        if ∃ l ∈ s.tables.links, l.acl = acl.text then
          (.error (.aclHasRules acl.text (s.tables.links.countP (·.acl = acl.text))), s)
        else (.ok (), { s with tables := s.tables.withoutAcl acl.text })
      else (.error (.notFound .acl acl.text), s) := by
  have hrun : s.run accepts (.deleteAcl acl) = s.write (.removeAcl acl) := rfl
  rw [hrun, write_eq, if_neg (by simp [hlocked]), Transaction.outcome_removeAcl]
  split_ifs <;> rfl

/-- An ACL that is not there is not found. -/
theorem run_deleteAcl_of_unknown {accepts : String → Bool} {s : Store} (hs : s.Reachable accepts)
    {acl : Id .acl} (hacl : acl.text ∉ s.tables.ids .acl) :
    s.run accepts (.deleteAcl acl) = (.error (.notFound .acl acl.text), s) := by
  rw [run_deleteAcl hs.locked_eq_false, if_neg hacl]

/-- Whether an ACL is deleted depends on the rules that it lists. -/
theorem run_deleteAcl_of_aclRules {accepts : String → Bool} {s : Store} (hs : s.Reachable accepts)
    {acl : Id .acl} {rules : List Rule} (hrules : s.tables.aclRules acl = .ok rules) :
    s.run accepts (.deleteAcl acl) =
      if rules = [] then (.ok (), { s with tables := s.tables.withoutAcl acl.text })
      else (.error (.aclHasRules acl.text rules.length), s) := by
  obtain ⟨⟨⟩, hrequire, -⟩ := bind_eq_ok_iff.mp hrules
  have hacl : acl.text ∈ s.tables.ids .acl := Tables.require_eq_ok_iff.mp hrequire
  have hcount := hs.consistent.length_aclRules hrules
  -- What the storage sees is a link, and what an operator sees is a rule.
  have hlinked : (∃ l ∈ s.tables.links, l.acl = acl.text) ↔ rules ≠ [] := by
    rw [← List.length_pos_iff, hcount, List.countP_pos_iff]
    simp
  rw [run_deleteAcl hs.locked_eq_false, if_pos hacl, ← hcount]
  by_cases hnone : rules = []
  · rw [if_pos hnone, if_neg fun h => hlinked.mp h hnone]
  · rw [if_neg hnone, if_pos (hlinked.mpr hnone)]

/-- In every state that can be reached, the deletion of an ACL is exact. An ACL that is not there is
not found. One that has rules is refused with their number, which is the number of those that it
lists and of the links that name it, and the store stays as it was, with all grants of the ACL. One
that has none is lost with its grants, and with nothing else. So an ACL can be deleted exactly when
it lists no rules. -/
theorem deleteAcl_exact {accepts : String → Bool} {s : Store} (hs : s.Reachable accepts)
    (acl : Id .acl) :
    (s.tables.has acl = false →
      s.run accepts (.deleteAcl acl) = (.error (.notFound .acl acl.text), s)) ∧
    (s.tables.has acl = true → ∃ rules, s.tables.aclRules acl = .ok rules ∧
      rules.length = s.tables.links.countP (·.acl = acl.text) ∧
      (rules ≠ [] → ∃ e, s.run accepts (.deleteAcl acl) = (.error e, s) ∧
        e = .aclHasRules acl.text rules.length ∧ e.blockingCount = some rules.length) ∧
      (rules = [] → ∃ t', s.run accepts (.deleteAcl acl) = (.ok (), { s with tables := t' }) ∧
        s.tables.LosesAcl acl t')) ∧
    ((s.run accepts (.deleteAcl acl)).1 = .ok () ↔ s.tables.aclRules acl = .ok []) := by
  have hfit : s.tables.Consistent := hs.consistent
  have hdecodes : s.tables.Decodable := hs.decodable
  by_cases hacl : acl.text ∈ s.tables.ids .acl
  · have hknown : s.tables.has acl = true := Tables.has_eq_true_iff.mpr hacl
    obtain ⟨rules, hrules, -⟩ := Tables.aclRules_spec hfit hdecodes hacl
    have hrun := run_deleteAcl_of_aclRules hs hrules
    refine ⟨fun h => absurd (h.symm.trans hknown) Bool.false_ne_true, fun _ => ?_, ?_⟩
    · refine ⟨rules, hrules, hfit.length_aclRules hrules, fun hsome => ?_, fun hnone => ?_⟩
      · rw [if_neg hsome] at hrun
        exact ⟨_, hrun, rfl, rfl⟩
      · rw [if_pos hnone] at hrun
        exact ⟨_, hrun, Tables.losesAcl_withoutAcl hfit hdecodes acl⟩
    · rw [hrun, hrules, Except.ok.injEq]
      by_cases hnone : rules = []
      · simp [hnone]
      · simp [hnone]
  · have hunknown : ¬s.tables.has acl = true := mt Tables.has_eq_true_iff.mp hacl
    have hrun := run_deleteAcl_of_unknown hs hacl
    have hrules : s.tables.aclRules acl = .error (.notFound .acl acl.text) :=
      Tables.require_bind_of_unknown hacl _
    refine ⟨fun _ => hrun, fun h => absurd h hunknown, ?_⟩
    rw [hrun, hrules]
    simp

/-- Two ACLs that are granted to the same group: one has two rules and stays with its grant, the
other has none and goes with its grant. -/
theorem deleteAcl_exact_granted :
    let full : Id .acl := ⟨"00000000-0000-4000-8000-000000000001", by decide⟩
    let bare : Id .acl := ⟨"00000000-0000-4000-8000-000000000002", by decide⟩
    let group : Id .group := ⟨"00000000-0000-4000-8000-000000000003", by decide⟩
    let first : Id .rule := ⟨"00000000-0000-4000-8000-000000000004", by decide⟩
    let second : Id .rule := ⟨"00000000-0000-4000-8000-000000000005", by decide⟩
    let calls : List Call := [.change (.createAcl full "web"), .change (.createAcl bare "mail"),
      .change (.createGroup group "staff"),
      .change (.createRule first full ⟨.domain, "example.org", .block, ""⟩),
      .change (.createRule second full ⟨.regex, "^mail", .allow, ""⟩),
      .change (.replaceGrants group [(full, "a"), (bare, "b")])]
    let s := (Store.empty.transcript (fun _ => true) calls).2
    s.Reachable (fun _ => true) ∧
      s.run (fun _ => true) (.deleteAcl full) = (.error (.aclHasRules full.text 2), s) ∧
      s.tables.grantsTo group = [(full.text, "a"), (bare.text, "b")] ∧
      ∃ t', s.run (fun _ => true) (.deleteAcl bare) = (.ok (), { s with tables := t' }) ∧
        s.tables.LosesAcl bare t' ∧ t'.grantsTo group = [(full.text, "a")] := by
  intro full bare group first second calls s
  have hs : s.Reachable (fun _ => true) := ⟨calls, rfl⟩
  have hcount : s.tables.links.countP (·.acl = full.text) = 2 := by decide +kernel
  have hcount' : s.tables.links.countP (·.acl = bare.text) = 0 := by decide +kernel
  have hgrants : s.tables.grantsTo group = [(full.text, "a"), (bare.text, "b")] := by
    decide +kernel
  obtain ⟨rules, -, hlength, hrefused, -⟩ := (deleteAcl_exact hs full).2.1 (by decide +kernel)
  rw [hcount] at hlength
  obtain ⟨e, hrun, rfl, -⟩ := hrefused (List.ne_nil_of_length_eq_add_one hlength)
  rw [hlength] at hrun
  obtain ⟨rules', -, hlength', -, hdeleted⟩ := (deleteAcl_exact hs bare).2.1 (by decide +kernel)
  rw [hcount'] at hlength'
  obtain ⟨t', hrun', hloses⟩ := hdeleted (List.length_eq_zero_iff.mp hlength')
  refine ⟨hs, hrun, hgrants, t', hrun', hloses, ?_⟩
  unfold Tables.grantsTo
  rw [hloses.grants]
  decide +kernel

end Store

end ProxyPolicy.Policy
