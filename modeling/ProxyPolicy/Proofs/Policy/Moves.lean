import ProxyPolicy.Proofs.Policy.Batches
import ProxyPolicy.Proofs.Policy.Listing

/-!
# Moving rules

A move points the links of the rules at another ACL and does nothing else. So an ACL holds after it
what it held before without the rules that were moved, and the destination holds these beside
(`Tables.Consistent.holds_retarget`); the rules themselves stay as they are. Since each rule has
exactly one link, no rule is lost and none is listed twice (`Store.move_conserves`).
-/

namespace ProxyPolicy.Policy

namespace Tables

variable {t : Tables}

/-- Links of rules that are pointed at an ACL: those of the rules are there, and the others are
where they were. -/
theorem mem_links_retarget {rules : List String} {destination acl rule : String} :
    ⟨acl, rule⟩ ∈ (t.retarget rules destination).links ↔
      (rule ∉ rules ∧ ⟨acl, rule⟩ ∈ t.links) ∨
        (rule ∈ rules ∧ acl = destination ∧ rule ∈ t.links.map (·.rule)) := by
  unfold retarget
  simp only [List.mem_map]
  constructor
  · rintro ⟨l, hl, heq⟩
    by_cases hrule : l.rule ∈ rules
    · rw [if_pos hrule] at heq
      obtain ⟨rfl, rfl⟩ := LinkRow.mk.inj heq
      exact .inr ⟨hrule, rfl, l, hl, rfl⟩
    · rw [if_neg hrule] at heq
      subst heq
      exact .inl ⟨hrule, hl⟩
  · rintro (⟨hrule, hl⟩ | ⟨hrule, rfl, l, hl, rfl⟩)
    · exact ⟨_, hl, if_neg hrule⟩
    · exact ⟨l, hl, if_pos hrule⟩

/-- After a move an ACL holds what it held before without the rules moved, and these if it is the
destination. -/
theorem Consistent.holds_retarget (h : t.Consistent) {rules : List (Id .rule)}
    {destination acl : Id .acl} {rule : Rule} :
    (t.retarget (rules.map (·.text)) destination.text).Holds acl rule ↔
      (t.Holds acl rule ∧ rule.id ∉ rules) ∨
        (acl = destination ∧ rule.id ∈ rules ∧ t.Stores rule) := by
  have hrules : rule.id.text ∈ rules.map (·.text) ↔ rule.id ∈ rules :=
    List.mem_map_of_injective fun _ _ => Id.text_injective
  have hacl : acl.text = destination.text ↔ acl = destination :=
    ⟨fun heq => Id.text_injective heq, fun heq => congrArg Id.text heq⟩
  unfold Holds
  rw [mem_links_retarget, hrules, hacl]
  constructor
  · rintro ⟨⟨hother, hlink⟩ | ⟨hmoved, hdestination, -⟩, hstored⟩
    · exact .inl ⟨⟨hlink, hstored⟩, hother⟩
    · exact .inr ⟨hdestination, hmoved, hstored⟩
  · rintro (⟨⟨hlink, hstored⟩, hother⟩ | ⟨hdestination, hmoved, hstored⟩)
    · exact ⟨.inl ⟨hother, hlink⟩, hstored⟩
    · -- A rule that is stored has a link to be moved.
      have hlinked := h.links_perm.mem_iff.mpr (Stores.mem_ids hstored)
      exact ⟨.inr ⟨hmoved, hdestination, hlinked⟩, hstored⟩

/-- On consistent tables that decode, a rule that is stored is listed in some ACL. -/
theorem exists_aclRules_of_stores (hfit : t.Consistent) (hdecodes : t.Decodable) {rule : Rule}
    (hstored : t.Stores rule) : ∃ acl listed, t.aclRules acl = .ok listed ∧ rule ∈ listed := by
  obtain ⟨l, hl, hlink⟩ := List.mem_map.mp (hfit.links_perm.mem_iff.mpr (Stores.mem_ids hstored))
  have hlinked : l.acl ∈ t.ids .acl := hfit.link_acl l hl
  let acl : Id .acl := ⟨l.acl, hdecodes.isUuid_ids .acl l.acl hlinked⟩
  have hacl : acl.text ∈ t.ids .acl := hlinked
  obtain ⟨listed, hlisted, -, hmem⟩ := aclRules_spec hfit hdecodes hacl
  refine ⟨acl, listed, hlisted, (hmem rule).mpr ⟨?_, hstored⟩⟩
  rw [← hlink]
  exact hl

/-- On tables that decode, rules that are there are stored with fields, which can be listed beside
their identifiers. -/
theorem Decodable.exists_rules (h : t.Decodable) {rules : List (Id .rule)}
    (hrules : ∀ r ∈ rules, r.text ∈ t.ids .rule) :
    ∃ stored : List Rule, stored.map (·.id) = rules ∧ ∀ rule ∈ stored, t.Stores rule := by
  induction rules with
  | nil => exact ⟨[], rfl, by simp⟩
  | cons r rs ih =>
    obtain ⟨rule, hid, hstored⟩ := h.exists_stores (hrules r List.mem_cons_self)
    obtain ⟨rest, hids, hrest⟩ := ih fun r' hr' => hrules r' (List.mem_cons_of_mem r hr')
    refine ⟨rule :: rest, by rw [List.map_cons, hid, hids], ?_⟩
    intro rule' hrule'
    rcases List.mem_cons.mp hrule' with rfl | hmem
    · exact hstored
    · exact hrest rule' hmem

/-- On consistent tables that decode, an ACL lists after a move what it listed before without the
rules moved, and these if it is the destination, each rule once. -/
theorem aclRules_retarget (hfit : t.Consistent) (hdecodes : t.Decodable)
    {destination acl : Id .acl} (hdestination : destination.text ∈ t.ids .acl)
    (hacl : acl.text ∈ t.ids .acl) {moved : List Rule} (hmoved : ∀ rule ∈ moved, t.Stores rule)
    (hnodup : (moved.map (·.id)).Nodup) :
    let t' := t.retarget ((moved.map (·.id)).map (·.text)) destination.text
    ∃ before after : List Rule, t.aclRules acl = .ok before ∧ t'.aclRules acl = .ok after ∧
      (after.map (·.id)).Nodup ∧
      after.Perm (before.filter (·.id ∉ moved.map (·.id)) ++
        if acl = destination then moved else []) := by
  intro t'
  -- The tables after the move fit together and decode as those before it do.
  have hfit' : t'.Consistent := hfit.retarget fun _ => hdestination
  have hdecodes' : t'.Decodable :=
    hdecodes.of_subset (fun _ => List.Subset.refl _) (List.Subset.refl _)
  obtain ⟨before, hbefore, hbeforeNodup, hmem⟩ := aclRules_spec hfit hdecodes hacl
  obtain ⟨after, hafter, hafterNodup, hmem'⟩ := aclRules_spec hfit' hdecodes' hacl
  have hmem_moved (rule : Rule) : rule ∈ moved ↔ rule.id ∈ moved.map (·.id) ∧ t.Stores rule := by
    constructor
    · intro hrule
      exact ⟨List.mem_map_of_mem hrule, hmoved rule hrule⟩
    · rintro ⟨hid, hstored⟩
      obtain ⟨rule', hrule', heq⟩ := List.mem_map.mp hid
      rw [← hfit.eq_of_stores (hmoved rule' hrule') hstored heq]
      exact hrule'
  refine ⟨before, after, hbefore, hafter, hafterNodup, ?_⟩
  -- Both sides have no rule twice, so that it is enough to compare their members.
  refine (List.perm_ext_iff_of_nodup hafterNodup.of_map ?_).mpr ?_
  · rw [List.nodup_append']
    refine ⟨hbeforeNodup.of_map.filter _, ?_, ?_⟩
    · split_ifs
      · exact hnodup.of_map
      · exact List.nodup_nil
    · intro rule hold hnew
      have hother : rule.id ∉ moved.map (·.id) := by simpa using (List.mem_filter.mp hold).2
      split_ifs at hnew
      · exact hother (List.mem_map_of_mem hnew)
      · exact List.not_mem_nil hnew
  · intro rule
    rw [hmem', hfit.holds_retarget, List.mem_append, List.mem_filter, hmem, decide_eq_true_eq]
    by_cases hhere : acl = destination
    · rw [if_pos hhere, hmem_moved]
      simp only [hhere, true_and]
    · rw [if_neg hhere]
      simp only [hhere, false_and, List.not_mem_nil]

end Tables

namespace Store

variable {accepts : String → Bool} {s : Store} {rules : List (Id .rule)} {destination : Id .acl}

/-- In every state that can be reached, distinct rules that are there are moved to an ACL that is
there: their links are pointed at it. -/
theorem run_moveRules_of_known (hs : s.Reachable accepts) (hnodup : rules.Nodup)
    (hrules : ∀ r ∈ rules, r.text ∈ s.tables.ids .rule)
    (hacl : destination.text ∈ s.tables.ids .acl) :
    s.run accepts (.moveRules rules destination) =
      (.ok (), { s with tables := s.tables.retarget (rules.map (·.text)) destination.text }) := by
  unfold run
  rw [runBatched_moveRules hnodup]
  by_cases hempty : rules = []
  · rw [if_pos hempty, hempty, List.map_nil, Tables.retarget_nil]
  · have houtcome := Transaction.outcome_moveRules hs.consistent maxBatch hnodup destination
    rw [if_pos hacl, Tables.ifKnown_eq_ok_iff.mpr ⟨hrules, rfl⟩] at houtcome
    rw [if_neg hempty, write_eq, hs.locked_eq_false, houtcome]
    rfl

/-- In every state that can be reached, distinct rules that are there are moved to an ACL that is
there. An ACL then lists what it listed before without the rules moved, and the destination lists
these beside, each rule once. A rule that is moved has the fields with which it was listed before,
and nothing but the links has changed. -/
theorem move_conserves (hs : s.Reachable accepts) (hnodup : rules.Nodup)
    (hrules : ∀ r ∈ rules, s.tables.has r = true) (hacl : s.tables.has destination = true) :
    ∃ (s' : Store) (moved : List Rule),
      s.run accepts (.moveRules rules destination) = (.ok (), s') ∧
      moved.map (·.id) = rules ∧
      (∀ rule ∈ moved, ∃ acl before, s.tables.aclRules acl = .ok before ∧ rule ∈ before) ∧
      (∀ acl : Id .acl, s.tables.has acl = true → ∃ before after : List Rule,
        s.tables.aclRules acl = .ok before ∧ s'.tables.aclRules acl = .ok after ∧
        (after.map (·.id)).Nodup ∧
        after.Perm
          (before.filter (·.id ∉ rules) ++ if acl = destination then moved else [])) ∧
      s'.tables = { s.tables with links := s'.tables.links } := by
  have hfit : s.tables.Consistent := hs.consistent
  have hdecodes : s.tables.Decodable := hs.decodable
  simp only [Tables.has_eq_true_iff] at hrules hacl ⊢
  have hrun := run_moveRules_of_known hs hnodup hrules hacl
  obtain ⟨moved, rfl, hstored⟩ := hdecodes.exists_rules hrules
  refine ⟨_, moved, hrun, rfl, ?_, ?_, rfl⟩
  · intro rule hrule
    exact Tables.exists_aclRules_of_stores hfit hdecodes (hstored rule hrule)
  · intro acl hknown
    exact Tables.aclRules_retarget hfit hdecodes hacl hknown hstored hnodup

/-- Two rules that are moved to an ACL, one from another ACL and one that is there already. -/
theorem move_conserves_overlapping :
    let first : Id .acl := ⟨"00000000-0000-4000-8000-000000000001", by decide⟩
    let second : Id .acl := ⟨"00000000-0000-4000-8000-000000000002", by decide⟩
    let a : Id .rule := ⟨"00000000-0000-4000-8000-000000000003", by decide⟩
    let b : Id .rule := ⟨"00000000-0000-4000-8000-000000000004", by decide⟩
    let c : Id .rule := ⟨"00000000-0000-4000-8000-000000000005", by decide⟩
    let fields : RuleFields := ⟨.domain, "example.org", .block, ""⟩
    let calls : List Call := [.change (.createAcl first "web"), .change (.createAcl second "mail"),
      .change (.createRule a first fields), .change (.createRule b first fields),
      .change (.createRule c second fields)]
    let s := (Store.empty.transcript (fun _ => true) calls).2
    s.Reachable (fun _ => true) ∧ [b, c].Nodup ∧ (∀ r ∈ [b, c], s.tables.has r = true) ∧
      s.tables.has second = true ∧
      s.tables.links = [⟨first.text, a.text⟩, ⟨first.text, b.text⟩, ⟨second.text, c.text⟩] ∧
      ∃ (s' : Store) (moved : List Rule),
        s.run (fun _ => true) (.moveRules [b, c] second) = (.ok (), s') ∧
        moved.map (·.id) = [b, c] ∧
        ∃ before after : List Rule, s.tables.aclRules second = .ok before ∧
          s'.tables.aclRules second = .ok after ∧ (after.map (·.id)).Nodup ∧
          after.Perm (before.filter (·.id ∉ [b, c]) ++ moved) := by
  intro first second a b c fields calls s
  have hs : s.Reachable (fun _ => true) := ⟨calls, rfl⟩
  have hnodup : [b, c].Nodup := by decide
  have hrules : ∀ r ∈ [b, c], s.tables.has r = true := by decide +kernel
  have hsecond : s.tables.has second = true := by decide +kernel
  have hlinks : s.tables.links =
      [⟨first.text, a.text⟩, ⟨first.text, b.text⟩, ⟨second.text, c.text⟩] := by decide +kernel
  obtain ⟨s', moved, hrun, hids, -, hacls, -⟩ := move_conserves hs hnodup hrules hsecond
  exact ⟨hs, hnodup, hrules, hsecond, hlinks, s', moved, hrun, hids, hacls second hsecond⟩

end Store

end ProxyPolicy.Policy
