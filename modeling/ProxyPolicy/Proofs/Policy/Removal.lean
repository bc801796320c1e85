import ProxyPolicy.Proofs.Policy.Editing

/-!
# Removing rules

Rules are deleted together with their links, and nothing else changes (`Tables.LosesRules`). An ACL
lists afterwards what it listed before without these rules, in the same order, so that an ACL with
no other rules can be deleted (`Store.deleteRules_exact`).

A rule that has been deleted does not come back: the identifiers of rules that a call adds are those
that it mints (`mem_ids_of_effect`). So in every later state calls that name the rule do not find it
(`Store.Misses`), unless their arguments are refused before any rule is looked for.
-/

namespace ProxyPolicy.Policy

namespace Tables

variable {t : Tables}

/-! ## Rules that are left -/

/-- A rule that is left is found as it was before. -/
theorem find?_dropRules (t : Tables) (rules : List String) (id : String) :
    (t.dropRules rules).rules.find? (·.id = id) =
      if id ∈ rules then none else t.rules.find? (·.id = id) := by
  unfold dropRules withoutRules withoutLinks
  rw [List.find?_filter]
  split_ifs with hid
  · rw [List.find?_eq_none]
    intro r _
    simp only [decide_eq_true_eq, not_and]
    rintro hother rfl
    exact hother hid
  · congr 1
    funext r
    rw [decide_eq_decide, decide_eq_true_eq, decide_eq_true_eq, and_iff_right_iff_imp]
    rintro rfl
    exact hid

/-- A rule that is found is left unless it is one of those taken away. -/
theorem filter_find? (t : Tables) (rules : List String) (id : String) :
    (t.rules.find? (·.id = id)).filter (·.id ∉ rules) =
      if id ∈ rules then none else t.rules.find? (·.id = id) := by
  cases hfound : t.rules.find? (·.id = id) with
  | none => simp
  | some r =>
    have hid : r.id = id := by simpa using List.find?_some hfound
    rw [Option.filter_some, hid]
    by_cases h : id ∈ rules
    · simp [h]
    · simp [h]

/-- The rows of an ACL without some rules are the rows before without those of the rules. -/
theorem ruleRowsOf_dropRules (t : Tables) (rules : List String) (acl : String) :
    (t.dropRules rules).ruleRowsOf acl = (t.ruleRowsOf acl).filter (·.id ∉ rules) := by
  have hlinks : (t.dropRules rules).links.filter (·.acl = acl) =
      (t.links.filter (·.acl = acl)).filter (·.rule ∉ rules) := List.filter_comm ..
  unfold ruleRowsOf
  rw [hlinks, List.filterMap_filter, List.filter_filterMap]
  apply List.filterMap_congr
  intro l _
  rw [find?_dropRules, filter_find?]
  by_cases hl : l.rule ∈ rules
  · simp [hl]
  · simp [hl]

/-- On consistent tables that decode, an ACL lists after some rules are taken away what it listed
before without them; if there was no such ACL before there is none after. -/
theorem aclRules_dropRules (hfit : t.Consistent) (hdecodes : t.Decodable)
    (rules : List (Id .rule)) (acl : Id .acl) :
    (t.dropRules (rules.map (·.text))).aclRules acl =
      (t.aclRules acl).map (·.filter (·.id ∉ rules)) := by
  by_cases hacl : acl.text ∈ t.ids .acl
  · obtain ⟨listed, hlisted, -⟩ := aclRules_spec hfit hdecodes hacl
    have hrequire : (t.dropRules (rules.map (·.text))).require acl = .ok () :=
      require_eq_ok_iff.mpr hacl
    rw [hlisted]
    unfold aclRules
    rw [hrequire, ruleRowsOf_dropRules]
    exact listing_of_others hlisted rules
  · have hbefore : t.aclRules acl = .error (.notFound .acl acl.text) :=
      require_bind_of_unknown hacl _
    rw [hbefore]
    exact require_bind_of_unknown (t := t.dropRules (rules.map (·.text))) hacl _

/-- What tables are after they have lost some rules: neither the rules nor links of them are left,
and all the rest is as it was. -/
structure LosesRules (t : Tables) (lost : List (Id .rule)) (t' : Tables) : Prop
    extends SameBesideRules t t' where
  /-- There are no such rules any more. -/
  gone : ∀ r ∈ lost, t'.has r = false
  /-- No link names one of them. -/
  unlinked : ∀ r ∈ lost, ∀ l ∈ t'.links, l.rule ≠ r.text
  /-- Every ACL lists what it listed before, without the rules and in the same order. -/
  listed : ∀ acl, t'.aclRules acl = (t.aclRules acl).map (·.filter (·.id ∉ lost))
  /-- All other rules stay with their fields. -/
  rules : t'.rules = t.rules.filter (·.id ∉ lost.map (·.text))
  /-- All other rules stay where they are. -/
  links : t'.links = t.links.filter (·.rule ∉ lost.map (·.text))

/-- Consistent tables that decode lose some rules when their rows and links are taken away. -/
theorem losesRules_dropRules (hfit : t.Consistent) (hdecodes : t.Decodable)
    (rules : List (Id .rule)) : t.LosesRules rules (t.dropRules (rules.map (·.text))) where
  gone r hr := by
    rw [← Bool.not_eq_true, has_eq_true_iff]
    intro hleft
    obtain ⟨row, hrow, hid⟩ := List.mem_map.mp hleft
    have hother : row.id ∉ rules.map (·.text) := by simpa using (List.mem_filter.mp hrow).2
    rw [hid, mem_map_text_iff] at hother
    exact hother hr
  unlinked r hr l hl heq := by
    have hother : l.rule ∉ rules.map (·.text) := by simpa using (List.mem_filter.mp hl).2
    rw [heq, mem_map_text_iff] at hother
    exact hother hr
  listed acl := aclRules_dropRules hfit hdecodes rules acl
  rules := rfl
  links := rfl
  acls := rfl
  groups := rfl
  sources := rfl
  members := rfl
  grants := rfl

end Tables

/-! ## Rules that are unknown -/

/-- Whether a change makes a rule of an identifier. -/
def Operation.Mints (id : Id .rule) : Operation → Prop
  | createRule fresh _ _ => fresh = id
  | createInboxRule fresh _ _ _ _ => fresh = id
  | _ => False

/-- Whether a call makes a rule of an identifier. -/
def Call.Mints (id : Id .rule) : Call → Prop
  | .ask _ => False
  | .change op => op.Mints id

/-- A row of a rule is an old one or keeps fields that the change has written, into a rule that was
there or that it makes. -/
theorem row_of_effect {accepts : String → Bool} {op : Operation} {t t' : Tables}
    (heffect : op.Effect accepts t t') {r : RuleRow} (hr : r ∈ t'.rules) :
    r ∈ t.rules ∨ ∃ (f : RuleFields) (id : Id .rule), r = f.row id.text ∧
      (id.text ∈ t.ids .rule ∨ op.Mints id) := by
  cases op with
  | createAcl fresh comment =>
    obtain ⟨-, -, rfl⟩ := heffect
    exact .inl hr
  | createGroup fresh comment =>
    obtain ⟨-, -, rfl⟩ := heffect
    exact .inl hr
  | createSource fresh group source comment memberComment =>
    obtain ⟨-, -, -, -, rfl⟩ := heffect
    exact .inl hr
  | createRule fresh acl f =>
    obtain ⟨-, -, -, -, rfl⟩ := heffect
    -- The new rule is the last one.
    exact (List.mem_append.mp hr).imp_right fun hlast =>
      ⟨f, fresh, List.mem_singleton.mp hlast, .inr rfl⟩
  | createInboxRule fresh inbox type value action =>
    obtain ⟨f, -, -, -, -, -, rfl⟩ := heffect
    exact (List.mem_append.mp hr).imp_right fun hlast =>
      ⟨f, fresh, List.mem_singleton.mp hlast, .inr rfl⟩
  | updateRule rule f =>
    obtain ⟨-, hrule, rfl⟩ := heffect
    obtain ⟨old, hold, rfl⟩ := List.mem_map.mp hr
    by_cases hid : old.id = rule.text
    · rw [if_pos hid]
      exact .inr ⟨f, rule, congrArg f.row hid, .inl hrule⟩
    · rw [if_neg hid]
      exact .inl hold
  | moveRules rules destination =>
    obtain ⟨-, -, rfl⟩ := heffect
    exact .inl hr
  | deleteRules rules =>
    obtain ⟨-, -, rfl⟩ := heffect
    exact .inl (List.mem_of_mem_filter hr)
  | deleteAcl acl =>
    obtain ⟨-, -, rfl⟩ := heffect
    exact .inl hr
  | deleteSource source =>
    obtain ⟨-, -, rfl⟩ := heffect
    exact .inl hr
  | replaceGrants group grants =>
    obtain ⟨-, -, -, rfl⟩ := heffect
    exact .inl hr
  | replaceMembers group members =>
    obtain ⟨-, -, -, rfl⟩ := heffect
    exact .inl hr

/-- A rule that is there after a change was there before or was made by it. -/
theorem mem_ids_of_effect {accepts : String → Bool} {op : Operation} {t t' : Tables}
    (heffect : op.Effect accepts t t') {id : Id .rule} (hid : id.text ∈ t'.ids .rule) :
    id.text ∈ t.ids .rule ∨ op.Mints id := by
  obtain ⟨row, hrow, htext⟩ := List.mem_map.mp hid
  rcases row_of_effect heffect hrow with hold | ⟨f, written, rfl, hwritten⟩
  · rw [← htext]
    exact .inl (List.mem_map_of_mem hold)
  · obtain rfl : written = id := Id.text_injective htext
    exact hwritten

namespace Store

variable {accepts : String → Bool} {s : Store}

/-- A rule that is unknown stays unknown when a call does not make it. -/
theorem perform_unknown {id : Id .rule} (h : s.tables.has id = false) {c : Call}
    (hmint : ¬c.Mints id) : (s.perform accepts c).2.tables.has id = false := by
  rcases perform_cases accepts s c with hsame | ⟨op, rfl, -, heffect, -⟩
  · rw [hsame]
    exact h
  · rw [← Bool.not_eq_true, Tables.has_eq_true_iff] at h ⊢
    intro hid
    exact (mem_ids_of_effect heffect hid).elim h hmint

/-- A rule that is unknown stays unknown in every history that does not make it. -/
theorem transcript_unknown {id : Id .rule} {calls : List Call}
    (hmint : ∀ c ∈ calls, ¬c.Mints id) (h : s.tables.has id = false) :
    (s.transcript accepts calls).2.tables.has id = false := by
  induction calls generalizing s with
  | nil => exact h
  | cons c cs ih =>
    exact ih (fun c' hc' => hmint c' (List.mem_cons_of_mem c hc'))
      (perform_unknown h (hmint c List.mem_cons_self))

/-- A history goes on from a state that can be reached to another. -/
theorem Reachable.transcript (h : s.Reachable accepts) (calls : List Call) :
    (s.transcript accepts calls).2.Reachable accepts := by
  obtain ⟨before, rfl⟩ := h
  exact ⟨before ++ calls, transcript_append_snd accepts before calls empty⟩

/-- Calls that name a rule do not find it, once their arguments have passed the checks that are made
before any rule is looked for. Nothing is changed. -/
structure Misses (accepts : String → Bool) (s : Store) (r : Id .rule) : Prop where
  /-- No fields are given to the rule. -/
  update : ∀ f, f.validate accepts = .ok () →
    s.run accepts (.updateRule r f) = (.error (.notFound .rule r.text), s)
  /-- A list with the rule is not moved. What is not found is the ACL, or else the first unknown
  rule of the list. -/
  move : ∀ rules destination, rules.Nodup → r ∈ rules →
    ∃ x ∈ rules, rules.find? (fun x => !s.tables.has x) = some x ∧
      s.run accepts (.moveRules rules destination) =
        (.error (if s.tables.has destination then .notFound .rule x.text
          else .notFound .acl destination.text), s)
  /-- A list with the rule is not deleted. What is not found is the first unknown rule of the
  list. -/
  delete : ∀ rules, rules.Nodup → r ∈ rules →
    ∃ x ∈ rules, rules.find? (fun x => !s.tables.has x) = some x ∧
      s.run accepts (.deleteRules rules) = (.error (.notFound .rule x.text), s)

/-- What a change gives is all that it does, if it gives an error. -/
theorem run_eq_error {op : Operation} {e : Error} (h : (s.run accepts op).1 = .error e) :
    s.run accepts op = (.error e, s) :=
  Prod.ext h (run_of_error h)

/-- The first unknown rule of a list with an unknown rule. -/
theorem exists_first_unknown {r : Id .rule} (h : s.tables.has r = false) {rules : List (Id .rule)}
    (hr : r ∈ rules) :
    ∃ x ∈ rules, rules.find? (fun x => !s.tables.has x) = some x := by
  have hsome : (rules.find? fun x => !s.tables.has x).isSome := by
    rw [List.find?_isSome]
    exact ⟨r, hr, by simp [h]⟩
  obtain ⟨x, hx⟩ := Option.isSome_iff_exists.mp hsome
  exact ⟨x, List.mem_of_find?_eq_some hx, hx⟩

/-- In a state that can be reached, calls that name an unknown rule do not find it. -/
theorem misses_of_unknown (hs : s.Reachable accepts) {r : Id .rule}
    (h : s.tables.has r = false) : s.Misses accepts r where
  update f hvalid := by
    rw [run_updateRule hs.locked_eq_false hvalid, h]
    rfl
  move rules destination hnodup hr := by
    obtain ⟨x, hx, hfirst⟩ := exists_first_unknown h hr
    refine ⟨x, hx, hfirst, run_eq_error ?_⟩
    unfold run
    rw [runBatched_moveRules_eq_moveAtOnce hs.consistent hnodup]
    cases hacl : s.tables.has destination with
    | true =>
      rw [moveAtOnce_fst hs.locked_eq_false hs.consistent hnodup (Tables.has_eq_true_iff.mp hacl),
        hfirst]
      rfl
    | false =>
      rw [moveAtOnce_fst_of_unknown hs.locked_eq_false (List.ne_nil_of_mem hr)
        (Tables.has_eq_false_iff.mp hacl)]
      rfl
  delete rules hnodup hr := by
    obtain ⟨x, hx, hfirst⟩ := exists_first_unknown h hr
    refine ⟨x, hx, hfirst, run_eq_error ?_⟩
    unfold run
    rw [runBatched_deleteRules_eq_deleteAtOnce hnodup, deleteAtOnce_fst hs.locked_eq_false, hfirst]
    rfl

/-! ## The deletion of rules -/

/-- Distinct rules that are there are deleted with their links. -/
theorem run_deleteRules_of_known (accepts : String → Bool) (hlocked : s.locked = false)
    {rules : List (Id .rule)} (hnodup : rules.Nodup)
    (hrules : ∀ r ∈ rules, r.text ∈ s.tables.ids .rule) :
    s.run accepts (.deleteRules rules) =
      (.ok (), { s with tables := s.tables.dropRules (rules.map (·.text)) }) := by
  unfold run
  rw [runBatched_deleteRules hnodup]
  by_cases hempty : rules = []
  · rw [if_pos hempty, hempty, List.map_nil, Tables.dropRules_nil]
  · have houtcome := Transaction.outcome_removeRules maxBatch rules s.tables
    rw [Tables.ifKnown_eq_ok_iff.mpr ⟨hrules, rfl⟩] at houtcome
    rw [if_neg hempty, write_eq, hlocked, houtcome]
    rfl

/-- In every state that can be reached, distinct rules that are there are deleted, and the deletion
is exact: neither the rules nor links of them are left, every ACL lists what it listed before
without them and in the same order, and nothing else has changed. So an ACL that listed no other
rules can be deleted next. In every later state, unless a rule of the same identifier is made anew,
no call that names one of the rules finds it: once its arguments have passed their own checks, it
says what it has not found and changes nothing. -/
theorem deleteRules_exact (hs : s.Reachable accepts) {rules : List (Id .rule)}
    (hnodup : rules.Nodup) (hrules : ∀ r ∈ rules, s.tables.has r = true) :
    ∃ s', s.run accepts (.deleteRules rules) = (.ok (), s') ∧
      s.tables.LosesRules rules s'.tables ∧
      (∀ acl listed, s.tables.aclRules acl = .ok listed → (∀ rule ∈ listed, rule.id ∈ rules) →
        (s'.run accepts (.deleteAcl acl)).1 = .ok ()) ∧
      ∀ r ∈ rules, ∀ calls, (∀ c ∈ calls, ¬Call.Mints r c) →
        (s'.transcript accepts calls).2.Misses accepts r := by
  simp only [Tables.has_eq_true_iff] at hrules
  have hrun := run_deleteRules_of_known accepts hs.locked_eq_false hnodup hrules
  have hloses := Tables.losesRules_dropRules hs.consistent hs.decodable rules
  have hs' := hs.run (.deleteRules rules)
  rw [hrun] at hs'
  refine ⟨_, hrun, hloses, ?_, ?_⟩
  · intro acl listed hlisted hall
    -- Nothing is left of the list of the ACL.
    have hnone : listed.filter (·.id ∉ rules) = [] :=
      List.filter_eq_nil_iff.mpr fun rule hrule => by simp [hall rule hrule]
    have hleft := hloses.listed acl
    rw [hlisted, Except.map, hnone] at hleft
    rw [run_deleteAcl_of_aclRules hs' hleft, if_pos rfl]
  · intro r hr calls hmint
    exact misses_of_unknown (hs'.transcript calls) (transcript_unknown hmint (hloses.gone r hr))

/-- Rules of two ACLs are deleted, after which the second of the ACLs has no rules and is deleted
too. Once a new ACL has been made, the rules are still not found. -/
theorem deleteRules_exact_across_acls :
    let first : Id .acl := ⟨"00000000-0000-4000-8000-000000000001", by decide⟩
    let second : Id .acl := ⟨"00000000-0000-4000-8000-000000000002", by decide⟩
    let third : Id .acl := ⟨"00000000-0000-4000-8000-000000000003", by decide⟩
    let a : Id .rule := ⟨"00000000-0000-4000-8000-000000000004", by decide⟩
    let b : Id .rule := ⟨"00000000-0000-4000-8000-000000000005", by decide⟩
    let c : Id .rule := ⟨"00000000-0000-4000-8000-000000000006", by decide⟩
    let fields : RuleFields := ⟨.domain, "example.org", .block, ""⟩
    let calls : List Call := [.change (.createAcl first "web"), .change (.createAcl second "mail"),
      .change (.createRule a first fields), .change (.createRule b first fields),
      .change (.createRule c second fields)]
    let s := (Store.empty.transcript (fun _ => true) calls).2
    s.Reachable (fun _ => true) ∧ [b, c].Nodup ∧ (∀ r ∈ [b, c], s.tables.has r = true) ∧
      s.tables.links = [⟨first.text, a.text⟩, ⟨first.text, b.text⟩, ⟨second.text, c.text⟩] ∧
      s.tables.aclRules second = .ok [⟨c, fields⟩] ∧
      ∃ s', s.run (fun _ => true) (.deleteRules [b, c]) = (.ok (), s') ∧
        s'.tables.links = [⟨first.text, a.text⟩] ∧ s'.tables.aclRules second = .ok [] ∧
        (s'.run (fun _ => true) (.deleteAcl second)).1 = .ok () ∧
        (s'.transcript (fun _ => true) [.change (.createAcl third "games")]).2.Misses
          (fun _ => true) b := by
  intro first second third a b c fields calls s
  have hs : s.Reachable (fun _ => true) := ⟨calls, rfl⟩
  have hnodup : [b, c].Nodup := by decide
  have hrules : ∀ r ∈ [b, c], s.tables.has r = true := by decide +kernel
  have hlinks : s.tables.links =
      [⟨first.text, a.text⟩, ⟨first.text, b.text⟩, ⟨second.text, c.text⟩] := by decide +kernel
  have hsecond : s.tables.aclRules second = .ok [⟨c, fields⟩] := by decide +kernel
  obtain ⟨s', hrun, hloses, hbare, hlater⟩ := deleteRules_exact hs hnodup hrules
  have hlinks' := hloses.links
  rw [hlinks] at hlinks'
  have hsecond' := hloses.listed second
  rw [hsecond] at hsecond'
  refine ⟨hs, hnodup, hrules, hlinks, hsecond, s', hrun, hlinks', hsecond',
    hbare second _ hsecond (by decide), hlater b (by decide) _ ?_⟩
  intro call hcall
  rw [List.mem_singleton.mp hcall]
  exact id

/-- A call whose arguments are refused is not said to name a rule that is not found, though it names
one that has been deleted: fields without a value are refused first, and so is a list that names the
rule twice. -/
theorem deleted_rule_named_by_refused_arguments :
    let acl : Id .acl := ⟨"00000000-0000-4000-8000-000000000001", by decide⟩
    let rule : Id .rule := ⟨"00000000-0000-4000-8000-000000000002", by decide⟩
    let calls : List Call := [.change (.createAcl acl "web"),
      .change (.createRule rule acl ⟨.domain, "example.org", .block, ""⟩)]
    let s := (Store.empty.transcript (fun _ => true) calls).2
    let s' := (s.run (fun _ => true) (.deleteRules [rule])).2
    s.Reachable (fun _ => true) ∧ s.tables.has rule = true ∧
      (s.run (fun _ => true) (.deleteRules [rule])).1 = .ok () ∧ s'.tables.has rule = false ∧
      (s'.run (fun _ => true) (.updateRule rule ⟨.domain, "", .block, ""⟩)).1 =
        .error (.emptyField .ruleValue) ∧
      (s'.run (fun _ => true) (.deleteRules [rule, rule])).1 =
        .error (.repeated .rule rule.text) := by
  intro acl rule calls s s'
  refine ⟨⟨calls, rfl⟩, ?_⟩
  decide +kernel

end Store

end ProxyPolicy.Policy
