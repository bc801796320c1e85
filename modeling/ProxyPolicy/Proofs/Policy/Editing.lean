import ProxyPolicy.Proofs.Policy.Creation
import ProxyPolicy.Proofs.Policy.Deletion
import ProxyPolicy.Proofs.Policy.Views

/-!
# Writing rules

A rule that is created or gets new fields is read back through a listing that is sorted by these
fields. What holds for any tables is that the rows of the other rules are listed as they were
(`Tables.listing_of_others`); since a rule is listed once, this says where a list has changed: a new
rule is put in somewhere (`Tables.GainsRule`), and a rule with new fields is taken out at one place
and put in at another (`Tables.EditsRule`).

Fields are checked before any ACL or rule is looked for, so that the two calls fail with the same
errors on the same fields (`Store.write_rule_exact`).
-/

namespace ProxyPolicy.Policy

/-- Rules are compared by keys that are compared by a linear order. -/
instance : Std.TransCmp RuleRow.order := by
  unfold RuleRow.order
  infer_instance

namespace Tables

variable {t t' : Tables}

/-! ## The others of a rule -/

/-- An identifier is in a list exactly when its text is among the texts of the list. -/
theorem mem_map_text_iff {kind : Kind} {id : Id kind} {ids : List (Id kind)} :
    id.text ∈ ids.map (·.text) ↔ id ∈ ids :=
  List.mem_map_of_injective fun _ _ => Id.text_injective

/-- Of the rows of an ACL, those of other rules are listed as they are in the list of the ACL. -/
theorem listing_of_others {acl : Id .acl} {listed : List Rule} (h : t.aclRules acl = .ok listed)
    (rules : List (Id .rule)) :
    (sortedBy RuleRow.order
      ((t.ruleRowsOf acl.text).filter (·.id ∉ rules.map (·.text)))).mapM RuleRow.decode =
        .ok (listed.filter (·.id ∉ rules)) := by
  obtain ⟨-, -, hlisting⟩ := bind_eq_ok_iff.mp h
  refine listing_filter ?_ hlisting
  intro row rule hrow
  rw [← (RuleRow.decode_eq_ok_iff.mp hrow).id, decide_eq_decide, mem_map_text_iff]

/-- Two lists of an ACL agree but for some rules if its rows do. -/
theorem others_eq {acl : Id .acl} {listed listed' : List Rule} (h : t.aclRules acl = .ok listed)
    (h' : t'.aclRules acl = .ok listed') (rules : List (Id .rule))
    (hrows : (t'.ruleRowsOf acl.text).filter (·.id ∉ rules.map (·.text)) =
      (t.ruleRowsOf acl.text).filter (·.id ∉ rules.map (·.text))) :
    listed'.filter (·.id ∉ rules) = listed.filter (·.id ∉ rules) := by
  have hothers := listing_of_others h' rules
  rw [hrows, listing_of_others h rules] at hothers
  exact (Except.ok.inj hothers).symm

/-- A list without a rule is what stands before the rule and behind it. -/
theorem filter_others {front back : List Rule} {rule : Rule}
    (h : ∀ other ∈ front ++ back, other.id ≠ rule.id) :
    (front ++ rule :: back).filter (·.id ∉ [rule.id]) = front ++ back := by
  rw [List.filter_append, List.filter_cons_of_neg (by simp), ← List.filter_append]
  exact List.filter_eq_self.mpr fun other hother => by simpa using h other hother

/-- On consistent tables that decode, what an ACL lists is what it holds. -/
theorem mem_aclRules (hfit : t.Consistent) (hdecodes : t.Decodable) {acl : Id .acl}
    {listed : List Rule} (h : t.aclRules acl = .ok listed) {rule : Rule} :
    rule ∈ listed ↔ t.Holds acl rule := by
  obtain ⟨⟨⟩, hrequire, -⟩ := bind_eq_ok_iff.mp h
  obtain ⟨rules, hrules, -, hmem⟩ := aclRules_spec hfit hdecodes (require_eq_ok_iff.mp hrequire)
  obtain rfl := Except.ok.inj (h.symm.trans hrules)
  exact hmem rule

/-- On consistent tables that decode, an ACL lists a rule that it holds at one place. -/
theorem aclRules_split (hfit : t.Consistent) (hdecodes : t.Decodable) {acl : Id .acl} {rule : Rule}
    (hholds : t.Holds acl rule) :
    ∃ front back, t.aclRules acl = .ok (front ++ rule :: back) ∧
      ∀ other ∈ front ++ back, other.id ≠ rule.id := by
  obtain ⟨listed, hlisted, hnodup, hmem⟩ := aclRules_spec hfit hdecodes (hfit.link_acl _ hholds.1)
  obtain ⟨front, back, rfl⟩ := List.append_of_mem ((hmem rule).mpr hholds)
  refine ⟨front, back, hlisted, fun other hother hid => ?_⟩
  have hperm : ((front ++ rule :: back).map (·.id)).Perm (rule.id :: (front ++ back).map (·.id)) :=
    List.perm_middle.map Rule.id
  have hnone := (List.nodup_cons.mp (hperm.nodup_iff.mp hnodup)).1
  exact hnone (hid ▸ List.mem_map_of_mem hother)

/-- An ACL lists the same if its rows are the same and there are the same ACLs. -/
theorem aclRules_congr {acl : Id .acl} (hacls : t'.acls = t.acls)
    (hrows : t'.ruleRowsOf acl.text = t.ruleRowsOf acl.text) :
    t'.aclRules acl = t.aclRules acl := by
  unfold aclRules require has ids
  rw [hrows, hacls]

/-! ## The rows of an ACL -/

/-- A new rule comes last in its ACL, and the rows of the other ACLs stay. -/
theorem Consistent.ruleRowsOf_withRule (h : t.Consistent) {id acl : String} {f : RuleFields}
    (hfresh : id ∉ t.ids .rule) (other : String) :
    (t.withRule id acl f).ruleRowsOf other =
      t.ruleRowsOf other ++ if acl = other then [f.row id] else [] := by
  -- Links that were there before do not name the new rule.
  have hold : ∀ l ∈ t.links.filter (·.acl = other),
      (t.rules ++ [f.row id]).find? (·.id = l.rule) = t.rules.find? (·.id = l.rule) := by
    intro l hl
    have hrule : l.rule ∈ t.ids .rule := h.link_rule (List.mem_of_mem_filter hl)
    have hne : id ≠ l.rule := fun heq => hfresh (heq ▸ hrule)
    simp [List.find?_append, RuleFields.row, hne]
  have hnew : (t.rules ++ [f.row id]).find? (·.id = id) = some (f.row id) := by
    have hnone : t.rules.find? (·.id = id) = none :=
      List.find?_eq_none.mpr fun r hr heq =>
        hfresh (of_decide_eq_true heq ▸ List.mem_map_of_mem hr)
    simp [List.find?_append, hnone, RuleFields.row]
  unfold ruleRowsOf Tables.withRule Tables.add
  rw [List.filter_append, List.filterMap_append, List.filterMap_congr hold]
  by_cases hacl : acl = other
  · rw [List.filter_cons_of_pos (by simpa using hacl), List.filter_nil, List.filterMap_cons,
      List.filterMap_nil, hnew, if_pos hacl]
  · rw [List.filter_cons_of_neg (by simpa using hacl), List.filter_nil, List.filterMap_nil,
      if_neg hacl]

/-- New fields are put into the rows of the rule, which keep their places among the rows. -/
theorem ruleRowsOf_withFields (t : Tables) (id : String) (f : RuleFields) (acl : String) :
    (t.withFields id f).ruleRowsOf acl =
      (t.ruleRowsOf acl).map fun r => if r.id = id then f.row r.id else r := by
  have hid (r : RuleRow) : (if r.id = id then f.row r.id else r).id = r.id := by
    split_ifs <;> rfl
  unfold ruleRowsOf withFields
  rw [List.map_filterMap]
  apply List.filterMap_congr
  intro l _
  simp only [List.find?_map, Function.comp_def, hid]

/-- New fields of a rule leave the rows of other rules as they are. -/
theorem filter_ruleRowsOf_withFields (t : Tables) (rule : Id .rule) (f : RuleFields)
    (acl : String) :
    ((t.withFields rule.text f).ruleRowsOf acl).filter (·.id ∉ [rule].map (·.text)) =
      (t.ruleRowsOf acl).filter (·.id ∉ [rule].map (·.text)) := by
  rw [ruleRowsOf_withFields]
  induction t.ruleRowsOf acl with
  | nil => rfl
  | cons r rows ih =>
    by_cases hr : r.id = rule.text
    · simpa [hr, RuleFields.row] using ih
    · simpa [hr] using ih

/-! ## What has changed -/

/-- Tables that differ in rules and links at most. -/
structure SameBesideRules (t t' : Tables) : Prop where
  /-- The ACLs stay. -/
  acls : t'.acls = t.acls
  /-- The groups stay. -/
  groups : t'.groups = t.groups
  /-- The sources stay. -/
  sources : t'.sources = t.sources
  /-- The memberships stay. -/
  members : t'.members = t.members
  /-- The grants stay. -/
  grants : t'.grants = t.grants

/-- What tables are after an ACL has got a rule: the list of the ACL has this rule in addition. -/
structure GainsRule (t : Tables) (acl : Id .acl) (rule : Rule) (t' : Tables) : Prop
    extends SameBesideRules t t' where
  /-- No rule had this identifier. -/
  unknown : t.has rule.id = false
  /-- The ACL lists what it listed before, in the same order, and the rule once. -/
  listed : ∃ front back, t.aclRules acl = .ok (front ++ back) ∧
    t'.aclRules acl = .ok (front ++ rule :: back) ∧ ∀ other ∈ front ++ back, other.id ≠ rule.id
  /-- Every other ACL lists what it listed before. -/
  elsewhere : ∀ other, other ≠ acl → t'.aclRules other = t.aclRules other

/-- What tables are after a rule of an ACL has got new fields: the list of the ACL has the rule once
with the new fields, where the order puts it. -/
structure EditsRule (t : Tables) (acl : Id .acl) (rule : Rule) (t' : Tables) : Prop
    extends SameBesideRules t t' where
  /-- The ACL lists the other rules as before and in the same order, and the rule once, with its old
  fields before and with the new ones after. -/
  listed : ∃ old front back front' back', old.id = rule.id ∧
    t.aclRules acl = .ok (front ++ old :: back) ∧
    t'.aclRules acl = .ok (front' ++ rule :: back') ∧ front' ++ back' = front ++ back ∧
    ∀ other ∈ front ++ back, other.id ≠ rule.id
  /-- Every other ACL lists what it listed before. -/
  elsewhere : ∀ other, other ≠ acl → t'.aclRules other = t.aclRules other
  /-- No other ACL lists the rule. -/
  unlisted : ∀ other listed, other ≠ acl → t.aclRules other = .ok listed →
    ∀ r ∈ listed, r.id ≠ rule.id

/-- Consistent tables that decode gain a rule when its row and a link are added. -/
theorem gainsRule_withRule (hfit : t.Consistent) (hdecodes : t.Decodable) {acl : Id .acl}
    (hacl : acl.text ∈ t.ids .acl) (rule : Rule) (hfresh : rule.id.text ∉ t.ids .rule) :
    t.GainsRule acl rule (t.withRule rule.id.text acl.text rule.fields) where
  acls := rfl
  groups := rfl
  sources := rfl
  members := rfl
  grants := rfl
  unknown := has_eq_false_iff.mpr hfresh
  listed := by
    have hholds : (t.withRule rule.id.text acl.text rule.fields).Holds acl rule :=
      ⟨List.mem_append_right _ List.mem_cons_self, rule.fields.row rule.id.text,
        List.mem_append_right _ List.mem_cons_self, rfl, rfl, rfl, rfl, rfl⟩
    obtain ⟨front, back, hafter, hothers⟩ :=
      aclRules_split (hfit.withRule hacl hfresh) (hdecodes.withRule rule.id acl.text rule.fields)
        hholds
    obtain ⟨listed, hbefore, -⟩ := aclRules_spec hfit hdecodes hacl
    have hsame := others_eq hbefore hafter [rule.id] (by
      rw [hfit.ruleRowsOf_withRule hfresh, List.filter_append, if_pos rfl]
      simp [RuleFields.row])
    -- The rule was not listed before.
    have hold : listed.filter (·.id ∉ [rule.id]) = listed := by
      refine List.filter_eq_self.mpr fun r hr => ?_
      have hne : r.id ≠ rule.id := fun hid =>
        hfresh (hid ▸ Stores.mem_ids ((mem_aclRules hfit hdecodes hbefore).mp hr).2)
      simpa using hne
    rw [filter_others hothers, hold] at hsame
    exact ⟨front, back, hsame ▸ hbefore, hafter, hothers⟩
  elsewhere other hother := by
    refine aclRules_congr rfl ?_
    have hne : acl.text ≠ other.text := fun heq => hother (Id.text_injective heq).symm
    rw [hfit.ruleRowsOf_withRule hfresh, if_neg hne, List.append_nil]

/-- On consistent tables, what holds a rule is the only ACL with a link of the rule. -/
theorem Consistent.eq_of_link (h : t.Consistent) {acl other : Id .acl} {rule : Rule}
    (hholds : t.Holds acl rule) (hlink : ⟨other.text, rule.id.text⟩ ∈ t.links) : other = acl :=
  h.acl_eq_of_holds ⟨hlink, hholds.2⟩ hholds

/-- A rule of consistent tables that decode is edited in its ACL when its row gets new fields. -/
theorem exists_editsRule_withFields (hfit : t.Consistent) (hdecodes : t.Decodable) (rule : Rule)
    (hrule : rule.id.text ∈ t.ids .rule) :
    ∃ acl, t.EditsRule acl rule (t.withFields rule.id.text rule.fields) := by
  obtain ⟨⟨id, fields⟩, hid, hstored⟩ := hdecodes.exists_stores hrule
  obtain rfl : id = rule.id := hid
  obtain ⟨acl, listed, hlisted, hmem⟩ := exists_aclRules_of_stores hfit hdecodes hstored
  have hholds := (mem_aclRules hfit hdecodes hlisted).mp hmem
  have hholds' : (t.withFields rule.id.text rule.fields).Holds acl rule := by
    obtain ⟨row, hrow, hkeeps⟩ := hstored
    refine ⟨hholds.1, rule.fields.row rule.id.text, List.mem_map.mpr ⟨row, hrow, ?_⟩,
      rfl, rfl, rfl, rfl, rfl⟩
    rw [if_pos hkeeps.id.symm, ← hkeeps.id]
  refine ⟨acl, ⟨rfl, rfl, rfl, rfl, rfl⟩, ?_, ?_, ?_⟩
  · obtain ⟨front, back, hbefore, hothers⟩ := aclRules_split hfit hdecodes hholds
    obtain ⟨front', back', hafter, hothers'⟩ :=
      aclRules_split (hfit.withFields rule.id.text rule.fields)
        (hdecodes.withFields rule.id.text rule.fields) hholds'
    have hsame := others_eq hbefore hafter [rule.id]
      (filter_ruleRowsOf_withFields t rule.id rule.fields acl.text)
    rw [filter_others hothers', filter_others hothers] at hsame
    exact ⟨⟨rule.id, fields⟩, front, back, front', back', rfl, hbefore, hafter, hsame, hothers⟩
  · intro other hother
    refine aclRules_congr rfl ?_
    rw [ruleRowsOf_withFields]
    refine (List.map_congr_left fun row hrow => if_neg fun hid => ?_).trans (List.map_id' _)
    obtain ⟨-, hlink⟩ := hfit.mem_ruleRowsOf.mp hrow
    exact hother (hfit.eq_of_link hholds (hid ▸ hlink))
  · intro other listed hother hlisted r hr hid
    obtain ⟨hlink, -⟩ := (mem_aclRules hfit hdecodes hlisted).mp hr
    exact hother (hfit.eq_of_link hholds (hid ▸ hlink))

end Tables

/-! ## Calls -/

namespace Store

variable {accepts : String → Bool} {s : Store}

/-- Whether fields are refused with an error wherever they are written: no ACL and no rule is looked
for, and nothing is changed. -/
structure RefusesFields (accepts : String → Bool) (s : Store) (f : RuleFields) (e : Error) :
    Prop where
  /-- No rule is created of them. -/
  create : ∀ fresh acl, s.run accepts (.createRule fresh acl f) = (.error e, s)
  /-- They are not given to a rule. -/
  update : ∀ rule, s.run accepts (.updateRule rule f) = (.error e, s)

/-- Fields that do not pass their check are refused wherever they are written. -/
theorem refusesFields_of_validate {f : RuleFields} {e : Error}
    (h : f.validate accepts = .error e) : s.RefusesFields accepts f e where
  create := run_createRule_of_error h
  update _ := run_of_plan_error (bind_eq_error_iff.mpr (.inl h))

/-- A rule gets new fields that pass their check, if it is there. -/
theorem run_updateRule (hlocked : s.locked = false) {f : RuleFields}
    (hvalid : f.validate accepts = .ok ()) (rule : Id .rule) :
    s.run accepts (.updateRule rule f) =
      if s.tables.has rule then (.ok (), { s with tables := s.tables.withFields rule.text f })
      else (.error (.notFound .rule rule.text), s) := by
  have hplan : (Operation.updateRule rule f).plan accepts maxBatch =
      .ok (some (.editRule rule f)) := by
    simp only [Operation.plan, bind_eq_ok_iff]
    exact ⟨(), hvalid, rfl⟩
  unfold run runBatched
  rw [hplan]
  simp only [write_eq, hlocked, Bool.false_eq_true, if_false, Transaction.outcome_editRule,
    Tables.has_eq_true_iff]
  split_ifs <;> rfl

/-- A call that writes fields succeeds exactly when the fields are in order and what they are
written to is there. -/
theorem write_ok_iff {f : RuleFields} {op : Operation} {known : Bool} {e : Error} {s' : Store}
    (hvalid : f.validate accepts = .ok () →
      s.run accepts op = if known then (.ok (), s') else (.error e, s))
    (hinvalid : ∀ e, f.validate accepts = .error e → s.run accepts op = (.error e, s)) :
    (s.run accepts op).1 = .ok () ↔
      f.value ≠ "" ∧ (f.type = .regex → accepts f.value = true) ∧ known = true := by
  rw [← and_assoc, ← RuleFields.validate_eq_ok_iff]
  cases hcheck : f.validate accepts with
  | error e => simp [hinvalid e hcheck]
  | ok => cases known <;> simp [hvalid hcheck]

/-- In every state that can be reached, writing a rule does what it says. A new rule is created
exactly when its fields are in order and the ACL is there; the ACL then lists the rule in addition,
with these fields, and every other ACL lists what it listed before. A rule gets new fields exactly
when they are in order and the rule is there; the one ACL that lists the rule then lists it once,
with these fields, and all other rules are listed as they were, in this ACL and in every other.
Neither call touches anything but rules and links. Fields that are not in order are refused before
the ACL or the rule is looked for. -/
theorem write_rule_exact (hs : s.Reachable accepts) (f : RuleFields) :
    (∀ fresh acl, s.tables.has fresh = false →
      ((s.run accepts (.createRule fresh acl f)).1 = .ok () ↔
        f.value ≠ "" ∧ (f.type = .regex → accepts f.value = true) ∧ s.tables.has acl = true) ∧
      ((s.run accepts (.createRule fresh acl f)).1 = .ok () →
        s.tables.GainsRule acl ⟨fresh, f⟩ (s.run accepts (.createRule fresh acl f)).2.tables)) ∧
    (∀ rule,
      ((s.run accepts (.updateRule rule f)).1 = .ok () ↔
        f.value ≠ "" ∧ (f.type = .regex → accepts f.value = true) ∧ s.tables.has rule = true) ∧
      ((s.run accepts (.updateRule rule f)).1 = .ok () → ∃ acl,
        s.tables.EditsRule acl ⟨rule, f⟩ (s.run accepts (.updateRule rule f)).2.tables)) ∧
    (f.value = "" → s.RefusesFields accepts f (.emptyField .ruleValue)) ∧
    (f.value ≠ "" → f.type = .regex → accepts f.value = false →
      s.RefusesFields accepts f .badPattern) := by
  refine ⟨?_, ?_, ?_, ?_⟩
  · intro fresh acl hfresh
    have hiff := write_ok_iff
      (fun hvalid : f.validate accepts = .ok () => run_createRule hs hvalid hfresh acl)
      fun e he => (refusesFields_of_validate he).create fresh acl
    refine ⟨hiff, fun hok => ?_⟩
    obtain ⟨hvalue, hpattern, hacl⟩ := hiff.mp hok
    rw [run_createRule hs (RuleFields.validate_eq_ok_iff.mpr ⟨hvalue, hpattern⟩) hfresh,
      if_pos hacl]
    have hnew : fresh.text ∉ s.tables.ids .rule := Tables.has_eq_false_iff.mp hfresh
    exact Tables.gainsRule_withRule hs.consistent hs.decodable (Tables.has_eq_true_iff.mp hacl)
      ⟨fresh, f⟩ hnew
  · intro rule
    have hiff := write_ok_iff
      (fun hvalid : f.validate accepts = .ok () => run_updateRule hs.locked_eq_false hvalid rule)
      fun e he => (refusesFields_of_validate he).update rule
    refine ⟨hiff, fun hok => ?_⟩
    obtain ⟨hvalue, hpattern, hrule⟩ := hiff.mp hok
    rw [run_updateRule hs.locked_eq_false
      (RuleFields.validate_eq_ok_iff.mpr ⟨hvalue, hpattern⟩), if_pos hrule]
    exact Tables.exists_editsRule_withFields hs.consistent hs.decodable ⟨rule, f⟩
      (Tables.has_eq_true_iff.mp hrule)
  · exact fun hvalue => refusesFields_of_validate (RuleFields.validate_of_empty accepts hvalue)
  · exact fun hvalue htype hpattern =>
      refusesFields_of_validate (RuleFields.validate_of_bad_pattern hvalue htype hpattern)

/-- A pattern is created as a rule beside another one, and is given to this other one; what is no
pattern is refused. -/
theorem write_rule_exact_pattern :
    let accepts : String → Bool := fun text => text ≠ "("
    let acl : Id .acl := ⟨"00000000-0000-4000-8000-000000000001", by decide⟩
    let rule : Id .rule := ⟨"00000000-0000-4000-8000-000000000002", by decide⟩
    let fresh : Id .rule := ⟨"00000000-0000-4000-8000-000000000003", by decide⟩
    let f : RuleFields := ⟨.regex, "^ads?[.]", .block, "ads"⟩
    let calls : List Call := [.change (.createAcl acl "web"),
      .change (.createRule rule acl ⟨.domain, "example.org", .allow, ""⟩)]
    let s := (Store.empty.transcript accepts calls).2
    s.Reachable accepts ∧ s.tables.has fresh = false ∧
      s.tables.GainsRule acl ⟨fresh, f⟩ (s.run accepts (.createRule fresh acl f)).2.tables ∧
      (∃ acl', s.tables.EditsRule acl' ⟨rule, f⟩ (s.run accepts (.updateRule rule f)).2.tables) ∧
      s.RefusesFields accepts ⟨.regex, "(", .block, "ads"⟩ .badPattern := by
  intro accepts acl rule fresh f calls s
  have hs : s.Reachable accepts := ⟨calls, rfl⟩
  have hfresh : s.tables.has fresh = false := by decide +kernel
  have hacl : s.tables.has acl = true := by decide +kernel
  have hrule : s.tables.has rule = true := by decide +kernel
  have hvalue : f.value ≠ "" := by decide
  have hpattern : f.type = .regex → accepts f.value = true := by decide
  obtain ⟨hcreate, hupdate, -⟩ := write_rule_exact hs f
  obtain ⟨hcreated, hgains⟩ := hcreate fresh acl hfresh
  obtain ⟨hupdated, hedits⟩ := hupdate rule
  obtain ⟨-, -, -, hrefused⟩ := write_rule_exact hs ⟨.regex, "(", .block, "ads"⟩
  exact ⟨hs, hfresh, hgains (hcreated.mpr ⟨hvalue, hpattern, hacl⟩),
    hedits (hupdated.mpr ⟨hvalue, hpattern, hrule⟩), hrefused (by decide) rfl (by decide)⟩

end Store

end ProxyPolicy.Policy
