import Mathlib.Tactic.SplitIfs
import ProxyPolicy.Proofs.List.Loops
import ProxyPolicy.Proofs.Policy.Transaction

/-!
# The effect of a call

`Operation.Plans` says what a call does before it comes to the store: the checks that its arguments
have passed, and the transaction that it runs. `Operation.Effect` says what a call that succeeds has
done: the checks that it has passed, both those on its arguments and those on the tables, and the
tables after it. A call succeeds in no other way (`effect_of_runBatched_ok`), whatever the size of a
batch. The invariants of the store are proved from the effect alone, with one case for each
operation.
-/

namespace ProxyPolicy.Policy

/-! ## Checks on arguments -/

/-- A text passes the check for emptiness exactly when it is not empty. -/
theorem requireText_eq_ok_iff {field : Field} {text : String} :
    requireText field text = .ok () ↔ text ≠ "" := by
  unfold requireText
  rw [ne_eq, ← String.isEmpty_iff]
  cases text.isEmpty
  · simp only [Bool.false_eq_true, if_false, not_false_eq_true]
  · simp only [if_true, reduceCtorEq, not_true_eq_false]

/-- Checks that start with the one for emptiness fail when the text is empty, or when the others
do. -/
theorem requireText_bind_eq_error_iff {β : Type} {field : Field} {text : String}
    {next : Unit → Except Error β} {e : Error} :
    requireText field text >>= next = .error e ↔
      text = "" ∧ e = .emptyField field ∨ text ≠ "" ∧ next () = .error e := by
  unfold requireText
  rw [ne_eq, ← String.isEmpty_iff]
  cases text.isEmpty
  · simp [bind, Except.bind]
  · simp [bind, Except.bind, eq_comm]

/-- The search for a repeated member finds none exactly when the members are distinct and none of
them has been seen. -/
theorem firstRepeated?_eq_none_iff {α : Type} [BEq α] [LawfulBEq α] (seen xs : List α) :
    firstRepeated? seen xs = none ↔ xs.Nodup ∧ ∀ x ∈ xs, x ∉ seen := by
  induction xs generalizing seen with
  | nil => simp [firstRepeated?]
  | cons x xs ih =>
    unfold firstRepeated?
    by_cases hx : x ∈ seen
    · simp [hx]
    · simp only [List.contains_eq_mem, hx, decide_false, Bool.false_eq_true, if_false, ih,
        List.nodup_cons, List.mem_cons, forall_eq_or_imp, not_or]
      grind

/-- A list of identifiers passes the check for repetitions exactly when its members are distinct. -/
theorem requireDistinct_eq_ok_iff {kind : Kind} (ids : List (Id kind)) :
    requireDistinct ids = .ok () ↔ ids.Nodup := by
  unfold requireDistinct
  have h := firstRepeated?_eq_none_iff [] ids
  cases hrepeated : firstRepeated? [] ids with
  | none => simp_all
  | some id => simp_all

/-! ## Plans -/

/-- What a call that runs a transaction has planned: the checks that its arguments passed, and the
transaction. -/
def Operation.Plans (accepts : String → Bool) (batch : Nat) :
    Operation → Transaction Unit → Prop
  | createAcl fresh comment, body =>
    comment ≠ "" ∧ body = .insertAcl ⟨fresh.text, some comment⟩
  | createGroup fresh comment, body =>
    comment ≠ "" ∧ body = .insertGroup ⟨fresh.text, some comment⟩
  | createSource fresh group source comment memberComment, body =>
    source ≠ "" ∧ body = .createSource fresh group source comment memberComment
  | createRule fresh acl f, body =>
    f.validate accepts = .ok () ∧ body = .createRule fresh acl f
  | createInboxRule fresh inbox type value action, body =>
    ∃ f, RuleFields.ofTexts type value action = .ok f ∧ f.validate accepts = .ok () ∧
      body = .createRule fresh inbox f
  | updateRule rule f, body => f.validate accepts = .ok () ∧ body = .editRule rule f
  | moveRules rules destination, body =>
    rules.Nodup ∧ rules ≠ [] ∧ body = .moveRules batch rules destination
  | deleteRules rules, body => rules.Nodup ∧ rules ≠ [] ∧ body = .removeRules batch rules
  | deleteAcl acl, body => body = .removeAcl acl
  | deleteSource source, body => body = .removeSource source
  | replaceGrants group grants, body =>
    (grants.map Prod.fst).Nodup ∧ body = .replaceGrants group grants
  | replaceMembers group members, body =>
    (members.map Prod.fst).Nodup ∧ body = .replaceMembers group members

/-- A plan comes of the checks on the arguments. -/
theorem plans_of_plan {accepts : String → Bool} {batch : Nat} {op : Operation}
    {body : Transaction Unit} (h : op.plan accepts batch = .ok (some body)) :
    op.Plans accepts batch body := by
  -- The checks before the transaction are taken off the plan one by one; what is left is the body.
  cases op with
  | createInboxRule fresh inbox type value action =>
    simp only [Operation.plan, bind_eq_ok_iff] at h
    obtain ⟨f, hf, ⟨⟩, hvalid, hbody⟩ := h
    cases hbody
    exact ⟨f, hf, hvalid, rfl⟩
  | createRule fresh acl f =>
    simp only [Operation.plan, bind_eq_ok_iff] at h
    obtain ⟨⟨⟩, hvalid, hbody⟩ := h
    cases hbody
    exact ⟨hvalid, rfl⟩
  | updateRule rule f =>
    simp only [Operation.plan, bind_eq_ok_iff] at h
    obtain ⟨⟨⟩, hvalid, hbody⟩ := h
    cases hbody
    exact ⟨hvalid, rfl⟩
  | moveRules rules destination =>
    simp only [Operation.plan, bind_eq_ok_iff] at h
    obtain ⟨⟨⟩, hdistinct, hbody⟩ := h
    split at hbody
    · -- For no rules there is no body to run.
      cases hbody
    · rename_i hempty
      cases hbody
      exact ⟨(requireDistinct_eq_ok_iff rules).mp hdistinct, by simpa using hempty, rfl⟩
  | deleteRules rules =>
    simp only [Operation.plan, bind_eq_ok_iff] at h
    obtain ⟨⟨⟩, hdistinct, hbody⟩ := h
    split at hbody
    · cases hbody
    · rename_i hempty
      cases hbody
      exact ⟨(requireDistinct_eq_ok_iff rules).mp hdistinct, by simpa using hempty, rfl⟩
  | deleteAcl acl =>
    cases h
    rfl
  | deleteSource source =>
    cases h
    rfl
  | replaceGrants group grants =>
    simp only [Operation.plan, bind_eq_ok_iff] at h
    obtain ⟨⟨⟩, hdistinct, hbody⟩ := h
    cases hbody
    exact ⟨(requireDistinct_eq_ok_iff _).mp hdistinct, rfl⟩
  | replaceMembers group members =>
    simp only [Operation.plan, bind_eq_ok_iff] at h
    obtain ⟨⟨⟩, hdistinct, hbody⟩ := h
    cases hbody
    exact ⟨(requireDistinct_eq_ok_iff _).mp hdistinct, rfl⟩
  | _ =>
    simp only [Operation.plan, bind_eq_ok_iff] at h
    obtain ⟨⟨⟩, hname, hbody⟩ := h
    cases hbody
    exact ⟨requireText_eq_ok_iff.mp hname, rfl⟩

/-- The only calls that ask for nothing are those with an empty list of rules. -/
theorem plan_eq_ok_none_cases {accepts : String → Bool} {batch : Nat} {op : Operation}
    (h : op.plan accepts batch = .ok none) :
    (∃ destination, op = .moveRules [] destination) ∨ op = .deleteRules [] := by
  cases op with
  | moveRules rules destination =>
    simp only [Operation.plan, bind_eq_ok_iff] at h
    obtain ⟨⟨⟩, -, hbody⟩ := h
    split at hbody
    · rename_i hempty
      exact .inl ⟨destination, by rw [List.isEmpty_iff.mp hempty]⟩
    · cases hbody
  | deleteRules rules =>
    simp only [Operation.plan, bind_eq_ok_iff] at h
    obtain ⟨⟨⟩, -, hbody⟩ := h
    split at hbody
    · rename_i hempty
      exact .inr (by rw [List.isEmpty_iff.mp hempty])
    · cases hbody
  | deleteAcl acl => cases h
  | deleteSource source => cases h
  | createInboxRule fresh inbox type value action =>
    simp only [Operation.plan, bind_eq_ok_iff] at h
    obtain ⟨f, -, ⟨⟩, -, hbody⟩ := h
    cases hbody
  | _ =>
    simp only [Operation.plan, bind_eq_ok_iff] at h
    obtain ⟨⟨⟩, -, hbody⟩ := h
    cases hbody

/-! ## Effects -/

/-- What a call does to the tables when it succeeds: the checks that it passes, and the tables after
it. -/
def Operation.Effect (accepts : String → Bool) (t : Tables) : Operation → Tables → Prop
  | createAcl fresh comment, t' =>
    comment ≠ "" ∧ fresh.text ∉ t.ids .acl ∧ t' = t.add (.acl ⟨fresh.text, some comment⟩)
  | createGroup fresh comment, t' =>
    comment ≠ "" ∧ fresh.text ∉ t.ids .group ∧ t' = t.add (.group ⟨fresh.text, some comment⟩)
  | createSource fresh group source comment memberComment, t' =>
    source ≠ "" ∧ group.text ∈ t.ids .group ∧ fresh.text ∉ t.ids .source ∧
      (group.text, fresh.text) ∉ t.members.map MemberRow.key ∧
      t' = t.withSource fresh.text group.text source comment memberComment
  | createRule fresh acl f, t' =>
    f.validate accepts = .ok () ∧ acl.text ∈ t.ids .acl ∧ fresh.text ∉ t.ids .rule ∧
      fresh.text ∉ t.links.map (·.rule) ∧ t' = t.withRule fresh.text acl.text f
  | createInboxRule fresh inbox type value action, t' =>
    ∃ f, RuleFields.ofTexts type value action = .ok f ∧ f.validate accepts = .ok () ∧
      inbox.text ∈ t.ids .acl ∧ fresh.text ∉ t.ids .rule ∧ fresh.text ∉ t.links.map (·.rule) ∧
      t' = t.withRule fresh.text inbox.text f
  | updateRule rule f, t' =>
    f.validate accepts = .ok () ∧ rule.text ∈ t.ids .rule ∧ t' = t.withFields rule.text f
  | moveRules rules destination, t' =>
    rules.Nodup ∧ (rules ≠ [] → destination.text ∈ t.ids .acl) ∧
      t' = t.retarget (rules.map (·.text)) destination.text
  | deleteRules rules, t' =>
    rules.Nodup ∧ (∀ r ∈ rules, r.text ∈ t.ids .rule) ∧ t' = t.dropRules (rules.map (·.text))
  | deleteAcl acl, t' =>
    acl.text ∈ t.ids .acl ∧ (∀ l ∈ t.links, l.acl ≠ acl.text) ∧ t' = t.withoutAcl acl.text
  | deleteSource source, t' =>
    source.text ∈ t.ids .source ∧ (∀ m ∈ t.members, m.source ≠ source.text) ∧
      t' = t.withoutSource source.text
  | replaceGrants group grants, t' =>
    (grants.map Prod.fst).Nodup ∧ group.text ∈ t.ids .group ∧
      (∀ g ∈ grants, g.1.text ∈ t.ids .acl) ∧ t' = t.withGrants group grants
  | replaceMembers group members, t' =>
    (members.map Prod.fst).Nodup ∧ group.text ∈ t.ids .group ∧
      (∀ m ∈ members, m.1.text ∈ t.ids .source) ∧ t' = t.withMembers group members

/-- A call that succeeds has asked for nothing or has run its transaction to the end. -/
theorem Store.runBatched_eq_ok_cases {accepts : String → Bool} {batch : Nat} {op : Operation}
    {s s' : Store} (h : s.runBatched accepts batch op = (.ok (), s')) :
    (op.plan accepts batch = .ok none ∧ s' = s) ∨
      ∃ body t', op.plan accepts batch = .ok (some body) ∧
        body.outcome s.tables = .ok ((), t') ∧ s' = { s with tables := t' } := by
  unfold runBatched at h
  rcases hplan : op.plan accepts batch with e | _ | body
  · rw [hplan] at h
    cases h
  · rw [hplan] at h
    exact .inl ⟨rfl, (Prod.mk.inj h).2.symm⟩
  · rw [hplan] at h
    simp only [write_eq] at h
    split at h
    · cases h
    · rcases houtcome : body.outcome s.tables with e | ⟨⟨⟩, t'⟩
      · rw [houtcome] at h
        cases h
      · rw [houtcome] at h
        exact .inr ⟨body, t', rfl, houtcome, (Prod.mk.inj h).2.symm⟩

open Transaction in
/-- A transaction that a call has planned does to the tables what the call's effect says. -/
theorem effect_of_plans {accepts : String → Bool} {batch : Nat} {op : Operation}
    {body : Transaction Unit} {t t' : Tables} (hplans : op.Plans accepts batch body)
    (h : body.outcome t = .ok ((), t')) : op.Effect accepts t t' := by
  -- One outcome of each body is a success. Its guards and what was checked before are the effect.
  cases op with
  | createAcl fresh comment =>
    obtain ⟨hcomment, rfl⟩ := hplans
    rw [outcome_insertAcl] at h
    split_ifs at h with hfresh
    cases h
    exact ⟨hcomment, hfresh, rfl⟩
  | createGroup fresh comment =>
    obtain ⟨hcomment, rfl⟩ := hplans
    rw [outcome_insertGroup] at h
    split_ifs at h with hfresh
    cases h
    exact ⟨hcomment, hfresh, rfl⟩
  | createSource fresh group source comment memberComment =>
    obtain ⟨hsource, rfl⟩ := hplans
    rw [outcome_createSource] at h
    split_ifs at h with hgroup hfresh hkey
    cases h
    exact ⟨hsource, hgroup, hfresh, hkey, rfl⟩
  | createRule fresh acl f =>
    obtain ⟨hvalid, rfl⟩ := hplans
    rw [outcome_createRule] at h
    split_ifs at h with hacl hfresh hlink
    cases h
    exact ⟨hvalid, hacl, hfresh, hlink, rfl⟩
  | createInboxRule fresh inbox type value action =>
    obtain ⟨f, hf, hvalid, rfl⟩ := hplans
    rw [outcome_createRule] at h
    split_ifs at h with hacl hfresh hlink
    cases h
    exact ⟨f, hf, hvalid, hacl, hfresh, hlink, rfl⟩
  | updateRule rule f =>
    obtain ⟨hvalid, rfl⟩ := hplans
    rw [outcome_editRule] at h
    split_ifs at h with hrule
    cases h
    exact ⟨hvalid, hrule, rfl⟩
  | moveRules rules destination =>
    obtain ⟨hnodup, -, rfl⟩ := hplans
    rcases outcome_moveRules_cases batch rules destination t with ⟨hacl, hok⟩ | ⟨_, _, herror⟩
    · rw [hok] at h
      cases h
      exact ⟨hnodup, fun _ => hacl, rfl⟩
    · rw [herror] at h
      cases h
  | deleteRules rules =>
    obtain ⟨hnodup, -, rfl⟩ := hplans
    rw [outcome_removeRules, Tables.ifKnown_eq_ok_iff] at h
    exact ⟨hnodup, h⟩
  | deleteAcl acl =>
    obtain rfl := hplans
    rw [outcome_removeAcl] at h
    split_ifs at h with hacl hlink
    cases h
    exact ⟨hacl, fun l hl heq => hlink ⟨l, hl, heq⟩, rfl⟩
  | deleteSource source =>
    obtain rfl := hplans
    rw [outcome_removeSource] at h
    split_ifs at h with hsource hmember
    cases h
    exact ⟨hsource, fun m hm heq => hmember ⟨m, hm, heq⟩, rfl⟩
  | replaceGrants group grants =>
    obtain ⟨hnodup, rfl⟩ := hplans
    rw [outcome_replaceGrants group grants t hnodup] at h
    split_ifs at h with hgroup
    rw [Tables.ifKnown_eq_ok_iff] at h
    exact ⟨hnodup, hgroup, h⟩
  | replaceMembers group members =>
    obtain ⟨hnodup, rfl⟩ := hplans
    rw [outcome_replaceMembers group members t hnodup] at h
    split_ifs at h with hgroup
    rw [Tables.ifKnown_eq_ok_iff] at h
    exact ⟨hnodup, hgroup, h⟩

/-- A call that succeeds does to the tables what its effect says, and leaves the lock alone. -/
theorem effect_of_runBatched_ok {accepts : String → Bool} {batch : Nat} {op : Operation}
    {s s' : Store} (h : s.runBatched accepts batch op = (.ok (), s')) :
    op.Effect accepts s.tables s'.tables ∧ s'.locked = s.locked := by
  rcases Store.runBatched_eq_ok_cases h with ⟨hplan, rfl⟩ | ⟨body, t', hplan, hbody, rfl⟩
  · -- Nothing is asked for, which is the effect of a list without rules.
    refine ⟨?_, rfl⟩
    rcases plan_eq_ok_none_cases hplan with ⟨destination, rfl⟩ | rfl
    · exact ⟨List.nodup_nil, fun hne => absurd rfl hne, (Tables.retarget_nil _ _).symm⟩
    · exact ⟨List.nodup_nil, fun r hr => absurd hr List.not_mem_nil,
        (Tables.dropRules_nil _).symm⟩
  · exact ⟨effect_of_plans (plans_of_plan hplan) hbody, rfl⟩

end ProxyPolicy.Policy
