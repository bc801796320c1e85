import Mathlib.Data.List.Perm.Basic
import ProxyPolicy.Proofs.Policy.Consistency

/-!
# Batches are not seen

Rules are moved and deleted batch by batch. `Store.moveAtOnce` and `Store.deleteAtOnce` do the same
with the whole list in one statement, and `batching_unobservable` shows that in every state that can
be reached a call comes to what they come to, whatever the size of a batch, and which rule it names
when one is missing.

A batch that is moved counts its links. On consistent tables each rule has exactly one link, so the
count falls short exactly when a rule of the batch is unknown, and the error names the first one
(`outcome_moveBatch_of_consistent`). Moving a batch leaves the tables consistent and no rule
comes or goes, so that the first batch that falls short holds the first unknown rule of the whole
list (`outcome_forM_moveBatch`).
-/

namespace ProxyPolicy.Policy

namespace Transaction

/-- Moves rules to an ACL by one statement for all of them. -/
def moveAtOnce (rules : List (Id .rule)) (destination : Id .acl) : Transaction Unit := do
  require destination
  moveBatch destination rules

/-- Takes away rules and their links by one statement each, once all are known to exist. -/
def deleteAtOnce (rules : List (Id .rule)) : Transaction Unit := do
  rules.forM require
  deleteBatch rules

end Transaction

namespace Store

/-- Moves rules to an ACL without batches. An empty list asks for nothing. -/
def moveAtOnce (s : Store) (rules : List (Id .rule)) (destination : Id .acl) :
    Except Error Unit × Store :=
  if rules = [] then (.ok (), s) else s.write (.moveAtOnce rules destination)

/-- Takes away rules without batches. An empty list asks for nothing. -/
def deleteAtOnce (s : Store) (rules : List (Id .rule)) : Except Error Unit × Store :=
  if rules = [] then (.ok (), s) else s.write (.deleteAtOnce rules)

end Store

/-! ## Rules and their links -/

namespace Tables

variable {t : Tables}

/-- Whether an entity is there, as a question of its identifier. -/
theorem has_eq_true_iff {kind : Kind} {id : Id kind} : t.has id = true ↔ id.text ∈ t.ids kind := by
  unfold has
  exact List.contains_iff_mem

/-- Whether an entity is unknown, as a question of its identifier. -/
theorem has_eq_false_iff {kind : Kind} {id : Id kind} : t.has id = false ↔ id.text ∉ t.ids kind :=
  Bool.eq_false_iff.trans has_eq_true_iff.not

/-- The first entity of a list that is unknown, as a question of identifiers. -/
theorem find?_not_has {kind : Kind} (ids : List (Id kind)) :
    ids.find? (fun id => !t.has id) = ids.find? (fun id => id.text ∉ t.ids kind) := by
  congr 1
  funext id
  rw [Bool.eq_iff_iff, Bool.not_eq_true', ← Bool.not_eq_true, has_eq_true_iff, decide_eq_true_eq]

/-- The search for entities of one list and then of another. -/
theorem ifKnown_append {α : Type} {kind : Kind} (entity : α → Id kind) (xs ys : List α)
    (t₁ t' : Tables) :
    t.ifKnown entity (xs ++ ys) t' =
      (t.ifKnown entity xs t₁).bind fun _ => t.ifKnown entity ys t' := by
  induction xs with
  | nil => rfl
  | cons x xs ih =>
    rw [List.cons_append, ifKnown_cons, ifKnown_cons, ih]
    by_cases hx : (entity x).text ∈ t.ids kind
    · rw [if_pos hx, if_pos hx]
    · rw [if_neg hx, if_neg hx]
      rfl

/-- The result of the search for entities: the error for the first that is unknown, if there is
one. -/
theorem map_ifKnown {kind : Kind} (ids : List (Id kind)) (t' : Tables) :
    ((t.ifKnown (fun id => id) ids t').map fun _ => ()) =
      (ids.find? fun id => !t.has id).elim (.ok ()) fun id => .error (.notFound kind id.text) := by
  rw [find?_not_has]
  unfold ifKnown
  cases ids.find? fun id => id.text ∉ t.ids kind with
  | none => rfl
  | some id => rfl

/-- On consistent tables, distinct rules have as many links as there are known ones among them. -/
theorem Consistent.countP_links_of_rules (h : t.Consistent) {rules : List (Id .rule)}
    (hnodup : rules.Nodup) :
    t.links.countP (·.rule ∈ rules.map (·.text)) = rules.countP (·.text ∈ t.ids .rule) := by
  have htexts : (rules.map (·.text)).Nodup := hnodup.map fun _ _ heq => Id.text_injective heq
  -- Both sides count the texts that the rules of the list share with the rules that are there.
  have hshared : ((t.ids .rule).filter (· ∈ rules.map (·.text))).Perm
      ((rules.map (·.text)).filter (· ∈ t.ids .rule)) := by
    rw [List.perm_ext_iff_of_nodup ((h.ids_nodup .rule).filter _) (htexts.filter _)]
    intro id
    simp only [List.mem_filter, decide_eq_true_eq]
    exact And.comm
  calc t.links.countP (·.rule ∈ rules.map (·.text))
      = (t.links.map (·.rule)).countP (· ∈ rules.map (·.text)) := by
        rw [List.countP_map]
        rfl
    _ = (t.ids .rule).countP (· ∈ rules.map (·.text)) := h.links_perm.countP_eq _
    _ = (rules.map (·.text)).countP (· ∈ t.ids .rule) := by
        rw [List.countP_eq_length_filter, List.countP_eq_length_filter, hshared.length_eq]
    _ = rules.countP (·.text ∈ t.ids .rule) := by
        rw [List.countP_map]
        rfl

/-- On consistent tables, distinct rules have a link each exactly when all of them are there. -/
theorem Consistent.countP_links_eq_length_iff (h : t.Consistent) {rules : List (Id .rule)}
    (hnodup : rules.Nodup) :
    t.links.countP (·.rule ∈ rules.map (·.text)) = rules.length ↔
      ∀ r ∈ rules, r.text ∈ t.ids .rule := by
  rw [h.countP_links_of_rules hnodup, List.countP_eq_length]
  simp only [decide_eq_true_eq]

end Tables

/-! ## Transactions -/

namespace Transaction

variable {t : Tables}

/-- The error for a missing rule names the first rule that is unknown, if there is one. -/
theorem missingRule_of_find? {rules : List (Id .rule)} {r : Id .rule}
    (h : rules.find? (fun r => r.text ∉ t.ids .rule) = some r) :
    missingRule rules t = .notFound .rule r.text := by
  unfold missingRule
  rw [Tables.find?_not_has, h]
  rfl

/-- On consistent tables, a batch of distinct rules is moved to an ACL that is there, unless one is
unknown; the error names the first. -/
theorem outcome_moveBatch_of_consistent (h : t.Consistent) {destination : Id .acl}
    (hacl : destination.text ∈ t.ids .acl) {rules : List (Id .rule)} (hnodup : rules.Nodup) :
    outcome (moveBatch destination rules) t =
      t.ifKnown (fun r => r) rules (t.retarget (rules.map (·.text)) destination.text) := by
  rw [outcome_moveBatch destination rules t hacl]
  unfold Tables.ifKnown
  cases hfind : rules.find? fun r => r.text ∉ t.ids .rule with
  | none =>
    have hknown : ∀ r ∈ rules, r.text ∈ t.ids .rule := by
      simpa using List.find?_eq_none.mp hfind
    rw [if_pos ((h.countP_links_eq_length_iff hnodup).mpr hknown)]
  | some r =>
    have hunknown : ¬∀ r ∈ rules, r.text ∈ t.ids .rule := by
      intro hknown
      have hr : r.text ∉ t.ids .rule := by simpa using List.find?_some hfind
      exact hr (hknown r (List.mem_of_find?_eq_some hfind))
    rw [if_neg (mt (h.countP_links_eq_length_iff hnodup).mp hunknown)]
    -- The error is looked for after the links have moved, when the rules are still the same.
    exact congrArg Except.error (missingRule_of_find? hfind)

/-- On consistent tables, the loop that moves distinct rules batch by batch moves them all, unless
one is unknown; the error names the first. -/
theorem outcome_forM_moveBatch (h : t.Consistent) {destination : Id .acl}
    (hacl : destination.text ∈ t.ids .acl) {bs : List (List (Id .rule))}
    (hnodup : bs.flatten.Nodup) :
    outcome (bs.forM (moveBatch destination)) t =
      t.ifKnown (fun r => r) bs.flatten
        (t.retarget (bs.flatten.map (·.text)) destination.text) := by
  -- The tables after a batch are consistent again, and the other batches are moved on them.
  induction bs generalizing t with
  | nil =>
    rw [List.flatten_nil, List.map_nil, Tables.retarget_nil]
    rfl
  | cons b bs ih =>
    rw [List.flatten_cons, List.nodup_append'] at hnodup
    obtain ⟨hb, hbs, -⟩ := hnodup
    have hmoved : (t.retarget (b.map (·.text)) destination.text).Consistent :=
      h.retarget fun _ => hacl
    rw [outcome_forM_cons, outcome_bind, outcome_moveBatch_of_consistent h hacl hb,
      List.flatten_cons, Tables.ifKnown_append (fun r => r) b bs.flatten
        (t.retarget (b.map (·.text)) destination.text)]
    unfold Tables.ifKnown
    cases b.find? fun r => r.text ∉ t.ids .rule with
    | some r => rfl
    | none =>
      have hrest := ih hmoved hacl hbs
      rw [Tables.retarget_retarget, ← List.map_append] at hrest
      exact hrest

/-- On consistent tables, distinct rules are moved unless the ACL or one of them is unknown. -/
theorem outcome_moveRules (h : t.Consistent) (batch : Nat) {rules : List (Id .rule)}
    (hnodup : rules.Nodup) (destination : Id .acl) :
    outcome (moveRules batch rules destination) t =
      if destination.text ∈ t.ids .acl then
        t.ifKnown (fun r => r) rules (t.retarget (rules.map (·.text)) destination.text)
      else .error (.notFound .acl destination.text) := by
  unfold moveRules
  rw [outcome_require_bind]
  by_cases hacl : destination.text ∈ t.ids .acl
  · have hflat : (batches batch rules).flatten.Nodup := by
      rw [flatten_batches]
      exact hnodup
    rw [if_pos hacl, if_pos hacl, outcome_forM_moveBatch h hacl hflat, flatten_batches]
  · rw [if_neg hacl, if_neg hacl]

/-- On consistent tables, distinct rules are moved without batches unless the ACL or one of them is
unknown. -/
theorem outcome_moveAtOnce (h : t.Consistent) {rules : List (Id .rule)} (hnodup : rules.Nodup)
    (destination : Id .acl) :
    outcome (moveAtOnce rules destination) t =
      if destination.text ∈ t.ids .acl then
        t.ifKnown (fun r => r) rules (t.retarget (rules.map (·.text)) destination.text)
      else .error (.notFound .acl destination.text) := by
  unfold moveAtOnce
  rw [outcome_require_bind]
  by_cases hacl : destination.text ∈ t.ids .acl
  · rw [if_pos hacl, if_pos hacl, outcome_moveBatch_of_consistent h hacl hnodup]
  · rw [if_neg hacl, if_neg hacl]

/-- Rules are taken away without batches unless one is unknown; the error names the first. -/
theorem outcome_deleteAtOnce (rules : List (Id .rule)) (t : Tables) :
    outcome (deleteAtOnce rules) t =
      t.ifKnown (fun r => r) rules (t.dropRules (rules.map (·.text))) := by
  unfold deleteAtOnce
  rw [outcome_bind, outcome_forM_require]
  unfold Tables.ifKnown
  cases rules.find? fun r => r.text ∉ t.ids .rule with
  | some r => rfl
  | none => exact outcome_deleteBatch rules t

end Transaction

/-! ## Calls -/

namespace Store

/-- What a transaction gives on a store that nobody has locked. -/
theorem write_fst {s : Store} (hlocked : s.locked = false) (body : Transaction Unit) :
    (s.write body).1 = (body.outcome s.tables).map fun _ => () := by
  rw [write_eq, hlocked]
  rcases body.outcome s.tables with e | ⟨_, t'⟩ <;> rfl

/-- Transactions of the same outcome do the same to a store. -/
theorem write_congr {s : Store} {body body' : Transaction Unit}
    (h : body.outcome s.tables = body'.outcome s.tables) : s.write body = s.write body' := by
  rw [write_eq, write_eq, h]

variable {accepts : String → Bool} {batch : Nat} {rules : List (Id .rule)} {s : Store}

/-- Distinct rules to be moved pass the checks on the arguments. -/
theorem runBatched_moveRules (hnodup : rules.Nodup) (destination : Id .acl) :
    s.runBatched accepts batch (.moveRules rules destination) =
      if rules = [] then (.ok (), s) else s.write (.moveRules batch rules destination) := by
  have hdistinct := (requireDistinct_eq_ok_iff rules).mpr hnodup
  unfold runBatched
  simp only [Operation.plan, hdistinct]
  cases rules with
  | nil => rfl
  | cons r rs => rfl

/-- Distinct rules to be deleted pass the checks on the arguments. -/
theorem runBatched_deleteRules (hnodup : rules.Nodup) :
    s.runBatched accepts batch (.deleteRules rules) =
      if rules = [] then (.ok (), s) else s.write (.removeRules batch rules) := by
  have hdistinct := (requireDistinct_eq_ok_iff rules).mpr hnodup
  unfold runBatched
  simp only [Operation.plan, hdistinct]
  cases rules with
  | nil => rfl
  | cons r rs => rfl

/-- On consistent tables, distinct rules are moved in batches as they are without. -/
theorem runBatched_moveRules_eq_moveAtOnce (h : s.tables.Consistent) (hnodup : rules.Nodup)
    (destination : Id .acl) :
    s.runBatched accepts batch (.moveRules rules destination) = s.moveAtOnce rules destination := by
  have houtcome : (Transaction.moveRules batch rules destination).outcome s.tables =
      (Transaction.moveAtOnce rules destination).outcome s.tables := by
    rw [Transaction.outcome_moveRules h batch hnodup, Transaction.outcome_moveAtOnce h hnodup]
  rw [runBatched_moveRules hnodup, write_congr houtcome]
  rfl

/-- Distinct rules are deleted in batches as they are without. -/
theorem runBatched_deleteRules_eq_deleteAtOnce (hnodup : rules.Nodup) :
    s.runBatched accepts batch (.deleteRules rules) = s.deleteAtOnce rules := by
  have houtcome : (Transaction.removeRules batch rules).outcome s.tables =
      (Transaction.deleteAtOnce rules).outcome s.tables := by
    rw [Transaction.outcome_removeRules, Transaction.outcome_deleteAtOnce]
  rw [runBatched_deleteRules hnodup, write_congr houtcome]
  rfl

/-- Rules are moved to an ACL that is there unless one is unknown; the error names the first. -/
theorem moveAtOnce_fst (hlocked : s.locked = false) (h : s.tables.Consistent)
    (hnodup : rules.Nodup) {destination : Id .acl} (hacl : destination.text ∈ s.tables.ids .acl) :
    (s.moveAtOnce rules destination).1 =
      (rules.find? fun r => !s.tables.has r).elim (.ok ()) fun r =>
        .error (.notFound .rule r.text) := by
  unfold moveAtOnce
  by_cases hempty : rules = []
  · rw [if_pos hempty, hempty]
    rfl
  · rw [if_neg hempty, write_fst hlocked, Transaction.outcome_moveAtOnce h hnodup, if_pos hacl,
      Tables.map_ifKnown]

/-- Rules are not moved to an ACL that is unknown. -/
theorem moveAtOnce_fst_of_unknown (hlocked : s.locked = false) (hne : rules ≠ [])
    {destination : Id .acl} (hacl : destination.text ∉ s.tables.ids .acl) :
    (s.moveAtOnce rules destination).1 = .error (.notFound .acl destination.text) := by
  unfold moveAtOnce Transaction.moveAtOnce
  rw [if_neg hne, write_fst hlocked, Transaction.outcome_require_bind, if_neg hacl]
  rfl

/-- Rules are deleted unless one is unknown; the error names the first. -/
theorem deleteAtOnce_fst (hlocked : s.locked = false) :
    (s.deleteAtOnce rules).1 =
      (rules.find? fun r => !s.tables.has r).elim (.ok ()) fun r =>
        .error (.notFound .rule r.text) := by
  unfold deleteAtOnce
  by_cases hempty : rules = []
  · rw [if_pos hempty, hempty]
    rfl
  · rw [if_neg hempty, write_fst hlocked, Transaction.outcome_deleteAtOnce, Tables.map_ifKnown]

/-- In every state that can be reached, distinct rules are moved and deleted in batches of any size
as they are without batches, with the same outcome and the same store after it. If there are rules
to be moved, an ACL that is unknown is the first thing that is found. Otherwise both calls name the
first rule of the list that is unknown, and both succeed if all are known. -/
theorem batching_unobservable (hs : s.Reachable accepts) (hnodup : rules.Nodup) (batch : Nat)
    (destination : Id .acl) :
    let move := s.runBatched accepts batch (.moveRules rules destination)
    let delete := s.runBatched accepts batch (.deleteRules rules)
    move = s.moveAtOnce rules destination ∧ delete = s.deleteAtOnce rules ∧
    (rules ≠ [] → s.tables.has destination = false →
      move.1 = .error (.notFound .acl destination.text)) ∧
    (∀ r, rules.find? (fun r => !s.tables.has r) = some r →
      delete.1 = .error (.notFound .rule r.text) ∧
      (s.tables.has destination = true → move.1 = .error (.notFound .rule r.text))) ∧
    ((∀ r ∈ rules, s.tables.has r = true) →
      delete.1 = .ok () ∧ (s.tables.has destination = true → move.1 = .ok ())) := by
  intro move delete
  have hlocked : s.locked = false := hs.locked_eq_false
  have hfit : s.tables.Consistent := hs.consistent
  have hmove : move = s.moveAtOnce rules destination :=
    runBatched_moveRules_eq_moveAtOnce hfit hnodup destination
  have hdelete : delete = s.deleteAtOnce rules := runBatched_deleteRules_eq_deleteAtOnce hnodup
  refine ⟨hmove, hdelete, ?_, ?_, ?_⟩
  · intro hne hacl
    rw [hmove, moveAtOnce_fst_of_unknown hlocked hne (Tables.has_eq_false_iff.mp hacl)]
  · intro r hr
    refine ⟨by rw [hdelete, deleteAtOnce_fst hlocked, hr]; rfl, ?_⟩
    intro hacl
    rw [hmove, moveAtOnce_fst hlocked hfit hnodup (Tables.has_eq_true_iff.mp hacl), hr]
    rfl
  · intro hknown
    have hnone : rules.find? (fun r => !s.tables.has r) = none :=
      List.find?_eq_none.mpr fun r hr => by simp [hknown r hr]
    refine ⟨by rw [hdelete, deleteAtOnce_fst hlocked, hnone]; rfl, ?_⟩
    intro hacl
    rw [hmove, moveAtOnce_fst hlocked hfit hnodup (Tables.has_eq_true_iff.mp hacl), hnone]
    rfl

/-- Three rules in batches of two, of which the second batch falls short: the last rule is known,
the one before it is not. -/
theorem batching_unobservable_second_batch :
    let acl : Id .acl := ⟨"00000000-0000-4000-8000-000000000001", by decide⟩
    let first : Id .rule := ⟨"00000000-0000-4000-8000-000000000002", by decide⟩
    let second : Id .rule := ⟨"00000000-0000-4000-8000-000000000003", by decide⟩
    let unknown : Id .rule := ⟨"00000000-0000-4000-8000-000000000004", by decide⟩
    let third : Id .rule := ⟨"00000000-0000-4000-8000-000000000005", by decide⟩
    let fields : RuleFields := ⟨.domain, "example.org", .block, ""⟩
    let calls : List Call := [.change (.createAcl acl "web"),
      .change (.createRule first acl fields), .change (.createRule second acl fields),
      .change (.createRule third acl fields)]
    let rules := [first, second, unknown, third]
    let s := (Store.empty.transcript (fun _ => true) calls).2
    s.Reachable (fun _ => true) ∧ rules.Nodup ∧ s.tables.has acl = true ∧
      rules.find? (fun r => !s.tables.has r) = some unknown ∧
      s.runBatched (fun _ => true) 2 (.moveRules rules acl) = s.moveAtOnce rules acl ∧
      (s.runBatched (fun _ => true) 2 (.moveRules rules acl)).1 =
        .error (.notFound .rule unknown.text) ∧
      (s.runBatched (fun _ => true) 2 (.deleteRules rules)).1 =
        .error (.notFound .rule unknown.text) := by
  intro acl first second unknown third fields calls rules s
  have hs : s.Reachable (fun _ => true) := ⟨calls, rfl⟩
  have hnodup : rules.Nodup := by decide
  have hacl : s.tables.has acl = true := by decide +kernel
  have hfind : rules.find? (fun r => !s.tables.has r) = some unknown := by decide +kernel
  obtain ⟨hmove, -, -, hmissing, -⟩ :=
    batching_unobservable hs hnodup 2 acl
  obtain ⟨hdelete, hmoved⟩ := hmissing unknown hfind
  exact ⟨hs, hnodup, hacl, hfind, hmove, hmoved hacl, hdelete⟩

end Store

end ProxyPolicy.Policy
