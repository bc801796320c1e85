import ProxyPolicy.Proofs.Policy.Batches
import ProxyPolicy.Proofs.Policy.Validity

/-!
# Creating rules

A rule may be given with types, or in untyped texts, as an operator types it. The texts make fields
exactly when they spell them (`RuleFields.ofTexts_eq_ok_iff`), and then both ways are one call
(`Store.run_createInboxRule_of_texts`); on the way to the fields some of their checks are made
twice. A call with fields that pass their check succeeds exactly when the ACL is there and the
identifier is new (`Store.run_createRule`). A new identifier is in no link either, since on
consistent tables every link names a rule.

All that can be wrong with a rule that is given in texts is in one list, in the order in which it is
looked for (`Tables.objections`). The first of the list that applies is what the call reports, and
without any the call does what the typed one does, but for the name of the new rule
(`Store.createInboxRule_exact`).
-/

namespace ProxyPolicy.Policy

/-! ## Texts -/

/-- A type is read from its spelling alone. -/
theorem RuleType.parse_eq_ok_iff {s : String} {type : RuleType} :
    RuleType.parse s = .ok type ↔ type.text = s := by
  rw [← ofText?_eq_some_iff]
  unfold parse
  cases ofText? s with
  | none => simp
  | some found => simp

/-- An action is read from its spelling alone. -/
theorem RuleAction.parse_eq_ok_iff {s : String} {action : RuleAction} :
    RuleAction.parse s = .ok action ↔ action.text = s := by
  rw [← ofText?_eq_some_iff]
  unfold parse
  cases ofText? s with
  | none => simp
  | some found => simp

/-- No type is spelled by the empty text. -/
theorem RuleType.text_ne_empty (type : RuleType) : type.text ≠ "" := by
  cases type <;> decide

/-- No action is spelled by the empty text. -/
theorem RuleAction.text_ne_empty (action : RuleAction) : action.text ≠ "" := by
  cases action <;> decide

/-- The spelling of a type is among the spellings. -/
theorem RuleType.text_mem (type : RuleType) : type.text ∈ all.map text := by
  cases type <;> decide

/-- The spelling of an action is among the spellings. -/
theorem RuleAction.text_mem (action : RuleAction) : action.text ∈ all.map text := by
  cases action <;> decide

/-- A text is refused as a type exactly when it is not among the spellings. -/
theorem RuleType.parse_eq_error_iff {s : String} {e : Error} :
    RuleType.parse s = .error e ↔ s ∉ all.map text ∧ e = .unknownType s := by
  have hnone : ofText? s = none ↔ s ∉ all.map text := by
    unfold ofText?
    simp
  rw [← hnone]
  unfold parse
  cases ofText? s with
  | none => simp [eq_comm]
  | some found => simp

/-- A text is refused as an action exactly when it is not among the spellings. -/
theorem RuleAction.parse_eq_error_iff {s : String} {e : Error} :
    RuleAction.parse s = .error e ↔ s ∉ all.map text ∧ e = .unknownAction s := by
  have hnone : ofText? s = none ↔ s ∉ all.map text := by
    unfold ofText?
    simp
  rw [← hnone]
  unfold parse
  cases ofText? s with
  | none => simp [eq_comm]
  | some found => simp

/-- Texts make fields exactly when they spell them; the value is not empty, and there is no
comment. -/
theorem RuleFields.ofTexts_eq_ok_iff {type value action : String} {f : RuleFields} :
    ofTexts type value action = .ok f ↔
      f.type.text = type ∧ f.value = value ∧ f.action.text = action ∧ f.comment = "" ∧
        value ≠ "" := by
  unfold ofTexts
  simp only [bind_eq_ok_iff, RuleType.parse_eq_ok_iff, RuleAction.parse_eq_ok_iff]
  constructor
  · rintro ⟨⟨⟩, -, ⟨⟩, hvalue, ⟨⟩, -, t, htype, a, haction, heq⟩
    obtain rfl := Except.ok.inj heq
    exact ⟨htype, rfl, haction, rfl, requireText_eq_ok_iff.mp hvalue⟩
  · obtain ⟨t, v, a, c⟩ := f
    rintro ⟨rfl, rfl, rfl, rfl, hvalue⟩
    -- No spelling is empty, so that the checks for emptiness refuse no type and no action.
    exact ⟨(), requireText_eq_ok_iff.mpr t.text_ne_empty, (), requireText_eq_ok_iff.mpr hvalue, (),
      requireText_eq_ok_iff.mpr a.text_ne_empty, t, rfl, a, rfl, rfl⟩

/-! ## The check of the fields -/

/-- Fields without a value are refused as such, whatever their type is. -/
theorem RuleFields.validate_of_empty (accepts : String → Bool) {f : RuleFields}
    (h : f.value = "") : f.validate accepts = .error (.emptyField .ruleValue) := by
  unfold validate requireText
  rw [h]
  rfl

/-- Fields with a value that is not the pattern it should be are refused as such. -/
theorem RuleFields.validate_of_bad_pattern {accepts : String → Bool} {f : RuleFields}
    (hvalue : f.value ≠ "") (htype : f.type = .regex) (hpattern : accepts f.value = false) :
    f.validate accepts = .error .badPattern := by
  have hbad : f.type = .regex ∧ ¬accepts f.value = true := ⟨htype, by simp [hpattern]⟩
  unfold validate
  rw [requireText_eq_ok_iff.mpr hvalue, if_pos hbad]
  rfl

namespace Tables

/-! ## Objections -/

/-- What can be wrong with a rule that is given in texts, in the order in which it is looked for:
whether it is the case, and the error that says so. -/
def objections (accepts : String → Bool) (t : Tables) (inbox : Id .acl)
    (type value action : String) : List (Bool × Error) :=
  [(type = "", .emptyField .ruleType),
    (value = "", .emptyField .ruleValue),
    (action = "", .emptyField .ruleAction),
    (type ∉ RuleType.all.map (·.text), .unknownType type),
    (action ∉ RuleAction.all.map (·.text), .unknownAction action),
    (type = RuleType.regex.text ∧ accepts value = false, .badPattern),
    (t.has inbox = false, .notFound .acl inbox.text)]

/-- The error for the first thing that is the case. -/
def firstObjection? (objections : List (Bool × Error)) : Option Error :=
  (objections.find? (·.1)).map Prod.snd

/-- The first thing is the case, or the others are looked at. -/
theorem firstObjection?_cons (holds : Bool) (e : Error) (rest : List (Bool × Error)) :
    firstObjection? ((holds, e) :: rest) = if holds then some e else firstObjection? rest := by
  unfold firstObjection?
  cases holds <;> rfl

/-- The tables with another name for a rule. -/
def renameRule (t : Tables) (old new : String) : Tables :=
  let renamed (id : String) : String := if id = old then new else id
  { t with
    rules := t.rules.map fun r => { r with id := renamed r.id }
    links := t.links.map fun l => { l with rule := renamed l.rule } }

/-- A name that no rule and no link has can be changed without effect. -/
theorem renameRule_of_fresh {t : Tables} {old : String} (hrules : old ∉ t.ids .rule)
    (hlinks : old ∉ t.links.map (·.rule)) (new : String) : t.renameRule old new = t := by
  have hkeepsRules : t.rules.map (fun r => { r with id := if r.id = old then new else r.id }) =
      t.rules := by
    refine (List.map_congr_left fun r hr => ?_).trans (List.map_id t.rules)
    rw [if_neg fun heq => hrules (List.mem_map.mpr ⟨r, hr, heq⟩)]
    rfl
  have hkeepsLinks :
      t.links.map (fun l => { l with rule := if l.rule = old then new else l.rule }) =
        t.links := by
    refine (List.map_congr_left fun l hl => ?_).trans (List.map_id t.links)
    rw [if_neg fun heq => hlinks (List.mem_map.mpr ⟨l, hl, heq⟩)]
    rfl
  unfold renameRule
  dsimp only
  rw [hkeepsRules, hkeepsLinks]

/-- Another name for a rule that has just been added is the name with which it might have been
added. -/
theorem renameRule_withRule {t : Tables} {old : String} (hrules : old ∉ t.ids .rule)
    (hlinks : old ∉ t.links.map (·.rule)) (new acl : String) (f : RuleFields) :
    (t.withRule old acl f).renameRule old new = t.withRule new acl f := by
  have hkeeps := renameRule_of_fresh hrules hlinks new
  unfold renameRule at hkeeps ⊢
  simp only [withRule, add, RuleFields.row, List.map_append, List.map_cons, List.map_nil, if_true]
  rw [Tables.mk.injEq] at hkeeps ⊢
  simp only [hkeeps, and_self]

end Tables

/-! ## Calls -/

namespace Store

variable {accepts accepts' : String → Bool} {s : Store} {fresh : Id .rule} {inbox : Id .acl}
  {type value action : String}

/-- On consistent tables, an identifier that no rule has is in no link. -/
theorem Reachable.fresh_of_has (hs : s.Reachable accepts') (hfresh : s.tables.has fresh = false) :
    fresh.text ∉ s.tables.ids .rule ∧ fresh.text ∉ s.tables.links.map (·.rule) := by
  have hnew : fresh.text ∉ s.tables.ids .rule := Tables.has_eq_false_iff.mp hfresh
  -- A link of this identifier would name a rule.
  exact ⟨hnew, mt hs.consistent.links_perm.mem_iff.mp hnew⟩

/-- A new rule with fields that pass their check is put into its ACL, if this is there. -/
theorem run_createRule (hs : s.Reachable accepts') {f : RuleFields}
    (hvalid : f.validate accepts = .ok ()) (hfresh : s.tables.has fresh = false) (acl : Id .acl) :
    s.run accepts (.createRule fresh acl f) =
      if s.tables.has acl then
        (.ok (), { s with tables := s.tables.withRule fresh.text acl.text f })
      else (.error (.notFound .acl acl.text), s) := by
  have hplan : (Operation.createRule fresh acl f).plan accepts maxBatch =
      .ok (some (.createRule fresh acl f)) := by
    simp only [Operation.plan, bind_eq_ok_iff]
    exact ⟨(), hvalid, rfl⟩
  obtain ⟨hnew, hunlinked⟩ := hs.fresh_of_has hfresh
  unfold run runBatched
  rw [hplan]
  simp only [write_eq, hs.locked_eq_false, Bool.false_eq_true, if_false,
    Transaction.outcome_createRule, hnew, hunlinked, Tables.has_eq_true_iff]
  split_ifs <;> rfl

/-- A call that fails by its arguments alone leaves the store as it is. -/
theorem run_of_plan_error {op : Operation} {e : Error} (h : op.plan accepts maxBatch = .error e) :
    s.run accepts op = (.error e, s) := by
  unfold run runBatched
  rw [h]

/-- Fields that do not pass their check make no rule. -/
theorem run_createRule_of_error {f : RuleFields} {e : Error} (h : f.validate accepts = .error e)
    (fresh : Id .rule) (acl : Id .acl) :
    s.run accepts (.createRule fresh acl f) = (.error e, s) :=
  run_of_plan_error (bind_eq_error_iff.mpr (.inl h))

/-- Texts that make no fields make no rule. -/
theorem run_createInboxRule_of_error {e : Error}
    (h : RuleFields.ofTexts type value action = .error e) (fresh : Id .rule) (inbox : Id .acl) :
    s.run accepts (.createInboxRule fresh inbox type value action) = (.error e, s) :=
  run_of_plan_error (bind_eq_error_iff.mpr (.inl h))

/-- Texts that make fields make the rule that the fields make. -/
theorem run_createInboxRule_of_texts {f : RuleFields}
    (h : RuleFields.ofTexts type value action = .ok f) (fresh : Id .rule) (inbox : Id .acl) :
    s.run accepts (.createInboxRule fresh inbox type value action) =
      s.run accepts (.createRule fresh inbox f) := by
  unfold run runBatched
  simp only [Operation.plan, h]
  rfl

/-- The error that texts give in place of fields is the first objection to them. -/
theorem firstObjection?_of_error {e : Error} (h : RuleFields.ofTexts type value action = .error e)
    (t : Tables) (inbox : Id .acl) :
    Tables.firstObjection? (t.objections accepts inbox type value action) = some e := by
  unfold RuleFields.ofTexts at h
  -- The checks for emptiness come first: their equation is the narrower one.
  simp only [requireText_bind_eq_error_iff] at h
  simp only [bind_eq_error_iff, RuleType.parse_eq_error_iff, RuleAction.parse_eq_error_iff] at h
  unfold Tables.objections
  simp only [Tables.firstObjection?_cons, decide_eq_true_eq]
  -- The checks that have been passed are those that stand before in the list of objections.
  rcases h with ⟨htype, rfl⟩ | ⟨htype, ⟨hvalue, rfl⟩ | ⟨hvalue, ⟨haction, rfl⟩ | ⟨haction, h⟩⟩⟩
  · rw [if_pos htype]
  · rw [if_neg htype, if_pos hvalue]
  · rw [if_neg htype, if_neg hvalue, if_pos haction]
  rw [if_neg htype, if_neg hvalue, if_neg haction]
  rcases h with ⟨hunknown, rfl⟩ | ⟨known, hparse, ⟨hunknown, rfl⟩ | ⟨_, -, hok⟩⟩
  · rw [if_pos hunknown]
  · have hknown : type ∈ RuleType.all.map (·.text) := by
      rw [← RuleType.parse_eq_ok_iff.mp hparse]
      exact known.text_mem
    rw [if_neg (not_not.mpr hknown), if_pos hunknown]
  · cases hok

/-- What becomes of a rule with given fields is told by the objections to their texts. -/
theorem run_createRule_eq (hs : s.Reachable accepts') (hfresh : s.tables.has fresh = false)
    (f : RuleFields) (acl : Id .acl) :
    s.run accepts (.createRule fresh acl f) =
      match Tables.firstObjection?
        (s.tables.objections accepts acl f.type.text f.value f.action.text) with
      | some e => (.error e, s)
      | none => (.ok (), { s with tables := s.tables.withRule fresh.text acl.text f }) := by
  have hregex : f.type.text = RuleType.regex.text ↔ f.type = .regex :=
    ⟨fun h => RuleType.text_injective h, congrArg RuleType.text⟩
  unfold Tables.objections
  -- Fields are spelled: what is left are the objections to the value and to the ACL.
  simp only [Tables.firstObjection?_cons, decide_eq_true_eq, f.type.text_ne_empty,
    f.action.text_ne_empty, f.type.text_mem, f.action.text_mem, not_true_eq_false, if_false, hregex]
  split_ifs with hvalue hpattern hacl
  · exact run_createRule_of_error (RuleFields.validate_of_empty accepts hvalue) fresh acl
  · exact run_createRule_of_error
      (RuleFields.validate_of_bad_pattern hvalue hpattern.1 hpattern.2) fresh acl
  · have hvalid : f.validate accepts = .ok () :=
      RuleFields.validate_eq_ok_iff.mpr ⟨hvalue, by simpa using hpattern⟩
    rw [run_createRule hs hvalid hfresh, hacl]
    rfl
  · have hvalid : f.validate accepts = .ok () :=
      RuleFields.validate_eq_ok_iff.mpr ⟨hvalue, by simpa using hpattern⟩
    rw [run_createRule hs hvalid hfresh, if_pos (by simpa using hacl)]
    rfl

/-- A rule that is given in texts is refused with the first objection to them, or there is none and
the texts make the fields of a new rule. -/
theorem createInboxRule_cases (accepts : String → Bool) (hs : s.Reachable accepts')
    (hfresh : s.tables.has fresh = false) (inbox : Id .acl) (type value action : String) :
    (∃ e, Tables.firstObjection? (s.tables.objections accepts inbox type value action) = some e ∧
      s.run accepts (.createInboxRule fresh inbox type value action) = (.error e, s)) ∨
    ∃ f, RuleFields.ofTexts type value action = .ok f ∧
      Tables.firstObjection? (s.tables.objections accepts inbox type value action) = none ∧
      s.run accepts (.createInboxRule fresh inbox type value action) =
        (.ok (), { s with tables := s.tables.withRule fresh.text inbox.text f }) := by
  cases htexts : RuleFields.ofTexts type value action with
  | error e =>
    exact .inl ⟨e, firstObjection?_of_error htexts s.tables inbox,
      run_createInboxRule_of_error htexts fresh inbox⟩
  | ok f =>
    obtain ⟨htype, hvalue, haction, -, -⟩ := RuleFields.ofTexts_eq_ok_iff.mp htexts
    rw [run_createInboxRule_of_texts htexts, run_createRule_eq hs hfresh, htype, hvalue, haction]
    cases Tables.firstObjection? (s.tables.objections accepts inbox type value action) with
    | some e => exact .inl ⟨e, rfl, rfl⟩
    | none => exact .inr ⟨f, rfl, rfl, rfl⟩

/-- A rule that is given in texts and one that is given with the types that these spell have the
same result, and leave the same tables but for the name of the rule. -/
theorem run_createRule_of_spellings (hs : s.Reachable accepts')
    (hfresh : s.tables.has fresh = false) (inbox : Id .acl) (value : String) (t : RuleType)
    (a : RuleAction) {other : Id .rule} (hother : s.tables.has other = false) :
    let quick := s.run accepts (.createInboxRule fresh inbox t.text value a.text)
    s.run accepts (.createRule other inbox ⟨t, value, a, ""⟩) =
      (quick.1, { quick.2 with tables := quick.2.tables.renameRule fresh.text other.text }) := by
  intro quick
  obtain ⟨hnew, hunlinked⟩ := hs.fresh_of_has hfresh
  rw [run_createRule_eq hs hother]
  dsimp only
  have hcases := createInboxRule_cases accepts hs hfresh inbox t.text value a.text
  rcases hcases with ⟨e, hobjection, hquick⟩ | ⟨f, htexts, hobjection, hquick⟩
  · have hquick : quick = (.error e, s) := hquick
    rw [hobjection, hquick, Tables.renameRule_of_fresh hnew hunlinked]
  · have hquick : quick = (.ok (), _) := hquick
    obtain ⟨-, -, -, -, hvalue⟩ := RuleFields.ofTexts_eq_ok_iff.mp htexts
    have hspelled : RuleFields.ofTexts t.text value a.text = .ok ⟨t, value, a, ""⟩ :=
      RuleFields.ofTexts_eq_ok_iff.mpr ⟨rfl, rfl, rfl, rfl, hvalue⟩
    obtain rfl := Except.ok.inj (htexts.symm.trans hspelled)
    rw [hobjection, hquick, Tables.renameRule_withRule hnew hunlinked]

/-- A call with a rule in texts succeeds exactly when the texts make fields that pass their check,
the ACL is there and the identifier is new; the rule is then put into the ACL. -/
theorem run_createInboxRule_iff {s' : Store} (hs : s.Reachable accepts') :
    s.run accepts (.createInboxRule fresh inbox type value action) = (.ok (), s') ↔
      ∃ f, RuleFields.ofTexts type value action = .ok f ∧ f.validate accepts = .ok () ∧
        s.tables.has inbox = true ∧ s.tables.has fresh = false ∧
        s' = { s with tables := s.tables.withRule fresh.text inbox.text f } := by
  constructor
  · intro hrun
    obtain ⟨⟨f, hf, hvalid, hinbox, hnew, -, htables⟩, hlocked⟩ := effect_of_runBatched_ok hrun
    have hfresh : s.tables.has fresh = false := Tables.has_eq_false_iff.mpr hnew
    refine ⟨f, hf, hvalid, Tables.has_eq_true_iff.mpr hinbox, hfresh, ?_⟩
    rw [← htables, ← hlocked]
  · rintro ⟨f, hf, hvalid, hinbox, hfresh, rfl⟩
    rw [run_createInboxRule_of_texts hf, run_createRule hs hvalid hfresh, if_pos hinbox]

/-- A new rule that is given in texts fares as it does with types. The call succeeds exactly when
the type and the action are spellings and the call with the types, the value and no comment
succeeds; both then leave the same store, but for the name of the new rule. Otherwise it fails with
the first of the objections that applies: to an empty type, value or action, to an unknown type or
action, to a value that is not the pattern it should be, or to the ACL. The store is then
unchanged. -/
theorem createInboxRule_exact (hs : s.Reachable accepts) (hfresh : s.tables.has fresh = false)
    (inbox : Id .acl) (type value action : String) :
    let quick := s.run accepts (.createInboxRule fresh inbox type value action)
    (quick.1 = .ok () ↔ ∃ (t : RuleType) (a : RuleAction), t.text = type ∧ a.text = action ∧
      (s.run accepts (.createRule fresh inbox ⟨t, value, a, ""⟩)).1 = .ok ()) ∧
    (∀ (t : RuleType) (a : RuleAction) (other : Id .rule), t.text = type → a.text = action →
      s.tables.has other = false →
      s.run accepts (.createRule other inbox ⟨t, value, a, ""⟩) =
        (quick.1,
          { quick.2 with tables := quick.2.tables.renameRule fresh.text other.text })) ∧
    (∀ e, quick.1 = .error e ↔
      Tables.firstObjection? (s.tables.objections accepts inbox type value action) = some e) ∧
    ∀ e, quick.1 = .error e → quick.2 = s := by
  intro quick
  have hcases := createInboxRule_cases accepts hs hfresh inbox type value action
  have hsame (t : RuleType) (a : RuleAction) (other : Id .rule) (htype : t.text = type)
      (haction : a.text = action) (hother : s.tables.has other = false) :
      s.run accepts (.createRule other inbox ⟨t, value, a, ""⟩) =
        (quick.1,
          { quick.2 with tables := quick.2.tables.renameRule fresh.text other.text }) := by
    subst htype haction
    exact run_createRule_of_spellings hs hfresh inbox value t a hother
  refine ⟨⟨fun hok => ?_, ?_⟩, hsame, fun e => ?_, fun e herror => ?_⟩
  · rcases hcases with ⟨e, -, hquick⟩ | ⟨f, htexts, -, -⟩
    · have hquick : quick.1 = .error e := congrArg Prod.fst hquick
      cases hquick.symm.trans hok
    · obtain ⟨htype, -, haction, -, -⟩ := RuleFields.ofTexts_eq_ok_iff.mp htexts
      refine ⟨f.type, f.action, htype, haction, ?_⟩
      rw [hsame f.type f.action fresh htype haction hfresh]
      exact hok
  · rintro ⟨t, a, htype, haction, hok⟩
    rwa [hsame t a fresh htype haction hfresh] at hok
  · rcases hcases with ⟨e', hobjection, hquick⟩ | ⟨f, -, hobjection, hquick⟩
    · have hquick : quick.1 = .error e' := congrArg Prod.fst hquick
      rw [hquick, hobjection, Except.error.injEq, Option.some.injEq]
    · have hquick : quick.1 = .ok () := congrArg Prod.fst hquick
      rw [hquick, hobjection]
      exact iff_of_false (fun h => nomatch h) (fun h => nomatch h)
  · rcases hcases with ⟨e', -, hquick⟩ | ⟨f, -, -, hquick⟩
    · exact congrArg Prod.snd hquick
    · have hquick : quick.1 = .ok () := congrArg Prod.fst hquick
      cases hquick.symm.trans herror

/-- A pattern in the inbox is a rule like one of the type `regex`; what is no pattern is refused as
such, before the ACL is found to be missing. -/
theorem createInboxRule_exact_pattern :
    let accepts : String → Bool := fun text => text ≠ "("
    let inbox : Id .acl := ⟨"00000000-0000-4000-8000-000000000001", by decide⟩
    let unknown : Id .acl := ⟨"00000000-0000-4000-8000-000000000002", by decide⟩
    let fresh : Id .rule := ⟨"00000000-0000-4000-8000-000000000003", by decide⟩
    let other : Id .rule := ⟨"00000000-0000-4000-8000-000000000004", by decide⟩
    let calls : List Call := [.change (.createAcl inbox "new rules")]
    let s := (Store.empty.transcript accepts calls).2
    let quick := s.run accepts (.createInboxRule fresh inbox "regex" "^ads?[.]" "block")
    s.Reachable accepts ∧ s.tables.has fresh = false ∧ s.tables.has other = false ∧
      quick.1 = .ok () ∧
      s.run accepts (.createRule other inbox ⟨.regex, "^ads?[.]", .block, ""⟩) =
        (quick.1,
          { quick.2 with tables := quick.2.tables.renameRule fresh.text other.text }) ∧
      (s.run accepts (.createInboxRule fresh unknown "regex" "(" "block")).1 =
        .error .badPattern ∧
      (s.run accepts (.createInboxRule fresh unknown "regex" "(" "block")).2 = s := by
  intro accepts inbox unknown fresh other calls s quick
  have hs : s.Reachable accepts := ⟨calls, rfl⟩
  have hfresh : s.tables.has fresh = false := by decide +kernel
  have hother : s.tables.has other = false := by decide +kernel
  have htyped : (s.run accepts (.createRule fresh inbox ⟨.regex, "^ads?[.]", .block, ""⟩)).1 =
      .ok () := by decide +kernel
  have hobjection : Tables.firstObjection?
      (s.tables.objections accepts unknown "regex" "(" "block") = some .badPattern := by
    decide +kernel
  obtain ⟨hok, hsame, -⟩ := createInboxRule_exact hs hfresh inbox "regex" "^ads?[.]" "block"
  obtain ⟨-, -, hfirst, hkeeps⟩ := createInboxRule_exact hs hfresh unknown "regex" "(" "block"
  have hrefused := (hfirst .badPattern).mpr hobjection
  exact ⟨hs, hfresh, hother, hok.mpr ⟨.regex, .block, rfl, rfl, htyped⟩,
    hsame .regex .block other rfl rfl hother, hrefused, hkeeps .badPattern hrefused⟩

end Store

end ProxyPolicy.Policy
