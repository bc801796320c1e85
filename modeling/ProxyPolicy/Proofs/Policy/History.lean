import ProxyPolicy.Policy.Listing
import ProxyPolicy.Proofs.Policy.Effect

/-!
# Histories

A history is a sequence of calls on one store, each a question about the policy or a change of it.
`Store.transcript` runs one from a store and gives what each call gives, with the store at the end.
What holds after every history from the empty store holds in every state that can be reached.

A call that fails is invisible. Its transaction may have changed the tables before it failed, but
the store goes on from the tables that it had before (`run_of_error`), as the storage undoes what
failed (`Store.write`). So the calls that fail can be struck out of a history: the others give what
they gave, and the store at the end is the same (`transcript_kept`).
-/

namespace ProxyPolicy.Policy

/-- A question about the policy. -/
inductive Query where
  /-- All sources. -/
  | listSources
  /-- All groups. -/
  | listGroups
  /-- All ACLs. -/
  | listAcls
  /-- One group. -/
  | group (id : Id .group)
  /-- One ACL. -/
  | acl (id : Id .acl)
  /-- The rules of an ACL. -/
  | aclRules (id : Id .acl)
  /-- The ACLs that a group is granted. -/
  | groupAcls (id : Id .group)
  /-- The sources in a group. -/
  | groupSources (id : Id .group)
  /-- Every ACL with its rules. -/
  | aclViews
  /-- Every group with its grants and members. -/
  | groupViews
  deriving DecidableEq

/-- What a call gives when it succeeds. -/
inductive Answer where
  /-- The change has been made. -/
  | done
  /-- Sources. -/
  | sources (sources : List Source)
  /-- Groups. -/
  | groups (groups : List Group)
  /-- ACLs. -/
  | acls (acls : List Acl)
  /-- Rules. -/
  | rules (rules : List Rule)
  /-- ACLs with the comments of their grants. -/
  | grants (grants : List (Id .acl × String))
  /-- Sources with the comments of their memberships. -/
  | members (members : List (Id .source × String))
  /-- ACLs with their rules. -/
  | aclViews (views : List AclView)
  /-- Groups with their grants and members. -/
  | groupViews (views : List GroupView)
  deriving DecidableEq

/-- The answer to a question. -/
def Query.answer (t : Tables) : Query → Except Error Answer
  | listSources => .sources <$> t.listSources
  | listGroups => .groups <$> t.listGroups
  | listAcls => .acls <$> t.listAcls
  | group id => (.groups [·]) <$> t.group id
  | acl id => (.acls [·]) <$> t.acl id
  | aclRules id => .rules <$> t.aclRules id
  | groupAcls id => .grants <$> t.groupAcls id
  | groupSources id => .members <$> t.groupSources id
  | aclViews => .aclViews <$> t.aclViews
  | groupViews => .groupViews <$> t.groupViews

/-- A call on the store. -/
inductive Call where
  /-- Asks a question. -/
  | ask (query : Query)
  /-- Changes the policy. -/
  | change (op : Operation)
  deriving DecidableEq

namespace Store

/-- What a call gives, and the store after it. -/
def perform (accepts : String → Bool) (s : Store) : Call → Except Error Answer × Store
  | .ask query => (query.answer s.tables, s)
  | .change op => ((s.run accepts op).1.map fun _ => .done, (s.run accepts op).2)

/-- The calls of a history with what each of them gives, and the store at the end. -/
def transcript (accepts : String → Bool) :
    List Call → Store → List (Call × Except Error Answer) × Store
  | [], s => ([], s)
  | c :: cs, s =>
    let (result, s₁) := s.perform accepts c
    let (results, s₂) := transcript accepts cs s₁
    ((c, result) :: results, s₂)

/-- The calls of a history that succeed. -/
def kept (accepts : String → Bool) (calls : List Call) (s : Store) : List Call :=
  ((s.transcript accepts calls).1.filter (·.2.isOk)).map Prod.fst

/-! ## Failed calls -/

/-- A change that fails leaves the store as it was. -/
theorem run_of_error {accepts : String → Bool} {op : Operation} {s : Store} {e : Error}
    (h : (s.run accepts op).1 = .error e) : (s.run accepts op).2 = s := by
  unfold run runBatched at h ⊢
  rcases hplan : op.plan accepts maxBatch with e' | _ | body
  · rfl
  · rfl
  · rw [hplan] at h
    simp only [write_eq] at h ⊢
    split
    · rfl
    · rename_i hlocked
      rw [if_neg hlocked] at h
      -- The tables that the transaction had reached are dropped with its error.
      rcases houtcome : body.outcome s.tables with e' | ⟨_, t'⟩
      · rfl
      · rw [houtcome] at h
        cases h

/-- A transaction that fails on its way leaves the store as it was, whatever it had done to the
tables by then. -/
theorem run_of_failed {accepts : String → Bool} {op : Operation} {s : Store}
    {body : Transaction Unit} {e : Error} {t' : Tables} (hlocked : s.locked = false)
    (hplan : op.plan accepts maxBatch = .ok (some body))
    (hbody : body.run.run s.tables = (.error e, t')) : s.run accepts op = (.error e, s) := by
  unfold run runBatched
  rw [hplan]
  simp only [write, hlocked, Bool.false_eq_true, if_false]
  rw [hbody]

/-- A call that fails leaves the store as it was. -/
theorem perform_of_error {accepts : String → Bool} {c : Call} {s : Store} {e : Error}
    (h : (s.perform accepts c).1 = .error e) : (s.perform accepts c).2 = s := by
  cases c with
  | ask query => rfl
  | change op =>
    have herror : (s.run accepts op).1 = .error e := by
      simp only [perform] at h
      cases hresult : (s.run accepts op).1 with
      | error e' => simpa [hresult, Except.map] using h
      | ok _ => simp [hresult, Except.map] at h
    exact run_of_error herror

/-- The calls of a history that succeed give by themselves what they gave in the history, and bring
the store to the same end. -/
theorem transcript_kept (accepts : String → Bool) (calls : List Call) (s : Store) :
    s.transcript accepts (s.kept accepts calls) =
      ((s.transcript accepts calls).1.filter (·.2.isOk), (s.transcript accepts calls).2) := by
  -- The induction is on the calls, for all stores at once: the first call changes the store.
  induction calls generalizing s with
  | nil => rfl
  | cons c cs ih =>
    have hrest := ih (s.perform accepts c).2
    simp only [kept] at hrest
    simp only [kept, transcript, List.filter_cons]
    cases hresult : (s.perform accepts c).1 with
    | error e =>
      -- The call that fails is struck out, and the others start from the same store.
      have hsame := perform_of_error hresult
      rw [hsame] at hrest ⊢
      exact hrest
    | ok answer =>
      have hok : (Except.ok answer : Except Error Answer).isOk = true := rfl
      simp only [hok, if_true, List.map_cons, transcript, hrest, hresult]

/-- Calls that fail are invisible, in three parts. A change that fails leaves the store as it was.
It does so also when its transaction fails on its way with the tables already changed. And in every
history the calls that succeed give what they would have given by themselves, and bring the store to
the same end. -/
theorem failure_invisible (accepts : String → Bool) :
    (∀ (s : Store) (op : Operation) (e : Error),
      (s.run accepts op).1 = .error e → (s.run accepts op).2 = s) ∧
    (∀ (s : Store) (op : Operation) (body : Transaction Unit) (e : Error) (t' : Tables),
      s.locked = false → op.plan accepts maxBatch = .ok (some body) →
      body.run.run s.tables = (.error e, t') → s.run accepts op = (.error e, s)) ∧
    (∀ (s : Store) (calls : List Call), s.transcript accepts (s.kept accepts calls) =
      ((s.transcript accepts calls).1.filter (·.2.isOk), (s.transcript accepts calls).2)) := by
  refine ⟨?_, ?_, ?_⟩
  · intro s op e herror
    exact run_of_error herror
  · intro s op body e t' hlocked hplan hbody
    exact run_of_failed hlocked hplan hbody
  · intro s calls
    exact transcript_kept accepts calls s

/-- A transaction that has cleared the grants to a group, and granted one ACL anew, before it meets
an ACL that is unknown. -/
theorem failure_invisible_midway :
    let known : Id .acl := ⟨"00000000-0000-4000-8000-000000000001", by decide⟩
    let unknown : Id .acl := ⟨"00000000-0000-4000-8000-000000000002", by decide⟩
    let group : Id .group := ⟨"00000000-0000-4000-8000-000000000003", by decide⟩
    let t : Tables := { Tables.empty with
      groups := [⟨group.text, some "staff"⟩]
      acls := [⟨known.text, some "web"⟩]
      grants := [⟨group.text, known.text, some "old"⟩] }
    let op : Operation := .replaceGrants group [(known, "new"), (unknown, "")]
    let t' : Tables := { t with grants := [⟨group.text, known.text, some "new"⟩] }
    (∃ body, op.plan (fun _ => true) maxBatch = .ok (some body) ∧
      body.run.run t = (.error (.notFound .acl unknown.text), t')) ∧ t' ≠ t ∧
    Store.run (fun _ => true) op ⟨t, false⟩ =
      (.error (.notFound .acl unknown.text), ⟨t, false⟩) := by
  intro known unknown group t op t'
  have hplan : op.plan (fun _ => true) maxBatch =
      .ok (some (Transaction.replaceGrants group [(known, "new"), (unknown, "")])) := rfl
  have hbody : (Transaction.replaceGrants group [(known, "new"), (unknown, "")]).run.run t =
      (.error (.notFound .acl unknown.text), t') := by rfl
  exact ⟨⟨_, hplan, hbody⟩, by decide,
    (failure_invisible fun _ => true).2.1 ⟨t, false⟩ op _ _ t' rfl hplan hbody⟩

/-! ## Invariants -/

/-- A change that succeeds has its effect and leaves the lock alone. -/
theorem effect_of_perform_ok {accepts : String → Bool} {s : Store} {op : Operation}
    {answer : Answer} (h : (s.perform accepts (.change op)).1 = .ok answer) :
    op.Effect accepts s.tables (s.perform accepts (.change op)).2.tables ∧
      (s.perform accepts (.change op)).2.locked = s.locked := by
  rcases hrun : s.run accepts op with ⟨e | _, s'⟩
  · rw [perform, hrun] at h
    cases h
  · rw [perform, hrun]
    exact effect_of_runBatched_ok hrun

/-- A call leaves the store as it was, or it is a change that has succeeded and had its effect. -/
theorem perform_cases (accepts : String → Bool) (s : Store) (c : Call) :
    (s.perform accepts c).2 = s ∨
      ∃ op : Operation, c = .change op ∧ (s.perform accepts c).1.isOk = true ∧
        op.Effect accepts s.tables (s.perform accepts c).2.tables ∧
        (s.perform accepts c).2.locked = s.locked := by
  cases hresult : (s.perform accepts c).1 with
  | error e => exact .inl (perform_of_error hresult)
  | ok answer =>
    cases c with
    | ask query => exact .inl rfl
    | change op => exact .inr ⟨op, rfl, rfl, effect_of_perform_ok hresult⟩

/-- What every change keeps holds of the tables at the end of a history if it holds at its start. -/
theorem transcript_keeps {accepts : String → Bool} {P : Tables → Prop}
    (hkeep : ∀ {op : Operation} {t t' : Tables}, op.Effect accepts t t' → P t → P t')
    (calls : List Call) {s : Store} (h : P s.tables) : P (s.transcript accepts calls).2.tables := by
  induction calls generalizing s with
  | nil => exact h
  | cons c cs ih =>
    -- The tables that the first call leaves have the property, and the others start from them.
    have hstep : P (s.perform accepts c).2.tables := by
      rcases perform_cases accepts s c with hsame | ⟨op, -, -, heffect, -⟩
      · rw [hsame]
        exact h
      · exact hkeep heffect h
    exact ih hstep

/-- No call of a history takes the lock. -/
theorem transcript_locked (accepts : String → Bool) (calls : List Call) (s : Store) :
    (s.transcript accepts calls).2.locked = s.locked := by
  induction calls generalizing s with
  | nil => rfl
  | cons c cs ih =>
    have hstep : (s.perform accepts c).2.locked = s.locked := by
      rcases perform_cases accepts s c with hsame | ⟨op, -, -, -, hlocked⟩
      · rw [hsame]
      · exact hlocked
    exact (ih (s.perform accepts c).2).trans hstep

/-- A history goes on from the store to which another has led. -/
theorem transcript_append_snd (accepts : String → Bool) (calls calls' : List Call) (s : Store) :
    (s.transcript accepts (calls ++ calls')).2 =
      ((s.transcript accepts calls).2.transcript accepts calls').2 := by
  induction calls generalizing s with
  | nil => rfl
  | cons c cs ih => exact ih (s.perform accepts c).2

/-! ## States that can be reached -/

/-- Whether a history leads from the empty store to this one. -/
def Reachable (accepts : String → Bool) (s : Store) : Prop :=
  ∃ calls, (empty.transcript accepts calls).2 = s

/-- Nobody has locked a store that can be reached. -/
theorem Reachable.locked_eq_false {accepts : String → Bool} {s : Store} (h : s.Reachable accepts) :
    s.locked = false := by
  obtain ⟨calls, rfl⟩ := h
  exact transcript_locked accepts calls empty

/-- A change leads from a store that can be reached to another. -/
theorem Reachable.run {accepts : String → Bool} {s : Store} (h : s.Reachable accepts)
    (op : Operation) : (s.run accepts op).2.Reachable accepts := by
  obtain ⟨calls, rfl⟩ := h
  exact ⟨calls ++ [.change op], transcript_append_snd accepts calls [.change op] empty⟩

end Store

end ProxyPolicy.Policy
