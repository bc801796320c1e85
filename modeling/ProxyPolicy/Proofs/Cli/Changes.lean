import ProxyPolicy.Net.SuffixRules
import ProxyPolicy.Pattern.Grammar
import ProxyPolicy.Proofs.Cli.Surroundings
import ProxyPolicy.Proofs.Policy.Creation
import ProxyPolicy.Proofs.Policy.Opening
import ProxyPolicy.Proofs.Policy.Validity

/-!
# What a run changes

A run changes the policy in one way only: by an `allow` that is complete and right (`Adds`). Then
one rule is added to one ACL; with other arguments, or another configuration, every store stays as
it was (`run_changes`).

What can be wrong is found at different places: while the arguments are told apart, while the
configuration is asked for the ACL, and by the store. `adds_iff` brings these together. All commands
but one only look at the surroundings, so that they keep every store by the rules for runs; what
remains is the one step of `addRule` that saves a store, and it is taken exactly when the call of
the store succeeds (`ending_addRule`).
-/

namespace ProxyPolicy.Cli

open ProxyPolicy.Net ProxyPolicy.Policy

/-! ## Arguments -/

/-- The arguments without the path of a configuration in front of them, if there is one. -/
def commandArgs (args : List String) : List String :=
  if args.head?.any isConfigPath then args.tail else args

/-- The command is read from the arguments behind the path of a configuration. -/
theorem command_ofArgs (args : List String) :
    (Invocation.ofArgs args).command = Command.ofArgs? (commandArgs args) := by
  cases args with
  | nil => rfl
  | cons arg args =>
    unfold Invocation.ofArgs commandArgs
    cases h : isConfigPath arg with
    | true => simp [h]
    | false => simp [h]

/-- A rule is to be added exactly when the command has three arguments, no more and no fewer. -/
theorem ofArgs?_eq_allow_iff {args : List String} {type value action : String} :
    Command.ofArgs? args = some (.allow type value action) ↔
      args = ["allow", type, value, action] := by
  constructor
  · intro h
    unfold Command.ofArgs? at h
    split at h
    · cases h
    · cases h
    · cases h
    · cases h
    · cases h
      rfl
    · cases h
  · rintro rfl
    rfl

/-- The ACL that takes new rules is the one that is set, if what is set is an identifier. -/
theorem inboxAcl_eq_ok_some_iff {config : Config} {inbox : Id .acl} :
    config.inboxAcl = .ok (some inbox) ↔ config.policy.inboxAcl = some inbox.text := by
  unfold Config.inboxAcl
  cases config.policy.inboxAcl with
  | none => simp
  | some text =>
    have hparse : Id.parse .acl text = .ok inbox ↔ inbox.text = text := idOfText_eq_ok_iff
    rw [Option.some.injEq, eq_comm (b := inbox.text), ← hparse]
    dsimp only
    cases Id.parse .acl text with
    | error e => exact ⟨nofun, nofun⟩
    | ok id => exact ⟨fun h => congrArg Except.ok (Option.some.inj (Except.ok.inj h)),
        fun h => congrArg (some <$> ·) h⟩

/-- The arguments and the configuration ask for a rule with these fields to be added to an ACL, and
nothing is wrong with it: the command is complete, the ACL is the one that takes new rules and is
there, and the fields are as they must be. -/
structure Adds (accepts : String → Bool) (args : List String) (config : Config) (t : Tables)
    (inbox : Id .acl) (f : RuleFields) : Prop where
  /-- The command spells the fields. -/
  command : commandArgs args = ["allow", f.type.text, f.value, f.action.text]
  /-- There is no comment. -/
  comment : f.comment = ""
  /-- There is a value. -/
  value : f.value ≠ ""
  /-- The value is a pattern if the type asks for one. -/
  pattern : f.type = .regex → accepts f.value = true
  /-- The ACL takes new rules. -/
  takes : config.policy.inboxAcl = some inbox.text
  /-- The ACL is there. -/
  known : t.has inbox = true

/-- A rule is to be added, and nothing is wrong with it, exactly when the command is one for which
the call of the store passes its checks. -/
theorem adds_iff {accepts : String → Bool} {args : List String} {config : Config} {t : Tables}
    {inbox : Id .acl} {f : RuleFields} :
    Adds accepts args config t inbox f ↔ ∃ type value action,
      (Invocation.ofArgs args).command = some (.allow type value action) ∧
        config.inboxAcl = .ok (some inbox) ∧ RuleFields.ofTexts type value action = .ok f ∧
        f.validate accepts = .ok () ∧ t.has inbox = true := by
  simp only [command_ofArgs, ofArgs?_eq_allow_iff, inboxAcl_eq_ok_some_iff,
    RuleFields.ofTexts_eq_ok_iff, RuleFields.validate_eq_ok_iff]
  constructor
  · rintro ⟨hcommand, hcomment, hvalue, hpattern, htakes, hknown⟩
    exact ⟨_, _, _, hcommand, htakes, ⟨rfl, rfl, rfl, hcomment, hvalue⟩, ⟨hvalue, hpattern⟩, hknown⟩
  · rintro ⟨_, _, _, hcommand, htakes, ⟨rfl, rfl, rfl, hcomment, -⟩, ⟨hvalue, hpattern⟩, hknown⟩
    exact ⟨hcommand, hcomment, hvalue, hpattern, htakes, hknown⟩

/-! ## Runs -/

section Runs

variable {σ : Type} {rules : List SuffixRule} {accepts : String → Bool}
  {host : Host (StateM σ)} {medium : σ → String → Medium} {w : σ}
  {config : Config} {s : Store} {fresh : Id .rule}

/-- A command that adds no rule changes no store. -/
theorem medium_execute_of_not_allow (hhost : host.Lawful medium) {command : Option Command}
    (hcommand : ∀ type value action, command ≠ some (.allow type value action)) :
    medium ((execute rules accepts host config fresh command).ending w).2 = medium w := by
  have hkeeps := hhost.keeps (medium w)
  -- How the command may fail does not matter here.
  have hfails : (execute rules accepts host config fresh command).Keeps (medium · = medium w)
      fun _ => True := by
    cases command with
    | none => exact Run.keeps_throw trivial
    | some command =>
      cases command with
      | tail => exact keeps_showTail hkeeps (fun _ => trivial) fun _ => trivial
      | acls => exact keeps_showAcls hkeeps (fun _ => trivial) fun _ _ => trivial
      | groups => exact keeps_showGroups hkeeps (fun _ => trivial) fun _ _ => trivial
      | allow type value action => exact absurd rfl (hcommand type value action)
  exact (hfails w rfl).1

/-- Without an ACL that takes new rules, adding one changes nothing and fails. -/
theorem ending_addRule_of_no_inbox (hinbox : ∀ inbox, config.inboxAcl ≠ .ok (some inbox))
    (type value action : String) :
    ∃ e, (addRule accepts host config fresh type value action).ending w = (.error e, w) := by
  unfold addRule
  rcases hread : config.inboxAcl with e | _ | inbox
  · exact ⟨_, rfl⟩
  · exact ⟨_, rfl⟩
  · exact absurd hread (hinbox inbox)

/-- A store that opens is given as it is. -/
theorem ending_openStore (hhost : host.Lawful medium)
    (hopen : Store.open config.store (medium w config.store.path) = .ok s) :
    (openStore host config.store).ending w =
      (.ok s, ((host.openStore config.store.path).run w).2) := by
  rw [← hhost.opened] at hopen
  unfold openStore
  dsimp only
  rw [Run.ending_bind_of_ok (Run.ending_lift _ _), hopen]
  rfl

/-- With an ACL that takes new rules and a store that opens, adding a rule does what the call of the
store does; the store is saved if the call succeeds. -/
theorem ending_addRule (hhost : host.Lawful medium) {inbox : Id .acl}
    (hinbox : config.inboxAcl = .ok (some inbox))
    (hopen : Store.open config.store (medium w config.store.path) = .ok s)
    (type value action : String) :
    (addRule accepts host config fresh type value action).ending w =
      match s.run accepts (.createInboxRule fresh inbox type value action) with
      | (.error _, _) => (.error (.message "Failed to add rule"),
          ((host.openStore config.store.path).run w).2)
      | (.ok (), s') => (.ok (printed (.string fresh.text)),
          ((host.saveStore config.store.path s'.tables).run
            ((host.openStore config.store.path).run w).2).2) := by
  have hread : (Run.ofExcept Failure.ofError config.inboxAcl : Run (StateM σ) _).ending w =
      (.ok (some inbox), w) := by
    rw [hinbox]
    rfl
  -- The three steps: the ACL is read, the store is opened, and the call of the store decides.
  unfold addRule
  rw [Run.ending_bind_of_ok hread]
  dsimp only
  rw [Run.ending_bind_of_ok (ending_openStore hhost hopen)]
  rcases s.run accepts (.createInboxRule fresh inbox type value action) with
    ⟨e | ⟨⟨⟩⟩, s'⟩
  · rfl
  · rfl

/-- If the arguments ask for a rule and nothing is wrong with it, carrying out the command succeeds,
and the store has the rule. -/
theorem ending_execute_of_adds (hhost : host.Lawful medium)
    (hopen : Store.open config.store (medium w config.store.path) = .ok s)
    {accepted : String → Bool} (hs : s.Reachable accepted) (hfresh : s.tables.has fresh = false)
    {args : List String} {inbox : Id .acl} {f : RuleFields}
    (hadds : Adds accepts args config s.tables inbox f) :
    let (result, w') :=
      (execute rules accepts host config fresh (Invocation.ofArgs args).command).ending w
    result = .ok (printed (.string fresh.text)) ∧
      medium w' config.store.path = .store (s.tables.withRule fresh.text inbox.text f) := by
  obtain ⟨type, value, action, hcommand, hinbox, htexts, hvalid, hknown⟩ := adds_iff.mp hadds
  have hadded := (Store.run_createInboxRule_iff hs).mpr ⟨f, htexts, hvalid, hknown, hfresh, rfl⟩
  obtain ⟨-, -, -, hstore, -⟩ := Store.open_eq_ok_iff.mp hopen
  -- The store is not a private one, which would be empty: the ACL is there.
  have hpublic : isPrivatePath config.store.path = false := by
    refine Bool.eq_false_iff.mpr fun hprivate => ?_
    rw [hhost.closed _ _ hprivate] at hstore
    rw [← Medium.store.inj hstore] at hknown
    cases hknown
  rw [← hhost.openStore config.store.path] at hstore
  rw [hcommand]
  unfold execute
  rw [ending_addRule hhost hinbox hopen, hadded]
  exact ⟨rfl, hhost.saveStore _ _ _ _ hpublic hstore⟩

/-- Otherwise carrying out the command changes no store. -/
theorem medium_execute_of_not_adds (hhost : host.Lawful medium)
    (hopen : Store.open config.store (medium w config.store.path) = .ok s)
    {accepted : String → Bool} (hs : s.Reachable accepted) {args : List String}
    (hnone : ∀ inbox f, ¬Adds accepts args config s.tables inbox f) :
    medium ((execute rules accepts host config fresh (Invocation.ofArgs args).command).ending w).2 =
      medium w := by
  by_cases hallow : ∃ type value action,
      (Invocation.ofArgs args).command = some (.allow type value action)
  · obtain ⟨type, value, action, hcommand⟩ := hallow
    rw [hcommand]
    unfold execute
    by_cases hset : ∃ inbox, config.inboxAcl = .ok (some inbox)
    · obtain ⟨inbox, hinbox⟩ := hset
      rw [ending_addRule hhost hinbox hopen]
      rcases hadd : s.run accepts (.createInboxRule fresh inbox type value action) with
        ⟨e | ⟨⟨⟩⟩, s'⟩
      · exact hhost.openStore _ _
      · -- The store would have taken the rule only if nothing were wrong with it.
        obtain ⟨f, htexts, hvalid, hknown, -⟩ := (Store.run_createInboxRule_iff hs).mp hadd
        have hadds : Adds accepts args config s.tables inbox f :=
          adds_iff.mpr ⟨type, value, action, hcommand, hinbox, htexts, hvalid, hknown⟩
        exact absurd hadds (hnone inbox f)
    · obtain ⟨e, hend⟩ := ending_addRule_of_no_inbox (not_exists.mp hset) type value action
      rw [hend]
  · have hcommand (type value action : String) :
        (Invocation.ofArgs args).command ≠ some (.allow type value action) :=
      fun h => hallow ⟨type, value, action, h⟩
    exact medium_execute_of_not_allow hhost hcommand

/-- A run that loads its configuration goes on with it, and has changed no store by then. -/
theorem exists_ending_run (hhost : host.Lawful medium) {args : List String}
    (hload : ((loadConfig host (Invocation.ofArgs args).configPath).ending w).1 = .ok config)
    (fresh : Id .rule) : ∃ w', medium w' = medium w ∧
      (run rules accepts host fresh args).ending w =
        (execute rules accepts host config fresh (Invocation.ofArgs args).command).ending w' := by
  have hkeeps := keeps_loadConfig (E := fun _ => True) (hhost.keeps (medium w)) (fun _ => trivial)
    (Invocation.ofArgs args).configPath w rfl
  refine ⟨_, hkeeps.1, ?_⟩
  rw [run_eq]
  exact Run.ending_bind_of_ok (Prod.ext hload rfl)

/-- What a run changes, for all arguments, with a configuration that loads and a store that opens
and is in a state that can be reached. If the arguments ask for a rule and nothing is wrong with it,
the run succeeds, and the store has one rule more, in the ACL that takes new rules, and is otherwise
as it was. In all other cases every store is as it was. -/
theorem run_changes (rules : List SuffixRule) (accepts : String → Bool)
    (hhost : host.Lawful medium) (args : List String)
    (hload : ((loadConfig host (Invocation.ofArgs args).configPath).ending w).1 = .ok config)
    (hopen : Store.open config.store (medium w config.store.path) = .ok s)
    {accepted : String → Bool} (hs : s.Reachable accepted) (fresh : Id .rule) :
    (∀ inbox f, Adds accepts args config s.tables inbox f → s.tables.has fresh = false →
      ((run rules accepts host fresh args).ending w).1 = .ok (printed (.string fresh.text)) ∧
      medium ((run rules accepts host fresh args).ending w).2 config.store.path =
        .store { s.tables with
          rules := s.tables.rules ++ [⟨fresh.text, f.type.text, f.value, f.action.text, some ""⟩]
          links := s.tables.links ++ [⟨inbox.text, fresh.text⟩] }) ∧
    ((∀ inbox f, ¬Adds accepts args config s.tables inbox f) →
      ∀ path, medium ((run rules accepts host fresh args).ending w).2 path = medium w path) := by
  obtain ⟨w', hmedium, hrun⟩ := exists_ending_run hhost hload fresh
  rw [← hmedium] at hopen
  rw [hrun, ← hmedium]
  constructor
  · intro inbox f hadds hfresh
    rw [← hadds.comment]
    exact ending_execute_of_adds hhost hopen hs hfresh hadds
  · intro hnone path
    rw [medium_execute_of_not_adds hhost hopen hs hnone]

end Runs

/-- In a directory, a configuration is loaded from its file. -/
theorem ending_loadConfig_of_file {d : Directory} {path : String} {octets : List UInt8}
    {config : Config} (hread : d.read? path = some octets)
    (hload : Config.load (some octets) = .ok config) :
    (loadConfig Directory.host path).ending d = (.ok config, d) := by
  have hfile : (d.get? path).isSome := by
    have hsome : (d.read? path).isSome := by rw [hread]; rfl
    simpa [Directory.read?] using hsome
  have hfound : (Directory.host.pathExists path).run d = (true, d) := by
    have hrun : (Directory.host.pathExists path).run d =
        (isDirectoryPath path || (d.get? path).isSome, d) := rfl
    rw [hrun, hfile, Bool.or_true]
  have hcontents : (Directory.host.readFile path).run d = (some octets, d) := by
    rw [← hread]
    rfl
  unfold loadConfig
  rw [Run.ending_bind_of_ok (Run.ending_lift _ _), hfound]
  simp only [if_true]
  rw [Run.ending_bind_of_ok (Run.ending_lift _ _), hcontents, hload]
  rfl

/-- A complete `allow` adds its rule; with one argument less it does not. -/
theorem run_changes_complete :
    let inbox : Id .acl := ⟨"00000000-0000-4000-8000-000000000001", by decide⟩
    let fresh : Id .rule := ⟨"00000000-0000-4000-8000-000000000002", by decide⟩
    let calls : List Call := [.change (.createAcl inbox "web")]
    let s := (Store.empty.transcript (fun _ => true) calls).2
    let text := "[policy]\ninbox_acl = '00000000-0000-4000-8000-000000000001'\n"
    let d : Directory := ⟨[("config.toml", .octets (Text.Utf8.encode text.toList)),
      ("proxy-acl.db", .store s.tables)]⟩
    let run := run suffixRules Pattern.isPattern Directory.host fresh
    let complete := run ["allow", "domain", "example.org", "block"]
    let short := run ["allow", "domain", "example.org"]
    (complete.ending d).1 = .ok (printed (.string fresh.text)) ∧
      (complete.ending d).2.medium "proxy-acl.db" = .store { s.tables with
        rules := [⟨fresh.text, "domain", "example.org", "block", some ""⟩]
        links := [⟨inbox.text, fresh.text⟩] } ∧
      ∀ path, (short.ending d).2.medium path = d.medium path := by
  intro inbox fresh calls s text d run complete short
  have hs : s.Reachable (fun _ => true) := ⟨calls, rfl⟩
  let config : Config := { Config.default with policy := ⟨some inbox.text⟩ }
  have hparse : Config.parse text = .ok config := by decide +kernel
  have hdecode : Text.Utf8.decode? (Text.Utf8.encode text.toList) = some text.toList := by
    decide +kernel
  have hload : Config.load (some (Text.Utf8.encode text.toList)) = .ok config := by
    unfold Config.load
    rw [Option.bind_some, hdecode]
    simp only [String.ofList_toList, hparse]
  have hread : d.read? "config.toml" = some (Text.Utf8.encode text.toList) := by rfl
  have hmedium : d.medium "proxy-acl.db" = .store s.tables := rfl
  have hopen : Store.open config.store (d.medium config.store.path) = .ok s :=
    Store.open_eq_ok_iff.mpr ⟨by decide, by decide, by decide, hmedium, hs.locked_eq_false⟩
  have hloaded := congrArg Prod.fst (ending_loadConfig_of_file hread hload)
  obtain ⟨hadds, -⟩ := run_changes suffixRules Pattern.isPattern Directory.lawful
    ["allow", "domain", "example.org", "block"] hloaded hopen hs fresh
  obtain ⟨-, hkeeps⟩ := run_changes suffixRules Pattern.isPattern Directory.lawful
    ["allow", "domain", "example.org"] hloaded hopen hs fresh
  obtain ⟨hresult, hstore⟩ := hadds inbox ⟨.domain, "example.org", .block, ""⟩
    ⟨rfl, rfl, by decide, nofun, rfl, by decide +kernel⟩ (by decide +kernel)
  refine ⟨hresult, hstore, hkeeps fun inbox f hadds => ?_⟩
  have hcommand : commandArgs ["allow", "domain", "example.org"] =
      ["allow", "domain", "example.org"] := by decide +kernel
  have hlength := congrArg List.length (hcommand.symm.trans hadds.command)
  simp at hlength

end ProxyPolicy.Cli
