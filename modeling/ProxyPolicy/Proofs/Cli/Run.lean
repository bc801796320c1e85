import ProxyPolicy.Cli.Program

/-!
# Runs step by step

The program is written for any surroundings. Here these have a state that a step may change, and
`Run.ending` is what a run from a state gives, with the state after it. A run is a sequence of steps
up to the first that fails (`Run.ending_bind`).

`Run.Keeps` is what most of the program is known by: it keeps a property of the state, and fails
only in certain ways. There is one rule for each way of putting runs together, and from these one
for each part of the program.
-/

namespace ProxyPolicy.Cli

open ProxyPolicy.Net ProxyPolicy.Policy

namespace Run

variable {σ α β : Type}

/-- What a run from a state of its surroundings gives, and the state after it. -/
def ending (x : Run (StateM σ) α) (w : σ) : Except Failure α × σ := x.run.run w

/-! ## Steps -/

/-- A step of the surroundings does not fail. -/
theorem ending_lift (step : StateM σ α) (w : σ) :
    (liftM step : Run (StateM σ) α).ending w = (.ok (step.run w).1, (step.run w).2) := rfl

/-- A run in two parts goes on from where its first part ends, unless that fails. -/
theorem ending_bind (x : Run (StateM σ) α) (next : α → Run (StateM σ) β) (w : σ) :
    (x >>= next).ending w =
      match x.ending w with
      | (.ok a, w') => (next a).ending w'
      | (.error e, w') => (.error e, w') := by
  unfold ending
  rw [ExceptT.run_bind, StateT.run_bind]
  rcases x.run.run w with ⟨e | a, w'⟩
  · rfl
  · rfl

/-- A run in two parts whose first part succeeds. -/
theorem ending_bind_of_ok {x : Run (StateM σ) α} {next : α → Run (StateM σ) β} {w w' : σ} {a : α}
    (h : x.ending w = (.ok a, w')) : (x >>= next).ending w = (next a).ending w' := by
  rw [ending_bind, h]

/-- A run keeps a property of the state, and if it fails then in one of certain ways. -/
def Keeps (P : σ → Prop) (E : Failure → Prop) (x : Run (StateM σ) α) : Prop :=
  ∀ w, P w → P (x.ending w).2 ∧ ∀ e, (x.ending w).1 = .error e → E e

variable {P : σ → Prop} {E : Failure → Prop}

/-- Giving a value changes nothing and does not fail. -/
theorem keeps_pure (a : α) : Keeps P E (pure a) :=
  fun _ hw => ⟨hw, fun _ h => nomatch h⟩

/-- Failing changes nothing. -/
theorem keeps_throw {e : Failure} (he : E e) : Keeps P E (throw e : Run (StateM σ) α) := by
  refine fun w hw => ⟨hw, fun e' h => ?_⟩
  obtain rfl : e = e' := Except.error.inj h
  exact he

/-- A step of the surroundings keeps what it keeps by itself. -/
theorem keeps_lift {step : StateM σ α} (h : ∀ w, P w → P (step.run w).2) :
    Keeps P E (liftM step : Run (StateM σ) α) :=
  fun w hw => ⟨h w hw, fun _ hend => nomatch hend⟩

/-- A run in two parts, each of which keeps the property. -/
theorem keeps_bind {x : Run (StateM σ) α} {next : α → Run (StateM σ) β} (hx : x.Keeps P E)
    (hnext : ∀ a, (next a).Keeps P E) : (x >>= next).Keeps P E := by
  intro w hw
  obtain ⟨hkept, hfails⟩ := hx w hw
  rw [ending_bind]
  rcases hend : x.ending w with ⟨e | a, w'⟩
  · rw [hend] at hkept hfails
    refine ⟨hkept, fun e' h => ?_⟩
    obtain rfl : e = e' := Except.error.inj h
    exact hfails e rfl
  · -- The second part starts where the first one ends, and the property still holds there.
    rw [hend] at hkept
    exact hnext a w' hkept

/-- A result that may be an error, as a step. -/
theorem keeps_ofExcept {ε : Type} {failure : ε → Failure} {x : Except ε α}
    (h : ∀ e, x = .error e → E (failure e)) :
    Keeps P E (ofExcept failure x : Run (StateM σ) α) := by
  cases x with
  | ok a => exact keeps_pure a
  | error e => exact keeps_throw (h e rfl)

end Run

/-! ## The program in two parts -/

/-- What a run does once it has its configuration. -/
def execute {m : Type → Type} [Monad m] (rules : List SuffixRule) (accepts : String → Bool)
    (host : Host m) (config : Config) (fresh : Id .rule) : Option Command → Run m String
  | none => throw (.message usage)
  | some .tail => showTail rules host config
  | some .acls => showAcls host config
  | some .groups => showGroups host config
  | some (.allow type value action) => addRule accepts host config fresh type value action

/-- A run loads its configuration and then carries out its command. -/
theorem run_eq {m : Type → Type} [Monad m] (rules : List SuffixRule) (accepts : String → Bool)
    (host : Host m) (fresh : Id .rule) (args : List String) :
    run rules accepts host fresh args =
      loadConfig host (Invocation.ofArgs args).configPath >>= fun config =>
        execute rules accepts host config fresh (Invocation.ofArgs args).command := rfl

/-! ## Parts of the program -/

/-- Surroundings in which looking at files and opening a store keep a property of the state. -/
structure Host.Keeps {σ : Type} (host : Host (StateM σ)) (P : σ → Prop) : Prop where
  /-- Asking for a path keeps the property. -/
  pathExists : ∀ path w, P w → P ((host.pathExists path).run w).2
  /-- Reading keeps the property. -/
  readFile : ∀ path w, P w → P ((host.readFile path).run w).2
  /-- Opening a store keeps the property. -/
  openStore : ∀ path w, P w → P ((host.openStore path).run w).2

section Parts

open Run

variable {σ : Type} {rules : List SuffixRule} {accepts : String → Bool} {host : Host (StateM σ)}
  {P : σ → Prop} {E : Failure → Prop} {config : Config} (hhost : host.Keeps P)
  (hmessage : ∀ text, E (.message text))
  (hwait : ∀ medium, Store.open config.store medium = .error .timeoutTooLong → E .abort)

include hhost hmessage

/-- Loading a configuration keeps the property. -/
theorem keeps_loadConfig (path : String) : (loadConfig host path).Keeps P E := by
  refine keeps_bind (keeps_lift (hhost.pathExists path)) fun found => ?_
  cases found with
  | true =>
    refine keeps_bind (keeps_lift (hhost.readFile path)) fun contents => ?_
    exact keeps_ofExcept fun e _ => hmessage e.message
  | false => exact keeps_pure _

/-- Showing the log keeps the property. -/
theorem keeps_showTail (htail : Tail.ofConfig? config = none → E .abort) :
    (showTail rules host config).Keeps P E := by
  unfold showTail
  cases hmade : Tail.ofConfig? config with
  | none => exact keeps_throw (htail hmade)
  | some tail =>
    refine keeps_bind (keeps_lift (hhost.readFile tail.path)) fun contents => ?_
    cases tail.recent rules contents with
    | none => exact keeps_throw (hmessage _)
    | some snapshot => exact keeps_pure _

include hwait

/-- Opening the store keeps the property. -/
theorem keeps_openStore : (openStore host config.store).Keeps P E := by
  refine keeps_bind (keeps_lift (hhost.openStore config.store.path)) fun medium => ?_
  refine keeps_ofExcept fun failure hfailure => ?_
  cases failure with
  | timeoutTooLong => exact hwait medium hfailure
  | fault fault => exact hmessage _

/-- Showing the ACLs keeps the property. -/
theorem keeps_showAcls : (showAcls host config).Keeps P E := by
  refine keeps_bind (keeps_openStore hhost hmessage hwait) fun store => ?_
  exact keeps_bind (keeps_ofExcept fun e _ => hmessage e.message) fun views => keeps_pure _

/-- Showing the groups keeps the property. -/
theorem keeps_showGroups : (showGroups host config).Keeps P E := by
  refine keeps_bind (keeps_openStore hhost hmessage hwait) fun store => ?_
  exact keeps_bind (keeps_ofExcept fun e _ => hmessage e.message) fun views => keeps_pure _

/-- Adding a rule keeps the property if saving a store does. -/
theorem keeps_addRule (hsave : ∀ path t w, P w → P ((host.saveStore path t).run w).2)
    (fresh : Id .rule) (type value action : String) :
    (addRule accepts host config fresh type value action).Keeps P E := by
  refine keeps_bind (keeps_ofExcept fun e _ => hmessage e.message) fun inbox? => ?_
  cases inbox? with
  | none => exact keeps_throw (hmessage _)
  | some inbox =>
    refine keeps_bind (keeps_openStore hhost hmessage hwait) fun store => ?_
    rcases store.run accepts (.createInboxRule fresh inbox type value action) with
      ⟨e | ⟨⟨⟩⟩, store'⟩
    · exact keeps_throw (hmessage _)
    · exact keeps_bind (keeps_lift (hsave _ _)) fun _ => keeps_pure _

/-- Carrying out a command keeps the property if saving a store does. -/
theorem keeps_execute (hsave : ∀ path t w, P w → P ((host.saveStore path t).run w).2)
    (htail : Tail.ofConfig? config = none → E .abort) (fresh : Id .rule)
    (command : Option Command) :
    (execute rules accepts host config fresh command).Keeps P E := by
  cases command with
  | none => exact keeps_throw (hmessage usage)
  | some command =>
    cases command with
    | tail => exact keeps_showTail hhost hmessage htail
    | acls => exact keeps_showAcls hhost hmessage hwait
    | groups => exact keeps_showGroups hhost hmessage hwait
    | allow type value action =>
      exact keeps_addRule hhost hmessage hwait hsave fresh type value action

end Parts

end ProxyPolicy.Cli
