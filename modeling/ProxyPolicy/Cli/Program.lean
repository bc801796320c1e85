import ProxyPolicy.Cli.Command
import ProxyPolicy.Cli.Host
import ProxyPolicy.Cli.Report
import ProxyPolicy.Policy.Operation
import ProxyPolicy.Tail

/-!
# The program

One run of the program: the configuration is loaded, the command is carried out, and its result is
printed as JSON. The only command that changes the policy is `allow`. An error is told in one line;
two settings can ask for more than the machine can do, and they end the program at once.

Two things are not the program's own, and it is written for any of them: the list of public suffixes
that hosts are grouped by (`rules`), and which texts are patterns (`accepts`).
-/

namespace ProxyPolicy.Cli

open ProxyPolicy.Net ProxyPolicy.Policy

/-- Why a run fails. -/
inductive Failure where
  /-- With a message for the operator. -/
  | message (text : String)
  /-- At once. -/
  | abort
  deriving DecidableEq, Repr

/-- A run in given surroundings, which may fail. -/
abbrev Run (m : Type → Type) := ExceptT Failure m

/-- A policy error that the operator is told as it is. -/
def Failure.ofError (e : Error) : Failure := .message e.message

/-- A result that may be an error, as a step of a run. -/
def Run.ofExcept {m : Type → Type} [Monad m] {ε α : Type} (failure : ε → Failure)
    (x : Except ε α) : Run m α :=
  match x with
  | .ok a => pure a
  | .error e => throw (failure e)

/-- What a document is printed as. -/
def printed (j : Json) : String := j.pretty ++ "\n"

variable {m : Type → Type} [Monad m] (rules : List SuffixRule) (accepts : String → Bool)
  (host : Host m)

/-- Loads the configuration at a path; without a file there, all settings have their defaults. -/
def loadConfig (path : String) : Run m Config := do
  if ← host.pathExists path then
    Run.ofExcept (fun e => .message e.message) (Config.load (← host.readFile path))
  else return .default

/-- Opens the policy store that the settings name. -/
def openStore (settings : StoreSettings) : Run m Store := do
  let failure : OpenFailure → Failure
    | .timeoutTooLong => .abort
    | .fault _ => .message ("Failed to open policy store " ++ settings.path)
  Run.ofExcept failure (Store.open settings (← host.openStore settings.path))

/-- Shows the recent entries of the log. -/
def showTail (config : Config) : Run m String := do
  match Tail.ofConfig? config with
  | none => throw .abort
  | some tail =>
    match tail.recent rules (← host.readFile tail.path) with
    | none => throw (.message tail.unreadable)
    | some snapshot => return printed (.array (snapshot.entries.map entryJson))

/-- Shows the ACLs. -/
def showAcls (config : Config) : Run m String := do
  let store ← openStore host config.store
  let views ← Run.ofExcept .ofError store.tables.aclViews
  return printed (.array (views.map aclJson))

/-- Shows the groups. -/
def showGroups (config : Config) : Run m String := do
  let store ← openStore host config.store
  let views ← Run.ofExcept .ofError store.tables.groupViews
  return printed (.array (views.map groupJson))

/-- Adds a rule to the ACL that takes new rules, and shows its identifier. -/
def addRule (config : Config) (fresh : Id .rule) (type value action : String) : Run m String := do
  match ← Run.ofExcept .ofError config.inboxAcl with
  | none => throw (.message "policy.inbox_acl is not configured")
  | some inbox =>
    let store ← openStore host config.store
    match store.run accepts (.createInboxRule fresh inbox type value action) with
    | (.error _, _) => throw (.message "Failed to add rule")
    | (.ok (), store) =>
      host.saveStore config.store.path store.tables
      return printed (.string fresh.text)

/-- One run of the program with these arguments; what it prints is its result. `fresh` is the
identifier of a rule that may be added. -/
def run (fresh : Id .rule) (args : List String) : Run m String := do
  let invocation := Invocation.ofArgs args
  let config ← loadConfig host invocation.configPath
  match invocation.command with
  | none => throw (.message usage)
  | some .tail => showTail rules host config
  | some .acls => showAcls host config
  | some .groups => showGroups host config
  | some (.allow type value action) => addRule accepts host config fresh type value action

/-- How a run ends: what it prints, its error message if it has one, and its exit code. -/
structure Outcome where
  /-- The exit code. -/
  code : Nat
  /-- What is printed. -/
  output : String
  /-- The error message. -/
  error : Option String
  deriving DecidableEq, Repr

/-- The end of a run. -/
def Outcome.ofResult : Except Failure String → Outcome
  | .ok output => ⟨0, output, none⟩
  | .error (.message text) => ⟨1, "", some ("Error: " ++ text)⟩
  | .error .abort => ⟨101, "", none⟩

end ProxyPolicy.Cli
