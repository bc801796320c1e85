import ProxyPolicy.Policy.Id
import ProxyPolicy.Text.Utf8
import ProxyPolicy.Toml.Document

/-!
# Configuration

The settings of the program and how they are read from a TOML document. Every setting has a default;
keys that name no setting are ignored. A section is a table whose keys name its settings, or an
array that gives them by position, in the order of the fields here; what is missing at its end is
defaulted and what is left over is ignored. A date or a time in place of a section sets nothing.
-/

namespace ProxyPolicy

open ProxyPolicy.Policy ProxyPolicy.Text ProxyPolicy.Toml

/-- Where the policy store is and how it is opened. -/
structure StoreSettings where
  /-- The file. -/
  path : String
  /-- How long to wait for another connection, in milliseconds. -/
  busyTimeoutMs : Nat
  /-- How the storage keeps its journal; a mode that it does not know changes nothing. With `OFF`
  it keeps none, so that it cannot undo what fails. -/
  journalMode : String
  deriving DecidableEq, Repr

/-- Which log is shown. -/
structure TailSettings where
  /-- The access log. -/
  log : String
  /-- The number of lines looked at. -/
  lines : Nat
  deriving DecidableEq, Repr

/-- Settings of the policy. -/
structure PolicySettings where
  /-- The ACL that takes new rules. -/
  inboxAcl : Option String
  deriving DecidableEq, Repr

/-- What is logged and where faults go. -/
structure LoggingSettings where
  /-- The least level that is logged. -/
  level : String
  /-- The form of what is logged. -/
  format : String
  /-- The names of the sinks that faults go to. -/
  faultSinks : List String
  /-- The number of faults that a memory sink keeps. -/
  memoryCapacity : Nat
  deriving DecidableEq, Repr

/-- The settings of the program. -/
structure Config where
  /-- The policy store. -/
  store : StoreSettings
  /-- The log. -/
  tail : TailSettings
  /-- The policy. -/
  policy : PolicySettings
  /-- The logging. -/
  logging : LoggingSettings
  deriving DecidableEq, Repr

/-! ## Defaults -/

/-- The defaults of the store. -/
def StoreSettings.default : StoreSettings := ⟨"proxy-acl.db", 5000, "WAL"⟩

/-- The defaults of the log. -/
def TailSettings.default : TailSettings := ⟨"/var/log/squid/access.log", 30⟩

/-- The defaults of the policy. -/
def PolicySettings.default : PolicySettings := ⟨none⟩

/-- The defaults of the logging. -/
def LoggingSettings.default : LoggingSettings := ⟨"info", "text", ["console"], 100⟩

/-- The settings without any document. -/
def Config.default : Config := ⟨.default, .default, .default, .default⟩

/-! ## Reading -/

/-- What a section gives, by name or by position. -/
inductive Section where
  /-- Values with names. -/
  | named (entries : List (String × Value))
  /-- Values in the order of the settings. -/
  | listed (items : List Value)

namespace Section

/-- The section that a value is. -/
def ofValue? : Value → Option Section
  | .table _ entries => some (.named entries)
  | .array items | .tables items => some (.listed items)
  | .scalar .dateTime => some (.named [])
  | .scalar _ => none

/-- What a section gives for a setting, known by its position and its name. -/
def get? (s : Section) (position : Nat) (name : String) : Option Value :=
  match s with
  | named entries => lookup? entries name
  | listed items => items[position]?

/-- A setting: the value given, which must be of the right kind, or else the default. -/
def setting {α : Type} (s : Section) (position : Nat) (name : String) (decode : Value → Option α)
    (default : α) : Option α :=
  match s.get? position name with
  | some v => decode v
  | none => some default

end Section

/-- The text that a value is. -/
def asText? : Value → Option String
  | .scalar (.text s) => some s
  | _ => none

/-- The natural number that a value is. -/
def asNat? : Value → Option Nat
  | .scalar (.integer n) => if 0 ≤ n then some n.toNat else none
  | _ => none

/-- The texts that a value lists. -/
def asTexts? : Value → Option (List String)
  | .array items | .tables items => items.mapM asText?
  | _ => none

/-- The settings of the store in a section. -/
def StoreSettings.ofSection? (s : Section) : Option StoreSettings := do
  let path ← s.setting 0 "path" asText? default.path
  let busyTimeoutMs ← s.setting 1 "busy_timeout_ms" asNat? default.busyTimeoutMs
  let journalMode ← s.setting 2 "journal_mode" asText? default.journalMode
  return { path, busyTimeoutMs, journalMode }

/-- The settings of the log in a section. -/
def TailSettings.ofSection? (s : Section) : Option TailSettings := do
  let log ← s.setting 0 "squid_log" asText? default.log
  let lines ← s.setting 1 "lines" asNat? default.lines
  return { log, lines }

/-- The settings of the policy in a section. -/
def PolicySettings.ofSection? (s : Section) : Option PolicySettings := do
  let inboxAcl ← s.setting 0 "inbox_acl" (fun v => some <$> asText? v) default.inboxAcl
  return { inboxAcl }

/-- The settings of the logging in a section. -/
def LoggingSettings.ofSection? (s : Section) : Option LoggingSettings := do
  let level ← s.setting 0 "level" asText? default.level
  let format ← s.setting 1 "format" asText? default.format
  let faultSinks ← s.setting 2 "fault_sinks" asTexts? default.faultSinks
  let memoryCapacity ← s.setting 3 "memory_capacity" asNat? default.memoryCapacity
  return { level, format, faultSinks, memoryCapacity }

namespace Config

/-- The settings that a document gives. -/
def ofValue? (document : Value) : Option Config := do
  let sections ← Section.ofValue? document
  let read {α : Type} (position : Nat) (name : String) (decode : Section → Option α) (default : α) :
      Option α :=
    sections.setting position name (fun v => Section.ofValue? v >>= decode) default
  let store ← read 0 "store" StoreSettings.ofSection? .default
  let tail ← read 1 "tail" TailSettings.ofSection? .default
  let policy ← read 2 "policy" PolicySettings.ofSection? .default
  let logging ← read 3 "logging" LoggingSettings.ofSection? .default
  return { store, tail, policy, logging }

/-- Why there are no settings. -/
inductive LoadError where
  /-- There is no such file, or it does not hold text. -/
  | unreadable
  /-- The text is no TOML document, or gives a setting a value of the wrong kind. -/
  | malformed
  deriving DecidableEq, Repr

/-- The message of a failure to load the settings. -/
def LoadError.message : LoadError → String
  | unreadable => "Failed to read config file"
  | malformed => "Failed to parse config TOML"

/-- The settings that a text gives. -/
def parse (text : String) : Except LoadError Config :=
  match (Toml.parse? text).bind ofValue? with
  | some c => .ok c
  | none => .error .malformed

/-- The settings in a file of these contents, if there is one. -/
def load (contents : Option (List UInt8)) : Except LoadError Config :=
  match contents.bind Utf8.decode? with
  | some text => parse (String.ofList text)
  | none => .error .unreadable

/-- The ACL that takes new rules, if one is set. -/
def inboxAcl (c : Config) : Except Error (Option (Id .acl)) :=
  match c.policy.inboxAcl with
  | some text => some <$> Id.parse .acl text
  | none => .ok none

end Config

end ProxyPolicy
