import ProxyPolicy.Config

/-!
# Settings and their defaults

The ten settings, each with the section and the key where a document gives it, and with its default.
A document whose sections are tables gives a configuration exactly when each value that it gives is
of the right kind, and each setting is then what the document gives, or else its default
(`Config.ofValue?_eq_some_iff`).

There are two ways to a default: a section that is missing is read as the defaults of the section,
and a key that is missing in a section as the default of the setting. The first is the second for
all keys at once, as a missing section is read as an empty one is (`setting_section`).
-/

namespace ProxyPolicy

open ProxyPolicy.Toml

/-! ## Names -/

/-- The sections of a configuration. -/
inductive SectionName where
  /-- The policy store. -/
  | store
  /-- The log. -/
  | tail
  /-- The policy. -/
  | policy
  /-- The logging. -/
  | logging
  deriving DecidableEq, Repr

/-- The key of a section in a document. -/
def SectionName.text : SectionName → String
  | store => "store"
  | tail => "tail"
  | policy => "policy"
  | logging => "logging"

/-- The settings of the program. -/
inductive Setting where
  /-- The file of the store. -/
  | path
  /-- How long the store waits for another connection. -/
  | busyTimeoutMs
  /-- How the store keeps its journal. -/
  | journalMode
  /-- The access log. -/
  | log
  /-- The number of lines of the log. -/
  | lines
  /-- The ACL that takes new rules. -/
  | inboxAcl
  /-- The least level that is logged. -/
  | level
  /-- The form of what is logged. -/
  | format
  /-- The sinks that faults go to. -/
  | faultSinks
  /-- The number of faults that a memory sink keeps. -/
  | memoryCapacity
  deriving DecidableEq, Repr

namespace Setting

/-- The section of a setting. -/
def home : Setting → SectionName
  | path | busyTimeoutMs | journalMode => .store
  | log | lines => .tail
  | inboxAcl => .policy
  | level | format | faultSinks | memoryCapacity => .logging

/-- The key of a setting in its section. -/
def key : Setting → String
  | path => "path"
  | busyTimeoutMs => "busy_timeout_ms"
  | journalMode => "journal_mode"
  | log => "squid_log"
  | lines => "lines"
  | inboxAcl => "inbox_acl"
  | level => "level"
  | format => "format"
  | faultSinks => "fault_sinks"
  | memoryCapacity => "memory_capacity"

/-- What a setting is. -/
def Content : Setting → Type
  | path | journalMode | log | level | format => String
  | busyTimeoutMs | lines | memoryCapacity => Nat
  | inboxAcl => Option String
  | faultSinks => List String

/-- What a value sets a setting to, if it is of the right kind. -/
def decode : (s : Setting) → Value → Option s.Content
  | path | journalMode | log | level | format => asText?
  | busyTimeoutMs | lines | memoryCapacity => asNat?
  | inboxAcl => fun v => (asText? v).map some
  | faultSinks => asTexts?

/-- What a setting is if nothing sets it. -/
def default : (s : Setting) → s.Content
  | path => "proxy-acl.db"
  | busyTimeoutMs => (5000 : Nat)
  | journalMode => "WAL"
  | log => "/var/log/squid/access.log"
  | lines => (30 : Nat)
  | inboxAcl => (none : Option String)
  | level => "info"
  | format => "text"
  | faultSinks => ["console"]
  | memoryCapacity => (100 : Nat)

/-- What a setting is if this is given for it: the value, or nothing. -/
def read (s : Setting) : Option Value → Option s.Content
  | some v => s.decode v
  | none => some s.default

/-- Settings are told apart by their sections and keys. -/
theorem eq_of_home_of_key {s s' : Setting} (hhome : s.home = s'.home) (hkey : s.key = s'.key) :
    s = s' := by
  revert hhome hkey
  cases s <;> cases s' <;> decide

end Setting

namespace Config

/-- A setting of a configuration. -/
def get (c : Config) : (s : Setting) → s.Content
  | .path => c.store.path
  | .busyTimeoutMs => c.store.busyTimeoutMs
  | .journalMode => c.store.journalMode
  | .log => c.tail.log
  | .lines => c.tail.lines
  | .inboxAcl => c.policy.inboxAcl
  | .level => c.logging.level
  | .format => c.logging.format
  | .faultSinks => c.logging.faultSinks
  | .memoryCapacity => c.logging.memoryCapacity

/-- The configuration of these settings. -/
def ofSettings (f : (s : Setting) → s.Content) : Config :=
  ⟨⟨f .path, f .busyTimeoutMs, f .journalMode⟩, ⟨f .log, f .lines⟩, ⟨f .inboxAcl⟩,
    ⟨f .level, f .format, f .faultSinks, f .memoryCapacity⟩⟩

/-- A configuration has the settings that it is made of. -/
theorem get_ofSettings (f : (s : Setting) → s.Content) (s : Setting) :
    (ofSettings f).get s = f s := by
  cases s <;> rfl

end Config

/-! ## Documents -/

/-- The entries of a table. -/
def entriesOf : Value → List (String × Value)
  | .table _ entries => entries
  | _ => []

/-- The entries of a section of a document; a section that is missing has none. -/
def sectionOf (entries : List (String × Value)) (name : SectionName) : List (String × Value) :=
  ((lookup? entries name.text).map entriesOf).getD []

/-- What a document gives for a setting. -/
def Setting.given? (s : Setting) (entries : List (String × Value)) : Option Value :=
  lookup? (sectionOf entries s.home) s.key

/-- Whether the sections of a document are tables. -/
def SectionsAreTables (entries : List (String × Value)) : Prop :=
  ∀ (name : SectionName) (v : Value), lookup? entries name.text = some v →
    ∃ origin sectionEntries, v = .table origin sectionEntries

/-! ## Reading -/

variable {origin : Origin} {entries : List (String × Value)}

/-- A section that is missing is read as an empty one, if its defaults are those of its settings. -/
theorem setting_section {α : Type} {decode : Section → Option α} {default : α}
    (hdefault : decode (.named []) = some default)
    (hsections : SectionsAreTables entries) (position : Nat) (name : SectionName) :
    (Section.named entries).setting position name.text (fun v => Section.ofValue? v >>= decode)
        default =
      decode (.named (sectionOf entries name)) := by
  have hget : (Section.named entries).get? position name.text = lookup? entries name.text := rfl
  unfold Section.setting sectionOf
  rw [hget]
  cases hfound : lookup? entries name.text with
  | none => exact hdefault.symm
  | some v =>
    obtain ⟨origin', entries', rfl⟩ := hsections name v hfound
    rfl

/-- A setting is read from the value at its key, or defaulted. -/
theorem setting_key (s : Setting) (position : Nat) :
    (Section.named entries).setting position s.key s.decode s.default =
      s.read (lookup? entries s.key) := by
  have hget : (Section.named entries).get? position s.key = lookup? entries s.key := rfl
  unfold Section.setting
  rw [hget]
  cases lookup? entries s.key with
  | none => rfl
  | some v => rfl

/-- A section of the store is read setting by setting. -/
theorem StoreSettings.ofSection?_eq_some_iff {x : StoreSettings} :
    ofSection? (.named entries) = some x ↔
      Setting.path.read (lookup? entries Setting.path.key) = some x.path ∧
      Setting.busyTimeoutMs.read (lookup? entries Setting.busyTimeoutMs.key) =
        some x.busyTimeoutMs ∧
      Setting.journalMode.read (lookup? entries Setting.journalMode.key) = some x.journalMode := by
  have hread : ofSection? (.named entries) = do
      let path ← Setting.path.read (lookup? entries Setting.path.key)
      let wait ← Setting.busyTimeoutMs.read (lookup? entries Setting.busyTimeoutMs.key)
      let mode ← Setting.journalMode.read (lookup? entries Setting.journalMode.key)
      return (⟨path, wait, mode⟩ : StoreSettings) := by
    rw [← setting_key .path 0, ← setting_key .busyTimeoutMs 1, ← setting_key .journalMode 2]
    rfl
  simp only [hread, Option.bind_eq_bind, Option.bind_eq_some_iff]
  constructor
  · rintro ⟨path, hpath, wait, hwait, mode, hmode, heq⟩
    obtain rfl := Option.some.inj heq
    exact ⟨hpath, hwait, hmode⟩
  · rintro ⟨hpath, hwait, hmode⟩
    exact ⟨_, hpath, _, hwait, _, hmode, rfl⟩

/-- A section of the log is read setting by setting. -/
theorem TailSettings.ofSection?_eq_some_iff {x : TailSettings} :
    ofSection? (.named entries) = some x ↔
      Setting.log.read (lookup? entries Setting.log.key) = some x.log ∧
      Setting.lines.read (lookup? entries Setting.lines.key) = some x.lines := by
  have hread : ofSection? (.named entries) = do
      let log ← Setting.log.read (lookup? entries Setting.log.key)
      let lines ← Setting.lines.read (lookup? entries Setting.lines.key)
      return (⟨log, lines⟩ : TailSettings) := by
    rw [← setting_key .log 0, ← setting_key .lines 1]
    rfl
  simp only [hread, Option.bind_eq_bind, Option.bind_eq_some_iff]
  constructor
  · rintro ⟨log, hlog, lines, hlines, heq⟩
    obtain rfl := Option.some.inj heq
    exact ⟨hlog, hlines⟩
  · rintro ⟨hlog, hlines⟩
    exact ⟨_, hlog, _, hlines, rfl⟩

/-- A section of the policy is read as its one setting is. -/
theorem PolicySettings.ofSection?_eq_some_iff {x : PolicySettings} :
    ofSection? (.named entries) = some x ↔
      Setting.inboxAcl.read (lookup? entries Setting.inboxAcl.key) = some x.inboxAcl := by
  have hread : ofSection? (.named entries) = do
      let inbox ← Setting.inboxAcl.read (lookup? entries Setting.inboxAcl.key)
      return (⟨inbox⟩ : PolicySettings) := by
    rw [← setting_key .inboxAcl 0]
    rfl
  simp only [hread, Option.bind_eq_bind, Option.bind_eq_some_iff]
  constructor
  · rintro ⟨inbox, hinbox, heq⟩
    obtain rfl := Option.some.inj heq
    exact hinbox
  · exact fun hinbox => ⟨_, hinbox, rfl⟩

/-- A section of the logging is read setting by setting. -/
theorem LoggingSettings.ofSection?_eq_some_iff {x : LoggingSettings} :
    ofSection? (.named entries) = some x ↔
      Setting.level.read (lookup? entries Setting.level.key) = some x.level ∧
      Setting.format.read (lookup? entries Setting.format.key) = some x.format ∧
      Setting.faultSinks.read (lookup? entries Setting.faultSinks.key) = some x.faultSinks ∧
      Setting.memoryCapacity.read (lookup? entries Setting.memoryCapacity.key) =
        some x.memoryCapacity := by
  have hread : ofSection? (.named entries) = do
      let level ← Setting.level.read (lookup? entries Setting.level.key)
      let format ← Setting.format.read (lookup? entries Setting.format.key)
      let sinks ← Setting.faultSinks.read (lookup? entries Setting.faultSinks.key)
      let capacity ← Setting.memoryCapacity.read (lookup? entries Setting.memoryCapacity.key)
      return (⟨level, format, sinks, capacity⟩ : LoggingSettings) := by
    rw [← setting_key .level 0, ← setting_key .format 1, ← setting_key .faultSinks 2,
      ← setting_key .memoryCapacity 3]
    rfl
  simp only [hread, Option.bind_eq_bind, Option.bind_eq_some_iff]
  constructor
  · rintro ⟨level, hlevel, format, hformat, sinks, hsinks, capacity, hcapacity, heq⟩
    obtain rfl := Option.some.inj heq
    exact ⟨hlevel, hformat, hsinks, hcapacity⟩
  · rintro ⟨hlevel, hformat, hsinks, hcapacity⟩
    exact ⟨_, hlevel, _, hformat, _, hsinks, _, hcapacity, rfl⟩

namespace Config

variable {c : Config}

/-- A document whose sections are tables gives a configuration section by section. -/
theorem ofValue?_eq_some_iff_sections (hsections : SectionsAreTables entries) :
    ofValue? (.table origin entries) = some c ↔
      StoreSettings.ofSection? (.named (sectionOf entries .store)) = some c.store ∧
      TailSettings.ofSection? (.named (sectionOf entries .tail)) = some c.tail ∧
      PolicySettings.ofSection? (.named (sectionOf entries .policy)) = some c.policy ∧
      LoggingSettings.ofSection? (.named (sectionOf entries .logging)) = some c.logging := by
  have hstore : StoreSettings.ofSection? (.named []) = some .default := rfl
  have htail : TailSettings.ofSection? (.named []) = some .default := rfl
  have hpolicy : PolicySettings.ofSection? (.named []) = some .default := rfl
  have hlogging : LoggingSettings.ofSection? (.named []) = some .default := rfl
  have hread : ofValue? (.table origin entries) = do
      let store ← StoreSettings.ofSection? (.named (sectionOf entries .store))
      let tail ← TailSettings.ofSection? (.named (sectionOf entries .tail))
      let policy ← PolicySettings.ofSection? (.named (sectionOf entries .policy))
      let logging ← LoggingSettings.ofSection? (.named (sectionOf entries .logging))
      return (⟨store, tail, policy, logging⟩ : Config) := by
    rw [← setting_section hstore hsections 0 .store, ← setting_section htail hsections 1 .tail,
      ← setting_section hpolicy hsections 2 .policy,
      ← setting_section hlogging hsections 3 .logging]
    rfl
  simp only [hread, Option.bind_eq_bind, Option.bind_eq_some_iff]
  constructor
  · rintro ⟨store, hstore, tail, htail, policy, hpolicy, logging, hlogging, heq⟩
    obtain rfl := Option.some.inj heq
    exact ⟨hstore, htail, hpolicy, hlogging⟩
  · rintro ⟨hstore, htail, hpolicy, hlogging⟩
    exact ⟨_, hstore, _, htail, _, hpolicy, _, hlogging, rfl⟩

/-- A document whose sections are tables gives a configuration exactly when this has each setting as
the document gives it, or else its default. -/
theorem ofValue?_eq_some_iff (hsections : SectionsAreTables entries) :
    ofValue? (.table origin entries) = some c ↔
      ∀ s : Setting, s.read (s.given? entries) = some (c.get s) := by
  rw [ofValue?_eq_some_iff_sections hsections, StoreSettings.ofSection?_eq_some_iff,
    TailSettings.ofSection?_eq_some_iff, PolicySettings.ofSection?_eq_some_iff,
    LoggingSettings.ofSection?_eq_some_iff]
  constructor
  · rintro ⟨⟨hpath, hwait, hmode⟩, ⟨hlog, hlines⟩, hinbox, hlevel, hformat, hsinks, hcapacity⟩ s
    cases s <;> assumption
  · intro h
    exact ⟨⟨h .path, h .busyTimeoutMs, h .journalMode⟩, ⟨h .log, h .lines⟩, h .inboxAcl, h .level,
      h .format, h .faultSinks, h .memoryCapacity⟩

end Config

end ProxyPolicy
