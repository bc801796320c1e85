import Mathlib.Tactic.SplitIfs
import ProxyPolicy.Net.SuffixRules
import ProxyPolicy.Pattern.Grammar
import ProxyPolicy.Proofs.Cli.Run
import ProxyPolicy.Proofs.List.Loops
import ProxyPolicy.Proofs.Policy.Opening

/-!
# What a configuration may ask for

Two settings are handed on unchecked to what cannot take all numbers: the capacity of a memory for
faults, for which room is taken at once, and the time to wait for another connection, which the
storage counts with 31 bits. The reader of the configuration accepts greater numbers, and the
program then ends at once, without a message (`Config.unbearable_accepted`). No other setting does
that: with a configuration whose two numbers are in bounds (`Config.Bearable`), the log is shown or
the operator is told why not, and the store opens or reports a fault, in all surroundings
(`Config.bearable_exact`).
-/

namespace ProxyPolicy

open ProxyPolicy.Net ProxyPolicy.Policy ProxyPolicy.Cli

/-- Whether a configuration asks for no more than there can be. -/
structure Config.Bearable (c : Config) : Prop where
  /-- A memory for faults has room. -/
  capacity : "memory" ∈ c.logging.faultSinks → c.logging.memoryCapacity ≤ Sink.maxCapacity
  /-- The storage can be told how long to wait, if there can be a file. -/
  wait : nulPosition? c.store.path = none → c.store.busyTimeoutMs ≤ maxBusyTimeoutMs

/-! ## The log -/

/-- A sink can be made unless it is a memory that is too great. -/
theorem FaultLogger.isSome_sinksOf?_iff {settings : LoggingSettings} {name : String} :
    (sinksOf? settings name).isSome ↔
      (name = "memory" → settings.memoryCapacity ≤ Sink.maxCapacity) := by
  unfold sinksOf? Sink.memory?
  split_ifs with hconsole hmemory hcapacity
  · simp [hconsole]
  · simp [hmemory, hcapacity]
  · simp [hmemory, hcapacity]
  · simp [hmemory]

/-- The log can be looked at unless a memory for its faults is too great. -/
theorem Tail.isSome_ofConfig?_iff {c : Config} :
    (Tail.ofConfig? c).isSome ↔
      ("memory" ∈ c.logging.faultSinks → c.logging.memoryCapacity ≤ Sink.maxCapacity) := by
  have hsinks : (Tail.ofConfig? c).isSome ↔
      (c.logging.faultSinks.mapM (FaultLogger.sinksOf? c.logging)).isSome := by
    unfold ofConfig? FaultLogger.ofSettings?
    simp
  rw [hsinks, isSome_mapM_iff]
  simp only [FaultLogger.isSome_sinksOf?_iff]
  constructor
  · intro h hmemory
    exact h "memory" hmemory rfl
  · rintro h name hname rfl
    exact h hname

/-! ## The program -/

namespace Config

/-- A configuration asks for no more than there can be exactly when the log can be looked at and
every store opens or reports a fault. -/
theorem bearable_iff {c : Config} :
    c.Bearable ↔ (∃ tail, Tail.ofConfig? c = some tail) ∧
      ∀ medium, (∃ s, Store.open c.store medium = .ok s) ∨
        ∃ fault, Store.open c.store medium = .error (.fault fault) := by
  simp only [Store.open_ok_or_fault_iff, ne_eq, Store.open_eq_timeoutTooLong_iff,
    ← Option.isSome_iff_exists, Tail.isSome_ofConfig?_iff]
  constructor
  · rintro ⟨hcapacity, hwait⟩
    exact ⟨hcapacity, fun medium ⟨hpath, _, hlong⟩ => Nat.not_lt.mpr (hwait hpath) hlong⟩
  · rintro ⟨hcapacity, hopens⟩
    refine ⟨hcapacity, fun hpath => Nat.le_of_not_lt fun hlong => ?_⟩
    exact hopens (.store .empty) ⟨hpath, nofun, hlong⟩

variable {σ : Type} {rules : List SuffixRule} {accepts : String → Bool} {host : Host (StateM σ)}
  {w : σ}

/-- A run ends with a result or with a message if the configuration that it loads asks for no more
than there can be. -/
theorem Bearable.run_ne_abort {args : List String}
    (hload : ∀ c, ((loadConfig host (Invocation.ofArgs args).configPath).ending w).1 = .ok c →
      c.Bearable) (fresh : Id .rule) :
    ((Cli.run rules accepts host fresh args).ending w).1 ≠ .error .abort := by
  have hhost : host.Keeps fun _ => True := ⟨fun _ _ _ => trivial, fun _ _ _ => trivial,
    fun _ _ _ => trivial⟩
  have hmessage (text : String) : Failure.message text ≠ .abort := nofun
  rw [run_eq, Run.ending_bind]
  rcases hend : (loadConfig host (Invocation.ofArgs args).configPath).ending w with ⟨e | c, w'⟩
  · -- Loading fails with a message if it fails.
    have hloads := keeps_loadConfig (E := (· ≠ .abort)) hhost hmessage
      (Invocation.ofArgs args).configPath w trivial
    intro habort
    exact hloads.2 e (by rw [hend]) (Except.error.inj habort)
  · obtain ⟨⟨tail, htail⟩, hopens⟩ := bearable_iff.mp (hload c (by rw [hend]))
    have hmade (hnone : Tail.ofConfig? c = none) : Failure.abort ≠ .abort := by
      rw [htail] at hnone
      cases hnone
    have hwait (medium : Medium) (hlong : Store.open c.store medium = .error .timeoutTooLong) :
        Failure.abort ≠ .abort :=
      absurd hlong (Store.open_ok_or_fault_iff.mp (hopens medium))
    -- There are only these two ways of ending at once, and both are excluded.
    have hcarries : (execute rules accepts host c fresh (Invocation.ofArgs args).command).Keeps
        (fun _ => True) (· ≠ .abort) :=
      keeps_execute (E := (· ≠ .abort)) hhost hmessage hwait (fun _ _ _ _ => trivial) hmade fresh _
    intro habort
    exact (hcarries w' trivial).2 .abort habort rfl

/-- What a configuration may ask for, exactly. It asks for no more than there can be if and only if
the log can be looked at and every store, whatever there is at its path, opens or reports a fault;
and then no run with it ends without a message, in any surroundings. -/
theorem bearable_exact (c : Config) :
    (c.Bearable ↔ (∃ tail, Tail.ofConfig? c = some tail) ∧
      ∀ medium, (∃ s, Store.open c.store medium = .ok s) ∨
        ∃ fault, Store.open c.store medium = .error (.fault fault)) ∧
    (c.Bearable → ∀ (rules : List SuffixRule) (accepts : String → Bool) {σ : Type}
      (host : Host (StateM σ)) (w : σ) (args : List String) (fresh : Id .rule),
      ((loadConfig host (Invocation.ofArgs args).configPath).ending w).1 = .ok c →
        ((Cli.run rules accepts host fresh args).ending w).1 ≠ .error .abort) := by
  refine ⟨bearable_iff, fun hbearable rules accepts σ host w args fresh hload => ?_⟩
  refine Bearable.run_ne_abort (fun c' hload' => ?_) fresh
  obtain rfl : c = c' := Except.ok.inj (hload.symm.trans hload')
  exact hbearable

/-- The defaults ask for no more than there can be, and a run without any file does not end at
once. -/
theorem bearable_exact_default :
    let fresh : Id .rule := ⟨"00000000-0000-4000-8000-000000000001", by decide⟩
    Config.default.Bearable ∧ (∃ tail, Tail.ofConfig? .default = some tail) ∧
      ((loadConfig Directory.host (Invocation.ofArgs ["tail"]).configPath).ending .empty).1 =
        .ok .default ∧
      ((Cli.run suffixRules Pattern.isPattern Directory.host fresh ["tail"]).ending .empty).1 ≠
        .error .abort := by
  intro fresh
  have hbearable : Config.default.Bearable := ⟨by decide, by decide⟩
  obtain ⟨htail, -⟩ := (bearable_exact .default).1.mp hbearable
  have hload : ((loadConfig Directory.host (Invocation.ofArgs ["tail"]).configPath).ending
      .empty).1 = .ok .default := rfl
  refine ⟨hbearable, htail, hload, ?_⟩
  exact (bearable_exact .default).2 hbearable suffixRules Pattern.isPattern Directory.host .empty
    ["tail"] fresh hload

/-- Two numbers that the reader of the configuration accepts, though both are too great: the log
cannot be looked at, and the store cannot be opened. -/
theorem unbearable_accepted :
    ∃ c, Config.parse ("[store]\nbusy_timeout_ms = 2147483648\n" ++
        "[logging]\nfault_sinks = ['memory']\nmemory_capacity = 9223372036854775807\n") = .ok c ∧
      Tail.ofConfig? c = none ∧ Store.open c.store (.store .empty) = .error .timeoutTooLong := by
  let store : StoreSettings := { StoreSettings.default with busyTimeoutMs := 2147483648 }
  let logging : LoggingSettings :=
    { LoggingSettings.default with faultSinks := ["memory"], memoryCapacity := 9223372036854775807 }
  refine ⟨⟨store, .default, .default, logging⟩, ?_, ?_, ?_⟩
  · decide +kernel
  · rfl
  · exact Store.open_eq_timeoutTooLong_iff.mpr ⟨by decide, by decide, by decide⟩

end Config

end ProxyPolicy
