import Mathlib.Data.List.DropRight
import ProxyPolicy.Fault.Logger
import ProxyPolicy.Proofs.List.Loops
import ProxyPolicy.Proofs.Tail.Snapshots

/-!
# What sinks hold and tell

A fault is reported to every sink of a logger. A memory keeps the faults that it has room for: it
stays within its capacity (`Sink.Fits`), and as long as it does, one more fault leaves it with the
last of its faults (`Sink.receive_eq_after`); so a run of reports leaves it with the last of all of
them, whatever the other sinks are (`FaultLogger.reportAll_eq`). A memory without room holds
nothing.

A logger is made from sinks, from the capacities of memories or from names. In all three cases its
memories are empty at first (`Sink.Fresh`), so that the memories of one configuration, which have
one capacity, hold the same faults at any time, and the one that is shown is like the others
(`FaultLogger.fanOut_exact`).
-/

namespace ProxyPolicy

/-! ## Lists -/

section Lists

variable {α : Type}

/-- The last elements of a list are as many as there are, up to the number asked for. -/
theorem length_rtake (xs : List α) (n : Nat) : (xs.rtake n).length = min n xs.length := by
  rw [List.rtake, List.length_drop]
  omega

/-- A list no longer than the number asked for is kept. -/
theorem rtake_of_length_le {xs : List α} {n : Nat} (h : xs.length ≤ n) :
    xs.rtake n = xs := by
  rw [List.rtake, Nat.sub_eq_zero_of_le h, List.drop_zero]

/-- The last elements are the same with others in front, if there are as many as asked for. -/
theorem rtake_append_of_le_length (xs : List α) {ys : List α} {n : Nat}
    (h : n ≤ ys.length) : (xs ++ ys).rtake n = ys.rtake n := by
  have hcut : (xs ++ ys).length - n = xs.length + (ys.length - n) := by
    rw [List.length_append]
    omega
  rw [List.rtake, hcut, List.drop_length_add_append, List.rtake]

/-- What is not among the last elements is not among them when others follow. -/
theorem rtake_rtake_append (xs ys : List α) (n : Nat) :
    (xs.rtake n ++ ys).rtake n = (xs ++ ys).rtake n := by
  rcases Nat.le_total xs.length n with hle | hle
  · rw [rtake_of_length_le hle]
  · -- What is dropped first stands in front of enough elements to be dropped at last.
    obtain ⟨front, hfront⟩ : xs.rtake n <:+ xs := List.drop_suffix _ xs
    have henough : n ≤ (xs.rtake n ++ ys).length := by
      rw [List.length_append, length_rtake]
      omega
    calc (xs.rtake n ++ ys).rtake n
        = (front ++ (xs.rtake n ++ ys)).rtake n := (rtake_append_of_le_length front henough).symm
      _ = (xs ++ ys).rtake n := by rw [← List.append_assoc, hfront]

end Lists

namespace Sink

/-! ## One sink -/

/-- Whether a memory holds no more than its capacity. -/
def Fits : Sink → Prop
  | console _ => True
  | memory capacity held => held.length ≤ capacity

/-- Whether a sink is one that can be made and has received nothing. -/
def Fresh (sink : Sink) : Prop :=
  (∃ format, sink = console format) ∨ ∃ capacity, memory? capacity = some sink

/-- A sink after some faults: a memory keeps the last of what it has held. -/
def after (faults : List Fault) : Sink → Sink
  | console format => console format
  | memory capacity held => memory capacity ((held ++ faults).rtake capacity)

/-- The form in which a sink tells the operator of faults, if it does. -/
def format? : Sink → Option String
  | console format => some format
  | memory .. => none

/-- What the operator is told of a fault in a form. -/
def consoleEvent (fault : Fault) (format : String) : Event :=
  if format = "json" then .faultFields fault.line fault.reason else .faultReason fault.reason

variable {sink : Sink}

/-- A sink that is just made holds no more than its capacity. -/
theorem Fresh.fits (h : sink.Fresh) : sink.Fits := by
  rcases h with ⟨format, rfl⟩ | ⟨capacity, hmemory⟩
  · exact trivial
  · unfold memory? at hmemory
    split_ifs at hmemory
    obtain rfl := Option.some.inj hmemory
    exact Nat.zero_le capacity

/-- After any faults, a memory holds no more than its capacity. -/
theorem fits_after (faults : List Fault) (sink : Sink) : (sink.after faults).Fits := by
  cases sink with
  | console format => exact trivial
  | memory capacity held =>
    change ((held ++ faults).rtake capacity).length ≤ capacity
    rw [length_rtake]
    exact Nat.min_le_left _ _

/-- Without faults, a sink stays as it is. -/
theorem after_nil (h : sink.Fits) : sink.after [] = sink := by
  cases sink with
  | console format => rfl
  | memory capacity held => rw [after, List.append_nil, rtake_of_length_le h]

/-- Faults that come in two parts leave a sink as they do together. -/
theorem after_after (sink : Sink) (earlier later : List Fault) :
    (sink.after earlier).after later = sink.after (earlier ++ later) := by
  cases sink with
  | console format => rfl
  | memory capacity held => rw [after, after, after, rtake_rtake_append, List.append_assoc]

/-- One fault leaves a sink with the last of what it has held: a memory that is full forgets the
oldest fault before it takes the new one, and a memory without room takes none. -/
theorem receive_eq_after (h : sink.Fits) (fault : Fault) :
    sink.receive fault = sink.after [fault] := by
  cases sink with
  | console format => rfl
  | memory capacity held =>
    replace h : held.length ≤ capacity := h
    rw [receive, after]
    by_cases hzero : capacity = 0
    · -- Without room nothing is held, neither before nor after.
      subst hzero
      obtain rfl := List.eq_nil_of_length_eq_zero (Nat.le_zero.mp h)
      rfl
    · -- The new fault takes one place, and the old ones have what is left of the room.
      obtain ⟨room, rfl⟩ := Nat.exists_eq_succ_of_ne_zero hzero
      rw [if_neg hzero, List.rtake_concat_succ]
      congr 2
      by_cases hfull : room + 1 ≤ held.length
      · have hcut : held.length - room = 1 := by omega
        rw [if_pos hfull, List.rtake, hcut, List.drop_one]
      · rw [if_neg hfull, rtake_of_length_le (by omega)]

/-- A sink tells of a fault once if it tells the operator, and not at all if it is a memory. -/
theorem events_eq (fault : Fault) (sink : Sink) :
    sink.events fault = (sink.format?.map (consoleEvent fault)).toList := by
  cases sink <;> rfl

end Sink

namespace FaultLogger

/-! ## Runs of reports -/

/-- Faults reported one after the other: what the operator is told of each, and the logger at the
end. -/
def reportAll (l : FaultLogger) : List Fault → List (List Event) × FaultLogger
  | [] => ([], l)
  | fault :: faults =>
    let (told, last) := (l.report fault).reportAll faults
    (l.events fault :: told, last)

/-- Whether all memories hold no more than their capacities. -/
def Fits (l : FaultLogger) : Prop := ∀ sink ∈ l.sinks, sink.Fits

/-- The operator is told of a fault once by each sink that tells of faults, in the order of the
sinks. -/
theorem events_eq (l : FaultLogger) (fault : Fault) :
    l.events fault = (l.sinks.filterMap Sink.format?).map (Sink.consoleEvent fault) := by
  unfold events
  rw [List.map_filterMap, List.filterMap_eq_flatMap_toList]
  congr 1
  funext sink
  exact sink.events_eq fault

variable {l : FaultLogger}

/-- One report leaves each sink with the last of what it has held. -/
theorem sinks_report (h : l.Fits) (fault : Fault) :
    (l.report fault).sinks = l.sinks.map (Sink.after [fault]) :=
  List.map_congr_left fun sink hsink => Sink.receive_eq_after (h sink hsink) fault

/-- One report keeps all memories within their capacities. -/
theorem Fits.report (h : l.Fits) (fault : Fault) : (l.report fault).Fits := by
  unfold Fits
  rw [sinks_report h, List.forall_mem_map]
  exact fun sink _ => sink.fits_after [fault]

/-- A run of reports tells of each fault what the logger tells of it at first, and leaves each sink
with the last of what it has held. -/
theorem reportAll_eq (h : l.Fits) (faults : List Fault) :
    l.reportAll faults = (faults.map l.events, ⟨l.sinks.map (Sink.after faults)⟩) := by
  -- The induction is on the faults, for all loggers at once: each report changes the sinks.
  induction faults generalizing l with
  | nil =>
    have hsame : l.sinks.map (Sink.after []) = l.sinks :=
      (List.map_congr_left fun sink hsink => Sink.after_nil (h sink hsink)).trans
        (List.map_id l.sinks)
    rw [reportAll, hsame]
    rfl
  | cons fault faults ih =>
    have htold : (l.report fault).events = l.events := funext (l.events_report fault)
    have hsinks : (l.report fault).sinks.map (Sink.after faults) =
        l.sinks.map (Sink.after (fault :: faults)) := by
      rw [sinks_report h, List.map_map]
      exact List.map_congr_left fun sink _ => sink.after_after [fault] faults
    rw [reportAll, ih (h.report fault), htold, hsinks]
    rfl

/-- The logger at the end of a run is the one that the reports lead to step by step. -/
theorem reportAll_snd (l : FaultLogger) (faults : List Fault) :
    (l.reportAll faults).2 = faults.foldl report l := by
  induction faults generalizing l with
  | nil => rfl
  | cons fault faults ih => exact ih (l.report fault)

/-! ## Making a logger -/

/-- Whether a name of the configuration names a sink. -/
def IsKnown (name : String) : Bool := name = "console" || name = "memory"

/-- The sink that a name stands for, as it is made. -/
def named? (settings : LoggingSettings) (name : String) : Option Sink :=
  if name = "console" then some (.console settings.format)
  else if name = "memory" then some (.memory settings.memoryCapacity [])
  else none

/-- A configuration whose memories can be made gives a logger with the sinks that its names stand
for. -/
theorem ofSettings?_eq_some {settings : LoggingSettings}
    (h : "memory" ∈ settings.faultSinks → settings.memoryCapacity ≤ Sink.maxCapacity) :
    ofSettings? settings = some ⟨settings.faultSinks.filterMap (named? settings)⟩ := by
  have hstep : ∀ name ∈ settings.faultSinks,
      sinksOf? settings name = some (named? settings name).toList := by
    intro name hname
    unfold sinksOf? named? Sink.memory?
    by_cases hconsole : name = "console"
    · simp [hconsole]
    · by_cases hmemory : name = "memory"
      · simp [hmemory, h (hmemory ▸ hname)]
      · simp [hconsole, hmemory]
  unfold ofSettings?
  rw [mapM_eq_some_map hstep, List.filterMap_eq_flatMap_toList, List.flatMap_def]
  rfl

/-- Memories whose capacities are in bounds give a logger with these memories. -/
theorem ofCapacities?_eq_some {capacities : List Nat}
    (h : ∀ capacity ∈ capacities, capacity ≤ Sink.maxCapacity) :
    ofCapacities? capacities = some ⟨capacities.map (Sink.memory · [])⟩ := by
  have hstep : ∀ capacity ∈ capacities,
      Sink.memory? capacity = some (Sink.memory capacity []) :=
    fun capacity hcapacity => if_pos (h capacity hcapacity)
  rw [ofCapacities?, mapM_eq_some_map hstep]
  rfl

/-- The memory of a capacity in bounds is one that can be made. -/
theorem fresh_memory {capacity : Nat} (h : capacity ≤ Sink.maxCapacity) :
    (Sink.memory capacity []).Fresh :=
  .inr ⟨capacity, if_pos h⟩

/-- A name that means something stands for one sink, and the others for none. -/
theorem isSome_named? (settings : LoggingSettings) (name : String) :
    (named? settings name).isSome = IsKnown name := by
  unfold named? IsKnown
  by_cases hconsole : name = "console" <;> by_cases hmemory : name = "memory" <;>
    simp [hconsole, hmemory]

/-- The sinks that names stand for can be made if the capacity of memories is in bounds. -/
theorem fresh_of_named? {settings : LoggingSettings} {name : String} {sink : Sink}
    (h : name = "memory" → settings.memoryCapacity ≤ Sink.maxCapacity)
    (hsink : named? settings name = some sink) : sink.Fresh := by
  unfold named? at hsink
  split_ifs at hsink with hconsole hmemory
  · obtain rfl := Option.some.inj hsink
    exact .inl ⟨settings.format, rfl⟩
  · obtain rfl := Option.some.inj hsink
    exact fresh_memory (h hmemory)

/-- After a run of reports, the memories of one configuration hold the same faults: the last ones
up to the capacity. -/
theorem memories_named (settings : LoggingSettings) (names : List String) (faults : List Fault) :
    memories ⟨(names.filterMap (named? settings)).map (Sink.after faults)⟩ =
      List.replicate (names.count "memory") (faults.rtake settings.memoryCapacity) := by
  unfold memories
  induction names with
  | nil => rfl
  | cons name names ih =>
    by_cases hmemory : name = "memory"
    · subst hmemory
      rw [List.count_cons_self, List.replicate_succ, ← ih]
      rfl
    · rw [List.count_cons_of_ne hmemory, ← ih]
      by_cases hconsole : name = "console"
      · subst hconsole
        rfl
      · have hnone : named? settings name = none := by simp [named?, hconsole, hmemory]
        rw [List.filterMap_cons_none hnone]

/-! ## Faults reported to all sinks -/

/-- What becomes of sinks, and what the operator is told, when faults are reported one after the
other. -/
structure FannedOut (sinks : List Sink) (faults : List Fault) (told : List (List Event))
    (last : List Sink) : Prop where
  /-- No sink is lost and none is added. -/
  length : last.length = sinks.length
  /-- A memory that was empty holds the last faults, the oldest first: as many as there are, but no
  more than its capacity. -/
  memory : ∀ (i capacity : Nat), sinks[i]? = some (Sink.memory capacity []) →
    ∃ held, last[i]? = some (Sink.memory capacity held) ∧ held <:+ faults ∧
      held.length = min capacity faults.length
  /-- A sink that tells the operator stays as it is. -/
  console : ∀ (i : Nat) (format : String), sinks[i]? = some (Sink.console format) →
    last[i]? = some (Sink.console format)
  /-- The operator is told of each fault once by each such sink, in the order of the sinks. -/
  told : told = faults.map fun fault =>
    (sinks.filterMap Sink.format?).map (Sink.consoleEvent fault)

/-- Faults reported to sinks that are just made are fanned out to all of them. -/
theorem fannedOut_of_fresh {sinks : List Sink} (h : ∀ sink ∈ sinks, sink.Fresh)
    (faults : List Fault) :
    FannedOut sinks faults (reportAll ⟨sinks⟩ faults).1 (reportAll ⟨sinks⟩ faults).2.sinks := by
  have hfits : (FaultLogger.mk sinks).Fits := fun sink hsink => (h sink hsink).fits
  rw [reportAll_eq hfits]
  refine ⟨List.length_map .., ?_, ?_, ?_⟩
  · intro i capacity hi
    refine ⟨faults.rtake capacity, ?_, List.drop_suffix _ faults, length_rtake faults capacity⟩
    rw [List.getElem?_map, hi]
    rfl
  · intro i format hi
    rw [List.getElem?_map, hi]
    rfl
  · exact List.map_congr_left fun fault _ => events_eq ⟨sinks⟩ fault

/-- What a logger does with faults, however it is made. Faults reported to any sinks that can be
made are fanned out to all of them: each memory holds the last faults up to its own capacity, and
the operator is told of each fault by each sink that tells of faults. Memories of any capacities in
bounds can be made, and so can the sinks of any names if the capacity of the memories among them is
in bounds. A logger has one sink for each name that means something, as often as the name is there;
and after any faults all its memories hold the same, which is what the one that is shown holds. -/
theorem fanOut_exact :
    (∀ sinks faults, (∀ sink ∈ sinks, Sink.Fresh sink) →
      FannedOut sinks faults (reportAll ⟨sinks⟩ faults).1 (reportAll ⟨sinks⟩ faults).2.sinks) ∧
    (∀ capacities, (∀ capacity ∈ capacities, capacity ≤ Sink.maxCapacity) →
      ofCapacities? capacities = some ⟨capacities.map (Sink.memory · [])⟩ ∧
        ∀ sink ∈ capacities.map (Sink.memory · []), sink.Fresh) ∧
    ∀ settings, ("memory" ∈ settings.faultSinks → settings.memoryCapacity ≤ Sink.maxCapacity) →
      ∃ l, ofSettings? settings = some l ∧ (∀ sink ∈ l.sinks, sink.Fresh) ∧
        l.sinks = settings.faultSinks.filterMap (named? settings) ∧
        l.sinks.length = settings.faultSinks.countP IsKnown ∧
        ∀ faults, ∃ last, (l.reportAll faults).2 = last ∧
          last.memories.length = settings.faultSinks.count "memory" ∧
          (∀ held ∈ last.memories, last.lastMemory? = some held) ∧
          (last.lastMemory? = none ↔ "memory" ∉ settings.faultSinks) := by
  refine ⟨fun sinks faults h => fannedOut_of_fresh h faults, ?_, ?_⟩
  · intro capacities h
    refine ⟨ofCapacities?_eq_some h, ?_⟩
    rw [List.forall_mem_map]
    exact fun capacity hcapacity => fresh_memory (h capacity hcapacity)
  · intro settings h
    have hfresh : ∀ sink ∈ settings.faultSinks.filterMap (named? settings), sink.Fresh := by
      intro sink hsink
      obtain ⟨name, hname, hnamed⟩ := List.mem_filterMap.mp hsink
      exact fresh_of_named? (fun heq => h (heq ▸ hname)) hnamed
    have hcount : (settings.faultSinks.filterMap (named? settings)).length =
        settings.faultSinks.countP IsKnown := by
      rw [List.length_filterMap_eq_countP]
      exact List.countP_congr fun name _ => by rw [isSome_named?]
    refine ⟨_, ofSettings?_eq_some h, hfresh, rfl, hcount, fun faults => ⟨_, rfl, ?_⟩⟩
    have hlast := reportAll_eq (l := ⟨settings.faultSinks.filterMap (named? settings)⟩)
      (fun sink hsink => (hfresh sink hsink).fits) faults
    have hmemories := memories_named settings settings.faultSinks faults
    rw [hlast, lastMemory?, hmemories]
    refine ⟨List.length_replicate .., ?_, ?_⟩
    · intro held hheld
      obtain ⟨hne, rfl⟩ := List.mem_replicate.mp hheld
      rw [List.getLast?_replicate, if_neg hne]
    · rw [List.getLast?_eq_none_iff, List.replicate_eq_nil_iff, List.count_eq_zero]

/-- A memory without room, the operator and a memory of two faults, and a configuration with two
memories of two faults and a name that means nothing, after three faults. -/
theorem fanOut_exact_three :
    let faults : List Fault := [⟨"a", "bad"⟩, ⟨"b", "bad"⟩, ⟨"c", "bad"⟩]
    let sinks : List Sink := [.memory 0 [], .console "json", .memory 2 []]
    let settings : LoggingSettings := ⟨"info", "text", ["console", "memory", "syslog", "memory"], 2⟩
    (∀ sink ∈ sinks, sink.Fresh) ∧
      FannedOut sinks faults [[.faultFields "a" "bad"], [.faultFields "b" "bad"],
        [.faultFields "c" "bad"]] [.memory 0 [], .console "json", .memory 2 (faults.drop 1)] ∧
      ofCapacities? [0, 2] = some ⟨[.memory 0 [], .memory 2 []]⟩ ∧
      ("memory" ∈ settings.faultSinks → settings.memoryCapacity ≤ Sink.maxCapacity) ∧
      ∃ l, ofSettings? settings = some l ∧ l.sinks.length = 3 ∧
        (l.reportAll faults).2.memories.length = 2 ∧
        (l.reportAll faults).2.lastMemory? = some (faults.drop 1) := by
  intro faults sinks settings
  obtain ⟨hsinks, hcapacities, hsettings⟩ := fanOut_exact
  have hfresh : ∀ sink ∈ sinks, sink.Fresh := by
    simp only [sinks, List.forall_mem_cons]
    exact ⟨fresh_memory (by decide), .inl ⟨"json", rfl⟩, fresh_memory (by decide), by simp⟩
  have hbounds : ∀ capacity ∈ [0, 2], capacity ≤ Sink.maxCapacity := by decide
  have hroom : "memory" ∈ settings.faultSinks → settings.memoryCapacity ≤ Sink.maxCapacity :=
    fun _ => by decide
  obtain ⟨l, hl, -, hnames, hlength, hlast⟩ := hsettings settings hroom
  obtain ⟨last, rfl, hmemories, hshown, -⟩ := hlast faults
  have hmade : l = ⟨[.console "text", .memory 2 [], .memory 2 []]⟩ := congrArg mk hnames
  have hheld : faults.drop 1 ∈ (l.reportAll faults).2.memories := by
    rw [hmade]
    decide
  exact ⟨hfresh, hsinks sinks faults hfresh, (hcapacities [0, 2] hbounds).1, hroom, l, hl, hlength,
    hmemories, hshown _ hheld⟩

end FaultLogger

/-- The faults of a snapshot are reported one after the other. -/
theorem Tail.faults_report (t : Tail) (s : Snapshot) :
    (t.report s).faults = (t.faults.reportAll s.faults).2 :=
  (t.faults.reportAll_snd s.faults).symm

end ProxyPolicy
