import ProxyPolicy.AccessLog.Entry
import ProxyPolicy.Event

/-!
# Fault sinks

Where the lines of the log that give no entry are reported: to the operator as events, or to a
memory of bounded size that forgets the oldest first.
-/

namespace ProxyPolicy

/-- A line that gives no entry, with the reason. The time at which it was observed is left out: it
decides nothing, and only a clock could say what it is. -/
structure Fault where
  /-- The line. -/
  line : String
  /-- The reason. -/
  reason : String
  deriving DecidableEq, Repr

/-- The fault of a line that cannot be read. -/
def Fault.ofError (e : AccessLog.LineError) : Fault := ⟨e.line, e.message⟩

/-- Where faults are reported. -/
inductive Sink where
  /-- The operator, in a form of this name. -/
  | console (format : String)
  /-- A memory of a capacity and the faults that it holds, the oldest first. -/
  | memory (capacity : Nat) (held : List Fault)
  deriving DecidableEq, Repr

namespace Sink

/-- The greatest capacity of a memory: room for all of it is taken when it is made, 64 octets for
each fault, and no more than `2 ^ 63 - 1` octets can be asked for. -/
def maxCapacity : Nat := 0x7fffffffffffffff / 64

/-- An empty memory of a capacity, unless that is too great. -/
def memory? (capacity : Nat) : Option Sink :=
  if capacity ≤ maxCapacity then some (memory capacity []) else none

/-- A sink after a fault. -/
def receive (fault : Fault) : Sink → Sink
  | console format => console format
  | memory capacity held =>
    if capacity = 0 then memory capacity held
    else memory capacity ((if capacity ≤ held.length then held.tail else held) ++ [fault])

/-- What the operator is told of a fault by a sink. -/
def events (fault : Fault) : Sink → List Event
  | console format =>
    [if format = "json" then .faultFields fault.line fault.reason else .faultReason fault.reason]
  | memory .. => []

/-- The faults that a sink holds, if it is a memory. -/
def held? : Sink → Option (List Fault)
  | console _ => none
  | memory _ held => some held

end Sink

end ProxyPolicy
