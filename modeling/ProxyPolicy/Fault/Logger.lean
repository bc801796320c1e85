import ProxyPolicy.Config
import ProxyPolicy.Fault.Sink

/-!
# The fault logger

A list of sinks to all of which every fault is reported, in order. It is made from the names of
sinks in the configuration; a name that means nothing is told to the operator and left out.
-/

namespace ProxyPolicy

/-- The sinks that faults are reported to. -/
structure FaultLogger where
  /-- The sinks, in the order in which they are reported to. -/
  sinks : List Sink
  deriving DecidableEq, Repr

namespace FaultLogger

/-- A logger with memories of these capacities, unless one is too great. -/
def ofCapacities? (capacities : List Nat) : Option FaultLogger :=
  FaultLogger.mk <$> capacities.mapM Sink.memory?

/-- The sinks of a name: one, or none if the name means nothing, or failure if the memory cannot be
made. -/
def sinksOf? (settings : LoggingSettings) (name : String) : Option (List Sink) :=
  if name = "console" then some [.console settings.format]
  else if name = "memory" then (Sink.memory? settings.memoryCapacity).map ([·])
  else some []

/-- What the operator is told of a name. -/
def eventsOf (name : String) : List Event :=
  if name = "console" ∨ name = "memory" then [] else [.unknownSink name]

/-- The logger that the settings ask for, unless its memory cannot be made. -/
def ofSettings? (settings : LoggingSettings) : Option FaultLogger :=
  (fun sinks => ⟨sinks.flatten⟩) <$> settings.faultSinks.mapM (sinksOf? settings)

/-- What the operator is told when a logger is made. -/
def setupEvents (settings : LoggingSettings) : List Event := settings.faultSinks.flatMap eventsOf

/-- A logger after a fault. -/
def report (l : FaultLogger) (fault : Fault) : FaultLogger := ⟨l.sinks.map (·.receive fault)⟩

/-- What the operator is told of a fault. -/
def events (l : FaultLogger) (fault : Fault) : List Event := l.sinks.flatMap (·.events fault)

/-- The faults in each memory. -/
def memories (l : FaultLogger) : List (List Fault) := l.sinks.filterMap Sink.held?

/-- The faults in the last memory, if there is one. -/
def lastMemory? (l : FaultLogger) : Option (List Fault) := l.memories.getLast?

end FaultLogger

end ProxyPolicy
