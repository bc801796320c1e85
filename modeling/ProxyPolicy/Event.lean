/-!
# Events

What the program tells its operator while it runs. An event has a level and named texts; most have
one text only, their message. Texts that only a clock can give are left out.
-/

namespace ProxyPolicy

/-- How much an event matters. -/
inductive Level where
  /-- Of interest when looking for an error. -/
  | debug
  /-- Of interest to an operator. -/
  | info
  /-- Something is amiss. -/
  | warn
  deriving DecidableEq, Repr

/-- Something that an operator is told. -/
inductive Event where
  /-- The configuration names a sink that there is not. -/
  | unknownSink (name : String)
  /-- The log of this path is going to be shown. -/
  | tailing (path : String) (lines sinks : Nat)
  /-- A line of the log gives no entry; only the reason is told. -/
  | faultReason (reason : String)
  /-- A line of the log gives no entry; the line and the reason are told, and beside them the time
  at which it was observed, which is left out. -/
  | faultFields (line reason : String)
  /-- A snapshot of the log has been taken. -/
  | produced (entries dropped : Nat)
  deriving DecidableEq, Repr

namespace Event

/-- The level of an event. -/
def level : Event → Level
  | tailing .. => .info
  | produced .. => .debug
  | _ => .warn

/-- The named texts of an event. -/
def fields : Event → List (String × String)
  | unknownSink name => [("message", "Unknown fault sink type: " ++ name)]
  | tailing path lines sinks =>
    [("message", "Tailing " ++ path ++ " (" ++ toString lines ++ " lines, " ++ toString sinks ++
      " fault sinks)")]
  | faultReason reason => [("message", "Parsing log entry: " ++ reason)]
  | faultFields line reason => [("line", line), ("reason", reason)]
  | produced entries dropped =>
    [("message", "Tail produced " ++ toString entries ++ " entries (" ++ toString dropped ++
      " lines dropped)")]

end Event

end ProxyPolicy
