import ProxyPolicy.Fault.Logger
import ProxyPolicy.Text.Lines

/-!
# The tail of the log

The most recent entries of the access log, newest first. A snapshot looks at the last lines of the
log as it stands: empty lines are passed over and lines that give no entry are reported as faults.
The log is read as UTF-8, and octets that are none cannot spoil more than the line that they are in.
-/

namespace ProxyPolicy

open ProxyPolicy.AccessLog ProxyPolicy.Net ProxyPolicy.Text

/-- What the last lines of a log give. -/
structure Snapshot where
  /-- The entries, newest first. -/
  entries : List Entry
  /-- The faults, newest first. -/
  faults : List Fault
  /-- The number of lines that give no entry. -/
  dropped : Nat
  deriving DecidableEq, Repr

namespace Snapshot

/-- The entry of a line that has been read. -/
def entryOf? : Except LineError (Option Entry) → Option Entry
  | .ok e => e
  | .error _ => none

/-- The fault of a line that has been read. -/
def faultOf? : Except LineError (Option Entry) → Option Fault
  | .ok _ => none
  | .error e => some (.ofError e)

/-- The snapshot of the given lines. -/
def ofLines (rules : List SuffixRule) (lines : List String) : Snapshot :=
  let outcomes := lines.map (parse rules)
  ⟨outcomes.filterMap entryOf?, outcomes.filterMap faultOf?,
    outcomes.countP fun o => (entryOf? o).isNone⟩

/-- The last lines of a text, at most so many, the last first. -/
def lastLines (window : Nat) (text : List Char) : List String :=
  ((lines text).reverse.take window).map String.ofList

/-- The snapshot of a log that holds these octets, looking at so many lines. -/
def ofOctets (rules : List SuffixRule) (window : Nat) (octets : List UInt8) : Snapshot :=
  ofLines rules (lastLines window (Utf8.decodeLossy octets))

end Snapshot

/-- A view of the end of a log. -/
structure Tail where
  /-- The path of the log. -/
  path : String
  /-- The number of lines looked at. -/
  window : Nat
  /-- Where faults go. -/
  faults : FaultLogger
  deriving DecidableEq, Repr

namespace Tail

/-- The view that the configuration asks for, unless its sinks cannot be made. -/
def ofConfig? (c : Config) : Option Tail :=
  (fun faults => ⟨c.tail.log, c.tail.lines, faults⟩) <$> FaultLogger.ofSettings? c.logging

/-- What the operator is told when the view is made. -/
def setupEvents (c : Config) (t : Tail) : List Event :=
  FaultLogger.setupEvents c.logging ++ [.tailing t.path t.window t.faults.sinks.length]

/-- The message when the log cannot be read. -/
def unreadable (t : Tail) : String := "Failed to read access log " ++ t.path

/-- The view after the faults of a snapshot have been reported. -/
def report (t : Tail) (s : Snapshot) : Tail :=
  { t with faults := s.faults.foldl FaultLogger.report t.faults }

/-- What the operator is told of a snapshot. -/
def events (t : Tail) (s : Snapshot) : List Event :=
  s.faults.flatMap t.faults.events ++ [.produced s.entries.length s.dropped]

/-- Takes a snapshot of a log of these contents, if it can be read. -/
def recent (rules : List SuffixRule) (t : Tail) (contents : Option (List UInt8)) :
    Option Snapshot :=
  contents.map (Snapshot.ofOctets rules t.window)

end Tail

end ProxyPolicy
