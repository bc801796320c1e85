import ProxyPolicy.AccessLog.Line
import ProxyPolicy.AccessLog.Target
import ProxyPolicy.Net.Canonical
import ProxyPolicy.Text.Quoted
import ProxyPolicy.Time.Instant

/-!
# Log entries

What a line of the access log says about one request. A line is blank, gives a whole entry, or is
refused whole with the reason (`parse`). Hosts are grouped by a list of public suffixes.
-/

namespace ProxyPolicy.AccessLog

open ProxyPolicy.Net ProxyPolicy.Text ProxyPolicy.Time

/-- One request. -/
structure Entry where
  /-- When the request ended. -/
  time : Instant
  /-- The client that made it. -/
  client : String
  /-- Its method. -/
  method : String
  /-- The matching unit of its host. -/
  domain : String
  /-- Its host, in lower case and without a port. -/
  host : String
  /-- The path of its URL; empty for a tunnel. -/
  path : String
  /-- The target as logged. -/
  url : String
  /-- The type of the content. -/
  contentType : String
  deriving DecidableEq, Repr

/-- Why a line gives no entry. -/
inductive LineError where
  /-- The line has not the log's form. -/
  | malformed (line : String)
  /-- The line has the form, but its time denotes no instant. -/
  | badEpoch (value line : String)
  deriving DecidableEq, Repr

namespace LineError

/-- The line that gives no entry. -/
def line : LineError → String
  | malformed line => line
  | badEpoch _ line => line

/-- The reason, for an operator. -/
def message : LineError → String
  | malformed line => "bad log line: " ++ quote line
  | badEpoch value line => "failed to parse epoch time " ++ quote value ++ " in line " ++ quote line

end LineError

/-- The entry that the fields of a line make, once the time is known. -/
def Entry.ofFields (rules : List SuffixRule) (time : Instant) (f : Fields) : Entry :=
  let target := Target.ofText f.target
  { time
    client := String.ofList f.client
    method := String.ofList f.method
    domain := String.ofList (canonicalBy rules target.host)
    host := String.ofList target.host
    path := String.ofList target.path
    url := String.ofList f.target
    contentType := String.ofList f.contentType }

/-- Reads one line: nothing when it is empty, or its entry, or the reason why it has none. -/
def parse (rules : List SuffixRule) (line : String) : Except LineError (Option Entry) :=
  if line.isEmpty then .ok none
  else
    match fields? line.toList with
    | none => .error (.malformed line)
    | some f =>
      match Instant.ofText? f.epoch with
      | none => .error (.badEpoch (String.ofList f.epoch) line)
      | some time => .ok (some (Entry.ofFields rules time f))

end ProxyPolicy.AccessLog
