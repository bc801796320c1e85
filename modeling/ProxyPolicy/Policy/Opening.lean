import ProxyPolicy.Config
import ProxyPolicy.Policy.Store
import ProxyPolicy.Text.Utf8

/-!
# Opening the store

What comes of opening the store that the settings name, given what there is at its path. A store
that is opened for the first time is empty. The storage is told in which mode to keep its journal,
and a mode with a NUL keeps the store from opening; what a mode may change later on is said at
`Store.write`.
-/

namespace ProxyPolicy.Policy

open ProxyPolicy.Text

/-- What there is at a path. -/
inductive Medium where
  /-- Nothing, and nothing can be made there. -/
  | unreachable
  /-- Something that is no store. -/
  | foreign
  /-- A store; one that did not exist is empty. -/
  | store (tables : Tables)
  deriving DecidableEq, Repr

/-- Why a store cannot be opened. -/
inductive OpenFailure where
  /-- The storage reports a fault. -/
  | fault (fault : StorageFault)
  /-- The time to wait for other connections is more than the storage can be told; this ends the
  program. -/
  | timeoutTooLong
  deriving DecidableEq, Repr

/-- The longest time to wait for other connections, in milliseconds. -/
def maxBusyTimeoutMs : Nat := 0x7fffffff

/-- Whether a path means a private store in memory, which ends with the connection. -/
def isPrivatePath (path : String) : Bool := path = "" || path = ":memory:"

/-- The octet at which the first NUL of a path stands. -/
def nulPosition? (path : String) : Option Nat :=
  if path.toList.contains '\x00' then
    some (Utf8.encode (path.toList.takeWhile (· != '\x00'))).length
  else none

/-- How the statement begins that tells the storage the mode of its journal. -/
def journalStatement : String := "PRAGMA journal_mode="

/-- A text as a literal of a statement: between quotes, with those in it doubled. -/
def sqlLiteral (text : String) : List Char :=
  ['\x27'] ++ text.toList.flatMap (fun c => if c = '\x27' then [c, c] else [c]) ++ ['\x27']

/-- What the storage has against the mode of its journal. It reads a statement up to its first NUL,
so that a literal with one has no end; any other mode is taken or passed over. -/
def journalFault? (mode : String) : Option StorageFault :=
  if mode.toList.contains '\x00' then
    let literal := sqlLiteral mode
    some (.unrecognizedToken (String.ofList (literal.takeWhile (· != '\x00')))
      (journalStatement ++ String.ofList literal) journalStatement.length)
  else none

/-- Opens the store that the settings name. Whether there can be a file is seen first, and what it
holds last. -/
def Store.open (settings : StoreSettings) (medium : Medium) : Except OpenFailure Store :=
  match nulPosition? settings.path with
  | some position => .error (.fault (.nulInPath position))
  | none =>
    if medium = .unreachable then .error (.fault (.cannotOpen settings.path))
    else if maxBusyTimeoutMs < settings.busyTimeoutMs then .error .timeoutTooLong
    else
      match journalFault? settings.journalMode with
      | some fault => .error (.fault fault)
      | none =>
        match medium with
        | .store tables => .ok ⟨tables, false⟩
        | _ => .error (.fault .notAStore)

end ProxyPolicy.Policy
