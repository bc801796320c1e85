import ProxyPolicy.Cli.Program
import ProxyPolicy.Net.SuffixRules
import ProxyPolicy.Pattern.Grammar

/-!
# The command line

The program on a real machine. The store is kept as a snapshot of its tables, and the identifier of
a new rule is drawn at random. Hosts are grouped by `Net.suffixRules`, and patterns are those that
`Pattern.isPattern` takes.
-/

namespace ProxyPolicy.Cli

open ProxyPolicy.Policy

/-- The octets of the file at a path, if it can be read. -/
def readOctets (path : String) : IO (Option (List UInt8)) := do
  try
    return some (← IO.FS.readBinFile path).toList
  catch _ => return none

/-- Keeps tables in the file at a path. -/
def saveTables (path : String) (tables : Tables) : IO Unit :=
  if isPrivatePath path then return
  else IO.FS.writeBinFile path (ByteArray.mk (octetsOfTables tables).toArray)

/-- What there is at the path of a store; a store that is missing is made. -/
def openTables (path : String) : IO Medium := do
  if isPrivatePath path then return .store .empty
  match ← readOctets path with
  | some octets => return mediumOfOctets octets
  | none =>
    try
      saveTables path .empty
      return .store .empty
    catch _ => return .unreachable

/-- The machine that the program runs on. -/
def machine : Host IO where
  pathExists path := do
    try
      discard (IO.FS.Handle.mk path .read)
      return true
    catch _ => return false
  readFile := readOctets
  openStore := openTables
  saveStore := saveTables

/-- A random identifier of a rule, with the bits set that mark it as random. -/
def randomText : IO String := do
  let high ← IO.rand 0 0xffffffffffff
  let middle ← IO.rand 0 0xfff
  let low ← IO.rand 0 0x3fffffffffffffff
  let lowest : Nat := 0x40008000000000000000
  return Id.textOfNat (high * Nat.pow 2 80 + middle * Nat.pow 2 64 + low + lowest)

end ProxyPolicy.Cli

open ProxyPolicy ProxyPolicy.Cli in
/-- Runs the program. -/
def main (args : List String) : IO UInt32 := do
  match ProxyPolicy.Policy.Id.parse .rule (← randomText) with
  | .error e => throw (IO.userError e.message)
  | .ok fresh =>
    let run := run Net.suffixRules Pattern.isPattern machine fresh args
    let outcome := Outcome.ofResult (← run.run)
    IO.print outcome.output
    match outcome.error with
    | some text => IO.eprintln text
    | none => pure ()
    return outcome.code.toUInt32
