import ProxyPolicy.Policy.Opening
import ProxyPolicy.Policy.Snapshot

/-!
# Surroundings

What the program asks of its surroundings: files to read, and a store to open and to keep. The
program is written for any surroundings (`Host`); `Directory` is those in which nothing else
happens, one directory of files without directories in it.
-/

namespace ProxyPolicy.Cli

open ProxyPolicy.Policy ProxyPolicy.Text

/-- The surroundings of the program. -/
structure Host (m : Type → Type) where
  /-- Whether there is something at a path. -/
  pathExists : String → m Bool
  /-- The octets of the file at a path, if it can be read. -/
  readFile : String → m (Option (List UInt8))
  /-- What there is at the path of a store; where there is nothing and a store can be made, it is
  made. -/
  openStore : String → m Medium
  /-- Keeps the tables of the store at a path. -/
  saveStore : String → Tables → m Unit

/-- What a file that holds these octets is as a store. A file of at most one octet is an empty
store. -/
def mediumOfOctets (octets : List UInt8) : Medium :=
  if octets.length ≤ 1 then .store .empty
  else
    match (Utf8.decode? octets).bind Snapshot.read? with
    | some tables => .store tables
    | none => .foreign

/-- The octets of the file that keeps a store. -/
def octetsOfTables (t : Tables) : List UInt8 := Utf8.encode (Snapshot.write t)

/-! ## A directory -/

/-- What a file holds. -/
inductive Content where
  /-- Octets. -/
  | octets (bytes : List UInt8)
  /-- A store. -/
  | store (tables : Tables)
  deriving DecidableEq, Repr

/-- A directory: files with names. -/
structure Directory where
  /-- The files. -/
  files : List (String × Content)
  deriving DecidableEq, Repr

/-- The name of the file of the directory that a path leads to. Steps that stay where they are (`.`)
are left out; a path that leads out of the directory or ends in a directory leads to no file. -/
def fileName? (path : String) : Option String :=
  let steps := path.toList.splitOn '/'
  let isStay (step : List Char) : Bool := step == [] || step == ['.']
  if path.toList.contains '\x00' || steps.head? == some [] || steps.getLast?.any isStay then none
  else
    match steps.filter (!isStay ·) with
    | [name] => if name = ['.', '.'] then none else some (String.ofList name)
    | _ => none

/-- Whether a path leads to the directory itself. -/
def isDirectoryPath (path : String) : Bool :=
  let steps := path.toList.splitOn '/'
  steps.head? != some [] && steps.all fun step => step == [] || step == ['.']

namespace Directory

/-- No files. -/
def empty : Directory := ⟨[]⟩

/-- What the file at a path holds. -/
def get? (d : Directory) (path : String) : Option Content := do
  let name ← fileName? path
  (d.files.find? (·.1 = name)).map (·.2)

/-- The directory with other content in the file at a path. -/
def put (d : Directory) (path : String) (content : Content) : Directory :=
  match fileName? path with
  | none => d
  | some name => ⟨d.files.filter (·.1 ≠ name) ++ [(name, content)]⟩

/-- The octets of the file at a path. -/
def read? (d : Directory) (path : String) : Option (List UInt8) :=
  (d.get? path).map fun
    | .octets bytes => bytes
    | .store tables => octetsOfTables tables

/-- What there is at the path of a store. -/
def medium (d : Directory) (path : String) : Medium :=
  if isPrivatePath path then .store .empty
  else if (fileName? path).isNone then .unreachable
  else
    match d.get? path with
    | none => .store .empty
    | some (.octets bytes) => mediumOfOctets bytes
    | some (.store tables) => .store tables

/-- The directory in which the store at a path holds these tables. A private store leaves no
trace. -/
def save (d : Directory) (path : String) (tables : Tables) : Directory :=
  if isPrivatePath path then d else d.put path (.store tables)

/-- A directory as surroundings. -/
def host : Host (StateM Directory) where
  pathExists path := return isDirectoryPath path || ((← get).get? path).isSome
  readFile path := return (← get).read? path
  openStore path := do
    let medium := (← get).medium path
    match medium with
    | .store tables => modify (·.save path tables)
    | _ => pure ()
    return medium
  saveStore path tables := modify (·.save path tables)

end Directory

end ProxyPolicy.Cli
