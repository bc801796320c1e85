import ProxyPolicy.Policy.Kind
import ProxyPolicy.Text.Quoted

/-!
# Policy errors

Why a call on the policy fails. The causes that lie with the caller are told apart from the faults
of the storage below (`Error.isClientError`); each cause has one message.

Two things are left out. What a reader of patterns has against a text is for the reader to word, so
that `badPattern` does not hold it, and its message ends where that would follow. And there is no
error for a lock that another thread has left behind in a panic: no call on the policy panics.
-/

namespace ProxyPolicy.Policy

open ProxyPolicy.Text

/-- A text that must not be left empty. -/
inductive Field where
  /-- The comment that names an ACL. -/
  | aclName
  /-- The comment that names a group. -/
  | groupName
  /-- The address of a source. -/
  | source
  /-- The type of a rule. -/
  | ruleType
  /-- The value of a rule. -/
  | ruleValue
  /-- The action of a rule. -/
  | ruleAction
  deriving DecidableEq, Repr

/-- The words for a field in messages. -/
def Field.name : Field → String
  | aclName => "ACL name"
  | groupName => "group name"
  | source => "source"
  | ruleType => "rule type"
  | ruleValue => "rule value"
  | ruleAction => "rule action"

/-- A stored text that does not have the form its column asks for. -/
inductive BadCell where
  /-- The text is no identifier. -/
  | id (kind : Kind) (text : String)
  /-- The text names no type of rule. -/
  | ruleType (text : String)
  /-- The text names no action. -/
  | ruleAction (text : String)
  deriving DecidableEq, Repr

/-- What is wrong with the stored text. -/
def BadCell.message : BadCell → String
  | id kind text => "stored " ++ kind.name ++ " ID " ++ quote text ++ " is malformed"
  | ruleType text => "unknown rule type " ++ quote text
  | ruleAction text => "unknown rule action " ++ quote text

/-- A fault of the storage. -/
inductive StorageFault where
  /-- Another connection is writing. -/
  | locked
  /-- The file holds something else than a store. -/
  | notAStore
  /-- There can be no file of this name. -/
  | cannotOpen (path : String)
  /-- The name of the file holds a NUL, at this octet. -/
  | nulInPath (position : Nat)
  /-- A statement has a token that cannot be read, from this octet on. -/
  | unrecognizedToken (token statement : String) (offset : Nat)
  /-- A row with the same values in these columns is there already. -/
  | repeatedKey (columns : String)
  /-- A row would name another row that is not there. -/
  | brokenReference
  /-- A text that was read does not decode; columns are counted from zero. -/
  | badCell (column : Nat) (cell : BadCell)
  deriving DecidableEq, Repr

namespace StorageFault

/-- What the storage reports. -/
def message : StorageFault → String
  | locked => "database is locked"
  | notAStore => "file is not a database"
  | cannotOpen path => "unable to open database file: " ++ path
  | nulInPath position => "nul byte found in provided data at position: " ++ toString position
  | unrecognizedToken token statement offset =>
    "unrecognized token: \"" ++ token ++ "\" in " ++ statement ++ " at offset " ++ toString offset
  | repeatedKey columns => "UNIQUE constraint failed: " ++ columns
  | brokenReference => "FOREIGN KEY constraint failed"
  | badCell column cell =>
    "Conversion error from type Text at index: " ++ toString column ++ ", " ++ cell.message

/-- Whether a statement was refused because the tables would not fit together after it. -/
def isConstraint : StorageFault → Bool
  | repeatedKey _ | brokenReference => true
  | _ => false

end StorageFault

/-- Why a call on the policy fails. -/
inductive Error where
  /-- A text is empty that must not be. -/
  | emptyField (field : Field)
  /-- A text names no type of rule. -/
  | unknownType (text : String)
  /-- A text names no action. -/
  | unknownAction (text : String)
  /-- The value of a rule is no pattern, though its type asks for one. -/
  | badPattern
  /-- A list names one entity twice. -/
  | repeated (kind : Kind) (id : String)
  /-- Identifiers and comments do not pair up. -/
  | lengthMismatch (kind : Kind) (ids comments : Nat)
  /-- A text is no identifier. -/
  | invalidId (kind : Kind) (text : String)
  /-- There is no such entity. -/
  | notFound (kind : Kind) (id : String)
  /-- An ACL still has rules, this many. -/
  | aclHasRules (acl : String) (rules : Nat)
  /-- A source is still a member of groups, this many. -/
  | sourceInUse (source : String) (groups : Nat)
  /-- The storage failed. -/
  | storage (fault : StorageFault)
  deriving DecidableEq, Repr

namespace Error

/-- The message of an error. -/
def message : Error → String
  | emptyField field => field.name ++ " must not be empty"
  | unknownType text => "unknown rule type " ++ quote text
  | unknownAction text => "unknown rule action " ++ quote text
  | badPattern => "invalid regex rule"
  | repeated kind id => kind.name ++ " " ++ id ++ " listed more than once"
  | lengthMismatch kind ids comments =>
    kind.name ++ " list and comment list length unequal. " ++ kind.name ++ "=" ++ toString ids ++
      " comment=" ++ toString comments
  | invalidId kind text => quote text ++ " is not a valid " ++ kind.name ++ " ID"
  | notFound kind id => kind.name ++ " " ++ quote id ++ " not found"
  | aclHasRules _ rules => "acl still has " ++ toString rules ++ " rules"
  | sourceInUse _ groups => "source still used by " ++ toString groups ++ " groups"
  | storage fault => "database error: " ++ fault.message

/-- Whether the caller caused the error. -/
def isClientError : Error → Bool
  | storage _ => false
  | _ => true

/-- The number of references that kept an entity from being deleted. -/
def blockingCount : Error → Option Nat
  | aclHasRules _ rules => some rules
  | sourceInUse _ groups => some groups
  | _ => none

end Error

end ProxyPolicy.Policy
