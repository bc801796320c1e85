/-!
# Commands

What the arguments of the program ask for. A first argument that ends in `.toml` names the
configuration; then comes a command, and without one the log is shown.
-/

namespace ProxyPolicy.Cli

/-- What the program is asked to do. -/
inductive Command where
  /-- Show the recent entries of the log. -/
  | tail
  /-- Show the ACLs with their rules. -/
  | acls
  /-- Show the groups with their grants and members. -/
  | groups
  /-- Add a rule to the ACL that takes new rules. -/
  | allow (type value action : String)
  deriving DecidableEq, Repr

/-- The command that arguments give. What follows a command without arguments is ignored. -/
def Command.ofArgs? : List String → Option Command
  | [] | "tail" :: _ => some tail
  | "acls" :: _ => some acls
  | "groups" :: _ => some groups
  | ["allow", type, value, action] => some (allow type value action)
  | _ => none

/-- Whether a text ends in `.toml`. -/
def isConfigPath (arg : String) : Bool := ".toml".toList.isSuffixOf arg.toList

/-- The arguments of the program, told apart. -/
structure Invocation where
  /-- The path of the configuration. -/
  configPath : String
  /-- The command, or nothing if there is no such command. -/
  command : Option Command
  deriving DecidableEq, Repr

/-- Reads the arguments of the program. -/
def Invocation.ofArgs : List String → Invocation
  | [] => ⟨"config.toml", Command.ofArgs? []⟩
  | arg :: args =>
    if isConfigPath arg then ⟨arg, Command.ofArgs? args⟩
    else ⟨"config.toml", Command.ofArgs? (arg :: args)⟩

/-- What the operator is told who asks for no command that there is. -/
def usage : String :=
  "usage: proxy-acl [config.toml] <tail | acls | groups | allow <type> <value> <action>>"

end ProxyPolicy.Cli
