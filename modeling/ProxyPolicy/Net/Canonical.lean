import ProxyPolicy.Net.Address
import ProxyPolicy.Net.HostPort
import ProxyPolicy.Net.Suffix

/-!
# Canonical hosts

The unit that domain rules are matched against. An address stands for itself, with or without a
port; a name is reduced to its registrable domain, marked by a leading dot; anything else is left as
it is. Which suffixes are public is for a list of rules to say, which is a parameter throughout.
-/

namespace ProxyPolicy.Net

/-- The address that a text writes on its own or with a port. -/
def addressOf? (host : List Char) : Option (List Char) :=
  if isAddress host then some host
  else
    match splitHostPort? host with
    | some (h, _) => if isAddress h then some h else none
    | none => none

/-- The matching unit of a host by a list of public suffixes: its address without the port, or a dot
and its registrable domain, or the host unchanged when it has neither. -/
def canonicalBy (rules : List SuffixRule) (host : List Char) : List Char :=
  match addressOf? host with
  | some address => address
  | none =>
    match registrable? rules host with
    | some domain => '.' :: domain
    | none => host

/-- The matching unit of a host by a list of public suffixes, as a text. -/
def canonicalize (rules : List SuffixRule) (host : String) : String :=
  String.ofList (canonicalBy rules host.toList)

end ProxyPolicy.Net
