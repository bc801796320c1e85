/-!
# Kinds of entities

The four kinds of things that the policy names by an identifier.
-/

namespace ProxyPolicy.Policy

/-- A kind of entity. -/
inductive Kind where
  /-- A set of sources that ACLs are granted to. -/
  | group
  /-- An address, or a pattern of addresses, that requests come from. -/
  | source
  /-- A list of rules. -/
  | acl
  /-- What to do with the requests that a value matches. -/
  | rule
  deriving DecidableEq, Repr

/-- The word for a kind in messages. -/
def Kind.name : Kind → String
  | group => "group"
  | source => "source"
  | acl => "acl"
  | rule => "rule"

end ProxyPolicy.Policy
