import ProxyPolicy.Policy.Error

/-!
# The vocabulary of rules

How a rule's value is matched and what is done with a request that it matches. Each word has one
spelling, which is exact.
-/

namespace ProxyPolicy.Policy

/-- How a rule's value is matched against a request. -/
inductive RuleType where
  /-- The domain of the request. -/
  | domain
  /-- The domain of a tunnel. -/
  | httpsDomain
  /-- The whole URL. -/
  | exact
  /-- A pattern over the URL. -/
  | regex
  deriving DecidableEq, Repr

namespace RuleType

/-- The spelling of a type. -/
def text : RuleType → String
  | domain => "domain"
  | httpsDomain => "https-domain"
  | exact => "exact"
  | regex => "regex"

/-- All types, in the order in which they are offered. -/
def all : List RuleType := [domain, httpsDomain, regex, exact]

/-- The type that a text spells. -/
def ofText? (s : String) : Option RuleType := all.find? (·.text = s)

/-- Reads a type that a caller gave. -/
def parse (s : String) : Except Error RuleType :=
  match ofText? s with
  | some t => .ok t
  | none => .error (.unknownType s)

end RuleType

/-- What the proxy does with a matching request. -/
inductive RuleAction where
  /-- Lets it pass. -/
  | allow
  /-- Refuses it. -/
  | block
  /-- Leaves it out of the activity view. -/
  | ignore
  deriving DecidableEq, Repr

namespace RuleAction

/-- The spelling of an action. -/
def text : RuleAction → String
  | allow => "allow"
  | block => "block"
  | ignore => "ignore"

/-- All actions, in the order in which they are offered. -/
def all : List RuleAction := [allow, block, ignore]

/-- The action that a text spells. -/
def ofText? (s : String) : Option RuleAction := all.find? (·.text = s)

/-- Reads an action that a caller gave. -/
def parse (s : String) : Except Error RuleAction :=
  match ofText? s with
  | some a => .ok a
  | none => .error (.unknownAction s)

end RuleAction

end ProxyPolicy.Policy
