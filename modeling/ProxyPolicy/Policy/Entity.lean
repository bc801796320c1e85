import ProxyPolicy.Policy.Id
import ProxyPolicy.Policy.Vocabulary

/-!
# Entities

What the policy consists of, as a reader sees it: sources, groups, ACLs and rules. A comment that
was never given reads as the empty text.
-/

namespace ProxyPolicy.Policy

/-- Where requests come from. -/
structure Source where
  /-- Its identifier. -/
  id : Id .source
  /-- The address. -/
  source : String
  /-- A comment. -/
  comment : String
  deriving DecidableEq

/-- A set of sources. -/
structure Group where
  /-- Its identifier. -/
  id : Id .group
  /-- Its name. -/
  comment : String
  deriving DecidableEq

/-- A list of rules. -/
structure Acl where
  /-- Its identifier. -/
  id : Id .acl
  /-- Its name. -/
  comment : String
  deriving DecidableEq

/-- What a rule says; all of it can be edited. -/
structure RuleFields where
  /-- How the value is matched. -/
  type : RuleType
  /-- The value. -/
  value : String
  /-- What is done with a match. -/
  action : RuleAction
  /-- A comment. -/
  comment : String
  deriving DecidableEq, Repr

/-- A rule. -/
structure Rule where
  /-- Its identifier. -/
  id : Id .rule
  /-- What it says. -/
  fields : RuleFields
  deriving DecidableEq

/-- Refuses an empty text. -/
def requireText (field : Field) (text : String) : Except Error Unit :=
  if text.isEmpty then .error (.emptyField field) else .ok ()

/-- Refuses a rule without a value, and one of type `regex` whose value is no pattern. Which texts
are patterns is the caller's to say. -/
def RuleFields.validate (accepts : String → Bool) (f : RuleFields) : Except Error Unit := do
  requireText .ruleValue f.value
  if f.type = .regex ∧ ¬accepts f.value then throw .badPattern

/-- The fields of a rule given in untyped texts, with no comment. -/
def RuleFields.ofTexts (type value action : String) : Except Error RuleFields := do
  requireText .ruleType type
  requireText .ruleValue value
  requireText .ruleAction action
  return ⟨← RuleType.parse type, value, ← RuleAction.parse action, ""⟩

end ProxyPolicy.Policy
