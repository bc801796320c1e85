import ProxyPolicy.Policy.Store

/-!
# Operations

The calls that change the policy. A call first checks its arguments by themselves; what is wrong
with them is found before the store is touched, and a list of rules that is empty asks for nothing.
All the rest is one transaction (`Operation.plan`), so that a call that fails leaves no trace.

Calls that create something are given the new identifier, which is to be one that the store does not
hold yet. Long lists of rules are handled in batches of `maxBatch`, since one statement can name
only so many rules.
-/

namespace ProxyPolicy.Policy

/-- The number of rules that one statement names. -/
def maxBatch : Nat := 500

/-- A list cut into batches of a size; the last batch may be smaller. Size zero counts as one. -/
def batches {α : Type} (size : Nat) : List α → List (List α)
  | [] => []
  | x :: xs => (x :: xs.take (size - 1)) :: batches size (xs.drop (size - 1))
  termination_by xs => xs.length
  decreasing_by simp only [List.length_drop, List.length_cons]; omega

namespace Transaction

/-- Adds a source and makes it a member of a group. -/
def createSource (fresh : Id .source) (group : Id .group) (source comment memberComment : String) :
    Transaction Unit := do
  require group
  insertSource ⟨fresh.text, source, some comment⟩
  insertMember ⟨group.text, fresh.text, some memberComment⟩

/-- Adds a rule to an ACL. -/
def createRule (fresh : Id .rule) (acl : Id .acl) (f : RuleFields) : Transaction Unit := do
  require acl
  insertRule ⟨fresh.text, f.type.text, f.value, f.action.text, some f.comment⟩
  insertLink ⟨acl.text, fresh.text⟩

/-- Gives a rule new fields. -/
def editRule (rule : Id .rule) (f : RuleFields) : Transaction Unit := do
  if (← updateRule rule.text f) = 0 then throw (.notFound .rule rule.text)

/-- The error for the first rule of a batch that is unknown or, if all are known, in no ACL. -/
def missingRule (rules : List (Id .rule)) (t : Tables) : Error :=
  let unknown := rules.find? fun id => !t.has id
  let unlinked := rules.find? fun id => !t.links.any (·.rule = id.text)
  .notFound .rule ((unknown <|> unlinked <|> rules.head?).elim "" (·.text))

/-- Moves the rules of one batch to an ACL. -/
def moveBatch (destination : Id .acl) (rules : List (Id .rule)) : Transaction Unit := do
  let moved ← retargetLinks (rules.map (·.text)) destination.text
  if moved ≠ rules.length then throw (missingRule rules (← get))

/-- Moves rules to an ACL, batch by batch. -/
def moveRules (batch : Nat) (rules : List (Id .rule)) (destination : Id .acl) :
    Transaction Unit := do
  require destination
  (batches batch rules).forM (moveBatch destination)

/-- Takes away the rules of one batch and their links. -/
def deleteBatch (rules : List (Id .rule)) : Transaction Unit := do
  deleteLinks (rules.map (·.text))
  deleteRules (rules.map (·.text))

/-- Takes away rules and their links, batch by batch, once all are known to exist. -/
def removeRules (batch : Nat) (rules : List (Id .rule)) : Transaction Unit := do
  rules.forM require
  (batches batch rules).forM deleteBatch

/-- Runs a statement; if a constraint refuses it, the error is one made from the tables. -/
def refusedAs (statement : Transaction Unit) (cause : Tables → Error) : Transaction Unit :=
  tryCatch statement fun e => do
    match e with
    | .storage fault => if fault.isConstraint then throw (cause (← get)) else throw e
    | _ => throw e

/-- Takes away an ACL that has no rules, and its grants. -/
def removeAcl (id : Id .acl) : Transaction Unit := do
  require id
  refusedAs (deleteAcl id.text) fun t => .aclHasRules id.text (t.links.countP (·.acl = id.text))

/-- Takes away a source that is in no group. -/
def removeSource (id : Id .source) : Transaction Unit := do
  require id
  refusedAs (deleteSource id.text) fun t =>
    .sourceInUse id.text (t.members.countP (·.source = id.text))

/-- Puts these grants in place of all grants to a group. -/
def replaceGrants (group : Id .group) (grants : List (Id .acl × String)) : Transaction Unit := do
  require group
  deleteGrantsTo group.text
  grants.forM fun (acl, comment) => do
    require acl
    insertGrant ⟨group.text, acl.text, some comment⟩

/-- Puts these members in place of all members of a group. -/
def replaceMembers (group : Id .group) (members : List (Id .source × String)) :
    Transaction Unit := do
  require group
  deleteMembersOf group.text
  members.forM fun (source, comment) => do
    require source
    insertMember ⟨group.text, source.text, some comment⟩

end Transaction

/-- A call that changes the policy. -/
inductive Operation where
  /-- Adds an ACL of a name. -/
  | createAcl (fresh : Id .acl) (comment : String)
  /-- Adds a group of a name. -/
  | createGroup (fresh : Id .group) (comment : String)
  /-- Adds a source and makes it a member of a group. -/
  | createSource (fresh : Id .source) (group : Id .group) (source comment memberComment : String)
  /-- Adds a rule to an ACL. -/
  | createRule (fresh : Id .rule) (acl : Id .acl) (fields : RuleFields)
  /-- Adds a rule given in untyped texts to the ACL that takes new rules. -/
  | createInboxRule (fresh : Id .rule) (inbox : Id .acl) (type value action : String)
  /-- Gives a rule new fields. -/
  | updateRule (rule : Id .rule) (fields : RuleFields)
  /-- Moves rules to an ACL. -/
  | moveRules (rules : List (Id .rule)) (destination : Id .acl)
  /-- Takes away rules. -/
  | deleteRules (rules : List (Id .rule))
  /-- Takes away an ACL that has no rules. -/
  | deleteAcl (acl : Id .acl)
  /-- Takes away a source that is in no group. -/
  | deleteSource (source : Id .source)
  /-- Replaces all grants to a group. -/
  | replaceGrants (group : Id .group) (grants : List (Id .acl × String))
  /-- Replaces all members of a group. -/
  | replaceMembers (group : Id .group) (members : List (Id .source × String))
  deriving DecidableEq

/-- What a call does: it fails by its arguments alone, asks for nothing, or runs a transaction.
`accepts` says which texts are patterns, and `batch` is the size of a batch. -/
def Operation.plan (accepts : String → Bool) (batch : Nat) :
    Operation → Except Error (Option (Transaction Unit))
  | createAcl fresh comment => do
    requireText .aclName comment
    return some (.insertAcl ⟨fresh.text, some comment⟩)
  | createGroup fresh comment => do
    requireText .groupName comment
    return some (.insertGroup ⟨fresh.text, some comment⟩)
  | createSource fresh group source comment memberComment => do
    requireText .source source
    return some (.createSource fresh group source comment memberComment)
  | createRule fresh acl fields => do
    fields.validate accepts
    return some (.createRule fresh acl fields)
  | createInboxRule fresh inbox type value action => do
    let fields ← RuleFields.ofTexts type value action
    fields.validate accepts
    return some (.createRule fresh inbox fields)
  | updateRule rule fields => do
    fields.validate accepts
    return some (.editRule rule fields)
  | moveRules rules destination => do
    requireDistinct rules
    return if rules.isEmpty then none else some (.moveRules batch rules destination)
  | deleteRules rules => do
    requireDistinct rules
    return if rules.isEmpty then none else some (.removeRules batch rules)
  | deleteAcl acl => return some (.removeAcl acl)
  | deleteSource source => return some (.removeSource source)
  | replaceGrants group grants => do
    requireDistinct (grants.map Prod.fst)
    return some (.replaceGrants group grants)
  | replaceMembers group members => do
    requireDistinct (members.map Prod.fst)
    return some (.replaceMembers group members)

namespace Store

/-- Runs a call with batches of a given size. -/
def runBatched (accepts : String → Bool) (batch : Nat) (op : Operation) (s : Store) :
    Except Error Unit × Store :=
  match op.plan accepts batch with
  | .error e => (.error e, s)
  | .ok none => (.ok (), s)
  | .ok (some body) => s.write body

/-- Runs a call. -/
def run (accepts : String → Bool) (op : Operation) (s : Store) : Except Error Unit × Store :=
  s.runBatched accepts maxBatch op

end Store

end ProxyPolicy.Policy
