import ProxyPolicy.Policy.Tables

/-!
# Statements

The changes that the storage makes to the tables, one at a time. A statement checks the constraints
of the relations that it touches: no two rows of a relation share their key, and a row that names an
entity of another relation names one that is there. A statement that would break a constraint fails
and changes nothing. Statements are combined in a transaction, which goes on from the tables that
the statements before it left, also after one of them failed.
-/

namespace ProxyPolicy.Policy

/-- A sequence of statements on the tables, which may fail. -/
abbrev Transaction := ExceptT Error (StateM Tables)

namespace Transaction

/-- Refuses an identifier that no entity has. -/
def require {kind : Kind} (id : Id kind) : Transaction Unit := do
  MonadExcept.ofExcept ((← get).require id)

/-- Fails with a fault of the storage if a condition holds. -/
def failIf (condition : Bool) (fault : StorageFault) : Transaction Unit :=
  if condition then throw (.storage fault) else pure ()

/-! ## New rows -/

/-- Adds a source. -/
def insertSource (row : SourceRow) : Transaction Unit := do
  failIf ((← get).sources.any (·.id = row.id)) (.repeatedKey "sources.source_id")
  modify (·.add (.source row))

/-- Adds a group. -/
def insertGroup (row : GroupRow) : Transaction Unit := do
  failIf ((← get).groups.any (·.id = row.id)) (.repeatedKey "groups.group_id")
  modify (·.add (.group row))

/-- Adds an ACL. -/
def insertAcl (row : AclRow) : Transaction Unit := do
  failIf ((← get).acls.any (·.id = row.id)) (.repeatedKey "acls.acl_id")
  modify (·.add (.acl row))

/-- Adds a rule, in no ACL yet. -/
def insertRule (row : RuleRow) : Transaction Unit := do
  failIf ((← get).rules.any (·.id = row.id)) (.repeatedKey "rules.rule_id")
  modify (·.add (.rule row))

/-- Adds a source to a group. -/
def insertMember (row : MemberRow) : Transaction Unit := do
  let t ← get
  failIf (t.members.any fun m => m.group = row.group ∧ m.source = row.source)
    (.repeatedKey "members.group_id, members.source_id")
  failIf (!(t.ids .group).contains row.group || !(t.ids .source).contains row.source)
    .brokenReference
  modify (·.add (.member row))

/-- Puts a rule into an ACL. A rule is in one ACL at most. -/
def insertLink (row : LinkRow) : Transaction Unit := do
  let t ← get
  failIf (t.links.any (·.rule = row.rule)) (.repeatedKey "aclrules.rule_id")
  failIf (!(t.ids .acl).contains row.acl || !(t.ids .rule).contains row.rule) .brokenReference
  modify (·.add (.link row))

/-- Grants an ACL to a group. -/
def insertGrant (row : GrantRow) : Transaction Unit := do
  let t ← get
  failIf (t.grants.any fun g => g.group = row.group ∧ g.acl = row.acl)
    (.repeatedKey "groupaccess.group_id, groupaccess.acl_id")
  failIf (!(t.ids .group).contains row.group || !(t.ids .acl).contains row.acl) .brokenReference
  modify (·.add (.grant row))

/-! ## Changed rows -/

/-- Gives the rule of this identifier new fields, and says how many rules have it. -/
def updateRule (id : String) (f : RuleFields) : Transaction Nat := do
  let changed (row : RuleRow) : RuleRow :=
    if row.id = id then ⟨row.id, f.type.text, f.value, f.action.text, some f.comment⟩ else row
  let t ← get
  set { t with rules := t.rules.map changed }
  return t.rules.countP (·.id = id)

/-- Points the links of these rules at one ACL, and says how many links there are. -/
def retargetLinks (rules : List String) (acl : String) : Transaction Nat := do
  let retargeted (row : LinkRow) : LinkRow :=
    if rules.contains row.rule then ⟨acl, row.rule⟩ else row
  let t ← get
  let moved := t.links.countP fun l => rules.contains l.rule
  failIf (moved ≠ 0 && !(t.ids .acl).contains acl) .brokenReference
  set { t with links := t.links.map retargeted }
  return moved

/-! ## Rows taken away -/

/-- Takes away all memberships of a group. -/
def deleteMembersOf (group : String) : Transaction Unit :=
  modify fun t => { t with members := t.members.filter (·.group ≠ group) }

/-- Takes away all grants to a group. -/
def deleteGrantsTo (group : String) : Transaction Unit :=
  modify fun t => { t with grants := t.grants.filter (·.group ≠ group) }

/-- Takes away the links of these rules. -/
def deleteLinks (rules : List String) : Transaction Unit :=
  modify fun t => { t with links := t.links.filter fun l => !rules.contains l.rule }

/-- Takes away these rules, unless a link names one. -/
def deleteRules (rules : List String) : Transaction Unit := do
  let t ← get
  failIf (t.rules.any fun r => rules.contains r.id && t.links.any (·.rule = r.id)) .brokenReference
  set { t with rules := t.rules.filter fun r => !rules.contains r.id }

/-- Takes away an ACL and with it the grants that name it, unless a link names it. -/
def deleteAcl (id : String) : Transaction Unit := do
  let t ← get
  failIf (t.links.any (·.acl = id)) .brokenReference
  set { t with acls := t.acls.filter (·.id ≠ id), grants := t.grants.filter (·.acl ≠ id) }

/-- Takes away a source, unless a membership names it. -/
def deleteSource (id : String) : Transaction Unit := do
  let t ← get
  failIf (t.members.any (·.source = id)) .brokenReference
  set { t with sources := t.sources.filter (·.id ≠ id) }

end Transaction

end ProxyPolicy.Policy
