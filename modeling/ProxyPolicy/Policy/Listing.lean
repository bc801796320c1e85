import ProxyPolicy.Policy.Tables

/-!
# Listings

Reading the policy. A listing is ordered by the stored comment, and the rules of an ACL then by the
stored spelling of their type and by their value; texts are ordered by code point, which is also the
order of their UTF-8 octets, a comment that was never given comes before all others, and rows that
are equal in all of this stay in the order in which they were added. Rows are decoded in the order
of the listing and the columns of a row from left to right; the first text that does not decode
fails the whole listing.
-/

namespace ProxyPolicy.Policy

/-- The identifier in a column. -/
def decodeId (kind : Kind) (column : Nat) (text : String) : Except Error (Id kind) :=
  if h : isUuid text = true then .ok ⟨text, h⟩
  else .error (.storage (.badCell column (.id kind text)))

/-- The type of rule in a column. -/
def decodeType (column : Nat) (text : String) : Except Error RuleType :=
  match RuleType.ofText? text with
  | some t => .ok t
  | none => .error (.storage (.badCell column (.ruleType text)))

/-- The action in a column. -/
def decodeAction (column : Nat) (text : String) : Except Error RuleAction :=
  match RuleAction.ofText? text with
  | some a => .ok a
  | none => .error (.storage (.badCell column (.ruleAction text)))

/-- The source of a row. -/
def SourceRow.decode (r : SourceRow) : Except Error Source := do
  return ⟨← decodeId .source 0 r.id, r.source, r.comment.getD ""⟩

/-- The group of a row. -/
def GroupRow.decode (r : GroupRow) : Except Error Group := do
  return ⟨← decodeId .group 0 r.id, r.comment.getD ""⟩

/-- The ACL of a row. -/
def AclRow.decode (r : AclRow) : Except Error Acl := do
  return ⟨← decodeId .acl 0 r.id, r.comment.getD ""⟩

/-- The rule of a row. -/
def RuleRow.decode (r : RuleRow) : Except Error Rule := do
  let id ← decodeId .rule 0 r.id
  let type ← decodeType 1 r.type
  let action ← decodeAction 3 r.action
  return ⟨id, type, r.value, action, r.comment.getD ""⟩

/-- The source of a membership, with the comment of the membership. -/
def MemberRow.decode (r : MemberRow) : Except Error (Id .source × String) := do
  return (← decodeId .source 0 r.source, r.comment.getD "")

/-- The ACL of a grant, with the comment of the grant. -/
def GrantRow.decode (r : GrantRow) : Except Error (Id .acl × String) := do
  return (← decodeId .acl 0 r.acl, r.comment.getD "")

/-- The rows of a relation in the order of a listing. -/
def sortedBy {α : Type} (order : α → α → Ordering) (rows : List α) : List α :=
  rows.mergeSort fun a b => (order a b).isLE

/-- The order of the rules of an ACL. -/
def RuleRow.order : RuleRow → RuleRow → Ordering :=
  compareLex (compareOn (·.comment)) (compareLex (compareOn (·.type)) (compareOn (·.value)))

namespace Tables

/-- All sources. -/
def listSources (t : Tables) : Except Error (List Source) :=
  (sortedBy (compareOn (·.comment)) t.sources).mapM SourceRow.decode

/-- All groups. -/
def listGroups (t : Tables) : Except Error (List Group) :=
  (sortedBy (compareOn (·.comment)) t.groups).mapM GroupRow.decode

/-- All ACLs. -/
def listAcls (t : Tables) : Except Error (List Acl) :=
  (sortedBy (compareOn (·.comment)) t.acls).mapM AclRow.decode

/-- One group. -/
def group (t : Tables) (id : Id .group) : Except Error Group :=
  match t.groups.find? (·.id = id.text) with
  | some row => .ok ⟨id, row.comment.getD ""⟩
  | none => .error (.notFound .group id.text)

/-- One ACL. -/
def acl (t : Tables) (id : Id .acl) : Except Error Acl :=
  match t.acls.find? (·.id = id.text) with
  | some row => .ok ⟨id, row.comment.getD ""⟩
  | none => .error (.notFound .acl id.text)

/-- The stored rules that links put into an ACL, in the order of the links. -/
def ruleRowsOf (t : Tables) (acl : String) : List RuleRow :=
  (t.links.filter (·.acl = acl)).filterMap fun l => t.rules.find? (·.id = l.rule)

/-- The rules of an ACL. -/
def aclRules (t : Tables) (id : Id .acl) : Except Error (List Rule) := do
  t.require id
  (sortedBy RuleRow.order (t.ruleRowsOf id.text)).mapM RuleRow.decode

/-- The ACLs that a group is granted, by identifier, with the comments of the grants. -/
def groupAcls (t : Tables) (id : Id .group) : Except Error (List (Id .acl × String)) := do
  t.require id
  (sortedBy (compareOn (·.acl)) (t.grants.filter (·.group = id.text))).mapM GrantRow.decode

/-- The sources in a group, by identifier, with the comments of the memberships. -/
def groupSources (t : Tables) (id : Id .group) : Except Error (List (Id .source × String)) := do
  t.require id
  (sortedBy (compareOn (·.source)) (t.members.filter (·.group = id.text))).mapM MemberRow.decode

end Tables

/-! ## Views -/

/-- An ACL with its rules. -/
structure AclView where
  /-- The ACL. -/
  acl : Acl
  /-- Its rules. -/
  rules : List Rule
  deriving DecidableEq

/-- A group with what it is granted and what is in it. -/
structure GroupView where
  /-- The group. -/
  group : Group
  /-- The ACLs granted to it, with comments. -/
  acls : List (Id .acl × String)
  /-- The sources in it, with comments. -/
  sources : List (Id .source × String)
  deriving DecidableEq

/-- Every ACL with its rules. -/
def Tables.aclViews (t : Tables) : Except Error (List AclView) := do
  (← t.listAcls).mapM fun acl => do return ⟨acl, ← t.aclRules acl.id⟩

/-- Every group with its grants and members. -/
def Tables.groupViews (t : Tables) : Except Error (List GroupView) := do
  (← t.listGroups).mapM fun group => do
    return ⟨group, ← t.groupAcls group.id, ← t.groupSources group.id⟩

end ProxyPolicy.Policy
