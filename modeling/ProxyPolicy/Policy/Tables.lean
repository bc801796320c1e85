import ProxyPolicy.Policy.Entity

/-!
# Tables

What the store holds: seven relations whose rows are texts, each in the order in which its rows were
added. A program other than this one can write to the same tables, so a row may hold anything; the
calls of this library see to it that it holds what it should.
-/

namespace ProxyPolicy.Policy

/-- A stored source. -/
structure SourceRow where
  /-- The identifier. -/
  id : String
  /-- The address. -/
  source : String
  /-- The comment, if there is one. -/
  comment : Option String
  deriving DecidableEq, Repr

/-- A stored group. -/
structure GroupRow where
  /-- The identifier. -/
  id : String
  /-- The name, if there is one. -/
  comment : Option String
  deriving DecidableEq, Repr

/-- A stored membership of a source in a group. -/
structure MemberRow where
  /-- The identifier of the group. -/
  group : String
  /-- The identifier of the source. -/
  source : String
  /-- The comment, if there is one. -/
  comment : Option String
  deriving DecidableEq, Repr

/-- A stored ACL. -/
structure AclRow where
  /-- The identifier. -/
  id : String
  /-- The name, if there is one. -/
  comment : Option String
  deriving DecidableEq, Repr

/-- A stored rule. -/
structure RuleRow where
  /-- The identifier. -/
  id : String
  /-- The spelling of the type. -/
  type : String
  /-- The value. -/
  value : String
  /-- The spelling of the action. -/
  action : String
  /-- The comment, if there is one. -/
  comment : Option String
  deriving DecidableEq, Repr

/-- A stored link, which puts a rule into an ACL. -/
structure LinkRow where
  /-- The identifier of the ACL. -/
  acl : String
  /-- The identifier of the rule. -/
  rule : String
  deriving DecidableEq, Repr

/-- A stored grant of an ACL to a group. -/
structure GrantRow where
  /-- The identifier of the group. -/
  group : String
  /-- The identifier of the ACL. -/
  acl : String
  /-- The comment, if there is one. -/
  comment : Option String
  deriving DecidableEq, Repr

/-- The relations of the policy. -/
structure Tables where
  /-- The sources. -/
  sources : List SourceRow
  /-- The groups. -/
  groups : List GroupRow
  /-- Which source is in which group. -/
  members : List MemberRow
  /-- The ACLs. -/
  acls : List AclRow
  /-- The rules. -/
  rules : List RuleRow
  /-- Which rule is in which ACL. -/
  links : List LinkRow
  /-- Which ACL is granted to which group. -/
  grants : List GrantRow
  deriving DecidableEq, Repr

namespace Tables

/-- No rows at all. -/
def empty : Tables := ⟨[], [], [], [], [], [], []⟩

/-- The stored identifiers of the entities of a kind. -/
def ids (t : Tables) : Kind → List String
  | .group => t.groups.map (·.id)
  | .source => t.sources.map (·.id)
  | .acl => t.acls.map (·.id)
  | .rule => t.rules.map (·.id)

/-- Whether there is an entity of this identifier. -/
def has {kind : Kind} (t : Tables) (id : Id kind) : Bool := (t.ids kind).contains id.text

/-- Refuses an identifier that no entity has. -/
def require {kind : Kind} (t : Tables) (id : Id kind) : Except Error Unit :=
  if t.has id then .ok () else .error (.notFound kind id.text)

end Tables

/-- A row of any of the relations. -/
inductive Row where
  /-- A source. -/
  | source (row : SourceRow)
  /-- A group. -/
  | group (row : GroupRow)
  /-- A membership. -/
  | member (row : MemberRow)
  /-- An ACL. -/
  | acl (row : AclRow)
  /-- A rule. -/
  | rule (row : RuleRow)
  /-- A link. -/
  | link (row : LinkRow)
  /-- A grant. -/
  | grant (row : GrantRow)
  deriving DecidableEq, Repr

/-- The tables with one more row, as another program writes it: nothing is checked. -/
def Tables.add (t : Tables) : Row → Tables
  | .source row => { t with sources := t.sources ++ [row] }
  | .group row => { t with groups := t.groups ++ [row] }
  | .member row => { t with members := t.members ++ [row] }
  | .acl row => { t with acls := t.acls ++ [row] }
  | .rule row => { t with rules := t.rules ++ [row] }
  | .link row => { t with links := t.links ++ [row] }
  | .grant row => { t with grants := t.grants ++ [row] }

end ProxyPolicy.Policy
