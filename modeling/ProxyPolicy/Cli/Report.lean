import ProxyPolicy.AccessLog.Entry
import ProxyPolicy.Json
import ProxyPolicy.Policy.Listing

/-!
# Reports

Entries of the log and views of the policy as JSON.
-/

namespace ProxyPolicy.Cli

open ProxyPolicy.AccessLog ProxyPolicy.Policy

/-- An entry of the log. -/
def entryJson (e : Entry) : Json :=
  .object [("time", .string e.time.display), ("client", .string e.client),
    ("method", .string e.method), ("domain", .string e.domain), ("host", .string e.host),
    ("path", .string e.path), ("url", .string e.url), ("content_type", .string e.contentType)]

/-- A rule. -/
def ruleJson (r : Rule) : Json :=
  .object [("rule_id", .string r.id.text), ("type", .string r.fields.type.text),
    ("value", .string r.fields.value), ("action", .string r.fields.action.text),
    ("comment", .string r.fields.comment)]

/-- An ACL with its rules. -/
def aclJson (v : AclView) : Json :=
  .object [("acl_id", .string v.acl.id.text), ("comment", .string v.acl.comment),
    ("rules", .array (v.rules.map ruleJson))]

/-- An identifier with a comment. -/
def pairJson {kind : Kind} (p : Id kind × String) : Json :=
  .array [.string p.1.text, .string p.2]

/-- A group with its grants and members. -/
def groupJson (v : GroupView) : Json :=
  .object [("group_id", .string v.group.id.text), ("comment", .string v.group.comment),
    ("acls", .array (v.acls.map pairJson)), ("sources", .array (v.sources.map pairJson))]

end ProxyPolicy.Cli
