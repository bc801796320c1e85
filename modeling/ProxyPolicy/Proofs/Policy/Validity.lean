import ProxyPolicy.Policy.Snapshot
import ProxyPolicy.Proofs.Policy.Listing

/-!
# Only valid policy is stored

`Row.Valid` says what a row of each relation holds if it comes of a call: identifiers where
identifiers belong, a name for an ACL and a group, an address for a source, and for a rule a value
that is a pattern if its type asks for one. The checks of a call are made before its transaction, at
different places for rules given with types and for rules given in texts; whichever call it is, each
row that it leaves was there before or is valid (`valid_of_effect`). So every row is valid after
every history, and every rule that an ACL lists passes the check of its fields (`history_valid`).
-/

namespace ProxyPolicy.Policy

open Snapshot

/-- Whether a row holds what a call may store. Which texts are patterns is the caller's to say. -/
def Row.Valid (accepts : String → Bool) : Row → Prop
  | .source r => isUuid r.id = true ∧ r.source ≠ ""
  | .group r => isUuid r.id = true ∧ r.comment.getD "" ≠ ""
  | .member r => isUuid r.group = true ∧ isUuid r.source = true
  | .acl r => isUuid r.id = true ∧ r.comment.getD "" ≠ ""
  | .rule r => isUuid r.id = true ∧ r.value ≠ "" ∧
    (r.type = RuleType.regex.text → accepts r.value = true)
  | .link r => isUuid r.acl = true ∧ isUuid r.rule = true
  | .grant r => isUuid r.group = true ∧ isUuid r.acl = true

/-! ## Fields of rules -/

/-- Types of one spelling are the same. -/
theorem RuleType.text_injective {a b : RuleType} (h : a.text = b.text) : a = b := by
  have ha := RuleType.ofText?_text a
  rw [h, RuleType.ofText?_text b] at ha
  exact (Option.some.inj ha).symm

/-- Fields pass their check exactly when there is a value, which is a pattern if the type asks for
one. -/
theorem RuleFields.validate_eq_ok_iff {accepts : String → Bool} {f : RuleFields} :
    f.validate accepts = .ok () ↔
      f.value ≠ "" ∧ (f.type = .regex → accepts f.value = true) := by
  unfold validate
  rw [bind_eq_ok_iff]
  by_cases h : f.type = .regex ∧ ¬accepts f.value = true
  · rw [if_pos h]
    constructor
    · rintro ⟨_, -, hthrow⟩
      cases hthrow
    · rintro ⟨-, hpattern⟩
      exact absurd (hpattern h.1) h.2
  · rw [if_neg h]
    have hpattern : f.type = .regex → accepts f.value = true := by
      intro htype
      by_contra hno
      exact h ⟨htype, hno⟩
    constructor
    · rintro ⟨_, hvalue, -⟩
      exact ⟨requireText_eq_ok_iff.mp hvalue, hpattern⟩
    · rintro ⟨hvalue, -⟩
      exact ⟨(), requireText_eq_ok_iff.mpr hvalue, rfl⟩

/-- The row that keeps fields which pass their check is valid. -/
theorem RuleFields.valid_row {accepts : String → Bool} {f : RuleFields}
    (hvalid : f.validate accepts = .ok ()) {id : String} (hid : isUuid id = true) :
    (Row.rule (f.row id)).Valid accepts := by
  obtain ⟨hvalue, hpattern⟩ := validate_eq_ok_iff.mp hvalid
  exact ⟨hid, hvalue, fun htype => hpattern (RuleType.text_injective htype)⟩

/-- A rule that a valid row keeps has fields that pass their check. -/
theorem Row.Valid.validate_of_keeps {accepts : String → Bool} {row : RuleRow}
    (h : (Row.rule row).Valid accepts) {rule : Rule} (hkeeps : row.Keeps rule) :
    rule.fields.validate accepts = .ok () := by
  obtain ⟨-, hvalue, hpattern⟩ := h
  rw [← hkeeps.value] at hvalue hpattern
  refine RuleFields.validate_eq_ok_iff.mpr ⟨hvalue, fun htype => hpattern ?_⟩
  rw [← hkeeps.type, htype]

/-! ## Tables -/

/-- The rows of the tables are valid. -/
structure Tables.Valid (accepts : String → Bool) (t : Tables) : Prop where
  /-- The sources are valid. -/
  sources : ∀ r ∈ t.sources, (Row.source r).Valid accepts
  /-- The groups are valid. -/
  groups : ∀ r ∈ t.groups, (Row.group r).Valid accepts
  /-- The memberships are valid. -/
  members : ∀ r ∈ t.members, (Row.member r).Valid accepts
  /-- The ACLs are valid. -/
  acls : ∀ r ∈ t.acls, (Row.acl r).Valid accepts
  /-- The rules are valid. -/
  rules : ∀ r ∈ t.rules, (Row.rule r).Valid accepts
  /-- The links are valid. -/
  links : ∀ r ∈ t.links, (Row.link r).Valid accepts
  /-- The grants are valid. -/
  grants : ∀ r ∈ t.grants, (Row.grant r).Valid accepts

namespace Tables.Valid

variable {accepts : String → Bool} {t : Tables}

/-- Every row of valid tables is valid. -/
theorem of_mem_rows (h : t.Valid accepts) {row : Row} (hrow : row ∈ rows t) :
    row.Valid accepts := by
  simp only [rows, List.mem_append, List.mem_map] at hrow
  rcases hrow with (((((⟨r, hr, rfl⟩ | ⟨r, hr, rfl⟩) | ⟨r, hr, rfl⟩) | ⟨r, hr, rfl⟩) |
    ⟨r, hr, rfl⟩) | ⟨r, hr, rfl⟩) | ⟨r, hr, rfl⟩
  · exact h.sources r hr
  · exact h.groups r hr
  · exact h.members r hr
  · exact h.acls r hr
  · exact h.rules r hr
  · exact h.links r hr
  · exact h.grants r hr

/-- No rows are valid. -/
theorem empty (accepts : String → Bool) : Tables.empty.Valid accepts := by
  constructor <;> exact fun r hr => absurd hr List.not_mem_nil

/-- The rows are valid with one more that is. -/
theorem add (h : t.Valid accepts) {row : Row} (hrow : row.Valid accepts) :
    (t.add row).Valid accepts := by
  -- A row is the new one or was in its relation before.
  have happend {α : Type} {make : α → Row} {old : List α} {new : α}
      (hold : ∀ r ∈ old, (make r).Valid accepts) (hnew : (make new).Valid accepts) :
      ∀ r ∈ old ++ [new], (make r).Valid accepts := by
    intro r hr
    rcases List.mem_append.mp hr with hmem | hmem
    · exact hold r hmem
    · rw [List.mem_singleton.mp hmem]
      exact hnew
  cases row with
  | source new => exact { h with sources := happend h.sources hrow }
  | group new => exact { h with groups := happend h.groups hrow }
  | member new => exact { h with members := happend h.members hrow }
  | acl new => exact { h with acls := happend h.acls hrow }
  | rule new => exact { h with rules := happend h.rules hrow }
  | link new => exact { h with links := happend h.links hrow }
  | grant new => exact { h with grants := happend h.grants hrow }

/-- The rows are valid with a new source in a group, if it has an address. -/
theorem withSource (h : t.Valid accepts) (id : Id .source) (group : Id .group) {source : String}
    (hsource : source ≠ "") (comment memberComment : String) :
    (t.withSource id.text group.text source comment memberComment).Valid accepts := by
  have hrow : (Row.source ⟨id.text, source, some comment⟩).Valid accepts :=
    ⟨id.isUuid_text, hsource⟩
  have hmember : (Row.member ⟨group.text, id.text, some memberComment⟩).Valid accepts :=
    ⟨group.isUuid_text, id.isUuid_text⟩
  exact (h.add hrow).add hmember

/-- The rows are valid with a new rule in an ACL, if its fields pass their check. -/
theorem withRule (h : t.Valid accepts) {f : RuleFields} (hvalid : f.validate accepts = .ok ())
    (id : Id .rule) (acl : Id .acl) : (t.withRule id.text acl.text f).Valid accepts := by
  have hlink : (Row.link ⟨acl.text, id.text⟩).Valid accepts := ⟨acl.isUuid_text, id.isUuid_text⟩
  exact (h.add (RuleFields.valid_row hvalid id.isUuid_text)).add hlink

/-- The rows are valid with new fields in a rule, if these pass their check. -/
theorem withFields (h : t.Valid accepts) {f : RuleFields} (hvalid : f.validate accepts = .ok ())
    (id : String) : (t.withFields id f).Valid accepts := by
  refine { h with rules := List.forall_mem_map.mpr fun r hr => ?_ }
  by_cases hid : r.id = id
  · rw [if_pos hid]
    exact RuleFields.valid_row hvalid (h.rules r hr).1
  · rw [if_neg hid]
    exact h.rules r hr

/-- The rows are valid with links that point at another ACL. -/
theorem retarget (h : t.Valid accepts) (rules : List String) (acl : Id .acl) :
    (t.retarget rules acl.text).Valid accepts := by
  refine { h with links := List.forall_mem_map.mpr fun l hl => ?_ }
  by_cases hrule : l.rule ∈ rules
  · rw [if_pos hrule]
    exact ⟨acl.isUuid_text, (h.links l hl).2⟩
  · rw [if_neg hrule]
    exact h.links l hl

/-- The rows are valid with other grants to a group. -/
theorem withGrants (h : t.Valid accepts) (group : Id .group) (grants : List (Id .acl × String)) :
    (t.withGrants group grants).Valid accepts := by
  refine { h with grants := List.forall_mem_append.mpr ⟨fun r hr => ?_, ?_⟩ }
  · exact h.grants r (List.mem_of_mem_filter hr)
  · exact List.forall_mem_map.mpr fun g _ => ⟨group.isUuid_text, g.1.isUuid_text⟩

/-- The rows are valid with other members of a group. -/
theorem withMembers (h : t.Valid accepts) (group : Id .group)
    (members : List (Id .source × String)) : (t.withMembers group members).Valid accepts := by
  refine { h with members := List.forall_mem_append.mpr ⟨fun r hr => ?_, ?_⟩ }
  · exact h.members r (List.mem_of_mem_filter hr)
  · exact List.forall_mem_map.mpr fun m _ => ⟨group.isUuid_text, m.1.isUuid_text⟩

end Tables.Valid

/-! ## Calls -/

/-- A call that succeeds keeps the rows valid. -/
theorem valid_of_effect {accepts : String → Bool} {op : Operation} {t t' : Tables}
    (heffect : op.Effect accepts t t') (h : t.Valid accepts) : t'.Valid accepts := by
  -- What was checked before the operation is what the new rows need; the rows kept are valid.
  cases op with
  | createAcl fresh comment =>
    obtain ⟨hcomment, -, rfl⟩ := heffect
    exact h.add ⟨fresh.isUuid_text, hcomment⟩
  | createGroup fresh comment =>
    obtain ⟨hcomment, -, rfl⟩ := heffect
    exact h.add ⟨fresh.isUuid_text, hcomment⟩
  | createSource fresh group source comment memberComment =>
    obtain ⟨hsource, -, -, -, rfl⟩ := heffect
    exact h.withSource fresh group hsource comment memberComment
  | createRule fresh acl f =>
    obtain ⟨hvalid, -, -, -, rfl⟩ := heffect
    exact h.withRule hvalid fresh acl
  | createInboxRule fresh inbox type value action =>
    obtain ⟨f, -, hvalid, -, -, -, rfl⟩ := heffect
    exact h.withRule hvalid fresh inbox
  | updateRule rule f =>
    obtain ⟨hvalid, -, rfl⟩ := heffect
    exact h.withFields hvalid rule.text
  | moveRules rules destination =>
    obtain ⟨-, -, rfl⟩ := heffect
    exact h.retarget _ destination
  | deleteRules rules =>
    obtain ⟨-, -, rfl⟩ := heffect
    exact { h with
      rules := fun r hr => h.rules r (List.mem_of_mem_filter hr)
      links := fun l hl => h.links l (List.mem_of_mem_filter hl) }
  | deleteAcl acl =>
    obtain ⟨-, -, rfl⟩ := heffect
    exact { h with
      acls := fun r hr => h.acls r (List.mem_of_mem_filter hr)
      grants := fun g hg => h.grants g (List.mem_of_mem_filter hg) }
  | deleteSource source =>
    obtain ⟨-, -, rfl⟩ := heffect
    exact { h with sources := fun r hr => h.sources r (List.mem_of_mem_filter hr) }
  | replaceGrants group grants =>
    obtain ⟨-, -, -, rfl⟩ := heffect
    exact h.withGrants group grants
  | replaceMembers group members =>
    obtain ⟨-, -, -, rfl⟩ := heffect
    exact h.withMembers group members

/-- A rule that an ACL lists passes the check of its fields, if the rows are valid. -/
theorem Tables.Valid.validate_of_listed {accepts : String → Bool} {t : Tables}
    (h : t.Valid accepts) {acl : Id .acl} {rules : List Rule} (hlisted : t.aclRules acl = .ok rules)
    {rule : Rule} (hrule : rule ∈ rules) : rule.fields.validate accepts = .ok () := by
  obtain ⟨⟨⟩, -, hlisting⟩ := bind_eq_ok_iff.mp hlisted
  obtain ⟨row, hrow, hdecode⟩ := (mem_listing hlisting).mp hrule
  -- A row that is listed is one of the rules, whatever link led to it.
  obtain ⟨l, -, hfound⟩ := List.mem_filterMap.mp hrow
  have hstored : row ∈ t.rules := List.mem_of_find?_eq_some hfound
  exact (h.rules row hstored).validate_of_keeps (RuleRow.decode_eq_ok_iff.mp hdecode)

/-- After every history from the empty store, every row of every relation is valid: identifiers have
the shape of identifiers, ACLs and groups have names, sources have addresses, and a rule has a value
that is a pattern if its type asks for one. And every rule that an ACL lists passes the check that
is made when a rule is created or edited. -/
theorem history_valid (accepts : String → Bool) (calls : List Call) :
    let t := (Store.empty.transcript accepts calls).2.tables
    (∀ row ∈ rows t, row.Valid accepts) ∧
    ∀ (acl : Id .acl) (rules : List Rule), t.aclRules acl = .ok rules →
      ∀ rule ∈ rules, rule.fields.validate accepts = .ok () := by
  intro t
  have h : t.Valid accepts := Store.transcript_keeps valid_of_effect calls (.empty accepts)
  refine ⟨fun row hrow => h.of_mem_rows hrow, ?_⟩
  intro acl rules hlisted rule hrule
  exact h.validate_of_listed hlisted hrule

/-- A value that is no pattern is stored with a quick rule of another type; it cannot become a rule
of type `regex`, and another value can. -/
theorem history_valid_edited :
    let accepts (text : String) : Bool := text ≠ "("
    let acl : Id .acl := ⟨"00000000-0000-4000-8000-000000000001", by decide⟩
    let rule : Id .rule := ⟨"00000000-0000-4000-8000-000000000002", by decide⟩
    let edited : RuleRow := ⟨rule.text, "regex", "^ads", "block", some "late"⟩
    let calls : List Call := [.change (.createAcl acl "web"),
      .change (.createInboxRule rule acl "domain" "(" "block"),
      .change (.updateRule rule ⟨.regex, "(", .block, ""⟩),
      .change (.updateRule rule ⟨.regex, "^ads", .block, "late"⟩)]
    let (results, s) := Store.empty.transcript accepts calls
    results.map (·.2.isOk) = [true, true, false, true] ∧ s.tables.rules = [edited] ∧
      (Row.rule edited).Valid accepts := by
  intro accepts acl rule edited calls
  have hresults : (Store.empty.transcript accepts calls).1.map (·.2.isOk) =
      [true, true, false, true] := by decide +kernel
  have hrules : (Store.empty.transcript accepts calls).2.tables.rules = [edited] := by
    decide +kernel
  have hrow : Row.rule edited ∈ rows (Store.empty.transcript accepts calls).2.tables := by
    decide +kernel
  exact ⟨hresults, hrules, (history_valid accepts calls).1 _ hrow⟩

end ProxyPolicy.Policy
