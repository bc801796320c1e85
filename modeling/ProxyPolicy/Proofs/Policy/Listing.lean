import ProxyPolicy.Proofs.Policy.Faultless

/-!
# What listings show

A listing sorts rows and decodes them one by one. When all rows decode it succeeds
(`exists_listing`), and it shows what the rows decode to, neither more nor less (`mem_listing`),
with the keys of the rows (`listing_perm`).

On consistent tables that decode, `Tables.aclRules_spec` says what the rules of an ACL are: those
stored rules that a link puts there (`Tables.Holds`), each once. Grants and members are rows of an
identifier and a comment, which are listed as they are stored (`Tables.entries_perm`).
-/

namespace ProxyPolicy.Policy

/-! ## Rows that are sorted and decoded -/

section Listings

variable {α β : Type} {decode : α → Except Error β} {order : α → α → Ordering}

/-- A search by a key that no two rows share finds the row that has it. -/
theorem find?_key_eq_some_iff {γ : Type} [DecidableEq γ] {rows : List α} {key : α → γ}
    (hnodup : (rows.map key).Nodup) {k : γ} {r : α} :
    rows.find? (fun r => key r = k) = some r ↔ r ∈ rows ∧ key r = k := by
  constructor
  · intro hfound
    exact ⟨List.mem_of_find?_eq_some hfound, by simpa using List.find?_some hfound⟩
  · rintro ⟨hr, hk⟩
    have hsome : (rows.find? fun r => key r = k).isSome := by
      rw [List.find?_isSome]
      exact ⟨r, hr, by simpa using hk⟩
    obtain ⟨r', hfound⟩ := Option.isSome_iff_exists.mp hsome
    have hk' : key r' = k := by simpa using List.find?_some hfound
    rw [hfound, List.inj_on_of_nodup_map hnodup (List.mem_of_find?_eq_some hfound) hr
      (hk'.trans hk.symm)]

/-- A listing has the rows that are listed, in some order. -/
theorem sortedBy_perm (order : α → α → Ordering) (rows : List α) :
    (sortedBy order rows).Perm rows := by
  unfold sortedBy
  exact List.mergeSort_perm rows _

/-- Of two rows, one may stand before the other in a listing. -/
theorem isLE_or_isLE (order : α → α → Ordering) [Std.TransCmp order] (a b : α) :
    ((order a b).isLE || (order b a).isLE) = true := by
  have hswap : order b a = (order a b).swap := Std.OrientedCmp.eq_swap
  rw [hswap]
  cases order a b <;> rfl

/-- The rows of a listing come in its order. -/
theorem pairwise_sortedBy (order : α → α → Ordering) [Std.TransCmp order] (rows : List α) :
    (sortedBy order rows).Pairwise fun a b => (order a b).isLE = true := by
  unfold sortedBy
  refine List.pairwise_mergeSort ?_ (isLE_or_isLE order) rows
  intro a b c hab hbc
  exact Std.TransCmp.isLE_trans hab hbc

/-- Rows that all decode are listed. -/
theorem exists_listing (order : α → α → Ordering) {rows : List α}
    (h : ∀ r ∈ rows, ∃ x, decode r = .ok x) :
    ∃ xs, (sortedBy order rows).mapM decode = .ok xs :=
  exists_mapM_eq_ok_iff.mpr fun r hr => h r ((sortedBy_perm order rows).mem_iff.mp hr)

/-- A listing shows what its rows decode to. -/
theorem mem_listing {rows : List α} {xs : List β}
    (h : (sortedBy order rows).mapM decode = .ok xs) {x : β} :
    x ∈ xs ↔ ∃ r ∈ rows, decode r = .ok x := by
  rw [mem_iff_of_mapM h]
  simp only [(sortedBy_perm order rows).mem_iff]

/-- A listing shows the keys of its rows, in some order. -/
theorem listing_perm {γ : Type} {rows : List α} {xs : List β} (key : β → γ) (rowKey : α → γ)
    (hkey : ∀ r x, decode r = .ok x → key x = rowKey r)
    (h : (sortedBy order rows).mapM decode = .ok xs) : (xs.map key).Perm (rows.map rowKey) := by
  rw [map_eq_of_mapM key rowKey hkey h]
  exact (sortedBy_perm order rows).map rowKey

end Listings

/-! ## Rows that decode -/

/-- A text of the right shape gives the identifier that has it, and no other text gives one. -/
theorem idOfText_eq_ok_iff {kind : Kind} {text : String} {e : Error} {id : Id kind} :
    (if h : isUuid text = true then .ok ⟨text, h⟩ else .error e : Except Error (Id kind)) = .ok id ↔
      id.text = text := by
  split_ifs with huuid
  · rw [Except.ok.injEq]
    constructor
    · rintro rfl
      rfl
    · intro heq
      exact Id.text_injective heq.symm
  · constructor
    · intro h
      cases h
    · rintro rfl
      exact absurd id.isUuid_text huuid

/-- An identifier is decoded from its text alone. -/
theorem decodeId_eq_ok_iff {kind : Kind} {column : Nat} {text : String} {id : Id kind} :
    decodeId kind column text = .ok id ↔ id.text = text :=
  idOfText_eq_ok_iff

/-- A type is read from its spelling alone. -/
theorem RuleType.ofText?_eq_some_iff {s : String} {type : RuleType} :
    RuleType.ofText? s = some type ↔ type.text = s := by
  constructor
  · intro h
    simpa using List.find?_some h
  · rintro rfl
    exact RuleType.ofText?_text type

/-- An action is read from its spelling alone. -/
theorem RuleAction.ofText?_eq_some_iff {s : String} {action : RuleAction} :
    RuleAction.ofText? s = some action ↔ action.text = s := by
  constructor
  · intro h
    simpa using List.find?_some h
  · rintro rfl
    exact RuleAction.ofText?_text action

/-- A type is decoded from its spelling alone. -/
theorem decodeType_eq_ok_iff {column : Nat} {text : String} {type : RuleType} :
    decodeType column text = .ok type ↔ type.text = text := by
  rw [← RuleType.ofText?_eq_some_iff]
  unfold decodeType
  cases RuleType.ofText? text with
  | none => simp
  | some found => simp

/-- An action is decoded from its spelling alone. -/
theorem decodeAction_eq_ok_iff {column : Nat} {text : String} {action : RuleAction} :
    decodeAction column text = .ok action ↔ action.text = text := by
  rw [← RuleAction.ofText?_eq_some_iff]
  unfold decodeAction
  cases RuleAction.ofText? text with
  | none => simp
  | some found => simp

/-- Whether a row keeps a rule: it has the rule's identifier and its fields in their spelling. -/
structure RuleRow.Keeps (r : RuleRow) (rule : Rule) : Prop where
  /-- The identifier. -/
  id : rule.id.text = r.id
  /-- The type. -/
  type : rule.fields.type.text = r.type
  /-- The value. -/
  value : rule.fields.value = r.value
  /-- The action. -/
  action : rule.fields.action.text = r.action
  /-- The comment; one that was never given reads as the empty text. -/
  comment : rule.fields.comment = r.comment.getD ""

/-- A row decodes to the rule that it keeps. -/
theorem RuleRow.decode_eq_ok_iff {r : RuleRow} {rule : Rule} :
    r.decode = .ok rule ↔ r.Keeps rule := by
  unfold RuleRow.decode
  simp only [bind_eq_ok_iff, decodeId_eq_ok_iff, decodeType_eq_ok_iff, decodeAction_eq_ok_iff]
  constructor
  · rintro ⟨id, hid, type, htype, action, haction, heq⟩
    obtain rfl := Except.ok.inj heq
    exact ⟨hid, htype, rfl, haction, rfl⟩
  · obtain ⟨id, type, value, action, comment⟩ := rule
    rintro ⟨hid, htype, hvalue, haction, hcomment⟩
    dsimp only at hvalue hcomment
    subst hvalue hcomment
    exact ⟨id, hid, type, htype, action, haction, rfl⟩

namespace Tables

variable {t : Tables}

/-- Asking for an entity succeeds exactly when it is there. -/
theorem require_eq_ok_iff {kind : Kind} {id : Id kind} :
    t.require id = .ok () ↔ id.text ∈ t.ids kind := by
  unfold require has
  rw [← List.contains_iff_mem]
  cases (t.ids kind).contains id.text with
  | true => simp
  | false => simp

/-! ## The rules of an ACL -/

/-- A rule is stored with these fields. -/
def Stores (t : Tables) (rule : Rule) : Prop := ∃ row ∈ t.rules, row.Keeps rule

/-- A rule is stored with these fields, and a link puts it into an ACL. -/
def Holds (t : Tables) (acl : Id .acl) (rule : Rule) : Prop :=
  ⟨acl.text, rule.id.text⟩ ∈ t.links ∧ t.Stores rule

/-- A stored rule is one of the rules. -/
theorem Stores.mem_ids {rule : Rule} (h : t.Stores rule) : rule.id.text ∈ t.ids .rule := by
  obtain ⟨row, hrow, hkeeps⟩ := h
  rw [hkeeps.id]
  exact List.mem_map_of_mem hrow

/-- On tables that decode, every rule is stored with some fields. -/
theorem Decodable.exists_keeps (h : t.Decodable) {row : RuleRow} (hrow : row ∈ t.rules) :
    ∃ rule, row.Keeps rule := by
  obtain ⟨f, htype, haction⟩ := h.spelled row hrow
  have huuid : isUuid row.id = true := h.isUuid_ids .rule row.id (List.mem_map_of_mem hrow)
  exact ⟨⟨⟨row.id, huuid⟩, ⟨f.type, row.value, f.action, row.comment.getD ""⟩⟩,
    rfl, htype.symm, rfl, haction.symm, rfl⟩

/-- On tables that decode, every rule that is there is stored with some fields. -/
theorem Decodable.exists_stores (h : t.Decodable) {id : Id .rule} (hid : id.text ∈ t.ids .rule) :
    ∃ rule, rule.id = id ∧ t.Stores rule := by
  obtain ⟨row, hrow, htext⟩ := List.mem_map.mp hid
  obtain ⟨rule, hkeeps⟩ := h.exists_keeps hrow
  exact ⟨rule, Id.text_injective (hkeeps.id.trans htext), row, hrow, hkeeps⟩

/-- On consistent tables, a rule is stored with one set of fields. -/
theorem Consistent.eq_of_stores (h : t.Consistent) {rule rule' : Rule} (hrule : t.Stores rule)
    (hrule' : t.Stores rule') (hid : rule.id = rule'.id) : rule = rule' := by
  obtain ⟨row, hrow, hkeeps⟩ := hrule
  obtain ⟨row', hrow', hkeeps'⟩ := hrule'
  have hrows : row = row' := by
    refine List.inj_on_of_nodup_map (h.ids_nodup .rule) hrow hrow' ?_
    rw [← hkeeps.id, ← hkeeps'.id, hid]
  rw [← hrows, ← RuleRow.decode_eq_ok_iff] at hkeeps'
  rw [← RuleRow.decode_eq_ok_iff] at hkeeps
  exact Except.ok.inj (hkeeps.symm.trans hkeeps')

/-- If no two rules share an identifier, the rows of an ACL are the rules that links put there. -/
theorem mem_ruleRowsOf (hnodup : (t.ids .rule).Nodup) {acl : String} {row : RuleRow} :
    row ∈ t.ruleRowsOf acl ↔ row ∈ t.rules ∧ ⟨acl, row.id⟩ ∈ t.links := by
  unfold ruleRowsOf
  simp only [List.mem_filterMap, List.mem_filter, decide_eq_true_eq, find?_key_eq_some_iff hnodup]
  constructor
  · rintro ⟨⟨_, _⟩, ⟨hl, rfl⟩, hrow, rfl⟩
    exact ⟨hrow, hl⟩
  · rintro ⟨hrow, hl⟩
    exact ⟨⟨acl, row.id⟩, ⟨hl, rfl⟩, hrow, rfl⟩

/-- On consistent tables, the rows of an ACL are the rules that links put there. -/
theorem Consistent.mem_ruleRowsOf (h : t.Consistent) {acl : String} {row : RuleRow} :
    row ∈ t.ruleRowsOf acl ↔ row ∈ t.rules ∧ ⟨acl, row.id⟩ ∈ t.links :=
  Tables.mem_ruleRowsOf (h.ids_nodup .rule)

/-- The rules of an ACL have identifiers that links name, in the order of the links. -/
theorem ids_ruleRowsOf_sublist (t : Tables) (acl : String) :
    ((t.ruleRowsOf acl).map (·.id)).Sublist (t.links.map (·.rule)) := by
  have hfound (ls : List LinkRow) :
      ((ls.filterMap fun l => t.rules.find? (·.id = l.rule)).map (·.id)).Sublist
        (ls.map (·.rule)) := by
    induction ls with
    | nil => exact List.Sublist.refl _
    | cons l ls ih =>
      rw [List.filterMap_cons]
      cases hrow : t.rules.find? (·.id = l.rule) with
      | none => exact ih.cons l.rule
      | some row =>
        have hid : row.id = l.rule := by simpa using List.find?_some hrow
        rw [List.map_cons, List.map_cons, hid]
        exact ih.cons_cons l.rule
  unfold ruleRowsOf
  exact (hfound _).trans (List.filter_sublist.map _)

/-- On consistent tables, the rules of an ACL have the identifiers that its links name, in the order
of the links. -/
theorem Consistent.ids_ruleRowsOf (h : t.Consistent) (acl : String) :
    (t.ruleRowsOf acl).map (·.id) = (t.links.filter (·.acl = acl)).map (·.rule) := by
  unfold ruleRowsOf
  rw [List.map_filterMap, ← List.filterMap_eq_map]
  apply List.filterMap_congr
  -- No link is lost in the search for its rule.
  intro l hl
  have hrule : l.rule ∈ t.ids .rule := h.link_rule (List.mem_of_mem_filter hl)
  obtain ⟨row, hrow, hid⟩ := List.mem_map.mp hrule
  have hfound := (find?_key_eq_some_iff (h.ids_nodup .rule)).mpr ⟨hrow, hid⟩
  rw [hfound, Option.map_some, hid]
  rfl

/-- On consistent tables that decode, the rules of an ACL are listed: each rule that the ACL holds,
and no other, each of them once. -/
theorem aclRules_spec (hfit : t.Consistent) (hdecodes : t.Decodable) {acl : Id .acl}
    (hacl : acl.text ∈ t.ids .acl) :
    ∃ rules, t.aclRules acl = .ok rules ∧ (rules.map (·.id)).Nodup ∧
      ∀ rule, rule ∈ rules ↔ t.Holds acl rule := by
  have hrows : ∀ row ∈ t.ruleRowsOf acl.text, ∃ rule, row.decode = .ok rule := by
    intro row hrow
    obtain ⟨rule, hkeeps⟩ := hdecodes.exists_keeps (hfit.mem_ruleRowsOf.mp hrow).1
    exact ⟨rule, RuleRow.decode_eq_ok_iff.mpr hkeeps⟩
  obtain ⟨rules, hlisting⟩ := exists_listing RuleRow.order hrows
  refine ⟨rules, ?_, ?_, ?_⟩
  · unfold aclRules
    rw [require_eq_ok_iff.mpr hacl]
    exact hlisting
  · -- A rule that were listed twice would have two links.
    have hperm := listing_perm (fun rule : Rule => rule.id.text) (·.id)
      (fun row rule h => (RuleRow.decode_eq_ok_iff.mp h).id) hlisting
    have hlinks : (t.links.map (·.rule)).Nodup :=
      hfit.links_perm.nodup_iff.mpr (hfit.ids_nodup .rule)
    have htexts : (rules.map fun rule => rule.id.text).Nodup :=
      hperm.nodup_iff.mpr ((ids_ruleRowsOf_sublist t acl.text).nodup hlinks)
    exact List.Nodup.of_map (·.text) (by rw [List.map_map]; exact htexts)
  · intro rule
    rw [mem_listing hlisting]
    simp only [hfit.mem_ruleRowsOf, RuleRow.decode_eq_ok_iff]
    constructor
    · rintro ⟨row, ⟨hrow, hlink⟩, hkeeps⟩
      rw [← hkeeps.id] at hlink
      exact ⟨hlink, row, hrow, hkeeps⟩
    · rintro ⟨hlink, row, hrow, hkeeps⟩
      rw [hkeeps.id] at hlink
      exact ⟨row, ⟨hrow, hlink⟩, hkeeps⟩

/-! ## Grants and members -/

/-- Rows that are read as an identifier and a comment are listed as they are stored, if the
identifiers decode. -/
theorem entries_perm {α : Type} {kind : Kind} {decode : α → Except Error (Id kind × String)}
    {id comment : α → String}
    (hdecode : ∀ r, decode r = do return (← decodeId kind 0 (id r), comment r))
    (order : α → α → Ordering) {rows : List α} (hrows : ∀ r ∈ rows, isUuid (id r) = true) :
    ∃ listed, (sortedBy order rows).mapM decode = .ok listed ∧
      (listed.map fun e => (e.1.text, e.2)).Perm (rows.map fun r => (id r, comment r)) := by
  have hcells (r : α) (e : Id kind × String) :
      decode r = .ok e ↔ (e.1.text, e.2) = (id r, comment r) := by
    simp only [hdecode, bind_eq_ok_iff, decodeId_eq_ok_iff, Prod.mk.injEq]
    constructor
    · rintro ⟨found, hid, heq⟩
      obtain rfl := Except.ok.inj heq
      exact ⟨hid, rfl⟩
    · rintro ⟨hid, hcomment⟩
      exact ⟨e.1, hid, congrArg Except.ok (Prod.ext rfl hcomment.symm)⟩
  obtain ⟨listed, hlisting⟩ := exists_listing order fun r hr =>
    ⟨(⟨id r, hrows r hr⟩, comment r), (hcells r _).mpr rfl⟩
  exact ⟨listed, hlisting, listing_perm (fun e => (e.1.text, e.2)) (fun r => (id r, comment r))
    (fun r e h => (hcells r e).mp h) hlisting⟩

end Tables

end ProxyPolicy.Policy
