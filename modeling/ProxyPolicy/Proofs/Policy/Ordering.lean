import ProxyPolicy.Proofs.Policy.Removal
import ProxyPolicy.Proofs.Text.Octets

/-!
# Complete and ordered listings

A listing shows every entity once, in the order of the comments; an ACL shows the rules that links
put there in the order of their comments, then of their types as they are spelled, then of their
values (`Store.listings_exact`). The order is that of the octets of the texts (`octets`).

Rows are sorted before they are decoded, and a comment that was never given comes before the empty
comment while both read the same. For entities this does no harm, as equal comments may come in any
order. For rules it would, since their types come next; but every rule that a call has written has a
comment (`Tables.Written`).
-/

namespace ProxyPolicy.Policy

open ProxyPolicy.Text

/-! ## Rows that are sorted -/

/-- Comments are read in the order in which they are stored. -/
theorem octets_le_of_isLE_compare {a b : Option String} (h : (compare a b).isLE = true) :
    octets (a.getD "") ≤ octets (b.getD "") := by
  cases a with
  | none => exact List.nil_le _
  | some comment =>
    cases b with
    | none => cases h
    | some comment' => exact isLE_compare_iff.mp h

/-! ## Entities -/

/-- A listing of entities is complete and in order: it shows what is stored, no entity twice, and in
the order of the comments. -/
structure ListsAll {β γ : Type} {kind : Kind} (ident : β → Id kind) (comment : β → String)
    (cells : β → γ) (stored : List γ) (listed : List β) : Prop where
  /-- The cells of the entities are those that are stored. -/
  complete : (listed.map cells).Perm stored
  /-- No entity is shown twice. -/
  once : (listed.map ident).Nodup
  /-- The comments do not descend. -/
  ordered : listed.Pairwise fun a b => octets (comment a) ≤ octets (comment b)

/-- Entities whose identifiers decode and are distinct are listed completely and in order. -/
theorem exists_listsAll {α β γ : Type} {kind : Kind} {decode : α → Except Error β}
    {id : α → String} {make : α → Id kind → β} {rowComment : α → Option String} {rows : List α}
    (hdecode : ∀ r, decode r = do return make r (← decodeId kind 0 (id r)))
    {ident : β → Id kind} {comment : β → String} {cells : β → γ} {rowCells : α → γ}
    (hident : ∀ r i, ident (make r i) = i)
    (hcomment : ∀ r i, comment (make r i) = (rowComment r).getD "")
    (hcells : ∀ r i, i.text = id r → cells (make r i) = rowCells r)
    (hrows : ∀ r ∈ rows, isUuid (id r) = true) (hnodup : (rows.map id).Nodup) :
    ∃ listed, (sortedBy (compareOn rowComment) rows).mapM decode = .ok listed ∧
      ListsAll ident comment cells (rows.map rowCells) listed := by
  obtain ⟨listed, hlisted, hperm⟩ :=
    entities_perm hdecode ident hident (compareOn rowComment) hrows
  refine ⟨listed, hlisted, ?_, ?_, ?_⟩
  · refine listing_perm cells rowCells ?_ hlisted
    intro r x hx
    obtain ⟨i, hi, rfl⟩ := (decode_eq_ok_iff hdecode).mp hx
    exact hcells r i hi
  · refine List.Nodup.of_map (·.text) ?_
    rw [List.map_map]
    exact hperm.nodup_iff.mpr hnodup
  · refine pairwise_of_mapM ?_ hlisted (pairwise_sortedBy (compareOn rowComment) rows)
    intro r r' x x' hx hx' hle
    obtain ⟨i, -, rfl⟩ := (decode_eq_ok_iff hdecode).mp hx
    obtain ⟨i', -, rfl⟩ := (decode_eq_ok_iff hdecode).mp hx'
    rw [hcomment, hcomment]
    exact octets_le_of_isLE_compare hle

/-! ## Rules -/

/-- Whether a rule may stand before another: by the octets of its comment, then of the spelling of
its type, then of its value. -/
def Rule.MayPrecede (a b : Rule) : Prop :=
  octets a.fields.comment < octets b.fields.comment ∨
    octets a.fields.comment = octets b.fields.comment ∧
      (octets a.fields.type.text < octets b.fields.type.text ∨
        octets a.fields.type.text = octets b.fields.type.text ∧
          octets a.fields.value ≤ octets b.fields.value)

/-- Whether all rules have been written by calls, which give each rule a comment. -/
def Tables.Written (t : Tables) : Prop := ∀ r ∈ t.rules, ∃ f : RuleFields, r = f.row r.id

/-- In every state that can be reached, all rules have been written by calls. -/
theorem Store.Reachable.written {accepts : String → Bool} {s : Store} (h : s.Reachable accepts) :
    s.tables.Written := by
  obtain ⟨calls, rfl⟩ := h
  refine transcript_keeps (P := Tables.Written) ?_ calls (fun r hr => absurd hr List.not_mem_nil)
  intro op t t' heffect hwritten r hr
  rcases row_of_effect heffect hr with hold | ⟨f, id, rfl, -⟩
  · exact hwritten r hold
  · exact ⟨f, rfl⟩

/-- Rules that have been written are decoded in the order in which they are stored. -/
theorem mayPrecede_of_isLE {r r' : RuleRow} {rule rule' : Rule}
    (hr : ∃ f : RuleFields, r = f.row r.id) (hr' : ∃ f : RuleFields, r' = f.row r'.id)
    (hkeeps : r.Keeps rule) (hkeeps' : r'.Keeps rule') (h : (RuleRow.order r r').isLE = true) :
    rule.MayPrecede rule' := by
  have hcomment {row : RuleRow} {entry : Rule} (hrow : ∃ f : RuleFields, row = f.row row.id)
      (hentry : row.Keeps entry) : row.comment = some entry.fields.comment := by
    obtain ⟨f, heq⟩ := hrow
    rw [hentry.comment, heq]
    rfl
  replace h : ((compare r.comment r'.comment).then
      ((compare r.type r'.type).then (compare r.value r'.value))).isLE = true := h
  -- Both comments are given, so that they are compared as texts.
  rw [hcomment hr hkeeps, hcomment hr' hkeeps', ← hkeeps.type, ← hkeeps'.type, ← hkeeps.value,
    ← hkeeps'.value] at h
  replace h : ((compare rule.fields.comment rule'.fields.comment).then
      ((compare rule.fields.type.text rule'.fields.type.text).then
        (compare rule.fields.value rule'.fields.value))).isLE = true := h
  rw [Ordering.isLE_then_iff_or, Ordering.isLE_then_iff_or, isLE_compare_iff, compare_eq_lt_iff,
    compare_eq_lt_iff, Std.compare_eq_iff_eq, Std.compare_eq_iff_eq, ← octets_inj,
    ← octets_inj] at h
  exact h

/-! ## Listings -/

namespace Tables

variable {t : Tables}

/-- On consistent tables that decode, the ACLs are listed completely and in order. -/
theorem exists_listAcls_ordered (hfit : t.Consistent) (hdecodes : t.Decodable) :
    ∃ acls, t.listAcls = .ok acls ∧ ListsAll Acl.id Acl.comment (fun a => (a.id.text, a.comment))
      (t.acls.map fun r => (r.id, r.comment.getD "")) acls :=
  exists_listsAll decode_acl (fun _ _ => rfl) (fun _ _ => rfl) (fun _ _ h => by rw [h])
    (fun r hr => hdecodes.isUuid_ids .acl r.id (List.mem_map_of_mem hr)) (hfit.ids_nodup .acl)

/-- On consistent tables that decode, the groups are listed completely and in order. -/
theorem exists_listGroups_ordered (hfit : t.Consistent) (hdecodes : t.Decodable) :
    ∃ groups, t.listGroups = .ok groups ∧
      ListsAll Group.id Group.comment (fun g => (g.id.text, g.comment))
        (t.groups.map fun r => (r.id, r.comment.getD "")) groups :=
  exists_listsAll decode_group (fun _ _ => rfl) (fun _ _ => rfl) (fun _ _ h => by rw [h])
    (fun r hr => hdecodes.isUuid_ids .group r.id (List.mem_map_of_mem hr)) (hfit.ids_nodup .group)

/-- On consistent tables that decode, the sources are listed completely and in order. -/
theorem exists_listSources_ordered (hfit : t.Consistent) (hdecodes : t.Decodable) :
    ∃ sources, t.listSources = .ok sources ∧
      ListsAll Source.id Source.comment (fun x => (x.id.text, x.source, x.comment))
        (t.sources.map fun r => (r.id, r.source, r.comment.getD "")) sources :=
  exists_listsAll decode_source (fun _ _ => rfl) (fun _ _ => rfl) (fun _ _ h => by rw [h])
    (fun r hr => hdecodes.isUuid_ids .source r.id (List.mem_map_of_mem hr))
    (hfit.ids_nodup .source)

/-- On consistent tables, an ACL lists a rule for each link that names it. -/
theorem perm_aclRules (hfit : t.Consistent) {acl : Id .acl} {rules : List Rule}
    (hrules : t.aclRules acl = .ok rules) :
    (rules.map (·.id.text)).Perm ((t.links.filter (·.acl = acl.text)).map (·.rule)) := by
  obtain ⟨-, -, hlisting⟩ := bind_eq_ok_iff.mp hrules
  rw [← hfit.ids_ruleRowsOf]
  exact listing_perm (fun rule : Rule => rule.id.text) (·.id)
    (fun r rule h => (RuleRow.decode_eq_ok_iff.mp h).id) hlisting

/-- The rules of an ACL come in their order, if all rules have been written by calls. -/
theorem pairwise_aclRules (hfit : t.Consistent) (hwritten : t.Written) {acl : Id .acl}
    {rules : List Rule} (hrules : t.aclRules acl = .ok rules) :
    rules.Pairwise Rule.MayPrecede := by
  obtain ⟨-, -, hlisting⟩ := bind_eq_ok_iff.mp hrules
  have hall : ∀ r ∈ sortedBy RuleRow.order (t.ruleRowsOf acl.text),
      ∃ f : RuleFields, r = f.row r.id := by
    intro r hr
    have hrow := (sortedBy_perm RuleRow.order _).mem_iff.mp hr
    exact hwritten r (hfit.mem_ruleRowsOf.mp hrow).1
  have hsorted := (pairwise_sortedBy RuleRow.order (t.ruleRowsOf acl.text)).imp_of_mem
    fun {r r'} hr hr' hle => And.intro (hall r hr) (And.intro (hall r' hr') hle)
  refine pairwise_of_mapM ?_ hlisting hsorted
  rintro r r' rule rule' hx hx' ⟨hr, hr', hle⟩
  exact mayPrecede_of_isLE hr hr' (RuleRow.decode_eq_ok_iff.mp hx)
    (RuleRow.decode_eq_ok_iff.mp hx') hle

end Tables

/-- In every state that can be reached, the listings are complete and in order. ACLs, groups and
sources are listed as they are stored, each once, and their comments do not descend. An ACL lists
the rules that links put there, each once, in the order of their comments, types and values. Texts
are compared by their octets, and types by their spellings, which are in another order than the
types are declared in. -/
theorem Store.listings_exact {accepts : String → Bool} {s : Store} (hs : s.Reachable accepts) :
    (∃ acls, s.tables.listAcls = .ok acls ∧
      ListsAll Acl.id Acl.comment (fun a => (a.id.text, a.comment))
        (s.tables.acls.map fun r => (r.id, r.comment.getD "")) acls) ∧
    (∃ groups, s.tables.listGroups = .ok groups ∧
      ListsAll Group.id Group.comment (fun g => (g.id.text, g.comment))
        (s.tables.groups.map fun r => (r.id, r.comment.getD "")) groups) ∧
    (∃ sources, s.tables.listSources = .ok sources ∧
      ListsAll Source.id Source.comment (fun x => (x.id.text, x.source, x.comment))
        (s.tables.sources.map fun r => (r.id, r.source, r.comment.getD "")) sources) ∧
    (∀ acl, s.tables.has acl = true → ∃ rules, s.tables.aclRules acl = .ok rules ∧
      (rules.map (·.id.text)).Perm
        ((s.tables.links.filter (·.acl = acl.text)).map (·.rule)) ∧
      (rules.map (·.id)).Nodup ∧ (∀ rule, rule ∈ rules ↔ s.tables.Holds acl rule) ∧
      rules.Pairwise Rule.MayPrecede) ∧
    [RuleType.domain, .exact, .httpsDomain, .regex].Pairwise fun a b =>
      octets a.text < octets b.text := by
  have hfit : s.tables.Consistent := hs.consistent
  have hdecodes : s.tables.Decodable := hs.decodable
  refine ⟨Tables.exists_listAcls_ordered hfit hdecodes,
    Tables.exists_listGroups_ordered hfit hdecodes,
    Tables.exists_listSources_ordered hfit hdecodes, fun acl hacl => ?_, by decide⟩
  obtain ⟨rules, hrules, hnodup, hholds⟩ :=
    Tables.aclRules_spec hfit hdecodes (Tables.has_eq_true_iff.mp hacl)
  exact ⟨rules, hrules, Tables.perm_aclRules hfit hrules, hnodup, hholds,
    Tables.pairwise_aclRules hfit hs.written hrules⟩

/-- Comments with a NUL and with a character outside ASCII, and rules that differ in their types
alone: `exact` comes before `https-domain`. -/
theorem Store.listings_exact_mixed :
    let a : Id .acl := ⟨"00000000-0000-4000-8000-000000000001", by decide⟩
    let b : Id .acl := ⟨"00000000-0000-4000-8000-000000000002", by decide⟩
    let c : Id .acl := ⟨"00000000-0000-4000-8000-000000000003", by decide⟩
    let tunnel : Id .rule := ⟨"00000000-0000-4000-8000-000000000004", by decide⟩
    let page : Id .rule := ⟨"00000000-0000-4000-8000-000000000005", by decide⟩
    let calls : List Call := [.change (.createAcl a "é"), .change (.createAcl b "z"),
      .change (.createAcl c "z\x00"),
      .change (.createRule tunnel b ⟨.httpsDomain, "x", .block, ""⟩),
      .change (.createRule page b ⟨.exact, "x", .block, ""⟩)]
    let s := (Store.empty.transcript (fun _ => true) calls).2
    s.Reachable (fun _ => true) ∧ s.tables.has b = true ∧
      s.tables.listAcls = .ok [⟨b, "z"⟩, ⟨c, "z\x00"⟩, ⟨a, "é"⟩] ∧
      ([⟨b, "z"⟩, ⟨c, "z\x00"⟩, ⟨a, "é"⟩] : List Acl).Pairwise
        (fun x y => octets x.comment ≤ octets y.comment) ∧
      ∃ rules, s.tables.aclRules b = .ok rules ∧ rules.map (·.id) = [page, tunnel] ∧
        rules.Pairwise Rule.MayPrecede := by
  intro a b c tunnel page calls s
  have hs : s.Reachable (fun _ => true) := ⟨calls, rfl⟩
  have hacl : s.tables.has b = true := by decide +kernel
  have hacls : s.tables.listAcls = .ok [⟨b, "z"⟩, ⟨c, "z\x00"⟩, ⟨a, "é"⟩] := by
    have hrows : s.tables.acls =
        [⟨a.text, some "é"⟩, ⟨b.text, some "z"⟩, ⟨c.text, some "z\x00"⟩] := by decide +kernel
    rw [Tables.listAcls, hrows, sortedBy_cons, sortedBy_cons, sortedBy_cons, sortedBy,
      List.mergeSort_nil]
    decide +kernel
  have hrules : s.tables.aclRules b =
      .ok [⟨page, ⟨.exact, "x", .block, ""⟩⟩, ⟨tunnel, ⟨.httpsDomain, "x", .block, ""⟩⟩] := by
    have hrows : s.tables.ruleRowsOf b.text =
        [RuleFields.row ⟨.httpsDomain, "x", .block, ""⟩ tunnel.text,
          RuleFields.row ⟨.exact, "x", .block, ""⟩ page.text] := by decide +kernel
    rw [Tables.aclRules, hrows, sortedBy_cons, sortedBy_cons, sortedBy, List.mergeSort_nil]
    decide +kernel
  obtain ⟨⟨acls, hlisted, hall⟩, -, -, hlists, -⟩ := listings_exact hs
  obtain rfl := Except.ok.inj (hacls.symm.trans hlisted)
  obtain ⟨rules, hshown, -, -, -, hordered⟩ := hlists b hacl
  obtain rfl := Except.ok.inj (hrules.symm.trans hshown)
  exact ⟨hs, hacl, hacls, hall.ordered, _, hrules, rfl, hordered⟩

end ProxyPolicy.Policy
