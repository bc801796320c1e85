import ProxyPolicy.Proofs.Policy.Listing

/-!
# Replacing what belongs to a group

The members of a group, and its grants, are replaced from a form: a list of texts that should be
identifiers, and a list of comments. `Refusal` says why such a replacement is refused, in the order
in which the reasons are found, and `Acceptable` what it takes that none applies. A replacement
fails for the first reason or else succeeds, and then the group has exactly what the form says,
whatever it had before, while nothing else has changed (`Store.replaceFromTexts_exact`).

Members and grants are replaced in the same way, which `Store.replaced` states once for both.
-/

namespace ProxyPolicy.Policy

/-! ## Forms -/

/-- Why a replacement is refused that a form asks for. Each reason supposes that none before it
applies, and names the first text to which it applies. -/
inductive Refusal (t : Tables) (kind : Kind) (group : Id .group) (texts comments : List String) :
    Error → Prop where
  /-- Texts and comments do not pair up. -/
  | lengths (hlength : texts.length ≠ comments.length) :
    Refusal t kind group texts comments (.lengthMismatch kind texts.length comments.length)
  /-- A text is no identifier. -/
  | shape (hlength : texts.length = comments.length) {x : String}
    (hfirst : texts.find? (!isUuid ·) = some x) :
    Refusal t kind group texts comments (.invalidId kind x)
  /-- An identifier has been seen before. -/
  | repeated (hlength : texts.length = comments.length) (hshape : ∀ x ∈ texts, isUuid x = true)
    {before after : List String} {x : String} (htexts : texts = before ++ x :: after)
    (hbefore : before.Nodup) (hx : x ∈ before) :
    Refusal t kind group texts comments (.repeated kind x)
  /-- The group is unknown. -/
  | group (hlength : texts.length = comments.length) (hshape : ∀ x ∈ texts, isUuid x = true)
    (hnodup : texts.Nodup) (hgroup : group.text ∉ t.ids .group) :
    Refusal t kind group texts comments (.notFound .group group.text)
  /-- An identifier is unknown. -/
  | entity (hlength : texts.length = comments.length) (hshape : ∀ x ∈ texts, isUuid x = true)
    (hnodup : texts.Nodup) (hgroup : group.text ∈ t.ids .group) {x : String}
    (hfirst : texts.find? (· ∉ t.ids kind) = some x) :
    Refusal t kind group texts comments (.notFound kind x)

/-- A form that asks for a replacement that can be made. -/
structure Acceptable (t : Tables) (kind : Kind) (group : Id .group)
    (texts comments : List String) : Prop where
  /-- Texts and comments pair up. -/
  lengths : texts.length = comments.length
  /-- The texts are identifiers. -/
  shape : ∀ x ∈ texts, isUuid x = true
  /-- None of them comes twice. -/
  nodup : texts.Nodup
  /-- The group is known. -/
  group : group.text ∈ t.ids .group
  /-- All of them are known. -/
  known : ∀ x ∈ texts, x ∈ t.ids kind

/-- The search for a repeated member finds the first that has been seen, in the list or before
it. -/
theorem firstRepeated?_eq_some_iff {α : Type} [BEq α] [LawfulBEq α] (seen xs : List α) (x : α) :
    firstRepeated? seen xs = some x ↔
      ∃ before after, xs = before ++ x :: after ∧ before.Nodup ∧ (∀ y ∈ before, y ∉ seen) ∧
        (x ∈ before ∨ x ∈ seen) := by
  induction xs generalizing seen with
  | nil => simp [firstRepeated?]
  | cons y ys ih =>
    unfold firstRepeated?
    by_cases hy : y ∈ seen
    · rw [if_pos (List.contains_iff_mem.mpr hy), Option.some.injEq]
      constructor
      · rintro rfl
        exact ⟨[], ys, rfl, List.nodup_nil, by simp, .inr hy⟩
      · -- A member that has been seen ends the search where it stands.
        rintro ⟨_ | ⟨z, before⟩, after, heq, -, hnew, -⟩
        · exact (List.cons.inj heq).1
        · obtain ⟨rfl, -⟩ := List.cons.inj heq
          exact absurd hy (hnew y List.mem_cons_self)
    · -- The search goes on with one more member seen, which the list before the hit then holds.
      rw [if_neg (by simpa using hy), ih]
      constructor
      · rintro ⟨before, after, rfl, hnodup, hnew, hx⟩
        refine ⟨y :: before, after, rfl, ?_, ?_, ?_⟩
        · exact List.nodup_cons.mpr ⟨fun hmem => hnew y hmem List.mem_cons_self, hnodup⟩
        · intro z hz hseen
          rcases List.mem_cons.mp hz with rfl | hz
          · exact hy hseen
          · exact hnew z hz (List.mem_cons_of_mem y hseen)
        · rcases hx with hx | hx
          · exact .inl (List.mem_cons_of_mem y hx)
          · rcases List.mem_cons.mp hx with rfl | hx
            · exact .inl List.mem_cons_self
            · exact .inr hx
      · rintro ⟨_ | ⟨z, before⟩, after, heq, hnodup, hnew, hx⟩
        · obtain ⟨rfl, -⟩ := List.cons.inj heq
          exact absurd (hx.resolve_left List.not_mem_nil) hy
        · obtain ⟨rfl, rfl⟩ := List.cons.inj heq
          rw [List.nodup_cons] at hnodup
          refine ⟨before, after, rfl, hnodup.2, ?_, ?_⟩
          · intro z hz hseen
            rcases List.mem_cons.mp hseen with rfl | hseen
            · exact hnodup.1 hz
            · exact hnew z (List.mem_cons_of_mem y hz) hseen
          · rcases hx with hx | hx
            · rcases List.mem_cons.mp hx with rfl | hx
              · exact .inr List.mem_cons_self
              · exact .inl hx
            · exact .inr (List.mem_cons_of_mem y hx)

/-- A form is refused or acceptable. -/
theorem refusal_or_acceptable (t : Tables) (kind : Kind) (group : Id .group)
    (texts comments : List String) :
    (∃ e, Refusal t kind group texts comments e) ∨ Acceptable t kind group texts comments := by
  by_cases hlength : texts.length = comments.length
  · cases hshape : texts.find? (!isUuid ·) with
    | some x => exact .inl ⟨_, .shape hlength hshape⟩
    | none =>
      have hids : ∀ x ∈ texts, isUuid x = true := by simpa using List.find?_eq_none.mp hshape
      cases hrepeated : firstRepeated? [] texts with
      | some x =>
        obtain ⟨before, after, htexts, hbefore, -, hx⟩ :=
          (firstRepeated?_eq_some_iff [] texts x).mp hrepeated
        exact .inl ⟨_, .repeated hlength hids htexts hbefore (hx.resolve_right List.not_mem_nil)⟩
      | none =>
        have hnodup := ((firstRepeated?_eq_none_iff [] texts).mp hrepeated).1
        by_cases hgroup : group.text ∈ t.ids .group
        · cases hunknown : texts.find? (· ∉ t.ids kind) with
          | some x => exact .inl ⟨_, .entity hlength hids hnodup hgroup hunknown⟩
          | none =>
            have hknown : ∀ x ∈ texts, x ∈ t.ids kind := by
              simpa using List.find?_eq_none.mp hunknown
            exact .inr ⟨hlength, hids, hnodup, hgroup, hknown⟩
        · exact .inl ⟨_, .group hlength hids hnodup hgroup⟩
  · exact .inl ⟨_, .lengths hlength⟩

/-! ## Entries of a form -/

namespace Id

variable {kind : Kind} {texts comments : List String}

/-- An identifier is parsed from its text alone. -/
theorem parse_eq_ok_iff {text : String} {id : Id kind} :
    parse kind text = .ok id ↔ id.text = text :=
  idOfText_eq_ok_iff

/-- The first text that is no identifier fails a form. -/
theorem pairWithComments_of_find? (hlength : texts.length = comments.length) {x : String}
    (hfirst : texts.find? (!isUuid ·) = some x) :
    pairWithComments kind texts comments = .error (.invalidId kind x) := by
  unfold pairWithComments
  rw [if_neg (not_not_intro hlength)]
  -- The induction is on both lists, which are of one length.
  induction texts generalizing comments with
  | nil => cases hfirst
  | cons text texts ih =>
    cases comments with
    | nil => cases hlength
    | cons comment comments =>
      rw [List.zip_cons_cons, List.mapM_cons]
      by_cases hshape : isUuid text = true
      · rw [List.find?_cons_of_neg (by simp [hshape])] at hfirst
        rw [ih (Nat.succ.inj hlength) hfirst]
        simp only [parse, hshape, dite_true]
        rfl
      · rw [List.find?_cons_of_pos (by simp [hshape])] at hfirst
        obtain rfl := Option.some.inj hfirst
        simp only [parse, hshape]
        rfl

/-- A form of identifiers is read as it is written. -/
theorem pairWithComments_of_shape (kind : Kind) (hlength : texts.length = comments.length)
    (hshape : ∀ x ∈ texts, isUuid x = true) :
    ∃ entries : List (Id kind × String), pairWithComments kind texts comments = .ok entries ∧
      (entries.map fun e => (e.1.text, e.2)) = texts.zip comments := by
  have hparse (pair : String × String) (e : Id kind × String) :
      (do return (← parse kind pair.1, pair.2) : Except Error (Id kind × String)) = .ok e ↔
        (e.1.text, e.2) = pair := by
    simp only [bind_eq_ok_iff, parse_eq_ok_iff]
    constructor
    · rintro ⟨id, hid, heq⟩
      obtain rfl := Except.ok.inj heq
      exact Prod.ext hid rfl
    · rintro rfl
      exact ⟨e.1, rfl, rfl⟩
  have hpairs : ∀ pair ∈ texts.zip comments, ∃ e : Id kind × String,
      (do return (← parse kind pair.1, pair.2)) = .ok e := by
    intro pair hpair
    exact ⟨(⟨pair.1, hshape pair.1 (List.of_mem_zip hpair).1⟩, pair.2), (hparse pair _).mpr rfl⟩
  obtain ⟨entries, hentries⟩ := exists_mapM_eq_ok_iff.mpr hpairs
  refine ⟨entries, ?_, ?_⟩
  · unfold pairWithComments
    rw [if_neg (not_not_intro hlength)]
    exact hentries
  · have hmap := map_eq_of_mapM (fun e => (e.1.text, e.2)) (fun pair => pair)
      (fun pair e h => (hparse pair e).mp h) hentries
    rw [hmap, List.map_id']

end Id

/-! ## Replaced rows -/

namespace Tables

/-- Of rows that are put in place of those of a group, those of the group are the new ones. -/
theorem filter_replaced {α : Type} {key : α → String} {group : String} (rows : List α)
    {new : List α} (hnew : ∀ r ∈ new, key r = group) :
    (rows.filter (key · ≠ group) ++ new).filter (key · = group) = new := by
  have hold : (rows.filter (key · ≠ group)).filter (key · = group) = [] := by
    rw [List.filter_eq_nil_iff]
    intro r hr
    simpa using (List.mem_filter.mp hr).2
  rw [List.filter_append, hold, List.nil_append, List.filter_eq_self]
  simpa using hnew

/-- Of rows that are put in place of those of a group, those of another group are the old ones. -/
theorem filter_replaced_of_ne {α : Type} {key : α → String} {group other : String}
    (hne : other ≠ group) (rows : List α) {new : List α} (hnew : ∀ r ∈ new, key r = group) :
    (rows.filter (key · ≠ group) ++ new).filter (key · = other) =
      rows.filter (key · = other) := by
  have hadded : new.filter (key · = other) = [] := by
    rw [List.filter_eq_nil_iff]
    intro r hr
    rw [hnew r hr, decide_eq_true_eq]
    exact hne.symm
  rw [List.filter_append, hadded, List.append_nil, List.filter_filter]
  refine List.filter_congr fun r _ => ?_
  by_cases hr : key r = other
  · simp [hr, hne]
  · simp [hr]

variable {t : Tables} {group other : Id .group}

/-- Rows that are put in place of those of a group, one for each entry, are listed as the
entries. -/
theorem replaced_perm {α : Type} {kind : Kind} {decode : α → Except Error (Id kind × String)}
    {key id comment : α → String} {row : Id kind × String → α} {group : String}
    (hdecode : ∀ r, decode r = do return (← decodeId kind 0 (id r), comment r))
    (hrow : ∀ e, key (row e) = group ∧ id (row e) = e.1.text ∧ comment (row e) = e.2)
    (order : α → α → Ordering) (rows : List α) (entries : List (Id kind × String)) :
    ∃ listed,
      (sortedBy order
        ((rows.filter (key · ≠ group) ++ entries.map row).filter (key · = group))).mapM decode =
          .ok listed ∧
      (listed.map fun e => (e.1.text, e.2)).Perm (entries.map fun e => (e.1.text, e.2)) := by
  have hids : ∀ r ∈ entries.map row, isUuid (id r) = true := by
    refine List.forall_mem_map.mpr fun e _ => ?_
    rw [(hrow e).2.1]
    exact e.1.isUuid_text
  have hcells : (entries.map row).map (fun r => (id r, comment r)) =
      entries.map fun e => (e.1.text, e.2) := by
    rw [List.map_map]
    exact List.map_congr_left fun e _ => Prod.ext (hrow e).2.1 (hrow e).2.2
  rw [filter_replaced rows (List.forall_mem_map.mpr fun e _ => (hrow e).1), ← hcells]
  exact entries_perm hdecode order hids

/-- A group whose members are replaced has the new ones. -/
theorem groupSources_withMembers (hgroup : group.text ∈ t.ids .group)
    (members : List (Id .source × String)) :
    ∃ listed, (t.withMembers group members).groupSources group = .ok listed ∧
      (listed.map fun e => (e.1.text, e.2)).Perm (members.map fun e => (e.1.text, e.2)) := by
  have hknown : (t.withMembers group members).require group = .ok () :=
    require_eq_ok_iff.mpr hgroup
  have hdecode (m : MemberRow) :
      m.decode = do return (← decodeId .source 0 m.source, m.comment.getD "") := rfl
  unfold groupSources
  rw [hknown]
  refine replaced_perm hdecode ?_ _ t.members members
  intro e
  exact ⟨rfl, rfl, rfl⟩

/-- A group that is granted new ACLs has those. -/
theorem groupAcls_withGrants (hgroup : group.text ∈ t.ids .group)
    (grants : List (Id .acl × String)) :
    ∃ listed, (t.withGrants group grants).groupAcls group = .ok listed ∧
      (listed.map fun e => (e.1.text, e.2)).Perm (grants.map fun e => (e.1.text, e.2)) := by
  have hknown : (t.withGrants group grants).require group = .ok () :=
    require_eq_ok_iff.mpr hgroup
  have hdecode (g : GrantRow) :
      g.decode = do return (← decodeId .acl 0 g.acl, g.comment.getD "") := rfl
  unfold groupAcls
  rw [hknown]
  refine replaced_perm hdecode ?_ _ t.grants grants
  intro e
  exact ⟨rfl, rfl, rfl⟩

/-- A group keeps its members when those of another are replaced. -/
theorem groupSources_withMembers_of_ne (hne : other ≠ group)
    (members : List (Id .source × String)) :
    (t.withMembers group members).groupSources other = t.groupSources other := by
  have hrows : (t.withMembers group members).members.filter (·.group = other.text) =
      t.members.filter (·.group = other.text) :=
    filter_replaced_of_ne (fun heq => hne (Id.text_injective heq)) t.members
      (List.forall_mem_map.mpr fun _ _ => rfl)
  unfold groupSources
  rw [hrows]
  rfl

/-- A group keeps its grants when those of another are replaced. -/
theorem groupAcls_withGrants_of_ne (hne : other ≠ group) (grants : List (Id .acl × String)) :
    (t.withGrants group grants).groupAcls other = t.groupAcls other := by
  have hrows : (t.withGrants group grants).grants.filter (·.group = other.text) =
      t.grants.filter (·.group = other.text) :=
    filter_replaced_of_ne (fun heq => hne (Id.text_injective heq)) t.grants
      (List.forall_mem_map.mpr fun _ _ => rfl)
  unfold groupAcls
  rw [hrows]
  rfl

end Tables

/-! ## Replacements -/

/-- The search for a repeated member finds among texts what it finds among identifiers. -/
theorem firstRepeated?_map_text {kind : Kind} (seen ids : List (Id kind)) :
    firstRepeated? (seen.map (·.text)) (ids.map (·.text)) =
      (firstRepeated? seen ids).map (·.text) := by
  induction ids generalizing seen with
  | nil => rfl
  | cons id ids ih =>
    have hseen : id.text ∈ seen.map (·.text) ↔ id ∈ seen :=
      List.mem_map_of_injective fun _ _ => Id.text_injective
    rw [List.map_cons]
    unfold firstRepeated?
    by_cases hid : id ∈ seen
    · rw [if_pos (List.contains_iff_mem.mpr hid),
        if_pos (List.contains_iff_mem.mpr (hseen.mpr hid))]
      rfl
    · rw [if_neg (mt List.contains_iff_mem.mp hid),
        if_neg (mt List.contains_iff_mem.mp (mt hseen.mp hid))]
      exact ih (id :: seen)

namespace Store

variable {accepts : String → Bool} {kind : Kind} {group : Id .group} {texts comments : List String}
  {s : Store}

/-- What a replacement comes to that names these entities, none of which may come twice, and that
leaves the tables `t'` if the group and the entities are known. -/
def replaced (s : Store) (kind : Kind) (group : Id .group) (texts : List String) (t' : Tables) :
    Except Error Unit × Store :=
  match firstRepeated? [] texts with
  | some x => (.error (.repeated kind x), s)
  | none =>
    if group.text ∈ s.tables.ids .group then
      match texts.find? (· ∉ s.tables.ids kind) with
      | some x => (.error (.notFound kind x), s)
      | none => (.ok (), { s with tables := t' })
    else (.error (.notFound .group group.text), s)

/-- Without repetitions, a replacement asks for the group and then for the entities. -/
theorem replaced_of_nodup (hnodup : texts.Nodup) (t' : Tables) :
    s.replaced kind group texts t' =
      if group.text ∈ s.tables.ids .group then
        match texts.find? (· ∉ s.tables.ids kind) with
        | some x => (.error (.notFound kind x), s)
        | none => (.ok (), { s with tables := t' })
      else (.error (.notFound .group group.text), s) := by
  have hrepeated : firstRepeated? [] texts = none :=
    (firstRepeated?_eq_none_iff [] texts).mpr ⟨hnodup, fun _ _ => List.not_mem_nil⟩
  unfold replaced
  rw [hrepeated]

/-- A call is a replacement if its list is checked for repetitions and its transaction for
unknown entities. -/
theorem run_eq_replaced {op : Operation} {body : Transaction Unit} {t' : Tables}
    {entries : List (Id kind × String)} (hlocked : s.locked = false)
    (hplan : op.plan accepts maxBatch = do
      requireDistinct (entries.map Prod.fst)
      return some body)
    (houtcome : (entries.map Prod.fst).Nodup → body.outcome s.tables =
      if group.text ∈ s.tables.ids .group then s.tables.ifKnown Prod.fst entries t'
      else .error (.notFound .group group.text)) :
    s.run accepts op = s.replaced kind group (entries.map (·.1.text)) t' := by
  have hrepeated := firstRepeated?_map_text [] (entries.map Prod.fst)
  rw [List.map_nil, List.map_map] at hrepeated
  unfold run runBatched replaced
  -- The call looks for repeated identifiers, the replacement for repeated texts.
  rw [hplan, show entries.map (·.1.text) = entries.map ((·.text) ∘ Prod.fst) from rfl, hrepeated]
  cases hfirst : firstRepeated? [] (entries.map Prod.fst) with
  | some id =>
    unfold requireDistinct
    rw [hfirst]
    rfl
  | none =>
    have hnodup := ((firstRepeated?_eq_none_iff [] (entries.map Prod.fst)).mp hfirst).1
    rw [(requireDistinct_eq_ok_iff _).mpr hnodup]
    change s.write body = _
    rw [write_eq, hlocked, houtcome hnodup]
    by_cases hgroup : group.text ∈ s.tables.ids .group
    · -- The first entity that is unknown has the first text that is.
      rw [if_pos hgroup, Option.map_none, if_pos hgroup, List.find?_map]
      unfold Tables.ifKnown Function.comp
      cases entries.find? fun e => e.1.text ∉ s.tables.ids kind with
      | some e => rfl
      | none => rfl
    · rw [if_neg hgroup, Option.map_none, if_neg hgroup]
      rfl

/-- The members of a group are replaced by a replacement. -/
theorem run_replaceMembers (hlocked : s.locked = false) (members : List (Id .source × String)) :
    s.run accepts (.replaceMembers group members) =
      s.replaced .source group (members.map (·.1.text)) (s.tables.withMembers group members) :=
  run_eq_replaced hlocked rfl (Transaction.outcome_replaceMembers group members s.tables)

/-- The grants to a group are replaced by a replacement. -/
theorem run_replaceGrants (hlocked : s.locked = false) (grants : List (Id .acl × String)) :
    s.run accepts (.replaceGrants group grants) =
      s.replaced .acl group (grants.map (·.1.text)) (s.tables.withGrants group grants) :=
  run_eq_replaced hlocked rfl (Transaction.outcome_replaceGrants group grants s.tables)

/-- Makes the call that a form asks for, unless the form cannot be read. -/
def replaceFromTexts (accepts : String → Bool) (call : List (Id kind × String) → Operation)
    (texts comments : List String) (s : Store) : Except Error Unit × Store :=
  match Id.pairWithComments kind texts comments with
  | .error e => (.error e, s)
  | .ok entries => s.run accepts (call entries)

/-- What a replacement that a form asks for gives on a store: `read` lists what belongs to a group,
and `r` is the outcome with the store after it. -/
structure Replaces (s : Store) (kind : Kind) (group : Id .group) (texts comments : List String)
    (read : Tables → Id .group → Except Error (List (Id kind × String)))
    (r : Except Error Unit × Store) : Prop where
  /-- It fails for a reason to refuse it and for no other. -/
  refused : ∀ e, r.1 = .error e ↔ Refusal s.tables kind group texts comments e
  /-- It succeeds on an acceptable form and on no other. -/
  accepted : r.1 = .ok () ↔ Acceptable s.tables kind group texts comments
  /-- If it fails, the store is as it was. -/
  kept : ∀ e, r.1 = .error e → r.2 = s
  /-- If it succeeds, the group has what the form lists, each entity once, and nothing else. -/
  listed : r.1 = .ok () → ∃ entries, read r.2.tables group = .ok entries ∧
    (entries.map Prod.fst).Nodup ∧
    (entries.map fun e => (e.1.text, e.2)).Perm (texts.zip comments)
  /-- Other groups have what they had. -/
  others : ∀ other, other ≠ group → read r.2.tables other = read s.tables other

section Replacements

variable {call : List (Id kind × String) → Operation} {put : List (Id kind × String) → Tables}
  (hcall : ∀ entries, s.run accepts (call entries) =
    s.replaced kind group (entries.map (·.1.text)) (put entries))

include hcall

/-- A form whose texts are identifiers asks for a replacement by the entries that it lists. -/
theorem replaceFromTexts_of_shape (hlength : texts.length = comments.length)
    (hshape : ∀ x ∈ texts, isUuid x = true) :
    ∃ entries : List (Id kind × String),
      (entries.map fun e => (e.1.text, e.2)) = texts.zip comments ∧
      s.replaceFromTexts accepts call texts comments =
        s.replaced kind group texts (put entries) := by
  obtain ⟨entries, hentries, hpairs⟩ := Id.pairWithComments_of_shape kind hlength hshape
  have htexts : entries.map (·.1.text) = texts := by
    calc entries.map (·.1.text) = (entries.map fun e => (e.1.text, e.2)).map Prod.fst := by
          rw [List.map_map]
          rfl
      _ = texts := by rw [hpairs, List.map_fst_zip (Nat.le_of_eq hlength)]
  refine ⟨entries, hpairs, ?_⟩
  unfold replaceFromTexts
  rw [hentries]
  change s.run accepts (call entries) = _
  rw [hcall, htexts]

/-- A replacement that a form asks for fails for any reason there is to refuse it, and leaves the
store as it is. -/
theorem replaceFromTexts_of_refusal {e : Error}
    (h : Refusal s.tables kind group texts comments e) :
    s.replaceFromTexts accepts call texts comments = (.error e, s) := by
  cases h with
  | lengths hlength =>
    unfold replaceFromTexts Id.pairWithComments
    rw [if_pos hlength]
  | shape hlength hfirst =>
    unfold replaceFromTexts
    rw [Id.pairWithComments_of_find? hlength hfirst]
  | @repeated hlength hshape before after x htexts hbefore hx =>
    obtain ⟨entries, -, heq⟩ := replaceFromTexts_of_shape hcall hlength hshape
    have hrepeated : firstRepeated? [] texts = some x :=
      (firstRepeated?_eq_some_iff [] texts x).mpr
        ⟨before, after, htexts, hbefore, fun _ _ => List.not_mem_nil, .inl hx⟩
    rw [heq, replaced, hrepeated]
  | group hlength hshape hnodup hgroup =>
    obtain ⟨entries, -, heq⟩ := replaceFromTexts_of_shape hcall hlength hshape
    rw [heq, replaced_of_nodup hnodup, if_neg hgroup]
  | entity hlength hshape hnodup hgroup hfirst =>
    obtain ⟨entries, -, heq⟩ := replaceFromTexts_of_shape hcall hlength hshape
    rw [heq, replaced_of_nodup hnodup, if_pos hgroup, hfirst]

/-- A replacement that a form asks for is made if the form is acceptable. -/
theorem replaceFromTexts_of_acceptable
    (h : Acceptable s.tables kind group texts comments) :
    ∃ entries : List (Id kind × String),
      (entries.map fun e => (e.1.text, e.2)) = texts.zip comments ∧
      s.replaceFromTexts accepts call texts comments =
        (.ok (), { s with tables := put entries }) := by
  obtain ⟨entries, hpairs, heq⟩ := replaceFromTexts_of_shape hcall h.lengths h.shape
  have hfound : texts.find? (· ∉ s.tables.ids kind) = none := by
    simpa using h.known
  refine ⟨entries, hpairs, ?_⟩
  rw [heq, replaced_of_nodup h.nodup, if_pos h.group, hfound]

/-- A replacement that a form asks for fails for the reason there is to refuse it, or is made. -/
theorem replaceFromTexts_cases :
    (∃ e, Refusal s.tables kind group texts comments e ∧
      s.replaceFromTexts accepts call texts comments = (.error e, s)) ∨
    (Acceptable s.tables kind group texts comments ∧
      ∃ entries : List (Id kind × String),
        (entries.map fun e => (e.1.text, e.2)) = texts.zip comments ∧
        s.replaceFromTexts accepts call texts comments =
          (.ok (), { s with tables := put entries })) := by
  rcases refusal_or_acceptable s.tables kind group texts comments with ⟨e, hrefusal⟩ | hform
  · exact .inl ⟨e, hrefusal, replaceFromTexts_of_refusal hcall hrefusal⟩
  · exact .inr ⟨hform, replaceFromTexts_of_acceptable hcall hform⟩

/-- A replacement that a form asks for leaves the tables as they are or puts entries into them. -/
theorem tables_replaceFromTexts :
    (s.replaceFromTexts accepts call texts comments).2.tables = s.tables ∨
      ∃ entries, (s.replaceFromTexts accepts call texts comments).2.tables = put entries := by
  rcases replaceFromTexts_cases hcall with ⟨e, -, hr⟩ | ⟨-, entries, -, hr⟩
  · exact .inl (by rw [hr])
  · exact .inr ⟨entries, by rw [hr]⟩

/-- A call that is a replacement does with a form what the form says, if it puts the entries in
place of what the group had and leaves other groups alone. -/
theorem replaces_replaceFromTexts
    {read : Tables → Id .group → Except Error (List (Id kind × String))}
    (hgroup : group.text ∈ s.tables.ids .group → ∀ entries, ∃ listed,
      read (put entries) group = .ok listed ∧
      (listed.map fun e => (e.1.text, e.2)).Perm (entries.map fun e => (e.1.text, e.2)))
    (hothers : ∀ entries other, other ≠ group → read (put entries) other = read s.tables other) :
    Replaces s kind group texts comments read
      (s.replaceFromTexts accepts call texts comments) := by
  have hrefused (e : Error) (h : Refusal s.tables kind group texts comments e) :
      (s.replaceFromTexts accepts call texts comments).1 = .error e := by
    rw [replaceFromTexts_of_refusal hcall h]
  have haccepted (h : Acceptable s.tables kind group texts comments) :
      (s.replaceFromTexts accepts call texts comments).1 = .ok () := by
    obtain ⟨entries, -, hr⟩ := replaceFromTexts_of_acceptable hcall h
    rw [hr]
  -- What a form comes to tells whether it is refused and why, so that no form is both refused and
  -- acceptable or refused for two reasons.
  rcases replaceFromTexts_cases hcall with ⟨e, hrefusal, hr⟩ | ⟨hform, entries, hpairs, hr⟩
  · refine ⟨fun e' => ⟨?_, hrefused e'⟩, ⟨?_, haccepted⟩, ?_, ?_, ?_⟩
    · intro h
      rw [hr] at h
      obtain rfl := Except.error.inj h
      exact hrefusal
    · intro h
      rw [hr] at h
      cases h
    · intro _ _
      rw [hr]
    · intro h
      rw [hr] at h
      cases h
    · intro other _
      rw [hr]
  · refine ⟨fun e' => ⟨?_, hrefused e'⟩, ⟨fun _ => hform, haccepted⟩, ?_, ?_, ?_⟩
    · intro h
      rw [hr] at h
      cases h
    · intro e' h
      rw [hr] at h
      cases h
    · intro _
      obtain ⟨listed, hlisted, hperm⟩ := hgroup hform.group entries
      rw [hpairs] at hperm
      refine ⟨listed, by rw [hr]; exact hlisted, ?_, hperm⟩
      -- The texts that are listed are those of the form, which are distinct.
      have htexts := hperm.map Prod.fst
      rw [List.map_fst_zip (Nat.le_of_eq hform.lengths), List.map_map] at htexts
      refine List.Nodup.of_map (·.text) ?_
      rw [List.map_map]
      exact htexts.nodup_iff.mpr hform.nodup
    · intro other hne
      rw [hr]
      exact hothers entries other hne

end Replacements

/-- In every state that can be reached, a form that asks for new members of a group is refused for
the first reason that applies, or else the group has the members that the form lists, whatever it
had before. Other groups have the members that they had, and nothing but the members has changed.
The same holds of grants. -/
theorem replaceFromTexts_exact (hs : s.Reachable accepts) (group : Id .group)
    (texts comments : List String) :
    let members := s.replaceFromTexts accepts (.replaceMembers group) texts comments
    let grants := s.replaceFromTexts accepts (.replaceGrants group) texts comments
    (Replaces s .source group texts comments Tables.groupSources members ∧
      members.2.tables = { s.tables with members := members.2.tables.members }) ∧
    (Replaces s .acl group texts comments Tables.groupAcls grants ∧
      grants.2.tables = { s.tables with grants := grants.2.tables.grants }) := by
  intro members grants
  have hlocked : s.locked = false := hs.locked_eq_false
  have hmembers : Replaces s .source group texts comments Tables.groupSources members :=
    replaces_replaceFromTexts (run_replaceMembers hlocked)
      (fun hgroup => Tables.groupSources_withMembers hgroup)
      (fun entries other hne => Tables.groupSources_withMembers_of_ne hne entries)
  have hgrants : Replaces s .acl group texts comments Tables.groupAcls grants :=
    replaces_replaceFromTexts (run_replaceGrants hlocked)
      (fun hgroup => Tables.groupAcls_withGrants hgroup)
      (fun entries other hne => Tables.groupAcls_withGrants_of_ne hne entries)
  have hmemberTables : members.2.tables = s.tables ∨
      ∃ entries, members.2.tables = s.tables.withMembers group entries :=
    tables_replaceFromTexts (run_replaceMembers hlocked)
  have hgrantTables : grants.2.tables = s.tables ∨
      ∃ entries, grants.2.tables = s.tables.withGrants group entries :=
    tables_replaceFromTexts (run_replaceGrants hlocked)
  refine ⟨⟨hmembers, ?_⟩, ⟨hgrants, ?_⟩⟩
  · rcases hmemberTables with h | ⟨entries, h⟩
    · rw [h]
    · rw [h]
      rfl
  · rcases hgrantTables with h | ⟨entries, h⟩
    · rw [h]
    · rw [h]
      rfl

/-- A group with two members, one of which a form keeps with another comment, and a form that names
a source twice before it names none. -/
theorem replaceFromTexts_exact_overlapping :
    let group : Id .group := ⟨"00000000-0000-4000-8000-000000000001", by decide⟩
    let other : Id .group := ⟨"00000000-0000-4000-8000-000000000002", by decide⟩
    let a : Id .source := ⟨"00000000-0000-4000-8000-000000000003", by decide⟩
    let b : Id .source := ⟨"00000000-0000-4000-8000-000000000004", by decide⟩
    let c : Id .source := ⟨"00000000-0000-4000-8000-000000000005", by decide⟩
    let calls : List Call := [.change (.createGroup group "staff"),
      .change (.createGroup other "guests"),
      .change (.createSource a group "10.0.0.1" "" "desk"),
      .change (.createSource b group "10.0.0.2" "" "phone"),
      .change (.createSource c other "10.0.0.3" "" "")]
    let s := (Store.empty.transcript (fun _ => true) calls).2
    let replace := fun texts comments =>
      s.replaceFromTexts (fun _ => true) (.replaceMembers group) texts comments
    s.Reachable (fun _ => true) ∧
      s.tables.members = [⟨group.text, a.text, some "desk"⟩, ⟨group.text, b.text, some "phone"⟩,
        ⟨other.text, c.text, some ""⟩] ∧
      Acceptable s.tables .source group [c.text, b.text] ["", "laptop"] ∧
      (∃ entries, (replace [c.text, b.text] ["", "laptop"]).2.tables.groupSources group =
          .ok entries ∧ (entries.map Prod.fst).Nodup ∧
        (entries.map fun e => (e.1.text, e.2)).Perm [(c.text, ""), (b.text, "laptop")]) ∧
      (replace [b.text, b.text, "none"] ["", "", ""]).1 = .error (.invalidId .source "none") := by
  intro group other a b c calls s replace
  have hs : s.Reachable (fun _ => true) := ⟨calls, rfl⟩
  have hmembers : s.tables.members = [⟨group.text, a.text, some "desk"⟩,
      ⟨group.text, b.text, some "phone"⟩, ⟨other.text, c.text, some ""⟩] := by decide +kernel
  have hform : Acceptable s.tables .source group [c.text, b.text] ["", "laptop"] := by
    constructor
    · rfl
    · decide
    · decide
    · decide +kernel
    · decide +kernel
  have hlength : [b.text, b.text, "none"].length = ["", "", ""].length := rfl
  have hfirst : [b.text, b.text, "none"].find? (!isUuid ·) = some "none" := by decide
  obtain ⟨⟨hreplaced, -⟩, -⟩ := replaceFromTexts_exact hs group [c.text, b.text] ["", "laptop"]
  obtain ⟨⟨hrefused, -⟩, -⟩ :=
    replaceFromTexts_exact hs group [b.text, b.text, "none"] ["", "", ""]
  exact ⟨hs, hmembers, hform, hreplaced.listed (hreplaced.accepted.mpr hform),
    (hrefused.refused _).mpr (.shape hlength hfirst)⟩

end Store

end ProxyPolicy.Policy
