import Mathlib.Data.Prod.Basic
import ProxyPolicy.Proofs.Policy.Removal

/-!
# Sources and the groups that they are in

A source is deleted only if it is in no group. What the storage sees is a membership that names the
source, and it counts such memberships; an operator asks the groups one by one. Both counts agree,
since no two memberships name the same group and source, and each names a group that is there
(`Tables.countP_members`).

A source gets into a group by a call that names it as a member, or when it is made. So it leaves a
group for good when the members of the group are replaced by others, as long as no call puts it back
(`Operation.Avoids`); and once this has been done to all groups that it was in, nothing keeps it
from being deleted (`Store.deleteSource_exact`).
-/

namespace ProxyPolicy.Policy

namespace Tables

variable {t : Tables}

/-! ## The groups that list a source -/

/-- Whether a group lists a source among its members. -/
def lists (t : Tables) (source : Id .source) (group : Id .group) : Bool :=
  match t.groupSources group with
  | .ok shown => shown.any (·.1 = source)
  | .error _ => false

/-- A group lists the sources that memberships put there. -/
theorem mem_groupSources_iff {group : Id .group} {shown : List (Id .source × String)}
    (h : t.groupSources group = .ok shown) {source : Id .source} :
    source ∈ shown.map Prod.fst ↔ (group.text, source.text) ∈ t.members.map MemberRow.key := by
  obtain ⟨-, -, hlisting⟩ := bind_eq_ok_iff.mp h
  have htexts : (shown.map (·.1.text)).Perm
      ((t.members.filter (·.group = group.text)).map (·.source)) := by
    refine listing_perm (fun e : Id .source × String => e.1.text) (·.source) ?_ hlisting
    intro m e he
    obtain ⟨id, hid, hrest⟩ := bind_eq_ok_iff.mp he
    obtain rfl := Except.ok.inj hrest
    exact decodeId_eq_ok_iff.mp hid
  have hids : shown.map (·.1.text) = (shown.map Prod.fst).map (·.text) := by
    rw [List.map_map]
    rfl
  rw [← mem_map_text_iff, ← hids, htexts.mem_iff]
  simp only [List.mem_map, List.mem_filter, decide_eq_true_eq, MemberRow.key, Prod.mk.injEq,
    and_assoc]

/-- On consistent tables that decode, a group that is there tells what its members are. -/
theorem exists_groupSources (hfit : t.Consistent) (hdecodes : t.Decodable) {group : Id .group}
    (hgroup : group.text ∈ t.ids .group) : ∃ shown, t.groupSources group = .ok shown := by
  obtain ⟨sources, -, hsources⟩ := hdecodes.exists_listSources
  obtain ⟨shown, hshown, -⟩ :=
    groupSources_spec hfit hdecodes hgroup fun _ => mem_listed_iff hsources
  exact ⟨shown, hshown⟩

/-- On consistent tables that decode, a group lists a source exactly when a membership puts it
there. -/
theorem lists_iff (hfit : t.Consistent) (hdecodes : t.Decodable) {source : Id .source}
    {group : Id .group} :
    t.lists source group = true ↔ (group.text, source.text) ∈ t.members.map MemberRow.key := by
  unfold lists
  by_cases hgroup : group.text ∈ t.ids .group
  · obtain ⟨shown, hshown⟩ := exists_groupSources hfit hdecodes hgroup
    rw [hshown, ← mem_groupSources_iff hshown]
    simp
  · have hunknown : t.groupSources group = .error (.notFound .group group.text) :=
      require_bind_of_unknown hgroup _
    rw [hunknown]
    refine iff_of_false Bool.false_ne_true fun hkey => ?_
    obtain ⟨m, hm, heq⟩ := List.mem_map.mp hkey
    exact hgroup ((Prod.mk.inj heq).1 ▸ (hfit.member_refs m hm).1)

/-- On consistent tables that decode, as many memberships name a source as groups list it. -/
theorem countP_members (hfit : t.Consistent) (hdecodes : t.Decodable) {groups : List Group}
    (hgroups : (groups.map (·.id.text)).Perm (t.ids .group)) (source : Id .source) :
    t.members.countP (·.source = source.text) = groups.countP (t.lists source ·.id) := by
  have hmembers : ((t.members.filter (·.source = source.text)).map (·.group)).Nodup := by
    have hkeys : (t.members.map fun m => (m.source, m.group)).Nodup := by
      have hswapped := hfit.member_keys.map Prod.swap_injective
      rwa [List.map_map] at hswapped
    exact nodup_map_of_keys hkeys source.text
  have hlisted : ((groups.filter (t.lists source ·.id)).map (·.id.text)).Nodup :=
    (List.filter_sublist.map _).nodup (hgroups.nodup_iff.mpr (hfit.ids_nodup .group))
  -- The groups that memberships name are those that list the source.
  have hsame : ((t.members.filter (·.source = source.text)).map (·.group)).Perm
      ((groups.filter (t.lists source ·.id)).map (·.id.text)) := by
    refine (List.perm_ext_iff_of_nodup hmembers hlisted).mpr fun g => ?_
    simp only [List.mem_map, List.mem_filter, decide_eq_true_eq, lists_iff hfit hdecodes]
    constructor
    · rintro ⟨m, ⟨hm, hsource⟩, rfl⟩
      have hthere := hgroups.mem_iff.mpr (hfit.member_refs m hm).1
      obtain ⟨group, hgroup, hid⟩ := List.mem_map.mp hthere
      exact ⟨group, ⟨hgroup, m, hm, Prod.ext hid.symm hsource⟩, hid⟩
    · rintro ⟨group, ⟨-, m, hm, hkey⟩, rfl⟩
      obtain ⟨hgroup, hsource⟩ := Prod.mk.inj hkey
      exact ⟨m, ⟨hm, hsource⟩, hgroup⟩
  have hlength := hsame.length_eq
  rw [List.length_map, List.length_map] at hlength
  rw [List.countP_eq_length_filter, List.countP_eq_length_filter, hlength]

/-! ## What is left without a source -/

/-- The listing of sources after one is taken away is the one before without it. -/
theorem listSources_withoutSource {sources : List Source} (h : t.listSources = .ok sources)
    (source : Id .source) :
    (t.withoutSource source.text).listSources = .ok (sources.filter (·.id ≠ source)) := by
  unfold listSources at h ⊢
  refine listing_filter ?_ h
  intro r x hx
  obtain ⟨id, hid, rfl⟩ := (decode_eq_ok_iff decode_source).mp hx
  rw [← hid]
  exact decide_text_ne id source

/-- What tables are after they have lost a source: it is not left, and all the rest is as it was. -/
structure LosesSource (t : Tables) (source : Id .source) (t' : Tables) : Prop where
  /-- There is no such source any more. -/
  gone : t'.has source = false
  /-- The other sources are listed as they were. -/
  listed : ∀ sources, t.listSources = .ok sources →
    t'.listSources = .ok (sources.filter (·.id ≠ source))
  /-- The rows of all other sources stay, and so do all rows of the other relations. -/
  others : t' = { t with sources := t.sources.filter (·.id ≠ source.text) }

/-- Tables lose a source when its row is taken away. -/
theorem losesSource_withoutSource (t : Tables) (source : Id .source) :
    t.LosesSource source (t.withoutSource source.text) where
  gone := by
    rw [← Bool.not_eq_true, has_eq_true_iff]
    simp [ids, withoutSource]
  listed _ h := listSources_withoutSource h source
  others := rfl

end Tables

/-! ## Calls that leave a source out -/

/-- Whether a change neither deletes a source nor names it as a member of a group. -/
def Operation.Avoids (source : Id .source) : Operation → Prop
  | deleteSource other => other ≠ source
  | replaceMembers _ members => source ∉ members.map Prod.fst
  | _ => True

/-- Whether a call neither deletes a source nor names it as a member of a group. -/
def Call.Avoids (source : Id .source) : Call → Prop
  | .ask _ => True
  | .change op => op.Avoids source

/-- What becomes of a source that is left out: it stays, and it gets into no group. -/
structure Tables.LeavesOut (t : Tables) (source : Id .source) (t' : Tables) : Prop where
  /-- The source is there. -/
  stays : source.text ∈ t'.ids .source
  /-- All memberships of the source are old ones. -/
  members : ∀ m ∈ t'.members, m.source = source.text → m ∈ t.members

/-- A change that avoids a source that is there leaves it out. -/
theorem leavesOut_of_effect {accepts : String → Bool} {op : Operation} {t t' : Tables}
    {source : Id .source} (heffect : op.Effect accepts t t') (havoids : op.Avoids source)
    (hsource : source.text ∈ t.ids .source) : t.LeavesOut source t' := by
  -- Three operations touch the sources or the memberships, and none of them this source.
  cases op with
  | createAcl fresh comment =>
    obtain ⟨-, -, rfl⟩ := heffect
    exact ⟨hsource, fun m hm _ => hm⟩
  | createGroup fresh comment =>
    obtain ⟨-, -, rfl⟩ := heffect
    exact ⟨hsource, fun m hm _ => hm⟩
  | createSource fresh group address comment memberComment =>
    obtain ⟨-, -, hfresh, -, rfl⟩ := heffect
    refine ⟨Tables.mem_ids_add _ (Tables.mem_ids_add _ hsource), fun m hm heq => ?_⟩
    rcases List.mem_append.mp hm with hold | hnew
    · exact hold
    · -- The new source is another one.
      rw [List.mem_singleton.mp hnew] at heq
      replace heq : fresh.text = source.text := heq
      rw [heq] at hfresh
      exact absurd hsource hfresh
  | createRule fresh acl f =>
    obtain ⟨-, -, -, -, rfl⟩ := heffect
    exact ⟨hsource, fun m hm _ => hm⟩
  | createInboxRule fresh inbox type value action =>
    obtain ⟨f, -, -, -, -, -, rfl⟩ := heffect
    exact ⟨hsource, fun m hm _ => hm⟩
  | updateRule rule f =>
    obtain ⟨-, -, rfl⟩ := heffect
    exact ⟨hsource, fun m hm _ => hm⟩
  | moveRules rules destination =>
    obtain ⟨-, -, rfl⟩ := heffect
    exact ⟨hsource, fun m hm _ => hm⟩
  | deleteRules rules =>
    obtain ⟨-, -, rfl⟩ := heffect
    exact ⟨hsource, fun m hm _ => hm⟩
  | deleteAcl acl =>
    obtain ⟨-, -, rfl⟩ := heffect
    exact ⟨hsource, fun m hm _ => hm⟩
  | deleteSource other =>
    obtain ⟨-, -, rfl⟩ := heffect
    refine ⟨Tables.mem_ids_withoutSource hsource fun heq => ?_, fun m hm _ => hm⟩
    exact havoids (Id.text_injective heq.symm)
  | replaceGrants group grants =>
    obtain ⟨-, -, -, rfl⟩ := heffect
    exact ⟨hsource, fun m hm _ => hm⟩
  | replaceMembers group members =>
    obtain ⟨-, -, -, rfl⟩ := heffect
    refine ⟨hsource, fun m hm heq => ?_⟩
    rcases List.mem_append.mp hm with hold | hnew
    · exact List.mem_of_mem_filter hold
    · obtain ⟨new, hmem, rfl⟩ := List.mem_map.mp hnew
      have hnamed : new.1 = source := Id.text_injective heq
      exact absurd (hnamed ▸ List.mem_map_of_mem hmem) havoids

/-- A replacement of the members of a group that avoids a source leaves it in no membership of the
group. -/
theorem not_member_of_replaceMembers {accepts : String → Bool} {t t' : Tables} {group : Id .group}
    {members : List (Id .source × String)} {source : Id .source}
    (heffect : (Operation.replaceMembers group members).Effect accepts t t')
    (havoids : (Operation.replaceMembers group members).Avoids source) :
    ∀ m ∈ t'.members, m.source = source.text → m.group ≠ group.text := by
  obtain ⟨-, -, -, rfl⟩ := heffect
  intro m hm heq
  rcases List.mem_append.mp hm with hold | hnew
  · simpa using (List.mem_filter.mp hold).2
  · obtain ⟨new, hmem, rfl⟩ := List.mem_map.mp hnew
    have hnamed : new.1 = source := Id.text_injective heq
    exact absurd (hnamed ▸ List.mem_map_of_mem hmem) havoids

namespace Store

variable {accepts : String → Bool} {s : Store} {source : Id .source}

/-- The calls of a history that succeed avoid a source. -/
def Spares (accepts : String → Bool) (s : Store) (source : Id .source) (calls : List Call) : Prop :=
  ∀ entry ∈ (s.transcript accepts calls).1, entry.2.isOk = true → entry.1.Avoids source

/-- A history gives what its first call gives, and then what the others give. -/
theorem transcript_cons_fst (accepts : String → Bool) (s : Store) (c : Call) (cs : List Call) :
    (s.transcript accepts (c :: cs)).1 =
      (c, (s.perform accepts c).1) :: ((s.perform accepts c).2.transcript accepts cs).1 := rfl

/-- A history spares a source if its first call avoids it or fails, and the others spare it. -/
theorem spares_cons_iff {c : Call} {cs : List Call} :
    s.Spares accepts source (c :: cs) ↔
      ((s.perform accepts c).1.isOk = true → c.Avoids source) ∧
        (s.perform accepts c).2.Spares accepts source cs := by
  unfold Spares
  rw [transcript_cons_fst, List.forall_mem_cons]

/-- A call leaves a source out that it avoids, and so does a call that fails. -/
theorem perform_leavesOut {c : Call}
    (havoids : (s.perform accepts c).1.isOk = true → c.Avoids source)
    (hsource : source.text ∈ s.tables.ids .source) :
    s.tables.LeavesOut source (s.perform accepts c).2.tables := by
  rcases perform_cases accepts s c with hsame | ⟨op, rfl, hok, heffect, -⟩
  · rw [hsame]
    exact ⟨hsource, fun m hm _ => hm⟩
  · exact leavesOut_of_effect heffect (havoids hok) hsource

/-- A history leaves a source out that it spares. -/
theorem transcript_leavesOut {calls : List Call} (hspares : s.Spares accepts source calls)
    (hsource : source.text ∈ s.tables.ids .source) :
    s.tables.LeavesOut source (s.transcript accepts calls).2.tables := by
  induction calls generalizing s with
  | nil => exact ⟨hsource, fun m hm _ => hm⟩
  | cons c cs ih =>
    obtain ⟨havoids, hothers⟩ := spares_cons_iff.mp hspares
    have hstep := perform_leavesOut havoids hsource
    have hrest := ih hothers hstep.stays
    exact ⟨hrest.stays, fun m hm heq => hstep.members m (hrest.members m hm heq) heq⟩

/-- After a history that spares a source and has replaced the members of a group, the source is in
no membership of the group. -/
theorem not_member_of_transcript {calls : List Call} (hspares : s.Spares accepts source calls)
    (hsource : source.text ∈ s.tables.ids .source) {group : Id .group}
    {members : List (Id .source × String)}
    (hreplaced : (Call.change (.replaceMembers group members), Except.ok Answer.done) ∈
      (s.transcript accepts calls).1) :
    ∀ m ∈ (s.transcript accepts calls).2.tables.members, m.source = source.text →
      m.group ≠ group.text := by
  induction calls generalizing s with
  | nil => cases hreplaced
  | cons c cs ih =>
    obtain ⟨havoids, hothers⟩ := spares_cons_iff.mp hspares
    have hstep := perform_leavesOut havoids hsource
    rw [transcript_cons_fst] at hreplaced
    rcases List.mem_cons.mp hreplaced with hfirst | hlater
    · -- What the first call has done to the group stays, since the others add nothing.
      obtain ⟨rfl, hok⟩ := Prod.mk.inj hfirst
      obtain ⟨heffect, -⟩ := effect_of_perform_ok hok.symm
      have hout := not_member_of_replaceMembers heffect (havoids (by rw [← hok]; rfl))
      have hrest := transcript_leavesOut hothers hstep.stays
      intro m hm heq
      exact hout m (hrest.members m hm heq) heq
    · exact ih hothers hstep.stays hlater

/-! ## The deletion of a source -/

/-- What a deletion of a source gives, and the store after it. -/
theorem run_deleteSource (hlocked : s.locked = false) (accepts : String → Bool)
    (source : Id .source) :
    s.run accepts (.deleteSource source) =
      if source.text ∈ s.tables.ids .source then
        if ∃ m ∈ s.tables.members, m.source = source.text then
          (.error (.sourceInUse source.text
            (s.tables.members.countP (·.source = source.text))), s)
        else (.ok (), { s with tables := s.tables.withoutSource source.text })
      else (.error (.notFound .source source.text), s) := by
  have hrun : s.run accepts (.deleteSource source) = s.write (.removeSource source) := rfl
  rw [hrun, write_eq, if_neg (by simp [hlocked]), Transaction.outcome_removeSource]
  split_ifs <;> rfl

/-- Whether a source that is there is deleted depends on the number of memberships that name it. -/
theorem run_deleteSource_of_known (hlocked : s.locked = false) (accepts : String → Bool)
    (hsource : source.text ∈ s.tables.ids .source) {n : Nat}
    (hn : s.tables.members.countP (·.source = source.text) = n) :
    s.run accepts (.deleteSource source) =
      if 0 < n then (.error (.sourceInUse source.text n), s)
      else (.ok (), { s with tables := s.tables.withoutSource source.text }) := by
  have hused : (∃ m ∈ s.tables.members, m.source = source.text) ↔ 0 < n := by
    rw [← hn, List.countP_pos_iff]
    simp
  rw [run_deleteSource hlocked, if_pos hsource, hn]
  by_cases hpos : 0 < n
  · rw [if_pos hpos, if_pos (hused.mpr hpos)]
  · rw [if_neg hpos, if_neg (mt hused.mp hpos)]

/-- In every state that can be reached, the deletion of a source is exact. A source that is not
there is not found. One that is in groups is refused with the number of the groups that list it,
all groups being asked, and the store stays as it was. One that is in no group is lost, and nothing
else. So a source is deleted after any history in which the members of all groups that had listed it
have been replaced, if no call of the history has deleted it or named it as a member; a call that
fails does neither. -/
theorem deleteSource_exact (hs : s.Reachable accepts) (source : Id .source) :
    (s.tables.has source = false →
      s.run accepts (.deleteSource source) = (.error (.notFound .source source.text), s)) ∧
    (s.tables.has source = true → ∃ groups n, s.tables.listGroups = .ok groups ∧
      (groups.map (·.id.text)).Perm (s.tables.ids .group) ∧
      (∀ group ∈ groups, ∃ shown, s.tables.groupSources group.id = .ok shown ∧
        (s.tables.lists source group.id = true ↔ source ∈ shown.map Prod.fst)) ∧
      groups.countP (s.tables.lists source ·.id) = n ∧
      (0 < n → ∃ e, s.run accepts (.deleteSource source) = (.error e, s) ∧
        e = .sourceInUse source.text n ∧ e.blockingCount = some n) ∧
      (n = 0 → ∃ t', s.run accepts (.deleteSource source) = (.ok (), { s with tables := t' }) ∧
        s.tables.LosesSource source t')) ∧
    (s.tables.has source = true → ∀ calls, s.Spares accepts source calls →
      (∀ group, s.tables.lists source group = true → ∃ members,
        (Call.change (.replaceMembers group members), Except.ok Answer.done) ∈
          (s.transcript accepts calls).1) →
      ((s.transcript accepts calls).2.run accepts (.deleteSource source)).1 = .ok ()) := by
  have hfit : s.tables.Consistent := hs.consistent
  have hdecodes : s.tables.Decodable := hs.decodable
  rw [← Bool.not_eq_true, Tables.has_eq_true_iff]
  refine ⟨fun hunknown => ?_, fun hsource => ?_, fun hsource calls hspares hreplaced => ?_⟩
  · rw [run_deleteSource hs.locked_eq_false, if_neg hunknown]
  · obtain ⟨groups, hgroups, hperm⟩ := hdecodes.exists_listGroups
    have hcount := Tables.countP_members hfit hdecodes hperm source
    have hrun := run_deleteSource_of_known hs.locked_eq_false accepts hsource hcount
    refine ⟨groups, _, hgroups, hperm, fun group hgroup => ?_, rfl, fun hpos => ?_, fun hzero => ?_⟩
    · have hthere : group.id.text ∈ s.tables.ids .group :=
        hperm.mem_iff.mp (List.mem_map_of_mem hgroup)
      obtain ⟨shown, hshown⟩ := Tables.exists_groupSources hfit hdecodes hthere
      refine ⟨shown, hshown, ?_⟩
      rw [Tables.lists_iff hfit hdecodes, Tables.mem_groupSources_iff hshown]
    · rw [if_pos hpos] at hrun
      exact ⟨_, hrun, rfl, rfl⟩
    · rw [if_neg (by omega)] at hrun
      exact ⟨_, hrun, s.tables.losesSource_withoutSource source⟩
  · have hs' := hs.transcript calls
    have hout := transcript_leavesOut hspares hsource
    -- A membership that is left would be an old one of a group whose members were replaced.
    have hnone : (s.transcript accepts calls).2.tables.members.countP
        (·.source = source.text) = 0 := by
      rw [List.countP_eq_zero]
      intro m hm heq
      rw [decide_eq_true_eq] at heq
      have hold := hout.members m hm heq
      have huuid : isUuid m.group = true :=
        hdecodes.isUuid_ids .group m.group (hfit.member_refs m hold).1
      have hlists : s.tables.lists source ⟨m.group, huuid⟩ = true :=
        (Tables.lists_iff hfit hdecodes).mpr (List.mem_map.mpr ⟨m, hold, Prod.ext rfl heq⟩)
      obtain ⟨members, hmembers⟩ := hreplaced _ hlists
      exact not_member_of_transcript hspares hsource hmembers m hm heq rfl
    rw [run_deleteSource_of_known hs'.locked_eq_false accepts hout.stays hnone,
      if_neg (Nat.lt_irrefl 0)]

/-- A source in two groups is refused with two. Once both groups have other members it is deleted,
also after a call that has failed to put it into a group that is not there. -/
theorem deleteSource_exact_two_groups :
    let staff : Id .group := ⟨"00000000-0000-4000-8000-000000000001", by decide⟩
    let guests : Id .group := ⟨"00000000-0000-4000-8000-000000000002", by decide⟩
    let absent : Id .group := ⟨"00000000-0000-4000-8000-000000000003", by decide⟩
    let a : Id .source := ⟨"00000000-0000-4000-8000-000000000004", by decide⟩
    let b : Id .source := ⟨"00000000-0000-4000-8000-000000000005", by decide⟩
    let c : Id .source := ⟨"00000000-0000-4000-8000-000000000006", by decide⟩
    let calls : List Call := [.change (.createGroup staff "staff"),
      .change (.createGroup guests "guests"), .change (.createSource a staff "10.0.0.1" "" "desk"),
      .change (.createSource b staff "10.0.0.2" "" ""),
      .change (.replaceMembers guests [(a, ""), (b, "")])]
    let s := (Store.empty.transcript (fun _ => true) calls).2
    let later : List Call := [.change (.replaceMembers guests [(b, "")]),
      .change (.replaceMembers absent [(a, "")]), .change (.replaceMembers staff [])]
    s.Reachable (fun _ => true) ∧ s.tables.has c = false ∧
      s.run (fun _ => true) (.deleteSource c) = (.error (.notFound .source c.text), s) ∧
      s.tables.has a = true ∧
      s.run (fun _ => true) (.deleteSource a) = (.error (.sourceInUse a.text 2), s) ∧
      s.Spares (fun _ => true) a later ∧
      ((s.transcript (fun _ => true) later).2.run (fun _ => true) (.deleteSource a)).1 =
        .ok () := by
  intro staff guests absent a b c calls s later
  have hs : s.Reachable (fun _ => true) := ⟨calls, rfl⟩
  have hunknown : s.tables.has c = false := by decide +kernel
  have hknown : s.tables.has a = true := by decide +kernel
  have hnames : ∀ key ∈ s.tables.members.map MemberRow.key,
      key.1 = staff.text ∨ key.1 = guests.text := by decide +kernel
  obtain ⟨hnone, -, -⟩ := deleteSource_exact hs c
  obtain ⟨-, hused, hfreed⟩ := deleteSource_exact hs a
  obtain ⟨groups, n, -, hperm, -, hn, hrefused, -⟩ := hused hknown
  obtain rfl : 2 = n := by
    rw [← hn, ← Tables.countP_members hs.consistent hs.decodable hperm a]
    decide +kernel
  obtain ⟨e, hrun, rfl, -⟩ := hrefused (by decide)
  have hfails : (((s.perform (fun _ => true) (.change (.replaceMembers guests [(b, "")]))).2.perform
      (fun _ => true) (.change (.replaceMembers absent [(a, "")]))).1.isOk = false) := by
    decide +kernel
  have hspares : s.Spares (fun _ => true) a later := by
    refine spares_cons_iff.mpr ⟨fun _ => ?_, spares_cons_iff.mpr ⟨fun hok => ?_,
      spares_cons_iff.mpr ⟨fun _ => List.not_mem_nil, by simp [Spares, transcript]⟩⟩⟩
    · change a ∉ [b]
      decide
    · rw [hfails] at hok
      cases hok
  refine ⟨hs, hunknown, hnone hunknown, hknown, hrun, hspares,
    hfreed hknown later hspares fun group hgroup => ?_⟩
  have hkey := (Tables.lists_iff hs.consistent hs.decodable).mp hgroup
  rcases hnames _ hkey with hstaff | hguests
  · obtain rfl : group = staff := Id.text_injective hstaff
    exact ⟨[], by decide +kernel⟩
  · obtain rfl : group = guests := Id.text_injective hguests
    exact ⟨[(b, "")], by decide +kernel⟩

end Store

end ProxyPolicy.Policy
