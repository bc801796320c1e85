import Mathlib.Data.List.Nodup
import ProxyPolicy.Toml.Document

/-!
# No key is given twice

In what a text describes, no table has two values at one key, at any depth
(`isKeyedTable_of_parse?`). Readers give only values of which this is true, because the one reader
that makes tables, that of tables between braces, makes them by adding entries (`yields_value`).
Every way of adding to a table keeps it true: a way of keys leads to a value, and what is put in its
place stands at the same key (`Keeps.updateAt`).
-/

namespace ProxyPolicy.Toml

/-- Whether no table in a value has two values at one key. -/
inductive Value.Keyed : Value → Prop where
  /-- A value without parts. -/
  | scalar (s : Scalar) : Keyed (.scalar s)
  /-- An array of such values. -/
  | array {items : List Value} (hitems : ∀ v ∈ items, Keyed v) : Keyed (.array items)
  /-- A table of such values at different keys. -/
  | table {origin : Origin} {entries : List (String × Value)} (hkeys : (entries.map (·.1)).Nodup)
      (hentries : ∀ e ∈ entries, Keyed e.2) : Keyed (.table origin entries)
  /-- A list of such tables. -/
  | tables {items : List Value} (hitems : ∀ v ∈ items, Keyed v) : Keyed (.tables items)

/-- Whether a value is a table without repeated keys. -/
structure Value.IsKeyedTable (v : Value) : Prop where
  /-- No keys are repeated. -/
  keyed : v.Keyed
  /-- It is a table. -/
  table : ∃ origin entries, v = .table origin entries

/-! ## Tables -/

section Entries

variable {entries : List (String × Value)} {key : String} {v : Value} {origin : Origin}

/-- A value that is found is in the table. -/
theorem mem_of_lookup? (h : lookup? entries key = some v) : (key, v) ∈ entries := by
  obtain ⟨⟨found, v'⟩, hfound, rfl⟩ := Option.map_eq_some_iff.mp h
  obtain rfl : found = key := by simpa using List.find?_some hfound
  exact List.mem_of_find?_eq_some hfound

/-- No value is found at a key that the table does not have. -/
theorem lookup?_eq_none_iff : lookup? entries key = none ↔ key ∉ entries.map (·.1) := by
  unfold lookup?
  rw [Option.map_eq_none_iff, List.find?_eq_none, List.mem_map]
  simp only [decide_eq_true_eq]
  exact ⟨fun hnone ⟨e, he, hkey⟩ => hnone e he hkey, fun hnone e he hkey => hnone ⟨e, he, hkey⟩⟩

/-- Where no key is repeated, a value is found at a key exactly when it is there. -/
theorem lookup?_eq_some_iff (hkeys : (entries.map (·.1)).Nodup) :
    lookup? entries key = some v ↔ (key, v) ∈ entries := by
  refine ⟨mem_of_lookup?, fun hmem => ?_⟩
  cases hfound : lookup? entries key with
  | none => exact absurd (List.mem_map_of_mem hmem) (lookup?_eq_none_iff.mp hfound)
  | some v' =>
    have hsame := List.inj_on_of_nodup_map hkeys (mem_of_lookup? hfound) hmem rfl
    rw [(Prod.mk.inj hsame).2]

/-- Where no key is repeated, the order of the entries does not matter. -/
theorem lookup?_of_perm {entries' : List (String × Value)} (hkeys : (entries.map (·.1)).Nodup)
    (h : entries'.Perm entries) (key : String) : lookup? entries' key = lookup? entries key := by
  ext v
  rw [lookup?_eq_some_iff hkeys, lookup?_eq_some_iff ((h.map _).nodup_iff.mpr hkeys), h.mem_iff]

/-- The first of some entries has the value at its key, and no other. -/
theorem lookup?_cons (entries : List (String × Value)) (key : String) (v : Value) (key' : String) :
    lookup? ((key, v) :: entries) key' = if key = key' then some v else lookup? entries key' := by
  unfold lookup?
  rw [List.find?_cons]
  by_cases hkey : key = key'
  · simp [hkey]
  · simp [hkey]

/-- A table has no repeated keys exactly when its own keys differ and its values have none. -/
theorem Value.keyed_table_iff : (Value.table origin entries).Keyed ↔
    (entries.map (·.1)).Nodup ∧ ∀ e ∈ entries, e.2.Keyed := by
  constructor
  · rintro (_ | _ | ⟨hkeys, hentries⟩)
    exact ⟨hkeys, hentries⟩
  · exact fun h => .table h.1 h.2

/-- A list of tables has no repeated keys exactly when its tables have none. -/
theorem Value.keyed_tables_iff {items : List Value} :
    (Value.tables items).Keyed ↔ ∀ v ∈ items, v.Keyed := by
  constructor
  · rintro (_ | _ | _ | hitems)
    exact hitems
  · exact .tables

/-- An empty table has no repeated keys. -/
theorem Value.keyed_nil (origin : Origin) : (Value.table origin []).Keyed :=
  .table List.nodup_nil (List.forall_mem_nil _)

/-- The values of a table without repeated keys have none either. -/
theorem Value.Keyed.of_lookup? (h : (Value.table origin entries).Keyed)
    (hfound : lookup? entries key = some v) : v.Keyed :=
  (keyed_table_iff.mp h).2 _ (mem_of_lookup? hfound)

/-- A table takes a value at a key that it does not have. -/
theorem Value.Keyed.append (h : (Value.table origin entries).Keyed) (hkey : key ∉ entries.map (·.1))
    (hv : v.Keyed) : (Value.table origin (entries ++ [(key, v)])).Keyed := by
  obtain ⟨hkeys, hentries⟩ := keyed_table_iff.mp h
  refine .table ?_ ?_
  · rw [List.map_append]
    exact List.nodup_append.mpr ⟨hkeys, List.nodup_singleton key, by grind⟩
  · exact List.forall_mem_append.mpr ⟨hentries, List.forall_mem_singleton.mpr hv⟩

/-- A table takes a value at a key in the place of the one that it has. -/
theorem Value.Keyed.withEntry (h : (Value.table origin entries).Keyed) (hv : v.Keyed) :
    (Value.table origin (withEntry entries key v)).Keyed := by
  unfold Toml.withEntry
  split_ifs with hpresent
  · obtain ⟨hkeys, hentries⟩ := keyed_table_iff.mp h
    refine .table ?_ (List.forall_mem_map.mpr fun e he => ?_)
    · have hsame : (entries.map fun e => if e.1 = key then (key, v) else e).map (·.1) =
          entries.map (·.1) := by
        rw [List.map_map]
        refine List.map_congr_left fun e _ => ?_
        by_cases hkey : e.1 = key
        · simp [hkey]
        · simp [hkey]
      rw [hsame]
      exact hkeys
    · split_ifs
      · exact hv
      · exact hentries e he
  · exact h.append (by simpa using hpresent) hv

end Entries

/-! ## Ways of keys -/

section Ways

variable {change : Value → Option Value} {step : Origin} {key : String} {path : List String}
  {v v' : Value}

/-- What a way of keys leads to in a table, before and after the change there. -/
inductive Leads (step : Origin) (change : Value → Option Value) (path : List String) :
    Option Value → Value → Prop where
  /-- A table that is made on the way. -/
  | made {child : Value} (h : updateAt step change path (.table step []) = some child) :
      Leads step change path none child
  /-- A table that is there. -/
  | table {into : Origin} {entries : List (String × Value)} {child : Value}
      (h : updateAt step change path (.table into entries) = some child) :
      Leads step change path (some (.table into entries)) child
  /-- The last of a list of tables. -/
  | last {items : List Value} {last last' : Value} (hlast : items.getLast? = some last)
      (h : updateAt step change path last = some last') :
      Leads step change path (some (.tables items)) (.tables (items.dropLast ++ [last']))

/-- A way of keys leads from a table to what it has at the first key, and a change at the end of the
way puts another value there. -/
theorem exists_leads_of_updateAt (h : updateAt step change (key :: path) v = some v') :
    ∃ origin entries child, v = .table origin entries ∧
      Leads step change path (lookup? entries key) child ∧
      v' = .table origin (withEntry entries key child) := by
  cases v with
  | scalar s => simp [updateAt] at h
  | array items => simp [updateAt] at h
  | tables items => simp [updateAt] at h
  | table origin entries =>
    refine ⟨origin, entries, ?_⟩
    rw [updateAt] at h
    split at h
    next hnone =>
      obtain ⟨child, hchild, heq⟩ := Option.bind_eq_some_iff.mp h
      exact ⟨child, rfl, hnone ▸ .made hchild, (Option.some.inj heq).symm⟩
    next hfound =>
      split_ifs at h with hadmits
      · obtain ⟨child, hchild, heq⟩ := Option.bind_eq_some_iff.mp h
        exact ⟨child, rfl, hfound ▸ .table hchild, (Option.some.inj heq).symm⟩
      · cases h
    next items hfound =>
      obtain ⟨last, hlast, h⟩ := Option.bind_eq_some_iff.mp h
      obtain ⟨last', hlast', heq⟩ := Option.bind_eq_some_iff.mp h
      exact ⟨_, rfl, hfound ▸ .last hlast hlast', (Option.some.inj heq).symm⟩
    next => cases h

/-- Whether a change makes tables without repeated keys of values without repeated keys. -/
def Keeps (change : Value → Option Value) : Prop :=
  ∀ v v', change v = some v' → v.Keyed → v'.IsKeyedTable

/-- A change at the end of a way of keys repeats no keys if it repeats none there. -/
theorem Keeps.updateAt (hchange : Keeps change) (step : Origin) (path : List String) :
    Keeps (updateAt step change path) := by
  induction path with
  | nil => exact hchange
  | cons key path ih =>
    intro v v' hchanged hv
    obtain ⟨origin, entries, child, rfl, hleads, rfl⟩ := exists_leads_of_updateAt hchanged
    -- The rest of the way makes a value without repeated keys, whatever it starts from.
    have hkeyed {v child : Value} (h : Toml.updateAt step change path v = some child)
        (hv : v.Keyed) : child.Keyed := (ih v child h hv).keyed
    refine ⟨hv.withEntry ?_, origin, _, rfl⟩
    cases hfound : lookup? entries key with
    | none =>
      rw [hfound] at hleads
      obtain ⟨hchild⟩ := hleads
      exact hkeyed hchild (Value.keyed_nil step)
    | some found =>
      have hfoundKeyed := hv.of_lookup? hfound
      rw [hfound] at hleads
      cases hleads with
      | table hchild => exact hkeyed hchild hfoundKeyed
      | last hlast hchild =>
        have hitems := Value.keyed_tables_iff.mp hfoundKeyed
        refine .tables (List.forall_mem_append.mpr ⟨fun item hitem => ?_, ?_⟩)
        · exact hitems item ((List.dropLast_sublist _).subset hitem)
        · exact List.forall_mem_singleton.mpr
            (hkeyed hchild (hitems _ (List.mem_of_getLast? hlast)))

end Ways

/-- Adding an entry repeats no keys. -/
theorem keeps_addEntry {value : Value} (hvalue : value.Keyed) (path : List String) (key : String) :
    Keeps (addEntry path key value) := by
  refine Keeps.updateAt (fun v v' hchanged hv => ?_) .dotted path
  split at hchanged
  next origin entries =>
    split_ifs at hchanged with hrefused
    cases hchanged
    exact ⟨hv.append (by simp_all) hvalue, origin, _, rfl⟩
  next => cases hchanged

/-- A header of a table repeats no keys. -/
theorem keeps_openTable (path : List String) (key : String) : Keeps (openTable path key) := by
  refine Keeps.updateAt (fun v v' hchanged hv => ?_) .implied path
  split at hchanged
  next origin entries =>
    split at hchanged
    next hnone =>
      cases hchanged
      exact ⟨hv.append (lookup?_eq_none_iff.mp hnone) (Value.keyed_nil .header), origin, _, rfl⟩
    next childEntries hfound =>
      cases hchanged
      have hchild := Value.keyed_table_iff.mp (hv.of_lookup? hfound)
      exact ⟨hv.withEntry (Value.keyed_table_iff.mpr hchild), origin, _, rfl⟩
    next => cases hchanged
  next => cases hchanged

/-- A header of a further table of a list repeats no keys. -/
theorem keeps_openTables (path : List String) (key : String) : Keeps (openTables path key) := by
  have hopened : ∀ v ∈ [Value.table .header []], v.Keyed :=
    List.forall_mem_singleton.mpr (Value.keyed_nil .header)
  refine Keeps.updateAt (fun v v' hchanged hv => ?_) .implied path
  split at hchanged
  next origin entries =>
    split at hchanged
    next hnone =>
      cases hchanged
      exact ⟨hv.append (lookup?_eq_none_iff.mp hnone) (.tables hopened), origin, _, rfl⟩
    next items hfound =>
      cases hchanged
      have hitems := Value.keyed_tables_iff.mp (hv.of_lookup? hfound)
      refine ⟨hv.withEntry (.tables ?_), origin, _, rfl⟩
      exact List.forall_mem_append.mpr ⟨hitems, hopened⟩
    next => cases hchanged
  next => cases hchanged

/-! ## Readers -/

namespace Read

variable {α β : Type} {P : α → Prop} {Q : β → Prop}

/-- Whether all that a step can read has a property. -/
def Yields (step : Read α) (P : α → Prop) : Prop := ∀ cs x rest, step cs = some (x, rest) → P x

variable {step other : Read α} {next : α → Read β}

/-- What is given without reading has its properties. -/
theorem yields_pure {x : α} (h : P x) : (pure x : Read α).Yields P := by
  intro cs y rest hread
  obtain ⟨rfl, -⟩ := Prod.mk.inj (Option.some.inj hread)
  exact h

/-- What a failure gives has all properties. -/
theorem yields_failure : (failure : Read α).Yields P := fun _ _ _ h => nomatch h

/-- A step that goes on from what another reads. -/
theorem Yields.bind (h : step.Yields P) (hnext : ∀ x, P x → (next x).Yields Q) :
    (step >>= next).Yields Q := by
  intro cs y rest hread
  obtain ⟨⟨x, rest'⟩, hx, hy⟩ := Option.bind_eq_some_iff.mp hread
  exact hnext x (h cs x rest' hx) rest' y rest hy

/-- A step that goes on from anything. -/
theorem yields_bind (hnext : ∀ x, (next x).Yields Q) : (step >>= next).Yields Q :=
  Yields.bind (P := fun _ => True) (fun _ _ _ _ => trivial) fun x _ => hnext x

/-- What is made of a reading has what the reading gives it. -/
theorem Yields.map {f : α → β} (h : step.Yields P) (hf : ∀ x, P x → Q (f x)) :
    (f <$> step).Yields Q := by
  intro cs y rest hread
  obtain ⟨⟨x, rest'⟩, hx, heq⟩ := Option.bind_eq_some_iff.mp hread
  obtain ⟨rfl, -⟩ := Prod.mk.inj (Option.some.inj heq)
  exact hf x (h cs x rest' hx)

/-- Of two alternatives, both read what has a property. -/
theorem Yields.orElse (h : step.Yields P) (h' : other.Yields P) : (step <|> other).Yields P := by
  intro cs x rest hread
  replace hread : (step cs <|> other cs) = some (x, rest) := hread
  cases hstep : step cs with
  | none =>
    rw [hstep] at hread
    exact h' cs x rest hread
  | some read =>
    rw [hstep] at hread
    exact h cs x rest (hstep.trans hread)

/-- Each of many readings of a step has what the step has. -/
theorem Yields.manyUpTo (h : step.Yields P) {fuel : Nat} {done : List α} (hdone : ∀ x ∈ done, P x) :
    (manyUpTo step fuel done).Yields fun xs => ∀ x ∈ xs, P x := by
  induction fuel generalizing done with
  | zero => exact yields_pure (by simpa using hdone)
  | succ fuel ih =>
    intro cs xs rest hread
    cases hx : step cs with
    | none =>
      simp only [Read.manyUpTo, hx, Option.some.injEq, Prod.mk.injEq] at hread
      simpa [← hread.1] using hdone
    | some read =>
      simp only [Read.manyUpTo, hx] at hread
      exact ih (List.forall_mem_cons.mpr ⟨h cs read.1 read.2 hx, hdone⟩) read.2 xs rest hread

/-- Each of the readings of a step that is repeated has what the step has. -/
theorem Yields.many (h : step.Yields P) : (many step).Yields fun xs => ∀ x ∈ xs, P x :=
  yields_bind fun _ => h.manyUpTo (List.forall_mem_nil _)

/-- A reading keeps what it has if something is read before it. -/
theorem Yields.after (h : step.Yields P) (before : Read Unit) : (before *> step).Yields P :=
  yields_bind fun _ => h

/-- A reading keeps what it has if something is read behind it. -/
theorem Yields.before (h : step.Yields P) (after : Read Unit) : (step <* after).Yields P :=
  h.bind fun _ hx => yields_bind fun _ => yields_pure hx

/-- Each of the readings of a step between separators has what the step has. -/
theorem Yields.separated (h : step.Yields P) (separator : Read Unit) :
    (separated step separator).Yields fun xs => ∀ x ∈ xs, P x :=
  h.bind fun _ hx => (h.after separator).many.bind fun _ hxs =>
    yields_pure (List.forall_mem_cons.mpr ⟨hx, hxs⟩)

/-- Each of the readings of a step between separators has what the step has, also if there are
none. -/
theorem Yields.separatedOrNone (h : step.Yields P) (separator : Read Unit) :
    (Read.separated step separator <|> pure []).Yields fun xs => ∀ x ∈ xs, P x :=
  (h.separated separator).orElse (yields_pure (List.forall_mem_nil P))

end Read

variable {value : Read Value}

/-- An array has items without repeated keys if its reader of values gives such values. -/
theorem yields_arrayItems (h : value.Yields Value.Keyed) :
    (arrayItems value).Yields fun items => ∀ v ∈ items, v.Keyed := by
  have hitems := ((h.after gaps).before gaps).separatedOrNone (Read.char ',')
  unfold arrayItems
  refine Read.yields_bind fun _ => hitems.bind fun items hitems => ?_
  have hclosed : (pure items : Read (List Value)).Yields fun items => ∀ v ∈ items, v.Keyed :=
    Read.yields_pure hitems
  split_ifs
  · exact Read.yields_bind fun _ => Read.yields_bind fun _ => Read.yields_bind fun _ => hclosed
  · exact Read.yields_bind fun _ => Read.yields_bind fun _ => hclosed

/-- A key is read with a value without repeated keys if the reader of values gives such values. -/
theorem yields_keyValue (h : value.Yields Value.Keyed) :
    (keyValue value).Yields fun entry => entry.2.Keyed :=
  Read.yields_bind fun _ => Read.yields_bind fun _ => Read.yields_bind fun _ =>
    h.bind fun _ hv => Read.yields_pure hv

/-- The entries between braces have values without repeated keys if the reader of values gives such
values. -/
theorem yields_inlineEntries (h : value.Yields Value.Keyed) :
    (inlineEntries value).Yields fun entries => ∀ e ∈ entries, e.2.Keyed :=
  Read.yields_bind fun _ =>
    (((yields_keyValue h).before spaces).separatedOrNone (Read.char ',')).bind fun _ hentries =>
      Read.yields_bind fun _ => Read.yields_bind fun _ => Read.yields_pure hentries

/-- A loop keeps what each of its steps keeps. -/
theorem foldlM_keeps {α β : Type} {step : α → β → Option α} {P : α → Prop} {xs : List β}
    (hstep : ∀ a, ∀ x ∈ xs, ∀ a', step a x = some a' → P a → P a') {a a' : α}
    (h : xs.foldlM step a = some a') (ha : P a) : P a' := by
  induction xs generalizing a with
  | nil => exact Option.some.inj h ▸ ha
  | cons x xs ih =>
    obtain ⟨a'', hx, hxs⟩ := Option.bind_eq_some_iff.mp h
    exact ih (fun a x hmem => hstep a x (List.mem_cons_of_mem _ hmem)) hxs
      (hstep a x List.mem_cons_self a'' hx ha)

/-- A table between braces repeats no keys. -/
theorem keyed_of_inlineTable? {entries : List (Key × Value)} (hentries : ∀ e ∈ entries, e.2.Keyed)
    {v : Value} (h : inlineTable? entries = some v) : v.Keyed := by
  refine foldlM_keeps (fun table e he table' hadded htable => ?_) h (Value.keyed_nil .inline)
  exact (keeps_addEntry (hentries e he) e.1.path e.1.name table table' hadded htable).keyed

/-- A value that is read repeats no keys. -/
theorem yields_value (depth : Nat) : (Toml.value depth).Yields Value.Keyed := by
  have hscalar : (do return .scalar (← scalar) : Read Value).Yields Value.Keyed :=
    Read.yields_bind fun s => Read.yields_pure (.scalar s)
  induction depth with
  | zero => exact hscalar
  | succ depth ih =>
    refine hscalar.orElse (Read.Yields.orElse ?_ ?_)
    · exact (yields_arrayItems ih).bind fun _ hitems => Read.yields_pure (.array hitems)
    · refine (yields_inlineEntries ih).bind fun entries hentries => ?_
      split
      next table htable => exact Read.yields_pure (keyed_of_inlineTable? hentries htable)
      next => exact Read.yields_failure

/-! ## Documents -/

/-- Whether the value of a statement, if it has one, repeats no keys. -/
def Statement.Keyed : Statement → Prop
  | .entry _ v => v.Keyed
  | .table _ | .tables _ => True

/-- A statement that is read repeats no keys in its value. -/
theorem yields_statement : statement.Yields Statement.Keyed := by
  have htables : (do return .tables (← header ['[', '['] [']', ']']) : Read Statement).Yields
      Statement.Keyed := Read.yields_bind fun _ => Read.yields_pure trivial
  have htable : (do return .table (← header ['['] [']']) : Read Statement).Yields
      Statement.Keyed := Read.yields_bind fun _ => Read.yields_pure trivial
  unfold statement
  refine (htables.orElse (htable.orElse ?_)).bind fun _ hs =>
    Read.yields_bind fun _ => Read.yields_pure hs
  exact (yields_keyValue (yields_value _)).bind fun _ hv => Read.yields_pure hv

/-- The statements of a document repeat no keys in their values. -/
theorem keyed_of_statements? {text : List Char} {statements : List Statement}
    (h : statements? text = some statements) : ∀ s ∈ statements, s.Keyed := by
  have hsome : (some <$> statement).Yields fun o => ∀ s, o = some s → s.Keyed :=
    yields_statement.map fun s hs s' heq => Option.some.inj heq ▸ hs
  have hnone : (pure none : Read (Option Statement)).Yields fun o => ∀ s, o = some s → s.Keyed :=
    Read.yields_pure fun _ heq => nomatch heq
  have hline : line.Yields fun o => ∀ s, o = some s → s.Keyed :=
    (hsome.orElse ((hnone.after (comment *> lineEnd)).orElse (hnone.after newline))).bind
      fun _ ho => Read.yields_bind fun _ => Read.yields_pure ho
  have hlines : lines.Yields fun os => ∀ o ∈ os, ∀ s, o = some s → s.Keyed :=
    Read.yields_bind fun _ => Read.yields_bind fun _ => hline.many
  obtain ⟨⟨os, rest⟩, hos, hrest⟩ := Option.bind_eq_some_iff.mp h
  cases rest with
  | cons c cs => cases hrest
  | nil =>
    obtain rfl := Option.some.inj hrest
    intro s hs
    obtain ⟨o, ho, heq⟩ := List.mem_filterMap.mp hs
    exact hlines text os [] hos o ho s heq

/-- Carrying out a statement repeats no keys. -/
theorem Draft.isKeyedTable_of_apply {d d' : Draft} {s : Statement} (hs : s.Keyed)
    (h : d.apply s = some d') (hd : d.root.IsKeyedTable) : d'.root.IsKeyedTable := by
  cases s with
  | entry k v =>
    obtain ⟨root, hroot, heq⟩ := Option.bind_eq_some_iff.mp h
    obtain rfl := Option.some.inj heq
    exact (keeps_addEntry hs k.path k.name).updateAt .implied d.current _ _ hroot hd.keyed
  | table k =>
    obtain ⟨root, hroot, heq⟩ := Option.bind_eq_some_iff.mp h
    obtain rfl := Option.some.inj heq
    exact keeps_openTable k.path k.name _ _ hroot hd.keyed
  | tables k =>
    obtain ⟨root, hroot, heq⟩ := Option.bind_eq_some_iff.mp h
    obtain rfl := Option.some.inj heq
    exact keeps_openTables k.path k.name _ _ hroot hd.keyed

/-- What a text describes is a table, and no key is given twice in it. -/
theorem isKeyedTable_of_parse? {text : String} {document : Value}
    (h : parse? text = some document) : document.IsKeyedTable := by
  obtain ⟨statements, hstatements, htable⟩ := Option.bind_eq_some_iff.mp h
  obtain ⟨d, hd, heq⟩ := Option.bind_eq_some_iff.mp htable
  obtain rfl := Option.some.inj heq
  refine foldlM_keeps (P := fun d => d.root.IsKeyedTable) (fun d s hs d' happlied => ?_) hd ?_
  · exact Draft.isKeyedTable_of_apply (keyed_of_statements? hstatements s hs) happlied
  · exact ⟨Value.keyed_nil .header, .header, [], rfl⟩

end ProxyPolicy.Toml
