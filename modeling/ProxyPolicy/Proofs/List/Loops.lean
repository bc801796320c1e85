import Mathlib.Control.Monad.Basic
import Mathlib.Data.List.Forall2

/-!
# Loops over lists

A loop takes a step for each member of a list, and gives the list of what the steps give; it gives
nothing when a step does not. Steps that only say that they fail are options. Of steps that say why,
a loop gives what they give, member by member (`mapM_eq_ok_iff`), or fails as the first of them does
that fails (`mapM_eq_error_iff`).
-/

namespace ProxyPolicy

/-! ## Steps that may give nothing -/

section Option

variable {α β : Type} {step : α → Option β} {xs : List α}

/-- A loop whose steps all give something gives what they give. -/
theorem mapM_eq_some_map {value : α → β} (h : ∀ x ∈ xs, step x = some (value x)) :
    xs.mapM step = some (xs.map value) := by
  induction xs with
  | nil => rfl
  | cons x xs ih =>
    have hrest := ih fun y hy => h y (List.mem_cons_of_mem x hy)
    rw [List.mapM_cons, h x List.mem_cons_self, hrest]
    rfl

/-- A loop gives something exactly when each step does. -/
theorem isSome_mapM_iff : (xs.mapM step).isSome ↔ ∀ x ∈ xs, (step x).isSome := by
  induction xs with
  | nil => simp
  | cons x xs ih =>
    rw [List.mapM_cons, List.forall_mem_cons, ← ih]
    cases step x with
    | none => simp
    | some y => cases xs.mapM step <;> simp

end Option

/-! ## Steps that may fail -/

section Except

variable {ε α β : Type}

/-- Two steps succeed exactly when the second does on what the first gives. -/
theorem bind_eq_ok_iff {first : Except ε α} {next : α → Except ε β} {b : β} :
    first >>= next = .ok b ↔ ∃ a, first = .ok a ∧ next a = .ok b := by
  cases first with
  | error e => simp [bind, Except.bind]
  | ok a => simp [bind, Except.bind]

/-- Two steps fail when the first does, or when the second does on what the first gives. -/
theorem bind_eq_error_iff {first : Except ε α} {next : α → Except ε β} {e : ε} :
    first >>= next = .error e ↔ first = .error e ∨ ∃ a, first = .ok a ∧ next a = .error e := by
  cases first with
  | error e' => simp [bind, Except.bind]
  | ok a => simp [bind, Except.bind]

variable {step : α → Except ε β} {xs : List α} {ys : List β}

/-- A loop gives a list exactly when each step gives its member. -/
theorem mapM_eq_ok_iff :
    xs.mapM step = .ok ys ↔ List.Forall₂ (fun x y => step x = .ok y) xs ys := by
  induction xs generalizing ys with
  | nil =>
    rw [List.mapM_nil, List.forall₂_nil_left_iff]
    exact ⟨fun h => (Except.ok.inj h).symm, fun h => congrArg Except.ok h.symm⟩
  | cons x xs ih =>
    simp only [List.mapM_cons, bind_eq_ok_iff, ih, List.forall₂_cons_left_iff]
    constructor
    · rintro ⟨y, hy, ys', hys', heq⟩
      exact ⟨y, ys', hy, hys', (Except.ok.inj heq).symm⟩
    · rintro ⟨y, ys', hy, hys', rfl⟩
      exact ⟨y, hy, ys', hys', rfl⟩

/-- A loop gives a list exactly when each step gives something. -/
theorem exists_mapM_eq_ok_iff :
    (∃ ys, xs.mapM step = .ok ys) ↔ ∀ x ∈ xs, ∃ y, step x = .ok y := by
  induction xs with
  | nil => simp [pure, Except.pure]
  | cons x xs ih =>
    rw [List.forall_mem_cons, ← ih]
    simp only [mapM_eq_ok_iff, List.forall₂_cons_left_iff]
    constructor
    · rintro ⟨-, y, ys, hy, hys, rfl⟩
      exact ⟨⟨y, hy⟩, ys, hys⟩
    · rintro ⟨⟨y, hy⟩, ys, hys⟩
      exact ⟨y :: ys, y, ys, hy, hys, rfl⟩

/-- What is shared by a member and what its step gives is shared by a list and what a loop gives. -/
theorem map_eq_of_mapM {γ : Type} (key : β → γ) (key' : α → γ)
    (hkey : ∀ x y, step x = .ok y → key y = key' x) (h : xs.mapM step = .ok ys) :
    ys.map key = xs.map key' := by
  have hpairs := mapM_eq_ok_iff.mp h
  clear h
  induction hpairs with
  | nil => rfl
  | cons hy _ ih => rw [List.map_cons, List.map_cons, hkey _ _ hy, ih]

/-- A loop gives what its steps give. -/
theorem mem_iff_of_mapM (h : xs.mapM step = .ok ys) {y : β} :
    y ∈ ys ↔ ∃ x ∈ xs, step x = .ok y := by
  have hpairs := mapM_eq_ok_iff.mp h
  clear h
  induction hpairs with
  | nil => simp
  | cons hfirst _ ih =>
    constructor
    · intro hmem
      rcases List.mem_cons.mp hmem with rfl | hmem
      · exact ⟨_, List.mem_cons_self, hfirst⟩
      · obtain ⟨x, hx, hstep⟩ := ih.mp hmem
        exact ⟨x, List.mem_cons_of_mem _ hx, hstep⟩
    · rintro ⟨x, hx, hstep⟩
      rcases List.mem_cons.mp hx with rfl | hx
      · rw [Except.ok.inj (hstep.symm.trans hfirst)]
        exact List.mem_cons_self
      · exact List.mem_cons_of_mem _ (ih.mpr ⟨x, hx, hstep⟩)

/-- A loop gives what its steps give, with what holds of all that they give. -/
theorem exists_mapM_of_forall {P : β → Prop} (h : ∀ x ∈ xs, ∃ y, step x = .ok y ∧ P y) :
    ∃ ys, xs.mapM step = .ok ys ∧ ∀ y ∈ ys, P y := by
  obtain ⟨ys, hys⟩ := exists_mapM_eq_ok_iff.mpr fun x hx => (h x hx).imp fun _ hy => hy.1
  refine ⟨ys, hys, fun y hy => ?_⟩
  obtain ⟨x, hx, hstep⟩ := (mem_iff_of_mapM hys).mp hy
  obtain ⟨y', hstep', hP⟩ := h x hx
  obtain rfl := Except.ok.inj (hstep.symm.trans hstep')
  exact hP

/-- A loop over the members that meet a condition gives what the loop over all gives of those. -/
theorem mapM_filter {p : α → Bool} {q : β → Bool} (hstep : ∀ x y, step x = .ok y → q y = p x)
    (h : xs.mapM step = .ok ys) : (xs.filter p).mapM step = .ok (ys.filter q) := by
  have hpairs := mapM_eq_ok_iff.mp h
  clear h
  induction hpairs with
  | nil => rfl
  | @cons x y xs ys hy _ ih =>
    have hq := hstep x y hy
    cases hx : p x with
    | true =>
      rw [List.filter_cons_of_pos hx, List.filter_cons_of_pos (hq.trans hx)]
      exact mapM_eq_ok_iff.mpr (.cons hy (mapM_eq_ok_iff.mp ih))
    | false =>
      rw [List.filter_cons_of_neg (by simp [hx]), List.filter_cons_of_neg (by simp [hq, hx])]
      exact ih

/-- What a loop makes of members that come in an order comes in an order too, if its steps keep the
order. -/
theorem pairwise_of_mapM {R : α → α → Prop} {S : β → β → Prop}
    (hkeep : ∀ x x' y y', step x = .ok y → step x' = .ok y' → R x x' → S y y')
    (h : xs.mapM step = .ok ys) (hxs : xs.Pairwise R) : ys.Pairwise S := by
  -- The induction is on the members side by side with what they give.
  have hpairs := mapM_eq_ok_iff.mp h
  clear h
  induction hpairs with
  | nil => exact .nil
  | cons hy hrest ih =>
    obtain ⟨hfirst, hothers⟩ := List.pairwise_cons.mp hxs
    refine List.pairwise_cons.mpr ⟨fun y' hy' => ?_, ih hothers⟩
    obtain ⟨x', hx', hstep⟩ := (mem_iff_of_mapM (mapM_eq_ok_iff.mpr hrest)).mp hy'
    exact hkeep _ _ _ _ hy hstep (hfirst x' hx')

end Except

end ProxyPolicy
