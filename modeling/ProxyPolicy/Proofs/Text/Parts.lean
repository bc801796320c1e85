import Mathlib.Algebra.Ring.Nat
import Mathlib.Data.List.Basic
import Mathlib.Data.List.TakeWhile

/-!
# Parts between separators

A text is its parts with the separator between them (`List.intercalate_splitOn`). So a character of
the text is the separator or is in a part, and is not both; and a change of characters that keeps
the separator apart from the others changes each part by itself. A text that is cut at the first
separator only is what is before it, which does not hold the separator, and what is behind it
(`takeWhile_bne_append`, `dropWhile_bne_append`). The lengths of the parts say where the separators
are, and the other way round (`map_length_splitOn_iff`).
-/

namespace ProxyPolicy.Text

variable {α β : Type} [DecidableEq α] [DecidableEq β]

/-- The separator is in no part. -/
theorem not_mem_of_mem_splitOn {x : α} {xs part : List α} (h : part ∈ xs.splitOn x) : x ∉ part := by
  induction xs generalizing part with
  | nil =>
    rw [List.splitOn_nil, List.mem_singleton] at h
    simp [h]
  | cons a xs ih =>
    rw [List.splitOn_cons_eq_if_modifyHead] at h
    obtain ⟨first, rest, hparts⟩ := List.exists_cons_of_ne_nil (List.splitOn_ne_nil x xs)
    rw [hparts] at h ih
    split_ifs at h with ha
    · rcases List.mem_cons.mp h with rfl | hmem
      · exact List.not_mem_nil
      · exact ih hmem
    · rcases List.mem_cons.mp h with rfl | hmem
      · have hne : x ≠ a := fun heq => ha (beq_iff_eq.mpr heq.symm)
        exact List.not_mem_cons_of_ne_of_not_mem hne (ih List.mem_cons_self)
      · exact ih (List.mem_cons_of_mem first hmem)

/-- What is in a text is the separator or is in a part. -/
theorem eq_or_exists_mem_splitOn {x a : α} {xs : List α} (h : a ∈ xs) :
    a = x ∨ ∃ part ∈ xs.splitOn x, a ∈ part := by
  induction xs with
  | nil => cases h
  | cons b xs ih =>
    obtain ⟨first, rest, hparts⟩ := List.exists_cons_of_ne_nil (List.splitOn_ne_nil x xs)
    rw [List.splitOn_cons_eq_if_modifyHead, hparts]
    rw [hparts] at ih
    split_ifs with hb
    · rcases List.mem_cons.mp h with rfl | hmem
      · exact .inl (beq_iff_eq.mp hb)
      · exact (ih hmem).imp_right fun ⟨part, hpart, ha⟩ => ⟨part, List.mem_cons_of_mem [] hpart, ha⟩
    · rcases List.mem_cons.mp h with rfl | hmem
      · exact .inr ⟨a :: first, List.mem_cons_self, List.mem_cons_self⟩
      · refine (ih hmem).imp_right fun ⟨part, hpart, ha⟩ => ?_
        rcases List.mem_cons.mp hpart with rfl | hrest
        · exact ⟨b :: part, List.mem_cons_self, List.mem_cons_of_mem b ha⟩
        · exact ⟨part, List.mem_cons_of_mem _ hrest, ha⟩

/-- What is in a part is in the text. -/
theorem mem_of_mem_splitOn {x a : α} {xs part : List α} (h : part ∈ xs.splitOn x) (ha : a ∈ part) :
    a ∈ xs := by
  induction xs generalizing part with
  | nil =>
    rw [List.splitOn_nil, List.mem_singleton] at h
    rw [h] at ha
    cases ha
  | cons b xs ih =>
    rw [List.splitOn_cons_eq_if_modifyHead] at h
    obtain ⟨first, rest, hparts⟩ := List.exists_cons_of_ne_nil (List.splitOn_ne_nil x xs)
    rw [hparts] at h ih
    split_ifs at h with hb
    · rcases List.mem_cons.mp h with rfl | hmem
      · cases ha
      · exact List.mem_cons_of_mem b (ih hmem ha)
    · rcases List.mem_cons.mp h with rfl | hmem
      · rcases List.mem_cons.mp ha with rfl | hfirst
        · exact List.mem_cons_self
        · exact List.mem_cons_of_mem b (ih List.mem_cons_self hfirst)
      · exact List.mem_cons_of_mem b (ih (List.mem_cons_of_mem first hmem) ha)

/-- The parts of a changed text are the changed parts. -/
theorem splitOn_map {f : α → β} {x : α} {y : β} (h : ∀ a, f a = y ↔ a = x) (xs : List α) :
    (xs.map f).splitOn y = (xs.splitOn x).map (·.map f) := by
  induction xs with
  | nil => rfl
  | cons a xs ih =>
    obtain ⟨first, rest, hparts⟩ := List.exists_cons_of_ne_nil (List.splitOn_ne_nil x xs)
    rw [List.map_cons, List.splitOn_cons_eq_if_modifyHead, List.splitOn_cons_eq_if_modifyHead, ih,
      hparts]
    by_cases ha : a = x
    · simp [ha, (h x).mpr rfl]
    · simp [ha, mt (h a).mp ha]

/-! ## The first separator -/

/-- A search for a separator passes over a text that does not hold it. -/
theorem forall_ne_of_not_mem {x : α} {xs : List α} (h : x ∉ xs) : ∀ a ∈ xs, (a != x) = true := by
  intro a ha
  rw [bne_iff_ne]
  rintro rfl
  exact h ha

/-- What is before the first separator. -/
theorem takeWhile_bne_append {x : α} {xs : List α} (h : x ∉ xs) (ys : List α) :
    (xs ++ x :: ys).takeWhile (· != x) = xs := by
  rw [List.takeWhile_append_of_pos (forall_ne_of_not_mem h), List.takeWhile_cons_of_neg (by simp),
    List.append_nil]

/-- What is left from the first separator on. -/
theorem dropWhile_bne_append {x : α} {xs : List α} (h : x ∉ xs) (ys : List α) :
    (xs ++ x :: ys).dropWhile (· != x) = x :: ys := by
  rw [List.dropWhile_append_of_pos (forall_ne_of_not_mem h), List.dropWhile_cons_of_neg (by simp)]

/-- A text without a separator is before it as a whole. -/
theorem takeWhile_bne_of_not_mem {x : α} {xs : List α} (h : x ∉ xs) :
    xs.takeWhile (· != x) = xs :=
  List.takeWhile_eq_self_iff.mpr (forall_ne_of_not_mem h)

/-- Of a text without a separator nothing is left. -/
theorem dropWhile_bne_of_not_mem {x : α} {xs : List α} (h : x ∉ xs) :
    xs.dropWhile (· != x) = [] :=
  List.dropWhile_eq_nil_iff.mpr (forall_ne_of_not_mem h)

/-! ## Places of the separators -/

/-- The places of the separators between parts of these lengths, counted from zero. -/
def separatorPlaces : List Nat → List Nat
  | [] | [_] => []
  | n :: m :: ns => n :: (separatorPlaces (m :: ns)).map (n + 1 + ·)

/-- The places of the separators are that of the first and those behind it. -/
theorem getElem?_append_cons_eq_iff {x : α} {xs : List α} (h : x ∉ xs) (ys : List α) (i : Nat) :
    (xs ++ x :: ys)[i]? = some x ↔
      i = xs.length ∨ ∃ j, ys[j]? = some x ∧ xs.length + 1 + j = i := by
  rcases Nat.lt_trichotomy i xs.length with hlt | rfl | hgt
  · rw [List.getElem?_append_left hlt]
    constructor
    · intro hx
      exact absurd (List.mem_of_getElem? hx) h
    · rintro (heq | ⟨j, -, heq⟩)
      · exact absurd heq hlt.ne
      · omega
  · simp
  · obtain ⟨j, rfl⟩ := Nat.exists_eq_add_of_lt hgt
    have hj : xs.length + j + 1 - xs.length = j + 1 := by omega
    rw [List.getElem?_append_right (by omega), hj, List.getElem?_cons_succ]
    constructor
    · intro hx
      exact .inr ⟨j, hx, by omega⟩
    · rintro (heq | ⟨j', hx, heq⟩)
      · omega
      · obtain rfl : j' = j := by omega
        exact hx

/-- The parts have certain lengths exactly when the separators are at the places between such parts
and the text is as long as the parts and the separators together. -/
theorem map_length_splitOn_iff {x : α} {xs : List α} {n : Nat} {ns : List Nat} :
    (xs.splitOn x).map List.length = n :: ns ↔
      xs.length = n + (ns.map (· + 1)).sum ∧
        ∀ i, xs[i]? = some x ↔ i ∈ separatorPlaces (n :: ns) := by
  -- The induction is on the lengths; each step takes the part before the first separator.
  induction ns generalizing n xs with
  | nil =>
    by_cases hx : x ∈ xs
    · obtain ⟨as, bs, rfl, has⟩ := List.eq_append_cons_of_mem hx
      have hplace : (as ++ x :: bs)[as.length]? = some x := by simp
      rw [List.splitOn_append_cons_self_of_not_mem has, List.map_cons, List.cons.injEq,
        List.map_eq_nil_iff]
      constructor
      · rintro ⟨-, hparts⟩
        exact absurd hparts (List.splitOn_ne_nil x bs)
      · rintro ⟨-, hplaces⟩
        exact absurd ((hplaces _).mp hplace) List.not_mem_nil
    · have hno (i : Nat) : xs[i]? ≠ some x := fun hi => hx (List.mem_of_getElem? hi)
      simp [List.splitOn_eq_singleton hx, separatorPlaces, hno]
  | cons m ns ih =>
    by_cases hx : x ∈ xs
    · obtain ⟨as, bs, rfl, has⟩ := List.eq_append_cons_of_mem hx
      rw [List.splitOn_append_cons_self_of_not_mem has, List.map_cons, List.cons.injEq, ih]
      simp only [getElem?_append_cons_eq_iff has, separatorPlaces, List.mem_cons, List.mem_map,
        List.length_append, List.length_cons, List.map_cons, List.sum_cons]
      constructor
      · rintro ⟨rfl, hlength, hplaces⟩
        exact ⟨by omega, fun i => by simp only [hplaces]⟩
      · rintro ⟨hlength, hplaces⟩
        -- The first separator is at the first place, since all others are behind that.
        have hn : as.length = n := by
          rcases (hplaces as.length).mp (.inl rfl) with heq | ⟨j, -, heq⟩
          · exact heq
          · rcases (hplaces n).mpr (.inl rfl) with heq' | ⟨j', -, heq'⟩ <;> omega
        subst hn
        refine ⟨rfl, by omega, fun j => ?_⟩
        have hj := hplaces (as.length + 1 + j)
        simpa [Nat.add_left_cancel_iff, Nat.add_assoc] using hj
    · rw [List.splitOn_eq_singleton hx]
      constructor
      · intro hlengths
        cases hlengths
      · rintro ⟨-, hplaces⟩
        exact absurd (List.mem_of_getElem? ((hplaces n).mpr List.mem_cons_self)) hx

end ProxyPolicy.Text
