import Mathlib.Data.List.Forall2
import Mathlib.Data.Option.Basic

/-!
Traversals that may fail.

A list is traversed by a function that may give no result or an error. `option_mapM_eq_some_iff`
and `except_mapM_eq_ok_iff` say that the traversal succeeds with a list exactly when the function
succeeds on each element with the matching one.
-/

namespace DocumentSchema

variable {α β ε : Type}

theorem toOption_eq_some_iff {x : Except ε α} {a : α} : x.toOption = some a ↔ x = .ok a := by
  cases x <;> simp [Except.toOption]

theorem toOption_eq_none_iff {x : Except ε α} : x.toOption = none ↔ ∀ a, x ≠ .ok a := by
  cases x <;> simp [Except.toOption]

theorem guard_eq_some_iff {p : Prop} [Decidable p] {u : Unit} :
    (guard p : Option Unit) = some u ↔ p := by
  by_cases held : p <;> simp [guard, held, failure]

/-- Two steps succeed if the first one does and then the second. -/
theorem except_bind_eq_ok_iff {x : Except ε α} {f : α → Except ε β} {b : β} :
    (x >>= f) = .ok b ↔ ∃ a, x = .ok a ∧ f a = .ok b := by
  cases x <;> simp [bind, Except.bind]

/-- Two steps fail if one of them does. -/
theorem except_bind_eq_error_iff {x : Except ε α} {f : α → Except ε β} {e : ε} :
    (x >>= f) = .error e ↔ x = .error e ∨ ∃ a, x = .ok a ∧ f a = .error e := by
  cases x <;> simp [bind, Except.bind]

theorem except_bind_unit_eq_ok_iff {x : Except ε Unit} {f : Unit → Except ε β} {b : β} :
    (x >>= f) = .ok b ↔ x = .ok () ∧ f () = .ok b := by
  cases x <;> simp [bind, Except.bind]

theorem except_pure_eq_ok_iff {a b : α} : (pure a : Except ε α) = .ok b ↔ b = a := by
  simp [pure, Except.pure, eq_comm]

theorem except_map_eq_ok_iff {x : Except ε α} {f : α → β} {b : β} :
    x.map f = .ok b ↔ ∃ a, x = .ok a ∧ b = f a := by
  cases x <;> simp [Except.map, eq_comm]

theorem except_map_eq_error_iff {x : Except ε α} {f : α → β} {e : ε} :
    x.map f = .error e ↔ x = .error e := by
  cases x <;> simp [Except.map]

theorem except_mapError_eq_ok_iff {δ : Type} {x : Except ε α} {f : ε → δ} {a : α} :
    x.mapError f = .ok a ↔ x = .ok a := by
  cases x <;> simp [Except.mapError]

theorem except_mapError_eq_error_iff {δ : Type} {x : Except ε α} {f : ε → δ} {e : δ} :
    x.mapError f = .error e ↔ ∃ cause, x = .error cause ∧ e = f cause := by
  cases x <;> simp [Except.mapError, eq_comm]

/-- A traversal gives a list exactly if the function gives its elements. -/
theorem option_mapM_eq_some_iff {f : α → Option β} {xs : List α} {ys : List β} :
    xs.mapM f = some ys ↔ List.Forall₂ (fun x y => f x = some y) xs ys := by
  induction xs generalizing ys with
  | nil => cases ys <;> simp
  | cons x xs ih =>
    rw [List.mapM_cons]
    cases head : f x with
    | none => cases ys <;> simp [head]
    | some y =>
      cases tail : xs.mapM f with
      | none => cases ys <;> simp [head, ← ih, tail]
      | some rest => cases ys <;> simp [head, ← ih, tail]

/-- A traversal succeeds with a list exactly if the function succeeds with its elements. -/
theorem except_mapM_eq_ok_iff {f : α → Except ε β} {xs : List α} {ys : List β} :
    xs.mapM f = .ok ys ↔ List.Forall₂ (fun x y => f x = .ok y) xs ys := by
  induction xs generalizing ys with
  | nil => cases ys <;> simp [pure, Except.pure]
  | cons x xs ih =>
    rw [List.mapM_cons]
    cases head : f x with
    | error e => cases ys <;> simp [head, bind, Except.bind]
    | ok y =>
      cases tail : xs.mapM f with
      | error e => cases ys <;> simp [head, ← ih, tail, bind, Except.bind]
      | ok rest => cases ys <;> simp [head, ← ih, tail, bind, Except.bind, pure, Except.pure]

/-- A relation that has an element for each one of a list has a list for the list. -/
theorem exists_forall₂ {r : α → β → Prop} {xs : List α} (each : ∀ x ∈ xs, ∃ y, r x y) :
    ∃ ys, List.Forall₂ r xs ys := by
  induction xs with
  | nil => exact ⟨[], .nil⟩
  | cons x xs ih =>
    obtain ⟨y, here⟩ := each x (by simp)
    obtain ⟨ys, there⟩ := ih fun x member => each x (by simp [member])
    exact ⟨y :: ys, .cons here there⟩

/-- Lists match if they are equally long and match place by place. -/
theorem forall₂_iff_getElem? {r : α → β → Prop} {xs : List α} {ys : List β} :
    List.Forall₂ r xs ys ↔
      ys.length = xs.length ∧
        ∀ (i : Nat) x y, xs[i]? = some x → ys[i]? = some y → r x y := by
  rw [List.forall₂_iff_get, eq_comm]
  refine and_congr_right fun _ => ⟨fun each i x y left right => ?_, fun each i left right => ?_⟩
  · obtain ⟨bound, rfl⟩ := List.getElem?_eq_some_iff.1 left
    obtain ⟨bound', rfl⟩ := List.getElem?_eq_some_iff.1 right
    exact each i bound bound'
  · exact each i _ _ (List.getElem?_eq_getElem left) (List.getElem?_eq_getElem right)

/-- A relation between numbered elements of a list and those of another one. -/
theorem forall₂_zipIdx_iff {r : α × Nat → β → Prop} {xs : List α} {ys : List β} :
    List.Forall₂ r xs.zipIdx ys ↔
      ys.length = xs.length ∧
        ∀ (i : Nat) x y, xs[i]? = some x → ys[i]? = some y → r (x, i) y := by
  rw [forall₂_iff_getElem?, List.length_zipIdx]
  simp only [List.getElem?_zipIdx, Option.map_eq_some_iff, Nat.zero_add]
  refine and_congr_right fun _ => ⟨fun each i x y left => ?_, ?_⟩
  · exact each i (x, i) y ⟨x, left, rfl⟩
  · intro each i _ y h
    obtain ⟨x, left, rfl⟩ := h
    exact each i x y left

theorem forall₂_congr_of_mem {r s : α → β → Prop} {xs : List α} {ys : List β}
    (same : ∀ x ∈ xs, ∀ y, r x y ↔ s x y) : List.Forall₂ r xs ys ↔ List.Forall₂ s xs ys := by
  induction xs generalizing ys with
  | nil => cases ys <;> simp
  | cons x xs ih =>
    cases ys with
    | nil => simp
    | cons y ys =>
      rw [List.forall₂_cons, List.forall₂_cons, same x (by simp) y,
        ih fun other member => same other (by simp [member])]

/-- A relation that turns into another one, for the elements of a list, with its sides swapped. -/
theorem forall₂_swap_of_mem {r : α → β → Prop} {s : β → α → Prop} {xs : List α} {ys : List β}
    (matching : List.Forall₂ r xs ys) (each : ∀ x ∈ xs, ∀ y, r x y → s y x) :
    List.Forall₂ s ys xs := by
  induction matching with
  | nil => exact .nil
  | cons here _ ih =>
    exact .cons (each _ (by simp) _ here) (ih fun x member => each x (by simp [member]))

theorem forall₂_trans {γ : Type} {r : α → β → Prop} {s : β → γ → Prop} {t : α → γ → Prop}
    {xs : List α} {ys : List β} {zs : List γ} (first : List.Forall₂ r xs ys)
    (second : List.Forall₂ s ys zs) (each : ∀ x y z, r x y → s y z → t x z) :
    List.Forall₂ t xs zs := by
  induction first generalizing zs with
  | nil =>
    cases second
    exact .nil
  | cons here _ ih =>
    cases second with
    | cons there rest => exact .cons (each _ _ _ here there) (ih rest)

/-- Lists with the same image, each under its own function. -/
theorem map_eq_map_of_forall₂ {γ : Type} {f : α → γ} {g : β → γ} {xs : List α} {ys : List β}
    (same : List.Forall₂ (fun x y => f x = g y) xs ys) : xs.map f = ys.map g := by
  induction same with
  | nil => rfl
  | cons here _ ih => rw [List.map_cons, List.map_cons, here, ih]

/-- An element of the left list matches one of the right list. -/
theorem exists_of_mem_left {r : α → β → Prop} {xs : List α} {ys : List β} {x : α}
    (matching : List.Forall₂ r xs ys) (member : x ∈ xs) : ∃ y ∈ ys, r x y := by
  obtain ⟨i, found⟩ := List.mem_iff_getElem?.1 member
  obtain ⟨length, each⟩ := forall₂_iff_getElem?.1 matching
  obtain ⟨bound, -⟩ := List.getElem?_eq_some_iff.1 found
  have right := List.getElem?_eq_getElem (length.symm ▸ bound)
  exact ⟨_, List.mem_of_getElem? right, each i _ _ found right⟩

/-- An element of the right list matches one of the left list. -/
theorem exists_of_mem_right {r : α → β → Prop} {xs : List α} {ys : List β} {y : β}
    (matching : List.Forall₂ r xs ys) (member : y ∈ ys) : ∃ x ∈ xs, r x y := by
  obtain ⟨i, found⟩ := List.mem_iff_getElem?.1 member
  obtain ⟨length, each⟩ := forall₂_iff_getElem?.1 matching
  obtain ⟨bound, -⟩ := List.getElem?_eq_some_iff.1 found
  have left := List.getElem?_eq_getElem (length ▸ bound)
  exact ⟨_, List.mem_of_getElem? left, each i _ _ left found⟩

end DocumentSchema
