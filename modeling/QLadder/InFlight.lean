/-!
# Requests in flight

A machine that keeps its unfinished requests in a list advances one of them by
erasing it and appending what it turns into.  The order of the list plays no
part: what these lemmas keep track of is which requests are in flight, and how
many of a kind.
-/

namespace InFlight

variable {α : Type _}

/-- A property of every request in flight, after another one is sent. -/
theorem forall_sent {P : α → Prop} {xs : List α} {x : α} (hxs : ∀ z ∈ xs, P z)
    (hx : P x) : ∀ z ∈ xs ++ [x], P z := by
  intro z hz
  rcases List.mem_append.mp hz with hz | hz
  · exact hxs z hz
  · rw [List.mem_singleton.mp hz]
    exact hx

/-- A request at a place of the list, and the others. -/
theorem perm_eraseIdx {xs : List α} {i : Nat} {x : α} (h : xs[i]? = some x) :
    (x :: xs.eraseIdx i).Perm xs := by
  induction xs generalizing i with
  | nil => simp at h
  | cons y ys ih =>
      cases i with
      | zero =>
          simp only [List.getElem?_cons_zero, Option.some.injEq] at h
          rw [h]
          exact List.Perm.refl _
      | succ i =>
          simp only [List.getElem?_cons_succ] at h
          exact (List.Perm.swap y x _).trans ((ih h).cons y)

variable [BEq α]

/-- What is in flight after an advance was so before, or is new. -/
theorem mem_advance {xs ys : List α} {x z : α} (h : z ∈ xs.erase x ++ ys) :
    z ∈ xs ∨ z ∈ ys := by
  rcases List.mem_append.mp h with h | h
  · exact Or.inl (List.mem_of_mem_erase h)
  · exact Or.inr h

/-- A property of every request in flight, after an advance. -/
theorem forall_advance {P : α → Prop} {xs ys : List α} {x : α}
    (hxs : ∀ z ∈ xs, P z) (hys : ∀ z ∈ ys, P z) : ∀ z ∈ xs.erase x ++ ys, P z := by
  intro z hz
  rcases mem_advance hz with hz | hz
  · exact hxs z hz
  · exact hys z hz

/-- Erasing a request does not add to any kind. -/
theorem countP_erase_le (p : α → Bool) (xs : List α) (x : α) :
    (xs.erase x).countP p ≤ xs.countP p :=
  List.erase_sublist.countP_le

variable [LawfulBEq α]

/-- What was in flight still is after another request advanced. -/
theorem mem_advance_of_ne {xs : List α} {x z : α} (ys : List α) (hne : z ≠ x)
    (h : z ∈ xs) : z ∈ xs.erase x ++ ys :=
  List.mem_append_left ys ((List.mem_erase_of_ne hne).mpr h)

/-- The requests of a kind, counted with and without one that is in flight. -/
theorem countP_eq_erase (p : α → Bool) {xs : List α} {x : α} (h : x ∈ xs) :
    xs.countP p = (xs.erase x).countP p + if p x then 1 else 0 := by
  rw [(List.perm_cons_erase h).countP_eq p, List.countP_cons]

end InFlight
