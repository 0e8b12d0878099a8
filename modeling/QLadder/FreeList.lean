/-!
# Free lists

A pool of `size` numbered things.  Those that were never lent are counted by
`fresh`; those that came back are kept in a list, and lent again before any
fresh one.  `Lent` says which ones are out: together with the list they are
everything below `fresh`, each of them once.

* `Lent.take_some` — what is lent was not out, and is now;
* `Lent.take_none` — nothing is lent only if everything is out;
* `Lent.give` — what comes back is not out any more.
-/

/-- A pool, with what came back to it. -/
structure FreeList where
  size : Nat
  fresh : Nat
  free : List Nat
  deriving DecidableEq, Repr

namespace FreeList

/-- A pool that has lent nothing yet. -/
def new (size : Nat) : FreeList :=
  { size := size, fresh := 0, free := [] }

/-- Lend one: the last that came back, or else a fresh one. -/
def take (list : FreeList) : Option Nat × FreeList :=
  match list.free.getLast? with
  | some i => (some i, { list with free := list.free.dropLast })
  | none =>
      if list.fresh < list.size then
        (some list.fresh, { list with fresh := list.fresh + 1 })
      else
        (none, list)

/-- One comes back. -/
def give (list : FreeList) (i : Nat) : FreeList :=
  { list with free := list.free ++ [i] }

/-- These are out. -/
structure Lent (list : FreeList) (lent : List Nat) : Prop where
  fresh_le : list.fresh ≤ list.size
  perm : (list.free ++ lent).Perm (List.range list.fresh)

variable {list after : FreeList} {lent : List Nat} {i : Nat}

theorem lent_new (size : Nat) : (new size).Lent [] :=
  ⟨Nat.zero_le size, List.Perm.refl []⟩

/-- Nothing is out twice, or out and back. -/
theorem Lent.nodup (h : list.Lent lent) : (list.free ++ lent).Nodup :=
  h.perm.nodup_iff.mpr List.nodup_range

/-- What is out was lent from the pool. -/
theorem Lent.lt_fresh (h : list.Lent lent) (hi : i ∈ lent) : i < list.fresh :=
  List.mem_range.mp (h.perm.mem_iff.mp (List.mem_append_right list.free hi))

theorem Lent.lt_size (h : list.Lent lent) (hi : i ∈ lent) : i < list.size :=
  Nat.lt_of_lt_of_le (h.lt_fresh hi) h.fresh_le

/-- **Taking.**  What is lent was not out, and is now. -/
theorem Lent.take_some (h : list.Lent lent) (htake : list.take = (some i, after)) :
    after.Lent (i :: lent) ∧ i ∉ lent ∧ after.size = list.size := by
  have hlent : after.Lent (i :: lent) ∧ after.size = list.size := by
    cases hlast : list.free.getLast? with
    | none =>
        have hfree : list.free = [] := List.getLast?_eq_none_iff.mp hlast
        by_cases hroom : list.fresh < list.size
        · simp only [take, hlast, if_pos hroom, Prod.mk.injEq, Option.some.injEq] at htake
          obtain ⟨rfl, rfl⟩ := htake
          have hperm := h.perm
          rw [hfree, List.nil_append] at hperm
          refine ⟨⟨hroom, ?_⟩, rfl⟩
          have hfront : (list.free ++ list.fresh :: lent).Perm (lent ++ [list.fresh]) := by
            rw [hfree]
            exact (List.perm_append_singleton list.fresh lent).symm
          rw [List.range_succ]
          exact hfront.trans (List.Perm.append_right [list.fresh] hperm)
        · simp [take, hlast, if_neg hroom] at htake
    | some last =>
        simp only [take, hlast, Prod.mk.injEq, Option.some.injEq] at htake
        obtain ⟨rfl, rfl⟩ := htake
        obtain ⟨front, hfront⟩ := List.getLast?_eq_some_iff.mp hlast
        have hperm := h.perm
        rw [hfront, List.append_assoc] at hperm
        refine ⟨⟨h.fresh_le, ?_⟩, rfl⟩
        rw [hfront, List.dropLast_concat]
        exact hperm
  refine ⟨hlent.1, ?_, hlent.2⟩
  have hnodup := (List.nodup_append.mp hlent.1.nodup).2.1
  exact (List.nodup_cons.mp hnodup).1

/-- **Exhaustion.**  Nothing is lent if and only if everything is out. -/
theorem Lent.take_none (h : list.Lent lent) :
    list.take.1 = none ↔ lent.Perm (List.range list.size) := by
  constructor
  · intro hnone
    cases hlast : list.free.getLast? with
    | none =>
        have hfree : list.free = [] := List.getLast?_eq_none_iff.mp hlast
        by_cases hroom : list.fresh < list.size
        · simp [take, hlast, if_pos hroom] at hnone
        · have hsize : list.fresh = list.size := Nat.le_antisymm h.fresh_le (by omega)
          have hperm := h.perm
          rw [hfree, List.nil_append, hsize] at hperm
          exact hperm
    | some last => simp [take, hlast] at hnone
  · intro hperm
    have hlength := hperm.length_eq
    have hall := h.perm.length_eq
    rw [List.length_append] at hall
    rw [List.length_range] at hlength hall
    have hfresh := h.fresh_le
    have hfree : list.free = [] := List.length_eq_zero_iff.mp (by omega)
    have hroom : ¬ list.fresh < list.size := by omega
    simp [take, hfree, hroom]

/-- **Giving back.** -/
theorem Lent.give (h : list.Lent lent) (hi : i ∈ lent) :
    (list.give i).Lent (lent.erase i) := by
  refine ⟨h.fresh_le, ?_⟩
  have hback : (list.give i).free ++ lent.erase i = list.free ++ (i :: lent.erase i) := by
    simp [FreeList.give]
  rw [hback]
  exact (List.Perm.append_left list.free (List.perm_cons_erase hi).symm).trans h.perm

end FreeList
