import Mathlib.Data.List.Basic
import Mathlib.Data.List.Induction
import QLadder.PartialRun

/-!
# Components side by side

A system of components that run on one queue: components are started one after another,
an event goes to one of them, or a signal to all, and one that has ended is taken out.
Whatever the order of the events, the system is made of its components, each of which has
run alone on what it has heard (`components_eq`).
-/

namespace InParallel

open PartialRun

/-- The components that have not ended, with their numbers, oldest first. -/
structure System (σ : Type _) where
  components : List (Nat × σ)
  started : Nat

inductive Event (ε : Type _) where
  | start
  | one (id : Nat) (event : ε)
  | all
  deriving DecidableEq

variable {σ ε : Type _} (step : σ → ε → Option σ) (first : σ) (ended : σ → Bool) (signal : ε)

/-- A component, unless it has ended. -/
def keep (id : Nat) (component : σ) : Option (Nat × σ) :=
  if ended component then none else some (id, component)

def System.init : System σ :=
  { components := [], started := 0 }

def System.next (system : System σ) : Event ε → Option (System σ)
  | .start =>
      some { components := system.components ++ [(system.started, first)],
             started := system.started + 1 }
  | .one id event =>
      (system.components.find? fun component => component.1 = id).bind fun found =>
        (step found.2 event).map fun after =>
          { system with
            components := system.components.filterMap fun component =>
              if component.1 = id then keep ended id after else some component }
  | .all =>
      some { system with
        components := system.components.filterMap fun component =>
          (step component.2 signal).bind (keep ended component.1) }

/-- What a component hears; before it is started, nothing. -/
def heard (id : Nat) : Nat → List (Event ε) → List ε
  | _, [] => []
  | started, .start :: events => heard id (started + 1) events
  | started, .one other event :: events =>
      if other = id then event :: heard id started events else heard id started events
  | started, .all :: events =>
      if id < started then signal :: heard id started events else heard id started events

/-- A component that has run alone. -/
def alone (events : List (Event ε)) (id : Nat) : Option (Nat × σ) :=
  (run step first (heard signal id 0 events)).bind (keep ended id)

variable {step first ended signal}

/-- The components that events start. -/
def starts (events : List (Event ε)) : Nat :=
  events.countP fun event => match event with
    | .start => true
    | _ => false

theorem heard_append (id started : Nat) (events later : List (Event ε)) :
    heard signal id started (events ++ later) =
      heard signal id started events ++ heard signal id (started + starts events) later := by
  induction events generalizing started with
  | nil => rfl
  | cons event events ih =>
      cases event with
      | start =>
          have hcount : starts (Event.start :: events) = starts events + 1 :=
            List.countP_cons_of_pos rfl
          simp only [List.cons_append, heard, ih, hcount]
          congr 2
          omega
      | one other event =>
          have hcount : starts (Event.one other event :: events) = starts events :=
            List.countP_cons_of_neg Bool.false_ne_true
          simp only [List.cons_append, heard, ih, hcount]
          split <;> rfl
      | all =>
          have hcount : starts (Event.all :: events) = starts events :=
            List.countP_cons_of_neg Bool.false_ne_true
          simp only [List.cons_append, heard, ih, hcount]
          split <;> rfl

theorem keep_eq_some {id : Nat} {component : σ} {kept : Nat × σ}
    (h : keep ended id component = some kept) :
    kept = (id, component) ∧ ended component = false := by
  unfold keep at h
  split at h
  · cases h
  · cases h
    exact ⟨rfl, Bool.eq_false_iff.mpr (by assumption)⟩

theorem alone_fst {events : List (Event ε)} {id : Nat} {component : Nat × σ}
    (h : alone step first ended signal events id = some component) : component.1 = id := by
  obtain ⟨state, -, hkeep⟩ := Option.bind_eq_some_iff.mp h
  rw [(keep_eq_some hkeep).1]

/-- The numbers of the components are distinct, and smaller than the next one. -/
theorem mem_alone {events : List (Event ε)} {started : Nat} {component : Nat × σ}
    (h : component ∈ (List.range started).filterMap (alone step first ended signal events)) :
    component.1 < started ∧ alone step first ended signal events component.1 = some component := by
  obtain ⟨id, hid, halone⟩ := List.mem_filterMap.mp h
  rw [alone_fst halone]
  exact ⟨List.mem_range.mp hid, halone⟩

theorem alone_nodup (events : List (Event ε)) (started : Nat) :
    (((List.range started).filterMap
      (alone step first ended signal events)).map Prod.fst).Nodup := by
  have hsublist : ∀ ids : List Nat,
      List.Sublist ((ids.filterMap (alone step first ended signal events)).map Prod.fst) ids := by
    intro ids
    induction ids with
    | nil => exact List.Sublist.slnil
    | cons id ids ih =>
        rw [List.filterMap_cons]
        cases halone : alone step first ended signal events id with
        | none => exact ih.cons id
        | some component =>
            rw [List.map_cons, alone_fst halone]
            exact ih.cons_cons id
  exact (hsublist (List.range started)).nodup List.nodup_range

/-- A component hears something more. -/
theorem alone_append {events later : List (Event ε)} {id : Nat} {more : List ε}
    (h : heard signal id (starts events) later = more) :
    alone step first ended signal (events ++ later) id =
      ((run step first (heard signal id 0 events)).bind fun state => run step state more).bind
        (keep ended id) := by
  rw [alone, heard_append, Nat.zero_add, h, run_append]

theorem alone_append_nil {events later : List (Event ε)} {id : Nat}
    (h : heard signal id (starts events) later = []) :
    alone step first ended signal (events ++ later) id =
      alone step first ended signal events id := by
  rw [alone, heard_append, Nat.zero_add, h, List.append_nil, alone]

/-- **Side by side.**  If the signal is never refused, and what has ended stays so, a
system is made of its components, in the order in which they were started. -/
theorem components_eq (hfirst : ended first = false)
    (hsignal : ∀ state, ∃ after, step state signal = some after ∧
      (ended state = true → ended after = true))
    {events : List (Event ε)} {system : System σ}
    (h : run (System.next step first ended signal) System.init events = some system) :
    system.started = starts events ∧
      system.components =
        (List.range system.started).filterMap (alone step first ended signal events) ∧
      ∀ id, system.started ≤ id → heard signal id 0 events = [] := by
  induction events using List.reverseRecOn generalizing system with
  | nil =>
      cases h
      exact ⟨rfl, rfl, fun _ _ => rfl⟩
  | append_singleton events event ih =>
      obtain ⟨before, hbefore, hlast⟩ := run_append_some h
      obtain ⟨hcount, hcomponents, hfresh⟩ := ih hbefore
      obtain ⟨after, hstep, hend⟩ := run_cons_some hlast
      cases hend
      have hheard : ∀ id, heard signal id 0 (events ++ [event]) =
          heard signal id 0 events ++ heard signal id before.started [event] := by
        intro id
        rw [heard_append, hcount, Nat.zero_add]
      cases event with
      | start =>
          cases hstep
          refine ⟨?_, ?_, ?_⟩
          · rw [hcount]
            simp [starts]
          · have hsame : alone step first ended signal (events ++ [.start]) =
                alone step first ended signal events :=
              funext fun id => alone_append_nil rfl
            have hnew : alone step first ended signal events before.started =
                some (before.started, first) := by
              rw [alone, hfresh before.started (Nat.le_refl _)]
              simp [run, keep, hfirst]
            simp only [hcomponents, List.range_succ, List.filterMap_append, List.filterMap_cons,
              List.filterMap_nil, hsame, hnew]
          · intro id hid
            rw [hheard, hfresh id (Nat.le_of_succ_le hid)]
            rfl
      | one other event =>
          obtain ⟨found, hfind, hmap⟩ := Option.bind_eq_some_iff.mp hstep
          obtain ⟨component, hcomponent, heq⟩ := Option.map_eq_some_iff.mp hmap
          have hother : found.1 = other := by simpa using List.find?_some hfind
          have hmem := List.mem_of_find?_eq_some hfind
          rw [hcomponents] at hmem
          obtain ⟨hless, halone⟩ := mem_alone hmem
          rw [hother] at hless halone
          obtain ⟨state, hstate, hkeep⟩ := Option.bind_eq_some_iff.mp halone
          have hfound : found.2 = state := by rw [(keep_eq_some hkeep).1]
          rw [← heq]
          refine ⟨by simpa [starts] using hcount, ?_, ?_⟩
          · simp only [hcomponents, List.filterMap_filterMap]
            apply List.filterMap_congr
            intro id _
            by_cases hid : id = other
            · subst hid
              have hmore : heard signal id (starts events) [.one id event] = [event] := by
                simp [heard]
              rw [alone_append hmore, halone, hstate]
              simp [hother, run, ← hfound, hcomponent]
            · rw [alone_append_nil (by simp [heard, Ne.symm hid])]
              cases hid' : alone step first ended signal events id with
              | none => rfl
              | some kept =>
                  have hkept : kept.1 ≠ other := by
                    rw [alone_fst hid']
                    exact hid
                  simp [hkept]
          · intro id hid
            have hne : other ≠ id := by
              have hid' : before.started ≤ id := hid
              omega
            rw [hheard, hfresh id hid]
            simp [heard, hne]
      | all =>
          cases hstep
          refine ⟨by simpa [starts] using hcount, ?_, ?_⟩
          · simp only [hcomponents, List.filterMap_filterMap]
            apply List.filterMap_congr
            intro id hid
            have hless : id < starts events := hcount ▸ List.mem_range.mp hid
            have hmore : heard signal id (starts events) [.all] = [signal] := by
              simp [heard, hless]
            rw [alone_append hmore, alone]
            cases hrun : run step first (heard signal id 0 events) with
            | none => rfl
            | some state =>
                obtain ⟨after, hafter, hended⟩ := hsignal state
                cases hstate : ended state with
                | true => simp [keep, hstate, run, hafter, hended hstate]
                | false => simp [keep, hstate, run, hafter]
          · intro id hid
            have hnot : ¬id < before.started := Nat.not_lt.mpr hid
            rw [hheard, hfresh id hid]
            simp [heard, hnot]

end InParallel
