import QLadder.VpnTunnelConfig

/-!
# How many status observers are registered

`addVPNStatusObserver` looks at `observerDidAdd` when it is called, and sets it
in the completion handler of the load it sends.  Until then another call sends
another load.

* `one_observer_iff` — at most one observer is registered throughout a run, and
  one exactly when `observerDidAdd` is set, if and only if `observerDidAdd` is
  still false whenever such a completion handler is given a manager;
* `observer_registered_twice` — a `startVPN` that completes before the load of
  `init` is answered registers a second observer.
-/

namespace QLadder

open PartialRun

/-- One observer once `observerDidAdd` is set, none before. -/
def OneObserver (app : App) : Prop :=
  app.observers.length ≤ 1 ∧ (app.observers.length = 1 ↔ app.observerDidAdd = true)

instance (app : App) : Decidable (OneObserver app) :=
  inferInstanceAs (Decidable (_ ∧ _))

/-- The guard of `addVPNStatusObserver`, where its load comes back with a
manager. -/
def StillToAdd (app : App) : VpnEvent → Prop
  | .callback (.loadedAll .addObserver (some (_ :: _))) _ => app.observerDidAdd = false
  | _ => True

instance (app : App) : ∀ e, Decidable (StillToAdd app e)
  | .callback (.loadedAll .addObserver (some (_ :: _))) _ =>
      inferInstanceAs (Decidable (app.observerDidAdd = false))
  | .callback (.loadedAll .addObserver (some [])) _
  | .callback (.loadedAll .addObserver none) _
  | .callback (.loadedAll .readStatus _) _ | .callback (.loadedAll .start _) _
  | .callback (.loadedAll .stop _) _ | .callback (.loadAll _) _ | .callback (.save _ _) _
  | .callback (.saved _ _) _ | .callback (.load _) _ | .callback (.loaded _ _) _
  | .addDidClick _ _ _ _ | .connect | .startVPN | .stopVPN | .answer _ _
  | .statusChange _ _ | .notify _ => isTrue trivial

theorem OneObserver.of_launched {app : App} (h : Launched app) : OneObserver app := by
  simp [OneObserver, h.observers, h.observerDidAdd]

/-- A completion handler that does nothing registers nothing. -/
theorem stillToAdd_of_fruitless {app : App} {task : Task} {starts : Bool}
    (h : task.Fruitless) : StillToAdd app (.callback task starts) := by
  rcases h.told with ⟨completion, rfl⟩ | ⟨completion, _, rfl⟩ | ⟨manager, rfl⟩ |
    ⟨manager, ok, rfl⟩
  · cases completion <;> trivial
  · cases completion <;> trivial
  · trivial
  · trivial

section Machine

variable {connectionOf : Manager → Connection} {ruleConf : String}

/-- A registration keeps the number right exactly when there was none before. -/
theorem OneObserver.registered_iff {app : App} (h : OneObserver app) (manager : Manager)
    (tasks : List Task) :
    OneObserver { app with
      observerDidAdd := true
      observers := app.observers ++ [manager]
      tasks := tasks } ↔ app.observerDidAdd = false := by
  have hlength : (app.observers ++ [manager]).length = app.observers.length + 1 :=
    List.length_append
  obtain ⟨hone, hadded⟩ := h
  constructor
  · rintro ⟨hnext, _⟩
    have hnone : app.observers.length ≠ 1 := by
      simp only [hlength] at hnext
      omega
    cases hdid : app.observerDidAdd with
    | false => rfl
    | true => exact absurd (hadded.mpr hdid) hnone
  · intro hdid
    have hnone : app.observers.length ≠ 1 := by
      intro hlen
      rw [hadded.mp hlen] at hdid
      cases hdid
    have hnext : (app.observers ++ [manager]).length = 1 := by omega
    exact ⟨Nat.le_of_eq hnext, iff_of_true hnext rfl⟩

/-- **One step.**  Only a registration can spoil the number. -/
theorem OneObserver.step_iff {app next : App} {e : VpnEvent} (h : OneObserver app)
    (hstep : App.step connectionOf ruleConf app e = some next) :
    OneObserver next ↔ StillToAdd app e := by
  cases takes_of_step hstep with
  | registered _ => exact h.registered_iff _ _
  | dropped _ hfruitless => exact iff_of_true h (stillToAdd_of_fruitless hfruitless)
  | @called e completion he _ =>
      refine iff_of_true h ?_
      rcases he with rfl | rfl | rfl <;> trivial
  | _ => exact iff_of_true h trivial

end Machine

/-- **Exactly when there is one observer.**  For every run from a launch: in
every state of it at most one observer is registered, and one exactly when
`observerDidAdd` is set, if and only if every completion handler of
`addVPNStatusObserver` that is given a manager finds `observerDidAdd` false. -/
theorem one_observer_iff (connectionOf : Manager → Connection) (ruleConf : String)
    (app : App) (hlaunched : Launched app) (events : List VpnEvent) (final : App)
    (hrun : run (App.step connectionOf ruleConf) app events = some final) :
    (∀ past, past <+: events →
      ∀ mid, run (App.step connectionOf ruleConf) app past = some mid → OneObserver mid) ↔
    Meets (App.step connectionOf ruleConf) StillToAdd app events := by
  refine forall_prefix_iff_meets ?_ (OneObserver.of_launched hlaunched) hrun
  intro app e next h hstep
  exact h.step_iff hstep

/-- Both loads of `init`, then a `startVPN` up to its end. -/
def observedStart : List VpnEvent :=
  let old := confOf "a" 1 "x"
  initLoads old ++ connectStart old old

/-- With the loads of `init` answered first there is one observer. -/
theorem one_observer_iff_observedStart :
    ∃ final, run (App.step (fun _ => 0) "") storedLaunch observedStart = some final ∧
      OneObserver final := by
  refine ⟨_, rfl, ?_⟩
  have hall := (one_observer_iff (fun _ => 0) "" storedLaunch (launched_launch _ _ _ _ _ _)
    observedStart _ rfl).mpr (by decide)
  exact hall observedStart List.prefix_rfl _ rfl

/-- A `startVPN` that completes before the load of `init` is answered. -/
def overtakenLoad : List VpnEvent :=
  let old := confOf "a" 1 "x"
  let stored := some [{ manager := 0, providerConfiguration := old }]
  connectStart old old ++
  [.answer (.loadAll .addObserver) true, .answer (.loadAll .addObserver) true,
   .callback (.loadedAll .addObserver stored) true,
   .callback (.loadedAll .addObserver stored) true]

/-- **Registered twice.**  Both calls find `observerDidAdd` false, both loads come
back with the manager, and both register an observer of its connection. -/
theorem observer_registered_twice :
    ∃ final, run (App.step (fun _ => 0) "") storedLaunch overtakenLoad = some final ∧
      final.observers = [0, 0] ∧ ¬ OneObserver final := by
  refine ⟨_, rfl, rfl, ?_⟩
  decide

end QLadder
