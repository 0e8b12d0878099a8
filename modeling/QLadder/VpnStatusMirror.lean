import QLadder.VpnSingleProfile

/-!
# The mirror of the connection's status

`vpnStatus` is written by the one read in `init` and by the observer blocks,
never on registration.  A status change is therefore lost for good if it falls
into the time when neither the read nor an observer is there to see it: on a
first installation all of the first `startVPN`, otherwise the time between the
two loads of `init`.

* `mirror_of_quiescent` — if no change falls into that time (unless it brings
  the status back to what is shown), and the read of `init` comes back with a
  manager (unless what is shown is right), then `vpnStatus` is the shown form of
  the status whenever nothing is pending;
* `first_start_stays_off` — the first `startVPN` of an installation ends
  connected and shown as off.

All loads return managers of one connection here.
-/

namespace QLadder

open Swift PartialRun InFlight

/-- Nothing is pending: every preference request has been answered and its
completion handler has run, and so has every observer block. -/
def Quiescent (app : App) : Prop :=
  app.tasks = [] ∧ app.notifications = []

instance (app : App) : Decidable (Quiescent app) :=
  inferInstanceAs (Decidable (_ ∧ _))

/-- The read of `init` is on its way: its load has not been answered, or was
answered with a manager. -/
def Task.willReadStatus : Task → Bool
  | .loadAll .readStatus => true
  | .loadedAll .readStatus (some (_ :: _)) => true
  | _ => false

section Mirror

variable (connection : Connection)

/-- What is shown is what the status is. -/
def UpToDate (app : App) : Prop :=
  app.vpnStatus = (app.status connection).shown

instance (app : App) : Decidable (UpToDate connection app) :=
  inferInstanceAs (Decidable (_ = _))

/-- Some block that reads the status is still to run. -/
def WillRead (app : App) : Prop :=
  app.notifications ≠ [] ∨ ∃ task ∈ app.tasks, task.willReadStatus = true

instance (app : App) : Decidable (WillRead app) :=
  inferInstanceAs (Decidable (_ ∨ _))

/-- A change of the status is seen: an observer is registered or the read of
`init` is on its way.  Otherwise it only brings the status to what is shown. -/
def ChangeSeen (app : App) : VpnEvent → Prop
  | .statusChange changed status => changed = connection →
      app.observers ≠ [] ∨ (∃ task ∈ app.tasks, task.willReadStatus = true) ∨
        app.vpnStatus = status.shown
  | _ => True

instance (app : App) : ∀ e, Decidable (ChangeSeen connection app e)
  | .statusChange _ _ => inferInstanceAs (Decidable (_ → _))
  | .addDidClick _ _ _ _ | .connect | .startVPN | .stopVPN | .answer _ _
  | .callback _ _ | .notify _ => isTrue trivial

/-- The load of `init`'s read is answered with a manager.  Otherwise what is
shown is right, or an observer block is still to run. -/
def ReadAnswered (app : App) : VpnEvent → Prop
  | .answer task ok => task = .loadAll .readStatus →
      (ok = true ∧ app.preferences ≠ []) ∨ UpToDate connection app ∨
        app.notifications ≠ []
  | _ => True

instance (app : App) : ∀ e, Decidable (ReadAnswered connection app e)
  | .answer _ _ => inferInstanceAs (Decidable (_ → _))
  | .addDidClick _ _ _ _ | .connect | .startVPN | .stopVPN | .callback _ _
  | .statusChange _ _ | .notify _ => isTrue trivial

/-- The condition on an event. -/
def KeepsMirror (app : App) (e : VpnEvent) : Prop :=
  ChangeSeen connection app e ∧ ReadAnswered connection app e

instance (app : App) (e : VpnEvent) : Decidable (KeepsMirror connection app e) :=
  inferInstanceAs (Decidable (_ ∧ _))

/-- The mirror is right, or something will still put it right. -/
def Mirrored (app : App) : Prop :=
  UpToDate connection app ∨ WillRead app

variable {connection}

theorem Mirrored.of_launched {app : App} (h : Launched app) : Mirrored connection app :=
  Or.inr (Or.inr ⟨.loadAll .readStatus, by simp [h.tasks], rfl⟩)

/-- A step that touches neither the status nor the mirror, and does not use up
the read of `init`. -/
theorem Mirrored.keep {app next : App} (h : Mirrored connection app)
    (hshown : next.vpnStatus = app.vpnStatus) (hstatus : next.status = app.status)
    (hnotifications : next.notifications = app.notifications)
    (htasks : ∀ task ∈ app.tasks, task.willReadStatus = true → task ∈ next.tasks) :
    Mirrored connection next := by
  rcases h with h | h | ⟨task, hmem, hread⟩
  · exact Or.inl (by rw [UpToDate, hshown, hstatus]; exact h)
  · exact Or.inr (Or.inl (by rw [hnotifications]; exact h))
  · exact Or.inr (Or.inr ⟨task, htasks task hmem hread, hread⟩)

/-- Advancing a task that is not the read of `init` does not use that up. -/
theorem willRead_advance {xs : List Task} {task : Task} (ys : List Task)
    (hother : task.willReadStatus = false) :
    ∀ t ∈ xs, t.willReadStatus = true → t ∈ xs.erase task ++ ys := by
  intro t hmem hread
  refine mem_advance_of_ne ys ?_ hmem
  rintro rfl
  rw [hother] at hread
  cases hread

/-- Nor does finishing it. -/
theorem willRead_erase {xs : List Task} {task : Task} (hother : task.willReadStatus = false) :
    ∀ t ∈ xs, t.willReadStatus = true → t ∈ xs.erase task := by
  intro t hmem hread
  have hkept := willRead_advance [] hother t hmem hread
  rwa [List.append_nil] at hkept

/-- A load answered: for the read of `init` the condition decides. -/
theorem Mirrored.answeredLoadAll {app : App} {completion : Completion} {ok : Bool}
    (h : Mirrored connection app) (hanswered : ReadAnswered connection app
      (.answer (.loadAll completion) ok)) :
    Mirrored connection { app with tasks := app.tasks.erase (.loadAll completion) ++
      [.loadedAll completion (if ok then some app.preferences else none)] } := by
  by_cases hread : completion = .readStatus
  · subst hread
    rcases hanswered rfl with ⟨hok, hpreferences⟩ | hup | hnotifications
    · obtain ⟨profile, rest, hcons⟩ := List.exists_cons_of_ne_nil hpreferences
      refine Or.inr (Or.inr ⟨_, List.mem_append_right _ List.mem_cons_self, ?_⟩)
      simp [hok, hcons, Task.willReadStatus]
    · exact Or.inl hup
    · exact Or.inr (Or.inl hnotifications)
  · refine h.keep rfl rfl rfl (willRead_advance _ ?_)
    cases completion with
    | readStatus => exact absurd rfl hread
    | addObserver => rfl
    | start => rfl
    | stop => rfl

/-- A fruitless completion handler is not the read of `init`. -/
theorem willReadStatus_of_fruitless {task : Task} (h : task.Fruitless) :
    task.willReadStatus = false := by
  rcases h.told with ⟨completion, rfl⟩ | ⟨completion, _, rfl⟩ | ⟨manager, rfl⟩ |
    ⟨manager, ok, rfl⟩
  · cases completion <;> rfl
  · cases completion <;> rfl
  · rfl
  · rfl

/-- Every step that meets the condition keeps the mirror right or readable. -/
theorem Mirrored.step {ruleConf : String} {app next : App} {e : VpnEvent}
    (h : Mirrored connection app) (hok : KeepsMirror connection app e)
    (hstep : App.step (fun _ => connection) ruleConf app e = some next) :
    Mirrored connection next := by
  have hsend : ∀ {tasks : List Task}, ∀ t ∈ app.tasks, t.willReadStatus = true →
      t ∈ app.tasks ++ tasks :=
    fun t hmem _ => List.mem_append_left _ hmem
  cases takes_of_step hstep with
  | rejected _ => exact h
  | added _ _ => exact h.keep rfl rfl rfl hsend
  | called _ _ => exact h.keep rfl rfl rfl hsend
  | answeredLoadAll _ => exact h.answeredLoadAll hok.2
  | saveFailed _ => exact h.keep rfl rfl rfl (willRead_advance _ rfl)
  | saved _ => exact h.keep rfl rfl rfl (willRead_advance _ rfl)
  | answeredLoad _ => exact h.keep rfl rfl rfl (willRead_advance _ rfl)
  | dropped _ hfruitless =>
      have hother := willReadStatus_of_fruitless hfruitless
      exact h.keep rfl rfl rfl (willRead_erase hother)
  | created _ => exact h.keep rfl rfl rfl (willRead_advance _ rfl)
  | reused _ => exact h.keep rfl rfl rfl (willRead_advance _ rfl)
  | statusRead _ => exact Or.inl rfl
  | registered _ => exact h.keep rfl rfl rfl (willRead_erase rfl)
  | stopped _ => exact h.keep rfl rfl rfl (willRead_erase rfl)
  | reload _ => exact h.keep rfl rfl rfl (willRead_advance _ rfl)
  | started _ _ => exact h.keep rfl rfl rfl (willRead_advance _ rfl)
  | running _ => exact h.keep rfl rfl rfl (willRead_advance _ rfl)
  | @statusChanged changed status hchange =>
      by_cases hhere : changed = connection
      · subst hhere
        rcases hok.1 rfl with hobservers | hread | hshown
        · obtain ⟨manager, hmanager⟩ := List.exists_mem_of_ne_nil _ hobservers
          have hposted : manager ∈ (App.statusChange (fun _ => changed) app changed
              status).notifications :=
            List.mem_append_right _ (List.mem_filter.mpr ⟨hmanager, by simp⟩)
          exact Or.inr (Or.inl (List.ne_nil_of_mem hposted))
        · exact Or.inr (Or.inr hread)
        · exact Or.inl (by simpa [UpToDate, App.statusChange] using hshown)
      · rcases h with h | h | h
        · refine Or.inl ?_
          simp only [UpToDate, App.statusChange,
            Function.update_of_ne (Ne.symm hhere)]
          exact h
        · exact Or.inr (Or.inl (by simp [App.statusChange, h]))
        · exact Or.inr (Or.inr h)
  | notified _ => exact Or.inl rfl

/-- So does every run. -/
theorem Mirrored.along {ruleConf : String} {app final : App} {events : List VpnEvent}
    (h : Mirrored connection app)
    (hok : Meets (App.step (fun _ => connection) ruleConf) (KeepsMirror connection)
      app events)
    (hrun : run (App.step (fun _ => connection) ruleConf) app events = some final) :
    Mirrored connection final := by
  refine run_invariant ?_ h hok hrun
  intro app e next h hok hstep
  exact h.step hok hstep

/-- **The mirror at rest.**  In every run from a launch whose events meet the
condition, `vpnStatus` is the shown form of the connection's status in every
quiescent state. -/
theorem mirror_of_quiescent (connection : Connection) (ruleConf : String) (app : App)
    (hlaunched : Launched app) (events : List VpnEvent) (final : App)
    (hok : Meets (App.step (fun _ => connection) ruleConf) (KeepsMirror connection)
      app events)
    (hrun : run (App.step (fun _ => connection) ruleConf) app events = some final)
    (hquiescent : Quiescent final) :
    final.vpnStatus = (final.status connection).shown := by
  have hfinal : Mirrored connection final := (Mirrored.of_launched hlaunched).along hok hrun
  rcases hfinal with h | h | ⟨task, hmem, _⟩
  · exact h
  · exact absurd hquiescent.2 h
  · simp [hquiescent.1] at hmem

end Mirror

/-- A later launch: one profile is stored and its VPN is on. -/
def secondLaunch : App :=
  App.launch (some []) placeholderConfig
    [{ manager := 0, providerConfiguration := placeholderConf }] 1
    (fun _ => .connected) (fun _ => none)

/-- Both loads of `init` come back, then the system takes the VPN down. -/
def secondRun : List VpnEvent :=
  let stored := some [{ manager := 0, providerConfiguration := placeholderConf }]
  [.answer (.loadAll .readStatus) true, .callback (.loadedAll .readStatus stored) true,
   .answer (.loadAll .addObserver) true, .callback (.loadedAll .addObserver stored) true,
   .statusChange 0 .disconnecting, .notify 0]

def secondFinal : App :=
  (run (App.step (fun _ => 0) "") secondLaunch secondRun).getD secondLaunch

/-- A registered observer follows the status. -/
theorem mirror_of_quiescent_secondRun :
    secondFinal.vpnStatus = (secondFinal.status 0).shown :=
  mirror_of_quiescent 0 "" secondLaunch (launched_launch _ _ _ _ _ _) secondRun
    secondFinal (by decide) rfl (by decide)

/-- A first installation: `init` finds no profile, and the first `startVPN` is
connected before its own load has registered the observer. -/
def firstInstallation : List VpnEvent :=
  let stored := some [{ manager := 0, providerConfiguration := placeholderConf }]
  [.answer (.loadAll .readStatus) true, .callback (.loadedAll .readStatus (some [])) true,
   .answer (.loadAll .addObserver) true, .callback (.loadedAll .addObserver (some [])) true] ++
  firstStart ++
  [.statusChange 0 .connecting, .statusChange 0 .connected,
   .answer (.loadAll .addObserver) true, .callback (.loadedAll .addObserver stored) true]

/-- **A lost change.**  The first `startVPN` of an installation ends with nothing
pending, a stored profile and an observer, connected and shown as off. -/
theorem first_start_stays_off :
    ∃ final, run (App.step (fun _ => 0) "") firstLaunch firstInstallation = some final ∧
      Quiescent final ∧ managersOf final.preferences = [0] ∧ final.observers = [0] ∧
      final.status 0 = .connected ∧ final.vpnStatus = .off := by
  refine ⟨_, rfl, ?_⟩
  decide

end QLadder
