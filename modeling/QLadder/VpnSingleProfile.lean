import QLadder.InFlight
import QLadder.VpnSteps

/-!
# How many VPN profiles are stored

`loadAndCreateProviderManager` looks for a stored profile and creates a
manager if there is none; the profile is stored by a later save.  Between the
two, another `startVPN` may look as well.

* `single_profile` — as long as no load of a `startVPN` is answered with an
  empty list while another `startVPN` has been answered so and has not stored
  its profile yet, at most one profile is stored, and the manager whose
  connection is started is the one every later load puts first;
* `overlapping_starts_store_two` — two overlapping calls on a fresh
  installation store two profiles.
-/

namespace QLadder

open Swift PartialRun InFlight

/-- The managers of the stored profiles. -/
def managersOf (preferences : List Profile) : List Manager :=
  preferences.map Profile.manager

/-- The manager that `loadProviderManager` passes on. -/
def firstManager (preferences : List Profile) : Option Manager :=
  (managersOf preferences).head?

/-- The machine in the state `VpnManager.init` leaves behind: both loads have
been sent, nothing else has happened. -/
structure Launched (app : App) : Prop where
  tasks : app.tasks = [.loadAll .readStatus, .loadAll .addObserver]
  vpnStatus : app.vpnStatus = .off
  observerDidAdd : app.observerDidAdd = false
  observers : app.observers = []
  notifications : app.notifications = []

theorem launched_launch (defaults : UserDefaults) (config : ConfigManager)
    (preferences : List Profile) (nextManager : Manager)
    (status : Connection → NEVPNStatus) (tunnel : Connection → Option (Option Conf)) :
    Launched (App.launch defaults config preferences nextManager status tunnel) :=
  ⟨rfl, rfl, rfl, rfl, rfl⟩

/-- A save replaces the profile of a manager that has one. -/
theorem managersOf_storeProfile (preferences : List Profile) (manager : Manager)
    (conf : Option Conf) :
    managersOf (storeProfile preferences manager conf) =
      if manager ∈ managersOf preferences then managersOf preferences
      else managersOf preferences ++ [manager] := by
  have hany : (preferences.any fun profile => profile.manager == manager) = true ↔
      manager ∈ managersOf preferences := by
    simp [managersOf]
  by_cases h : manager ∈ managersOf preferences
  · rw [if_pos h]
    simp only [storeProfile, if_pos (hany.mpr h), managersOf, List.map_map]
    apply List.map_congr_left
    intro profile _
    simp only [Function.comp_apply]
    split <;> rfl
  · rw [if_neg h]
    simp only [storeProfile, if_neg (fun hp => h (hany.mp hp))]
    simp [managersOf]

/-- A save leaves the stored profiles in their order. -/
theorem managersOf_prefix_storeProfile (preferences : List Profile) (manager : Manager)
    (conf : Option Conf) :
    managersOf preferences <+: managersOf (storeProfile preferences manager conf) := by
  rw [managersOf_storeProfile]
  split
  · exact List.prefix_refl _
  · exact List.prefix_append _ _

/-- A `startVPN` that has found no profile and not stored one yet. -/
def Task.creating (known : List Manager) : Task → Bool
  | .loadedAll .start managers => decide (managers = some [])
  | .save manager _ => decide (manager ∉ known)
  | _ => false

/-- A manager that more profiles are known of is no longer being created. -/
theorem Task.creating_mono {known known' : List Manager} (hsub : known ⊆ known')
    (task : Task) : task.creating known' → task.creating known := by
  cases task with
  | save manager conf =>
      intro h
      simp only [Task.creating, decide_eq_true_eq] at h ⊢
      exact fun hmem => h (hsub hmem)
  | loadedAll completion managers => cases completion <;> exact id
  | _ => exact id

/-- The manager that a task in flight relies on to be stored. -/
def Task.storedManager : Task → Option Manager
  | .loadedAll _ (some (profile :: _)) => some profile.manager
  | .saved manager true => some manager
  | .load manager => some manager
  | .loaded manager _ => some manager
  | _ => none

/-- The condition on an event: a `startVPN` is told that no profile is stored
only while no other one is creating its profile. -/
def CreatesAlone (app : App) (e : VpnEvent) : Prop :=
  e = .answer (.loadAll .start) true → app.preferences = [] →
    ∀ task ∈ app.tasks, task.creating [] = false

instance (app : App) (e : VpnEvent) : Decidable (CreatesAlone app e) :=
  inferInstanceAs (Decidable (_ → _))

/-- Stored profiles and profiles being created are at most one together, and
every manager handed out by the system is stored. -/
structure SingleProfile (app : App) : Prop where
  one : app.tasks.countP (Task.creating (managersOf app.preferences)) +
    (managersOf app.preferences).length ≤ 1
  stored : ∀ task ∈ app.tasks, ∀ manager, task.storedManager = some manager →
    manager ∈ managersOf app.preferences

theorem SingleProfile.of_launched {app : App} (h : Launched app)
    (hone : app.preferences.length ≤ 1) : SingleProfile app := by
  refine ⟨?_, ?_⟩
  · simpa [h.tasks, Task.creating, managersOf] using hone
  · simp [h.tasks, Task.storedManager]

/-- A step that keeps the stored managers and turns a task into ones that
create no more than it did. -/
theorem SingleProfile.advance {app next : App} {task : Task} {tasks : List Task}
    (h : SingleProfile app) (hmem : task ∈ app.tasks)
    (hmanagers : managersOf next.preferences = managersOf app.preferences)
    (htasks : next.tasks = app.tasks.erase task ++ tasks)
    (hcreating : tasks.countP (Task.creating (managersOf app.preferences)) ≤
      if task.creating (managersOf app.preferences) then 1 else 0)
    (hstored : ∀ new ∈ tasks, ∀ manager, new.storedManager = some manager →
      manager ∈ managersOf app.preferences) :
    SingleProfile next := by
  refine ⟨?_, ?_⟩
  · have hone := h.one
    have hcount := countP_eq_erase (Task.creating (managersOf app.preferences)) hmem
    rw [hmanagers, htasks, List.countP_append]
    omega
  · rw [hmanagers, htasks]
    exact forall_advance h.stored hstored

/-- A step that turns a task into ones that create nothing. -/
theorem SingleProfile.follow {app next : App} {task : Task}
    (h : SingleProfile app) (tasks : List Task) (hmem : task ∈ app.tasks)
    (hpreferences : next.preferences = app.preferences)
    (htasks : next.tasks = app.tasks.erase task ++ tasks)
    (hcreating : ∀ new ∈ tasks, new.creating (managersOf app.preferences) = false)
    (hstored : ∀ new ∈ tasks, ∀ manager, new.storedManager = some manager →
      manager ∈ managersOf app.preferences) :
    SingleProfile next := by
  refine h.advance hmem (by rw [hpreferences]) htasks ?_ hstored
  have hzero : tasks.countP (Task.creating (managersOf app.preferences)) = 0 := by
    rw [List.countP_eq_zero]
    intro new hnew
    simp [hcreating new hnew]
  omega

/-- A step that sends requests which create nothing. -/
theorem SingleProfile.send {app next : App} {tasks : List Task}
    (h : SingleProfile app) (hpreferences : next.preferences = app.preferences)
    (htasks : next.tasks = app.tasks ++ tasks)
    (hsent : ∀ new ∈ tasks, ∃ completion, new = .loadAll completion) :
    SingleProfile next := by
  refine ⟨?_, ?_⟩
  · have hone := h.one
    have hzero : tasks.countP (Task.creating (managersOf app.preferences)) = 0 := by
      rw [List.countP_eq_zero]
      intro new hnew
      obtain ⟨completion, rfl⟩ := hsent new hnew
      simp [Task.creating]
    rw [hpreferences, htasks, List.countP_append]
    omega
  · rw [hpreferences, htasks]
    intro task htask manager hmanager
    rcases List.mem_append.mp htask with htask | htask
    · exact h.stored task htask manager hmanager
    · obtain ⟨completion, rfl⟩ := hsent task htask
      cases hmanager

/-- The first manager of an answered load is stored. -/
theorem storedManager_answered {preferences : List Profile} {completion : Completion}
    {ok : Bool} {manager : Manager}
    (h : (Task.loadedAll completion
      (if ok then some preferences else none)).storedManager = some manager) :
    manager ∈ managersOf preferences := by
  cases ok with
  | false => simp [Task.storedManager] at h
  | true =>
      cases preferences with
      | nil => simp [Task.storedManager] at h
      | cons profile rest =>
          simp only [if_true, Task.storedManager, Option.some.injEq] at h
          simp [managersOf, h]

/-- Only the empty answer to a `startVPN` makes it create a profile. -/
theorem creating_answered {preferences : List Profile} {completion : Completion}
    {ok : Bool} {known : List Manager}
    (h : (Task.loadedAll completion
      (if ok then some preferences else none)).creating known = true) :
    completion = .start ∧ ok = true ∧ preferences = [] := by
  cases completion with
  | start =>
      cases ok with
      | false => simp [Task.creating] at h
      | true => exact ⟨rfl, rfl, by simpa [Task.creating] using h⟩
  | readStatus => cases h
  | addObserver => cases h
  | stop => cases h

/-- A load answered with the stored profiles. -/
theorem SingleProfile.answeredLoadAll {app : App} {completion : Completion} {ok : Bool}
    (h : SingleProfile app) (hmem : Task.loadAll completion ∈ app.tasks)
    (halone : CreatesAlone app (.answer (.loadAll completion) ok)) :
    SingleProfile { app with tasks := app.tasks.erase (.loadAll completion) ++
      [.loadedAll completion (if ok then some app.preferences else none)] } := by
  have hstored : ∀ new ∈ [Task.loadedAll completion
      (if ok then some app.preferences else none)], ∀ manager,
      new.storedManager = some manager → manager ∈ managersOf app.preferences := by
    intro new hnew manager hmanager
    cases List.mem_singleton.mp hnew
    exact storedManager_answered hmanager
  cases hnew : (Task.loadedAll completion
      (if ok then some app.preferences else none)).creating
        (managersOf app.preferences) with
  | false => exact h.advance hmem rfl rfl (by simp [hnew]) hstored
  | true =>
      -- by the condition no other task is creating, and none is stored
      obtain ⟨rfl, rfl, hempty⟩ := creating_answered hnew
      have hnone : app.tasks.countP (Task.creating []) = 0 := by
        rw [List.countP_eq_zero]
        intro task htask
        simp [halone rfl hempty task htask]
      have hle := countP_erase_le (Task.creating []) app.tasks (.loadAll .start)
      have hzero : (app.tasks.erase (.loadAll .start)).countP (Task.creating []) = 0 := by
        omega
      refine ⟨?_, forall_advance h.stored hstored⟩
      simp [hempty, managersOf, hzero, Task.creating]

/-- A successful save. -/
theorem SingleProfile.saved {app : App} {manager : Manager} {conf : Option Conf}
    (h : SingleProfile app) (hmem : Task.save manager conf ∈ app.tasks) :
    SingleProfile { app with
      preferences := storeProfile app.preferences manager conf
      tasks := app.tasks.erase (.save manager conf) ++ [.saved manager true] } := by
  have hmanagers := managersOf_storeProfile app.preferences manager conf
  by_cases hknown : manager ∈ managersOf app.preferences
  · rw [if_pos hknown] at hmanagers
    refine h.advance hmem hmanagers rfl (by simp [Task.creating]) ?_
    intro new hnew other hother
    cases List.mem_singleton.mp hnew
    cases hother
    exact hknown
  · -- the save was the only creating task, and nothing was stored
    rw [if_neg hknown] at hmanagers
    have hone := h.one
    have hcount := countP_eq_erase (Task.creating (managersOf app.preferences)) hmem
    rw [if_pos (by simpa [Task.creating] using hknown)] at hcount
    have hempty : managersOf app.preferences = [] := List.length_eq_zero_iff.mp (by omega)
    rw [hempty, List.nil_append] at hmanagers
    have hmono : (app.tasks.erase (.save manager conf)).countP (Task.creating [manager]) ≤
        (app.tasks.erase (.save manager conf)).countP
          (Task.creating (managersOf app.preferences)) :=
      List.countP_mono_left fun task _ => Task.creating_mono (by simp [hempty]) task
    refine ⟨?_, ?_⟩
    · simp only [hmanagers, List.countP_append, List.countP_singleton, Task.creating,
        List.length_singleton]
      simp only [Bool.false_eq_true, if_false]
      omega
    · intro task htask other hother
      rcases mem_advance htask with htask | htask
      · have hstored := h.stored task htask other hother
        simp [hempty] at hstored
      · cases List.mem_singleton.mp htask
        cases hother
        simp [hmanagers]

theorem observerRequest_sent (app : App) :
    ∀ new ∈ app.observerRequest, ∃ completion, new = .loadAll completion := by
  intro new hnew
  unfold App.observerRequest at hnew
  split at hnew
  · cases hnew
  · exact ⟨_, List.mem_singleton.mp hnew⟩

theorem observerRequest_creating (app : App) (known : List Manager) :
    ∀ new ∈ app.observerRequest, new.creating known = false := by
  intro new hnew
  obtain ⟨completion, rfl⟩ := observerRequest_sent app new hnew
  rfl

theorem observerRequest_storedManager (app : App) (known : List Manager) :
    ∀ new ∈ app.observerRequest, ∀ manager, new.storedManager = some manager →
      manager ∈ known := by
  intro new hnew manager hmanager
  obtain ⟨completion, rfl⟩ := observerRequest_sent app new hnew
  cases hmanager

theorem stopRequest_sent (app : App) :
    ∀ new ∈ app.stopRequest, ∃ completion, new = .loadAll completion := by
  intro new hnew
  unfold App.stopRequest at hnew
  split at hnew
  · exact ⟨_, List.mem_singleton.mp hnew⟩
  · cases hnew

section Machine

variable {connectionOf : Manager → Connection} {ruleConf : String}

/-- Every step that meets the condition keeps the invariant. -/
theorem SingleProfile.step {app next : App} {e : VpnEvent} (h : SingleProfile app)
    (halone : CreatesAlone app e)
    (hstep : App.step connectionOf ruleConf app e = some next) :
    SingleProfile next := by
  cases takes_of_step hstep with
  | rejected _ => exact h
  | added _ _ => exact h.send rfl rfl (stopRequest_sent app)
  | called _ _ => exact h.send rfl rfl (by simp)
  | answeredLoadAll hmem => exact h.answeredLoadAll hmem halone
  | saveFailed hmem =>
      exact h.follow _ hmem rfl rfl (by simp [Task.creating]) (by simp [Task.storedManager])
  | saved hmem => exact h.saved hmem
  | answeredLoad hmem =>
      have hstored := h.stored _ hmem _ rfl
      exact h.follow _ hmem rfl rfl (by simp [Task.creating])
        (by simpa [Task.storedManager] using hstored)
  | dropped hmem _ => exact h.follow [] hmem rfl (by simp) (by simp) (by simp)
  | created hmem =>
      refine h.advance hmem rfl rfl ?_ (by simp [Task.storedManager])
      rw [if_pos (by simp [Task.creating])]
      exact List.countP_le_length
  | reused hmem =>
      have hstored := h.stored _ hmem _ rfl
      exact h.follow _ hmem rfl rfl (by simpa [Task.creating] using hstored)
        (by simp [Task.storedManager])
  | statusRead hmem => exact h.follow [] hmem rfl (by simp) (by simp) (by simp)
  | registered hmem => exact h.follow [] hmem rfl (by simp) (by simp) (by simp)
  | stopped hmem => exact h.follow [] hmem rfl (by simp) (by simp) (by simp)
  | reload hmem =>
      have hstored := h.stored _ hmem _ rfl
      exact h.follow _ hmem rfl rfl (by simp [Task.creating])
        (by simpa [Task.storedManager] using hstored)
  | started hmem _ =>
      exact h.follow _ hmem rfl rfl (observerRequest_creating app _)
        (observerRequest_storedManager app _)
  | running hmem =>
      exact h.follow _ hmem rfl rfl (observerRequest_creating app _)
        (observerRequest_storedManager app _)
  | statusChanged _ => exact ⟨h.one, h.stored⟩
  | notified _ => exact ⟨h.one, h.stored⟩

/-- So does every run. -/
theorem SingleProfile.along {app final : App} {events : List VpnEvent}
    (h : SingleProfile app)
    (halone : Meets (App.step connectionOf ruleConf) CreatesAlone app events)
    (hrun : run (App.step connectionOf ruleConf) app events = some final) :
    SingleProfile final := by
  refine run_invariant ?_ h halone hrun
  intro app e next h halone hstep
  exact h.step halone hstep

/-- A stored profile stays where it is in the order of storing. -/
theorem managersOf_prefix_step {app next : App} {e : VpnEvent}
    (hstep : App.step connectionOf ruleConf app e = some next) :
    managersOf app.preferences <+: managersOf next.preferences := by
  cases takes_of_step hstep with
  | saved _ => exact managersOf_prefix_storeProfile _ _ _
  | _ => exact List.prefix_refl _

theorem managersOf_prefix_run {app next : App} {es : List VpnEvent}
    (hrun : run (App.step connectionOf ruleConf) app es = some next) :
    managersOf app.preferences <+: managersOf next.preferences :=
  run_preserves (fun s => managersOf app.preferences <+: managersOf s.preferences)
    (fun _ _ _ hpre hstep => hpre.trans (managersOf_prefix_step hstep))
    (List.prefix_refl _) hrun

/-- The manager whose connection the event starts. -/
def startedManager (connectionOf : Manager → Connection) (app : App) :
    VpnEvent → Option Manager
  | .callback (.loaded manager true) true =>
      let status := app.status (connectionOf manager)
      if status = .disconnected ∨ status = .invalid then some manager else none
  | _ => none

/-- Only a manager that has been loaded back is started. -/
theorem mem_tasks_of_startedManager {app next : App} {e : VpnEvent} {manager : Manager}
    (hstarted : startedManager connectionOf app e = some manager)
    (hstep : App.step connectionOf ruleConf app e = some next) :
    Task.loaded manager true ∈ app.tasks := by
  unfold startedManager at hstarted
  split at hstarted
  · rename_i loaded
    simp only [App.step] at hstep
    split at hstep
    · obtain ⟨_, heq⟩ := Option.ite_none_right_eq_some.mp hstarted
      cases heq
      assumption
    · cases hstep
  · cases hstarted

/-- The member of a list that has at most one. -/
theorem eq_singleton_of_mem {managers : List Manager} {manager : Manager}
    (hlength : managers.length ≤ 1) (hmem : manager ∈ managers) : managers = [manager] := by
  cases managers with
  | nil => cases hmem
  | cons first rest =>
      have hrest : rest = [] := by
        rw [List.length_cons] at hlength
        exact List.length_eq_zero_iff.mp (by omega)
      subst hrest
      rw [List.mem_singleton.mp hmem]

/-- **One profile.**  In every run from a launch with at most one stored profile
in which profiles are created one at a time, at most one profile is stored; and
once a call has started the connection of a manager, that manager is the first
one stored from then on, and every load in flight that names a manager names
it. -/
theorem single_profile (connectionOf : Manager → Connection) (ruleConf : String)
    (app : App) (hlaunched : Launched app)
    (hone : app.preferences.length ≤ 1) (events : List VpnEvent) (final : App)
    (halone : Meets (App.step connectionOf ruleConf) CreatesAlone app events)
    (hrun : run (App.step connectionOf ruleConf) app events = some final) :
    final.preferences.length ≤ 1 ∧
      ∀ past e later, events = past ++ e :: later →
        ∀ mid, run (App.step connectionOf ruleConf) app past = some mid →
          ∀ manager, startedManager connectionOf mid e = some manager →
            firstManager final.preferences = some manager ∧
              ∀ completion managers,
                Task.loadedAll completion (some managers) ∈ final.tasks →
                  ∀ other, firstManager managers = some other → other = manager := by
  have hstart : SingleProfile app := SingleProfile.of_launched hlaunched hone
  have hfinal : SingleProfile final := hstart.along halone hrun
  have hlength : (managersOf final.preferences).length ≤ 1 := by
    have := hfinal.one
    omega
  refine ⟨by simpa [managersOf] using hlength, ?_⟩
  rintro past e later rfl mid hmid manager hstarted
  obtain ⟨mid', hmid', hrest⟩ := run_append_some hrun
  cases hmid.symm.trans hmid'
  obtain ⟨next, hnext, _⟩ := run_cons_some hrest
  have hmidInv : SingleProfile mid := hstart.along (halone.split hmid).1 hmid
  -- the manager was stored when it was started, so it still is
  have hstored : manager ∈ managersOf final.preferences :=
    (managersOf_prefix_run hrest).subset
      (hmidInv.stored _ (mem_tasks_of_startedManager hstarted hnext) manager rfl)
  have honly : managersOf final.preferences = [manager] :=
    eq_singleton_of_mem hlength hstored
  refine ⟨by simp [firstManager, honly], ?_⟩
  intro completion managers hmem other hother
  cases managers with
  | nil => simp [firstManager, managersOf] at hother
  | cons profile rest =>
      have hprofile := hfinal.stored _ hmem _ rfl
      rw [honly, List.mem_singleton] at hprofile
      simpa [firstManager, managersOf, ← hprofile] using hother.symm

end Machine

/-- The configuration after the first launch of a fresh installation. -/
def placeholderConfig : ConfigManager :=
  { currentProxy := some (Proxy.init "" "0.0.0.0" 0 "0"), proxys := [] }

/-- A first launch: nothing is stored and the connection is invalid. -/
def firstLaunch : App :=
  App.launch (some []) placeholderConfig [] 0 (fun _ => .invalid) (fun _ => none)

/-- The provider configuration of the placeholder. -/
def placeholderConf : Option Conf :=
  VpnManager.setConnectionConfig placeholderConfig.currentProxy "" none

/-- A first `startVPN` all the way to its start. -/
def firstStart : List VpnEvent :=
  [.startVPN, .answer (.loadAll .start) true,
   .callback (.loadedAll .start (some [])) true,
   .answer (.save 0 placeholderConf) true, .callback (.saved 0 true) true,
   .answer (.load 0) true, .callback (.loaded 0 true) true]

/-- The state after that. -/
def firstStarted : App :=
  (run (App.step id "") firstLaunch firstStart).getD firstLaunch

/-- A first start stores one profile and starts the manager stored. -/
theorem single_profile_firstStart :
    firstStarted.preferences.length ≤ 1 ∧
      firstManager firstStarted.preferences = some 0 := by
  have h := single_profile id "" firstLaunch (launched_launch _ _ _ _ _ _)
    (by decide) firstStart firstStarted (by decide) rfl
  exact ⟨h.1, (h.2 (firstStart.take 6) (.callback (.loaded 0 true) true) [] rfl _ rfl 0
    (by decide)).1⟩

/-- Two calls that both look before either has stored its profile. -/
def overlappingStarts : List VpnEvent :=
  [.startVPN, .startVPN, .answer (.loadAll .start) true,
   .answer (.loadAll .start) true, .callback (.loadedAll .start (some [])) true,
   .callback (.loadedAll .start (some [])) true,
   .answer (.save 0 placeholderConf) true, .answer (.save 1 placeholderConf) true]

/-- **Check then act.**  Two overlapping calls on a fresh installation store two
profiles. -/
theorem overlapping_starts_store_two :
    (run (App.step id "") firstLaunch overlappingStarts).map
      (fun final => managersOf final.preferences) = some [0, 1] := by
  decide

end QLadder
