import QLadder.VpnStatusMirror

/-!
# Which proxy a running tunnel uses

The current proxy reaches a tunnel through two copies: the configuration that
a `startVPN` writes into its manager when its load comes back, and the saved
profile it is started from.  Adding a configuration replaces the current proxy
at once; a tunnel that is shown as on is told to stop, any other one is left
alone.  A tunnel that is told to stop runs on with what it was started with until
the system takes it down.

* `tunnel_runs_current` — if a configuration is added only while every
  `startVPN` under way has the same one, and every tunnel started with another
  one has been told to stop, or is reached by a stop that is already due or is
  shown as on and reached by the stop of this add, and no such stop loses its
  load, then a connected tunnel that has not been told to stop was started with
  the current proxy whenever nothing is pending;
* `added_while_connecting` — a configuration added while the status is
  connecting leaves the old tunnel running.
-/

namespace QLadder

open Swift PartialRun InFlight

/-! ## The saved configurations -/

/-- A save changes the saved configuration of its manager only. -/
theorem savedConfiguration_storeProfile (preferences : List Profile)
    (manager other : Manager) (conf : Option Conf) :
    savedConfiguration (storeProfile preferences manager conf) other =
      if other = manager then conf else savedConfiguration preferences other := by
  unfold savedConfiguration storeProfile
  split
  · rename_i hany
    obtain ⟨known, hknown, heq⟩ := List.any_eq_true.mp hany
    rw [List.find?_map]
    have hcomp : ((fun profile : Profile => profile.manager == other) ∘
        fun profile => if profile.manager = manager then
          { profile with providerConfiguration := conf } else profile) =
        fun profile => profile.manager == other := by
      funext profile
      simp only [Function.comp_apply]
      split <;> rfl
    rw [hcomp]
    cases hfind : preferences.find? fun profile => profile.manager == other with
    | none =>
        have hne : other ≠ manager := by
          rintro rfl
          exact (List.find?_eq_none.mp hfind known hknown) heq
        simp [hne]
    | some profile =>
        have hmanager : profile.manager = other := by
          simpa using List.find?_some hfind
        by_cases h : other = manager
        · simp [hmanager, h]
        · simp [hmanager, h]
  · rename_i hany
    rw [List.find?_append]
    by_cases h : other = manager
    · subst h
      have hnone : preferences.find? (fun profile => profile.manager == other) = none := by
        rw [List.find?_eq_none]
        exact fun profile hmem hp => hany (List.any_eq_true.mpr ⟨profile, hmem, hp⟩)
      simp [hnone]
    · simp [h, Ne.symm h]

/-- A manager with a saved configuration has a stored profile. -/
theorem mem_managersOf_of_saved {preferences : List Profile} {manager : Manager}
    {conf : Conf} (h : savedConfiguration preferences manager = some conf) :
    manager ∈ managersOf preferences := by
  obtain ⟨profile, hfind, _⟩ := Option.bind_eq_some_iff.mp h
  have hmanager : profile.manager = manager := by simpa using List.find?_some hfind
  exact List.mem_map.mpr ⟨profile, List.mem_of_find?_eq_some hfind, hmanager⟩

/-- The first stored profile stays the first. -/
theorem firstManager_of_longer {before after : List Profile} {manager : Manager}
    (hpre : managersOf before <+: managersOf after)
    (h : firstManager before = some manager) : firstManager after = some manager := by
  obtain ⟨rest, hrest⟩ := hpre
  unfold firstManager at h ⊢
  cases hb : managersOf before with
  | nil => simp [hb] at h
  | cons first others =>
      rw [← hrest, hb]
      simpa [hb] using h

/-! ## The condition -/

/-- The provider configuration that the current proxy stands for. -/
def currentConfiguration (ruleConf : String) (app : App) : Option Conf :=
  VpnManager.setConnectionConfig app.config.currentProxy ruleConf none

/-- The configuration that the `startVPN` behind a task will start with. -/
def Task.startConfiguration (preferences : List Profile) : Task → Option (Option Conf)
  | .save _ conf => some conf
  | .saved manager true | .load manager | .loaded manager true =>
      some (savedConfiguration preferences manager)
  | _ => none

/-- Storing the configuration that a task starts with anyway changes nothing
for it. -/
theorem Task.startConfiguration_storeProfile {preferences : List Profile} {task : Task}
    {conf : Option Conf} (manager : Manager)
    (h : ∀ other ∈ task.startConfiguration preferences, other = conf) :
    ∀ other ∈ task.startConfiguration (storeProfile preferences manager conf),
      other = conf := by
  have hsaved : ∀ m, savedConfiguration preferences m = conf →
      savedConfiguration (storeProfile preferences manager conf) m = conf := by
    intro m hbefore
    rw [savedConfiguration_storeProfile]
    split
    · rfl
    · exact hbefore
  intro other hother
  cases task with
  | save m conf' => exact h other hother
  | saved m ok =>
      cases ok with
      | true =>
          cases hother
          exact hsaved m (h _ rfl)
      | false => cases hother
  | load m =>
      cases hother
      exact hsaved m (h _ rfl)
  | loaded m ok =>
      cases ok with
      | true =>
          cases hother
          exact hsaved m (h _ rfl)
      | false => cases hother
  | loadAll completion => cases hother
  | loadedAll completion managers => cases hother

/-- Every `startVPN` under way starts with `conf`. -/
def StartsWith (conf : Option Conf) (app : App) : Prop :=
  ∀ task ∈ app.tasks, ∀ other ∈ task.startConfiguration app.preferences, other = conf

instance (conf : Option Conf) (app : App) : Decidable (StartsWith conf app) :=
  inferInstanceAs (Decidable (∀ task ∈ app.tasks, ∀ other ∈ _, other = conf))

section Machine

variable (connectionOf : Manager → Connection) (ruleConf : String)

/-- The task is a stop that will reach the connection. -/
def Task.willStop (preferences : List Profile) (connection : Connection) : Task → Bool
  | .loadAll .stop => decide ((firstManager preferences).map connectionOf = some connection)
  | .loadedAll .stop managers =>
      decide ((managers.bind firstManager).map connectionOf = some connection)
  | _ => false

/-- A tunnel on the connection of a stored profile was started with `conf`, or has
been told to stop, or one of `tasks` will tell it. -/
def Covered (conf : Option Conf) (tasks : List Task) (app : App) : Prop :=
  ∀ profile ∈ app.preferences, ∀ running ∈ app.tunnel (connectionOf profile.manager),
    running = conf ∨ app.toldToStop (connectionOf profile.manager) = true ∨
      ∃ task ∈ tasks,
        task.willStop connectionOf app.preferences (connectionOf profile.manager) = true

instance (conf : Option Conf) (tasks : List Task) (app : App) :
    Decidable (Covered connectionOf conf tasks app) :=
  inferInstanceAs (Decidable (∀ profile ∈ app.preferences, ∀ running ∈ _, _ ∨ _ ∨ _))

/-- The condition on an event: an accepted configuration finds every `startVPN`
under way with the same one, and every tunnel covered; a stop loses its load
only if the tunnels are covered without it. -/
def KeepsTunnel (app : App) : VpnEvent → Prop
  | .addDidClick hostText portText passwdText _ =>
      ∀ entry ∈ QLNewViewController.acceptedTexts hostText portText passwdText,
        ∀ port ∈ intOfString entry.port,
          let conf := VpnManager.setConnectionConfig
            (some (Proxy.init "" entry.host port entry.passwd)) ruleConf none
          StartsWith conf app ∧
            Covered connectionOf conf (app.tasks ++ app.stopRequest) app
  | .answer task ok => task = .loadAll .stop → ok = false →
      Covered connectionOf (currentConfiguration ruleConf app) (app.tasks.erase task) app
  | _ => True

instance (app : App) : ∀ e, Decidable (KeepsTunnel connectionOf ruleConf app e)
  | .addDidClick _ _ _ _ =>
      inferInstanceAs (Decidable (∀ entry ∈ (_ : Option Entry),
        ∀ port ∈ intOfString entry.port, _ ∧ _))
  | .answer _ _ => inferInstanceAs (Decidable (_ → _ → _))
  | .connect | .startVPN | .stopVPN | .callback _ _ | .statusChange _ _
  | .notify _ => isTrue trivial

/-- The system brings up no connection by itself: one that becomes active has a
tunnel that was started. -/
def StartsNone (app : App) : VpnEvent → Prop
  | .statusChange connection status => status.active = true →
      (app.tunnel connection).isSome = true
  | _ => True

instance (app : App) : ∀ e, Decidable (StartsNone app e)
  | .statusChange _ _ => inferInstanceAs (Decidable (_ → _))
  | .addDidClick _ _ _ _ | .connect | .startVPN | .stopVPN | .answer _ _
  | .callback _ _ | .notify _ => isTrue trivial

/-! ## The invariant -/

/-- Every start under way uses the current proxy, and so does every tunnel that no
stop has reached or will reach; tunnels are there only on connections of stored
profiles, and on each that is active. -/
structure TunnelCurrent (app : App) : Prop where
  proxy : ∃ name host port password,
    app.config.currentProxy = some (Proxy.init name host port password)
  starting : StartsWith (currentConfiguration ruleConf app) app
  covered : ∀ connection running, app.tunnel connection = some running →
    running = currentConfiguration ruleConf app ∨ app.toldToStop connection = true ∨
      ∃ task ∈ app.tasks, task.willStop connectionOf app.preferences connection = true
  stored : ∀ connection running, app.tunnel connection = some running →
    ∃ profile ∈ app.preferences, connectionOf profile.manager = connection
  active : ∀ connection, (app.status connection).active = true →
    (app.tunnel connection).isSome = true

variable {connectionOf ruleConf}

/-- More stored profiles do not lead a stop away. -/
theorem Task.willStop_mono {before after : List Profile} {connection : Connection}
    (hpre : managersOf before <+: managersOf after) (task : Task)
    (h : task.willStop connectionOf before connection = true) :
    task.willStop connectionOf after connection = true := by
  cases task with
  | loadAll completion =>
      cases completion with
      | stop =>
          simp only [Task.willStop, decide_eq_true_eq] at h ⊢
          obtain ⟨manager, hfirst, hconnection⟩ := Option.map_eq_some_iff.mp h
          rw [firstManager_of_longer hpre hfirst]
          simp [hconnection]
      | readStatus => cases h
      | addObserver => cases h
      | start => cases h
  | loadedAll completion managers => cases completion <;> exact h
  | _ => exact h

/-- A current proxy always has a configuration. -/
theorem TunnelCurrent.configuration_some {app : App}
    (h : TunnelCurrent connectionOf ruleConf app) :
    ∃ conf, currentConfiguration ruleConf app = some conf := by
  obtain ⟨name, host, port, password, hproxy⟩ := h.proxy
  simp [currentConfiguration, hproxy, VpnManager.setConnectionConfig]

/-- The old configuration of a manager plays no part once there is a proxy. -/
theorem setConnectionConfig_eq {app : App} (h : TunnelCurrent connectionOf ruleConf app)
    (old : Option Conf) :
    VpnManager.setConnectionConfig app.config.currentProxy ruleConf old =
      currentConfiguration ruleConf app := by
  obtain ⟨name, host, port, password, hproxy⟩ := h.proxy
  simp [currentConfiguration, hproxy, VpnManager.setConnectionConfig]

/-- The request for an observer starts nothing. -/
theorem observerRequest_startConfiguration (app : App) (preferences : List Profile)
    (current : Option Conf) :
    ∀ new ∈ app.observerRequest, ∀ conf ∈ new.startConfiguration preferences,
      conf = current := by
  intro new hnew conf hconf
  obtain ⟨completion, rfl⟩ := observerRequest_sent app new hnew
  cases hconf

/-- The proxy, the profiles, the connections and their tunnels are left alone. -/
structure SameTunnels (app next : App) : Prop where
  config : next.config = app.config
  preferences : next.preferences = app.preferences
  status : next.status = app.status
  tunnel : next.tunnel = app.tunnel
  toldToStop : next.toldToStop = app.toldToStop

/-- A step that leaves the proxy, the profiles and the tunnels alone, if what
it leaves in flight starts with the current proxy and no stop is lost. -/
theorem TunnelCurrent.retask {app next : App}
    (h : TunnelCurrent connectionOf ruleConf app) (hsame : SameTunnels app next)
    (hstarting : ∀ task ∈ next.tasks, ∀ conf ∈ task.startConfiguration app.preferences,
      conf = currentConfiguration ruleConf app)
    (hstop : ∀ connection, ∀ task ∈ app.tasks,
      task.willStop connectionOf app.preferences connection = true →
      ∃ new ∈ next.tasks, new.willStop connectionOf app.preferences connection = true) :
    TunnelCurrent connectionOf ruleConf next := by
  have hcurrent : currentConfiguration ruleConf next = currentConfiguration ruleConf app := by
    simp [currentConfiguration, hsame.config]
  refine ⟨by rw [hsame.config]; exact h.proxy, ?_, ?_, ?_, ?_⟩
  · unfold StartsWith
    rw [hcurrent, hsame.preferences]
    exact hstarting
  · intro connection running hrunning
    rw [hsame.tunnel] at hrunning
    rw [hcurrent, hsame.preferences, hsame.toldToStop]
    rcases h.covered connection running hrunning with hcurrent | htold | ⟨task, hmem, hwill⟩
    · exact Or.inl hcurrent
    · exact Or.inr (Or.inl htold)
    · exact Or.inr (Or.inr (hstop connection task hmem hwill))
  · intro connection running hrunning
    rw [hsame.tunnel] at hrunning
    rw [hsame.preferences]
    exact h.stored connection running hrunning
  · rw [hsame.status, hsame.tunnel]
    exact h.active

/-- A step that advances one task: the new tasks start with the current proxy
only, and a stop turns into a stop. -/
theorem TunnelCurrent.advance {app next : App} {task : Task}
    (h : TunnelCurrent connectionOf ruleConf app) (tasks : List Task)
    (hsame : SameTunnels app next)
    (htasks : next.tasks = app.tasks.erase task ++ tasks)
    (hstarting : ∀ new ∈ tasks, ∀ conf ∈ new.startConfiguration app.preferences,
      conf = currentConfiguration ruleConf app)
    (hstop : ∀ connection, task.willStop connectionOf app.preferences connection = true →
      ∃ new ∈ tasks, new.willStop connectionOf app.preferences connection = true) :
    TunnelCurrent connectionOf ruleConf next := by
  refine h.retask hsame ?_ ?_
  · rw [htasks]
    exact forall_advance h.starting hstarting
  · intro connection t hmem hwill
    rw [htasks]
    by_cases hne : t = task
    · obtain ⟨new, hnew, hnewWill⟩ := hstop connection (hne ▸ hwill)
      exact ⟨new, List.mem_append_right _ hnew, hnewWill⟩
    · exact ⟨t, mem_advance_of_ne tasks hne hmem, hwill⟩

/-- A step that advances a task which is no stop. -/
theorem TunnelCurrent.proceed {app next : App} {task : Task}
    (h : TunnelCurrent connectionOf ruleConf app) (tasks : List Task)
    (hsame : SameTunnels app next)
    (htasks : next.tasks = app.tasks.erase task ++ tasks)
    (hother : ∀ connection,
      task.willStop connectionOf app.preferences connection = false)
    (hstarting : ∀ new ∈ tasks, ∀ conf ∈ new.startConfiguration app.preferences,
      conf = currentConfiguration ruleConf app) :
    TunnelCurrent connectionOf ruleConf next := by
  apply h.advance tasks hsame htasks hstarting
  intro connection hwill
  rw [hother] at hwill
  cases hwill

/-- A step that finishes a task which is no stop. -/
theorem TunnelCurrent.finish {app next : App} {task : Task}
    (h : TunnelCurrent connectionOf ruleConf app) (hsame : SameTunnels app next)
    (htasks : next.tasks = app.tasks.erase task)
    (hother : ∀ connection,
      task.willStop connectionOf app.preferences connection = false) :
    TunnelCurrent connectionOf ruleConf next := by
  have hnone : next.tasks = app.tasks.erase task ++ [] := by
    rw [htasks, List.append_nil]
  apply h.proceed [] hsame hnone hother
  intro new hnew
  cases hnew

/-- A fruitless completion handler is no stop. -/
theorem willStop_of_fruitless {preferences : List Profile} {task : Task}
    (h : task.Fruitless) (connection : Connection) :
    task.willStop connectionOf preferences connection = false := by
  rcases h.told with ⟨completion, rfl⟩ | ⟨completion, _, rfl⟩ | ⟨manager, rfl⟩ |
    ⟨manager, ok, rfl⟩
  · cases completion <;> rfl
  · cases completion <;> rfl
  · rfl
  · rfl

/-- A load answered: the stop keeps its manager, or the condition covers the
tunnels without it. -/
theorem TunnelCurrent.answeredLoadAll {app : App} {completion : Completion} {ok : Bool}
    (h : TunnelCurrent connectionOf ruleConf app)
    (hok : KeepsTunnel connectionOf ruleConf app (.answer (.loadAll completion) ok)) :
    TunnelCurrent connectionOf ruleConf
      { app with tasks := app.tasks.erase (.loadAll completion) ++
        [.loadedAll completion (if ok then some app.preferences else none)] } := by
  by_cases hlost : completion = .stop ∧ ok = false
  · obtain ⟨rfl, rfl⟩ := hlost
    refine ⟨h.proxy, ?_, ?_, h.stored, h.active⟩
    · exact forall_advance h.starting (by simp [Task.startConfiguration])
    · intro connection running hrunning
      obtain ⟨profile, hprofile, rfl⟩ := h.stored connection running hrunning
      rcases hok rfl rfl profile hprofile running hrunning with hsame | htold | ⟨t, hmem, ht⟩
      · exact Or.inl hsame
      · exact Or.inr (Or.inl htold)
      · exact Or.inr (Or.inr ⟨t, List.mem_append_left _ hmem, ht⟩)
  · refine h.advance _ ⟨rfl, rfl, rfl, rfl, rfl⟩ rfl (by simp [Task.startConfiguration]) ?_
    intro connection hstop
    cases completion with
    | stop =>
        have hok' : ok = true := by simpa using hlost
        exact ⟨_, List.mem_singleton.mpr rfl, by simpa [Task.willStop, hok'] using hstop⟩
    | readStatus => cases hstop
    | addObserver => cases hstop
    | start => cases hstop

/-- An accepted configuration, under the condition. -/
theorem TunnelCurrent.added {app : App} {hostText portText passwdText : Option String}
    {random : Nat} {entry : Entry} {port : Int}
    (h : TunnelCurrent connectionOf ruleConf app)
    (hok : KeepsTunnel connectionOf ruleConf app
      (.addDidClick hostText portText passwdText random))
    (haccepted :
      QLNewViewController.acceptedTexts hostText portText passwdText = some entry)
    (hport : intOfString entry.port = some port) :
    TunnelCurrent connectionOf ruleConf
      { app with
        defaults := ConfigManager.saveConfig entry.host entry.port entry.passwd
        config :=
          { currentProxy := some (Proxy.init "" entry.host port entry.passwd),
            proxys := [Proxy.init "" entry.host port entry.passwd] }
        tasks := app.tasks ++ app.stopRequest } := by
  obtain ⟨hstarting, hcovered⟩ := hok entry haccepted port hport
  refine ⟨⟨_, _, _, _, rfl⟩, ?_, ?_, h.stored, h.active⟩
  · intro task hmem conf hconf
    rcases List.mem_append.mp hmem with hmem | hmem
    · exact hstarting task hmem conf hconf
    · obtain ⟨completion, rfl⟩ := stopRequest_sent app task hmem
      cases hconf
  · intro connection running hrunning
    obtain ⟨profile, hprofile, rfl⟩ := h.stored connection running hrunning
    exact hcovered profile hprofile running hrunning

/-- A successful save: what it stores is the current configuration. -/
theorem TunnelCurrent.saved {app : App} {manager : Manager} {conf : Option Conf}
    (h : TunnelCurrent connectionOf ruleConf app)
    (hmem : Task.save manager conf ∈ app.tasks) :
    TunnelCurrent connectionOf ruleConf
      { app with
        preferences := storeProfile app.preferences manager conf
        tasks := app.tasks.erase (.save manager conf) ++ [.saved manager true] } := by
  have hconf : conf = currentConfiguration ruleConf app := h.starting _ hmem conf rfl
  have hpre := managersOf_prefix_storeProfile app.preferences manager conf
  refine ⟨h.proxy, ?_, ?_, ?_, h.active⟩
  · apply forall_advance
    · intro task htask
      have hbefore := h.starting task htask
      rw [← hconf] at hbefore
      intro other hother
      exact (Task.startConfiguration_storeProfile manager hbefore other hother).trans hconf
    · intro task htask other hother
      cases List.mem_singleton.mp htask
      cases hother
      rw [savedConfiguration_storeProfile, if_pos rfl]
      exact hconf
  · intro connection running hrunning
    rcases h.covered connection running hrunning with hsame | htold | ⟨t, ht, hwill⟩
    · exact Or.inl hsame
    · exact Or.inr (Or.inl htold)
    · have hne : t ≠ .save manager conf := by
        rintro rfl
        cases hwill
      exact Or.inr (Or.inr ⟨t, mem_advance_of_ne _ hne ht, t.willStop_mono hpre hwill⟩)
  · intro connection running hrunning
    obtain ⟨profile, hprofile, hconnection⟩ := h.stored connection running hrunning
    obtain ⟨after, hafter, heq⟩ := List.mem_map.mp
      (hpre.subset (List.mem_map_of_mem hprofile))
    exact ⟨after, hafter, by rw [heq]; exact hconnection⟩

/-- A start: the tunnel runs with the saved configuration, which is current. -/
theorem TunnelCurrent.started {app : App} {manager : Manager}
    (h : TunnelCurrent connectionOf ruleConf app)
    (hmem : Task.loaded manager true ∈ app.tasks) :
    TunnelCurrent connectionOf ruleConf
      { app with
        tunnel := Function.update app.tunnel (connectionOf manager)
          (some (savedConfiguration app.preferences manager))
        toldToStop := Function.update app.toldToStop (connectionOf manager) false
        tasks := app.tasks.erase (.loaded manager true) ++ app.observerRequest } := by
  have hsaved : savedConfiguration app.preferences manager =
      currentConfiguration ruleConf app := h.starting _ hmem _ rfl
  have hadvance : TunnelCurrent connectionOf ruleConf
      { app with tasks := app.tasks.erase (.loaded manager true) ++ app.observerRequest } := by
    exact h.proceed _ ⟨rfl, rfl, rfl, rfl, rfl⟩ rfl (fun _ => rfl)
      (observerRequest_startConfiguration app _ _)
  refine ⟨h.proxy, hadvance.starting, ?_, ?_, ?_⟩
  · intro connection running hrunning
    by_cases hhere : connection = connectionOf manager
    · subst hhere
      simp only [Function.update_self, Option.some.injEq] at hrunning
      exact Or.inl (hrunning.symm.trans hsaved)
    · simp only [Function.update_of_ne hhere] at hrunning ⊢
      exact hadvance.covered connection running hrunning
  · intro connection running hrunning
    by_cases hhere : connection = connectionOf manager
    · obtain ⟨conf, hconf⟩ := h.configuration_some
      obtain ⟨profile, hprofile, heq⟩ := List.mem_map.mp
        (mem_managersOf_of_saved (hsaved.trans hconf))
      exact ⟨profile, hprofile, by rw [heq, hhere]⟩
    · simp only [Function.update_of_ne hhere] at hrunning
      exact h.stored connection running hrunning
  · intro connection hactive
    by_cases hhere : connection = connectionOf manager
    · simp [hhere]
    · simp only [Function.update_of_ne hhere]
      exact h.active connection hactive

/-- A stop: the connection it reaches has been told, and the others keep the stops
that will reach them. -/
theorem TunnelCurrent.stopped {app : App} {profile : Profile} {rest : List Profile}
    (h : TunnelCurrent connectionOf ruleConf app) :
    TunnelCurrent connectionOf ruleConf
      { app with
        toldToStop := Function.update app.toldToStop (connectionOf profile.manager) true
        tasks := app.tasks.erase (.loadedAll .stop (some (profile :: rest))) } := by
  refine ⟨h.proxy, ?_, ?_, h.stored, h.active⟩
  · exact fun task hmem => h.starting task (List.mem_of_mem_erase hmem)
  · intro connection running hrunning
    by_cases hhere : connection = connectionOf profile.manager
    · exact Or.inr (Or.inl (by simp [hhere]))
    · simp only [Function.update_of_ne hhere]
      rcases h.covered connection running hrunning with hsame | htold | ⟨t, hmem, hwill⟩
      · exact Or.inl hsame
      · exact Or.inr (Or.inl htold)
      · refine Or.inr (Or.inr ⟨t, (List.mem_erase_of_ne ?_).mpr hmem, hwill⟩)
        rintro rfl
        simp [Task.willStop, firstManager, managersOf] at hwill
        exact hhere hwill.symm

/-- A status change takes tunnels down and starts none. -/
theorem TunnelCurrent.statusChanged {app : App} {connection : Connection}
    {status : NEVPNStatus} (h : TunnelCurrent connectionOf ruleConf app)
    (hnone : StartsNone app (.statusChange connection status)) :
    TunnelCurrent connectionOf ruleConf
      (app.statusChange connectionOf connection status) := by
  -- what is left of a tunnel has not gone down, and neither has what was said to it
  have hkeep : ∀ c running,
      (app.statusChange connectionOf connection status).tunnel c = some running →
      app.tunnel c = some running ∧
        (app.statusChange connectionOf connection status).toldToStop c = app.toldToStop c := by
    intro c running hrunning
    simp only [App.statusChange] at hrunning ⊢
    split at hrunning
    · rename_i hdown
      by_cases hhere : c = connection
      · simp [hhere] at hrunning
      · rw [Function.update_of_ne hhere] at hrunning
        rw [if_pos hdown, Function.update_of_ne hhere]
        exact ⟨hrunning, rfl⟩
    · rename_i hup
      rw [if_neg hup]
      exact ⟨hrunning, rfl⟩
  refine ⟨h.proxy, h.starting, ?_, ?_, ?_⟩
  · intro c running hrunning
    obtain ⟨hbefore, htold⟩ := hkeep c running hrunning
    rw [htold]
    exact h.covered c running hbefore
  · intro c running hrunning
    exact h.stored c running (hkeep c running hrunning).1
  · intro c hactive
    simp only [App.statusChange] at hactive ⊢
    by_cases hhere : c = connection
    · subst hhere
      rw [Function.update_self] at hactive
      rw [hactive, Bool.not_true, Bool.and_false, if_neg (by decide)]
      exact hnone hactive
    · rw [Function.update_of_ne hhere] at hactive
      split
      · rw [Function.update_of_ne hhere]
        exact h.active c hactive
      · exact h.active c hactive

/-- Every step that meets the condition keeps the invariant. -/
theorem TunnelCurrent.step {app next : App} {e : VpnEvent}
    (h : TunnelCurrent connectionOf ruleConf app)
    (hok : KeepsTunnel connectionOf ruleConf app e) (hnone : StartsNone app e)
    (hstep : App.step connectionOf ruleConf app e = some next) :
    TunnelCurrent connectionOf ruleConf next := by
  cases takes_of_step hstep with
  | rejected _ => exact h
  | added haccepted hport => exact h.added hok haccepted hport
  | called _ _ =>
      refine h.retask ⟨rfl, rfl, rfl, rfl, rfl⟩ ?_ ?_
      · apply forall_sent h.starting
        intro conf hconf
        cases hconf
      · intro _ task hmem hwill
        exact ⟨task, List.mem_append_left _ hmem, hwill⟩
  | answeredLoadAll _ => exact h.answeredLoadAll hok
  | saveFailed _ =>
      exact h.proceed _ ⟨rfl, rfl, rfl, rfl, rfl⟩ rfl (fun _ => rfl)
        (by simp [Task.startConfiguration])
  | saved hmem => exact h.saved hmem
  | @answeredLoad manager ok hmem =>
      refine h.proceed _ ⟨rfl, rfl, rfl, rfl, rfl⟩ rfl (fun _ => rfl) ?_
      intro new hnew conf hconf
      cases List.mem_singleton.mp hnew
      cases ok with
      | true => exact h.starting _ hmem conf hconf
      | false => cases hconf
  | dropped _ hfruitless =>
      exact h.finish ⟨rfl, rfl, rfl, rfl, rfl⟩ rfl (willStop_of_fruitless hfruitless)
  | created _ =>
      refine h.proceed _ ⟨rfl, rfl, rfl, rfl, rfl⟩ rfl (fun _ => rfl) ?_
      intro new hnew conf hconf
      cases List.mem_singleton.mp hnew
      cases hconf
      exact setConnectionConfig_eq h _
  | reused _ =>
      refine h.proceed _ ⟨rfl, rfl, rfl, rfl, rfl⟩ rfl (fun _ => rfl) ?_
      intro new hnew conf hconf
      cases List.mem_singleton.mp hnew
      cases hconf
      exact setConnectionConfig_eq h _
  | statusRead _ => exact h.finish ⟨rfl, rfl, rfl, rfl, rfl⟩ rfl (fun _ => rfl)
  | registered _ => exact h.finish ⟨rfl, rfl, rfl, rfl, rfl⟩ rfl (fun _ => rfl)
  | stopped _ => exact h.stopped
  | reload hmem =>
      refine h.proceed _ ⟨rfl, rfl, rfl, rfl, rfl⟩ rfl (fun _ => rfl) ?_
      intro new hnew conf hconf
      cases List.mem_singleton.mp hnew
      exact h.starting _ hmem conf hconf
  | started hmem _ => exact h.started hmem
  | running _ =>
      exact h.proceed _ ⟨rfl, rfl, rfl, rfl, rfl⟩ rfl (fun _ => rfl)
        (observerRequest_startConfiguration app _ _)
  | statusChanged _ => exact h.statusChanged hnone
  | notified _ => exact ⟨h.proxy, h.starting, h.covered, h.stored, h.active⟩

/-- So does every run. -/
theorem TunnelCurrent.along {app final : App} {events : List VpnEvent}
    (h : TunnelCurrent connectionOf ruleConf app)
    (hok : Meets (App.step connectionOf ruleConf) (KeepsTunnel connectionOf ruleConf)
      app events)
    (hnone : Meets (App.step connectionOf ruleConf) StartsNone app events)
    (hrun : run (App.step connectionOf ruleConf) app events = some final) :
    TunnelCurrent connectionOf ruleConf final := by
  refine run_invariant ?_ h (hok.and hnone) hrun
  intro app e next h hmeets hstep
  exact h.step hmeets.1 hmeets.2 hstep

/-! ## The running tunnel -/

/-- A tunnel started with `conf` runs with the host, port and password of the
proxy. -/
def RunsProxy (proxy : Option Proxy) (conf : Option Conf) : Prop :=
  ∃ p host port password, proxy = some p ∧ p.host = some host ∧ p.port = some port ∧
    p.password = some password ∧
    PacketTunnelProvider.ssAdapterFactory conf =
      some { serverHost := host, serverPort := port, password := password,
             algorithm := .AES256CFB }

/-- **The running tunnel uses the current proxy.**  Take a launch with a current
proxy, where a connection that is up has a tunnel left by an earlier launch, which
uses that proxy and belongs to a stored profile.  In every run from there whose
events meet the condition, and in which the system brings up nothing by itself, every
quiescent state has a connected tunnel started with the current proxy, unless it was
told to stop and is not down yet. -/
theorem tunnel_runs_current (connectionOf : Manager → Connection) (ruleConf : String)
    (app : App) (hlaunched : Launched app)
    (hproxy : ∃ name host port password,
      app.config.currentProxy = some (Proxy.init name host port password))
    (hleft : ∀ connection running, app.tunnel connection = some running →
      running = currentConfiguration ruleConf app ∧
        ∃ profile ∈ app.preferences, connectionOf profile.manager = connection)
    (hactive : ∀ connection, (app.status connection).active = true →
      (app.tunnel connection).isSome = true)
    (events : List VpnEvent) (final : App)
    (hok : Meets (App.step connectionOf ruleConf) (KeepsTunnel connectionOf ruleConf)
      app events)
    (hnone : Meets (App.step connectionOf ruleConf) StartsNone app events)
    (hrun : run (App.step connectionOf ruleConf) app events = some final)
    (hquiescent : Quiescent final) (connection : Connection)
    (hconnected : final.status connection = .connected)
    (htold : final.toldToStop connection = false) :
    ∃ conf, final.tunnel connection = some conf ∧
      RunsProxy final.config.currentProxy conf := by
  have hstart : TunnelCurrent connectionOf ruleConf app := by
    refine ⟨hproxy, ?_, ?_, ?_, hactive⟩
    · simp [StartsWith, hlaunched.tasks, Task.startConfiguration]
    · intro c running hrunning
      exact Or.inl (hleft c running hrunning).1
    · intro c running hrunning
      exact (hleft c running hrunning).2
  have hfinal : TunnelCurrent connectionOf ruleConf final := hstart.along hok hnone hrun
  have hup : (final.tunnel connection).isSome = true := by
    apply hfinal.active connection
    rw [hconnected]
    rfl
  obtain ⟨conf, htunnel⟩ := Option.isSome_iff_exists.mp hup
  refine ⟨conf, htunnel, ?_⟩
  obtain ⟨name, host, port, password, hcurrent⟩ := hfinal.proxy
  rcases hfinal.covered connection conf htunnel with hsame | hstopped | ⟨task, hmem, _⟩
  · refine ⟨_, host, port, password, hcurrent, rfl, rfl, rfl, ?_⟩
    rw [hsame, currentConfiguration, hcurrent]
    exact PacketTunnelProvider.ssAdapterFactory_setConnectionConfig _ _ _ _ _ _
  · rw [htold] at hstopped
    cases hstopped
  · simp [hquiescent.1] at hmem

end Machine

/-- The configuration that a proxy stands for. -/
def confOf (host : String) (port : Int) (password : String) : Option Conf :=
  VpnManager.setConnectionConfig (some (Proxy.init "" host port password)) "" none

/-- A later launch: the proxy `a:1` is current, and a profile is stored from an
earlier start with it. -/
def storedLaunch : App :=
  App.launch (ConfigManager.saveConfig "a" "1" "x")
    { currentProxy := some (Proxy.init "" "a" 1 "x"), proxys := [Proxy.init "" "a" 1 "x"] }
    [{ manager := 0, providerConfiguration := confOf "a" 1 "x" }] 1
    (fun _ => .disconnected) (fun _ => none)

/-- Both loads of `init`, with `conf` saved in the one profile. -/
def initLoads (conf : Option Conf) : List VpnEvent :=
  let stored := some [{ manager := 0, providerConfiguration := conf }]
  [.answer (.loadAll .readStatus) true, .callback (.loadedAll .readStatus stored) true,
   .answer (.loadAll .addObserver) true, .callback (.loadedAll .addObserver stored) true]

/-- A tap on connect while the VPN is off, up to the start: `old` is the saved
configuration and `conf` the current one. -/
def connectStart (old conf : Option Conf) : List VpnEvent :=
  let stored := some [{ manager := 0, providerConfiguration := old }]
  [.connect, .answer (.loadAll .start) true, .callback (.loadedAll .start stored) true,
   .answer (.save 0 conf) true, .callback (.saved 0 true) true,
   .answer (.load 0) true, .callback (.loaded 0 true) true]

/-- The system changes the status and the observer follows. -/
def goesTo (status : NEVPNStatus) : List VpnEvent :=
  [.statusChange 0 status, .notify 0]

/-- A configuration added while the VPN is on: it is stopped, and connected
again with the new proxy. -/
def addedWhileOn : List VpnEvent :=
  let old := confOf "a" 1 "x"
  let stored := some [{ manager := 0, providerConfiguration := old }]
  initLoads old ++ connectStart old old ++ goesTo .connecting ++ goesTo .connected ++
  [.addDidClick (some "b") (some "2") (some "y") 0,
   .answer (.loadAll .stop) true, .callback (.loadedAll .stop stored) true] ++
  goesTo .disconnecting ++ goesTo .disconnected ++
  connectStart old (confOf "b" 2 "y") ++ goesTo .connecting ++ goesTo .connected

def addedWhileOnFinal : App :=
  (run (App.step (fun _ => 0) "") storedLaunch addedWhileOn).getD storedLaunch

/-- The second start runs with the proxy added in between. -/
theorem tunnel_runs_current_addedWhileOn :
    ∃ conf, addedWhileOnFinal.tunnel 0 = some conf ∧
      RunsProxy addedWhileOnFinal.config.currentProxy conf :=
  tunnel_runs_current (fun _ => 0) "" storedLaunch (launched_launch _ _ _ _ _ _)
    ⟨_, _, _, _, rfl⟩ (fun _ _ h => by cases h) (fun _ h => by cases h) addedWhileOn
    addedWhileOnFinal (by decide) (by decide) rfl (by decide) 0 (by decide) (by decide)

/-- A configuration added after the start and before the status is connected. -/
def addedWhileConnecting : List VpnEvent :=
  let old := confOf "a" 1 "x"
  initLoads old ++ connectStart old old ++ goesTo .connecting ++
  [.addDidClick (some "b") (some "2") (some "y") 0] ++ goesTo .connected

/-- **The old tunnel stays.**  A configuration added while the status is
connecting sends no stop: with nothing pending the VPN is connected and runs with the
server that was current before. -/
theorem added_while_connecting :
    ∃ final, run (App.step (fun _ => 0) "") storedLaunch addedWhileConnecting = some final ∧
      Quiescent final ∧ final.status 0 = .connected ∧ final.toldToStop 0 = false ∧
      final.vpnStatus = .on ∧
      final.config.currentProxy = some (Proxy.init "" "b" 2 "y") ∧
      (final.tunnel 0).bind PacketTunnelProvider.ssAdapterFactory =
        some { serverHost := "a", serverPort := 1, password := "x",
               algorithm := .AES256CFB } := by
  refine ⟨_, rfl, ?_⟩
  decide

end QLadder
