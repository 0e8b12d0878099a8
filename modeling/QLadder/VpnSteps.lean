import QLadder.VpnManager

/-!
# What a step of the VPN machine can do

`Takes` has one constructor for each way in which an event can change the
state, with the guard of that way as its hypotheses and the next state written
out field by field.  `takes_of_step` says that nothing else can happen.
-/

namespace QLadder

open Swift PartialRun

namespace App

/-- The request that `addVPNStatusObserver` sends, if it sends one. -/
def observerRequest (app : App) : List Task :=
  if app.observerDidAdd then [] else [.loadAll .addObserver]

/-- The request with which an accepted configuration stops the VPN. -/
def stopRequest (app : App) : List Task :=
  if app.vpnStatus = .on then [.loadAll .stop] else []

theorem addVPNStatusObserver_eq (app : App) :
    app.addVPNStatusObserver = { app with tasks := app.tasks ++ app.observerRequest } := by
  unfold addVPNStatusObserver observerRequest
  split
  · simp
  · rfl

end App

/-- The answer to a load that names no manager, and the failures: their
completion handlers do nothing. -/
def Task.Fruitless : Task → Prop
  | .loadedAll .start managers => managers = none
  | .loadedAll _ managers => managers = none ∨ managers = some []
  | .saved _ ok => ok = false
  | .loaded _ _ => True
  | _ => False

/-- What a fruitless completion handler was told: no list, an empty list where
none is created, a failed save, or whatever a load came to. -/
theorem Task.Fruitless.told {task : Task} (h : task.Fruitless) :
    (∃ completion, task = .loadedAll completion none) ∨
      (∃ completion, completion ≠ .start ∧ task = .loadedAll completion (some [])) ∨
      (∃ manager, task = .saved manager false) ∨
      ∃ manager ok, task = .loaded manager ok := by
  cases task with
  | loadedAll completion managers =>
      by_cases hstart : completion = .start
      · subst hstart
        cases (show managers = none from h)
        exact Or.inl ⟨.start, rfl⟩
      · have hmanagers : managers = none ∨ managers = some [] := by
          cases completion with
          | start => exact absurd rfl hstart
          | readStatus => exact h
          | addObserver => exact h
          | stop => exact h
        rcases hmanagers with rfl | rfl
        · exact Or.inl ⟨completion, rfl⟩
        · exact Or.inr (Or.inl ⟨completion, hstart, rfl⟩)
  | saved manager ok =>
      cases (show ok = false from h)
      exact Or.inr (Or.inr (Or.inl ⟨manager, rfl⟩))
  | loaded manager ok => exact Or.inr (Or.inr (Or.inr ⟨manager, ok, rfl⟩))
  | loadAll completion => exact h.elim
  | save manager conf => exact h.elim
  | load manager => exact h.elim

section Takes

variable (connectionOf : Manager → Connection) (ruleConf : String)

/-- The ways in which an event changes the state. -/
inductive Takes : App → VpnEvent → App → Prop
  | rejected {app : App} {hostText portText passwdText : Option String} {random : Nat}
      (hrejected :
        QLNewViewController.acceptedTexts hostText portText passwdText = none) :
      Takes app (.addDidClick hostText portText passwdText random) app
  | added {app : App} {hostText portText passwdText : Option String} {random : Nat}
      {entry : Entry} {port : Int}
      (haccepted :
        QLNewViewController.acceptedTexts hostText portText passwdText = some entry)
      (hport : intOfString entry.port = some port) :
      Takes app (.addDidClick hostText portText passwdText random)
        { app with
          defaults := ConfigManager.saveConfig entry.host entry.port entry.passwd
          config :=
            { currentProxy := some (Proxy.init "" entry.host port entry.passwd),
              proxys := [Proxy.init "" entry.host port entry.passwd] }
          tasks := app.tasks ++ app.stopRequest }
  | called {app : App} {e : VpnEvent} {completion : Completion}
      (he : e = .connect ∨ e = .startVPN ∨ e = .stopVPN)
      (hcompletion : completion = .start ∨ completion = .stop) :
      Takes app e { app with tasks := app.tasks ++ [.loadAll completion] }
  | answeredLoadAll {app : App} {completion : Completion} {ok : Bool}
      (hmem : Task.loadAll completion ∈ app.tasks) :
      Takes app (.answer (.loadAll completion) ok)
        { app with tasks := app.tasks.erase (.loadAll completion) ++
            [.loadedAll completion (if ok then some app.preferences else none)] }
  | saveFailed {app : App} {manager : Manager} {conf : Option Conf}
      (hmem : Task.save manager conf ∈ app.tasks) :
      Takes app (.answer (.save manager conf) false)
        { app with
          tasks := app.tasks.erase (.save manager conf) ++ [.saved manager false] }
  | saved {app : App} {manager : Manager} {conf : Option Conf}
      (hmem : Task.save manager conf ∈ app.tasks) :
      Takes app (.answer (.save manager conf) true)
        { app with
          preferences := storeProfile app.preferences manager conf
          tasks := app.tasks.erase (.save manager conf) ++ [.saved manager true] }
  | answeredLoad {app : App} {manager : Manager} {ok : Bool}
      (hmem : Task.load manager ∈ app.tasks) :
      Takes app (.answer (.load manager) ok)
        { app with tasks := app.tasks.erase (.load manager) ++ [.loaded manager ok] }
  | dropped {app : App} {task : Task} {starts : Bool} (hmem : task ∈ app.tasks)
      (hfruitless : task.Fruitless) :
      Takes app (.callback task starts) { app with tasks := app.tasks.erase task }
  | created {app : App} {starts : Bool}
      (hmem : Task.loadedAll .start (some []) ∈ app.tasks) :
      Takes app (.callback (.loadedAll .start (some [])) starts)
        { app with
          nextManager := app.nextManager + 1
          tasks := app.tasks.erase (.loadedAll .start (some [])) ++
            [.save app.nextManager
              (VpnManager.setConnectionConfig app.config.currentProxy ruleConf none)] }
  | reused {app : App} {profile : Profile} {rest : List Profile} {starts : Bool}
      (hmem : Task.loadedAll .start (some (profile :: rest)) ∈ app.tasks) :
      Takes app (.callback (.loadedAll .start (some (profile :: rest))) starts)
        { app with
          tasks := app.tasks.erase (.loadedAll .start (some (profile :: rest))) ++
            [.save profile.manager
              (VpnManager.setConnectionConfig app.config.currentProxy ruleConf
                profile.providerConfiguration)] }
  | statusRead {app : App} {profile : Profile} {rest : List Profile} {starts : Bool}
      (hmem : Task.loadedAll .readStatus (some (profile :: rest)) ∈ app.tasks) :
      Takes app (.callback (.loadedAll .readStatus (some (profile :: rest))) starts)
        { app with
          vpnStatus := (app.status (connectionOf profile.manager)).shown
          tasks := app.tasks.erase (.loadedAll .readStatus (some (profile :: rest))) }
  | registered {app : App} {profile : Profile} {rest : List Profile} {starts : Bool}
      (hmem : Task.loadedAll .addObserver (some (profile :: rest)) ∈ app.tasks) :
      Takes app (.callback (.loadedAll .addObserver (some (profile :: rest))) starts)
        { app with
          observerDidAdd := true
          observers := app.observers ++ [profile.manager]
          tasks := app.tasks.erase (.loadedAll .addObserver (some (profile :: rest))) }
  | stopped {app : App} {profile : Profile} {rest : List Profile} {starts : Bool}
      (hmem : Task.loadedAll .stop (some (profile :: rest)) ∈ app.tasks) :
      Takes app (.callback (.loadedAll .stop (some (profile :: rest))) starts)
        { app with
          toldToStop := Function.update app.toldToStop (connectionOf profile.manager) true
          tasks := app.tasks.erase (.loadedAll .stop (some (profile :: rest))) }
  | reload {app : App} {manager : Manager} {starts : Bool}
      (hmem : Task.saved manager true ∈ app.tasks) :
      Takes app (.callback (.saved manager true) starts)
        { app with tasks := app.tasks.erase (.saved manager true) ++ [.load manager] }
  | started {app : App} {manager : Manager}
      (hmem : Task.loaded manager true ∈ app.tasks)
      (hdown : app.status (connectionOf manager) = .disconnected ∨
        app.status (connectionOf manager) = .invalid) :
      Takes app (.callback (.loaded manager true) true)
        { app with
          tunnel := Function.update app.tunnel (connectionOf manager)
            (some (savedConfiguration app.preferences manager))
          toldToStop := Function.update app.toldToStop (connectionOf manager) false
          tasks := app.tasks.erase (.loaded manager true) ++ app.observerRequest }
  | running {app : App} {manager : Manager} {starts : Bool}
      (hmem : Task.loaded manager true ∈ app.tasks) :
      Takes app (.callback (.loaded manager true) starts)
        { app with tasks := app.tasks.erase (.loaded manager true) ++ app.observerRequest }
  | statusChanged {app : App} {connection : Connection} {status : NEVPNStatus}
      (hchange : app.status connection ≠ status) :
      Takes app (.statusChange connection status)
        (app.statusChange connectionOf connection status)
  | notified {app : App} {manager : Manager} (hmem : manager ∈ app.notifications) :
      Takes app (.notify manager)
        { app with
          vpnStatus := (app.status (connectionOf manager)).shown
          notifications := app.notifications.erase manager }

variable {connectionOf ruleConf}

/-- An accepted configuration becomes the current proxy, if its port parses. -/
theorem takes_of_addDidClick {app next : App}
    {hostText portText passwdText : Option String} {random : Nat}
    (h : app.addDidClick hostText portText passwdText random = some next) :
    Takes connectionOf ruleConf app
      (.addDidClick hostText portText passwdText random) next := by
  cases haccepted : QLNewViewController.acceptedTexts hostText portText passwdText with
  | none =>
      simp only [App.addDidClick, haccepted, Option.some.injEq] at h
      subst h
      exact .rejected haccepted
  | some entry =>
      cases hport : intOfString entry.port with
      | none =>
          simp [App.addDidClick, haccepted, App.newViewControllerDidAddConfig,
            ConfigManager.loadConfig_saved, hport] at h
      | some port =>
          simp only [App.addDidClick, haccepted, App.newViewControllerDidAddConfig,
            ConfigManager.loadConfig_saved, hport, Option.map_some,
            Option.some.injEq] at h
          subst h
          have hadded : Takes connectionOf ruleConf app
              (.addDidClick hostText portText passwdText random) _ :=
            .added haccepted hport
          by_cases hon : app.vpnStatus = .on
          · simpa [App.stopRequest, hon, App.stopVPN, App.loadProviderManager,
              App.request] using hadded
          · simpa [App.stopRequest, hon] using hadded

/-- The system carries out one request. -/
theorem takes_of_answer {app next : App} {task : Task} {ok : Bool}
    (hmem : task ∈ app.tasks) (h : app.answer task ok = some next) :
    Takes connectionOf ruleConf app (.answer task ok) next := by
  cases task with
  | loadAll completion =>
      cases h
      exact .answeredLoadAll hmem
  | save manager conf =>
      cases ok with
      | false =>
          cases h
          exact .saveFailed hmem
      | true =>
          cases h
          exact .saved hmem
  | load manager =>
      cases h
      exact .answeredLoad hmem
  | loadedAll completion managers => cases h
  | saved manager ok => cases h
  | loaded manager ok => cases h

/-- One completion handler of a `loadAllFromPreferences` runs. -/
theorem takes_of_didLoadAll {app : App} {completion : Completion}
    {managers : Option (List Profile)} {starts : Bool}
    (hmem : Task.loadedAll completion managers ∈ app.tasks) :
    Takes connectionOf ruleConf app (.callback (.loadedAll completion managers) starts)
      (App.didLoadAll connectionOf ruleConf
        { app with tasks := app.tasks.erase (.loadedAll completion managers) }
        completion managers) := by
  cases managers with
  | none =>
      cases completion
      all_goals exact .dropped hmem (by simp [Task.Fruitless])
  | some profiles =>
      cases profiles with
      | nil =>
          cases completion with
          | start => exact .created hmem
          | readStatus => exact .dropped hmem (by simp [Task.Fruitless])
          | addObserver => exact .dropped hmem (by simp [Task.Fruitless])
          | stop => exact .dropped hmem (by simp [Task.Fruitless])
      | cons profile rest =>
          cases completion with
          | start => exact .reused hmem
          | readStatus => exact .statusRead hmem
          | addObserver => exact .registered hmem
          | stop => exact .stopped hmem

/-- The last completion handler of a `startVPN` runs. -/
theorem takes_of_startVPNWithOptions {app : App} {manager : Manager} {starts : Bool}
    (hmem : Task.loaded manager true ∈ app.tasks) :
    Takes connectionOf ruleConf app (.callback (.loaded manager true) starts)
      (App.startVPNWithOptions connectionOf
        { app with tasks := app.tasks.erase (.loaded manager true) }
        manager starts) := by
  simp only [App.startVPNWithOptions, App.addVPNStatusObserver_eq]
  split
  · cases starts with
    | true => exact .started hmem ‹_›
    | false => exact .dropped hmem trivial
  · exact .running hmem

/-- **Nothing else can happen.** -/
theorem takes_of_step {app next : App} {e : VpnEvent}
    (h : App.step connectionOf ruleConf app e = some next) :
    Takes connectionOf ruleConf app e next := by
  cases e with
  | addDidClick hostText portText passwdText random => exact takes_of_addDidClick h
  | connect =>
      cases h
      unfold App.connect
      split
      · exact .called (Or.inl rfl) (Or.inl rfl)
      · exact .called (Or.inl rfl) (Or.inr rfl)
  | startVPN =>
      cases h
      exact .called (Or.inr (Or.inl rfl)) (Or.inl rfl)
  | stopVPN =>
      cases h
      exact .called (Or.inr (Or.inr rfl)) (Or.inr rfl)
  | answer task ok =>
      simp only [App.step] at h
      split at h
      · exact takes_of_answer ‹_› h
      · cases h
  | callback task starts =>
      simp only [App.step] at h
      split at h
      · rename_i hmem
        cases task with
        | loadedAll completion managers =>
            cases h
            exact takes_of_didLoadAll hmem
        | saved manager ok =>
            cases ok with
            | true =>
                cases h
                exact .reload hmem
            | false =>
                cases h
                exact .dropped hmem rfl
        | loaded manager ok =>
            cases ok with
            | true =>
                cases h
                exact takes_of_startVPNWithOptions hmem
            | false =>
                cases h
                exact .dropped hmem trivial
        | loadAll completion => cases h
        | save manager conf => cases h
        | load manager => cases h
      · cases h
  | statusChange connection status =>
      simp only [App.step] at h
      split at h
      · cases h
      · cases h
        exact .statusChanged ‹_›
  | notify manager =>
      simp only [App.step] at h
      split at h
      · cases h
        exact .notified ‹_›
      · cases h

end Takes

end QLadder
