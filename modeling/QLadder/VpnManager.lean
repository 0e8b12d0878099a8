import Mathlib.Logic.Function.Basic
import QLadder.PartialRun
import QLadder.ConfigHistory

/-!
# VpnManager and the system's VPN preferences

The state machine of the app side of the VPN: `VpnManager`, the configuration
store behind it, the stored VPN profiles, the connections of the system and
the main queue.  The system answers a preference request in two steps.  First
it carries the request out (`answer`): a load takes a snapshot of the stored
profiles, a save writes one.  Later it delivers the completion handler
(`callback`), which runs as one block.  Requests in flight are independent of
each other, so any of them may be the next to advance.

A manager is known by the profile it stands for; `connectionOf` gives the
connection of a manager, and nothing is assumed about it here.  A connection's
status changes whenever the system likes.  Each change queues one block for
every observer registered at that moment, and the block reads the status when
it runs.

`Takes` lists everything a step can do; every invariant of this machine is an
induction whose step is a case analysis of `Takes`.
-/

namespace QLadder

open Swift PartialRun

/-- `NEVPNStatus`. -/
inductive NEVPNStatus where
  | invalid
  | disconnected
  | connecting
  | connected
  | reasserting
  | disconnecting
  deriving DecidableEq, Repr

/-- The status the app shows. -/
inductive VpnStatus where
  | off
  | connecting
  | on
  | disconnecting
  deriving DecidableEq, Repr

abbrev Manager := Nat
abbrev Connection := Nat

/-- A stored VPN profile: its manager and its saved provider configuration. -/
structure Profile where
  manager : Manager
  providerConfiguration : Option Conf
  deriving DecidableEq, Repr

/-- What waits for the managers of a `loadAllFromPreferences`. -/
inductive Completion where
  /-- `updateVPNStatus`, in `init` -/
  | readStatus
  /-- the registration in `addVPNStatusObserver` -/
  | addObserver
  /-- `loadAndCreateProviderManager`, for `startVPN` -/
  | start
  /-- `stopVPNTunnel`, in `stopVPN` -/
  | stop
  deriving DecidableEq, Repr

/-- A preference request in flight: sent, or carried out with its completion
handler still to run. -/
inductive Task where
  | loadAll (completion : Completion)
  | loadedAll (completion : Completion) (managers : Option (List Profile))
  | save (manager : Manager) (providerConfiguration : Option Conf)
  | saved (manager : Manager) (ok : Bool)
  | load (manager : Manager)
  | loaded (manager : Manager) (ok : Bool)
  deriving DecidableEq, Repr

/-- The app, the stored profiles and the connections. -/
structure App where
  defaults : UserDefaults
  config : ConfigManager
  vpnStatus : VpnStatus
  observerDidAdd : Bool
  /-- the managers held by the registered observer blocks -/
  observers : List Manager
  /-- the stored profiles, in the order of storing -/
  preferences : List Profile
  /-- the next `NETunnelProviderManager()` -/
  nextManager : Manager
  status : Connection → NEVPNStatus
  /-- what the tunnel of a connection was started with, until it goes down: the
  provider configuration saved at that moment -/
  tunnel : Connection → Option (Option Conf)
  /-- `stopVPNTunnel` was called for a connection since its last start; the
  status follows when the system changes it -/
  toldToStop : Connection → Bool
  tasks : List Task
  /-- queued observer blocks, by the manager they read -/
  notifications : List Manager

/-- The events of the user, of the app's controllers and of the system. -/
inductive VpnEvent where
  | addDidClick (hostText portText passwdText : Option String) (random : Nat)
  | connect
  | startVPN
  | stopVPN
  /-- the system carries out a request -/
  | answer (task : Task) (ok : Bool)
  /-- a completion handler runs; `starts` tells whether `startVPNTunnel`, if
  it is called, returns without throwing -/
  | callback (task : Task) (starts : Bool)
  | statusChange (connection : Connection) (status : NEVPNStatus)
  /-- an observer block runs -/
  | notify (manager : Manager)
  deriving DecidableEq, Repr

/-- The `switch` of `updateVPNStatus`. -/
def NEVPNStatus.shown : NEVPNStatus → VpnStatus
  | .connected => .on
  | .connecting | .reasserting => .connecting
  | .disconnecting => .disconnecting
  | .disconnected | .invalid => .off

/-- A tunnel is up or coming up. -/
def NEVPNStatus.active : NEVPNStatus → Bool
  | .connecting | .connected | .reasserting => true
  | .invalid | .disconnected | .disconnecting => false

/-- The stored profiles after a save: the profile of the manager is replaced,
and a manager without one stores a new profile. -/
def storeProfile (preferences : List Profile) (manager : Manager)
    (providerConfiguration : Option Conf) : List Profile :=
  if preferences.any fun profile => profile.manager == manager then
    preferences.map fun profile =>
      if profile.manager = manager then
        { profile with providerConfiguration := providerConfiguration }
      else
        profile
  else
    preferences ++ [{ manager := manager, providerConfiguration := providerConfiguration }]

/-- The saved provider configuration of a manager. -/
def savedConfiguration (preferences : List Profile) (manager : Manager) :
    Option Conf :=
  (preferences.find? fun profile => profile.manager == manager).bind
    Profile.providerConfiguration

namespace App

/-- Send a preference request. -/
def request (app : App) (task : Task) : App :=
  { app with tasks := app.tasks ++ [task] }

/-- `loadProviderManager`. -/
def loadProviderManager (app : App) (completion : Completion) : App :=
  app.request (.loadAll completion)

/-- `addVPNStatusObserver`. -/
def addVPNStatusObserver (app : App) : App :=
  if app.observerDidAdd then app else app.loadProviderManager .addObserver

/-- `startVPN`: the load of `loadAndCreateProviderManager`. -/
def startVPN (app : App) : App :=
  app.request (.loadAll .start)

/-- `stopVPN`. -/
def stopVPN (app : App) : App :=
  app.loadProviderManager .stop

/-- `QLHomeViewController.connect`. -/
def connect (app : App) : App :=
  if app.vpnStatus = .off then app.startVPN else app.stopVPN

/-- `newViewControllerDidAddConfig`: load the configuration, then stop a VPN
that is shown as on. -/
def newViewControllerDidAddConfig (app : App) (random : Nat) : Option App :=
  (app.config.loadConfig app.defaults random).map fun config =>
    let app := { app with config := config }
    if app.vpnStatus = .on then app.stopVPN else app

/-- `addDidClick`; `none` if the load traps. -/
def addDidClick (app : App) (hostText portText passwdText : Option String)
    (random : Nat) : Option App :=
  match QLNewViewController.acceptedTexts hostText portText passwdText with
  | none => some app
  | some entry =>
      let defaults := ConfigManager.saveConfig entry.host entry.port entry.passwd
      { app with defaults := defaults }.newViewControllerDidAddConfig random

/-- The system carries out a request. -/
def answer (app : App) (task : Task) (ok : Bool) : Option App :=
  let app' := { app with tasks := app.tasks.erase task }
  match task with
  | .loadAll completion =>
      some (app'.request
        (.loadedAll completion (if ok then some app.preferences else none)))
  | .save manager conf =>
      let preferences :=
        if ok then storeProfile app.preferences manager conf else app.preferences
      some ({ app' with preferences := preferences }.request (.saved manager ok))
  | .load manager => some (app'.request (.loaded manager ok))
  | _ => none

/-- The system changes a status: the tunnel of a connection that was active
and no longer is has gone down, and every observer of the connection is
posted a notification. -/
def statusChange (connectionOf : Manager → Connection) (app : App)
    (connection : Connection) (status : NEVPNStatus) : App :=
  let down := (app.status connection).active && !status.active
  { app with
    status := Function.update app.status connection status
    tunnel := if down then Function.update app.tunnel connection none else app.tunnel
    toldToStop :=
      if down then Function.update app.toldToStop connection false else app.toldToStop
    notifications := app.notifications ++
      app.observers.filter fun manager => connectionOf manager = connection }

end App

section Machine

variable (connectionOf : Manager → Connection) (ruleConf : String)

namespace App

/-- `updateVPNStatus`. -/
def updateVPNStatus (app : App) (manager : Manager) : App :=
  { app with vpnStatus := (app.status (connectionOf manager)).shown }

/-- `startVPNTunnel`: the system runs a tunnel with the configuration saved
now.  The status follows when the system changes it. -/
def startVPNTunnel (app : App) (manager : Manager) : App :=
  { app with
    tunnel := Function.update app.tunnel (connectionOf manager)
      (some (savedConfiguration app.preferences manager))
    toldToStop := Function.update app.toldToStop (connectionOf manager) false }

/-- `stopVPNTunnel`: the tunnel runs on until the system changes the status. -/
def stopVPNTunnel (app : App) (manager : Manager) : App :=
  { app with toldToStop := Function.update app.toldToStop (connectionOf manager) true }

/-- The completion handler of `loadAndCreateProviderManager`: reuse the first
manager or create one, write the connection configuration and save. -/
def loadAndCreateProviderManager (app : App) : Option (List Profile) → App
  | none => app
  | some [] =>
      let manager := app.nextManager
      let conf := VpnManager.setConnectionConfig app.config.currentProxy ruleConf none
      { app with nextManager := manager + 1 }.request (.save manager conf)
  | some (profile :: _) =>
      let conf := VpnManager.setConnectionConfig app.config.currentProxy ruleConf
        profile.providerConfiguration
      app.request (.save profile.manager conf)

/-- The completion handler of a `loadAllFromPreferences`; all but the one of
`startVPN` go through `loadProviderManager`, which passes on the first
manager. -/
def didLoadAll (app : App) (completion : Completion)
    (managers : Option (List Profile)) : App :=
  match completion, managers with
  | .start, managers => loadAndCreateProviderManager ruleConf app managers
  | .readStatus, some (profile :: _) => updateVPNStatus connectionOf app profile.manager
  | .addObserver, some (profile :: _) =>
      { app with
        observerDidAdd := true
        observers := app.observers ++ [profile.manager] }
  | .stop, some (profile :: _) => stopVPNTunnel connectionOf app profile.manager
  | _, _ => app

/-- The end of `startVPNWithOptions`, for a manager that has been saved and
loaded back. -/
def startVPNWithOptions (app : App) (manager : Manager) (starts : Bool) : App :=
  let status := app.status (connectionOf manager)
  if status = .disconnected ∨ status = .invalid then
    if starts then (startVPNTunnel connectionOf app manager).addVPNStatusObserver
    else app
  else
    app.addVPNStatusObserver

/-- A completion handler runs. -/
def callback (app : App) (task : Task) (starts : Bool) : Option App :=
  let app' := { app with tasks := app.tasks.erase task }
  match task with
  | .loadedAll completion managers =>
      some (didLoadAll connectionOf ruleConf app' completion managers)
  | .saved manager true => some (app'.request (.load manager))
  | .saved _ false => some app'
  | .loaded manager true => some (startVPNWithOptions connectionOf app' manager starts)
  | .loaded _ false => some app'
  | _ => none

/-- One event. -/
def step (app : App) : VpnEvent → Option App
  | .addDidClick hostText portText passwdText random =>
      app.addDidClick hostText portText passwdText random
  | .connect => some app.connect
  | .startVPN => some app.startVPN
  | .stopVPN => some app.stopVPN
  | .answer task ok => if task ∈ app.tasks then app.answer task ok else none
  | .callback task starts =>
      if task ∈ app.tasks then callback connectionOf ruleConf app task starts else none
  | .statusChange connection status =>
      if app.status connection = status then none
      else some (statusChange connectionOf app connection status)
  | .notify manager =>
      if manager ∈ app.notifications then
        some { updateVPNStatus connectionOf app manager with
          notifications := app.notifications.erase manager }
      else
        none

/-- `VpnManager.init` in a fresh process: the status is read once, and the
observer is registered, each after its own load. -/
def launch (defaults : UserDefaults) (config : ConfigManager)
    (preferences : List Profile) (nextManager : Manager)
    (status : Connection → NEVPNStatus)
    (tunnel : Connection → Option (Option Conf)) : App :=
  ({ defaults := defaults, config := config, vpnStatus := .off,
     observerDidAdd := false, observers := [], preferences := preferences,
     nextManager := nextManager, status := status, tunnel := tunnel,
     toldToStop := fun _ => false, tasks := [], notifications := [] } : App)
    |>.loadProviderManager .readStatus
    |>.addVPNStatusObserver

end App

end Machine

end QLadder
