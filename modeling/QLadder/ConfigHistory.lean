import QLadder.PartialRun
import QLadder.ProviderConfiguration

/-!
# Histories of launches and entered configurations

A device keeps the `UserDefaults` of the app across launches and crashes.  A
history is any list of launches, presses of the add button and further loads
that is possible on a device whose store starts empty: a press or a load needs
a running process, a launch does not.

* `history_ok_iff` — a history is free of traps, and shows after every load
  exactly the entry accepted last, if and only if the port of every accepted
  entry is a text that `Int` accepts;
* `poisoned_run` — once an entry with any other port has been accepted, the
  process traps there and again on every later launch.

The add screen checks only that the three texts are not empty, and the entry
is persisted before it is converted.
-/

namespace QLadder

open Swift PartialRun

/-- A configuration as it was typed. -/
structure Entry where
  host : String
  port : String
  passwd : String
  deriving DecidableEq, Repr

/-- What the user and the controllers do. -/
inductive ConfigEvent where
  | launch (random : Nat)
  | addDidClick (hostText portText passwdText : Option String) (random : Nat)
  | loadConfig (random : Nat)
  deriving DecidableEq, Repr

inductive Process where
  | notLaunched
  | running (manager : ConfigManager)
  | trapped
  deriving DecidableEq, Repr

structure Device where
  defaults : UserDefaults
  process : Process
  deriving DecidableEq, Repr

namespace Device

/-- A new installation. -/
def fresh : Device :=
  { defaults := none, process := .notLaunched }

/-- A trap ends the process. -/
def outcome : Option ConfigManager → Process
  | some manager => .running manager
  | none => .trapped

end Device

namespace QLNewViewController

/-- The check of `addDidClick` on the three text fields. -/
def acceptedTexts (hostText portText passwdText : Option String) :
    Option Entry :=
  let host := hostText.getD ""
  let port := portText.getD ""
  let passwd := passwdText.getD ""
  if host != "" && port != "" && passwd != "" then
    some { host := host, port := port, passwd := passwd }
  else
    none

/-- `addDidClick` in a running process: `saveConfig`, then the load in
`newViewControllerDidAddConfig`. -/
def addDidClick (device : Device) (manager : ConfigManager)
    (hostText portText passwdText : Option String) (random : Nat) : Device :=
  match acceptedTexts hostText portText passwdText with
  | none => device
  | some entry =>
      let defaults := ConfigManager.saveConfig entry.host entry.port entry.passwd
      { defaults := defaults,
        process := Device.outcome (manager.loadConfig defaults random) }

end QLNewViewController

/-- The entry that a press persists, if it persists one. -/
def ConfigEvent.accepted : ConfigEvent → Option Entry
  | .addDidClick hostText portText passwdText _ =>
      QLNewViewController.acceptedTexts hostText portText passwdText
  | _ => none

namespace Device

/-- One event.  A launch starts a new process on the persisted store. -/
def step (device : Device) : ConfigEvent → Option Device
  | .launch random =>
      let defaults := ConfigManager.init device.defaults
      some { defaults := defaults,
             process := outcome (ConfigManager.fresh.loadConfig defaults random) }
  | .addDidClick hostText portText passwdText random =>
      match device.process with
      | .running manager =>
          some (QLNewViewController.addDidClick device manager hostText portText
            passwdText random)
      | _ => none
  | .loadConfig random =>
      match device.process with
      | .running manager =>
          some { device with
            process := outcome (manager.loadConfig device.defaults random) }
      | _ => none

end Device

/-- A press needs a running process. -/
theorem Device.step_addDidClick {device next : Device}
    {hostText portText passwdText : Option String} {random : Nat}
    (h : device.step (.addDidClick hostText portText passwdText random) = some next) :
    ∃ manager, device.process = .running manager ∧
      QLNewViewController.addDidClick device manager hostText portText passwdText
        random = next := by
  cases hprocess : device.process with
  | notLaunched => simp [Device.step, hprocess] at h
  | trapped => simp [Device.step, hprocess] at h
  | running manager => exact ⟨manager, rfl, by simpa [Device.step, hprocess] using h⟩

/-- A load needs a running process. -/
theorem Device.step_loadConfig {device next : Device} {random : Nat}
    (h : device.step (.loadConfig random) = some next) :
    ∃ manager, device.process = .running manager ∧
      { device with process :=
          Device.outcome (manager.loadConfig device.defaults random) } = next := by
  cases hprocess : device.process with
  | notLaunched => simp [Device.step, hprocess] at h
  | trapped => simp [Device.step, hprocess] at h
  | running manager => exact ⟨manager, rfl, by simpa [Device.step, hprocess] using h⟩

/-- The most recently accepted entry, counting `before` as accepted already. -/
def lastAccepted (before : Option Entry) : List ConfigEvent → Option Entry
  | [] => before
  | e :: es => lastAccepted (e.accepted.or before) es

/-- The process shows `entry` as its current proxy, and a tunnel started with
it runs with exactly that server. -/
def Shows (ruleConf : String) (entry : Entry) (process : Process) : Prop :=
  ∃ manager port, process = .running manager ∧
    intOfString entry.port = some port ∧
    manager.currentProxy = some (Proxy.init "" entry.host port entry.passwd) ∧
    ∀ old, PacketTunnelProvider.ssAdapterFactory
        (VpnManager.setConnectionConfig manager.currentProxy ruleConf old) =
      some { serverHost := entry.host, serverPort := port,
             password := entry.passwd, algorithm := .AES256CFB }

/-- No step of the history traps, and each state after an accepted entry shows
the entry accepted last. -/
def HistoryOk (ruleConf : String) (history : List ConfigEvent) : Prop :=
  ∀ past, past <+: history → ∀ device, run Device.step Device.fresh past = some device →
    device.process ≠ .trapped ∧
      ∀ entry, lastAccepted none past = some entry →
        Shows ruleConf entry device.process

/-- The port of every entry the event persists is one that `Int` accepts. -/
def ConfigEvent.PortParses (e : ConfigEvent) : Prop :=
  ∀ entry, e.accepted = some entry → (intOfString entry.port).isSome

/-- The store and the process agree on the entry accepted last.  Without one
the store is empty and shows the placeholder. -/
def Agree (device : Device) : Option Entry → Prop
  | none => (device.defaults = none ∨ device.defaults = some []) ∧
      device.process ≠ .trapped
  | some entry => ∃ port, intOfString entry.port = some port ∧
      device.defaults = ConfigManager.saveConfig entry.host entry.port entry.passwd ∧
      device.process = .running
        { currentProxy := some (Proxy.init "" entry.host port entry.passwd),
          proxys := [Proxy.init "" entry.host port entry.passwd] }

theorem Agree.not_trapped {device : Device} {last : Option Entry}
    (h : Agree device last) : device.process ≠ .trapped := by
  cases last with
  | none => exact h.2
  | some entry =>
      obtain ⟨port, _, _, hprocess⟩ := h
      simp [hprocess]

/-- A running process that agrees with the store still does after loading it
again. -/
theorem Agree.reload {device : Device} {last : Option Entry}
    (h : Agree device last) (manager : ConfigManager) (random : Nat) :
    Agree { device with
      process := Device.outcome (manager.loadConfig device.defaults random) }
      last := by
  cases last with
  | none =>
      refine ⟨h.1, ?_⟩
      rcases h.1 with hd | hd
      · simp [hd, ConfigManager.loadConfig, Device.outcome]
      · simp [hd, ConfigManager.loadConfig_empty, Device.outcome]
  | some entry =>
      obtain ⟨port, hport, hdefaults, _⟩ := h
      refine ⟨port, hport, hdefaults, ?_⟩
      simp [hdefaults, ConfigManager.loadConfig_saved, hport, Device.outcome]

/-- A launch keeps the agreement: `init` only fills in a missing key. -/
theorem Agree.init {device : Device} {last : Option Entry}
    (h : Agree device last) :
    Agree { device with defaults := ConfigManager.init device.defaults } last := by
  cases last with
  | none =>
      refine ⟨Or.inr ?_, h.2⟩
      rcases h.1 with hd | hd <;> simp [hd, ConfigManager.init]
  | some entry =>
      obtain ⟨port, hport, hdefaults, hprocess⟩ := h
      refine ⟨port, hport, ?_, hprocess⟩
      simp [hdefaults, ConfigManager.init, ConfigManager.saveConfig]

/-- One event whose port parses keeps the agreement. -/
theorem Agree.step {device next : Device} {last : Option Entry} {e : ConfigEvent}
    (h : Agree device last) (hparses : e.PortParses)
    (hstep : device.step e = some next) : Agree next (e.accepted.or last) := by
  cases e with
  | launch random =>
      cases hstep
      exact h.init.reload ConfigManager.fresh random
  | loadConfig random =>
      obtain ⟨manager, _, rfl⟩ := Device.step_loadConfig hstep
      exact h.reload manager random
  | addDidClick hostText portText passwdText random =>
      obtain ⟨manager, _, rfl⟩ := Device.step_addDidClick hstep
      cases haccepted :
          QLNewViewController.acceptedTexts hostText portText passwdText with
      | none =>
          simpa [QLNewViewController.addDidClick, ConfigEvent.accepted,
            haccepted] using h
      | some entry =>
          obtain ⟨port, hport⟩ :=
            Option.isSome_iff_exists.mp (hparses entry haccepted)
          have hlast : (ConfigEvent.addDidClick hostText portText passwdText
              random).accepted.or last = some entry := by
            simp [ConfigEvent.accepted, haccepted]
          rw [hlast]
          refine ⟨port, hport, ?_, ?_⟩
          · simp [QLNewViewController.addDidClick, haccepted]
          · simp [QLNewViewController.addDidClick, haccepted,
              ConfigManager.loadConfig_saved, hport, Device.outcome]

/-- The agreement holds after every history whose ports parse. -/
theorem Agree.run {device final : Device} {last : Option Entry}
    {es : List ConfigEvent} (h : Agree device last)
    (hparses : ∀ e ∈ es, e.PortParses)
    (hrun : run Device.step device es = some final) :
    Agree final (lastAccepted last es) := by
  induction es generalizing device last with
  | nil =>
      cases hrun
      exact h
  | cons e es ih =>
      obtain ⟨next, hstep, hrest⟩ := run_cons_some hrun
      exact ih (h.step (hparses e List.mem_cons_self) hstep)
        (fun e' he' => hparses e' (List.mem_cons_of_mem e he')) hrest

theorem Agree.shows {device : Device} {entry : Entry} (ruleConf : String)
    (h : Agree device (some entry)) : Shows ruleConf entry device.process := by
  obtain ⟨port, hport, _, hprocess⟩ := h
  exact ⟨_, port, hprocess, hport, rfl, fun old =>
    PacketTunnelProvider.ssAdapterFactory_setConnectionConfig _ _ _ _ _ old⟩

/-- Accepting an entry whose port does not parse traps in the load that
follows, after the entry has been persisted. -/
theorem accept_unparsable {device next : Device} {e : ConfigEvent} {entry : Entry}
    (hstep : device.step e = some next) (haccepted : e.accepted = some entry)
    (hport : intOfString entry.port = none) :
    next.defaults = ConfigManager.saveConfig entry.host entry.port entry.passwd ∧
      next.process = .trapped := by
  cases e with
  | launch random => simp [ConfigEvent.accepted] at haccepted
  | loadConfig random => simp [ConfigEvent.accepted] at haccepted
  | addDidClick hostText portText passwdText random =>
      obtain ⟨manager, _, rfl⟩ := Device.step_addDidClick hstep
      simp only [ConfigEvent.accepted] at haccepted
      simp [QLNewViewController.addDidClick, haccepted,
        ConfigManager.loadConfig_saved, hport, Device.outcome]

/-- The process has trapped and the store holds the entry that made it. -/
def Poisoned (device : Device) : Prop :=
  device.process = .trapped ∧ ∃ host port passwd,
    device.defaults = ConfigManager.saveConfig host port passwd ∧
      intOfString port = none

/-- **The crash loop.**  A poisoned store traps again on every later launch, and
nothing short of a launch is possible. -/
theorem poisoned_run {device final : Device} {es : List ConfigEvent}
    (h : Poisoned device) (hrun : run Device.step device es = some final) :
    Poisoned final := by
  refine run_preserves Poisoned ?_ h hrun
  rintro device e next ⟨hprocess, host, port, passwd, hdefaults, hport⟩ hstep
  cases e with
  | addDidClick hostText portText passwdText random =>
      simp [Device.step, hprocess] at hstep
  | loadConfig random => simp [Device.step, hprocess] at hstep
  | launch random =>
      cases hstep
      have hinit : ConfigManager.init device.defaults =
          ConfigManager.saveConfig host port passwd := by
        simp [hdefaults, ConfigManager.init, ConfigManager.saveConfig]
      refine ⟨?_, host, port, passwd, hinit, hport⟩
      simp [hinit, ConfigManager.loadConfig_saved, hport, Device.outcome]

/-- **Exactly the parsable ports are safe.**  A history never traps and always
shows the entry accepted last if and only if `Int` accepts the port of every
accepted entry. -/
theorem history_ok_iff (ruleConf : String) (history : List ConfigEvent)
    (final : Device) (hrun : run Device.step Device.fresh history = some final) :
    HistoryOk ruleConf history ↔ ∀ e ∈ history, e.PortParses := by
  constructor
  · intro hok e he entry haccepted
    obtain ⟨past, rest, rfl⟩ := List.append_of_mem he
    have hsplit : past ++ e :: rest = (past ++ [e]) ++ rest := by simp
    rw [hsplit] at hrun
    obtain ⟨next, hnext, _⟩ := run_append_some hrun
    obtain ⟨device, _, hlast⟩ := run_append_some hnext
    obtain ⟨next', hstep, hnil⟩ := run_cons_some hlast
    cases hnil
    cases hport : intOfString entry.port with
    | some port => rfl
    | none =>
        have htrap := (accept_unparsable hstep haccepted hport).2
        exact absurd htrap (hok (past ++ [e]) ⟨rest, hsplit.symm⟩ next hnext).1
  · rintro hparses past ⟨rest, rfl⟩ device hdevice
    have hfresh : Agree Device.fresh none := ⟨Or.inl rfl, by simp [Device.fresh]⟩
    have hagree : Agree device (lastAccepted none past) :=
      hfresh.run (fun e he => hparses e (List.mem_append_left rest he)) hdevice
    refine ⟨hagree.not_trapped, fun entry hentry => ?_⟩
    rw [hentry] at hagree
    exact hagree.shows ruleConf

/-- A press after a launch, with a port `Int` accepts. -/
theorem history_ok_iff_port_443 :
    HistoryOk "" [.launch 0, .addDidClick (some "10.0.0.1") (some "443") (some "pw") 0] ↔
      ∀ e ∈ [ConfigEvent.launch 0,
        .addDidClick (some "10.0.0.1") (some "443") (some "pw") 0], e.PortParses :=
  history_ok_iff "" _ _ rfl

/-- Twenty digits typed on the number pad overflow `Int`: the add screen
accepts them and the process traps. -/
theorem number_pad_overflow_traps :
    ¬ HistoryOk "" [.launch 0,
      .addDidClick (some "10.0.0.1") (some "99999999999999999999") (some "pw") 0] := by
  intro hok
  exact (hok _ (List.prefix_refl _) _ rfl).1 rfl

end QLadder
