import QLadder.InFlight
import QLadder.PacketTunnelProvider

/-!
# Starts and restarts

The callback of `setTunnelNetworkSettings` sets up everything on the first
success and replaces the server's socket and the interface on every later one;
`started`, which tells the two apart, is written by its last statement.

* `started_in_step` — in every run before a stop, between two steps, `started`
  goes with exactly one listener on port 9090, one observer and, with packet
  processing, one interface that has not been stopped; and within a callback
  there is never more than one of each, no statement traps, and a server is
  started only while the port is free.
-/

namespace QLadder

open PartialRun InFlight

namespace PacketTunnelProvider

variable {NWPath : Type}

/-- The servers listening on port 9090. -/
def listeners (provider : PacketTunnelProvider NWPath) : Nat :=
  provider.proxyServers.countP fun server => server.listening && server.port == 9090

/-- The interfaces that have not been stopped. -/
def liveInterfaces (provider : PacketTunnelProvider NWPath) : Nat :=
  provider.interfaces.countP fun interface => !interface.stopped

/-- Not more than one of each, at any point. -/
structure AtMostOne (provider : PacketTunnelProvider NWPath) : Prop where
  listeners : provider.listeners ≤ 1
  observers : provider.observers ≤ 1
  liveInterfaces : provider.liveInterfaces ≤ 1

/-- `started` goes with the server held, the listener, the observer and, with
packet processing, the interface. -/
structure InStep (provider : PacketTunnelProvider NWPath) : Prop where
  held : provider.started = true ↔ provider.proxyServer ≠ none
  listens : provider.started = true ↔ provider.listeners = 1
  observes : provider.started = true ↔ provider.observers = 1
  processes : provider.enablePacketProcessing = true →
    (provider.started = true ↔ provider.liveInterfaces = 1)

/-- Nothing has been set up. -/
structure Idle (provider : PacketTunnelProvider NWPath) : Prop where
  started : provider.started = false
  proxyServer : provider.proxyServer = none
  proxyServers : provider.proxyServers = []
  observers : provider.observers = 0
  interfaces : provider.interfaces = []

/-- The one server is listening and the observer is registered. -/
structure Listening (provider : PacketTunnelProvider NWPath) : Prop where
  proxyServer : provider.proxyServer = some 0
  proxyServers : provider.proxyServers = [{ port := 9090, listening := true }]
  observers : provider.observers = 1

/-- Every interface has been stopped. -/
def AllStopped (interfaces : List TUNInterface) : Prop :=
  ∀ interface ∈ interfaces, interface.stopped = true

/-- The last interface is held and not stopped, the others are. -/
def Processing (provider : PacketTunnelProvider NWPath) : Prop :=
  ∃ old, AllStopped old ∧ provider.interface = some old.length ∧
    provider.interfaces = old ++ [{ stopped := false }]

/-- Everything has been set up. -/
structure Running (provider : PacketTunnelProvider NWPath) : Prop where
  started : provider.started = true
  listening : provider.Listening
  enabled : provider.enablePacketProcessing = true → provider.Processing
  disabled : provider.enablePacketProcessing = false → provider.interfaces = []

/-- The invariant between two steps. -/
structure Sound (provider : PacketTunnelProvider NWPath) : Prop where
  phase : provider.Idle ∨ provider.Running
  proxyPort : provider.pendingSettings ≠ 0 → provider.proxyPort = some 9090

theorem Sound.new (enablePacketProcessing : Bool) (defaultPath : Option NWPath) :
    Sound (new enablePacketProcessing defaultPath) :=
  ⟨Or.inl ⟨rfl, rfl, rfl, rfl, rfl⟩, fun h => absurd rfl h⟩

/-! ## Counting -/

theorem countP_of_allStopped {interfaces : List TUNInterface} (h : AllStopped interfaces) :
    (interfaces.countP fun interface => !interface.stopped) = 0 := by
  rw [List.countP_eq_zero]
  intro interface hmem
  simp [h interface hmem]

theorem Processing.liveInterfaces {provider : PacketTunnelProvider NWPath}
    (h : provider.Processing) : provider.liveInterfaces = 1 := by
  obtain ⟨old, hold, _, hinterfaces⟩ := h
  simp [PacketTunnelProvider.liveInterfaces, hinterfaces, countP_of_allStopped hold]

theorem Listening.listeners {provider : PacketTunnelProvider NWPath}
    (h : provider.Listening) : provider.listeners = 1 := by
  simp [PacketTunnelProvider.listeners, h.proxyServers]

theorem Idle.atMostOne {provider : PacketTunnelProvider NWPath} (h : provider.Idle) :
    provider.AtMostOne := by
  refine ⟨?_, ?_, ?_⟩
  · simp [PacketTunnelProvider.listeners, h.proxyServers]
  · simp [h.observers]
  · simp [PacketTunnelProvider.liveInterfaces, h.interfaces]

/-- With or without packet processing, once the interface is there. -/
theorem Listening.atMostOne {provider : PacketTunnelProvider NWPath}
    (h : provider.Listening)
    (henabled : provider.enablePacketProcessing = true → provider.Processing)
    (hdisabled : provider.enablePacketProcessing = false → provider.interfaces = []) :
    provider.AtMostOne := by
  refine ⟨Nat.le_of_eq h.listeners, Nat.le_of_eq h.observers, ?_⟩
  cases henable : provider.enablePacketProcessing with
  | true => exact Nat.le_of_eq (henabled henable).liveInterfaces
  | false => simp [PacketTunnelProvider.liveInterfaces, hdisabled henable]

theorem Running.atMostOne {provider : PacketTunnelProvider NWPath} (h : provider.Running) :
    provider.AtMostOne :=
  h.listening.atMostOne h.enabled h.disabled

/-- Both phases are in step. -/
theorem Sound.inStep {provider : PacketTunnelProvider NWPath} (h : provider.Sound) :
    provider.InStep := by
  rcases h.phase with hidle | hrunning
  · refine ⟨?_, ?_, ?_, fun _ => ?_⟩
    · simp [hidle.started, hidle.proxyServer]
    · simp [hidle.started, listeners, hidle.proxyServers]
    · simp [hidle.started, hidle.observers]
    · simp [hidle.started, liveInterfaces, hidle.interfaces]
  · refine ⟨?_, ?_, ?_, fun henable => ?_⟩
    · simp [hrunning.started, hrunning.listening.proxyServer]
    · simp [hrunning.started, hrunning.listening.listeners]
    · simp [hrunning.started, hrunning.listening.observers]
    · simp [hrunning.started, (hrunning.enabled henable).liveInterfaces]

theorem Sound.atMostOne {provider : PacketTunnelProvider NWPath} (h : provider.Sound) :
    provider.AtMostOne :=
  h.phase.elim Idle.atMostOne Running.atMostOne

/-- The phase does not depend on paths, ports and what is pending. -/
theorem Sound.keep {provider next : PacketTunnelProvider NWPath} (h : provider.Sound)
    (hstarted : next.started = provider.started)
    (henable : next.enablePacketProcessing = provider.enablePacketProcessing)
    (hproxyServer : next.proxyServer = provider.proxyServer)
    (hproxyServers : next.proxyServers = provider.proxyServers)
    (hobservers : next.observers = provider.observers)
    (hinterface : next.interface = provider.interface)
    (hinterfaces : next.interfaces = provider.interfaces)
    (hport : next.pendingSettings ≠ 0 → next.proxyPort = some 9090) : next.Sound := by
  refine ⟨?_, hport⟩
  rcases h.phase with hidle | hrunning
  · left
    exact ⟨hstarted.trans hidle.started, hproxyServer.trans hidle.proxyServer,
      hproxyServers.trans hidle.proxyServers, hobservers.trans hidle.observers,
      hinterfaces.trans hidle.interfaces⟩
  · right
    have hlistening := hrunning.listening
    refine ⟨hstarted.trans hrunning.started, ⟨hproxyServer.trans hlistening.proxyServer,
      hproxyServers.trans hlistening.proxyServers,
      hobservers.trans hlistening.observers⟩, ?_, ?_⟩
    · intro hon
      unfold Processing
      rw [hinterface, hinterfaces]
      exact hrunning.enabled (henable.symm.trans hon)
    · intro hoff
      rw [hinterfaces]
      exact hrunning.disabled (henable.symm.trans hoff)

/-! ## The callback, statement by statement -/

/-- A statement finds not more than one of each, and the port free if it starts
the server. -/
def Ready (provider : PacketTunnelProvider NWPath) (statement : Statement) : Prop :=
  provider.AtMostOne ∧
    (statement = .startProxyServer → provider.portTaken 9090 = false)

/-- A statement that does not start the server only needs the counts. -/
theorem AtMostOne.ready {provider : PacketTunnelProvider NWPath} {statement : Statement}
    (h : provider.AtMostOne) (hother : statement ≠ .startProxyServer) :
    provider.Ready statement :=
  ⟨h, fun heq => absurd heq hother⟩

variable [DecidableEq NWPath] (status : NWPath → NWPathStatus)

/-- The statements run without a trap, each of them ready. -/
def Passes (provider : PacketTunnelProvider NWPath) (statements : List Statement)
    (next : PacketTunnelProvider NWPath) : Prop :=
  run (exec status) provider statements = some next ∧
    Meets (exec status) Ready provider statements

variable {status}

theorem Passes.nil (provider : PacketTunnelProvider NWPath) :
    Passes status provider [] provider :=
  ⟨rfl, trivial⟩

theorem Passes.cons {provider mid next : PacketTunnelProvider NWPath}
    {statement : Statement} {statements : List Statement}
    (hready : provider.Ready statement) (hexec : provider.exec status statement = some mid)
    (hrest : Passes status mid statements next) :
    Passes status provider (statement :: statements) next := by
  refine ⟨(run_cons hexec).trans hrest.1, hready, ?_⟩
  intro mid' hmid'
  cases hexec.symm.trans hmid'
  exact hrest.2

theorem Passes.append {provider mid next : PacketTunnelProvider NWPath}
    {first second : List Statement} (hfirst : Passes status provider first mid)
    (hsecond : Passes status mid second next) :
    Passes status provider (first ++ second) next := by
  refine ⟨?_, hfirst.2.append hfirst.1 hsecond.2⟩
  rw [run_append, hfirst.1]
  exact hsecond.1

/-- The server is set up from nothing. -/
theorem Idle.passes {provider : PacketTunnelProvider NWPath} (h : provider.Idle)
    (hport : provider.proxyPort = some 9090) :
    ∃ next, Passes status provider
        [.newProxyServer, .startProxyServer, .addObserver, .initialNotification] next ∧
      next.Listening ∧ next.interfaces = [] ∧
      next.enablePacketProcessing = provider.enablePacketProcessing ∧
      next.proxyPort = provider.proxyPort := by
  let created : PacketTunnelProvider NWPath :=
    { provider with
      proxyServer := some 0
      proxyServers := [{ port := 9090, listening := false }] }
  let accepting : PacketTunnelProvider NWPath :=
    { created with proxyServers := [{ port := 9090, listening := true }] }
  let observing : PacketTunnelProvider NWPath :=
    { accepting with observers := 1 }
  have hcreated : provider.exec status .newProxyServer = some created := by
    simp [exec, hport, h.proxyServers, created]
  have haccepting : created.exec status .startProxyServer = some accepting := by
    simp [exec, created, accepting, portTaken]
  have hobserving : accepting.exec status .addObserver = some observing := by
    simp [exec, accepting, created, observing, h.observers]
  have hinterfaces : (provider.interfaces.countP fun interface => !interface.stopped) = 0 := by
    simp [h.interfaces]
  refine ⟨observing.observeValue status, ?_, ⟨rfl, rfl, rfl⟩, h.interfaces, rfl, rfl⟩
  refine .cons (h.atMostOne.ready (by simp)) hcreated ?_
  refine .cons ⟨⟨?_, ?_, ?_⟩, fun _ => ?_⟩ haccepting ?_
  · simp [listeners, created]
  · simp [created, h.observers]
  · simp [liveInterfaces, created, hinterfaces]
  · simp [portTaken, created]
  refine .cons (AtMostOne.ready ⟨?_, ?_, ?_⟩ (by simp)) hobserving ?_
  · simp [listeners, accepting]
  · simp [accepting, created, h.observers]
  · simp [liveInterfaces, accepting, created, hinterfaces]
  refine .cons (AtMostOne.ready ⟨?_, ?_, ?_⟩ (by simp)) rfl (.nil _)
  · simp [listeners, observing, accepting]
  · simp [observing]
  · simp [liveInterfaces, observing, accepting, created, hinterfaces]

/-- The running server gets a new socket. -/
theorem Running.passes {provider : PacketTunnelProvider NWPath} (h : provider.Running) :
    Passes status provider [.stopProxyServer, .startProxyServer] provider := by
  let closed : PacketTunnelProvider NWPath :=
    { provider with proxyServers := [{ port := 9090, listening := false }] }
  have hclosed : provider.exec status .stopProxyServer = some closed := by
    simp [exec, h.listening.proxyServer, h.listening.proxyServers, closed]
  have hsame : { closed with proxyServers := [{ port := 9090, listening := true }] } =
      provider := by
    simp only [closed, ← h.listening.proxyServers]
  have hopened : closed.exec status .startProxyServer = some provider := by
    rw [← hsame]
    simp [exec, closed, h.listening.proxyServer, portTaken]
  refine .cons (h.atMostOne.ready (by simp)) hclosed ?_
  refine .cons ⟨⟨?_, ?_, ?_⟩, fun _ => ?_⟩ hopened (.nil _)
  · simp [listeners, closed]
  · exact h.atMostOne.observers
  · exact h.atMostOne.liveInterfaces
  · simp [portTaken, closed]

/-- A new interface beside stopped ones. -/
theorem Listening.passes_newInterface {provider : PacketTunnelProvider NWPath}
    (h : provider.Listening) (hstopped : AllStopped provider.interfaces) :
    ∃ next, Passes status provider [.newInterface] next ∧ next.Listening ∧
      next.Processing ∧
      next.enablePacketProcessing = provider.enablePacketProcessing ∧
      next.proxyPort = provider.proxyPort := by
  have hready : provider.Ready .newInterface := by
    refine AtMostOne.ready ⟨?_, ?_, ?_⟩ (by simp)
    · exact Nat.le_of_eq h.listeners
    · exact Nat.le_of_eq h.observers
    · simp [PacketTunnelProvider.liveInterfaces, countP_of_allStopped hstopped]
  exact ⟨_, .cons hready rfl (.nil _), ⟨h.proxyServer, h.proxyServers, h.observers⟩,
    ⟨provider.interfaces, hstopped, rfl, rfl⟩, rfl, rfl⟩

/-- The interface held is replaced. -/
theorem Running.passes_interface {provider : PacketTunnelProvider NWPath}
    (h : provider.Running) (henable : provider.enablePacketProcessing = true) :
    ∃ next, Passes status provider [.stopInterface, .newInterface] next ∧
      next.Listening ∧ next.Processing ∧
      next.enablePacketProcessing = provider.enablePacketProcessing ∧
      next.proxyPort = provider.proxyPort := by
  obtain ⟨old, hold, hinterface, hinterfaces⟩ := h.enabled henable
  let stopped : PacketTunnelProvider NWPath :=
    { provider with interfaces := old ++ [{ stopped := true }] }
  have hstop : provider.exec status .stopInterface = some stopped := by
    simp [exec, hinterface, hinterfaces, stopped]
  have hall : AllStopped stopped.interfaces := forall_sent hold rfl
  have hlistening : stopped.Listening :=
    ⟨h.listening.proxyServer, h.listening.proxyServers, h.listening.observers⟩
  obtain ⟨next, hpasses, hnext⟩ := hlistening.passes_newInterface hall
  exact ⟨next, .cons (h.atMostOne.ready (by simp)) hstop hpasses, hnext⟩

/-- The last statement. -/
theorem Listening.passes_setStarted {provider : PacketTunnelProvider NWPath}
    (h : provider.Listening)
    (henabled : provider.enablePacketProcessing = true → provider.Processing)
    (hdisabled : provider.enablePacketProcessing = false → provider.interfaces = []) :
    ∃ next, Passes status provider [.setStarted] next ∧ next.Running ∧
      next.proxyPort = provider.proxyPort := by
  have hready : provider.Ready .setStarted :=
    (h.atMostOne henabled hdisabled).ready (by simp)
  exact ⟨_, .cons hready rfl (.nil _),
    ⟨rfl, ⟨h.proxyServer, h.proxyServers, h.observers⟩, henabled, hdisabled⟩, rfl⟩

/-- A first callback sets everything up. -/
theorem Idle.callback {provider : PacketTunnelProvider NWPath} (h : provider.Idle)
    (hport : provider.proxyPort = some 9090) :
    ∃ next, Passes status provider provider.settingsStatements next ∧ next.Running ∧
      next.proxyPort = provider.proxyPort := by
  obtain ⟨mid, hserver, hlistening, hinterfaces, henable, hmidPort⟩ := h.passes hport
  unfold settingsStatements
  rw [if_pos h.started]
  cases hprocessing : provider.enablePacketProcessing with
  | true =>
      obtain ⟨late, hinterface, hlate, hprocess, hlateEnable, hlatePort⟩ :=
        hlistening.passes_newInterface (by simp [AllStopped, hinterfaces])
      obtain ⟨next, hlast, hrunning, hnextPort⟩ :=
        hlate.passes_setStarted (fun _ => hprocess)
          (fun hoff => by simp [hlateEnable, henable, hprocessing] at hoff)
      refine ⟨next, ?_, hrunning, ?_⟩
      · simpa [h.started] using (hserver.append hinterface).append hlast
      · rw [hnextPort, hlatePort, hmidPort]
  | false =>
      obtain ⟨next, hlast, hrunning, hnextPort⟩ :=
        hlistening.passes_setStarted
          (fun hon => by simp [henable, hprocessing] at hon) (fun _ => hinterfaces)
      refine ⟨next, ?_, hrunning, ?_⟩
      · simpa using hserver.append hlast
      · rw [hnextPort, hmidPort]

/-- A later callback replaces the socket and the interface. -/
theorem Running.callback {provider : PacketTunnelProvider NWPath} (h : provider.Running) :
    ∃ next, Passes status provider provider.settingsStatements next ∧ next.Running ∧
      next.proxyPort = provider.proxyPort := by
  unfold settingsStatements
  rw [if_neg (by simp [h.started])]
  cases hprocessing : provider.enablePacketProcessing with
  | true =>
      obtain ⟨late, hinterface, hlate, hprocess, hlateEnable, hlatePort⟩ :=
        h.passes_interface hprocessing
      obtain ⟨next, hlast, hrunning, hnextPort⟩ :=
        hlate.passes_setStarted (fun _ => hprocess)
          (fun hoff => by simp [hlateEnable, hprocessing] at hoff)
      refine ⟨next, ?_, hrunning, ?_⟩
      · simpa [h.started] using (h.passes.append hinterface).append hlast
      · rw [hnextPort, hlatePort]
  | false =>
      obtain ⟨next, hlast, hrunning, hnextPort⟩ :=
        h.listening.passes_setStarted
          (fun hon => by simp [hprocessing] at hon) h.disabled
      refine ⟨next, ?_, hrunning, hnextPort⟩
      simpa using h.passes.append hlast

/-! ## The runs -/

theorem Sound.observeValue {provider : PacketTunnelProvider NWPath} (h : provider.Sound) :
    (provider.observeValue status).Sound :=
  h.keep rfl rfl rfl rfl rfl rfl rfl h.proxyPort

theorem Sound.notify {provider : PacketTunnelProvider NWPath} (h : provider.Sound)
    (n : Nat) :
    (Nat.repeat (PacketTunnelProvider.observeValue status) n provider).Sound := by
  induction n with
  | zero => exact h
  | succ n ih => exact ih.observeValue

/-- A callback has everything it needs. -/
theorem Sound.callback {provider : PacketTunnelProvider NWPath} (h : provider.Sound)
    (hpending : provider.pendingSettings ≠ 0) :
    ∃ next, Passes status
        { provider with pendingSettings := provider.pendingSettings - 1 }
        (settingsStatements
          { provider with pendingSettings := provider.pendingSettings - 1 }) next ∧
      next.Running ∧ next.Sound := by
  have hport := h.proxyPort hpending
  have htaken : Sound { provider with pendingSettings := provider.pendingSettings - 1 } :=
    h.keep rfl rfl rfl rfl rfl rfl rfl fun _ => hport
  rcases htaken.phase with hidle | hrunning
  · obtain ⟨next, hpasses, hnext, hnextPort⟩ := hidle.callback hport
    exact ⟨next, hpasses, hnext, Or.inr hnext, fun _ => hnextPort.trans hport⟩
  · obtain ⟨next, hpasses, hnext, hnextPort⟩ := hrunning.callback
    exact ⟨next, hpasses, hnext, Or.inr hnext, fun _ => hnextPort.trans hport⟩

/-- Every step keeps the invariant. -/
theorem Sound.step {provider next : PacketTunnelProvider NWPath} {e : TunnelEvent NWPath}
    (h : provider.Sound) (hstep : provider.step status e = some next) : next.Sound := by
  cases e with
  | startTunnel =>
      cases hstep
      exact h.keep rfl rfl rfl rfl rfl rfl rfl fun _ => rfl
  | settingsCallback ok =>
      simp only [PacketTunnelProvider.step] at hstep
      split at hstep
      · cases hstep
      · rename_i hpending
        split at hstep
        · obtain ⟨next', hpasses, _, hsound⟩ := h.callback hpending
          cases hpasses.1.symm.trans hstep
          exact hsound
        · cases hstep
          exact h.keep rfl rfl rfl rfl rfl rfl rfl fun _ => h.proxyPort hpending
  | pathChange path =>
      cases hstep
      have hpath : Sound { provider with defaultPath := path } :=
        h.keep rfl rfl rfl rfl rfl rfl rfl h.proxyPort
      exact hpath.notify _
  | restart =>
      simp only [PacketTunnelProvider.step] at hstep
      split at hstep
      · cases hstep
      · cases hstep
        exact h.keep rfl rfl rfl rfl rfl rfl rfl fun _ => rfl

/-- So does every run. -/
theorem Sound.along {provider final : PacketTunnelProvider NWPath}
    {events : List (TunnelEvent NWPath)} (h : provider.Sound)
    (hrun : run (PacketTunnelProvider.step status) provider events = some final) :
    final.Sound := by
  refine run_preserves Sound ?_ h hrun
  intro provider e next h hstep
  exact h.step hstep

/-- **Everything in step.**  In every run before a stop, for both values of
`enablePacketProcessing`: between steps `started` goes with the server held,
exactly one listener on port 9090, exactly one observer and, with packet
processing, exactly one interface that is not stopped.  And when the next
callback runs, it neither traps nor finds more than one of these before or
after any of its statements, and starts the server while the port is free. -/
theorem started_in_step (status : NWPath → NWPathStatus) (enablePacketProcessing : Bool)
    (defaultPath : Option NWPath) (events : List (TunnelEvent NWPath))
    (final : PacketTunnelProvider NWPath)
    (hrun : run (step status) (new enablePacketProcessing defaultPath) events =
      some final) :
    final.InStep ∧ final.AtMostOne ∧
      (final.pendingSettings ≠ 0 →
        ∃ next, final.step status (.settingsCallback true) = some next ∧ next.AtMostOne ∧
          Passes status { final with pendingSettings := final.pendingSettings - 1 }
            (settingsStatements
              { final with pendingSettings := final.pendingSettings - 1 }) next) := by
  have hsound : final.Sound := (Sound.new enablePacketProcessing defaultPath).along hrun
  refine ⟨hsound.inStep, hsound.atMostOne, fun hpending => ?_⟩
  obtain ⟨next, hpasses, hrunning, _⟩ := hsound.callback hpending
  refine ⟨next, ?_, hrunning.atMostOne, hpasses⟩
  simp only [PacketTunnelProvider.step, if_neg hpending]
  exact hpasses.1

/-- Two overlapping starts with packet processing, one of which fails, then two
networks and the restart they lead to. -/
def overlappingTunnelStarts : List (TunnelEvent Nat) :=
  [.startTunnel, .startTunnel, .settingsCallback false, .settingsCallback true,
   .pathChange (some 1), .pathChange (some 2), .restart]

/-- In step, with the callback of the restart still to come. -/
theorem started_in_step_overlappingTunnelStarts :
    ∃ final, run (step fun _ => .satisfied) (new true none) overlappingTunnelStarts =
        some final ∧
      final.InStep ∧ final.started = true ∧ final.pendingSettings = 1 :=
  ⟨_, rfl, (started_in_step (fun _ => .satisfied) true none overlappingTunnelStarts _
    rfl).1, rfl, rfl⟩

end PacketTunnelProvider

end QLadder
