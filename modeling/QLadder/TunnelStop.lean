import QLadder.TunnelStart

/-!
# Stopping

`stopTunnel` unwraps `proxyServer` and, with packet processing, `interface`.
Both are assigned only in the callback of `setTunnelNetworkSettings`, and only
if that reports a success.

* `stop_completes_iff` — in every run before it, a stop gets to its completion
  handler if and only if one of the callbacks so far has reported a success;
* `stop_before_settings_traps` — a stop that comes before the first callback
  unwraps `nil`.
-/

namespace QLadder

open PartialRun

namespace PacketTunnelProvider

variable {NWPath : Type} [DecidableEq NWPath] (status : NWPath → NWPathStatus)

/-- A stop at this point gets to its completion handler. -/
def StopCompletes (provider : PacketTunnelProvider NWPath) : Prop :=
  ∃ stopped, provider.stopTunnel status = some stopped

instance (provider : PacketTunnelProvider NWPath) :
    Decidable (provider.StopCompletes status) :=
  decidable_of_iff ((provider.stopTunnel status).isSome = true) Option.isSome_iff_exists

/-- The listener is closed. -/
theorem Listening.stopProxyServer {provider : PacketTunnelProvider NWPath}
    (h : provider.Listening) :
    provider.exec status .stopProxyServer =
      some { provider with proxyServers := [{ port := 9090, listening := false }] } := by
  simp [exec, h.proxyServer, h.proxyServers]

/-- The interface held was the last one not stopped. -/
theorem Processing.stopInterface {provider : PacketTunnelProvider NWPath}
    (h : provider.Processing) :
    ∃ interfaces, provider.exec status .stopInterface =
        some { provider with interfaces := interfaces } ∧ AllStopped interfaces := by
  obtain ⟨old, hold, hinterface, hinterfaces⟩ := h
  refine ⟨old ++ [{ stopped := true }], ?_, InFlight.forall_sent hold rfl⟩
  simp [exec, hinterface, hinterfaces]

variable {status}

/-- Without a server there is nothing to stop. -/
theorem Idle.stopTunnel {provider : PacketTunnelProvider NWPath} (h : provider.Idle) :
    provider.stopTunnel status = none := by
  have hserver : ∀ other : PacketTunnelProvider NWPath, other.proxyServer = none →
      other.exec status .stopProxyServer = none := by
    intro other hnone
    simp [exec, hnone]
  unfold PacketTunnelProvider.stopTunnel
  cases henable : provider.enablePacketProcessing with
  | false => simp [hserver provider h.proxyServer]
  | true =>
      cases hinterface : provider.interface with
      | none => simp [exec, hinterface]
      | some index =>
          have hstop : provider.exec status .stopInterface =
              some { provider with
                interfaces := provider.interfaces.set index { stopped := true } } := by
            simp [exec, hinterface]
          simp [hstop, hserver, h.proxyServer]

/-- A stop takes everything down. -/
theorem Running.stopTunnel {provider : PacketTunnelProvider NWPath} (h : provider.Running) :
    ∃ stopped, provider.stopTunnel status = some stopped ∧ stopped.proxyServer = none ∧
      stopped.listeners = 0 ∧ stopped.liveInterfaces = 0 := by
  unfold PacketTunnelProvider.stopTunnel
  have hclosed : ∀ interface interfaces,
      ({ provider with
          interface := interface
          interfaces := interfaces
          proxyServers := [{ port := 9090, listening := false }]
          proxyServer := none } : PacketTunnelProvider NWPath).listeners = 0 := by
    intro interface interfaces
    simp [listeners]
  cases henable : provider.enablePacketProcessing with
  | false =>
      have hnone : provider.interfaces = [] := h.disabled henable
      refine ⟨_, ?_, rfl, hclosed provider.interface provider.interfaces, ?_⟩
      · simp [h.listening.stopProxyServer]
      · simp [liveInterfaces, hnone]
  | true =>
      obtain ⟨interfaces, hstop, hall⟩ := (h.enabled henable).stopInterface status
      have hlistening : Listening { provider with
          interface := none
          interfaces := interfaces } :=
        ⟨h.listening.proxyServer, h.listening.proxyServers, h.listening.observers⟩
      refine ⟨_, ?_, rfl, hclosed none interfaces, countP_of_allStopped hall⟩
      simp [hstop, hlistening.stopProxyServer]

/-- Everything is set up by a callback that reports a success, and by nothing
else. -/
theorem Sound.started_step {provider next : PacketTunnelProvider NWPath}
    {e : TunnelEvent NWPath} (h : provider.Sound)
    (hstep : provider.step status e = some next) :
    next.started = true ↔ provider.started = true ∨ e = .settingsCallback true := by
  have hnotify : ∀ (n : Nat) (other : PacketTunnelProvider NWPath),
      (Nat.repeat (PacketTunnelProvider.observeValue status) n other).started =
        other.started := by
    intro n other
    induction n with
    | zero => rfl
    | succ n ih => exact ih
  cases e with
  | startTunnel =>
      cases hstep
      simp [PacketTunnelProvider.startTunnel]
  | settingsCallback ok =>
      simp only [PacketTunnelProvider.step] at hstep
      split at hstep
      · cases hstep
      · rename_i hpending
        cases ok with
        | true =>
            obtain ⟨next', hpasses, hrunning, _⟩ := h.callback hpending
            cases hpasses.1.symm.trans hstep
            simp [hrunning.started]
        | false =>
            cases hstep
            simp
  | pathChange path =>
      cases hstep
      simp [hnotify]
  | restart =>
      simp only [PacketTunnelProvider.step] at hstep
      split at hstep
      · cases hstep
      · cases hstep
        simp [PacketTunnelProvider.startTunnel]

/-- Along a run: everything is set up once a callback has reported a success. -/
theorem Sound.started_along {provider final : PacketTunnelProvider NWPath}
    {events : List (TunnelEvent NWPath)} (h : provider.Sound)
    (hrun : run (PacketTunnelProvider.step status) provider events = some final) :
    final.started = true ↔
      provider.started = true ∨ TunnelEvent.settingsCallback true ∈ events := by
  induction events generalizing provider with
  | nil =>
      cases hrun
      simp
  | cons e events ih =>
      obtain ⟨next, hstep, hrest⟩ := run_cons_some hrun
      have hnext := h.started_step hstep
      rw [ih (h.step hstep) hrest, hnext, List.mem_cons, or_assoc]
      constructor
      · rintro (hstarted | rfl | hlater)
        · exact Or.inl hstarted
        · exact Or.inr (Or.inl rfl)
        · exact Or.inr (Or.inr hlater)
      · rintro (hstarted | hhere | hlater)
        · exact Or.inl hstarted
        · exact Or.inr (Or.inl hhere.symm)
        · exact Or.inr (Or.inr hlater)

/-- What a stop needs is what `started` stands for. -/
theorem Sound.stopCompletes_iff {provider : PacketTunnelProvider NWPath}
    (h : provider.Sound) : provider.StopCompletes status ↔ provider.started = true := by
  rcases h.phase with hidle | hrunning
  · have hnone : provider.stopTunnel status = none := hidle.stopTunnel
    simp [StopCompletes, hnone, hidle.started]
  · obtain ⟨stopped, hstop, _⟩ := hrunning.stopTunnel
    exact iff_of_true ⟨stopped, hstop⟩ hrunning.started

/-- **Exactly when a stop is safe.**  After every run, for both values of
`enablePacketProcessing`: a stop gets to its completion handler if and only if
a callback of the run has reported a success. -/
theorem stop_completes_iff (status : NWPath → NWPathStatus) (enablePacketProcessing : Bool)
    (defaultPath : Option NWPath) (events : List (TunnelEvent NWPath))
    (final : PacketTunnelProvider NWPath)
    (hrun : run (step status) (new enablePacketProcessing defaultPath) events =
      some final) :
    final.StopCompletes status ↔ TunnelEvent.settingsCallback true ∈ events := by
  have hnew : Sound (new enablePacketProcessing defaultPath) :=
    Sound.new enablePacketProcessing defaultPath
  have hfinal : final.Sound := hnew.along hrun
  have hstarted := hnew.started_along hrun
  rw [hfinal.stopCompletes_iff, hstarted]
  simp [new]

/-- A stop while a restart waits for its settings. -/
theorem stop_completes_iff_duringRestart :
    ∃ final : PacketTunnelProvider Nat,
      run (step fun _ => .satisfied) (new true none) overlappingTunnelStarts = some final ∧
      final.pendingSettings = 1 ∧ final.StopCompletes fun _ => .satisfied :=
  ⟨_, rfl, rfl, (stop_completes_iff (fun _ => .satisfied) true none
    overlappingTunnelStarts _ rfl).mpr (by decide)⟩

/-- **A stop too early.**  Before the first callback, and after one that reports
an error, a stop unwraps `nil`. -/
theorem stop_before_settings_traps :
    (∃ final : PacketTunnelProvider Nat,
      run (step fun _ => .satisfied) (new false none) [.startTunnel] = some final ∧
        ¬ final.StopCompletes fun _ => .satisfied) ∧
    ∃ final : PacketTunnelProvider Nat,
      run (step fun _ => .satisfied) (new true none)
        [.startTunnel, .settingsCallback false] = some final ∧
        ¬ final.StopCompletes fun _ => .satisfied := by
  refine ⟨⟨_, rfl, ?_⟩, ⟨_, rfl, ?_⟩⟩
  · decide
  · decide

end PacketTunnelProvider

end QLadder
