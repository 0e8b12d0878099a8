import Mathlib.Data.List.Nodup
import QLadder.InParallel
import QLadder.TunnelClose
import QLadder.TunnelRelay

/-!
# The proxy server

A `GCDHTTPProxyServer` keeps a tunnel for every connection that it has accepted, until
the tunnel says that it has closed.  The connections share a queue, the server and the
rules:

* `connections_apart` — its tunnels are, in the order of their acceptance, the
  connections that have not closed, each as if it had run alone on its own events;
* `stop_tells_all` — after `stop` every connection that was accepted before it and is left
  is cancelled, and its sockets have been told to disconnect or have gone.
-/

namespace QLadder

open PartialRun InParallel

structure GCDHTTPProxyServer where
  /-- the tunnels, with the number of their connection -/
  tunnels : List (Nat × Tunnel)
  accepted : Nat
  deriving DecidableEq, Repr

inductive ProxyServerEvent where
  | start
  | stop
  | didAcceptNewSocket
  | tunnel (id : Nat) (event : RelayEvent)
  deriving DecidableEq, Repr

namespace GCDHTTPProxyServer

def init : GCDHTTPProxyServer :=
  { tunnels := [], accepted := 0 }

def didAcceptNewSocket (server : GCDHTTPProxyServer) : GCDHTTPProxyServer :=
  { server with
    tunnels := server.tunnels ++ [(server.accepted, Tunnel.accepted)]
    accepted := server.accepted + 1 }

/-- `tunnelDidClose`: the tunnel is removed at its first index. -/
def tunnelDidClose (server : GCDHTTPProxyServer) (id : Nat) : GCDHTTPProxyServer :=
  { server with tunnels := server.tunnels.eraseP fun tunnel => tunnel.1 = id }

variable (lib : ProxyLibraries) (manager : RuleManager)

/-- An event of one tunnel, which may call `tunnelDidClose`. -/
def deliver (server : GCDHTTPProxyServer) (id : Nat) (event : RelayEvent) :
    Option GCDHTTPProxyServer :=
  (server.tunnels.find? fun tunnel => tunnel.1 = id).bind fun found =>
    (found.2.step lib manager event).map fun after =>
      let server := { server with
        tunnels := server.tunnels.map fun tunnel =>
          if tunnel.1 = id then (id, after) else tunnel }
      if found.2.didClose < after.didClose then server.tunnelDidClose id else server

/-- The loop of `stop`, over the tunnels there are when it begins. -/
def forceCloseAll (server : GCDHTTPProxyServer) : List (Nat × Tunnel) → GCDHTTPProxyServer
  | [] => server
  | (id, _) :: tunnels =>
      forceCloseAll ((server.deliver lib manager id .forceClose).getD server) tunnels

def stop (server : GCDHTTPProxyServer) : GCDHTTPProxyServer :=
  forceCloseAll lib manager server server.tunnels

/-- One event; a tunnel that has been removed does nothing any more. -/
def step (server : GCDHTTPProxyServer) : ProxyServerEvent → Option GCDHTTPProxyServer
  | .start => some server
  | .stop => some (server.stop lib manager)
  -- the call may have been queued before a `stop`
  | .didAcceptNewSocket => some server.didAcceptNewSocket
  | .tunnel id event =>
      if event = .forceClose then none else server.deliver lib manager id event

/-! ## Connections side by side -/

/-- What an event is to the connections. -/
def parallel : ProxyServerEvent → List (Event RelayEvent)
  | .start => []
  | .stop => [.all]
  | .didAcceptNewSocket => [.start]
  | .tunnel id event => [.one id event]

/-- The tunnel has closed. -/
def ended (tunnel : Tunnel) : Bool :=
  0 < tunnel.didClose

/-- The events of a connection, in which a `stop` of the server is a `forceClose`. -/
def told (id : Nat) (events : List ProxyServerEvent) : List RelayEvent :=
  heard .forceClose id 0 (events.flatMap parallel)

/-- A connection that has run alone on its own events, unless it has closed. -/
def connection (events : List ProxyServerEvent) (id : Nat) : Option (Nat × Tunnel) :=
  (run (Tunnel.step lib manager) Tunnel.accepted (told id events)).bind (keep ended id)

variable {lib manager}

/-! ### Lists with distinct keys -/

section Keys

variable {α : Type _}

theorem map_eq_filterMap (tunnels : List (Nat × α)) (id : Nat) (after : α) :
    (tunnels.map fun tunnel => if tunnel.1 = id then (id, after) else tunnel) =
      tunnels.filterMap fun tunnel => if tunnel.1 = id then some (id, after) else some tunnel := by
  rw [← List.filterMap_eq_map]
  congr 1
  funext tunnel
  by_cases hid : tunnel.1 = id <;> simp [hid]

/-- Erasing the only tunnel of a number. -/
theorem eraseP_eq_filterMap {tunnels : List (Nat × α)} (id : Nat) (after : α)
    (hnodup : (tunnels.map Prod.fst).Nodup) :
    ((tunnels.map fun tunnel => if tunnel.1 = id then (id, after) else tunnel).eraseP
        fun tunnel => tunnel.1 = id) =
      tunnels.filterMap fun tunnel => if tunnel.1 = id then none else some tunnel := by
  induction tunnels with
  | nil => rfl
  | cons tunnel tunnels ih =>
      rw [List.map_cons, List.nodup_cons] at hnodup
      by_cases hid : tunnel.1 = id
      · have hother : ∀ other ∈ tunnels, other.1 ≠ id := by
          intro other hmem heq
          apply hnodup.1
          rw [hid, ← heq]
          exact List.mem_map_of_mem hmem
        have hmap : (tunnels.map fun tunnel => if tunnel.1 = id then (id, after) else tunnel) =
            tunnels := by
          have hsame : ∀ other ∈ tunnels,
              (if other.1 = id then (id, after) else other) = other :=
            fun other hmem => if_neg (hother other hmem)
          rw [List.map_congr_left hsame, List.map_id']
        have hkeep : (tunnels.filterMap fun tunnel =>
            if tunnel.1 = id then none else some tunnel) = tunnels := by
          have hsame : ∀ other ∈ tunnels,
              (if other.1 = id then none else some other) = some other :=
            fun other hmem => if_neg (hother other hmem)
          rw [List.filterMap_congr hsame, List.filterMap_some]
        simp [hid, hmap, hkeep]
      · simp [hid, ih hnodup.2]

end Keys

/-! ### The server is its connections -/

/-- A tunnel can always be closed, and a closed one stays closed. -/
theorem forceClose_ended (tunnel : Tunnel) :
    ∃ after, tunnel.step lib manager .forceClose = some after ∧
      (ended tunnel = true → ended after = true) := by
  refine ⟨tunnel.forceClose, rfl, ?_⟩
  intro hended
  have hle : tunnel.life.didClose ≤ tunnel.forceClose.life.didClose := by
    rw [Tunnel.forceClose, Tunnel.closeBy_life]
    exact tunnel.life.le_close
  have hbefore : 0 < tunnel.didClose := of_decide_eq_true hended
  exact decide_eq_true (Nat.lt_of_lt_of_le hbefore hle)

/-- The numbers are distinct, and no tunnel has closed. -/
structure Apart (server : GCDHTTPProxyServer) : Prop where
  nodup : (server.tunnels.map Prod.fst).Nodup
  opened : ∀ tunnel ∈ server.tunnels, tunnel.2.didClose = 0

/-- The tunnel with the number is replaced by what it has become. -/
def becomes (id : Nat) (after : Tunnel) (tunnel : Nat × Tunnel) : Option (Nat × Tunnel) :=
  if tunnel.1 = id then keep ended id after else some tunnel

theorem deliver_eq {server : GCDHTTPProxyServer} (hapart : server.Apart) (id : Nat)
    (event : RelayEvent) :
    server.deliver lib manager id event =
      (server.tunnels.find? fun tunnel => tunnel.1 = id).bind fun found =>
        (found.2.step lib manager event).map fun after =>
          { server with tunnels := server.tunnels.filterMap (becomes id after) } := by
  unfold deliver
  cases hfind : server.tunnels.find? fun tunnel => tunnel.1 = id with
  | none => rfl
  | some found =>
      have hzero := hapart.opened found (List.mem_of_find?_eq_some hfind)
      simp only [Option.bind_some]
      congr 1
      funext after
      rw [hzero]
      by_cases hclosed : 0 < after.didClose
      · have hnone : becomes id after = fun tunnel : Nat × Tunnel =>
            if tunnel.1 = id then none else some tunnel := by
          funext tunnel
          simp [becomes, keep, ended, hclosed]
        rw [if_pos hclosed, tunnelDidClose, hnone, eraseP_eq_filterMap id after hapart.nodup]
      · have hsome : becomes id after = fun tunnel : Nat × Tunnel =>
            if tunnel.1 = id then some (id, after) else some tunnel := by
          funext tunnel
          simp [becomes, keep, ended, hclosed]
        rw [if_neg hclosed, hsome, map_eq_filterMap]

/-- What `becomes` leaves keeps its number, and has not closed. -/
theorem Apart.becomes {server : GCDHTTPProxyServer} (hapart : server.Apart) (id : Nat)
    (after : Tunnel) :
    Apart { server with tunnels := server.tunnels.filterMap (becomes id after) } := by
  have hfst : ∀ {tunnel kept : Nat × Tunnel},
      GCDHTTPProxyServer.becomes id after tunnel = some kept → kept.1 = tunnel.1 := by
    intro tunnel kept hkept
    unfold GCDHTTPProxyServer.becomes at hkept
    split at hkept
    · rename_i hid
      rw [(keep_eq_some hkept).1, hid]
    · cases hkept
      rfl
  have hsublist : ∀ tunnels : List (Nat × Tunnel), List.Sublist
      ((tunnels.filterMap (GCDHTTPProxyServer.becomes id after)).map Prod.fst)
      (tunnels.map Prod.fst) := by
    intro tunnels
    induction tunnels with
    | nil => exact List.Sublist.slnil
    | cons tunnel tunnels ih =>
        rw [List.filterMap_cons]
        cases hkept : GCDHTTPProxyServer.becomes id after tunnel with
        | none => exact ih.cons tunnel.1
        | some kept =>
            rw [List.map_cons, List.map_cons, hfst hkept]
            exact ih.cons_cons tunnel.1
  refine ⟨(hsublist server.tunnels).nodup hapart.nodup, ?_⟩
  intro kept hmem
  obtain ⟨tunnel, htunnel, hkept⟩ := List.mem_filterMap.mp hmem
  unfold GCDHTTPProxyServer.becomes at hkept
  split at hkept
  · obtain ⟨rfl, hopen⟩ := keep_eq_some hkept
    simpa [ended] using hopen
  · cases hkept
    exact hapart.opened kept htunnel

theorem eq_of_fst {tunnels : List (Nat × Tunnel)} (hnodup : (tunnels.map Prod.fst).Nodup)
    {first second : Nat × Tunnel} (hfirst : first ∈ tunnels) (hsecond : second ∈ tunnels)
    (h : first.1 = second.1) : first = second :=
  List.inj_on_of_nodup_map hnodup hfirst hsecond h

/-- The loop of `stop`. -/
theorem forceCloseAll_eq {server : GCDHTTPProxyServer} (hapart : server.Apart)
    {tunnels : List (Nat × Tunnel)} (hnodup : (tunnels.map Prod.fst).Nodup) :
    server.forceCloseAll lib manager tunnels =
      { server with
        tunnels := server.tunnels.filterMap fun tunnel =>
          if tunnel.1 ∈ tunnels.map Prod.fst then keep ended tunnel.1 tunnel.2.forceClose
          else some tunnel } := by
  induction tunnels generalizing server with
  | nil => simp [forceCloseAll]
  | cons head tunnels ih =>
      obtain ⟨id, tunnel⟩ := head
      rw [List.map_cons, List.nodup_cons] at hnodup
      have hpassed : ∀ other : Nat × Tunnel, other.1 ≠ id →
          (if other.1 ∈ tunnels.map Prod.fst then keep ended other.1 other.2.forceClose
            else some other) =
          (if other.1 ∈ ((id, tunnel) :: tunnels).map Prod.fst then
            keep ended other.1 other.2.forceClose
            else some other) := by
        intro other hne
        have hkeys : other.1 ∈ ((id, tunnel) :: tunnels).map Prod.fst ↔
            other.1 ∈ tunnels.map Prod.fst := by
          rw [List.map_cons, List.mem_cons]
          exact or_iff_right hne
        by_cases hin : other.1 ∈ tunnels.map Prod.fst
        · rw [if_pos hin, if_pos (hkeys.mpr hin)]
        · rw [if_neg hin, if_neg (mt hkeys.mp hin)]
      rw [forceCloseAll, deliver_eq hapart]
      cases hfind : server.tunnels.find? fun tunnel => tunnel.1 = id with
      | none =>
          have hother : ∀ other ∈ server.tunnels, other.1 ≠ id := by
            intro other hmem
            simpa using List.find?_eq_none.mp hfind other hmem
          rw [Option.bind_none, Option.getD_none, ih hapart hnodup.2]
          congr 1
          apply List.filterMap_congr
          intro other hmem
          exact hpassed other (hother other hmem)
      | some found =>
          have hid : found.1 = id := by simpa using List.find?_some hfind
          have hfound := List.mem_of_find?_eq_some hfind
          have hstep : found.2.step lib manager .forceClose = some found.2.forceClose := rfl
          rw [Option.bind_some, hstep, Option.map_some, Option.getD_some,
            ih (hapart.becomes id found.2.forceClose) hnodup.2]
          congr 1
          rw [List.filterMap_filterMap]
          apply List.filterMap_congr
          intro other hmem
          by_cases hother : other.1 = id
          · have hsame : other = found := eq_of_fst hapart.nodup hmem hfound (hother.trans hid.symm)
            subst hsame
            cases hkept : keep ended id other.2.forceClose with
            | none => simp [GCDHTTPProxyServer.becomes, hid, hkept]
            | some kept =>
                have hnot : kept.1 ∉ tunnels.map Prod.fst := by
                  rw [(keep_eq_some hkept).1]
                  exact hnodup.1
                simp only [GCDHTTPProxyServer.becomes, hid, if_true, hkept, Option.bind_some,
                  if_neg hnot, List.map_cons, List.mem_cons, true_or]
          · rw [GCDHTTPProxyServer.becomes, if_neg hother, Option.bind_some]
            exact hpassed other hother

/-- The server, as a system of connections. -/
def system (server : GCDHTTPProxyServer) : System Tunnel :=
  { components := server.tunnels, started := server.accepted }

theorem stop_next {server : GCDHTTPProxyServer} (hapart : server.Apart) :
    server.system.next (Tunnel.step lib manager) Tunnel.accepted ended .forceClose .all =
      some (server.stop lib manager).system := by
  rw [stop, forceCloseAll_eq hapart hapart.nodup]
  simp only [System.next, system, Option.some.injEq, System.mk.injEq, and_true]
  apply List.filterMap_congr
  intro tunnel hmem
  rw [if_pos (List.mem_map_of_mem hmem)]
  rfl

theorem deliver_next {server after : GCDHTTPProxyServer} (hapart : server.Apart) {id : Nat}
    {event : RelayEvent} (h : server.deliver lib manager id event = some after) :
    server.system.next (Tunnel.step lib manager) Tunnel.accepted ended .forceClose
      (.one id event) = some after.system := by
  rw [deliver_eq hapart] at h
  obtain ⟨found, hfind, hmap⟩ := Option.bind_eq_some_iff.mp h
  obtain ⟨component, hstep, rfl⟩ := Option.map_eq_some_iff.mp hmap
  simp only [System.next, system, hfind, Option.bind_some, hstep, Option.map_some]
  rfl

/-- A system of connections that has run keeps them apart. -/
theorem apart_of_run {events : List (Event RelayEvent)} {server : GCDHTTPProxyServer}
    (h : run (System.next (Tunnel.step lib manager) Tunnel.accepted ended .forceClose) System.init
      events = some server.system) : server.Apart := by
  obtain ⟨-, hcomponents, -⟩ := components_eq rfl forceClose_ended h
  have htunnels : server.tunnels = server.system.components := rfl
  refine ⟨?_, ?_⟩
  · rw [htunnels, hcomponents]
    exact alone_nodup events _
  · intro tunnel hmem
    rw [htunnels, hcomponents] at hmem
    obtain ⟨state, -, hkeep⟩ := Option.bind_eq_some_iff.mp (mem_alone hmem).2
    obtain ⟨heq, hopen⟩ := keep_eq_some hkeep
    rw [heq]
    simpa [ended] using hopen

/-- **Simulation.**  A run of the server is a run of its connections side by side. -/
theorem run_system {events : List ProxyServerEvent} {server : GCDHTTPProxyServer}
    (h : run (step lib manager) init events = some server) :
    run (System.next (Tunnel.step lib manager) Tunnel.accepted ended .forceClose) System.init
      (events.flatMap parallel) = some server.system := by
  induction events using List.reverseRecOn generalizing server with
  | nil =>
      cases h
      rfl
  | append_singleton events event ih =>
      obtain ⟨before, hbefore, hlast⟩ := run_append_some h
      obtain ⟨after, hstep, hend⟩ := run_cons_some hlast
      cases hend
      have hsystem := ih hbefore
      have hapart := apart_of_run hsystem
      rw [List.flatMap_append, run_append, hsystem, Option.bind_some, List.flatMap_singleton]
      cases event with
      | start =>
          cases hstep
          rfl
      | stop =>
          cases hstep
          rw [parallel, run_cons (stop_next hapart), run_nil]
      | didAcceptNewSocket =>
          cases hstep
          rfl
      | tunnel id event =>
          simp only [step] at hstep
          split at hstep
          · cases hstep
          · rw [parallel, run_cons (deliver_next hapart hstep), run_nil]

/-- **Side by side.**  Whatever the order in which connections are accepted, run and
close, the server holds the connections that have not closed, oldest first, each as if it
had run alone. -/
theorem connections_apart {events : List ProxyServerEvent} {server : GCDHTTPProxyServer}
    (h : run (step lib manager) init events = some server) :
    server.tunnels =
      (List.range server.accepted).filterMap (connection lib manager events) :=
  (components_eq rfl forceClose_ended (run_system h)).2.1

/-! ## Stopping -/

/-- A tunnel of the server has run alone on what it was told. -/
theorem run_of_mem {events : List ProxyServerEvent} {server : GCDHTTPProxyServer}
    {id : Nat} {tunnel : Tunnel} (h : run (step lib manager) init events = some server)
    (hmem : (id, tunnel) ∈ server.tunnels) :
    id < server.accepted ∧
      run (Tunnel.step lib manager) Tunnel.accepted (told id events) = some tunnel := by
  have htunnels : server.tunnels =
      (List.range server.accepted).filterMap (connection lib manager events) :=
    (components_eq rfl forceClose_ended (run_system h)).2.1
  rw [htunnels] at hmem
  obtain ⟨hless, hconnection⟩ := mem_alone hmem
  obtain ⟨state, hrun, hkeep⟩ := Option.bind_eq_some_iff.mp hconnection
  cases (keep_eq_some hkeep).1
  exact ⟨hless, hrun⟩

/-- A tunnel that is cancelled stays so. -/
theorem run_isCancelled {tunnel after : Tunnel} {events : List RelayEvent}
    (hcancelled : tunnel.isCancelled = true)
    (h : run (Tunnel.step lib manager) tunnel events = some after) :
    after.isCancelled = true := by
  refine run_preserves (fun tunnel => tunnel.isCancelled = true) ?_ hcancelled h
  intro before event after hbefore hstep
  unfold Tunnel.step at hstep
  split at hstep
  · exact Tunnel.handle_isCancelled hbefore hstep
  · cases hstep

/-- A connection that there is at a `stop` is told to close. -/
theorem told_stop {events : List ProxyServerEvent} {before : GCDHTTPProxyServer}
    (h : run (step lib manager) init events = some before) {id : Nat} (hid : id < before.accepted)
    (later : List ProxyServerEvent) :
    told id (events ++ .stop :: later) = told id events ++
      .forceClose :: heard .forceClose id before.accepted (later.flatMap parallel) := by
  have hcount : starts (events.flatMap parallel) = before.accepted :=
    (components_eq rfl forceClose_ended (run_system h)).1.symm
  rw [told, List.flatMap_append, heard_append, Nat.zero_add, List.flatMap_cons, hcount]
  simp [parallel, heard, hid, told]

/-- **Stopped.**  Whatever happens afterwards, every connection that was accepted before the
`stop` and is left is cancelled, and each of its sockets has been told to disconnect or has
gone. -/
theorem stop_tells_all {events later : List ProxyServerEvent} {before server : GCDHTTPProxyServer}
    (hbefore : run (step lib manager) init events = some before)
    (hlater : run (step lib manager) before (.stop :: later) = some server) {id : Nat}
    {tunnel : Tunnel} (hid : id < before.accepted) (hmem : (id, tunnel) ∈ server.tunnels) :
    tunnel.isCancelled = true ∧
      (tunnel.proxySocket.status = .closed ∨
        tunnel.proxySocket.socket.disconnecting.isSome = true) ∧
      ∀ adapterSocket, tunnel.adapterSocket = some adapterSocket →
        adapterSocket.gone = true ∨ adapterSocket.socket.disconnecting.isSome = true := by
  have h : run (step lib manager) init (events ++ .stop :: later) = some server := by
    rw [run_append, hbefore, Option.bind_some, hlater]
  obtain ⟨-, hrun⟩ := run_of_mem h hmem
  have hcancelled : tunnel.isCancelled = true := by
    have halone := hrun
    rw [told_stop hbefore hid] at halone
    obtain ⟨reached, -, hrest⟩ := run_append_some halone
    obtain ⟨closed, hclose, hend⟩ := run_cons_some hrest
    cases hclose
    exact run_isCancelled (Tunnel.closeBy_isCancelled reached .immediate) hend
  exact ⟨hcancelled, Tunnel.told_of_cancelled hrun hcancelled⟩

/-! ### Two connections -/

/-- Of two connections one is closed by its client. -/
def beforeStop : List ProxyServerEvent :=
  [.start, .didAcceptNewSocket, .didAcceptNewSocket,
    .tunnel 1 (.proxyRead (HTTPHeader.encode HTTPHeader.absoluteRequest)),
    .tunnel 0 .proxyDisconnected]

/-- Then the server stops. -/
def twoConnections : List ProxyServerEvent :=
  beforeStop ++ [.stop]

theorem twoConnections_runs :
    ∃ server, run (step asciiProxy (RuleManager.init [] true)) init twoConnections =
        some server ∧ server.tunnels.map Prod.fst = [1] := by
  have hruns : (run (step asciiProxy (RuleManager.init [] true)) init twoConnections).any
      (fun server => server.tunnels.map Prod.fst == [1]) = true := by
    decide +kernel
  obtain ⟨server, hserver, hids⟩ := (Option.any_eq_true _ _).mp hruns
  exact ⟨server, hserver, beq_iff_eq.mp hids⟩

theorem connections_apart_two :
    ∃ server, run (step asciiProxy (RuleManager.init [] true)) init twoConnections =
        some server ∧
      server.tunnels = (List.range server.accepted).filterMap
        (connection asciiProxy (RuleManager.init [] true) twoConnections) := by
  obtain ⟨server, hserver, -⟩ := twoConnections_runs
  exact ⟨server, hserver, connections_apart hserver⟩

/-- A third connection, whose acceptance was queued, is left alone. -/
theorem stop_tells_all_two :
    ∃ before server tunnel later,
      run (step asciiProxy (RuleManager.init [] true)) init beforeStop = some before ∧
        run (step asciiProxy (RuleManager.init [] true)) before [.stop, .didAcceptNewSocket] =
          some server ∧
        server.tunnels = [(1, tunnel), (2, later)] ∧ tunnel.isCancelled = true ∧
        later.isCancelled = false := by
  have hruns : (run (step asciiProxy (RuleManager.init [] true)) init beforeStop).any
      (fun before => before.accepted == 2 &&
        (run (step asciiProxy (RuleManager.init [] true)) before [.stop, .didAcceptNewSocket]).any
          fun server => server.tunnels.map (fun entry => (entry.1, entry.2.isCancelled)) ==
            [(1, true), (2, false)]) = true := by
    decide +kernel
  obtain ⟨before, hbefore, hafter⟩ := (Option.any_eq_true _ _).mp hruns
  rw [Bool.and_eq_true, beq_iff_eq] at hafter
  obtain ⟨haccepted, hafter⟩ := hafter
  obtain ⟨server, hserver, htunnels⟩ := (Option.any_eq_true _ _).mp hafter
  obtain ⟨⟨id, tunnel⟩, rest, hsplit, hfirst, hrest⟩ :=
    List.map_eq_cons_iff.mp (beq_iff_eq.mp htunnels)
  obtain ⟨⟨next, later⟩, rfl, hsecond⟩ := List.map_eq_singleton_iff.mp hrest
  obtain ⟨rfl, -⟩ := Prod.mk.inj hfirst
  obtain ⟨rfl, hlater⟩ := Prod.mk.inj hsecond
  have hmem : (1, tunnel) ∈ server.tunnels := by
    rw [hsplit]
    exact List.mem_cons_self
  exact ⟨before, server, tunnel, later, hbefore, hserver, hsplit,
    (stop_tells_all hbefore hserver (by omega) hmem).1, hlater⟩

end GCDHTTPProxyServer

end QLadder
