import QLadder.PartialRun

/-!
# The packet tunnel provider

The life of a `PacketTunnelProvider` before it is stopped: calls of
`startTunnel`, the callbacks of their `setTunnelNetworkSettings`, the
notifications of the key path `defaultPath`, and the delayed restarts these
schedule.

Every proxy server and every interface that was created is kept, whether the
provider still holds it or not, with what has become of it.  A callback runs
as one step of the machine; it is made of `Statement`s, so that one can also
say what holds between two of them.  A statement that traps is not possible.

Paths are any type whose values can be compared and have a status.
-/

namespace QLadder

open PartialRun

inductive NWPathStatus where
  | invalid
  | satisfied
  | unsatisfied
  | satisfiable
  deriving DecidableEq, Repr

/-- A `GCDHTTPProxyServer`. -/
structure ProxyServer where
  port : Nat
  listening : Bool
  deriving DecidableEq, Repr

structure TUNInterface where
  stopped : Bool
  deriving DecidableEq, Repr

/-- The provider and what it has created, registered and scheduled. -/
structure PacketTunnelProvider (NWPath : Type) where
  /-- the place of the interface held, in `interfaces` -/
  interface : Option Nat
  enablePacketProcessing : Bool
  proxyPort : Option Nat
  /-- the place of the server held, in `proxyServers` -/
  proxyServer : Option Nat
  lastPath : Option NWPath
  started : Bool
  defaultPath : Option NWPath
  proxyServers : List ProxyServer
  interfaces : List TUNInterface
  /-- how often the provider is registered for `defaultPath` -/
  observers : Nat
  /-- callbacks of `setTunnelNetworkSettings` still to come -/
  pendingSettings : Nat
  /-- delayed restarts still to fire -/
  pendingRestarts : Nat
  deriving DecidableEq, Repr

/-- What the callback of `setTunnelNetworkSettings` is made of. -/
inductive Statement where
  | newProxyServer
  /-- `try! proxyServer.start()` -/
  | startProxyServer
  | stopProxyServer
  | addObserver
  /-- the notification that `addObserver` delivers before it returns -/
  | initialNotification
  | stopInterface
  /-- a new interface, with its stacks registered and started -/
  | newInterface
  | setStarted
  deriving DecidableEq, Repr

/-- The events of the system and of the main queue. -/
inductive TunnelEvent (NWPath : Type) where
  /-- a call that gets as far as `setTunnelNetworkSettings` -/
  | startTunnel
  | settingsCallback (ok : Bool)
  | pathChange (path : Option NWPath)
  /-- a delayed restart fires -/
  | restart
  deriving DecidableEq, Repr

namespace PacketTunnelProvider

variable {NWPath : Type}

/-- A new provider. -/
def new (enablePacketProcessing : Bool) (defaultPath : Option NWPath) :
    PacketTunnelProvider NWPath :=
  { interface := none, enablePacketProcessing := enablePacketProcessing,
    proxyPort := none, proxyServer := none, lastPath := none, started := false,
    defaultPath := defaultPath, proxyServers := [], interfaces := [],
    observers := 0, pendingSettings := 0, pendingRestarts := 0 }

/-- The end of `startTunnel`: the port is set and the settings are handed over. -/
def startTunnel (provider : PacketTunnelProvider NWPath) : PacketTunnelProvider NWPath :=
  { provider with
    proxyPort := some 9090
    pendingSettings := provider.pendingSettings + 1 }

/-- A server is listening on the port. -/
def portTaken (provider : PacketTunnelProvider NWPath) (port : Nat) : Bool :=
  provider.proxyServers.any fun server => server.listening && server.port == port

/-- The statements of the callback, for a success.  Its second look at `started`
finds what the first one found: only the last statement writes it. -/
def settingsStatements (provider : PacketTunnelProvider NWPath) : List Statement :=
  (if provider.started = false then
    [.newProxyServer, .startProxyServer, .addObserver, .initialNotification]
  else
    [.stopProxyServer, .startProxyServer]) ++
  (if provider.enablePacketProcessing then
    (if provider.started then [.stopInterface] else []) ++ [.newInterface]
  else
    []) ++
  [.setStarted]

variable [DecidableEq NWPath] (status : NWPath → NWPathStatus)

/-- `observeValue` on the paths: the new `lastPath`, and whether a restart is
scheduled. -/
def observePath (lastPath defaultPath : Option NWPath) : Option NWPath × Bool :=
  if defaultPath.map status = some .satisfied ∧ defaultPath ≠ lastPath then
    if lastPath = none then (defaultPath, false) else (lastPath, true)
  else
    (defaultPath, false)

/-- `observeValue` for `defaultPath`. -/
def observeValue (provider : PacketTunnelProvider NWPath) : PacketTunnelProvider NWPath :=
  let observed := observePath status provider.lastPath provider.defaultPath
  { provider with
    lastPath := observed.1
    pendingRestarts :=
      if observed.2 then provider.pendingRestarts + 1 else provider.pendingRestarts }

/-- One statement; `none` is a trap. -/
def exec (provider : PacketTunnelProvider NWPath) :
    Statement → Option (PacketTunnelProvider NWPath)
  | .newProxyServer =>
      provider.proxyPort.map fun port =>
        { provider with
          proxyServer := some provider.proxyServers.length
          proxyServers := provider.proxyServers ++ [{ port := port, listening := false }] }
  | .startProxyServer => do
      let index ← provider.proxyServer
      let server ← provider.proxyServers[index]?
      if provider.portTaken server.port then
        none
      else
        some { provider with
          proxyServers :=
            provider.proxyServers.set index { server with listening := true } }
  | .stopProxyServer => do
      let index ← provider.proxyServer
      let server ← provider.proxyServers[index]?
      some { provider with
        proxyServers :=
          provider.proxyServers.set index { server with listening := false } }
  | .addObserver => some { provider with observers := provider.observers + 1 }
  | .initialNotification => some (provider.observeValue status)
  | .stopInterface =>
      provider.interface.map fun index =>
        { provider with
          interfaces := provider.interfaces.set index { stopped := true } }
  | .newInterface =>
      some { provider with
        interface := some provider.interfaces.length
        interfaces := provider.interfaces ++ [{ stopped := false }] }
  | .setStarted => some { provider with started := true }

/-- `stopTunnel`, up to its `completionHandler`; `none` is the trap of a `nil`
that is unwrapped. -/
def stopTunnel (provider : PacketTunnelProvider NWPath) :
    Option (PacketTunnelProvider NWPath) := do
  let provider ←
    if provider.enablePacketProcessing then
      (provider.exec status .stopInterface).map fun provider =>
        { provider with interface := none }
    else
      some provider
  let provider ← provider.exec status .stopProxyServer
  some { provider with proxyServer := none }

/-- One event. -/
def step (provider : PacketTunnelProvider NWPath) :
    TunnelEvent NWPath → Option (PacketTunnelProvider NWPath)
  | .startTunnel => some provider.startTunnel
  | .settingsCallback ok =>
      if provider.pendingSettings = 0 then
        none
      else
        let provider :=
          { provider with pendingSettings := provider.pendingSettings - 1 }
        if ok then run (exec status) provider provider.settingsStatements
        else some provider
  | .pathChange path =>
      some (Nat.repeat (observeValue status) provider.observers
        { provider with defaultPath := path })
  | .restart =>
      if provider.pendingRestarts = 0 then
        none
      else
        some { provider with
          pendingRestarts := provider.pendingRestarts - 1 }.startTunnel

end PacketTunnelProvider

end QLadder
