import QLadder.DNSMatch
import QLadder.HTTPStream
import QLadder.PartialRun

/-!
# A connection through the proxy

One connection of a client to NEKit's HTTP proxy server: an `HTTPProxySocket` towards
the client, an `AdapterSocket` towards the remote, and the `Tunnel` between them.
Everything runs on one queue.  The raw sockets, the resolver and the timers answer in
any order: a raw socket answers a read or a write that it was asked for, and reports
that it has disconnected.

The app runs the proxy without a DNS server of its own, so that the host of a request
is a session's host.  The adapter is seen from the tunnel; what a Shadowsocks adapter
does to the bytes is another matter.  The observers see nothing here.
-/

namespace QLadder

/-! ## Raw sockets -/

/-- A read that a raw socket is asked for. -/
inductive RawRead where
  /-- `readData()` -/
  | data
  /-- `readDataTo(length:)` -/
  | length (length : Int)
  /-- `readDataTo(data: DoubleCRLF)` -/
  | doubleCRLF
  deriving DecidableEq, Repr

/-- The data that such a read gives. -/
def RawRead.gives (data : Data) : RawRead → Bool
  | .data => true
  | .length n => (data.length : Int) = n
  | .doubleCRLF => splitHeader data = some (data, [])

/-- `disconnect()` waits for what has been written, `forceDisconnect()` does not. -/
inductive Disconnection where
  | elegant
  | immediate
  deriving DecidableEq, Repr

/-- A raw socket, with what it was asked for and what has passed through it. -/
structure RawTCPSocket where
  /-- reads that are not answered -/
  reads : List RawRead
  /-- reads that have ended without data, of which nobody is told -/
  ended : Nat
  /-- writes that are not acknowledged -/
  writes : Nat
  received : List Data
  sent : List Data
  disconnecting : Option Disconnection
  deriving DecidableEq, Repr

namespace RawTCPSocket

def init : RawTCPSocket :=
  { reads := [], ended := 0, writes := 0, received := [], sent := [], disconnecting := none }

def read (socket : RawTCPSocket) (read : RawRead) : RawTCPSocket :=
  { socket with reads := socket.reads ++ [read] }

def write (socket : RawTCPSocket) (data : Data) : RawTCPSocket :=
  { socket with writes := socket.writes + 1, sent := socket.sent ++ [data] }

def disconnect (socket : RawTCPSocket) (disconnection : Disconnection) : RawTCPSocket :=
  { socket with disconnecting := some disconnection }

/-- The first read is answered. -/
def answer (socket : RawTCPSocket) (data : Data) : RawTCPSocket :=
  { socket with reads := socket.reads.tail, received := socket.received ++ [data] }

/-- The first read ends without data. -/
def endRead (socket : RawTCPSocket) : RawTCPSocket :=
  match socket.reads with
  | [] => socket
  | _ :: reads => { socket with reads, ended := socket.ended + 1 }

/-- A write is acknowledged. -/
def acknowledge (socket : RawTCPSocket) : RawTCPSocket :=
  { socket with writes := socket.writes - 1 }

end RawTCPSocket

inductive SocketStatus where
  | invalid
  | connecting
  | established
  | disconnecting
  | closed
  deriving DecidableEq, Repr

def SocketStatus.isDisconnected : SocketStatus → Bool
  | .closed | .invalid => true
  | _ => false

/-! ## HTTPProxySocket -/

inductive HTTPProxyReadStatus where
  | invalid
  | readingFirstHeader
  | pendingFirstHeader
  | readingHeader
  | readingContent
  | stopped
  deriving DecidableEq, Repr

inductive HTTPProxyWriteStatus where
  | invalid
  | sendingConnectResponse
  | forwarding
  | stopped
  deriving DecidableEq, Repr

/-- What the proxy asks of the libraries. -/
structure ProxyLibraries where
  http : HTTPLibraries
  ip : IPText
  /-- the characters of a text -/
  characters : List Char → Text

/-- ASCII texts, and addresses in the unary system. -/
def asciiProxy : ProxyLibraries :=
  { http := HTTPHeader.asciiLibraries
    ip := unaryText
    characters := fun chars => text (String.ofList chars) }

/-- `Utils.HTTPData.ConnectSuccessResponse`. -/
def connectSuccessResponse : Data :=
  HTTPHeader.encode "HTTP/1.1 200 Connection Established\r\n\r\n".toList

/-- A `ConnectSession` with its port, at which no rule looks. -/
structure TunnelSession extends ConnectSession where
  port : Int
  deriving DecidableEq, Repr

structure HTTPProxySocket where
  isCancelled : Bool
  status : SocketStatus
  readStatus : HTTPProxyReadStatus
  writeStatus : HTTPProxyWriteStatus
  scanner : HTTPStreamScanner
  currentHeader : Option HTTPHeader
  isConnectCommand : Bool
  session : Option TunnelSession
  socket : RawTCPSocket
  deriving DecidableEq, Repr

/-- What a proxy socket tells its delegate. -/
inductive ProxyCall where
  | nothing
  | didReceive (session : TunnelSession)
  | didRead (data : Data)
  | didWrite
  | didBecomeReadyToForward
  deriving DecidableEq, Repr

namespace HTTPProxySocket

/-- A proxy socket for a socket that has been accepted. -/
def init : HTTPProxySocket :=
  { isCancelled := false, status := .established, readStatus := .invalid,
    writeStatus := .invalid, scanner := .init, currentHeader := none,
    isConnectCommand := false, session := none, socket := .init }

def openSocket (proxySocket : HTTPProxySocket) : HTTPProxySocket :=
  if proxySocket.isCancelled then proxySocket
  else
    { proxySocket with
      readStatus := .readingFirstHeader, socket := proxySocket.socket.read .doubleCRLF }

def write (proxySocket : HTTPProxySocket) (data : Data) : HTTPProxySocket :=
  if proxySocket.isCancelled then proxySocket
  else { proxySocket with socket := proxySocket.socket.write data }

/-- `disconnect` and `forceDisconnect`. -/
def disconnect (proxySocket : HTTPProxySocket) (disconnection : Disconnection) :
    HTTPProxySocket :=
  if proxySocket.isCancelled then proxySocket
  else
    { proxySocket with
      status := .disconnecting, isCancelled := true,
      socket := proxySocket.socket.disconnect disconnection }

/-- `readData`; `none` if there is no first header to return. -/
def readData (proxySocket : HTTPProxySocket) : Option (HTTPProxySocket × ProxyCall) :=
  if proxySocket.isCancelled then some (proxySocket, .nothing)
  else if proxySocket.readStatus = .pendingFirstHeader then
    proxySocket.currentHeader.map fun header =>
      ({ proxySocket with readStatus := .readingContent }, .didRead header.toData)
  else
    match proxySocket.scanner.nextAction with
    | .readContent length =>
        some ({ proxySocket with
          readStatus := .readingContent
          socket := proxySocket.socket.read (if 0 < length then .length length else .data) },
          .nothing)
    | .readHeader =>
        some ({ proxySocket with
          readStatus := .readingHeader
          socket := proxySocket.socket.read .doubleCRLF }, .nothing)
    | .stop =>
        some (disconnect { proxySocket with readStatus := .stopped } .elegant, .nothing)

variable (lib : ProxyLibraries)

/-- `ConnectSession(host:port:)`, without a DNS server. -/
def connectSession (header : HTTPHeader) : TunnelSession :=
  { host := lib.characters header.host, ipAddress := [], country := [], matchedRule := none,
    port := header.port }

/-- `didRead(data:from:)`, where the scanner takes the data; `none` is the trap of an empty
path. -/
def didScan (proxySocket : HTTPProxySocket) (data : Data) :
    Option (HTTPProxySocket × ProxyCall) :=
  let (result, scanner) := proxySocket.scanner.input lib.http data
  let proxySocket := { proxySocket with scanner }
  match result with
  | .error _ => some (proxySocket.disconnect .elegant, .nothing)
  | .ok result =>
      match proxySocket.readStatus, result with
      | .readingFirstHeader, .header header => do
          let currentHeader ← forwardedHeader lib.http header
          let session := connectSession lib currentHeader
          some ({ proxySocket with
            currentHeader, isConnectCommand := currentHeader.isConnect
            readStatus :=
              if currentHeader.isConnect then .readingContent else .pendingFirstHeader
            session }, .didReceive session)
      | .readingHeader, .header header => do
          let currentHeader ← forwardedHeader lib.http header
          some ({ proxySocket with currentHeader }, .didRead currentHeader.toData)
      | .readingContent, .content content => some (proxySocket, .didRead content)
      | _, _ => some (proxySocket, .nothing)

/-- `didRead(data:from:)`; `none` is a trap. -/
def didRead (proxySocket : HTTPProxySocket) (data : Data) :
    Option (HTTPProxySocket × ProxyCall) :=
  if proxySocket.scanner.underflows data then none else proxySocket.didScan lib data

variable {lib} in
theorem didScan_of_didRead {proxySocket : HTTPProxySocket} {data : Data}
    {result : HTTPProxySocket × ProxyCall} (h : proxySocket.didRead lib data = some result) :
    proxySocket.didScan lib data = some result := by
  rw [didRead] at h
  split at h
  · cases h
  · exact h

def didWrite (proxySocket : HTTPProxySocket) : HTTPProxySocket × ProxyCall :=
  match proxySocket.writeStatus with
  | .sendingConnectResponse =>
      ({ proxySocket with writeStatus := .forwarding }, .didBecomeReadyToForward)
  | _ => (proxySocket, .didWrite)

def didDisconnectWith (proxySocket : HTTPProxySocket) : HTTPProxySocket :=
  { proxySocket with status := .closed }

/-- Its raw socket answers a read. -/
def answer (proxySocket : HTTPProxySocket) (data : Data) : HTTPProxySocket :=
  { proxySocket with socket := proxySocket.socket.answer data }

/-- Its raw socket acknowledges a write. -/
def acknowledge (proxySocket : HTTPProxySocket) : HTTPProxySocket :=
  { proxySocket with socket := proxySocket.socket.acknowledge }

/-- `respondTo(adapter:)`. -/
def respondTo (proxySocket : HTTPProxySocket) : HTTPProxySocket × ProxyCall :=
  if proxySocket.isCancelled then (proxySocket, .nothing)
  else if proxySocket.isConnectCommand then
    (write { proxySocket with writeStatus := .sendingConnectResponse } connectSuccessResponse,
      .nothing)
  else
    ({ proxySocket with writeStatus := .forwarding }, .didBecomeReadyToForward)

end HTTPProxySocket

/-! ## AdapterSocket -/

/-- A `DirectAdapter` or a `ShadowsocksAdapter`, with an `NWTCPSocket`. -/
structure AdapterSocket where
  factory : AdapterFactory
  session : TunnelSession
  isCancelled : Bool
  status : SocketStatus
  socket : RawTCPSocket
  /-- the raw socket has not reported that it has connected -/
  connecting : Bool
  /-- the connection of the raw socket is cancelled, and a report is on its way, or there
  is no connection -/
  gone : Bool
  /-- the report has come, and was the last the raw socket says -/
  reported : Bool
  deriving DecidableEq, Repr

namespace AdapterSocket

/-- A new adapter of the factory, after `openSocketWith(session:)`. -/
def openSocketWith (factory : AdapterFactory) (session : TunnelSession) : AdapterSocket :=
  { factory, session, isCancelled := false, status := .connecting, socket := .init,
    connecting := true, gone := false, reported := false }

def readData (adapterSocket : AdapterSocket) : AdapterSocket :=
  if adapterSocket.isCancelled then adapterSocket
  else { adapterSocket with socket := adapterSocket.socket.read .data }

/-- The first write of a `ShadowsocksAdapter` puts its request in front, which traps if the
length of the host is no `UInt8` or the port is no `UInt16`. -/
def requestTraps (adapterSocket : AdapterSocket) : Bool :=
  match adapterSocket.factory with
  | .direct => false
  | .shadowsocks _ =>
      adapterSocket.socket.sent.isEmpty &&
        (255 < (HTTPHeader.encode (scalarsOf adapterSocket.session.host)).length ||
          adapterSocket.session.port < 0 || 65535 < adapterSocket.session.port)

/-- `write`; `none` is a trap. -/
def write (adapterSocket : AdapterSocket) (data : Data) : Option AdapterSocket :=
  if adapterSocket.requestTraps then none
  else if adapterSocket.isCancelled then some adapterSocket
  else some { adapterSocket with socket := adapterSocket.socket.write data }

/-- What is written is given to the raw socket of an adapter that is not cancelled. -/
theorem write_opened {adapterSocket after : AdapterSocket} {data : Data}
    (hopened : adapterSocket.isCancelled = false) (h : adapterSocket.write data = some after) :
    after = { adapterSocket with socket := adapterSocket.socket.write data } := by
  rw [write, if_neg (by simp [hopened] : ¬adapterSocket.isCancelled = true)] at h
  split at h
  · cases h
  · exact (Option.some.inj h).symm

/-- `disconnect` and `forceDisconnect`, up to the answer of the raw socket. -/
def disconnect (adapterSocket : AdapterSocket) (disconnection : Disconnection) :
    AdapterSocket :=
  { adapterSocket with
    status := .disconnecting, isCancelled := true,
    socket := adapterSocket.socket.disconnect disconnection }

def didConnectWith (adapterSocket : AdapterSocket) : AdapterSocket :=
  { adapterSocket with status := .established, connecting := false }

def didDisconnectWith (adapterSocket : AdapterSocket) : AdapterSocket :=
  { adapterSocket with status := .closed }

/-- Its raw socket answers a read. -/
def answer (adapterSocket : AdapterSocket) (data : Data) : AdapterSocket :=
  { adapterSocket with socket := adapterSocket.socket.answer data }

/-- A read of its raw socket ends without data. -/
def endRead (adapterSocket : AdapterSocket) : AdapterSocket :=
  { adapterSocket with socket := adapterSocket.socket.endRead }

/-- Its raw socket acknowledges a write. -/
def acknowledge (adapterSocket : AdapterSocket) : AdapterSocket :=
  { adapterSocket with socket := adapterSocket.socket.acknowledge }

/-- The connection is cancelled. -/
def lose (adapterSocket : AdapterSocket) : AdapterSocket :=
  { adapterSocket with gone := true }

/-- The report that is on its way comes. -/
def report (adapterSocket : AdapterSocket) : AdapterSocket :=
  { adapterSocket.didDisconnectWith with reported := true }

end AdapterSocket

/-! ## Tunnel -/

inductive TunnelStatus where
  | invalid
  | readingRequest
  | waitingToBeReady
  | forwarding
  | closing
  | closed
  deriving DecidableEq, Repr

structure Tunnel where
  proxySocket : HTTPProxySocket
  adapterSocket : Option AdapterSocket
  /-- the proxy server still is the delegate -/
  delegate : Bool
  readySignal : Nat
  isCancelled : Bool
  status : TunnelStatus
  /-- the session whose host is being resolved -/
  resolving : Option TunnelSession
  /-- the resolver could not be asked, and nobody is told -/
  unresolved : Bool
  /-- reads of the adapter that `didWrite` has put off -/
  delayedReads : Nat
  /-- calls of `tunnelDidClose` -/
  didClose : Nat
  deriving DecidableEq, Repr

namespace Tunnel

def init (proxySocket : HTTPProxySocket) : Tunnel :=
  { proxySocket, adapterSocket := none, delegate := true, readySignal := 0,
    isCancelled := false, status := .invalid, resolving := none, unresolved := false,
    delayedReads := 0, didClose := 0 }

def withProxy (tunnel : Tunnel) (proxySocket : HTTPProxySocket) : Tunnel :=
  { tunnel with proxySocket }

/-- The adapter socket, if there is one, is changed. -/
def withAdapter (tunnel : Tunnel) (change : AdapterSocket → AdapterSocket) : Tunnel :=
  { tunnel with adapterSocket := tunnel.adapterSocket.map change }

def openTunnel (tunnel : Tunnel) : Tunnel :=
  if tunnel.isCancelled then tunnel
  else { tunnel.withProxy tunnel.proxySocket.openSocket with status := .readingRequest }

/-- The tunnel of a new connection. -/
def accepted : Tunnel :=
  (init .init).openTunnel

def isClosed (tunnel : Tunnel) : Bool :=
  tunnel.proxySocket.status.isDisconnected &&
    tunnel.adapterSocket.all fun adapterSocket => adapterSocket.status.isDisconnected

def checkStatus (tunnel : Tunnel) : Tunnel :=
  if tunnel.isClosed then
    { tunnel with
      status := .closed, didClose := tunnel.didClose + (if tunnel.delegate then 1 else 0),
      delegate := false }
  else
    tunnel

/-- The adapter is told to disconnect.  If its connection is cancelled, its raw socket
reports at once, and the tunnel, which is cancelled by now, checks its status. -/
def disconnectAdapter (tunnel : Tunnel) (disconnection : Disconnection) : Tunnel :=
  match tunnel.adapterSocket with
  | none => tunnel
  | some adapterSocket =>
      if adapterSocket.status.isDisconnected then tunnel
      else
        let adapterSocket := adapterSocket.disconnect disconnection
        if adapterSocket.gone then
          checkStatus { tunnel with adapterSocket := some adapterSocket.didDisconnectWith }
        else
          { tunnel with adapterSocket := some adapterSocket }

/-- `close` and `forceClose`. -/
def closeBy (tunnel : Tunnel) (disconnection : Disconnection) : Tunnel :=
  if tunnel.isCancelled then tunnel
  else
    let tunnel := { tunnel with isCancelled := true, status := .closing }
    let tunnel :=
      if tunnel.proxySocket.status.isDisconnected then tunnel
      else tunnel.withProxy (tunnel.proxySocket.disconnect disconnection)
    tunnel.disconnectAdapter disconnection

def close (tunnel : Tunnel) : Tunnel :=
  tunnel.closeBy .elegant

def forceClose (tunnel : Tunnel) : Tunnel :=
  tunnel.closeBy .immediate

/-- `didDisconnectWith(socket:)`, once the socket has its status. -/
def didDisconnect (tunnel : Tunnel) : Tunnel :=
  checkStatus (if tunnel.isCancelled then tunnel else tunnel.close)

def adapterReadData (tunnel : Tunnel) : Tunnel :=
  tunnel.withAdapter AdapterSocket.readData

/-- `didRead(data:from:)` of the proxy socket; `none` if there is no adapter, or its write
traps. -/
def didReadFromProxy (tunnel : Tunnel) (data : Data) : Option Tunnel :=
  if tunnel.isCancelled then some tunnel
  else do
    let adapterSocket ← tunnel.adapterSocket
    let adapterSocket ← adapterSocket.write data
    some { tunnel with adapterSocket := some adapterSocket }

theorem didReadFromProxy_running {tunnel after : Tunnel} {data : Data}
    (hrunning : tunnel.isCancelled = false) (h : tunnel.didReadFromProxy data = some after) :
    ∃ adapterSocket written, tunnel.adapterSocket = some adapterSocket ∧
      adapterSocket.write data = some written ∧
      after = { tunnel with adapterSocket := some written } := by
  rw [didReadFromProxy, if_neg (by simp [hrunning])] at h
  obtain ⟨adapterSocket, hadapter, h⟩ := Option.bind_eq_some_iff.mp h
  obtain ⟨written, hwrite, h⟩ := Option.bind_eq_some_iff.mp h
  exact ⟨adapterSocket, written, hadapter, hwrite, (Option.some.inj h).symm⟩

/-- `didRead(data:from:)` of the adapter socket. -/
def didReadFromAdapter (tunnel : Tunnel) (data : Data) : Tunnel :=
  if tunnel.isCancelled then tunnel
  else tunnel.withProxy (tunnel.proxySocket.write data)

/-- `proxySocket.readData()`. -/
def proxyReadData (tunnel : Tunnel) : Option Tunnel := do
  let (proxySocket, call) ← tunnel.proxySocket.readData
  match call with
  | .didRead data => (tunnel.withProxy proxySocket).didReadFromProxy data
  | _ => some (tunnel.withProxy proxySocket)

/-- `didWrite(data:by:)` of the adapter socket. -/
def adapterDidWrite (tunnel : Tunnel) : Option Tunnel :=
  if tunnel.isCancelled then some tunnel else tunnel.proxyReadData

/-- `didBecomeReadyToForwardWith(socket:)` of the proxy socket. -/
def didBecomeReadyToForward (tunnel : Tunnel) : Option Tunnel :=
  if tunnel.isCancelled then some tunnel
  else
    let tunnel := { tunnel with readySignal := tunnel.readySignal + 1 }
    if tunnel.readySignal = 2 then do
      let tunnel ← proxyReadData { tunnel with status := .forwarding }
      some tunnel.adapterReadData
    else
      some tunnel

/-- `didBecomeReadyToForwardWith(socket:)` of the adapter socket; the proxy socket
responds in the end. -/
def adapterDidBecomeReady (tunnel : Tunnel) : Option Tunnel :=
  if tunnel.isCancelled then some tunnel
  else do
    let tunnel ← tunnel.didBecomeReadyToForward
    let (proxySocket, call) := tunnel.proxySocket.respondTo
    match call with
    | .didBecomeReadyToForward => (tunnel.withProxy proxySocket).didBecomeReadyToForward
    | _ => some (tunnel.withProxy proxySocket)

variable (lib : ProxyLibraries) (manager : RuleManager)

/-- The session with its address; `country` is looked up when it is first read. -/
def resolvedSession (session : TunnelSession) (ipAddress : Text) : TunnelSession :=
  { session with ipAddress, country := (geoIPLookup lib.ip ipAddress).getD [] }

/-- `openAdapter(for:)`; `none` if no rule matches. -/
def openAdapter (tunnel : Tunnel) (session : TunnelSession) : Option Tunnel :=
  if tunnel.isCancelled then some tunnel
  else
    let (factory, matched) := manager.matchSession lib.ip.ipSyntax session.toConnectSession
    factory.map fun factory =>
      { tunnel with
        adapterSocket := some (.openSocketWith factory { matched with port := session.port }) }

/-- `didReceive(session:from:)`. -/
def didReceive (tunnel : Tunnel) (session : TunnelSession) : Option Tunnel :=
  if tunnel.isCancelled then some tunnel
  else
    let tunnel := { tunnel with status := .waitingToBeReady }
    if (lib.ip.ipSyntax.address session.host).isNone then
      some { tunnel with resolving := some session }
    else
      tunnel.openAdapter lib manager (resolvedSession lib session session.host)

/-- The resolver has answered, with addresses or an error; `none` if there are no
addresses. -/
def didResolve (tunnel : Tunnel) (session : TunnelSession) (ipv4Result : Option (List Text)) :
    Option Tunnel :=
  match ipv4Result with
  | none => tunnel.openAdapter lib manager (resolvedSession lib session [])
  | some [] => none
  | some (ipAddress :: _) =>
      tunnel.openAdapter lib manager (resolvedSession lib session ipAddress)

/-- What the proxy socket tells the tunnel. -/
def call (tunnel : Tunnel) : ProxyCall → Option Tunnel
  | .nothing => some tunnel
  | .didReceive session => tunnel.didReceive lib manager session
  | .didRead data => tunnel.didReadFromProxy data
  | .didWrite =>
      some (if tunnel.isCancelled then tunnel
        else { tunnel with delayedReads := tunnel.delayedReads + 1 })
  | .didBecomeReadyToForward => tunnel.didBecomeReadyToForward

end Tunnel

/-! ## Events -/

inductive RelayEvent where
  /-- the client's raw socket answers a read, acknowledges a write, has disconnected -/
  | proxyRead (data : Data)
  | proxyWrote
  | proxyDisconnected
  /-- the resolver answers: an error, or the IPv4 addresses -/
  | resolved (ipv4Result : Option (List Text))
  /-- the resolver could not be asked: `Resolver.resolve` has returned false -/
  | unresolved
  /-- the remote's raw socket has connected, answers a read, acknowledges a write -/
  | adapterConnected
  | adapterRead (data : Data)
  | adapterWrote
  /-- its read ends without data, or with an error -/
  | adapterReadNothing
  /-- its connection is cancelled, and it reports that it has disconnected -/
  | adapterGone
  | adapterDisconnected
  /-- it reports at once, since an error has come when its connection was cancelled -/
  | adapterFailed
  /-- a read that was put off is due -/
  | delayedRead
  /-- the server stops -/
  | forceClose
  deriving DecidableEq, Repr

namespace Tunnel

/-- The event can come. -/
def possible (tunnel : Tunnel) : RelayEvent → Bool
  | .proxyRead data =>
      tunnel.proxySocket.status ≠ .closed &&
        tunnel.proxySocket.socket.reads.head?.any (RawRead.gives data)
  | .proxyWrote =>
      tunnel.proxySocket.status ≠ .closed && 0 < tunnel.proxySocket.socket.writes
  | .proxyDisconnected => tunnel.proxySocket.status ≠ .closed
  | .resolved _ => tunnel.resolving.isSome
  | .unresolved => tunnel.resolving.isSome
  | .adapterConnected =>
      tunnel.adapterSocket.any fun adapterSocket =>
        !adapterSocket.reported && adapterSocket.connecting
  | .adapterRead data =>
      tunnel.adapterSocket.any fun adapterSocket =>
        !adapterSocket.reported && adapterSocket.socket.reads.head?.any (RawRead.gives data)
  | .adapterWrote =>
      tunnel.adapterSocket.any fun adapterSocket =>
        !adapterSocket.reported && decide (0 < adapterSocket.socket.writes)
  | .adapterReadNothing =>
      tunnel.adapterSocket.any fun adapterSocket =>
        !adapterSocket.reported && !adapterSocket.socket.reads.isEmpty
  | .adapterGone =>
      tunnel.adapterSocket.any fun adapterSocket => !adapterSocket.gone
  | .adapterDisconnected | .adapterFailed =>
      tunnel.adapterSocket.any fun adapterSocket =>
        !adapterSocket.reported && adapterSocket.gone
  | .delayedRead => 0 < tunnel.delayedReads
  | .forceClose => true

variable (lib : ProxyLibraries) (manager : RuleManager)

/-- What the event does; `none` is a trap. -/
def handle (tunnel : Tunnel) : RelayEvent → Option Tunnel
  | .proxyRead data => do
      let (proxySocket, proxyCall) ← (tunnel.proxySocket.answer data).didRead lib data
      (tunnel.withProxy proxySocket).call lib manager proxyCall
  | .proxyWrote =>
      let (proxySocket, proxyCall) := tunnel.proxySocket.acknowledge.didWrite
      (tunnel.withProxy proxySocket).call lib manager proxyCall
  | .proxyDisconnected =>
      some (tunnel.withProxy tunnel.proxySocket.didDisconnectWith).didDisconnect
  | .resolved ipv4Result =>
      match tunnel.resolving with
      | none => some tunnel
      | some session =>
          didResolve lib manager { tunnel with resolving := none } session ipv4Result
  | .unresolved => some { tunnel with resolving := none, unresolved := true }
  | .adapterConnected => (tunnel.withAdapter AdapterSocket.didConnectWith).adapterDidBecomeReady
  | .adapterRead data =>
      some ((tunnel.withAdapter fun adapterSocket => adapterSocket.answer data).didReadFromAdapter
        data)
  | .adapterWrote => (tunnel.withAdapter AdapterSocket.acknowledge).adapterDidWrite
  | .adapterReadNothing => some (tunnel.withAdapter AdapterSocket.endRead)
  | .adapterGone => some (tunnel.withAdapter AdapterSocket.lose)
  | .adapterDisconnected => some (tunnel.withAdapter AdapterSocket.report).didDisconnect
  | .adapterFailed => some (tunnel.withAdapter AdapterSocket.didDisconnectWith).didDisconnect
  | .delayedRead =>
      some (adapterReadData { tunnel with delayedReads := tunnel.delayedReads - 1 })
  | .forceClose => some tunnel.forceClose

/-- One event; `none` if it cannot come, or is a trap. -/
def step (tunnel : Tunnel) (event : RelayEvent) : Option Tunnel :=
  if tunnel.possible event then tunnel.handle lib manager event else none

end Tunnel

end QLadder
