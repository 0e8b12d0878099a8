import QLadder.IPPacket
import QLadder.NEKitRules
import QLadder.PartialRun
import QLadder.Swift

/-!
# UDP packets past the proxy

`UDPDirectStack` has a socket for every flow, that is for every pair of a sender
and a receiver.  The payload of a packet is written to the socket of its flow, and
what the socket receives goes back in a packet the other way.  A run is any order
of packets, of changes of the sockets and of data that they receive.

* `relayed_in_order` — the sockets of a flow are given the payloads of its packets, in
  their order, and nothing else;
* `replies_return` — what a socket receives goes to the sender of its flow; a short reply
  always does.
-/

namespace QLadder

open BinaryReadable PartialRun Swift

structure ConnectInfo where
  sourceAddress : IPAddress
  sourcePort : Port
  destinationAddress : IPAddress
  destinationPort : Port
  deriving DecidableEq, Repr

structure NWUDPSocket where
  /-- the flow it was made for; no step reads it -/
  flow : ConnectInfo
  host : Text
  port : UInt16
  pendingWriteData : List Data
  writing : Bool
  /-- `session.state == .ready` -/
  ready : Bool
  /-- what the session was given to send -/
  sent : List Data
  deriving DecidableEq, Repr

namespace NWUDPSocket

/-- `NWUDPSocket(host:port:)`; it fails where `createUDPSession` gives no session. -/
def init (flow : ConnectInfo) (host : Text) (port : UInt16) (session : Bool) :
    Option NWUDPSocket :=
  if session then
    some
      { flow := flow, host := host, port := port, pendingWriteData := [], writing := false,
        ready := false, sent := [] }
  else
    none

def checkWrite (socket : NWUDPSocket) : NWUDPSocket :=
  if socket.ready ∧ socket.writing = false ∧ socket.pendingWriteData ≠ [] then
    { socket with
      writing := true, sent := socket.sent ++ socket.pendingWriteData, pendingWriteData := [] }
  else
    socket

def write (socket : NWUDPSocket) (data : Data) : NWUDPSocket :=
  { socket with pendingWriteData := socket.pendingWriteData ++ [data] }.checkWrite

/-- `observeValue`, for the states that it looks at. -/
def becomeReady (socket : NWUDPSocket) (ready : Bool) : NWUDPSocket :=
  if ready then { socket with ready := true }.checkWrite else { socket with ready := false }

/-- The block of `writeMultipleDatagrams`. -/
def didWrite (socket : NWUDPSocket) : NWUDPSocket :=
  { socket with writing := false }.checkWrite

end NWUDPSocket

structure UDPDirectStack where
  activeSockets : Dict ConnectInfo Nat
  /-- all sockets that were made -/
  sockets : List NWUDPSocket
  outputs : List Data
  deriving DecidableEq, Repr

inductive UDPEvent where
  /-- a packet that is not IPv6, the host that `ConnectSession` finds for its receiver, and
  whether the tunnel provider gives a session to that host -/
  | input (packet : Data) (host : Option Text) (session : Bool)
  /-- the session of a socket becomes ready, or is so no more -/
  | becomeReady (socket : Nat) (ready : Bool)
  | didWrite (socket : Nat)
  | didReceive (data : Data) (socket : Nat)
  | didCancel (socket : Nat)
  | stop
  deriving DecidableEq, Repr

/-- Where a packet comes in, there are a host for its receiver and a session to it. -/
def UDPEvent.Connects : UDPEvent → Prop
  | .input _ host session => host.isSome = true ∧ session = true
  | _ => True

instance : DecidablePred UDPEvent.Connects
  | .input _ host session => inferInstanceAs (Decidable (host.isSome = true ∧ session = true))
  | .becomeReady _ _ | .didWrite _ | .didReceive _ _ | .didCancel _ | .stop => isTrue trivial

namespace UDPDirectStack

/-- `UDPDirectStack()`. -/
def new : UDPDirectStack :=
  { activeSockets := [], sockets := [], outputs := [] }

/-- A socket does something. -/
def update (stack : UDPDirectStack) (socket : Nat) (change : NWUDPSocket → NWUDPSocket) :
    UDPDirectStack :=
  match stack.sockets[socket]? with
  | none => stack
  | some before => { stack with sockets := stack.sockets.set socket (change before) }

/-- `findSocket(connectInfo: nil, socket: socket)`. -/
def findSocket (stack : UDPDirectStack) (socket : Nat) : Option (ConnectInfo × Nat) :=
  stack.activeSockets.find? fun entry => entry.2 = socket

/-- The flow of a packet. -/
def connectInfo (packet : IPPacket) : Option ConnectInfo := do
  let udpParser ← packet.protocolParser
  let sourceAddress ← packet.sourceAddress
  let sourcePort ← udpParser.sourcePort
  let destinationAddress ← packet.destinationAddress
  let destinationPort ← udpParser.destinationPort
  some
    { sourceAddress := sourceAddress, sourcePort := sourcePort,
      destinationAddress := destinationAddress, destinationPort := destinationPort }

/-- `findOrCreateSocketForPacket`, from the flow on. -/
def findOrCreateSocket (stack : UDPDirectStack) (connectInfo : ConnectInfo)
    (host : Option Text) (session : Bool) : Option (UDPDirectStack × Nat) :=
  match stack.activeSockets.get connectInfo with
  | some socket => some (stack, socket)
  | none => do
      let host ← host
      let udpSocket ← NWUDPSocket.init connectInfo host connectInfo.destinationPort.value session
      some
        ({ stack with
            sockets := stack.sockets ++ [udpSocket]
            activeSockets := stack.activeSockets.set connectInfo (some stack.sockets.length) },
          stack.sockets.length)

/-- `input` of a packet that was read. -/
def inputPacket (stack : UDPDirectStack) (packet : IPPacket) (host : Option Text)
    (session : Bool) : Option UDPDirectStack := do
  let udpParser ← packet.protocolParser
  let connectInfo ← connectInfo packet
  let payload ← udpParser.payload
  match stack.findOrCreateSocket connectInfo host session with
  | none => some stack
  | some (stack, socket) => some (stack.update socket fun udpSocket => udpSocket.write payload)

/-- `input`; `none` is a trap. -/
def input (stack : UDPDirectStack) (packetData : Data) (host : Option Text) (session : Bool) :
    Option UDPDirectStack :=
  if IPPacket.peekProtocol packetData = some .udp then
    match IPPacket.init packetData with
    | .ok packet => stack.inputPacket packet host session
    | .error .refused => some stack
    | .error _ => none
  else
    some stack

/-- The packet for what a flow receives. -/
def replyPacket (connectInfo : ConnectInfo) (data : Data) : Option IPPacket :=
  { IPPacket.new with
    sourceAddress := some connectInfo.destinationAddress
    destinationAddress := some connectInfo.sourceAddress
    protocolParser := some
      { UDPProtocolParser.new with
        sourcePort := some connectInfo.destinationPort
        destinationPort := some connectInfo.sourcePort
        payload := some data }
    transportProtocol := some .udp }.buildPacket

def didReceive (stack : UDPDirectStack) (data : Data) (socket : Nat) : Option UDPDirectStack :=
  match stack.findSocket socket with
  | none => some stack
  | some (connectInfo, _) => do
      let packet ← replyPacket connectInfo data
      let packetData ← packet.packetData
      some { stack with outputs := stack.outputs ++ [packetData] }

def didCancel (stack : UDPDirectStack) (socket : Nat) : UDPDirectStack :=
  match stack.findSocket socket with
  | none => stack
  | some (info, _) => { stack with activeSockets := stack.activeSockets.set info none }

def step (stack : UDPDirectStack) : UDPEvent → Option UDPDirectStack
  | .input packet host session => stack.input packet host session
  | .becomeReady socket ready => some (stack.update socket (·.becomeReady ready))
  | .didWrite socket => some (stack.update socket (·.didWrite))
  | .didReceive data socket => stack.didReceive data socket
  | .didCancel socket => some (stack.didCancel socket)
  -- the sockets are cancelled later
  | .stop => some { stack with activeSockets := [] }

/-! ## What the sockets are given -/

end UDPDirectStack

namespace NWUDPSocket

/-- The flow of a socket, and all that it was given to write. -/
def entry (socket : NWUDPSocket) : ConnectInfo × List Data :=
  (socket.flow, socket.sent ++ socket.pendingWriteData)

/-- A new socket has nothing to write. -/
theorem entry_init {flow : ConnectInfo} {host : Text} {port : UInt16} {session : Bool}
    {socket : NWUDPSocket} (h : init flow host port session = some socket) :
    socket.entry = (flow, []) := by
  rw [init] at h
  split at h
  · cases h
    rfl
  · cases h

theorem entry_checkWrite (socket : NWUDPSocket) : socket.checkWrite.entry = socket.entry := by
  rw [checkWrite]
  split
  · simp [entry]
  · rfl

theorem entry_write (socket : NWUDPSocket) (data : Data) :
    (socket.write data).entry = (socket.entry.1, socket.entry.2 ++ [data]) := by
  rw [write, entry_checkWrite]
  simp [entry]

theorem entry_becomeReady (socket : NWUDPSocket) (ready : Bool) :
    (socket.becomeReady ready).entry = socket.entry := by
  rw [becomeReady]
  split
  · exact entry_checkWrite _
  · rfl

theorem entry_didWrite (socket : NWUDPSocket) : socket.didWrite.entry = socket.entry :=
  entry_checkWrite _

end NWUDPSocket

namespace UDPDirectStack

def flows (stack : UDPDirectStack) : List ConnectInfo :=
  stack.sockets.map (·.entry.1)

/-- What the sockets of a flow were given, from the oldest socket to the newest. -/
def relayed (stack : UDPDirectStack) (info : ConnectInfo) : List Data :=
  ((stack.sockets.map (·.entry)).filter fun entry => entry.1 = info).flatMap Prod.snd

/-- The newest socket of a flow. -/
def Newest (flows : List ConnectInfo) (info : ConnectInfo) (socket : Nat) : Prop :=
  ∃ front back, flows = front ++ info :: back ∧ socket = front.length ∧ info ∉ back

/-- A flow is active with its newest socket, and flows have IPv4 addresses. -/
structure Sound (stack : UDPDirectStack) : Prop where
  newest : ∀ entry ∈ stack.activeSockets, Newest stack.flows entry.1 entry.2
  iPv4 : ∀ info ∈ stack.flows, ∃ source destination,
    info.sourceAddress = .IPv4 source ∧ info.destinationAddress = .IPv4 destination

/-- What no change of a socket touches. -/
theorem update_map {β : Type} (key : NWUDPSocket → β) {change : NWUDPSocket → NWUDPSocket}
    (h : ∀ socket, key (change socket) = key socket) (stack : UDPDirectStack) (socket : Nat) :
    (stack.update socket change).sockets.map key = stack.sockets.map key := by
  rw [update]
  split
  · rfl
  · rename_i before hbefore
    obtain ⟨hlt, rfl⟩ := List.getElem?_eq_some_iff.mp hbefore
    simp only [List.map_set, h]
    rw [← List.map_set, List.set_getElem_self]

theorem update_activeSockets (stack : UDPDirectStack) (socket : Nat)
    (change : NWUDPSocket → NWUDPSocket) :
    (stack.update socket change).activeSockets = stack.activeSockets := by
  rw [update]
  split <;> rfl

/-- Flows may become inactive. -/
theorem Sound.of_subset {stack after : UDPDirectStack} (h : stack.Sound)
    (hactive : ∀ entry ∈ after.activeSockets, entry ∈ stack.activeSockets)
    (hflows : after.flows = stack.flows) : after.Sound where
  newest entry hentry := hflows ▸ h.newest entry (hactive entry hentry)
  iPv4 := hflows ▸ h.iPv4

theorem mem_of_get {dict : Dict ConnectInfo Nat} {info : ConnectInfo} {socket : Nat}
    (h : dict.get info = some socket) : (info, socket) ∈ dict := by
  obtain ⟨before, after, hsplit, -⟩ := List.lookup_eq_some_iff.mp h
  rw [hsplit]
  exact List.mem_append_right _ List.mem_cons_self

/-- **A socket** for the flow: the one that is there, or a new one. -/
theorem findOrCreateSocket_cases {stack mid : UDPDirectStack} {info : ConnectInfo}
    {host : Option Text} {session : Bool} {socket : Nat}
    (h : stack.findOrCreateSocket info host session = some (mid, socket)) (hsound : stack.Sound)
    {source destination : BitVec 32} (hsource : info.sourceAddress = .IPv4 source)
    (hdestination : info.destinationAddress = .IPv4 destination) :
    mid.Sound ∧ (info, socket) ∈ mid.activeSockets ∧
      ∀ other, mid.relayed other = stack.relayed other := by
  rw [findOrCreateSocket] at h
  cases hget : stack.activeSockets.get info with
  | some active =>
      rw [hget] at h
      cases h
      exact ⟨hsound, mem_of_get hget, fun _ => rfl⟩
  | none =>
      rw [hget] at h
      obtain ⟨name, -, hcreated⟩ := Option.bind_eq_some_iff.mp h
      obtain ⟨udpSocket, hudpSocket, hmid⟩ := Option.bind_eq_some_iff.mp hcreated
      cases hmid
      have hentry := NWUDPSocket.entry_init hudpSocket
      have hfresh : (stack.sockets ++ [udpSocket]).map (·.entry.1) = stack.flows ++ [info] := by
        rw [List.map_append, List.map_singleton, hentry]
        rfl
      refine ⟨⟨fun entry hactive => ?_, fun other hother => ?_⟩, List.mem_cons_self,
        fun other => ?_⟩
      · rw [flows, hfresh]
        cases List.mem_cons.mp hactive with
        | inl heq =>
            subst heq
            exact ⟨stack.flows, [], rfl, by rw [flows, List.length_map], nofun⟩
        | inr hold =>
            obtain ⟨hold, hne⟩ := List.mem_filter.mp hold
            obtain ⟨front, back, hsplit, hlength, hback⟩ := hsound.newest entry hold
            refine ⟨front, back ++ [info], by simp [hsplit], hlength, ?_⟩
            simp only [List.mem_append, List.mem_singleton, not_or]
            exact ⟨hback, of_decide_eq_true hne⟩
      · rw [flows, hfresh] at hother
        cases List.mem_append.mp hother with
        | inl hold => exact hsound.iPv4 other hold
        | inr hnew =>
            rw [List.mem_singleton.mp hnew]
            exact ⟨source, destination, hsource, hdestination⟩
      · simp only [relayed, List.map_append, List.filter_append, List.flatMap_append]
        by_cases hother : info = other <;> simp [hentry, hother]

/-- **A payload** is written to the newest socket of its flow. -/
theorem relayed_write {stack : UDPDirectStack} {info : ConnectInfo} {socket : Nat}
    (h : Newest stack.flows info socket) (payload : Data) (other : ConnectInfo) :
    (stack.update socket (·.write payload)).relayed other =
      stack.relayed other ++ if info = other then [payload] else [] := by
  obtain ⟨front, back, hsplit, hlength, hback⟩ := h
  obtain ⟨before, rest, hsockets, hbefore, hrest⟩ := List.map_eq_append_iff.mp hsplit
  obtain ⟨udpSocket, after, rfl, hflow, hafter⟩ := List.map_eq_cons_iff.mp hrest
  have hplace : socket = before.length := by
    rw [hlength, ← hbefore, List.length_map]
  have hupdate : (stack.update socket (·.write payload)).sockets =
      before ++ udpSocket.write payload :: after := by
    rw [update, hsockets, hplace, List.getElem?_append_right (Nat.le_refl _), Nat.sub_self]
    simp
  have hnone : info = other → (after.map (·.entry)).filter (fun entry => entry.1 = other) = [] := by
    rintro rfl
    rw [List.filter_eq_nil_iff]
    intro entry hentry heq
    obtain ⟨later, hlater, rfl⟩ := List.mem_map.mp hentry
    apply hback
    rw [← hafter, ← of_decide_eq_true heq]
    exact List.mem_map_of_mem hlater
  simp only [relayed, hupdate, hsockets, List.map_append, List.map_cons, List.filter_append,
    List.flatMap_append, NWUDPSocket.entry_write]
  by_cases hother : info = other
  · simp [hother, hflow, hnone hother]
  · simp [hother, hflow]

/-- The payload of a packet of the flow. -/
def payloadsOf (info : ConnectInfo) : UDPEvent → List Data
  | .input packetData _ _ =>
      if IPPacket.peekProtocol packetData = some .udp then
        match IPPacket.init packetData with
        | .ok packet =>
            if connectInfo packet = some info then
              (packet.protocolParser.bind (·.payload)).toList
            else
              []
        | .error _ => []
      else
        []
  | _ => []

/-- A packet that was read has a flow between IPv4 addresses. -/
theorem connectInfo_of_readFrom {packet : IPPacket} {data : Data} (h : packet.ReadFrom data) :
    ∃ info source destination, connectInfo packet = some info ∧
      info.sourceAddress = .IPv4 source ∧ info.destinationAddress = .IPv4 destination := by
  rw [connectInfo, h.protocolParser, h.sourceAddress, h.destinationAddress]
  exact ⟨_, _, _, rfl, rfl, rfl⟩

/-- **A packet** is written to a socket of its flow, or to none. -/
theorem inputPacket_cases {stack after : UDPDirectStack} {packet : IPPacket} {data : Data}
    {host : Option Text} {session : Bool} (hread : packet.ReadFrom data)
    (h : stack.inputPacket packet host session = some after) (hsound : stack.Sound) :
    after.Sound ∧ (host.isSome = true → session = true → ∀ info,
      after.relayed info = stack.relayed info ++
        if connectInfo packet = some info then
          (packet.protocolParser.bind (·.payload)).toList
        else []) := by
  obtain ⟨info, source, destination, hinfo, hsource, hdestination⟩ := connectInfo_of_readFrom hread
  have hparser := hread.protocolParser
  simp only [inputPacket, hparser, hinfo, bind, Option.bind_some] at h
  cases hfind : stack.findOrCreateSocket info host session with
  | none =>
      rw [hfind] at h
      cases h
      refine ⟨hsound, fun hhost hsession => ?_⟩
      obtain ⟨name, rfl⟩ := Option.isSome_iff_exists.mp hhost
      rw [findOrCreateSocket] at hfind
      split at hfind <;> simp [NWUDPSocket.init, hsession] at hfind
  | some found =>
      rw [hfind] at h
      cases h
      obtain ⟨hmid, hactive, hrelayed⟩ :=
        findOrCreateSocket_cases hfind hsound hsource hdestination
      have hflows : ∀ payload : Data, (found.1.update found.2 (·.write payload)).flows =
          found.1.flows := fun payload =>
        update_map (·.entry.1) (fun socket => by rw [NWUDPSocket.entry_write]) _ _
      refine ⟨hmid.of_subset (fun entry hentry => ?_) (hflows _), fun _ _ other => ?_⟩
      · rwa [update_activeSockets] at hentry
      · rw [relayed_write (hmid.newest _ hactive), hrelayed, hinfo, hparser]
        simp only [Option.some.injEq, Option.bind_some, Option.toList_some]

/-- The step of a socket, or of the table. -/
theorem Sound.keeps {stack after : UDPDirectStack} (h : stack.Sound)
    (hactive : ∀ entry ∈ after.activeSockets, entry ∈ stack.activeSockets)
    (hsockets : after.sockets.map (·.entry) = stack.sockets.map (·.entry)) :
    after.Sound ∧ ∀ info, after.relayed info = stack.relayed info := by
  have hflows : after.flows = stack.flows := by
    have hkeys := congrArg (List.map Prod.fst) hsockets
    rwa [List.map_map, List.map_map] at hkeys
  exact ⟨h.of_subset hactive hflows, fun info => by rw [relayed, relayed, hsockets]⟩

/-- **A step.**  Flows stay with their newest sockets, and a socket is given the payload of a
packet of its flow, or nothing. -/
theorem Sound.step {stack after : UDPDirectStack} {event : UDPEvent} (hsound : stack.Sound)
    (h : stack.step event = some after) :
    after.Sound ∧ (event.Connects →
      ∀ info, after.relayed info = stack.relayed info ++ payloadsOf info event) := by
  have hkeeps : (∀ entry ∈ after.activeSockets, entry ∈ stack.activeSockets) →
      after.sockets.map (·.entry) = stack.sockets.map (·.entry) →
      (∀ info, payloadsOf info event = []) →
      after.Sound ∧ (event.Connects →
        ∀ info, after.relayed info = stack.relayed info ++ payloadsOf info event) := by
    intro hactive hsockets hnothing
    obtain ⟨hafter, hrelayed⟩ := hsound.keeps hactive hsockets
    exact ⟨hafter, fun _ info => by rw [hrelayed, hnothing, List.append_nil]⟩
  cases event with
  | input packetData host session =>
      rw [UDPDirectStack.step, input] at h
      split at h
      · rename_i hudp
        cases hinit : IPPacket.init packetData with
        | ok packet =>
            rw [hinit] at h
            obtain ⟨hafter, hrelayed⟩ :=
              inputPacket_cases (IPPacket.readFrom_of_init hinit) h hsound
            refine ⟨hafter, fun hconnects info => ?_⟩
            simp only [payloadsOf, if_pos hudp, hinit]
            exact hrelayed hconnects.1 hconnects.2 info
        | error reason =>
            rw [hinit] at h
            cases reason with
            | refused =>
                cases h
                exact hkeeps (fun _ => id) rfl fun info => by
                  simp only [payloadsOf, if_pos hudp, hinit]
            | trap => cases h
            | unfinished => cases h
      · rename_i hother
        cases h
        exact hkeeps (fun _ => id) rfl fun info => if_neg hother
  | becomeReady socket ready =>
      cases h
      exact hkeeps (fun entry hentry => by rwa [update_activeSockets] at hentry)
        (update_map _ (fun udpSocket => udpSocket.entry_becomeReady ready) _ _) fun _ => rfl
  | didWrite socket =>
      cases h
      exact hkeeps (fun entry hentry => by rwa [update_activeSockets] at hentry)
        (update_map _ NWUDPSocket.entry_didWrite _ _) fun _ => rfl
  | didReceive data socket =>
      rw [UDPDirectStack.step, didReceive] at h
      split at h
      · cases h
        exact hkeeps (fun _ => id) rfl fun _ => rfl
      · obtain ⟨packet, -, h⟩ := Option.bind_eq_some_iff.mp h
        obtain ⟨packetData, -, h⟩ := Option.bind_eq_some_iff.mp h
        cases h
        exact hkeeps (fun _ => id) rfl fun _ => rfl
  | didCancel socket =>
      cases h
      rw [didCancel] at hkeeps ⊢
      split at hkeeps
      · exact hkeeps (fun _ => id) rfl fun _ => rfl
      · exact hkeeps (fun entry hentry => (List.mem_filter.mp hentry).1) rfl fun _ => rfl
  | stop =>
      cases h
      exact hkeeps nofun rfl fun _ => rfl

theorem sound_new : new.Sound :=
  ⟨nofun, nofun⟩

theorem Sound.run {stack after : UDPDirectStack} {events : List UDPEvent} (hsound : stack.Sound)
    (h : run UDPDirectStack.step stack events = some after) : after.Sound :=
  run_preserves Sound (fun _ _ _ hstack hstep => (hstack.step hstep).1) hsound h

/-- **In order.**  If there are a host and a session for every packet, the sockets of a flow are
given the payloads of its packets, in their order, each once, and nothing else. -/
theorem relayed_in_order {stack : UDPDirectStack} {events : List UDPEvent}
    (h : run step new events = some stack)
    (hconnects : ∀ event ∈ events, event.Connects) (info : ConnectInfo) :
    stack.relayed info = events.flatMap (payloadsOf info) := by
  suffices hall : ∀ start : UDPDirectStack, start.Sound → run step start events = some stack →
      stack.relayed info = start.relayed info ++ events.flatMap (payloadsOf info) from
    hall new sound_new h
  clear h
  induction events with
  | nil =>
      intro start _ h
      cases h
      rw [List.flatMap_nil, List.append_nil]
  | cons event events ih =>
      intro start hsound h
      obtain ⟨mid, hstep, hrest⟩ := run_cons_some h
      obtain ⟨hmid, hrelayed⟩ := hsound.step hstep
      rw [ih (fun event hmem => hconnects event (List.mem_cons_of_mem _ hmem)) mid hmid hrest,
        hrelayed (hconnects event List.mem_cons_self), List.flatMap_cons, List.append_assoc]

/-- Two packets of a flow, one before the socket is ready and one after. -/
def twoPackets : List UDPEvent :=
  [.input IPPacket.fiveBytesData (some (text "8.8.8.8")) true, .becomeReady 0 true,
    .input IPPacket.fiveBytesData (some (text "8.8.8.8")) true, .didWrite 0]

/-- The flow of those packets. -/
def fiveBytesFlow : ConnectInfo :=
  { sourceAddress := .IPv4 0x0A000001#32, sourcePort := .ofPort 1234,
    destinationAddress := .IPv4 0x08080808#32, destinationPort := .ofPort 53 }

theorem relayed_twoPackets :
    ∃ stack, run step new twoPackets = some stack ∧
      stack.relayed fiveBytesFlow = [[1, 2, 3, 255, 254], [1, 2, 3, 255, 254]] := by
  obtain ⟨stack, hstack⟩ : ∃ stack, run step new twoPackets = some stack :=
    Option.isSome_iff_exists.mp (by decide +kernel)
  have hpayloads : twoPackets.flatMap (payloadsOf fiveBytesFlow) =
      [[1, 2, 3, 255, 254], [1, 2, 3, 255, 254]] := by
    decide +kernel
  exact ⟨stack, hstack,
    (relayed_in_order hstack (by decide) fiveBytesFlow).trans hpayloads⟩

/-- One packet goes out that brings `data` from the receiver of the socket's flow to its
sender. -/
def Replies (stack : UDPDirectStack) (data : Data) (socket : Nat) (after : UDPDirectStack) :
    Prop :=
  ∃ udpSocket answer read parser, stack.sockets[socket]? = some udpSocket ∧
    after = { stack with outputs := stack.outputs ++ [answer] } ∧
    IPPacket.init answer = .ok read ∧
    read.sourceAddress = some udpSocket.flow.destinationAddress ∧
    read.destinationAddress = some udpSocket.flow.sourceAddress ∧
    read.protocolParser = some parser ∧
    parser.sourcePort = some udpSocket.flow.destinationPort ∧
    parser.destinationPort = some udpSocket.flow.sourcePort ∧ parser.payload = some data

/-- The datagram of a reply. -/
def replyDatagram (info : ConnectInfo) (source destination : BitVec 32) (data : Data) :
    Datagram :=
  { source := destination, sourcePort := info.destinationPort, destination := source,
    destinationPort := info.sourcePort, payload := data }

theorem replyPacket_eq {info : ConnectInfo} {source destination : BitVec 32}
    (hsource : info.sourceAddress = .IPv4 source)
    (hdestination : info.destinationAddress = .IPv4 destination) (data : Data) :
    replyPacket info data = (replyDatagram info source destination data).packet.buildPacket := by
  rw [replyPacket, hsource, hdestination]
  rfl

/-- An active flow is one of IPv4 addresses, and its socket was made for it. -/
theorem Sound.found {stack : UDPDirectStack} (hsound : stack.Sound) {socket : Nat}
    {entry : ConnectInfo × Nat} (hfind : stack.findSocket socket = some entry) :
    (∃ udpSocket, stack.sockets[socket]? = some udpSocket ∧ udpSocket.flow = entry.1) ∧
      ∃ source destination, entry.1.sourceAddress = .IPv4 source ∧
        entry.1.destinationAddress = .IPv4 destination := by
  have hmem := List.mem_of_find?_eq_some hfind
  have hsocket : entry.2 = socket := by
    rw [findSocket] at hfind
    have hfound := List.find?_some hfind
    exact of_decide_eq_true hfound
  obtain ⟨front, back, hsplit, hlength, -⟩ := hsound.newest entry hmem
  refine ⟨?_, hsound.iPv4 entry.1 ?_⟩
  · have hget : stack.flows[socket]? = some entry.1 := by
      rw [hsplit, ← hsocket, hlength, List.getElem?_append_right (Nat.le_refl _), Nat.sub_self]
      rfl
    rw [flows, List.getElem?_map] at hget
    exact Option.map_eq_some_iff.mp hget
  · rw [hsplit]
    exact List.mem_append_right _ List.mem_cons_self

/-- **Replies.**  What a socket receives that is not active any more is dropped.  Otherwise it
goes back, unless the packet cannot be built; one of at most 502 bytes always can. -/
theorem replies_return {stack : UDPDirectStack} {events : List UDPEvent}
    (h : run step new events = some stack) (data : Data) (socket : Nat) :
    (stack.findSocket socket = none → stack.step (.didReceive data socket) = some stack) ∧
      (stack.findSocket socket ≠ none →
        (∀ after, stack.step (.didReceive data socket) = some after →
          stack.Replies data socket after) ∧
        (data.length ≤ 502 → ∃ after, stack.step (.didReceive data socket) = some after)) := by
  have hsound := sound_new.run h
  rw [step, didReceive]
  refine ⟨fun hnone => by rw [hnone], fun hactive => ?_⟩
  obtain ⟨entry, hfind⟩ := Option.ne_none_iff_exists'.mp hactive
  obtain ⟨⟨udpSocket, hudpSocket, hflow⟩, source, destination, hsource, hdestination⟩ :=
    hsound.found hfind
  obtain ⟨datagram, hdatagram⟩ : ∃ datagram,
      datagram = replyDatagram entry.1 source destination data := ⟨_, rfl⟩
  have hreply : replyPacket entry.1 data = datagram.packet.buildPacket := by
    rw [hdatagram]
    exact replyPacket_eq hsource hdestination data
  simp only [hfind, hreply]
  refine ⟨fun after hafter => ?_, fun hshort => ?_⟩
  · obtain ⟨packet, hpacket, hafter⟩ := Option.bind_eq_some_iff.mp hafter
    obtain ⟨answer, hanswer, hafter⟩ := Option.bind_eq_some_iff.mp hafter
    obtain ⟨_, read, hdata, hread, hcarries⟩ :=
      IPPacket.built_read datagram.carries datagram.headerFits hpacket
    cases hanswer.symm.trans hdata
    obtain ⟨packetData, offset, hparser⟩ := hcarries.protocolParser
    refine ⟨udpSocket, answer, read, _, hudpSocket, (Option.some.inj hafter).symm, hread, ?_, ?_,
      hparser, ?_⟩
    · rw [hcarries.sourceAddress, hflow, hdestination, hdatagram]
      rfl
    · rw [hcarries.destinationAddress, hflow, hsource, hdatagram]
      rfl
    · rw [hflow, hdatagram]
      exact ⟨rfl, rfl, rfl⟩
  · have hbuilds : datagram.packet.buildPacket.isSome = true :=
      IPPacket.isSome_buildPacket_short datagram.carries datagram.headerFits (by
        rw [hdatagram]
        exact hshort)
    obtain ⟨packet, hpacket⟩ := Option.isSome_iff_exists.mp hbuilds
    obtain ⟨answer, _, hanswer, -⟩ :=
      IPPacket.built_read datagram.carries datagram.headerFits hpacket
    exact ⟨_, Option.bind_eq_some_iff.mpr
      ⟨packet, hpacket, Option.bind_eq_some_iff.mpr ⟨answer, hanswer, rfl⟩⟩⟩

theorem reply_twoPackets :
    ∃ stack after, run step new twoPackets = some stack ∧
      stack.step (.didReceive [7, 8] 0) = some after ∧ stack.Replies [7, 8] 0 after := by
  have hactive : (run step new twoPackets).any
      (fun stack => (stack.findSocket 0).isSome) = true := by
    decide +kernel
  obtain ⟨stack, hstack, hfound⟩ := (Option.any_eq_true _ _).mp hactive
  obtain ⟨-, hreturns⟩ := replies_return hstack [7, 8] 0
  obtain ⟨hreplies, hsent⟩ := hreturns (Option.isSome_iff_ne_none.mp hfound)
  obtain ⟨after, hstep⟩ := hsent (by decide)
  exact ⟨stack, after, hstack, hstep, hreplies after hstep⟩

end UDPDirectStack

end QLadder
