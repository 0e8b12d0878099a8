import QLadder.Tunnel

/-!
# The bytes of a connection

What holds of a connection whatever has happened (`Flow`), and why closing keeps it.

A tunnel that is not cancelled is reading the request, waiting for the remote,
answering a CONNECT, or forwarding (`Stage`).  Each direction has one token: a read
that was asked for, a write that was handed over, or a read that was put off.  What
the remote should get is `relayed` of what the client has sent: it has been sent on,
waits for the remote to connect, or is to come.
-/

namespace QLadder

open PartialRun HTTPStreamScanner

variable {lib : ProxyLibraries} {manager : RuleManager}

/-! ## The proxy socket -/

theorem forwardedHeader_isConnect {header forwarded : HTTPHeader}
    (h : forwardedHeader lib.http header = some forwarded) :
    forwarded.isConnect = header.isConnect := by
  cases HTTPHeader.rewriteToRelativePath_some h with
  | inl hsame =>
      rw [hsame]
      rfl
  | inr hpath =>
      obtain ⟨rewrotePath, -, heq⟩ := hpath
      rw [heq]
      rfl

namespace HTTPProxySocket

/-- The read is the one the scanner wants, and `didRead` expects its data. -/
def Asks (proxySocket : HTTPProxySocket) (read : RawRead) : Prop :=
  match proxySocket.scanner.nextAction with
  | .readHeader =>
      read = .doubleCRLF ∧ proxySocket.readStatus =
        if proxySocket.scanner.currentHeader.isNone then .readingFirstHeader else .readingHeader
  | .readContent length =>
      read = (if 0 < length then .length length else .data) ∧
        proxySocket.readStatus = .readingContent
  | .stop => False

theorem Asks.answers {proxySocket : HTTPProxySocket} {read : RawRead} {data : Data}
    (h : proxySocket.Asks read) (hgives : read.gives data = true) :
    proxySocket.scanner.Answers data := by
  unfold Asks at h
  unfold Answers
  cases haction : proxySocket.scanner.nextAction with
  | readHeader =>
      rw [haction] at h
      rw [h.1] at hgives
      exact of_decide_eq_true hgives
  | readContent length =>
      rw [haction] at h
      intro hpos
      rw [h.1, if_pos hpos] at hgives
      exact of_decide_eq_true hgives
  | stop => trivial

/-- What `didRead` does with the data of a read that was asked for. -/
inductive Reads (lib : ProxyLibraries) (proxySocket : HTTPProxySocket) (data : Data) :
    HTTPProxySocket → ProxyCall → Prop
  /-- the scanner throws -/
  | gives_up (scanner : HTTPStreamScanner)
      (stop : scanner.nextAction = .stop)
      (nothing : ∀ more, toCome lib.http proxySocket.scanner (data ++ more) = []) :
      Reads lib proxySocket data (disconnect { proxySocket with scanner } .elegant) .nothing
  /-- the first header -/
  | request (scanner : HTTPStreamScanner) (forwarded : HTTPHeader)
      (ready : scanner.Ready) (current : scanner.currentHeader.isSome = true)
      (first : proxySocket.scanner.currentHeader = none)
      (next : ∀ more, toCome lib.http proxySocket.scanner (data ++ more) =
        (if forwarded.isConnect then [] else forwarded.toData) ++ toCome lib.http scanner more) :
      Reads lib proxySocket data
        { proxySocket with
          scanner, currentHeader := some forwarded, isConnectCommand := forwarded.isConnect
          readStatus := if forwarded.isConnect then .readingContent else .pendingFirstHeader
          session := some (connectSession lib forwarded) }
        (.didReceive (connectSession lib forwarded))
  /-- a later header, or content -/
  | piece (scanner : HTTPStreamScanner) (currentHeader : Option HTTPHeader) (out : Data)
      (ready : scanner.Ready) (current : scanner.currentHeader.isSome = true)
      (later : proxySocket.scanner.currentHeader.isSome = true)
      (next : ∀ more, toCome lib.http proxySocket.scanner (data ++ more) =
        out ++ toCome lib.http scanner more) :
      Reads lib proxySocket data { proxySocket with scanner, currentHeader } (.didRead out)

theorem didRead_reads {proxySocket after : HTTPProxySocket} {read : RawRead} {data : Data}
    {proxyCall : ProxyCall} (hready : proxySocket.scanner.Ready) (hasks : proxySocket.Asks read)
    (hgives : read.gives data = true)
    (h : proxySocket.didRead lib data = some (after, proxyCall)) :
    Reads lib proxySocket data after proxyCall := by
  have hanswers := hasks.answers hgives
  replace h := didScan_of_didRead h
  unfold didScan at h
  cases hinput : proxySocket.scanner.input lib.http data with
  | mk result scanner =>
      rw [hinput] at h
      cases result with
      | error error =>
          obtain ⟨hstop, hnothing⟩ := relayed_error hready hanswers hinput
          cases h
          exact .gives_up scanner hstop hnothing
      | ok result =>
          unfold Asks at hasks
          cases result with
          | content content =>
              obtain ⟨rfl, hready', hcurrent, hnext⟩ := relayed_content hready hinput
              obtain ⟨-, length, haction, -⟩ := input_content hinput
              rw [haction] at hasks
              rw [Ready, haction] at hready
              obtain ⟨header, hheader⟩ := hready.1
              simp only [hasks.2] at h
              cases h
              rw [← hasks.2]
              refine .piece scanner _ content hready' ?_ ?_ hnext
              · rw [hcurrent, hheader]
                rfl
              · rw [hheader]
                rfl
          | header header =>
              obtain ⟨haction, -, -⟩ := input_header hinput
              rw [haction] at hasks
              cases hcurrent : proxySocket.scanner.currentHeader with
              | none =>
                  have hstatus : proxySocket.readStatus = .readingFirstHeader := by
                    rw [hasks.2, hcurrent]
                    rfl
                  simp only [hstatus, Option.bind_eq_bind, Option.bind_eq_some_iff] at h
                  obtain ⟨forwarded, hforwarded, heq⟩ := h
                  obtain ⟨hready', hheader, hnext⟩ :=
                    relayed_header hready hanswers hinput hforwarded
                  cases heq
                  refine .request scanner forwarded hready' ?_ hcurrent ?_
                  · rw [hheader]
                    rfl
                  · intro more
                    rw [hnext more, hcurrent, forwardedHeader_isConnect hforwarded]
                    simp
              | some current =>
                  have hstatus : proxySocket.readStatus = .readingHeader := by
                    rw [hasks.2, hcurrent]
                    rfl
                  simp only [hstatus, Option.bind_eq_bind, Option.bind_eq_some_iff] at h
                  obtain ⟨forwarded, hforwarded, heq⟩ := h
                  obtain ⟨hready', hheader, hnext⟩ :=
                    relayed_header hready hanswers hinput hforwarded
                  cases heq
                  rw [← hstatus]
                  refine .piece scanner (some forwarded) forwarded.toData hready' ?_ ?_ ?_
                  · rw [hheader]
                    rfl
                  · rw [hcurrent]
                    rfl
                  · intro more
                    rw [hnext more, hcurrent]
                    simp

/-- The first header has been returned. -/
def PastFirst (readStatus : HTTPProxyReadStatus) : Prop :=
  readStatus ≠ .readingFirstHeader ∧ readStatus ≠ .pendingFirstHeader

/-- What `readData` may change while content or a later header is due. -/
structure Continues (before after : HTTPProxySocket) : Prop where
  readStatus : PastFirst after.readStatus
  writeStatus : after.writeStatus = before.writeStatus
  scanner : after.scanner = before.scanner
  isConnectCommand : after.isConnectCommand = before.isConnectCommand
  writes : after.socket.writes = before.socket.writes
  received : after.socket.received = before.socket.received
  sent : after.socket.sent = before.socket.sent
  opened : after.isCancelled = false → before.isCancelled = false
  reads : after.isCancelled = true ∧ after.socket.reads = before.socket.reads ∨
    ∃ read, after.socket.reads = before.socket.reads ++ [read] ∧ after.Asks read

theorem readData_continues {proxySocket : HTTPProxySocket}
    (hcurrent : proxySocket.scanner.nextAction ≠ .stop →
      proxySocket.scanner.currentHeader.isSome = true)
    (hstatus : PastFirst proxySocket.readStatus) :
    ∃ after, proxySocket.readData = some (after, .nothing) ∧ Continues proxySocket after := by
  unfold readData
  by_cases hcancelled : proxySocket.isCancelled = true
  · refine ⟨proxySocket, by rw [if_pos hcancelled], ?_⟩
    exact ⟨hstatus, rfl, rfl, rfl, rfl, rfl, rfl, fun h => h, Or.inl ⟨hcancelled, rfl⟩⟩
  · have hopened : proxySocket.isCancelled = false := Bool.eq_false_iff.mpr hcancelled
    rw [if_neg hcancelled, if_neg hstatus.2]
    cases haction : proxySocket.scanner.nextAction with
    | readContent length =>
        refine ⟨_, rfl, ⟨by simp [PastFirst], rfl, rfl, rfl, rfl, rfl, rfl, fun _ => hopened, ?_⟩⟩
        exact Or.inr ⟨_, rfl, by simp [Asks, haction]⟩
    | readHeader =>
        have hsome : proxySocket.scanner.currentHeader.isNone = false := by
          rw [← Option.not_isSome, hcurrent (by simp [haction])]
          rfl
        refine ⟨_, rfl, ⟨by simp [PastFirst], rfl, rfl, rfl, rfl, rfl, rfl, fun _ => hopened, ?_⟩⟩
        exact Or.inr ⟨_, rfl, by simp [Asks, haction, hsome]⟩
    | stop =>
        refine ⟨_, rfl, ?_⟩
        unfold disconnect
        rw [if_neg (by simp [hopened])]
        exact ⟨by simp [PastFirst], rfl, rfl, rfl, rfl, rfl, rfl, fun _ => hopened,
          Or.inl ⟨rfl, rfl⟩⟩

theorem disconnect_keeps (proxySocket : HTTPProxySocket) (disconnection : Disconnection) :
    (proxySocket.disconnect disconnection).readStatus = proxySocket.readStatus ∧
      (proxySocket.disconnect disconnection).writeStatus = proxySocket.writeStatus ∧
      (proxySocket.disconnect disconnection).scanner = proxySocket.scanner ∧
      (proxySocket.disconnect disconnection).isConnectCommand = proxySocket.isConnectCommand ∧
      (proxySocket.disconnect disconnection).currentHeader = proxySocket.currentHeader ∧
      (proxySocket.disconnect disconnection).socket.reads = proxySocket.socket.reads ∧
      (proxySocket.disconnect disconnection).socket.writes = proxySocket.socket.writes ∧
      (proxySocket.disconnect disconnection).socket.received = proxySocket.socket.received ∧
      (proxySocket.disconnect disconnection).socket.sent = proxySocket.socket.sent := by
  unfold disconnect
  split <;> exact ⟨rfl, rfl, rfl, rfl, rfl, rfl, rfl, rfl, rfl⟩

theorem disconnect_isCancelled (proxySocket : HTTPProxySocket) (disconnection : Disconnection) :
    (proxySocket.disconnect disconnection).isCancelled = true := by
  unfold disconnect
  split
  · assumption
  · rfl

/-- The first read is for the first header. -/
theorem Asks.first {proxySocket : HTTPProxySocket} {read : RawRead} (h : proxySocket.Asks read)
    (hstatus : proxySocket.readStatus = .readingFirstHeader) :
    proxySocket.scanner.currentHeader = none := by
  unfold Asks at h
  cases haction : proxySocket.scanner.nextAction with
  | stop =>
      rw [haction] at h
      cases h
  | readContent length =>
      rw [haction] at h
      have hcontent := hstatus.symm.trans h.2
      cases hcontent
  | readHeader =>
      rw [haction] at h
      cases hcurrent : proxySocket.scanner.currentHeader with
      | none => rfl
      | some current =>
          have hheader := hstatus.symm.trans h.2
          rw [hcurrent] at hheader
          cases hheader

end HTTPProxySocket

namespace Tunnel

/-! ## What has passed -/

/-- The bytes that the client has sent. -/
def fromClient (tunnel : Tunnel) : Data :=
  tunnel.proxySocket.socket.received.flatten

/-- The bytes that the client has been given. -/
def toClient (tunnel : Tunnel) : Data :=
  tunnel.proxySocket.socket.sent.flatten

/-- The bytes that the adapter has delivered. -/
def fromRemote (tunnel : Tunnel) : Data :=
  (tunnel.adapterSocket.map fun adapterSocket => adapterSocket.socket.received.flatten).getD []

/-- The bytes that the adapter has been given. -/
def toRemote (tunnel : Tunnel) : Data :=
  (tunnel.adapterSocket.map fun adapterSocket => adapterSocket.socket.sent.flatten).getD []

/-- The tokens on the way from the client to the remote. -/
def outbound (tunnel : Tunnel) : Nat :=
  tunnel.proxySocket.socket.reads.length +
    (tunnel.adapterSocket.map fun adapterSocket => adapterSocket.socket.writes).getD 0

/-- The tokens on the way back. -/
def inbound (tunnel : Tunnel) : Nat :=
  tunnel.proxySocket.socket.writes + tunnel.delayedReads +
    (tunnel.adapterSocket.map fun adapterSocket => adapterSocket.socket.reads.length).getD 0

/-- The tokens that were lost on the way back: reads that have ended without data. -/
def lost (tunnel : Tunnel) : Nat :=
  (tunnel.adapterSocket.map fun adapterSocket => adapterSocket.socket.ended).getD 0

/-- The tokens on the way back, and those that were lost there. -/
def returning (tunnel : Tunnel) : Nat :=
  tunnel.proxySocket.socket.writes + tunnel.delayedReads +
    (tunnel.adapterSocket.map fun adapterSocket =>
      adapterSocket.socket.reads.length + adapterSocket.socket.ended).getD 0

theorem returning_eq (tunnel : Tunnel) : tunnel.returning = tunnel.inbound + tunnel.lost := by
  cases hadapter : tunnel.adapterSocket <;>
    simp [returning, inbound, lost, hadapter, Nat.add_assoc]

/-- The answer to a CONNECT, once it has been sent. -/
def response (tunnel : Tunnel) : Data :=
  if tunnel.proxySocket.isConnectCommand = true ∧ tunnel.proxySocket.writeStatus ≠ .invalid then
    connectSuccessResponse
  else
    []

/-- A header that waits for the remote. -/
def pendingHeader (tunnel : Tunnel) : Data :=
  if tunnel.proxySocket.readStatus = .pendingFirstHeader then
    (tunnel.proxySocket.currentHeader.map HTTPHeader.toData).getD []
  else
    []

/-! ## Stages -/

structure Reading (tunnel : Tunnel) : Prop where
  status : tunnel.status = .readingRequest
  noAdapter : tunnel.adapterSocket = none
  noSession : tunnel.resolving = none
  readySignal : tunnel.readySignal = 0
  delayedReads : tunnel.delayedReads = 0
  writes : tunnel.proxySocket.socket.writes = 0
  sent : tunnel.proxySocket.socket.sent = []
  writeStatus : tunnel.proxySocket.writeStatus = .invalid
  readStatus : tunnel.proxySocket.readStatus = .readingFirstHeader
  reads : tunnel.proxySocket.isCancelled = true ∧ tunnel.proxySocket.socket.reads = [] ∨
    tunnel.proxySocket.isCancelled = false ∧
      ∃ read, tunnel.proxySocket.socket.reads = [read] ∧ tunnel.proxySocket.Asks read

structure Waiting (tunnel : Tunnel) : Prop where
  status : tunnel.status = .waitingToBeReady
  adapter : ∀ adapterSocket, tunnel.adapterSocket = some adapterSocket →
    adapterSocket.socket = .init ∧ adapterSocket.isCancelled = false ∧
      adapterSocket.connecting = true ∧ tunnel.resolving = none
  awaits : tunnel.resolving.isSome = true ∨ tunnel.adapterSocket.isSome = true ∨
    tunnel.unresolved = true
  unmatched : ∀ session, tunnel.resolving = some session → session.matchedRule = none
  readySignal : tunnel.readySignal = 0
  delayedReads : tunnel.delayedReads = 0
  writes : tunnel.proxySocket.socket.writes = 0
  sent : tunnel.proxySocket.socket.sent = []
  reads : tunnel.proxySocket.socket.reads = []
  writeStatus : tunnel.proxySocket.writeStatus = .invalid
  current : tunnel.proxySocket.scanner.currentHeader.isSome = true
  opened : tunnel.proxySocket.isCancelled = false
  header : tunnel.proxySocket.currentHeader.isSome = true
  readStatus : tunnel.proxySocket.readStatus =
    if tunnel.proxySocket.isConnectCommand then .readingContent else .pendingFirstHeader

structure Responding (tunnel : Tunnel) : Prop where
  status : tunnel.status = .waitingToBeReady
  adapter : ∃ adapterSocket, tunnel.adapterSocket = some adapterSocket ∧
    adapterSocket.socket = .init ∧ adapterSocket.isCancelled = false ∧
    adapterSocket.connecting = false
  noSession : tunnel.resolving = none
  readySignal : tunnel.readySignal = 1
  delayedReads : tunnel.delayedReads = 0
  reads : tunnel.proxySocket.socket.reads = []
  writes : tunnel.proxySocket.socket.writes = 1
  writeStatus : tunnel.proxySocket.writeStatus = .sendingConnectResponse
  current : tunnel.proxySocket.scanner.currentHeader.isSome = true
  opened : tunnel.proxySocket.isCancelled = false
  readStatus : tunnel.proxySocket.readStatus = .readingContent

structure Forwarding (tunnel : Tunnel) : Prop where
  status : tunnel.status = .forwarding
  adapter : ∃ adapterSocket, tunnel.adapterSocket = some adapterSocket ∧
    adapterSocket.isCancelled = false ∧ adapterSocket.connecting = false
  noSession : tunnel.resolving = none
  readySignal : tunnel.readySignal = 2
  writeStatus : tunnel.proxySocket.writeStatus = .forwarding
  current : tunnel.proxySocket.scanner.nextAction ≠ .stop →
    tunnel.proxySocket.scanner.currentHeader.isSome = true
  readStatus : HTTPProxySocket.PastFirst tunnel.proxySocket.readStatus
  reads : tunnel.proxySocket.socket.reads = [] ∨
    ∃ read, tunnel.proxySocket.socket.reads = [read] ∧ tunnel.proxySocket.Asks read

/-- Where a tunnel that is not cancelled is.  When it forwards, no token is lost. -/
def Stage (tunnel : Tunnel) : Prop :=
  tunnel.Reading ∨ tunnel.Waiting ∨ tunnel.Responding ∨ tunnel.Forwarding ∧
    (tunnel.proxySocket.isCancelled = false → tunnel.outbound = 1 ∧ tunnel.returning = 1)

/-- What holds of a tunnel that is not cancelled. -/
structure Running (lib : ProxyLibraries) (tunnel : Tunnel) : Prop where
  stage : tunnel.Stage
  ready : tunnel.proxySocket.scanner.Ready
  /-- what the server should get has been sent on, waits for the remote, or is to come -/
  relays : ∀ more, relayed lib.http none (tunnel.fromClient ++ more) =
    tunnel.toRemote ++ tunnel.pendingHeader ++ toCome lib.http tunnel.proxySocket.scanner more
  /-- what the remote has delivered has been handed back -/
  returns : tunnel.proxySocket.isCancelled = false →
    tunnel.toClient = tunnel.response ++ tunnel.fromRemote

/-- What holds of every tunnel. -/
structure Flow (lib : ProxyLibraries) (tunnel : Tunnel) : Prop where
  outbound : tunnel.outbound ≤ 1
  returning : tunnel.returning ≤ 1
  sentOn : ∀ more, tunnel.toRemote <+: relayed lib.http none (tunnel.fromClient ++ more)
  handedBack : tunnel.toClient <+: tunnel.response ++ tunnel.fromRemote
  unanswered : tunnel.proxySocket.readStatus = .readingFirstHeader →
    tunnel.proxySocket.writeStatus = .invalid
  running : tunnel.isCancelled = false → tunnel.Running lib

/-! ### Closing changes nothing of this -/

/-- What has passed and what is on its way is the same. -/
structure Undisturbed (before after : Tunnel) : Prop where
  received : after.proxySocket.socket.received = before.proxySocket.socket.received
  sent : after.proxySocket.socket.sent = before.proxySocket.socket.sent
  readStatus : after.proxySocket.readStatus = before.proxySocket.readStatus
  writeStatus : after.proxySocket.writeStatus = before.proxySocket.writeStatus
  isConnectCommand : after.proxySocket.isConnectCommand = before.proxySocket.isConnectCommand
  fromRemote : after.fromRemote = before.fromRemote
  toRemote : after.toRemote = before.toRemote
  outbound : after.outbound = before.outbound
  returning : after.returning = before.returning

theorem Undisturbed.refl (tunnel : Tunnel) : Undisturbed tunnel tunnel :=
  ⟨rfl, rfl, rfl, rfl, rfl, rfl, rfl, rfl, rfl⟩

theorem Undisturbed.trans {first second third : Tunnel} (h : Undisturbed first second)
    (h' : Undisturbed second third) : Undisturbed first third :=
  ⟨h'.received.trans h.received, h'.sent.trans h.sent, h'.readStatus.trans h.readStatus,
    h'.writeStatus.trans h.writeStatus, h'.isConnectCommand.trans h.isConnectCommand,
    h'.fromRemote.trans h.fromRemote, h'.toRemote.trans h.toRemote,
    h'.outbound.trans h.outbound, h'.returning.trans h.returning⟩

theorem checkStatus_undisturbed (tunnel : Tunnel) : Undisturbed tunnel tunnel.checkStatus := by
  unfold checkStatus
  split
  · exact ⟨rfl, rfl, rfl, rfl, rfl, rfl, rfl, rfl, rfl⟩
  · exact Undisturbed.refl tunnel

theorem disconnectAdapter_undisturbed (tunnel : Tunnel) (disconnection : Disconnection) :
    Undisturbed tunnel (tunnel.disconnectAdapter disconnection) := by
  unfold disconnectAdapter
  cases hadapter : tunnel.adapterSocket with
  | none => exact Undisturbed.refl tunnel
  | some adapterSocket =>
      have hsame : ∀ status, Undisturbed tunnel { tunnel with
          adapterSocket :=
            some { adapterSocket.disconnect disconnection with status := status } } := by
        intro status
        refine ⟨rfl, rfl, rfl, rfl, rfl, ?_, ?_, ?_, ?_⟩ <;>
          simp [fromRemote, toRemote, Tunnel.outbound, Tunnel.returning, hadapter,
            AdapterSocket.disconnect, RawTCPSocket.disconnect]
      simp only
      split
      · exact Undisturbed.refl tunnel
      · split
        · exact (hsame .closed).trans (checkStatus_undisturbed _)
        · exact hsame .disconnecting

theorem closeBy_undisturbed (tunnel : Tunnel) (disconnection : Disconnection) :
    Undisturbed tunnel (tunnel.closeBy disconnection) := by
  unfold closeBy
  split
  · exact Undisturbed.refl tunnel
  · have hproxy : Undisturbed tunnel
        (if tunnel.proxySocket.status.isDisconnected then
          { tunnel with isCancelled := true, status := .closing }
        else
          withProxy { tunnel with isCancelled := true, status := .closing }
            (tunnel.proxySocket.disconnect disconnection)) := by
      split
      · exact ⟨rfl, rfl, rfl, rfl, rfl, rfl, rfl, rfl, rfl⟩
      · unfold HTTPProxySocket.disconnect
        split
        · exact ⟨rfl, rfl, rfl, rfl, rfl, rfl, rfl, rfl, rfl⟩
        · exact ⟨rfl, rfl, rfl, rfl, rfl, rfl, rfl, rfl, rfl⟩
    exact hproxy.trans (disconnectAdapter_undisturbed _ disconnection)

theorem didDisconnect_undisturbed (tunnel : Tunnel) : Undisturbed tunnel tunnel.didDisconnect := by
  unfold didDisconnect
  split
  · exact checkStatus_undisturbed tunnel
  · exact (closeBy_undisturbed tunnel .elegant).trans (checkStatus_undisturbed _)

theorem checkStatus_isCancelled (tunnel : Tunnel) :
    tunnel.checkStatus.isCancelled = tunnel.isCancelled := by
  unfold checkStatus
  split <;> rfl

theorem closeBy_isCancelled (tunnel : Tunnel) (disconnection : Disconnection) :
    (tunnel.closeBy disconnection).isCancelled = true := by
  have hadapter : ∀ tunnel : Tunnel,
      (tunnel.disconnectAdapter disconnection).isCancelled = tunnel.isCancelled := by
    intro tunnel
    unfold disconnectAdapter
    split
    · rfl
    · simp only
      split
      · rfl
      · split
        · exact checkStatus_isCancelled _
        · rfl
  unfold closeBy
  split
  · assumption
  · simp only [hadapter]
    split <;> rfl

theorem didDisconnect_isCancelled (tunnel : Tunnel) : tunnel.didDisconnect.isCancelled = true := by
  rw [didDisconnect, checkStatus_isCancelled]
  split
  · assumption
  · exact closeBy_isCancelled tunnel .elegant

/-- A cancelled tunnel: bytes may still arrive, but none are passed on. -/
theorem Flow.of_cancelled {before after : Tunnel} (hflow : Flow lib before)
    (hcancelled : after.isCancelled = true) (houtbound : after.outbound ≤ before.outbound)
    (hreturning : after.returning ≤ before.returning) (htoRemote : after.toRemote = before.toRemote)
    (hfromClient : before.fromClient <+: after.fromClient)
    (htoClient : after.toClient = before.toClient) (hresponse : after.response = before.response)
    (hfromRemote : before.fromRemote <+: after.fromRemote)
    (hunanswered : after.proxySocket.readStatus = .readingFirstHeader →
      after.proxySocket.writeStatus = .invalid) : Flow lib after := by
  refine ⟨houtbound.trans hflow.outbound, hreturning.trans hflow.returning, ?_, ?_, hunanswered, ?_⟩
  · intro more
    obtain ⟨arrived, harrived⟩ := hfromClient
    rw [htoRemote, ← harrived, List.append_assoc]
    exact hflow.sentOn (arrived ++ more)
  · rw [htoClient, hresponse]
    exact hflow.handedBack.trans (List.prefix_append_right_inj _ |>.mpr hfromRemote)
  · intro hrunning
    rw [hcancelled] at hrunning
    cases hrunning

/-- A cancelled tunnel in which nothing has passed since. -/
theorem Flow.of_undisturbed {before after : Tunnel} (hflow : Flow lib before)
    (h : Undisturbed before after) (hcancelled : after.isCancelled = true) : Flow lib after := by
  apply hflow.of_cancelled hcancelled (Nat.le_of_eq h.outbound) (Nat.le_of_eq h.returning)
  · exact h.toRemote
  · simp [fromClient, h.received]
  · rw [toClient, h.sent, toClient]
  · rw [response, h.isConnectCommand, h.writeStatus, response]
  · simp [h.fromRemote]
  · rw [h.readStatus, h.writeStatus]
    exact hflow.unanswered

theorem withAdapter_undisturbed (tunnel : Tunnel) (change : AdapterSocket → AdapterSocket)
    (h : ∀ adapterSocket, (change adapterSocket).socket = adapterSocket.socket) :
    Undisturbed tunnel (tunnel.withAdapter change) := by
  cases hadapter : tunnel.adapterSocket with
  | none =>
      refine ⟨rfl, rfl, rfl, rfl, rfl, ?_, ?_, ?_, ?_⟩ <;>
        simp [fromRemote, toRemote, Tunnel.outbound, Tunnel.returning, withAdapter, hadapter]
  | some adapterSocket =>
      refine ⟨rfl, rfl, rfl, rfl, rfl, ?_, ?_, ?_, ?_⟩ <;>
        simp [fromRemote, toRemote, Tunnel.outbound, Tunnel.returning, withAdapter, hadapter, h]

/-- A read that ends without data is lost, and nothing else. -/
theorem endRead_undisturbed (tunnel : Tunnel) :
    Undisturbed tunnel (tunnel.withAdapter AdapterSocket.endRead) := by
  cases hadapter : tunnel.adapterSocket with
  | none =>
      refine ⟨rfl, rfl, rfl, rfl, rfl, ?_, ?_, ?_, ?_⟩ <;>
        simp [fromRemote, toRemote, Tunnel.outbound, Tunnel.returning, withAdapter, hadapter]
  | some adapterSocket =>
      have hsame : adapterSocket.endRead.socket.received = adapterSocket.socket.received ∧
          adapterSocket.endRead.socket.sent = adapterSocket.socket.sent ∧
          adapterSocket.endRead.socket.writes = adapterSocket.socket.writes ∧
          adapterSocket.endRead.socket.reads.length + adapterSocket.endRead.socket.ended =
            adapterSocket.socket.reads.length + adapterSocket.socket.ended := by
        unfold AdapterSocket.endRead RawTCPSocket.endRead
        cases hreads : adapterSocket.socket.reads with
        | nil => exact ⟨rfl, rfl, rfl, by rw [hreads]⟩
        | cons read reads => exact ⟨rfl, rfl, rfl, by simp only [List.length_cons]; omega⟩
      obtain ⟨hreceived, hsent, hwrites, htokens⟩ := hsame
      refine ⟨rfl, rfl, rfl, rfl, rfl, ?_, ?_, ?_, ?_⟩
      · simp [fromRemote, withAdapter, hadapter, hreceived]
      · simp [toRemote, withAdapter, hadapter, hsent]
      · simp [Tunnel.outbound, withAdapter, hadapter, hwrites]
      · simp [Tunnel.returning, withAdapter, hadapter, htokens]

/-! ### A cancelled tunnel -/

theorem call_cancelled {tunnel : Tunnel} (h : tunnel.isCancelled = true) (proxyCall : ProxyCall) :
    tunnel.call lib manager proxyCall = some tunnel := by
  cases proxyCall <;> simp [call, didReceive, didReadFromProxy, didBecomeReadyToForward, h]

theorem openAdapter_cancelled {tunnel : Tunnel} (h : tunnel.isCancelled = true)
    (session : TunnelSession) : tunnel.openAdapter lib manager session = some tunnel := by
  rw [openAdapter, if_pos h]

/-- Whatever was read, `didRead` writes nothing, and answers no CONNECT. -/
theorem didRead_keeps {proxySocket after : HTTPProxySocket} {data : Data} {proxyCall : ProxyCall}
    (h : proxySocket.didRead lib data = some (after, proxyCall)) :
    after.writeStatus = proxySocket.writeStatus ∧
      after.socket.reads = proxySocket.socket.reads ∧
      after.socket.writes = proxySocket.socket.writes ∧
      after.socket.received = proxySocket.socket.received ∧
      after.socket.sent = proxySocket.socket.sent ∧
      (after.readStatus = .readingFirstHeader → proxySocket.readStatus = .readingFirstHeader) ∧
      (after.isConnectCommand = proxySocket.isConnectCommand ∨
        proxySocket.readStatus = .readingFirstHeader) := by
  replace h := HTTPProxySocket.didScan_of_didRead h
  unfold HTTPProxySocket.didScan at h
  cases hinput : proxySocket.scanner.input lib.http data with
  | mk result scanner =>
      rw [hinput] at h
      cases result with
      | error error =>
          cases h
          unfold HTTPProxySocket.disconnect
          split <;> exact ⟨rfl, rfl, rfl, rfl, rfl, fun h => h, Or.inl rfl⟩
      | ok result =>
          simp only at h
          split at h
          · rename_i header hstatus
            obtain ⟨forwarded, -, heq⟩ := Option.bind_eq_some_iff.mp h
            cases heq
            exact ⟨rfl, rfl, rfl, rfl, rfl, fun _ => hstatus, Or.inr hstatus⟩
          · obtain ⟨forwarded, -, heq⟩ := Option.bind_eq_some_iff.mp h
            cases heq
            exact ⟨rfl, rfl, rfl, rfl, rfl, fun h => h, Or.inl rfl⟩
          · cases h
            exact ⟨rfl, rfl, rfl, rfl, rfl, fun h => h, Or.inl rfl⟩
          · cases h
            exact ⟨rfl, rfl, rfl, rfl, rfl, fun h => h, Or.inl rfl⟩

theorem didWrite_keeps {proxySocket after : HTTPProxySocket} {proxyCall : ProxyCall}
    (h : proxySocket.didWrite = (after, proxyCall)) :
    after.readStatus = proxySocket.readStatus ∧ after.socket = proxySocket.socket ∧
      after.isConnectCommand = proxySocket.isConnectCommand ∧
      (after.writeStatus = .invalid ↔ proxySocket.writeStatus = .invalid) := by
  unfold HTTPProxySocket.didWrite at h
  split at h
  · rename_i hstatus
    cases h
    simp [hstatus]
  · cases h
    simp

/-- A read that was put off takes the place of its token. -/
theorem Flow.delayedRead {tunnel : Tunnel} (hflow : Flow lib tunnel)
    (hcancelled : tunnel.isCancelled = true) (hdelayed : 0 < tunnel.delayedReads) :
    Flow lib (adapterReadData { tunnel with delayedReads := tunnel.delayedReads - 1 }) := by
  cases hadapter : tunnel.adapterSocket with
  | none =>
      apply hflow.of_cancelled
      · exact hcancelled
      · simp [Tunnel.outbound, adapterReadData, withAdapter, hadapter]
      · simp only [Tunnel.returning, adapterReadData, withAdapter, hadapter, Option.map_none,
          Option.getD_none]
        omega
      · simp [toRemote, adapterReadData, withAdapter, hadapter]
      · exact List.prefix_refl _
      · rfl
      · rfl
      · simp [fromRemote, adapterReadData, withAdapter, hadapter]
      · exact hflow.unanswered
  | some adapterSocket =>
      have hread : adapterSocket.readData.socket.writes = adapterSocket.socket.writes ∧
          adapterSocket.readData.socket.sent = adapterSocket.socket.sent ∧
          adapterSocket.readData.socket.received = adapterSocket.socket.received ∧
          adapterSocket.readData.socket.reads.length ≤ adapterSocket.socket.reads.length + 1 ∧
          adapterSocket.readData.socket.ended = adapterSocket.socket.ended := by
        unfold AdapterSocket.readData
        split <;> simp [RawTCPSocket.read]
      obtain ⟨hwrites, hsent, hreceived, hreads, hended⟩ := hread
      apply hflow.of_cancelled
      · exact hcancelled
      · simp [Tunnel.outbound, adapterReadData, withAdapter, hadapter, hwrites]
      · simp only [Tunnel.returning, adapterReadData, withAdapter, hadapter, Option.map_some,
          Option.getD_some]
        omega
      · simp [toRemote, adapterReadData, withAdapter, hadapter, hsent]
      · exact List.prefix_refl _
      · rfl
      · rfl
      · simp [fromRemote, adapterReadData, withAdapter, hadapter, hreceived]
      · exact hflow.unanswered

/-- What the client has sent when the tunnel was cancelled is not passed on. -/
theorem Flow.proxyRead_cancelled {tunnel after : Tunnel} {data : Data} (hflow : Flow lib tunnel)
    (hcancelled : tunnel.isCancelled = true)
    (h : tunnel.handle lib manager (.proxyRead data) = some after) : Flow lib after := by
  simp only [handle, Option.bind_eq_bind, Option.bind_eq_some_iff] at h
  obtain ⟨⟨proxySocket, proxyCall⟩, hread, hcall⟩ := h
  obtain ⟨hwrite, hreads, hwrites, hreceived, hsent, hstatus, hconnect⟩ := didRead_keeps hread
  have hkeep : (tunnel.withProxy proxySocket).call lib manager proxyCall =
      some (tunnel.withProxy proxySocket) := by
    apply call_cancelled
    exact hcancelled
  cases hkeep.symm.trans hcall
  apply hflow.of_cancelled
  · exact hcancelled
  · simp [Tunnel.outbound, withProxy, hreads, HTTPProxySocket.answer, RawTCPSocket.answer]
  · simp [Tunnel.returning, withProxy, hwrites, HTTPProxySocket.answer, RawTCPSocket.answer]
  · rfl
  · simp [fromClient, withProxy, hreceived, HTTPProxySocket.answer, RawTCPSocket.answer]
  · simp [toClient, withProxy, hsent, HTTPProxySocket.answer, RawTCPSocket.answer]
  · cases hconnect with
    | inl hsame => simp [response, withProxy, hsame, hwrite, HTTPProxySocket.answer]
    | inr hfirst =>
        have hinvalid := hflow.unanswered hfirst
        simp [response, withProxy, hwrite, HTTPProxySocket.answer, hinvalid]
  · exact List.prefix_refl _
  · intro hfirst
    exact hwrite.trans (hflow.unanswered (hstatus hfirst))

theorem Flow.proxyWrote_cancelled {tunnel after : Tunnel} (hflow : Flow lib tunnel)
    (hcancelled : tunnel.isCancelled = true)
    (h : tunnel.handle lib manager .proxyWrote = some after) : Flow lib after := by
  cases hdid : tunnel.proxySocket.acknowledge.didWrite with
  | mk proxySocket proxyCall =>
      obtain ⟨hstatus, hsocket, hconnect, hwrite⟩ := didWrite_keeps hdid
      have hkeep : (tunnel.withProxy proxySocket).call lib manager proxyCall =
          some (tunnel.withProxy proxySocket) := by
        apply call_cancelled
        exact hcancelled
      simp only [handle, hdid, hkeep] at h
      cases h
      apply hflow.of_cancelled
      · exact hcancelled
      · simp [Tunnel.outbound, withProxy, hsocket, HTTPProxySocket.acknowledge,
          RawTCPSocket.acknowledge]
      · simp [Tunnel.returning, withProxy, hsocket, HTTPProxySocket.acknowledge,
          RawTCPSocket.acknowledge]
      · rfl
      · simp [fromClient, withProxy, hsocket, HTTPProxySocket.acknowledge,
          RawTCPSocket.acknowledge]
      · simp [toClient, withProxy, hsocket, HTTPProxySocket.acknowledge,
          RawTCPSocket.acknowledge]
      · simp [response, withProxy, hconnect, hwrite, HTTPProxySocket.acknowledge]
      · exact List.prefix_refl _
      · intro hfirst
        exact hwrite.mpr (hflow.unanswered (hstatus.symm.trans hfirst))

/-- An address that comes too late opens no adapter. -/
theorem Flow.resolved_cancelled {tunnel after : Tunnel} {ipv4Result : Option (List Text)}
    (hflow : Flow lib tunnel) (hcancelled : tunnel.isCancelled = true)
    (h : tunnel.handle lib manager (.resolved ipv4Result) = some after) : Flow lib after := by
  have hsame : Undisturbed tunnel { tunnel with resolving := none } :=
    ⟨rfl, rfl, rfl, rfl, rfl, rfl, rfl, rfl, rfl⟩
  have hkeep : ∀ session, openAdapter lib manager { tunnel with resolving := none } session =
      some { tunnel with resolving := none } := by
    intro session
    apply openAdapter_cancelled
    exact hcancelled
  simp only [handle] at h
  split at h
  · cases h
    exact hflow
  · unfold didResolve at h
    split at h
    · rw [hkeep] at h
      cases h
      exact hflow.of_undisturbed hsame hcancelled
    · cases h
    · rw [hkeep] at h
      cases h
      exact hflow.of_undisturbed hsame hcancelled

theorem Flow.adapterRead_cancelled {tunnel after : Tunnel} {data : Data} (hflow : Flow lib tunnel)
    (hcancelled : tunnel.isCancelled = true)
    (hpossible : tunnel.possible (.adapterRead data) = true)
    (h : tunnel.handle lib manager (.adapterRead data) = some after) : Flow lib after := by
  cases h
  have hkeep : ∀ tunnel : Tunnel, tunnel.isCancelled = true →
      tunnel.didReadFromAdapter data = tunnel := by
    intro tunnel hcancelled
    rw [didReadFromAdapter, if_pos hcancelled]
  rw [hkeep _ (by exact hcancelled)]
  obtain ⟨adapterSocket, hadapter, -⟩ := (Option.any_eq_true _ _).mp hpossible
  apply hflow.of_cancelled
  · exact hcancelled
  · simp [Tunnel.outbound, withAdapter, hadapter, AdapterSocket.answer, RawTCPSocket.answer]
  · simp [Tunnel.returning, withAdapter, hadapter, AdapterSocket.answer, RawTCPSocket.answer]
  · simp [toRemote, withAdapter, hadapter, AdapterSocket.answer, RawTCPSocket.answer]
  · exact List.prefix_refl _
  · rfl
  · rfl
  · simp [fromRemote, withAdapter, hadapter, AdapterSocket.answer, RawTCPSocket.answer]
  · exact hflow.unanswered

theorem Flow.adapterWrote_cancelled {tunnel after : Tunnel} (hflow : Flow lib tunnel)
    (hcancelled : tunnel.isCancelled = true) (hpossible : tunnel.possible .adapterWrote = true)
    (h : tunnel.handle lib manager .adapterWrote = some after) : Flow lib after := by
  rw [handle, adapterDidWrite, if_pos (by exact hcancelled)] at h
  cases h
  obtain ⟨adapterSocket, hadapter, -⟩ := (Option.any_eq_true _ _).mp hpossible
  apply hflow.of_cancelled
  · exact hcancelled
  · simp [Tunnel.outbound, withAdapter, hadapter, AdapterSocket.acknowledge,
      RawTCPSocket.acknowledge]
  · simp [Tunnel.returning, withAdapter, hadapter, AdapterSocket.acknowledge,
      RawTCPSocket.acknowledge]
  · simp [toRemote, withAdapter, hadapter, AdapterSocket.acknowledge, RawTCPSocket.acknowledge]
  · exact List.prefix_refl _
  · rfl
  · rfl
  · simp [fromRemote, withAdapter, hadapter, AdapterSocket.acknowledge,
      RawTCPSocket.acknowledge]
  · exact hflow.unanswered

/-- A report: the tunnel is cancelled, if it was not. -/
theorem Flow.report {tunnel : Tunnel} (hflow : Flow lib tunnel)
    {change : AdapterSocket → AdapterSocket}
    (h : ∀ adapterSocket, (change adapterSocket).socket = adapterSocket.socket) :
    Flow lib (tunnel.withAdapter change).didDisconnect :=
  hflow.of_undisturbed
    ((withAdapter_undisturbed tunnel change h).trans (didDisconnect_undisturbed _))
    (didDisconnect_isCancelled _)

/-- The client's socket reports. -/
theorem Flow.proxyDisconnected {tunnel : Tunnel} (hflow : Flow lib tunnel) :
    Flow lib (tunnel.withProxy tunnel.proxySocket.didDisconnectWith).didDisconnect := by
  have hsame : Undisturbed tunnel (tunnel.withProxy tunnel.proxySocket.didDisconnectWith) :=
    ⟨rfl, rfl, rfl, rfl, rfl, rfl, rfl, rfl, rfl⟩
  exact hflow.of_undisturbed (hsame.trans (didDisconnect_undisturbed _))
    (didDisconnect_isCancelled _)

theorem Flow.forceClose {tunnel : Tunnel} (hflow : Flow lib tunnel) :
    Flow lib tunnel.forceClose :=
  hflow.of_undisturbed (closeBy_undisturbed tunnel .immediate)
    (closeBy_isCancelled tunnel .immediate)

/-- **After the end.**  Nothing more is passed on, and nothing more is asked for. -/
theorem Flow.handle_cancelled {tunnel after : Tunnel} {event : RelayEvent}
    (hflow : Flow lib tunnel) (hcancelled : tunnel.isCancelled = true)
    (hpossible : tunnel.possible event = true)
    (h : tunnel.handle lib manager event = some after) : Flow lib after := by
  cases event with
  | proxyRead data => exact hflow.proxyRead_cancelled hcancelled h
  | proxyWrote => exact hflow.proxyWrote_cancelled hcancelled h
  | proxyDisconnected =>
      cases h
      exact hflow.proxyDisconnected
  | resolved ipv4Result => exact hflow.resolved_cancelled hcancelled h
  | unresolved =>
      cases h
      exact hflow.of_undisturbed ⟨rfl, rfl, rfl, rfl, rfl, rfl, rfl, rfl, rfl⟩ hcancelled
  | adapterConnected =>
      rw [handle, adapterDidBecomeReady, if_pos (by exact hcancelled)] at h
      cases h
      exact hflow.of_undisturbed
        (withAdapter_undisturbed tunnel AdapterSocket.didConnectWith fun _ => rfl) hcancelled
  | adapterRead data => exact hflow.adapterRead_cancelled hcancelled hpossible h
  | adapterWrote => exact hflow.adapterWrote_cancelled hcancelled hpossible h
  | adapterReadNothing =>
      cases h
      exact hflow.of_undisturbed (endRead_undisturbed tunnel) hcancelled
  | adapterGone =>
      cases h
      exact hflow.of_undisturbed
        (withAdapter_undisturbed tunnel AdapterSocket.lose fun _ => rfl) hcancelled
  | adapterDisconnected =>
      cases h
      exact hflow.report fun _ => rfl
  | adapterFailed =>
      cases h
      exact hflow.report fun _ => rfl
  | delayedRead =>
      cases h
      exact hflow.delayedRead hcancelled (of_decide_eq_true hpossible)
  | forceClose =>
      cases h
      exact hflow.forceClose

/-- A cancelled tunnel stays cancelled. -/
theorem handle_isCancelled {tunnel after : Tunnel} {event : RelayEvent}
    (hcancelled : tunnel.isCancelled = true)
    (h : tunnel.handle lib manager event = some after) : after.isCancelled = true := by
  cases event with
  | proxyRead data =>
      simp only [handle, Option.bind_eq_bind, Option.bind_eq_some_iff] at h
      obtain ⟨⟨proxySocket, proxyCall⟩, -, hcall⟩ := h
      rw [call_cancelled (by exact hcancelled)] at hcall
      cases hcall
      exact hcancelled
  | proxyWrote =>
      simp only [handle] at h
      rw [call_cancelled (by exact hcancelled)] at h
      cases h
      exact hcancelled
  | proxyDisconnected =>
      cases h
      exact didDisconnect_isCancelled _
  | resolved ipv4Result =>
      simp only [handle] at h
      split at h
      · cases h
        exact hcancelled
      · unfold didResolve at h
        split at h
        · rw [openAdapter_cancelled (by exact hcancelled)] at h
          cases h
          exact hcancelled
        · cases h
        · rw [openAdapter_cancelled (by exact hcancelled)] at h
          cases h
          exact hcancelled
  | adapterConnected =>
      rw [handle, adapterDidBecomeReady, if_pos (by exact hcancelled)] at h
      cases h
      exact hcancelled
  | adapterRead data =>
      rw [handle, didReadFromAdapter, if_pos (by exact hcancelled)] at h
      cases h
      exact hcancelled
  | adapterWrote =>
      rw [handle, adapterDidWrite, if_pos (by exact hcancelled)] at h
      cases h
      exact hcancelled
  | unresolved | adapterReadNothing | adapterGone =>
      cases h
      exact hcancelled
  | adapterDisconnected | adapterFailed =>
      cases h
      exact didDisconnect_isCancelled _
  | delayedRead =>
      cases h
      exact hcancelled
  | forceClose =>
      cases h
      exact closeBy_isCancelled tunnel .immediate

end Tunnel

end QLadder
