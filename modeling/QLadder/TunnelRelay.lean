import QLadder.TunnelFlow

/-!
# What passes through a connection

Whatever the order in which the raw sockets, the resolver and the timers answer:

* `one_at_a_time` — a raw socket is asked for one read and given one write at a time;
* `never_stalls` — a tunnel that forwards has something to wait for in each direction;
* `relayed_to_remote` — the remote gets, in order, what `relayed` makes of the client's
  bytes;
* `relayed_to_client` — the client gets the answer to its CONNECT, if it sent one, and
  then the bytes of the remote in order.
-/

namespace QLadder

open PartialRun HTTPStreamScanner

variable {lib : ProxyLibraries} {manager : RuleManager}

namespace Tunnel

/-! ## A running tunnel -/

/-- A running tunnel, if one token goes each way. -/
theorem Flow.of_running {tunnel : Tunnel} (houtbound : tunnel.outbound ≤ 1)
    (hreturning : tunnel.returning ≤ 1)
    (hback : tunnel.toClient <+: tunnel.response ++ tunnel.fromRemote)
    (hunanswered : tunnel.proxySocket.readStatus = .readingFirstHeader →
      tunnel.proxySocket.writeStatus = .invalid)
    (hrunning : tunnel.Running lib) : Flow lib tunnel := by
  refine ⟨houtbound, hreturning, ?_, hback, hunanswered, fun _ => hrunning⟩
  intro more
  rw [hrunning.relays more, List.append_assoc]
  exact List.prefix_append _ _

/-- The read that the event answers was asked for. -/
theorem gives_of_possible {tunnel : Tunnel} {read : RawRead} {data : Data}
    (hreads : tunnel.proxySocket.socket.reads = [read])
    (hpossible : tunnel.possible (.proxyRead data) = true) : read.gives data = true := by
  simp only [possible, hreads, Bool.and_eq_true] at hpossible
  exact hpossible.2

/-- The request has been read: the host is resolved, or the adapter is opened. -/
theorem didReceive_cases {tunnel after : Tunnel} {session : TunnelSession}
    (h : tunnel.didReceive lib manager session = some after)
    (hrunning : tunnel.isCancelled = false) :
    after = { tunnel with status := .waitingToBeReady, resolving := some session } ∨
      ∃ factory session', after = { tunnel with
        status := .waitingToBeReady
        adapterSocket := some (.openSocketWith factory session') } := by
  unfold didReceive at h
  rw [if_neg (by simp [hrunning])] at h
  simp only at h
  split at h
  · cases h
    exact Or.inl rfl
  · right
    unfold openAdapter at h
    rw [if_neg (by simp [hrunning])] at h
    obtain ⟨factory, -, heq⟩ := Option.map_eq_some_iff.mp h
    exact ⟨factory, _, heq.symm⟩

/-- Before the request has been read, nothing has passed. -/
theorem Reading.relays {tunnel : Tunnel} (hstage : tunnel.Reading)
    (hrunning : tunnel.Running lib) (more : Data) :
    relayed lib.http none (tunnel.fromClient ++ more) =
      toCome lib.http tunnel.proxySocket.scanner more := by
  rw [hrunning.relays]
  simp [toRemote, hstage.noAdapter, pendingHeader, hstage.readStatus]

/-- The scanner has given up on the first header. -/
theorem Reading.give_up {tunnel : Tunnel} {proxySocket : HTTPProxySocket} {data : Data}
    (hstage : tunnel.Reading) (hrunning : tunnel.Running lib)
    (hreadStatus : proxySocket.readStatus = .readingFirstHeader)
    (hwriteStatus : proxySocket.writeStatus = .invalid)
    (hclosed : proxySocket.isCancelled = true) (hreads : proxySocket.socket.reads = [])
    (hwrites : proxySocket.socket.writes = 0) (hsent : proxySocket.socket.sent = [])
    (hreceived : proxySocket.socket.received = tunnel.proxySocket.socket.received ++ [data])
    (hstop : proxySocket.scanner.nextAction = .stop)
    (hnothing : ∀ more, toCome lib.http tunnel.proxySocket.scanner (data ++ more) = []) :
    Flow lib (tunnel.withProxy proxySocket) := by
  have hempty : (tunnel.withProxy proxySocket).toClient = [] := by
    simp [toClient, withProxy, hsent]
  apply Flow.of_running
  · simp [Tunnel.outbound, withProxy, hstage.noAdapter, hreads]
  · simp [Tunnel.returning, withProxy, hstage.noAdapter, hwrites, hstage.delayedReads]
  · rw [hempty]
    exact List.nil_prefix
  · exact fun _ => hwriteStatus
  · refine ⟨Or.inl ?_, ?_, ?_, ?_⟩
    · exact
        { status := hstage.status, noAdapter := hstage.noAdapter, noSession := hstage.noSession,
          readySignal := hstage.readySignal, delayedReads := hstage.delayedReads,
          writes := hwrites, sent := hsent, writeStatus := hwriteStatus,
          readStatus := hreadStatus, reads := Or.inl ⟨hclosed, hreads⟩ }
    · simp [withProxy, Ready, hstop]
    · intro more
      have hbefore := hstage.relays hrunning (data ++ more)
      rw [hnothing] at hbefore
      simp [fromClient, withProxy, hreceived, toRemote, hstage.noAdapter, pendingHeader,
        hreadStatus, toCome, hstop]
      simpa [fromClient] using hbefore
    · intro _
      rw [hempty]
      simp [response, withProxy, hwriteStatus, fromRemote, hstage.noAdapter]

/-- The first header has been read. -/
theorem Reading.receive {tunnel after : Tunnel} {proxySocket : HTTPProxySocket} {data : Data}
    {session : TunnelSession} {forwarded : HTTPHeader}
    (hstage : tunnel.Reading) (hrunning : tunnel.Running lib)
    (hcancelled : tunnel.isCancelled = false)
    (h : (tunnel.withProxy proxySocket).didReceive lib manager session = some after)
    (hunmatched : session.matchedRule = none) (hopened : proxySocket.isCancelled = false)
    (hwriteStatus : proxySocket.writeStatus = .invalid)
    (hreads : proxySocket.socket.reads = []) (hwrites : proxySocket.socket.writes = 0)
    (hsent : proxySocket.socket.sent = [])
    (hreceived : proxySocket.socket.received = tunnel.proxySocket.socket.received ++ [data])
    (hready : proxySocket.scanner.Ready)
    (hcurrent : proxySocket.scanner.currentHeader.isSome = true)
    (hheader : proxySocket.currentHeader = some forwarded)
    (hconnect : proxySocket.isConnectCommand = forwarded.isConnect)
    (hreadStatus : proxySocket.readStatus =
      if forwarded.isConnect then .readingContent else .pendingFirstHeader)
    (hnext : ∀ more, toCome lib.http tunnel.proxySocket.scanner (data ++ more) =
      (if forwarded.isConnect then [] else forwarded.toData) ++
        toCome lib.http proxySocket.scanner more) : Flow lib after := by
  have hwaiting : ∀ adapterSocket : Option AdapterSocket, ∀ resolving,
      (∀ a, adapterSocket = some a → a.socket = .init ∧ a.isCancelled = false ∧
        a.connecting = true ∧ resolving = none) →
      resolving.isSome = true ∨ adapterSocket.isSome = true →
      (∀ session, resolving = some session → session.matchedRule = none) →
      Flow lib { tunnel.withProxy proxySocket with
        adapterSocket, resolving, status := .waitingToBeReady } := by
    intro adapterSocket resolving hadapter hawaits hsession
    have hinit : adapterSocket = none ∨ ∃ a, adapterSocket = some a ∧ a.socket = .init := by
      cases hcase : adapterSocket with
      | none => exact Or.inl rfl
      | some a => exact Or.inr ⟨a, rfl, (hadapter a hcase).1⟩
    have hnoRemote : (adapterSocket.map fun a => a.socket.sent.flatten).getD [] = [] ∧
        (adapterSocket.map fun a => a.socket.received.flatten).getD [] = [] ∧
        (adapterSocket.map fun a => a.socket.writes).getD 0 = 0 ∧
        (adapterSocket.map fun a => a.socket.reads.length + a.socket.ended).getD 0 = 0 := by
      cases hinit with
      | inl hnone => simp [hnone]
      | inr hsome =>
          obtain ⟨a, ha, hsocket⟩ := hsome
          simp [ha, hsocket, RawTCPSocket.init]
    obtain ⟨hsentNone, hreceivedNone, hwritesNone, hreadsNone⟩ := hnoRemote
    apply Flow.of_running
    · simp [Tunnel.outbound, withProxy, hreads, hwritesNone]
    · simp [Tunnel.returning, withProxy, hwrites, hstage.delayedReads, hreadsNone]
    · simp [toClient, withProxy, hsent]
    · exact fun _ => hwriteStatus
    · refine ⟨Or.inr (Or.inl ?_), hready, ?_, ?_⟩
      · exact
          { status := rfl, adapter := hadapter, awaits := hawaits.imp_right Or.inl,
            unmatched := hsession, readySignal := hstage.readySignal,
            delayedReads := hstage.delayedReads, writes := hwrites, sent := hsent,
            reads := hreads, writeStatus := hwriteStatus, current := hcurrent,
            opened := hopened, header := by simp [withProxy, hheader],
            readStatus := hreadStatus.trans (by rw [← hconnect]; rfl) }
      · intro more
        have hbefore := hstage.relays hrunning (data ++ more)
        rw [hnext] at hbefore
        have hpending : pendingHeader { tunnel.withProxy proxySocket with
            adapterSocket, resolving, status := .waitingToBeReady } =
            if forwarded.isConnect then [] else forwarded.toData := by
          cases hkind : forwarded.isConnect <;>
            simp [pendingHeader, withProxy, hreadStatus, hheader, hkind]
        rw [hpending]
        simp only [fromClient, withProxy, hreceived, toRemote, hsentNone, List.flatten_append,
          List.flatten_singleton, List.append_assoc, List.nil_append]
        exact hbefore
      · intro _
        simp [toClient, withProxy, hsent, response, hwriteStatus, fromRemote, hreceivedNone]
  cases didReceive_cases h hcancelled with
  | inl hresolving =>
      rw [hresolving]
      refine hwaiting _ _ ?_ (Or.inl rfl) ?_
      · intro a ha
        have hnone := hstage.noAdapter.symm.trans ha
        cases hnone
      · intro other hother
        cases hother
        exact hunmatched
  | inr hopen =>
      obtain ⟨factory, session', hafter⟩ := hopen
      rw [hafter]
      refine hwaiting _ _ ?_ (Or.inr rfl) ?_
      · intro a ha
        cases ha
        exact ⟨rfl, rfl, rfl, hstage.noSession⟩
      · intro other hother
        have hnone := hstage.noSession.symm.trans hother
        cases hnone

/-- **The request.**  The first header is read, or the scanner gives up. -/
theorem Reading.proxyRead {tunnel after : Tunnel} {data : Data} (hstage : tunnel.Reading)
    (hrunning : tunnel.Running lib) (hcancelled : tunnel.isCancelled = false)
    (hpossible : tunnel.possible (.proxyRead data) = true)
    (h : tunnel.handle lib manager (.proxyRead data) = some after) : Flow lib after := by
  cases hstage.reads with
  | inl hnone => simp [possible, hnone.2] at hpossible
  | inr hread =>
      obtain ⟨hopened, read, hreads, hasks⟩ := hread
      have hgives := gives_of_possible hreads hpossible
      simp only [handle, Option.bind_eq_bind, Option.bind_eq_some_iff] at h
      obtain ⟨⟨proxySocket, proxyCall⟩, hdid, hcall⟩ := h
      have htail : (tunnel.proxySocket.answer data).socket.reads = [] := by
        simp [HTTPProxySocket.answer, RawTCPSocket.answer, hreads]
      have hready' : (tunnel.proxySocket.answer data).scanner.Ready := hrunning.ready
      have hasks' : (tunnel.proxySocket.answer data).Asks read := hasks
      cases HTTPProxySocket.didRead_reads hready' hasks' hgives hdid with
      | gives_up scanner hstop hnothing =>
          cases hcall
          obtain ⟨hstatus, hwrite, hscanner, -, -, hreads', hwrites', hreceived', hsent'⟩ :=
            HTTPProxySocket.disconnect_keeps
              { tunnel.proxySocket.answer data with scanner } .elegant
          exact hstage.give_up hrunning (hstatus.trans hstage.readStatus)
            (hwrite.trans hstage.writeStatus) (HTTPProxySocket.disconnect_isCancelled _ _)
            (hreads'.trans htail)
            (hwrites'.trans hstage.writes) (hsent'.trans hstage.sent) hreceived'
            ((congrArg _ hscanner).trans hstop) hnothing
      | request scanner forwarded hready hcurrent hnone hnext =>
          exact hstage.receive hrunning hcancelled hcall rfl hopened hstage.writeStatus htail
            hstage.writes hstage.sent rfl hready hcurrent rfl rfl rfl hnext
      | piece scanner currentHeader out hready hcurrent hlater hnext =>
          have hsome : tunnel.proxySocket.scanner.currentHeader.isSome = true := hlater
          rw [hasks.first hstage.readStatus] at hsome
          cases hsome

/-- The host has been resolved: the adapter is opened. -/
theorem Waiting.resolved {tunnel after : Tunnel} {ipv4Result : Option (List Text)}
    (hstage : tunnel.Waiting) (hflow : Flow lib tunnel) (hrunning : tunnel.Running lib)
    (hcancelled : tunnel.isCancelled = false)
    (hpossible : tunnel.possible (.resolved ipv4Result) = true)
    (h : tunnel.handle lib manager (.resolved ipv4Result) = some after) : Flow lib after := by
  cases hresolving : tunnel.resolving with
  | none => simp [possible, hresolving] at hpossible
  | some session =>
      have hnoAdapter : tunnel.adapterSocket = none := by
        cases hadapter : tunnel.adapterSocket with
        | none => rfl
        | some adapterSocket =>
            have hnone := (hstage.adapter adapterSocket hadapter).2.2.2
            rw [hresolving] at hnone
            cases hnone
      have hopen : ∀ session, openAdapter lib manager { tunnel with resolving := none } session =
          some after → ∃ factory session', after = { tunnel with
            resolving := none
            adapterSocket := some (.openSocketWith factory session') } := by
        intro session hopened
        unfold openAdapter at hopened
        rw [if_neg (by simp [hcancelled])] at hopened
        obtain ⟨factory, -, heq⟩ := Option.map_eq_some_iff.mp hopened
        exact ⟨factory, _, heq.symm⟩
      have hafter : ∃ factory session', after = { tunnel with
          resolving := none, adapterSocket := some (.openSocketWith factory session') } := by
        simp only [handle, hresolving, didResolve] at h
        split at h
        · exact hopen _ h
        · cases h
        · exact hopen _ h
      obtain ⟨factory, session', rfl⟩ := hafter
      apply Flow.of_running
      · simpa [Tunnel.outbound, hnoAdapter, AdapterSocket.openSocketWith, RawTCPSocket.init]
          using hflow.outbound
      · simpa [Tunnel.returning, hnoAdapter, AdapterSocket.openSocketWith, RawTCPSocket.init]
          using hflow.returning
      · simpa [toClient, response, fromRemote, hnoAdapter, AdapterSocket.openSocketWith,
          RawTCPSocket.init] using hflow.handedBack
      · exact hflow.unanswered
      · refine ⟨Or.inr (Or.inl ?_), hrunning.ready, ?_, ?_⟩
        · refine { hstage with adapter := ?_, awaits := Or.inr (Or.inl rfl), unmatched := ?_ }
          · intro a ha
            cases ha
            exact ⟨rfl, rfl, rfl, rfl⟩
          · intro other hother
            cases hother
        · intro more
          have hbefore := hrunning.relays more
          simpa [fromClient, toRemote, pendingHeader, hnoAdapter, AdapterSocket.openSocketWith,
            RawTCPSocket.init] using hbefore
        · intro hopened
          have hbefore := hrunning.returns hopened
          simpa [toClient, response, fromRemote, hnoAdapter, AdapterSocket.openSocketWith,
            RawTCPSocket.init] using hbefore

/-- What a tunnel that forwards has passed on, and the token of the way back. -/
structure Passes (lib : ProxyLibraries) (tunnel : Tunnel) : Prop where
  ready : tunnel.proxySocket.scanner.Ready
  relays : ∀ more, relayed lib.http none (tunnel.fromClient ++ more) =
    tunnel.toRemote ++ toCome lib.http tunnel.proxySocket.scanner more
  handedBack : tunnel.toClient <+: tunnel.response ++ tunnel.fromRemote
  returns : tunnel.proxySocket.isCancelled = false →
    tunnel.toClient = tunnel.response ++ tunnel.fromRemote
  returning : tunnel.returning ≤ 1
  kept : tunnel.proxySocket.isCancelled = false → tunnel.returning = 1

theorem Forwarding.flow {tunnel : Tunnel} (hstage : tunnel.Forwarding)
    (hpasses : Passes lib tunnel) (houtbound : tunnel.outbound ≤ 1)
    (hkept : tunnel.proxySocket.isCancelled = false → tunnel.outbound = 1) : Flow lib tunnel := by
  apply Flow.of_running houtbound hpasses.returning hpasses.handedBack
  · exact fun hfirst => absurd hfirst hstage.readStatus.1
  · refine ⟨Or.inr (Or.inr (Or.inr ⟨hstage, ?_⟩)), hpasses.ready, ?_, hpasses.returns⟩
    · exact fun hopened => ⟨hkept hopened, hpasses.kept hopened⟩
    · intro more
      rw [pendingHeader, if_neg hstage.readStatus.2, List.append_nil]
      exact hpasses.relays more

/-- A tunnel that forwards, and its tokens. -/
theorem Forwarding.passes {tunnel : Tunnel} (hstage : tunnel.Forwarding)
    (htokens : tunnel.proxySocket.isCancelled = false →
      tunnel.outbound = 1 ∧ tunnel.returning = 1)
    (hflow : Flow lib tunnel) (hcancelled : tunnel.isCancelled = false) : Passes lib tunnel := by
  have hrunning := hflow.running hcancelled
  refine ⟨hrunning.ready, ?_, hflow.handedBack, hrunning.returns, hflow.returning, ?_⟩
  · intro more
    rw [hrunning.relays, pendingHeader, if_neg hstage.readStatus.2, List.append_nil]
  · exact fun hopened => (htokens hopened).2

/-- A tunnel that answers a CONNECT. -/
theorem Responding.flow {tunnel : Tunnel} (hstage : tunnel.Responding)
    (hready : tunnel.proxySocket.scanner.Ready)
    (hrelays : ∀ more, relayed lib.http none (tunnel.fromClient ++ more) =
      tunnel.toRemote ++ toCome lib.http tunnel.proxySocket.scanner more)
    (hreturns : tunnel.toClient = tunnel.response ++ tunnel.fromRemote) : Flow lib tunnel := by
  obtain ⟨adapterSocket, hadapter, hsocket, -, -⟩ := hstage.adapter
  apply Flow.of_running
  · simp [Tunnel.outbound, hstage.reads, hadapter, hsocket, RawTCPSocket.init]
  · simp [Tunnel.returning, hstage.writes, hstage.delayedReads, hadapter, hsocket,
      RawTCPSocket.init]
  · simp [hreturns]
  · intro hfirst
    have hcontent := hfirst.symm.trans hstage.readStatus
    cases hcontent
  · refine ⟨Or.inr (Or.inr (Or.inl hstage)), hready, ?_, fun _ => hreturns⟩
    intro more
    have hnone : tunnel.pendingHeader = [] := by
      simp [pendingHeader, hstage.readStatus]
    rw [hnone, List.append_nil]
    exact hrelays more

theorem didBecomeReadyToForward_first {tunnel : Tunnel} (hcancelled : tunnel.isCancelled = false)
    (hsignal : tunnel.readySignal = 0) :
    tunnel.didBecomeReadyToForward = some { tunnel with readySignal := 1 } := by
  rw [didBecomeReadyToForward, if_neg (by simp [hcancelled])]
  simp [hsignal]

theorem didBecomeReadyToForward_second {tunnel : Tunnel}
    (hcancelled : tunnel.isCancelled = false) (hsignal : tunnel.readySignal = 1) :
    tunnel.didBecomeReadyToForward =
      (proxyReadData { tunnel with readySignal := 2, status := .forwarding }).map
        adapterReadData := by
  rw [didBecomeReadyToForward, if_neg (by simp [hcancelled]), hsignal]
  simp only [if_true]
  cases proxyReadData { tunnel with readySignal := 2, status := .forwarding } <;> rfl

/-- The remote has connected. -/
theorem adapterDidBecomeReady_eq {tunnel : Tunnel} (hcancelled : tunnel.isCancelled = false)
    (hsignal : tunnel.readySignal = 0) (hopened : tunnel.proxySocket.isCancelled = false) :
    tunnel.adapterDidBecomeReady =
      if tunnel.proxySocket.isConnectCommand then
        some (withProxy { tunnel with readySignal := 1 } (HTTPProxySocket.write
          { tunnel.proxySocket with writeStatus := .sendingConnectResponse }
          connectSuccessResponse))
      else
        (proxyReadData (withProxy { tunnel with readySignal := 2, status := .forwarding }
          { tunnel.proxySocket with writeStatus := .forwarding })).map adapterReadData := by
  rw [adapterDidBecomeReady, if_neg (by simp [hcancelled]),
    didBecomeReadyToForward_first hcancelled hsignal, Option.bind_eq_bind, Option.bind_some]
  have hresponds : ∀ signal : Nat, { tunnel with readySignal := signal }.proxySocket.respondTo =
      if tunnel.proxySocket.isConnectCommand then
        (HTTPProxySocket.write
          { tunnel.proxySocket with writeStatus := .sendingConnectResponse }
          connectSuccessResponse, .nothing)
      else
        ({ tunnel.proxySocket with writeStatus := .forwarding }, .didBecomeReadyToForward) := by
    intro signal
    exact if_neg (by simp [hopened])
  rw [hresponds]
  by_cases hconnect : tunnel.proxySocket.isConnectCommand = true
  · rw [if_pos hconnect, if_pos hconnect]
  · rw [if_neg hconnect, if_neg hconnect]
    exact didBecomeReadyToForward_second hcancelled rfl

/-- The answer to a CONNECT is sent. -/
theorem Waiting.respond {tunnel : Tunnel} {adapterSocket : AdapterSocket}
    (hstage : tunnel.Waiting) (hrunning : tunnel.Running lib)
    (hadapter : tunnel.adapterSocket = some adapterSocket)
    (hconnect : tunnel.proxySocket.isConnectCommand = true) :
    Flow lib (withProxy
      { tunnel.withAdapter AdapterSocket.didConnectWith with readySignal := 1 }
      (HTTPProxySocket.write
        { tunnel.proxySocket with writeStatus := .sendingConnectResponse }
        connectSuccessResponse)) := by
  obtain ⟨hsocket, hadapterOpen, -, hresolving⟩ := hstage.adapter adapterSocket hadapter
  have hreadStatus := hstage.readStatus
  rw [hconnect] at hreadStatus
  have hwrite : HTTPProxySocket.write
      { tunnel.proxySocket with writeStatus := .sendingConnectResponse } connectSuccessResponse =
      { tunnel.proxySocket with
        writeStatus := .sendingConnectResponse
        socket := tunnel.proxySocket.socket.write connectSuccessResponse } := by
    rw [HTTPProxySocket.write, if_neg (by simp [hstage.opened])]
  rw [hwrite]
  apply Responding.flow
  · refine
      { status := hstage.status,
        adapter := ⟨adapterSocket.didConnectWith, ?_, hsocket, hadapterOpen, rfl⟩,
        noSession := hresolving, readySignal := rfl, delayedReads := hstage.delayedReads,
        reads := hstage.reads, writes := ?_, writeStatus := rfl, current := hstage.current,
        opened := hstage.opened, readStatus := hreadStatus }
    · simp [withProxy, withAdapter, hadapter]
    · simp [withProxy, RawTCPSocket.write, hstage.writes]
  · exact hrunning.ready
  · intro more
    have hbefore := hrunning.relays more
    simpa [fromClient, toRemote, pendingHeader, withProxy, withAdapter, hadapter, hsocket,
      hreadStatus, AdapterSocket.didConnectWith, RawTCPSocket.write, RawTCPSocket.init]
      using hbefore
  · simp [toClient, response, fromRemote, withProxy, withAdapter, hadapter, hsocket, hstage.sent,
      hconnect, AdapterSocket.didConnectWith, RawTCPSocket.write, RawTCPSocket.init]

/-- The first header is sent on. -/
theorem Waiting.forward {tunnel after : Tunnel} {adapterSocket : AdapterSocket}
    (hstage : tunnel.Waiting) (hrunning : tunnel.Running lib)
    (hcancelled : tunnel.isCancelled = false)
    (hadapter : tunnel.adapterSocket = some adapterSocket)
    (hconnect : tunnel.proxySocket.isConnectCommand = false)
    (h : (proxyReadData (withProxy
      { tunnel.withAdapter AdapterSocket.didConnectWith with
        readySignal := 2, status := .forwarding }
      { tunnel.proxySocket with writeStatus := .forwarding })).map adapterReadData =
        some after) : Flow lib after := by
  obtain ⟨hsocket, hadapterOpen, -, hresolving⟩ := hstage.adapter adapterSocket hadapter
  obtain ⟨header, hheader⟩ := Option.isSome_iff_exists.mp hstage.header
  have hreadStatus := hstage.readStatus
  rw [hconnect] at hreadStatus
  have hafter : after = { tunnel with
      readySignal := 2, status := .forwarding
      proxySocket := { tunnel.proxySocket with
        writeStatus := .forwarding, readStatus := .readingContent }
      adapterSocket := some { adapterSocket.didConnectWith with
        socket := (adapterSocket.socket.write header.toData).read .data } } := by
    have hdid : (HTTPProxySocket.readData { tunnel.proxySocket with writeStatus := .forwarding }) =
        some ({ tunnel.proxySocket with
          writeStatus := .forwarding, readStatus := .readingContent },
          .didRead header.toData) := by
      rw [HTTPProxySocket.readData, if_neg (by simp [hstage.opened]),
        if_pos (by simpa using hreadStatus)]
      simp [hheader]
    obtain ⟨mid, hmid, rfl⟩ := Option.map_eq_some_iff.mp h
    unfold proxyReadData at hmid
    simp only [withProxy, hdid, Option.bind_eq_bind, Option.bind_some] at hmid
    obtain ⟨connected, written, hconnected, hwrite, rfl⟩ :=
      didReadFromProxy_running (by exact hcancelled) hmid
    simp only [withAdapter, hadapter, Option.map_some, Option.some.injEq] at hconnected
    subst hconnected
    have hwritten := AdapterSocket.write_opened (by exact hadapterOpen) hwrite
    have hsent : written.readData = { adapterSocket.didConnectWith with
        socket := (adapterSocket.socket.write header.toData).read .data } := by
      rw [hwritten, AdapterSocket.readData,
        if_neg (by simp [AdapterSocket.didConnectWith, hadapterOpen])]
      rfl
    simp only [adapterReadData, withAdapter, Option.map_some, hsent]
  obtain ⟨houtbound, hreturning⟩ : after.outbound = 1 ∧ after.returning = 1 := by
    rw [hafter]
    simp [Tunnel.outbound, Tunnel.returning, hstage.reads, hstage.writes, hstage.delayedReads,
      hsocket, RawTCPSocket.write, RawTCPSocket.read, RawTCPSocket.init]
  subst hafter
  refine Forwarding.flow ?_ ⟨hrunning.ready, ?_, ?_, ?_, ?_, ?_⟩ ?_ ?_
  · exact
      { status := rfl, adapter := ⟨_, rfl, hadapterOpen, rfl⟩, noSession := hresolving,
        readySignal := rfl, writeStatus := rfl, current := fun _ => hstage.current,
        readStatus := by simp [HTTPProxySocket.PastFirst], reads := Or.inl hstage.reads }
  · intro more
    have hbefore := hrunning.relays more
    simpa [fromClient, toRemote, pendingHeader, hadapter, hsocket, hreadStatus, hheader,
      RawTCPSocket.write, RawTCPSocket.read, RawTCPSocket.init] using hbefore
  · simp [toClient, hstage.sent]
  · intro _
    simp [toClient, response, fromRemote, hstage.sent, hsocket, hconnect, RawTCPSocket.write,
      RawTCPSocket.read, RawTCPSocket.init]
  · exact hreturning.le
  · exact fun _ => hreturning
  · exact houtbound.le
  · exact fun _ => houtbound

/-- The remote has connected: a CONNECT is answered, another request is sent on. -/
theorem Waiting.adapterConnected {tunnel after : Tunnel}
    (hstage : tunnel.Waiting) (hrunning : tunnel.Running lib)
    (hcancelled : tunnel.isCancelled = false)
    (hpossible : tunnel.possible .adapterConnected = true)
    (h : tunnel.handle lib manager .adapterConnected = some after) : Flow lib after := by
  cases hadapter : tunnel.adapterSocket with
  | none => simp [possible, hadapter] at hpossible
  | some adapterSocket =>
      have hready : (tunnel.withAdapter AdapterSocket.didConnectWith).adapterDidBecomeReady =
          some after := h
      rw [adapterDidBecomeReady_eq (by exact hcancelled) (by exact hstage.readySignal)
        (by exact hstage.opened)] at hready
      split at hready
      · rename_i hconnect
        cases hready
        exact hstage.respond hrunning hadapter hconnect
      · rename_i hconnect
        exact hstage.forward hrunning hcancelled hadapter (Bool.eq_false_iff.mpr hconnect) hready

/-- `proxySocket.readData()` of a tunnel that forwards. -/
theorem proxyReadData_continues {tunnel after : Tunnel} (h : tunnel.proxyReadData = some after)
    (hcurrent : tunnel.proxySocket.scanner.nextAction ≠ .stop →
      tunnel.proxySocket.scanner.currentHeader.isSome = true)
    (hstatus : HTTPProxySocket.PastFirst tunnel.proxySocket.readStatus) :
    ∃ proxySocket, after = tunnel.withProxy proxySocket ∧
      HTTPProxySocket.Continues tunnel.proxySocket proxySocket := by
  obtain ⟨proxySocket, hread, hcontinues⟩ :=
    HTTPProxySocket.readData_continues hcurrent hstatus
  rw [proxyReadData, hread] at h
  cases h
  exact ⟨proxySocket, rfl, hcontinues⟩

/-- The token of the way out is at the client's socket again. -/
theorem Forwarding.ask {tunnel : Tunnel} {proxySocket : HTTPProxySocket}
    (hstage : tunnel.Forwarding) (hpasses : Passes lib tunnel) (houtbound : tunnel.outbound = 0)
    (hcontinues : HTTPProxySocket.Continues tunnel.proxySocket proxySocket) :
    Flow lib (tunnel.withProxy proxySocket) := by
  have hnone : tunnel.proxySocket.socket.reads = [] := by
    simp only [Tunnel.outbound] at houtbound
    exact List.length_eq_zero_iff.mp (by omega)
  have hreads : proxySocket.isCancelled = true ∧ proxySocket.socket.reads = [] ∨
      ∃ read, proxySocket.socket.reads = [read] ∧ proxySocket.Asks read := by
    cases hcontinues.reads with
    | inl hsame => exact Or.inl ⟨hsame.1, hsame.2.trans hnone⟩
    | inr hread =>
        obtain ⟨read, hreads, hasks⟩ := hread
        rw [hnone] at hreads
        exact Or.inr ⟨read, hreads, hasks⟩
  have hcount : (tunnel.withProxy proxySocket).outbound = proxySocket.socket.reads.length := by
    simp only [Tunnel.outbound, withProxy] at houtbound ⊢
    omega
  have hresponse : (tunnel.withProxy proxySocket).response = tunnel.response := by
    simp [response, withProxy, hcontinues.isConnectCommand, hcontinues.writeStatus]
  have htoClient : (tunnel.withProxy proxySocket).toClient = tunnel.toClient := by
    simp [toClient, withProxy, hcontinues.sent]
  have hreturning : (tunnel.withProxy proxySocket).returning = tunnel.returning := by
    simp [Tunnel.returning, withProxy, hcontinues.writes]
  refine Forwarding.flow ?_ ⟨?_, ?_, ?_, ?_, ?_, ?_⟩ ?_ ?_
  · exact
      { status := hstage.status, adapter := hstage.adapter, noSession := hstage.noSession,
        readySignal := hstage.readySignal,
        writeStatus := hcontinues.writeStatus.trans hstage.writeStatus,
        current := by simpa [withProxy, hcontinues.scanner] using hstage.current,
        readStatus := hcontinues.readStatus, reads := hreads.imp_left And.right }
  · simpa [withProxy, hcontinues.scanner] using hpasses.ready
  · intro more
    simpa [fromClient, withProxy, hcontinues.received, hcontinues.scanner, toRemote]
      using hpasses.relays more
  · rw [hresponse, htoClient]
    exact hpasses.handedBack
  · intro hopened
    rw [hresponse, htoClient]
    exact hpasses.returns (hcontinues.opened hopened)
  · rw [hreturning]
    exact hpasses.returning
  · intro hopened
    rw [hreturning]
    exact hpasses.kept (hcontinues.opened hopened)
  · rw [hcount]
    cases hreads with
    | inl hclosed => simp [hclosed.2]
    | inr hread =>
        obtain ⟨read, hread, -⟩ := hread
        simp [hread]
  · intro hopened
    rw [hcount]
    cases hreads with
    | inl hclosed =>
        have hfalse := hclosed.1.symm.trans hopened
        cases hfalse
    | inr hread =>
        obtain ⟨read, hread, -⟩ := hread
        simp [hread]

/-- The answer to the CONNECT has been sent: the tunnel forwards. -/
theorem Responding.proxyWrote {tunnel after : Tunnel} (hstage : tunnel.Responding)
    (hrunning : tunnel.Running lib) (hcancelled : tunnel.isCancelled = false)
    (h : tunnel.handle lib manager .proxyWrote = some after) : Flow lib after := by
  obtain ⟨adapterSocket, hadapter, hsocket, hadapterOpen, hconnected⟩ := hstage.adapter
  have hdid : tunnel.proxySocket.acknowledge.didWrite =
      ({ tunnel.proxySocket.acknowledge with writeStatus := .forwarding },
        .didBecomeReadyToForward) := by
    have hstatus : tunnel.proxySocket.acknowledge.writeStatus = .sendingConnectResponse :=
      hstage.writeStatus
    rw [HTTPProxySocket.didWrite, hstatus]
  simp only [handle, hdid, call] at h
  rw [didBecomeReadyToForward_second (by exact hcancelled) (by exact hstage.readySignal)] at h
  obtain ⟨mid, hmid, rfl⟩ := Option.map_eq_some_iff.mp h
  have hpast : HTTPProxySocket.PastFirst tunnel.proxySocket.acknowledge.readStatus := by
    simp [HTTPProxySocket.acknowledge, HTTPProxySocket.PastFirst, hstage.readStatus]
  obtain ⟨proxySocket, rfl, hcontinues⟩ :=
    proxyReadData_continues hmid (fun _ => hstage.current) hpast
  have hnone : tunnel.pendingHeader = [] := by simp [pendingHeader, hstage.readStatus]
  have hreturns := hrunning.returns hstage.opened
  have hread : adapterSocket.readData = { adapterSocket with
      socket := adapterSocket.socket.read .data } := by
    rw [AdapterSocket.readData, if_neg (by simp [hadapterOpen])]
  -- the adapter is asked first, which is all the same
  let asked : Tunnel := { tunnel with
    proxySocket := { tunnel.proxySocket.acknowledge with writeStatus := .forwarding }
    readySignal := 2, status := .forwarding, adapterSocket := some adapterSocket.readData }
  have hasked : adapterReadData (withProxy { withProxy tunnel { tunnel.proxySocket.acknowledge with
      writeStatus := .forwarding } with readySignal := 2, status := .forwarding } proxySocket) =
      asked.withProxy proxySocket := by
    simp [asked, adapterReadData, withAdapter, withProxy, hadapter]
  have hforwarding : asked.Forwarding :=
    { status := rfl,
      adapter := ⟨adapterSocket.readData, rfl, by simp [hread, hadapterOpen],
        by simp [hread, hconnected]⟩,
      noSession := hstage.noSession, readySignal := rfl, writeStatus := rfl,
      current := fun _ => hstage.current, readStatus := hpast, reads := Or.inl hstage.reads }
  have hback : asked.toClient = asked.response ++ asked.fromRemote := by
    simpa [asked, toClient, response, fromRemote, hread, hadapter, hsocket, hstage.writeStatus,
      HTTPProxySocket.acknowledge, RawTCPSocket.acknowledge, RawTCPSocket.read] using hreturns
  have hreturning : asked.returning = 1 := by
    simp [asked, Tunnel.returning, hstage.writes, hstage.delayedReads, hread, hsocket,
      HTTPProxySocket.acknowledge, RawTCPSocket.acknowledge, RawTCPSocket.read,
      RawTCPSocket.init]
  rw [hasked]
  refine hforwarding.ask
    ⟨hrunning.ready, ?_, ?_, fun _ => hback, hreturning.le, fun _ => hreturning⟩ ?_ hcontinues
  · intro more
    have hbefore := hrunning.relays more
    rw [hnone, List.append_nil] at hbefore
    simpa [asked, fromClient, toRemote, hread, hadapter, HTTPProxySocket.acknowledge,
      RawTCPSocket.acknowledge, RawTCPSocket.read] using hbefore
  · simp [hback]
  · simp [asked, Tunnel.outbound, hstage.reads, hread, hsocket, HTTPProxySocket.acknowledge,
      RawTCPSocket.acknowledge, RawTCPSocket.read, RawTCPSocket.init]

/-- The scanner has given up: nothing more is passed on to the remote. -/
theorem Forwarding.give_up {tunnel : Tunnel} {proxySocket : HTTPProxySocket} {data : Data}
    (hstage : tunnel.Forwarding) (hpasses : Passes lib tunnel)
    (hreadStatus : proxySocket.readStatus = tunnel.proxySocket.readStatus)
    (hwriteStatus : proxySocket.writeStatus = tunnel.proxySocket.writeStatus)
    (hconnect : proxySocket.isConnectCommand = tunnel.proxySocket.isConnectCommand)
    (hclosed : proxySocket.isCancelled = true) (hreads : proxySocket.socket.reads = [])
    (hwrites : proxySocket.socket.writes = tunnel.proxySocket.socket.writes)
    (hsent : proxySocket.socket.sent = tunnel.proxySocket.socket.sent)
    (hreceived : proxySocket.socket.received = tunnel.proxySocket.socket.received ++ [data])
    (hstop : proxySocket.scanner.nextAction = .stop)
    (hnothing : ∀ more, toCome lib.http tunnel.proxySocket.scanner (data ++ more) = [])
    (houtbound : (tunnel.withProxy proxySocket).outbound ≤ 1) :
    Flow lib (tunnel.withProxy proxySocket) := by
  have hopen : ∀ {P : Prop},
      (tunnel.withProxy proxySocket).proxySocket.isCancelled = false → P := by
    intro P hopened
    have hfalse := hclosed.symm.trans hopened
    cases hfalse
  have hreturning : (tunnel.withProxy proxySocket).returning = tunnel.returning := by
    simp [Tunnel.returning, withProxy, hwrites]
  refine Forwarding.flow ?_ ⟨?_, ?_, ?_, hopen, hreturning.le.trans hpasses.returning, hopen⟩
    houtbound hopen
  · exact
      { status := hstage.status, adapter := hstage.adapter, noSession := hstage.noSession,
        readySignal := hstage.readySignal, writeStatus := hwriteStatus.trans hstage.writeStatus,
        current := fun hactive => absurd hstop hactive,
        readStatus := by
          rw [withProxy, hreadStatus]
          exact hstage.readStatus
        reads := Or.inl hreads }
  · simp [withProxy, Ready, hstop]
  · intro more
    have hbefore := hpasses.relays (data ++ more)
    rw [hnothing] at hbefore
    simpa [fromClient, toRemote, withProxy, hreceived, toCome, hstop] using hbefore
  · simpa [toClient, response, fromRemote, withProxy, hsent, hconnect, hwriteStatus]
      using hpasses.handedBack

/-- Data of the client is handed to the adapter, or the scanner gives up. -/
theorem Forwarding.proxyRead {tunnel after : Tunnel} {data : Data} (hstage : tunnel.Forwarding)
    (hpasses : Passes lib tunnel) (hcancelled : tunnel.isCancelled = false)
    (houtbound : tunnel.outbound ≤ 1) (hpossible : tunnel.possible (.proxyRead data) = true)
    (h : tunnel.handle lib manager (.proxyRead data) = some after) : Flow lib after := by
  obtain ⟨adapterSocket, hadapter, hadapterOpen, hconnected⟩ := hstage.adapter
  cases hstage.reads with
  | inl hnone => simp [possible, hnone] at hpossible
  | inr hread =>
      obtain ⟨read, hreads, hasks⟩ := hread
      have hgives := gives_of_possible hreads hpossible
      have hwrites : adapterSocket.socket.writes = 0 := by
        simp only [Tunnel.outbound, hreads, hadapter, Option.map_some, Option.getD_some,
          List.length_singleton] at houtbound
        omega
      have htail : (tunnel.proxySocket.answer data).socket.reads = [] := by
        simp [HTTPProxySocket.answer, RawTCPSocket.answer, hreads]
      simp only [handle, Option.bind_eq_bind, Option.bind_eq_some_iff] at h
      obtain ⟨⟨proxySocket, proxyCall⟩, hdid, hcall⟩ := h
      have hready' : (tunnel.proxySocket.answer data).scanner.Ready := hpasses.ready
      have hasks' : (tunnel.proxySocket.answer data).Asks read := hasks
      cases HTTPProxySocket.didRead_reads hready' hasks' hgives hdid with
      | gives_up scanner hstop hnothing =>
          cases hcall
          obtain ⟨hstatus, hwrite, hscanner, hconnect, -, hreads', hwrites', hreceived', hsent'⟩ :=
            HTTPProxySocket.disconnect_keeps
              { tunnel.proxySocket.answer data with scanner } .elegant
          refine hstage.give_up hpasses hstatus hwrite hconnect
            (HTTPProxySocket.disconnect_isCancelled _ _) (hreads'.trans htail) hwrites' hsent'
            hreceived' ((congrArg _ hscanner).trans hstop) hnothing ?_
          simp [Tunnel.outbound, withProxy, hreads', htail, hadapter, hwrites]
      | request scanner forwarded hready hcurrent hnone hnext =>
          have hactive : tunnel.proxySocket.scanner.nextAction ≠ .stop := by
            intro hstop
            simp [HTTPProxySocket.Asks, hstop] at hasks
          have hsome := hstage.current hactive
          have hnone' : tunnel.proxySocket.scanner.currentHeader = none := hnone
          rw [hnone'] at hsome
          cases hsome
      | piece scanner currentHeader out hready hcurrent hlater hnext =>
          obtain ⟨other, written, hother, hwrite, hafter⟩ :=
            didReadFromProxy_running (by exact hcancelled) hcall
          cases hadapter.symm.trans hother
          have hcall := hafter.symm
          rw [AdapterSocket.write_opened hadapterOpen hwrite] at hcall
          simp only [withProxy] at hcall
          have hsame : after.returning = tunnel.returning ∧ after.outbound = 1 := by
            rw [← hcall]
            simp [Tunnel.returning, Tunnel.outbound, hadapter, hwrites,
              HTTPProxySocket.answer, RawTCPSocket.answer, RawTCPSocket.write, hreads]
          obtain ⟨hreturning, htaken⟩ := hsame
          have hback : after.response = tunnel.response ∧ after.toClient = tunnel.toClient ∧
              after.fromRemote = tunnel.fromRemote := by
            rw [← hcall]
            refine ⟨rfl, rfl, ?_⟩
            simp [fromRemote, hadapter, RawTCPSocket.write]
          obtain ⟨hresponse, htoClient, hfromRemote⟩ := hback
          have hopened : after.proxySocket.isCancelled = tunnel.proxySocket.isCancelled := by
            rw [← hcall]
            rfl
          refine Forwarding.flow ?_ ⟨?_, ?_, ?_, ?_, ?_, ?_⟩ htaken.le fun _ => htaken
          · rw [← hcall]
            exact
              { status := hstage.status, adapter := ⟨_, rfl, hadapterOpen, hconnected⟩,
                noSession := hstage.noSession, readySignal := hstage.readySignal,
                writeStatus := hstage.writeStatus, current := fun _ => hcurrent,
                readStatus := hstage.readStatus, reads := Or.inl htail }
          · rw [← hcall]
            exact hready
          · intro more
            have hbefore := hpasses.relays (data ++ more)
            have hnow : toCome lib.http tunnel.proxySocket.scanner (data ++ more) =
              out ++ toCome lib.http scanner more := hnext more
            rw [hnow] at hbefore
            rw [← hcall]
            simpa [fromClient, toRemote, hadapter, HTTPProxySocket.answer,
              RawTCPSocket.answer, RawTCPSocket.write] using hbefore
          · rw [hresponse, htoClient, hfromRemote]
            exact hpasses.handedBack
          · rw [hopened, hresponse, htoClient, hfromRemote]
            exact hpasses.returns
          · rw [hreturning]
            exact hpasses.returning
          · rw [hopened, hreturning]
            exact hpasses.kept

/-- The client's socket has taken the data: the next read of the adapter is put off. -/
theorem Forwarding.proxyWrote {tunnel after : Tunnel} (hstage : tunnel.Forwarding)
    (hpasses : Passes lib tunnel) (hcancelled : tunnel.isCancelled = false)
    (houtbound : tunnel.outbound ≤ 1)
    (hkept : tunnel.proxySocket.isCancelled = false → tunnel.outbound = 1)
    (hpossible : tunnel.possible .proxyWrote = true)
    (h : tunnel.handle lib manager .proxyWrote = some after) : Flow lib after := by
  have hpositive : 0 < tunnel.proxySocket.socket.writes := by
    simp only [possible, Bool.and_eq_true, decide_eq_true_eq] at hpossible
    exact hpossible.2
  have hdid : tunnel.proxySocket.acknowledge.didWrite =
      (tunnel.proxySocket.acknowledge, .didWrite) := by
    have hstatus : tunnel.proxySocket.acknowledge.writeStatus = .forwarding := hstage.writeStatus
    rw [HTTPProxySocket.didWrite, hstatus]
  simp only [handle, hdid, call, withProxy, hcancelled, Bool.false_eq_true, if_false,
    Option.some.injEq] at h
  have hreturning : after.returning = tunnel.returning := by
    rw [← h]
    simp only [Tunnel.returning, HTTPProxySocket.acknowledge, RawTCPSocket.acknowledge]
    omega
  subst h
  refine Forwarding.flow { hstage with } ⟨hpasses.ready, hpasses.relays, hpasses.handedBack,
    hpasses.returns, ?_, ?_⟩ houtbound hkept
  · rw [hreturning]
    exact hpasses.returning
  · rw [hreturning]
    exact hpasses.kept

/-- Data of the remote is handed back. -/
theorem Forwarding.adapterRead {tunnel after : Tunnel} {data : Data} (hstage : tunnel.Forwarding)
    (hpasses : Passes lib tunnel) (hcancelled : tunnel.isCancelled = false)
    (houtbound : tunnel.outbound ≤ 1)
    (hkept : tunnel.proxySocket.isCancelled = false → tunnel.outbound = 1)
    (hpossible : tunnel.possible (.adapterRead data) = true)
    (h : tunnel.handle lib manager (.adapterRead data) = some after) : Flow lib after := by
  obtain ⟨adapterSocket, hadapter, hadapterOpen, hconnected⟩ := hstage.adapter
  have hpositive : adapterSocket.socket.reads ≠ [] := by
    intro hnone
    simp [possible, hadapter, hnone] at hpossible
  have hlength : 0 < adapterSocket.socket.reads.length := List.length_pos_iff.mpr hpositive
  have hreturning := hpasses.returning
  simp only [Tunnel.returning, hadapter, Option.map_some, Option.getD_some] at hreturning
  simp only [handle, didReadFromAdapter, withAdapter, hadapter, Option.map_some, hcancelled,
    Bool.false_eq_true, if_false, Option.some.injEq] at h
  -- the client's socket, whether it is written to or not
  obtain ⟨proxySocket, hproxy⟩ : ∃ proxySocket, tunnel.proxySocket.write data = proxySocket :=
    ⟨_, rfl⟩
  have hwrite : proxySocket = tunnel.proxySocket ∧ tunnel.proxySocket.isCancelled = true ∨
      proxySocket = { tunnel.proxySocket with socket := tunnel.proxySocket.socket.write data } ∧
        tunnel.proxySocket.isCancelled = false := by
    rw [← hproxy, HTTPProxySocket.write]
    split
    · exact Or.inl ⟨rfl, by assumption⟩
    · exact Or.inr ⟨rfl, Bool.eq_false_iff.mpr (by assumption)⟩
  rw [hproxy] at h
  have hforwarding : after.Forwarding := by
    rw [← h]
    cases hwrite with
    | inl hclosed =>
        rw [hclosed.1]
        exact { hstage with adapter := ⟨_, rfl, hadapterOpen, hconnected⟩ }
    | inr hopened =>
        rw [hopened.1]
        exact { hstage with adapter := ⟨_, rfl, hadapterOpen, hconnected⟩ }
  have hsame : proxySocket.scanner = tunnel.proxySocket.scanner ∧
      proxySocket.isCancelled = tunnel.proxySocket.isCancelled ∧
      proxySocket.socket.reads = tunnel.proxySocket.socket.reads ∧
      proxySocket.socket.received = tunnel.proxySocket.socket.received ∧
      proxySocket.isConnectCommand = tunnel.proxySocket.isConnectCommand ∧
      proxySocket.writeStatus = tunnel.proxySocket.writeStatus := by
    cases hwrite with
    | inl hclosed => simp [hclosed.1]
    | inr hopened => simp [hopened.1, RawTCPSocket.write]
  obtain ⟨hscanner, hclosed, hreads, hreceived, hconnect, hwriteStatus⟩ := hsame
  have hcount : after.outbound = tunnel.outbound := by
    rw [← h]
    simp [Tunnel.outbound, withProxy, hadapter, hreads, AdapterSocket.answer,
      RawTCPSocket.answer]
  have hresponse : after.response = tunnel.response := by
    rw [← h]
    simp [response, withProxy, hconnect, hwriteStatus]
  have hfromRemote : after.fromRemote = tunnel.fromRemote ++ data := by
    rw [← h]
    simp [fromRemote, withProxy, hadapter, AdapterSocket.answer, RawTCPSocket.answer]
  have hafter : after.proxySocket = proxySocket := by rw [← h, withProxy]
  have hreturns : after.proxySocket.isCancelled = false →
      after.toClient = after.response ++ after.fromRemote ∧ after.returning = 1 := by
    intro hopen
    rw [hafter, hclosed] at hopen
    cases hwrite with
    | inl hnot =>
        rw [hnot.2] at hopen
        cases hopen
    | inr hopened =>
        have hbefore := hpasses.returns hopen
        have hkeeps := hpasses.kept hopen
        constructor
        · have hgiven : after.toClient = tunnel.toClient ++ data := by
            simp [toClient, hafter, hopened.1, RawTCPSocket.write]
          rw [hgiven, hresponse, hfromRemote, hbefore, List.append_assoc]
        · simp only [Tunnel.returning, hadapter, Option.map_some, Option.getD_some] at hkeeps
          rw [← h]
          simp only [Tunnel.returning, withProxy, hopened.1, Option.map_some, Option.getD_some,
            AdapterSocket.answer, RawTCPSocket.answer, RawTCPSocket.write, List.length_tail]
          omega
  refine hforwarding.flow ⟨?_, ?_, ?_, fun hopen => (hreturns hopen).1, ?_,
    fun hopen => (hreturns hopen).2⟩ ?_ ?_
  · rw [hafter, hscanner]
    exact hpasses.ready
  · intro more
    rw [← h]
    simpa [fromClient, toRemote, withProxy, hscanner, hreceived, hadapter, AdapterSocket.answer,
      RawTCPSocket.answer] using hpasses.relays more
  · cases hwrite with
    | inl hnot =>
        have hgiven : after.toClient = tunnel.toClient := by
          simp [toClient, hafter, hnot.1]
        rw [hgiven, hresponse, hfromRemote, ← List.append_assoc]
        exact hpasses.handedBack.trans (List.prefix_append _ _)
    | inr hopened =>
        have hopen : after.proxySocket.isCancelled = false := by
          rw [hafter, hclosed]
          exact hopened.2
        simp [(hreturns hopen).1]
  · rw [← h]
    cases hwrite with
    | inl hnot =>
        simp only [Tunnel.returning, withProxy, hnot.1, Option.map_some, Option.getD_some,
          AdapterSocket.answer, RawTCPSocket.answer, List.length_tail]
        omega
    | inr hopened =>
        simp only [Tunnel.returning, withProxy, hopened.1, Option.map_some, Option.getD_some,
          AdapterSocket.answer, RawTCPSocket.answer, RawTCPSocket.write, List.length_tail]
        omega
  · rw [hcount]
    exact houtbound
  · rw [hafter, hclosed, hcount]
    exact hkept

/-- The remote's socket has taken the data: the client's is asked for more. -/
theorem Forwarding.adapterWrote {tunnel after : Tunnel} (hstage : tunnel.Forwarding)
    (hpasses : Passes lib tunnel) (hcancelled : tunnel.isCancelled = false)
    (houtbound : tunnel.outbound ≤ 1) (hpossible : tunnel.possible .adapterWrote = true)
    (h : tunnel.handle lib manager .adapterWrote = some after) : Flow lib after := by
  obtain ⟨adapterSocket, hadapter, hadapterOpen, hconnected⟩ := hstage.adapter
  have hpositive : 0 < adapterSocket.socket.writes := by
    simp only [possible, hadapter, Option.any_some, Bool.and_eq_true, decide_eq_true_eq]
      at hpossible
    exact hpossible.2
  simp only [Tunnel.outbound, hadapter, Option.map_some, Option.getD_some] at houtbound
  have hread : (tunnel.withAdapter AdapterSocket.acknowledge).proxyReadData = some after := by
    rw [← h, handle, adapterDidWrite, if_neg (by simp [withAdapter, hcancelled])]
  obtain ⟨proxySocket, rfl, hcontinues⟩ :=
    proxyReadData_continues hread hstage.current hstage.readStatus
  have hforwarding : (tunnel.withAdapter AdapterSocket.acknowledge).Forwarding :=
    { hstage with
      adapter := ⟨adapterSocket.acknowledge, by simp [withAdapter, hadapter], hadapterOpen,
        hconnected⟩ }
  have hnone : (tunnel.withAdapter AdapterSocket.acknowledge).outbound = 0 := by
    simp only [Tunnel.outbound, withAdapter, hadapter, Option.map_some, Option.getD_some,
      AdapterSocket.acknowledge, RawTCPSocket.acknowledge]
    omega
  have hreturning : (tunnel.withAdapter AdapterSocket.acknowledge).returning =
      tunnel.returning := by
    simp [Tunnel.returning, withAdapter, hadapter, AdapterSocket.acknowledge,
      RawTCPSocket.acknowledge]
  have hfromRemote : (tunnel.withAdapter AdapterSocket.acknowledge).fromRemote =
      tunnel.fromRemote := by
    simp [fromRemote, withAdapter, hadapter, AdapterSocket.acknowledge,
      RawTCPSocket.acknowledge]
  refine hforwarding.ask
    ⟨hpasses.ready, ?_, ?_, ?_, hreturning.le.trans hpasses.returning, ?_⟩ hnone hcontinues
  · intro more
    simpa [fromClient, toRemote, withAdapter, hadapter, AdapterSocket.acknowledge,
      RawTCPSocket.acknowledge] using hpasses.relays more
  · rw [hfromRemote]
    exact hpasses.handedBack
  · rw [hfromRemote]
    exact hpasses.returns
  · rw [hreturning]
    exact hpasses.kept

/-- A read that was put off is due. -/
theorem Forwarding.delayedRead {tunnel after : Tunnel} (hstage : tunnel.Forwarding)
    (hpasses : Passes lib tunnel) (houtbound : tunnel.outbound ≤ 1)
    (hkept : tunnel.proxySocket.isCancelled = false → tunnel.outbound = 1)
    (hpossible : tunnel.possible .delayedRead = true)
    (h : tunnel.handle lib manager .delayedRead = some after) : Flow lib after := by
  obtain ⟨adapterSocket, hadapter, hadapterOpen, hconnected⟩ := hstage.adapter
  have hpositive : 0 < tunnel.delayedReads := of_decide_eq_true hpossible
  have hread : adapterSocket.readData = { adapterSocket with
      socket := adapterSocket.socket.read .data } := by
    rw [AdapterSocket.readData, if_neg (by simp [hadapterOpen])]
  simp only [handle, adapterReadData, withAdapter, hadapter, Option.map_some, hread,
    Option.some.injEq] at h
  have hreturning : after.returning = tunnel.returning := by
    rw [← h]
    simp only [Tunnel.returning, hadapter, Option.map_some, Option.getD_some, RawTCPSocket.read,
      List.length_append, List.length_singleton]
    omega
  have hcount : after.outbound = tunnel.outbound := by
    rw [← h]
    simp [Tunnel.outbound, hadapter, RawTCPSocket.read]
  have hfromRemote : after.fromRemote = tunnel.fromRemote := by
    rw [← h]
    simp [fromRemote, hadapter, RawTCPSocket.read]
  have htoRemote : after.toRemote = tunnel.toRemote := by
    rw [← h]
    simp [toRemote, hadapter, RawTCPSocket.read]
  subst h
  refine Forwarding.flow { hstage with adapter := ⟨_, rfl, hadapterOpen, hconnected⟩ }
    ⟨hpasses.ready, ?_, ?_, ?_, hreturning.le.trans hpasses.returning, ?_⟩
    (hcount.le.trans houtbound) ?_
  · intro more
    rw [htoRemote]
    exact hpasses.relays more
  · rw [hfromRemote]
    exact hpasses.handedBack
  · rw [hfromRemote]
    exact hpasses.returns
  · rw [hreturning]
    exact hpasses.kept
  · rw [hcount]
    exact hkept

/-! ### One event -/

/-- The adapter changes, but nothing passes, and no token moves. -/
theorem Flow.change_adapter {tunnel : Tunnel} (hflow : Flow lib tunnel)
    (hcancelled : tunnel.isCancelled = false) {change : AdapterSocket → AdapterSocket}
    (hsame : Undisturbed tunnel (tunnel.withAdapter change))
    (hkeeps : ∀ adapterSocket, (change adapterSocket).isCancelled = adapterSocket.isCancelled ∧
      (change adapterSocket).connecting = adapterSocket.connecting ∧
      (adapterSocket.socket = .init → (change adapterSocket).socket = .init)) :
    Flow lib (tunnel.withAdapter change) := by
  have hrunning := hflow.running hcancelled
  have hchange : ∀ {adapterSocket}, tunnel.adapterSocket = some adapterSocket →
      (tunnel.withAdapter change).adapterSocket = some (change adapterSocket) := by
    intro adapterSocket hadapter
    simp [withAdapter, hadapter]
  have hstage : (tunnel.withAdapter change).Stage := by
    rcases hrunning.stage with hreading | hwaiting | hresponding | ⟨hforwarding, htokens⟩
    · refine Or.inl { hreading with noAdapter := ?_ }
      simp [withAdapter, hreading.noAdapter]
    · refine Or.inr (Or.inl { hwaiting with adapter := ?_, awaits := ?_ })
      · intro a ha
        obtain ⟨adapterSocket, hadapter, rfl⟩ := Option.map_eq_some_iff.mp ha
        obtain ⟨hsocket, hopened, hconnecting, hnone⟩ := hwaiting.adapter adapterSocket hadapter
        obtain ⟨hopen, hconnect, hinit⟩ := hkeeps adapterSocket
        exact ⟨hinit hsocket, hopen.trans hopened, hconnect.trans hconnecting, hnone⟩
      · simpa [withAdapter] using hwaiting.awaits
    · obtain ⟨adapterSocket, hadapter, hsocket, hopened, hconnected⟩ := hresponding.adapter
      obtain ⟨hopen, hconnect, hinit⟩ := hkeeps adapterSocket
      exact Or.inr (Or.inr (Or.inl { hresponding with
        adapter := ⟨_, hchange hadapter, hinit hsocket, hopen.trans hopened,
          hconnect.trans hconnected⟩ }))
    · obtain ⟨adapterSocket, hadapter, hopened, hconnected⟩ := hforwarding.adapter
      obtain ⟨hopen, hconnect, -⟩ := hkeeps adapterSocket
      refine Or.inr (Or.inr (Or.inr ⟨{ hforwarding with
        adapter := ⟨_, hchange hadapter, hopen.trans hopened, hconnect.trans hconnected⟩ }, ?_⟩))
      rw [hsame.outbound, hsame.returning]
      exact htokens
  apply Flow.of_running (hsame.outbound.le.trans hflow.outbound)
    (hsame.returning.le.trans hflow.returning)
  · rw [hsame.fromRemote]
    exact hflow.handedBack
  · exact hflow.unanswered
  · refine ⟨hstage, hrunning.ready, ?_, ?_⟩
    · intro more
      rw [hsame.toRemote]
      exact hrunning.relays more
    · rw [hsame.fromRemote]
      exact hrunning.returns

/-- The report of a lost connection is on its way: nothing has happened yet. -/
theorem Flow.adapterGone {tunnel : Tunnel} (hflow : Flow lib tunnel)
    (hcancelled : tunnel.isCancelled = false) :
    Flow lib (tunnel.withAdapter AdapterSocket.lose) :=
  hflow.change_adapter hcancelled
    (withAdapter_undisturbed tunnel AdapterSocket.lose fun _ => rfl) fun _ => ⟨rfl, rfl, id⟩

/-- A read of the remote ends without data: its token is lost. -/
theorem Flow.adapterReadNothing {tunnel : Tunnel} (hflow : Flow lib tunnel)
    (hcancelled : tunnel.isCancelled = false) :
    Flow lib (tunnel.withAdapter AdapterSocket.endRead) := by
  refine hflow.change_adapter hcancelled (endRead_undisturbed tunnel) fun adapterSocket => ?_
  refine ⟨rfl, rfl, fun hinit => ?_⟩
  rw [AdapterSocket.endRead, hinit]
  rfl

/-- The resolver could not be asked: the tunnel waits for nothing that will come. -/
theorem Flow.unresolved {tunnel : Tunnel} (hflow : Flow lib tunnel)
    (hcancelled : tunnel.isCancelled = false) (hpossible : tunnel.possible .unresolved = true) :
    Flow lib { tunnel with resolving := none, unresolved := true } := by
  have hrunning := hflow.running hcancelled
  have hwaiting : tunnel.Waiting := by
    rcases hrunning.stage with hreading | hwaiting | hresponding | ⟨hforwarding, -⟩
    · simp [possible, hreading.noSession] at hpossible
    · exact hwaiting
    · simp [possible, hresponding.noSession] at hpossible
    · simp [possible, hforwarding.noSession] at hpossible
  have hafter : Waiting { tunnel with resolving := none, unresolved := true } :=
    { hwaiting with
      adapter := fun adapterSocket hadapter => by
        obtain ⟨hsocket, hopened, hconnecting, -⟩ := hwaiting.adapter adapterSocket hadapter
        exact ⟨hsocket, hopened, hconnecting, rfl⟩
      awaits := Or.inr (Or.inr rfl)
      unmatched := nofun }
  exact Flow.of_running hflow.outbound hflow.returning hflow.handedBack hflow.unanswered
    ⟨Or.inr (Or.inl hafter), hrunning.ready, hrunning.relays, hrunning.returns⟩

/-- The events of the client's socket. -/
theorem Flow.proxyRead {tunnel after : Tunnel} {data : Data} (hflow : Flow lib tunnel)
    (hcancelled : tunnel.isCancelled = false)
    (hpossible : tunnel.possible (.proxyRead data) = true)
    (h : tunnel.handle lib manager (.proxyRead data) = some after) : Flow lib after := by
  have hrunning := hflow.running hcancelled
  rcases hrunning.stage with hreading | hwaiting | hresponding | ⟨hforwarding, htokens⟩
  · exact hreading.proxyRead hrunning hcancelled hpossible h
  · simp [possible, hwaiting.reads] at hpossible
  · simp [possible, hresponding.reads] at hpossible
  · exact hforwarding.proxyRead (hforwarding.passes htokens hflow hcancelled) hcancelled
      hflow.outbound hpossible h

theorem Flow.proxyWrote {tunnel after : Tunnel} (hflow : Flow lib tunnel)
    (hcancelled : tunnel.isCancelled = false) (hpossible : tunnel.possible .proxyWrote = true)
    (h : tunnel.handle lib manager .proxyWrote = some after) : Flow lib after := by
  have hrunning := hflow.running hcancelled
  rcases hrunning.stage with hreading | hwaiting | hresponding | ⟨hforwarding, htokens⟩
  · simp [possible, hreading.writes] at hpossible
  · simp [possible, hwaiting.writes] at hpossible
  · exact hresponding.proxyWrote hrunning hcancelled h
  · exact hforwarding.proxyWrote (hforwarding.passes htokens hflow hcancelled) hcancelled
      hflow.outbound (fun hopened => (htokens hopened).1) hpossible h

theorem Flow.resolved {tunnel after : Tunnel} {ipv4Result : Option (List Text)}
    (hflow : Flow lib tunnel) (hcancelled : tunnel.isCancelled = false)
    (hpossible : tunnel.possible (.resolved ipv4Result) = true)
    (h : tunnel.handle lib manager (.resolved ipv4Result) = some after) : Flow lib after := by
  have hrunning := hflow.running hcancelled
  rcases hrunning.stage with hreading | hwaiting | hresponding | ⟨hforwarding, -⟩
  · simp [possible, hreading.noSession] at hpossible
  · exact hwaiting.resolved hflow hrunning hcancelled hpossible h
  · simp [possible, hresponding.noSession] at hpossible
  · simp [possible, hforwarding.noSession] at hpossible

/-- The events of the remote's socket. -/
theorem Flow.adapterConnected {tunnel after : Tunnel} (hflow : Flow lib tunnel)
    (hcancelled : tunnel.isCancelled = false)
    (hpossible : tunnel.possible .adapterConnected = true)
    (h : tunnel.handle lib manager .adapterConnected = some after) : Flow lib after := by
  have hrunning := hflow.running hcancelled
  rcases hrunning.stage with hreading | hwaiting | hresponding | ⟨hforwarding, -⟩
  · simp [possible, hreading.noAdapter] at hpossible
  · exact hwaiting.adapterConnected hrunning hcancelled hpossible h
  · obtain ⟨adapterSocket, hadapter, -, -, hconnected⟩ := hresponding.adapter
    simp [possible, hadapter, hconnected] at hpossible
  · obtain ⟨adapterSocket, hadapter, -, hconnected⟩ := hforwarding.adapter
    simp [possible, hadapter, hconnected] at hpossible

/-- Before the tunnel forwards, the remote's socket is asked for nothing. -/
theorem idle_of_stage {tunnel : Tunnel} (hstage : tunnel.Stage)
    (hnot : ¬tunnel.Forwarding) (adapterSocket : AdapterSocket)
    (hadapter : tunnel.adapterSocket = some adapterSocket) : adapterSocket.socket = .init := by
  rcases hstage with hreading | hwaiting | hresponding | ⟨hforwarding, -⟩
  · rw [hreading.noAdapter] at hadapter
    cases hadapter
  · exact (hwaiting.adapter adapterSocket hadapter).1
  · obtain ⟨_, hother, hsocket, -⟩ := hresponding.adapter
    cases hother.symm.trans hadapter
    exact hsocket
  · exact absurd hforwarding hnot

theorem forwarding_of_adapterRead {tunnel : Tunnel} {data : Data} (hstage : tunnel.Stage)
    (hpossible : tunnel.possible (.adapterRead data) = true) : tunnel.Forwarding := by
  by_contra hnot
  cases hadapter : tunnel.adapterSocket with
  | none => simp [possible, hadapter] at hpossible
  | some adapterSocket =>
      simp [possible, hadapter, idle_of_stage hstage hnot adapterSocket hadapter,
        RawTCPSocket.init] at hpossible

theorem forwarding_of_adapterWrote {tunnel : Tunnel} (hstage : tunnel.Stage)
    (hpossible : tunnel.possible .adapterWrote = true) : tunnel.Forwarding := by
  by_contra hnot
  cases hadapter : tunnel.adapterSocket with
  | none => simp [possible, hadapter] at hpossible
  | some adapterSocket =>
      simp [possible, hadapter, idle_of_stage hstage hnot adapterSocket hadapter,
        RawTCPSocket.init] at hpossible

theorem forwarding_of_delayedRead {tunnel : Tunnel} (hstage : tunnel.Stage)
    (hpossible : tunnel.possible .delayedRead = true) : tunnel.Forwarding := by
  rcases hstage with hreading | hwaiting | hresponding | ⟨hforwarding, -⟩
  · simp [possible, hreading.delayedReads] at hpossible
  · simp [possible, hwaiting.delayedReads] at hpossible
  · simp [possible, hresponding.delayedReads] at hpossible
  · exact hforwarding

/-- The tokens of a tunnel that is known to forward. -/
theorem Forwarding.tokens {tunnel : Tunnel} (hforwarding : tunnel.Forwarding)
    (hstage : tunnel.Stage) (hopened : tunnel.proxySocket.isCancelled = false) :
    tunnel.outbound = 1 ∧ tunnel.returning = 1 := by
  have hsignal := hforwarding.readySignal
  rcases hstage with hreading | hwaiting | hresponding | ⟨-, htokens⟩
  · rw [hreading.readySignal] at hsignal
    cases hsignal
  · rw [hwaiting.readySignal] at hsignal
    cases hsignal
  · rw [hresponding.readySignal] at hsignal
    cases hsignal
  · exact htokens hopened

/-- **One event.** -/
theorem Flow.handle {tunnel after : Tunnel} {event : RelayEvent} (hflow : Flow lib tunnel)
    (hpossible : tunnel.possible event = true)
    (h : tunnel.handle lib manager event = some after) : Flow lib after := by
  by_cases hcancelled : tunnel.isCancelled = true
  · exact hflow.handle_cancelled hcancelled hpossible h
  · have hopen : tunnel.isCancelled = false := Bool.eq_false_iff.mpr hcancelled
    have hstage := (hflow.running hopen).stage
    cases event with
    | proxyRead data => exact hflow.proxyRead hopen hpossible h
    | proxyWrote => exact hflow.proxyWrote hopen hpossible h
    | proxyDisconnected =>
        cases h
        exact hflow.proxyDisconnected
    | resolved ipv4Result => exact hflow.resolved hopen hpossible h
    | unresolved =>
        cases h
        exact hflow.unresolved hopen hpossible
    | adapterConnected => exact hflow.adapterConnected hopen hpossible h
    | adapterRead data =>
        have hforwarding := forwarding_of_adapterRead hstage hpossible
        have htokens := hforwarding.tokens hstage
        exact hforwarding.adapterRead (hforwarding.passes htokens hflow hopen) hopen
          hflow.outbound (fun hopened => (htokens hopened).1) hpossible h
    | adapterWrote =>
        have hforwarding := forwarding_of_adapterWrote hstage hpossible
        have htokens := hforwarding.tokens hstage
        exact hforwarding.adapterWrote (hforwarding.passes htokens hflow hopen) hopen
          hflow.outbound hpossible h
    | adapterReadNothing =>
        cases h
        exact hflow.adapterReadNothing hopen
    | adapterGone =>
        cases h
        exact hflow.adapterGone hopen
    | adapterDisconnected =>
        cases h
        exact hflow.report fun _ => rfl
    | adapterFailed =>
        cases h
        exact hflow.report fun _ => rfl
    | delayedRead =>
        have hforwarding := forwarding_of_delayedRead hstage hpossible
        have htokens := hforwarding.tokens hstage
        exact hforwarding.delayedRead (hforwarding.passes htokens hflow hopen) hflow.outbound
          (fun hopened => (htokens hopened).1) hpossible h
    | forceClose =>
        cases h
        exact hflow.forceClose

/-! ## Runs -/

/-- A new connection: the first header has been asked for. -/
theorem Flow.accepted : Flow lib accepted := by
  have hasks : Tunnel.accepted.proxySocket.Asks .doubleCRLF := ⟨rfl, rfl⟩
  apply Flow.of_running
  · decide
  · decide
  · exact List.nil_prefix
  · exact fun _ => rfl
  · refine ⟨Or.inl ?_, ready_init, fun _ => rfl, fun _ => rfl⟩
    exact
      { status := rfl, noAdapter := rfl, noSession := rfl, readySignal := rfl,
        delayedReads := rfl, writes := rfl, sent := rfl, writeStatus := rfl, readStatus := rfl,
        reads := Or.inr ⟨rfl, .doubleCRLF, rfl, hasks⟩ }

/-- **The run invariant.** -/
theorem run_flow {events : List RelayEvent} {tunnel : Tunnel}
    (h : run (step lib manager) accepted events = some tunnel) : Flow lib tunnel := by
  refine run_preserves (Flow lib) ?_ Flow.accepted h
  intro before event after hflow hstep
  unfold step at hstep
  split at hstep
  · exact hflow.handle (by assumption) hstep
  · cases hstep

/-- **One at a time.**  No raw socket is asked for a second read, or given a second
write, before the first is answered; and a direction that has a read has no write. -/
theorem one_at_a_time {events : List RelayEvent} {tunnel : Tunnel}
    (h : run (step lib manager) accepted events = some tunnel) :
    tunnel.outbound ≤ 1 ∧ tunnel.inbound ≤ 1 := by
  have hflow := run_flow h
  have hreturning := hflow.returning
  rw [returning_eq] at hreturning
  exact ⟨hflow.outbound, by omega⟩

/-- **To the client.**  It gets the answer to its CONNECT, if it sent one, and then the
bytes of the remote in order, and while the tunnel and its socket are open all of them. -/
theorem relayed_to_client {events : List RelayEvent} {tunnel : Tunnel}
    (h : run (step lib manager) accepted events = some tunnel) :
    tunnel.toClient <+: tunnel.response ++ tunnel.fromRemote ∧
      (tunnel.isCancelled = false → tunnel.proxySocket.isCancelled = false →
        tunnel.toClient = tunnel.response ++ tunnel.fromRemote) := by
  have hflow := run_flow h
  exact ⟨hflow.handedBack, fun hcancelled => (hflow.running hcancelled).returns⟩

/-! ### A request and its answer -/

/-- A request with two bytes of content, and three bytes that answer it. -/
def exchange : List RelayEvent :=
  [.proxyRead (HTTPHeader.encode HTTPHeader.absoluteRequest), .adapterConnected, .adapterWrote,
    .proxyRead [1, 2], .adapterRead [3, 4, 5], .adapterWrote, .proxyWrote, .delayedRead]

theorem exchange_runs :
    ∃ tunnel, run (step asciiProxy (RuleManager.init [] true)) accepted exchange = some tunnel ∧
      tunnel.isCancelled = false ∧ tunnel.proxySocket.isCancelled = false ∧
      tunnel.status = .forwarding := by
  have hruns : (run (step asciiProxy (RuleManager.init [] true)) accepted exchange).any
      (fun tunnel => !tunnel.isCancelled && !tunnel.proxySocket.isCancelled &&
        tunnel.status == .forwarding) = true := by
    decide +kernel
  obtain ⟨tunnel, htunnel, hstate⟩ := (Option.any_eq_true _ _).mp hruns
  simp only [Bool.and_eq_true, Bool.not_eq_true', beq_iff_eq] at hstate
  exact ⟨tunnel, htunnel, hstate.1.1, hstate.1.2, hstate.2⟩

theorem one_at_a_time_exchange :
    ∃ tunnel, run (step asciiProxy (RuleManager.init [] true)) accepted exchange = some tunnel ∧
      tunnel.outbound ≤ 1 ∧ tunnel.inbound ≤ 1 := by
  obtain ⟨tunnel, htunnel, -⟩ := exchange_runs
  exact ⟨tunnel, htunnel, one_at_a_time htunnel⟩

theorem relayed_to_client_exchange :
    ∃ tunnel, run (step asciiProxy (RuleManager.init [] true)) accepted exchange = some tunnel ∧
      tunnel.toClient = tunnel.response ++ tunnel.fromRemote := by
  obtain ⟨tunnel, htunnel, hcancelled, hopened, -⟩ := exchange_runs
  exact ⟨tunnel, htunnel, (relayed_to_client htunnel).2 hcancelled hopened⟩

end Tunnel

end QLadder
