import QLadder.TunnelRelay

/-!
# Where a connection can trap

The proxy unwraps without a check: the adapter of the tunnel, the header that waits, the
rule that matches a session, the first address of a host, the first character of a path.
It counts content in an `Int`, and a Shadowsocks adapter writes the length of the host in a
byte and the port in two.  Under rules that end with the direct one
(`RuleManager(fromRules:appendDirect: true)`), only the last four can fail, whatever the
order of the events (`traps_only`).
-/

namespace QLadder

open PartialRun HTTPStreamScanner

variable {lib : ProxyLibraries} {manager : RuleManager}

/-- The last rule matches every session. -/
theorem matchSession_appendDirect (ip : IPSyntax) (rules : List Rule) {session : ConnectSession}
    (hunmatched : session.matchedRule = none) :
    ((RuleManager.init rules true).matchSession ip session).1.isSome = true := by
  have hrules : (RuleManager.init rules true).rules = rules ++ [Rule.directRule] := rfl
  rw [RuleManager.matchSession, hunmatched, RuleManager.matchRules_fst, hrules]
  simp [List.findSome?_append, Rule.directRule, Rule.matchSession]

/-- Only an empty path cannot be rewritten. -/
theorem path_of_forwardedHeader_none {header : HTTPHeader}
    (h : forwardedHeader lib.http header = none) : header.path = [] := by
  have hpath : (HTTPHeader.removeProxyHeader lib.http header).path = header.path := rfl
  unfold forwardedHeader HTTPHeader.rewriteToRelativePath at h
  rw [hpath] at h
  split at h
  · assumption
  · split at h
    · split at h <;> cases h
    · cases h

namespace HTTPProxySocket

/-- `didScan` traps on a header with an empty path only. -/
theorem didScan_none {proxySocket : HTTPProxySocket} {data : Data}
    (h : proxySocket.didScan lib data = none) :
    ∃ header, HTTPHeader.ofData lib.http data = .ok header ∧ header.path = [] := by
  unfold didScan at h
  cases hinput : proxySocket.scanner.input lib.http data with
  | mk result scanner =>
      rw [hinput] at h
      cases result with
      | error error => cases h
      | ok result =>
          simp only at h
          split at h
          · rename_i header _
            obtain ⟨-, hread, -⟩ := input_header hinput
            have hnone : forwardedHeader lib.http header = none :=
              Option.eq_none_iff_forall_ne_some.mpr (by simpa using h)
            exact ⟨header, (readHeader_ok hread).1, path_of_forwardedHeader_none hnone⟩
          · rename_i header _
            obtain ⟨-, hread, -⟩ := input_header hinput
            have hnone : forwardedHeader lib.http header = none :=
              Option.eq_none_iff_forall_ne_some.mpr (by simpa using h)
            exact ⟨header, (readHeader_ok hread).1, path_of_forwardedHeader_none hnone⟩
          · cases h
          · cases h

/-- `didRead` traps on a header with an empty path, or on content that is too long. -/
theorem didRead_none {proxySocket : HTTPProxySocket} {data : Data}
    (h : proxySocket.didRead lib data = none) :
    proxySocket.scanner.underflows data = true ∨
      ∃ header, HTTPHeader.ofData lib.http data = .ok header ∧ header.path = [] := by
  rw [didRead] at h
  split at h
  · exact Or.inl (by assumption)
  · exact Or.inr (didScan_none h)

end HTTPProxySocket

namespace AdapterSocket

/-- Only the request of a Shadowsocks adapter does not fit. -/
theorem write_isSome {adapterSocket : AdapterSocket} (hfits : adapterSocket.requestTraps = false)
    (data : Data) : (adapterSocket.write data).isSome = true := by
  rw [write, if_neg (by simp [hfits])]
  split <;> rfl

end AdapterSocket

namespace Tunnel

/-- The request of the adapter does not fit, and nothing has been written to it. -/
def RequestTraps (tunnel : Tunnel) : Prop :=
  (tunnel.adapterSocket.any fun adapterSocket => adapterSocket.requestTraps) = true

/-- What the client has sent is written to the adapter. -/
theorem didReadFromProxy_isSome {tunnel : Tunnel} {adapterSocket : AdapterSocket}
    (hadapter : tunnel.adapterSocket = some adapterSocket) (hfits : ¬tunnel.RequestTraps)
    (data : Data) : (tunnel.didReadFromProxy data).isSome = true := by
  rw [didReadFromProxy]
  split
  · rfl
  · have hrequest : adapterSocket.requestTraps = false := by
      rw [RequestTraps, hadapter, Option.any_some] at hfits
      exact Bool.eq_false_iff.mpr hfits
    obtain ⟨written, hwrite⟩ := Option.isSome_iff_exists.mp
      (AdapterSocket.write_isSome hrequest data)
    simp [hadapter, hwrite]

/-- An adapter is opened for every session that has not been matched. -/
theorem openAdapter_isSome (rules : List Rule) (tunnel : Tunnel) {session : TunnelSession}
    (hunmatched : session.matchedRule = none) :
    (tunnel.openAdapter lib (RuleManager.init rules true) session).isSome = true := by
  unfold openAdapter
  split
  · rfl
  · simp only [Option.isSome_map]
    exact matchSession_appendDirect lib.ip.ipSyntax rules hunmatched

/-- The rules always find an adapter. -/
theorem didReceive_isSome (rules : List Rule) (tunnel : Tunnel) {session : TunnelSession}
    (hunmatched : session.matchedRule = none) :
    (tunnel.didReceive lib (RuleManager.init rules true) session).isSome = true := by
  unfold didReceive
  split
  · rfl
  · simp only
    split
    · rfl
    · exact openAdapter_isSome rules _ hunmatched

/-- While content or a later header is due, `readData` returns no header. -/
theorem proxyReadData_isSome {tunnel : Tunnel}
    (hcurrent : tunnel.proxySocket.scanner.nextAction ≠ .stop →
      tunnel.proxySocket.scanner.currentHeader.isSome = true)
    (hstatus : HTTPProxySocket.PastFirst tunnel.proxySocket.readStatus) :
    tunnel.proxyReadData.isSome = true := by
  obtain ⟨proxySocket, hread, -⟩ := HTTPProxySocket.readData_continues hcurrent hstatus
  rw [proxyReadData, hread]
  rfl

/-- The client's data: what is read has somewhere to go. -/
theorem proxyRead_isSome {rules : List Rule} {tunnel : Tunnel} {data : Data}
    (hflow : Flow lib tunnel) (hpossible : tunnel.possible (.proxyRead data) = true)
    (hread : ((tunnel.proxySocket.answer data).didRead lib data).isSome = true)
    (hfits : ¬tunnel.RequestTraps) :
    (tunnel.handle lib (RuleManager.init rules true) (.proxyRead data)).isSome = true := by
  obtain ⟨⟨proxySocket, proxyCall⟩, hdid⟩ := Option.isSome_iff_exists.mp hread
  have hcall : tunnel.handle lib (RuleManager.init rules true) (.proxyRead data) =
      (tunnel.withProxy proxySocket).call lib (RuleManager.init rules true) proxyCall := by
    simp [Tunnel.handle, hdid]
  rw [hcall]
  by_cases hcancelled : tunnel.isCancelled = true
  · rw [call_cancelled (by exact hcancelled)]
    rfl
  · have hrunning := hflow.running (Bool.eq_false_iff.mpr hcancelled)
    have hasked : ∀ read, tunnel.proxySocket.socket.reads = [read] →
        tunnel.proxySocket.Asks read →
        HTTPProxySocket.Reads lib (tunnel.proxySocket.answer data) data proxySocket proxyCall := by
      intro read hreads hasks
      have hready : (tunnel.proxySocket.answer data).scanner.Ready := hrunning.ready
      have hanswers : (tunnel.proxySocket.answer data).Asks read := hasks
      exact HTTPProxySocket.didRead_reads hready hanswers (gives_of_possible hreads hpossible) hdid
    rcases hrunning.stage with hreading | hwaiting | hresponding | ⟨hforwarding, -⟩
    · cases hreading.reads with
      | inl hnone => simp [possible, hnone.2] at hpossible
      | inr hread =>
          obtain ⟨-, read, hreads, hasks⟩ := hread
          cases hasked read hreads hasks with
          | gives_up => rfl
          | request => exact didReceive_isSome rules _ rfl
          | piece scanner currentHeader out hready hcurrent hlater hnext =>
              have hsome : tunnel.proxySocket.scanner.currentHeader.isSome = true := hlater
              rw [hasks.first hreading.readStatus] at hsome
              cases hsome
    · simp [possible, hwaiting.reads] at hpossible
    · simp [possible, hresponding.reads] at hpossible
    · obtain ⟨adapterSocket, hadapter, -⟩ := hforwarding.adapter
      cases hforwarding.reads with
      | inl hnone => simp [possible, hnone] at hpossible
      | inr hread =>
          obtain ⟨read, hreads, hasks⟩ := hread
          cases hasked read hreads hasks with
          | gives_up => rfl
          | request => exact didReceive_isSome rules _ rfl
          | piece => exact didReadFromProxy_isSome (by exact hadapter) (by exact hfits) _

/-- A finished write to the client does not trap. -/
theorem proxyWrote_isSome {tunnel : Tunnel} (hflow : Flow lib tunnel)
    (hpossible : tunnel.possible .proxyWrote = true) :
    (tunnel.handle lib manager .proxyWrote).isSome = true := by
  cases hdid : tunnel.proxySocket.acknowledge.didWrite with
  | mk proxySocket proxyCall =>
      have hcall : tunnel.handle lib manager .proxyWrote =
          (tunnel.withProxy proxySocket).call lib manager proxyCall := by
        simp [Tunnel.handle, hdid]
      rw [hcall]
      by_cases hcancelled : tunnel.isCancelled = true
      · rw [call_cancelled (by exact hcancelled)]
        rfl
      · have hopen : tunnel.isCancelled = false := Bool.eq_false_iff.mpr hcancelled
        have hrunning := hflow.running hopen
        rcases hrunning.stage with hreading | hwaiting | hresponding | ⟨hforwarding, -⟩
        · simp [possible, hreading.writes] at hpossible
        · simp [possible, hwaiting.writes] at hpossible
        · have hstatus : tunnel.proxySocket.acknowledge.writeStatus = .sendingConnectResponse :=
            hresponding.writeStatus
          rw [HTTPProxySocket.didWrite, hstatus] at hdid
          cases hdid
          rw [call, didBecomeReadyToForward_second (by exact hopen)
            (by exact hresponding.readySignal), Option.isSome_map]
          apply proxyReadData_isSome
          · exact fun _ => hresponding.current
          · simp [withProxy, HTTPProxySocket.acknowledge, HTTPProxySocket.PastFirst,
              hresponding.readStatus]
        · have hstatus : tunnel.proxySocket.acknowledge.writeStatus = .forwarding :=
            hforwarding.writeStatus
          rw [HTTPProxySocket.didWrite, hstatus] at hdid
          cases hdid
          rfl

/-- A connected adapter traps only with its first write. -/
theorem adapterConnected_isSome {tunnel : Tunnel} (hflow : Flow lib tunnel)
    (hpossible : tunnel.possible .adapterConnected = true) (hfits : ¬tunnel.RequestTraps) :
    (tunnel.handle lib manager .adapterConnected).isSome = true := by
  by_cases hcancelled : tunnel.isCancelled = true
  · rw [Tunnel.handle, adapterDidBecomeReady, if_pos (by exact hcancelled)]
    rfl
  · have hopen : tunnel.isCancelled = false := Bool.eq_false_iff.mpr hcancelled
    have hrunning := hflow.running hopen
    rcases hrunning.stage with hreading | hwaiting | hresponding | ⟨hforwarding, -⟩
    · simp [possible, hreading.noAdapter] at hpossible
    · rw [Tunnel.handle, adapterDidBecomeReady_eq (by exact hopen) (by exact hwaiting.readySignal)
        (by exact hwaiting.opened)]
      split
      · rfl
      · rename_i hconnect
        obtain ⟨header, hheader⟩ := Option.isSome_iff_exists.mp hwaiting.header
        cases hadapter : tunnel.adapterSocket with
        | none => simp [possible, hadapter] at hpossible
        | some adapterSocket =>
            have hpending : tunnel.proxySocket.readStatus = .pendingFirstHeader := by
              rw [hwaiting.readStatus, if_neg (by exact hconnect)]
            have hnow : ¬RequestTraps (tunnel.withAdapter AdapterSocket.didConnectWith) := by
              rw [RequestTraps, hadapter, Option.any_some] at hfits
              rw [RequestTraps, withAdapter, hadapter, Option.map_some, Option.any_some]
              exact hfits
            have hdid : HTTPProxySocket.readData
                { tunnel.proxySocket with writeStatus := .forwarding } =
                  some ({ tunnel.proxySocket with
                    writeStatus := .forwarding, readStatus := .readingContent },
                    .didRead header.toData) := by
              rw [HTTPProxySocket.readData, if_neg (by simp [hwaiting.opened]),
                if_pos (by exact hpending)]
              simp [hheader]
            rw [Option.isSome_map, proxyReadData]
            simp only [withProxy, withAdapter, hdid, Option.bind_eq_bind, Option.bind_some]
            exact didReadFromProxy_isSome
              (by simp only [hadapter, Option.map_some]; rfl) (by exact hnow) _
    · obtain ⟨adapterSocket, hadapter, -, -, hconnected⟩ := hresponding.adapter
      simp [possible, hadapter, hconnected] at hpossible
    · obtain ⟨adapterSocket, hadapter, -, hconnected⟩ := hforwarding.adapter
      simp [possible, hadapter, hconnected] at hpossible

/-- A finished write to the remote does not trap. -/
theorem adapterWrote_isSome {tunnel : Tunnel} (hflow : Flow lib tunnel)
    (hpossible : tunnel.possible .adapterWrote = true) :
    (tunnel.handle lib manager .adapterWrote).isSome = true := by
  by_cases hcancelled : tunnel.isCancelled = true
  · rw [Tunnel.handle, adapterDidWrite, if_pos (by exact hcancelled)]
    rfl
  · have hrunning := hflow.running (Bool.eq_false_iff.mpr hcancelled)
    have hforwarding := forwarding_of_adapterWrote hrunning.stage hpossible
    rw [Tunnel.handle, adapterDidWrite, if_neg (by exact hcancelled)]
    exact proxyReadData_isSome hforwarding.current hforwarding.readStatus

/-- The host has been resolved, to an address or with an error. -/
theorem resolved_isSome {rules : List Rule} {tunnel : Tunnel}
    {ipv4Result : Option (List Text)} (hflow : Flow lib tunnel)
    (hpossible : tunnel.possible (.resolved ipv4Result) = true) (hfound : ipv4Result ≠ some []) :
    (tunnel.handle lib (RuleManager.init rules true) (.resolved ipv4Result)).isSome = true := by
  cases hresolving : tunnel.resolving with
  | none => simp [possible, hresolving] at hpossible
  | some session =>
      have hopens : ∀ ipAddress, (openAdapter lib (RuleManager.init rules true)
          { tunnel with resolving := none } (resolvedSession lib session ipAddress)).isSome =
            true := by
        intro ipAddress
        by_cases hcancelled : tunnel.isCancelled = true
        · rw [openAdapter_cancelled (by exact hcancelled)]
          rfl
        · have hrunning := hflow.running (Bool.eq_false_iff.mpr hcancelled)
          apply openAdapter_isSome
          rcases hrunning.stage with hreading | hwaiting | hresponding | ⟨hforwarding, -⟩
          · have hnone := hreading.noSession.symm.trans hresolving
            cases hnone
          · exact hwaiting.unmatched session hresolving
          · have hnone := hresponding.noSession.symm.trans hresolving
            cases hnone
          · have hnone := hforwarding.noSession.symm.trans hresolving
            cases hnone
      rw [Tunnel.handle, hresolving]
      cases ipv4Result with
      | none => exact hopens []
      | some addresses =>
          cases addresses with
          | nil => exact absurd rfl hfound
          | cons ipAddress addresses => exact hopens ipAddress

/-- What makes an event a trap. -/
inductive TrapsOn (lib : ProxyLibraries) (tunnel : Tunnel) : RelayEvent → Prop
  /-- the resolver has found no IPv4 address, and reports no error -/
  | noAddress : TrapsOn lib tunnel (.resolved (some []))
  /-- a request line with an empty path -/
  | emptyPath {data : Data} {header : HTTPHeader}
      (read : HTTPHeader.ofData lib.http data = .ok header) (path : header.path = []) :
      TrapsOn lib tunnel (.proxyRead data)
  /-- content after a header that announced almost `Int.min` bytes, or after almost
  `2 ^ 63` bytes of a CONNECT -/
  | underflow {data : Data} (long : tunnel.proxySocket.scanner.underflows data = true) :
      TrapsOn lib tunnel (.proxyRead data)
  /-- the first write to a Shadowsocks adapter whose request does not fit: the header that
  waited, or content after a CONNECT -/
  | request {event : RelayEvent}
      (write : event = .adapterConnected ∨ ∃ data, event = .proxyRead data)
      (traps : tunnel.RequestTraps) : TrapsOn lib tunnel event

/-- **Only four traps.**  Whatever has happened to a connection, an event that can come is
a trap for one of four reasons only. -/
theorem traps_only {rules : List Rule} {events : List RelayEvent} {tunnel : Tunnel}
    {event : RelayEvent}
    (h : run (step lib (RuleManager.init rules true)) accepted events = some tunnel)
    (hpossible : tunnel.possible event = true)
    (htrap : tunnel.step lib (RuleManager.init rules true) event = none) :
    TrapsOn lib tunnel event := by
  have hflow := run_flow h
  rw [step, if_pos hpossible] at htrap
  have hnot : ∀ {other : Option Tunnel}, other = none → other.isSome = true → False := by
    intro other hnone hsome
    rw [hnone] at hsome
    cases hsome
  cases event with
  | proxyRead data =>
      cases hread : (tunnel.proxySocket.answer data).didRead lib data with
      | none =>
          cases HTTPProxySocket.didRead_none hread with
          | inl hlong => exact .underflow hlong
          | inr hheader =>
              obtain ⟨header, hheader, hpath⟩ := hheader
              exact .emptyPath hheader hpath
      | some read =>
          have hdone : ((tunnel.proxySocket.answer data).didRead lib data).isSome = true := by
            rw [hread]
            rfl
          refine .request (Or.inr ⟨data, rfl⟩) ?_
          by_contra hfits
          exact hnot htrap (proxyRead_isSome hflow hpossible hdone hfits)
  | proxyWrote => exact (hnot htrap (proxyWrote_isSome hflow hpossible)).elim
  | proxyDisconnected => cases htrap
  | resolved ipv4Result =>
      by_cases hfound : ipv4Result = some []
      · rw [hfound]
        exact .noAddress
      · exact (hnot htrap (resolved_isSome hflow hpossible hfound)).elim
  | unresolved => cases htrap
  | adapterConnected =>
      refine .request (Or.inl rfl) ?_
      by_contra hfits
      exact hnot htrap (adapterConnected_isSome hflow hpossible hfits)
  | adapterRead data => cases htrap
  | adapterWrote => exact (hnot htrap (adapterWrote_isSome hflow hpossible)).elim
  | adapterReadNothing => cases htrap
  | adapterGone => cases htrap
  | adapterDisconnected => cases htrap
  | adapterFailed => cases htrap
  | delayedRead => cases htrap
  | forceClose => cases htrap

/-- A request line with two spaces in a row. -/
def emptyPath : Data :=
  HTTPHeader.encode "GET  HTTP/1.1\r\nHost: a\r\n\r\n".toList

theorem traps_only_emptyPath :
    ∃ header, HTTPHeader.ofData HTTPHeader.asciiLibraries emptyPath = .ok header ∧
      header.path = [] := by
  have hpossible : accepted.possible (.proxyRead emptyPath) = true := by decide +kernel
  have htrap : step asciiProxy (RuleManager.init [] true) accepted (.proxyRead emptyPath) = none :=
    by decide +kernel
  cases traps_only (run_nil accepted) hpossible htrap with
  | emptyPath hread hpath => exact ⟨_, hread, hpath⟩
  | underflow hlong => cases hlong
  | request _ hrequest => cases hrequest

end Tunnel

end QLadder
