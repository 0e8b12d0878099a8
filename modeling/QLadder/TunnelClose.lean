import QLadder.Tunnel

/-!
# How a connection ends

Either socket may go first, the adapter's raw socket may report its end twice, once at
once and once later, and the server may close the tunnel at any time.  In every order:

* `server_told` — the server is told at most once that the tunnel has closed, never
  before both connections are gone, and always once both sockets have reported it;
* `sockets_told` — once one socket has gone or the tunnel is cancelled, each socket has
  been told to disconnect, or has gone by itself.

All this depends on little of a tunnel, its `life`, on which closing is a function.
-/

namespace QLadder

open PartialRun

/-! ## Lives -/

/-- What the end of a connection needs to know of the proxy socket. -/
structure ProxyLife where
  status : SocketStatus
  isCancelled : Bool
  disconnecting : Bool

/-- The same of an adapter socket. -/
structure AdapterLife where
  status : SocketStatus
  gone : Bool
  reported : Bool
  disconnecting : Bool

/-- The lifecycle of a tunnel: its status, its sockets, and what it has told
its server. -/
structure Life where
  proxy : ProxyLife
  adapter : Option AdapterLife
  delegate : Bool
  isCancelled : Bool
  didClose : Nat

/-- The lifecycle of a proxy socket. -/
def HTTPProxySocket.life (proxySocket : HTTPProxySocket) : ProxyLife :=
  { status := proxySocket.status, isCancelled := proxySocket.isCancelled,
    disconnecting := proxySocket.socket.disconnecting.isSome }

/-- The lifecycle of an adapter socket. -/
def AdapterSocket.life (adapterSocket : AdapterSocket) : AdapterLife :=
  { status := adapterSocket.status, gone := adapterSocket.gone,
    reported := adapterSocket.reported,
    disconnecting := adapterSocket.socket.disconnecting.isSome }

/-- The lifecycle of a tunnel. -/
def Tunnel.life (tunnel : Tunnel) : Life :=
  { proxy := tunnel.proxySocket.life, adapter := tunnel.adapterSocket.map AdapterSocket.life,
    delegate := tunnel.delegate, isCancelled := tunnel.isCancelled,
    didClose := tunnel.didClose }

namespace ProxyLife

/-- The life of a socket that has been told to disconnect. -/
def ending : ProxyLife :=
  { status := .disconnecting, isCancelled := true, disconnecting := true }

/-- Either way of disconnecting cancels the socket, once. -/
def disconnect (proxy : ProxyLife) : ProxyLife :=
  if proxy.isCancelled then proxy else ending

end ProxyLife

namespace AdapterLife

def disconnect (adapter : AdapterLife) : AdapterLife :=
  { adapter with status := .disconnecting, disconnecting := true }

end AdapterLife

namespace Life

/-- Both sockets have gone. -/
def isClosed (life : Life) : Bool :=
  life.proxy.status.isDisconnected && life.adapter.all fun adapter => adapter.status.isDisconnected

/-- The report to the server, once both sockets have gone. -/
def checkStatus (life : Life) : Life :=
  if life.isClosed then
    { life with didClose := life.didClose + (if life.delegate then 1 else 0), delegate := false }
  else
    life

def disconnectAdapter (life : Life) : Life :=
  match life.adapter with
  | none => life
  | some adapter =>
      if adapter.status.isDisconnected then life
      else if adapter.gone then
        checkStatus { life with adapter := some { adapter.disconnect with status := .closed } }
      else
        { life with adapter := some adapter.disconnect }

/-- The first close disconnects both sockets, a later one nothing. -/
def close (life : Life) : Life :=
  if life.isCancelled then life
  else if life.proxy.status.isDisconnected then
    disconnectAdapter { life with isCancelled := true }
  else
    disconnectAdapter { life with isCancelled := true, proxy := life.proxy.disconnect }

def didDisconnect (life : Life) : Life :=
  checkStatus life.close

/-! ## What holds of every life -/

/-- What holds also while a report is dealt with. -/
structure Settling (life : Life) : Prop where
  once : life.didClose + (if life.delegate then 1 else 0) = 1
  ended : life.delegate = false → life.proxy.status = .closed ∧
    ∀ adapter, life.adapter = some adapter → adapter.gone = true
  proxyValid : life.proxy.status ≠ .invalid
  proxyTold : life.proxy.isCancelled = true → life.proxy.disconnecting = true
  adapterClosed : ∀ adapter, life.adapter = some adapter →
    adapter.status.isDisconnected = true → adapter.gone = true
  adapterReported : ∀ adapter, life.adapter = some adapter →
    adapter.reported = true → adapter.status = .closed
  told : life.isCancelled = true →
    (life.proxy.status = .closed ∨ life.proxy.disconnecting = true) ∧
      ∀ adapter, life.adapter = some adapter →
        adapter.gone = true ∨ adapter.disconnecting = true

/-- What holds between two events. -/
structure Settled (life : Life) : Prop extends Settling life where
  proxyCancels : life.proxy.status = .closed → life.isCancelled = true
  adapterCancels : ∀ adapter, life.adapter = some adapter →
    adapter.reported = true → life.isCancelled = true
  finished : life.proxy.status = .closed →
    (∀ adapter, life.adapter = some adapter → adapter.reported = true) → life.delegate = false

/-- A socket that is disconnected is closed. -/
theorem closed_of_isDisconnected {status : SocketStatus} (h : status.isDisconnected = true)
    (hvalid : status ≠ .invalid) : status = .closed := by
  cases status <;> simp_all [SocketStatus.isDisconnected]

/-- Reporting to the server leaves the sockets in step. -/
theorem Settling.checkStatus {life : Life} (h : life.Settling) : life.checkStatus.Settling := by
  unfold Life.checkStatus
  split
  · rename_i hclosed
    simp only [isClosed, Bool.and_eq_true, Option.all_eq_true] at hclosed
    refine { h with once := ?_, ended := ?_ }
    · simpa using h.once
    · intro _
      refine ⟨closed_of_isDisconnected hclosed.1 h.proxyValid, ?_⟩
      intro adapter hadapter
      exact h.adapterClosed adapter hadapter (hclosed.2 adapter hadapter)
  · exact h

/-- Reporting changes nothing but the status and the report. -/
theorem checkStatus_keeps (life : Life) :
    life.checkStatus.proxy = life.proxy ∧ life.checkStatus.adapter = life.adapter ∧
      life.checkStatus.isCancelled = life.isCancelled := by
  unfold checkStatus
  split <;> simp

/-- The adapter is told, if it has not gone. -/
theorem Settling.disconnectAdapter {life : Life} (h : Settling { life with isCancelled := false })
    (htold : life.proxy.status = .closed ∨ life.proxy.disconnecting = true) :
    life.disconnectAdapter.Settling := by
  unfold Life.disconnectAdapter
  cases hadapter : life.adapter with
  | none =>
      refine { h with told := ?_ }
      intro _
      refine ⟨htold, ?_⟩
      intro adapter hsome
      rw [hadapter] at hsome
      cases hsome
  | some adapter =>
      have hended := h.ended
      have hclosed := h.adapterClosed adapter hadapter
      have hreported := h.adapterReported adapter hadapter
      simp only
      split
      · rename_i hdisconnected
        refine { h with told := ?_ }
        intro _
        refine ⟨htold, ?_⟩
        intro other hsome
        cases hadapter.symm.trans hsome
        exact Or.inl (hclosed hdisconnected)
      · rename_i hconnected
        have hnot : adapter.reported = true → False := by
          intro hreport
          rw [hreported hreport] at hconnected
          exact hconnected rfl
        split
        · rename_i hgone
          apply Settling.checkStatus
          refine { h with ended := ?_, adapterClosed := ?_, adapterReported := ?_, told := ?_ }
          · intro hdelegate
            refine ⟨(hended hdelegate).1, ?_⟩
            intro other hsome
            cases hsome
            exact hgone
          · intro other hsome _
            cases hsome
            exact hgone
          · intro other hsome _
            cases hsome
            rfl
          · intro _
            refine ⟨htold, ?_⟩
            intro other hsome
            cases hsome
            exact Or.inl hgone
        · rename_i hgone
          refine { h with ended := ?_, adapterClosed := ?_, adapterReported := ?_, told := ?_ }
          · intro hdelegate
            exact absurd ((hended hdelegate).2 adapter hadapter) hgone
          · intro other hsome hdisconnected
            cases hsome
            cases hdisconnected
          · intro other hsome hreport
            cases hsome
            exact absurd hreport hnot
          · intro _
            refine ⟨htold, ?_⟩
            intro other hsome
            cases hsome
            exact Or.inr rfl

/-- Closing keeps both sockets in step with the tunnel. -/
theorem Settling.close {life : Life} (h : life.Settling) : life.close.Settling := by
  unfold Life.close
  split
  · exact h
  · split
    · rename_i hdisconnected
      apply Settling.disconnectAdapter
      · exact { h with told := fun hfalse => Bool.noConfusion hfalse }
      · exact Or.inl (closed_of_isDisconnected hdisconnected h.proxyValid)
    · rename_i hconnected
      have hproxy : life.proxy.disconnect.status ≠ .invalid ∧
          life.proxy.disconnect.disconnecting = true := by
        unfold ProxyLife.disconnect
        split
        · exact ⟨h.proxyValid, h.proxyTold (by assumption)⟩
        · exact ⟨by simp [ProxyLife.ending], rfl⟩
      apply Settling.disconnectAdapter
      · refine { h with
          ended := ?_, proxyValid := hproxy.1, proxyTold := fun _ => hproxy.2
          told := fun hfalse => Bool.noConfusion hfalse }
        intro hdelegate
        rw [(h.ended hdelegate).1] at hconnected
        exact absurd rfl hconnected
      · exact Or.inr hproxy.2

/-- Disconnecting the adapter leaves the proxy socket and the report alone. -/
theorem disconnectAdapter_keeps (life : Life) :
    life.disconnectAdapter.proxy = life.proxy ∧
      life.disconnectAdapter.isCancelled = life.isCancelled := by
  unfold disconnectAdapter
  split
  · exact ⟨rfl, rfl⟩
  · split
    · exact ⟨rfl, rfl⟩
    · split
      · exact ⟨(checkStatus_keeps _).1, (checkStatus_keeps _).2.2⟩
      · exact ⟨rfl, rfl⟩

/-- Reports are never taken back. -/
theorem le_checkStatus (life : Life) : life.didClose ≤ life.checkStatus.didClose := by
  unfold checkStatus
  split
  · exact Nat.le_add_right _ _
  · exact Nat.le_refl _

/-- What the server has been told stays told. -/
theorem le_close (life : Life) : life.didClose ≤ life.close.didClose := by
  have hadapter : ∀ life : Life, life.didClose ≤ life.disconnectAdapter.didClose := by
    intro life
    unfold disconnectAdapter
    split
    · exact Nat.le_refl _
    · split
      · exact Nat.le_refl _
      · split
        · refine Nat.le_trans ?_ (le_checkStatus _)
          exact Nat.le_refl _
        · exact Nat.le_refl _
  unfold close
  split
  · exact Nat.le_refl _
  · split
    · refine Nat.le_trans ?_ (hadapter _)
      exact Nat.le_refl _
    · refine Nat.le_trans ?_ (hadapter _)
      exact Nat.le_refl _

/-- A tunnel that was closed is cancelled. -/
theorem close_isCancelled (life : Life) : life.close.isCancelled = true := by
  unfold close
  split
  · assumption
  · split <;> exact (disconnectAdapter_keeps _).2

/-- A closed proxy socket stays closed. -/
theorem close_proxy (life : Life) :
    life.close.proxy = life.proxy ∨
      life.isCancelled = false ∧ life.close.proxy = life.proxy.disconnect := by
  unfold close
  split
  · exact Or.inl rfl
  · rename_i hcancelled
    split
    · exact Or.inl (disconnectAdapter_keeps _).1
    · exact Or.inr ⟨Bool.eq_false_iff.mpr hcancelled, (disconnectAdapter_keeps _).1⟩

/-- The tunnel deals with a report: it is cancelled, and looks whether it is closed. -/
theorem Settling.didDisconnect {life : Life} (h : life.Settling) : life.didDisconnect.Settled := by
  have hclose := h.close
  have hcancelled := close_isCancelled life
  obtain ⟨hproxy, hadapter, hkept⟩ := checkStatus_keeps life.close
  refine { toSettling := hclose.checkStatus, proxyCancels := ?_, adapterCancels := ?_,
           finished := ?_ }
  · intro _
    exact hkept.trans hcancelled
  · intro _ _ _
    exact hkept.trans hcancelled
  · intro hclosed hreported
    have hclosed' : life.close.isClosed = true := by
      simp only [isClosed, Bool.and_eq_true, Option.all_eq_true]
      refine ⟨?_, ?_⟩
      · rw [← hproxy]
        change life.didDisconnect.proxy.status.isDisconnected = true
        rw [hclosed]
        rfl
      · intro adapter hsome
        have hreport := hreported adapter (hadapter.trans hsome)
        rw [hclose.adapterReported adapter hsome hreport]
        rfl
    rw [Life.didDisconnect, Life.checkStatus, if_pos hclosed']

/-- The server closes the tunnel. -/
theorem Settled.close {life : Life} (h : life.Settled) : life.close.Settled := by
  have hcancelled := close_isCancelled life
  refine { toSettling := h.toSettling.close, proxyCancels := fun _ => hcancelled,
           adapterCancels := fun _ _ _ => hcancelled, finished := ?_ }
  intro hclosed hreported
  by_cases hbefore : life.isCancelled = true
  · have hsame : life.close = life := by rw [Life.close, if_pos hbefore]
    rw [hsame] at hclosed hreported ⊢
    exact h.finished hclosed hreported
  · have hstatus : life.proxy.status ≠ .closed := fun hstatus => hbefore (h.proxyCancels hstatus)
    cases close_proxy life with
    | inl hsame =>
        rw [hsame] at hclosed
        exact absurd hclosed hstatus
    | inr hdisconnect =>
        rw [hdisconnect.2, ProxyLife.disconnect] at hclosed
        split at hclosed
        · exact absurd hclosed hstatus
        · cases hclosed

/-- The proxy socket tells its raw socket to disconnect. -/
theorem Settled.end_proxy {life : Life} (h : life.Settled) (hopen : life.proxy.status ≠ .closed) :
    Settled { life with proxy := .ending } := by
  have hdelegate : life.delegate ≠ false := fun hfalse => hopen (h.ended hfalse).1
  exact
    { once := h.once, ended := fun hfalse => absurd hfalse hdelegate,
      proxyValid := SocketStatus.noConfusion, proxyTold := fun _ => rfl,
      adapterClosed := h.adapterClosed, adapterReported := h.adapterReported,
      told := fun hcancelled => ⟨Or.inr rfl, (h.told hcancelled).2⟩,
      proxyCancels := SocketStatus.noConfusion, adapterCancels := h.adapterCancels,
      finished := SocketStatus.noConfusion }

/-- The adapter lives on, or a new one takes its place. -/
theorem Settled.change_adapter {life : Life} {adapter : AdapterLife} (h : life.Settled)
    (hgone : life.delegate = false → adapter.gone = true)
    (hclosed : adapter.status.isDisconnected = true → adapter.gone = true)
    (hreported : adapter.reported = true → adapter.status = .closed ∧ life.isCancelled = true)
    (htold : life.isCancelled = true → adapter.gone = true ∨ adapter.disconnecting = true)
    (hfinished : life.proxy.status = .closed → adapter.reported = true → life.delegate = false) :
    Settled { life with adapter := some adapter } := by
  have hthis : ∀ {P : AdapterLife → Prop}, P adapter →
      ∀ other, some adapter = some other → P other := by
    intro P hP other hsome
    cases hsome
    exact hP
  exact
    { once := h.once,
      ended := fun hfalse => ⟨(h.ended hfalse).1, hthis (hgone hfalse)⟩,
      proxyValid := h.proxyValid, proxyTold := h.proxyTold,
      adapterClosed := hthis hclosed,
      adapterReported := hthis fun hreport => (hreported hreport).1,
      told := fun hcancelled => ⟨(h.told hcancelled).1, hthis (htold hcancelled)⟩,
      proxyCancels := h.proxyCancels,
      adapterCancels := hthis fun hreport => (hreported hreport).2,
      finished := fun hstatus hall => hfinished hstatus (hall adapter rfl) }

/-- The client's raw socket reports. -/
theorem Settled.proxy_report {life : Life} (h : life.Settled) :
    (didDisconnect { life with proxy := { life.proxy with status := .closed } }).Settled := by
  apply Settling.didDisconnect
  exact
    { once := h.once, ended := fun hfalse => ⟨rfl, (h.ended hfalse).2⟩,
      proxyValid := SocketStatus.noConfusion, proxyTold := h.proxyTold,
      adapterClosed := h.adapterClosed, adapterReported := h.adapterReported,
      told := fun hcancelled => ⟨Or.inl rfl, (h.told hcancelled).2⟩ }

/-- The remote's raw socket reports, for the last time or not. -/
theorem Settled.adapter_report {life : Life} {adapter : AdapterLife} (h : life.Settled)
    (hgone : adapter.gone = true) (reported : Bool) :
    (didDisconnect { life with
      adapter := some { adapter with status := .closed, reported } }).Settled := by
  apply Settling.didDisconnect
  have hthis : ∀ {P : AdapterLife → Prop}, P { adapter with status := .closed, reported } →
      ∀ other, some { adapter with status := .closed, reported } = some other → P other := by
    intro P hP other hsome
    cases hsome
    exact hP
  exact
    { once := h.once, ended := fun hfalse => ⟨(h.ended hfalse).1, hthis hgone⟩,
      proxyValid := h.proxyValid, proxyTold := h.proxyTold,
      adapterClosed := hthis fun _ => hgone, adapterReported := hthis fun _ => rfl,
      told := fun hcancelled => ⟨(h.told hcancelled).1, hthis (Or.inl hgone)⟩ }

end Life

/-! ## The lives of sockets and tunnels -/

namespace HTTPProxySocket

variable {lib : ProxyLibraries}

/-- The socket goes on, or has been told to disconnect. -/
def GoesOn (before after : HTTPProxySocket) : Prop :=
  after.life = before.life ∨ after.life = .ending

/-- Disconnecting ends the life of a proxy socket, unless it is cancelled. -/
theorem disconnect_goesOn (proxySocket : HTTPProxySocket) (disconnection : Disconnection) :
    GoesOn proxySocket (proxySocket.disconnect disconnection) := by
  unfold disconnect
  split
  · exact Or.inl rfl
  · exact Or.inr rfl

theorem readData_goesOn {proxySocket after : HTTPProxySocket} {proxyCall : ProxyCall}
    (h : proxySocket.readData = some (after, proxyCall)) : GoesOn proxySocket after := by
  unfold readData at h
  split at h
  · cases h
    exact Or.inl rfl
  · split at h
    · obtain ⟨header, -, heq⟩ := Option.map_eq_some_iff.mp h
      cases heq
      exact Or.inl rfl
    · split at h
      · cases h
        exact Or.inl rfl
      · cases h
        exact Or.inl rfl
      · cases h
        exact disconnect_goesOn { proxySocket with readStatus := .stopped } .elegant

/-- Of what is read only an unreadable header disconnects. -/
theorem didRead_goesOn {proxySocket after : HTTPProxySocket} {data : Data}
    {proxyCall : ProxyCall} (h : proxySocket.didRead lib data = some (after, proxyCall)) :
    GoesOn proxySocket after := by
  replace h := didScan_of_didRead h
  unfold didScan at h
  cases hinput : proxySocket.scanner.input lib.http data with
  | mk result scanner =>
      rw [hinput] at h
      cases result with
      | error error =>
          cases h
          exact disconnect_goesOn { proxySocket with scanner } .elegant
      | ok result =>
          simp only at h
          split at h
          · obtain ⟨forwarded, -, heq⟩ := Option.bind_eq_some_iff.mp h
            cases heq
            exact Or.inl rfl
          · obtain ⟨forwarded, -, heq⟩ := Option.bind_eq_some_iff.mp h
            cases heq
            exact Or.inl rfl
          · cases h
            exact Or.inl rfl
          · cases h
            exact Or.inl rfl

theorem didWrite_life (proxySocket : HTTPProxySocket) :
    proxySocket.didWrite.1.life = proxySocket.life := by
  unfold didWrite
  split <;> rfl

theorem write_life (proxySocket : HTTPProxySocket) (data : Data) :
    (proxySocket.write data).life = proxySocket.life := by
  unfold write
  split <;> rfl

theorem respondTo_life (proxySocket : HTTPProxySocket) :
    proxySocket.respondTo.1.life = proxySocket.life := by
  unfold respondTo
  split
  · rfl
  · split
    · exact write_life { proxySocket with writeStatus := .sendingConnectResponse } _
    · rfl

theorem disconnect_life (proxySocket : HTTPProxySocket) (disconnection : Disconnection) :
    (proxySocket.disconnect disconnection).life = proxySocket.life.disconnect := by
  unfold disconnect ProxyLife.disconnect
  by_cases hcancelled : proxySocket.isCancelled = true
  · rw [if_pos hcancelled, if_pos (by exact hcancelled)]
  · rw [if_neg hcancelled, if_neg (by exact hcancelled)]
    rfl

end HTTPProxySocket

namespace Tunnel

variable {lib : ProxyLibraries} {manager : RuleManager}

/-- A tunnel is closed when its life is. -/
theorem isClosed_life (tunnel : Tunnel) : tunnel.life.isClosed = tunnel.isClosed := by
  unfold Life.isClosed isClosed
  cases hadapter : tunnel.adapterSocket <;> simp [life, hadapter] <;> rfl

theorem checkStatus_life (tunnel : Tunnel) : tunnel.checkStatus.life = tunnel.life.checkStatus := by
  unfold checkStatus Life.checkStatus
  rw [isClosed_life]
  split <;> rfl

theorem disconnectAdapter_life (tunnel : Tunnel) (disconnection : Disconnection) :
    (tunnel.disconnectAdapter disconnection).life = tunnel.life.disconnectAdapter := by
  unfold disconnectAdapter Life.disconnectAdapter
  cases hadapter : tunnel.adapterSocket with
  | none => simp [life, hadapter]
  | some adapterSocket =>
      have hlife : tunnel.life.adapter = some adapterSocket.life := by simp [life, hadapter]
      simp only [hlife]
      by_cases hdisconnected : adapterSocket.status.isDisconnected = true
      · rw [if_pos hdisconnected, if_pos (by exact hdisconnected)]
      · have hconnected : ¬adapterSocket.life.status.isDisconnected = true := hdisconnected
        rw [if_neg hdisconnected, if_neg hconnected]
        by_cases hgone : (adapterSocket.disconnect disconnection).gone = true
        · have hlost : adapterSocket.life.gone = true := hgone
          rw [if_pos hgone, if_pos hlost, checkStatus_life]
          rfl
        · have hlost : ¬adapterSocket.life.gone = true := hgone
          rw [if_neg hgone, if_neg hlost]
          rfl

theorem closeBy_life (tunnel : Tunnel) (disconnection : Disconnection) :
    (tunnel.closeBy disconnection).life = tunnel.life.close := by
  unfold closeBy Life.close
  by_cases hcancelled : tunnel.isCancelled = true
  · rw [if_pos hcancelled, if_pos (by exact hcancelled)]
  · rw [if_neg hcancelled, if_neg (by exact hcancelled), disconnectAdapter_life]
    by_cases hdisconnected : tunnel.proxySocket.status.isDisconnected = true
    · rw [if_pos (by exact hdisconnected), if_pos (by exact hdisconnected)]
      rfl
    · rw [if_neg (by exact hdisconnected), if_neg (by exact hdisconnected)]
      simp only [life, withProxy, HTTPProxySocket.disconnect_life]

theorem didDisconnect_life (tunnel : Tunnel) :
    tunnel.didDisconnect.life = tunnel.life.didDisconnect := by
  unfold didDisconnect Life.didDisconnect
  rw [checkStatus_life]
  by_cases hcancelled : tunnel.isCancelled = true
  · rw [if_pos hcancelled, Life.close, if_pos (by exact hcancelled)]
  · rw [if_neg hcancelled, close, closeBy_life]

/-- The tunnel goes on, or its proxy socket has been told to disconnect. -/
def GoesOn (before after : Tunnel) : Prop :=
  after.life = before.life ∨ after.life = { before.life with proxy := .ending }

/-- Going on, one thing after another. -/
theorem GoesOn.trans {first second third : Tunnel} (h : GoesOn first second)
    (h' : GoesOn second third) : GoesOn first third := by
  unfold GoesOn at *
  cases h with
  | inl hsame => rwa [hsame] at h'
  | inr hended =>
      rw [hended] at h'
      exact Or.inr (h'.elim id id)

/-- Going on keeps a settled tunnel settled. -/
theorem GoesOn.settled {before after : Tunnel} (h : GoesOn before after)
    (hsettled : before.life.Settled) (hopen : before.proxySocket.status ≠ .closed) :
    after.life.Settled := by
  cases h with
  | inl hsame => rwa [hsame]
  | inr hended =>
      rw [hended]
      exact hsettled.end_proxy hopen

/-- Going on never closes the proxy socket. -/
theorem GoesOn.opened {before after : Tunnel} (h : GoesOn before after)
    (hopen : before.proxySocket.status ≠ .closed) : after.proxySocket.status ≠ .closed := by
  change after.life.proxy.status ≠ .closed
  cases h with
  | inl hsame => rwa [hsame]
  | inr hended =>
      rw [hended]
      exact SocketStatus.noConfusion

/-- So is a change of the proxy socket that keeps its lifecycle going on. -/
theorem withProxy_goesOn {tunnel : Tunnel} {proxySocket : HTTPProxySocket}
    (h : HTTPProxySocket.GoesOn tunnel.proxySocket proxySocket) :
    GoesOn tunnel (tunnel.withProxy proxySocket) := by
  cases h with
  | inl hsame =>
      left
      simp only [life, withProxy, hsame]
  | inr hended =>
      right
      simp only [life, withProxy, hended]

/-- A change that keeps the life of the adapter keeps that of the tunnel. -/
theorem withAdapter_life {tunnel : Tunnel} {change : AdapterSocket → AdapterSocket}
    (h : ∀ adapterSocket, (change adapterSocket).life = adapterSocket.life) :
    (tunnel.withAdapter change).life = tunnel.life := by
  have hsame : AdapterSocket.life ∘ change = AdapterSocket.life := funext h
  simp only [life, withAdapter, Option.map_map, hsame]

theorem endRead_life (adapterSocket : AdapterSocket) :
    adapterSocket.endRead.life = adapterSocket.life := by
  unfold AdapterSocket.endRead RawTCPSocket.endRead
  cases hreads : adapterSocket.socket.reads <;> simp [AdapterSocket.life]

theorem readData_life (adapterSocket : AdapterSocket) :
    adapterSocket.readData.life = adapterSocket.life := by
  unfold AdapterSocket.readData
  split <;> rfl

theorem write_life {adapterSocket after : AdapterSocket} {data : Data}
    (h : adapterSocket.write data = some after) : after.life = adapterSocket.life := by
  unfold AdapterSocket.write at h
  split at h
  · cases h
  · split at h
    · cases h
      rfl
    · cases h
      rfl

/-- Data from the client goes to the adapter, or nowhere. -/
theorem didReadFromProxy_life {tunnel after : Tunnel} {data : Data}
    (h : tunnel.didReadFromProxy data = some after) : after.life = tunnel.life := by
  by_cases hcancelled : tunnel.isCancelled = true
  · rw [didReadFromProxy, if_pos hcancelled] at h
    cases h
    rfl
  · obtain ⟨adapterSocket, written, hadapter, hwrite, rfl⟩ :=
      didReadFromProxy_running (Bool.eq_false_iff.mpr hcancelled) h
    simp only [life, hadapter, Option.map_some, write_life hwrite]

/-- A read of the proxy socket is part of going on. -/
theorem proxyReadData_goesOn {tunnel after : Tunnel} (h : tunnel.proxyReadData = some after) :
    GoesOn tunnel after := by
  unfold proxyReadData at h
  obtain ⟨⟨proxySocket, proxyCall⟩, hread, hcall⟩ := Option.bind_eq_some_iff.mp h
  have hgoesOn := withProxy_goesOn (HTTPProxySocket.readData_goesOn hread)
  simp only at hcall
  split at hcall
  · exact hgoesOn.trans (Or.inl (didReadFromProxy_life hcall))
  · cases hcall
    exact hgoesOn

/-- Forwarding starts with a read on either side. -/
theorem didBecomeReadyToForward_goesOn {tunnel after : Tunnel}
    (h : tunnel.didBecomeReadyToForward = some after) : GoesOn tunnel after := by
  unfold didBecomeReadyToForward at h
  split at h
  · cases h
    exact Or.inl rfl
  · simp only at h
    split at h
    · obtain ⟨read, hread, heq⟩ := Option.bind_eq_some_iff.mp h
      have hgoesOn := proxyReadData_goesOn hread
      cases heq
      have hasked : GoesOn read read.adapterReadData := Or.inl (withAdapter_life readData_life)
      exact GoesOn.trans (Or.inl rfl) (hgoesOn.trans hasked)
    · cases h
      exact Or.inl rfl

theorem adapterDidBecomeReady_goesOn {tunnel after : Tunnel}
    (h : tunnel.adapterDidBecomeReady = some after) : GoesOn tunnel after := by
  unfold adapterDidBecomeReady at h
  split at h
  · cases h
    exact Or.inl rfl
  · obtain ⟨ready, hready, hrespond⟩ := Option.bind_eq_some_iff.mp h
    have hresponds : GoesOn ready (ready.withProxy ready.proxySocket.respondTo.1) :=
      withProxy_goesOn (Or.inl ready.proxySocket.respondTo_life)
    refine (didBecomeReadyToForward_goesOn hready).trans (hresponds.trans ?_)
    simp only at hrespond
    split at hrespond
    · exact didBecomeReadyToForward_goesOn hrespond
    · cases hrespond
      exact Or.inl rfl

/-- A new adapter. -/
theorem openAdapter_settled {tunnel after : Tunnel} {session : TunnelSession}
    (hsettled : tunnel.life.Settled)
    (h : tunnel.openAdapter lib manager session = some after) : after.life.Settled := by
  unfold openAdapter at h
  split at h
  · cases h
    exact hsettled
  · rename_i hcancelled
    obtain ⟨factory, -, heq⟩ := Option.map_eq_some_iff.mp h
    rw [← heq]
    have hopen : tunnel.life.isCancelled ≠ true := hcancelled
    have hnew : ∀ session, Life.Settled { tunnel.life with
        adapter := some (AdapterSocket.openSocketWith factory session).life } := by
      intro session
      apply hsettled.change_adapter
      · intro hdelegate
        exact absurd (hsettled.proxyCancels (hsettled.ended hdelegate).1) hopen
      · exact Bool.noConfusion
      · exact Bool.noConfusion
      · exact fun hcancelled => absurd hcancelled hopen
      · exact fun _ => Bool.noConfusion
    exact hnew _

theorem didReceive_settled {tunnel after : Tunnel} {session : TunnelSession}
    (hsettled : tunnel.life.Settled)
    (h : tunnel.didReceive lib manager session = some after) : after.life.Settled := by
  unfold didReceive at h
  split at h
  · cases h
    exact hsettled
  · simp only at h
    split at h
    · cases h
      exact hsettled
    · refine openAdapter_settled ?_ h
      exact hsettled

theorem call_settled {tunnel after : Tunnel} {proxyCall : ProxyCall}
    (hsettled : tunnel.life.Settled) (hopen : tunnel.proxySocket.status ≠ .closed)
    (h : tunnel.call lib manager proxyCall = some after) : after.life.Settled := by
  cases proxyCall with
  | nothing =>
      cases h
      exact hsettled
  | didReceive session => exact didReceive_settled hsettled h
  | didRead data =>
      rw [didReadFromProxy_life h]
      exact hsettled
  | didWrite =>
      cases h
      split <;> exact hsettled
  | didBecomeReadyToForward => exact (didBecomeReadyToForward_goesOn h).settled hsettled hopen

/-! ### One event -/

/-- A tunnel that is not cancelled has not heard that its client has gone. -/
theorem open_of_running {tunnel : Tunnel} (hsettled : tunnel.life.Settled)
    (hrunning : tunnel.isCancelled = false) : tunnel.proxySocket.status ≠ .closed := by
  intro hclosed
  have hcancelled : tunnel.isCancelled = true := hsettled.proxyCancels hclosed
  rw [hrunning] at hcancelled
  cases hcancelled

theorem mem_life {tunnel : Tunnel} {adapterSocket : AdapterSocket}
    (h : tunnel.adapterSocket = some adapterSocket) :
    tunnel.life.adapter = some adapterSocket.life := by
  simp [life, h]

/-- An adapter that changes becomes the adapter of the life. -/
theorem changed_life {tunnel : Tunnel} {adapterSocket : AdapterSocket}
    (h : tunnel.adapterSocket = some adapterSocket) (change : AdapterSocket → AdapterSocket) :
    (tunnel.withAdapter change).life =
      { tunnel.life with adapter := some (change adapterSocket).life } := by
  simp [life, withAdapter, h]

/-- The client has sent data. -/
theorem proxyRead_settled {tunnel after : Tunnel} {data : Data}
    (hsettled : tunnel.life.Settled) (hopen : tunnel.proxySocket.status ≠ .closed)
    (h : tunnel.handle lib manager (.proxyRead data) = some after) : after.life.Settled := by
  simp only [handle, Option.bind_eq_bind, Option.bind_eq_some_iff] at h
  obtain ⟨⟨proxySocket, proxyCall⟩, hread, hcall⟩ := h
  have hread' : HTTPProxySocket.GoesOn tunnel.proxySocket proxySocket := by
    have hanswered := HTTPProxySocket.didRead_goesOn hread
    exact hanswered
  have hgoesOn := withProxy_goesOn hread'
  exact call_settled (hgoesOn.settled hsettled hopen) (hgoesOn.opened hopen) hcall

/-- Data has gone to the client. -/
theorem proxyWrote_settled {tunnel after : Tunnel} (hsettled : tunnel.life.Settled)
    (hopen : tunnel.proxySocket.status ≠ .closed)
    (h : tunnel.handle lib manager .proxyWrote = some after) : after.life.Settled := by
  have hgoesOn : GoesOn tunnel (tunnel.withProxy tunnel.proxySocket.acknowledge.didWrite.1) :=
    withProxy_goesOn (Or.inl tunnel.proxySocket.acknowledge.didWrite_life)
  exact call_settled (hgoesOn.settled hsettled hopen) (hgoesOn.opened hopen) h

/-- The host of a session has been resolved, or not. -/
theorem resolved_settled {tunnel after : Tunnel} {ipv4Result : Option (List Text)}
    (hsettled : tunnel.life.Settled)
    (h : tunnel.handle lib manager (.resolved ipv4Result) = some after) : after.life.Settled := by
  simp only [handle] at h
  split at h
  · cases h
    exact hsettled
  · have hsame : Life.Settled { tunnel with resolving := none }.life := hsettled
    unfold didResolve at h
    split at h
    · exact openAdapter_settled hsame h
    · cases h
    · exact openAdapter_settled hsame h

/-- The remote has connected: its raw socket has not reported that it is gone. -/
theorem adapterConnected_settled {tunnel after : Tunnel} (hsettled : tunnel.life.Settled)
    (hpossible : tunnel.possible .adapterConnected = true)
    (h : tunnel.handle lib manager .adapterConnected = some after) : after.life.Settled := by
  obtain ⟨adapterSocket, hadapter, hconnecting⟩ := (Option.any_eq_true _ _).mp hpossible
  have hreported : ¬adapterSocket.life.reported = true := by
    rw [Bool.and_eq_true, Bool.not_eq_true'] at hconnecting
    exact Bool.eq_false_iff.mp hconnecting.1
  have hlife := mem_life hadapter
  have hconnect : (tunnel.withAdapter AdapterSocket.didConnectWith).life.Settled := by
    rw [changed_life hadapter]
    apply hsettled.change_adapter
    · exact fun hdelegate => (hsettled.ended hdelegate).2 adapterSocket.life hlife
    · exact Bool.noConfusion
    · exact fun hreport => absurd hreport hreported
    · exact fun hcancelled => (hsettled.told hcancelled).2 adapterSocket.life hlife
    · exact fun _ hreport => absurd hreport hreported
  by_cases hcancelled : tunnel.isCancelled = true
  · simp only [handle, adapterDidBecomeReady] at h
    rw [if_pos (by exact hcancelled)] at h
    cases h
    exact hconnect
  · have hopen := open_of_running hsettled (Bool.eq_false_iff.mpr hcancelled)
    exact (adapterDidBecomeReady_goesOn h).settled hconnect hopen

/-- The remote has sent data. -/
theorem adapterRead_settled {tunnel : Tunnel} (hsettled : tunnel.life.Settled) (data : Data) :
    ((tunnel.withAdapter fun adapterSocket => adapterSocket.answer data).didReadFromAdapter
      data).life.Settled := by
  have hanswer : (tunnel.withAdapter fun adapterSocket => adapterSocket.answer data).life =
      tunnel.life := withAdapter_life fun _ => rfl
  unfold didReadFromAdapter
  split
  · rw [hanswer]
    exact hsettled
  · have hwrite : GoesOn (tunnel.withAdapter fun adapterSocket => adapterSocket.answer data)
        (withProxy (tunnel.withAdapter fun adapterSocket => adapterSocket.answer data)
          (tunnel.proxySocket.write data)) :=
      withProxy_goesOn (Or.inl (tunnel.proxySocket.write_life data))
    rename_i hrunning
    have hopen : tunnel.proxySocket.status ≠ .closed :=
      open_of_running hsettled (Bool.eq_false_iff.mpr hrunning)
    refine hwrite.settled ?_ hopen
    rw [hanswer]
    exact hsettled

/-- Data has gone to the remote. -/
theorem adapterWrote_settled {tunnel after : Tunnel} (hsettled : tunnel.life.Settled)
    (h : tunnel.handle lib manager .adapterWrote = some after) : after.life.Settled := by
  have hacknowledge : (tunnel.withAdapter AdapterSocket.acknowledge).life = tunnel.life :=
    withAdapter_life fun _ => rfl
  simp only [handle, adapterDidWrite] at h
  split at h
  · cases h
    rw [hacknowledge]
    exact hsettled
  · rename_i hrunning
    have hopen : tunnel.proxySocket.status ≠ .closed :=
      open_of_running hsettled (Bool.eq_false_iff.mpr hrunning)
    refine (proxyReadData_goesOn h).settled ?_ hopen
    rw [hacknowledge]
    exact hsettled

/-- The connection is cancelled, whether or not its raw socket has been told to disconnect. -/
theorem adapterGone_settled {tunnel : Tunnel} (hsettled : tunnel.life.Settled)
    {adapterSocket : AdapterSocket} (hadapter : tunnel.adapterSocket = some adapterSocket) :
    (tunnel.withAdapter AdapterSocket.lose).life.Settled := by
  have hlife := mem_life hadapter
  rw [changed_life hadapter]
  apply hsettled.change_adapter
  · exact fun _ => rfl
  · exact fun _ => rfl
  · exact fun hreport => ⟨hsettled.adapterReported adapterSocket.life hlife hreport,
      hsettled.adapterCancels adapterSocket.life hlife hreport⟩
  · exact fun _ => Or.inl rfl
  · intro hclosed hreport
    apply hsettled.finished hclosed
    intro other hsome
    cases hlife.symm.trans hsome
    exact hreport

/-- A report of the remote's raw socket, which may be followed by another. -/
theorem report_settled {tunnel : Tunnel} (hsettled : tunnel.life.Settled)
    {adapterSocket : AdapterSocket} (hadapter : tunnel.adapterSocket = some adapterSocket)
    (hgone : adapterSocket.gone = true) (reported : Bool) {change : AdapterSocket → AdapterSocket}
    (hchange : (change adapterSocket).life =
      { adapterSocket.life with status := .closed, reported }) :
    (tunnel.withAdapter change).didDisconnect.life.Settled := by
  rw [didDisconnect_life, changed_life hadapter, hchange]
  exact hsettled.adapter_report hgone reported

/-- **One event.** -/
theorem handle_settled {tunnel after : Tunnel} {event : RelayEvent}
    (hsettled : tunnel.life.Settled) (hpossible : tunnel.possible event = true)
    (h : tunnel.handle lib manager event = some after) : after.life.Settled := by
  cases event with
  | proxyRead data =>
      simp only [possible, Bool.and_eq_true, decide_eq_true_eq] at hpossible
      exact proxyRead_settled hsettled hpossible.1 h
  | proxyWrote =>
      simp only [possible, Bool.and_eq_true, decide_eq_true_eq] at hpossible
      exact proxyWrote_settled hsettled hpossible.1 h
  | proxyDisconnected =>
      cases h
      rw [didDisconnect_life]
      exact hsettled.proxy_report
  | resolved ipv4Result => exact resolved_settled hsettled h
  | unresolved =>
      cases h
      exact hsettled
  | adapterConnected => exact adapterConnected_settled hsettled hpossible h
  | adapterRead data =>
      cases h
      exact adapterRead_settled hsettled data
  | adapterWrote => exact adapterWrote_settled hsettled h
  | adapterReadNothing =>
      cases h
      rw [withAdapter_life endRead_life]
      exact hsettled
  | adapterGone =>
      cases h
      obtain ⟨adapterSocket, hadapter, -⟩ := (Option.any_eq_true _ _).mp hpossible
      exact adapterGone_settled hsettled hadapter
  | adapterDisconnected =>
      cases h
      obtain ⟨adapterSocket, hadapter, hgone⟩ := (Option.any_eq_true _ _).mp hpossible
      exact report_settled hsettled hadapter ((Bool.and_eq_true _ _).mp hgone).2 true rfl
  | adapterFailed =>
      cases h
      obtain ⟨adapterSocket, hadapter, hgone⟩ := (Option.any_eq_true _ _).mp hpossible
      exact report_settled hsettled hadapter ((Bool.and_eq_true _ _).mp hgone).2
        adapterSocket.reported rfl
  | delayedRead =>
      cases h
      have hread : (adapterReadData { tunnel with
          delayedReads := tunnel.delayedReads - 1 }).life = tunnel.life :=
        withAdapter_life readData_life
      rw [hread]
      exact hsettled
  | forceClose =>
      cases h
      rw [forceClose, closeBy_life]
      exact hsettled.close

/-- An accepted tunnel is settled. -/
theorem accepted_settled : accepted.life.Settled := by
  refine { once := rfl, ended := Bool.noConfusion, proxyValid := SocketStatus.noConfusion,
           proxyTold := Bool.noConfusion, adapterClosed := ?_, adapterReported := ?_,
           told := Bool.noConfusion, proxyCancels := SocketStatus.noConfusion,
           adapterCancels := ?_, finished := SocketStatus.noConfusion }
  · intro adapter hnone
    cases hnone
  · intro adapter hnone
    cases hnone
  · intro adapter hnone
    cases hnone

/-- **Every run.**  A tunnel that was accepted stays settled. -/
theorem run_settled {events : List RelayEvent} {tunnel : Tunnel}
    (h : run (step lib manager) accepted events = some tunnel) : tunnel.life.Settled := by
  refine run_preserves (fun tunnel => tunnel.life.Settled) ?_ accepted_settled h
  intro before event after hsettled hstep
  unfold step at hstep
  split at hstep
  · exact handle_settled hsettled (by assumption) hstep
  · cases hstep

/-- **The server is told once**: at most once, not before both connections are gone, and
not later than both sockets have reported it. -/
theorem server_told {events : List RelayEvent} {tunnel : Tunnel}
    (h : run (step lib manager) accepted events = some tunnel) :
    tunnel.didClose ≤ 1 ∧
      (tunnel.didClose = 1 → tunnel.proxySocket.status = .closed ∧
        ∀ adapterSocket, tunnel.adapterSocket = some adapterSocket →
          adapterSocket.gone = true) ∧
      (tunnel.proxySocket.status = .closed →
        (∀ adapterSocket, tunnel.adapterSocket = some adapterSocket →
          adapterSocket.reported = true) → tunnel.didClose = 1) := by
  have hsettled := run_settled h
  have honce : tunnel.didClose + (if tunnel.delegate then 1 else 0) = 1 := hsettled.once
  have htold : tunnel.didClose = 1 ↔ tunnel.delegate = false := by
    cases hdelegate : tunnel.delegate <;> simp [hdelegate] at honce ⊢ <;> omega
  refine ⟨by omega, ?_, ?_⟩
  · intro hclose
    obtain ⟨hclosed, hgone⟩ := hsettled.ended (htold.mp hclose)
    exact ⟨hclosed, fun adapterSocket hadapter => hgone _ (mem_life hadapter)⟩
  · intro hclosed hreported
    apply htold.mpr
    apply hsettled.finished hclosed
    intro adapter hadapter
    obtain ⟨adapterSocket, hsocket, rfl⟩ := Option.map_eq_some_iff.mp hadapter
    exact hreported adapterSocket hsocket

/-- In a cancelled tunnel each socket is gone or about to go. -/
theorem told_of_cancelled {events : List RelayEvent} {tunnel : Tunnel}
    (h : run (step lib manager) accepted events = some tunnel)
    (hcancelled : tunnel.isCancelled = true) :
    (tunnel.proxySocket.status = .closed ∨
        tunnel.proxySocket.socket.disconnecting.isSome = true) ∧
      ∀ adapterSocket, tunnel.adapterSocket = some adapterSocket →
        adapterSocket.gone = true ∨ adapterSocket.socket.disconnecting.isSome = true := by
  obtain ⟨hproxy, hadapters⟩ := (run_settled h).told hcancelled
  exact ⟨hproxy, fun adapterSocket hadapter => hadapters _ (mem_life hadapter)⟩

/-- **No socket is left open.**  Once the tunnel is cancelled, or one of its sockets has
reported that it has disconnected, each socket has been told to, or is gone. -/
theorem sockets_told {events : List RelayEvent} {tunnel : Tunnel}
    (h : run (step lib manager) accepted events = some tunnel)
    (hend : tunnel.isCancelled = true ∨ tunnel.proxySocket.status = .closed ∨
      (tunnel.adapterSocket.any fun adapterSocket => adapterSocket.reported) = true) :
    (tunnel.proxySocket.status = .closed ∨
        tunnel.proxySocket.socket.disconnecting.isSome = true) ∧
      ∀ adapterSocket, tunnel.adapterSocket = some adapterSocket →
        adapterSocket.gone = true ∨ adapterSocket.socket.disconnecting.isSome = true := by
  have hsettled := run_settled h
  apply told_of_cancelled h
  rcases hend with hcancelled | hclosed | hreported
  · exact hcancelled
  · exact hsettled.proxyCancels hclosed
  · obtain ⟨adapterSocket, hadapter, hreport⟩ := (Option.any_eq_true _ _).mp hreported
    exact hsettled.adapterCancels _ (mem_life hadapter) hreport

/-- The remote's connection is lost after a request; the client goes, the adapter's raw
socket reports at once, and then again. -/
def lostConnection : List RelayEvent :=
  [.proxyRead (HTTPHeader.encode HTTPHeader.absoluteRequest), .adapterGone, .proxyDisconnected,
    .adapterDisconnected]

theorem lostConnection_runs :
    ∃ tunnel, run (step asciiProxy (RuleManager.init [] true)) accepted lostConnection =
        some tunnel ∧
      tunnel.isCancelled = true ∧ tunnel.proxySocket.status = .closed ∧
      (tunnel.adapterSocket.all fun adapterSocket => adapterSocket.reported) = true := by
  have hruns : (run (step asciiProxy (RuleManager.init [] true)) accepted lostConnection).any
      (fun tunnel => tunnel.isCancelled && tunnel.proxySocket.status == .closed &&
        tunnel.adapterSocket.all fun adapterSocket => adapterSocket.reported) = true := by
    decide +kernel
  obtain ⟨tunnel, htunnel, hstate⟩ := (Option.any_eq_true _ _).mp hruns
  simp only [Bool.and_eq_true, beq_iff_eq] at hstate
  exact ⟨tunnel, htunnel, hstate.1.1, hstate.1.2, hstate.2⟩

theorem server_told_lost :
    ∃ tunnel, run (step asciiProxy (RuleManager.init [] true)) accepted lostConnection =
        some tunnel ∧ tunnel.didClose = 1 := by
  obtain ⟨tunnel, htunnel, -, hclosed, hreported⟩ := lostConnection_runs
  refine ⟨tunnel, htunnel, (server_told htunnel).2.2 hclosed ?_⟩
  intro adapterSocket hadapter
  simpa [hadapter] using hreported

theorem sockets_told_lost :
    ∃ tunnel, run (step asciiProxy (RuleManager.init [] true)) accepted lostConnection =
        some tunnel ∧
      ∀ adapterSocket, tunnel.adapterSocket = some adapterSocket →
        adapterSocket.gone = true ∨ adapterSocket.socket.disconnecting.isSome = true := by
  obtain ⟨tunnel, htunnel, hcancelled, -⟩ := lostConnection_runs
  exact ⟨tunnel, htunnel, (sockets_told htunnel (Or.inl hcancelled)).2⟩

end Tunnel

end QLadder
