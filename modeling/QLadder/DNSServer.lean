import QLadder.DNSMatch
import QLadder.IPPool
import QLadder.InFlight
import QLadder.PartialRun
import QLadder.Swift

/-!
# The DNS server

NEKit's `DNSServer` answers a query with a fake address if the rules say that
the connection will not go directly, and sends it on to its resolvers otherwise.
Everything runs on one queue: queries, responses of the resolvers, and the clean
ups that were scheduled.  A run is any interleaving of these with the passing of
time; a clean up may run at any time after its deadline.  A statement that traps
is not possible.

* `fake_answer_stands` — for twice the time to live, a fake address that was
  given in an answer stands for the name that was asked for, and a connection to
  it gets the adapter of the first rule that matches;
* `addresses_leased_once` — no address is in use twice, one clean up is scheduled for
  each that is in use, and there is none to be had only if all of them are in use;
* `pending_kept` — a query that was sent on waits for its response.
-/

namespace QLadder

open PartialRun Swift

/-- A message of a resolver, as far as the server reads it. -/
structure DNSResponse where
  transactionID : BitVec 16
  resolvedIPv4Address : Option IPAddress
  payload : List UInt8
  deriving DecidableEq, Repr

/-- What `cleanUpFakeIP` and `cleanUpPendingSession` schedule. -/
inductive CleanUp where
  | fakeIP (address : IPAddress)
  | pendingSession (transactionID : BitVec 16)
  deriving DecidableEq, Repr

/-- A block given to `asyncAfter`. -/
structure Timer where
  deadline : Nat
  cleanUp : CleanUp
  deriving DecidableEq, Repr

inductive DNSOutput where
  /-- the query goes to the resolvers -/
  | query (session : DNSSession)
  /-- `outputSession` with a fake result: an `A` record for the name -/
  | fake (session : DNSSession) (address : IPAddress)
  /-- `outputSession` with a real result: the payload of the response -/
  | real (session : DNSSession) (response : DNSResponse)
  deriving DecidableEq, Repr

structure DNSServer where
  /-- nanoseconds -/
  now : Nat
  fakeSessions : Dict IPAddress DNSSession
  pendingSessions : Dict (BitVec 16) DNSSession
  pool : Option IPPool
  timers : List Timer
  outputs : List DNSOutput
  deriving DecidableEq, Repr

inductive DNSEvent where
  /-- a query that `input` has taken in -/
  | lookup (transactionID : BitVec 16) (name : Text) (typeA : Bool)
  | didReceive (message : DNSResponse)
  /-- a clean up runs -/
  | fire (timer : Nat)
  | wait (nanoseconds : Nat)
  deriving DecidableEq, Repr

namespace Opt

def DNSFakeIPTTL : Nat := 300

def DNSPendingSessionLifeTime : Nat := 10

end Opt

namespace DNSServer

def NSEC_PER_SEC : Nat := 1000000000

/-- `DNSServer.init`, with the pool. -/
def init (pool : Option IPPool) : DNSServer :=
  { now := 0, fakeSessions := [], pendingSessions := [], pool := pool, timers := [],
    outputs := [] }

/-- `queue.asyncAfter`, after a delay in seconds. -/
def asyncAfter (server : DNSServer) (delay : Nat) (cleanUp : CleanUp) : DNSServer :=
  { server with
    timers := server.timers ++
      [{ deadline := server.now + delay * NSEC_PER_SEC, cleanUp := cleanUp }] }

def lookupFakeIP (server : DNSServer) (address : IPAddress) : Option DNSSession :=
  server.fakeSessions.get address

/-- `setUpFakeIP`: the server and the session, if there is an address. -/
def setUpFakeIP (server : DNSServer) (session : DNSSession) :
    Option (DNSServer × IPAddress) :=
  server.pool.bind fun pool =>
    match pool.fetchIP with
    | (none, _) => none
    | (some fakeIP, pool) =>
        let session := { session with fakeIP := some fakeIP }
        let server :=
          { server with
            pool := some pool
            fakeSessions := server.fakeSessions.set fakeIP (some session) }
        some (server.asyncAfter (Opt.DNSFakeIPTTL * 2) (.fakeIP fakeIP), fakeIP)

def lookupRemotely (server : DNSServer) (session : DNSSession) : DNSServer :=
  let server :=
    { server with
      pendingSessions := server.pendingSessions.set session.transactionID (some session) }
  let server :=
    server.asyncAfter Opt.DNSPendingSessionLifeTime (.pendingSession session.transactionID)
  { server with outputs := server.outputs ++ [.query session] }

/-- The answer with a fake address. -/
def outputFake (server : DNSServer) (session : DNSSession) (fakeIP : IPAddress) : DNSServer :=
  { server with
    outputs := server.outputs ++ [.fake { session with fakeIP := some fakeIP } fakeIP] }

def outputReal (server : DNSServer) (session : DNSSession) (message : DNSResponse) :
    DNSServer :=
  { server with outputs := server.outputs ++ [.real session message] }

variable (ip : IPText) (manager : RuleManager)

/-- `lookup`; `none` is the trap of `session.matchResult!`. -/
def lookup (server : DNSServer) (session : DNSSession) : Option DNSServer :=
  if session.typeA then
    let session := manager.matchDNS ip session .domain
    match session.matchResult with
    | some .fake =>
        match server.setUpFakeIP session with
        | none => some (server.lookupRemotely { session with matchResult := some .real })
        | some (server, fakeIP) => some (server.outputFake session fakeIP)
    | some .real | some .unknown => some (server.lookupRemotely session)
    | some .pass => some server
    | none => none
  else
    some (server.lookupRemotely { session with matchResult := some .real })

/-- The block of `didReceive`, for a response that could be read. -/
def didReceive (server : DNSServer) (message : DNSResponse) : Option DNSServer :=
  match server.pendingSessions.get message.transactionID with
  | none => some server
  | some session =>
      let server :=
        { server with
          pendingSessions := server.pendingSessions.set message.transactionID none }
      let session := { session with realIP := message.resolvedIPv4Address }
      let session :=
        if session.matchResult ≠ some .fake ∧ session.matchResult ≠ some .real then
          manager.matchDNS ip session .ip
        else
          session
      match session.matchResult with
      | some .fake =>
          match server.setUpFakeIP session with
          | none => some (server.outputReal { session with matchResult := some .real } message)
          | some (server, fakeIP) => some (server.outputFake session fakeIP)
      | some .real => some (server.outputReal session message)
      | some .unknown | some .pass => some server
      | none => none

/-- A clean up runs. -/
def cleanUp (server : DNSServer) : CleanUp → DNSServer
  | .fakeIP address =>
      { server with
        fakeSessions := server.fakeSessions.set address none
        pool := server.pool.map fun pool => pool.release address }
  | .pendingSession transactionID =>
      { server with pendingSessions := server.pendingSessions.set transactionID none }

def step (server : DNSServer) : DNSEvent → Option DNSServer
  | .lookup transactionID name typeA =>
      server.lookup ip manager (.init transactionID name typeA)
  | .didReceive message => server.didReceive ip manager message
  | .fire index =>
      server.timers[index]?.bind fun timer =>
        if timer.deadline ≤ server.now then
          some ({ server with timers := server.timers.eraseIdx index }.cleanUp timer.cleanUp)
        else
          none
  | .wait nanoseconds => some { server with now := server.now + nanoseconds }

/-! ## What a step does -/

/-- The clean ups of fake addresses that are scheduled, with their deadlines. -/
def leaseTimers (server : DNSServer) : List (Nat × IPAddress) :=
  server.timers.filterMap fun timer =>
    match timer.cleanUp with
    | .fakeIP address => some (timer.deadline, address)
    | .pendingSession _ => none

/-- Twice the time to live. -/
def leaseTime : Nat :=
  Opt.DNSFakeIPTTL * 2 * NSEC_PER_SEC

/-- A session that waits for a response. -/
def Awaits (session : DNSSession) : Prop :=
  session.matchResult = some .real ∨
    (session.matchResult = some .unknown ∧ session.Waiting manager)

/-- An address is given to a session whose rule has been found. -/
structure Leased (server after : DNSServer) (session : DNSSession) (address : IPAddress) :
    Prop where
  found : session.Found ip manager
  fakeIP : session.fakeIP = some address
  fetched : ∃ pool, server.pool = some pool ∧ pool.fetchIP.1 = some address ∧
    after.pool = some pool.fetchIP.2
  fakeSessions : after.fakeSessions = server.fakeSessions.set address (some session)
  timers : after.leaseTimers = server.leaseTimers ++ [(server.now + leaseTime, address)]
  outputs : after.outputs = server.outputs ++ [.fake session address]
  now : after.now = server.now

/-- Nothing happens to the addresses. -/
structure Kept (server after : DNSServer) : Prop where
  fakeSessions : after.fakeSessions = server.fakeSessions
  pool : after.pool = server.pool
  timers : after.leaseTimers.Perm server.leaseTimers
  outputs : ∀ session address, after.outputs ≠ server.outputs ++ [.fake session address]
  now : server.now ≤ after.now

/-- An address comes back, not before its deadline. -/
structure Released (server after : DNSServer) (deadline : Nat) (address : IPAddress) :
    Prop where
  due : deadline ≤ server.now
  fakeSessions : after.fakeSessions = server.fakeSessions.set address none
  pool : after.pool = server.pool.map fun pool => pool.release address
  timers : ((deadline, address) :: after.leaseTimers).Perm server.leaseTimers
  outputs : after.outputs = server.outputs
  now : after.now = server.now

variable {ip manager}

/-- `setUpFakeIP` takes an address out of the pool and schedules its clean up. -/
theorem setUpFakeIP_some {server after : DNSServer} {session : DNSSession}
    {fakeIP : IPAddress} (h : server.setUpFakeIP session = some (after, fakeIP))
    (hfound : session.Found ip manager) :
    Leased ip manager server (after.outputFake session fakeIP)
      { session with fakeIP := some fakeIP } fakeIP ∧
      after.pendingSessions = server.pendingSessions ∧
      after.timers = server.timers ++
        [{ deadline := server.now + leaseTime, cleanUp := .fakeIP fakeIP }] := by
  obtain ⟨pool, hpool, hset⟩ := Option.bind_eq_some_iff.mp h
  cases hfetch : pool.fetchIP with
  | mk fetched rest =>
      cases fetched with
      | none => simp [hfetch] at hset
      | some address =>
          simp only [hfetch, Option.some.injEq, Prod.mk.injEq] at hset
          obtain ⟨rfl, rfl⟩ := hset
          have hfound' : DNSSession.Found ip manager
              { session with fakeIP := some address } := hfound
          refine ⟨⟨hfound', rfl, ⟨pool, hpool, by rw [hfetch], by rw [hfetch]; rfl⟩, rfl, ?_,
            rfl, rfl⟩, rfl, rfl⟩
          simp [leaseTimers, outputFake, asyncAfter, leaseTime]

theorem lookupRemotely_kept (server : DNSServer) (session : DNSSession) :
    Kept server (server.lookupRemotely session) := by
  refine ⟨rfl, rfl, ?_, ?_, Nat.le_refl _⟩
  · simp [leaseTimers, lookupRemotely, asyncAfter]
  · intro other address heq
    simp [lookupRemotely, asyncAfter] at heq

theorem lookupRemotely_pending (server : DNSServer) (session : DNSSession) :
    (server.lookupRemotely session).pendingSessions =
      server.pendingSessions.set session.transactionID (some session) :=
  rfl

variable (manager) in
/-- Sessions that wait do so under their own number. -/
def Waits (server : DNSServer) : Prop :=
  ∀ transactionID session, server.pendingSessions.get transactionID = some session →
    Awaits manager session ∧ session.transactionID = transactionID

/-- **Queries.**  A query is ignored, or sent on, or answered with a fake address. -/
theorem lookup_cases {server after : DNSServer} {transactionID : BitVec 16} {name : Text}
    {typeA : Bool}
    (h : server.lookup ip manager (.init transactionID name typeA) = some after) :
    after = server ∨
      (∃ session, Awaits manager session ∧ session.transactionID = transactionID ∧
        session.name = name ∧ after = server.lookupRemotely session) ∨
      ∃ session mid address, session.Found ip manager ∧ session.name = name ∧
        server.setUpFakeIP session = some (mid, address) ∧
        after = mid.outputFake session address := by
  cases typeA with
  | false =>
      have hafter : after = server.lookupRemotely
          { DNSSession.init transactionID name false with matchResult := some .real } := by
        simpa [lookup, DNSSession.init] using h.symm
      exact Or.inr (Or.inl ⟨_, Or.inl rfl, rfl, rfl, hafter⟩)
  | true =>
      obtain ⟨hname, hid, hresult⟩ := DNSSession.matchDNS_domain ip manager
        (show (DNSSession.init transactionID name true).indexToMatch = 0 from rfl) rfl
      have hasked : (DNSSession.init transactionID name true).typeA = true := rfl
      simp only [lookup, hasked, if_true] at h
      generalize manager.matchDNS ip (.init transactionID name true) .domain = session at *
      rcases hresult with hnone | ⟨hunknown, hwaiting⟩ | ⟨hreal | hfake, hfound⟩
      · simp [hnone] at h
      · simp only [hunknown, Option.some.injEq] at h
        exact Or.inr (Or.inl ⟨session, Or.inr ⟨hunknown, hwaiting⟩, hid, hname, h.symm⟩)
      · simp only [hreal, Option.some.injEq] at h
        exact Or.inr (Or.inl ⟨session, Or.inl hreal, hid, hname, h.symm⟩)
      · simp only [hfake] at h
        cases hset : server.setUpFakeIP session with
        | none =>
            simp only [hset, Option.some.injEq] at h
            exact Or.inr (Or.inl ⟨{ session with matchResult := some .real }, Or.inl rfl, hid,
              hname, h.symm⟩)
        | some result =>
            simp only [hset, Option.some.injEq] at h
            exact Or.inr (Or.inr ⟨session, result.1, result.2, hfound, hname, hset, h.symm⟩)

/-- **Responses.**  A response is ignored, or answers the query of its number, with
the address it has or a fake one. -/
theorem didReceive_cases {server after : DNSServer} {message : DNSResponse}
    (hwaits : Waits manager server) (hcoded : manager.CountriesCoded)
    (h : server.didReceive ip manager message = some after) :
    (server.pendingSessions.get message.transactionID = none ∧ after = server) ∨
      ∃ waiting session,
        server.pendingSessions.get message.transactionID = some waiting ∧
        session.name = waiting.name ∧
        let rest :=
          { server with
            pendingSessions := server.pendingSessions.set message.transactionID none }
        after = rest ∨ after = rest.outputReal session message ∨
          ∃ mid address, session.Found ip manager ∧
            rest.setUpFakeIP session = some (mid, address) ∧
            after = mid.outputFake session address := by
  unfold didReceive at h
  cases hget : server.pendingSessions.get message.transactionID with
  | none =>
      simp only [hget, Option.some.injEq] at h
      exact Or.inl ⟨rfl, h.symm⟩
  | some waiting =>
      obtain ⟨hawaits, hid⟩ := hwaits _ _ hget
      simp only [hget] at h
      refine Or.inr ⟨waiting, ?_⟩
      rcases hawaits with hreal | ⟨hunknown, hwaiting⟩
      · refine ⟨{ waiting with realIP := message.resolvedIPv4Address }, rfl, rfl,
          Or.inr (Or.inl ?_)⟩
        simpa [hreal] using h.symm
      · have hresolved : DNSSession.Waiting manager
            { waiting with realIP := message.resolvedIPv4Address } := hwaiting
        obtain ⟨hname, -, hresult⟩ := hresolved.matchDNS_ip ip hcoded
        have hask : waiting.matchResult ≠ some .fake ∧ waiting.matchResult ≠ some .real := by
          rw [hunknown]
          exact ⟨by simp, by simp⟩
        simp only [hask, ne_eq, not_false_eq_true, and_self, if_true] at h
        generalize manager.matchDNS ip
          { waiting with realIP := message.resolvedIPv4Address } .ip = session at *
        rcases hresult with rfl | ⟨hreal | hfake, hfound⟩
        · simp only [hunknown, Option.some.injEq] at h
          exact ⟨_, rfl, hname, Or.inl h.symm⟩
        · simp only [hreal, Option.some.injEq] at h
          exact ⟨session, rfl, hname, Or.inr (Or.inl h.symm)⟩
        · simp only [hfake] at h
          split at h
          · simp only [Option.some.injEq] at h
            exact ⟨{ session with matchResult := some .real }, rfl, hname,
              Or.inr (Or.inl h.symm)⟩
          · next mid address hset =>
            simp only [Option.some.injEq] at h
            exact ⟨session, rfl, hname, Or.inr (Or.inr ⟨mid, address, hfound, hset, h.symm⟩)⟩

/-- **One step.**  It leaves the addresses alone, or gives one to a session, or
takes one back. -/
theorem step_cases {server after : DNSServer} {event : DNSEvent}
    (hwaits : Waits manager server) (hcoded : manager.CountriesCoded)
    (h : step ip manager server event = some after) :
    Kept server after ∨ (∃ session address, Leased ip manager server after session address) ∨
      ∃ deadline address, Released server after deadline address := by
  cases event with
  | wait nanoseconds =>
      cases h
      exact Or.inl ⟨rfl, rfl, List.Perm.refl _, fun _ _ heq => by simp at heq, Nat.le_add_right _ _⟩
  | lookup transactionID name typeA =>
      rcases lookup_cases h with rfl | ⟨session, -, -, -, rfl⟩ |
        ⟨session, mid, address, hfound, -, hset, rfl⟩
      · exact Or.inl ⟨rfl, rfl, List.Perm.refl _, fun _ _ heq => by simp at heq, Nat.le_refl _⟩
      · exact Or.inl (lookupRemotely_kept server session)
      · exact Or.inr (Or.inl ⟨_, address, (setUpFakeIP_some hset hfound).1⟩)
  | didReceive message =>
      rcases didReceive_cases hwaits hcoded h with ⟨-, rfl⟩ | ⟨waiting, session, -, -, hafter⟩
      · exact Or.inl ⟨rfl, rfl, List.Perm.refl _, fun _ _ heq => by simp at heq, Nat.le_refl _⟩
      · rcases hafter with rfl | rfl | ⟨mid, address, hfound, hset, rfl⟩
        · exact Or.inl ⟨rfl, rfl, List.Perm.refl _, fun _ _ heq => by simp at heq, Nat.le_refl _⟩
        · refine Or.inl ⟨rfl, rfl, List.Perm.refl _, fun other address heq => ?_, Nat.le_refl _⟩
          simp [outputReal] at heq
        · obtain ⟨hleased, -, -⟩ := setUpFakeIP_some hset hfound
          exact Or.inr (Or.inl ⟨_, address, hleased.found, hleased.fakeIP, hleased.fetched,
            hleased.fakeSessions, hleased.timers, hleased.outputs, hleased.now⟩)
  | fire index =>
      obtain ⟨timer, htimer, hfire⟩ := Option.bind_eq_some_iff.mp h
      have hperm := InFlight.perm_eraseIdx htimer
      by_cases hdue : timer.deadline ≤ server.now
      · simp only [if_pos hdue, Option.some.injEq] at hfire
        subst hfire
        cases timer with
        | mk deadline what =>
            have htimers := List.Perm.filterMap (fun timer : Timer =>
              match timer.cleanUp with
              | .fakeIP address => some (timer.deadline, address)
              | .pendingSession _ => none) hperm
            cases what with
            | fakeIP address =>
                exact Or.inr (Or.inr ⟨deadline, address, hdue, rfl, rfl, htimers, rfl, rfl⟩)
            | pendingSession transactionID =>
                exact Or.inl ⟨rfl, rfl, htimers, fun _ _ heq => by simp [cleanUp] at heq,
                  Nat.le_refl _⟩
      · simp [hdue] at hfire

/-! ## Invariants -/

theorem awaits_of_set {server : DNSServer} {transactionID : BitVec 16} {session : DNSSession}
    (hwaits : Waits manager server) (hawaits : Awaits manager session)
    (hid : session.transactionID = transactionID) :
    ∀ other waiting,
      (server.pendingSessions.set transactionID (some session)).get other = some waiting →
        Awaits manager waiting ∧ waiting.transactionID = other := by
  intro other waiting hget
  by_cases hother : other = transactionID
  · subst hother
    rw [Dict.get_set_self, Option.some.injEq] at hget
    subst hget
    exact ⟨hawaits, hid⟩
  · rw [Dict.get_set_of_ne _ _ hother] at hget
    exact hwaits other waiting hget

theorem awaits_of_removed {server : DNSServer} {transactionID : BitVec 16}
    (hwaits : Waits manager server) :
    ∀ other waiting, (server.pendingSessions.set transactionID none).get other = some waiting →
      Awaits manager waiting ∧ waiting.transactionID = other := by
  intro other waiting hget
  by_cases hother : other = transactionID
  · subst hother
    rw [Dict.get_set_none] at hget
    cases hget
  · rw [Dict.get_set_of_ne _ _ hother] at hget
    exact hwaits other waiting hget

theorem step_waits {server after : DNSServer} {event : DNSEvent}
    (hwaits : Waits manager server) (hcoded : manager.CountriesCoded)
    (h : step ip manager server event = some after) : Waits manager after := by
  cases event with
  | wait nanoseconds =>
      cases h
      exact hwaits
  | lookup transactionID name typeA =>
      rcases lookup_cases h with rfl | ⟨session, hawaits, -, -, rfl⟩ |
        ⟨session, mid, address, hfound, -, hset, rfl⟩
      · exact hwaits
      · exact awaits_of_set hwaits hawaits rfl
      · have hpending := (setUpFakeIP_some hset hfound).2.1
        intro other waiting hget
        rw [show (mid.outputFake session address).pendingSessions = mid.pendingSessions from rfl,
          hpending] at hget
        exact hwaits other waiting hget
  | didReceive message =>
      rcases didReceive_cases hwaits hcoded h with ⟨-, rfl⟩ | ⟨waiting, session, -, -, hafter⟩
      · exact hwaits
      · rcases hafter with rfl | rfl | ⟨mid, address, hfound, hset, rfl⟩
        · exact awaits_of_removed hwaits
        · exact awaits_of_removed hwaits
        · have hpending := (setUpFakeIP_some hset hfound).2.1
          intro other waiting hget
          rw [show (mid.outputFake session address).pendingSessions = mid.pendingSessions
            from rfl, hpending] at hget
          exact awaits_of_removed hwaits other waiting hget
  | fire index =>
      obtain ⟨timer, -, hfire⟩ := Option.bind_eq_some_iff.mp h
      by_cases hdue : timer.deadline ≤ server.now
      · simp only [if_pos hdue, Option.some.injEq] at hfire
        subst hfire
        cases timer.cleanUp with
        | fakeIP address => exact hwaits
        | pendingSession transactionID => exact awaits_of_removed hwaits
      · simp [hdue] at hfire

variable (ip manager) in
/-- What holds of the addresses in every state that is reached. -/
structure Leases (server : DNSServer) : Prop where
  waits : Waits manager server
  /-- every address is in the pool, or in use, or was never given away -/
  pool : ∀ pool, server.pool = some pool →
    pool.range.Proper ∧ pool.Lent server.fakeSessions.keys
  no_pool : server.pool = none → server.fakeSessions = []
  /-- one clean up is scheduled for each address in use -/
  timers : (server.leaseTimers.map Prod.snd).Perm server.fakeSessions.keys
  sessions : ∀ address session, server.fakeSessions.get address = some session →
    session.Found ip manager ∧ session.fakeIP = some address

theorem Leases.nodup {server : DNSServer} (h : Leases ip manager server) :
    server.fakeSessions.keys.Nodup := by
  cases hpool : server.pool with
  | none =>
      rw [h.no_pool hpool]
      exact List.nodup_nil
  | some pool => exact (h.pool pool hpool).2.nodup

theorem Kept.leases {server after : DNSServer} (hkept : Kept server after)
    (h : Leases ip manager server) (hwaits : Waits manager after) : Leases ip manager after := by
  refine ⟨hwaits, ?_, ?_, ?_, ?_⟩
  · intro pool hpool
    rw [hkept.pool] at hpool
    rw [hkept.fakeSessions]
    exact h.pool pool hpool
  · intro hpool
    rw [hkept.pool] at hpool
    rw [hkept.fakeSessions]
    exact h.no_pool hpool
  · rw [hkept.fakeSessions]
    exact (hkept.timers.map Prod.snd).trans h.timers
  · rw [hkept.fakeSessions]
    exact h.sessions

/-- What is leased was free. -/
theorem Leased.fresh {server after : DNSServer} {session : DNSSession} {address : IPAddress}
    (hleased : Leased ip manager server after session address) (h : Leases ip manager server) :
    address ∉ server.fakeSessions.keys := by
  obtain ⟨pool, hpool, hfetch, -⟩ := hleased.fetched
  obtain ⟨hproper, hlent⟩ := h.pool pool hpool
  exact (hlent.fetch hproper hfetch).2

theorem Leased.leases {server after : DNSServer} {session : DNSSession} {address : IPAddress}
    (hleased : Leased ip manager server after session address) (h : Leases ip manager server)
    (hwaits : Waits manager after) : Leases ip manager after := by
  have hfresh := hleased.fresh h
  have hkeys : after.fakeSessions.keys = address :: server.fakeSessions.keys := by
    rw [hleased.fakeSessions, Dict.keys_set_some hfresh]
  refine ⟨hwaits, ?_, ?_, ?_, ?_⟩
  · intro pool hpool
    obtain ⟨before, hbefore, hfetch, hafter⟩ := hleased.fetched
    rw [hafter, Option.some.injEq] at hpool
    subst hpool
    obtain ⟨hproper, hlent⟩ := h.pool before hbefore
    rw [hkeys, IPPool.range_fetchIP]
    exact ⟨hproper, (hlent.fetch hproper hfetch).1⟩
  · intro hpool
    obtain ⟨before, -, -, hafter⟩ := hleased.fetched
    rw [hafter] at hpool
    cases hpool
  · rw [hleased.timers, hkeys, List.map_append]
    exact (List.perm_append_singleton address _).trans (h.timers.cons address)
  · intro other waiting hget
    rw [hleased.fakeSessions] at hget
    by_cases hother : other = address
    · subst hother
      rw [Dict.get_set_self, Option.some.injEq] at hget
      subst hget
      exact ⟨hleased.found, hleased.fakeIP⟩
    · rw [Dict.get_set_of_ne _ _ hother] at hget
      exact h.sessions other waiting hget

theorem Released.leases {server after : DNSServer} {deadline : Nat} {address : IPAddress}
    (hreleased : Released server after deadline address) (h : Leases ip manager server)
    (hwaits : Waits manager after) : Leases ip manager after := by
  have hpromised : address ∈ server.leaseTimers.map Prod.snd := by
    apply (hreleased.timers.map Prod.snd).mem_iff.mp
    exact List.mem_cons_self
  have hused : address ∈ server.fakeSessions.keys := h.timers.mem_iff.mp hpromised
  have hkeys : after.fakeSessions.keys = server.fakeSessions.keys.erase address := by
    rw [hreleased.fakeSessions, Dict.keys_set_none h.nodup]
  refine ⟨hwaits, ?_, ?_, ?_, ?_⟩
  · intro pool hpool
    rw [hreleased.pool] at hpool
    obtain ⟨before, hbefore, rfl⟩ := Option.map_eq_some_iff.mp hpool
    obtain ⟨hproper, hlent⟩ := h.pool before hbefore
    rw [hkeys, IPPool.range_release]
    exact ⟨hproper, hlent.release hused⟩
  · intro hpool
    rw [hreleased.pool, Option.map_eq_none_iff] at hpool
    rw [hreleased.fakeSessions, h.no_pool hpool]
    rfl
  · have hcons : (address :: after.leaseTimers.map Prod.snd).Perm
        (address :: server.fakeSessions.keys.erase address) :=
      calc (address :: after.leaseTimers.map Prod.snd).Perm
            (server.leaseTimers.map Prod.snd) := hreleased.timers.map Prod.snd
        List.Perm _ server.fakeSessions.keys := h.timers
        List.Perm _ (address :: server.fakeSessions.keys.erase address) :=
          List.perm_cons_erase hused
    rw [hkeys]
    exact (List.perm_cons address).mp hcons
  · intro other waiting hget
    rw [hreleased.fakeSessions] at hget
    by_cases hother : other = address
    · subst hother
      rw [Dict.get_set_none] at hget
      cases hget
    · rw [Dict.get_set_of_ne _ _ hother] at hget
      exact h.sessions other waiting hget

theorem step_leases {server after : DNSServer} {event : DNSEvent}
    (h : Leases ip manager server) (hcoded : manager.CountriesCoded)
    (hstep : step ip manager server event = some after) : Leases ip manager after := by
  have hwaits := step_waits h.waits hcoded hstep
  rcases step_cases h.waits hcoded hstep with hkept | ⟨session, address, hleased⟩ |
    ⟨deadline, address, hreleased⟩
  · exact hkept.leases h hwaits
  · exact hleased.leases h hwaits
  · exact hreleased.leases h hwaits

/-- A new server has given nothing away. -/
theorem leases_init {range : Option IPRange}
    (hproper : ∀ known, range = some known → known.Proper) :
    Leases ip manager (init (range.map IPPool.init)) := by
  refine ⟨?_, ?_, ?_, List.Perm.refl _, ?_⟩
  · intro transactionID session hget
    cases hget
  · intro pool hpool
    obtain ⟨known, hknown, rfl⟩ := Option.map_eq_some_iff.mp hpool
    exact ⟨hproper known hknown, IPPool.lent_init known⟩
  · intro _
    rfl
  · intro address session hget
    cases hget

/-- The range of the pool stays. -/
theorem step_range {server after : DNSServer} {event : DNSEvent}
    (hwaits : Waits manager server) (hcoded : manager.CountriesCoded)
    (h : step ip manager server event = some after) :
    after.pool.map IPPool.range = server.pool.map IPPool.range := by
  rcases step_cases hwaits hcoded h with hkept | ⟨session, address, hleased⟩ |
    ⟨deadline, address, hreleased⟩
  · rw [hkept.pool]
  · obtain ⟨pool, hpool, -, hafter⟩ := hleased.fetched
    rw [hpool, hafter, Option.map_some, Option.map_some, IPPool.range_fetchIP]
  · rw [hreleased.pool, Option.map_map]
    congr 1
    funext pool
    exact pool.range_release address

/-- The invariant of every run from a new server. -/
theorem run_leases {range : IPRange} (hproper : range.Proper)
    (hcoded : manager.CountriesCoded) {events : List DNSEvent} {server : DNSServer}
    (h : run (step ip manager) (init (some (IPPool.init range))) events = some server) :
    Leases ip manager server ∧ server.pool.map IPPool.range = some range := by
  have hinit : Leases ip manager (init ((some range).map IPPool.init)) := by
    apply leases_init
    intro known hknown
    cases hknown
    exact hproper
  refine run_preserves
    (fun s => Leases ip manager s ∧ s.pool.map IPPool.range = some range) ?_
    ⟨hinit, rfl⟩ h
  intro s event t hs hstep
  exact ⟨step_leases hs.1 hcoded hstep, (step_range hs.1.waits hcoded hstep).trans hs.2⟩

/-- **Addresses.**  In every state that is reached, the addresses in use are
different addresses of the range, one clean up is scheduled for each of them, and
the pool has none left if and only if all of them are in use. -/
theorem addresses_leased_once {range : IPRange} (hproper : range.Proper)
    (hcoded : manager.CountriesCoded) {events : List DNSEvent} {server : DNSServer}
    (h : run (step ip manager) (init (some (IPPool.init range))) events = some server) :
    server.fakeSessions.keys.Nodup ∧
      (∀ address ∈ server.fakeSessions.keys, range.contains address = true) ∧
      (server.leaseTimers.map Prod.snd).Perm server.fakeSessions.keys ∧
      ∃ pool, server.pool = some pool ∧
        (pool.fetchIP.1 = none ↔
          ∀ address, range.contains address = true → address ∈ server.fakeSessions.keys) := by
  obtain ⟨hleases, hrange⟩ := run_leases hproper hcoded h
  obtain ⟨pool, hpool, rfl⟩ := Option.map_eq_some_iff.mp hrange
  obtain ⟨hproper', hlent⟩ := hleases.pool pool hpool
  refine ⟨hleases.nodup, ?_, hleases.timers, pool, hpool, hlent.fetch_none hproper'⟩
  intro address hused
  exact hlent.contains hproper' hused

/-! ## What an answer promises -/

/-- An address in use stays with its session until its clean up is due. -/
theorem step_lookupFakeIP {server after : DNSServer} {event : DNSEvent}
    {session : DNSSession} {address : IPAddress} {deadline : Nat}
    (h : Leases ip manager server) (hcoded : manager.CountriesCoded)
    (hstep : step ip manager server event = some after)
    (hused : server.lookupFakeIP address = some session)
    (hdue : ∀ time, (time, address) ∈ server.leaseTimers → deadline ≤ time)
    (hearly : server.now < deadline) :
    after.lookupFakeIP address = some session ∧
      ∀ time, (time, address) ∈ after.leaseTimers → deadline ≤ time := by
  rcases step_cases h.waits hcoded hstep with hkept | ⟨other, taken, hleased⟩ |
    ⟨time, returned, hreleased⟩
  · constructor
    · rw [lookupFakeIP, hkept.fakeSessions]
      exact hused
    · intro time hmem
      exact hdue time (hkept.timers.mem_iff.mp hmem)
  · have hother : address ≠ taken := by
      intro heq
      apply hleased.fresh h
      rw [← heq]
      exact Dict.mem_keys_of_get hused
    constructor
    · rw [lookupFakeIP, hleased.fakeSessions, Dict.get_set_of_ne _ _ hother]
      exact hused
    · intro time hmem
      rw [hleased.timers] at hmem
      rcases List.mem_append.mp hmem with hold | hnew
      · exact hdue time hold
      · have heq := List.mem_singleton.mp hnew
        exact absurd (Prod.mk.inj heq).2 hother
  · have hother : address ≠ returned := by
      intro heq
      have hmem : (time, address) ∈ server.leaseTimers := by
        rw [heq]
        exact hreleased.timers.mem_iff.mp List.mem_cons_self
      have hlate := hdue time hmem
      have hfired := hreleased.due
      omega
    constructor
    · rw [lookupFakeIP, hreleased.fakeSessions, Dict.get_set_of_ne _ _ hother]
      exact hused
    · intro later hmem
      exact hdue later (hreleased.timers.mem_iff.mp (List.mem_cons_of_mem _ hmem))

/-- Time does not go back. -/
theorem step_now {server after : DNSServer} {event : DNSEvent}
    (hwaits : Waits manager server) (hcoded : manager.CountriesCoded)
    (h : step ip manager server event = some after) : server.now ≤ after.now := by
  rcases step_cases hwaits hcoded h with hkept | ⟨session, address, hleased⟩ |
    ⟨deadline, address, hreleased⟩
  · exact hkept.now
  · exact Nat.le_of_eq hleased.now.symm
  · exact Nat.le_of_eq hreleased.now.symm

theorem run_now {server after : DNSServer} {events : List DNSEvent}
    (h : Leases ip manager server) (hcoded : manager.CountriesCoded)
    (hrun : run (step ip manager) server events = some after) : server.now ≤ after.now := by
  refine (run_preserves (fun s => Leases ip manager s ∧ server.now ≤ s.now) ?_
    ⟨h, Nat.le_refl _⟩ hrun).2
  intro s event t hs hstep
  exact ⟨step_leases hs.1 hcoded hstep,
    Nat.le_trans hs.2 (step_now hs.1.waits hcoded hstep)⟩

theorem run_lookupFakeIP {server after : DNSServer} {events : List DNSEvent}
    {session : DNSSession} {address : IPAddress} {deadline : Nat}
    (h : Leases ip manager server) (hcoded : manager.CountriesCoded)
    (hrun : run (step ip manager) server events = some after)
    (hused : server.lookupFakeIP address = some session)
    (hdue : ∀ time, (time, address) ∈ server.leaseTimers → deadline ≤ time)
    (hearly : after.now < deadline) : after.lookupFakeIP address = some session := by
  induction events generalizing server with
  | nil =>
      cases hrun
      exact hused
  | cons event events ih =>
      obtain ⟨mid, hmid, hrest⟩ := run_cons_some hrun
      have hleases := step_leases h hcoded hmid
      have hforward := run_now hleases hcoded hrest
      have hnow := step_now h.waits hcoded hmid
      obtain ⟨hused', hdue'⟩ := step_lookupFakeIP h hcoded hmid hused hdue (by omega)
      exact ih hleases hrest hused' hdue'

/-- Only a lease puts a fake address into the outputs. -/
theorem leased_of_answer {before after : DNSServer} {event : DNSEvent} {session : DNSSession}
    {address : IPAddress} (h : Leases ip manager before) (hcoded : manager.CountriesCoded)
    (hstep : step ip manager before event = some after)
    (hanswer : after.outputs = before.outputs ++ [.fake session address]) :
    Leased ip manager before after session address := by
  rcases step_cases h.waits hcoded hstep with hkept | ⟨other, taken, hleased⟩ |
    ⟨deadline, returned, hreleased⟩
  · exact absurd hanswer (hkept.outputs session address)
  · have hsame : other = session ∧ taken = address := by
      have houtputs := hleased.outputs.symm.trans hanswer
      simpa using houtputs
    obtain ⟨rfl, rfl⟩ := hsame
    exact hleased
  · rw [hreleased.outputs] at hanswer
    simp at hanswer

/-- A leased address is looked up as its session for twice the time to live. -/
theorem Leased.stands {before after later : DNSServer} {session : DNSSession}
    {address : IPAddress} (hleased : Leased ip manager before after session address)
    (h : Leases ip manager before) (hafter : Leases ip manager after)
    (hcoded : manager.CountriesCoded) {future : List DNSEvent}
    (hfuture : run (step ip manager) after future = some later)
    (hearly : later.now < before.now + leaseTime) : later.lookupFakeIP address = some session := by
  have hused : after.lookupFakeIP address = some session := by
    rw [lookupFakeIP, hleased.fakeSessions, Dict.get_set_self]
  apply run_lookupFakeIP hafter hcoded hfuture hused _ hearly
  intro time hmem
  rw [hleased.timers] at hmem
  rcases List.mem_append.mp hmem with hold | hnew
  · have hkey : address ∈ before.fakeSessions.keys :=
      h.timers.mem_iff.mp (List.mem_map_of_mem hold)
    exact absurd hkey (hleased.fresh h)
  · have heq := List.mem_singleton.mp hnew
    exact Nat.le_of_eq (Prod.mk.inj heq).1.symm

/-- **Fake answers.**  A server that answers a query with a fake address looks the
address up as that query for twice the time to live, whatever else happens, and a
connection to it gets the adapter of the first rule that matches. -/
theorem fake_answer_stands {range : IPRange} (hproper : range.Proper)
    (hcoded : manager.CountriesCoded) {past future : List DNSEvent} {event : DNSEvent}
    {before after later : DNSServer} {session : DNSSession} {address : IPAddress}
    (hpast : run (step ip manager) (init (some (IPPool.init range))) past = some before)
    (hstep : step ip manager before event = some after)
    (hanswer : after.outputs = before.outputs ++ [.fake session address])
    (hfuture : run (step ip manager) after future = some later)
    (hearly : later.now < before.now + leaseTime) :
    later.lookupFakeIP address = some session ∧
      ∃ adapterFactory,
        manager.matchSession ip.ipSyntax (session.connectSession ip) =
          (some adapterFactory, session.connectSession ip) ∧
        (manager.matchSession ip.ipSyntax
          { session.connectSession ip with matchedRule := none }).1 = some adapterFactory := by
  have hbefore := (run_leases hproper hcoded hpast).1
  have hafter := step_leases hbefore hcoded hstep
  have hleased := leased_of_answer hbefore hcoded hstep hanswer
  exact ⟨hleased.stands hbefore hafter hcoded hfuture hearly, hleased.found.routed⟩

/-- The range of the pool that `startTunnel` makes. -/
def fakeIPRange : IPRange :=
  { startIP := .IPv4 0xC6120101#32, endIP := .IPv4 0xC612FFFF#32, compatible := rfl,
    ordered := by decide }

theorem fakeIPRange_proper : fakeIPRange.Proper := by
  unfold IPRange.Proper
  decide

/-- Rules that send everything to a server. -/
def serverRules : RuleManager :=
  RuleManager.init [.all (.shadowsocks
    { serverHost := "s", serverPort := 1, password := "p", algorithm := .AES256CFB })] true

theorem serverRules_coded : serverRules.CountriesCoded := by
  intro rule hrule onMatch adapterFactory heq
  subst heq
  simp [serverRules, RuleManager.init, Rule.directRule] at hrule

/-- The session of a query for a name, answered with the first address. -/
def firstSession : DNSSession :=
  { DNSSession.init 7 (text "a") true with
    fakeIP := some (.IPv4 0xC6120101#32)
    matchedRule := serverRules.rules.head?
    matchResult := some .fake }

/-- Two names, two addresses. -/
theorem leases_two :
    ∃ server, run (step unaryText serverRules) (init (some (IPPool.init fakeIPRange)))
        [.lookup 7 (text "a") true, .lookup 8 (text "b") true] = some server ∧
      server.fakeSessions.keys.Nodup := by
  obtain ⟨server, hserver⟩ : ∃ server, run (step unaryText serverRules)
      (init (some (IPPool.init fakeIPRange)))
        [.lookup 7 (text "a") true, .lookup 8 (text "b") true] = some server :=
    Option.isSome_iff_exists.mp (by decide)
  exact ⟨server, hserver, (addresses_leased_once fakeIPRange_proper serverRules_coded hserver).1⟩

/-- The first name gets the first address, and keeps it. -/
theorem fake_answer_stands_first :
    ∃ later, run (step unaryText serverRules) (init (some (IPPool.init fakeIPRange)))
        [.lookup 7 (text "a") true, .lookup 8 (text "b") true, .wait 599999999999] =
          some later ∧
      later.lookupFakeIP (.IPv4 0xC6120101#32) = some firstSession := by
  obtain ⟨after, hafter⟩ : ∃ after, step unaryText serverRules
      (init (some (IPPool.init fakeIPRange))) (.lookup 7 (text "a") true) = some after :=
    Option.isSome_iff_exists.mp (by decide)
  obtain ⟨later, hlater⟩ : ∃ later, run (step unaryText serverRules)
      (init (some (IPPool.init fakeIPRange)))
        [.lookup 7 (text "a") true, .lookup 8 (text "b") true, .wait 599999999999] =
          some later :=
    Option.isSome_iff_exists.mp (by decide)
  have hnow : (run (step unaryText serverRules) (init (some (IPPool.init fakeIPRange)))
      [.lookup 7 (text "a") true, .lookup 8 (text "b") true, .wait 599999999999]).map
        DNSServer.now = some 599999999999 := by decide
  have houtputs : (step unaryText serverRules (init (some (IPPool.init fakeIPRange)))
      (.lookup 7 (text "a") true)).map DNSServer.outputs =
        some [.fake firstSession (.IPv4 0xC6120101#32)] := by decide
  rw [hlater] at hnow
  rw [hafter] at houtputs
  have hfuture := (run_cons hafter).symm.trans hlater
  have hearly : later.now < 0 + leaseTime := by
    rw [Option.some.inj hnow]
    decide
  exact ⟨later, hlater, (fake_answer_stands fakeIPRange_proper serverRules_coded
    (run_nil _) hafter (Option.some.inj houtputs) hfuture hearly).1⟩

/-! ## Queries that were sent on -/

/-- The event has nothing to do with the number of a query. -/
def Quiet (transactionID : BitVec 16) : DNSEvent → Prop
  | .lookup other _ _ => other ≠ transactionID
  | .didReceive message => message.transactionID ≠ transactionID
  | _ => True

/-- Every clean up scheduled for the query is due at a time or later. -/
def NotBefore (server : DNSServer) (transactionID : BitVec 16) (deadline : Nat) : Prop :=
  ∀ timer ∈ server.timers, timer.cleanUp = .pendingSession transactionID →
    deadline ≤ timer.deadline

theorem NotBefore.append {server after : DNSServer} {transactionID : BitVec 16}
    {deadline : Nat} {timer : Timer} (h : NotBefore server transactionID deadline)
    (htimers : after.timers = server.timers ++ [timer])
    (hnew : timer.cleanUp = .pendingSession transactionID → deadline ≤ timer.deadline) :
    NotBefore after transactionID deadline := by
  intro other hmem hother
  rw [htimers] at hmem
  rcases List.mem_append.mp hmem with hold | hlast
  · exact h other hold hother
  · rw [List.mem_singleton.mp hlast] at hother ⊢
    exact hnew hother

/-- What has nothing to do with a query leaves it waiting. -/
theorem step_quiet {server after : DNSServer} {event : DNSEvent} {transactionID : BitVec 16}
    {deadline : Nat} (hwaits : Waits manager server) (hcoded : manager.CountriesCoded)
    (hquiet : Quiet transactionID event) (hstep : step ip manager server event = some after)
    (hdue : NotBefore server transactionID deadline) (hearly : server.now < deadline) :
    after.pendingSessions.get transactionID = server.pendingSessions.get transactionID ∧
      NotBefore after transactionID deadline := by
  cases event with
  | wait nanoseconds =>
      cases hstep
      exact ⟨rfl, hdue⟩
  | lookup other name typeA =>
      have hother : transactionID ≠ other := fun heq => hquiet heq.symm
      rcases lookup_cases hstep with rfl | ⟨session, -, hid, -, rfl⟩ |
        ⟨session, mid, address, hfound, -, hset, rfl⟩
      · exact ⟨rfl, hdue⟩
      · rw [← hid] at hother
        have hkept : (server.lookupRemotely session).pendingSessions.get transactionID =
            server.pendingSessions.get transactionID := by
          rw [lookupRemotely_pending, Dict.get_set_of_ne _ _ hother]
        refine ⟨hkept, hdue.append rfl ?_⟩
        intro heq
        exact absurd (CleanUp.pendingSession.inj heq).symm hother
      · obtain ⟨-, hpending, htimers⟩ := setUpFakeIP_some hset hfound
        refine ⟨congrArg (Dict.get · transactionID) hpending, ?_⟩
        exact hdue.append htimers fun heq => by cases heq
  | didReceive message =>
      have hother : transactionID ≠ message.transactionID := fun heq => hquiet heq.symm
      rcases didReceive_cases hwaits hcoded hstep with ⟨-, rfl⟩ | ⟨waiting, session, -, -, hafter⟩
      · exact ⟨rfl, hdue⟩
      · have hkept : (server.pendingSessions.set message.transactionID none).get transactionID =
            server.pendingSessions.get transactionID := Dict.get_set_of_ne _ _ hother
        rcases hafter with rfl | rfl | ⟨mid, address, hfound, hset, rfl⟩
        · exact ⟨hkept, hdue⟩
        · exact ⟨hkept, hdue⟩
        · obtain ⟨-, hpending, htimers⟩ := setUpFakeIP_some hset hfound
          refine ⟨?_, hdue.append htimers fun heq => by cases heq⟩
          exact (congrArg (Dict.get · transactionID) hpending).trans hkept
  | fire index =>
      obtain ⟨timer, htimer, hfire⟩ := Option.bind_eq_some_iff.mp hstep
      have hmem : timer ∈ server.timers := List.mem_of_getElem? htimer
      by_cases hlate : timer.deadline ≤ server.now
      · simp only [if_pos hlate, Option.some.injEq] at hfire
        subst hfire
        have hrest : NotBefore { server with timers := server.timers.eraseIdx index }
            transactionID deadline :=
          fun other hother => hdue other (List.mem_of_mem_eraseIdx hother)
        cases hwhat : timer.cleanUp with
        | fakeIP address => exact ⟨rfl, hrest⟩
        | pendingSession other =>
            have hother : transactionID ≠ other := by
              intro heq
              have hdeadline := hdue timer hmem (by rw [hwhat, heq])
              omega
            have hkept : (server.pendingSessions.set other none).get transactionID =
                server.pendingSessions.get transactionID := Dict.get_set_of_ne _ _ hother
            exact ⟨hkept, hrest⟩
      · simp [hlate] at hfire

theorem run_quiet {server after : DNSServer} {events : List DNSEvent}
    {transactionID : BitVec 16} {deadline : Nat} (h : Leases ip manager server)
    (hcoded : manager.CountriesCoded) (hquiet : ∀ event ∈ events, Quiet transactionID event)
    (hrun : run (step ip manager) server events = some after)
    (hdue : NotBefore server transactionID deadline) (hearly : after.now < deadline) :
    after.pendingSessions.get transactionID = server.pendingSessions.get transactionID := by
  induction events generalizing server with
  | nil =>
      cases hrun
      rfl
  | cons event events ih =>
      obtain ⟨mid, hmid, hrest⟩ := run_cons_some hrun
      have hleases := step_leases h hcoded hmid
      have hforward := run_now hleases hcoded hrest
      have hnow := step_now h.waits hcoded hmid
      obtain ⟨hkept, hdue'⟩ := step_quiet h.waits hcoded (hquiet event List.mem_cons_self) hmid
        hdue (by omega)
      have hrest' := ih hleases (fun e he => hquiet e (List.mem_cons_of_mem _ he)) hrest hdue'
      exact hrest'.trans hkept

/-- How long a query may wait. -/
def pendingTime : Nat :=
  Opt.DNSPendingSessionLifeTime * NSEC_PER_SEC

/-- **Waiting.**  A query that was sent on waits for its response as long as it may,
if no clean up of an earlier query of its number is still to come, and no other query
takes the number. -/
theorem pending_kept {range : IPRange} (hproper : range.Proper)
    (hcoded : manager.CountriesCoded) {past events : List DNSEvent}
    {before after later : DNSServer} {transactionID : BitVec 16} {name : Text} {typeA : Bool}
    {session : DNSSession}
    (hpast : run (step ip manager) (init (some (IPPool.init range))) past = some before)
    (hclear : NotBefore before transactionID (before.now + pendingTime))
    (hstep : step ip manager before (.lookup transactionID name typeA) = some after)
    (hsent : after.outputs = before.outputs ++ [.query session])
    (hquiet : ∀ event ∈ events, Quiet transactionID event)
    (hrun : run (step ip manager) after events = some later)
    (hearly : later.now < before.now + pendingTime) :
    later.pendingSessions.get transactionID = some session ∧ session.name = name := by
  have hbefore := (run_leases hproper hcoded hpast).1
  have hafter := step_leases hbefore hcoded hstep
  rcases lookup_cases hstep with rfl | ⟨waiting, -, hid, hname, rfl⟩ |
    ⟨other, mid, address, hfound, -, hset, rfl⟩
  · simp at hsent
  · have hsame : waiting = session := by
      simpa [lookupRemotely, asyncAfter] using hsent
    subst hsame
    have hdue : NotBefore (before.lookupRemotely waiting) transactionID
        (before.now + pendingTime) :=
      hclear.append rfl fun _ => Nat.le_refl _
    refine ⟨?_, hname⟩
    rw [run_quiet hafter hcoded hquiet hrun hdue hearly, lookupRemotely_pending, hid,
      Dict.get_set_self]
  · have houtputs := (setUpFakeIP_some hset hfound).1.outputs.symm.trans hsent
    simp at houtputs

/-- A query, another one after it, and almost ten seconds. -/
theorem pending_kept_first :
    ∃ later, run (step unaryText serverRules) (init (some (IPPool.init fakeIPRange)))
        [.lookup 7 (text "a") false, .lookup 8 (text "b") false, .wait 9999999999] =
          some later ∧
      later.pendingSessions.get 7 =
        some { DNSSession.init 7 (text "a") false with matchResult := some .real } := by
  obtain ⟨after, hafter⟩ : ∃ after, step unaryText serverRules
      (init (some (IPPool.init fakeIPRange))) (.lookup 7 (text "a") false) = some after :=
    Option.isSome_iff_exists.mp (by decide)
  obtain ⟨later, hlater⟩ : ∃ later, run (step unaryText serverRules)
      (init (some (IPPool.init fakeIPRange)))
        [.lookup 7 (text "a") false, .lookup 8 (text "b") false, .wait 9999999999] =
          some later :=
    Option.isSome_iff_exists.mp (by decide)
  have hnow : (run (step unaryText serverRules) (init (some (IPPool.init fakeIPRange)))
      [.lookup 7 (text "a") false, .lookup 8 (text "b") false, .wait 9999999999]).map
        DNSServer.now = some 9999999999 := by decide
  have houtputs : (step unaryText serverRules (init (some (IPPool.init fakeIPRange)))
      (.lookup 7 (text "a") false)).map DNSServer.outputs =
        some [.query
          { DNSSession.init 7 (text "a") false with matchResult := some .real }] := by decide
  rw [hlater] at hnow
  rw [hafter] at houtputs
  have hfuture := (run_cons hafter).symm.trans hlater
  have hearly : later.now < 0 + pendingTime := by
    rw [Option.some.inj hnow]
    decide
  have hquiet : ∀ event ∈ [DNSEvent.lookup 8 (text "b") false, .wait 9999999999],
      Quiet 7 event := by
    intro event hevent
    rcases List.mem_cons.mp hevent with rfl | hevent
    · show (8 : BitVec 16) ≠ 7
      decide
    · rw [List.mem_singleton.mp hevent]
      trivial
  have hclear : NotBefore (init (some (IPPool.init fakeIPRange))) 7 (0 + pendingTime) := by
    intro timer htimer
    cases htimer
  exact ⟨later, hlater, (pending_kept fakeIPRange_proper serverRules_coded
    (run_nil _) hclear hafter (Option.some.inj houtputs) hquiet hfuture hearly).1⟩

-- The clean up of an earlier query of the same number, answered long ago, drops a query
-- that has waited for a tenth of a second.
example : (run (step unaryText serverRules) (init (some (IPPool.init fakeIPRange)))
    [.lookup 7 (text "a") false,
      .didReceive { transactionID := 7, resolvedIPv4Address := none, payload := [] },
      .wait 9900000000, .lookup 7 (text "b") false, .wait 100000000, .fire 0]).map
        (fun server => server.pendingSessions.get 7) = some none := by decide

end DNSServer

end QLadder
