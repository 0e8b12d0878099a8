import QLadder.NEKitRules

/-!
# Matching a name before it is resolved

With packet processing the rules are asked twice: first about a DNS query, and
later about the connection that follows it.  `matchDNS` goes through them with
the name alone, stops at the first one that cannot tell without an address, and
goes on from there once the query has been resolved.  If the answer is a fake
address, the rule that was found stays with it.

* `matchDNS_domain`, `matchDNS_ip` — what the two rounds leave behind;
* `Found.routed` — a connection to the fake address gets an adapter, and it is
  the one that the first rule to match the connection asks for.
-/

namespace QLadder

/-- What the C library and the country database say about addresses. -/
structure IPText where
  ipSyntax : IPSyntax
  /-- `presentation`, by `inet_ntop` -/
  presentation : IPAddress → Text
  /-- `GeoIP.LookUp`, the ISO code -/
  isoCode : Text → Option Text
  /-- `inet_pton` reads what `inet_ntop` writes -/
  address_presentation : ∀ address, ipSyntax.address (presentation address) = some address
  /-- the empty text is no address -/
  address_empty : ipSyntax.address [] = none

/-- The digit of the unary system. -/
def unit : Character :=
  { scalars := ['1'], nonempty := List.cons_ne_nil '1' [] }

theorem scalarsOf_text_append (literal : String) (digits : Nat) :
    scalarsOf (text literal ++ List.replicate digits unit) =
      literal.toList ++ List.replicate digits '1' := by
  have hliteral : (text literal).flatMap Character.scalars = literal.toList := by
    simp [text, List.flatMap_map]
  have hdigits : (List.replicate digits unit).flatMap Character.scalars =
      List.replicate digits '1' := by
    simp [List.flatMap_replicate, unit]
  rw [scalarsOf, List.flatMap_append, hliteral, hdigits]

/-- Addresses in the unary system: the empty text is none, as in any other. -/
def unaryText : IPText :=
  { ipSyntax :=
      { inAddr := fun
          | '4' :: digits => some (BitVec.ofNat 32 digits.length)
          | _ => none
        in6Addr := fun
          | [] => none
          | _ :: digits => some (BitVec.ofNat 128 digits.length) }
    presentation := fun
      | .IPv4 address => text "4" ++ List.replicate address.toNat unit
      | .IPv6 address => text "6" ++ List.replicate address.toNat unit
    isoCode := fun _ => none
    address_presentation := by
      intro address
      cases address <;>
        simp [IPSyntax.address, IPSyntax.fromScalars, scalarsOf_text_append]
    address_empty := rfl }

/-- An empty literal. -/
theorem text_empty : text "" = [] :=
  rfl

inductive DNSSessionMatchResult where
  | real
  | fake
  | unknown
  | pass
  deriving DecidableEq, Repr

inductive DNSSessionMatchType where
  | domain
  | ip
  deriving DecidableEq, Repr

/-- A `DNSSession`: the question, and what has been found out about it. -/
structure DNSSession where
  transactionID : BitVec 16
  /-- the name of its one query -/
  name : Text
  /-- the query asks for an `A` record -/
  typeA : Bool
  realIP : Option IPAddress
  fakeIP : Option IPAddress
  matchedRule : Option Rule
  matchResult : Option DNSSessionMatchResult
  indexToMatch : Nat
  deriving DecidableEq, Repr

namespace DNSSession

/-- A new session for a query. -/
def init (transactionID : BitVec 16) (name : Text) (typeA : Bool) : DNSSession :=
  { transactionID := transactionID, name := name, typeA := typeA, realIP := none,
    fakeIP := none, matchedRule := none, matchResult := none, indexToMatch := 0 }

end DNSSession

section

variable (ip : IPText)

/-- `Utils.GeoIPLookup.Lookup`. -/
def geoIPLookup (ipAddress : Text) : Option Text :=
  if (ip.ipSyntax.address ipAddress).isSome then
    some ((ip.isoCode ipAddress).getD (text "--"))
  else
    none

/-- `countryCode`: it is read after `realIP` has been set for good. -/
def DNSSession.countryCode (session : DNSSession) : Option Text :=
  session.realIP.bind fun realIP => geoIPLookup ip (ip.presentation realIP)

/-- The answer of a rule that decides: real if it connects directly. -/
def AdapterFactory.matchResult : AdapterFactory → DNSSessionMatchResult
  | .direct => .real
  | .shadowsocks _ => .fake

/-- `Rule.matchDNS`. -/
def Rule.matchDNS (session : DNSSession) (type : DNSSessionMatchType) :
    Rule → DNSSessionMatchResult
  | .domainList adapterFactory criteria =>
      if criteria.any fun criterion => criterion.matchDomain session.name then
        adapterFactory.matchResult
      else
        .pass
  | .ipRangeList _ ranges =>
      if type = .ip then
        match session.realIP with
        | none => .pass
        | some realIP => if ranges.any fun range => range.contains realIP then .fake else .pass
      else
        .unknown
  | .country countryCode onMatch adapterFactory =>
      if type = .ip then
        if (session.countryCode ip != some countryCode) != onMatch then
          adapterFactory.matchResult
        else
          .pass
      else
        .unknown
  | .dnsFail adapterFactory =>
      if type = .ip then
        if session.realIP = none then adapterFactory.matchResult else .pass
      else
        .unknown
  | .all adapterFactory => adapterFactory.matchResult

namespace RuleManager

/-- The loop of `matchDNS`, over the rules from an index on. -/
def matchDNSRules (type : DNSSessionMatchType) (session : DNSSession) :
    List Rule → Nat → DNSSession
  | [], _ => session
  | rule :: rules, i =>
      match rule.matchDNS ip session type with
      | .pass => matchDNSRules type session rules (i + 1)
      | result =>
          { session with
            matchedRule := some rule, matchResult := some result, indexToMatch := i }

/-- `RuleManager.matchDNS`, with the session it leaves. -/
def matchDNS (manager : RuleManager) (session : DNSSession) (type : DNSSessionMatchType) :
    DNSSession :=
  matchDNSRules ip type session (manager.rules.drop session.indexToMatch)
    session.indexToMatch

end RuleManager

/-- The connect session for a fake address, as `lookupRealIP` leaves it. -/
def DNSSession.connectSession (session : DNSSession) : ConnectSession :=
  let ipAddress := (session.realIP.map ip.presentation).getD (text "")
  { host := session.name, ipAddress := ipAddress,
    country := (session.countryCode ip).getD ((geoIPLookup ip ipAddress).getD (text "")),
    matchedRule := session.matchedRule }

/-! ## The two rounds -/

/-- The rule asks for the name only, and the name is not one of its own. -/
def Rule.PassesByName (name : Text) : Rule → Prop
  | .domainList _ criteria => ∀ criterion ∈ criteria, criterion.matchDomain name = false
  | _ => False

/-- No country rule is for a country without a code. -/
def RuleManager.CountriesCoded (manager : RuleManager) : Prop :=
  ∀ rule ∈ manager.rules, ∀ onMatch adapterFactory,
    rule ≠ .country (text "") onMatch adapterFactory

variable {ip}

theorem AdapterFactory.matchResult_ne_pass (adapterFactory : AdapterFactory) :
    adapterFactory.matchResult ≠ .pass ∧ adapterFactory.matchResult ≠ .unknown := by
  cases adapterFactory <;> simp [matchResult]

/-- In the first round only a list of domains passes. -/
theorem Rule.passesByName_of_domain {rule : Rule} {session : DNSSession}
    (h : rule.matchDNS ip session .domain = .pass) : rule.PassesByName session.name := by
  cases rule with
  | domainList adapterFactory criteria =>
      intro criterion hmem
      cases hany : criteria.any fun criterion => criterion.matchDomain session.name with
      | true =>
          simp only [matchDNS, hany, if_true] at h
          exact absurd h adapterFactory.matchResult_ne_pass.1
      | false =>
          have hall := List.any_eq_false.mp hany criterion hmem
          simpa using hall
  | ipRangeList adapterFactory ranges => simp [matchDNS] at h
  | country countryCode onMatch adapterFactory => simp [matchDNS] at h
  | dnsFail adapterFactory => simp [matchDNS] at h
  | all adapterFactory => exact absurd h adapterFactory.matchResult_ne_pass.1

/-- What passes by name does not match a connection to that name. -/
theorem Rule.PassesByName.matchSession {rule : Rule} {session : ConnectSession}
    (h : rule.PassesByName session.host) :
    rule.matchSession ip.ipSyntax session = none := by
  cases rule with
  | domainList adapterFactory criteria =>
      have hnone : (criteria.any fun criterion => criterion.matchDomain session.host) = false :=
        List.any_eq_false.mpr fun criterion hmem => by simp [h criterion hmem]
      simp [Rule.matchSession, hnone]
  | ipRangeList adapterFactory ranges => exact h.elim
  | country countryCode onMatch adapterFactory => exact h.elim
  | dnsFail adapterFactory => exact h.elim
  | all adapterFactory => exact h.elim

/-- A rule that decides by name matches a connection to that name. -/
theorem Rule.matchSession_of_domain {rule : Rule} {session : DNSSession}
    (hpass : rule.matchDNS ip session .domain ≠ .pass)
    (hunknown : rule.matchDNS ip session .domain ≠ .unknown) (connect : ConnectSession)
    (hhost : connect.host = session.name) :
    (rule.matchSession ip.ipSyntax connect).isSome = true := by
  cases rule with
  | domainList adapterFactory criteria =>
      cases hany : criteria.any fun criterion => criterion.matchDomain session.name with
      | true => simp [Rule.matchSession, hhost, hany]
      | false => simp [matchDNS, hany] at hpass
  | ipRangeList adapterFactory ranges => simp [matchDNS] at hunknown
  | country countryCode onMatch adapterFactory => simp [matchDNS] at hunknown
  | dnsFail adapterFactory => simp [matchDNS] at hunknown
  | all adapterFactory => rfl

section

variable (ip) (session : DNSSession)

/-- The address of a connection to the fake address, once there is one. -/
theorem DNSSession.connectSession_address :
    ip.ipSyntax.address (session.connectSession ip).ipAddress = session.realIP := by
  cases hreal : session.realIP with
  | none => simp [connectSession, hreal, text_empty, ip.address_empty]
  | some realIP => simp [connectSession, hreal, ip.address_presentation]

/-- It is empty if the name could not be resolved, and only then. -/
theorem DNSSession.connectSession_empty :
    (session.connectSession ip).ipAddress = text "" ↔ session.realIP = none := by
  have haddress := session.connectSession_address ip
  constructor
  · intro hempty
    rw [hempty, text_empty, ip.address_empty] at haddress
    exact haddress.symm
  · intro hnone
    simp [connectSession, hnone]

/-- The country of the connection, compared with a code, is that of the session. -/
theorem DNSSession.connectSession_country {countryCode : Text} (hcode : countryCode ≠ text "") :
    ((session.connectSession ip).country = countryCode ↔
      session.countryCode ip = some countryCode) := by
  cases hreal : session.realIP with
  | none =>
      have hnone : session.countryCode ip = none := by simp [DNSSession.countryCode, hreal]
      have hempty : (session.connectSession ip).country = text "" := by
        simp [connectSession, hnone, hreal, geoIPLookup, text_empty, ip.address_empty]
      rw [hnone, hempty]
      constructor
      · intro heq
        exact absurd heq.symm hcode
      · intro heq
        cases heq
  | some realIP =>
      have hsome : ∃ code, session.countryCode ip = some code := by
        simp [DNSSession.countryCode, hreal, geoIPLookup, ip.address_presentation]
      obtain ⟨code, hcountry⟩ := hsome
      have hconnect : (session.connectSession ip).country = code := by
        simp [connectSession, hcountry]
      rw [hcountry, hconnect, Option.some.injEq]

end

/-- With the address known, no rule asks for more. -/
theorem Rule.matchDNS_ip_ne_unknown (rule : Rule) (session : DNSSession) :
    rule.matchDNS ip session .ip ≠ .unknown := by
  cases rule with
  | domainList adapterFactory criteria =>
      have hne := adapterFactory.matchResult_ne_pass.2
      simp only [matchDNS]
      split <;> simp [hne]
  | ipRangeList adapterFactory ranges =>
      cases hreal : session.realIP with
      | none => simp [matchDNS, hreal]
      | some realIP =>
          simp only [matchDNS, hreal, if_true]
          split <;> simp
  | country countryCode onMatch adapterFactory =>
      have hne := adapterFactory.matchResult_ne_pass.2
      simp only [matchDNS, if_true]
      split <;> simp [hne]
  | dnsFail adapterFactory =>
      have hne := adapterFactory.matchResult_ne_pass.2
      simp only [matchDNS, if_true]
      split <;> simp [hne]
  | all adapterFactory => exact adapterFactory.matchResult_ne_pass.2

/-- **The second round.**  A rule passes if and only if it does not match a
connection to the fake address. -/
theorem Rule.matchDNS_ip_pass_iff {rule : Rule} (session : DNSSession)
    (hcountry : ∀ onMatch adapterFactory, rule ≠ .country (text "") onMatch adapterFactory) :
    rule.matchDNS ip session .ip = .pass ↔
      rule.matchSession ip.ipSyntax (session.connectSession ip) = none := by
  cases rule with
  | domainList adapterFactory criteria =>
      have hne := adapterFactory.matchResult_ne_pass.1
      have hhost : (session.connectSession ip).host = session.name := rfl
      cases hany : criteria.any fun criterion => criterion.matchDomain session.name <;>
        simp [matchDNS, Rule.matchSession, hhost, hany, hne]
  | ipRangeList adapterFactory ranges =>
      have haddress := session.connectSession_address ip
      cases hreal : session.realIP with
      | none => simp [matchDNS, Rule.matchSession, haddress, hreal]
      | some realIP =>
          cases hany : ranges.any fun range => range.contains realIP <;>
            simp [matchDNS, Rule.matchSession, haddress, hreal, hany]
  | country countryCode onMatch adapterFactory =>
      have hne := adapterFactory.matchResult_ne_pass.1
      have hcode : countryCode ≠ text "" := by
        intro heq
        exact hcountry onMatch adapterFactory (by rw [heq])
      have hcompare : ((session.connectSession ip).country != countryCode) =
          (session.countryCode ip != some countryCode) := by
        rw [Bool.eq_iff_iff, bne_iff_ne, bne_iff_ne]
        exact not_congr (session.connectSession_country ip hcode)
      simp only [matchDNS, Rule.matchSession, if_true, hcompare]
      split <;> simp [hne]
  | dnsFail adapterFactory =>
      have hne := adapterFactory.matchResult_ne_pass.1
      have hempty := session.connectSession_empty ip
      simp only [matchDNS, Rule.matchSession, if_true, hempty]
      split <;> simp [hne]
  | all adapterFactory => simp [matchDNS, Rule.matchSession, adapterFactory.matchResult_ne_pass.1]

variable (ip) in
/-- The first rule that does not pass is written down. -/
theorem RuleManager.matchDNSRules_eq (type : DNSSessionMatchType) (session : DNSSession)
    (rules : List Rule) (i : Nat) :
    ((∀ rule ∈ rules, rule.matchDNS ip session type = .pass) ∧
        matchDNSRules ip type session rules i = session) ∨
      ∃ before rule after, rules = before ++ rule :: after ∧
        (∀ r ∈ before, r.matchDNS ip session type = .pass) ∧
        rule.matchDNS ip session type ≠ .pass ∧
        matchDNSRules ip type session rules i =
          { session with
            matchedRule := some rule, matchResult := some (rule.matchDNS ip session type),
            indexToMatch := i + before.length } := by
  induction rules generalizing i with
  | nil => exact Or.inl ⟨by simp, rfl⟩
  | cons rule rules ih =>
      by_cases hpass : rule.matchDNS ip session type = .pass
      · have hnext : matchDNSRules ip type session (rule :: rules) i =
            matchDNSRules ip type session rules (i + 1) := by
          simp only [matchDNSRules, hpass]
        rw [hnext]
        rcases ih (i + 1) with ⟨hall, hsame⟩ | ⟨before, found, after, hrules, hall, hfound, hsame⟩
        · exact Or.inl ⟨List.forall_mem_cons.mpr ⟨hpass, hall⟩, hsame⟩
        · refine Or.inr ⟨rule :: before, found, after, by rw [hrules]; rfl,
            List.forall_mem_cons.mpr ⟨hpass, hall⟩, hfound, ?_⟩
          have hindex : i + 1 + before.length = i + (rule :: before).length := by
            rw [List.length_cons]
            omega
          rw [hsame, hindex]
      · refine Or.inr ⟨[], rule, rules, rfl, by simp, hpass, ?_⟩
        cases hresult : rule.matchDNS ip session type with
        | pass => exact absurd hresult hpass
        | real => simp [matchDNSRules, hresult]
        | fake => simp [matchDNSRules, hresult]
        | unknown => simp [matchDNSRules, hresult]

namespace DNSSession

variable (ip) (manager : RuleManager)

/-- The rule written down is the first one that matches a connection to the fake
address. -/
def Found (session : DNSSession) : Prop :=
  ∃ before rule after, manager.rules = before ++ rule :: after ∧
    session.matchedRule = some rule ∧
    (∀ r ∈ before, r.matchSession ip.ipSyntax (session.connectSession ip) = none) ∧
    (rule.matchSession ip.ipSyntax (session.connectSession ip)).isSome = true

/-- The rules before the one written down will not match, whatever the address. -/
def Waiting (session : DNSSession) : Prop :=
  ∃ before after, manager.rules = before ++ after ∧ session.indexToMatch = before.length ∧
    ∀ r ∈ before, r.PassesByName session.name

variable {ip manager}

/-- **Routing.**  A connection to the fake address gets an adapter, the one that
matching it against all rules gives. -/
theorem Found.routed {session : DNSSession} (h : session.Found ip manager) :
    ∃ adapterFactory,
      manager.matchSession ip.ipSyntax (session.connectSession ip) =
        (some adapterFactory, session.connectSession ip) ∧
      (manager.matchSession ip.ipSyntax
        { session.connectSession ip with matchedRule := none }).1 = some adapterFactory := by
  obtain ⟨before, rule, after, hrules, hmatched, hbefore, hrule⟩ := h
  obtain ⟨adapterFactory, hadapter⟩ := Option.isSome_iff_exists.mp hrule
  refine ⟨adapterFactory, ?_, ?_⟩
  · have hconnect : (session.connectSession ip).matchedRule = some rule := hmatched
    simp only [RuleManager.matchSession, hconnect, hadapter]
  · have hforget : ∀ r : Rule, r.matchSession ip.ipSyntax
        { session.connectSession ip with matchedRule := none } =
          r.matchSession ip.ipSyntax (session.connectSession ip) := by
      intro r
      cases r <;> rfl
    have hnone : before.findSome? (Rule.matchSession ip.ipSyntax
        { session.connectSession ip with matchedRule := none }) = none := by
      apply List.findSome?_eq_none_iff.mpr
      intro r hr
      rw [hforget, hbefore r hr]
    simp only [RuleManager.matchSession]
    rw [RuleManager.matchRules_fst, hrules, List.findSome?_append, hnone, Option.none_or,
      List.findSome?_cons, hforget, hadapter]

variable (ip manager) in
/-- The first round, for a new session. -/
theorem matchDNS_domain {session : DNSSession} (hindex : session.indexToMatch = 0)
    (hresult : session.matchResult = none) :
    let after := manager.matchDNS ip session .domain
    after.name = session.name ∧ after.transactionID = session.transactionID ∧
      (after.matchResult = none ∨
        (after.matchResult = some .unknown ∧ after.Waiting manager) ∨
        ((after.matchResult = some .real ∨ after.matchResult = some .fake) ∧
          after.Found ip manager)) := by
  simp only [RuleManager.matchDNS, hindex, List.drop_zero]
  rcases RuleManager.matchDNSRules_eq ip .domain session manager.rules 0 with
    ⟨-, hsame⟩ | ⟨before, rule, after, hrules, hbefore, hpass, hsame⟩
  · rw [hsame]
    exact ⟨rfl, rfl, Or.inl hresult⟩
  · rw [hsame]
    have hnames : ∀ r ∈ before, r.PassesByName session.name :=
      fun r hr => Rule.passesByName_of_domain (hbefore r hr)
    refine ⟨rfl, rfl, Or.inr ?_⟩
    by_cases hunknown : rule.matchDNS ip session .domain = .unknown
    · refine Or.inl ⟨congrArg some hunknown, before, rule :: after, hrules, by simp, hnames⟩
    · refine Or.inr ⟨?_, before, rule, after, hrules, rfl,
        fun r hr => (hnames r hr).matchSession,
        Rule.matchSession_of_domain hpass hunknown _ rfl⟩
      cases hdecided : rule.matchDNS ip session .domain with
      | real => exact Or.inl rfl
      | fake => exact Or.inr rfl
      | unknown => exact absurd hdecided hunknown
      | pass => exact absurd hdecided hpass

variable (ip) in
/-- The second round, for a session that waited for its address. -/
theorem Waiting.matchDNS_ip {session : DNSSession} (h : session.Waiting manager)
    (hcoded : manager.CountriesCoded) :
    let after := manager.matchDNS ip session .ip
    after.name = session.name ∧ after.transactionID = session.transactionID ∧
      (after = session ∨
        ((after.matchResult = some .real ∨ after.matchResult = some .fake) ∧
          after.Found ip manager)) := by
  obtain ⟨passed, left, hrules, hindex, hpassed⟩ := h
  have hleft : manager.rules.drop session.indexToMatch = left := by
    rw [hrules, hindex, List.drop_left]
  simp only [RuleManager.matchDNS, hleft]
  rcases RuleManager.matchDNSRules_eq ip .ip session left session.indexToMatch with
    ⟨-, hsame⟩ | ⟨before, rule, after, hsplit, hbefore, hpass, hsame⟩
  · rw [hsame]
    exact ⟨rfl, rfl, Or.inl rfl⟩
  · rw [hsame]
    have hpassIff : ∀ r ∈ left, r.matchDNS ip session .ip = .pass ↔
        r.matchSession ip.ipSyntax (session.connectSession ip) = none := by
      intro r hr
      have hmem : r ∈ manager.rules := by
        rw [hrules]
        exact List.mem_append_right passed hr
      exact Rule.matchDNS_ip_pass_iff session (hcoded r hmem)
    -- only the rule written down is new in the connection
    have hconnect : ∀ (r found : Rule) (result : DNSSessionMatchResult) (index : Nat),
        r.matchSession ip.ipSyntax (DNSSession.connectSession ip
          { session with
            matchedRule := some found, matchResult := some result, indexToMatch := index }) =
          r.matchSession ip.ipSyntax (session.connectSession ip) := by
      intro r found result index
      cases r <;> rfl
    refine ⟨rfl, rfl, Or.inr ⟨?_, passed ++ before, rule, after, ?_, rfl, ?_, ?_⟩⟩
    · cases hdecided : rule.matchDNS ip session .ip with
      | real => exact Or.inl rfl
      | fake => exact Or.inr rfl
      | unknown => exact absurd hdecided (rule.matchDNS_ip_ne_unknown session)
      | pass => exact absurd hdecided hpass
    · rw [hrules, hsplit, List.append_assoc]
    · intro r hr
      rw [hconnect]
      rcases List.mem_append.mp hr with hr | hr
      · exact Rule.PassesByName.matchSession (hpassed r hr)
      · have hmem : r ∈ left := by
          rw [hsplit]
          exact List.mem_append_left _ hr
        exact (hpassIff r hmem).mp (hbefore r hr)
    · have hmem : rule ∈ left := by
        rw [hsplit]
        exact List.mem_append_right before List.mem_cons_self
      rw [hconnect, Option.isSome_iff_ne_none]
      exact fun hnone => hpass ((hpassIff rule hmem).mpr hnone)

end DNSSession

end

end QLadder
