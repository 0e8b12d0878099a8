import QLadder.Foundation
import QLadder.ProviderConfiguration

/-!
# NEKit's rules

A `RuleManager` asks its rules in list order for an adapter and takes the
first answer.  Texts are lists of Swift's `Character`s here, since prefixes,
suffixes and slices go by `Character`.

What the text of an address stands for is a parameter (`IPSyntax`):
`IPAddress(fromString:)` asks the C library, which reads the scalars.
-/

namespace QLadder

/-- A `Character`: the scalars of its canonical decomposition, which is what two
equal characters have in common. -/
structure Character where
  scalars : List Char
  nonempty : scalars ≠ []
  deriving DecidableEq, Repr

/-- A `String`, as its characters. -/
abbrev Text := List Character

/-- The scalars of a text. -/
def scalarsOf (t : Text) : List Char :=
  t.flatMap Character.scalars

/-- The text of a literal. -/
def text (literal : String) : Text :=
  literal.toList.map fun c => { scalars := [c], nonempty := List.cons_ne_nil c [] }

/-- The adapter factories that `startTunnel` makes. -/
inductive AdapterFactory where
  | direct
  | shadowsocks (factory : ShadowsocksAdapterFactory)
  deriving DecidableEq, Repr

/-! ## Addresses -/

inductive Family where
  | IPv4
  | IPv6
  deriving DecidableEq, Repr

/-- An address, read as a number. -/
inductive IPAddress where
  | IPv4 (address : BitVec 32)
  | IPv6 (address : BitVec 128)
  deriving DecidableEq, Repr

def IPAddress.family : IPAddress → Family
  | .IPv4 _ => .IPv4
  | .IPv6 _ => .IPv6

/-- `lhs < rhs`: an IPv4 address is smaller than an IPv6 address. -/
def IPAddress.less : IPAddress → IPAddress → Bool
  | .IPv4 lhs, .IPv4 rhs => lhs < rhs
  | .IPv6 lhs, .IPv6 rhs => lhs < rhs
  | .IPv4 _, .IPv6 _ => true
  | .IPv6 _, .IPv4 _ => false

/-- An `IPRange`; its initializer throws if the two ends do not fit. -/
structure IPRange where
  startIP : IPAddress
  endIP : IPAddress
  compatible : startIP.family = endIP.family
  ordered : endIP.less startIP = false
  deriving DecidableEq, Repr

def IPRange.contains (range : IPRange) (ip : IPAddress) : Bool :=
  if ip.family = range.startIP.family then
    !ip.less range.startIP && !range.endIP.less ip
  else
    false

/-- The C library's reading of addresses, `inet_pton`. -/
structure IPSyntax where
  /-- for `AF_INET` -/
  inAddr : List Char → Option (BitVec 32)
  /-- for `AF_INET6` -/
  in6Addr : List Char → Option (BitVec 128)

namespace IPSyntax

/-- `IPAddress(fromString:)`, for the scalars of a text. -/
def fromScalars (ip : IPSyntax) (string : List Char) : Option IPAddress :=
  match ip.inAddr string with
  | some addr => some (.IPv4 addr)
  | none => (ip.in6Addr string).map .IPv6

/-- `IPAddress(fromString:)`. -/
def address (ip : IPSyntax) (string : Text) : Option IPAddress :=
  ip.fromScalars (scalarsOf string)

end IPSyntax

/-! ## Rules -/

/-- `DomainListRule.MatchCriterion`, as far as `startTunnel` makes any. -/
inductive MatchCriterion where
  | startsWith (start : Text)
  | endsWith (ending : Text)
  | keyword (word : Text)
  deriving DecidableEq, Repr

/-- `MatchCriterion.match`. -/
def MatchCriterion.matchDomain (domain : Text) : MatchCriterion → Bool
  | .startsWith start => start.isPrefixOf domain
  | .endsWith ending => ending.isSuffixOf domain
  | .keyword word => Foundation.contains domain word

inductive Rule where
  | domainList (adapterFactory : AdapterFactory) (criteria : List MatchCriterion)
  | ipRangeList (adapterFactory : AdapterFactory) (ranges : List IPRange)
  | country (countryCode : Text) (onMatch : Bool) (adapterFactory : AdapterFactory)
  | dnsFail (adapterFactory : AdapterFactory)
  | all (adapterFactory : AdapterFactory)
  deriving DecidableEq, Repr

/-- `DirectRule()`. -/
def Rule.directRule : Rule := .all .direct

/-- A connect session, with its resolved address and its country. -/
structure ConnectSession where
  host : Text
  ipAddress : Text
  country : Text
  matchedRule : Option Rule
  deriving DecidableEq, Repr

section Match

variable (ip : IPSyntax)

/-- `Rule.match`. -/
def Rule.matchSession (session : ConnectSession) : Rule → Option AdapterFactory
  | .domainList adapterFactory criteria =>
      if criteria.any fun criterion => criterion.matchDomain session.host then
        some adapterFactory
      else
        none
  | .ipRangeList adapterFactory ranges =>
      match ip.address session.ipAddress with
      | none => none
      | some address =>
          if ranges.any fun range => range.contains address then some adapterFactory
          else none
  | .country countryCode onMatch adapterFactory =>
      if (session.country != countryCode) != onMatch then some adapterFactory else none
  | .dnsFail adapterFactory =>
      if session.ipAddress = text "" then some adapterFactory else none
  | .all adapterFactory => some adapterFactory

structure RuleManager where
  rules : List Rule
  deriving DecidableEq, Repr

/-- `RuleManager.init(fromRules:appendDirect:)`. -/
def RuleManager.init (rules : List Rule) (appendDirect : Bool) : RuleManager :=
  if appendDirect = true ∨ rules.length = 0 then
    { rules := rules ++ [Rule.directRule] }
  else
    { rules := rules }

/-- The loop of `RuleManager.match` over the rules that are left. -/
def RuleManager.matchRules (session : ConnectSession) :
    List Rule → Option AdapterFactory × ConnectSession
  | [] => (none, session)
  | rule :: rules =>
      match rule.matchSession ip session with
      | some adapterFactory =>
          (some adapterFactory, { session with matchedRule := some rule })
      | none => matchRules session rules

/-- `RuleManager.match`, with the session it leaves. -/
def RuleManager.matchSession (manager : RuleManager) (session : ConnectSession) :
    Option AdapterFactory × ConnectSession :=
  match session.matchedRule with
  | some rule => (rule.matchSession ip session, session)
  | none => matchRules ip session manager.rules

/-- The first rule that answers, decides. -/
theorem RuleManager.matchRules_fst (session : ConnectSession) (rules : List Rule) :
    (matchRules ip session rules).1 = rules.findSome? (Rule.matchSession ip session) := by
  induction rules with
  | nil => rfl
  | cons rule rules ih =>
      cases hmatch : rule.matchSession ip session with
      | none => simp [matchRules, hmatch, ih]
      | some adapterFactory => simp [matchRules, hmatch]

end Match

end QLadder
