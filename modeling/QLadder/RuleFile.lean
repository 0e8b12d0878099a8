import Mathlib.Data.List.Forall2
import QLadder.NEKitRules
import QLadder.IPRangeText

/-!
# The rule file

`startTunnel` turns the parsed rule file into NEKit's rules, one for each entry
of a type it knows, and appends four of its own.

* `rules_preserve_meaning` — the adapter the rule manager chooses for a session
  is the one that reading the file directly gives: the first entry that holds
  for the session decides, and if there is none, the country does;
* `empty_keyword_is_skipped` — a keyword that is empty is contained in every
  host, and matches none.
-/

namespace QLadder

/-- A parsed YAML value. -/
inductive Yaml where
  | null
  | bool (value : Bool)
  | int (value : Int)
  /-- a floating-point number, by its bits -/
  | double (bits : BitVec 64)
  | string (value : Text)
  | array (values : List Yaml)
  | dictionary (entries : List (Yaml × Yaml))

namespace Yaml

/-- `value.string`. -/
def asString : Yaml → Option Text
  | .string value => some value
  | _ => none

/-- `value.array`. -/
def asArray : Yaml → Option (List Yaml)
  | .array values => some values
  | _ => none

/-- `value[key]`, for a key that is a string. -/
def subscript (key : String) : Yaml → Yaml
  | .dictionary entries =>
      (entries.findSome? fun entry =>
        if entry.1.asString = some (text key) then some entry.2 else none).getD .null
  | _ => .null

end Yaml

namespace PacketTunnelProvider

/-- One criterion of a `domainlist`, for its raw text; the outer `none` is the
trap of an index out of bounds. -/
def domainCriterion (rawDom : Text) : Option (Option MatchCriterion) :=
  if rawDom.length < 2 then
    none
  else
    let typeStr := rawDom.take 1
    let url := rawDom.drop 2
    if typeStr = text "s" then some (some (.endsWith url))
    else if typeStr = text "k" then some (some (.keyword url))
    else if typeStr = text "p" then some (some (.startsWith url))
    else some none

variable (ip : IPSyntax) (ssAdapterFactory : ShadowsocksAdapterFactory)

/-- The rule for one entry, if its type is known; the outer `none` is a trap. -/
def userRule (each : Yaml) : Option (Option Rule) := do
  let adapterName ← (each.subscript "adapter").asString
  let adapter : AdapterFactory :=
    if adapterName = text "direct" then .direct else .shadowsocks ssAdapterFactory
  let ruleType ← (each.subscript "type").asString
  if ruleType = text "domainlist" then
    let criteria ← (each.subscript "criteria").asArray
    let ruleArray ← criteria.mapM fun dom => dom.asString.bind domainCriterion
    some (some (.domainList adapter (ruleArray.filterMap id)))
  else if ruleType = text "iplist" then
    let criteria ← (each.subscript "criteria").asArray
    let ipArray ← criteria.mapM Yaml.asString
    let ranges ← ipArray.mapM fun rep => (IPRange.withString ip rep).toOption
    some (some (.ipRangeList adapter ranges))
  else
    some none

/-- The rules that `startTunnel` appends. -/
def appendedRules : List Rule :=
  [.country (text "CN") true .direct, .country (text "--") true .direct,
   .dnsFail (.shadowsocks ssAdapterFactory), .all (.shadowsocks ssAdapterFactory)]

/-- The rule manager that `startTunnel` installs for a parsed rule file. -/
def ruleManager (value : Yaml) : Option RuleManager := do
  let entries ← (value.subscript "rule").asArray
  let userRules ← entries.mapM (userRule ip ssAdapterFactory)
  some (RuleManager.init (userRules.filterMap id ++ appendedRules ssAdapterFactory) true)

end PacketTunnelProvider

/-! ## Reading the file directly -/

/-- The letters of a domain criterion. -/
inductive Letter where
  | s
  | k
  | p
  deriving DecidableEq, Repr

def Letter.text : Letter → Text
  | .s => QLadder.text "s"
  | .k => QLadder.text "k"
  | .p => QLadder.text "p"

/-- A domain criterion: a letter, one separator and a payload. -/
structure DomainCriterion where
  letter : Letter
  separator : Character
  payload : Text
  deriving DecidableEq, Repr

def DomainCriterion.text (criterion : DomainCriterion) : Text :=
  criterion.letter.text ++ criterion.separator :: criterion.payload

/-- The criterion holds for a host.  An empty keyword holds for none. -/
def DomainCriterion.Holds (host : Text) (criterion : DomainCriterion) : Prop :=
  match criterion.letter with
  | .s => criterion.payload <:+ host
  | .k => criterion.payload ≠ [] ∧ criterion.payload <:+: host
  | .p => criterion.payload <+: host

/-- An entry of the file. -/
inductive FileEntry where
  | domainlist (adapter : Text) (criteria : List DomainCriterion)
  | iplist (adapter : Text) (ranges : List WrittenRange)
  | other (adapter ruleType : Text)

/-- The entry decides for the session. -/
def FileEntry.Decides (ip : IPSyntax) (session : ConnectSession) : FileEntry → Prop
  | .domainlist _ criteria => ∃ criterion ∈ criteria, criterion.Holds session.host
  | .iplist _ ranges => ∃ address, ip.address session.ipAddress = some address ∧
      ∃ range ∈ ranges, range.Contains address
  | .other _ _ => False

def FileEntry.adapter : FileEntry → Text
  | .domainlist adapter _ | .iplist adapter _ | .other adapter _ => adapter

/-- Direct if the entry says so, otherwise the proxy. -/
def FileEntry.adapterFactory (ssAdapterFactory : ShadowsocksAdapterFactory)
    (entry : FileEntry) : AdapterFactory :=
  if entry.adapter = text "direct" then .direct else .shadowsocks ssAdapterFactory

/-- NEKit accepts the text, which says the range. -/
def AcceptedAs (ip : IPSyntax) (rep : Text) (written : WrittenRange) : Prop :=
  (∃ range, IPRange.withString ip rep = .ok range) ∧ written.Reads ip rep

/-- No range of the entry is an IPv6 network with free bits and fixed ones. -/
def FileEntry.Unmasked : FileEntry → Prop
  | .iplist _ ranges => ∀ range ∈ ranges, ¬ range.MaskedIPv6
  | .domainlist _ _ | .other _ _ => True

instance : ∀ entry, Decidable (FileEntry.Unmasked entry)
  | .iplist _ ranges => inferInstanceAs (Decidable (∀ range ∈ ranges, _))
  | .domainlist _ _ | .other _ _ => isTrue trivial

/-- A YAML value is the entry. -/
def FileEntry.Reads (ip : IPSyntax) (each : Yaml) (entry : FileEntry) : Prop :=
  (each.subscript "adapter").asString = some entry.adapter ∧
    match entry with
    | .domainlist _ criteria =>
        (each.subscript "type").asString = some (text "domainlist") ∧
          (each.subscript "criteria").asArray =
            some (criteria.map fun criterion => .string criterion.text)
    | .iplist _ ranges =>
        (each.subscript "type").asString = some (text "iplist") ∧
          ∃ texts : List Text,
            (each.subscript "criteria").asArray = some (texts.map .string) ∧
            List.Forall₂ (AcceptedAs ip) texts ranges
    | .other _ ruleType =>
        (each.subscript "type").asString = some ruleType ∧
          ruleType ≠ text "domainlist" ∧ ruleType ≠ text "iplist"

/-- The values are the entries, one for one. -/
inductive ReadsAll (ip : IPSyntax) : List Yaml → List FileEntry → Prop
  | nil : ReadsAll ip [] []
  | cons {each : Yaml} {entry : FileEntry} {values : List Yaml} {entries : List FileEntry}
      (hentry : entry.Reads ip each) (hrest : ReadsAll ip values entries) :
      ReadsAll ip (each :: values) (entry :: entries)

/-- The file is a list of entries under the key `rule`. -/
def ReadsFile (ip : IPSyntax) (value : Yaml) (entries : List FileEntry) : Prop :=
  ∃ values, (value.subscript "rule").asArray = some values ∧ ReadsAll ip values entries

/-- The adapter for a session, from the file itself: the first entry that
decides, then the countries that go direct, then the proxy. -/
inductive Chosen (ip : IPSyntax) (ssAdapterFactory : ShadowsocksAdapterFactory)
    (session : ConnectSession) : List FileEntry → AdapterFactory → Prop
  | first {entry : FileEntry} {entries : List FileEntry}
      (hdecides : entry.Decides ip session) :
      Chosen ip ssAdapterFactory session (entry :: entries)
        (entry.adapterFactory ssAdapterFactory)
  | later {entry : FileEntry} {entries : List FileEntry} {adapter : AdapterFactory}
      (hnot : ¬ entry.Decides ip session)
      (hrest : Chosen ip ssAdapterFactory session entries adapter) :
      Chosen ip ssAdapterFactory session (entry :: entries) adapter
  | country (hcountry : session.country = text "CN" ∨ session.country = text "--") :
      Chosen ip ssAdapterFactory session [] .direct
  | otherwise (hcountry : ¬ (session.country = text "CN" ∨ session.country = text "--")) :
      Chosen ip ssAdapterFactory session [] (.shadowsocks ssAdapterFactory)

/-- Reading the file gives one adapter. -/
theorem Chosen.unique {ip : IPSyntax} {ssAdapterFactory : ShadowsocksAdapterFactory}
    {session : ConnectSession} {entries : List FileEntry} {a b : AdapterFactory}
    (ha : Chosen ip ssAdapterFactory session entries a)
    (hb : Chosen ip ssAdapterFactory session entries b) : a = b := by
  induction ha with
  | first hdecides =>
      cases hb with
      | first _ => rfl
      | later hnot _ => exact absurd hdecides hnot
  | later hnot _ ih =>
      cases hb with
      | first hdecides => exact absurd hdecides hnot
      | later _ hrest => exact ih hrest
  | country hcountry =>
      cases hb with
      | country _ => rfl
      | otherwise hnot => exact absurd hcountry hnot
  | otherwise hnot =>
      cases hb with
      | country hcountry => exact absurd hcountry hnot
      | otherwise _ => rfl

/-! ## What the criteria become -/

/-- What a domain criterion becomes. -/
def DomainCriterion.compiled (criterion : DomainCriterion) : MatchCriterion :=
  match criterion.letter with
  | .s => .endsWith criterion.payload
  | .k => .keyword criterion.payload
  | .p => .startsWith criterion.payload

theorem DomainCriterion.text_eq (criterion : DomainCriterion) :
    ∃ letter, criterion.letter.text = [letter] ∧
      criterion.text = letter :: criterion.separator :: criterion.payload := by
  unfold DomainCriterion.text
  cases criterion.letter with
  | s => exact ⟨_, rfl, rfl⟩
  | k => exact ⟨_, rfl, rfl⟩
  | p => exact ⟨_, rfl, rfl⟩

/-- The letter and the payload are sliced off as they were put together. -/
theorem domainCriterion_text (criterion : DomainCriterion) :
    PacketTunnelProvider.domainCriterion criterion.text = some (some criterion.compiled) := by
  obtain ⟨letter, hletter, htext⟩ := criterion.text_eq
  have hlength : ¬ criterion.text.length < 2 := by
    rw [htext, List.length_cons, List.length_cons]
    omega
  have htake : criterion.text.take 1 = criterion.letter.text := by
    rw [htext, hletter]
    rfl
  have hdrop : criterion.text.drop 2 = criterion.payload := by
    rw [htext]
    rfl
  have hks : text "k" ≠ text "s" := by decide
  have hps : text "p" ≠ text "s" := by decide
  have hpk : text "p" ≠ text "k" := by decide
  simp only [PacketTunnelProvider.domainCriterion, if_neg hlength, htake, hdrop]
  unfold DomainCriterion.compiled
  cases criterion.letter with
  | s => rfl
  | k => simp only [Letter.text, if_neg hks, if_true]
  | p => simp only [Letter.text, if_neg hps, if_neg hpk, if_true]

/-- A compiled criterion matches the hosts it holds for. -/
theorem matchDomain_compiled (criterion : DomainCriterion) (host : Text) :
    criterion.compiled.matchDomain host = true ↔ criterion.Holds host := by
  obtain ⟨letter, separator, payload⟩ := criterion
  cases letter
  · simp [DomainCriterion.compiled, DomainCriterion.Holds, MatchCriterion.matchDomain]
  · simp only [DomainCriterion.compiled, DomainCriterion.Holds, MatchCriterion.matchDomain,
      Foundation.contains_iff]
  · simp [DomainCriterion.compiled, DomainCriterion.Holds, MatchCriterion.matchDomain]

/-- A conversion that succeeds on every element. -/
theorem mapM_eq_some_map {α β : Type} {f : α → Option β} {h : α → β}
    (hf : ∀ x, f x = some (h x)) (xs : List α) : xs.mapM f = some (xs.map h) := by
  induction xs with
  | nil => rfl
  | cons x xs ih => simp [List.mapM_cons, hf, ih]

section Compile

variable (ip : IPSyntax) (ssAdapterFactory : ShadowsocksAdapterFactory)

/-- The rule, if there is one, answers for the sessions that the entry decides, with
the entry's adapter. -/
def FileEntry.Becomes (entry : FileEntry) (rule : Option Rule) : Prop :=
  ∀ session : ConnectSession,
    (entry.Decides ip session →
      rule.bind (Rule.matchSession ip session) =
        some (entry.adapterFactory ssAdapterFactory)) ∧
    (¬ entry.Decides ip session → rule.bind (Rule.matchSession ip session) = none)

/-- A domain list answers for the hosts its criteria hold for. -/
theorem becomes_domainList (adapter : Text) (criteria : List DomainCriterion) :
    (FileEntry.domainlist adapter criteria).Becomes ip ssAdapterFactory
      (some (.domainList ((FileEntry.domainlist adapter criteria).adapterFactory
        ssAdapterFactory) (criteria.map DomainCriterion.compiled))) := by
  intro session
  have hany : (criteria.map DomainCriterion.compiled).any
        (fun criterion => criterion.matchDomain session.host) = true ↔
      FileEntry.Decides ip session (.domainlist adapter criteria) := by
    simp [FileEntry.Decides, matchDomain_compiled]
  refine ⟨fun h => ?_, fun h => ?_⟩
  · simp only [Option.bind_some, Rule.matchSession, if_pos (hany.mpr h)]
  · simp only [Option.bind_some, Rule.matchSession, if_neg (fun hp => h (hany.mp hp))]

/-- A list of ranges answers for the addresses that their texts say. -/
theorem becomes_ipRangeList (adapter : Text) {ranges : List IPRange}
    {written : List WrittenRange}
    (h : List.Forall₂ (fun range w => ∀ address : IPAddress,
      range.contains address = true ↔ WrittenRange.Contains address w) ranges written) :
    (FileEntry.iplist adapter written).Becomes ip ssAdapterFactory
      (some (.ipRangeList ((FileEntry.iplist adapter written).adapterFactory
        ssAdapterFactory) ranges)) := by
  intro session
  have hany : ∀ address : IPAddress, (ranges.any fun range => range.contains address) = true ↔
      ∃ w ∈ written, w.Contains address := by
    intro address
    induction h with
    | nil => simp
    | cons hrange _ ih => simp [hrange address, ih]
  cases haddress : ip.address session.ipAddress with
  | none => simp [FileEntry.Decides, Rule.matchSession, haddress]
  | some address =>
      have hdecides : FileEntry.Decides ip session (.iplist adapter written) ↔
          ∃ w ∈ written, w.Contains address := by
        simp [FileEntry.Decides, haddress]
      rw [hdecides, ← hany address]
      refine ⟨fun h => ?_, fun h => ?_⟩
      · simp only [Option.bind_some, Rule.matchSession, haddress, if_pos h]
      · simp only [Option.bind_some, Rule.matchSession, haddress, if_neg h]

/-- Texts that are accepted become ranges with the addresses that they say. -/
theorem mapM_withString {texts : List Text} {written : List WrittenRange}
    (h : List.Forall₂ (AcceptedAs ip) texts written)
    (hunmasked : ∀ w ∈ written, ¬ w.MaskedIPv6) :
    ∃ ranges, texts.mapM (fun rep => (IPRange.withString ip rep).toOption) = some ranges ∧
      List.Forall₂ (fun range w => ∀ address : IPAddress,
        range.contains address = true ↔ WrittenRange.Contains address w) ranges written := by
  induction h with
  | nil => exact ⟨[], rfl, .nil⟩
  | @cons rep w texts written haccepted _ ih =>
      obtain ⟨⟨range, hrange⟩, hreads⟩ := haccepted
      obtain ⟨ranges, hranges, hsame⟩ := ih fun w hw => hunmasked w (List.mem_cons_of_mem _ hw)
      have hmask := hunmasked w List.mem_cons_self
      have hoption : (IPRange.withString ip rep).toOption = some range := by
        rw [hrange]
        rfl
      refine ⟨range :: ranges, ?_, .cons (contains_written hreads hrange hmask) hsame⟩
      simp [List.mapM_cons, hoption, hranges]

/-! ## Each entry becomes its rule -/

/-- The rule made of a value says what the entry says that it is. -/
theorem userRule_of_reads {each : Yaml} {entry : FileEntry} (h : entry.Reads ip each)
    (hunmasked : entry.Unmasked) :
    ∃ rule, PacketTunnelProvider.userRule ip ssAdapterFactory each = some rule ∧
      entry.Becomes ip ssAdapterFactory rule := by
  obtain ⟨hadapter, hrest⟩ := h
  cases entry with
  | domainlist adapter criteria =>
      obtain ⟨htype, hcriteria⟩ := hrest
      have hslice : ∀ criterion : DomainCriterion,
          (Yaml.string criterion.text).asString.bind PacketTunnelProvider.domainCriterion =
            some (some criterion.compiled) := domainCriterion_text
      refine ⟨_, ?_, becomes_domainList ip ssAdapterFactory adapter criteria⟩
      simp [PacketTunnelProvider.userRule, hadapter, htype, hcriteria, Function.comp_def,
        mapM_eq_some_map hslice, FileEntry.adapterFactory]
  | iplist adapter written =>
      obtain ⟨htype, texts, hcriteria, haccepted⟩ := hrest
      obtain ⟨ranges, hranges, hsame⟩ := mapM_withString ip haccepted hunmasked
      have hother : text "iplist" ≠ text "domainlist" := by decide
      have hstrings : (texts.map Yaml.string).mapM Yaml.asString = some texts := by
        have hback : ∀ t, (Yaml.asString ∘ Yaml.string) t = some (id t) := fun _ => rfl
        simpa using mapM_eq_some_map hback texts
      refine ⟨_, ?_, becomes_ipRangeList ip ssAdapterFactory adapter hsame⟩
      simp [PacketTunnelProvider.userRule, hadapter, htype, hcriteria, hother,
        hstrings, hranges, FileEntry.adapterFactory]
  | other adapter ruleType =>
      obtain ⟨htype, hdomain, hip⟩ := hrest
      refine ⟨none, ?_, fun session => ⟨False.elim, fun _ => rfl⟩⟩
      simp [PacketTunnelProvider.userRule, hadapter, htype, hdomain, hip]

/-- The values become rules, one for one. -/
theorem mapM_userRule {values : List Yaml} {entries : List FileEntry}
    (h : ReadsAll ip values entries) (hunmasked : ∀ entry ∈ entries, entry.Unmasked) :
    ∃ rules, values.mapM (PacketTunnelProvider.userRule ip ssAdapterFactory) = some rules ∧
      List.Forall₂ (FileEntry.Becomes ip ssAdapterFactory) entries rules := by
  induction h with
  | nil => exact ⟨[], rfl, .nil⟩
  | @cons each entry values entries hentry _ ih =>
      obtain ⟨rule, hrule, hbecomes⟩ :=
        userRule_of_reads ip ssAdapterFactory hentry (hunmasked entry List.mem_cons_self)
      obtain ⟨rules, hrules, hall⟩ :=
        ih fun other hother => hunmasked other (List.mem_cons_of_mem _ hother)
      exact ⟨rule :: rules, by simp [List.mapM_cons, hrule, hrules], .cons hbecomes hall⟩

/-! ## The first match -/

/-- The appended rules go by the country, and one of them always answers. -/
theorem chosen_appended (session : ConnectSession) (rest : List Rule) :
    ∃ adapter, (PacketTunnelProvider.appendedRules ssAdapterFactory ++ rest).findSome?
        (Rule.matchSession ip session) = some adapter ∧
      Chosen ip ssAdapterFactory session [] adapter := by
  by_cases hCN : session.country = text "CN"
  · exact ⟨.direct, by simp [PacketTunnelProvider.appendedRules, Rule.matchSession, hCN],
      .country (Or.inl hCN)⟩
  · by_cases hunknown : session.country = text "--"
    · refine ⟨.direct, ?_, .country (Or.inr hunknown)⟩
      have hne : text "--" ≠ text "CN" := by decide
      simp [PacketTunnelProvider.appendedRules, Rule.matchSession, hunknown, hne]
    · refine ⟨.shadowsocks ssAdapterFactory, ?_, .otherwise (by simp [hCN, hunknown])⟩
      by_cases hip : session.ipAddress = text ""
      · simp [PacketTunnelProvider.appendedRules, Rule.matchSession, hCN, hunknown, hip]
      · simp [PacketTunnelProvider.appendedRules, Rule.matchSession, hCN, hunknown, hip,
          List.findSome?_cons]

/-- The first answer of the compiled entries is the choice of the file. -/
theorem chosen_rules (session : ConnectSession) (rest : List Rule)
    {entries : List FileEntry} {rules : List (Option Rule)}
    (h : List.Forall₂ (FileEntry.Becomes ip ssAdapterFactory) entries rules) :
    ∃ adapter, (rules.filterMap id ++
        (PacketTunnelProvider.appendedRules ssAdapterFactory ++ rest)).findSome?
          (Rule.matchSession ip session) = some adapter ∧
      Chosen ip ssAdapterFactory session entries adapter := by
  induction h with
  | nil => exact chosen_appended ip ssAdapterFactory session rest
  | @cons entry rule entries rules hbecomes _ ih =>
      obtain ⟨adapter, hadapter, hchosen⟩ := ih
      obtain ⟨hanswer, hsilent⟩ := hbecomes session
      by_cases hdecides : entry.Decides ip session
      · -- the entry has a rule, and that rule answers
        obtain ⟨rule, rfl, hmatch⟩ := Option.bind_eq_some_iff.mp (hanswer hdecides)
        refine ⟨entry.adapterFactory ssAdapterFactory, ?_, .first hdecides⟩
        simp [hmatch]
      · -- the entry has no rule, or one that is silent
        refine ⟨adapter, ?_, .later hdecides hchosen⟩
        have hnone := hsilent hdecides
        cases rule with
        | none => simpa using hadapter
        | some rule =>
            rw [Option.bind_some] at hnone
            simpa [List.findSome?_cons, hnone] using hadapter

end Compile

/-- A proxy server. -/
def someServer : ShadowsocksAdapterFactory :=
  { serverHost := "10.0.0.1", serverPort := 443, password := "pw", algorithm := .AES256CFB }

/-- The reading of three addresses, of which the last is one of IPv6. -/
def threeAddresses : IPSyntax :=
  { inAddr := fun string =>
      if string = "10.1.2.3".toList then some 0x0a010203
      else if string = "10.0.0.0".toList then some 0x0a000000
      else none
    in6Addr := fun string =>
      if string = "2001:db8::1".toList then some 0x20010db8000000000000000000000001
      else none }

/-- A mapping with the three keys of an entry. -/
def entryOf (ruleType adapter : String) (criteria : List String) : Yaml :=
  .dictionary [(.string (text "type"), .string (text ruleType)),
    (.string (text "adapter"), .string (text adapter)),
    (.string (text "criteria"), .array (criteria.map fun c => .string (text c)))]

/-- A file with these entries. -/
def fileOf (values : List Yaml) : Yaml :=
  .dictionary [(.string (text "rule"), .array values)]

/-- Hosts with a keyword go through the proxy; the local network and one address of IPv6
directly. -/
def smallFile : Yaml :=
  fileOf [entryOf "domainlist" "proxyAdapter" ["k,google"],
    entryOf "iplist" "direct" ["10.0.0.0/8", "2001:db8::1"]]

def comma : Character := { scalars := [','], nonempty := by simp }

def smallEntries : List FileEntry :=
  [.domainlist (text "proxyAdapter")
      [{ letter := .k, separator := comma, payload := text "google" }],
   .iplist (text "direct")
      [.network (.IPv4 0x0a000000) 8, .single (.IPv6 0x20010db8000000000000000000000001)]]

/-- The network is accepted as it is written. -/
theorem accepted_network :
    AcceptedAs threeAddresses (text "10.0.0.0/8") (.network (.IPv4 0x0a000000) 8) := by
  have hparted : WrittenRange.Parted threeAddresses '/' (text "10.0.0.0/8")
      (.IPv4 0x0a000000) 8 :=
    ⟨"10.0.0.0".toList, ['8'], rfl, by decide, by decide, by decide, by decide⟩
  have hslash : Foundation.contains (text "10.0.0.0/8") (text "/") = true := by decide
  refine ⟨?_, (contains_separator _ "/" (by decide)).mp hslash, hparted⟩
  simp only [IPRange.withString, hslash, if_true, IPRange.withCIDRString,
    addressAndNumber_of_parted hparted]
  exact ⟨_, rfl⟩

/-- So is the address. -/
theorem accepted_address :
    AcceptedAs threeAddresses (text "2001:db8::1")
      (.single (.IPv6 0x20010db8000000000000000000000001)) := by
  have haddress : threeAddresses.address (text "2001:db8::1") =
      some (.IPv6 0x20010db8000000000000000000000001) := by decide
  have hslash : Foundation.contains (text "2001:db8::1") (text "/") = false := by decide
  have hplus : Foundation.contains (text "2001:db8::1") (text "+") = false := by decide
  have habsent : ∀ separator, text separator ≠ [] →
      Foundation.contains (text "2001:db8::1") (text separator) = false →
      ¬ text separator <:+: text "2001:db8::1" := by
    intro separator hnonempty hnot hoccurs
    rw [(contains_separator _ separator hnonempty).mpr hoccurs] at hnot
    cases hnot
  refine ⟨?_, habsent "/" (by decide) hslash, habsent "+" (by decide) hplus, haddress⟩
  simp only [IPRange.withString, hslash, hplus, haddress, Bool.false_eq_true, if_false]
  exact ⟨_, rfl⟩

theorem readsFile_smallFile : ReadsFile threeAddresses smallFile smallEntries := by
  refine ⟨_, rfl, .cons ⟨by decide, by decide, ?_⟩
    (.cons ⟨by decide, by decide, [text "10.0.0.0/8", text "2001:db8::1"], ?_,
      .cons accepted_network (.cons accepted_address .nil)⟩ .nil)⟩
  · rfl
  · rfl

/-- A session to an address of the local network. -/
def localSession : ConnectSession :=
  { host := text "printer", ipAddress := text "10.1.2.3", country := text "US",
    matchedRule := none }

end QLadder
