import QLadder.DNSMessage
import QLadder.DNSServer

/-!
# The packets of the DNS server

What `input` takes in is a UDP packet to the server's own address and port, with
a message of one question.  The answer with a fake address goes the other way.

* `input_built` — a question is taken in that somebody built;
* `outputSession_answers` — the client reads the answer as one to its own question;
* `real_answer_returns` — the response of a resolver goes back as it came;
* `name_answered` — for twice the time to live, the address in it stands for the name.
-/

namespace QLadder

open BinaryReadable DNSNameConverter Foundation HTTPHeader PartialRun Swift

/-- The address in network order. -/
def IPAddress.dataInNetworkOrder : IPAddress → Data
  | .IPv4 address => bigEndian (UInt32.ofBitVec address)
  | .IPv6 address => (Data.ofNumber 16 address.toNat).reverse

/-- What a session keeps of its packet. -/
structure DNSRequest where
  requestMessage : DNSMessage
  requestIPPacket : IPPacket
  deriving DecidableEq, Repr

namespace DNSServer

variable (serverAddress : IPAddress) (serverPort : Port)

/-- `DNSSession(packet:)`. -/
def readRequest (rounds : Nat) (packet : IPPacket) : Except NoResult DNSRequest := do
  let protocolParser ← unwrap packet.protocolParser
  let payload ← unwrap protocolParser.payload
  let message ← DNSMessage.init rounds payload
  check (message.messageType = .query)
  check (message.queries.length = 1)
  .ok { requestMessage := message, requestIPPacket := packet }

/-- `input`: the request that is looked up. -/
def input (rounds : Nat) (packet : Data) : Except NoResult DNSRequest := do
  check (IPPacket.peekProtocol packet = some .udp)
  check (IPPacket.peekDestinationAddress packet = some serverAddress)
  check (IPPacket.peekDestinationPort packet = some serverPort)
  let ipPacket ← IPPacket.init packet
  readRequest rounds ipPacket

/-- The response with a fake address, before it is built. -/
def fakeResponse (request : DNSRequest) (fakeIP : IPAddress) : Option DNSMessage := do
  let query ← request.requestMessage.queries.head?
  let answer ← DNSResource.ARecord query.name (UInt32.ofNat Opt.DNSFakeIPTTL)
    fakeIP.dataInNetworkOrder
  some
    { DNSMessage.new with
      transactionID := request.requestMessage.transactionID
      messageType := .response
      recursionAvailable := true
      answers := [answer] }

/-- The packet that `outputSession` sets up and builds. -/
def answerPacket (request : DNSRequest) (payload : Data) : Option IPPacket := do
  let protocolParser ← request.requestIPPacket.protocolParser
  { IPPacket.new with
    sourceAddress := some serverAddress
    destinationAddress := request.requestIPPacket.sourceAddress
    protocolParser := some
      { UDPProtocolParser.new with
        sourcePort := some serverPort
        destinationPort := protocolParser.sourcePort
        payload := some payload }
    transportProtocol := some .udp }.buildPacket

/-- The end of `outputSession`: the data that is sent. -/
def outputPacket (request : DNSRequest) (payload : Data) : Except NoResult Data := do
  let ipPacket ← unwrap (answerPacket serverAddress serverPort request payload)
  unwrap ipPacket.packetData

/-- `outputSession` with a fake result; without a message nothing is sent. -/
def outputSession (random : UInt16) (request : DNSRequest) (fakeIP : IPAddress) :
    Except NoResult Data := do
  let response ← unwrap (fakeResponse request fakeIP)
  let response ← response.buildMessage random
  let payload ← unwrap response.payload
  outputPacket serverAddress serverPort request payload

/-- `outputSession` with a real result. -/
def outputRealSession (request : DNSRequest) (realResponseMessage : DNSMessage) :
    Except NoResult Data := do
  let payload ← unwrap realResponseMessage.payload
  outputPacket serverAddress serverPort request payload

variable {serverAddress serverPort}

/-- **Taking in.**  A question is taken in that somebody built and sent to the server. -/
theorem input_built {packet built : IPPacket} {datagram : Datagram} (h : packet.Carries datagram)
    (hheader : packet.HeaderFits) (hbuilt : packet.buildPacket = some built) {rounds : Nat}
    {message : DNSMessage} (hmessage : DNSMessage.init rounds datagram.payload = .ok message)
    (hquery : message.messageType = .query) (hone : message.queries.length = 1) :
    ∃ data request, built.packetData = some data ∧
      input (.IPv4 datagram.destination) datagram.destinationPort rounds data = .ok request ∧
      request.requestMessage = message ∧ request.requestIPPacket.Carries datagram := by
  obtain ⟨data, read, hdata, hread, hcarries⟩ := IPPacket.built_read h hheader hbuilt
  have hfrom := IPPacket.readFrom_of_init hread
  obtain ⟨parserData, offset, hparser⟩ := hcarries.protocolParser
  have hdestination : IPPacket.peekDestinationAddress data = some (.IPv4 datagram.destination) :=
    hfrom.peekDestinationAddress_eq.trans hcarries.destinationAddress
  have hport : IPPacket.peekDestinationPort data = some datagram.destinationPort := by
    have hfields := hfrom.protocolParser.symm.trans hparser
    simp only [Option.some.injEq, UDPProtocolParser.mk.injEq] at hfields
    exact (hfrom.peekPort_eq 2).trans (congrArg some hfields.2.1)
  refine ⟨data, { requestMessage := message, requestIPPacket := read }, hdata, ?_, rfl, hcarries⟩
  simp only [input, check_bind_eq_ok]
  refine ⟨hfrom.peekProtocol_eq, hdestination, hport, ?_⟩
  rw [hread]
  simp only [bind, Except.bind, readRequest, hparser, unwrap, hmessage, check, hquery, hone,
    if_true]

/-- A question for the address of `a`. -/
def addressQuestion : Data :=
  [0, 7, 1, 0, 0, 1, 0, 0, 0, 0, 0, 0, 1, 97, 0, 0, 1, 0, 1]

/-- From port 1234 of 10.0.0.1 to port 53 of 198.18.0.1. -/
def questionDatagram : Datagram :=
  { source := 0x0A000001#32, sourcePort := .ofPort 1234, destination := 0xC6120001#32,
    destinationPort := .ofPort 53, payload := addressQuestion }

theorem input_question :
    ∃ data request, input (.IPv4 0xC6120001#32) (.ofPort 53) 2 data = .ok request ∧
      request.requestIPPacket.Carries questionDatagram := by
  obtain ⟨built, hbuilt⟩ := Option.isSome_iff_exists.mp (IPPacket.isSome_buildPacket_short
    questionDatagram.carries questionDatagram.headerFits (by decide))
  obtain ⟨message, hmessage, hquery, hone⟩ : ∃ message,
      DNSMessage.init 2 addressQuestion = .ok message ∧ message.messageType = .query ∧
        message.queries.length = 1 := ⟨_, rfl, rfl, rfl⟩
  obtain ⟨data, request, -, hinput, -, hcarries⟩ :=
    input_built questionDatagram.carries questionDatagram.headerFits hbuilt hmessage hquery hone
  exact ⟨data, request, hinput, hcarries⟩

/-- What is known of a request that was taken in. -/
theorem input_cases {rounds : Nat} {packet : Data} {request : DNSRequest}
    (h : input serverAddress serverPort rounds packet = .ok request) :
    request.requestIPPacket.ReadFrom packet ∧
      ∃ query, request.requestMessage.queries = [query] := by
  simp only [input, check_bind_eq_ok] at h
  obtain ⟨-, -, -, h⟩ := h
  obtain ⟨ipPacket, hread, h⟩ := bind_eq_ok.mp h
  obtain ⟨parser, -, h⟩ := unwrap_bind_eq_ok.mp h
  obtain ⟨payload, -, h⟩ := unwrap_bind_eq_ok.mp h
  obtain ⟨message, -, h⟩ := bind_eq_ok.mp h
  simp only [check_bind_eq_ok, Except.ok.injEq] at h
  obtain ⟨-, hone, rfl⟩ := h
  exact ⟨IPPacket.readFrom_of_init hread, List.length_eq_one_iff.mp hone⟩

/-- The response with a fake address for a question. -/
def fakeAnswer (request : DNSRequest) (query : DNSQuery) (fakeIP : BitVec 32) : DNSMessage :=
  { DNSMessage.new with
    transactionID := request.requestMessage.transactionID
    messageType := .response
    recursionAvailable := true
    answers :=
      [{ name := query.name, type := .a, klass := .internet, TTL := 300, dataLength := 4,
         data := (IPAddress.IPv4 fakeIP).dataInNetworkOrder,
         nameBytesLength := (encode query.name).length + 2 }] }

theorem fakeAnswer_fits (request : DNSRequest) {query : DNSQuery} (h : Legible query.name)
    (fakeIP : BitVec 32) : (fakeAnswer request query fakeIP).Fits := by
  have hfew : ∀ {length : Nat}, length ≤ 1 → length < 65536 := by omega
  refine ⟨⟨hfew (Nat.zero_le 1), hfew (Nat.le_refl 1), hfew (Nat.zero_le 1),
    hfew (Nat.zero_le 1)⟩, nofun, fun resource hresource => ?_, nofun, nofun⟩
  rw [List.mem_singleton.mp hresource]
  have hdata : (4 : UInt16).toNat = (IPAddress.IPv4 fakeIP).dataInNetworkOrder.length :=
    (length_bigEndian (UInt32.ofBitVec fakeIP)).symm
  exact ⟨⟨h, rfl⟩, hdata⟩

theorem fakeAnswer_bytesLength (request : DNSRequest) (query : DNSQuery) (fakeIP : BitVec 32) :
    (fakeAnswer request query fakeIP).bytesLength = (encode query.name).length + 28 := by
  simp only [fakeAnswer, DNSMessage.bytesLength, DNSMessage.new, DNSResource.bytesLength,
    totalLength]
  have hfour : (4 : UInt16).toNat = 4 := rfl
  omega

theorem fromBytes_dataInNetworkOrder (address : BitVec 32) :
    IPAddress.fromBytesInNetworkOrder (IPAddress.IPv4 address).dataInNetworkOrder =
      .IPv4 address := by
  have hload : (load (IPAddress.IPv4 address).dataInNetworkOrder : UInt32) =
      byteSwapped (UInt32.ofBitVec address) := rfl
  rw [IPAddress.fromBytesInNetworkOrder, IPAddress.ipv4InNetworkOrder, hload,
    byteSwapped_byteSwapped]

/-- The packet goes back to the one who asked, with a payload. -/
structure Returns (serverAddress : IPAddress) (serverPort : Port) (request : DNSRequest)
    (payload answer : Data) : Prop where
  packet : ∃ read parser, IPPacket.init answer = .ok read ∧
    read.sourceAddress = some serverAddress ∧
    read.destinationAddress = request.requestIPPacket.sourceAddress ∧
    read.protocolParser = some parser ∧ parser.sourcePort = some serverPort ∧
    parser.destinationPort = request.requestIPPacket.protocolParser.bind (·.sourcePort) ∧
    parser.payload = some payload

/-- **What is sent** goes back, and a short payload is always sent. -/
theorem outputPacket_returns {server : BitVec 32} {packet : Data} {request : DNSRequest}
    (h : request.requestIPPacket.ReadFrom packet) (payload : Data) :
    (∀ answer, outputPacket (.IPv4 server) serverPort request payload = .ok answer →
      Returns (.IPv4 server) serverPort request payload answer) ∧
      (payload.length ≤ 502 →
        ∃ answer, outputPacket (.IPv4 server) serverPort request payload = .ok answer) := by
  obtain ⟨client, hclient⟩ : ∃ client, request.requestIPPacket.sourceAddress =
      some (.IPv4 client) := ⟨_, h.sourceAddress⟩
  obtain ⟨parser, clientPort, hparser, hport⟩ : ∃ parser clientPort,
      request.requestIPPacket.protocolParser = some parser ∧
        parser.sourcePort = some clientPort := ⟨_, _, h.protocolParser, rfl⟩
  obtain ⟨datagram, hdatagram⟩ : ∃ datagram : Datagram, datagram =
      { source := server, sourcePort := serverPort, destination := client,
        destinationPort := clientPort, payload := payload } := ⟨_, rfl⟩
  have hpacket : answerPacket (.IPv4 server) serverPort request payload =
      datagram.packet.buildPacket := by
    simp only [answerPacket, hparser, hclient, bind, Option.bind_some, hport, hdatagram]
    rfl
  have hread : ∀ {built : IPPacket}, datagram.packet.buildPacket = some built →
      ∃ data, built.packetData = some data ∧
        Returns (.IPv4 server) serverPort request payload data := by
    intro built hbuilt
    obtain ⟨data, read, hdata, hread, hcarries⟩ :=
      IPPacket.built_read datagram.carries datagram.headerFits hbuilt
    obtain ⟨packetData, offset, hfields⟩ := hcarries.protocolParser
    refine ⟨data, hdata, read, _, hread, ?_, ?_, hfields, ?_, ?_, ?_⟩
    · rw [hcarries.sourceAddress, hdatagram]
    · rw [hcarries.destinationAddress, hclient, hdatagram]
    · rw [hdatagram]
    · rw [hparser, hdatagram]
      exact hport.symm
    · rw [hdatagram]
  constructor
  · intro answer hanswer
    rw [outputPacket, hpacket] at hanswer
    obtain ⟨built, hbuilt, hanswer⟩ := unwrap_bind_eq_ok.mp hanswer
    obtain ⟨data, hdata, hreturns⟩ := hread hbuilt
    rw [hdata] at hanswer
    cases hanswer
    exact hreturns
  · intro hshort
    obtain ⟨built, hbuilt⟩ := Option.isSome_iff_exists.mp
      (IPPacket.isSome_buildPacket_short datagram.carries datagram.headerFits (hdatagram ▸ hshort))
    obtain ⟨data, hdata, -⟩ := hread hbuilt
    exact ⟨data, by simp only [outputPacket, hpacket, hbuilt, unwrap, bind, Except.bind, hdata]⟩

/-- The packet answers a question for a name with an address. -/
structure Answers (serverAddress : IPAddress) (serverPort : Port) (random : UInt16)
    (request : DNSRequest) (name : List Char) (address : IPAddress) (answer : Data) : Prop where
  message : ∃ payload response, Returns serverAddress serverPort request payload answer ∧
    DNSMessage.init payload.length payload = .ok response ∧
    response.transactionID = (if request.requestMessage.transactionID = 0 then random
      else request.requestMessage.transactionID) ∧
    response.messageType = .response ∧ response.answers.map (·.name) = [name] ∧
    response.resolvedIPv4Address = some address

/-- **The answer** goes back to the one who asked, with the name and the address. -/
theorem outputSession_answers {rounds : Nat} {server : BitVec 32} {packet : Data}
    {request : DNSRequest} (h : input (.IPv4 server) serverPort rounds packet = .ok request)
    {query : DNSQuery} (hquery : request.requestMessage.queries = [query])
    (hlegible : Legible query.name) (hshort : (encode query.name).length ≤ 255)
    (fakeIP : BitVec 32) (random : UInt16) :
    ∃ answer, outputSession (.IPv4 server) serverPort random request (.IPv4 fakeIP) = .ok answer ∧
      Answers (.IPv4 server) serverPort random request query.name (.IPv4 fakeIP) answer := by
  obtain ⟨response, hresponse⟩ : ∃ response, response = fakeAnswer request query fakeIP :=
    ⟨_, rfl⟩
  have hfits : response.Fits := hresponse ▸ fakeAnswer_fits request hlegible fakeIP
  have hfake : fakeResponse request (.IPv4 fakeIP) = some response := by
    rw [fakeResponse, hquery, hresponse]
    rfl
  have hbuild := DNSMessage.buildMessage_eq hfits random
  obtain ⟨sent, hsent⟩ : ∃ sent, sent = response.numbered random := ⟨_, rfl⟩
  have hsentFits : sent.Fits := hsent ▸ hfits.numbered random
  rw [← hsent] at hbuild
  have hlength : sent.payloadBytes.length = (encode query.name).length + 28 := by
    rw [DNSMessage.length_payloadBytes hsentFits, hsent, hresponse]
    exact fakeAnswer_bytesLength request query fakeIP
  have hread := DNSMessage.init_eq
    (DNSMessage.laidOut_payloadBytes hsentFits (Nat.le_refl sent.payloadBytes.length))
  obtain ⟨hreturns, hsend⟩ :=
    @outputPacket_returns serverPort server packet request (input_cases h).1 sent.payloadBytes
  obtain ⟨answer, hanswer⟩ := hsend (by omega)
  refine ⟨answer, ?_, sent.payloadBytes, { sent with payload := some sent.payloadBytes },
    hreturns answer hanswer, hread, ?_⟩
  · simp only [outputSession, hfake, unwrap, bind, Except.bind, hbuild, hanswer]
  · subst hsent hresponse
    exact ⟨rfl, rfl, rfl, congrArg some (fromBytes_dataInNetworkOrder fakeIP)⟩

/-- **Real answers.**  The payload of a resolver's response goes back as it came. -/
theorem real_answer_returns {rounds : Nat} {server : BitVec 32} {packet : Data}
    {request : DNSRequest} (h : input (.IPv4 server) serverPort rounds packet = .ok request)
    {rawResponse : Data} {message : DNSMessage}
    (hmessage : DNSMessage.init rounds rawResponse = .ok message) :
    (∀ answer, outputRealSession (.IPv4 server) serverPort request message = .ok answer →
      Returns (.IPv4 server) serverPort request rawResponse answer) ∧
      (rawResponse.length ≤ 502 →
        ∃ answer, outputRealSession (.IPv4 server) serverPort request message = .ok answer) := by
  have hreal : outputRealSession (.IPv4 server) serverPort request message =
      outputPacket (.IPv4 server) serverPort request rawResponse := by
    rw [outputRealSession, DNSMessage.payload_of_init hmessage]
    rfl
  rw [hreal]
  exact outputPacket_returns (input_cases h).1 rawResponse

/-- The bytes of the question; nobody looks at the checksums. -/
def questionPacket : Data :=
  [69, 0, 0, 47, 0, 0, 0, 0, 64, 17, 0, 0, 10, 0, 0, 1, 198, 18, 0, 1, 4, 210, 0, 53, 0, 27, 0,
    0] ++ addressQuestion

theorem questionPacket_taken :
    ∃ request, input (.IPv4 0xC6120001#32) (.ofPort 53) 2 questionPacket = .ok request ∧
      request.requestMessage.queries =
        [{ name := ['a'], type := .a, klass := .internet, nameBytesLength := 3 }] ∧
      request.requestMessage.transactionID = 7 :=
  ⟨_, rfl, rfl, rfl⟩

/-- A response for `a`, whose name is behind a pointer in the answer. -/
def addressResponse : Data :=
  [0, 7, 129, 128, 0, 1, 0, 1, 0, 0, 0, 0, 1, 97, 0, 0, 1, 0, 1, 192, 12, 0, 1, 0, 1, 0, 0, 1, 44,
    0, 4, 93, 184, 216, 34]

theorem real_answer_question :
    ∃ request message answer,
      input (.IPv4 0xC6120001#32) (.ofPort 53) 2 questionPacket = .ok request ∧
      DNSMessage.init 2 addressResponse = .ok message ∧
      message.resolvedIPv4Address = some (.IPv4 0x5DB8D822#32) ∧
      outputRealSession (.IPv4 0xC6120001#32) (.ofPort 53) request message = .ok answer ∧
      Returns (.IPv4 0xC6120001#32) (.ofPort 53) request addressResponse answer := by
  obtain ⟨request, hrequest, -⟩ := questionPacket_taken
  obtain ⟨message, hmessage, haddress⟩ : ∃ message,
      DNSMessage.init 2 addressResponse = .ok message ∧
        message.resolvedIPv4Address = some (.IPv4 0x5DB8D822#32) := ⟨_, rfl, rfl⟩
  obtain ⟨hreturns, hsend⟩ := real_answer_returns hrequest hmessage
  obtain ⟨answer, hanswer⟩ := hsend (by decide)
  exact ⟨request, message, answer, hrequest, hmessage, haddress, hanswer, hreturns answer hanswer⟩

/-! ## From the question to the connection -/

/-- A lookup whose output is a fake answer gave it to a session for the name. -/
theorem name_of_answer {ip : IPText} {manager : RuleManager} {before after : DNSServer}
    {transactionID : BitVec 16} {name : Text} {typeA : Bool}
    (h : before.lookup ip manager (.init transactionID name typeA) = some after)
    {session : DNSSession} {address : IPAddress}
    (hanswer : after.outputs = before.outputs ++ [.fake session address]) :
    session.name = name := by
  rcases lookup_cases h with rfl | ⟨other, -, -, -, rfl⟩ |
    ⟨other, mid, taken, hfound, hname, hset, rfl⟩
  · simp at hanswer
  · simp [lookupRemotely, asyncAfter] at hanswer
  · obtain ⟨hleased, -⟩ := setUpFakeIP_some hset hfound
    have hsame := hleased.outputs.symm.trans hanswer
    simp only [List.append_cancel_left_eq, List.cons.injEq, DNSOutput.fake.injEq, and_true]
      at hsame
    rw [← hsame.1]
    exact hname

/-- A fake address is an address of the pool. -/
theorem Leased.contains {ip : IPText} {manager : RuleManager} {before after : DNSServer}
    {session : DNSSession} {address : IPAddress}
    (hleased : Leased ip manager before after session address)
    (hafter : Leases ip manager after) {range : IPRange}
    (hrange : after.pool.map IPPool.range = some range) : range.contains address = true := by
  obtain ⟨pool, hpool, rfl⟩ := Option.map_eq_some_iff.mp hrange
  obtain ⟨hproper, hlent⟩ := hafter.pool pool hpool
  refine hlent.contains hproper (Dict.mem_keys_of_get (v := session) ?_)
  rw [hleased.fakeSessions, Dict.get_set_self]

/-- What `lookup` reads of a request; the characters of a string are made of its scalars. -/
def lookupOf (characters : List Char → Text) (request : DNSRequest) (query : DNSQuery) :
    DNSEvent :=
  .lookup request.requestMessage.transactionID.toBitVec (characters query.name)
    (query.type = .a)

/-- **From the question to the connection.**  A client whose question was answered with a fake
address is sent a packet with that address, and for twice the time to live the server looks the
address up as the name that was asked for. -/
theorem name_answered {ip : IPText} {manager : RuleManager} {range : IPRange}
    (hproper : range.Proper) (hfamily : range.startIP.family = .IPv4)
    (hcoded : manager.CountriesCoded) {past future : List DNSEvent}
    {before after later : DNSServer}
    (hpast : run (step ip manager) (init (some (IPPool.init range))) past = some before)
    {rounds : Nat} {server : BitVec 32} {packet : Data} {request : DNSRequest}
    (hinput : input (.IPv4 server) serverPort rounds packet = .ok request) {query : DNSQuery}
    (hquery : request.requestMessage.queries = [query]) (hlegible : Legible query.name)
    (hshort : (encode query.name).length ≤ 255) {characters : List Char → Text}
    (hstep : step ip manager before (lookupOf characters request query) = some after)
    {session : DNSSession} {address : IPAddress}
    (hanswer : after.outputs = before.outputs ++ [.fake session address])
    (hfuture : run (step ip manager) after future = some later)
    (hearly : later.now < before.now + leaseTime) (random : UInt16) :
    (∃ answer, outputSession (.IPv4 server) serverPort random request address = .ok answer ∧
      Answers (.IPv4 server) serverPort random request query.name address answer) ∧
      later.lookupFakeIP address = some session ∧ session.name = characters query.name := by
  obtain ⟨hbefore, hrange⟩ := run_leases hproper hcoded hpast
  have hafter := step_leases hbefore hcoded hstep
  have hleased := leased_of_answer hbefore hcoded hstep hanswer
  have hinside := hleased.contains hafter ((step_range hbefore.waits hcoded hstep).trans hrange)
  obtain ⟨fakeIP, rfl⟩ : ∃ fakeIP, address = .IPv4 fakeIP := by
    cases address with
    | IPv4 fakeIP => exact ⟨fakeIP, rfl⟩
    | IPv6 fakeIP =>
        have hother : (IPAddress.IPv6 fakeIP).family ≠ range.startIP.family := by
          rw [hfamily]
          exact nofun
        rw [IPRange.contains, if_neg hother] at hinside
        cases hinside
  exact ⟨outputSession_answers hinput hquery hlegible hshort fakeIP random,
    hleased.stands hbefore hafter hcoded hfuture hearly, name_of_answer hstep hanswer⟩

theorem name_answered_question :
    ∃ request later,
      input (.IPv4 0xC6120001#32) (.ofPort 53) 2 questionPacket = .ok request ∧
      run (step unaryText serverRules) (init (some (IPPool.init fakeIPRange)))
        [.lookup 7 (text "a") true, .wait 599999999999] = some later ∧
      (∃ answer, outputSession (.IPv4 0xC6120001#32) (.ofPort 53) 9 request
          (.IPv4 0xC6120101#32) = .ok answer ∧
        Answers (.IPv4 0xC6120001#32) (.ofPort 53) 9 request ['a'] (.IPv4 0xC6120101#32)
          answer) ∧
      later.lookupFakeIP (.IPv4 0xC6120101#32) = some firstSession := by
  obtain ⟨request, hrequest, hqueries, hid⟩ := questionPacket_taken
  have hlegible : Legible ['a'] := by
    intro label hlabel
    rw [List.mem_singleton.mp hlabel]
    decide
  obtain ⟨after, hafter⟩ : ∃ after, step unaryText serverRules
      (init (some (IPPool.init fakeIPRange))) (.lookup 7 (text "a") true) = some after :=
    Option.isSome_iff_exists.mp (by decide)
  have houtputs : (step unaryText serverRules (init (some (IPPool.init fakeIPRange)))
      (.lookup 7 (text "a") true)).map DNSServer.outputs =
        some [.fake firstSession (.IPv4 0xC6120101#32)] := by decide
  obtain ⟨later, hlater⟩ : ∃ later, run (step unaryText serverRules)
      (init (some (IPPool.init fakeIPRange)))
        [.lookup 7 (text "a") true, .wait 599999999999] = some later :=
    Option.isSome_iff_exists.mp (by decide)
  have hnow : (run (step unaryText serverRules) (init (some (IPPool.init fakeIPRange)))
      [.lookup 7 (text "a") true, .wait 599999999999]).map DNSServer.now =
        some 599999999999 := by decide
  rw [hafter] at houtputs
  rw [hlater] at hnow
  have hearly : later.now < 0 + leaseTime := by
    rw [Option.some.inj hnow]
    decide
  have hstep : step unaryText serverRules (init (some (IPPool.init fakeIPRange)))
      (lookupOf (fun _ => text "a") request
        { name := ['a'], type := .a, klass := .internet, nameBytesLength := 3 }) =
          some after := by
    rw [lookupOf, hid]
    exact hafter
  obtain ⟨hanswered, hstands, -⟩ := name_answered fakeIPRange_proper rfl serverRules_coded
    (run_nil _) hrequest hqueries hlegible (by decide) hstep (Option.some.inj houtputs)
    ((run_cons hafter).symm.trans hlater) hearly 9
  exact ⟨request, later, hrequest, hlater, hanswered, hstands⟩

end DNSServer

end QLadder
