import QLadder.DNSNameConverter

/-!
# DNS messages

A `DNSMessage` is read from a payload and built into one.  Behind a header of
twelve bytes stand the questions and three lists of resources, each as long as
the header says.

* `init_eq` — a message is read that is laid out in the payload, its names compressed or not;
* `init_never_refused` — no payload is refused: what cannot be read is a trap;
* `init_unknown_question` — such is a question of a type that is not in the table;
* `buildMessage_reads_back` — a message that was built is read as it was.
-/

namespace QLadder

open BinaryReadable Foundation HTTPHeader DNSNameConverter

/-! ## The tables -/

inductive DNSType where
  | invalid | a | ns | md | mf | cname | soa | mb | mg | mr | null | wks | ptr | hinfo | minfo
  | mx | txt | rp | afsdb | x25 | isdn | rt | nsap | nsapptr | sig | key | px | gpos | aaaa | loc
  | nxt | eid | nimloc | srv | atma | naptr | kx | cert | a6 | dname | sink | opt | apl | ds
  | sshfp | rrsig | nsec | dnskey | tkey | tsig | ixfr | axfr | mailb | maila | any
  deriving DecidableEq, Repr

namespace DNSType

/-- The types in the order of the source. -/
def all : List DNSType :=
  [.invalid, .a, .ns, .md, .mf, .cname, .soa, .mb, .mg, .mr, .null, .wks, .ptr, .hinfo, .minfo,
    .mx, .txt, .rp, .afsdb, .x25, .isdn, .rt, .nsap, .nsapptr, .sig, .key, .px, .gpos, .aaaa,
    .loc, .nxt, .eid, .nimloc, .srv, .atma, .naptr, .kx, .cert, .a6, .dname, .sink, .opt, .apl,
    .ds, .sshfp, .rrsig, .nsec, .dnskey, .tkey, .tsig, .ixfr, .axfr, .mailb, .maila, .any]

/-- `rawValue`: the types count up, with two gaps. -/
def rawValue (type : DNSType) : UInt16 :=
  let place := type.ctorIdx
  UInt16.ofNat
    (if place < DNSType.rrsig.ctorIdx then place
    else if place < DNSType.tkey.ctorIdx then 46 + (place - DNSType.rrsig.ctorIdx)
    else 249 + (place - DNSType.tkey.ctorIdx))

/-- `DNSType(rawValue:)`. -/
def ofRawValue (value : UInt16) : Option DNSType :=
  all.find? fun type => type.rawValue = value

example : aaaa.rawValue = 28 ∧ rrsig.rawValue = 46 ∧ any.rawValue = 255 := by
  decide

theorem ofRawValue_rawValue (type : DNSType) : ofRawValue type.rawValue = some type := by
  cases type <;> rfl

end DNSType

inductive DNSMessageType where
  | query
  | response
  deriving DecidableEq, Repr

inductive DNSReturnStatus where
  | success
  | formatError
  | serverFailure
  | nameError
  | notImplemented
  | refused
  deriving DecidableEq, Repr

inductive DNSClass where
  | internet
  deriving DecidableEq, Repr

def DNSMessageType.rawValue : DNSMessageType → UInt8
  | .query => 0
  | .response => 1

namespace DNSReturnStatus

def rawValue : DNSReturnStatus → UInt8
  | .success => 0
  | .formatError => 1
  | .serverFailure => 2
  | .nameError => 3
  | .notImplemented => 4
  | .refused => 5

/-- `DNSReturnStatus(rawValue:)`. -/
def ofRawValue (value : UInt8) : Option DNSReturnStatus :=
  [success, formatError, serverFailure, nameError, notImplemented, refused].find? fun status =>
    status.rawValue = value

end DNSReturnStatus

namespace DNSClass

def rawValue : DNSClass → UInt16
  | .internet => 1

/-- `DNSClass(rawValue:)`. -/
def ofRawValue (value : UInt16) : Option DNSClass :=
  if value = 1 then some .internet else none

theorem ofRawValue_rawValue (klass : DNSClass) : ofRawValue klass.rawValue = some klass := by
  cases klass
  rfl

end DNSClass

/-! ## Questions and resources -/

structure DNSQuery where
  name : List Char
  type : DNSType
  klass : DNSClass
  nameBytesLength : Nat
  deriving DecidableEq, Repr

structure DNSResource where
  name : List Char
  type : DNSType
  klass : DNSClass
  TTL : UInt32
  dataLength : UInt16
  data : Data
  nameBytesLength : Nat
  deriving DecidableEq, Repr

/-- The type and the class behind a name. -/
def readTypeAndClass (scanner : BinaryDataScanner) :
    Except NoResult (DNSType × DNSClass × BinaryDataScanner) := do
  let (type, scanner) ← unwrap scanner.read16
  let type ← orNil (DNSType.ofRawValue type)
  let (klass, scanner) ← unwrap scanner.read16
  let klass ← orNil (DNSClass.ofRawValue klass)
  .ok (type, klass, scanner)

/-- Write the type and the class behind a name. -/
def writeTypeAndClass (type : DNSType) (klass : DNSClass) (payload : Data) (position : Nat) :
    Except NoResult Data := do
  let payload ← unwrap (payload.setPayloadWithUInt16 type.rawValue position true)
  unwrap (payload.setPayloadWithUInt16 klass.rawValue (position + 2) true)

namespace DNSQuery

/-- `DNSQuery(name:type:klass:)`. -/
def new (name : List Char) (type : DNSType) (klass : DNSClass) : DNSQuery :=
  { name := trimmedDots name, type := type, klass := klass,
    nameBytesLength := (encode name).length + 2 }

/-- `DNSQuery(payload:offset:base:)`. -/
def init (rounds : Nat) (payload : Data) (offset base : Nat) : Except NoResult DNSQuery := do
  let (name, nameBytesLength) ← getNamefromData rounds payload offset base
  let scanner : BinaryDataScanner := { data := payload, littleEndian := false, position := 0 }
  let (type, klass, _) ← readTypeAndClass (scanner.skip (offset + nameBytesLength))
  .ok { name := name, type := type, klass := klass, nameBytesLength := nameBytesLength }

def bytesLength (query : DNSQuery) : Nat :=
  query.nameBytesLength + 4

/-- `writeDNSQuery`. -/
def write (query : DNSQuery) (payload : Data) (position : Nat) : Except NoResult Data := do
  let payload ← setName query.name payload position
  writeTypeAndClass query.type query.klass payload (position + query.nameBytesLength)

end DNSQuery

namespace DNSResource

/-- `DNSResource(name:type:klass:TTL:data:)`; `none` is a trap. -/
def new (name : List Char) (type : DNSType) (klass : DNSClass) (TTL : UInt32) (data : Data) :
    Option DNSResource := do
  let dataLength ← exactlyUInt16 data.length
  some
    { name := name, type := type, klass := klass, TTL := TTL, dataLength := dataLength,
      data := data, nameBytesLength := (encode name).length + 2 }

/-- `ARecord`, with the bytes of `address.dataInNetworkOrder`. -/
def ARecord (name : List Char) (TTL : UInt32) (address : Data) : Option DNSResource :=
  new name .a .internet TTL address

/-- `DNSResource(payload:offset:base:)`. -/
def init (rounds : Nat) (payload : Data) (offset base : Nat) : Except NoResult DNSResource := do
  let (name, nameBytesLength) ← getNamefromData rounds payload offset base
  let scanner : BinaryDataScanner := { data := payload, littleEndian := false, position := 0 }
  let (type, klass, scanner) ← readTypeAndClass (scanner.skip (offset + nameBytesLength))
  let (TTL, scanner) ← unwrap scanner.read32
  let (dataLength, scanner) ← unwrap scanner.read16
  let data ← unwrap (payload.subdata scanner.position (scanner.position + dataLength.toNat))
  .ok
    { name := name, type := type, klass := klass, TTL := TTL, dataLength := dataLength,
      data := data, nameBytesLength := nameBytesLength }

def bytesLength (resource : DNSResource) : Nat :=
  resource.nameBytesLength + 10 + resource.dataLength.toNat

/-- `writeDNSResource`. -/
def write (resource : DNSResource) (payload : Data) (position : Nat) :
    Except NoResult Data := do
  let payload ← setName resource.name payload position
  let position := position + resource.nameBytesLength
  let payload ← writeTypeAndClass resource.type resource.klass payload position
  let payload ← unwrap (payload.setPayloadWithUInt32 resource.TTL (position + 4) true)
  let payload ← unwrap (payload.setPayloadWithUInt16 resource.dataLength (position + 8) true)
  -- `copyBytes`, which does not look where the payload ends
  unwrap (payload.write (position + 10) resource.data)

end DNSResource

/-! ## Lists of records -/

/-- `record!` -/
def forced {α : Type} : Except NoResult α → Except NoResult α
  | .error .refused => .error .trap
  | result => result

/-- A loop of `init?(payload:)`, and where the scanner stands behind the records. -/
def readRecords {α : Type} (read : Nat → Except NoResult α) (bytesLength : α → Nat) :
    Nat → BinaryDataScanner → Except NoResult (List α × BinaryDataScanner)
  | 0, scanner => .ok ([], scanner)
  | count + 1, scanner => do
      let record ← forced (read scanner.position)
      let (records, scanner) ←
        readRecords read bytesLength count (scanner.advance (bytesLength record))
      .ok (record :: records, scanner)

/-- `records.reduce(0) { $0 + $1.bytesLength }` -/
def totalLength {α : Type} (bytesLength : α → Nat) : List α → Nat
  | [] => 0
  | record :: records => bytesLength record + totalLength bytesLength records

/-- A loop of `writeAllRecordAt`, and the next position. -/
def writeRecords {α : Type} (write : α → Data → Nat → Except NoResult Data)
    (bytesLength : α → Nat) : List α → Data → Nat → Except NoResult (Data × Nat)
  | [], payload, position => .ok (payload, position)
  | record :: records, payload, position => do
      let payload ← write record payload position
      writeRecords write bytesLength records payload (position + bytesLength record)

/-! ## DNSMessage -/

structure DNSMessage where
  transactionID : UInt16
  messageType : DNSMessageType
  authoritative : Bool
  truncation : Bool
  recursionDesired : Bool
  recursionAvailable : Bool
  status : DNSReturnStatus
  queries : List DNSQuery
  answers : List DNSResource
  nameservers : List DNSResource
  addtionals : List DNSResource
  payload : Option Data
  deriving DecidableEq, Repr

namespace DNSMessage

/-- `DNSMessage()`. -/
def new : DNSMessage :=
  { transactionID := 0, messageType := .query, authoritative := false, truncation := false,
    recursionDesired := false, recursionAvailable := false, status := .success, queries := [],
    answers := [], nameservers := [], addtionals := [], payload := none }

/-- The third byte of the header. -/
def readFlags (message : DNSMessage) (byte : UInt8) : DNSMessage :=
  { message with
    messageType := if byte &&& 0x80 > 0 then .response else .query
    -- the operation code is ignored
    authoritative := byte &&& 0x04 > 0
    truncation := byte &&& 0x02 > 0
    recursionDesired := byte &&& 0x01 > 0 }

/-- The fourth byte of the header. -/
def readStatus (message : DNSMessage) (byte : UInt8) : DNSMessage :=
  { message with
    recursionAvailable := byte &&& 0x80 > 0
    status := (DNSReturnStatus.ofRawValue (byte &&& 0x0F)).getD .serverFailure }

/-- `init?(payload:)`. -/
def init (rounds : Nat) (payload : Data) : Except NoResult DNSMessage := do
  let scanner : BinaryDataScanner := { data := payload, littleEndian := false, position := 0 }
  let (transactionID, scanner) ← unwrap scanner.read16
  let (flags, scanner) ← unwrap scanner.readByte
  let (status, scanner) ← unwrap scanner.readByte
  let (queryCount, scanner) ← unwrap scanner.read16
  let (answerCount, scanner) ← unwrap scanner.read16
  let (nameserverCount, scanner) ← unwrap scanner.read16
  let (addtionalCount, scanner) ← unwrap scanner.read16
  let readQuery := fun offset => DNSQuery.init rounds payload offset 0
  let readResource := fun offset => DNSResource.init rounds payload offset 0
  let (queries, scanner) ←
    readRecords readQuery DNSQuery.bytesLength queryCount.toNat scanner
  let (answers, scanner) ←
    readRecords readResource DNSResource.bytesLength answerCount.toNat scanner
  let (nameservers, scanner) ←
    readRecords readResource DNSResource.bytesLength nameserverCount.toNat scanner
  let (addtionals, _) ←
    readRecords readResource DNSResource.bytesLength addtionalCount.toNat scanner
  let message : DNSMessage :=
    { new with
      transactionID := transactionID, queries := queries, answers := answers,
      nameservers := nameservers, addtionals := addtionals, payload := some payload }
  .ok ((message.readFlags flags).readStatus status)

def bytesLength (message : DNSMessage) : Nat :=
  12 + totalLength DNSQuery.bytesLength message.queries +
    totalLength DNSResource.bytesLength message.answers +
    totalLength DNSResource.bytesLength message.nameservers +
    totalLength DNSResource.bytesLength message.addtionals

/-- The third byte of the header; no sum overflows. -/
def flags (message : DNSMessage) : UInt8 :=
  (message.messageType.rawValue <<< 7) + (if message.authoritative then 4 else 0) +
    (if message.truncation then 2 else 0) + (if message.recursionDesired then 1 else 0)

/-- The fourth byte of the header; no sum overflows. -/
def statusByte (message : DNSMessage) : UInt8 :=
  (if message.recursionAvailable then 128 else 0) + message.status.rawValue

/-- `setPayloadWithUInt16(UInt16(records.count), at: position, swap: true)` -/
def writeCount (count : Nat) (payload : Data) (position : Nat) : Except NoResult Data := do
  let value ← unwrap (exactlyUInt16 count)
  unwrap (payload.setPayloadWithUInt16 value position true)

def writeAllRecordAt (message : DNSMessage) (payload : Data) (position : Nat) :
    Except NoResult Data := do
  let (payload, position) ←
    writeRecords DNSQuery.write DNSQuery.bytesLength message.queries payload position
  let (payload, position) ←
    writeRecords DNSResource.write DNSResource.bytesLength message.answers payload position
  let (payload, position) ←
    writeRecords DNSResource.write DNSResource.bytesLength message.nameservers payload position
  let (payload, _) ←
    writeRecords DNSResource.write DNSResource.bytesLength message.addtionals payload position
  .ok payload

/-- A message without a number is given one by `arc4random_uniform`. -/
def numbered (message : DNSMessage) (random : UInt16) : DNSMessage :=
  { message with
    transactionID := if message.transactionID = 0 then random else message.transactionID }

def buildMessage (message : DNSMessage) (random : UInt16) : Except NoResult DNSMessage := do
  let payload := Data.zeros message.bytesLength
  let message := message.numbered random
  let payload ← unwrap (payload.setPayloadWithUInt16 message.transactionID 0 true)
  let payload ← unwrap (payload.setPayloadWithUInt8 message.flags 2)
  let payload ← unwrap (payload.setPayloadWithUInt8 message.statusByte 3)
  let payload ← writeCount message.queries.length payload 4
  let payload ← writeCount message.answers.length payload 6
  let payload ← writeCount message.nameservers.length payload 8
  let payload ← writeCount message.addtionals.length payload 10
  let payload ← message.writeAllRecordAt payload 12
  .ok { message with payload := some payload }

def resolvedIPv4Address (message : DNSMessage) : Option IPAddress :=
  (message.answers.find? fun answer => answer.type = .a).map fun answer =>
    .fromBytesInNetworkOrder answer.data

end DNSMessage

/-! ## Messages that are read -/

/-- A name, a type and a class stand at a position. -/
structure HeadingAt (rounds : Nat) (payload : Data) (position : Nat) (name : List Char)
    (nameBytesLength : Nat) (type : DNSType) (klass : DNSClass) : Prop where
  labels : ∃ labels, NameAt payload position labels nameBytesLength ∧ labels.length < rounds ∧
    name = nameText labels
  typeAndClass : payload.HoldsAt (position + nameBytesLength)
    (bigEndian type.rawValue ++ bigEndian klass.rawValue)

def QueryAt (rounds : Nat) (payload : Data) (position : Nat) (query : DNSQuery) : Prop :=
  HeadingAt rounds payload position query.name query.nameBytesLength query.type query.klass

structure ResourceAt (rounds : Nat) (payload : Data) (position : Nat)
    (resource : DNSResource) : Prop where
  heading : HeadingAt rounds payload position resource.name resource.nameBytesLength
    resource.type resource.klass
  dataLength : resource.dataLength.toNat = resource.data.length
  holds : payload.HoldsAt (position + resource.nameBytesLength + 4)
    (bigEndian resource.TTL ++ bigEndian resource.dataLength ++ resource.data)

/-- Records stand one behind the other. -/
inductive RecordsAt {α : Type} (At : Nat → α → Prop) (bytesLength : α → Nat) :
    Nat → List α → Nat → Prop where
  | nil (position : Nat) : RecordsAt At bytesLength position [] position
  | cons {position finish : Nat} {record : α} {records : List α} (first : At position record)
      (rest : RecordsAt At bytesLength (position + bytesLength record) records finish) :
      RecordsAt At bytesLength position (record :: records) finish

theorem readTypeAndClass_eq {payload : Data} {position : Nat} {type : DNSType} {klass : DNSClass}
    (h : payload.HoldsAt position (bigEndian type.rawValue ++ bigEndian klass.rawValue)) :
    readTypeAndClass { data := payload, littleEndian := false, position := position } =
      .ok (type, klass, { data := payload, littleEndian := false, position := position + 4 }) := by
  obtain ⟨htype, hklass⟩ := Data.holdsAt_append.mp h
  rw [length_bigEndian] at hklass
  simp only [readTypeAndClass, unwrap_bind_eq_ok, orNil_bind_eq_ok, Prod.exists,
    BinaryDataScanner.read16]
  exact ⟨_, _, BinaryDataScanner.read_holds htype, _, DNSType.ofRawValue_rawValue type,
    _, _, BinaryDataScanner.read_holds hklass, _, DNSClass.ofRawValue_rawValue klass, rfl⟩

theorem DNSQuery.init_eq {rounds position : Nat} {payload : Data} {query : DNSQuery}
    (h : QueryAt rounds payload position query) : init rounds payload position 0 = .ok query := by
  obtain ⟨labels, hname, hrounds, htext⟩ := h.labels
  rw [init, getNamefromData_eq hname hrounds]
  simp only [bind, Except.bind, BinaryDataScanner.skip, readTypeAndClass_eq h.typeAndClass,
    ← htext]

theorem DNSResource.init_eq {rounds position : Nat} {payload : Data} {resource : DNSResource}
    (h : ResourceAt rounds payload position resource) :
    init rounds payload position 0 = .ok resource := by
  obtain ⟨labels, hname, hrounds, htext⟩ := h.heading.labels
  have hholds := h.holds
  simp only [Data.holdsAt_append, List.length_append, length_bigEndian, size_UInt16,
    size_UInt32] at hholds
  obtain ⟨⟨hTTL, hlength⟩, hdata⟩ := hholds
  obtain ⟨start, hstart⟩ : ∃ start, start = position + resource.nameBytesLength + 4 + 4 + 2 :=
    ⟨_, rfl⟩
  replace hdata : payload.HoldsAt start resource.data := hstart ▸ hdata
  have hbehind : start ≤ payload.length := by
    have hle := hlength.le (by rw [length_bigEndian]; decide)
    rwa [length_bigEndian, size_UInt16, ← hstart] at hle
  have hend : start + resource.data.length ≤ payload.length := by
    have hle := List.IsPrefix.length_le hdata
    rw [List.length_drop] at hle
    omega
  have hsubdata : payload.subdata start (start + resource.dataLength.toNat) =
      some resource.data :=
    hdata.subdata (by rw [h.dataLength]) (by rw [h.dataLength]; exact hend)
  rw [init, getNamefromData_eq hname hrounds]
  simp only [bind, Except.bind, BinaryDataScanner.skip,
    readTypeAndClass_eq h.heading.typeAndClass, BinaryDataScanner.read32,
    BinaryDataScanner.read16, BinaryDataScanner.read_holds hTTL, unwrap, size_UInt32,
    BinaryDataScanner.read_holds hlength, size_UInt16, ← hstart, hsubdata, ← htext]

/-- **A list** is read, a record in a round. -/
theorem readRecords_eq {α : Type} {At : Nat → α → Prop} {bytesLength : α → Nat}
    {position finish : Nat} {records : List α}
    (h : RecordsAt At bytesLength position records finish)
    {read : Nat → Except NoResult α}
    (hread : ∀ position record, At position record → read position = .ok record)
    (payload : Data) :
    readRecords read bytesLength records.length
        { data := payload, littleEndian := false, position := position } =
      .ok (records, { data := payload, littleEndian := false, position := finish }) := by
  induction h with
  | nil position => rfl
  | @cons position finish record records first rest ih =>
      have hadvance : (((position : Nat) : Int) + (bytesLength record : Nat)).toNat =
          position + bytesLength record := by omega
      simp only [List.length_cons, readRecords, hread _ _ first, forced, bind, Except.bind,
        BinaryDataScanner.advance, hadvance, ih]

namespace DNSMessage

/-- The header, with the bytes of its bits. -/
def header (message : DNSMessage) (flags status : UInt8) : Data :=
  bigEndian message.transactionID ++ [flags] ++ [status] ++
    bigEndian (UInt16.ofNat message.queries.length) ++
    bigEndian (UInt16.ofNat message.answers.length) ++
    bigEndian (UInt16.ofNat message.nameservers.length) ++
    bigEndian (UInt16.ofNat message.addtionals.length)

/-- No list is longer than its count can say. -/
structure Counted (message : DNSMessage) : Prop where
  queries : message.queries.length < 65536
  answers : message.answers.length < 65536
  nameservers : message.nameservers.length < 65536
  addtionals : message.addtionals.length < 65536

/-- The message stands in the payload. -/
structure LaidOut (rounds : Nat) (payload : Data) (flags status : UInt8)
    (message : DNSMessage) : Prop where
  counted : message.Counted
  header : payload.HoldsAt 0 (message.header flags status)
  records : ∃ first second third last,
    RecordsAt (QueryAt rounds payload) DNSQuery.bytesLength 12 message.queries first ∧
    RecordsAt (ResourceAt rounds payload) DNSResource.bytesLength first message.answers second ∧
    RecordsAt (ResourceAt rounds payload) DNSResource.bytesLength second
      message.nameservers third ∧
    RecordsAt (ResourceAt rounds payload) DNSResource.bytesLength third message.addtionals last
  flags : message.readFlags flags = message
  status : message.readStatus status = message
  payload : message.payload = some payload

/-- **A message** is read that is laid out in the payload. -/
theorem init_eq {rounds : Nat} {payload : Data} {flags status : UInt8} {message : DNSMessage}
    (h : LaidOut rounds payload flags status message) : init rounds payload = .ok message := by
  obtain ⟨first, second, third, last, hqueries, hanswers, hnameservers, haddtionals⟩ := h.records
  have hcount : ∀ {count : Nat}, count < 65536 → (UInt16.ofNat count).toNat = count := fun hlt =>
    UInt16.toNat_ofNat_of_lt' hlt
  have hheader := h.header
  simp only [header, Data.holdsAt_append, List.length_append, length_bigEndian, size_UInt16,
    List.length_cons, List.length_nil] at hheader
  obtain ⟨⟨⟨⟨⟨⟨hid, hflags⟩, hstatus⟩, hquery⟩, hanswer⟩, hnameserver⟩, haddtional⟩ := hheader
  rw [← bigEndian_UInt8] at hflags hstatus
  have hq := readRecords_eq hqueries (fun _ _ => DNSQuery.init_eq) payload
  have ha := readRecords_eq hanswers (fun _ _ => DNSResource.init_eq) payload
  have hn := readRecords_eq hnameservers (fun _ _ => DNSResource.init_eq) payload
  have hadd := readRecords_eq haddtionals (fun _ _ => DNSResource.init_eq) payload
  simp only [init, unwrap_bind_eq_ok, Prod.exists, BinaryDataScanner.readByte,
    BinaryDataScanner.read16]
  refine ⟨_, _, BinaryDataScanner.read_holds hid, _, _, BinaryDataScanner.read_holds hflags,
    _, _, BinaryDataScanner.read_holds hstatus, _, _, BinaryDataScanner.read_holds hquery,
    _, _, BinaryDataScanner.read_holds hanswer, _, _, BinaryDataScanner.read_holds hnameserver,
    _, _, BinaryDataScanner.read_holds haddtional, ?_⟩
  simp only [hcount h.counted.queries, hcount h.counted.answers, hcount h.counted.nameservers,
    hcount h.counted.addtionals, size_UInt16, size_UInt8, Nat.reduceAdd, hq, ha, hn, hadd,
    bind, Except.bind]
  have hbits : ((message.readFlags flags).readStatus status) = message := by
    rw [h.flags, h.status]
  rw [← hbits]
  obtain ⟨⟩ := message
  cases h.payload
  rfl

end DNSMessage

namespace DNSMessage

/-- A message keeps the payload that it was read from. -/
theorem payload_of_init {rounds : Nat} {payload : Data} {message : DNSMessage}
    (h : init rounds payload = .ok message) : message.payload = some payload := by
  simp only [init, bind_eq_ok] at h
  -- seven fields of the header and four lists
  obtain ⟨_, -, _, -, _, -, _, -, _, -, _, -, _, -, _, -, _, -, _, -, _, -, h⟩ := h
  cases h
  rfl

end DNSMessage

/-! ## Messages that are built -/

/-- A record, its bytes, how it is written and where it stands. -/
structure Wired {α : Type} (write : α → Data → Nat → Except NoResult Data)
    (bytesLength : α → Nat) (wire : α → Data) (At : Nat → Data → Nat → α → Prop)
    (record : α) : Prop where
  length : (wire record).length = bytesLength record
  written : ∀ (front : Data) (count : Nat), bytesLength record ≤ count →
    write record (front ++ Data.zeros count) front.length =
      .ok (front ++ wire record ++ Data.zeros (count - bytesLength record))
  stands : ∀ {rounds position : Nat} {payload : Data}, payload.length ≤ rounds →
    payload.HoldsAt position (wire record) → At rounds payload position record

section Lists

variable {α : Type} {write : α → Data → Nat → Except NoResult Data} {bytesLength : α → Nat}
  {wire : α → Data} {At : Nat → Data → Nat → α → Prop} {records : List α}

theorem length_flatMap_wire (h : ∀ record ∈ records, Wired write bytesLength wire At record) :
    (records.flatMap wire).length = totalLength bytesLength records := by
  induction records with
  | nil => rfl
  | cons record records ih =>
      obtain ⟨hrecord, hrecords⟩ := List.forall_mem_cons.mp h
      rw [List.flatMap_cons, List.length_append, hrecord.length, ih hrecords, totalLength]

/-- Records are written over zeros. -/
theorem writeRecords_eq (h : ∀ record ∈ records, Wired write bytesLength wire At record)
    (front : Data) {position count : Nat} (hposition : position = front.length)
    (hcount : totalLength bytesLength records ≤ count) :
    writeRecords write bytesLength records (front ++ Data.zeros count) position =
      .ok (front ++ records.flatMap wire ++ Data.zeros (count - totalLength bytesLength records),
        position + totalLength bytesLength records) := by
  induction records generalizing front position count with
  | nil => simp [writeRecords, totalLength]
  | cons record records ih =>
      obtain ⟨hrecord, hrecords⟩ := List.forall_mem_cons.mp h
      have hlength := hrecord.length
      subst hposition
      simp only [totalLength] at hcount ⊢
      have hnext : front.length + bytesLength record = (front ++ wire record).length := by
        rw [List.length_append, hlength]
      rw [writeRecords, hrecord.written front count (by omega)]
      simp only [bind, Except.bind]
      rw [ih hrecords (front ++ wire record) hnext (by omega)]
      simp only [List.flatMap_cons, List.append_assoc, Nat.sub_sub, Nat.add_assoc]

/-- Records that were written stand one behind the other. -/
theorem recordsAt_wire (h : ∀ record ∈ records, Wired write bytesLength wire At record)
    {rounds position : Nat} {payload : Data} (hrounds : payload.length ≤ rounds)
    (hholds : payload.HoldsAt position (records.flatMap wire)) :
    RecordsAt (At rounds payload) bytesLength position records
      (position + totalLength bytesLength records) := by
  induction records generalizing position with
  | nil => exact .nil position
  | cons record records ih =>
      obtain ⟨hrecord, hrecords⟩ := List.forall_mem_cons.mp h
      rw [List.flatMap_cons] at hholds
      obtain ⟨hfirst, hrest⟩ := Data.holdsAt_append.mp hholds
      rw [hrecord.length] at hrest
      have hfinish := RecordsAt.cons (hrecord.stands hrounds hfirst) (ih hrecords hrest)
      rwa [Nat.add_assoc] at hfinish

end Lists

/-- A legible name, and the length that is reserved for it. -/
structure Reserves (name : List Char) (nameBytesLength : Nat) : Prop where
  legible : Legible name
  nameBytesLength : nameBytesLength = (encode name).length + 2

theorem writeTypeAndClass_eq (front : Data) {type : DNSType} {klass : DNSClass}
    {position count : Nat} (hposition : position = front.length) (hcount : 4 ≤ count) :
    writeTypeAndClass type klass (front ++ Data.zeros count) position =
      .ok (front ++ (bigEndian type.rawValue ++ bigEndian klass.rawValue) ++
        Data.zeros (count - 4)) := by
  rw [writeTypeAndClass, Data.setPayloadWithUInt16_next front hposition (by omega)]
  simp only [unwrap, bind, Except.bind]
  rw [Data.setPayloadWithUInt16_next _ (by simp [hposition]) (by omega)]
  simp only [List.append_assoc, Nat.sub_sub]

/-- A name that stands in front of its type and its class. -/
theorem headingAt_wire {name : List Char} {nameBytesLength : Nat}
    (h : Reserves name nameBytesLength) {rounds position : Nat} {payload : Data}
    (hrounds : payload.length ≤ rounds) {type : DNSType} {klass : DNSClass}
    (hname : payload.HoldsAt position (DNSNameConverter.wire (components name ['.'])))
    (htypeAndClass : payload.HoldsAt (position + nameBytesLength)
      (bigEndian type.rawValue ++ bigEndian klass.rawValue)) :
    HeadingAt rounds payload position name nameBytesLength type klass := by
  have hlength := length_wire_components name
  have hlabels := length_lt_wire (components name ['.'])
  have hbehind := htypeAndClass.le (by
    rw [List.length_append, length_bigEndian, size_UInt16]
    omega)
  rw [List.length_append, length_bigEndian, length_bigEndian, size_UInt16] at hbehind
  have hreserved := h.nameBytesLength
  refine ⟨⟨components name ['.'], ?_, by omega, (nameText_components h.legible).symm⟩,
    htypeAndClass⟩
  rw [hreserved, ← hlength]
  exact nameAt_wire h.legible hname (by omega)

/-- The bytes of a name are written over zeros. -/
theorem setName_eq {name : List Char} {nameBytesLength : Nat}
    (h : Reserves name nameBytesLength) (front : Data) {count : Nat}
    (hcount : nameBytesLength ≤ count) :
    setName name (front ++ Data.zeros count) front.length =
      .ok (front ++ DNSNameConverter.wire (components name ['.']) ++
        Data.zeros (count - nameBytesLength)) := by
  have hlength := length_wire_components name
  rw [← h.nameBytesLength] at hlength
  rw [setName, setLabels_eq h.legible front rfl (by omega), hlength]

namespace DNSQuery

def wire (query : DNSQuery) : Data :=
  DNSNameConverter.wire (components query.name ['.']) ++
    (bigEndian query.type.rawValue ++ bigEndian query.klass.rawValue)

/-- **A question**, written and standing. -/
theorem wired {query : DNSQuery} (h : Reserves query.name query.nameBytesLength) :
    Wired write bytesLength wire QueryAt query := by
  have hname := length_wire_components query.name
  rw [← h.nameBytesLength] at hname
  refine ⟨?_, fun front count hcount => ?_, fun hrounds hholds => ?_⟩
  · simp only [wire, List.length_append, hname, length_bigEndian, size_UInt16, bytesLength]
  · rw [bytesLength] at hcount
    rw [write, setName_eq h front (by omega)]
    simp only [bind, Except.bind]
    rw [writeTypeAndClass_eq _ (by rw [List.length_append, hname]) (by omega)]
    simp only [wire, List.append_assoc, Nat.sub_sub, bytesLength]
  · obtain ⟨hfirst, hrest⟩ := Data.holdsAt_append.mp hholds
    rw [hname] at hrest
    exact headingAt_wire h hrounds hfirst hrest

end DNSQuery

namespace DNSResource

/-- What is reserved for a resource fits. -/
structure Fits (resource : DNSResource) : Prop where
  name : Reserves resource.name resource.nameBytesLength
  dataLength : resource.dataLength.toNat = resource.data.length

def wire (resource : DNSResource) : Data :=
  DNSNameConverter.wire (components resource.name ['.']) ++
    (bigEndian resource.type.rawValue ++ bigEndian resource.klass.rawValue) ++
    (bigEndian resource.TTL ++ bigEndian resource.dataLength ++ resource.data)

/-- **A resource**, written and standing. -/
theorem wired {resource : DNSResource} (h : resource.Fits) :
    Wired write bytesLength wire ResourceAt resource := by
  have hname := length_wire_components resource.name
  rw [← h.name.nameBytesLength] at hname
  have hdata := h.dataLength
  refine ⟨?_, fun front count hcount => ?_, fun hrounds hholds => ?_⟩
  · simp only [wire, List.length_append, hname, length_bigEndian, size_UInt16, size_UInt32,
      bytesLength, hdata]
    omega
  · rw [bytesLength] at hcount
    rw [write, setName_eq h.name front (by omega)]
    simp only [bind, Except.bind]
    rw [writeTypeAndClass_eq _ (by rw [List.length_append, hname]) (by omega)]
    simp only [unwrap]
    rw [Data.setPayloadWithUInt32_next _ (by simp [hname]; omega) (by omega)]
    simp only
    rw [Data.setPayloadWithUInt16_next _ (by simp [hname]; omega) (by omega)]
    simp only
    rw [Data.write_next _ (by simp [hname]; omega) (by omega)]
    simp only [wire, List.append_assoc, Nat.sub_sub, bytesLength, hdata, Nat.add_assoc,
      Nat.reduceAdd]
  · obtain ⟨hheading, hrest⟩ := Data.holdsAt_append.mp hholds
    obtain ⟨hfirst, htypeAndClass⟩ := Data.holdsAt_append.mp hheading
    rw [hname] at htypeAndClass
    rw [List.length_append, hname, List.length_append, length_bigEndian, length_bigEndian] at hrest
    exact ⟨headingAt_wire h.name hrounds hfirst htypeAndClass, hdata, by
      rw [Nat.add_assoc]; exact hrest⟩

end DNSResource

namespace DNSMessage

theorem readFlags_flags (message : DNSMessage) : message.readFlags message.flags = message := by
  obtain ⟨transactionID, messageType, authoritative, truncation, recursionDesired⟩ := message
  cases messageType <;> cases authoritative <;> cases truncation <;> cases recursionDesired <;>
    simp [readFlags, flags, DNSMessageType.rawValue] <;> decide

theorem readStatus_statusByte (message : DNSMessage) :
    message.readStatus message.statusByte = message := by
  obtain ⟨_, _, _, _, _, recursionAvailable, status⟩ := message
  cases recursionAvailable <;> cases status <;>
    simp [readStatus, statusByte, DNSReturnStatus.rawValue, DNSReturnStatus.ofRawValue] <;> decide

/-- All records of the message fit. -/
structure Fits (message : DNSMessage) : Prop where
  counted : message.Counted
  queries : ∀ query ∈ message.queries, Reserves query.name query.nameBytesLength
  answers : ∀ resource ∈ message.answers, resource.Fits
  nameservers : ∀ resource ∈ message.nameservers, resource.Fits
  addtionals : ∀ resource ∈ message.addtionals, resource.Fits

/-- The records of the message. -/
def wire (message : DNSMessage) : Data :=
  message.queries.flatMap DNSQuery.wire ++ message.answers.flatMap DNSResource.wire ++
    message.nameservers.flatMap DNSResource.wire ++ message.addtionals.flatMap DNSResource.wire

theorem length_header (message : DNSMessage) (flags status : UInt8) :
    (message.header flags status).length = 12 := by
  simp [header]

theorem Fits.wired_queries {message : DNSMessage} (h : message.Fits) :
    ∀ query ∈ message.queries,
      Wired DNSQuery.write DNSQuery.bytesLength DNSQuery.wire QueryAt query :=
  fun query hquery => DNSQuery.wired (h.queries query hquery)

theorem wired_resources {resources : List DNSResource} (h : ∀ resource ∈ resources, resource.Fits) :
    ∀ resource ∈ resources,
      Wired DNSResource.write DNSResource.bytesLength DNSResource.wire ResourceAt resource :=
  fun resource hresource => DNSResource.wired (h resource hresource)

theorem length_wire {message : DNSMessage} (h : message.Fits) :
    12 + message.wire.length = message.bytesLength := by
  rw [wire, bytesLength, List.length_append, List.length_append, List.length_append,
    length_flatMap_wire h.wired_queries, length_flatMap_wire (wired_resources h.answers),
    length_flatMap_wire (wired_resources h.nameservers),
    length_flatMap_wire (wired_resources h.addtionals)]
  omega

theorem writeCount_eq (front : Data) {length position count : Nat} (hlength : length < 65536)
    (hposition : position = front.length) (hcount : 2 ≤ count) :
    writeCount length (front ++ Data.zeros count) position =
      .ok (front ++ bigEndian (UInt16.ofNat length) ++ Data.zeros (count - 2)) := by
  rw [writeCount, exactlyUInt16, if_pos hlength]
  simp only [unwrap, bind, Except.bind]
  rw [Data.setPayloadWithUInt16_next front hposition hcount]

/-- All records are written over zeros. -/
theorem writeAllRecordAt_eq {message : DNSMessage} (h : message.Fits) (front : Data)
    {position : Nat} (hposition : position = front.length) :
    message.writeAllRecordAt (front ++ Data.zeros message.wire.length) position =
      .ok (front ++ message.wire) := by
  have hlength := length_wire h
  rw [bytesLength] at hlength
  have hq := h.wired_queries
  have ha := wired_resources h.answers
  have hn := wired_resources h.nameservers
  have hadd := wired_resources h.addtionals
  have hqueries := length_flatMap_wire hq
  have hanswers := length_flatMap_wire ha
  have hnameservers := length_flatMap_wire hn
  rw [writeAllRecordAt, writeRecords_eq hq front hposition (by omega)]
  simp only [bind, Except.bind]
  rw [writeRecords_eq ha _ (by simp [hposition, hqueries]) (by omega)]
  simp only
  rw [writeRecords_eq hn _ (by simp [hposition, hqueries, hanswers]; omega)
    (by omega)]
  simp only
  rw [writeRecords_eq hadd _
    (by simp [hposition, hqueries, hanswers, hnameservers]; omega) (by omega)]
  have hrest : message.wire.length - totalLength DNSQuery.bytesLength message.queries -
      totalLength DNSResource.bytesLength message.answers -
      totalLength DNSResource.bytesLength message.nameservers -
      totalLength DNSResource.bytesLength message.addtionals = 0 := by omega
  simp only [hrest, Data.zeros, List.replicate_zero, List.append_nil]
  simp only [wire, List.append_assoc]

/-- The bytes of a message. -/
def payloadBytes (message : DNSMessage) : Data :=
  message.header message.flags message.statusByte ++ message.wire

theorem length_payloadBytes {message : DNSMessage} (h : message.Fits) :
    message.payloadBytes.length = message.bytesLength := by
  rw [payloadBytes, List.length_append, length_header, length_wire h]

theorem Fits.numbered {message : DNSMessage} (h : message.Fits) (random : UInt16) :
    (message.numbered random).Fits :=
  ⟨⟨h.counted.queries, h.counted.answers, h.counted.nameservers, h.counted.addtionals⟩,
    h.queries, h.answers, h.nameservers, h.addtionals⟩

/-- **The payload** of a message that is built. -/
theorem buildMessage_eq {message : DNSMessage} (h : message.Fits) (random : UInt16) :
    message.buildMessage random =
      .ok
        { message.numbered random with
          payload := some (message.numbered random).payloadBytes } := by
  obtain ⟨sent, hsent⟩ : ∃ sent, sent = message.numbered random := ⟨_, rfl⟩
  have hfits : sent.Fits := hsent ▸ h.numbered random
  have hbytesLength : message.bytesLength = sent.wire.length + 12 := by
    rw [Nat.add_comm, length_wire hfits, hsent]
    rfl
  have hcounted := hfits.counted
  rw [buildMessage, hbytesLength, ← hsent]
  have hid : (Data.zeros (sent.wire.length + 12)).setPayloadWithUInt16 sent.transactionID 0 true =
      some (bigEndian sent.transactionID ++ Data.zeros (sent.wire.length + 10)) :=
    @Data.setPayloadWithUInt16_next [] sent.transactionID 0 (sent.wire.length + 12) rfl (by omega)
  simp only [hid, unwrap, bind, Except.bind]
  rw [Data.setPayloadWithUInt8_next _ (by simp) (by omega)]
  simp only
  rw [Data.setPayloadWithUInt8_next _ (by simp) (by omega)]
  simp only
  rw [writeCount_eq _ hcounted.queries (by simp) (by omega)]
  simp only
  rw [writeCount_eq _ hcounted.answers (by simp) (by omega)]
  simp only
  rw [writeCount_eq _ hcounted.nameservers (by simp) (by omega)]
  simp only
  rw [writeCount_eq _ hcounted.addtionals (by simp) (by omega)]
  simp only [Nat.add_sub_cancel, Nat.reduceSubDiff]
  rw [← header, writeAllRecordAt_eq hfits _ (length_header _ _ _).symm]
  rfl

/-- A message that was built stands in its payload. -/
theorem laidOut_payloadBytes {message : DNSMessage} (h : message.Fits) {rounds : Nat}
    (hrounds : message.payloadBytes.length ≤ rounds) :
    LaidOut rounds message.payloadBytes message.flags message.statusByte
      { message with payload := some message.payloadBytes } := by
  have hheader := length_header message message.flags message.statusByte
  have hholds : message.payloadBytes.HoldsAt 12 message.wire := by
    rw [← hheader]
    exact Data.holdsAt_back _ _
  simp only [wire, Data.holdsAt_append] at hholds
  obtain ⟨⟨⟨hqueries, hanswers⟩, hnameservers⟩, haddtionals⟩ := hholds
  have hq := h.wired_queries
  have ha := wired_resources h.answers
  have hn := wired_resources h.nameservers
  have hadd := wired_resources h.addtionals
  simp only [List.length_append, length_flatMap_wire hq, length_flatMap_wire ha,
    length_flatMap_wire hn, ← Nat.add_assoc] at hanswers hnameservers haddtionals
  have hcounted := h.counted
  refine ⟨⟨hcounted.queries, hcounted.answers, hcounted.nameservers, hcounted.addtionals⟩,
    Data.holdsAt_front _ _, ⟨_, _, _, _, recordsAt_wire hq hrounds hqueries,
    recordsAt_wire ha hrounds hanswers,
    recordsAt_wire hn hrounds hnameservers,
    recordsAt_wire hadd hrounds haddtionals⟩, ?_, ?_, rfl⟩
  · exact congrArg (fun m : DNSMessage => { m with payload := some message.payloadBytes })
      (readFlags_flags message)
  · exact congrArg (fun m : DNSMessage => { m with payload := some message.payloadBytes })
      (readStatus_statusByte message)

/-- **Round trip.**  A message that was built is read as it was, under its number. -/
theorem buildMessage_reads_back {message : DNSMessage} (h : message.Fits) (random : UInt16) :
    ∃ built payload, message.buildMessage random = .ok built ∧
      built = { message.numbered random with payload := some payload } ∧
      payload.length = message.bytesLength ∧
      ∀ rounds, payload.length ≤ rounds → init rounds payload = .ok built := by
  have hfits := h.numbered random
  exact ⟨_, _, buildMessage_eq h random, rfl, length_payloadBytes hfits, fun rounds hrounds =>
    init_eq (laidOut_payloadBytes hfits hrounds)⟩

/-- An answer for a name of two labels. -/
def answered : DNSMessage :=
  { new with
    transactionID := 7, messageType := .response, recursionAvailable := true,
    answers :=
      [{ name := "a.bc".toList, type := .a, klass := .internet, TTL := 300, dataLength := 4,
         data := [198, 18, 0, 1], nameBytesLength := 6 }] }

theorem legible_two : Legible "a.bc".toList := by
  have hlabels : components "a.bc".toList ['.'] = [['a'], ['b', 'c']] := by decide
  intro label hlabel
  rw [hlabels] at hlabel
  simp only [List.mem_cons, List.not_mem_nil, or_false] at hlabel
  rcases hlabel with rfl | rfl
  · decide
  · decide

theorem answered_fits : answered.Fits := by
  refine ⟨⟨by decide, by decide, by decide, by decide⟩, nofun, fun resource hresource => ?_,
    nofun, nofun⟩
  rw [List.mem_singleton.mp hresource]
  exact ⟨⟨legible_two, rfl⟩, rfl⟩

theorem answered_reads_back :
    ∃ built payload, answered.buildMessage 9 = .ok built ∧ built.transactionID = 7 ∧
      payload.length = 32 ∧ init 32 payload = .ok built := by
  obtain ⟨built, payload, hbuilt, hmessage, hlength, hread⟩ :=
    buildMessage_reads_back answered_fits 9
  have hthirtyTwo : payload.length = 32 := hlength
  exact ⟨built, payload, hbuilt, by rw [hmessage]; rfl, hthirtyTwo, hread 32 (by omega)⟩

/-! ## Messages that are not read -/

theorem bind_ne_refused {α β : Type} {first : Except NoResult α} {next : α → Except NoResult β}
    (hfirst : first ≠ .error .refused) (hnext : ∀ a, next a ≠ .error .refused) :
    (first >>= next) ≠ .error .refused := by
  cases first with
  | error reason => exact fun h => hfirst (congrArg Except.error (Except.error.inj h))
  | ok a => exact hnext a

theorem unwrap_ne_refused {α : Type} (value : Option α) : unwrap value ≠ .error .refused := by
  cases value <;> simp [unwrap]

theorem forced_ne_refused {α : Type} (record : Except NoResult α) :
    forced record ≠ .error .refused := by
  rcases record with reason | a
  · cases reason <;> simp [forced]
  · simp [forced]

theorem readRecords_ne_refused {α : Type} (read : Nat → Except NoResult α) (bytesLength : α → Nat)
    (count : Nat) (scanner : BinaryDataScanner) :
    readRecords read bytesLength count scanner ≠ .error .refused := by
  induction count generalizing scanner with
  | zero => nofun
  | succ count ih =>
      exact bind_ne_refused (forced_ne_refused _) fun record =>
        bind_ne_refused (ih _) fun _ => nofun

/-- **Never refused.**  The initializer may answer `nil`, and its callers look for that, but it
never does: every payload is read, or a trap, or read for ever. -/
theorem init_never_refused (rounds : Nat) (payload : Data) :
    init rounds payload ≠ .error .refused := by
  -- the twelve bytes of the header, and then the four lists
  refine bind_ne_refused (unwrap_ne_refused _) fun _ => ?_
  refine bind_ne_refused (unwrap_ne_refused _) fun _ => ?_
  refine bind_ne_refused (unwrap_ne_refused _) fun _ => ?_
  refine bind_ne_refused (unwrap_ne_refused _) fun _ => ?_
  refine bind_ne_refused (unwrap_ne_refused _) fun _ => ?_
  refine bind_ne_refused (unwrap_ne_refused _) fun _ => ?_
  refine bind_ne_refused (unwrap_ne_refused _) fun _ => ?_
  refine bind_ne_refused (readRecords_ne_refused _ _ _ _) fun _ => ?_
  refine bind_ne_refused (readRecords_ne_refused _ _ _ _) fun _ => ?_
  refine bind_ne_refused (readRecords_ne_refused _ _ _ _) fun _ => ?_
  exact bind_ne_refused (readRecords_ne_refused _ _ _ _) fun _ => nofun

/-- A type or a class that is not in its table. -/
theorem readTypeAndClass_unknown {payload : Data} {position : Nat} {type klass : UInt16}
    (h : payload.HoldsAt position (bigEndian type ++ bigEndian klass))
    (hunknown : DNSType.ofRawValue type = none ∨ DNSClass.ofRawValue klass = none) :
    readTypeAndClass { data := payload, littleEndian := false, position := position } =
      .error .refused := by
  obtain ⟨htype, hklass⟩ := Data.holdsAt_append.mp h
  rw [length_bigEndian] at hklass
  rw [readTypeAndClass, BinaryDataScanner.read16, BinaryDataScanner.read_holds htype]
  simp only [unwrap, bind, Except.bind]
  cases htable : DNSType.ofRawValue type with
  | none => rfl
  | some known =>
      have hnone : DNSClass.ofRawValue klass = none := hunknown.resolve_left (by simp [htable])
      simp only [orNil, BinaryDataScanner.read16, BinaryDataScanner.read_holds hklass, hnone]

/-- **Unknown question.**  A message that begins with a question of a type or a class that is not
in its table is a trap. -/
theorem init_unknown_question {rounds count : Nat} {payload : Data} {labels : List (List Char)}
    {queryCount type klass : UInt16} (hheader : 12 ≤ payload.length)
    (hcount : payload.HoldsAt 4 (bigEndian queryCount)) (hquestion : queryCount ≠ 0)
    (hname : NameAt payload 12 labels count) (hrounds : labels.length < rounds)
    (htypeAndClass : payload.HoldsAt (12 + count) (bigEndian type ++ bigEndian klass))
    (hunknown : DNSType.ofRawValue type = none ∨ DNSClass.ofRawValue klass = none) :
    init rounds payload = .error .trap := by
  have hquery : DNSQuery.init rounds payload 12 0 = .error .refused := by
    rw [DNSQuery.init, getNamefromData_eq hname hrounds]
    simp only [bind, Except.bind, BinaryDataScanner.skip,
      readTypeAndClass_unknown htypeAndClass hunknown]
  obtain ⟨questions, hquestions⟩ : ∃ n, queryCount.toNat = n + 1 := by
    have hne : queryCount.toNat ≠ 0 := fun h => hquestion (UInt16.toNat_inj.mp h)
    exact ⟨queryCount.toNat - 1, by omega⟩
  have hread : ∀ {position : Nat}, position + 2 ≤ 12 → ∃ value : UInt16, BinaryDataScanner.read
      { data := payload, littleEndian := false, position := position } =
        some (value, { data := payload, littleEndian := false, position := position + 2 }) :=
    fun h => ⟨_, BinaryDataScanner.read_network.mpr ⟨by rw [size_UInt16]; omega, rfl, rfl⟩⟩
  have hreadByte : ∀ {position : Nat}, position + 1 ≤ 12 →
      ∃ value : UInt8, BinaryDataScanner.read
        { data := payload, littleEndian := false, position := position } =
          some (value, { data := payload, littleEndian := false, position := position + 1 }) :=
    fun h => ⟨_, BinaryDataScanner.read_network.mpr ⟨by rw [size_UInt8]; omega, rfl, rfl⟩⟩
  obtain ⟨id, hid⟩ := @hread 0 (by omega)
  obtain ⟨flags, hflags⟩ := @hreadByte 2 (by omega)
  obtain ⟨status, hstatus⟩ := @hreadByte 3 (by omega)
  obtain ⟨answers, hanswers⟩ := @hread 6 (by omega)
  obtain ⟨nameservers, hnameservers⟩ := @hread 8 (by omega)
  obtain ⟨addtionals, haddtionals⟩ := @hread 10 (by omega)
  simp only [init, BinaryDataScanner.read16, BinaryDataScanner.readByte, hid, hflags, hstatus,
    BinaryDataScanner.read_holds hcount, hanswers, hnameservers, haddtionals, unwrap, bind,
    Except.bind, Nat.reduceAdd, size_UInt16, hquestions, readRecords, hquery, forced]

/-- A question for the service binding of `a`. -/
def serviceQuestion : Data :=
  [0, 7, 1, 0, 0, 1, 0, 0, 0, 0, 0, 0, 1, 97, 0, 0, 65, 0, 1]

theorem init_serviceQuestion : init 2 serviceQuestion = .error .trap := by
  have hname : NameAt serviceQuestion 12 [['a']] 3 := by
    refine nameAt_wire (fun label hlabel => ?_) (by decide) (by decide)
    rw [List.mem_singleton.mp hlabel]
    decide
  exact @init_unknown_question _ _ _ _ 1 65 1 (by decide) (by decide) (by decide) hname (by decide)
    (by decide) (Or.inl rfl)

end DNSMessage

end QLadder
