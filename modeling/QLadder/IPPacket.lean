import QLadder.BinaryDataScanner
import QLadder.NEKitRules
import QLadder.OnesComplement

/-!
# Packets

NEKit's IPv4 packets that carry UDP.  `IPPacket.init` reads one, `buildPacket`
lays one out with both checksums, and the `peek` functions look at single fields
without reading the packet.

* `buildPacket_reads_back` — a packet that was built is read as what it was
  built from;
* `buildPacket_checksums` — both checksums of such a packet are right;
* `buildPacket_iff` — when a packet can be built: the sum for the checksum has the
  length of the segment in its upper half, and a carry out of it traps;
* `peek_of_init` — what the `peek` functions answer for a packet that can be read.
-/

namespace QLadder

open BinaryReadable OnesComplement

/-! ## Checksum -/

namespace Checksum

/-- The sum of two `UInt32`; an overflow traps. -/
def addUInt32 (a b : Nat) : Option Nat :=
  if a + b < 4294967296 then some (a + b) else none

/-- The loop over the words. -/
def addWords (scanner : BinaryDataScanner) (finish result : Nat) :
    Option (BinaryDataScanner × Nat) :=
  if scanner.position + 2 ≤ finish then
    match _h : scanner.read16 with
    | none => none
    | some (value, after) =>
        match addUInt32 result value.toNat with
        | none => none
        | some result => addWords after finish result
  else
    some (scanner, result)
termination_by finish - scanner.position
decreasing_by
  rename_i hle _
  obtain ⟨-, -, rfl⟩ := BinaryDataScanner.read_eq_some.mp _h
  simp only [size]
  omega

def computeChecksumUnfold (data : Data) (start : Nat) (finish : Option Nat)
    (initChecksum : Nat) : Option Nat :=
  let finish := finish.getD data.length
  let scanner : BinaryDataScanner :=
    { data := data, littleEndian := true, position := start }
  match addWords scanner finish initChecksum with
  | none => none
  | some (scanner, result) =>
      if scanner.position ≠ finish then
        -- data is of odd size
        scanner.readByte.bind fun (value, _) => addUInt32 result value.toNat
      else
        some result

/-- The loop of `toChecksum`. -/
def foldCarries (result : Nat) : Nat :=
  if result >>> 16 ≠ 0 then foldCarries (result >>> 16 + (result &&& 0xFFFF)) else result
termination_by result
decreasing_by
  rename_i h
  have hdiv := Nat.div_add_mod result 65536
  rw [Nat.shiftRight_eq_div_pow] at h ⊢
  have hmod : result &&& 0xFFFF = result % 65536 := Nat.and_two_pow_sub_one_eq_mod result 16
  omega

def toChecksum (checksum : Nat) : UInt16 :=
  ~~~ UInt16.ofNat (foldCarries checksum)

def computeChecksum (data : Data) (start : Nat) (finish : Option Nat) (initChecksum : Nat) :
    Option UInt16 :=
  (computeChecksumUnfold data start finish initChecksum).map toChecksum

def validateChecksum (payload : Data) (start : Nat) (finish : Option Nat) : Option Bool :=
  (computeChecksumUnfold payload start finish 0).map fun cs => toChecksum cs == 0

/-- The loop brings the carries back in. -/
theorem foldCarries_eq (n : Nat) : foldCarries n = fold 65536 n := by
  fun_induction foldCarries n with
  | case1 n h ih =>
      rw [Nat.shiftRight_eq_div_pow] at h
      have hmod : n &&& 0xFFFF = n % 65536 := Nat.and_two_pow_sub_one_eq_mod n 16
      rw [ih, Nat.shiftRight_eq_div_pow, hmod]
      exact (fold_of_le (by decide) (by omega)).symm
  | case2 n h =>
      rw [Nat.shiftRight_eq_div_pow] at h
      exact (fold_of_lt (by omega)).symm

theorem toNat_toChecksum (n : Nat) : (toChecksum n).toNat = complement 65536 n := by
  have hlt : fold 65536 n < 65536 := fold_lt (by decide) n
  rw [toChecksum, UInt16.toNat_not, foldCarries_eq, UInt16.toNat_ofNat_of_lt' hlt, complement]

/-- A checksum of zero. -/
theorem toChecksum_eq_zero (n : Nat) : toChecksum n = 0 ↔ fold 65536 n = 65535 := by
  have hlt : fold 65536 n < 65536 := fold_lt (by decide) n
  have hchecksum := toNat_toChecksum n
  rw [complement] at hchecksum
  rw [← UInt16.toNat_inj, hchecksum]
  constructor
  · intro h
    have hzero : 65536 - 1 - fold 65536 n = 0 := h
    omega
  · intro h
    rw [h]
    rfl

/-- **Together with its checksum** a sum validates. -/
theorem toChecksum_add (n : Nat) : toChecksum (n + (toChecksum n).toNat) = 0 := by
  rw [toChecksum_eq_zero, toNat_toChecksum]
  exact fold_add_complement (by decide) n

theorem wordSum_bytes (value : UInt16) : wordSum (bytes value) = value.toNat := by
  have hlt := value.toNat_lt
  simp only [bytes, size, Data.ofNumber, BinaryReadable.toNat, wordSum, UInt8.toNat_ofNat']
  omega

theorem addUInt32_eq_some {a b sum : Nat} :
    addUInt32 a b = some sum ↔ a + b < 4294967296 ∧ sum = a + b := by
  rw [addUInt32, Option.ite_none_right_eq_some, Option.some.injEq, eq_comm (a := sum)]

/-- Two sums are one. -/
theorem addUInt32_add (a b c : Nat) :
    (addUInt32 a b).bind (addUInt32 · c) = addUInt32 a (b + c) := by
  by_cases hb : a + b < 4294967296
  · rw [addUInt32, if_pos hb, Option.bind_some, addUInt32, addUInt32, Nat.add_assoc]
  · rw [addUInt32, if_neg hb, addUInt32, if_neg (by omega), Option.bind_none]

/-- A round of the loop. -/
theorem addWords_word {data : Data} {position finish : Nat} {value : UInt16}
    (hholds : data.HoldsAt position (bytes value)) (hfinish : position + 2 ≤ finish)
    (result : Nat) :
    addWords { data := data, littleEndian := true, position := position } finish result =
      (addUInt32 result value.toNat).bind
        (addWords { data := data, littleEndian := true, position := position + 2 } finish) := by
  have hread := BinaryDataScanner.read_holds_little hholds
  rw [addWords, if_pos hfinish]
  split
  · rename_i hnone
    rw [BinaryDataScanner.read16, hread] at hnone
    contradiction
  · rename_i value' after hsome
    rw [BinaryDataScanner.read16, hread, Option.some.injEq, Prod.mk.injEq] at hsome
    obtain ⟨rfl, rfl⟩ := hsome
    cases addUInt32 result value.toNat <;> rfl

/-- The loop adds the words, as long as the sum does not overflow. -/
theorem addWords_words {data words : Data} {position finish result : Nat}
    (hholds : data.HoldsAt position words) (heven : words.length % 2 = 0)
    (hfinish : position + words.length ≤ finish) (hresult : result < 4294967296) :
    addWords { data := data, littleEndian := true, position := position } finish result =
      (addUInt32 result (wordSum words)).bind
        (addWords { data := data, littleEndian := true, position := position + words.length }
          finish) := by
  induction words using wordSum.induct generalizing position result with
  | case1 => simp [wordSum, addUInt32, hresult]
  | case2 low => simp at heven
  | case3 low high rest ih =>
      have hvalue : bytes (load [low, high] : UInt16) = [low, high] := bytes_load rfl
      obtain ⟨hword, hrest⟩ := Data.holdsAt_append.mp
        (show data.HoldsAt position ([low, high] ++ rest) from hholds)
      replace hrest : data.HoldsAt (position + 2) rest := hrest
      have hsum := wordSum_bytes (load [low, high])
      rw [hvalue] at hsum
      have hwords : wordSum (low :: high :: rest) =
          (load [low, high] : UInt16).toNat + wordSum rest := by
        rw [← hsum]
        simp [wordSum]
      simp only [List.length_cons] at heven hfinish ⊢
      rw [hwords, ← addUInt32_add, addWords_word (hvalue ▸ hword) (by omega)]
      cases hadd : addUInt32 result (load [low, high] : UInt16).toNat with
      | none => rfl
      | some sum =>
          obtain ⟨hlt, rfl⟩ := addUInt32_eq_some.mp hadd
          have hposition : position + (rest.length + 1 + 1) = position + 2 + rest.length := by
            omega
          rw [Option.bind_some, Option.bind_some, hposition]
          exact ih hrest (by omega) (by omega) hlt

/-- **The sum** of the words between two places. -/
theorem computeChecksumUnfold_eq {data part : Data} {start : Nat} {finish : Option Nat}
    (hholds : data.HoldsAt start part) (hfinish : finish.getD data.length = start + part.length)
    {initChecksum : Nat} (hinit : initChecksum < 4294967296) :
    computeChecksumUnfold data start finish initChecksum =
      addUInt32 initChecksum (wordSum part) := by
  have hstop : ∀ sum position, finish.getD data.length < position + 2 →
      addWords { data := data, littleEndian := true, position := position }
        (finish.getD data.length) sum =
      some ({ data := data, littleEndian := true, position := position }, sum) := by
    intro sum position hlt
    rw [addWords, if_neg (by simpa using hlt)]
  by_cases heven : part.length % 2 = 0
  · rw [computeChecksumUnfold, addWords_words hholds heven (by omega) hinit]
    cases hadd : addUInt32 initChecksum (wordSum part) with
    | none => rfl
    | some sum =>
        rw [Option.bind_some, hstop sum _ (by omega)]
        simp [hfinish]
  · -- the last byte is left over
    obtain ⟨words, low, rfl⟩ : ∃ words low, part = words ++ [low] := by
      refine ⟨part.dropLast, part.getLast ?_, (List.dropLast_concat_getLast _).symm⟩
      rintro rfl
      simp at heven
    have hwords : words.length % 2 = 0 := by
      simp only [List.length_append, List.length_cons, List.length_nil] at heven
      omega
    obtain ⟨hfront, hlow⟩ := Data.holdsAt_append.mp hholds
    simp only [List.length_append, List.length_cons, List.length_nil] at hfinish
    have hread := BinaryDataScanner.read_holds_little ((bytes_UInt8 low).symm ▸ hlow)
    rw [computeChecksumUnfold, addWords_words hfront hwords (by omega) hinit,
      wordSum_append _ hwords, ← addUInt32_add]
    cases hadd : addUInt32 initChecksum (wordSum words) with
    | none => rfl
    | some sum =>
        rw [Option.bind_some, hstop sum _ (by omega)]
        simp only
        rw [if_pos (by omega), BinaryDataScanner.readByte, hread]
        rfl

end Checksum
/-! ## Ports and addresses -/

/-- A port, as it stands in memory. -/
structure Port where
  inport : UInt16
  deriving DecidableEq, Repr

namespace Port

/-- `Port(port:)`. -/
def ofPort (port : UInt16) : Port :=
  { inport := byteSwapped port }

/-- `Port(bytesInNetworkOrder:)`. -/
def ofBytes (bytes : Data) : Port :=
  { inport := load bytes }

def value (port : Port) : UInt16 :=
  byteSwapped port.inport

end Port

namespace IPAddress

/-- `IPAddress(ipv4InNetworkOrder:)`. -/
def ipv4InNetworkOrder (address : UInt32) : IPAddress :=
  .IPv4 (byteSwapped address).toBitVec

/-- `IPAddress(fromBytesInNetworkOrder:)`. -/
def fromBytesInNetworkOrder (bytes : Data) : IPAddress :=
  ipv4InNetworkOrder (load bytes)

def UInt32InNetworkOrder : IPAddress → Option UInt32
  | .IPv4 address => some (byteSwapped (UInt32.ofBitVec address))
  | .IPv6 _ => none

end IPAddress

/-! ## UDPProtocolParser -/

structure UDPProtocolParser where
  sourcePort : Option Port
  destinationPort : Option Port
  packetData : Option Data
  offset : Nat
  payload : Option Data
  deriving DecidableEq, Repr

/-- `UInt16(value)`, which traps if the value does not fit. -/
def exactlyUInt16 (value : Nat) : Option UInt16 :=
  if value < 65536 then some (UInt16.ofNat value) else none

namespace UDPProtocolParser

/-- `UDPProtocolParser()`. -/
def new : UDPProtocolParser :=
  { sourcePort := none, destinationPort := none, packetData := none, offset := 0,
    payload := none }

/-- `init(packetData:offset:)`. -/
def init (packetData : Data) (offset : Nat) : Except NoResult UDPProtocolParser := do
  check (offset + 8 ≤ packetData.length)
  let payload ← unwrap (packetData.subdata (offset + 8) packetData.length)
  .ok
    { sourcePort := some (.ofBytes ((packetData.drop offset).take 2))
      destinationPort := some (.ofBytes ((packetData.drop (offset + 2)).take 2))
      packetData := some packetData
      offset := offset
      payload := some payload }

theorem init_eq {packetData : Data} {offset : Nat} (h : offset + 8 ≤ packetData.length) :
    init packetData offset =
      .ok
        { sourcePort := some (.ofBytes ((packetData.drop offset).take 2))
          destinationPort := some (.ofBytes ((packetData.drop (offset + 2)).take 2))
          packetData := some packetData
          offset := offset
          payload := some (packetData.drop (offset + 8)) } := by
  rw [init, check, if_pos h, Data.subdata, if_pos ⟨h, Nat.le_refl _⟩, List.take_length]
  rfl

theorem init_short {packetData : Data} {offset : Nat} (h : packetData.length < offset + 8) :
    init packetData offset = .error .refused := by
  rw [init, check, if_neg (by omega)]
  rfl

def bytesLength (parser : UDPProtocolParser) : Option Nat :=
  parser.payload.map fun payload => payload.length + 8

/-- `buildSegment`; `none` is a trap. -/
def buildSegment (parser : UDPProtocolParser) (pseudoHeaderChecksum : Nat) :
    Option UDPProtocolParser := do
  let packetData ← parser.packetData
  let sourcePort ← parser.sourcePort
  let packetData ← packetData.write parser.offset (bytes sourcePort.inport)
  let destinationPort ← parser.destinationPort
  let packetData ← packetData.write (parser.offset + 2) (bytes destinationPort.inport)
  let bytesLength ← parser.bytesLength
  let length ← exactlyUInt16 bytesLength
  let packetData ← packetData.write (parser.offset + 4) (bytes (byteSwapped length))
  let payload ← parser.payload
  let packetData ← packetData.write (parser.offset + 8) payload
  let packetData ← packetData.resetBytes (parser.offset + 6) 2
  let checksum ← Checksum.computeChecksum packetData parser.offset none pseudoHeaderChecksum
  let packetData ← packetData.write (parser.offset + 6) (bytes checksum)
  some { parser with packetData := some packetData }

/-- The bytes of a segment. -/
def segment (sourcePort destinationPort : Port) (payload : Data) (checksum : UInt16) : Data :=
  bytes sourcePort.inport ++ bytes destinationPort.inport ++
    bigEndian (UInt16.ofNat (payload.length + 8)) ++ bytes checksum ++ payload

theorem length_segment (sourcePort destinationPort : Port) (payload : Data)
    (checksum : UInt16) :
    (segment sourcePort destinationPort payload checksum).length = payload.length + 8 := by
  simp [segment, size]
  omega

/-- A checksum adds itself to the sum. -/
theorem wordSum_segment (sourcePort destinationPort : Port) (payload : Data)
    (checksum : UInt16) :
    wordSum (segment sourcePort destinationPort payload checksum) =
      wordSum (segment sourcePort destinationPort payload 0) + checksum.toNat := by
  have hsplit : ∀ checksum : UInt16,
      wordSum (segment sourcePort destinationPort payload checksum) =
        wordSum (bytes sourcePort.inport ++ bytes destinationPort.inport ++
          bigEndian (UInt16.ofNat (payload.length + 8))) + checksum.toNat +
          wordSum payload := by
    intro checksum
    rw [segment, wordSum_append payload (by simp [size]),
      wordSum_append (bytes checksum) (by simp [size]), Checksum.wordSum_bytes]
  rw [hsplit checksum, hsplit 0]
  simp only [UInt16.toNat_zero]
  omega

/-- The segment is read that stands at the end of a packet. -/
theorem init_segment {packetData payload : Data} {sourcePort destinationPort : Port} {offset : Nat}
    {checksum : UInt16}
    (hholds : packetData.HoldsAt offset (segment sourcePort destinationPort payload checksum))
    (hlength : packetData.length = offset + (payload.length + 8)) :
    init packetData offset =
      .ok
        { sourcePort := some sourcePort, destinationPort := some destinationPort,
          packetData := some packetData, offset := offset, payload := some payload } := by
  simp only [segment, Data.holdsAt_append, List.length_append, length_bytes, length_bigEndian,
    size_UInt16] at hholds
  obtain ⟨⟨⟨⟨hsource, hdestination⟩, -⟩, -⟩, hpayload⟩ := hholds
  have hport : ∀ {position : Nat} {port : Port}, packetData.HoldsAt position (bytes port.inport) →
      Port.ofBytes ((packetData.drop position).take 2) = port := by
    intro position port h
    have htake := h.take
    rw [length_bytes, size_UInt16] at htake
    rw [Port.ofBytes, htake, load_bytes]
  have hrest : packetData.drop (offset + 8) = payload :=
    (hpayload.eq_of_length (by rw [List.length_drop]; omega)).symm
  rw [init_eq (by omega), hport hsource, hport hdestination, hrest]

/-- **The segment** that is built behind a header. -/
theorem buildSegment_eq {front payload : Data} {sourcePort destinationPort : Port} {offset : Nat}
    (hoffset : offset = front.length) (hfits : payload.length + 8 < 65536) {pseudo : Nat}
    (hpseudo : pseudo < 4294967296) :
    buildSegment
        { sourcePort := some sourcePort, destinationPort := some destinationPort,
          packetData := some (front ++ Data.zeros (payload.length + 8)),
          offset := offset, payload := some payload } pseudo =
      (Checksum.addUInt32 pseudo
          (wordSum (segment sourcePort destinationPort payload 0))).map fun sum =>
        { sourcePort := some sourcePort, destinationPort := some destinationPort,
          packetData := some (front ++
            segment sourcePort destinationPort payload (Checksum.toChecksum sum)),
          offset := offset, payload := some payload } := by
  subst hoffset
  obtain ⟨length, hlength⟩ : ∃ length, length = UInt16.ofNat (payload.length + 8) := ⟨_, rfl⟩
  have hexactly : exactlyUInt16 (payload.length + 8) = some length := by
    rw [exactlyUInt16, if_pos hfits, hlength]
  -- the fields are written over zeros, from the front to the back
  have hsource : (front ++ Data.zeros (payload.length + 8)).write front.length
      (bytes sourcePort.inport) =
        some (front ++ bytes sourcePort.inport ++ Data.zeros (payload.length + 6)) :=
    Data.write_next front rfl (by simp)
  have hdestination : (front ++ bytes sourcePort.inport ++ Data.zeros (payload.length + 6)).write
      (front.length + 2) (bytes destinationPort.inport) =
        some (front ++ bytes sourcePort.inport ++ bytes destinationPort.inport ++
          Data.zeros (payload.length + 4)) :=
    Data.write_next _ (by simp) (by simp)
  generalize hports : front ++ bytes sourcePort.inport ++ bytes destinationPort.inport = ports
    at hdestination
  have hportsLength : ports.length = front.length + 4 := by
    rw [← hports]
    simp
  have hlengthField : (ports ++ Data.zeros (payload.length + 4)).write (front.length + 4)
      (bytes (byteSwapped length)) =
        some (ports ++ bigEndian length ++ Data.zeros (payload.length + 2)) := by
    rw [bytes_byteSwapped]
    exact Data.write_next _ hportsLength.symm (by simp)
  have hpayload : (ports ++ bigEndian length ++ Data.zeros (payload.length + 2)).write
      (front.length + 8) payload = some (ports ++ bigEndian length ++ Data.zeros 2 ++ payload) := by
    rw [Nat.add_comm payload.length 2, Data.zeros_add, ← List.append_assoc]
    rw [Data.write_next _ (by simp [hportsLength]) (Nat.le_refl _), Nat.sub_self]
    simp [Data.zeros]
  have hreset : (ports ++ bigEndian length ++ Data.zeros 2 ++ payload).resetBytes
      (front.length + 6) 2 = some (ports ++ bigEndian length ++ Data.zeros 2 ++ payload) :=
    Data.write_middle _ _ _ (by simp [hportsLength]) rfl
  have hwrite : ∀ checksum : UInt16, (ports ++ bigEndian length ++ Data.zeros 2 ++ payload).write
      (front.length + 6) (bytes checksum) =
        some (ports ++ bigEndian length ++ bytes checksum ++ payload) := fun checksum =>
    Data.write_middle _ _ _ (by simp [hportsLength]) (by simp)
  have hsegment : ∀ checksum : UInt16, ports ++ bigEndian length ++ bytes checksum ++ payload =
      front ++ segment sourcePort destinationPort payload checksum := by
    intro checksum
    simp only [segment, ← hports, hlength, List.append_assoc]
  -- the checksum is zero when the sum is taken
  have hsum : ports ++ bigEndian length ++ Data.zeros 2 ++ payload =
      front ++ segment sourcePort destinationPort payload 0 := hsegment 0
  have hchecksum : Checksum.computeChecksum
      (ports ++ bigEndian length ++ Data.zeros 2 ++ payload) front.length none pseudo =
        (Checksum.addUInt32 pseudo (wordSum (segment sourcePort destinationPort payload 0))).map
          Checksum.toChecksum := by
    rw [Checksum.computeChecksum, hsum, Checksum.computeChecksumUnfold_eq _ _ hpseudo]
    · exact Data.holdsAt_back _ _
    · simp
  simp only [buildSegment, bytesLength, Option.map_some, bind, Option.bind_some, hsource,
    hdestination, hexactly, hlengthField, hpayload, hreset, hchecksum]
  cases Checksum.addUInt32 pseudo (wordSum (segment sourcePort destinationPort payload 0)) with
  | none => rfl
  | some sum =>
      simp only [Option.map_some, Option.bind_some, hwrite, hsegment]

end UDPProtocolParser

/-! ## IPPacket -/

inductive IPVersion where
  | iPv4
  | iPv6
  deriving DecidableEq, Repr

namespace IPVersion

def rawValue : IPVersion → UInt8
  | .iPv4 => 4
  | .iPv6 => 6

/-- `IPVersion(rawValue:)`. -/
def ofRawValue (rawValue : UInt8) : Option IPVersion :=
  if rawValue = 4 then some .iPv4 else if rawValue = 6 then some .iPv6 else none

end IPVersion

inductive TransportProtocol where
  | icmp
  | tcp
  | udp
  deriving DecidableEq, Repr

namespace TransportProtocol

def rawValue : TransportProtocol → UInt8
  | .icmp => 1
  | .tcp => 6
  | .udp => 17

/-- `TransportProtocol(rawValue:)`. -/
def ofRawValue (rawValue : UInt8) : Option TransportProtocol :=
  if rawValue = 1 then some .icmp
  else if rawValue = 6 then some .tcp
  else if rawValue = 17 then some .udp
  else none

end TransportProtocol

structure IPPacket where
  version : IPVersion
  headerLength : UInt8
  tos : UInt8
  identification : UInt16
  offset : UInt16
  TTL : UInt8
  sourceAddress : Option IPAddress
  destinationAddress : Option IPAddress
  transportProtocol : Option TransportProtocol
  protocolParser : Option UDPProtocolParser
  packetData : Option Data
  deriving DecidableEq, Repr

namespace IPPacket

/-! ### Single fields -/

/-- The first byte, of twenty at least. -/
def first (data : Data) : UInt8 :=
  load (data.take 1)

def peekIPVersion (data : Data) : Option IPVersion :=
  if data.length < 20 then none else IPVersion.ofRawValue (first data >>> 4)

def peekProtocol (data : Data) : Option TransportProtocol :=
  if data.length < 20 then none
  else TransportProtocol.ofRawValue (load ((data.drop 9).take 1))

def peekSourceAddress (data : Data) : Option IPAddress :=
  if data.length < 20 then none
  else some (.fromBytesInNetworkOrder ((data.drop 12).take 4))

def peekDestinationAddress (data : Data) : Option IPAddress :=
  if data.length < 20 then none
  else some (.fromBytesInNetworkOrder ((data.drop 16).take 4))

/-- The port at a place behind the header. -/
def peekPort (data : Data) (place : Nat) : Option Port :=
  match peekProtocol data with
  | none => none
  | some proto =>
      if proto = .tcp ∨ proto = .udp then
        let headerLength := ((first data &&& 0x0F) * 4).toNat
        -- there are bytes for both ports
        if data.length > headerLength + 4 then
          some (.ofBytes ((data.drop (headerLength + place)).take 2))
        else
          none
      else
        none

def peekSourcePort (data : Data) : Option Port :=
  peekPort data 0

def peekDestinationPort (data : Data) : Option Port :=
  peekPort data 2

/-! ### Reading a packet -/

/-- `IPPacket()`. -/
def new : IPPacket :=
  { version := .iPv4, headerLength := 20, tos := 0, identification := 0, offset := 0, TTL := 64,
    sourceAddress := none, destinationAddress := none, transportProtocol := none,
    protocolParser := none, packetData := none }

/-- `init(packetData:)`. -/
def init (packetData : Data) : Except NoResult IPPacket := do
  let scanner : BinaryDataScanner :=
    { data := packetData, littleEndian := false, position := 0 }
  let (vhl, scanner) ← unwrap scanner.readByte
  let version ← orNil (IPVersion.ofRawValue (vhl >>> 4))
  let headerLength := (vhl &&& 0x0F) * 4
  check (headerLength.toNat ≤ packetData.length)
  let (tos, scanner) ← unwrap scanner.readByte
  let totalLength ← unwrap (exactlyUInt16 packetData.length)
  let (length, scanner) ← unwrap scanner.read16
  check (totalLength = length)
  let (identification, scanner) ← unwrap scanner.read16
  let (offset, scanner) ← unwrap scanner.read16
  let (TTL, scanner) ← unwrap scanner.readByte
  let (rawProtocol, scanner) ← unwrap scanner.readByte
  let proto ← orNil (TransportProtocol.ofRawValue rawProtocol)
  -- ignore checksum
  let (_, scanner) ← unwrap scanner.read16
  -- IPv6 is not supported yet
  check (version = .iPv4)
  let (source, scanner) ← unwrap scanner.read32
  let (destination, _) ← unwrap scanner.read32
  check (proto = .udp)
  let parser ← UDPProtocolParser.init packetData headerLength.toNat
  .ok
    { version := version
      headerLength := headerLength
      tos := tos
      identification := identification
      offset := offset
      TTL := TTL
      sourceAddress := some (.ipv4InNetworkOrder (byteSwapped source))
      destinationAddress := some (.ipv4InNetworkOrder (byteSwapped destination))
      transportProtocol := some proto
      protocolParser := some parser
      packetData := some packetData }

/-! ### Building a packet -/

/-- The two halves of an address. -/
def halves (address : UInt32) : Nat :=
  (address >>> 16).toNat + (address &&& 0xFFFF).toNat

/-- `computePseudoHeaderChecksum`; `none` is a trap. -/
def computePseudoHeaderChecksum (packet : IPPacket) : Option Nat := do
  let result ←
    match packet.sourceAddress with
    | none => some 0
    | some address => address.UInt32InNetworkOrder.bind fun value =>
        Checksum.addUInt32 0 (halves value)
  let result ←
    match packet.destinationAddress with
    | none => some result
    | some address => address.UInt32InNetworkOrder.bind fun value =>
        Checksum.addUInt32 result (halves value)
  let transportProtocol ← packet.transportProtocol
  let result ← Checksum.addUInt32 result (transportProtocol.rawValue.toNat <<< 8)
  let protocolParser ← packet.protocolParser
  let bytesLength ← protocolParser.bytesLength
  let bytesLength ← if bytesLength < 4294967296 then some (UInt32.ofNat bytesLength) else none
  Checksum.addUInt32 result (byteSwapped bytesLength).toNat

/-- `buildPacket`; `none` is a trap. -/
def buildPacket (packet : IPPacket) : Option IPPacket := do
  let protocolParser ← packet.protocolParser
  let bytesLength ← protocolParser.bytesLength
  let packetData := Data.zeros (packet.headerLength.toNat + bytesLength)
  let packetData ← packetData.setPayloadWithUInt8
    (packet.headerLength / (4 : UInt8) + packet.version.rawValue <<< (4 : UInt8)) 0
  let packetData ← packetData.setPayloadWithUInt8 packet.tos 1
  let totalLength ← exactlyUInt16 packetData.length
  let packetData ← packetData.setPayloadWithUInt16 totalLength 2 true
  let packetData ← packetData.setPayloadWithUInt16 packet.identification 4 true
  let packetData ← packetData.setPayloadWithUInt16 packet.offset 6 true
  let packetData ← packetData.setPayloadWithUInt8 packet.TTL 8
  let transportProtocol ← packet.transportProtocol
  let packetData ← packetData.setPayloadWithUInt8 transportProtocol.rawValue 9
  -- clear checksum bytes
  let packetData ← packetData.resetBytes 10 2
  let sourceAddress ← packet.sourceAddress
  let source ← sourceAddress.UInt32InNetworkOrder
  let packetData ← packetData.setPayloadWithUInt32 source 12 false
  let destinationAddress ← packet.destinationAddress
  let destination ← destinationAddress.UInt32InNetworkOrder
  let packetData ← packetData.setPayloadWithUInt32 destination 16 false
  -- let the UDP segment build
  let pseudoHeaderChecksum ← packet.computePseudoHeaderChecksum
  let protocolParser ←
    { protocolParser with
      packetData := some packetData
      offset := packet.headerLength.toNat }.buildSegment pseudoHeaderChecksum
  let packetData ← protocolParser.packetData
  let checksum ← Checksum.computeChecksum packetData 0 (some packet.headerLength.toNat) 0
  let packetData ← packetData.setPayloadWithUInt16 checksum 10 false
  some { packet with packetData := some packetData, protocolParser := some protocolParser }

/-! ### What a packet says -/

end IPPacket

/-- What a UDP packet says. -/
structure Datagram where
  source : BitVec 32
  sourcePort : Port
  destination : BitVec 32
  destinationPort : Port
  payload : Data
  deriving DecidableEq, Repr

namespace Datagram

def segment (datagram : Datagram) (checksum : UInt16) : Data :=
  UDPProtocolParser.segment datagram.sourcePort datagram.destinationPort datagram.payload checksum

/-- The sum over the pseudo header; the length of the segment is in the upper half. -/
def pseudoSum (datagram : Datagram) : Nat :=
  IPPacket.halves (byteSwapped (UInt32.ofBitVec datagram.source)) +
    IPPacket.halves (byteSwapped (UInt32.ofBitVec datagram.destination)) + 17 * 256 +
    (byteSwapped (UInt32.ofNat (datagram.payload.length + 8))).toNat

/-- The sum that the checksum of the segment is taken of. -/
def checksumSum (datagram : Datagram) : Nat :=
  datagram.pseudoSum + wordSum (datagram.segment 0)

end Datagram

namespace IPPacket

/-- The packet says what the datagram says. -/
structure Carries (packet : IPPacket) (datagram : Datagram) : Prop where
  version : packet.version = .iPv4
  transportProtocol : packet.transportProtocol = some .udp
  sourceAddress : packet.sourceAddress = some (.IPv4 datagram.source)
  destinationAddress : packet.destinationAddress = some (.IPv4 datagram.destination)
  protocolParser : ∃ packetData offset, packet.protocolParser =
    some
      { sourcePort := some datagram.sourcePort
        destinationPort := some datagram.destinationPort
        packetData := packetData
        offset := offset
        payload := some datagram.payload }

/-- The length of the header is one that a header can have. -/
structure HeaderFits (packet : IPPacket) : Prop where
  lower : 20 ≤ packet.headerLength.toNat
  upper : packet.headerLength.toNat ≤ 60
  words : packet.headerLength.toNat % 4 = 0

/-- The bytes of a header; those of options are zero. -/
def header (packet : IPPacket) (datagram : Datagram) (checksum : UInt16) : Data :=
  bytes (packet.headerLength / 4 + (4 : UInt8) <<< (4 : UInt8)) ++ bytes packet.tos ++
    bigEndian (UInt16.ofNat (packet.headerLength.toNat + (datagram.payload.length + 8))) ++
    bigEndian packet.identification ++ bigEndian packet.offset ++ bytes packet.TTL ++
    bytes (17 : UInt8) ++ bytes checksum ++ bigEndian (UInt32.ofBitVec datagram.source) ++
    bigEndian (UInt32.ofBitVec datagram.destination) ++
    Data.zeros (packet.headerLength.toNat - 20)

theorem halves_le (address : UInt32) : halves address ≤ 131070 := by
  have hlt := address.toNat_lt
  have hmask : (address &&& 0xFFFF).toNat = address.toNat % 65536 := by
    rw [UInt32.toNat_and]
    exact Nat.and_two_pow_sub_one_eq_mod _ 16
  have hshift : (address >>> 16).toNat = address.toNat / 65536 := by
    rw [UInt32.toNat_shiftRight]
    exact Nat.shiftRight_eq_div_pow _ 16
  rw [halves, hmask, hshift]
  omega

variable {packet : IPPacket} {datagram : Datagram}

/-- The sum over the pseudo header, if it does not overflow. -/
theorem computePseudoHeaderChecksum_eq (h : packet.Carries datagram)
    (hfits : datagram.payload.length + 8 < 65536) :
    packet.computePseudoHeaderChecksum =
      if datagram.pseudoSum < 4294967296 then some datagram.pseudoSum else none := by
  obtain ⟨packetData, offset, hparser⟩ := h.protocolParser
  have hsource := halves_le (byteSwapped (UInt32.ofBitVec datagram.source))
  have hdestination := halves_le (byteSwapped (UInt32.ofBitVec datagram.destination))
  rw [computePseudoHeaderChecksum, h.sourceAddress, h.destinationAddress, h.transportProtocol,
    hparser]
  simp only [IPAddress.UInt32InNetworkOrder, UDPProtocolParser.bytesLength, Option.map_some, bind,
    Option.bind_some]
  rw [Checksum.addUInt32, if_pos (by omega), Option.bind_some, Checksum.addUInt32,
    if_pos (by omega), Option.bind_some, Checksum.addUInt32,
    if_pos (by simp [TransportProtocol.rawValue]; omega), Option.bind_some, if_pos (by omega),
    Checksum.addUInt32]
  simp [Datagram.pseudoSum, TransportProtocol.rawValue]

theorem length_header (hheader : packet.HeaderFits) (checksum : UInt16) :
    (packet.header datagram checksum).length = packet.headerLength.toNat := by
  have hlower := hheader.lower
  simp [header]
  omega

/-- The header before the segment is written. -/
theorem header_zero (hheader : packet.HeaderFits) (count : Nat) :
    packet.header datagram 0 ++ Data.zeros count =
      bytes (packet.headerLength / 4 + (4 : UInt8) <<< (4 : UInt8)) ++ bytes packet.tos ++
        bigEndian (UInt16.ofNat (packet.headerLength.toNat + (datagram.payload.length + 8))) ++
        bigEndian packet.identification ++ bigEndian packet.offset ++ bytes packet.TTL ++
        bytes (17 : UInt8) ++ Data.zeros 2 ++ bigEndian (UInt32.ofBitVec datagram.source) ++
        bigEndian (UInt32.ofBitVec datagram.destination) ++
        Data.zeros (packet.headerLength.toNat + count - 20) := by
  have hzeros : packet.headerLength.toNat + count - 20 =
      packet.headerLength.toNat - 20 + count := by
    have hlower := hheader.lower
    omega
  rw [hzeros, Data.zeros_add, header, List.append_assoc _ (Data.zeros _) (Data.zeros _)]
  rfl

/-- The checksum of a header stands between two words. -/
theorem header_split (packet : IPPacket) (datagram : Datagram) :
    ∃ front back : Data, front.length = 10 ∧
      ∀ checksum, packet.header datagram checksum = front ++ bytes checksum ++ back := by
  refine ⟨bytes (packet.headerLength / 4 + (4 : UInt8) <<< (4 : UInt8)) ++ bytes packet.tos ++
    bigEndian (UInt16.ofNat (packet.headerLength.toNat + (datagram.payload.length + 8))) ++
    bigEndian packet.identification ++ bigEndian packet.offset ++ bytes packet.TTL ++
    bytes (17 : UInt8), bigEndian (UInt32.ofBitVec datagram.source) ++
    bigEndian (UInt32.ofBitVec datagram.destination) ++
    Data.zeros (packet.headerLength.toNat - 20), by simp, fun checksum => ?_⟩
  simp only [header, List.append_assoc]

/-- A checksum adds itself to the sum of the header. -/
theorem wordSum_header (packet : IPPacket) (datagram : Datagram) (checksum : UInt16) :
    wordSum (packet.header datagram checksum) =
      wordSum (packet.header datagram 0) + checksum.toNat := by
  obtain ⟨front, back, hfront, hsplit⟩ := header_split packet datagram
  have hsum : ∀ checksum, wordSum (packet.header datagram checksum) =
      wordSum front + checksum.toNat + wordSum back := by
    intro checksum
    rw [hsplit, wordSum_append back (by simp [hfront]), wordSum_append _ (by simp [hfront]),
      Checksum.wordSum_bytes]
  rw [hsum checksum, hsum 0]
  simp only [UInt16.toNat_zero]
  omega

/-- The checksum over a header. -/
theorem computeChecksumUnfold_header (hheader : packet.HeaderFits) (checksum : UInt16)
    (segment : Data) :
    Checksum.computeChecksumUnfold (packet.header datagram checksum ++ segment) 0
        (some packet.headerLength.toNat) 0 =
      some (wordSum (packet.header datagram checksum)) := by
  have hlength := @length_header packet datagram hheader checksum
  have hsum := wordSum_le (packet.header datagram checksum)
  have hupper := hheader.upper
  rw [hlength] at hsum
  rw [Checksum.computeChecksumUnfold_eq (Data.holdsAt_front _ _) (by simp [hlength]) (by decide),
    Checksum.addUInt32, if_pos (by omega), Nat.zero_add]

/-- **The bytes** of the packet that is built. -/
theorem buildPacket_eq (h : packet.Carries datagram) (hheader : packet.HeaderFits) :
    packet.buildPacket =
      if packet.headerLength.toNat + (datagram.payload.length + 8) < 65536 then
        (Checksum.addUInt32 datagram.pseudoSum (wordSum (datagram.segment 0))).map fun sum =>
          let packetData :=
            packet.header datagram (Checksum.toChecksum (wordSum (packet.header datagram 0))) ++
              datagram.segment (Checksum.toChecksum sum)
          { packet with
            packetData := some packetData
            protocolParser := some
              { sourcePort := some datagram.sourcePort
                destinationPort := some datagram.destinationPort
                packetData := some (packet.header datagram 0 ++
                  datagram.segment (Checksum.toChecksum sum))
                offset := packet.headerLength.toNat
                payload := some datagram.payload } }
      else
        none := by
  obtain ⟨parserData, offset, hparser⟩ := h.protocolParser
  have hlower := hheader.lower
  have hupper := hheader.upper
  simp only [buildPacket, hparser, h.version, h.transportProtocol, h.sourceAddress,
    h.destinationAddress, UDPProtocolParser.bytesLength, Option.map_some, bind, Option.bind_some,
    IPAddress.UInt32InNetworkOrder, IPVersion.rawValue, TransportProtocol.rawValue]
  generalize hcount : packet.headerLength.toNat + (datagram.payload.length + 8) = count
  have hlong : 28 ≤ count := by omega
  -- the fields are written over zeros, from the front to the back
  rw [← List.nil_append (Data.zeros count),
    Data.setPayloadWithUInt8_next _ (by rfl) (by omega), Option.bind_some,
    Data.setPayloadWithUInt8_next _ (by rfl) (by omega), Option.bind_some]
  have htotal : List.length ([] ++
      [packet.headerLength / (4 : UInt8) + (4 : UInt8) <<< (4 : UInt8)] ++ [packet.tos] ++
      Data.zeros (count - 1 - 1)) = count := by
    simp only [List.nil_append, List.length_append, List.length_cons, List.length_nil,
      Data.length_zeros]
    omega
  rw [htotal, exactlyUInt16]
  by_cases hfits : count < 65536
  · rw [if_pos hfits, if_pos hfits, Option.bind_some,
      Data.setPayloadWithUInt16_next _ (by rfl) (by omega), Option.bind_some,
      Data.setPayloadWithUInt16_next _ (by rfl) (by omega), Option.bind_some,
      Data.setPayloadWithUInt16_next _ (by rfl) (by omega), Option.bind_some,
      Data.setPayloadWithUInt8_next _ (by rfl) (by omega), Option.bind_some,
      Data.setPayloadWithUInt8_next _ (by rfl) (by omega), Option.bind_some,
      Data.resetBytes_next _ (by rfl) (by omega), Option.bind_some,
      Data.setPayloadWithUInt32_swapped_next _ (by rfl) (by omega), Option.bind_some,
      Data.setPayloadWithUInt32_swapped_next _ (by rfl) (by omega), Option.bind_some,
      computePseudoHeaderChecksum_eq h (by omega)]
    have hdata := @header_zero packet datagram hheader (datagram.payload.length + 8)
    have hrest : count - 1 - 1 - 2 - 2 - 2 - 1 - 1 - 2 - 4 - 4 = count - 20 := by omega
    rw [hcount] at hdata
    simp only [bytes_UInt8] at hdata
    rw [hrest, List.nil_append]
    rw [← hdata]
    by_cases hpseudo : datagram.pseudoSum < 4294967296
    · rw [if_pos hpseudo, Option.bind_some,
        UDPProtocolParser.buildSegment_eq (length_header hheader 0).symm (by omega) hpseudo]
      have hwrite : ∀ (checksum : UInt16) (segment : Data),
          Data.setPayloadWithUInt16 (packet.header datagram 0 ++ segment) checksum 10 false =
            some (packet.header datagram checksum ++ segment) := by
        intro checksum segment
        obtain ⟨front, back, hfront, hsplit⟩ := header_split packet datagram
        rw [hsplit, hsplit, List.append_assoc _ back, List.append_assoc _ back,
          Data.setPayloadWithUInt16, Data.setPayload, if_neg Bool.false_ne_true]
        exact Data.write_middle front _ _ hfront.symm (by simp)
      simp only [Datagram.segment]
      cases Checksum.addUInt32 datagram.pseudoSum (wordSum (UDPProtocolParser.segment
          datagram.sourcePort datagram.destinationPort datagram.payload 0)) with
      | none => rfl
      | some sum =>
          simp only [Option.map_some, Option.bind_some, Checksum.computeChecksum,
            computeChecksumUnfold_header hheader, hwrite]
    · rw [if_neg hpseudo, Option.bind_none, Checksum.addUInt32, if_neg (by omega),
        Option.map_none]
  · rw [if_neg hfits, if_neg hfits, Option.bind_none]

end IPPacket

namespace Datagram

/-- The packet that is set up for a datagram, before it is built. -/
def packet (datagram : Datagram) : IPPacket :=
  { IPPacket.new with
    sourceAddress := some (.IPv4 datagram.source)
    destinationAddress := some (.IPv4 datagram.destination)
    transportProtocol := some .udp
    protocolParser := some
      { UDPProtocolParser.new with
        sourcePort := some datagram.sourcePort
        destinationPort := some datagram.destinationPort
        payload := some datagram.payload } }

theorem carries (datagram : Datagram) : datagram.packet.Carries datagram :=
  ⟨rfl, rfl, rfl, rfl, _, _, rfl⟩

theorem headerFits (datagram : Datagram) : datagram.packet.HeaderFits where
  lower := show 20 ≤ (20 : UInt8).toNat by decide
  upper := show (20 : UInt8).toNat ≤ 60 by decide
  words := show (20 : UInt8).toNat % 4 = 0 by decide

end Datagram

namespace IPPacket

/-! ### What is read of a packet -/

variable {packet : IPPacket} {datagram : Datagram}

/-- A packet that is read has the fields of its data, and its length. -/
structure ReadFrom (packet : IPPacket) (data : Data) : Prop where
  count : 20 ≤ data.length
  version : IPVersion.ofRawValue (first data >>> 4) = some .iPv4 ∧ packet.version = .iPv4
  headerLength : packet.headerLength = (first data &&& 0x0F) * 4
  totalLength : (byteSwapped (load ((data.drop 2).take 2)) : UInt16).toNat = data.length
  transportProtocol : TransportProtocol.ofRawValue (load ((data.drop 9).take 1)) = some .udp ∧
    packet.transportProtocol = some .udp
  sourceAddress : packet.sourceAddress =
    some (.fromBytesInNetworkOrder ((data.drop 12).take 4))
  destinationAddress : packet.destinationAddress =
    some (.fromBytesInNetworkOrder ((data.drop 16).take 4))
  segment : packet.headerLength.toNat + 8 ≤ data.length
  protocolParser : packet.protocolParser =
    some
      { sourcePort := some (.ofBytes ((data.drop packet.headerLength.toNat).take 2))
        destinationPort := some (.ofBytes ((data.drop (packet.headerLength.toNat + 2)).take 2))
        packetData := some data
        offset := packet.headerLength.toNat
        payload := some (data.drop (packet.headerLength.toNat + 8)) }

theorem readFrom_of_init {data : Data} (h : init data = .ok packet) : packet.ReadFrom data := by
  simp only [init, unwrap_bind_eq_ok, orNil_bind_eq_ok, check_bind_eq_ok, Prod.exists,
    BinaryDataScanner.readByte, BinaryDataScanner.read16, BinaryDataScanner.read32] at h
  obtain ⟨vhl, s, hvhl, version, hversion, hheader, h⟩ := h
  obtain ⟨-, rfl, rfl⟩ := BinaryDataScanner.read_network.mp hvhl
  obtain ⟨tos, s, htos, totalLength, hexactly, length, s', hlength, rfl, h⟩ := h
  obtain ⟨-, -, rfl⟩ := BinaryDataScanner.read_network.mp htos
  obtain ⟨-, htotal, rfl⟩ := BinaryDataScanner.read_network.mp hlength
  obtain ⟨identification, s, hidentification, offset, s', hoffset, h⟩ := h
  obtain ⟨-, -, rfl⟩ := BinaryDataScanner.read_network.mp hidentification
  obtain ⟨-, -, rfl⟩ := BinaryDataScanner.read_network.mp hoffset
  obtain ⟨TTL, s, hTTL, rawProtocol, s', hrawProtocol, proto, hproto, h⟩ := h
  obtain ⟨-, -, rfl⟩ := BinaryDataScanner.read_network.mp hTTL
  obtain ⟨-, rfl, rfl⟩ := BinaryDataScanner.read_network.mp hrawProtocol
  obtain ⟨checksum, s, hchecksum, rfl, source, s', hsource, h⟩ := h
  obtain ⟨-, -, rfl⟩ := BinaryDataScanner.read_network.mp hchecksum
  obtain ⟨-, rfl, rfl⟩ := BinaryDataScanner.read_network.mp hsource
  obtain ⟨destination, s, hdestination, rfl, h⟩ := h
  obtain ⟨hcount, rfl, rfl⟩ := BinaryDataScanner.read_network.mp hdestination
  simp only [byteSwapped_UInt8, byteSwapped_byteSwapped, size_UInt8, size_UInt16, size_UInt32]
    at hcount hversion hproto htotal h
  by_cases hsegment : ((load (data.take 1) &&& 0x0F) * 4 : UInt8).toNat + 8 ≤ data.length
  · rw [List.drop_zero, UDPProtocolParser.init_eq hsegment] at h
    cases h
    rw [exactlyUInt16, Option.ite_none_right_eq_some] at hexactly
    exact
      { count := hcount
        version := ⟨hversion, rfl⟩
        headerLength := rfl
        totalLength := by
          rw [← htotal, ← Option.some.inj hexactly.2, UInt16.toNat_ofNat_of_lt' hexactly.1]
        transportProtocol := ⟨hproto, rfl⟩
        sourceAddress := rfl
        destinationAddress := rfl
        segment := hsegment
        protocolParser := rfl }
  · rw [List.drop_zero, UDPProtocolParser.init_short (by omega)] at h
    cases h

namespace ReadFrom

variable {data : Data}

theorem peekProtocol_eq (h : packet.ReadFrom data) : peekProtocol data = some .udp := by
  have hcount := h.count
  rw [peekProtocol, if_neg (by omega), h.transportProtocol.1]

theorem peekSourceAddress_eq (h : packet.ReadFrom data) :
    peekSourceAddress data = packet.sourceAddress := by
  have hcount := h.count
  rw [peekSourceAddress, if_neg (by omega), h.sourceAddress]

theorem peekDestinationAddress_eq (h : packet.ReadFrom data) :
    peekDestinationAddress data = packet.destinationAddress := by
  have hcount := h.count
  rw [peekDestinationAddress, if_neg (by omega), h.destinationAddress]

theorem peekPort_eq (h : packet.ReadFrom data) (place : Nat) : peekPort data place =
    some (.ofBytes ((data.drop (packet.headerLength.toNat + place)).take 2)) := by
  have hsegment := h.segment
  rw [h.headerLength] at hsegment ⊢
  simp only [peekPort, h.peekProtocol_eq]
  rw [if_pos (Or.inr trivial), if_pos (by omega)]

end ReadFrom

/-- **Peeking.**  For a packet that can be read, each `peek` function answers with its field. -/
theorem peek_of_init {data : Data} (h : init data = .ok packet) :
    peekIPVersion data = some packet.version ∧
      peekProtocol data = packet.transportProtocol ∧
      peekSourceAddress data = packet.sourceAddress ∧
      peekDestinationAddress data = packet.destinationAddress ∧
      ∃ parser, packet.protocolParser = some parser ∧
        peekSourcePort data = parser.sourcePort ∧
        peekDestinationPort data = parser.destinationPort := by
  have hread := readFrom_of_init h
  have hcount := hread.count
  refine ⟨?_, ?_, hread.peekSourceAddress_eq, hread.peekDestinationAddress_eq, _,
    hread.protocolParser, hread.peekPort_eq 0, hread.peekPort_eq 2⟩
  · rw [peekIPVersion, if_neg (by omega), hread.version.1, hread.version.2]
  · rw [hread.peekProtocol_eq, hread.transportProtocol.2]

/-- Five bytes from port 1234 of 10.0.0.1 to port 53 of 8.8.8.8. -/
def fiveBytes : Datagram :=
  { source := 0x0A000001#32, sourcePort := .ofPort 1234, destination := 0x08080808#32,
    destinationPort := .ofPort 53, payload := [1, 2, 3, 255, 254] }

/-- The bytes of that packet. -/
def fiveBytesData : Data :=
  [69, 0, 0, 33, 0, 0, 0, 0, 64, 17, 96, 188, 10, 0, 0, 1, 8, 8, 8, 8, 4, 210, 0, 53, 0, 13, 221,
    186, 1, 2, 3, 255, 254]

theorem fiveBytes_peek :
    peekProtocol fiveBytesData = some .udp ∧
      peekDestinationAddress fiveBytesData = some (.IPv4 0x08080808#32) ∧
      peekDestinationPort fiveBytesData = some (.ofPort 53) := by
  have hread : init fiveBytesData =
      .ok
        { fiveBytes.packet with
          protocolParser := some
            { sourcePort := some (.ofPort 1234), destinationPort := some (.ofPort 53),
              packetData := some fiveBytesData, offset := 20,
              payload := some [1, 2, 3, 255, 254] }
          packetData := some fiveBytesData } := by
    rfl
  obtain ⟨-, hprotocol, -, hdestination, parser, hparser, -, hport⟩ := peek_of_init hread
  cases hparser
  exact ⟨hprotocol, hdestination, hport⟩

/-- The first byte of a header has the version and the length. -/
theorem first_header {length : UInt8} (hlower : 20 ≤ length.toNat) (hupper : length.toNat ≤ 60)
    (hwords : length.toNat % 4 = 0) :
    (length / 4 + (4 : UInt8) <<< (4 : UInt8)) >>> 4 = 4 ∧
      ((length / 4 + (4 : UInt8) <<< (4 : UInt8)) &&& 0x0F) * 4 = length := by
  have hall : ∀ n : Fin 61, 20 ≤ n.val → n.val % 4 = 0 →
      (UInt8.ofNat n / 4 + (4 : UInt8) <<< (4 : UInt8)) >>> 4 = 4 ∧
        ((UInt8.ofNat n / 4 + (4 : UInt8) <<< (4 : UInt8)) &&& 0x0F) * 4 = UInt8.ofNat n := by
    decide
  have h := hall ⟨length.toNat, by omega⟩ hlower hwords
  rwa [UInt8.ofNat_toNat] at h

/-- The packet is read that was built. -/
theorem init_built (hversion : packet.version = .iPv4) (hheader : packet.HeaderFits)
    (hfits : packet.headerLength.toNat + (datagram.payload.length + 8) < 65536)
    (checksum checksum' : UInt16) :
    let data := packet.header datagram checksum ++ datagram.segment checksum'
    init data =
      .ok
        { packet with
          sourceAddress := some (.IPv4 datagram.source)
          destinationAddress := some (.IPv4 datagram.destination)
          transportProtocol := some .udp
          protocolParser := some
            { sourcePort := some datagram.sourcePort
              destinationPort := some datagram.destinationPort
              packetData := some data
              offset := packet.headerLength.toNat
              payload := some datagram.payload }
          packetData := some data } := by
  intro data
  have hlength : data.length = packet.headerLength.toNat + (datagram.payload.length + 8) := by
    rw [List.length_append, length_header hheader, Datagram.segment,
      UDPProtocolParser.length_segment]
  have hholds : data.HoldsAt 0 (packet.header datagram checksum) := Data.holdsAt_front _ _
  have hsegment : data.HoldsAt packet.headerLength.toNat (datagram.segment checksum') := by
    rw [← @length_header packet datagram hheader checksum]
    exact Data.holdsAt_back _ _
  obtain ⟨hversion4, hlength4⟩ := first_header hheader.lower hheader.upper hheader.words
  simp only [header, bytes_eq_bigEndian, byteSwapped_UInt8, Data.holdsAt_append,
    List.length_append, length_bigEndian, size_UInt8, size_UInt16, size_UInt32] at hholds
  obtain ⟨⟨⟨⟨⟨⟨⟨⟨⟨⟨hvhl, htos⟩, htotal⟩, hidentification⟩, hoffset⟩, hTTL⟩, hprotocol⟩,
    hchecksum⟩, hsource⟩, hdestination⟩, -⟩ := hholds
  have hexactly : exactlyUInt16 data.length = some (UInt16.ofNat
      (packet.headerLength.toNat + (datagram.payload.length + 8))) := by
    rw [hlength, exactlyUInt16, if_pos hfits]
  simp only [init, unwrap_bind_eq_ok, orNil_bind_eq_ok, check_bind_eq_ok, Prod.exists,
    BinaryDataScanner.readByte, BinaryDataScanner.read16, BinaryDataScanner.read32]
  refine ⟨_, _, BinaryDataScanner.read_holds hvhl, .iPv4, by rw [hversion4]; rfl, ?_,
    _, _, BinaryDataScanner.read_holds htos, _, hexactly,
    _, _, BinaryDataScanner.read_holds htotal, rfl,
    _, _, BinaryDataScanner.read_holds hidentification,
    _, _, BinaryDataScanner.read_holds hoffset,
    _, _, BinaryDataScanner.read_holds hTTL,
    _, _, BinaryDataScanner.read_holds hprotocol, .udp, rfl,
    _, _, BinaryDataScanner.read_holds hchecksum, rfl,
    _, _, BinaryDataScanner.read_holds hsource,
    _, _, BinaryDataScanner.read_holds hdestination, rfl, ?_⟩
  · rw [hlength4]
    omega
  · rw [hlength4, UDPProtocolParser.init_segment hsegment (by omega)]
    simp [bind, Except.bind, IPAddress.ipv4InNetworkOrder, hversion]

/-! ### Packets that are built -/

/-- What is known of a packet that was built. -/
theorem built_cases {built : IPPacket} (h : packet.Carries datagram)
    (hheader : packet.HeaderFits) (hbuilt : packet.buildPacket = some built) :
    packet.headerLength.toNat + (datagram.payload.length + 8) < 65536 ∧
      datagram.checksumSum < 4294967296 ∧
      built.packetData = some
        (packet.header datagram (Checksum.toChecksum (wordSum (packet.header datagram 0))) ++
          datagram.segment (Checksum.toChecksum datagram.checksumSum)) ∧
      built.headerLength = packet.headerLength ∧ built.Carries datagram := by
  rw [buildPacket_eq h hheader, Option.ite_none_right_eq_some] at hbuilt
  obtain ⟨hfits, hbuilt⟩ := hbuilt
  obtain ⟨sum, hsum, rfl⟩ := Option.map_eq_some_iff.mp hbuilt
  obtain ⟨hlt, rfl⟩ := Checksum.addUInt32_eq_some.mp hsum
  exact ⟨hfits, hlt, rfl, rfl, h.version, h.transportProtocol, h.sourceAddress,
    h.destinationAddress, _, _, rfl⟩

/-- A packet that was built is read as one that says the same. -/
theorem built_read {built : IPPacket} (h : packet.Carries datagram)
    (hheader : packet.HeaderFits) (hbuilt : packet.buildPacket = some built) :
    ∃ data read, built.packetData = some data ∧ init data = .ok read ∧ read.Carries datagram := by
  obtain ⟨hfits, -, hdata, -⟩ := built_cases h hheader hbuilt
  exact ⟨_, _, hdata, init_built h.version hheader hfits _ _, h.version, rfl, rfl, rfl, _, _, rfl⟩

theorem fiveBytes_built : fiveBytes.packet.buildPacket.isSome = true := by
  decide +kernel

/-- **Round trip.**  A packet that was built is read as what it was built from. -/
theorem buildPacket_reads_back {built : IPPacket} (h : packet.Carries datagram)
    (hheader : packet.HeaderFits) (hbuilt : packet.buildPacket = some built) :
    ∃ data read, built.packetData = some data ∧ init data = .ok read ∧ read.Carries datagram ∧
      read.headerLength = packet.headerLength ∧ read.tos = packet.tos ∧
      read.identification = packet.identification ∧ read.offset = packet.offset ∧
      read.TTL = packet.TTL ∧
      data.length = packet.headerLength.toNat + 8 + datagram.payload.length := by
  obtain ⟨hfits, -, hdata, -⟩ := built_cases h hheader hbuilt
  refine ⟨_, _, hdata, init_built h.version hheader hfits _ _,
    ⟨h.version, rfl, rfl, rfl, _, _, rfl⟩, rfl, rfl, rfl, rfl, rfl, ?_⟩
  rw [List.length_append, length_header hheader, Datagram.segment,
    UDPProtocolParser.length_segment]
  omega

theorem fiveBytes_reads_back :
    ∃ built data read, fiveBytes.packet.buildPacket = some built ∧
      built.packetData = some data ∧ init data = .ok read ∧ read.Carries fiveBytes ∧
      data.length = 33 := by
  obtain ⟨built, hbuilt⟩ := Option.isSome_iff_exists.mp fiveBytes_built
  obtain ⟨data, read, hdata, hread, hcarries, -, -, -, -, -, hlength⟩ :=
    buildPacket_reads_back fiveBytes.carries fiveBytes.headerFits hbuilt
  exact ⟨built, data, read, hbuilt, hdata, hread, hcarries, hlength⟩

/-- **Checksums.**  The header validates, and so does the segment with the pseudo header. -/
theorem buildPacket_checksums {built : IPPacket} (h : packet.Carries datagram)
    (hheader : packet.HeaderFits) (hbuilt : packet.buildPacket = some built) :
    ∃ data pseudo, built.packetData = some data ∧
      Checksum.validateChecksum data 0 (some packet.headerLength.toNat) = some true ∧
      built.computePseudoHeaderChecksum = some pseudo ∧
      Checksum.toChecksum (pseudo + wordSum (data.drop packet.headerLength.toNat)) = 0 := by
  obtain ⟨hfits, hsum, hdata, -, hcarries⟩ := built_cases h hheader hbuilt
  rw [Datagram.checksumSum] at hsum
  refine ⟨_, datagram.pseudoSum, hdata, ?_, ?_, ?_⟩
  · rw [Checksum.validateChecksum, computeChecksumUnfold_header hheader, Option.map_some,
      wordSum_header, Checksum.toChecksum_add]
    rfl
  · rw [computePseudoHeaderChecksum_eq hcarries (by omega), if_pos (by omega)]
  · rw [List.drop_left' (length_header hheader _), Datagram.segment,
      UDPProtocolParser.wordSum_segment, ← Nat.add_assoc]
    exact Checksum.toChecksum_add datagram.checksumSum

theorem fiveBytes_checksums :
    ∃ built data, fiveBytes.packet.buildPacket = some built ∧ built.packetData = some data ∧
      Checksum.validateChecksum data 0 (some 20) = some true := by
  obtain ⟨built, hbuilt⟩ := Option.isSome_iff_exists.mp fiveBytes_built
  obtain ⟨data, -, hdata, hvalid, -⟩ :=
    buildPacket_checksums fiveBytes.carries fiveBytes.headerFits hbuilt
  exact ⟨built, data, hbuilt, hdata, hvalid⟩

/-- The length of a short segment, in the upper half. -/
theorem byteSwapped_length {length : Nat} (h : length ≤ 510) :
    (byteSwapped (UInt32.ofNat length)).toNat + 65535 * ((length + 1) / 2) ≤ 4286578560 := by
  have hswapped : (byteSwapped (UInt32.ofNat length)).toNat =
      65536 * (length / 256) + 16777216 * (length % 256) := by
    simp only [byteSwapped, load, bytes, size, BinaryReadable.toNat, ofNat, Data.ofNumber,
      List.reverse_cons, List.reverse_nil, List.nil_append, List.cons_append, Data.toNumber,
      UInt8.toNat_ofNat', UInt32.toNat_ofNat']
    have hword : length % 2 ^ 32 = length := by omega
    have hhigh : length / 256 / 256 = 0 := by omega
    rw [hword, hhigh]
    omega
  omega

/-- The sum for the checksum of a short segment does not overflow. -/
theorem checksumSum_lt (hshort : datagram.payload.length ≤ 502) :
    datagram.checksumSum < 4294967296 := by
  have hsource := halves_le (byteSwapped (UInt32.ofBitVec datagram.source))
  have hdestination := halves_le (byteSwapped (UInt32.ofBitVec datagram.destination))
  have hwords := wordSum_le (datagram.segment 0)
  rw [Datagram.segment, UDPProtocolParser.length_segment] at hwords
  have hlength : (byteSwapped (UInt32.ofNat (datagram.payload.length + 8))).toNat +
      65535 * ((datagram.payload.length + 8 + 1) / 2) ≤ 4286578560 :=
    byteSwapped_length (by omega)
  rw [Datagram.checksumSum, Datagram.pseudoSum, Datagram.segment]
  omega

theorem isSome_buildPacket (h : packet.Carries datagram) (hheader : packet.HeaderFits) :
    packet.buildPacket.isSome = true ↔
      packet.headerLength.toNat + 8 + datagram.payload.length < 65536 ∧
        datagram.checksumSum < 4294967296 := by
  rw [buildPacket_eq h hheader, Datagram.checksumSum, Checksum.addUInt32]
  by_cases hfits : packet.headerLength.toNat + (datagram.payload.length + 8) < 65536
  · by_cases hsum : datagram.pseudoSum + wordSum (datagram.segment 0) < 4294967296
    · exact iff_of_true (by simp [hfits, hsum]) ⟨by omega, hsum⟩
    · simp [hfits, hsum]
  · exact iff_of_false (by simp [hfits]) fun h => hfits (by omega)

theorem isSome_buildPacket_short (h : packet.Carries datagram) (hheader : packet.HeaderFits)
    (hshort : datagram.payload.length ≤ 502) : packet.buildPacket.isSome = true := by
  have hupper := hheader.upper
  exact (isSome_buildPacket h hheader).mpr ⟨by omega, checksumSum_lt hshort⟩

/-- **When it is built.**  The packet has to fit, and the sum for the checksum of the segment
must not overflow; that of a short one never does. -/
theorem buildPacket_iff (h : packet.Carries datagram) (hheader : packet.HeaderFits) :
    (packet.buildPacket.isSome = true ↔
      packet.headerLength.toNat + 8 + datagram.payload.length < 65536 ∧
        datagram.checksumSum < 4294967296) ∧
      (datagram.payload.length ≤ 502 → packet.buildPacket.isSome = true) :=
  ⟨isSome_buildPacket h hheader, isSome_buildPacket_short h hheader⟩

theorem fiveBytes_builds :
    fiveBytes.packet.buildPacket.isSome = true ∧ fiveBytes.checksumSum < 4294967296 := by
  obtain ⟨hiff, hshort⟩ := buildPacket_iff fiveBytes.carries fiveBytes.headerFits
  have hbuilt := hshort (by decide)
  exact ⟨hbuilt, (hiff.mp hbuilt).2⟩

end IPPacket

end QLadder
