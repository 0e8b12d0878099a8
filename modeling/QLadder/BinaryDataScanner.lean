import QLadder.StreamCrypto

/-!
# Numbers in data

The fixed-width numbers that NEKit reads from packets and writes into them.  The
machines it runs on are little endian, and so are the bytes of a number in
memory; a packet has them in network order, which is the reversed one.

* `read_holds` — a scanner reads the number whose bytes come next;
* `write_next` — data that is filled from the front to the back.
-/

namespace QLadder

/-- Why there is no result. -/
inductive NoResult where
  /-- the answer is `nil`, or `false` -/
  | refused
  | trap
  /-- a loop has not come to its end in the rounds it was given -/
  | unfinished
  deriving DecidableEq, Repr

/-- `value!` -/
def unwrap {α : Type} : Option α → Except NoResult α
  | none => .error .trap
  | some value => .ok value

/-- `guard let … else { return nil }` -/
def orNil {α : Type} : Option α → Except NoResult α
  | none => .error .refused
  | some value => .ok value

/-- `guard … else { return nil }` -/
def check (condition : Prop) [Decidable condition] : Except NoResult Unit :=
  if condition then .ok () else .error .refused

/-- A computation that ends well is made of steps that end well. -/
theorem bind_eq_ok {α β : Type} {first : Except NoResult α} {next : α → Except NoResult β}
    {result : β} : (first >>= next) = .ok result ↔ ∃ a, first = .ok a ∧ next a = .ok result := by
  cases first with
  | error reason => simp [bind, Except.bind]
  | ok a => simp [bind, Except.bind]

@[simp]
theorem unwrap_bind_eq_ok {α β : Type} {value : Option α} {next : α → Except NoResult β}
    {result : β} :
    (unwrap value >>= next) = .ok result ↔ ∃ a, value = some a ∧ next a = .ok result := by
  cases value with
  | none => simp [unwrap, bind, Except.bind]
  | some a => simp [unwrap, bind, Except.bind]

@[simp]
theorem orNil_bind_eq_ok {α β : Type} {value : Option α} {next : α → Except NoResult β}
    {result : β} :
    (orNil value >>= next) = .ok result ↔ ∃ a, value = some a ∧ next a = .ok result := by
  cases value with
  | none => simp [orNil, bind, Except.bind]
  | some a => simp [orNil, bind, Except.bind]

@[simp]
theorem check_bind_eq_ok {β : Type} {condition : Prop} [Decidable condition]
    {next : Unit → Except NoResult β} {result : β} :
    (check condition >>= next) = .ok result ↔ condition ∧ next () = .ok result := by
  by_cases h : condition <;> simp [check, h, bind, Except.bind]

/-! ## Bytes in memory -/

/-- The number of bytes in memory. -/
def Data.toNumber : Data → Nat
  | [] => 0
  | byte :: rest => byte.toNat + 256 * Data.toNumber rest

/-- The bytes of a number in memory. -/
def Data.ofNumber : Nat → Nat → Data
  | 0, _ => []
  | count + 1, number => UInt8.ofNat number :: Data.ofNumber count (number / 256)

/-- A number is written in as many bytes as asked for. -/
@[simp]
theorem Data.length_ofNumber (count number : Nat) :
    (Data.ofNumber count number).length = count := by
  induction count generalizing number with
  | zero => rfl
  | succ count ih => simp [ofNumber, ih]

/-- How many numbers so many bytes have. -/
def Data.numbers : Nat → Nat
  | 0 => 1
  | count + 1 => 256 * Data.numbers count

/-- Bytes stand for a number below the power of their count. -/
theorem Data.toNumber_lt (bytes : Data) : Data.toNumber bytes < Data.numbers bytes.length := by
  induction bytes with
  | nil => exact Nat.zero_lt_one
  | cons byte rest ih =>
      have hbyte := byte.toNat_lt
      rw [toNumber, List.length_cons, numbers]
      omega

/-- A number that fits reads back from its bytes. -/
theorem Data.toNumber_ofNumber {count number : Nat} (h : number < Data.numbers count) :
    Data.toNumber (Data.ofNumber count number) = number := by
  induction count generalizing number with
  | zero =>
      rw [numbers] at h
      rw [ofNumber, toNumber]
      omega
  | succ count ih =>
      have hrest : toNumber (ofNumber count (number / 256)) = number / 256 :=
        ih (by rw [numbers] at h; omega)
      rw [ofNumber, toNumber, hrest, UInt8.toNat_ofNat']
      omega

/-- Bytes read as a number are written back. -/
theorem Data.ofNumber_toNumber (bytes : Data) :
    Data.ofNumber bytes.length (Data.toNumber bytes) = bytes := by
  induction bytes with
  | nil => rfl
  | cons byte rest ih =>
      have hbyte := byte.toNat_lt
      have hlow : UInt8.ofNat (byte.toNat + 256 * toNumber rest) = byte := by
        rw [← UInt8.toNat_inj, UInt8.toNat_ofNat']
        omega
      have hhigh : (byte.toNat + 256 * toNumber rest) / 256 = toNumber rest := by omega
      calc ofNumber (rest.length + 1) (byte.toNat + 256 * toNumber rest)
        _ = byte :: ofNumber rest.length (toNumber rest) := by rw [ofNumber, hlow, hhigh]
        _ = byte :: rest := by rw [ih]

/-- A fixed-width number. -/
class BinaryReadable (α : Type) where
  size : Nat
  toNat : α → Nat
  ofNat : Nat → α
  size_pos : 0 < size
  toNat_lt : ∀ value, toNat value < Data.numbers size
  ofNat_toNat : ∀ value, ofNat (toNat value) = value
  toNat_ofNat : ∀ number, number < Data.numbers size → toNat (ofNat number) = number

instance : BinaryReadable UInt8 where
  size := 1
  toNat := UInt8.toNat
  ofNat := UInt8.ofNat
  size_pos := by decide
  toNat_lt value := value.toNat_lt
  ofNat_toNat value := UInt8.ofNat_toNat
  toNat_ofNat number h := UInt8.toNat_ofNat_of_lt' h

instance : BinaryReadable UInt16 where
  size := 2
  toNat := UInt16.toNat
  ofNat := UInt16.ofNat
  size_pos := by decide
  toNat_lt value := value.toNat_lt
  ofNat_toNat value := UInt16.ofNat_toNat
  toNat_ofNat number h := UInt16.toNat_ofNat_of_lt' h

instance : BinaryReadable UInt32 where
  size := 4
  toNat := UInt32.toNat
  ofNat := UInt32.ofNat
  size_pos := by decide
  toNat_lt value := value.toNat_lt
  ofNat_toNat value := UInt32.ofNat_toNat
  toNat_ofNat number h := UInt32.toNat_ofNat_of_lt' h

namespace BinaryReadable

@[simp]
theorem size_UInt8 : size UInt8 = 1 :=
  rfl

@[simp]
theorem size_UInt16 : size UInt16 = 2 :=
  rfl

@[simp]
theorem size_UInt32 : size UInt32 = 4 :=
  rfl

variable {α : Type} [BinaryReadable α]

/-- `withUnsafeBytes(of:)`. -/
def bytes (value : α) : Data :=
  Data.ofNumber (size α) (toNat value)

/-- `pointee`, `load(as:)`. -/
def load (bytes : Data) : α :=
  ofNat (Data.toNumber bytes)

/-- `byteSwapped`, which is `bigEndian` and `CFSwapInt…HostToBig`. -/
def byteSwapped (value : α) : α :=
  load (bytes value).reverse

/-- The bytes in network order. -/
def bigEndian (value : α) : Data :=
  (bytes value).reverse

/-- A value has the bytes of its width. -/
@[simp]
theorem length_bytes (value : α) : (bytes value).length = size α :=
  Data.length_ofNumber _ _

@[simp]
theorem length_bigEndian (value : α) : (bigEndian value).length = size α := by
  rw [bigEndian, List.length_reverse, length_bytes]

@[simp]
theorem load_bytes (value : α) : load (bytes value) = value := by
  rw [load, bytes, Data.toNumber_ofNumber (toNat_lt value), ofNat_toNat]

theorem bytes_load {data : Data} (h : data.length = size α) :
    bytes (load data : α) = data := by
  have hlt := Data.toNumber_lt data
  rw [h] at hlt
  rw [bytes, load, toNat_ofNat _ hlt, ← h, Data.ofNumber_toNumber]

/-- Swapping the bytes of a value turns host order into network order. -/
@[simp]
theorem bytes_byteSwapped (value : α) : bytes (byteSwapped value) = bigEndian value :=
  bytes_load (by rw [List.length_reverse, length_bytes])

@[simp]
theorem byteSwapped_byteSwapped (value : α) : byteSwapped (byteSwapped value) = value := by
  rw [byteSwapped, bytes_byteSwapped, bigEndian, List.reverse_reverse, load_bytes]

/-- The bytes in memory are those of the swapped value in network order. -/
theorem bytes_eq_bigEndian (value : α) : bytes value = bigEndian (byteSwapped value) := by
  rw [← bytes_byteSwapped, byteSwapped_byteSwapped]

@[simp]
theorem bytes_UInt8 (value : UInt8) : bytes value = [value] := by
  have hload : bytes (load [value] : UInt8) = [value] := bytes_load rfl
  have hvalue : (load [value] : UInt8) = value := by simp [load, Data.toNumber, ofNat]
  rwa [hvalue] at hload

@[simp]
theorem bigEndian_UInt8 (value : UInt8) : bigEndian value = [value] := by
  rw [bigEndian, bytes_UInt8, List.reverse_singleton]

@[simp]
theorem byteSwapped_UInt8 (value : UInt8) : byteSwapped value = value := by
  rw [byteSwapped, bytes_UInt8, List.reverse_singleton, ← bytes_UInt8, load_bytes]

end BinaryReadable

open BinaryReadable

/-! ## Data that is filled -/

namespace Data

/-- `data.subdata(in: start..<finish)`; out of bounds it traps. -/
def subdata (data : Data) (start finish : Nat) : Option Data :=
  if start ≤ finish ∧ finish ≤ data.length then
    some ((data.take finish).drop start)
  else
    none

/-- Write bytes over others; out of bounds `replaceSubrange` traps. -/
def write (data : Data) (start : Nat) (bytes : Data) : Option Data :=
  if start + bytes.length ≤ data.length then
    some (data.replaceSubrange start (start + bytes.length) bytes)
  else
    none

/-- `resetBytes(in:)`. -/
def resetBytes (data : Data) (start count : Nat) : Option Data :=
  write data start (zeros count)

/-- Write a number, with its bytes swapped or not. -/
def setPayload {α : Type} [BinaryReadable α] (payload : Data) (value : α) (position : Nat)
    (swap : Bool) : Option Data :=
  write payload position (bytes (if swap then byteSwapped value else value))

/-- A single byte has no order to swap. -/
def setPayloadWithUInt8 (payload : Data) (value : UInt8) (position : Nat) : Option Data :=
  setPayload payload value position false

def setPayloadWithUInt16 (payload : Data) (value : UInt16) (position : Nat) (swap : Bool) :
    Option Data :=
  setPayload payload value position swap

def setPayloadWithUInt32 (payload : Data) (value : UInt32) (position : Nat) (swap : Bool) :
    Option Data :=
  setPayload payload value position swap

@[simp]
theorem length_zeros (count : Nat) : (zeros count).length = count :=
  List.length_replicate

/-- Zeros come in pieces. -/
theorem zeros_add (m n : Nat) : zeros (m + n) = zeros m ++ zeros n :=
  (List.replicate_append_replicate).symm

/-- Bytes are written over as many others. -/
theorem write_middle (front middle back : Data) {bytes : Data} {start : Nat}
    (hstart : start = front.length) (hbytes : bytes.length = middle.length) :
    write (front ++ middle ++ back) start bytes = some (front ++ bytes ++ back) := by
  rw [write, if_pos (by simp only [List.length_append]; omega),
    replaceSubrange_middle front middle back bytes hstart (by omega)]

/-- **Filling** zeros from the front. -/
theorem write_next (front : Data) {bytes : Data} {start count : Nat}
    (hstart : start = front.length) (hcount : bytes.length ≤ count) :
    write (front ++ zeros count) start bytes =
      some (front ++ bytes ++ zeros (count - bytes.length)) := by
  have hzeros : zeros count = zeros bytes.length ++ zeros (count - bytes.length) := by
    rw [← zeros_add, Nat.add_sub_cancel' hcount]
  rw [hzeros, ← List.append_assoc]
  exact write_middle front _ _ hstart (by rw [length_zeros])

theorem setPayloadWithUInt8_next (front : Data) {value : UInt8} {position count : Nat}
    (hposition : position = front.length) (hcount : 1 ≤ count) :
    setPayloadWithUInt8 (front ++ zeros count) value position =
      some (front ++ [value] ++ zeros (count - 1)) := by
  rw [setPayloadWithUInt8, setPayload, if_neg Bool.false_ne_true, bytes_UInt8]
  exact write_next front hposition hcount

theorem setPayloadWithUInt16_next (front : Data) {value : UInt16} {position count : Nat}
    (hposition : position = front.length) (hcount : 2 ≤ count) :
    setPayloadWithUInt16 (front ++ zeros count) value position true =
      some (front ++ bigEndian value ++ zeros (count - 2)) := by
  rw [setPayloadWithUInt16, setPayload, if_pos rfl, bytes_byteSwapped,
    write_next front hposition (by simpa using hcount), length_bigEndian, size_UInt16]

theorem setPayloadWithUInt32_next (front : Data) {value : UInt32} {position count : Nat}
    (hposition : position = front.length) (hcount : 4 ≤ count) :
    setPayloadWithUInt32 (front ++ zeros count) value position true =
      some (front ++ bigEndian value ++ zeros (count - 4)) := by
  rw [setPayloadWithUInt32, setPayload, if_pos rfl, bytes_byteSwapped,
    write_next front hposition (by simpa using hcount), length_bigEndian, size_UInt32]

/-- A number that is in network order already. -/
theorem setPayloadWithUInt32_swapped_next (front : Data) {value : UInt32} {position count : Nat}
    (hposition : position = front.length) (hcount : 4 ≤ count) :
    setPayloadWithUInt32 (front ++ zeros count) (byteSwapped value) position false =
      some (front ++ bigEndian value ++ zeros (count - 4)) := by
  rw [setPayloadWithUInt32, setPayload, if_neg Bool.false_ne_true, bytes_byteSwapped,
    write_next front hposition (by simpa using hcount), length_bigEndian, size_UInt32]

/-- Zeros are skipped. -/
theorem resetBytes_next (front : Data) {position count skipped : Nat}
    (hposition : position = front.length) (hcount : skipped ≤ count) :
    resetBytes (front ++ zeros count) position skipped =
      some (front ++ zeros skipped ++ zeros (count - skipped)) := by
  rw [resetBytes, write_next front hposition (by simpa using hcount), length_zeros]

/-! ## Data that holds bytes -/

/-- The bytes are those from a position on. -/
def HoldsAt (data : Data) (position : Nat) (bytes : Data) : Prop :=
  bytes <+: data.drop position

instance (data : Data) (position : Nat) (bytes : Data) : Decidable (HoldsAt data position bytes) :=
  decidable_of_iff (bytes.isPrefixOf (data.drop position) = true) List.isPrefixOf_iff_prefix

/-- Two pieces one after the other are found one after the other. -/
theorem holdsAt_append {data front back : Data} {position : Nat} :
    HoldsAt data position (front ++ back) ↔
      HoldsAt data position front ∧ HoldsAt data (position + front.length) back := by
  constructor
  · intro h
    obtain ⟨rest, hrest⟩ := h
    refine ⟨⟨back ++ rest, by rw [← hrest, List.append_assoc]⟩, rest, ?_⟩
    rw [← List.drop_drop, ← hrest, List.append_assoc, List.drop_left]
  · intro h
    obtain ⟨⟨rest, hrest⟩, more, hmore⟩ := h
    rw [← List.drop_drop, ← hrest, List.drop_left] at hmore
    exact ⟨more, by rw [← hrest, ← hmore, List.append_assoc]⟩

/-- What data begins with is found at its start. -/
theorem holdsAt_front (front back : Data) : HoldsAt (front ++ back) 0 front :=
  List.prefix_append front back

/-- What data ends with is found after the rest. -/
theorem holdsAt_back (front back : Data) : HoldsAt (front ++ back) front.length back := by
  simp [HoldsAt]

/-- A piece that is found is what a slice reads. -/
theorem HoldsAt.take {data bytes : Data} {position : Nat} (h : HoldsAt data position bytes) :
    (data.drop position).take bytes.length = bytes :=
  (List.prefix_iff_eq_take.mp h).symm

/-- A piece that is found fits. -/
theorem HoldsAt.le {data bytes : Data} {position : Nat} (h : HoldsAt data position bytes)
    (hpos : 0 < bytes.length) : position + bytes.length ≤ data.length := by
  have hle := h.length_le
  rw [List.length_drop] at hle
  omega

/-- The bytes up to the end. -/
theorem HoldsAt.subdata {data bytes : Data} {start finish : Nat}
    (h : HoldsAt data start bytes) (hfinish : finish = start + bytes.length)
    (hle : finish ≤ data.length) : Data.subdata data start finish = some bytes := by
  have htake := h.take
  rw [Data.subdata, if_pos (by omega), List.drop_take, hfinish, Nat.add_sub_cancel_left, htake]

end Data

/-! ## BinaryDataScanner -/

/-- A reader with its place in the data. -/
structure BinaryDataScanner where
  data : Data
  littleEndian : Bool
  position : Nat
  deriving DecidableEq, Repr

namespace BinaryDataScanner

variable {α : Type} [BinaryReadable α]

/-- `read`; `nil` if not so many bytes remain. -/
def read (scanner : BinaryDataScanner) : Option (α × BinaryDataScanner) :=
  if scanner.data.length < scanner.position + size α then
    none
  else
    let v : α := load ((scanner.data.drop scanner.position).take (size α))
    some (if scanner.littleEndian then v else byteSwapped v,
      { scanner with position := scanner.position + size α })

/-- `skip(to:)`, to a place from the start. -/
def skip (scanner : BinaryDataScanner) (n : Nat) : BinaryDataScanner :=
  { scanner with position := n }

/-- `advance(by:)`, which may be backwards. -/
def advance (scanner : BinaryDataScanner) (n : Int) : BinaryDataScanner :=
  { scanner with position := (scanner.position + n).toNat }

def readByte (scanner : BinaryDataScanner) : Option (UInt8 × BinaryDataScanner) :=
  scanner.read

def read16 (scanner : BinaryDataScanner) : Option (UInt16 × BinaryDataScanner) :=
  scanner.read

def read32 (scanner : BinaryDataScanner) : Option (UInt32 × BinaryDataScanner) :=
  scanner.read

/-- A number that was read, and where the next one is. -/
theorem read_eq_some {scanner after : BinaryDataScanner} {value : α} :
    scanner.read = some (value, after) ↔
      scanner.position + size α ≤ scanner.data.length ∧
        value = (if scanner.littleEndian then
          load ((scanner.data.drop scanner.position).take (size α)) else
          byteSwapped (load ((scanner.data.drop scanner.position).take (size α)))) ∧
        after = { scanner with position := scanner.position + size α } := by
  rw [read]
  split
  · rename_i hlt
    constructor
    · simp
    · intro h
      omega
  · rename_i hle
    simp only [Option.some.injEq, Prod.mk.injEq]
    constructor
    · intro h
      exact ⟨by omega, h.1.symm, h.2.symm⟩
    · intro h
      exact ⟨h.2.1.symm, h.2.2.symm⟩

/-- A read in network order gives the value whose bytes stand there. -/
theorem read_network {data : Data} {position : Nat} {after : BinaryDataScanner} {value : α} :
    read { data := data, littleEndian := false, position := position } = some (value, after) ↔
      position + size α ≤ data.length ∧
        value = byteSwapped (load ((data.drop position).take (size α))) ∧
        after = { data := data, littleEndian := false, position := position + size α } := by
  rw [read_eq_some]
  simp only [Bool.false_eq_true, if_false]

/-- **Network order.**  The number whose bytes come next is read. -/
theorem read_holds {data : Data} {position : Nat} {value : α}
    (h : data.HoldsAt position (bigEndian value)) :
    read { data := data, littleEndian := false, position := position } =
      some (value, { data := data, littleEndian := false, position := position + size α }) := by
  have htake := h.take
  have hle := h.le (by rw [length_bigEndian]; exact size_pos)
  rw [length_bigEndian] at htake hle
  rw [read_network]
  refine ⟨hle, ?_, rfl⟩
  rw [htake, ← bytes_byteSwapped, load_bytes, byteSwapped_byteSwapped]

/-- Little endian. -/
theorem read_holds_little {data : Data} {position : Nat} {value : α}
    (h : data.HoldsAt position (bytes value)) :
    read { data := data, littleEndian := true, position := position } =
      some (value, { data := data, littleEndian := true, position := position + size α }) := by
  have htake := h.take
  have hle := h.le (by rw [length_bytes]; exact size_pos)
  rw [length_bytes] at htake hle
  rw [read_eq_some]
  refine ⟨hle, ?_, rfl⟩
  rw [if_pos rfl, htake, load_bytes]

end BinaryDataScanner

end QLadder
