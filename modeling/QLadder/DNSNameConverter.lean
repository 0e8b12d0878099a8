import QLadder.BinaryDataScanner
import QLadder.HTTPHeader
import QLadder.IPPacket

/-!
# Names in DNS messages

A name is a sequence of labels; one that is read may go on at another place of
the payload.  The loop that reads a name follows such pointers without a bound,
so it is given a number of rounds.

* `getNamefromData_eq` — a name is read as its labels, wherever it goes on;
* `getNamefromData_unfinished` — where every label leads to another one, it is read for ever;
* `setLabels_eq`, `nameAt_wire` — a legible name that was written stands where it was written.
-/

namespace QLadder

open BinaryReadable Foundation HTTPHeader

namespace DNSNameConverter

/-! ### The two loops -/

/-- `trimmingCharacters(in: CharacterSet(charactersIn: "."))` -/
def trimmedDots (text : List Char) : List Char :=
  let rest := text.dropWhile (· == '.')
  (rest.reverse.dropWhile (· == '.')).reverse

/-- A round of the loop of `setName`: the data, and the next position. -/
def setLabel (label : List Char) (data : Data) (position : Nat) :
    Except NoResult (Data × Nat) := do
  let len := (encode label).length
  -- invalid domain name
  check (len ≠ 0)
  let byte ← unwrap (if len < 256 then some (UInt8.ofNat len) else none)
  let data ← unwrap (data.setPayloadWithUInt8 byte position)
  let data ← unwrap (data.write (position + 1) (encode label))
  .ok (data, position + 1 + len)

def setLabels : List (List Char) → Data → Nat → Except NoResult Data
  | [], data, position => unwrap (data.setPayloadWithUInt8 0 position)
  | label :: labels, data, position => do
      let (data, position) ← setLabel label data position
      setLabels labels data position

def setName (name : List Char) (data : Data) (position : Nat) : Except NoResult Data :=
  setLabels (components name ['.']) data position

/-- The variables of the loop of `getNamefromData`. -/
structure Reading where
  scanner : BinaryDataScanner
  name : List Char
  currentReadBytes : Nat
  jumped : Bool
  nameBytesLength : Nat
  deriving DecidableEq, Repr

/-- Follow a pointer, or go back to the length. -/
def Reading.jump (reading : Reading) (base : Nat) : Except NoResult Reading := do
  let (length, scanner) ← unwrap reading.scanner.read16
  if length &&& 0xC000 = 0xC000 then
    let reading :=
      if reading.jumped then reading
      else { reading with nameBytesLength := 2 + reading.currentReadBytes, jumped := true }
    .ok { reading with scanner := scanner.skip ((length &&& 0x3FFF).toNat + base) }
  else
    .ok { reading with scanner := scanner.advance (-2) }

/-- The name and its length, when the loop is left. -/
def Reading.result (reading : Reading) : List Char × Nat :=
  (trimmedDots reading.name,
    if reading.jumped then reading.nameBytesLength else reading.currentReadBytes)

/-- The loop of `getNamefromData`. -/
def Reading.loop (base : Nat) : Nat → Reading → Except NoResult (List Char × Nat)
  | 0, _ => .error .unfinished
  | rounds + 1, reading => do
      let reading ← reading.jump base
      let (len, scanner) ← unwrap reading.scanner.readByte
      let currentReadBytes := reading.currentReadBytes + 1
      if len = 0 then
        .ok { reading with scanner := scanner, currentReadBytes := currentReadBytes }.result
      else
        let currentReadBytes := currentReadBytes + len.toNat
        let bytes ← unwrap
          (scanner.data.subdata scanner.position (scanner.position + len.toNat))
        match decode bytes with
        | none => .ok ([], currentReadBytes)
        | some label =>
            loop base rounds
              { reading with
                scanner := scanner.advance len.toNat
                name := reading.name ++ '.' :: label
                currentReadBytes := currentReadBytes }

def getNamefromData (rounds : Nat) (data : Data) (offset base : Nat) :
    Except NoResult (List Char × Nat) :=
  Reading.loop base rounds
    { scanner := { data := data, littleEndian := false, position := offset }
      name := [], currentReadBytes := 0, jumped := false, nameBytesLength := 0 }

/-! ### Where a name goes on -/

/-- The length of the next label is at the place, or at another one that the place points to. -/
structure Leads (data : Data) (position place : Nat) (jumped : Bool) : Prop where
  count : position + 2 ≤ data.length
  pointer : jumped = true → place < 16384 ∧
    data.HoldsAt position (bigEndian (UInt16.ofNat (49152 + place)))
  straight : jumped = false → place = position ∧
    ∃ len : UInt8, len.toNat < 192 ∧ data.HoldsAt position [len]

/-- A label, behind its length. -/
structure LabelAt (data : Data) (position place : Nat) (jumped : Bool) (bytes : Data)
    (label : List Char) : Prop where
  leads : Leads data position place jumped
  pos : 0 < bytes.length
  short : bytes.length < 256
  holds : data.HoldsAt place (UInt8.ofNat bytes.length :: bytes)
  decoded : decode bytes = some label

/-- A name at a position: its labels, and how many bytes it takes there. -/
inductive NameAt (data : Data) : Nat → List (List Char) → Nat → Prop where
  | root {position place : Nat} {jumped : Bool} (leads : Leads data position place jumped)
      (zero : data.HoldsAt place [0]) :
      NameAt data position [] (if jumped then 2 else 1)
  | label {position place : Nat} {jumped : Bool} {bytes : Data} {label : List Char}
      {labels : List (List Char)} {count : Nat}
      (first : LabelAt data position place jumped bytes label)
      (rest : NameAt data (place + 1 + bytes.length) labels count) :
      NameAt data position (label :: labels) (if jumped then 2 else 1 + bytes.length + count)

/-- The labels, joined by dots. -/
def nameText (labels : List (List Char)) : List Char :=
  trimmedDots (labels.flatMap fun label => '.' :: label)

/-- The two upper bits of a length. -/
theorem pointer_iff (length : UInt16) :
    length &&& 0xC000 = 0xC000 ↔ length.toNat / 16384 = 3 := by
  have hlt := length.toNat_lt
  have hhigh := Nat.and_div_two_pow (a := length.toNat) (b := 49152) (n := 14)
  have hlow := Nat.and_mod_two_pow (a := length.toNat) (b := 49152) (n := 14)
  have hthree : length.toNat / 2 ^ 14 &&& 49152 / 2 ^ 14 = length.toNat / 2 ^ 14 % 4 :=
    Nat.and_two_pow_sub_one_eq_mod _ 2
  have hzero : length.toNat % 2 ^ 14 &&& 49152 % 2 ^ 14 = 0 := Nat.and_zero _
  rw [← UInt16.toNat_inj, UInt16.toNat_and]
  show length.toNat &&& 49152 = 49152 ↔ _
  omega

/-- The place that a pointer points to. -/
theorem pointer_place {place : Nat} (h : place < 16384) :
    UInt16.ofNat (49152 + place) &&& 0xC000 = 0xC000 ∧
      (UInt16.ofNat (49152 + place) &&& 0x3FFF).toNat = place := by
  have hvalue : (UInt16.ofNat (49152 + place)).toNat = 49152 + place :=
    UInt16.toNat_ofNat_of_lt' (by simp [UInt16.size]; omega)
  have hmask : (49152 + place) &&& 16383 = (49152 + place) % 16384 :=
    Nat.and_two_pow_sub_one_eq_mod _ 14
  constructor
  · rw [pointer_iff, hvalue]
    omega
  · rw [UInt16.toNat_and, hvalue]
    show (49152 + place) &&& 16383 = place
    omega

/-- Two bytes in network order. -/
theorem toNat_network (high low : UInt8) :
    (byteSwapped (load [high, low]) : UInt16).toNat = 256 * high.toNat + low.toNat := by
  have hhigh := high.toNat_lt
  have hlow := low.toNat_lt
  have hbytes : bytes (load [high, low] : UInt16) = [high, low] := bytes_load rfl
  rw [byteSwapped, hbytes]
  simp only [load, ofNat, List.reverse_cons, List.reverse_nil, List.nil_append, List.cons_append,
    Data.toNumber, UInt16.toNat_ofNat']
  omega

/-- **A jump**, or none. -/
theorem Reading.jump_eq {data : Data} {position place : Nat} {jumped : Bool}
    (h : Leads data position place jumped) {reading : Reading}
    (hscanner : reading.scanner = { data := data, littleEndian := false, position := position }) :
    reading.jump 0 =
      .ok
        { reading with
          scanner := { data := data, littleEndian := false, position := place }
          jumped := reading.jumped || jumped
          nameBytesLength :=
            if jumped && !reading.jumped then 2 + reading.currentReadBytes
            else reading.nameBytesLength } := by
  rw [Reading.jump, hscanner, BinaryDataScanner.read16]
  cases jumped with
  | true =>
      obtain ⟨hplace, hholds⟩ := h.pointer rfl
      obtain ⟨hpointer, hmask⟩ := pointer_place hplace
      rw [BinaryDataScanner.read_holds hholds]
      simp only [unwrap, bind, Except.bind, hpointer, if_true, hmask, BinaryDataScanner.skip]
      cases hjumped : reading.jumped <;> simp [hjumped]
  | false =>
      obtain ⟨rfl, len, hlen, hholds⟩ := h.straight rfl
      obtain ⟨low, hbytes⟩ : ∃ low, (data.drop place).take 2 = [len, low] := by
        obtain ⟨rest, hrest⟩ := hholds
        have hcount := h.count
        have hlength := congrArg List.length hrest
        rw [List.length_drop] at hlength
        cases rest with
        | nil =>
            simp only [List.append_nil, List.length_cons, List.length_nil] at hlength
            omega
        | cons low rest => exact ⟨low, by rw [← hrest]; rfl⟩
      have hread : BinaryDataScanner.read
          { data := data, littleEndian := false, position := place } =
            some ((byteSwapped (load [len, low]) : UInt16),
              { data := data, littleEndian := false, position := place + 2 }) :=
        BinaryDataScanner.read_network.mpr ⟨h.count, by rw [size_UInt16, hbytes], rfl⟩
      have hnot : ¬ (byteSwapped (load [len, low]) : UInt16) &&& 0xC000 = 0xC000 := by
        have hlow := low.toNat_lt
        rw [pointer_iff, toNat_network]
        omega
      rw [hread]
      simp only [unwrap, bind, Except.bind, if_neg hnot, BinaryDataScanner.advance]
      have hback : (((place + 2 : Nat) : Int) + -2).toNat = place := by omega
      rw [hback]
      simp

/-- **A round** of the loop. -/
theorem Reading.loop_label {data bytes : Data} {position place : Nat} {jumped : Bool}
    {label : List Char} (h : LabelAt data position place jumped bytes label) {reading : Reading}
    (hscanner : reading.scanner = { data := data, littleEndian := false, position := position })
    (rounds : Nat) :
    reading.loop 0 (rounds + 1) =
      Reading.loop 0 rounds
        { scanner :=
            { data := data, littleEndian := false, position := place + 1 + bytes.length }
          name := reading.name ++ '.' :: label
          currentReadBytes := reading.currentReadBytes + 1 + bytes.length
          jumped := reading.jumped || jumped
          nameBytesLength :=
            if jumped && !reading.jumped then 2 + reading.currentReadBytes
            else reading.nameBytesLength } := by
  obtain ⟨len, hlen⟩ : ∃ len, len = UInt8.ofNat bytes.length := ⟨_, rfl⟩
  have hlength : len.toNat = bytes.length := by
    rw [hlen, UInt8.toNat_ofNat_of_lt' h.short]
  have hpos := h.pos
  obtain ⟨hfirst, hbytes⟩ := Data.holdsAt_append.mp
    (show data.HoldsAt place ([len] ++ bytes) from hlen ▸ h.holds)
  replace hbytes : data.HoldsAt (place + 1) bytes := hbytes
  have hread := BinaryDataScanner.read_holds ((bigEndian_UInt8 len).symm ▸ hfirst)
  have hnot : ¬ len = 0 := by
    rintro rfl
    have hzero : 0 = bytes.length := hlength
    omega
  have hsubdata : data.subdata (place + 1) (place + 1 + bytes.length) = some bytes :=
    hbytes.subdata rfl (hbytes.le hpos)
  have hadvance : (((place + 1 : Nat) : Int) + (bytes.length : Nat)).toNat =
      place + 1 + bytes.length := by omega
  rw [Reading.loop, jump_eq h.leads hscanner]
  simp only [bind, Except.bind, BinaryDataScanner.readByte, hread, unwrap, size_UInt8,
    if_neg hnot, hlength, hsubdata, h.decoded, BinaryDataScanner.advance, hadvance]

/-- The loop reads the labels that are left. -/
theorem Reading.loop_eq {data : Data} {position count : Nat} {labels : List (List Char)}
    (h : NameAt data position labels count) {reading : Reading} {rounds : Nat}
    (hscanner : reading.scanner = { data := data, littleEndian := false, position := position })
    (hrounds : labels.length < rounds) :
    reading.loop 0 rounds =
      .ok (trimmedDots (reading.name ++ labels.flatMap fun label => '.' :: label),
        if reading.jumped then reading.nameBytesLength
        else reading.currentReadBytes + count) := by
  induction h generalizing reading rounds with
  | @root position place jumped leads zero =>
      obtain ⟨rounds, rfl⟩ : ∃ n, rounds = n + 1 := ⟨rounds - 1, by omega⟩
      have hread := BinaryDataScanner.read_holds ((bigEndian_UInt8 0).symm ▸ zero)
      simp only [Reading.loop, bind, Except.bind, jump_eq leads hscanner,
        BinaryDataScanner.readByte, hread, unwrap, if_true, Reading.result, List.flatMap_nil,
        List.append_nil]
      cases jumped <;> cases reading.jumped <;> simp [Nat.add_comm]
  | @label position place jumped bytes label labels count first rest ih =>
      obtain ⟨rounds, rfl⟩ : ∃ n, rounds = n + 1 := ⟨rounds - 1, by omega⟩
      have hrest : labels.length < rounds := by
        simp only [List.length_cons] at hrounds
        omega
      rw [loop_label first hscanner, ih rfl hrest]
      simp only [List.flatMap_cons, List.append_assoc, List.cons_append]
      cases jumped <;> cases reading.jumped <;> simp <;> omega

/-- **A name** is read as its labels, in a round for each and one for the end. -/
theorem getNamefromData_eq {data : Data} {position count rounds : Nat}
    {labels : List (List Char)} (h : NameAt data position labels count)
    (hrounds : labels.length < rounds) :
    getNamefromData rounds data position 0 = .ok (nameText labels, count) := by
  rw [getNamefromData, Reading.loop_eq h rfl hrounds]
  simp [nameText]

/-- `a`, and `b.a` whose second label is behind a pointer. -/
def pointed : Data :=
  [1, 97, 0, 1, 98, 192, 0]

example : getNamefromData 3 pointed 3 0 = .ok (['b', '.', 'a'], 4) := by
  decide

/-- **Round in circles.**  Where every label leads to another one, the loop does not end. -/
theorem getNamefromData_unfinished {data : Data} {circle : Nat → Prop}
    (h : ∀ position, circle position → ∃ place jumped bytes label,
      LabelAt data position place jumped bytes label ∧ circle (place + 1 + bytes.length))
    {position : Nat} (hposition : circle position) (rounds : Nat) :
    getNamefromData rounds data position 0 = .error .unfinished := by
  have hloop : ∀ rounds (reading : Reading) position,
      reading.scanner = { data := data, littleEndian := false, position := position } →
      circle position → reading.loop 0 rounds = .error .unfinished := by
    intro rounds
    induction rounds with
    | zero =>
        intro reading position _ _
        rfl
    | succ rounds ih =>
        intro reading position hscanner hcircle
        obtain ⟨place, jumped, bytes, label, hlabel, hnext⟩ := h position hcircle
        rw [Reading.loop_label hlabel hscanner]
        exact ih _ _ rfl hnext
  exact hloop rounds _ position rfl hposition

/-- The label `a`, and a pointer to it. -/
def circular : Data :=
  [1, 97, 192, 0]

theorem getNamefromData_circular :
    getNamefromData 1000 circular 0 0 = .error .unfinished := by
  have hfirst : LabelAt circular 0 0 false (encode ['a']) ['a'] :=
    ⟨⟨by decide, nofun, fun _ => ⟨rfl, 1, by decide, by decide⟩⟩, by decide, by decide, by decide,
      decode_encode ['a']⟩
  have hagain : LabelAt circular 2 0 true (encode ['a']) ['a'] :=
    ⟨⟨by decide, fun _ => ⟨by decide, by decide⟩, nofun⟩, by decide, by decide, by decide,
      decode_encode ['a']⟩
  have hcircle : ∀ position, (position = 0 ∨ position = 2) → ∃ place jumped bytes label,
      LabelAt circular position place jumped bytes label ∧
        (place + 1 + bytes.length = 0 ∨ place + 1 + bytes.length = 2) := by
    intro position h
    cases h with
    | inl h => exact ⟨0, false, encode ['a'], ['a'], h ▸ hfirst, Or.inr rfl⟩
    | inr h => exact ⟨0, true, encode ['a'], ['a'], h ▸ hagain, Or.inr rfl⟩
  exact getNamefromData_unfinished hcircle (Or.inl rfl) 1000

/-! ### Names that are written -/

/-- The bytes of a name. -/
def wire (labels : List (List Char)) : Data :=
  (labels.flatMap fun label => UInt8.ofNat (encode label).length :: encode label) ++ [0]

/-- Every label can be written, and its length is not taken for a pointer. -/
def Legible (name : List Char) : Prop :=
  ∀ label ∈ components name ['.'], 0 < (encode label).length ∧ (encode label).length < 192

theorem encode_append (front back : List Char) :
    encode (front ++ back) = encode front ++ encode back :=
  List.flatMap_append

theorem length_wire (labels : List (List Char)) :
    (wire labels).length = (encode (labels.flatMap fun label => '.' :: label)).length + 1 := by
  induction labels with
  | nil => rfl
  | cons label labels ih =>
      have hdot : ∀ text, (encode ('.' :: text)).length = 1 + (encode text).length := by
        intro text
        rw [← List.singleton_append, encode_append, List.length_append]
        rfl
      simp only [wire, List.flatMap_cons, List.cons_append, List.length_cons, List.length_append,
        List.length_nil, encode_append, hdot] at ih ⊢
      omega

/-- A label takes more than one byte, and so does the end. -/
theorem length_lt_wire (labels : List (List Char)) : labels.length < (wire labels).length := by
  induction labels with
  | nil => exact Nat.zero_lt_one
  | cons label labels ih =>
      simp only [wire, List.flatMap_cons, List.cons_append, List.length_cons, List.length_append,
        List.length_nil] at ih ⊢
      omega

/-- The name is written over zeros. -/
theorem setLabels_eq {labels : List (List Char)}
    (h : ∀ label ∈ labels, 0 < (encode label).length ∧ (encode label).length < 192)
    (front : Data) {position count : Nat} (hposition : position = front.length)
    (hcount : (wire labels).length ≤ count) :
    setLabels labels (front ++ Data.zeros count) position =
      .ok (front ++ wire labels ++ Data.zeros (count - (wire labels).length)) := by
  induction labels generalizing front position count with
  | nil =>
      rw [setLabels, Data.setPayloadWithUInt8_next front hposition hcount]
      rfl
  | cons label labels ih =>
      obtain ⟨hlabel, hlabels⟩ := List.forall_mem_cons.mp h
      have hwire : (wire (label :: labels)).length =
          1 + (encode label).length + (wire labels).length := by
        simp only [wire, List.flatMap_cons, List.cons_append, List.length_cons,
          List.length_append, List.length_nil]
        omega
      have hlength : (front ++ Data.zeros count).setPayloadWithUInt8
          (UInt8.ofNat (encode label).length) position =
            some (front ++ [UInt8.ofNat (encode label).length] ++ Data.zeros (count - 1)) :=
        Data.setPayloadWithUInt8_next front hposition (by omega)
      have hbytes : (front ++ [UInt8.ofNat (encode label).length] ++ Data.zeros (count - 1)).write
          (position + 1) (encode label) =
            some (front ++ [UInt8.ofNat (encode label).length] ++ encode label ++
              Data.zeros (count - 1 - (encode label).length)) :=
        Data.write_next _ (by simp [hposition]) (by omega)
      have hnot : (encode label).length ≠ 0 := by omega
      have hshort : (encode label).length < 256 := by omega
      have hrest : count - 1 - (encode label).length - (wire labels).length =
          count - (wire (label :: labels)).length := by omega
      rw [setLabels, setLabel]
      simp only [check, if_pos hnot, bind, Except.bind, unwrap, if_pos hshort, hlength, hbytes]
      rw [ih hlabels _ (by simp [hposition]; omega) (by omega), hrest]
      simp [wire]

/-- Labels that were written are a name, if there is something behind them. -/
theorem nameAt_wire {labels : List (List Char)}
    (h : ∀ label ∈ labels, 0 < (encode label).length ∧ (encode label).length < 192)
    {data : Data} {position : Nat} (hholds : data.HoldsAt position (wire labels))
    (hbehind : position + (wire labels).length < data.length) :
    NameAt data position labels (wire labels).length := by
  induction labels generalizing position with
  | nil =>
      have hleads : Leads data position position false :=
        { count := hbehind
          pointer := nofun
          straight := fun _ => ⟨rfl, 0, by decide, hholds⟩ }
      exact .root hleads hholds
  | cons label labels ih =>
      obtain ⟨hlabel, hlabels⟩ := List.forall_mem_cons.mp h
      have hsplit : wire (label :: labels) =
          (UInt8.ofNat (encode label).length :: encode label) ++ wire labels := by
        simp [wire]
      rw [hsplit] at hholds hbehind ⊢
      simp only [List.length_append, List.length_cons] at hbehind ⊢
      obtain ⟨hfirst, hrest⟩ := Data.holdsAt_append.mp hholds
      rw [List.length_cons] at hrest
      have hvalue : (UInt8.ofNat (encode label).length).toNat = (encode label).length :=
        UInt8.toNat_ofNat_of_lt' (Nat.lt_trans hlabel.2 (by decide))
      have hlabelAt : LabelAt data position position false (encode label) label :=
        { leads :=
            { count := by omega
              pointer := nofun
              straight := fun _ => ⟨rfl, _, by omega,
                (Data.holdsAt_append.mp (show data.HoldsAt position
                  ([UInt8.ofNat (encode label).length] ++ encode label) from hfirst)).1⟩ }
          pos := hlabel.1
          short := by omega
          holds := hfirst
          decoded := decode_encode label }
      have hname : NameAt data (position + 1 + (encode label).length) labels
          (wire labels).length := ih hlabels (by rw [Nat.add_assoc, Nat.add_comm 1]; exact hrest)
        (by omega)
      have hwhole := NameAt.label hlabelAt hname
      rw [if_neg Bool.false_ne_true, Nat.add_comm 1] at hwhole
      exact hwhole

/-- **Labels** of a legible name are joined to the name. -/
theorem nameText_components {name : List Char} (h : Legible name) :
    nameText (components name ['.']) = name := by
  have hjoin : ((components name ['.']).flatMap fun label => '.' :: label) = '.' :: name :=
    flatMap_componentsFrom_singleton '.' [] name
  have hnil : [] ∉ components name ['.'] := fun hmem => absurd (h [] hmem).1 (by decide)
  have hfront : name.dropWhile (· == '.') = name := by
    cases name with
    | nil => rfl
    | cons c cs =>
        rw [List.dropWhile_cons_of_neg]
        intro hc
        apply hnil
        rw [beq_iff_eq] at hc
        have hfirst := componentsFrom_separator (List.cons_ne_nil '.' []) [] cs
        rw [components, hc]
        exact hfirst ▸ List.mem_cons_self
  have hback : name.reverse.dropWhile (· == '.') = name.reverse := by
    cases hreverse : name.reverse with
    | nil => rfl
    | cons c cs =>
        rw [List.dropWhile_cons_of_neg]
        intro hc
        apply hnil
        rw [beq_iff_eq] at hc
        have hname : name = cs.reverse ++ ['.'] := by
          rw [← List.reverse_reverse name, hreverse, List.reverse_cons, hc]
        rw [hname]
        exact nil_mem_components_append '.' [] cs.reverse
  rw [nameText, hjoin, trimmedDots, List.dropWhile_cons_of_pos (by simp), hfront, hback,
    List.reverse_reverse]

/-- The bytes of a legible name are two more than those of its text. -/
theorem length_wire_components (name : List Char) :
    (wire (components name ['.'])).length = (encode name).length + 2 := by
  have hjoin : ((components name ['.']).flatMap fun label => '.' :: label) = '.' :: name :=
    flatMap_componentsFrom_singleton '.' [] name
  have hdot : (encode ['.']).length = 1 := rfl
  calc (wire (components name ['.'])).length
    _ = (encode (['.'] ++ name)).length + 1 := by
      rw [length_wire, hjoin, List.singleton_append]
    _ = (encode ['.']).length + (encode name).length + 1 := by
      rw [encode_append, List.length_append]
    _ = (encode name).length + 2 := by omega

end DNSNameConverter

end QLadder
