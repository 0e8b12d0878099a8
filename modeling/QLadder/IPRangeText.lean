import QLadder.Swift
import QLadder.IPPool

/-!
# The texts of address ranges

`IPRange(withString:)` reads an address, a network with the length of its prefix
(`10.0.0.0/8`), or a first address with the number of those behind it
(`10.0.0.1+3`).

* `contains_written` — a range that was read contains the addresses that its text
  says, with one exception;
* `IPRange.network_of_IPv6` — the mask of an IPv6 network is laid over the bytes in
  the other order, so that such a range does not have its own addresses.
-/

namespace QLadder

open Swift

/-- `IPRangeError`. -/
inductive IPRangeError where
  | invalidCIDRFormat
  | invalidRangeFormat
  | invalidRange
  | invalidFormat
  | addressIncompatible
  | noRange
  | intervalInvalid
  | invalidMask
  deriving DecidableEq, Repr

/-- `UInt128(text)`, which throws where this is `none`: a prefix gives the radix. -/
def uint128OfString (source : List Char) : Option Nat :=
  let size := Family.IPv6.size
  match source with
  | '0' :: 'b' :: digits => unsignedOfString size 2 digits
  | '0' :: 'o' :: digits => unsignedOfString size 8 digits
  | '0' :: 'x' :: digits => unsignedOfString size 16 digits
  | _ => unsignedOfString size 10 source

/-- `UInt32(text)` or `UInt128(text)`. -/
def Family.number (family : Family) (source : List Char) : Option Nat :=
  match family with
  | .IPv4 => unsignedOfString Family.IPv4.size 10 source
  | .IPv6 => uint128OfString source

/-- The bits of an address. -/
def Family.width : Family → Nat
  | .IPv4 => 32
  | .IPv6 => 128

/-- `byteSwapped`. -/
def IPMask.byteSwapped {w : Nat} (bytes : Nat) (value : BitVec w) : BitVec w :=
  (List.range bytes).foldl
    (fun swapped i => (swapped <<< 8) ||| ((value >>> (8 * i)) &&& BitVec.ofNat w 0xff)) 0

/-- `IPInterval`. -/
inductive IPInterval where
  | IPv4 (range : Nat)
  | IPv6 (range : Nat)
  deriving DecidableEq, Repr

/-- `IPMask`. -/
inductive IPMask where
  | IPv4 (m : Nat)
  | IPv6 (m : Nat)
  deriving DecidableEq, Repr

/-- The interval of a number of the family. -/
def Family.interval : Family → Nat → IPInterval
  | .IPv4 => .IPv4
  | .IPv6 => .IPv6

/-- The mask of a number of the family. -/
def Family.mask : Family → Nat → IPMask
  | .IPv4 => .IPv4
  | .IPv6 => .IPv6

/-- `advanced(by:)`. -/
def IPAddress.advancedBy (interval : IPInterval) (address : IPAddress) : Option IPAddress :=
  match interval, address with
  | .IPv4 range, .IPv4 addr => some (.IPv4 (addr + BitVec.ofNat 32 range))
  | .IPv6 range, .IPv6 addr => some (.IPv6 (addr + BitVec.ofNat 128 range))
  | _, _ => none

/-! ## Masks -/

/-- The two ends of a network: `shift` bits at the end are free. -/
def networkEnds {w : Nat} (address : BitVec w) (shift : Nat) : BitVec w × BitVec w :=
  let base := (address >>> shift) <<< shift
  (base, base ||| ~~~((BitVec.allOnes w >>> shift) <<< shift))

/-- `IPMask.mask`.  An address is a number in host order here, as `asUInt128` is; the
branch for IPv6 swaps its bytes all the same. -/
def IPMask.mask (baseIP : IPAddress) (mask : IPMask) : Option (IPAddress × IPAddress) :=
  match mask, baseIP with
  | .IPv4 m, .IPv4 addr =>
      if 32 < m then none
      else if m = 32 then some (.IPv4 addr, .IPv4 addr)
      else if m = 0 then some (.IPv4 0, .IPv4 (BitVec.allOnes 32))
      else
        let ends := networkEnds addr (32 - m)
        some (.IPv4 ends.1, .IPv4 ends.2)
  | .IPv6 m, .IPv6 addr =>
      if 128 < m then none
      else if m = 128 then some (.IPv6 addr, .IPv6 addr)
      else if m = 0 then some (.IPv6 0, .IPv6 (BitVec.allOnes 128))
      else
        let ends := networkEnds (IPMask.byteSwapped 16 addr) (128 - m)
        some (.IPv6 ends.1, .IPv6 ends.2)
  | _, _ => none

/-- A network has the addresses with the same first bits. -/
theorem networkEnds_iff {w shift : Nat} (hshift : shift ≤ w) (address other : BitVec w) :
    (networkEnds address shift).1.toNat ≤ other.toNat ∧
        other.toNat ≤ (networkEnds address shift).2.toNat ↔
      other.toNat >>> shift = address.toNat >>> shift := by
  obtain ⟨block, hblock⟩ : ∃ block, block = 2 ^ shift := ⟨_, rfl⟩
  have hpos : 0 < block := hblock ▸ Nat.two_pow_pos shift
  -- whole blocks below a number fit its width
  have hwhole : ∀ value : BitVec w,
      ((value >>> shift) <<< shift).toNat = block * (value.toNat / block) := by
    intro value
    have hle := Nat.mul_div_le value.toNat block
    have hlt := value.isLt
    calc ((value >>> shift) <<< shift).toNat
      _ = (value.toNat / block * block) % 2 ^ w := by
        rw [BitVec.toNat_shiftLeft, BitVec.toNat_ushiftRight, Nat.shiftRight_eq_div_pow,
          Nat.shiftLeft_eq, ← hblock]
      _ = (block * (value.toNat / block)) % 2 ^ w := by rw [Nat.mul_comm]
      _ = block * (value.toNat / block) := Nat.mod_eq_of_lt (by omega)
  have hfree : (~~~((BitVec.allOnes w >>> shift) <<< shift)).toNat = block - 1 := by
    obtain ⟨blocks, hblocks⟩ : ∃ blocks, 2 ^ w = block * (blocks + 1) := by
      refine ⟨2 ^ (w - shift) - 1, ?_⟩
      have hone := Nat.two_pow_pos (w - shift)
      rw [Nat.sub_add_cancel hone, hblock, ← Nat.pow_add, Nat.add_sub_cancel' hshift]
    have hlast : 2 ^ w - 1 = block * blocks + (block - 1) := by
      rw [hblocks, Nat.mul_succ]
      omega
    have hdiv : (block * blocks + (block - 1)) / block = blocks := by
      rw [Nat.mul_add_div hpos, Nat.div_eq_of_lt (by omega), Nat.add_zero]
    rw [BitVec.toNat_not, hwhole, BitVec.toNat_allOnes, hlast, hdiv]
    omega
  have hend : (networkEnds address shift).2.toNat =
      block * (address.toNat / block) + (block - 1) := by
    have hor := Nat.two_pow_add_eq_or_of_lt (show block - 1 < 2 ^ shift by omega)
      (address.toNat / block)
    rw [networkEnds, BitVec.toNat_or, hwhole, hfree]
    rw [← hblock] at hor
    exact hor.symm
  have hbase : (networkEnds address shift).1.toNat = block * (address.toNat / block) :=
    hwhole address
  rw [hbase, hend, Nat.shiftRight_eq_div_pow, Nat.shiftRight_eq_div_pow, ← hblock]
  constructor
  · rintro ⟨hlow, hhigh⟩
    apply Nat.div_eq_of_lt_le
    · rw [Nat.mul_comm]
      exact hlow
    · rw [Nat.succ_mul, Nat.mul_comm]
      omega
  · intro hsame
    have hle := Nat.mul_div_le other.toNat block
    have hlt := Nat.lt_mul_div_succ other.toNat hpos
    rw [hsame, Nat.mul_succ] at hlt
    rw [hsame] at hle
    exact ⟨hle, by omega⟩

namespace IPRange

/-- `init(startIP:endIP:)`. -/
def ofEnds (startIP endIP : IPAddress) : Except IPRangeError IPRange :=
  if hfamily : startIP.family = endIP.family then
    if hordered : endIP.less startIP = false then
      .ok { startIP := startIP, endIP := endIP, compatible := hfamily, ordered := hordered }
    else
      .error .invalidRange
  else
    .error .addressIncompatible

/-- `init(startIP:interval:)`. -/
def ofInterval (startIP : IPAddress) (interval : IPInterval) : Except IPRangeError IPRange :=
  match startIP.advancedBy interval with
  | some endIP => ofEnds startIP endIP
  | none => .error .intervalInvalid

/-- `init(startIP:mask:)`. -/
def ofMask (startIP : IPAddress) (mask : IPMask) : Except IPRangeError IPRange :=
  match mask.mask startIP with
  | some (startIP, endIP) => ofEnds startIP endIP
  | none => .error .invalidMask

section Texts

variable (ip : IPSyntax)

/-- The two parts of a text around a separator: an address, and a number of its
family.  `components(separatedBy:)` goes by scalars. -/
def addressAndNumber (rep : Text) (separator : Char) : Option (IPAddress × Nat) :=
  match Foundation.components (scalarsOf rep) [separator] with
  | [front, back] => do
      let address ← ip.fromScalars front
      let number ← address.family.number back
      some (address, number)
  | _ => none

/-- `init(withCIDRString:)`. -/
def withCIDRString (rep : Text) : Except IPRangeError IPRange :=
  match addressAndNumber ip rep '/' with
  | some (address, m) => ofMask address (address.family.mask m)
  | none => .error .invalidCIDRFormat

/-- `init(withRangeString:)`. -/
def withRangeString (rep : Text) : Except IPRangeError IPRange :=
  match addressAndNumber ip rep '+' with
  | some (startIP, m) => ofInterval startIP (startIP.family.interval m)
  | none => .error .invalidRangeFormat

/-- `init(withString:)`. -/
def withString (rep : Text) : Except IPRangeError IPRange :=
  if Foundation.contains rep (text "/") then withCIDRString ip rep
  else if Foundation.contains rep (text "+") then withRangeString ip rep
  else
    match ip.address rep with
    | some address => ofEnds address address
    | none => .error .invalidFormat

end Texts

end IPRange

/-! ## What the texts say -/

/-- The reading of a text. -/
inductive WrittenRange where
  | single (address : IPAddress)
  | network (address : IPAddress) (length : Nat)
  | interval (first : IPAddress) (others : Nat)
  deriving DecidableEq, Repr

namespace WrittenRange

/-- The addresses that the text stands for: the one, those with the same first bits,
or those from the first on. -/
def Contains (other : IPAddress) : WrittenRange → Prop
  | .single address => other = address
  | .network address length => other.family = address.family ∧
      other.number >>> (address.family.width - length) =
        address.number >>> (address.family.width - length)
  | .interval first others => other.family = first.family ∧
      first.number ≤ other.number ∧ other.number ≤ first.number + others

instance (other : IPAddress) : ∀ range, Decidable (Contains other range)
  | .single _ => inferInstanceAs (Decidable (_ = _))
  | .network _ _ => inferInstanceAs (Decidable (_ ∧ _))
  | .interval _ _ => inferInstanceAs (Decidable (_ ∧ _ ∧ _))

/-- An IPv6 network that is neither one address nor all of them. -/
def MaskedIPv6 : WrittenRange → Prop
  | .network (.IPv6 _) length => length ≠ 0 ∧ length ≠ 128
  | _ => False

instance : ∀ range, Decidable (MaskedIPv6 range)
  | .network (.IPv6 _) _ => inferInstanceAs (Decidable (_ ∧ _))
  | .network (.IPv4 _) _ => isFalse id
  | .single _ => isFalse id
  | .interval _ _ => isFalse id

variable (ip : IPSyntax)

/-- A text with a separator between an address and a number of its family. -/
def Parted (separator : Char) (rep : Text) (address : IPAddress) (number : Nat) : Prop :=
  ∃ front back, scalarsOf rep = front ++ separator :: back ∧
    separator ∉ front ∧ separator ∉ back ∧
    ip.fromScalars front = some address ∧ address.family.number back = some number

/-- The text says the range. -/
def Reads (rep : Text) : WrittenRange → Prop
  | .single address => ¬ text "/" <:+: rep ∧ ¬ text "+" <:+: rep ∧
      ip.address rep = some address
  | .network address length => text "/" <:+: rep ∧ Parted ip '/' rep address length
  | .interval first others => ¬ text "/" <:+: rep ∧ text "+" <:+: rep ∧
      Parted ip '+' rep first others

end WrittenRange

section Written

variable {ip : IPSyntax} {rep : Text}

/-- The ends of a range that was made of them. -/
theorem IPRange.of_ofEnds {startIP endIP : IPAddress} {range : IPRange}
    (h : IPRange.ofEnds startIP endIP = .ok range) :
    range.startIP = startIP ∧ range.endIP = endIP := by
  unfold IPRange.ofEnds at h
  split at h
  · split at h
    · cases h
      exact ⟨rfl, rfl⟩
    · cases h
  · cases h

/-- A text around one separator has its two parts. -/
theorem addressAndNumber_of_parted {separator : Char} {address : IPAddress} {number : Nat}
    (h : WrittenRange.Parted ip separator rep address number) :
    IPRange.addressAndNumber ip rep separator = some (address, number) := by
  obtain ⟨front, back, hscalars, hfront, hback, haddress, hnumber⟩ := h
  have habsent : ∀ part : List Char, separator ∉ part → ¬ [separator] <:+: part := by
    intro part hnot hoccurs
    exact hnot (hoccurs.subset (List.mem_singleton.mpr rfl))
  have hparts : Foundation.components (scalarsOf rep) [separator] = [front, back] := by
    rw [hscalars, ← List.singleton_append,
      Foundation.components_append List.not_mem_nil (habsent front hfront) back,
      Foundation.components_of_absent (habsent back hback)]
  simp [IPRange.addressAndNumber, hparts, haddress, hnumber]

/-- Parts that were found are around one separator. -/
theorem parted_of_addressAndNumber {separator : Char} {address : IPAddress} {number : Nat}
    (h : IPRange.addressAndNumber ip rep separator = some (address, number)) :
    WrittenRange.Parted ip separator rep address number := by
  unfold IPRange.addressAndNumber at h
  split at h
  · rename_i front back hparts
    obtain ⟨found, haddress, h⟩ := Option.bind_eq_some_iff.mp h
    obtain ⟨value, hnumber, h⟩ := Option.bind_eq_some_iff.mp h
    cases h
    have hpresent : ∀ part : List Char, ¬ [separator] <:+: part → separator ∉ part := by
      intro part hnot hmem
      obtain ⟨before, after, rfl⟩ := List.append_of_mem hmem
      exact hnot ⟨before, after, by simp⟩
    cases Foundation.components_cases (List.cons_ne_nil separator []) (scalarsOf rep) with
    | inl hwhole => simp [hwhole.2] at hparts
    | inr hsplit =>
        obtain ⟨first, rest, hscalars, hfirst, hcomponents⟩ := hsplit
        rw [hcomponents] at hparts
        obtain ⟨rfl, hrest⟩ := List.cons_eq_cons.mp hparts
        cases Foundation.components_cases (List.cons_ne_nil separator []) rest with
        | inl hlast =>
            rw [hlast.2] at hrest
            obtain ⟨rfl, -⟩ := List.cons_eq_cons.mp hrest
            refine ⟨first, rest, ?_, hpresent first hfirst, hpresent rest hlast.1, haddress,
              hnumber⟩
            rw [hscalars, List.append_assoc, List.singleton_append]
        | inr hmore =>
            -- a second separator leaves a third part
            obtain ⟨second, others, -, -, hthird⟩ := hmore
            rw [hthird] at hrest
            obtain ⟨-, hnone⟩ := List.cons_eq_cons.mp hrest
            exact absurd hnone (Foundation.componentsFrom_ne_nil _ _ _ _)
  · cases h

theorem contains_separator (rep : Text) (separator : String)
    (hnonempty : text separator ≠ []) :
    Foundation.contains rep (text separator) = true ↔ text separator <:+: rep := by
  rw [Foundation.contains_iff]
  exact ⟨And.right, fun h => ⟨hnonempty, h⟩⟩

/-- **Every text that is accepted has a reading.** -/
theorem WrittenRange.exists_reads {range : IPRange}
    (h : IPRange.withString ip rep = .ok range) :
    ∃ written : WrittenRange, written.Reads ip rep := by
  have hslash := contains_separator rep "/" (by decide)
  have hplus := contains_separator rep "+" (by decide)
  unfold IPRange.withString at h
  split at h
  · rename_i hcontains
    unfold IPRange.withCIDRString at h
    split at h
    · rename_i address m hparts
      exact ⟨.network address m, hslash.mp hcontains, parted_of_addressAndNumber hparts⟩
    · cases h
  · rename_i hnoSlash
    rw [hslash] at hnoSlash
    split at h
    · rename_i hcontains
      unfold IPRange.withRangeString at h
      split at h
      · rename_i startIP m hparts
        exact ⟨.interval startIP m, hnoSlash, hplus.mp hcontains,
          parted_of_addressAndNumber hparts⟩
      · cases h
    · rename_i hnoPlus
      rw [hplus] at hnoPlus
      split at h
      · rename_i address haddress
        exact ⟨.single address, hnoSlash, hnoPlus, haddress⟩
      · cases h

/-- The ends that the mask gives are those of the network; the mask of an IPv6 network
leaves one address or all of them. -/
theorem mask_iff {address startIP endIP other : IPAddress} {m : Nat}
    (h : (address.family.mask m).mask address = some (startIP, endIP))
    (hmask : ¬ (WrittenRange.network address m).MaskedIPv6)
    (hfamily : other.family = address.family) :
    startIP.family = address.family ∧
      (startIP.number ≤ other.number ∧ other.number ≤ endIP.number ↔
        other.number >>> (address.family.width - m) =
          address.number >>> (address.family.width - m)) := by
  have hwhole : ∀ n : Nat, n >>> 0 = n := fun _ => rfl
  cases address with
  | IPv4 addr =>
      cases other with
      | IPv6 other => cases hfamily
      | IPv4 other =>
          simp only [IPAddress.family, Family.mask, IPMask.mask] at h
          split at h
          · cases h
          · split at h
            · rename_i hall
              cases h
              refine ⟨rfl, ?_⟩
              simp only [IPAddress.number, IPAddress.family, Family.width, hall, Nat.sub_self,
                hwhole]
              omega
            · split at h
              · rename_i hnone
                cases h
                refine ⟨rfl, ?_⟩
                have hother := other.isLt
                have haddr := addr.isLt
                simp only [IPAddress.number, IPAddress.family, Family.width, hnone, Nat.sub_zero,
                  Nat.shiftRight_eq_div_pow, Nat.div_eq_of_lt hother, Nat.div_eq_of_lt haddr,
                  BitVec.toNat_allOnes, iff_true]
                exact ⟨Nat.zero_le _, by omega⟩
              · cases h
                exact ⟨rfl, networkEnds_iff (by omega) addr other⟩
  | IPv6 addr =>
      cases other with
      | IPv4 other => cases hfamily
      | IPv6 other =>
          simp only [IPAddress.family, Family.mask, IPMask.mask] at h
          split at h
          · cases h
          · split at h
            · rename_i hall
              cases h
              refine ⟨rfl, ?_⟩
              simp only [IPAddress.number, IPAddress.family, Family.width, hall, Nat.sub_self,
                hwhole]
              omega
            · split at h
              · rename_i hnone
                cases h
                refine ⟨rfl, ?_⟩
                have hother := other.isLt
                have haddr := addr.isLt
                simp only [IPAddress.number, IPAddress.family, Family.width, hnone, Nat.sub_zero,
                  Nat.shiftRight_eq_div_pow, Nat.div_eq_of_lt hother, Nat.div_eq_of_lt haddr,
                  BitVec.toNat_allOnes, iff_true]
                exact ⟨Nat.zero_le _, by omega⟩
              · rename_i hall hnone
                exact absurd ⟨hnone, hall⟩ hmask

/-- A network that is accepted has the addresses with its first bits; in IPv6 only one
address or all of them. -/
theorem contains_ofMask {address : IPAddress} {m : Nat} {range : IPRange}
    (h : IPRange.ofMask address (address.family.mask m) = .ok range)
    (hmask : ¬ (WrittenRange.network address m).MaskedIPv6) (other : IPAddress) :
    range.contains other = true ↔ (WrittenRange.network address m).Contains other := by
  unfold IPRange.ofMask at h
  split at h
  · rename_i startIP endIP hends
    obtain ⟨hstart, hend⟩ := IPRange.of_ofEnds h
    have hstartFamily := (mask_iff hends hmask rfl).1
    rw [IPRange.contains_iff, hstart, hend, hstartFamily]
    constructor
    · rintro ⟨hfamily, hinside⟩
      exact ⟨hfamily, (mask_iff hends hmask hfamily).2.mp hinside⟩
    · rintro ⟨hfamily, hbits⟩
      exact ⟨hfamily, (mask_iff hends hmask hfamily).2.mpr hbits⟩
  · cases h

/-- The address behind an interval; a range that is accepted has not wrapped around. -/
theorem contains_ofInterval {first : IPAddress} {others : Nat} {range : IPRange}
    (hsmall : others < first.family.size)
    (h : IPRange.ofInterval first (first.family.interval others) = .ok range)
    (other : IPAddress) :
    range.contains other = true ↔ (WrittenRange.interval first others).Contains other := by
  have hadvanced : first.advancedBy (first.family.interval others) =
      some (first.advanced others) := by
    cases first <;> rfl
  simp only [IPRange.ofInterval, hadvanced] at h
  obtain ⟨hstart, hend⟩ := IPRange.of_ofEnds h
  have hordered := range.start_le_end
  have hlt := first.number_lt
  rw [hstart, hend, IPAddress.number_advanced] at hordered
  have hnumber : (first.number + others) % first.family.size = first.number + others := by
    rcases Nat.lt_or_ge (first.number + others) first.family.size with hfits | hwraps
    · exact Nat.mod_eq_of_lt hfits
    · rw [Nat.mod_eq_sub_mod hwraps, Nat.mod_eq_of_lt (by omega)] at hordered
      omega
  rw [IPRange.contains_iff, hstart, hend, IPAddress.number_advanced, hnumber]
  exact Iff.rfl

/-- A number that was read fits its family. -/
theorem number_lt {family : Family} {source : List Char} {n : Nat}
    (h : family.number source = some n) : n < family.size := by
  have hfits : ∀ {size radix : Nat} {digits : List Char}, 0 < size →
      unsignedOfString size radix digits = some n → n < size := by
    intro size radix digits hsize hread
    unfold unsignedOfString at hread
    split at hread
    · have hzero := (Option.filter_eq_some_iff.mp hread).2
      simp only [decide_eq_true_eq] at hzero
      omega
    · exact of_decide_eq_true (Option.filter_eq_some_iff.mp hread).2
    · exact of_decide_eq_true (Option.filter_eq_some_iff.mp hread).2
  cases family with
  | IPv4 => exact hfits (by decide) h
  | IPv6 =>
      simp only [Family.number, uint128OfString] at h
      split at h
      · exact hfits (by decide) h
      · exact hfits (by decide) h
      · exact hfits (by decide) h
      · exact hfits (by decide) h

/-- **The ranges that were read.**  An accepted range contains the addresses that its
text says, unless that is an IPv6 network. -/
theorem contains_written {range : IPRange} {written : WrittenRange}
    (hreads : written.Reads ip rep) (haccepted : IPRange.withString ip rep = .ok range)
    (hmask : ¬ written.MaskedIPv6) (other : IPAddress) :
    range.contains other = true ↔ written.Contains other := by
  have hslash := contains_separator rep "/" (by decide)
  have hplus := contains_separator rep "+" (by decide)
  cases written with
  | single address =>
      obtain ⟨hnoSlash, hnoPlus, haddress⟩ := hreads
      simp only [IPRange.withString, hslash, hplus, if_neg hnoSlash, if_neg hnoPlus,
        haddress] at haccepted
      obtain ⟨hstart, hend⟩ := IPRange.of_ofEnds haccepted
      rw [IPRange.contains_iff, hstart, hend]
      constructor
      · rintro ⟨hfamily, hlow, hhigh⟩
        exact IPAddress.eq_of_number hfamily (Nat.le_antisymm hhigh hlow)
      · rintro rfl
        exact ⟨rfl, Nat.le_refl _, Nat.le_refl _⟩
  | network address length =>
      obtain ⟨hoccurs, hparted⟩ := hreads
      simp only [IPRange.withString, hslash, if_pos hoccurs, IPRange.withCIDRString,
        addressAndNumber_of_parted hparted] at haccepted
      exact contains_ofMask haccepted hmask other
  | interval first others =>
      obtain ⟨hnoSlash, hoccurs, hparted⟩ := hreads
      simp only [IPRange.withString, hslash, hplus, if_neg hnoSlash, if_pos hoccurs,
        IPRange.withRangeString, addressAndNumber_of_parted hparted] at haccepted
      obtain ⟨front, back, -, -, -, -, hnumber⟩ := hparted
      exact contains_ofInterval (number_lt hnumber) haccepted other

end Written

/-- **An IPv6 network is somewhere else.**  The range of `2001:db8::/32` does not contain
`2001:db8::1`, as its bytes are swapped before the mask is laid over them. -/
theorem IPRange.network_of_IPv6 :
    ∃ range, IPRange.ofMask (.IPv6 0x20010db8000000000000000000000000#128) (.IPv6 32) =
        .ok range ∧
      range.contains (.IPv6 0x20010db8000000000000000000000001#128) = false :=
  ⟨_, rfl, by decide⟩

end QLadder
