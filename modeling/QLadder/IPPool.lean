import QLadder.FreeList
import QLadder.NEKitRules

/-!
# The pool of fake addresses

An `IPPool` hands out the addresses of a range, one after the other, and those
that were released before the others.  It is a free list over the places of
the range (`Represents`), unless the range is the whole address space: there
the address behind the last one is the first one again.
-/

namespace QLadder

namespace Family

/-- How many addresses a family has. -/
def size : Family → Nat
  | .IPv4 => 4294967296
  | .IPv6 => 340282366920938463463374607431768211456

end Family

namespace IPAddress

/-- The address as a number. -/
def number : IPAddress → Nat
  | .IPv4 address => address.toNat
  | .IPv6 address => address.toNat

/-- `advanced(by:)`, which wraps around. -/
def advanced (interval : Nat) : IPAddress → IPAddress
  | .IPv4 address => .IPv4 (address + BitVec.ofNat 32 interval)
  | .IPv6 address => .IPv6 (address + BitVec.ofNat 128 interval)

theorem number_lt (address : IPAddress) : address.number < address.family.size := by
  cases address with
  | IPv4 address => exact address.isLt
  | IPv6 address => exact address.isLt

@[simp]
theorem family_advanced (address : IPAddress) (interval : Nat) :
    (address.advanced interval).family = address.family := by
  cases address <;> rfl

theorem number_advanced (address : IPAddress) (interval : Nat) :
    (address.advanced interval).number =
      (address.number + interval) % address.family.size := by
  cases address with
  | IPv4 address => simp [advanced, number, family, Family.size, BitVec.toNat_add]
  | IPv6 address => simp [advanced, number, family, Family.size, BitVec.toNat_add]

theorem eq_of_number {a b : IPAddress} (hfamily : a.family = b.family)
    (hnumber : a.number = b.number) : a = b := by
  cases a <;> cases b <;> simp_all [family, number, BitVec.toNat_inj]

theorem less_iff {a b : IPAddress} (hfamily : a.family = b.family) :
    a.less b = true ↔ a.number < b.number := by
  cases a <;> cases b <;> simp_all [family, number, less, BitVec.lt_def]

end IPAddress

namespace IPRange

/-- A range contains the addresses between its ends. -/
theorem contains_iff (range : IPRange) (ip : IPAddress) :
    range.contains ip = true ↔ ip.family = range.startIP.family ∧
      range.startIP.number ≤ ip.number ∧ ip.number ≤ range.endIP.number := by
  by_cases hfamily : ip.family = range.startIP.family
  · have hend : range.endIP.family = ip.family :=
      range.compatible.symm.trans hfamily.symm
    have hlow := IPAddress.less_iff hfamily
    have hhigh := IPAddress.less_iff hend
    rw [contains, if_pos hfamily, Bool.and_eq_true, Bool.not_eq_true', Bool.not_eq_true',
      ← Bool.not_eq_true, ← Bool.not_eq_true, hlow, hhigh]
    constructor
    · intro hinside
      exact ⟨hfamily, by omega, by omega⟩
    · intro hinside
      obtain ⟨-, hlow', hhigh'⟩ := hinside
      exact ⟨by omega, by omega⟩
  · simp [contains, hfamily]

theorem start_le_end (range : IPRange) : range.startIP.number ≤ range.endIP.number := by
  have hordered := range.ordered
  rw [← Bool.not_eq_true, IPAddress.less_iff range.compatible.symm] at hordered
  omega

/-- How many addresses the range has. -/
def count (range : IPRange) : Nat :=
  range.endIP.number - range.startIP.number + 1

/-- The address at a place of the range. -/
def address (range : IPRange) (i : Nat) : IPAddress :=
  range.startIP.advanced i

/-- The range is not the whole address space. -/
def Proper (range : IPRange) : Prop :=
  range.count < range.startIP.family.size

variable {range : IPRange}

theorem endIP_lt (range : IPRange) : range.endIP.number < range.startIP.family.size := by
  have hlt := range.endIP.number_lt
  rw [← range.compatible] at hlt
  exact hlt

/-- Up to its end a range does not wrap around. -/
theorem number_address {i : Nat} (hi : i < range.count) :
    (range.address i).number = range.startIP.number + i := by
  have hend := range.endIP_lt
  have hle := range.start_le_end
  rw [count] at hi
  rw [address, IPAddress.number_advanced, Nat.mod_eq_of_lt]
  omega

/-- **Places.**  A range contains its addresses, and the one behind the last is not
one of them. -/
theorem contains_address (hproper : range.Proper) {i : Nat} (hi : i ≤ range.count) :
    range.contains (range.address i) = true ↔ i < range.count := by
  have hle := range.start_le_end
  have hend := range.endIP_lt
  have hfamily : (range.address i).family = range.startIP.family :=
    IPAddress.family_advanced _ i
  rw [contains_iff]
  constructor
  · intro hinside
    obtain ⟨-, hlow, hhigh⟩ := hinside
    rcases Nat.lt_or_ge i range.count with hlt | hge
    · exact hlt
    · have hi' : i = range.count := Nat.le_antisymm hi hge
      rw [address, IPAddress.number_advanced] at hlow hhigh
      rw [Proper, count] at hproper
      rw [count] at hi'
      have hsum : range.startIP.number + i = range.endIP.number + 1 := by omega
      rw [hsum] at hlow hhigh
      rcases Nat.lt_or_ge (range.endIP.number + 1) range.startIP.family.size with hlast | hlast
      · rw [Nat.mod_eq_of_lt hlast] at hhigh
        omega
      · have hsize : range.endIP.number + 1 = range.startIP.family.size := by omega
        rw [hsize, Nat.mod_self] at hlow
        omega
  · intro hlt
    have hnumber := number_address hlt
    rw [count] at hlt
    exact ⟨hfamily, by omega, by omega⟩

/-- Every address of the range has a place. -/
theorem exists_address {ip : IPAddress} (h : range.contains ip = true) :
    ∃ i, i < range.count ∧ range.address i = ip := by
  obtain ⟨hfamily, hlow, hhigh⟩ := (contains_iff range ip).mp h
  have hplace : ip.number - range.startIP.number < range.count := by
    rw [count]
    omega
  refine ⟨ip.number - range.startIP.number, hplace, ?_⟩
  apply IPAddress.eq_of_number
  · rw [address, IPAddress.family_advanced, hfamily]
  · rw [number_address hplace]
    omega

theorem address_injective {i j : Nat} (hi : i < range.count) (hj : j < range.count)
    (h : range.address i = range.address j) : i = j := by
  have hnumber := congrArg IPAddress.number h
  rw [number_address hi, number_address hj] at hnumber
  omega

end IPRange

/-! ## The pool -/

structure IPPool where
  range : IPRange
  currentEnd : IPAddress
  pool : List IPAddress
  deriving DecidableEq, Repr

namespace IPPool

/-- `IPPool.init(range:)`. -/
def init (range : IPRange) : IPPool :=
  { range := range, currentEnd := range.startIP, pool := [] }

/-- `family`. -/
def family (pool : IPPool) : Family :=
  pool.range.startIP.family

def fetchIP (pool : IPPool) : Option IPAddress × IPPool :=
  match pool.pool.getLast? with
  | none =>
      if pool.range.contains pool.currentEnd then
        (some pool.currentEnd, { pool with currentEnd := pool.currentEnd.advanced 1 })
      else
        (none, pool)
  | some ip => (some ip, { pool with pool := pool.pool.dropLast })

def release (pool : IPPool) (ip : IPAddress) : IPPool :=
  if ip.family = pool.family then { pool with pool := pool.pool ++ [ip] } else pool

def contains (pool : IPPool) (ip : IPAddress) : Bool :=
  pool.range.contains ip

/-- The pool as a free list over the places of its range. -/
structure Represents (pool : IPPool) (list : FreeList) : Prop where
  size : list.size = pool.range.count
  currentEnd : pool.currentEnd = pool.range.address list.fresh
  pool : pool.pool = list.free.map pool.range.address

/-- These addresses are out, each of them once. -/
def Lent (pool : IPPool) (leased : List IPAddress) : Prop :=
  ∃ list lent, pool.Represents list ∧ list.Lent lent ∧
    leased.Perm (lent.map pool.range.address)

theorem advanced_succ (address : IPAddress) (i : Nat) :
    (address.advanced i).advanced 1 = address.advanced (i + 1) := by
  cases address with
  | IPv4 address => simp [IPAddress.advanced, BitVec.ofNat_add, BitVec.add_assoc]
  | IPv6 address => simp [IPAddress.advanced, BitVec.ofNat_add, BitVec.add_assoc]

/-- Nothing is out of a new pool. -/
theorem lent_init (range : IPRange) : (init range).Lent [] := by
  refine ⟨FreeList.new range.count, [], ⟨rfl, ?_, rfl⟩, FreeList.lent_new range.count,
    List.Perm.refl []⟩
  show range.startIP = range.startIP.advanced 0
  cases range.startIP <;> simp [IPAddress.advanced]

/-- `fetchIP` lends what the free list lends. -/
theorem Represents.fetchIP {pool : IPPool} {list : FreeList} (h : pool.Represents list)
    (hproper : pool.range.Proper) (hfresh : list.fresh ≤ list.size) :
    pool.fetchIP.1 = list.take.1.map pool.range.address ∧
      pool.fetchIP.2.Represents list.take.2 := by
  cases hlast : list.free.getLast? with
  | some last =>
      have hpool : pool.pool.getLast? = some (pool.range.address last) := by
        rw [h.pool, List.getLast?_map, hlast]
        rfl
      have hdrop : pool.pool.dropLast = list.free.dropLast.map pool.range.address := by
        rw [h.pool, List.map_dropLast]
      simp only [IPPool.fetchIP, FreeList.take, hpool, hlast]
      exact ⟨rfl, h.size, h.currentEnd, hdrop⟩
  | none =>
      have hpool : pool.pool.getLast? = none := by
        rw [h.pool, List.getLast?_map, hlast]
        rfl
      have hinside : pool.range.contains pool.currentEnd = true ↔ list.fresh < list.size := by
        rw [h.currentEnd, h.size]
        exact IPRange.contains_address hproper (by rw [← h.size]; exact hfresh)
      by_cases hroom : list.fresh < list.size
      · have hnext : pool.currentEnd.advanced 1 = pool.range.address (list.fresh + 1) := by
          rw [h.currentEnd]
          exact advanced_succ _ _
        simp only [IPPool.fetchIP, FreeList.take, hpool, hlast, if_pos hroom,
          if_pos (hinside.mpr hroom)]
        exact ⟨congrArg some h.currentEnd, h.size, hnext, h.pool⟩
      · have houtside : ¬ pool.range.contains pool.currentEnd = true :=
          fun hin => hroom (hinside.mp hin)
        simp only [IPPool.fetchIP, FreeList.take, hpool, hlast, if_neg hroom, if_neg houtside]
        exact ⟨rfl, h⟩

/-- Places are out once, so addresses are. -/
theorem Represents.nodup {pool : IPPool} {list : FreeList} {lent : List Nat}
    (h : pool.Represents list) (hlent : list.Lent lent) :
    (lent.map pool.range.address).Nodup := by
  have hnodup := (List.nodup_append.mp hlent.nodup).2.1
  apply List.pairwise_map.mpr
  apply List.Pairwise.imp_of_mem _ hnodup
  intro i j hi hj hne heq
  have hi' := hlent.lt_size hi
  have hj' := hlent.lt_size hj
  rw [h.size] at hi' hj'
  exact hne (IPRange.address_injective hi' hj' heq)

theorem Lent.nodup {pool : IPPool} {leased : List IPAddress} (h : pool.Lent leased) :
    leased.Nodup := by
  obtain ⟨list, lent, hrepresents, hlent, hperm⟩ := h
  exact hperm.nodup_iff.mpr (hrepresents.nodup hlent)

/-- Only addresses of the range are out. -/
theorem Lent.contains {pool : IPPool} {leased : List IPAddress} {ip : IPAddress}
    (h : pool.Lent leased) (hproper : pool.range.Proper) (hip : ip ∈ leased) :
    pool.contains ip = true := by
  obtain ⟨list, lent, hrepresents, hlent, hperm⟩ := h
  obtain ⟨i, hi, rfl⟩ := List.mem_map.mp (hperm.mem_iff.mp hip)
  have hsize := hlent.lt_size hi
  rw [hrepresents.size] at hsize
  exact (IPRange.contains_address hproper (Nat.le_of_lt hsize)).mpr hsize

/-- The range stays. -/
@[simp]
theorem range_fetchIP (pool : IPPool) : pool.fetchIP.2.range = pool.range := by
  simp only [fetchIP]
  split
  · split <;> rfl
  · rfl

@[simp]
theorem range_release (pool : IPPool) (ip : IPAddress) :
    (pool.release ip).range = pool.range := by
  simp only [release]
  split <;> rfl

/-- **Fetching.**  What is fetched was not out, and is now. -/
theorem Lent.fetch {pool : IPPool} {leased : List IPAddress} {ip : IPAddress}
    (h : pool.Lent leased) (hproper : pool.range.Proper) (hfetch : pool.fetchIP.1 = some ip) :
    pool.fetchIP.2.Lent (ip :: leased) ∧ ip ∉ leased := by
  obtain ⟨list, lent, hrepresents, hlent, hperm⟩ := h
  obtain ⟨hvalue, hafter⟩ := hrepresents.fetchIP hproper hlent.fresh_le
  rw [hfetch] at hvalue
  obtain ⟨i, htake, hi⟩ := Option.map_eq_some_iff.mp hvalue.symm
  obtain ⟨hlent', -, -⟩ := hlent.take_some (Prod.ext htake rfl)
  have hout : pool.fetchIP.2.Lent (ip :: leased) := by
    refine ⟨list.take.2, i :: lent, hafter, hlent', ?_⟩
    rw [range_fetchIP, List.map_cons, hi]
    exact List.Perm.cons ip hperm
  exact ⟨hout, (List.nodup_cons.mp hout.nodup).1⟩

/-- **Exhaustion.**  Nothing is fetched if and only if every address of the range is
out. -/
theorem Lent.fetch_none {pool : IPPool} {leased : List IPAddress} (h : pool.Lent leased)
    (hproper : pool.range.Proper) :
    pool.fetchIP.1 = none ↔ ∀ ip, pool.contains ip = true → ip ∈ leased := by
  obtain ⟨list, lent, hrepresents, hlent, hperm⟩ := h
  obtain ⟨hvalue, -⟩ := hrepresents.fetchIP hproper hlent.fresh_le
  have hnodup := (List.nodup_append.mp hlent.nodup).2.1
  rw [hvalue, Option.map_eq_none_iff, hlent.take_none]
  constructor
  · intro hall ip hinside
    obtain ⟨i, hi, rfl⟩ := IPRange.exists_address hinside
    rw [← hrepresents.size] at hi
    apply hperm.mem_iff.mpr
    exact List.mem_map_of_mem (hall.mem_iff.mpr (List.mem_range.mpr hi))
  · intro hall
    apply (List.perm_ext_iff_of_nodup hnodup List.nodup_range).mpr
    intro i
    constructor
    · intro hi
      exact List.mem_range.mpr (hlent.lt_size hi)
    · intro hi
      have hi' : i < pool.range.count := by
        rw [← hrepresents.size]
        exact List.mem_range.mp hi
      have hinside := (IPRange.contains_address hproper (Nat.le_of_lt hi')).mpr hi'
      obtain ⟨j, hj, heq⟩ := List.mem_map.mp (hperm.mem_iff.mp (hall _ hinside))
      have hj' := hlent.lt_size hj
      rw [hrepresents.size] at hj'
      rw [← IPRange.address_injective hj' hi' heq]
      exact hj

/-- **Releasing.** -/
theorem Lent.release {pool : IPPool} {leased : List IPAddress} {ip : IPAddress}
    (h : pool.Lent leased) (hip : ip ∈ leased) :
    (pool.release ip).Lent (leased.erase ip) := by
  obtain ⟨list, lent, hrepresents, hlent, hperm⟩ := h
  obtain ⟨i, hi, rfl⟩ := List.mem_map.mp (hperm.mem_iff.mp hip)
  have hfamily : (pool.range.address i).family = pool.family :=
    IPAddress.family_advanced _ i
  have hrelease : pool.release (pool.range.address i) =
      { pool with pool := pool.pool ++ [pool.range.address i] } := if_pos hfamily
  rw [hrelease]
  refine ⟨list.give i, lent.erase i, ⟨hrepresents.size, hrepresents.currentEnd, ?_⟩,
    hlent.give hi, ?_⟩
  · show pool.pool ++ [pool.range.address i] = (list.free ++ [i]).map pool.range.address
    rw [hrepresents.pool, List.map_append]
    rfl
  · have hcons : (pool.range.address i :: leased.erase (pool.range.address i)).Perm
        (pool.range.address i :: (lent.erase i).map pool.range.address) := by
      have hsplit : (lent.map pool.range.address).Perm
          (pool.range.address i :: (lent.erase i).map pool.range.address) :=
        (List.perm_cons_erase hi).map pool.range.address
      calc (pool.range.address i :: leased.erase (pool.range.address i)).Perm leased :=
          (List.perm_cons_erase hip).symm
        List.Perm _ (lent.map pool.range.address) := hperm
        List.Perm _ (pool.range.address i :: (lent.erase i).map pool.range.address) := hsplit
    exact (List.perm_cons (pool.range.address i)).mp hcons

end IPPool

end QLadder
