/-!
# The parts of the Swift standard library the app relies on

`Int(_ text: String)` accepts an optional sign and one or more ASCII digits
whose value fits a 64-bit `Int`, and answers `nil` for everything else:
white space, other digits, a lone sign, an overflow.  (The app's 64-bit devices; on
a 32-bit one `Int` is smaller.)  A dictionary is its
list of entries, and `dict[key] = value` with an optional `value` replaces
the entry or removes it.
-/

namespace Swift

/-- The value of an ASCII digit. -/
def digitValue (c : Char) : Option Nat :=
  if '0' ≤ c ∧ c ≤ '9' then some (c.toNat - '0'.toNat) else none

/-- Read digits from the left; any other character makes the text invalid. -/
def readDigits : Nat → List Char → Option Nat
  | acc, [] => some acc
  | acc, c :: cs => (digitValue c).bind fun d => readDigits (10 * acc + d) cs

/-- A magnitude needs at least one digit. -/
def magnitude : List Char → Option Nat
  | [] => none
  | c :: cs => readDigits 0 (c :: cs)

/-- The values of `Int` where it has 64 bits; on armv7 it has 32. -/
def int64 (i : Int) : Option Int :=
  if -9223372036854775808 ≤ i ∧ i ≤ 9223372036854775807 then some i else none

/-- `Int(text)`. -/
def intOfString (text : String) : Option Int :=
  match text.toList with
  | '-' :: cs => (magnitude cs).bind fun n => int64 (-n)
  | '+' :: cs => (magnitude cs).bind fun n => int64 n
  | cs => (magnitude cs).bind fun n => int64 n

/-- The value of a digit in a radix of at most 36. -/
def digitValueIn (radix : Nat) (c : Char) : Option Nat :=
  let value :=
    if '0' ≤ c ∧ c ≤ '9' then some (c.toNat - '0'.toNat)
    else if 'a' ≤ c ∧ c ≤ 'z' then some (c.toNat - 'a'.toNat + 10)
    else if 'A' ≤ c ∧ c ≤ 'Z' then some (c.toNat - 'A'.toNat + 10)
    else none
  value.filter fun digit => digit < radix

/-- Read digits of a radix from the left. -/
def readDigitsIn (radix : Nat) : Nat → List Char → Option Nat
  | acc, [] => some acc
  | acc, c :: cs => (digitValueIn radix c).bind fun d => readDigitsIn radix (radix * acc + d) cs

/-- `T(text, radix: radix)` for an unsigned type `T` with `size` values; a minus sign
is fine in front of zero. -/
def unsignedOfString (size radix : Nat) (text : List Char) : Option Nat :=
  let digits : List Char → Option Nat := fun
    | [] => none
    | c :: cs => readDigitsIn radix 0 (c :: cs)
  match text with
  | '-' :: cs => (digits cs).filter fun n => n = 0
  | '+' :: cs => (digits cs).filter fun n => n < size
  | cs => (digits cs).filter fun n => n < size

/-- `[Key: Value]`. -/
abbrev Dict (κ α : Type) := List (κ × α)

namespace Dict

variable {κ α : Type} [DecidableEq κ]

/-- `dict[key]`. -/
def get (dict : Dict κ α) (key : κ) : Option α :=
  List.lookup key dict

/-- `dict[key] = value`. -/
def set (dict : Dict κ α) (key : κ) (value : Option α) : Dict κ α :=
  let others := dict.filter fun entry => entry.1 ≠ key
  match value with
  | none => others
  | some v => (key, v) :: others

private theorem lookup_filter_ne {key other : κ} (dict : Dict κ α)
    (h : key ≠ other) :
    List.lookup key (dict.filter fun entry => entry.1 ≠ other) =
      List.lookup key dict := by
  induction dict with
  | nil => rfl
  | cons entry rest ih =>
      by_cases hother : entry.1 = other
      · have hkey : (key == entry.1) = false := by
          simpa [hother] using h
        rw [List.filter_cons_of_neg (by simp [hother]), ih]
        rw [List.lookup_cons, hkey]
      · rw [List.filter_cons_of_pos (by simp [hother]), List.lookup_cons, ih,
          List.lookup_cons]

/-- Reading the key just written. -/
@[simp] theorem get_set_self (dict : Dict κ α) (key : κ) (v : α) :
    (dict.set key (some v)).get key = some v := by
  simp [get, set]

/-- Writing one key leaves the others alone. -/
@[simp] theorem get_set_of_ne {key other : κ} (dict : Dict κ α)
    (value : Option α) (h : key ≠ other) :
    (dict.set other value).get key = dict.get key := by
  have hkey : (key == other) = false := by simpa using h
  cases value with
  | none => exact lookup_filter_ne dict h
  | some v =>
      simp only [get, set, List.lookup_cons, hkey]
      exact lookup_filter_ne dict h

/-- Reading a key that was removed. -/
@[simp] theorem get_set_none (dict : Dict κ α) (key : κ) :
    (dict.set key none).get key = none := by
  rw [get, List.lookup_eq_none_iff]
  intro entry hentry
  have hne := of_decide_eq_true (List.mem_filter.mp hentry).2
  exact bne_iff_ne.mpr (Ne.symm hne)

/-- The keys of the entries. -/
def keys (dict : Dict κ α) : List κ :=
  dict.map Prod.fst

theorem mem_keys_of_get {dict : Dict κ α} {key : κ} {v : α} (h : dict.get key = some v) :
    key ∈ dict.keys := by
  rw [get, List.lookup_eq_some_iff] at h
  obtain ⟨before, after, hsplit, -⟩ := h
  rw [keys, hsplit, List.map_append]
  exact List.mem_append_right _ List.mem_cons_self

/-- A new key comes in front. -/
theorem keys_set_some {dict : Dict κ α} {key : κ} (h : key ∉ dict.keys) (v : α) :
    (dict.set key (some v)).keys = key :: dict.keys := by
  have hothers : dict.filter (fun entry => decide (entry.1 ≠ key)) = dict := by
    rw [List.filter_eq_self]
    intro entry hentry
    have hne : entry.1 ≠ key := fun heq => h (heq ▸ List.mem_map_of_mem hentry)
    exact decide_eq_true hne
  simp only [set, keys, List.map_cons, hothers]

/-- A key that is removed was there once. -/
theorem keys_set_none {dict : Dict κ α} (hnodup : dict.keys.Nodup) (key : κ) :
    (dict.set key none).keys = dict.keys.erase key := by
  rw [hnodup.erase_eq_filter]
  simp only [set, keys, List.filter_map]
  congr 1
  apply List.filter_congr
  intro entry _
  rw [Bool.eq_iff_iff]
  simp

end Dict

end Swift
