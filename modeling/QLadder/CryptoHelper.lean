import QLadder.StreamCrypto

/-!
# Keys

`CryptoHelper.getKey` makes the key of a cipher from a password.  Its loop
copies digests into a buffer for the key and an initialization vector, each
digest taken of the one before it and the password, and cuts the key off the
front of the buffer.

* `getKey_eq` — the key is the front of the stream of all these digests;
* `length_getKey` — and it has the length that the method wants.
-/

namespace QLadder

namespace CryptoHelper

/-- `infoDictionary`: the lengths of the key and of the initialization vector. -/
def infoDictionary : CryptoAlgorithm → Nat × Nat
  | .AES128CFB => (16, 16)
  | .AES192CFB => (24, 16)
  | .AES256CFB => (32, 16)
  | .CHACHA20 => (32, 8)
  | .SALSA20 => (32, 8)
  | .RC4MD5 => (16, 16)

def getKeyLength (methodType : CryptoAlgorithm) : Nat :=
  (infoDictionary methodType).1

def getIVLength (methodType : CryptoAlgorithm) : Nat :=
  (infoDictionary methodType).2

variable (lib : CryptoLibraries)

/-- The `repeat` loop of `getKey`.  Every round copies a byte at least, so that
`rounds` is not reached if it is the length of `result`. -/
def getKeyRounds (result extendPasswordData : Data) (md5result : Vector UInt8 16)
    (length : Nat) : (rounds : Nat) → Data
  | 0 => result
  | rounds + 1 =>
      let copyLength := min (result.length - length) md5result.toList.length
      let result := result.replaceSubrange length (length + copyLength)
        (md5result.toList.take copyLength)
      let extendPasswordData := extendPasswordData.replaceSubrange 0
        md5result.toList.length md5result.toList
      let md5result := lib.md5 extendPasswordData
      let length := length + copyLength
      if length < result.length then
        getKeyRounds result extendPasswordData md5result length rounds
      else
        result

/-- `getKey`, for the UTF-8 bytes of the password. -/
def getKey (passwordData : Data) (methodType : CryptoAlgorithm) : Data :=
  let result := Data.zeros (getIVLength methodType + getKeyLength methodType)
  let md5result := lib.md5 passwordData
  let extendPasswordData :=
    (Data.zeros (passwordData.length + md5result.toList.length)).replaceSubrange
      md5result.toList.length (passwordData.length + md5result.toList.length) passwordData
  let result := getKeyRounds lib result extendPasswordData md5result 0 result.length
  result.take (getKeyLength methodType)

/-- The digests: the first one of the password, each other one of the digest
before it and the password. -/
def digest (passwordData : Data) : Nat → Vector UInt8 16
  | 0 => lib.md5 passwordData
  | n + 1 => lib.md5 ((digest passwordData n).toList ++ passwordData)

/-- The digests, one behind the other. -/
def digests (passwordData : Data) (n : Nat) : Data :=
  (List.range n).flatMap fun k => (digest lib passwordData k).toList

theorem digests_succ (passwordData : Data) (n : Nat) :
    digests lib passwordData (n + 1) =
      digests lib passwordData n ++ (digest lib passwordData n).toList := by
  simp [digests, List.range_succ]

@[simp]
theorem length_digests (passwordData : Data) (n : Nat) :
    (digests lib passwordData n).length = 16 * n := by
  induction n with
  | zero => rfl
  | succ n ih =>
      rw [digests_succ, List.length_append, ih, Vector.length_toList]
      omega

/-- More digests only add at the end. -/
theorem take_digests (passwordData : Data) {n m count : Nat} (hn : count ≤ 16 * n)
    (hnm : n ≤ m) :
    (digests lib passwordData m).take count = (digests lib passwordData n).take count := by
  induction hnm with
  | refl => rfl
  | @step m hle ih =>
      have hle' : n ≤ m := hle
      have hroom : count ≤ (digests lib passwordData m).length := by
        rw [length_digests]
        omega
      rw [digests_succ, List.take_append_of_le_length hroom, ih]

/-- A round with room for more than a digest copies the next one. -/
theorem copy_whole (passwordData rest : Data) (k : Nat) :
    (digests lib passwordData k ++ rest).replaceSubrange (16 * k) (16 * k + 16)
        (digest lib passwordData k).toList =
      digests lib passwordData (k + 1) ++ rest.drop 16 := by
  have hlength := length_digests lib passwordData k
  rw [Data.replaceSubrange, List.take_left' hlength, ← List.drop_drop,
    List.drop_left' hlength, digests_succ]

/-- The last round copies as much of it as there is room for. -/
theorem copy_part (passwordData rest : Data) (k : Nat) :
    (digests lib passwordData k ++ rest).replaceSubrange (16 * k)
        (16 * k + rest.length) ((digest lib passwordData k).toList.take rest.length) =
      (digests lib passwordData (k + 1)).take (16 * k + rest.length) := by
  have hlength := length_digests lib passwordData k
  have htake : (digests lib passwordData (k + 1)).take (16 * k + rest.length) =
      digests lib passwordData k ++
        (digest lib passwordData k).toList.take rest.length := by
    rw [digests_succ, ← hlength, List.take_length_add_append]
  have hdrop : (digests lib passwordData k ++ rest).drop (16 * k + rest.length) = [] := by
    rw [← List.drop_drop, List.drop_left' hlength, List.drop_length]
  calc (digests lib passwordData k ++ rest).replaceSubrange (16 * k)
        (16 * k + rest.length) ((digest lib passwordData k).toList.take rest.length)
    _ = digests lib passwordData k ++ (digest lib passwordData k).toList.take rest.length ++
        [] := by
      rw [Data.replaceSubrange, List.take_left' hlength, hdrop]
    _ = digests lib passwordData k ++ (digest lib passwordData k).toList.take rest.length :=
      List.append_nil _
    _ = (digests lib passwordData (k + 1)).take (16 * k + rest.length) := htake.symm

/-- **The loop.**  With `k` digests copied and room left, the rounds fill the
buffer with digests. -/
theorem getKeyRounds_eq (passwordData old rest : Data) (k rounds : Nat)
    (hold : old.length = 16) (hroom : 0 < rest.length) (hrounds : rest.length ≤ rounds) :
    getKeyRounds lib (digests lib passwordData k ++ rest) (old ++ passwordData)
        (digest lib passwordData k) (16 * k) rounds =
      (digests lib passwordData (k + rest.length)).take (16 * k + rest.length) := by
  induction rounds generalizing k old rest with
  | zero => omega
  | succ rounds ih =>
      have hleft : (digests lib passwordData k ++ rest).length - 16 * k = rest.length := by
        rw [List.length_append, length_digests]
        omega
      have hextend : (old ++ passwordData).replaceSubrange 0 16
          (digest lib passwordData k).toList =
            (digest lib passwordData k).toList ++ passwordData := by
        rw [Data.replaceSubrange, List.drop_left' hold]
        rfl
      have hmd5 : lib.md5 ((digest lib passwordData k).toList ++ passwordData) =
          digest lib passwordData (k + 1) := rfl
      simp only [getKeyRounds, Vector.length_toList, hleft, hextend, hmd5]
      rcases Nat.lt_or_ge 16 rest.length with hmore | hlast
      · have hcopy : (digest lib passwordData k).toList.take 16 =
            (digest lib passwordData k).toList :=
          List.take_of_length_le (by simp)
        have hnext : 16 * k + 16 < (digests lib passwordData (k + 1) ++ rest.drop 16).length := by
          rw [List.length_append, length_digests, List.length_drop]
          omega
        have hround := ih (digest lib passwordData k).toList (rest.drop 16) (k + 1)
          (by simp) (by rw [List.length_drop]; omega) (by rw [List.length_drop]; omega)
        rw [Nat.min_eq_right (by omega), hcopy, copy_whole lib passwordData rest k,
          if_pos hnext]
        rw [show 16 * k + 16 = 16 * (k + 1) by omega, hround, List.length_drop]
        have hcount : 16 * (k + 1) + (rest.length - 16) = 16 * k + rest.length := by omega
        rw [hcount]
        exact (take_digests lib passwordData (by omega) (by omega)).symm
      · rw [Nat.min_eq_left hlast, copy_part lib passwordData rest k]
        have hdone : ¬ 16 * k + rest.length <
            ((digests lib passwordData (k + 1)).take (16 * k + rest.length)).length := by
          rw [List.length_take]
          omega
        rw [if_neg hdone]
        exact (take_digests lib passwordData (by omega) (by omega)).symm

/-- The buffer is filled with digests. -/
theorem getKey_eq_digests (passwordData : Data) (methodType : CryptoAlgorithm) :
    getKey lib passwordData methodType =
      (digests lib passwordData 2).take (getKeyLength methodType) := by
  have hpositive : 0 < getIVLength methodType + getKeyLength methodType := by
    cases methodType <;> decide
  have hkey : getKeyLength methodType ≤ 16 * 2 := by
    cases methodType <;> decide
  have hloop := getKeyRounds_eq lib passwordData (Data.zeros 16)
    (Data.zeros (getIVLength methodType + getKeyLength methodType)) 0
    (getIVLength methodType + getKeyLength methodType) (by simp [Data.zeros])
    (by simpa [Data.zeros] using hpositive) (by simp [Data.zeros])
  have hextend : (Data.zeros (passwordData.length + 16)).replaceSubrange 16
      (passwordData.length + 16) passwordData = Data.zeros 16 ++ passwordData := by
    simp [Data.replaceSubrange, Data.zeros]
  have hcount : (Data.zeros (getIVLength methodType + getKeyLength methodType)).length =
      getIVLength methodType + getKeyLength methodType := by
    simp [Data.zeros]
  rw [hcount] at hloop
  simp only [getKey, Vector.length_toList, hextend, hcount]
  have hstart : digests lib passwordData 0 ++
      Data.zeros (getIVLength methodType + getKeyLength methodType) =
        Data.zeros (getIVLength methodType + getKeyLength methodType) := rfl
  rw [hstart] at hloop
  rw [show lib.md5 passwordData = digest lib passwordData 0 from rfl, ← Nat.mul_zero 16,
    hloop, List.take_take, Nat.min_eq_left (by omega)]
  rcases Nat.le_total 2 (0 + (getIVLength methodType + getKeyLength methodType)) with h | h
  · exact take_digests lib passwordData hkey h
  · exact (take_digests lib passwordData (by omega) h).symm

/-- **The key** is cut off the front of the digest of the password, followed by
the digest of this digest and the password, and is as long as the method wants
it. -/
theorem getKey_eq (passwordData : Data) (methodType : CryptoAlgorithm) :
    getKey lib passwordData methodType =
        ((lib.md5 passwordData).toList ++
          (lib.md5 ((lib.md5 passwordData).toList ++ passwordData)).toList).take
            (getKeyLength methodType) ∧
      (getKey lib passwordData methodType).length = getKeyLength methodType := by
  have hdigests : digests lib passwordData 2 = (lib.md5 passwordData).toList ++
      (lib.md5 ((lib.md5 passwordData).toList ++ passwordData)).toList := by
    rw [digests_succ, digests_succ]
    rfl
  rw [getKey_eq_digests, List.length_take, length_digests]
  refine ⟨by rw [hdigests], Nat.min_eq_left ?_⟩
  cases methodType <;> decide

end CryptoHelper

end QLadder
