import QLadder.ByteStream
import QLadder.ProviderConfiguration

/-!
# Stream ciphers

The ciphers of NEKit's Shadowsocks adapter.  The libraries they call are
parameters (`CryptoLibraries`): libsodium's key streams by blocks, CommonCrypto's
block cipher and key stream, the functions that add data to them, and MD5.

* `SodiumStreamCrypto.update_eq` — libsodium works on whole blocks; the padding
  that `update` puts in front makes it start in the middle of one, so that a
  piece is added to the key stream from `counter` on;
* `SodiumStreamCrypto.feed_update` — so are all pieces one after another;
* `StreamCrypto.update_cut` — no cipher notices where the pieces are cut;
* `StreamCrypto.update_restores` — decryption undoes encryption.
-/

namespace QLadder

open ByteStream

abbrev Data := List UInt8

/-- `replaceSubrange(start..<end, with:)`. -/
def Data.replaceSubrange (data : Data) (start finish : Nat) (bytes : Data) : Data :=
  data.take start ++ bytes ++ data.drop finish

/-- The middle of three parts is replaced. -/
theorem Data.replaceSubrange_middle (front middle back bytes : Data) {start finish : Nat}
    (hstart : start = front.length) (hfinish : finish = front.length + middle.length) :
    Data.replaceSubrange (front ++ middle ++ back) start finish bytes =
      front ++ bytes ++ back := by
  subst hstart hfinish
  have hback : (front ++ middle ++ back).drop (front.length + middle.length) = back :=
    List.drop_left' List.length_append
  rw [Data.replaceSubrange, hback, List.append_assoc front, List.take_left]

/-- `Data(count:)`: zeros. -/
def Data.zeros (count : Nat) : Data :=
  List.replicate count 0

/-- Data, added to a key stream from a block on. -/
def streamXorIc (block : Nat → Fin 64 → UInt8) (data : Data) (ic : Nat) : Data :=
  data.mapIdx fun i x => x ^^^ block (ic + i / 64) (Fin.ofNat 64 i)

/-- The functions of the libraries, and what is documented of them. -/
structure CryptoLibraries where
  /-- a byte of a block of the key stream, for a key and a nonce -/
  chacha20 : Data → Data → Nat → Fin 64 → UInt8
  salsa20 : Data → Data → Nat → Fin 64 → UInt8
  /-- `crypto_stream_…_xor_ic`, of the data, a nonce, a block and a key -/
  chacha20XorIc : Data → Data → Nat → Data → Data
  salsa20XorIc : Data → Data → Nat → Data → Data
  /-- a block under a key -/
  aes : Data → Data → Data
  /-- a byte of the key stream of a key -/
  rc4 : Data → Nat → UInt8
  /-- `CCCryptorUpdate` under a key, with what the cryptor keeps -/
  cfbEncryptUpdate : Data → Cfb → Data → Data × Cfb
  cfbDecryptUpdate : Data → Cfb → Data → Data × Cfb
  rc4Update : Data → Nat → Data → Data × Nat
  md5 : Data → Vector UInt8 16
  chacha20XorIc_eq : ∀ data nonce ic key,
    chacha20XorIc data nonce ic key = streamXorIc (chacha20 key nonce) data ic
  salsa20XorIc_eq : ∀ data nonce ic key,
    salsa20XorIc data nonce ic key = streamXorIc (salsa20 key nonce) data ic
  cfbEncryptUpdate_eq : ∀ key cryptor data,
    cfbEncryptUpdate key cryptor data = each (cfbEncrypt (aes key)) cryptor data
  cfbDecryptUpdate_eq : ∀ key cryptor data,
    cfbDecryptUpdate key cryptor data = each (cfbDecrypt (aes key)) cryptor data
  rc4Update_eq : ∀ key cryptor data,
    rc4Update key cryptor data = each (xorAt (rc4 key)) cryptor data

/-- The functions, as they are documented, over key streams and a block cipher. -/
def CryptoLibraries.documented (chacha20 salsa20 : Data → Data → Nat → Fin 64 → UInt8)
    (aes : Data → Data → Data) (rc4 : Data → Nat → UInt8) (md5 : Data → Vector UInt8 16) :
    CryptoLibraries :=
  { chacha20 := chacha20, salsa20 := salsa20, aes := aes, rc4 := rc4, md5 := md5
    chacha20XorIc := fun data nonce ic key => streamXorIc (chacha20 key nonce) data ic
    salsa20XorIc := fun data nonce ic key => streamXorIc (salsa20 key nonce) data ic
    cfbEncryptUpdate := fun key => each (cfbEncrypt (aes key))
    cfbDecryptUpdate := fun key => each (cfbDecrypt (aes key))
    rc4Update := fun key => each (xorAt (rc4 key))
    chacha20XorIc_eq := fun _ _ _ _ => rfl
    salsa20XorIc_eq := fun _ _ _ _ => rfl
    cfbEncryptUpdate_eq := fun _ _ _ => rfl
    cfbDecryptUpdate_eq := fun _ _ _ => rfl
    rc4Update_eq := fun _ _ _ => rfl }

/-! ## SodiumStreamCrypto -/

namespace SodiumStreamCrypto

inductive Algorithm where
  | chacha20
  | salsa20
  deriving DecidableEq, Repr

end SodiumStreamCrypto

structure SodiumStreamCrypto where
  key : Data
  iv : Data
  algorithm : SodiumStreamCrypto.Algorithm
  counter : Nat
  deriving DecidableEq, Repr

namespace SodiumStreamCrypto

def blockSize : Nat := 64

/-- `SodiumStreamCrypto.init`. -/
def init (key iv : Data) (algorithm : Algorithm) : SodiumStreamCrypto :=
  { key := key, iv := iv, algorithm := algorithm, counter := 0 }

variable (lib : CryptoLibraries)

/-- The blocks of the key stream. -/
def block (crypto : SodiumStreamCrypto) : Nat → Fin 64 → UInt8 :=
  match crypto.algorithm with
  | .chacha20 => lib.chacha20 crypto.key crypto.iv
  | .salsa20 => lib.salsa20 crypto.key crypto.iv

/-- The function of libsodium that `update` calls. -/
def xorIc (crypto : SodiumStreamCrypto) (data : Data) (ic : Nat) : Data :=
  match crypto.algorithm with
  | .chacha20 => lib.chacha20XorIc data crypto.iv ic crypto.key
  | .salsa20 => lib.salsa20XorIc data crypto.iv ic crypto.key

def update (crypto : SodiumStreamCrypto) (data : Data) : Data × SodiumStreamCrypto :=
  if data.length > 0 then
    let padding := crypto.counter % blockSize
    let outputData :=
      if padding = 0 then
        data
      else
        (Data.zeros (data.length + padding)).replaceSubrange padding
          (padding + data.length) data
    let outputData := crypto.xorIc lib outputData (crypto.counter / blockSize)
    let crypto := { crypto with counter := crypto.counter + data.length }
    (if padding = 0 then outputData else outputData.drop padding, crypto)
  else
    (data, crypto)

/-- The key stream, byte by byte. -/
def keystream (crypto : SodiumStreamCrypto) (position : Nat) : UInt8 :=
  crypto.block lib (position / 64) (Fin.ofNat 64 position)

/-- Either function adds the data to the blocks of its algorithm. -/
theorem xorIc_eq (crypto : SodiumStreamCrypto) (data : Data) (ic : Nat) :
    crypto.xorIc lib data ic = streamXorIc (crypto.block lib) data ic := by
  unfold xorIc block
  cases crypto.algorithm with
  | chacha20 => exact lib.chacha20XorIc_eq data crypto.iv ic crypto.key
  | salsa20 => exact lib.salsa20XorIc_eq data crypto.iv ic crypto.key

/-- Zeros in front, as many as the padding. -/
theorem padded_eq (data : Data) (padding : Nat) :
    (Data.zeros (data.length + padding)).replaceSubrange padding
      (padding + data.length) data = List.replicate padding 0 ++ data := by
  simp [Data.replaceSubrange, Data.zeros, Nat.add_comm padding]

/-- The bytes behind the padding are added to the key stream from the place
that the padding stands for. -/
theorem drop_streamXorIc (block : Nat → Fin 64 → UInt8) (data : Data)
    (ic padding : Nat) :
    (streamXorIc block (List.replicate padding 0 ++ data) ic).drop padding =
      data.mapIdx fun i x =>
        x ^^^ block (ic + (padding + i) / 64) (Fin.ofNat 64 (padding + i)) := by
  rw [streamXorIc, List.mapIdx_append, List.drop_left' (by simp)]
  simp [Nat.add_comm]

/-- The block and the place in it that the counter and the padding reach. -/
theorem position_eq (block : Nat → Fin 64 → UInt8) (counter i : Nat) :
    block (counter / 64 + (counter % 64 + i) / 64) (Fin.ofNat 64 (counter % 64 + i)) =
      block ((counter + i) / 64) (Fin.ofNat 64 (counter + i)) := by
  have hblock : counter / 64 + (counter % 64 + i) / 64 = (counter + i) / 64 := by omega
  have hplace : (counter % 64 + i) % 64 = (counter + i) % 64 := by omega
  rw [hblock]
  exact congrArg _ (Fin.ext hplace)

/-- **Padding.**  A piece is added to the key stream from `counter` on, whether
this is the beginning of a block or not. -/
theorem update_eq (crypto : SodiumStreamCrypto) (data : Data) :
    crypto.update lib data =
      ((each (xorAt (crypto.keystream lib)) crypto.counter data).1,
        { crypto with counter := crypto.counter + data.length }) := by
  rw [each_xorAt]
  by_cases hempty : data.length > 0
  · have hout : ∀ padding, padding = crypto.counter % 64 →
        (crypto.xorIc lib (List.replicate padding 0 ++ data)
          (crypto.counter / 64)).drop padding =
        data.mapIdx fun i x => x ^^^ crypto.keystream lib (crypto.counter + i) := by
      rintro _ rfl
      rw [xorIc_eq, drop_streamXorIc]
      simp only [position_eq, keystream]
    by_cases hpadding : crypto.counter % 64 = 0
    · have hstart := hout 0 hpadding.symm
      simp only [List.replicate_zero, List.nil_append, List.drop_zero] at hstart
      simp [update, blockSize, hempty, hpadding, hstart]
    · have hmiddle := hout _ rfl
      simp [update, blockSize, hempty, hpadding, padded_eq, hmiddle]
  · have hnil : data = [] := List.length_eq_zero_iff.mp (by omega)
    subst hnil
    rfl

/-- Nothing but the counter changes. -/
theorem keystream_counter (crypto : SodiumStreamCrypto) (counter : Nat) :
    keystream lib { crypto with counter := counter } = crypto.keystream lib :=
  rfl

theorem update_cut : CutAnywhere (update lib) := by
  intro crypto xs ys
  have hcounter : (each (xorAt (crypto.keystream lib)) crypto.counter xs).2 =
      crypto.counter + xs.length := by
    rw [each_xorAt]
  simp only [update_eq, keystream_counter, List.length_append, Nat.add_assoc]
  rw [each_cut (xorAt (crypto.keystream lib)) crypto.counter xs ys, hcounter]

theorem update_restores (crypto : SodiumStreamCrypto) (data : Data) :
    (crypto.update lib (crypto.update lib data).1).1 = data := by
  simp only [update_eq]
  exact xorAt_restores _ _ data

/-- **Updates.**  However the data is cut, byte `i` of it meets byte `counter + i` of
the key stream: none is skipped, and none is used twice. -/
theorem feed_update (crypto : SodiumStreamCrypto) (pieces : List Data) :
    (feed (update lib) crypto pieces).1 =
        (pieces.flatten.mapIdx fun i x => x ^^^ crypto.keystream lib (crypto.counter + i)) ∧
      (feed (update lib) crypto pieces).2 =
        { crypto with counter := crypto.counter + pieces.flatten.length } := by
  cases pieces with
  | nil => exact ⟨rfl, rfl⟩
  | cons piece rest =>
      rw [feed_cons (update_cut lib), update_eq, each_xorAt]
      exact ⟨rfl, rfl⟩

end SodiumStreamCrypto

/-! ## CCCrypto -/

inductive CryptoOperation where
  | encrypt
  | decrypt
  deriving DecidableEq, Repr

/-- A `CCCrypto`, with what its `cryptor` keeps: AES in the cipher feedback mode,
or RC4. -/
inductive CCCrypto where
  | aes (operation : CryptoOperation) (key : Data) (cryptor : Cfb)
  | rc4 (key : Data) (cryptor : Nat)
  deriving DecidableEq, Repr

namespace CCCrypto

variable (lib : CryptoLibraries)

def update : CCCrypto → Data → Data × CCCrypto
  | .aes .encrypt key cryptor, data =>
      let out := lib.cfbEncryptUpdate key cryptor data
      (out.1, .aes .encrypt key out.2)
  | .aes .decrypt key cryptor, data =>
      let out := lib.cfbDecryptUpdate key cryptor data
      (out.1, .aes .decrypt key out.2)
  | .rc4 key cryptor, data =>
      let out := lib.rc4Update key cryptor data
      (out.1, .rc4 key out.2)

theorem update_cut : CutAnywhere (update lib) := by
  intro crypto xs ys
  match crypto with
  | .aes .encrypt key cryptor =>
      simp only [update, lib.cfbEncryptUpdate_eq, each_cut _ cryptor xs ys]
  | .aes .decrypt key cryptor =>
      simp only [update, lib.cfbDecryptUpdate_eq, each_cut _ cryptor xs ys]
  | .rc4 key cryptor => simp only [update, lib.rc4Update_eq, each_cut _ cryptor xs ys]

/-- Decryption undoes encryption from the same place. -/
theorem update_restores (key : Data) (cryptor : Cfb) (data : Data) :
    (update lib (.aes .decrypt key cryptor)
      (update lib (.aes .encrypt key cryptor) data).1).1 = data := by
  simp only [update, lib.cfbEncryptUpdate_eq, lib.cfbDecryptUpdate_eq]
  exact cfb_restores (lib.aes key) cryptor data

/-- The key stream of RC4 is added twice. -/
theorem update_rc4_restores (key : Data) (cryptor : Nat) (data : Data) :
    (update lib (.rc4 key cryptor) (update lib (.rc4 key cryptor) data).1).1 = data := by
  simp only [update, lib.rc4Update_eq]
  exact xorAt_restores (lib.rc4 key) cryptor data

end CCCrypto

/-! ## StreamCrypto -/

/-- The classes of the protocol `StreamCryptoProtocol`. -/
inductive StreamCrypto where
  | cc (crypto : CCCrypto)
  | sodium (crypto : SodiumStreamCrypto)
  deriving DecidableEq, Repr

namespace StreamCrypto

variable (lib : CryptoLibraries)

def update : StreamCrypto → Data → Data × StreamCrypto
  | .cc crypto, data => ((crypto.update lib data).1, .cc (crypto.update lib data).2)
  | .sodium crypto, data => ((crypto.update lib data).1, .sodium (crypto.update lib data).2)

/-- No cipher notices where the pieces are cut. -/
theorem update_cut : CutAnywhere (update lib) := by
  intro crypto xs ys
  cases crypto with
  | cc crypto => simp only [update, CCCrypto.update_cut lib crypto xs ys]
  | sodium crypto => simp only [update, SodiumStreamCrypto.update_cut lib crypto xs ys]

/-- The decrypting counterpart of a cipher. -/
def reversed : StreamCrypto → StreamCrypto
  | .cc (.aes _ key cryptor) => .cc (.aes .decrypt key cryptor)
  | crypto => crypto

/-- The cipher encrypts, or does the same for both operations. -/
def Encrypts : StreamCrypto → Prop
  | .cc (.aes operation _ _) => operation = .encrypt
  | _ => True

/-- Decryption undoes encryption. -/
theorem update_restores {crypto : StreamCrypto} (h : crypto.Encrypts) (data : Data) :
    (crypto.reversed.update lib (crypto.update lib data).1).1 = data := by
  match crypto, h with
  | .cc (.aes .encrypt key cryptor), _ => exact CCCrypto.update_restores lib key cryptor data
  | .cc (.rc4 key cryptor), _ => exact CCCrypto.update_rc4_restores lib key cryptor data
  | .sodium crypto, _ => exact crypto.update_restores lib data

end StreamCrypto

end QLadder
