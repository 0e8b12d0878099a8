import QLadder.CryptoHelper
import QLadder.PartialRun

/-!
# The Shadowsocks adapter

What a `ShadowsocksAdapter` of the tunnel makes of the bytes that pass through
it: the stream obfuscater puts a request in front of the first data that is
written, the cryptor encrypts, and puts its initialization vector in front of
what it sends first.  In the other direction the cryptor waits until it has the
initialization vector of the other side.

A run is any interleaving of writes, reads and a disconnect.  A statement that
traps is not possible.

* `sent_restored` — whatever the pieces in which data is written, and those in
  which it arrives, the other side gets the request and the data written;
* `delivered_restored` — and likewise in the other direction, whatever is
  written in between.
-/

namespace QLadder

open ByteStream PartialRun

/-! ## Buffer -/

/-- A `Buffer`; what lies before the offset has been taken out. -/
structure Buffer where
  buffer : Data
  offset : Nat
  deriving DecidableEq, Repr

namespace Buffer

def append (b : Buffer) (data : Data) : Buffer :=
  { b with buffer := b.buffer ++ data }

/-- `get(length:)`. -/
def get (b : Buffer) (length : Nat) : Option Data × Buffer :=
  if b.offset + length ≤ b.buffer.length then
    (some ((b.buffer.drop b.offset).take length), { b with offset := b.offset + length })
  else
    (none, b)

/-- `get()`: all that is left. -/
def getAll (b : Buffer) : Option Data × Buffer :=
  b.get (b.buffer.length - b.offset)

/-- What is left comes out in order: the first `length` of it. -/
theorem get_of_le {b : Buffer} {length : Nat} (h : b.offset + length ≤ b.buffer.length) :
    b.get length =
      (some ((b.buffer.drop b.offset).take length), { b with offset := b.offset + length }) :=
  if_pos h

theorem get_of_lt {b : Buffer} {length : Nat} (h : b.buffer.length < b.offset + length) :
    b.get length = (none, b) :=
  if_neg (Nat.not_le.mpr h)

theorem getAll_fst {b : Buffer} (h : b.offset ≤ b.buffer.length) :
    b.getAll.1 = some (b.buffer.drop b.offset) := by
  have hall : b.offset + (b.buffer.length - b.offset) ≤ b.buffer.length := by omega
  rw [getAll, get_of_le hall, List.take_of_length_le (Nat.le_of_eq List.length_drop)]

/-- `release`; the offset stays. -/
def release (b : Buffer) : Buffer :=
  { b with buffer := [] }

end Buffer

/-! ## CryptoStreamProcessor -/

structure CryptoStreamProcessor where
  readIV : Option Data
  key : Data
  algorithm : CryptoAlgorithm
  sendKey : Bool
  buffer : Buffer
  /-- random; only its length is known -/
  writeIV : Data
  length_writeIV : writeIV.length = CryptoHelper.getIVLength algorithm
  /-- `none` until it is first used -/
  encryptor : Option StreamCrypto
  decryptor : Option StreamCrypto

namespace CryptoStreamProcessor

/-- `CryptoStreamProcessor.init`, with the vector that `writeIV` will be. -/
def init (key : Data) (algorithm : CryptoAlgorithm)
    (writeIV : Vector UInt8 (CryptoHelper.getIVLength algorithm)) : CryptoStreamProcessor :=
  { readIV := none, key := key, algorithm := algorithm, sendKey := false,
    buffer := { buffer := [], offset := 0 }, writeIV := writeIV.toList,
    length_writeIV := Vector.length_toList, encryptor := none, decryptor := none }

variable (lib : CryptoLibraries)

/-- `getCrypto`, for the initialization vector of the operation. -/
def getCrypto (processor : CryptoStreamProcessor) (operation : CryptoOperation)
    (iv : Data) : StreamCrypto :=
  match processor.algorithm with
  | .AES128CFB | .AES192CFB | .AES256CFB =>
      .cc (.aes operation processor.key { register := iv, filled := [] })
  | .CHACHA20 => .sodium (.init processor.key iv .chacha20)
  | .SALSA20 => .sodium (.init processor.key iv .salsa20)
  | .RC4MD5 => .cc (.rc4 (lib.md5 (processor.key ++ iv)).toList 0)

def encrypt (processor : CryptoStreamProcessor) (data : Data) :
    Data × CryptoStreamProcessor :=
  let encryptor :=
    processor.encryptor.getD (processor.getCrypto lib .encrypt processor.writeIV)
  let out := encryptor.update lib data
  (out.1, { processor with encryptor := some out.2 })

/-- `decrypt`, once the other side's initialization vector is there. -/
def decrypt (processor : CryptoStreamProcessor) (readIV data : Data) :
    Data × CryptoStreamProcessor :=
  let decryptor := processor.decryptor.getD (processor.getCrypto lib .decrypt readIV)
  let out := decryptor.update lib data
  (out.1, { processor with decryptor := some out.2 })

/-- `input`: what is handed on to the stream obfuscater. -/
def input (processor : CryptoStreamProcessor) (data : Data) :
    Data × CryptoStreamProcessor :=
  match processor.readIV with
  | some readIV => processor.decrypt lib readIV data
  | none =>
      let taken := (processor.buffer.append data).get
        (CryptoHelper.getIVLength processor.algorithm)
      match taken.1 with
      | none => ([], { processor with buffer := taken.2 })
      | some readIV =>
          let rest := taken.2.getAll
          let processor :=
            { processor with readIV := some readIV, buffer := rest.2.release }
          processor.decrypt lib readIV (rest.1.getD [])

/-- `output`: what is handed on to the protocol obfuscater. -/
def output (processor : CryptoStreamProcessor) (data : Data) :
    Data × CryptoStreamProcessor :=
  let out := processor.encrypt lib data
  if processor.sendKey then out
  else (processor.writeIV ++ out.1, { out.2 with sendKey := true })

/-! ### The two directions as stages -/

/-- Encrypt, and send the initialization vector ahead. -/
def encryptStage (iv : Data) : StreamCrypto × Bool → Data → Data × (StreamCrypto × Bool) :=
  pipe (StreamCrypto.update lib) (lead iv)

/-- Gather the initialization vector, and decrypt what follows. -/
def decryptStage (processor : CryptoStreamProcessor) :
    Gathering UInt8 StreamCrypto → Data → Data × Gathering UInt8 StreamCrypto :=
  gather (CryptoHelper.getIVLength processor.algorithm) (processor.getCrypto lib .decrypt)
    (StreamCrypto.update lib)

theorem encryptStage_cut (iv : Data) : CutAnywhere (encryptStage lib iv) :=
  (StreamCrypto.update_cut lib).pipe (lead_cut iv)

theorem decryptStage_cut (processor : CryptoStreamProcessor) :
    CutAnywhere (decryptStage lib processor) :=
  (StreamCrypto.update_cut lib).gather _ _

/-- Two processors that share key and algorithm. -/
structure SameKey (processor other : CryptoStreamProcessor) : Prop where
  key : processor.key = other.key
  algorithm : processor.algorithm = other.algorithm

theorem SameKey.getCrypto {processor other : CryptoStreamProcessor}
    (h : SameKey processor other) :
    processor.getCrypto lib = other.getCrypto lib := by
  funext operation iv
  simp only [CryptoStreamProcessor.getCrypto, h.key, h.algorithm]

/-- What a processor will send, and nothing of what it receives. -/
structure Sends (first : CryptoStreamProcessor) (processor : CryptoStreamProcessor)
    (stage : StreamCrypto × Bool) : Prop where
  same : SameKey processor first
  writeIV : processor.writeIV = first.writeIV
  encryptor : processor.encryptor.getD (first.getCrypto lib .encrypt first.writeIV) = stage.1
  sendKey : processor.sendKey = stage.2

/-- What a processor will make of what it receives. -/
structure Receives (first : CryptoStreamProcessor) (processor : CryptoStreamProcessor)
    (stage : Gathering UInt8 StreamCrypto) : Prop where
  same : SameKey processor first
  stage_eq : stage =
    match processor.readIV with
    | none => .waiting (processor.buffer.buffer.drop processor.buffer.offset)
    | some readIV => .going (processor.decryptor.getD (first.getCrypto lib .decrypt readIV))
  started : processor.readIV = none →
    processor.decryptor = none ∧ processor.buffer.offset ≤ processor.buffer.buffer.length

variable {lib}

theorem output_simulates (first : CryptoStreamProcessor) :
    Simulates (Sends lib first) (output lib) (encryptStage lib first.writeIV) := by
  rintro processor ⟨crypto, sent⟩ data ⟨hsame, hiv, hcrypto, hsent⟩
  have hget : processor.encryptor.getD (processor.getCrypto lib .encrypt processor.writeIV) =
      crypto := by
    rw [hsame.getCrypto, hiv]
    exact hcrypto
  have hencrypt : processor.encrypt lib data =
      ((crypto.update lib data).1,
        { processor with encryptor := some (crypto.update lib data).2 }) := by
    simp only [encrypt, hget]
  have hsent' : processor.sendKey = sent := hsent
  cases sent with
  | false =>
      have hout : processor.output lib data =
          (processor.writeIV ++ (processor.encrypt lib data).1,
            { (processor.encrypt lib data).2 with sendKey := true }) := by
        simp [output, hsent']
      rw [hout, hencrypt]
      exact ⟨congrArg (· ++ _) hiv, ⟨hsame.key, hsame.algorithm⟩, hiv, rfl, rfl⟩
  | true =>
      have hout : processor.output lib data = processor.encrypt lib data := by
        simp [output, hsent']
      rw [hout, hencrypt]
      exact ⟨rfl, ⟨hsame.key, hsame.algorithm⟩, hiv, rfl, hsent'⟩

/-- Once the vector is there, everything is decrypted. -/
theorem decrypt_simulates {first : CryptoStreamProcessor} (processor : CryptoStreamProcessor)
    {readIV : Data} {crypto : StreamCrypto} (hsame : SameKey processor first)
    (hread : processor.readIV = some readIV)
    (hcrypto : processor.decryptor.getD (first.getCrypto lib .decrypt readIV) = crypto)
    (data : Data) :
    (processor.decrypt lib readIV data).1 = (decryptStage lib first (.going crypto) data).1 ∧
      Receives lib first (processor.decrypt lib readIV data).2
        (decryptStage lib first (.going crypto) data).2 := by
  subst hcrypto
  have hsameCrypto : processor.getCrypto lib = first.getCrypto lib := hsame.getCrypto lib
  simp only [decrypt, hsameCrypto]
  refine ⟨rfl, ⟨hsame.key, hsame.algorithm⟩, ?_, ?_⟩
  · simp only [hread]
    rfl
  · intro hnone
    cases hread.symm.trans hnone

/-- What is left in the buffer, with new data behind it. -/
theorem drop_append {buffer : Buffer} (h : buffer.offset ≤ buffer.buffer.length)
    (data : Data) :
    (buffer.append data).buffer.drop buffer.offset = buffer.buffer.drop buffer.offset ++ data :=
  List.drop_append_of_le_length h

/-- The vector is not complete yet. -/
theorem input_of_short {processor : CryptoStreamProcessor} {data : Data}
    (hread : processor.readIV = none)
    (hshort : (processor.buffer.append data).buffer.length <
      processor.buffer.offset + CryptoHelper.getIVLength processor.algorithm) :
    processor.input lib data =
      ([], { processor with buffer := processor.buffer.append data }) := by
  simp only [input, hread, Buffer.get_of_lt (b := processor.buffer.append data) hshort]

variable (lib) in
/-- The vector is complete: what follows it is decrypted. -/
theorem input_of_enough {processor : CryptoStreamProcessor} {data left : Data}
    (hread : processor.readIV = none)
    (hleft : (processor.buffer.append data).buffer.drop processor.buffer.offset = left)
    (henough : processor.buffer.offset + CryptoHelper.getIVLength processor.algorithm ≤
      (processor.buffer.append data).buffer.length) :
    ∃ buffer, processor.input lib data =
      decrypt lib
        { processor with
          readIV := some (left.take (CryptoHelper.getIVLength processor.algorithm))
          buffer := buffer }
        (left.take (CryptoHelper.getIVLength processor.algorithm))
        (left.drop (CryptoHelper.getIVLength processor.algorithm)) := by
  have hget := Buffer.get_of_le (b := processor.buffer.append data) henough
  have hrest := Buffer.getAll_fst
    (b := { processor.buffer.append data with
      offset := processor.buffer.offset + CryptoHelper.getIVLength processor.algorithm })
    henough
  refine ⟨Buffer.release (Buffer.getAll { processor.buffer.append data with
    offset := processor.buffer.offset +
      CryptoHelper.getIVLength processor.algorithm }).2, ?_⟩
  subst hleft
  simp only [input, hread, hget]
  rw [show (processor.buffer.append data).offset = processor.buffer.offset from rfl, hrest,
    List.drop_drop]
  rfl

/-- `input` is the receiving stage. -/
theorem input_simulates (first : CryptoStreamProcessor) :
    Simulates (Receives lib first) (input lib) (decryptStage lib first) := by
  rintro processor stage data ⟨hsame, hstage, hstarted⟩
  subst hstage
  cases hread : processor.readIV with
  | some readIV =>
      have hinput : processor.input lib data = processor.decrypt lib readIV data := by
        simp only [input, hread]
      rw [hinput]
      exact decrypt_simulates processor hsame hread rfl data
  | none =>
      obtain ⟨hdecryptor, hoffset⟩ := hstarted hread
      have hdrop := drop_append hoffset data
      have hinside : processor.buffer.offset ≤ (processor.buffer.append data).buffer.length :=
        Nat.le_trans hoffset (by simp [Buffer.append])
      have hlength : (processor.buffer.buffer.drop processor.buffer.offset ++ data).length =
          (processor.buffer.append data).buffer.length - processor.buffer.offset := by
        rw [← hdrop, List.length_drop]
      have hiv := congrArg CryptoHelper.getIVLength hsame.algorithm
      rcases Nat.lt_or_ge (processor.buffer.append data).buffer.length
        (processor.buffer.offset + CryptoHelper.getIVLength processor.algorithm) with
        hshort | henough
      · rw [input_of_short hread hshort, decryptStage, gather, if_neg (by omega)]
        refine ⟨rfl, ⟨hsame.key, hsame.algorithm⟩, ?_, fun _ => ⟨hdecryptor, hinside⟩⟩
        simp only [hread]
        exact congrArg Gathering.waiting hdrop.symm
      · obtain ⟨buffer, hinput⟩ := input_of_enough lib hread hdrop henough
        rw [hinput, decryptStage, gather, if_pos (by omega), ← hiv]
        refine decrypt_simulates { processor with readIV := _, buffer := buffer }
          ⟨hsame.key, hsame.algorithm⟩ rfl ?_ _
        exact congrArg (Option.getD · _) hdecryptor

variable (lib)

theorem getCrypto_encrypts (processor : CryptoStreamProcessor) (iv : Data) :
    (processor.getCrypto lib .encrypt iv).Encrypts := by
  unfold getCrypto
  cases processor.algorithm <;> trivial

theorem getCrypto_reversed (processor : CryptoStreamProcessor) (iv : Data) :
    (processor.getCrypto lib .encrypt iv).reversed = processor.getCrypto lib .decrypt iv := by
  unfold getCrypto
  cases processor.algorithm <;> rfl

/-- What a fresh processor makes of what is sent under the same key. -/
theorem decryptStage_encryptStage {first other : CryptoStreamProcessor}
    (hsame : SameKey other first) (data : Data) :
    (decryptStage lib other (.waiting []) (encryptStage lib first.writeIV
      (first.getCrypto lib .encrypt first.writeIV, false) data).1).1 = data := by
  have hiv : CryptoHelper.getIVLength other.algorithm = first.writeIV.length := by
    rw [hsame.algorithm, first.length_writeIV]
  have hsent : (encryptStage lib first.writeIV
      (first.getCrypto lib .encrypt first.writeIV, false) data).1 =
        first.writeIV ++
          ((first.getCrypto lib .encrypt first.writeIV).update lib data).1 := rfl
  have henough : first.writeIV.length ≤ ([] ++ (first.writeIV ++
      ((first.getCrypto lib .encrypt first.writeIV).update lib data).1)).length := by
    simp
  have hgathered : (decryptStage lib other (.waiting []) (first.writeIV ++
        ((first.getCrypto lib .encrypt first.writeIV).update lib data).1)).1 =
      ((first.getCrypto lib .decrypt first.writeIV).update lib
        ((first.getCrypto lib .encrypt first.writeIV).update lib data).1).1 := by
    rw [decryptStage, gather, hiv, if_pos henough, hsame.getCrypto lib, List.nil_append,
      List.take_left, List.drop_left]
  rw [hsent, hgathered, ← getCrypto_reversed]
  exact StreamCrypto.update_restores lib (first.getCrypto_encrypts lib _) data

/-- A fresh processor. -/
theorem sends_init (key : Data) (algorithm : CryptoAlgorithm)
    (writeIV : Vector UInt8 (CryptoHelper.getIVLength algorithm)) :
    Sends lib (init key algorithm writeIV) (init key algorithm writeIV)
      ((init key algorithm writeIV).getCrypto lib .encrypt writeIV.toList, false) :=
  ⟨⟨rfl, rfl⟩, rfl, rfl, rfl⟩

theorem receives_init (key : Data) (algorithm : CryptoAlgorithm)
    (writeIV : Vector UInt8 (CryptoHelper.getIVLength algorithm)) :
    Receives lib (init key algorithm writeIV) (init key algorithm writeIV) (.waiting []) :=
  ⟨⟨rfl, rfl⟩, rfl, fun _ => ⟨rfl, Nat.le_refl 0⟩⟩

/-- Nothing comes of nothing. -/
theorem decryptStage_nil (processor : CryptoStreamProcessor) :
    (decryptStage lib processor (.waiting []) []).1 = [] := by
  have hiv : ¬ CryptoHelper.getIVLength processor.algorithm ≤ 0 := by
    cases processor.algorithm <;> decide
  simp [decryptStage, gather, hiv]

/-- A fresh processor makes the same of the pieces as of all of it. -/
theorem feed_input_init (key : Data) (algorithm : CryptoAlgorithm)
    (writeIV : Vector UInt8 (CryptoHelper.getIVLength algorithm)) (pieces : List Data) :
    (feed (input lib) (init key algorithm writeIV) pieces).1 =
      (decryptStage lib (init key algorithm writeIV) (.waiting []) pieces.flatten).1 := by
  rw [(input_simulates (init key algorithm writeIV)).feed
    (receives_init lib key algorithm writeIV)]
  exact feed_eq (decryptStage_cut lib _) (decryptStage_nil lib _) pieces

/-- A fresh processor sends the same for the pieces as for all of it. -/
theorem feed_output_init (key : Data) (algorithm : CryptoAlgorithm)
    (writeIV : Vector UInt8 (CryptoHelper.getIVLength algorithm)) (piece : Data)
    (pieces : List Data) :
    (feed (output lib) (init key algorithm writeIV) (piece :: pieces)).1 =
      (encryptStage lib writeIV.toList
        ((init key algorithm writeIV).getCrypto lib .encrypt writeIV.toList, false)
        (piece :: pieces).flatten).1 := by
  rw [(output_simulates (init key algorithm writeIV)).feed
    (sends_init lib key algorithm writeIV)]
  exact congrArg Prod.fst (feed_cons (encryptStage_cut lib writeIV.toList) _ piece pieces)

end CryptoStreamProcessor

/-! ## OriginStreamObfuscater -/

structure OriginStreamObfuscater where
  /-- the host and the port of the session -/
  host : String
  port : Int
  requestSend : Bool
  deriving DecidableEq, Repr

/-- `host.utf8`. -/
def utf8 (host : String) : Data :=
  host.toUTF8.data.toList

namespace OriginStreamObfuscater

/-- `requestData`; `none` is the trap of `UInt8(hostLength)` or of `UInt16(session.port)`. -/
def requestData (obfuscater : OriginStreamObfuscater) (data : Data) : Option Data :=
  let hostLength := (utf8 obfuscater.host).length
  let length := 1 + 1 + hostLength + 2 + data.length
  let response : Data := Data.zeros length
  if 255 < hostLength then
    none
  else
    let response : Data := (response.set 0 3).set 1 (UInt8.ofNat hostLength)
    let response : Data := response.replaceSubrange 2 (2 + hostLength) (utf8 obfuscater.host)
    if obfuscater.port < 0 ∨ 65535 < obfuscater.port then
      none
    else
      let beport : Data :=
        [UInt8.ofNat (obfuscater.port.toNat / 256), UInt8.ofNat obfuscater.port.toNat]
      let response : Data := response.replaceSubrange (2 + hostLength) (4 + hostLength) beport
      some (response.replaceSubrange (4 + hostLength) length data)

/-- `output`: what is handed on to the cryptor. -/
def output (obfuscater : OriginStreamObfuscater) (data : Data) :
    Option (Data × OriginStreamObfuscater) :=
  if obfuscater.requestSend then
    some (data, obfuscater)
  else
    (obfuscater.requestData data).map fun request =>
      (request, { obfuscater with requestSend := true })

end OriginStreamObfuscater

/-! ### The request -/

/-- The bytes of a port, the higher one first. -/
def portBytes (port : Nat) : Data :=
  [UInt8.ofNat (port / 256), UInt8.ofNat port]

/-- The request for a host by name, and a port. -/
def request (host : Data) (port : Nat) : Data :=
  3 :: UInt8.ofNat host.length :: host ++ portBytes port

/-- What a server reads of a stream: the host, the port, and the data behind the
request. -/
def parseRequest : Data → Option (Data × Nat × Data)
  | 3 :: length :: rest =>
      match rest.drop length.toNat with
      | high :: low :: data =>
          some (rest.take length.toNat, high.toNat * 256 + low.toNat, data)
      | _ => none
  | _ => none

theorem parseRequest_request {host : Data} {port : Nat} (hhost : host.length ≤ 255)
    (hport : port ≤ 65535) (data : Data) :
    parseRequest (request host port ++ data) = some (host, port, data) := by
  have hlength : (UInt8.ofNat host.length).toNat = host.length := by
    rw [UInt8.toNat_ofNat']
    omega
  have hbytes : (UInt8.ofNat (port / 256)).toNat * 256 + (UInt8.ofNat port).toNat = port := by
    rw [UInt8.toNat_ofNat', UInt8.toNat_ofNat']
    omega
  simp only [request, portBytes, List.cons_append, parseRequest, hlength, List.append_assoc,
    List.drop_left, List.take_left, List.nil_append, hbytes]

namespace OriginStreamObfuscater

/-- The host and the port fit the request. -/
def Fits (obfuscater : OriginStreamObfuscater) : Prop :=
  (utf8 obfuscater.host).length ≤ 255 ∧ 0 ≤ obfuscater.port ∧ obfuscater.port ≤ 65535

/-- The length byte, the host, the port and the data fill the zeros. -/
theorem fill_zeros (host port data : Data) (length : UInt8) (hport : port.length = 2) :
    Data.replaceSubrange
        (Data.replaceSubrange
          (Data.replaceSubrange
            (((Data.zeros (1 + 1 + host.length + 2 + data.length)).set 0 3).set 1 length)
            2 (2 + host.length) host)
          (2 + host.length) (4 + host.length) port)
        (4 + host.length) (1 + 1 + host.length + 2 + data.length) data =
      3 :: length :: host ++ port ++ data := by
  have hzeros : Data.zeros (1 + 1 + host.length + 2 + data.length) =
      [0, 0] ++ Data.zeros host.length ++ (Data.zeros 2 ++ Data.zeros data.length) := by
    simp only [Data.zeros, List.replicate_append_replicate]
    rw [show ([0, 0] : Data) = List.replicate 2 0 from rfl, List.replicate_append_replicate,
      List.replicate_append_replicate]
    congr 1
    omega
  have hset : ((Data.zeros (1 + 1 + host.length + 2 + data.length)).set 0 3).set 1 length =
      [3, length] ++ Data.zeros host.length ++ (Data.zeros 2 ++ Data.zeros data.length) := by
    rw [hzeros]
    rfl
  have hhost : Data.replaceSubrange ([3, length] ++ Data.zeros host.length ++
      (Data.zeros 2 ++ Data.zeros data.length)) 2 (2 + host.length) host =
        [3, length] ++ host ++ (Data.zeros 2 ++ Data.zeros data.length) :=
    Data.replaceSubrange_middle _ _ _ _ rfl (by simp [Data.zeros])
  have hbeport : Data.replaceSubrange ([3, length] ++ host ++ Data.zeros 2 ++
      Data.zeros data.length) (2 + host.length) (4 + host.length) port =
        [3, length] ++ host ++ port ++ Data.zeros data.length :=
    Data.replaceSubrange_middle _ _ _ _ (by simp; omega) (by simp [Data.zeros]; omega)
  have hdata : Data.replaceSubrange ([3, length] ++ host ++ port ++ Data.zeros data.length ++
      []) (4 + host.length) (1 + 1 + host.length + 2 + data.length) data =
        [3, length] ++ host ++ port ++ data ++ [] :=
    Data.replaceSubrange_middle _ _ _ _ (by simp [hport]; omega)
      (by simp [Data.zeros, hport]; omega)
  rw [List.append_nil, List.append_nil] at hdata
  rw [hset, hhost, ← List.append_assoc, hbeport, hdata]
  rfl

/-- The request is put in front, unless it does not fit. -/
theorem requestData_eq (obfuscater : OriginStreamObfuscater) (data out : Data) :
    obfuscater.requestData data = some out ↔
      obfuscater.Fits ∧
        out = request (utf8 obfuscater.host) obfuscater.port.toNat ++ data := by
  have hfill := fill_zeros (utf8 obfuscater.host) (portBytes obfuscater.port.toNat) data
    (UInt8.ofNat (utf8 obfuscater.host).length) rfl
  by_cases hhost : 255 < (utf8 obfuscater.host).length
  · have hnot : ¬ obfuscater.Fits := fun hfits => by
      have := hfits.1
      omega
    simp [requestData, hhost, hnot]
  · by_cases hport : obfuscater.port < 0 ∨ 65535 < obfuscater.port
    · have hnot : ¬ obfuscater.Fits := fun hfits => by
        have := hfits.2
        omega
      simp [requestData, hhost, hport, hnot]
    · have hfits : obfuscater.Fits := ⟨by omega, by omega, by omega⟩
      rw [portBytes] at hfill
      simp only [requestData, if_neg hhost, if_neg hport, hfill, Option.some.injEq, hfits,
        true_and]
      exact eq_comm

/-- What is handed on, unless the request does not fit. -/
theorem output_eq {obfuscater after : OriginStreamObfuscater} {data out : Data}
    (h : obfuscater.output data = some (out, after)) :
    out = (lead (request (utf8 obfuscater.host) obfuscater.port.toNat)
        obfuscater.requestSend data).1 ∧
      after = { obfuscater with requestSend := true } ∧
      (obfuscater.requestSend = false → obfuscater.Fits) := by
  cases hsend : obfuscater.requestSend with
  | true =>
      simp only [output, hsend, if_true, Option.some.injEq, Prod.mk.injEq] at h
      obtain ⟨rfl, rfl⟩ := h
      refine ⟨rfl, ?_, fun hfalse => by cases hfalse⟩
      rw [← hsend]
  | false =>
      simp only [output, hsend, Bool.false_eq_true, if_false, Option.map_eq_some_iff,
        Prod.mk.injEq] at h
      obtain ⟨request, hrequest, rfl, rfl⟩ := h
      obtain ⟨hfits, rfl⟩ := (requestData_eq obfuscater data request).mp hrequest
      exact ⟨rfl, rfl, fun _ => hfits⟩

end OriginStreamObfuscater

/-! ## The adapter -/

/-- A `ShadowsocksAdapter` with the obfuscaters that `startTunnel` gives it, what
it has handed to its raw socket, and what it has handed to its delegate. -/
structure ShadowsocksAdapter where
  isCancelled : Bool
  cryptor : CryptoStreamProcessor
  streamObfuscator : OriginStreamObfuscater
  sent : List Data
  delivered : List Data

inductive AdapterEvent where
  /-- `write(data:)` -/
  | write (data : Data)
  /-- `didRead(data:from:)`, of the raw socket -/
  | didRead (data : Data)
  /-- `disconnect` or `forceDisconnect` -/
  | disconnect
  deriving DecidableEq, Repr

namespace ShadowsocksAdapter

variable (lib : CryptoLibraries)

/-- A new adapter for a host and a port. -/
def init (host : String) (port : Int) (cryptor : CryptoStreamProcessor) :
    ShadowsocksAdapter :=
  { isCancelled := false, cryptor := cryptor,
    streamObfuscator := { host := host, port := port, requestSend := false },
    sent := [], delivered := [] }

/-- `write(rawData:)`: nothing is written once the adapter is cancelled. -/
def writeRawData (adapter : ShadowsocksAdapter) (rawData : Data) : ShadowsocksAdapter :=
  if adapter.isCancelled then adapter
  else { adapter with sent := adapter.sent ++ [rawData] }

/-- One call; `none` is a trap. -/
def step (adapter : ShadowsocksAdapter) : AdapterEvent → Option ShadowsocksAdapter
  | .write data => do
      let (request, streamObfuscator) ← adapter.streamObfuscator.output data
      let (rawData, cryptor) := adapter.cryptor.output lib request
      some (writeRawData
        { adapter with streamObfuscator := streamObfuscator, cryptor := cryptor } rawData)
  | .didRead data =>
      let (input, cryptor) := adapter.cryptor.input lib data
      some { adapter with cryptor := cryptor, delivered := adapter.delivered ++ [input] }
  | .disconnect => some { adapter with isCancelled := true }

end ShadowsocksAdapter

/-- The data written in the events, in pieces. -/
def written (events : List AdapterEvent) : List Data :=
  events.filterMap fun
    | .write data => some data
    | _ => none

/-- The data that the raw socket read. -/
def received (events : List AdapterEvent) : List Data :=
  events.filterMap fun
    | .didRead data => some data
    | _ => none

namespace ShadowsocksAdapter

variable {lib : CryptoLibraries} {first : CryptoStreamProcessor}

/-- A read leaves what will be sent as it is. -/
theorem sends_input {processor : CryptoStreamProcessor} {stage : StreamCrypto × Bool}
    (h : CryptoStreamProcessor.Sends lib first processor stage) (data : Data) :
    CryptoStreamProcessor.Sends lib first (processor.input lib data).2 stage := by
  obtain ⟨hsame, hiv, hcrypto, hsent⟩ := h
  have hkeep : ∀ other : CryptoStreamProcessor, other.key = processor.key →
      other.algorithm = processor.algorithm → other.writeIV = processor.writeIV →
      other.encryptor = processor.encryptor → other.sendKey = processor.sendKey →
      CryptoStreamProcessor.Sends lib first other stage := by
    intro other hkey halgorithm hwriteIV hencryptor hsendKey
    exact ⟨⟨hkey.trans hsame.key, halgorithm.trans hsame.algorithm⟩, hwriteIV.trans hiv,
      by rw [hencryptor]; exact hcrypto, hsendKey.trans hsent⟩
  unfold CryptoStreamProcessor.input
  cases processor.readIV with
  | some readIV => exact hkeep _ rfl rfl rfl rfl rfl
  | none =>
      cases hget : ((processor.buffer.append data).get
          (CryptoHelper.getIVLength processor.algorithm)).1 with
      | none =>
          simp only [hget]
          exact hkeep _ rfl rfl rfl rfl rfl
      | some readIV =>
          simp only [hget]
          exact hkeep _ rfl rfl rfl rfl rfl

/-- A write leaves what will be made of the bytes received as it is. -/
theorem receives_output {processor : CryptoStreamProcessor}
    {stage : Gathering UInt8 StreamCrypto}
    (h : CryptoStreamProcessor.Receives lib first processor stage) (data : Data) :
    CryptoStreamProcessor.Receives lib first (processor.output lib data).2 stage := by
  obtain ⟨hsame, hstage, hstarted⟩ := h
  unfold CryptoStreamProcessor.output
  cases processor.sendKey <;> exact ⟨⟨hsame.key, hsame.algorithm⟩, hstage, hstarted⟩

/-- Everything that is written, as one stage: the request in front of the data,
encrypted, and the initialization vector in front of that. -/
def outboundStage (lib : CryptoLibraries) (ahead iv : Data) :
    Bool × StreamCrypto × Bool → Data → Data × (Bool × StreamCrypto × Bool) :=
  pipe (lead ahead) (CryptoStreamProcessor.encryptStage lib iv)

theorem outboundStage_cut (ahead iv : Data) : CutAnywhere (outboundStage lib ahead iv) :=
  (lead_cut ahead).pipe (CryptoStreamProcessor.encryptStage_cut lib iv)

variable (lib) in
/-- The adapter has written as much as the stage. -/
structure Writes (first : CryptoStreamProcessor) (host : String) (port : Int)
    (adapter : ShadowsocksAdapter) (stage : Bool × StreamCrypto × Bool) : Prop where
  host : adapter.streamObfuscator.host = host
  port : adapter.streamObfuscator.port = port
  requestSend : adapter.streamObfuscator.requestSend = stage.1
  sends : CryptoStreamProcessor.Sends lib first adapter.cryptor stage.2

/-- A write that does not trap hands on what the obfuscater and the cryptor make of
the data. -/
theorem step_write_parts {adapter after : ShadowsocksAdapter} {data : Data}
    (h : step lib adapter (.write data) = some after) :
    ∃ request streamObfuscator,
      adapter.streamObfuscator.output data = some (request, streamObfuscator) ∧
      after.streamObfuscator = streamObfuscator ∧
      after.cryptor = (adapter.cryptor.output lib request).2 ∧
      after.isCancelled = adapter.isCancelled ∧
      after.delivered = adapter.delivered ∧
      after.sent = adapter.sent ++
        (if adapter.isCancelled then [] else [(adapter.cryptor.output lib request).1]) := by
  simp only [step, Option.bind_eq_bind, Option.bind_eq_some_iff] at h
  obtain ⟨⟨request, streamObfuscator⟩, hout, hafter⟩ := h
  have hafter' := Option.some.inj hafter
  subst hafter'
  refine ⟨request, streamObfuscator, hout, ?_⟩
  cases hcancelled : adapter.isCancelled <;> simp [writeRawData]

/-- A write that does not trap is the next piece of the stage. -/
theorem step_write {host : String} {port : Int} {adapter after : ShadowsocksAdapter}
    {stage : Bool × StreamCrypto × Bool} {data : Data}
    (hwrites : Writes lib first host port adapter stage)
    (h : step lib adapter (.write data) = some after) :
    let out := outboundStage lib (request (utf8 host) port.toNat) first.writeIV stage data
    Writes lib first host port after out.2 ∧
      after.isCancelled = adapter.isCancelled ∧
      after.sent = adapter.sent ++ (if adapter.isCancelled then [] else [out.1]) := by
  obtain ⟨request, streamObfuscator, hout, hobfuscator, hcryptor, hcancelled, -, hsent⟩ :=
    step_write_parts h
  obtain ⟨hrequest, hlater, -⟩ := OriginStreamObfuscater.output_eq hout
  rw [hwrites.host, hwrites.port, hwrites.requestSend] at hrequest
  obtain ⟨hbytes, hsends⟩ := CryptoStreamProcessor.output_simulates first adapter.cryptor
    stage.2 request hwrites.sends
  rw [hrequest] at hbytes hsends hsent hcryptor
  refine ⟨⟨?_, ?_, ?_, ?_⟩, hcancelled, ?_⟩
  · rw [hobfuscator, hlater]
    exact hwrites.host
  · rw [hobfuscator, hlater]
    exact hwrites.port
  · rw [hobfuscator, hlater]
    rfl
  · rw [hcryptor]
    exact hsends
  · rw [hsent, hbytes]
    rfl

/-- A cancelled adapter sends nothing more. -/
theorem run_cancelled {adapter after : ShadowsocksAdapter} {events : List AdapterEvent}
    (hcancelled : adapter.isCancelled = true)
    (h : run (step lib) adapter events = some after) :
    after.isCancelled = true ∧ after.sent = adapter.sent := by
  refine run_preserves
    (fun other => other.isCancelled = true ∧ other.sent = adapter.sent) ?_
    ⟨hcancelled, rfl⟩ h
  rintro before event next ⟨hbefore, hsame⟩ hstep
  cases event with
  | write data =>
      obtain ⟨_, _, _, _, _, hkeep, _, hsent⟩ := step_write_parts hstep
      refine ⟨hkeep.trans hbefore, ?_⟩
      rw [hsent, hbefore, hsame]
      exact List.append_nil _
  | didRead data =>
      cases hstep
      exact ⟨hbefore, hsame⟩
  | disconnect =>
      cases hstep
      exact ⟨rfl, hsame⟩

/-- **Outbound.**  What has been sent is the beginning of what the stage makes of
the data written, and all of it until the adapter is cancelled. -/
theorem run_sent {host : String} {port : Int} {adapter after : ShadowsocksAdapter}
    {stage : Bool × StreamCrypto × Bool} {events : List AdapterEvent}
    (hwrites : Writes lib first host port adapter stage)
    (h : run (step lib) adapter events = some after) :
    ∃ missing, adapter.sent.flatten ++
        (feed (outboundStage lib (request (utf8 host) port.toNat) first.writeIV) stage
          (written events)).1 = after.sent.flatten ++ missing ∧
      (after.isCancelled = false → missing = []) := by
  induction events generalizing adapter stage with
  | nil =>
      cases h
      exact ⟨[], by simp [written, feed], fun _ => rfl⟩
  | cons event events ih =>
      obtain ⟨mid, hmid, hrest⟩ := run_cons_some h
      cases event with
      | write data =>
          obtain ⟨hwrites', hkeep, hsent⟩ := step_write hwrites hmid
          cases hcancelled : adapter.isCancelled with
          | true =>
              obtain ⟨hafter, hsame⟩ := run_cancelled (hkeep.trans hcancelled) hrest
              have hnone : after.sent = adapter.sent := by
                rw [hsame, hsent, hcancelled]
                exact List.append_nil _
              exact ⟨_, by rw [hnone], fun hfalse => by cases hafter.symm.trans hfalse⟩
          | false =>
              obtain ⟨missing, hsplit, hall⟩ := ih hwrites' hrest
              refine ⟨missing, ?_, hall⟩
              rw [← hsplit, hsent, hcancelled]
              simp [written, feed]
      | didRead data =>
          have hwrites' : Writes lib first host port mid stage := by
            cases hmid
            exact ⟨hwrites.host, hwrites.port, hwrites.requestSend,
              sends_input hwrites.sends data⟩
          have hsame : mid.sent = adapter.sent := by
            cases hmid
            rfl
          rw [← hsame]
          exact ih hwrites' hrest
      | disconnect =>
          obtain ⟨hcancelled, hsent⟩ := run_cancelled (by cases hmid; rfl) hrest
          cases hmid
          exact ⟨_, by rw [hsent], fun hfalse => by cases hcancelled.symm.trans hfalse⟩

/-- **Inbound.**  What has been delivered is what the receiving stage makes of the
data received. -/
theorem run_delivered {adapter after : ShadowsocksAdapter}
    {stage : Gathering UInt8 StreamCrypto} {events : List AdapterEvent}
    (hreceives : CryptoStreamProcessor.Receives lib first adapter.cryptor stage)
    (h : run (step lib) adapter events = some after) :
    after.delivered.flatten = adapter.delivered.flatten ++
      (feed (CryptoStreamProcessor.decryptStage lib first) stage (received events)).1 := by
  induction events generalizing adapter stage with
  | nil =>
      cases h
      simp [received, feed]
  | cons event events ih =>
      obtain ⟨mid, hmid, hrest⟩ := run_cons_some h
      cases event with
      | write data =>
          obtain ⟨request, _, -, -, hcryptor, -, hdelivered, -⟩ := step_write_parts hmid
          have hreceives' : CryptoStreamProcessor.Receives lib first mid.cryptor stage := by
            rw [hcryptor]
            exact receives_output hreceives request
          rw [← hdelivered]
          exact ih hreceives' hrest
      | didRead data =>
          obtain ⟨hbytes, hnext⟩ := CryptoStreamProcessor.input_simulates first
            adapter.cryptor stage data hreceives
          have hcryptor : mid.cryptor = (adapter.cryptor.input lib data).2 := by
            cases hmid
            rfl
          have hdelivered : mid.delivered =
              adapter.delivered ++ [(adapter.cryptor.input lib data).1] := by
            cases hmid
            rfl
          rw [← hcryptor] at hnext
          rw [ih hnext hrest, hdelivered, hbytes]
          simp [received, feed]
      | disconnect =>
          have hcryptor : mid.cryptor = adapter.cryptor := by
            cases hmid
            rfl
          have hdelivered : mid.delivered = adapter.delivered := by
            cases hmid
            rfl
          rw [← hcryptor] at hreceives
          rw [← hdelivered]
          exact ih hreceives hrest

/-- A first write that does not trap sends a request that fits. -/
theorem run_fits {adapter after : ShadowsocksAdapter} {events : List AdapterEvent}
    (hfirst : adapter.streamObfuscator.requestSend = false) (hwritten : written events ≠ [])
    (h : run (step lib) adapter events = some after) : adapter.streamObfuscator.Fits := by
  induction events generalizing adapter with
  | nil => exact absurd rfl hwritten
  | cons event events ih =>
      obtain ⟨mid, hmid, hrest⟩ := run_cons_some h
      cases event with
      | write data =>
          obtain ⟨_, _, hout, -⟩ := step_write_parts hmid
          exact (OriginStreamObfuscater.output_eq hout).2.2 hfirst
      | didRead data =>
          have hsame : mid.streamObfuscator = adapter.streamObfuscator := by
            cases hmid
            rfl
          rw [← hsame] at hfirst ⊢
          exact ih hfirst hwritten hrest
      | disconnect =>
          have hsame : mid.streamObfuscator = adapter.streamObfuscator := by
            cases hmid
            rfl
          rw [← hsame] at hfirst ⊢
          exact ih hfirst hwritten hrest

/-- **What the server gets.**  However the data was cut when it was written, and
is cut when it arrives, a processor of the same key gets the beginning of the
request and the data, and reads all of it from all that was sent. -/
theorem sent_restored {key : Data} {algorithm : CryptoAlgorithm}
    {writeIV otherIV : Vector UInt8 (CryptoHelper.getIVLength algorithm)} {host : String}
    {port : Int} {events : List AdapterEvent} {after : ShadowsocksAdapter}
    (h : run (step lib) (init host port (.init key algorithm writeIV)) events = some after)
    {pieces : List Data} (harrived : pieces.flatten <+: after.sent.flatten) :
    let got := (feed (CryptoStreamProcessor.input lib)
      (.init key algorithm otherIV) pieces).1
    got <+: request (utf8 host) port.toNat ++ (written events).flatten ∧
      (written events ≠ [] → after.isCancelled = false →
        pieces.flatten = after.sent.flatten →
          parseRequest got = some (utf8 host, port.toNat, (written events).flatten)) := by
  have hwrites : Writes lib (.init key algorithm writeIV) host port
      (init host port (.init key algorithm writeIV)) (false,
        (CryptoStreamProcessor.init key algorithm writeIV).getCrypto lib .encrypt
          writeIV.toList, false) :=
    ⟨rfl, rfl, rfl, CryptoStreamProcessor.sends_init lib key algorithm writeIV⟩
  obtain ⟨missing, hsplit, hall⟩ := run_sent hwrites h
  rw [CryptoStreamProcessor.feed_input_init]
  have hsame : CryptoStreamProcessor.SameKey (.init key algorithm otherIV)
      (.init key algorithm writeIV) := ⟨rfl, rfl⟩
  have hback := CryptoStreamProcessor.decryptStage_encryptStage lib hsame
    (request (utf8 host) port.toNat ++ (written events).flatten)
  cases hwritten : written events with
  | nil =>
      rw [hwritten] at hsplit
      have hnothing : pieces.flatten = [] := by
        have hsent : after.sent.flatten = [] :=
          (List.append_eq_nil_iff.mp hsplit.symm).1
        rw [hsent] at harrived
        exact List.prefix_nil.mp harrived
      rw [hnothing, CryptoStreamProcessor.decryptStage_nil]
      exact ⟨List.nil_prefix, fun hne => absurd rfl hne⟩
  | cons data rest =>
      rw [hwritten] at hback
      rw [hwritten, feed_cons (outboundStage_cut _ _)] at hsplit
      have hbytes : (CryptoStreamProcessor.encryptStage lib writeIV.toList
          ((CryptoStreamProcessor.init key algorithm writeIV).getCrypto lib .encrypt
            writeIV.toList, false)
          (request (utf8 host) port.toNat ++ (data :: rest).flatten)).1 =
            after.sent.flatten ++ missing := hsplit
      rw [show (CryptoStreamProcessor.init key algorithm writeIV).writeIV = writeIV.toList
        from rfl, hbytes] at hback
      constructor
      · rw [← hback]
        exact (CryptoStreamProcessor.decryptStage_cut lib _).fst_mono _
          (harrived.trans (List.prefix_append _ _))
      · intro _ hcancelled hcomplete
        obtain ⟨hhost, hport, hport'⟩ := run_fits rfl (by rw [hwritten]; simp) h
        rw [hall hcancelled, List.append_nil] at hback
        rw [hcomplete, hback]
        have hfits : port ≤ 65535 := hport'
        exact parseRequest_request hhost (by omega) _

/-- The first block of ChaCha20, of a key and a nonce of zeros. -/
def zeroBlock : Data :=
  [0x76, 0xb8, 0xe0, 0xad, 0xa0, 0xf1, 0x3d, 0x90, 0x40, 0x5d, 0x6a, 0xe5, 0x53, 0x86, 0xbd,
   0x28, 0xbd, 0xd2, 0x19, 0xb8, 0xa0, 0x8d, 0xed, 0x1a, 0xa8, 0x36, 0xef, 0xcc, 0x8b, 0x77,
   0x0d, 0xc7, 0xda, 0x41, 0x59, 0x7c, 0x51, 0x57, 0x48, 0x8d, 0x77, 0x24, 0xe0, 0x3f, 0xb8,
   0xd8, 0x4a, 0x37, 0x6a, 0x43, 0xb8, 0xf4, 0x15, 0x18, 0xa1, 0x1c, 0xc3, 0x87, 0xb6, 0x69,
   0xb2, 0xee, 0x65, 0x86]

/-- The libraries, as far as that block is concerned. -/
def zeroLibraries : CryptoLibraries :=
  .documented (fun _ _ _ i => zeroBlock.getD i 0) (fun _ _ _ _ => 0) (fun _ block => block)
    (fun _ _ => 0) (fun _ => Vector.replicate 16 0)

/-- An adapter of that key and nonce. -/
def zeroAdapter : ShadowsocksAdapter :=
  init "a" 80 (.init (Data.zeros 32) .CHACHA20 (Vector.replicate 8 0))

/-- Two writes, and a read in between. -/
theorem sent_restored_zero :
    ∃ after, run (step zeroLibraries) zeroAdapter
        [.write [71], .didRead [0, 0], .write [69, 84]] = some after ∧
      parseRequest (feed (CryptoStreamProcessor.input zeroLibraries)
          (.init (Data.zeros 32) .CHACHA20 (Vector.replicate 8 0))
          [after.sent.flatten.take 5, after.sent.flatten.drop 5]).1 =
        some ([97], 80, [71, 69, 84]) := by
  have hrun : (run (step zeroLibraries) zeroAdapter
      [.write [71], .didRead [0, 0], .write [69, 84]]).isSome = true := by decide
  obtain ⟨after, hafter⟩ := Option.isSome_iff_exists.mp hrun
  have hflag : (run (step zeroLibraries) zeroAdapter
      [.write [71], .didRead [0, 0], .write [69, 84]]).map isCancelled = some false := by decide
  rw [hafter] at hflag
  have hcancelled : after.isCancelled = false := Option.some.inj hflag
  have hcut : ([after.sent.flatten.take 5, after.sent.flatten.drop 5] : List Data).flatten =
      after.sent.flatten := by
    simp
  exact ⟨after, hafter, (sent_restored hafter ⟨[], by simp⟩).2 (by decide) hcancelled hcut⟩

/-- **What the tunnel gets.**  The same in the other direction, whatever the
adapter writes in between, and whether it is cancelled or not. -/
theorem delivered_restored {key : Data} {algorithm : CryptoAlgorithm}
    {writeIV otherIV : Vector UInt8 (CryptoHelper.getIVLength algorithm)} {host : String}
    {port : Int} {events : List AdapterEvent} {after : ShadowsocksAdapter}
    (h : run (step lib) (init host port (.init key algorithm writeIV)) events = some after)
    {replies : List Data}
    (harrived : (received events).flatten <+:
      (feed (CryptoStreamProcessor.output lib) (.init key algorithm otherIV) replies).1) :
    after.delivered.flatten <+: replies.flatten ∧
      ((received events).flatten =
          (feed (CryptoStreamProcessor.output lib) (.init key algorithm otherIV) replies).1 →
        after.delivered.flatten = replies.flatten) := by
  have hdelivered := run_delivered
    (CryptoStreamProcessor.receives_init lib key algorithm writeIV) h
  have hnil := CryptoStreamProcessor.decryptStage_nil lib (.init key algorithm writeIV)
  rw [feed_eq (CryptoStreamProcessor.decryptStage_cut lib _) hnil] at hdelivered
  rw [show (init host port (.init key algorithm writeIV)).delivered.flatten = [] from rfl,
    List.nil_append] at hdelivered
  have hsame : CryptoStreamProcessor.SameKey (.init key algorithm writeIV)
      (.init key algorithm otherIV) := ⟨rfl, rfl⟩
  cases replies with
  | nil =>
      rw [List.prefix_nil.mp harrived, hnil] at hdelivered
      rw [hdelivered]
      exact ⟨List.nil_prefix, fun _ => rfl⟩
  | cons reply rest =>
      rw [CryptoStreamProcessor.feed_output_init] at harrived ⊢
      have hback := CryptoStreamProcessor.decryptStage_encryptStage lib hsame
        (reply :: rest).flatten
      rw [hdelivered]
      refine ⟨?_, fun hcomplete => by rw [hcomplete]; exact hback⟩
      rw [← hback]
      exact (CryptoStreamProcessor.decryptStage_cut lib _).fst_mono _ harrived

/-- A reply in three pieces, and a write in between. -/
theorem delivered_restored_zero :
    ∃ after, run (step zeroLibraries) zeroAdapter
        [.didRead [0, 0, 0, 0, 0], .write [71], .didRead [0, 0, 0, 0x3e], .didRead [0xd1]] =
          some after ∧
      after.delivered.flatten = [72, 105] := by
  have hrun : (run (step zeroLibraries) zeroAdapter
      [.didRead [0, 0, 0, 0, 0], .write [71], .didRead [0, 0, 0, 0x3e],
        .didRead [0xd1]]).isSome = true := by decide
  obtain ⟨after, hafter⟩ := Option.isSome_iff_exists.mp hrun
  have harrived : (received [.didRead [0, 0, 0, 0, 0], .write [71], .didRead [0, 0, 0, 0x3e],
      .didRead [0xd1]]).flatten =
        (feed (CryptoStreamProcessor.output zeroLibraries)
          (.init (Data.zeros 32) .CHACHA20 (Vector.replicate 8 0)) [[72], [105]]).1 := by decide
  exact ⟨after, hafter, (delivered_restored hafter ⟨[], by rw [harrived]; simp⟩).2 harrived⟩

end ShadowsocksAdapter

end QLadder
