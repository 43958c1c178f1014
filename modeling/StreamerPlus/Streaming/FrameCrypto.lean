import StreamerPlus.Lib.CounterMode
import StreamerPlus.Streaming.RtpRoundTrip

/-!
# Frame encryption

`FrameCrypto` (`frame_crypto.cc`) encrypts and decrypts the payload of a frame with AES in counter
mode. The first counter block is the nonce: the low 32 bits of the frame id in bytes 8 to 11 of 16,
XORed with the mask of the stream.

`AES_ctr128_encrypt` is a function of BoringSSL and not part of the repository, so `Crypt` has it as
a parameter. That decryption undoes encryption needs the laws of a `StreamCipher` only. For the
counter blocks it is counter mode with 16-byte blocks and a 128-bit big-endian counter, over any
block cipher.

## Main results

* `FrameCrypto.used_disjoint`: frames whose ids differ modulo `2 ^ 32` share no counter block, as
  long as their payloads have at most `2 ^ 32` blocks. The nonces agree in their low 32 bits, so
  that two counters could only meet at the same distance from them.
* `FrameCrypto.crypt_collected`: decryption gives back a frame whose packets have all arrived.
-/

namespace StreamerPlus

open Checked ExpandedValue RtpPacketizer

/-- `AES_ctr128_encrypt`. `cipher` is the function under a key; its state are the arguments that it
changes, `ivec`, `ecount_buf` and `num`. `start` is what `Crypt` sets them to for a nonce. -/
structure AesCtr128 (σ : Type) where
  cipher : List UInt8 → StreamCipher σ
  start : List UInt8 → σ

/-- The block cipher: the byte of a block of key stream, from the key and the counter block. -/
abbrev BlockCipher := List UInt8 → BitVec 128 → ℕ → UInt8

/-- Counter mode, with a counter that starts at the nonce. -/
def AesCtr128.ofBlocks (aes : BlockCipher) : AesCtr128 (CounterMode 128) where
  cipher key := CounterMode.streamCipher (aes key) 16
  start nonce := { counter := BitVec.ofNat 128 (BigEndian.decode nonce) }

/-- `FrameCrypto`. -/
structure FrameCrypto where
  aesKey : List UInt8
  castIvMask : List UInt8
  length_aesKey : aesKey.length = 16
  length_castIvMask : castIvMask.length = 16

/-- The failed checks of `Crypt`. -/
inductive CryptFault
  | nullFrameId | outTooSmall | outTooLarge
  deriving DecidableEq, Repr

namespace FrameCrypto

/-- `aes_nonce` as `Crypt` computes it. -/
def aesNonce (crypto : FrameCrypto) (frameId : ℤ) : List UInt8 :=
  List.zipWith (· ^^^ ·)
    (List.replicate 8 0 ++ BigEndian.encode 4 (lowerBits 32 frameId) ++ List.replicate 4 0)
    crypto.castIvMask

variable {σ : Type} (ctr : AesCtr128 σ) (crypto : FrameCrypto)

/-- The loop of `Crypt` over the chunks, for an output of `outSize` bytes. -/
def cryptChunks (outSize : ℕ) : σ → List UInt8 → List (List UInt8) →
    Except CryptFault (List UInt8 × σ)
  | s, out, [] => .ok (out, s)
  | s, out, chunk :: chunks => do
    require (out.length + chunk.length ≤ outSize) .outTooSmall
    let (bytes, s) := (ctr.cipher crypto.aesKey).encrypt s chunk
    cryptChunks outSize s (out ++ bytes) chunks

/-- `Crypt(frame_id, chunks, out)` for an output of `outSize` bytes: the bytes written, and the last
state of `AES_ctr128_encrypt`. -/
def crypt (frameId : Option ℤ) (chunks : List (List UInt8)) (outSize : ℕ) :
    Except CryptFault (List UInt8 × σ) :=
  match frameId with
  | none => .error .nullFrameId
  | some id => do
    let (out, s) ← crypto.cryptChunks ctr outSize (ctr.start (crypto.aesNonce id)) [] chunks
    require (out.length = outSize) .outTooLarge
    return (out, s)

/-- `Encrypt(encoded_frame)`. -/
def encrypt (frame : EncodedFrame) : Except CryptFault EncryptedFrame := do
  let (data, _) ← crypto.crypt ctr (some frame.frameId) [frame.data] frame.data.length
  return { frame with data }

/-! ### The counter blocks of one frame -/

variable {ctr crypto} {aes : BlockCipher}

theorem after_cryptChunks {start : BitVec 128} {outSize n : ℕ} {s t : CounterMode 128}
    {out bytes : List UInt8} {chunks : List (List UInt8)} (h : CounterMode.After start 16 n s)
    (hcrypt : crypto.cryptChunks (.ofBlocks aes) outSize s out chunks = .ok (bytes, t)) :
    CounterMode.After start 16 (n + chunks.flatten.length) t := by
  induction chunks generalizing n s out with
  | nil =>
    cases hcrypt
    exact h
  | cons chunk chunks ih =>
    obtain ⟨-, hrest⟩ := require_bind_eq_ok.mp hcrypt
    have hafter := ih (h.encrypt (aes crypto.aesKey) chunk) hrest
    rwa [List.flatten_cons, List.length_append, ← Nat.add_assoc]

/-- The counter blocks of a frame of at most `k` blocks are the first of its nonce. -/
theorem exists_of_mem_used {frameId : ℤ} {chunks : List (List UInt8)} {outSize k : ℕ}
    {out : List UInt8} {s : CounterMode 128}
    (h : crypto.crypt (.ofBlocks aes) (some frameId) chunks outSize = .ok (out, s))
    (hsize : chunks.flatten.length ≤ k * 16) {block : BitVec 128} (hblock : block ∈ s.used) :
    ∃ i < k, BitVec.ofNat 128 (BigEndian.decode (crypto.aesNonce frameId)) + BitVec.ofNat 128 i =
      block := by
  obtain ⟨⟨bytes, t⟩, hchunks, h⟩ := bind_eq_ok.mp h
  obtain ⟨-, h⟩ := require_bind_eq_ok.mp h
  cases h
  have hafter := after_cryptChunks (CounterMode.after_zero _ (by decide)) hchunks
  obtain ⟨i, hi, heq⟩ := hafter.mem_used.mp hblock
  exact ⟨i, hi.trans_le (hafter.length_used_le (by omega)), heq⟩

/-! ### The nonces of two frames -/

theorem xor_injective (mask : UInt8) : Function.Injective (· ^^^ mask) := fun a b h => by
  simpa [UInt8.xor_assoc] using congrArg (· ^^^ mask) h

/-- Byte strings that are XORed with the same mask stay different. -/
theorem zipWith_xor_injective {xs ys mask : List UInt8} (hx : xs.length = mask.length)
    (hy : ys.length = mask.length)
    (h : List.zipWith (· ^^^ ·) xs mask = List.zipWith (· ^^^ ·) ys mask) : xs = ys := by
  refine List.ext_getElem (hx.trans hy.symm) fun i hi hi' => ?_
  have hbyte := congrArg (·[i]?) h
  simp only [List.getElem?_zipWith, List.getElem?_eq_getElem hi, List.getElem?_eq_getElem hi',
    List.getElem?_eq_getElem (hx ▸ hi)] at hbyte
  exact xor_injective _ (Option.some.inj hbyte)

theorem length_aesNonce (frameId : ℤ) : (crypto.aesNonce frameId).length = 16 := by
  simp [aesNonce, crypto.length_castIvMask]

/-- The last four bytes of a nonce are those of the mask. -/
theorem drop_aesNonce (frameId : ℤ) :
    (crypto.aesNonce frameId).drop 12 = crypto.castIvMask.drop 12 := by
  have hlength := crypto.length_castIvMask
  refine List.ext_getElem (by simp [length_aesNonce, hlength]) fun i hi hi' => ?_
  have hlt : 12 + i < crypto.castIvMask.length := by
    rw [List.length_drop] at hi'
    omega
  have hpad : (List.replicate 8 (0 : UInt8) ++ BigEndian.encode 4 (lowerBits 32 frameId) ++
      List.replicate 4 0)[12 + i]? = some 0 := by
    rw [List.getElem?_append_right (by simp)]
    simp only [List.length_append, List.length_replicate, BigEndian.length_encode]
    rw [List.getElem?_replicate, if_pos (by omega)]
  have hzip : (crypto.aesNonce frameId)[12 + i]? = some crypto.castIvMask[12 + i] := by
    rw [aesNonce, List.getElem?_zipWith, hpad, List.getElem?_eq_getElem hlt]
    simp
  rw [List.getElem_drop, List.getElem_drop]
  exact Option.some.inj ((List.getElem?_eq_getElem _).symm.trans hzip)

/-- Frames with different low bits have different nonces. -/
theorem aesNonce_injective {f g : ℤ} (h : crypto.aesNonce f = crypto.aesNonce g) :
    lowerBits 32 f = lowerBits 32 g := by
  have hbytes := zipWith_xor_injective (by simp [crypto.length_castIvMask])
    (by simp [crypto.length_castIvMask]) h
  have hencode := List.append_cancel_left (List.append_cancel_right hbytes)
  have hdecode := congrArg BigEndian.decode hencode
  have hf := lowerBits_lt 32 f
  have hg := lowerBits_lt 32 g
  rw [BigEndian.decode_encode, BigEndian.decode_encode] at hdecode
  omega

/-- Nonces agree in their low 32 bits, and differ above them if the ids do. -/
theorem decode_aesNonce {f g : ℤ} (h : lowerBits 32 f ≠ lowerBits 32 g) :
    ∃ a b low : ℕ, a ≠ b ∧ a < 2 ^ 96 ∧ b < 2 ^ 96 ∧
      BigEndian.decode (crypto.aesNonce f) = a * 2 ^ 32 + low ∧
      BigEndian.decode (crypto.aesNonce g) = b * 2 ^ 32 + low := by
  have hsplit : ∀ id, BigEndian.decode (crypto.aesNonce id) =
      BigEndian.decode ((crypto.aesNonce id).take 12) * 2 ^ 32 +
        BigEndian.decode (crypto.castIvMask.drop 12) := by
    intro id
    conv_lhs => rw [← List.take_append_drop 12 (crypto.aesNonce id)]
    rw [BigEndian.decode_append, drop_aesNonce, List.length_drop, crypto.length_castIvMask]
    norm_num
  have hlength : ∀ id, ((crypto.aesNonce id).take 12).length = 12 := fun id => by
    simp [length_aesNonce]
  have hlt : ∀ id, BigEndian.decode ((crypto.aesNonce id).take 12) < 2 ^ 96 := fun id => by
    have hdecode := BigEndian.decode_lt ((crypto.aesNonce id).take 12)
    rw [hlength] at hdecode
    omega
  refine ⟨_, _, _, fun heq => h (@aesNonce_injective crypto f g ?_), hlt f, hlt g, hsplit f,
    hsplit g⟩
  have htake := BigEndian.eq_of_decode_eq ((hlength f).trans (hlength g).symm) heq
  rw [← List.take_append_drop 12 (crypto.aesNonce f), htake, drop_aesNonce, ← drop_aesNonce g,
    List.take_append_drop]

/-! ### No counter block is used twice -/

/-- Counters that start from different multiples of `2 ^ 32` do not meet in `2 ^ 32` steps. -/
theorem add_mod_ne {a b low i j : ℕ} (hne : a ≠ b) (ha : a < 2 ^ 96) (hb : b < 2 ^ 96)
    (hi : i < 2 ^ 32) (hj : j < 2 ^ 32) :
    (a * 2 ^ 32 + low + i) % 2 ^ 128 ≠ (b * 2 ^ 32 + low + j) % 2 ^ 128 := by
  omega

/-- **Frame encryption never reuses key stream.** Whatever the key and the mask, two frames whose
ids differ modulo `2 ^ 32` share no counter block. -/
theorem used_disjoint (aes : BlockCipher) (crypto : FrameCrypto) {f g : ℤ}
    {chunks chunks' : List (List UInt8)} {outSize outSize' : ℕ} {out out' : List UInt8}
    {s s' : CounterMode 128} (hid : f % 2 ^ 32 ≠ g % 2 ^ 32)
    (hsize : chunks.flatten.length ≤ 2 ^ 32 * 16) (hsize' : chunks'.flatten.length ≤ 2 ^ 32 * 16)
    (h : crypto.crypt (.ofBlocks aes) (some f) chunks outSize = .ok (out, s))
    (h' : crypto.crypt (.ofBlocks aes) (some g) chunks' outSize' = .ok (out', s')) :
    s.used.Disjoint s'.used := by
  intro block hblock hblock'
  obtain ⟨i, hi, heq⟩ := exists_of_mem_used h hsize hblock
  obtain ⟨j, hj, heq'⟩ := exists_of_mem_used h' hsize' hblock'
  have hlower : lowerBits 32 f ≠ lowerBits 32 g := fun hl => hid (by
    rw [← cast_lowerBits, ← cast_lowerBits, hl])
  obtain ⟨a, b, low, hne, ha, hb, hf, hg⟩ := @decode_aesNonce crypto f g hlower
  have hcounter := congrArg BitVec.toNat (heq.trans heq'.symm)
  rw [hf, hg, ← BitVec.ofNat_add, ← BitVec.ofNat_add,
    BitVec.toNat_ofNat, BitVec.toNat_ofNat] at hcounter
  exact add_mod_ne hne ha hb hi hj hcounter

/-- A mask for which the counter of the first frame wraps around after one block. -/
def exampleCrypto : FrameCrypto :=
  ⟨List.replicate 16 0, List.replicate 16 0xff, rfl, rfl⟩

theorem used_disjoint_twoFrames :
    [BitVec.allOnes 128, 0].Disjoint
      [BitVec.ofNat 128 (2 ^ 128 - 1 - 2 ^ 32), BitVec.ofNat 128 (2 ^ 128 - 2 ^ 32)] :=
  @used_disjoint (fun _ _ _ => 0) exampleCrypto 0 1 [List.replicate 16 1, [1]]
    [List.replicate 20 2] 17 20 _ _ _ _ (by decide) (by decide) (by decide) rfl rfl

/-! ### Decryption -/

/-- However a text is cut into chunks, its bytes are those of the text as a whole. -/
theorem exists_cryptChunks {outSize : ℕ} {chunks : List (List UInt8)} {out : List UInt8} {s : σ}
    (h : out.length + chunks.flatten.length ≤ outSize) :
    ∃ t, crypto.cryptChunks ctr outSize s out chunks =
      .ok (out ++ ((ctr.cipher crypto.aesKey).encrypt s chunks.flatten).1, t) := by
  have hlength := (ctr.cipher crypto.aesKey).length_encrypt
  induction chunks generalizing out s with
  | nil =>
    have hnil : ((ctr.cipher crypto.aesKey).encrypt s []).1 = [] :=
      List.length_eq_zero_iff.mp (hlength s [])
    exact ⟨s, by rw [List.flatten_nil, hnil, List.append_nil, cryptChunks]⟩
  | cons chunk chunks ih =>
    rw [List.flatten_cons, List.length_append] at h
    obtain ⟨t, ht⟩ := @ih (out ++ ((ctr.cipher crypto.aesKey).encrypt s chunk).1)
      ((ctr.cipher crypto.aesKey).encrypt s chunk).2 (by rw [List.length_append, hlength]; omega)
    refine ⟨t, ?_⟩
    rw [cryptChunks, require_of (by omega), ok_bind, List.flatten_cons,
      (ctr.cipher crypto.aesKey).encrypt_append, ← List.append_assoc]
    exact ht

theorem exists_crypt {id : ℤ} {chunks : List (List UInt8)} {outSize : ℕ}
    (h : chunks.flatten.length = outSize) :
    ∃ t, crypto.crypt ctr (some id) chunks outSize =
      .ok (((ctr.cipher crypto.aesKey).encrypt (ctr.start (crypto.aesNonce id)) chunks.flatten).1,
        t) := by
  obtain ⟨t, ht⟩ := @exists_cryptChunks σ ctr crypto outSize chunks []
    (ctr.start (crypto.aesNonce id)) (by simp [h])
  refine ⟨t, ?_⟩
  rw [crypt, ht, ok_bind]
  exact require_bind_eq_ok.mpr ⟨((ctr.cipher _).length_encrypt _ _).trans h, rfl⟩

/-- Decryption undoes encryption, however the encrypted data are cut into chunks. -/
theorem crypt_of_flatten {id : ℤ} {data out : List UInt8} {s : σ}
    (h : crypto.crypt ctr (some id) [data] data.length = .ok (out, s)) :
    out.length = data.length ∧ ∀ chunks : List (List UInt8), chunks.flatten = out →
      ∃ t, crypto.crypt ctr (some id) chunks data.length = .ok (data, t) := by
  obtain ⟨t, ht⟩ := @exists_crypt σ ctr crypto id [data] data.length (by simp)
  rw [ht, List.flatten_singleton] at h
  cases h
  have hlength := (ctr.cipher crypto.aesKey).length_encrypt (ctr.start (crypto.aesNonce id)) data
  refine ⟨hlength, fun chunks hchunks => ?_⟩
  obtain ⟨u, hu⟩ := @exists_crypt σ ctr crypto id chunks data.length (by rw [hchunks, hlength])
  rw [hchunks, (ctr.cipher crypto.aesKey).encrypt_encrypt] at hu
  exact ⟨u, hu⟩

/-- **The media path.** A frame is encrypted and packetized, and its packets are parsed and
collected in any order and any number of times. Once all have arrived, decryption gives back its
data, whatever `AES_ctr128_encrypt` is as long as it is a stream cipher. The metadata are those of
the frame except that a packet has only one bit for the dependency: a frame that is no key frame
comes out as independent if it references itself, and as dependent otherwise. -/
theorem crypt_collected {p : RtpPacketizer} {frame : EncodedFrame} {encrypted : EncryptedFrame}
    {arrivals : List (ℕ × ParseResult)}
    (hencrypt : crypto.encrypt ctr frame = .ok encrypted) (h : Sendable p encrypted)
    (hlen : frame.data.length < 0x80000000)
    (ha : ∀ a ∈ arrivals, (a.1 : ℤ) < p.computeNumberOfPackets encrypted ∧
      ArrivesAs p encrypted a.1 a.2)
    (hall : ∀ i : ℕ, (i : ℤ) < p.computeNumberOfPackets encrypted → i ∈ arrivals.map Prod.fst) :
    ∃ c chunks s,
      collectAll (FrameCollector.new.setFrameId frame.frameId) (arrivals.map Prod.snd) = .ok c ∧
      c.peekFrameMetadata = .ok (collectedMetadata frame) ∧ c.getPayloadChunks = .ok chunks ∧
      crypto.crypt ctr (some frame.frameId) chunks frame.data.length = .ok (frame.data, s) := by
  obtain ⟨⟨data, s⟩, hdata, hencrypt⟩ := bind_eq_ok.mp hencrypt
  obtain ⟨rfl, hid, hmeta⟩ : encrypted.data = data ∧ encrypted.frameId = frame.frameId ∧
      collectedMetadata encrypted = collectedMetadata frame := by
    cases hencrypt
    exact ⟨rfl, rfl, rfl⟩
  obtain ⟨hlength, hdecrypt⟩ := crypt_of_flatten hdata
  rw [← hlength] at hlen
  have hs : 0 ≤ toInt32 encrypted.data.length := by
    rw [toInt32_of_lt] <;> omega
  obtain ⟨c, hc, hcomplete, hpayload⟩ := (h.roundTrips_sentData hs).collected arrivals ha
  obtain ⟨⟨chunks, hchunks, hflat⟩, hpeek⟩ := hpayload (hcomplete.mpr hall)
  rw [(sentData_eq_iff _ hs).mpr hlen] at hflat
  obtain ⟨t, ht⟩ := hdecrypt chunks hflat
  exact ⟨c, chunks, t, hid ▸ hc, hmeta ▸ hpeek, hchunks, ht⟩

/-- A cipher that turns the last byte of a counter block into key stream. -/
def exampleCipher : BlockCipher := fun _ block i => UInt8.ofNat (block.toNat + 3 * i)

/-- Five bytes are encrypted and sent in three packets, of which the last arrives first and once
more. -/
theorem crypt_collected_three_packets :
    exampleCrypto.encrypt (.ofBlocks exampleCipher) (keyFrameOf [1, 2, 3, 4, 5]) =
        .ok (keyFrameOf [254, 0, 6, 12, 14]) ∧
      ∃ (arrivals : List (ℕ × ParseResult)) (c : FrameCollector) (chunks : List ByteView)
        (s : CounterMode 128), arrivals.map Prod.fst = [2, 0, 2, 1] ∧
        collectAll (FrameCollector.new.setFrameId 0) (arrivals.map Prod.snd) = .ok c ∧
        c.getPayloadChunks = .ok chunks ∧
        exampleCrypto.crypt (.ofBlocks exampleCipher) (some 0) chunks 5 =
          .ok ([1, 2, 3, 4, 5], s) := by
  have hencrypt : exampleCrypto.encrypt (.ofBlocks exampleCipher) (keyFrameOf [1, 2, 3, 4, 5]) =
      .ok (keyFrameOf [254, 0, 6, 12, 14]) := rfl
  have hnum : smallPacketizer.computeNumberOfPackets (keyFrameOf [254, 0, 6, 12, 14]) = 3 := by
    decide
  have hsend := @sendable_keyFrameOf smallPacketizer [254, 0, 6, 12, 14] (by decide)
  obtain ⟨arrivals, hids, ha⟩ := hsend.exists_arrivals (by decide) [2, 0, 2, 1] (by decide)
  have hall : ∀ i : ℕ, (i : ℤ) < 3 → i ∈ [2, 0, 2, 1] := by
    intro i hi
    simp only [List.mem_cons, List.not_mem_nil]
    omega
  obtain ⟨c, chunks, s, hc, -, hchunks, hcrypt⟩ :=
    crypt_collected hencrypt hsend (by decide) ha (by rwa [hids, hnum])
  exact ⟨hencrypt, arrivals, c, chunks, s, hids, hc, hchunks, hcrypt⟩

end FrameCrypto

end StreamerPlus
