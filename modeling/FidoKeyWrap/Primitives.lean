/-
# FidoKeyWrap.Primitives — the third-party functions, as parameters.

CBOR reading, P-256 points, SHA-256, HMAC, HKDF, AES-256-GCM and Argon2id come from libraries that
are not part of this repository. `Primitives` is one choice of them: functions with the types the
code calls them at, a failing call being `none` or `false`. Every definition below takes an
arbitrary choice. What a result needs of them — a decoder that reads what the encoder wrote, an
authenticated decryption that accepts only what was encrypted, a hash without collisions on the
inputs at hand — is a hypothesis of that result.
-/
import FidoKeyWrap.Lib.Cbor

namespace FidoKeyWrap

open ByteData

/-- One choice of the third-party functions. -/
class Primitives where
  /-- `minicbor::Decoder`. -/
  cbor : Cbor.Decoder
  /-- `p256::PublicKey::from_sec1_bytes` succeeds. -/
  sec1Accepts : ByteString → Bool
  /-- `Sha256::digest`. -/
  sha256 : ByteString → Bytes 32
  /-- `Hmac::<Sha256>`: key, message. -/
  hmacSha256 : ByteString → ByteString → Option (Bytes 32)
  /-- `Hkdf::<Sha256>`, extract and expand to 32 bytes: input key material, salt, info. An absent
  salt is 32 zero bytes. -/
  hkdfSha256 : ByteString → ByteString → ByteString → Option (Bytes 32)
  /-- `Aes256Gcm::new_from_slice` accepts the key. -/
  aes256Accepts : ByteString → Bool
  /-- `encrypt_in_place_detached`: key, nonce, associated data, plaintext; ciphertext and tag. -/
  aesGcmEncrypt : {n : Nat} → Bytes 32 → Bytes 12 → ByteString → Bytes n →
    Option (Bytes n × Bytes 16)
  /-- `decrypt_in_place_detached`: key, nonce, associated data, ciphertext and tag. -/
  aesGcmDecrypt : {n : Nat} → Bytes 32 → Bytes 12 → ByteString → Bytes n → Bytes 16 →
    Option (Bytes n)
  /-- `argon2::Params::new` with 32 output bytes, and the block count of the result: memory,
  passes, lanes. -/
  argon2BlockCount : UInt32 → UInt32 → UInt32 → Option Nat
  /-- Argon2id, version `0x13`, 32 output bytes: memory, passes, lanes, passphrase, salt. -/
  argon2id : UInt32 → UInt32 → UInt32 → ByteString → Bytes 16 → Option (Bytes 32)
  /-- The open authenticator session behind a managed enrollment. -/
  ManagedSession : Type

/-- HMAC takes keys of every length, and HKDF expands to 32 bytes under every info. -/
structure Primitives.HashesTotal [Primitives] : Prop where
  hmac : ∀ key message, ∃ mac, Primitives.hmacSha256 key message = some mac
  hkdf : ∀ ikm salt info, ∃ key, Primitives.hkdfSha256 ikm salt info = some key

/-- Decryption inverts encryption. -/
def AeadInverts [Primitives] : Prop :=
  ∀ {n : Nat} (key : Bytes 32) (nonce : Bytes 12) (aad : ByteString) (plaintext body : Bytes n)
    (tag : Bytes 16), Primitives.aesGcmEncrypt key nonce aad plaintext = some (body, tag) →
      Primitives.aesGcmDecrypt key nonce aad body tag = some plaintext

/-! ## Recorded calls -/

/-- One authenticated encryption: its key, nonce, associated data, plaintext, ciphertext, tag. -/
structure RecordedSeal where
  key : Bytes 32
  nonce : Bytes 12
  aad : ByteString
  plaintext : ByteString
  ciphertext : ByteString
  tag : Bytes 16

/-- A finite recording of third-party calls and their results. -/
structure Recording where
  points : List ByteString := []
  sha256 : List (ByteString × Bytes 32) := []
  hmac : List ((ByteString × ByteString) × Bytes 32) := []
  hkdf : List ((ByteString × ByteString × ByteString) × Bytes 32) := []
  seals : List RecordedSeal := []
  argon2id : List ((UInt32 × UInt32 × UInt32 × ByteString × Bytes 16) × Bytes 32) := []

/-- The primitives that answer recorded calls as recorded, with the reference reader for CBOR. Every
other hash is zero; every other call fails. -/
@[reducible] def Recording.primitives (r : Recording) : Primitives where
  cbor := Cbor.Decoder.reference
  sec1Accepts point := point ∈ r.points
  sha256 message := (r.sha256.lookup message).getD (Bytes.zero 32)
  hmacSha256 key message := some ((r.hmac.lookup (key, message)).getD (Bytes.zero 32))
  hkdfSha256 ikm salt info := some ((r.hkdf.lookup (ikm, salt, info)).getD (Bytes.zero 32))
  aes256Accepts key := key.length = 32
  aesGcmEncrypt {n} key nonce aad plaintext := do
    let found ← r.seals.find? fun s =>
      s.key = key ∧ s.nonce = nonce ∧ s.aad = aad ∧ s.plaintext = plaintext.toList
    let ciphertext ← Bytes.ofList? n found.ciphertext
    return (ciphertext, found.tag)
  aesGcmDecrypt {n} key nonce aad ciphertext tag := do
    let found ← r.seals.find? fun s =>
      s.key = key ∧ s.nonce = nonce ∧ s.aad = aad ∧ s.ciphertext = ciphertext.toList ∧ s.tag = tag
    Bytes.ofList? n found.plaintext
  argon2BlockCount memory _ _ := some memory.toNat
  argon2id memory passes lanes passphrase salt :=
    r.argon2id.lookup (memory, passes, lanes, passphrase, salt)
  ManagedSession := Unit

theorem Recording.hashesTotal (r : Recording) : @Primitives.HashesTotal r.primitives :=
  @Primitives.HashesTotal.mk r.primitives (fun _ _ => ⟨_, rfl⟩) fun _ _ _ => ⟨_, rfl⟩

/-- A recording whose ciphertexts are distinct inverts what it encrypted. -/
theorem aeadInverts_of_recording (recording : Recording)
    (distinct : (recording.seals.map fun s => s.ciphertext ++ s.tag.toList).Nodup) :
    @AeadInverts recording.primitives := by
  intro n key nonce aad plaintext body tag h
  obtain ⟨s, hs, hseal⟩ := Option.bind_eq_some_iff.mp h
  obtain ⟨ciphertext, hciphertext, hpair⟩ := Option.bind_eq_some_iff.mp hseal
  obtain ⟨rfl, rfl⟩ := Prod.mk.inj (Option.some.inj hpair)
  have hcall := List.find?_some hs
  simp only [decide_eq_true_eq] at hcall
  obtain ⟨rfl, rfl, rfl, hplaintext⟩ := hcall
  have hbody := Bytes.ofList?_eq_some.mp hciphertext
  -- the recorded encryption is the only one with its ciphertext
  have hfind : recording.seals.find? (fun s' => s'.key = s.key ∧ s'.nonce = s.nonce ∧
      s'.aad = s.aad ∧ s'.ciphertext = ciphertext.toList ∧ s'.tag = s.tag) = some s := by
    have hsome : (recording.seals.find? (fun s' => s'.key = s.key ∧ s'.nonce = s.nonce ∧
        s'.aad = s.aad ∧ s'.ciphertext = ciphertext.toList ∧ s'.tag = s.tag)).isSome := by
      rw [List.find?_isSome]
      exact ⟨s, List.mem_of_find?_eq_some hs, by simp [hbody]⟩
    obtain ⟨s', hs'⟩ := Option.isSome_iff_exists.mp hsome
    have hcall' := List.find?_some hs'
    simp only [decide_eq_true_eq] at hcall'
    have hsame : s' = s := by
      apply List.inj_on_of_nodup_map distinct (List.mem_of_find?_eq_some hs')
        (List.mem_of_find?_eq_some hs)
      rw [hcall'.2.2.2.1, hcall'.2.2.2.2, hbody]
    rw [hs', hsame]
  exact Option.bind_eq_some_iff.mpr ⟨s, hfind, Bytes.ofList?_eq_some.mpr hplaintext⟩

end FidoKeyWrap
