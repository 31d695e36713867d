/-
# FidoKeyWrap.Tool.Vector — the recorded container vector.

The tool vector of `test-vectors/` seals a secret under the passphrase vector: one more HKDF call and
one more encryption, with their recorded results. The tool itself enrolls under its own label; the
second envelope is the passphrase vector with that label, and the second encryption is under it.
-/
import FidoKeyWrap.Tool.Storage
import FidoKeyWrap.Vector

namespace FidoKeyWrap.Tool.Vector

open ByteData Framing

/-- What was sealed. -/
def plaintext : ByteString := utf8 "independent format-1 tool secret\n"

/-- The nonce of the vector. -/
def nonce : Bytes 12 := Bytes.ofNat 12 0xe0e1e2e3e4e5e6e7e8e9eaeb

/-- The key of the tool for the root of the vectors. -/
def secretKey : Bytes 32 :=
  Bytes.ofNat 32 0xddf4915aa2227a0c25b2538e2195a4591c8ca202ce122918cdd82dbd820d20be

/-- The ciphertext without its tag. -/
def body : Bytes 33 :=
  Bytes.ofNat 33 0x685af3fe899fbf2703781dd25f11e07439de2956f40228755e905eb2361d4e1742

/-- Its tag. -/
def tag : Bytes 16 := Bytes.ofNat 16 0xafc6b01ee92c8e6f1ec0b49ce114d3ed

/-- The passphrase record under the label of the tool. -/
def primaryRecord : PassphraseRecipient :=
  { FidoKeyWrap.Vector.passphraseRecord with label := "primary" }

/-- The envelope of that record, under the MAC that the primitives below compute for an envelope
without a recorded one. -/
def primaryEnvelope : KeyEnvelope where
  applicationId := FidoKeyWrap.Vector.application
  envelopeId := FidoKeyWrap.Vector.passphraseEnvelopeId
  recipients := [.passphrase primaryRecord]
  mac := Bytes.zero 32

/-- The info of the key. -/
def secretKeyInfo : ByteString :=
  frame [utf8 "fkw-tool/format_1/secret_encryption_key", FidoKeyWrap.Vector.application.asBytes]

/-- The associated data of an envelope. -/
def secretAad (envelope : ByteString) : ByteString :=
  frame [utf8 "fkw-tool/format_1/secret_aad", envelope]

/-- The calls of the vector. -/
def recording : Recording :=
  { FidoKeyWrap.Vector.recording with
    hkdf := ((FidoKeyWrap.Vector.root.toList, (Bytes.zero 32).toList, secretKeyInfo), secretKey) ::
      FidoKeyWrap.Vector.recording.hkdf
    seals :=
      { key := secretKey
        nonce
        aad := secretAad FidoKeyWrap.Vector.passphraseEnvelope.encode
        plaintext
        ciphertext := body.toList
        tag } ::
      { key := secretKey
        nonce
        aad := secretAad primaryEnvelope.encode
        plaintext
        ciphertext := body.toList
        tag := Bytes.zero 16 } :: FidoKeyWrap.Vector.recording.seals }

/-- The primitives that answer the calls of the vectors, those of the tool included. -/
@[reducible] def primitives : Primitives := recording.primitives

/-- A world that seals once under the root: the container of `primaryEnvelope`, and the wraps. -/
def sealing : Recording :=
  { recording with seals := recording.seals.tail }

/-- The draws that make the envelope of the tool: root, envelope id, record id, salt, nonce. -/
def sealingDraws : List Nat :=
  [0xe31ad9729e4d3a1c7bb215a026df86b9e1cb0130e8d8b0ae773048b99887a1c1,
    0x000102030405060708090a0b0c0d0e0f101112131415161718191a1b1c1d1e1f,
    0x101112131415161718191a1b1c1d1e1f202122232425262728292a2b2c2d2e2f,
    0xa0a1a2a3a4a5a6a7a8a9aaabacadaeaf, 0x101112131415161718191a1b]

/-- A user who types the passphrase, granted memory, a random source that plays back the draws, and
an authenticator whose PRF is zero. -/
def user : let _ := sealing.primitives; Interact.Environment host :=
  let _ := sealing.primitives
  fun past query =>
    match query with
    | .random n => some (Bytes.ofNat n (sealingDraws.getD past.length 0))
    | .reserve _ => true
    | .passphrase _ => .ok ⟨FidoKeyWrap.Vector.passphrase, FidoKeyWrap.Vector.passphrase_accepted⟩
    | .evaluate _ => { prompts := [], result := .ok (Bytes.zero 32) }
    | .enroll .. | .enrollManaged .. | .evaluateManagedEnrollment .. | .cleanupManagedEnrollment ..
    | .verifyManaged _ | .retireManaged _ =>
      { prompts := [], result := .error .noCompatibleAuthenticator }

/-- A system where every name is free, every file is private and holds the content, and the random
source repeats the nonce. -/
def system (content : ByteString) : Interact.Environment os := fun _ call =>
  match call with
  | .random n => some (Bytes.ofNat n 0xe0e1e2e3e4e5e6e7e8e9eaeb)
  | .metadata _ => .ok ⟨true, false, 0o700, 0⟩
  | .symlinkMetadata _ => .error .notFound
  | .openRead _ | .createNew _ _ | .openDirectory _ => .ok 3
  | .fileMetadata _ => .ok ⟨false, true, privateMode, UInt64.ofNat content.length⟩
  | .readToEnd _ limit => .ok (content.take limit)
  | .setPermissions _ _ | .writeAll _ _ | .syncAll _ | .removeFile _ | .hardLink _ _ => .ok ()

end FidoKeyWrap.Tool.Vector
