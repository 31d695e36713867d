/-
# FidoKeyWrap.Vector — three recorded format-1 vectors.

The recovery-secret and the passphrase vector of `test-vectors/`: the fields of the two envelopes,
and every third-party call their derivations make, with its recorded result. They are the concrete
inputs on which the general results below are instantiated. Both envelopes protect one root for
one application, so together they are also the smallest case of two authenticated envelopes with
the same root. The third envelope is the recovery-secret vector after a second recovery secret was
added to it. The vector of a security key and a passphrase has a recording of its own.
-/
import FidoKeyWrap.Environment
import FidoKeyWrap.Lib.Framing

namespace FidoKeyWrap.Vector

open ByteData Framing

/-! ## The envelopes -/

/-- The application of all vectors. -/
def application : ApplicationId := ⟨"vectors.fido-key-wrap.example", by decide⟩

/-- The root of all vectors. -/
def root : Bytes 32 :=
  Bytes.ofNat 32 0xe31ad9729e4d3a1c7bb215a026df86b9e1cb0130e8d8b0ae773048b99887a1c1

/-- The recovery secret. -/
def recoverySecret : Bytes 32 :=
  Bytes.ofNat 32 0x52573676774a9737524bda064c56c097f060e523e22b5b7ae29329cf01bf87a7

/-- The id of the recovery-secret envelope. -/
def recoveryEnvelopeId : Bytes 32 :=
  Bytes.ofNat 32 0xa0a1a2a3a4a5a6a7a8a9aaabacadaeafb0b1b2b3b4b5b6b7b8b9babbbcbdbebf

/-- Its record. -/
def recoveryRecord : RecoverySecretRecord where
  id := ⟨Bytes.ofNat 32 0xb0b1b2b3b4b5b6b7b8b9babbbcbdbebfc0c1c2c3c4c5c6c7c8c9cacbcccdcecf⟩
  label := "recovery secret"
  recoveryNonce := Bytes.ofNat 12 0xe0e1e2e3e4e5e6e7e8e9eaeb
  wrappedRoot := Bytes.ofNat 48
    0x2314e80eb39bed03a8d7decc820a44a54953cbd812f528d17c07faf824c66d80d697d78cbe3aad48c0c9aa68dc5eed1c

/-- The recovery-secret vector. -/
def recoveryEnvelope : KeyEnvelope where
  applicationId := application
  envelopeId := recoveryEnvelopeId
  recipients := [.recoverySecret recoveryRecord]
  mac := Bytes.ofNat 32 0xb5e1fe4af5b0d9a79fe6be370ea18803ab956296ea368f7a4620a1dc28847549

/-- The second recovery secret. -/
def addedSecret : Bytes 32 :=
  Bytes.ofNat 32 0x303132333435363738393a3b3c3d3e3f404142434445464748494a4b4c4d4e4f

/-- Its record. -/
def addedRecord : RecoverySecretRecord where
  id := ⟨Bytes.ofNat 32 0x505152535455565758595a5b5c5d5e5f606162636465666768696a6b6c6d6e6f⟩
  label := "second secret"
  recoveryNonce := Bytes.ofNat 12 0x707172737475767778797a7b
  wrappedRoot := Bytes.ofNat 48
    0xdb92fb2e6f308deb6f4a572dec843a0c00ad2ea085a9906f2fa30294233d5cabda6a5e2406217d6d9a485e63637ae63e

/-- The recovery-secret vector after the second secret was added. -/
def extendedEnvelope : KeyEnvelope where
  applicationId := application
  envelopeId := recoveryEnvelopeId
  recipients := [.recoverySecret addedRecord, .recoverySecret recoveryRecord]
  mac := Bytes.ofNat 32 0x40fe8e28fea5fcb18e3b022a1c10c7db79fd0504d814a0593375bd4af0a3b6b5

/-- The passphrase. -/
def passphrase : ByteString := utf8 "correct horse battery staple"

theorem passphrase_accepted :
    passphrase ≠ [] ∧ passphrase.length ≤ Passphrase.maxBytes := by
  decide

/-- The id of the passphrase envelope. -/
def passphraseEnvelopeId : Bytes 32 :=
  Bytes.ofNat 32 0x000102030405060708090a0b0c0d0e0f101112131415161718191a1b1c1d1e1f

/-- Its record. -/
def passphraseRecord : PassphraseRecipient where
  id := ⟨Bytes.ofNat 32 0x101112131415161718191a1b1c1d1e1f202122232425262728292a2b2c2d2e2f⟩
  label := "passphrase"
  kdf := { parameters := .desktop, salt := Bytes.ofNat 16 0xa0a1a2a3a4a5a6a7a8a9aaabacadaeaf }
  passphraseNonce := Bytes.ofNat 12 0x101112131415161718191a1b
  wrappedRoot := Bytes.ofNat 48
    0x1a0e0dc75fcc2e7010cc31c49f8215fe7d215d4627496b87e383905c1b313cfd6217dc993c3862053c61be5b81c9bc0a

/-- The passphrase vector. -/
def passphraseEnvelope : KeyEnvelope where
  applicationId := application
  envelopeId := passphraseEnvelopeId
  recipients := [.passphrase passphraseRecord]
  mac := Bytes.ofNat 32 0x46d3364898cef12d937cd3b90f972c03dcb17575da42622d64baa085411b7d09

/-! ## The recorded calls -/

/-- The context of the recovery secret. -/
def recoveryContext : Bytes 32 :=
  Bytes.ofNat 32 0xc6189442b076c87290e992d1d58db703b95d06d595cb59ea1ecf0ecd17cfb21d

/-- The key of the recovery secret. -/
def recoveryKey : Bytes 32 :=
  Bytes.ofNat 32 0x8e32d2338c415895779365f05ca42e3d3ad5728f68a8a55705c839b8388011b2

/-- The MAC key of the recovery-secret envelope. -/
def recoveryMacKey : Bytes 32 :=
  Bytes.ofNat 32 0x2b2c2e0558ea3804b7b49f6bcf51d92f5c009ef4224f65ea35dff61900f1df71

/-- The context of the second recovery secret. -/
def addedContext : Bytes 32 :=
  Bytes.ofNat 32 0x2ed657c5ce984e9a2aeb51aa72daa310b5206852a7e4167fe8f2427618f09409

/-- The key of the second recovery secret. -/
def addedKey : Bytes 32 :=
  Bytes.ofNat 32 0xba412c2c58593603ad858eb28cea1f8b796c15f3694492c119332a715b63965b

/-- The context of the passphrase. -/
def passphraseContext : Bytes 32 :=
  Bytes.ofNat 32 0x823f8305fe8caa8b9ad3002f8a2eb85c27c17041b784445c7898162311815e49

/-- What Argon2id makes of the passphrase. -/
def argon2Output : Bytes 32 :=
  Bytes.ofNat 32 0xc412e64344af5b3d64193e35f04dcc78e8fc2016be6c0193d1d38e9b6bca8acc

/-- The key of the passphrase. -/
def passphraseKey : Bytes 32 :=
  Bytes.ofNat 32 0x9e6c01d9e44e856f068fa2ae6cf07ef527b6ad97b34bd411a2df3422a88d1000

/-- The MAC key of the passphrase envelope. -/
def passphraseMacKey : Bytes 32 :=
  Bytes.ofNat 32 0xa54de3ec22f424e710c065235885c151d75e73763c50518b5a3c47c2df3b6fa2

/-- A domain of format 1, by its last part. -/
def domain (name : String) : ByteString := utf8 ("fido_key_wrap/format_1/" ++ name)

/-- The context transcript of a recovery secret. -/
def recoveryTranscript (record : RecoverySecretRecord) : ByteString :=
  frame [domain "recipient_context", [1], [4], application.asBytes, recoveryEnvelopeId.toList,
    record.id.asBytes.toList, utf8 record.label, record.recoveryNonce.toList]

/-- The context transcript of the passphrase. -/
def passphraseTranscript : ByteString :=
  frame [domain "recipient_context", [1], [1], application.asBytes, passphraseEnvelopeId.toList,
    passphraseRecord.id.asBytes.toList, [1], beBytes 4 262144, beBytes 4 3, [4],
    passphraseRecord.kdf.salt.toList, passphraseRecord.passphraseNonce.toList]

/-- The info of the MAC keys. -/
def macKeyInfo : ByteString := frame [domain "envelope_mac_key", [1], application.asBytes]

/-- The message of an envelope MAC. -/
def macTranscript (envelope : KeyEnvelope) : ByteString :=
  frame [domain "envelope_mac", [1], envelope.canonicalBody]

/-- The calls of the vectors. -/
def recording : Recording where
  sha256 :=
    [(recoveryTranscript recoveryRecord, recoveryContext),
      (recoveryTranscript addedRecord, addedContext), (passphraseTranscript, passphraseContext)]
  hkdf :=
    [((recoverySecret.toList, recoveryEnvelopeId.toList,
        frame [domain "recovery_secret_key", recoveryContext.toList]), recoveryKey),
      ((addedSecret.toList, recoveryEnvelopeId.toList,
        frame [domain "recovery_secret_key", addedContext.toList]), addedKey),
      ((argon2Output.toList, passphraseEnvelopeId.toList,
        frame [domain "passphrase_key", passphraseContext.toList]), passphraseKey),
      ((root.toList, recoveryEnvelopeId.toList, macKeyInfo), recoveryMacKey),
      ((root.toList, passphraseEnvelopeId.toList, macKeyInfo), passphraseMacKey)]
  hmac :=
    [((recoveryMacKey.toList, macTranscript recoveryEnvelope), recoveryEnvelope.mac),
      ((recoveryMacKey.toList, macTranscript extendedEnvelope), extendedEnvelope.mac),
      ((passphraseMacKey.toList, macTranscript passphraseEnvelope), passphraseEnvelope.mac)]
  seals :=
    [{ key := recoveryKey
       nonce := recoveryRecord.recoveryNonce
       aad := frame [domain "recovery_secret_aad", recoveryContext.toList]
       plaintext := root.toList
       ciphertext := recoveryRecord.wrappedRoot.toList.take 32
       tag := Bytes.ofNat 16 0xd697d78cbe3aad48c0c9aa68dc5eed1c },
      { key := addedKey
        nonce := addedRecord.recoveryNonce
        aad := frame [domain "recovery_secret_aad", addedContext.toList]
        plaintext := root.toList
        ciphertext := addedRecord.wrappedRoot.toList.take 32
        tag := Bytes.ofNat 16 0xda6a5e2406217d6d9a485e63637ae63e },
      { key := passphraseKey
        nonce := passphraseRecord.passphraseNonce
        aad := frame [domain "passphrase_aad", passphraseContext.toList]
        plaintext := root.toList
        ciphertext := passphraseRecord.wrappedRoot.toList.take 32
        tag := Bytes.ofNat 16 0x6217dc993c3862053c61be5b81c9bc0a }]
  argon2id := [((262144, 3, 4, passphrase, passphraseRecord.kdf.salt), argon2Output)]

/-- The primitives that answer the calls of the vectors. -/
@[reducible] def primitives : Primitives := recording.primitives

/-- A user who types the passphrase at every prompt, granted memory, a random source stuck at zero,
and no authenticator. -/
def environment : let _ := primitives; Interact.Environment host :=
  let _ := primitives
  fun _ query =>
    match query with
    | .random n => some (Bytes.zero n)
    | .reserve _ => true
    | .passphrase _ => .ok ⟨passphrase, passphrase_accepted⟩
    | .enroll .. | .enrollManaged .. | .evaluate _ | .evaluateManagedEnrollment ..
    | .cleanupManagedEnrollment .. | .verifyManaged _ | .retireManaged _ =>
      { prompts := [], result := .error .noCompatibleAuthenticator }

/-- The same user, with a random source that plays back the draws and is then stuck at zero. -/
def replay (draws : List Nat) : let _ := primitives; Interact.Environment host :=
  let _ := primitives
  fun past query =>
    match query with
    | .random n => some (Bytes.ofNat n (draws.getD past.length 0))
    | query => environment past query

/-- The draws that made the recovery-secret vector: envelope id, secret, record id, nonce. -/
def creationDraws : List Nat :=
  [0xa0a1a2a3a4a5a6a7a8a9aaabacadaeafb0b1b2b3b4b5b6b7b8b9babbbcbdbebf,
    0x52573676774a9737524bda064c56c097f060e523e22b5b7ae29329cf01bf87a7,
    0xb0b1b2b3b4b5b6b7b8b9babbbcbdbebfc0c1c2c3c4c5c6c7c8c9cacbcccdcecf,
    0xe0e1e2e3e4e5e6e7e8e9eaeb]

/-- The draws of the second recovery secret: secret, record id, nonce. -/
def additionDraws : List Nat :=
  [0x303132333435363738393a3b3c3d3e3f404142434445464748494a4b4c4d4e4f,
    0x505152535455565758595a5b5c5d5e5f606162636465666768696a6b6c6d6e6f,
    0x707172737475767778797a7b]

/-! ## The combined vector -/

/-- The id of the combined envelope. -/
def combinedEnvelopeId : Bytes 32 :=
  Bytes.ofNat 32 0x606162636465666768696a6b6c6d6e6f707172737475767778797a7b7c7d7e7f

/-- The wrapped root of a combined record, encrypted under the passphrase key only. -/
def combinedInner : Bytes 48 :=
  Bytes.ofNat 48
    0x376c2a40573d79da003bbbf7e2c45c47026132470e3ab2163ef3de961fa59adb42c2c4887482f6ca01a02cf5a7219cd7

/-- Its record. -/
def combinedRecord : FidoAndPassphraseRecipient where
  id := ⟨Bytes.ofNat 32 0x707172737475767778797a7b7c7d7e7f808182838485868788898a8b8c8d8e8f⟩
  label := "presence plus passphrase"
  credentialId := (Bytes.ofNat 16 0x606162636465666768696a6b6c6d6e6f).toList
  publicKey := ⟨Bytes.ofNat 64
    0x5ecbe4d1a6330a44c8f7ef951d4bf165e6c6b721efada985fb41661bc6e7fd6c8734640c4998ff7e374b06ce1a64a2ecd82ab036384fb83d9a79b127a27d5032⟩
  policy := .presence
  prfNonce := Bytes.ofNat 32 0x808182838485868788898a8b8c8d8e8f909192939495969798999a9b9c9d9e9f
  fidoNonce := Bytes.ofNat 12 0x707172737475767778797a7b
  kdf := { parameters := .desktop, salt := Bytes.ofNat 16 0xb0b1b2b3b4b5b6b7b8b9babbbcbdbebf }
  passphraseNonce := Bytes.ofNat 12 0x909192939495969798999a9b
  wrappedRoot := Bytes.ofNat 64
    0x8fbe96f25416d49789d87041e2436b138a2abfa7a0cd7b80511d999b44c549af492989992ba3f6e9d1c432de0668507a6c3f82163269f289d229945de4ca29a2

/-- The combined vector. -/
def combinedEnvelope : KeyEnvelope where
  applicationId := application
  envelopeId := combinedEnvelopeId
  recipients := [.fidoAndPassphrase combinedRecord]
  mac := Bytes.ofNat 32 0x8c4546080bbe7af724a88316d4f37e1d591411658f6d66cc8af719226aa57ebb

/-- The PRF result of its credential. -/
def combinedPrf : Bytes 32 :=
  Bytes.ofNat 32 0x202122232425262728292a2b2c2d2e2f303132333435363738393a3b3c3d3e3f

/-- Its context. -/
def combinedContext : Bytes 32 :=
  Bytes.ofNat 32 0x5126d38f11776643241f2ca71f2eed28cf2569d1a11928a3bcf16d5a3e0e5bdd

/-- What Argon2id makes of its passphrase. -/
def combinedArgon2Output : Bytes 32 :=
  Bytes.ofNat 32 0xb199719bc76993659c1b979fc911ac8c1d27cee10204bbb39221b53b18ec78f6

/-- The key of its inner layer. -/
def combinedPassphraseKey : Bytes 32 :=
  Bytes.ofNat 32 0xbd9a9a56714b9526a63c6d737cc948a51925c52a3eeb31c92ab815259ea202d3

/-- The key of its outer layer. -/
def combinedFidoKey : Bytes 32 :=
  Bytes.ofNat 32 0x25fa69093afc184a06272880dca209fc8bce3c06ea50b207f778e1594ec177cf

/-- Its MAC key. -/
def combinedMacKey : Bytes 32 :=
  Bytes.ofNat 32 0xb94c03fa03f24c1d7df30b74aa6defe1d6ca6528d319ded1c4e4142b8e9ba69b

/-- Its context transcript. -/
def combinedTranscript : ByteString :=
  frame [domain "recipient_context", [1], [3], application.asBytes, combinedEnvelopeId.toList,
    combinedRecord.id.asBytes.toList, combinedRecord.credentialId,
    combinedRecord.publicKey.asBytes.toList, [1], combinedRecord.prfNonce.toList,
    combinedRecord.fidoNonce.toList, [1], beBytes 4 262144, beBytes 4 3, [4],
    combinedRecord.kdf.salt.toList, combinedRecord.passphraseNonce.toList]

/-- The calls of the combined vector. -/
def combinedRecording : Recording where
  sha256 :=
    [(combinedTranscript, combinedContext),
      (frame [domain "prf_input", combinedContext.toList],
        Bytes.ofNat 32 0xf628ce23ecec45f81740fb57ebae450488ae01f780f89b57d034ecae424ea122)]
  hkdf :=
    [((combinedPrf.toList, combinedEnvelopeId.toList,
        frame [domain "fido_key", combinedContext.toList]), combinedFidoKey),
      ((combinedArgon2Output.toList, combinedEnvelopeId.toList,
        frame [domain "passphrase_key", combinedContext.toList]), combinedPassphraseKey),
      ((root.toList, combinedEnvelopeId.toList, macKeyInfo), combinedMacKey)]
  hmac := [((combinedMacKey.toList, macTranscript combinedEnvelope), combinedEnvelope.mac)]
  seals :=
    [{ key := combinedPassphraseKey
       nonce := combinedRecord.passphraseNonce
       aad := frame [domain "combined_passphrase_aad", combinedContext.toList]
       plaintext := root.toList
       ciphertext := combinedInner.toList.take 32
       tag := Bytes.ofNat 16 0x42c2c4887482f6ca01a02cf5a7219cd7 },
      { key := combinedFidoKey
        nonce := combinedRecord.fidoNonce
        aad := frame [domain "combined_fido_aad", combinedContext.toList]
        plaintext := combinedInner.toList
        ciphertext := combinedRecord.wrappedRoot.toList.take 48
        tag := Bytes.ofNat 16 0x6c3f82163269f289d229945de4ca29a2 }]
  argon2id := [((262144, 3, 4, passphrase, combinedRecord.kdf.salt), combinedArgon2Output)]

/-- A user who types the passphrase, granted memory, a random source stuck at zero, and an
authenticator that has the credential of the combined record. -/
def combinedEnvironment : let _ := combinedRecording.primitives; Interact.Environment host :=
  let _ := combinedRecording.primitives
  fun _ query =>
    match query with
    | .random n => some (Bytes.zero n)
    | .reserve _ => true
    | .passphrase _ => .ok ⟨passphrase, passphrase_accepted⟩
    | .enroll .. =>
      { prompts := [], result := .ok ⟨combinedRecord.credentialId, combinedRecord.publicKey⟩ }
    | .evaluate _ => { prompts := [], result := .ok combinedPrf }
    | .enrollManaged .. | .evaluateManagedEnrollment .. | .cleanupManagedEnrollment ..
    | .verifyManaged _ | .retireManaged _ =>
      { prompts := [], result := .error .noCompatibleAuthenticator }

end FidoKeyWrap.Vector
