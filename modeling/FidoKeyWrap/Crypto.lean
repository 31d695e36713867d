/-
# FidoKeyWrap.Crypto — contexts, key derivation, wrapping, and the whole-envelope MAC.

Every key and every ciphertext is bound to a recipient context: the hash of a transcript that
starts with one domain, the format and a suite code. Keys come from HKDF under the envelope id,
with an info transcript of a purpose domain and the context; ciphertexts are AES-256-GCM under an
associated-data transcript of a layer domain and the context. The envelope MAC is HMAC of the
canonical body under a key derived from the root.

Only the passphrase derivation asks its host for anything: the memory of one Argon2 run.
-/
import FidoKeyWrap.Environment
import FidoKeyWrap.Transcript

namespace FidoKeyWrap.Crypto

open ByteData Interact

variable [Primitives]

/-- The format number, as a transcript field. -/
def format : ByteString := [1]
/-- The suite of a passphrase record. -/
def passphraseSuite : ByteString := [1]
/-- The suite of a record whose credential stays with the application. -/
def fidoSuite : ByteString := [2]
/-- The suite of a record that needs an authenticator and a passphrase. -/
def combinedSuite : ByteString := [3]
/-- The suite of a recovery secret. -/
def recoverySecretSuite : ByteString := [4]
/-- The suite of a credential that the authenticator keeps. -/
def managedFidoSuite : ByteString := [5]
/-- The suite of a record that needs an authenticator and a secret of this machine. -/
def fidoAndLocalSecretSuite : ByteString := [6]
/-- The code of Argon2id. -/
def argon2idKdf : ByteString := [1]
/-- The length of a root. -/
def rootBytes : Nat := 32
/-- The length of an AES-GCM tag. -/
def tagBytes : Nat := 16

/-! ## Domains -/

/-- The domain of every context transcript. -/
def recipientContextDomain : ByteString := utf8 "fido_key_wrap/format_1/recipient_context"
/-- The domain of the PRF input. -/
def prfInputDomain : ByteString := utf8 "fido_key_wrap/format_1/prf_input"
/-- The domain of the key of a passphrase, alone or combined. -/
def passphraseKeyDomain : ByteString := utf8 "fido_key_wrap/format_1/passphrase_key"
/-- The domain of the key of a PRF result. -/
def fidoKeyDomain : ByteString := utf8 "fido_key_wrap/format_1/fido_key"
/-- The domain of the subkey of the authenticator, next to a local secret. -/
def fidoLocalFidoKeyDomain : ByteString := utf8 "fido_key_wrap/format_1/fido_local_fido_key"
/-- The domain of the subkey of the local secret. -/
def fidoLocalSecretKeyDomain : ByteString := utf8 "fido_key_wrap/format_1/fido_local_secret_key"
/-- The domain of the key of both subkeys. -/
def fidoLocalCombinedKeyDomain : ByteString :=
  utf8 "fido_key_wrap/format_1/fido_local_combined_key"
/-- The domain of the key of a recovery secret. -/
def recoverySecretKeyDomain : ByteString := utf8 "fido_key_wrap/format_1/recovery_secret_key"
/-- The layer under a passphrase alone. -/
def passphraseAadDomain : ByteString := utf8 "fido_key_wrap/format_1/passphrase_aad"
/-- The layer under an authenticator alone. -/
def fidoAadDomain : ByteString := utf8 "fido_key_wrap/format_1/fido_aad"
/-- The layer under an authenticator and a local secret. -/
def fidoLocalAadDomain : ByteString := utf8 "fido_key_wrap/format_1/fido_local_aad"
/-- The layer under a recovery secret. -/
def recoverySecretAadDomain : ByteString := utf8 "fido_key_wrap/format_1/recovery_secret_aad"
/-- The inner layer of a combined record. -/
def combinedPassphraseAadDomain : ByteString :=
  utf8 "fido_key_wrap/format_1/combined_passphrase_aad"
/-- The outer layer of a combined record. -/
def combinedFidoAadDomain : ByteString := utf8 "fido_key_wrap/format_1/combined_fido_aad"
/-- The domain of the key of the envelope MAC. -/
def envelopeMacKeyDomain : ByteString := utf8 "fido_key_wrap/format_1/envelope_mac_key"
/-- The domain of the message of the envelope MAC. -/
def envelopeMacDomain : ByteString := utf8 "fido_key_wrap/format_1/envelope_mac"

/-- A short-lived key derived for one exact recipient layer. -/
@[ext] structure DerivedKey where
  asBytes : Bytes 32
  deriving DecidableEq

/-! ## Context transcripts -/

/-- `u32::to_be_bytes`. -/
def toBeBytes (value : UInt32) : ByteString := beBytes 4 value.toNat

/-- Binds the label, as the suite with a local secret does. -/
def recoverySecretContextTranscript (recipient : RecoverySecretRecord)
    (application : ApplicationId) (envelopeId : Bytes 32) : Result ByteString :=
  Transcript.encode
    [recipientContextDomain, format, recoverySecretSuite, application.asBytes, envelopeId.toList,
      recipient.id.asBytes.toList, utf8 recipient.label, recipient.recoveryNonce.toList]

/-- Binds the parameters and the salt of the Argon2 run; the label is not bound. -/
def passphraseContextTranscript (recipient : PassphraseRecipient) (application : ApplicationId)
    (envelopeId : Bytes 32) : Result ByteString :=
  let memory := toBeBytes recipient.kdf.parameters.memoryKib
  let passes := toBeBytes recipient.kdf.parameters.passes
  let lanes := [recipient.kdf.parameters.lanes]
  Transcript.encode
    [recipientContextDomain, format, passphraseSuite, application.asBytes, envelopeId.toList,
      recipient.id.asBytes.toList, argon2idKdf, memory, passes, lanes,
      recipient.kdf.salt.toList, recipient.passphraseNonce.toList]

/-- Binds the credential and its policy; the suite says whether the authenticator keeps it. -/
def fidoContextTranscript (recipient : FidoRecipient) (application : ApplicationId)
    (envelopeId : Bytes 32) : Result ByteString :=
  let policy := [recipient.policy.code]
  let suite := match recipient.storage with
    | .nonDiscoverable => fidoSuite
    | .managed => managedFidoSuite
  Transcript.encode
    [recipientContextDomain, format, suite, application.asBytes, envelopeId.toList,
      recipient.id.asBytes.toList, recipient.credentialId, recipient.publicKey.asBytes.toList,
      policy, recipient.prfNonce.toList, recipient.fidoNonce.toList]

/-- Binds what both factors bind. -/
def combinedContextTranscript (recipient : FidoAndPassphraseRecipient)
    (application : ApplicationId) (envelopeId : Bytes 32) : Result ByteString :=
  let policy := [recipient.policy.code]
  let memory := toBeBytes recipient.kdf.parameters.memoryKib
  let passes := toBeBytes recipient.kdf.parameters.passes
  let lanes := [recipient.kdf.parameters.lanes]
  Transcript.encode
    [recipientContextDomain, format, combinedSuite, application.asBytes, envelopeId.toList,
      recipient.id.asBytes.toList, recipient.credentialId, recipient.publicKey.asBytes.toList,
      policy, recipient.prfNonce.toList, recipient.fidoNonce.toList, argon2idKdf, memory, passes,
      lanes, recipient.kdf.salt.toList, recipient.passphraseNonce.toList]

/-- Binds the label and the credential; the policy is always presence. -/
def fidoLocalContextTranscript (recipient : FidoAndLocalSecretRecipient)
    (application : ApplicationId) (envelopeId : Bytes 32) : Result ByteString :=
  Transcript.encode
    [recipientContextDomain, format, fidoAndLocalSecretSuite, application.asBytes,
      envelopeId.toList, recipient.id.asBytes.toList, utf8 recipient.label,
      recipient.credentialId, recipient.publicKey.asBytes.toList, recipient.prfNonce.toList,
      recipient.wrapNonce.toList]

/-- The transcript of the suite of the record. -/
def recipientContextTranscript (recipient : RecipientRecord) (application : ApplicationId)
    (envelopeId : Bytes 32) : Result ByteString :=
  match recipient with
  | .passphrase record => passphraseContextTranscript record application envelopeId
  | .recoverySecret record => recoverySecretContextTranscript record application envelopeId
  | .fido record => fidoContextTranscript record application envelopeId
  | .fidoAndPassphrase record => combinedContextTranscript record application envelopeId
  | .fidoAndLocalSecret record => fidoLocalContextTranscript record application envelopeId

/-- **The recipient context** — the hash that every key and ciphertext of a record is bound to. -/
def recipientContext (recipient : RecipientRecord) (application : ApplicationId)
    (envelopeId : Bytes 32) : Result (Bytes 32) := do
  let encoded ← recipientContextTranscript recipient application envelopeId
  return Primitives.sha256 encoded

/-- The context of a passphrase record. -/
def passphraseContext (recipient : PassphraseRecipient) (application : ApplicationId)
    (envelopeId : Bytes 32) : Result (Bytes 32) := do
  return Primitives.sha256 (← passphraseContextTranscript recipient application envelopeId)

/-- The context of a FIDO record. -/
def fidoContext (recipient : FidoRecipient) (application : ApplicationId)
    (envelopeId : Bytes 32) : Result (Bytes 32) := do
  return Primitives.sha256 (← fidoContextTranscript recipient application envelopeId)

/-- The context of a recovery secret. -/
def recoverySecretContext (recipient : RecoverySecretRecord) (application : ApplicationId)
    (envelopeId : Bytes 32) : Result (Bytes 32) := do
  return Primitives.sha256 (← recoverySecretContextTranscript recipient application envelopeId)

/-- The context of a combined record. -/
def combinedContext (recipient : FidoAndPassphraseRecipient) (application : ApplicationId)
    (envelopeId : Bytes 32) : Result (Bytes 32) := do
  return Primitives.sha256 (← combinedContextTranscript recipient application envelopeId)

/-- The context of a record with a local secret. -/
def fidoLocalContext (recipient : FidoAndLocalSecretRecipient) (application : ApplicationId)
    (envelopeId : Bytes 32) : Result (Bytes 32) := do
  return Primitives.sha256 (← fidoLocalContextTranscript recipient application envelopeId)

/-! ## The PRF input -/

/-- What is hashed to the salt of the authenticator. -/
def prfInputTranscript (context : Bytes 32) : Result ByteString :=
  Transcript.encode [prfInputDomain, context.toList]

/-- The salt that the authenticator gets; a record without a credential has none. -/
def prfInput (recipient : RecipientRecord) (application : ApplicationId)
    (envelopeId : Bytes 32) : Result (Bytes 32) := do
  match recipient with
  | .passphrase _ | .recoverySecret _ => throw .invalidEnvelope
  | _ =>
    let context ← recipientContext recipient application envelopeId
    let encoded ← prfInputTranscript context
    return Primitives.sha256 encoded

/-! ## Key derivation -/

/-- HKDF-SHA256 to 32 bytes. -/
def deriveKey (ikm salt info : ByteString) : Result DerivedKey := do
  let output ← okOr (Primitives.hkdfSha256 ikm salt info) .invalidEnvelope
  return ⟨output⟩

/-- Argon2id of a passphrase. The block count must be the recorded memory, and the memory is
reserved before anything is computed. -/
def argon2Output (passphrase : Passphrase) (kdf : KdfDescriptor) : Host (Bytes 32) := do
  let memory := kdf.parameters.memoryKib
  let passes := kdf.parameters.passes
  let lanes := kdf.parameters.lanes.toUInt32
  let blockCount ← okOr (Primitives.argon2BlockCount memory passes lanes) Error.invalidEnvelope
  require (blockCount = memory.toNat) Error.invalidEnvelope
  let reserved ← ask (.reserve blockCount)
  require (reserved = true) Error.kdfResourceUnavailable
  okOr (Primitives.argon2id memory passes lanes passphrase.asBytes kdf.salt) Error.unlockFailed

/-- The derivation after the suite check. -/
def derivePassphraseKeyFrom (kdf : KdfDescriptor) (recipient : RecipientRecord)
    (application : ApplicationId) (envelopeId : Bytes 32) (passphrase : Passphrase) :
    Host DerivedKey := do
  let context ← recipientContext recipient application envelopeId
  let intermediate ← argon2Output passphrase kdf
  let info ← Transcript.encode [passphraseKeyDomain, context.toList]
  deriveKey intermediate.toList envelopeId.toList info

/-- The passphrase key of a record that has a passphrase. -/
def derivePassphraseKey (recipient : RecipientRecord) (application : ApplicationId)
    (envelopeId : Bytes 32) (passphrase : Passphrase) : Host DerivedKey :=
  match recipient with
  | .passphrase record =>
    derivePassphraseKeyFrom record.kdf recipient application envelopeId passphrase
  | .fidoAndPassphrase record =>
    derivePassphraseKeyFrom record.kdf recipient application envelopeId passphrase
  | .recoverySecret _ | .fido _ | .fidoAndLocalSecret _ => throw .invalidEnvelope

/-- The key of a PRF result; the suite with a local secret has its own derivation. -/
def deriveFidoKey (recipient : RecipientRecord) (application : ApplicationId)
    (envelopeId : Bytes 32) (verifiedPrfResult : Bytes 32) : Result DerivedKey := do
  match recipient with
  | .fido _ | .fidoAndPassphrase _ =>
    let context ← recipientContext recipient application envelopeId
    let info ← Transcript.encode [fidoKeyDomain, context.toList]
    deriveKey verifiedPrfResult.toList envelopeId.toList info
  | _ => throw .invalidEnvelope

/-- The subkey of the authenticator's PRF result. -/
def fidoLocalFidoKey (context envelopeId verifiedPrfResult : Bytes 32) : Result DerivedKey := do
  let fidoInfo ← Transcript.encode [fidoLocalFidoKeyDomain, context.toList]
  deriveKey verifiedPrfResult.toList envelopeId.toList fidoInfo

/-- The subkey of the local secret. -/
def fidoLocalSecretKey (context envelopeId : Bytes 32) (localSecret : LocalSecret) :
    Result DerivedKey := do
  let localInfo ← Transcript.encode [fidoLocalSecretKeyDomain, context.toList]
  deriveKey localSecret.bytes.toList envelopeId.toList localInfo

/-- The key of both subkeys. -/
def fidoLocalCombinedKey (context : Bytes 32) (fidoKey localKey : DerivedKey) :
    Result DerivedKey := do
  let combinedInfo ← Transcript.encode [fidoLocalCombinedKeyDomain, context.toList]
  deriveKey fidoKey.asBytes.toList localKey.asBytes.toList combinedInfo

/-- The key of a record with a local secret, from both of its factors. -/
def deriveFidoLocalKey (recipient : FidoAndLocalSecretRecipient) (application : ApplicationId)
    (envelopeId : Bytes 32) (verifiedPrfResult : Bytes 32) (localSecret : LocalSecret) :
    Result DerivedKey := do
  let context ← fidoLocalContext recipient application envelopeId
  let fidoKey ← fidoLocalFidoKey context envelopeId verifiedPrfResult
  let localKey ← fidoLocalSecretKey context envelopeId localSecret
  fidoLocalCombinedKey context fidoKey localKey

/-- The key of a recovery secret. -/
def deriveRecoverySecretKey (recipient : RecoverySecretRecord) (application : ApplicationId)
    (envelopeId : Bytes 32) (secret : RecoverySecret) : Result DerivedKey := do
  let context ← recoverySecretContext recipient application envelopeId
  let info ← Transcript.encode [recoverySecretKeyDomain, context.toList]
  deriveKey secret.bytes.toList envelopeId.toList info

/-! ## Authenticated encryption of fixed sizes -/

/-- Encrypt `p` bytes into `c`, ciphertext then tag. -/
def encryptFixed {p : Nat} (c : Nat) (key : DerivedKey) (nonce : Bytes 12) (plaintext : Bytes p)
    (aad : ByteString) : Result (Bytes c) :=
  if h : c = p + tagBytes then do
    require (Primitives.aes256Accepts key.asBytes.toList = true) .invalidEnvelope
    let (ciphertext, tag) ←
      okOr (Primitives.aesGcmEncrypt key.asBytes nonce aad plaintext) .invalidEnvelope
    return ⟨ciphertext.toList ++ tag.toList, by simp [h, tagBytes]⟩
  else throw .invalidEnvelope

/-- Decrypt `c` bytes, ciphertext then tag, into `p`. -/
def decryptFixed (p : Nat) {c : Nat} (key : DerivedKey) (nonce : Bytes 12) (ciphertext : Bytes c)
    (aad : ByteString) : Result (Bytes p) :=
  if h : c = p + tagBytes then do
    require (Primitives.aes256Accepts key.asBytes.toList = true) .invalidEnvelope
    let body : Bytes p := ⟨ciphertext.toList.take p, by simp [h]⟩
    let tag : Bytes 16 := ⟨ciphertext.toList.drop p, by simp [h, tagBytes]⟩
    okOr (Primitives.aesGcmDecrypt key.asBytes nonce aad body tag) .unlockFailed
  else throw .invalidEnvelope

/-! ## Wrapping -/

/-- Encrypt the root under the passphrase key. -/
def wrapPassphraseRoot (recipient : PassphraseRecipient) (application : ApplicationId)
    (envelopeId : Bytes 32) (root : RootKey) (key : DerivedKey) : Result (Bytes 48) := do
  let context ← passphraseContext recipient application envelopeId
  let aad ← Transcript.encode [passphraseAadDomain, context.toList]
  encryptFixed 48 key recipient.passphraseNonce root.bytes aad

/-- Decrypt what `wrapPassphraseRoot` encrypted. -/
def unwrapPassphraseRoot (recipient : PassphraseRecipient) (application : ApplicationId)
    (envelopeId : Bytes 32) (key : DerivedKey) : Result RootKey := do
  let context ← passphraseContext recipient application envelopeId
  let aad ← Transcript.encode [passphraseAadDomain, context.toList]
  let root ← decryptFixed rootBytes key recipient.passphraseNonce recipient.wrappedRoot aad
  return ⟨root⟩

/-- Encrypt the root under the key of the recovery secret. -/
def wrapRecoverySecretRoot (recipient : RecoverySecretRecord) (application : ApplicationId)
    (envelopeId : Bytes 32) (root : RootKey) (key : DerivedKey) : Result (Bytes 48) := do
  let context ← recoverySecretContext recipient application envelopeId
  let aad ← Transcript.encode [recoverySecretAadDomain, context.toList]
  encryptFixed 48 key recipient.recoveryNonce root.bytes aad

/-- Decrypt what `wrapRecoverySecretRoot` encrypted. -/
def unwrapRecoverySecretRoot (recipient : RecoverySecretRecord) (application : ApplicationId)
    (envelopeId : Bytes 32) (key : DerivedKey) : Result RootKey := do
  let context ← recoverySecretContext recipient application envelopeId
  let aad ← Transcript.encode [recoverySecretAadDomain, context.toList]
  let root ← decryptFixed rootBytes key recipient.recoveryNonce recipient.wrappedRoot aad
  return ⟨root⟩

/-- Encrypt the root under the key of the PRF result. -/
def wrapFidoRoot (recipient : FidoRecipient) (application : ApplicationId)
    (envelopeId : Bytes 32) (root : RootKey) (key : DerivedKey) : Result (Bytes 48) := do
  let context ← fidoContext recipient application envelopeId
  let aad ← Transcript.encode [fidoAadDomain, context.toList]
  encryptFixed 48 key recipient.fidoNonce root.bytes aad

/-- Decrypt what `wrapFidoRoot` encrypted. -/
def unwrapFidoRoot (recipient : FidoRecipient) (application : ApplicationId)
    (envelopeId : Bytes 32) (key : DerivedKey) : Result RootKey := do
  let context ← fidoContext recipient application envelopeId
  let aad ← Transcript.encode [fidoAadDomain, context.toList]
  let root ← decryptFixed rootBytes key recipient.fidoNonce recipient.wrappedRoot aad
  return ⟨root⟩

/-- Encrypt the root under the key of both factors. -/
def wrapFidoLocalRoot (recipient : FidoAndLocalSecretRecipient) (application : ApplicationId)
    (envelopeId : Bytes 32) (root : RootKey) (key : DerivedKey) : Result (Bytes 48) := do
  let context ← fidoLocalContext recipient application envelopeId
  let aad ← Transcript.encode [fidoLocalAadDomain, context.toList]
  encryptFixed 48 key recipient.wrapNonce root.bytes aad

/-- Decrypt what `wrapFidoLocalRoot` encrypted. -/
def unwrapFidoLocalRoot (recipient : FidoAndLocalSecretRecipient) (application : ApplicationId)
    (envelopeId : Bytes 32) (key : DerivedKey) : Result RootKey := do
  let context ← fidoLocalContext recipient application envelopeId
  let aad ← Transcript.encode [fidoLocalAadDomain, context.toList]
  let root ← decryptFixed rootBytes key recipient.wrapNonce recipient.wrappedRoot aad
  return ⟨root⟩

/-- The inner layer: the root under the passphrase key. -/
def wrapCombinedInner (recipient : FidoAndPassphraseRecipient) (application : ApplicationId)
    (envelopeId : Bytes 32) (root : RootKey) (passphraseKey : DerivedKey) :
    Result (Bytes 48) := do
  let context ← combinedContext recipient application envelopeId
  let aad ← Transcript.encode [combinedPassphraseAadDomain, context.toList]
  encryptFixed 48 passphraseKey recipient.passphraseNonce root.bytes aad

/-- The outer layer: the inner ciphertext under the key of the PRF result. -/
def wrapCombinedOuter (recipient : FidoAndPassphraseRecipient) (application : ApplicationId)
    (envelopeId : Bytes 32) (inner : Bytes 48) (fidoKey : DerivedKey) : Result (Bytes 64) := do
  let context ← combinedContext recipient application envelopeId
  let aad ← Transcript.encode [combinedFidoAadDomain, context.toList]
  encryptFixed 64 fidoKey recipient.fidoNonce inner aad

/-- Both layers. -/
def wrapCombinedRoot (recipient : FidoAndPassphraseRecipient) (application : ApplicationId)
    (envelopeId : Bytes 32) (root : RootKey) (passphraseKey fidoKey : DerivedKey) :
    Result (Bytes 64) := do
  let inner ← wrapCombinedInner recipient application envelopeId root passphraseKey
  wrapCombinedOuter recipient application envelopeId inner fidoKey

/-- Open the outer layer, which needs the authenticator only. -/
def unwrapCombinedOuter (recipient : FidoAndPassphraseRecipient) (application : ApplicationId)
    (envelopeId : Bytes 32) (fidoKey : DerivedKey) : Result (Bytes 48) := do
  let context ← combinedContext recipient application envelopeId
  let aad ← Transcript.encode [combinedFidoAadDomain, context.toList]
  decryptFixed 48 fidoKey recipient.fidoNonce recipient.wrappedRoot aad

/-- Open the inner layer, which needs the passphrase. -/
def unwrapCombinedInner (recipient : FidoAndPassphraseRecipient) (application : ApplicationId)
    (envelopeId : Bytes 32) (inner : Bytes 48) (passphraseKey : DerivedKey) :
    Result RootKey := do
  let context ← combinedContext recipient application envelopeId
  let aad ← Transcript.encode [combinedPassphraseAadDomain, context.toList]
  let root ← decryptFixed rootBytes passphraseKey recipient.passphraseNonce inner aad
  return ⟨root⟩

/-! ## The whole-envelope MAC -/

/-- The key of the MAC, derived from the root. -/
def envelopeMacKey (envelope : KeyEnvelope) (root : RootKey) : Result DerivedKey := do
  let keyInfo ←
    Transcript.encode [envelopeMacKeyDomain, format, envelope.applicationId.asBytes]
  deriveKey root.bytes.toList envelope.envelopeId.toList keyInfo

/-- **The envelope MAC** — HMAC of the canonical body under the key of the root. -/
def computeEnvelopeMac (envelope : KeyEnvelope) (root : RootKey) : Result (Bytes 32) := do
  let key ← envelopeMacKey envelope root
  let canonicalBody := envelope.canonicalBody
  let message ← Transcript.encode [envelopeMacDomain, format, canonicalBody]
  okOr (Primitives.hmacSha256 key.asBytes.toList message) .invalidEnvelope

/-- Compare the MAC that the root gives with the stored one. -/
def envelopeMacMatches (envelope : KeyEnvelope) (root : RootKey) : Result Bool := do
  let expected ← computeEnvelopeMac envelope root
  return decide (expected = envelope.mac)

/-- `envelopeMacMatches` as a check. -/
def verifyEnvelopeMac (envelope : KeyEnvelope) (root : RootKey) : Result Unit := do
  let matched ← envelopeMacMatches envelope root
  require (matched = true) .envelopeAuthenticationFailed

/-! ## What the checks establish -/

theorem deriveKey_eq_ok {ikm salt info : ByteString} {key : DerivedKey} :
    deriveKey ikm salt info = .ok key ↔ Primitives.hkdfSha256 ikm salt info = some key.asBytes := by
  simp only [deriveKey, except_bind_eq_ok, okOr_eq_ok, except_pure_eq_ok]
  constructor
  · rintro ⟨output, houtput, rfl⟩
    exact houtput
  · intro h
    exact ⟨key.asBytes, h, rfl⟩

theorem envelopeMacMatches_eq_ok_true {e : KeyEnvelope} {root : RootKey} :
    envelopeMacMatches e root = .ok true ↔ computeEnvelopeMac e root = .ok e.mac := by
  simp only [envelopeMacMatches, except_bind_eq_ok, except_pure_eq_ok, eq_comm (a := true),
    decide_eq_true_eq]
  constructor
  · rintro ⟨mac, hmac, rfl⟩
    exact hmac
  · intro h
    exact ⟨e.mac, h, rfl⟩

/-- An envelope verifies exactly when its MAC is the computed one. -/
theorem verifyEnvelopeMac_eq_ok {e : KeyEnvelope} {root : RootKey} {u : Unit} :
    verifyEnvelopeMac e root = .ok u ↔ computeEnvelopeMac e root = .ok e.mac := by
  rw [← envelopeMacMatches_eq_ok_true]
  simp only [verifyEnvelopeMac, except_bind_eq_ok, require_eq_ok, exists_eq_right]

/-! ## The passphrase derivation as a function -/

/-- The KDF descriptor of a passphrase-bearing record. -/
def recipientKdf : RecipientRecord → Option KdfDescriptor
  | .passphrase record => some record.kdf
  | .recoverySecret _ | .fido _ | .fidoAndLocalSecret _ => none
  | .fidoAndPassphrase record => some record.kdf

/-- The output of `argon2Output` when its memory is granted. -/
def argon2Of (passphrase : Passphrase) (kdf : KdfDescriptor) : Result (Bytes 32) := do
  let memory := kdf.parameters.memoryKib
  let passes := kdf.parameters.passes
  let lanes := kdf.parameters.lanes.toUInt32
  let blockCount ← okOr (Primitives.argon2BlockCount memory passes lanes) Error.invalidEnvelope
  require (blockCount = memory.toNat) Error.invalidEnvelope
  okOr (Primitives.argon2id memory passes lanes passphrase.asBytes kdf.salt) Error.unlockFailed

/-- The key of `derivePassphraseKey` when its memory is granted. -/
def passphraseKeyOf (recipient : RecipientRecord) (application : ApplicationId)
    (envelopeId : Bytes 32) (passphrase : Passphrase) : Result DerivedKey := do
  let kdf ← okOr (recipientKdf recipient) Error.invalidEnvelope
  let context ← recipientContext recipient application envelopeId
  let intermediate ← argon2Of passphrase kdf
  let info ← Transcript.encode [passphraseKeyDomain, context.toList]
  deriveKey intermediate.toList envelopeId.toList info

theorem runs_argon2Output_ok {p : Passphrase} {kdf : KdfDescriptor} {t : Trace host}
    {out : Bytes 32} :
    (argon2Output p kdf).run.Runs t (.ok out) ↔
      argon2Of p kdf = .ok out ∧ t = [⟨.reserve kdf.parameters.memoryKib.toNat, true⟩] := by
  unfold argon2Output argon2Of
  simp only [↓Fallible.runs_except_bind_ok, Fallible.runs_bind_ok, except_bind_eq_ok,
    require_eq_ok, Fallible.runs_except]
  constructor
  · rintro ⟨n, hn, -, rfl, t₁, reserved, t₂, rfl, hask, -, hreserved, rfl, hout⟩
    obtain ⟨reply, rfl, hreply⟩ := runs_ask.mp hask
    cases hreply
    subst hreserved
    exact ⟨⟨_, hn, (), rfl, hout.symm⟩, rfl⟩
  · rintro ⟨⟨n, hn, -, rfl, hout⟩, rfl⟩
    exact ⟨_, hn, (), rfl, [⟨.reserve _, true⟩], true, [], rfl, runs_ask.mpr ⟨true, rfl, rfl⟩, (),
      rfl, rfl, hout.symm⟩

/-- **The derivation is a function of the passphrase**: a successful run asks for memory once, gets
it, and returns the key of `passphraseKeyOf`. -/
theorem runs_derivePassphraseKey_ok {r : RecipientRecord} {a : ApplicationId} {d : Bytes 32}
    {p : Passphrase} {t : Trace host} {key : DerivedKey} :
    (derivePassphraseKey r a d p).run.Runs t (.ok key) ↔
      passphraseKeyOf r a d p = .ok key ∧
        ∃ kdf, recipientKdf r = some kdf ∧
          t = [⟨.reserve kdf.parameters.memoryKib.toNat, true⟩] := by
  have hfrom : derivePassphraseKey r a d p =
      (do
        let kdf ← okOr (recipientKdf r) Error.invalidEnvelope
        derivePassphraseKeyFrom kdf r a d p) := by
    cases r <;> rfl
  -- the suites differ only in where the descriptor comes from
  rw [hfrom]
  unfold derivePassphraseKeyFrom passphraseKeyOf
  simp only [↓Fallible.runs_except_bind_ok, Fallible.runs_bind_ok, runs_argon2Output_ok,
    okOr_eq_ok, except_bind_eq_ok, Fallible.runs_except]
  constructor
  · rintro ⟨kdf, hkdf, context, hcontext, t₁, out, t₂, rfl, ⟨hout, rfl⟩, info, hinfo, rfl, hkey⟩
    exact ⟨⟨kdf, hkdf, context, hcontext, out, hout, info, hinfo, hkey.symm⟩, kdf, hkdf, rfl⟩
  · rintro ⟨⟨kdf, hkdf, context, hcontext, out, hout, info, hinfo, hkey⟩, kdf', hkdf', rfl⟩
    rw [hkdf] at hkdf'
    cases hkdf'
    exact ⟨kdf, hkdf, context, hcontext, _, out, [], rfl, ⟨hout, rfl⟩, info, hinfo, rfl, hkey.symm⟩

end FidoKeyWrap.Crypto
