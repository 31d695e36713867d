/-
# FidoKeyWrap.Protector — the operations of `KeyProtector`.

Creation, the three unlocks, the updates of the recipient set, and the two managed ceremonies, as
programs over their host. An operation on a borrowed envelope is a `Host` program. One that takes it
as `&mut` is a `HostMut` program over the caller's envelope: it reads it, works on a copy, and
assigns the copy in its last step.
-/
import FidoKeyWrap.Enrollment

namespace FidoKeyWrap.KeyProtector

open ByteData Interact

variable [Primitives]

/-! ## Creation -/

/-- The staging envelope of a creation: no recipients, no MAC yet. -/
def emptyEnvelope (p : KeyProtector) (envelopeId : Bytes 32) : KeyEnvelope where
  applicationId := p.applicationId
  envelopeId
  recipients := []
  mac := Bytes.zero 32

/-- The first record of a new envelope. -/
def protectRootForOperation (p : KeyProtector) (root : RootKey) (enrollment : Enrollment)
    (operation : Operation) : Host (KeyEnvelope × RecipientId) := do
  p.admitEnrollment enrollment
  let envelopeId ← randomArray 32
  let envelope := p.emptyEnvelope envelopeId
  let (record, keys, managed) ← p.enrollRecipient envelope root enrollment operation
  let staged ← p.stageEnrollment envelope record root keys managed
  return (staged, record.id)

/-- Draw a root and protect it. -/
def createRoot (p : KeyProtector) (enrollment : Enrollment) :
    Host (RootKey × KeyEnvelope × RecipientId) := do
  let root ← RootKey.random
  let (envelope, recipient) ← p.protectRootForOperation root enrollment .createRoot
  return (root, envelope, recipient)

/-- Protect a root that the caller has. -/
def protectRoot (p : KeyProtector) (root : RootKey) (enrollment : Enrollment) :
    Host (KeyEnvelope × RecipientId) :=
  p.protectRootForOperation root enrollment .protectRoot

/-- Protect a root with a recovery secret alone: no ceremony. -/
def protectRootWithRecoverySecret (p : KeyProtector) (root : RootKey) (label : String) :
    Host (KeyEnvelope × RecoverySecretRecipient) := do
  let label ← validateDedicatedLabel label
  let envelopeId ← randomArray 32
  let envelope := p.emptyEnvelope envelopeId
  let (record, secret, key) ← newRecoverySecretRecord envelope root label
  let staged ← stageRecord envelope record root (.recovery key)
  return (staged, { id := record.id, secret })

/-- Draw a root and protect it with a recovery secret. -/
def createRootWithRecoverySecret (p : KeyProtector) (label : String) :
    Host (RootKey × KeyEnvelope × RecoverySecretRecipient) := do
  let root ← RootKey.random
  let (envelope, recovery) ← p.protectRootWithRecoverySecret root label
  return (root, envelope, recovery)

/-- The first record of a new envelope, with a local secret. -/
def protectRootWithFidoAndLocalSecretForOperation (p : KeyProtector) (root : RootKey)
    (label : String) (operation : Operation) : Host (KeyEnvelope × LocalSecretRecipient) := do
  let label ← validateDedicatedLabel label
  let envelopeId ← randomArray 32
  let envelope := p.emptyEnvelope envelopeId
  let (record, secret, key) ← p.enrollFidoLocalRecipient envelope root label operation
  let staged ← stageRecord envelope record root (.fidoAndLocal key)
  return (staged, { id := record.id, secret })

/-- Draw a root and protect it with an authenticator and a local secret. -/
def createRootWithFidoAndLocalSecret (p : KeyProtector) (label : String) :
    Host (RootKey × KeyEnvelope × LocalSecretRecipient) := do
  let root ← RootKey.random
  let (envelope, recipient) ←
    p.protectRootWithFidoAndLocalSecretForOperation root label .createRoot
  return (root, envelope, recipient)

/-- Protect a root of the caller with an authenticator and a local secret. -/
def protectRootWithFidoAndLocalSecret (p : KeyProtector) (root : RootKey) (label : String) :
    Host (KeyEnvelope × LocalSecretRecipient) :=
  p.protectRootWithFidoAndLocalSecretForOperation root label .protectRoot

/-! ## Unlocking -/

/-- The `match` of `unlock`: recover the root from one record, without the final check. -/
def openRecord (p : KeyProtector) (envelope : KeyEnvelope) (record : RecipientRecord) :
    Host RootKey :=
  match record with
  | .passphrase passphraseRecord => do
    let passphrase ← requestPassphrase .unlock passphraseRecord.label .unlock
    let key ← Crypto.derivePassphraseKey record p.applicationId envelope.envelopeId passphrase
    Crypto.unwrapPassphraseRoot passphraseRecord p.applicationId envelope.envelopeId key
  | .recoverySecret _ | .fidoAndLocalSecret _ => throw .unlockFailed
  | .fido fidoRecord => do
    let prf ← p.evaluate record envelope .unlock
    let key ← Crypto.deriveFidoKey record p.applicationId envelope.envelopeId prf
    Crypto.unwrapFidoRoot fidoRecord p.applicationId envelope.envelopeId key
  | .fidoAndPassphrase combinedRecord => do
    let prf ← p.evaluate record envelope .unlock
    let fidoKey ← Crypto.deriveFidoKey record p.applicationId envelope.envelopeId prf
    let inner ←
      Crypto.unwrapCombinedOuter combinedRecord p.applicationId envelope.envelopeId fidoKey
    let passphrase ← requestPassphrase .unlock combinedRecord.label .unlock
    let passphraseKey ←
      Crypto.derivePassphraseKey record p.applicationId envelope.envelopeId passphrase
    Crypto.unwrapCombinedInner combinedRecord p.applicationId envelope.envelopeId inner
      passphraseKey

/-- The last step of every unlock: the recovered root must authenticate the whole envelope. -/
def authenticateRoot (envelope : KeyEnvelope) (root : RootKey) : Result RootKey := do
  let matched ← Crypto.envelopeMacMatches envelope root
  if matched then return root else throw .unlockFailed

/-- **`unlock`** — the selected record gives the root, and the root authenticates the envelope. -/
def unlock (p : KeyProtector) (envelope : KeyEnvelope) (recipient : RecipientId) :
    Host RootKey := do
  p.requireApplication envelope
  let record ← envelope.find recipient
  p.admitRecord record
  let root ← p.openRecord envelope record
  authenticateRoot envelope root

/-- The unlock of a recovery secret; every other record fails as an unlock. -/
def unlockWithRecoverySecret (p : KeyProtector) (envelope : KeyEnvelope)
    (recipient : RecipientId) (secret : RecoverySecret) : Result RootKey := do
  p.requireApplication envelope
  match ← (envelope.find recipient).mapError fun _ => Error.unlockFailed with
  | .recoverySecret record =>
    let key ←
      Crypto.deriveRecoverySecretKey record p.applicationId envelope.envelopeId secret
    let root ←
      Crypto.unwrapRecoverySecretRoot record p.applicationId envelope.envelopeId key
    authenticateRoot envelope root
  | _ => throw .unlockFailed

/-- The unlock of a record with a local secret; every other record fails as an unlock. -/
def unlockWithFidoAndLocalSecret (p : KeyProtector) (envelope : KeyEnvelope)
    (recipient : RecipientId) (secret : LocalSecret) : Host RootKey := do
  p.requireApplication envelope
  let record ← (envelope.find recipient).mapError fun _ => Error.unlockFailed
  match record with
  | .fidoAndLocalSecret inner =>
    let prf ← p.evaluate record envelope .unlock
    let key ← Crypto.deriveFidoLocalKey inner p.applicationId envelope.envelopeId prf secret
    let root ← Crypto.unwrapFidoLocalRoot inner p.applicationId envelope.envelopeId key
    authenticateRoot envelope root
  | _ => throw .unlockFailed

/-! ## Updates -/

/-- Add the record of an enrollment. -/
def addRecipient (p : KeyProtector) (root : RootKey) (enrollment : Enrollment) :
    HostMut RecipientId := do
  let envelope ← get
  p.requireAuthenticated envelope root
  require (envelope.recipients.length < maxRecipients) Error.tooManyRecipients
  p.admitEnrollment enrollment
  let (record, keys, managed) ← p.enrollRecipient envelope root enrollment .addRecipient
  let staged ← p.stageEnrollment envelope record root keys managed
  set staged
  return record.id

/-- Add a recovery secret. -/
def addRecoverySecret (p : KeyProtector) (root : RootKey) (label : String) :
    HostMut RecoverySecretRecipient := do
  let envelope ← get
  p.requireAuthenticated envelope root
  require (envelope.recipients.length < maxRecipients) Error.tooManyRecipients
  let label ← validateDedicatedLabel label
  let (record, secret, key) ← newRecoverySecretRecord envelope root label
  let staged ← stageRecord envelope record root (.recovery key)
  set staged
  return { id := record.id, secret }

/-- Add a record with a local secret. -/
def addFidoAndLocalSecret (p : KeyProtector) (root : RootKey) (label : String) :
    HostMut LocalSecretRecipient := do
  let envelope ← get
  p.requireAuthenticated envelope root
  require (envelope.recipients.length < maxRecipients) Error.tooManyRecipients
  let label ← validateDedicatedLabel label
  let (record, secret, key) ← p.enrollFidoLocalRecipient envelope root label .addRecipient
  let staged ← stageRecord envelope record root (.fidoAndLocal key)
  set staged
  return { id := record.id, secret }

/-- Remove a record that is not the last one. -/
def removeRecipient (p : KeyProtector) (root : RootKey) (recipient : RecipientId) :
    HostMut Unit := do
  let envelope ← get
  p.requireApplication envelope
  let index ← (Search.binarySearchByKey envelope.recipients recipient
    RecipientRecord.id).mapError fun _ => Error.recipientNotFound
  require (envelope.recipients.length ≠ 1) Error.wouldRemoveLastRecipient
  Crypto.verifyEnvelopeMac envelope root
  let staged := { envelope with recipients := envelope.recipients.eraseIdx index }
  let mac ← Crypto.computeEnvelopeMac staged root
  let staged ← canonicalize { staged with mac }
  Crypto.verifyEnvelopeMac staged root
  set staged

/-- A new passphrase record in the place of an old one. -/
def rewrapPassphraseRecord (p : KeyProtector) (envelope : KeyEnvelope) (root : RootKey)
    (old : PassphraseRecipient) (parameters : PassphraseParameters) :
    Host (RecipientRecord × RecoveryKeys) := do
  let salt ← uniqueSalt envelope
  let passphraseNonce ← freshArray old.passphraseNonce
  let replacement : PassphraseRecipient :=
    { id := old.id, label := old.label, kdf := { parameters, salt }, passphraseNonce
      wrappedRoot := Bytes.zero 48 }
  let passphrase ← requestNewPassphrase .rewrapPassphrase replacement.label
  let key ← Crypto.derivePassphraseKey (.passphrase replacement) p.applicationId
    envelope.envelopeId passphrase
  let wrappedRoot ←
    Crypto.wrapPassphraseRoot replacement p.applicationId envelope.envelopeId root key
  return (.passphrase { replacement with wrappedRoot }, .passphrase key)

/-- A new combined record in the place of an old one: the credential stays. -/
def rewrapCombinedRecord (p : KeyProtector) (envelope : KeyEnvelope) (root : RootKey)
    (old : FidoAndPassphraseRecipient) (parameters : PassphraseParameters) :
    Host (RecipientRecord × RecoveryKeys) := do
  let prfNonce ← freshArray old.prfNonce
  let fidoNonce ← freshArray old.fidoNonce
  let salt ← uniqueSalt envelope
  let passphraseNonce ← freshArray old.passphraseNonce
  let replacement : FidoAndPassphraseRecipient :=
    { id := old.id, label := old.label, credentialId := old.credentialId
      publicKey := old.publicKey, policy := old.policy, prfNonce, fidoNonce
      kdf := { parameters, salt }, passphraseNonce, wrappedRoot := Bytes.zero 64 }
  let prf ← p.evaluate (.fidoAndPassphrase replacement) envelope .rewrapPassphrase
  let fidoKey ← Crypto.deriveFidoKey (.fidoAndPassphrase replacement) p.applicationId
    envelope.envelopeId prf
  let passphrase ← requestNewPassphrase .rewrapPassphrase replacement.label
  let passphraseKey ← Crypto.derivePassphraseKey (.fidoAndPassphrase replacement)
    p.applicationId envelope.envelopeId passphrase
  let wrappedRoot ← Crypto.wrapCombinedRoot replacement p.applicationId envelope.envelopeId
    root passphraseKey fidoKey
  return (.fidoAndPassphrase { replacement with wrappedRoot }, .combined passphraseKey fidoKey)

/-- The `match` of `rewrap_passphrase_inner`. -/
def rewrapRecord (p : KeyProtector) (envelope : KeyEnvelope) (root : RootKey)
    (current : RecipientRecord) (parameters : PassphraseParameters) :
    Host (RecipientRecord × RecoveryKeys) :=
  match current with
  | .passphrase old => p.rewrapPassphraseRecord envelope root old parameters
  | .recoverySecret _ | .fidoAndLocalSecret _ => throw .recipientDoesNotUsePassphrase
  | .fido _ => throw .recipientDoesNotUsePassphrase
  | .fidoAndPassphrase old => p.rewrapCombinedRecord envelope root old parameters

/-- Replace the passphrase layer of one record, in its place. -/
def rewrapPassphraseInner (p : KeyProtector) (root : RootKey) (recipient : RecipientId)
    (parameters : PassphraseParameters) : HostMut Unit := do
  let envelope ← get
  p.requireApplication envelope
  let current ← envelope.find recipient
  require (current.policy.usesPassphrase = true) Error.recipientDoesNotUsePassphrase
  Crypto.verifyEnvelopeMac envelope root
  p.admitParameters parameters
  let (replacement, keys) ← p.rewrapRecord envelope root current parameters
  let index ← (Search.binarySearchByKey envelope.recipients recipient
    RecipientRecord.id).mapError fun _ => Error.recipientNotFound
  let staged := { envelope with recipients := envelope.recipients.set index replacement }
  let staged ← stageExistingRecord staged recipient root keys
  set staged

/-- The rewrap that keeps the parameters of the record. -/
def rewrapPassphrase (p : KeyProtector) (root : RootKey) (recipient : RecipientId) :
    HostMut Unit := do
  let envelope ← get
  p.requireApplication envelope
  let record ← envelope.find recipient
  let parameters ← okOr record.passphraseParameters Error.recipientDoesNotUsePassphrase
  p.rewrapPassphraseInner root recipient parameters

/-- The rewrap that changes them. -/
def rewrapPassphraseWithParameters (p : KeyProtector) (root : RootKey) (recipient : RecipientId)
    (parameters : PassphraseParameters) : HostMut Unit :=
  p.rewrapPassphraseInner root recipient parameters

/-! ## Managed credentials -/

/-- The checks of both managed ceremonies, and the request they send. -/
def managedRequest (p : KeyProtector) (envelope : KeyEnvelope) (root : RootKey)
    (recipient : RecipientId) (operation : Operation) : Result ManagedRequest := do
  p.requireAuthenticated envelope root
  let record ← envelope.find recipient
  match record with
  | .fido inner =>
    require (inner.storage = .managed) .recipientIsNotManaged
    return {
      credential := { applicationId := p.applicationId, recipientId := record.id
                      credentialId := inner.credentialId, publicKey := inner.publicKey
                      policy := inner.policy, label := record.label }
      operation }
  | _ => throw .recipientIsNotManaged

/-- Ask whether the authenticator still has the credential. -/
def verifyManagedRecipient (p : KeyProtector) (envelope : KeyEnvelope) (root : RootKey)
    (recipient : RecipientId) : Host Unit := do
  let request ← p.managedRequest envelope root recipient .verifyManagedRecipient
  let reply ← ask (.verifyManaged request)
  reply.result

/-- Ask the authenticator to delete the credential; the record stays. -/
def retireManagedRecipient (p : KeyProtector) (envelope : KeyEnvelope) (root : RootKey)
    (recipient : RecipientId) : Host Unit := do
  let request ← p.managedRequest envelope root recipient .retireManagedRecipient
  let reply ← ask (.retireManaged request)
  reply.result

end FidoKeyWrap.KeyProtector
