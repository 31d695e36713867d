/-
# FidoKeyWrap.Enrollment — making a new record and staging the envelope that holds it.

The private half of `KeyProtector`. Each suite has its own enrollment: it draws the record's id,
salt and nonces, runs the ceremonies of its factors, derives its keys and wraps the root. All of
them end in staging: the candidate envelope gets its MAC, is encoded and decoded, and its new
record must give back the root with the keys just derived. A managed credential whose enrollment
fails after it was made is cleaned up.

The protector itself has no state: its backend belongs to the host.
-/
import FidoKeyWrap.Crypto

namespace FidoKeyWrap

open ByteData Interact

variable [Primitives]

/-- How often a search draws before it gives up. -/
def randomAttempts : Nat := 32

/-- **`KeyProtector`** — one application's protector, without its backend. -/
structure KeyProtector where
  applicationId : ApplicationId
  passphraseLimits : PassphraseLimits
  deriving DecidableEq

/-- A new recovery-secret recipient and its secret. -/
structure RecoverySecretRecipient where
  id : RecipientId
  secret : RecoverySecret
  deriving DecidableEq

/-- A new local-secret recipient and its secret. -/
structure LocalSecretRecipient where
  id : RecipientId
  secret : LocalSecret
  deriving DecidableEq

/-- The keys a record was wrapped under. -/
inductive RecoveryKeys where
  | passphrase (key : Crypto.DerivedKey)
  | recovery (key : Crypto.DerivedKey)
  | fido (key : Crypto.DerivedKey)
  | fidoAndLocal (key : Crypto.DerivedKey)
  | combined (passphrase fido : Crypto.DerivedKey)

/-! ## Free functions -/

/-- Unwrap a record with the keys of its own suite. -/
def recoverWithKeys (record : RecipientRecord) (applicationId : ApplicationId)
    (envelopeId : Bytes 32) (keys : RecoveryKeys) : Result RootKey :=
  match record, keys with
  | .passphrase record, .passphrase key =>
    Crypto.unwrapPassphraseRoot record applicationId envelopeId key
  | .recoverySecret record, .recovery key =>
    Crypto.unwrapRecoverySecretRoot record applicationId envelopeId key
  | .fido record, .fido key => Crypto.unwrapFidoRoot record applicationId envelopeId key
  | .fidoAndLocalSecret record, .fidoAndLocal key =>
    Crypto.unwrapFidoLocalRoot record applicationId envelopeId key
  | .fidoAndPassphrase record, .combined passphrase fido => do
    let inner ← Crypto.unwrapCombinedOuter record applicationId envelopeId fido
    Crypto.unwrapCombinedInner record applicationId envelopeId inner passphrase
  | _, _ => throw .invalidEnvelope

/-- The label of an operation that has no enrollment. -/
def validateDedicatedLabel (label : String) : Result String := do
  require (validateLabel label = true) .invalidLabel
  return label

/-- Ask the user for one passphrase. -/
def requestPassphrase (operation : Operation) (label : String) (purpose : PassphrasePurpose) :
    Host Passphrase := do
  let reply ← ask (.passphrase { operation, label, purpose })
  reply.mapError Error.interaction

/-- Ask twice, and want the same answer. -/
def requestNewPassphrase (operation : Operation) (label : String) : Host Passphrase := do
  let passphrase ← requestPassphrase operation label .new
  let confirmation ← requestPassphrase operation label .confirm
  require (passphrase.confirmationMatches confirmation = true)
    Error.passphraseConfirmationMismatch
  return passphrase

/-- Encode and decode: what cannot be read back is not staged. -/
def canonicalize (envelope : KeyEnvelope) : Result KeyEnvelope := KeyEnvelope.decode envelope.encode

/-- `constant_time_eq` of two roots. -/
def rootsMatch (left right : RootKey) : Bool := decide (left.bytes = right.bytes)

/-- Draw until the value differs from the old one. -/
def freshArray {n : Nat} (old : Bytes n) : Host (Bytes n) :=
  attempts (randomArray n) (fun value => decide (value ≠ old)) Error.randomUnavailable
    randomAttempts

/-- A new root. -/
def RootKey.random : Host RootKey := do return ⟨← randomArray 32⟩

/-- A new recovery secret. -/
def RecoverySecret.random : Host RecoverySecret := do return ⟨← randomArray 32⟩

/-- A new local secret. -/
def LocalSecret.random : Host LocalSecret := do return ⟨← randomArray 32⟩

namespace KeyProtector

/-! ## Unique random values -/

/-- Draw until no record has the id. -/
def uniqueRecipientId (envelope : KeyEnvelope) : Host RecipientId :=
  attempts (do return ⟨← randomArray 32⟩) (fun id => !(envelope.find id).isOk)
    Error.randomUnavailable randomAttempts

/-- Draw until no passphrase of the envelope has the salt. -/
def uniqueSalt (envelope : KeyEnvelope) : Host (Bytes 16) :=
  attempts (randomArray 16)
    (fun salt => !envelope.recipients.any fun record => match record with
      | .passphrase inner => inner.kdf.salt == salt
      | .recoverySecret _ | .fido _ | .fidoAndLocalSecret _ => false
      | .fidoAndPassphrase inner => inner.kdf.salt == salt)
    Error.randomUnavailable randomAttempts

/-- The id of a new credential: not empty, not too long, and in no other record. -/
def validateCredential (envelope : KeyEnvelope) (credentialId : ByteString) : Result Unit :=
  require (¬ (credentialId = [] ∨ maxCredentialId < credentialId.length ∨
    (envelope.recipients.any fun record => match record with
      | .passphrase _ | .recoverySecret _ => false
      | .fido inner => inner.credentialId == credentialId
      | .fidoAndPassphrase inner => inner.credentialId == credentialId
      | .fidoAndLocalSecret inner => inner.credentialId == credentialId) = true))
    .authenticatorResponseInvalid

/-! ## Admission -/

/-- The envelope is one of this application. -/
def requireApplication (p : KeyProtector) (envelope : KeyEnvelope) : Result Unit :=
  require (envelope.applicationId = p.applicationId) .applicationMismatch

/-- The envelope is one of this application, under the root that the caller brought. -/
def requireAuthenticated (p : KeyProtector) (envelope : KeyEnvelope) (root : RootKey) :
    Result Unit := do
  p.requireApplication envelope
  Crypto.verifyEnvelopeMac envelope root

/-- The limits of the protector bound the cost of an Argon2 run. -/
def admitParameters (p : KeyProtector) (parameters : PassphraseParameters) : Result Unit :=
  require (p.passphraseLimits.accepts parameters = true) .passphraseLimitExceeded

/-- An enrollment is admitted before anything is asked for it. -/
def admitEnrollment (p : KeyProtector) (enrollment : Enrollment) : Result Unit :=
  match enrollment.parameters with
  | some parameters => p.admitParameters parameters
  | none => return ()

/-- A record is admitted before its passphrase is asked for. -/
def admitRecord (p : KeyProtector) (record : RecipientRecord) : Result Unit :=
  match record.passphraseParameters with
  | some parameters => p.admitParameters parameters
  | none => return ()

/-! ## The PRF -/

/-- The request for the PRF of one record: none for a record without a credential. -/
def prfRequest (p : KeyProtector) (record : RecipientRecord) (envelope : KeyEnvelope)
    (operation : Operation) : Result PrfRequest := do
  let (credentialId, publicKey, policy) ← match record with
    | .passphrase _ | .recoverySecret _ => throw .invalidEnvelope
    | .fido inner => pure (inner.credentialId, inner.publicKey, inner.policy)
    | .fidoAndPassphrase inner => pure (inner.credentialId, inner.publicKey, inner.policy)
    | .fidoAndLocalSecret inner =>
      pure (inner.credentialId, inner.publicKey, FidoPolicy.presence)
  let input ← Crypto.prfInput record p.applicationId envelope.envelopeId
  return {
    credential := { applicationId := p.applicationId, recipientId := record.id, credentialId,
                    publicKey, policy, label := record.label }
    input, operation }

/-- Ask the backend for the PRF of one record. -/
def evaluate (p : KeyProtector) (record : RecipientRecord) (envelope : KeyEnvelope)
    (operation : Operation) : Host (Bytes 32) := do
  let request ← p.prfRequest record envelope operation
  let reply ← ask (.evaluate request)
  reply.result

/-! ## Staging -/

/-- **Staging** — set the MAC, read the envelope back, and recover the root from the selected
record. -/
def stageExistingRecord (staged : KeyEnvelope) (recipient : RecipientId) (root : RootKey)
    (keys : RecoveryKeys) : Result KeyEnvelope := do
  let mac ← Crypto.computeEnvelopeMac staged root
  let staged ← canonicalize { staged with mac }
  let record ← staged.find recipient
  let recovered ← recoverWithKeys record staged.applicationId staged.envelopeId keys
  -- the MAC is not compared when the roots differ
  let matched ←
    if rootsMatch root recovered then Crypto.envelopeMacMatches staged recovered else pure false
  require (matched = true) .unlockFailed
  return staged

/-- `push` and the stable `sort_by_key`. -/
def insertRecord (envelope : KeyEnvelope) (record : RecipientRecord) : KeyEnvelope :=
  { envelope with
    recipients := (envelope.recipients ++ [record]).insertionSort fun r s => r.id ≤ s.id }

/-- Stage the envelope with one more record. -/
def stageRecord (envelope : KeyEnvelope) (record : RecipientRecord) (root : RootKey)
    (keys : RecoveryKeys) : Result KeyEnvelope :=
  stageExistingRecord (insertRecord envelope record) record.id root keys

/-- Remove the credential of a failed enrollment: the error is the original one only if that
worked. -/
def cleanupFailedManagedEnrollment (p : KeyProtector) (enrollment : ManagedEnrollment)
    (recipientId : RecipientId) (label : String) (originalError : Error) : Host Error := do
  let credential : CredentialBinding :=
    { applicationId := p.applicationId, recipientId
      credentialId := enrollment.credential.credentialId
      publicKey := enrollment.credential.publicKey, policy := enrollment.policy, label }
  let reply ← ask (.cleanupManagedEnrollment enrollment
    { credential, operation := .retireManagedRecipient })
  return match reply.result with
    | .ok () => originalError
    | .error _ => .authenticator .credentialMayRemain

/-- Stage a new record, and clean up its managed credential if that fails. -/
def stageEnrollment (p : KeyProtector) (envelope : KeyEnvelope) (record : RecipientRecord)
    (root : RootKey) (keys : RecoveryKeys) (managed : Option ManagedEnrollment) :
    Host KeyEnvelope :=
  match stageRecord envelope record root keys with
  | .ok envelope => return envelope
  | .error error =>
    match managed with
    | none => throw error
    | some enrollment =>
      match record with
      | .fido { storage := .managed, .. } => do
        throw (← p.cleanupFailedManagedEnrollment enrollment record.id record.label error)
      | _ => throw .authenticatorResponseInvalid

/-! ## Enrollment -/

/-- A passphrase record: two prompts and one Argon2 run. -/
def enrollPassphraseRecipient (p : KeyProtector) (envelope : KeyEnvelope) (root : RootKey)
    (label : String) (parameters : PassphraseParameters) (operation : Operation) :
    Host (RecipientRecord × RecoveryKeys) := do
  let id ← uniqueRecipientId envelope
  let salt ← uniqueSalt envelope
  let passphraseNonce ← randomArray 12
  let record : PassphraseRecipient :=
    { id, label, kdf := { parameters, salt }, passphraseNonce, wrappedRoot := Bytes.zero 48 }
  let passphrase ← requestNewPassphrase operation label
  let key ← Crypto.derivePassphraseKey (.passphrase record) p.applicationId envelope.envelopeId
    passphrase
  let wrappedRoot ← Crypto.wrapPassphraseRoot record p.applicationId envelope.envelopeId root key
  return (.passphrase { record with wrappedRoot }, .passphrase key)

/-- A recovery secret: no ceremony, only random values. -/
def newRecoverySecretRecord (envelope : KeyEnvelope) (root : RootKey) (label : String) :
    Host (RecipientRecord × RecoverySecret × Crypto.DerivedKey) := do
  let secret ← RecoverySecret.random
  let id ← uniqueRecipientId envelope
  let recoveryNonce ← randomArray 12
  let record : RecoverySecretRecord := { id, label, recoveryNonce, wrappedRoot := Bytes.zero 48 }
  let key ← Crypto.deriveRecoverySecretKey record envelope.applicationId envelope.envelopeId secret
  let wrappedRoot ←
    Crypto.wrapRecoverySecretRoot record envelope.applicationId envelope.envelopeId root key
  return (.recoverySecret { record with wrappedRoot }, secret, key)

/-- A record whose credential stays with the application: make it, then evaluate it. -/
def enrollFidoRecipient (p : KeyProtector) (envelope : KeyEnvelope) (root : RootKey)
    (label : String) (policy : FidoPolicy) (operation : Operation) :
    Host (RecipientRecord × RecoveryKeys) := do
  let reply ← ask (.enroll p.applicationId policy label operation)
  let credential ← reply.result
  validateCredential envelope credential.credentialId
  let id ← uniqueRecipientId envelope
  let prfNonce ← randomArray 32
  let fidoNonce ← randomArray 12
  let record : FidoRecipient :=
    { id, label, credentialId := credential.credentialId, publicKey := credential.publicKey, policy
      storage := .nonDiscoverable, prfNonce, fidoNonce, wrappedRoot := Bytes.zero 48 }
  let prf ← p.evaluate (.fido record) envelope operation
  let key ← Crypto.deriveFidoKey (.fido record) p.applicationId envelope.envelopeId prf
  let wrappedRoot ← Crypto.wrapFidoRoot record p.applicationId envelope.envelopeId root key
  return (.fido { record with wrappedRoot }, .fido key)

/-- A record of both an authenticator and a secret drawn here. -/
def enrollFidoLocalRecipient (p : KeyProtector) (envelope : KeyEnvelope) (root : RootKey)
    (label : String) (operation : Operation) :
    Host (RecipientRecord × LocalSecret × Crypto.DerivedKey) := do
  let id ← uniqueRecipientId envelope
  let secret ← LocalSecret.random
  let prfNonce ← randomArray 32
  let wrapNonce ← randomArray 12
  let reply ← ask (.enroll p.applicationId .presence label operation)
  let credential ← reply.result
  validateCredential envelope credential.credentialId
  let record : FidoAndLocalSecretRecipient :=
    { id, label, credentialId := credential.credentialId, publicKey := credential.publicKey
      prfNonce, wrapNonce, wrappedRoot := Bytes.zero 48 }
  let prf ← p.evaluate (.fidoAndLocalSecret record) envelope operation
  let key ← Crypto.deriveFidoLocalKey record p.applicationId envelope.envelopeId prf secret
  let wrappedRoot ← Crypto.wrapFidoLocalRoot record p.applicationId envelope.envelopeId root key
  return (.fidoAndLocalSecret { record with wrappedRoot }, secret, key)

/-- What follows the creation of a managed credential, and may still fail. -/
def finishManagedFidoRecipient (p : KeyProtector) (envelope : KeyEnvelope) (root : RootKey)
    (id : RecipientId) (label : String) (policy : FidoPolicy) (operation : Operation)
    (enrollment : ManagedEnrollment) : Host (RecipientRecord × RecoveryKeys) := do
  validateCredential envelope enrollment.credential.credentialId
  let prfNonce ← randomArray 32
  let fidoNonce ← randomArray 12
  let record : FidoRecipient :=
    { id, label, credentialId := enrollment.credential.credentialId
      publicKey := enrollment.credential.publicKey, policy, storage := .managed, prfNonce
      fidoNonce, wrappedRoot := Bytes.zero 48 }
  let input ← Crypto.prfInput (.fido record) p.applicationId envelope.envelopeId
  let credential : CredentialBinding :=
    { applicationId := p.applicationId, recipientId := id, credentialId := record.credentialId
      publicKey := record.publicKey, policy := record.policy, label }
  let reply ← ask (.evaluateManagedEnrollment enrollment { credential, input, operation })
  let prf ← reply.result
  let key ← Crypto.deriveFidoKey (.fido record) p.applicationId envelope.envelopeId prf
  let wrappedRoot ← Crypto.wrapFidoRoot record p.applicationId envelope.envelopeId root key
  return (.fido { record with wrappedRoot }, .fido key)

/-- A record whose credential the authenticator keeps: its id is drawn first, as the user id. -/
def enrollManagedFidoRecipient (p : KeyProtector) (envelope : KeyEnvelope) (root : RootKey)
    (label : String) (policy : FidoPolicy) (operation : Operation) :
    Host (RecipientRecord × RecoveryKeys × Option ManagedEnrollment) := do
  let id ← uniqueRecipientId envelope
  let reply ← ask (.enrollManaged p.applicationId id policy label operation)
  let enrollment ← reply.result
  let result ← Fallible.outcome
    (p.finishManagedFidoRecipient envelope root id label policy operation enrollment)
  match result with
  | .ok (record, keys) => return (record, keys, some enrollment)
  | .error error => throw (← p.cleanupFailedManagedEnrollment enrollment id label error)

/-- A combined record: the authenticator answers before the passphrase is asked for. -/
def enrollCombinedRecipient (p : KeyProtector) (envelope : KeyEnvelope) (root : RootKey)
    (label : String) (policy : FidoPolicy) (parameters : PassphraseParameters)
    (operation : Operation) : Host (RecipientRecord × RecoveryKeys) := do
  let reply ← ask (.enroll p.applicationId policy label operation)
  let credential ← reply.result
  validateCredential envelope credential.credentialId
  let id ← uniqueRecipientId envelope
  let prfNonce ← randomArray 32
  let fidoNonce ← randomArray 12
  let salt ← uniqueSalt envelope
  let passphraseNonce ← randomArray 12
  let record : FidoAndPassphraseRecipient :=
    { id, label, credentialId := credential.credentialId, publicKey := credential.publicKey, policy
      prfNonce, fidoNonce, kdf := { parameters, salt }, passphraseNonce
      wrappedRoot := Bytes.zero 64 }
  let prf ← p.evaluate (.fidoAndPassphrase record) envelope operation
  let fidoKey ←
    Crypto.deriveFidoKey (.fidoAndPassphrase record) p.applicationId envelope.envelopeId prf
  let passphrase ← requestNewPassphrase operation label
  let passphraseKey ← Crypto.derivePassphraseKey (.fidoAndPassphrase record) p.applicationId
    envelope.envelopeId passphrase
  let wrappedRoot ← Crypto.wrapCombinedRoot record p.applicationId envelope.envelopeId root
    passphraseKey fidoKey
  return (.fidoAndPassphrase { record with wrappedRoot }, .combined passphraseKey fidoKey)

/-- The policy selects the enrollment; the two policies with a dedicated operation have none. -/
def enrollRecipient (p : KeyProtector) (envelope : KeyEnvelope) (root : RootKey)
    (enrollment : Enrollment) (operation : Operation) :
    Host (RecipientRecord × RecoveryKeys × Option ManagedEnrollment) := do
  match enrollment.policy with
  | .passphrase =>
    let parameters ← okOr enrollment.parameters Error.invalidPassphraseParameters
    let (record, keys) ← p.enrollPassphraseRecipient envelope root enrollment.label parameters
      operation
    return (record, keys, none)
  | .recoverySecret | .fidoPresenceAndLocalSecret => throw .invalidEnvelope
  | .fido policy =>
    let (record, keys) ← p.enrollFidoRecipient envelope root enrollment.label policy operation
    return (record, keys, none)
  | .managedFido policy =>
    p.enrollManagedFidoRecipient envelope root enrollment.label policy operation
  | .fidoAndPassphrase policy =>
    let parameters ← okOr enrollment.parameters Error.invalidPassphraseParameters
    let (record, keys) ← p.enrollCombinedRecipient envelope root enrollment.label policy parameters
      operation
    return (record, keys, none)

end KeyProtector

/-! ## Runs of the small programs -/

theorem runs_requestPassphrase_ok {operation : Operation} {label : String}
    {purpose : PassphrasePurpose} {t : Trace host} {x : Passphrase} :
    (requestPassphrase operation label purpose).run.Runs t (.ok x) ↔
      t = [⟨.passphrase ⟨operation, label, purpose⟩, Except.ok x⟩] := by
  unfold requestPassphrase
  rw [Fallible.runs_bind_ok]
  constructor
  · rintro ⟨t₁, reply, t₂, rfl, hask, hok⟩
    obtain ⟨reply', rfl, hreply⟩ := runs_ask.mp hask
    cases hreply
    obtain ⟨rfl, hresult⟩ := Fallible.runs_except.mp hok
    rw [except_mapError_eq_ok.mp hresult.symm]
    rfl
  · rintro rfl
    exact ⟨_, Except.ok x, [], rfl, runs_ask.mpr ⟨_, rfl, rfl⟩, rfl, rfl⟩

/-- A new passphrase is asked for twice, and the two answers are the same. -/
theorem runs_requestNewPassphrase_ok {operation : Operation} {label : String} {t : Trace host}
    {x : Passphrase} :
    (requestNewPassphrase operation label).run.Runs t (.ok x) ↔
      t = [⟨.passphrase ⟨operation, label, .new⟩, Except.ok x⟩,
        ⟨.passphrase ⟨operation, label, .confirm⟩, Except.ok x⟩] := by
  unfold requestNewPassphrase
  simp only [↓Fallible.runs_except_bind_ok, Fallible.runs_bind_ok, runs_requestPassphrase_ok,
    require_eq_ok, Fallible.runs_pure, Passphrase.confirmationMatches_iff]
  constructor
  · rintro ⟨t₁, y, t₂, rfl, rfl, t₃, z, t₄, rfl, rfl, -, rfl, rfl, hx⟩
    cases hx
    rfl
  · rintro rfl
    exact ⟨_, x, _, rfl, rfl, _, x, [], rfl, rfl, (), rfl, rfl, rfl⟩

theorem runs_evaluate_ok {p : KeyProtector} {record : RecipientRecord} {e : KeyEnvelope}
    {operation : Operation} {t : Trace host} {prf : Bytes 32} :
    (p.evaluate record e operation).run.Runs t (.ok prf) ↔
      ∃ request reply, p.prfRequest record e operation = .ok request ∧
        reply.result = .ok prf ∧ t = [⟨.evaluate request, reply⟩] := by
  unfold KeyProtector.evaluate
  rw [Fallible.runs_except_bind_ok]
  constructor
  · rintro ⟨request, hrequest, hrun⟩
    obtain ⟨t₁, reply, t₂, rfl, hask, hok⟩ := Fallible.runs_bind_ok.mp hrun
    obtain ⟨reply', rfl, hreply⟩ := runs_ask.mp hask
    cases hreply
    obtain ⟨rfl, hresult⟩ := Fallible.runs_except.mp hok
    exact ⟨request, reply, hrequest, hresult.symm, rfl⟩
  · rintro ⟨request, reply, hrequest, hresult, rfl⟩
    refine ⟨request, hrequest, Fallible.runs_bind_ok.mpr ?_⟩
    exact ⟨_, reply, [], rfl, runs_ask.mpr ⟨_, rfl, rfl⟩, rfl, hresult.symm⟩

end FidoKeyWrap
