/-
# FidoKeyWrap.Refusals — which errors the pure half of the library can give.

The transcript encoder and the envelope decoder have one error each, whatever they reject
(`Transcript.errors_encode`, `errors_decode`), so a decoder's error says nothing of where it stopped.
The derivations, the wrapping and the MAC add the failure to authenticate. No error here comes from a
callback or a backend, for any input, valid or not.
-/
import FidoKeyWrap.Totality

namespace FidoKeyWrap

open ByteData Interact

/-! ## The transcript encoder -/

namespace Transcript

theorem errors_addCapacity (total : Nat) (field : ByteString) :
    Errors (addCapacity total field) (· = .invalidEnvelope) := by
  unfold addCapacity
  refine errors_bind (errors_require rfl) fun _ _ => errors_bind (errors_require rfl) fun _ _ => ?_
  exact errors_bind (errors_require rfl) fun _ _ => errors_ok ⟨_, rfl⟩

theorem errors_capacity (fields : List ByteString) (total : Nat) :
    Errors (fields.foldlM addCapacity total) (· = .invalidEnvelope) := by
  induction fields generalizing total with
  | nil => exact errors_ok ⟨total, rfl⟩
  | cons field fields ih =>
      rw [List.foldlM_cons]
      exact errors_bind (errors_addCapacity total field) fun next _ => ih next

/-- **The encoder has one error.** -/
theorem errors_encode (fields : List ByteString) :
    Errors (encode fields) (· = .invalidEnvelope) := by
  unfold encode
  refine errors_bind (errors_require rfl) fun _ _ => ?_
  refine errors_bind (errors_capacity fields 4) fun _ _ => ?_
  exact errors_bind (errors_require rfl) fun _ _ => errors_ok ⟨_, rfl⟩

end Transcript

/-! ## The decoder -/

/-- **`Rejects x`** — on any input, the reader fails with the one error of the decoder. -/
def Rejects {α : Type} (x : Reader α) : Prop :=
  ∀ unread, Errors (x.run unread) (· = .invalidEnvelope)

section Rules

variable {α β : Type}

theorem rejects_pure (a : α) : Rejects (pure a : Reader α) := fun _ => errors_ok ⟨_, rfl⟩

theorem rejects_throw : Rejects (throw .invalidEnvelope : Reader α) := fun _ => errors_throw rfl

theorem rejects_read {method : ByteString → Option (α × ByteString)} :
    Rejects (Cbor.read method Error.invalidEnvelope) := by
  intro unread e he
  change Cbor.read method Error.invalidEnvelope unread = .error e at he
  unfold Cbor.read at he
  split at he
  · cases he
  · cases he
    rfl

theorem rejects_bind {x : Reader α} {f : α → Reader β} (hx : Rejects x)
    (hf : ∀ a, Rejects (f a)) : Rejects (x >>= f) := by
  intro unread
  rw [StateT.run_bind]
  exact errors_bind (hx unread) fun read _ => hf read.1 read.2

theorem rejects_lift {x : Result α} (hx : Errors x (· = .invalidEnvelope)) :
    Rejects (liftM x : Reader α) := by
  intro unread
  cases x with
  | error e => exact errors_throw (hx e rfl)
  | ok a => exact errors_ok ⟨_, rfl⟩

theorem rejects_require {p : Prop} [Decidable p] {f : Unit → Reader β} (hf : Rejects (f ())) :
    Rejects ((liftM (require p Error.invalidEnvelope) : Reader Unit) >>= f) :=
  rejects_bind (rejects_lift (errors_require rfl)) fun _ => hf

end Rules

theorem errors_fromCode (code : UInt8) :
    Errors (FidoPolicy.fromCode code) (· = .invalidEnvelope) := by
  unfold FidoPolicy.fromCode
  split
  · exact errors_ok ⟨_, rfl⟩
  · split
    · exact errors_ok ⟨_, rfl⟩
    · exact errors_throw rfl

variable [Primitives]

section Decoder

theorem rejects_definiteArrayLen : Rejects definiteArrayLen := by
  refine rejects_bind rejects_read fun length => ?_
  cases length with
  | none => exact rejects_throw
  | some length => exact rejects_require (rejects_pure length)

theorem rejects_exactBytes (n : Nat) : Rejects (exactBytes n) := by
  refine rejects_bind rejects_read fun bytes => ?_
  split
  · exact rejects_pure _
  · exact rejects_throw

theorem rejects_requireArray (expected : Nat) : Rejects (requireArray expected) := by
  refine rejects_bind rejects_definiteArrayLen fun length => ?_
  exact rejects_lift (errors_require rfl)

theorem rejects_decodeLabel : Rejects decodeLabel :=
  rejects_bind rejects_read fun label => rejects_require (rejects_pure label)

theorem rejects_decodeCredentialId : Rejects decodeCredentialId :=
  rejects_bind rejects_read fun id => rejects_require (rejects_pure id)

theorem rejects_decodeKdf : Rejects decodeKdf := by
  refine rejects_bind (rejects_requireArray 5) fun _ => rejects_bind rejects_read fun kdf => ?_
  refine rejects_require ?_
  refine rejects_bind rejects_read fun memory => rejects_bind rejects_read fun passes => ?_
  refine rejects_bind rejects_read fun lanes => ?_
  refine rejects_bind (rejects_lift (errors_mapError fun _ => rfl)) fun parameters => ?_
  exact rejects_bind (rejects_exactBytes 16) fun salt => rejects_pure _

theorem rejects_decodePublicKey : Rejects decodePublicKey := by
  refine rejects_bind (rejects_exactBytes 64) fun bytes => rejects_lift ?_
  exact errors_bind (errors_require rfl) fun _ _ => errors_ok ⟨_, rfl⟩

theorem rejects_decodePolicy : Rejects decodePolicy :=
  rejects_bind rejects_read fun code => rejects_lift (errors_fromCode code)

theorem rejects_decodePassphraseRecipient : Rejects decodePassphraseRecipient := by
  refine rejects_bind (rejects_exactBytes 32) fun id => ?_
  refine rejects_bind rejects_decodeLabel fun label => ?_
  refine rejects_bind rejects_decodeKdf fun kdf => ?_
  refine rejects_bind (rejects_exactBytes 12) fun passphraseNonce => ?_
  exact rejects_bind (rejects_exactBytes 48) fun wrappedRoot => rejects_pure _

theorem rejects_decodeRecoverySecretRecipient : Rejects decodeRecoverySecretRecipient := by
  refine rejects_bind (rejects_exactBytes 32) fun id => ?_
  refine rejects_bind rejects_decodeLabel fun label => ?_
  refine rejects_bind (rejects_exactBytes 12) fun recoveryNonce => ?_
  exact rejects_bind (rejects_exactBytes 48) fun wrappedRoot => rejects_pure _

theorem rejects_decodeFidoRecipient (storage : FidoStorage) :
    Rejects (decodeFidoRecipient storage) := by
  refine rejects_bind (rejects_exactBytes 32) fun id => ?_
  refine rejects_bind rejects_decodeLabel fun label => ?_
  refine rejects_bind rejects_decodeCredentialId fun credentialId => ?_
  refine rejects_bind rejects_decodePublicKey fun publicKey => ?_
  refine rejects_bind rejects_decodePolicy fun policy => ?_
  refine rejects_bind (rejects_exactBytes 32) fun prfNonce => ?_
  refine rejects_bind (rejects_exactBytes 12) fun fidoNonce => ?_
  exact rejects_bind (rejects_exactBytes 48) fun wrappedRoot => rejects_pure _

theorem rejects_decodeFidoAndPassphraseRecipient : Rejects decodeFidoAndPassphraseRecipient := by
  refine rejects_bind (rejects_exactBytes 32) fun id => ?_
  refine rejects_bind rejects_decodeLabel fun label => ?_
  refine rejects_bind rejects_decodeCredentialId fun credentialId => ?_
  refine rejects_bind rejects_decodePublicKey fun publicKey => ?_
  refine rejects_bind rejects_decodePolicy fun policy => ?_
  refine rejects_bind (rejects_exactBytes 32) fun prfNonce => ?_
  refine rejects_bind (rejects_exactBytes 12) fun fidoNonce => ?_
  refine rejects_bind rejects_decodeKdf fun kdf => ?_
  refine rejects_bind (rejects_exactBytes 12) fun passphraseNonce => ?_
  exact rejects_bind (rejects_exactBytes 64) fun wrappedRoot => rejects_pure _

theorem rejects_decodeFidoAndLocalSecretRecipient :
    Rejects decodeFidoAndLocalSecretRecipient := by
  refine rejects_bind (rejects_exactBytes 32) fun id => ?_
  refine rejects_bind rejects_decodeLabel fun label => ?_
  refine rejects_bind rejects_decodeCredentialId fun credentialId => ?_
  refine rejects_bind rejects_decodePublicKey fun publicKey => ?_
  refine rejects_bind (rejects_exactBytes 32) fun prfNonce => ?_
  refine rejects_bind (rejects_exactBytes 12) fun wrapNonce => ?_
  exact rejects_bind (rejects_exactBytes 48) fun wrappedRoot => rejects_pure _

theorem rejects_decodeRecipient : Rejects decodeRecipient := by
  refine rejects_bind rejects_definiteArrayLen fun length => ?_
  refine rejects_bind rejects_read fun suite => ?_
  -- one branch for each suite, and none for the rest
  split
  · exact rejects_decodePassphraseRecipient
  split
  · exact rejects_decodeRecoverySecretRecipient
  split
  · exact rejects_decodeFidoRecipient .nonDiscoverable
  split
  · exact rejects_decodeFidoRecipient .managed
  split
  · exact rejects_decodeFidoAndPassphraseRecipient
  split
  · exact rejects_decodeFidoAndLocalSecretRecipient
  · exact rejects_throw

theorem rejects_decodeRecipients (count : Nat) : Rejects (decodeRecipients count) := by
  induction count with
  | zero => exact rejects_pure []
  | succ count ih =>
      refine rejects_bind rejects_decodeRecipient fun record => ?_
      exact rejects_bind ih fun records => rejects_pure (record :: records)

theorem rejects_decodeFields : Rejects decodeFields := by
  refine rejects_bind (rejects_requireArray 5) fun _ => rejects_bind rejects_read fun version => ?_
  refine rejects_require (rejects_bind rejects_read fun application => ?_)
  refine rejects_bind (rejects_lift (errors_mapError fun _ => rfl)) fun applicationId => ?_
  refine rejects_bind (rejects_exactBytes 32) fun envelopeId => ?_
  refine rejects_bind rejects_definiteArrayLen fun count => rejects_require ?_
  refine rejects_bind (rejects_decodeRecipients count) fun recipients => ?_
  exact rejects_bind (rejects_exactBytes 32) fun mac => rejects_pure _

/-- **The decoder has one error**, whatever is wrong with the input. -/
theorem errors_decode (input : ByteString) :
    Errors (KeyEnvelope.decode input) (· = .invalidEnvelope) := by
  unfold KeyEnvelope.decode
  refine errors_bind (errors_require rfl) fun _ _ => ?_
  refine errors_bind (rejects_decodeFields _) fun decoded _ => ?_
  refine errors_bind (errors_require rfl) fun _ _ => ?_
  refine errors_bind ?_ fun _ _ =>
    errors_bind (errors_require rfl) fun _ _ => errors_ok ⟨_, rfl⟩
  exact errors_bind (errors_require rfl) fun _ _ => errors_require rfl

end Decoder

/-! ## The cryptography -/

section Cryptography

variable {E : Error → Prop} (hE : E .invalidEnvelope)

include hE

omit [Primitives] in
theorem refusals_encode (fields : List ByteString) : Errors (Transcript.encode fields) E := by
  intro e he
  rw [Transcript.errors_encode fields e he]
  exact hE

theorem refusals_recipientContext (r : RecipientRecord) (a : ApplicationId) (d : Bytes 32) :
    Errors (Crypto.recipientContext r a d) E := by
  unfold Crypto.recipientContext
  rw [Crypto.recipientContextTranscript_eq]
  exact errors_bind (refusals_encode hE _) fun _ _ => errors_ok ⟨_, rfl⟩

theorem refusals_prfInput (r : RecipientRecord) (a : ApplicationId) (d : Bytes 32) :
    Errors (Crypto.prfInput r a d) E := by
  have hderive : Errors (do
      let context ← Crypto.recipientContext r a d
      let encoded ← Crypto.prfInputTranscript context
      return Primitives.sha256 encoded) E := by
    refine errors_bind (refusals_recipientContext hE r a d) fun context _ => ?_
    exact errors_bind (refusals_encode hE _) fun _ _ => errors_ok ⟨_, rfl⟩
  cases r with
  | passphrase r => exact errors_throw hE
  | recoverySecret r => exact errors_throw hE
  | _ => exact hderive

theorem refusals_deriveKey (ikm salt info : ByteString) :
    Errors (Crypto.deriveKey ikm salt info) E :=
  errors_bind (errors_okOr hE) fun _ _ => errors_ok ⟨_, rfl⟩

/-- The last two steps of a derivation. -/
theorem refusals_expand (fields : List ByteString) (ikm salt : ByteString) :
    Errors (do
      let info ← Transcript.encode fields
      Crypto.deriveKey ikm salt info) E :=
  errors_bind (refusals_encode hE fields) fun _ _ => refusals_deriveKey hE _ _ _

theorem refusals_deriveFidoKey (r : RecipientRecord) (a : ApplicationId) (d prf : Bytes 32) :
    Errors (Crypto.deriveFidoKey r a d prf) E := by
  cases r with
  | fido r =>
      exact errors_bind (refusals_recipientContext hE _ a d) fun _ _ => refusals_expand hE _ _ _
  | fidoAndPassphrase r =>
      exact errors_bind (refusals_recipientContext hE _ a d) fun _ _ => refusals_expand hE _ _ _
  | _ => exact errors_throw hE

theorem refusals_deriveFidoLocalKey (r : FidoAndLocalSecretRecipient) (a : ApplicationId)
    (d prf : Bytes 32) (secret : LocalSecret) :
    Errors (Crypto.deriveFidoLocalKey r a d prf secret) E := by
  refine errors_bind (refusals_recipientContext hE (.fidoAndLocalSecret r) a d) fun context _ => ?_
  refine errors_bind (refusals_expand hE _ _ _) fun fidoKey _ => ?_
  exact errors_bind (refusals_expand hE _ _ _) fun localKey _ => refusals_expand hE _ _ _

/-- What follows the associated data of a layer. -/
theorem refusals_layer {β : Type} (r : RecipientRecord) (domain : ByteString) (a : ApplicationId)
    (d : Bytes 32) {f : ByteString → Result β} (hf : ∀ aad, Errors (f aad) E) :
    Errors (do
      let context ← Crypto.recipientContext r a d
      let aad ← Transcript.encode [domain, context.toList]
      f aad) E :=
  errors_bind (refusals_recipientContext hE r a d) fun _ _ =>
    errors_bind (refusals_encode hE _) fun aad _ => hf aad

theorem refusals_encryptFixed {p : Nat} (c : Nat) (key : Crypto.DerivedKey) (nonce : Bytes 12)
    (plaintext : Bytes p) (aad : ByteString) :
    Errors (Crypto.encryptFixed c key nonce plaintext aad) E := by
  unfold Crypto.encryptFixed
  split
  · refine errors_bind (errors_require hE) fun _ _ => ?_
    exact errors_bind (errors_okOr hE) fun _ _ => errors_ok ⟨_, rfl⟩
  · exact errors_throw hE

theorem refusals_wrapPassphraseRoot (r : PassphraseRecipient) (a : ApplicationId) (d : Bytes 32)
    (root : RootKey) (key : Crypto.DerivedKey) :
    Errors (Crypto.wrapPassphraseRoot r a d root key) E :=
  refusals_layer hE (.passphrase r) _ a d fun _ => refusals_encryptFixed hE _ _ _ _ _

theorem refusals_wrapFidoRoot (r : FidoRecipient) (a : ApplicationId) (d : Bytes 32)
    (root : RootKey) (key : Crypto.DerivedKey) : Errors (Crypto.wrapFidoRoot r a d root key) E :=
  refusals_layer hE (.fido r) _ a d fun _ => refusals_encryptFixed hE _ _ _ _ _

theorem refusals_wrapFidoLocalRoot (r : FidoAndLocalSecretRecipient) (a : ApplicationId)
    (d : Bytes 32) (root : RootKey) (key : Crypto.DerivedKey) :
    Errors (Crypto.wrapFidoLocalRoot r a d root key) E :=
  refusals_layer hE (.fidoAndLocalSecret r) _ a d fun _ => refusals_encryptFixed hE _ _ _ _ _

theorem refusals_wrapCombinedRoot (r : FidoAndPassphraseRecipient) (a : ApplicationId)
    (d : Bytes 32) (root : RootKey) (passphraseKey fidoKey : Crypto.DerivedKey) :
    Errors (Crypto.wrapCombinedRoot r a d root passphraseKey fidoKey) E := by
  have hlayer (c p : Nat) (key : Crypto.DerivedKey) (nonce : Bytes 12) (plaintext : Bytes p)
      (domain : ByteString) : Errors (do
        let context ← Crypto.recipientContext (.fidoAndPassphrase r) a d
        let aad ← Transcript.encode [domain, context.toList]
        Crypto.encryptFixed c key nonce plaintext aad) E :=
    refusals_layer hE _ domain a d fun _ => refusals_encryptFixed hE _ _ _ _ _
  exact errors_bind (hlayer 48 _ _ _ _ _) fun inner _ => hlayer 64 _ _ _ _ _

theorem refusals_computeEnvelopeMac (e : KeyEnvelope) (root : RootKey) :
    Errors (Crypto.computeEnvelopeMac e root) E := by
  unfold Crypto.computeEnvelopeMac
  refine errors_bind (refusals_expand hE _ _ _) fun _ _ => ?_
  exact errors_bind (refusals_encode hE _) fun _ _ => errors_okOr hE

theorem refusals_envelopeMacMatches (e : KeyEnvelope) (root : RootKey) :
    Errors (Crypto.envelopeMacMatches e root) E :=
  errors_bind (refusals_computeEnvelopeMac hE e root) fun _ _ => errors_ok ⟨_, rfl⟩

theorem refusals_canonicalize (e : KeyEnvelope) : Errors (canonicalize e) E := by
  intro error herror
  rw [errors_decode e.encode error herror]
  exact hE

end Cryptography

section Opening

variable {E : Error → Prop} (hE : E .invalidEnvelope) (hU : E .unlockFailed) (a : ApplicationId)
  (d : Bytes 32)

include hE hU

theorem refusals_decryptFixed (p : Nat) {c : Nat} (key : Crypto.DerivedKey) (nonce : Bytes 12)
    (ciphertext : Bytes c) (aad : ByteString) :
    Errors (Crypto.decryptFixed p key nonce ciphertext aad) E := by
  unfold Crypto.decryptFixed
  split
  · exact errors_bind (errors_require hE) fun _ _ => errors_okOr hU
  · exact errors_throw hE

/-- A layer that holds the root. -/
theorem refusals_openLayer {c : Nat} (r : RecipientRecord) (domain : ByteString)
    (key : Crypto.DerivedKey) (nonce : Bytes 12) (ciphertext : Bytes c) :
    Errors (do
      let context ← Crypto.recipientContext r a d
      let aad ← Transcript.encode [domain, context.toList]
      let root ← Crypto.decryptFixed Crypto.rootBytes key nonce ciphertext aad
      return (⟨root⟩ : RootKey)) E :=
  refusals_layer hE r domain a d fun _ =>
    errors_bind (refusals_decryptFixed hE hU _ _ _ _ _) fun _ _ => errors_ok ⟨_, rfl⟩

theorem refusals_unwrapPassphraseRoot (r : PassphraseRecipient) (key : Crypto.DerivedKey) :
    Errors (Crypto.unwrapPassphraseRoot r a d key) E :=
  refusals_openLayer hE hU a d (.passphrase r) _ _ _ _

theorem refusals_unwrapRecoverySecretRoot (r : RecoverySecretRecord) (key : Crypto.DerivedKey) :
    Errors (Crypto.unwrapRecoverySecretRoot r a d key) E :=
  refusals_openLayer hE hU a d (.recoverySecret r) _ _ _ _

theorem refusals_unwrapFidoRoot (r : FidoRecipient) (key : Crypto.DerivedKey) :
    Errors (Crypto.unwrapFidoRoot r a d key) E :=
  refusals_openLayer hE hU a d (.fido r) _ _ _ _

theorem refusals_unwrapFidoLocalRoot (r : FidoAndLocalSecretRecipient) (key : Crypto.DerivedKey) :
    Errors (Crypto.unwrapFidoLocalRoot r a d key) E :=
  refusals_openLayer hE hU a d (.fidoAndLocalSecret r) _ _ _ _

theorem refusals_unwrapCombinedInner (r : FidoAndPassphraseRecipient) (inner : Bytes 48)
    (key : Crypto.DerivedKey) : Errors (Crypto.unwrapCombinedInner r a d inner key) E :=
  refusals_openLayer hE hU a d (.fidoAndPassphrase r) _ _ _ _

theorem refusals_unwrapCombinedOuter (r : FidoAndPassphraseRecipient) (key : Crypto.DerivedKey) :
    Errors (Crypto.unwrapCombinedOuter r a d key) E :=
  refusals_layer hE (.fidoAndPassphrase r) _ a d fun _ => refusals_decryptFixed hE hU _ _ _ _ _

theorem refusals_recoverWithKeys (r : RecipientRecord) (keys : RecoveryKeys) :
    Errors (recoverWithKeys r a d keys) E := by
  unfold recoverWithKeys
  split
  · exact refusals_unwrapPassphraseRoot hE hU a d _ _
  · exact refusals_unwrapRecoverySecretRoot hE hU a d _ _
  · exact refusals_unwrapFidoRoot hE hU a d _ _
  · exact refusals_unwrapFidoLocalRoot hE hU a d _ _
  · refine errors_bind (refusals_unwrapCombinedOuter hE hU a d _ _) fun inner _ => ?_
    exact refusals_unwrapCombinedInner hE hU a d _ inner _
  · exact errors_throw hE

omit a d in
theorem refusals_authenticateRoot (e : KeyEnvelope) (root : RootKey) :
    Errors (KeyProtector.authenticateRoot e root) E := by
  refine errors_bind (refusals_envelopeMacMatches hE e root) fun matched _ => ?_
  split
  · exact errors_ok ⟨root, rfl⟩
  · exact errors_throw hU

end Opening

/-! ## The protector's own checks -/

section Checks

variable {E : Error → Prop}

omit [Primitives] in
theorem refusals_find (h : E .recipientNotFound) (e : KeyEnvelope) (id : RecipientId) :
    Errors (e.find id) E := by
  intro error herror
  unfold KeyEnvelope.find at herror
  split at herror
  · cases herror
  · cases herror
    exact h

theorem refusals_verifyEnvelopeMac (hE : E .invalidEnvelope)
    (hA : E .envelopeAuthenticationFailed) (e : KeyEnvelope) (root : RootKey) :
    Errors (Crypto.verifyEnvelopeMac e root) E :=
  errors_bind (refusals_envelopeMacMatches hE e root) fun _ _ => errors_require hA

theorem refusals_requireAuthenticated (hE : E .invalidEnvelope)
    (hA : E .envelopeAuthenticationFailed) (hM : E .applicationMismatch) (p : KeyProtector)
    (e : KeyEnvelope) (root : RootKey) : Errors (p.requireAuthenticated e root) E :=
  errors_bind (errors_require hM) fun _ _ => refusals_verifyEnvelopeMac hE hA e root

omit [Primitives] in
theorem refusals_admitEnrollment (h : E .passphraseLimitExceeded) (p : KeyProtector)
    (enrollment : Enrollment) : Errors (p.admitEnrollment enrollment) E := by
  unfold KeyProtector.admitEnrollment
  split
  · exact errors_require h
  · exact errors_ok ⟨(), rfl⟩

omit [Primitives] in
theorem refusals_admitRecord (h : E .passphraseLimitExceeded) (p : KeyProtector)
    (r : RecipientRecord) : Errors (p.admitRecord r) E := by
  unfold KeyProtector.admitRecord
  split
  · exact errors_require h
  · exact errors_ok ⟨(), rfl⟩

omit [Primitives] in
theorem refusals_validateDedicatedLabel (h : E .invalidLabel) (label : String) :
    Errors (validateDedicatedLabel label) E :=
  errors_bind (errors_require h) fun _ _ => errors_ok ⟨label, rfl⟩

theorem refusals_prfRequest (hE : E .invalidEnvelope) (p : KeyProtector) (r : RecipientRecord)
    (e : KeyEnvelope) (operation : Operation) : Errors (p.prfRequest r e operation) E := by
  have hinput := refusals_prfInput hE r p.applicationId e.envelopeId
  cases r with
  | passphrase r => exact errors_throw hE
  | recoverySecret r => exact errors_throw hE
  | _ => exact errors_bind (errors_ok ⟨_, rfl⟩) fun _ _ =>
      errors_bind hinput fun _ _ => errors_ok ⟨_, rfl⟩

theorem refusals_stageExistingRecord (hE : E .invalidEnvelope) (hU : E .unlockFailed)
    (hF : E .recipientNotFound) (staged : KeyEnvelope) (id : RecipientId) (root : RootKey)
    (keys : RecoveryKeys) : Errors (KeyProtector.stageExistingRecord staged id root keys) E := by
  unfold KeyProtector.stageExistingRecord
  refine errors_bind (refusals_computeEnvelopeMac hE staged root) fun mac _ => ?_
  refine errors_bind (refusals_canonicalize hE _) fun canonical _ => ?_
  refine errors_bind (refusals_find hF canonical id) fun record _ => ?_
  refine errors_bind (refusals_recoverWithKeys hE hU _ _ record keys) fun recovered _ => ?_
  have hcheck (matched : Bool) : Errors (do
      require (matched = true) Error.unlockFailed
      return canonical) E :=
    errors_bind (errors_require hU) fun _ _ => errors_ok ⟨canonical, rfl⟩
  split
  · exact errors_bind (refusals_envelopeMacMatches hE canonical recovered) fun _ _ => hcheck _
  · exact errors_bind (errors_ok ⟨false, rfl⟩) fun _ _ => hcheck _

end Checks

end FidoKeyWrap
