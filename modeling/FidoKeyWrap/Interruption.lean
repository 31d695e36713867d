/-
# FidoKeyWrap.Interruption — what a refused callback does to an operation.

The protector reports a failed callback of the application as `Error.interaction`, and nothing else
may look like one: a caller that keeps the exception of its callback takes that error as the sign that
the exception is what ended the operation. `Faithful hears` says what the backend has to keep of this
in each of its calls. Every operation of the protector then keeps it as a whole
(`Faithful.causal`): its result is that of the callbacks it made, except that a managed credential
that may have stayed behind is always reported.
-/
import FidoKeyWrap.Lib.Causes
import FidoKeyWrap.Refusals

namespace FidoKeyWrap

open ByteData Interact Fallible

/-- The errors of callbacks, and the one that hides them. -/
def interruption : Blame InteractionError Error where
  error := .interaction
  masked := .authenticator .credentialMayRemain

/-- What an answer of the application adds to the causes. -/
def refused {α : Type} : Except InteractionError α → List InteractionError
  | .ok _ => []
  | .error error => [error]

theorem causal_refused {α : Type} (answer : Except InteractionError α) :
    Causal interruption (refused answer) (answer.mapError Error.interaction) := by
  cases answer with
  | ok a => exact causal_ok
  | error error => exact .stopped error

theorem innocent_masked : interruption.Innocent interruption.masked := nofun

/-! ## Errors that no callback takes part in -/

section Innocent

theorem innocent_invalidEnvelope : interruption.Innocent .invalidEnvelope := nofun
theorem innocent_unlockFailed : interruption.Innocent .unlockFailed := nofun
theorem innocent_recipientNotFound : interruption.Innocent .recipientNotFound := nofun
theorem innocent_randomUnavailable : interruption.Innocent .randomUnavailable := nofun
theorem innocent_passphraseLimitExceeded : interruption.Innocent .passphraseLimitExceeded := nofun
theorem innocent_invalidLabel : interruption.Innocent .invalidLabel := nofun
theorem innocent_applicationMismatch : interruption.Innocent .applicationMismatch := nofun
theorem innocent_tooManyRecipients : interruption.Innocent .tooManyRecipients := nofun

end Innocent

variable [Primitives]

/-- **`Faithful hears`** — what the calls of the protector heard shows in their results. -/
structure Faithful (hears : Event host → List InteractionError → Prop) : Prop where
  random : ∀ {n u r}, hears ⟨.random n, r⟩ u → u = []
  reserve : ∀ {n u r}, hears ⟨.reserve n, r⟩ u → u = []
  passphrase : ∀ {prompt u r}, hears ⟨.passphrase prompt, r⟩ u → u = refused r
  enroll : ∀ {application policy label operation u} {r : DeviceReply CredentialMaterial},
    hears ⟨.enroll application policy label operation, r⟩ u → Causal interruption u r.result
  enrollManaged : ∀ {application recipient policy label operation u}
    {r : DeviceReply ManagedEnrollment},
    hears ⟨.enrollManaged application recipient policy label operation, r⟩ u →
      Causal interruption u r.result
  evaluate : ∀ {request u} {r : DeviceReply (Bytes 32)}, hears ⟨.evaluate request, r⟩ u →
    Causal interruption u r.result
  evaluateManagedEnrollment : ∀ {enrollment request u} {r : DeviceReply (Bytes 32)},
    hears ⟨.evaluateManagedEnrollment enrollment request, r⟩ u → Causal interruption u r.result
  cleanupManagedEnrollment : ∀ {enrollment request u} {r : DeviceReply Unit},
    hears ⟨.cleanupManagedEnrollment enrollment request, r⟩ u → Causal interruption u r.result
  verifyManaged : ∀ {request u} {r : DeviceReply Unit}, hears ⟨.verifyManaged request, r⟩ u →
    Causal interruption u r.result
  retireManaged : ∀ {request u} {r : DeviceReply Unit}, hears ⟨.retireManaged request, r⟩ u →
    Causal interruption u r.result

namespace Faithful

variable {hears : Event host → List InteractionError → Prop} (h : Faithful hears)

include h

/-! ## Calls of the protector -/

theorem causes_randomArray (n : Nat) : Causes hears interruption (randomArray n) := by
  refine causes_quiet_bind (fun _ _ => h.random) fun drawn => ?_
  exact causesFrom_except (causal_of_errors (errors_okOr innocent_randomUnavailable))

theorem causes_uniqueRecipientId (e : KeyEnvelope) :
    Causes hears interruption (KeyProtector.uniqueRecipientId e) := by
  refine causes_attempts ?_ innocent_randomUnavailable _
  exact causes_bind (h.causes_randomArray 32) fun _ => causes_pure _

theorem causes_uniqueSalt (e : KeyEnvelope) :
    Causes hears interruption (KeyProtector.uniqueSalt e) :=
  causes_attempts (h.causes_randomArray 16) innocent_randomUnavailable _

theorem causes_freshArray {n : Nat} (old : Bytes n) :
    Causes hears interruption (freshArray old) :=
  causes_attempts (h.causes_randomArray n) innocent_randomUnavailable _

theorem causes_requestPassphrase (operation : Operation) (label : String)
    (purpose : PassphrasePurpose) :
    Causes hears interruption (requestPassphrase operation label purpose) := by
  refine causes_answer fun u answer hheard => ?_
  rw [h.passphrase hheard]
  exact causal_refused answer

theorem causes_requestNewPassphrase (operation : Operation) (label : String) :
    Causes hears interruption (requestNewPassphrase operation label) := by
  refine causes_bind (h.causes_requestPassphrase operation label .new) fun passphrase => ?_
  refine causes_bind (h.causes_requestPassphrase operation label .confirm) fun confirmation => ?_
  exact causes_except_bind (errors_require nofun) fun _ _ => causes_pure passphrase

theorem causes_argon2Output (passphrase : Passphrase) (kdf : KdfDescriptor) :
    Causes hears interruption (Crypto.argon2Output passphrase kdf) := by
  refine causes_except_bind (errors_okOr innocent_invalidEnvelope) fun blocks _ => ?_
  refine causes_except_bind (errors_require innocent_invalidEnvelope) fun _ _ => ?_
  refine causes_quiet_bind (fun _ _ => h.reserve) fun reserved => ?_
  refine causes_except_bind (errors_require nofun) fun _ _ => ?_
  exact causesFrom_except (causal_of_errors (errors_okOr innocent_unlockFailed))

theorem causes_derivePassphraseKey (r : RecipientRecord) (a : ApplicationId) (d : Bytes 32)
    (passphrase : Passphrase) :
    Causes hears interruption (Crypto.derivePassphraseKey r a d passphrase) := by
  have hfrom (kdf : KdfDescriptor) :
      Causes hears interruption (Crypto.derivePassphraseKeyFrom kdf r a d passphrase) := by
    refine causes_except_bind (refusals_recipientContext innocent_invalidEnvelope r a d)
      fun context _ => ?_
    refine causes_bind (h.causes_argon2Output passphrase kdf) fun intermediate => ?_
    refine causes_except_bind (refusals_encode innocent_invalidEnvelope _) fun info _ => ?_
    exact causesFrom_except
      (causal_of_errors (refusals_deriveKey innocent_invalidEnvelope _ _ _))
  cases r with
  | passphrase r => exact hfrom r.kdf
  | fidoAndPassphrase r => exact hfrom r.kdf
  | _ => exact causesFrom_throw (causal_of_errors (errors_throw innocent_invalidEnvelope))

theorem causes_evaluate (p : KeyProtector) (r : RecipientRecord) (e : KeyEnvelope)
    (operation : Operation) : Causes hears interruption (p.evaluate r e operation) := by
  refine causes_except_bind (refusals_prfRequest innocent_invalidEnvelope p r e operation)
    fun request _ => ?_
  exact causes_answer fun _ _ => h.evaluate

/-! ## Enrollments -/

section Enrollments

variable (p : KeyProtector) (e : KeyEnvelope) (root : RootKey) (label : String)
  (operation : Operation)

theorem causes_enrollPassphraseRecipient (parameters : PassphraseParameters) :
    Causes hears interruption
      (p.enrollPassphraseRecipient e root label parameters operation) := by
  refine causes_bind (h.causes_uniqueRecipientId e) fun id => ?_
  refine causes_bind (h.causes_uniqueSalt e) fun salt => ?_
  refine causes_bind (h.causes_randomArray 12) fun passphraseNonce => ?_
  refine causes_bind (h.causes_requestNewPassphrase operation label) fun passphrase => ?_
  refine causes_bind (h.causes_derivePassphraseKey _ _ _ passphrase) fun key => ?_
  exact causes_except_bind (refusals_wrapPassphraseRoot innocent_invalidEnvelope _ _ _ _ _)
    fun _ _ => causes_pure _

omit h in
theorem causes_validateCredential_bind {α : Type} {credentialId : ByteString}
    {f : Unit → Host α} (hf : Causes hears interruption (f ())) :
    Causes hears interruption
      ((liftM (KeyProtector.validateCredential e credentialId) : Host Unit) >>= f) :=
  causes_except_bind (errors_require nofun) fun _ _ => hf

theorem causes_enrollFidoRecipient (policy : FidoPolicy) :
    Causes hears interruption (p.enrollFidoRecipient e root label policy operation) := by
  refine causes_answer_bind (fun _ _ => h.enroll) fun credential => ?_
  refine causes_validateCredential_bind e ?_
  refine causes_bind (h.causes_uniqueRecipientId e) fun id => ?_
  refine causes_bind (h.causes_randomArray 32) fun prfNonce => ?_
  refine causes_bind (h.causes_randomArray 12) fun fidoNonce => ?_
  refine causes_bind (h.causes_evaluate p _ e operation) fun prf => ?_
  refine causes_except_bind (refusals_deriveFidoKey innocent_invalidEnvelope _ _ _ prf)
    fun key _ => ?_
  exact causes_except_bind (refusals_wrapFidoRoot innocent_invalidEnvelope _ _ _ _ _)
    fun _ _ => causes_pure _

theorem causes_enrollFidoLocalRecipient :
    Causes hears interruption (p.enrollFidoLocalRecipient e root label operation) := by
  refine causes_bind (h.causes_uniqueRecipientId e) fun id => ?_
  refine causes_bind (causes_bind (h.causes_randomArray 32) fun _ => causes_pure _) fun secret => ?_
  refine causes_bind (h.causes_randomArray 32) fun prfNonce => ?_
  refine causes_bind (h.causes_randomArray 12) fun wrapNonce => ?_
  refine causes_answer_bind (fun _ _ => h.enroll) fun credential => ?_
  refine causes_validateCredential_bind e ?_
  refine causes_bind (h.causes_evaluate p _ e operation) fun prf => ?_
  refine causes_except_bind
    (refusals_deriveFidoLocalKey innocent_invalidEnvelope _ _ _ prf secret) fun key _ => ?_
  exact causes_except_bind (refusals_wrapFidoLocalRoot innocent_invalidEnvelope _ _ _ _ _)
    fun _ _ => causes_pure _

theorem causes_enrollCombinedRecipient (policy : FidoPolicy)
    (parameters : PassphraseParameters) :
    Causes hears interruption
      (p.enrollCombinedRecipient e root label policy parameters operation) := by
  refine causes_answer_bind (fun _ _ => h.enroll) fun credential => ?_
  refine causes_validateCredential_bind e ?_
  refine causes_bind (h.causes_uniqueRecipientId e) fun id => ?_
  refine causes_bind (h.causes_randomArray 32) fun prfNonce => ?_
  refine causes_bind (h.causes_randomArray 12) fun fidoNonce => ?_
  refine causes_bind (h.causes_uniqueSalt e) fun salt => ?_
  refine causes_bind (h.causes_randomArray 12) fun passphraseNonce => ?_
  refine causes_bind (h.causes_evaluate p _ e operation) fun prf => ?_
  refine causes_except_bind (refusals_deriveFidoKey innocent_invalidEnvelope _ _ _ prf)
    fun fidoKey _ => ?_
  refine causes_bind (h.causes_requestNewPassphrase operation label) fun passphrase => ?_
  refine causes_bind (h.causes_derivePassphraseKey _ _ _ passphrase) fun passphraseKey => ?_
  exact causes_except_bind (refusals_wrapCombinedRoot innocent_invalidEnvelope _ _ _ _ _ _)
    fun _ _ => causes_pure _

theorem causes_finishManagedFidoRecipient (id : RecipientId) (policy : FidoPolicy)
    (enrollment : ManagedEnrollment) :
    Causes hears interruption
      (p.finishManagedFidoRecipient e root id label policy operation enrollment) := by
  refine causes_validateCredential_bind e ?_
  refine causes_bind (h.causes_randomArray 32) fun prfNonce => ?_
  refine causes_bind (h.causes_randomArray 12) fun fidoNonce => ?_
  refine causes_except_bind (refusals_prfInput innocent_invalidEnvelope _ _ _) fun input _ => ?_
  refine causes_answer_bind (fun _ _ => h.evaluateManagedEnrollment) fun prf => ?_
  refine causes_except_bind (refusals_deriveFidoKey innocent_invalidEnvelope _ _ _ prf)
    fun key _ => ?_
  exact causes_except_bind (refusals_wrapFidoRoot innocent_invalidEnvelope _ _ _ _ _)
    fun _ _ => causes_pure _

/-- **The cleanup of a failed enrollment** ends with the failure that led to it, or hides every
callback behind the credential that may remain. -/
theorem causesFrom_cleanupThenThrow {α : Type} {u : List InteractionError} {original : Error}
    (horiginal : Causal interruption u (.error original : Result α)) (id : RecipientId)
    (enrollment : ManagedEnrollment) :
    CausesFrom hears interruption u (do
      throw (← p.cleanupFailedManagedEnrollment enrollment id label original) : Host α) := by
  unfold KeyProtector.cleanupFailedManagedEnrollment
  rw [bind_assoc]
  refine causesFrom_lift_bind (Program.hears_ask (R := fun v (r : DeviceReply Unit) =>
    Causal interruption v r.result) fun _ _ => h.cleanupManagedEnrollment) fun v reply hreply => ?_
  rw [pure_bind]
  cases hresult : reply.result with
  | ok cleaned =>
      rw [hresult] at hreply
      rw [hreply.nil_of_ok, List.append_nil]
      exact causesFrom_throw horiginal
  | error error => exact causesFrom_throw (causal_masked innocent_masked _)

theorem causes_enrollManagedFidoRecipient (policy : FidoPolicy) :
    Causes hears interruption
      (p.enrollManagedFidoRecipient e root label policy operation) := by
  refine causes_bind (h.causes_uniqueRecipientId e) fun id => ?_
  refine causes_answer_bind (fun _ _ => h.enrollManaged) fun enrollment => ?_
  refine causes_outcome_bind
    (h.causes_finishManagedFidoRecipient p e root label operation id policy enrollment)
    (fun finished => causes_pure _) fun u error herror => ?_
  exact h.causesFrom_cleanupThenThrow p label herror id enrollment

theorem causes_enrollRecipient (enrollment : Enrollment) :
    Causes hears interruption (p.enrollRecipient e root enrollment operation) := by
  unfold KeyProtector.enrollRecipient
  have hinvalid : interruption.Innocent .invalidPassphraseParameters := nofun
  split
  · refine causes_except_bind (errors_okOr hinvalid) fun parameters _ => ?_
    exact causes_bind (h.causes_enrollPassphraseRecipient p e root _ operation parameters)
      fun _ => causes_pure _
  · exact causesFrom_throw (causal_of_errors (errors_throw innocent_invalidEnvelope))
  · exact causesFrom_throw (causal_of_errors (errors_throw innocent_invalidEnvelope))
  · exact causes_bind (h.causes_enrollFidoRecipient p e root _ operation _) fun _ => causes_pure _
  · exact h.causes_enrollManagedFidoRecipient p e root _ operation _
  · refine causes_except_bind (errors_okOr hinvalid) fun parameters _ => ?_
    exact causes_bind (h.causes_enrollCombinedRecipient p e root _ operation _ parameters)
      fun _ => causes_pure _

omit h in
theorem unprompted_stageExistingRecord (staged : KeyEnvelope) (id : RecipientId)
    (keys : RecoveryKeys) :
    Errors (KeyProtector.stageExistingRecord staged id root keys) interruption.Innocent :=
  refusals_stageExistingRecord innocent_invalidEnvelope innocent_unlockFailed
    innocent_recipientNotFound staged id root keys

theorem causes_stageEnrollment (record : RecipientRecord) (keys : RecoveryKeys)
    (managed : Option ManagedEnrollment) :
    Causes hears interruption (p.stageEnrollment e record root keys managed) := by
  unfold KeyProtector.stageEnrollment
  cases hstage : KeyProtector.stageRecord e record root keys with
  | ok staged => exact causes_pure staged
  | error error =>
      have herror := unprompted_stageExistingRecord root _ record.id keys error hstage
      cases managed with
      | none => exact causesFrom_throw (causal_of_errors (errors_throw herror))
      | some enrollment =>
          dsimp only
          split
          · exact h.causesFrom_cleanupThenThrow p _ (causal_of_errors (errors_throw herror)) _ _
          · exact causesFrom_throw (causal_of_errors (errors_throw nofun))

end Enrollments

/-! ## Operations -/

section Operations

variable (p : KeyProtector) (e : KeyEnvelope) (root : RootKey) (label : String)
  (operation : Operation) (id : RecipientId)

theorem causes_protectRootForOperation (enrollment : Enrollment) :
    Causes hears interruption (p.protectRootForOperation root enrollment operation) := by
  refine causes_except_bind (refusals_admitEnrollment innocent_passphraseLimitExceeded p enrollment)
    fun _ _ => ?_
  refine causes_bind (h.causes_randomArray 32) fun envelopeId => ?_
  refine causes_bind (h.causes_enrollRecipient p _ root operation enrollment) fun enrolled => ?_
  exact causes_bind (h.causes_stageEnrollment p _ root _ _ _) fun staged => causes_pure _

theorem causes_createRoot (enrollment : Enrollment) :
    Causes hears interruption (p.createRoot enrollment) := by
  refine causes_bind (causes_bind (h.causes_randomArray 32) fun _ => causes_pure _) fun root => ?_
  exact causes_bind (h.causes_protectRootForOperation p root .createRoot enrollment)
    fun _ => causes_pure _

omit h in
theorem unprompted_stageRecord (record : RecipientRecord) (keys : RecoveryKeys) :
    Errors (KeyProtector.stageRecord e record root keys) interruption.Innocent :=
  unprompted_stageExistingRecord root _ record.id keys

theorem causes_protectRootWithFidoAndLocalSecretForOperation :
    Causes hears interruption
      (p.protectRootWithFidoAndLocalSecretForOperation root label operation) := by
  refine causes_except_bind (refusals_validateDedicatedLabel innocent_invalidLabel label)
    fun label _ => ?_
  refine causes_bind (h.causes_randomArray 32) fun envelopeId => ?_
  refine causes_bind (h.causes_enrollFidoLocalRecipient p _ root label operation) fun enrolled => ?_
  exact causes_except_bind (unprompted_stageRecord _ root _ _) fun _ _ => causes_pure _

theorem causes_createRootWithFidoAndLocalSecret :
    Causes hears interruption (p.createRootWithFidoAndLocalSecret label) := by
  refine causes_bind (causes_bind (h.causes_randomArray 32) fun _ => causes_pure _) fun root => ?_
  exact causes_bind (h.causes_protectRootWithFidoAndLocalSecretForOperation p root label .createRoot)
    fun _ => causes_pure _

/-! ### Unlocking -/

omit h in
theorem unprompted_authenticateRoot :
    Errors (KeyProtector.authenticateRoot e root) interruption.Innocent :=
  refusals_authenticateRoot innocent_invalidEnvelope innocent_unlockFailed e root

theorem causes_openRecord (record : RecipientRecord) :
    Causes hears interruption (p.openRecord e record) := by
  have hfails : Causal interruption [] (.error .unlockFailed : Result RootKey) :=
    causal_of_errors (errors_throw innocent_unlockFailed)
  cases record with
  | passphrase r =>
      refine causes_bind (h.causes_requestPassphrase .unlock r.label .unlock) fun passphrase => ?_
      refine causes_bind (h.causes_derivePassphraseKey _ _ _ passphrase) fun key => ?_
      exact causesFrom_except (causal_of_errors
        (refusals_unwrapPassphraseRoot innocent_invalidEnvelope innocent_unlockFailed _ _ r key))
  | recoverySecret r => exact causesFrom_throw hfails
  | fidoAndLocalSecret r => exact causesFrom_throw hfails
  | fido r =>
      refine causes_bind (h.causes_evaluate p (.fido r) e .unlock) fun prf => ?_
      refine causes_except_bind (refusals_deriveFidoKey innocent_invalidEnvelope _ _ _ prf)
        fun key _ => ?_
      exact causesFrom_except (causal_of_errors
        (refusals_unwrapFidoRoot innocent_invalidEnvelope innocent_unlockFailed _ _ r key))
  | fidoAndPassphrase r =>
      refine causes_bind (h.causes_evaluate p (.fidoAndPassphrase r) e .unlock) fun prf => ?_
      refine causes_except_bind (refusals_deriveFidoKey innocent_invalidEnvelope _ _ _ prf)
        fun fidoKey _ => ?_
      refine causes_except_bind
        (refusals_unwrapCombinedOuter innocent_invalidEnvelope innocent_unlockFailed _ _ r fidoKey)
        fun inner _ => ?_
      refine causes_bind (h.causes_requestPassphrase .unlock r.label .unlock) fun passphrase => ?_
      refine causes_bind (h.causes_derivePassphraseKey _ _ _ passphrase) fun passphraseKey => ?_
      exact causesFrom_except (causal_of_errors (refusals_unwrapCombinedInner
        innocent_invalidEnvelope innocent_unlockFailed _ _ r inner passphraseKey))

theorem causes_unlock : Causes hears interruption (p.unlock e id) := by
  refine causes_except_bind (errors_require innocent_applicationMismatch) fun _ _ => ?_
  refine causes_except_bind (refusals_find innocent_recipientNotFound e id) fun record _ => ?_
  refine causes_except_bind (refusals_admitRecord innocent_passphraseLimitExceeded p record)
    fun _ _ => ?_
  refine causes_bind (h.causes_openRecord p e record) fun root => ?_
  exact causesFrom_except (causal_of_errors (unprompted_authenticateRoot e root))

theorem causes_unlockWithFidoAndLocalSecret (secret : LocalSecret) :
    Causes hears interruption (p.unlockWithFidoAndLocalSecret e id secret) := by
  refine causes_except_bind (errors_require innocent_applicationMismatch) fun _ _ => ?_
  refine causes_except_bind (errors_mapError fun _ => innocent_unlockFailed) fun record _ => ?_
  cases record with
  | fidoAndLocalSecret r =>
      refine causes_bind (h.causes_evaluate p (.fidoAndLocalSecret r) e .unlock) fun prf => ?_
      refine causes_except_bind
        (refusals_deriveFidoLocalKey innocent_invalidEnvelope _ _ _ prf secret) fun key _ => ?_
      refine causes_except_bind
        (refusals_unwrapFidoLocalRoot innocent_invalidEnvelope innocent_unlockFailed _ _ r key)
        fun root _ => ?_
      exact causesFrom_except (causal_of_errors (unprompted_authenticateRoot e root))
  | _ => exact causesFrom_throw (causal_of_errors (errors_throw innocent_unlockFailed))

/-! ### Updates -/

omit h in
theorem unprompted_requireAuthenticated :
    Errors (p.requireAuthenticated e root) interruption.Innocent :=
  refusals_requireAuthenticated innocent_invalidEnvelope nofun innocent_applicationMismatch p e root

theorem causes_addRecipient (enrollment : Enrollment) :
    Mutating.Causes hears interruption (p.addRecipient root enrollment) := by
  refine Mutating.causes_get_bind fun e => ?_
  refine Mutating.causes_except_bind (unprompted_requireAuthenticated p e root) fun _ _ => ?_
  refine Mutating.causes_except_bind (errors_require innocent_tooManyRecipients) fun _ _ => ?_
  refine Mutating.causes_except_bind
    (refusals_admitEnrollment innocent_passphraseLimitExceeded p enrollment) fun _ _ => ?_
  refine Mutating.causes_lift_bind (h.causes_enrollRecipient p e root .addRecipient enrollment)
    fun enrolled => ?_
  refine Mutating.causes_lift_bind (h.causes_stageEnrollment p e root _ _ _) fun staged => ?_
  exact Mutating.causes_set_pure staged _

theorem causes_addFidoAndLocalSecret :
    Mutating.Causes hears interruption (p.addFidoAndLocalSecret root label) := by
  refine Mutating.causes_get_bind fun e => ?_
  refine Mutating.causes_except_bind (unprompted_requireAuthenticated p e root) fun _ _ => ?_
  refine Mutating.causes_except_bind (errors_require innocent_tooManyRecipients) fun _ _ => ?_
  refine Mutating.causes_except_bind (refusals_validateDedicatedLabel innocent_invalidLabel label)
    fun label _ => ?_
  refine Mutating.causes_lift_bind (h.causes_enrollFidoLocalRecipient p e root label .addRecipient)
    fun enrolled => ?_
  refine Mutating.causes_except_bind (unprompted_stageRecord e root _ _) fun staged _ => ?_
  exact Mutating.causes_set_pure staged _

theorem causes_rewrapPassphraseRecord (old : PassphraseRecipient)
    (parameters : PassphraseParameters) :
    Causes hears interruption (p.rewrapPassphraseRecord e root old parameters) := by
  refine causes_bind (h.causes_uniqueSalt e) fun salt => ?_
  refine causes_bind (h.causes_freshArray old.passphraseNonce) fun passphraseNonce => ?_
  refine causes_bind (h.causes_requestNewPassphrase .rewrapPassphrase _) fun passphrase => ?_
  refine causes_bind (h.causes_derivePassphraseKey _ _ _ passphrase) fun key => ?_
  exact causes_except_bind (refusals_wrapPassphraseRoot innocent_invalidEnvelope _ _ _ _ _)
    fun _ _ => causes_pure _

theorem causes_rewrapCombinedRecord (old : FidoAndPassphraseRecipient)
    (parameters : PassphraseParameters) :
    Causes hears interruption (p.rewrapCombinedRecord e root old parameters) := by
  refine causes_bind (h.causes_freshArray old.prfNonce) fun prfNonce => ?_
  refine causes_bind (h.causes_freshArray old.fidoNonce) fun fidoNonce => ?_
  refine causes_bind (h.causes_uniqueSalt e) fun salt => ?_
  refine causes_bind (h.causes_freshArray old.passphraseNonce) fun passphraseNonce => ?_
  refine causes_bind (h.causes_evaluate p _ e .rewrapPassphrase) fun prf => ?_
  refine causes_except_bind (refusals_deriveFidoKey innocent_invalidEnvelope _ _ _ prf)
    fun fidoKey _ => ?_
  refine causes_bind (h.causes_requestNewPassphrase .rewrapPassphrase _) fun passphrase => ?_
  refine causes_bind (h.causes_derivePassphraseKey _ _ _ passphrase) fun passphraseKey => ?_
  exact causes_except_bind (refusals_wrapCombinedRoot innocent_invalidEnvelope _ _ _ _ _ _)
    fun _ _ => causes_pure _

theorem causes_rewrapRecord (current : RecipientRecord) (parameters : PassphraseParameters) :
    Causes hears interruption (p.rewrapRecord e root current parameters) := by
  have hnone : Causal interruption []
      (.error .recipientDoesNotUsePassphrase : Result (RecipientRecord × RecoveryKeys)) :=
    causal_of_errors (errors_throw nofun)
  cases current with
  | passphrase old => exact h.causes_rewrapPassphraseRecord p e root old parameters
  | fidoAndPassphrase old => exact h.causes_rewrapCombinedRecord p e root old parameters
  | _ => exact causesFrom_throw hnone

theorem causes_rewrapPassphraseInner (parameters : PassphraseParameters) :
    Mutating.Causes hears interruption (p.rewrapPassphraseInner root id parameters) := by
  refine Mutating.causes_get_bind fun e => ?_
  refine Mutating.causes_except_bind (errors_require innocent_applicationMismatch) fun _ _ => ?_
  refine Mutating.causes_except_bind (refusals_find innocent_recipientNotFound e id)
    fun current _ => ?_
  refine Mutating.causes_except_bind (errors_require nofun) fun _ _ => ?_
  refine Mutating.causes_except_bind (refusals_verifyEnvelopeMac innocent_invalidEnvelope nofun e root)
    fun _ _ => ?_
  refine Mutating.causes_except_bind (errors_require innocent_passphraseLimitExceeded) fun _ _ => ?_
  refine Mutating.causes_lift_bind (h.causes_rewrapRecord p e root current parameters)
    fun rewrapped => ?_
  refine Mutating.causes_except_bind (errors_mapError fun _ => innocent_recipientNotFound)
    fun index _ => ?_
  refine Mutating.causes_except_bind (unprompted_stageExistingRecord root _ id _) fun staged _ => ?_
  exact Mutating.causes_set staged

theorem causes_rewrapPassphrase :
    Mutating.Causes hears interruption (p.rewrapPassphrase root id) := by
  refine Mutating.causes_get_bind fun e => ?_
  refine Mutating.causes_except_bind (errors_require innocent_applicationMismatch) fun _ _ => ?_
  refine Mutating.causes_except_bind (refusals_find innocent_recipientNotFound e id)
    fun record _ => ?_
  refine Mutating.causes_except_bind (errors_okOr nofun) fun parameters _ => ?_
  exact h.causes_rewrapPassphraseInner p root id parameters

/-! ### Managed credentials -/

omit h in
theorem unprompted_managedRequest :
    Errors (p.managedRequest e root id operation) interruption.Innocent := by
  refine errors_bind (unprompted_requireAuthenticated p e root) fun _ _ => ?_
  refine errors_bind (refusals_find innocent_recipientNotFound e id) fun record _ => ?_
  cases record with
  | fido inner => exact errors_bind (errors_require nofun) fun _ _ => errors_ok ⟨_, rfl⟩
  | _ => exact errors_throw nofun

theorem causes_verifyManagedRecipient :
    Causes hears interruption (p.verifyManagedRecipient e root id) := by
  refine causes_except_bind (unprompted_managedRequest p e root .verifyManagedRecipient id)
    fun request _ => ?_
  exact causes_answer fun _ _ => h.verifyManaged

theorem causes_retireManagedRecipient :
    Causes hears interruption (p.retireManagedRecipient e root id) := by
  refine causes_except_bind (unprompted_managedRequest p e root .retireManagedRecipient id)
    fun request _ => ?_
  exact causes_answer fun _ _ => h.retireManaged

end Operations

end Faithful

/-- **`Interacts p t r`** — a call of an operation that takes the callbacks of the application, and how
it ended. -/
inductive KeyProtector.Interacts (p : KeyProtector) (t : Trace host) : Result Unit → Prop
  | createRoot {enrollment r} : (p.createRoot enrollment).run.Runs t r →
      Interacts p t (r.map fun _ => ())
  | protectRoot {root enrollment r} : (p.protectRoot root enrollment).run.Runs t r →
      Interacts p t (r.map fun _ => ())
  | unlock {e id r} : (p.unlock e id).run.Runs t r → Interacts p t (r.map fun _ => ())
  | addRecipient {root enrollment e r e'} : (p.addRecipient root enrollment).Runs e t r e' →
      Interacts p t (r.map fun _ => ())
  | rewrapPassphrase {root id e r e'} : (p.rewrapPassphrase root id).Runs e t r e' →
      Interacts p t (r.map fun _ => ())
  | rewrapPassphraseWithParameters {root id parameters e r e'} :
      (p.rewrapPassphraseWithParameters root id parameters).Runs e t r e' →
        Interacts p t (r.map fun _ => ())
  | verifyManagedRecipient {e root id r} : (p.verifyManagedRecipient e root id).run.Runs t r →
      Interacts p t (r.map fun _ => ())
  | retireManagedRecipient {e root id r} : (p.retireManagedRecipient e root id).run.Runs t r →
      Interacts p t (r.map fun _ => ())
  | createRootWithFidoAndLocalSecret {label r} :
      (p.createRootWithFidoAndLocalSecret label).run.Runs t r → Interacts p t (r.map fun _ => ())
  | protectRootWithFidoAndLocalSecret {root label r} :
      (p.protectRootWithFidoAndLocalSecret root label).run.Runs t r →
        Interacts p t (r.map fun _ => ())
  | addFidoAndLocalSecret {root label e r e'} :
      (p.addFidoAndLocalSecret root label).Runs e t r e' → Interacts p t (r.map fun _ => ())
  | unlockWithFidoAndLocalSecret {e id secret r} :
      (p.unlockWithFidoAndLocalSecret e id secret).run.Runs t r → Interacts p t (r.map fun _ => ())

/-- **Every operation ends as its callbacks say**, over any backend that does. -/
theorem Faithful.causal {hears : Event host → List InteractionError → Prop} (h : Faithful hears)
    {p : KeyProtector} {t : Trace host} {r : Result Unit} (hinteracts : p.Interacts t r)
    {u : List InteractionError} (hheard : Heard hears t u) : Causal interruption u r := by
  have hfallible {α : Type} {x : Host α} {r : Result α} (hx : Causes hears interruption x)
      (hrun : x.run.Runs t r) : Causal interruption u (r.map fun _ => ()) :=
    Causal.map (hx t r u hrun hheard)
  have hmutating {α : Type} {x : HostMut α} {r : Result α} {e e' : KeyEnvelope}
      (hx : Mutating.Causes hears interruption x) (hrun : x.Runs e t r e') :
      Causal interruption u (r.map fun _ => ()) :=
    Causal.map (hx t e r e' u hrun hheard)
  cases hinteracts with
  | createRoot hrun => exact hfallible (h.causes_createRoot p _) hrun
  | protectRoot hrun => exact hfallible (h.causes_protectRootForOperation p _ .protectRoot _) hrun
  | unlock hrun => exact hfallible (h.causes_unlock p _ _) hrun
  | addRecipient hrun => exact hmutating (h.causes_addRecipient p _ _) hrun
  | rewrapPassphrase hrun => exact hmutating (h.causes_rewrapPassphrase p _ _) hrun
  | rewrapPassphraseWithParameters hrun =>
      exact hmutating (h.causes_rewrapPassphraseInner p _ _ _) hrun
  | verifyManagedRecipient hrun => exact hfallible (h.causes_verifyManagedRecipient p _ _ _) hrun
  | retireManagedRecipient hrun => exact hfallible (h.causes_retireManagedRecipient p _ _ _) hrun
  | createRootWithFidoAndLocalSecret hrun =>
      exact hfallible (h.causes_createRootWithFidoAndLocalSecret p _) hrun
  | protectRootWithFidoAndLocalSecret hrun =>
      exact hfallible
        (h.causes_protectRootWithFidoAndLocalSecretForOperation p _ _ .protectRoot) hrun
  | addFidoAndLocalSecret hrun => exact hmutating (h.causes_addFidoAndLocalSecret p _ _) hrun
  | unlockWithFidoAndLocalSecret hrun =>
      exact hfallible (h.causes_unlockWithFidoAndLocalSecret p _ _ _) hrun

end FidoKeyWrap
