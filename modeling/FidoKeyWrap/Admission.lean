/-
# FidoKeyWrap.Admission — no interaction before admission.

`Call` lists the public operations with their arguments, and `Call.Admitted` the checks each one
makes before it may prompt or talk to an authenticator. Every run of an operation that has such an
event passed all of them (`admitted_of_interaction`), whatever the envelope, the root and the
replies; an operation that never interacts is admitted under no condition.
-/
import FidoKeyWrap.EnvelopeMac
import FidoKeyWrap.Protector

namespace FidoKeyWrap

open ByteData Interact

variable [Primitives]

/-! ## Operations and their runs -/

/-- One call of a public operation. -/
inductive Call where
  | createRoot (enrollment : Enrollment)
  | protectRoot (root : RootKey) (enrollment : Enrollment)
  | createRootWithRecoverySecret (label : String)
  | protectRootWithRecoverySecret (root : RootKey) (label : String)
  | createRootWithFidoAndLocalSecret (label : String)
  | protectRootWithFidoAndLocalSecret (root : RootKey) (label : String)
  | unlock (envelope : KeyEnvelope) (recipient : RecipientId)
  | unlockWithRecoverySecret (envelope : KeyEnvelope) (recipient : RecipientId)
      (secret : RecoverySecret)
  | unlockWithFidoAndLocalSecret (envelope : KeyEnvelope) (recipient : RecipientId)
      (secret : LocalSecret)
  | addRecipient (envelope : KeyEnvelope) (root : RootKey) (enrollment : Enrollment)
  | addRecoverySecret (envelope : KeyEnvelope) (root : RootKey) (label : String)
  | addFidoAndLocalSecret (envelope : KeyEnvelope) (root : RootKey) (label : String)
  | removeRecipient (envelope : KeyEnvelope) (root : RootKey) (recipient : RecipientId)
  | verifyManagedRecipient (envelope : KeyEnvelope) (root : RootKey) (recipient : RecipientId)
  | retireManagedRecipient (envelope : KeyEnvelope) (root : RootKey) (recipient : RecipientId)
  | rewrapPassphrase (envelope : KeyEnvelope) (root : RootKey) (recipient : RecipientId)
  | rewrapPassphraseWithParameters (envelope : KeyEnvelope) (root : RootKey)
      (recipient : RecipientId) (parameters : PassphraseParameters)

/-- The call may have the trace `t`, whatever it returns. -/
def Call.Runs (p : KeyProtector) (t : Trace host) : Call → Prop
  | createRoot enrollment => ∃ r, (p.createRoot enrollment).run.Runs t r
  | protectRoot root enrollment => ∃ r, (p.protectRoot root enrollment).run.Runs t r
  | createRootWithRecoverySecret label => ∃ r, (p.createRootWithRecoverySecret label).run.Runs t r
  | protectRootWithRecoverySecret root label =>
    ∃ r, (p.protectRootWithRecoverySecret root label).run.Runs t r
  | createRootWithFidoAndLocalSecret label =>
    ∃ r, (p.createRootWithFidoAndLocalSecret label).run.Runs t r
  | protectRootWithFidoAndLocalSecret root label =>
    ∃ r, (p.protectRootWithFidoAndLocalSecret root label).run.Runs t r
  | unlock e id => ∃ r, (p.unlock e id).run.Runs t r
  | unlockWithRecoverySecret e id secret =>
    ∃ r, (liftM (p.unlockWithRecoverySecret e id secret) : Host RootKey).run.Runs t r
  | unlockWithFidoAndLocalSecret e id secret =>
    ∃ r, (p.unlockWithFidoAndLocalSecret e id secret).run.Runs t r
  | addRecipient e root enrollment => ∃ r e', (p.addRecipient root enrollment).Runs e t r e'
  | addRecoverySecret e root label => ∃ r e', (p.addRecoverySecret root label).Runs e t r e'
  | addFidoAndLocalSecret e root label =>
    ∃ r e', (p.addFidoAndLocalSecret root label).Runs e t r e'
  | removeRecipient e root id => ∃ r e', (p.removeRecipient root id).Runs e t r e'
  | verifyManagedRecipient e root id => ∃ r, (p.verifyManagedRecipient e root id).run.Runs t r
  | retireManagedRecipient e root id => ∃ r, (p.retireManagedRecipient e root id).run.Runs t r
  | rewrapPassphrase e root id => ∃ r e', (p.rewrapPassphrase root id).Runs e t r e'
  | rewrapPassphraseWithParameters e root id parameters =>
    ∃ r e', (p.rewrapPassphraseWithParameters root id parameters).Runs e t r e'

/-! ## Checks -/

namespace KeyProtector

/-- The envelope is of this application and authenticated by the root. -/
def Authenticates (p : KeyProtector) (root : RootKey) (e : KeyEnvelope) : Prop :=
  e.applicationId = p.applicationId ∧ Crypto.computeEnvelopeMac e root = .ok e.mac

/-- The parameters, if there are any, are within the local limits. -/
def Admits (p : KeyProtector) (parameters : Option PassphraseParameters) : Prop :=
  ∀ q, parameters = some q → p.passphraseLimits.accepts q = true

end KeyProtector

/-- The checks of an operation. -/
def Call.Admitted (p : KeyProtector) : Call → Prop
  | createRoot enrollment | protectRoot _ enrollment => p.Admits enrollment.parameters
  | createRootWithFidoAndLocalSecret label | protectRootWithFidoAndLocalSecret _ label =>
    validateLabel label = true
  | unlock e id =>
    e.applicationId = p.applicationId ∧
      ∃ r ∈ e.recipients, r.id = id ∧ p.Admits r.passphraseParameters ∧
        r.policy ≠ .recoverySecret ∧ r.policy ≠ .fidoPresenceAndLocalSecret
  | unlockWithFidoAndLocalSecret e id _ =>
    e.applicationId = p.applicationId ∧
      ∃ r ∈ e.recipients, r.id = id ∧ r.policy = .fidoPresenceAndLocalSecret
  | addRecipient e root enrollment =>
    p.Authenticates root e ∧ e.recipients.length < maxRecipients ∧ p.Admits enrollment.parameters
  | addFidoAndLocalSecret e root label =>
    p.Authenticates root e ∧ e.recipients.length < maxRecipients ∧ validateLabel label = true
  | rewrapPassphrase e root id =>
    p.Authenticates root e ∧
      ∃ r ∈ e.recipients, r.id = id ∧ r.policy.usesPassphrase = true ∧
        ∃ q, r.passphraseParameters = some q ∧ p.passphraseLimits.accepts q = true
  | rewrapPassphraseWithParameters e root id parameters =>
    p.Authenticates root e ∧ p.passphraseLimits.accepts parameters = true ∧
      ∃ r ∈ e.recipients, r.id = id ∧ r.policy.usesPassphrase = true
  | verifyManagedRecipient e root id | retireManagedRecipient e root id =>
    p.Authenticates root e ∧
      ∃ r ∈ e.recipients, r.id = id ∧ ∃ policy, r.policy = .managedFido policy
  | createRootWithRecoverySecret _ | protectRootWithRecoverySecret .. => False
  | unlockWithRecoverySecret .. | addRecoverySecret .. | removeRecipient .. => False

/-! ## The checks, passed -/

omit [Primitives] in
theorem requireApplication_eq_ok {p : KeyProtector} {e : KeyEnvelope} {u : Unit} :
    p.requireApplication e = .ok u ↔ e.applicationId = p.applicationId := by
  simp only [KeyProtector.requireApplication, require_eq_ok]

theorem requireAuthenticated_eq_ok {p : KeyProtector} {e : KeyEnvelope} {root : RootKey}
    {u : Unit} : p.requireAuthenticated e root = .ok u ↔ p.Authenticates root e := by
  simp only [KeyProtector.requireAuthenticated, except_bind_eq_ok, requireApplication_eq_ok,
    Crypto.verifyEnvelopeMac_eq_ok, KeyProtector.Authenticates, exists_const]

omit [Primitives] in
theorem admitParameters_eq_ok {p : KeyProtector} {q : PassphraseParameters} {u : Unit} :
    p.admitParameters q = .ok u ↔ p.passphraseLimits.accepts q = true := by
  simp only [KeyProtector.admitParameters, require_eq_ok]

omit [Primitives] in
theorem admitEnrollment_eq_ok {p : KeyProtector} {enrollment : Enrollment} {u : Unit} :
    p.admitEnrollment enrollment = .ok u ↔ p.Admits enrollment.parameters := by
  unfold KeyProtector.admitEnrollment KeyProtector.Admits
  cases enrollment.parameters with
  | none => simp [pure, Except.pure]
  | some q => simp [admitParameters_eq_ok]

omit [Primitives] in
theorem admitRecord_eq_ok {p : KeyProtector} {r : RecipientRecord} {u : Unit} :
    p.admitRecord r = .ok u ↔ p.Admits r.passphraseParameters := by
  unfold KeyProtector.admitRecord KeyProtector.Admits
  cases r.passphraseParameters with
  | none => simp [pure, Except.pure]
  | some q => simp [admitParameters_eq_ok]

omit [Primitives] in
theorem validateDedicatedLabel_eq_ok {label label' : String} :
    validateDedicatedLabel label = .ok label' ↔ validateLabel label = true ∧ label' = label := by
  simp only [validateDedicatedLabel, except_bind_eq_ok, require_eq_ok, except_pure_eq_ok,
    exists_const]

/-! ## Quiet programs -/

/-- An event that reaches the user or an authenticator. -/
def Loud (event : Event host) : Prop := event.query.Interacts

section Quiet

variable {A : Prop}

theorem guards_randomArray (n : Nat) : Program.Guards Loud (randomArray n).run A := by
  apply Fallible.guards_bind
  · exact Program.guards_bind (Program.guards_ask fun _ => id) fun _ a _ => Program.guards_pure _
  · intro drawn
    exact Fallible.guards_except _

theorem guards_newRecoverySecretRecord (e : KeyEnvelope) (root : RootKey) (label : String) :
    Program.Guards Loud (KeyProtector.newRecoverySecretRecord e root label).run A := by
  apply Fallible.guards_bind
  · exact Fallible.guards_bind (guards_randomArray 32) fun _ => Program.guards_pure _
  intro secret
  apply Fallible.guards_bind
  · apply guards_attempts
    exact Fallible.guards_bind (guards_randomArray 32) fun _ => Program.guards_pure _
  intro id
  refine Fallible.guards_bind (guards_randomArray 12) fun nonce => ?_
  apply Fallible.guards_except_bind
  intro key hkey
  apply Fallible.guards_except_bind
  intro wrappedRoot hwrapped
  exact Program.guards_pure _

end Quiet

/-! ## Creation -/

theorem guards_protectRootForOperation (p : KeyProtector) (root : RootKey)
    (enrollment : Enrollment) (operation : Operation) :
    Program.Guards Loud (p.protectRootForOperation root enrollment operation).run
      (p.Admits enrollment.parameters) := by
  apply Fallible.guards_except_bind
  intro _ hadmit
  exact Program.guards_of _ (admitEnrollment_eq_ok.mp hadmit)

theorem guards_protectRootWithFidoAndLocalSecret (p : KeyProtector) (root : RootKey)
    (label : String) (operation : Operation) :
    Program.Guards Loud
      (p.protectRootWithFidoAndLocalSecretForOperation root label operation).run
      (validateLabel label = true) := by
  apply Fallible.guards_except_bind
  intro _ hlabel
  exact Program.guards_of _ (validateDedicatedLabel_eq_ok.mp hlabel).1

theorem guards_protectRootWithRecoverySecret (p : KeyProtector) (root : RootKey) (label : String) :
    Program.Guards Loud (p.protectRootWithRecoverySecret root label).run False := by
  apply Fallible.guards_except_bind
  intro label' hlabel
  refine Fallible.guards_bind (guards_randomArray 32) fun envelopeId => ?_
  refine Fallible.guards_bind (guards_newRecoverySecretRecord _ root label') fun record => ?_
  apply Fallible.guards_except_bind
  intro staged hstaged
  exact Program.guards_pure _

/-- Drawing a root first changes nothing. -/
theorem guards_random_bind {α : Type} {A : Prop} {f : RootKey → Host α}
    (hf : ∀ root, Program.Guards Loud (f root).run A) :
    Program.Guards Loud (RootKey.random >>= f).run A :=
  Fallible.guards_bind (Fallible.guards_bind (guards_randomArray 32) fun _ => Program.guards_pure _)
    hf

/-! ## Unlocking -/

theorem guards_unlock (p : KeyProtector) (e : KeyEnvelope) (id : RecipientId) :
    Program.Guards Loud (p.unlock e id).run (Call.Admitted p (.unlock e id)) := by
  apply Fallible.guards_except_bind
  intro _ happ
  apply Fallible.guards_except_bind
  intro record hfind
  apply Fallible.guards_except_bind
  intro _ hadmit
  rw [requireApplication_eq_ok] at happ
  rw [admitRecord_eq_ok] at hadmit
  obtain ⟨hmem, hid⟩ := find_sound hfind
  -- the two suites with an unlock of their own are refused before anything is asked
  have hserved (hrecovery : record.policy ≠ .recoverySecret)
      (hlocal : record.policy ≠ .fidoPresenceAndLocalSecret) :
      Call.Admitted p (.unlock e id) :=
    ⟨happ, record, hmem, hid, hadmit, hrecovery, hlocal⟩
  cases record with
  | passphrase r => exact Program.guards_of _ (hserved (by simp [RecipientRecord.policy])
      (by simp [RecipientRecord.policy]))
  | fidoAndPassphrase r => exact Program.guards_of _ (hserved (by simp [RecipientRecord.policy])
      (by simp [RecipientRecord.policy]))
  | fido r =>
      apply Program.guards_of
      apply hserved <;> cases hs : r.storage <;> simp [RecipientRecord.policy, hs]
  | recoverySecret r => exact Program.guards_pure _
  | fidoAndLocalSecret r => exact Program.guards_pure _

theorem guards_unlockWithFidoAndLocalSecret (p : KeyProtector) (e : KeyEnvelope)
    (id : RecipientId) (secret : LocalSecret) :
    Program.Guards Loud (p.unlockWithFidoAndLocalSecret e id secret).run
      (Call.Admitted p (.unlockWithFidoAndLocalSecret e id secret)) := by
  apply Fallible.guards_except_bind
  intro _ happ
  apply Fallible.guards_except_bind
  intro record hfind
  rw [requireApplication_eq_ok] at happ
  obtain ⟨hmem, hid⟩ := find_sound (except_mapError_eq_ok.mp hfind)
  cases record with
  | fidoAndLocalSecret r => exact Program.guards_of _ ⟨happ, _, hmem, hid, rfl⟩
  | _ => exact Program.guards_pure _

/-! ## Updates -/

/-- The head of the three additions: authentication, then room. -/
theorem guards_add {α : Type} {A : Prop} {p : KeyProtector} {root : RootKey} {e : KeyEnvelope}
    {f : KeyEnvelope → HostMut α}
    (hf : p.Authenticates root e → e.recipients.length < maxRecipients →
      Program.Guards Loud (StateT.run (f e).run e) A) :
    Program.Guards Loud (StateT.run (do
      let envelope ← get
      p.requireAuthenticated envelope root
      require (envelope.recipients.length < maxRecipients) Error.tooManyRecipients
      f envelope : HostMut α).run e) A := by
  apply Mutating.guards_get_bind
  apply Mutating.guards_except_bind
  intro _ hauth
  apply Mutating.guards_except_bind
  intro _ hroom
  exact hf (requireAuthenticated_eq_ok.mp hauth) (require_eq_ok.mp hroom)

theorem guards_addRecipient (p : KeyProtector) (e : KeyEnvelope) (root : RootKey)
    (enrollment : Enrollment) :
    Program.Guards Loud (StateT.run (p.addRecipient root enrollment).run e)
      (Call.Admitted p (.addRecipient e root enrollment)) := by
  apply guards_add
  intro hauth hroom
  apply Mutating.guards_except_bind
  intro _ hadmit
  exact Program.guards_of _ ⟨hauth, hroom, admitEnrollment_eq_ok.mp hadmit⟩

theorem guards_addFidoAndLocalSecret (p : KeyProtector) (e : KeyEnvelope) (root : RootKey)
    (label : String) :
    Program.Guards Loud (StateT.run (p.addFidoAndLocalSecret root label).run e)
      (Call.Admitted p (.addFidoAndLocalSecret e root label)) := by
  apply guards_add
  intro hauth hroom
  apply Mutating.guards_except_bind
  intro _ hlabel
  exact Program.guards_of _ ⟨hauth, hroom, (validateDedicatedLabel_eq_ok.mp hlabel).1⟩

theorem guards_addRecoverySecret (p : KeyProtector) (e : KeyEnvelope) (root : RootKey)
    (label : String) :
    Program.Guards Loud (StateT.run (p.addRecoverySecret root label).run e) False := by
  apply guards_add
  intro _ _
  apply Mutating.guards_except_bind
  intro label' _
  refine Mutating.guards_lift_bind (guards_newRecoverySecretRecord e root label') fun record => ?_
  apply Mutating.guards_except_bind
  intro staged _
  exact Program.guards_pure _

theorem guards_removeRecipient (p : KeyProtector) (e : KeyEnvelope) (root : RootKey)
    (id : RecipientId) :
    Program.Guards Loud (StateT.run (p.removeRecipient root id).run e) False := by
  apply Mutating.guards_get_bind
  -- seven checks and computations, none of which asks anything
  iterate 7
    apply Mutating.guards_except_bind
    intro _ _
  exact Program.guards_pure _

/-- The new parameters are checked last, after the root has authenticated the envelope. -/
theorem guards_rewrapPassphraseInner (p : KeyProtector) (e : KeyEnvelope) (root : RootKey)
    (id : RecipientId) (parameters : PassphraseParameters) :
    Program.Guards Loud (StateT.run (p.rewrapPassphraseInner root id parameters).run e)
      (Call.Admitted p (.rewrapPassphraseWithParameters e root id parameters)) := by
  apply Mutating.guards_get_bind
  apply Mutating.guards_except_bind
  intro _ happ
  apply Mutating.guards_except_bind
  intro current hfind
  apply Mutating.guards_except_bind
  intro _ huses
  apply Mutating.guards_except_bind
  intro _ hmac
  apply Mutating.guards_except_bind
  intro _ hadmit
  obtain ⟨hmem, hid⟩ := find_sound hfind
  exact Program.guards_of _ ⟨⟨requireApplication_eq_ok.mp happ,
    Crypto.verifyEnvelopeMac_eq_ok.mp hmac⟩, admitParameters_eq_ok.mp hadmit, current, hmem, hid,
    require_eq_ok.mp huses⟩

theorem guards_rewrapPassphrase (p : KeyProtector) (e : KeyEnvelope) (root : RootKey)
    (id : RecipientId) :
    Program.Guards Loud (StateT.run (p.rewrapPassphrase root id).run e)
      (Call.Admitted p (.rewrapPassphrase e root id)) := by
  apply Mutating.guards_get_bind
  apply Mutating.guards_except_bind
  intro _ _
  apply Mutating.guards_except_bind
  intro record hfind
  apply Mutating.guards_except_bind
  intro parameters hparameters
  obtain ⟨hmem, hid⟩ := find_sound hfind
  rw [okOr_eq_ok] at hparameters
  intro t r hrun hloud
  -- the inner operation repeats the first two checks; the parameters are the recorded ones
  obtain ⟨hauth, haccepts, -⟩ := guards_rewrapPassphraseInner p e root id parameters t r hrun hloud
  refine ⟨hauth, record, hmem, hid, ?_, parameters, hparameters, haccepts⟩
  cases record with
  | passphrase r => rfl
  | fidoAndPassphrase r => rfl
  | _ => cases hparameters

/-! ## Managed credentials -/

theorem managedRequest_eq_ok {p : KeyProtector} {e : KeyEnvelope} {root : RootKey}
    {id : RecipientId} {operation : Operation} {request : ManagedRequest}
    (h : p.managedRequest e root id operation = .ok request) :
    p.Authenticates root e ∧
      ∃ r ∈ e.recipients, r.id = id ∧ ∃ policy, r.policy = .managedFido policy := by
  simp only [KeyProtector.managedRequest, except_bind_eq_ok, requireAuthenticated_eq_ok] at h
  obtain ⟨-, hauth, record, hfind, h⟩ := h
  obtain ⟨hmem, hid⟩ := find_sound hfind
  cases record with
  | fido r =>
      simp only [except_bind_eq_ok, require_eq_ok] at h
      obtain ⟨-, hmanaged, -⟩ := h
      exact ⟨hauth, _, hmem, hid, r.policy, by simp [RecipientRecord.policy, hmanaged]⟩
  | _ => cases h

/-! ## Every operation -/

/-- **No interaction before admission.** If a run of an operation reaches the user or an
authenticator, every check of the operation has passed. -/
theorem admitted_of_interaction (p : KeyProtector) (call : Call) (t : Trace host)
    (hrun : call.Runs p t) (hevent : ∃ event ∈ t, event.query.Interacts) : call.Admitted p := by
  cases call with
  | createRoot enrollment =>
      obtain ⟨r, hrun⟩ := hrun
      refine guards_random_bind (fun root => ?_) t r hrun hevent
      exact Fallible.guards_bind (guards_protectRootForOperation p root enrollment .createRoot)
        fun _ => Program.guards_pure _
  | protectRoot root enrollment =>
      obtain ⟨r, hrun⟩ := hrun
      exact guards_protectRootForOperation p root enrollment .protectRoot t r hrun hevent
  | createRootWithRecoverySecret label =>
      obtain ⟨r, hrun⟩ := hrun
      refine guards_random_bind (fun root => ?_) t r hrun hevent
      exact Fallible.guards_bind (guards_protectRootWithRecoverySecret p root label)
        fun _ => Program.guards_pure _
  | protectRootWithRecoverySecret root label =>
      obtain ⟨r, hrun⟩ := hrun
      exact guards_protectRootWithRecoverySecret p root label t r hrun hevent
  | createRootWithFidoAndLocalSecret label =>
      obtain ⟨r, hrun⟩ := hrun
      refine guards_random_bind (fun root => ?_) t r hrun hevent
      exact Fallible.guards_bind
        (guards_protectRootWithFidoAndLocalSecret p root label .createRoot)
        fun _ => Program.guards_pure _
  | protectRootWithFidoAndLocalSecret root label =>
      obtain ⟨r, hrun⟩ := hrun
      exact guards_protectRootWithFidoAndLocalSecret p root label .protectRoot t r hrun hevent
  | unlock e id =>
      obtain ⟨r, hrun⟩ := hrun
      exact guards_unlock p e id t r hrun hevent
  | unlockWithRecoverySecret e id secret =>
      obtain ⟨r, hrun⟩ := hrun
      exact Fallible.guards_except _ t r hrun hevent
  | unlockWithFidoAndLocalSecret e id secret =>
      obtain ⟨r, hrun⟩ := hrun
      exact guards_unlockWithFidoAndLocalSecret p e id secret t r hrun hevent
  | addRecipient e root enrollment =>
      obtain ⟨r, e', hrun⟩ := hrun
      exact guards_addRecipient p e root enrollment t _ hrun hevent
  | addRecoverySecret e root label =>
      obtain ⟨r, e', hrun⟩ := hrun
      exact guards_addRecoverySecret p e root label t _ hrun hevent
  | addFidoAndLocalSecret e root label =>
      obtain ⟨r, e', hrun⟩ := hrun
      exact guards_addFidoAndLocalSecret p e root label t _ hrun hevent
  | removeRecipient e root id =>
      obtain ⟨r, e', hrun⟩ := hrun
      exact guards_removeRecipient p e root id t _ hrun hevent
  | verifyManagedRecipient e root id =>
      obtain ⟨r, hrun⟩ := hrun
      refine Fallible.guards_except_bind (fun request hrequest => ?_) t r hrun hevent
      exact Program.guards_of _ (managedRequest_eq_ok hrequest)
  | retireManagedRecipient e root id =>
      obtain ⟨r, hrun⟩ := hrun
      refine Fallible.guards_except_bind (fun request hrequest => ?_) t r hrun hevent
      exact Program.guards_of _ (managedRequest_eq_ok hrequest)
  | rewrapPassphrase e root id =>
      obtain ⟨r, e', hrun⟩ := hrun
      exact guards_rewrapPassphrase p e root id t _ hrun hevent
  | rewrapPassphraseWithParameters e root id parameters =>
      obtain ⟨r, e', hrun⟩ := hrun
      exact guards_rewrapPassphraseInner p e root id parameters t _ hrun hevent

section Vectors

omit [Primitives]

/-- The passphrase vector, unlocked by its user. -/
def passphraseUnlock : @Trace (@host Vector.primitives) × Result RootKey :=
  let _ := Vector.primitives
  (KeyProtector.unlock ⟨Vector.application, .desktop⟩ Vector.passphraseEnvelope
    Vector.passphraseRecord.id).run.exec Vector.environment []

/-- Unlocking the passphrase vector prompts, so its checks have passed. -/
theorem passphraseEnvelope_admitted :
    @Call.Admitted Vector.primitives ⟨Vector.application, .desktop⟩
      (.unlock Vector.passphraseEnvelope Vector.passphraseRecord.id) :=
  @admitted_of_interaction Vector.primitives _ _ passphraseUnlock.1
    ⟨_, @Program.exec_runs (@host Vector.primitives) _ Vector.environment _ []⟩
    (by decide)

end Vectors

end FidoKeyWrap
