/-
# FidoKeyWrap.CredentialLedger — what becomes of a managed credential, in any world.

A ledger is a world of the protector with an account of the credential of a managed enrollment: what
holds while nothing was made, while a session answers for the credential, and when an operation may
give it up with an error. A sound ledger says what each backend call may do to the account. Every
operation that enrolls a managed credential then closes it (`Ledger.Sound.closes`): it succeeds with a
record of the credential that its session answers for, or it fails with an error that settles the
account. Every failure on the way hands the session to the cleanup.
-/
import FidoKeyWrap.FakeEnrollment

namespace FidoKeyWrap

open ByteData Interact Fallible

variable [Primitives]

/-- **`Ledger`** — a world of the protector that keeps account of a managed enrollment. -/
structure Ledger (σ : Type) where
  step : σ → Event host → σ → Prop
  /-- Nothing was made. -/
  idle : σ → Prop
  /-- The session answers for the credential of the recipient. -/
  held : RecipientId → ManagedEnrollment → σ → Prop
  /-- Nothing is lost when the operation fails with the error. -/
  settled : Error → σ → Prop

namespace Ledger

/-- **`Sound ledger a`** — what the calls of an enrollment for the application do to the account. -/
structure Sound {σ : Type} (ledger : Ledger σ) (a : ApplicationId) : Prop where
  random : ∀ {s s' n reply}, ledger.step s ⟨.random n, reply⟩ s' → s' = s
  idle : ∀ {s e}, ledger.idle s → ledger.settled e s
  enroll : ∀ {s s' id policy label operation} {reply : DeviceReply ManagedEnrollment},
    ledger.idle s → ledger.step s ⟨.enrollManaged a id policy label operation, reply⟩ s' →
      (∀ enrollment, reply.result = .ok enrollment → ledger.held id enrollment s') ∧
        ∀ e, reply.result = .error e → ledger.settled e s'
  evaluate : ∀ {s s' id enrollment request reply}, ledger.held id enrollment s →
    ledger.step s ⟨.evaluateManagedEnrollment enrollment request, reply⟩ s' →
      ledger.held id enrollment s'
  cleanup : ∀ {s s' id enrollment request} {reply : DeviceReply Unit}, ledger.held id enrollment s →
    ledger.step s ⟨.cleanupManagedEnrollment enrollment request, reply⟩ s' →
      (reply.result = .ok () → ∀ e, ledger.settled e s') ∧
        ledger.settled (.authenticator .credentialMayRemain) s'

/-- **`Closes ledger policy r s`** — the operation returned a record of the credential that its session
answers for, or an error that settles the account. -/
def Closes {σ : Type} (ledger : Ledger σ) (policy : FidoPolicy)
    (r : Result (KeyEnvelope × RecipientId)) (s : σ) : Prop :=
  match r with
  | .ok (e, id) => ∃ (record : FidoRecipient) (enrollment : ManagedEnrollment),
    e.find id = .ok (.fido record) ∧ record.storage = .managed ∧ record.policy = policy ∧
      record.credentialId = enrollment.credential.credentialId ∧
        record.publicKey = enrollment.credential.publicKey ∧ ledger.held id enrollment s
  | .error error => ledger.settled error s

section Account

variable {σ : Type} {ledger : Ledger σ} {p : KeyProtector} {s : σ} {e : KeyEnvelope} {root : RootKey}
  {id : RecipientId} {label : String} {policy : FidoPolicy} {operation : Operation}
  {enrollment : ManagedEnrollment}

/-- Drawing moves nothing. -/
theorem Sound.drawn {α : Type} (h : ledger.Sound p.applicationId) {x : Host α}
    (hx : ∀ t r, x.run.Runs t r → Drawn t) : Fallible.Ends ledger.step s x fun _ s' => s' = s := by
  intro t r s' hrun hpath
  refine hpath.invariant (I := fun now => now = s) (fun event hmem now next hstep hnow => ?_) rfl
  obtain ⟨n, reply, rfl⟩ := hx t r hrun event hmem
  rw [h.random hstep, hnow]

/-- **The cleanup settles the account**, under the error that it returns. -/
theorem Sound.cleanupFailedManagedEnrollment (h : ledger.Sound p.applicationId)
    (hheld : ledger.held id enrollment s) (original : Error) :
    Fallible.Ends ledger.step s (p.cleanupFailedManagedEnrollment enrollment id label original)
      fun r s' => ∃ error, r = .ok error ∧ ledger.settled error s' := by
  refine ends_ask_bind fun reply s' hstep => ends_pure ⟨_, rfl, ?_⟩
  obtain ⟨hcleaned, hremains⟩ := h.cleanup hheld hstep
  cases hresult : reply.result with
  | ok u => exact hcleaned hresult original
  | error error => exact hremains

/-- What follows the enrollment leaves the credential to its session. -/
theorem Sound.finishManagedFidoRecipient (h : ledger.Sound p.applicationId)
    (hheld : ledger.held id enrollment s) :
    Fallible.Ends ledger.step s
      (p.finishManagedFidoRecipient e root id label policy operation enrollment)
      fun _ s' => ledger.held id enrollment s' := by
  refine ends_except_bind (fun _ _ => hheld) fun _ _ => ?_
  refine ends_bind (h.drawn fun _ _ => drawn_randomArray) (fun _ s' hs => hs ▸ hheld) ?_
  rintro prfNonce s' rfl
  refine ends_bind (h.drawn fun _ _ => drawn_randomArray) (fun _ s' hs => hs ▸ hheld) ?_
  rintro fidoNonce s' rfl
  refine ends_except_bind (fun _ _ => hheld) fun _ _ => ends_ask_bind fun reply s' hstep => ?_
  have hafter := h.evaluate hheld hstep
  refine ends_except_bind (fun _ _ => hafter) fun _ _ => ?_
  refine ends_except_bind (fun _ _ => hafter) fun _ _ => ?_
  exact ends_except_bind (fun _ _ => hafter) fun _ _ => ends_pure hafter

/-- A cleanup, and the error it returns. -/
theorem Sound.cleanupThenThrow {α : Type} (h : ledger.Sound p.applicationId)
    (hheld : ledger.held id enrollment s) (original : Error) {Q : Result α → σ → Prop}
    (hQ : ∀ error s', ledger.settled error s' → Q (.error error) s') :
    Fallible.Ends ledger.step s (do
      throw (← p.cleanupFailedManagedEnrollment enrollment id label original) : Host α) Q := by
  refine ends_bind (h.cleanupFailedManagedEnrollment hheld original) ?_ ?_
  · rintro error s' ⟨_, hok, -⟩
    cases hok
  · rintro error s' ⟨_, hok, hsettled⟩
    cases hok
    exact ends_throw (hQ error s' hsettled)

/-- The record is that of a managed credential, for which the session answers. -/
structure Records (ledger : Ledger σ) (policy : FidoPolicy) (fido : FidoRecipient)
    (enrollment : ManagedEnrollment) (s : σ) : Prop where
  storage : fido.storage = .managed
  policy : fido.policy = policy
  credentialId : fido.credentialId = enrollment.credential.credentialId
  publicKey : fido.publicKey = enrollment.credential.publicKey
  held : ledger.held fido.id enrollment s

/-- **The enrollment** ends with a record, or settled. -/
theorem Sound.enrollManagedFidoRecipient (h : ledger.Sound p.applicationId) (hidle : ledger.idle s) :
    Fallible.Ends ledger.step s (p.enrollManagedFidoRecipient e root label policy operation)
      fun r s' => match r with
        | .ok (record, _, managed) => ∃ fido enrollment, record = .fido fido ∧
          managed = some enrollment ∧ Records ledger policy fido enrollment s'
        | .error error => ledger.settled error s' := by
  refine ends_bind (h.drawn fun _ _ => drawn_uniqueRecipientId)
    (fun _ s' hs => hs ▸ h.idle hidle) ?_
  rintro id s' rfl
  refine ends_ask_bind fun reply s' hstep => ?_
  obtain ⟨hmade, hfailed⟩ := h.enroll hidle hstep
  refine ends_except_bind hfailed fun enrollment hok => ?_
  have hheld := hmade enrollment hok
  -- a failure after this point is cleaned up
  refine ends_run_bind (R := fun r s' => ledger.held id enrollment s' ∧
      ∀ record keys, r = .ok (record, keys) → ∃ fido : FidoRecipient, record = .fido fido ∧
        fido.id = id ∧ fido.storage = .managed ∧ fido.policy = policy ∧
          fido.credentialId = enrollment.credential.credentialId ∧
            fido.publicKey = enrollment.credential.publicKey) ?_ ?_
  · intro t r s' hrun hpath
    refine ⟨h.finishManagedFidoRecipient hheld t r s' hrun hpath, ?_⟩
    rintro record keys rfl
    obtain ⟨fido, hrecord, hid, hpolicy, -, hstorage, hcredential, hkey⟩ :=
      runs_finishManagedFidoRecipient_ok hrun
    exact ⟨fido, hrecord, hid, hstorage, hpolicy, hcredential, hkey⟩
  · rintro r s' ⟨hafter, hrecord⟩
    cases r with
    | ok finished =>
        obtain ⟨record, keys⟩ := finished
        obtain ⟨fido, rfl, rfl, hstorage, hpolicy, hcredential, hkey⟩ := hrecord record keys rfl
        exact ends_pure ⟨fido, enrollment, rfl, rfl, hstorage, hpolicy, hcredential, hkey, hafter⟩
    | error error => exact h.cleanupThenThrow hafter error fun _ _ hsettled => hsettled

/-- **Staging** closes the account. -/
theorem Sound.stageEnrollment (h : ledger.Sound p.applicationId) {fido : FidoRecipient}
    (hrecords : Records ledger policy fido enrollment s) (keys : RecoveryKeys) :
    Fallible.Ends ledger.step s (p.stageEnrollment e (.fido fido) root keys (some enrollment))
      fun r s' => ledger.Closes policy (r.map fun staged => (staged, fido.id)) s' := by
  unfold KeyProtector.stageEnrollment
  cases hstage : KeyProtector.stageRecord e (.fido fido) root keys with
  | ok staged =>
      have hadds := stageRecord_eq_ok hstage
      have hfind : staged.find fido.id = .ok (.fido fido) :=
        find_of_mem hadds.committed.wellFormed.ascending
          (hadds.inserts.added.mem_iff.mpr List.mem_cons_self)
      exact ends_pure ⟨fido, enrollment, hfind, hrecords.storage, hrecords.policy,
        hrecords.credentialId, hrecords.publicKey, hrecords.held⟩
  | error error =>
      obtain ⟨hstorage, -, -, -, hheld⟩ := hrecords
      obtain ⟨id, label, credentialId, publicKey, policy', storage, prfNonce, fidoNonce, wrapped⟩ :=
        fido
      obtain rfl : storage = .managed := hstorage
      exact h.cleanupThenThrow hheld error fun _ _ hsettled => hsettled

/-- Enrolling and staging, as the creations and the addition do. -/
theorem Sound.enrollAndStage (h : ledger.Sound p.applicationId) (hidle : ledger.idle s)
    {managed : Enrollment} (hpolicy : managed.policy = .managedFido policy) :
    Fallible.Ends ledger.step s
      (do
        let (record, keys, enrollment) ← p.enrollRecipient e root managed operation
        let staged ← p.stageEnrollment e record root keys enrollment
        return (staged, record.id) : Host (KeyEnvelope × RecipientId))
      (ledger.Closes policy) := by
  have henroll : p.enrollRecipient e root managed operation =
      p.enrollManagedFidoRecipient e root managed.label policy operation := by
    unfold KeyProtector.enrollRecipient
    rw [hpolicy]
  rw [henroll]
  refine ends_bind (h.enrollManagedFidoRecipient hidle) (fun error s' hsettled => hsettled) ?_
  rintro ⟨record, keys, session⟩ s' ⟨fido, enrollment, rfl, rfl, hrecords⟩
  refine ends_bind (h.stageEnrollment hrecords keys) (fun error s' hcloses => hcloses) ?_
  exact fun staged s' hcloses => ends_pure hcloses

theorem Sound.protectRootForOperation (h : ledger.Sound p.applicationId) (hidle : ledger.idle s)
    {managed : Enrollment} (hpolicy : managed.policy = .managedFido policy) :
    Fallible.Ends ledger.step s (p.protectRootForOperation root managed operation)
      (ledger.Closes policy) := by
  refine ends_except_bind (fun _ _ => h.idle hidle) fun _ _ => ?_
  refine ends_bind (h.drawn fun _ _ => drawn_randomArray) (fun _ s' hs => hs ▸ h.idle hidle) ?_
  rintro envelopeId s' rfl
  exact h.enrollAndStage hidle hpolicy

end Account

/-- The operations that enroll a recipient, and what each returns. -/
inductive Enrolls (p : KeyProtector) (managed : Enrollment) (t : Trace host) :
    Result (KeyEnvelope × RecipientId) → Prop
  | createRoot {r} : (p.createRoot managed).run.Runs t r → Enrolls p managed t (r.map Prod.snd)
  | protectRoot {root r} : (p.protectRoot root managed).run.Runs t r → Enrolls p managed t r
  | addRecipient {root e r e'} : (p.addRecipient root managed).Runs e t r e' →
      Enrolls p managed t (r.map fun id => (e', id))

/-- **Every operation that enrolls a managed credential closes the account.** -/
theorem Sound.closes {σ : Type} {ledger : Ledger σ} {p : KeyProtector} {managed : Enrollment}
    {policy : FidoPolicy} (h : ledger.Sound p.applicationId)
    (hpolicy : managed.policy = .managedFido policy) {t : Trace host}
    {r : Result (KeyEnvelope × RecipientId)} (henrolls : Enrolls p managed t r) {s s' : σ}
    (hidle : ledger.idle s) (hpath : Path ledger.step s t s') : ledger.Closes policy r s' := by
  cases henrolls with
  | @createRoot made hrun =>
      have hends : Fallible.Ends ledger.step s (p.createRoot managed) fun made s' =>
          ledger.Closes policy (made.map Prod.snd) s' := by
        refine ends_bind (h.drawn fun _ _ => drawn_make) (fun _ s' hs => hs ▸ h.idle hidle) ?_
        rintro root s' rfl
        refine ends_bind (h.protectRootForOperation hidle hpolicy) (fun _ _ hcloses => hcloses) ?_
        exact fun _ _ hcloses => ends_pure hcloses
      exact hends t made s' hrun hpath
  | protectRoot hrun => exact h.protectRootForOperation hidle hpolicy t r s' hrun hpath
  | @addRecipient root e added e' hrun =>
      rcases runs_addRecipient hrun with ⟨error, rfl, rfl⟩ | henroll
      · obtain rfl : s' = s := hpath
        exact h.idle hidle
      · exact h.enrollAndStage hidle hpolicy t _ s' henroll hpath

end Ledger

end FidoKeyWrap
