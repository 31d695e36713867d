/-
# FidoKeyWrap.NativeEnrollment — a managed credential is never silently orphaned.

From the moment the device may have made a managed credential, an enrollment ends in one of three
ways: with the token that names exactly that credential, with an error that says that the credential
may remain, or with another error after an authenticated enumeration on the same device that no
longer showed the credential. The same holds of a failure after the enrollment, which the protector
hands to `cleanup_managed_enrollment`.
-/
import FidoKeyWrap.Native.Vector
import FidoKeyWrap.NativeBackend

namespace FidoKeyWrap

open ByteData Interact

/-- The event makes a credential. -/
def MakesCredential (event : Event console) : Prop := OnRight Native.MakesCredential event

/-- `fido_dev_make_cred` replied. -/
def made (device credential : Native.Handle) (pin : Native.Pin) (status : Int32)
    (created : Native.NativeCredential) : Event console :=
  Event.right (⟨.devMakeCred device credential pin, (status, created)⟩ : Event Native.libfido2)

/-- **`Gone device pending pin t`** — in `t`, an authenticated enumeration on the device did not show
the credential. -/
def Gone (device : Native.RawDevice) (pending : Native.PendingManagedCredential)
    (pin : Native.Pin) (t : Trace console) : Prop :=
  ∃ event ∈ t, OnRight (Native.Enumerated device (.pending pending) pin .absent) event

/-- **`Token`** — a cleanup token for exactly the credential the device returned, its relying party
and its user, bound to the open authenticator. -/
structure Token (application : ApplicationId) (recipient : RecipientId)
    (created : Native.NativeCredential) (authenticator : Native.Authenticator)
    (pending : Native.PendingManagedCredential) : Prop where
  names : Native.Names pending created
  relyingPartyId : pending.relyingPartyId = application.asStr
  userId : pending.userId = recipient.asBytes.toList
  affinity : pending.affinity = authenticator.affinity

/-! ## Steps that make no credential -/

section Quiet

variable {α : Type}

theorem makesNone_native {x : Native.Adapter α}
    (h : Program.Every (fun event => ¬ Native.MakesCredential event) x.run) :
    Program.Every (fun event => ¬ MakesCredential event) (native x).run :=
  Fallible.every_right (Program.Every.mono h fun _ hevent honRight =>
    hevent (onRight_right.mp honRight))

theorem makesNone_quiet {x : Native.Adapter α} (h : Native.Quiet x) :
    Program.Every (fun event => ¬ MakesCredential event) (native x).run :=
  makesNone_native (Program.Every.mono h fun _ => Native.not_makesCredential_of_quiet)

theorem makesNone_prompt {x : Fallible interaction InteractionError α} :
    Program.Every (fun event => ¬ MakesCredential event)
      (Fallible.left Error.interaction x : Console α).run :=
  Fallible.every_left fun _ _ _ _ _ => not_onRight_left

theorem makesNone_selectionTouch (operation : Operation) (label : String) (policy : FidoPolicy)
    (selection : Native.PreparedSelection) :
    Program.Every (fun event => ¬ MakesCredential event)
      (NativeBackend.selectionTouch operation label policy selection).run := by
  unfold NativeBackend.selectionTouch
  split
  · exact makesNone_prompt
  · exact Program.every_pure _

theorem makesNone_selectManaged (backend : NativeBackend) (operation : Operation) (label : String)
    (policy : FidoPolicy) (capability : Native.ManagedCapability) (rounds : Nat) :
    Program.Every (fun event => ¬ MakesCredential event)
      (backend.selectManaged operation label policy capability rounds).run := by
  refine Fallible.every_bind (makesNone_quiet (Native.quiet_prepareSelectionMatching _ _)) ?_
  intro selection
  refine Fallible.every_bind (makesNone_selectionTouch operation label policy selection) fun _ => ?_
  exact makesNone_quiet (Native.quiet_select selection rounds)

theorem makesNone_prepareManagedCleanup (authenticator : Native.Authenticator)
    (pending : Native.PendingManagedCredential) (pin : Native.Pin) :
    Program.Every (fun event => ¬ MakesCredential event)
      (native (authenticator.prepareManagedCleanup pending pin)).run := by
  refine makesNone_native (Native.every_prepareManagedCleanup _ ?_ ?_)
  · exact fun _ => Native.not_makesCredential_of_quiet
  · rintro list reply ⟨device, credential, pin', reply', h⟩
    cases h

theorem makesNone_finish (cleanup : Native.ManagedCleanup) :
    Program.Every (fun event => ¬ MakesCredential event) (native cleanup.finish).run := by
  refine makesNone_native (Native.every_finish _ ?_ ?_ ?_ ?_)
  · exact fun _ => Native.not_makesCredential_of_quiet
  · rintro raw status ⟨device, credential, pin', reply', h⟩
    cases h
  · rintro status ⟨device, credential, pin', reply', h⟩
    cases h
  · rintro list reply ⟨device, credential, pin', reply', h⟩
    cases h

theorem makesNone_cleanupNativePending (authenticator : Native.Authenticator) (pin : Native.Pin)
    (pending : Native.PendingManagedCredential) (label : String) (policy : FidoPolicy) :
    Program.Every (fun event => ¬ MakesCredential event)
      (cleanupNativePending authenticator pin pending label policy) := by
  refine Program.every_bind (makesNone_prepareManagedCleanup _ _ _) ?_
  rintro (e | _ | cleanup)
  · exact Program.every_pure _
  · exact Program.every_pure _
  · refine Program.every_bind makesNone_prompt ?_
    rintro (e | u)
    · exact Program.every_pure _
    · exact Program.every_bind (makesNone_finish cleanup) fun _ => Program.every_pure _

end Quiet

/-! ## Cleanup -/

section Cleanup

variable {authenticator : Native.Authenticator} {pin : Native.Pin}
  {pending : Native.PendingManagedCredential} {label : String} {policy : FidoPolicy}
  {t : Trace console}

theorem Gone.of_native {u : Trace Native.libfido2} {device : Native.RawDevice}
    (h : ∃ event ∈ u, Native.Enumerated device (.pending pending) pin .absent event) :
    Gone device pending pin (u.map Event.right) := by
  obtain ⟨event, hmem, henumerated⟩ := h
  exact ⟨event.right, List.mem_map_of_mem hmem, onRight_right.mpr henumerated⟩

theorem Gone.append_left {t' : Trace console} {device : Native.RawDevice}
    (h : Gone device pending pin t') : Gone device pending pin (t ++ t') := by
  obtain ⟨event, hmem, henumerated⟩ := h
  exact ⟨event, List.mem_append_right t hmem, henumerated⟩

theorem Gone.append_right {t' : Trace console} {device : Native.RawDevice}
    (h : Gone device pending pin t) : Gone device pending pin (t ++ t') := by
  obtain ⟨event, hmem, henumerated⟩ := h
  exact ⟨event, List.mem_append_left t' hmem, henumerated⟩

/-- A credential that was prepared for cleanup and finished, or was not there, is gone. -/
theorem gone_of_prepare_finish {t' : Trace console} {cleanup : Option Native.ManagedCleanup}
    (hprepare : (native (authenticator.prepareManagedCleanup pending pin)).run.Runs t (.ok cleanup))
    (hfinish : ∀ value, cleanup = some value →
      ∃ u, (native value.finish).run.Runs u (.ok ()) ∧ u <:+: t') :
    Gone authenticator.device pending pin (t ++ t') := by
  obtain ⟨u, rfl, hu⟩ := Fallible.runs_right_ok.mp hprepare
  rcases Native.runs_prepareManagedCleanup_ok hu with rfl | ⟨rfl, hgone⟩
  · obtain ⟨v, hv, hwithin⟩ := hfinish _ rfl
    obtain ⟨w, rfl, hw⟩ := Fallible.runs_right_ok.mp hv
    obtain ⟨event, hmem, henumerated⟩ := Gone.of_native (Native.absent_of_finish hw)
    exact ⟨event, List.mem_append_right _ (hwithin.subset hmem), henumerated⟩
  · exact (Gone.of_native hgone).append_right

theorem gone_of_cleanupNativePending
    (h : (cleanupNativePending authenticator pin pending label policy).Runs t true) :
    Gone authenticator.device pending pin t := by
  obtain ⟨t₁, prepared, t₂, rfl, hprepare, h₁⟩ := Program.runs_bind.mp h
  rcases prepared with e | _ | cleanup
  · obtain ⟨-, hfalse⟩ := h₁
    cases hfalse
  · refine gone_of_prepare_finish hprepare fun value hvalue => ?_
    cases hvalue
  · refine gone_of_prepare_finish hprepare fun value hvalue => ?_
    cases hvalue
    obtain ⟨t₃, touched, t₄, rfl, -, h₂⟩ := Program.runs_bind.mp h₁
    rcases touched with e | u
    · obtain ⟨-, hfalse⟩ := h₂
      cases hfalse
    · obtain ⟨t₅, finished, t₆, rfl, hfinish, rfl, hok⟩ := Program.runs_bind.mp h₂
      rcases finished with e | u
      · cases hok
      · rw [List.append_nil]
        exact ⟨t₅, hfinish, (List.suffix_append t₃ t₅).isInfix⟩

end Cleanup

/-! ## The three ends of an enrollment -/

section Sessions

variable [Primitives]

section Reject

variable {authenticator : Native.Authenticator} {pin : Native.Pin}
  {pending : Native.PendingManagedCredential} {label : String} {policy : FidoPolicy}
  {original : Error} {t : Trace console} {r : Result ManagedEnrollment}

theorem runs_rejectPendingManaged
    (h : (rejectPendingManaged authenticator pin pending label policy original).run.Runs t r) :
    r = .error (.authenticator .credentialMayRemain) ∨
      (∃ e, r = .error e) ∧ Gone authenticator.device pending pin t := by
  rcases Fallible.runs_bind.mp h with ⟨t₁, gone, t₂, rfl, hcleanup, hthrow⟩ | ⟨e, hcleanup, rfl⟩
  · obtain ⟨gone', hrun, hsame⟩ := Fallible.runs_lift.mp hcleanup
    cases hsame
    cases gone with
    | true =>
        obtain ⟨rfl, rfl⟩ := hthrow
        exact .inr ⟨⟨original, rfl⟩, (gone_of_cleanupNativePending hrun).append_right⟩
    | false =>
        obtain ⟨rfl, rfl⟩ := hthrow
        exact .inl rfl
  · obtain ⟨gone, -, hsame⟩ := Fallible.runs_lift.mp hcleanup
    cases hsame

theorem makesNone_rejectPendingManaged :
    Program.Every (fun event => ¬ MakesCredential event)
      (rejectPendingManaged authenticator pin pending label policy original).run := by
  refine Fallible.every_bind (x := liftM (cleanupNativePending _ _ _ _ _)) ?_ ?_
  · exact Program.every_bind (makesNone_cleanupNativePending _ _ _ _ _) fun _ =>
      Program.every_pure _
  · intro gone
    cases gone
    · exact Fallible.every_throw _
    · exact Fallible.every_throw _

end Reject

variable [ManagedSessions]

/-- **`Settled`** — how an enrollment may end after the device `device` returned `created`: with the
session that can clean it up, as possibly remaining, or with the credential gone. -/
def Settled (application : ApplicationId) (recipient : RecipientId)
    (created : Native.NativeCredential) (device : Native.RawDevice) (pin : Native.Pin)
    (after : Trace console) (r : Result ManagedEnrollment) : Prop :=
  (∃ enrollment authenticator pending, r = .ok enrollment ∧
    enrollment.managedSession = .native authenticator pin pending ∧
    authenticator.device = device ∧ Token application recipient created authenticator pending ∧
    enrollment.credential.credentialId = pending.credentialId ∧
    enrollment.credential.publicKey.asBytes = pending.es256PublicKey) ∨
  r = .error (.authenticator .credentialMayRemain) ∨
  ∃ e authenticator pending, r = .error e ∧ authenticator.device = device ∧
    Token application recipient created authenticator pending ∧ Gone device pending pin after

section Accept

variable {application : ApplicationId} {recipient : RecipientId}
  {authenticator : Native.Authenticator} {created : Native.NativeCredential} {pin : Native.Pin}
  {label : String} {policy : FidoPolicy} {t : Trace console} {r : Result ManagedEnrollment}
  {outcome : Except Native.EnrollmentFailure Native.Enrollment}

theorem makesNone_acceptManaged :
    Program.Every (fun event => ¬ MakesCredential event)
      (acceptManaged authenticator pin label policy outcome).run := by
  have hcreated : ∀ enrolled original, Program.Every (fun event => ¬ MakesCredential event)
      (rejectCreatedManaged authenticator pin enrolled label policy original).run := by
    intro enrolled original
    unfold rejectCreatedManaged
    split
    · exact Fallible.every_throw _
    · exact makesNone_rejectPendingManaged
  unfold acceptManaged
  split
  · dsimp only
    split
    · exact Fallible.every_throw _
    · exact makesNone_rejectPendingManaged
  · split
    · exact hcreated _ _
    · split
      · exact hcreated _ _
      · exact Fallible.every_except_bind fun _ _ => Program.every_pure _

/-- What follows an enrollment on the device settles it. -/
theorem settled_acceptManaged {request : Native.EnrollmentRequest}
    (hrp : request.relyingPartyId = application.asStr)
    (hstorage : request.storage = .managedDiscoverable recipient.asBytes.toList)
    (h : (acceptManaged authenticator pin label policy
      (authenticator.acceptCredential request created)).run.Runs t r) :
    Settled application recipient created authenticator.device pin t r := by
  rcases Native.acceptCredential_managed hstorage rfl with houtcome | ⟨pending, hnames, hpendingRp,
    huser, haffinity, hcases⟩
  · rw [houtcome] at h
    exact .inr (.inl (Fallible.runs_throw.mp h).2)
  have htoken : Token application recipient created authenticator pending :=
    ⟨hnames, hpendingRp.trans hrp, huser, haffinity⟩
  have hreject : ∀ original, (rejectPendingManaged authenticator pin pending label policy
      original).run.Runs t r →
      Settled application recipient created authenticator.device pin t r := by
    intro original hrun
    rcases runs_rejectPendingManaged hrun with hremains | ⟨⟨e, he⟩, hgone⟩
    · exact .inr (.inl hremains)
    · exact .inr (.inr ⟨e, authenticator, pending, he, rfl, htoken, hgone⟩)
  rcases hcases with ⟨e, houtcome⟩ | ⟨enrolled, houtcome, hid, hkey⟩
  · rw [houtcome] at h
    exact hreject _ h
  · rw [houtcome] at h
    unfold acceptManaged at h
    dsimp only at h
    split at h
    · exact hreject _ h
    · split at h
      · exact hreject _ h
      · rename_i publicKey hnew
        obtain ⟨-, rfl⟩ := h
        refine .inl ⟨_, authenticator, pending, rfl, ?_, rfl, htoken, hid, ?_⟩
        · exact ManagedSessions.equiv.apply_symm_apply _
        · obtain ⟨-, -, hnew⟩ := except_bind_eq_ok.mp hnew
          rw [except_pure_eq_ok.mp hnew]
          exact hkey

end Accept

/-! ## Every run -/

section Enroll

variable {backend : NativeBackend} {application : ApplicationId} {recipient : RecipientId}
  {policy : FidoPolicy} {label : String} {operation : Operation} {rounds : Nat}

/-- An enrollment makes one credential at most, and settles it. -/
theorem once_enrollManaged :
    Program.Once MakesCredential
      (fun event after r => ∃ device credential pin status created,
        event = made device credential pin status created ∧
        (status = Native.fidoOk ∨ Native.managedEnrollmentStatusIsUncertain status = true →
          Settled application recipient created ⟨device⟩ pin after r))
      (backend.enrollManaged application recipient policy label operation rounds).run := by
  unfold NativeBackend.enrollManaged
  apply Fallible.once_bind_tail (makesNone_selectManaged _ _ _ _ _ _)
  intro authenticator
  apply Fallible.once_bind_tail makesNone_prompt
  intro pin
  apply Fallible.once_except_bind
  intro nativePin _
  apply Fallible.once_bind_tail makesNone_prompt
  intro _
  refine Fallible.once_outcomeRight_bind Native.once_enroll (fun _ => makesNone_acceptManaged) ?_
  rintro event after outcome t r ⟨⟨status, created⟩, ⟨credential, rfl⟩, houtcome⟩ hrun
  refine ⟨_, credential, nativePin, status, created, rfl, fun hmade => ?_⟩
  rcases houtcome with ⟨-, rfl⟩ | ⟨hfailed, e, rfl, hremains⟩
  · rcases settled_acceptManaged rfl rfl hrun with hok | hremains | ⟨e, a, pending, he, hdevice,
      htoken, hgone⟩
    · exact .inl hok
    · exact .inr (.inl hremains)
    · exact .inr (.inr ⟨e, a, pending, he, hdevice, htoken, hgone.append_left⟩)
  · have huncertain := hmade.resolve_left hfailed
    obtain rfl := hremains rfl huncertain
    exact .inr (.inl (Fallible.runs_throw.mp hrun).2)

end Enroll

/-- A cleanup that succeeds saw the credential of its session gone. -/
theorem gone_of_cleanupManagedEnrollment {enrollment : ManagedEnrollment}
    {request : ManagedRequest} {t : Trace console}
    (h : (NativeBackend.cleanupManagedEnrollment enrollment request).run.Runs t (.ok ())) :
    ∃ authenticator pin pending, enrollment.managedSession = .native authenticator pin pending ∧
      Gone authenticator.device pending pin t := by
  unfold NativeBackend.cleanupManagedEnrollment at h
  split at h
  · rename_i authenticator pin pending hsession
    refine ⟨authenticator, pin, pending, hsession, ?_⟩
    obtain ⟨t₁, cleanup, t₂, rfl, hprepare, h₁⟩ := Fallible.runs_bind_ok.mp h
    refine gone_of_prepare_finish hprepare fun value hvalue => ?_
    subst hvalue
    obtain ⟨t₃, _, t₄, rfl, -, hfinish⟩ := Fallible.runs_bind_ok.mp h₁
    exact ⟨t₄, hfinish, (List.suffix_append t₃ t₄).isInfix⟩
  · cases h.2

/-- **A managed credential is never silently orphaned.** In every run of `enroll_managed`, whatever
libfido2 replies and the application answers: once the device was asked for the credential and said
that it made it, or may have, the enrollment ends with a session whose token names exactly that
credential, with an error that says that the credential may remain, or with another error after an
authenticated enumeration on that device without the credential. And a later failure keeps its error
only if the cleanup of the session saw such an enumeration; otherwise it, too, says that the
credential may remain. -/
theorem native_credential_never_orphaned :
    (∀ (backend : NativeBackend) (application : ApplicationId) (recipient : RecipientId)
      (policy : FidoPolicy) (label : String) (operation : Operation) (rounds : Nat)
      (before after : Trace console) (device credential : Native.Handle) (pin : Native.Pin)
      (status : Int32) (created : Native.NativeCredential) (r : Result ManagedEnrollment),
      (backend.enrollManaged application recipient policy label operation rounds).run.Runs
        (before ++ made device credential pin status created :: after) r →
      status = Native.fidoOk ∨ Native.managedEnrollmentStatusIsUncertain status = true →
      Settled application recipient created ⟨device⟩ pin after r) ∧
    ∀ (p : KeyProtector) (enrollment : ManagedEnrollment) (recipient : RecipientId)
      (label : String) (original e : Error) (request : ManagedRequest) (reply : DeviceReply Unit)
      (t : Trace console),
      (NativeBackend.cleanupManagedEnrollment enrollment request).run.Runs t reply.result →
      (p.cleanupFailedManagedEnrollment enrollment recipient label original).run.Runs
        [⟨.cleanupManagedEnrollment enrollment request, reply⟩] (.ok e) →
      (e = original ∧ ∃ authenticator pin pending,
        enrollment.managedSession = .native authenticator pin pending ∧
          Gone authenticator.device pending pin t) ∨
        e = .authenticator .credentialMayRemain := by
  constructor
  · intro backend application recipient policy label operation rounds before after device credential
      pin status created r hrun hmade
    obtain ⟨device', credential', pin', status', created', hevent, hsettled⟩ :=
      once_enrollManaged.at hrun (onRight_right.mpr ⟨device, credential, pin, _, rfl⟩)
    cases hevent
    exact hsettled hmade
  · intro p enrollment recipient label original e request reply t hcleanup hrun
    obtain ⟨t₁, reply', t₂, htrace, hask, hok⟩ := Fallible.runs_bind_ok.mp hrun
    obtain ⟨reply'', rfl, hreply⟩ := runs_ask.mp hask
    cases hreply
    obtain ⟨rfl, he⟩ := Fallible.runs_pure.mp hok
    cases htrace
    cases he
    cases hresult : reply.result with
    | ok u =>
        rw [hresult] at hcleanup
        exact .inl ⟨rfl, gone_of_cleanupManagedEnrollment hcleanup⟩
    | error e => exact .inr rfl

end Sessions

/-! ## One enrollment -/

namespace NativeVector

/-- The primitives that know the point of the credential, and keep real sessions. -/
@[reducible] def primitives : Primitives :=
  { Recording.primitives
      { points := [4 :: Native.Vector.credential.es256PublicKey.toList] } with
    ManagedSession := ManagedSession }

instance sessions : @ManagedSessions primitives := @ManagedSessions.mk primitives (Equiv.refl _)

def application : ApplicationId := ⟨"vault.example", by decide⟩

def recipient : RecipientId := ⟨Bytes.ofNat 32 5⟩

/-- The backend of the default configuration. -/
def backend : NativeBackend where
  backend := ⟨.default⟩

/-- The user answers every prompt, the device every foreign call. -/
def answer (past : Trace console) : (query : console.Query) → Option (console.Reply query)
  | .inl (.requestPin ..) => some (.ok ⟨"1234", by decide⟩)
  | .inl (.selectAuthenticatorByTouch ..) | .inl (.touchRequired ..) => some (.ok ())
  | .inr query => Native.Vector.device (rights past) query

/-- The device said that it made a credential. -/
def isMade : Event console → Bool
  | ⟨.inr (.devMakeCred _ _ _), (status, _)⟩ => status == Native.fidoOk
  | _ => false

theorem made_of_isMade {event : Event console} (h : isMade event = true) :
    ∃ device credential pin status created, event = made device credential pin status created ∧
      status = Native.fidoOk := by
  unfold isMade at h
  split at h
  · rename_i device credential pin status created
    exact ⟨device, credential, pin, status, created, rfl, beq_iff_eq.mp h⟩
  · cases h

def protector : KeyProtector where
  applicationId := application
  passphraseLimits := .desktop

/-- The request of the protector for the cleanup of an enrollment. -/
def request [Primitives] (enrollment : ManagedEnrollment) : ManagedRequest where
  credential :=
    { applicationId := application, recipientId := recipient
      credentialId := enrollment.credential.credentialId
      publicKey := enrollment.credential.publicKey, policy := enrollment.policy, label := "key" }
  operation := .retireManagedRecipient

/-- An enrollment that succeeds, and the cleanup of its session from where it ended. -/
def enrollThenCleanup [Primitives] [ManagedSessions] :
    Option (Trace console × ManagedEnrollment × Trace console) := do
  let (t, enrolled) ← (backend.enrollManaged application recipient .userVerification "key"
    .addRecipient 1).run.exec? answer []
  let enrollment ← enrolled.toOption
  let (u, cleaned) ← (NativeBackend.cleanupManagedEnrollment enrollment
    (request enrollment)).run.exec? answer t
  if t.any isMade ∧ cleaned.isOk then some (t, enrollment, u) else none

theorem enrollThenCleanup_isSome : (@enrollThenCleanup primitives sessions).isSome = true := by
  decide

/-- What the two runs show. -/
theorem runs_of_enrollThenCleanup [Primitives] [ManagedSessions] {t u : Trace console}
    {enrollment : ManagedEnrollment} (h : enrollThenCleanup = some (t, enrollment, u)) :
    (backend.enrollManaged application recipient .userVerification "key" .addRecipient 1).run.Runs t
        (.ok enrollment) ∧
      (NativeBackend.cleanupManagedEnrollment enrollment (request enrollment)).run.Runs u (.ok ()) ∧
      ∃ event ∈ t, isMade event = true := by
  unfold enrollThenCleanup at h
  obtain ⟨⟨t', enrolled⟩, henroll, h⟩ := Option.bind_eq_some_iff.mp h
  obtain ⟨enrollment', henrolled, h⟩ := Option.bind_eq_some_iff.mp h
  obtain ⟨⟨u', cleaned⟩, hcleanup, h⟩ := Option.bind_eq_some_iff.mp h
  dsimp only at henrolled hcleanup h
  split at h
  · rename_i hmade
    cases h
    have henrolled' : enrolled = .ok enrollment := by
      cases enrolled with
      | ok value =>
          cases henrolled
          rfl
      | error e => cases henrolled
    have hcleaned : cleaned = .ok () := by
      cases cleaned with
      | ok value => rfl
      | error e => cases hmade.2
    rw [henrolled'] at henroll
    rw [hcleaned] at hcleanup
    exact ⟨Program.runs_of_exec? henroll, Program.runs_of_exec? hcleanup,
      List.any_eq_true.mp hmade.1⟩
  · cases h

end NativeVector

/-- The enrollment that succeeds, and the cleanup of its session. -/
theorem vector_native_enrollment :
    let _ := NativeVector.primitives
    ∃ (enrollment : ManagedEnrollment) (created : Native.NativeCredential) (device : Native.Handle)
      (pin : Native.Pin) (after t : Trace console),
      Settled NativeVector.application NativeVector.recipient created ⟨device⟩ pin after
        (.ok enrollment) ∧
      ∃ authenticator pin pending,
        enrollment.managedSession = .native authenticator pin pending ∧
          Gone authenticator.device pending pin t := by
  let _ := NativeVector.primitives
  obtain ⟨⟨t, enrollment, u⟩, hruns⟩ :=
    Option.isSome_iff_exists.mp NativeVector.enrollThenCleanup_isSome
  obtain ⟨henroll, hcleanup, event, hmem, hmade⟩ := NativeVector.runs_of_enrollThenCleanup hruns
  obtain ⟨device, credential, pin, status, created, rfl, hok⟩ := NativeVector.made_of_isMade hmade
  obtain ⟨before, after, rfl⟩ := List.append_of_mem hmem
  refine ⟨enrollment, created, device, pin, after, u, ?_, ?_⟩
  · exact native_credential_never_orphaned.1 _ _ _ _ _ _ _ _ _ _ _ _ _ _ _ henroll (.inl hok)
  · have hrun : (NativeVector.protector.cleanupFailedManagedEnrollment enrollment
        NativeVector.recipient "key" .randomUnavailable).run.Runs
        [⟨.cleanupManagedEnrollment enrollment (NativeVector.request enrollment),
          { prompts := [], result := .ok () }⟩] (.ok .randomUnavailable) :=
      Fallible.runs_bind_ok.mpr ⟨_, _, [], rfl, runs_ask.mpr ⟨_, rfl, rfl⟩, rfl, rfl⟩
    rcases native_credential_never_orphaned.2 _ _ _ _ _ _ _ _ _ hcleanup hrun with ⟨-, hgone⟩ | he
    · exact hgone
    · cases he

end FidoKeyWrap
