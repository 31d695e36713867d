/-
# FidoKeyWrap.NativeLedger — every managed credential is accounted for, over the native backend.

The account is what the console saw: every credential that a device said it made, or may have made,
with what was seen after it. The native backend keeps it as a sound ledger (`NativeBackend.sound`), so
an operation of the protector that enrolls a managed credential ends with a record of exactly that
credential, or says that the credential may remain, or fails after an authenticated enumeration on the
same device that no longer showed it (`native_operation_accounts`). This holds wherever the operation
fails: in the enrollment, at the first evaluation, in the cryptography, or while the envelope is staged.
-/
import FidoKeyWrap.CredentialLedger
import FidoKeyWrap.NativePrf

namespace FidoKeyWrap

open ByteData Interact

/-! ## Calls that make no credential -/

namespace Native

variable {self : Authenticator} {request : PrfRequest}

theorem makesNone_evaluate {pin : Option Pin} :
    Program.Every (fun event => ¬ MakesCredential event) (self.evaluate request pin).run := by
  have hquiet : ∀ {α : Type} {x : Adapter α}, Quiet x →
      Program.Every (fun event => ¬ MakesCredential event) x.run :=
    fun hx => Program.Every.mono hx fun _ => not_makesCredential_of_quiet
  have hread : ∀ query reply, (∀ device credential pin, query ≠ .devMakeCred device credential pin) →
      ¬ MakesCredential ⟨query, reply⟩ := by
    rintro query reply hne ⟨device, credential, pin, reply', heq⟩
    cases heq
    exact hne device credential pin rfl
  refine Fallible.every_except_bind fun _ _ => Fallible.every_except_bind fun _ _ => ?_
  refine Fallible.every_except_bind fun _ _ => Fallible.every_except_bind fun _ _ => ?_
  refine Fallible.every_bind (hquiet request.quiet_assertion) fun assertion => ?_
  refine Fallible.every_bind (every_call fun _ => hread _ _ nofun) fun status => ?_
  refine Fallible.every_bind (hquiet (quiet_orFail (self.device.quiet_translate _ _))) fun _ => ?_
  refine Fallible.every_bind (hquiet (assertion.quiet_verifyIdentity _ _ _)) fun _ => ?_
  refine Fallible.every_bind (every_call fun _ => hread _ _ nofun) fun length => ?_
  refine Fallible.every_bind (every_call fun _ => hread _ _ nofun) fun pointer => ?_
  exact Fallible.every_except _

theorem makesNone_evaluateManagedEnrollment {credential : ManagedCredential} {pin : Pin} :
    Program.Every (fun event => ¬ MakesCredential event)
      (self.evaluateManagedEnrollment request credential pin).run := by
  refine Fallible.every_except_bind fun _ _ => Fallible.every_except_bind fun _ _ => ?_
  refine Fallible.every_bind makesNone_evaluate fun _ => ?_
  refine Fallible.every_bind (every_confirmManagedInventory self ?_ ?_) fun _ =>
    Program.every_pure _
  · exact fun _ => not_makesCredential_of_quiet
  · rintro list reply ⟨device, credential, pin', reply', h⟩
    cases h

end Native

section Console

variable [Primitives] [ManagedSessions] {enrollment : ManagedEnrollment}

theorem makesNone_evaluateManagedEnrollment {request : PrfRequest} :
    Program.Every (fun event => ¬ MakesCredential event)
      (NativeBackend.evaluateManagedEnrollment enrollment request).run := by
  unfold NativeBackend.evaluateManagedEnrollment
  split
  · exact Fallible.every_bind makesNone_prompt fun _ =>
      makesNone_native Native.makesNone_evaluateManagedEnrollment
  · exact Fallible.every_throw _

theorem makesNone_cleanupManagedEnrollment {request : ManagedRequest} :
    Program.Every (fun event => ¬ MakesCredential event)
      (NativeBackend.cleanupManagedEnrollment enrollment request).run := by
  unfold NativeBackend.cleanupManagedEnrollment
  split
  · refine Fallible.every_bind (makesNone_prepareManagedCleanup _ _ _) fun cleanup => ?_
    cases cleanup with
    | none => exact Program.every_pure _
    | some cleanup =>
        exact Fallible.every_bind makesNone_prompt fun _ => makesNone_finish cleanup
  · exact Fallible.every_throw _

end Console

/-! ## What the console saw of a credential -/

/-- The device said that it made the credential, or may have. -/
def MayHaveMade (status : Int32) : Prop :=
  status = Native.fidoOk ∨ Native.managedEnrollmentStatusIsUncertain status = true

/-- **`EveryMade seen P`** — `P` holds of every credential that a device may have made: what it
returned, the device, the PIN and what was seen after it. -/
def EveryMade (seen : Trace console)
    (P : Native.NativeCredential → Native.RawDevice → Native.Pin → Trace console → Prop) : Prop :=
  ∀ before device credential pin status created after,
    seen = before ++ made device credential pin status created :: after → MayHaveMade status →
      P created ⟨device⟩ pin after

section EveryMade

variable {seen t : Trace console} {device credential : Native.Handle} {pin : Native.Pin}
  {status : Int32} {created : Native.NativeCredential}
  {P : Native.NativeCredential → Native.RawDevice → Native.Pin → Trace console → Prop}

theorem makesCredential_made : MakesCredential (made device credential pin status created) :=
  onRight_right.mpr ⟨device, credential, pin, _, rfl⟩

theorem everyMade_of_none (hnone : ∀ event ∈ seen, ¬ MakesCredential event) :
    EveryMade seen P := by
  rintro before device credential pin status created after rfl -
  exact absurd makesCredential_made
    (hnone _ (List.mem_append_right before List.mem_cons_self))

/-- More is seen after each. -/
theorem EveryMade.append
    (h : EveryMade seen fun created device pin after => P created device pin (after ++ t))
    (hnone : ∀ event ∈ t, ¬ MakesCredential event) : EveryMade (seen ++ t) P := by
  intro before device credential pin status created after hsplit hmade
  obtain ⟨mid, hseen, rfl⟩ := Program.split_left hsplit fun hmem => hnone _ hmem makesCredential_made
  exact h before device credential pin status created mid hseen hmade

/-- None was made before. -/
theorem everyMade_append (h : EveryMade t P) (hnone : ∀ event ∈ seen, ¬ MakesCredential event) :
    EveryMade (seen ++ t) P := by
  intro before device credential pin status created after hsplit hmade
  obtain ⟨mid, -, ht⟩ := Program.split_right hsplit fun hmem => hnone _ hmem makesCredential_made
  exact h mid device credential pin status created after ht hmade

theorem EveryMade.mono {P' : Native.NativeCredential → Native.RawDevice → Native.Pin →
      Trace console → Prop} (h : EveryMade seen P)
    (hP : ∀ created device pin after, P created device pin after → P' created device pin after) :
    EveryMade seen P' :=
  fun before device credential pin status created after hsplit hmade =>
    hP _ _ _ _ (h before device credential pin status created after hsplit hmade)

end EveryMade

/-! ## The ledger -/

section Ledger

variable [Primitives] [ManagedSessions] {a : ApplicationId} {id : RecipientId}
  {enrollment : ManagedEnrollment}

/-- **`Covers a id enrollment created device pin`** — the session of the enrollment can clean up
exactly the credential, which is the one that the enrollment returned. -/
def Covers (a : ApplicationId) (id : RecipientId) (enrollment : ManagedEnrollment)
    (created : Native.NativeCredential) (device : Native.RawDevice) (pin : Native.Pin) : Prop :=
  ∃ authenticator pending, enrollment.managedSession = .native authenticator pin pending ∧
    authenticator.device = device ∧ Token a id created authenticator pending ∧
      enrollment.credential.credentialId = pending.credentialId ∧
        enrollment.credential.publicKey.asBytes = pending.es256PublicKey

/-- **`GivenUp a created device pin after error`** — the error says that a credential may remain, or an
authenticated enumeration after the creation did not show exactly this one. -/
def GivenUp (a : ApplicationId) (created : Native.NativeCredential) (device : Native.RawDevice)
    (pin : Native.Pin) (after : Trace console) (error : Error) : Prop :=
  error = .authenticator .credentialMayRemain ∨ ∃ id authenticator pending,
    authenticator.device = device ∧ Token a id created authenticator pending ∧
      Gone device pending pin after

/-- The history of the console. -/
def NativeBackend.Sees (self : NativeBackend) (seen : Trace console) (event : Event host)
    (seen' : Trace console) : Prop :=
  ∃ t, self.Replies event t ∧ seen' = seen ++ t

/-- **`ledger self a`** — the account of the native backend. -/
def NativeBackend.ledger (self : NativeBackend) (a : ApplicationId) : Ledger (Trace console) where
  step := self.Sees
  idle seen := ∀ event ∈ seen, ¬ MakesCredential event
  held id enrollment seen :=
    EveryMade seen fun created device pin _ => Covers a id enrollment created device pin
  settled error seen :=
    EveryMade seen fun created device pin after => GivenUp a created device pin after error

variable {self : NativeBackend} {seen : Trace console} {error : Error}

theorem NativeBackend.held_iff : (self.ledger a).held id enrollment seen ↔
    EveryMade seen fun created device pin _ => Covers a id enrollment created device pin :=
  Iff.rfl

theorem NativeBackend.settled_iff : (self.ledger a).settled error seen ↔
    EveryMade seen fun created device pin after => GivenUp a created device pin after error :=
  Iff.rfl

/-- **The native backend keeps its ledger.** -/
theorem NativeBackend.sound (self : NativeBackend) (a : ApplicationId) :
    (self.ledger a).Sound a where
  random := by
    rintro seen seen' n reply ⟨t, rfl, rfl⟩
    exact List.append_nil seen
  idle := by
    intro seen error hidle
    exact settled_iff.mpr (everyMade_of_none hidle)
  enroll := by
    rintro seen seen' id policy label operation reply hidle ⟨t, ⟨rounds, -, hrun⟩, rfl⟩
    -- the one credential of the enrollment is settled by its result
    have hsettled : EveryMade (seen ++ t) fun created device pin after =>
        Settled a id created device pin after reply.result := by
      refine everyMade_append ?_ hidle
      rintro before device credential pin status created after rfl hmade
      obtain ⟨device', credential', pin', status', created', hevent, hsettles⟩ :=
        once_enrollManaged.at hrun makesCredential_made
      cases hevent
      exact hsettles hmade
    constructor
    · intro enrollment hok
      refine held_iff.mpr (hsettled.mono fun created device pin after hcases => ?_)
      rcases hcases with ⟨enrollment', authenticator, pending, hr, hanswers⟩ | hr | ⟨e, _, _, hr, -⟩
      · rw [hok] at hr
        cases hr
        exact ⟨authenticator, pending, hanswers⟩
      · rw [hok] at hr
        cases hr
      · rw [hok] at hr
        cases hr
    · intro error herror
      refine settled_iff.mpr (hsettled.mono fun created device pin after hcases => ?_)
      rcases hcases with ⟨_, _, _, hr, -⟩ | hr | ⟨e, authenticator, pending, hr, hgone⟩
      · rw [herror] at hr
        cases hr
      · rw [herror] at hr
        cases hr
        exact .inl rfl
      · exact .inr ⟨id, authenticator, pending, hgone⟩
  evaluate := by
    rintro seen seen' id enrollment request reply hheld ⟨t, ⟨-, hrun⟩, rfl⟩
    exact held_iff.mpr
      (EveryMade.append (held_iff.mp hheld) (makesNone_evaluateManagedEnrollment _ _ hrun))
  cleanup := by
    rintro seen seen' id enrollment request reply hheld ⟨t, ⟨-, hrun⟩, rfl⟩
    have hnone := makesNone_cleanupManagedEnrollment _ _ hrun
    have hanswers := held_iff.mp hheld
    constructor
    swap
    · exact settled_iff.mpr (EveryMade.append (hanswers.mono fun _ _ _ _ _ => .inl rfl) hnone)
    intro hok error
    refine settled_iff.mpr (EveryMade.append (hanswers.mono ?_) hnone)
    rintro created device pin after ⟨authenticator, pending, hsession, hdevice, htoken, -⟩
    rw [hok] at hrun
    obtain ⟨authenticator', pin', pending', hsession', hgone⟩ :=
      gone_of_cleanupManagedEnrollment hrun
    -- the session has one token
    rw [hsession] at hsession'
    cases hsession'
    rw [hdevice] at hgone
    exact .inr ⟨id, authenticator, pending, hdevice, htoken, hgone.append_left⟩

/-- **Every managed credential is accounted for.** Whatever libfido2 replies and the application
answers, and wherever the operation fails: for every credential that a device said it made, or may
have made, an operation that succeeds returns a record of exactly that credential, and one that fails
says that the credential may remain, or saw it gone. -/
theorem native_operation_accounts (self : NativeBackend) (p : KeyProtector) (managed : Enrollment)
    (policy : FidoPolicy) (hpolicy : managed.policy = .managedFido policy) (t : Trace host)
    (r : Result (KeyEnvelope × RecipientId)) (henrolls : Ledger.Enrolls p managed t r)
    (seen : Trace console) (hpath : Path self.Sees [] t seen) :
    EveryMade seen fun created device pin after => match r with
      | .ok (e, id) => ∃ (record : FidoRecipient) (authenticator : Native.Authenticator)
        (pending : Native.PendingManagedCredential), e.find id = .ok (.fido record) ∧
          record.storage = .managed ∧ record.policy = policy ∧ authenticator.device = device ∧
            Token p.applicationId id created authenticator pending ∧
              record.credentialId = pending.credentialId ∧
                record.publicKey.asBytes = pending.es256PublicKey
      | .error error => GivenUp p.applicationId created device pin after error := by
  have hcloses := (self.sound p.applicationId).closes hpolicy henrolls (s := [])
    (fun event hmem => absurd hmem List.not_mem_nil) hpath
  cases r with
  | error error => exact NativeBackend.settled_iff.mp hcloses
  | ok returned =>
      obtain ⟨record, enrollment, hfind, hstorage, hpolicy, hid, hkey, hheld⟩ := hcloses
      refine (NativeBackend.held_iff.mp hheld).mono fun created device pin after hanswer => ?_
      obtain ⟨authenticator, pending, -, hdevice, htoken, hsame, hsameKey⟩ := hanswer
      exact ⟨record, authenticator, pending, hfind, hstorage, hpolicy, hdevice, htoken,
        hid.trans hsame, hkey ▸ hsameKey⟩

end Ledger

open NativeVector in
/-- The created envelope has a record of the credential that the device made. -/
theorem native_creation_accounts :
    let _ := managedPrimitives
    ∃ (created : Native.NativeCredential) (record : FidoRecipient)
      (authenticator : Native.Authenticator) (pending : Native.PendingManagedCredential),
      managedEnvelope.find managedRecord.id = .ok (.fido record) ∧
        Token application managedRecord.id created authenticator pending ∧
          record.credentialId = pending.credentialId := by
  let _ := managedPrimitives
  obtain ⟨t, hexec⟩ := managedCreation_runs
  have hmade : (seen t).any isMade = true := by
    have hany : (@managedCreation managedPrimitives managedSessions).elim false
        (fun run => (seen run.1).any isMade) = true := by decide +kernel
    rw [hexec] at hany
    exact hany
  have hpath : Path backend.Sees (seen []) t (seen ([] ++ t)) := by
    refine path_of_exec? (fun past query reply hreply => ?_) hexec
    obtain ⟨u, hseen, hreplies, -⟩ := replies_reply hreply
    exact ⟨u, hreplies, hseen⟩
  have haccounts := native_operation_accounts backend protector enrollment .userVerification rfl t
    _ (.createRoot (Program.runs_of_exec? hexec)) (seen t) hpath
  obtain ⟨event, hmem, hisMade⟩ := List.any_eq_true.mp hmade
  obtain ⟨device, credential, pin, status, created, rfl, hok⟩ := made_of_isMade hisMade
  obtain ⟨before, after, hsplit⟩ := List.append_of_mem hmem
  obtain ⟨record, authenticator, pending, hfind, -, -, -, htoken, hid, -⟩ :=
    haccounts before device credential pin status created after hsplit (.inl hok)
  exact ⟨created, record, authenticator, pending, hfind, htoken, hid⟩

end FidoKeyWrap
