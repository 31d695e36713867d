/-
# FidoKeyWrap.NativeInterruption — callbacks that fail in the middle of a ceremony.

The native backend calls back three times at most before it touches the device for good, and once more
when it cleans up. A failed callback ends its call with exactly that failure, unless a credential was
already made: then nothing but the cleanup decides (`NativeBackend.faithful`). With the protector this
gives every operation, whatever libfido2 replies (`native_operation_blames`).
-/
import FidoKeyWrap.Interruption
import FidoKeyWrap.NativePrf

namespace FidoKeyWrap

open ByteData Interact Fallible

/-! ## What the console heard -/

/-- The refusal of one prompt; a foreign call has none. -/
def consoleRefusals : Event console → List InteractionError
  | ⟨.inl (.selectAuthenticatorByTouch ..), answer⟩ => refused answer
  | ⟨.inl (.requestPin ..), answer⟩ => refused answer
  | ⟨.inl (.touchRequired ..), answer⟩ => refused answer
  | ⟨.inr _, _⟩ => []

/-- **`ConsoleHears event u`** — the application refused the prompt with the errors `u`. -/
def ConsoleHears (event : Event console) (u : List InteractionError) : Prop :=
  u = consoleRefusals event

theorem innocent_mapNativeError (error : Native.Error) :
    interruption.Innocent (mapNativeError error) := by
  cases error <;> nofun

section Calls

variable {α : Type}

/-- A prompt ends as the application answered. -/
theorem causes_prompt {q : DevicePrompt} {result : q.Reply → Except InteractionError α}
    (hq : ∀ answer, consoleRefusals ⟨.inl q, answer⟩ = refused (result answer)) :
    Causes ConsoleHears interruption (Fallible.left Error.interaction
      (prompt q >>= fun answer => (liftM (result answer) : Interaction α)) : Console α) := by
  intro t r u hrun hheard
  obtain ⟨v, s, rfl, hanswered, rfl⟩ := runs_left.mp hrun
  obtain ⟨v₁, answer, v₂, rfl, hasked, hdone⟩ | ⟨e, hasked, -⟩ := runs_bind.mp hanswered
  · obtain ⟨answer', hask, hsame⟩ := runs_lift.mp hasked
    cases hsame
    rw [Program.runs_ask] at hask
    obtain ⟨rfl, rfl⟩ := runs_except.mp hdone
    subst hask
    have hone : ConsoleHears (Event.left ⟨q, answer⟩) u := heard_singleton.mp hheard
    rw [hone]
    change Causal interruption (consoleRefusals ⟨.inl q, answer⟩) _
    rw [hq answer]
    exact causal_refused (result answer)
  · obtain ⟨answer, -, hsame⟩ := runs_lift.mp hasked
    cases hsame

theorem causes_selectAuthenticatorByTouch (operation : Operation) (label : String)
    (policy : FidoPolicy) :
    Causes ConsoleHears interruption (selectAuthenticatorByTouch operation label policy) :=
  causes_prompt (q := .selectAuthenticatorByTouch operation label policy) fun _ => rfl

theorem causes_requestPin (operation : Operation) (label : String) (ceremony : FidoCeremony) :
    Causes ConsoleHears interruption (requestPin operation label ceremony) :=
  causes_prompt (q := .requestPin operation label ceremony) fun _ => rfl

theorem causes_touchRequired (operation : Operation) (label : String) (ceremony : FidoCeremony)
    (policy : FidoPolicy) :
    Causes ConsoleHears interruption (touchRequired operation label ceremony policy) :=
  causes_prompt (q := .touchRequired operation label ceremony policy) fun _ => rfl

/-- The adapter does not call back. -/
theorem hears_right (p : Program Native.libfido2 α) :
    Program.Hears ConsoleHears (Program.right p) fun u _ => u = [] :=
  Program.hears_of_every (Program.every_right fun _ _ _ _ _ _ hheard => hheard)

theorem hears_native (x : Native.Adapter α) :
    Program.Hears ConsoleHears (native x).run fun u _ => u = [] :=
  Program.hears_of_every (every_right fun _ _ _ _ _ _ hheard => hheard)

/-- No error of the adapter looks like a callback's. -/
theorem causes_native (x : Native.Adapter α) : Causes ConsoleHears interruption (native x) := by
  intro t r u hrun hheard
  obtain rfl := hears_native x t r u hrun hheard
  obtain ⟨v, s, -, -, rfl⟩ := runs_right.mp hrun
  exact causal_of_errors (errors_mapError innocent_mapNativeError)

theorem causes_outcomeRight_bind {β γ : Type} {x : Fallible Native.libfido2 β α}
    {f : Except β α → Console γ} (hf : ∀ r, Causes ConsoleHears interruption (f r)) :
    Causes ConsoleHears interruption (outcomeRight x >>= f) := by
  refine causesFrom_lift_bind (hears_right x.run) ?_
  rintro _ r rfl
  exact hf r

end Calls

/-! ## Cleaning up -/

section Cleanup

variable [Primitives] [ManagedSessions] (authenticator : Native.Authenticator) (pin : Native.Pin)
  (pending : Native.PendingManagedCredential) (label : String) (policy : FidoPolicy)

omit [Primitives] [ManagedSessions] in
/-- A cleanup that a callback stopped did not remove the credential. -/
theorem hears_cleanupNativePending : Program.Hears ConsoleHears
    (cleanupNativePending authenticator pin pending label policy)
    fun u gone => gone = true → u = [] := by
  refine Program.hears_bind (hears_native _) ?_
  rintro _ (e | _ | cleanup) rfl
  · exact Program.hears_pure fun hgone => nomatch hgone
  · exact Program.hears_pure fun _ => rfl
  · refine Program.hears_bind (causes_touchRequired .retireManagedRecipient label .assertion policy) ?_
    rintro u (e | _) hcausal
    · exact Program.hears_pure fun hgone => nomatch hgone
    · obtain rfl : u = [] := hcausal.nil_of_ok
      refine Program.hears_bind (hears_native _) ?_
      rintro _ r rfl
      exact Program.hears_pure fun _ => rfl

omit [ManagedSessions] in
theorem causes_rejectPendingManaged {original : Error} (h : interruption.Innocent original) :
    Causes ConsoleHears interruption
      (rejectPendingManaged authenticator pin pending label policy original) := by
  refine causesFrom_lift_bind
    (hears_cleanupNativePending authenticator pin pending label policy) fun u gone hgone => ?_
  cases gone with
  | true =>
      rw [hgone rfl]
      exact causesFrom_throw (causal_of_errors (errors_throw h))
  | false => exact causesFrom_throw (causal_masked innocent_masked _)

omit [ManagedSessions] in
theorem causes_rejectCreatedManaged (enrolled : Native.Enrollment) {original : Error}
    (h : interruption.Innocent original) :
    Causes ConsoleHears interruption
      (rejectCreatedManaged authenticator pin enrolled label policy original) := by
  unfold rejectCreatedManaged
  split
  · exact causesFrom_throw (causal_masked innocent_masked [])
  · exact causes_rejectPendingManaged authenticator pin _ label policy h

theorem causes_acceptManaged (enrolled : Except Native.EnrollmentFailure Native.Enrollment) :
    Causes ConsoleHears interruption (acceptManaged authenticator pin label policy enrolled) := by
  have hinvalid : interruption.Innocent .authenticatorResponseInvalid := nofun
  unfold acceptManaged
  split
  · rename_i failure
    have horiginal := innocent_mapNativeError failure.error
    dsimp only
    split
    · exact causesFrom_throw (causal_of_errors (errors_throw horiginal))
    · exact causes_rejectPendingManaged authenticator pin _ label policy horiginal
  · rename_i enrolled
    split
    · exact causes_rejectCreatedManaged authenticator pin label policy enrolled hinvalid
    · split
      · exact causes_rejectCreatedManaged authenticator pin label policy enrolled hinvalid
      · exact causes_except_bind (errors_okOr innocent_masked) fun _ _ => causes_pure _

end Cleanup

/-! ## The calls of the backend -/

namespace NativeBackend

section Backend

variable [Primitives] [ManagedSessions] (self : NativeBackend)

omit [Primitives] [ManagedSessions] in
theorem causes_nativePin (pin : Pin) {α : Type} {f : Native.Pin → Console α}
    (hf : ∀ nativePin, Causes ConsoleHears interruption (f nativePin)) :
    Causes ConsoleHears interruption
      ((liftM ((Native.Pin.new pin.asStr).mapError mapNativeError) : Console Native.Pin) >>= f) :=
  causes_except_bind (errors_mapError innocent_mapNativeError) fun nativePin _ => hf nativePin

omit [Primitives] [ManagedSessions] in
theorem causes_selectionTouch (operation : Operation) (label : String) (policy : FidoPolicy)
    (selection : Native.PreparedSelection) :
    Causes ConsoleHears interruption (selectionTouch operation label policy selection) := by
  unfold selectionTouch
  split
  · exact causes_selectAuthenticatorByTouch operation label policy
  · exact causes_pure ()

omit [Primitives] [ManagedSessions] in
theorem causes_select (operation : Operation) (label : String) (policy : FidoPolicy)
    (rounds : Nat) :
    Causes ConsoleHears interruption (self.select operation label policy rounds) := by
  refine causes_bind (causes_native _) fun selection => ?_
  refine causes_bind (causes_selectionTouch operation label policy selection) fun _ => ?_
  refine causes_bind (causes_native _) fun authenticator => ?_
  exact causes_except_bind (errors_require nofun) fun _ _ => causes_pure authenticator

omit [Primitives] [ManagedSessions] in
theorem causes_selectManaged (operation : Operation) (label : String) (policy : FidoPolicy)
    (capability : Native.ManagedCapability) (rounds : Nat) :
    Causes ConsoleHears interruption
      (self.selectManaged operation label policy capability rounds) := by
  refine causes_bind (causes_native _) fun selection => ?_
  exact causes_bind (causes_selectionTouch operation label policy selection) fun _ => causes_native _

omit [Primitives] [ManagedSessions] in
theorem causes_evaluate (request : PrfRequest) (rounds : Nat) :
    Causes ConsoleHears interruption (self.evaluate request rounds) := by
  refine causes_bind (self.causes_select _ _ _ rounds) fun authenticator => ?_
  have hpin : Causes ConsoleHears interruption (assertionPin request) := by
    unfold assertionPin
    split
    · exact causes_pure none
    · refine causes_bind (causes_requestPin _ _ _) fun pin => ?_
      exact causes_nativePin pin fun _ => causes_pure _
  refine causes_bind hpin fun pin => ?_
  exact causes_bind (causes_touchRequired _ _ _ _) fun _ => causes_native _

omit [ManagedSessions] in
theorem causes_enroll (a : ApplicationId) (policy : FidoPolicy) (label : String)
    (operation : Operation) (rounds : Nat) :
    Causes ConsoleHears interruption (self.enroll a policy label operation rounds) := by
  refine causes_bind (self.causes_select operation label policy rounds) fun authenticator => ?_
  refine causes_bind (causes_requestPin operation label .enrollment) fun pin => ?_
  refine causes_nativePin pin fun nativePin => ?_
  refine causes_bind (causes_touchRequired operation label .enrollment policy) fun _ => ?_
  refine causes_outcomeRight_bind fun enrolled => causesFrom_except (causal_of_errors ?_)
  unfold acceptEnrolled
  split
  · split
    · exact errors_throw innocent_masked
    · exact errors_throw (innocent_mapNativeError _)
  · refine errors_bind (errors_require nofun) fun _ _ => ?_
    refine errors_bind (errors_mapError fun _ => nofun) fun publicKey _ => ?_
    exact errors_bind (errors_require innocent_masked) fun _ _ => errors_ok ⟨_, rfl⟩

theorem causes_enrollManaged (a : ApplicationId) (id : RecipientId) (policy : FidoPolicy)
    (label : String) (operation : Operation) (rounds : Nat) :
    Causes ConsoleHears interruption
      (self.enrollManaged a id policy label operation rounds) := by
  refine causes_bind (self.causes_selectManaged operation label policy _ rounds)
    fun authenticator => ?_
  refine causes_bind (causes_requestPin operation label .enrollment) fun pin => ?_
  refine causes_nativePin pin fun nativePin => ?_
  refine causes_bind (causes_touchRequired operation label .enrollment policy) fun _ => ?_
  exact causes_outcomeRight_bind fun enrolled =>
    causes_acceptManaged authenticator nativePin label policy enrolled

omit [Primitives] [ManagedSessions] in
theorem causes_touchManaged (request : ManagedRequest) :
    Causes ConsoleHears interruption (touchManaged request) :=
  causes_touchRequired _ _ _ _

omit [Primitives] [ManagedSessions] in
theorem causes_requestNativePin (request : ManagedRequest) :
    Causes ConsoleHears interruption (requestNativePin request) := by
  refine causes_bind (causes_requestPin _ _ _) fun pin => ?_
  exact causesFrom_except (causal_of_errors (errors_mapError innocent_mapNativeError))

omit [Primitives] [ManagedSessions] in
theorem causes_verifyManaged (request : ManagedRequest) (rounds : Nat) :
    Causes ConsoleHears interruption (self.verifyManaged request rounds) := by
  refine causes_bind (self.causes_selectManaged _ _ _ _ rounds) fun authenticator => ?_
  refine causes_bind (causes_requestNativePin request) fun pin => ?_
  exact causes_bind (causes_touchManaged request) fun _ => causes_native _

omit [Primitives] [ManagedSessions] in
theorem causes_retireManaged (request : ManagedRequest) (rounds : Nat) :
    Causes ConsoleHears interruption (self.retireManaged request rounds) := by
  refine causes_bind (self.causes_selectManaged _ _ _ _ rounds) fun authenticator => ?_
  refine causes_bind (causes_requestNativePin request) fun pin => ?_
  exact causes_bind (causes_touchManaged request) fun _ => causes_native _

theorem causes_evaluateManagedEnrollment (enrollment : ManagedEnrollment) (request : PrfRequest) :
    Causes ConsoleHears interruption
      (NativeBackend.evaluateManagedEnrollment enrollment request) := by
  unfold NativeBackend.evaluateManagedEnrollment
  split
  · exact causes_bind (causes_touchRequired _ _ _ _) fun _ => causes_native _
  · exact causesFrom_throw (causal_of_errors (errors_throw nofun))

theorem causes_cleanupManagedEnrollment (enrollment : ManagedEnrollment)
    (request : ManagedRequest) :
    Causes ConsoleHears interruption
      (NativeBackend.cleanupManagedEnrollment enrollment request) := by
  unfold NativeBackend.cleanupManagedEnrollment
  split
  · refine causes_bind (causes_native _) fun cleanup => ?_
    cases cleanup with
    | none => exact causes_pure ()
    | some cleanup => exact causes_bind (causes_touchManaged request) fun _ => causes_native _
  · exact causesFrom_throw (causal_of_errors (errors_throw nofun))

/-! ## The backend as a world -/

/-- The refusal of a passphrase, which the protector asks for itself. -/
def passphraseRefusals : Event host → List InteractionError
  | ⟨.passphrase _, answer⟩ => refused answer
  | _ => []

/-- **`Hears self event u`** — the callbacks that failed while the protector got the reply, in their
order. -/
def Hears (event : Event host) (u : List InteractionError) : Prop :=
  ∃ t v, self.Replies event t ∧ Heard ConsoleHears t v ∧ u = passphraseRefusals event ++ v

/-- **The native backend is faithful.** -/
theorem faithful : Faithful self.Hears where
  random := by
    rintro n _ r ⟨t, v, rfl, rfl, rfl⟩
    rfl
  reserve := by
    rintro n _ r ⟨t, v, rfl, rfl, rfl⟩
    rfl
  passphrase := by
    rintro prompt _ r ⟨t, v, rfl, rfl, rfl⟩
    exact List.append_nil _
  enroll := by
    rintro _ _ _ _ _ r ⟨t, v, ⟨rounds, -, hrun⟩, hheard, rfl⟩
    exact self.causes_enroll _ _ _ _ rounds t _ _ hrun hheard
  enrollManaged := by
    rintro _ _ _ _ _ _ r ⟨t, v, ⟨rounds, -, hrun⟩, hheard, rfl⟩
    exact self.causes_enrollManaged _ _ _ _ _ rounds t _ _ hrun hheard
  evaluate := by
    rintro _ _ r ⟨t, v, ⟨rounds, -, hrun⟩, hheard, rfl⟩
    exact self.causes_evaluate _ rounds t _ _ hrun hheard
  evaluateManagedEnrollment := by
    rintro _ _ _ r ⟨t, v, ⟨-, hrun⟩, hheard, rfl⟩
    exact causes_evaluateManagedEnrollment _ _ t _ _ hrun hheard
  cleanupManagedEnrollment := by
    rintro _ _ _ r ⟨t, v, ⟨-, hrun⟩, hheard, rfl⟩
    exact causes_cleanupManagedEnrollment _ _ t _ _ hrun hheard
  verifyManaged := by
    rintro _ _ r ⟨t, v, ⟨rounds, -, hrun⟩, hheard, rfl⟩
    exact self.causes_verifyManaged _ rounds t _ _ hrun hheard
  retireManaged := by
    rintro _ _ r ⟨t, v, ⟨rounds, -, hrun⟩, hheard, rfl⟩
    exact self.causes_retireManaged _ rounds t _ _ hrun hheard

end Backend

end NativeBackend

section Blames

variable [Primitives] [ManagedSessions]

/-- **A failed callback is what its operation reports.** Whatever libfido2 replies and wherever the
operation stops: one that succeeds had no failed callback; one that ends with a callback's error had
exactly this failure; and after a failed callback it ends so, or says that a managed credential may
have stayed behind. -/
theorem native_operation_blames (self : NativeBackend) (p : KeyProtector) (t : Trace host)
    (r : Result Unit) (hinteracts : p.Interacts t r) (u : List InteractionError)
    (hheard : Heard self.Hears t u) :
    (r = .ok () → u = []) ∧
      (∀ error, r = .error (.interaction error) → u = [error]) ∧
        (u ≠ [] → (∃ error, u = [error] ∧ r = .error (.interaction error)) ∨
          r = .error (.authenticator .credentialMayRemain)) := by
  cases self.faithful.causal hinteracts hheard with
  | through hinnocent =>
      exact ⟨fun _ => rfl, fun error hr => absurd hr (hinnocent error), fun hu => absurd rfl hu⟩
  | stopped error =>
      refine ⟨nofun, fun error' hr => ?_, fun _ => .inl ⟨error, rfl, rfl⟩⟩
      cases hr
      rfl
  | masked u hu => exact ⟨nofun, nofun, fun _ => .inr rfl⟩

end Blames

/-! ## A cancelled PIN -/

namespace NativeVector

/-- The user cancels the PIN and answers the rest. -/
def cancel (past : Trace console) : (query : console.Query) → Option (console.Reply query)
  | .inl (.requestPin ..) => some (.error .cancelled)
  | .inl (.selectAuthenticatorByTouch ..) | .inl (.touchRequired ..) => some (.ok ())
  | .inr query => Native.Vector.device (rights past) query

section Cancelled

variable [Primitives]

/-- The backend, as far as an unlock needs it. -/
def cancelledReply (_ : Trace host) : (query : Query) → Option query.Reply
  | .evaluate request => ((backend.evaluate request 1).run.exec? cancel []).map fun run =>
      { prompts := (lefts run.1).map Event.query, result := run.2 }
  | _ => none

def cancelledUnlock : Option (Trace host × Result RootKey) :=
  (protector.unlock managedEnvelope managedRecord.id).run.exec? cancelledReply []

theorem runs_cancelledUnlock {t : Trace host} {r : Result RootKey}
    (h : cancelledUnlock = some (t, r)) :
    (protector.unlock managedEnvelope managedRecord.id).run.Runs t r :=
  Program.runs_of_exec? h

variable [ManagedSessions]

theorem heard_cancelledReply {past : Trace host} {query : Query} {r : query.Reply}
    (h : cancelledReply past query = some r) : ∃ u, backend.Hears ⟨query, r⟩ u := by
  cases query with
  | evaluate request =>
      obtain ⟨⟨t, r'⟩, hexec, rfl⟩ := Option.map_eq_some_iff.mp h
      obtain ⟨v, hheard⟩ := Program.exists_heard_of_exec? hexec fun _ query r _ =>
        (⟨_, rfl⟩ : ∃ v, ConsoleHears ⟨query, r⟩ v)
      exact ⟨_, t, v, ⟨1, rfl, Program.runs_of_exec? hexec⟩, hheard, rfl⟩
  | _ => cases h

theorem heard_cancelledUnlock {t : Trace host} {r : Result RootKey}
    (h : cancelledUnlock = some (t, r)) : ∃ u, Heard backend.Hears t u :=
  Program.exists_heard_of_exec? h fun _ _ _ => heard_cancelledReply

end Cancelled

theorem cancelledUnlock_stops : (@cancelledUnlock managedPrimitives).elim false
    (fun run => match run.2 with
      | .error (.interaction .cancelled) => true
      | _ => false) = true := by
  decide +kernel

theorem cancelledUnlock_runs : ∃ t, @cancelledUnlock managedPrimitives =
    some (t, .error (.interaction .cancelled)) := by
  have hstops := cancelledUnlock_stops
  cases hexec : @cancelledUnlock managedPrimitives with
  | none =>
      rw [hexec] at hstops
      cases hstops
  | some run =>
      obtain ⟨t, r⟩ := run
      rw [hexec] at hstops
      cases r with
      | ok root => cases hstops
      | error error =>
          cases error with
          | interaction error =>
              cases error with
              | cancelled => exact ⟨t, rfl⟩
              | _ => cases hstops
          | _ => cases hstops

end NativeVector

open NativeVector in
set_option maxRecDepth 3000 in
/-- The unlock of a managed credential reports that its PIN was cancelled. -/
theorem cancelled_unlock_blames :
    let _ := managedPrimitives
    ∃ t u, Heard backend.Hears t u ∧
      protector.Interacts t (.error (.interaction .cancelled)) ∧ u = [.cancelled] := by
  let _ := managedPrimitives
  obtain ⟨t, hexec⟩ := cancelledUnlock_runs
  have hinteracts : protector.Interacts t (.error (.interaction .cancelled)) :=
    .unlock (runs_cancelledUnlock hexec)
  obtain ⟨u, hheard⟩ := heard_cancelledUnlock hexec
  exact ⟨t, u, hheard, hinteracts,
    (native_operation_blames backend protector t _ hinteracts u hheard).2.1 .cancelled rfl⟩

end FidoKeyWrap
