/-
# FidoKeyWrap.FactorOrder — the security key before the passphrase.

In a combined record the passphrase is the inner factor. An unlock asks for it, and derives from it,
only after the authenticator's PRF result has authenticated the outer layer; so a record whose
context or outer ciphertext was altered fails without either (`quiet_of_altered`). An enrollment and
a rewrap ask for the new passphrase only after the ceremonies of the security key succeeded, confirm
it after it was entered, and derive only when the two entries are equal.

All of it is about the order of events, in every run, the failing ones included.
-/
import FidoKeyWrap.ContextBinding
import FidoKeyWrap.Lib.Order
import FidoKeyWrap.Session

namespace FidoKeyWrap

open ByteData Interact

variable [Primitives]

/-! ## Passphrase steps -/

/-- The event prompts for a passphrase, or reserves the memory of a derivation. -/
def PassphraseStep (event : Event host) : Prop :=
  match event.query with
  | .passphrase _ | .reserve _ => True
  | _ => False

/-- An evaluation succeeded. -/
def Asserted (t : Trace host) : Prop :=
  ∃ request reply b, (⟨.evaluate request, reply⟩ : Event host) ∈ t ∧ reply.result = .ok b

/-- An enrollment of a credential succeeded. -/
def Registered (t : Trace host) : Prop :=
  ∃ application policy label operation reply credential,
    (⟨.enroll application policy label operation, reply⟩ : Event host) ∈ t ∧
      reply.result = .ok credential

/-- The passphrase was entered at a prompt of this purpose. -/
def Entered (purpose : PassphrasePurpose) (x : Passphrase) (t : Trace host) : Prop :=
  ∃ operation label, (⟨.passphrase ⟨operation, label, purpose⟩, Except.ok x⟩ : Event host) ∈ t

/-! ## Single queries -/

section Queries

variable {C : Trace host → Event host → Prop} {past : Trace host}

theorem ordered_hostAsk {query : Query} (h : ∀ reply, C past ⟨query, reply⟩) :
    Program.Ordered C past (ask query).run :=
  Fallible.ordered_of_follows (follows_ask query) h

theorem ordered_evaluate {p : KeyProtector} {record : RecipientRecord} {e : KeyEnvelope}
    {operation : Operation} (h : ∀ request reply, C past ⟨.evaluate request, reply⟩) :
    Program.Ordered C past (p.evaluate record e operation).run := by
  apply Fallible.ordered_except_bind
  intro request hrequest
  refine Fallible.ordered_bind (ordered_hostAsk (h request)) fun _ _ _ => ?_
  exact Fallible.ordered_except _

theorem ordered_requestPassphrase {operation : Operation} {label : String}
    {purpose : PassphrasePurpose}
    (h : ∀ reply, C past ⟨.passphrase ⟨operation, label, purpose⟩, reply⟩) :
    Program.Ordered C past (requestPassphrase operation label purpose).run :=
  Fallible.ordered_bind (ordered_hostAsk h) fun _ _ _ => Fallible.ordered_except _

end Queries

section Monotone

variable {t t' : Trace host}

theorem Asserted.append (h : Asserted t) : Asserted (t ++ t') := by
  obtain ⟨request, reply, b, hmem, hb⟩ := h
  exact ⟨request, reply, b, List.mem_append_left t' hmem, hb⟩

theorem Registered.append (h : Registered t) : Registered (t ++ t') := by
  obtain ⟨application, policy, label, operation, reply, credential, hmem, hok⟩ := h
  exact ⟨application, policy, label, operation, reply, credential, List.mem_append_left t' hmem, hok⟩

end Monotone

/-! ## Unlocking -/

/-- **`OuterOpened p e r t`** — during `t` the authenticator evaluated the PRF of the record, and the
key of its result authenticated the outer layer. -/
def OuterOpened (p : KeyProtector) (e : KeyEnvelope) (r : FidoAndPassphraseRecipient)
    (t : Trace host) : Prop :=
  ∃ request reply prf fidoKey inner,
    p.prfRequest (.fidoAndPassphrase r) e .unlock = .ok request ∧
      (⟨.evaluate request, reply⟩ : Event host) ∈ t ∧ reply.result = .ok prf ∧
        Crypto.deriveFidoKey (.fidoAndPassphrase r) p.applicationId e.envelopeId prf =
            .ok fidoKey ∧
          Crypto.unwrapCombinedOuter r p.applicationId e.envelopeId fidoKey = .ok inner

/-- A passphrase step waits for the outer layer. -/
def UnlockOrder (p : KeyProtector) (e : KeyEnvelope) (r : FidoAndPassphraseRecipient)
    (past : Trace host) (event : Event host) : Prop :=
  PassphraseStep event → OuterOpened p e r past

section Unlock

variable {p : KeyProtector} {e : KeyEnvelope} {r : FidoAndPassphraseRecipient} {t : Trace host}

/-- After the outer layer was opened, everything may follow. -/
theorem ordered_of_outerOpened {α : Type} {past : Trace host} (x : Host α)
    (h : OuterOpened p e r past) : Program.Ordered (UnlockOrder p e r) past x.run := by
  obtain ⟨request, reply, prf, fidoKey, inner, hrequest, hmem, hprf, hkey, hinner⟩ := h
  intro t a hrun
  clear hrun
  induction t generalizing past with
  | nil => trivial
  | cons event t ih =>
      refine ⟨fun _ => ⟨request, reply, prf, fidoKey, inner, hrequest, hmem, hprf, hkey, hinner⟩, ?_⟩
      exact ih (List.mem_append_left _ hmem)

theorem ordered_openRecord :
    Program.Ordered (UnlockOrder p e r) [] (p.openRecord e (.fidoAndPassphrase r)).run := by
  refine Fallible.ordered_bind (ordered_evaluate ?_) fun t b heval => ?_
  · exact fun _ _ hstep => absurd hstep id
  · obtain ⟨request, reply, hrequest, hreply, rfl⟩ := runs_evaluate_ok.mp heval
    apply Fallible.ordered_except_bind
    intro fidoKey hkey
    apply Fallible.ordered_except_bind
    intro inner hinner
    exact ordered_of_outerOpened _
      ⟨request, reply, b, fidoKey, inner, hrequest, by simp, hreply, hkey, hinner⟩

/-- **Outer layer first**: an unlock of a combined record. -/
theorem ordered_unlock {id : RecipientId} (hfind : e.find id = .ok (.fidoAndPassphrase r)) :
    Program.Ordered (UnlockOrder p e r) [] (p.unlock e id).run := by
  apply Fallible.ordered_except_bind
  intro _ _
  apply Fallible.ordered_except_bind
  intro record hrecord
  rw [hfind] at hrecord
  cases hrecord
  apply Fallible.ordered_except_bind
  intro _ _
  refine Fallible.ordered_bind ordered_openRecord fun _ _ _ => ?_
  exact Fallible.ordered_except _

end Unlock

/-! ## Altered records -/

/-- One outer encryption that was performed. -/
structure OuterWrap where
  record : FidoAndPassphraseRecipient
  applicationId : ApplicationId
  envelopeId : Bytes 32
  inner : Bytes 48
  fidoKey : Crypto.DerivedKey
  ciphertext : Bytes 64
  made : Crypto.wrapCombinedOuter record applicationId envelopeId inner fidoKey = .ok ciphertext

/-- The cipher is ideal on outer layers: under the associated data of one it accepts only what a
performed encryption made, under its own key and nonce. -/
def OuterIdeal (log : Set OuterWrap) : Prop :=
  ∀ key nonce aad c, Crypto.Decrypts key nonce aad c →
    ∀ r a d, (Crypto.Layer.combinedOuter r).aad a d = .ok aad →
      ∃ w ∈ log, (Crypto.Layer.combinedOuter w.record).aad w.applicationId w.envelopeId = .ok aad ∧
        w.fidoKey.asBytes = key ∧ w.record.fidoNonce = nonce ∧ w.ciphertext.toList = c

/-- The record differs from every performed encryption in the context or in the outer ciphertext. The
PRF nonce is a field of the context. -/
def Altered (log : Set OuterWrap) (a : ApplicationId) (d : Bytes 32)
    (r : FidoAndPassphraseRecipient) : Prop :=
  ∀ w ∈ log, w.applicationId ≠ a ∨ w.envelopeId ≠ d ∨ w.record.bound ≠ r.bound ∨
    w.ciphertext ≠ r.wrappedRoot

/-- SHA-256 has no collision between the context of the record and those of the log. -/
def ContextsSeparated (log : Set OuterWrap) (a : ApplicationId) (d : Bytes 32)
    (r : FidoAndPassphraseRecipient) : Prop :=
  ∀ w ∈ log, Set.InjOn Primitives.sha256
    (Crypto.contextTranscripts (.fidoAndPassphrase w.record) w.applicationId w.envelopeId ∪
      Crypto.contextTranscripts (.fidoAndPassphrase r) a d)

section Altered

variable {log : Set OuterWrap} {p : KeyProtector} {e : KeyEnvelope}
  {r : FidoAndPassphraseRecipient} {a : ApplicationId} {d : Bytes 32}

/-- No key opens the outer layer of an altered record. -/
theorem unwrapCombinedOuter_of_altered (ideal : OuterIdeal log)
    (separated : ContextsSeparated log a d r) (altered : Altered log a d r)
    (key : Crypto.DerivedKey) (inner : Bytes 48) :
    Crypto.unwrapCombinedOuter r a d key ≠ .ok inner := by
  intro h
  obtain ⟨aad, haad, hdecrypts⟩ := (Crypto.Unwraps.combinedOuter h).decrypts
  obtain ⟨w, hw, haad', -, -, hciphertext⟩ := ideal _ _ _ _ hdecrypts r a d haad
  -- one associated data, one context
  obtain ⟨context, hcontext, hencode⟩ := except_bind_eq_ok.mp haad
  obtain ⟨context', hcontext', hencode'⟩ := except_bind_eq_ok.mp haad'
  have hfields := Transcript.encode_injective hencode' hencode
  simp only [List.cons.injEq, and_true, Bytes.toList_inj] at hfields
  obtain ⟨-, rfl⟩ := hfields
  obtain ⟨happ, henvelope, hbound⟩ :=
    Crypto.recipientContext_inj (separated w hw) hcontext' hcontext
  rcases altered w hw with h₁ | h₁ | h₁ | h₁
  · exact h₁ happ
  · exact h₁ henvelope
  · exact h₁ (RecipientRecord.fidoAndPassphrase.inj hbound)
  · exact h₁ (Bytes.toList_inj.mp hciphertext)

/-- **An altered record fails before the passphrase.** -/
theorem quiet_of_altered {id : RecipientId} (ideal : OuterIdeal log)
    (separated : ContextsSeparated log p.applicationId e.envelopeId r)
    (altered : Altered log p.applicationId e.envelopeId r)
    (hfind : e.find id = .ok (.fidoAndPassphrase r)) {t : Trace host} {result : Result RootKey}
    (h : (p.unlock e id).run.Runs t result) :
    (∃ error, result = .error error) ∧ ∀ event ∈ t, ¬ PassphraseStep event := by
  have hquiet : ∀ event ∈ t, ¬ PassphraseStep event := by
    intro event hmem hstep
    obtain ⟨before, after, rfl⟩ := List.append_of_mem hmem
    obtain ⟨_, _, _, fidoKey, inner, -, -, -, -, hinner⟩ :=
      (ordered_unlock hfind _ _ h).at rfl hstep
    exact unwrapCombinedOuter_of_altered ideal separated altered fidoKey inner hinner
  refine ⟨?_, hquiet⟩
  cases result with
  | error error => exact ⟨error, rfl⟩
  | ok root =>
      -- a success would have asked for the passphrase
      unfold KeyProtector.unlock at h
      simp only [↓Fallible.runs_except_bind_ok, Fallible.runs_bind_ok] at h
      obtain ⟨_, -, record, hrecord, _, -, t₁, opened, t₂, rfl, hopen, -⟩ := h
      rw [hfind] at hrecord
      cases hrecord
      obtain ⟨factors, hsupplies, -⟩ := runs_openRecord_ok hopen
      cases hsupplies with
      | @fidoAndPassphrase _ request reply b x =>
          exact absurd trivial (hquiet ⟨.passphrase ⟨.unlock, r.label, .unlock⟩, Except.ok x⟩ (by simp))

end Altered

/-! ## New passphrases -/

/-- **`CeremonyOrder start`** — an assertion waits for `start`; a prompt waits for the assertion, and the
confirmation for the first entry; a derivation waits for two equal entries. -/
def CeremonyOrder (start : Trace host → Prop) (past : Trace host) (event : Event host) : Prop :=
  match event.query with
  | .evaluate _ => start past
  | .passphrase prompt =>
    start past ∧ Asserted past ∧
      (prompt.purpose = .new ∨ prompt.purpose = .confirm ∧ ∃ x, Entered .new x past)
  | .reserve _ => start past ∧ Asserted past ∧ ∃ x, Entered .new x past ∧ Entered .confirm x past
  | _ => True

section Ceremony

variable {start : Trace host → Prop} {past : Trace host} {p : KeyProtector} {e : KeyEnvelope}
  {root : RootKey} {operation : Operation}

theorem ordered_of_drawn {α : Type} {x : Host α} (h : ∀ t r, x.run.Runs t r → Drawn t) :
    Program.Ordered (CeremonyOrder start) past x.run := by
  refine Program.ordered_of_forall fun t r hrun event hmem past => ?_
  obtain ⟨n, reply, rfl⟩ := h t r hrun event hmem
  trivial

theorem ordered_requestNewPassphrase {label : String} (hstart : ∀ t, start (past ++ t))
    (hasserted : Asserted past) :
    Program.Ordered (CeremonyOrder start) past (requestNewPassphrase operation label).run := by
  have hpast : start past := List.append_nil past ▸ hstart []
  refine Fallible.ordered_bind (ordered_requestPassphrase fun _ => ⟨hpast, hasserted, .inl rfl⟩) ?_
  intro t x hnew
  obtain rfl := runs_requestPassphrase_ok.mp hnew
  refine Fallible.ordered_bind (ordered_requestPassphrase fun _ => ⟨hstart _, hasserted.append, ?_⟩) ?_
  · exact .inr ⟨rfl, x, operation, label, by simp⟩
  · intro _ _ _
    apply Fallible.ordered_except_bind
    intro _ _
    exact Program.ordered_pure _

/-- How the enrollment and the rewrap of a combined record end. -/
theorem ordered_combinedTail {r : FidoAndPassphraseRecipient} (hstart : ∀ t, start (past ++ t)) :
    Program.Ordered (CeremonyOrder start) past
      (do
        let prf ← p.evaluate (.fidoAndPassphrase r) e operation
        let fidoKey ← Crypto.deriveFidoKey (.fidoAndPassphrase r) p.applicationId e.envelopeId prf
        let passphrase ← requestNewPassphrase operation r.label
        let passphraseKey ← Crypto.derivePassphraseKey (.fidoAndPassphrase r) p.applicationId
          e.envelopeId passphrase
        let wrappedRoot ← Crypto.wrapCombinedRoot r p.applicationId e.envelopeId root passphraseKey
          fidoKey
        return (.fidoAndPassphrase { r with wrappedRoot }, .combined passphraseKey fidoKey) :
          Host (RecipientRecord × RecoveryKeys)).run := by
  have hpast : start past := List.append_nil past ▸ hstart []
  refine Fallible.ordered_bind (ordered_evaluate fun _ _ => hpast) fun t₁ b heval => ?_
  obtain ⟨request, reply, -, hreply, rfl⟩ := runs_evaluate_ok.mp heval
  have hasserted : Asserted (past ++ [⟨.evaluate request, reply⟩]) :=
    ⟨request, reply, b, by simp, hreply⟩
  have hstart₁ (t : Trace host) : start (past ++ [⟨.evaluate request, reply⟩] ++ t) := by
    rw [List.append_assoc]
    exact hstart _
  apply Fallible.ordered_except_bind
  intro fidoKey _
  refine Fallible.ordered_bind (ordered_requestNewPassphrase hstart₁ hasserted) fun t₂ x hx => ?_
  obtain rfl := runs_requestNewPassphrase_ok.mp hx
  refine Fallible.ordered_bind (Fallible.ordered_of_follows
    (follows_derivePassphraseKey rfl p.applicationId e.envelopeId x) ?_) ?_
  · exact fun _ => ⟨hstart₁ _, hasserted.append, x, ⟨operation, r.label, by simp⟩,
      operation, r.label, by simp⟩
  · intro _ key _
    apply Fallible.ordered_except_bind
    intro _ _
    exact Program.ordered_pure _

/-- The draws before the ceremonies, then the rest. -/
theorem ordered_draw_bind {α β : Type} {x : Host α} {f : α → Host β}
    (hx : ∀ t r, x.run.Runs t r → Drawn t)
    (hf : ∀ t a, Program.Ordered (CeremonyOrder start) (past ++ t) (f a).run) :
    Program.Ordered (CeremonyOrder start) past (x >>= f).run :=
  Fallible.ordered_bind (ordered_of_drawn hx) fun t a _ => hf t a

/-- **An enrollment registers, asserts, and only then asks.** -/
theorem ordered_enrollCombinedRecipient {label : String} {policy : FidoPolicy}
    {parameters : PassphraseParameters} :
    Program.Ordered (CeremonyOrder Registered) past
      (p.enrollCombinedRecipient e root label policy parameters operation).run := by
  refine Fallible.ordered_bind (ordered_hostAsk fun _ => trivial) fun t₁ reply hask => ?_
  obtain ⟨reply', rfl, hsame⟩ := runs_ask.mp hask
  cases hsame
  apply Fallible.ordered_except_bind
  intro credential hcredential
  have hregistered (t t' : Trace host) :
      Registered (past ++ [⟨.enroll p.applicationId policy label operation, reply⟩] ++ t ++ t') := by
    refine Registered.append (Registered.append ?_)
    exact ⟨p.applicationId, policy, label, operation, reply, credential, by simp, hcredential⟩
  apply Fallible.ordered_except_bind
  intro _ _
  refine ordered_draw_bind (fun _ _ => drawn_uniqueRecipientId) fun t₂ id => ?_
  refine ordered_draw_bind (fun _ _ => drawn_randomArray) fun t₃ prfNonce => ?_
  refine ordered_draw_bind (fun _ _ => drawn_randomArray) fun t₄ fidoNonce => ?_
  refine ordered_draw_bind (fun _ _ => drawn_uniqueSalt) fun t₅ salt => ?_
  refine ordered_draw_bind (fun _ _ => drawn_randomArray) fun t₆ nonce => ?_
  refine ordered_combinedTail (r := ⟨id, label, credential.credentialId, credential.publicKey, policy,
    prfNonce, fidoNonce, ⟨parameters, salt⟩, nonce, Bytes.zero 64⟩) fun t => ?_
  simpa only [List.append_assoc] using hregistered (t₂ ++ t₃ ++ t₄ ++ t₅ ++ t₆) t

/-- **A rewrap asserts, and only then asks.** -/
theorem ordered_rewrapCombinedRecord {old : FidoAndPassphraseRecipient}
    {parameters : PassphraseParameters} :
    Program.Ordered (CeremonyOrder fun _ => True) past
      (p.rewrapCombinedRecord e root old parameters).run := by
  refine ordered_draw_bind (fun _ _ => drawn_freshArray) fun t₁ prfNonce => ?_
  refine ordered_draw_bind (fun _ _ => drawn_freshArray) fun t₂ fidoNonce => ?_
  refine ordered_draw_bind (fun _ _ => drawn_uniqueSalt) fun t₃ salt => ?_
  refine ordered_draw_bind (fun _ _ => drawn_freshArray) fun t₄ nonce => ?_
  exact ordered_combinedTail (r := ⟨old.id, old.label, old.credentialId, old.publicKey, old.policy,
    prfNonce, fidoNonce, ⟨parameters, salt⟩, nonce, Bytes.zero 64⟩) fun _ => trivial

/-- Staging asks for a cleanup at most. -/
theorem ordered_stageEnrollment {record : RecipientRecord} {keys : RecoveryKeys}
    {managed : Option ManagedEnrollment} :
    Program.Ordered (CeremonyOrder start) past (p.stageEnrollment e record root keys managed).run := by
  unfold KeyProtector.stageEnrollment
  split
  · exact Program.ordered_pure _
  · split
    · exact Fallible.ordered_throw _
    · split
      · refine Fallible.ordered_bind ?_ fun _ _ _ => Fallible.ordered_throw _
        refine Fallible.ordered_bind (ordered_hostAsk fun _ => trivial) fun _ _ _ => ?_
        exact Program.ordered_pure _
      · exact Fallible.ordered_throw _

theorem ordered_enrollRecipient {enrollment : Enrollment} {policy : FidoPolicy}
    (hpolicy : enrollment.policy = .fidoAndPassphrase policy) :
    Program.Ordered (CeremonyOrder Registered) past
      (p.enrollRecipient e root enrollment operation).run := by
  unfold KeyProtector.enrollRecipient
  rw [hpolicy]
  apply Fallible.ordered_except_bind
  intro parameters _
  refine Fallible.ordered_bind ordered_enrollCombinedRecipient fun _ _ _ => ?_
  exact Program.ordered_pure _

theorem ordered_protectRootForOperation {enrollment : Enrollment} {policy : FidoPolicy}
    (hpolicy : enrollment.policy = .fidoAndPassphrase policy) :
    Program.Ordered (CeremonyOrder Registered) past
      (p.protectRootForOperation root enrollment operation).run := by
  apply Fallible.ordered_except_bind
  intro _ _
  refine ordered_draw_bind (fun _ _ => drawn_randomArray) fun _ _ => ?_
  refine Fallible.ordered_bind (ordered_enrollRecipient hpolicy) fun _ _ _ => ?_
  refine Fallible.ordered_bind ordered_stageEnrollment fun _ _ _ => ?_
  exact Program.ordered_pure _

theorem ordered_addRecipient {enrollment : Enrollment} {policy : FidoPolicy}
    (hpolicy : enrollment.policy = .fidoAndPassphrase policy) :
    Program.Ordered (CeremonyOrder Registered) past
      (StateT.run (p.addRecipient root enrollment).run e) := by
  apply Mutating.ordered_get_bind
  apply Mutating.ordered_except_bind
  intro _ _
  apply Mutating.ordered_except_bind
  intro _ _
  apply Mutating.ordered_except_bind
  intro _ _
  refine Mutating.ordered_lift_bind (ordered_enrollRecipient hpolicy) fun _ _ _ => ?_
  refine Mutating.ordered_lift_bind ordered_stageEnrollment fun _ _ _ => ?_
  exact Mutating.ordered_set_pure _ _

theorem ordered_rewrapPassphraseInner {id : RecipientId} {parameters : PassphraseParameters}
    {old : FidoAndPassphraseRecipient} (hfind : e.find id = .ok (.fidoAndPassphrase old)) :
    Program.Ordered (CeremonyOrder fun _ => True) past
      (StateT.run (p.rewrapPassphraseInner root id parameters).run e) := by
  apply Mutating.ordered_get_bind
  apply Mutating.ordered_except_bind
  intro _ _
  apply Mutating.ordered_except_bind
  intro current hcurrent
  rw [hfind] at hcurrent
  cases hcurrent
  apply Mutating.ordered_except_bind
  intro _ _
  apply Mutating.ordered_except_bind
  intro _ _
  apply Mutating.ordered_except_bind
  intro _ _
  refine Mutating.ordered_lift_bind ordered_rewrapCombinedRecord fun _ _ _ => ?_
  apply Mutating.ordered_except_bind
  intro _ _
  apply Mutating.ordered_except_bind
  intro _ _
  exact Mutating.ordered_set _

theorem ordered_rewrapPassphrase {id : RecipientId} {old : FidoAndPassphraseRecipient}
    (hfind : e.find id = .ok (.fidoAndPassphrase old)) :
    Program.Ordered (CeremonyOrder fun _ => True) past
      (StateT.run (p.rewrapPassphrase root id).run e) := by
  apply Mutating.ordered_get_bind
  apply Mutating.ordered_except_bind
  intro _ _
  apply Mutating.ordered_except_bind
  intro _ _
  apply Mutating.ordered_except_bind
  intro _ _
  exact ordered_rewrapPassphraseInner hfind

end Ceremony

/-! ## Every call -/

/-- The call enrolls a combined record. -/
def Call.EnrollsCombined : Call → Prop
  | createRoot enrollment | protectRoot _ enrollment | addRecipient _ _ enrollment =>
    ∃ policy, enrollment.policy = .fidoAndPassphrase policy
  | _ => False

/-- The call rewraps a combined record. -/
def Call.RewrapsCombined : Call → Prop
  | rewrapPassphrase e _ id | rewrapPassphraseWithParameters e _ id _ =>
    ∃ old, e.find id = .ok (.fidoAndPassphrase old)
  | _ => False

theorem lawful_of_enrollsCombined {p : KeyProtector} {call : Call} {t : Trace host}
    (hcall : call.EnrollsCombined) (h : call.Runs p t) : Lawful (CeremonyOrder Registered) [] t := by
  cases call with
  | createRoot enrollment =>
      obtain ⟨policy, hpolicy⟩ := hcall
      obtain ⟨r, hrun⟩ := h
      refine ordered_draw_bind (fun _ _ => drawn_make) (fun _ _ => ?_) t r hrun
      refine Fallible.ordered_bind (ordered_protectRootForOperation hpolicy) fun _ _ _ => ?_
      exact Program.ordered_pure _
  | protectRoot root enrollment =>
      obtain ⟨policy, hpolicy⟩ := hcall
      obtain ⟨r, hrun⟩ := h
      exact ordered_protectRootForOperation hpolicy t r hrun
  | addRecipient e root enrollment =>
      obtain ⟨policy, hpolicy⟩ := hcall
      obtain ⟨r, e', hrun⟩ := h
      exact ordered_addRecipient hpolicy t (r, e') hrun
  | _ => cases hcall

theorem lawful_of_rewrapsCombined {p : KeyProtector} {call : Call} {t : Trace host}
    (hcall : call.RewrapsCombined) (h : call.Runs p t) :
    Lawful (CeremonyOrder fun _ => True) [] t := by
  cases call with
  | rewrapPassphrase e root id =>
      obtain ⟨old, hfind⟩ := hcall
      obtain ⟨r, e', hrun⟩ := h
      exact ordered_rewrapPassphrase hfind t (r, e') hrun
  | rewrapPassphraseWithParameters e root id parameters =>
      obtain ⟨old, hfind⟩ := hcall
      obtain ⟨r, e', hrun⟩ := h
      exact ordered_rewrapPassphraseInner hfind t (r, e') hrun
  | _ => cases hcall

/-- **The passphrase of a combined record comes last**, in every run of an unlock, an enrollment and a
rewrap, whatever the backend and the user do. -/
theorem passphrase_after_security_key (p : KeyProtector) :
    (∀ (e : KeyEnvelope) id r, e.find id = .ok (.fidoAndPassphrase r) → ∀ t result,
      (p.unlock e id).run.Runs t result →
        (∀ before event after, t = before ++ event :: after → PassphraseStep event →
          OuterOpened p e r before) ∧
        ∀ log, OuterIdeal log → ContextsSeparated log p.applicationId e.envelopeId r →
          Altered log p.applicationId e.envelopeId r →
            (∃ error, result = .error error) ∧ ∀ event ∈ t, ¬ PassphraseStep event) ∧
    (∀ call t, Call.Runs p t call → ∀ before event after, t = before ++ event :: after →
      (call.EnrollsCombined → CeremonyOrder Registered before event) ∧
        (call.RewrapsCombined → CeremonyOrder (fun _ => True) before event)) := by
  refine ⟨fun e id r hfind t result h => ⟨?_, ?_⟩, fun call t h before event after ht => ⟨?_, ?_⟩⟩
  · intro before event after ht
    exact (ordered_unlock hfind t result h).at ht
  · intro log ideal separated altered
    exact quiet_of_altered ideal separated altered hfind h
  · intro hcall
    exact (lawful_of_enrollsCombined hcall h).at ht
  · intro hcall
    exact (lawful_of_rewrapsCombined hcall h).at ht

section Vectors

omit [Primitives]

/-- The combined vector with another outer ciphertext. -/
def alteredRecord : FidoAndPassphraseRecipient :=
  { Vector.combinedRecord with wrappedRoot := Bytes.zero 64 }

def alteredEnvelope : KeyEnvelope :=
  { Vector.combinedEnvelope with recipients := [.fidoAndPassphrase alteredRecord] }

/-- The outer encryption of the combined vector. -/
def combinedWrap : @OuterWrap Vector.combinedRecording.primitives :=
  @OuterWrap.mk Vector.combinedRecording.primitives Vector.combinedRecord Vector.application
    Vector.combinedEnvelopeId Vector.combinedInner ⟨Vector.combinedFidoKey⟩
    Vector.combinedRecord.wrappedRoot (by decide +kernel)

theorem outerIdeal_combinedRecording :
    @OuterIdeal Vector.combinedRecording.primitives {combinedWrap} := by
  let _ := Vector.combinedRecording.primitives
  intro key nonce aad c h r a d haad
  obtain ⟨s, hs, rfl, rfl, rfl, rfl⟩ := Crypto.exists_seal_of_decrypts h
  rcases List.mem_cons.mp hs with rfl | hs
  · -- the inner layer has another domain
    obtain ⟨context, -, hencode⟩ := except_bind_eq_ok.mp haad
    have hinner : Transcript.encode [Crypto.combinedPassphraseAadDomain,
        Vector.combinedContext.toList] = .ok (Framing.frame
          [Vector.domain "combined_passphrase_aad", Vector.combinedContext.toList]) := by
      decide
    have hfields := Transcript.encode_injective hencode hinner
    have hdomain : Crypto.combinedFidoAadDomain = Crypto.combinedPassphraseAadDomain :=
      (List.cons.inj hfields).1
    exact absurd hdomain (by decide +kernel)
  · obtain rfl := List.mem_singleton.mp hs
    exact ⟨combinedWrap, rfl, by decide +kernel, rfl, rfl, by decide +kernel⟩

set_option maxRecDepth 3000 in
/-- The combined vector is unlocked in order, its altered copy fails before the passphrase, and a new
combined record of the same user is enrolled and rewrapped in order. -/
theorem combinedVector_in_order :
    let _ := Vector.combinedRecording.primitives
    let p : KeyProtector := ⟨Vector.application, .desktop⟩
    let unlocked := (p.unlock Vector.combinedEnvelope Vector.combinedRecord.id).run.exec
      Vector.combinedEnvironment []
    let failed := (p.unlock alteredEnvelope alteredRecord.id).run.exec Vector.combinedEnvironment []
    let created := (p.createRoot ⟨"combined", .fidoAndPassphrase .presence, some .desktop⟩).run.exec
      Vector.combinedEnvironment []
    let rewrapped := (StateT.run (p.rewrapPassphrase ⟨Vector.root⟩ Vector.combinedRecord.id).run
      Vector.combinedEnvelope).exec Vector.combinedEnvironment []
    unlocked.2 = .ok ⟨Vector.root⟩ ∧
      (∀ before event after, unlocked.1 = before ++ event :: after → PassphraseStep event →
        OuterOpened p Vector.combinedEnvelope Vector.combinedRecord before) ∧
      (∀ event ∈ failed.1, ¬ PassphraseStep event) ∧
      (∀ before event after, created.1 = before ++ event :: after →
        CeremonyOrder Registered before event) ∧
      ∀ before event after, rewrapped.1 = before ++ event :: after →
        CeremonyOrder (fun _ => True) before event := by
  let _ := Vector.combinedRecording.primitives
  let p : KeyProtector := ⟨Vector.application, .desktop⟩
  obtain ⟨hunlock, hceremony⟩ := passphrase_after_security_key p
  refine ⟨by decide, ?_, ?_, fun before event after ht => ?_, fun before event after ht => ?_⟩
  · exact (hunlock Vector.combinedEnvelope Vector.combinedRecord.id Vector.combinedRecord
      (by decide) _ _ (Program.exec_runs _ _ _)).1
  · refine ((hunlock alteredEnvelope alteredRecord.id alteredRecord (by decide) _ _
      (Program.exec_runs _ _ _)).2 {combinedWrap} outerIdeal_combinedRecording ?_ ?_).2
    · rintro w rfl
      -- the alteration left the context as it was
      rw [show Crypto.contextTranscripts (.fidoAndPassphrase combinedWrap.record)
        combinedWrap.applicationId combinedWrap.envelopeId = Crypto.contextTranscripts
          (.fidoAndPassphrase alteredRecord) p.applicationId alteredEnvelope.envelopeId from rfl,
        Set.union_self]
      exact (Crypto.contextTranscripts_subsingleton _ _ _).injOn _
    · rintro w rfl
      exact .inr (.inr (.inr (by decide)))
  · exact (hceremony (.createRoot _) _ ⟨_, Program.exec_runs _ _ _⟩ before event after ht).1 ⟨_, rfl⟩
  · exact (hceremony (.rewrapPassphrase Vector.combinedEnvelope _ _) _
      ⟨_, _, Program.exec_runs _ _ _⟩ before event after ht).2 ⟨Vector.combinedRecord, by decide⟩

end Vectors

end FidoKeyWrap
