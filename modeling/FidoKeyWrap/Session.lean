/-
# FidoKeyWrap.Session — whole runs of the protector's operations.

A session starts from a successful creation (`Created`) or from a decoded envelope the root
authenticates, and goes on with updates, successful or failing, by any protector, and with encoding
and decoding in between (`Step`). Nothing is assumed about the random source, the user, the
authenticator or the credential ids it returns. `Sound` is the invariant of every session
(`sound_of_steps`): one step re-establishes it because staging ends in a decode, and the run lemma
is the induction over the steps.
-/
import FidoKeyWrap.Transaction

namespace FidoKeyWrap

open ByteData Interact

variable [Primitives]

/-! ## Creation -/

/-- **`Created p t root e id held`** — a successful creation, what its user gets to keep for the
first record included. -/
inductive Created (p : KeyProtector) (t : Trace host) :
    RootKey → KeyEnvelope → RecipientId → Held → Prop
  | createRoot {enrollment root e id} :
      (p.createRoot enrollment).run.Runs t (.ok (root, e, id)) → Created p t root e id (Held.typed t)
  | protectRoot {root enrollment e id} :
      (p.protectRoot root enrollment).run.Runs t (.ok (e, id)) → Created p t root e id (Held.typed t)
  | createRootWithRecoverySecret {label root e reply} :
      (p.createRootWithRecoverySecret label).run.Runs t (.ok (root, e, reply)) →
        Created p t root e reply.id { recoverySecret := some reply.secret }
  | protectRootWithRecoverySecret {root label e reply} :
      (p.protectRootWithRecoverySecret root label).run.Runs t (.ok (e, reply)) →
        Created p t root e reply.id { recoverySecret := some reply.secret }
  | createRootWithFidoAndLocalSecret {label root e reply} :
      (p.createRootWithFidoAndLocalSecret label).run.Runs t (.ok (root, e, reply)) →
        Created p t root e reply.id { localSecret := some reply.secret }
  | protectRootWithFidoAndLocalSecret {root label e reply} :
      (p.protectRootWithFidoAndLocalSecret root label).run.Runs t (.ok (e, reply)) →
        Created p t root e reply.id { localSecret := some reply.secret }

/-- What a creation establishes: its one record was added to the empty envelope, under keys that its
user's factors derive. -/
def Founds (p : KeyProtector) (t : Trace host) (root : RootKey) (e : KeyEnvelope)
    (id : RecipientId) (held : Held) : Prop :=
  ∃ envelopeId record keys, record.id = id ∧ Adds root record keys (p.emptyEnvelope envelopeId) e ∧
    ∀ prf, (∀ event ∈ t, Honest prf event) →
      Enrolled prf p.applicationId envelopeId held record keys

section Creation

variable {p : KeyProtector} {t t' : Trace host} {root : RootKey} {e : KeyEnvelope}
  {id : RecipientId} {held : Held}

/-- A creation may start with other events. -/
theorem Founds.append_left (h : Founds p t root e id held) : Founds p (t' ++ t) root e id held := by
  obtain ⟨envelopeId, record, keys, hid, hadds, henrolled⟩ := h
  exact ⟨envelopeId, record, keys, hid, hadds, fun prf hhonest =>
    henrolled prf fun event hmem => hhonest event (List.mem_append_right t' hmem)⟩

theorem founds_protectRootForOperation {enrollment : Enrollment} {operation : Operation}
    (h : (p.protectRootForOperation root enrollment operation).run.Runs t (.ok (e, id))) :
    Founds p t root e id (Held.typed t) := by
  unfold KeyProtector.protectRootForOperation at h
  simp only [↓Fallible.runs_except_bind_ok, Fallible.runs_bind_ok, Fallible.runs_pure] at h
  obtain ⟨-, -, t₁, envelopeId, _, rfl, hdraw, t₂, ⟨record, keys, managed⟩, _, rfl, henroll, t₃,
    staged, _, rfl, hstage, rfl, hreply⟩ := h
  cases hreply
  obtain ⟨rfl, hadds⟩ := runs_stageEnrollment_ok hstage
  rw [typed_append_left (drawn_randomArray hdraw).untyped, List.append_nil, List.append_nil]
  exact Founds.append_left ⟨envelopeId, record, keys, rfl, hadds,
    fun prf hhonest => enrolled_enrollRecipient henroll hhonest⟩

theorem founds_protectRootWithRecoverySecret {label : String} {reply : RecoverySecretRecipient}
    (h : (p.protectRootWithRecoverySecret root label).run.Runs t (.ok (e, reply))) :
    Founds p t root e reply.id { recoverySecret := some reply.secret } := by
  unfold KeyProtector.protectRootWithRecoverySecret at h
  simp only [↓Fallible.runs_except_bind_ok, Fallible.runs_bind_ok, Fallible.runs_pure] at h
  obtain ⟨label', -, t₁, envelopeId, _, rfl, -, t₂, ⟨record, secret, key⟩, _, rfl, henroll, staged,
    hstage, rfl, hreply⟩ := h
  cases hreply
  exact ⟨envelopeId, record, .recovery key, rfl, stageRecord_eq_ok hstage,
    fun prf _ => enrolled_recoverySecret henroll⟩

theorem founds_protectRootWithFidoAndLocalSecret {label : String} {operation : Operation}
    {reply : LocalSecretRecipient}
    (h : (p.protectRootWithFidoAndLocalSecretForOperation root label operation).run.Runs t
      (.ok (e, reply))) :
    Founds p t root e reply.id { localSecret := some reply.secret } := by
  unfold KeyProtector.protectRootWithFidoAndLocalSecretForOperation at h
  simp only [↓Fallible.runs_except_bind_ok, Fallible.runs_bind_ok, Fallible.runs_pure] at h
  obtain ⟨label', -, t₁, envelopeId, _, rfl, -, t₂, ⟨record, secret, key⟩, _, rfl, henroll, staged,
    hstage, rfl, hreply⟩ := h
  cases hreply
  rw [List.append_nil]
  exact Founds.append_left ⟨envelopeId, record, .fidoAndLocal key, rfl, stageRecord_eq_ok hstage,
    fun prf hhonest => enrolled_fidoAndLocalSecret henroll hhonest⟩

/-- A root that is created is drawn before it is protected. -/
theorem runs_random_bind_ok {α : Type} {f : RootKey → Host α} {a : α}
    (h : (RootKey.random >>= f).run.Runs t (.ok a)) :
    ∃ t₁ root t₂, t = t₁ ++ t₂ ∧ Untyped t₁ ∧ (f root).run.Runs t₂ (.ok a) := by
  obtain ⟨t₁, root, t₂, rfl, hdraw, htail⟩ := Fallible.runs_bind_ok.mp h
  exact ⟨t₁, root, t₂, rfl, (drawn_make hdraw).untyped, htail⟩

theorem founds_of_created (h : Created p t root e id held) : Founds p t root e id held := by
  cases h with
  | createRoot h =>
      obtain ⟨t₁, root', t₂, rfl, huntyped, h⟩ := runs_random_bind_ok h
      obtain ⟨t₃, ⟨e', id'⟩, _, rfl, hprotect, rfl, hreply⟩ := Fallible.runs_bind_ok.mp h
      cases hreply
      rw [typed_append_left huntyped, List.append_nil]
      exact (founds_protectRootForOperation hprotect).append_left
  | protectRoot h => exact founds_protectRootForOperation h
  | createRootWithRecoverySecret h =>
      obtain ⟨t₁, root', t₂, rfl, -, h⟩ := runs_random_bind_ok h
      obtain ⟨t₃, ⟨e', reply'⟩, _, rfl, hprotect, rfl, hreply⟩ := Fallible.runs_bind_ok.mp h
      cases hreply
      rw [List.append_nil]
      exact (founds_protectRootWithRecoverySecret hprotect).append_left
  | protectRootWithRecoverySecret h => exact founds_protectRootWithRecoverySecret h
  | createRootWithFidoAndLocalSecret h =>
      obtain ⟨t₁, root', t₂, rfl, -, h⟩ := runs_random_bind_ok h
      obtain ⟨t₃, ⟨e', reply'⟩, _, rfl, hprotect, rfl, hreply⟩ := Fallible.runs_bind_ok.mp h
      cases hreply
      rw [List.append_nil]
      exact (founds_protectRootWithFidoAndLocalSecret hprotect).append_left
  | protectRootWithFidoAndLocalSecret h => exact founds_protectRootWithFidoAndLocalSecret h

/-- Every record that asks for passphrase work asks for the work of its enrollment. -/
theorem parameters_enrollRecipient {enrollment : Enrollment} {operation : Operation} :
    Fallible.Ensures (p.enrollRecipient e root enrollment operation) fun enrolled =>
      ∀ q, enrolled.1.passphraseParameters = some q → enrollment.parameters = some q := by
  unfold KeyProtector.enrollRecipient
  -- a record of a policy without a passphrase has no parameters
  have hnone (record : RecipientRecord) (h : record.passphraseParameters = none) :
      ∀ q, record.passphraseParameters = some q → enrollment.parameters = some q := by
    intro q hq
    rw [h] at hq
    cases hq
  split
  · apply Fallible.ensures_except_bind
    intro parameters hparameters
    rw [okOr_eq_ok] at hparameters
    refine Fallible.ensures_bind (P := fun enrolled =>
      enrolled.1.passphraseParameters = some parameters) ?_ fun enrolled h => ?_
    · unfold KeyProtector.enrollPassphraseRecipient
      iterate 5 refine Fallible.ensures_tail fun _ => ?_
      exact Fallible.ensures_except_bind fun _ _ => Fallible.ensures_pure rfl
    · exact Fallible.ensures_pure fun q hq => hparameters.trans (h.symm.trans hq)
  · exact Fallible.ensures_throw _
  · exact Fallible.ensures_throw _
  · refine Fallible.ensures_bind (P := fun enrolled =>
      enrolled.1.passphraseParameters = none) ?_ fun enrolled h =>
        Fallible.ensures_pure (hnone _ h)
    unfold KeyProtector.enrollFidoRecipient
    iterate 9 refine Fallible.ensures_tail fun _ => ?_
    exact Fallible.ensures_pure rfl
  · unfold KeyProtector.enrollManagedFidoRecipient
    iterate 3 refine Fallible.ensures_tail fun _ => ?_
    refine Fallible.ensures_bind (Fallible.ensures_outcome (P := fun finished =>
      finished.1.passphraseParameters = none) ?_) fun result h => ?_
    · unfold KeyProtector.finishManagedFidoRecipient
      iterate 8 refine Fallible.ensures_tail fun _ => ?_
      exact Fallible.ensures_pure rfl
    · cases result with
      | error error => exact Fallible.ensures_tail fun _ => Fallible.ensures_throw _
      | ok finished => exact Fallible.ensures_pure (hnone _ (h finished rfl))
  · apply Fallible.ensures_except_bind
    intro parameters hparameters
    rw [okOr_eq_ok] at hparameters
    refine Fallible.ensures_bind (P := fun enrolled =>
      enrolled.1.passphraseParameters = some parameters) ?_ fun enrolled h => ?_
    · unfold KeyProtector.enrollCombinedRecipient
      iterate 13 refine Fallible.ensures_tail fun _ => ?_
      exact Fallible.ensures_pure rfl
    · exact Fallible.ensures_pure fun q hq => hparameters.trans (h.symm.trans hq)

/-- A created envelope has one record, and its creator admits it. -/
theorem admits_createRoot {enrollment : Enrollment}
    (h : (p.createRoot enrollment).run.Runs t (.ok (root, e, id))) :
    ∀ r ∈ e.recipients, p.Admits r.passphraseParameters := by
  obtain ⟨t₁, root', t₂, rfl, -, h₁⟩ := runs_random_bind_ok h
  obtain ⟨t₃, ⟨e', id'⟩, _, rfl, hprotect, rfl, hreply⟩ := Fallible.runs_bind_ok.mp h₁
  cases hreply
  unfold KeyProtector.protectRootForOperation at hprotect
  simp only [↓Fallible.runs_except_bind_ok, Fallible.runs_bind_ok, Fallible.runs_pure] at hprotect
  obtain ⟨_, hadmit, t₄, envelopeId, _, rfl, -, t₅, enrolled, _, rfl, henroll, t₆, staged, _, rfl,
    hstage, rfl, hreply⟩ := hprotect
  cases hreply
  intro r hr
  obtain ⟨-, hadds⟩ := runs_stageEnrollment_ok hstage
  have hmem : r ∈ [enrolled.1] := hadds.inserts.added.mem_iff.mp hr
  rw [List.mem_singleton.mp hmem]
  exact fun q hq => admitEnrollment_eq_ok.mp hadmit q (parameters_enrollRecipient _ _ henroll q hq)

end Creation

/-! ## Steps -/

/-- **`Update root m t r e e'`** — a call of an update on the envelope `e`, by any protector and with
any outcome. What succeeds presented the root. -/
structure Update (root : RootKey) (m : Mutation) (t : Trace host) (r : Result m.Reply)
    (e e' : KeyEnvelope) : Prop where
  runs : ∃ q : KeyProtector, (m.program q).Runs e t r e'
  presented : ∀ reply, r = .ok reply → m.root = root

/-- **`Step root`** — one step of a session of the root's holder. -/
inductive Step (root : RootKey) : KeyEnvelope → KeyEnvelope → Prop
  | update {m t r e e'} : Update root m t r e e' → Step root e e'
  | recode {e e'} : KeyEnvelope.decode e.encode = .ok e' → Step root e e'

/-- **`Start p root e`** — a creation by `p`, or a decoded envelope of its application that the root
authenticates. -/
inductive Start (p : KeyProtector) (root : RootKey) : KeyEnvelope → Prop
  | created {t e id held} : Created p t root e id held → Start p root e
  | decoded {input e} : KeyEnvelope.decode input = .ok e → p.Authenticates root e → Start p root e

/-! ## The invariant -/

/-- **`Sound p root d e`** — the envelope is well-formed, decodes from its own encoding, is
authenticated by the root, and has the application of `p` and the envelope id `d`. -/
structure Sound (p : KeyProtector) (root : RootKey) (d : Bytes 32) (e : KeyEnvelope) : Prop where
  committed : Committed root e
  application : e.applicationId = p.applicationId
  envelope : e.envelopeId = d

theorem sound_of_start {p : KeyProtector} {root : RootKey} {e : KeyEnvelope}
    (h : Start p root e) : Sound p root e.envelopeId e := by
  cases h with
  | created h =>
      obtain ⟨envelopeId, record, keys, -, hadds, -⟩ := founds_of_created h
      exact ⟨hadds.committed, hadds.identity.application, rfl⟩
  | decoded hdecode hauth =>
      obtain ⟨hwell, rfl, -⟩ := decode_sound hdecode
      exact ⟨⟨hwell, hdecode, hauth.2⟩, hauth.1, rfl⟩

/-- A successful update commits the new envelope, and keeps the identity of the old one. -/
theorem committed_of_runs_ok {q : KeyProtector} {m : Mutation} {t : Trace host} {reply : m.Reply}
    {e e' : KeyEnvelope} (h : (m.program q).Runs e t (.ok reply) e') :
    Committed m.root e' ∧ SameIdentity e e' := by
  cases m with
  | addRecipient root enrollment =>
      obtain ⟨-, record, keys, managed, -, -, hadds⟩ := runs_addRecipient_ok h
      exact ⟨hadds.committed, hadds.identity⟩
  | addRecoverySecret root label =>
      obtain ⟨-, record, secret, key, -, -, hadds⟩ := runs_addRecoverySecret_ok h
      exact ⟨hadds.committed, hadds.identity⟩
  | addFidoAndLocalSecret root label =>
      obtain ⟨-, record, secret, key, -, -, hadds⟩ := runs_addFidoAndLocalSecret_ok h
      exact ⟨hadds.committed, hadds.identity⟩
  | removeRecipient root id =>
      obtain ⟨-, -, record, -, -, hidentity, hcommitted⟩ := runs_removeRecipient_ok h
      exact ⟨hcommitted, hidentity⟩
  | rewrapPassphrase root id =>
      obtain ⟨-, parameters, -, -, h⟩ := runs_rewrapPassphrase_ok h
      obtain ⟨-, current, replacement, keys, -, -, hrewraps⟩ := runs_rewrapPassphraseInner_ok h
      exact ⟨hrewraps.committed, hrewraps.identity⟩
  | rewrapPassphraseWithParameters root id parameters =>
      obtain ⟨-, current, replacement, keys, -, -, hrewraps⟩ := runs_rewrapPassphraseInner_ok h
      exact ⟨hrewraps.committed, hrewraps.identity⟩

/-- **One step keeps the invariant.** -/
theorem Sound.step {p : KeyProtector} {root : RootKey} {d : Bytes 32} {e e' : KeyEnvelope}
    (h : Sound p root d e) (hstep : Step root e e') : Sound p root d e' := by
  cases hstep with
  | @update m t r _ _ hupdate =>
      obtain ⟨q, hruns⟩ := hupdate.runs
      cases r with
      | error error =>
          -- a failed call wrote nothing
          obtain rfl : e' = e := transacts_mutation q e m t error e' hruns
          exact h
      | ok reply =>
          obtain rfl : m.root = root := hupdate.presented reply rfl
          obtain ⟨hcommitted, hidentity⟩ := committed_of_runs_ok hruns
          exact ⟨hcommitted, hidentity.application.trans h.application,
            hidentity.envelope.trans h.envelope⟩
  | recode hdecode =>
      obtain rfl : e' = e := decode_encode_eq hdecode
      exact h

/-- **The invariant of every session.** However it started and whatever its steps met: the envelope
is well-formed, authenticated and decodable, and its application and its id never change. -/
theorem sound_of_steps {p : KeyProtector} {root : RootKey} {e₀ e : KeyEnvelope}
    (hstart : Start p root e₀) (hsteps : Relation.ReflTransGen (Step root) e₀ e) :
    Sound p root e₀.envelopeId e := by
  induction hsteps with
  | refl => exact sound_of_start hstart
  | tail _ hstep ih => exact ih.step hstep

section Vectors

omit [Primitives]

/-- The creation that made the recovery-secret vector. -/
def recoveryCreation :
    @Trace (@host Vector.primitives) × Result (KeyEnvelope × RecoverySecretRecipient) :=
  let _ := Vector.primitives
  (KeyProtector.protectRootWithRecoverySecret ⟨Vector.application, .desktop⟩ ⟨Vector.root⟩
    Vector.recoveryRecord.label).run.exec (Vector.replay Vector.creationDraws) []

theorem created_recoveryEnvelope :
    @Created Vector.primitives ⟨Vector.application, .desktop⟩ recoveryCreation.1 ⟨Vector.root⟩
      Vector.recoveryEnvelope Vector.recoveryRecord.id
      { recoverySecret := some ⟨Vector.recoverySecret⟩ } := by
  have hresult : recoveryCreation.2 = .ok (Vector.recoveryEnvelope,
      ⟨Vector.recoveryRecord.id, ⟨Vector.recoverySecret⟩⟩) := by
    decide +kernel
  refine @Created.protectRootWithRecoverySecret Vector.primitives ⟨Vector.application, .desktop⟩
    recoveryCreation.1 ⟨Vector.root⟩ Vector.recoveryRecord.label Vector.recoveryEnvelope
    ⟨Vector.recoveryRecord.id, ⟨Vector.recoverySecret⟩⟩ ?_
  rw [← hresult]
  exact @Program.exec_runs (@host Vector.primitives) _ (Vector.replay Vector.creationDraws) _ []

set_option maxRecDepth 3000 in
/-- The recovery-secret vector, created and then extended by a second secret. -/
theorem extendedEnvelope_sound :
    @Sound Vector.primitives ⟨Vector.application, .desktop⟩ ⟨Vector.root⟩
      Vector.recoveryEnvelopeId Vector.extendedEnvelope := by
  let _ := Vector.primitives
  exact sound_of_steps (.created created_recoveryEnvelope)
    (.single (.update ⟨⟨_, runs_recoveryAddition⟩, fun _ _ => rfl⟩))

end Vectors

end FidoKeyWrap
