/-
# FidoKeyWrap.Custody — what the holder of a record keeps, and that it opens the record.

An enrollment leaves something with its user: the passphrase that was typed, or the secret that was
returned. `Held` is what a holder has for one record, `Presents` says which factors that makes
together with an authenticator whose PRF is a function (`Prf`), and the enrollment lemmas say that
every suite derived its keys from exactly these factors. Staging has opened the record with the
same keys, so what is held opens it (`opens_of_enrolled`).
-/
import FidoKeyWrap.Unlock

namespace FidoKeyWrap

open ByteData Interact

/-- What the holder of one record keeps for it. -/
structure Held where
  passphrase : Option Passphrase := none
  recoverySecret : Option RecoverySecret := none
  localSecret : Option LocalSecret := none

/-- **`Prf`** — an authenticator's PRF: a function of credential, exact policy and input. -/
abbrev Prf := CredentialMaterial → FidoPolicy → Bytes 32 → Bytes 32

def Prf.answer (prf : Prf) (request : PrfRequest) : Bytes 32 :=
  prf ⟨request.credential.credentialId, request.credential.publicKey⟩ request.credential.policy
    request.input

variable [Primitives]

/-! ## Reading a trace -/

/-- The passphrase that was typed at a prompt. -/
def typedPassphrase : Event host → Option Passphrase
  | ⟨.passphrase _, reply⟩ => Except.toOption (show Except InteractionError Passphrase from reply)
  | _ => none

/-- The first passphrase that was typed during a run. -/
def typed (t : Trace host) : Option Passphrase := t.findSome? typedPassphrase

@[simp] theorem typed_append (t t' : Trace host) : typed (t ++ t') = (typed t).or (typed t') :=
  List.findSome?_append

theorem typed_eq_none {t : Trace host} (h : ∀ event ∈ t, typedPassphrase event = none) :
    typed t = none :=
  List.findSome?_eq_none_iff.mpr h

/-- The holder of a record keeps the passphrase typed when it was made. -/
def Held.typed (t : Trace host) : Held := { passphrase := FidoKeyWrap.typed t }

/-- A PRF reply is the answer of `prf`; nothing else is asked of an event. -/
def Honest (prf : Prf) : Event host → Prop
  | ⟨.evaluate request, reply⟩ =>
    ∀ b, (show DeviceReply (Bytes 32) from reply).result = .ok b → b = prf.answer request
  | ⟨.evaluateManagedEnrollment _ request, reply⟩ =>
    ∀ b, (show DeviceReply (Bytes 32) from reply).result = .ok b → b = prf.answer request
  | _ => True

/-! ## The factors of a holder -/

/-- The PRF result of a record's credential, under its policy, for its input. -/
def PrfOf (prf : Prf) (a : ApplicationId) (d : Bytes 32) (record : RecipientRecord)
    (b : Bytes 32) : Prop :=
  ∃ credentialId publicKey policy input, record.credentialId = some credentialId ∧
    record.publicKey = some publicKey ∧ record.fidoPolicy = some policy ∧
      Crypto.prfInput record a d = .ok input ∧ b = prf ⟨credentialId, publicKey⟩ policy input

theorem prfOf_of_requests {prf : Prf} {p : KeyProtector} {e : KeyEnvelope}
    {record : RecipientRecord} {request : PrfRequest} (h : Requests p e record request) :
    PrfOf prf p.applicationId e.envelopeId record (prf.answer request) :=
  ⟨_, _, _, _, h.credential, h.publicKey, h.policy, h.input, rfl⟩

/-- A record has one PRF result. -/
theorem PrfOf.eq {prf : Prf} {a : ApplicationId} {d : Bytes 32} {record : RecipientRecord}
    {b b' : Bytes 32} (h : PrfOf prf a d record b) (h' : PrfOf prf a d record b') : b = b' := by
  obtain ⟨credentialId, publicKey, policy, input, hc, hk, hp, hi, rfl⟩ := h
  obtain ⟨credentialId', publicKey', policy', input', hc', hk', hp', hi', rfl⟩ := h'
  rw [hc] at hc'
  rw [hk] at hk'
  rw [hp] at hp'
  rw [hi] at hi'
  cases hc'
  cases hk'
  cases hp'
  cases hi'
  rfl

/-- **`Presents`** — the factors a holder presents for a record, with the authenticator that holds
its credential. -/
inductive Presents (prf : Prf) (a : ApplicationId) (d : Bytes 32) (held : Held) :
    RecipientRecord → Factors → Prop
  | passphrase {r x} : held.passphrase = some x →
      Presents prf a d held (.passphrase r) (.passphrase x)
  | recoverySecret {r secret} : held.recoverySecret = some secret →
      Presents prf a d held (.recoverySecret r) (.recoverySecret secret)
  | fido {r b} : PrfOf prf a d (.fido r) b → Presents prf a d held (.fido r) (.prf b)
  | fidoAndPassphrase {r b x} : PrfOf prf a d (.fidoAndPassphrase r) b →
      held.passphrase = some x →
        Presents prf a d held (.fidoAndPassphrase r) (.prfAndPassphrase b x)
  | fidoAndLocalSecret {r b secret} : PrfOf prf a d (.fidoAndLocalSecret r) b →
      held.localSecret = some secret →
        Presents prf a d held (.fidoAndLocalSecret r) (.prfAndLocalSecret b secret)

/-- What is held for a record derives the keys it was wrapped under. -/
def Enrolled (prf : Prf) (a : ApplicationId) (d : Bytes 32) (held : Held)
    (record : RecipientRecord) (keys : RecoveryKeys) : Prop :=
  ∃ factors, Presents prf a d held record factors ∧ keysOf a d record factors = .ok keys

/-- What is held for a record opens it. -/
def Opens (prf : Prf) (a : ApplicationId) (d : Bytes 32) (held : Held)
    (record : RecipientRecord) (root : RootKey) : Prop :=
  ∃ factors, Presents prf a d held record factors ∧ openWith a d record factors = .ok root

theorem opens_of_enrolled {prf : Prf} {a : ApplicationId} {d : Bytes 32} {held : Held}
    {record : RecipientRecord} {keys : RecoveryKeys} {root : RootKey}
    (h : Enrolled prf a d held record keys) (hroot : recoverWithKeys record a d keys = .ok root) :
    Opens prf a d held record root := by
  obtain ⟨factors, hpresents, hkeys⟩ := h
  refine ⟨factors, hpresents, ?_⟩
  simp only [openWith, except_bind_eq_ok]
  exact ⟨keys, hkeys, hroot⟩

/-! ## Nothing is typed at a random draw -/

/-- No event of the trace is a passphrase prompt that was answered. -/
def Untyped (t : Trace host) : Prop := ∀ event ∈ t, typedPassphrase event = none

/-- A holder keeps what was typed after such events. -/
theorem typed_append_left {t t' : Trace host} (h : Untyped t) :
    Held.typed (t ++ t') = Held.typed t' := by
  unfold Held.typed
  rw [typed_append, typed_eq_none h, Option.none_or]

/-- Every event of the trace is a random draw. -/
def Drawn (t : Trace host) : Prop := ∀ event ∈ t, ∃ n reply, event = ⟨.random n, reply⟩

/-- Nothing is typed at a random draw. -/
theorem Drawn.untyped {t : Trace host} (h : Drawn t) : Untyped t := by
  intro event hmem
  obtain ⟨n, reply, rfl⟩ := h event hmem
  rfl

theorem drawn_randomArray {n : Nat} {t : Trace host} {r : Result (Bytes n)}
    (h : (randomArray n).run.Runs t r) : Drawn t := by
  have hdraw : ∃ reply, t = [⟨.random n, reply⟩] := by
    unfold randomArray at h
    rcases Fallible.runs_bind.mp h with ⟨t₁, drawn, t₂, rfl, hask, hok⟩ | ⟨e, hask, -⟩
    · obtain ⟨reply, rfl, -⟩ := runs_ask.mp hask
      obtain ⟨rfl, -⟩ := Fallible.runs_except.mp hok
      exact ⟨reply, rfl⟩
    · obtain ⟨reply, -, herror⟩ := runs_ask.mp hask
      cases herror
  obtain ⟨reply, rfl⟩ := hdraw
  intro event hmem
  exact ⟨n, reply, List.mem_singleton.mp hmem⟩

theorem drawn_make {α : Type} {make : Bytes 32 → α} {t : Trace host} {r : Result α}
    (h : (do return make (← randomArray 32) : Host α).run.Runs t r) : Drawn t := by
  rcases Fallible.runs_bind.mp h with ⟨t₁, bytes, t₂, rfl, hdraw, rfl, -⟩ | ⟨e, hdraw, -⟩
  · rw [List.append_nil]
    exact drawn_randomArray hdraw
  · exact drawn_randomArray hdraw

theorem drawn_uniqueRecipientId {e : KeyEnvelope} {t : Trace host} {r : Result RecipientId}
    (h : (KeyProtector.uniqueRecipientId e).run.Runs t r) : Drawn t :=
  attempts_events (fun _ _ hdraw => drawn_make hdraw) h

theorem drawn_uniqueSalt {e : KeyEnvelope} {t : Trace host} {r : Result (Bytes 16)}
    (h : (KeyProtector.uniqueSalt e).run.Runs t r) : Drawn t :=
  attempts_events (fun _ _ hdraw => drawn_randomArray hdraw) h

theorem drawn_freshArray {n : Nat} {old : Bytes n} {t : Trace host} {r : Result (Bytes n)}
    (h : (freshArray old).run.Runs t r) : Drawn t :=
  attempts_events (fun _ _ hdraw => drawn_randomArray hdraw) h

/-! ## Enrollments -/

section Enrollments

variable {prf : Prf} {p : KeyProtector} {e : KeyEnvelope} {t : Trace host}

/-- An evaluation yields the PRF of the record's credential, and nothing is typed. -/
theorem prfOf_of_evaluate {record : RecipientRecord} {operation : Operation} {b : Bytes 32}
    (h : (p.evaluate record e operation).run.Runs t (.ok b)) (hhonest : ∀ event ∈ t, Honest prf event) :
    PrfOf prf p.applicationId e.envelopeId record b ∧ Untyped t := by
  obtain ⟨request, reply, hrequest, hreply, rfl⟩ := runs_evaluate_ok.mp h
  have hb : b = prf.answer request := hhonest _ List.mem_cons_self b hreply
  subst hb
  refine ⟨prfOf_of_requests (requests_of_prfRequest hrequest).1, fun event hmem => ?_⟩
  rw [List.mem_singleton] at hmem
  subst hmem
  rfl

/-- How the enrollment and the rewrap of a passphrase record end: a new passphrase, its key, the
wrapped root. -/
theorem enrolled_passphraseTail {r : PassphraseRecipient} {root : RootKey} {operation : Operation}
    {record : RecipientRecord} {keys : RecoveryKeys}
    (h : (do
      let passphrase ← requestNewPassphrase operation r.label
      let key ← Crypto.derivePassphraseKey (.passphrase r) p.applicationId e.envelopeId passphrase
      let wrappedRoot ← Crypto.wrapPassphraseRoot r p.applicationId e.envelopeId root key
      return (.passphrase { r with wrappedRoot }, .passphrase key) :
        Host (RecipientRecord × RecoveryKeys)).run.Runs t (.ok (record, keys))) :
    record.id = r.id ∧
      ∀ prf, Enrolled prf p.applicationId e.envelopeId (Held.typed t) record keys := by
  obtain ⟨t₁, x, u₁, rfl, hx, h⟩ := Fallible.runs_bind_ok.mp h
  obtain ⟨t₂, key, u₂, rfl, hkey, h⟩ := Fallible.runs_bind_ok.mp h
  obtain ⟨wrapped, -, h⟩ := Fallible.runs_except_bind_ok.mp h
  obtain ⟨rfl, hreply⟩ := Fallible.runs_pure.mp h
  cases hreply
  refine ⟨rfl, fun prf => ⟨.passphrase x, .passphrase ?_, ?_⟩⟩
  · show typed _ = some x
    rw [runs_requestNewPassphrase_ok.mp hx]
    rfl
  · simp only [keysOf, except_bind_eq_ok, except_pure_eq_ok]
    exact ⟨key, (Crypto.runs_derivePassphraseKey_ok.mp hkey).1, rfl⟩

/-- How the enrollment and the rewrap of a combined record end: the PRF and its key, a new
passphrase and its key, the wrapped root. -/
theorem enrolled_combinedTail {r : FidoAndPassphraseRecipient} {root : RootKey}
    {operation : Operation} {record : RecipientRecord} {keys : RecoveryKeys}
    (h : (do
      let prf ← p.evaluate (.fidoAndPassphrase r) e operation
      let fidoKey ← Crypto.deriveFidoKey (.fidoAndPassphrase r) p.applicationId e.envelopeId prf
      let passphrase ← requestNewPassphrase operation r.label
      let passphraseKey ← Crypto.derivePassphraseKey (.fidoAndPassphrase r) p.applicationId
        e.envelopeId passphrase
      let wrappedRoot ← Crypto.wrapCombinedRoot r p.applicationId e.envelopeId root passphraseKey
        fidoKey
      return (.fidoAndPassphrase { r with wrappedRoot }, .combined passphraseKey fidoKey) :
        Host (RecipientRecord × RecoveryKeys)).run.Runs t (.ok (record, keys))) :
    record.id = r.id ∧ ∀ prf, (∀ event ∈ t, Honest prf event) →
      Enrolled prf p.applicationId e.envelopeId (Held.typed t) record keys := by
  obtain ⟨t₁, b, u₁, rfl, heval, h⟩ := Fallible.runs_bind_ok.mp h
  obtain ⟨fidoKey, hfidoKey, h⟩ := Fallible.runs_except_bind_ok.mp h
  obtain ⟨t₂, x, u₂, rfl, hx, h⟩ := Fallible.runs_bind_ok.mp h
  obtain ⟨t₃, key, u₃, rfl, hkey, h⟩ := Fallible.runs_bind_ok.mp h
  obtain ⟨wrapped, -, h⟩ := Fallible.runs_except_bind_ok.mp h
  obtain ⟨rfl, hreply⟩ := Fallible.runs_pure.mp h
  cases hreply
  refine ⟨rfl, fun prf hhonest => ?_⟩
  obtain ⟨hb, huntyped⟩ := prfOf_of_evaluate heval fun event hmem => hhonest event (by simp [hmem])
  rw [typed_append_left huntyped]
  refine ⟨.prfAndPassphrase b x, .fidoAndPassphrase hb ?_, ?_⟩
  · show typed _ = some x
    rw [runs_requestNewPassphrase_ok.mp hx]
    rfl
  · simp only [keysOf, except_bind_eq_ok, except_pure_eq_ok]
    exact ⟨_, hfidoKey, key, (Crypto.runs_derivePassphraseKey_ok.mp hkey).1, rfl⟩

theorem enrolled_passphrase {root : RootKey} {label : String} {parameters : PassphraseParameters}
    {operation : Operation} {record : RecipientRecord} {keys : RecoveryKeys}
    (h : (p.enrollPassphraseRecipient e root label parameters operation).run.Runs t
      (.ok (record, keys))) :
    Enrolled prf p.applicationId e.envelopeId (Held.typed t) record keys := by
  unfold KeyProtector.enrollPassphraseRecipient at h
  obtain ⟨t₁, id, u₁, rfl, hid, h⟩ := Fallible.runs_bind_ok.mp h
  obtain ⟨t₂, salt, u₂, rfl, hsalt, h⟩ := Fallible.runs_bind_ok.mp h
  obtain ⟨t₃, nonce, u₃, rfl, hnonce, h⟩ := Fallible.runs_bind_ok.mp h
  rw [typed_append_left (drawn_uniqueRecipientId hid).untyped,
    typed_append_left (drawn_uniqueSalt hsalt).untyped,
    typed_append_left (drawn_randomArray hnonce).untyped]
  exact (enrolled_passphraseTail (r := ⟨id, label, ⟨parameters, salt⟩, nonce, Bytes.zero 48⟩) h).2 prf

theorem enrolled_recoverySecret {root : RootKey} {label : String} {record : RecipientRecord}
    {secret : RecoverySecret} {key : Crypto.DerivedKey}
    (h : (KeyProtector.newRecoverySecretRecord e root label).run.Runs t
      (.ok (record, secret, key))) :
    Enrolled prf e.applicationId e.envelopeId { recoverySecret := some secret } record
      (.recovery key) := by
  unfold KeyProtector.newRecoverySecretRecord at h
  obtain ⟨t₁, drawn, u₁, rfl, -, h⟩ := Fallible.runs_bind_ok.mp h
  obtain ⟨t₂, id, u₂, rfl, -, h⟩ := Fallible.runs_bind_ok.mp h
  obtain ⟨t₃, nonce, u₃, rfl, -, h⟩ := Fallible.runs_bind_ok.mp h
  obtain ⟨key', hkey, h⟩ := Fallible.runs_except_bind_ok.mp h
  obtain ⟨wrapped, -, h⟩ := Fallible.runs_except_bind_ok.mp h
  obtain ⟨rfl, hreply⟩ := Fallible.runs_pure.mp h
  cases hreply
  refine ⟨.recoverySecret secret, .recoverySecret rfl, ?_⟩
  simp only [keysOf, except_bind_eq_ok, except_pure_eq_ok]
  exact ⟨key, hkey, rfl⟩

theorem enrolled_fido {root : RootKey} {label : String} {policy : FidoPolicy}
    {operation : Operation} {record : RecipientRecord} {keys : RecoveryKeys}
    (h : (p.enrollFidoRecipient e root label policy operation).run.Runs t (.ok (record, keys)))
    (hhonest : ∀ event ∈ t, Honest prf event) :
    Enrolled prf p.applicationId e.envelopeId (Held.typed t) record keys := by
  unfold KeyProtector.enrollFidoRecipient at h
  obtain ⟨t₁, reply, u₁, rfl, -, h⟩ := Fallible.runs_bind_ok.mp h
  obtain ⟨credential, -, h⟩ := Fallible.runs_except_bind_ok.mp h
  obtain ⟨-, -, h⟩ := Fallible.runs_except_bind_ok.mp h
  obtain ⟨t₂, id, u₂, rfl, -, h⟩ := Fallible.runs_bind_ok.mp h
  obtain ⟨t₃, prfNonce, u₃, rfl, -, h⟩ := Fallible.runs_bind_ok.mp h
  obtain ⟨t₄, fidoNonce, u₄, rfl, -, h⟩ := Fallible.runs_bind_ok.mp h
  obtain ⟨t₅, b, u₅, rfl, heval, h⟩ := Fallible.runs_bind_ok.mp h
  obtain ⟨key, hkey, h⟩ := Fallible.runs_except_bind_ok.mp h
  obtain ⟨wrapped, -, h⟩ := Fallible.runs_except_bind_ok.mp h
  obtain ⟨rfl, hreply⟩ := Fallible.runs_pure.mp h
  cases hreply
  have hb := (prfOf_of_evaluate heval fun event hmem => hhonest event (by simp [hmem])).1
  refine ⟨.prf b, .fido hb, ?_⟩
  simp only [keysOf, except_bind_eq_ok, except_pure_eq_ok]
  exact ⟨key, hkey, rfl⟩

theorem enrolled_fidoAndLocalSecret {root : RootKey} {label : String} {operation : Operation}
    {record : RecipientRecord} {secret : LocalSecret} {key : Crypto.DerivedKey}
    (h : (p.enrollFidoLocalRecipient e root label operation).run.Runs t
      (.ok (record, secret, key)))
    (hhonest : ∀ event ∈ t, Honest prf event) :
    Enrolled prf p.applicationId e.envelopeId { localSecret := some secret } record
      (.fidoAndLocal key) := by
  unfold KeyProtector.enrollFidoLocalRecipient at h
  obtain ⟨t₁, id, u₁, rfl, -, h⟩ := Fallible.runs_bind_ok.mp h
  obtain ⟨t₂, drawn, u₂, rfl, -, h⟩ := Fallible.runs_bind_ok.mp h
  obtain ⟨t₃, prfNonce, u₃, rfl, -, h⟩ := Fallible.runs_bind_ok.mp h
  obtain ⟨t₄, wrapNonce, u₄, rfl, -, h⟩ := Fallible.runs_bind_ok.mp h
  obtain ⟨t₅, reply, u₅, rfl, -, h⟩ := Fallible.runs_bind_ok.mp h
  obtain ⟨credential, -, h⟩ := Fallible.runs_except_bind_ok.mp h
  obtain ⟨-, -, h⟩ := Fallible.runs_except_bind_ok.mp h
  obtain ⟨t₆, b, u₆, rfl, heval, h⟩ := Fallible.runs_bind_ok.mp h
  obtain ⟨key', hkey, h⟩ := Fallible.runs_except_bind_ok.mp h
  obtain ⟨wrapped, -, h⟩ := Fallible.runs_except_bind_ok.mp h
  obtain ⟨rfl, hreply⟩ := Fallible.runs_pure.mp h
  cases hreply
  have hb := (prfOf_of_evaluate heval fun event hmem => hhonest event (by simp [hmem])).1
  refine ⟨.prfAndLocalSecret b secret, .fidoAndLocalSecret hb rfl, ?_⟩
  simp only [keysOf, except_bind_eq_ok, except_pure_eq_ok]
  exact ⟨key, hkey, rfl⟩

/-- The managed evaluation is asked of the session, for the credential the record names. -/
theorem enrolled_finishManaged {root : RootKey} {id : RecipientId} {label : String}
    {policy : FidoPolicy} {operation : Operation} {enrollment : ManagedEnrollment}
    {record : RecipientRecord} {keys : RecoveryKeys} {held : Held}
    (h : (p.finishManagedFidoRecipient e root id label policy operation enrollment).run.Runs t
      (.ok (record, keys)))
    (hhonest : ∀ event ∈ t, Honest prf event) :
    Enrolled prf p.applicationId e.envelopeId held record keys := by
  unfold KeyProtector.finishManagedFidoRecipient at h
  obtain ⟨-, -, h⟩ := Fallible.runs_except_bind_ok.mp h
  obtain ⟨t₁, prfNonce, u₁, rfl, -, h⟩ := Fallible.runs_bind_ok.mp h
  obtain ⟨t₂, fidoNonce, u₂, rfl, -, h⟩ := Fallible.runs_bind_ok.mp h
  obtain ⟨input, hinput, h⟩ := Fallible.runs_except_bind_ok.mp h
  obtain ⟨t₃, reply, u₃, rfl, hask, h⟩ := Fallible.runs_bind_ok.mp h
  obtain ⟨b, hb, h⟩ := Fallible.runs_except_bind_ok.mp h
  obtain ⟨key, hkey, h⟩ := Fallible.runs_except_bind_ok.mp h
  obtain ⟨wrapped, -, h⟩ := Fallible.runs_except_bind_ok.mp h
  obtain ⟨rfl, hreply⟩ := Fallible.runs_pure.mp h
  have hsession : ∀ event ∈ t₃, Honest prf event := fun event hmem => hhonest event (by simp [hmem])
  obtain ⟨reply', rfl, hsame⟩ := runs_ask.mp hask
  cases hsame
  cases hreply
  have hanswer := hsession _ List.mem_cons_self b hb
  refine ⟨.prf b, .fido ⟨_, _, _, input, rfl, rfl, rfl, hinput, hanswer⟩, ?_⟩
  simp only [keysOf, except_bind_eq_ok, except_pure_eq_ok]
  exact ⟨key, hkey, rfl⟩

theorem enrolled_managed {root : RootKey} {label : String} {policy : FidoPolicy}
    {operation : Operation} {record : RecipientRecord} {keys : RecoveryKeys}
    {managed : Option ManagedEnrollment} {held : Held}
    (h : (p.enrollManagedFidoRecipient e root label policy operation).run.Runs t
      (.ok (record, keys, managed)))
    (hhonest : ∀ event ∈ t, Honest prf event) :
    Enrolled prf p.applicationId e.envelopeId held record keys := by
  unfold KeyProtector.enrollManagedFidoRecipient at h
  obtain ⟨t₁, id, u₁, rfl, -, h⟩ := Fallible.runs_bind_ok.mp h
  obtain ⟨t₂, reply, u₂, rfl, -, h⟩ := Fallible.runs_bind_ok.mp h
  obtain ⟨enrollment, -, h⟩ := Fallible.runs_except_bind_ok.mp h
  obtain ⟨t₃, result, u₃, rfl, houtcome, h⟩ := Fallible.runs_bind_ok.mp h
  obtain ⟨result', hfinish, hresult⟩ := Fallible.runs_outcome.mp houtcome
  cases hresult
  cases result with
  | error error =>
      obtain ⟨_, error', _, rfl, -, hthrow⟩ := Fallible.runs_bind_ok.mp h
      cases hthrow.2
  | ok finished =>
      obtain ⟨record', keys'⟩ := finished
      obtain ⟨rfl, hreply⟩ := h
      cases hreply
      exact enrolled_finishManaged hfinish fun event hmem => hhonest event (by simp [hmem])

theorem enrolled_combined {root : RootKey} {label : String} {policy : FidoPolicy}
    {parameters : PassphraseParameters} {operation : Operation} {record : RecipientRecord}
    {keys : RecoveryKeys}
    (h : (p.enrollCombinedRecipient e root label policy parameters operation).run.Runs t
      (.ok (record, keys)))
    (hhonest : ∀ event ∈ t, Honest prf event) :
    Enrolled prf p.applicationId e.envelopeId (Held.typed t) record keys := by
  unfold KeyProtector.enrollCombinedRecipient at h
  obtain ⟨t₁, reply, u₁, rfl, hask, h⟩ := Fallible.runs_bind_ok.mp h
  obtain ⟨credential, -, h⟩ := Fallible.runs_except_bind_ok.mp h
  obtain ⟨-, -, h⟩ := Fallible.runs_except_bind_ok.mp h
  obtain ⟨t₂, id, u₂, rfl, hid, h⟩ := Fallible.runs_bind_ok.mp h
  obtain ⟨t₃, prfNonce, u₃, rfl, hprfNonce, h⟩ := Fallible.runs_bind_ok.mp h
  obtain ⟨t₄, fidoNonce, u₄, rfl, hfidoNonce, h⟩ := Fallible.runs_bind_ok.mp h
  obtain ⟨t₅, salt, u₅, rfl, hsalt, h⟩ := Fallible.runs_bind_ok.mp h
  obtain ⟨t₆, nonce, u₆, rfl, hnonce, h⟩ := Fallible.runs_bind_ok.mp h
  -- the backend call of the enrollment types nothing either
  have henroll : Untyped t₁ := by
    obtain ⟨reply', rfl, -⟩ := runs_ask.mp hask
    intro event hmem
    rw [List.mem_singleton.mp hmem]
    rfl
  rw [typed_append_left henroll, typed_append_left (drawn_uniqueRecipientId hid).untyped,
    typed_append_left (drawn_randomArray hprfNonce).untyped,
    typed_append_left (drawn_randomArray hfidoNonce).untyped,
    typed_append_left (drawn_uniqueSalt hsalt).untyped,
    typed_append_left (drawn_randomArray hnonce).untyped]
  exact (enrolled_combinedTail (r := ⟨id, label, credential.credentialId, credential.publicKey, policy,
    prfNonce, fidoNonce, ⟨parameters, salt⟩, nonce, Bytes.zero 64⟩) h).2 prf
      fun event hmem => hhonest event (by simp [hmem])

/-- **Every enrollment leaves its user with the factors of the record.** -/
theorem enrolled_enrollRecipient {root : RootKey} {enrollment : Enrollment}
    {operation : Operation} {record : RecipientRecord} {keys : RecoveryKeys}
    {managed : Option ManagedEnrollment}
    (h : (p.enrollRecipient e root enrollment operation).run.Runs t (.ok (record, keys, managed)))
    (hhonest : ∀ event ∈ t, Honest prf event) :
    Enrolled prf p.applicationId e.envelopeId (Held.typed t) record keys := by
  unfold KeyProtector.enrollRecipient at h
  split at h
  · simp only [↓Fallible.runs_except_bind_ok, Fallible.runs_bind_ok, Fallible.runs_pure] at h
    obtain ⟨parameters, -, t₁, enrolled, _, rfl, henroll, rfl, hreply⟩ := h
    cases hreply
    rw [List.append_nil]
    exact enrolled_passphrase henroll
  · cases h.2
  · cases h.2
  · simp only [Fallible.runs_bind_ok, Fallible.runs_pure] at h
    obtain ⟨t₁, enrolled, _, rfl, henroll, rfl, hreply⟩ := h
    cases hreply
    rw [List.append_nil] at hhonest ⊢
    exact enrolled_fido henroll hhonest
  · exact enrolled_managed h hhonest
  · simp only [↓Fallible.runs_except_bind_ok, Fallible.runs_bind_ok, Fallible.runs_pure] at h
    obtain ⟨parameters, -, t₁, enrolled, _, rfl, henroll, rfl, hreply⟩ := h
    cases hreply
    rw [List.append_nil] at hhonest ⊢
    exact enrolled_combined henroll hhonest

/-- A rewrap keeps the id of its record, and leaves its user with the factors of the replacement:
the new passphrase and the old credential. -/
theorem enrolled_rewrapRecord {root : RootKey} {current replacement : RecipientRecord}
    {parameters : PassphraseParameters} {keys : RecoveryKeys}
    (h : (p.rewrapRecord e root current parameters).run.Runs t (.ok (replacement, keys))) :
    replacement.id = current.id ∧ ∀ prf, (∀ event ∈ t, Honest prf event) →
      Enrolled prf p.applicationId e.envelopeId (Held.typed t) replacement keys := by
  cases current with
  | passphrase old =>
      change (p.rewrapPassphraseRecord e root old parameters).run.Runs t _ at h
      unfold KeyProtector.rewrapPassphraseRecord at h
      obtain ⟨t₁, salt, u₁, rfl, hsalt, h⟩ := Fallible.runs_bind_ok.mp h
      obtain ⟨t₂, nonce, u₂, rfl, hnonce, h⟩ := Fallible.runs_bind_ok.mp h
      rw [typed_append_left (drawn_uniqueSalt hsalt).untyped,
        typed_append_left (drawn_freshArray hnonce).untyped]
      obtain ⟨hid, henrolled⟩ := enrolled_passphraseTail
        (r := ⟨old.id, old.label, ⟨parameters, salt⟩, nonce, Bytes.zero 48⟩) h
      exact ⟨hid, fun prf _ => henrolled prf⟩
  | fidoAndPassphrase old =>
      change (p.rewrapCombinedRecord e root old parameters).run.Runs t _ at h
      unfold KeyProtector.rewrapCombinedRecord at h
      obtain ⟨t₁, prfNonce, u₁, rfl, hprfNonce, h⟩ := Fallible.runs_bind_ok.mp h
      obtain ⟨t₂, fidoNonce, u₂, rfl, hfidoNonce, h⟩ := Fallible.runs_bind_ok.mp h
      obtain ⟨t₃, salt, u₃, rfl, hsalt, h⟩ := Fallible.runs_bind_ok.mp h
      obtain ⟨t₄, nonce, u₄, rfl, hnonce, h⟩ := Fallible.runs_bind_ok.mp h
      rw [typed_append_left (drawn_freshArray hprfNonce).untyped,
        typed_append_left (drawn_freshArray hfidoNonce).untyped,
        typed_append_left (drawn_uniqueSalt hsalt).untyped,
        typed_append_left (drawn_freshArray hnonce).untyped]
      obtain ⟨hid, henrolled⟩ := enrolled_combinedTail
        (r := ⟨old.id, old.label, old.credentialId, old.publicKey, old.policy, prfNonce, fidoNonce,
          ⟨parameters, salt⟩, nonce, Bytes.zero 64⟩) h
      exact ⟨hid, fun prf hhonest =>
        henrolled prf fun event hmem => hhonest event (by simp [hmem])⟩
  | _ => cases h.2

end Enrollments

end FidoKeyWrap
