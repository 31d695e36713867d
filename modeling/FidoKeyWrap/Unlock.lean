/-
# FidoKeyWrap.Unlock — what an unlock establishes, and the one route it takes.

`openWith` says what it means to open a record: the keys derived from the presented factors, under
which its ciphertext decrypts. The faithful unlocks refine it: a successful run took its factors
from the replies of its trace, opened exactly the selected record with them, and the recovered root
authenticates the whole envelope (`unlock_sound`).

Which factors it asks for is fixed before it asks (`route`): the queries of every run are the
selected record's, in order, all or the first few of them. So two envelopes that agree on
application, envelope id and the selected record are unlocked by the same queries, and only the
final MAC check can tell their results apart (`unlock_one_route`).
-/
import FidoKeyWrap.Admission

namespace FidoKeyWrap

open ByteData Interact

/-- The policy under which a record's credential is used. -/
def RecipientRecord.fidoPolicy : RecipientRecord → Option FidoPolicy
  | .passphrase _ | .recoverySecret _ => none
  | .fido record => some record.policy
  | .fidoAndPassphrase record => some record.policy
  | .fidoAndLocalSecret _ => some .presence

/-! ## Opening a record -/

/-- What a user presents to open a record. -/
inductive Factors where
  | passphrase (passphrase : Passphrase)
  | recoverySecret (secret : RecoverySecret)
  | prf (result : Bytes 32)
  | prfAndPassphrase (result : Bytes 32) (passphrase : Passphrase)
  | prfAndLocalSecret (result : Bytes 32) (secret : LocalSecret)

variable [Primitives]

/-- The keys of a record, derived from the factors of its suite. -/
def keysOf (a : ApplicationId) (d : Bytes 32) (record : RecipientRecord) (factors : Factors) :
    Result RecoveryKeys :=
  match record, factors with
  | .passphrase r, .passphrase x => do
    return .passphrase (← Crypto.passphraseKeyOf (.passphrase r) a d x)
  | .recoverySecret r, .recoverySecret secret => do
    return .recovery (← Crypto.deriveRecoverySecretKey r a d secret)
  | .fido r, .prf b => do
    return .fido (← Crypto.deriveFidoKey (.fido r) a d b)
  | .fidoAndPassphrase r, .prfAndPassphrase b x => do
    let fidoKey ← Crypto.deriveFidoKey (.fidoAndPassphrase r) a d b
    let passphraseKey ← Crypto.passphraseKeyOf (.fidoAndPassphrase r) a d x
    return .combined passphraseKey fidoKey
  | .fidoAndLocalSecret r, .prfAndLocalSecret b secret => do
    return .fidoAndLocal (← Crypto.deriveFidoLocalKey r a d b secret)
  | _, _ => throw .invalidEnvelope

/-- **`openWith`** — the authenticated plaintext of a record's ciphertext, under the keys derived
from the factors. -/
def openWith (a : ApplicationId) (d : Bytes 32) (record : RecipientRecord) (factors : Factors) :
    Result RootKey := do
  let keys ← keysOf a d record factors
  recoverWithKeys record a d keys

/-! ## The request for a PRF -/

/-- The request carries exactly the record's credential and PRF input. -/
structure Requests (p : KeyProtector) (e : KeyEnvelope) (record : RecipientRecord)
    (request : PrfRequest) : Prop where
  application : request.credential.applicationId = p.applicationId
  recipient : request.credential.recipientId = record.id
  credential : record.credentialId = some request.credential.credentialId
  publicKey : record.publicKey = some request.credential.publicKey
  policy : record.fidoPolicy = some request.credential.policy
  label : request.credential.label = record.label
  input : Crypto.prfInput record p.applicationId e.envelopeId = .ok request.input

theorem requests_of_prfRequest {p : KeyProtector} {e : KeyEnvelope} {record : RecipientRecord}
    {operation : Operation} {request : PrfRequest}
    (h : p.prfRequest record e operation = .ok request) :
    Requests p e record request ∧ request.operation = operation := by
  cases record <;>
    simp only [KeyProtector.prfRequest, except_bind_eq_ok, except_pure_eq_ok] at h
  case passphrase | recoverySecret =>
    obtain ⟨_, h, _⟩ := h
    cases h
  all_goals
    obtain ⟨_, rfl, input, hinput, rfl⟩ := h
    exact ⟨⟨rfl, rfl, rfl, rfl, rfl, rfl, hinput⟩, rfl⟩

/-! ## Factors from a trace -/

/-- The trace asked for the factors of a record, and got them. -/
inductive Supplies (p : KeyProtector) (e : KeyEnvelope) :
    RecipientRecord → Factors → Trace host → Prop
  | passphrase {r x} :
      Supplies p e (.passphrase r) (.passphrase x)
        [⟨.passphrase ⟨.unlock, r.label, .unlock⟩, Except.ok x⟩,
          ⟨.reserve r.kdf.parameters.memoryKib.toNat, true⟩]
  | fido {r request reply b} :
      p.prfRequest (.fido r) e .unlock = .ok request → reply.result = .ok b →
        Supplies p e (.fido r) (.prf b) [⟨.evaluate request, reply⟩]
  | fidoAndPassphrase {r request reply b x} :
      p.prfRequest (.fidoAndPassphrase r) e .unlock = .ok request → reply.result = .ok b →
        Supplies p e (.fidoAndPassphrase r) (.prfAndPassphrase b x)
          [⟨.evaluate request, reply⟩, ⟨.passphrase ⟨.unlock, r.label, .unlock⟩, Except.ok x⟩,
            ⟨.reserve r.kdf.parameters.memoryKib.toNat, true⟩]

/-- **What a recovered root is**: the selected record, opened with the factors of the trace. -/
theorem runs_openRecord_ok {p : KeyProtector} {e : KeyEnvelope} {record : RecipientRecord}
    {t : Trace host} {root : RootKey} (h : (p.openRecord e record).run.Runs t (.ok root)) :
    ∃ factors, Supplies p e record factors t ∧
      openWith p.applicationId e.envelopeId record factors = .ok root := by
  cases record with
  | passphrase r =>
      simp only [KeyProtector.openRecord, Fallible.runs_bind_ok, runs_requestPassphrase_ok,
        Crypto.runs_derivePassphraseKey_ok, Fallible.runs_except] at h
      obtain ⟨_, x, _, rfl, rfl, _, key, _, rfl, ⟨hkey, kdf, hkdf, rfl⟩, rfl, hroot⟩ := h
      cases hkdf
      refine ⟨.passphrase x, .passphrase, ?_⟩
      simp only [openWith, keysOf, except_bind_eq_ok, except_pure_eq_ok]
      exact ⟨_, ⟨key, hkey, rfl⟩, hroot.symm⟩
  | recoverySecret r => cases h.2
  | fidoAndLocalSecret r => cases h.2
  | fido r =>
      simp only [KeyProtector.openRecord, ↓Fallible.runs_except_bind_ok, Fallible.runs_bind_ok,
        runs_evaluate_ok, Fallible.runs_except] at h
      obtain ⟨_, b, _, rfl, ⟨request, reply, hrequest, hreply, rfl⟩, key, hkey, rfl, hroot⟩ := h
      refine ⟨.prf b, .fido hrequest hreply, ?_⟩
      simp only [openWith, keysOf, except_bind_eq_ok, except_pure_eq_ok]
      exact ⟨_, ⟨key, hkey, rfl⟩, hroot.symm⟩
  | fidoAndPassphrase r =>
      simp only [KeyProtector.openRecord, ↓Fallible.runs_except_bind_ok, Fallible.runs_bind_ok,
        runs_evaluate_ok, runs_requestPassphrase_ok, Crypto.runs_derivePassphraseKey_ok,
        Fallible.runs_except] at h
      obtain ⟨_, b, _, rfl, ⟨request, reply, hrequest, hreply, rfl⟩, fidoKey, hfido, inner, hinner,
        _, x, _, rfl, rfl, _, key, _, rfl, ⟨hkey, kdf, hkdf, rfl⟩, rfl, hroot⟩ := h
      cases hkdf
      -- the outer layer was opened before the passphrase was asked for
      refine ⟨.prfAndPassphrase b x, .fidoAndPassphrase hrequest hreply, ?_⟩
      simp only [openWith, keysOf, except_bind_eq_ok, except_pure_eq_ok]
      refine ⟨_, ⟨fidoKey, hfido, key, hkey, rfl⟩, ?_⟩
      simp only [recoverWithKeys, except_bind_eq_ok]
      exact ⟨inner, hinner, hroot.symm⟩

/-! ## Soundness -/

theorem authenticateRoot_eq_ok {e : KeyEnvelope} {root root' : RootKey} :
    KeyProtector.authenticateRoot e root = .ok root' ↔
      root' = root ∧ Crypto.computeEnvelopeMac e root = .ok e.mac := by
  simp only [KeyProtector.authenticateRoot, except_bind_eq_ok]
  constructor
  · rintro ⟨matched, hmatched, h⟩
    cases matched with
    | false => cases h
    | true => exact ⟨except_pure_eq_ok.mp h, Crypto.envelopeMacMatches_eq_ok_true.mp hmatched⟩
  · rintro ⟨rfl, hmac⟩
    exact ⟨true, Crypto.envelopeMacMatches_eq_ok_true.mpr hmac, rfl⟩

/-- What every unlock establishes: the application, the record, its opening, the MAC. -/
structure Unlocked (p : KeyProtector) (e : KeyEnvelope) (id : RecipientId)
    (record : RecipientRecord) (factors : Factors) (root : RootKey) : Prop where
  application : e.applicationId = p.applicationId
  member : record ∈ e.recipients
  selected : record.id = id
  opened : openWith p.applicationId e.envelopeId record factors = .ok root
  authenticated : Crypto.computeEnvelopeMac e root = .ok e.mac

theorem runs_unlock_ok {p : KeyProtector} {e : KeyEnvelope} {id : RecipientId} {t : Trace host}
    {root : RootKey} (h : (p.unlock e id).run.Runs t (.ok root)) :
    ∃ record factors, Unlocked p e id record factors root ∧
      p.Admits record.passphraseParameters ∧ Supplies p e record factors t := by
  unfold KeyProtector.unlock at h
  simp only [↓Fallible.runs_except_bind_ok, Fallible.runs_bind_ok, Fallible.runs_except,
    requireApplication_eq_ok, admitRecord_eq_ok] at h
  obtain ⟨-, happ, record, hfind, -, hadmit, t₁, opened, t₂, rfl, hopen, rfl, hroot⟩ := h
  obtain ⟨rfl, hmac⟩ := authenticateRoot_eq_ok.mp hroot.symm
  obtain ⟨hmem, hid⟩ := find_sound hfind
  obtain ⟨factors, hsupplies, hopened⟩ := runs_openRecord_ok hopen
  rw [List.append_nil]
  exact ⟨record, factors, ⟨happ, hmem, hid, hopened, hmac⟩, hadmit, hsupplies⟩

theorem unlockWithRecoverySecret_ok {p : KeyProtector} {e : KeyEnvelope} {id : RecipientId}
    {secret : RecoverySecret} {root : RootKey}
    (h : p.unlockWithRecoverySecret e id secret = .ok root) :
    ∃ record, Unlocked p e id (.recoverySecret record) (.recoverySecret secret) root := by
  simp only [KeyProtector.unlockWithRecoverySecret, except_bind_eq_ok, requireApplication_eq_ok,
    except_mapError_eq_ok] at h
  obtain ⟨-, happ, record, hfind, h⟩ := h
  obtain ⟨hmem, hid⟩ := find_sound hfind
  cases record with
  | recoverySecret r =>
      simp only [except_bind_eq_ok, authenticateRoot_eq_ok] at h
      obtain ⟨key, hkey, opened, hopened, rfl, hmac⟩ := h
      refine ⟨r, happ, hmem, hid, ?_, hmac⟩
      simp only [openWith, keysOf, except_bind_eq_ok, except_pure_eq_ok]
      exact ⟨_, ⟨key, hkey, rfl⟩, hopened⟩
  | _ => cases h

theorem runs_unlockWithFidoAndLocalSecret_ok {p : KeyProtector} {e : KeyEnvelope}
    {id : RecipientId} {secret : LocalSecret} {t : Trace host} {root : RootKey}
    (h : (p.unlockWithFidoAndLocalSecret e id secret).run.Runs t (.ok root)) :
    ∃ record prf request reply,
      Unlocked p e id (.fidoAndLocalSecret record) (.prfAndLocalSecret prf secret) root ∧
        p.prfRequest (.fidoAndLocalSecret record) e .unlock = .ok request ∧
          reply.result = .ok prf ∧ t = [⟨.evaluate request, reply⟩] := by
  unfold KeyProtector.unlockWithFidoAndLocalSecret at h
  simp only [↓Fallible.runs_except_bind_ok, except_mapError_eq_ok,
    requireApplication_eq_ok] at h
  obtain ⟨-, happ, record, hfind, h⟩ := h
  obtain ⟨hmem, hid⟩ := find_sound hfind
  cases record with
  | fidoAndLocalSecret r =>
      simp only [↓Fallible.runs_except_bind_ok, Fallible.runs_bind_ok, runs_evaluate_ok,
        Fallible.runs_except] at h
      obtain ⟨_, b, _, rfl, ⟨request, reply, hrequest, hreply, rfl⟩, key, hkey, opened, hopened,
        rfl, hroot⟩ := h
      obtain ⟨rfl, hmac⟩ := authenticateRoot_eq_ok.mp hroot.symm
      refine ⟨r, b, request, reply, ⟨happ, hmem, hid, ?_, hmac⟩, hrequest, hreply, rfl⟩
      simp only [openWith, keysOf, except_bind_eq_ok, except_pure_eq_ok]
      exact ⟨_, ⟨key, hkey, rfl⟩, hopened⟩
  | _ => cases h.2

/-- Whatever an unlock asks, the parameters of the selected record were admitted before. -/
theorem guards_unlock_selected (p : KeyProtector) (e : KeyEnvelope) (id : RecipientId) :
    Program.Guards Loud (p.unlock e id).run
      (∃ record, e.find id = .ok record ∧ p.Admits record.passphraseParameters) := by
  apply Fallible.guards_except_bind
  intro _ _
  apply Fallible.guards_except_bind
  intro record hfind
  apply Fallible.guards_except_bind
  intro _ hadmit
  exact Program.guards_of _ ⟨record, hfind, admitRecord_eq_ok.mp hadmit⟩

/-- **Unlock soundness**, for every envelope, every factor and every environment. -/
theorem unlock_sound (p : KeyProtector) (e : KeyEnvelope) (id : RecipientId) :
    (∀ t root, (p.unlock e id).run.Runs t (.ok root) →
      ∃ record factors, Unlocked p e id record factors root ∧ record.policy ≠ .recoverySecret ∧
        record.policy ≠ .fidoPresenceAndLocalSecret ∧ p.Admits record.passphraseParameters ∧
          Supplies p e record factors t) ∧
    (∀ t r, (p.unlock e id).run.Runs t r → (∃ event ∈ t, event.query.Interacts) →
      ∃ record, e.find id = .ok record ∧ p.Admits record.passphraseParameters) ∧
    (∀ secret root, p.unlockWithRecoverySecret e id secret = .ok root →
      ∃ record, Unlocked p e id (.recoverySecret record) (.recoverySecret secret) root) ∧
    (∀ secret t root, (p.unlockWithFidoAndLocalSecret e id secret).run.Runs t (.ok root) →
      ∃ record prf request reply,
        Unlocked p e id (.fidoAndLocalSecret record) (.prfAndLocalSecret prf secret) root ∧
          p.prfRequest (.fidoAndLocalSecret record) e .unlock = .ok request ∧
            reply.result = .ok prf ∧ t = [⟨.evaluate request, reply⟩]) := by
  refine ⟨fun t root hrun => ?_, guards_unlock_selected p e id,
    fun secret root => unlockWithRecoverySecret_ok,
    fun secret t root => runs_unlockWithFidoAndLocalSecret_ok⟩
  obtain ⟨record, factors, hunlocked, hadmits, hsupplies⟩ := runs_unlock_ok hrun
  refine ⟨record, factors, hunlocked, ?_, ?_, hadmits, hsupplies⟩
  · -- only the three suites of `unlock` supply factors
    cases hsupplies with
    | @fido r => cases hs : r.storage <;> simp [RecipientRecord.policy, hs]
    | _ => simp [RecipientRecord.policy]
  · cases hsupplies with
    | @fido r => cases hs : r.storage <;> simp [RecipientRecord.policy, hs]
    | _ => simp [RecipientRecord.policy]

/-! ## One route -/

/-- The queries an unlock of the record may ask, in order. -/
def route (p : KeyProtector) (e : KeyEnvelope) (record : RecipientRecord) : List Query :=
  let evaluate := match p.prfRequest record e .unlock with
    | .ok request => [Query.evaluate request]
    | .error _ => []
  let passphrase (label : String) (kdf : KdfDescriptor) :=
    [Query.passphrase ⟨.unlock, label, .unlock⟩, .reserve kdf.parameters.memoryKib.toNat]
  match record with
  | .passphrase r => passphrase r.label r.kdf
  | .recoverySecret _ => []
  | .fido _ | .fidoAndLocalSecret _ => evaluate
  | .fidoAndPassphrase r => evaluate ++ passphrase r.label r.kdf

theorem follows_ask (query : Query) : Fallible.Follows (ask query) [query] :=
  @Fallible.follows_ask host Error query

theorem follows_evaluate (p : KeyProtector) (record : RecipientRecord) (e : KeyEnvelope) :
    Fallible.Follows (p.evaluate record e .unlock)
      (match p.prfRequest record e .unlock with
        | .ok request => [Query.evaluate request]
        | .error _ => []) := by
  unfold KeyProtector.evaluate
  apply Fallible.follows_except_bind
  intro request hrequest
  rw [hrequest]
  have hask := Fallible.follows_bind_silent (follows_ask (Query.evaluate request))
    fun reply => Fallible.follows_except reply.result
  exact hask

theorem follows_requestPassphrase (label : String) :
    Fallible.Follows (requestPassphrase .unlock label .unlock)
      [Query.passphrase ⟨.unlock, label, .unlock⟩] :=
  Fallible.follows_bind_silent (follows_ask (Query.passphrase ⟨.unlock, label, .unlock⟩))
    fun _ => Fallible.follows_except _

theorem follows_argon2Output (x : Passphrase) (kdf : KdfDescriptor) :
    Fallible.Follows (Crypto.argon2Output x kdf)
      [Query.reserve kdf.parameters.memoryKib.toNat] := by
  unfold Crypto.argon2Output
  apply Fallible.follows_except_bind
  intro blocks _
  apply Fallible.follows_except_bind
  intro _ hblocks
  -- the memory that is asked for is the recorded one
  rw [← require_eq_ok.mp hblocks]
  refine Fallible.follows_bind_silent (follows_ask (Query.reserve blocks)) fun _ => ?_
  apply Fallible.follows_except_bind
  intro _ _
  exact Fallible.follows_except _

theorem follows_derivePassphraseKey {r : RecipientRecord} {kdf : KdfDescriptor}
    (hkdf : Crypto.recipientKdf r = some kdf) (a : ApplicationId) (d : Bytes 32) (x : Passphrase) :
    Fallible.Follows (Crypto.derivePassphraseKey r a d x)
      [Query.reserve kdf.parameters.memoryKib.toNat] := by
  have hfrom : Fallible.Follows (Crypto.derivePassphraseKeyFrom kdf r a d x)
      [Query.reserve kdf.parameters.memoryKib.toNat] := by
    unfold Crypto.derivePassphraseKeyFrom
    apply Fallible.follows_except_bind
    intro context _
    refine Fallible.follows_bind_silent (follows_argon2Output x kdf) fun intermediate => ?_
    apply Fallible.follows_except_bind
    intro info _
    exact Fallible.follows_except _
  cases r with
  | passphrase r => cases hkdf; exact hfrom
  | fidoAndPassphrase r => cases hkdf; exact hfrom
  | _ => cases hkdf

theorem follows_openRecord (p : KeyProtector) (e : KeyEnvelope) (record : RecipientRecord) :
    Fallible.Follows (p.openRecord e record) (route p e record) := by
  cases record with
  | passphrase r =>
      refine Fallible.follows_bind (follows_requestPassphrase r.label) fun x => ?_
      exact Fallible.follows_bind_silent (follows_derivePassphraseKey rfl _ _ x)
        fun _ => Fallible.follows_except _
  | recoverySecret r => exact Fallible.follows_throw _ _
  | fidoAndLocalSecret r => exact Fallible.follows_throw _ _
  | fido r =>
      refine Fallible.follows_bind_silent (follows_evaluate p (.fido r) e) fun b => ?_
      apply Fallible.follows_except_bind
      intro key _
      exact Fallible.follows_except _
  | fidoAndPassphrase r =>
      refine Fallible.follows_bind (follows_evaluate p (.fidoAndPassphrase r) e) fun b => ?_
      apply Fallible.follows_except_bind
      intro key _
      apply Fallible.follows_except_bind
      intro inner _
      refine Fallible.follows_bind (follows_requestPassphrase r.label) fun x => ?_
      exact Fallible.follows_bind_silent (follows_derivePassphraseKey rfl _ _ x)
        fun _ => Fallible.follows_except _

/-! ## What a route asks for -/

/-- The PRF requests of a list of queries. -/
def prfRequests (queries : List Query) : List PrfRequest :=
  queries.filterMap fun query => match query with
    | .evaluate request => some request
    | _ => none

/-- The passphrase prompts of a list of queries. -/
def passphrasePrompts (queries : List Query) : List PassphrasePrompt :=
  queries.filterMap fun query => match query with
    | .passphrase prompt => some prompt
    | _ => none

/-- **`OneRoute`** — at most one PRF, requested for exactly the selected record, at most one
passphrase, and nothing else but memory. -/
structure OneRoute (p : KeyProtector) (e : KeyEnvelope) (id : RecipientId) (t : Trace host) :
    Prop where
  prf : (prfRequests (t.map Event.query)).length ≤ 1
  passphrase : (passphrasePrompts (t.map Event.query)).length ≤ 1
  exact : ∀ request ∈ prfRequests (t.map Event.query),
    ∃ record, e.find id = .ok record ∧ Requests p e record request ∧ request.operation = .unlock
  others : ∀ event ∈ t, event.query.Interacts →
    (∃ request, event.query = .evaluate request) ∨ ∃ prompt, event.query = .passphrase prompt

/-- A prefix of a route keeps to it. -/
theorem oneRoute_of_prefix {p : KeyProtector} {e : KeyEnvelope} {id : RecipientId}
    {record : RecipientRecord} {t : Trace host} (hfind : e.find id = .ok record)
    (hstart : t.map Event.query <+: route p e record) : OneRoute p e id t := by
  have hprf : (prfRequests (route p e record)).length ≤ 1 ∧
      ∀ request ∈ prfRequests (route p e record),
        p.prfRequest record e .unlock = .ok request := by
    cases hrequest : p.prfRequest record e .unlock <;> cases record <;>
      simp [route, prfRequests, hrequest]
  have hpass : (passphrasePrompts (route p e record)).length ≤ 1 := by
    cases hrequest : p.prfRequest record e .unlock <;> cases record <;>
      simp [route, passphrasePrompts, hrequest]
  have hothers : ∀ query ∈ route p e record, query.Interacts →
      (∃ request, query = .evaluate request) ∨ ∃ prompt, query = .passphrase prompt := by
    cases hrequest : p.prfRequest record e .unlock <;> cases record <;>
      simp [route, hrequest, Query.Interacts]
  have hsub := hstart.sublist
  refine ⟨(hsub.filterMap _).length_le.trans hprf.1, (hsub.filterMap _).length_le.trans hpass,
    fun request hmem => ?_, fun event hmem => ?_⟩
  · have hrequest := hprf.2 request ((hsub.filterMap _).subset hmem)
    exact ⟨record, hfind, requests_of_prfRequest hrequest⟩
  · exact hothers event.query (hsub.subset (List.mem_map_of_mem hmem))

/-- A run that asks nothing keeps to every route. -/
theorem oneRoute_nil (p : KeyProtector) (e : KeyEnvelope) (id : RecipientId) :
    OneRoute p e id [] := by
  refine ⟨by simp [prfRequests], by simp [passphrasePrompts], ?_, ?_⟩ <;> simp [prfRequests]

/-- A program that follows the selected record's route, or asks nothing when there is none. -/
theorem oneRoute_of_follows {p : KeyProtector} {e : KeyEnvelope} {id : RecipientId}
    {x : Host RootKey} (hnone : ∀ error, e.find id = .error error → Fallible.Follows x [])
    (hsome : ∀ record, e.find id = .ok record → Fallible.Follows x (route p e record))
    {t : Trace host} {r : Result RootKey} (h : x.run.Runs t r) : OneRoute p e id t := by
  cases hfind : e.find id with
  | error error =>
      have hnil := List.prefix_nil.mp (hnone error hfind t r h).1
      rw [List.map_eq_nil_iff.mp hnil]
      exact oneRoute_nil p e id
  | ok record => exact oneRoute_of_prefix hfind (hsome record hfind t r h).1

theorem oneRoute_unlock {p : KeyProtector} {e : KeyEnvelope} {id : RecipientId} {t : Trace host}
    {r : Result RootKey} (h : (p.unlock e id).run.Runs t r) : OneRoute p e id t := by
  apply oneRoute_of_follows (x := p.unlock e id) _ _ h <;>
    intro found hfind <;>
    unfold KeyProtector.unlock <;>
    rw [hfind] <;>
    apply Fallible.follows_except_bind <;>
    intro _ _
  · exact Fallible.follows_throw _ _
  · apply Fallible.follows_except_bind
    intro record hrecord
    cases hrecord
    apply Fallible.follows_except_bind
    intro _ _
    exact Fallible.follows_bind_silent (follows_openRecord p e found)
      fun _ => Fallible.follows_except _

theorem oneRoute_unlockWithFidoAndLocalSecret {p : KeyProtector} {e : KeyEnvelope}
    {id : RecipientId} {secret : LocalSecret} {t : Trace host} {r : Result RootKey}
    (h : (p.unlockWithFidoAndLocalSecret e id secret).run.Runs t r) : OneRoute p e id t := by
  apply oneRoute_of_follows (x := p.unlockWithFidoAndLocalSecret e id secret) _ _ h <;>
    intro found hfind <;>
    unfold KeyProtector.unlockWithFidoAndLocalSecret <;>
    rw [hfind] <;>
    apply Fallible.follows_except_bind <;>
    intro _ _
  · exact Fallible.follows_throw _ _
  · apply Fallible.follows_except_bind
    intro record hrecord
    cases hrecord
    cases found with
    | fidoAndLocalSecret r =>
        refine Fallible.follows_bind_silent (follows_evaluate p _ e) fun b => ?_
        apply Fallible.follows_except_bind
        intro key _
        apply Fallible.follows_except_bind
        intro root _
        exact Fallible.follows_except _
    | _ => exact Fallible.follows_throw _ _

/-! ## Two runs -/

/-- `unlock` up to its final check. -/
def openSelected (p : KeyProtector) (e : KeyEnvelope) (id : RecipientId) : Host RootKey := do
  p.requireApplication e
  let record ← e.find id
  p.admitRecord record
  p.openRecord e record

/-- `unlock_with_recovery_secret` up to its final check. -/
def openSelectedWithRecoverySecret (p : KeyProtector) (e : KeyEnvelope) (id : RecipientId)
    (secret : RecoverySecret) : Result RootKey := do
  p.requireApplication e
  match ← (e.find id).mapError fun _ => Error.unlockFailed with
  | .recoverySecret record =>
    let key ← Crypto.deriveRecoverySecretKey record p.applicationId e.envelopeId secret
    Crypto.unwrapRecoverySecretRoot record p.applicationId e.envelopeId key
  | _ => throw .unlockFailed

/-- `unlock_with_fido_and_local_secret` up to its final check. -/
def openSelectedWithLocalSecret (p : KeyProtector) (e : KeyEnvelope) (id : RecipientId)
    (secret : LocalSecret) : Host RootKey := do
  p.requireApplication e
  let record ← (e.find id).mapError fun _ => Error.unlockFailed
  match record with
  | .fidoAndLocalSecret inner =>
    let prf ← p.evaluate record e .unlock
    let key ← Crypto.deriveFidoLocalKey inner p.applicationId e.envelopeId prf secret
    Crypto.unwrapFidoLocalRoot inner p.applicationId e.envelopeId key
  | _ => throw .unlockFailed

theorem unlock_eq (p : KeyProtector) (e : KeyEnvelope) (id : RecipientId) :
    p.unlock e id = openSelected p e id >>= fun root =>
      (liftM (KeyProtector.authenticateRoot e root) : Host RootKey) := by
  simp only [KeyProtector.unlock, openSelected, bind_assoc]

theorem unlockWithRecoverySecret_eq (p : KeyProtector) (e : KeyEnvelope) (id : RecipientId)
    (secret : RecoverySecret) :
    p.unlockWithRecoverySecret e id secret =
      openSelectedWithRecoverySecret p e id secret >>= KeyProtector.authenticateRoot e := by
  simp only [KeyProtector.unlockWithRecoverySecret, openSelectedWithRecoverySecret, bind_assoc]
  congr 1
  funext _
  congr 1
  funext record
  cases record <;> simp only [bind_assoc] <;> rfl

theorem unlockWithLocalSecret_eq (p : KeyProtector) (e : KeyEnvelope) (id : RecipientId)
    (secret : LocalSecret) :
    p.unlockWithFidoAndLocalSecret e id secret =
      openSelectedWithLocalSecret p e id secret >>= fun root =>
        (liftM (KeyProtector.authenticateRoot e root) : Host RootKey) := by
  simp only [KeyProtector.unlockWithFidoAndLocalSecret, openSelectedWithLocalSecret, bind_assoc]
  congr 1
  funext _
  congr 1
  funext record
  cases record <;> simp only [bind_assoc] <;> rfl

/-! Up to the final check only the application, the envelope id and the selected record are read. -/

section Congruence

variable {p : KeyProtector} {e e' : KeyEnvelope} {id : RecipientId}

theorem evaluate_congr (hid : e.envelopeId = e'.envelopeId) (record : RecipientRecord)
    (operation : Operation) : p.evaluate record e operation = p.evaluate record e' operation := by
  simp only [KeyProtector.evaluate, KeyProtector.prfRequest, hid]

theorem openRecord_congr (hid : e.envelopeId = e'.envelopeId) (record : RecipientRecord) :
    p.openRecord e record = p.openRecord e' record := by
  cases record <;> simp only [KeyProtector.openRecord, evaluate_congr hid, hid]

theorem openSelected_congr (happ : e.applicationId = e'.applicationId)
    (hid : e.envelopeId = e'.envelopeId) (hfind : e.find id = e'.find id) :
    openSelected p e id = openSelected p e' id := by
  simp only [openSelected, KeyProtector.requireApplication, happ, hfind, openRecord_congr hid]

theorem openSelectedWithRecoverySecret_congr (happ : e.applicationId = e'.applicationId)
    (hid : e.envelopeId = e'.envelopeId) (hfind : e.find id = e'.find id)
    (secret : RecoverySecret) :
    openSelectedWithRecoverySecret p e id secret =
      openSelectedWithRecoverySecret p e' id secret := by
  simp only [openSelectedWithRecoverySecret, KeyProtector.requireApplication, happ, hfind, hid]

theorem openSelectedWithLocalSecret_congr (happ : e.applicationId = e'.applicationId)
    (hid : e.envelopeId = e'.envelopeId) (hfind : e.find id = e'.find id) (secret : LocalSecret) :
    openSelectedWithLocalSecret p e id secret = openSelectedWithLocalSecret p e' id secret := by
  simp only [openSelectedWithLocalSecret, KeyProtector.requireApplication, happ, hfind, hid,
    evaluate_congr hid]

omit [Primitives] in
/-- Ascending envelopes that hold the same record under an id select the same. -/
theorem find_congr (hascending : e.recipients.Pairwise fun r s => r.id < s.id)
    (hascending' : e'.recipients.Pairwise fun r s => r.id < s.id)
    (hselected : ∀ record, record.id = id → (record ∈ e.recipients ↔ record ∈ e'.recipients)) :
    e.find id = e'.find id := by
  cases hfind : e.find id with
  | ok record =>
      obtain ⟨hmem, rfl⟩ := find_sound hfind
      exact (find_of_mem hascending' ((hselected record rfl).mp hmem)).symm
  | error error =>
      cases hfind' : e'.find id with
      | ok record =>
          obtain ⟨hmem, rfl⟩ := find_sound hfind'
          rw [find_of_mem hascending ((hselected record rfl).mpr hmem)] at hfind
          cases hfind
      | error error' => rw [find_error hfind, find_error hfind']

end Congruence

/-- The final check keeps a result, or turns a recovered root into `unlockFailed`. -/
def Checked (opened result : Result RootKey) : Prop :=
  result = opened ∨ (∃ root, opened = .ok root) ∧ result = .error .unlockFailed

theorem checked_authenticateRoot (total : Primitives.HashesTotal) {e : KeyEnvelope}
    (hwell : e.WellFormed) (opened : Result RootKey) :
    Checked opened (opened >>= KeyProtector.authenticateRoot e) := by
  cases opened with
  | error error => exact .inl rfl
  | ok root =>
      -- the MAC of a well-formed envelope can be computed, so only a mismatch is left to fail
      obtain ⟨mac, hmac⟩ := Crypto.computeEnvelopeMac_total total hwell root
      by_cases hmatch : mac = e.mac
      · subst hmatch
        exact .inl (authenticateRoot_eq_ok.mpr ⟨rfl, hmac⟩)
      · refine .inr ⟨⟨root, rfl⟩, ?_⟩
        show KeyProtector.authenticateRoot e root = .error .unlockFailed
        simp only [KeyProtector.authenticateRoot, Crypto.envelopeMacMatches, hmac]
        simp [bind, Except.bind, pure, Except.pure, hmatch, throw, throwThe, MonadExceptOf.throw]

/-- One opening, two final checks. -/
def AgreeUpToMac (result result' : Result RootKey) : Prop :=
  ∃ opened, Checked opened result ∧ Checked opened result'

/-- Two runs on one route. -/
structure SameRoute (p : KeyProtector) (e e' : KeyEnvelope) (id : RecipientId)
    (run run' : Trace host × Result RootKey) : Prop where
  trace : run.1 = run'.1
  route : OneRoute p e id run.1
  route' : OneRoute p e' id run'.1
  result : AgreeUpToMac run.2 run'.2

/-- **One route, no fallback.** Two decoded envelopes that agree on application, envelope id and the
selected record are unlocked by the same queries and replies, and to the same result up to the MAC
check of each. -/
theorem unlock_one_route (total : Primitives.HashesTotal) (p : KeyProtector) {e e' : KeyEnvelope}
    {id : RecipientId} (hwell : e.WellFormed) (hwell' : e'.WellFormed)
    (happ : e.applicationId = e'.applicationId) (hid : e.envelopeId = e'.envelopeId)
    (hselected : ∀ record, record.id = id → (record ∈ e.recipients ↔ record ∈ e'.recipients)) :
    (∀ env past, SameRoute p e e' id ((p.unlock e id).run.exec env past)
      ((p.unlock e' id).run.exec env past)) ∧
    (∀ secret, AgreeUpToMac (p.unlockWithRecoverySecret e id secret)
      (p.unlockWithRecoverySecret e' id secret)) ∧
    (∀ secret env past, SameRoute p e e' id
      ((p.unlockWithFidoAndLocalSecret e id secret).run.exec env past)
      ((p.unlockWithFidoAndLocalSecret e' id secret).run.exec env past)) := by
  have hfind := find_congr hwell.ascending hwell'.ascending hselected
  -- one opening of both envelopes, then the check of each
  refine ⟨fun env past => ?_, fun secret => ?_, fun secret env past => ?_⟩
  · refine ⟨?_, oneRoute_unlock (Program.exec_runs env _ past),
      oneRoute_unlock (Program.exec_runs env _ past), ?_⟩
    · rw [unlock_eq, unlock_eq, openSelected_congr happ hid hfind, Fallible.exec_bind_except,
        Fallible.exec_bind_except]
    · rw [unlock_eq, unlock_eq, openSelected_congr happ hid hfind, Fallible.exec_bind_except,
        Fallible.exec_bind_except]
      exact ⟨_, checked_authenticateRoot total hwell _, checked_authenticateRoot total hwell' _⟩
  · rw [unlockWithRecoverySecret_eq, unlockWithRecoverySecret_eq,
      openSelectedWithRecoverySecret_congr happ hid hfind]
    exact ⟨_, checked_authenticateRoot total hwell _, checked_authenticateRoot total hwell' _⟩
  · refine ⟨?_, oneRoute_unlockWithFidoAndLocalSecret (Program.exec_runs env _ past),
      oneRoute_unlockWithFidoAndLocalSecret (Program.exec_runs env _ past), ?_⟩
    · rw [unlockWithLocalSecret_eq, unlockWithLocalSecret_eq,
        openSelectedWithLocalSecret_congr happ hid hfind, Fallible.exec_bind_except,
        Fallible.exec_bind_except]
    · rw [unlockWithLocalSecret_eq, unlockWithLocalSecret_eq,
        openSelectedWithLocalSecret_congr happ hid hfind, Fallible.exec_bind_except,
        Fallible.exec_bind_except]
      exact ⟨_, checked_authenticateRoot total hwell _, checked_authenticateRoot total hwell' _⟩

/-! ## The passphrase vector -/

section Vectors

omit [Primitives]

/-- Its user unlocks the passphrase vector. -/
theorem passphraseEnvelope_unlocked :
    ∃ record factors, @Unlocked Vector.primitives ⟨Vector.application, .desktop⟩
      Vector.passphraseEnvelope Vector.passphraseRecord.id record factors ⟨Vector.root⟩ := by
  have hrun := @Program.exec_runs (@host Vector.primitives) _ Vector.environment
    (@KeyProtector.unlock Vector.primitives ⟨Vector.application, .desktop⟩
      Vector.passphraseEnvelope Vector.passphraseRecord.id).run []
  have hroot : passphraseUnlock.2 = .ok ⟨Vector.root⟩ := by decide +kernel
  change @Program.Runs (@host Vector.primitives) _ _ passphraseUnlock.1 passphraseUnlock.2 at hrun
  rw [hroot] at hrun
  obtain ⟨record, factors, hunlocked, -⟩ := (@unlock_sound Vector.primitives _ _ _).1 _ _ hrun
  exact ⟨record, factors, hunlocked⟩

/-- The passphrase vector among other recipients, under another MAC. -/
def crowdedEnvelope : KeyEnvelope :=
  { Vector.passphraseEnvelope with
    recipients := [.passphrase Vector.passphraseRecord, .recoverySecret Vector.addedRecord,
      .recoverySecret Vector.recoveryRecord]
    mac := Bytes.zero 32 }

/-- The passphrase vector takes one route alone and among other recipients. -/
theorem passphraseEnvelope_one_route :
    @SameRoute Vector.primitives ⟨Vector.application, .desktop⟩ Vector.passphraseEnvelope
      crowdedEnvelope Vector.passphraseRecord.id passphraseUnlock
      (@Program.exec (@host Vector.primitives) _ Vector.environment
        (@KeyProtector.unlock Vector.primitives ⟨Vector.application, .desktop⟩ crowdedEnvelope
          Vector.passphraseRecord.id).run []) := by
  let _ := Vector.primitives
  have hcrowded : crowdedEnvelope.WellFormed :=
    (decode_sound (show KeyEnvelope.decode crowdedEnvelope.encode = .ok crowdedEnvelope by
      decide +kernel)).1
  refine (unlock_one_route (Recording.hashesTotal _) ⟨Vector.application, .desktop⟩
    Crypto.vectors_wellFormed.2 hcrowded rfl rfl fun record hid => ?_).1 Vector.environment []
  constructor
  · intro hmem
    exact List.mem_cons.mpr (.inl (List.mem_singleton.mp hmem))
  · intro hmem
    rcases List.mem_cons.mp hmem with rfl | hother
    · exact List.mem_singleton.mpr rfl
    · -- no other record has the selected id
      simp only [List.mem_cons, List.not_mem_nil, or_false] at hother
      rcases hother with rfl | rfl
      · exact absurd hid (by decide)
      · exact absurd hid (by decide)

end Vectors

end FidoKeyWrap
