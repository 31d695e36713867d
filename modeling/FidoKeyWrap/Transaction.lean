/-
# FidoKeyWrap.Transaction — every update is a transaction with an exact frame.

The staged envelope is the candidate with its new MAC and nothing else: what staging decodes is what
it encoded (`stageExistingRecord_eq_ok`). So a successful update leaves the application id and the
envelope id alone and changes the recipient list by one insertion, one deletion or one replacement,
and the assignment is the last thing it does, so a failing one changes nothing
(`transacts_mutation`). The replacement of a rewrap is a copy with a new salt and new nonces
(`Rewrapped`).

`Committed` is what each success establishes of the new envelope, for the whole-run results.
-/
import FidoKeyWrap.Custody
import FidoKeyWrap.Lib.Attempts

namespace FidoKeyWrap

open ByteData Interact

variable [Primitives]

/-! ## Staging -/

/-- What canonicalization accepts it returns, and it is well-formed. -/
theorem canonicalize_eq_ok {e staged : KeyEnvelope} (h : canonicalize e = .ok staged) :
    staged = e ∧ e.WellFormed ∧ KeyEnvelope.decode e.encode = .ok e := by
  have hdecode : KeyEnvelope.decode e.encode = .ok staged := h
  obtain rfl : staged = e := decode_encode_eq hdecode
  exact ⟨rfl, (decode_sound hdecode).1, hdecode⟩

/-- **`Committed`** — a well-formed envelope that decodes and is authenticated by the root. -/
structure Committed (root : RootKey) (e : KeyEnvelope) : Prop where
  wellFormed : e.WellFormed
  decodes : KeyEnvelope.decode e.encode = .ok e
  authenticated : Crypto.computeEnvelopeMac e root = .ok e.mac

theorem committed_of_canonicalize {root : RootKey} {e staged : KeyEnvelope} {mac : Bytes 32}
    (hmac : Crypto.computeEnvelopeMac e root = .ok mac)
    (h : canonicalize { e with mac } = .ok staged) :
    staged = { e with mac } ∧ Committed root staged := by
  obtain ⟨rfl, hwell, hdecode⟩ := canonicalize_eq_ok h
  refine ⟨rfl, hwell, hdecode, ?_⟩
  exact (Crypto.computeEnvelopeMac_congr (e := e) ⟨rfl, rfl, rfl⟩ root) ▸ hmac

/-- **What staging does**: it sets the MAC, and the selected record gives back the root. -/
theorem stageExistingRecord_eq_ok {e staged : KeyEnvelope} {id : RecipientId} {root : RootKey}
    {keys : RecoveryKeys} (h : KeyProtector.stageExistingRecord e id root keys = .ok staged) :
    (∃ mac, staged = { e with mac }) ∧ Committed root staged ∧
      ∃ record, staged.find id = .ok record ∧
        recoverWithKeys record staged.applicationId staged.envelopeId keys = .ok root := by
  simp only [KeyProtector.stageExistingRecord, except_bind_eq_ok] at h
  obtain ⟨mac, hmac, staged', hcanon, record, hfind, recovered, hrecovered, h⟩ := h
  by_cases hroots : rootsMatch root recovered = true
  · rw [if_pos hroots] at h
    simp only [except_bind_eq_ok, require_eq_ok, except_pure_eq_ok] at h
    obtain ⟨_, _, _, _, rfl⟩ := h
    obtain ⟨hstaged, hcommitted⟩ := committed_of_canonicalize hmac hcanon
    obtain rfl : root = recovered := RootKey.ext (of_decide_eq_true hroots)
    exact ⟨⟨mac, hstaged⟩, hcommitted, record, hfind, hrecovered⟩
  · rw [if_neg hroots] at h
    simp [require] at h

omit [Primitives] in
theorem perm_insertRecord (e : KeyEnvelope) (record : RecipientRecord) :
    (KeyProtector.insertRecord e record).recipients.Perm (record :: e.recipients) :=
  (List.perm_insertionSort _ _).trans (List.perm_append_singleton record e.recipients)

/-! ## Frames -/

/-- Nothing but the recipients and the MAC changed. -/
structure SameIdentity (s s' : KeyEnvelope) : Prop where
  application : s'.applicationId = s.applicationId
  envelope : s'.envelopeId = s.envelopeId

/-- The record was added, with a new id: every other record stayed, and where the old records
ascend it went to its place among them. -/
structure Inserts (record : RecipientRecord) (s s' : KeyEnvelope) : Prop where
  fresh : ∀ r ∈ s.recipients, r.id ≠ record.id
  added : s'.recipients.Perm (record :: s.recipients)
  placed : s.recipients.Pairwise (fun r t => r.id < t.id) →
    ∃ before after, s.recipients = before ++ after ∧ s'.recipients = before ++ record :: after

/-- The record was taken out, and another one remains. -/
structure Deletes (record : RecipientRecord) (s s' : KeyEnvelope) : Prop where
  removed : ∃ before after, s.recipients = before ++ record :: after ∧
    s'.recipients = before ++ after
  remains : s'.recipients ≠ []

/-- The record was replaced, in its place, by one with its id. -/
structure Replaces (record replacement : RecipientRecord) (s s' : KeyEnvelope) : Prop where
  selected : replacement.id = record.id
  replaced : ∃ before after, s.recipients = before ++ record :: after ∧
    s'.recipients = before ++ replacement :: after

omit [Primitives] in
/-- Two ascending lists of the same records are equal. -/
theorem eq_of_perm_of_ascending {xs ys : List RecipientRecord}
    (hxs : xs.Pairwise fun r s => r.id < s.id) (hys : ys.Pairwise fun r s => r.id < s.id)
    (h : xs.Perm ys) : xs = ys :=
  h.eq_of_pairwise (fun _ _ _ _ hab hba => absurd hba (lt_asymm hab)) hxs hys

omit [Primitives] in
/-- Adding one record to an ascending list and sorting inserts it in its place. -/
theorem split_of_perm_cons {record : RecipientRecord} {xs ys : List RecipientRecord}
    (hxs : xs.Pairwise fun r s => r.id < s.id) (hys : ys.Pairwise fun r s => r.id < s.id)
    (h : ys.Perm (record :: xs)) :
    ∃ before after, xs = before ++ after ∧ ys = before ++ record :: after := by
  have hmem : record ∈ ys := h.mem_iff.mpr List.mem_cons_self
  obtain ⟨before, after, rfl⟩ := List.append_of_mem hmem
  have hrest : (before ++ after).Perm xs := (List.perm_middle.symm.trans h).cons_inv
  have hascending : (before ++ after).Pairwise fun r s => r.id < s.id :=
    hys.sublist ((List.sublist_cons_self record after).append_left before)
  exact ⟨before, after, (eq_of_perm_of_ascending hascending hxs hrest).symm, rfl⟩

omit [Primitives] in
/-- A record added to an ascending result had none of the old ids. -/
theorem inserts_of_perm {s s' : KeyEnvelope} {record : RecipientRecord}
    (hascending : s'.recipients.Pairwise fun r t => r.id < t.id)
    (h : s'.recipients.Perm (record :: s.recipients)) : Inserts record s s' := by
  refine ⟨fun r hr => ?_, h, fun hs => split_of_perm_cons hs hascending h⟩
  -- the order of the records does not matter for their ids to be different
  have hdistinct : s'.recipients.Pairwise fun r t => r.id ≠ t.id :=
    hascending.imp fun hlt => ne_of_lt hlt
  have hcons := (h.pairwise_iff fun hne => Ne.symm hne).mp hdistinct
  exact ((List.pairwise_cons.mp hcons).1 r hr).symm

/-- What an addition establishes: its frame, the new envelope, and that the keys the record was
wrapped under give back the root. -/
structure Adds (root : RootKey) (record : RecipientRecord) (keys : RecoveryKeys)
    (s s' : KeyEnvelope) : Prop where
  identity : SameIdentity s s'
  inserts : Inserts record s s'
  committed : Committed root s'
  recovers : recoverWithKeys record s.applicationId s.envelopeId keys = .ok root

theorem stageRecord_eq_ok {s s' : KeyEnvelope} {record : RecipientRecord} {root : RootKey}
    {keys : RecoveryKeys} (h : KeyProtector.stageRecord s record root keys = .ok s') :
    Adds root record keys s s' := by
  obtain ⟨⟨mac, rfl⟩, hcommitted, found, hfind, hrecovers⟩ := stageExistingRecord_eq_ok h
  have hperm := perm_insertRecord s record
  -- the record that was recovered is the one that was added: ids ascend after the decode
  have hmem : record ∈ (KeyProtector.insertRecord s record).recipients :=
    hperm.mem_iff.mpr List.mem_cons_self
  have hself := find_of_mem hcommitted.wellFormed.ascending hmem
  rw [hself] at hfind
  cases hfind
  exact ⟨⟨rfl, rfl⟩, inserts_of_perm hcommitted.wellFormed.ascending hperm, hcommitted, hrecovers⟩

/-- A successful enrollment stages its record and asks nothing more. -/
theorem runs_stageEnrollment_ok {p : KeyProtector} {s s' : KeyEnvelope} {record : RecipientRecord}
    {root : RootKey} {keys : RecoveryKeys} {managed : Option ManagedEnrollment} {t : Trace host}
    (h : (p.stageEnrollment s record root keys managed).run.Runs t (.ok s')) :
    t = [] ∧ Adds root record keys s s' := by
  unfold KeyProtector.stageEnrollment at h
  split at h
  · rename_i staged hstaged
    obtain ⟨rfl, hs'⟩ := h
    cases hs'
    exact ⟨rfl, stageRecord_eq_ok hstaged⟩
  · split at h
    · cases h.2
    · split at h
      · obtain ⟨t₁, error, t₂, rfl, -, hthrow⟩ := Fallible.runs_bind_ok.mp h
        cases hthrow.2
      · cases h.2

/-! ## The replacement -/

namespace RecipientRecord

/-- The nonce of the passphrase layer, if the record has one. -/
def passphraseNonce : RecipientRecord → Option (Bytes 12)
  | passphrase record => some record.passphraseNonce
  | recoverySecret _ | fido _ | fidoAndLocalSecret _ => none
  | fidoAndPassphrase record => some record.passphraseNonce

/-- The nonce in the PRF input, if the record has one. -/
def prfNonce : RecipientRecord → Option (Bytes 32)
  | passphrase _ | recoverySecret _ => none
  | fido record => some record.prfNonce
  | fidoAndPassphrase record => some record.prfNonce
  | fidoAndLocalSecret record => some record.prfNonce

/-- The nonce of the FIDO layer, if the record has one of its own. -/
def fidoNonce : RecipientRecord → Option (Bytes 12)
  | passphrase _ | recoverySecret _ | fidoAndLocalSecret _ => none
  | fido record => some record.fidoNonce
  | fidoAndPassphrase record => some record.fidoNonce

end RecipientRecord

omit [Primitives] in
/-- A record without this value stays without it; one with it has a new one. -/
def Renewed {α : Type} (old new : Option α) : Prop :=
  (old = none ∧ new = none) ∨ ∃ a b, old = some a ∧ new = some b ∧ b ≠ a

/-- **`Rewrapped e requested old new`** — what is copied and what is new in a replacement. Without
requested parameters the old ones are copied too. -/
structure Rewrapped (e : KeyEnvelope) (requested : Option PassphraseParameters)
    (old new : RecipientRecord) : Prop where
  id : new.id = old.id
  label : new.label = old.label
  credentialId : new.credentialId = old.credentialId
  publicKey : new.publicKey = old.publicKey
  policy : new.policy = old.policy
  parameters : new.passphraseParameters = requested.or old.passphraseParameters
  salt : ∃ salt, new.passphraseSalt = some salt ∧ ∀ r ∈ e.recipients, r.passphraseSalt ≠ some salt
  passphraseNonce : Renewed old.passphraseNonce new.passphraseNonce
  prfNonce : Renewed old.prfNonce new.prfNonce
  fidoNonce : Renewed old.fidoNonce new.fidoNonce

/-- A salt that was found is in no record. -/
theorem passphraseSalt_ne_of_uniqueSalt {e : KeyEnvelope} {t : Trace host} {salt : Bytes 16}
    (h : (KeyProtector.uniqueSalt e).run.Runs t (.ok salt)) :
    ∀ r ∈ e.recipients, r.passphraseSalt ≠ some salt := by
  intro r hr hsalt
  have haccept := attempts_accepts h
  rw [Bool.not_eq_true', List.any_eq_false] at haccept
  refine haccept r hr ?_
  cases r with
  | passphrase inner => exact beq_iff_eq.mpr (Option.some.inj hsalt)
  | fidoAndPassphrase inner => exact beq_iff_eq.mpr (Option.some.inj hsalt)
  | _ => cases hsalt

theorem renewed_of_freshArray {n : Nat} {old value : Bytes n} {t : Trace host}
    (h : (freshArray old).run.Runs t (.ok value)) : Renewed (some old) (some value) := by
  unfold freshArray at h
  have haccept := attempts_accepts h
  exact .inr ⟨old, value, rfl, rfl, of_decide_eq_true haccept⟩

/-- **The replacement is a copy with new salt and nonces.** -/
theorem rewrapped_of_runs {p : KeyProtector} {e : KeyEnvelope} {root : RootKey}
    {current replacement : RecipientRecord} {parameters : PassphraseParameters}
    {keys : RecoveryKeys} {t : Trace host}
    (h : (p.rewrapRecord e root current parameters).run.Runs t (.ok (replacement, keys))) :
    Rewrapped e (some parameters) current replacement := by
  cases current with
  | passphrase old =>
      change (p.rewrapPassphraseRecord e root old parameters).run.Runs t _ at h
      unfold KeyProtector.rewrapPassphraseRecord at h
      obtain ⟨t₁, salt, u₁, rfl, hsalt, h⟩ := Fallible.runs_bind_ok.mp h
      obtain ⟨t₂, nonce, u₂, rfl, hnonce, h⟩ := Fallible.runs_bind_ok.mp h
      obtain ⟨t₃, passphrase, u₃, rfl, -, h⟩ := Fallible.runs_bind_ok.mp h
      obtain ⟨t₄, key, u₄, rfl, -, h⟩ := Fallible.runs_bind_ok.mp h
      obtain ⟨wrapped, -, h⟩ := Fallible.runs_except_bind_ok.mp h
      obtain ⟨-, hreply⟩ := Fallible.runs_pure.mp h
      cases hreply
      exact
        { id := rfl, label := rfl, credentialId := rfl, publicKey := rfl, policy := rfl
          parameters := rfl
          salt := ⟨salt, rfl, passphraseSalt_ne_of_uniqueSalt hsalt⟩
          passphraseNonce := renewed_of_freshArray hnonce
          prfNonce := .inl ⟨rfl, rfl⟩
          fidoNonce := .inl ⟨rfl, rfl⟩ }
  | fidoAndPassphrase old =>
      change (p.rewrapCombinedRecord e root old parameters).run.Runs t _ at h
      unfold KeyProtector.rewrapCombinedRecord at h
      obtain ⟨t₁, prfNonce, u₁, rfl, hprfNonce, h⟩ := Fallible.runs_bind_ok.mp h
      obtain ⟨t₂, fidoNonce, u₂, rfl, hfidoNonce, h⟩ := Fallible.runs_bind_ok.mp h
      obtain ⟨t₃, salt, u₃, rfl, hsalt, h⟩ := Fallible.runs_bind_ok.mp h
      obtain ⟨t₄, nonce, u₄, rfl, hnonce, h⟩ := Fallible.runs_bind_ok.mp h
      obtain ⟨t₅, prf, u₅, rfl, -, h⟩ := Fallible.runs_bind_ok.mp h
      obtain ⟨fidoKey, -, h⟩ := Fallible.runs_except_bind_ok.mp h
      obtain ⟨t₆, passphrase, u₆, rfl, -, h⟩ := Fallible.runs_bind_ok.mp h
      obtain ⟨t₇, key, u₇, rfl, -, h⟩ := Fallible.runs_bind_ok.mp h
      obtain ⟨wrapped, -, h⟩ := Fallible.runs_except_bind_ok.mp h
      obtain ⟨-, hreply⟩ := Fallible.runs_pure.mp h
      cases hreply
      exact
        { id := rfl, label := rfl, credentialId := rfl, publicKey := rfl, policy := rfl
          parameters := rfl
          salt := ⟨salt, rfl, passphraseSalt_ne_of_uniqueSalt hsalt⟩
          passphraseNonce := renewed_of_freshArray hnonce
          prfNonce := renewed_of_freshArray hprfNonce
          fidoNonce := renewed_of_freshArray hfidoNonce }
  | _ => cases h.2

/-! ## The updates, succeeding -/

section Updates

variable {p : KeyProtector} {root : RootKey} {s s' : KeyEnvelope} {t : Trace host}

/-- The head of the three additions: authentication, then room. -/
theorem runs_add_ok {α : Type} {f : KeyEnvelope → HostMut α} {a : α}
    (h : (do
      let envelope ← get
      p.requireAuthenticated envelope root
      require (envelope.recipients.length < maxRecipients) Error.tooManyRecipients
      f envelope : HostMut α).Runs s t (.ok a) s') :
    p.Authenticates root s ∧ (f s).Runs s t (.ok a) s' := by
  rw [Mutating.runs_get_bind, Mutating.runs_except_bind_ok] at h
  obtain ⟨_, hauth, h⟩ := h
  rw [Mutating.runs_except_bind_ok] at h
  obtain ⟨_, _, h⟩ := h
  exact ⟨requireAuthenticated_eq_ok.mp hauth, h⟩

/-- The tail of every update: the assignment and the result. -/
theorem runs_assign_ok {α : Type} {staged : KeyEnvelope} {a b : α}
    (h : (set staged >>= fun _ => pure a : HostMut α).Runs s t (.ok b) s') :
    t = [] ∧ b = a ∧ s' = staged := by
  rw [Mutating.runs_set_bind, Mutating.runs_pure] at h
  obtain ⟨rfl, hb, rfl⟩ := h
  exact ⟨rfl, by cases hb; rfl, rfl⟩

theorem runs_addRecipient_ok {enrollment : Enrollment} {id : RecipientId}
    (hrun : (p.addRecipient root enrollment).Runs s t (.ok id) s') :
    p.Authenticates root s ∧ ∃ record keys managed, id = record.id ∧
      (p.enrollRecipient s root enrollment .addRecipient).run.Runs t
        (.ok (record, keys, managed)) ∧ Adds root record keys s s' := by
  obtain ⟨hauth, h⟩ := runs_add_ok hrun
  rw [Mutating.runs_except_bind_ok] at h
  obtain ⟨_, _, h⟩ := h
  rw [Mutating.runs_lift_bind_ok] at h
  obtain ⟨t₁, ⟨record, keys, managed⟩, t₂, rfl, henroll, h⟩ := h
  rw [Mutating.runs_lift_bind_ok] at h
  obtain ⟨t₃, staged, t₄, rfl, hstage, h⟩ := h
  obtain ⟨rfl, hid, rfl⟩ := runs_assign_ok h
  obtain ⟨rfl, hadds⟩ := runs_stageEnrollment_ok hstage
  rw [List.append_nil, List.append_nil]
  exact ⟨hauth, record, keys, managed, hid, henroll, hadds⟩

theorem runs_addRecoverySecret_ok {label : String} {reply : RecoverySecretRecipient}
    (hrun : (p.addRecoverySecret root label).Runs s t (.ok reply) s') :
    p.Authenticates root s ∧ ∃ record secret key, reply = ⟨record.id, secret⟩ ∧
      (KeyProtector.newRecoverySecretRecord s root label).run.Runs t
        (.ok (record, secret, key)) ∧ Adds root record (.recovery key) s s' := by
  obtain ⟨hauth, h⟩ := runs_add_ok hrun
  rw [Mutating.runs_except_bind_ok] at h
  obtain ⟨label', hlabel, h⟩ := h
  obtain ⟨-, rfl⟩ := validateDedicatedLabel_eq_ok.mp hlabel
  rw [Mutating.runs_lift_bind_ok] at h
  obtain ⟨t₁, ⟨record, secret, key⟩, t₂, rfl, henroll, h⟩ := h
  rw [Mutating.runs_except_bind_ok] at h
  obtain ⟨staged, hstage, h⟩ := h
  obtain ⟨rfl, hreply, rfl⟩ := runs_assign_ok h
  rw [List.append_nil]
  exact ⟨hauth, record, secret, key, hreply, henroll, stageRecord_eq_ok hstage⟩

theorem runs_addFidoAndLocalSecret_ok {label : String} {reply : LocalSecretRecipient}
    (hrun : (p.addFidoAndLocalSecret root label).Runs s t (.ok reply) s') :
    p.Authenticates root s ∧ ∃ record secret key, reply = ⟨record.id, secret⟩ ∧
      (p.enrollFidoLocalRecipient s root label .addRecipient).run.Runs t
        (.ok (record, secret, key)) ∧ Adds root record (.fidoAndLocal key) s s' := by
  obtain ⟨hauth, h⟩ := runs_add_ok hrun
  rw [Mutating.runs_except_bind_ok] at h
  obtain ⟨label', hlabel, h⟩ := h
  obtain ⟨-, rfl⟩ := validateDedicatedLabel_eq_ok.mp hlabel
  rw [Mutating.runs_lift_bind_ok] at h
  obtain ⟨t₁, ⟨record, secret, key⟩, t₂, rfl, henroll, h⟩ := h
  rw [Mutating.runs_except_bind_ok] at h
  obtain ⟨staged, hstage, h⟩ := h
  obtain ⟨rfl, hreply, rfl⟩ := runs_assign_ok h
  rw [List.append_nil]
  exact ⟨hauth, record, secret, key, hreply, henroll, stageRecord_eq_ok hstage⟩

omit [Primitives] in
/-- Taking out the record at an index. -/
theorem eraseIdx_split (records : List RecipientRecord) (index : Fin records.length) :
    ∃ before after, records = before ++ records.get index :: after ∧
      records.eraseIdx index = before ++ after := by
  refine ⟨records.take index, records.drop (index + 1), ?_, ?_⟩
  · rw [List.get_eq_getElem, List.getElem_cons_drop, List.take_append_drop]
  · exact List.eraseIdx_eq_take_drop_succ records index

omit [Primitives] in
/-- Replacing the record at an index. -/
theorem set_split (records : List RecipientRecord) (index : Fin records.length)
    (replacement : RecipientRecord) :
    ∃ before after, records = before ++ records.get index :: after ∧
      records.set index replacement = before ++ replacement :: after := by
  refine ⟨records.take index, records.drop (index + 1), ?_, ?_⟩
  · rw [List.get_eq_getElem, List.getElem_cons_drop, List.take_append_drop]
  · exact List.set_eq_take_append_cons_drop ▸ if_pos index.isLt

theorem runs_removeRecipient_ok {id : RecipientId} {u : Unit}
    (h : (p.removeRecipient root id).Runs s t (.ok u) s') :
    p.Authenticates root s ∧ t = [] ∧ ∃ record, record.id = id ∧ Deletes record s s' ∧
      SameIdentity s s' ∧ Committed root s' := by
  rw [KeyProtector.removeRecipient, Mutating.runs_get_bind] at h
  simp only [Mutating.runs_except_bind_ok, requireApplication_eq_ok, except_mapError_eq_ok,
    require_eq_ok, Crypto.verifyEnvelopeMac_eq_ok] at h
  obtain ⟨-, happ, index, hindex, -, hmany, -, hmac, mac, hmac', staged, hcanon, -, -, h⟩ := h
  rw [Mutating.runs_set] at h
  obtain ⟨rfl, -, rfl⟩ := h
  obtain ⟨rfl, hcommitted⟩ := committed_of_canonicalize hmac' hcanon
  refine ⟨⟨happ, hmac⟩, rfl, s.recipients.get index, Search.binarySearchByKey_sound hindex,
    ⟨eraseIdx_split s.recipients index, ?_⟩, ⟨rfl, rfl⟩, hcommitted⟩
  exact List.length_pos_iff.mp hcommitted.wellFormed.nonempty

/-- What a rewrap establishes: its frame, the new envelope, and that the keys the replacement was
wrapped under give back the root. -/
structure Rewraps (root : RootKey) (current replacement : RecipientRecord) (keys : RecoveryKeys)
    (s s' : KeyEnvelope) : Prop where
  identity : SameIdentity s s'
  replaces : Replaces current replacement s s'
  committed : Committed root s'
  recovers : recoverWithKeys replacement s.applicationId s.envelopeId keys = .ok root

theorem runs_rewrapPassphraseInner_ok {id : RecipientId} {parameters : PassphraseParameters}
    {u : Unit} (h : (p.rewrapPassphraseInner root id parameters).Runs s t (.ok u) s') :
    p.Authenticates root s ∧ ∃ current replacement keys, s.find id = .ok current ∧
      (p.rewrapRecord s root current parameters).run.Runs t (.ok (replacement, keys)) ∧
        Rewraps root current replacement keys s s' := by
  rw [KeyProtector.rewrapPassphraseInner, Mutating.runs_get_bind] at h
  simp only [Mutating.runs_except_bind_ok, requireApplication_eq_ok,
    Crypto.verifyEnvelopeMac_eq_ok] at h
  obtain ⟨-, happ, current, hfind, -, -, -, hmac, -, -, h⟩ := h
  rw [Mutating.runs_lift_bind_ok] at h
  obtain ⟨t₁, ⟨replacement, keys⟩, t₂, rfl, hrewrap, h⟩ := h
  simp only [Mutating.runs_except_bind_ok, except_mapError_eq_ok, Mutating.runs_set] at h
  obtain ⟨index, hindex, staged, hstage, rfl, -, rfl⟩ := h
  -- the selection and the replacement use one search of one list
  have hcurrent : s.recipients.get index = current := by
    unfold KeyEnvelope.find at hfind
    rw [hindex] at hfind
    cases hfind
    rfl
  obtain ⟨before, after, hold, hnew⟩ := set_split s.recipients index replacement
  rw [hcurrent] at hold
  have hid : current.id = id := (find_sound hfind).2
  have hsame : replacement.id = current.id := (enrolled_rewrapRecord hrewrap).1
  obtain ⟨⟨mac, rfl⟩, hcommitted, found, hfound, hrecovers⟩ := stageExistingRecord_eq_ok hstage
  have hmem : replacement ∈ s.recipients.set index replacement := by
    rw [hnew]
    exact List.mem_append_right before List.mem_cons_self
  have hself := find_of_mem hcommitted.wellFormed.ascending hmem
  rw [hsame, hid, hfound] at hself
  cases hself
  rw [List.append_nil]
  exact ⟨⟨happ, hmac⟩, current, replacement, keys, hfind, hrewrap, ⟨rfl, rfl⟩,
    ⟨hsame, before, after, hold, hnew⟩, hcommitted, hrecovers⟩

theorem runs_rewrapPassphrase_ok {id : RecipientId} {u : Unit}
    (h : (p.rewrapPassphrase root id).Runs s t (.ok u) s') :
    ∃ record parameters, s.find id = .ok record ∧ record.passphraseParameters = some parameters ∧
      (p.rewrapPassphraseInner root id parameters).Runs s t (.ok u) s' := by
  rw [KeyProtector.rewrapPassphrase, Mutating.runs_get_bind] at h
  simp only [Mutating.runs_except_bind_ok, okOr_eq_ok] at h
  obtain ⟨-, -, record, hfind, parameters, hparameters, h⟩ := h
  exact ⟨record, parameters, hfind, hparameters, h⟩

/-- Both rewraps: without requested parameters, and with them. -/
def KeyProtector.rewrap (p : KeyProtector) (root : RootKey) (recipient : RecipientId) :
    Option PassphraseParameters → HostMut Unit
  | none => p.rewrapPassphrase root recipient
  | some parameters => p.rewrapPassphraseWithParameters root recipient parameters

/-- A success replaced the record that `id` found. -/
theorem rewrapped_of_ok {id : RecipientId} {requested : Option PassphraseParameters} {u : Unit}
    (h : (p.rewrap root id requested).Runs s t (.ok u) s') :
    ∃ current replacement, s.find id = .ok current ∧ Replaces current replacement s s' ∧
      SameIdentity s s' ∧ Rewrapped s requested current replacement := by
  cases requested with
  | some parameters =>
      obtain ⟨-, current, replacement, keys, hfind, hrewrap, hrewraps⟩ :=
        runs_rewrapPassphraseInner_ok h
      exact ⟨current, replacement, hfind, hrewraps.replaces, hrewraps.identity,
        rewrapped_of_runs hrewrap⟩
  | none =>
      obtain ⟨record, parameters, hrecord, hparameters, h⟩ := runs_rewrapPassphrase_ok h
      obtain ⟨-, current, replacement, keys, hfind, hrewrap, hrewraps⟩ :=
        runs_rewrapPassphraseInner_ok h
      obtain rfl : current = record := Except.ok.inj (hfind.symm.trans hrecord)
      have hcopy := rewrapped_of_runs hrewrap
      refine ⟨current, replacement, hfind, hrewraps.replaces, hrewraps.identity, ?_⟩
      -- the parameters passed on are the ones the record has
      exact { hcopy with parameters := hcopy.parameters.trans hparameters.symm }

end Updates

/-! ## Every update -/

/-- One call of an update on the caller's envelope. -/
inductive Mutation where
  | addRecipient (root : RootKey) (enrollment : Enrollment)
  | addRecoverySecret (root : RootKey) (label : String)
  | addFidoAndLocalSecret (root : RootKey) (label : String)
  | removeRecipient (root : RootKey) (recipient : RecipientId)
  | rewrapPassphrase (root : RootKey) (recipient : RecipientId)
  | rewrapPassphraseWithParameters (root : RootKey) (recipient : RecipientId)
      (parameters : PassphraseParameters)

namespace Mutation

/-- What the call returns. -/
@[reducible] def Reply : Mutation → Type
  | addRecipient .. => RecipientId
  | addRecoverySecret .. => RecoverySecretRecipient
  | addFidoAndLocalSecret .. => LocalSecretRecipient
  | removeRecipient .. | rewrapPassphrase .. | rewrapPassphraseWithParameters .. => Unit

/-- The root the caller presents. -/
def root : Mutation → RootKey
  | addRecipient root _ | addRecoverySecret root _ | addFidoAndLocalSecret root _
  | removeRecipient root _ | rewrapPassphrase root _
  | rewrapPassphraseWithParameters root _ _ => root

/-- The call as a program. -/
def program (p : KeyProtector) : (m : Mutation) → HostMut m.Reply
  | addRecipient root enrollment => p.addRecipient root enrollment
  | addRecoverySecret root label => p.addRecoverySecret root label
  | addFidoAndLocalSecret root label => p.addFidoAndLocalSecret root label
  | removeRecipient root id => p.removeRecipient root id
  | rewrapPassphrase root id => p.rewrapPassphrase root id
  | rewrapPassphraseWithParameters root id parameters =>
    p.rewrapPassphraseWithParameters root id parameters

/-- **`Frame`** — how the recipients may differ after a success: one insertion of a record with
the returned id, one deletion, or one replacement in place by the rewrapped record. -/
def Frame (s s' : KeyEnvelope) : (m : Mutation) → m.Reply → Prop
  | addRecipient _ _, id => ∃ record, record.id = id ∧ Inserts record s s'
  | addRecoverySecret _ _, reply => ∃ record, record.id = reply.id ∧ Inserts record s s'
  | addFidoAndLocalSecret _ _, reply => ∃ record, record.id = reply.id ∧ Inserts record s s'
  | removeRecipient _ id, _ => ∃ record, record.id = id ∧ Deletes record s s'
  | rewrapPassphrase _ id, _ =>
    ∃ record replacement, record.id = id ∧ Replaces record replacement s s' ∧
      Rewrapped s none record replacement
  | rewrapPassphraseWithParameters _ id parameters, _ =>
    ∃ record replacement, record.id = id ∧ Replaces record replacement s s' ∧
      Rewrapped s (some parameters) record replacement

/-- After a failure the envelope is the one passed in; after a success only the frame changed. -/
def Outcome (m : Mutation) (s : KeyEnvelope) (r : Result m.Reply) (s' : KeyEnvelope) : Prop :=
  match r with
  | .error _ => s' = s
  | .ok reply => SameIdentity s s' ∧ m.Frame s s' reply

end Mutation

/-! Nothing after the assignment can fail, and nothing before it writes. -/

section Transactions

variable (p : KeyProtector) (root : RootKey) (s : KeyEnvelope)

/-- The head of the three additions: two checks. -/
theorem transacts_add {α : Type} {f : KeyEnvelope → HostMut α}
    (hf : Mutating.Transacts (f s) s) :
    Mutating.Transacts (do
      let envelope ← get
      p.requireAuthenticated envelope root
      require (envelope.recipients.length < maxRecipients) Error.tooManyRecipients
      f envelope : HostMut α) s := by
  apply Mutating.transacts_get_bind
  refine Mutating.transacts_except_bind fun _ => ?_
  refine Mutating.transacts_except_bind fun _ => ?_
  exact hf

theorem transacts_addRecipient (enrollment : Enrollment) :
    Mutating.Transacts (p.addRecipient root enrollment) s := by
  apply transacts_add
  refine Mutating.transacts_except_bind fun _ => ?_
  refine Mutating.transacts_lift_bind fun enrolled => ?_
  refine Mutating.transacts_lift_bind fun staged => ?_
  exact Mutating.transacts_set_pure

theorem transacts_addRecoverySecret (label : String) :
    Mutating.Transacts (p.addRecoverySecret root label) s := by
  apply transacts_add
  refine Mutating.transacts_except_bind fun label' => ?_
  refine Mutating.transacts_lift_bind fun enrolled => ?_
  refine Mutating.transacts_except_bind fun staged => ?_
  exact Mutating.transacts_set_pure

theorem transacts_addFidoAndLocalSecret (label : String) :
    Mutating.Transacts (p.addFidoAndLocalSecret root label) s := by
  apply transacts_add
  refine Mutating.transacts_except_bind fun label' => ?_
  refine Mutating.transacts_lift_bind fun enrolled => ?_
  refine Mutating.transacts_except_bind fun staged => ?_
  exact Mutating.transacts_set_pure

theorem transacts_removeRecipient (id : RecipientId) :
    Mutating.Transacts (p.removeRecipient root id) s := by
  apply Mutating.transacts_get_bind
  iterate 7 refine Mutating.transacts_except_bind fun _ => ?_
  exact Mutating.transacts_set

theorem transacts_rewrapPassphraseInner (id : RecipientId) (parameters : PassphraseParameters) :
    Mutating.Transacts (p.rewrapPassphraseInner root id parameters) s := by
  apply Mutating.transacts_get_bind
  iterate 5 refine Mutating.transacts_except_bind fun _ => ?_
  refine Mutating.transacts_lift_bind fun rewrapped => ?_
  refine Mutating.transacts_except_bind fun index => ?_
  refine Mutating.transacts_except_bind fun staged => ?_
  exact Mutating.transacts_set

theorem transacts_rewrapPassphrase (id : RecipientId) :
    Mutating.Transacts (p.rewrapPassphrase root id) s := by
  apply Mutating.transacts_get_bind
  refine Mutating.transacts_except_bind fun _ => ?_
  refine Mutating.transacts_except_bind fun record => ?_
  refine Mutating.transacts_except_bind fun parameters => ?_
  exact transacts_rewrapPassphraseInner p root s id parameters

theorem transacts_mutation (m : Mutation) : Mutating.Transacts (m.program p) s := by
  cases m with
  | addRecipient root enrollment => exact transacts_addRecipient p root s enrollment
  | addRecoverySecret root label => exact transacts_addRecoverySecret p root s label
  | addFidoAndLocalSecret root label => exact transacts_addFidoAndLocalSecret p root s label
  | removeRecipient root id => exact transacts_removeRecipient p root s id
  | rewrapPassphrase root id => exact transacts_rewrapPassphrase p root s id
  | rewrapPassphraseWithParameters root id parameters =>
      exact transacts_rewrapPassphraseInner p root s id parameters

end Transactions

/-- The frame of a success. -/
theorem frame_of_ok {p : KeyProtector} {m : Mutation} {s s' : KeyEnvelope} {t : Trace host}
    {reply : m.Reply} (h : (m.program p).Runs s t (.ok reply) s') :
    SameIdentity s s' ∧ m.Frame s s' reply := by
  cases m with
  | addRecipient root enrollment =>
      obtain ⟨-, record, keys, managed, hid, -, hadds⟩ := runs_addRecipient_ok h
      exact ⟨hadds.identity, record, hid.symm, hadds.inserts⟩
  | addRecoverySecret root label =>
      obtain ⟨-, record, secret, key, rfl, -, hadds⟩ := runs_addRecoverySecret_ok h
      exact ⟨hadds.identity, record, rfl, hadds.inserts⟩
  | addFidoAndLocalSecret root label =>
      obtain ⟨-, record, secret, key, rfl, -, hadds⟩ := runs_addFidoAndLocalSecret_ok h
      exact ⟨hadds.identity, record, rfl, hadds.inserts⟩
  | removeRecipient root id =>
      obtain ⟨-, -, record, hid, hdeletes, hidentity, -⟩ := runs_removeRecipient_ok h
      exact ⟨hidentity, record, hid, hdeletes⟩
  | rewrapPassphrase root id =>
      have hrewrap : (p.rewrap root id none).Runs s t (.ok reply) s' := h
      obtain ⟨current, replacement, hfind, hreplaces, hidentity, hcopy⟩ := rewrapped_of_ok hrewrap
      exact ⟨hidentity, current, replacement, (find_sound hfind).2, hreplaces, hcopy⟩
  | rewrapPassphraseWithParameters root id parameters =>
      have hrewrap : (p.rewrap root id (some parameters)).Runs s t (.ok reply) s' := h
      obtain ⟨current, replacement, hfind, hreplaces, hidentity, hcopy⟩ := rewrapped_of_ok hrewrap
      exact ⟨hidentity, current, replacement, (find_sound hfind).2, hreplaces, hcopy⟩

/-- **Every update is a transaction with an exact frame**, for every envelope, root, argument and
reply. -/
theorem mutation_outcome (p : KeyProtector) (m : Mutation) {s s' : KeyEnvelope} {t : Trace host}
    {r : Result m.Reply} (h : (m.program p).Runs s t r s') : m.Outcome s r s' := by
  cases r with
  | error error => exact transacts_mutation p s m t error s' h
  | ok reply => exact frame_of_ok h

section Vectors

omit [Primitives]

open Framing

/-- A second recovery secret for the recovery-secret vector. -/
@[reducible] def recoveryAddition : Mutation :=
  .addRecoverySecret ⟨Vector.root⟩ Vector.addedRecord.label

/-- What the addition asks. -/
def recoveryAdditionTrace : @Trace (@host Vector.primitives) :=
  let _ := Vector.primitives
  ((StateT.run (recoveryAddition.program ⟨Vector.application, .desktop⟩).run
    Vector.recoveryEnvelope).exec (Vector.replay Vector.additionDraws) []).1

/-- The addition succeeds, and leaves the extended envelope. -/
theorem runs_recoveryAddition :
    @Mutating.Runs (@host Vector.primitives) _ _ _
      (@Mutation.program Vector.primitives ⟨Vector.application, .desktop⟩ recoveryAddition)
      Vector.recoveryEnvelope recoveryAdditionTrace
      (.ok ⟨Vector.addedRecord.id, ⟨Vector.addedSecret⟩⟩) Vector.extendedEnvelope := by
  let _ := Vector.primitives
  refine @Mutating.runs_of_exec (@host Vector.primitives) _ _ _ _ _ _
    (Vector.replay Vector.additionDraws) [] _ ?_
  decide +kernel

/-! The combined vector, rewrapped. -/

/-- What the rewrap of the combined vector draws: a repeated and a new PRF nonce, a repeated and a
new FIDO nonce, the old and a new salt, a new passphrase nonce. -/
def rewrapDraws : List Nat :=
  [0x808182838485868788898a8b8c8d8e8f909192939495969798999a9b9c9d9e9f, 1,
    0x707172737475767778797a7b, 2, 0xb0b1b2b3b4b5b6b7b8b9babbbcbdbebf, 3, 4]

/-- The inner ciphertext of the rewrapped record. -/
def rewrappedInner : Bytes 48 := Bytes.ofNat 48 5

/-- The combined record with what the rewrap drew. -/
def rewrappedRecord : FidoAndPassphraseRecipient where
  id := Vector.combinedRecord.id
  label := Vector.combinedRecord.label
  credentialId := Vector.combinedRecord.credentialId
  publicKey := Vector.combinedRecord.publicKey
  policy := Vector.combinedRecord.policy
  prfNonce := Bytes.ofNat 32 1
  fidoNonce := Bytes.ofNat 12 2
  kdf := { parameters := .desktop, salt := Bytes.ofNat 16 3 }
  passphraseNonce := Bytes.ofNat 12 4
  wrappedRoot := Bytes.ofNat 64 6

/-- The encryptions of that rewrap, under hashes that are all zero. -/
def rewrapRecording : Recording where
  points := [4 :: rewrappedRecord.publicKey.asBytes.toList]
  seals :=
    [{ key := Bytes.zero 32
       nonce := rewrappedRecord.passphraseNonce
       aad := frame [Vector.domain "combined_passphrase_aad", (Bytes.zero 32).toList]
       plaintext := Vector.root.toList
       ciphertext := rewrappedInner.toList.take 32
       tag := Bytes.ofNat 16 5 },
      { key := Bytes.zero 32
        nonce := rewrappedRecord.fidoNonce
        aad := frame [Vector.domain "combined_fido_aad", (Bytes.zero 32).toList]
        plaintext := rewrappedInner.toList
        ciphertext := rewrappedRecord.wrappedRoot.toList.take 48
        tag := Bytes.ofNat 16 6 }]
  argon2id := [((262144, 3, 4, Vector.passphrase, rewrappedRecord.kdf.salt), Bytes.zero 32)]

/-- The user and the authenticator of the combined vector, with a random source that plays back the
draws. -/
def rewrapEnvironment : let _ := rewrapRecording.primitives; Environment host :=
  let _ := rewrapRecording.primitives
  fun past query =>
    match query with
    | .random n => some (Bytes.ofNat n (rewrapDraws.getD past.length 0))
    | .reserve _ => true
    | .passphrase _ => .ok ⟨Vector.passphrase, Vector.passphrase_accepted⟩
    | .evaluate _ => { prompts := [], result := .ok Vector.combinedPrf }
    | .enroll .. => { prompts := [], result := .error .noCompatibleAuthenticator }
    | .enrollManaged .. | .evaluateManagedEnrollment .. | .cleanupManagedEnrollment ..
    | .verifyManaged _ | .retireManaged _ =>
      { prompts := [], result := .error .noCompatibleAuthenticator }

/-- The combined envelope under the MAC of the zero hashes, before and after. -/
def combinedBefore : KeyEnvelope := { Vector.combinedEnvelope with mac := Bytes.zero 32 }

/-- The envelope with the rewrapped record. -/
def combinedAfter : KeyEnvelope :=
  { combinedBefore with recipients := [.fidoAndPassphrase rewrappedRecord] }

/-- The rewrap with the parameters of the record. -/
def combinedRewrap : let _ := rewrapRecording.primitives; HostMut Unit :=
  let _ := rewrapRecording.primitives
  KeyProtector.rewrap ⟨Vector.application, .desktop⟩ ⟨Vector.root⟩ Vector.combinedRecord.id none

/-- What the rewrap asks. -/
def combinedRewrapTrace : @Trace (@host rewrapRecording.primitives) :=
  let _ := rewrapRecording.primitives
  ((StateT.run combinedRewrap.run combinedBefore).exec rewrapEnvironment []).1

/-- The rewrap succeeds although the random source repeats three old values. -/
theorem runs_combinedRewrap :
    @Mutating.Runs (@host rewrapRecording.primitives) _ _ _ combinedRewrap combinedBefore
      combinedRewrapTrace (.ok ()) combinedAfter := by
  let _ := rewrapRecording.primitives
  refine @Mutating.runs_of_exec (@host rewrapRecording.primitives) _ _ _ _ _ _
    rewrapEnvironment [] _ ?_
  decide +kernel

set_option maxRecDepth 3000 in
/-- The extended envelope is the recovery-secret vector with one more record; the rewrapped one is
the combined vector with its record replaced. -/
theorem recoveryEnvelope_extended :
    recoveryAddition.Outcome Vector.recoveryEnvelope
        (.ok ⟨Vector.addedRecord.id, ⟨Vector.addedSecret⟩⟩) Vector.extendedEnvelope ∧
      (Mutation.rewrapPassphrase ⟨Vector.root⟩ Vector.combinedRecord.id).Outcome combinedBefore
        (.ok ()) combinedAfter :=
  ⟨@mutation_outcome Vector.primitives ⟨Vector.application, .desktop⟩ recoveryAddition _ _ _ _
      runs_recoveryAddition,
    @mutation_outcome rewrapRecording.primitives ⟨Vector.application, .desktop⟩
      (.rewrapPassphrase ⟨Vector.root⟩ Vector.combinedRecord.id) _ _ _ _ runs_combinedRewrap⟩

end Vectors

end FidoKeyWrap
