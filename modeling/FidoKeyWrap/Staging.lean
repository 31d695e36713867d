/-
# FidoKeyWrap.Staging — what the protector admits, the decoder accepts.

Staging encodes the candidate envelope, decodes it and opens the record in it. Two sets of checks
meet there: the protector's own (`unique_recipient_id`, `unique_salt`, `validate_credential`, the
limit of 32 recipients) and those of the decoder. They are the same set: a record can be inserted
exactly when it is `Admissible` (`wellFormed_insertRecord_iff`), which is what every enrollment
establishes of the record it made. The record opens under the keys it was wrapped with, because
decryption inverts encryption. So an enrollment that got as far as its record is published: staging
never fails (`staging_never_fails`), and neither does the staging of a rewrap or of a removal.
-/
import FidoKeyWrap.History
import FidoKeyWrap.Rewrap

namespace FidoKeyWrap

open ByteData Interact

variable [Primitives]

/-! ## Unwrapping what was wrapped -/

namespace Crypto

variable (inverts : AeadInverts) {a : ApplicationId} {d : Bytes 32}

include inverts

theorem decryptFixed_of_encryptFixed {p c : Nat} {key : DerivedKey} {nonce : Bytes 12}
    {plaintext : Bytes p} {aad : ByteString} {out : Bytes c}
    (h : encryptFixed c key nonce plaintext aad = .ok out) :
    decryptFixed p key nonce out aad = .ok plaintext := by
  unfold encryptFixed at h
  split at h
  · rename_i hsize
    simp only [except_bind_eq_ok, require_eq_ok, okOr_eq_ok, except_pure_eq_ok, Prod.exists] at h
    obtain ⟨-, haccepts, body, tag, hcall, rfl⟩ := h
    have hbody : (body.toList ++ tag.toList).take p = body.toList := List.take_left' body.length_eq
    have htag : (body.toList ++ tag.toList).drop p = tag.toList := List.drop_left' body.length_eq
    unfold decryptFixed
    rw [dif_pos hsize]
    simp only [except_bind_eq_ok, require_eq_ok, okOr_eq_ok]
    refine ⟨(), haccepts, ?_⟩
    simp only [hbody, htag]
    exact inverts key.asBytes nonce aad plaintext body tag hcall
  · cases h

/-- The two halves of a layer around its context. -/
theorem decrypt_of_encrypt {p c : Nat} {context : Result (Bytes 32)} {domain : ByteString}
    {key : DerivedKey} {nonce : Bytes 12} {plaintext : Bytes p} {out : Bytes c}
    (h : (do
      let context ← context
      let aad ← Transcript.encode [domain, context.toList]
      encryptFixed c key nonce plaintext aad) = .ok out) :
    (do
      let context ← context
      let aad ← Transcript.encode [domain, context.toList]
      decryptFixed p key nonce out aad) = .ok plaintext := by
  simp only [except_bind_eq_ok] at h ⊢
  obtain ⟨context, hcontext, aad, haad, hout⟩ := h
  exact ⟨context, hcontext, aad, haad, decryptFixed_of_encryptFixed inverts hout⟩

/-- The same for a layer around a root. -/
theorem decryptRoot_of_encrypt {c : Nat} {context : Result (Bytes 32)} {domain : ByteString}
    {key : DerivedKey} {nonce : Bytes 12} {root : RootKey} {out : Bytes c}
    (h : (do
      let context ← context
      let aad ← Transcript.encode [domain, context.toList]
      encryptFixed c key nonce root.bytes aad) = .ok out) :
    (do
      let context ← context
      let aad ← Transcript.encode [domain, context.toList]
      let bytes ← decryptFixed rootBytes key nonce out aad
      return ⟨bytes⟩ : Result RootKey) = .ok root := by
  simp only [except_bind_eq_ok, except_pure_eq_ok] at h ⊢
  obtain ⟨context, hcontext, aad, haad, hout⟩ := h
  exact ⟨context, hcontext, aad, haad, _, decryptFixed_of_encryptFixed inverts hout, rfl⟩

variable {root : RootKey} {key : DerivedKey}

/-! No context reads the wrapped root, so the context of the finished record is the one it was
wrapped in. -/

theorem recover_passphrase {r : PassphraseRecipient} {out : Bytes 48}
    (h : wrapPassphraseRoot r a d root key = .ok out) :
    recoverWithKeys (.passphrase { r with wrappedRoot := out }) a d (.passphrase key) =
      .ok root :=
  decryptRoot_of_encrypt inverts h

theorem recover_recoverySecret {r : RecoverySecretRecord} {out : Bytes 48}
    (h : wrapRecoverySecretRoot r a d root key = .ok out) :
    recoverWithKeys (.recoverySecret { r with wrappedRoot := out }) a d (.recovery key) =
      .ok root :=
  decryptRoot_of_encrypt inverts h

theorem recover_fido {r : FidoRecipient} {out : Bytes 48}
    (h : wrapFidoRoot r a d root key = .ok out) :
    recoverWithKeys (.fido { r with wrappedRoot := out }) a d (.fido key) = .ok root :=
  decryptRoot_of_encrypt inverts h

theorem recover_fidoAndLocalSecret {r : FidoAndLocalSecretRecipient} {out : Bytes 48}
    (h : wrapFidoLocalRoot r a d root key = .ok out) :
    recoverWithKeys (.fidoAndLocalSecret { r with wrappedRoot := out }) a d (.fidoAndLocal key) =
      .ok root :=
  decryptRoot_of_encrypt inverts h

/-- The outer layer gives back the inner ciphertext, the inner layer the root. -/
theorem recover_combined {r : FidoAndPassphraseRecipient} {passphraseKey fidoKey : DerivedKey}
    {out : Bytes 64} (h : wrapCombinedRoot r a d root passphraseKey fidoKey = .ok out) :
    recoverWithKeys (.fidoAndPassphrase { r with wrappedRoot := out }) a d
      (.combined passphraseKey fidoKey) = .ok root := by
  simp only [wrapCombinedRoot, except_bind_eq_ok] at h
  obtain ⟨inner, hinner, houter⟩ := h
  have hopened : unwrapCombinedOuter { r with wrappedRoot := out } a d fidoKey = .ok inner :=
    decrypt_of_encrypt inverts houter
  have hroot : unwrapCombinedInner { r with wrappedRoot := out } a d inner passphraseKey =
      .ok root := decryptRoot_of_encrypt inverts hinner
  simp only [recoverWithKeys, except_bind_eq_ok]
  exact ⟨inner, hopened, hroot⟩

end Crypto

/-! ## Admission -/

/-- An envelope that a record can be added to: well-formed but for having a record at all, and with
room for one more. -/
structure KeyEnvelope.Extendable (e : KeyEnvelope) : Prop where
  room : e.recipients.length < maxRecipients
  ascending : e.recipients.Pairwise fun r s => r.id < s.id
  credentials : (e.recipients.filterMap RecipientRecord.credentialId).Nodup
  salts : (e.recipients.filterMap RecipientRecord.passphraseSalt).Nodup
  records : ∀ record ∈ e.recipients, record.Valid

theorem KeyEnvelope.WellFormed.extendable {e : KeyEnvelope} (h : e.WellFormed)
    (hroom : e.recipients.length < maxRecipients) : e.Extendable where
  room := hroom
  ascending := h.ascending
  credentials := h.credentials
  salts := h.salts
  records := h.records

theorem extendable_emptyEnvelope (p : KeyProtector) (envelopeId : Bytes 32) :
    (p.emptyEnvelope envelopeId).Extendable where
  room := by
    show 0 < 32
    decide
  ascending := .nil
  credentials := .nil
  salts := .nil
  records := fun _ h => by cases h

/-- **`Admissible e record`** — what the protector checks of a new record: an id, a credential and a
salt that no record of the envelope has, and fields within their bounds. -/
structure Admissible (e : KeyEnvelope) (record : RecipientRecord) : Prop where
  id : ∀ r ∈ e.recipients, r.id ≠ record.id
  credential : ∀ c, record.credentialId = some c → ∀ r ∈ e.recipients, r.credentialId ≠ some c
  salt : ∀ s, record.passphraseSalt = some s → ∀ r ∈ e.recipients, r.passphraseSalt ≠ some s
  valid : record.Valid

omit [Primitives] in
/-- A new value of `f` is distinct from the present ones. -/
theorem nodup_filterMap_cons_iff {β : Type} {f : RecipientRecord → Option β}
    {record : RecipientRecord} {records : List RecipientRecord} :
    ((record :: records).filterMap f).Nodup ↔
      (∀ b, f record = some b → ∀ r ∈ records, f r ≠ some b) ∧ (records.filterMap f).Nodup := by
  cases h : f record with
  | none => simp [h]
  | some b => simp [h]

omit [Primitives] in
/-- The records after the insertion ascend exactly when the ids before it are distinct. -/
theorem ascending_insertRecord_iff {e : KeyEnvelope} {record : RecipientRecord}
    (h : e.recipients.Pairwise fun r s => r.id < s.id) :
    (KeyProtector.insertRecord e record).recipients.Pairwise (fun r s => r.id < s.id) ↔
      ∀ r ∈ e.recipients, r.id ≠ record.id := by
  have hperm := perm_insertRecord e record
  have hdistinct : (KeyProtector.insertRecord e record).recipients.Pairwise (fun r s => r.id ≠ s.id) ↔
      ∀ r ∈ e.recipients, r.id ≠ record.id := by
    rw [hperm.pairwise_iff fun hne => Ne.symm hne, List.pairwise_cons]
    constructor
    · rintro ⟨hhead, -⟩ r hr
      exact (hhead r hr).symm
    · intro hne
      exact ⟨fun r hr => (hne r hr).symm, h.imp fun hlt => ne_of_lt hlt⟩
  rw [← hdistinct]
  constructor
  · exact fun hlt => hlt.imp fun hlt => ne_of_lt hlt
  · intro hne
    -- the sort is by `≤`, and distinct ids make that `<`
    have htotal : Std.Total fun r s : RecipientRecord => r.id ≤ s.id :=
      ⟨fun r s => le_total r.id s.id⟩
    have htrans : IsTrans RecipientRecord fun r s => r.id ≤ s.id :=
      ⟨fun r s t => le_trans⟩
    have hle : (KeyProtector.insertRecord e record).recipients.Pairwise fun r s => r.id ≤ s.id :=
      List.pairwise_insertionSort _ _
    exact (hle.and hne).imp fun h => lt_of_le_of_ne h.1 h.2

/-- **The two sets of checks are one**: an insertion into an extendable envelope is well-formed
exactly when its record is admissible. -/
theorem wellFormed_insertRecord_iff {e : KeyEnvelope} {record : RecipientRecord}
    (h : e.Extendable) :
    (KeyProtector.insertRecord e record).WellFormed ↔ Admissible e record := by
  have hperm := perm_insertRecord e record
  have hmem (r : RecipientRecord) :
      r ∈ (KeyProtector.insertRecord e record).recipients ↔ r = record ∨ r ∈ e.recipients := by
    rw [hperm.mem_iff, List.mem_cons]
  have hcredentials := (hperm.filterMap RecipientRecord.credentialId).nodup_iff
  have hsalts := (hperm.filterMap RecipientRecord.passphraseSalt).nodup_iff
  rw [nodup_filterMap_cons_iff] at hcredentials hsalts
  constructor
  · intro hwell
    exact ⟨(ascending_insertRecord_iff h.ascending).mp hwell.ascending,
      (hcredentials.mp hwell.credentials).1, (hsalts.mp hwell.salts).1,
      hwell.records record ((hmem record).mpr (.inl rfl))⟩
  · intro hadmissible
    have hlength := hperm.length_eq
    rw [List.length_cons] at hlength
    refine ⟨ApplicationId.new_asStr _, ?_, ?_, (ascending_insertRecord_iff h.ascending).mpr
      hadmissible.id, hcredentials.mpr ⟨hadmissible.credential, h.credentials⟩,
      hsalts.mpr ⟨hadmissible.salt, h.salts⟩, fun r hr => ?_⟩
    · omega
    · have hroom := h.room
      omega
    · rcases (hmem r).mp hr with rfl | hr
      · exact hadmissible.valid
      · exact h.records r hr

/-! ## Staging -/

/-- The keys are those of the record's suite. -/
def RecoveryKeys.Match : RecoveryKeys → RecipientRecord → Prop
  | .passphrase _, .passphrase _ | .recovery _, .recoverySecret _ | .fido _, .fido _
  | .fidoAndLocal _, .fidoAndLocalSecret _ | .combined _ _, .fidoAndPassphrase _ => True
  | _, _ => False

theorem match_of_recoverWithKeys {record : RecipientRecord} {a : ApplicationId} {d : Bytes 32}
    {keys : RecoveryKeys} {root : RootKey} (h : recoverWithKeys record a d keys = .ok root) :
    keys.Match record := by
  cases record <;> cases keys <;> trivial

/-- **`Staged root record keys staged`** — what the staging checked: the bytes fit and decode, the
record is found under its id, the keys of its suite recover the root, the MAC matches. -/
structure Staged (root : RootKey) (record : RecipientRecord) (keys : RecoveryKeys)
    (staged : KeyEnvelope) : Prop where
  size : staged.encode.length ≤ maxEnvelopeSize
  decodes : KeyEnvelope.decode staged.encode = .ok staged
  found : staged.find record.id = .ok record
  suite : keys.Match record
  recovered : recoverWithKeys record staged.applicationId staged.envelopeId keys = .ok root
  matched : Crypto.envelopeMacMatches staged root = .ok true

/-- What an enrollment or a rewrap made can be staged: the candidate is well-formed and holds the
record, and the keys recover the root. -/
structure Stageable (root : RootKey) (record : RecipientRecord) (keys : RecoveryKeys)
    (e : KeyEnvelope) : Prop where
  wellFormed : e.WellFormed
  mem : record ∈ e.recipients
  recovers : recoverWithKeys record e.applicationId e.envelopeId keys = .ok root

theorem KeyEnvelope.WellFormed.withMac {e : KeyEnvelope} (h : e.WellFormed) (mac : Bytes 32) :
    { e with mac : KeyEnvelope }.WellFormed :=
  ⟨h.application, h.nonempty, h.bounded, h.ascending, h.credentials, h.salts, h.records⟩

section Staging

variable (lawful : (Primitives.cbor : Cbor.Decoder).Lawful) (total : Primitives.HashesTotal)
  {root : RootKey} {record : RecipientRecord} {keys : RecoveryKeys} {e : KeyEnvelope}

include lawful total

/-- A well-formed candidate gets a MAC and is its own canonical form. -/
theorem canonicalize_total (hwell : e.WellFormed) (root : RootKey) :
    ∃ mac, Crypto.computeEnvelopeMac e root = .ok mac ∧
      canonicalize { e with mac } = .ok { e with mac } ∧
        Crypto.envelopeMacMatches { e with mac } root = .ok true := by
  obtain ⟨mac, hmac⟩ := Crypto.computeEnvelopeMac_total total hwell root
  refine ⟨mac, hmac, decode_encode lawful (hwell.withMac mac), ?_⟩
  rw [Crypto.envelopeMacMatches_eq_ok_true]
  exact (Crypto.computeEnvelopeMac_congr ⟨rfl, rfl, rfl⟩ root).trans hmac

/-- **What can be staged is staged.** -/
theorem stageExistingRecord_succeeds (h : Stageable root record keys e) :
    ∃ staged, KeyProtector.stageExistingRecord e record.id root keys = .ok staged ∧
      Staged root record keys staged := by
  obtain ⟨mac, hmac, hcanon, hmatched⟩ := canonicalize_total lawful total h.wellFormed root
  have hwell := h.wellFormed.withMac mac
  have hfind : { e with mac : KeyEnvelope }.find record.id = .ok record :=
    find_of_mem hwell.ascending h.mem
  have hroots : rootsMatch root root = true := decide_eq_true rfl
  refine ⟨{ e with mac }, ?_, length_encode_le hwell, hcanon, hfind,
    match_of_recoverWithKeys h.recovers, h.recovers, hmatched⟩
  simp only [KeyProtector.stageExistingRecord, except_bind_eq_ok]
  refine ⟨mac, hmac, _, hcanon, record, hfind, root, h.recovers, ?_⟩
  rw [if_pos hroots]
  exact except_bind_eq_ok.mpr ⟨true, hmatched, rfl⟩

end Staging

/-! ## What the checks of an enrollment establish -/

/-- The key that a credential came with is a point of P-256. -/
def ReturnsPoint : Event host → Prop
  | ⟨.enroll .., reply⟩ => ∀ credential,
    (show DeviceReply CredentialMaterial from reply).result = .ok credential →
      PublicKey64.new credential.publicKey.asBytes = .ok credential.publicKey
  | ⟨.enrollManaged .., reply⟩ => ∀ enrollment,
    (show DeviceReply ManagedEnrollment from reply).result = .ok enrollment →
      PublicKey64.new enrollment.credential.publicKey.asBytes = .ok enrollment.credential.publicKey
  | _ => True

/-- An id that was found is in no record. -/
theorem id_ne_of_uniqueRecipientId {e : KeyEnvelope} {t : Trace host} {id : RecipientId}
    (hascending : e.recipients.Pairwise fun r s => r.id < s.id)
    (h : (KeyProtector.uniqueRecipientId e).run.Runs t (.ok id)) :
    ∀ r ∈ e.recipients, r.id ≠ id := by
  rintro r hr rfl
  have haccept := attempts_accepts h
  rw [find_of_mem hascending hr] at haccept
  cases haccept

omit [Primitives] in
theorem validateCredential_eq_ok {e : KeyEnvelope} {c : ByteString} {u : Unit}
    (h : KeyProtector.validateCredential e c = .ok u) :
    (1 ≤ c.length ∧ c.length ≤ maxCredentialId) ∧ ∀ r ∈ e.recipients, r.credentialId ≠ some c := by
  have hchecks := require_eq_ok.mp h
  rw [not_or, not_or] at hchecks
  obtain ⟨hne, hle, hfresh⟩ := hchecks
  refine ⟨⟨List.length_pos_iff.mpr hne, not_lt.mp hle⟩, fun r hr hc => hfresh ?_⟩
  refine List.any_eq_true.mpr ⟨r, hr, ?_⟩
  cases r with
  | passphrase inner => cases hc
  | recoverySecret inner => cases hc
  | fido inner => exact beq_iff_eq.mpr (Option.some.inj hc)
  | fidoAndPassphrase inner => exact beq_iff_eq.mpr (Option.some.inj hc)
  | fidoAndLocalSecret inner => exact beq_iff_eq.mpr (Option.some.inj hc)

/-- A record without a credential. -/
theorem admissible_of_no_credential {e : KeyEnvelope} {record : RecipientRecord}
    (hid : ∀ r ∈ e.recipients, r.id ≠ record.id) (hcredential : record.credentialId = none)
    (hkey : record.publicKey = none)
    (hsalt : ∀ s, record.passphraseSalt = some s → ∀ r ∈ e.recipients, r.passphraseSalt ≠ some s)
    (hlabel : validateLabel record.label = true) : Admissible e record := by
  refine ⟨hid, fun c hc => ?_, hsalt, hlabel, fun c hc => ?_, fun key hk => ?_,
    fun p _ => PassphraseParameters.new_self p⟩
  · rw [hcredential] at hc
    cases hc
  · rw [hcredential] at hc
    cases hc
  · rw [hkey] at hk
    cases hk

/-- A record with a credential that was checked. -/
theorem admissible_of_credential {e : KeyEnvelope} {record : RecipientRecord} {c : ByteString}
    {key : PublicKey64} {u : Unit} (hid : ∀ r ∈ e.recipients, r.id ≠ record.id)
    (hcredential : record.credentialId = some c) (hkey : record.publicKey = some key)
    (hchecked : KeyProtector.validateCredential e c = .ok u)
    (hpoint : PublicKey64.new key.asBytes = .ok key)
    (hsalt : ∀ s, record.passphraseSalt = some s → ∀ r ∈ e.recipients, r.passphraseSalt ≠ some s)
    (hlabel : validateLabel record.label = true) : Admissible e record := by
  obtain ⟨hlength, hfresh⟩ := validateCredential_eq_ok hchecked
  refine ⟨hid, fun c' hc => ?_, hsalt,
    valid_of_fido_bearing hlabel hcredential hkey hlength hpoint⟩
  rw [hcredential] at hc
  cases hc
  exact hfresh

/-- **`Produced root e record keys`** — an enrollment on `e` made the record and its keys. -/
structure Produced (root : RootKey) (e : KeyEnvelope) (record : RecipientRecord)
    (keys : RecoveryKeys) : Prop where
  admissible : Admissible e record
  recovers : recoverWithKeys record e.applicationId e.envelopeId keys = .ok root

theorem Produced.stageable {root : RootKey} {e : KeyEnvelope} {record : RecipientRecord}
    {keys : RecoveryKeys} (h : Produced root e record keys) (hextendable : e.Extendable) :
    Stageable root record keys (KeyProtector.insertRecord e record) where
  wellFormed := (wellFormed_insertRecord_iff hextendable).mpr h.admissible
  mem := (perm_insertRecord e record).mem_iff.mpr List.mem_cons_self
  recovers := h.recovers

section Enrollments

variable (inverts : AeadInverts) {p : KeyProtector} {e : KeyEnvelope} {root : RootKey}
  {t : Trace host} {record : RecipientRecord} {keys : RecoveryKeys} {operation : Operation}
  {label : String}

omit [Primitives] in
/-- The suites without a salt. -/
theorem no_salt (h : record.passphraseSalt = none) :
    ∀ s, record.passphraseSalt = some s → ∀ r ∈ e.recipients, r.passphraseSalt ≠ some s := by
  intro s hs
  rw [h] at hs
  cases hs

/-- The suites with one. -/
theorem fresh_salt {u : Trace host} {salt : Bytes 16}
    (hsalt : (KeyProtector.uniqueSalt e).run.Runs u (.ok salt))
    (h : record.passphraseSalt = some salt) :
    ∀ s, record.passphraseSalt = some s → ∀ r ∈ e.recipients, r.passphraseSalt ≠ some s := by
  intro s hs
  rw [h] at hs
  cases hs
  exact passphraseSalt_ne_of_uniqueSalt hsalt

include inverts

/-- How the enrollment and the rewrap of a passphrase record end. -/
theorem recovers_passphraseTail {r : PassphraseRecipient}
    (h : (do
      let passphrase ← requestNewPassphrase operation r.label
      let key ← Crypto.derivePassphraseKey (.passphrase r) p.applicationId e.envelopeId passphrase
      let wrappedRoot ← Crypto.wrapPassphraseRoot r p.applicationId e.envelopeId root key
      return (.passphrase { r with wrappedRoot }, .passphrase key) :
        Host (RecipientRecord × RecoveryKeys)).run.Runs t (.ok (record, keys))) :
    (∃ wrappedRoot, record = .passphrase { r with wrappedRoot }) ∧
      recoverWithKeys record p.applicationId e.envelopeId keys = .ok root := by
  obtain ⟨t₁, x, u₁, rfl, -, h⟩ := Fallible.runs_bind_ok.mp h
  obtain ⟨t₂, key, u₂, rfl, -, h⟩ := Fallible.runs_bind_ok.mp h
  obtain ⟨wrapped, hwrapped, h⟩ := Fallible.runs_except_bind_ok.mp h
  obtain ⟨-, hreply⟩ := Fallible.runs_pure.mp h
  cases hreply
  exact ⟨⟨wrapped, rfl⟩, Crypto.recover_passphrase inverts hwrapped⟩

/-- How the enrollment and the rewrap of a combined record end. -/
theorem recovers_combinedTail {r : FidoAndPassphraseRecipient}
    (h : (do
      let prf ← p.evaluate (.fidoAndPassphrase r) e operation
      let fidoKey ← Crypto.deriveFidoKey (.fidoAndPassphrase r) p.applicationId e.envelopeId prf
      let passphrase ← requestNewPassphrase operation r.label
      let passphraseKey ← Crypto.derivePassphraseKey (.fidoAndPassphrase r) p.applicationId
        e.envelopeId passphrase
      let wrappedRoot ← Crypto.wrapCombinedRoot r p.applicationId e.envelopeId root passphraseKey
        fidoKey
      return (.fidoAndPassphrase { r with wrappedRoot }, .combined passphraseKey fidoKey) :
        Host (RecipientRecord × RecoveryKeys)).run.Runs t (.ok (record, keys))) :
    (∃ wrappedRoot, record = .fidoAndPassphrase { r with wrappedRoot }) ∧
      recoverWithKeys record p.applicationId e.envelopeId keys = .ok root := by
  obtain ⟨t₁, b, u₁, rfl, -, h⟩ := Fallible.runs_bind_ok.mp h
  obtain ⟨fidoKey, -, h⟩ := Fallible.runs_except_bind_ok.mp h
  obtain ⟨t₂, x, u₂, rfl, -, h⟩ := Fallible.runs_bind_ok.mp h
  obtain ⟨t₃, key, u₃, rfl, -, h⟩ := Fallible.runs_bind_ok.mp h
  obtain ⟨wrapped, hwrapped, h⟩ := Fallible.runs_except_bind_ok.mp h
  obtain ⟨-, hreply⟩ := Fallible.runs_pure.mp h
  cases hreply
  exact ⟨⟨wrapped, rfl⟩, Crypto.recover_combined inverts hwrapped⟩

/-! ## The enrollments -/

variable (hascending : e.recipients.Pairwise fun r s => r.id < s.id)
  (hlabel : validateLabel label = true) (hpoints : ∀ event ∈ t, ReturnsPoint event)

include hascending hlabel

theorem made_enrollPassphraseRecipient {parameters : PassphraseParameters}
    (happ : e.applicationId = p.applicationId)
    (h : (p.enrollPassphraseRecipient e root label parameters operation).run.Runs t
      (.ok (record, keys))) : Produced root e record keys := by
  unfold KeyProtector.enrollPassphraseRecipient at h
  obtain ⟨t₁, id, u₁, rfl, hid, h⟩ := Fallible.runs_bind_ok.mp h
  obtain ⟨t₂, salt, u₂, rfl, hsalt, h⟩ := Fallible.runs_bind_ok.mp h
  obtain ⟨t₃, nonce, u₃, rfl, -, h⟩ := Fallible.runs_bind_ok.mp h
  obtain ⟨⟨wrapped, rfl⟩, hrecovers⟩ := recovers_passphraseTail inverts
    (r := ⟨id, label, ⟨parameters, salt⟩, nonce, Bytes.zero 48⟩) h
  rw [← happ] at hrecovers
  exact ⟨admissible_of_no_credential (id_ne_of_uniqueRecipientId hascending hid) rfl rfl
    (fresh_salt hsalt rfl) hlabel, hrecovers⟩

theorem made_newRecoverySecretRecord {secret : RecoverySecret} {key : Crypto.DerivedKey}
    (h : (KeyProtector.newRecoverySecretRecord e root label).run.Runs t
      (.ok (record, secret, key))) : Produced root e record (.recovery key) := by
  unfold KeyProtector.newRecoverySecretRecord at h
  obtain ⟨t₁, drawn, u₁, rfl, -, h⟩ := Fallible.runs_bind_ok.mp h
  obtain ⟨t₂, id, u₂, rfl, hid, h⟩ := Fallible.runs_bind_ok.mp h
  obtain ⟨t₃, nonce, u₃, rfl, -, h⟩ := Fallible.runs_bind_ok.mp h
  obtain ⟨key', -, h⟩ := Fallible.runs_except_bind_ok.mp h
  obtain ⟨wrapped, hwrapped, h⟩ := Fallible.runs_except_bind_ok.mp h
  obtain ⟨-, hreply⟩ := Fallible.runs_pure.mp h
  cases hreply
  exact ⟨admissible_of_no_credential (id_ne_of_uniqueRecipientId hascending hid) rfl rfl
    (no_salt rfl) hlabel, Crypto.recover_recoverySecret inverts hwrapped⟩

include hpoints

theorem made_enrollFidoRecipient {policy : FidoPolicy} (happ : e.applicationId = p.applicationId)
    (h : (p.enrollFidoRecipient e root label policy operation).run.Runs t (.ok (record, keys))) :
    Produced root e record keys := by
  unfold KeyProtector.enrollFidoRecipient at h
  obtain ⟨reply, u₁, rfl, hrest⟩ := runs_ask_bind_ok.mp h
  obtain ⟨credential, hcredential, h⟩ := Fallible.runs_except_bind_ok.mp hrest
  obtain ⟨_, hchecked, h⟩ := Fallible.runs_except_bind_ok.mp h
  obtain ⟨t₂, id, u₂, rfl, hid, h⟩ := Fallible.runs_bind_ok.mp h
  obtain ⟨t₃, prfNonce, u₃, rfl, -, h⟩ := Fallible.runs_bind_ok.mp h
  obtain ⟨t₄, fidoNonce, u₄, rfl, -, h⟩ := Fallible.runs_bind_ok.mp h
  obtain ⟨t₅, b, u₅, rfl, -, h⟩ := Fallible.runs_bind_ok.mp h
  obtain ⟨key, -, h⟩ := Fallible.runs_except_bind_ok.mp h
  obtain ⟨wrapped, hwrapped, h⟩ := Fallible.runs_except_bind_ok.mp h
  obtain ⟨-, hreply⟩ := Fallible.runs_pure.mp h
  cases hreply
  have hpoint := hpoints _ List.mem_cons_self credential hcredential
  have hrecovers := Crypto.recover_fido inverts hwrapped
  rw [← happ] at hrecovers
  exact ⟨admissible_of_credential (id_ne_of_uniqueRecipientId hascending hid) rfl rfl hchecked
    hpoint (no_salt rfl) hlabel, hrecovers⟩

theorem made_enrollFidoLocalRecipient {secret : LocalSecret} {key : Crypto.DerivedKey}
    (happ : e.applicationId = p.applicationId)
    (h : (p.enrollFidoLocalRecipient e root label operation).run.Runs t
      (.ok (record, secret, key))) : Produced root e record (.fidoAndLocal key) := by
  unfold KeyProtector.enrollFidoLocalRecipient at h
  obtain ⟨t₁, id, u₁, rfl, hid, h⟩ := Fallible.runs_bind_ok.mp h
  obtain ⟨t₂, drawn, u₂, rfl, -, h⟩ := Fallible.runs_bind_ok.mp h
  obtain ⟨t₃, prfNonce, u₃, rfl, -, h⟩ := Fallible.runs_bind_ok.mp h
  obtain ⟨t₄, wrapNonce, u₄, rfl, -, h⟩ := Fallible.runs_bind_ok.mp h
  obtain ⟨reply, u₅, rfl, hrest⟩ := runs_ask_bind_ok.mp h
  obtain ⟨credential, hcredential, h⟩ := Fallible.runs_except_bind_ok.mp hrest
  obtain ⟨_, hchecked, h⟩ := Fallible.runs_except_bind_ok.mp h
  obtain ⟨t₆, b, u₆, rfl, -, h⟩ := Fallible.runs_bind_ok.mp h
  obtain ⟨key', -, h⟩ := Fallible.runs_except_bind_ok.mp h
  obtain ⟨wrapped, hwrapped, h⟩ := Fallible.runs_except_bind_ok.mp h
  obtain ⟨-, hreply⟩ := Fallible.runs_pure.mp h
  cases hreply
  have hpoint := hpoints ⟨.enroll p.applicationId .presence label operation, reply⟩ (by simp)
    credential hcredential
  have hrecovers := Crypto.recover_fidoAndLocalSecret inverts hwrapped
  rw [← happ] at hrecovers
  exact ⟨admissible_of_credential (id_ne_of_uniqueRecipientId hascending hid) rfl rfl hchecked
    hpoint (no_salt rfl) hlabel, hrecovers⟩

theorem made_enrollCombinedRecipient {policy : FidoPolicy} {parameters : PassphraseParameters}
    (happ : e.applicationId = p.applicationId)
    (h : (p.enrollCombinedRecipient e root label policy parameters operation).run.Runs t
      (.ok (record, keys))) : Produced root e record keys := by
  unfold KeyProtector.enrollCombinedRecipient at h
  obtain ⟨reply, u₁, rfl, hrest⟩ := runs_ask_bind_ok.mp h
  obtain ⟨credential, hcredential, h⟩ := Fallible.runs_except_bind_ok.mp hrest
  obtain ⟨_, hchecked, h⟩ := Fallible.runs_except_bind_ok.mp h
  obtain ⟨t₂, id, u₂, rfl, hid, h⟩ := Fallible.runs_bind_ok.mp h
  obtain ⟨t₃, prfNonce, u₃, rfl, -, h⟩ := Fallible.runs_bind_ok.mp h
  obtain ⟨t₄, fidoNonce, u₄, rfl, -, h⟩ := Fallible.runs_bind_ok.mp h
  obtain ⟨t₅, salt, u₅, rfl, hsalt, h⟩ := Fallible.runs_bind_ok.mp h
  obtain ⟨t₆, nonce, u₆, rfl, -, h⟩ := Fallible.runs_bind_ok.mp h
  obtain ⟨⟨wrapped, rfl⟩, hrecovers⟩ := recovers_combinedTail inverts
    (r := ⟨id, label, credential.credentialId, credential.publicKey, policy, prfNonce, fidoNonce,
      ⟨parameters, salt⟩, nonce, Bytes.zero 64⟩) h
  rw [← happ] at hrecovers
  have hpoint := hpoints _ List.mem_cons_self credential hcredential
  exact ⟨admissible_of_credential (id_ne_of_uniqueRecipientId hascending hid) rfl rfl hchecked
    hpoint (fresh_salt hsalt rfl) hlabel, hrecovers⟩

omit hascending hpoints in
/-- A managed enrollment has its id and its credential before the record is made. -/
theorem made_finishManagedFidoRecipient {id : RecipientId} {policy : FidoPolicy}
    {enrollment : ManagedEnrollment} (happ : e.applicationId = p.applicationId)
    (hid : ∀ r ∈ e.recipients, r.id ≠ id)
    (hpoint : PublicKey64.new enrollment.credential.publicKey.asBytes =
      .ok enrollment.credential.publicKey)
    (h : (p.finishManagedFidoRecipient e root id label policy operation enrollment).run.Runs t
      (.ok (record, keys))) : Produced root e record keys := by
  unfold KeyProtector.finishManagedFidoRecipient at h
  obtain ⟨_, hchecked, h⟩ := Fallible.runs_except_bind_ok.mp h
  obtain ⟨t₁, prfNonce, u₁, rfl, -, h⟩ := Fallible.runs_bind_ok.mp h
  obtain ⟨t₂, fidoNonce, u₂, rfl, -, h⟩ := Fallible.runs_bind_ok.mp h
  obtain ⟨input, -, h⟩ := Fallible.runs_except_bind_ok.mp h
  obtain ⟨t₃, reply, u₃, rfl, -, h⟩ := Fallible.runs_bind_ok.mp h
  obtain ⟨prf, -, h⟩ := Fallible.runs_except_bind_ok.mp h
  obtain ⟨key, -, h⟩ := Fallible.runs_except_bind_ok.mp h
  obtain ⟨wrapped, hwrapped, h⟩ := Fallible.runs_except_bind_ok.mp h
  obtain ⟨-, hreply⟩ := Fallible.runs_pure.mp h
  cases hreply
  have hrecovers := Crypto.recover_fido inverts hwrapped
  rw [← happ] at hrecovers
  exact ⟨admissible_of_credential hid rfl rfl hchecked hpoint (no_salt rfl) hlabel, hrecovers⟩

theorem made_enrollManagedFidoRecipient {policy : FidoPolicy}
    {managed : Option ManagedEnrollment} (happ : e.applicationId = p.applicationId)
    (h : (p.enrollManagedFidoRecipient e root label policy operation).run.Runs t
      (.ok (record, keys, managed))) : Produced root e record keys := by
  unfold KeyProtector.enrollManagedFidoRecipient at h
  obtain ⟨t₁, id, u₁, rfl, hid, h⟩ := Fallible.runs_bind_ok.mp h
  obtain ⟨reply, u₂, rfl, hrest⟩ := runs_ask_bind_ok.mp h
  obtain ⟨enrollment, henrollment, h⟩ := Fallible.runs_except_bind_ok.mp hrest
  obtain ⟨t₃, result, u₃, rfl, hfinish, h⟩ := Fallible.runs_bind_ok.mp h
  obtain ⟨result', hfinish, hresult⟩ := Fallible.runs_outcome.mp hfinish
  cases hresult
  have hpoint := hpoints ⟨.enrollManaged p.applicationId id policy label operation, reply⟩
    (by simp) enrollment henrollment
  cases result with
  | ok made =>
      obtain ⟨-, hreply⟩ := Fallible.runs_pure.mp h
      cases hreply
      exact made_finishManagedFidoRecipient inverts hlabel happ
        (id_ne_of_uniqueRecipientId hascending hid) hpoint hfinish
  | error error =>
      -- the cleanup always ends in an error
      obtain ⟨t₄, final, u₄, rfl, -, hthrow⟩ := Fallible.runs_bind_ok.mp h
      cases hthrow.2

/-- The policy selects the enrollment; the two with a dedicated operation make nothing here. -/
theorem made_enrollRecipient {enrollment : Enrollment} {managed : Option ManagedEnrollment}
    (hsame : enrollment.label = label) (happ : e.applicationId = p.applicationId)
    (h : (p.enrollRecipient e root enrollment operation).run.Runs t
      (.ok (record, keys, managed))) : Produced root e record keys := by
  subst hsame
  obtain ⟨label, policy, parameters⟩ := enrollment
  cases policy with
  | passphrase =>
      obtain ⟨q, -, h⟩ := Fallible.runs_except_bind_ok.mp h
      obtain ⟨t₁, made, t₂, rfl, hmade, h⟩ := Fallible.runs_bind_ok.mp h
      obtain ⟨rfl, hreply⟩ := Fallible.runs_pure.mp h
      cases hreply
      exact made_enrollPassphraseRecipient inverts hascending hlabel happ hmade
  | recoverySecret => cases h.2
  | fidoPresenceAndLocalSecret => cases h.2
  | fido policy =>
      obtain ⟨t₁, made, t₂, rfl, hmade, h⟩ := Fallible.runs_bind_ok.mp h
      obtain ⟨rfl, hreply⟩ := Fallible.runs_pure.mp h
      cases hreply
      rw [List.append_nil] at hpoints
      exact made_enrollFidoRecipient inverts hascending hlabel hpoints happ hmade
  | managedFido policy =>
      exact made_enrollManagedFidoRecipient inverts hascending hlabel hpoints happ h
  | fidoAndPassphrase policy =>
      obtain ⟨q, -, h⟩ := Fallible.runs_except_bind_ok.mp h
      obtain ⟨t₁, made, t₂, rfl, hmade, h⟩ := Fallible.runs_bind_ok.mp h
      obtain ⟨rfl, hreply⟩ := Fallible.runs_pure.mp h
      cases hreply
      rw [List.append_nil] at hpoints
      exact made_enrollCombinedRecipient inverts hascending hlabel hpoints happ hmade

end Enrollments

/-! ## Rewraps -/

/-- A replacement with the id, the credential and no salt of the others keeps the set valid. -/
theorem wellFormed_of_replaced {e : KeyEnvelope} {old new : RecipientRecord}
    {before after : List RecipientRecord} {requested : Option PassphraseParameters}
    (hwell : e.WellFormed) (hsplit : e.recipients = before ++ old :: after)
    (h : Rewrapped e requested old new) :
    { e with recipients := before ++ new :: after : KeyEnvelope }.WellFormed := by
  have hold : old ∈ e.recipients := by
    rw [hsplit]
    exact List.mem_append_right before List.mem_cons_self
  have hothers : ∀ r, r ∈ before ∨ r ∈ after → r ∈ e.recipients := by
    intro r hr
    rw [hsplit]
    rcases hr with hr | hr
    · exact List.mem_append_left _ hr
    · exact List.mem_append_right before (List.mem_cons_of_mem old hr)
  have hvalid := hwell.records old hold
  refine ⟨hwell.application, ?_, ?_, ?_, ?_, ?_, fun r hr => ?_⟩
  · rw [List.length_append, List.length_cons]
    omega
  · have hbounded := hwell.bounded
    rw [hsplit] at hbounded
    simpa using hbounded
  · -- the order is one of the ids, and those are unchanged
    have hascending := hwell.ascending
    rw [hsplit] at hascending
    have hids : (before ++ new :: after).map RecipientRecord.id =
        (before ++ old :: after).map RecipientRecord.id := by
      rw [List.map_append, List.map_append, List.map_cons, List.map_cons, h.id]
    have hmapped := List.pairwise_map (f := RecipientRecord.id) (R := (· < ·))
      (l := before ++ old :: after)
    rw [← hids] at hmapped
    exact List.pairwise_map.mp (hmapped.mpr hascending)
  · have hcredentials := hwell.credentials
    rw [hsplit] at hcredentials
    simp only [List.filterMap_append, List.filterMap_cons] at hcredentials ⊢
    rw [h.credentialId]
    exact hcredentials
  · have hsalts := hwell.salts
    rw [hsplit] at hsalts
    obtain ⟨salt, hnew, hfresh⟩ := h.salt
    have hrest : ((before ++ after).filterMap RecipientRecord.passphraseSalt).Nodup :=
      hsalts.sublist (((List.sublist_cons_self old after).append_left before).filterMap _)
    have hperm : (before ++ new :: after).Perm (new :: (before ++ after)) := List.perm_middle
    refine (hperm.filterMap _).nodup_iff.mpr (nodup_filterMap_cons_iff.mpr ⟨?_, hrest⟩)
    intro salt' hsalt' r hr
    rw [hnew] at hsalt'
    cases hsalt'
    exact hfresh r (hothers r (List.mem_append.mp hr))
  · rcases List.mem_append.mp hr with hr | hr
    · exact hwell.records r (hothers r (.inl hr))
    · rcases List.mem_cons.mp hr with rfl | hr
      · refine ⟨h.label ▸ hvalid.label, ?_, ?_, fun p _ => PassphraseParameters.new_self p⟩
        · rw [h.credentialId]
          exact hvalid.credential
        · rw [h.publicKey]
          exact hvalid.publicKey
      · exact hwell.records r (hothers r (.inr hr))

theorem recovers_rewrapRecord (inverts : AeadInverts) {p : KeyProtector} {e : KeyEnvelope}
    {root : RootKey} {current replacement : RecipientRecord} {parameters : PassphraseParameters}
    {keys : RecoveryKeys} {t : Trace host}
    (h : (p.rewrapRecord e root current parameters).run.Runs t (.ok (replacement, keys))) :
    recoverWithKeys replacement p.applicationId e.envelopeId keys = .ok root := by
  cases current with
  | passphrase old =>
      change (p.rewrapPassphraseRecord e root old parameters).run.Runs t _ at h
      unfold KeyProtector.rewrapPassphraseRecord at h
      obtain ⟨t₁, salt, u₁, rfl, -, h⟩ := Fallible.runs_bind_ok.mp h
      obtain ⟨t₂, nonce, u₂, rfl, -, h⟩ := Fallible.runs_bind_ok.mp h
      exact (recovers_passphraseTail inverts
        (r := ⟨old.id, old.label, ⟨parameters, salt⟩, nonce, Bytes.zero 48⟩) h).2
  | fidoAndPassphrase old =>
      change (p.rewrapCombinedRecord e root old parameters).run.Runs t _ at h
      unfold KeyProtector.rewrapCombinedRecord at h
      obtain ⟨t₁, prfNonce, u₁, rfl, -, h⟩ := Fallible.runs_bind_ok.mp h
      obtain ⟨t₂, fidoNonce, u₂, rfl, -, h⟩ := Fallible.runs_bind_ok.mp h
      obtain ⟨t₃, salt, u₃, rfl, -, h⟩ := Fallible.runs_bind_ok.mp h
      obtain ⟨t₄, nonce, u₄, rfl, -, h⟩ := Fallible.runs_bind_ok.mp h
      exact (recovers_combinedTail inverts
        (r := ⟨old.id, old.label, old.credentialId, old.publicKey, old.policy, prfNonce, fidoNonce,
          ⟨parameters, salt⟩, nonce, Bytes.zero 64⟩) h).2
  | _ => cases h.2

/-- **A rewrap can be staged**: its record takes the place of the old one. -/
theorem stageable_rewrap (inverts : AeadInverts) {p : KeyProtector} {e : KeyEnvelope}
    {root : RootKey} {id : RecipientId} {current replacement : RecipientRecord}
    {parameters : PassphraseParameters} {keys : RecoveryKeys} {t : Trace host}
    {index : Fin e.recipients.length} (hwell : e.WellFormed)
    (happ : e.applicationId = p.applicationId) (hfind : e.find id = .ok current)
    (hindex : Search.binarySearchByKey e.recipients id RecipientRecord.id = .ok index)
    (h : (p.rewrapRecord e root current parameters).run.Runs t (.ok (replacement, keys))) :
    replacement.id = id ∧
      Stageable root replacement keys { e with recipients := e.recipients.set index replacement } := by
  have hcurrent : e.recipients.get index = current := by
    unfold KeyEnvelope.find at hfind
    rw [hindex] at hfind
    exact Except.ok.inj hfind
  have hcopy := rewrapped_of_runs h
  obtain ⟨before, after, hsplit, hset⟩ := set_split e.recipients index replacement
  rw [hcurrent] at hsplit
  rw [hset]
  refine ⟨hcopy.id.trans (find_sound hfind).2, wellFormed_of_replaced hwell hsplit hcopy,
    List.mem_append_right before List.mem_cons_self, ?_⟩
  have hrecovers := recovers_rewrapRecord inverts h
  rwa [← happ] at hrecovers

/-! ## Staging never fails -/

/-- The envelopes a record is added to: one that the root authenticates and that has room, and the
staging envelope of a creation. -/
inductive Base (p : KeyProtector) (root : RootKey) : KeyEnvelope → Prop
  | authenticated {e : KeyEnvelope} : e.WellFormed → p.Authenticates root e →
      e.recipients.length < maxRecipients → Base p root e
  | creation (envelopeId : Bytes 32) : Base p root (p.emptyEnvelope envelopeId)

theorem Base.extendable {p : KeyProtector} {root : RootKey} {e : KeyEnvelope}
    (h : Base p root e) : e.Extendable := by
  cases h with
  | authenticated hwell hauth hroom => exact hwell.extendable hroom
  | creation envelopeId => exact extendable_emptyEnvelope p envelopeId

theorem Base.application {p : KeyProtector} {root : RootKey} {e : KeyEnvelope}
    (h : Base p root e) : e.applicationId = p.applicationId := by
  cases h with
  | authenticated hwell hauth hroom => exact hauth.1
  | creation envelopeId => rfl

/-- The record is staged. -/
def Stages (root : RootKey) (e : KeyEnvelope) (record : RecipientRecord) (keys : RecoveryKeys) :
    Prop :=
  ∃ staged, KeyProtector.stageRecord e record root keys = .ok staged ∧ Staged root record keys staged

section Main

variable (lawful : (Primitives.cbor : Cbor.Decoder).Lawful) (total : Primitives.HashesTotal)
  (inverts : AeadInverts)

include lawful total

theorem Produced.stages {root : RootKey} {e : KeyEnvelope} {record : RecipientRecord}
    {keys : RecoveryKeys} (h : Produced root e record keys) (hextendable : e.Extendable) :
    Stages root e record keys :=
  stageExistingRecord_succeeds lawful total (h.stageable hextendable)

/-- A removal that leaves a record can be staged. -/
theorem canonicalize_removed {e : KeyEnvelope} (hwell : e.WellFormed) (root : RootKey)
    (index : Fin e.recipients.length) (hmany : e.recipients.length ≠ 1) :
    ∃ mac, Crypto.computeEnvelopeMac
        { e with recipients := e.recipients.eraseIdx index } root = .ok mac ∧
      canonicalize { e with recipients := e.recipients.eraseIdx index, mac } =
        .ok { e with recipients := e.recipients.eraseIdx index, mac } ∧
      Crypto.verifyEnvelopeMac { e with recipients := e.recipients.eraseIdx index, mac } root =
        .ok () := by
  have hne : e.recipients.eraseIdx index ≠ [] := by
    intro hnil
    have hlength := congrArg List.length hnil
    rw [List.length_eraseIdx_of_lt index.isLt, List.length_nil] at hlength
    have hpos := hwell.nonempty
    omega
  have hremoved : { e with recipients := e.recipients.eraseIdx index : KeyEnvelope }.WellFormed :=
    wellFormed_of_sublist hwell (List.eraseIdx_sublist e.recipients index) hne
  obtain ⟨mac, hmac, hcanon, hmatched⟩ := canonicalize_total lawful total hremoved root
  refine ⟨mac, hmac, hcanon, ?_⟩
  rw [Crypto.verifyEnvelopeMac_eq_ok, ← Crypto.envelopeMacMatches_eq_ok_true]
  exact hmatched

include inverts

/-- **Staging never fails.** Every enrollment, on an envelope the root authenticates or at a
creation, stages the record it made; so does every rewrap, and what a removal leaves is its own
canonical form. -/
theorem staging_never_fails (p : KeyProtector) (root : RootKey) :
    (∀ e, Base p root e →
      (∀ enrollment operation t record keys managed, validateLabel enrollment.label = true →
        (∀ event ∈ t, ReturnsPoint event) →
          (p.enrollRecipient e root enrollment operation).run.Runs t
            (.ok (record, keys, managed)) → Stages root e record keys) ∧
      (∀ label t record secret key, validateLabel label = true →
        (KeyProtector.newRecoverySecretRecord e root label).run.Runs t
          (.ok (record, secret, key)) → Stages root e record (.recovery key)) ∧
      (∀ label operation t record secret key, validateLabel label = true →
        (∀ event ∈ t, ReturnsPoint event) →
          (p.enrollFidoLocalRecipient e root label operation).run.Runs t
            (.ok (record, secret, key)) → Stages root e record (.fidoAndLocal key))) ∧
    ∀ e, e.WellFormed → p.Authenticates root e → ∀ id index,
      Search.binarySearchByKey e.recipients id RecipientRecord.id = .ok index →
      (∀ current parameters t replacement keys, e.find id = .ok current →
        (p.rewrapRecord e root current parameters).run.Runs t (.ok (replacement, keys)) →
          ∃ staged, KeyProtector.stageExistingRecord
            { e with recipients := e.recipients.set index replacement } id root keys = .ok staged ∧
              Staged root replacement keys staged) ∧
      (e.recipients.length ≠ 1 → ∃ mac,
        Crypto.computeEnvelopeMac { e with recipients := e.recipients.eraseIdx index } root =
          .ok mac ∧
        canonicalize { e with recipients := e.recipients.eraseIdx index, mac } =
          .ok { e with recipients := e.recipients.eraseIdx index, mac } ∧
        Crypto.verifyEnvelopeMac { e with recipients := e.recipients.eraseIdx index, mac } root =
          .ok ()) := by
  refine ⟨fun e hbase => ⟨?_, ?_, ?_⟩, fun e hwell hauth id index hindex => ⟨?_, ?_⟩⟩
  · intro enrollment operation t record keys managed hlabel hpoints h
    have hmade := made_enrollRecipient inverts hbase.extendable.ascending hlabel hpoints rfl
      hbase.application h
    exact hmade.stages lawful total hbase.extendable
  · intro label t record secret key hlabel h
    have hmade := made_newRecoverySecretRecord inverts hbase.extendable.ascending hlabel h
    exact hmade.stages lawful total hbase.extendable
  · intro label operation t record secret key hlabel hpoints h
    have hmade := made_enrollFidoLocalRecipient inverts hbase.extendable.ascending hlabel hpoints
      hbase.application h
    exact hmade.stages lawful total hbase.extendable
  · intro current parameters t replacement keys hfind h
    obtain ⟨rfl, hstageable⟩ := stageable_rewrap inverts hwell hauth.1 hfind hindex h
    exact stageExistingRecord_succeeds lawful total hstageable
  · intro hmany
    exact canonicalize_removed lawful total hwell root index hmany

end Main

section Vectors

omit [Primitives]

set_option maxRecDepth 3000 in
/-- The second recovery secret of the vectors is staged. -/
theorem recoveryAddition_staged :
    let _ := Vector.primitives
    ∃ record secret key, Stages ⟨Vector.root⟩ Vector.recoveryEnvelope record (.recovery key) ∧
      record.id = Vector.addedRecord.id ∧ secret = (⟨Vector.addedSecret⟩ : RecoverySecret) := by
  let _ := Vector.primitives
  let p : KeyProtector := ⟨Vector.application, .desktop⟩
  obtain ⟨hauth, record, secret, key, hreply, hrun, -⟩ :=
    @runs_addRecoverySecret_ok Vector.primitives p ⟨Vector.root⟩ _ _ _ _ _ runs_recoveryAddition
  have hdecode : KeyEnvelope.decode Vector.recoveryEnvelope.encode = .ok Vector.recoveryEnvelope := by
    decide
  have hbase : Base p ⟨Vector.root⟩ Vector.recoveryEnvelope :=
    .authenticated (decode_sound hdecode).1 hauth (by decide)
  have inverts : AeadInverts := aeadInverts_of_recording Vector.recording (by decide)
  have hstaging := staging_never_fails Cbor.Decoder.reference_lawful Vector.recording.hashesTotal
    inverts p ⟨Vector.root⟩
  have hstages := (hstaging.1 _ hbase).2.1 Vector.addedRecord.label _ record secret key
    (by decide) hrun
  obtain ⟨hid, hsecret⟩ := RecoverySecretRecipient.mk.inj hreply
  exact ⟨record, secret, key, hstages, hid.symm, hsecret.symm⟩

end Vectors

end FidoKeyWrap
