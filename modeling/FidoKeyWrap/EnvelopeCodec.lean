/-
# FidoKeyWrap.EnvelopeCodec — decoding accepts exactly the encodings of well-formed envelopes.

`KeyEnvelope.WellFormed` lists what a decoded envelope is known to satisfy. Three facts make the
decoder exact. Every reader returns checked values (`decodeRecipient_valid`), so what is accepted
is well formed, and the final comparison makes the input the encoding of the result. Every reader
reads back what the encoder emitted for a valid value (`decodeRecipient_reads`), given a decoder
that reads the encoder's items. And the largest well-formed envelope stays below the size limit
(`length_encode_le`), so the limit rejects none.

The encoding also determines the envelope without any decoder: the items of a record are
self-delimiting (`encodeRecipient_append_inj`), which makes the canonical body injective
(`canonicalBody_injective`), lets the staging code conclude that what it decoded is what it
encoded (`decode_encode_eq`), and makes the encodings a prefix code (`encode_selfDelimiting`): the
decoder rejects every truncation and all trailing data.
-/
import FidoKeyWrap.Lib.PrefixCode
import FidoKeyWrap.Vector

namespace FidoKeyWrap

open ByteData Cbor Interact PrefixCode

variable [Primitives]

/-! ## Well-formed records and envelopes -/

/-- The public key of a FIDO-bearing record. -/
def RecipientRecord.publicKey : RecipientRecord → Option PublicKey64
  | .passphrase _ | .recoverySecret _ => none
  | .fido record => some record.publicKey
  | .fidoAndPassphrase record => some record.publicKey
  | .fidoAndLocalSecret record => some record.publicKey

/-- Every field of a record passes its own check. -/
structure RecipientRecord.Valid (record : RecipientRecord) : Prop where
  label : validateLabel record.label = true
  credential : ∀ credential, record.credentialId = some credential →
    1 ≤ credential.length ∧ credential.length ≤ maxCredentialId
  publicKey : ∀ key, record.publicKey = some key → PublicKey64.new key.asBytes = .ok key
  parameters : ∀ p, record.passphraseParameters = some p →
    PassphraseParameters.new p.memoryKib p.passes p.lanes = .ok p

/-- **`WellFormed`** — what format 1 requires of an envelope. -/
structure KeyEnvelope.WellFormed (e : KeyEnvelope) : Prop where
  application : ApplicationId.new e.applicationId.asStr = .ok e.applicationId
  nonempty : 1 ≤ e.recipients.length
  bounded : e.recipients.length ≤ maxRecipients
  ascending : e.recipients.Pairwise fun r s => r.id < s.id
  credentials : (e.recipients.filterMap RecipientRecord.credentialId).Nodup
  salts : (e.recipients.filterMap RecipientRecord.passphraseSalt).Nodup
  records : ∀ record ∈ e.recipients, record.Valid

/-! ## Selecting a record -/

omit [Primitives] in
theorem find_sound {e : KeyEnvelope} {id : RecipientId} {record : RecipientRecord}
    (h : e.find id = .ok record) : record ∈ e.recipients ∧ record.id = id := by
  unfold KeyEnvelope.find at h
  split at h
  · rename_i index hindex
    cases h
    exact ⟨List.get_mem _ _, Search.binarySearchByKey_sound hindex⟩
  · cases h

omit [Primitives] in
theorem find_error {e : KeyEnvelope} {id : RecipientId} {error : Error}
    (h : e.find id = .error error) : error = .recipientNotFound := by
  unfold KeyEnvelope.find at h
  split at h
  · cases h
  · cases h
    rfl

omit [Primitives] in
/-- Among ascending records the selection finds every one by its id. -/
theorem find_of_mem {e : KeyEnvelope} (hascending : e.recipients.Pairwise fun r s => r.id < s.id)
    {record : RecipientRecord} (h : record ∈ e.recipients) : e.find record.id = .ok record := by
  obtain ⟨index, hindex, hget⟩ := Search.binarySearchByKey_eq hascending h rfl
  unfold KeyEnvelope.find
  rw [hindex]
  exact congrArg Except.ok hget

/-! ## Readers return checked values -/

theorem publicKey_new_eq_ok {bytes : Bytes 64} {key : PublicKey64} :
    PublicKey64.new bytes = .ok key ↔
      key = ⟨bytes⟩ ∧ Primitives.sec1Accepts (4 :: bytes.toList) = true := by
  simp only [PublicKey64.new, except_bind_eq_ok, require_eq_ok, except_pure_eq_ok]
  constructor
  · rintro ⟨-, h, rfl⟩
    exact ⟨rfl, h⟩
  · rintro ⟨rfl, h⟩
    exact ⟨(), h, rfl⟩

theorem decodeLabel_valid {s s' : ByteString} {label : String}
    (h : decodeLabel.run s = .ok (label, s')) : validateLabel label = true := by
  simp only [decodeLabel, Reader.run_bind_eq_ok, Reader.run_lift_eq_ok, require_eq_ok,
    Reader.run_pure_eq_ok] at h
  obtain ⟨read, s₁, -, -, s₂, ⟨hvalid, rfl⟩, rfl, rfl⟩ := h
  exact hvalid

theorem decodeCredentialId_valid {s s' : ByteString} {credential : ByteString}
    (h : decodeCredentialId.run s = .ok (credential, s')) :
    1 ≤ credential.length ∧ credential.length ≤ maxCredentialId := by
  simp only [decodeCredentialId, Reader.run_bind_eq_ok, Reader.run_lift_eq_ok, require_eq_ok,
    Reader.run_pure_eq_ok] at h
  obtain ⟨read, s₁, -, -, s₂, ⟨hvalid, rfl⟩, rfl, rfl⟩ := h
  obtain ⟨hne, hle⟩ := not_or.mp hvalid
  exact ⟨List.length_pos_iff.mpr hne, not_lt.mp hle⟩

theorem decodePublicKey_valid {s s' : ByteString} {key : PublicKey64}
    (h : decodePublicKey.run s = .ok (key, s')) : PublicKey64.new key.asBytes = .ok key := by
  simp only [decodePublicKey, Reader.run_bind_eq_ok, Reader.run_lift_eq_ok] at h
  obtain ⟨bytes, s₁, -, hkey, rfl⟩ := h
  obtain ⟨rfl, -⟩ := publicKey_new_eq_ok.mp hkey
  exact hkey

theorem decodePassphraseRecipient_valid {s s' : ByteString} {record : RecipientRecord}
    (h : decodePassphraseRecipient.run s = .ok (record, s')) : record.Valid := by
  simp only [decodePassphraseRecipient, Reader.run_bind_eq_ok, Reader.run_pure_eq_ok] at h
  obtain ⟨id, _, -, label, _, hlabel, kdf, _, -, nonce, _, -, wrapped, _, -, rfl, -⟩ := h
  refine ⟨decodeLabel_valid hlabel, ?_, ?_, fun p _ => PassphraseParameters.new_self p⟩
  · simp [RecipientRecord.credentialId]
  · simp [RecipientRecord.publicKey]

theorem decodeRecoverySecretRecipient_valid {s s' : ByteString} {record : RecipientRecord}
    (h : decodeRecoverySecretRecipient.run s = .ok (record, s')) : record.Valid := by
  simp only [decodeRecoverySecretRecipient, Reader.run_bind_eq_ok, Reader.run_pure_eq_ok] at h
  obtain ⟨id, _, -, label, _, hlabel, nonce, _, -, wrapped, _, -, rfl, -⟩ := h
  refine ⟨decodeLabel_valid hlabel, ?_, ?_, fun p _ => PassphraseParameters.new_self p⟩
  · simp [RecipientRecord.credentialId]
  · simp [RecipientRecord.publicKey]

/-- A FIDO-bearing record is valid when its label, credential id and key are. -/
theorem valid_of_fido_bearing {record : RecipientRecord} {credential : ByteString}
    {key : PublicKey64} (hlabel : validateLabel record.label = true)
    (hid : record.credentialId = some credential) (hkey : record.publicKey = some key)
    (hcred : 1 ≤ credential.length ∧ credential.length ≤ maxCredentialId)
    (hnew : PublicKey64.new key.asBytes = .ok key) : record.Valid := by
  refine ⟨hlabel, fun c hc => ?_, fun k hk => ?_, fun p _ => PassphraseParameters.new_self p⟩
  · rw [hid] at hc
    cases hc
    exact hcred
  · rw [hkey] at hk
    cases hk
    exact hnew

theorem decodeFidoRecipient_valid {storage : FidoStorage} {s s' : ByteString}
    {record : RecipientRecord} (h : (decodeFidoRecipient storage).run s = .ok (record, s')) :
    record.Valid := by
  simp only [decodeFidoRecipient, Reader.run_bind_eq_ok, Reader.run_pure_eq_ok] at h
  obtain ⟨id, _, -, label, _, hlabel, credential, _, hcred, key, _, hkey, policy, _, -, prf, _, -,
    nonce, _, -, wrapped, _, -, rfl, -⟩ := h
  exact valid_of_fido_bearing (decodeLabel_valid hlabel) rfl rfl (decodeCredentialId_valid hcred)
    (decodePublicKey_valid hkey)

theorem decodeFidoAndPassphraseRecipient_valid {s s' : ByteString} {record : RecipientRecord}
    (h : decodeFidoAndPassphraseRecipient.run s = .ok (record, s')) : record.Valid := by
  simp only [decodeFidoAndPassphraseRecipient, Reader.run_bind_eq_ok, Reader.run_pure_eq_ok] at h
  obtain ⟨id, _, -, label, _, hlabel, credential, _, hcred, key, _, hkey, policy, _, -, prf, _, -,
    fidoNonce, _, -, kdf, _, -, nonce, _, -, wrapped, _, -, rfl, -⟩ := h
  exact valid_of_fido_bearing (decodeLabel_valid hlabel) rfl rfl (decodeCredentialId_valid hcred)
    (decodePublicKey_valid hkey)

theorem decodeFidoAndLocalSecretRecipient_valid {s s' : ByteString} {record : RecipientRecord}
    (h : decodeFidoAndLocalSecretRecipient.run s = .ok (record, s')) : record.Valid := by
  simp only [decodeFidoAndLocalSecretRecipient, Reader.run_bind_eq_ok, Reader.run_pure_eq_ok] at h
  obtain ⟨id, _, -, label, _, hlabel, credential, _, hcred, key, _, hkey, prf, _, -, nonce, _, -,
    wrapped, _, -, rfl, -⟩ := h
  exact valid_of_fido_bearing (decodeLabel_valid hlabel) rfl rfl (decodeCredentialId_valid hcred)
    (decodePublicKey_valid hkey)

theorem decodeRecipient_valid {s s' : ByteString} {record : RecipientRecord}
    (h : decodeRecipient.run s = .ok (record, s')) : record.Valid := by
  simp only [decodeRecipient, Reader.run_bind_eq_ok] at h
  obtain ⟨length, s₁, -, suite, s₂, -, h⟩ := h
  split_ifs at h
  · exact decodePassphraseRecipient_valid h
  · exact decodeRecoverySecretRecipient_valid h
  · exact decodeFidoRecipient_valid h
  · exact decodeFidoRecipient_valid h
  · exact decodeFidoAndPassphraseRecipient_valid h
  · exact decodeFidoAndLocalSecretRecipient_valid h
  · cases h

theorem decodeRecipients_valid {count : Nat} {s s' : ByteString} {records : List RecipientRecord}
    (h : (decodeRecipients count).run s = .ok (records, s')) :
    records.length = count ∧ ∀ record ∈ records, record.Valid := by
  induction count generalizing s s' records with
  | zero =>
      obtain ⟨rfl, -⟩ := Reader.run_pure_eq_ok.mp h
      simp
  | succ count ih =>
      simp only [decodeRecipients, Reader.run_bind_eq_ok, Reader.run_pure_eq_ok] at h
      obtain ⟨record, s₁, hrecord, rest, s₂, hrest, rfl, -⟩ := h
      obtain ⟨hlen, hvalid⟩ := ih hrest
      refine ⟨by simp [hlen], fun r hr => ?_⟩
      rcases List.mem_cons.mp hr with rfl | hr
      · exact decodeRecipient_valid hrecord
      · exact hvalid r hr

/-! ## The recipient set -/

omit [Primitives] in
/-- No two records share a present value of `f` exactly when the present values are distinct. -/
theorem pairwise_ne_iff_nodup {α β : Type} {f : α → Option β} {xs : List α} :
    xs.Pairwise (fun x y => ¬ ((f x).isSome ∧ f x = f y)) ↔ (xs.filterMap f).Nodup := by
  rw [List.Nodup, List.pairwise_filterMap]
  refine List.Pairwise.iff fun x y => ?_
  cases hx : f x with
  | none => simp
  | some a => cases hy : f y <;> simp

omit [Primitives] in
theorem validateRecipientSet_eq_ok {recipients : List RecipientRecord} {u : Unit} :
    validateRecipientSet recipients = .ok u ↔
      recipients.Pairwise (fun r s => r.id < s.id) ∧
        (recipients.filterMap RecipientRecord.credentialId).Nodup ∧
          (recipients.filterMap RecipientRecord.passphraseSalt).Nodup := by
  simp only [validateRecipientSet, except_bind_eq_ok, require_eq_ok, List.pairwise_and_iff,
    pairwise_ne_iff_nodup]
  rw [List.isChain_iff_pairwise]
  constructor
  · rintro ⟨-, hids, hcreds, hsalts⟩
    exact ⟨hids, hcreds, hsalts⟩
  · rintro ⟨hids, hcreds, hsalts⟩
    exact ⟨(), hids, hcreds, hsalts⟩

/-- Soundness of the decoder, whatever its CBOR reader does. -/
theorem decode_sound {input : ByteString} {e : KeyEnvelope} (h : KeyEnvelope.decode input = .ok e) :
    e.WellFormed ∧ input = e.encode ∧ e.encode.length ≤ maxEnvelopeSize := by
  simp only [KeyEnvelope.decode, except_bind_eq_ok, require_eq_ok, except_pure_eq_ok,
    Prod.exists] at h
  obtain ⟨-, hinput, envelope, unread, hfields, -, -, ⟨⟩, hset, -, hencode, rfl⟩ := h
  simp only [decodeFields, Reader.run_bind_eq_ok, Reader.run_lift_eq_ok, require_eq_ok,
    Reader.run_pure_eq_ok] at hfields
  obtain ⟨-, _, -, -, _, -, -, _, -, app, _, -, application, _, -, id, _, -, count, _, -, -, _,
    ⟨hcount, -⟩, recipients, _, hrecipients, mac, _, -, rfl, -⟩ := hfields
  obtain ⟨hlength, hvalid⟩ := decodeRecipients_valid hrecipients
  obtain ⟨hids, hcreds, hsalts⟩ := validateRecipientSet_eq_ok.mp hset
  refine ⟨⟨ApplicationId.new_asStr _, ?_, ?_, hids, hcreds, hsalts, hvalid⟩, hencode.symm, ?_⟩
  · simpa [hlength] using hcount.1
  · simpa [hlength] using hcount.2
  · rw [hencode]
    exact not_lt.mp (not_or.mp hinput).1

/-! ## Readers read back what the encoder emitted -/

section Completeness

variable (lawful : (Primitives.cbor : Decoder).Lawful)

include lawful

theorem reads_u8 (v : UInt8) :
    Reads (read Primitives.cbor.u8 Error.invalidEnvelope) [.u8 v] v :=
  Reads.of_method (lawful.u8 v)

theorem reads_u32 (v : UInt32) :
    Reads (read Primitives.cbor.u32 Error.invalidEnvelope) [.u32 v] v :=
  Reads.of_method (lawful.u32 v)

theorem reads_str {v : String} (h : (utf8 v).length < 256 ^ 8) :
    Reads (read Primitives.cbor.str Error.invalidEnvelope) [.str v] v :=
  Reads.of_method fun rest => lawful.str rest h

theorem reads_bytes {v : ByteString} (h : v.length < 256 ^ 8) :
    Reads (read Primitives.cbor.bytes Error.invalidEnvelope) [.bytes v] v :=
  Reads.of_method fun rest => lawful.bytes rest h

theorem definiteArrayLen_reads {n : Nat} (h : n < usizeLimit) :
    Reads definiteArrayLen [.array n] n := by
  have hn : n < 256 ^ 8 := by
    simp only [usizeLimit] at h
    norm_num
    omega
  refine Reads.cons (Reads.of_method fun rest => lawful.array rest hn) ?_
  exact Reads.lift (require_of h) (Reads.pure n)

theorem requireArray_reads {n : Nat} (h : n < usizeLimit) :
    Reads (requireArray n) [.array n] () := by
  refine Reads.cons (definiteArrayLen_reads lawful h) ?_
  intro rest
  exact Reader.run_lift_eq_ok.mpr ⟨require_of rfl, rfl⟩

theorem exactBytes_reads {n : Nat} (b : Bytes n) (h : n < 256 ^ 8) :
    Reads (exactBytes n) [.bytes b.toList] b := by
  refine Reads.cons (reads_bytes lawful (by rwa [b.length_eq])) ?_
  rw [Bytes.ofList?_toList]
  exact Reads.pure b

theorem decodeLabel_reads {label : String} (h : validateLabel label = true) :
    Reads decodeLabel [.str label] label := by
  have hlen := length_le_of_validateLabel h
  refine Reads.cons (reads_str lawful (by norm_num; omega)) ?_
  exact Reads.lift (require_of h) (Reads.pure label)

theorem decodeCredentialId_reads {credential : ByteString}
    (h : 1 ≤ credential.length ∧ credential.length ≤ maxCredentialId) :
    Reads decodeCredentialId [.bytes credential] credential := by
  have hle := h.2
  simp only [maxCredentialId] at hle
  refine Reads.cons (reads_bytes lawful (by norm_num; omega)) ?_
  refine Reads.lift (require_of ?_) (Reads.pure credential)
  exact not_or.mpr ⟨List.length_pos_iff.mp h.1, not_lt.mpr h.2⟩

theorem decodePublicKey_reads {key : PublicKey64} (h : PublicKey64.new key.asBytes = .ok key) :
    Reads decodePublicKey [.bytes key.asBytes.toList] key := by
  refine Reads.cons (exactBytes_reads lawful key.asBytes (by norm_num)) ?_
  intro rest
  exact Reader.run_lift_eq_ok.mpr ⟨h, rfl⟩

theorem decodePolicy_reads (policy : FidoPolicy) : Reads decodePolicy [.u8 policy.code] policy := by
  refine Reads.cons (reads_u8 lawful policy.code) ?_
  intro rest
  exact Reader.run_lift_eq_ok.mpr ⟨FidoPolicy.fromCode_code policy, rfl⟩

theorem decodeKdf_reads (kdf : KdfDescriptor) : Reads decodeKdf (encodeKdf kdf) kdf := by
  refine Reads.cons (requireArray_reads lawful (by decide)) ?_
  refine Reads.cons (reads_u8 lawful argon2idKdf) ?_
  refine Reads.lift (require_of rfl) ?_
  refine Reads.cons (reads_u32 lawful kdf.parameters.memoryKib) ?_
  refine Reads.cons (reads_u32 lawful kdf.parameters.passes) ?_
  refine Reads.cons (reads_u8 lawful kdf.parameters.lanes) ?_
  refine Reads.lift (PassphraseParameters.decode_self kdf.parameters) ?_
  exact Reads.cons (exactBytes_reads lawful kdf.salt (by norm_num)) (Reads.pure kdf)

theorem decodeRecipient_reads {record : RecipientRecord} (h : record.Valid) :
    Reads decodeRecipient (encodeRecipient record) record := by
  cases record with
  | passphrase record =>
      refine Reads.cons (definiteArrayLen_reads lawful (by decide)) ?_
      refine Reads.cons (reads_u8 lawful passphraseSuite) ?_
      rw [if_pos ⟨rfl, rfl⟩]
      refine Reads.cons (exactBytes_reads lawful record.id.asBytes (by norm_num)) ?_
      refine Reads.cons (decodeLabel_reads lawful h.label) ?_
      refine Reads.bind (decodeKdf_reads lawful record.kdf) ?_
      refine Reads.cons (exactBytes_reads lawful record.passphraseNonce (by norm_num)) ?_
      exact Reads.cons (exactBytes_reads lawful record.wrappedRoot (by norm_num)) (Reads.pure _)
  | recoverySecret record =>
      refine Reads.cons (definiteArrayLen_reads lawful (by decide)) ?_
      refine Reads.cons (reads_u8 lawful recoverySecretSuite) ?_
      rw [if_neg (by decide), if_pos ⟨rfl, rfl⟩]
      refine Reads.cons (exactBytes_reads lawful record.id.asBytes (by norm_num)) ?_
      refine Reads.cons (decodeLabel_reads lawful h.label) ?_
      refine Reads.cons (exactBytes_reads lawful record.recoveryNonce (by norm_num)) ?_
      exact Reads.cons (exactBytes_reads lawful record.wrappedRoot (by norm_num)) (Reads.pure _)
  | fido record =>
      have hfields : Reads (decodeFidoRecipient record.storage)
          [.bytes record.id.asBytes.toList, .str record.label, .bytes record.credentialId,
            .bytes record.publicKey.asBytes.toList, .u8 record.policy.code,
            .bytes record.prfNonce.toList, .bytes record.fidoNonce.toList,
            .bytes record.wrappedRoot.toList] (.fido record) := by
        refine Reads.cons (exactBytes_reads lawful record.id.asBytes (by norm_num)) ?_
        refine Reads.cons (decodeLabel_reads lawful h.label) ?_
        refine Reads.cons (decodeCredentialId_reads lawful (h.credential _ rfl)) ?_
        refine Reads.cons (decodePublicKey_reads lawful (h.publicKey _ rfl)) ?_
        refine Reads.cons (decodePolicy_reads lawful record.policy) ?_
        refine Reads.cons (exactBytes_reads lawful record.prfNonce (by norm_num)) ?_
        refine Reads.cons (exactBytes_reads lawful record.fidoNonce (by norm_num)) ?_
        exact Reads.cons (exactBytes_reads lawful record.wrappedRoot (by norm_num)) (Reads.pure _)
      refine Reads.cons (definiteArrayLen_reads lawful (by decide)) ?_
      refine Reads.cons (reads_u8 lawful _) ?_
      -- the suite code carries the storage
      cases hstorage : record.storage with
      | nonDiscoverable =>
          rw [if_neg (by decide), if_neg (by decide), if_pos ⟨rfl, rfl⟩, ← hstorage]
          exact hfields
      | managed =>
          rw [if_neg (by decide), if_neg (by decide), if_neg (by decide), if_pos ⟨rfl, rfl⟩,
            ← hstorage]
          exact hfields
  | fidoAndPassphrase record =>
      refine Reads.cons (definiteArrayLen_reads lawful (by decide)) ?_
      refine Reads.cons (reads_u8 lawful fidoAndPassphraseSuite) ?_
      rw [if_neg (by decide), if_neg (by decide), if_neg (by decide), if_neg (by decide),
        if_pos ⟨rfl, rfl⟩]
      refine Reads.cons (exactBytes_reads lawful record.id.asBytes (by norm_num)) ?_
      refine Reads.cons (decodeLabel_reads lawful h.label) ?_
      refine Reads.cons (decodeCredentialId_reads lawful (h.credential _ rfl)) ?_
      refine Reads.cons (decodePublicKey_reads lawful (h.publicKey _ rfl)) ?_
      refine Reads.cons (decodePolicy_reads lawful record.policy) ?_
      refine Reads.cons (exactBytes_reads lawful record.prfNonce (by norm_num)) ?_
      refine Reads.cons (exactBytes_reads lawful record.fidoNonce (by norm_num)) ?_
      refine Reads.bind (decodeKdf_reads lawful record.kdf) ?_
      refine Reads.cons (exactBytes_reads lawful record.passphraseNonce (by norm_num)) ?_
      exact Reads.cons (exactBytes_reads lawful record.wrappedRoot (by norm_num)) (Reads.pure _)
  | fidoAndLocalSecret record =>
      refine Reads.cons (definiteArrayLen_reads lawful (by decide)) ?_
      refine Reads.cons (reads_u8 lawful fidoAndLocalSecretSuite) ?_
      rw [if_neg (by decide), if_neg (by decide), if_neg (by decide), if_neg (by decide),
        if_neg (by decide), if_pos ⟨rfl, rfl⟩]
      refine Reads.cons (exactBytes_reads lawful record.id.asBytes (by norm_num)) ?_
      refine Reads.cons (decodeLabel_reads lawful h.label) ?_
      refine Reads.cons (decodeCredentialId_reads lawful (h.credential _ rfl)) ?_
      refine Reads.cons (decodePublicKey_reads lawful (h.publicKey _ rfl)) ?_
      refine Reads.cons (exactBytes_reads lawful record.prfNonce (by norm_num)) ?_
      refine Reads.cons (exactBytes_reads lawful record.wrapNonce (by norm_num)) ?_
      exact Reads.cons (exactBytes_reads lawful record.wrappedRoot (by norm_num)) (Reads.pure _)

theorem decodeRecipients_reads {records : List RecipientRecord}
    (h : ∀ record ∈ records, record.Valid) :
    Reads (decodeRecipients records.length) (records.flatMap encodeRecipient) records := by
  induction records with
  | nil => exact Reads.pure []
  | cons record records ih =>
      refine Reads.bind (decodeRecipient_reads lawful (h record (by simp))) ?_
      exact Reads.last (ih fun r hr => h r (by simp [hr])) (Reads.pure (record :: records))

end Completeness

/-! ## The size of an encoding -/

section Size

omit [Primitives]

/-- Heads of at most nine bytes and the content: a bound on a sequence of items. -/
theorem length_encodeAll_le (items : List Item) :
    (encodeAll items).length ≤ (items.map fun i => 9 + i.content.length).sum := by
  induction items with
  | nil => simp
  | cons i items ih =>
      simp only [encodeAll_cons, List.length_append, List.map_cons, List.sum_cons]
      exact Nat.add_le_add i.length_encode_le ih

theorem length_encodeRecipient_le [Primitives] {record : RecipientRecord} (h : record.Valid) :
    (encodeAll (encodeRecipient record)).length ≤ 1500 := by
  refine le_trans (length_encodeAll_le _) ?_
  have hlabel := length_le_of_validateLabel h.label
  have hcredential := fun c hc => (h.credential c hc).2
  simp only [maxCredentialId] at hcredential
  -- only the label and the credential id have a content of variable length
  cases record with
  | passphrase record =>
      simp only [RecipientRecord.label] at hlabel
      simp [encodeRecipient, encodeKdf, Item.content, Item.u8, Item.u32]
      omega
  | recoverySecret record =>
      simp only [RecipientRecord.label] at hlabel
      simp [encodeRecipient, Item.content, Item.u8]
      omega
  | fido record =>
      simp only [RecipientRecord.label] at hlabel
      have := hcredential _ rfl
      simp [encodeRecipient, Item.content, Item.u8]
      omega
  | fidoAndPassphrase record =>
      simp only [RecipientRecord.label] at hlabel
      have := hcredential _ rfl
      simp [encodeRecipient, encodeKdf, Item.content, Item.u8, Item.u32]
      omega
  | fidoAndLocalSecret record =>
      simp only [RecipientRecord.label] at hlabel
      have := hcredential _ rfl
      simp [encodeRecipient, Item.content, Item.u8]
      omega

theorem length_encodeRecipients_le [Primitives] {records : List RecipientRecord}
    (h : ∀ record ∈ records, record.Valid) :
    (encodeAll (records.flatMap encodeRecipient)).length ≤ 1500 * records.length := by
  induction records with
  | nil => simp
  | cons record records ih =>
      have hhead := length_encodeRecipient_le (h record (by simp))
      have htail := ih fun r hr => h r (by simp [hr])
      simp only [List.flatMap_cons, encodeAll_append, List.length_append, List.length_cons]
      omega

/-- The size limit rejects no well-formed envelope. -/
theorem length_encode_le [Primitives] {e : KeyEnvelope} (h : e.WellFormed) :
    e.encode.length ≤ maxEnvelopeSize := by
  have happ := e.applicationId.length_asBytes_le
  simp only [ApplicationId.asBytes] at happ
  have hrecords := length_encodeRecipients_le h.records
  have hbounded := h.bounded
  simp only [maxRecipients] at hbounded
  have hhead := length_encodeAll_le [.array 5, .u8 formatVersion, .str e.applicationId.asStr,
    .bytes e.envelopeId.toList, .array e.recipients.length]
  have hmac := length_encodeAll_le [.bytes e.mac.toList]
  simp only [List.map_cons, List.map_nil, List.sum_cons, List.sum_nil, Item.u8, Item.content,
    List.length_nil, Bytes.length_eq] at hhead hmac
  -- the magic, the fields before the records, the records, the MAC
  have hsplit : e.encode.length = 4 +
      (encodeAll [.array 5, .u8 formatVersion, .str e.applicationId.asStr,
        .bytes e.envelopeId.toList, .array e.recipients.length]).length +
      (encodeAll (e.recipients.flatMap encodeRecipient)).length +
      (encodeAll [.bytes e.mac.toList]).length := by
    have hmagic : magic.length = 4 := rfl
    simp only [KeyEnvelope.encode, KeyEnvelope.encodeFull, KeyEnvelope.encodeBodyFields,
      encodeAll_cons, encodeAll_append, encodeAll_nil, hmagic, List.length_append, List.length_nil,
      List.cons_append, List.nil_append]
    omega
  rw [hsplit, maxEnvelopeSize]
  simp only [Item.u8] at hhead ⊢
  omega

end Size

/-! ## The decoder is exact -/

/-- Completeness of the decoder, for a CBOR reader that reads the encoder's items. -/
theorem decode_encode (lawful : (Primitives.cbor : Decoder).Lawful) {e : KeyEnvelope}
    (h : e.WellFormed) : KeyEnvelope.decode e.encode = .ok e := by
  have hbounded := h.bounded
  simp only [maxRecipients] at hbounded
  have happ := e.applicationId.length_asBytes_le
  simp only [ApplicationId.asBytes] at happ
  -- one rule for each statement of the decoder: what it reads, the encoder wrote there
  have hfields : Reads decodeFields e.encodeFull e := by
    refine Reads.cons (requireArray_reads lawful (by decide)) ?_
    refine Reads.cons (reads_u8 lawful formatVersion) ?_
    refine Reads.lift (require_of rfl) ?_
    refine Reads.cons (reads_str lawful (by norm_num; omega)) ?_
    refine Reads.lift (except_mapError_eq_ok.mpr h.application) ?_
    refine Reads.cons (exactBytes_reads lawful e.envelopeId (by norm_num)) ?_
    refine Reads.cons (definiteArrayLen_reads lawful (by simp only [usizeLimit]; omega)) ?_
    refine Reads.lift (require_of ⟨h.nonempty, h.bounded⟩) ?_
    refine Reads.bind (decodeRecipients_reads lawful h.records) ?_
    exact Reads.last (exactBytes_reads lawful e.mac (by norm_num)) (Reads.pure e)
  have hrun : decodeFields.run (encodeAll e.encodeFull) = .ok (e, []) := by
    have := hfields []
    rwa [List.append_nil] at this
  have htake : e.encode.take magic.length = magic := List.take_left
  have hdrop : e.encode.drop magic.length = encodeAll e.encodeFull := List.drop_left
  simp only [KeyEnvelope.decode, except_bind_eq_ok, require_eq_ok, except_pure_eq_ok, Prod.exists]
  refine ⟨(), ?_, e, [], by rw [hdrop, hrun], (), rfl, (), ?_, (), rfl, rfl⟩
  · refine not_or.mpr ⟨not_lt.mpr (length_encode_le h), not_or.mpr ⟨?_, not_not.mpr htake⟩⟩
    simp [KeyEnvelope.encode]
  · exact validateRecipientSet_eq_ok.mpr ⟨h.ascending, h.credentials, h.salts⟩

/-! ## The encoding determines the envelope -/

section Injectivity

omit [Primitives]

/-- The items of a record are self-delimiting: the length of the array and the suite code select
the shape, and every shape has a fixed number of items. -/
theorem encodeRecipient_append_inj {r s : RecipientRecord} {is js : List Item}
    (h : encodeRecipient r ++ is = encodeRecipient s ++ js) : r = s ∧ is = js := by
  cases r <;> cases s <;>
    simp only [encodeRecipient, encodeKdf, List.cons_append, List.nil_append, List.cons.injEq,
      Item.array.injEq, Item.bytes.injEq, Item.str.injEq, Item.u8_inj, Item.u32_inj,
      Bytes.toList_inj, FidoPolicy.code_inj, Nat.reduceEqDiff, false_and, true_and,
      reduceCtorEq] at h
  case passphrase.passphrase a b =>
    obtain ⟨⟨id⟩, label, ⟨⟨m, p, l, _⟩, salt⟩, nonce, wrapped⟩ := a
    obtain ⟨⟨id'⟩, label', ⟨⟨m', p', l', _⟩, salt'⟩, nonce', wrapped'⟩ := b
    obtain ⟨rfl, rfl, rfl, rfl, rfl, rfl, rfl, rfl, rfl⟩ := h
    exact ⟨rfl, rfl⟩
  case recoverySecret.recoverySecret a b =>
    obtain ⟨⟨id⟩, label, nonce, wrapped⟩ := a
    obtain ⟨⟨id'⟩, label', nonce', wrapped'⟩ := b
    obtain ⟨rfl, rfl, rfl, rfl, rfl⟩ := h
    exact ⟨rfl, rfl⟩
  case fido.fido a b =>
    obtain ⟨⟨id⟩, label, cred, ⟨key⟩, policy, storage, prf, nonce, wrapped⟩ := a
    obtain ⟨⟨id'⟩, label', cred', ⟨key'⟩, policy', storage', prf', nonce', wrapped'⟩ := b
    obtain ⟨hsuite, rfl, rfl, rfl, rfl, rfl, rfl, rfl, rfl, rfl⟩ := h
    have hstorage : storage = storage' := by
      cases storage <;> cases storage' <;> simp [fidoSuite, managedFidoSuite] at hsuite ⊢
    exact ⟨by rw [hstorage], rfl⟩
  case fidoAndPassphrase.fidoAndPassphrase a b =>
    obtain ⟨⟨id⟩, label, cred, ⟨key⟩, policy, prf, fnonce, ⟨⟨m, p, l, _⟩, salt⟩, nonce, wrapped⟩ :=
      a
    obtain ⟨⟨id'⟩, label', cred', ⟨key'⟩, policy', prf', fnonce', ⟨⟨m', p', l', _⟩, salt'⟩, nonce',
      wrapped'⟩ := b
    obtain ⟨rfl, rfl, rfl, rfl, rfl, rfl, rfl, rfl, rfl, rfl, rfl, rfl, rfl, rfl⟩ := h
    exact ⟨rfl, rfl⟩
  case fidoAndLocalSecret.fidoAndLocalSecret a b =>
    obtain ⟨⟨id⟩, label, cred, ⟨key⟩, prf, nonce, wrapped⟩ := a
    obtain ⟨⟨id'⟩, label', cred', ⟨key'⟩, prf', nonce', wrapped'⟩ := b
    obtain ⟨rfl, rfl, rfl, rfl, rfl, rfl, rfl, rfl⟩ := h
    exact ⟨rfl, rfl⟩

theorem encodeRecipients_append_inj {rs ss : List RecipientRecord} {is js : List Item}
    (hlength : rs.length = ss.length)
    (h : rs.flatMap encodeRecipient ++ is = ss.flatMap encodeRecipient ++ js) :
    rs = ss ∧ is = js := by
  induction rs generalizing ss with
  | nil =>
      cases ss with
      | nil => exact ⟨rfl, h⟩
      | cons s ss => simp at hlength
  | cons r rs ih =>
      cases ss with
      | nil => simp at hlength
      | cons s ss =>
          simp only [List.flatMap_cons, List.append_assoc] at h
          obtain ⟨rfl, hrest⟩ := encodeRecipient_append_inj h
          obtain ⟨rfl, hjs⟩ := ih (by simpa using hlength) hrest
          exact ⟨rfl, hjs⟩

theorem encodeBodyFields_append_inj {e e' : KeyEnvelope} {is js : List Item}
    (h : e.encodeBodyFields ++ is = e'.encodeBodyFields ++ js) :
    e.applicationId = e'.applicationId ∧ e.envelopeId = e'.envelopeId ∧
      e.recipients = e'.recipients ∧ is = js := by
  simp only [KeyEnvelope.encodeBodyFields, List.cons_append, List.nil_append, List.cons.injEq,
    Item.str.injEq, Item.bytes.injEq, Item.array.injEq, Bytes.toList_inj, true_and] at h
  obtain ⟨happ, hid, hlength, hrest⟩ := h
  obtain ⟨hrecipients, his⟩ := encodeRecipients_append_inj hlength hrest
  exact ⟨ApplicationId.asBytes_inj.mp (congrArg utf8 happ), hid, hrecipients, his⟩

/-- Everything a record writes as a number is a machine integer. -/
theorem fixedArg_encodeRecipient (r : RecipientRecord) :
    ∀ i ∈ encodeRecipient r, i.fixedArg < 256 ^ 8 := by
  cases r <;>
    simp only [encodeRecipient, encodeKdf, List.cons_append, List.nil_append, List.forall_mem_cons,
      List.not_mem_nil, false_imp_iff, implies_true, Item.fixedArg_u8_lt, Item.fixedArg_u32_lt,
      Item.fixedArg_bytes, Item.fixedArg_str, Item.fixedArg_array, true_and, and_true] <;>
    norm_num

theorem length_le_length_encodeRecipients (records : List RecipientRecord) :
    records.length ≤ (records.flatMap encodeRecipient).length := by
  induction records with
  | nil => simp
  | cons r records ih =>
      have : 1 ≤ (encodeRecipient r).length := by
        cases r <;> simp [encodeRecipient]
      simp only [List.flatMap_cons, List.length_append, List.length_cons]
      omega

/-- The items of an envelope that fits the address space are all sized. -/
theorem encodeFull_sized {e : KeyEnvelope} (h : e.encode.length < 256 ^ 8) :
    ∀ i ∈ e.encodeFull, i.Sized := by
  have hlength : (encodeAll e.encodeFull).length < 256 ^ 8 := by
    simp only [KeyEnvelope.encode, List.length_append] at h
    omega
  have hcount : e.recipients.length ≤ (encodeAll e.encodeFull).length := by
    refine le_trans ?_ (length_le_length_encodeAll _)
    have := length_le_length_encodeRecipients e.recipients
    simp only [KeyEnvelope.encodeFull, KeyEnvelope.encodeBodyFields, List.length_cons,
      List.length_append]
    omega
  intro i hi
  -- of the numbers, only the recipient count has no machine type of its own
  refine Item.sized_of_mem hi ?_ hlength
  simp only [KeyEnvelope.encodeFull, KeyEnvelope.encodeBodyFields, List.cons_append,
    List.nil_append, List.mem_cons, List.mem_append, List.mem_flatMap, List.not_mem_nil,
    or_false] at hi
  rcases hi with rfl | rfl | rfl | rfl | rfl | ⟨r, -, hi⟩ | rfl
  · norm_num [Item.fixedArg]
  · exact Item.fixedArg_u8_lt _
  · norm_num [Item.fixedArg]
  · norm_num [Item.fixedArg]
  · exact lt_of_le_of_lt hcount hlength
  · exact fixedArg_encodeRecipient r i hi
  · norm_num [Item.fixedArg]

/-- The encoding of an envelope that fits the address space determines it. -/
theorem encode_injective {e e' : KeyEnvelope} (hlength : e.encode.length < 256 ^ 8)
    (h : e.encode = e'.encode) : e = e' := by
  have hitems : e.encodeFull = e'.encodeFull := by
    refine encodeAll_injective (encodeFull_sized hlength) (encodeFull_sized (h ▸ hlength)) ?_
    exact List.append_cancel_left h
  simp only [KeyEnvelope.encodeFull, List.cons.injEq, true_and] at hitems
  obtain ⟨happ, hid, hrecipients, hmac⟩ := encodeBodyFields_append_inj hitems
  simp only [List.cons.injEq, Item.bytes.injEq, Bytes.toList_inj, and_true] at hmac
  cases e
  cases e'
  simp_all

/-- **The canonical body is injective** on envelopes that fit the address space: nothing but the
MAC is left out of it. -/
theorem canonicalBody_injective {e e' : KeyEnvelope} (hlength : e.encode.length < 256 ^ 8)
    (hlength' : e'.encode.length < 256 ^ 8) (h : e.canonicalBody = e'.canonicalBody) :
    e.applicationId = e'.applicationId ∧ e.envelopeId = e'.envelopeId ∧
      e.recipients = e'.recipients := by
  have hsized : ∀ f : KeyEnvelope, f.encode.length < 256 ^ 8 → ∀ i ∈ f.encodeBody, i.Sized := by
    intro f hf i hi
    rcases List.mem_cons.mp hi with rfl | hi
    · norm_num [Item.Sized, Item.arg]
    · exact encodeFull_sized hf i (by simp [KeyEnvelope.encodeFull, hi])
  have hitems := encodeAll_injective (hsized e hlength) (hsized e' hlength') h
  simp only [KeyEnvelope.encodeBody, List.cons.injEq, true_and] at hitems
  rw [← List.append_nil e.encodeBodyFields, ← List.append_nil e'.encodeBodyFields] at hitems
  obtain ⟨happ, hid, hrecipients, -⟩ := encodeBodyFields_append_inj hitems
  exact ⟨happ, hid, hrecipients⟩

end Injectivity

/-- **The decoder is exact**: it accepts the encodings of the well-formed envelopes and nothing
else, and no well-formed envelope is too large. -/
theorem decode_eq_ok_iff (lawful : (Primitives.cbor : Decoder).Lawful) :
    (∀ (b : ByteString) (e : KeyEnvelope),
      KeyEnvelope.decode b = .ok e ↔ e.WellFormed ∧ b = e.encode) ∧
        ∀ e : KeyEnvelope, e.WellFormed → e.encode.length ≤ maxEnvelopeSize := by
  refine ⟨fun b e => ⟨fun h => ?_, ?_⟩, fun e => length_encode_le⟩
  · obtain ⟨hwell, hencode, -⟩ := decode_sound h
    exact ⟨hwell, hencode⟩
  · rintro ⟨hwell, rfl⟩
    exact decode_encode lawful hwell

omit [Primitives] in
/-- The recovery-secret vector, with the reference CBOR reader. -/
theorem decode_recoveryEnvelope :
    @KeyEnvelope.WellFormed Vector.primitives Vector.recoveryEnvelope ∧
      Vector.recoveryEnvelope.encode.length ≤ maxEnvelopeSize :=
  letI := Vector.primitives
  have hexact := decode_eq_ok_iff Decoder.reference_lawful
  have hwell := ((hexact.1 Vector.recoveryEnvelope.encode Vector.recoveryEnvelope).mp
    (by decide +kernel)).1
  ⟨hwell, hexact.2 _ hwell⟩

/-- Decoding an encoding returns the envelope that was encoded, whatever the CBOR reader does. -/
theorem decode_encode_eq {e e' : KeyEnvelope} (h : KeyEnvelope.decode e.encode = .ok e') :
    e' = e := by
  obtain ⟨-, hencode, hlength⟩ := decode_sound h
  refine (encode_injective ?_ hencode).symm
  rw [hencode]
  simp only [maxEnvelopeSize] at hlength
  exact lt_of_le_of_lt hlength (by norm_num)

/-! ## The encodings are a prefix code -/

/-- A well-formed envelope fits the address space. -/
theorem length_encode_lt {e : KeyEnvelope} (h : e.WellFormed) : e.encode.length < 256 ^ 8 := by
  have hle := length_encode_le h
  simp only [maxEnvelopeSize] at hle
  exact lt_of_le_of_lt hle (by norm_num)

/-- **An encoding says where it ends**: the counts and the record shapes fix how many items there
are, and every item fixes its own length. -/
theorem encode_selfDelimiting : SelfDelimiting KeyEnvelope.WellFormed KeyEnvelope.encode := by
  intro e e' rest hwell hwell' h
  have hitems : encodeAll e.encodeFull ++ rest = encodeAll e'.encodeFull := by
    rw [KeyEnvelope.encode, KeyEnvelope.encode, List.append_assoc] at h
    exact List.append_cancel_left h
  obtain ⟨ks, hfull, hrest⟩ := encodeAll_append_eq (encodeFull_sized (length_encode_lt hwell))
    (encodeFull_sized (length_encode_lt hwell')) hitems
  -- the items of `e` start those of `e'`; after the fields of the body there is one item in both
  have htail : e'.encodeBodyFields ++ [.bytes e'.mac.toList] =
      e.encodeBodyFields ++ ([.bytes e.mac.toList] ++ ks) := by
    simp only [KeyEnvelope.encodeFull, List.cons_append, List.cons.injEq, true_and] at hfull
    rw [hfull, List.append_assoc]
  have hks : ks = [] := by
    have hmac := (encodeBodyFields_append_inj htail).2.2.2
    simp only [List.cons_append, List.nil_append, List.cons.injEq] at hmac
    exact hmac.2.symm
  subst hks
  rw [List.append_nil] at hfull
  have hnil : rest = [] := hrest
  subst hnil
  rw [List.append_nil] at h
  exact ⟨encode_injective (length_encode_lt hwell) h, rfl⟩

theorem decode_acceptsOnly :
    AcceptsOnly KeyEnvelope.decode KeyEnvelope.WellFormed KeyEnvelope.encode := by
  intro input e h
  obtain ⟨hwell, hencode, -⟩ := decode_sound h
  exact ⟨hwell, hencode⟩

/-- **No truncation, no trailing data.** The decoder rejects every proper prefix and every proper
extension of an encoding, and no encoding is a proper prefix of another. -/
theorem decode_rejects_truncation_and_trailing_data {e : KeyEnvelope} (hwell : e.WellFormed) :
    (∀ input, input <+: e.encode → input ≠ e.encode → ∀ e', KeyEnvelope.decode input ≠ .ok e') ∧
    (∀ trailing, trailing ≠ [] → ∀ e', KeyEnvelope.decode (e.encode ++ trailing) ≠ .ok e') ∧
    ∀ e' : KeyEnvelope, e'.WellFormed → e.encode <+: e'.encode → e.encode = e'.encode := by
  refine ⟨fun input hstart hne => ?_, fun trailing hne => ?_, fun e' hwell' hstart => ?_⟩
  · exact encode_selfDelimiting.rejects_prefix decode_acceptsOnly hwell hstart hne
  · exact encode_selfDelimiting.rejects_extension decode_acceptsOnly hwell hne
  · rw [encode_selfDelimiting.eq_of_prefix hwell hwell' hstart]

omit [Primitives] in
/-- The recovery-secret vector, cut off after its magic or followed by one zero byte. -/
theorem recoveryEnvelope_cut_or_extended_rejected :
    (∀ e, @KeyEnvelope.decode Vector.primitives magic ≠ .ok e) ∧
      ∀ e, @KeyEnvelope.decode Vector.primitives (Vector.recoveryEnvelope.encode ++ [0]) ≠ .ok e :=
  let _ := Vector.primitives
  have hrejects := decode_rejects_truncation_and_trailing_data
    (decode_eq_ok_iff Decoder.reference_lawful |>.1 Vector.recoveryEnvelope.encode
      Vector.recoveryEnvelope |>.mp (by decide +kernel)).1
  ⟨hrejects.1 magic (List.prefix_append _ _) (by decide +kernel), hrejects.2.1 [0] (by simp)⟩

end FidoKeyWrap
