/-
# FidoKeyWrap.Totality — what cannot fail on a decoded envelope.

The functions of the library return `Result`, and most of their error branches carry
`invalidEnvelope`: a transcript that is too long, an HKDF output or an AES key of the wrong size,
Argon2 parameters that are refused, a block count that is not the memory. On a decoded envelope none
of them is taken. Its fields are bounded, so every transcript fits; its parameters are inside
format 1, so Argon2 accepts them and fills whole blocks. What is left to fail is an authentication
(`unlockFailed`) and the memory of Argon2 (`kdfResourceUnavailable`).
-/
import FidoKeyWrap.ContextBinding
import FidoKeyWrap.EnvelopeMac
import FidoKeyWrap.Protector
import FidoKeyWrap.Lib.Failure

namespace FidoKeyWrap

open ByteData Interact

/-- AES-256-GCM takes every key of 32 bytes, and Argon2 all parameters in its range, with a block
count rounded down to four blocks a lane. -/
structure Primitives.ParametersAccepted [Primitives] : Prop where
  aes256 : ∀ key : Bytes 32, Primitives.aes256Accepts key.toList = true
  argon2 : ∀ memory passes lanes : UInt32, 8 * lanes.toNat ≤ memory.toNat → 1 ≤ passes.toNat →
    1 ≤ lanes.toNat → Primitives.argon2BlockCount memory passes lanes =
      some (4 * lanes.toNat * (memory.toNat / (4 * lanes.toNat)))

variable [Primitives]

namespace Crypto

/-! ## Contexts -/

omit [Primitives] in
theorem length_contextFields_le (r : RecipientRecord) (a : ApplicationId) (d : Bytes 32) :
    (contextFields r a d).length ≤ Transcript.maxFields := by
  cases r <;> simp [contextFields, Transcript.maxFields]

/-- No field of a valid record is as long as a credential id may be. -/
theorem length_le_of_mem_contextFields {r : RecipientRecord} (hvalid : r.Valid) (a : ApplicationId)
    (d : Bytes 32) : ∀ field ∈ contextFields r a d, field.length ≤ maxCredentialId := by
  have happ := a.length_asBytes_le
  have hlabel := length_le_of_validateLabel hvalid.label
  have hcredential := hvalid.credential
  have hdomain : recipientContextDomain.length ≤ maxCredentialId := by decide
  cases r <;>
    simp [contextFields, RecipientRecord.label, RecipientRecord.credentialId, maxCredentialId,
      format, passphraseSuite, recoverySecretSuite, combinedSuite, fidoAndLocalSecretSuite,
      argon2idKdf, toBeBytes] at hlabel hcredential hdomain ⊢
  case fido r => cases r.storage <;> simp [fidoSuite, managedFidoSuite] <;> omega
  all_goals omega

theorem recipientContextTranscript_total {r : RecipientRecord} (hvalid : r.Valid)
    (a : ApplicationId) (d : Bytes 32) : ∃ t, recipientContextTranscript r a d = .ok t := by
  rw [recipientContextTranscript_eq]
  refine ⟨_, Transcript.encode_eq_ok.mpr ⟨length_contextFields_le r a d, ?_, rfl⟩⟩
  intro field hmem
  have hlength := length_le_of_mem_contextFields hvalid a d field hmem
  simp only [maxCredentialId] at hlength
  simp only [u32Limit]
  omega

theorem recipientContext_total {r : RecipientRecord} (hvalid : r.Valid) (a : ApplicationId)
    (d : Bytes 32) : ∃ context, recipientContext r a d = .ok context := by
  obtain ⟨t, ht⟩ := recipientContextTranscript_total hvalid a d
  exact ⟨_, recipientContext_eq_ok.mpr ⟨t, ht, rfl⟩⟩

omit [Primitives] in
/-- The transcript of a short domain and a context. -/
theorem encode_total {domain : ByteString} (h : domain.length ≤ 64) (context : Bytes 32) :
    ∃ t, Transcript.encode [domain, context.toList] = .ok t := by
  refine ⟨_, Transcript.encode_eq_ok.mpr ⟨by simp [Transcript.maxFields], ?_, rfl⟩⟩
  simp only [List.forall_mem_cons, u32Limit, Bytes.length_eq]
  refine ⟨by omega, by omega, by simp⟩

/-! ## Derivations -/

section Derivations

variable (total : Primitives.HashesTotal)

include total

/-- The last two steps of a derivation. -/
theorem expand_total {domain : ByteString} (h : domain.length ≤ 64) (context : Bytes 32)
    (ikm salt : ByteString) :
    ∃ key, (do
      let info ← Transcript.encode [domain, context.toList]
      deriveKey ikm salt info) = .ok key := by
  obtain ⟨info, hinfo⟩ := encode_total h context
  obtain ⟨key, hkey⟩ := total.hkdf ikm salt info
  refine ⟨⟨key⟩, except_bind_eq_ok.mpr ⟨info, hinfo, ?_⟩⟩
  exact deriveKey_eq_ok.mpr hkey

theorem deriveFidoKey_total {r : RecipientRecord} (hvalid : r.Valid)
    (hfido : (∃ record, r = .fido record) ∨ ∃ record, r = .fidoAndPassphrase record)
    (a : ApplicationId) (d prf : Bytes 32) : ∃ key, deriveFidoKey r a d prf = .ok key := by
  obtain ⟨context, hcontext⟩ := recipientContext_total hvalid a d
  have hdomain : fidoKeyDomain.length ≤ 64 := by decide
  obtain ⟨key, hkey⟩ := expand_total total hdomain context prf.toList d.toList
  refine ⟨key, ?_⟩
  rcases hfido with ⟨record, rfl⟩ | ⟨record, rfl⟩ <;>
    exact except_bind_eq_ok.mpr ⟨context, hcontext, hkey⟩

theorem deriveRecoverySecretKey_total {r : RecoverySecretRecord}
    (hvalid : (RecipientRecord.recoverySecret r).Valid) (a : ApplicationId) (d : Bytes 32)
    (secret : RecoverySecret) : ∃ key, deriveRecoverySecretKey r a d secret = .ok key := by
  obtain ⟨context, hcontext⟩ := recipientContext_total hvalid a d
  have hdomain : recoverySecretKeyDomain.length ≤ 64 := by decide
  obtain ⟨key, hkey⟩ := expand_total total hdomain context secret.bytes.toList d.toList
  exact ⟨key, except_bind_eq_ok.mpr ⟨context, hcontext, hkey⟩⟩

theorem deriveFidoLocalKey_total {r : FidoAndLocalSecretRecipient}
    (hvalid : (RecipientRecord.fidoAndLocalSecret r).Valid) (a : ApplicationId) (d prf : Bytes 32)
    (secret : LocalSecret) : ∃ key, deriveFidoLocalKey r a d prf secret = .ok key := by
  obtain ⟨context, hcontext⟩ := recipientContext_total hvalid a d
  have hexpand {domain : ByteString} (h : domain.length ≤ 64) := expand_total total h context
  obtain ⟨fidoKey, hfido⟩ : ∃ key, fidoLocalFidoKey context d prf = .ok key :=
    hexpand (by decide) _ _
  obtain ⟨localKey, hlocal⟩ : ∃ key, fidoLocalSecretKey context d secret = .ok key :=
    hexpand (by decide) _ _
  obtain ⟨key, hkey⟩ : ∃ key, fidoLocalCombinedKey context fidoKey localKey = .ok key :=
    hexpand (by decide) _ _
  refine ⟨key, ?_⟩
  simp only [deriveFidoLocalKey, except_bind_eq_ok]
  exact ⟨context, hcontext, fidoKey, hfido, localKey, hlocal, hkey⟩

end Derivations

omit [Primitives] in
/-- Parameters inside format 1 fill whole blocks on every lane. -/
theorem blocks_of_valid (p : PassphraseParameters) :
    8 * p.lanes.toNat ≤ p.memoryKib.toNat ∧ 1 ≤ p.passes.toNat ∧ 1 ≤ p.lanes.toNat ∧
      4 * p.lanes.toNat * (p.memoryKib.toNat / (4 * p.lanes.toNat)) = p.memoryKib.toNat := by
  have h := p.valid
  simp only [validateParameters, Bool.and_eq_true, decide_eq_true_eq, beq_iff_eq] at h
  obtain ⟨⟨⟨⟨⟨⟨⟨hlanes, -⟩, hpasses, -⟩, -⟩, hmemory, hdivides⟩, -⟩, -⟩, -⟩ := h.1
  have hl : 1 ≤ p.lanes.toNat := hlanes
  have hp : 3 ≤ p.passes.toNat := hpasses
  refine ⟨hmemory, by omega, hl, ?_⟩
  rw [Nat.mul_comm]
  exact Nat.div_mul_cancel (Nat.dvd_of_mod_eq_zero hdivides)

/-- The block count of parameters inside format 1 is their memory. -/
theorem argon2BlockCount_eq (accepted : Primitives.ParametersAccepted) (p : PassphraseParameters) :
    Primitives.argon2BlockCount p.memoryKib p.passes p.lanes.toUInt32 =
      some p.memoryKib.toNat := by
  obtain ⟨hmemory, hpasses, hlanes, hblocks⟩ := blocks_of_valid p
  have hcast : p.lanes.toUInt32.toNat = p.lanes.toNat := UInt8.toNat_toUInt32 p.lanes
  rw [accepted.argon2 _ _ _ (by rw [hcast]; exact hmemory) hpasses (by rw [hcast]; exact hlanes),
    hcast, hblocks]

/-! ## Layers -/

section Layers

variable {E : Error → Prop} (hE : E .unlockFailed) {a : ApplicationId} {d : Bytes 32}

/-- What follows the associated data of a layer. -/
theorem errors_layer {β : Type} (layer : Layer) (hvalid : layer.record.Valid)
    {f : ByteString → Result β} (hf : ∀ aad, Errors (f aad) E) :
    Errors (do
      let context ← recipientContext layer.record a d
      let aad ← Transcript.encode [layer.kind.aadDomain, context.toList]
      f aad) E := by
  refine errors_bind (errors_ok (recipientContext_total hvalid a d)) fun context _ => ?_
  have hdomain : layer.kind.aadDomain.length ≤ 64 := by
    cases layer.kind <;> decide
  exact errors_bind (errors_ok (encode_total hdomain context)) fun aad _ => hf aad

variable (accepted : Primitives.ParametersAccepted)

include hE accepted

/-- A decryption of the right size fails only to authenticate. -/
theorem errors_decryptFixed {p c : Nat} (hsize : c = p + tagBytes) (key : DerivedKey)
    (nonce : Bytes 12) (ciphertext : Bytes c) (aad : ByteString) :
    Errors (decryptFixed p key nonce ciphertext aad) E := by
  unfold decryptFixed
  rw [dif_pos hsize]
  have haccepts : Primitives.aes256Accepts key.asBytes.toList = true := accepted.aes256 key.asBytes
  exact errors_bind (errors_ok ⟨(), require_eq_ok.mpr haccepts⟩) fun _ _ => errors_okOr hE

theorem errors_unwrapPassphraseRoot {r : PassphraseRecipient}
    (hvalid : (RecipientRecord.passphrase r).Valid) (key : DerivedKey) :
    Errors (unwrapPassphraseRoot r a d key) E :=
  errors_layer (.passphrase r) hvalid fun aad =>
    errors_bind (errors_decryptFixed hE accepted rfl key _ _ aad) fun _ _ => errors_ok ⟨_, rfl⟩

theorem errors_unwrapRecoverySecretRoot {r : RecoverySecretRecord}
    (hvalid : (RecipientRecord.recoverySecret r).Valid) (key : DerivedKey) :
    Errors (unwrapRecoverySecretRoot r a d key) E :=
  errors_layer (.recoverySecret r) hvalid fun aad =>
    errors_bind (errors_decryptFixed hE accepted rfl key _ _ aad) fun _ _ => errors_ok ⟨_, rfl⟩

theorem errors_unwrapFidoRoot {r : FidoRecipient} (hvalid : (RecipientRecord.fido r).Valid)
    (key : DerivedKey) : Errors (unwrapFidoRoot r a d key) E :=
  errors_layer (.fido r) hvalid fun aad =>
    errors_bind (errors_decryptFixed hE accepted rfl key _ _ aad) fun _ _ => errors_ok ⟨_, rfl⟩

theorem errors_unwrapFidoLocalRoot {r : FidoAndLocalSecretRecipient}
    (hvalid : (RecipientRecord.fidoAndLocalSecret r).Valid) (key : DerivedKey) :
    Errors (unwrapFidoLocalRoot r a d key) E :=
  errors_layer (.fidoLocal r) hvalid fun aad =>
    errors_bind (errors_decryptFixed hE accepted rfl key _ _ aad) fun _ _ => errors_ok ⟨_, rfl⟩

theorem errors_unwrapCombinedOuter {r : FidoAndPassphraseRecipient}
    (hvalid : (RecipientRecord.fidoAndPassphrase r).Valid) (key : DerivedKey) :
    Errors (unwrapCombinedOuter r a d key) E :=
  errors_layer (.combinedOuter r) hvalid fun aad =>
    errors_decryptFixed hE accepted rfl key _ _ aad

theorem errors_unwrapCombinedInner {r : FidoAndPassphraseRecipient}
    (hvalid : (RecipientRecord.fidoAndPassphrase r).Valid) (inner : Bytes 48) (key : DerivedKey) :
    Errors (unwrapCombinedInner r a d inner key) E :=
  errors_layer (.combinedInner r) hvalid fun aad =>
    errors_bind (errors_decryptFixed hE accepted rfl key _ _ aad) fun _ _ => errors_ok ⟨_, rfl⟩

end Layers

end Crypto

end FidoKeyWrap
