/-
# FidoKeyWrap.KeySeparation — no two purposes share a key.

The library derives seven kinds of keys and the tool one more, all with HKDF. Each derivation hashes
its purpose into the info transcript; a recipient key adds the recipient context, the MAC key and
the tool key the application id. Where HKDF has no collision on the calls of two derivations and
SHA-256 none on their context transcripts, equal keys mean equal derivations: one purpose, the same
input secrets, the same application, the same envelope (the tool key has none), and for recipient
keys a record with the same bound fields (`keys_separate`).
-/
import FidoKeyWrap.ContextBinding
import FidoKeyWrap.EnvelopeMac
import FidoKeyWrap.Tool.Container

namespace FidoKeyWrap.Crypto

open ByteData Framing Interact

variable [Primitives]

/-! ## Purposes -/

/-- What a key is for. -/
inductive KeyPurpose where
  | passphrase
  | fido
  | fidoLocalFido
  | fidoLocalSecret
  | fidoLocalCombined
  | recoverySecret
  | envelopeMac
  | tool
  deriving DecidableEq

/-- The first field of a purpose's info transcript. -/
def KeyPurpose.domain : KeyPurpose → ByteString
  | passphrase => passphraseKeyDomain
  | fido => fidoKeyDomain
  | fidoLocalFido => fidoLocalFidoKeyDomain
  | fidoLocalSecret => fidoLocalSecretKeyDomain
  | fidoLocalCombined => fidoLocalCombinedKeyDomain
  | recoverySecret => recoverySecretKeyDomain
  | envelopeMac => envelopeMacKeyDomain
  | tool => Tool.secretKeyDomain

omit [Primitives] in
/-- No two purposes share a domain. -/
theorem KeyPurpose.domain_injective {p q : KeyPurpose} (h : p.domain = q.domain) : p = q := by
  cases p <;> cases q <;> first | rfl | exact absurd h (by decide)

/-! ## Derivations -/

/-- **`KeyDerivation`** — one key derivation with everything it reads: the record, the application,
the envelope id, the input secrets. -/
inductive KeyDerivation where
  | passphrase (r : RecipientRecord) (a : ApplicationId) (d argon2Output : Bytes 32)
  | fido (r : RecipientRecord) (a : ApplicationId) (d prf : Bytes 32)
  | fidoLocalFido (r : FidoAndLocalSecretRecipient) (a : ApplicationId) (d prf : Bytes 32)
  | fidoLocalSecret (r : FidoAndLocalSecretRecipient) (a : ApplicationId) (d : Bytes 32)
      (secret : LocalSecret)
  | fidoLocalCombined (r : FidoAndLocalSecretRecipient) (a : ApplicationId) (d prf : Bytes 32)
      (secret : LocalSecret)
  | recoverySecret (r : RecoverySecretRecord) (a : ApplicationId) (d : Bytes 32)
      (secret : RecoverySecret)
  | envelopeMac (a : ApplicationId) (d : Bytes 32) (root : RootKey)
  | tool (root : RootKey) (a : ApplicationId)

namespace KeyDerivation

def purpose : KeyDerivation → KeyPurpose
  | passphrase .. => .passphrase
  | fido .. => .fido
  | fidoLocalFido .. => .fidoLocalFido
  | fidoLocalSecret .. => .fidoLocalSecret
  | fidoLocalCombined .. => .fidoLocalCombined
  | recoverySecret .. => .recoverySecret
  | envelopeMac .. => .envelopeMac
  | tool .. => .tool

/-- The derivation with the bound part of its record. -/
def bound : KeyDerivation → KeyDerivation
  | passphrase r a d out => passphrase r.bound a d out
  | fido r a d prf => fido r.bound a d prf
  | fidoLocalFido r a d prf => fidoLocalFido r.bound a d prf
  | fidoLocalSecret r a d secret => fidoLocalSecret r.bound a d secret
  | fidoLocalCombined r a d prf secret => fidoLocalCombined r.bound a d prf secret
  | recoverySecret r a d secret => recoverySecret r.bound a d secret
  | envelopeMac a d root => envelopeMac a d root
  | tool root a => tool root a

/-- The transcript hashed into the derivation's recipient context: none, or one. -/
def transcripts : KeyDerivation → Set ByteString
  | passphrase r a d _ => contextTranscripts r a d
  | fido r a d _ => contextTranscripts r a d
  | fidoLocalFido r a d _ => contextTranscripts (.fidoAndLocalSecret r) a d
  | fidoLocalSecret r a d _ => contextTranscripts (.fidoAndLocalSecret r) a d
  | fidoLocalCombined r a d _ _ => contextTranscripts (.fidoAndLocalSecret r) a d
  | recoverySecret r a d _ => contextTranscripts (.recoverySecret r) a d
  | envelopeMac .. | tool .. => ∅

end KeyDerivation

/-- The derivation function of each purpose returned the key. A passphrase derivation asks its host
for memory; its input secret is the output of Argon2id. -/
inductive Derives : KeyDerivation → Bytes 32 → Prop
  | passphrase {r a d p kdf out t key} :
      recipientKdf r = some kdf → (argon2Output p kdf).run.Runs t (.ok out) →
        (derivePassphraseKey r a d p).run.Runs t (.ok key) →
          Derives (.passphrase r a d out) key.asBytes
  | fido {r a d prf key} :
      deriveFidoKey r a d prf = .ok key → Derives (.fido r a d prf) key.asBytes
  | fidoLocalFido {r a d prf context key} :
      fidoLocalContext r a d = .ok context → fidoLocalFidoKey context d prf = .ok key →
        Derives (.fidoLocalFido r a d prf) key.asBytes
  | fidoLocalSecret {r a d secret context key} :
      fidoLocalContext r a d = .ok context → fidoLocalSecretKey context d secret = .ok key →
        Derives (.fidoLocalSecret r a d secret) key.asBytes
  | fidoLocalCombined {r a d prf secret key} :
      deriveFidoLocalKey r a d prf secret = .ok key →
        Derives (.fidoLocalCombined r a d prf secret) key.asBytes
  | recoverySecret {r a d secret key} :
      deriveRecoverySecretKey r a d secret = .ok key →
        Derives (.recoverySecret r a d secret) key.asBytes
  | envelopeMac {e root key} :
      envelopeMacKey e root = .ok key →
        Derives (.envelopeMac e.applicationId e.envelopeId root) key.asBytes
  | tool {root a key} : Tool.deriveSecretKey root a = .ok key → Derives (.tool root a) key

/-! ## The HKDF calls of a derivation -/

/-- The info transcripts of a recipient key: none, or one. -/
def recipientInfos (purpose : KeyPurpose) (r : RecipientRecord) (a : ApplicationId)
    (d : Bytes 32) : Set ByteString :=
  {info | ∃ context, recipientContext r a d = .ok context ∧
    Transcript.encode [purpose.domain, context.toList] = .ok info}

namespace KeyDerivation

/-- The HKDF call that returns the key: input key material, salt, info. -/
def finalCalls : KeyDerivation → Set (ByteString × ByteString × ByteString)
  | passphrase r a d out => {out.toList} ×ˢ {d.toList} ×ˢ recipientInfos .passphrase r a d
  | fido r a d prf => {prf.toList} ×ˢ {d.toList} ×ˢ recipientInfos .fido r a d
  | fidoLocalFido r a d prf =>
    {prf.toList} ×ˢ {d.toList} ×ˢ recipientInfos .fidoLocalFido (.fidoAndLocalSecret r) a d
  | fidoLocalSecret r a d secret =>
    {secret.bytes.toList} ×ˢ {d.toList} ×ˢ
      recipientInfos .fidoLocalSecret (.fidoAndLocalSecret r) a d
  | fidoLocalCombined r a d prf secret =>
    {ikm | ∃ key, Derives (fidoLocalFido r a d prf) key ∧ ikm = key.toList} ×ˢ
      {salt | ∃ key, Derives (fidoLocalSecret r a d secret) key ∧ salt = key.toList} ×ˢ
        recipientInfos .fidoLocalCombined (.fidoAndLocalSecret r) a d
  | recoverySecret r a d secret =>
    {secret.bytes.toList} ×ˢ {d.toList} ×ˢ recipientInfos .recoverySecret (.recoverySecret r) a d
  | envelopeMac a d root =>
    {root.bytes.toList} ×ˢ {d.toList} ×ˢ
      {info | Transcript.encode [envelopeMacKeyDomain, format, a.asBytes] = .ok info}
  | tool root a =>
    {root.bytes.toList} ×ˢ {(Bytes.zero 32).toList} ×ˢ
      {info | Tool.transcript [Tool.secretKeyDomain, a.asBytes] = .ok info}

/-- Every HKDF call of the derivation: the combined key is derived from two subkeys. -/
def hkdfCalls : KeyDerivation → Set (ByteString × ByteString × ByteString)
  | fidoLocalCombined r a d prf secret =>
    (fidoLocalFido r a d prf).finalCalls ∪ (fidoLocalSecret r a d secret).finalCalls ∪
      (fidoLocalCombined r a d prf secret).finalCalls
  | k => k.finalCalls

theorem finalCalls_subset (k : KeyDerivation) : k.finalCalls ⊆ k.hkdfCalls := by
  cases k with
  | fidoLocalCombined r a d prf secret => exact Set.subset_union_right
  | _ => exact subset_rfl

end KeyDerivation

/-- One spec for all eight derivations: the key is the output of the final call. -/
theorem Derives.exists_call {k : KeyDerivation} {key : Bytes 32} (h : Derives k key) :
    ∃ call ∈ k.finalCalls, Primitives.hkdfSha256 call.1 call.2.1 call.2.2 = some key := by
  cases h with
  | @passphrase r a d p kdf out t key hkdf hout hkey =>
      obtain ⟨hof, -⟩ := runs_derivePassphraseKey_ok.mp hkey
      obtain ⟨hout, -⟩ := runs_argon2Output_ok.mp hout
      simp only [passphraseKeyOf, hkdf, okOr, except_bind_eq_ok, deriveKey_eq_ok] at hof
      obtain ⟨_, hk, context, hcontext, out', hout', info, hinfo, hcall⟩ := hof
      cases hk
      -- the run and the pure derivation compute one Argon2 output
      obtain rfl : out = out' := Except.ok.inj (hout.symm.trans hout')
      exact ⟨(out.toList, d.toList, info), ⟨rfl, rfl, context, hcontext, hinfo⟩, hcall⟩
  | @fido r a d prf key h =>
      cases r <;> simp only [deriveFidoKey, except_bind_eq_ok, deriveKey_eq_ok] at h
      case fido | fidoAndPassphrase =>
        obtain ⟨context, hcontext, info, hinfo, hcall⟩ := h
        exact ⟨(prf.toList, d.toList, info), ⟨rfl, rfl, context, hcontext, hinfo⟩, hcall⟩
      all_goals cases h
  | @fidoLocalFido r a d prf context key hcontext h =>
      simp only [fidoLocalFidoKey, except_bind_eq_ok, deriveKey_eq_ok] at h
      obtain ⟨info, hinfo, hcall⟩ := h
      exact ⟨(prf.toList, d.toList, info), ⟨rfl, rfl, context, hcontext, hinfo⟩, hcall⟩
  | @fidoLocalSecret r a d secret context key hcontext h =>
      simp only [fidoLocalSecretKey, except_bind_eq_ok, deriveKey_eq_ok] at h
      obtain ⟨info, hinfo, hcall⟩ := h
      exact ⟨(secret.bytes.toList, d.toList, info), ⟨rfl, rfl, context, hcontext, hinfo⟩, hcall⟩
  | @fidoLocalCombined r a d prf secret key h =>
      simp only [deriveFidoLocalKey, fidoLocalCombinedKey, except_bind_eq_ok, deriveKey_eq_ok] at h
      obtain ⟨context, hcontext, fidoKey, hfido, localKey, hlocal, info, hinfo, hcall⟩ := h
      refine ⟨(fidoKey.asBytes.toList, localKey.asBytes.toList, info), ⟨?_, ?_, ?_⟩, hcall⟩
      · exact ⟨_, .fidoLocalFido hcontext hfido, rfl⟩
      · exact ⟨_, .fidoLocalSecret hcontext hlocal, rfl⟩
      · exact ⟨context, hcontext, hinfo⟩
  | @recoverySecret r a d secret key h =>
      simp only [deriveRecoverySecretKey, except_bind_eq_ok, deriveKey_eq_ok] at h
      obtain ⟨context, hcontext, info, hinfo, hcall⟩ := h
      exact ⟨(secret.bytes.toList, d.toList, info), ⟨rfl, rfl, context, hcontext, hinfo⟩, hcall⟩
  | @envelopeMac e root key h =>
      simp only [envelopeMacKey, except_bind_eq_ok, deriveKey_eq_ok] at h
      obtain ⟨info, hinfo, hcall⟩ := h
      exact ⟨(root.bytes.toList, e.envelopeId.toList, info), ⟨rfl, rfl, hinfo⟩, hcall⟩
  | @tool root a key h =>
      simp only [Tool.deriveSecretKey, except_bind_eq_ok, okOr_eq_ok] at h
      obtain ⟨info, hinfo, hcall⟩ := h
      exact ⟨(root.bytes.toList, (Bytes.zero 32).toList, info), ⟨rfl, rfl, hinfo⟩, hcall⟩

/-! ## Equal calls -/

theorem framed_of_recipientInfos {purpose : KeyPurpose} {r : RecipientRecord} {a : ApplicationId}
    {d : Bytes 32} {info : ByteString} (h : info ∈ recipientInfos purpose r a d) :
    ∃ fields, Framed (purpose.domain :: fields) ∧ info = frame (purpose.domain :: fields) := by
  obtain ⟨context, -, hinfo⟩ := h
  exact ⟨_, Transcript.framed_of_encode hinfo, (Transcript.encode_eq_ok.mp hinfo).2.2⟩

/-- Both encoders write the purpose first. -/
theorem KeyDerivation.framed_info {k : KeyDerivation} {call : ByteString × ByteString × ByteString}
    (h : call ∈ k.finalCalls) :
    ∃ fields, Framed (k.purpose.domain :: fields) ∧
      call.2.2 = frame (k.purpose.domain :: fields) := by
  obtain ⟨ikm, salt, info⟩ := call
  cases k with
  | envelopeMac a d root =>
      obtain ⟨-, -, hinfo⟩ := h
      exact ⟨_, Transcript.framed_of_encode hinfo, (Transcript.encode_eq_ok.mp hinfo).2.2⟩
  | tool root a =>
      obtain ⟨-, -, hinfo⟩ := h
      obtain ⟨hframed, rfl⟩ := Tool.framed_of_transcript hinfo
      exact ⟨_, hframed, rfl⟩
  | _ =>
      obtain ⟨-, -, hinfo⟩ := h
      exact framed_of_recipientInfos hinfo

/-- One call serves one purpose. -/
theorem KeyDerivation.purpose_eq {k k' : KeyDerivation}
    {call : ByteString × ByteString × ByteString} (h : call ∈ k.finalCalls)
    (h' : call ∈ k'.finalCalls) : k.purpose = k'.purpose := by
  obtain ⟨fields, hframed, hinfo⟩ := framed_info h
  obtain ⟨fields', hframed', hinfo'⟩ := framed_info h'
  have hcons := frame_injective hframed hframed' (hinfo.symm.trans hinfo')
  exact KeyPurpose.domain_injective (List.cons.inj hcons).1

/-- One recipient info determines everything its context binds. -/
theorem recipientInfos_inj {purpose purpose' : KeyPurpose} {r r' : RecipientRecord}
    {a a' : ApplicationId} {d d' : Bytes 32} {info : ByteString}
    (sha : Set.InjOn Primitives.sha256 (contextTranscripts r a d ∪ contextTranscripts r' a' d'))
    (h : info ∈ recipientInfos purpose r a d) (h' : info ∈ recipientInfos purpose' r' a' d') :
    a = a' ∧ d = d' ∧ r.bound = r'.bound := by
  obtain ⟨context, hcontext, hinfo⟩ := h
  obtain ⟨context', hcontext', hinfo'⟩ := h'
  have hfields := Transcript.encode_injective hinfo hinfo'
  simp only [List.cons.injEq, and_true, Bytes.toList_inj] at hfields
  obtain ⟨-, rfl⟩ := hfields
  exact recipientContext_inj sha hcontext hcontext'

/-- One call of two recipient derivations determines the secret too. -/
theorem recipientCall_inj {purpose purpose' : KeyPurpose} {r r' : RecipientRecord}
    {a a' : ApplicationId} {d d' secret secret' : Bytes 32} {salts salts' : Set ByteString}
    {call : ByteString × ByteString × ByteString}
    (sha : Set.InjOn Primitives.sha256 (contextTranscripts r a d ∪ contextTranscripts r' a' d'))
    (h : call ∈ {secret.toList} ×ˢ salts ×ˢ recipientInfos purpose r a d)
    (h' : call ∈ {secret'.toList} ×ˢ salts' ×ˢ recipientInfos purpose' r' a' d') :
    secret = secret' ∧ a = a' ∧ d = d' ∧ r.bound = r'.bound := by
  obtain ⟨hikm, -, hinfo⟩ := h
  obtain ⟨hikm', -, hinfo'⟩ := h'
  have hlist : secret.toList = secret'.toList := Eq.trans (Eq.symm hikm) hikm'
  exact ⟨Bytes.toList_inj.mp hlist, recipientInfos_inj sha hinfo hinfo'⟩

/-! ## Separation -/

/-- The HKDF calls of two derivations do not collide, and neither do their context transcripts. -/
structure CollisionFree (k k' : KeyDerivation) : Prop where
  hkdf : Set.InjOn (fun call => Primitives.hkdfSha256 call.1 call.2.1 call.2.2)
    (k.hkdfCalls ∪ k'.hkdfCalls)
  sha256 : Set.InjOn Primitives.sha256 (k.transcripts ∪ k'.transcripts)

/-- Equal keys come out of one call. -/
theorem CollisionFree.exists_call {k k' : KeyDerivation} {key : Bytes 32}
    (free : CollisionFree k k') (h : Derives k key) (h' : Derives k' key) :
    ∃ call, call ∈ k.finalCalls ∧ call ∈ k'.finalCalls := by
  obtain ⟨call, hcall, hkey⟩ := h.exists_call
  obtain ⟨call', hcall', hkey'⟩ := h'.exists_call
  have hcc : call = call' := free.hkdf (.inl (k.finalCalls_subset hcall))
    (.inr (k'.finalCalls_subset hcall')) (hkey.trans hkey'.symm)
  exact ⟨call, hcall, hcc ▸ hcall'⟩

section Subkeys

variable {r r' : FidoAndLocalSecretRecipient} {a a' : ApplicationId} {d d' prf prf' : Bytes 32}
  {secret secret' : LocalSecret} {key : Bytes 32}

/-- Without a collision on two combined keys there is none on their subkeys. -/
theorem CollisionFree.subkeys
    (free : CollisionFree (.fidoLocalCombined r a d prf secret)
      (.fidoLocalCombined r' a' d' prf' secret')) :
    CollisionFree (.fidoLocalFido r a d prf) (.fidoLocalFido r' a' d' prf') ∧
      CollisionFree (.fidoLocalSecret r a d secret) (.fidoLocalSecret r' a' d' secret') := by
  refine ⟨⟨free.hkdf.mono ?_, free.sha256⟩, ⟨free.hkdf.mono ?_, free.sha256⟩⟩
  · apply Set.union_subset_union <;> exact fun call h => .inl (.inl h)
  · apply Set.union_subset_union <;> exact fun call h => .inl (.inr h)

theorem prf_eq_of_derives
    (free : CollisionFree (.fidoLocalFido r a d prf) (.fidoLocalFido r' a' d' prf'))
    (h : Derives (.fidoLocalFido r a d prf) key) (h' : Derives (.fidoLocalFido r' a' d' prf') key) :
    prf = prf' := by
  obtain ⟨call, hcall, hcall'⟩ := free.exists_call h h'
  exact (recipientCall_inj free.sha256 hcall hcall').1

theorem localSecret_eq_of_derives
    (free : CollisionFree (.fidoLocalSecret r a d secret) (.fidoLocalSecret r' a' d' secret'))
    (h : Derives (.fidoLocalSecret r a d secret) key)
    (h' : Derives (.fidoLocalSecret r' a' d' secret') key) : secret = secret' := by
  obtain ⟨call, hcall, hcall'⟩ := free.exists_call h h'
  exact LocalSecret.ext (recipientCall_inj free.sha256 hcall hcall').1

end Subkeys

/-- **No two purposes share a key**: equal keys are keys of one purpose, from the same secrets, for
the same application, envelope and bound record. -/
theorem bound_eq_of_derives {k k' : KeyDerivation} {key : Bytes 32}
    (free : CollisionFree k k') (h : Derives k key) (h' : Derives k' key) : k.bound = k'.bound := by
  obtain ⟨call, hcall, hcall'⟩ := free.exists_call h h'
  -- the info of the call names its purpose, which leaves eight cases of the sixty-four
  have hpurpose := KeyDerivation.purpose_eq hcall hcall'
  cases k <;> cases k' <;> cases hpurpose
  case passphrase.passphrase r a d out r' a' d' out' =>
    obtain ⟨rfl, rfl, rfl, hbound⟩ := recipientCall_inj free.sha256 hcall hcall'
    show KeyDerivation.passphrase r.bound a d out = .passphrase r'.bound a d out
    rw [hbound]
  case fido.fido r a d prf r' a' d' prf' =>
    obtain ⟨rfl, rfl, rfl, hbound⟩ := recipientCall_inj free.sha256 hcall hcall'
    show KeyDerivation.fido r.bound a d prf = .fido r'.bound a d prf
    rw [hbound]
  case fidoLocalFido.fidoLocalFido r a d prf r' a' d' prf' =>
    obtain ⟨rfl, rfl, rfl, hbound⟩ := recipientCall_inj free.sha256 hcall hcall'
    show KeyDerivation.fidoLocalFido r.bound a d prf = .fidoLocalFido r'.bound a d prf
    rw [RecipientRecord.fidoAndLocalSecret.inj hbound]
  case fidoLocalSecret.fidoLocalSecret r a d secret r' a' d' secret' =>
    obtain ⟨hsecret, rfl, rfl, hbound⟩ := recipientCall_inj free.sha256 hcall hcall'
    show KeyDerivation.fidoLocalSecret r.bound a d secret = .fidoLocalSecret r'.bound a d secret'
    rw [RecipientRecord.fidoAndLocalSecret.inj hbound, LocalSecret.ext hsecret]
  case fidoLocalCombined.fidoLocalCombined r a d prf secret r' a' d' prf' secret' =>
    -- the two inputs of the call are subkeys: equal calls, equal subkeys, equal secrets
    obtain ⟨⟨fidoKey, hfido, hikm⟩, ⟨localKey, hlocal, hsalt⟩, hinfo⟩ := hcall
    obtain ⟨⟨fidoKey', hfido', hikm'⟩, ⟨localKey', hlocal', hsalt'⟩, hinfo'⟩ := hcall'
    obtain rfl : fidoKey = fidoKey' := Bytes.toList_inj.mp (hikm.symm.trans hikm')
    obtain rfl : localKey = localKey' := Bytes.toList_inj.mp (hsalt.symm.trans hsalt')
    obtain rfl := prf_eq_of_derives free.subkeys.1 hfido hfido'
    obtain rfl := localSecret_eq_of_derives free.subkeys.2 hlocal hlocal'
    obtain ⟨rfl, rfl, hbound⟩ := recipientInfos_inj free.sha256 hinfo hinfo'
    show KeyDerivation.fidoLocalCombined r.bound a d prf secret =
      .fidoLocalCombined r'.bound a d prf secret
    rw [RecipientRecord.fidoAndLocalSecret.inj hbound]
  case recoverySecret.recoverySecret r a d secret r' a' d' secret' =>
    obtain ⟨hsecret, rfl, rfl, hbound⟩ := recipientCall_inj free.sha256 hcall hcall'
    show KeyDerivation.recoverySecret r.bound a d secret = .recoverySecret r'.bound a d secret'
    rw [RecipientRecord.recoverySecret.inj hbound, RecoverySecret.ext hsecret]
  case envelopeMac.envelopeMac a d root a' d' root' =>
    obtain ⟨hikm, hsalt, hinfo⟩ := hcall
    obtain ⟨hikm', hsalt', hinfo'⟩ := hcall'
    have hroot : root = root' := RootKey.ext (Bytes.toList_inj.mp (Eq.trans (Eq.symm hikm) hikm'))
    have hid : d = d' := Bytes.toList_inj.mp (Eq.trans (Eq.symm hsalt) hsalt')
    have hfields := Transcript.encode_injective hinfo hinfo'
    simp only [List.cons.injEq, and_true, true_and, ApplicationId.asBytes_inj] at hfields
    rw [hroot, hid, hfields]
  case tool.tool root a root' a' =>
    obtain ⟨hikm, -, hinfo⟩ := hcall
    obtain ⟨hikm', -, hinfo'⟩ := hcall'
    have hroot : root = root' := RootKey.ext (Bytes.toList_inj.mp (Eq.trans (Eq.symm hikm) hikm'))
    obtain ⟨hframed, hout⟩ := Tool.framed_of_transcript hinfo
    obtain ⟨hframed', hout'⟩ := Tool.framed_of_transcript hinfo'
    have hfields := frame_injective hframed hframed' (hout.symm.trans hout')
    simp only [List.cons.injEq, and_true, true_and, ApplicationId.asBytes_inj] at hfields
    rw [hroot, hfields]

/-! ## PRF inputs -/

/-- The transcript hashed into the PRF input of a record: none, or one. -/
def prfTranscripts (r : RecipientRecord) (a : ApplicationId) (d : Bytes 32) : Set ByteString :=
  {t | ∃ context, recipientContext r a d = .ok context ∧ prfInputTranscript context = .ok t}

theorem exists_prfTranscript {r : RecipientRecord} {a : ApplicationId} {d input : Bytes 32}
    (h : prfInput r a d = .ok input) : ∃ t ∈ prfTranscripts r a d, input = Primitives.sha256 t := by
  cases r <;> simp only [prfInput, except_bind_eq_ok, except_pure_eq_ok] at h
  case passphrase | recoverySecret => cases h
  all_goals
    obtain ⟨context, hcontext, t, ht, rfl⟩ := h
    exact ⟨t, ⟨context, hcontext, ht⟩, rfl⟩

/-- **No two records share a PRF input.** -/
theorem bound_eq_of_prfInput {r r' : RecipientRecord} {a a' : ApplicationId}
    {d d' input : Bytes 32}
    (sha : Set.InjOn Primitives.sha256 (contextTranscripts r a d ∪ contextTranscripts r' a' d'))
    (prfSha : Set.InjOn Primitives.sha256 (prfTranscripts r a d ∪ prfTranscripts r' a' d'))
    (h : prfInput r a d = .ok input) (h' : prfInput r' a' d' = .ok input) :
    a = a' ∧ d = d' ∧ r.bound = r'.bound := by
  obtain ⟨t, ht, heq⟩ := exists_prfTranscript h
  obtain ⟨t', ht', heq'⟩ := exists_prfTranscript h'
  obtain rfl : t = t' := prfSha (.inl ht) (.inr ht') (heq.symm.trans heq')
  obtain ⟨context, hcontext, hencode⟩ := ht
  obtain ⟨context', hcontext', hencode'⟩ := ht'
  have hfields := Transcript.encode_injective hencode hencode'
  simp only [List.cons.injEq, and_true, true_and, Bytes.toList_inj] at hfields
  subst hfields
  exact recipientContext_inj sha hcontext hcontext'

/-- **Keys and PRF inputs are separated over the whole repository.** -/
theorem keys_separate :
    (∀ {k k' : KeyDerivation} {key : Bytes 32}, CollisionFree k k' → Derives k key →
      Derives k' key → k.bound = k'.bound) ∧
    (∀ {r r' : RecipientRecord} {a a' : ApplicationId} {d d' input : Bytes 32},
      Set.InjOn Primitives.sha256 (contextTranscripts r a d ∪ contextTranscripts r' a' d') →
      Set.InjOn Primitives.sha256 (prfTranscripts r a d ∪ prfTranscripts r' a' d') →
      prfInput r a d = .ok input → prfInput r' a' d' = .ok input →
      a = a' ∧ d = d' ∧ r.bound = r'.bound) :=
  ⟨bound_eq_of_derives, bound_eq_of_prfInput⟩

/-! ## Sets of at most one transcript -/

theorem recipientInfos_subsingleton (purpose : KeyPurpose) (r : RecipientRecord)
    (a : ApplicationId) (d : Bytes 32) : (recipientInfos purpose r a d).Subsingleton := by
  rintro info ⟨context, hcontext, hinfo⟩ info' ⟨context', hcontext', hinfo'⟩
  obtain rfl : context = context' := Except.ok.inj (hcontext.symm.trans hcontext')
  exact Except.ok.inj (hinfo.symm.trans hinfo')

theorem prfTranscripts_subsingleton (r : RecipientRecord) (a : ApplicationId) (d : Bytes 32) :
    (prfTranscripts r a d).Subsingleton := by
  rintro t ⟨context, hcontext, ht⟩ t' ⟨context', hcontext', ht'⟩
  obtain rfl : context = context' := Except.ok.inj (hcontext.symm.trans hcontext')
  exact Except.ok.inj (ht.symm.trans ht')

/-- A derivation does not collide with itself. -/
theorem collisionFree_passphrase (r : RecipientRecord) (a : ApplicationId) (d out : Bytes 32) :
    CollisionFree (.passphrase r a d out) (.passphrase r a d out) := by
  refine ⟨?_, ?_⟩
  · rw [Set.union_self]
    rintro ⟨ikm, salt, info⟩ ⟨rfl, rfl, hinfo⟩ ⟨ikm', salt', info'⟩ ⟨rfl, rfl, hinfo'⟩ -
    obtain rfl : info = info' := recipientInfos_subsingleton _ _ _ _ hinfo hinfo'
    rfl
  · rw [Set.union_self]
    exact (contextTranscripts_subsingleton r a d).injOn _

section Vectors

omit [Primitives]

/-- The PRF input of the combined vector. -/
def combinedInput : Bytes 32 :=
  Bytes.ofNat 32 0xf628ce23ecec45f81740fb57ebae450488ae01f780f89b57d034ecae424ea122

/-- The label of a passphrase or FIDO record is not bound: renaming keeps the key of the passphrase
vector and the PRF input of the combined one. -/
theorem renamed_records_keep_keys :
    let renamed := { Vector.passphraseRecord with label := "renamed" }
    let renamed' := { Vector.combinedRecord with label := "renamed" }
    KeyDerivation.bound (.passphrase (.passphrase Vector.passphraseRecord) Vector.application
        Vector.passphraseEnvelopeId Vector.argon2Output) =
      KeyDerivation.bound (.passphrase (.passphrase renamed) Vector.application
        Vector.passphraseEnvelopeId Vector.argon2Output) ∧
      RecipientRecord.bound (.fidoAndPassphrase Vector.combinedRecord) =
        RecipientRecord.bound (.fidoAndPassphrase renamed') := by
  constructor
  · let _ := Vector.primitives
    let p : Passphrase := ⟨Vector.passphrase, Vector.passphrase_accepted⟩
    have hkey : passphraseKeyOf (.passphrase Vector.passphraseRecord) Vector.application
        Vector.passphraseEnvelopeId p = .ok ⟨Vector.passphraseKey⟩ := by decide +kernel
    have hout : argon2Of p Vector.passphraseRecord.kdf = .ok Vector.argon2Output := by
      decide +kernel
    have hfree := collisionFree_passphrase (.passphrase Vector.passphraseRecord)
      Vector.application Vector.passphraseEnvelopeId Vector.argon2Output
    exact keys_separate.1 ⟨hfree.hkdf, hfree.sha256⟩
      (.passphrase rfl (runs_argon2Output_ok.mpr ⟨hout, rfl⟩)
        (runs_derivePassphraseKey_ok.mpr ⟨hkey, _, rfl, rfl⟩))
      (.passphrase rfl (runs_argon2Output_ok.mpr ⟨hout, rfl⟩)
        (runs_derivePassphraseKey_ok.mpr ⟨hkey, _, rfl, rfl⟩))
  · let _ := Vector.combinedRecording.primitives
    let renamed' := { Vector.combinedRecord with label := "renamed" }
    have hinput : prfInput (.fidoAndPassphrase Vector.combinedRecord) Vector.application
        Vector.combinedEnvelopeId = .ok combinedInput := by decide +kernel
    have hinput' : prfInput (.fidoAndPassphrase renamed') Vector.application
        Vector.combinedEnvelopeId = .ok combinedInput := by decide +kernel
    -- both records have one context transcript and one PRF transcript
    have hcontext := (contextTranscripts_subsingleton (.fidoAndPassphrase Vector.combinedRecord)
      Vector.application Vector.combinedEnvelopeId).injOn Primitives.sha256
    have hprf := (prfTranscripts_subsingleton (.fidoAndPassphrase Vector.combinedRecord)
      Vector.application Vector.combinedEnvelopeId).injOn Primitives.sha256
    rw [← Set.union_self (contextTranscripts _ _ _)] at hcontext
    rw [← Set.union_self (prfTranscripts _ _ _)] at hprf
    exact (keys_separate.2 hcontext hprf hinput hinput').2.2

end Vectors

end FidoKeyWrap.Crypto
