/-
# FidoKeyWrap.ContextBinding — a context determines everything it binds.

The context transcripts of the suites are written separately, with their fields in different
orders. Read as field lists they are one injective function: the suite code in the third field
selects the suite, and every later field of that suite has its place (`contextFields_injective`).
What a context leaves out is the ciphertext, and the label except in the recovery-secret and the
local-secret suite; `bound` is a record without what its context leaves out.

From that, a ciphertext cannot be moved (`unwrap_only_where_wrapped`): under an ideal AEAD an
unwrap function that accepts what a wrap function made runs in the same layer, under the same key,
for the same application and envelope, on a record with the same bound fields.
-/
import FidoKeyWrap.Crypto
import FidoKeyWrap.Vector

namespace FidoKeyWrap

open ByteData Interact

/-! ## What a context binds -/

/-- Every field but the label and the ciphertext. -/
def PassphraseRecipient.bound (r : PassphraseRecipient) : PassphraseRecipient :=
  { r with label := "", wrappedRoot := Bytes.zero 48 }

/-- Every field but the ciphertext. -/
def RecoverySecretRecord.bound (r : RecoverySecretRecord) : RecoverySecretRecord :=
  { r with wrappedRoot := Bytes.zero 48 }

/-- Every field but the label and the ciphertext. -/
def FidoRecipient.bound (r : FidoRecipient) : FidoRecipient :=
  { r with label := "", wrappedRoot := Bytes.zero 48 }

/-- Every field but the label and the ciphertext. -/
def FidoAndPassphraseRecipient.bound (r : FidoAndPassphraseRecipient) :
    FidoAndPassphraseRecipient :=
  { r with label := "", wrappedRoot := Bytes.zero 64 }

/-- Every field but the ciphertext. -/
def FidoAndLocalSecretRecipient.bound (r : FidoAndLocalSecretRecipient) :
    FidoAndLocalSecretRecipient :=
  { r with wrappedRoot := Bytes.zero 48 }

/-- **`bound`** — the part of a record its context determines: the suite and every context field. -/
def RecipientRecord.bound : RecipientRecord → RecipientRecord
  | .passphrase r => .passphrase r.bound
  | .recoverySecret r => .recoverySecret r.bound
  | .fido r => .fido r.bound
  | .fidoAndPassphrase r => .fidoAndPassphrase r.bound
  | .fidoAndLocalSecret r => .fidoAndLocalSecret r.bound

namespace Crypto

variable [Primitives]

/-- The fields of a record's context transcript. -/
def contextFields (recipient : RecipientRecord) (application : ApplicationId)
    (envelopeId : Bytes 32) : List ByteString :=
  let kdfFields (kdf : KdfDescriptor) :=
    [argon2idKdf, toBeBytes kdf.parameters.memoryKib, toBeBytes kdf.parameters.passes,
      [kdf.parameters.lanes], kdf.salt.toList]
  let fields := match recipient with
    | .passphrase r =>
      [passphraseSuite, application.asBytes, envelopeId.toList, r.id.asBytes.toList]
        ++ kdfFields r.kdf ++ [r.passphraseNonce.toList]
    | .recoverySecret r =>
      [recoverySecretSuite, application.asBytes, envelopeId.toList, r.id.asBytes.toList,
        utf8 r.label, r.recoveryNonce.toList]
    | .fido r =>
      [match r.storage with
        | .nonDiscoverable => fidoSuite
        | .managed => managedFidoSuite,
        application.asBytes, envelopeId.toList, r.id.asBytes.toList, r.credentialId,
        r.publicKey.asBytes.toList, [r.policy.code], r.prfNonce.toList, r.fidoNonce.toList]
    | .fidoAndPassphrase r =>
      [combinedSuite, application.asBytes, envelopeId.toList, r.id.asBytes.toList, r.credentialId,
        r.publicKey.asBytes.toList, [r.policy.code], r.prfNonce.toList, r.fidoNonce.toList]
        ++ kdfFields r.kdf ++ [r.passphraseNonce.toList]
    | .fidoAndLocalSecret r =>
      [fidoAndLocalSecretSuite, application.asBytes, envelopeId.toList, r.id.asBytes.toList,
        utf8 r.label, r.credentialId, r.publicKey.asBytes.toList, r.prfNonce.toList,
        r.wrapNonce.toList]
  recipientContextDomain :: format :: fields

omit [Primitives] in
theorem recipientContextTranscript_eq (r : RecipientRecord) (a : ApplicationId) (d : Bytes 32) :
    recipientContextTranscript r a d = Transcript.encode (contextFields r a d) := by
  cases r <;> rfl

omit [Primitives] in
theorem toBeBytes_inj {m n : UInt32} : toBeBytes m = toBeBytes n ↔ m = n := by
  constructor
  · intro h
    exact UInt32.toNat.inj (beBytes_injective (w := 4) m.toNat_lt n.toNat_lt h)
  · rintro rfl
    rfl

omit [Primitives] in
/-- **The context transcripts are jointly injective**, over all suites and all their fields. -/
theorem contextFields_injective {r r' : RecipientRecord} {a a' : ApplicationId} {d d' : Bytes 32}
    (h : contextFields r a d = contextFields r' a' d') : a = a' ∧ d = d' ∧ r.bound = r'.bound := by
  cases r <;> cases r' <;>
    simp only [contextFields, List.cons_append, List.nil_append, List.cons.injEq, true_and,
      and_true, Bytes.toList_inj, ApplicationId.asBytes_inj, utf8_inj, toBeBytes_inj,
      FidoPolicy.code_inj, reduceCtorEq, and_false] at h
  -- all suites but two have different numbers of fields
  case passphrase.passphrase p q =>
    obtain ⟨⟨id⟩, label, ⟨⟨m, t, l, _⟩, salt⟩, nonce, wrapped⟩ := p
    obtain ⟨⟨id'⟩, label', ⟨⟨m', t', l', _⟩, salt'⟩, nonce', wrapped'⟩ := q
    obtain ⟨rfl, rfl, rfl, rfl, rfl, rfl, rfl, rfl⟩ := h
    exact ⟨rfl, rfl, rfl⟩
  case recoverySecret.recoverySecret p q =>
    obtain ⟨⟨id⟩, label, nonce, wrapped⟩ := p
    obtain ⟨⟨id'⟩, label', nonce', wrapped'⟩ := q
    obtain ⟨rfl, rfl, rfl, rfl, rfl⟩ := h
    exact ⟨rfl, rfl, rfl⟩
  case fido.fido p q =>
    obtain ⟨⟨id⟩, label, cred, ⟨key⟩, policy, storage, prf, nonce, wrapped⟩ := p
    obtain ⟨⟨id'⟩, label', cred', ⟨key'⟩, policy', storage', prf', nonce', wrapped'⟩ := q
    obtain ⟨hsuite, rfl, rfl, rfl, rfl, rfl, rfl, rfl, rfl⟩ := h
    have hstorage : storage = storage' := by
      cases storage <;> cases storage' <;> simp [fidoSuite, managedFidoSuite] at hsuite ⊢
    exact ⟨rfl, rfl, by rw [hstorage]; rfl⟩
  case fido.fidoAndLocalSecret p q =>
    -- here the suite code alone tells the two contexts apart
    obtain ⟨hsuite, -⟩ := h
    cases hs : p.storage <;>
      simp [hs, fidoSuite, managedFidoSuite, fidoAndLocalSecretSuite] at hsuite
  case fidoAndLocalSecret.fido p q =>
    obtain ⟨hsuite, -⟩ := h
    cases hs : q.storage <;>
      simp [hs, fidoSuite, managedFidoSuite, fidoAndLocalSecretSuite] at hsuite
  case fidoAndPassphrase.fidoAndPassphrase p q =>
    obtain ⟨⟨id⟩, label, cred, ⟨key⟩, policy, prf, fnonce, ⟨⟨m, t, l, _⟩, salt⟩, nonce, wrapped⟩ :=
      p
    obtain ⟨⟨id'⟩, label', cred', ⟨key'⟩, policy', prf', fnonce', ⟨⟨m', t', l', _⟩, salt'⟩, nonce',
      wrapped'⟩ := q
    obtain ⟨rfl, rfl, rfl, rfl, rfl, rfl, rfl, rfl, rfl, rfl, rfl, rfl, rfl⟩ := h
    exact ⟨rfl, rfl, rfl⟩
  case fidoAndLocalSecret.fidoAndLocalSecret p q =>
    obtain ⟨⟨id⟩, label, cred, ⟨key⟩, prf, nonce, wrapped⟩ := p
    obtain ⟨⟨id'⟩, label', cred', ⟨key'⟩, prf', nonce', wrapped'⟩ := q
    obtain ⟨rfl, rfl, rfl, rfl, rfl, rfl, rfl, rfl⟩ := h
    exact ⟨rfl, rfl, rfl⟩

/-- The transcripts hashed into the context of a record: none, or one. -/
def contextTranscripts (r : RecipientRecord) (a : ApplicationId) (d : Bytes 32) :
    Set ByteString :=
  {t | recipientContextTranscript r a d = .ok t}

omit [Primitives] in
theorem contextTranscripts_subsingleton (r : RecipientRecord) (a : ApplicationId) (d : Bytes 32) :
    (contextTranscripts r a d).Subsingleton :=
  fun _ h _ h' => Except.ok.inj (Eq.trans (Eq.symm h) h')

theorem recipientContext_eq_ok {r : RecipientRecord} {a : ApplicationId} {d context : Bytes 32} :
    recipientContext r a d = .ok context ↔
      ∃ t ∈ contextTranscripts r a d, context = Primitives.sha256 t := by
  simp only [recipientContext, except_bind_eq_ok, except_pure_eq_ok]
  rfl

/-- **Equal contexts bind equal fields**, where SHA-256 has no collision on the two transcripts. -/
theorem recipientContext_inj {r r' : RecipientRecord} {a a' : ApplicationId}
    {d d' context : Bytes 32}
    (sha : Set.InjOn Primitives.sha256 (contextTranscripts r a d ∪ contextTranscripts r' a' d'))
    (h : recipientContext r a d = .ok context) (h' : recipientContext r' a' d' = .ok context) :
    a = a' ∧ d = d' ∧ r.bound = r'.bound := by
  obtain ⟨t, ht, heq⟩ := recipientContext_eq_ok.mp h
  obtain ⟨t', ht', heq'⟩ := recipientContext_eq_ok.mp h'
  have htt : t = t' := sha (.inl ht) (.inr ht') (heq.symm.trans heq')
  subst htt
  change recipientContextTranscript r a d = .ok t at ht
  change recipientContextTranscript r' a' d' = .ok t at ht'
  rw [recipientContextTranscript_eq] at ht ht'
  exact contextFields_injective (Transcript.encode_injective ht ht')

/-! ## Layers of authenticated encryption -/

/-- The six layers a root is wrapped in: one a suite, two for the combined suite. -/
inductive LayerKind where
  | passphrase
  | recoverySecret
  | fido
  | fidoLocal
  | combinedInner
  | combinedOuter
  deriving DecidableEq

def LayerKind.aadDomain : LayerKind → ByteString
  | passphrase => passphraseAadDomain
  | recoverySecret => recoverySecretAadDomain
  | fido => fidoAadDomain
  | fidoLocal => fidoLocalAadDomain
  | combinedInner => combinedPassphraseAadDomain
  | combinedOuter => combinedFidoAadDomain

omit [Primitives] in
/-- No two layers share a domain. -/
theorem LayerKind.aadDomain_injective {k k' : LayerKind} (h : k.aadDomain = k'.aadDomain) :
    k = k' := by
  cases k <;> cases k' <;> first | rfl | exact absurd h (by decide)

/-- One layer: the record of its suite, and for the combined suite which of its two layers. -/
inductive Layer where
  | passphrase (r : PassphraseRecipient)
  | recoverySecret (r : RecoverySecretRecord)
  | fido (r : FidoRecipient)
  | fidoLocal (r : FidoAndLocalSecretRecipient)
  | combinedInner (r : FidoAndPassphraseRecipient)
  | combinedOuter (r : FidoAndPassphraseRecipient)

namespace Layer

def record : Layer → RecipientRecord
  | passphrase r => .passphrase r
  | recoverySecret r => .recoverySecret r
  | fido r => .fido r
  | fidoLocal r => .fidoAndLocalSecret r
  | combinedInner r => .fidoAndPassphrase r
  | combinedOuter r => .fidoAndPassphrase r

/-- A layer with the bound part of its record: the suite, the layer and every context field. -/
def bound : Layer → Layer
  | passphrase r => .passphrase r.bound
  | recoverySecret r => .recoverySecret r.bound
  | fido r => .fido r.bound
  | fidoLocal r => .fidoLocal r.bound
  | combinedInner r => .combinedInner r.bound
  | combinedOuter r => .combinedOuter r.bound

def nonce : Layer → Bytes 12
  | passphrase r => r.passphraseNonce
  | recoverySecret r => r.recoveryNonce
  | fido r => r.fidoNonce
  | fidoLocal r => r.wrapNonce
  | combinedInner r => r.passphraseNonce
  | combinedOuter r => r.fidoNonce

def kind : Layer → LayerKind
  | passphrase _ => .passphrase
  | recoverySecret _ => .recoverySecret
  | fido _ => .fido
  | fidoLocal _ => .fidoLocal
  | combinedInner _ => .combinedInner
  | combinedOuter _ => .combinedOuter

/-- The associated data of a layer. -/
def aad (layer : Layer) (a : ApplicationId) (d : Bytes 32) : Result ByteString := do
  let context ← recipientContext layer.record a d
  Transcript.encode [layer.kind.aadDomain, context.toList]

omit [Primitives] in
/-- The kind and the record's bound part select the layer. -/
theorem bound_eq {layer layer' : Layer} (hkind : layer.kind = layer'.kind)
    (hrecord : layer.record.bound = layer'.record.bound) : layer.bound = layer'.bound := by
  cases layer <;> cases layer' <;> cases hkind <;>
    simpa only [record, RecipientRecord.bound, bound, RecipientRecord.passphrase.injEq,
      RecipientRecord.recoverySecret.injEq, RecipientRecord.fido.injEq,
      RecipientRecord.fidoAndPassphrase.injEq, RecipientRecord.fidoAndLocalSecret.injEq,
      passphrase.injEq, recoverySecret.injEq, fido.injEq, fidoLocal.injEq, combinedInner.injEq,
      combinedOuter.injEq] using hrecord

end Layer

/-- The wrap function of a layer, under a key, made the ciphertext. -/
inductive Wraps : Layer → ApplicationId → Bytes 32 → DerivedKey → ByteString → Prop
  | passphrase {r a d root key c} :
      wrapPassphraseRoot r a d root key = .ok c → Wraps (.passphrase r) a d key c.toList
  | recoverySecret {r a d root key c} :
      wrapRecoverySecretRoot r a d root key = .ok c → Wraps (.recoverySecret r) a d key c.toList
  | fido {r a d root key c} :
      wrapFidoRoot r a d root key = .ok c → Wraps (.fido r) a d key c.toList
  | fidoLocal {r a d root key c} :
      wrapFidoLocalRoot r a d root key = .ok c → Wraps (.fidoLocal r) a d key c.toList
  | combinedInner {r a d root key c} :
      wrapCombinedInner r a d root key = .ok c → Wraps (.combinedInner r) a d key c.toList
  | combinedOuter {r a d inner key c} :
      wrapCombinedOuter r a d inner key = .ok c → Wraps (.combinedOuter r) a d key c.toList

/-- The unwrap function of a layer, under a key, accepts the ciphertext. -/
inductive Unwraps : Layer → ApplicationId → Bytes 32 → DerivedKey → ByteString → Prop
  | passphrase {r a d key root} :
      unwrapPassphraseRoot r a d key = .ok root →
        Unwraps (.passphrase r) a d key r.wrappedRoot.toList
  | recoverySecret {r a d key root} :
      unwrapRecoverySecretRoot r a d key = .ok root →
        Unwraps (.recoverySecret r) a d key r.wrappedRoot.toList
  | fido {r a d key root} :
      unwrapFidoRoot r a d key = .ok root → Unwraps (.fido r) a d key r.wrappedRoot.toList
  | fidoLocal {r a d key root} :
      unwrapFidoLocalRoot r a d key = .ok root →
        Unwraps (.fidoLocal r) a d key r.wrappedRoot.toList
  | combinedInner {r a d inner key root} :
      unwrapCombinedInner r a d inner key = .ok root →
        Unwraps (.combinedInner r) a d key inner.toList
  | combinedOuter {r a d key inner} :
      unwrapCombinedOuter r a d key = .ok inner →
        Unwraps (.combinedOuter r) a d key r.wrappedRoot.toList

/-! ## Ideal authenticated encryption -/

/-- An encryption under this key, nonce and associated data made the ciphertext, tag included. -/
def Encrypts (key : Bytes 32) (nonce : Bytes 12) (aad c : ByteString) : Prop :=
  ∃ n, ∃ plaintext body : Bytes n, ∃ tag,
    Primitives.aesGcmEncrypt key nonce aad plaintext = some (body, tag) ∧
      body.toList ++ tag.toList = c

/-- A decryption under this key, nonce and associated data accepts the ciphertext. -/
def Decrypts (key : Bytes 32) (nonce : Bytes 12) (aad c : ByteString) : Prop :=
  ∃ n, ∃ plaintext body : Bytes n, ∃ tag,
    Primitives.aesGcmDecrypt key nonce aad body tag = some plaintext ∧
      body.toList ++ tag.toList = c

/-- **`IdealAead c`** — the ciphertext is accepted only under the key, nonce and associated data of
an encryption that made it. -/
def IdealAead (c : ByteString) : Prop :=
  ∀ key nonce aad key' nonce' aad', Encrypts key nonce aad c → Decrypts key' nonce' aad' c →
    key' = key ∧ nonce' = nonce ∧ aad' = aad

theorem encrypts_of_encryptFixed {p c : Nat} {key : DerivedKey} {nonce : Bytes 12}
    {plaintext : Bytes p} {aad : ByteString} {out : Bytes c}
    (h : encryptFixed c key nonce plaintext aad = .ok out) :
    Encrypts key.asBytes nonce aad out.toList := by
  unfold encryptFixed at h
  split at h
  · simp only [except_bind_eq_ok, require_eq_ok, okOr_eq_ok, except_pure_eq_ok, Prod.exists] at h
    obtain ⟨-, -, body, tag, hcall, rfl⟩ := h
    exact ⟨p, plaintext, body, tag, hcall, rfl⟩
  · cases h

theorem decrypts_of_decryptFixed {p c : Nat} {key : DerivedKey} {nonce : Bytes 12}
    {ciphertext : Bytes c} {aad : ByteString} {out : Bytes p}
    (h : decryptFixed p key nonce ciphertext aad = .ok out) :
    Decrypts key.asBytes nonce aad ciphertext.toList := by
  unfold decryptFixed at h
  split at h
  · simp only [except_bind_eq_ok, require_eq_ok, okOr_eq_ok] at h
    obtain ⟨-, -, hcall⟩ := h
    exact ⟨p, out, _, _, hcall, List.take_append_drop p _⟩
  · cases h

/-- What a wrap function did. -/
theorem Wraps.encrypts {layer : Layer} {a : ApplicationId} {d : Bytes 32} {key : DerivedKey}
    {c : ByteString} (h : Wraps layer a d key c) :
    ∃ aad, layer.aad a d = .ok aad ∧ Encrypts key.asBytes layer.nonce aad c := by
  cases h <;> rename_i h <;>
    simp only [wrapPassphraseRoot, wrapRecoverySecretRoot, wrapFidoRoot, wrapFidoLocalRoot,
      wrapCombinedInner, wrapCombinedOuter, except_bind_eq_ok] at h <;>
    obtain ⟨context, hcontext, aad, haad, henc⟩ := h <;>
    exact ⟨aad, except_bind_eq_ok.mpr ⟨context, hcontext, haad⟩, encrypts_of_encryptFixed henc⟩

/-- What an accepting unwrap function did. -/
theorem Unwraps.decrypts {layer : Layer} {a : ApplicationId} {d : Bytes 32} {key : DerivedKey}
    {c : ByteString} (h : Unwraps layer a d key c) :
    ∃ aad, layer.aad a d = .ok aad ∧ Decrypts key.asBytes layer.nonce aad c := by
  cases h <;> rename_i h <;>
    simp only [unwrapPassphraseRoot, unwrapRecoverySecretRoot, unwrapFidoRoot, unwrapFidoLocalRoot,
      unwrapCombinedInner, unwrapCombinedOuter, except_bind_eq_ok] at h
  case combinedOuter =>
    obtain ⟨context, hcontext, aad, haad, hdec⟩ := h
    exact ⟨aad, except_bind_eq_ok.mpr ⟨context, hcontext, haad⟩, decrypts_of_decryptFixed hdec⟩
  all_goals
    obtain ⟨context, hcontext, aad, haad, root, hdec, -⟩ := h
    exact ⟨aad, except_bind_eq_ok.mpr ⟨context, hcontext, haad⟩, decrypts_of_decryptFixed hdec⟩

/-- **A ciphertext cannot be moved.** What the wrap function of a layer made is accepted by an
unwrap function only in the same layer, under the same key, for the same application and envelope,
and on a record with the same bound fields. -/
theorem unwrap_only_where_wrapped {layer layer' : Layer} {a a' : ApplicationId} {d d' : Bytes 32}
    {key key' : DerivedKey} {c : ByteString} (aead : IdealAead c)
    (sha : Set.InjOn Primitives.sha256
      (contextTranscripts layer.record a d ∪ contextTranscripts layer'.record a' d'))
    (hwrap : Wraps layer a d key c) (hunwrap : Unwraps layer' a' d' key' c) :
    key' = key ∧ a' = a ∧ d' = d ∧ layer'.bound = layer.bound := by
  obtain ⟨aad, haad, henc⟩ := hwrap.encrypts
  obtain ⟨aad', haad', hdec⟩ := hunwrap.decrypts
  obtain ⟨hkey, -, rfl⟩ := aead _ _ _ _ _ _ henc hdec
  -- equal associated data: equal domain and equal context
  obtain ⟨context, hcontext, hencode⟩ := except_bind_eq_ok.mp haad
  obtain ⟨context', hcontext', hencode'⟩ := except_bind_eq_ok.mp haad'
  have hfields := Transcript.encode_injective hencode hencode'
  simp only [List.cons.injEq, and_true, Bytes.toList_inj] at hfields
  obtain ⟨hdomain, rfl⟩ := hfields
  obtain ⟨rfl, rfl, hbound⟩ := recipientContext_inj sha hcontext hcontext'
  have hkind := LayerKind.aadDomain_injective hdomain
  exact ⟨DerivedKey.ext hkey, rfl, rfl, (Layer.bound_eq hkind hbound).symm⟩

/-! ## Recorded encryptions are ideal -/

section Recorded

omit [Primitives]

/-- A recording accepts what it recorded. -/
theorem exists_seal_of_decrypts {recording : Recording} {key : Bytes 32} {nonce : Bytes 12}
    {aad c : ByteString} (h : @Decrypts recording.primitives key nonce aad c) :
    ∃ s ∈ recording.seals, key = s.key ∧ nonce = s.nonce ∧ aad = s.aad ∧
      c = s.ciphertext ++ s.tag.toList := by
  obtain ⟨n, plaintext, body, tag, hdec, rfl⟩ := h
  obtain ⟨s, hs, -⟩ := Option.bind_eq_some_iff.mp hdec
  have hcall := List.find?_some hs
  simp only [decide_eq_true_eq] at hcall
  obtain ⟨rfl, rfl, rfl, hbody, rfl⟩ := hcall
  exact ⟨s, List.mem_of_find?_eq_some hs, rfl, rfl, rfl, by rw [hbody]⟩

/-- A recording whose ciphertexts are distinct is an ideal AEAD. -/
theorem idealAead_of_recording (recording : Recording)
    (distinct : (recording.seals.map fun s => s.ciphertext ++ s.tag.toList).Nodup)
    (c : ByteString) : @IdealAead recording.primitives c := by
  rintro key nonce aad key' nonce' aad' ⟨n, plaintext, body, tag, henc, hc⟩
    ⟨n', plaintext', body', tag', hdec, hc'⟩
  -- both calls look their arguments up among the recorded encryptions
  obtain ⟨s, hs, hseal⟩ := Option.bind_eq_some_iff.mp henc
  obtain ⟨ciphertext, hciphertext, hpair⟩ := Option.bind_eq_some_iff.mp hseal
  obtain ⟨rfl, rfl⟩ := Prod.mk.inj (Option.some.inj hpair)
  obtain ⟨s', hs', -⟩ := Option.bind_eq_some_iff.mp hdec
  have hcall := List.find?_some hs
  have hcall' := List.find?_some hs'
  simp only [decide_eq_true_eq] at hcall hcall'
  obtain ⟨rfl, rfl, rfl, -⟩ := hcall
  obtain ⟨rfl, rfl, rfl, hbody', rfl⟩ := hcall'
  have hsame : s' = s := by
    apply List.inj_on_of_nodup_map distinct (List.mem_of_find?_eq_some hs')
      (List.mem_of_find?_eq_some hs)
    rw [hbody', hc', ← hc, Bytes.ofList?_eq_some.mp hciphertext]
  subst hsame
  exact ⟨rfl, rfl, rfl⟩

/-- The passphrase vector: its ciphertext is accepted under another label, which the context of a
passphrase record leaves out. -/
theorem passphraseRecord_renamed_unwraps :
    let renamed := { Vector.passphraseRecord with label := "renamed" }
    (⟨Vector.passphraseKey⟩ : DerivedKey) = ⟨Vector.passphraseKey⟩ ∧
      Vector.application = Vector.application ∧
        Vector.passphraseEnvelopeId = Vector.passphraseEnvelopeId ∧
          (Layer.passphrase renamed).bound = (Layer.passphrase Vector.passphraseRecord).bound :=
  letI := Vector.primitives
  unwrap_only_where_wrapped (idealAead_of_recording _ (by decide +kernel) _)
    (by
      rintro t (ht | ht) t' (ht' | ht') - <;>
        exact Except.ok.inj ((show _ = _ from ht).symm.trans (show _ = _ from ht')))
    (Wraps.passphrase (show wrapPassphraseRoot Vector.passphraseRecord Vector.application
      Vector.passphraseEnvelopeId ⟨Vector.root⟩ ⟨Vector.passphraseKey⟩ =
        .ok Vector.passphraseRecord.wrappedRoot by decide +kernel))
    (Unwraps.passphrase (show unwrapPassphraseRoot { Vector.passphraseRecord with label := "renamed" }
      Vector.application Vector.passphraseEnvelopeId ⟨Vector.passphraseKey⟩ = .ok ⟨Vector.root⟩
        by decide +kernel))

end Recorded

end Crypto

end FidoKeyWrap
