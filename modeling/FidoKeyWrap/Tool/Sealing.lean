/-
# FidoKeyWrap.Tool.Sealing — what was sealed is unsealed, and nothing else is.

A successful `seal` leaves one container: the envelope of the root it created, and the plaintext
encrypted under a key of that root with the exact envelope bytes as associated data (`Sealed`). The
envelope is decoded and encoded again on the way in and used as bytes on the way out; both are the
envelope of the creation, because staging ended in a decode.

With the file unchanged and the same factors `unseal` returns the plaintext. For every other file an
unlock that yields the root gets no further: a container that decrypts was encrypted under that root,
and the world encrypted one.
-/
import FidoKeyWrap.KeySeparation
import FidoKeyWrap.Tool.Application

namespace FidoKeyWrap.Tool

open ByteData Interact

variable [Primitives]

/-! ## The cipher -/

section Cipher

variable {root : RootKey} {a : ApplicationId} {key : Bytes 32} {nonce : Bytes 12}
  {aad c envelope plaintext : ByteString} {secret : EncryptedSecret}

theorem openCiphertext_eq_some {n : Nat} {message body : Bytes n} {tag : Bytes 16}
    (h : Primitives.aesGcmDecrypt key nonce aad body tag = some message) :
    EncryptedSecret.openCiphertext key nonce aad (body.toList ++ tag.toList) =
      some message.toList := by
  have hlength : (body.toList ++ tag.toList).length - tagBytes = n := by
    rw [List.length_append, body.length_eq, tag.length_eq]
    exact Nat.add_sub_cancel n 16
  have htake : (body.toList ++ tag.toList).take n = body.toList := List.take_left' body.length_eq
  have hdrop : (body.toList ++ tag.toList).drop n = tag.toList := List.drop_left' body.length_eq
  unfold EncryptedSecret.openCiphertext
  generalize (body.toList ++ tag.toList).length - tagBytes = length at hlength ⊢
  subst hlength
  simp only [htake, hdrop, Bytes.ofList?_toList, Option.bind_eq_bind, Option.bind_some, h]
  rfl

theorem decrypts_of_openCiphertext
    (h : EncryptedSecret.openCiphertext key nonce aad c = some plaintext) :
    Crypto.Decrypts key nonce aad c := by
  simp only [EncryptedSecret.openCiphertext, Option.bind_eq_bind, Option.bind_eq_some_iff] at h
  obtain ⟨body, hbody, tag, htag, message, hmessage, -⟩ := h
  refine ⟨_, message, body, tag, hmessage, ?_⟩
  rw [← Bytes.ofList?_eq_some.mp hbody, ← Bytes.ofList?_eq_some.mp htag, List.take_append_drop]

/-- What an encryption called. -/
theorem encryptWithNonce_eq_ok
    (h : EncryptedSecret.encryptWithNonce root a envelope plaintext nonce = .ok secret) :
    ¬ (plaintext = [] ∨ maxSecretBytes < plaintext.length) ∧ secret.nonce = nonce ∧
      ∃ key aad, deriveSecretKey root a = .ok key ∧
        Primitives.aes256Accepts key.toList = true ∧ secretAad envelope = .ok aad ∧
          ∃ body tag, Primitives.aesGcmEncrypt key nonce aad ⟨plaintext, rfl⟩ = some (body, tag) ∧
            secret.ciphertext = body.toList ++ tag.toList := by
  simp only [EncryptedSecret.encryptWithNonce, except_bind_eq_ok, require_eq_ok, okOr_eq_ok,
    except_pure_eq_ok, Prod.exists] at h
  obtain ⟨-, -, -, hplaintext, key, hkey, -, haccepts, aad, haad, body, tag, hcall, rfl⟩ := h
  exact ⟨hplaintext, rfl, key, aad, hkey, haccepts, haad, body, tag, hcall, rfl⟩

/-- What an encryption made decrypts to its plaintext. -/
theorem decrypt_of_encryptWithNonce (inverts : AeadInverts)
    (h : EncryptedSecret.encryptWithNonce root a envelope plaintext nonce = .ok secret) :
    secret.decrypt root a envelope = .ok plaintext := by
  obtain ⟨file, hfile⟩ := new_of_encryptWithNonce h
  obtain ⟨rfl, hvalid⟩ := new_eq_ok.mp hfile
  obtain ⟨hplaintext, rfl, key, aad, hkey, haccepts, haad, body, tag, hcall, hciphertext⟩ :=
    encryptWithNonce_eq_ok h
  have hopen := openCiphertext_eq_some (inverts key secret.nonce aad _ _ _ hcall)
  rw [← hciphertext] at hopen
  simp only [EncryptedSecret.decrypt, except_bind_eq_ok, validateEnvelopeLen, validateCiphertextLen,
    validateLength_eq_ok, require_eq_ok, okOr_eq_ok, except_pure_eq_ok]
  exact ⟨(), hvalid.envelope, (), hvalid.ciphertext, key, hkey, (), haccepts, aad, haad, plaintext,
    hopen, (), hplaintext, rfl⟩

/-- What a decryption accepted. -/
theorem decrypts_of_decrypt (h : secret.decrypt root a envelope = .ok plaintext) :
    ∃ key aad, deriveSecretKey root a = .ok key ∧ secretAad envelope = .ok aad ∧
      Crypto.Decrypts key secret.nonce aad secret.ciphertext := by
  simp only [EncryptedSecret.decrypt, except_bind_eq_ok, okOr_eq_ok, except_pure_eq_ok] at h
  obtain ⟨-, -, -, -, key, hkey, -, -, aad, haad, message, hopen, -, -, rfl⟩ := h
  exact ⟨key, aad, hkey, haad, decrypts_of_openCiphertext hopen⟩

end Cipher

/-! ## What a sealing leaves -/

/-- **`Sealed app path access plaintext t root file`** — the run created the root and its envelope,
encrypted the plaintext under the root with the exact bytes of that envelope, and saved the container
of both. -/
structure Sealed (app : Application) (path : Path) (access : Access) (plaintext : ByteString)
    (t : Trace world) (root : RootKey) (file : SecretFile) : Prop where
  created : ∃ request envelope id, enrollment access = .ok request ∧
    (app.protector.createRoot request).run.Runs (lefts t) (.ok (root, envelope, id)) ∧
      app.validateEnvelope envelope = .ok () ∧ file.envelope = envelope.encode
  encrypted : EncryptedSecret.encryptWithNonce root app.trustedId file.envelope plaintext
    file.secret.nonce = .ok file.secret
  valid : file.Valid
  saved : Saves path file.layout (rights t)

section Seal

variable {app : Application} {path : Path} {access : Access} {plaintext content : ByteString}
  {root : RootKey} {envelope : KeyEnvelope} {file : SecretFile} {t : Trace world}

/-- A created envelope is canonical already. -/
theorem canonical_eq_ok {e : KeyEnvelope} (hdecode : KeyEnvelope.decode envelope.encode = .ok envelope)
    (h : app.canonical envelope = .ok e) :
    e = envelope ∧ app.validateEnvelope envelope = .ok () := by
  simp only [Application.canonical, except_bind_eq_ok, except_mapError_eq_ok,
    except_pure_eq_ok] at h
  obtain ⟨decoded, hdecoded, _, hvalidate, rfl⟩ := h
  rw [hdecode] at hdecoded
  cases hdecoded
  exact ⟨rfl, hvalidate⟩

theorem runs_prepareContainer_ok
    (hdecode : KeyEnvelope.decode envelope.encode = .ok envelope)
    (h : (app.prepareContainer root envelope plaintext).run.Runs t (.ok content)) :
    ∃ secret, app.validateEnvelope envelope = .ok () ∧
      t = [(⟨Call.random 12, some secret.nonce⟩ : Event os)].map Event.right ∧
        EncryptedSecret.encryptWithNonce root app.trustedId envelope.encode plaintext secret.nonce =
          .ok secret ∧
          (SecretFile.mk envelope.encode secret).Valid ∧
            content = (SecretFile.mk envelope.encode secret).layout := by
  obtain ⟨e, hcanonical, h₁⟩ := Fallible.runs_except_bind_ok.mp h
  obtain ⟨rfl, hvalidate⟩ := canonical_eq_ok hdecode hcanonical
  obtain ⟨t₁, secret, t₂, rfl, hstorage, h₂⟩ := Fallible.runs_bind_ok.mp h₁
  obtain ⟨v, rfl, hencrypt⟩ := Fallible.runs_right_ok.mp hstorage
  obtain ⟨nonce, rfl, hencrypted⟩ := runs_encrypt_ok hencrypt
  obtain ⟨file, hnew, h₃⟩ := Fallible.runs_except_bind_ok.mp h₂
  obtain ⟨rfl, hvalid⟩ := new_eq_ok.mp (except_mapError_eq_ok.mp hnew)
  obtain ⟨rfl, hencode⟩ := Fallible.runs_except.mp h₃
  obtain ⟨-, -, rfl⟩ := encode_eq_ok.mp (except_mapError_eq_ok.mp hencode.symm)
  obtain ⟨-, rfl, -⟩ := encryptWithNonce_eq_ok hencrypted
  exact ⟨secret, hvalidate, List.append_nil _, hencrypted, hvalid, rfl⟩

/-- The four parts of a sealing: the destination, the creation, the container, the file. -/
theorem sealed_of_parts {request : Enrollment} {recipient : RecipientId} {v₁ v₃ : Trace os}
    {v₂ : Trace host} {t₂ : Trace world} {u u' : Unit}
    (habsent : (ensureAbsent path).run.Runs v₁ (.ok u)) (hrequest : enrollment access = .ok request)
    (hcreate : (app.protector.createRoot request).run.Runs v₂ (.ok (root, envelope, recipient)))
    (hprepare : (app.prepareContainer root envelope plaintext).run.Runs t₂ (.ok content))
    (hsave : (createAtomic path content).run.Runs v₃ (.ok u')) :
    ∃ file, content = file.layout ∧ Sealed app path access plaintext
      (v₁.map Event.right ++ (v₂.map Event.left ++ (t₂ ++ v₃.map Event.right))) root file := by
  -- staging ended in a decode of the created envelope
  have hdecode : KeyEnvelope.decode envelope.encode = .ok envelope :=
    (sound_of_start (.created (.createRoot hcreate))).committed.decodes
  obtain ⟨secret, hvalidate, rfl, hencrypted, hvalid, rfl⟩ := runs_prepareContainer_ok hdecode hprepare
  refine ⟨⟨envelope.encode, secret⟩, rfl, ?_, hencrypted, hvalid, ?_⟩
  · refine ⟨request, envelope, recipient, hrequest, ?_, hvalidate, rfl⟩
    simpa only [lefts_append, lefts_map_left, lefts_map_right, List.nil_append, List.append_nil]
      using hcreate
  · simp only [rights_append, rights_map_left, rights_map_right, List.nil_append]
    refine Saves.append_left (Saves.append_left (saves_of_createAtomic hsave).2 ?_)
      (quiet_ensureAbsent habsent)
    intro event hmem
    rw [List.mem_singleton.mp hmem]
    exact id

/-- **What a successful sealing did.** -/
theorem sealed_of_runs {u : Unit} (h : (app.seal path access plaintext).run.Runs t (.ok u)) :
    ∃ root file, Sealed app path access plaintext t root file := by
  obtain ⟨t₁, _, t₂, rfl, hstorage, h₁⟩ := Fallible.runs_bind_ok.mp h
  obtain ⟨v₁, rfl, habsent⟩ := Fallible.runs_right_ok.mp hstorage
  obtain ⟨_, -, h₂⟩ := Fallible.runs_except_bind_ok.mp h₁
  obtain ⟨request, hrequest, h₃⟩ := Fallible.runs_except_bind_ok.mp h₂
  obtain ⟨t₃, ⟨root, envelope, recipient⟩, t₄, rfl, hlibrary, h₄⟩ := Fallible.runs_bind_ok.mp h₃
  obtain ⟨v₂, rfl, hcreate⟩ := Fallible.runs_left_ok.mp hlibrary
  obtain ⟨t₅, content, t₆, rfl, hprepare, h₅⟩ := Fallible.runs_bind_ok.mp h₄
  obtain ⟨v₃, rfl, hsave⟩ := Fallible.runs_right_ok.mp h₅
  obtain ⟨file, -, h⟩ := sealed_of_parts habsent hrequest hcreate hprepare hsave
  exact ⟨root, file, h⟩

omit [Primitives] in
theorem validateEnvelope_eq_ok {u : Unit} (h : app.validateEnvelope envelope = .ok u) :
    ∃ record, envelope.recipients = [record] ∧ record.policy ≠ .recoverySecret ∧
      record.policy ≠ .fidoPresenceAndLocalSecret := by
  simp only [Application.validateEnvelope, except_bind_eq_ok] at h
  obtain ⟨-, -, h⟩ := h
  split at h
  · rename_i record hrecipients
    refine ⟨record, hrecipients, fun hpolicy => ?_, fun hpolicy => ?_⟩ <;>
      · rw [hpolicy] at h
        cases h
  · cases h

end Seal

/-! ## Unsealing an unchanged file -/

/-- The replies to an unsealing of an unchanged file with the same factors: the file holds the
content, the user types what is held, memory is granted, the authenticator evaluates its PRF. -/
def Unchanged (prf : Prf) (held : Held) (path : Path) (opened : File) (content : ByteString) :
    Event world → Prop
  | ⟨.inl query, reply⟩ => Cooperates prf held ⟨query, reply⟩
  | ⟨.inr call, reply⟩ => Holds path opened content ⟨call, reply⟩

section Unseal

variable {app : Application} {path : Path} {access : Access} {plaintext : ByteString}
  {root : RootKey} {file : SecretFile} {t : Trace world} {prf : Prf} {opened : File}

/-- The created envelope is unlocked by what its creator was asked for. -/
theorem returns_unlock_created {request : Enrollment} {envelope : KeyEnvelope} {id : RecipientId}
    {u : Trace host}
    (hcreate : (app.protector.createRoot request).run.Runs u (.ok (root, envelope, id)))
    (hhonest : ∀ event ∈ u, Honest prf event)
    (hvalidate : app.validateEnvelope envelope = .ok ()) :
    ∃ record, envelope.recipients = [record] ∧
      Fallible.Returns (Cooperates prf (Held.typed u)) (app.protector.unlock envelope record.id)
        root := by
  have hcreated := Created.createRoot hcreate
  have hsound := sound_of_start (.created hcreated)
  obtain ⟨envelopeId, record, keys, -, hadds, henrolled⟩ := founds_of_created hcreated
  obtain ⟨found, hrecipients, hrecovery, hlocal⟩ := validateEnvelope_eq_ok hvalidate
  -- the one record of the envelope is the one the creation added
  have hmem : record ∈ envelope.recipients := hadds.inserts.added.mem_iff.mpr List.mem_cons_self
  obtain rfl : record = found := by
    rw [hrecipients, List.mem_singleton] at hmem
    exact hmem
  refine ⟨record, hrecipients, ?_⟩
  have hopens := opens_congr hadds.identity (opens_of_enrolled (henrolled prf hhonest) hadds.recovers)
  rw [hsound.application] at hopens
  exact returns_unlock hsound.application hsound.committed hmem (admits_createRoot hcreate record hmem)
    (returns_openRecord hopens hrecovery hlocal)

/-- **An unchanged file is unsealed.** -/
theorem returns_unseal (inverts : AeadInverts) (h : Sealed app path access plaintext t root file)
    (hhonest : ∀ event ∈ lefts t, Honest prf event) :
    Fallible.Returns (Unchanged prf (Held.typed (lefts t)) path opened file.layout)
      (app.unseal path) plaintext := by
  obtain ⟨request, envelope, id, -, hcreate, hvalidate, henvelope⟩ := h.created
  have hdecode : KeyEnvelope.decode envelope.encode = .ok envelope :=
    (sound_of_start (.created (.createRoot hcreate))).committed.decodes
  obtain ⟨record, hrecipients, hunlock⟩ := returns_unlock_created hcreate hhonest hvalidate
  have hload : Fallible.Returns (Unchanged prf (Held.typed (lefts t)) path opened file.layout)
      (app.load path) ⟨file, envelope⟩ := by
    refine Fallible.returns_bind (Fallible.returns_right (returns_readPrivate ?_)) ?_
    · exact h.valid.length_layout_le.trans (by decide)
    · refine Fallible.returns_except ?_
      simp only [Application.parse, except_bind_eq_ok, except_mapError_eq_ok, except_pure_eq_ok]
      refine ⟨file, decode_layout h.valid, envelope, ?_, (), hvalidate, rfl⟩
      rw [henvelope]
      exact hdecode
  apply Fallible.returns_bind hload
  have hhead : okOr envelope.recipients.head? (Failure.panic "index out of bounds") = .ok record := by
    rw [hrecipients]
    rfl
  apply Fallible.returns_bind (Fallible.returns_except_bind hhead (Fallible.returns_left hunlock))
  refine Fallible.returns_except (except_mapError_eq_ok.mpr ?_)
  exact decrypt_of_encryptWithNonce inverts h.encrypted

end Unseal

/-! ## Any other file -/

/-- **`Performed root a file key nonce aad c`** — the encryptions of a world that sealed one container
under the root: of that container, of the wraps of the library, and of the tool under other roots. -/
inductive Performed (root : RootKey) (a : ApplicationId) (file : SecretFile) :
    Bytes 32 → Bytes 12 → ByteString → ByteString → Prop
  | container {key aad} :
      deriveSecretKey root a = .ok key → secretAad file.envelope = .ok aad →
        Performed root a file key file.secret.nonce aad file.secret.ciphertext
  | wrap {layer a' d key aad c} :
      Crypto.Wraps layer a' d key c → layer.aad a' d = .ok aad →
        Performed root a file key.asBytes layer.nonce aad c
  | other {root' a' envelope plaintext nonce secret key aad} :
      root' ≠ root → EncryptedSecret.encryptWithNonce root' a' envelope plaintext nonce = .ok secret →
        deriveSecretKey root' a' = .ok key → secretAad envelope = .ok aad →
          Performed root a file key nonce aad secret.ciphertext

/-- The cipher is ideal: it accepts only what was encrypted, under its own key, nonce and associated
data. -/
def OnlyPerformed (root : RootKey) (a : ApplicationId) (file : SecretFile) : Prop :=
  ∀ key nonce aad c, Crypto.Decrypts key nonce aad c → Performed root a file key nonce aad c

/-- HKDF keeps the tool key of the root apart from the tool keys of other roots. -/
def RootSeparated (root : RootKey) (a : ApplicationId) : Prop :=
  ∀ root' a', root' ≠ root → Crypto.CollisionFree (.tool root a) (.tool root' a')

section Other

variable {root : RootKey} {a : ApplicationId} {file : SecretFile} {aad : ByteString}

omit [Primitives] in
theorem secretAad_inj {envelope envelope' : ByteString} (h : secretAad envelope = .ok aad)
    (h' : secretAad envelope' = .ok aad) : envelope = envelope' := by
  obtain ⟨hframed, hout⟩ := framed_of_transcript h
  obtain ⟨hframed', hout'⟩ := framed_of_transcript h'
  have hfields := Framing.frame_injective hframed hframed' (hout.symm.trans hout')
  exact (List.cons.inj (List.cons.inj hfields).2).1

/-- No associated data of the library is one of the tool. -/
theorem aad_ne_secretAad {layer : Crypto.Layer} {a' : ApplicationId} {d : Bytes 32}
    {envelope : ByteString} (h : layer.aad a' d = .ok aad) : secretAad envelope ≠ .ok aad := by
  intro h'
  obtain ⟨context, -, hencode⟩ := except_bind_eq_ok.mp h
  obtain ⟨hframed', hout'⟩ := framed_of_transcript h'
  have hframed := Transcript.framed_of_encode hencode
  have hout := (Transcript.encode_eq_ok.mp hencode).2.2
  have hfields := Framing.frame_injective hframed hframed' (hout.symm.trans hout')
  have hdomain := (List.cons.inj hfields).1
  generalize layer.kind = kind at hdomain
  cases kind <;> exact absurd hdomain (by decide)

/-- **Only the sealed container decrypts under its root.** -/
theorem eq_of_decrypt (ideal : OnlyPerformed root a file) (separated : RootSeparated root a)
    {other : SecretFile} {plaintext : ByteString}
    (h : other.secret.decrypt root a other.envelope = .ok plaintext) : other = file := by
  obtain ⟨key, aad, hkey, haad, hdecrypts⟩ := decrypts_of_decrypt h
  obtain ⟨envelope, ⟨nonce, ciphertext⟩⟩ := other
  simp only at haad hdecrypts
  cases ideal _ _ _ _ hdecrypts with
  | container _ haad' =>
      obtain rfl := secretAad_inj haad haad'
      rfl
  | wrap _ haad' => exact absurd haad (aad_ne_secretAad haad')
  | other hne _ hkey' _ =>
      have hbound := Crypto.bound_eq_of_derives (separated _ _ hne) (.tool hkey) (.tool hkey')
      injection hbound with hroot
      exact absurd hroot.symm hne

/-- **No other file gets past its unlock.** -/
theorem not_runs_unseal {app : Application} {path : Path} {content plaintext : ByteString}
    {s : Trace os} {u rest : Trace world} {loaded : LoadedSecret}
    (ideal : OnlyPerformed root app.trustedId file) (separated : RootSeparated root app.trustedId)
    (hcontent : content ≠ file.layout) (hread : (readPrivate path).run.Runs s (.ok content))
    (hparse : app.parse content = .ok loaded)
    (hunlock : (app.unlock loaded.envelope).run.Runs u (.ok root)) :
    ¬ (app.unseal path).run.Runs (s.map Event.right ++ (u ++ rest)) (.ok plaintext) := by
  intro hrun
  have hload : (app.load path).run.Runs (s.map Event.right) (.ok loaded) :=
    Fallible.runs_bind_ok.mpr ⟨_, content, [], (List.append_nil _).symm,
      Fallible.runs_right_ok.mpr ⟨s, rfl, hread⟩, rfl, hparse.symm⟩
  obtain ⟨t₁, loaded', t₂, htrace, hload', h₁⟩ := Fallible.runs_bind_ok.mp hrun
  obtain ⟨rfl, hsame⟩ := Program.runs_unique hload hload' htrace
  cases hsame
  obtain ⟨t₃, root', t₄, rfl, hunlock', h₂⟩ := Fallible.runs_bind_ok.mp h₁
  obtain ⟨rfl, hsame⟩ := Program.runs_unique hunlock hunlock' (List.append_cancel_left htrace)
  cases hsame
  have hdecrypt := except_mapError_eq_ok.mp (Fallible.runs_except.mp h₂).2.symm
  simp only [Application.parse, except_bind_eq_ok, except_mapError_eq_ok,
    except_pure_eq_ok] at hparse
  obtain ⟨container, hdecode, envelope, -, -, -, rfl⟩ := hparse
  obtain rfl : container = file := eq_of_decrypt ideal separated hdecrypt
  exact hcontent (valid_of_decode hdecode).2

end Other

/-- **Sealing and unsealing are exact.** A successful sealing leaves a container. With the file
unchanged and the same factors an unsealing returns the plaintext; with any other content in the file
an unlock that yields the root is never followed by a success. -/
theorem seal_unseal_exact (app : Application) (path : Path) (access : Access)
    (plaintext : ByteString) {t : Trace world}
    (hseal : (app.seal path access plaintext).run.Runs t (.ok ())) :
    (∃ root file, Sealed app path access plaintext t root file) ∧
      ∀ root file, Sealed app path access plaintext t root file →
        (AeadInverts → ∀ prf, (∀ event ∈ lefts t, Honest prf event) → ∀ opened env,
          (∀ past query, Unchanged prf (Held.typed (lefts t)) path opened file.layout
            ⟨query, env past query⟩) →
            ∀ past, ((app.unseal path).run.exec env past).2 = .ok plaintext) ∧
        (OnlyPerformed root app.trustedId file → RootSeparated root app.trustedId →
          ∀ content, content ≠ file.layout → ∀ s loaded u,
            (readPrivate path).run.Runs s (.ok content) → app.parse content = .ok loaded →
              (app.unlock loaded.envelope).run.Runs u (.ok root) → ∀ rest plaintext',
                ¬ (app.unseal path).run.Runs (s.map Event.right ++ (u ++ rest))
                  (.ok plaintext')) := by
  refine ⟨sealed_of_runs hseal, fun root file h => ⟨?_, ?_⟩⟩
  · intro inverts prf hhonest opened env henv past
    exact (returns_unseal inverts h hhonest).exec henv past
  · intro ideal separated content hcontent s loaded u hread hparse hunlock rest plaintext'
    exact not_runs_unseal ideal separated hcontent hread hparse hunlock

section Vectors

omit [Primitives]

/-- The container sealed under the envelope of the tool. -/
def primaryFile : SecretFile :=
  ⟨Vector.primaryEnvelope.encode, ⟨Vector.nonce, Vector.body.toList ++ (Bytes.zero 16).toList⟩⟩

theorem onlyPerformed_sealing :
    @OnlyPerformed Vector.sealing.primitives ⟨FidoKeyWrap.Vector.root⟩ FidoKeyWrap.Vector.application
      primaryFile := by
  let _ := Vector.sealing.primitives
  intro key nonce aad c h
  obtain ⟨s, hs, rfl, rfl, rfl, rfl⟩ := Crypto.exists_seal_of_decrypts h
  -- the container, the two recovery secrets, the passphrase
  rcases List.mem_cons.mp hs with rfl | hs
  · exact .container (by decide +kernel) (by decide +kernel)
  · rcases List.mem_cons.mp hs with rfl | hs
    · have hwrap : Crypto.wrapRecoverySecretRoot FidoKeyWrap.Vector.recoveryRecord
          FidoKeyWrap.Vector.application FidoKeyWrap.Vector.recoveryEnvelopeId
          ⟨FidoKeyWrap.Vector.root⟩ ⟨FidoKeyWrap.Vector.recoveryKey⟩ =
            .ok FidoKeyWrap.Vector.recoveryRecord.wrappedRoot := by decide
      exact .wrap (.recoverySecret hwrap) (by decide)
    · rcases List.mem_cons.mp hs with rfl | hs
      · have hwrap : Crypto.wrapRecoverySecretRoot FidoKeyWrap.Vector.addedRecord
            FidoKeyWrap.Vector.application FidoKeyWrap.Vector.recoveryEnvelopeId
            ⟨FidoKeyWrap.Vector.root⟩ ⟨FidoKeyWrap.Vector.addedKey⟩ =
              .ok FidoKeyWrap.Vector.addedRecord.wrappedRoot := by decide
        exact .wrap (.recoverySecret hwrap) (by decide)
      · obtain rfl := List.mem_singleton.mp hs
        have hwrap : Crypto.wrapPassphraseRoot Vector.primaryRecord FidoKeyWrap.Vector.application
            FidoKeyWrap.Vector.passphraseEnvelopeId ⟨FidoKeyWrap.Vector.root⟩
            ⟨FidoKeyWrap.Vector.passphraseKey⟩ = .ok Vector.primaryRecord.wrappedRoot := by
          decide +kernel
        exact .wrap (.passphrase hwrap) (by decide +kernel)

/-- The recording answers the tool call of its root with a key, and those of other roots with zero. -/
theorem rootSeparated_sealing :
    @RootSeparated Vector.sealing.primitives ⟨FidoKeyWrap.Vector.root⟩
      FidoKeyWrap.Vector.application := by
  let _ := Vector.sealing.primitives
  intro root' a' hne
  have hentries : ∀ entry ∈ Vector.sealing.hkdf, entry.1.1 = FidoKeyWrap.Vector.root.toList ∨
      entry.1.2.1 ≠ (Bytes.zero 32).toList := by decide
  have hother (info : ByteString) : Primitives.hkdfSha256 root'.bytes.toList
      (Bytes.zero 32).toList info = some (Bytes.zero 32) := by
    have hnone : Vector.sealing.hkdf.lookup (root'.bytes.toList, (Bytes.zero 32).toList, info) =
        none := by
      rw [List.lookup_eq_none_iff]
      intro entry hmem
      have hentry : (root'.bytes.toList, (Bytes.zero 32).toList, info) ≠ entry.1 := by
        intro heq
        rcases hentries entry hmem with hikm | hsalt
        · rw [← heq] at hikm
          exact hne (RootKey.ext (Bytes.toList_inj.mp hikm))
        · exact hsalt (by rw [← heq])
      exact bne_iff_ne.mpr hentry
    show some ((Vector.sealing.hkdf.lookup _).getD (Bytes.zero 32)) = _
    rw [hnone]
    rfl
  have hroot (info : ByteString) (hinfo : transcript [secretKeyDomain,
      FidoKeyWrap.Vector.application.asBytes] = .ok info) :
      Primitives.hkdfSha256 FidoKeyWrap.Vector.root.toList (Bytes.zero 32).toList info =
        some Vector.secretKey := by
    have hvector : transcript [secretKeyDomain, FidoKeyWrap.Vector.application.asBytes] =
        .ok Vector.secretKeyInfo := by decide
    obtain rfl : Vector.secretKeyInfo = info := Except.ok.inj (hvector.symm.trans hinfo)
    decide
  have hkeys : some Vector.secretKey ≠ some (Bytes.zero 32) := by decide
  refine ⟨?_, fun _ hmem => by rcases hmem with hmem | hmem <;> cases hmem⟩
  rintro ⟨_, _, info⟩ (⟨rfl, rfl, hinfo⟩ | ⟨rfl, rfl, hinfo⟩) ⟨_, _, info'⟩
    (⟨rfl, rfl, hinfo'⟩ | ⟨rfl, rfl, hinfo'⟩) heq
  · rw [show info = info' from Except.ok.inj (Eq.trans (Eq.symm hinfo) hinfo')]
  · exact absurd ((hroot info hinfo).symm.trans (Eq.trans heq (hother info'))) hkeys
  · exact absurd ((hroot info' hinfo').symm.trans (Eq.trans heq.symm (hother info))) hkeys
  · rw [show info = info' from Except.ok.inj (Eq.trans (Eq.symm hinfo) hinfo')]

/-- The tool on the application of the vectors. -/
def vectorApplication : Application :=
  ⟨FidoKeyWrap.Vector.application, ⟨FidoKeyWrap.Vector.application, .desktop⟩⟩

def vectorPath : Path := ⟨true, [.normal "secret"]⟩

/-- The container with another tag. -/
def tamperedFile : SecretFile :=
  { primaryFile with
    secret := ⟨Vector.nonce, Vector.body.toList ++ (Bytes.ofNat 16 1).toList⟩ }

/-- The system whose file holds the tampered container. -/
def tampered : Environment os := Vector.system tamperedFile.layout

theorem honest_user {past : @Trace (@host Vector.sealing.primitives)}
    {query : @Query Vector.sealing.primitives} :
    @Honest Vector.sealing.primitives (fun _ _ _ => Bytes.zero 32)
      ⟨query, Vector.user past query⟩ := by
  cases query with
  | evaluate request =>
      intro b hb
      exact (Except.ok.inj hb).symm
  | evaluateManagedEnrollment enrollment request =>
      intro b hb
      cases hb
  | _ => trivial

theorem cooperates_user {held : Held} {past : @Trace (@host Vector.sealing.primitives)}
    {query : @Query Vector.sealing.primitives}
    (h : held.passphrase = some
      ⟨FidoKeyWrap.Vector.passphrase, FidoKeyWrap.Vector.passphrase_accepted⟩) :
    @Cooperates Vector.sealing.primitives (fun _ _ _ => Bytes.zero 32) held
      ⟨query, Vector.user past query⟩ := by
  cases query with
  | passphrase prompt =>
      intro x hx
      rw [h] at hx
      cases hx
      rfl
  | reserve blocks => rfl
  | evaluate request => rfl
  | _ => trivial

theorem holds_system {path : Path} {content : ByteString} (past : Trace os) {call : Call}
    (h : content.length ≤ maxFileBytes) :
    Holds path 3 content ⟨call, Vector.system content past call⟩ := by
  cases call with
  | openRead opened => exact fun _ => rfl
  | fileMetadata opened =>
      have hmode : privateMode &&& 0o7777 = privateMode := by decide
      refine fun _ => ⟨_, rfl, rfl, hmode, ?_⟩
      refine UInt64.toNat_ofNat_of_lt' (lt_of_le_of_lt h ?_)
      decide
  | readToEnd opened limit => exact fun _ => rfl
  | _ => trivial

set_option maxRecDepth 3000 in
/-- The tool's own vector is sealed and unsealed; with another tag it is unlocked and no more. -/
theorem primaryFile_exact :
    let _ := Vector.sealing.primitives
    (∀ past, ((vectorApplication.unseal vectorPath).run.exec
      (Environment.sum Vector.user (Vector.system primaryFile.layout)) past).2 =
        .ok Vector.plaintext) ∧
      ∀ rest plaintext, ¬ (vectorApplication.unseal vectorPath).run.Runs
        (((readPrivate vectorPath).run.exec tampered []).1.map Event.right ++
          (((vectorApplication.unlock Vector.primaryEnvelope).run.exec
            (Environment.sum Vector.user tampered) []).1 ++ rest)) (.ok plaintext) := by
  let _ := Vector.sealing.primitives
  let request : Enrollment := ⟨label, .passphrase, some .desktop⟩
  have habsent : ((ensureAbsent vectorPath).run.exec (Vector.system []) []).2 = .ok () := by
    decide +kernel
  have hrequest : enrollment .passphrase = .ok request := by decide +kernel
  have hcreate : ((vectorApplication.protector.createRoot request).run.exec Vector.user []).2 =
      .ok (⟨FidoKeyWrap.Vector.root⟩, Vector.primaryEnvelope, Vector.primaryRecord.id) := by
    decide +kernel
  have hprepare : ((vectorApplication.prepareContainer ⟨FidoKeyWrap.Vector.root⟩
      Vector.primaryEnvelope Vector.plaintext).run.exec
        (Environment.sum Vector.user (Vector.system [])) []).2 = .ok primaryFile.layout := by
    decide +kernel
  have hsave : ((createAtomic vectorPath primaryFile.layout).run.exec (Vector.system []) []).2 =
      .ok () := by decide
  have hcreated := Program.runs_of_exec hcreate
  obtain ⟨file, hlayout, hsealed⟩ := sealed_of_parts (Program.runs_of_exec habsent) hrequest hcreated
    (Program.runs_of_exec hprepare) (Program.runs_of_exec hsave)
  have hdecode := decode_layout hsealed.valid
  rw [← hlayout] at hdecode
  obtain rfl : primaryFile = file :=
    Except.ok.inj ((show SecretFile.decode primaryFile.layout = .ok primaryFile by
      decide).symm.trans hdecode)
  have hseal : (vectorApplication.seal vectorPath .passphrase Vector.plaintext).run.Runs _ (.ok ()) :=
    Fallible.runs_bind_ok.mpr ⟨_, (), _, rfl,
      Fallible.runs_right_ok.mpr ⟨_, rfl, Program.runs_of_exec habsent⟩,
      Fallible.runs_except_bind_ok.mpr ⟨(), by decide,
        Fallible.runs_except_bind_ok.mpr ⟨request, hrequest,
          Fallible.runs_bind_ok.mpr ⟨_, _, _, rfl, Fallible.runs_left_ok.mpr ⟨_, rfl, hcreated⟩,
            Fallible.runs_bind_ok.mpr ⟨_, _, _, rfl, Program.runs_of_exec hprepare,
              Fallible.runs_right_ok.mpr ⟨_, rfl, Program.runs_of_exec hsave⟩⟩⟩⟩⟩⟩
  obtain ⟨hunchanged, hother⟩ :=
    (seal_unseal_exact vectorApplication vectorPath .passphrase Vector.plaintext hseal).2 _ _ hsealed
  constructor
  · obtain ⟨_, -, hcontainer, -⟩ := runs_prepareContainer_ok
      (sound_of_start (.created (.createRoot hcreated))).committed.decodes
      (Program.runs_of_exec hprepare)
    simp only [lefts_append, lefts_map_left, lefts_map_right, hcontainer, List.nil_append,
      List.append_nil] at hunchanged
    refine hunchanged (aeadInverts_of_recording _ (by decide)) (fun _ _ _ => Bytes.zero 32)
      (fun event hmem => ?_) 3 _ fun past query => ?_
    · obtain ⟨past, hreply⟩ := Program.exec_reply hmem
      obtain ⟨query, reply⟩ := event
      obtain rfl : reply = Vector.user past query := hreply
      exact honest_user
    · cases query with
      | inl query => exact cooperates_user (by decide)
      | inr call => exact holds_system (rights past) (by decide)
  · intro rest plaintext
    exact hother onlyPerformed_sealing rootSeparated_sealing tamperedFile.layout (by decide) _
      ⟨tamperedFile, Vector.primaryEnvelope⟩ _ (Program.runs_of_exec (by decide))
      (by decide) (Program.runs_of_exec (by decide)) rest plaintext

end Vectors

end FidoKeyWrap.Tool
