/-
# FidoKeyWrap.Recovery — every remaining recipient keeps opening the root.

A `Holding` is an envelope with the custody of its records: for each id the factors its holder got
when the record was last enrolled or rewrapped. A run is a creation followed by updates, successful
or failing, and by encoding and decoding. The authenticators evaluate one PRF; the random source and
the users are arbitrary. In every state reached, every record that is still there is opened by its
own unlock with its current factors, and gives back the root (`recoverable`).

No property of the cipher is assumed: staging has decrypted what it encrypted before it returned.
-/
import FidoKeyWrap.Session

namespace FidoKeyWrap

open ByteData Interact

variable [Primitives]

/-! ## Unlocking with cooperation -/

/-- A cooperating reply: the held passphrase, granted memory, the PRF of the request. -/
def Cooperates (prf : Prf) (held : Held) : Event host → Prop
  | ⟨.passphrase _, reply⟩ =>
    ∀ x, held.passphrase = some x → (show Except InteractionError Passphrase from reply) = .ok x
  | ⟨.reserve _, reply⟩ => (show Bool from reply) = true
  | ⟨.evaluate request, reply⟩ =>
    (show DeviceReply (Bytes 32) from reply).result = .ok (prf.answer request)
  | _ => True

section Cooperation

variable {prf : Prf} {held : Held} {q : KeyProtector} {e : KeyEnvelope}

theorem returns_requestPassphrase {operation : Operation} {label : String}
    {purpose : PassphrasePurpose} {x : Passphrase} (h : held.passphrase = some x) :
    Fallible.Returns (Cooperates prf held) (requestPassphrase operation label purpose) x := by
  apply Fallible.returns_ask_bind
  intro reply hreply
  have hx : reply = Except.ok x := hreply x h
  subst hx
  exact Fallible.returns_except rfl

theorem returns_argon2Output {x : Passphrase} {kdf : KdfDescriptor} {out : Bytes 32}
    (h : Crypto.argon2Of x kdf = .ok out) :
    Fallible.Returns (Cooperates prf held) (Crypto.argon2Output x kdf) out := by
  simp only [Crypto.argon2Of, except_bind_eq_ok] at h
  obtain ⟨n, hblocks, u, hcount, hout⟩ := h
  apply Fallible.returns_except_bind hblocks
  apply Fallible.returns_except_bind hcount
  apply Fallible.returns_ask_bind
  intro reply hreply
  have hgranted : reply = true := hreply
  subst hgranted
  exact Fallible.returns_except_bind (require_of rfl) (Fallible.returns_except hout)

theorem returns_derivePassphraseKeyFrom {kdf : KdfDescriptor} {record : RecipientRecord}
    {a : ApplicationId} {d : Bytes 32} {x : Passphrase} {key : Crypto.DerivedKey}
    (hkdf : Crypto.recipientKdf record = some kdf)
    (h : Crypto.passphraseKeyOf record a d x = .ok key) :
    Fallible.Returns (Cooperates prf held) (Crypto.derivePassphraseKeyFrom kdf record a d x)
      key := by
  simp only [Crypto.passphraseKeyOf, hkdf, except_bind_eq_ok, okOr_eq_ok, Option.some.injEq] at h
  obtain ⟨_, rfl, context, hcontext, out, hout, info, hinfo, hkey⟩ := h
  apply Fallible.returns_except_bind hcontext
  apply Fallible.returns_bind (returns_argon2Output hout)
  exact Fallible.returns_except_bind hinfo (Fallible.returns_except hkey)

/-- The request of a record whose credential has a PRF result. -/
theorem prfRequest_of_prfOf {record : RecipientRecord} {b : Bytes 32}
    (h : PrfOf prf q.applicationId e.envelopeId record b) (operation : Operation) :
    ∃ request, q.prfRequest record e operation = .ok request ∧ prf.answer request = b := by
  have hrequest : ∃ request, q.prfRequest record e operation = .ok request := by
    obtain ⟨credentialId, publicKey, policy, input, hcredential, -, -, hinput, -⟩ := h
    cases record with
    | passphrase r => cases hcredential
    | recoverySecret r => cases hcredential
    | _ =>
        unfold KeyProtector.prfRequest
        rw [hinput]
        exact ⟨_, rfl⟩
  obtain ⟨request, hrequest⟩ := hrequest
  exact ⟨request, hrequest, (prfOf_of_requests (requests_of_prfRequest hrequest).1).eq h⟩

theorem returns_evaluate {record : RecipientRecord} {operation : Operation} {b : Bytes 32}
    (h : PrfOf prf q.applicationId e.envelopeId record b) :
    Fallible.Returns (Cooperates prf held) (q.evaluate record e operation) b := by
  obtain ⟨request, hrequest, hanswer⟩ := prfRequest_of_prfOf h operation
  apply Fallible.returns_except_bind hrequest
  apply Fallible.returns_ask_bind
  intro reply hreply
  have hresult : reply.result = Except.ok (prf.answer request) := hreply
  rw [hresult, hanswer]
  exact Fallible.returns_except rfl

theorem returns_openRecord {record : RecipientRecord} {root : RootKey}
    (h : Opens prf q.applicationId e.envelopeId held record root)
    (hrecovery : record.policy ≠ .recoverySecret)
    (hlocal : record.policy ≠ .fidoPresenceAndLocalSecret) :
    Fallible.Returns (Cooperates prf held) (q.openRecord e record) root := by
  obtain ⟨factors, hpresents, hopened⟩ := h
  simp only [openWith, except_bind_eq_ok] at hopened
  obtain ⟨keys, hkeys, hroot⟩ := hopened
  cases hpresents with
  | passphrase hx =>
      simp only [keysOf, except_bind_eq_ok, except_pure_eq_ok] at hkeys
      obtain ⟨key, hkey, rfl⟩ := hkeys
      apply Fallible.returns_bind (returns_requestPassphrase hx)
      apply Fallible.returns_bind (returns_derivePassphraseKeyFrom rfl hkey)
      exact Fallible.returns_except hroot
  | recoverySecret _ => exact absurd rfl hrecovery
  | fidoAndLocalSecret _ _ => exact absurd rfl hlocal
  | fido hb =>
      simp only [keysOf, except_bind_eq_ok, except_pure_eq_ok] at hkeys
      obtain ⟨key, hkey, rfl⟩ := hkeys
      apply Fallible.returns_bind (returns_evaluate hb)
      exact Fallible.returns_except_bind hkey (Fallible.returns_except hroot)
  | fidoAndPassphrase hb hx =>
      simp only [keysOf, except_bind_eq_ok, except_pure_eq_ok] at hkeys
      obtain ⟨fidoKey, hfidoKey, key, hkey, rfl⟩ := hkeys
      simp only [recoverWithKeys, except_bind_eq_ok] at hroot
      obtain ⟨inner, hinner, hroot⟩ := hroot
      apply Fallible.returns_bind (returns_evaluate hb)
      apply Fallible.returns_except_bind hfidoKey
      apply Fallible.returns_except_bind hinner
      apply Fallible.returns_bind (returns_requestPassphrase hx)
      apply Fallible.returns_bind (returns_derivePassphraseKeyFrom rfl hkey)
      exact Fallible.returns_except hroot

end Cooperation

/-- Every reply of the environment cooperates with the holder. -/
def Cooperative (prf : Prf) (held : Held) (env : Environment host) : Prop :=
  ∀ past query, Cooperates prf held ⟨query, env past query⟩

/-- Every holder has a cooperative environment. -/
theorem cooperative_exists (prf : Prf) (held : Held) : ∃ env, Cooperative prf held env := by
  have hreply (query : Query) : ∃ reply, Cooperates prf held ⟨query, reply⟩ := by
    cases query with
    | random n => exact ⟨none, trivial⟩
    | reserve blocks => exact ⟨true, rfl⟩
    | passphrase prompt =>
        cases hx : held.passphrase with
        | none => exact ⟨Except.error .cancelled, fun x h => by rw [hx] at h; cases h⟩
        | some x => exact ⟨Except.ok x, fun y h => by rw [hx] at h; cases h; rfl⟩
    | evaluate request => exact ⟨⟨[], .ok (prf.answer request)⟩, rfl⟩
    | _ => exact ⟨⟨[], .error .noCompatibleAuthenticator⟩, trivial⟩
  choose reply hgood using hreply
  exact ⟨fun _ query => reply query, fun _ query => hgood query⟩

/-- **`Recovers`** — the record's own unlock, with the held factors, returns the root. -/
def Recovers (prf : Prf) (q : KeyProtector) (e : KeyEnvelope) (held : Held) (root : RootKey)
    (record : RecipientRecord) : Prop :=
  match record with
  | .passphrase _ | .fido _ | .fidoAndPassphrase _ =>
    ∀ env, Cooperative prf held env → ∀ past,
      ((q.unlock e record.id).run.exec env past).2 = .ok root
  | .recoverySecret _ =>
    ∃ secret, held.recoverySecret = some secret ∧
      q.unlockWithRecoverySecret e record.id secret = .ok root
  | .fidoAndLocalSecret _ =>
    ∃ secret, held.localSecret = some secret ∧ ∀ env, Cooperative prf held env → ∀ past,
      ((q.unlockWithFidoAndLocalSecret e record.id secret).run.exec env past).2 = .ok root

section Recovers

variable {prf : Prf} {held : Held} {q : KeyProtector} {e : KeyEnvelope} {root : RootKey}
  {record : RecipientRecord}

theorem returns_unlock (happ : e.applicationId = q.applicationId) (hcommitted : Committed root e)
    (hmem : record ∈ e.recipients) (hadmits : q.Admits record.passphraseParameters)
    (h : Fallible.Returns (Cooperates prf held) (q.openRecord e record) root) :
    Fallible.Returns (Cooperates prf held) (q.unlock e record.id) root := by
  have hfind := find_of_mem hcommitted.wellFormed.ascending hmem
  apply Fallible.returns_except_bind ((requireApplication_eq_ok (u := ())).mpr happ)
  apply Fallible.returns_except_bind hfind
  apply Fallible.returns_except_bind ((admitRecord_eq_ok (u := ())).mpr hadmits)
  apply Fallible.returns_bind h
  -- the root that comes out is the one every update authenticated the envelope with
  exact Fallible.returns_except (authenticateRoot_eq_ok.mpr ⟨rfl, hcommitted.authenticated⟩)

theorem unlockWithRecoverySecret_of_opens {r : RecoverySecretRecord}
    (happ : e.applicationId = q.applicationId) (hcommitted : Committed root e)
    (hmem : RecipientRecord.recoverySecret r ∈ e.recipients)
    (h : Opens prf e.applicationId e.envelopeId held (.recoverySecret r) root) :
    ∃ secret, held.recoverySecret = some secret ∧
      q.unlockWithRecoverySecret e r.id secret = .ok root := by
  have hfind := find_of_mem hcommitted.wellFormed.ascending hmem
  obtain ⟨factors, hpresents, hopened⟩ := h
  cases hpresents with
  | @recoverySecret _ secret hsecret =>
      simp only [openWith, keysOf, except_bind_eq_ok, except_pure_eq_ok] at hopened
      obtain ⟨_, ⟨key, hkey, rfl⟩, hroot⟩ := hopened
      rw [happ] at hkey hroot
      refine ⟨secret, hsecret, ?_⟩
      simp only [KeyProtector.unlockWithRecoverySecret, except_bind_eq_ok,
        requireApplication_eq_ok, except_mapError_eq_ok]
      refine ⟨(), happ, _, hfind, ?_⟩
      simp only [except_bind_eq_ok, authenticateRoot_eq_ok]
      exact ⟨key, hkey, root, hroot, rfl, hcommitted.authenticated⟩

theorem returns_unlockWithFidoAndLocalSecret {r : FidoAndLocalSecretRecipient}
    (happ : e.applicationId = q.applicationId) (hcommitted : Committed root e)
    (hmem : RecipientRecord.fidoAndLocalSecret r ∈ e.recipients)
    (h : Opens prf e.applicationId e.envelopeId held (.fidoAndLocalSecret r) root) :
    ∃ secret, held.localSecret = some secret ∧
      Fallible.Returns (Cooperates prf held) (q.unlockWithFidoAndLocalSecret e r.id secret)
        root := by
  have hfind := find_of_mem hcommitted.wellFormed.ascending hmem
  obtain ⟨factors, hpresents, hopened⟩ := h
  cases hpresents with
  | @fidoAndLocalSecret _ b secret hb hsecret =>
      simp only [openWith, keysOf, except_bind_eq_ok, except_pure_eq_ok] at hopened
      obtain ⟨_, ⟨key, hkey, rfl⟩, hroot⟩ := hopened
      rw [happ] at hb hkey hroot
      refine ⟨secret, hsecret, ?_⟩
      apply Fallible.returns_except_bind ((requireApplication_eq_ok (u := ())).mpr happ)
      apply Fallible.returns_except_bind (except_mapError_eq_ok.mpr hfind)
      apply Fallible.returns_bind (returns_evaluate hb)
      apply Fallible.returns_except_bind hkey
      apply Fallible.returns_except_bind hroot
      exact Fallible.returns_except (authenticateRoot_eq_ok.mpr ⟨rfl, hcommitted.authenticated⟩)

/-- **What is held opens the record, so its own unlock returns the root.** -/
theorem recovers_of_opens (happ : e.applicationId = q.applicationId)
    (hcommitted : Committed root e) (hmem : record ∈ e.recipients)
    (hadmits : q.Admits record.passphraseParameters)
    (h : Opens prf e.applicationId e.envelopeId held record root) :
    Recovers prf q e held root record := by
  have hunlock (hrecovery : record.policy ≠ .recoverySecret)
      (hlocal : record.policy ≠ .fidoPresenceAndLocalSecret) :
      Fallible.Returns (Cooperates prf held) (q.unlock e record.id) root := by
    rw [happ] at h
    exact returns_unlock happ hcommitted hmem hadmits (returns_openRecord h hrecovery hlocal)
  cases record with
  | passphrase r =>
      have hreturns := hunlock (by simp [RecipientRecord.policy]) (by simp [RecipientRecord.policy])
      exact fun env henv past => hreturns.exec henv past
  | fido r =>
      have hreturns : Fallible.Returns (Cooperates prf held) (q.unlock e r.id) root := by
        apply hunlock <;> cases hs : r.storage <;> simp [RecipientRecord.policy, hs]
      exact fun env henv past => hreturns.exec henv past
  | fidoAndPassphrase r =>
      have hreturns := hunlock (by simp [RecipientRecord.policy]) (by simp [RecipientRecord.policy])
      exact fun env henv past => hreturns.exec henv past
  | recoverySecret r => exact unlockWithRecoverySecret_of_opens happ hcommitted hmem h
  | fidoAndLocalSecret r =>
      obtain ⟨secret, hsecret, hreturns⟩ :=
        returns_unlockWithFidoAndLocalSecret (q := q) happ hcommitted hmem h
      exact ⟨secret, hsecret, fun env henv past => hreturns.exec henv past⟩

end Recovers

/-! ## Holdings -/

/-- For every id, what its holder got when the record was last enrolled or rewrapped. -/
abbrev Custody := RecipientId → Held

/-- An envelope and the custody of its records. -/
structure Holding where
  envelope : KeyEnvelope
  custody : Custody

/-- What an update hands out: a success changes the custody of its own record, a failure changes
nothing. -/
def Mutation.custody (c : Custody) (t : Trace host) : (m : Mutation) → Result m.Reply → Custody
  | _, .error _ => c
  | .addRecipient _ _, .ok id => Function.update c id (Held.typed t)
  | .addRecoverySecret _ _, .ok reply =>
    Function.update c reply.id { recoverySecret := some reply.secret }
  | .addFidoAndLocalSecret _ _, .ok reply =>
    Function.update c reply.id { localSecret := some reply.secret }
  | .removeRecipient _ _, .ok _ => c
  | .rewrapPassphrase _ id, .ok _ => Function.update c id (Held.typed t)
  | .rewrapPassphraseWithParameters _ id _, .ok _ => Function.update c id (Held.typed t)

/-- A successful creation with an honest authenticator. -/
def Holding.Start (prf : Prf) (p : KeyProtector) (root : RootKey) (h : Holding) : Prop :=
  ∃ t id held, Created p t root h.envelope id held ∧ (∀ event ∈ t, Honest prf event) ∧
    h.custody = Function.update (fun _ => {}) id held

/-- A step of a session with honest authenticators. -/
inductive Holding.Step (prf : Prf) (root : RootKey) : Holding → Holding → Prop
  | update {h m t r e'} : Update root m t r h.envelope e' → (∀ event ∈ t, Honest prf event) →
      Step prf root h ⟨e', m.custody h.custody t r⟩
  | recode {h e'} : KeyEnvelope.decode h.envelope.encode = .ok e' → Step prf root h ⟨e', h.custody⟩

/-- Every record is opened by what is held for it. -/
def OpensAll (prf : Prf) (root : RootKey) (e : KeyEnvelope) (c : Custody) : Prop :=
  ∀ record ∈ e.recipients, Opens prf e.applicationId e.envelopeId (c record.id) record root

section Holdings

variable {prf : Prf} {root : RootKey} {e e' : KeyEnvelope} {c : Custody} {held : Held}
  {record : RecipientRecord} {keys : RecoveryKeys}

/-- An opening depends on the envelope only through its identity. -/
theorem opens_congr (h : SameIdentity e e')
    (hopens : Opens prf e.applicationId e.envelopeId held record root) :
    Opens prf e'.applicationId e'.envelopeId held record root := by
  rw [h.application, h.envelope]
  exact hopens

theorem opensAll_of_adds (hopens : OpensAll prf root e c) (hadds : Adds root record keys e e')
    (henrolled : Enrolled prf e.applicationId e.envelopeId held record keys) :
    OpensAll prf root e' (Function.update c record.id held) := by
  intro r hr
  apply opens_congr hadds.identity
  rcases List.mem_cons.mp (hadds.inserts.added.mem_iff.mp hr) with rfl | hold
  · rw [Function.update_self]
    exact opens_of_enrolled henrolled hadds.recovers
  · rw [Function.update_of_ne (hadds.inserts.fresh r hold)]
    exact hopens r hold

theorem opensAll_of_deletes (hopens : OpensAll prf root e c) (hidentity : SameIdentity e e')
    (hdeletes : Deletes record e e') : OpensAll prf root e' c := by
  obtain ⟨before, after, hold, hnew⟩ := hdeletes.removed
  intro r hr
  apply opens_congr hidentity
  apply hopens r
  rw [hnew] at hr
  rw [hold]
  rcases List.mem_append.mp hr with hr | hr
  · exact List.mem_append_left _ hr
  · exact List.mem_append_right _ (List.mem_cons_of_mem record hr)

theorem opensAll_of_rewraps {current : RecipientRecord} (hopens : OpensAll prf root e c)
    (hrewraps : Rewraps root current record keys e e')
    (henrolled : Enrolled prf e.applicationId e.envelopeId held record keys) :
    OpensAll prf root e' (Function.update c current.id held) := by
  obtain ⟨hsame, before, after, hold, hnew⟩ := hrewraps.replaces
  have hascending := hrewraps.committed.wellFormed.ascending
  rw [hnew] at hascending
  obtain ⟨-, hafter, hbetween⟩ := List.pairwise_append.mp hascending
  intro r hr
  apply opens_congr hrewraps.identity
  -- ids ascend, so no other record has the id of the replacement
  have hkept (hne : r.id ≠ record.id) (hmem : r ∈ before ++ current :: after) :
      Opens prf e.applicationId e.envelopeId (Function.update c current.id held r.id) r root := by
    rw [Function.update_of_ne (hsame ▸ hne)]
    exact hopens r (hold ▸ hmem)
  rw [hnew] at hr
  rcases List.mem_append.mp hr with hmem | hmem
  · exact hkept (ne_of_lt (hbetween r hmem record List.mem_cons_self))
      (List.mem_append_left _ hmem)
  · rcases List.mem_cons.mp hmem with rfl | hmem
    · rw [hsame, Function.update_self]
      exact opens_of_enrolled henrolled hrewraps.recovers
    · exact hkept (ne_of_gt ((List.pairwise_cons.mp hafter).1 r hmem))
        (List.mem_append_right _ (List.mem_cons_of_mem current hmem))

/-- **A successful update leaves every record open to its holder.** -/
theorem opensAll_of_runs_ok {q : KeyProtector} {m : Mutation} {t : Trace host} {reply : m.Reply}
    (hopens : OpensAll prf m.root e c) (h : (m.program q).Runs e t (.ok reply) e')
    (hhonest : ∀ event ∈ t, Honest prf event) :
    OpensAll prf m.root e' (m.custody c t (.ok reply)) := by
  cases m with
  | addRecipient root enrollment =>
      obtain ⟨hauth, record, keys, managed, rfl, henroll, hadds⟩ := runs_addRecipient_ok h
      have henrolled := enrolled_enrollRecipient henroll hhonest
      rw [← hauth.1] at henrolled
      exact opensAll_of_adds hopens hadds henrolled
  | addRecoverySecret root label =>
      obtain ⟨-, record, secret, key, rfl, henroll, hadds⟩ := runs_addRecoverySecret_ok h
      exact opensAll_of_adds hopens hadds (enrolled_recoverySecret henroll)
  | addFidoAndLocalSecret root label =>
      obtain ⟨hauth, record, secret, key, rfl, henroll, hadds⟩ := runs_addFidoAndLocalSecret_ok h
      have henrolled := enrolled_fidoAndLocalSecret henroll hhonest
      rw [← hauth.1] at henrolled
      exact opensAll_of_adds hopens hadds henrolled
  | removeRecipient root id =>
      obtain ⟨-, -, record, -, hdeletes, hidentity, -⟩ := runs_removeRecipient_ok h
      exact opensAll_of_deletes hopens hidentity hdeletes
  | rewrapPassphrase root id =>
      obtain ⟨-, parameters, -, -, h⟩ := runs_rewrapPassphrase_ok h
      obtain ⟨hauth, current, record, keys, hfind, hrewrap, hrewraps⟩ :=
        runs_rewrapPassphraseInner_ok h
      obtain rfl : current.id = id := (find_sound hfind).2
      have henrolled := (enrolled_rewrapRecord hrewrap).2 prf hhonest
      rw [← hauth.1] at henrolled
      exact opensAll_of_rewraps hopens hrewraps henrolled
  | rewrapPassphraseWithParameters root id parameters =>
      obtain ⟨hauth, current, record, keys, hfind, hrewrap, hrewraps⟩ :=
        runs_rewrapPassphraseInner_ok h
      obtain rfl : current.id = id := (find_sound hfind).2
      have henrolled := (enrolled_rewrapRecord hrewrap).2 prf hhonest
      rw [← hauth.1] at henrolled
      exact opensAll_of_rewraps hopens hrewraps henrolled

end Holdings

/-! ## Whole runs -/

/-- The invariant of a holding: its envelope is sound, and open to the holders of its records. -/
structure Holding.Sound (prf : Prf) (p : KeyProtector) (root : RootKey) (d : Bytes 32)
    (h : Holding) : Prop where
  envelope : FidoKeyWrap.Sound p root d h.envelope
  opens : OpensAll prf root h.envelope h.custody

section Runs

variable {prf : Prf} {p : KeyProtector} {root : RootKey} {d : Bytes 32} {h h' : Holding}

theorem Holding.sound_of_start (hstart : Holding.Start prf p root h) :
    h.Sound prf p root h.envelope.envelopeId := by
  obtain ⟨t, id, held, hcreated, hhonest, hcustody⟩ := hstart
  refine ⟨FidoKeyWrap.sound_of_start (.created hcreated), ?_⟩
  obtain ⟨envelopeId, record, keys, rfl, hadds, henrolled⟩ := founds_of_created hcreated
  rw [hcustody]
  -- the first record is an addition to an envelope that has none
  exact opensAll_of_adds (fun r hr => by cases hr) hadds (henrolled prf hhonest)

/-- **One step keeps every record open.** -/
theorem Holding.Sound.step (hsound : h.Sound prf p root d) (hstep : Holding.Step prf root h h') :
    h'.Sound prf p root d := by
  cases hstep with
  | @update m t r e' hupdate hhonest =>
      refine ⟨hsound.envelope.step (.update hupdate), ?_⟩
      obtain ⟨q, hruns⟩ := hupdate.runs
      cases r with
      | error error =>
          -- a failed call changed neither the envelope nor what anyone holds
          obtain rfl : e' = h.envelope := transacts_mutation q h.envelope m t error e' hruns
          have hcustody : m.custody h.custody t (.error error) = h.custody := by cases m <;> rfl
          rw [hcustody]
          exact hsound.opens
      | ok reply =>
          obtain rfl : m.root = root := hupdate.presented reply rfl
          exact opensAll_of_runs_ok hsound.opens hruns hhonest
  | @recode e' hdecode =>
      obtain rfl : e' = h.envelope := decode_encode_eq hdecode
      exact hsound

/-- **Whole-run recoverability.** After a creation and any updates, every record that is still there
is unlocked by its own operation with its current factors, and gives back the root. -/
theorem recoverable {h₀ : Holding} (hstart : Holding.Start prf p root h₀)
    (hsteps : Relation.ReflTransGen (Holding.Step prf root) h₀ h) {q : KeyProtector}
    (happ : q.applicationId = p.applicationId) {record : RecipientRecord}
    (hmem : record ∈ h.envelope.recipients) (hadmits : q.Admits record.passphraseParameters) :
    Recovers prf q h.envelope (h.custody record.id) root record := by
  have hsound : h.Sound prf p root h₀.envelope.envelopeId := by
    clear hmem
    induction hsteps with
    | refl => exact Holding.sound_of_start hstart
    | tail _ hstep ih => exact ih.step hstep
  exact recovers_of_opens (hsound.envelope.application.trans happ.symm) hsound.envelope.committed
    hmem hadmits (hsound.opens record hmem)

end Runs

/-- An event that reaches no authenticator is honest. -/
theorem honest_of_quiet {prf : Prf} {event : Event host} (h : ¬ event.query.Interacts) :
    Honest prf event := by
  obtain ⟨query, reply⟩ := event
  cases query <;> first | trivial | exact absurd trivial h

section Vectors

omit [Primitives]

/-- Neither the creation of the vector nor the addition reaches an authenticator. -/
theorem recoverySession_quiet :
    (∀ event ∈ recoveryCreation.1, ¬ @Query.Interacts Vector.primitives event.query) ∧
      ∀ event ∈ recoveryAdditionTrace, ¬ @Query.Interacts Vector.primitives event.query := by
  decide +kernel

/-- The custody of the recovery-secret vector. -/
def recoveryCustody : Custody :=
  Function.update (fun _ => {}) Vector.recoveryRecord.id
    { recoverySecret := some ⟨Vector.recoverySecret⟩ }

set_option maxRecDepth 3000 in
/-- The recovery-secret vector still opens with its secret after the second one was added. -/
theorem extendedEnvelope_recoverable :
    @KeyProtector.unlockWithRecoverySecret Vector.primitives ⟨Vector.application, .desktop⟩
      Vector.extendedEnvelope Vector.recoveryRecord.id ⟨Vector.recoverySecret⟩ =
        .ok ⟨Vector.root⟩ := by
  let _ := Vector.primitives
  let prf : Prf := fun _ _ _ => Bytes.zero 32
  let p : KeyProtector := ⟨Vector.application, .desktop⟩
  have hstart : Holding.Start prf p ⟨Vector.root⟩ ⟨Vector.recoveryEnvelope, recoveryCustody⟩ :=
    ⟨_, _, _, created_recoveryEnvelope,
      fun event hmem => honest_of_quiet (recoverySession_quiet.1 event hmem), rfl⟩
  have hstep : Holding.Step prf ⟨Vector.root⟩ ⟨Vector.recoveryEnvelope, recoveryCustody⟩
      ⟨Vector.extendedEnvelope, recoveryAddition.custody recoveryCustody recoveryAdditionTrace
        (.ok ⟨Vector.addedRecord.id, ⟨Vector.addedSecret⟩⟩)⟩ :=
    Holding.Step.update (m := recoveryAddition) ⟨⟨p, runs_recoveryAddition⟩, fun _ _ => rfl⟩
      fun event hmem => honest_of_quiet (recoverySession_quiet.2 event hmem)
  have hmem : RecipientRecord.recoverySecret Vector.recoveryRecord ∈
      Vector.extendedEnvelope.recipients :=
    List.mem_cons_of_mem _ List.mem_cons_self
  have hadmits : p.Admits none := nofun
  obtain ⟨secret, hheld, hunlock⟩ := recoverable hstart (.single hstep) (q := p) rfl hmem hadmits
  -- the addition changed the custody of its own record only
  have hne : Vector.recoveryRecord.id ≠ Vector.addedRecord.id := by decide
  have hkept : (Function.update recoveryCustody Vector.addedRecord.id
      { recoverySecret := some ⟨Vector.addedSecret⟩ } Vector.recoveryRecord.id).recoverySecret =
        some secret := hheld
  rw [Function.update_of_ne hne, recoveryCustody, Function.update_self] at hkept
  cases hkept
  exact hunlock

end Vectors

end FidoKeyWrap
