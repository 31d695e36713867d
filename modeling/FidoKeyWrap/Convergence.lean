/-
# FidoKeyWrap.Convergence — a failed unlock does not say why it failed.

Once the factors are there, every failure of an unlock on a decoded envelope is `unlockFailed`: a
wrong factor, a record of another suite, an altered field, a wrong MAC. The one other outcome is
`kdfResourceUnavailable`, before the memory of Argon2 is granted. No unlock returns
`invalidEnvelope` of its own, and neither do the repository's two backends, so that no unlock on
them ever does.
-/
import FidoKeyWrap.Totality
import FidoKeyWrap.Unlock
import FidoKeyWrap.NativeBackend
import FidoKeyWrap.FakeStore

namespace FidoKeyWrap

open ByteData Interact

variable [Primitives]

/-! ## What a trace shows -/

/-- The passphrase callback returned a passphrase. -/
def ReturnsPassphrase (event : Event host) : Prop :=
  match event with
  | ⟨.passphrase _, reply⟩ => ∃ passphrase, reply = Except.ok passphrase
  | _ => False

/-- The backend returned a verified PRF result. -/
def ReturnsPrf (event : Event host) : Prop :=
  match event with
  | ⟨.evaluate _, reply⟩ => ∃ prf, reply.result = .ok prf
  | _ => False

/-- An error of the backend's evaluation is in `E`. -/
def EvaluationErrors (E : Error → Prop) (event : Event host) : Prop :=
  match event with
  | ⟨.evaluate _, reply⟩ => Errors reply.result E
  | _ => True

/-- **`Converged r`** — the root, or the one uninformative error. -/
def Converged (r : Result RootKey) : Prop := (∃ root, r = .ok root) ∨ r = .error .unlockFailed

omit [Primitives] in
theorem converged_of_errors {r : Result RootKey} (h : Errors r (· = .unlockFailed)) :
    Converged r := by
  cases r with
  | ok root => exact .inl ⟨root, rfl⟩
  | error e => exact .inr (congrArg Except.error (h e rfl))

/-! ## The steps of an unlock -/

section Steps

variable {E : Error → Prop} {good : Event host → Prop} {p : KeyProtector} {e : KeyEnvelope}

theorem errors_authenticateRoot (total : Primitives.HashesTotal) (hE : E .unlockFailed)
    (hwell : e.WellFormed) (root : RootKey) :
    Errors (KeyProtector.authenticateRoot e root) E := by
  obtain ⟨mac, hmac⟩ := Crypto.computeEnvelopeMac_total total hwell root
  have hmatches : ∃ matched, Crypto.envelopeMacMatches e root = .ok matched :=
    ⟨_, except_bind_eq_ok.mpr ⟨mac, hmac, rfl⟩⟩
  refine errors_bind (errors_ok hmatches) fun matched _ => ?_
  cases matched with
  | true => exact errors_ok ⟨root, rfl⟩
  | false => exact errors_throw hE

theorem prfRequest_total {record : RecipientRecord} (hvalid : record.Valid)
    (hcredential : record.credentialId ≠ none) (operation : Operation) :
    ∃ request, p.prfRequest record e operation = .ok request := by
  obtain ⟨context, hcontext⟩ := Crypto.recipientContext_total hvalid p.applicationId e.envelopeId
  have hdomain : Crypto.prfInputDomain.length ≤ 64 := by decide
  obtain ⟨t, ht⟩ := Crypto.encode_total hdomain context
  have hinput : record.credentialId ≠ none →
      Crypto.prfInput record p.applicationId e.envelopeId = .ok (Primitives.sha256 t) := by
    intro _
    cases record with
    | passphrase r => contradiction
    | recoverySecret r => contradiction
    | _ => exact except_bind_eq_ok.mpr ⟨context, hcontext, except_bind_eq_ok.mpr ⟨t, ht, rfl⟩⟩
  cases record with
  | passphrase r => exact absurd rfl hcredential
  | recoverySecret r => exact absurd rfl hcredential
  | _ =>
      unfold KeyProtector.prfRequest
      rw [hinput hcredential]
      exact ⟨_, rfl⟩

/-- An evaluation fails as the backend does. -/
theorem fails_evaluate {record : RecipientRecord} (hvalid : record.Valid)
    (hcredential : record.credentialId ≠ none)
    (hgood : ∀ event, good event → EvaluationErrors E event) (operation : Operation) :
    Fallible.Fails good (p.evaluate record e operation) E := by
  refine Fallible.fails_except_bind (errors_ok (prfRequest_total hvalid hcredential operation)) ?_
  intro request _
  refine Fallible.fails_ask_bind fun reply hreply => ?_
  exact Fallible.fails_except (hgood _ hreply)

/-- Once it returned a PRF result it cannot fail. -/
theorem failsAfter_evaluate (record : RecipientRecord) (operation : Operation) :
    Fallible.FailsAfter ReturnsPrf (p.evaluate record e operation) E := by
  refine Fallible.failsAfter_except_bind fun request _ => ?_
  refine Fallible.failsAfter_ask_bind (fun reply hreturned => ?_) fun _ =>
    Fallible.failsAfter_except _
  exact Fallible.fails_except (errors_ok hreturned)

theorem every_evaluate (record : RecipientRecord) (operation : Operation) :
    Program.Every (fun event => ¬ ReturnsPassphrase event) (p.evaluate record e operation).run := by
  refine Fallible.every_except_bind fun request _ => ?_
  refine Fallible.every_bind (Program.every_bind (Program.every_ask fun _ => id) ?_) ?_
  · exact fun _ => Program.every_pure _
  · exact fun _ => Fallible.every_except _

theorem fails_requestPassphrase (hinteraction : ∀ error, E (.interaction error)) (label : String) :
    Fallible.Fails good (requestPassphrase .unlock label .unlock) E := by
  refine Fallible.fails_ask_bind fun reply _ => ?_
  exact Fallible.fails_except (errors_mapError hinteraction)

/-- Once it returned a passphrase it cannot fail. -/
theorem failsAfter_requestPassphrase (label : String) :
    Fallible.FailsAfter ReturnsPassphrase (requestPassphrase .unlock label .unlock) E := by
  refine Fallible.failsAfter_ask_bind (fun reply hreturned => ?_) fun _ =>
    Fallible.failsAfter_except _
  obtain ⟨passphrase, rfl⟩ := hreturned
  exact Fallible.fails_except (errors_ok ⟨passphrase, rfl⟩)

/-- The derivation fails for want of memory, or to authenticate. -/
theorem fails_derivePassphraseKey (total : Primitives.HashesTotal)
    (accepted : Primitives.ParametersAccepted) (hE : E .unlockFailed)
    (hmemory : E .kdfResourceUnavailable) {record : RecipientRecord} (hvalid : record.Valid)
    {kdf : KdfDescriptor} (hkdf : Crypto.recipientKdf record = some kdf) (a : ApplicationId)
    (d : Bytes 32) (passphrase : Passphrase) :
    Fallible.Fails good (Crypto.derivePassphraseKey record a d passphrase) E := by
  have hfrom : Crypto.derivePassphraseKey record a d passphrase =
      Crypto.derivePassphraseKeyFrom kdf record a d passphrase := by
    cases record <;> cases hkdf <;> rfl
  have hargon2 : Fallible.Fails good (Crypto.argon2Output passphrase kdf) E := by
    have hblocks := Crypto.argon2BlockCount_eq accepted kdf.parameters
    unfold Crypto.argon2Output
    refine Fallible.fails_except_bind (errors_ok ⟨_, okOr_eq_ok.mpr hblocks⟩) fun blocks hcount => ?_
    obtain rfl : kdf.parameters.memoryKib.toNat = blocks :=
      Option.some.inj (hblocks.symm.trans (okOr_eq_ok.mp hcount))
    refine Fallible.fails_except_bind (errors_ok ⟨(), require_eq_ok.mpr rfl⟩) fun _ _ => ?_
    refine Fallible.fails_ask_bind fun reserved _ => ?_
    refine Fallible.fails_except_bind (errors_require hmemory) fun _ _ => ?_
    exact Fallible.fails_except (errors_okOr hE)
  obtain ⟨context, hcontext⟩ := Crypto.recipientContext_total hvalid a d
  rw [hfrom]
  unfold Crypto.derivePassphraseKeyFrom
  refine Fallible.fails_except_bind (errors_ok ⟨context, hcontext⟩) fun context _ => ?_
  refine Fallible.fails_bind hargon2 fun intermediate => ?_
  have hdomain : Crypto.passphraseKeyDomain.length ≤ 64 := by decide
  obtain ⟨info, hinfo⟩ := Crypto.encode_total hdomain context
  refine Fallible.fails_except_bind (errors_ok ⟨info, hinfo⟩) fun info _ => ?_
  obtain ⟨key, hkey⟩ := total.hkdf intermediate.toList d.toList info
  exact Fallible.fails_except (errors_ok ⟨⟨key⟩, Crypto.deriveKey_eq_ok.mpr hkey⟩)

end Steps

/-! ## Opening a record -/

section Opening

variable {E : Error → Prop} {p : KeyProtector} {e : KeyEnvelope} {record : RecipientRecord}
  (total : Primitives.HashesTotal) (accepted : Primitives.ParametersAccepted)
  (hE : E .unlockFailed) (hmemory : E .kdfResourceUnavailable)

include total accepted hE hmemory

theorem fails_openRecord (hinteraction : ∀ error, E (.interaction error)) (hvalid : record.Valid) :
    Fallible.Fails (EvaluationErrors E) (p.openRecord e record) E := by
  have hderive {record : RecipientRecord} {kdf : KdfDescriptor} (hvalid : record.Valid)
      (hkdf : Crypto.recipientKdf record = some kdf) (x : Passphrase) :
      Fallible.Fails (EvaluationErrors E)
        (Crypto.derivePassphraseKey record p.applicationId e.envelopeId x) E :=
    fails_derivePassphraseKey total accepted hE hmemory hvalid hkdf p.applicationId e.envelopeId x
  cases record with
  | passphrase r =>
      refine Fallible.fails_bind (fails_requestPassphrase hinteraction _) fun x => ?_
      refine Fallible.fails_bind (hderive hvalid rfl x) fun key => ?_
      exact Fallible.fails_except (Crypto.errors_unwrapPassphraseRoot hE accepted hvalid key)
  | recoverySecret r => exact Fallible.fails_throw hE
  | fidoAndLocalSecret r => exact Fallible.fails_throw hE
  | fido r =>
      refine Fallible.fails_bind (fails_evaluate hvalid (by simp [RecipientRecord.credentialId])
        (fun _ h => h) _) fun b => ?_
      have hkey := Crypto.deriveFidoKey_total total hvalid (.inl ⟨r, rfl⟩) p.applicationId
        e.envelopeId b
      refine Fallible.fails_except_bind (errors_ok hkey) fun key _ => ?_
      exact Fallible.fails_except (Crypto.errors_unwrapFidoRoot hE accepted hvalid key)
  | fidoAndPassphrase r =>
      refine Fallible.fails_bind (fails_evaluate hvalid (by simp [RecipientRecord.credentialId])
        (fun _ h => h) _) fun b => ?_
      have hkey := Crypto.deriveFidoKey_total total hvalid (.inr ⟨r, rfl⟩) p.applicationId
        e.envelopeId b
      refine Fallible.fails_except_bind (errors_ok hkey) fun fidoKey _ => ?_
      refine Fallible.fails_except_bind
        (Crypto.errors_unwrapCombinedOuter hE accepted hvalid fidoKey) fun inner _ => ?_
      refine Fallible.fails_bind (fails_requestPassphrase hinteraction _) fun x => ?_
      refine Fallible.fails_bind (hderive hvalid rfl x) fun key => ?_
      exact Fallible.fails_except (Crypto.errors_unwrapCombinedInner hE accepted hvalid inner key)

theorem failsAfter_openRecord (hvalid : record.Valid) :
    Fallible.FailsAfter ReturnsPassphrase (p.openRecord e record) E := by
  have hderive {record : RecipientRecord} {kdf : KdfDescriptor} (hvalid : record.Valid)
      (hkdf : Crypto.recipientKdf record = some kdf) (x : Passphrase) :
      Fallible.Fails (fun _ => True)
        (Crypto.derivePassphraseKey record p.applicationId e.envelopeId x) E :=
    fails_derivePassphraseKey total accepted hE hmemory hvalid hkdf p.applicationId e.envelopeId x
  cases record with
  | passphrase r =>
      refine Fallible.failsAfter_bind (failsAfter_requestPassphrase _) fun x => ?_
      refine Fallible.fails_bind (hderive hvalid rfl x) fun key => ?_
      exact Fallible.fails_except (Crypto.errors_unwrapPassphraseRoot hE accepted hvalid key)
  | recoverySecret r => exact Fallible.failsAfter_except (.error Error.unlockFailed)
  | fidoAndLocalSecret r => exact Fallible.failsAfter_except (.error Error.unlockFailed)
  | fido r =>
      -- a record without a passphrase never gets one
      refine Fallible.failsAfter_silent_bind (every_evaluate _ _) fun b => ?_
      refine Fallible.failsAfter_except_bind fun key _ => ?_
      exact Fallible.failsAfter_except _
  | fidoAndPassphrase r =>
      refine Fallible.failsAfter_silent_bind (every_evaluate _ _) fun b => ?_
      refine Fallible.failsAfter_except_bind fun fidoKey _ => ?_
      refine Fallible.failsAfter_except_bind fun inner _ => ?_
      refine Fallible.failsAfter_bind (failsAfter_requestPassphrase _) fun x => ?_
      refine Fallible.fails_bind (hderive hvalid rfl x) fun key => ?_
      exact Fallible.fails_except (Crypto.errors_unwrapCombinedInner hE accepted hvalid inner key)

end Opening

/-! ## The three unlocks -/

section Unlocks

variable {E : Error → Prop} {p : KeyProtector} {e : KeyEnvelope} {id : RecipientId}
  (total : Primitives.HashesTotal) (accepted : Primitives.ParametersAccepted)
  (hE : E .unlockFailed) (hwell : e.WellFormed)

include total accepted hE hwell

theorem failsAfter_unlock (hmemory : E .kdfResourceUnavailable) :
    Fallible.FailsAfter ReturnsPassphrase (p.unlock e id) E := by
  refine Fallible.failsAfter_except_bind fun _ _ => ?_
  refine Fallible.failsAfter_except_bind fun record hfind => ?_
  refine Fallible.failsAfter_except_bind fun _ _ => ?_
  have hvalid := hwell.records record (find_sound hfind).1
  refine Fallible.failsAfter_bind (failsAfter_openRecord total accepted hE hmemory hvalid) ?_
  exact fun root => Fallible.fails_except (errors_authenticateRoot total hE hwell root)

theorem errors_unlockWithRecoverySecret (hmismatch : e.applicationId = p.applicationId ∨
    E .applicationMismatch) (secret : RecoverySecret) :
    Errors (p.unlockWithRecoverySecret e id secret) E := by
  have happ : Errors (p.requireApplication e) E := by
    rcases hmismatch with heq | hmismatch
    · exact errors_ok ⟨(), requireApplication_eq_ok.mpr heq⟩
    · exact errors_require hmismatch
  refine errors_bind happ fun _ _ => ?_
  refine errors_bind (errors_mapError fun _ => hE) fun record hfind => ?_
  have hvalid := hwell.records record (find_sound (except_mapError_eq_ok.mp hfind)).1
  cases record with
  | recoverySecret r =>
      have hkey := Crypto.deriveRecoverySecretKey_total total hvalid p.applicationId e.envelopeId
        secret
      refine errors_bind (errors_ok hkey) fun key _ => ?_
      refine errors_bind (Crypto.errors_unwrapRecoverySecretRoot hE accepted hvalid key) ?_
      exact fun root _ => errors_authenticateRoot total hE hwell root
  | _ => exact errors_throw hE

/-- What follows the evaluation of a local-secret record. -/
theorem fails_localSecretTail {r : FidoAndLocalSecretRecipient}
    (hvalid : (RecipientRecord.fidoAndLocalSecret r).Valid) (b : Bytes 32)
    (secret : LocalSecret) {good : Event host → Prop} :
    Fallible.Fails good (do
      let key ← Crypto.deriveFidoLocalKey r p.applicationId e.envelopeId b secret
      let root ← Crypto.unwrapFidoLocalRoot r p.applicationId e.envelopeId key
      (KeyProtector.authenticateRoot e root : Result RootKey) : Host RootKey) E := by
  have hkey := Crypto.deriveFidoLocalKey_total total hvalid p.applicationId e.envelopeId b secret
  refine Fallible.fails_except_bind (errors_ok hkey) fun key _ => ?_
  refine Fallible.fails_except_bind (Crypto.errors_unwrapFidoLocalRoot hE accepted hvalid key) ?_
  exact fun root _ => Fallible.fails_except (errors_authenticateRoot total hE hwell root)

theorem failsAfter_unlockWithFidoAndLocalSecret (secret : LocalSecret) :
    Fallible.FailsAfter ReturnsPrf (p.unlockWithFidoAndLocalSecret e id secret) E := by
  refine Fallible.failsAfter_except_bind fun _ _ => ?_
  refine Fallible.failsAfter_except_bind fun record hfind => ?_
  have hvalid := hwell.records record (find_sound (except_mapError_eq_ok.mp hfind)).1
  cases record with
  | fidoAndLocalSecret r =>
      refine Fallible.failsAfter_bind (failsAfter_evaluate _ _) fun b => ?_
      exact fails_localSecretTail total accepted hE hwell hvalid b secret
  | _ => exact Fallible.failsAfter_except (.error Error.unlockFailed)

end Unlocks

/-! ## Malformed envelopes -/

section Malformed

variable {p : KeyProtector} {e : KeyEnvelope} {id : RecipientId}
  (total : Primitives.HashesTotal) (accepted : Primitives.ParametersAccepted)
  (hwell : e.WellFormed)

include total accepted hwell

/-- No unlock finds a decoded envelope malformed, unless the backend does. -/
theorem fails_unlock :
    Fallible.Fails (EvaluationErrors (· ≠ .invalidEnvelope)) (p.unlock e id)
      (· ≠ .invalidEnvelope) := by
  refine Fallible.fails_except_bind (errors_require (by simp)) fun _ _ => ?_
  refine Fallible.fails_except_bind (fun error herror => ?_) fun record hfind => ?_
  · rw [find_error herror]
    simp
  have hadmit : Errors (p.admitRecord record) (· ≠ .invalidEnvelope) := by
    unfold KeyProtector.admitRecord
    cases record.passphraseParameters with
    | none => exact errors_ok ⟨(), rfl⟩
    | some parameters => exact errors_require (by simp)
  refine Fallible.fails_except_bind hadmit fun _ _ => ?_
  have hvalid := hwell.records record (find_sound hfind).1
  refine Fallible.fails_bind (fails_openRecord total accepted (by simp) (by simp) (by simp) hvalid) ?_
  exact fun root => Fallible.fails_except (errors_authenticateRoot total (by simp) hwell root)

theorem fails_unlockWithFidoAndLocalSecret (secret : LocalSecret) :
    Fallible.Fails (EvaluationErrors (· ≠ .invalidEnvelope))
      (p.unlockWithFidoAndLocalSecret e id secret) (· ≠ .invalidEnvelope) := by
  refine Fallible.fails_except_bind (errors_require (by simp)) fun _ _ => ?_
  refine Fallible.fails_except_bind (errors_mapError (by simp)) fun record hfind => ?_
  have hvalid := hwell.records record (find_sound (except_mapError_eq_ok.mp hfind)).1
  cases record with
  | fidoAndLocalSecret r =>
      refine Fallible.fails_bind (fails_evaluate hvalid (by simp [RecipientRecord.credentialId])
        (fun _ h => h) _) fun b => ?_
      exact fails_localSecretTail total accepted (by simp) hwell hvalid b secret
  | _ => exact Fallible.fails_throw (by simp)

end Malformed

/-! ## The two backends -/

section Backends

omit [Primitives] in
theorem mapNativeError_ne (error : Native.Error) : mapNativeError error ≠ .invalidEnvelope := by
  cases error <;> simp [mapNativeError]

omit [Primitives] in
/-- The native backend does not find envelopes malformed. -/
theorem errors_native_evaluate (backend : NativeBackend) (request : PrfRequest) (rounds : Nat)
    {t : Trace console} {r : Result (Bytes 32)}
    (h : (backend.evaluate request rounds).run.Runs t r) : Errors r (· ≠ .invalidEnvelope) := by
  have hfails : Fallible.Fails (fun _ => True) (backend.evaluate request rounds)
      (· ≠ .invalidEnvelope) := by
    have hnative {α : Type} (x : Native.Adapter α) :
        Fallible.Fails (fun _ => True) (native x) (· ≠ .invalidEnvelope) :=
      Fallible.fails_right mapNativeError_ne
    have hprompt {α : Type} (x : Interaction α) :
        Fallible.Fails (fun _ => True) (Fallible.left Error.interaction x : Console α)
          (· ≠ .invalidEnvelope) :=
      Fallible.fails_left (by simp)
    refine Fallible.fails_bind ?_ fun authenticator => Fallible.fails_bind ?_ fun pin => ?_
    · refine Fallible.fails_bind (hnative _) fun selection => Fallible.fails_bind ?_ fun _ => ?_
      · unfold NativeBackend.selectionTouch
        split
        · exact hprompt _
        · exact Fallible.fails_pure ()
      · refine Fallible.fails_bind (hnative _) fun authenticator => ?_
        refine Fallible.fails_except_bind (errors_require (by simp)) fun _ _ => ?_
        exact Fallible.fails_pure authenticator
    · unfold NativeBackend.assertionPin
      split
      · exact Fallible.fails_pure none
      · refine Fallible.fails_bind (hprompt _) fun pin => ?_
        refine Fallible.fails_except_bind (errors_mapError mapNativeError_ne) fun nativePin _ => ?_
        exact Fallible.fails_pure (some nativePin)
    · exact Fallible.fails_bind (hprompt _) fun _ => hnative _
  intro error herror
  subst herror
  exact hfails t error h fun _ _ => trivial

open FakeBackend in
/-- Neither does the backend in memory. -/
theorem errors_fake_evaluate (request : PrfRequest) {s s' : FakeBackend}
    {reply : DeviceReply (Bytes 32)} (h : Answers (evaluate request) s reply s') :
    Errors reply.result (· ≠ .invalidEnvelope) := by
  have hfails : Mutating.Fails (evaluate request) (· ≠ .error .invalidEnvelope) := by
    have hprompt {α : Type} (x : Interaction α) :
        Mutating.Fails (interact x) (· ≠ .error .invalidEnvelope) :=
      Mutating.fails_lift (Fallible.fails_mapError (by simp))
    have hupdate (f : FakeBackend → FakeBackend) :
        Mutating.Fails (update f) (· ≠ .error .invalidEnvelope) :=
      Mutating.fails_get_bind fun _ => Mutating.fails_set _
    have hfailAt (point : FailurePoint) :
        Mutating.Fails (failAt point) (· ≠ .error .invalidEnvelope) := by
      intro s₀
      refine Mutating.leaves_bind (leaves_takeFailure point s₀) ?_ fun taken s₁ _ => ?_
      · rintro e s₁ ⟨-, taken, htaken⟩
        cases htaken
      · cases taken with
        | none => exact Mutating.fails_pure () s₁
        | some failure =>
            refine Mutating.fails_throw ?_ s₁
            cases failure <;> simp [FailureKind.intoError]
    refine Mutating.fails_bind ?_ fun device => Mutating.fails_bind ?_ fun _ => ?_
    · refine Mutating.fails_bind (hupdate _) fun _ => Mutating.fails_bind (hfailAt _) fun _ => ?_
      refine Mutating.fails_get_bind fun self => ?_
      refine Mutating.fails_bind (Mutating.fails_except (errors_require (by simp))) fun _ => ?_
      refine Mutating.fails_bind ?_ fun _ => Mutating.fails_pure _
      unfold selectionTouch
      split
      · exact hprompt _
      · exact Mutating.fails_pure ()
    · unfold assertionPin
      split
      · exact Mutating.fails_bind (hprompt _) fun _ => Mutating.fails_pure ()
      · exact Mutating.fails_pure ()
    refine Mutating.fails_bind (hprompt _) fun _ => Mutating.fails_bind (hupdate _) fun _ => ?_
    refine Mutating.fails_bind (hfailAt _) fun _ => Mutating.fails_bind (hfailAt _) fun _ => ?_
    refine Mutating.fails_get_bind fun self => ?_
    refine Mutating.fails_bind (Mutating.fails_except (errors_okOr (by simp))) fun found => ?_
    refine Mutating.fails_bind (Mutating.fails_except (errors_okOr (by simp))) fun credential => ?_
    refine Mutating.fails_bind (Mutating.fails_except (errors_require (by simp))) fun _ => ?_
    refine Mutating.fails_bind (Mutating.fails_except (errors_require (by simp))) fun _ => ?_
    refine Mutating.fails_bind (Mutating.fails_except (errors_require (by simp))) fun _ => ?_
    exact Mutating.fails_except (errors_okOr (by simp))
  obtain ⟨t, -, hrun⟩ := h
  intro error herror
  have hstop := hfails s t _ s' hrun (.error error) (by rw [herror]; rfl)
  simpa using hstop

end Backends

/-- **Failures converge**, for every decoded envelope, every factor and every environment. -/
theorem unlock_failures_converge (total : Primitives.HashesTotal)
    (accepted : Primitives.ParametersAccepted) (p : KeyProtector) {input : ByteString}
    {e : KeyEnvelope} (hdecode : KeyEnvelope.decode input = .ok e) (id : RecipientId) :
    (e.applicationId = p.applicationId →
      (∀ t r, (p.unlock e id).run.Runs t r → (∃ event ∈ t, ReturnsPassphrase event) →
        Converged r ∨ r = .error .kdfResourceUnavailable) ∧
      (∀ secret, Converged (p.unlockWithRecoverySecret e id secret)) ∧
      (∀ secret t r, (p.unlockWithFidoAndLocalSecret e id secret).run.Runs t r →
        (∃ event ∈ t, ReturnsPrf event) → Converged r)) ∧
    ((∀ t r, (p.unlock e id).run.Runs t r →
        (∀ event ∈ t, EvaluationErrors (· ≠ .invalidEnvelope) event) →
          r ≠ .error .invalidEnvelope) ∧
      (∀ secret, p.unlockWithRecoverySecret e id secret ≠ .error .invalidEnvelope) ∧
      (∀ secret t r, (p.unlockWithFidoAndLocalSecret e id secret).run.Runs t r →
        (∀ event ∈ t, EvaluationErrors (· ≠ .invalidEnvelope) event) →
          r ≠ .error .invalidEnvelope)) ∧
    (∀ (backend : NativeBackend) request rounds t r,
      (backend.evaluate request rounds).run.Runs t r → r ≠ .error .invalidEnvelope) ∧
    (∀ request s s' reply, FakeBackend.Answers (FakeBackend.evaluate request) s reply s' →
      reply.result ≠ .error .invalidEnvelope) := by
  have hwell := (decode_sound hdecode).1
  refine ⟨fun happ => ⟨fun t r hrun hreturned => ?_, fun secret => ?_,
    fun secret t r hrun hreturned => ?_⟩, ⟨fun t r hrun hgood => ?_, fun secret => ?_,
    fun secret t r hrun hgood => ?_⟩, fun backend request rounds t r hrun herror => ?_,
    fun request s s' reply hanswers herror => ?_⟩
  · cases r with
    | ok root => exact .inl (.inl ⟨root, rfl⟩)
    | error error =>
        have hafter : Fallible.FailsAfter ReturnsPassphrase (p.unlock e id)
            (fun error => error = .unlockFailed ∨ error = .kdfResourceUnavailable) :=
          failsAfter_unlock total accepted (.inl rfl) hwell (.inr rfl)
        rcases hafter t error hrun hreturned with rfl | rfl
        · exact .inl (.inr rfl)
        · exact .inr rfl
  · apply converged_of_errors
    exact errors_unlockWithRecoverySecret (E := (· = .unlockFailed)) total accepted rfl hwell
      (.inl happ) secret
  · apply converged_of_errors
    rintro error rfl
    exact failsAfter_unlockWithFidoAndLocalSecret (E := (· = .unlockFailed)) total accepted rfl
      hwell secret t error hrun hreturned
  · rintro rfl
    exact fails_unlock total accepted hwell t _ hrun hgood rfl
  · intro herror
    exact errors_unlockWithRecoverySecret (E := (· ≠ .invalidEnvelope)) total accepted (by simp)
      hwell (.inr (by simp)) secret _ herror rfl
  · rintro rfl
    exact fails_unlockWithFidoAndLocalSecret total accepted hwell secret t _ hrun hgood rfl
  · exact errors_native_evaluate backend request rounds hrun _ herror rfl
  · exact errors_fake_evaluate request hanswers _ herror rfl

/-! ## The passphrase vector -/

section Vectors

omit [Primitives]

/-- Argon2's own block count. -/
def argon2Blocks (memory passes lanes : UInt32) : Option Nat :=
  if 8 * lanes.toNat ≤ memory.toNat ∧ 1 ≤ passes.toNat ∧ 1 ≤ lanes.toNat then
    some (4 * lanes.toNat * (memory.toNat / (4 * lanes.toNat)))
  else none

/-- The primitives of the vectors, with that block count. -/
@[reducible] def Vector.argon2Primitives : Primitives :=
  { Vector.primitives with argon2BlockCount := argon2Blocks }

/-- The passphrase vector under another MAC: whatever its user types, the failure says nothing. -/
theorem passphraseEnvelope_moved_mac_converges :
    let _ := Vector.argon2Primitives
    let p : KeyProtector := ⟨Vector.application, .desktop⟩
    let moved := { Vector.passphraseEnvelope with mac := Vector.recoveryEnvelope.mac }
    ∀ t r, (p.unlock moved Vector.passphraseRecord.id).run.Runs t r →
      (∃ event ∈ t, ReturnsPassphrase event) →
        Converged r ∨ r = .error .kdfResourceUnavailable := by
  let _ := Vector.argon2Primitives
  let p : KeyProtector := ⟨Vector.application, .desktop⟩
  let moved := { Vector.passphraseEnvelope with mac := Vector.recoveryEnvelope.mac }
  have total : Primitives.HashesTotal := ⟨fun _ _ => ⟨_, rfl⟩, fun _ _ _ => ⟨_, rfl⟩⟩
  have accepted : Primitives.ParametersAccepted :=
    ⟨fun key => decide_eq_true key.length_eq,
      fun memory passes lanes hmemory hpasses hlanes => if_pos ⟨hmemory, hpasses, hlanes⟩⟩
  have hdecode : KeyEnvelope.decode moved.encode = .ok moved := by decide +kernel
  exact ((unlock_failures_converge total accepted p hdecode Vector.passphraseRecord.id).1 rfl).1

end Vectors

end FidoKeyWrap
