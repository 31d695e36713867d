/-
# FidoKeyWrap.Native.SecretRelease — what has to hold before a PRF secret leaves the adapter.

`Released` collects everything that held when `evaluate` returned a secret, `Inventoried` what the
managed entry point adds. Both entry points read the secret of an assertion only after that assertion
was verified, whatever libfido2 replies and however the call ends.
-/
import FidoKeyWrap.Native.Vector

namespace FidoKeyWrap.Native

open ByteData Interact

/-- **`Released a request pin secret t`** — the policy and the PIN agreed, the assertion was
verified for exactly the requested credential, and the secret is its 32 bytes of output. -/
structure Released (a : Authenticator) (request : PrfRequest) (pin : Option Pin)
    (secret : Bytes 32) (t : Trace libfido2) : Prop where
  policy : PolicyAgrees a request.policy pin
  assertion : ∃ raw,
    Verified a.device raw pin request.credentialId request.es256PublicKey request.policy t ∧
      SecretRead raw secret t

/-- **`Inventoried a request credential pin t`** — the request is for the managed credential, and
a complete enumeration of its relying party showed exactly its record. -/
structure Inventoried (a : Authenticator) (request : PrfRequest) (credential : ManagedCredential)
    (pin : Pin) (t : Trace libfido2) : Prop where
  relyingPartyId : request.relyingPartyId = credential.relyingPartyId
  credentialId : request.credentialId = credential.credentialId
  es256PublicKey : request.es256PublicKey = credential.es256PublicKey
  protection : request.policy.protection = credential.protection
  record : ∃ list records,
    ⟨.credmanGetDevRk a.device.raw (utf8 credential.relyingPartyId) list pin,
      (fidoOk, records)⟩ ∈ t ∧
    records.count ≤ maxManagedCredentialsPerRp ∧ records.Shows (.exact credential)

section Release

variable {self : Authenticator} {request : PrfRequest} {credential : ManagedCredential} {pin : Pin}
  {t u : Trace libfido2} {secret : Bytes 32}

theorem Released.append {optionalPin : Option Pin}
    (h : Released self request optionalPin secret t) :
    Released self request optionalPin secret (t ++ u) := by
  obtain ⟨raw, hverified, memory, hread, hsecret⟩ := h.assertion
  have hstart : t <:+: t ++ u := (List.prefix_append t u).isInfix
  exact ⟨h.policy, raw, hverified.append, memory, hread.trans hstart, hsecret⟩

theorem runs_evaluateManagedEnrollment_ok
    (h : (self.evaluateManagedEnrollment request credential pin).run.Runs t (.ok secret)) :
    Released self request (assertionPin request.policy pin) secret t ∧
      Inventoried self request credential pin t := by
  unfold Authenticator.evaluateManagedEnrollment at h
  simp only [↓Fallible.runs_except_bind_ok, Fallible.runs_bind_ok, require_eq_ok,
    Fallible.runs_pure] at h
  obtain ⟨-, -, -, hmatches, t₁, secret', t₂, rfl, hevaluate, t₃, u, t₄, rfl, hconfirm, rfl,
    hsecret⟩ := h
  cases hsecret
  obtain ⟨hpolicy, hassertion⟩ := runs_evaluate_ok hevaluate
  have hreleased : Released self request (assertionPin request.policy pin) secret t₁ :=
    ⟨hpolicy, hassertion⟩
  refine ⟨hreleased.append, ?_⟩
  obtain ⟨raw, event, rfl, list, reply, rfl, hok, hfind⟩ := runs_confirmManagedInventory_ok hconfirm
  obtain ⟨hcount, hshows⟩ := find_eq_ok_present.mp hfind
  simp only [managedEnrollmentMatches, decide_eq_true_eq] at hmatches
  obtain ⟨hrp, hid, hkey, hprotection⟩ := hmatches
  refine ⟨hrp, hid, hkey, hprotection, list, reply.2, ?_, hcount, hshows⟩
  rw [← hok]
  simp [InventoryExpectation.relyingPartyId]

/-- The managed entry point reads no secret but that of its evaluation. -/
theorem ordered_evaluateManagedEnrollment :
    Program.Ordered (ReadsVerified self (assertionPin request.policy pin)
      request.credentialId request.es256PublicKey request.policy) []
      (self.evaluateManagedEnrollment request credential pin).run := by
  apply Fallible.ordered_except_bind
  intro _ _
  apply Fallible.ordered_except_bind
  intro _ _
  apply Fallible.ordered_bind ordered_evaluate
  intro t₁ released _
  apply Fallible.ordered_bind
  · refine Program.Every.ordered (every_confirmManagedInventory self
      (P := fun event => ∀ past, ReadsVerified self (assertionPin request.policy pin)
        request.credentialId request.es256PublicKey request.policy past event) ?_ ?_)
      fun event hevent => hevent
    · exact fun event hquiet past => readsVerified_of_quiet hquiet
    · rintro list reply past raw index (hquery | hquery) <;> cases hquery
  · intro t₂ _ _
    exact Program.ordered_pure _

end Release

/-- **A PRF secret is released only after every check.** In every run of `evaluate`, whatever
libfido2 replies: a returned secret means that the policy and the PIN agree, that the one assertion
was verified under exactly the requested key, that its signed flags are exactly those of the policy,
that it is for the requested credential, and that the secret is its 32 bytes of output; and a read of
that output comes after all of these checks. The managed entry point promises the same,
and that the request matches the managed credential, whose record a complete enumeration showed. -/
theorem secret_released_after_checks :
    (∀ (self : Authenticator) (request : PrfRequest) (pin : Option Pin) (t : Trace libfido2)
      (r : Except Error (Bytes 32)), (self.evaluate request pin).run.Runs t r →
      (∀ secret, r = .ok secret → Released self request pin secret t) ∧
        ∀ before event after, t = before ++ event :: after →
          ReadsVerified self pin request.credentialId request.es256PublicKey
            request.policy before event) ∧
    ∀ (self : Authenticator) (request : PrfRequest) (credential : ManagedCredential) (pin : Pin)
      (t : Trace libfido2) (r : Except Error (Bytes 32)),
      (self.evaluateManagedEnrollment request credential pin).run.Runs t r →
      (∀ secret, r = .ok secret →
        Released self request (assertionPin request.policy pin) secret t ∧
          Inventoried self request credential pin t) ∧
        ∀ before event after, t = before ++ event :: after →
          ReadsVerified self (assertionPin request.policy pin) request.credentialId
            request.es256PublicKey request.policy before event := by
  constructor
  · intro self request pin t r hrun
    constructor
    · rintro secret rfl
      obtain ⟨hpolicy, hassertion⟩ := runs_evaluate_ok hrun
      exact ⟨hpolicy, hassertion⟩
    · intro before event after ht
      exact (ordered_evaluate t r hrun).at ht
  · intro self request credential pin t r hrun
    constructor
    · rintro secret rfl
      exact runs_evaluateManagedEnrollment_ok hrun
    · intro before event after ht
      exact (ordered_evaluateManagedEnrollment t r hrun).at ht

/-- The authenticator of the vector releases its secret at both entry points. -/
theorem vector_secret_released :
    (∃ t, Released Vector.authenticator Vector.request (some Vector.pin) Vector.secret t) ∧
      ∃ t, Released Vector.authenticator Vector.request (some Vector.pin) Vector.secret t ∧
        Inventoried Vector.authenticator Vector.request Vector.credential Vector.pin t := by
  have hevaluate : ((Vector.authenticator.evaluate Vector.request (some Vector.pin)).run.exec?
      Vector.device []).map Prod.snd = some (.ok Vector.secret) := by decide
  have hmanaged : ((Vector.authenticator.evaluateManagedEnrollment Vector.request Vector.credential
      Vector.pin).run.exec? Vector.device []).map Prod.snd = some (.ok Vector.secret) := by
    decide
  obtain ⟨⟨t, r⟩, hexec, rfl⟩ := Option.map_eq_some_iff.mp hevaluate
  obtain ⟨⟨u, r'⟩, hexec', rfl⟩ := Option.map_eq_some_iff.mp hmanaged
  obtain ⟨hfirst, hsecond⟩ := secret_released_after_checks
  refine ⟨⟨t, ?_⟩, u, ?_⟩
  · exact (hfirst _ _ _ t _ (Program.runs_of_exec? hexec)).1 Vector.secret rfl
  · exact (hsecond _ _ _ _ u _ (Program.runs_of_exec? hexec')).1 Vector.secret rfl

end FidoKeyWrap.Native
