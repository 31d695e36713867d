/-
# FidoKeyWrap.Native.Rejection — which errors of the adapter come from its own checks.

The adapter checks what it is handed before it asks a device, and three of its errors can come from
these checks alone: `InvalidInput`; `PinRequired`, unless a device asked for a PIN; and
`CredentialMismatch`, unless an enumeration showed another record. `Unraised` says of a call that it
never ends in one of them on its own account. The proofs follow the call once, under an arbitrary
set of good replies and an arbitrary bound that these replies do not force (`Blames`).
-/
import FidoKeyWrap.Native.Credential

namespace FidoKeyWrap.Native

open ByteData Interact Fallible

/-! ## Who is to blame -/

/-- A check of the adapter returns the error. -/
def Error.FromCheck : Error → Prop
  | .invalidInput _ | .pinRequired | .credentialMismatch => True
  | _ => False

/-- The device asks for a PIN. -/
def WantsPin (status : Int32) : Prop := status ∈ [fidoErrPinNotSet, fidoErrPinRequired]

instance : DecidablePred WantsPin := fun status =>
  inferInstanceAs (Decidable (status ∈ [fidoErrPinNotSet, fidoErrPinRequired]))

/-- **`Reports status event`** — the status that a setter or an exchange returned. -/
inductive Reports (status : Int32) : Event libfido2 → Prop
  | credSet (credential : Handle) (setting : CredentialSetting) :
      Reports status ⟨.credSet credential setting, status⟩
  | devMakeCred (device credential : Handle) (pin : Pin) (created : NativeCredential) :
      Reports status ⟨.devMakeCred device credential pin, (status, created)⟩
  | assertSet (assertion : Handle) (setting : AssertionSetting) :
      Reports status ⟨.assertSet assertion setting, status⟩
  | devGetAssert (device assertion : Handle) (pin : Option Pin) :
      Reports status ⟨.devGetAssert device assertion pin, status⟩
  | credmanGetDevRk (device : Handle) (rpId : ByteString) (handle : Handle) (pin : Pin)
      (list : NativeCredentialList) :
      Reports status ⟨.credmanGetDevRk device rpId handle pin, (status, list)⟩
  | credmanDelDevRk (device : Handle) (credentialId : ByteString) (pin : Pin) :
      Reports status ⟨.credmanDelDevRk device credentialId pin, status⟩

/-- **`Shows list event`** — the records that an enumeration returned. -/
inductive Shows (list : NativeCredentialList) : Event libfido2 → Prop
  | credmanGetDevRk (device : Handle) (rpId : ByteString) (handle : Handle) (pin : Pin)
      (status : Int32) : Shows list ⟨.credmanGetDevRk device rpId handle pin, (status, list)⟩

/-- **`Unraised mismatched x`** — no run of `x` fails by a check of the adapter: never with
`InvalidInput`, with `PinRequired` only when a device asked for a PIN, and with `CredentialMismatch`
only when an enumeration showed mismatched records. -/
structure Unraised {α : Type} (mismatched : NativeCredentialList → Prop) (x : Adapter α) :
    Prop where
  invalidInput : Fails (fun _ => True) x fun e => ∀ message, e ≠ .invalidInput message
  pinRequired : Fails (fun event => ∀ status, Reports status event → ¬ WantsPin status) x
    fun e => e ≠ .pinRequired
  credentialMismatch : Fails (fun event => ∀ list, Shows list event → ¬ mismatched list) x
    fun e => e ≠ .credentialMismatch

/-- **`Blames mismatched good E`** — the bound `E` leaves out nothing but the three errors, and of
these none that a good reply is to blame for. -/
structure Blames (mismatched : NativeCredentialList → Prop) (good : Event libfido2 → Prop)
    (E : Error → Prop) : Prop where
  other : ∀ e, ¬ e.FromCheck → E e
  pin : ∀ event status, good event → Reports status event → WantsPin status → E .pinRequired
  mismatch : ∀ event list, good event → Shows list event → mismatched list →
    E .credentialMismatch

theorem unraised_of_blames {α : Type} {mismatched : NativeCredentialList → Prop} {x : Adapter α}
    (h : ∀ good E, Blames mismatched good E → Fails good x E) : Unraised mismatched x where
  invalidInput := by
    refine h _ _ ⟨?_, ?_, ?_⟩
    · rintro e hother message rfl
      exact hother trivial
    · rintro _ _ _ _ _ message ⟨⟩
    · rintro _ _ _ _ _ message ⟨⟩
  pinRequired := by
    refine h _ _ ⟨?_, ?_, ?_⟩
    · rintro e hother rfl
      exact hother trivial
    · intro event status hgood hreports hwants
      exact absurd hwants (hgood status hreports)
    · rintro _ _ _ _ _ ⟨⟩
  credentialMismatch := by
    refine h _ _ ⟨?_, ?_, ?_⟩
    · rintro e hother rfl
      exact hother trivial
    · rintro _ _ _ _ _ ⟨⟩
    · intro event list hgood hshows hlist
      exact absurd hlist (hgood list hshows)

section Calls

variable {mismatched : NativeCredentialList → Prop} {good : Event libfido2 → Prop}
  {E : Error → Prop} (blames : Blames mismatched good E)

/-! ## Statuses -/

theorem holds_ite {c : Prop} [Decidable c] {a b : Error} (ha : E a) (hb : E b) :
    E (if c then a else b) := by
  by_cases h : c
  · rwa [if_pos h]
  · rwa [if_neg h]

include blames in
/-- A status that a good reply returned. -/
theorem Blames.status {event : Event libfido2} {status : Int32} (hgood : good event)
    (hreports : Reports status event) (operation : String) :
    E (translateStatus status operation) := by
  by_cases hwants : WantsPin status
  · have hpin : E .pinRequired := blames.pin event status hgood hreports hwants
    have htranslated : translateStatus status operation = .pinRequired := by
      rcases List.mem_pair.mp hwants with rfl | rfl
      · rfl
      · rfl
    rw [htranslated]
    exact hpin
  · have hnot : ¬ status ∈ [fidoErrPinNotSet, fidoErrPinRequired] := hwants
    rw [translateStatus, if_neg hnot]
    have hother : ∀ e : Error, ¬ e.FromCheck → E e := blames.other
    exact holds_ite (hother _ id) <| holds_ite (hother _ id) <| holds_ite (hother _ id) <|
      holds_ite (hother _ id) <| holds_ite (hother _ id) <| holds_ite (hother _ id) <|
      holds_ite (hother _ id) <| holds_ite (hother _ id) <| holds_ite (hother _ id) <|
      holds_ite (hother _ id) <| holds_ite (hother _ id) <|
      holds_ite (hother _ id) (hother _ id)

/-- **`Translates good failure E`** — the translation of a status ends in `E`, as a result and as an
error. -/
def Translates (good : Event libfido2 → Prop) (failure : Adapter Error) (E : Error → Prop) : Prop :=
  ∀ t e, failure.run.Runs t (.ok e) ∨ failure.run.Runs t (.error e) →
    (∀ event ∈ t, good event) → E e

theorem translates_pure {e : Error} (h : E e) : Translates good (pure e) E := by
  rintro t e' (hrun | hrun) _
  · obtain ⟨-, hsame⟩ := Fallible.runs_pure.mp hrun
    cases hsame
    exact h
  · cases (Fallible.runs_pure.mp hrun).2

theorem fails_orFail {status : Int32} {failure : Adapter Error}
    (h : status ≠ fidoOk → Translates good failure E) : Fails good (orFail status failure) E := by
  intro t e hrun hgood
  obtain ⟨hstatus, hfailure⟩ := runs_orFail_error hrun
  exact h hstatus t e hfailure hgood

/-- A call, then what follows its good reply. -/
theorem fails_call_bind {α : Type} {query : Query} {f : query.Reply → Adapter α}
    (hf : ∀ reply, good ⟨query, reply⟩ → Fails good (f reply) E) :
    Fails good (@bind Adapter _ query.Reply α (call query) f) E :=
  fails_ask_bind hf

include blames

theorem translates_translate (self : RawDevice) {event : Event libfido2} {status : Int32}
    (hgood : good event) (hreports : Reports status event) (operation : String) :
    Translates good (self.translate status operation) E := by
  have hpin : ∀ retries, E (.pinInvalid retries) := fun retries =>
    blames.other _ id
  unfold RawDevice.translate
  split
  · rintro t e (hrun | hrun) -
    · obtain ⟨reply, t', -, htail⟩ := runs_call_bind_ok.mp hrun
      obtain ⟨-, hsame⟩ := Fallible.runs_pure.mp htail
      cases hsame
      exact hpin _
    · obtain ⟨reply, t', -, htail⟩ := runs_call_bind.mp hrun
      cases (Fallible.runs_pure.mp htail).2
  · exact translates_pure (blames.status hgood hreports operation)

theorem translates_management (self : RawDevice) {event : Event libfido2} {status : Int32}
    (hgood : good event) (hreports : Reports status event) (operation : String) :
    Translates good (self.translateManagement status operation) E := by
  unfold RawDevice.translateManagement
  split
  · exact translates_pure (blames.other _ id)
  · exact translates_translate blames self hgood hreports operation

/-! ## Assertions -/

theorem fails_randomArray : Fails good randomArray E := by
  refine fails_call_bind fun reply _ => fails_except (errors_okOr ?_)
  exact blames.other _ id

theorem Assertion.fails_new : Fails good Assertion.new E := by
  refine fails_call_bind fun reply _ => fails_except_bind (errors_okOr ?_) fun _ _ => fails_pure _
  exact blames.other _ id

theorem Assertion.fails_set (self : Assertion) (operation : String) (setting : AssertionSetting) :
    Fails good (self.set operation setting) E := by
  refine fails_call_bind fun status hgood => fails_orFail fun _ => ?_
  exact translates_pure (blames.status hgood (.assertSet _ _) operation)

theorem fails_fromBytes (bytes : Bytes 64) : Fails good (Es256PublicKey.fromBytes bytes) E := by
  refine fails_call_bind fun reply _ => fails_except_bind (errors_okOr ?_) fun raw _ => ?_
  · exact blames.other _ id
  refine fails_call_bind fun status _ => fails_bind (fails_orFail fun _ => ?_) fun _ => fails_pure _
  exact translates_pure (blames.other _ id)

theorem Assertion.fails_verifyIdentity (self : Assertion) (expectedId : ByteString)
    (publicKey : Bytes 64) (policy : ExactPolicy) :
    Fails good (self.verifyIdentity expectedId publicKey policy) E := by
  have hfailed : E .verificationFailed := blames.other _ id
  unfold Assertion.verifyIdentity
  refine fails_call_bind fun count _ => fails_except_bind (errors_require hfailed) fun _ _ => ?_
  refine fails_bind (fails_fromBytes blames publicKey) fun key => ?_
  refine fails_call_bind fun status _ => ?_
  refine fails_bind (fails_orFail fun _ => translates_pure hfailed) fun _ => ?_
  refine fails_call_bind fun flags _ => fails_except_bind (errors_require hfailed) fun _ _ => ?_
  refine fails_call_bind fun len _ => fails_call_bind fun pointer _ => ?_
  refine fails_except_bind (errors_require hfailed) fun _ _ => ?_
  refine fails_except_bind (errors_okOr hfailed) fun memory _ => ?_
  exact fails_except (errors_require hfailed)

theorem Assertion.fails_verifiedSecret (self : Assertion) (expectedId : ByteString)
    (publicKey : Bytes 64) (policy : ExactPolicy) :
    Fails good (self.verifiedSecret expectedId publicKey policy) E := by
  have hfailed : E .verificationFailed := blames.other _ id
  refine fails_bind (self.fails_verifyIdentity blames _ _ _) fun _ => ?_
  refine fails_call_bind fun len _ => fails_call_bind fun pointer _ => fails_except ?_
  refine errors_bind (errors_require hfailed) fun _ _ => ?_
  exact errors_bind (errors_okOr hfailed) fun _ _ => errors_ok ⟨_, rfl⟩

/-- **`Accepted`** — the checks of `evaluate` pass. -/
structure PrfRequest.Accepted (request : PrfRequest) (pin : Option Pin) : Prop where
  rpId : validateRpId request.relyingPartyId = .ok ()
  nul : 0 ∉ utf8 request.relyingPartyId
  credentialId : validateCredentialId request.credentialId = .ok ()
  pin : checkPin request.policy pin = .ok ()

/-- Nothing after the checks of `evaluate` is a check. -/
theorem fails_evaluate (self : Authenticator) {request : PrfRequest} {pin : Option Pin}
    (accepted : request.Accepted pin) : Fails good (self.evaluate request pin) E := by
  unfold Authenticator.evaluate
  refine fails_except_bind (errors_ok ⟨_, accepted.rpId⟩) fun _ _ => ?_
  refine fails_except_bind (errors_ok ⟨_, accepted.credentialId⟩) fun _ _ => ?_
  refine fails_except_bind (errors_ok ⟨_, accepted.pin⟩) fun _ _ => ?_
  refine fails_except_bind (errors_require (blames.other _ id)) fun _ _ => ?_
  have hassertion : Fails good request.assertion E := by
    unfold PrfRequest.assertion
    refine fails_except_bind (errors_ok ⟨_, cString_eq_ok.mpr ⟨accepted.nul, rfl⟩⟩) fun rpId _ => ?_
    refine fails_bind (fails_randomArray blames) fun hash => ?_
    refine fails_bind (Assertion.fails_new blames) fun assertion => ?_
    refine fails_bind (assertion.fails_set blames _ _) fun _ => ?_
    refine fails_bind (assertion.fails_set blames _ _) fun _ => ?_
    refine fails_bind (assertion.fails_set blames _ _) fun _ => ?_
    refine fails_bind (assertion.fails_set blames _ _) fun _ => ?_
    refine fails_bind (assertion.fails_set blames _ _) fun _ => ?_
    refine fails_bind (assertion.fails_set blames _ _) fun _ => ?_
    exact fails_bind (assertion.fails_set blames _ _) fun _ => fails_pure _
  refine fails_bind hassertion fun assertion => fails_call_bind fun status hgood => ?_
  refine fails_bind (fails_orFail fun _ => ?_) fun _ => ?_
  · exact translates_translate blames self.device hgood (.devGetAssert _ _ _) _
  · exact assertion.fails_verifiedSecret blames _ _ _

/-! ## Managed credentials -/

omit blames in
/-- A list is unreadable or shows another record. -/
theorem errors_find (list : NativeCredentialList) (expected : InventoryExpectation) :
    Errors (list.find expected) fun e => e = .protocol ∨ e = .credentialMismatch := by
  have hcopy : ∀ bytes maxLen, Errors (copyNativeBytes bytes maxLen)
      fun e => e = .protocol ∨ e = .credentialMismatch := by
    intro bytes maxLen
    unfold copyNativeBytes
    split
    · exact errors_throw (.inl rfl)
    · split
      · exact errors_throw (.inl rfl)
      · exact errors_ok ⟨_, rfl⟩
  have hexamine : ∀ (credential : NativeCredential) found, Errors (credential.examine expected found)
      fun e => e = .protocol ∨ e = .credentialMismatch := by
    intro credential found
    unfold NativeCredential.examine
    refine errors_bind (hcopy _ _) fun id _ => errors_bind (hcopy _ _) fun userId _ => ?_
    refine errors_bind ?_ fun same _ => ?_
    · unfold managedIdentityMatches
      split
      · exact errors_ok ⟨_, rfl⟩
      · exact errors_ok ⟨_, rfl⟩
      · exact errors_throw (.inr rfl)
    · split
      · refine errors_bind (hcopy _ _) fun publicKey _ => ?_
        exact errors_bind (errors_require (.inr rfl)) fun _ _ => errors_ok ⟨_, rfl⟩
      · exact errors_ok ⟨_, rfl⟩
  have hfrom : ∀ indices found, Errors (list.findFrom expected found indices)
      fun e => e = .protocol ∨ e = .credentialMismatch := by
    intro indices
    induction indices with
    | nil => exact fun found => errors_ok ⟨_, rfl⟩
    | cons index rest ih =>
        intro found
        refine errors_bind (errors_okOr (.inl rfl)) fun credential _ => ?_
        exact errors_bind (hexamine credential found) fun found _ => ih found
  refine errors_bind (errors_require (.inl rfl)) fun _ _ => ?_
  exact errors_bind (hfrom _ _) fun _ _ => errors_ok ⟨_, rfl⟩

/-- **`Accepted`** — the checks of an operation on a managed credential pass. -/
structure InventoryExpectation.Accepted (credential : InventoryExpectation) : Prop where
  rpId : validateRpId credential.relyingPartyId = .ok ()
  nul : 0 ∉ utf8 credential.relyingPartyId
  userId : validateUserId credential.userId = .ok ()
  credentialId : validateCredentialId credential.credentialId = .ok ()

/-- The records that an enumeration rejects as another credential's. -/
def InventoryExpectation.Mismatched (expected : InventoryExpectation)
    (list : NativeCredentialList) : Prop :=
  list.find expected = .error .credentialMismatch

section Managed

variable {credential : InventoryExpectation} (accepted : credential.Accepted)

include accepted

theorem errors_validateManaged (self : Authenticator) :
    Errors (self.validateManaged credential) E := by
  refine errors_bind (errors_require (blames.other _ id)) fun _ _ => ?_
  refine errors_bind (errors_ok ⟨_, accepted.rpId⟩) fun _ _ => ?_
  refine errors_bind (errors_ok ⟨_, accepted.userId⟩) fun _ _ => ?_
  exact errors_ok ⟨_, accepted.credentialId⟩

theorem fails_verifyManagedAssertion (self : Authenticator) (pin : Pin) :
    Fails good (self.verifyManagedAssertion credential pin) E := by
  have hassertion : Fails good credential.assertion E := by
    unfold InventoryExpectation.assertion
    refine fails_except_bind (errors_ok ⟨_, cString_eq_ok.mpr ⟨accepted.nul, rfl⟩⟩) fun rpId _ => ?_
    refine fails_bind (fails_randomArray blames) fun hash => ?_
    refine fails_bind (Assertion.fails_new blames) fun assertion => ?_
    refine fails_bind (assertion.fails_set blames _ _) fun _ => ?_
    refine fails_bind (assertion.fails_set blames _ _) fun _ => ?_
    refine fails_bind (assertion.fails_set blames _ _) fun _ => ?_
    refine fails_bind (assertion.fails_set blames _ _) fun _ => ?_
    exact fails_bind (assertion.fails_set blames _ _) fun _ => fails_pure _
  refine fails_bind hassertion fun assertion => fails_call_bind fun status hgood => ?_
  refine fails_bind (fails_orFail fun _ => ?_) fun _ => ?_
  · exact translates_translate blames self.device hgood (.devGetAssert _ _ _) _
  · exact assertion.fails_verifyIdentity blames _ _ _

omit blames in
theorem fails_managedPresence (blames : Blames credential.Mismatched good E) (self : Authenticator)
    (pin : Pin) : Fails good (self.managedPresence credential pin) E := by
  unfold Authenticator.managedPresence
  refine fails_except_bind (errors_ok ⟨_, cString_eq_ok.mpr ⟨accepted.nul, rfl⟩⟩) fun rpId _ => ?_
  refine fails_call_bind fun reply _ => ?_
  refine fails_except_bind (errors_okOr (blames.other _ id)) fun list _ => ?_
  refine fails_call_bind fun reply hgood => ?_
  obtain ⟨status, records⟩ := reply
  dsimp only
  split
  · exact fails_pure _
  · refine fails_bind (fails_orFail fun _ => ?_) fun _ => fails_except fun e he => ?_
    · exact translates_management blames self.device hgood (.credmanGetDevRk _ _ _ _ _) _
    · rcases errors_find records credential e he with rfl | rfl
      · exact blames.other _ id
      · exact blames.mismatch _ records hgood (.credmanGetDevRk _ _ _ _ _) he

omit blames in
theorem fails_confirmManagedInventory (blames : Blames credential.Mismatched good E)
    (self : Authenticator) (pin : Pin) :
    Fails good (self.confirmManagedInventory credential pin) E := by
  refine fails_bind (fails_managedPresence accepted blames self pin) fun presence => ?_
  exact fails_except (errors_require (blames.other _ id))

omit blames accepted in
/-- A deletion reports the errors of its two halves, or that it cannot tell. -/
theorem errors_retirementOutcome (blames : Blames credential.Mismatched good E)
    {delete : Result Unit} {presence : Result ManagedPresence} (hdelete : Errors delete E)
    (hpresence : Errors presence E) : Errors (retirementOutcome delete presence) E := by
  unfold retirementOutcome
  split
  · exact errors_ok ⟨_, rfl⟩
  · exact errors_throw (blames.other _ id)
  · exact errors_throw (blames.other _ id)
  · exact errors_throw (hdelete _ rfl)
  · exact errors_throw (hpresence _ rfl)
  · exact errors_throw (blames.other _ id)

omit blames in
theorem fails_deleteManaged (blames : Blames credential.Mismatched good E) (self : Authenticator)
    (credentialId : ByteString) (pin : Pin) :
    Fails good (self.deleteManaged credentialId credential pin) E := by
  refine fails_call_bind fun status hgood => ?_
  have htranslates : Translates good
      (self.device.translateManagement status "delete managed credential") E :=
    translates_management blames self.device hgood (.credmanDelDevRk _ _ _) _
  split
  · intro t e hrun hevents
    rcases Fallible.runs_bind.mp hrun with ⟨t₁, e', t₂, rfl, hfailure, hthrow⟩ | ⟨e', hfailure, hr⟩
    · obtain ⟨rfl, hr⟩ := Fallible.runs_throw.mp hthrow
      cases hr
      exact htranslates t₁ _ (.inl hfailure) fun event hmem => hevents event (by simp [hmem])
    · cases hr
      exact htranslates t _ (.inr hfailure) hevents
  · refine fails_outcome_bind (fails_orFail fun _ => htranslates) fun delete hdelete => ?_
    refine fails_outcome_bind (fails_managedPresence accepted blames self pin) ?_
    intro presence hpresence
    exact fails_except (errors_retirementOutcome blames hdelete hpresence)

end Managed

omit blames in
/-- Verifying, evaluating and retiring start with the checks of the managed credential. -/
theorem fails_verifyManaged {credential : ManagedCredential}
    (accepted : (InventoryExpectation.exact credential).Accepted)
    (blames : Blames (InventoryExpectation.exact credential).Mismatched good E)
    (self : Authenticator) (pin : Pin) : Fails good (self.verifyManaged credential pin) E := by
  refine fails_except_bind (errors_validateManaged blames accepted self) fun _ _ => ?_
  refine fails_bind (fails_verifyManagedAssertion blames accepted self pin) fun _ => ?_
  exact fails_confirmManagedInventory accepted blames self pin

omit blames in
theorem fails_retireManaged {credential : ManagedCredential}
    (accepted : (InventoryExpectation.exact credential).Accepted)
    (blames : Blames (InventoryExpectation.exact credential).Mismatched good E)
    (self : Authenticator) (pin : Pin) : Fails good (self.retireManaged credential pin) E := by
  refine fails_bind (fails_verifyManaged accepted blames self pin) fun _ => ?_
  exact fails_deleteManaged accepted blames self _ pin

omit blames in
theorem fails_evaluateManagedEnrollment {request : PrfRequest} {credential : ManagedCredential}
    {pin : Pin} (accepted : (InventoryExpectation.exact credential).Accepted)
    (hmatches : managedEnrollmentMatches request credential = true)
    (hrequest : request.Accepted (assertionPin request.policy pin))
    (blames : Blames (InventoryExpectation.exact credential).Mismatched good E)
    (self : Authenticator) :
    Fails good (self.evaluateManagedEnrollment request credential pin) E := by
  refine fails_except_bind (errors_validateManaged blames accepted self) fun _ _ => ?_
  refine fails_except_bind (errors_ok ⟨(), require_eq_ok.mpr hmatches⟩) fun _ _ => ?_
  refine fails_bind (fails_evaluate blames self hrequest) fun secret => ?_
  refine fails_bind (fails_confirmManagedInventory accepted blames self pin) fun _ => ?_
  exact fails_pure secret

omit blames in
/-- A token that belongs to the authenticator is not refused. -/
theorem fails_prepareManagedCleanup {pending : PendingManagedCredential}
    (accepted : (InventoryExpectation.pending pending).Accepted)
    (blames : Blames (InventoryExpectation.pending pending).Mismatched good E)
    {self : Authenticator} (hbelongs : pending.affinity = self.affinity) (pin : Pin) :
    Fails good (self.prepareManagedCleanup pending pin) E := by
  have hbelongsTo : pending.belongsTo self.affinity = true := decide_eq_true hbelongs
  refine fails_except_bind (errors_ok ⟨(), require_eq_ok.mpr hbelongsTo⟩) fun _ _ => ?_
  refine fails_except_bind (errors_validateManaged blames accepted self) fun _ _ => ?_
  refine fails_bind (fails_managedPresence accepted blames self pin) fun presence => ?_
  exact fails_pure _

omit blames in
theorem fails_finish {cleanup : ManagedCleanup}
    (accepted : (InventoryExpectation.pending cleanup.credential).Accepted)
    (blames : Blames (InventoryExpectation.pending cleanup.credential).Mismatched good E) :
    Fails good cleanup.finish E := by
  refine fails_bind (fails_verifyManagedAssertion blames accepted _ cleanup.pin) fun _ => ?_
  exact fails_deleteManaged accepted blames cleanup.authenticator _ cleanup.pin

/-! ## Enrollment -/

/-- **`Accepted`** — the checks of `enroll` that do not depend on the device pass. -/
structure EnrollmentRequest.Accepted (request : EnrollmentRequest) : Prop where
  rpId : validateRpId request.relyingPartyId = .ok ()
  rpIdNul : 0 ∉ utf8 request.relyingPartyId
  name : validateName request.relyingPartyName = .ok ()
  nameNul : 0 ∉ utf8 request.relyingPartyName
  storage : request.storage.validate = .ok ()

theorem fails_setCredential (credential : Handle) (operation : String)
    (setting : CredentialSetting) : Fails good (setCredential credential operation setting) E := by
  refine fails_call_bind fun status hgood => fails_orFail fun _ => ?_
  exact translates_pure (blames.status hgood (.credSet _ _) operation)

omit blames in
/-- The fixed user name has no NUL. -/
theorem userName_nul : 0 ∉ utf8 "fido-key-wrap" := by decide

theorem EnrollmentRequest.fails_credential {request : EnrollmentRequest}
    (accepted : request.Accepted) (userId : ByteString) (clientDataHash : Bytes 32)
    (managed : Bool) : Fails good (request.credential userId clientDataHash managed) E := by
  have hset : ∀ c operation setting, Fails good (setCredential c operation setting) E :=
    fails_setCredential blames
  unfold credential
  refine fails_except_bind (errors_ok ⟨_, cString_eq_ok.mpr ⟨accepted.rpIdNul, rfl⟩⟩) fun _ _ => ?_
  refine fails_except_bind (errors_ok ⟨_, cString_eq_ok.mpr ⟨accepted.nameNul, rfl⟩⟩) fun _ _ => ?_
  refine fails_except_bind (errors_ok ⟨_, cString_eq_ok.mpr ⟨userName_nul, rfl⟩⟩) fun _ _ => ?_
  refine fails_call_bind fun allocated _ => ?_
  refine fails_except_bind (errors_okOr (blames.other _ id)) fun c _ => ?_
  refine fails_bind (hset c _ _) fun _ => fails_bind (hset c _ _) fun _ => ?_
  refine fails_bind (hset c _ _) fun _ => fails_bind (hset c _ _) fun _ => ?_
  refine fails_bind (hset c _ _) fun _ => fails_bind (hset c _ _) fun _ => ?_
  exact fails_bind (hset c _ _) fun _ => fails_bind (hset c _ _) fun _ => fails_pure c

theorem fails_makeCredential (self : Authenticator) {request : EnrollmentRequest}
    (accepted : request.Accepted) (pin : Pin) :
    Fails good (self.makeCredential request pin) E := by
  have hvalidate : Errors (self.validateEnrollment request) E := by
    refine errors_bind (errors_ok ⟨_, accepted.rpId⟩) fun _ _ => ?_
    refine errors_bind (errors_ok ⟨_, accepted.name⟩) fun _ _ => ?_
    refine errors_bind (errors_ok ⟨_, accepted.storage⟩) fun _ _ => ?_
    refine errors_bind (errors_require (blames.other _ id)) fun _ _ => ?_
    exact errors_bind (errors_require (blames.other _ id)) fun _ _ => errors_ok ⟨_, rfl⟩
  have huser : Fails good (Authenticator.enrollmentUserId request.storage) E := by
    cases request.storage with
    | nonDiscoverable => exact fails_bind (fails_randomArray blames) fun _ => fails_pure _
    | managedDiscoverable userId => exact fails_pure userId
  refine fails_except_bind hvalidate fun managed _ => ?_
  refine fails_bind (fails_randomArray blames) fun clientDataHash => ?_
  refine fails_bind huser fun userId => ?_
  refine fails_bind (request.fails_credential blames accepted _ _ _) fun credential => ?_
  refine fails_call_bind fun reply hgood => fails_bind (fails_orFail fun _ => ?_) fun _ => ?_
  · by_cases hremains : managed = true ∧ managedEnrollmentStatusIsUncertain reply.1 = true
    · rw [if_pos hremains]
      exact translates_pure (blames.other _ id)
    · rw [if_neg hremains]
      exact translates_translate blames self.device hgood (.devMakeCred _ _ _ _) _
  · exact fails_pure _

/-- A credential is refused for what the device returned, not for what it was asked. -/
theorem errors_acceptCredential (self : Authenticator) (request : EnrollmentRequest)
    (credential : NativeCredential) :
    Errors (self.acceptCredential request credential) fun failure => E failure.error := by
  have hid : Errors credential.copyId E := by
    refine errors_bind (errors_require (blames.other _ id)) fun _ _ => ?_
    exact errors_bind (errors_okOr (blames.other _ id)) fun _ _ => errors_ok ⟨_, rfl⟩
  have hkey : Errors credential.copyPublicKey E := by
    refine errors_bind (errors_require (blames.other _ id)) fun _ _ => ?_
    exact errors_bind (errors_okOr (blames.other _ id)) fun _ _ => errors_ok ⟨_, rfl⟩
  have henrolled : Errors credential.copyEnrollment E := by
    refine errors_bind (errors_okOr (blames.other _ id)) fun _ _ => ?_
    exact errors_bind hid fun _ _ => errors_bind hkey fun _ _ => errors_ok ⟨_, rfl⟩
  have hcertificate : Errors (attestationCertificatePresent credential.x5c) E := by
    unfold attestationCertificatePresent
    split
    · exact errors_ok ⟨_, rfl⟩
    · exact errors_ok ⟨_, rfl⟩
    · exact errors_throw (blames.other _ id)
  have hverify : Errors (credential.verifyAttestation request.policy) E := by
    refine errors_bind (errors_require (blames.other _ id)) fun _ _ => ?_
    refine errors_bind (errors_require (blames.other _ id)) fun _ _ => ?_
    refine errors_bind hcertificate fun _ _ => ?_
    refine errors_bind (errors_require (blames.other _ id)) fun _ _ => ?_
    exact errors_require (blames.other _ id)
  have hpending : Errors (self.pendingManaged request credential) fun failure => E failure.error := by
    unfold Authenticator.pendingManaged
    split
    · exact errors_ok ⟨_, rfl⟩
    · split
      · exact errors_ok ⟨_, rfl⟩
      · exact errors_throw (blames.other .credentialMayRemain id)
  -- a failure after the token was made keeps the error and adds the token
  have hmapped : ∀ {α : Type} {x : Result α} (pending : Option PendingManagedCredential),
      Errors x E → Errors (x.mapError fun error => (⟨error, pending⟩ : EnrollmentFailure))
        fun failure => E failure.error := by
    intro α x pending hx failure hfailure
    obtain ⟨e, he, rfl⟩ := except_mapError_eq_error.mp hfailure
    exact hx e he
  refine errors_bind hpending fun pending _ => errors_bind (hmapped pending henrolled) fun _ _ => ?_
  exact errors_bind (hmapped pending hverify) fun _ _ => errors_ok ⟨_, rfl⟩

theorem fails_enroll (self : Authenticator) {request : EnrollmentRequest}
    (accepted : request.Accepted) (pin : Pin) :
    Fails good (Fallible.mapError EnrollmentFailure.error (self.enroll request pin)) E := by
  refine Fails.mapError (fails_bind ?_ fun credential => ?_)
  · exact Fails.mapError (fails_makeCredential blames self accepted pin)
  · exact fails_except (errors_acceptCredential blames self request credential)

end Calls

end FidoKeyWrap.Native
