/-
# FidoKeyWrap.Native.Managed — verifying, evaluating, deleting and cleaning up a managed credential.

Every operation on a managed credential ends in an enumeration of the records of its relying party:
verification and evaluation need the exact record to be there, and a deletion counts only when the
record is gone. A deletion whose reply was lost is decided by the enumeration alone.
-/
import FidoKeyWrap.Native.Assertion
import FidoKeyWrap.Native.Inventory

namespace FidoKeyWrap.Native

open ByteData Interact

/-- A PRF request and a managed credential are about the same thing. -/
def managedEnrollmentMatches (request : PrfRequest) (credential : ManagedCredential) : Bool :=
  request.relyingPartyId = credential.relyingPartyId
    ∧ request.credentialId = credential.credentialId
    ∧ request.es256PublicKey = credential.es256PublicKey
    ∧ request.policy.protection = credential.protection

/-- What a deletion and the enumeration after it say together. -/
def retirementOutcome (delete : Result Unit) (presence : Result ManagedPresence) : Result Unit :=
  match delete, presence with
  | _, .ok .absent => .ok ()
  | .ok (), .ok .present | .error .credentialNotFound, .ok .present => .error .protocol
  | .error error, .ok .present => .error error
  | _, .error .credentialMismatch => .error .credentialMismatch
  | _, _ => .error .retirementUncertain

/-- The PIN that goes with the assertion of a policy. -/
def assertionPin (policy : ExactPolicy) (pin : Pin) : Option Pin :=
  match policy with
  | .presence => none
  | .userVerified => some pin

/-- A deletion is confirmed by absence, whatever its reply. -/
theorem retirementOutcome_eq_ok {delete : Result Unit} {presence : Result ManagedPresence}
    {u : Unit} : retirementOutcome delete presence = .ok u ↔ presence = .ok .absent := by
  unfold retirementOutcome
  split <;> simp_all

/-- Of the other outcomes, only two leave open whether the credential is there. -/
theorem present_of_retirementOutcome {delete : Result Unit} {presence : Result ManagedPresence}
    {e : Error} (h : retirementOutcome delete presence = .error e)
    (huncertain : e ≠ .retirementUncertain) (hmismatch : e ≠ .credentialMismatch) :
    presence = .ok .present := by
  unfold retirementOutcome at h
  split at h <;> simp_all [eq_comm]

/-- The assertion of `verify_managed_assertion`, before it goes to the device. -/
def InventoryExpectation.assertion (credential : InventoryExpectation) : Adapter Assertion := do
  let rpId ← cString credential.relyingPartyId "relying-party ID contains a NUL byte"
  let clientDataHash ← randomArray
  let assertion ← Assertion.new
  assertion.set "set relying party" (.setRp rpId)
  assertion.set "set client-data hash" (.setClientdataHash clientDataHash)
  assertion.set "set allowed credential" (.allowCred credential.credentialId)
  assertion.set "require user presence" (.setUp fidoOptTrue)
  assertion.set "require user verification" (.setUv fidoOptTrue)
  return assertion

namespace Authenticator

/-- The checks of every managed operation. -/
def validateManaged (self : Authenticator) (credential : InventoryExpectation) : Result Unit := do
  require (self.capabilities.supportsManaged .management = true)
    Error.credentialManagementUnsupported
  validateRpId credential.relyingPartyId
  validateUserId credential.userId
  validateCredentialId credential.credentialId

/-- A verified assertion of the credential, without its PRF. -/
def verifyManagedAssertion (self : Authenticator) (credential : InventoryExpectation) (pin : Pin) :
    Adapter Unit := do
  let assertion ← credential.assertion
  let status ← call (.devGetAssert self.device.raw assertion.raw (some pin))
  orFail status (self.device.translate status "verify managed credential")
  assertion.verifyIdentity credential.credentialId credential.es256PublicKey .userVerified

/-- Enumerate the records of the relying party. -/
def managedPresence (self : Authenticator) (credential : InventoryExpectation) (pin : Pin) :
    Adapter ManagedPresence := do
  let rpId ← cString credential.relyingPartyId "relying-party ID contains a NUL byte"
  let credentials ← okOr (← call .credmanRkNew) Error.allocationFailed
  let reply ← call (.credmanGetDevRk self.device.raw rpId credentials pin)
  if reply.1 = fidoErrNoCredentials then
    return .absent
  else do
    orFail reply.1 (self.device.translateManagement reply.1 "enumerate managed credentials")
    reply.2.find credential

/-- The credential must be among them. -/
def confirmManagedInventory (self : Authenticator) (expected : InventoryExpectation) (pin : Pin) :
    Adapter Unit := do
  let presence ← self.managedPresence expected pin
  require (presence = .present) Error.credentialNotFound

/-- The credential signs, and it is on the device. -/
def verifyManaged (self : Authenticator) (credential : ManagedCredential) (pin : Pin) :
    Adapter Unit := do
  self.validateManaged (.exact credential)
  self.verifyManagedAssertion (.exact credential) pin
  self.confirmManagedInventory (.exact credential) pin

/-- The PRF of a credential that is on the device. -/
def evaluateManagedEnrollment (self : Authenticator) (request : PrfRequest)
    (credential : ManagedCredential) (pin : Pin) : Adapter (Bytes 32) := do
  self.validateManaged (.exact credential)
  require (managedEnrollmentMatches request credential = true) Error.credentialMismatch
  let secret ← self.evaluate request (assertionPin request.policy pin)
  self.confirmManagedInventory (.exact credential) pin
  return secret

/-- Delete the credential, and see what became of it. -/
def deleteManaged (self : Authenticator) (credentialId : ByteString)
    (expected : InventoryExpectation) (pin : Pin) : Adapter Unit := do
  let status ← call (.credmanDelDevRk self.device.raw credentialId pin)
  if status ≠ fidoOk ∧ retirementStatusIsUncertain status = false then
    throw (← self.device.translateManagement status "delete managed credential")
  else do
    let delete ← Fallible.outcome
      (orFail status (self.device.translateManagement status "delete managed credential"))
    let presence ← Fallible.outcome (self.managedPresence expected pin)
    retirementOutcome delete presence

/-- Verify the credential, then delete it. -/
def retireManaged (self : Authenticator) (credential : ManagedCredential) (pin : Pin) :
    Adapter Unit := do
  self.verifyManaged credential pin
  self.deleteManaged credential.credentialId (.exact credential) pin

end Authenticator

/-- **`ManagedCleanup`** — one present enrollment credential that awaits signed proof and deletion on
the authenticator that made it. -/
structure ManagedCleanup where
  authenticator : Authenticator
  credential : PendingManagedCredential
  pin : Pin

/-- The touch that proves the credential, and its deletion. -/
def ManagedCleanup.finish (self : ManagedCleanup) : Adapter Unit := do
  let expected := InventoryExpectation.pending self.credential
  self.authenticator.verifyManagedAssertion expected self.pin
  self.authenticator.deleteManaged expected.credentialId expected self.pin

/-- Look for the credential of a failed enrollment; one that is absent needs no cleanup. -/
def Authenticator.prepareManagedCleanup (self : Authenticator)
    (credential : PendingManagedCredential) (pin : Pin) : Adapter (Option ManagedCleanup) := do
  require (credential.belongsTo self.affinity = true) Error.credentialMismatch
  let expected := InventoryExpectation.pending credential
  self.validateManaged expected
  let presence ← self.managedPresence expected pin
  return match presence with
    | .present => some { authenticator := self, credential, pin }
    | .absent => none

/-! ## What an enumeration answers -/

/-- The reply of an enumeration says whether the expected record is there. -/
def Answers (reply : Int32 × NativeCredentialList) (expected : InventoryExpectation) :
    ManagedPresence → Prop
  | .present => reply.1 = fidoOk ∧ reply.2.find expected = .ok .present
  | .absent => reply.1 = fidoErrNoCredentials ∨
      reply.1 = fidoOk ∧ reply.2.find expected = .ok .absent

/-- **`Enumerated`** — one enumeration of the relying party of a credential, with its answer. -/
def Enumerated (device : RawDevice) (expected : InventoryExpectation) (pin : Pin)
    (presence : ManagedPresence) (event : Event libfido2) : Prop :=
  ∃ list reply, event = ⟨.credmanGetDevRk device.raw (utf8 expected.relyingPartyId) list pin,
    reply⟩ ∧ Answers reply expected presence

/-! ## What the operations ask -/

section Events

variable {P : Event libfido2 → Prop} {expected : InventoryExpectation} {pin : Pin}

theorem InventoryExpectation.quiet_assertion (expected : InventoryExpectation) :
    Quiet expected.assertion := by
  unfold assertion
  refine quiet_bind (quiet_except _) fun _ => quiet_bind quiet_randomArray fun _ => ?_
  refine quiet_bind Assertion.quiet_new fun a => ?_
  refine quiet_bind (a.quiet_set _ _) fun _ => quiet_bind (a.quiet_set _ _) fun _ => ?_
  refine quiet_bind (a.quiet_set _ _) fun _ => quiet_bind (a.quiet_set _ _) fun _ => ?_
  exact quiet_bind (a.quiet_set _ _) fun _ => quiet_pure _

/-- Of the significant calls, a verification makes only its assertion. -/
theorem every_verifyManagedAssertion (self : Authenticator)
    (hquiet : ∀ event : Event libfido2, ¬ event.query.Significant → P event)
    (hassert : ∀ raw status, P ⟨.devGetAssert self.device.raw raw (some pin), status⟩) :
    Program.Every P (self.verifyManagedAssertion expected pin).run := by
  apply Fallible.every_bind (Program.Every.mono expected.quiet_assertion hquiet)
  intro assertion
  apply Fallible.every_bind (every_call (hassert assertion.raw))
  intro status
  apply Fallible.every_bind
    (Program.Every.mono (quiet_orFail (self.device.quiet_translate _ _)) hquiet)
  intro _
  exact Program.Every.mono (assertion.quiet_verifyIdentity _ _ _) hquiet

/-- Of the significant calls, a search makes only its enumeration. -/
theorem every_managedPresence (self : Authenticator)
    (hquiet : ∀ event : Event libfido2, ¬ event.query.Significant → P event)
    (hlist : ∀ list reply,
      P ⟨.credmanGetDevRk self.device.raw (utf8 expected.relyingPartyId) list pin, reply⟩) :
    Program.Every P (self.managedPresence expected pin).run := by
  have hnew : Quiet (call .credmanRkNew) := quiet_call id
  apply Fallible.every_except_bind
  intro rpId hrpId
  obtain ⟨-, rfl⟩ := cString_eq_ok.mp hrpId
  apply Fallible.every_bind (Program.Every.mono hnew hquiet)
  intro allocated
  apply Fallible.every_except_bind
  intro list _
  apply Fallible.every_bind (every_call (hlist list))
  intro reply
  split
  · exact Program.every_pure _
  · apply Fallible.every_bind
      (Program.Every.mono (quiet_orFail (self.device.quiet_translateManagement _ _)) hquiet)
    intro _
    exact Fallible.every_except _

theorem every_confirmManagedInventory (self : Authenticator)
    (hquiet : ∀ event : Event libfido2, ¬ event.query.Significant → P event)
    (hlist : ∀ list reply,
      P ⟨.credmanGetDevRk self.device.raw (utf8 expected.relyingPartyId) list pin, reply⟩) :
    Program.Every P (self.confirmManagedInventory expected pin).run := by
  apply Fallible.every_bind (every_managedPresence self hquiet hlist)
  intro presence
  exact Fallible.every_except _

theorem every_verifyManaged (self : Authenticator) {credential : ManagedCredential}
    (hquiet : ∀ event : Event libfido2, ¬ event.query.Significant → P event)
    (hassert : ∀ raw status, P ⟨.devGetAssert self.device.raw raw (some pin), status⟩)
    (hlist : ∀ list reply,
      P ⟨.credmanGetDevRk self.device.raw (utf8 credential.relyingPartyId) list pin, reply⟩) :
    Program.Every P (self.verifyManaged credential pin).run := by
  apply Fallible.every_except_bind
  intro _ _
  apply Fallible.every_bind (every_verifyManagedAssertion self hquiet hassert)
  intro _
  exact every_confirmManagedInventory self hquiet hlist

/-- Of the significant calls, a deletion makes one deletion and its enumeration. -/
theorem every_deleteManaged (self : Authenticator) {credentialId : ByteString}
    (hquiet : ∀ event : Event libfido2, ¬ event.query.Significant → P event)
    (hdelete : ∀ status, P ⟨.credmanDelDevRk self.device.raw credentialId pin, status⟩)
    (hlist : ∀ list reply,
      P ⟨.credmanGetDevRk self.device.raw (utf8 expected.relyingPartyId) list pin, reply⟩) :
    Program.Every P (self.deleteManaged credentialId expected pin).run := by
  apply Fallible.every_bind (every_call hdelete)
  intro status
  have htranslate : Quiet (self.device.translateManagement status "delete managed credential") :=
    self.device.quiet_translateManagement _ _
  split
  · apply Fallible.every_bind (Program.Every.mono htranslate hquiet)
    intro error
    exact Fallible.every_throw error
  · apply Fallible.every_bind
      (Fallible.every_outcome (Program.Every.mono (quiet_orFail htranslate) hquiet))
    intro delete
    apply Fallible.every_bind (Fallible.every_outcome (every_managedPresence self hquiet hlist))
    intro presence
    exact Fallible.every_except _

/-- Of the significant calls, the first half of a cleanup makes only an enumeration. -/
theorem every_prepareManagedCleanup (self : Authenticator) {pending : PendingManagedCredential}
    (hquiet : ∀ event : Event libfido2, ¬ event.query.Significant → P event)
    (hlist : ∀ list reply,
      P ⟨.credmanGetDevRk self.device.raw (utf8 pending.relyingPartyId) list pin, reply⟩) :
    Program.Every P (self.prepareManagedCleanup pending pin).run := by
  refine Fallible.every_except_bind fun _ _ => Fallible.every_except_bind fun _ _ => ?_
  exact Fallible.every_bind (every_managedPresence self hquiet hlist) fun _ => Program.every_pure _

theorem every_finish (cleanup : ManagedCleanup)
    (hquiet : ∀ event : Event libfido2, ¬ event.query.Significant → P event)
    (hassert : ∀ raw status,
      P ⟨.devGetAssert cleanup.authenticator.device.raw raw (some cleanup.pin), status⟩)
    (hdelete : ∀ status, P ⟨.credmanDelDevRk cleanup.authenticator.device.raw
      cleanup.credential.credentialId cleanup.pin, status⟩)
    (hlist : ∀ list reply, P ⟨.credmanGetDevRk cleanup.authenticator.device.raw
      (utf8 cleanup.credential.relyingPartyId) list cleanup.pin, reply⟩) :
    Program.Every P cleanup.finish.run :=
  Fallible.every_bind (every_verifyManagedAssertion _ hquiet hassert) fun _ =>
    every_deleteManaged _ hquiet hdelete hlist

end Events

section Runs

variable {self : Authenticator} {expected : InventoryExpectation} {pin : Pin} {t : Trace libfido2}

theorem runs_managedPresence_ok {presence : ManagedPresence}
    (h : (self.managedPresence expected pin).run.Runs t (.ok presence)) :
    ∃ raw event, t = [⟨.credmanRkNew, some raw⟩, event] ∧
      Enumerated self.device expected pin presence event := by
  unfold Authenticator.managedPresence at h
  simp only [↓Fallible.runs_except_bind_ok, ↓runs_call_bind_ok, cString_eq_ok, okOr_eq_ok] at h
  obtain ⟨rpId, ⟨-, rfl⟩, allocated, t₁, rfl, raw, rfl, reply, t₂, rfl, h⟩ := h
  split at h
  · rename_i habsent
    obtain ⟨rfl, hpresence⟩ := h
    cases hpresence
    exact ⟨raw, _, rfl, raw, reply, rfl, .inl habsent⟩
  · obtain ⟨t₃, u, t₄, rfl, hstatus, hresult⟩ := Fallible.runs_bind_ok.mp h
    obtain ⟨rfl, hok⟩ := runs_orFail_ok.mp hstatus
    obtain ⟨rfl, hfind⟩ := Fallible.runs_except.mp hresult
    refine ⟨raw, _, rfl, raw, reply, rfl, ?_⟩
    cases presence with
    | present => exact ⟨hok, hfind.symm⟩
    | absent => exact .inr ⟨hok, hfind.symm⟩

theorem runs_confirmManagedInventory_ok {u : Unit}
    (h : (self.confirmManagedInventory expected pin).run.Runs t (.ok u)) :
    ∃ raw event, t = [⟨.credmanRkNew, some raw⟩, event] ∧
      Enumerated self.device expected pin .present event := by
  unfold Authenticator.confirmManagedInventory at h
  obtain ⟨t₁, presence, t₂, rfl, hpresence, hresult⟩ := Fallible.runs_bind_ok.mp h
  obtain ⟨rfl, hrequire⟩ := Fallible.runs_except.mp hresult
  obtain rfl := require_eq_ok.mp hrequire.symm
  rw [List.append_nil]
  exact runs_managedPresence_ok hpresence

/-- A deletion fails outright, or is decided by its enumeration. -/
theorem runs_deleteManaged {credentialId : ByteString} {r : Result Unit}
    (h : (self.deleteManaged credentialId expected pin).run.Runs t r) :
    ∃ status t₁ t₂, t = ⟨.credmanDelDevRk self.device.raw credentialId pin, status⟩ :: (t₁ ++ t₂) ∧
      (∀ event ∈ t₁, ¬ event.query.Significant) ∧
      ((status ≠ fidoOk ∧ retirementStatusIsUncertain status = false ∧ t₂ = [] ∧
          ∃ e, r = .error e) ∨
        ((status = fidoOk ∨ retirementStatusIsUncertain status = true) ∧
          ∃ delete presence, (self.managedPresence expected pin).run.Runs t₂ presence ∧
            r = retirementOutcome delete presence)) := by
  obtain ⟨status, t', rfl, h₁⟩ := runs_call_bind.mp h
  have htranslate : Quiet (self.device.translateManagement status "delete managed credential") :=
    self.device.quiet_translateManagement _ _
  split at h₁
  · rename_i hstatus
    have hquiet : Quiet (do
        throw (← self.device.translateManagement status "delete managed credential") :
          Adapter Unit) := quiet_bind htranslate fun error => quiet_throw error
    have hr : ∃ e, r = .error e := by
      rcases Fallible.runs_bind.mp h₁ with ⟨t₁, e, t₂, -, -, hthrow⟩ | ⟨e, -, hr⟩
      · exact ⟨e, (Fallible.runs_throw.mp hthrow).2⟩
      · exact ⟨e, hr⟩
    exact ⟨status, t', [], by rw [List.append_nil], hquiet t' r h₁,
      .inl ⟨hstatus.1, hstatus.2, rfl, hr⟩⟩
  · rename_i hstatus
    have hdone : status = fidoOk ∨ retirementStatusIsUncertain status = true := by
      by_contra hnot
      rw [not_or, Bool.not_eq_true] at hnot
      exact hstatus hnot
    rcases Fallible.runs_bind.mp h₁ with ⟨t₁, delete, t₂, rfl, hdelete, h₂⟩ | ⟨e, hdelete, -⟩
    · obtain ⟨delete', hrun, hsame⟩ := Fallible.runs_outcome.mp hdelete
      cases hsame
      rcases Fallible.runs_bind.mp h₂ with ⟨t₃, presence, t₄, rfl, hpresence, h₃⟩ | ⟨e, hpresence, -⟩
      · obtain ⟨presence', hrun', hsame⟩ := Fallible.runs_outcome.mp hpresence
        cases hsame
        obtain ⟨rfl, hr⟩ := Fallible.runs_except.mp h₃
        rw [List.append_nil]
        exact ⟨status, t₁, t₃, rfl, quiet_orFail htranslate t₁ _ hrun,
          .inr ⟨hdone, delete, presence, hrun', hr⟩⟩
      · obtain ⟨presence', -, hsame⟩ := Fallible.runs_outcome.mp hpresence
        cases hsame
    · obtain ⟨delete', -, hsame⟩ := Fallible.runs_outcome.mp hdelete
      cases hsame

theorem runs_verifyManagedAssertion_ok {u : Unit}
    (h : (self.verifyManagedAssertion expected pin).run.Runs t (.ok u)) :
    ∃ raw, Verified self.device raw (some pin) expected.credentialId expected.es256PublicKey
      .userVerified t := by
  unfold Authenticator.verifyManagedAssertion at h
  simp only [Fallible.runs_bind_ok, ↓runs_call_bind_ok, runs_orFail_ok,
    runs_verifyIdentity_ok] at h
  obtain ⟨t₁, assertion, t₂, rfl, -, status, t₃, rfl, t₄, -, t₅, rfl, ⟨rfl, rfl⟩, key, flags,
    memory, rfl, hflags, hid⟩ := h
  exact ⟨assertion.raw, key, flags, memory, (List.suffix_append t₁ _).isInfix, hflags, hid⟩

/-- A deletion that counts was confirmed by an enumeration without the credential. -/
theorem absent_of_deleteManaged {credentialId : ByteString} {u : Unit}
    (h : (self.deleteManaged credentialId expected pin).run.Runs t (.ok u)) :
    ∃ event ∈ t, Enumerated self.device expected pin .absent event := by
  obtain ⟨status, t₁, t₂, rfl, -, hcases⟩ := runs_deleteManaged h
  rcases hcases with ⟨-, -, -, e, he⟩ | ⟨-, delete, presence, hpresence, hr⟩
  · cases he
  · obtain rfl := retirementOutcome_eq_ok.mp hr.symm
    obtain ⟨list, event, rfl, henumerated⟩ := runs_managedPresence_ok hpresence
    exact ⟨event, by simp, henumerated⟩

/-- A finished cleanup was confirmed by an enumeration without the credential. -/
theorem absent_of_finish {cleanup : ManagedCleanup} {u : Unit}
    (h : cleanup.finish.run.Runs t (.ok u)) :
    ∃ event ∈ t, Enumerated cleanup.authenticator.device (.pending cleanup.credential) cleanup.pin
      .absent event := by
  obtain ⟨t₁, _, t₂, rfl, -, hdelete⟩ := Fallible.runs_bind_ok.mp h
  obtain ⟨event, hmem, henumerated⟩ := absent_of_deleteManaged hdelete
  exact ⟨event, List.mem_append_right t₁ hmem, henumerated⟩

/-- A prepared cleanup is for the credential on this authenticator; without one, an enumeration did
not show the credential. -/
theorem runs_prepareManagedCleanup_ok {pending : PendingManagedCredential}
    {cleanup : Option ManagedCleanup}
    (h : (self.prepareManagedCleanup pending pin).run.Runs t (.ok cleanup)) :
    (cleanup = some { authenticator := self, credential := pending, pin }) ∨
      (cleanup = none ∧ ∃ event ∈ t, Enumerated self.device (.pending pending) pin .absent event) := by
  unfold Authenticator.prepareManagedCleanup at h
  simp only [↓Fallible.runs_except_bind_ok, Fallible.runs_bind_ok, Fallible.runs_pure] at h
  obtain ⟨-, -, -, -, t₁, presence, t₂, rfl, hpresence, rfl, hcleanup⟩ := h
  obtain ⟨list, event, rfl, henumerated⟩ := runs_managedPresence_ok hpresence
  cases hcleanup
  cases presence with
  | present => exact .inl rfl
  | absent => exact .inr ⟨rfl, event, by simp, henumerated⟩

end Runs

end FidoKeyWrap.Native
