/-
# FidoKeyWrap.FakeBackend — the authenticators in memory.

The backend of the tests: a list of devices, each a map from credential ids to credentials, one
device that answers, and at most one scheduled failure. A call prompts the application as the native
backend does and changes the state as it goes; a call that fails keeps the changes it had made. What
the code expects and would panic on is a stop of its own, apart from the errors it returns.
-/
import FidoKeyWrap.Backend
import FidoKeyWrap.Enrollment
import Mathlib.Data.Finmap

namespace FidoKeyWrap

open ByteData Interact

/-! ## Failures -/

/-- Where a call can be made to fail. -/
inductive FailurePoint where
  | selection
  | enrollment
  | managedEnrollment
  | assertion
  | retirement
  | absenceCheck
  | verifiedResponse
  deriving DecidableEq

/-- How it fails. -/
inductive FailureKind where
  | noCompatibleAuthenticator
  | authenticator (failure : AuthenticatorFailure)
  | invalidResponse
  deriving DecidableEq

/-- The error of a scheduled failure. -/
def FailureKind.intoError : FailureKind → Error
  | noCompatibleAuthenticator => .noCompatibleAuthenticator
  | authenticator failure => .authenticator failure
  | invalidResponse => .authenticatorResponseInvalid

/-- How a call stops: with an error, or because it panics. -/
inductive Stop where
  | error (e : Error)
  | panic
  deriving DecidableEq

/-! ## The state -/

/-- What was asked of the backend so far. -/
structure Counters where
  selections : Nat := 0
  enrollments : Nat := 0
  assertions : Nat := 0
  retirements : Nat := 0
  deriving DecidableEq

/-- A credential in memory: what it was made for, and a PRF root for each policy. -/
structure FakeCredential where
  applicationId : String
  publicKey : PublicKey64
  enrollmentPolicy : FidoPolicy
  storage : FidoStorage
  userId : Option RecipientId
  presenceRoot : Bytes 32
  verifiedRoot : Bytes 32
  deriving DecidableEq

/-- A device: its credentials, and how many managed ones it holds. -/
structure FakeDevice where
  credentials : Finmap fun _ : ByteString => FakeCredential
  managedCapacity : Nat

/-- A device that was never used. -/
def FakeDevice.new : FakeDevice where
  credentials := ∅
  managedCapacity := 25

/-- **`FakeBackend`** — the state of the authenticators in memory. -/
structure FakeBackend where
  nextId : Nat
  devices : List FakeDevice
  visibleDevices : Nat
  selectedDevice : Nat
  counters : Counters
  failNext : Option (FailurePoint × FailureKind)

/-- A fallible call of the backend, which may prompt. -/
abbrev Fake := Mutating interaction FakeBackend Stop

namespace FakeBackend

/-- One visible device that was never used. -/
def new : FakeBackend where
  nextId := 1
  devices := [.new]
  visibleDevices := 1
  selectedDevice := 0
  counters := {}
  failNext := none

/-! ## Scenarios -/

/-- Schedule one failure, unless another one waits. -/
def failNextWith (self : FakeBackend) (point : FailurePoint) (failure : FailureKind) :
    Option FakeBackend :=
  if self.failNext.isSome then none else some { self with failNext := some (point, failure) }

/-- Show the first `count` devices, made as needed; the others keep their credentials. -/
def setCompatibleAuthenticators (self : FakeBackend) (count : Nat) : FakeBackend :=
  { self with
    devices := self.devices ++ List.replicate (count - self.devices.length) .new
    visibleDevices := count
    selectedDevice := if count ≤ self.selectedDevice then 0 else self.selectedDevice }

/-- Let another visible device answer. -/
def selectAuthenticator (self : FakeBackend) (index : Nat) : Result FakeBackend := do
  require (index < self.visibleDevices) .noCompatibleAuthenticator
  return { self with selectedDevice := index }

/-- Change the device at an index, when there is one. -/
def updateDevice (self : FakeBackend) (index : Nat) (f : FakeDevice → FakeDevice) : FakeBackend :=
  { self with devices := self.devices.modify index f }

/-- Change the capacity of the device that answers. -/
def setManagedCapacity (self : FakeBackend) (capacity : Nat) : FakeBackend :=
  self.updateDevice self.selectedDevice fun device => { device with managedCapacity := capacity }

/-- `device.credentials.remove`. -/
def removeCredential (self : FakeBackend) (index : Nat) (credentialId : ByteString) : FakeBackend :=
  self.updateDevice index fun device =>
    { device with credentials := device.credentials.erase credentialId }

/-- Remove a credential from the device that answers. -/
def forgetCredential (self : FakeBackend) (credentialId : ByteString) : FakeBackend :=
  self.removeCredential self.selectedDevice credentialId

/-! ## Small steps of a call -/

/-- Change the state. -/
def update (f : FakeBackend → FakeBackend) : Fake Unit := do set (f (← get))

/-- Prompt the application, whose failure is the failure of the call. -/
def interact {α : Type} (x : Interaction α) : Fake α :=
  (x.mapError fun e => Stop.error (.interaction e) : Fallible interaction Stop α)

/-- `self.devices[index]`. -/
def deviceAt (self : FakeBackend) (index : Nat) : Except Stop FakeDevice :=
  okOr self.devices[index]? .panic

/-- The failure scheduled for a point is taken. -/
def takeFailure (point : FailurePoint) : Fake (Option FailureKind) := do
  let self ← get
  match self.failNext with
  | none => return none
  | some (next, failure) =>
    if next = point then do
      set { self with failNext := none }
      return some failure
    else return none

/-- `if let Some(failure) = self.take_failure(point) { return Err(failure.into_error()) }`. -/
def failAt (point : FailurePoint) : Fake Unit := do
  match ← takeFailure point with
  | some failure => throw (.error failure.intoError)
  | none => return ()

/-- One more selection. -/
def countSelection (counters : Counters) : Counters :=
  { counters with selections := counters.selections + 1 }

/-- One more enrollment. -/
def countEnrollment (counters : Counters) : Counters :=
  { counters with enrollments := counters.enrollments + 1 }

/-- One more assertion. -/
def countAssertion (counters : Counters) : Counters :=
  { counters with assertions := counters.assertions + 1 }

/-- One more retirement. -/
def countRetirement (counters : Counters) : Counters :=
  { counters with retirements := counters.retirements + 1 }

/-- Count, before anything can fail. -/
def count (f : Counters → Counters) : Fake Unit :=
  update fun self => { self with counters := f self.counters }

/-! ## Credentials -/

/-- The coordinates of the generator of P-256. -/
def generator : Bytes 64 := Bytes.ofNat 64
  0x6b17d1f2e12c4247f8bce6e563a440f277037d812deb33a0f4a13945d898c2964fe342e2fe1a7f9b8ee7eb4a7c0f9e162bce33576b315ececbb6406837bf51f5

/-- The credential id with a number. -/
def credentialId (idNumber : Nat) : ByteString :=
  utf8 "fake-credential-format-1" ++ (Bytes.ofNat 8 idNumber).toList

variable [Primitives]

/-- The PRF root of a credential under one policy. -/
def credentialRoot (label : String) (id : Nat) : Bytes 32 :=
  Primitives.sha256 (utf8 "fido-key-wrap deterministic test credential" ++ utf8 label ++
    (Bytes.ofNat 8 id).toList)

/-- Make the next credential on the device that answers. -/
def seedCredentialWithStorage (applicationId : ApplicationId) (policy : FidoPolicy)
    (storage : FidoStorage) (userId : Option RecipientId) : Fake CredentialMaterial := do
  let self ← get
  let idNumber := self.nextId
  require (idNumber + 1 < UInt64.size) Stop.panic
  set { self with nextId := idNumber + 1 }
  let publicKey ← (PublicKey64.new generator).mapError fun _ => Stop.panic
  let credential : FakeCredential :=
    { applicationId := applicationId.asStr, publicKey, enrollmentPolicy := policy, storage, userId
      presenceRoot := credentialRoot "presence" idNumber
      verifiedRoot := credentialRoot "verified" idNumber }
  let _ ← self.deviceAt self.selectedDevice
  update fun self => self.updateDevice self.selectedDevice fun device =>
    { device with credentials := device.credentials.insert (credentialId idNumber) credential }
  return { credentialId := credentialId idNumber, publicKey }

/-- The credential a managed request is for. -/
def managedCredential (self : FakeBackend) (device : Nat) (request : ManagedRequest) :
    Except Stop FakeCredential := do
  let found ← self.deviceAt device
  let credential ← okOr (found.credentials.lookup request.credential.credentialId)
    (Stop.error (.authenticator .credentialUnavailable))
  require (credential.applicationId = request.credential.applicationId.asStr ∧
    credential.storage = .managed ∧ credential.userId = some request.credential.recipientId ∧
    credential.enrollmentPolicy = request.credential.policy)
    (Stop.error (.authenticator .credentialUnavailable))
  require (credential.publicKey = request.credential.publicKey)
    (Stop.error .authenticatorResponseInvalid)
  return credential

/-- The HMAC of a PRF input under the root of the requested policy. -/
def prf (credential : FakeCredential) (request : PrfRequest) : Except Stop (Bytes 32) :=
  let root := match request.credential.policy with
    | .presence => credential.presenceRoot
    | .userVerification => credential.verifiedRoot
  okOr (Primitives.hmacSha256 root.toList request.input.toList) .panic

/-! ## Ceremonies -/

/-- The prompt of a selection among several devices. -/
def selectionTouch (self : FakeBackend) (operation : Operation) (label : String)
    (policy : FidoPolicy) : Fake Unit :=
  if 1 < self.visibleDevices then
    interact (Interaction.selectAuthenticatorByTouch operation label policy)
  else return ()

/-- The device that answers. -/
def select (operation : Operation) (label : String) (policy : FidoPolicy) : Fake Nat := do
  count countSelection
  failAt .selection
  let self ← get
  require (self.visibleDevices ≠ 0) (Stop.error .noCompatibleAuthenticator)
  self.selectionTouch operation label policy
  return self.selectedDevice

/-- The touch of an assertion. -/
def touchAssertion (credential : CredentialBinding) (operation : Operation) : Fake Unit :=
  interact (Interaction.touchRequired operation credential.label .assertion credential.policy)

/-- The PIN of an assertion, which only user verification needs. -/
def assertionPin (credential : CredentialBinding) (operation : Operation) : Fake Unit :=
  if credential.policy = .userVerification then do
    let _ ← interact (Interaction.requestPin operation credential.label .assertion)
  else return ()

/-- `AuthenticatorBackend::enroll` of the backend in memory. -/
def enroll (applicationId : ApplicationId) (policy : FidoPolicy) (label : String)
    (operation : Operation) : Fake CredentialMaterial := do
  let _ ← select operation label policy
  let _ ← interact (Interaction.requestPin operation label .enrollment)
  interact (Interaction.touchRequired operation label .enrollment policy)
  count countEnrollment
  failAt .enrollment
  failAt .verifiedResponse
  seedCredentialWithStorage applicationId policy .nonDiscoverable none

/-- What is left of a managed credential whose enrollment failed. -/
def failedManagedEnrollment (applicationId : ApplicationId) (recipientId : RecipientId)
    (policy : FidoPolicy) (failure : FailureKind) : Fake Unit :=
  if failure = .authenticator .credentialMayRemain then do
    let _ ← seedCredentialWithStorage applicationId policy .managed (some recipientId)
  else return ()

/-- `AuthenticatorBackend::evaluate` of the backend in memory. -/
def evaluate (request : PrfRequest) : Fake (Bytes 32) := do
  let device ← select request.operation request.credential.label request.credential.policy
  assertionPin request.credential request.operation
  touchAssertion request.credential request.operation
  count countAssertion
  failAt .assertion
  failAt .verifiedResponse
  let self ← get
  let found ← self.deviceAt device
  let credential ← okOr (found.credentials.lookup request.credential.credentialId)
    (Stop.error (.authenticator .credentialUnavailable))
  require (credential.applicationId = request.credential.applicationId.asStr)
    (Stop.error (.authenticator .operationFailed))
  require (credential.publicKey = request.credential.publicKey)
    (Stop.error .authenticatorResponseInvalid)
  require (¬ (credential.enrollmentPolicy = .userVerification ∧
    request.credential.policy = .presence)) (Stop.error (.authenticator .operationFailed))
  prf credential request

/-- The PRF of a managed credential on the device of its session. -/
def evaluateManagedOnDevice (device : Nat) (request : PrfRequest) : Fake (Bytes 32) := do
  touchAssertion request.credential request.operation
  count countAssertion
  failAt .assertion
  failAt .verifiedResponse
  let self ← get
  let credential ← self.managedCredential device
    { credential := request.credential, operation := request.operation }
  prf credential request

/-- The assertion that shows that a managed credential is there. -/
def touchAndVerifyManaged (device : Nat) (request : ManagedRequest) : Fake Unit := do
  touchAssertion request.credential request.operation
  count countAssertion
  failAt .assertion
  failAt .verifiedResponse
  let self ← get
  let _ ← self.managedCredential device request

/-- The deletion of `retire_managed_on_device`. -/
def deletion (device : Nat) (request : ManagedRequest) : Fake (Result Unit) := do
  match ← takeFailure .retirement with
  | some failure => return .error failure.intoError
  | none => do
    let self ← get
    let _ ← self.deviceAt device
    update fun self => self.removeCredential device request.credential.credentialId
    return .ok ()

/-- The absence check of `retire_managed_on_device`. -/
def presence (device : Nat) (request : ManagedRequest) : Fake (Result Bool) := do
  match ← takeFailure .absenceCheck with
  | some failure => return .error failure.intoError
  | none => do
    let self ← get
    let found ← self.deviceAt device
    return .ok (found.credentials.lookup request.credential.credentialId).isSome

/-- What a deletion and an absence check say together. -/
def retirementResult : Result Unit → Result Bool → Result Unit
  | _, .ok false => .ok ()
  | .ok (), .ok true => .error .authenticatorResponseInvalid
  | .error error, .ok true => .error error
  | _, .error .authenticatorResponseInvalid => .error .authenticatorResponseInvalid
  | _, _ => .error (.authenticator .retirementUncertain)

/-- Verify, delete, and see that the credential is gone. -/
def retireManagedOnDevice (device : Nat) (request : ManagedRequest) : Fake Unit := do
  touchAndVerifyManaged device request
  count countRetirement
  let deleted ← deletion device request
  let present ← presence device request
  (retirementResult deleted present).mapError Stop.error

/-- `AuthenticatorBackend::verify_managed` of the backend in memory. -/
def verifyManaged (request : ManagedRequest) : Fake Unit := do
  let device ← select request.operation request.credential.label request.credential.policy
  let _ ← interact (Interaction.requestPin request.operation request.credential.label .assertion)
  touchAndVerifyManaged device request

/-- `AuthenticatorBackend::retire_managed` of the backend in memory. -/
def retireManaged (request : ManagedRequest) : Fake Unit := do
  let device ← select request.operation request.credential.label request.credential.policy
  let _ ← interact (Interaction.requestPin request.operation request.credential.label .assertion)
  retireManagedOnDevice device request

/-- Retire the credential of a session, unless it is not there. -/
def cleanupManagedEnrollmentOnDevice (device : Nat) (request : ManagedRequest) : Fake Unit := do
  let self ← get
  match self.managedCredential device request with
  | .ok _ => retireManagedOnDevice device request
  | .error (.error (.authenticator .credentialUnavailable)) => return ()
  | .error stop => throw stop

/-! ## Sessions -/

variable [ManagedSessions]

/-- `AuthenticatorBackend::enroll_managed` of the backend in memory. -/
def enrollManaged (applicationId : ApplicationId) (recipientId : RecipientId) (policy : FidoPolicy)
    (label : String) (operation : Operation) : Fake ManagedEnrollment := do
  let device ← select operation label policy
  let _ ← interact (Interaction.requestPin operation label .enrollment)
  interact (Interaction.touchRequired operation label .enrollment policy)
  count countEnrollment
  let self ← get
  let found ← self.deviceAt device
  let used := found.credentials.entries.countP fun entry => entry.2.storage = .managed
  require (used < found.managedCapacity) (Stop.error (.authenticator .credentialStoreFull))
  match ← takeFailure .managedEnrollment with
  | some failure => do
    failedManagedEnrollment applicationId recipientId policy failure
    throw (.error failure.intoError)
  | none => do
    let credential ← seedCredentialWithStorage applicationId policy .managed (some recipientId)
    return { credential, policy, session := ManagedSessions.equiv.symm (.fake device) }

/-- `AuthenticatorBackend::evaluate_managed_enrollment` of the backend in memory. -/
def evaluateManagedEnrollment (enrollment : ManagedEnrollment) (request : PrfRequest) :
    Fake (Bytes 32) :=
  match enrollment.managedSession with
  | .fake device => evaluateManagedOnDevice device request
  | .native .. => throw (.error .authenticatorResponseInvalid)

/-- `AuthenticatorBackend::cleanup_managed_enrollment` of the backend in memory. -/
def cleanupManagedEnrollment (enrollment : ManagedEnrollment) (request : ManagedRequest) :
    Fake Unit :=
  match enrollment.managedSession with
  | .fake device => cleanupManagedEnrollmentOnDevice device request
  | .native .. => throw (.error .authenticatorResponseInvalid)

end FakeBackend

end FidoKeyWrap
