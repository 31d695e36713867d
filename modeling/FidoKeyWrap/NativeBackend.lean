/-
# FidoKeyWrap.NativeBackend — the backend that drives a real security key.

The protector's backend calls are programs over two environments side by side: the prompts of the
application and the foreign calls of the adapter. A managed enrollment that fails after the device
made the credential tries to clean it up on the same open authenticator; it reports the original
error only when the credential is known to be gone. The open authenticator travels with a successful
enrollment as its session, so that a later failure can still clean up.
-/
import FidoKeyWrap.Backend
import FidoKeyWrap.Config
import FidoKeyWrap.Enrollment
import FidoKeyWrap.Lib.Sum
import Mathlib

namespace FidoKeyWrap

open ByteData Interact

/-! ## The application's side -/

/-- Prompts and foreign calls side by side. -/
abbrev console : Signature := interaction.sum Native.libfido2

/-- A fallible computation that may prompt and call libfido2. -/
abbrev Console := Fallible console Error

/-- Announce a selection by touch. -/
def selectAuthenticatorByTouch (operation : Operation) (label : String) (policy : FidoPolicy) :
    Console Unit :=
  Fallible.left Error.interaction (Interaction.selectAuthenticatorByTouch operation label policy)

/-- Ask for the PIN. -/
def requestPin (operation : Operation) (label : String) (ceremony : FidoCeremony) : Console Pin :=
  Fallible.left Error.interaction (Interaction.requestPin operation label ceremony)

/-- Announce a touch. -/
def touchRequired (operation : Operation) (label : String) (ceremony : FidoCeremony)
    (policy : FidoPolicy) : Console Unit :=
  Fallible.left Error.interaction (Interaction.touchRequired operation label ceremony policy)

/-! ## The adapter's side -/

/-- The policy of the adapter. -/
def nativePolicy : FidoPolicy → Native.ExactPolicy
  | .presence => .presence
  | .userVerification => .userVerified

/-- The protection of a credential of the policy. -/
def nativeProtection : FidoPolicy → Native.CredentialProtection
  | .presence => .optionalWithCredentialId
  | .userVerification => .userVerificationRequired

/-- The error of the library for one of the adapter. -/
def mapNativeError : Native.Error → Error
  | .libraryUnavailable | .libraryIncompatible => .fidoSupportUnavailable
  | .noAuthenticators | .noCompatibleAuthenticators => .noCompatibleAuthenticator
  | .verificationFailed | .protocol => .authenticatorResponseInvalid
  | .randomUnavailable => .randomUnavailable
  | .pinInvalid retries => .authenticator (.pinInvalid retries)
  | .pinBlocked => .authenticator .pinBlocked
  | .pinAuthBlocked => .authenticator .pinTemporarilyBlocked
  | .selectionTimedOut | .timedOut => .authenticator .timedOut
  | .busy => .authenticator .busy
  | .credentialNotFound => .authenticator .credentialUnavailable
  | .credentialStoreFull => .authenticator .credentialStoreFull
  | .credentialMayRemain => .authenticator .credentialMayRemain
  | .credentialManagementUnsupported => .noCompatibleAuthenticator
  | .credentialMismatch => .authenticatorResponseInvalid
  | .retirementUncertain => .authenticator .retirementUncertain
  | .transport => .authenticator .transport
  | .invalidInput _ | .allocationFailed | .pinRequired | .userAction | .unsupported
  | .native _ _ => .authenticator .operationFailed

/-- `.map_err(|error| map_native_error(&error))`. -/
def native {α : Type} (x : Native.Adapter α) : Console α := Fallible.right mapNativeError x

variable [Primitives] [ManagedSessions]

/-! ## The backend -/

/-- Whether the credential of a failed enrollment is known to be gone. -/
def cleanupNativePending (authenticator : Native.Authenticator) (pin : Native.Pin)
    (pending : Native.PendingManagedCredential) (label : String) (policy : FidoPolicy) :
    Program console Bool := do
  match ← (native (authenticator.prepareManagedCleanup pending pin)).run with
  | .error _ => return false
  | .ok none => return true
  | .ok (some cleanup) =>
    match ← (touchRequired .retireManagedRecipient label .assertion policy).run with
    | .error _ => return false
    | .ok () => return (← (native cleanup.finish).run).isOk

/-- Fail with the original error only when the credential is known to be gone. -/
def rejectPendingManaged (authenticator : Native.Authenticator) (pin : Native.Pin)
    (pending : Native.PendingManagedCredential) (label : String) (policy : FidoPolicy)
    (original : Error) : Console ManagedEnrollment := do
  let gone ← cleanupNativePending authenticator pin pending label policy
  if gone then throw original else throw (.authenticator .credentialMayRemain)

/-- Fail after the device reported a credential, which its token can clean up. -/
def rejectCreatedManaged (authenticator : Native.Authenticator) (pin : Native.Pin)
    (enrolled : Native.Enrollment) (label : String) (policy : FidoPolicy) (original : Error) :
    Console ManagedEnrollment :=
  match enrolled.managedCleanup with
  | none => throw (.authenticator .credentialMayRemain)
  | some pending => rejectPendingManaged authenticator pin pending label policy original

/-- What follows the enrollment on the device. -/
def acceptManaged (authenticator : Native.Authenticator) (pin : Native.Pin) (label : String)
    (policy : FidoPolicy) : Except Native.EnrollmentFailure Native.Enrollment →
      Console ManagedEnrollment
  | .error failure =>
    let original := mapNativeError failure.error
    match failure.pendingManaged with
    | none => throw original
    | some pending => rejectPendingManaged authenticator pin pending label policy original
  | .ok enrolled =>
    if enrolled.credential.protection ≠ nativeProtection policy then
      rejectCreatedManaged authenticator pin enrolled label policy .authenticatorResponseInvalid
    else
      match PublicKey64.new enrolled.credential.es256PublicKey with
      | .error _ =>
        rejectCreatedManaged authenticator pin enrolled label policy .authenticatorResponseInvalid
      | .ok publicKey => do
        let cleanup ← okOr enrolled.managedCleanup (Error.authenticator .credentialMayRemain)
        return {
          credential := { credentialId := enrolled.credential.credentialId, publicKey }
          policy
          session := ManagedSessions.equiv.symm (.native authenticator pin cleanup) }

/-- The `native::PrfRequest` of `evaluate` and of `evaluate_native_managed`. -/
def nativePrfRequest (request : PrfRequest) : Native.PrfRequest where
  relyingPartyId := request.credential.applicationId.asStr
  credentialId := request.credential.credentialId
  es256PublicKey := request.credential.publicKey.asBytes
  salt := request.input
  policy := nativePolicy request.credential.policy

/-- The enrollment request of `enroll` and of `enroll_managed`. -/
def nativeEnrollmentRequest (application : ApplicationId) (policy : FidoPolicy)
    (storage : Native.CredentialStorage) : Native.EnrollmentRequest where
  relyingPartyId := application.asStr
  relyingPartyName := "fido key wrap"
  policy := nativePolicy policy
  storage := storage

/-- **`NativeBackend`** — the backend over the adapter. -/
structure NativeBackend where
  backend : Native.Backend

/-- What follows the enrollment of a credential that the authenticator does not keep. -/
def acceptEnrolled (policy : FidoPolicy) : Except Native.EnrollmentFailure Native.Enrollment →
    Result CredentialMaterial
  | .error failure =>
    if failure.pendingManaged.isSome then throw (.authenticator .credentialMayRemain)
    else throw (mapNativeError failure.error)
  | .ok enrolled => do
    require (enrolled.credential.protection = nativeProtection policy)
      Error.authenticatorResponseInvalid
    let publicKey ← (PublicKey64.new enrolled.credential.es256PublicKey).mapError fun _ =>
      Error.authenticatorResponseInvalid
    require (enrolled.managedCleanup = none) (Error.authenticator .credentialMayRemain)
    return { credentialId := enrolled.credential.credentialId, publicKey }

namespace NativeBackend

/-- `None` is the panic of the `expect`. -/
def new (config : FidoConfig) : Option NativeBackend :=
  match Native.Config.new config.operationTimeout config.selectionTimeout config.maxDevices with
  | .ok nativeConfig => some { backend := { config := nativeConfig } }
  | .error _ => none

/-- The prompt of a selection among several devices. -/
def selectionTouch (operation : Operation) (label : String) (policy : FidoPolicy)
    (selection : Native.PreparedSelection) : Console Unit :=
  if 1 < selection.compatibleAuthenticators then selectAuthenticatorByTouch operation label policy
  else return ()

/-- Select an authenticator that can serve a policy. -/
def select (self : NativeBackend) (operation : Operation) (label : String) (policy : FidoPolicy)
    (rounds : Nat) : Console Native.Authenticator := do
  let selection ← native (self.backend.prepareSelection (nativePolicy policy))
  selectionTouch operation label policy selection
  let authenticator ← native (selection.select rounds)
  let supportsPolicy := match policy with
    | .presence => authenticator.capabilities.supportsPresencePolicy
    | .userVerification => authenticator.capabilities.supportsVerifiedPolicy
  require (supportsPolicy = true) Error.noCompatibleAuthenticator
  return authenticator

/-- The PIN of an assertion, which only user verification needs. -/
def assertionPin (request : PrfRequest) : Console (Option Native.Pin) :=
  match request.credential.policy with
  | .presence => return none
  | .userVerification => do
    let pin ← requestPin request.operation request.credential.label .assertion
    let nativePin ← (Native.Pin.new pin.asStr).mapError mapNativeError
    return some nativePin

/-- `AuthenticatorBackend::evaluate` of the native backend. -/
def evaluate (self : NativeBackend) (request : PrfRequest) (rounds : Nat) :
    Console (Bytes 32) := do
  let authenticator ← self.select request.operation request.credential.label
    request.credential.policy rounds
  let pin ← assertionPin request
  touchRequired request.operation request.credential.label .assertion request.credential.policy
  native (authenticator.evaluate (nativePrfRequest request) pin)

/-- Select an authenticator for a managed operation. -/
def selectManaged (self : NativeBackend) (operation : Operation) (label : String)
    (policy : FidoPolicy) (capability : Native.ManagedCapability) (rounds : Nat) :
    Console Native.Authenticator := do
  let selection ← native (self.backend.prepareManagedSelection capability)
  selectionTouch operation label policy selection
  native (selection.select rounds)

/-- `AuthenticatorBackend::enroll` of the native backend. -/
def enroll (self : NativeBackend) (applicationId : ApplicationId) (policy : FidoPolicy)
    (label : String) (operation : Operation) (rounds : Nat) : Console CredentialMaterial := do
  let authenticator ← self.select operation label policy rounds
  let pin ← requestPin operation label .enrollment
  let nativePin ← (Native.Pin.new pin.asStr).mapError mapNativeError
  touchRequired operation label .enrollment policy
  let enrolled ← Fallible.outcomeRight (authenticator.enroll
    (nativeEnrollmentRequest applicationId policy .nonDiscoverable) nativePin)
  acceptEnrolled policy enrolled

/-- `AuthenticatorBackend::enroll_managed` of the native backend. -/
def enrollManaged (self : NativeBackend) (applicationId : ApplicationId) (recipientId : RecipientId)
    (policy : FidoPolicy) (label : String) (operation : Operation) (rounds : Nat) :
    Console ManagedEnrollment := do
  let authenticator ←
    self.selectManaged operation label policy (.enrollment (nativePolicy policy)) rounds
  let pin ← requestPin operation label .enrollment
  let nativePin ← (Native.Pin.new pin.asStr).mapError mapNativeError
  touchRequired operation label .enrollment policy
  let enrolled ← Fallible.outcomeRight (authenticator.enroll (nativeEnrollmentRequest
    applicationId policy (.managedDiscoverable recipientId.asBytes.toList)) nativePin)
  acceptManaged authenticator nativePin label policy enrolled

end NativeBackend

/-- The touch of a managed operation. -/
def touchManaged (request : ManagedRequest) : Console Unit :=
  touchRequired request.operation request.credential.label .assertion request.credential.policy

/-- The PIN of a managed operation. -/
def requestNativePin (request : ManagedRequest) : Console Native.Pin := do
  let pin ← requestPin request.operation request.credential.label .assertion
  (Native.Pin.new pin.asStr).mapError mapNativeError

/-- The identity that the adapter checks. -/
def nativeManagedCredential (credential : CredentialBinding) : Native.ManagedCredential where
  relyingPartyId := credential.applicationId.asStr
  userId := credential.recipientId.asBytes.toList
  credentialId := credential.credentialId
  es256PublicKey := credential.publicKey.asBytes
  protection := nativeProtection credential.policy

/-- The PRF of a managed credential on the authenticator of its session. -/
def evaluateNativeManaged (authenticator : Native.Authenticator) (pin : Native.Pin)
    (request : PrfRequest) : Console (Bytes 32) := do
  touchRequired request.operation request.credential.label .assertion request.credential.policy
  native (authenticator.evaluateManagedEnrollment (nativePrfRequest request)
    (nativeManagedCredential request.credential) pin)

/-- Retire a credential on a selected authenticator. -/
def retireNativeManaged (authenticator : Native.Authenticator) (pin : Native.Pin)
    (request : ManagedRequest) : Console Unit := do
  touchManaged request
  native (authenticator.retireManaged (nativeManagedCredential request.credential) pin)

/-- Clean up with the token of the session. -/
def cleanupNativeManagedEnrollment (authenticator : Native.Authenticator) (pin : Native.Pin)
    (cleanup : Native.PendingManagedCredential) (request : ManagedRequest) : Console Unit := do
  match ← native (authenticator.prepareManagedCleanup cleanup pin) with
  | none => return ()
  | some cleanup =>
    touchManaged request
    native cleanup.finish

namespace NativeBackend

/-- `AuthenticatorBackend::verify_managed` of the native backend. -/
def verifyManaged (self : NativeBackend) (request : ManagedRequest) (rounds : Nat) :
    Console Unit := do
  let authenticator ← self.selectManaged request.operation request.credential.label
    request.credential.policy .management rounds
  let pin ← requestNativePin request
  touchManaged request
  native (authenticator.verifyManaged (nativeManagedCredential request.credential) pin)

/-- `AuthenticatorBackend::retire_managed` of the native backend. -/
def retireManaged (self : NativeBackend) (request : ManagedRequest) (rounds : Nat) :
    Console Unit := do
  let authenticator ← self.selectManaged request.operation request.credential.label
    request.credential.policy .management rounds
  let pin ← requestNativePin request
  retireNativeManaged authenticator pin request

/-- `AuthenticatorBackend::evaluate_managed_enrollment` of the native backend. -/
def evaluateManagedEnrollment (enrollment : ManagedEnrollment) (request : PrfRequest) :
    Console (Bytes 32) :=
  match enrollment.managedSession with
  | .native authenticator pin _ => evaluateNativeManaged authenticator pin request
  | .fake _ => throw .authenticatorResponseInvalid

end NativeBackend

/-- `AuthenticatorBackend::cleanup_managed_enrollment` of the native backend. -/
def NativeBackend.cleanupManagedEnrollment (enrollment : ManagedEnrollment)
    (request : ManagedRequest) : Console Unit :=
  match enrollment.managedSession with
  | .native authenticator pin cleanup =>
    cleanupNativeManagedEnrollment authenticator pin cleanup request
  | .fake _ => throw .authenticatorResponseInvalid

end FidoKeyWrap
