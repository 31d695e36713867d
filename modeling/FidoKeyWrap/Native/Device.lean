/-
# FidoKeyWrap.Native.Device — devices, their capabilities, and the selection of one.

The adapter lists the devices the system has, opens them, reads what they can do and keeps those an
operation can use. When several are left, the user touches one: every device is armed, then they are
polled in turn until one was touched or the deadline passed. Instants and durations are nanoseconds.

The polling loop ends when the clock says so, and the clock is arbitrary. Its model makes a given
number of rounds and then has no further run, so the runs of the loop are the runs of its models.
-/
import FidoKeyWrap.Native.Ffi

namespace FidoKeyWrap.Native

open ByteData Interact

/-! ## Policies -/

/-- The exact assertion policy. -/
inductive ExactPolicy where
  | presence
  | userVerified
  deriving DecidableEq

/-- The credential-protection level of an enrollment. -/
inductive CredentialProtection where
  | optionalWithCredentialId
  | userVerificationRequired
  deriving DecidableEq

namespace CredentialProtection

/-- The number of a level. -/
def native : CredentialProtection → Int32
  | optionalWithCredentialId => fidoCredProtUvOptionalWithId
  | userVerificationRequired => fidoCredProtUvRequired

/-- The level of a number. -/
def fromNative (protection : Int32) : Option CredentialProtection :=
  if protection = fidoCredProtUvOptionalWithId then some optionalWithCredentialId
  else if protection = fidoCredProtUvRequired then some userVerificationRequired
  else none

@[simp] theorem fromNative_native (protection : CredentialProtection) :
    fromNative protection.native = some protection := by
  cases protection <;> decide

end CredentialProtection

namespace ExactPolicy

/-- The level that a credential of the policy is made with. -/
def protection : ExactPolicy → CredentialProtection
  | presence => .optionalWithCredentialId
  | userVerified => .userVerificationRequired

/-- Its number. -/
def nativeProtection (policy : ExactPolicy) : Int32 := policy.protection.native

end ExactPolicy

/-- The capability one managed-credential operation needs. -/
inductive ManagedCapability where
  | enrollment (policy : ExactPolicy)
  | management
  deriving DecidableEq

/-- What an authenticator can do. -/
structure Capabilities where
  fido2 : Bool
  hmacSecret : Bool
  credentialProtection : Bool
  discoverableCredentials : Bool
  credentialManagement : Bool
  es256 : Bool
  clientPinSupported : Bool
  clientPinConfigured : Bool
  alwaysUv : Bool
  deriving DecidableEq

namespace Capabilities

/-- What every recovery with the authenticator needs. -/
def compatible (self : Capabilities) : Bool :=
  self.fido2 && self.hmacSecret && self.credentialProtection && self.es256
    && self.clientPinSupported && self.clientPinConfigured

/-- An authenticator that always verifies its user cannot show presence alone. -/
def supportsPresencePolicy (self : Capabilities) : Bool := self.compatible && !self.alwaysUv

/-- Verification needs a configured PIN, which compatibility already asks for. -/
def supportsVerifiedPolicy (self : Capabilities) : Bool := self.compatible

/-- Whether the authenticator can serve a policy. -/
def supportsPolicy (self : Capabilities) : ExactPolicy → Bool
  | .presence => self.supportsPresencePolicy
  | .userVerified => self.supportsVerifiedPolicy

/-- Whether the authenticator can do a managed operation. -/
def supportsManaged (self : Capabilities) (capability : ManagedCapability) : Bool :=
  let management := self.fido2 && self.es256 && self.clientPinSupported
    && self.clientPinConfigured && self.credentialManagement
  match capability with
  | .enrollment policy =>
    management && self.hmacSecret && self.credentialProtection && self.discoverableCredentials
      && self.supportsPolicy policy
  | .management => management

/-- A device on which a managed credential can be made can also manage it. -/
theorem management_of_enrollment {self : Capabilities} {policy : ExactPolicy}
    (h : self.supportsManaged (.enrollment policy) = true) :
    self.supportsManaged .management = true := by
  simp only [supportsManaged, Bool.and_eq_true] at h ⊢
  exact h.1.1.1.1

end Capabilities

/-! ## Configuration -/

/-- `Duration::as_millis`. -/
def asMillis (duration : Nat) : Nat := duration / 1000000

/-- `i32::MAX + 1`. -/
def i32Limit : Nat := 2 ^ 31

/-- `i32::try_from`. -/
def toI32? (value : Nat) : Option Int32 := if value < i32Limit then some (Int32.ofNat value) else none

/-- The most devices a manifest may hold. -/
def hardMaxDevices : Nat := 32

/-- **`Config`** — finite bounds for native operations and device selection. -/
structure Config where
  operationTimeout : Nat
  selectionTimeout : Nat
  touchPollInterval : Nat
  maxDevices : Nat
  operation : 1 ≤ asMillis operationTimeout ∧ asMillis operationTimeout < i32Limit
  selection : 1 ≤ asMillis selectionTimeout ∧ asMillis selectionTimeout < i32Limit
  poll : touchPollInterval = 100 * 1000000
  devices : 1 ≤ maxDevices ∧ maxDevices ≤ hardMaxDevices

/-- `Config::new`, with the bounds of `validate_milliseconds`. -/
def Config.new (operationTimeout selectionTimeout maxDevices : Nat) : Result Config :=
  if operation : 1 ≤ asMillis operationTimeout ∧ asMillis operationTimeout < i32Limit then
    if selection : 1 ≤ asMillis selectionTimeout ∧ asMillis selectionTimeout < i32Limit then
      if devices : 1 ≤ maxDevices ∧ maxDevices ≤ hardMaxDevices then
        .ok { operationTimeout, selectionTimeout, touchPollInterval := 100 * 1000000, maxDevices
              operation, selection, poll := rfl, devices }
      else .error (.invalidInput "device limit must be between 1 and 32")
    else .error (.invalidInput "selection timeout is out of range")
  else .error (.invalidInput "operation timeout is out of range")

/-- `Config::default`. -/
def Config.default : Config where
  operationTimeout := 30 * 1000000000
  selectionTimeout := 20 * 1000000000
  touchPollInterval := 100 * 1000000
  maxDevices := 16
  operation := by decide
  selection := by decide
  poll := rfl
  devices := by decide

/-- The bound makes the conversion to `i32` lossless. -/
def Config.operationMilliseconds (config : Config) : Int32 :=
  Int32.ofNat (asMillis config.operationTimeout)

/-! ## Devices -/

/-- **`RawDevice`** — an open device. -/
structure RawDevice where
  raw : Handle
  deriving DecidableEq

/-- **`Authenticator`** — an open authenticator, its capabilities, and the identity that binds a
cleanup token to it. -/
structure Authenticator where
  device : RawDevice
  capabilities : Capabilities
  affinity : Nat
  deriving DecidableEq

/-- A selected authenticator gets an identity of its own. -/
def Authenticator.new (device : RawDevice) (capabilities : Capabilities) : Adapter Authenticator :=
  do return { device, capabilities, affinity := ← call .newAffinity }

/-- The paths of a manifest: a slot without a path is skipped. -/
def manifestPaths (slots : Nat → NativeSlot) : List Nat → Result (List ByteString)
  | [] => return []
  | index :: rest => do
    let path ← okOr (slots index) Error.protocol
    let paths ← manifestPaths slots rest
    return path.toList ++ paths

/-- The paths of the devices that are connected. -/
def manifest (maxDevices : Nat) : Adapter (List ByteString) := do
  let list ← okOr (← call (.devInfoNew maxDevices)) Error.allocationFailed
  let (status, found, slots) ← call (.devInfoManifest list maxDevices)
  orFail status (return translateStatus status "manifest devices")
  require (¬ maxDevices < found) Error.protocol
  manifestPaths slots (List.range found)

/-- `copy_string_array`. -/
def copyStringArray (strings : NativeStrings) : Result (List String) := do
  require (¬ 128 < strings.len) Error.protocol
  if strings.len = 0 then return []
  let entries ← okOr strings.pointer Error.protocol
  (List.range strings.len).mapM fun index => do
    let entry ← okOr (entries index) Error.protocol
    okOr (fromUtf8? entry) Error.protocol

/-- The loop of `option_value`. -/
def optionNamed (names : Nat → Option ByteString) (values : Nat → Bool) (wanted : String) :
    List Nat → Result (Option Bool)
  | [] => return none
  | index :: rest => do
    let name ← okOr (names index) Error.protocol
    if name = utf8 wanted then return some (values index) else optionNamed names values wanted rest

/-- The value of an option of an info block. -/
def optionValue (info : NativeInfo) (wanted : String) : Result (Option Bool) := do
  require (¬ 128 < info.optionsLen) Error.protocol
  if info.optionsLen = 0 then return none
  let names ← okOr info.optionNames Error.protocol
  let values ← okOr info.optionValues Error.protocol
  optionNamed names values wanted (List.range info.optionsLen)

namespace RawDevice

/-- Open the device at a path, with a bound on every exchange. -/
def «open» (path : ByteString) (config : Config) : Adapter RawDevice := do
  let raw ← okOr (← call .devNew) Error.allocationFailed
  let status ← call (.devSetTimeout raw config.operationMilliseconds)
  orFail status (return translateStatus status "set authenticator timeout")
  let status ← call (.devOpen raw path)
  orFail status (return translateOpenStatus status)
  return ⟨raw⟩

/-- A wrong PIN is reported with the retries the device still allows. -/
def translate (self : RawDevice) (status : Int32) (operation : String) : Adapter Error := do
  if status = fidoErrPinInvalid then
    let (retryStatus, retries) ← call (.devGetRetryCount self.raw)
    return .pinInvalid
      (if retryStatus = fidoOk ∧ 0 ≤ retries ∧ retries < 256 then
        some (UInt8.ofNat retries.toNatClampNeg) else none)
  else return translateStatus status operation

/-- A device that does not know a management command cannot manage. -/
def translateManagement (self : RawDevice) (status : Int32) (operation : String) :
    Adapter Error := do
  if status ∈ [fidoErrInvalidCommand, fidoErrUnsupportedExtension, fidoErrUnsupportedOption,
      fidoErrInvalidOption, fidoErrUnsupportedAlgorithm] then
    return .credentialManagementUnsupported
  else self.translate status operation

theorem quiet_translate (self : RawDevice) (status : Int32) (operation : String) :
    Quiet (self.translate status operation) := by
  unfold translate
  split
  · exact quiet_bind (quiet_call id) fun _ => quiet_pure _
  · exact quiet_pure _

theorem quiet_translateManagement (self : RawDevice) (status : Int32) (operation : String) :
    Quiet (self.translateManagement status operation) := by
  unfold translateManagement
  split
  · exact quiet_pure _
  · exact self.quiet_translate status operation

/-- What a device says that it can do. -/
def capabilities (self : RawDevice) : Adapter Capabilities := do
  let block ← okOr (← call .cborInfoNew) Error.allocationFailed
  let (status, info) ← call (.devGetCborInfo self.raw block)
  orFail status (self.translate status "get authenticator info")
  let extensions ← copyStringArray info.extensions
  let versions ← copyStringArray info.versions
  let alwaysUv := (← optionValue info "alwaysUv").getD false
  let discoverableCredentials := (← optionValue info "rk").getD false
  require (¬ 64 < info.algorithmCount) Error.protocol
  let es256 := (List.range info.algorithmCount).any fun index =>
    info.algorithmCose index == coseEs256
  let isFido2 ← call (.devIsFido2 self.raw)
  let supportsCredProt ← call (.devSupportsCredProt self.raw)
  let credentialManagement ← call (.devSupportsCredman self.raw)
  let clientPinSupported ← call (.devSupportsPin self.raw)
  let clientPinConfigured ← call (.devHasPin self.raw)
  return {
    fido2 := isFido2 && versions.any fun version => (utf8 "FIDO_2").isPrefixOf (utf8 version)
    hmacSecret := extensions.contains "hmac-secret"
    credentialProtection := supportsCredProt && extensions.contains "credProtect"
    discoverableCredentials, credentialManagement, es256, clientPinSupported, clientPinConfigured
    alwaysUv }

end RawDevice

/-! ## Selection by touch -/

/-- Cancel the touch of every device; a failure does not matter. -/
def cancelAll : List (RawDevice × Capabilities) → Adapter Unit
  | [] => return ()
  | (device, _) :: rest => do
    let _ ← call (.devCancel device.raw)
    cancelAll rest

/-- What is left of the time for a selection. -/
def selectionMilliseconds (deadline : Nat) : Adapter Int32 := do
  let now ← call .now
  require (now ≤ deadline) Error.selectionTimedOut
  okOr (toI32? (max (asMillis (deadline - now)) 1)) Error.protocol

/-- Arm every device. An error of a device cancels them all. -/
def beginTouch (devices : List (RawDevice × Capabilities)) (deadline : Nat) :
    List (RawDevice × Capabilities) → Adapter Unit
  | [] => return ()
  | (device, _) :: rest => do
    let milliseconds ← selectionMilliseconds deadline
    let status ← call (.devSetTimeout device.raw milliseconds)
    orFail status do
      cancelAll devices
      return translateStatus status "set selection timeout"
    let status ← call (.devGetTouchBegin device.raw)
    orFail status do
      cancelAll devices
      return translateStatus status "begin touch selection"
    beginTouch devices deadline rest

/-- `Vec::swap_remove`: the last element takes the place of the removed one. -/
def swapRemove {α : Type} (list : List α) (index : Nat) : List α :=
  match list.getLast? with
  | some last => (list.set index last).dropLast
  | none => []

/-- One round over the devices from an index on. -/
def pollTouch (devices : List (RawDevice × Capabilities)) (config : Config) (deadline : Nat) :
    Nat → List (RawDevice × Capabilities) → Adapter (Option Authenticator)
  | _, [] => return none
  | index, (device, capabilities) :: rest => do
    let now ← call .now
    if deadline ≤ now then do
      cancelAll devices
      throw .selectionTimedOut
    else do
      let wait := min config.touchPollInterval (deadline - now)
      let reply ← call (.devGetTouchStatus device.raw (Int32.ofNat (max (asMillis wait) 1)))
      orFail reply.1 do
        cancelAll devices
        return translateStatus reply.1 "poll touch selection"
      if reply.2 = 1 then do
        cancelAll (swapRemove devices index)
        let status ← call (.devSetTimeout device.raw config.operationMilliseconds)
        orFail status (return translateStatus status "restore operation timeout")
        return some (← Authenticator.new device capabilities)
      else if reply.2 ≠ 0 then do
        cancelAll devices
        throw .protocol
      else pollTouch devices config deadline (index + 1) rest

/-- The polling loop, for a number of rounds. -/
def pollRounds (devices : List (RawDevice × Capabilities)) (config : Config) (deadline : Nat) :
    Nat → Adapter Authenticator
  | 0 => do return (← call .unfinished).elim
  | rounds + 1 => do
    match ← pollTouch devices config deadline 0 devices with
    | some authenticator => return authenticator
    | none => pollRounds devices config deadline rounds

/-- The authenticator that is touched first. -/
def selectByTouch (devices : List (RawDevice × Capabilities)) (config : Config) (rounds : Nat) :
    Adapter Authenticator := do
  let deadline := (← call .now) + config.selectionTimeout
  beginTouch devices deadline devices
  pollRounds devices config deadline rounds

/-! ## Prepared selections -/

/-- **`PreparedSelection`** — the open candidates of one selection ceremony. -/
structure PreparedSelection where
  devices : List (RawDevice × Capabilities)
  config : Config

/-- How many candidates are left. -/
def PreparedSelection.compatibleAuthenticators (self : PreparedSelection) : Nat :=
  self.devices.length

/-- One candidate is selected as it is, several by touch. -/
def PreparedSelection.select (self : PreparedSelection) (rounds : Nat) : Adapter Authenticator :=
  match self.devices with
  | [(device, capabilities)] => Authenticator.new device capabilities
  | devices => selectByTouch devices self.config rounds

/-- What opening and inspecting the candidates has found so far. -/
structure Candidates where
  devices : List (RawDevice × Capabilities) := []
  firstUnavailable : Option Error := none
  foundIncompatible : Bool := false

/-- Open one candidate and inspect it. -/
def openCandidate (path : ByteString) (config : Config) : Adapter (RawDevice × Capabilities) := do
  let device ← RawDevice.open path config
  return (device, ← device.capabilities)

/-- The loop over the paths: a device that cannot be inspected does not end it. -/
def openCandidates (config : Config) (supports : Capabilities → Bool) :
    List ByteString → Candidates → Adapter Candidates
  | [], found => return found
  | path :: rest, found => do
    match ← Fallible.outcome (openCandidate path config) with
    | .error error =>
      openCandidates config supports rest
        { found with firstUnavailable := found.firstUnavailable <|> some error }
    | .ok (device, capabilities) =>
      openCandidates config supports rest <|
        if supports capabilities then
          { found with devices := found.devices ++ [(device, capabilities)] }
        else { found with foundIncompatible := true }

/-- The first device that could not be inspected is reported, if any. -/
def noCandidateError (firstUnavailable : Option Error) : Error :=
  firstUnavailable.getD .noCompatibleAuthenticators

/-- The flag of `fido_init`. -/
def fidoDisableU2fFallback : Int32 := 0x02

/-- Load libfido2 and initialize it for this thread. -/
def initializeThread : Adapter Unit := do
  let loaded ← call .ensureLoaded
  loaded
  call (.init fidoDisableU2fFallback)

/-- **`Backend`** — the entry point of the adapter. -/
structure Backend where
  config : Config

namespace Backend

/-- The devices that satisfy a request. -/
def prepareSelectionMatching (self : Backend) (supports : Capabilities → Bool) :
    Adapter PreparedSelection := do
  initializeThread
  let candidates ← manifest self.config.maxDevices
  require (candidates ≠ []) Error.noAuthenticators
  let found ← openCandidates self.config supports candidates {}
  require (found.devices ≠ []) (noCandidateError found.firstUnavailable)
  return { devices := found.devices, config := self.config }

/-- The devices that can serve a policy. -/
def prepareSelection (self : Backend) (policy : ExactPolicy) : Adapter PreparedSelection :=
  self.prepareSelectionMatching fun capabilities => capabilities.supportsPolicy policy

/-- The devices that can do a managed operation. -/
def prepareManagedSelection (self : Backend) (capability : ManagedCapability) :
    Adapter PreparedSelection :=
  self.prepareSelectionMatching fun capabilities => capabilities.supportsManaged capability

end Backend

/-! ## Selection uses no credential -/

section Quiet

variable (devices : List (RawDevice × Capabilities)) (config : Config) (deadline : Nat)

theorem quiet_authenticator (device : RawDevice) (capabilities : Capabilities) :
    Quiet (Authenticator.new device capabilities) :=
  quiet_call_bind id fun _ => quiet_pure _

theorem quiet_manifest (maxDevices : Nat) : Quiet (manifest maxDevices) := by
  unfold manifest
  refine quiet_call_bind id fun _ => quiet_bind (quiet_except _) fun _ => ?_
  refine quiet_call_bind id fun _ => quiet_bind (quiet_orFail (quiet_pure _)) fun _ => ?_
  exact quiet_bind (quiet_except _) fun _ => quiet_except _

theorem quiet_open (path : ByteString) : Quiet (RawDevice.open path config) := by
  unfold RawDevice.open
  refine quiet_call_bind id fun _ => quiet_bind (quiet_except _) fun _ => ?_
  refine quiet_call_bind id fun _ => quiet_bind (quiet_orFail (quiet_pure _)) fun _ => ?_
  refine quiet_call_bind id fun _ => quiet_bind (quiet_orFail (quiet_pure _)) fun _ => ?_
  exact quiet_pure _

theorem quiet_capabilities (device : RawDevice) : Quiet device.capabilities := by
  unfold RawDevice.capabilities
  refine quiet_call_bind id fun _ => quiet_bind (quiet_except _) fun _ => ?_
  refine quiet_call_bind id fun _ => ?_
  refine quiet_bind (quiet_orFail (device.quiet_translate _ _)) fun _ => ?_
  refine quiet_bind (quiet_except _) fun _ => quiet_bind (quiet_except _) fun _ => ?_
  refine quiet_bind (quiet_except _) fun _ => quiet_bind (quiet_except _) fun _ => ?_
  refine quiet_bind (quiet_except _) fun _ => quiet_call_bind id fun _ => ?_
  refine quiet_call_bind id fun _ => quiet_call_bind id fun _ => ?_
  exact quiet_call_bind id fun _ => quiet_call_bind id fun _ => quiet_pure _

theorem quiet_cancelAll : Quiet (cancelAll devices) := by
  induction devices with
  | nil => exact quiet_pure _
  | cons head rest ih => exact quiet_call_bind id fun _ => ih

theorem quiet_selectionMilliseconds : Quiet (selectionMilliseconds deadline) := by
  refine quiet_call_bind id fun _ => quiet_bind (quiet_except _) fun _ => ?_
  exact quiet_except _

theorem quiet_beginTouch (rest : List (RawDevice × Capabilities)) :
    Quiet (beginTouch devices deadline rest) := by
  have hcancel : ∀ error, Quiet (do cancelAll devices; return error : Adapter Error) :=
    fun _ => quiet_bind (quiet_cancelAll devices) fun _ => quiet_pure _
  induction rest with
  | nil => exact quiet_pure _
  | cons head rest ih =>
      refine quiet_bind (quiet_selectionMilliseconds deadline) fun _ => ?_
      refine quiet_call_bind id fun _ => quiet_bind (quiet_orFail (hcancel _)) fun _ => ?_
      refine quiet_call_bind id fun _ => quiet_bind (quiet_orFail (hcancel _)) fun _ => ?_
      exact ih

theorem quiet_pollTouch (index : Nat) (rest : List (RawDevice × Capabilities)) :
    Quiet (pollTouch devices config deadline index rest) := by
  have hcancel : ∀ error, Quiet (do cancelAll devices; return error : Adapter Error) :=
    fun _ => quiet_bind (quiet_cancelAll devices) fun _ => quiet_pure _
  induction rest generalizing index with
  | nil => exact quiet_pure _
  | cons head rest ih =>
      refine quiet_call_bind id fun now => ?_
      split
      · exact quiet_bind (quiet_cancelAll devices) fun _ => quiet_throw _
      · refine quiet_call_bind id fun reply => quiet_bind (quiet_orFail (hcancel _)) fun _ => ?_
        split
        · refine quiet_bind (quiet_cancelAll _) fun _ => quiet_call_bind id fun _ => ?_
          refine quiet_bind (quiet_orFail (quiet_pure _)) fun _ => ?_
          exact quiet_bind (quiet_authenticator _ _) fun _ => quiet_pure _
        · split
          · exact quiet_bind (quiet_cancelAll devices) fun _ => quiet_throw _
          · exact ih (index + 1)

theorem quiet_pollRounds (rounds : Nat) : Quiet (pollRounds devices config deadline rounds) := by
  induction rounds with
  | zero => exact quiet_call_bind id fun _ => quiet_pure _
  | succ rounds ih =>
      refine quiet_bind (quiet_pollTouch devices config deadline 0 devices) fun touched => ?_
      cases touched with
      | some authenticator => exact quiet_pure _
      | none => exact ih

theorem quiet_selectByTouch (rounds : Nat) : Quiet (selectByTouch devices config rounds) := by
  refine quiet_call_bind id fun _ => ?_
  exact quiet_bind (quiet_beginTouch devices _ devices) fun _ => quiet_pollRounds devices config _ _

theorem quiet_select (selection : PreparedSelection) (rounds : Nat) :
    Quiet (selection.select rounds) := by
  unfold PreparedSelection.select
  split
  · exact quiet_authenticator _ _
  · exact quiet_selectByTouch _ _ rounds

theorem quiet_openCandidates (supports : Capabilities → Bool) (paths : List ByteString)
    (found : Candidates) : Quiet (openCandidates config supports paths found) := by
  induction paths generalizing found with
  | nil => exact quiet_pure _
  | cons path rest ih =>
      have hopen : Quiet (openCandidate path config) :=
        quiet_bind (quiet_open config path) fun device =>
          quiet_bind (quiet_capabilities device) fun _ => quiet_pure _
      refine quiet_bind (quiet_outcome hopen) fun opened => ?_
      split
      · exact ih _
      · exact ih _

theorem quiet_initializeThread : Quiet initializeThread :=
  quiet_call_bind id fun _ => quiet_bind (quiet_except _) fun _ => quiet_call id

theorem quiet_prepareSelectionMatching (backend : Backend) (supports : Capabilities → Bool) :
    Quiet (backend.prepareSelectionMatching supports) := by
  unfold Backend.prepareSelectionMatching
  refine quiet_bind quiet_initializeThread fun _ => quiet_bind (quiet_manifest _) fun _ => ?_
  refine quiet_bind (quiet_except _) fun _ => ?_
  refine quiet_bind (quiet_openCandidates _ supports _ _) fun _ => ?_
  exact quiet_bind (quiet_except _) fun _ => quiet_pure _

end Quiet

end FidoKeyWrap.Native
