/-
# FidoKeyWrap.Policy — errors, identities, factor policies and passphrase work.

The values every other module passes around, each with the check that admits it. A type whose
constructor is private to the program carries its check as a field: an `ApplicationId` is a string
`ApplicationId.new` accepted, `PassphraseParameters` are inside format 1, `PassphraseLimits` are
inside the local bounds. Labels and enrollments are open records that the code re-checks where it
uses them, so here they carry nothing.

Machine integers are `UInt8`, `UInt32` and `UInt64`; the target has 64-bit pointers.
-/
import FidoKeyWrap.Lib.Bytes
import FidoKeyWrap.Lib.Program

namespace FidoKeyWrap

open ByteData

/-! ## Errors -/

/-- Failure of an application-supplied interaction. -/
inductive InteractionError where
  | cancelled
  | unsupported
  | failed
  deriving DecidableEq

/-- Identity-free failure of a security-key operation. -/
inductive AuthenticatorFailure where
  | pinInvalid (retries : Option UInt8)
  | pinBlocked
  | pinTemporarilyBlocked
  | timedOut
  | busy
  | credentialUnavailable
  | credentialStoreFull
  | credentialMayRemain
  | retirementUncertain
  | transport
  | operationFailed
  deriving DecidableEq

/-- Public failures of root-key protection. -/
inductive Error where
  | invalidApplicationId
  | invalidRecipientId
  | invalidLabel
  | invalidPassphrase
  | invalidPin
  | invalidPassphraseParameters
  | invalidPassphraseLimits
  | invalidFidoConfig
  | invalidEnvelope
  | applicationMismatch
  | recipientNotFound
  | wouldRemoveLastRecipient
  | tooManyRecipients
  | recipientDoesNotUsePassphrase
  | recipientIsNotManaged
  | passphraseConfirmationMismatch
  | passphraseLimitExceeded
  | kdfResourceUnavailable
  | fidoSupportUnavailable
  | noCompatibleAuthenticator
  | authenticator (failure : AuthenticatorFailure)
  | authenticatorResponseInvalid
  | interaction (error : InteractionError)
  | randomUnavailable
  | envelopeAuthenticationFailed
  | unlockFailed
  deriving DecidableEq

/-- The result of a fallible function of the library. -/
abbrev Result := Except Error

/-- `usize::MAX + 1` on a 64-bit target. -/
def usizeLimit : Nat := 2 ^ 64

/-- `u32::MAX + 1`. -/
def u32Limit : Nat := 2 ^ 32

/-! ## Identities -/

/-- `u8::is_ascii_digit`. -/
def isAsciiDigit (byte : UInt8) : Bool := 0x30 ≤ byte && byte ≤ 0x39

/-- `u8::is_ascii_lowercase`. -/
def isAsciiLowercase (byte : UInt8) : Bool := 0x61 ≤ byte && byte ≤ 0x7a

/-- `u8::is_ascii_uppercase`. -/
def isAsciiUppercase (byte : UInt8) : Bool := 0x41 ≤ byte && byte ≤ 0x5a

/-- `u8::is_ascii_alphanumeric`. -/
def isAsciiAlphanumeric (byte : UInt8) : Bool :=
  isAsciiDigit byte || isAsciiLowercase byte || isAsciiUppercase byte

namespace ApplicationId

/-- The fewest bytes of an identity. -/
def minApplicationIdBytes : Nat := 3

/-- The most bytes of an identity. -/
def maxApplicationIdBytes : Nat := 253

/-- The body of the loop over the labels. -/
def acceptsLabel (bytes : ByteString) : Bool :=
  !bytes.isEmpty
    && bytes.length ≤ 63
    && bytes.head?.any isAsciiAlphanumeric
    && bytes.getLast?.any isAsciiAlphanumeric
    && bytes.all fun byte => isAsciiLowercase byte || isAsciiDigit byte || byte == 0x2d

/-- The checks of `ApplicationId::new`. The value is ASCII when it is split, so splitting the
characters at `.` is splitting the bytes at `0x2e`. -/
def accepts (value : String) : Bool :=
  let bytes := utf8 value
  let labels := bytes.splitOn 0x2e
  minApplicationIdBytes ≤ bytes.length
    && bytes.length ≤ maxApplicationIdBytes
    && bytes.all (· < 0x80)
    && labels.all acceptsLabel
    && 2 ≤ labels.length

end ApplicationId

/-- **`ApplicationId`** — a lowercase DNS-shaped application identity. -/
structure ApplicationId where
  asStr : String
  accepted : ApplicationId.accepts asStr = true
  deriving DecidableEq

namespace ApplicationId

/-- An identity that passes the checks. -/
def new (value : String) : Result ApplicationId :=
  if h : accepts value = true then .ok ⟨value, h⟩ else .error .invalidApplicationId

/-- `as_str().as_bytes()`. -/
def asBytes (application : ApplicationId) : ByteString := utf8 application.asStr

/-- An identity is accepted again, unchanged. -/
@[simp] theorem new_asStr (application : ApplicationId) :
    new application.asStr = .ok application := by
  simp [new, application.accepted]

theorem new_eq_ok {value : String} {application : ApplicationId} :
    new value = .ok application ↔ value = application.asStr := by
  constructor
  · intro h
    unfold new at h
    split at h
    · cases h
      rfl
    · cases h
  · rintro rfl
    exact new_asStr application

theorem asStr_inj {a b : ApplicationId} : a.asStr = b.asStr ↔ a = b := by
  constructor
  · intro h
    cases a
    cases b
    cases h
    rfl
  · rintro rfl
    rfl

theorem asBytes_inj {a b : ApplicationId} : a.asBytes = b.asBytes ↔ a = b := by
  rw [asBytes, asBytes, utf8_inj, asStr_inj]

/-- The length bound a transcript or an encoding relies on. -/
theorem length_asBytes_le (application : ApplicationId) : application.asBytes.length ≤ 253 := by
  have h := application.accepted
  simp only [accepts, Bool.and_eq_true, decide_eq_true_eq] at h
  exact h.1.1.1.2

end ApplicationId

/-- Public identity of one root-recovery route. -/
@[ext] structure RecipientId where
  asBytes : Bytes 32
  deriving DecidableEq

instance : LinearOrder RecipientId :=
  LinearOrder.lift' RecipientId.asBytes fun _ _ h => RecipientId.ext h

/-! ## Factor policies -/

/-- The exact security-key ceremony a recipient requires. -/
inductive FidoPolicy where
  | presence
  | userVerification
  deriving DecidableEq

namespace FidoPolicy

/-- The code of a policy in the envelope. -/
def code : FidoPolicy → UInt8
  | presence => 1
  | userVerification => 2

/-- The policy of a code. -/
def fromCode (code : UInt8) : Result FidoPolicy :=
  if code = 1 then .ok presence
  else if code = 2 then .ok userVerification
  else .error .invalidEnvelope

@[simp] theorem fromCode_code (policy : FidoPolicy) : fromCode policy.code = .ok policy := by
  cases policy <;> rfl

theorem code_inj {a b : FidoPolicy} : a.code = b.code ↔ a = b := by
  cases a <;> cases b <;> decide

end FidoPolicy

/-- The factors one route requires. -/
inductive RecipientPolicy where
  | passphrase
  | recoverySecret
  | fido (policy : FidoPolicy)
  | managedFido (policy : FidoPolicy)
  | fidoAndPassphrase (policy : FidoPolicy)
  | fidoPresenceAndLocalSecret
  deriving DecidableEq

/-- Whether a passphrase is a factor of the route. -/
def RecipientPolicy.usesPassphrase : RecipientPolicy → Bool
  | passphrase | fidoAndPassphrase _ => true
  | _ => false

/-- Who keeps the credential id: the envelope alone, or the authenticator too. -/
inductive FidoStorage where
  | nonDiscoverable
  | managed
  deriving DecidableEq

/-! ## Passphrase work -/

/-- The least memory of an Argon2 run. -/
def minMemoryKib : UInt32 := 65536
/-- The most memory of an Argon2 run. -/
def maxMemoryKib : UInt32 := 262144
/-- The fewest passes. -/
def minPasses : UInt32 := 3
/-- The most passes. -/
def maxPasses : UInt32 := 6
/-- The fewest lanes. -/
def minLanes : UInt8 := 1
/-- The most lanes. -/
def maxLanes : UInt8 := 4

/-- The work of the cheapest parameters: `minMemoryKib` for `minPasses`. -/
def minWorkKibPasses : UInt64 := 196608
/-- The work of the desktop parameters. -/
def desktopWorkKibPasses : UInt64 := 786432
/-- The work of the dearest parameters: `maxMemoryKib` for `maxPasses`. -/
def maxWorkKibPasses : UInt64 := 1572864

/-- `validate_parameters`: the ranges, the lane divisibility, then the overflow checks in the
order the source makes them. -/
def validateParameters (memoryKib passes : UInt32) (lanes : UInt8) : Bool :=
  (minLanes ≤ lanes && lanes ≤ maxLanes)
    && (minPasses ≤ passes && passes ≤ maxPasses)
    && (minMemoryKib ≤ memoryKib && memoryKib ≤ maxMemoryKib)
    && (8 * lanes.toNat ≤ memoryKib.toNat && memoryKib.toNat % (4 * lanes.toNat) == 0)
    && memoryKib.toNat * passes.toNat < 2 ^ 64
    && memoryKib.toNat * 1024 < 2 ^ 64
    && memoryKib.toNat < usizeLimit
    && memoryKib.toNat * 1024 < usizeLimit

/-- **`PassphraseParameters`** — Argon2id work inside format 1. -/
structure PassphraseParameters where
  memoryKib : UInt32
  passes : UInt32
  lanes : UInt8
  valid : validateParameters memoryKib passes lanes = true
  deriving DecidableEq

namespace PassphraseParameters

/-- The parameters of a new passphrase. -/
def desktop : PassphraseParameters where
  memoryKib := maxMemoryKib
  passes := minPasses
  lanes := maxLanes
  valid := by decide

/-- Parameters that format 1 allows. -/
def new (memoryKib passes : UInt32) (lanes : UInt8) : Result PassphraseParameters :=
  if h : validateParameters memoryKib passes lanes = true then
    .ok ⟨memoryKib, passes, lanes, h⟩
  else .error .invalidPassphraseParameters

/-- Parameters of an envelope. -/
def decode (memoryKib passes : UInt32) (lanes : UInt8) : Result PassphraseParameters :=
  (new memoryKib passes lanes).mapError fun _ => .invalidEnvelope

/-- The product of two 32-bit integers, which 64 bits always hold. -/
def workKibPasses (parameters : PassphraseParameters) : Nat :=
  parameters.memoryKib.toNat * parameters.passes.toNat

/-- Parameters are accepted again, unchanged. -/
@[simp] theorem new_self (p : PassphraseParameters) : new p.memoryKib p.passes p.lanes = .ok p := by
  simp [new, p.valid]

@[simp] theorem decode_self (p : PassphraseParameters) :
    decode p.memoryKib p.passes p.lanes = .ok p := by
  simp [decode, Except.mapError]

end PassphraseParameters

/-- The bounds of `PassphraseLimits::new`. -/
def validateLimits (maxMemory : UInt32) (maxWork : UInt64) : Bool :=
  (minMemoryKib ≤ maxMemory && maxMemory ≤ maxMemoryKib)
    && (minWorkKibPasses ≤ maxWork && maxWork ≤ maxWorkKibPasses)

/-- **`PassphraseLimits`** — this process's ceilings for passphrase derivation. -/
structure PassphraseLimits where
  maxMemoryKib : UInt32
  maxWorkKibPasses : UInt64
  valid : validateLimits maxMemoryKib maxWorkKibPasses = true
  deriving DecidableEq

namespace PassphraseLimits

/-- The limits that admit the desktop parameters and no more work. -/
def desktop : PassphraseLimits where
  maxMemoryKib := FidoKeyWrap.maxMemoryKib
  maxWorkKibPasses := desktopWorkKibPasses
  valid := by decide

/-- The limits that admit all parameters of format 1. -/
def protocolMax : PassphraseLimits where
  maxMemoryKib := FidoKeyWrap.maxMemoryKib
  maxWorkKibPasses := FidoKeyWrap.maxWorkKibPasses
  valid := by decide

/-- Limits within what format 1 allows. -/
def new (maxMemory : UInt32) (maxWork : UInt64) : Result PassphraseLimits :=
  if h : validateLimits maxMemory maxWork = true then .ok ⟨maxMemory, maxWork, h⟩
  else .error .invalidPassphraseLimits

/-- Whether the process is willing to run the parameters. -/
def accepts (limits : PassphraseLimits) (parameters : PassphraseParameters) : Bool :=
  parameters.memoryKib ≤ limits.maxMemoryKib
    && parameters.workKibPasses ≤ limits.maxWorkKibPasses.toNat

end PassphraseLimits

/-! ## Labels and enrollments -/

/-- The most bytes of a label. -/
def maxLabelBytes : Nat := 64

/-- `validate_label`: printable ASCII without a leading or trailing blank. -/
def validateLabel (label : String) : Bool :=
  let bytes := utf8 label
  !bytes.isEmpty
    && bytes.length ≤ maxLabelBytes
    && bytes.head? != some 0x20
    && bytes.getLast? != some 0x20
    && bytes.all fun byte => 0x20 ≤ byte && byte ≤ 0x7e

theorem length_le_of_validateLabel {label : String} (h : validateLabel label = true) :
    (utf8 label).length ≤ 64 := by
  simp only [validateLabel, Bool.and_eq_true, decide_eq_true_eq] at h
  exact h.1.1.1.2

/-- Request to add one root-recovery route. -/
structure Enrollment where
  label : String
  policy : RecipientPolicy
  parameters : Option PassphraseParameters
  deriving DecidableEq

namespace Enrollment

/-- An enrollment with a valid label. -/
def build (label : String) (policy : RecipientPolicy)
    (parameters : Option PassphraseParameters) : Result Enrollment := do
  Interact.require (validateLabel label = true) .invalidLabel
  return { label, policy, parameters }

/-- An enrollment of a passphrase at a cost. -/
def passphraseWithParameters (label : String) (parameters : PassphraseParameters) :
    Result Enrollment :=
  build label .passphrase (some parameters)

/-- An enrollment of a passphrase at the desktop cost. -/
def passphrase (label : String) : Result Enrollment := passphraseWithParameters label .desktop

/-- An enrollment of a credential that stays with the application. -/
def fido (label : String) (policy : FidoPolicy) : Result Enrollment :=
  build label (.fido policy) none

/-- An enrollment of a credential that the authenticator keeps. -/
def managedFido (label : String) (policy : FidoPolicy) : Result Enrollment :=
  build label (.managedFido policy) none

/-- An enrollment of an authenticator and a passphrase at a cost. -/
def fidoAndPassphraseWithParameters (label : String) (policy : FidoPolicy)
    (parameters : PassphraseParameters) : Result Enrollment :=
  build label (.fidoAndPassphrase policy) (some parameters)

/-- An enrollment of an authenticator and a passphrase at the desktop cost. -/
def fidoAndPassphrase (label : String) (policy : FidoPolicy) : Result Enrollment :=
  fidoAndPassphraseWithParameters label policy .desktop

end Enrollment

end FidoKeyWrap
