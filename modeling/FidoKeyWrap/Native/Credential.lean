/-
# FidoKeyWrap.Native.Credential — making a credential.

`enroll` makes one credential on the device and accepts it only when it can be read, has the asked
protection and carries a valid attestation with the right flags. A managed credential is on the
device from the moment it was made, so every failure after that either carries the token that can
clean it up or says that the credential may remain. What happens after the device replied is a
function of the reply alone (`acceptCredential`).
-/
import FidoKeyWrap.Native.Managed

namespace FidoKeyWrap.Native

open ByteData Interact

/-- Where an enrolled credential is kept. -/
inductive CredentialStorage where
  | nonDiscoverable
  | managedDiscoverable (userId : ByteString)
  deriving DecidableEq

/-- Whether the authenticator keeps the credential. -/
def CredentialStorage.managed : CredentialStorage → Bool
  | nonDiscoverable => false
  | managedDiscoverable _ => true

/-- A managed credential has a user id. -/
def CredentialStorage.validate : CredentialStorage → Result Unit
  | nonDiscoverable => .ok ()
  | managedDiscoverable userId => validateUserId userId

/-- What a new credential is made for. -/
structure EnrollmentRequest where
  relyingPartyId : String
  relyingPartyName : String
  policy : ExactPolicy
  storage : CredentialStorage
  deriving DecidableEq

/-- The public material of an enrollment. -/
structure EnrolledCredential where
  credentialId : ByteString
  es256PublicKey : Bytes 64
  protection : CredentialProtection
  deriving DecidableEq

/-- **`Enrollment`** — a new credential, and its cleanup token when it is managed. -/
structure Enrollment where
  credential : EnrolledCredential
  managedCleanup : Option PendingManagedCredential
  deriving DecidableEq

/-- **`EnrollmentFailure`** — an error, and the managed credential that awaits cleanup. -/
structure EnrollmentFailure where
  error : Error
  pendingManaged : Option PendingManagedCredential
  deriving DecidableEq

/-- `From<Error>`: nothing awaits cleanup. -/
def EnrollmentFailure.from (error : Error) : EnrollmentFailure := ⟨error, none⟩

/-! ## Reading a new credential -/

/-- `attestation_certificate_present`. -/
def attestationCertificatePresent (x5c : NativeBytes) : Result Bool :=
  match x5c.pointer.isNone, x5c.len with
  | true, 0 => .ok false
  | false, _ + 1 => .ok true
  | _, _ => .error .verificationFailed

namespace NativeCredential

/-- The id of the new credential. -/
def copyId (self : NativeCredential) : Result ByteString := do
  require (¬ (self.id.len = 0 ∨ maxCredentialIdBytes < self.id.len)) Error.protocol
  let memory ← okOr self.id.pointer Error.protocol
  return fromRawParts memory self.id.len

/-- The key of the new credential. -/
def copyPublicKey (self : NativeCredential) : Result (Bytes 64) := do
  require (self.pubkey.len = 64) Error.protocol
  let memory ← okOr self.pubkey.pointer Error.protocol
  return ⟨fromRawParts memory 64, length_fromRawParts memory 64⟩

/-- The material of the new credential. -/
def copyEnrollment (self : NativeCredential) : Result EnrolledCredential := do
  let protection ← okOr (CredentialProtection.fromNative self.prot) Error.verificationFailed
  let credentialId ← self.copyId
  let es256PublicKey ← self.copyPublicKey
  return { credentialId, es256PublicKey, protection }

/-- The cleanup token of the new credential. -/
def copyPendingManaged (self : NativeCredential) (relyingPartyId : String) (userId : ByteString)
    (affinity : Nat) : Result PendingManagedCredential := do
  let credentialId ← self.copyId
  let es256PublicKey ← self.copyPublicKey
  return { relyingPartyId, userId, credentialId, es256PublicKey, affinity }

/-- `Credential::verify`: the attestation first, then the flags. -/
def verifyAttestation (self : NativeCredential) (policy : ExactPolicy) : Result Unit := do
  require (self.fmt = some (utf8 "packed")) Error.verificationFailed
  require (self.type = coseEs256 ∧ self.prot = policy.nativeProtection) Error.verificationFailed
  let hasAttestationCertificate ← attestationCertificatePresent self.x5c
  let status := if hasAttestationCertificate then self.verify else self.verifySelf
  require (status = fidoOk) Error.verificationFailed
  require (flagsMatch self.flags .userVerified = true) Error.verificationFailed

end NativeCredential

/-! ## Enrollment -/

/-- `Credential::call`. -/
def setCredential (credential : Handle) (operation : String) (setting : CredentialSetting) :
    Adapter Unit := do
  let status ← call (.credSet credential setting)
  orFail status (return translateStatus status operation)

/-- `Credential::for_enrollment`. -/
def EnrollmentRequest.credential (request : EnrollmentRequest) (userId : ByteString)
    (clientDataHash : Bytes 32) (managed : Bool) : Adapter Handle := do
  let rpId ← cString request.relyingPartyId "relying-party ID contains a NUL byte"
  let rpName ← cString request.relyingPartyName "relying-party name contains a NUL byte"
  let userName ← cString "fido-key-wrap" "fixed user name is invalid"
  let credential ← okOr (← call .credNew) Error.allocationFailed
  setCredential credential "set client-data hash" (.setClientdataHash clientDataHash)
  setCredential credential "set relying party" (.setRp rpId rpName)
  setCredential credential "set user" (.setUser userId userName userName)
  setCredential credential "set ES256" (.setType coseEs256)
  setCredential credential "set extensions"
    (.setExtensions (fidoExtHmacSecret ||| fidoExtCredProtect))
  setCredential credential "set credential protection" (.setProt request.policy.nativeProtection)
  setCredential credential "set credential storage"
    (.setRk (if managed then fidoOptTrue else fidoOptFalse))
  setCredential credential "require user verification" (.setUv fidoOptTrue)
  return credential

namespace Authenticator

/-- The checks before the device is asked; whether the credential is managed. -/
def validateEnrollment (self : Authenticator) (request : EnrollmentRequest) : Result Bool := do
  validateRpId request.relyingPartyId
  validateName request.relyingPartyName
  request.storage.validate
  require (¬ (request.storage.managed = true ∧
    self.capabilities.supportsManaged (.enrollment request.policy) = false))
    Error.credentialManagementUnsupported
  require (self.capabilities.supportsPolicy request.policy = true) Error.unsupported
  return request.storage.managed

/-- The user id: drawn for a credential the authenticator does not keep. -/
def enrollmentUserId : CredentialStorage → Adapter ByteString
  | .nonDiscoverable => do return (← randomArray).toList
  | .managedDiscoverable userId => return userId

/-- The first half of `enroll`: the device makes the credential. -/
def makeCredential (self : Authenticator) (request : EnrollmentRequest) (pin : Pin) :
    Adapter NativeCredential := do
  let managed ← self.validateEnrollment request
  let clientDataHash ← randomArray
  let userId ← enrollmentUserId request.storage
  let credential ← request.credential userId clientDataHash managed
  let reply ← call (.devMakeCred self.device.raw credential pin)
  orFail reply.1 do
    if managed = true ∧ managedEnrollmentStatusIsUncertain reply.1 = true then
      return .credentialMayRemain
    else self.device.translate reply.1 "make credential"
  return reply.2

/-- The token of a managed credential: a credential that cannot be read may remain. -/
def pendingManaged (self : Authenticator) (request : EnrollmentRequest)
    (credential : NativeCredential) : Except EnrollmentFailure (Option PendingManagedCredential) :=
  match request.storage with
  | .nonDiscoverable => .ok none
  | .managedDiscoverable userId =>
    match credential.copyPendingManaged request.relyingPartyId userId self.affinity with
    | .ok pending => .ok (some pending)
    | .error _ => .error (.from .credentialMayRemain)

/-- The second half of `enroll`: the credential is read and verified. -/
def acceptCredential (self : Authenticator) (request : EnrollmentRequest)
    (credential : NativeCredential) : Except EnrollmentFailure Enrollment := do
  let pending ← self.pendingManaged request credential
  let enrolled ← credential.copyEnrollment.mapError fun error => ⟨error, pending⟩
  (credential.verifyAttestation request.policy).mapError fun error => ⟨error, pending⟩
  return { credential := enrolled, managedCleanup := pending }

/-- **`enroll`** — make a credential, then accept it. -/
def enroll (self : Authenticator) (request : EnrollmentRequest) (pin : Pin) :
    Fallible libfido2 EnrollmentFailure Enrollment := do
  let credential ← Fallible.mapError EnrollmentFailure.from (self.makeCredential request pin)
  self.acceptCredential request credential

end Authenticator

/-! ## One creation -/

/-- The event makes a credential. -/
def MakesCredential (event : Event libfido2) : Prop :=
  ∃ device credential pin reply, event = ⟨.devMakeCred device credential pin, reply⟩

theorem not_makesCredential_of_quiet {event : Event libfido2} (h : ¬ event.query.Significant) :
    ¬ MakesCredential event := by
  rintro ⟨device, credential, pin, reply, rfl⟩
  exact h trivial

/-- **`Names pending credential`** — the token names exactly the credential the device returned. -/
structure Names (pending : PendingManagedCredential) (credential : NativeCredential) : Prop where
  id : credential.copyId = .ok pending.credentialId
  key : credential.copyPublicKey = .ok pending.es256PublicKey

section Enroll

variable {self : Authenticator} {request : EnrollmentRequest} {pin : Pin} {t : Trace libfido2}

theorem quiet_setCredential (credential : Handle) (operation : String)
    (setting : CredentialSetting) : Quiet (setCredential credential operation setting) :=
  quiet_bind (quiet_call id) fun _ => quiet_orFail (quiet_pure _)

theorem EnrollmentRequest.quiet_credential (request : EnrollmentRequest) (userId : ByteString)
    (clientDataHash : Bytes 32) (managed : Bool) :
    Quiet (request.credential userId clientDataHash managed) := by
  have hnew : Quiet (call .credNew) := quiet_call id
  unfold credential
  refine quiet_bind (quiet_except _) fun _ => quiet_bind (quiet_except _) fun _ => ?_
  refine quiet_bind (quiet_except _) fun _ => quiet_bind hnew fun _ => ?_
  refine quiet_bind (quiet_except _) fun c => ?_
  refine quiet_bind (quiet_setCredential c _ _) fun _ => ?_
  refine quiet_bind (quiet_setCredential c _ _) fun _ => ?_
  refine quiet_bind (quiet_setCredential c _ _) fun _ => ?_
  refine quiet_bind (quiet_setCredential c _ _) fun _ => ?_
  refine quiet_bind (quiet_setCredential c _ _) fun _ => ?_
  refine quiet_bind (quiet_setCredential c _ _) fun _ => ?_
  refine quiet_bind (quiet_setCredential c _ _) fun _ => ?_
  exact quiet_bind (quiet_setCredential c _ _) fun _ => quiet_pure _

theorem quiet_enrollmentUserId (storage : CredentialStorage) :
    Quiet (Authenticator.enrollmentUserId storage) := by
  cases storage with
  | nonDiscoverable => exact quiet_bind quiet_randomArray fun _ => quiet_pure _
  | managedDiscoverable userId => exact quiet_pure userId

theorem validateEnrollment_eq_ok {managed : Bool}
    (h : self.validateEnrollment request = .ok managed) : managed = request.storage.managed := by
  unfold Authenticator.validateEnrollment at h
  obtain ⟨-, -, h⟩ := except_bind_eq_ok.mp h
  obtain ⟨-, -, h⟩ := except_bind_eq_ok.mp h
  obtain ⟨-, -, h⟩ := except_bind_eq_ok.mp h
  obtain ⟨-, -, h⟩ := except_bind_eq_ok.mp h
  obtain ⟨-, -, h⟩ := except_bind_eq_ok.mp h
  exact except_pure_eq_ok.mp h

/-- **`Created self request pin event`** — the device was asked for the credential of the request
and replied. -/
def Created (self : Authenticator) (pin : Pin) (reply : Int32 × NativeCredential)
    (event : Event libfido2) : Prop :=
  ∃ credential, event = ⟨.devMakeCred self.device.raw credential pin, reply⟩

/-- What `enroll` makes of the reply of the device. -/
def EnrollOutcome (self : Authenticator) (request : EnrollmentRequest)
    (reply : Int32 × NativeCredential) (r : Except EnrollmentFailure Enrollment) : Prop :=
  (reply.1 = fidoOk ∧ r = self.acceptCredential request reply.2) ∨
    (reply.1 ≠ fidoOk ∧ ∃ e, r = .error (.from e) ∧
      (request.storage.managed = true → managedEnrollmentStatusIsUncertain reply.1 = true →
        e = .credentialMayRemain))

theorem once_makeCredential :
    Program.Once MakesCredential
      (fun event _ r => ∃ reply, Created self pin reply event ∧
        EnrollOutcome self request reply
          (r.mapError EnrollmentFailure.from >>= self.acceptCredential request))
      (self.makeCredential request pin).run := by
  have hquiet : ∀ {α : Type} {x : Adapter α}, Quiet x →
      Program.Every (fun event => ¬ MakesCredential event) x.run :=
    fun hx => Program.Every.mono hx fun _ => not_makesCredential_of_quiet
  unfold Authenticator.makeCredential
  apply Fallible.once_except_bind
  intro managed hmanaged
  obtain rfl := validateEnrollment_eq_ok hmanaged
  apply Fallible.once_bind_tail (hquiet quiet_randomArray)
  intro clientDataHash
  apply Fallible.once_bind_tail (hquiet (quiet_enrollmentUserId request.storage))
  intro userId
  apply Fallible.once_bind_tail (hquiet (request.quiet_credential _ _ _))
  intro credential
  refine once_call_bind ?_ ?_ ?_
  · exact fun reply => ⟨_, _, _, reply, rfl⟩
  · intro reply
    refine Fallible.every_bind (hquiet (quiet_orFail ?_)) fun _ => Program.every_pure _
    split
    · exact quiet_pure _
    · exact self.device.quiet_translate _ _
  · intro reply t r hrun
    refine ⟨reply, ⟨credential, rfl⟩, ?_⟩
    rcases Fallible.runs_bind.mp hrun with ⟨t₁, _, t₂, rfl, hok, hpure⟩ | ⟨e, herror, rfl⟩
    · obtain ⟨-, rfl⟩ := Fallible.runs_pure.mp hpure
      exact .inl ⟨(runs_orFail_ok.mp hok).2, rfl⟩
    · obtain ⟨hstatus, hfailure⟩ := runs_orFail_error herror
      refine .inr ⟨hstatus, e, rfl, fun hmanaged huncertain => ?_⟩
      rw [if_pos ⟨hmanaged, huncertain⟩] at hfailure
      rcases hfailure with ⟨-, hsame⟩ | ⟨-, hsame⟩ <;> cases hsame
      rfl

/-- **One creation**: `enroll` asks the device for one credential at most, and its outcome is decided
by the reply. -/
theorem once_enroll :
    Program.Once MakesCredential
      (fun event _ r => ∃ reply, Created self pin reply event ∧
        EnrollOutcome self request reply r)
      (self.enroll request pin).run := by
  have hmapped : Program.Once MakesCredential
      (fun event _ r => ∃ reply, Created self pin reply event ∧
        EnrollOutcome self request reply (r >>= self.acceptCredential request))
      (Fallible.mapError EnrollmentFailure.from (self.makeCredential request pin)).run := by
    refine Program.once_bind_head once_makeCredential (fun _ => Program.every_pure _) ?_
    rintro event after r t s houtcome ⟨-, rfl⟩
    exact houtcome
  unfold Authenticator.enroll
  rw [ExceptT.run_bind]
  refine Program.once_bind_head hmapped ?_ ?_
  · rintro (e | c)
    · exact Program.every_pure _
    · exact Fallible.every_except _
  · rintro event after (e | c) t s houtcome htail
    · obtain ⟨-, rfl⟩ := htail
      exact houtcome
    · obtain ⟨-, rfl⟩ := htail
      exact houtcome

end Enroll

/-! ## What is accepted -/

section Accept

variable {self : Authenticator} {request : EnrollmentRequest} {credential : NativeCredential}
  {userId : ByteString} {r : Except EnrollmentFailure Enrollment}

/-- After a managed creation, a failure keeps the token of the credential or says that the
credential may remain; a success has the token. -/
theorem acceptCredential_managed (hstorage : request.storage = .managedDiscoverable userId)
    (h : self.acceptCredential request credential = r) :
    r = .error (.from .credentialMayRemain) ∨ ∃ pending, Names pending credential ∧
      pending.relyingPartyId = request.relyingPartyId ∧ pending.userId = userId ∧
      pending.affinity = self.affinity ∧
      ((∃ e, r = .error ⟨e, some pending⟩) ∨
        ∃ enrolled, r = .ok ⟨enrolled, some pending⟩ ∧
          enrolled.credentialId = pending.credentialId ∧
          enrolled.es256PublicKey = pending.es256PublicKey) := by
  subst h
  unfold Authenticator.acceptCredential Authenticator.pendingManaged
  rw [hstorage]
  dsimp only
  cases hcopy : credential.copyPendingManaged request.relyingPartyId userId self.affinity with
  | error e => exact .inl rfl
  | ok pending =>
      refine .inr ?_
      unfold NativeCredential.copyPendingManaged at hcopy
      simp only [except_bind_eq_ok, except_pure_eq_ok] at hcopy
      obtain ⟨id, hid, key, hkey, hpending⟩ := hcopy
      subst hpending
      refine ⟨⟨request.relyingPartyId, userId, id, key, self.affinity⟩, ⟨hid, hkey⟩, rfl, rfl, rfl,
        ?_⟩
      cases henrolled : credential.copyEnrollment with
      | error e => exact .inl ⟨e, rfl⟩
      | ok enrolled =>
          cases hverify : credential.verifyAttestation request.policy with
          | error e => exact .inl ⟨e, rfl⟩
          | ok u =>
              refine .inr ⟨enrolled, rfl, ?_⟩
              unfold NativeCredential.copyEnrollment at henrolled
              simp only [except_bind_eq_ok, except_pure_eq_ok, hid, hkey] at henrolled
              obtain ⟨protection, -, id', hid', key', hkey', rfl⟩ := henrolled
              cases hid'
              cases hkey'
              exact ⟨rfl, rfl⟩

end Accept

end FidoKeyWrap.Native
