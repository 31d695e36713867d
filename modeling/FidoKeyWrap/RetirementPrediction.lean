/-
# FidoKeyWrap.RetirementPrediction — when the backend in memory predicts a native retirement.

Both backends retire the same credential on devices with the same credentials. A failure scheduled in
memory stands for a native exchange that went wrong with the same public error (`Corresponds`), and
the question is whether some such exchange makes the native retirement return what the backend in
memory returns and leave what it leaves. It does not always. The backend in memory returns the error
of a deletion that did not find the credential, where the adapter sees that the credential is there
after all and reports an invalid response. It takes a credential with another user or another policy,
or a second one of the same user, for a missing one or for none, where the adapter sees a mismatch.
`Predicted` is the exact condition.
-/
import FidoKeyWrap.FakeRetirement
import FidoKeyWrap.HardwareRetirement

namespace FidoKeyWrap

open ByteData Interact
open Hardware (Setting Gets expectation presenceOf translated translatedManagement)
open Native (fidoOk fidoErrNoCredentials NativeCredential NativeCredentialList)

/-! ## Corresponding failures -/

/-- **`Corresponds binding failNext fault`** — the native exchange at the stage of the scheduled
failure goes wrong with its public error. No enumeration fails with the error that a retirement is
uncertain: it corresponds to a failed absence check by what the retirement reports of it. -/
inductive Corresponds (binding : CredentialBinding) :
    Option (FailurePoint × FailureKind) → Fault → Prop
  | none : Corresponds binding none .none
  | assertion {failure : FailureKind} {status : Int32} {retries : Int32 × Int32} :
      status ≠ fidoOk →
      mapNativeError (translated retries status "verify managed credential") = failure.intoError →
      Corresponds binding (some (.assertion, failure)) (.assertion status retries)
  | deletion {failure : FailureKind} {status : Int32} {retries : Int32 × Int32} :
      status ≠ fidoOk →
      mapNativeError (translatedManagement retries status "delete managed credential") =
        failure.intoError →
      Corresponds binding (some (.retirement, failure)) (.deletion status retries)
  | enumeration {failure : FailureKind} {reply : Int32 × NativeCredentialList}
      {retries : Int32 × Int32} {e : Native.Error} :
      presenceOf retries reply (expectation binding) = .error e →
      (Native.retirementOutcome (.ok ()) (.error e)).mapError mapNativeError =
        .error failure.intoError →
      Corresponds binding (some (.absenceCheck, failure)) (.enumeration reply retries)

/-- **`Admitted failNext`** — nothing is scheduled, or a failure that may be scheduled at a stage of a
retirement. -/
inductive Admitted : Option (FailurePoint × FailureKind) → Prop
  | none : Admitted none
  | some {step : FakeStep} {failure : FakeFailure} :
      step = .assertion ∨ step = .retirement ∨ step = .absenceCheck →
      validFailure step failure = true → Admitted (some (failurePoint step, failureKind failure))

theorem intoError_inj {failure failure' : FailureKind} :
    failure.intoError = failure'.intoError ↔ failure = failure' := by
  cases failure <;> cases failure' <;> simp [FailureKind.intoError]

/-- A retry count survives the reply that it is read from. -/
theorem count_toInt32 (n : UInt8) : 0 ≤ n.toUInt32.toInt32 ∧ n.toUInt32.toInt32 < 256 ∧
    UInt8.ofNat n.toUInt32.toInt32.toNatClampNeg = n := by
  have hall : ∀ i : Fin 256, 0 ≤ (UInt8.ofFin i).toUInt32.toInt32 ∧
      (UInt8.ofFin i).toUInt32.toInt32 < 256 ∧
      UInt8.ofNat (UInt8.ofFin i).toUInt32.toInt32.toNatClampNeg = UInt8.ofFin i := by
    decide +kernel
  exact hall n.toFin

/-- The reply that a retry count is read from. -/
theorem exists_retries (retries : Option UInt8) : ∃ reply : Int32 × Int32, ∀ operation,
    translated reply Native.fidoErrPinInvalid operation = .pinInvalid retries := by
  cases retries with
  | none => exact ⟨(Native.fidoErrTx, 0), fun _ => rfl⟩
  | some n =>
      refine ⟨(fidoOk, n.toUInt32.toInt32), fun operation => ?_⟩
      obtain ⟨hnonneg, hlt, hcount⟩ := count_toInt32 n
      rw [translated, if_pos rfl, if_pos ⟨rfl, hnonneg, hlt⟩, hcount]

/-- **Every failure of an assertion or of a deletion has a status.** -/
theorem exists_status {step : FakeStep} {failure : FakeFailure}
    (hstep : step = .assertion ∨ step = .retirement) (h : validFailure step failure = true) :
    ∃ status retries, status ≠ fidoOk ∧ ∀ operation,
      mapNativeError (translated retries status operation) = (failureKind failure).intoError ∧
      mapNativeError (translatedManagement retries status operation) =
        (failureKind failure).intoError := by
  have hfixed (status : Int32) (hne : status ≠ fidoOk) (hmap : ∀ operation,
      mapNativeError (translated (fidoOk, 8) status operation) = (failureKind failure).intoError ∧
      mapNativeError (translatedManagement (fidoOk, 8) status operation) =
        (failureKind failure).intoError) : ∃ status retries, status ≠ fidoOk ∧ ∀ operation,
      mapNativeError (translated retries status operation) = (failureKind failure).intoError ∧
      mapNativeError (translatedManagement retries status operation) =
        (failureKind failure).intoError := ⟨status, (fidoOk, 8), hne, hmap⟩
  cases failure with
  | pinInvalid retries =>
      obtain ⟨reply, hreply⟩ := exists_retries retries
      refine ⟨Native.fidoErrPinInvalid, reply, by decide, fun operation => ?_⟩
      have hmanagement : translatedManagement reply Native.fidoErrPinInvalid operation =
          translated reply Native.fidoErrPinInvalid operation := rfl
      rw [hmanagement, hreply]
      exact ⟨rfl, rfl⟩
  | pinBlocked => exact hfixed Native.fidoErrPinBlocked (by decide) fun _ => ⟨rfl, rfl⟩
  | pinTemporarilyBlocked =>
      exact hfixed Native.fidoErrPinAuthBlocked (by decide) fun _ => ⟨rfl, rfl⟩
  | timedOut => exact hfixed Native.fidoErrTimeout (by decide) fun _ => ⟨rfl, rfl⟩
  | busy => exact hfixed Native.fidoErrChannelBusy (by decide) fun _ => ⟨rfl, rfl⟩
  | credentialUnavailable => exact hfixed fidoErrNoCredentials (by decide) fun _ => ⟨rfl, rfl⟩
  | transport => exact hfixed Native.fidoErrTx (by decide) fun _ => ⟨rfl, rfl⟩
  | operationFailed => exact hfixed Native.fidoErrOperationDenied (by decide) fun _ => ⟨rfl, rfl⟩
  | invalidResponse => exact hfixed Native.fidoErrRxInvalidCbor (by decide) fun _ => ⟨rfl, rfl⟩
  | noCompatibleAuthenticator | credentialMayRemain | retirementUncertain =>
      rcases hstep with rfl | rfl <;> cases h

/-- A list with the credential of the binding under another user. -/
def misplaced (binding : CredentialBinding) : NativeCredentialList where
  count := 1
  rk _ := some {
    fmt := some (utf8 "packed")
    type := Native.coseEs256
    prot := (nativeProtection binding.policy).native
    flags := 0x45
    id := Native.inMemory binding.credentialId
    userId := Native.inMemory [0]
    pubkey := Native.inMemory binding.publicKey.asBytes.toList
    x5c := ⟨none, 0⟩
    verify := Native.fidoErrInvalidSig
    verifySelf := fidoOk }

theorem find_misplaced {binding : CredentialBinding} (hid : BoundedId binding.credentialId) :
    (misplaced binding).find (expectation binding) = .error .credentialMismatch := by
  have hcopy : Native.copyNativeBytes (Native.inMemory binding.credentialId)
      Native.maxCredentialIdBytes = .ok binding.credentialId :=
    Hardware.copyNativeBytes_inMemory hid.1 hid.2
  have huser : Native.copyNativeBytes (Native.inMemory [0]) Native.maxUserIdBytes =
      .ok [0] := Hardware.copyNativeBytes_inMemory (by decide) (by decide)
  have hexpected : ([0] : ByteString) ≠ (expectation binding).userId := by
    intro hsame
    have hlength := congrArg List.length hsame
    rw [show (expectation binding).userId = binding.recipientId.asBytes.toList from rfl,
      binding.recipientId.asBytes.length_eq] at hlength
    cases hlength
  have hidentity : Native.managedIdentityMatches binding.credentialId [0] (expectation binding) =
      .error .credentialMismatch := by
    unfold Native.managedIdentityMatches
    rw [decide_eq_true (show binding.credentialId = (expectation binding).credentialId from rfl),
      decide_eq_false hexpected]
  have hexamine : ∀ credential, (misplaced binding).rk 0 = some credential →
      credential.examine (expectation binding) false = .error .credentialMismatch := by
    intro credential hrk
    cases hrk
    unfold Native.NativeCredential.examine
    rw [hcopy, huser]
    show Native.managedIdentityMatches binding.credentialId [0] (expectation binding) >>= _ = _
    rw [hidentity]
    rfl
  unfold NativeCredentialList.find
  show NativeCredentialList.findFrom (misplaced binding) (expectation binding) false [0] >>= _ = _
  unfold NativeCredentialList.findFrom
  show (NativeCredential.examine _ (expectation binding) false >>= _) >>= _ = _
  rw [hexamine _ rfl]
  rfl

/-- **Every admitted failure has an exchange that corresponds to it.** -/
theorem exists_corresponds {binding : CredentialBinding}
    {failNext : Option (FailurePoint × FailureKind)} (hid : BoundedId binding.credentialId)
    (h : Admitted failNext) : ∃ fault, Corresponds binding failNext fault := by
  cases h with
  | none => exact ⟨.none, .none⟩
  | @some step failure hstep hvalid =>
      rcases hstep with rfl | rfl | rfl
      · obtain ⟨status, retries, hne, hmap⟩ := exists_status (.inl rfl) hvalid
        exact ⟨.assertion status retries, .assertion hne (hmap _).1⟩
      · obtain ⟨status, retries, hne, hmap⟩ := exists_status (.inr rfl) hvalid
        exact ⟨.deletion status retries, .deletion hne (hmap _).2⟩
      · cases failure with
        | retirementUncertain =>
            refine ⟨.enumeration (Native.fidoErrTimeout, misplaced binding) (fidoOk, 8), ?_⟩
            exact .enumeration (e := .timedOut) rfl rfl
        | invalidResponse =>
            refine ⟨.enumeration (fidoOk, misplaced binding) (fidoOk, 8), ?_⟩
            exact .enumeration (e := .credentialMismatch) (find_misplaced hid) rfl
        | _ => cases hvalid

/-- The deletion and the enumeration come after the assertion. -/
theorem not_atAssertion {binding : CredentialBinding}
    {failNext : Option (FailurePoint × FailureKind)} {fault : Fault}
    (h : Corresponds binding failNext fault)
    (hassertion : ∀ failure, failNext ≠ some (.assertion, failure)) : ¬ fault.AtAssertion := by
  rintro ⟨status, retries, rfl⟩
  cases h with
  | assertion _ _ => exact hassertion _ rfl

/-! ## What is predicted -/

/-- **`LeftAs s s' credentials`** — the answering device has the credentials, and nothing else of the
devices changed. -/
def LeftAs (s s' : FakeBackend) (credentials : Credentials) : Prop :=
  s'.devices = s.devices.modify s.selectedDevice fun device => { device with credentials }

/-- **`Predicts`** — some exchange that corresponds to the scheduled failure makes the native
retirement, on the credentials of the answering device, return `r` and leave what `s'` has. -/
def Predicts (listing : Listing) (pin : Pin) (backend : NativeBackend) (rounds : Nat)
    (s : FakeBackend) (request : ManagedRequest) (r : Result Unit) (s' : FakeBackend) : Prop :=
  ∃ device fault left, s.devices[s.selectedDevice]? = some device ∧
    Corresponds request.credential s.failNext fault ∧
    Gets { plugged := decide (s.visibleDevices ≠ 0), listing, fault, pin } backend rounds request
      device.credentials r left ∧
    LeftAs s s' left

/-- **`Agrees credentials binding failNext`** — both backends see the same: nothing of the application
under the id; the credential under another key; one that is not managed, with no other of the user;
the credential alone with its user, unless a deletion is to fail with "not found"; or the credential
with another one of the user, when a deletion is to fail with an invalid response. -/
inductive Agrees (credentials : Credentials) (binding : CredentialBinding)
    (failNext : Option (FailurePoint × FailureKind)) : Prop
  | absent : (∀ credential, ¬ binding.Holds credentials credential) →
      Agrees credentials binding failNext
  | foreign {credential : FakeCredential} : binding.Holds credentials credential →
      binding.Fits credential → credential.publicKey ≠ binding.publicKey →
      Agrees credentials binding failNext
  | hidden {credential : FakeCredential} : binding.Holds credentials credential →
      credential.publicKey = binding.publicKey → credential.storage ≠ .managed →
      ¬ binding.Shared credentials → Agrees credentials binding failNext
  | listed : binding.Listed credentials →
      failNext ≠ some (.retirement, .authenticator .credentialUnavailable) →
      Agrees credentials binding failNext
  | shared {credential : FakeCredential} : binding.Holds credentials credential →
      binding.Fits credential → credential.publicKey = binding.publicKey →
      binding.Shared credentials → failNext = some (.retirement, .invalidResponse) →
      Agrees credentials binding failNext

/-- **`Predicted s binding`** — no device answers, or the assertion is to fail, or both backends see
the same. -/
def Predicted (s : FakeBackend) (binding : CredentialBinding) : Prop :=
  s.visibleDevices = 0 ∨ (∃ failure, s.failNext = some (.assertion, failure)) ∨
    ∃ device, s.devices[s.selectedDevice]? = some device ∧
      Agrees device.credentials binding s.failNext

section Prediction

variable {listing : Listing} {pin : Pin} {backend : NativeBackend} {rounds : Nat}
  {s s' : FakeBackend} {request : ManagedRequest} {r r₀ : Result Unit} {device : FakeDevice}
  {credentials left left₀ : Credentials} {binding : CredentialBinding}
  {failNext : Option (FailurePoint × FailureKind)} {credential : FakeCredential}

theorem leftAs_same (hdevice : s.devices[s.selectedDevice]? = some device)
    (h : s'.devices = s.devices) : LeftAs s s' device.credentials := by
  rw [LeftAs, h]
  refine List.ext_getElem? fun i => ?_
  rw [List.getElem?_modify]
  split
  · rename_i hi
    rw [← hi, hdevice]
    rfl
  · cases s.devices[i]? <;> rfl

theorem leftAs_erase {id : ByteString} (hdevice : s.devices[s.selectedDevice]? = some device)
    (h : s'.devices = (s.removeCredential s.selectedDevice id).devices) :
    LeftAs s s' (device.credentials.erase id) := by
  rw [LeftAs, h]
  refine List.ext_getElem? fun i => ?_
  show (s.devices.modify s.selectedDevice _)[i]? = _
  rw [List.getElem?_modify, List.getElem?_modify]
  split
  · rename_i hi
    rw [← hi, hdevice]
    rfl
  · rfl

/-- What is left is there to be seen. -/
theorem LeftAs.unique (hdevice : s.devices[s.selectedDevice]? = some device)
    (h : LeftAs s s' left) (h' : LeftAs s s' left₀) : left = left₀ := by
  have hfound (credentials : Credentials) (h : LeftAs s s' credentials) :
      s'.devices[s.selectedDevice]? = some { device with credentials } := by
    rw [h, List.getElem?_modify_eq, hdevice]
    rfl
  have hsame := (hfound left h).symm.trans (hfound left₀ h')
  exact congrArg FakeDevice.credentials (Option.some.inj hsame)

/-- **A native outcome that does not depend on the exchange** is the predicted one, or none is. -/
theorem predicts_iff (hdevice : s.devices[s.selectedDevice]? = some device)
    (hleft : LeftAs s s' left) (hexists : ∃ fault, Corresponds request.credential s.failNext fault)
    (hgets : ∀ fault, Corresponds request.credential s.failNext fault →
      Gets { plugged := decide (s.visibleDevices ≠ 0), listing, fault, pin } backend rounds request
        device.credentials r₀ left₀) :
    Predicts listing pin backend rounds s request r s' ↔ r = r₀ ∧ left = left₀ := by
  constructor
  · rintro ⟨device', fault, left', hdevice', hfault, hnative, hleft'⟩
    rw [hdevice] at hdevice'
    cases hdevice'
    obtain ⟨hr, hlefts⟩ := hnative.unique (hgets fault hfault)
    exact ⟨hr, (hleft.unique hdevice hleft').trans hlefts⟩
  · rintro ⟨rfl, rfl⟩
    obtain ⟨fault, hfault⟩ := hexists
    exact ⟨device, fault, left, hdevice, hfault, hgets fault hfault, hleft⟩

/-! ### One credential -/

theorem holds_unique {credential' : FakeCredential} (h : binding.Holds credentials credential)
    (h' : binding.Holds credentials credential') : credential' = credential :=
  Option.some.inj (h'.lookup.symm.trans h.lookup)

theorem listed_iff (h : binding.Holds credentials credential) : binding.Listed credentials ↔
    binding.Fits credential ∧ credential.publicKey = binding.publicKey ∧
      ¬ binding.Shared credentials := by
  constructor
  · rintro ⟨⟨found, hholds, hfits, hkey⟩, hshared⟩
    obtain rfl := holds_unique h hholds
    exact ⟨hfits, hkey, hshared⟩
  · rintro ⟨hfits, hkey, hshared⟩
    exact ⟨⟨credential, h, hfits, hkey⟩, hshared⟩

theorem unlisted_iff (h : binding.Holds credentials credential) : binding.Unlisted credentials ↔
    credential.storage ≠ .managed ∧ ¬ binding.Shared credentials := by
  constructor
  · rintro ⟨hstorage, hshared⟩
    exact ⟨hstorage credential h, hshared⟩
  · rintro ⟨hstorage, hshared⟩
    refine ⟨fun found hholds => ?_, hshared⟩
    obtain rfl := holds_unique h hholds
    exact hstorage

/-- What both sides see of a credential that the device holds. -/
theorem agrees_iff (h : binding.Holds credentials credential) :
    Agrees credentials binding failNext ↔
      binding.Fits credential ∧ credential.publicKey ≠ binding.publicKey ∨
      credential.publicKey = binding.publicKey ∧ binding.Unlisted credentials ∨
      binding.Listed credentials ∧
        failNext ≠ some (.retirement, .authenticator .credentialUnavailable) ∨
      binding.Fits credential ∧ credential.publicKey = binding.publicKey ∧
        binding.Shared credentials ∧ failNext = some (.retirement, .invalidResponse) := by
  constructor
  · intro hagrees
    cases hagrees with
    | absent hnone => exact (hnone credential h).elim
    | foreign hholds hfits hkey =>
        obtain rfl := holds_unique h hholds
        exact .inl ⟨hfits, hkey⟩
    | hidden hholds hkey hstorage hshared =>
        obtain rfl := holds_unique h hholds
        exact .inr (.inl ⟨hkey, (unlisted_iff h).mpr ⟨hstorage, hshared⟩⟩)
    | listed hlisted hfailure => exact .inr (.inr (.inl ⟨hlisted, hfailure⟩))
    | shared hholds hfits hkey hshared hfailure =>
        obtain rfl := holds_unique h hholds
        exact .inr (.inr (.inr ⟨hfits, hkey, hshared, hfailure⟩))
  · rintro (⟨hfits, hkey⟩ | ⟨hkey, hunlisted⟩ | ⟨hlisted, hfailure⟩ | ⟨hfits, hkey, hshared, hfailure⟩)
    · exact .foreign h hfits hkey
    · obtain ⟨hstorage, hshared⟩ := (unlisted_iff h).mp hunlisted
      exact .hidden h hkey hstorage hshared
    · exact .listed hlisted hfailure
    · exact .shared h hfits hkey hshared hfailure

/-- The condition, when a device answers and the assertion is not to fail. -/
theorem predicted_iff (hvisible : s.visibleDevices ≠ 0)
    (hassertion : ∀ failure, s.failNext ≠ some (.assertion, failure))
    (hdevice : s.devices[s.selectedDevice]? = some device) :
    Predicted s binding ↔ Agrees device.credentials binding s.failNext := by
  constructor
  · rintro (hnone | ⟨failure, hfailure⟩ | ⟨found, hfound, hagrees⟩)
    · exact (hvisible hnone).elim
    · exact (hassertion failure hfailure).elim
    · rw [hdevice] at hfound
      cases hfound
      exact hagrees
  · intro hagrees
    exact .inr (.inr ⟨device, hdevice, hagrees⟩)

/-- What the backend in memory makes of the credential of a request. -/
theorem managedCredential_iff (hdevice : s.devices[s.selectedDevice]? = some device) :
    (∀ credential, s.managedCredential s.selectedDevice request = .ok credential ↔
      request.credential.Holds device.credentials credential ∧
        request.credential.Fits credential ∧
        credential.publicKey = request.credential.publicKey) ∧
    ∀ stop, s.managedCredential s.selectedDevice request = .error stop →
      (∃ credential, request.credential.Holds device.credentials credential ∧
        request.credential.Fits credential ∧
        credential.publicKey ≠ request.credential.publicKey ∧
        stop = .error .authenticatorResponseInvalid) ∨
      (∀ credential, request.credential.Holds device.credentials credential →
        ¬ request.credential.Fits credential) ∧
        stop = .error (.authenticator .credentialUnavailable) := by
  constructor
  · intro credential
    rw [FakeBackend.managedCredential_eq_ok]
    constructor
    · rintro ⟨held, hheld, hlookup, ⟨happlication, hstorage, huser, hpolicy⟩, hkey⟩
      rw [hdevice] at hheld
      cases hheld
      exact ⟨⟨hlookup, happlication⟩, ⟨hstorage, huser, hpolicy⟩, hkey⟩
    · rintro ⟨hholds, hfits, hkey⟩
      exact ⟨device, hdevice, hholds.lookup,
        ⟨hholds.application, hfits.storage, hfits.user, hfits.policy⟩, hkey⟩
  · intro stop hstop
    unfold FakeBackend.managedCredential at hstop
    rw [FakeBackend.deviceAt_eq_ok.mpr hdevice] at hstop
    obtain hdevice | ⟨_, hfound, hstop⟩ := except_bind_eq_error.mp hstop
    · cases hdevice
    cases hfound
    obtain hlookup | ⟨credential, hlookup, hstop⟩ := except_bind_eq_error.mp hstop
    · obtain ⟨hnone, rfl⟩ := okOr_eq_error.mp hlookup
      refine .inr ⟨fun credential hholds => ?_, rfl⟩
      rw [hholds.lookup] at hnone
      cases hnone
    rw [okOr_eq_ok] at hlookup
    obtain hfields | ⟨_, hfields, hstop⟩ := except_bind_eq_error.mp hstop
    · obtain ⟨hnot, rfl⟩ := require_eq_error.mp hfields
      refine .inr ⟨fun found hholds hfits => hnot ?_, rfl⟩
      obtain rfl : found = credential := Option.some.inj (hholds.lookup.symm.trans hlookup)
      exact ⟨hholds.application, hfits.storage, hfits.user, hfits.policy⟩
    rw [require_eq_ok] at hfields
    obtain ⟨happlication, hstorage, huser, hpolicy⟩ := hfields
    obtain hkey | ⟨_, -, hstop⟩ := except_bind_eq_error.mp hstop
    · obtain ⟨hnot, rfl⟩ := require_eq_error.mp hkey
      exact .inl ⟨credential, ⟨hlookup, happlication⟩, ⟨hstorage, huser, hpolicy⟩, hnot, rfl⟩
    · cases hstop

theorem erase_ne (h : binding.Holds credentials credential) :
    credentials.erase binding.credentialId ≠ credentials := by
  intro hsame
  have hlookup := h.lookup
  rw [← hsame, Finmap.lookup_erase] at hlookup
  cases hlookup

/-- The table of outcomes, for a credential that stays. -/
theorem retirementOutcome_present {e : Native.Error} {failure : FailureKind}
    (h : mapNativeError e = failure.intoError) :
    (Native.retirementOutcome (.error e) (.ok .present)).mapError mapNativeError =
      .error (if failure = .authenticator .credentialUnavailable then .authenticatorResponseInvalid
        else failure.intoError) := by
  by_cases hunavailable : failure = .authenticator .credentialUnavailable
  · subst hunavailable
    obtain rfl := Hardware.mapNativeError_eq_unavailable.mp h
    rfl
  · have hne : e ≠ .credentialNotFound := by
      rintro rfl
      exact hunavailable (intoError_inj.mp (h.symm.trans rfl))
    rw [if_neg hunavailable, ← h]
    cases e <;> first | rfl | exact absurd rfl hne

/-- An absence check that fails ends with its own error, for the failures that may be scheduled. -/
theorem retirementResult_unchecked {failure : FailureKind}
    (h : Admitted (some (.absenceCheck, failure))) :
    FakeBackend.retirementResult (.ok ()) (.error failure.intoError) =
      .error failure.intoError := by
  generalize hfail : (some (FailurePoint.absenceCheck, failure)) = failNext at h
  cases h with
  | none => cases hfail
  | @some step scheduled hstep hvalid =>
      obtain ⟨hpoint, rfl⟩ := Prod.mk.inj (Option.some.inj hfail)
      rcases hstep with rfl | rfl | rfl
      · cases hpoint
      · cases hpoint
      · cases scheduled with
        | retirementUncertain | invalidResponse => rfl
        | _ => cases hvalid

/-! ### One case -/

section Case

variable (hdevice : s.devices[s.selectedDevice]? = some device)
  (hid : BoundedId request.credential.credentialId) (hadmitted : Admitted s.failNext)

include hdevice hid hadmitted

/-- Without a device both sides say so. -/
theorem predicts_invisible (hvisible : s.visibleDevices = 0) (h : s'.devices = s.devices) :
    Predicts listing pin backend rounds s request (.error .noCompatibleAuthenticator) s' := by
  refine (predicts_iff hdevice (leftAs_same hdevice h) (exists_corresponds hid hadmitted)
    fun fault _ => ?_).mpr ⟨rfl, rfl⟩
  exact Hardware.gets_unplugged (decide_eq_false (not_not.mpr hvisible))

/-- An assertion that fails ends both. -/
theorem predicts_refused {failure : FailureKind} (hvisible : s.visibleDevices ≠ 0)
    (hfailure : s.failNext = some (.assertion, failure)) (h : s'.devices = s.devices) :
    Predicts listing pin backend rounds s request (.error failure.intoError) s' := by
  refine (predicts_iff hdevice (leftAs_same hdevice h) (exists_corresponds hid hadmitted)
    fun fault hfault => ?_).mpr ⟨rfl, rfl⟩
  rw [hfailure] at hfault
  cases hfault with
  | assertion hne hmap =>
      rw [← hmap]
      exact Hardware.gets_fault (decide_eq_true hvisible) hid rfl hne

variable (hvisible : s.visibleDevices ≠ 0)
  (hassertion : ∀ failure, s.failNext ≠ some (.assertion, failure))

include hvisible hassertion

/-- A verification that fails ends the native retirement. -/
theorem predicts_iff_of_verified {e : Native.Error} (hleft : LeftAs s s' left)
    (hverified : ∀ setting, Hardware.verified setting device.credentials
      (expectation request.credential) = .error e) :
    Predicts listing pin backend rounds s request r s' ↔
      r = .error (mapNativeError e) ∧ left = device.credentials := by
  refine predicts_iff hdevice hleft (exists_corresponds hid hadmitted) fun fault hfault => ?_
  exact Hardware.gets_error (decide_eq_true hvisible) hid (not_atAssertion hfault hassertion)
    (hverified _)

/-- The credential that the backend in memory does not accept. -/
theorem predicts_unmatched (hshaped : device.Shaped) {e : Error}
    (hstop : s.managedCredential s.selectedDevice request = .error (.error e))
    (h : s'.devices = s.devices) : Predicts listing pin backend rounds s request (.error e) s' ↔
      Predicted s request.credential := by
  have hleft := leftAs_same hdevice h
  have hverified {error : Native.Error} (herror : ∀ setting, Hardware.verified setting
      device.credentials (expectation request.credential) = .error error) :
      Predicts listing pin backend rounds s request (.error e) s' ↔
        e = mapNativeError error := by
    rw [predicts_iff_of_verified hdevice hid hadmitted hvisible hassertion hleft herror,
      and_iff_left rfl, Except.error.injEq]
  rw [predicted_iff hvisible hassertion hdevice]
  obtain ⟨credential, hholds, hfits, hkey, hstop⟩ | ⟨hnone, hstop⟩ :=
    (managedCredential_iff hdevice).2 _ hstop
  · -- a credential with another key fails on both sides
    cases hstop
    rw [hverified fun _ => Hardware.verified_foreign hholds hkey]
    exact iff_of_true rfl (.foreign hholds hfits hkey)
  cases hstop
  by_cases hheld : ∃ credential, request.credential.Holds device.credentials credential
  · obtain ⟨credential, hholds⟩ := hheld
    have hfits := hnone credential hholds
    have hlisted : ¬ request.credential.Listed device.credentials :=
      fun h => hfits ((listed_iff hholds).mp h).1
    by_cases hkey : credential.publicKey = request.credential.publicKey
    · by_cases hunlisted : request.credential.Unlisted device.credentials
      · -- the enumeration does not show it
        rw [hverified fun _ => Hardware.verified_hidden hshaped hholds hkey hunlisted]
        exact iff_of_true rfl ((agrees_iff hholds).mpr (.inr (.inl ⟨hkey, hunlisted⟩)))
      · -- the enumeration shows a mismatch
        rw [hverified fun _ => Hardware.verified_mismatch hshaped hholds hkey hlisted hunlisted]
        refine iff_of_false (fun h => by cases h) fun hagrees => ?_
        rcases (agrees_iff hholds).mp hagrees with h | h | h | h
        · exact hfits h.1
        · exact hunlisted h.2
        · exact hlisted h.1
        · exact hfits h.1
    · rw [hverified fun _ => Hardware.verified_foreign hholds hkey]
      refine iff_of_false (fun h => by cases h) fun hagrees => ?_
      rcases (agrees_iff hholds).mp hagrees with h | h | h | h
      · exact hfits h.1
      · exact hkey h.1
      · exact hlisted h.1
      · exact hfits h.1
  · have habsent : ∀ credential, ¬ request.credential.Holds device.credentials credential :=
      fun credential hholds => hheld ⟨credential, hholds⟩
    rw [hverified fun _ => Hardware.verified_absent habsent]
    exact iff_of_true rfl (.absent habsent)

/-- Another credential of the user is a mismatch for the adapter, which deletes nothing. -/
theorem predicts_shared (hshaped : device.Shaped)
    (hholds : request.credential.Holds device.credentials credential)
    (hfits : request.credential.Fits credential)
    (hkey : credential.publicKey = request.credential.publicKey)
    (hshared : request.credential.Shared device.credentials) (hleft : LeftAs s s' left)
    (hr : r = .error .authenticatorResponseInvalid ∧ left = device.credentials ↔
      s.failNext = some (.retirement, .invalidResponse)) :
    Predicts listing pin backend rounds s request r s' ↔ Predicted s request.credential := by
  have hverified (setting : Setting) : Hardware.verified setting device.credentials
      (expectation request.credential) = .error .credentialMismatch :=
    Hardware.verified_mismatch hshaped hholds hkey (fun h => h.2 hshared) fun h => h.2 hshared
  rw [predicts_iff_of_verified hdevice hid hadmitted hvisible hassertion hleft hverified,
    predicted_iff hvisible hassertion hdevice, agrees_iff hholds]
  constructor
  · intro h
    exact .inr (.inr (.inr ⟨hfits, hkey, hshared, hr.mp h⟩))
  · rintro (h | h | h | h)
    · exact absurd hkey h.2
    · exact absurd hshared h.2.2
    · exact absurd hshared h.1.2
    · exact hr.mpr h.2.2.2

/-- Alone with its user, the credential is deleted, and the deletion decides. -/
theorem predicts_listed (r₀ : Result Unit) (hshaped : device.Shaped)
    (hlisted : request.credential.Listed device.credentials) (hleft : LeftAs s s' left)
    (hgets : ∀ setting : Setting, Corresponds request.credential s.failNext setting.fault →
      (Hardware.deletion setting device.credentials (expectation request.credential)).mapError
        mapNativeError = r₀ ∧
      Hardware.remaining device.credentials request.credential.credentialId setting.fault = left)
    (hr : r = r₀ ↔ s.failNext ≠ some (.retirement, .authenticator .credentialUnavailable)) :
    Predicts listing pin backend rounds s request r s' ↔ Predicted s request.credential := by
  have hnative : Predicts listing pin backend rounds s request r s' ↔ r = r₀ ∧ left = left := by
    refine predicts_iff hdevice hleft (exists_corresponds hid hadmitted) fun fault hfault => ?_
    let setting : Setting := { plugged := decide (s.visibleDevices ≠ 0), listing, fault, pin }
    obtain ⟨hresult, hremaining⟩ := hgets setting hfault
    have hdeletion : Gets setting backend rounds request device.credentials
        ((Hardware.deletion setting device.credentials (expectation request.credential)).mapError
          mapNativeError)
        (Hardware.remaining device.credentials request.credential.credentialId setting.fault) :=
      Hardware.gets_deletion (decide_eq_true hvisible) hid (not_atAssertion hfault hassertion)
        (Hardware.verified_listed hshaped hlisted)
    rw [hresult, hremaining] at hdeletion
    exact hdeletion
  rw [hnative, and_iff_left rfl, hr, predicted_iff hvisible hassertion hdevice]
  constructor
  · exact .listed hlisted
  · intro hagrees
    obtain ⟨credential, hholds, hfits, hkey⟩ := hlisted.1
    rcases (agrees_iff hholds).mp hagrees with h | h | h | h
    · exact absurd hkey h.2
    · exact absurd hfits.storage ((unlisted_iff hholds).mp h.2).1
    · exact h.2
    · exact absurd h.2.2.1 hlisted.2

/-- The deletion fails, and the credential stays. -/
theorem predicts_kept (hshaped : device.Shaped) {failure : FailureKind}
    (hcredential : s.managedCredential s.selectedDevice request = .ok credential)
    (hfailure : s.failNext = some (.retirement, failure)) (h : s'.devices = s.devices) :
    Predicts listing pin backend rounds s request (.error failure.intoError) s' ↔
      Predicted s request.credential := by
  obtain ⟨hholds, hfits, hkey⟩ := ((managedCredential_iff hdevice).1 credential).mp hcredential
  have hleft := leftAs_same hdevice h
  by_cases hshared : request.credential.Shared device.credentials
  · refine predicts_shared hdevice hid hadmitted hvisible hassertion hshaped hholds hfits hkey
      hshared hleft ?_
    have hinvalid : Error.authenticatorResponseInvalid = FailureKind.invalidResponse.intoError := rfl
    rw [hfailure, and_iff_left rfl, Except.error.injEq, hinvalid, intoError_inj]
    simp
  · -- the native side gets the same error, unless it is "not found"
    have hlisted := (listed_iff hholds).mpr ⟨hfits, hkey, hshared⟩
    refine predicts_listed hdevice hid hadmitted hvisible hassertion
      (.error (if failure = .authenticator .credentialUnavailable then .authenticatorResponseInvalid
        else failure.intoError)) hshaped hlisted hleft (fun setting hfault => ?_) ?_
    · rw [hfailure] at hfault
      generalize hsetting : setting.fault = fault at hfault
      cases hfault with
      | deletion hne hmap =>
          refine ⟨?_, rfl⟩
          rw [Hardware.deletion_fault hshaped hlisted hsetting hne]
          exact retirementOutcome_present hmap
    · rw [hfailure]
      by_cases hunavailable : failure = .authenticator .credentialUnavailable
      · subst hunavailable
        simp [FailureKind.intoError]
      · simp [hunavailable]

/-- The credential is removed, and the absence check fails. -/
theorem predicts_unchecked (hshaped : device.Shaped) {failure : FailureKind}
    (hcredential : s.managedCredential s.selectedDevice request = .ok credential)
    (hfailure : s.failNext = some (.absenceCheck, failure))
    (h : s'.devices =
      (s.removeCredential s.selectedDevice request.credential.credentialId).devices) :
    Predicts listing pin backend rounds s request
      (FakeBackend.retirementResult (.ok ()) (.error failure.intoError)) s' ↔
        Predicted s request.credential := by
  obtain ⟨hholds, hfits, hkey⟩ := ((managedCredential_iff hdevice).1 credential).mp hcredential
  have hleft := leftAs_erase hdevice h
  rw [retirementResult_unchecked (hfailure ▸ hadmitted)]
  by_cases hshared : request.credential.Shared device.credentials
  · refine predicts_shared hdevice hid hadmitted hvisible hassertion hshaped hholds hfits hkey
      hshared hleft (iff_of_false (fun hsame => erase_ne hholds hsame.2) ?_)
    simp [hfailure]
  · have hlisted := (listed_iff hholds).mpr ⟨hfits, hkey, hshared⟩
    refine predicts_listed hdevice hid hadmitted hvisible hassertion (.error failure.intoError)
      hshaped hlisted hleft (fun setting hfault => ?_) (iff_of_true rfl ?_)
    · rw [hfailure] at hfault
      generalize hsetting : setting.fault = fault at hfault
      cases hfault with
      | enumeration hpresence hmap =>
          refine ⟨?_, (Hardware.deletes_of_listed hlisted fun _ _ => Fault.noConfusion).2⟩
          rw [Hardware.deletion_unchecked hlisted hsetting hpresence]
          exact hmap
    · simp [hfailure]

/-- The credential is removed. -/
theorem predicts_removed (hshaped : device.Shaped)
    (hcredential : s.managedCredential s.selectedDevice request = .ok credential)
    (hfailure : s.failNext = none)
    (h : s'.devices =
      (s.removeCredential s.selectedDevice request.credential.credentialId).devices) :
    Predicts listing pin backend rounds s request (.ok ()) s' ↔
      Predicted s request.credential := by
  obtain ⟨hholds, hfits, hkey⟩ := ((managedCredential_iff hdevice).1 credential).mp hcredential
  have hleft := leftAs_erase hdevice h
  by_cases hshared : request.credential.Shared device.credentials
  · refine predicts_shared hdevice hid hadmitted hvisible hassertion hshaped hholds hfits hkey
      hshared hleft (iff_of_false (fun hsame => erase_ne hholds hsame.2) ?_)
    simp [hfailure]
  · have hlisted := (listed_iff hholds).mpr ⟨hfits, hkey, hshared⟩
    refine predicts_listed hdevice hid hadmitted hvisible hassertion (.ok ()) hshaped hlisted
      hleft (fun setting hfault => ?_) (iff_of_true rfl ?_)
    · rw [hfailure] at hfault
      generalize hsetting : setting.fault = fault at hfault
      cases hfault with
      | none =>
          refine ⟨?_, (Hardware.deletes_of_listed hlisted fun _ _ => Fault.noConfusion).2⟩
          rw [Hardware.deletion_none hshaped hlisted hsetting]
          rfl
    · simp [hfailure]

end Case

/-! ### Every case -/

theorem mapError_stop_inj {r r' : Result Unit}
    (h : r.mapError Stop.error = r'.mapError Stop.error) : r = r' := by
  cases r <;> cases r' <;> cases h <;> rfl

/-- **Every end of a retirement in memory is predicted exactly when the condition holds.** -/
theorem predicts_iff_predicted (hdevice : s.devices[s.selectedDevice]? = some device)
    (hshaped : device.Shaped) (hid : BoundedId request.credential.credentialId)
    (hadmitted : Admitted s.failNext) {result : Except Stop Unit}
    (hresult : result = r.mapError Stop.error) (h : FakeBackend.Retires s request result s') :
    Predicts listing pin backend rounds s request r s' ↔ Predicted s request.credential := by
  cases h with
  | invisible hvisible hdevices =>
      obtain ⟨e, rfl, he⟩ := except_mapError_eq_error.mp hresult.symm
      cases he
      exact iff_of_true (predicts_invisible hdevice hid hadmitted hvisible hdevices) (.inl hvisible)
  | refused hvisible hfailure hdevices =>
      obtain ⟨e, rfl, he⟩ := except_mapError_eq_error.mp hresult.symm
      cases he
      exact iff_of_true (predicts_refused hdevice hid hadmitted hvisible hfailure hdevices)
        (.inr (.inl ⟨_, hfailure⟩))
  | unmatched hvisible hassertion hstop hdevices =>
      obtain ⟨e, rfl, rfl⟩ := except_mapError_eq_error.mp hresult.symm
      exact predicts_unmatched hdevice hid hadmitted hvisible hassertion hshaped hstop hdevices
  | kept hvisible hcredential hfailure hdevices =>
      obtain ⟨e, rfl, he⟩ := except_mapError_eq_error.mp hresult.symm
      cases he
      exact predicts_kept hdevice hid hadmitted hvisible (by simp [hfailure]) hshaped hcredential
        hfailure hdevices
  | @unchecked credential failure _ hvisible hcredential hfailure hdevices =>
      have hr : r = FakeBackend.retirementResult (.ok ()) (.error failure.intoError) :=
        mapError_stop_inj hresult.symm
      rw [hr]
      exact predicts_unchecked hdevice hid hadmitted hvisible (by simp [hfailure]) hshaped
        hcredential hfailure hdevices
  | removed hvisible hcredential hfailure hdevices =>
      obtain rfl := except_mapError_eq_ok.mp hresult.symm
      exact predicts_removed hdevice hid hadmitted hvisible (by simp [hfailure]) hshaped hcredential
        hfailure hdevices

end Prediction

/-! ## The retirement of a recipient -/

/-- A failure that may be scheduled for a retirement is at one of its stages. -/
theorem atRetirement_of_admitted {s : FakeBackend} (h : Admitted s.failNext) :
    FakeBackend.AtRetirement s := by
  intro point failure hnext
  rw [hnext] at h
  generalize hfail : some (point, failure) = failNext at h
  cases h with
  | none => cases hfail
  | some hstep _ =>
      cases hfail
      rcases hstep with rfl | rfl | rfl
      · exact .inl rfl
      · exact .inr (.inl rfl)
      · exact .inr (.inr rfl)

section Recipient

variable [Primitives] {self : FakeAuthenticator} {envelope : KeyEnvelope} {root : RootKey}
  {recipient : RecipientId} {request : ManagedRequest} {t : Trace host} {r : Result Unit}
  {s s' : FakeBackend}

/-- The retirement of a recipient makes one backend call, and returns its result. -/
theorem runs_retireManagedRecipient {p : KeyProtector}
    (hrequest : p.managedRequest envelope root recipient .retireManagedRecipient = .ok request)
    (h : (p.retireManagedRecipient envelope root recipient).run.Runs t r) :
    ∃ reply : DeviceReply Unit, t = [⟨.retireManaged request, reply⟩] ∧ reply.result = r := by
  unfold KeyProtector.retireManagedRecipient at h
  obtain ⟨request', hrequest', hrun⟩ | ⟨e, hrequest', -⟩ := Fallible.runs_except_bind.mp h
  · rw [hrequest] at hrequest'
    cases hrequest'
    obtain ⟨t₁, reply, t₂, rfl, hask, hresult⟩ | ⟨e, hask, -⟩ := Fallible.runs_bind.mp hrun
    · obtain ⟨reply', rfl, hreply⟩ := runs_ask.mp hask
      cases hreply
      obtain ⟨rfl, rfl⟩ := Fallible.runs_except.mp hresult
      exact ⟨reply, rfl, rfl⟩
    · obtain ⟨reply, -, hreply⟩ := runs_ask.mp hask
      cases hreply
  · rw [hrequest] at hrequest'
    cases hrequest'

omit [Primitives] in
/-- A retirement in memory that ends well or with an error does not panic. -/
theorem retires_not_panic {device : FakeDevice}
    (hdevice : s.devices[s.selectedDevice]? = some device) :
    ¬ FakeBackend.Retires s request (.error .panic) s' := by
  intro h
  generalize hresult : (.error .panic : Except Stop Unit) = result at h
  cases h with
  | invisible _ _ | refused _ _ _ | kept _ _ _ _ | removed _ _ _ _ => cases hresult
  | unmatched _ _ hstop _ =>
      cases hresult
      obtain ⟨_, -, -, -, h⟩ | ⟨-, h⟩ := (managedCredential_iff hdevice).2 _ hstop
      · cases h
      · cases h
  | unchecked _ _ _ _ =>
      obtain ⟨e, -, he⟩ := except_mapError_eq_error.mp hresult.symm
      cases he

variable [ManagedSessions]

/-- What the retirement of a recipient returns and leaves in memory is predicted exactly when the
condition holds. -/
theorem predicts_iff_of_runs (hself : self.backend.Valid ∧ self.backend.Orderly)
    (hbounded : envelope.Bounded)
    (hrequest : self.protector.managedRequest envelope root recipient .retireManagedRecipient =
      .ok request)
    (hadmitted : Admitted self.backend.failNext)
    (hrun : (self.protector.retireManagedRecipient envelope root recipient).run.Runs t r)
    (hpath : Path FakeBackend.Step self.backend t s') (hinteraction : ∀ e, r ≠ .error (.interaction e))
    (listing : Listing) (pin : Pin) (backend : NativeBackend) (rounds : Nat) :
    Predicts listing pin backend rounds self.backend request r s' ↔
      Predicted self.backend request.credential := by
  obtain ⟨hvalid, horderly⟩ := hself
  have hdevice := List.getElem?_eq_getElem hvalid.selected
  have hshaped := horderly _ (List.getElem_mem hvalid.selected)
  obtain ⟨reply, rfl, rfl⟩ := runs_retireManagedRecipient hrequest hrun
  have hstep : FakeBackend.Answers (FakeBackend.retireManaged request) self.backend reply s' :=
    path_singleton.mp hpath
  have hends := hstep.leaves
    (FakeBackend.leaves_retireManaged_cases (atRetirement_of_admitted hadmitted))
  obtain ⟨stop, hstop, e, rfl⟩ | hretires := hends
  · obtain ⟨e', hresult, he⟩ := except_mapError_eq_error.mp hstop
    cases he
    exact absurd hresult (hinteraction e)
  · exact predicts_iff_predicted hdevice hshaped (managedRequest_bounded hbounded hrequest)
      hadmitted rfl hretires

/-- **When the backend in memory predicts a native retirement**: exactly when no device answers, the
assertion is to fail, or both see the same of the credential and the deletion is not to fail with
"not found". The retirement in memory does not panic. -/
theorem fake_predicts_native_retirement (applicationId : ApplicationId) (self : FakeAuthenticator)
    (hreachable : FakeAuthenticator.Reachable applicationId self) (envelope : KeyEnvelope)
    (hbounded : envelope.Bounded) (root : RootKey) (recipient : RecipientId)
    (request : ManagedRequest)
    (hrequest : self.protector.managedRequest envelope root recipient .retireManagedRecipient =
      .ok request)
    (hadmitted : Admitted self.backend.failNext) :
    (∀ t s', ¬ (FakeBackend.retireManaged request).Runs self.backend t (.error .panic) s') ∧
    ∀ (t : Trace host) (r : Result Unit) (s' : FakeBackend),
      (self.protector.retireManagedRecipient envelope root recipient).run.Runs t r →
      Path FakeBackend.Step self.backend t s' → (∀ e, r ≠ .error (.interaction e)) →
      ∀ (listing : Listing) (pin : Pin) (backend : NativeBackend) (rounds : Nat),
        Predicts listing pin backend rounds self.backend request r s' ↔
          Predicted self.backend request.credential := by
  have hself := FakeAuthenticator.orderly_of_reachable hreachable
  constructor
  · intro t s' hrun
    have hends := FakeBackend.leaves_retireManaged_cases (atRetirement_of_admitted hadmitted) t _ s'
      hrun
    obtain ⟨stop, hstop, e, rfl⟩ | hretires := hends
    · cases hstop
    · exact retires_not_panic (List.getElem?_eq_getElem hself.1.selected) hretires
  · intro t r s' hrun hpath hinteraction
    exact predicts_iff_of_runs hself hbounded hrequest hadmitted hrun hpath hinteraction

end Recipient

/-! ## Two tests -/

namespace FakeVector

/-- The request that the protector makes of the recipient. -/
def retirement : ManagedRequest where
  credential :=
    { applicationId := protector.applicationId
      recipientId := managedRecord.id
      credentialId := managedRecord.credentialId
      publicKey := managedRecord.publicKey
      policy := .userVerification
      label := "managed" }
  operation := .retireManagedRecipient

/-- The deletion is to fail with "not found". -/
def unavailable (self : FakeAuthenticator) : FakeAuthenticator :=
  { self with
    backend := { self.backend with
      failNext := some (.retirement, .authenticator .credentialUnavailable) } }

/-- The retirement of the recipient. -/
def retiring [Primitives] [ManagedSessions] (self : FakeAuthenticator) : Option (Trace host × Result Unit) :=
  (self.protector.retireManagedRecipient managedEnvelope managedRoot managedRecord.id).run.exec?
    (reply self.backend) []

/-- What a test computes of an authenticator that holds the credential. -/
structure Computed [Primitives] [ManagedSessions] (fake : FakeAuthenticator) : Prop where
  request : fake.protector.managedRequest managedEnvelope managedRoot managedRecord.id
    .retireManagedRecipient = .ok retirement
  failNext : fake.backend.failNext = none
  visible : fake.backend.visibleDevices ≠ 0
  held : (fake.backend.managedCredential fake.backend.selectedDevice retirement).isOk = true
  devices : fake.backend.devices.map (fun device => device.credentials.entries.map Sigma.fst) =
    [{retirement.credential.credentialId}]
  retires : ((retiring fake).elim false fun run => decide (run.2 = .ok ())) = true
  fails : ((retiring (unavailable fake)).elim false fun run =>
    decide (run.2 = .error (.authenticator .credentialUnavailable))) = true

theorem computed_managed : @Computed managedPrimitives managedSessions
    (@managed managedPrimitives managedSessions) := by
  let _ := managedPrimitives
  have hcomputed : managed.protector.managedRequest managedEnvelope managedRoot managedRecord.id
        .retireManagedRecipient = .ok retirement ∧
      managed.backend.failNext = none ∧ managed.backend.visibleDevices ≠ 0 ∧
      (managed.backend.managedCredential managed.backend.selectedDevice retirement).isOk = true ∧
      managed.backend.devices.map (fun device => device.credentials.entries.map Sigma.fst) =
        [{retirement.credential.credentialId}] ∧
      ((retiring managed).elim false fun run => decide (run.2 = .ok ())) = true ∧
      ((retiring (unavailable managed)).elim false fun run =>
        decide (run.2 = .error (.authenticator .credentialUnavailable))) = true := by
    decide +kernel
  obtain ⟨request, failNext, visible, held, devices, retires, fails⟩ := hcomputed
  exact ⟨request, failNext, visible, held, devices, retires, fails⟩

theorem bounded_managedEnvelope : managedEnvelope.Bounded := by
  intro record hrecord credentialId hid
  rw [List.mem_singleton.mp hrecord] at hid
  cases hid
  exact ⟨by decide +kernel, by decide +kernel⟩

/-- A credential that is alone on its device is alone with its user. -/
theorem listed_of_single {s : FakeBackend} {request : ManagedRequest} (hvalid : s.Valid)
    (hdevices : s.devices.map (fun device => device.credentials.entries.map Sigma.fst) =
      [{request.credential.credentialId}])
    (hmanaged : (s.managedCredential s.selectedDevice request).isOk = true) :
    ∃ device, s.devices[s.selectedDevice]? = some device ∧
      request.credential.Listed device.credentials := by
  obtain ⟨device, hdevice⟩ : ∃ device, s.devices[s.selectedDevice]? = some device :=
    ⟨_, List.getElem?_eq_getElem hvalid.selected⟩
  have hmem := List.mem_of_getElem? hdevice
  have hids := List.mem_map_of_mem (f := fun device : FakeDevice =>
    device.credentials.entries.map Sigma.fst) hmem
  rw [hdevices, List.mem_singleton] at hids
  cases hcredential : s.managedCredential s.selectedDevice request with
  | error stop =>
      rw [hcredential] at hmanaged
      cases hmanaged
  | ok credential =>
      obtain ⟨hholds, hfits, hkey⟩ :=
        ((managedCredential_iff hdevice).1 credential).mp hcredential
      refine ⟨device, hdevice, (listed_iff hholds).mpr ⟨hfits, hkey, ?_⟩⟩
      rintro ⟨id, other, hne, hlookup, -⟩
      have hid : id ∈ device.credentials.entries.map Sigma.fst :=
        Multiset.mem_map.mpr ⟨⟨id, other⟩, Finmap.lookup_eq_some_iff.mp hlookup, rfl⟩
      rw [hids, Multiset.mem_singleton] at hid
      exact hne hid

/-- The credential is alone with its user. -/
theorem managed_listed : ∃ device, (@managed managedPrimitives managedSessions).backend.devices[
      (@managed managedPrimitives managedSessions).backend.selectedDevice]? = some device ∧
    retirement.credential.Listed device.credentials := by
  let _ := managedPrimitives
  exact listed_of_single (FakeAuthenticator.valid_of_reachable managed_reachable)
    computed_managed.devices computed_managed.held

theorem admitted_managed : Admitted (@managed managedPrimitives managedSessions).backend.failNext := by
  let _ := managedPrimitives
  rw [computed_managed.failNext]
  exact .none

theorem failNext_unavailable {self : FakeAuthenticator} (h : self.backend.failNext = none) :
    self.failNext .retirement .credentialUnavailable = .ok (unavailable self) :=
  FakeAuthenticator.failNext_eq_ok.mpr ⟨rfl, h, rfl⟩

theorem admitted_unavailable (self : FakeAuthenticator) :
    Admitted (unavailable self).backend.failNext :=
  @Admitted.some .retirement .credentialUnavailable (.inr (.inl rfl)) rfl

theorem not_predicted_unavailable {self : FakeAuthenticator} {binding : CredentialBinding}
    {device : FakeDevice} (hvisible : self.backend.visibleDevices ≠ 0)
    (hdevice : self.backend.devices[self.backend.selectedDevice]? = some device)
    (hlisted : binding.Listed device.credentials) :
    ¬ Predicted (unavailable self).backend binding := by
  obtain ⟨credential, hholds, hfits, hkey⟩ := hlisted.1
  have hpredicted : Predicted (unavailable self).backend binding ↔
      Agrees device.credentials binding (unavailable self).backend.failNext :=
    predicted_iff hvisible (fun failure h => by cases h) hdevice
  rw [hpredicted, agrees_iff hholds]
  rintro (h | h | h | h)
  · exact h.2 hkey
  · exact ((unlisted_iff hholds).mp h.2).1 hfits.storage
  · exact h.2 rfl
  · exact hlisted.2 h.2.2.1

section Retiring

variable [Primitives] [ManagedSessions] {self : FakeAuthenticator} {r : Result Unit}

theorem reachable_unavailable {applicationId : ApplicationId}
    (h : FakeAuthenticator.Reachable applicationId self) (hnone : self.backend.failNext = none) :
    FakeAuthenticator.Reachable applicationId (unavailable self) :=
  h.tail (.failNext (failNext_unavailable hnone))

theorem runs_of_retiring
    (h : ((retiring self).elim false fun run => decide (run.2 = r)) = true) :
    ∃ t s', (self.protector.retireManagedRecipient managedEnvelope managedRoot
      managedRecord.id).run.Runs t r ∧ Path FakeBackend.Step self.backend t s' := by
  cases hexec : retiring self with
  | none =>
      rw [hexec] at h
      cases h
  | some run =>
      obtain ⟨t, result⟩ := run
      rw [hexec] at h
      obtain rfl : result = r := of_decide_eq_true h
      have hpath : Path FakeBackend.Step (after self.backend []) t
          (after self.backend ([] ++ t)) :=
        path_of_exec? (fun _ _ _ => step_reply) hexec
      exact ⟨t, _, Program.runs_of_exec? hexec, hpath⟩

/-- The run that is computed is predicted. -/
theorem exists_predicts {request : ManagedRequest}
    (h : ((retiring self).elim false fun run => decide (run.2 = r)) = true)
    (hanswered : ∀ e, r ≠ .error (.interaction e))
    (hpredicted : Predicted self.backend request.credential)
    (hall : ∀ (t : Trace host) (r : Result Unit) (s' : FakeBackend),
      (self.protector.retireManagedRecipient managedEnvelope managedRoot
        managedRecord.id).run.Runs t r →
      Path FakeBackend.Step self.backend t s' → (∀ e, r ≠ .error (.interaction e)) →
      ∀ (listing : Listing) (pin : Pin) (backend : NativeBackend) (rounds : Nat),
        Predicts listing pin backend rounds self.backend request r s' ↔
          Predicted self.backend request.credential) :
    ∃ t s', (self.protector.retireManagedRecipient managedEnvelope managedRoot
        managedRecord.id).run.Runs t r ∧ Path FakeBackend.Step self.backend t s' ∧
      ∀ listing pin backend rounds, Predicts listing pin backend rounds self.backend request r s' := by
  obtain ⟨t, s', hrun, hpath⟩ := runs_of_retiring h
  refine ⟨t, s', hrun, hpath, fun listing pin backend rounds => ?_⟩
  exact (hall t r s' hrun hpath hanswered listing pin backend rounds).mpr hpredicted

/-- A run that is computed where the condition fails refutes the prediction. -/
theorem not_predicts {applicationId : ApplicationId} {request : ManagedRequest}
    (hreachable : FakeAuthenticator.Reachable applicationId self)
    (hrequest : self.protector.managedRequest managedEnvelope managedRoot managedRecord.id
      .retireManagedRecipient = .ok request)
    (hadmitted : Admitted self.backend.failNext)
    (h : ((retiring self).elim false fun run => decide (run.2 = r)) = true)
    (hanswered : ∀ e, r ≠ .error (.interaction e))
    (hpredicted : ¬ Predicted self.backend request.credential) :
    ¬ ∀ (applicationId : ApplicationId) (self : FakeAuthenticator),
      FakeAuthenticator.Reachable applicationId self → ∀ envelope : KeyEnvelope, envelope.Bounded →
      ∀ (root : RootKey) (recipient : RecipientId) (request : ManagedRequest),
      self.protector.managedRequest envelope root recipient .retireManagedRecipient = .ok request →
      Admitted self.backend.failNext → ∀ (t : Trace host) (r : Result Unit) (s' : FakeBackend),
      (self.protector.retireManagedRecipient envelope root recipient).run.Runs t r →
      Path FakeBackend.Step self.backend t s' → (∀ e, r ≠ .error (.interaction e)) →
      ∀ (listing : Listing) (pin : Pin) (backend : NativeBackend) (rounds : Nat),
        Predicts listing pin backend rounds self.backend request r s' := by
  intro hall
  obtain ⟨t, s', hrun, hpath⟩ := runs_of_retiring h
  let listing : Listing :=
    ⟨fun credentials => credentials.entries.toList, fun _ => Multiset.coe_toList _⟩
  let pin : Pin := ⟨"123456", by decide⟩
  obtain ⟨config, -⟩ := FidoConfig.exists_native .default
  let backend : NativeBackend := ⟨⟨config⟩⟩
  have hself := FakeAuthenticator.orderly_of_reachable hreachable
  have hiff := predicts_iff_of_runs hself bounded_managedEnvelope hrequest hadmitted hrun hpath
    hanswered listing pin backend 0
  exact hpredicted (hiff.mp (hall applicationId self hreachable managedEnvelope
    bounded_managedEnvelope managedRoot managedRecord.id request hrequest hadmitted t r s' hrun hpath
    hanswered listing pin backend 0))

end Retiring

end FakeVector

open FakeVector in
/-- The one credential of a test is retired, as a native retirement does. -/
theorem managed_retirement_predicted :
    let _ := managedPrimitives
    ∃ t s', (managed.protector.retireManagedRecipient managedEnvelope managedRoot
        managedRecord.id).run.Runs t (.ok ()) ∧ Path FakeBackend.Step managed.backend t s' ∧
      ∀ listing pin backend rounds,
        Predicts listing pin backend rounds managed.backend retirement (.ok ()) s' := by
  let _ := managedPrimitives
  obtain ⟨device, hdevice, hlisted⟩ := managed_listed
  refine @exists_predicts managedPrimitives managedSessions _ (.ok ()) retirement
    computed_managed.retires (fun _ h => by cases h) (.inr (.inr ⟨device, hdevice, .listed hlisted ?_⟩))
    (@fake_predicts_native_retirement managedPrimitives managedSessions protector.applicationId
      _ managed_reachable managedEnvelope bounded_managedEnvelope managedRoot managedRecord.id
      retirement computed_managed.request admitted_managed).2
  rw [computed_managed.failNext]
  exact fun h => by cases h

open FakeVector in
/-- Where a deletion is to fail with "not found", no native exchange returns what the backend in
memory returns. -/
theorem unavailable_retirement_not_predicted :
    let _ := managedPrimitives
    ¬ ∀ (applicationId : ApplicationId) (self : FakeAuthenticator),
      FakeAuthenticator.Reachable applicationId self → ∀ envelope : KeyEnvelope, envelope.Bounded →
      ∀ (root : RootKey) (recipient : RecipientId) (request : ManagedRequest),
      self.protector.managedRequest envelope root recipient .retireManagedRecipient = .ok request →
      Admitted self.backend.failNext → ∀ (t : Trace host) (r : Result Unit) (s' : FakeBackend),
      (self.protector.retireManagedRecipient envelope root recipient).run.Runs t r →
      Path FakeBackend.Step self.backend t s' → (∀ e, r ≠ .error (.interaction e)) →
      ∀ (listing : Listing) (pin : Pin) (backend : NativeBackend) (rounds : Nat),
        Predicts listing pin backend rounds self.backend request r s' := by
  let _ := managedPrimitives
  obtain ⟨device, hdevice, hlisted⟩ := managed_listed
  exact @not_predicts managedPrimitives managedSessions
    (unavailable (@managed managedPrimitives managedSessions)) (.error (.authenticator .credentialUnavailable))
    protector.applicationId retirement
    (@reachable_unavailable managedPrimitives managedSessions _ _ managed_reachable
      computed_managed.failNext)
    computed_managed.request (admitted_unavailable _) computed_managed.fails (fun _ h => by cases h)
    (not_predicted_unavailable computed_managed.visible hdevice hlisted)

end FidoKeyWrap
