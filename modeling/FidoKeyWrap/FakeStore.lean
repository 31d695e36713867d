/-
# FidoKeyWrap.FakeStore — what each call of the backend in memory does to its credentials.

Most of a call keeps the devices (`SameStore`): it counts, takes the scheduled failure and prompts.
Two steps change a device: a seed adds a credential under the next number, and a deletion erases the
one of its request. The number only grows, so no device knows the id of the next credential
(`Valid`), in every state the backend can reach.

`Step` is the backend as the world of the protector: which replies it may give, and what they leave.
-/
import FidoKeyWrap.FakeBackend
import FidoKeyWrap.Lib.Triple

namespace FidoKeyWrap.FakeBackend

open ByteData Interact Mutating

/-! ## The devices stay -/

/-- The same devices are visible and selected. -/
structure SameSettings (s s' : FakeBackend) : Prop where
  visibleDevices : s'.visibleDevices = s.visibleDevices
  selectedDevice : s'.selectedDevice = s.selectedDevice

theorem SameSettings.trans {s s₁ s' : FakeBackend} (h : SameSettings s s₁)
    (h' : SameSettings s₁ s') : SameSettings s s' :=
  ⟨h'.visibleDevices.trans h.visibleDevices, h'.selectedDevice.trans h.selectedDevice⟩

/-- The devices, the next number and the settings are as before. -/
structure SameStore (s s' : FakeBackend) : Prop where
  devices : s'.devices = s.devices
  nextId : s'.nextId = s.nextId
  settings : SameSettings s s'

instance : IsPreorder FakeBackend SameStore where
  refl _ := ⟨rfl, rfl, rfl, rfl⟩
  trans _ _ _ h h' := ⟨h'.devices.trans h.devices, h'.nextId.trans h.nextId,
    h.settings.trans h'.settings⟩

/-- An update, then a call on the updated state. -/
theorem leaves_update_bind {α : Type} {g : FakeBackend → FakeBackend} {f : PUnit → Fake α}
    {s : FakeBackend} {Q : Except Stop α → FakeBackend → Prop} (h : Leaves (f ⟨⟩) (g s) Q) :
    Leaves (update g >>= f) s Q := h

section Same

theorem sameStore_update {f : FakeBackend → FakeBackend} (h : ∀ s, SameStore s (f s)) :
    Within SameStore (update f) := by
  intro s t r s' hrun
  obtain ⟨-, -, rfl⟩ := runs_set.mp (runs_get_bind.mp hrun)
  exact h s

theorem sameStore_count (f : Counters → Counters) : Within SameStore (count f) :=
  sameStore_update fun _ => ⟨rfl, rfl, rfl, rfl⟩

theorem sameStore_interact {α : Type} (x : Interaction α) : Within SameStore (interact x) :=
  within_lift _

/-- A failure is taken only when it is scheduled. -/
theorem leaves_takeFailure (point : FailurePoint) (s : FakeBackend) :
    Leaves (takeFailure point) s fun r s' => SameStore s s' ∧ ∃ taken, r = .ok taken := by
  apply leaves_get_bind
  split
  · exact leaves_pure ⟨refl_of SameStore s, none, rfl⟩
  · split
    · exact leaves_set_bind (leaves_pure ⟨⟨rfl, rfl, rfl, rfl⟩, _, rfl⟩)
    · exact leaves_pure ⟨refl_of SameStore s, none, rfl⟩

theorem sameStore_takeFailure (point : FailurePoint) : Within SameStore (takeFailure point) :=
  fun s => (leaves_takeFailure point s).mono fun _ _ h => h.1

theorem sameStore_failAt (point : FailurePoint) : Within SameStore (failAt point) := by
  refine within_bind (sameStore_takeFailure point) fun taken => ?_
  cases taken with
  | none => exact within_pure ()
  | some failure => exact within_throw _

theorem sameStore_selectionTouch (self : FakeBackend) (operation : Operation) (label : String)
    (policy : FidoPolicy) : Within SameStore (self.selectionTouch operation label policy) := by
  unfold selectionTouch
  split
  · exact sameStore_interact _
  · exact within_pure ()

theorem sameStore_assertionPin (credential : CredentialBinding) (operation : Operation) :
    Within SameStore (assertionPin credential operation) := by
  unfold assertionPin
  split
  · exact within_bind (sameStore_interact _) fun _ => within_pure ()
  · exact within_pure ()

/-- The device that answers is the selected one. -/
theorem leaves_select (operation : Operation) (label : String) (policy : FidoPolicy)
    (s : FakeBackend) : Leaves (select operation label policy) s fun r s' =>
      SameStore s s' ∧ ∀ device, r = .ok device → device = s.selectedDevice := by
  refine (sameStore_count _).leaves_bind (fun e s₁ h => ⟨h, by simp⟩) fun _ s₁ h₁ => ?_
  refine (sameStore_failAt _).leaves_bind (fun e s₂ h => ⟨trans_of SameStore h₁ h, by simp⟩)
    fun _ s₂ h₂ => ?_
  have h := trans_of SameStore h₁ h₂
  apply leaves_get_bind
  refine leaves_except_bind (fun e _ => ⟨h, by simp⟩) fun _ _ => ?_
  refine (sameStore_selectionTouch _ _ _ _).leaves_bind
    (fun e s₃ h₃ => ⟨trans_of SameStore h h₃, by simp⟩) fun _ s₃ h₃ => ?_
  refine leaves_pure ⟨trans_of SameStore h h₃, fun device hdevice => ?_⟩
  cases hdevice
  exact h.settings.selectedDevice

theorem sameStore_select (operation : Operation) (label : String) (policy : FidoPolicy) :
    Within SameStore (select operation label policy) :=
  fun s => (leaves_select operation label policy s).mono fun _ _ h => h.1

theorem sameStore_touchAndVerifyManaged (device : Nat) (request : ManagedRequest) :
    Within SameStore (touchAndVerifyManaged device request) := by
  refine within_bind (sameStore_interact _) fun _ => ?_
  refine within_bind (sameStore_count _) fun _ => ?_
  refine within_bind (sameStore_failAt _) fun _ => ?_
  refine within_bind (sameStore_failAt _) fun _ => ?_
  refine within_get_bind fun self => ?_
  exact within_bind (within_except _) fun _ => within_pure ()

theorem sameStore_verifyManaged (request : ManagedRequest) :
    Within SameStore (verifyManaged request) := by
  refine within_bind (sameStore_select _ _ _) fun device => ?_
  refine within_bind (sameStore_interact _) fun _ => ?_
  exact sameStore_touchAndVerifyManaged device request

variable [Primitives]

theorem sameStore_evaluate (request : PrfRequest) : Within SameStore (evaluate request) := by
  refine within_bind (sameStore_select _ _ _) fun device => ?_
  refine within_bind (sameStore_assertionPin _ _) fun _ => ?_
  refine within_bind (sameStore_interact _) fun _ => ?_
  refine within_bind (sameStore_count _) fun _ => ?_
  refine within_bind (sameStore_failAt _) fun _ => ?_
  refine within_bind (sameStore_failAt _) fun _ => ?_
  refine within_get_bind fun self => ?_
  iterate 5 refine within_bind (within_except _) fun _ => ?_
  exact within_except _

theorem sameStore_evaluateManagedOnDevice (device : Nat) (request : PrfRequest) :
    Within SameStore (evaluateManagedOnDevice device request) := by
  refine within_bind (sameStore_interact _) fun _ => ?_
  refine within_bind (sameStore_count _) fun _ => ?_
  refine within_bind (sameStore_failAt _) fun _ => ?_
  refine within_bind (sameStore_failAt _) fun _ => ?_
  refine within_get_bind fun self => ?_
  exact within_bind (within_except _) fun _ => within_except _

theorem sameStore_evaluateManagedEnrollment [ManagedSessions] (enrollment : ManagedEnrollment)
    (request : PrfRequest) : Within SameStore (evaluateManagedEnrollment enrollment request) := by
  unfold evaluateManagedEnrollment
  split
  · exact sameStore_evaluateManagedOnDevice _ _
  · exact within_throw _

end Same

/-! ## A credential is added -/

/-- **`Seeded s s' credential`** — the credential was added to the selected device under the next
number. -/
structure Seeded (s s' : FakeBackend) (credential : FakeCredential) : Prop where
  bounded : s.nextId + 1 < UInt64.size
  nextId : s'.nextId = s.nextId + 1
  settings : SameSettings s s'
  device : s.selectedDevice < s.devices.length
  devices : s'.devices = s.devices.modify s.selectedDevice fun device =>
    { device with credentials := device.credentials.insert (credentialId s.nextId) credential }

/-- The number was used, and no credential added. -/
structure Skipped (s s' : FakeBackend) : Prop where
  devices : s'.devices = s.devices
  nextId : s.nextId ≤ s'.nextId
  settings : SameSettings s s'

theorem SameStore.skipped {s s' : FakeBackend} (h : SameStore s s') : Skipped s s' :=
  ⟨h.devices, h.nextId.ge, h.settings⟩

/-- What a seed asks for. -/
structure SeededAs (s s' : FakeBackend) (applicationId : ApplicationId) (policy : FidoPolicy)
    (storage : FidoStorage) (userId : Option RecipientId) (credential : FakeCredential) : Prop where
  seeded : Seeded s s' credential
  application : credential.applicationId = applicationId.asStr
  policy : credential.enrollmentPolicy = policy
  storage : credential.storage = storage
  user : credential.userId = userId

section Seed

variable {s s₁ s' : FakeBackend} {applicationId : ApplicationId} {policy : FidoPolicy}
  {storage : FidoStorage} {userId : Option RecipientId} {credential : FakeCredential}

theorem Skipped.after (h : Skipped s₁ s') (hsame : SameStore s s₁) : Skipped s s' :=
  ⟨h.devices.trans hsame.devices, hsame.nextId ▸ h.nextId,
    hsame.settings.trans h.settings⟩

theorem Seeded.after (h : Seeded s₁ s' credential) (hsame : SameStore s s₁) :
    Seeded s s' credential := by
  obtain ⟨hbounded, hnext, hsettings, hdevice, hdevices⟩ := h
  rw [hsame.nextId] at hbounded hnext hdevices
  rw [hsame.settings.selectedDevice] at hdevice hdevices
  rw [hsame.devices] at hdevice hdevices
  exact ⟨hbounded, hnext, hsame.settings.trans hsettings, hdevice, hdevices⟩

theorem SeededAs.after (h : SeededAs s₁ s' applicationId policy storage userId credential)
    (hsame : SameStore s s₁) : SeededAs s s' applicationId policy storage userId credential :=
  ⟨h.seeded.after hsame, h.application, h.policy, h.storage, h.user⟩

theorem deviceAt_eq_ok {s : FakeBackend} {index : Nat} {device : FakeDevice} :
    s.deviceAt index = .ok device ↔ s.devices[index]? = some device := okOr_eq_ok

variable [Primitives]

theorem leaves_seedCredentialWithStorage (s : FakeBackend) :
    Leaves (seedCredentialWithStorage applicationId policy storage userId) s fun r s' =>
      (∃ credential, r = .ok ⟨credentialId s.nextId, credential.publicKey⟩ ∧
        SeededAs s s' applicationId policy storage userId credential) ∨
      r = .error .panic ∧ Skipped s s' := by
  apply leaves_get_bind
  refine leaves_except_bind (fun e he => ?_) fun _ hbounded => ?_
  · obtain ⟨-, rfl⟩ := require_eq_error.mp he
    exact .inr ⟨rfl, rfl, le_rfl, rfl, rfl⟩
  rw [require_eq_ok] at hbounded
  apply leaves_set_bind
  refine leaves_except_bind (fun e he => ?_) fun publicKey _ => ?_
  · obtain ⟨-, -, rfl⟩ := except_mapError_eq_error.mp he
    exact .inr ⟨rfl, rfl, Nat.le_succ _, rfl, rfl⟩
  refine leaves_except_bind (fun e he => ?_) fun device hdevice => ?_
  · obtain ⟨-, rfl⟩ := okOr_eq_error.mp he
    exact .inr ⟨rfl, rfl, Nat.le_succ _, rfl, rfl⟩
  have hlt : s.selectedDevice < s.devices.length :=
    (List.getElem?_eq_some_iff.mp (deviceAt_eq_ok.mp hdevice)).1
  apply leaves_update_bind
  exact leaves_pure (.inl ⟨_, rfl, ⟨hbounded, rfl, ⟨rfl, rfl⟩, hlt, rfl⟩, rfl, rfl, rfl, rfl⟩)

end Seed

/-! ## A credential is removed -/

/-- The devices are as before, or as before without the credential on the device. -/
structure MayRemove (device : Nat) (id : ByteString) (s s' : FakeBackend) : Prop where
  devices : s'.devices = s.devices ∨ s'.devices = (s.removeCredential device id).devices
  nextId : s'.nextId = s.nextId
  settings : SameSettings s s'

section Removal

variable {s s₁ s' : FakeBackend} {device : Nat} {id : ByteString}

theorem SameStore.mayRemove (h : SameStore s s') : MayRemove device id s s' :=
  ⟨.inl h.devices, h.nextId, h.settings⟩

theorem removeCredential_devices (h : SameStore s s₁) :
    (s₁.removeCredential device id).devices = (s.removeCredential device id).devices := by
  unfold removeCredential updateDevice
  rw [h.devices]

theorem MayRemove.after (h : MayRemove device id s₁ s') (hsame : SameStore s s₁) :
    MayRemove device id s s' := by
  refine ⟨?_, h.nextId.trans hsame.nextId, hsame.settings.trans h.settings⟩
  rw [← hsame.devices, ← removeCredential_devices hsame]
  exact h.devices

theorem MayRemove.before (h : MayRemove device id s s₁) (hsame : SameStore s₁ s') :
    MayRemove device id s s' := by
  refine ⟨?_, hsame.nextId.trans h.nextId, h.settings.trans hsame.settings⟩
  rw [hsame.devices]
  exact h.devices

/-- A deletion that is not refused removes the credential. -/
theorem leaves_deletion (request : ManagedRequest) (s : FakeBackend) :
    Leaves (deletion device request) s fun r s' =>
      MayRemove device request.credential.credentialId s s' ∧
        (r = .ok (.ok ()) →
          s'.devices = (s.removeCredential device request.credential.credentialId).devices) ∧
        ∀ e, r = .ok (.error e) → s'.devices = s.devices := by
  refine (sameStore_takeFailure _).leaves_bind
    (fun e s₁ h => ⟨h.mayRemove, by simp, by simp⟩) fun taken s₁ h => ?_
  cases taken with
  | some failure => exact leaves_pure ⟨h.mayRemove, by simp, fun _ _ => h.devices⟩
  | none =>
      apply leaves_get_bind
      refine leaves_except_bind (fun e _ => ⟨h.mayRemove, by simp, by simp⟩) fun found _ => ?_
      apply leaves_update_bind
      have hremoved : (s₁.removeCredential device request.credential.credentialId).devices =
          (s.removeCredential device request.credential.credentialId).devices :=
        removeCredential_devices h
      exact leaves_pure ⟨⟨.inr hremoved, h.nextId, h.settings.trans ⟨rfl, rfl⟩⟩, fun _ => hremoved, by simp⟩

/-- The absence check reads the devices. -/
theorem leaves_presence (request : ManagedRequest) (s : FakeBackend) :
    Leaves (presence device request) s fun r s' => SameStore s s' ∧
      ∀ found, r = .ok (.ok found) → ∃ held, s.devices[device]? = some held ∧
        found = (held.credentials.lookup request.credential.credentialId).isSome := by
  refine (sameStore_takeFailure _).leaves_bind (fun e s₁ h => ⟨h, by simp⟩) fun taken s₁ h => ?_
  cases taken with
  | some failure => exact leaves_pure ⟨h, by simp⟩
  | none =>
      apply leaves_get_bind
      refine leaves_except_bind (fun e _ => ⟨h, by simp⟩) fun found hfound => ?_
      rw [deviceAt_eq_ok, h.devices] at hfound
      refine leaves_pure ⟨h, fun present hpresent => ?_⟩
      cases hpresent
      exact ⟨found, hfound, rfl⟩

/-- The credential of a managed request is on the device, with the fields of the request. -/
theorem managedCredential_eq_ok {request : ManagedRequest} {credential : FakeCredential} :
    s.managedCredential device request = .ok credential ↔
      ∃ held, s.devices[device]? = some held ∧
        held.credentials.lookup request.credential.credentialId = some credential ∧
        (credential.applicationId = request.credential.applicationId.asStr ∧
          credential.storage = .managed ∧
          credential.userId = some request.credential.recipientId ∧
          credential.enrollmentPolicy = request.credential.policy) ∧
        credential.publicKey = request.credential.publicKey := by
  unfold managedCredential
  simp only [except_bind_eq_ok, deviceAt_eq_ok, okOr_eq_ok, require_eq_ok, except_pure_eq_ok]
  constructor
  · rintro ⟨held, hheld, found, hfound, -, hrequest, -, hkey, rfl⟩
    exact ⟨held, hheld, hfound, hrequest, hkey⟩
  · rintro ⟨held, hheld, hfound, hrequest, hkey⟩
    exact ⟨held, hheld, credential, hfound, ⟨⟩, hrequest, ⟨⟩, hkey, rfl⟩

theorem managedCredential_congr {request : ManagedRequest} (h : s'.devices = s.devices) :
    s'.managedCredential device request = s.managedCredential device request := by
  unfold managedCredential deviceAt
  rw [h]

theorem leaves_touchAndVerifyManaged (request : ManagedRequest) (s : FakeBackend) :
    Leaves (touchAndVerifyManaged device request) s fun r s' => SameStore s s' ∧
      (r = .ok () → ∃ credential, s.managedCredential device request = .ok credential) := by
  refine (sameStore_interact _).leaves_bind (fun e s₁ h => ⟨h, by simp⟩) fun _ s₁ h₁ => ?_
  refine (sameStore_count _).leaves_bind (fun e s₂ h => ⟨trans_of SameStore h₁ h, by simp⟩)
    fun _ s₂ h₂ => ?_
  have h := trans_of SameStore h₁ h₂
  refine (sameStore_failAt _).leaves_bind (fun e s₃ h₃ => ⟨trans_of SameStore h h₃, by simp⟩)
    fun _ s₃ h₃ => ?_
  have h' := trans_of SameStore h h₃
  refine (sameStore_failAt _).leaves_bind (fun e s₄ h₄ => ⟨trans_of SameStore h' h₄, by simp⟩)
    fun _ s₄ h₄ => ?_
  have hsame := trans_of SameStore h' h₄
  apply leaves_get_bind
  refine leaves_except_bind (fun e _ => ⟨hsame, by simp⟩) fun credential hcredential => ?_
  refine leaves_pure ⟨hsame, fun _ => ⟨credential, ?_⟩⟩
  rw [← hcredential, managedCredential_congr hsame.devices]

theorem retirementResult_eq_ok {deleted : Result Unit} {present : Result Bool} :
    retirementResult deleted present = .ok () ↔ present = .ok false := by
  unfold retirementResult
  split <;> simp_all

/-- A retirement that succeeds removed the credential. -/
theorem leaves_retireManagedOnDevice (request : ManagedRequest) (s : FakeBackend) :
    Leaves (retireManagedOnDevice device request) s fun r s' =>
      MayRemove device request.credential.credentialId s s' ∧ (r = .ok () →
        s'.devices = (s.removeCredential device request.credential.credentialId).devices) := by
  refine leaves_bind (leaves_touchAndVerifyManaged request s)
    (fun e s₁ h => ⟨h.1.mayRemove, by simp⟩) fun _ s₁ ⟨h₁, hverified⟩ => ?_
  refine (sameStore_count _).leaves_bind
    (fun e s₂ h₂ => ⟨(trans_of SameStore h₁ h₂).mayRemove, by simp⟩) fun _ s₂ h₂ => ?_
  have h := trans_of SameStore h₁ h₂
  refine leaves_bind (leaves_deletion request s₂) (fun e s₃ h₃ => ⟨h₃.1.after h, by simp⟩)
    fun deleted s₃ ⟨h₃, hremoved, hkept⟩ => ?_
  refine leaves_bind (leaves_presence request s₃)
    (fun e s₄ h₄ => ⟨(h₃.before h₄.1).after h, by simp⟩) fun present s₄ ⟨h₄, hpresent⟩ => ?_
  refine leaves_except ⟨(h₃.before h₄).after h, fun hok => ?_⟩
  obtain rfl := retirementResult_eq_ok.mp (except_mapError_eq_ok.mp hok)
  cases deleted with
  | ok u =>
      rw [h₄.devices, hremoved rfl, removeCredential_devices h]
  | error e =>
      -- a refused deletion kept the credential, so the absence check would have found it
      obtain ⟨held, hheld, habsent⟩ := hpresent false rfl
      obtain ⟨credential, hcredential⟩ := hverified rfl
      obtain ⟨held', hheld', hfound, -⟩ := managedCredential_eq_ok.mp hcredential
      rw [hkept e rfl, h.devices, hheld'] at hheld
      cases hheld
      rw [hfound] at habsent
      cases habsent

/-- A cleanup that succeeds removed the credential, or did not know it. -/
theorem leaves_cleanupManagedEnrollmentOnDevice (request : ManagedRequest) (s : FakeBackend) :
    Leaves (cleanupManagedEnrollmentOnDevice device request) s fun r s' =>
      MayRemove device request.credential.credentialId s s' ∧
        (r = .ok () → (∃ credential, s.managedCredential device request = .ok credential) →
          s'.devices = (s.removeCredential device request.credential.credentialId).devices) := by
  have hstays : MayRemove device request.credential.credentialId s s :=
    (refl_of SameStore s).mayRemove
  apply leaves_get_bind
  split
  · exact (leaves_retireManagedOnDevice request s).mono fun _ _ h => ⟨h.1, fun hok _ => h.2 hok⟩
  · rename_i hunavailable
    refine leaves_pure ⟨hstays, fun _ ⟨credential, hcredential⟩ => ?_⟩
    rw [hcredential] at hunavailable
    cases hunavailable
  · exact leaves_throw ⟨hstays, by simp⟩

end Removal

/-! ## Enrollment -/

section Enroll

variable {s s' : FakeBackend} {applicationId : ApplicationId} {recipientId : RecipientId}
  {policy : FidoPolicy} {label : String} {operation : Operation}

/-- What an enrollment may do to the devices. -/
def Grows (s s' : FakeBackend) : Prop :=
  Skipped s s' ∨ ∃ credential, Seeded s s' credential

theorem SameStore.grows (h : SameStore s s') : Grows s s' := .inl h.skipped

theorem Grows.after {s₁ : FakeBackend} (hsame : SameStore s s₁) (h : Grows s₁ s') : Grows s s' := by
  rcases h with hskipped | ⟨credential, hseeded⟩
  · exact .inl (hskipped.after hsame)
  · exact .inr ⟨credential, hseeded.after hsame⟩

/-- The outcome of a managed enrollment: one credential more on the selected device; or a failure
that keeps the devices, unless it says that a credential may remain; or a panic. -/
inductive Enrolls [Primitives] [ManagedSessions] (applicationId : ApplicationId)
    (recipientId : RecipientId) (policy : FidoPolicy) (s : FakeBackend) :
    Except Stop ManagedEnrollment → FakeBackend → Prop
  | enrolled {enrollment credential s₁} :
      SeededAs s s₁ applicationId policy .managed (some recipientId) credential →
      enrollment.managedSession = .fake s.selectedDevice → enrollment.policy = policy →
      enrollment.credential = ⟨credentialId s.nextId, credential.publicKey⟩ →
      Enrolls applicationId recipientId policy s (.ok enrollment) s₁
  | failed {e s₁} : SameStore s s₁ →
      Enrolls applicationId recipientId policy s (.error (.error e)) s₁
  | remains {credential s₁} :
      SeededAs s s₁ applicationId policy .managed (some recipientId) credential →
      Enrolls applicationId recipientId policy s
        (.error (.error (.authenticator .credentialMayRemain))) s₁
  | panicked {s₁} : Skipped s s₁ → Enrolls applicationId recipientId policy s (.error .panic) s₁

variable [Primitives]

theorem grows_enroll : ∀ s, Leaves (enroll applicationId policy label operation) s fun _ =>
    Grows s := by
  have hafter (s s₁ : FakeBackend) (r : Except Stop CredentialMaterial) (s' : FakeBackend) :
      SameStore s s₁ → Grows s₁ s' → Grows s s' := Grows.after
  have hstop (s : FakeBackend) (e : Stop) (s' : FakeBackend) : SameStore s s' → Grows s s' :=
    SameStore.grows
  refine (sameStore_select _ _ _).leaves_then hafter hstop fun _ => ?_
  refine (sameStore_interact _).leaves_then hafter hstop fun _ => ?_
  refine (sameStore_interact _).leaves_then hafter hstop fun _ => ?_
  refine (sameStore_count _).leaves_then hafter hstop fun _ => ?_
  refine (sameStore_failAt _).leaves_then hafter hstop fun _ => ?_
  refine (sameStore_failAt _).leaves_then hafter hstop fun _ => ?_
  intro s
  refine (leaves_seedCredentialWithStorage s).mono fun r s' hseed => ?_
  rcases hseed with ⟨credential, -, hseeded⟩ | ⟨-, hskipped⟩
  · exact .inr ⟨credential, hseeded.seeded⟩
  · exact .inl hskipped

theorem leaves_failedManagedEnrollment {s : FakeBackend} (failure : FailureKind) :
    Leaves (failedManagedEnrollment applicationId recipientId policy failure) s fun r s' =>
      (r = .ok () ∧ SameStore s s' ∨ failure = .authenticator .credentialMayRemain ∧
        ((∃ credential, r = .ok () ∧
          SeededAs s s' applicationId policy .managed (some recipientId) credential) ∨
        r = .error .panic ∧ Skipped s s')) := by
  unfold failedManagedEnrollment
  split
  · rename_i hfailure
    refine leaves_bind (leaves_seedCredentialWithStorage s) (fun e s₁ h => ?_) fun _ s₁ h => ?_
    · rcases h with ⟨credential, hok, -⟩ | h
      · cases hok
      · exact .inr ⟨hfailure, .inr ⟨by cases h.1; rfl, h.2⟩⟩
    · rcases h with ⟨credential, -, hseeded⟩ | ⟨herror, -⟩
      · exact leaves_pure (.inr ⟨hfailure, .inl ⟨credential, rfl, hseeded⟩⟩)
      · cases herror
  · exact leaves_pure (.inl ⟨rfl, refl_of SameStore s⟩)

variable [ManagedSessions]

theorem Enrolls.after {s₁ : FakeBackend} {r : Except Stop ManagedEnrollment}
    (hsame : SameStore s s₁) (h : Enrolls applicationId recipientId policy s₁ r s') :
    Enrolls applicationId recipientId policy s r s' := by
  cases h with
  | enrolled hseeded hsession hpolicy hcredential =>
      rw [hsame.settings.selectedDevice] at hsession
      rw [hsame.nextId] at hcredential
      exact .enrolled (hseeded.after hsame) hsession hpolicy hcredential
  | failed h => exact .failed (trans_of SameStore hsame h)
  | remains hseeded => exact .remains (hseeded.after hsame)
  | panicked h => exact .panicked (h.after hsame)

theorem SameStore.enrolls {stop : Stop} (h : SameStore s s') :
    Enrolls applicationId recipientId policy s (.error stop) s' := by
  cases stop with
  | error e => exact .failed h
  | panic => exact .panicked h.skipped

/-- **What a managed enrollment does.** -/
theorem enrolls_enrollManaged (s : FakeBackend) :
    Leaves (enrollManaged applicationId recipientId policy label operation) s
      (Enrolls applicationId recipientId policy s) := by
  refine leaves_bind (leaves_select _ _ _ s) (fun e s₁ h => h.1.enrolls)
    fun device s₁ ⟨h, hdevice⟩ => ?_
  obtain rfl := hdevice device rfl
  refine (sameStore_interact _).leaves_bind
    (fun e s₂ h₂ => (trans_of SameStore h h₂).enrolls) fun _ s₂ h₂ => ?_
  have h := trans_of SameStore h h₂
  refine (sameStore_interact _).leaves_bind
    (fun e s₃ h₃ => (trans_of SameStore h h₃).enrolls) fun _ s₃ h₃ => ?_
  have h := trans_of SameStore h h₃
  refine (sameStore_count _).leaves_bind
    (fun e s₄ h₄ => (trans_of SameStore h h₄).enrolls) fun _ s₄ h₄ => ?_
  have h := trans_of SameStore h h₄
  apply leaves_get_bind
  refine leaves_except_bind (fun e _ => h.enrolls) fun found _ => ?_
  refine leaves_except_bind (fun e _ => h.enrolls) fun _ _ => ?_
  refine (sameStore_takeFailure _).leaves_bind
    (fun e s₅ h₅ => (trans_of SameStore h h₅).enrolls) fun taken s₅ h₅ => ?_
  have h := trans_of SameStore h h₅
  refine Leaves.mono (R := Enrolls applicationId recipientId policy s₅) ?_ fun r s' =>
    Enrolls.after h
  cases taken with
  | some failure =>
      refine leaves_bind (leaves_failedManagedEnrollment failure) (fun e s₆ h₆ => ?_) fun _ s₆ h₆ => ?_
      · rcases h₆ with ⟨hok, -⟩ | ⟨-, ⟨credential, hok, -⟩ | ⟨hpanic, hskipped⟩⟩
        · cases hok
        · cases hok
        · cases hpanic
          exact .panicked hskipped
      · rcases h₆ with ⟨-, hsame⟩ | ⟨rfl, ⟨credential, -, hseeded⟩ | ⟨hpanic, -⟩⟩
        · exact leaves_throw (.failed hsame)
        · exact leaves_throw (.remains hseeded)
        · cases hpanic
  | none =>
      refine leaves_bind (leaves_seedCredentialWithStorage s₅) (fun e s₆ h₆ => ?_)
        fun material s₆ h₆ => ?_
      · rcases h₆ with ⟨credential, hok, -⟩ | ⟨hpanic, hskipped⟩
        · cases hok
        · cases hpanic
          exact .panicked hskipped
      · rcases h₆ with ⟨credential, hmaterial, hseeded⟩ | ⟨hpanic, -⟩
        · cases hmaterial
          refine leaves_pure (.enrolled hseeded ?_ rfl rfl)
          rw [h.settings.selectedDevice]
          exact ManagedSessions.equiv.apply_symm_apply _
        · cases hpanic

end Enroll

/-! ## Reachable states -/

/-- **`Valid`** — the visible devices and the selected one exist, and no device knows the id of a
number to come. -/
structure Valid (s : FakeBackend) : Prop where
  visible : s.visibleDevices ≤ s.devices.length
  selected : s.selectedDevice < s.devices.length
  fresh : ∀ device ∈ s.devices, ∀ n, s.nextId ≤ n → n < UInt64.size →
    device.credentials.lookup (credentialId n) = none

theorem credentialId_inj {m n : Nat} (hm : m < UInt64.size) (hn : n < UInt64.size) :
    credentialId m = credentialId n ↔ m = n := by
  constructor
  · intro h
    have hbytes := List.append_cancel_left h
    exact beBytes_injective (w := 8) hm hn hbytes
  · rintro rfl
    rfl

section Valid

variable {s s' : FakeBackend}

theorem Valid.congr (h : Valid s) (hdevices : s'.devices = s.devices) (hnext : s.nextId ≤ s'.nextId)
    (hsettings : SameSettings s s') : Valid s' := by
  refine ⟨?_, ?_, ?_⟩
  · rw [hsettings.visibleDevices, hdevices]
    exact h.visible
  · rw [hsettings.selectedDevice, hdevices]
    exact h.selected
  · rw [hdevices]
    exact fun device hdevice n hn => h.fresh device hdevice n (hnext.trans hn)

/-- A device changed in place keeps what every device of the list has. -/
theorem mem_modify {f : FakeDevice → FakeDevice} {i : Nat} {devices : List FakeDevice}
    {device : FakeDevice} (h : device ∈ devices.modify i f) :
    device ∈ devices ∨ ∃ old ∈ devices, device = f old := by
  obtain ⟨j, hj⟩ := List.mem_iff_getElem?.mp h
  rw [List.getElem?_modify] at hj
  cases hold : devices[j]? with
  | none =>
      rw [hold] at hj
      cases hj
  | some old =>
      rw [hold] at hj
      have hmem := List.mem_of_getElem? hold
      have hdevice : (if i = j then f old else old) = device := Option.some_inj.mp hj
      split at hdevice
      · exact .inr ⟨old, hmem, hdevice.symm⟩
      · rw [← hdevice]
        exact .inl hmem

theorem Valid.removed (h : Valid s) {device : Nat} {id : ByteString} :
    Valid (s.removeCredential device id) := by
  have hlength : (s.removeCredential device id).devices.length = s.devices.length :=
    List.length_modify _ _ _
  refine ⟨hlength ▸ h.visible, hlength ▸ h.selected, fun found hfound n hn hsize => ?_⟩
  rcases mem_modify hfound with hold | ⟨old, hold, rfl⟩
  · exact h.fresh found hold n hn hsize
  · have hfresh := h.fresh old hold n hn hsize
    by_cases hid : credentialId n = id
    · rw [hid]
      exact Finmap.lookup_erase id old.credentials
    · rw [← hfresh]
      exact Finmap.lookup_erase_ne hid

theorem Valid.mayRemove (h : Valid s) {device : Nat} {id : ByteString}
    (hremove : MayRemove device id s s') : Valid s' := by
  rcases hremove.devices with hsame | hremoved
  · exact h.congr hsame hremove.nextId.ge hremove.settings
  · have hsettings : SameSettings (s.removeCredential device id) s' :=
      ⟨hremove.settings.visibleDevices, hremove.settings.selectedDevice⟩
    exact h.removed.congr hremoved hremove.nextId.ge hsettings

theorem Valid.seeded (h : Valid s) {credential : FakeCredential} (hseeded : Seeded s s' credential) :
    Valid s' := by
  have hlength : s'.devices.length = s.devices.length := by
    rw [hseeded.devices, List.length_modify]
  refine ⟨?_, ?_, fun device hdevice n hn hsize => ?_⟩
  · rw [hseeded.settings.visibleDevices, hlength]
    exact h.visible
  · rw [hseeded.settings.selectedDevice, hlength]
    exact h.selected
  rw [hseeded.nextId] at hn
  rw [hseeded.devices] at hdevice
  rcases mem_modify hdevice with hold | ⟨old, hold, rfl⟩
  · exact h.fresh device hold n (by omega) hsize
  · have hbounded := hseeded.bounded
    have hne : credentialId n ≠ credentialId s.nextId := by
      rw [Ne, credentialId_inj hsize (by omega)]
      omega
    exact (Finmap.lookup_insert_of_ne _ hne).trans (h.fresh old hold n (by omega) hsize)

theorem Valid.grows (h : Valid s) (hgrows : Grows s s') : Valid s' := by
  rcases hgrows with hskipped | ⟨credential, hseeded⟩
  · exact h.congr hskipped.devices hskipped.nextId hskipped.settings
  · exact h.seeded hseeded

end Valid

/-! ## The world of the protector -/

/-- **`Answers x s reply s'`** — the call, made in the state `s`, may give the reply and leave `s'`:
it showed the prompts of the reply, whatever the application answered, and did not panic. -/
def Answers {α : Type} (x : Fake α) (s : FakeBackend) (reply : DeviceReply α) (s' : FakeBackend) :
    Prop :=
  ∃ t : Trace interaction, reply.prompts = t.map Event.query ∧
    x.Runs s t (reply.result.mapError Stop.error) s'

section World

variable {s s' : FakeBackend}

/-- What a call leaves, it leaves behind its reply. -/
theorem Answers.leaves {α : Type} {x : Fake α} {reply : DeviceReply α}
    {Q : Except Stop α → FakeBackend → Prop} (h : Answers x s reply s') (hx : Leaves x s Q) :
    Q (reply.result.mapError Stop.error) s' := by
  obtain ⟨t, -, hrun⟩ := h
  exact hx t _ s' hrun

variable [Primitives] [ManagedSessions]

/-- **`Step s event s'`** — the backend in memory as the world of the protector. -/
def Step (s : FakeBackend) (event : Event host) (s' : FakeBackend) : Prop :=
  match event with
  | ⟨.random _, _⟩ | ⟨.reserve _, _⟩ | ⟨.passphrase _, _⟩ => s' = s
  | ⟨.enroll applicationId policy label operation, reply⟩ =>
    Answers (enroll applicationId policy label operation) s reply s'
  | ⟨.enrollManaged applicationId recipientId policy label operation, reply⟩ =>
    Answers (enrollManaged applicationId recipientId policy label operation) s reply s'
  | ⟨.evaluate request, reply⟩ => Answers (evaluate request) s reply s'
  | ⟨.evaluateManagedEnrollment enrollment request, reply⟩ =>
    Answers (evaluateManagedEnrollment enrollment request) s reply s'
  | ⟨.cleanupManagedEnrollment enrollment request, reply⟩ =>
    Answers (cleanupManagedEnrollment enrollment request) s reply s'
  | ⟨.verifyManaged request, reply⟩ => Answers (verifyManaged request) s reply s'
  | ⟨.retireManaged request, reply⟩ => Answers (retireManaged request) s reply s'

theorem mayRemove_cleanupManagedEnrollment (enrollment : ManagedEnrollment)
    (request : ManagedRequest) (s : FakeBackend) :
    Leaves (cleanupManagedEnrollment enrollment request) s fun _ s' =>
      ∃ device, MayRemove device request.credential.credentialId s s' := by
  unfold cleanupManagedEnrollment
  split
  · rename_i device _
    exact (leaves_cleanupManagedEnrollmentOnDevice request s).mono fun _ _ h => ⟨device, h.1⟩
  · exact leaves_throw ⟨0, (refl_of SameStore s).mayRemove⟩

omit [Primitives] [ManagedSessions] in
theorem mayRemove_retireManaged (request : ManagedRequest) (s : FakeBackend) :
    Leaves (retireManaged request) s fun _ s' =>
      ∃ device, MayRemove device request.credential.credentialId s s' := by
  refine (sameStore_select _ _ _).leaves_bind (fun _ s₁ h => ⟨0, h.mayRemove⟩) fun device s₁ h₁ => ?_
  refine (sameStore_interact _).leaves_bind
    (fun _ s₂ h => ⟨0, (trans_of SameStore h₁ h).mayRemove⟩) fun _ s₂ h₂ => ?_
  refine (leaves_retireManagedOnDevice request s₂).mono fun _ _ h => ?_
  exact ⟨device, h.1.after (trans_of SameStore h₁ h₂)⟩

/-- The query asks for a new credential. -/
def Query.Enrolls : Query → Prop
  | .enroll .. | .enrollManaged .. => True
  | _ => False

instance : DecidablePred Query.Enrolls
  | .enroll .. | .enrollManaged .. => .isTrue trivial
  | .random _ | .reserve _ | .passphrase _ | .evaluate _ | .evaluateManagedEnrollment ..
  | .cleanupManagedEnrollment .. | .verifyManaged _ | .retireManaged _ => .isFalse id

/-- **What one step of the world may do to the devices**: nothing, add a credential when one is
enrolled, or remove one. -/
theorem step_cases {event : Event host} (hstep : Step s event s') :
    SameStore s s' ∨ (Query.Enrolls event.query ∧ Grows s s') ∨ ∃ device id, MayRemove device id s s' := by
  obtain ⟨query, reply⟩ := event
  cases query with
  | random n => exact .inl (hstep ▸ refl_of SameStore s)
  | reserve blocks => exact .inl (hstep ▸ refl_of SameStore s)
  | passphrase prompt => exact .inl (hstep ▸ refl_of SameStore s)
  | enroll applicationId policy label operation =>
      exact .inr (.inl ⟨⟨⟩, Answers.leaves hstep (grows_enroll s)⟩)
  | enrollManaged applicationId recipientId policy label operation =>
      have henrolls := Answers.leaves hstep (enrolls_enrollManaged s)
      generalize reply.result.mapError Stop.error = r at henrolls
      cases henrolls with
      | enrolled hseeded => exact .inr (.inl ⟨⟨⟩, .inr ⟨_, hseeded.seeded⟩⟩)
      | failed hfailed => exact .inl hfailed
      | remains hseeded => exact .inr (.inl ⟨⟨⟩, .inr ⟨_, hseeded.seeded⟩⟩)
      | panicked hskipped => exact .inr (.inl ⟨⟨⟩, .inl hskipped⟩)
  | evaluate request => exact .inl (Answers.leaves hstep (sameStore_evaluate request s))
  | evaluateManagedEnrollment enrollment request =>
      exact .inl (Answers.leaves hstep (sameStore_evaluateManagedEnrollment enrollment request s))
  | cleanupManagedEnrollment enrollment request =>
      obtain ⟨device, hremove⟩ :=
        Answers.leaves hstep (mayRemove_cleanupManagedEnrollment enrollment request s)
      exact .inr (.inr ⟨device, _, hremove⟩)
  | verifyManaged request => exact .inl (Answers.leaves hstep (sameStore_verifyManaged request s))
  | retireManaged request =>
      obtain ⟨device, hremove⟩ := Answers.leaves hstep (mayRemove_retireManaged request s)
      exact .inr (.inr ⟨device, _, hremove⟩)

/-- **One step of the world keeps the invariant.** -/
theorem Valid.step {event : Event host} (h : Valid s) (hstep : Step s event s') : Valid s' := by
  rcases step_cases hstep with hsame | ⟨-, hgrows⟩ | ⟨device, id, hremove⟩
  · exact h.congr hsame.devices hsame.nextId.ge hsame.settings
  · exact h.grows hgrows
  · exact h.mayRemove hremove

/-! ## Reachable states -/

/-- What changes the backend: the calls of the protector, and the scenarios of a test. -/
inductive Change : FakeBackend → FakeBackend → Prop
  | call {s₁ event s₂} : Step s₁ event s₂ → Change s₁ s₂
  | failNextWith {s₁ point failure s₂} : s₁.failNextWith point failure = some s₂ → Change s₁ s₂
  | setCompatibleAuthenticators {s₁} (count : Nat) :
      Change s₁ (s₁.setCompatibleAuthenticators count)
  | selectAuthenticator {s₁ index s₂} : s₁.selectAuthenticator index = .ok s₂ → Change s₁ s₂
  | setManagedCapacity {s₁} (capacity : Nat) : Change s₁ (s₁.setManagedCapacity capacity)
  | forgetCredential {s₁} (credentialId : ByteString) : Change s₁ (s₁.forgetCredential credentialId)
  | reset {s₁} : Change s₁ new

/-- **`Reachable s`** — some sequence of calls and scenarios leads from a new backend to `s`. -/
def Reachable (s : FakeBackend) : Prop := Relation.ReflTransGen Change new s

omit [Primitives] [ManagedSessions] in
theorem valid_new : Valid new := by
  refine ⟨le_rfl, Nat.one_pos, fun device hdevice n _ _ => ?_⟩
  rw [List.mem_singleton.mp hdevice]
  exact Finmap.lookup_empty _

omit [Primitives] [ManagedSessions] in
theorem Valid.setCompatibleAuthenticators (h : Valid s) (count : Nat) :
    Valid (s.setCompatibleAuthenticators count) := by
  have hlength : (s.setCompatibleAuthenticators count).devices.length =
      s.devices.length + (count - s.devices.length) := by
    rw [FakeBackend.setCompatibleAuthenticators, List.length_append, List.length_replicate]
  have hvisible := h.visible
  have hselected := h.selected
  refine ⟨?_, ?_, fun device hdevice n hn hsize => ?_⟩
  · rw [hlength]
    show count ≤ _
    omega
  · rw [hlength]
    show (if count ≤ s.selectedDevice then 0 else s.selectedDevice) < _
    split <;> omega
  · rcases List.mem_append.mp hdevice with hold | hnew
    · exact h.fresh device hold n hn hsize
    · rw [List.eq_of_mem_replicate hnew]
      exact Finmap.lookup_empty _

omit [Primitives] [ManagedSessions] in
theorem Valid.selectAuthenticator (h : Valid s) {index : Nat}
    (hselect : s.selectAuthenticator index = .ok s') : Valid s' := by
  unfold FakeBackend.selectAuthenticator at hselect
  obtain ⟨_, hindex, hok⟩ := except_bind_eq_ok.mp hselect
  rw [except_pure_eq_ok.mp hok]
  exact ⟨h.visible, (require_eq_ok.mp hindex).trans_le h.visible, h.fresh⟩

omit [Primitives] [ManagedSessions] in
theorem Valid.setManagedCapacity (h : Valid s) (capacity : Nat) :
    Valid (s.setManagedCapacity capacity) := by
  have hlength : (s.setManagedCapacity capacity).devices.length = s.devices.length :=
    List.length_modify _ _ _
  refine ⟨hlength ▸ h.visible, hlength ▸ h.selected, fun device hdevice n hn hsize => ?_⟩
  rcases mem_modify hdevice with hold | ⟨old, hold, rfl⟩
  · exact h.fresh device hold n hn hsize
  · exact h.fresh old hold n hn hsize

theorem Valid.change (h : Valid s) (hchange : Change s s') : Valid s' := by
  cases hchange with
  | call hstep => exact h.step hstep
  | failNextWith hfail =>
      unfold FakeBackend.failNextWith at hfail
      split at hfail
      · cases hfail
      · cases hfail
        exact ⟨h.visible, h.selected, h.fresh⟩
  | setCompatibleAuthenticators count => exact h.setCompatibleAuthenticators count
  | selectAuthenticator hselect => exact h.selectAuthenticator hselect
  | setManagedCapacity capacity => exact h.setManagedCapacity capacity
  | forgetCredential credentialId => exact h.removed
  | reset => exact valid_new

theorem valid_of_reachable (h : Reachable s) : Valid s := by
  induction h with
  | refl => exact valid_new
  | tail _ hchange ih => exact ih.change hchange

end World

end FidoKeyWrap.FakeBackend
