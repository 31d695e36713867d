/-
# FidoKeyWrap.FakeInventory — how many credentials a device in memory holds, and of what shape.

A test may set the capacity of a device to 256 at most, and a managed enrollment looks at it before
it adds a credential. So no device a test can reach holds more managed credentials than that; each of
them has a user, and every id has the one length that the backend gives it.
-/
import FidoKeyWrap.FakeAuthenticator

namespace FidoKeyWrap

open ByteData Interact

/-- How many managed credentials the device holds. -/
def FakeDevice.managedCount (device : FakeDevice) : Nat :=
  device.credentials.entries.countP fun entry => entry.2.storage = .managed

/-- **`Shaped`** — the device holds a bounded number of managed credentials, each of a user, and its
ids are those of the backend. -/
structure FakeDevice.Shaped (device : FakeDevice) : Prop where
  capacity : device.managedCapacity ≤ FakeAuthenticator.maxManagedCapacity
  bounded : device.managedCount ≤ FakeAuthenticator.maxManagedCapacity
  ids : ∀ id credential, device.credentials.lookup id = some credential →
    ∃ n, id = FakeBackend.credentialId n
  users : ∀ id credential, device.credentials.lookup id = some credential →
    credential.storage = .managed → ∃ user, credential.userId = some user

namespace FakeBackend

open Mutating

/-- Every device is shaped. -/
def Orderly (s : FakeBackend) : Prop := ∀ device ∈ s.devices, device.Shaped

/-! ## One device -/

section Device

variable {device : FakeDevice} {credential : FakeCredential} {id : ByteString}

theorem shaped_new : FakeDevice.new.Shaped where
  capacity := by decide
  bounded := Nat.zero_le _
  ids _ _ h := by cases h
  users _ _ h := by cases h

theorem orderly_new : Orderly new := by
  intro device hdevice
  rw [List.mem_singleton.mp hdevice]
  exact shaped_new

theorem length_credentialId (n : Nat) : (credentialId n).length = 32 := by
  have hlabel : (utf8 "fake-credential-format-1").length = 24 := by decide
  rw [credentialId, List.length_append, hlabel, (Bytes.ofNat 8 n).length_eq]

/-- A removal leaves no more. -/
theorem shaped_erase (h : device.Shaped) :
    FakeDevice.Shaped { device with credentials := device.credentials.erase id } where
  capacity := h.capacity
  bounded := by
    have hle : (device.credentials.erase id).entries ≤ device.credentials.entries := by
      induction device.credentials using Finmap.induction_on with
      | _ a => exact Multiset.coe_le.mpr (List.kerase_sublist id a.entries).subperm
    exact (Multiset.countP_le_of_le _ hle).trans h.bounded
  ids id' found hfound := by
    by_cases hid : id' = id
    · subst hid
      rw [Finmap.lookup_erase] at hfound
      cases hfound
    · rw [Finmap.lookup_erase_ne hid] at hfound
      exact h.ids id' found hfound
  users id' found hfound := by
    by_cases hid : id' = id
    · subst hid
      rw [Finmap.lookup_erase] at hfound
      cases hfound
    · rw [Finmap.lookup_erase_ne hid] at hfound
      exact h.users id' found hfound

/-- A new credential needs a place, when it is a managed one, and a user. -/
theorem shaped_insert {n : Nat} (h : device.Shaped)
    (hfresh : device.credentials.lookup (credentialId n) = none)
    (hplace : credential.storage = .managed → device.managedCount < device.managedCapacity ∧
      ∃ user, credential.userId = some user) :
    FakeDevice.Shaped
      { device with credentials := device.credentials.insert (credentialId n) credential } where
  capacity := h.capacity
  bounded := by
    have hentries := Finmap.entries_insert_of_notMem (b := credential)
      (Finmap.lookup_eq_none.mp hfresh)
    have hcapacity := h.capacity
    have hbounded := h.bounded
    unfold FakeDevice.managedCount at hplace hbounded ⊢
    rw [hentries, Multiset.countP_cons]
    by_cases hmanaged : credential.storage = .managed
    · have hspace := (hplace hmanaged).1
      rw [if_pos hmanaged]
      omega
    · rw [if_neg hmanaged]
      exact hbounded
  ids id' found hfound := by
    by_cases hid : id' = credentialId n
    · exact ⟨n, hid⟩
    · rw [Finmap.lookup_insert_of_ne _ hid] at hfound
      exact h.ids id' found hfound
  users id' found hfound hmanaged := by
    by_cases hid : id' = credentialId n
    · subst hid
      rw [Finmap.lookup_insert] at hfound
      cases hfound
      exact (hplace hmanaged).2
    · rw [Finmap.lookup_insert_of_ne _ hid] at hfound
      exact h.users id' found hfound hmanaged

end Device

/-! ## Every step -/

section Orderly

variable {s s₁ s' : FakeBackend} {applicationId : ApplicationId} {recipientId : RecipientId}
  {policy : FidoPolicy} {label : String} {operation : Operation} {i : Nat} {id : ByteString}

theorem Orderly.congr (h : Orderly s) (hdevices : s'.devices = s.devices) : Orderly s' := by
  unfold Orderly
  rw [hdevices]
  exact h

theorem Orderly.updateDevice {f : FakeDevice → FakeDevice} (h : Orderly s)
    (hf : ∀ device, s.devices[i]? = some device → (f device).Shaped) :
    Orderly (s.updateDevice i f) := by
  intro device hdevice
  obtain ⟨j, hj⟩ := List.mem_iff_getElem?.mp hdevice
  rw [FakeBackend.updateDevice, List.getElem?_modify] at hj
  obtain ⟨old, hold, hnew⟩ := Option.map_eq_some_iff.mp hj
  by_cases hi : i = j
  · subst hi
    rw [if_pos rfl] at hnew
    exact hnew ▸ hf old hold
  · rw [if_neg hi] at hnew
    exact hnew ▸ h old (List.mem_of_getElem? hold)

theorem Orderly.removed (h : Orderly s) : Orderly (s.removeCredential i id) :=
  h.updateDevice fun device hdevice => shaped_erase (h device (List.mem_of_getElem? hdevice))

theorem Orderly.mayRemove (h : Orderly s) (hremove : MayRemove i id s s') : Orderly s' := by
  rcases hremove.devices with hsame | hremoved
  · exact h.congr hsame
  · exact h.removed.congr hremoved

/-- **`Adds s s'`** — a credential was added to the selected device, which had a place for it. -/
def Adds (s s' : FakeBackend) : Prop :=
  ∃ credential, Seeded s s' credential ∧ (credential.storage = .managed →
    (∃ device, s.devices[s.selectedDevice]? = some device ∧
      device.managedCount < device.managedCapacity) ∧ ∃ user, credential.userId = some user)

theorem Adds.after (hsame : SameStore s s₁) (h : Adds s₁ s') : Adds s s' := by
  obtain ⟨credential, hseeded, hplace⟩ := h
  rw [hsame.devices, hsame.settings.selectedDevice] at hplace
  exact ⟨credential, hseeded.after hsame, hplace⟩

theorem Orderly.adds (h : Orderly s) (hvalid : Valid s) (hadds : Adds s s') : Orderly s' := by
  obtain ⟨credential, hseeded, hplace⟩ := hadds
  have hsize : s.nextId < UInt64.size := Nat.lt_of_succ_lt hseeded.bounded
  refine (h.updateDevice fun device hdevice => ?_).congr hseeded.devices
  have hmem := List.mem_of_getElem? hdevice
  refine shaped_insert (h device hmem) (hvalid.fresh device hmem _ le_rfl hsize) fun hmanaged => ?_
  obtain ⟨⟨found, hfound, hspace⟩, huser⟩ := hplace hmanaged
  rw [hdevice] at hfound
  cases hfound
  exact ⟨hspace, huser⟩

variable [Primitives]

/-- What an enrollment adds is not managed. -/
theorem adds_enroll : ∀ s, Leaves (enroll applicationId policy label operation) s fun _ s' =>
    s'.devices = s.devices ∨ Adds s s' := by
  have hafter (s s₁ : FakeBackend) (r : Except Stop CredentialMaterial) (s' : FakeBackend)
      (hsame : SameStore s s₁) (h : s'.devices = s₁.devices ∨ Adds s₁ s') :
      s'.devices = s.devices ∨ Adds s s' :=
    h.imp (fun h => h.trans hsame.devices) (Adds.after hsame)
  have hstop (s : FakeBackend) (e : Stop) (s' : FakeBackend) (h : SameStore s s') :
      s'.devices = s.devices ∨ Adds s s' := .inl h.devices
  refine (sameStore_select _ _ _).leaves_then hafter hstop fun _ => ?_
  refine (sameStore_interact _).leaves_then hafter hstop fun _ => ?_
  refine (sameStore_interact _).leaves_then hafter hstop fun _ => ?_
  refine (sameStore_count _).leaves_then hafter hstop fun _ => ?_
  refine (sameStore_failAt _).leaves_then hafter hstop fun _ => ?_
  refine (sameStore_failAt _).leaves_then hafter hstop fun _ => ?_
  intro s
  refine (leaves_seedCredentialWithStorage s).mono fun r s' hseed => ?_
  rcases hseed with ⟨credential, -, hseeded⟩ | ⟨-, hskipped⟩
  · refine .inr ⟨credential, hseeded.seeded, fun hmanaged => ?_⟩
    rw [hseeded.storage] at hmanaged
    cases hmanaged
  · exact .inl hskipped.devices

variable [ManagedSessions]

/-- A managed enrollment looks for a place first. -/
theorem adds_enrollManaged (s : FakeBackend) :
    Leaves (enrollManaged applicationId recipientId policy label operation) s fun _ s' =>
      s'.devices = s.devices ∨ Adds s s' := by
  refine leaves_bind (leaves_select _ _ _ s) (fun e s₁ h => .inl h.1.devices)
    fun device s₁ ⟨h, hdevice⟩ => ?_
  obtain rfl := hdevice device rfl
  refine (sameStore_interact _).leaves_bind
    (fun e s₂ h₂ => .inl (trans_of SameStore h h₂).devices) fun _ s₂ h₂ => ?_
  have h := trans_of SameStore h h₂
  refine (sameStore_interact _).leaves_bind
    (fun e s₃ h₃ => .inl (trans_of SameStore h h₃).devices) fun _ s₃ h₃ => ?_
  have h := trans_of SameStore h h₃
  refine (sameStore_count _).leaves_bind
    (fun e s₄ h₄ => .inl (trans_of SameStore h h₄).devices) fun _ s₄ h₄ => ?_
  have h := trans_of SameStore h h₄
  apply leaves_get_bind
  refine leaves_except_bind (fun e _ => .inl h.devices) fun found hfound => ?_
  refine leaves_except_bind (fun e _ => .inl h.devices) fun _ hspace => ?_
  rw [deviceAt_eq_ok, h.devices] at hfound
  have hplace : ∃ device, s.devices[s.selectedDevice]? = some device ∧
      device.managedCount < device.managedCapacity := ⟨found, hfound, require_eq_ok.mp hspace⟩
  refine (sameStore_takeFailure _).leaves_bind
    (fun e s₅ h₅ => .inl (trans_of SameStore h h₅).devices) fun taken s₅ h₅ => ?_
  have h := trans_of SameStore h h₅
  have hadds {credential : FakeCredential} {s' : FakeBackend}
      (hseeded : SeededAs s₅ s' applicationId policy .managed (some recipientId) credential) :
      Adds s s' := ⟨credential, hseeded.seeded.after h, fun _ => ⟨hplace, _, hseeded.user⟩⟩
  cases taken with
  | some failure =>
      refine leaves_bind (leaves_failedManagedEnrollment failure) (fun e s₆ h₆ => ?_) fun _ s₆ h₆ => ?_
      · rcases h₆ with ⟨hok, -⟩ | ⟨-, ⟨credential, hok, -⟩ | ⟨-, hskipped⟩⟩
        · cases hok
        · cases hok
        · exact .inl (hskipped.devices.trans h.devices)
      · apply leaves_throw
        rcases h₆ with ⟨-, hsame⟩ | ⟨-, ⟨credential, -, hseeded⟩ | ⟨-, hskipped⟩⟩
        · exact .inl (hsame.devices.trans h.devices)
        · exact .inr (hadds hseeded)
        · exact .inl (hskipped.devices.trans h.devices)
  | none =>
      refine leaves_bind (leaves_seedCredentialWithStorage s₅) (fun e s₆ h₆ => ?_)
        fun material s₆ h₆ => ?_
      · rcases h₆ with ⟨credential, hok, -⟩ | ⟨-, hskipped⟩
        · cases hok
        · exact .inl (hskipped.devices.trans h.devices)
      · apply leaves_pure
        rcases h₆ with ⟨credential, -, hseeded⟩ | ⟨-, hskipped⟩
        · exact .inr (hadds hseeded)
        · exact .inl (hskipped.devices.trans h.devices)

/-- **One step of the world keeps the devices orderly.** -/
theorem Orderly.step {event : Event host} (h : Orderly s) (hvalid : Valid s)
    (hstep : Step s event s') : Orderly s' := by
  have hgrows (hadds : s'.devices = s.devices ∨ Adds s s') : Orderly s' := by
    rcases hadds with hsame | hadds
    · exact h.congr hsame
    · exact h.adds hvalid hadds
  rcases step_cases hstep with hsame | ⟨henrolls, -⟩ | ⟨device, id, hremove⟩
  · exact h.congr hsame.devices
  · obtain ⟨query, reply⟩ := event
    cases query with
    | enroll applicationId policy label operation =>
        exact hgrows (Answers.leaves hstep (adds_enroll s))
    | enrollManaged applicationId recipientId policy label operation =>
        exact hgrows (Answers.leaves hstep (adds_enrollManaged s))
    | _ => exact henrolls.elim
  · exact h.mayRemove hremove

end Orderly

/-- **In every state a test reaches, the devices are orderly.** -/
theorem stable_orderly [Primitives] [ManagedSessions] {allows : FakeBackend → Event host → Prop} :
    FakeAuthenticator.Stable allows fun s => Valid s ∧ Orderly s where
  step _ _ _ _ hstep h := ⟨h.1.step hstep, h.2.step h.1 hstep⟩
  count s count h := by
    refine ⟨h.1.setCompatibleAuthenticators count, fun device hdevice => ?_⟩
    rcases List.mem_append.mp hdevice with hold | hnew
    · exact h.2 device hold
    · rw [List.eq_of_mem_replicate hnew]
      exact shaped_new
  select s index s' hselect h := by
    refine ⟨h.1.selectAuthenticator hselect, ?_⟩
    obtain ⟨_, -, hok⟩ := except_bind_eq_ok.mp hselect
    rw [except_pure_eq_ok.mp hok]
    exact h.2
  capacity s capacity hbound h := by
    refine ⟨h.1.setManagedCapacity capacity, h.2.updateDevice fun device hdevice => ?_⟩
    have hshaped := h.2 device (List.mem_of_getElem? hdevice)
    exact ⟨hbound, hshaped.bounded, hshaped.ids, hshaped.users⟩
  fail _ _ h := ⟨⟨h.1.visible, h.1.selected, h.1.fresh⟩, h.2⟩
  forget _ _ h := ⟨h.1.removed, h.2.removed⟩
  new := ⟨valid_new, orderly_new⟩

end FakeBackend

theorem FakeAuthenticator.orderly_of_reachable [Primitives] [ManagedSessions]
    {applicationId : ApplicationId} {self : FakeAuthenticator} (h : Reachable applicationId self) :
    self.backend.Valid ∧ self.backend.Orderly :=
  FakeBackend.stable_orderly.uses h ⟨FakeBackend.valid_new, FakeBackend.orderly_new⟩

end FidoKeyWrap
