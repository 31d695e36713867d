/-
# FidoKeyWrap.FakeRetirement — everything a retirement on a device in memory can end in.

When the application answers the prompts, the result of a retirement is a function of the state: of
the device that answers, of the credential it holds, and of the failure that is scheduled. `Retires`
lists the cases and `leaves_retireManaged_cases` says that there is no other.
-/
import FidoKeyWrap.HardwareInventory

namespace FidoKeyWrap.FakeBackend

open ByteData Interact Mutating

/-! ## Steps that move nothing -/

/-- **`Unmoved s s'`** — the devices, the settings and the scheduled failure are as before. -/
structure Unmoved (s s' : FakeBackend) : Prop where
  store : SameStore s s'
  failNext : s'.failNext = s.failNext

instance : IsPreorder FakeBackend Unmoved where
  refl s := ⟨refl_of SameStore s, rfl⟩
  trans _ _ _ h h' := ⟨trans_of SameStore h.store h'.store, h'.failNext.trans h.failNext⟩

/-- The error is that of an interaction. -/
def Interacts (stop : Stop) : Prop := ∃ e, stop = .error (.interaction e)

section Steps

variable {s : FakeBackend} {point : FailurePoint} {failure : FailureKind}

theorem unmoved_count (f : Counters → Counters) (s : FakeBackend) :
    Leaves (count f) s fun r s' => Unmoved s s' ∧ Errors r Interacts := by
  refine leaves_update_bind (leaves_pure ⟨⟨⟨rfl, rfl, rfl, rfl⟩, rfl⟩, fun e he => ?_⟩)
  cases he

theorem unmoved_interact {α : Type} (x : Interaction α) (s : FakeBackend) :
    Leaves (interact x) s fun r s' => Unmoved s s' ∧ Errors r Interacts := by
  intro t r s' hrun
  obtain ⟨hx, rfl⟩ := runs_lift.mp hrun
  refine ⟨refl_of Unmoved s', fun stop hstop => ?_⟩
  obtain ⟨r', -, rfl⟩ := Fallible.runs_mapError.mp hx
  obtain ⟨e, -, rfl⟩ := except_mapError_eq_error.mp hstop
  exact ⟨e, rfl⟩

theorem leaves_takeFailure_of_eq (h : s.failNext = some (point, failure)) :
    Leaves (takeFailure point) s fun r s' =>
      r = .ok (some failure) ∧ SameStore s s' ∧ s'.failNext = none := by
  apply leaves_get_bind
  rw [h]
  show Leaves (if point = point then _ else _) s _
  rw [if_pos rfl]
  exact leaves_set_bind (leaves_pure ⟨rfl, ⟨rfl, rfl, rfl, rfl⟩, rfl⟩)

theorem leaves_takeFailure_of_ne (h : ∀ failure, s.failNext ≠ some (point, failure)) :
    Leaves (takeFailure point) s fun r s' => r = .ok none ∧ s' = s := by
  apply leaves_get_bind
  cases hnext : s.failNext with
  | none => exact leaves_pure ⟨rfl, rfl⟩
  | some next =>
      obtain ⟨next, failure⟩ := next
      have hne : next ≠ point := fun hsame => h failure (hsame ▸ hnext)
      show Leaves (if next = point then _ else _) s _
      rw [if_neg hne]
      exact leaves_pure ⟨rfl, rfl⟩

theorem leaves_failAt_of_eq (h : s.failNext = some (point, failure)) :
    Leaves (failAt point) s fun r s' =>
      r = .error (.error failure.intoError) ∧ SameStore s s' := by
  refine leaves_bind (leaves_takeFailure_of_eq h) (fun e s' h => ?_) fun taken s' h => ?_
  · cases h.1
  · obtain ⟨hok, hsame, -⟩ := h
    cases hok
    exact leaves_throw ⟨rfl, hsame⟩

theorem leaves_failAt_of_ne (h : ∀ failure, s.failNext ≠ some (point, failure)) :
    Leaves (failAt point) s fun r s' => r = .ok () ∧ s' = s := by
  refine leaves_bind (leaves_takeFailure_of_ne h) (fun e s' h => ?_) fun taken s' h => ?_
  · cases h.1
  · obtain ⟨hok, rfl⟩ := h
    cases hok
    exact leaves_pure ⟨rfl, rfl⟩

variable {device : Nat} {held : FakeDevice} {request : ManagedRequest}

/-- A deletion that fails keeps the credential. -/
theorem leaves_deletion_of_eq (h : s.failNext = some (.retirement, failure)) :
    Leaves (deletion device request) s fun r s' =>
      r = .ok (.error failure.intoError) ∧ SameStore s s' ∧ s'.failNext = none := by
  refine leaves_bind (leaves_takeFailure_of_eq h) (fun e s' h => ?_) fun taken s' h => ?_
  · cases h.1
  · obtain ⟨hok, hrest⟩ := h
    cases hok
    exact leaves_pure ⟨rfl, hrest⟩

theorem leaves_deletion_of_ne (h : ∀ failure, s.failNext ≠ some (.retirement, failure))
    (hheld : s.devices[device]? = some held) :
    Leaves (deletion device request) s fun r s' =>
      r = .ok (.ok ()) ∧ s' = s.removeCredential device request.credential.credentialId := by
  refine leaves_bind (leaves_takeFailure_of_ne h) (fun e s' h => ?_) fun taken s' h => ?_
  · cases h.1
  · obtain ⟨hok, rfl⟩ := h
    cases hok
    apply leaves_get_bind
    rw [deviceAt_eq_ok.mpr hheld]
    refine leaves_except_bind (fun e he => ?_) fun _ _ => ?_
    · cases he
    · exact leaves_update_bind (leaves_pure ⟨rfl, rfl⟩)

theorem leaves_presence_of_eq (h : s.failNext = some (.absenceCheck, failure)) :
    Leaves (presence device request) s fun r s' =>
      r = .ok (.error failure.intoError) ∧ SameStore s s' := by
  refine leaves_bind (leaves_takeFailure_of_eq h) (fun e s' h => ?_) fun taken s' h => ?_
  · cases h.1
  · obtain ⟨hok, hsame, -⟩ := h
    cases hok
    exact leaves_pure ⟨rfl, hsame⟩

theorem leaves_presence_of_ne (h : ∀ failure, s.failNext ≠ some (.absenceCheck, failure))
    (hheld : s.devices[device]? = some held) :
    Leaves (presence device request) s fun r s' =>
      r = .ok (.ok (held.credentials.lookup request.credential.credentialId).isSome) ∧ s' = s := by
  refine leaves_bind (leaves_takeFailure_of_ne h) (fun e s' h => ?_) fun taken s' h => ?_
  · cases h.1
  · obtain ⟨hok, rfl⟩ := h
    cases hok
    apply leaves_get_bind
    rw [deviceAt_eq_ok.mpr hheld]
    exact leaves_pure ⟨rfl, rfl⟩

end Steps

/-! ## The cases -/

/-- The stage of a retirement at which a failure is scheduled, if one is. -/
def AtRetirement (s : FakeBackend) : Prop :=
  ∀ point failure, s.failNext = some (point, failure) →
    point = .assertion ∨ point = .retirement ∨ point = .absenceCheck

/-- **`Retires s request r s'`** — what a retirement ends in, in the order in which the source looks:
no device answers; the assertion fails; the credential is not the one of the request; the deletion
fails; or the credential is removed, and the absence check may still fail. -/
inductive Retires (s : FakeBackend) (request : ManagedRequest) :
    Except Stop Unit → FakeBackend → Prop
  | invisible {s'} : s.visibleDevices = 0 → s'.devices = s.devices →
      Retires s request (.error (.error .noCompatibleAuthenticator)) s'
  | refused {failure s'} : s.visibleDevices ≠ 0 → s.failNext = some (.assertion, failure) →
      s'.devices = s.devices → Retires s request (.error (.error failure.intoError)) s'
  | unmatched {stop s'} : s.visibleDevices ≠ 0 →
      (∀ failure, s.failNext ≠ some (.assertion, failure)) →
      s.managedCredential s.selectedDevice request = .error stop → s'.devices = s.devices →
      Retires s request (.error stop) s'
  | kept {credential failure s'} : s.visibleDevices ≠ 0 →
      s.managedCredential s.selectedDevice request = .ok credential →
      s.failNext = some (.retirement, failure) → s'.devices = s.devices →
      Retires s request (.error (.error failure.intoError)) s'
  | unchecked {credential failure s'} : s.visibleDevices ≠ 0 →
      s.managedCredential s.selectedDevice request = .ok credential →
      s.failNext = some (.absenceCheck, failure) →
      s'.devices =
        (s.removeCredential s.selectedDevice request.credential.credentialId).devices →
      Retires s request
        ((retirementResult (.ok ()) (.error failure.intoError)).mapError Stop.error) s'
  | removed {credential s'} : s.visibleDevices ≠ 0 →
      s.managedCredential s.selectedDevice request = .ok credential → s.failNext = none →
      s'.devices =
        (s.removeCredential s.selectedDevice request.credential.credentialId).devices →
      Retires s request (.ok ()) s'

section Retirement

variable {s s₁ s' : FakeBackend} {request : ManagedRequest} {r : Except Stop Unit}

theorem Retires.after (hunmoved : Unmoved s s₁) (h : Retires s₁ request r s') :
    Retires s request r s' := by
  have hdevices := hunmoved.store.devices
  have hselected := hunmoved.store.settings.selectedDevice
  have hmanaged (device : Nat) : s₁.managedCredential device request =
      s.managedCredential device request := managedCredential_congr hdevices
  have hremove (device : Nat) (id : ByteString) :
      (s₁.removeCredential device id).devices = (s.removeCredential device id).devices :=
    removeCredential_devices hunmoved.store
  have hvisible := hunmoved.store.settings.visibleDevices
  have hfail := hunmoved.failNext
  cases h with
  | invisible hv hd => exact .invisible (hvisible ▸ hv) (hd.trans hdevices)
  | refused hv hf hd => exact .refused (hvisible ▸ hv) (hfail ▸ hf) (hd.trans hdevices)
  | unmatched hv hf hm hd =>
      rw [hmanaged, hselected] at hm
      exact .unmatched (hvisible ▸ hv) (hfail ▸ hf) hm (hd.trans hdevices)
  | kept hv hm hf hd =>
      rw [hmanaged, hselected] at hm
      exact .kept (hvisible ▸ hv) hm (hfail ▸ hf) (hd.trans hdevices)
  | unchecked hv hm hf hd =>
      rw [hmanaged, hselected] at hm
      rw [hremove, hselected] at hd
      exact .unchecked (hvisible ▸ hv) hm (hfail ▸ hf) hd
  | removed hv hm hf hd =>
      rw [hmanaged, hselected] at hm
      rw [hremove, hselected] at hd
      exact .removed (hvisible ▸ hv) hm (hfail ▸ hf) hd

/-- The deletion and the absence check. -/
theorem leaves_deletion_presence {credential : FakeCredential} (hvisible : s.visibleDevices ≠ 0)
    (hmanaged : s.managedCredential s.selectedDevice request = .ok credential)
    (hassertion : ∀ failure, s.failNext ≠ some (.assertion, failure)) (hat : AtRetirement s) :
    Leaves (do
      let deleted ← deletion s.selectedDevice request
      let present ← presence s.selectedDevice request
      (retirementResult deleted present).mapError Stop.error : Fake Unit) s
      (Retires s request) := by
  obtain ⟨held, hheld, hlookup, -⟩ := managedCredential_eq_ok.mp hmanaged
  by_cases hretirement : ∃ failure, s.failNext = some (.retirement, failure)
  · -- the deletion fails, and the absence check finds the credential
    obtain ⟨failure, hfailure⟩ := hretirement
    refine leaves_bind (leaves_deletion_of_eq hfailure) (fun e s₁ h => ?_) fun deleted s₁ h => ?_
    · cases h.1
    obtain ⟨hok, hsame, hnone⟩ := h
    cases hok
    have hheld₁ : s₁.devices[s.selectedDevice]? = some held := hsame.devices ▸ hheld
    refine leaves_bind (leaves_presence_of_ne (by simp [hnone]) hheld₁) (fun e s₂ h => ?_)
      fun present s₂ h => ?_
    · cases h.1
    obtain ⟨hok, rfl⟩ := h
    cases hok
    rw [hlookup]
    exact leaves_except (.kept hvisible hmanaged hfailure hsame.devices)
  · -- the credential is removed, and the absence check may fail
    have hnot : ∀ failure, s.failNext ≠ some (.retirement, failure) :=
      fun failure h => hretirement ⟨failure, h⟩
    refine leaves_bind (leaves_deletion_of_ne hnot hheld) (fun e s₁ h => ?_) fun deleted s₁ h => ?_
    · cases h.1
    obtain ⟨hok, rfl⟩ := h
    cases hok
    by_cases habsence : ∃ failure, s.failNext = some (.absenceCheck, failure)
    · obtain ⟨failure, hfailure⟩ := habsence
      refine leaves_bind (leaves_presence_of_eq hfailure) (fun e s₁ h => ?_)
        fun present s₁ h => ?_
      · cases h.1
      obtain ⟨hok, hsame⟩ := h
      cases hok
      exact leaves_except (.unchecked hvisible hmanaged hfailure hsame.devices)
    · have hnone : s.failNext = none := by
        cases hnext : s.failNext with
        | none => rfl
        | some next =>
            obtain ⟨point, failure⟩ := next
            rcases hat point failure hnext with rfl | rfl | rfl
            · exact absurd hnext (hassertion failure)
            · exact absurd hnext (hnot failure)
            · exact absurd ⟨failure, hnext⟩ habsence
      have hfound : (s.removeCredential s.selectedDevice
          request.credential.credentialId).devices[s.selectedDevice]? = some { held with
            credentials := held.credentials.erase request.credential.credentialId } := by
        show (s.devices.modify s.selectedDevice _)[s.selectedDevice]? = _
        rw [List.getElem?_modify_eq, hheld]
        rfl
      refine leaves_bind (leaves_presence_of_ne (fun failure h => habsence ⟨failure, h⟩) hfound)
        (fun e s₁ h => ?_) fun present s₁ h => ?_
      · cases h.1
      obtain ⟨hok, rfl⟩ := h
      cases hok
      rw [Finmap.lookup_erase]
      exact leaves_except (.removed hvisible hmanaged hnone rfl)

/-- An interaction failed, or the retirement ended in one of the cases. -/
def Ended (s : FakeBackend) (request : ManagedRequest) (r : Except Stop Unit) (s' : FakeBackend) :
    Prop :=
  (∃ stop, r = .error stop ∧ Interacts stop) ∨ Retires s request r s'

theorem Ended.after (hunmoved : Unmoved s s₁) (h : Ended s₁ request r s') : Ended s request r s' :=
  h.imp_right (Retires.after hunmoved)

/-- A step that moves nothing, and what follows it. -/
theorem ended_bind {α : Type} {x : Fake α} {f : α → Fake Unit}
    (hx : Leaves x s fun r s' => Unmoved s s' ∧ Errors r Interacts)
    (hf : ∀ a s₁, Unmoved s s₁ → Leaves (f a) s₁ (Ended s₁ request)) :
    Leaves (x >>= f) s (Ended s request) := by
  refine leaves_bind hx (fun e s' h => .inl ⟨e, rfl, h.2 e rfl⟩) fun a s₁ h => ?_
  exact (hf a s₁ h.1).mono fun _ _ => Ended.after h.1

/-- The assertion, the deletion and the absence check. -/
theorem leaves_retireManagedOnDevice_cases (hvisible : s.visibleDevices ≠ 0)
    (hat : AtRetirement s) :
    Leaves (retireManagedOnDevice s.selectedDevice request) s (Ended s request) := by
  have hverified : ∀ s₁, AtRetirement s₁ → ∀ failure,
      s₁.failNext ≠ some (.verifiedResponse, failure) := by
    intro s₁ hat₁ failure h
    rcases hat₁ _ _ h with h | h | h <;> cases h
  unfold retireManagedOnDevice touchAndVerifyManaged
  simp only [bind_assoc]
  refine ended_bind (unmoved_interact _ s) fun _ s₁ h₁ => ?_
  refine ended_bind (unmoved_count _ s₁) fun _ s₂ h₂ => ?_
  have hunmoved : Unmoved s s₂ := trans_of Unmoved h₁ h₂
  have hselected : s.selectedDevice = s₂.selectedDevice := hunmoved.store.settings.selectedDevice.symm
  have hvisible₂ : s₂.visibleDevices ≠ 0 := hunmoved.store.settings.visibleDevices ▸ hvisible
  have hat₂ : AtRetirement s₂ := by
    intro point failure h
    exact hat point failure (hunmoved.failNext ▸ h)
  rw [hselected]
  by_cases hassertion : ∃ failure, s₂.failNext = some (.assertion, failure)
  · obtain ⟨failure, hfailure⟩ := hassertion
    refine leaves_bind (leaves_failAt_of_eq hfailure) (fun e s₃ h => ?_) fun _ s₃ h => ?_
    · obtain ⟨he, hsame⟩ := h
      cases he
      exact .inr (.refused hvisible₂ hfailure hsame.devices)
    · cases h.1
  have hnot : ∀ failure, s₂.failNext ≠ some (.assertion, failure) :=
    fun failure h => hassertion ⟨failure, h⟩
  refine leaves_bind (leaves_failAt_of_ne hnot) (fun e s₃ h => ?_) fun _ s₃ h => ?_
  · cases h.1
  obtain ⟨-, rfl⟩ := h
  refine leaves_bind (leaves_failAt_of_ne (hverified _ hat₂)) (fun e s₄ h => ?_) fun _ s₄ h => ?_
  · cases h.1
  obtain ⟨-, rfl⟩ := h
  apply leaves_get_bind
  refine leaves_except_bind (fun e he => .inr (.unmatched hvisible₂ hnot he rfl))
    fun credential hcredential => ?_
  rw [pure_bind]
  refine ended_bind (unmoved_count _ _) fun _ s₅ h₅ => ?_
  have hselected₅ := h₅.store.settings.selectedDevice
  have hmanaged : s₅.managedCredential s₅.selectedDevice request = .ok credential := by
    rw [hselected₅, managedCredential_congr h₅.store.devices]
    exact hcredential
  rw [← hselected₅]
  refine (leaves_deletion_presence ?_ hmanaged ?_ ?_).mono fun _ _ => .inr
  · exact h₅.store.settings.visibleDevices ▸ hvisible₂
  · exact h₅.failNext ▸ hnot
  · intro point failure h
    exact hat₂ point failure (h₅.failNext ▸ h)

/-- **Every end of a retirement is one of the cases**, unless an interaction failed. -/
theorem leaves_retireManaged_cases (hat : AtRetirement s) :
    Leaves (retireManaged request) s (Ended s request) := by
  have hselection : ∀ s₁, AtRetirement s₁ → ∀ failure,
      s₁.failNext ≠ some (.selection, failure) := by
    intro s₁ hat₁ failure h
    rcases hat₁ _ _ h with h | h | h <;> cases h
  unfold retireManaged select
  simp only [bind_assoc]
  refine ended_bind (unmoved_count _ s) fun _ s₁ h₁ => ?_
  have hat₁ : AtRetirement s₁ := by
    intro point failure h
    exact hat point failure (h₁.failNext ▸ h)
  refine leaves_bind (leaves_failAt_of_ne (hselection s₁ hat₁)) (fun e s₂ h => ?_) fun _ s₂ h => ?_
  · cases h.1
  obtain ⟨-, rfl⟩ := h
  apply leaves_get_bind
  refine leaves_except_bind (fun e he => ?_) fun _ hvisible => ?_
  · obtain ⟨hnot, rfl⟩ := require_eq_error.mp he
    exact .inr (.invisible (not_not.mp hnot) rfl)
  rw [require_eq_ok] at hvisible
  have htouch : Leaves (s₂.selectionTouch request.operation request.credential.label
      request.credential.policy) s₂ fun r s' => Unmoved s₂ s' ∧ Errors r Interacts := by
    unfold selectionTouch
    split
    · exact unmoved_interact _ _
    · exact leaves_pure ⟨refl_of Unmoved s₂, fun e he => by cases he⟩
  refine ended_bind htouch fun _ s₃ h₃ => ?_
  rw [pure_bind]
  refine ended_bind (unmoved_interact _ s₃) fun _ s₄ h₄ => ?_
  have hunmoved : Unmoved s₂ s₄ := trans_of Unmoved h₃ h₄
  rw [← hunmoved.store.settings.selectedDevice]
  refine leaves_retireManagedOnDevice_cases ?_ ?_
  · exact hunmoved.store.settings.visibleDevices ▸ hvisible
  · intro point failure h
    exact hat₁ point failure (hunmoved.failNext ▸ h)

end Retirement

end FidoKeyWrap.FakeBackend
