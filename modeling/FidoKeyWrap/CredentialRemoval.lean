/-
# FidoKeyWrap.CredentialRemoval — when a removed test credential stays removed.

Nothing appears on the devices in memory but the credential of the next number, and only an
enrollment puts it there (`holds_of_step`). So a credential that no device holds stays away until an
enrollment is given its number again, and without it every unlock through its recipient fails. A
retirement takes the credential from the one device that holds it. Forgetting a recipient looks at the
answering device alone, and clearing sets the counter back: these are the two ways in which a removed
credential returns.
-/
import FidoKeyWrap.FakeAuthenticator
import FidoKeyWrap.Unlock

namespace FidoKeyWrap

open ByteData Interact

namespace FakeBackend

open Mutating

/-! ## Where a credential is -/

/-- **`Holds s i id`** — the device with the index holds the credential. -/
def Holds (s : FakeBackend) (i : Nat) (id : ByteString) : Prop :=
  ∃ device : FakeDevice, s.devices[i]? = some device ∧
    ∃ credential, device.credentials.lookup id = some credential

/-- **`Gone id s`** — no device holds the credential. -/
def Gone (id : ByteString) (s : FakeBackend) : Prop := ∀ i, ¬ s.Holds i id

/-- **`Alone id s`** — no device but the answering one holds the credential. -/
def Alone (id : ByteString) (s : FakeBackend) : Prop := ∀ i, i ≠ s.selectedDevice → ¬ s.Holds i id

/-- No credential is on two devices. -/
def Apart (s : FakeBackend) : Prop := ∀ i j id, s.Holds i id → s.Holds j id → i = j

/-- **`Issues s s' i id`** — the credential of the next number came to the answering device. -/
structure Issues (s s' : FakeBackend) (i : Nat) (id : ByteString) : Prop where
  selected : i = s.selectedDevice
  id : id = credentialId s.nextId
  bounded : s.nextId < UInt64.size
  passed : s.nextId < s'.nextId

section Holds

variable {s s' : FakeBackend} {i j : Nat} {id key : ByteString}

theorem holds_congr (h : s'.devices = s.devices) : s'.Holds i id ↔ s.Holds i id := by
  unfold Holds
  rw [h]

theorem holds_removeCredential :
    (s.removeCredential j key).Holds i id ↔ s.Holds i id ∧ ¬ (i = j ∧ id = key) := by
  unfold Holds
  rw [removeCredential, updateDevice, List.getElem?_modify]
  cases hdevice : s.devices[i]? with
  | none => simp
  | some device =>
      by_cases hi : j = i
      · subst hi
        by_cases hid : id = key
        · subst hid
          simp [Finmap.lookup_erase]
        · simp [Finmap.lookup_erase_ne hid, hid]
      · simp [hi, Ne.symm hi]

theorem holds_of_mayRemove (h : MayRemove j key s s') (hholds : s'.Holds i id) : s.Holds i id := by
  rcases h.devices with hsame | hremoved
  · exact (holds_congr hsame).mp hholds
  · exact (holds_removeCredential.mp ((holds_congr hremoved).mp hholds)).1

theorem holds_of_seeded {credential : FakeCredential} (h : Seeded s s' credential)
    (hholds : s'.Holds i id) : s.Holds i id ∨ Issues s s' i id := by
  obtain ⟨device', hdevice', found, hfound⟩ := hholds
  rw [h.devices, List.getElem?_modify] at hdevice'
  obtain ⟨device, hdevice, hsame⟩ := Option.map_eq_some_iff.mp hdevice'
  subst hsame
  by_cases hi : s.selectedDevice = i
  · rw [if_pos hi] at hfound
    by_cases hid : id = credentialId s.nextId
    · have hpassed : s.nextId < s'.nextId := by
        rw [h.nextId]
        exact Nat.lt_succ_self s.nextId
      exact .inr ⟨hi.symm, hid, Nat.lt_of_succ_lt h.bounded, hpassed⟩
    · rw [Finmap.lookup_insert_of_ne _ hid] at hfound
      exact .inl ⟨device, hdevice, found, hfound⟩
  · rw [if_neg hi] at hfound
    exact .inl ⟨device, hdevice, found, hfound⟩

theorem holds_of_grows (h : Grows s s') (hholds : s'.Holds i id) : s.Holds i id ∨ Issues s s' i id := by
  rcases h with hskipped | ⟨credential, hseeded⟩
  · exact .inl ((holds_congr hskipped.devices).mp hholds)
  · exact holds_of_seeded hseeded hholds

theorem holds_of_setCompatibleAuthenticators {count : Nat}
    (h : (s.setCompatibleAuthenticators count).Holds i id) : s.Holds i id := by
  obtain ⟨device, hdevice, found, hfound⟩ := h
  rw [FakeBackend.setCompatibleAuthenticators] at hdevice
  by_cases hi : i < s.devices.length
  · rw [List.getElem?_append_left hi] at hdevice
    exact ⟨device, hdevice, found, hfound⟩
  · -- a new device is empty
    rw [List.getElem?_append_right (Nat.le_of_not_lt hi)] at hdevice
    rw [List.eq_of_mem_replicate (List.mem_of_getElem? hdevice)] at hfound
    cases hfound

theorem holds_setManagedCapacity {capacity : Nat} :
    (s.setManagedCapacity capacity).Holds i id ↔ s.Holds i id := by
  unfold Holds
  rw [FakeBackend.setManagedCapacity, updateDevice, List.getElem?_modify]
  cases s.devices[i]? with
  | none => simp
  | some device =>
      by_cases hi : s.selectedDevice = i <;> simp [hi]

/-- **Forgetting removes a credential from every device** exactly when the answering one alone holds
it. -/
theorem gone_forgetCredential_iff : Gone id (s.forgetCredential id) ↔ Alone id s := by
  constructor
  · exact fun hgone i hi hholds => hgone i (holds_removeCredential.mpr ⟨hholds, fun h => hi h.1⟩)
  · intro halone i hholds
    obtain ⟨hold, hnot⟩ := holds_removeCredential.mp hholds
    by_cases hi : i = s.selectedDevice
    · exact hnot ⟨hi, rfl⟩
    · exact halone i hi hold

theorem gone_new : Gone id new := by
  rintro i ⟨device, hdevice, found, hfound⟩
  have hmem := List.mem_singleton.mp (List.mem_of_getElem? hdevice)
  rw [hmem] at hfound
  cases hfound

/-- A number to come is on no device. -/
theorem Valid.not_holds (h : Valid s) {n : Nat} (hn : s.nextId ≤ n) (hsize : n < UInt64.size) :
    ¬ s.Holds i (credentialId n) := by
  rintro ⟨device, hdevice, found, hfound⟩
  rw [h.fresh device (List.mem_of_getElem? hdevice) n hn hsize] at hfound
  cases hfound

end Holds

/-! ## What a call does to it -/

section Step

variable [Primitives] [ManagedSessions] {s s' : FakeBackend} {i : Nat} {id : ByteString}

/-- **Nothing appears but the next credential**, and only an enrollment puts it there. -/
theorem holds_of_step {event : Event host} (hstep : Step s event s') (hholds : s'.Holds i id) :
    s.Holds i id ∨ Query.Enrolls event.query ∧ Issues s s' i id := by
  rcases step_cases hstep with hsame | ⟨henrolls, hgrows⟩ | ⟨device, key, hremove⟩
  · exact .inl ((holds_congr hsame.devices).mp hholds)
  · rcases holds_of_grows hgrows hholds with hold | hissues
    · exact .inl hold
    · exact .inr ⟨henrolls, hissues⟩
  · exact .inl (holds_of_mayRemove hremove hholds)

/-- The counter never goes back in a call. -/
theorem nextId_le_of_step {event : Event host} (hstep : Step s event s') :
    s.nextId ≤ s'.nextId := by
  rcases step_cases hstep with hsame | ⟨-, hskipped | ⟨credential, hseeded⟩⟩ | ⟨device, key, hremove⟩
  · exact hsame.nextId.ge
  · exact hskipped.nextId
  · rw [hseeded.nextId]
    exact Nat.le_succ s.nextId
  · exact hremove.nextId.ge

omit [ManagedSessions] in
/-- An evaluation that succeeds used a credential of the answering device. -/
theorem leaves_evaluate (request : PrfRequest) (s : FakeBackend) :
    Leaves (evaluate request) s fun r _ => ∀ prf, r = .ok prf →
      s.Holds s.selectedDevice request.credential.credentialId := by
  refine leaves_bind (leaves_select _ _ _ s) (fun _ _ _ => by simp) fun device s₁ ⟨h₁, hdevice⟩ => ?_
  obtain rfl := hdevice device rfl
  refine (sameStore_assertionPin _ _).leaves_bind (fun _ _ _ => by simp) fun _ s₂ h₂ => ?_
  refine (sameStore_interact _).leaves_bind (fun _ _ _ => by simp) fun _ s₃ h₃ => ?_
  refine (sameStore_count _).leaves_bind (fun _ _ _ => by simp) fun _ s₄ h₄ => ?_
  refine (sameStore_failAt _).leaves_bind (fun _ _ _ => by simp) fun _ s₅ h₅ => ?_
  refine (sameStore_failAt _).leaves_bind (fun _ _ _ => by simp) fun _ s₆ h₆ => ?_
  have hsame : SameStore s s₆ := by
    have h := trans_of SameStore (trans_of SameStore h₁ h₂) (trans_of SameStore h₃ h₄)
    exact trans_of SameStore h (trans_of SameStore h₅ h₆)
  apply leaves_get_bind
  refine leaves_except_bind (fun _ _ => by simp) fun found hfound => ?_
  refine leaves_except_bind (fun _ _ => by simp) fun credential hcredential => ?_
  have hholds : s.Holds s.selectedDevice request.credential.credentialId := by
    rw [deviceAt_eq_ok, hsame.devices] at hfound
    exact ⟨found, hfound, credential, okOr_eq_ok.mp hcredential⟩
  exact fun _ _ _ _ _ _ => hholds

omit [Primitives] [ManagedSessions] in
/-- A retirement that succeeds took the credential from the answering device. -/
theorem leaves_retireManaged (request : ManagedRequest) (s : FakeBackend) :
    Leaves (retireManaged request) s fun r s' => r = .ok () →
      s.Holds s.selectedDevice request.credential.credentialId ∧ s'.devices =
        (s.removeCredential s.selectedDevice request.credential.credentialId).devices := by
  refine leaves_bind (leaves_select _ _ _ s) (fun _ _ _ => by simp) fun device s₁ ⟨h₁, hdevice⟩ => ?_
  obtain rfl := hdevice device rfl
  refine (sameStore_interact _).leaves_bind (fun _ _ _ => by simp) fun _ s₂ h₂ => ?_
  have hsame := trans_of SameStore h₁ h₂
  intro t r s' hrun hok
  have hremoved := (leaves_retireManagedOnDevice request s₂ t r s' hrun).2 hok
  rw [removeCredential_devices hsame] at hremoved
  refine ⟨?_, hremoved⟩
  have hholds : Leaves (retireManagedOnDevice s.selectedDevice request) s₂ fun r _ => r = .ok () →
      s₂.Holds s.selectedDevice request.credential.credentialId := by
    refine leaves_bind (leaves_touchAndVerifyManaged request s₂) (fun _ _ _ => by simp)
      fun _ s₃ ⟨_, hverified⟩ => ?_
    obtain ⟨credential, hcredential⟩ := hverified rfl
    obtain ⟨held, hheld, hfound, -⟩ := managedCredential_eq_ok.mp hcredential
    exact fun _ _ _ _ _ => ⟨held, hheld, credential, hfound⟩
  exact (holds_congr hsame.devices).mp (hholds t r s' hrun hok)

end Step

/-! ## Invariants of a test -/

section Invariants

variable [Primitives] [ManagedSessions] {allows : FakeBackend → Event host → Prop}

/-- **`Spares id s event`** — the event is not an enrollment under the id. -/
def Spares (id : ByteString) (s : FakeBackend) (event : Event host) : Prop :=
  Query.Enrolls event.query → credentialId s.nextId ≠ id

/-- **A credential that is gone stays gone**, as long as no enrollment is given its number. -/
theorem stable_gone (id : ByteString) : FakeAuthenticator.Stable (Spares id) (Gone id) where
  step s event s' hspares hstep hgone i hholds := by
    rcases holds_of_step hstep hholds with hold | ⟨henrolls, hissues⟩
    · exact hgone i hold
    · exact hspares henrolls hissues.id.symm
  count s count hgone i hholds := hgone i (holds_of_setCompatibleAuthenticators hholds)
  select s index s' hselect hgone i hholds := by
    obtain ⟨_, -, hok⟩ := except_bind_eq_ok.mp hselect
    rw [except_pure_eq_ok.mp hok] at hholds
    exact hgone i hholds
  capacity s capacity _ hgone i hholds := hgone i (holds_setManagedCapacity.mp hholds)
  fail _ _ hgone i hholds := hgone i hholds
  forget s key hgone i hholds := hgone i (holds_removeCredential.mp hholds).1
  new := gone_new

/-- No credential is ever on two devices. -/
theorem stable_apart : FakeAuthenticator.Stable allows fun s => Valid s ∧ Apart s where
  step s event s' _ hstep h := by
    refine ⟨h.1.step hstep, fun i j id hi hj => ?_⟩
    have hfresh {i j : Nat} (hold : s.Holds i id) (hissues : Issues s s' j id) : False :=
      h.1.not_holds le_rfl hissues.bounded (hissues.id ▸ hold)
    rcases holds_of_step hstep hi with hi | ⟨-, hi⟩ <;>
      rcases holds_of_step hstep hj with hj | ⟨-, hj⟩
    · exact h.2 i j id hi hj
    · exact (hfresh hi hj).elim
    · exact (hfresh hj hi).elim
    · rw [hi.selected, hj.selected]
  count s count h := ⟨h.1.setCompatibleAuthenticators count, fun i j id hi hj =>
    h.2 i j id (holds_of_setCompatibleAuthenticators hi) (holds_of_setCompatibleAuthenticators hj)⟩
  select s index s' hselect h := by
    refine ⟨h.1.selectAuthenticator hselect, ?_⟩
    obtain ⟨_, -, hok⟩ := except_bind_eq_ok.mp hselect
    rw [except_pure_eq_ok.mp hok]
    exact h.2
  capacity s capacity _ h := ⟨h.1.setManagedCapacity capacity, fun i j id hi hj =>
    h.2 i j id (holds_setManagedCapacity.mp hi) (holds_setManagedCapacity.mp hj)⟩
  fail _ _ h := ⟨⟨h.1.visible, h.1.selected, h.1.fresh⟩, h.2⟩
  forget s key h := ⟨h.1.removed, fun i j id hi hj =>
    h.2 i j id (holds_removeCredential.mp hi).1 (holds_removeCredential.mp hj).1⟩
  new := ⟨valid_new, fun i j id hi _ => (gone_new i hi).elim⟩

end Invariants

end FakeBackend

/-! ## Unlocking -/

section Unlocking

variable [Primitives] [ManagedSessions] {self : FakeAuthenticator} {envelope : KeyEnvelope}
  {recipient : RecipientId} {record : RecipientRecord} {id : ByteString}

/-- **`Locked self envelope recipient`** — no unlock of the envelope through the recipient succeeds,
with or without a local secret, whatever the application answers. -/
def Locked (self : FakeAuthenticator) (envelope : KeyEnvelope) (recipient : RecipientId) : Prop :=
  ∀ t root s, Path FakeBackend.Step self.backend t s →
    ¬ (self.protector.unlock envelope recipient).run.Runs t (.ok root) ∧
      ∀ secret, ¬ (self.protector.unlockWithFidoAndLocalSecret envelope recipient secret).run.Runs t
        (.ok root)

/-- The trace starts with an evaluation of the credential that succeeded. -/
def Evaluates (id : ByteString) (t : Trace host) : Prop :=
  ∃ request reply rest prf, t = ⟨.evaluate request, reply⟩ :: rest ∧
    request.credential.credentialId = id ∧ reply.result = .ok prf

omit [ManagedSessions] in
theorem evaluates_of_unlock {p : KeyProtector} {t : Trace host} {root : RootKey}
    (hfind : envelope.find recipient = .ok record) (hid : record.credentialId = some id)
    (h : (p.unlock envelope recipient).run.Runs t (.ok root)) : Evaluates id t := by
  unfold KeyProtector.unlock at h
  simp only [↓Fallible.runs_except_bind_ok, Fallible.runs_bind_ok, hfind] at h
  obtain ⟨-, -, record, hrecord, -, -, t₁, opened, t₂, rfl, hopen, -⟩ := h
  cases hrecord
  obtain ⟨factors, hsupplies, -⟩ := runs_openRecord_ok hopen
  cases hsupplies with
  | passphrase => cases hid
  | fido hrequest hreply =>
      have hcredential := (requests_of_prfRequest hrequest).1.credential
      exact ⟨_, _, _, _, rfl, Option.some.inj (hcredential.symm.trans hid), hreply⟩
  | fidoAndPassphrase hrequest hreply =>
      have hcredential := (requests_of_prfRequest hrequest).1.credential
      exact ⟨_, _, _, _, rfl, Option.some.inj (hcredential.symm.trans hid), hreply⟩

omit [ManagedSessions] in
theorem evaluates_of_unlockWithFidoAndLocalSecret {p : KeyProtector} {secret : LocalSecret}
    {t : Trace host} {root : RootKey} (hfind : envelope.find recipient = .ok record)
    (hid : record.credentialId = some id)
    (h : (p.unlockWithFidoAndLocalSecret envelope recipient secret).run.Runs t (.ok root)) :
    Evaluates id t := by
  have hroute := oneRoute_unlockWithFidoAndLocalSecret h
  obtain ⟨-, prf, request, reply, -, -, hreply, rfl⟩ := runs_unlockWithFidoAndLocalSecret_ok h
  obtain ⟨found, hfound, hrequests, -⟩ := hroute.exact request (by simp [prfRequests])
  rw [hfind] at hfound
  cases hfound
  have hcredential := hrequests.credential
  exact ⟨_, _, _, _, rfl, Option.some.inj (hcredential.symm.trans hid), hreply⟩

/-- **Without its credential a recipient is locked.** -/
theorem locked_of_gone (hfind : envelope.find recipient = .ok record)
    (hid : record.credentialId = some id) (hgone : self.backend.Gone id) :
    Locked self envelope recipient := by
  intro t root s hpath
  have hnot : ¬ Evaluates id t := by
    rintro ⟨request, reply, rest, prf, rfl, rfl, hreply⟩
    obtain ⟨mid, hstep, -⟩ := hpath
    have hholds := FakeBackend.Answers.leaves hstep (FakeBackend.leaves_evaluate request self.backend)
    rw [hreply] at hholds
    exact hgone _ (hholds prf rfl)
  exact ⟨fun h => hnot (evaluates_of_unlock hfind hid h), fun secret h =>
    hnot (evaluates_of_unlockWithFidoAndLocalSecret hfind hid h)⟩

end Unlocking

/-! ## Removals -/

section Removals

variable [Primitives] [ManagedSessions]

/-- **`Removes allows envelope recipient self self'`** — the credential of the recipient is forgotten,
in a state that is allowed; it is retired; or everything is cleared. -/
inductive Removes (allows : FakeBackend → Prop) (envelope : KeyEnvelope) (recipient : RecipientId) :
    FakeAuthenticator → FakeAuthenticator → Prop
  | forgotten {self self' : FakeAuthenticator} : allows self.backend →
      self.forgetRecipient envelope recipient = .ok self' →
      Removes allows envelope recipient self self'
  | retired {self : FakeAuthenticator} {root : RootKey} {t : Trace host} {backend : FakeBackend} :
      (self.protector.retireManagedRecipient envelope root recipient).run.Runs t (.ok ()) →
      Path FakeBackend.Step self.backend t backend →
      Removes allows envelope recipient self { self with backend }
  | cleared {self : FakeAuthenticator} : Removes allows envelope recipient self self.clear

variable {self self' : FakeAuthenticator} {envelope : KeyEnvelope} {recipient : RecipientId}
  {record : RecipientRecord} {id : ByteString}

omit [ManagedSessions] in
/-- What a retirement asked for. -/
theorem runs_retireManagedRecipient_ok {p : KeyProtector} {root : RootKey} {t : Trace host}
    (hfind : envelope.find recipient = .ok record) (hid : record.credentialId = some id)
    (h : (p.retireManagedRecipient envelope root recipient).run.Runs t (.ok ())) :
    ∃ request reply, t = [⟨.retireManaged request, reply⟩] ∧
      request.credential.credentialId = id ∧ reply.result = .ok () := by
  unfold KeyProtector.retireManagedRecipient at h
  obtain ⟨request, hrequest, h₁⟩ := Fallible.runs_except_bind_ok.mp h
  obtain ⟨reply, t₁, rfl, h₂⟩ := runs_ask_bind_ok.mp h₁
  obtain ⟨rfl, hreply⟩ := Fallible.runs_except.mp h₂
  refine ⟨request, reply, rfl, ?_, hreply.symm⟩
  unfold KeyProtector.managedRequest at hrequest
  obtain ⟨_, -, hrequest⟩ := except_bind_eq_ok.mp hrequest
  obtain ⟨found, hfound, hrequest⟩ := except_bind_eq_ok.mp hrequest
  rw [hfind] at hfound
  cases hfound
  cases record with
  | fido inner =>
      obtain ⟨_, -, hrequest⟩ := except_bind_eq_ok.mp hrequest
      rw [except_pure_eq_ok.mp hrequest]
      exact Option.some.inj hid
  | _ => cases hrequest

/-- **A removal takes the credential from every device.** -/
theorem gone_of_removes (hself : self.backend.Valid ∧ self.backend.Apart)
    (hfind : envelope.find recipient = .ok record) (hid : record.credentialId = some id)
    (h : Removes (FakeBackend.Alone id) envelope recipient self self') : self'.backend.Gone id := by
  cases h with
  | forgotten hothers hforget =>
      obtain ⟨found, credentialId, hfound, hcredential, rfl⟩ :=
        FakeAuthenticator.forgetRecipient_eq_ok.mp hforget
      rw [hfind] at hfound
      cases hfound
      rw [hid] at hcredential
      cases hcredential
      exact FakeBackend.gone_forgetCredential_iff.mpr hothers
  | retired hrun hpath =>
      obtain ⟨request, reply, rfl, rfl, hreply⟩ := runs_retireManagedRecipient_ok hfind hid hrun
      have hstep := path_singleton.mp hpath
      have hleaves := FakeBackend.Answers.leaves hstep
        (FakeBackend.leaves_retireManaged request self.backend)
      rw [hreply] at hleaves
      obtain ⟨hselected, hdevices⟩ := hleaves rfl
      intro i hholds
      obtain ⟨hold, hnot⟩ := FakeBackend.holds_removeCredential.mp
        ((FakeBackend.holds_congr hdevices).mp hholds)
      exact hnot ⟨hself.2 i _ _ hold hselected, rfl⟩
  | cleared => exact FakeBackend.gone_new

end Removals

/-! ## The counter -/

/-- **`Advances s s'`** — the counter did not go back, and what came to the devices has a number that
it passed. -/
structure Advances (s s' : FakeBackend) : Prop where
  nextId : s.nextId ≤ s'.nextId
  issued : ∀ i id, s'.Holds i id → s.Holds i id ∨
    ∃ n, s.nextId ≤ n ∧ n < s'.nextId ∧ n < UInt64.size ∧ id = FakeBackend.credentialId n

namespace Advances

variable {s s₁ s' : FakeBackend}

theorem of_holds (hnext : s.nextId ≤ s'.nextId)
    (hholds : ∀ i id, s'.Holds i id → s.Holds i id) : Advances s s' :=
  ⟨hnext, fun i id h => .inl (hholds i id h)⟩

theorem trans (h : Advances s s₁) (h' : Advances s₁ s') : Advances s s' := by
  refine ⟨h.nextId.trans h'.nextId, fun i id hholds => ?_⟩
  rcases h'.issued i id hholds with hmid | ⟨n, hle, hlt, hsize, hid⟩
  · rcases h.issued i id hmid with hold | ⟨n, hle, hlt, hsize, hid⟩
    · exact .inl hold
    · exact .inr ⟨n, hle, hlt.trans_le h'.nextId, hsize, hid⟩
  · exact .inr ⟨n, h.nextId.trans hle, hlt, hsize, hid⟩

/-- **No id is issued twice** while the counter does not go back. -/
theorem not_issued_twice {t t' : FakeBackend} (h : Advances s s') (hmid : Advances s' t)
    (h' : Advances t t') {id : ByteString} (hgone : s.Gone id) {i : Nat} (hissued : s'.Holds i id)
    (hgone' : t.Gone id) : t'.Gone id := by
  intro j hagain
  rcases h.issued i id hissued with hold | ⟨n, -, hlt, hsize, rfl⟩
  · exact hgone i hold
  rcases h'.issued j _ hagain with hold | ⟨m, hle, -, hsize', hsame⟩
  · exact hgone' j hold
  · have hnm := (FakeBackend.credentialId_inj hsize hsize').mp hsame
    have hnext := hmid.nextId
    omega

end Advances

section Counter

variable [Primitives] [ManagedSessions] {s s' : FakeBackend}

theorem advances_of_step {event : Event host} (h : FakeBackend.Step s event s') : Advances s s' := by
  refine ⟨FakeBackend.nextId_le_of_step h, fun i id hholds => ?_⟩
  rcases FakeBackend.holds_of_step h hholds with hold | ⟨-, hissues⟩
  · exact .inl hold
  · exact .inr ⟨s.nextId, le_rfl, hissues.passed, hissues.bounded, hissues.id⟩

/-- **Only a clear sets the counter back.** -/
theorem advances_of_use {allows : FakeBackend → Event host → Prop} {self self' : FakeAuthenticator}
    (h : FakeAuthenticator.Use allows self self') :
    self' = self.clear ∨ Advances self.backend self'.backend := by
  cases h with
  | call _ hpath =>
      right
      have hinvariant := hpath.invariant (I := Advances self.backend)
        (fun event _ s s' hs h => h.trans (advances_of_step hs.2))
      exact hinvariant (.of_holds le_rfl fun _ _ h => h)
  | setCompatibleAuthenticators h =>
      rw [(FakeAuthenticator.setCompatibleAuthenticators_eq_ok.mp h).2]
      exact .inr (.of_holds le_rfl fun _ _ => FakeBackend.holds_of_setCompatibleAuthenticators)
  | selectAuthenticator h =>
      obtain ⟨backend, hbackend, rfl⟩ := FakeAuthenticator.selectAuthenticator_eq_ok.mp h
      obtain ⟨_, -, hok⟩ := except_bind_eq_ok.mp hbackend
      rw [except_pure_eq_ok.mp hok]
      exact .inr (.of_holds le_rfl fun _ _ h => h)
  | setManagedCapacity h =>
      rw [(FakeAuthenticator.setManagedCapacity_eq_ok.mp h).2]
      exact .inr (.of_holds le_rfl fun _ _ => FakeBackend.holds_setManagedCapacity.mp)
  | failNext h =>
      rw [(FakeAuthenticator.failNext_eq_ok.mp h).2.2]
      exact .inr (.of_holds le_rfl fun _ _ h => h)
  | forgetRecipient h =>
      obtain ⟨record, credentialId, -, -, rfl⟩ := FakeAuthenticator.forgetRecipient_eq_ok.mp h
      exact .inr (.of_holds le_rfl fun _ _ h => (FakeBackend.holds_removeCredential.mp h).1)
  | clear => exact .inl rfl

/-- **`Onward self self'`** — an operation that does not set the counter back. -/
def Onward (self self' : FakeAuthenticator) : Prop :=
  FakeAuthenticator.Use (fun _ _ => True) self self' ∧ self.backend.nextId ≤ self'.backend.nextId

theorem Onward.advances {self self' : FakeAuthenticator} (h : Onward self self') :
    Advances self.backend self'.backend := by
  rcases advances_of_use h.1 with rfl | hadvances
  · exact .of_holds h.2 fun i id hholds => (FakeBackend.gone_new i hholds).elim
  · exact hadvances

theorem advances_of_onward {self self' : FakeAuthenticator}
    (h : Relation.ReflTransGen Onward self self') : Advances self.backend self'.backend := by
  induction h with
  | refl => exact .of_holds le_rfl fun _ _ hholds => hholds
  | tail _ hstep ih => exact ih.trans hstep.advances

/-- **When removed test credentials stay removed.** A credential that was forgotten while no other
device held it, was retired or was cleared unlocks nothing any more, whatever a test does, as long as no
enrollment is given its number again. A number comes back only after a clear: no other operation sets
the counter back, and while it does not go back no id is issued twice. -/
theorem removed_credentials_stay_removed (applicationId : ApplicationId) :
    (∀ (self removed later : FakeAuthenticator) (envelope : KeyEnvelope) (recipient : RecipientId)
      (record : RecipientRecord) (id : ByteString),
      FakeAuthenticator.Reachable applicationId self → envelope.find recipient = .ok record →
      record.credentialId = some id →
      Removes (FakeBackend.Alone id) envelope recipient self removed →
      FakeAuthenticator.Uses (FakeBackend.Spares id) removed later →
        Locked later envelope recipient) ∧
    (∀ self self', FakeAuthenticator.Use (fun _ _ => True) self self' →
      self' = self.clear ∨ Onward self self') ∧
    ∀ first first' later later' id, Onward first first' → Relation.ReflTransGen Onward first' later →
      Onward later later' → first.backend.Gone id → later.backend.Gone id →
        first'.backend.Gone id ∨ later'.backend.Gone id := by
  refine ⟨?_, ?_, ?_⟩
  · intro self removed later envelope recipient record id hreachable hfind hid hremoves hlater
    have hself : self.backend.Valid ∧ self.backend.Apart :=
      FakeBackend.stable_apart.uses hreachable
        ⟨FakeBackend.valid_new, fun i j id hi _ => (FakeBackend.gone_new i hi).elim⟩
    have hgone := gone_of_removes hself hfind hid hremoves
    exact locked_of_gone hfind hid ((FakeBackend.stable_gone id).uses hlater hgone)
  · intro self self' huse
    rcases advances_of_use huse with hclear | hadvances
    · exact .inl hclear
    · exact .inr ⟨huse, hadvances.nextId⟩
  · intro first first' later later' id hfirst hbetween hlater hgone hgone'
    by_cases hissued : first'.backend.Gone id
    · exact .inl hissued
    · right
      obtain ⟨i, hholds⟩ := not_forall_not.mp hissued
      exact hfirst.advances.not_issued_twice (advances_of_onward hbetween) hlater.advances hgone
        hholds hgone'

end Counter

/-! ## Three tests -/

namespace FakeVector

/-- A second authenticator answers when the recipient is forgotten, and the first one after that. -/
def misdirected [Primitives] [ManagedSessions] :
    Result (FakeAuthenticator × FakeAuthenticator × FakeAuthenticator) := do
  let paired ← managed.setCompatibleAuthenticators 2
  let self ← paired.selectAuthenticator 1
  let removed ← self.forgetRecipient managedEnvelope managedRecord.id
  let later ← removed.selectAuthenticator 0
  return (self, removed, later)

/-- Everything is cleared, and another managed credential is made. -/
def reissued [Primitives] [ManagedSessions] : FakeAuthenticator :=
  { managed.clear with
    backend := (recreation managed.clear.backend).elim .new fun run => after .new run.1 }

/-- The unlock of the envelope. -/
def unlocking [Primitives] [ManagedSessions] (self : FakeAuthenticator) :
    Option (Trace host × Result RootKey) :=
  (self.protector.unlock managedEnvelope managedRecord.id).run.exec? (reply self.backend) []

theorem misdirected_unlocks :
    ((@misdirected managedPrimitives managedSessions).toOption.elim false fun run =>
      (@unlocking managedPrimitives managedSessions run.2.2).elim false fun run => run.2.isOk) =
        true := by
  decide +kernel

theorem reissued_unlocks :
    (@unlocking managedPrimitives managedSessions
      (@reissued managedPrimitives managedSessions)).elim false (fun run => run.2.isOk) = true := by
  decide +kernel

/-- An authenticator on which the unlock succeeds. -/
theorem not_locked_of_unlocking [Primitives] [ManagedSessions] {self : FakeAuthenticator}
    (h : (unlocking self).elim false (fun run => run.2.isOk) = true) :
    ¬ Locked self managedEnvelope managedRecord.id := by
  intro hlocked
  cases hexec : unlocking self with
  | none =>
      rw [hexec] at h
      cases h
  | some run =>
      obtain ⟨t, r⟩ := run
      rw [hexec] at h
      cases r with
      | error e => cases h
      | ok root =>
          have hpath : Path FakeBackend.Step (after self.backend []) t
              (after self.backend ([] ++ t)) :=
            path_of_exec? (fun _ _ _ => step_reply) hexec
          exact (hlocked t root _ hpath).1 (Program.runs_of_exec? hexec)

/-- The replies of a backend that is asked for no enrollment under the id. -/
def sparing [Primitives] [ManagedSessions] (id : ByteString) (s : FakeBackend) (past : Trace host)
    (query : Query) : Option query.Reply :=
  if FakeBackend.Query.Enrolls query ∧ FakeBackend.credentialId (after s past).nextId = id then none
  else redraw s past query

theorem step_sparing [Primitives] [ManagedSessions] {id : ByteString} {s : FakeBackend}
    {past : Trace host} {query : Query} {r : query.Reply} (h : sparing id s past query = some r) :
    FakeBackend.Spares id (after s past) ⟨query, r⟩ ∧
      FakeBackend.Step (after s past) ⟨query, r⟩ (after s (past ++ [⟨query, r⟩])) := by
  unfold sparing at h
  split at h
  · cases h
  · rename_i hspares
    exact ⟨fun henrolls hid => hspares ⟨henrolls, hid⟩, step_redraw h⟩

/-- A creation that spares the credential. -/
def laterCreation [Primitives] [ManagedSessions] (self : FakeAuthenticator) :
    Option (Trace host × Result (RootKey × KeyEnvelope × RecipientId)) :=
  (protector.createRoot enrollment).run.exec? (sparing managedRecord.credentialId self.backend) []

/-- The recipient is forgotten on the one authenticator, and a later creation makes a credential. -/
theorem forgotten_then_created :
    (@managed managedPrimitives managedSessions).backend.devices.length = 1 ∧
      ((@managed managedPrimitives managedSessions).forgetRecipient managedEnvelope
        managedRecord.id).toOption.elim false (fun removed =>
          (@laterCreation managedPrimitives managedSessions removed).elim false fun run =>
            run.2.isOk && run.1.any (@isMade managedPrimitives)) = true := by
  decide +kernel

/-- On the one authenticator the credential is alone. -/
theorem managed_alone : (@managed managedPrimitives managedSessions).backend.Alone
    managedRecord.credentialId := by
  let _ := managedPrimitives
  rintro i hi ⟨device, hdevice, -⟩
  have hlength := forgotten_then_created.1
  have hselected := (FakeAuthenticator.valid_of_reachable managed_reachable).selected
  obtain ⟨hlt, -⟩ := List.getElem?_eq_some_iff.mp hdevice
  omega

end FakeVector

open FakeVector in
/-- Forgotten on the one authenticator that holds it, the credential stays away when a later creation
makes another. -/
theorem forgotten_credential_stays_away :
    let _ := managedPrimitives
    ∃ removed backend t created,
      managed.forgetRecipient managedEnvelope managedRecord.id = .ok removed ∧
      (protector.createRoot enrollment).run.Runs t (.ok created) ∧
      Path FakeBackend.Step removed.backend t backend ∧ (∃ event ∈ t, isMade event = true) ∧
        Locked { removed with backend } managedEnvelope managedRecord.id := by
  let _ := managedPrimitives
  have hruns := forgotten_then_created.2
  cases hforget : managed.forgetRecipient managedEnvelope managedRecord.id with
  | error e =>
      rw [hforget] at hruns
      cases hruns
  | ok removed =>
      cases hexec : laterCreation removed with
      | none =>
          rw [hforget, Except.toOption, Option.elim, hexec] at hruns
          cases hruns
      | some run =>
          obtain ⟨t, r⟩ := run
          rw [hforget, Except.toOption, Option.elim, hexec, Option.elim, Bool.and_eq_true] at hruns
          obtain ⟨hok, hmade⟩ := hruns
          cases r with
          | error e => cases hok
          | ok created =>
              have hrun := Program.runs_of_exec? hexec
              have hpath : Path (fun s event s' =>
                  FakeBackend.Spares managedRecord.credentialId s event ∧
                    FakeBackend.Step s event s') (after removed.backend []) t
                  (after removed.backend ([] ++ t)) :=
                path_of_exec? (fun _ _ _ => step_sparing) hexec
              have hprotector : removed.protector = protector := by
                obtain ⟨record, credentialId, -, -, rfl⟩ :=
                  FakeAuthenticator.forgetRecipient_eq_ok.mp hforget
                rfl
              have hcall : (Call.createRoot enrollment).Runs removed.protector t := by
                rw [hprotector]
                exact ⟨_, hrun⟩
              refine ⟨removed, _, t, created, hforget, hrun, hpath.mono fun _ _ _ h => h.2,
                List.any_eq_true.mp hmade, ?_⟩
              exact (removed_credentials_stay_removed protector.applicationId).1 managed removed _
                managedEnvelope managedRecord.id (.fido managedRecord) managedRecord.credentialId
                managed_reachable rfl rfl (.forgotten managed_alone hforget)
                (.single (.call hcall hpath))

open FakeVector in
/-- Forgotten while another authenticator answered, the credential unlocks the envelope again. -/
theorem forgotten_credential_returns :
    let _ := managedPrimitives
    ¬ ∀ (applicationId : ApplicationId) (self removed later : FakeAuthenticator)
      (envelope : KeyEnvelope) (recipient : RecipientId) (record : RecipientRecord)
      (id : ByteString), FakeAuthenticator.Reachable applicationId self →
      envelope.find recipient = .ok record → record.credentialId = some id →
      Removes (fun _ => True) envelope recipient self removed →
      FakeAuthenticator.Uses (fun _ _ => True) removed later →
        Locked later envelope recipient := by
  intro _ h
  have hunlocks := misdirected_unlocks
  cases hrun : @misdirected managedPrimitives managedSessions with
  | error e =>
      rw [hrun] at hunlocks
      cases hunlocks
  | ok run =>
      obtain ⟨self, removed, later⟩ := run
      rw [hrun] at hunlocks
      unfold misdirected at hrun
      obtain ⟨paired, hpaired, hrun⟩ := except_bind_eq_ok.mp hrun
      obtain ⟨_, hself, hrun⟩ := except_bind_eq_ok.mp hrun
      obtain ⟨_, hremoved, hrun⟩ := except_bind_eq_ok.mp hrun
      obtain ⟨_, hlater, hrun⟩ := except_bind_eq_ok.mp hrun
      cases except_pure_eq_ok.mp hrun
      have hreachable : FakeAuthenticator.Reachable protector.applicationId self :=
        (managed_reachable.tail (.setCompatibleAuthenticators hpaired)).tail
          (.selectAuthenticator hself)
      exact not_locked_of_unlocking hunlocks (h _ self removed later managedEnvelope
        managedRecord.id _ _ hreachable rfl rfl (.forgotten trivial hremoved)
        (.single (.selectAuthenticator hlater)))

open FakeVector in
/-- Cleared, the credential unlocks the envelope again when the next enrollment is given its number:
no device is at fault here, so no condition on a forgetting helps. -/
theorem cleared_credential_returns :
    let _ := managedPrimitives
    ¬ ∀ (applicationId : ApplicationId) (self removed later : FakeAuthenticator)
      (envelope : KeyEnvelope) (recipient : RecipientId) (record : RecipientRecord)
      (id : ByteString), FakeAuthenticator.Reachable applicationId self →
      envelope.find recipient = .ok record → record.credentialId = some id →
      Removes (fun _ => False) envelope recipient self removed →
      FakeAuthenticator.Uses (fun _ _ => True) removed later →
        Locked later envelope recipient := by
  intro _ h
  have hunlocks := reissued_unlocks
  cases hexec : @recreation managedPrimitives managedSessions managed.clear.backend with
  | none =>
      have hempty : reissued = managed.clear := by
        rw [reissued, hexec]
        rfl
      have hlocked := h _ managed managed.clear managed.clear managedEnvelope managedRecord.id _ _
        managed_reachable rfl rfl .cleared .refl
      exact not_locked_of_unlocking hunlocks (hempty ▸ hlocked)
  | some run =>
      obtain ⟨t, r⟩ := run
      have hcall : (Call.createRoot enrollment).Runs managed.clear.protector t :=
        ⟨r, Program.runs_of_exec? hexec⟩
      have hpath : Path FakeBackend.Step (after managed.clear.backend []) t
          (after managed.clear.backend ([] ++ t)) :=
        path_of_exec? (fun _ _ _ => step_redraw) hexec
      have hlater : FakeAuthenticator.Uses (fun _ _ => True) managed.clear reissued := by
        unfold reissued
        rw [hexec]
        exact .single (.call hcall (hpath.guarded fun _ _ => trivial))
      exact not_locked_of_unlocking hunlocks (h _ managed managed.clear reissued managedEnvelope
        managedRecord.id _ _ managed_reachable rfl rfl .cleared hlater)

end FidoKeyWrap
