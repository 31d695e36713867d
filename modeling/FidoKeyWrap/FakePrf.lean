/-
# FidoKeyWrap.FakePrf — the backend in memory computes one PRF, whatever happens to it.

The secrets of a credential in memory are derived from its number, and its number is in its id. So the
PRF of a credential is a function of its id (`fakePrf`), on every device, after a removal and even
after a clear that counts from the start again: `Rooted` says that every credential has the secrets of
its number, and nothing that happens to the backend breaks it. Every session over the backend is
therefore sound, and what is left of recovery is whether the answering device can evaluate: `Ready`
says when it can, and then an unlock gives back the root unless the application does not answer a
prompt (`fake_sessions_recover`).
-/
import FidoKeyWrap.Deployment
import FidoKeyWrap.FakeRetirement
import FidoKeyWrap.CredentialRemoval

namespace FidoKeyWrap

open ByteData Interact

namespace FakeBackend

open Mutating

/-! ## The number of a credential -/

/-- The number in a credential id. -/
def credentialNumber (id : ByteString) : Nat := ofBe (id.drop (utf8 "fake-credential-format-1").length)

theorem credentialNumber_credentialId {n : Nat} (h : n < UInt64.size) :
    credentialNumber (credentialId n) = n := by
  rw [credentialNumber, credentialId, List.drop_left]
  exact ofBe_beBytes (w := 8) h

variable [Primitives]

/-- The secret of a credential under a policy. -/
def rootOf (policy : FidoPolicy) (n : Nat) : Bytes 32 :=
  match policy with
  | .presence => credentialRoot "presence" n
  | .userVerification => credentialRoot "verified" n

/-- **`fakePrf`** — the PRF of the backend in memory, as a function of the credential id alone. -/
def fakePrf : Prf := fun material policy input =>
  (Primitives.hmacSha256 (rootOf policy (credentialNumber material.credentialId)).toList
    input.toList).getD (Bytes.zero 32)

/-- The credential has the secrets of the number in its id. -/
structure RootedAt (id : ByteString) (credential : FakeCredential) : Prop where
  presence : credential.presenceRoot = rootOf .presence (credentialNumber id)
  verified : credential.verifiedRoot = rootOf .userVerification (credentialNumber id)

/-- **`Rooted`** — so has every credential of every device. -/
def Rooted (s : FakeBackend) : Prop :=
  ∀ device ∈ s.devices, ∀ id credential, device.credentials.lookup id = some credential →
    RootedAt id credential

/-- What is evaluated with such a credential is the PRF. -/
theorem prf_eq_ok {credential : FakeCredential} {request : PrfRequest} {b : Bytes 32}
    (hrooted : RootedAt request.credential.credentialId credential)
    (h : prf credential request = .ok b) : b = fakePrf.answer request := by
  have hmac := okOr_eq_ok.mp h
  rw [Prf.answer, fakePrf]
  cases hpolicy : request.credential.policy with
  | presence =>
      rw [hpolicy, hrooted.presence] at hmac
      rw [hmac, Option.getD_some]
  | userVerification =>
      rw [hpolicy, hrooted.verified] at hmac
      rw [hmac, Option.getD_some]

/-! ## Nothing breaks it -/

/-- Rooted credentials stay rooted. -/
def KeepsRooted (s s' : FakeBackend) : Prop := s.Rooted → s'.Rooted

instance : IsPreorder FakeBackend KeepsRooted where
  refl _ h := h
  trans _ _ _ h h' hs := h' (h hs)

section Rooted

variable {s s' : FakeBackend} {applicationId : ApplicationId} {recipientId : RecipientId}
  {policy : FidoPolicy} {label : String} {operation : Operation}

theorem Rooted.congr (h : s.Rooted) (hdevices : s'.devices = s.devices) : s'.Rooted := by
  unfold Rooted
  rw [hdevices]
  exact h

theorem SameStore.keepsRooted (h : SameStore s s') : KeepsRooted s s' :=
  fun hs => hs.congr h.devices

theorem keepsRooted_of_sameStore {α : Type} {x : Fake α} (h : Within SameStore x) :
    Within KeepsRooted x :=
  fun s => (h s).mono fun _ _ hsame => hsame.keepsRooted

/-- A device changed in place keeps its credentials rooted, if the change does. -/
theorem Rooted.modify (h : s.Rooted) {i : Nat} {f : FakeDevice → FakeDevice}
    (hdevices : s'.devices = s.devices.modify i f)
    (hf : ∀ device ∈ s.devices, ∀ id credential,
      (f device).credentials.lookup id = some credential → RootedAt id credential) : s'.Rooted := by
  intro device hdevice id credential hfound
  rw [hdevices] at hdevice
  rcases mem_modify hdevice with hold | ⟨old, hold, rfl⟩
  · exact h device hold id credential hfound
  · exact hf old hold id credential hfound

theorem Rooted.removed (h : s.Rooted) {device : Nat} {key : ByteString} :
    (s.removeCredential device key).Rooted := by
  refine h.modify rfl fun held hheld id credential hfound => ?_
  by_cases hid : id = key
  · subst hid
    rw [Finmap.lookup_erase] at hfound
    cases hfound
  · rw [Finmap.lookup_erase_ne hid] at hfound
    exact h held hheld id credential hfound

theorem Rooted.mayRemove (h : s.Rooted) {device : Nat} {key : ByteString}
    (hremove : MayRemove device key s s') : s'.Rooted := by
  rcases hremove.devices with hsame | hremoved
  · exact h.congr hsame
  · exact h.removed.congr hremoved

theorem rooted_new : (new : FakeBackend).Rooted := by
  intro device hdevice id credential hfound
  rw [List.mem_singleton.mp hdevice] at hfound
  cases hfound

theorem Rooted.setCompatibleAuthenticators (h : s.Rooted) (count : Nat) :
    (s.setCompatibleAuthenticators count).Rooted := by
  intro device hdevice id credential hfound
  rcases List.mem_append.mp hdevice with hold | hnew
  · exact h device hold id credential hfound
  · -- a new device is empty
    rw [List.eq_of_mem_replicate hnew] at hfound
    cases hfound

/-- **A new credential gets the secrets of its number.** -/
theorem keepsRooted_seedCredentialWithStorage (storage : FidoStorage)
    (userId : Option RecipientId) :
    Within KeepsRooted (seedCredentialWithStorage applicationId policy storage userId) := by
  intro s
  apply leaves_get_bind
  refine leaves_except_bind (fun e _ hs => hs) fun _ hbounded => ?_
  have hnumber : s.nextId < UInt64.size := Nat.lt_of_succ_lt (require_eq_ok.mp hbounded)
  apply leaves_set_bind
  refine leaves_except_bind (fun e _ hs => hs.congr rfl) fun publicKey _ => ?_
  refine leaves_except_bind (fun e _ hs => hs.congr rfl) fun device _ => ?_
  apply leaves_update_bind
  refine leaves_pure fun hs => ?_
  refine hs.modify rfl fun held hheld id credential hfound => ?_
  by_cases hid : id = credentialId s.nextId
  · subst hid
    rw [Finmap.lookup_insert] at hfound
    cases hfound
    constructor
    · rw [credentialNumber_credentialId hnumber]
      rfl
    · rw [credentialNumber_credentialId hnumber]
      rfl
  · rw [Finmap.lookup_insert_of_ne _ hid] at hfound
    exact hs held hheld id credential hfound

theorem keepsRooted_enroll :
    Within KeepsRooted (enroll applicationId policy label operation) := by
  refine within_bind (keepsRooted_of_sameStore (sameStore_select _ _ _)) fun _ => ?_
  refine within_bind (keepsRooted_of_sameStore (sameStore_interact _)) fun _ => ?_
  refine within_bind (keepsRooted_of_sameStore (sameStore_interact _)) fun _ => ?_
  refine within_bind (keepsRooted_of_sameStore (sameStore_count _)) fun _ => ?_
  refine within_bind (keepsRooted_of_sameStore (sameStore_failAt _)) fun _ => ?_
  refine within_bind (keepsRooted_of_sameStore (sameStore_failAt _)) fun _ => ?_
  exact keepsRooted_seedCredentialWithStorage _ _

theorem keepsRooted_failedManagedEnrollment (failure : FailureKind) :
    Within KeepsRooted (failedManagedEnrollment applicationId recipientId policy failure) := by
  unfold failedManagedEnrollment
  split
  · refine within_bind (keepsRooted_seedCredentialWithStorage _ _) fun _ => ?_
    exact within_pure ()
  · exact within_pure ()

theorem keepsRooted_enrollManaged [ManagedSessions] :
    Within KeepsRooted (enrollManaged applicationId recipientId policy label operation) := by
  refine within_bind (keepsRooted_of_sameStore (sameStore_select _ _ _)) fun _ => ?_
  refine within_bind (keepsRooted_of_sameStore (sameStore_interact _)) fun _ => ?_
  refine within_bind (keepsRooted_of_sameStore (sameStore_interact _)) fun _ => ?_
  refine within_bind (keepsRooted_of_sameStore (sameStore_count _)) fun _ => ?_
  refine within_get_bind fun self => ?_
  refine within_bind (within_except _) fun found => ?_
  refine within_bind (within_except _) fun _ => ?_
  refine within_bind (keepsRooted_of_sameStore (sameStore_takeFailure _)) fun taken => ?_
  cases taken with
  | some failure =>
      refine within_bind (keepsRooted_failedManagedEnrollment failure) fun _ => ?_
      exact within_throw _
  | none =>
      refine within_bind (keepsRooted_seedCredentialWithStorage _ _) fun _ => ?_
      exact within_pure _

variable [ManagedSessions]

/-- **One step of the world keeps the credentials rooted.** -/
theorem Rooted.step (h : s.Rooted) {event : Event host} (hstep : Step s event s') : s'.Rooted := by
  rcases step_cases hstep with hsame | ⟨henrolls, -⟩ | ⟨device, key, hremove⟩
  · exact hsame.keepsRooted h
  · obtain ⟨query, reply⟩ := event
    cases query with
    | enroll applicationId policy label operation =>
        exact Answers.leaves hstep (keepsRooted_enroll s) h
    | enrollManaged applicationId recipientId policy label operation =>
        exact Answers.leaves hstep (keepsRooted_enrollManaged s) h
    | _ => cases henrolls
  · exact h.mayRemove hremove

/-- So does everything else that changes it. -/
theorem Rooted.change (h : s.Rooted) (hchange : Change s s') : s'.Rooted := by
  cases hchange with
  | call hstep => exact h.step hstep
  | failNextWith hfail =>
      unfold FakeBackend.failNextWith at hfail
      split at hfail
      · cases hfail
      · cases hfail
        exact h.congr rfl
  | setCompatibleAuthenticators count => exact h.setCompatibleAuthenticators count
  | selectAuthenticator hselect =>
      obtain ⟨_, -, hok⟩ := except_bind_eq_ok.mp hselect
      rw [except_pure_eq_ok.mp hok]
      exact h.congr rfl
  | setManagedCapacity capacity =>
      exact h.modify rfl fun held hheld id credential hfound => h held hheld id credential hfound
  | forgetCredential credentialId => exact h.removed
  | reset => exact rooted_new

end Rooted

/-! ## When the answering device can evaluate -/

/-- The credential of a request is on the device, with its key, and its policy may be used. -/
structure Answering (device : FakeDevice) (request : PrfRequest) (credential : FakeCredential) :
    Prop where
  found : device.credentials.lookup request.credential.credentialId = some credential
  application : credential.applicationId = request.credential.applicationId.asStr
  key : credential.publicKey = request.credential.publicKey
  policy : ¬ (credential.enrollmentPolicy = .userVerification ∧
    request.credential.policy = .presence)

/-- **`Ready s request`** — a device is visible, no failure is scheduled for an evaluation, and the
answering device holds the credential. -/
structure Ready (s : FakeBackend) (request : PrfRequest) : Prop where
  visible : s.visibleDevices ≠ 0
  unfailing : ∀ point ∈ [FailurePoint.selection, .assertion, .verifiedResponse], ∀ failure,
    s.failNext ≠ some (point, failure)
  answering : ∃ device credential, s.devices[s.selectedDevice]? = some device ∧
    Answering device request credential

/-- **`Evaluation s request r`** — how an evaluation ends: an interaction failed; or the device was
ready, and `r` is what a credential of the request computes; or it was not, and `r` is an error. -/
def Evaluation (s : FakeBackend) (request : PrfRequest) (r : Except Stop (Bytes 32)) : Prop :=
  (∃ stop, r = .error stop ∧ Interacts stop) ∨
    (Ready s request ∧ ∃ device ∈ s.devices, ∃ credential, Answering device request credential ∧
      r = prf credential request) ∨
    ¬ Ready s request ∧ ∃ stop, r = .error stop

section Evaluation

variable {s s₁ s' : FakeBackend} {request : PrfRequest} {r : Except Stop (Bytes 32)}

omit [Primitives] in
theorem ready_congr (h : Unmoved s s') : Ready s' request ↔ Ready s request := by
  constructor
  · rintro ⟨hvisible, hunfailing, hanswering⟩
    rw [h.store.settings.visibleDevices] at hvisible
    rw [h.failNext] at hunfailing
    rw [h.store.devices, h.store.settings.selectedDevice] at hanswering
    exact ⟨hvisible, hunfailing, hanswering⟩
  · rintro ⟨hvisible, hunfailing, hanswering⟩
    rw [← h.store.settings.visibleDevices] at hvisible
    rw [← h.failNext] at hunfailing
    rw [← h.store.devices, ← h.store.settings.selectedDevice] at hanswering
    exact ⟨hvisible, hunfailing, hanswering⟩

theorem Evaluation.after (hunmoved : Unmoved s s₁) (h : Evaluation s₁ request r) :
    Evaluation s request r := by
  rw [Evaluation, ready_congr hunmoved, hunmoved.store.devices] at h
  exact h

/-- A step that moves nothing, and what follows it. -/
theorem evaluation_bind {α : Type} {x : Fake α} {f : α → Fake (Bytes 32)}
    (hx : Leaves x s fun r s' => Unmoved s s' ∧ Errors r Interacts)
    (hf : ∀ a s₁, Unmoved s s₁ → Leaves (f a) s₁ fun r _ => Evaluation s₁ request r) :
    Leaves (x >>= f) s fun r _ => Evaluation s request r := by
  refine leaves_bind hx (fun e s' h => .inl ⟨e, rfl, h.2 e rfl⟩) fun a s₁ h => ?_
  exact (hf a s₁ h.1).mono fun _ _ => Evaluation.after h.1

/-- A stage at which a failure may be scheduled. -/
theorem evaluation_failAt {point : FailurePoint} {f : Unit → Fake (Bytes 32)}
    (hpoint : point ∈ [FailurePoint.selection, .assertion, .verifiedResponse])
    (hf : (∀ failure, s.failNext ≠ some (point, failure)) →
      Leaves (f ()) s fun r _ => Evaluation s request r) :
    Leaves (failAt point >>= f) s fun r _ => Evaluation s request r := by
  by_cases hfailure : ∃ failure, s.failNext = some (point, failure)
  · obtain ⟨failure, hfailure⟩ := hfailure
    have hnot : ¬ Ready s request := fun h => h.unfailing point hpoint failure hfailure
    refine leaves_bind (leaves_failAt_of_eq hfailure) (fun e s₁ h => ?_) fun _ s₁ h => ?_
    · exact .inr (.inr ⟨hnot, e, rfl⟩)
    · cases h.1
  · have hnone : ∀ failure, s.failNext ≠ some (point, failure) :=
      fun failure h => hfailure ⟨failure, h⟩
    refine leaves_bind (leaves_failAt_of_ne hnone) (fun e s₁ h => ?_) fun _ s₁ h => ?_
    · cases h.1
    · obtain ⟨-, rfl⟩ := h
      exact hf hnone

omit [Primitives] in
/-- A ready device answers with the credential that is looked up on it. -/
theorem Ready.answers (h : Ready s request) {device : FakeDevice}
    (hdevice : s.devices[s.selectedDevice]? = some device) :
    ∃ credential, Answering device request credential := by
  obtain ⟨device', credential, hdevice', hanswering⟩ := h.answering
  rw [hdevice] at hdevice'
  cases hdevice'
  exact ⟨credential, hanswering⟩

/-- **Every end of an evaluation.** -/
theorem leaves_evaluate_cases :
    Leaves (evaluate request) s fun r _ => Evaluation s request r := by
  unfold evaluate select
  simp only [bind_assoc]
  refine evaluation_bind (unmoved_count _ s) fun _ s₁ _ => ?_
  refine evaluation_failAt (by simp) fun hselection => ?_
  apply leaves_get_bind
  refine leaves_except_bind (fun e he => ?_) fun _ hvisible => ?_
  · obtain ⟨hnot, rfl⟩ := require_eq_error.mp he
    exact .inr (.inr ⟨fun h => hnot h.visible, _, rfl⟩)
  rw [require_eq_ok] at hvisible
  have htouch : Leaves (s₁.selectionTouch request.operation request.credential.label
      request.credential.policy) s₁ fun r s' => Unmoved s₁ s' ∧ Errors r Interacts := by
    unfold selectionTouch
    split
    · exact unmoved_interact _ _
    · exact leaves_pure ⟨refl_of Unmoved s₁, errors_ok ⟨_, rfl⟩⟩
  refine evaluation_bind htouch fun _ s₂ h₂ => ?_
  rw [pure_bind]
  have hpin : Leaves (assertionPin request.credential request.operation) s₂ fun r s' =>
      Unmoved s₂ s' ∧ Errors r Interacts := by
    unfold assertionPin
    split
    · refine leaves_bind (unmoved_interact _ s₂) (fun e s' h => ⟨h.1, fun e' he' => ?_⟩)
        fun _ s' h => leaves_pure ⟨h.1, errors_ok ⟨_, rfl⟩⟩
      cases he'
      exact h.2 e rfl
    · exact leaves_pure ⟨refl_of Unmoved s₂, errors_ok ⟨_, rfl⟩⟩
  refine evaluation_bind hpin fun _ s₃ h₃ => ?_
  refine evaluation_bind (unmoved_interact _ s₃) fun _ s₄ h₄ => ?_
  refine evaluation_bind (unmoved_count _ s₄) fun _ s₅ h₅ => ?_
  have hunmoved : Unmoved s₁ s₅ :=
    trans_of Unmoved (trans_of Unmoved h₂ h₃) (trans_of Unmoved h₄ h₅)
  rw [← hunmoved.failNext] at hselection
  rw [← hunmoved.store.settings.visibleDevices] at hvisible
  rw [← hunmoved.store.settings.selectedDevice]
  refine evaluation_failAt (by simp) fun hassertion => ?_
  refine evaluation_failAt (by simp) fun hresponse => ?_
  have hunfailing : ∀ point ∈ [FailurePoint.selection, .assertion, .verifiedResponse], ∀ failure,
      s₅.failNext ≠ some (point, failure) := by
    intro point hpoint
    simp only [List.mem_cons, List.not_mem_nil, or_false] at hpoint
    rcases hpoint with rfl | rfl | rfl
    · exact hselection
    · exact hassertion
    · exact hresponse
  -- what is left reads the device: a check that fails says that it was not ready
  apply leaves_get_bind
  refine leaves_except_bind (fun e he => .inr (.inr ⟨fun h => ?_, e, rfl⟩)) fun device hdevice => ?_
  · obtain ⟨device, credential, hdevice, -⟩ := h.answering
    rw [deviceAt_eq_ok.mpr hdevice] at he
    cases he
  rw [deviceAt_eq_ok] at hdevice
  refine leaves_except_bind (fun e he => .inr (.inr ⟨fun h => ?_, e, rfl⟩))
    fun credential hfound => ?_
  · obtain ⟨credential, hanswering⟩ := h.answers hdevice
    rw [hanswering.found] at he
    cases he
  rw [okOr_eq_ok] at hfound
  have hanswers : Ready s₅ request → Answering device request credential := by
    intro h
    obtain ⟨credential', hanswering⟩ := h.answers hdevice
    have hsame := hanswering.found
    rw [hfound] at hsame
    cases hsame
    exact hanswering
  refine leaves_except_bind (fun e he => .inr (.inr ⟨fun h => ?_, e, rfl⟩)) fun _ happ => ?_
  · exact (require_eq_error.mp he).1 (hanswers h).application
  refine leaves_except_bind (fun e he => .inr (.inr ⟨fun h => ?_, e, rfl⟩)) fun _ hkey => ?_
  · exact (require_eq_error.mp he).1 (hanswers h).key
  refine leaves_except_bind (fun e he => .inr (.inr ⟨fun h => ?_, e, rfl⟩)) fun _ hpolicy => ?_
  · exact (require_eq_error.mp he).1 (hanswers h).policy
  have hanswering : Answering device request credential :=
    ⟨hfound, require_eq_ok.mp happ, require_eq_ok.mp hkey, require_eq_ok.mp hpolicy⟩
  have hready : Ready s₅ request :=
    ⟨hvisible, hunfailing, device, credential, hdevice, hanswering⟩
  exact leaves_except (.inr (.inl ⟨hready, device, List.mem_of_getElem? hdevice, credential,
    hanswering, rfl⟩))

end Evaluation

/-! ## The backend as a world -/

section World

variable [ManagedSessions] {s s' : FakeBackend} {request : PrfRequest}

omit [ManagedSessions] in
/-- An evaluation during an enrollment computes the PRF as well. -/
theorem leaves_evaluateManagedOnDevice (hs : s.Rooted) (device : Nat) :
    Leaves (evaluateManagedOnDevice device request) s fun r _ =>
      ∀ b, r = .ok b → b = fakePrf.answer request := by
  refine (sameStore_interact _).leaves_bind (fun _ _ _ => by simp) fun _ s₁ h₁ => ?_
  refine (sameStore_count _).leaves_bind (fun _ _ _ => by simp) fun _ s₂ h₂ => ?_
  refine (sameStore_failAt _).leaves_bind (fun _ _ _ => by simp) fun _ s₃ h₃ => ?_
  refine (sameStore_failAt _).leaves_bind (fun _ _ _ => by simp) fun _ s₄ h₄ => ?_
  have hsame : SameStore s s₄ :=
    trans_of SameStore (trans_of SameStore h₁ h₂) (trans_of SameStore h₃ h₄)
  apply leaves_get_bind
  refine leaves_except_bind (fun _ _ => by simp) fun credential hcredential => ?_
  obtain ⟨held, hheld, hfound, -⟩ := managedCredential_eq_ok.mp hcredential
  refine leaves_except fun b hb => ?_
  have hrooted : s₄.Rooted := hsame.keepsRooted hs
  exact prf_eq_ok (hrooted held (List.mem_of_getElem? hheld) _ _ hfound) hb

/-- **The backend answers with its PRF.** -/
theorem Rooted.honest (hs : s.Rooted) {event : Event host} (hstep : Step s event s') :
    Honest fakePrf event := by
  obtain ⟨query, reply⟩ := event
  cases query with
  | evaluate request =>
      intro b hb
      have hends := Answers.leaves hstep leaves_evaluate_cases
      rw [hb] at hends
      rcases hends with ⟨stop, hstop, -⟩ | ⟨-, device, hdevice, credential, hanswering, hprf⟩ |
        ⟨-, stop, hstop⟩
      · cases hstop
      · exact prf_eq_ok (hs device hdevice _ _ hanswering.found) hprf.symm
      · cases hstop
  | evaluateManagedEnrollment enrollment request =>
      intro b hb
      have hleaves : Leaves (evaluateManagedEnrollment enrollment request) s fun r _ =>
          ∀ b, r = .ok b → b = fakePrf.answer request := by
        unfold evaluateManagedEnrollment
        split
        · exact leaves_evaluateManagedOnDevice hs _
        · exact leaves_throw fun b hb => by cases hb
      have hends := Answers.leaves hstep hleaves
      rw [hb] at hends
      exact hends b rfl
  | _ => trivial

/-- The backend in memory, which its calls and the scenarios of a test change. -/
def world : DeviceWorld FakeBackend where
  step := Step
  moves := Change

theorem honors : world.Honors fakePrf Rooted where
  step _ _ _ hs hstep := ⟨hs.step hstep, hs.honest hstep⟩
  move _ _ hs hmove := hs.change hmove

end World

/-! ## Unlocking over the backend -/

section Unlocking

variable {q : KeyProtector} {e : KeyEnvelope} {record : RecipientRecord}

end Unlocking

variable [ManagedSessions]

end FakeBackend

end FidoKeyWrap
