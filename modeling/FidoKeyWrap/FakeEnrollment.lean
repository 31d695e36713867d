/-
# FidoKeyWrap.FakeEnrollment — no managed credential is orphaned in memory.

The protector over the authenticators in memory. A managed enrollment adds one credential, and what
may fail after that ends in a cleanup on the device that holds it. So an operation that fails leaves
the devices as they were, or says that the credential may remain; one that succeeds leaves exactly
the credential its record names. No other credential is ever touched: the protector asks only for
the removal of the one it just made, whose id no device knew.
-/
import FidoKeyWrap.FakeStore
import FidoKeyWrap.Session

namespace FidoKeyWrap

open ByteData Interact FakeBackend

/-! ## What an operation leaves -/

/-- **`Kept s s'`** — every credential of `s` is in `s'`, on its device. -/
def Kept (s s' : FakeBackend) : Prop :=
  ∀ (i : Nat) (device : FakeDevice) id credential, s.devices[i]? = some device →
    device.credentials.lookup id = some credential →
    ∃ device' : FakeDevice, s'.devices[i]? = some device' ∧
      device'.credentials.lookup id = some credential

/-- **`Added s s' id credential`** — the devices of `s'` are those of `s` with one credential more,
under a new id, on the selected device. -/
structure Added (s s' : FakeBackend) (id : ByteString) (credential : FakeCredential) : Prop where
  selected : s.selectedDevice < s.devices.length
  fresh : ∀ device ∈ s.devices, device.credentials.lookup id = none
  devices : s'.devices = s.devices.modify s.selectedDevice fun device =>
    { device with credentials := device.credentials.insert id credential }

section Devices

variable {s s' : FakeBackend} {id : ByteString} {credential : FakeCredential}

theorem erase_insert_of_fresh {m : Finmap fun _ : ByteString => FakeCredential}
    (h : m.lookup id = none) : (m.insert id credential).erase id = m := by
  refine Finmap.ext_lookup fun key => ?_
  by_cases hkey : key = id
  · rw [hkey, Finmap.lookup_erase, h]
  · rw [Finmap.lookup_erase_ne hkey, Finmap.lookup_insert_of_ne m hkey]

/-- Removing what was added gives back the devices. -/
theorem Added.removed (h : Added s s' id credential) :
    (s'.removeCredential s.selectedDevice id).devices = s.devices := by
  unfold removeCredential updateDevice
  rw [h.devices]
  apply List.ext_getElem?
  intro i
  rw [List.getElem?_modify, List.getElem?_modify]
  cases hdevice : s.devices[i]? with
  | none => rfl
  | some device =>
      have hfresh := h.fresh device (List.mem_of_getElem? hdevice)
      by_cases hi : s.selectedDevice = i
      · simp [hi, erase_insert_of_fresh hfresh]
      · simp [hi]

theorem Added.found (h : Added s s' id credential) :
    ∃ device : FakeDevice, s'.devices[s.selectedDevice]? = some device ∧
      device.credentials.lookup id = some credential := by
  rw [h.devices, List.getElem?_modify, List.getElem?_eq_getElem h.selected]
  refine ⟨_, rfl, ?_⟩
  dsimp only
  rw [if_pos rfl]
  exact Finmap.lookup_insert _

theorem kept_of_devices (h : s'.devices = s.devices) : Kept s s' := by
  intro i device id credential hdevice hfound
  exact ⟨device, h ▸ hdevice, hfound⟩

theorem Added.kept (h : Added s s' id credential) : Kept s s' := by
  intro i device key old hdevice hfound
  have hne : key ≠ id := by
    rintro rfl
    rw [h.fresh device (List.mem_of_getElem? hdevice)] at hfound
    cases hfound
  rw [h.devices, List.getElem?_modify, hdevice]
  refine ⟨_, rfl, ?_⟩
  dsimp only
  split
  · exact (Finmap.lookup_insert_of_ne _ hne).trans hfound
  · exact hfound

theorem added_of_seeded (hs : Valid s) (h : Seeded s s' credential) :
    Added s s' (credentialId s.nextId) credential := by
  have hbounded := h.bounded
  exact ⟨hs.selected, fun device hdevice => hs.fresh device hdevice s.nextId le_rfl (by omega),
    h.devices⟩

end Devices

/-! ## The ends of an operation -/

section Protector

variable [Primitives]

/-- The id was drawn by this operation, and the envelope has no record with it. -/
def Fresh (e : KeyEnvelope) (t : Trace host) (id : RecipientId) : Prop :=
  (⟨.random 32, some id.asBytes⟩ : Event host) ∈ t ∧ ∃ error, e.find id = .error error

/-- **`Failed s e t error s'`** — the devices are as before, or the operation says that a credential
may remain and at most one was added, with a fresh recipient id as its user id. -/
def Failed (s : FakeBackend) (e : KeyEnvelope) (t : Trace host) (error : Error)
    (s' : FakeBackend) : Prop :=
  s'.devices = s.devices ∨ error = .authenticator .credentialMayRemain ∧
    ∃ id credential recipient, Fresh e t recipient ∧ Added s s' id credential ∧
      credential.storage = .managed ∧ credential.userId = some recipient

/-- **`Ends s e t r s'`** — how an operation that enrolls a managed credential may end: with exactly
one credential more, which the new record names, or as a failure. -/
def Ends (s : FakeBackend) (e : KeyEnvelope) (t : Trace host)
    (r : Result (KeyEnvelope × RecipientId)) (s' : FakeBackend) : Prop :=
  match r with
  | .error error => Failed s e t error s'
  | .ok (e', recipient) => ∃ (record : FidoRecipient) (credential : FakeCredential),
    Fresh e t recipient ∧ e'.find recipient = .ok (.fido record) ∧ record.storage = .managed ∧
      Added s s' record.credentialId credential ∧ credential.storage = .managed ∧
      credential.userId = some recipient ∧ credential.publicKey = record.publicKey ∧
      credential.enrollmentPolicy = record.policy

theorem Fresh.append {e : KeyEnvelope} {t : Trace host} {id : RecipientId} (h : Fresh e t id)
    (t' : Trace host) : Fresh e (t ++ t') id :=
  ⟨List.mem_append_left t' h.1, h.2⟩

theorem Fresh.prepend {e : KeyEnvelope} {t : Trace host} {id : RecipientId} (h : Fresh e t id)
    (t' : Trace host) : Fresh e (t' ++ t) id :=
  ⟨List.mem_append_right t' h.1, h.2⟩

theorem Failed.prepend {s s' : FakeBackend} {e : KeyEnvelope} {t : Trace host} {error : Error}
    (h : Failed s e t error s') (t' : Trace host) : Failed s e (t' ++ t) error s' := by
  rcases h with hsame | ⟨herror, id, credential, recipient, hfresh, hrest⟩
  · exact .inl hsame
  · exact .inr ⟨herror, id, credential, recipient, hfresh.prepend t', hrest⟩

theorem Ends.prepend {s s' : FakeBackend} {e : KeyEnvelope} {t : Trace host}
    {r : Result (KeyEnvelope × RecipientId)} (h : Ends s e t r s') (t' : Trace host) :
    Ends s e (t' ++ t) r s' := by
  cases r with
  | error error => exact Failed.prepend h t'
  | ok a =>
      obtain ⟨record, credential, hfresh, hrest⟩ := h
      exact ⟨record, credential, hfresh.prepend t', hrest⟩

theorem Failed.kept {s s' : FakeBackend} {e : KeyEnvelope} {t : Trace host} {error : Error}
    (h : Failed s e t error s') : Kept s s' := by
  rcases h with hsame | ⟨-, _, _, _, -, hadded, -⟩
  · exact kept_of_devices hsame
  · exact hadded.kept

theorem Ends.kept {s s' : FakeBackend} {e : KeyEnvelope} {t : Trace host}
    {r : Result (KeyEnvelope × RecipientId)} (h : Ends s e t r s') : Kept s s' := by
  cases r with
  | error error => exact Failed.kept h
  | ok a =>
      obtain ⟨_, _, -, -, -, hadded, -⟩ := h
      exact hadded.kept

theorem fresh_of_uniqueRecipientId {e : KeyEnvelope} {t : Trace host} {id : RecipientId}
    (h : (KeyProtector.uniqueRecipientId e).run.Runs t (.ok id)) : Fresh e t id := by
  constructor
  · obtain ⟨t₁, t₂, rfl, hdraw⟩ := attempts_last h
    obtain ⟨t₃, bytes, t₄, rfl, hrandom, rfl, hid⟩ := Fallible.runs_bind_ok.mp hdraw
    cases hid
    rw [runs_randomArray_ok.mp hrandom]
    simp
  · have haccepted := attempts_accepts h
    cases hfind : e.find id with
    | ok record =>
        rw [hfind] at haccepted
        cases haccepted
    | error error => exact ⟨error, rfl⟩

/-- The record of a finished enrollment is that of its credential. -/
theorem runs_finishManagedFidoRecipient_ok {p : KeyProtector} {e : KeyEnvelope} {root : RootKey}
    {id : RecipientId} {label : String} {policy : FidoPolicy} {operation : Operation}
    {enrollment : ManagedEnrollment} {t : Trace host} {record : RecipientRecord}
    {keys : RecoveryKeys}
    (h : (p.finishManagedFidoRecipient e root id label policy operation enrollment).run.Runs t
      (.ok (record, keys))) :
    ∃ fido : FidoRecipient, record = .fido fido ∧ fido.id = id ∧ fido.policy = policy ∧
      fido.label = label ∧ fido.storage = .managed ∧
      fido.credentialId = enrollment.credential.credentialId ∧
      fido.publicKey = enrollment.credential.publicKey := by
  unfold KeyProtector.finishManagedFidoRecipient at h
  simp only [↓Fallible.runs_except_bind_ok, Fallible.runs_bind_ok, Fallible.runs_pure] at h
  obtain ⟨-, -, t₁, prfNonce, _, rfl, -, t₂, fidoNonce, _, rfl, -, input, -, t₃, reply, _, rfl, -,
    prf, -, key, -, wrappedRoot, -, rfl, hok⟩ := h
  cases hok
  exact ⟨_, rfl, rfl, rfl, rfl, rfl, rfl, rfl⟩

/-! ## The session of an enrollment -/

variable [ManagedSessions]

/-- **`Owns s p id policy enrollment credential`** — the enrollment, made in the state `s`, is the
session of the credential. -/
structure Owns (s : FakeBackend) (p : KeyProtector) (id : RecipientId) (policy : FidoPolicy)
    (enrollment : ManagedEnrollment) (credential : FakeCredential) : Prop where
  session : enrollment.managedSession = .fake s.selectedDevice
  enrolledPolicy : enrollment.policy = policy
  material : enrollment.credential = ⟨credentialId s.nextId, credential.publicKey⟩
  application : credential.applicationId = p.applicationId.asStr
  enrollmentPolicy : credential.enrollmentPolicy = policy
  storage : credential.storage = .managed
  user : credential.userId = some id

/-- The credential was added under the next number, and nothing else changed on the devices. -/
abbrev Retains (s₀ : FakeBackend) (credential : FakeCredential) (s : FakeBackend) : Prop :=
  Added s₀ s (credentialId s₀.nextId) credential

section Session

variable {s₀ s : FakeBackend} {p : KeyProtector} {id : RecipientId} {policy : FidoPolicy}
  {enrollment : ManagedEnrollment} {credential : FakeCredential} {e : KeyEnvelope} {root : RootKey}
  {label : String} {operation : Operation}

/-- The credential of an enrollment, as the protector names it to the backend. -/
def enrolledBinding (p : KeyProtector) (enrollment : ManagedEnrollment) (id : RecipientId)
    (label : String) : CredentialBinding where
  applicationId := p.applicationId
  recipientId := id
  credentialId := enrollment.credential.credentialId
  publicKey := enrollment.credential.publicKey
  policy := enrollment.policy
  label := label

/-- The request of a cleanup is one the backend knows. -/
theorem Owns.managedCredential (h : Owns s₀ p id policy enrollment credential)
    (hs : Retains s₀ credential s) :
    s.managedCredential s₀.selectedDevice
      ⟨enrolledBinding p enrollment id label, operation⟩ = .ok credential := by
  obtain ⟨held, hheld, hfound⟩ := hs.found
  rw [managedCredential_eq_ok]
  refine ⟨held, hheld, ?_, ⟨h.application, h.storage, h.user, ?_⟩, ?_⟩
  · rw [enrolledBinding, h.material]
    exact hfound
  · exact h.enrollmentPolicy.trans h.enrolledPolicy.symm
  · rw [enrolledBinding, h.material]

/-- An event that is no backend call keeps the world. -/
theorem keeps_random {P : FakeBackend → Prop} {n : Nat} {reply : Option (Bytes n)} :
    Keeps FakeBackend.Step P ⟨.random n, reply⟩ := by
  intro s s' hstep hs
  obtain rfl : s' = s := hstep
  exact hs

theorem keeps_evaluateManagedEnrollment {request : PrfRequest} {reply : DeviceReply (Bytes 32)} :
    Keeps FakeBackend.Step (Retains s₀ credential)
      ⟨.evaluateManagedEnrollment enrollment request, reply⟩ := by
  intro s s' hstep hs
  have hsame : SameStore s s' :=
    Answers.leaves hstep (sameStore_evaluateManagedEnrollment enrollment request s)
  exact ⟨hs.selected, hs.fresh, hsame.devices.trans hs.devices⟩

theorem every_of_drawn {α : Type} {P : FakeBackend → Prop} {x : Host α}
    (h : ∀ t r, x.run.Runs t r → Drawn t) : Program.Every (Keeps FakeBackend.Step P) x.run := by
  intro t r hrun event hmem
  obtain ⟨n, reply, rfl⟩ := h t r hrun event hmem
  exact keeps_random

/-- What follows a managed enrollment keeps the devices. -/
theorem keeps_finishManagedFidoRecipient :
    Program.Every (Keeps FakeBackend.Step (Retains s₀ credential))
      (p.finishManagedFidoRecipient e root id label policy operation enrollment).run := by
  refine Fallible.every_except_bind fun _ _ => ?_
  refine Fallible.every_bind (every_of_drawn fun _ _ => drawn_randomArray) fun prfNonce => ?_
  refine Fallible.every_bind (every_of_drawn fun _ _ => drawn_randomArray) fun fidoNonce => ?_
  refine Fallible.every_except_bind fun _ _ => ?_
  refine Fallible.every_bind ?_ fun reply => ?_
  · intro t r hrun event hmem
    obtain ⟨reply, rfl, -⟩ := runs_ask.mp hrun
    rw [List.mem_singleton.mp hmem]
    exact keeps_evaluateManagedEnrollment
  · refine Fallible.every_except_bind fun _ _ => ?_
    refine Fallible.every_except_bind fun _ _ => ?_
    refine Fallible.every_except_bind fun _ _ => ?_
    exact Program.every_pure _

omit [Primitives] [ManagedSessions] in
theorem kept_of_retains : ∀ s, Retains s₀ credential s → Kept s₀ s := fun _ h => h.kept

/-- A query of the protector, answered by the backend in memory. -/
theorem triple_ask_bind {α : Type} {I P : FakeBackend → Prop}
    {Q : Trace host → Result α → FakeBackend → Prop} (query : Query)
    (R : query.Reply → FakeBackend → Prop) {f : query.Reply → Host α} (hI : ∀ s, P s → I s)
    (hstep : ∀ s reply s', P s → FakeBackend.Step s ⟨query, reply⟩ s' → I s' ∧ R reply s')
    (hf : ∀ reply, Program.Triple FakeBackend.Step I (R reply) (f reply).run fun t =>
      Q (⟨query, reply⟩ :: t)) :
    Program.Triple FakeBackend.Step I P (ask query >>= f).run Q :=
  Fallible.triple_ask_bind hI hstep hf

/-- **The cleanup.** It leaves the devices as they were before the enrollment, or the operation says
that the credential may remain. -/
theorem triple_cleanupFailedManagedEnrollment (h : Owns s₀ p id policy enrollment credential)
    (original : Error) :
    Program.Triple FakeBackend.Step (Kept s₀) (Retains s₀ credential)
      (p.cleanupFailedManagedEnrollment enrollment id label original).run fun _ r s =>
        ∃ error, r = .ok error ∧ (s.devices = s₀.devices ∨
          error = .authenticator .credentialMayRemain ∧ Retains s₀ credential s) := by
  let request : ManagedRequest :=
    ⟨enrolledBinding p enrollment id label, .retireManagedRecipient⟩
  have hid : request.credential.credentialId = credentialId s₀.nextId := by
    show enrollment.credential.credentialId = _
    rw [h.material]
  refine triple_ask_bind (.cleanupManagedEnrollment enrollment request)
    (fun reply s => s.devices = s₀.devices ∨
      (∃ error, reply.result = .error error) ∧ Retains s₀ credential s)
    kept_of_retains (fun s reply s' hs hstep => ?_) fun reply => ?_
  · have hcleanup := Answers.leaves hstep (Q := fun r s' =>
        MayRemove s₀.selectedDevice request.credential.credentialId s s' ∧ (r = .ok () →
          s'.devices = (s.removeCredential s₀.selectedDevice
            request.credential.credentialId).devices)) ?_
    · obtain ⟨hremove, hok⟩ := hcleanup
      rw [hid, hs.removed] at hok
      have hdevices := hremove.devices
      rw [hid, hs.removed] at hdevices
      cases hresult : reply.result with
      | ok u =>
          have hgone := hok (by rw [hresult]; rfl)
          exact ⟨kept_of_devices hgone, .inl hgone⟩
      | error error =>
          rcases hdevices with hsame | hgone
          · have hretains : Retains s₀ credential s' :=
              ⟨hs.selected, hs.fresh, hsame.trans hs.devices⟩
            exact ⟨hretains.kept, .inr ⟨⟨error, rfl⟩, hretains⟩⟩
          · exact ⟨kept_of_devices hgone, .inl hgone⟩
    · unfold cleanupManagedEnrollment
      rw [h.session]
      refine (leaves_cleanupManagedEnrollmentOnDevice request s).mono fun r s' hr => ?_
      exact ⟨hr.1, fun hok => hr.2 hok ⟨credential, h.managedCredential hs⟩⟩
  · refine Program.triple_pure (fun s hs => ?_) fun s hs => ⟨_, rfl, ?_⟩
    · rcases hs with hgone | ⟨-, hretains⟩
      · exact kept_of_devices hgone
      · exact hretains.kept
    · rcases hs with hgone | ⟨⟨error, herror⟩, hretains⟩
      · exact .inl hgone
      · rw [herror]
        exact .inr ⟨rfl, hretains⟩

theorem failed_of_cleanup {t : Trace host} {error : Error} {original : FakeBackend}
    (h : Owns s₀ p id policy enrollment credential) (hfresh : Fresh e t id)
    (hcleanup : original.devices = s₀.devices ∨
      error = .authenticator .credentialMayRemain ∧ Retains s₀ credential original) :
    Failed s₀ e t error original := by
  rcases hcleanup with hgone | ⟨rfl, hretains⟩
  · exact .inl hgone
  · exact .inr ⟨rfl, _, credential, id, hfresh, hretains, h.storage, h.user⟩

/-- **`Made s₀ p policy e t fido enrollment credential`** — the record and the session of an
enrollment that succeeded name the credential that was added to `s₀`. -/
structure Made (s₀ : FakeBackend) (p : KeyProtector) (policy : FidoPolicy) (e : KeyEnvelope)
    (t : Trace host) (fido : FidoRecipient) (enrollment : ManagedEnrollment)
    (credential : FakeCredential) : Prop where
  storage : fido.storage = .managed
  fresh : Fresh e t fido.id
  owns : Owns s₀ p fido.id policy enrollment credential
  credentialId : fido.credentialId = FakeBackend.credentialId s₀.nextId
  publicKey : fido.publicKey = credential.publicKey
  policy : fido.policy = policy

/-- The tail of a managed enrollment: the record, or the cleanup. -/
theorem triple_finishOrCleanup (root : RootKey) (label : String) (operation : Operation)
    {t₁ : Trace host} (h : Owns s₀ p id policy enrollment credential) (hfresh : Fresh e t₁ id) :
    Program.Triple FakeBackend.Step (Kept s₀) (Retains s₀ credential)
      (do
        let result ← Fallible.outcome
          (p.finishManagedFidoRecipient e root id label policy operation enrollment)
        match result with
        | .ok (record, keys) => return (record, keys, some enrollment)
        | .error error =>
          throw (← p.cleanupFailedManagedEnrollment enrollment id label error) :
          Host (RecipientRecord × RecoveryKeys × Option ManagedEnrollment)).run
      fun t r s => match r with
        | .ok (record, _, managed) => ∃ fido, record = .fido fido ∧ managed = some enrollment ∧
          Made s₀ p policy e (t₁ ++ t) fido enrollment credential ∧ Retains s₀ credential s
        | .error error => Failed s₀ e (t₁ ++ t) error s := by
  refine Fallible.triple_outcome_bind
    (Program.triple_keeps keeps_finishManagedFidoRecipient kept_of_retains) fun t₂ result => ?_
  cases result with
  | ok finished =>
      obtain ⟨record, keys⟩ := finished
      refine Program.triple_pure (fun s hs => hs.2.kept) fun s hs => ?_
      obtain ⟨hrun, hretains⟩ := hs
      obtain ⟨fido, rfl, rfl, hpolicy, -, hstorage, hid, hkey⟩ :=
        runs_finishManagedFidoRecipient_ok hrun
      rw [h.material] at hid hkey
      exact ⟨fido, rfl, rfl, ⟨hstorage, hfresh.append _, h, hid, hkey, hpolicy⟩, hretains⟩
  | error error =>
      refine Fallible.triple_bind
        ((triple_cleanupFailedManagedEnrollment h error).mono (fun _ hs => hs.2) fun _ _ _ hq => hq)
        (fun t₃ error' s hs => ?_) fun t₃ error' => ?_
      · obtain ⟨_, hok, -⟩ := hs
        cases hok
      · have hends : ∀ s, (∃ e', (Except.ok error' : Result Error) = .ok e' ∧
            (s.devices = s₀.devices ∨
              e' = .authenticator .credentialMayRemain ∧ Retains s₀ credential s)) →
            s.devices = s₀.devices ∨
              error' = .authenticator .credentialMayRemain ∧ Retains s₀ credential s := by
          rintro s ⟨e', hsame, hcases⟩
          cases hsame
          exact hcases
        refine Fallible.triple_throw (fun s hs => ?_) fun s hs =>
          failed_of_cleanup h (hfresh.append _) (hends s hs)
        rcases hends s hs with hgone | ⟨-, hretains⟩
        · exact kept_of_devices hgone
        · exact hretains.kept

/-- **The managed enrollment.** -/
theorem triple_enrollManagedFidoRecipient (hs₀ : Valid s₀) :
    Program.Triple FakeBackend.Step (Kept s₀) (fun s => s = s₀)
      (p.enrollManagedFidoRecipient e root label policy operation).run
      fun t r s => match r with
        | .ok (record, _, managed) => ∃ fido enrollment credential, record = .fido fido ∧
          managed = some enrollment ∧ Made s₀ p policy e t fido enrollment credential ∧
          Retains s₀ credential s
        | .error error => Failed s₀ e t error s := by
  have hkept : ∀ s, s = s₀ → Kept s₀ s := fun s hs => kept_of_devices (congrArg _ hs)
  unfold KeyProtector.enrollManagedFidoRecipient
  refine Fallible.triple_keeps_bind (every_of_drawn fun _ _ => drawn_uniqueRecipientId) hkept
    (fun t error s hs => .inl (congrArg _ hs)) fun t₁ id hdraw => ?_
  have hfresh := fresh_of_uniqueRecipientId hdraw
  refine triple_ask_bind (.enrollManaged p.applicationId id policy label operation)
    (fun reply s => Enrolls p.applicationId id policy s₀ (reply.result.mapError Stop.error) s) hkept
    (fun s reply s' hs hstep => ?_) fun reply => ?_
  · obtain rfl := hs
    have henrolls := Answers.leaves hstep (enrolls_enrollManaged s)
    refine ⟨?_, henrolls⟩
    generalize reply.result.mapError Stop.error = r at henrolls
    cases henrolls with
    | enrolled hseeded => exact (added_of_seeded hs₀ hseeded.seeded).kept
    | failed hsame => exact kept_of_devices hsame.devices
    | remains hseeded => exact (added_of_seeded hs₀ hseeded.seeded).kept
    | panicked hskipped => exact kept_of_devices hskipped.devices
  · cases hresult : reply.result with
    | error error =>
        refine Program.triple_pure (fun s henrolls => ?_) fun s henrolls => ?_
        · cases henrolls with
          | failed hsame => exact kept_of_devices hsame.devices
          | remains hseeded => exact (added_of_seeded hs₀ hseeded.seeded).kept
        · cases henrolls with
          | failed hsame => exact .inl hsame.devices
          | remains hseeded =>
              exact .inr ⟨rfl, _, _, id, hfresh.append _, added_of_seeded hs₀ hseeded.seeded,
                hseeded.storage, hseeded.user⟩
    | ok enrollment =>
        -- the enrollment is the session of the credential that was added
        intro s t r henrolls hrun
        cases henrolls with
        | @enrolled _ credential _ hseeded hsession hpolicy hmaterial =>
            have howns : Owns s₀ p id policy enrollment credential :=
              ⟨hsession, hpolicy, hmaterial, hseeded.application, hseeded.policy, hseeded.storage,
                hseeded.user⟩
            have htail := triple_finishOrCleanup root label operation howns
              (hfresh.append [(⟨.enrollManaged p.applicationId id policy label operation, reply⟩ :
                Event host)])
            obtain ⟨hmid, hend⟩ := htail s t r (added_of_seeded hs₀ hseeded.seeded) hrun
            refine ⟨hmid, fun s' hpath => ?_⟩
            have hr := hend s' hpath
            simp only [List.append_assoc, List.cons_append, List.nil_append] at hr
            cases r with
            | ok finished =>
                obtain ⟨record, keys, managed⟩ := finished
                obtain ⟨fido, hrecord, hmanaged, hmade, hretains⟩ := hr
                exact ⟨fido, enrollment, credential, hrecord, hmanaged, hmade, hretains⟩
            | error error => exact hr

/-- **Staging.** A record that does not stage cleans its credential up. -/
theorem triple_stageEnrollment {t₁ : Trace host} {fido : FidoRecipient}
    (h : Made s₀ p policy e t₁ fido enrollment credential) (root : RootKey) (keys : RecoveryKeys) :
    Program.Triple FakeBackend.Step (Kept s₀) (Retains s₀ credential)
      (p.stageEnrollment e (.fido fido) root keys (some enrollment)).run fun t r s => match r with
        | .ok staged => Adds root (.fido fido) keys e staged ∧ Retains s₀ credential s
        | .error error => Failed s₀ e (t₁ ++ t) error s := by
  unfold KeyProtector.stageEnrollment
  cases hstage : KeyProtector.stageRecord e (.fido fido) root keys with
  | ok staged =>
      exact Program.triple_pure kept_of_retains fun s hs => ⟨stageRecord_eq_ok hstage, hs⟩
  | error error =>
      obtain ⟨id, label, credentialId, publicKey, policy', storage, prfNonce, fidoNonce, wrapped⟩ :=
        fido
      obtain rfl : storage = .managed := h.storage
      refine Fallible.triple_bind (triple_cleanupFailedManagedEnrollment h.owns error)
        (fun t₃ error' s hs => ?_) fun t₃ error' => ?_
      · obtain ⟨_, hok, -⟩ := hs
        cases hok
      · refine Fallible.triple_throw (fun s hs => ?_) fun s hs => ?_
        · obtain ⟨_, -, hgone | ⟨-, hretains⟩⟩ := hs
          · exact kept_of_devices hgone
          · exact hretains.kept
        · obtain ⟨e', hsame, hends⟩ := hs
          cases hsame
          exact failed_of_cleanup h.owns (h.fresh.append _) hends

/-- An enrollment that is staged ends with the credential of its record. -/
theorem Made.ends {t : Trace host} {fido : FidoRecipient} {keys : RecoveryKeys} {staged : KeyEnvelope}
    (h : Made s₀ p policy e t fido enrollment credential) (t' : Trace host)
    (hadds : Adds root (.fido fido) keys e staged) (hs : Retains s₀ credential s) :
    Ends s₀ e (t ++ t') (.ok (staged, fido.id)) s := by
  have hfind : staged.find fido.id = .ok (.fido fido) :=
    find_of_mem hadds.committed.wellFormed.ascending
      (hadds.inserts.added.mem_iff.mpr List.mem_cons_self)
  refine ⟨fido, credential, h.fresh.append t', hfind, h.storage, ?_, h.owns.storage, h.owns.user,
    h.publicKey.symm, h.owns.enrollmentPolicy.trans h.policy.symm⟩
  rw [h.credentialId]
  exact hs

/-- Enrolling and staging, as the creations and the addition do. -/
theorem triple_enrollAndStage {α : Type} (hs₀ : Valid s₀) {managed : Enrollment}
    (hpolicy : managed.policy = .managedFido policy) (f : KeyEnvelope → RecipientRecord → α) :
    Program.Triple FakeBackend.Step (Kept s₀) (fun s => s = s₀)
      (do
        let (record, keys, enrollment) ← p.enrollRecipient e root managed operation
        let staged ← p.stageEnrollment e record root keys enrollment
        return f staged record : Host α).run
      fun t r s => match r with
        | .ok a => ∃ staged record, a = f staged record ∧ Ends s₀ e t (.ok (staged, record.id)) s
        | .error error => Ends s₀ e t (.error error) s := by
  have henroll : p.enrollRecipient e root managed operation =
      p.enrollManagedFidoRecipient e root managed.label policy operation := by
    unfold KeyProtector.enrollRecipient
    rw [hpolicy]
  rw [henroll]
  refine Fallible.triple_bind (triple_enrollManagedFidoRecipient hs₀) (fun t error s hs => ?_)
    fun t₁ enrolled => ?_
  · exact ⟨Failed.kept hs, hs⟩
  obtain ⟨record, keys, session⟩ := enrolled
  intro s t r hs hrun
  obtain ⟨fido, enrollment, credential, rfl, rfl, hmade, hretains⟩ := hs
  refine Fallible.triple_bind (Q := fun t₂ (r : Result α) s => match r with
      | .ok a => ∃ staged record, a = f staged record ∧
        Ends s₀ e (t₁ ++ t₂) (.ok (staged, record.id)) s
      | .error error => Ends s₀ e (t₁ ++ t₂) (.error error) s)
    (triple_stageEnrollment hmade root keys) (fun t error s hs => ?_) (fun t₂ staged => ?_) s t r
    hretains hrun
  · exact ⟨Failed.kept hs, hs⟩
  · refine Program.triple_pure (fun s hs => hs.2.kept) fun s hs => ?_
    rw [List.append_nil]
    exact ⟨staged, .fido fido, rfl, hmade.ends t₂ hs.1 hs.2⟩

theorem triple_protectRootForOperation (hs₀ : Valid s₀) {managed : Enrollment}
    (hpolicy : managed.policy = .managedFido policy) :
    Program.Triple FakeBackend.Step (Kept s₀) (fun s => s = s₀)
      (p.protectRootForOperation root managed operation).run fun t r s =>
        ∃ envelopeId, Ends s₀ (p.emptyEnvelope envelopeId) t r s := by
  have hkept : ∀ s, s = s₀ → Kept s₀ s := fun s hs => kept_of_devices (congrArg _ hs)
  refine Fallible.triple_except_bind hkept (fun error _ s hs => ?_) fun _ _ => ?_
  · exact ⟨Bytes.zero 32, .inl (congrArg _ hs)⟩
  refine Fallible.triple_keeps_bind (every_of_drawn fun _ _ => drawn_randomArray) hkept
    (fun t error s hs => ⟨Bytes.zero 32, .inl (congrArg _ hs)⟩) fun t₁ envelopeId _ => ?_
  refine (triple_enrollAndStage (e := p.emptyEnvelope envelopeId) hs₀ hpolicy
    fun staged record => (staged, record.id)).mono (fun _ h => h) fun t r s hr => ?_
  cases r with
  | ok a =>
      obtain ⟨staged, record, rfl, hends⟩ := hr
      exact ⟨envelopeId, hends.prepend t₁⟩
  | error error => exact ⟨envelopeId, hr.prepend t₁⟩

omit [ManagedSessions] in
/-- After its checks, an addition enrolls and stages. -/
theorem runs_addRecipient {managed : Enrollment} {e' : KeyEnvelope} {t : Trace host}
    {r : Result RecipientId} (h : (p.addRecipient root managed).Runs e t r e') :
    (∃ error, t = [] ∧ r = .error error) ∨
      (do
        let (record, keys, enrollment) ← p.enrollRecipient e root managed .addRecipient
        let staged ← p.stageEnrollment e record root keys enrollment
        return (staged, record.id) : Host (KeyEnvelope × RecipientId)).run.Runs t
          (r.map fun id => (e', id)) := by
  unfold KeyProtector.addRecipient at h
  rw [Mutating.runs_get_bind] at h
  rcases Mutating.runs_except_bind.mp h with ⟨_, -, h⟩ | ⟨error, -, ht, hr, -⟩
  swap
  · exact .inl ⟨error, ht, hr⟩
  rcases Mutating.runs_except_bind.mp h with ⟨_, -, h⟩ | ⟨error, -, ht, hr, -⟩
  swap
  · exact .inl ⟨error, ht, hr⟩
  rcases Mutating.runs_except_bind.mp h with ⟨_, -, h⟩ | ⟨error, -, ht, hr, -⟩
  swap
  · exact .inl ⟨error, ht, hr⟩
  right
  rcases Mutating.runs_lift_bind.mp h with ⟨t₁, ⟨record, keys, enrollment⟩, t₂, rfl, henroll, h⟩ |
    ⟨error, henroll, rfl, -⟩
  · rcases Mutating.runs_lift_bind.mp h with ⟨t₃, staged, t₄, rfl, hstage, hset⟩ |
      ⟨error, hstage, rfl, -⟩
    · obtain ⟨rfl, hreply⟩ := hset
      cases hreply
      exact Fallible.runs_bind.mpr (.inl ⟨t₁, _, _, rfl, henroll,
        Fallible.runs_bind.mpr (.inl ⟨t₃, _, [], rfl, hstage, rfl, rfl⟩)⟩)
    · exact Fallible.runs_bind.mpr (.inl ⟨t₁, _, t₂, rfl, henroll,
        Fallible.runs_bind.mpr (.inr ⟨error, hstage, rfl⟩)⟩)
  · exact Fallible.runs_bind.mpr (.inr ⟨error, henroll, rfl⟩)

end Session

/-! ## Every run -/

/-- **No managed credential is silently orphaned, with the authenticators in memory.** From every
reachable state of the backend, whatever the application answers and whatever fails, an operation
that enrolls a managed credential ends with exactly one credential more, which its record names; or
says that a credential may remain, with at most one more; or leaves the devices as they were. In
every state on the way, every credential there was is still there. -/
theorem fake_credential_never_orphaned (s₀ : FakeBackend) (hreachable : Reachable s₀)
    (p : KeyProtector) (managed : Enrollment) (policy : FidoPolicy)
    (hpolicy : managed.policy = .managedFido policy) (t : Trace host) :
    (∀ r, (p.createRoot managed).run.Runs t r →
      (∀ t₁ t₂ mid, t = t₁ ++ t₂ → Path FakeBackend.Step s₀ t₁ mid → Kept s₀ mid) ∧
      ∀ s, Path FakeBackend.Step s₀ t s →
        ∃ envelopeId, Ends s₀ (p.emptyEnvelope envelopeId) t (r.map Prod.snd) s) ∧
    (∀ root r, (p.protectRoot root managed).run.Runs t r →
      (∀ t₁ t₂ mid, t = t₁ ++ t₂ → Path FakeBackend.Step s₀ t₁ mid → Kept s₀ mid) ∧
      ∀ s, Path FakeBackend.Step s₀ t s →
        ∃ envelopeId, Ends s₀ (p.emptyEnvelope envelopeId) t r s) ∧
    ∀ root e r e', (p.addRecipient root managed).Runs e t r e' →
      (∀ t₁ t₂ mid, t = t₁ ++ t₂ → Path FakeBackend.Step s₀ t₁ mid → Kept s₀ mid) ∧
      ∀ s, Path FakeBackend.Step s₀ t s → Ends s₀ e t (r.map fun id => (e', id)) s := by
  have hs₀ := valid_of_reachable hreachable
  have hkept : ∀ s, s = s₀ → Kept s₀ s := fun s hs => kept_of_devices (congrArg _ hs)
  refine ⟨fun r hrun => ?_, fun root r hrun => ?_, fun root e r e' hrun => ?_⟩
  · have hcreate : Program.Triple FakeBackend.Step (Kept s₀) (fun s => s = s₀)
        (p.createRoot managed).run fun t r s =>
          ∃ envelopeId, Ends s₀ (p.emptyEnvelope envelopeId) t (r.map Prod.snd) s := by
      refine Fallible.triple_keeps_bind (every_of_drawn fun _ _ => drawn_make) hkept
        (fun t error s hs => ⟨Bytes.zero 32, .inl (congrArg _ hs)⟩) fun t₁ root _ => ?_
      refine Fallible.triple_bind (triple_protectRootForOperation hs₀ hpolicy)
        (fun t₂ error s hs => ?_) fun t₂ created => ?_
      · obtain ⟨envelopeId, hends⟩ := hs
        exact ⟨hends.kept, envelopeId, hends.prepend t₁⟩
      · refine Program.triple_pure (fun s hs => hs.elim fun _ hends => hends.kept) fun s hs => ?_
        obtain ⟨envelopeId, hends⟩ := hs
        rw [List.append_nil]
        exact ⟨envelopeId, hends.prepend t₁⟩
    exact hcreate s₀ t r rfl hrun
  · exact triple_protectRootForOperation hs₀ hpolicy s₀ t r rfl hrun
  · rcases runs_addRecipient hrun with ⟨error, rfl, rfl⟩ | henrolls
    · constructor
      · intro t₁ t₂ mid hsplit hpath
        obtain ⟨rfl, -⟩ := List.append_eq_nil_iff.mp hsplit.symm
        exact hkept mid hpath
      · exact fun s hpath => .inl (congrArg _ hpath)
    · obtain ⟨hmid, hend⟩ := triple_enrollAndStage (e := e) hs₀ hpolicy
        (fun staged record => (staged, record.id)) s₀ t _ rfl henrolls
      refine ⟨hmid, fun s hpath => ?_⟩
      have hr := hend s hpath
      cases r with
      | error error => exact hr
      | ok id =>
          obtain ⟨staged, record, hsame, hends⟩ := hr
          cases hsame
          exact hends

end Protector

/-! ## One enrollment -/

namespace FakeVector

/-- The generator is a point, and the two roots of the first credential. -/
@[reducible] def primitives : Primitives :=
  { Recording.primitives
      { points := [4 :: generator.toList]
        sha256 := [
          (utf8 "fido-key-wrap deterministic test credential" ++ utf8 "presence" ++
            (Bytes.ofNat 8 1).toList,
            Bytes.ofNat 32 0x551d7fc1ed31b15e1307f956cb1676c34e751b575a1cd880fe055ca6cfa977d1),
          (utf8 "fido-key-wrap deterministic test credential" ++ utf8 "verified" ++
            (Bytes.ofNat 8 1).toList,
            Bytes.ofNat 32 0x9df37cfcd13504d1e92a30d0065ed7ddb62172760b240d10d6ba71db47a9cd84)] } with
    ManagedSession := ManagedSession }

instance sessions : @ManagedSessions primitives := @ManagedSessions.mk primitives (Equiv.refl _)

def protector : KeyProtector where
  applicationId := ⟨"org.example.downstream-test", by decide⟩
  passphraseLimits := .desktop

def enrollment : Enrollment where
  label := "managed"
  policy := .managedFido .userVerification
  parameters := none

/-- The user answers every prompt. -/
def consent : Environment interaction := fun _ query =>
  match query with
  | .requestPin .. => .ok ⟨"123456", by decide⟩
  | .selectAuthenticatorByTouch .. | .touchRequired .. => .ok ()

/-- A call with a user who consents. -/
def call {α : Type} (x : Fake α) (s : FakeBackend) : Option (DeviceReply α × FakeBackend) :=
  match (StateT.run x.run s).exec consent [] with
  | (t, .ok a, s') => some (⟨t.map Event.query, .ok a⟩, s')
  | (t, .error (.error e), s') => some (⟨t.map Event.query, .error e⟩, s')
  | (_, .error .panic, _) => none

theorem answers_call {α : Type} {x : Fake α} {s s' : FakeBackend} {reply : DeviceReply α}
    (h : call x s = some (reply, s')) : Answers x s reply s' := by
  unfold call at h
  split at h
  · rename_i t a s₁ hexec
    cases h
    refine ⟨t, rfl, ?_⟩
    have hrun : x.Runs s _ _ _ := Mutating.runs_of_exec (congrArg Prod.snd hexec)
    rwa [hexec] at hrun
  · rename_i t e s₁ hexec
    cases h
    refine ⟨t, rfl, ?_⟩
    have hrun : x.Runs s _ _ _ := Mutating.runs_of_exec (congrArg Prod.snd hexec)
    rwa [hexec] at hrun
  · cases h

/-- The backend serves the query. -/
def serve [Primitives] [ManagedSessions] (s : FakeBackend) :
    (query : Query) → Option (query.Reply × FakeBackend)
  | .random _ | .reserve _ | .passphrase _ => none
  | .enroll applicationId policy label operation =>
    call (enroll applicationId policy label operation) s
  | .enrollManaged applicationId recipientId policy label operation =>
    call (enrollManaged applicationId recipientId policy label operation) s
  | .evaluate request => call (evaluate request) s
  | .evaluateManagedEnrollment enrollment request =>
    call (evaluateManagedEnrollment enrollment request) s
  | .cleanupManagedEnrollment enrollment request =>
    call (cleanupManagedEnrollment enrollment request) s
  | .verifyManaged request => call (verifyManaged request) s
  | .retireManaged request => call (retireManaged request) s

/-- The state after a trace. -/
def state [Primitives] [ManagedSessions] (past : Trace host) : FakeBackend :=
  past.foldl (fun s event => ((serve s event.query).map Prod.snd).getD s) new

/-- Three random values, and no fourth. -/
def answer [Primitives] [ManagedSessions] (past : Trace host) (query : Query) :
    Option query.Reply :=
  match query with
  | .random n => some (if past.length < 3 then some (Bytes.ofNat n (past.length + 1)) else none)
  | .reserve _ => some true
  | .passphrase _ => some (.error .cancelled)
  | query => (serve (state past) query).map Prod.fst

theorem step_answer [Primitives] [ManagedSessions] {past : Trace host} {query : Query}
    {reply : query.Reply} (h : answer past query = some reply) :
    FakeBackend.Step (state past) ⟨query, reply⟩ (state (past ++ [⟨query, reply⟩])) := by
  have hstate : state (past ++ [⟨query, reply⟩]) =
      ((serve (state past) query).map Prod.snd).getD (state past) := by
    unfold state
    rw [List.foldl_append]
    rfl
  rw [hstate]
  cases query with
  | random n => rfl
  | reserve blocks => rfl
  | passphrase prompt => rfl
  | _ =>
      obtain ⟨⟨reply', s'⟩, hserve, rfl⟩ := Option.map_eq_some_iff.mp h
      rw [hserve]
      exact answers_call hserve

/-- The backend made a credential. -/
def isMade [Primitives] : Event host → Bool
  | ⟨.enrollManaged .., reply⟩ => reply.result.isOk
  | _ => false

/-- The run failed for want of random values. -/
def isExhausted {α : Type} : Result α → Bool
  | .error .randomUnavailable => true
  | _ => false

/-- A creation that runs out of random values after its credential was made. -/
def creation [Primitives] [ManagedSessions] :
    Option (Trace host × Result (RootKey × KeyEnvelope × RecipientId)) :=
  (protector.createRoot enrollment).run.exec? answer []

theorem creation_exhausted : (@creation primitives sessions).elim false (fun run =>
    run.1.any (@isMade primitives) && isExhausted run.2) = true := by
  decide

end FakeVector

/-- The credential that was made is cleaned up: nothing is left on the devices. -/
theorem fake_creation_cleaned_up :
    let _ := FakeVector.primitives
    ∃ t s, (FakeVector.protector.createRoot FakeVector.enrollment).run.Runs t
        (.error .randomUnavailable) ∧ (∃ event ∈ t, FakeVector.isMade event = true) ∧
      Path FakeBackend.Step new t s ∧ s.devices = (new : FakeBackend).devices := by
  let _ := FakeVector.primitives
  have hcreation := FakeVector.creation_exhausted
  cases hexec : @FakeVector.creation FakeVector.primitives FakeVector.sessions with
  | none =>
      rw [hexec] at hcreation
      cases hcreation
  | some run =>
      obtain ⟨t, r⟩ := run
      rw [hexec] at hcreation
      obtain ⟨hmade, hexhausted⟩ := Bool.and_eq_true_iff.mp hcreation
      have hr : r = .error .randomUnavailable := by
        unfold FakeVector.isExhausted at hexhausted
        split at hexhausted
        · assumption
        · cases hexhausted
      subst hr
      have hrun := Program.runs_of_exec? hexec
      have hpath : Path FakeBackend.Step new t (FakeVector.state ([] ++ t)) :=
        path_of_exec? (fun _ _ _ => FakeVector.step_answer) hexec
      obtain ⟨-, hends⟩ := (fake_credential_never_orphaned new .refl FakeVector.protector
        FakeVector.enrollment .userVerification rfl t).1 _ hrun
      obtain ⟨envelopeId, hsame | ⟨herror, -⟩⟩ := hends _ hpath
      · exact ⟨t, _, hrun, List.any_eq_true.mp hmade, hpath, hsame⟩
      · cases herror

end FidoKeyWrap
