/-
# FidoKeyWrap.FakeAuthenticator — the authenticator of downstream tests.

A test owns an ordinary protector over the backend in memory. Between the calls of the protector it
may change that backend: schedule a failure, change how many authenticators are visible and which one
answers, set a capacity, forget the credential of a recipient, or clear everything. `Use` is one such
operation, so the states a test can reach are those after any number of them.
-/
import FidoKeyWrap.Admission
import FidoKeyWrap.FakeEnrollment

namespace FidoKeyWrap

open ByteData Interact

/-! ## Scheduled failures -/

/-- One operation stage. -/
inductive FakeStep where
  | selection
  | enrollment
  | managedEnrollment
  | assertion
  | retirement
  | absenceCheck
  deriving DecidableEq

/-- One failure scheduled for a stage. -/
inductive FakeFailure where
  | noCompatibleAuthenticator
  | pinInvalid (retries : Option UInt8)
  | pinBlocked
  | pinTemporarilyBlocked
  | timedOut
  | busy
  | credentialUnavailable
  | credentialMayRemain
  | retirementUncertain
  | transport
  | operationFailed
  | invalidResponse
  deriving DecidableEq

/-- Why a failure was not scheduled. -/
inductive FakeScheduleError where
  | invalidCombination
  | alreadyScheduled
  deriving DecidableEq

/-- The point of a step. -/
def failurePoint : FakeStep → FailurePoint
  | .selection => .selection
  | .enrollment => .enrollment
  | .managedEnrollment => .managedEnrollment
  | .assertion => .assertion
  | .retirement => .retirement
  | .absenceCheck => .absenceCheck

/-- The failures that a step can have. -/
def validFailure (step : FakeStep) (failure : FakeFailure) : Bool :=
  match step with
  | .selection =>
    match failure with
    | .noCompatibleAuthenticator | .timedOut | .busy | .transport | .operationFailed
    | .invalidResponse => true
    | _ => false
  | .enrollment =>
    match failure with
    | .pinInvalid _ | .pinBlocked | .pinTemporarilyBlocked | .timedOut | .busy | .transport
    | .operationFailed | .invalidResponse => true
    | _ => false
  | .managedEnrollment =>
    match failure with
    | .pinInvalid _ | .pinBlocked | .pinTemporarilyBlocked | .timedOut | .busy
    | .credentialMayRemain | .transport | .operationFailed => true
    | _ => false
  | .assertion | .retirement =>
    match failure with
    | .pinInvalid _ | .pinBlocked | .pinTemporarilyBlocked | .timedOut | .busy
    | .credentialUnavailable | .transport | .operationFailed | .invalidResponse => true
    | _ => false
  | .absenceCheck =>
    match failure with
    | .retirementUncertain | .invalidResponse => true
    | _ => false

/-- The failure of the backend. -/
def failureKind : FakeFailure → FailureKind
  | .noCompatibleAuthenticator => .noCompatibleAuthenticator
  | .pinInvalid retries => .authenticator (.pinInvalid retries)
  | .pinBlocked => .authenticator .pinBlocked
  | .pinTemporarilyBlocked => .authenticator .pinTemporarilyBlocked
  | .timedOut => .authenticator .timedOut
  | .busy => .authenticator .busy
  | .credentialUnavailable => .authenticator .credentialUnavailable
  | .credentialMayRemain => .authenticator .credentialMayRemain
  | .retirementUncertain => .authenticator .retirementUncertain
  | .transport => .authenticator .transport
  | .operationFailed => .authenticator .operationFailed
  | .invalidResponse => .invalidResponse

/-! ## The authenticator -/

/-- `KeyProtector::fake`. -/
def KeyProtector.fake (applicationId : ApplicationId) : KeyProtector where
  applicationId
  passphraseLimits := .desktop

/-- **`FakeAuthenticator`** — a protector and the backend in memory that it is connected to. -/
structure FakeAuthenticator where
  protector : KeyProtector
  backend : FakeBackend

/-- The credential that `forget_recipient` removes. -/
def forgottenCredential : RecipientRecord → Result ByteString
  | .fido record => .ok record.credentialId
  | .fidoAndPassphrase record => .ok record.credentialId
  | .fidoAndLocalSecret record => .ok record.credentialId
  | .passphrase _ | .recoverySecret _ => .error .invalidEnvelope

namespace FakeAuthenticator

/-- A protector over a new backend. -/
def new (applicationId : ApplicationId) : FakeAuthenticator where
  protector := KeyProtector.fake applicationId
  backend := .new

/-- The most devices a scenario may show. -/
def maxDevices : Nat := 32

/-- The most managed credentials a scenario may let a device hold. -/
def maxManagedCapacity : Nat := 256

/-- Show some devices. -/
def setCompatibleAuthenticators (self : FakeAuthenticator) (count : Nat) :
    Result FakeAuthenticator := do
  require (¬ maxDevices < count) .invalidFidoConfig
  return { self with backend := self.backend.setCompatibleAuthenticators count }

/-- Let another visible device answer. -/
def selectAuthenticator (self : FakeAuthenticator) (index : Nat) : Result FakeAuthenticator := do
  let backend ← self.backend.selectAuthenticator index
  return { self with backend }

/-- Change the capacity of the device that answers. -/
def setManagedCapacity (self : FakeAuthenticator) (capacity : Nat) : Result FakeAuthenticator := do
  require (¬ maxManagedCapacity < capacity) .invalidFidoConfig
  return { self with backend := self.backend.setManagedCapacity capacity }

/-- Schedule one failure of a step. -/
def failNext (self : FakeAuthenticator) (step : FakeStep) (failure : FakeFailure) :
    Except FakeScheduleError FakeAuthenticator := do
  require (validFailure step failure = true) .invalidCombination
  let backend ← okOr (self.backend.failNextWith (failurePoint step) (failureKind failure))
    .alreadyScheduled
  return { self with backend }

/-- Remove the credential of a recipient from the device that answers. -/
def forgetRecipient (self : FakeAuthenticator) (envelope : KeyEnvelope) (recipient : RecipientId) :
    Result FakeAuthenticator := do
  let record ← envelope.find recipient
  let credentialId ← forgottenCredential record
  return { self with backend := self.backend.forgetCredential credentialId }

/-- What was asked of the backend so far. -/
def counters (self : FakeAuthenticator) : Counters := self.backend.counters

/-- Start over with a new backend; the protector stays. -/
def clear (self : FakeAuthenticator) : FakeAuthenticator := { self with backend := .new }

end FakeAuthenticator

/-- What is forgotten is the credential of the record. -/
theorem forgottenCredential_eq_ok {record : RecipientRecord} {id : ByteString} :
    forgottenCredential record = .ok id ↔ record.credentialId = some id := by
  cases record <;> simp [forgottenCredential, RecipientRecord.credentialId]

/-! ## Uses -/

namespace FakeAuthenticator

section Uses

variable [Primitives] [ManagedSessions]

/-- **`Use allows self self'`** — one operation of a test. An operation of the protector runs to its
end over the backend, and asks it only what `allows` permits in the state the backend is in. -/
inductive Use (allows : FakeBackend → Event host → Prop) :
    FakeAuthenticator → FakeAuthenticator → Prop
  | call {self : FakeAuthenticator} {call : Call} {t : Trace host} {backend : FakeBackend} :
      call.Runs self.protector t →
      Path (fun s event s' => allows s event ∧ FakeBackend.Step s event s') self.backend t backend →
      Use allows self { self with backend }
  | setCompatibleAuthenticators {self self' : FakeAuthenticator} {count : Nat} :
      self.setCompatibleAuthenticators count = .ok self' → Use allows self self'
  | selectAuthenticator {self self' : FakeAuthenticator} {index : Nat} :
      self.selectAuthenticator index = .ok self' → Use allows self self'
  | setManagedCapacity {self self' : FakeAuthenticator} {capacity : Nat} :
      self.setManagedCapacity capacity = .ok self' → Use allows self self'
  | failNext {self self' : FakeAuthenticator} {step : FakeStep} {failure : FakeFailure} :
      self.failNext step failure = .ok self' → Use allows self self'
  | forgetRecipient {self self' : FakeAuthenticator} {envelope : KeyEnvelope}
      {recipient : RecipientId} :
      self.forgetRecipient envelope recipient = .ok self' → Use allows self self'
  | clear {self : FakeAuthenticator} : Use allows self self.clear

/-- Any number of operations. -/
def Uses (allows : FakeBackend → Event host → Prop) :
    FakeAuthenticator → FakeAuthenticator → Prop :=
  Relation.ReflTransGen (Use allows)

/-- **`Reachable applicationId self`** — some sequence of operations leads from a new authenticator of
the application to `self`. -/
def Reachable (applicationId : ApplicationId) (self : FakeAuthenticator) : Prop :=
  Uses (fun _ _ => True) (new applicationId) self

end Uses

/-! ## What a scenario does to the backend -/

section Scenarios

variable {self self' : FakeAuthenticator}

theorem setCompatibleAuthenticators_eq_ok {count : Nat} :
    self.setCompatibleAuthenticators count = .ok self' ↔ count ≤ maxDevices ∧
      self' = { self with backend := self.backend.setCompatibleAuthenticators count } := by
  simp only [setCompatibleAuthenticators, except_bind_eq_ok, require_eq_ok, except_pure_eq_ok,
    not_lt, exists_const]

theorem selectAuthenticator_eq_ok {index : Nat} :
    self.selectAuthenticator index = .ok self' ↔ ∃ backend,
      self.backend.selectAuthenticator index = .ok backend ∧ self' = { self with backend } := by
  simp only [selectAuthenticator, except_bind_eq_ok, except_pure_eq_ok]

theorem setManagedCapacity_eq_ok {capacity : Nat} :
    self.setManagedCapacity capacity = .ok self' ↔ capacity ≤ maxManagedCapacity ∧
      self' = { self with backend := self.backend.setManagedCapacity capacity } := by
  simp only [setManagedCapacity, except_bind_eq_ok, require_eq_ok, except_pure_eq_ok, not_lt,
    exists_const]

/-- A failure is scheduled only where it can occur, and only when none waits. -/
theorem failNext_eq_ok {step : FakeStep} {failure : FakeFailure} :
    self.failNext step failure = .ok self' ↔ validFailure step failure = true ∧
      self.backend.failNext = none ∧ self' = { self with
        backend := { self.backend with
          failNext := some (failurePoint step, failureKind failure) } } := by
  simp only [failNext, FakeBackend.failNextWith, except_bind_eq_ok, require_eq_ok, okOr_eq_ok,
    except_pure_eq_ok, exists_const]
  cases self.backend.failNext <;> simp

theorem forgetRecipient_eq_ok {envelope : KeyEnvelope} {recipient : RecipientId} :
    self.forgetRecipient envelope recipient = .ok self' ↔ ∃ record credentialId,
      envelope.find recipient = .ok record ∧ record.credentialId = some credentialId ∧
        self' = { self with backend := self.backend.forgetCredential credentialId } := by
  simp only [forgetRecipient, except_bind_eq_ok, except_pure_eq_ok, forgottenCredential_eq_ok]
  constructor
  · rintro ⟨record, hfind, credentialId, hcredential, hself⟩
    exact ⟨record, credentialId, hfind, hcredential, hself⟩
  · rintro ⟨record, credentialId, hfind, hcredential, hself⟩
    exact ⟨record, hfind, credentialId, hcredential, hself⟩

end Scenarios

/-! ## Invariants -/

section Invariants

variable [Primitives] [ManagedSessions] {allows : FakeBackend → Event host → Prop}
  {self self' : FakeAuthenticator}

/-- The protector is connected once and for all. -/
theorem Use.protector (h : Use allows self self') : self'.protector = self.protector := by
  cases h with
  | call _ _ => rfl
  | setCompatibleAuthenticators h => rw [(setCompatibleAuthenticators_eq_ok.mp h).2]
  | selectAuthenticator h =>
      obtain ⟨backend, -, rfl⟩ := selectAuthenticator_eq_ok.mp h
      rfl
  | setManagedCapacity h => rw [(setManagedCapacity_eq_ok.mp h).2]
  | failNext h => rw [(failNext_eq_ok.mp h).2.2]
  | forgetRecipient h =>
      obtain ⟨record, credentialId, -, -, rfl⟩ := forgetRecipient_eq_ok.mp h
      rfl
  | clear => rfl

/-- **`Stable allows I`** — every backend call that is allowed, and every scenario, keeps `I`. -/
structure Stable (allows : FakeBackend → Event host → Prop) (I : FakeBackend → Prop) : Prop where
  step : ∀ s event s', allows s event → FakeBackend.Step s event s' → I s → I s'
  count : ∀ s count, I s → I (s.setCompatibleAuthenticators count)
  select : ∀ s index s', s.selectAuthenticator index = .ok s' → I s → I s'
  capacity : ∀ s capacity, capacity ≤ maxManagedCapacity → I s → I (s.setManagedCapacity capacity)
  fail : ∀ s failure, I s → I { s with failNext := failure }
  forget : ∀ s id, I s → I (s.forgetCredential id)
  new : I FakeBackend.new

/-- **The invariant rule**: one operation keeps what is stable. -/
theorem Stable.use {I : FakeBackend → Prop} (h : Stable allows I) (huse : Use allows self self')
    (hself : I self.backend) : I self'.backend := by
  cases huse with
  | call _ hpath => exact hpath.invariant (fun event _ s s' hs => h.step s event s' hs.1 hs.2) hself
  | setCompatibleAuthenticators hcount =>
      rw [(setCompatibleAuthenticators_eq_ok.mp hcount).2]
      exact h.count _ _ hself
  | selectAuthenticator hselect =>
      obtain ⟨backend, hbackend, rfl⟩ := selectAuthenticator_eq_ok.mp hselect
      exact h.select _ _ _ hbackend hself
  | setManagedCapacity hcapacity =>
      obtain ⟨hbound, rfl⟩ := setManagedCapacity_eq_ok.mp hcapacity
      exact h.capacity _ _ hbound hself
  | failNext hfail =>
      rw [(failNext_eq_ok.mp hfail).2.2]
      exact h.fail _ _ hself
  | forgetRecipient hforget =>
      obtain ⟨record, credentialId, -, -, rfl⟩ := forgetRecipient_eq_ok.mp hforget
      exact h.forget _ _ hself
  | clear => exact h.new

/-- So does any number of operations. -/
theorem Stable.uses {I : FakeBackend → Prop} (h : Stable allows I) (huses : Uses allows self self')
    (hself : I self.backend) : I self'.backend := by
  induction huses with
  | refl => exact hself
  | tail _ huse ih => exact h.use huse ih

theorem stable_valid : Stable allows FakeBackend.Valid where
  step _ _ _ _ hstep hs := hs.step hstep
  count _ count hs := hs.setCompatibleAuthenticators count
  select _ _ _ hselect hs := hs.selectAuthenticator hselect
  capacity _ capacity _ hs := hs.setManagedCapacity capacity
  fail _ _ hs := ⟨hs.visible, hs.selected, hs.fresh⟩
  forget _ _ hs := hs.removed
  new := FakeBackend.valid_new

/-- In every state a test reaches, the answering device exists and the next number is new. -/
theorem valid_of_reachable {applicationId : ApplicationId} (h : Reachable applicationId self) :
    self.backend.Valid :=
  stable_valid.uses h FakeBackend.valid_new

end Invariants

end FakeAuthenticator

/-! ## One managed credential -/

namespace FakeVector

open FakeBackend

/-- The record of the first credential of the backend. -/
def managedRecord : FidoRecipient where
  id := ⟨Bytes.ofNat 32 3⟩
  label := "managed"
  credentialId := credentialId 1
  publicKey := ⟨generator⟩
  policy := .userVerification
  storage := .managed
  prfNonce := Bytes.ofNat 32 5
  fidoNonce := Bytes.ofNat 12 6
  wrappedRoot := Bytes.ofNat 48
    0xeb03d6d9b9d7fc803c6a4dc1b13d9291d4a8c4497575f1c284af2a3eeeb6096e678929d589326e2b969d5405bb0459ec

/-- The root that the counting random source draws. -/
def managedRoot : RootKey := ⟨Bytes.ofNat 32 1⟩

/-- The envelope of that record. -/
def managedEnvelope : KeyEnvelope where
  applicationId := protector.applicationId
  envelopeId := Bytes.ofNat 32 2
  recipients := [.fido managedRecord]
  mac := Bytes.ofNat 32 0x5ed4a9799c392f5321db2989d28414245ee644591a7be556e56d50a719defa5b

/-- The PRF root of the credential without verification. -/
def presenceRoot : Bytes 32 :=
  Bytes.ofNat 32 0x551d7fc1ed31b15e1307f956cb1676c34e751b575a1cd880fe055ca6cfa977d1

/-- The PRF root of the credential with verification. -/
def verifiedRoot : Bytes 32 :=
  Bytes.ofNat 32 0x9df37cfcd13504d1e92a30d0065ed7ddb62172760b240d10d6ba71db47a9cd84

/-- What is hashed to a PRF root. -/
def rootMessage (label : String) : ByteString :=
  utf8 "fido-key-wrap deterministic test credential" ++ utf8 label ++ (Bytes.ofNat 8 1).toList

/-- The context of the record. -/
def managedContext : Bytes 32 :=
  Bytes.ofNat 32 0x798da8ec7846af2d4cc21e6a334d3f5eb9fe1e389c76c3242b91dbe1867dbc1d

/-- Its PRF input. -/
def managedInput : Bytes 32 :=
  Bytes.ofNat 32 0xcf152875a86a7fb8b3cdced3ae433a2be73eaba03369ba95696e9d1e380972e5

/-- The PRF result. -/
def managedPrf : Bytes 32 :=
  Bytes.ofNat 32 0x7c092c341c4faa3c9a987f54407b052f3b61b62b5fa468ca37ff88df1b3d3483

/-- The key of the record. -/
def managedKey : Bytes 32 :=
  Bytes.ofNat 32 0x218eadb815a2b2e152e0d7aed6648a7e1620958f66edd76d4f67eb0d0491678c

/-- The key of the envelope MAC. -/
def managedMacKey : Bytes 32 :=
  Bytes.ofNat 32 0xff626c115613c6ca15b8f439eb1c1976fc690aa087a7aeae36a5ce5f64b5c97f

/-- The primitives of a creation of the envelope and of its unlock. -/
@[reducible] def managedPrimitives : Primitives :=
  { Recording.primitives
      { points := [4 :: generator.toList]
        sha256 := [
          (rootMessage "presence", presenceRoot), (rootMessage "verified", verifiedRoot),
          (Framing.frame [Vector.domain "recipient_context", [1], [5],
            protector.applicationId.asBytes, managedEnvelope.envelopeId.toList,
            managedRecord.id.asBytes.toList, managedRecord.credentialId,
            managedRecord.publicKey.asBytes.toList, [2], managedRecord.prfNonce.toList,
            managedRecord.fidoNonce.toList], managedContext),
          (Framing.frame [Vector.domain "prf_input", managedContext.toList], managedInput)]
        hkdf := [
          ((managedPrf.toList, managedEnvelope.envelopeId.toList,
            Framing.frame [Vector.domain "fido_key", managedContext.toList]), managedKey),
          ((managedRoot.bytes.toList, managedEnvelope.envelopeId.toList,
            Framing.frame [Vector.domain "envelope_mac_key", [1], protector.applicationId.asBytes]),
            managedMacKey)]
        hmac := [
          ((verifiedRoot.toList, managedInput.toList), managedPrf),
          ((managedMacKey.toList, Vector.macTranscript managedEnvelope), managedEnvelope.mac)]
        seals := [
          { key := managedKey
            nonce := managedRecord.fidoNonce
            aad := Framing.frame [Vector.domain "fido_aad", managedContext.toList]
            plaintext := managedRoot.bytes.toList
            ciphertext := managedRecord.wrappedRoot.toList.take 32
            tag := Bytes.ofNat 16 0x678929d589326e2b969d5405bb0459ec },
          -- of a second creation, whose hashes are all zero
          { key := Bytes.zero 32
            nonce := Bytes.ofNat 12 106
            aad := Framing.frame [Vector.domain "fido_aad", (Bytes.zero 32).toList]
            plaintext := (Bytes.ofNat 32 101).toList
            ciphertext := (Bytes.ofNat 32 7).toList
            tag := Bytes.ofNat 16 8 }] } with
    ManagedSession := ManagedSession }

instance managedSessions : @ManagedSessions managedPrimitives :=
  @ManagedSessions.mk managedPrimitives (Equiv.refl _)

section Served

variable [Primitives] [ManagedSessions]

/-- The state after a trace. -/
def after (s : FakeBackend) (past : Trace host) : FakeBackend :=
  past.foldl (fun s event => ((serve s event.query).map Prod.snd).getD s) s

/-- A random source that counts, and the backend. -/
def reply (s : FakeBackend) (past : Trace host) (query : Query) : Option query.Reply :=
  match query with
  | .random n => some (some (Bytes.ofNat n (past.length + 1)))
  | .reserve _ => some true
  | .passphrase _ => some (.error .cancelled)
  | query => (serve (after s past) query).map Prod.fst

theorem step_reply {s : FakeBackend} {past : Trace host} {query : Query} {r : query.Reply}
    (h : reply s past query = some r) :
    FakeBackend.Step (after s past) ⟨query, r⟩ (after s (past ++ [⟨query, r⟩])) := by
  have hafter : after s (past ++ [⟨query, r⟩]) =
      ((serve (after s past) query).map Prod.snd).getD (after s past) := by
    unfold after
    rw [List.foldl_append]
    rfl
  rw [hafter]
  cases query with
  | random n => rfl
  | reserve blocks => rfl
  | passphrase prompt => rfl
  | _ =>
      obtain ⟨⟨r', s'⟩, hserve, rfl⟩ := Option.map_eq_some_iff.mp h
      rw [hserve]
      exact answers_call hserve

/-- The same backend with other random values. -/
def redraw (s : FakeBackend) (past : Trace host) (query : Query) : Option query.Reply :=
  match query with
  | .random n => some (some (Bytes.ofNat n (past.length + 101)))
  | query => reply s past query

theorem step_redraw {s : FakeBackend} {past : Trace host} {query : Query} {r : query.Reply}
    (h : redraw s past query = some r) :
    FakeBackend.Step (after s past) ⟨query, r⟩ (after s (past ++ [⟨query, r⟩])) := by
  cases query with
  | random n =>
      have hafter : after s (past ++ [⟨.random n, r⟩]) = after s past := by
        unfold after
        rw [List.foldl_append]
        rfl
      rw [hafter]
      rfl
  | _ => exact step_reply h

/-- A second creation on the backend. -/
def recreation (s : FakeBackend) : Option (Trace host × Result (RootKey × KeyEnvelope × RecipientId)) :=
  (protector.createRoot enrollment).run.exec? (redraw s) []

end Served

/-- The creation of the envelope. -/
def managedCreation [Primitives] [ManagedSessions] :
    Option (Trace host × Result (RootKey × KeyEnvelope × RecipientId)) :=
  (protector.createRoot enrollment).run.exec? (reply new) []

theorem managedCreation_creates : (@managedCreation managedPrimitives managedSessions).elim false
    (fun run => run.2.toOption == some (managedRoot, managedEnvelope, managedRecord.id)) = true := by
  decide +kernel

/-- The authenticator after it. -/
def managed [Primitives] [ManagedSessions] : FakeAuthenticator where
  protector
  backend := managedCreation.elim .new fun run => after .new run.1

theorem managed_reachable : @FakeAuthenticator.Reachable managedPrimitives managedSessions
    protector.applicationId (@managed managedPrimitives managedSessions) := by
  let _ := managedPrimitives
  have hcreation := managedCreation_creates
  unfold managed
  cases hexec : @managedCreation managedPrimitives managedSessions with
  | none =>
      rw [hexec] at hcreation
      cases hcreation
  | some run =>
      obtain ⟨t, r⟩ := run
      have hcall : (Call.createRoot enrollment).Runs protector t := ⟨r, Program.runs_of_exec? hexec⟩
      have hpath : Path FakeBackend.Step (after .new []) t (after .new ([] ++ t)) :=
        path_of_exec? (fun _ _ _ => step_reply) hexec
      exact .single (.call hcall (hpath.guarded fun _ _ => trivial))

end FakeVector

end FidoKeyWrap
