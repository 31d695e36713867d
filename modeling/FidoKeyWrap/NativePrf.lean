/-
# FidoKeyWrap.NativePrf — sessions over the native backend and a real authenticator.

The native backend as the world of the protector: each backend call of the protector is a program of
prompts and foreign calls, run over the assertion objects of libfido2 under a device with the
`hmac-secret` extension. What the adapter returns is the PRF of the request, so the backend is honest
(`NativeBackend.honors`) and every session over it can be recovered
(`native_sessions_recover`): nothing is assumed of the application, of failing calls, of what else the
device signs, or of what happens to libfido2 between two calls.
-/
import FidoKeyWrap.Deployment
import FidoKeyWrap.Native.HmacSecret
import FidoKeyWrap.NativeEnrollment

namespace FidoKeyWrap

open ByteData Interact
open Native (HmacSecret HmacDevice)

/-- The prompts of the application beside the calls of the device. -/
def HmacConsole (hmac : HmacSecret) (s : HmacDevice) (event : Event console) (s' : HmacDevice) :
    Prop :=
  match event with
  | ⟨.inl _, _⟩ => s' = s
  | ⟨.inr query, reply⟩ => HmacDevice.Step hmac s ⟨query, reply⟩ s'

section Console

variable {hmac : HmacSecret} {s s' : HmacDevice}

/-- The foreign calls of a console are a path of the device. -/
theorem path_of_right {t : Trace Native.libfido2}
    (h : Path (HmacConsole hmac) s (t.map Event.right) s') :
    Path (HmacDevice.Step hmac) s t s' := by
  induction t generalizing s with
  | nil => exact h
  | cons event rest ih =>
      obtain ⟨mid, hstep, hrest⟩ := h
      exact ⟨mid, hstep, ih hrest⟩

variable [Primitives]

/-- **`nativePrf hmac`** — the PRF of the protector that the extension computes: the policy says which
of the two secrets of a credential is used. -/
def nativePrf (hmac : HmacSecret) : Prf := fun material policy input =>
  hmac material.credentialId (decide (policy = .userVerification)) input

omit [Primitives] in
theorem nativePrf_answer (request : PrfRequest) :
    (nativePrf hmac).answer request = hmac (nativePrfRequest request).credentialId
      (decide ((nativePrfRequest request).policy = .userVerified))
      (nativePrfRequest request).salt := by
  rw [Prf.answer, nativePrf, nativePrfRequest]
  cases request.credential.policy <;> rfl

omit [Primitives] in
/-- An evaluation that succeeds ends with that of the adapter. -/
theorem NativeBackend.runs_evaluate_hmac {self : NativeBackend} {request : PrfRequest}
    {rounds : Nat} {t : Trace console} {b : Bytes 32}
    (h : (self.evaluate request rounds).run.Runs t (.ok b))
    (hpath : Path (HmacConsole hmac) s t s') : b = (nativePrf hmac).answer request := by
  unfold NativeBackend.evaluate at h
  obtain ⟨t₁, authenticator, u₁, rfl, -, h₁⟩ := Fallible.runs_bind_ok.mp h
  obtain ⟨t₂, pin, u₂, rfl, -, h₂⟩ := Fallible.runs_bind_ok.mp h₁
  obtain ⟨t₃, _, u₃, rfl, -, h₃⟩ := Fallible.runs_bind_ok.mp h₂
  obtain ⟨u, rfl, hrun⟩ := Fallible.runs_right_ok.mp h₃
  obtain ⟨s₁, -, hpath₁⟩ := path_append.mp hpath
  obtain ⟨s₂, -, hpath₂⟩ := path_append.mp hpath₁
  obtain ⟨s₃, -, hpath₃⟩ := path_append.mp hpath₂
  rw [nativePrf_answer]
  exact Native.runs_evaluate_hmac hrun (path_of_right hpath₃)

variable [ManagedSessions]

theorem NativeBackend.runs_evaluateManagedEnrollment_hmac {enrollment : ManagedEnrollment}
    {request : PrfRequest} {t : Trace console} {b : Bytes 32}
    (h : (NativeBackend.evaluateManagedEnrollment enrollment request).run.Runs t (.ok b))
    (hpath : Path (HmacConsole hmac) s t s') : b = (nativePrf hmac).answer request := by
  unfold NativeBackend.evaluateManagedEnrollment at h
  split at h
  · unfold evaluateNativeManaged at h
    obtain ⟨t₁, _, u₁, rfl, -, h₁⟩ := Fallible.runs_bind_ok.mp h
    obtain ⟨u, rfl, hrun⟩ := Fallible.runs_right_ok.mp h₁
    obtain ⟨s₁, -, hpath₁⟩ := path_append.mp hpath
    rw [nativePrf_answer]
    exact Native.runs_evaluateManagedEnrollment_hmac hrun (path_of_right hpath₁)
  · obtain ⟨-, hr⟩ := Fallible.runs_throw.mp h
    cases hr

end Console

/-! ## The native backend as a world -/

namespace NativeBackend

section World

variable [Primitives] [ManagedSessions] {hmac : HmacSecret} {s s' : HmacDevice}

/-- **`Shows x reply t`** — the call gives the reply after the trace `t`: it showed the prompts of the
reply, whatever the application answered. -/
def Shows {α : Type} (x : Console α) (reply : DeviceReply α) (t : Trace console) : Prop :=
  reply.prompts = (lefts t).map Event.query ∧ x.run.Runs t reply.result

/-- **`Replies self event t`** — what the console sees while the protector gets the reply. A loop of
the touch selection may take any number of rounds. -/
def Replies (self : NativeBackend) (event : Event host) (t : Trace console) : Prop :=
  match event with
  | ⟨.random _, _⟩ | ⟨.reserve _, _⟩ | ⟨.passphrase _, _⟩ => t = []
  | ⟨.enroll applicationId policy label operation, reply⟩ =>
    ∃ rounds, Shows (self.enroll applicationId policy label operation rounds) reply t
  | ⟨.enrollManaged applicationId recipientId policy label operation, reply⟩ =>
    ∃ rounds,
      Shows (self.enrollManaged applicationId recipientId policy label operation rounds) reply t
  | ⟨.evaluate request, reply⟩ => ∃ rounds, Shows (self.evaluate request rounds) reply t
  | ⟨.evaluateManagedEnrollment enrollment request, reply⟩ =>
    Shows (evaluateManagedEnrollment enrollment request) reply t
  | ⟨.cleanupManagedEnrollment enrollment request, reply⟩ =>
    Shows (cleanupManagedEnrollment enrollment request) reply t
  | ⟨.verifyManaged request, reply⟩ => ∃ rounds, Shows (self.verifyManaged request rounds) reply t
  | ⟨.retireManaged request, reply⟩ => ∃ rounds, Shows (self.retireManaged request rounds) reply t

/-- **`Step self hmac s event s'`** — the native backend as the world of the protector. -/
def Step (self : NativeBackend) (hmac : HmacSecret) (s : HmacDevice) (event : Event host)
    (s' : HmacDevice) : Prop :=
  ∃ t, self.Replies event t ∧ Path (HmacConsole hmac) s t s'

/-- The native backend. Between two calls anything may happen to libfido2: every evaluation makes its
own object. -/
def world (self : NativeBackend) (hmac : HmacSecret) : DeviceWorld HmacDevice where
  step := self.Step hmac
  moves _ _ := True

/-- **The native backend answers with the PRF of its device.** -/
theorem honest_of_step {self : NativeBackend} {event : Event host}
    (hstep : self.Step hmac s event s') : Honest (nativePrf hmac) event := by
  obtain ⟨query, reply⟩ := event
  obtain ⟨t, hreplies, hpath⟩ := hstep
  cases query with
  | evaluate request =>
      intro b hb
      obtain ⟨rounds, -, hrun⟩ := hreplies
      have hok : reply.result = .ok b := hb
      rw [hok] at hrun
      exact runs_evaluate_hmac hrun hpath
  | evaluateManagedEnrollment enrollment request =>
      intro b hb
      obtain ⟨-, hrun⟩ := hreplies
      have hok : reply.result = .ok b := hb
      rw [hok] at hrun
      exact runs_evaluateManagedEnrollment_hmac hrun hpath
  | _ => trivial

theorem honors (self : NativeBackend) (hmac : HmacSecret) :
    (self.world hmac).Honors (nativePrf hmac) fun _ => True where
  step _ _ _ _ hstep := ⟨trivial, honest_of_step hstep⟩
  move _ _ _ _ := trivial

/-- **Sessions over the native backend.** After a creation and any updates over an authenticator with
the extension, whatever it and the application do and whatever fails, the own unlock of every record
that is still there, over the same backend, gives back the root or ends with the error of the
authenticator. -/
theorem native_sessions_recover (self : NativeBackend) (hmac : HmacSecret) {p q : KeyProtector}
    {root : RootKey} {now later : HmacDevice × Holding}
    (hstart : (self.world hmac).Starts p root s now)
    (hsteps : (self.world hmac).Steps root now later)
    (happ : q.applicationId = p.applicationId) {record : RecipientRecord}
    (hmem : record ∈ later.2.envelope.recipients) (hadmits : q.Admits record.passphraseParameters) :
    let held := later.2.custody record.id
    ByOwnUnlock ((self.world hmac).Unlocks later.1 held root) q later.2.envelope held root record :=
  (self.honors hmac).unlocks trivial hstart hsteps happ hmem hadmits

end World

end NativeBackend

/-! ## One managed credential -/

namespace NativeVector

/-- The record of the credential of the device. -/
def managedRecord : FidoRecipient where
  id := recipient
  label := "key"
  credentialId := Native.Vector.credential.credentialId
  publicKey := ⟨Native.Vector.credential.es256PublicKey⟩
  policy := .userVerification
  storage := .managed
  prfNonce := Bytes.ofNat 32 7
  fidoNonce := Bytes.ofNat 12 8
  wrappedRoot := Bytes.ofNat 48
    0xa83f34a42a1faf21e503feb2ac1151226435901cf103912947165f4cb91d1b5f4d9f6fe1f0cbe284e1596e73e4dfb926

/-- The root that the counting random source draws. -/
def managedRoot : RootKey := ⟨Bytes.ofNat 32 3⟩

/-- The envelope of that record. -/
def managedEnvelope : KeyEnvelope where
  applicationId := application
  envelopeId := Bytes.ofNat 32 4
  recipients := [.fido managedRecord]
  mac := Bytes.ofNat 32 0x13d85314637e5cffc4a5967a9099ac7ee8da06d6d831a04934c877c75fa34d71

/-- The context of the record. -/
def managedContext : Bytes 32 :=
  Bytes.ofNat 32 0x3c625a765d9de4b87470f9081379950209d36cef5045fc81bbe0c493f12674c9

/-- Its PRF input, the salt that the device knows. -/
def managedInput : Bytes 32 := Native.Vector.request.salt

/-- The key of the record. -/
def managedKey : Bytes 32 :=
  Bytes.ofNat 32 0xd3bb9a2ee080b3c9a2a76e99a0620da80437f7d46938ea02d79894e0e2ee27dd

/-- The key of the envelope MAC. -/
def managedMacKey : Bytes 32 :=
  Bytes.ofNat 32 0x9bff0030c1a07bbc0b4079a694d663d9047f302d740207bc63ec74ccffa92ba4

/-- The primitives of a creation of the envelope and of its unlock. -/
@[reducible] def managedPrimitives : Primitives :=
  { Recording.primitives
      { points := [4 :: Native.Vector.credential.es256PublicKey.toList]
        sha256 := [
          (Framing.frame [Vector.domain "recipient_context", [1], [5], application.asBytes,
            managedEnvelope.envelopeId.toList, managedRecord.id.asBytes.toList,
            managedRecord.credentialId, managedRecord.publicKey.asBytes.toList, [2],
            managedRecord.prfNonce.toList, managedRecord.fidoNonce.toList], managedContext),
          (Framing.frame [Vector.domain "prf_input", managedContext.toList], managedInput)]
        hkdf := [
          ((Native.Vector.secret.toList, managedEnvelope.envelopeId.toList,
            Framing.frame [Vector.domain "fido_key", managedContext.toList]), managedKey),
          ((managedRoot.bytes.toList, managedEnvelope.envelopeId.toList,
            Framing.frame [Vector.domain "envelope_mac_key", [1], application.asBytes]),
            managedMacKey)]
        hmac :=
          [((managedMacKey.toList, Vector.macTranscript managedEnvelope), managedEnvelope.mac)]
        seals := [
          { key := managedKey
            nonce := managedRecord.fidoNonce
            aad := Framing.frame [Vector.domain "fido_aad", managedContext.toList]
            plaintext := managedRoot.bytes.toList
            ciphertext := managedRecord.wrappedRoot.toList.take 32
            tag := Bytes.ofNat 16 0x4d9f6fe1f0cbe284e1596e73e4dfb926 }] } with
    ManagedSession := ManagedSession }

instance managedSessions : @ManagedSessions managedPrimitives :=
  @ManagedSessions.mk managedPrimitives (Equiv.refl _)

/-- The enrollment that makes the record. -/
def enrollment : Enrollment where
  label := "key"
  policy := .managedFido .userVerification
  parameters := none

section Served

variable [Primitives] [ManagedSessions]

/-- One call of the backend after what the console saw. -/
def call {α : Type} (seen : Trace console) (x : Console α) :
    Option (Trace console × DeviceReply α) :=
  (x.run.exec? answer seen).map fun run =>
    (run.1, { prompts := (lefts run.1).map Event.query, result := run.2 })

/-- The backend, as far as a managed credential needs it. -/
def serve (seen : Trace console) : (query : Query) → Option (Trace console × query.Reply)
  | .enrollManaged applicationId recipientId policy label operation =>
    call seen (backend.enrollManaged applicationId recipientId policy label operation 1)
  | .evaluate request => call seen (backend.evaluate request 1)
  | .evaluateManagedEnrollment enrollment request =>
    call seen (NativeBackend.evaluateManagedEnrollment enrollment request)
  | _ => none

/-- What the console saw of a trace. -/
def seen (past : Trace host) : Trace console :=
  past.foldl (fun seen event => seen ++ ((serve seen event.query).map Prod.fst).getD []) []

/-- A random source that counts, and the backend. -/
def reply (past : Trace host) (query : Query) : Option query.Reply :=
  match query with
  | .random n => some (some (Bytes.ofNat n (past.length + 3)))
  | query => (serve (seen past) query).map Prod.snd

/-- The assertion objects after what the console saw. -/
def objects (seen : Trace console) : HmacDevice := Native.Vector.objects (rights seen)

omit [Primitives] [ManagedSessions] in
/-- The prompts leave the objects alone; the calls go to the authenticator of the vector. -/
theorem step_answer {past : Trace console} {query : console.Query} {r : console.Reply query}
    (h : answer past query = some r) :
    HmacConsole Native.Vector.hmac (objects past) ⟨query, r⟩ (objects (past ++ [⟨query, r⟩])) := by
  unfold objects
  rw [rights_append]
  cases query with
  | inl query => exact congrArg Native.Vector.objects (List.append_nil _)
  | inr query => exact Native.Vector.step_device_objects h

omit [Primitives] [ManagedSessions] in
theorem shows_call {α : Type} {seen t : Trace console} {x : Console α} {r : DeviceReply α}
    (h : call seen x = some (t, r)) :
    NativeBackend.Shows x r t ∧
      Path (HmacConsole Native.Vector.hmac) (objects seen) t (objects (seen ++ t)) := by
  obtain ⟨⟨u, result⟩, hexec, hsame⟩ := Option.map_eq_some_iff.mp h
  cases hsame
  exact ⟨⟨rfl, Program.runs_of_exec? hexec⟩, path_of_exec? (fun _ _ _ => step_answer) hexec⟩

/-- The console saw the call that gave the reply. -/
theorem replies_reply {past : Trace host} {query : Query} {r : query.Reply}
    (h : reply past query = some r) :
    ∃ t, seen (past ++ [⟨query, r⟩]) = seen past ++ t ∧ backend.Replies ⟨query, r⟩ t ∧
      Path (HmacConsole Native.Vector.hmac) (objects (seen past)) t (objects (seen past ++ t)) := by
  have hseen : seen (past ++ [⟨query, r⟩]) =
      seen past ++ ((serve (seen past) query).map Prod.fst).getD [] := by
    unfold seen
    rw [List.foldl_append]
    rfl
  rw [hseen]
  cases query with
  | random n =>
      refine ⟨[], rfl, rfl, ?_⟩
      rw [List.append_nil]
      rfl
  | enrollManaged applicationId recipientId policy label operation =>
      obtain ⟨⟨t, r'⟩, hserve, rfl⟩ := Option.map_eq_some_iff.mp h
      rw [hserve]
      obtain ⟨hshows, hpath⟩ := shows_call hserve
      exact ⟨t, rfl, ⟨1, hshows⟩, hpath⟩
  | evaluate request =>
      obtain ⟨⟨t, r'⟩, hserve, rfl⟩ := Option.map_eq_some_iff.mp h
      rw [hserve]
      obtain ⟨hshows, hpath⟩ := shows_call hserve
      exact ⟨t, rfl, ⟨1, hshows⟩, hpath⟩
  | evaluateManagedEnrollment enrollment request =>
      obtain ⟨⟨t, r'⟩, hserve, rfl⟩ := Option.map_eq_some_iff.mp h
      rw [hserve]
      obtain ⟨hshows, hpath⟩ := shows_call hserve
      exact ⟨t, rfl, hshows, hpath⟩
  | _ => cases h

/-- The assertion objects after a trace. -/
def after (past : Trace host) : HmacDevice := objects (seen past)

theorem step_reply {past : Trace host} {query : Query} {r : query.Reply}
    (h : reply past query = some r) :
    backend.Step Native.Vector.hmac (after past) ⟨query, r⟩ (after (past ++ [⟨query, r⟩])) := by
  obtain ⟨t, hseen, hreplies, hpath⟩ := replies_reply h
  unfold after
  rw [hseen]
  exact ⟨t, hreplies, hpath⟩

end Served

/-- The creation of the envelope. -/
def managedCreation [Primitives] [ManagedSessions] :
    Option (Trace host × Result (RootKey × KeyEnvelope × RecipientId)) :=
  (protector.createRoot enrollment).run.exec? reply []

theorem managedCreation_creates : (@managedCreation managedPrimitives managedSessions).elim false
    (fun run => run.2.toOption == some (managedRoot, managedEnvelope, managedRecord.id)) = true := by
  decide +kernel

theorem managedCreation_runs : ∃ t, @managedCreation managedPrimitives managedSessions =
    some (t, .ok (managedRoot, managedEnvelope, managedRecord.id)) := by
  have hcreation := managedCreation_creates
  cases hexec : @managedCreation managedPrimitives managedSessions with
  | none =>
      rw [hexec] at hcreation
      cases hcreation
  | some run =>
      obtain ⟨t, r⟩ := run
      rw [hexec] at hcreation
      cases r with
      | error e => cases hcreation
      | ok made =>
          have hsame : some made = some (managedRoot, managedEnvelope, managedRecord.id) :=
            eq_of_beq hcreation
          rw [Option.some.inj hsame]
          exact ⟨t, rfl⟩

end NativeVector

open NativeVector in
/-- The managed credential unlocks its envelope after libfido2 was loaded anew. -/
theorem native_session_recovers :
    let _ := managedPrimitives
    ∃ held, (backend.world Native.Vector.hmac).Unlocks (fun _ => {}) held managedRoot
      (protector.unlock managedEnvelope managedRecord.id) := by
  let _ := managedPrimitives
  obtain ⟨t, hexec⟩ := managedCreation_runs
  let world := backend.world Native.Vector.hmac
  let custody : Custody := Function.update (fun _ => {}) managedRecord.id (Held.typed t)
  have hpath : Path world.step (after []) t (after ([] ++ t)) :=
    path_of_exec? (fun _ _ _ => step_reply) hexec
  have hstart : world.Starts protector managedRoot (after [])
      (after t, ⟨managedEnvelope, custody⟩) :=
    ⟨t, _, _, .createRoot (Program.runs_of_exec? hexec), hpath, rfl⟩
  have hstep : world.Step managedRoot (after t, ⟨managedEnvelope, custody⟩)
      (fun _ => {}, ⟨managedEnvelope, custody⟩) := .move trivial
  have hmem : RecipientRecord.fido managedRecord ∈ managedEnvelope.recipients := List.mem_cons_self
  exact ⟨_, backend.native_sessions_recover Native.Vector.hmac hstart (.single hstep) rfl hmem
    nofun⟩

end FidoKeyWrap
