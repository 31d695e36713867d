/-
# FidoKeyWrap.Deployment — sessions whose authenticators are a world with a state.

Recovery assumes of each reply that it is honest. Here the replies come from a world: it answers the
queries of a call one after another, and other things may happen to it between two calls of the
session. A world that keeps an invariant, and answers with one PRF while the invariant holds, makes
every session honest, so every record that is still there is opened by what is held for it
(`DeviceWorld.Honors.sound`). The backend in memory and the native backend are two such worlds.
-/
import FidoKeyWrap.Recovery
import FidoKeyWrap.Lib.Path

namespace FidoKeyWrap

open ByteData Interact

variable [Primitives]

/-! ## The own unlock of a record -/

/-- The holder types the passphrase, and memory is granted. -/
def Attends (held : Held) : Event host → Prop
  | ⟨.passphrase _, reply⟩ =>
    ∀ x, held.passphrase = some x → (show Except InteractionError Passphrase from reply) = .ok x
  | ⟨.reserve _, reply⟩ => (show Bool from reply) = true
  | _ => True

/-- Every run evaluates the request first, and stops when the evaluation fails. -/
def EvaluatesFirst (x : Host RootKey) (request : PrfRequest) : Prop :=
  ∀ t r, x.run.Runs t r → ∃ reply rest, t = ⟨.evaluate request, reply⟩ :: rest ∧
    ∀ error, reply.result = .error error → r = .error error

section Unlocking

variable {q : KeyProtector} {e : KeyEnvelope} {record : RecipientRecord} {request : PrfRequest}
  {prf : Prf} {held : Held} {root : RootKey}

/-- An evaluation is one query, and ends as its reply does. -/
theorem runs_evaluate {t : Trace host} {r : Result (Bytes 32)}
    (hrequest : q.prfRequest record e .unlock = .ok request)
    (h : (q.evaluate record e .unlock).run.Runs t r) :
    ∃ reply, t = [⟨.evaluate request, reply⟩] ∧ r = reply.result := by
  unfold KeyProtector.evaluate at h
  rw [hrequest] at h
  rcases Fallible.runs_bind.mp h with ⟨t₁, asked, t₂, rfl, hnone, hasks⟩ | ⟨error, hnone, -⟩
  · obtain ⟨rfl, hasked⟩ := Fallible.runs_except.mp hnone
    cases hasked
    rcases Fallible.runs_bind.mp hasks with ⟨t₁, reply, t₃, rfl, hask, hreturns⟩ | ⟨error, hask, -⟩
    · obtain ⟨reply', rfl, hreply⟩ := runs_ask.mp hask
      cases hreply
      obtain ⟨rfl, rfl⟩ := Fallible.runs_except.mp hreturns
      exact ⟨reply, rfl, rfl⟩
    · obtain ⟨reply, -, hreply⟩ := runs_ask.mp hask
      cases hreply
  · obtain ⟨-, hasked⟩ := Fallible.runs_except.mp hnone
    cases hasked

theorem evaluatesFirst_evaluate_bind {f : Bytes 32 → Host RootKey}
    (h : q.prfRequest record e .unlock = .ok request) :
    EvaluatesFirst (q.evaluate record e .unlock >>= f) request := by
  intro t r hrun
  rcases Fallible.runs_bind.mp hrun with ⟨t₁, b, t₂, rfl, hhead, -⟩ | ⟨error, hhead, rfl⟩
  · obtain ⟨reply, rfl, hreply⟩ := runs_evaluate h hhead
    refine ⟨reply, t₂, rfl, fun error herror => ?_⟩
    rw [herror] at hreply
    cases hreply
  · obtain ⟨reply, rfl, hreply⟩ := runs_evaluate h hhead
    refine ⟨reply, [], rfl, fun error' herror => ?_⟩
    rw [herror] at hreply
    cases hreply
    rfl

theorem evaluatesFirst_except_bind {α : Type} {x : Result α} {a : α} {f : α → Host RootKey}
    (hx : x = .ok a) (hf : EvaluatesFirst (f a) request) :
    EvaluatesFirst ((liftM x : Host α) >>= f) request := by
  subst hx
  exact hf

theorem evaluatesFirst_bind_except {x : Host RootKey} {f : RootKey → Result RootKey}
    (hx : EvaluatesFirst x request) : EvaluatesFirst (x >>= fun root => liftM (f root)) request := by
  intro t r hrun
  rcases Fallible.runs_bind.mp hrun with ⟨t₁, root, t₂, rfl, hhead, htail⟩ | ⟨error, hhead, rfl⟩
  · obtain ⟨reply, rest, rfl, hstops⟩ := hx t₁ _ hhead
    refine ⟨reply, rest ++ t₂, rfl, fun error herror => ?_⟩
    cases hstops error herror
  · obtain ⟨reply, rest, rfl, hstops⟩ := hx t _ hhead
    refine ⟨reply, rest, rfl, fun error' herror => ?_⟩
    cases hstops error' herror
    rfl

/-- Every suite with a credential evaluates before anything else. -/
theorem evaluatesFirst_unlock (happ : e.applicationId = q.applicationId)
    (hfind : e.find record.id = .ok record) (hadmits : q.Admits record.passphraseParameters)
    (hlocal : record.policy ≠ .fidoPresenceAndLocalSecret)
    (hrequest : q.prfRequest record e .unlock = .ok request) :
    EvaluatesFirst (q.unlock e record.id) request := by
  apply evaluatesFirst_except_bind ((requireApplication_eq_ok (u := ())).mpr happ)
  apply evaluatesFirst_except_bind hfind
  apply evaluatesFirst_except_bind ((admitRecord_eq_ok (u := ())).mpr hadmits)
  apply evaluatesFirst_bind_except
  cases record with
  | passphrase r => cases hrequest
  | recoverySecret r => cases hrequest
  | fido r => exact evaluatesFirst_evaluate_bind hrequest
  | fidoAndPassphrase r => exact evaluatesFirst_evaluate_bind hrequest
  | fidoAndLocalSecret r => exact absurd rfl hlocal

theorem evaluatesFirst_unlockWithFidoAndLocalSecret {r : FidoAndLocalSecretRecipient}
    {secret : LocalSecret} (happ : e.applicationId = q.applicationId)
    (hfind : e.find r.id = .ok (.fidoAndLocalSecret r))
    (hrequest : q.prfRequest (.fidoAndLocalSecret r) e .unlock = .ok request) :
    EvaluatesFirst (q.unlockWithFidoAndLocalSecret e r.id secret) request := by
  apply evaluatesFirst_except_bind ((requireApplication_eq_ok (u := ())).mpr happ)
  apply evaluatesFirst_except_bind (except_mapError_eq_ok.mpr hfind)
  exact evaluatesFirst_evaluate_bind hrequest

theorem mem_prfRequests {queries : List Query} :
    request ∈ prfRequests queries ↔ Query.evaluate request ∈ queries := by
  unfold prfRequests
  rw [List.mem_filterMap]
  constructor
  · rintro ⟨query, hmem, hquery⟩
    cases query <;> cases hquery
    exact hmem
  · intro hmem
    exact ⟨_, hmem, rfl⟩

/-- With the one evaluation answered by the PRF, everything cooperates. -/
theorem cooperates_of_attends {t : Trace host}
    (hattends : ∀ event ∈ t, Attends held event)
    (hanswers : ∀ request (reply : DeviceReply (Bytes 32)), ⟨.evaluate request, reply⟩ ∈ t →
      reply.result = .ok (prf.answer request)) :
    ∀ event ∈ t, Cooperates prf held event := by
  intro event hmem
  have hevent := hattends event hmem
  obtain ⟨query, reply⟩ := event
  cases query with
  | passphrase prompt => exact hevent
  | reserve blocks => exact hevent
  | evaluate request => exact hanswers request reply hmem
  | _ => trivial

/-- **`OwnUnlock prf q e held root record x`** — what is known of the unlock of a record with the held
factors: cooperating replies give back the root, it keeps to the route of the record, and if the
record has a credential it evaluates that first. -/
structure OwnUnlock (prf : Prf) (q : KeyProtector) (e : KeyEnvelope) (held : Held) (root : RootKey)
    (record : RecipientRecord) (x : Host RootKey) : Prop where
  find : e.find record.id = .ok record
  returns : Fallible.Returns (Cooperates prf held) x root
  route : ∀ t r, x.run.Runs t r → OneRoute q e record.id t
  first : ∀ request, q.prfRequest record e .unlock = .ok request → EvaluatesFirst x request

/-- **One evaluation decides**: attended by the holder, and with an honest authenticator, the unlock gives
back the root or ends with the error of its evaluation. -/
theorem OwnUnlock.ends {x : Host RootKey} (hown : OwnUnlock prf q e held root record x)
    {t : Trace host} {r : Result RootKey} (hrun : x.run.Runs t r)
    (hattends : ∀ event ∈ t, Attends held event) (hhonest : ∀ event ∈ t, Honest prf event) :
    r = .ok root ∨ ∃ (request : PrfRequest) (reply : DeviceReply (Bytes 32)) (rest : Trace host)
      (error : Error), q.prfRequest record e .unlock = .ok request ∧
        t = ⟨.evaluate request, reply⟩ :: rest ∧ reply.result = .error error ∧
          r = .error error := by
  by_cases hasks : ∃ request, q.prfRequest record e .unlock = .ok request
  · obtain ⟨request, hrequest⟩ := hasks
    obtain ⟨reply, rest, rfl, hstops⟩ := hown.first request hrequest t r hrun
    have honce : ∀ request', ¬ Query.evaluate request' ∈ rest.map Event.query := by
      intro request' hmem
      have hlength := (hown.route _ r hrun).prf
      have hpos : 0 < (prfRequests (rest.map Event.query)).length :=
        List.length_pos_of_mem (mem_prfRequests.mpr hmem)
      have hcons : prfRequests (Query.evaluate request :: rest.map Event.query) =
          request :: prfRequests (rest.map Event.query) := rfl
      rw [List.map_cons, hcons, List.length_cons] at hlength
      omega
    cases hresult : reply.result with
    | ok b =>
        left
        refine hown.returns _ r hrun (cooperates_of_attends hattends fun request' reply' hmem => ?_)
        rcases List.mem_cons.mp hmem with hsame | hmem
        · cases hsame
          have hevent : Honest prf ⟨.evaluate request, reply⟩ := hhonest _ List.mem_cons_self
          rw [hresult, hevent b hresult]
        · exact absurd (List.mem_map_of_mem hmem) (honce request')
    | error error =>
        exact .inr ⟨request, reply, rest, error, hrequest, rfl, hresult, hstops error hresult⟩
  · -- a record without a credential asks for no evaluation
    left
    refine hown.returns t r hrun (cooperates_of_attends hattends fun request reply hmem => ?_)
    have hprfOf (hrequests : Requests q e record request) :
        PrfOf prf q.applicationId e.envelopeId record (prf.answer request) :=
      prfOf_of_requests hrequests
    obtain ⟨found, hfound, hrequests, -⟩ :=
      (hown.route t r hrun).exact request (mem_prfRequests.mpr (List.mem_map_of_mem hmem))
    rw [hown.find] at hfound
    cases hfound
    obtain ⟨request', hrequest', -⟩ := prfRequest_of_prfOf (hprfOf hrequests) .unlock
    exact absurd ⟨request', hrequest'⟩ hasks

/-- **`ByOwnUnlock P q e held root record`** — the record's own unlock with the held factors has the
property `P`; that of a recovery secret asks nothing, and gives back the root. -/
def ByOwnUnlock (P : Host RootKey → Prop) (q : KeyProtector) (e : KeyEnvelope) (held : Held)
    (root : RootKey) (record : RecipientRecord) : Prop :=
  match record with
  | .passphrase _ | .fido _ | .fidoAndPassphrase _ => P (q.unlock e record.id)
  | .recoverySecret _ =>
    ∃ secret, held.recoverySecret = some secret ∧
      q.unlockWithRecoverySecret e record.id secret = .ok root
  | .fidoAndLocalSecret _ =>
    ∃ secret, held.localSecret = some secret ∧
      P (q.unlockWithFidoAndLocalSecret e record.id secret)

/-- What is held opens the record, so whatever follows of its own unlock holds. -/
theorem byOwnUnlock_of_opens {P : Host RootKey → Prop}
    (hP : ∀ x, OwnUnlock prf q e held root record x → P x)
    (happ : e.applicationId = q.applicationId) (hcommitted : Committed root e)
    (hmem : record ∈ e.recipients) (hadmits : q.Admits record.passphraseParameters)
    (hopens : Opens prf e.applicationId e.envelopeId held record root) :
    ByOwnUnlock P q e held root record := by
  have hfind := find_of_mem hcommitted.wellFormed.ascending hmem
  have hunlock (hrecovery : record.policy ≠ .recoverySecret)
      (hlocal : record.policy ≠ .fidoPresenceAndLocalSecret) : P (q.unlock e record.id) := by
    rw [happ] at hopens
    have hopened := returns_openRecord hopens hrecovery hlocal
    exact hP _ ⟨hfind, returns_unlock happ hcommitted hmem hadmits hopened,
      fun _ _ => oneRoute_unlock, fun _ => evaluatesFirst_unlock happ hfind hadmits hlocal⟩
  cases record with
  | passphrase r => exact hunlock (by simp [RecipientRecord.policy]) (by simp [RecipientRecord.policy])
  | fido r =>
      apply hunlock <;> cases hstorage : r.storage <;> simp [RecipientRecord.policy, hstorage]
  | fidoAndPassphrase r =>
      exact hunlock (by simp [RecipientRecord.policy]) (by simp [RecipientRecord.policy])
  | recoverySecret r => exact unlockWithRecoverySecret_of_opens happ hcommitted hmem hopens
  | fidoAndLocalSecret r =>
      obtain ⟨secret, hsecret, hreturns⟩ :=
        returns_unlockWithFidoAndLocalSecret (q := q) happ hcommitted hmem hopens
      exact ⟨secret, hsecret, hP _ ⟨hfind, hreturns,
        fun _ _ => oneRoute_unlockWithFidoAndLocalSecret,
        fun _ => evaluatesFirst_unlockWithFidoAndLocalSecret happ hfind⟩⟩

end Unlocking

/-! ## Worlds -/

/-- **`DeviceWorld`** — what answers the protector: the replies it may give in a state with what they
leave, and what else may happen to it. -/
structure DeviceWorld (σ : Type) where
  step : σ → Event host → σ → Prop
  moves : σ → σ → Prop

namespace DeviceWorld

variable {σ : Type}

/-- A creation in the world, and what its user holds after it. -/
def Starts (world : DeviceWorld σ) (p : KeyProtector) (root : RootKey) (s : σ)
    (now : σ × Holding) : Prop :=
  ∃ t id held, Created p t root now.2.envelope id held ∧ Path world.step s t now.1 ∧
    now.2.custody = Function.update (fun _ => {}) id held

/-- **`Step world root`** — one step of a session in the world: an update with any outcome, an encoding
and decoding, or something that happens to the world alone. -/
inductive Step (world : DeviceWorld σ) (root : RootKey) : σ × Holding → σ × Holding → Prop
  | update {s s' h m t r e'} : Update root m t r h.envelope e' → Path world.step s t s' →
      Step world root (s, h) (s', ⟨e', m.custody h.custody t r⟩)
  | recode {s h e'} : KeyEnvelope.decode h.envelope.encode = .ok e' →
      Step world root (s, h) (s, ⟨e', h.custody⟩)
  | move {s s' h} : world.moves s s' → Step world root (s, h) (s', h)

/-- Any number of steps. -/
def Steps (world : DeviceWorld σ) (root : RootKey) : σ × Holding → σ × Holding → Prop :=
  Relation.ReflTransGen (Step world root)

/-- **`Honors world prf I`** — in states with the invariant the world answers with the PRF, and
everything keeps the invariant. -/
structure Honors (world : DeviceWorld σ) (prf : Prf) (I : σ → Prop) : Prop where
  step : ∀ s event s', I s → world.step s event s' → I s' ∧ Honest prf event
  move : ∀ s s', I s → world.moves s s' → I s'

variable {world : DeviceWorld σ} {prf : Prf} {I : σ → Prop} {p : KeyProtector} {root : RootKey}
  {d : Bytes 32} {s s' : σ} {now later : σ × Holding}

/-- A whole call is honest. -/
theorem Honors.path (h : Honors world prf I) {t : Trace host} (hI : I s)
    (hpath : Path world.step s t s') : I s' ∧ ∀ event ∈ t, Honest prf event := by
  induction t generalizing s with
  | nil =>
      obtain rfl : s' = s := hpath
      exact ⟨hI, fun event hmem => by cases hmem⟩
  | cons first rest ih =>
      obtain ⟨mid, hstep, hrest⟩ := hpath
      obtain ⟨hmid, hfirst⟩ := h.step s first mid hI hstep
      obtain ⟨hlast, hhonest⟩ := ih hmid hrest
      refine ⟨hlast, fun event hmem => ?_⟩
      rcases List.mem_cons.mp hmem with rfl | hmem
      · exact hfirst
      · exact hhonest event hmem

/-- What holds of a session at any time. -/
def Kept (I : σ → Prop) (prf : Prf) (p : KeyProtector) (root : RootKey) (d : Bytes 32)
    (now : σ × Holding) : Prop :=
  I now.1 ∧ now.2.Sound prf p root d

theorem Honors.start (h : Honors world prf I) (hI : I s) (hstart : world.Starts p root s now) :
    Kept I prf p root now.2.envelope.envelopeId now := by
  obtain ⟨t, id, held, hcreated, hpath, hcustody⟩ := hstart
  obtain ⟨hnow, hhonest⟩ := h.path hI hpath
  exact ⟨hnow, Holding.sound_of_start ⟨t, id, held, hcreated, hhonest, hcustody⟩⟩

/-- **One step keeps it**: the world answered the update honestly. -/
theorem Honors.keeps (h : Honors world prf I) (hkept : Kept I prf p root d now)
    (hstep : world.Step root now later) : Kept I prf p root d later := by
  obtain ⟨hI, hsound⟩ := hkept
  cases hstep with
  | update hupdate hpath =>
      obtain ⟨hlater, hhonest⟩ := h.path hI hpath
      exact ⟨hlater, hsound.step (.update hupdate hhonest)⟩
  | recode hdecode => exact ⟨hI, hsound.step (.recode hdecode)⟩
  | move hmove => exact ⟨h.move _ _ hI hmove, hsound⟩

/-- **Every session in an honest world is sound**, whatever else happened to the world. -/
theorem Honors.sound (h : Honors world prf I) (hI : I s) (hstart : world.Starts p root s now)
    (hsteps : world.Steps root now later) :
    Kept I prf p root now.2.envelope.envelopeId later := by
  induction hsteps with
  | refl => exact h.start hI hstart
  | tail _ hstep ih => exact h.keeps ih hstep

/-- So whatever follows of the own unlock of a record, in the states of the invariant, holds. -/
theorem Honors.byOwnUnlock (h : Honors world prf I) (hI : I s) (hstart : world.Starts p root s now)
    (hsteps : world.Steps root now later) {q : KeyProtector} {P : Host RootKey → Prop}
    (happ : q.applicationId = p.applicationId) {record : RecipientRecord}
    (hmem : record ∈ later.2.envelope.recipients) (hadmits : q.Admits record.passphraseParameters)
    (hP : ∀ x, I later.1 →
      OwnUnlock prf q later.2.envelope (later.2.custody record.id) root record x → P x) :
    ByOwnUnlock P q later.2.envelope (later.2.custody record.id) root record := by
  obtain ⟨hlater, hsound⟩ := h.sound hI hstart hsteps
  exact byOwnUnlock_of_opens (fun x => hP x hlater) (hsound.envelope.application.trans happ.symm)
    hsound.envelope.committed hmem hadmits (hsound.opens record hmem)

/-- **`Unlocks world s held root x`** — a run of `x` over the world, attended by the holder, gives back
the root, or ends with the error that the authenticator gave to an evaluation. -/
def Unlocks (world : DeviceWorld σ) (s : σ) (held : Held) (root : RootKey) (x : Host RootKey) :
    Prop :=
  ∀ t r s', x.run.Runs t r → Path world.step s t s' → (∀ event ∈ t, Attends held event) →
    r = .ok root ∨ ∃ request reply error, ⟨.evaluate request, reply⟩ ∈ t ∧
      reply.result = .error error ∧ r = .error error

/-- **Every record that is still there can be unlocked**, as far as the authenticator evaluates. -/
theorem Honors.unlocks (h : Honors world prf I) (hI : I s) (hstart : world.Starts p root s now)
    (hsteps : world.Steps root now later) {q : KeyProtector}
    (happ : q.applicationId = p.applicationId) {record : RecipientRecord}
    (hmem : record ∈ later.2.envelope.recipients) (hadmits : q.Admits record.passphraseParameters) :
    let held := later.2.custody record.id
    ByOwnUnlock (world.Unlocks later.1 held root) q later.2.envelope held root record := by
  refine h.byOwnUnlock hI hstart hsteps happ hmem hadmits fun x hlater hown t r s' hrun hpath
    hattends => ?_
  obtain ⟨-, hhonest⟩ := h.path hlater hpath
  rcases hown.ends hrun hattends hhonest with hok | ⟨request, reply, rest, error, -, rfl, hreply, hr⟩
  · exact .inl hok
  · exact .inr ⟨request, reply, error, List.mem_cons_self, hreply, hr⟩

end DeviceWorld

end FidoKeyWrap
