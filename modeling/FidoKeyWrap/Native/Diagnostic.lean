/-
# FidoKeyWrap.Native.Diagnostic — the read-only inspection of the connected devices.

An inspection opens every listed device and reads its capabilities, as a selection does; it keeps a
status for each, a failure included, and ends there. It makes the same calls as a selection, so a trace
of one is a trace of the other (`inspection_selects`), and all of them only read.
-/
import FidoKeyWrap.Native.Selection

namespace FidoKeyWrap.Native

open ByteData Interact

/-! ## The inspection -/

/-- A reason a device cannot implement the wrapping protocol. -/
inductive Incompatibility where
  | notFido2
  | missingHmacSecret
  | missingCredentialProtection
  | missingEs256
  | missingClientPin
  | clientPinNotConfigured
  deriving DecidableEq

/-- **`DeviceStatus`** — the report of one device. -/
inductive DeviceStatus where
  | compatible (capabilities : Capabilities)
  | incompatible (capabilities : Capabilities) (reasons : List Incompatibility)
  | unavailable (error : Error)
  deriving DecidableEq

def incompatibilities (capabilities : Capabilities) : List Incompatibility :=
  (if !capabilities.fido2 then [Incompatibility.notFido2] else []) ++
  (if !capabilities.hmacSecret then [Incompatibility.missingHmacSecret] else []) ++
  (if !capabilities.credentialProtection
    then [Incompatibility.missingCredentialProtection] else []) ++
  (if !capabilities.es256 then [Incompatibility.missingEs256] else []) ++
  (if !capabilities.clientPinSupported then [Incompatibility.missingClientPin]
    else if !capabilities.clientPinConfigured then [Incompatibility.clientPinNotConfigured] else [])

def statusForCapabilities (capabilities : Capabilities) : DeviceStatus :=
  let reasons := incompatibilities capabilities
  if reasons = [] then .compatible capabilities else .incompatible capabilities reasons

/-- The status of one opened and inspected candidate. -/
def Inspection.status : Inspection → DeviceStatus
  | .ok (_, capabilities) => statusForCapabilities capabilities
  | .error error => .unavailable error

/-- The map over the candidates. -/
def inspectCandidates (config : Config) : List ByteString → Adapter (List DeviceStatus)
  | [] => return []
  | path :: rest => do
    let outcome ← Fallible.outcome (openCandidate path config)
    let statuses ← inspectCandidates config rest
    return Inspection.status outcome :: statuses

def Backend.inspectAuthenticators (self : Backend) : Adapter (List DeviceStatus) := do
  initializeThread
  let candidates ← manifest self.config.maxDevices
  if candidates = [] then return []
  inspectCandidates self.config candidates

/-- `Backend::default`. -/
def Backend.default : Backend := ⟨Config.default⟩

/-! ## Its runs -/

section Runs

variable {config : Config} {t : Trace libfido2}

theorem runs_inspectCandidates {paths : List ByteString} {r : Except Error (List DeviceStatus)} :
    (inspectCandidates config paths).run.Runs t r ↔
      ∃ outcomes, Inspects config paths outcomes t ∧ r = .ok (outcomes.map Inspection.status) := by
  induction paths generalizing t r with
  | nil =>
      constructor
      · rintro ⟨rfl, rfl⟩
        exact ⟨[], .nil, rfl⟩
      · rintro ⟨outcomes, hinspects, rfl⟩
        cases hinspects
        exact ⟨rfl, rfl⟩
  | cons path rest ih =>
      refine Fallible.runs_outcome_bind.trans ?_
      constructor
      · rintro ⟨t₁, outcome, t₂, rfl, hopen, hrest⟩
        rcases Fallible.runs_bind.mp hrest with ⟨t₃, statuses, t₄, rfl, hinspect, rfl, rfl⟩ | ⟨e, hinspect, -⟩
        · obtain ⟨outcomes, hinspects, hstatuses⟩ := ih.mp hinspect
          cases hstatuses
          rw [List.append_nil]
          exact ⟨outcome :: outcomes, .cons hopen hinspects, rfl⟩
        · obtain ⟨outcomes, -, herror⟩ := ih.mp hinspect
          cases herror
      · rintro ⟨outcomes, hinspects, rfl⟩
        cases hinspects with
        | @cons _ _ outcome outcomes t₁ t₂ hopen hrest =>
            refine ⟨t₁, outcome, t₂, rfl, hopen, Fallible.runs_bind.mpr (.inl ⟨t₂, _, [],
              (List.append_nil t₂).symm, ih.mpr ⟨outcomes, hrest, rfl⟩, rfl, rfl⟩)⟩

/-- **What an inspection reports**: the discovery failed, or every listed device has a status. -/
theorem runs_inspectAuthenticators {backend : Backend} {r : Except Error (List DeviceStatus)} :
    backend.inspectAuthenticators.run.Runs t r ↔
      (∃ e, backend.discover.run.Runs t (.error e) ∧ r = .error e) ∨
        ∃ t₁ t₂ paths outcomes, t = t₁ ++ t₂ ∧ backend.discover.run.Runs t₁ (.ok paths) ∧
          Inspects backend.config paths outcomes t₂ ∧ r = .ok (outcomes.map Inspection.status) := by
  have hsplit : backend.inspectAuthenticators = backend.discover >>= fun paths =>
      inspectCandidates backend.config paths := by
    unfold Backend.inspectAuthenticators Backend.discover
    rw [bind_assoc]
    refine bind_congr fun _ => bind_congr fun paths => ?_
    cases paths with
    | nil => rfl
    | cons path rest => rfl
  rw [hsplit, Fallible.runs_bind]
  constructor
  · rintro (⟨t₁, paths, t₂, rfl, hdiscover, hinspect⟩ | h)
    · obtain ⟨outcomes, hinspects, rfl⟩ := runs_inspectCandidates.mp hinspect
      exact .inr ⟨t₁, t₂, paths, outcomes, rfl, hdiscover, hinspects, rfl⟩
    · exact .inl h
  · rintro (h | ⟨t₁, t₂, paths, outcomes, rfl, hdiscover, hinspects, rfl⟩)
    · exact .inr h
    · exact .inl ⟨t₁, paths, t₂, rfl, hdiscover, runs_inspectCandidates.mpr ⟨outcomes, hinspects, rfl⟩⟩

end Runs

/-! ## It only reads -/

/-- The call discovers or opens a device, or reads from it: no PIN, no touch, no credential. -/
def Query.ReadsOnly : Query → Prop
  | ensureLoaded | init _ | devInfoNew _ | devInfoManifest .. | devNew | devSetTimeout .. | devOpen ..
  | devIsFido2 _ | devSupportsCredProt _ | devSupportsCredman _ | devSupportsPin _ | devHasPin _
  | cborInfoNew | devGetCborInfo .. | devGetRetryCount _ => True
  | _ => False

section ReadsOnly

/-- No run of `x` does more than read. -/
def Reading {α : Type} (x : Adapter α) : Prop :=
  Program.Every (fun event : Event libfido2 => event.query.ReadsOnly) x.run

variable {α β : Type}

theorem reading_bind {x : Adapter α} {f : α → Adapter β} (hx : Reading x) (hf : ∀ a, Reading (f a)) :
    Reading (x >>= f) :=
  Fallible.every_bind hx hf

theorem reading_call_bind {query : Query} {f : query.Reply → Adapter α} (h : query.ReadsOnly)
    (hf : ∀ reply, Reading (f reply)) :
    Reading (@bind Adapter _ query.Reply α (call query) f) :=
  Fallible.every_bind (every_call fun _ => h) hf

theorem reading_except (x : Result α) : Reading (liftM x) := Fallible.every_except x

theorem reading_pure (a : α) : Reading (pure a) := Program.every_pure _

theorem reading_orFail {status : Int32} {failure : Adapter Error} (h : Reading failure) :
    Reading (orFail status failure) := by
  unfold orFail
  split
  · exact reading_pure _
  · exact reading_bind h fun _ => Fallible.every_throw _

theorem reading_translate (device : RawDevice) (status : Int32) (operation : String) :
    Reading (device.translate status operation) := by
  unfold RawDevice.translate
  split
  · exact reading_call_bind trivial fun _ => reading_pure _
  · exact reading_pure _

theorem reading_discover (backend : Backend) : Reading backend.discover := by
  refine reading_bind ?_ fun _ => ?_
  · exact reading_call_bind trivial fun _ => reading_bind (reading_except _) fun _ =>
      every_call fun _ => trivial
  · refine reading_call_bind trivial fun _ => reading_bind (reading_except _) fun _ => ?_
    refine reading_call_bind trivial fun _ => reading_bind (reading_orFail (reading_pure _)) fun _ => ?_
    exact reading_bind (reading_except _) fun _ => reading_except _

theorem reading_openCandidate (path : ByteString) (config : Config) :
    Reading (openCandidate path config) := by
  refine reading_bind ?_ fun device => reading_bind ?_ fun _ => reading_pure _
  · refine reading_call_bind trivial fun _ => reading_bind (reading_except _) fun _ => ?_
    refine reading_call_bind trivial fun _ => reading_bind (reading_orFail (reading_pure _)) fun _ => ?_
    refine reading_call_bind trivial fun _ => reading_bind (reading_orFail (reading_pure _)) fun _ => ?_
    exact reading_pure _
  · refine reading_call_bind trivial fun _ => reading_bind (reading_except _) fun _ => ?_
    refine reading_call_bind trivial fun _ => ?_
    refine reading_bind (reading_orFail (reading_translate device _ _)) fun _ => ?_
    refine reading_bind (reading_except _) fun _ => reading_bind (reading_except _) fun _ => ?_
    refine reading_bind (reading_except _) fun _ => reading_bind (reading_except _) fun _ => ?_
    refine reading_bind (reading_except _) fun _ => reading_call_bind trivial fun _ => ?_
    refine reading_call_bind trivial fun _ => reading_call_bind trivial fun _ => ?_
    exact reading_call_bind trivial fun _ => reading_call_bind trivial fun _ => reading_pure _

/-- **An inspection only reads**, whatever the devices answer. -/
theorem reading_inspectAuthenticators (backend : Backend) :
    Reading backend.inspectAuthenticators := by
  intro t r hrun
  rcases runs_inspectAuthenticators.mp hrun with
    ⟨e, hdiscover, -⟩ | ⟨t₁, t₂, paths, outcomes, rfl, hdiscover, hinspects, -⟩
  · exact reading_discover backend t _ hdiscover
  · have hinspected : ∀ event ∈ t₂, event.query.ReadsOnly := by
      clear hdiscover hrun
      induction hinspects with
      | nil => exact fun event hmem => absurd hmem List.not_mem_nil
      | @cons path _ outcome _ u _ opened _ ih =>
          intro event hmem
          rcases List.mem_append.mp hmem with hmem | hmem
          · exact reading_openCandidate path backend.config u outcome opened event hmem
          · exact ih event hmem
    intro event hmem
    rcases List.mem_append.mp hmem with hmem | hmem
    · exact reading_discover backend t₁ _ hdiscover event hmem
    · exact hinspected event hmem

end ReadsOnly

/-! ## What it says of a selection -/

/-- The capabilities that were read, in discovery order. -/
def DeviceStatus.capabilities? : DeviceStatus → Option Capabilities
  | .compatible capabilities | .incompatible capabilities _ => some capabilities
  | .unavailable _ => none

theorem capabilities?_status (outcome : Inspection) :
    (Inspection.status outcome).capabilities? = outcome.toOption.map Prod.snd := by
  cases outcome with
  | error error => rfl
  | ok candidate =>
      show (statusForCapabilities candidate.2).capabilities? = some candidate.2
      simp only [statusForCapabilities]
      split <;> rfl

/-- The first device that could not be inspected. -/
def firstUnavailable (statuses : List DeviceStatus) : Option Error :=
  statuses.findSome? fun
    | .unavailable error => some error
    | _ => none

/-- **`Selects supports statuses r`** — a selection with this outcome keeps the devices whose
capabilities satisfy the request; without one it fails as the statuses say. -/
def Selects (supports : Capabilities → Bool) (statuses : List DeviceStatus) :
    Result PreparedSelection → Prop
  | .ok selection => selection.devices ≠ [] ∧
      selection.devices.map Prod.snd = (statuses.filterMap DeviceStatus.capabilities?).filter supports
  | .error error => (statuses.filterMap DeviceStatus.capabilities?).filter supports = [] ∧
      error = if statuses = [] then .noAuthenticators
        else (firstUnavailable statuses).getD .noCompatibleAuthenticators

theorem kept_capabilities {supports : Capabilities → Bool} (outcomes : List Inspection) :
    ((outcomes.map Inspection.status).filterMap DeviceStatus.capabilities?).filter supports =
      (kept supports outcomes).map Prod.snd := by
  have hread : (outcomes.map Inspection.status).filterMap DeviceStatus.capabilities? =
      (outcomes.filterMap Except.toOption).map Prod.snd := by
    rw [List.filterMap_map, List.map_filterMap]
    exact List.filterMap_congr fun outcome _ => capabilities?_status outcome
  rw [hread, kept, List.filter_map]
  rfl

theorem firstUnavailable_status (outcomes : List Inspection) :
    firstUnavailable (outcomes.map Inspection.status) = firstError outcomes := by
  unfold firstUnavailable firstError
  rw [List.findSome?_map]
  refine congrArg (fun f => List.findSome? f outcomes) (funext fun outcome => ?_)
  cases outcome with
  | error error => rfl
  | ok candidate =>
      simp only [Function.comp_apply, Inspection.status, statusForCapabilities]
      by_cases hnil : incompatibilities candidate.2 = []
      · rw [if_pos hnil]
      · rw [if_neg hnil]

theorem selects_prepared {supports : Capabilities → Bool} {config : Config}
    (outcomes : List Inspection) : Selects supports (outcomes.map Inspection.status)
      ((prepared supports outcomes).map fun devices => ⟨devices, config⟩) := by
  have hnil : outcomes.map Inspection.status = [] ↔ outcomes = [] := List.map_eq_nil_iff
  unfold prepared
  by_cases hnone : outcomes = []
  · subst hnone
    exact ⟨rfl, rfl⟩
  · rw [if_neg hnone]
    by_cases hkept : kept supports outcomes = []
    · rw [if_pos hkept]
      refine ⟨?_, ?_⟩
      · rw [kept_capabilities, hkept, List.map_nil]
      · rw [if_neg (mt hnil.mp hnone), firstUnavailable_status]
    · rw [if_neg hkept]
      exact ⟨hkept, (kept_capabilities outcomes).symm⟩

/-- **An inspection foretells every selection**: over the same calls a selection keeps the devices whose
reported capabilities satisfy it, and it fails with the discovery that failed. -/
theorem inspection_selects {backend : Backend} {t : Trace libfido2}
    {r : Except Error (List DeviceStatus)} (h : backend.inspectAuthenticators.run.Runs t r)
    (supports : Capabilities → Bool) :
    ∃ r', (backend.prepareSelectionMatching supports).run.Runs t r' ∧ match r with
      | .ok statuses => Selects supports statuses r'
      | .error e => r' = .error e := by
  rcases runs_inspectAuthenticators.mp h with
    ⟨e, hdiscover, rfl⟩ | ⟨t₁, t₂, paths, outcomes, rfl, hdiscover, hinspects, rfl⟩
  · exact ⟨.error e, runs_prepareSelectionMatching.mpr (.inl ⟨e, hdiscover, rfl⟩), rfl⟩
  · exact ⟨_, runs_prepareSelectionMatching.mpr
      (.inr ⟨t₁, t₂, paths, outcomes, rfl, hdiscover, hinspects, rfl⟩), selects_prepared outcomes⟩

end FidoKeyWrap.Native
