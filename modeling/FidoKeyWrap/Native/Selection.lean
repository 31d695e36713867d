/-
# FidoKeyWrap.Native.Selection — which authenticators a selection keeps, and which one it returns.

A selection opens and inspects every listed device once, in order. What it keeps and the error it
reports are functions of the outcomes of these inspections: the devices that satisfy the request, in
order; without one, the first error, or else that nothing was found or nothing was compatible. The
touch that follows returns one of the kept devices, whatever the devices and the clock do.
-/
import FidoKeyWrap.Native.TouchSelection

namespace FidoKeyWrap.Native

open ByteData Interact

/-! ## Discovery -/

/-- The paths of a manifest, in order; a slot without a path is skipped. -/
def listedPaths (slots : Nat → NativeSlot) (found : Nat) : List ByteString :=
  (List.range found).filterMap fun index => (slots index).join

/-- What comes before the candidates are opened. -/
def Backend.discover (self : Backend) : Adapter (List ByteString) := do
  initializeThread
  manifest self.config.maxDevices

theorem manifestPaths_eq_ok {slots : Nat → NativeSlot} {indices : List Nat}
    {paths : List ByteString} :
    manifestPaths slots indices = .ok paths ↔
      (∀ index ∈ indices, slots index ≠ none) ∧
        paths = indices.filterMap fun index => (slots index).join := by
  induction indices generalizing paths with
  | nil =>
      constructor
      · intro h
        obtain rfl := except_pure_eq_ok.mp h
        exact ⟨fun index hmem => absurd hmem List.not_mem_nil, rfl⟩
      · rintro ⟨-, rfl⟩
        rfl
  | cons index rest ih =>
      have hsteps : manifestPaths slots (index :: rest) = .ok paths ↔ ∃ path, slots index = some path ∧
          ∃ tail, manifestPaths slots rest = .ok tail ∧ path.toList ++ tail = paths := by
        simp only [manifestPaths, except_bind_eq_ok, okOr_eq_ok, except_pure_eq_ok]
        simp only [eq_comm]
      rw [hsteps]
      constructor
      · rintro ⟨path, hslot, tail, htail, rfl⟩
        obtain ⟨hrest, rfl⟩ := ih.mp htail
        refine ⟨?_, ?_⟩
        · intro i hi
          rcases List.mem_cons.mp hi with rfl | hi
          · rw [hslot]
            exact Option.some_ne_none path
          · exact hrest i hi
        · rw [List.filterMap_cons, hslot]
          cases path with
          | none => rfl
          | some path => rfl
      · rintro ⟨hslots, rfl⟩
        obtain ⟨path, hslot⟩ := Option.ne_none_iff_exists'.mp (hslots index List.mem_cons_self)
        refine ⟨path, hslot, _, ih.mpr ⟨fun i hi => hslots i (List.mem_cons_of_mem index hi), rfl⟩, ?_⟩
        rw [List.filterMap_cons, hslot]
        cases path with
        | none => rfl
        | some path => rfl

/-- A manifest lists the paths of the devices that libfido2 found. -/
theorem runs_manifest_ok {maxDevices : Nat} {t : Trace libfido2} {paths : List ByteString} :
    (manifest maxDevices).run.Runs t (.ok paths) ↔
      ∃ list found slots, t = [⟨.devInfoNew maxDevices, some list⟩,
          ⟨.devInfoManifest list maxDevices, (fidoOk, found, slots)⟩] ∧
        found ≤ maxDevices ∧ (∀ index < found, slots index ≠ none) ∧
        paths = listedPaths slots found := by
  unfold manifest
  constructor
  · intro h
    obtain ⟨allocated, t₁, rfl, h₁⟩ := runs_call_bind_ok.mp h
    obtain ⟨list, hlist, h₂⟩ := Fallible.runs_except_bind_ok.mp h₁
    obtain ⟨⟨status, found, slots⟩, t₂, rfl, h₃⟩ := runs_call_bind_ok.mp h₂
    obtain ⟨t₃, _, t₄, rfl, hstatus, h₄⟩ := Fallible.runs_bind_ok.mp h₃
    obtain ⟨rfl, rfl⟩ := runs_orFail_ok.mp hstatus
    obtain ⟨_, hfound, h₅⟩ := Fallible.runs_except_bind_ok.mp h₄
    obtain ⟨rfl, hpaths⟩ := Fallible.runs_except.mp h₅
    obtain rfl := okOr_eq_ok.mp hlist
    obtain ⟨hslots, rfl⟩ := manifestPaths_eq_ok.mp hpaths.symm
    exact ⟨list, found, slots, rfl, not_lt.mp (require_eq_ok.mp hfound),
      fun index hindex => hslots index (List.mem_range.mpr hindex), rfl⟩
  · rintro ⟨list, found, slots, rfl, hfound, hslots, rfl⟩
    refine runs_call_bind_ok.mpr ⟨some list, _, rfl, ?_⟩
    refine Fallible.runs_except_bind_ok.mpr ⟨list, rfl, ?_⟩
    refine runs_call_bind_ok.mpr ⟨(fidoOk, found, slots), _, rfl, ?_⟩
    refine Fallible.runs_bind_ok.mpr ⟨[], (), [], rfl, runs_orFail_ok.mpr ⟨rfl, rfl⟩, ?_⟩
    refine Fallible.runs_except_bind_ok.mpr ⟨(), require_eq_ok.mpr (not_lt.mpr hfound), ?_⟩
    refine Fallible.runs_except.mpr ⟨rfl, (manifestPaths_eq_ok.mpr ⟨?_, rfl⟩).symm⟩
    exact fun index hindex => hslots index (List.mem_range.mp hindex)

/-! ## Inspections -/

/-- The outcome of opening and inspecting one candidate. -/
abbrev Inspection := Result (RawDevice × Capabilities)

/-- **`Inspects config paths outcomes t`** — in `t`, every path was opened and inspected once, in
order, with these outcomes. -/
inductive Inspects (config : Config) :
    List ByteString → List Inspection → Trace libfido2 → Prop
  | nil : Inspects config [] [] []
  | cons {path : ByteString} {paths : List ByteString} {outcome : Inspection}
      {outcomes : List Inspection} {t t' : Trace libfido2}
      (opened : (openCandidate path config).run.Runs t outcome)
      (rest : Inspects config paths outcomes t') :
      Inspects config (path :: paths) (outcome :: outcomes) (t ++ t')

theorem Inspects.length {config : Config} {paths : List ByteString} {outcomes : List Inspection}
    {t : Trace libfido2} (h : Inspects config paths outcomes t) :
    outcomes.length = paths.length := by
  induction h with
  | nil => rfl
  | cons opened rest ih => rw [List.length_cons, List.length_cons, ih]

theorem Inspects.ne_nil {config : Config} {path : ByteString} {paths : List ByteString}
    {outcomes : List Inspection} {t : Trace libfido2}
    (h : Inspects config (path :: paths) outcomes t) : outcomes ≠ [] := by
  rintro rfl
  cases h.length

section Outcomes

variable (supports : Capabilities → Bool)

/-- The candidates that satisfy the request, in discovery order. -/
def kept (outcomes : List Inspection) : List (RawDevice × Capabilities) :=
  (outcomes.filterMap Except.toOption).filter fun candidate => supports candidate.2

/-- The first open or inspection error, in discovery order. -/
def firstError (outcomes : List Inspection) : Option Error :=
  outcomes.findSome? fun
    | .error error => some error
    | .ok _ => none

/-- A candidate was inspected and does not satisfy the request. -/
def anyIncompatible (outcomes : List Inspection) : Bool :=
  outcomes.any fun
    | .error _ => false
    | .ok candidate => !supports candidate.2

/-- What a selection makes of the outcomes. -/
def prepared (outcomes : List Inspection) : Result (List (RawDevice × Capabilities)) :=
  if outcomes = [] then .error .noAuthenticators
  else if kept supports outcomes = [] then
    .error ((firstError outcomes).getD .noCompatibleAuthenticators)
  else .ok (kept supports outcomes)

/-- What the loop of a selection has found after the outcomes. -/
def Candidates.after (found : Candidates) (outcomes : List Inspection) : Candidates where
  devices := found.devices ++ kept supports outcomes
  firstUnavailable := found.firstUnavailable <|> firstError outcomes
  foundIncompatible := found.foundIncompatible || anyIncompatible supports outcomes

/-- The outcomes of the loop add up. -/
theorem Candidates.after_after (found : Candidates) (outcomes outcomes' : List Inspection) :
    (found.after supports outcomes).after supports outcomes' =
      found.after supports (outcomes ++ outcomes') := by
  simp [Candidates.after, kept, firstError, anyIncompatible, List.findSome?_append,
    Option.or_assoc, Bool.or_assoc]

/-- One candidate that could not be inspected. -/
theorem Candidates.after_error (found : Candidates) (error : Error) :
    found.after supports [.error error] =
      { found with firstUnavailable := found.firstUnavailable <|> some error } := by
  simp [Candidates.after, kept, firstError, anyIncompatible, Except.toOption]

/-- One candidate that was inspected. -/
theorem Candidates.after_ok (found : Candidates) (candidate : RawDevice × Capabilities) :
    found.after supports [.ok candidate] =
      if supports candidate.2 then { found with devices := found.devices ++ [candidate] }
      else { found with foundIncompatible := true } := by
  by_cases h : supports candidate.2 = true
  · simp [Candidates.after, kept, firstError, anyIncompatible, Except.toOption, h]
  · simp [Candidates.after, kept, firstError, anyIncompatible, Except.toOption, h]

variable {supports} {config : Config} {outcomes : List Inspection} {t : Trace libfido2}

/-- **The loop**: its three accumulators are functions of the outcomes. -/
theorem runs_openCandidates {paths : List ByteString} {found : Candidates}
    {r : Except Error Candidates} :
    (openCandidates config supports paths found).run.Runs t r ↔
      ∃ outcomes, Inspects config paths outcomes t ∧ r = .ok (found.after supports outcomes) := by
  induction paths generalizing found t with
  | nil =>
      constructor
      · rintro ⟨rfl, rfl⟩
        refine ⟨[], .nil, ?_⟩
        simp [Candidates.after, kept, firstError, anyIncompatible]
      · rintro ⟨outcomes, hinspects, rfl⟩
        cases hinspects
        refine ⟨rfl, ?_⟩
        simp [Candidates.after, kept, firstError, anyIncompatible]
  | cons path rest ih =>
      have hstep : (openCandidates config supports (path :: rest) found).run.Runs t r ↔
          ∃ t₁ outcome t₂, t = t₁ ++ t₂ ∧ (openCandidate path config).run.Runs t₁ outcome ∧
            (openCandidates config supports rest (found.after supports [outcome])).run.Runs t₂
              r := by
        refine Fallible.runs_outcome_bind.trans ?_
        -- each arm of the match goes on with the candidates after its outcome
        refine exists_congr fun t₁ => exists_congr fun outcome => exists_congr fun t₂ => ?_
        cases outcome with
        | error error => rw [Candidates.after_error]
        | ok candidate => rw [Candidates.after_ok]
      rw [hstep]
      constructor
      · rintro ⟨t₁, outcome, t₂, rfl, hopen, hrest⟩
        obtain ⟨outcomes, hinspects, rfl⟩ := ih.mp hrest
        refine ⟨outcome :: outcomes, .cons hopen hinspects, ?_⟩
        rw [Candidates.after_after, List.singleton_append]
      · rintro ⟨outcomes, hinspects, rfl⟩
        cases hinspects with
        | @cons _ _ outcome outcomes t₁ t₂ hopen hrest =>
            refine ⟨t₁, outcome, t₂, rfl, hopen, ih.mpr ⟨outcomes, hrest, ?_⟩⟩
            rw [Candidates.after_after, List.singleton_append]

/-! ## Preparation -/

/-- After the loop nothing is asked any more. -/
theorem runs_candidates {backend : Backend} (hsome : outcomes ≠ []) {found : Candidates}
    (hfound : found = ({} : Candidates).after supports outcomes)
    {r : Except Error PreparedSelection} :
    (do
      require (found.devices ≠ []) (noCandidateError found.firstUnavailable)
      return { devices := found.devices, config := backend.config } :
        Adapter PreparedSelection).run.Runs t r ↔
      t = [] ∧ r = (prepared supports outcomes).map fun devices => ⟨devices, backend.config⟩ := by
  have hdevices : found.devices = kept supports outcomes := by
    rw [hfound]
    exact List.nil_append _
  have hfirst : found.firstUnavailable = firstError outcomes := by
    rw [hfound]
    exact Option.none_or
  rw [hdevices, hfirst, Fallible.runs_except_bind, prepared, if_neg hsome]
  by_cases hkept : kept supports outcomes = []
  · rw [if_pos hkept]
    constructor
    · rintro (⟨_, hrequire, -⟩ | ⟨e, hrequire, rfl, rfl⟩)
      · exact absurd hkept (require_eq_ok.mp hrequire)
      · obtain ⟨-, rfl⟩ := require_eq_error.mp hrequire
        exact ⟨rfl, rfl⟩
    · rintro ⟨rfl, rfl⟩
      exact .inr ⟨_, require_eq_error.mpr ⟨not_not.mpr hkept, rfl⟩, rfl, rfl⟩
  · rw [if_neg hkept]
    constructor
    · rintro (⟨_, -, rfl, rfl⟩ | ⟨e, hrequire, -⟩)
      · exact ⟨rfl, rfl⟩
      · exact absurd hkept (require_eq_error.mp hrequire).1
    · rintro ⟨rfl, rfl⟩
      exact .inl ⟨(), require_eq_ok.mpr hkept, rfl, rfl⟩

/-- **What a selection keeps**, and the error it reports when it keeps nothing. -/
theorem runs_prepareSelectionMatching {backend : Backend} {r : Except Error PreparedSelection} :
    (backend.prepareSelectionMatching supports).run.Runs t r ↔
      (∃ e, backend.discover.run.Runs t (.error e) ∧ r = .error e) ∨
        ∃ t₁ t₂ paths outcomes, t = t₁ ++ t₂ ∧ backend.discover.run.Runs t₁ (.ok paths) ∧
          Inspects backend.config paths outcomes t₂ ∧
          r = (prepared supports outcomes).map fun devices => ⟨devices, backend.config⟩ := by
  have hsplit : backend.prepareSelectionMatching supports = backend.discover >>= fun paths => do
      require (paths ≠ []) Error.noAuthenticators
      let found ← openCandidates backend.config supports paths {}
      require (found.devices ≠ []) (noCandidateError found.firstUnavailable)
      return { devices := found.devices, config := backend.config } := by
    unfold Backend.prepareSelectionMatching Backend.discover
    rw [bind_assoc]
  have hbody : ∀ t₂ paths, (do
      require (paths ≠ []) Error.noAuthenticators
      let found ← openCandidates backend.config supports paths {}
      require (found.devices ≠ []) (noCandidateError found.firstUnavailable)
      return { devices := found.devices, config := backend.config } :
        Adapter PreparedSelection).run.Runs t₂ r ↔
      ∃ outcomes, Inspects backend.config paths outcomes t₂ ∧
        r = (prepared supports outcomes).map fun devices => ⟨devices, backend.config⟩ := by
    intro t₂ paths
    cases paths with
    | nil =>
        constructor
        · rintro ⟨rfl, rfl⟩
          exact ⟨[], .nil, rfl⟩
        · rintro ⟨outcomes, hinspects, rfl⟩
          cases hinspects
          exact ⟨rfl, rfl⟩
    | cons path rest =>
        have hlisted : require (path :: rest ≠ []) Error.noAuthenticators = .ok () :=
          require_eq_ok.mpr (List.cons_ne_nil path rest)
        rw [hlisted]
        change (openCandidates backend.config supports (path :: rest) {} >>= _).run.Runs t₂ r ↔ _
        constructor
        · intro h
          rcases Fallible.runs_bind.mp h with ⟨u, found, v, rfl, hopen, h₁⟩ | ⟨e, hopen, -⟩
          · obtain ⟨outcomes, hinspects, hfound⟩ := runs_openCandidates.mp hopen
            obtain ⟨rfl, rfl⟩ := (runs_candidates hinspects.ne_nil (Except.ok.inj hfound)).mp h₁
            exact ⟨outcomes, by rwa [List.append_nil], rfl⟩
          · obtain ⟨outcomes, -, hfound⟩ := runs_openCandidates.mp hopen
            cases hfound
        · rintro ⟨outcomes, hinspects, rfl⟩
          have hopen : (openCandidates backend.config supports (path :: rest) {}).run.Runs t₂
              (.ok (({} : Candidates).after supports outcomes)) :=
            runs_openCandidates.mpr ⟨outcomes, hinspects, rfl⟩
          exact Fallible.runs_bind.mpr (.inl ⟨t₂, _, [], (List.append_nil t₂).symm, hopen,
            (runs_candidates hinspects.ne_nil rfl).mpr ⟨rfl, rfl⟩⟩)
  rw [hsplit, Fallible.runs_bind]
  constructor
  · rintro (⟨t₁, paths, t₂, rfl, hdiscover, h⟩ | h)
    · obtain ⟨outcomes, hinspects, rfl⟩ := (hbody t₂ paths).mp h
      exact .inr ⟨t₁, t₂, paths, outcomes, rfl, hdiscover, hinspects, rfl⟩
    · exact .inl h
  · rintro (h | ⟨t₁, t₂, paths, outcomes, rfl, hdiscover, hinspects, rfl⟩)
    · exact .inr h
    · exact .inl ⟨t₁, paths, t₂, rfl, hdiscover, (hbody t₂ paths).mpr ⟨outcomes, hinspects, rfl⟩⟩

/-- `no_candidate_error` of a debug build; `None` is the failed assertion. -/
def noCandidateErrorChecked (firstUnavailable : Option Error) (foundIncompatible : Bool) :
    Option Error :=
  match firstUnavailable with
  | some error => some error
  | none => if foundIncompatible then some .noCompatibleAuthenticators else none

/-- **The assertion holds**: without a kept candidate and without an error, a candidate was
incompatible. -/
theorem noCandidateErrorChecked_eq {found : Candidates} (hsome : outcomes ≠ [])
    (hfound : found = ({} : Candidates).after supports outcomes) (hnone : found.devices = []) :
    noCandidateErrorChecked found.firstUnavailable found.foundIncompatible =
      some (noCandidateError found.firstUnavailable) := by
  subst hfound
  cases outcomes with
  | nil => exact absurd rfl hsome
  | cons outcome rest =>
      cases outcome with
      | error error => rfl
      | ok candidate =>
          have hunsupported : supports candidate.2 = false := by
            by_contra hsupports
            rw [Bool.not_eq_false] at hsupports
            simp [Candidates.after, kept, Except.toOption, hsupports] at hnone
          have hfirst : (({} : Candidates).after supports (.ok candidate :: rest)).foundIncompatible =
              true := by
            simp [Candidates.after, anyIncompatible, hunsupported]
          rw [hfirst]
          cases hunavailable : (({} : Candidates).after supports
              (.ok candidate :: rest)).firstUnavailable with
          | none => rfl
          | some error => rfl

end Outcomes

/-! ## Selection -/

/-- **The selected authenticator is one of the prepared ones**, after any touch. -/
theorem mem_of_select {selection : PreparedSelection} {rounds : Nat} {t : Trace libfido2}
    {authenticator : Authenticator}
    (h : (selection.select rounds).run.Runs t (.ok authenticator)) :
    (authenticator.device, authenticator.capabilities) ∈ selection.devices := by
  have htouch : ∀ {devices config}, (selectByTouch devices config rounds).run.Runs t
      (.ok authenticator) → (authenticator.device, authenticator.capabilities) ∈ devices := by
    intro devices config hrun
    obtain ⟨start, rest, -, ⟨e, he, -⟩ | ⟨a, p, -, -, -, hexit⟩⟩ := Touch.runs_selectByTouch hrun
    · cases he
    · cases hexit with
      | selected before mem cancel => exact mem
  unfold PreparedSelection.select at h
  split at h
  · rename_i device capabilities hdevices
    obtain ⟨affinity, t', -, -, hsame⟩ := runs_call_bind_ok.mp h
    cases hsame
    rw [hdevices]
    exact List.mem_singleton.mpr rfl
  · exact htouch h

end FidoKeyWrap.Native
