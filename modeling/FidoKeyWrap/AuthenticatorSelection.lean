/-
# FidoKeyWrap.AuthenticatorSelection — from the listed devices to the authenticator in use.

The native backend prepares a selection, asks the application to announce a touch when several
devices are left, and lets the adapter select. Whatever is selected satisfies the request, so the
checks that repeat a part of the request further on never fail: the policy check of `select`, the
capability checks of an enrollment and of the managed operations, and the refusal of a presence
assertion on a device that always verifies its user.
-/
import FidoKeyWrap.Native.Selection
import FidoKeyWrap.NativeAdmission

namespace FidoKeyWrap

open ByteData Interact

/-! ## Both selections -/

/-- The application was asked to announce a selection by touch. -/
def asksTouch (operation : Operation) (label : String) (policy : FidoPolicy)
    (reply : Except InteractionError Unit) : Event console :=
  Event.left (⟨.selectAuthenticatorByTouch operation label policy, reply⟩ : Event interaction)

/-- **`SelectionRun`** — a selection fails to be prepared, or it asks for a touch exactly when two
devices or more are left, and returns one of them if any. -/
inductive SelectionRun (prepare : Native.Adapter Native.PreparedSelection) (operation : Operation)
    (label : String) (policy : FidoPolicy) :
    Trace console → Except Error Native.Authenticator → Prop
  | unprepared {u : Trace Native.libfido2} {e : Native.Error}
      (failed : prepare.run.Runs u (.error e)) :
      SelectionRun prepare operation label policy (u.map Event.right) (.error (mapNativeError e))
  | selected {u v : Trace Native.libfido2} {selection : Native.PreparedSelection}
      {asked : Trace console} {r : Except Error Native.Authenticator}
      (ready : prepare.run.Runs u (.ok selection))
      (touch : if 2 ≤ selection.devices.length then
        ∃ reply, asked = [asksTouch operation label policy reply] else asked = [])
      (mem : ∀ authenticator, r = .ok authenticator →
        (authenticator.device, authenticator.capabilities) ∈ selection.devices) :
      SelectionRun prepare operation label policy (u.map Event.right ++ asked ++ v.map Event.right) r

/-- What `select` and `select_managed` share. -/
def selectFrom (prepare : Native.Adapter Native.PreparedSelection) (operation : Operation)
    (label : String) (policy : FidoPolicy) (rounds : Nat) : Console Native.Authenticator := do
  let selection ← native prepare
  NativeBackend.selectionTouch operation label policy selection
  native (selection.select rounds)

section Runs

variable {prepare : Native.Adapter Native.PreparedSelection} {operation : Operation}
  {label : String} {policy : FidoPolicy} {rounds : Nat} {t : Trace console}

theorem runs_selectionTouch {selection : Native.PreparedSelection} {r : Except Error Unit}
    (h : (NativeBackend.selectionTouch operation label policy selection).run.Runs t r) :
    if 2 ≤ selection.devices.length then
      ∃ reply, t = [asksTouch operation label policy reply] else t = [] := by
  unfold NativeBackend.selectionTouch Native.PreparedSelection.compatibleAuthenticators at h
  by_cases hseveral : 1 < selection.devices.length
  · rw [if_pos hseveral] at h
    rw [if_pos (show 2 ≤ selection.devices.length from hseveral)]
    obtain ⟨u, s, rfl, hask, -⟩ := Fallible.runs_left.mp h
    have hone : ∃ reply : Except InteractionError Unit,
        u = [⟨.selectAuthenticatorByTouch operation label policy, reply⟩] := by
      unfold Interaction.selectAuthenticatorByTouch prompt at hask
      rcases Fallible.runs_bind.mp hask with ⟨t₁, reply, t₂, rfl, hreply, hdone⟩ | ⟨e, hreply, -⟩
      · obtain ⟨reply', hasked, -⟩ := Fallible.runs_lift.mp hreply
        obtain rfl := Program.runs_ask.mp hasked
        obtain ⟨rfl, -⟩ := Fallible.runs_except.mp hdone
        exact ⟨reply', rfl⟩
      · obtain ⟨reply', -, hsame⟩ := Fallible.runs_lift.mp hreply
        cases hsame
    obtain ⟨reply, rfl⟩ := hone
    exact ⟨reply, rfl⟩
  · rw [if_neg hseveral] at h
    rw [if_neg (show ¬ 2 ≤ selection.devices.length from hseveral)]
    exact h.1

theorem runs_selectFrom {r : Except Error Native.Authenticator}
    (h : (selectFrom prepare operation label policy rounds).run.Runs t r) :
    SelectionRun prepare operation label policy t r := by
  rcases Fallible.runs_bind.mp h with ⟨t₁, selection, t₂, rfl, hprepare, h₁⟩ | ⟨e, hprepare, rfl⟩
  · obtain ⟨u, rfl, hready⟩ := Fallible.runs_right_ok.mp hprepare
    rcases Fallible.runs_bind.mp h₁ with ⟨asked, _, t₃, rfl, htouch, hselect⟩ | ⟨e, htouch, rfl⟩
    · obtain ⟨v, s, rfl, hv, rfl⟩ := Fallible.runs_right.mp hselect
      rw [← List.append_assoc]
      refine .selected hready (runs_selectionTouch htouch) fun authenticator hok => ?_
      rw [except_mapError_eq_ok] at hok
      rw [hok] at hv
      exact Native.mem_of_select hv
    · have hrun : SelectionRun prepare operation label policy
          (u.map Event.right ++ t₂ ++ ([] : Trace Native.libfido2).map Event.right) (.error e) :=
        .selected hready (runs_selectionTouch htouch) fun authenticator hok => by cases hok
      rwa [List.map_nil, List.append_nil] at hrun
  · obtain ⟨u, s, rfl, hu, hs⟩ := Fallible.runs_right.mp hprepare
    obtain ⟨e', rfl, rfl⟩ := except_mapError_eq_error.mp hs.symm
    exact .unprepared hu

/-- A selection that was prepared for a request returns an authenticator that satisfies it. -/
theorem SelectionRun.supports {backend : Native.Backend} {supports : Native.Capabilities → Bool}
    {authenticator : Native.Authenticator}
    (h : SelectionRun (backend.prepareSelectionMatching supports) operation label policy t
      (.ok authenticator)) : supports authenticator.capabilities = true := by
  cases h with
  | selected ready touch mem =>
      have hmem := mem authenticator rfl
      rcases Native.runs_prepareSelectionMatching.mp ready with ⟨e, -, he⟩ | ⟨_, _, _, outcomes, -, -,
        -, hprepared⟩
      · cases he
      · unfold Native.prepared at hprepared
        split at hprepared
        · cases hprepared
        · split at hprepared
          · cases hprepared
          · cases hprepared
            exact (List.mem_filter.mp hmem).2

end Runs

/-! ## The backend -/

section Backend

variable {backend : NativeBackend} {operation : Operation}
  {label : String} {policy : FidoPolicy} {rounds : Nat} {t : Trace console}

theorem selectManaged_eq (backend : NativeBackend) (operation : Operation) (label : String)
    (policy : FidoPolicy) (capability : Native.ManagedCapability) (rounds : Nat) :
    backend.selectManaged operation label policy capability rounds =
      selectFrom (backend.backend.prepareManagedSelection capability) operation label policy
        rounds :=
  rfl

/-- **The policy check of `select` never decides**: its runs are those without it. -/
theorem runs_select {r : Except Error Native.Authenticator} :
    (backend.select operation label policy rounds).run.Runs t r ↔
      (selectFrom (backend.backend.prepareSelection (nativePolicy policy)) operation label policy
        rounds).run.Runs t r := by
  cases policy with
  | presence =>
      have hsplit : backend.select operation label .presence rounds =
          selectFrom (backend.backend.prepareSelection .presence) operation label .presence
            rounds >>= fun authenticator => do
              require (authenticator.capabilities.supportsPresencePolicy = true)
                Error.noCompatibleAuthenticator
              return authenticator := by
        simp only [NativeBackend.select, selectFrom, bind_assoc]
        rfl
      rw [hsplit]
      exact Fallible.runs_bind_require fun u authenticator hrun => (runs_selectFrom hrun).supports
  | userVerification =>
      have hsplit : backend.select operation label .userVerification rounds =
          selectFrom (backend.backend.prepareSelection .userVerified) operation label
            .userVerification rounds >>= fun authenticator => do
              require (authenticator.capabilities.supportsVerifiedPolicy = true)
                Error.noCompatibleAuthenticator
              return authenticator := by
        simp only [NativeBackend.select, selectFrom, bind_assoc]
        rfl
      rw [hsplit]
      exact Fallible.runs_bind_require fun u authenticator hrun => (runs_selectFrom hrun).supports

/-! ## The checks further on -/

/-- What an operation on a device that satisfies the request for a policy meets: neither the
capability errors of `validate_enrollment` nor the refusal of `evaluate`. -/
structure ServesPolicy (authenticator : Native.Authenticator) (policy : FidoPolicy) : Prop where
  enrollment : ∀ request : Native.EnrollmentRequest, request.policy = nativePolicy policy →
    request.storage = .nonDiscoverable → Errors (authenticator.validateEnrollment request) fun e =>
      e ≠ .credentialManagementUnsupported ∧ e ≠ .unsupported
  alwaysUv : ¬ (nativePolicy policy = .presence ∧ authenticator.capabilities.alwaysUv = true)

/-- The same of a managed enrollment and of what its session does. -/
structure ServesManagedPolicy (authenticator : Native.Authenticator) (policy : FidoPolicy) :
    Prop where
  enrollment : ∀ request : Native.EnrollmentRequest, request.policy = nativePolicy policy →
    Errors (authenticator.validateEnrollment request) fun e =>
      e ≠ .credentialManagementUnsupported ∧ e ≠ .unsupported
  management : ∀ expected, Errors (authenticator.validateManaged expected) fun e =>
    e ≠ .credentialManagementUnsupported
  alwaysUv : ¬ (nativePolicy policy = .presence ∧ authenticator.capabilities.alwaysUv = true)

section Checks

variable {authenticator : Native.Authenticator} {policy : FidoPolicy}

theorem errors_validateRpId {E : Native.Error → Prop} (hE : ∀ message, E (.invalidInput message))
    (value : String) : Errors (Native.validateRpId value) E :=
  errors_bind (errors_require (hE _)) fun _ _ => errors_require (hE _)

/-- An enrollment on a device that satisfies its request is not refused for its capabilities. -/
theorem errors_validateEnrollment {request : Native.EnrollmentRequest}
    (hpolicy : authenticator.capabilities.supportsPolicy request.policy = true)
    (hmanaged : request.storage.managed = true →
      authenticator.capabilities.supportsManaged (.enrollment request.policy) = true) :
    Errors (authenticator.validateEnrollment request) fun e =>
      e ≠ .credentialManagementUnsupported ∧ e ≠ .unsupported := by
  have hinput : ∀ message, Native.Error.invalidInput message ≠ .credentialManagementUnsupported ∧
      Native.Error.invalidInput message ≠ .unsupported := by
    intro message
    constructor
    · rintro ⟨⟩
    · rintro ⟨⟩
  have hcapability : ¬ (request.storage.managed = true ∧
      authenticator.capabilities.supportsManaged (.enrollment request.policy) = false) := by
    rintro ⟨hstorage, hunsupported⟩
    rw [hmanaged hstorage] at hunsupported
    cases hunsupported
  refine errors_bind (errors_validateRpId hinput _) fun _ _ => ?_
  refine errors_bind ?_ fun _ _ => ?_
  · exact errors_bind (errors_require (hinput _)) fun _ _ => errors_require (hinput _)
  refine errors_bind ?_ fun _ _ => ?_
  · cases request.storage with
    | nonDiscoverable => exact errors_ok ⟨(), rfl⟩
    | managedDiscoverable userId => exact errors_require (hinput _)
  refine errors_bind (errors_ok ⟨(), require_eq_ok.mpr hcapability⟩) fun _ _ => ?_
  exact errors_bind (errors_ok ⟨(), require_eq_ok.mpr hpolicy⟩) fun _ _ => errors_ok ⟨_, rfl⟩

/-- A managed operation on a device with credential management is not refused for lack of it. -/
theorem errors_validateManaged
    (h : authenticator.capabilities.supportsManaged .management = true)
    (expected : Native.InventoryExpectation) :
    Errors (authenticator.validateManaged expected) fun e =>
      e ≠ .credentialManagementUnsupported := by
  have hinput : ∀ message, Native.Error.invalidInput message ≠ .credentialManagementUnsupported := by
    rintro message ⟨⟩
  refine errors_bind (errors_ok ⟨(), require_eq_ok.mpr h⟩) fun _ _ => ?_
  refine errors_bind (errors_validateRpId hinput _) fun _ _ => ?_
  refine errors_bind (errors_require (hinput _)) fun _ _ => ?_
  exact errors_require (hinput _)

/-- A device that always verifies its user satisfies no presence policy. -/
theorem not_alwaysUv (h : authenticator.capabilities.supportsPolicy (nativePolicy policy) = true) :
    ¬ (nativePolicy policy = .presence ∧ authenticator.capabilities.alwaysUv = true) := by
  rintro ⟨hpresence, halways⟩
  rw [hpresence] at h
  have hpresence : (authenticator.capabilities.compatible &&
      !authenticator.capabilities.alwaysUv) = true := h
  rw [halways, Bool.not_true, Bool.and_false] at hpresence
  cases hpresence

theorem servesPolicy_of_supports
    (h : authenticator.capabilities.supportsPolicy (nativePolicy policy) = true) :
    ServesPolicy authenticator policy where
  enrollment request hpolicy hstorage := by
    refine errors_validateEnrollment (hpolicy ▸ h) fun hmanaged => ?_
    rw [hstorage] at hmanaged
    cases hmanaged
  alwaysUv := not_alwaysUv h

/-- A managed enrollment asks for the policy, too. -/
theorem supportsPolicy_of_managed {capabilities : Native.Capabilities}
    {policy : Native.ExactPolicy} (h : capabilities.supportsManaged (.enrollment policy) = true) :
    capabilities.supportsPolicy policy = true := by
  simp only [Native.Capabilities.supportsManaged, Bool.and_eq_true] at h
  exact h.2

theorem servesManagedPolicy_of_supports
    (h : authenticator.capabilities.supportsManaged (.enrollment (nativePolicy policy)) = true) :
    ServesManagedPolicy authenticator policy where
  enrollment request hpolicy := by
    rw [← hpolicy] at h
    exact errors_validateEnrollment (supportsPolicy_of_managed h) fun _ => h
  management := errors_validateManaged (Native.Capabilities.management_of_enrollment h)
  alwaysUv := not_alwaysUv (supportsPolicy_of_managed h)

end Checks

end Backend

section Sessions

variable [Primitives] [ManagedSessions]

/-- The authenticator of a managed session was selected for its enrollment. -/
theorem servesManagedPolicy_of_enrollManaged {backend : NativeBackend}
    {application : ApplicationId} {recipient : RecipientId} {policy : FidoPolicy} {label : String}
    {operation : Operation} {rounds : Nat} {t : Trace console} {enrollment : ManagedEnrollment}
    (h : (backend.enrollManaged application recipient policy label operation rounds).run.Runs t
      (.ok enrollment)) :
    ∃ authenticator pin pending, enrollment.managedSession = .native authenticator pin pending ∧
      ServesManagedPolicy authenticator policy := by
  unfold NativeBackend.enrollManaged at h
  obtain ⟨t₁, authenticator, t₂, rfl, hselect, h₁⟩ := Fallible.runs_bind_ok.mp h
  obtain ⟨t₃, entered, t₄, rfl, -, h₂⟩ := Fallible.runs_bind_ok.mp h₁
  obtain ⟨pin, -, h₃⟩ := Fallible.runs_except_bind_ok.mp h₂
  obtain ⟨t₅, _, t₆, rfl, -, h₄⟩ := Fallible.runs_bind_ok.mp h₃
  obtain ⟨t₇, outcome, t₈, rfl, -, haccept⟩ := Fallible.runs_bind_ok.mp h₄
  obtain ⟨pending, -, hsession⟩ := session_of_acceptManaged haccept
  rw [selectManaged_eq] at hselect
  exact ⟨authenticator, pin, pending, hsession,
    servesManagedPolicy_of_supports (runs_selectFrom hselect).supports⟩

/-- **Authenticator selection.** A selection opens every listed device once and keeps exactly those
that satisfy the request, in discovery order; without one it reports the first open or inspection
error, or else that nothing compatible or nothing at all was found, and the assertion about that
holds. The native backend asks for a touch exactly when two devices or more are left, returns one of
them, and every later check of the same capabilities passes. -/
theorem authenticator_selection :
    (∀ (backend : Native.Backend) t paths, backend.discover.run.Runs t (.ok paths) →
      ∃ before list found slots, t = before ++ [
          ⟨.devInfoManifest list backend.config.maxDevices, (Native.fidoOk, found, slots)⟩] ∧
        paths = Native.listedPaths slots found) ∧
    (∀ (backend : Native.Backend) supports t r,
      (backend.prepareSelectionMatching supports).run.Runs t r →
        (∃ e, backend.discover.run.Runs t (.error e) ∧ r = .error e) ∨
          ∃ t₁ t₂ paths outcomes, t = t₁ ++ t₂ ∧ backend.discover.run.Runs t₁ (.ok paths) ∧
            Native.Inspects backend.config paths outcomes t₂ ∧
            r = (Native.prepared supports outcomes).map fun devices => ⟨devices, backend.config⟩) ∧
    (∀ config supports paths t found,
      (Native.openCandidates config supports paths {}).run.Runs t (.ok found) → paths ≠ [] →
        found.devices = [] →
          Native.noCandidateErrorChecked found.firstUnavailable found.foundIncompatible =
            some (Native.noCandidateError found.firstUnavailable)) ∧
    (∀ (backend : NativeBackend) operation label policy rounds t r,
      (backend.select operation label policy rounds).run.Runs t r →
        SelectionRun (backend.backend.prepareSelection (nativePolicy policy)) operation label policy
          t r) ∧
    (∀ (backend : NativeBackend) operation label policy capability rounds t r,
      (backend.selectManaged operation label policy capability rounds).run.Runs t r →
        SelectionRun (backend.backend.prepareManagedSelection capability) operation label policy
          t r) ∧
    (∀ (backend : NativeBackend) operation label policy rounds t r,
      (backend.select operation label policy rounds).run.Runs t r ↔
        (selectFrom (backend.backend.prepareSelection (nativePolicy policy)) operation label policy
          rounds).run.Runs t r) ∧
    (∀ (backend : NativeBackend) operation label policy rounds t authenticator,
      (backend.select operation label policy rounds).run.Runs t (.ok authenticator) →
        ServesPolicy authenticator policy) ∧
    (∀ (backend : NativeBackend) operation label policy rounds t authenticator,
      (backend.selectManaged operation label policy (.enrollment (nativePolicy policy))
        rounds).run.Runs t (.ok authenticator) → ServesManagedPolicy authenticator policy) ∧
    (∀ (backend : NativeBackend) application recipient policy label operation rounds t enrollment,
      (backend.enrollManaged application recipient policy label operation rounds).run.Runs t
        (.ok enrollment) →
        ∃ authenticator pin pending,
          enrollment.managedSession = .native authenticator pin pending ∧
            ServesManagedPolicy authenticator policy) ∧
    ∀ (backend : NativeBackend) operation label policy rounds t authenticator,
      (backend.selectManaged operation label policy .management rounds).run.Runs t
        (.ok authenticator) →
        ∀ expected, Errors (authenticator.validateManaged expected) fun e =>
          e ≠ .credentialManagementUnsupported := by
  refine ⟨?_, ?_, ?_, ?_, ?_, ?_, ?_, ?_, ?_, ?_⟩
  · intro backend t paths h
    obtain ⟨t₁, _, t₂, rfl, -, hmanifest⟩ := Fallible.runs_bind_ok.mp h
    obtain ⟨list, found, slots, rfl, -, -, rfl⟩ := Native.runs_manifest_ok.mp hmanifest
    refine ⟨t₁ ++ [⟨.devInfoNew backend.config.maxDevices, some list⟩], list, found, slots, ?_, rfl⟩
    rw [List.append_assoc]
    rfl
  · exact fun backend supports t r h => Native.runs_prepareSelectionMatching.mp h
  · intro config supports paths t found h hlisted hnone
    obtain ⟨outcomes, hinspects, hfound⟩ := Native.runs_openCandidates.mp h
    cases paths with
    | nil => exact absurd rfl hlisted
    | cons path rest =>
        exact Native.noCandidateErrorChecked_eq hinspects.ne_nil (Except.ok.inj hfound) hnone
  · exact fun backend operation label policy rounds t r h => runs_selectFrom (runs_select.mp h)
  · intro backend operation label policy capability rounds t r h
    rw [selectManaged_eq] at h
    exact runs_selectFrom h
  · exact fun backend operation label policy rounds t r => runs_select
  · intro backend operation label policy rounds t authenticator h
    exact servesPolicy_of_supports (runs_selectFrom (runs_select.mp h)).supports
  · intro backend operation label policy rounds t authenticator h
    rw [selectManaged_eq] at h
    exact servesManagedPolicy_of_supports (runs_selectFrom h).supports
  · intro backend application recipient policy label operation rounds t enrollment h
    exact servesManagedPolicy_of_enrollManaged h
  · intro backend operation label policy rounds t authenticator h
    rw [selectManaged_eq] at h
    exact errors_validateManaged (runs_selectFrom h).supports

end Sessions

/-! ## One authenticator, selected -/

namespace NativeVector

theorem discover_finds : (backend.backend.discover.run.exec? Native.Vector.device []).map Prod.snd =
    some (.ok [utf8 "key"]) := by
  decide

/-- The device of the vector does not satisfy a request that nothing satisfies. -/
theorem openCandidates_finds_none : ((Native.openCandidates backend.backend.config (fun _ => false)
    [utf8 "key"] {}).run.exec? Native.Vector.device []).map Prod.snd =
      some (.ok { foundIncompatible := true }) := by
  rfl

/-- The device of the vector, prepared. -/
def prepared : Native.PreparedSelection where
  devices := [(Native.Vector.authenticator.device, Native.Vector.authenticator.capabilities)]
  config := backend.backend.config

theorem prepareSelection_prepares : ((backend.backend.prepareSelection .userVerified).run.exec?
    Native.Vector.device []).map Prod.snd = some (.ok prepared) := by
  rfl

theorem select_selects : ((backend.select .unlock "key" .userVerification 1).run.exec? answer
    []).map Prod.snd = some (.ok Native.Vector.authenticator) := by
  decide

theorem selectManaged_selects (capability : Native.ManagedCapability) :
    ((backend.selectManaged .unlock "key" .userVerification capability 1).run.exec? answer
      []).map Prod.snd = some (.ok Native.Vector.authenticator) := by
  cases capability with
  | enrollment policy => cases policy <;> decide
  | management => decide

end NativeVector

open NativeVector in
/-- The one device is found, is nothing to a request that nothing satisfies, and is selected without
a touch for an assertion, an enrollment and the management. -/
theorem vector_selection :
    let _ := NativeVector.primitives
    (∃ before list found slots, backend.backend.discover.run.Runs (before ++ [
        ⟨.devInfoManifest list backend.backend.config.maxDevices, (Native.fidoOk, found, slots)⟩])
          (.ok [utf8 "key"]) ∧ [utf8 "key"] = Native.listedPaths slots found) ∧
      (∃ paths outcomes u, Native.Inspects backend.backend.config paths outcomes u ∧
        (Native.prepared (fun c => c.supportsPolicy .userVerified) outcomes).toOption =
          some prepared.devices) ∧
      Native.noCandidateErrorChecked none true = some (Native.noCandidateError none) ∧
      (∃ t, SelectionRun (backend.backend.prepareSelection .userVerified) .unlock "key"
        .userVerification t (.ok Native.Vector.authenticator)) ∧
      (∃ t, SelectionRun (backend.backend.prepareManagedSelection .management) .unlock "key"
        .userVerification t (.ok Native.Vector.authenticator)) ∧
      ServesPolicy Native.Vector.authenticator .userVerification ∧
      ServesManagedPolicy Native.Vector.authenticator .userVerification ∧
      (∃ (enrollment : ManagedEnrollment) (authenticator : Native.Authenticator) (pin : Native.Pin)
        (pending : Native.PendingManagedCredential),
        enrollment.managedSession = .native authenticator pin pending ∧
          ServesManagedPolicy authenticator .userVerification) ∧
      ∀ expected, Errors (Native.Vector.authenticator.validateManaged expected) fun e =>
        e ≠ .credentialManagementUnsupported := by
  let _ := NativeVector.primitives
  obtain ⟨hdiscover, hprepare, hnone, hselect, hmanaged, -, hserves, hservesManaged, henroll,
    hmanagement⟩ := authenticator_selection
  refine ⟨?_, ?_, ?_, ?_, ?_, ?_, ?_, ?_, ?_⟩
  · obtain ⟨t, ht⟩ := Program.exists_runs_of_exec? discover_finds
    obtain ⟨before, list, found, slots, rfl, hpaths⟩ := hdiscover _ t _ ht
    exact ⟨before, list, found, slots, ht, hpaths⟩
  · obtain ⟨t, ht⟩ := Program.exists_runs_of_exec? prepareSelection_prepares
    rcases hprepare _ _ t _ ht with ⟨e, -, he⟩ | ⟨-, u, paths, outcomes, -, -, hinspects, hr⟩
    · cases he
    · refine ⟨paths, outcomes, u, hinspects, ?_⟩
      cases hprepared : Native.prepared (fun c => c.supportsPolicy .userVerified) outcomes with
      | error e =>
          rw [hprepared] at hr
          cases hr
      | ok devices =>
          rw [hprepared] at hr
          cases hr
          rfl
  · obtain ⟨t, ht⟩ := Program.exists_runs_of_exec? openCandidates_finds_none
    exact hnone _ _ _ t _ ht (List.cons_ne_nil _ _) rfl
  · obtain ⟨t, ht⟩ := Program.exists_runs_of_exec? select_selects
    exact ⟨t, hselect backend _ _ .userVerification 1 t _ ht⟩
  · obtain ⟨t, ht⟩ := Program.exists_runs_of_exec? (selectManaged_selects .management)
    exact ⟨t, hmanaged _ _ _ _ _ _ t _ ht⟩
  · obtain ⟨t, ht⟩ := Program.exists_runs_of_exec? select_selects
    exact hserves _ _ _ _ _ t _ ht
  · obtain ⟨t, ht⟩ :=
      Program.exists_runs_of_exec? (selectManaged_selects (.enrollment .userVerified))
    exact hservesManaged backend _ _ .userVerification _ t _ ht
  · obtain ⟨⟨t, enrollment, u⟩, hruns⟩ := Option.isSome_iff_exists.mp enrollThenCleanup_isSome
    obtain ⟨authenticator, pin, pending, hsession, hmeets⟩ :=
      henroll _ _ _ _ _ _ _ t _ (runs_of_enrollThenCleanup hruns).1
    exact ⟨enrollment, authenticator, pin, pending, hsession, hmeets⟩
  · obtain ⟨t, ht⟩ := Program.exists_runs_of_exec? (selectManaged_selects .management)
    exact hmanagement _ _ _ _ _ t _ ht

end FidoKeyWrap
