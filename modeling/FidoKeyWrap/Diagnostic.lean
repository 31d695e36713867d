/-
# FidoKeyWrap.Diagnostic — the report on the connected authenticators.

A report names what an authenticator lacks, and no more. Each use of an authenticator is prevented by
some of the issues; a selection for the use keeps exactly the authenticators without them, in the order
of the report (`reports_foretell_selections`). An authenticator is reported compatible when nothing
prevents any use.
-/
import FidoKeyWrap.Native.Diagnostic
import FidoKeyWrap.NativeBackend

namespace FidoKeyWrap

open Interact

/-! ## The report -/

/-- Why an authenticator is unusable for one or more recovery policies. -/
inductive AuthenticatorIssue where
  | unavailable
  | fido2Unavailable
  | es256Unavailable
  | hmacSecretUnavailable
  | credentialProtectionUnavailable
  | discoverableCredentialsUnavailable
  | credentialManagementUnavailable
  | userVerificationUnavailable
  | userVerificationNotConfigured
  | presenceRecoveryUnavailable
  deriving DecidableEq

structure AuthenticatorReport where
  compatible : Bool
  issues : List AuthenticatorIssue
  deriving DecidableEq

def reportFor (capabilities : Native.Capabilities) : AuthenticatorReport :=
  let issues : List AuthenticatorIssue :=
    (if !capabilities.fido2 then [AuthenticatorIssue.fido2Unavailable] else []) ++
    (if !capabilities.es256 then [AuthenticatorIssue.es256Unavailable] else []) ++
    (if !capabilities.hmacSecret then [AuthenticatorIssue.hmacSecretUnavailable] else []) ++
    (if !capabilities.credentialProtection
      then [AuthenticatorIssue.credentialProtectionUnavailable] else []) ++
    (if !capabilities.discoverableCredentials
      then [AuthenticatorIssue.discoverableCredentialsUnavailable] else []) ++
    (if !capabilities.credentialManagement
      then [AuthenticatorIssue.credentialManagementUnavailable] else []) ++
    (if !capabilities.clientPinSupported then [AuthenticatorIssue.userVerificationUnavailable]
      else if !capabilities.clientPinConfigured
      then [AuthenticatorIssue.userVerificationNotConfigured] else []) ++
    (if capabilities.alwaysUv then [AuthenticatorIssue.presenceRecoveryUnavailable] else [])
  { compatible := issues.isEmpty, issues }

def reportStatus : Native.DeviceStatus → AuthenticatorReport
  | .compatible capabilities | .incompatible capabilities _ => reportFor capabilities
  | .unavailable _ => { compatible := false, issues := [.unavailable] }

def inspectAuthenticators : Fallible Native.libfido2 Error (List AuthenticatorReport) := do
  let reports ← Fallible.mapError mapNativeError Native.Backend.default.inspectAuthenticators
  return reports.map reportStatus

/-! ## Uses -/

/-- What an authenticator is selected for. -/
inductive Use where
  | recovery (policy : Native.ExactPolicy)
  | managed (capability : Native.ManagedCapability)
  deriving DecidableEq

namespace Use

/-- The selection for a use. -/
def selection (backend : Native.Backend) : Use → Native.Adapter Native.PreparedSelection
  | recovery policy => backend.prepareSelection policy
  | managed capability => backend.prepareManagedSelection capability

/-- The use evaluates a PRF or makes a credential that does. -/
def Evaluates : Use → Bool
  | managed .management => false
  | _ => true

/-- The use lists or keeps credentials on the authenticator. -/
def Manages : Use → Bool
  | managed _ => true
  | recovery _ => false

/-- The use needs an authenticator that keeps to presence. -/
def Presence : Use → Bool
  | recovery .presence | managed (.enrollment .presence) => true
  | _ => false

/-- **`prevented use issue`** — an authenticator with the issue is not selected for the use. -/
def prevented (use : Use) : AuthenticatorIssue → Bool
  | .unavailable | .fido2Unavailable | .es256Unavailable | .userVerificationUnavailable
  | .userVerificationNotConfigured => true
  | .hmacSecretUnavailable | .credentialProtectionUnavailable => use.Evaluates
  | .discoverableCredentialsUnavailable => use.Evaluates && use.Manages
  | .credentialManagementUnavailable => use.Manages
  | .presenceRecoveryUnavailable => use.Presence

/-- Nothing that the report names prevents the use. -/
def served (use : Use) (report : AuthenticatorReport) : Bool :=
  report.issues.all fun issue => !use.prevented issue

/-- The capabilities that the selection asks for. -/
def supports : Use → Native.Capabilities → Bool
  | recovery policy, capabilities => capabilities.supportsPolicy policy
  | managed capability, capabilities => capabilities.supportsManaged capability

theorem selection_eq (backend : Native.Backend) (use : Use) :
    use.selection backend = backend.prepareSelectionMatching use.supports := by
  cases use with
  | recovery policy => rfl
  | managed capability => rfl

/-- An issue that is named if `b` holds. -/
theorem all_if {issue : AuthenticatorIssue} {p : AuthenticatorIssue → Bool} (b : Bool) :
    (if b then [issue] else []).all p = (!b || p issue) := by
  cases b <;> simp

theorem all_unless_else {issue issue' : AuthenticatorIssue} {p : AuthenticatorIssue → Bool}
    (b b' : Bool) : (if !b then [issue] else if !b' then [issue'] else []).all p =
      ((b || p issue) && (!b || b' || p issue')) := by
  cases b <;> cases b' <;> simp

/-- **A use is served exactly when the capabilities support it.** -/
theorem served_reportFor (use : Use) (capabilities : Native.Capabilities) :
    use.served (reportFor capabilities) = use.supports capabilities := by
  have hpin (p c : Bool) : ((p && (!p || c)) = true) ↔ (p = true ∧ c = true) := by
    cases p <;> simp
  rw [Bool.eq_iff_iff]
  simp only [served, reportFor, List.all_append, all_if, all_unless_else]
  rcases use with (_ | _) | (_ | _) | _ <;>
    · simp only [prevented, Evaluates, Manages, Presence, supports, Native.Capabilities.supportsPolicy,
        Native.Capabilities.supportsPresencePolicy, Native.Capabilities.supportsVerifiedPolicy,
        Native.Capabilities.compatible, Native.Capabilities.supportsManaged, Bool.not_true,
        Bool.not_false, Bool.not_not, Bool.or_true, Bool.or_false, Bool.and_true, Bool.and_false,
        Bool.and_eq_true, hpin]
      tauto

/-- Every issue prevents the enrollment of a managed credential for presence. -/
theorem served_enrollment_iff {report : AuthenticatorReport} :
    (managed (.enrollment .presence)).served report = true ↔ report.issues = [] := by
  have hprevented : ∀ issue, (managed (.enrollment .presence)).prevented issue = true := by
    intro issue
    cases issue <;> rfl
  cases hissues : report.issues with
  | nil => simp [served, hissues]
  | cons issue issues => simp [served, hissues, hprevented]

end Use

/-- A report is compatible when it names nothing. -/
theorem compatible_iff_served (status : Native.DeviceStatus) :
    (reportStatus status).compatible = true ↔ ∀ use : Use, use.served (reportStatus status) = true := by
  have hnil : (reportStatus status).compatible = true ↔ (reportStatus status).issues = [] := by
    cases status with
    | unavailable error => simp [reportStatus]
    | _ => simp [reportStatus, reportFor, List.isEmpty_iff]
  constructor
  · intro hcompatible use
    rw [Use.served, hnil.mp hcompatible, List.all_nil]
  · exact fun hserved => hnil.mpr (Use.served_enrollment_iff.mp (hserved _))

/-! ## Reports and selections -/

/-- **`Foretold use reports r`** — a selection with this outcome keeps exactly the authenticators that the
reports find fit for the use; without one it fails, and when every authenticator was inspected it fails
for want of a compatible one. -/
def Foretold (use : Use) (reports : List AuthenticatorReport) :
    Native.Result Native.PreparedSelection → Prop
  | .ok selection => selection.devices ≠ [] ∧
      selection.devices.map (fun device => reportFor device.2) = reports.filter use.served
  | .error error => reports.filter use.served = [] ∧
      ((∀ report ∈ reports, .unavailable ∉ report.issues) →
        mapNativeError error = .noCompatibleAuthenticator)

section Reports

variable {use : Use} {statuses : List Native.DeviceStatus}

/-- The reports fit for a use are those of the capabilities that support it. -/
theorem filter_served : (statuses.map reportStatus).filter use.served =
    ((statuses.filterMap Native.DeviceStatus.capabilities?).filter use.supports).map reportFor := by
  induction statuses with
  | nil => rfl
  | cons status rest ih =>
      have hread (capabilities : Native.Capabilities) (hreport : reportStatus status =
          reportFor capabilities) (hcapabilities : status.capabilities? = some capabilities) :
          ((status :: rest).map reportStatus).filter use.served = (((status :: rest).filterMap
            Native.DeviceStatus.capabilities?).filter use.supports).map reportFor := by
        rw [List.map_cons, List.filterMap_cons, hcapabilities, hreport, List.filter_cons,
          List.filter_cons, Use.served_reportFor, ih]
        split <;> rfl
      cases status with
      | compatible capabilities => exact hread capabilities rfl rfl
      | incompatible capabilities reasons => exact hread capabilities rfl rfl
      | unavailable error =>
          -- an authenticator that was not inspected is fit for no use
          exact ih

theorem firstUnavailable_eq_none
    (h : ∀ report ∈ statuses.map reportStatus, .unavailable ∉ report.issues) :
    Native.firstUnavailable statuses = none := by
  unfold Native.firstUnavailable
  rw [List.findSome?_eq_none_iff]
  intro status hmem
  cases status with
  | unavailable error => exact absurd List.mem_cons_self (h _ (List.mem_map_of_mem hmem))
  | _ => rfl

theorem foretold_of_selects {r : Native.Result Native.PreparedSelection}
    (h : Native.Selects use.supports statuses r) :
    Foretold use (statuses.map reportStatus) r := by
  cases r with
  | ok selection =>
      obtain ⟨hsome, hkept⟩ := h
      refine ⟨hsome, ?_⟩
      rw [filter_served, ← hkept, List.map_map]
      rfl
  | error error =>
      obtain ⟨hnone, rfl⟩ := h
      refine ⟨?_, fun hinspected => ?_⟩
      · rw [filter_served, hnone, List.map_nil]
      · rw [firstUnavailable_eq_none hinspected]
        split <;> rfl

/-- **The reports foretell every selection**: an inspection only reads, and over its calls a selection
for a use keeps the authenticators that nothing in the reports prevents; where the inspection fails, so
does the selection, with the same error. A report is compatible when the authenticator serves every
use. -/
theorem reports_foretell_selections {t : Trace Native.libfido2}
    {r : Except Error (List AuthenticatorReport)} (h : inspectAuthenticators.run.Runs t r) :
    (∀ event ∈ t, event.query.ReadsOnly) ∧ match r with
      | .ok reports =>
        (∀ report ∈ reports, report.compatible = true ↔ ∀ use : Use, use.served report = true) ∧
          ∀ use : Use, ∃ r', (use.selection Native.Backend.default).run.Runs t r' ∧
            Foretold use reports r'
      | .error e => ∀ use : Use, ∃ e', (use.selection Native.Backend.default).run.Runs t (.error e') ∧
          mapNativeError e' = e := by
  have hinspects : ∃ s, Native.Backend.default.inspectAuthenticators.run.Runs t s ∧
      r = (s.mapError mapNativeError).map fun statuses => statuses.map reportStatus := by
    rcases Fallible.runs_bind.mp h with ⟨t₁, statuses, t₂, rfl, hmap, rfl, rfl⟩ | ⟨e, hmap, rfl⟩
    · obtain ⟨s, hrun, hsame⟩ := Fallible.runs_mapError.mp hmap
      rw [List.append_nil]
      exact ⟨s, hrun, by rw [← hsame]; rfl⟩
    · obtain ⟨s, hrun, hsame⟩ := Fallible.runs_mapError.mp hmap
      exact ⟨s, hrun, by rw [← hsame]; rfl⟩
  obtain ⟨s, hrun, rfl⟩ := hinspects
  refine ⟨Native.reading_inspectAuthenticators _ t s hrun, ?_⟩
  cases s with
  | ok statuses =>
      refine ⟨fun report hmem => ?_, fun use => ?_⟩
      · obtain ⟨status, -, rfl⟩ := List.mem_map.mp hmem
        exact compatible_iff_served status
      · obtain ⟨r', hselect, hselects⟩ := Native.inspection_selects hrun use.supports
        rw [Use.selection_eq]
        exact ⟨r', hselect, foretold_of_selects hselects⟩
  | error e =>
      intro use
      obtain ⟨r', hselect, rfl⟩ := Native.inspection_selects hrun use.supports
      rw [Use.selection_eq]
      exact ⟨e, hselect, rfl⟩

/-- The authenticator of the vector serves every use. -/
theorem vector_reports_foretell :
    let report : AuthenticatorReport := ⟨true, []⟩
    ∃ t, inspectAuthenticators.run.Runs t (.ok [report]) ∧ (∀ event ∈ t, event.query.ReadsOnly) ∧
      ∀ use : Use, ∃ r, (use.selection Native.Backend.default).run.Runs t r ∧
        Foretold use [report] r := by
  intro report
  have hexec : (inspectAuthenticators.run.exec? Native.Vector.device []).map Prod.snd =
      some (.ok [report]) := by decide
  obtain ⟨⟨t, _⟩, hrun, rfl⟩ := Option.map_eq_some_iff.mp hexec
  have hinspects := Program.runs_of_exec? hrun
  obtain ⟨hreads, -, hforetold⟩ := reports_foretell_selections hinspects
  exact ⟨t, hinspects, hreads, hforetold⟩

end Reports

end FidoKeyWrap
