/-
# FidoKeyWrap.NativeAdmission — what the core admits, the adapter admits.

The core and the adapter check the same values with bounds and character rules of their own. Every
application identity, recipient id, PIN and configuration the core accepts passes the checks of the
adapter, and so does every credential id that an operation asks for, which comes from a decoded
record or was checked when it was enrolled. A native call can then fail because of a device, but not
because of what it was handed.
-/
import FidoKeyWrap.Admission
import FidoKeyWrap.Custody
import FidoKeyWrap.Lib.Ascii
import FidoKeyWrap.Native.Rejection
import FidoKeyWrap.NativePrf
import FidoKeyWrap.Staging
import FidoKeyWrap.Unlock

namespace FidoKeyWrap

open ByteData Interact

/-! ## Values -/

/-- The characters of an application identity are printable. -/
theorem ApplicationId.printable (application : ApplicationId) :
    ∀ byte ∈ utf8 application.asStr, 0x20 ≤ byte ∧ byte ≠ 0x7f := by
  have haccepted := application.accepted
  simp only [ApplicationId.accepts, Bool.and_eq_true, List.all_eq_true] at haccepted
  obtain ⟨⟨-, hlabels⟩, -⟩ := haccepted
  intro byte hmem
  by_cases hdot : byte = 0x2e
  · subst hdot
    decide
  · obtain ⟨label, hlabel, hbyte⟩ := exists_mem_splitOn.mpr ⟨hmem, hdot⟩
    have hall := hlabels label hlabel
    simp only [acceptsLabel, Bool.and_eq_true, List.all_eq_true] at hall
    have hallowed := hall.2 byte hbyte
    simp only [isAsciiLowercase, isAsciiDigit, Bool.or_eq_true, Bool.and_eq_true, beq_iff_eq,
      decide_eq_true_eq, UInt8.le_iff_toNat_le] at hallowed
    rw [UInt8.le_iff_toNat_le]
    rcases hallowed with (⟨hlow, hhigh⟩ | ⟨hlow, hhigh⟩) | rfl
    · refine ⟨le_trans (by decide) hlow, ?_⟩
      rintro rfl
      exact absurd hhigh (by decide)
    · refine ⟨le_trans (by decide) hlow, ?_⟩
      rintro rfl
      exact absurd hhigh (by decide)
    · decide

theorem ApplicationId.nul_notMem (application : ApplicationId) : 0 ∉ utf8 application.asStr :=
  fun hmem => absurd (application.printable 0 hmem).1 (by decide)

theorem ApplicationId.validateRpId_asStr (application : ApplicationId) :
    Native.validateRpId application.asStr = .ok () := by
  have hlength := application.accepted
  simp only [ApplicationId.accepts, Bool.and_eq_true, decide_eq_true_eq] at hlength
  obtain ⟨⟨⟨⟨hmin, hmax⟩, -⟩, -⟩, -⟩ := hlength
  have hbounds : ¬ (utf8 application.asStr = [] ∨
      Native.maxRpIdBytes < (utf8 application.asStr).length) := by
    rintro (hempty | hlong)
    · rw [hempty] at hmin
      exact absurd hmin (by decide)
    · exact absurd hmax (not_le.mpr hlong)
  have hbytes : ¬ (utf8 application.asStr).any
      (fun byte => byte == 0 || Native.isAsciiControl byte) = true := by
    rw [List.any_eq_true]
    rintro ⟨byte, hmem, hforbidden⟩
    obtain ⟨hlow, hhigh⟩ := application.printable byte hmem
    simp only [Native.isAsciiControl, Bool.or_eq_true, beq_iff_eq, decide_eq_true_eq] at hforbidden
    rcases hforbidden with rfl | hcontrol | hdelete
    · exact absurd hlow (by decide)
    · exact UInt8.not_le.mpr hcontrol hlow
    · exact hhigh hdelete
  exact except_bind_eq_ok.mpr ⟨(), require_eq_ok.mpr hbounds, require_eq_ok.mpr hbytes⟩

/-- A core PIN is a native PIN. -/
theorem Pin.native_new (pin : Pin) : Native.Pin.new pin.asStr = .ok ⟨utf8 pin.asStr ++ [0]⟩ := by
  obtain ⟨hne, hlength, hnul⟩ := pin.accepted
  have hshort : ¬ 63 < (utf8 pin.asStr).length := not_lt.mpr hlength
  refine except_bind_eq_ok.mpr ⟨(), require_eq_ok.mpr hne, ?_⟩
  refine except_bind_eq_ok.mpr ⟨(), require_eq_ok.mpr hshort, ?_⟩
  exact except_bind_eq_ok.mpr ⟨(), require_eq_ok.mpr hnul, rfl⟩

/-- The 32 bytes of a recipient id are a user id. -/
theorem RecipientId.validateUserId_asBytes (recipient : RecipientId) :
    Native.validateUserId recipient.asBytes.toList = .ok () := by
  have hlength : recipient.asBytes.toList.length = 32 := recipient.asBytes.length_eq
  refine require_eq_ok.mpr ?_
  rintro (hempty | hlong)
  · rw [hempty] at hlength
    cases hlength
  · rw [hlength] at hlong
    exact absurd hlong (by decide)

theorem validateCredentialId_of_bounds {credentialId : ByteString}
    (h : 1 ≤ credentialId.length ∧ credentialId.length ≤ maxCredentialId) :
    Native.validateCredentialId credentialId = .ok () := by
  refine require_eq_ok.mpr ?_
  rintro (rfl | hlong)
  · exact absurd h.1 (by decide)
  · exact absurd h.2 (not_le.mpr hlong)

/-! ## Policies -/

/-- The PIN that goes with a policy is the one that `evaluate` wants. -/
theorem checkPin_assertionPin (policy : Native.ExactPolicy) (pin : Native.Pin) :
    Native.checkPin policy (Native.assertionPin policy pin) = .ok () := by
  cases policy
  · rfl
  · rfl

theorem checkPin_of_runs {request : PrfRequest} {t : Trace console} {pin : Option Native.Pin}
    (h : (NativeBackend.assertionPin request).run.Runs t (.ok pin)) :
    Native.checkPin (nativePolicy request.credential.policy) pin = .ok () := by
  unfold NativeBackend.assertionPin at h
  cases hpolicy : request.credential.policy with
  | presence =>
      rw [hpolicy] at h
      obtain ⟨-, hpin⟩ := Fallible.runs_pure.mp h
      cases hpin
      rfl
  | userVerification =>
      rw [hpolicy] at h
      obtain ⟨t₁, entered, t₂, rfl, -, h₁⟩ := Fallible.runs_bind_ok.mp h
      obtain ⟨nativePin, -, h₂⟩ := Fallible.runs_except_bind_ok.mp h₁
      obtain ⟨-, hpin⟩ := Fallible.runs_pure.mp h₂
      cases hpin
      rfl

/-- The two halves of a managed evaluation are built from one binding. -/
theorem managedEnrollmentMatches_native (request : PrfRequest) :
    Native.managedEnrollmentMatches (nativePrfRequest request)
      (nativeManagedCredential request.credential) = true := by
  refine decide_eq_true ⟨rfl, rfl, rfl, ?_⟩
  show (nativePolicy request.credential.policy).protection =
    nativeProtection request.credential.policy
  cases request.credential.policy
  · rfl
  · rfl

/-! ## Requests -/

/-- The lengths of a credential id that both sides accept. -/
def BoundedId (credentialId : ByteString) : Prop :=
  1 ≤ credentialId.length ∧ credentialId.length ≤ maxCredentialId

theorem nativePrfRequest_accepted {request : PrfRequest} {pin : Option Native.Pin}
    (hid : BoundedId request.credential.credentialId)
    (hpin : Native.checkPin (nativePolicy request.credential.policy) pin = .ok ()) :
    (nativePrfRequest request).Accepted pin where
  rpId := request.credential.applicationId.validateRpId_asStr
  nul := request.credential.applicationId.nul_notMem
  credentialId := validateCredentialId_of_bounds hid
  pin := hpin

theorem nativeManagedCredential_accepted {credential : CredentialBinding}
    (hid : BoundedId credential.credentialId) :
    (Native.InventoryExpectation.exact (nativeManagedCredential credential)).Accepted where
  rpId := credential.applicationId.validateRpId_asStr
  nul := credential.applicationId.nul_notMem
  userId := credential.recipientId.validateUserId_asBytes
  credentialId := validateCredentialId_of_bounds hid

/-- The relying-party name has no NUL and is short. -/
theorem relyingPartyName_accepted :
    Native.validateName "fido key wrap" = .ok () ∧ 0 ∉ utf8 "fido key wrap" := by
  decide

theorem nativeEnrollmentRequest_accepted {application : ApplicationId} {policy : FidoPolicy}
    {storage : Native.CredentialStorage} (hstorage : storage.validate = .ok ()) :
    (nativeEnrollmentRequest application policy storage).Accepted where
  rpId := application.validateRpId_asStr
  rpIdNul := application.nul_notMem
  name := relyingPartyName_accepted.1
  nameNul := relyingPartyName_accepted.2
  storage := hstorage

/-! ## The credential ids of an operation -/

section Queries

variable [Primitives]

/-- The credential id that the adapter is asked for; a cleanup takes it from its token. -/
def Query.credentialId : Query → Option ByteString
  | .evaluate request | .evaluateManagedEnrollment _ request =>
    some request.credential.credentialId
  | .verifyManaged request | .retireManaged request => some request.credential.credentialId
  | _ => none

/-- Both sides accept the credential id of the event. -/
def AsksBounded (event : Event host) : Prop :=
  ∀ credentialId, event.query.credentialId = some credentialId → BoundedId credentialId

/-- The records of an envelope have acceptable credential ids. -/
def KeyEnvelope.Bounded (e : KeyEnvelope) : Prop :=
  ∀ record ∈ e.recipients, ∀ credentialId, record.credentialId = some credentialId →
    BoundedId credentialId

theorem bounded_of_decode {bytes : ByteString} {e : KeyEnvelope}
    (h : KeyEnvelope.decode bytes = .ok e) : e.Bounded :=
  fun record hrecord => ((decode_sound h).1.records record hrecord).credential

section Programs

variable {α : Type} {p : KeyProtector} {e : KeyEnvelope} {root : RootKey} {operation : Operation}

theorem asksBounded_ask {query : Query} (h : query.credentialId = none) :
    Program.Every AsksBounded (ask query).run := by
  intro t r hrun event hmem credentialId hid
  obtain ⟨reply, rfl, -⟩ := runs_ask.mp hrun
  obtain rfl := List.mem_singleton.mp hmem
  rw [h] at hid
  cases hid

theorem asksBounded_drawn {x : Host α} (h : ∀ t r, x.run.Runs t r → Drawn t) :
    Program.Every AsksBounded x.run := by
  intro t r hrun event hmem credentialId hid
  obtain ⟨n, reply, rfl⟩ := h t r hrun event hmem
  cases hid

theorem asksBounded_requestPassphrase {label : String} {purpose : PassphrasePurpose} :
    Program.Every AsksBounded (requestPassphrase operation label purpose).run :=
  Fallible.every_bind (asksBounded_ask rfl) fun _ => Fallible.every_except _

theorem asksBounded_requestNewPassphrase {label : String} :
    Program.Every AsksBounded (requestNewPassphrase operation label).run := by
  refine Fallible.every_bind asksBounded_requestPassphrase fun _ => ?_
  refine Fallible.every_bind asksBounded_requestPassphrase fun _ => ?_
  exact Fallible.every_except_bind fun _ _ => Program.every_pure _

theorem asksBounded_derivePassphraseKey {record : RecipientRecord} {application : ApplicationId}
    {envelopeId : Bytes 32} {x : Passphrase} :
    Program.Every AsksBounded
      (Crypto.derivePassphraseKey record application envelopeId x).run := by
  have hreserve : ∀ kdf, Program.Every AsksBounded (Crypto.argon2Output x kdf).run := by
    intro kdf
    refine Fallible.every_except_bind fun _ _ => Fallible.every_except_bind fun _ _ => ?_
    refine Fallible.every_bind (asksBounded_ask rfl) fun _ => ?_
    exact Fallible.every_except_bind fun _ _ => Fallible.every_except _
  have hfrom : ∀ kdf, Program.Every AsksBounded
      (Crypto.derivePassphraseKeyFrom kdf record application envelopeId x).run := by
    intro kdf
    refine Fallible.every_except_bind fun _ _ => Fallible.every_bind (hreserve kdf) fun _ => ?_
    exact Fallible.every_except_bind fun _ _ => Fallible.every_except _
  cases record with
  | passphrase record => exact hfrom record.kdf
  | fidoAndPassphrase record => exact hfrom record.kdf
  | recoverySecret record => exact Fallible.every_throw _
  | fido record => exact Fallible.every_throw _
  | fidoAndLocalSecret record => exact Fallible.every_throw _

theorem asksBounded_evaluate {record : RecipientRecord}
    (h : ∀ credentialId, record.credentialId = some credentialId → BoundedId credentialId) :
    Program.Every AsksBounded (p.evaluate record e operation).run := by
  refine Fallible.every_except_bind fun request hrequest => ?_
  have hbounded : BoundedId request.credential.credentialId :=
    h _ (requests_of_prfRequest hrequest).1.credential
  refine Fallible.every_bind ?_ fun _ => Fallible.every_except _
  intro t r hrun event hmem credentialId hid
  obtain ⟨reply, rfl, -⟩ := runs_ask.mp hrun
  obtain rfl := List.mem_singleton.mp hmem
  cases hid
  exact hbounded

/-! ### Enrollments -/

omit [Primitives] in
theorem boundedId_of_validateCredential {credentialId : ByteString} {u : Unit}
    (h : KeyProtector.validateCredential e credentialId = .ok u) : BoundedId credentialId :=
  (validateCredential_eq_ok h).1

theorem asksBounded_enrollPassphraseRecipient {label : String} {parameters : PassphraseParameters} :
    Program.Every AsksBounded
      (p.enrollPassphraseRecipient e root label parameters operation).run := by
  refine Fallible.every_bind (asksBounded_drawn fun _ _ => drawn_uniqueRecipientId) fun _ => ?_
  refine Fallible.every_bind (asksBounded_drawn fun _ _ => drawn_uniqueSalt) fun _ => ?_
  refine Fallible.every_bind (asksBounded_drawn fun _ _ => drawn_randomArray) fun _ => ?_
  refine Fallible.every_bind asksBounded_requestNewPassphrase fun _ => ?_
  refine Fallible.every_bind asksBounded_derivePassphraseKey fun _ => ?_
  exact Fallible.every_except_bind fun _ _ => Program.every_pure _

theorem asksBounded_newRecoverySecretRecord {label : String} :
    Program.Every AsksBounded (KeyProtector.newRecoverySecretRecord e root label).run := by
  refine Fallible.every_bind (asksBounded_drawn fun _ _ => drawn_make) fun _ => ?_
  refine Fallible.every_bind (asksBounded_drawn fun _ _ => drawn_uniqueRecipientId) fun _ => ?_
  refine Fallible.every_bind (asksBounded_drawn fun _ _ => drawn_randomArray) fun _ => ?_
  refine Fallible.every_except_bind fun _ _ => Fallible.every_except_bind fun _ _ => ?_
  exact Program.every_pure _

/-- An enrolled credential is evaluated after its id was checked. -/
theorem asksBounded_enrollFidoRecipient {label : String} {policy : FidoPolicy} :
    Program.Every AsksBounded (p.enrollFidoRecipient e root label policy operation).run := by
  refine Fallible.every_bind (asksBounded_ask rfl) fun _ => ?_
  refine Fallible.every_except_bind fun credential _ => ?_
  refine Fallible.every_except_bind fun _ hchecked => ?_
  refine Fallible.every_bind (asksBounded_drawn fun _ _ => drawn_uniqueRecipientId) fun _ => ?_
  refine Fallible.every_bind (asksBounded_drawn fun _ _ => drawn_randomArray) fun _ => ?_
  refine Fallible.every_bind (asksBounded_drawn fun _ _ => drawn_randomArray) fun _ => ?_
  refine Fallible.every_bind (asksBounded_evaluate ?_) fun _ => ?_
  · rintro credentialId ⟨⟩
    exact boundedId_of_validateCredential hchecked
  · refine Fallible.every_except_bind fun _ _ => Fallible.every_except_bind fun _ _ => ?_
    exact Program.every_pure _

theorem asksBounded_enrollFidoLocalRecipient {label : String} :
    Program.Every AsksBounded (p.enrollFidoLocalRecipient e root label operation).run := by
  refine Fallible.every_bind (asksBounded_drawn fun _ _ => drawn_uniqueRecipientId) fun _ => ?_
  refine Fallible.every_bind (asksBounded_drawn fun _ _ => drawn_make) fun _ => ?_
  refine Fallible.every_bind (asksBounded_drawn fun _ _ => drawn_randomArray) fun _ => ?_
  refine Fallible.every_bind (asksBounded_drawn fun _ _ => drawn_randomArray) fun _ => ?_
  refine Fallible.every_bind (asksBounded_ask rfl) fun _ => ?_
  refine Fallible.every_except_bind fun credential _ => ?_
  refine Fallible.every_except_bind fun _ hchecked => ?_
  refine Fallible.every_bind (asksBounded_evaluate ?_) fun _ => ?_
  · rintro credentialId ⟨⟩
    exact boundedId_of_validateCredential hchecked
  · refine Fallible.every_except_bind fun _ _ => Fallible.every_except_bind fun _ _ => ?_
    exact Program.every_pure _

theorem asksBounded_cleanup {enrollment : ManagedEnrollment} {id : RecipientId} {label : String}
    {original : Error} : Program.Every AsksBounded
      (p.cleanupFailedManagedEnrollment enrollment id label original).run :=
  Fallible.every_bind (asksBounded_ask rfl) fun _ => Program.every_pure _

/-- A managed credential is evaluated after its id was checked, and cleaned up unchecked. -/
theorem asksBounded_enrollManagedFidoRecipient {label : String} {policy : FidoPolicy} :
    Program.Every AsksBounded
      (p.enrollManagedFidoRecipient e root label policy operation).run := by
  have hfinish : ∀ id enrollment, Program.Every AsksBounded
      (p.finishManagedFidoRecipient e root id label policy operation enrollment).run := by
    intro id enrollment
    refine Fallible.every_except_bind fun _ hchecked => ?_
    refine Fallible.every_bind (asksBounded_drawn fun _ _ => drawn_randomArray) fun _ => ?_
    refine Fallible.every_bind (asksBounded_drawn fun _ _ => drawn_randomArray) fun _ => ?_
    refine Fallible.every_except_bind fun _ _ => Fallible.every_bind ?_ fun _ => ?_
    · intro t r hrun event hmem credentialId hid
      obtain ⟨reply, rfl, -⟩ := runs_ask.mp hrun
      obtain rfl := List.mem_singleton.mp hmem
      cases hid
      exact boundedId_of_validateCredential hchecked
    · refine Fallible.every_except_bind fun _ _ => Fallible.every_except_bind fun _ _ => ?_
      exact Fallible.every_except_bind fun _ _ => Program.every_pure _
  refine Fallible.every_bind (asksBounded_drawn fun _ _ => drawn_uniqueRecipientId) fun id => ?_
  refine Fallible.every_bind (asksBounded_ask rfl) fun _ => ?_
  refine Fallible.every_except_bind fun enrollment _ => ?_
  refine Fallible.every_bind (Fallible.every_outcome (hfinish id enrollment)) fun finished => ?_
  cases finished with
  | ok result => exact Program.every_pure _
  | error e => exact Fallible.every_bind asksBounded_cleanup fun _ => Fallible.every_throw _

theorem asksBounded_enrollCombinedRecipient {label : String} {policy : FidoPolicy}
    {parameters : PassphraseParameters} : Program.Every AsksBounded
      (p.enrollCombinedRecipient e root label policy parameters operation).run := by
  refine Fallible.every_bind (asksBounded_ask rfl) fun _ => ?_
  refine Fallible.every_except_bind fun credential _ => ?_
  refine Fallible.every_except_bind fun _ hchecked => ?_
  refine Fallible.every_bind (asksBounded_drawn fun _ _ => drawn_uniqueRecipientId) fun _ => ?_
  refine Fallible.every_bind (asksBounded_drawn fun _ _ => drawn_randomArray) fun _ => ?_
  refine Fallible.every_bind (asksBounded_drawn fun _ _ => drawn_randomArray) fun _ => ?_
  refine Fallible.every_bind (asksBounded_drawn fun _ _ => drawn_uniqueSalt) fun _ => ?_
  refine Fallible.every_bind (asksBounded_drawn fun _ _ => drawn_randomArray) fun _ => ?_
  refine Fallible.every_bind (asksBounded_evaluate ?_) fun _ => ?_
  · rintro credentialId ⟨⟩
    exact boundedId_of_validateCredential hchecked
  · refine Fallible.every_except_bind fun _ _ => ?_
    refine Fallible.every_bind asksBounded_requestNewPassphrase fun _ => ?_
    refine Fallible.every_bind asksBounded_derivePassphraseKey fun _ => ?_
    exact Fallible.every_except_bind fun _ _ => Program.every_pure _

theorem asksBounded_enrollRecipient {enrollment : Enrollment} :
    Program.Every AsksBounded (p.enrollRecipient e root enrollment operation).run := by
  unfold KeyProtector.enrollRecipient
  cases enrollment.policy with
  | passphrase =>
      refine Fallible.every_except_bind fun _ _ => ?_
      exact Fallible.every_bind asksBounded_enrollPassphraseRecipient fun _ => Program.every_pure _
  | recoverySecret => exact Fallible.every_throw _
  | fidoPresenceAndLocalSecret => exact Fallible.every_throw _
  | fido policy =>
      exact Fallible.every_bind asksBounded_enrollFidoRecipient fun _ => Program.every_pure _
  | managedFido policy => exact asksBounded_enrollManagedFidoRecipient
  | fidoAndPassphrase policy =>
      refine Fallible.every_except_bind fun _ _ => ?_
      exact Fallible.every_bind asksBounded_enrollCombinedRecipient fun _ => Program.every_pure _

theorem asksBounded_stageEnrollment {record : RecipientRecord} {keys : RecoveryKeys}
    {managed : Option ManagedEnrollment} :
    Program.Every AsksBounded (p.stageEnrollment e record root keys managed).run := by
  unfold KeyProtector.stageEnrollment
  split
  · exact Program.every_pure _
  · split
    · exact Fallible.every_throw _
    · split
      · exact Fallible.every_bind asksBounded_cleanup fun _ => Fallible.every_throw _
      · exact Fallible.every_throw _

theorem asksBounded_protectRootForOperation {enrollment : Enrollment} :
    Program.Every AsksBounded (p.protectRootForOperation root enrollment operation).run := by
  refine Fallible.every_except_bind fun _ _ => ?_
  refine Fallible.every_bind (asksBounded_drawn fun _ _ => drawn_randomArray) fun _ => ?_
  refine Fallible.every_bind asksBounded_enrollRecipient fun _ => ?_
  exact Fallible.every_bind asksBounded_stageEnrollment fun _ => Program.every_pure _

theorem asksBounded_protectRootWithRecoverySecret {label : String} :
    Program.Every AsksBounded (p.protectRootWithRecoverySecret root label).run := by
  refine Fallible.every_except_bind fun _ _ => ?_
  refine Fallible.every_bind (asksBounded_drawn fun _ _ => drawn_randomArray) fun _ => ?_
  refine Fallible.every_bind asksBounded_newRecoverySecretRecord fun _ => ?_
  exact Fallible.every_except_bind fun _ _ => Program.every_pure _

theorem asksBounded_protectRootWithFidoAndLocalSecret {label : String} :
    Program.Every AsksBounded
      (p.protectRootWithFidoAndLocalSecretForOperation root label operation).run := by
  refine Fallible.every_except_bind fun _ _ => ?_
  refine Fallible.every_bind (asksBounded_drawn fun _ _ => drawn_randomArray) fun _ => ?_
  refine Fallible.every_bind asksBounded_enrollFidoLocalRecipient fun _ => ?_
  exact Fallible.every_except_bind fun _ _ => Program.every_pure _

/-- Drawing a root first changes nothing. -/
theorem asksBounded_random_bind {f : RootKey → Host α}
    (hf : ∀ root, Program.Every AsksBounded (f root).run) :
    Program.Every AsksBounded (RootKey.random >>= f).run :=
  Fallible.every_bind (asksBounded_drawn fun _ _ => drawn_make) hf

/-! ### Recorded credentials -/

section Recorded

variable (hbounded : e.Bounded)

include hbounded

theorem asksBounded_unlock {id : RecipientId} :
    Program.Every AsksBounded (p.unlock e id).run := by
  refine Fallible.every_except_bind fun _ _ => ?_
  refine Fallible.every_except_bind fun record hfind => ?_
  have hrecord := hbounded record (find_sound hfind).1
  refine Fallible.every_except_bind fun _ _ => Fallible.every_bind ?_ fun _ => ?_
  · cases record with
    | passphrase record =>
        refine Fallible.every_bind asksBounded_requestPassphrase fun _ => ?_
        refine Fallible.every_bind asksBounded_derivePassphraseKey fun _ => ?_
        exact Fallible.every_except _
    | recoverySecret record => exact Fallible.every_throw _
    | fidoAndLocalSecret record => exact Fallible.every_throw _
    | fido record =>
        refine Fallible.every_bind (asksBounded_evaluate hrecord) fun _ => ?_
        exact Fallible.every_except_bind fun _ _ => Fallible.every_except _
    | fidoAndPassphrase record =>
        refine Fallible.every_bind (asksBounded_evaluate hrecord) fun _ => ?_
        refine Fallible.every_except_bind fun _ _ => Fallible.every_except_bind fun _ _ => ?_
        refine Fallible.every_bind asksBounded_requestPassphrase fun _ => ?_
        refine Fallible.every_bind asksBounded_derivePassphraseKey fun _ => ?_
        exact Fallible.every_except _
  · exact Fallible.every_except _

theorem asksBounded_unlockWithFidoAndLocalSecret {id : RecipientId} {secret : LocalSecret} :
    Program.Every AsksBounded (p.unlockWithFidoAndLocalSecret e id secret).run := by
  refine Fallible.every_except_bind fun _ _ => ?_
  refine Fallible.every_except_bind fun record hfind => ?_
  have hrecord := hbounded record (find_sound (except_mapError_eq_ok.mp hfind)).1
  cases record with
  | fidoAndLocalSecret record =>
      refine Fallible.every_bind (asksBounded_evaluate hrecord) fun _ => ?_
      refine Fallible.every_except_bind fun _ _ => Fallible.every_except_bind fun _ _ => ?_
      exact Fallible.every_except _
  | _ => exact Fallible.every_throw _

/-- A rewrapped combined record keeps its credential. -/
theorem asksBounded_rewrapRecord {current : RecipientRecord} {id : RecipientId}
    (hfind : e.find id = .ok current) {parameters : PassphraseParameters} :
    Program.Every AsksBounded (p.rewrapRecord e root current parameters).run := by
  have hrecord := hbounded current (find_sound hfind).1
  cases current with
  | passphrase old =>
      refine Fallible.every_bind (asksBounded_drawn fun _ _ => drawn_uniqueSalt) fun _ => ?_
      refine Fallible.every_bind (asksBounded_drawn fun _ _ => drawn_freshArray) fun _ => ?_
      refine Fallible.every_bind asksBounded_requestNewPassphrase fun _ => ?_
      refine Fallible.every_bind asksBounded_derivePassphraseKey fun _ => ?_
      exact Fallible.every_except_bind fun _ _ => Program.every_pure _
  | fidoAndPassphrase old =>
      refine Fallible.every_bind (asksBounded_drawn fun _ _ => drawn_freshArray) fun _ => ?_
      refine Fallible.every_bind (asksBounded_drawn fun _ _ => drawn_freshArray) fun _ => ?_
      refine Fallible.every_bind (asksBounded_drawn fun _ _ => drawn_uniqueSalt) fun _ => ?_
      refine Fallible.every_bind (asksBounded_drawn fun _ _ => drawn_freshArray) fun _ => ?_
      refine Fallible.every_bind (asksBounded_evaluate ?_) fun _ => ?_
      · rintro credentialId ⟨⟩
        exact hrecord old.credentialId rfl
      · refine Fallible.every_except_bind fun _ _ => ?_
        refine Fallible.every_bind asksBounded_requestNewPassphrase fun _ => ?_
        refine Fallible.every_bind asksBounded_derivePassphraseKey fun _ => ?_
        exact Fallible.every_except_bind fun _ _ => Program.every_pure _
  | _ => exact Fallible.every_throw _

theorem asksBounded_rewrapPassphraseInner {id : RecipientId} {parameters : PassphraseParameters} :
    Program.Every AsksBounded
      (StateT.run (p.rewrapPassphraseInner root id parameters).run e) := by
  apply Mutating.every_get_bind
  refine Mutating.every_except_bind fun _ _ => ?_
  refine Mutating.every_except_bind fun current hfind => ?_
  refine Mutating.every_except_bind fun _ _ => Mutating.every_except_bind fun _ _ => ?_
  refine Mutating.every_except_bind fun _ _ => ?_
  refine Mutating.every_lift_bind (asksBounded_rewrapRecord hbounded hfind) fun _ => ?_
  refine Mutating.every_except_bind fun _ _ => Mutating.every_except_bind fun _ _ => ?_
  exact Mutating.every_set _

theorem managedRequest_bounded {id : RecipientId} {request : ManagedRequest}
    (h : p.managedRequest e root id operation = .ok request) :
    BoundedId request.credential.credentialId := by
  obtain ⟨_, -, h₁⟩ := except_bind_eq_ok.mp h
  obtain ⟨record, hfind, h₂⟩ := except_bind_eq_ok.mp h₁
  have hrecord := hbounded record (find_sound hfind).1
  cases record with
  | fido record =>
      obtain ⟨_, -, h₃⟩ := except_bind_eq_ok.mp h₂
      obtain rfl := except_pure_eq_ok.mp h₃
      exact hrecord record.credentialId rfl
  | _ => cases h₂

/-- Both managed ceremonies ask for the recorded credential. -/
theorem asksBounded_managed {id : RecipientId} (query : ManagedRequest → Query)
    (read : ∀ request, (query request).Reply → Result Unit)
    (hquery : ∀ request, (query request).credentialId = some request.credential.credentialId) :
    Program.Every AsksBounded (do
      let request ← p.managedRequest e root id operation
      let reply ← ask (query request)
      read request reply : Host Unit).run := by
  refine Fallible.every_except_bind fun request hrequest => ?_
  refine Fallible.every_bind ?_ fun _ => Fallible.every_except _
  intro t r hrun event hmem credentialId hid
  obtain ⟨reply, rfl, -⟩ := runs_ask.mp hrun
  obtain rfl := List.mem_singleton.mp hmem
  rw [hquery] at hid
  cases hid
  exact managedRequest_bounded hbounded hrequest

end Recorded

end Programs

/-- The envelope that a call was given. -/
def Call.envelope : Call → Option KeyEnvelope
  | createRoot _ | protectRoot .. | createRootWithRecoverySecret _
  | protectRootWithRecoverySecret .. | createRootWithFidoAndLocalSecret _
  | protectRootWithFidoAndLocalSecret .. => none
  | unlock e _ | unlockWithRecoverySecret e _ _ | unlockWithFidoAndLocalSecret e _ _
  | addRecipient e _ _ | addRecoverySecret e _ _ | addFidoAndLocalSecret e _ _
  | removeRecipient e _ _ | verifyManagedRecipient e _ _ | retireManagedRecipient e _ _
  | rewrapPassphrase e _ _ | rewrapPassphraseWithParameters e _ _ _ => some e

/-- Every credential id that a run of an operation asks for is one both sides accept. -/
theorem asksBounded_of_runs {p : KeyProtector} {call : Call} {t : Trace host}
    (hbounded : ∀ e, call.envelope = some e → e.Bounded) (h : call.Runs p t) :
    ∀ event ∈ t, AsksBounded event := by
  cases call with
  | createRoot enrollment =>
      obtain ⟨r, hrun⟩ := h
      refine asksBounded_random_bind (fun root => ?_) t r hrun
      exact Fallible.every_bind asksBounded_protectRootForOperation fun _ => Program.every_pure _
  | protectRoot root enrollment =>
      obtain ⟨r, hrun⟩ := h
      exact asksBounded_protectRootForOperation t r hrun
  | createRootWithRecoverySecret label =>
      obtain ⟨r, hrun⟩ := h
      refine asksBounded_random_bind (fun root => ?_) t r hrun
      exact Fallible.every_bind asksBounded_protectRootWithRecoverySecret fun _ =>
        Program.every_pure _
  | protectRootWithRecoverySecret root label =>
      obtain ⟨r, hrun⟩ := h
      exact asksBounded_protectRootWithRecoverySecret t r hrun
  | createRootWithFidoAndLocalSecret label =>
      obtain ⟨r, hrun⟩ := h
      refine asksBounded_random_bind (fun root => ?_) t r hrun
      exact Fallible.every_bind asksBounded_protectRootWithFidoAndLocalSecret fun _ =>
        Program.every_pure _
  | protectRootWithFidoAndLocalSecret root label =>
      obtain ⟨r, hrun⟩ := h
      exact asksBounded_protectRootWithFidoAndLocalSecret t r hrun
  | unlock e id =>
      obtain ⟨r, hrun⟩ := h
      exact asksBounded_unlock (hbounded e rfl) t r hrun
  | unlockWithRecoverySecret e id secret =>
      obtain ⟨r, hrun⟩ := h
      exact Fallible.every_except _ t r hrun
  | unlockWithFidoAndLocalSecret e id secret =>
      obtain ⟨r, hrun⟩ := h
      exact asksBounded_unlockWithFidoAndLocalSecret (hbounded e rfl) t r hrun
  | addRecipient e root enrollment =>
      obtain ⟨r, e', hrun⟩ := h
      have hevery : Program.Every AsksBounded
          (StateT.run (p.addRecipient root enrollment).run e) := by
        apply Mutating.every_get_bind
        refine Mutating.every_except_bind fun _ _ => Mutating.every_except_bind fun _ _ => ?_
        refine Mutating.every_except_bind fun _ _ => ?_
        refine Mutating.every_lift_bind asksBounded_enrollRecipient fun _ => ?_
        exact Mutating.every_lift_bind asksBounded_stageEnrollment fun _ =>
          Mutating.every_set_pure _ _
      exact hevery t (r, e') hrun
  | addRecoverySecret e root label =>
      obtain ⟨r, e', hrun⟩ := h
      have hevery : Program.Every AsksBounded
          (StateT.run (p.addRecoverySecret root label).run e) := by
        apply Mutating.every_get_bind
        refine Mutating.every_except_bind fun _ _ => Mutating.every_except_bind fun _ _ => ?_
        refine Mutating.every_except_bind fun _ _ => ?_
        refine Mutating.every_lift_bind asksBounded_newRecoverySecretRecord fun _ => ?_
        exact Mutating.every_except_bind fun _ _ => Mutating.every_set_pure _ _
      exact hevery t (r, e') hrun
  | addFidoAndLocalSecret e root label =>
      obtain ⟨r, e', hrun⟩ := h
      have hevery : Program.Every AsksBounded
          (StateT.run (p.addFidoAndLocalSecret root label).run e) := by
        apply Mutating.every_get_bind
        refine Mutating.every_except_bind fun _ _ => Mutating.every_except_bind fun _ _ => ?_
        refine Mutating.every_except_bind fun _ _ => ?_
        refine Mutating.every_lift_bind asksBounded_enrollFidoLocalRecipient fun _ => ?_
        exact Mutating.every_except_bind fun _ _ => Mutating.every_set_pure _ _
      exact hevery t (r, e') hrun
  | removeRecipient e root id =>
      obtain ⟨r, e', hrun⟩ := h
      have hevery : Program.Every AsksBounded (StateT.run (p.removeRecipient root id).run e) := by
        apply Mutating.every_get_bind
        -- seven checks and computations, none of which asks anything
        iterate 7 refine Mutating.every_except_bind fun _ _ => ?_
        exact Mutating.every_set _
      exact hevery t (r, e') hrun
  | verifyManagedRecipient e root id =>
      obtain ⟨r, hrun⟩ := h
      exact asksBounded_managed (hbounded e rfl) Query.verifyManaged
        (fun _ reply => reply.result) (fun _ => rfl) t r hrun
  | retireManagedRecipient e root id =>
      obtain ⟨r, hrun⟩ := h
      exact asksBounded_managed (hbounded e rfl) Query.retireManaged
        (fun _ reply => reply.result) (fun _ => rfl) t r hrun
  | rewrapPassphrase e root id =>
      obtain ⟨r, e', hrun⟩ := h
      have hevery : Program.Every AsksBounded (StateT.run (p.rewrapPassphrase root id).run e) := by
        apply Mutating.every_get_bind
        refine Mutating.every_except_bind fun _ _ => Mutating.every_except_bind fun _ _ => ?_
        refine Mutating.every_except_bind fun _ _ => ?_
        exact asksBounded_rewrapPassphraseInner (hbounded e rfl)
      exact hevery t (r, e') hrun
  | rewrapPassphraseWithParameters e root id parameters =>
      obtain ⟨r, e', hrun⟩ := h
      exact asksBounded_rewrapPassphraseInner (hbounded e rfl) t (r, e') hrun

end Queries

/-! ## The calls of the adapter -/

/-- Cleaning up a credential never fails by a check of the adapter. -/
def CleanupUnraised (authenticator : Native.Authenticator) (pin : Native.Pin)
    (pending : Native.PendingManagedCredential) : Prop :=
  Native.Unraised (Native.InventoryExpectation.pending pending).Mismatched
      (authenticator.prepareManagedCleanup pending pin) ∧
    Native.Unraised (Native.InventoryExpectation.pending pending).Mismatched
      (Native.ManagedCleanup.finish { authenticator, credential := pending, pin })

/-- A token for a credential that the device returned passes the checks. -/
theorem cleanupUnraised_of_token {application : ApplicationId} {recipient : RecipientId}
    {created : Native.NativeCredential} {authenticator : Native.Authenticator}
    {pending : Native.PendingManagedCredential}
    (htoken : Token application recipient created authenticator pending) (pin : Native.Pin) :
    CleanupUnraised authenticator pin pending := by
  have hid : BoundedId pending.credentialId := by
    have hcopy := htoken.names.id
    obtain ⟨_, hlength, h₁⟩ := except_bind_eq_ok.mp hcopy
    obtain ⟨memory, -, h₂⟩ := except_bind_eq_ok.mp h₁
    rw [require_eq_ok, not_or] at hlength
    have hpending : Native.fromRawParts memory created.id.len = pending.credentialId :=
      Except.ok.inj h₂
    rw [← hpending, BoundedId, Native.length_fromRawParts]
    exact ⟨Nat.pos_of_ne_zero hlength.1, not_lt.mp hlength.2⟩
  have haccepted : (Native.InventoryExpectation.pending pending).Accepted := by
    refine ⟨?_, ?_, ?_, validateCredentialId_of_bounds hid⟩
    · show Native.validateRpId pending.relyingPartyId = .ok ()
      rw [htoken.relyingPartyId]
      exact application.validateRpId_asStr
    · show 0 ∉ utf8 pending.relyingPartyId
      rw [htoken.relyingPartyId]
      exact application.nul_notMem
    · show Native.validateUserId pending.userId = .ok ()
      rw [htoken.userId]
      exact recipient.validateUserId_asBytes
  constructor
  · exact Native.unraised_of_blames fun good E blames =>
      Native.fails_prepareManagedCleanup haccepted blames htoken.affinity pin
  · exact Native.unraised_of_blames fun good E blames => Native.fails_finish haccepted blames

/-- The credential that awaits cleanup after an enrollment on the device. -/
def pendingManaged : Except Native.EnrollmentFailure Native.Enrollment →
    Option Native.PendingManagedCredential
  | .error failure => failure.pendingManaged
  | .ok enrolled => enrolled.managedCleanup

/-- What awaits cleanup is a credential that the device returned. -/
theorem token_of_enroll {application : ApplicationId} {recipient : RecipientId}
    {policy : FidoPolicy} {authenticator : Native.Authenticator} {pin : Native.Pin}
    {t : Trace Native.libfido2} {outcome : Except Native.EnrollmentFailure Native.Enrollment}
    {pending : Native.PendingManagedCredential}
    (h : (authenticator.enroll (nativeEnrollmentRequest application policy
      (.managedDiscoverable recipient.asBytes.toList)) pin).run.Runs t outcome)
    (hpending : pendingManaged outcome = some pending) :
    ∃ created, Token application recipient created authenticator pending := by
  rcases Fallible.runs_bind.mp h with ⟨t₁, created, t₂, rfl, -, haccept⟩ | ⟨e, hmake, rfl⟩
  · obtain ⟨-, houtcome⟩ := Fallible.runs_except.mp haccept
    refine ⟨created, ?_⟩
    rcases Native.acceptCredential_managed rfl houtcome.symm with hnone | ⟨pending', hnames, hrp,
      huser, haffinity, hcases⟩
    · rw [hnone] at hpending
      cases hpending
    · have hsame : pendingManaged outcome = some pending' := by
        rcases hcases with ⟨e, he⟩ | ⟨enrolled, henrolled, -, -⟩
        · rw [he]
          rfl
        · rw [henrolled]
          rfl
      rw [hsame] at hpending
      cases hpending
      exact ⟨hnames, hrp, huser, haffinity⟩
  · obtain ⟨r, -, hmapped⟩ := Fallible.runs_mapError.mp hmake
    obtain ⟨e', -, rfl⟩ := except_mapError_eq_error.mp hmapped.symm
    cases hpending

section Backend

variable [Primitives] [ManagedSessions]

/-- Accepting an enrollment keeps its token as the session. -/
theorem session_of_acceptManaged {authenticator : Native.Authenticator} {pin : Native.Pin}
    {label : String} {policy : FidoPolicy} {t : Trace console}
    {outcome : Except Native.EnrollmentFailure Native.Enrollment} {enrollment : ManagedEnrollment}
    (h : (acceptManaged authenticator pin label policy outcome).run.Runs t (.ok enrollment)) :
    ∃ pending, pendingManaged outcome = some pending ∧
      enrollment.managedSession = .native authenticator pin pending := by
  have hreject : ∀ {pending original}, ¬ (rejectPendingManaged authenticator pin pending label
      policy original).run.Runs t (.ok enrollment) := by
    intro pending original hrun
    rcases runs_rejectPendingManaged hrun with hremains | ⟨⟨e, he⟩, -⟩
    · cases hremains
    · cases he
  have hcreated : ∀ {enrolled original}, ¬ (rejectCreatedManaged authenticator pin enrolled label
      policy original).run.Runs t (.ok enrollment) := by
    intro enrolled original hrun
    unfold rejectCreatedManaged at hrun
    split at hrun
    · cases (Fallible.runs_throw.mp hrun).2
    · exact hreject hrun
  unfold acceptManaged at h
  split at h
  · dsimp only at h
    split at h
    · cases (Fallible.runs_throw.mp h).2
    · exact absurd h hreject
  · split at h
    · exact absurd h hcreated
    · split at h
      · exact absurd h hcreated
      · obtain ⟨pending, hpending, h₁⟩ := Fallible.runs_except_bind_ok.mp h
        obtain ⟨-, henrollment⟩ := Fallible.runs_pure.mp h₁
        cases henrollment
        exact ⟨pending, okOr_eq_ok.mp hpending, ManagedSessions.equiv.apply_symm_apply _⟩

/-- The enrollment came out of the native backend. -/
def ManagedEnrollment.IsNative (enrollment : ManagedEnrollment) : Prop :=
  ∃ (backend : NativeBackend) (application : ApplicationId) (recipient : RecipientId)
    (policy : FidoPolicy) (label : String) (operation : Operation) (rounds : Nat)
    (t : Trace console),
    (backend.enrollManaged application recipient policy label operation rounds).run.Runs t
      (.ok enrollment)

/-- The session of a native enrollment has the token of the credential that was made. -/
theorem token_of_isNative {enrollment : ManagedEnrollment} (h : enrollment.IsNative) :
    ∃ application recipient created authenticator pin pending,
      enrollment.managedSession = .native authenticator pin pending ∧
        Token application recipient created authenticator pending := by
  obtain ⟨backend, application, recipient, policy, label, operation, rounds, t, hrun⟩ := h
  unfold NativeBackend.enrollManaged at hrun
  obtain ⟨t₁, authenticator, t₂, rfl, -, h₁⟩ := Fallible.runs_bind_ok.mp hrun
  obtain ⟨t₃, entered, t₄, rfl, -, h₂⟩ := Fallible.runs_bind_ok.mp h₁
  obtain ⟨pin, -, h₃⟩ := Fallible.runs_except_bind_ok.mp h₂
  obtain ⟨t₅, _, t₆, rfl, -, h₄⟩ := Fallible.runs_bind_ok.mp h₃
  obtain ⟨t₇, outcome, t₈, rfl, houtcome, haccept⟩ := Fallible.runs_bind_ok.mp h₄
  obtain ⟨u, rfl, henroll⟩ := Fallible.runs_outcomeRight_ok.mp houtcome
  obtain ⟨pending, hpending, hsession⟩ := session_of_acceptManaged haccept
  obtain ⟨created, htoken⟩ := token_of_enroll henroll hpending
  exact ⟨application, recipient, created, authenticator, pin, pending, hsession, htoken⟩

/-- **`NativelyAdmitted`** — the calls of the adapter that the native backend makes for a query, once
it has selected an authenticator, never fail by a check of the adapter. -/
def Query.NativelyAdmitted : Query → Prop
  | .enroll application policy _ _ =>
    ∀ (authenticator : Native.Authenticator) pin, Native.Unraised (fun _ => False)
      (Fallible.mapError Native.EnrollmentFailure.error (authenticator.enroll
        (nativeEnrollmentRequest application policy .nonDiscoverable) pin))
  | .enrollManaged application recipient policy _ _ =>
    ∀ (authenticator : Native.Authenticator) pin,
      Native.Unraised (fun _ => False)
        (Fallible.mapError Native.EnrollmentFailure.error (authenticator.enroll
          (nativeEnrollmentRequest application policy
            (.managedDiscoverable recipient.asBytes.toList)) pin)) ∧
      ∀ t outcome pending, (authenticator.enroll (nativeEnrollmentRequest application policy
          (.managedDiscoverable recipient.asBytes.toList)) pin).run.Runs t outcome →
        pendingManaged outcome = some pending → CleanupUnraised authenticator pin pending
  | .evaluate request =>
    ∀ (authenticator : Native.Authenticator) t pin,
      (NativeBackend.assertionPin request).run.Runs t (.ok pin) →
        Native.Unraised (fun _ => False) (authenticator.evaluate (nativePrfRequest request) pin)
  | .evaluateManagedEnrollment _ request =>
    ∀ (authenticator : Native.Authenticator) pin, Native.Unraised
      (Native.InventoryExpectation.exact (nativeManagedCredential request.credential)).Mismatched
      (authenticator.evaluateManagedEnrollment (nativePrfRequest request)
        (nativeManagedCredential request.credential) pin)
  | .cleanupManagedEnrollment enrollment _ =>
    enrollment.IsNative → ∃ authenticator pin pending,
      enrollment.managedSession = .native authenticator pin pending ∧
        CleanupUnraised authenticator pin pending
  | .verifyManaged request =>
    ∀ (authenticator : Native.Authenticator) pin, Native.Unraised
      (Native.InventoryExpectation.exact (nativeManagedCredential request.credential)).Mismatched
      (authenticator.verifyManaged (nativeManagedCredential request.credential) pin)
  | .retireManaged request =>
    ∀ (authenticator : Native.Authenticator) pin, Native.Unraised
      (Native.InventoryExpectation.exact (nativeManagedCredential request.credential)).Mismatched
      (authenticator.retireManaged (nativeManagedCredential request.credential) pin)
  | .random _ | .reserve _ | .passphrase _ => True

theorem nativelyAdmitted_of_asksBounded {event : Event host} (h : AsksBounded event) :
    event.query.NativelyAdmitted := by
  obtain ⟨query, reply⟩ := event
  have hid : ∀ credentialId, query.credentialId = some credentialId → BoundedId credentialId := h
  cases query with
  | random n => trivial
  | reserve blocks => trivial
  | passphrase prompt => trivial
  | enroll application policy label operation =>
      intro authenticator pin
      exact Native.unraised_of_blames fun good E blames =>
        Native.fails_enroll blames authenticator (nativeEnrollmentRequest_accepted rfl) pin
  | enrollManaged application recipient policy label operation =>
      intro authenticator pin
      have hstorage : (Native.CredentialStorage.managedDiscoverable
          recipient.asBytes.toList).validate = .ok () := recipient.validateUserId_asBytes
      refine ⟨Native.unraised_of_blames fun good E blames => Native.fails_enroll blames authenticator
        (nativeEnrollmentRequest_accepted hstorage) pin, ?_⟩
      intro t outcome pending hrun hpending
      obtain ⟨created, htoken⟩ := token_of_enroll hrun hpending
      exact cleanupUnraised_of_token htoken pin
  | evaluate request =>
      intro authenticator t pin hpin
      have haccepted := nativePrfRequest_accepted (hid _ rfl) (checkPin_of_runs hpin)
      exact Native.unraised_of_blames fun good E blames =>
        Native.fails_evaluate blames authenticator haccepted
  | evaluateManagedEnrollment enrollment request =>
      intro authenticator pin
      have haccepted := nativeManagedCredential_accepted (hid _ rfl)
      have hrequest := nativePrfRequest_accepted (hid _ rfl) (checkPin_assertionPin _ pin)
      exact Native.unraised_of_blames fun good E blames =>
        Native.fails_evaluateManagedEnrollment haccepted (managedEnrollmentMatches_native request)
          hrequest blames authenticator
  | cleanupManagedEnrollment enrollment request =>
      intro hnative
      obtain ⟨_, _, _, authenticator, pin, pending, hsession, htoken⟩ := token_of_isNative hnative
      exact ⟨authenticator, pin, pending, hsession, cleanupUnraised_of_token htoken pin⟩
  | verifyManaged request =>
      intro authenticator pin
      have haccepted := nativeManagedCredential_accepted (hid _ rfl)
      exact Native.unraised_of_blames fun good E blames =>
        Native.fails_verifyManaged haccepted blames authenticator pin
  | retireManaged request =>
      intro authenticator pin
      have haccepted := nativeManagedCredential_accepted (hid _ rfl)
      exact Native.unraised_of_blames fun good E blames =>
        Native.fails_retireManaged haccepted blames authenticator pin

/-- **What the core admits, the adapter admits.** Its configuration, PINs, identities and recipient
ids pass every check of the adapter; the PIN of an assertion is there exactly when the policy wants
one, and the two halves of a managed evaluation agree. Every operation on decoded envelopes asks only
for credential ids that pass the check of the adapter, the fresh ones included, and no call of the
adapter that the native backend makes for it fails by a check of the adapter. -/
theorem core_admission_is_native_admission :
    (∀ config : FidoConfig, ∃ backend, NativeBackend.new config = some backend ∧
      Native.toI32? (Native.asMillis backend.backend.config.operationTimeout) =
        some backend.backend.config.operationMilliseconds) ∧
    (∀ pin : Pin, ∃ nativePin, Native.Pin.new pin.asStr = .ok nativePin) ∧
    (∀ application : ApplicationId, Native.validateRpId application.asStr = .ok () ∧
      ∀ message, ∃ bytes, Native.cString application.asStr message = .ok bytes) ∧
    (∀ recipient : RecipientId, Native.validateUserId recipient.asBytes.toList = .ok ()) ∧
    (∀ (request : PrfRequest) t pin, (NativeBackend.assertionPin request).run.Runs t (.ok pin) →
      Native.checkPin (nativePrfRequest request).policy pin = .ok ()) ∧
    (∀ (request : PrfRequest) pin,
      Native.managedEnrollmentMatches (nativePrfRequest request)
        (nativeManagedCredential request.credential) = true ∧
      Native.checkPin (nativePrfRequest request).policy
        (Native.assertionPin (nativePrfRequest request).policy pin) = .ok ()) ∧
    ∀ (p : KeyProtector) (call : Call) (t : Trace host),
      (∀ e, call.envelope = some e → ∃ bytes, KeyEnvelope.decode bytes = .ok e) →
      call.Runs p t → ∀ event ∈ t,
        (∀ credentialId, event.query.credentialId = some credentialId →
          Native.validateCredentialId credentialId = .ok ()) ∧
        event.query.NativelyAdmitted := by
  refine ⟨?_, ?_, ?_, ?_, ?_, ?_, ?_⟩
  · intro config
    obtain ⟨nativeConfig, hnew⟩ := config.exists_native
    refine ⟨⟨⟨nativeConfig⟩⟩, ?_, if_pos nativeConfig.operation.2⟩
    unfold NativeBackend.new
    rw [hnew]
  · exact fun pin => ⟨_, pin.native_new⟩
  · exact fun application => ⟨application.validateRpId_asStr, fun message =>
      ⟨_, Native.cString_eq_ok.mpr ⟨application.nul_notMem, rfl⟩⟩⟩
  · exact fun recipient => recipient.validateUserId_asBytes
  · exact fun request t pin => checkPin_of_runs
  · exact fun request pin => ⟨managedEnrollmentMatches_native request, checkPin_assertionPin _ pin⟩
  · intro p call t hdecoded hrun event hmem
    have hbounded : AsksBounded event := by
      refine asksBounded_of_runs (fun e he => ?_) hrun event hmem
      obtain ⟨bytes, hdecode⟩ := hdecoded e he
      exact bounded_of_decode hdecode
    exact ⟨fun credentialId hid => validateCredentialId_of_bounds (hbounded credentialId hid),
      nativelyAdmitted_of_asksBounded hbounded⟩

end Backend

/-! ## One unlock -/

namespace NativeVector

/-- The unlock of the managed credential. -/
def managedUnlock [Primitives] [ManagedSessions] : Option (Trace host × Result RootKey) :=
  (protector.unlock managedEnvelope managedRecord.id).run.exec? reply []

theorem managedUnlock_unlocks : (@managedUnlock managedPrimitives managedSessions).elim false
    (fun run => run.2.toOption == some managedRoot && run.1.any fun event =>
      @Query.credentialId managedPrimitives event.query == some managedRecord.credentialId) =
        true := by
  decide +kernel

/-- What its assertion asks for. -/
def managedAssertion : PrfRequest where
  credential :=
    { applicationId := application, recipientId := recipient
      credentialId := managedRecord.credentialId, publicKey := managedRecord.publicKey
      policy := .userVerification, label := "key" }
  input := managedInput
  operation := .unlock

theorem runs_managedAssertion : ∃ t,
    (NativeBackend.assertionPin managedAssertion).run.Runs t (.ok (some Native.Vector.pin)) := by
  have hpin : ((NativeBackend.assertionPin managedAssertion).run.exec? answer []).map Prod.snd =
      some (.ok (some Native.Vector.pin)) := by decide
  exact Program.exists_runs_of_exec? hpin

end NativeVector

open NativeVector in
set_option maxRecDepth 3000 in
/-- The unlock of the managed credential asks for a credential that the adapter admits, with a PIN
that it wants. -/
theorem managed_unlock_admitted :
    let _ := managedPrimitives
    (∃ (t : Trace host) (event : Event host),
      (Call.unlock managedEnvelope managedRecord.id).Runs protector t ∧ event ∈ t ∧
        event.query.credentialId = some managedRecord.credentialId ∧
        Native.validateCredentialId managedRecord.credentialId = .ok () ∧
        event.query.NativelyAdmitted) ∧
      Native.checkPin (nativePrfRequest managedAssertion).policy (some Native.Vector.pin) =
        .ok () := by
  let _ := managedPrimitives
  obtain ⟨-, -, -, -, hpins, -, hcalls⟩ := core_admission_is_native_admission
  have hdecoded : ∃ bytes, KeyEnvelope.decode bytes = .ok managedEnvelope :=
    ⟨managedEnvelope.encode, by decide +kernel⟩
  refine ⟨?_, ?_⟩
  · have hunlocks := managedUnlock_unlocks
    cases hexec : @managedUnlock managedPrimitives managedSessions with
    | none =>
        rw [hexec] at hunlocks
        cases hunlocks
    | some run =>
        rw [hexec] at hunlocks
        obtain ⟨-, hasks⟩ := Bool.and_eq_true_iff.mp hunlocks
        obtain ⟨event, hmem, hid⟩ := List.any_eq_true.mp hasks
        have hid : event.query.credentialId = some managedRecord.credentialId := eq_of_beq hid
        have hrun : (Call.unlock managedEnvelope managedRecord.id).Runs protector run.1 :=
          ⟨run.2, Program.runs_of_exec? hexec⟩
        obtain ⟨hvalid, hadmitted⟩ := hcalls protector _ run.1 (fun e he => by
          obtain rfl := Option.some.inj he
          exact hdecoded) hrun event hmem
        exact ⟨run.1, event, hrun, hmem, hid, hvalid _ hid, hadmitted⟩
  · obtain ⟨t, hpin⟩ := runs_managedAssertion
    exact hpins _ t _ hpin

end FidoKeyWrap
