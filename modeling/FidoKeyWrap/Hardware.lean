/-
# FidoKeyWrap.Hardware — an authenticator with the credentials of a device in memory.

The adapter runs against a device that holds the same credentials as one in memory and behaves: it
signs for a credential it holds, with the key of that credential; it lists the managed credentials of
a relying party, in any order; and it deletes the one it is asked to delete. One exchange of a
retirement may go wrong instead (`Fault`): the assertion or the deletion returns another status and
does nothing, or the enumeration after the deletion returns anything. `Hardware.Step` is this device
as the world of the adapter, and `Hardware.ConsoleStep` adds a user who answers every prompt.
-/
import FidoKeyWrap.FakeBackend
import FidoKeyWrap.Lib.Reach
import FidoKeyWrap.Native.Vector
import FidoKeyWrap.NativeAdmission

namespace FidoKeyWrap

open ByteData Interact
open Native (NativeCredential NativeCredentialList NativeInfo Memory libfido2 Adapter fidoOk
  fidoErrNoCredentials fidoErrInvalidSig coseEs256)

/-! ## The device -/

/-- **`Fault`** — the exchange of a retirement that goes wrong, if any does, with what it returns and
what a retry count returns after it. -/
inductive Fault where
  | none
  | assertion (status : Int32) (retries : Int32 × Int32)
  | deletion (status : Int32) (retries : Int32 × Int32)
  | enumeration (reply : Int32 × NativeCredentialList) (retries : Int32 × Int32)

def Fault.retries : Fault → Int32 × Int32
  | .none => (fidoOk, 8)
  | .assertion _ retries | .deletion _ retries | .enumeration _ retries => retries

/-- The assertion goes wrong. -/
def Fault.AtAssertion (fault : Fault) : Prop :=
  ∃ status retries, fault = .assertion status retries

/-- Credentials by their ids. -/
abbrev Credentials := Finmap fun _ : ByteString => FakeCredential

/-- The order in which a device lists its credentials. -/
structure Listing where
  entries : Credentials → List (Σ _ : ByteString, FakeCredential)
  complete : ∀ credentials, (entries credentials : Multiset _) = credentials.entries

/-- **`Hardware`** — the credentials of the device, and the assertion and the key that were made last. -/
structure Hardware where
  credentials : Credentials
  relyingParty : ByteString := []
  allowed : ByteString := []
  key : Option (Bytes 64) := none
  signer : Option FakeCredential := none
  deleted : Bool := false

namespace Hardware

/-- What stays the same during a run. -/
structure Setting where
  plugged : Bool
  listing : Listing
  fault : Fault
  pin : Pin

/-- The credential as a record of an enumeration. -/
def record (entry : Σ _ : ByteString, FakeCredential) : NativeCredential where
  fmt := some (utf8 "packed")
  type := coseEs256
  prot := (nativeProtection entry.2.enrollmentPolicy).native
  flags := 0x45
  id := Native.inMemory entry.1
  userId := Native.inMemory (entry.2.userId.elim [] fun user => user.asBytes.toList)
  pubkey := Native.inMemory entry.2.publicKey.asBytes.toList
  x5c := ⟨none, 0⟩
  verify := fidoErrInvalidSig
  verifySelf := fidoOk

/-- The managed credentials of a relying party. -/
def listed (listing : Listing) (credentials : Credentials) (relyingParty : ByteString) :
    List (Σ _ : ByteString, FakeCredential) :=
  (listing.entries credentials).filter fun entry =>
    entry.2.storage = .managed ∧ utf8 entry.2.applicationId = relyingParty

/-- The reply of an enumeration. -/
def inventory (listing : Listing) (credentials : Credentials) (relyingParty : ByteString) :
    Int32 × NativeCredentialList :=
  let entries := listed listing credentials relyingParty
  (if entries = [] then fidoErrNoCredentials else fidoOk,
    { count := entries.length, rk := fun index => entries[index]?.map record })

def info : NativeInfo where
  extensions := ⟨none, 0⟩
  versions := ⟨some fun _ => some (utf8 "FIDO_2_1"), 1⟩
  optionNames := none
  optionValues := none
  optionsLen := 0
  algorithmCount := 1
  algorithmCose := fun _ => coseEs256

/-- A setter of the assertion. -/
def configure (s : Hardware) : Native.AssertionSetting → Hardware
  | .setRp id => { s with relyingParty := id }
  | .allowCred id => { s with allowed := id }
  | _ => s

/-- A credential signs for its own relying party. -/
def signerOf (credentials : Credentials) (id relyingParty : ByteString) : Option FakeCredential :=
  (credentials.lookup id).filter fun credential => utf8 credential.applicationId = relyingParty

/-- The credential that signs the assertion. -/
def found (s : Hardware) : Option FakeCredential :=
  signerOf s.credentials s.allowed s.relyingParty

/-- An assertion for an expected credential. -/
def allowing (s : Hardware) (expected : Native.InventoryExpectation) : Hardware :=
  { s with relyingParty := utf8 expected.relyingPartyId, allowed := expected.credentialId }

/-- The assertion of the device. -/
def assert (s : Hardware) : Fault → Int32 × Hardware
  | .assertion status _ => (status, s)
  | _ => if s.found.isSome then (fidoOk, { s with signer := s.found }) else (fidoErrNoCredentials, s)

/-- The status of a deletion: the device deletes managed credentials only. -/
def deletionStatus (credentials : Credentials) (id : ByteString) : Fault → Int32
  | .deletion status _ => status
  | _ =>
    if (credentials.lookup id).any fun credential => credential.storage = .managed then fidoOk
    else fidoErrNoCredentials

/-- The credentials that are left after a deletion. -/
def remaining (credentials : Credentials) (id : ByteString) : Fault → Credentials
  | .deletion _ _ => credentials
  | _ =>
    if (credentials.lookup id).any fun credential => credential.storage = .managed then
      credentials.erase id
    else credentials

def delete (s : Hardware) (id : ByteString) (fault : Fault) : Int32 × Hardware :=
  (deletionStatus s.credentials id fault,
    { s with credentials := remaining s.credentials id fault, deleted := true })

/-- The reply of the enumeration after a deletion, which may go wrong. -/
def reported (setting : Setting) (credentials : Credentials) (relyingParty : ByteString) :
    Int32 × NativeCredentialList :=
  match setting.fault with
  | .enumeration reply _ => reply
  | _ => inventory setting.listing credentials relyingParty

def enumerate (setting : Setting) (s : Hardware) (relyingParty : ByteString) :
    Int32 × NativeCredentialList :=
  if s.deleted then reported setting s.credentials relyingParty
  else inventory setting.listing s.credentials relyingParty

/-- The replies of the device. A retirement creates no credential and polls no touch, and a loop that
goes on gets no reply. -/
def answer (setting : Setting) (s : Hardware) :
    (query : Native.Query) → Option (query.Reply × Hardware)
  | .ensureLoaded => some (.ok (), s)
  | .init _ => some ((), s)
  | .random => some (some (Bytes.zero 32), s)
  | .now | .newAffinity => some ((0 : Nat), s)
  | .unfinished | .devMakeCred .. => none
  | .devInfoNew _ | .devNew | .cborInfoNew | .credNew | .assertNew | .es256PkNew
  | .credmanRkNew => some (some 1, s)
  | .devInfoManifest _ _ =>
    some ((fidoOk, setting.plugged.toNat, fun _ => some (some (utf8 "key"))), s)
  | .devSetTimeout _ _ | .devOpen _ _ | .devGetTouchBegin _ | .devCancel _ | .credSet _ _ =>
    some (fidoOk, s)
  | .devIsFido2 _ | .devSupportsCredProt _ | .devSupportsCredman _ | .devSupportsPin _
  | .devHasPin _ => some (true, s)
  | .devGetCborInfo _ _ => some ((fidoOk, info), s)
  | .devGetTouchStatus _ _ => some ((fidoOk, 0), s)
  | .devGetRetryCount _ => some (setting.fault.retries, s)
  | .assertSet _ value => some (fidoOk, s.configure value)
  | .devGetAssert _ _ _ => some (s.assert setting.fault)
  | .assertCount _ => some ((1 : Nat), s)
  | .es256PkFromPtr _ bytes => some (fidoOk, { s with key := some bytes })
  | .assertVerify _ _ _ _ =>
    some (if s.signer.map (fun credential => credential.publicKey.asBytes) = s.key then fidoOk
      else fidoErrInvalidSig, s)
  | .assertFlags _ _ => some ((0x05 : UInt8), s)
  | .assertIdLen _ _ => some (s.allowed.length, s)
  | .assertIdPtr _ _ => some (some (Memory.of s.allowed), s)
  | .assertHmacSecretLen _ _ => some ((0 : Nat), s)
  | .assertHmacSecretPtr _ _ => some (none, s)
  | .credmanGetDevRk _ relyingParty _ _ => some (enumerate setting s relyingParty, s)
  | .credmanDelDevRk _ id _ => some (s.delete id setting.fault)

/-- The user answers every prompt. -/
def consent (pin : Pin) : (prompt : DevicePrompt) → prompt.Reply
  | .requestPin .. => .ok pin
  | .selectAuthenticatorByTouch .. | .touchRequired .. => .ok ()

/-- **`Step setting s event s'`** — the device as the world of the adapter. -/
def Step (setting : Setting) (s : Hardware) (event : Event libfido2) (s' : Hardware) : Prop :=
  answer setting s event.query = some (event.reply, s')

/-- **`ConsoleStep setting s event s'`** — the device and its user as the world of the backend. -/
def ConsoleStep (setting : Setting) (s : Hardware) (event : Event console) (s' : Hardware) : Prop :=
  match event with
  | ⟨.inl prompt, reply⟩ => reply = consent setting.pin prompt ∧ s' = s
  | ⟨.inr query, reply⟩ => Step setting s ⟨query, reply⟩ s'

theorem functional_consoleStep (setting : Setting) : Functional (ConsoleStep setting) := by
  intro s query r r' s₁ s₂ h h'
  cases query with
  | inl prompt =>
      obtain ⟨hreply, rfl⟩ := h
      obtain ⟨hreply', rfl⟩ := h'
      exact ⟨hreply.trans hreply'.symm, rfl⟩
  | inr query =>
      have hsame : (r, s₁) = (r', s₂) := Option.some.inj (Eq.trans (Eq.symm h) h')
      exact Prod.mk.inj hsame

/-! ## What a retirement gets -/

/-- The error that a status is translated to. -/
def translated (retries : Int32 × Int32) (status : Int32) (operation : String) : Native.Error :=
  if status = Native.fidoErrPinInvalid then
    .pinInvalid (if retries.1 = fidoOk ∧ 0 ≤ retries.2 ∧ retries.2 < 256 then
      some (UInt8.ofNat retries.2.toNatClampNeg) else none)
  else Native.translateStatus status operation

/-- The error that a status of the credential management is translated to. -/
def translatedManagement (retries : Int32 × Int32) (status : Int32) (operation : String) :
    Native.Error :=
  if status ∈ [Native.fidoErrInvalidCommand, Native.fidoErrUnsupportedExtension,
      Native.fidoErrUnsupportedOption, Native.fidoErrInvalidOption,
      Native.fidoErrUnsupportedAlgorithm] then
    .credentialManagementUnsupported
  else translated retries status operation

/-- What a search makes of the reply of its enumeration. -/
def presenceOf (retries : Int32 × Int32) (reply : Int32 × NativeCredentialList)
    (expected : Native.InventoryExpectation) : Native.Result Native.ManagedPresence :=
  if reply.1 = fidoErrNoCredentials then .ok .absent
  else if reply.1 = fidoOk then reply.2.find expected
  else .error (translatedManagement retries reply.1 "enumerate managed credentials")

/-- What a deletion makes of its status. -/
def deletionOf (retries : Int32 × Int32) (status : Int32) : Native.Result Unit :=
  if status = fidoOk then .ok ()
  else .error (translatedManagement retries status "delete managed credential")

/-- What a deletion and the enumeration after it decide. -/
def deletion (setting : Setting) (credentials : Credentials)
    (expected : Native.InventoryExpectation) : Native.Result Unit :=
  let status := deletionStatus credentials expected.credentialId setting.fault
  if status ≠ fidoOk ∧ Native.retirementStatusIsUncertain status = false then
    .error (translatedManagement setting.fault.retries status "delete managed credential")
  else Native.retirementOutcome (deletionOf setting.fault.retries status)
    (presenceOf setting.fault.retries
      (reported setting (remaining credentials expected.credentialId setting.fault)
        (utf8 expected.relyingPartyId)) expected)

/-- What the verification of an assertion gets, when the assertion does not go wrong. -/
def signed (credentials : Credentials) (expected : Native.InventoryExpectation) :
    Native.Result Unit := do
  let signer ← okOr (signerOf credentials expected.credentialId (utf8 expected.relyingPartyId))
    Native.Error.credentialNotFound
  require (signer.publicKey.asBytes = expected.es256PublicKey) Native.Error.verificationFailed

/-- What a verification gets, when its assertion does not go wrong. -/
def verified (setting : Setting) (credentials : Credentials)
    (expected : Native.InventoryExpectation) : Native.Result Unit := do
  signed credentials expected
  let presence ← presenceOf setting.fault.retries
    (inventory setting.listing credentials (utf8 expected.relyingPartyId)) expected
  require (presence = .present) Native.Error.credentialNotFound

section Runs

variable {setting : Setting} {s s₁ s' : Hardware} {α : Type} {r : Except Native.Error α}

theorem reaches_call_bind {query : Native.Query} {f : query.Reply → Adapter α}
    {reply : query.Reply} (h : answer setting s query = some (reply, s₁))
    (hf : Fallible.Reaches (Step setting) s₁ (f reply) r s') :
    Fallible.Reaches (Step setting) s
      (@bind Adapter _ (no_index query.Reply) α (Native.call query) f) r s' :=
  Fallible.reaches_ask_bind h hf

/-- A call at the end. -/
theorem reaches_call {query : Native.Query} {reply : query.Reply}
    (h : answer setting s query = some (reply, s')) :
    Fallible.Reaches (Step setting) s (Native.call query) (.ok reply) s' := by
  refine ⟨[⟨query, reply⟩], Native.runs_call.mpr ⟨reply, rfl, rfl⟩, path_singleton.mpr h⟩

/-- A status that is fine. -/
theorem reaches_orFail_bind {status : Int32} {failure : Adapter Native.Error}
    {f : Unit → Adapter α} (h : status = fidoOk)
    (hf : Fallible.Reaches (Step setting) s (f ()) r s') :
    Fallible.Reaches (Step setting) s (Native.orFail status failure >>= f) r s' := by
  refine Fallible.reaches_bind ?_ hf
  rw [Native.orFail, if_pos h]
  exact Fallible.reaches_pure ()

/-- A status that is not. -/
theorem reaches_orFail_error {status : Int32} {failure : Adapter Native.Error} {e : Native.Error}
    (h : status ≠ fidoOk) (hfailure : Fallible.Reaches (Step setting) s failure (.ok e) s') :
    Fallible.Reaches (Step setting) s (Native.orFail status failure) (.error e) s' := by
  rw [Native.orFail, if_neg h]
  exact Fallible.reaches_bind hfailure (Fallible.reaches_throw e)

theorem reaches_translate (device : Native.RawDevice) (status : Int32) (operation : String) :
    Fallible.Reaches (Step setting) s (device.translate status operation)
      (.ok (translated setting.fault.retries status operation)) s := by
  unfold Native.RawDevice.translate translated
  by_cases h : status = Native.fidoErrPinInvalid
  · rw [if_pos h, if_pos h]
    exact reaches_call_bind rfl (Fallible.reaches_pure _)
  · rw [if_neg h, if_neg h]
    exact Fallible.reaches_pure _

theorem reaches_translateManagement (device : Native.RawDevice) (status : Int32)
    (operation : String) :
    Fallible.Reaches (Step setting) s (device.translateManagement status operation)
      (.ok (translatedManagement setting.fault.retries status operation)) s := by
  unfold Native.RawDevice.translateManagement translatedManagement
  split
  · exact Fallible.reaches_pure _
  · exact reaches_translate device status operation

variable {device : Native.Authenticator} {expected : Native.InventoryExpectation}
  {pin : Native.Pin}

theorem validateManaged_of_accepted
    (hcapable : device.capabilities.supportsManaged .management = true)
    (haccepted : expected.Accepted) : device.validateManaged expected = .ok () := by
  unfold Native.Authenticator.validateManaged
  refine except_bind_eq_ok.mpr ⟨(), require_eq_ok.mpr hcapable, ?_⟩
  refine except_bind_eq_ok.mpr ⟨(), haccepted.rpId, ?_⟩
  exact except_bind_eq_ok.mpr ⟨(), haccepted.userId, haccepted.credentialId⟩

/-- **A search** gets what the reply of its enumeration says. -/
theorem reaches_managedPresence (hnul : 0 ∉ utf8 expected.relyingPartyId) :
    Fallible.Reaches (Step setting) s (device.managedPresence expected pin)
      (presenceOf setting.fault.retries (enumerate setting s (utf8 expected.relyingPartyId))
        expected) s := by
  unfold Native.Authenticator.managedPresence presenceOf
  refine Fallible.reaches_except_bind (Native.cString_eq_ok.mpr ⟨hnul, rfl⟩) ?_
  refine reaches_call_bind rfl ?_
  refine Fallible.reaches_except_bind rfl ?_
  refine reaches_call_bind rfl ?_
  by_cases hnone : (enumerate setting s (utf8 expected.relyingPartyId)).1 = fidoErrNoCredentials
  · rw [if_pos hnone, if_pos hnone]
    exact Fallible.reaches_pure _
  · rw [if_neg hnone, if_neg hnone]
    by_cases hok : (enumerate setting s (utf8 expected.relyingPartyId)).1 = fidoOk
    · rw [if_pos hok]
      exact reaches_orFail_bind hok (Fallible.reaches_except _)
    · rw [if_neg hok]
      refine Fallible.reaches_bind_error (reaches_orFail_error hok ?_)
      exact reaches_translateManagement _ _ _

/-- **A deletion** gets what its status and its enumeration say. -/
theorem reaches_deleteManaged (hnul : 0 ∉ utf8 expected.relyingPartyId) :
    Fallible.Reaches (Step setting) s
      (device.deleteManaged expected.credentialId expected pin)
      (deletion setting s.credentials expected)
      (s.delete expected.credentialId setting.fault).2 := by
  unfold Native.Authenticator.deleteManaged deletion delete
  generalize hstatus : deletionStatus s.credentials expected.credentialId setting.fault = status
  let deleted : Hardware :=
    { s with
      credentials := remaining s.credentials expected.credentialId setting.fault, deleted := true }
  have hanswer : answer setting s
      (.credmanDelDevRk device.device.raw expected.credentialId pin) =
        some (status, deleted) := congrArg (fun status => some (status, deleted)) hstatus
  refine reaches_call_bind hanswer ?_
  by_cases hdefinite : status ≠ fidoOk ∧ Native.retirementStatusIsUncertain status = false
  · rw [if_pos hdefinite, if_pos hdefinite]
    exact Fallible.reaches_bind (reaches_translateManagement _ _ _) (Fallible.reaches_throw _)
  · rw [if_neg hdefinite, if_neg hdefinite]
    have hdelete : Fallible.Reaches (Step setting) deleted (Native.orFail status
        (device.device.translateManagement status "delete managed credential"))
        (deletionOf setting.fault.retries status) deleted := by
      unfold deletionOf
      by_cases hok : status = fidoOk
      · rw [if_pos hok, Native.orFail, if_pos hok]
        exact Fallible.reaches_pure ()
      · rw [if_neg hok]
        exact reaches_orFail_error hok (reaches_translateManagement _ _ _)
    have hpresence : Fallible.Reaches (Step setting) deleted (device.managedPresence expected pin)
        (presenceOf setting.fault.retries
          (enumerate setting deleted (utf8 expected.relyingPartyId)) expected) deleted :=
      reaches_managedPresence hnul
    refine Fallible.reaches_outcome_bind hdelete (Fallible.reaches_outcome_bind hpresence ?_)
    exact Fallible.reaches_except _

/-! ## The assertion -/

theorem reaches_set {assertion : Native.Assertion} {operation : String}
    {value : Native.AssertionSetting} :
    Fallible.Reaches (Step setting) s (assertion.set operation value) (.ok ())
      (s.configure value) := by
  refine reaches_call_bind rfl ?_
  rw [Native.orFail, if_pos rfl]
  exact Fallible.reaches_pure ()

theorem reaches_assertion (hnul : 0 ∉ utf8 expected.relyingPartyId) :
    Fallible.Reaches (Step setting) s expected.assertion (.ok ⟨1⟩) (s.allowing expected) := by
  unfold Native.InventoryExpectation.assertion
  refine Fallible.reaches_except_bind (Native.cString_eq_ok.mpr ⟨hnul, rfl⟩) ?_
  refine Fallible.reaches_bind (reaches_call_bind rfl (Fallible.reaches_except _)) ?_
  refine Fallible.reaches_bind
    (reaches_call_bind rfl (Fallible.reaches_except_bind rfl (Fallible.reaches_pure _))) ?_
  refine Fallible.reaches_bind reaches_set ?_
  refine Fallible.reaches_bind reaches_set ?_
  refine Fallible.reaches_bind reaches_set ?_
  refine Fallible.reaches_bind reaches_set ?_
  refine Fallible.reaches_bind reaches_set ?_
  exact Fallible.reaches_pure _

/-- The identity of an assertion holds when the key is that of its signer. -/
theorem reaches_verifyIdentity {assertion : Native.Assertion} {publicKey : Bytes 64}
    {signer : FakeCredential} (hsigner : s.signer = some signer) :
    Fallible.Reaches (Step setting) s
      (assertion.verifyIdentity s.allowed publicKey .userVerified)
      (require (signer.publicKey.asBytes = publicKey) Native.Error.verificationFailed)
      { s with key := some publicKey } := by
  unfold Native.Assertion.verifyIdentity
  refine reaches_call_bind rfl ?_
  refine Fallible.reaches_except_bind rfl ?_
  have hload : Fallible.Reaches (Step setting) s (Native.Es256PublicKey.fromBytes publicKey)
      (.ok ⟨1⟩) { s with key := some publicKey } := by
    refine reaches_call_bind rfl (Fallible.reaches_except_bind rfl ?_)
    exact reaches_call_bind rfl (reaches_orFail_bind rfl (Fallible.reaches_pure _))
  refine Fallible.reaches_bind hload ?_
  refine reaches_call_bind rfl ?_
  rw [hsigner]
  by_cases hkey : signer.publicKey.asBytes = publicKey
  · subst hkey
    rw [require_of rfl]
    refine reaches_orFail_bind (if_pos rfl) ?_
    refine reaches_call_bind rfl ?_
    refine Fallible.reaches_except_bind (require_of (by decide)) ?_
    refine reaches_call_bind rfl ?_
    refine reaches_call_bind rfl ?_
    refine Fallible.reaches_except_bind (require_of rfl) ?_
    refine Fallible.reaches_except_bind rfl ?_
    exact Fallible.reaches_except_of (require_of (Native.fromRawParts_of s.allowed))
  · have hfails : require (signer.publicKey.asBytes = publicKey) Native.Error.verificationFailed =
        .error .verificationFailed := require_eq_error.mpr ⟨hkey, rfl⟩
    rw [hfails]
    refine Fallible.reaches_bind_error (reaches_orFail_error ?_ (Fallible.reaches_pure _))
    have hne : Option.map (fun credential : FakeCredential => credential.publicKey.asBytes)
        (some signer) ≠ some publicKey := fun h => hkey (Option.some.inj h)
    rw [if_neg hne]
    decide

theorem assert_of_not {fault : Fault} (h : ¬ fault.AtAssertion) : s.assert fault =
    if s.found.isSome then (fidoOk, { s with signer := s.found }) else (fidoErrNoCredentials, s) := by
  cases fault with
  | assertion status retries => exact absurd ⟨status, retries, rfl⟩ h
  | _ => rfl

/-- An assertion that goes wrong fails the verification with its error. -/
theorem reaches_verifyManagedAssertion_fault {status : Int32} {retries : Int32 × Int32}
    (hfault : setting.fault = .assertion status retries) (hstatus : status ≠ fidoOk)
    (hnul : 0 ∉ utf8 expected.relyingPartyId) :
    Fallible.Reaches (Step setting) s (device.verifyManagedAssertion expected pin)
      (.error (translated retries status "verify managed credential")) (s.allowing expected) := by
  refine Fallible.reaches_bind (reaches_assertion hnul) ?_
  have hanswer : answer setting (s.allowing expected)
      (.devGetAssert device.device.raw 1 (some pin)) = some (status, s.allowing expected) := by
    rw [answer, hfault]
    rfl
  refine reaches_call_bind hanswer (Fallible.reaches_bind_error (reaches_orFail_error hstatus ?_))
  have htranslate : Fallible.Reaches (Step setting) (s.allowing expected)
      (device.device.translate status "verify managed credential")
      (.ok (translated setting.fault.retries status "verify managed credential"))
      (s.allowing expected) := reaches_translate _ _ _
  rwa [hfault] at htranslate

/-- Any other is signed by the credential with the allowed id. -/
theorem reaches_verifyManagedAssertion (hfault : ¬ setting.fault.AtAssertion)
    (hnul : 0 ∉ utf8 expected.relyingPartyId) :
    ∃ s', Fallible.Reaches (Step setting) s (device.verifyManagedAssertion expected pin)
      (signed s.credentials expected) s' ∧ s'.credentials = s.credentials ∧
        s'.deleted = s.deleted := by
  have hassertion : Fallible.Reaches (Step setting) s expected.assertion (.ok ⟨1⟩)
      (s.allowing expected) := reaches_assertion hnul
  have hassert : (s.allowing expected).assert setting.fault =
      if (s.allowing expected).found.isSome then
        (fidoOk, { s.allowing expected with signer := (s.allowing expected).found })
      else (fidoErrNoCredentials, s.allowing expected) := assert_of_not hfault
  have hfound : (s.allowing expected).found =
      signerOf s.credentials expected.credentialId (utf8 expected.relyingPartyId) := rfl
  rw [hfound] at hassert
  unfold signed
  cases hsigner : signerOf s.credentials expected.credentialId (utf8 expected.relyingPartyId) with
  | none =>
      rw [hsigner] at hassert
      refine ⟨s.allowing expected, Fallible.reaches_bind hassertion ?_, rfl, rfl⟩
      have hanswer : answer setting (s.allowing expected)
          (.devGetAssert device.device.raw 1 (some pin)) =
            some (fidoErrNoCredentials, s.allowing expected) := congrArg some hassert
      refine reaches_call_bind hanswer (Fallible.reaches_bind_error ?_)
      have htranslate : Fallible.Reaches (Step setting) (s.allowing expected)
          (device.device.translate fidoErrNoCredentials "verify managed credential")
          (.ok .credentialNotFound) (s.allowing expected) := reaches_translate _ _ _
      exact reaches_orFail_error (by decide) htranslate
  | some signer =>
      rw [hsigner] at hassert
      let signing : Hardware := { s.allowing expected with signer := some signer }
      let loaded : Hardware := { signing with key := some expected.es256PublicKey }
      refine ⟨loaded, Fallible.reaches_bind hassertion ?_, rfl, rfl⟩
      have hanswer : answer setting (s.allowing expected)
          (.devGetAssert device.device.raw 1 (some pin)) = some (fidoOk, signing) :=
        congrArg some hassert
      have hidentity : Fallible.Reaches (Step setting) signing
          (Native.Assertion.verifyIdentity ⟨1⟩ signing.allowed expected.es256PublicKey .userVerified)
          (require (signer.publicKey.asBytes = expected.es256PublicKey)
            Native.Error.verificationFailed) loaded := reaches_verifyIdentity rfl
      exact reaches_call_bind hanswer (reaches_orFail_bind rfl hidentity)

/-! ## The retirement -/

variable {credential : Native.ManagedCredential}

/-- **A verification** gets what the assertion and the inventory say. -/
theorem reaches_verifyManaged (hfault : ¬ setting.fault.AtAssertion)
    (hcapable : device.capabilities.supportsManaged .management = true)
    (haccepted : (Native.InventoryExpectation.exact credential).Accepted)
    (hdeleted : s.deleted = false) :
    ∃ s', Fallible.Reaches (Step setting) s (device.verifyManaged credential pin)
      (verified setting s.credentials (.exact credential)) s' ∧ s'.credentials = s.credentials := by
  obtain ⟨s₁, hassertion, hcredentials, hdeleted₁⟩ : ∃ s₁, Fallible.Reaches (Step setting) s
      (device.verifyManagedAssertion (.exact credential) pin)
      (signed s.credentials (.exact credential)) s₁ ∧ s₁.credentials = s.credentials ∧
        s₁.deleted = s.deleted := reaches_verifyManagedAssertion hfault haccepted.nul
  unfold Native.Authenticator.verifyManaged verified
  refine ⟨s₁, Fallible.reaches_except_bind (validateManaged_of_accepted hcapable haccepted) ?_,
    hcredentials⟩
  cases hsigned : signed s.credentials (.exact credential) with
  | error e =>
      rw [hsigned] at hassertion
      exact Fallible.reaches_bind_error hassertion
  | ok u =>
      rw [hsigned] at hassertion
      refine Fallible.reaches_bind hassertion ?_
      have hpresence : Fallible.Reaches (Step setting) s₁
          (device.managedPresence (.exact credential) pin)
          (presenceOf setting.fault.retries
            (enumerate setting s₁ (utf8 credential.relyingPartyId)) (.exact credential)) s₁ :=
        reaches_managedPresence haccepted.nul
      rw [enumerate, hdeleted₁, hdeleted, hcredentials] at hpresence
      exact Fallible.reaches_bind_except hpresence _

/-- A retirement whose verification fails ends there. -/
theorem reaches_retireManaged_error {e : Native.Error} (hfault : ¬ setting.fault.AtAssertion)
    (hcapable : device.capabilities.supportsManaged .management = true)
    (haccepted : (Native.InventoryExpectation.exact credential).Accepted)
    (hdeleted : s.deleted = false)
    (hverified : verified setting s.credentials (.exact credential) = .error e) :
    ∃ s', Fallible.Reaches (Step setting) s (device.retireManaged credential pin) (.error e)
      s' ∧ s'.credentials = s.credentials := by
  obtain ⟨s', hverify, hcredentials⟩ : ∃ s', Fallible.Reaches (Step setting) s
      (device.verifyManaged credential pin) (verified setting s.credentials (.exact credential))
      s' ∧ s'.credentials = s.credentials :=
    reaches_verifyManaged hfault hcapable haccepted hdeleted
  rw [hverified] at hverify
  exact ⟨s', Fallible.reaches_bind_error hverify, hcredentials⟩

/-- So does one whose assertion goes wrong. -/
theorem reaches_retireManaged_fault {status : Int32} {retries : Int32 × Int32}
    (hfault : setting.fault = .assertion status retries) (hstatus : status ≠ fidoOk)
    (hcapable : device.capabilities.supportsManaged .management = true)
    (haccepted : (Native.InventoryExpectation.exact credential).Accepted) :
    ∃ s', Fallible.Reaches (Step setting) s (device.retireManaged credential pin)
      (.error (translated retries status "verify managed credential")) s' ∧
        s'.credentials = s.credentials := by
  refine ⟨s.allowing (.exact credential), Fallible.reaches_bind_error ?_, rfl⟩
  refine Fallible.reaches_except_bind (validateManaged_of_accepted hcapable haccepted) ?_
  exact Fallible.reaches_bind_error
    (reaches_verifyManagedAssertion_fault hfault hstatus haccepted.nul)

/-- **A retirement** whose verification succeeds gets what the deletion decides. -/
theorem reaches_retireManaged {u : Unit} (hfault : ¬ setting.fault.AtAssertion)
    (hcapable : device.capabilities.supportsManaged .management = true)
    (haccepted : (Native.InventoryExpectation.exact credential).Accepted)
    (hdeleted : s.deleted = false)
    (hverified : verified setting s.credentials (.exact credential) = .ok u) :
    ∃ s', Fallible.Reaches (Step setting) s (device.retireManaged credential pin)
      (deletion setting s.credentials (.exact credential)) s' ∧
        s'.credentials = remaining s.credentials credential.credentialId setting.fault := by
  obtain ⟨s₁, hverify, hcredentials⟩ : ∃ s₁, Fallible.Reaches (Step setting) s
      (device.verifyManaged credential pin) (verified setting s.credentials (.exact credential))
      s₁ ∧ s₁.credentials = s.credentials :=
    reaches_verifyManaged hfault hcapable haccepted hdeleted
  rw [hverified] at hverify
  have hdelete : Fallible.Reaches (Step setting) s₁
      (device.deleteManaged credential.credentialId (.exact credential) pin)
      (deletion setting s₁.credentials (.exact credential))
      (s₁.delete credential.credentialId setting.fault).2 := reaches_deleteManaged haccepted.nul
  rw [hcredentials] at hdelete
  refine ⟨_, Fallible.reaches_bind hverify hdelete, ?_⟩
  rw [← hcredentials]
  rfl

/-! ## Selection -/

/-- What the device can do. -/
def capabilities : Native.Capabilities where
  fido2 := true
  hmacSecret := false
  credentialProtection := false
  discoverableCredentials := false
  credentialManagement := true
  es256 := true
  clientPinSupported := true
  clientPinConfigured := true
  alwaysUv := false

/-- The device, open. -/
def authenticator : Native.Authenticator where
  device := ⟨1⟩
  capabilities := capabilities
  affinity := 0

theorem versions_info : Native.copyStringArray info.versions = .ok ["FIDO_2_1"] := by
  decide

theorem fido2_info : (["FIDO_2_1"].any fun version =>
    (utf8 "FIDO_2").isPrefixOf (utf8 version)) = true := by
  decide

theorem reaches_capabilities (device : Native.RawDevice) :
    Fallible.Reaches (Step setting) s device.capabilities (.ok capabilities) s := by
  unfold Native.RawDevice.capabilities
  refine reaches_call_bind rfl (Fallible.reaches_except_bind rfl ?_)
  refine reaches_call_bind rfl (reaches_orFail_bind rfl ?_)
  refine Fallible.reaches_except_bind rfl ?_
  refine Fallible.reaches_except_bind versions_info ?_
  refine Fallible.reaches_except_bind rfl (Fallible.reaches_except_bind rfl ?_)
  refine Fallible.reaches_except_bind (require_of (by decide)) ?_
  refine reaches_call_bind rfl (reaches_call_bind rfl (reaches_call_bind rfl ?_))
  refine reaches_call_bind rfl (reaches_call_bind rfl ?_)
  rw [fido2_info]
  exact Fallible.reaches_pure _

theorem reaches_openCandidate {path : ByteString} {config : Native.Config} :
    Fallible.Reaches (Step setting) s (Native.openCandidate path config) (.ok (⟨1⟩, capabilities))
      s := by
  have hopen : Fallible.Reaches (Step setting) s (Native.RawDevice.open path config) (.ok ⟨1⟩) s := by
    refine reaches_call_bind rfl (Fallible.reaches_except_bind rfl ?_)
    refine reaches_call_bind rfl (reaches_orFail_bind rfl ?_)
    exact reaches_call_bind rfl (reaches_orFail_bind rfl (Fallible.reaches_pure _))
  refine Fallible.reaches_bind hopen ?_
  exact Fallible.reaches_bind (reaches_capabilities _) (Fallible.reaches_pure _)

/-- The paths that a manifest finds. -/
theorem reaches_manifest {maxDevices : Nat} (hmax : 1 ≤ maxDevices) :
    Fallible.Reaches (Step setting) s (Native.manifest maxDevices)
      (.ok (if setting.plugged then [utf8 "key"] else [])) s := by
  unfold Native.manifest
  refine reaches_call_bind rfl (Fallible.reaches_except_bind rfl ?_)
  refine reaches_call_bind rfl (reaches_orFail_bind rfl ?_)
  cases setting.plugged with
  | false =>
      refine Fallible.reaches_except_bind (require_of (Nat.not_lt_zero maxDevices)) ?_
      exact Fallible.reaches_except_of rfl
  | true =>
      refine Fallible.reaches_except_bind (require_of (not_lt.mpr hmax)) ?_
      exact Fallible.reaches_except_of rfl

variable {backend : Native.Backend}

/-- One device is found. -/
theorem reaches_prepareManagedSelection (hplugged : setting.plugged = true) :
    Fallible.Reaches (Step setting) s (backend.prepareManagedSelection .management)
      (.ok { devices := [(⟨1⟩, capabilities)], config := backend.config }) s := by
  have hmanifest : Fallible.Reaches (Step setting) s (Native.manifest backend.config.maxDevices)
      (.ok (if setting.plugged then [utf8 "key"] else [])) s :=
    reaches_manifest backend.config.devices.1
  rw [if_pos hplugged] at hmanifest
  unfold Native.Backend.prepareManagedSelection Native.Backend.prepareSelectionMatching
  refine Fallible.reaches_bind
    (reaches_call_bind rfl (Fallible.reaches_except_bind rfl (reaches_call rfl))) ?_
  refine Fallible.reaches_bind hmanifest ?_
  refine Fallible.reaches_except_bind (require_of (List.cons_ne_nil _ _)) ?_
  have hcandidates : Fallible.Reaches (Step setting) s
      (Native.openCandidates backend.config (fun capabilities =>
        capabilities.supportsManaged .management) [utf8 "key"] {})
      (.ok { devices := [(⟨1⟩, capabilities)] }) s :=
    Fallible.reaches_outcome_bind reaches_openCandidate (Fallible.reaches_pure _)
  refine Fallible.reaches_bind hcandidates ?_
  exact Fallible.reaches_except_bind (require_of (List.cons_ne_nil _ _)) (Fallible.reaches_pure _)

/-- None is found. -/
theorem reaches_prepareManagedSelection_error (hplugged : setting.plugged = false) :
    Fallible.Reaches (Step setting) s (backend.prepareManagedSelection .management)
      (.error .noAuthenticators) s := by
  have hmanifest : Fallible.Reaches (Step setting) s (Native.manifest backend.config.maxDevices)
      (.ok (if setting.plugged then [utf8 "key"] else [])) s :=
    reaches_manifest backend.config.devices.1
  rw [hplugged] at hmanifest
  unfold Native.Backend.prepareManagedSelection Native.Backend.prepareSelectionMatching
  refine Fallible.reaches_bind
    (reaches_call_bind rfl (Fallible.reaches_except_bind rfl (reaches_call rfl))) ?_
  refine Fallible.reaches_bind hmanifest ?_
  exact Fallible.reaches_except_error (require_eq_error.mpr ⟨fun h => h rfl, rfl⟩)

/-! ## The console -/

/-- The user as the world of the prompts. -/
def PromptStep (setting : Setting) (s : Hardware) (event : Event interaction) (s' : Hardware) :
    Prop :=
  event.reply = consent setting.pin event.query ∧ s' = s

theorem consoleStep_left (s : Hardware) (event : Event interaction) (s' : Hardware)
    (h : PromptStep setting s event s') : ConsoleStep setting s event.left s' := h

theorem consoleStep_right (s : Hardware) (event : Event libfido2) (s' : Hardware)
    (h : Step setting s event s') : ConsoleStep setting s event.right s' := h

theorem reaches_native {x : Adapter α} {r : Except Native.Error α}
    (h : Fallible.Reaches (Step setting) s x r s') :
    Fallible.Reaches (ConsoleStep setting) s (native x) (r.mapError mapNativeError) s' :=
  Fallible.reaches_right consoleStep_right h

theorem reaches_prompt {prompt : DevicePrompt} :
    Fallible.Reaches (PromptStep setting) s (FidoKeyWrap.prompt prompt)
      (.ok (consent setting.pin prompt)) s := by
  refine ⟨[⟨prompt, consent setting.pin prompt⟩], ?_, path_singleton.mpr ⟨rfl, rfl⟩⟩
  exact Fallible.runs_lift.mpr ⟨_, Program.runs_ask.mpr rfl, rfl⟩

theorem reaches_touchRequired {operation : Operation} {label : String} {ceremony : FidoCeremony}
    {policy : FidoPolicy} :
    Fallible.Reaches (ConsoleStep setting) s (touchRequired operation label ceremony policy)
      (.ok ()) s := by
  refine Fallible.reaches_left (r := .ok ()) consoleStep_left ?_
  exact Fallible.reaches_bind reaches_prompt (Fallible.reaches_except _)

theorem reaches_requestNativePin {request : ManagedRequest} :
    Fallible.Reaches (ConsoleStep setting) s (requestNativePin request)
      (.ok ⟨utf8 setting.pin.asStr ++ [0]⟩) s := by
  refine @Fallible.reaches_bind _ _ _ _ _ _ s s s _ _ setting.pin _ ?_ ?_
  · refine Fallible.reaches_left (r := .ok setting.pin) consoleStep_left ?_
    exact Fallible.reaches_bind reaches_prompt (Fallible.reaches_except _)
  · refine Fallible.reaches_except_of ?_
    rw [Pin.native_new]
    rfl

variable {request : ManagedRequest} {rounds : Nat}

/-- **The backend** gets what the adapter gets, on the device that is found. -/
theorem reaches_backend {r : Native.Result Unit} {nativeBackend : NativeBackend}
    (hplugged : setting.plugged = true)
    (h : Fallible.Reaches (Step setting) s (authenticator.retireManaged
      (nativeManagedCredential request.credential) ⟨utf8 setting.pin.asStr ++ [0]⟩) r s') :
    Fallible.Reaches (ConsoleStep setting) s (nativeBackend.retireManaged request rounds)
      (r.mapError mapNativeError) s' := by
  refine @Fallible.reaches_bind _ _ _ _ _ _ s s s' _ _ authenticator _ ?_ ?_
  · refine Fallible.reaches_bind (reaches_native (reaches_prepareManagedSelection hplugged)) ?_
    have hselect : Fallible.Reaches (Step setting) s
        (Native.PreparedSelection.select ⟨[(⟨1⟩, capabilities)], nativeBackend.backend.config⟩ rounds)
        (.ok authenticator) s := reaches_call_bind rfl (Fallible.reaches_pure _)
    exact reaches_native hselect
  · refine Fallible.reaches_bind reaches_requestNativePin ?_
    exact Fallible.reaches_bind reaches_touchRequired (reaches_native h)

/-- Without a device there is nothing to retire. -/
theorem reaches_backend_error {nativeBackend : NativeBackend} (hplugged : setting.plugged = false) :
    Fallible.Reaches (ConsoleStep setting) s (nativeBackend.retireManaged request rounds)
      (.error .noCompatibleAuthenticator) s := by
  refine Fallible.reaches_bind_error (Fallible.reaches_bind_error ?_)
  exact reaches_native (reaches_prepareManagedSelection_error hplugged)

end Runs

end Hardware

end FidoKeyWrap
