/-
# FidoKeyWrap.Native.Ffi — what the security-key adapter asks of libfido2.

The adapter is a set of programs over foreign calls. A call is a `Query`; its reply is what libfido2
returned, so a status, a length, a flags byte and a null pointer are all arbitrary. An object that
libfido2 allocates is a `Handle`, and a failed allocation is `none`. Exchanges with a device name the
device they go to.

What an exchange filled in is read in one of two ways. The contents of a new credential, of a
credential list and of an info block come with the reply of the exchange. An assertion is read
through its getters, one query each, because the order in which it is read is part of what the
adapter promises.
-/
import FidoKeyWrap.Lib.Order
import FidoKeyWrap.Lib.Bytes

namespace FidoKeyWrap.Native

open ByteData Interact

/-! ## Errors -/

/-- A sanitized backend error. -/
inductive Error where
  | libraryUnavailable
  | libraryIncompatible
  | invalidInput (message : String)
  | allocationFailed
  | randomUnavailable
  | noAuthenticators
  | noCompatibleAuthenticators
  | selectionTimedOut
  | timedOut
  | busy
  | transport
  | pinInvalid (retries : Option UInt8)
  | pinBlocked
  | pinAuthBlocked
  | pinRequired
  | userAction
  | unsupported
  | credentialManagementUnsupported
  | credentialStoreFull
  | credentialMayRemain
  | credentialNotFound
  | credentialMismatch
  | retirementUncertain
  | verificationFailed
  | protocol
  | native (operation : String) (code : Int32)
  deriving DecidableEq

/-- The result of an adapter function. -/
abbrev Result := Except Error

/-! ## Constants -/

/-- Success. -/
def fidoOk : Int32 := 0x00
/-- The device does not know the command. -/
def fidoErrInvalidCommand : Int32 := 0x01
/-- The device gave up. -/
def fidoErrTimeout : Int32 := 0x05
/-- Another client has the device. -/
def fidoErrChannelBusy : Int32 := 0x06
/-- The device lacks the extension. -/
def fidoErrUnsupportedExtension : Int32 := 0x16
/-- The device lacks the algorithm. -/
def fidoErrUnsupportedAlgorithm : Int32 := 0x26
/-- The user declined. -/
def fidoErrOperationDenied : Int32 := 0x27
/-- The device has no room for another credential. -/
def fidoErrKeyStoreFull : Int32 := 0x28
/-- The device lacks the option. -/
def fidoErrUnsupportedOption : Int32 := 0x2b
/-- The option does not fit the request. -/
def fidoErrInvalidOption : Int32 := 0x2c
/-- The exchange was cancelled. -/
def fidoErrKeepaliveCancel : Int32 := 0x2d
/-- The device has no such credential. -/
def fidoErrNoCredentials : Int32 := 0x2e
/-- The user did nothing. -/
def fidoErrUserActionTimeout : Int32 := 0x2f
/-- The device does not allow the request now. -/
def fidoErrNotAllowed : Int32 := 0x30
/-- The PIN is wrong. -/
def fidoErrPinInvalid : Int32 := 0x31
/-- No PIN is accepted until a reset. -/
def fidoErrPinBlocked : Int32 := 0x32
/-- No PIN is accepted until a power cycle. -/
def fidoErrPinAuthBlocked : Int32 := 0x34
/-- The device has no PIN. -/
def fidoErrPinNotSet : Int32 := 0x35
/-- The device wants a PIN. -/
def fidoErrPinRequired : Int32 := 0x36
/-- The device did not finish in time. -/
def fidoErrActionTimeout : Int32 := 0x3a
/-- No biometric is accepted. -/
def fidoErrUvBlocked : Int32 := 0x3c
/-- The biometric did not match. -/
def fidoErrUvInvalid : Int32 := 0x3f
/-- The request could not be sent. -/
def fidoErrTx : Int32 := -1
/-- No reply could be read. -/
def fidoErrRx : Int32 := -2
/-- The reply is not CBOR. -/
def fidoErrRxNotCbor : Int32 := -3
/-- The reply is CBOR of another shape. -/
def fidoErrRxInvalidCbor : Int32 := -4
/-- A signature does not verify. -/
def fidoErrInvalidSig : Int32 := -6
/-- The device wants a touch. -/
def fidoErrUserPresenceRequired : Int32 := -8
/-- An error inside libfido2. -/
def fidoErrInternal : Int32 := -9

/-- `FIDO_OPT_FALSE`. -/
def fidoOptFalse : Int32 := 1
/-- `FIDO_OPT_TRUE`. -/
def fidoOptTrue : Int32 := 2

/-- The bit of the `hmac-secret` extension. -/
def fidoExtHmacSecret : Int32 := 0x01
/-- The bit of the credential protection extension. -/
def fidoExtCredProtect : Int32 := 0x02
/-- Protection: usable without verification by who knows the credential id. -/
def fidoCredProtUvOptionalWithId : Int32 := 0x02
/-- Protection: usable only with verification. -/
def fidoCredProtUvRequired : Int32 := 0x03
/-- The COSE number of ES256. -/
def coseEs256 : Int32 := -7

/-- The flag of user presence. -/
def authdataUp : UInt8 := 0x01
/-- The flag of user verification. -/
def authdataUv : UInt8 := 0x04
/-- The flag of a credential that can be backed up. -/
def authdataBe : UInt8 := 0x08
/-- The flag of a credential that is backed up. -/
def authdataBs : UInt8 := 0x10

/-- The most bytes of a relying-party id. -/
def maxRpIdBytes : Nat := 253
/-- The most bytes of a relying-party name. -/
def maxNameBytes : Nat := 128
/-- The most bytes of a credential id. -/
def maxCredentialIdBytes : Nat := 1024
/-- The most bytes of a user id. -/
def maxUserIdBytes : Nat := 64
/-- The most credentials that one enumeration may list. -/
def maxManagedCredentialsPerRp : Nat := 1024

/-! ## Statuses -/

/-- The error of a status; one that is not listed keeps its code. -/
def translateStatus (status : Int32) (operation : String) : Error :=
  if status ∈ [fidoErrTimeout, fidoErrUserActionTimeout, fidoErrActionTimeout, fidoErrRx] then
    .timedOut
  else if status = fidoErrChannelBusy then .busy
  else if status = fidoErrTx then .transport
  else if status = fidoErrPinInvalid then .pinInvalid none
  else if status = fidoErrPinBlocked then .pinBlocked
  else if status = fidoErrPinAuthBlocked then .pinAuthBlocked
  else if status ∈ [fidoErrPinNotSet, fidoErrPinRequired] then .pinRequired
  else if status ∈ [fidoErrOperationDenied, fidoErrKeepaliveCancel, fidoErrNotAllowed,
      fidoErrUserPresenceRequired, fidoErrUvBlocked, fidoErrUvInvalid] then .userAction
  else if status ∈ [fidoErrUnsupportedExtension, fidoErrUnsupportedAlgorithm,
      fidoErrUnsupportedOption] then .unsupported
  else if status = fidoErrKeyStoreFull then .credentialStoreFull
  else if status = fidoErrNoCredentials then .credentialNotFound
  else if status = fidoErrInvalidSig then .verificationFailed
  else if status ∈ [fidoErrRxNotCbor, fidoErrRxInvalidCbor] then .protocol
  else .native operation status

/-- A deletion with this status may have happened. -/
def retirementStatusIsUncertain (status : Int32) : Bool :=
  status ∈ [fidoErrTimeout, fidoErrUserActionTimeout, fidoErrActionTimeout, fidoErrTx, fidoErrRx,
    fidoErrRxNotCbor, fidoErrRxInvalidCbor, fidoErrInternal, fidoErrNoCredentials]

/-- A creation with this status may have happened. -/
def managedEnrollmentStatusIsUncertain (status : Int32) : Bool :=
  status ∈ [fidoErrTimeout, fidoErrUserActionTimeout, fidoErrActionTimeout, fidoErrTx, fidoErrRx,
    fidoErrRxNotCbor, fidoErrRxInvalidCbor, fidoErrInternal]

/-- Opening a device that is gone is an internal error of libfido2. -/
def translateOpenStatus (status : Int32) : Error :=
  if status = fidoErrInternal then .transport else translateStatus status "open authenticator"

/-! ## Foreign memory -/

/-- The memory a pointer points into. -/
abbrev Memory := Nat → UInt8

/-- A pointer libfido2 returned: null, or the memory it points to. -/
abbrev Pointer := Option Memory

/-- `std::slice::from_raw_parts`. -/
def fromRawParts (memory : Memory) (len : Nat) : ByteString := (List.range len).map memory

@[simp] theorem length_fromRawParts (memory : Memory) (len : Nat) :
    (fromRawParts memory len).length = len := by
  simp [fromRawParts]

/-- The memory that holds a byte string. -/
def Memory.of (bytes : ByteString) : Memory := fun index => bytes.getD index 0

@[simp] theorem fromRawParts_of (bytes : ByteString) :
    fromRawParts (Memory.of bytes) bytes.length = bytes := by
  refine List.ext_getElem (by simp) fun index h _ => ?_
  rw [length_fromRawParts] at h
  simp [fromRawParts, Memory.of, h]

/-- A pointer getter and its length getter. -/
structure NativeBytes where
  pointer : Pointer
  len : Nat

/-- A byte string in foreign memory. -/
def inMemory (bytes : ByteString) : NativeBytes := ⟨some (Memory.of bytes), bytes.length⟩

/-- A C array of C strings. -/
structure NativeStrings where
  pointer : Option (Nat → Option ByteString)
  len : Nat

/-- What the getters of a `fido_cred_t` return. -/
structure NativeCredential where
  fmt : Option ByteString
  type : Int32
  prot : Int32
  flags : UInt8
  id : NativeBytes
  userId : NativeBytes
  pubkey : NativeBytes
  x5c : NativeBytes
  verify : Int32
  verifySelf : Int32

/-- What the getters of a `fido_credman_rk_t` return. -/
structure NativeCredentialList where
  count : Nat
  rk : Nat → Option NativeCredential

/-- What the getters of a `fido_cbor_info_t` return. -/
structure NativeInfo where
  extensions : NativeStrings
  versions : NativeStrings
  optionNames : Option (Nat → Option ByteString)
  optionValues : Option (Nat → Bool)
  optionsLen : Nat
  algorithmCount : Nat
  algorithmCose : Nat → Int32

/-- One slot of a device manifest: null, or the path of the device, which may be null too. -/
abbrev NativeSlot := Option (Option ByteString)

/-! ## Values that are passed through -/

/-- An object libfido2 allocated. -/
abbrev Handle := Nat

/-- A NUL-terminated PIN. -/
structure Pin where
  bytes : ByteString
  deriving DecidableEq

/-- A PIN that CTAP can carry. -/
def Pin.new (pin : String) : Result Pin := do
  let pin := utf8 pin
  require (pin ≠ []) (Error.invalidInput "PIN must not be empty")
  require (¬ 63 < pin.length) (Error.invalidInput "PIN exceeds the CTAP byte limit")
  require (0 ∉ pin) (Error.invalidInput "PIN contains a NUL byte")
  return ⟨pin ++ [0]⟩

/-- A setter of a `fido_cred_t` and its arguments. -/
inductive CredentialSetting where
  | setClientdataHash (hash : Bytes 32)
  | setRp (id name : ByteString)
  | setUser (id name displayName : ByteString)
  | setType (cose : Int32)
  | setExtensions (extensions : Int32)
  | setProt (protection : Int32)
  | setRk (option : Int32)
  | setUv (option : Int32)
  deriving DecidableEq

/-- A setter of a `fido_assert_t` and its arguments. -/
inductive AssertionSetting where
  | setRp (id : ByteString)
  | setClientdataHash (hash : Bytes 32)
  | allowCred (id : ByteString)
  | setExtensions (extensions : Int32)
  | setHmacSalt (salt : Bytes 32)
  | setUp (option : Int32)
  | setUv (option : Int32)
  deriving DecidableEq

/-! ## Calls -/

/-- **`Query`** — everything the adapter asks of libfido2 and of the system. -/
inductive Query where
  /-- `ffi::ensure_loaded`. -/
  | ensureLoaded
  | init (flags : Int32)
  /-- `getrandom::fill` of 32 bytes. -/
  | random
  /-- `Instant::now`, in nanoseconds. -/
  | now
  /-- `Rc::new(())`. -/
  | newAffinity
  /-- The loop goes on: no reply. -/
  | unfinished
  | devInfoNew (slots : Nat)
  /-- Status, number found, and the slots. -/
  | devInfoManifest (list : Handle) (slots : Nat)
  | devNew
  | devSetTimeout (device : Handle) (milliseconds : Int32)
  | devOpen (device : Handle) (path : ByteString)
  | devIsFido2 (device : Handle)
  | devSupportsCredProt (device : Handle)
  | devSupportsCredman (device : Handle)
  | devSupportsPin (device : Handle)
  | devHasPin (device : Handle)
  | cborInfoNew
  | devGetCborInfo (device info : Handle)
  | devGetTouchBegin (device : Handle)
  /-- Status, and whether the device was touched. -/
  | devGetTouchStatus (device : Handle) (milliseconds : Int32)
  | devCancel (device : Handle)
  /-- Status, and the retries left. -/
  | devGetRetryCount (device : Handle)
  | credNew
  | credSet (credential : Handle) (setting : CredentialSetting)
  | devMakeCred (device credential : Handle) (pin : Pin)
  | assertNew
  | assertSet (assertion : Handle) (setting : AssertionSetting)
  | devGetAssert (device assertion : Handle) (pin : Option Pin)
  | assertCount (assertion : Handle)
  | es256PkNew
  | es256PkFromPtr (key : Handle) (bytes : Bytes 64)
  | assertVerify (assertion : Handle) (index : Nat) (cose : Int32) (key : Handle)
  | assertFlags (assertion : Handle) (index : Nat)
  | assertIdLen (assertion : Handle) (index : Nat)
  | assertIdPtr (assertion : Handle) (index : Nat)
  | assertHmacSecretLen (assertion : Handle) (index : Nat)
  | assertHmacSecretPtr (assertion : Handle) (index : Nat)
  | credmanRkNew
  | credmanGetDevRk (device : Handle) (rpId : ByteString) (list : Handle) (pin : Pin)
  | credmanDelDevRk (device : Handle) (credentialId : ByteString) (pin : Pin)

/-- The type of a reply. -/
@[reducible] def Query.Reply : Query → Type
  | ensureLoaded => Result Unit
  | init _ => Unit
  | random => Option (Bytes 32)
  | now | newAffinity => Nat
  | unfinished => Empty
  | devInfoNew _ | devNew | cborInfoNew | credNew | assertNew | es256PkNew | credmanRkNew =>
    Option Handle
  | devInfoManifest .. => Int32 × Nat × (Nat → NativeSlot)
  | devSetTimeout .. | devOpen .. | devGetTouchBegin _ | devCancel _ | credSet .. | assertSet ..
  | devGetAssert .. | es256PkFromPtr .. | assertVerify .. | credmanDelDevRk .. => Int32
  | devIsFido2 _ | devSupportsCredProt _ | devSupportsCredman _ | devSupportsPin _ | devHasPin _ =>
    Bool
  | devGetCborInfo .. => Int32 × NativeInfo
  | devGetTouchStatus .. | devGetRetryCount _ => Int32 × Int32
  | devMakeCred .. => Int32 × NativeCredential
  | assertCount _ | assertIdLen .. | assertHmacSecretLen .. => Nat
  | assertFlags .. => UInt8
  | assertIdPtr .. | assertHmacSecretPtr .. => Pointer
  | credmanGetDevRk .. => Int32 × NativeCredentialList

/-- The signature of the adapter's foreign calls. -/
abbrev libfido2 : Signature where
  Query := Query
  Reply := Query.Reply

/-- A fallible computation that may call libfido2. -/
abbrev Adapter := Fallible libfido2 Error

/-- One foreign call. -/
def call (query : Query) : Adapter query.Reply := liftM (@Program.ask libfido2 query)

@[simp] theorem runs_call {query : Query} {t : Trace libfido2} {r : Except Error query.Reply} :
    (call query).run.Runs t r ↔ ∃ reply, t = [⟨query, reply⟩] ∧ r = .ok reply := by
  unfold call
  rw [Fallible.runs_lift]
  constructor
  · rintro ⟨reply, hrun, rfl⟩
    exact ⟨reply, Program.runs_ask.mp hrun, rfl⟩
  · rintro ⟨reply, rfl, rfl⟩
    exact ⟨reply, Program.runs_ask.mpr rfl, rfl⟩

/-- A call, then what follows its reply. -/
theorem runs_call_bind_ok {α : Type} {query : Query} {f : query.Reply → Adapter α}
    {t : Trace libfido2} {a : α} :
    (@bind Adapter _ (no_index query.Reply) α (call query) f).run.Runs t (.ok a) ↔
      ∃ reply t', t = ⟨query, reply⟩ :: t' ∧ (f reply).run.Runs t' (.ok a) := by
  rw [Fallible.runs_bind_ok]
  constructor
  · rintro ⟨t₁, reply, t₂, rfl, hcall, hrun⟩
    obtain ⟨reply', rfl, hreply⟩ := runs_call.mp hcall
    cases hreply
    exact ⟨reply, t₂, rfl, hrun⟩
  · rintro ⟨reply, t', rfl, hrun⟩
    exact ⟨[⟨query, reply⟩], reply, t', rfl, runs_call.mpr ⟨reply, rfl, rfl⟩, hrun⟩

/-- A run of a call and its continuation, a failing one included. -/
theorem runs_call_bind {α : Type} {query : Query} {f : query.Reply → Adapter α}
    {t : Trace libfido2} {r : Except Error α} :
    (@bind Adapter _ (no_index query.Reply) α (call query) f).run.Runs t r ↔
      ∃ reply t', t = ⟨query, reply⟩ :: t' ∧ (f reply).run.Runs t' r := by
  rw [Fallible.runs_bind]
  constructor
  · rintro (⟨t₁, reply, t₂, rfl, hcall, hrun⟩ | ⟨e, hcall, -⟩)
    · obtain ⟨reply', rfl, hreply⟩ := runs_call.mp hcall
      cases hreply
      exact ⟨reply, t₂, rfl, hrun⟩
    · obtain ⟨reply, -, hreply⟩ := runs_call.mp hcall
      cases hreply
  · rintro ⟨reply, t', rfl, hrun⟩
    exact .inl ⟨[⟨query, reply⟩], reply, t', rfl, runs_call.mpr ⟨reply, rfl, rfl⟩, hrun⟩

theorem every_call {P : Event libfido2 → Prop} {query : Query} (h : ∀ reply, P ⟨query, reply⟩) :
    Program.Every P (call query).run := by
  intro t r hrun event hmem
  obtain ⟨reply, rfl, -⟩ := runs_call.mp hrun
  rw [List.mem_singleton] at hmem
  subst hmem
  exact h reply

/-- A call and its continuation, in order. -/
theorem ordered_call_bind {α : Type} {C : Trace libfido2 → Event libfido2 → Prop}
    {past : Trace libfido2} {query : Query} {f : query.Reply → Adapter α}
    (hquery : ∀ reply, C past ⟨query, reply⟩)
    (hf : ∀ reply, Program.Ordered C (past ++ [⟨query, reply⟩]) (f reply).run) :
    Program.Ordered C past (@bind Adapter _ query.Reply α (call query) f).run := by
  intro t r hrun
  obtain ⟨reply, t', rfl, htail⟩ := runs_call_bind.mp hrun
  exact ⟨hquery reply, hf reply t' r htail⟩

/-- The call itself is the one loud event. -/
theorem once_call_bind {α : Type} {loud : Event libfido2 → Prop}
    {Q : Event libfido2 → Trace libfido2 → Except Error α → Prop} {query : Query}
    {f : query.Reply → Adapter α} (hquery : ∀ reply, loud ⟨query, reply⟩)
    (hf : ∀ reply, Program.Every (fun event => ¬ loud event) (f reply).run)
    (hQ : ∀ reply t r, (f reply).run.Runs t r → Q ⟨query, reply⟩ t r) :
    Program.Once loud Q (@bind Adapter _ query.Reply α (call query) f).run := by
  intro t r hrun
  obtain ⟨reply, t', rfl, htail⟩ := runs_call_bind.mp hrun
  refine .inr ⟨[], ⟨query, reply⟩, t', rfl, hquery reply, ?_, hf reply t' r htail,
    hQ reply t' r htail⟩
  intro event hmem
  cases hmem

/-! ## Significant calls -/

/-- The call makes, uses, lists or deletes a credential, or reads the secret of an assertion. -/
def Query.Significant : Query → Prop
  | devMakeCred .. | devGetAssert .. | assertHmacSecretLen .. | assertHmacSecretPtr ..
  | credmanGetDevRk .. | credmanDelDevRk .. => True
  | _ => False

/-- **`Quiet x`** — no run of `x` has a significant call. -/
def Quiet {α : Type} (x : Adapter α) : Prop :=
  Program.Every (fun event : Event libfido2 => ¬ event.query.Significant) x.run

section Quiet

variable {α β : Type}

theorem quiet_pure (a : α) : Quiet (pure a) := Program.every_pure _

theorem quiet_throw (e : Error) : Quiet (throw e : Adapter α) := Fallible.every_throw e

theorem quiet_except (x : Result α) : Quiet (liftM x) := Fallible.every_except x

theorem quiet_call {query : Query} (h : ¬ query.Significant) : Quiet (call query) :=
  every_call fun _ => h

theorem quiet_bind {x : Adapter α} {f : α → Adapter β} (hx : Quiet x) (hf : ∀ a, Quiet (f a)) :
    Quiet (x >>= f) :=
  Fallible.every_bind hx hf

/-- A call that is not significant, and what follows its reply. -/
theorem quiet_call_bind {query : Query} {f : query.Reply → Adapter α} (h : ¬ query.Significant)
    (hf : ∀ reply, Quiet (f reply)) :
    Quiet (@bind Adapter _ query.Reply α (call query) f) :=
  quiet_bind (quiet_call h) hf

theorem quiet_outcome {x : Adapter α} (hx : Quiet x) : Quiet (Fallible.outcome x) :=
  Fallible.every_outcome hx

end Quiet

/-! ## Small steps -/

/-- `random_array`. -/
def randomArray : Adapter (Bytes 32) := do
  okOr (← call .random) Error.randomUnavailable

/-- `if status != FIDO_OK { return Err(failure) }`. -/
def orFail (status : Int32) (failure : Adapter Error) : Adapter Unit := do
  if status = fidoOk then return () else throw (← failure)

/-- `CString::new`. -/
def cString (value : String) (message : String) : Result ByteString :=
  if 0 ∈ utf8 value then .error (.invalidInput message) else .ok (utf8 value)

@[simp] theorem cString_eq_ok {value message : String} {bytes : ByteString} :
    cString value message = .ok bytes ↔ 0 ∉ utf8 value ∧ bytes = utf8 value := by
  unfold cString
  split <;> simp_all [eq_comm]

@[simp] theorem runs_orFail_ok {status : Int32} {failure : Adapter Error} {t : Trace libfido2}
    {u : Unit} : (orFail status failure).run.Runs t (.ok u) ↔ t = [] ∧ status = fidoOk := by
  unfold orFail
  split
  · simp_all
  · rename_i h
    rw [Fallible.runs_bind_ok]
    simp [h]

/-- A failed status fails with the translated error, or with an error of the translation. -/
theorem runs_orFail_error {status : Int32} {failure : Adapter Error} {t : Trace libfido2}
    {e : Error} (h : (orFail status failure).run.Runs t (.error e)) :
    status ≠ fidoOk ∧ (failure.run.Runs t (.ok e) ∨ failure.run.Runs t (.error e)) := by
  unfold orFail at h
  split at h
  · obtain ⟨-, hr⟩ := h
    cases hr
  · rename_i hstatus
    refine ⟨hstatus, ?_⟩
    rcases Fallible.runs_bind.mp h with ⟨t₁, e', t₂, rfl, hfailure, hthrow⟩ | ⟨e', hfailure, hr⟩
    · obtain ⟨rfl, hr⟩ := Fallible.runs_throw.mp hthrow
      cases hr
      rw [List.append_nil]
      exact .inl hfailure
    · cases hr
      exact .inr hfailure

/-- A checked status and what follows it. -/
theorem runs_orFail_bind {α : Type} {status : Int32} {failure : Adapter Error}
    {f : Unit → Adapter α} {t : Trace libfido2} {r : Except Error α} :
    (orFail status failure >>= f).run.Runs t r ↔ status = fidoOk ∧ (f ()).run.Runs t r ∨
      ∃ e, (orFail status failure).run.Runs t (.error e) ∧ r = .error e := by
  rw [Fallible.runs_bind]
  constructor
  · rintro (⟨t₁, _, t₂, rfl, hok, htail⟩ | ⟨e, hfail, rfl⟩)
    · obtain ⟨rfl, hstatus⟩ := runs_orFail_ok.mp hok
      exact .inl ⟨hstatus, htail⟩
    · exact .inr ⟨e, hfail, rfl⟩
  · rintro (⟨hstatus, htail⟩ | ⟨e, hfail, rfl⟩)
    · exact .inl ⟨[], (), t, rfl, runs_orFail_ok.mpr ⟨rfl, hstatus⟩, htail⟩
    · exact .inr ⟨e, hfail, rfl⟩

theorem quiet_orFail {status : Int32} {failure : Adapter Error} (h : Quiet failure) :
    Quiet (orFail status failure) := by
  unfold orFail
  split
  · exact quiet_pure ()
  · exact quiet_bind h fun error => quiet_throw error

theorem quiet_randomArray : Quiet randomArray :=
  quiet_bind (quiet_call id) fun _ => quiet_except _

/-! ## Validation -/

/-- `u8::is_ascii_control`. -/
def isAsciiControl (byte : UInt8) : Bool := byte < 0x20 || byte == 0x7f

/-- A relying-party id that libfido2 can take. -/
def validateRpId (value : String) : Result Unit := do
  require (¬ (utf8 value = [] ∨ maxRpIdBytes < (utf8 value).length))
    (Error.invalidInput "relying-party ID length is invalid")
  require (¬ (utf8 value).any (fun byte => byte == 0 || isAsciiControl byte) = true)
    (Error.invalidInput "relying-party ID contains a forbidden byte")

/-- A relying-party name that libfido2 can take. -/
def validateName (value : String) : Result Unit := do
  require (¬ (utf8 value = [] ∨ maxNameBytes < (utf8 value).length))
    (Error.invalidInput "relying-party name length is invalid")
  require (0 ∉ utf8 value) (Error.invalidInput "relying-party name contains a NUL byte")

/-- A user id within its bounds. -/
def validateUserId (value : ByteString) : Result Unit :=
  require (¬ (value = [] ∨ maxUserIdBytes < value.length))
    (Error.invalidInput "managed user ID length is invalid")

/-- A credential id within its bounds. -/
def validateCredentialId (value : ByteString) : Result Unit :=
  require (¬ (value = [] ∨ maxCredentialIdBytes < value.length))
    (Error.invalidInput "credential ID length is invalid")

/-- `copy_native_bytes`. -/
def copyNativeBytes (bytes : NativeBytes) (maxLen : Nat) : Result ByteString :=
  match bytes.pointer with
  | none => .error .protocol
  | some memory =>
    if bytes.len = 0 ∨ maxLen < bytes.len then .error .protocol
    else .ok (fromRawParts memory bytes.len)

end FidoKeyWrap.Native
