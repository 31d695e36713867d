/-
# FidoKeyWrap.Native.Assertion — one signed assertion and the secret it releases.

`evaluate` asks the device for an assertion with the `hmac-secret` extension. Its secret is read only
after the assertion was verified: there is exactly one, it is signed under the expected key, its
signed flags are exactly those of the policy, and it is for the expected credential. The calls of a
verification are the list `verification`, and `Verified` says that a trace has them in that order;
every read of the secret, in failing runs too, comes after them.
-/
import FidoKeyWrap.Native.Device

namespace FidoKeyWrap.Native

open ByteData Interact

/-- **`PrfRequest`** — the parameters of one exact, verified `hmac-secret` assertion. -/
structure PrfRequest where
  relyingPartyId : String
  credentialId : ByteString
  es256PublicKey : Bytes 64
  salt : Bytes 32
  policy : ExactPolicy
  deriving DecidableEq

/-! ## Flags -/

/-- The flags show what the policy wants, and no credential that is backed up. -/
def flagsMatch (flags : UInt8) (policy : ExactPolicy) : Bool :=
  let up := flags &&& authdataUp != 0
  let uv := flags &&& authdataUv != 0
  let backupEligible := flags &&& authdataBe != 0
  let backupState := flags &&& authdataBs != 0
  up && uv == decide (policy = .userVerified) && !backupEligible && !backupState

/-- **`FlagsExact flags policy`** — the signed flags, bit by bit: user present; user verified exactly
when the policy says so; neither eligible for backup nor backed up. -/
structure FlagsExact (flags : UInt8) (policy : ExactPolicy) : Prop where
  up : flags.toNat.testBit 0 = true
  uv : flags.toNat.testBit 2 = decide (policy = .userVerified)
  be : flags.toNat.testBit 3 = false
  bs : flags.toNat.testBit 4 = false

/-- The masks read single bits. -/
theorem mask_eq_testBit (flags : UInt8) :
    (flags &&& authdataUp != 0) = flags.toNat.testBit 0 ∧
      (flags &&& authdataUv != 0) = flags.toNat.testBit 2 ∧
      (flags &&& authdataBe != 0) = flags.toNat.testBit 3 ∧
      (flags &&& authdataBs != 0) = flags.toNat.testBit 4 := by
  have hall : ∀ value : Fin 256,
      (UInt8.ofNat value &&& authdataUp != 0) = value.val.testBit 0 ∧
        (UInt8.ofNat value &&& authdataUv != 0) = value.val.testBit 2 ∧
        (UInt8.ofNat value &&& authdataBe != 0) = value.val.testBit 3 ∧
        (UInt8.ofNat value &&& authdataBs != 0) = value.val.testBit 4 := by
    decide +kernel
  have h := hall ⟨flags.toNat, flags.toNat_lt⟩
  rwa [UInt8.ofNat_toNat] at h

theorem flagsMatch_iff {flags : UInt8} {policy : ExactPolicy} :
    flagsMatch flags policy = true ↔ FlagsExact flags policy := by
  obtain ⟨hup, huv, hbe, hbs⟩ := mask_eq_testBit flags
  unfold flagsMatch
  rw [hup, huv, hbe, hbs]
  simp only [Bool.and_eq_true, beq_iff_eq, Bool.not_eq_true']
  constructor
  · rintro ⟨⟨⟨up, uv⟩, be⟩, bs⟩
    exact ⟨up, uv, be, bs⟩
  · intro h
    exact ⟨⟨⟨h.up, h.uv⟩, h.be⟩, h.bs⟩

/-! ## Verification -/

/-- A loaded public key. -/
structure Es256PublicKey where
  raw : Handle

/-- A key that libfido2 can verify with. -/
def Es256PublicKey.fromBytes (bytes : Bytes 64) : Adapter Es256PublicKey := do
  let raw ← okOr (← call .es256PkNew) Error.allocationFailed
  let status ← call (.es256PkFromPtr raw bytes)
  orFail status (return .verificationFailed)
  return ⟨raw⟩

/-- **`Assertion`** — one allocated assertion. -/
structure Assertion where
  raw : Handle

/-- `exact_secret_pointer`, and the bytes it points to. -/
def exactSecretPointer (secretPointer : Pointer) (secretLen : Nat) : Result (Bytes 32) := do
  require (secretLen = 32) Error.verificationFailed
  let memory ← okOr secretPointer Error.verificationFailed
  return ⟨fromRawParts memory 32, length_fromRawParts memory 32⟩

namespace Assertion

/-- A new assertion object. -/
def new : Adapter Assertion := do
  return ⟨← okOr (← call .assertNew) Error.allocationFailed⟩

/-- `Assertion::call`. -/
def set (self : Assertion) (operation : String) (setting : AssertionSetting) : Adapter Unit := do
  let status ← call (.assertSet self.raw setting)
  orFail status (return translateStatus status operation)

/-- One assertion, of the expected credential, with a valid signature and the right flags. -/
def verifyIdentity (self : Assertion) (expectedId : ByteString) (publicKey : Bytes 64)
    (policy : ExactPolicy) : Adapter Unit := do
  let count ← call (.assertCount self.raw)
  require (count = 1) Error.verificationFailed
  let publicKey ← Es256PublicKey.fromBytes publicKey
  let verifyStatus ← call (.assertVerify self.raw 0 coseEs256 publicKey.raw)
  orFail verifyStatus (return .verificationFailed)
  let flags ← call (.assertFlags self.raw 0)
  require (flagsMatch flags policy = true) Error.verificationFailed
  let idLen ← call (.assertIdLen self.raw 0)
  let idPointer ← call (.assertIdPtr self.raw 0)
  require (idLen = expectedId.length) Error.verificationFailed
  let memory ← okOr idPointer Error.verificationFailed
  require (fromRawParts memory idLen = expectedId) Error.verificationFailed

/-- The extension output, once the assertion was verified. -/
def verifiedSecret (self : Assertion) (expectedId : ByteString) (publicKey : Bytes 64)
    (policy : ExactPolicy) : Adapter (Bytes 32) := do
  self.verifyIdentity expectedId publicKey policy
  let secretLen ← call (.assertHmacSecretLen self.raw 0)
  let secretPointer ← call (.assertHmacSecretPtr self.raw 0)
  exactSecretPointer secretPointer secretLen

end Assertion

/-! ## Evaluation -/

/-- The policy and the PIN agree. -/
def checkPin (policy : ExactPolicy) (pin : Option Pin) : Result Unit :=
  match policy, pin with
  | .presence, none | .userVerified, some _ => .ok ()
  | .presence, some _ => .error (.invalidInput "presence policy must not receive a PIN")
  | .userVerified, none => .error .pinRequired

/-- The assertion of `evaluate`, before it goes to the device. -/
def PrfRequest.assertion (request : PrfRequest) : Adapter Assertion := do
  let rpId ← cString request.relyingPartyId "relying-party ID contains a NUL byte"
  let clientDataHash ← randomArray
  let assertion ← Assertion.new
  assertion.set "set relying party" (.setRp rpId)
  assertion.set "set client-data hash" (.setClientdataHash clientDataHash)
  assertion.set "set allowed credential" (.allowCred request.credentialId)
  assertion.set "set hmac-secret extension" (.setExtensions fidoExtHmacSecret)
  assertion.set "set hmac-secret salt" (.setHmacSalt request.salt)
  assertion.set "require user presence" (.setUp fidoOptTrue)
  assertion.set "set exact user verification" (.setUv (match request.policy with
    | .presence => fidoOptFalse
    | .userVerified => fidoOptTrue))
  return assertion

/-- **`evaluate`** — the PRF of a credential for a salt. -/
def Authenticator.evaluate (self : Authenticator) (request : PrfRequest) (pin : Option Pin) :
    Adapter (Bytes 32) := do
  validateRpId request.relyingPartyId
  validateCredentialId request.credentialId
  checkPin request.policy pin
  require (¬ (request.policy = .presence ∧ self.capabilities.alwaysUv = true)) Error.unsupported
  let assertion ← request.assertion
  let result ← call (.devGetAssert self.device.raw assertion.raw pin)
  orFail result (self.device.translate result "get assertion")
  assertion.verifiedSecret request.credentialId request.es256PublicKey request.policy

/-! ## What a verification did -/

/-- The calls that identify an assertion. -/
def identification (raw : Handle) (id : ByteString) (publicKey : Bytes 64) (key : Handle)
    (flags : UInt8) (memory : Memory) : Trace libfido2 :=
  [⟨.assertCount raw, (1 : Nat)⟩,
    ⟨.es256PkNew, some key⟩,
    ⟨.es256PkFromPtr key publicKey, fidoOk⟩,
    ⟨.assertVerify raw 0 coseEs256 key, fidoOk⟩,
    ⟨.assertFlags raw 0, flags⟩,
    ⟨.assertIdLen raw 0, id.length⟩,
    ⟨.assertIdPtr raw 0, some memory⟩]

/-- The calls of a verified assertion, from the exchange with the device on. -/
def verification (device : RawDevice) (raw : Handle) (pin : Option Pin) (id : ByteString)
    (publicKey : Bytes 64) (key : Handle) (flags : UInt8) (memory : Memory) : Trace libfido2 :=
  ⟨.devGetAssert device.raw raw pin, fidoOk⟩ :: identification raw id publicKey key flags memory

/-- **`Verified device raw pin id publicKey policy t`** — in `t` the device returned the assertion
`raw`, and every check of its identity passed. -/
def Verified (device : RawDevice) (raw : Handle) (pin : Option Pin) (id : ByteString)
    (publicKey : Bytes 64) (policy : ExactPolicy) (t : Trace libfido2) : Prop :=
  ∃ key flags memory, verification device raw pin id publicKey key flags memory <:+: t ∧
    FlagsExact flags policy ∧ fromRawParts memory id.length = id

/-- The reads of a secret that is 32 bytes behind a pointer that is not null. -/
def secretReads (raw : Handle) (memory : Memory) : Trace libfido2 :=
  [⟨.assertHmacSecretLen raw 0, (32 : Nat)⟩, ⟨.assertHmacSecretPtr raw 0, some memory⟩]

/-- **`SecretRead raw secret t`** — the extension output of `raw` was 32 bytes behind a pointer that
is not null. -/
def SecretRead (raw : Handle) (secret : Bytes 32) (t : Trace libfido2) : Prop :=
  ∃ memory, secretReads raw memory <:+: t ∧ fromRawParts memory 32 = secret.toList

section Runs

variable {t : Trace libfido2} {id : ByteString} {publicKey : Bytes 64} {policy : ExactPolicy}

theorem runs_fromBytes_ok {key : Es256PublicKey} :
    (Es256PublicKey.fromBytes publicKey).run.Runs t (.ok key) ↔
      t = [⟨.es256PkNew, some key.raw⟩, ⟨.es256PkFromPtr key.raw publicKey, fidoOk⟩] := by
  unfold Es256PublicKey.fromBytes
  simp only [↓runs_call_bind_ok, ↓Fallible.runs_except_bind_ok, okOr_eq_ok, Fallible.runs_bind_ok,
    runs_orFail_ok, Fallible.runs_pure, Except.ok.injEq]
  constructor
  · rintro ⟨reply, t₁, rfl, raw, rfl, status, t₂, rfl, t₃, -, t₄, rfl, ⟨rfl, rfl⟩, rfl, rfl⟩
    rfl
  · rintro rfl
    exact ⟨_, _, rfl, key.raw, rfl, _, _, rfl, [], (), [], rfl, ⟨rfl, rfl⟩, rfl, rfl⟩

theorem runs_verifyIdentity_ok {assertion : Assertion} {u : Unit} :
    (assertion.verifyIdentity id publicKey policy).run.Runs t (.ok u) ↔
      ∃ key flags memory, t = identification assertion.raw id publicKey key flags memory ∧
        FlagsExact flags policy ∧ fromRawParts memory id.length = id := by
  unfold Assertion.verifyIdentity
  simp only [↓runs_call_bind_ok, ↓Fallible.runs_except_bind_ok, okOr_eq_ok, Fallible.runs_bind_ok,
    runs_orFail_ok, require_eq_ok, flagsMatch_iff, runs_fromBytes_ok, Fallible.runs_except]
  constructor
  · rintro ⟨count, t₁, rfl, -, rfl, t₂, key, t₃, rfl, rfl, status, t₄, rfl, t₅, -, t₆, rfl,
      ⟨rfl, rfl⟩, flags, t₇, rfl, -, hflags, len, t₈, rfl, pointer, t₉, rfl, -, rfl, memory, rfl,
      rfl, hid⟩
    exact ⟨key.raw, flags, memory, rfl, hflags, require_eq_ok.mp hid.symm⟩
  · rintro ⟨key, flags, memory, rfl, hflags, hid⟩
    exact ⟨1, _, rfl, (), rfl, _, ⟨key⟩, _, rfl, rfl, _, _, rfl, [], (), _, rfl, ⟨rfl, rfl⟩, flags,
      _, rfl, (), hflags, _, _, rfl, _, _, rfl, (), rfl, memory, rfl, rfl, (require_of hid).symm⟩

theorem exactSecretPointer_eq_ok {pointer : Pointer} {len : Nat} {secret : Bytes 32} :
    exactSecretPointer pointer len = .ok secret ↔
      len = 32 ∧ ∃ memory, pointer = some memory ∧ fromRawParts memory 32 = secret.toList := by
  simp only [exactSecretPointer, except_bind_eq_ok, require_eq_ok, okOr_eq_ok, except_pure_eq_ok]
  constructor
  · rintro ⟨-, hlen, memory, rfl, rfl⟩
    exact ⟨hlen, memory, rfl, rfl⟩
  · rintro ⟨hlen, memory, rfl, hsecret⟩
    exact ⟨(), hlen, memory, rfl, Bytes.ext hsecret.symm⟩

theorem runs_verifiedSecret_ok {assertion : Assertion} {secret : Bytes 32} :
    (assertion.verifiedSecret id publicKey policy).run.Runs t (.ok secret) ↔
      ∃ key flags memory secretMemory,
        t = identification assertion.raw id publicKey key flags memory ++
          secretReads assertion.raw secretMemory ∧
        FlagsExact flags policy ∧ fromRawParts memory id.length = id ∧
        fromRawParts secretMemory 32 = secret.toList := by
  unfold Assertion.verifiedSecret
  simp only [Fallible.runs_bind_ok, ↓runs_call_bind_ok, runs_verifyIdentity_ok,
    Fallible.runs_except, eq_comm (a := Except.ok secret), exactSecretPointer_eq_ok]
  constructor
  · rintro ⟨t₁, u, t₂, rfl, ⟨key, flags, memory, rfl, hflags, hid⟩, len, t₃, rfl, pointer, t₄, rfl,
      rfl, rfl, secretMemory, rfl, hsecret⟩
    exact ⟨key, flags, memory, secretMemory, rfl, hflags, hid, hsecret⟩
  · rintro ⟨key, flags, memory, secretMemory, rfl, hflags, hid, hsecret⟩
    exact ⟨_, (), _, rfl, ⟨key, flags, memory, rfl, hflags, hid⟩, _, _, rfl, _, _, rfl, rfl, rfl,
      secretMemory, rfl, hsecret⟩

end Runs

/-! ## Quiet steps -/

theorem Assertion.quiet_new : Quiet Assertion.new :=
  quiet_bind (quiet_call id) fun _ => quiet_bind (quiet_except _) fun _ => quiet_pure _

theorem Assertion.quiet_set (self : Assertion) (operation : String) (setting : AssertionSetting) :
    Quiet (self.set operation setting) :=
  quiet_bind (quiet_call id) fun _ => quiet_orFail (quiet_pure _)

theorem quiet_fromBytes (bytes : Bytes 64) : Quiet (Es256PublicKey.fromBytes bytes) :=
  quiet_bind (quiet_call id) fun _ => quiet_bind (quiet_except _) fun _ =>
    quiet_bind (quiet_call id) fun _ => quiet_bind (quiet_orFail (quiet_pure _)) fun _ =>
      quiet_pure _

/-- An identity is verified without reading the secret. -/
theorem Assertion.quiet_verifyIdentity (self : Assertion) (id : ByteString) (publicKey : Bytes 64)
    (policy : ExactPolicy) : Quiet (self.verifyIdentity id publicKey policy) := by
  unfold verifyIdentity
  refine quiet_bind (quiet_call (fun h => h)) fun _ => quiet_bind (quiet_except _) fun _ => ?_
  refine quiet_bind (quiet_fromBytes publicKey) fun _ => quiet_bind (quiet_call (fun h => h)) fun _ => ?_
  refine quiet_bind (quiet_orFail (quiet_pure _)) fun _ => quiet_bind (quiet_call (fun h => h)) fun _ => ?_
  refine quiet_bind (quiet_except _) fun _ => quiet_bind (quiet_call (fun h => h)) fun _ => ?_
  refine quiet_bind (quiet_call (fun h => h)) fun _ => quiet_bind (quiet_except _) fun _ => ?_
  exact quiet_bind (quiet_except _) fun _ => quiet_except _

theorem PrfRequest.quiet_assertion (request : PrfRequest) : Quiet request.assertion := by
  unfold assertion
  refine quiet_bind (quiet_except _) fun _ => quiet_bind quiet_randomArray fun _ => ?_
  refine quiet_bind Assertion.quiet_new fun a => ?_
  refine quiet_bind (a.quiet_set _ _) fun _ => quiet_bind (a.quiet_set _ _) fun _ => ?_
  refine quiet_bind (a.quiet_set _ _) fun _ => quiet_bind (a.quiet_set _ _) fun _ => ?_
  refine quiet_bind (a.quiet_set _ _) fun _ => quiet_bind (a.quiet_set _ _) fun _ => ?_
  exact quiet_bind (a.quiet_set _ _) fun _ => quiet_pure _

/-! ## The secret is read last -/

/-- **`PolicyAgrees a policy pin`** — presence without a PIN on a device that does not always
verify its user, or user verification with a PIN. -/
def PolicyAgrees (a : Authenticator) (policy : ExactPolicy) (pin : Option Pin) : Prop :=
  (policy = .presence ∧ pin = none ∧ a.capabilities.alwaysUv = false) ∨
    (policy = .userVerified ∧ ∃ value, pin = some value)

theorem policyAgrees_of_checks {a : Authenticator} {policy : ExactPolicy} {pin : Option Pin}
    {u : Unit} (hpin : checkPin policy pin = .ok u)
    (hverify : ¬ (policy = .presence ∧ a.capabilities.alwaysUv = true)) :
    PolicyAgrees a policy pin := by
  cases policy <;> cases pin <;> simp_all [checkPin, PolicyAgrees]

/-- **`ReadsVerified`** — when the secret of an assertion is read, the policy and the PIN agree and
that assertion was verified before. -/
def ReadsVerified (a : Authenticator) (pin : Option Pin) (id : ByteString) (publicKey : Bytes 64)
    (policy : ExactPolicy) (past : Trace libfido2) (event : Event libfido2) : Prop :=
  ∀ raw index, event.query = .assertHmacSecretLen raw index ∨
    event.query = .assertHmacSecretPtr raw index →
      PolicyAgrees a policy pin ∧ Verified a.device raw pin id publicKey policy past

section Order

variable {self : Authenticator} {pin : Option Pin} {id : ByteString} {publicKey : Bytes 64}
  {policy : ExactPolicy} {past : Trace libfido2}

theorem readsVerified_of_quiet {event : Event libfido2} (h : ¬ event.query.Significant) :
    ReadsVerified self pin id publicKey policy past event := by
  rintro raw index (hquery | hquery) <;> exact absurd (by rw [hquery]; trivial) h

theorem Quiet.ordered {α : Type} {x : Adapter α} (h : Quiet x) :
    Program.Ordered (ReadsVerified self pin id publicKey policy) past x.run :=
  Program.Every.ordered h fun _ hevent _ => readsVerified_of_quiet hevent

theorem Verified.append {device : RawDevice} {raw : Handle} {t : Trace libfido2}
    (h : Verified device raw pin id publicKey policy past) :
    Verified device raw pin id publicKey policy (past ++ t) := by
  obtain ⟨key, flags, memory, hwithin, hflags, hid⟩ := h
  exact ⟨key, flags, memory, hwithin.trans (List.prefix_append past t).isInfix, hflags, hid⟩

theorem ordered_verifiedSecret {assertion : Assertion} (hpolicy : PolicyAgrees self policy pin)
    (hpast : ∃ before,
      past = before ++ [⟨.devGetAssert self.device.raw assertion.raw pin, fidoOk⟩]) :
    Program.Ordered (ReadsVerified self pin id publicKey policy) past
      (assertion.verifiedSecret id publicKey policy).run := by
  obtain ⟨before, rfl⟩ := hpast
  apply Fallible.ordered_bind (assertion.quiet_verifyIdentity id publicKey policy).ordered
  intro t u hrun
  obtain ⟨key, flags, memory, rfl, hflags, hid⟩ := runs_verifyIdentity_ok.mp hrun
  have hverified : Verified self.device assertion.raw pin id publicKey policy
      (before ++ [⟨.devGetAssert self.device.raw assertion.raw pin, fidoOk⟩] ++
        identification assertion.raw id publicKey key flags memory) := by
    refine ⟨key, flags, memory, ?_, hflags, hid⟩
    rw [List.append_assoc]
    exact (List.suffix_append before _).isInfix
  refine ordered_call_bind ?_ fun len => ordered_call_bind ?_ fun pointer => ?_
  · rintro reply raw index (hquery | hquery) <;> cases hquery
    exact ⟨hpolicy, hverified⟩
  · rintro reply raw index (hquery | hquery) <;> cases hquery
    exact ⟨hpolicy, hverified.append⟩
  · exact Fallible.ordered_except _

/-- **The secret of an assertion is read after its verification**, in every run of `evaluate`. -/
theorem ordered_evaluate {request : PrfRequest} :
    Program.Ordered (ReadsVerified self pin request.credentialId request.es256PublicKey
      request.policy) past (self.evaluate request pin).run := by
  unfold Authenticator.evaluate
  apply Fallible.ordered_except_bind
  intro _ _
  apply Fallible.ordered_except_bind
  intro _ _
  apply Fallible.ordered_except_bind
  intro _ hpin
  apply Fallible.ordered_except_bind
  intro _ hverify
  have hpolicy := policyAgrees_of_checks hpin (require_eq_ok.mp hverify)
  apply Fallible.ordered_bind request.quiet_assertion.ordered
  intro t assertion _
  refine ordered_call_bind ?_ fun status => ?_
  · rintro reply raw index (hquery | hquery) <;> cases hquery
  · apply Fallible.ordered_bind (quiet_orFail (self.device.quiet_translate _ _)).ordered
    intro t' u hrun
    obtain ⟨rfl, rfl⟩ := runs_orFail_ok.mp hrun
    exact ordered_verifiedSecret hpolicy ⟨_, List.append_nil _⟩

end Order

/-! ## A successful evaluation -/

/-- A successful evaluation is a verified assertion, then a read of its secret. -/
theorem runs_evaluate_ok {self : Authenticator} {request : PrfRequest} {pin : Option Pin}
    {t : Trace libfido2} {secret : Bytes 32}
    (h : (self.evaluate request pin).run.Runs t (.ok secret)) :
    PolicyAgrees self request.policy pin ∧ ∃ raw,
      Verified self.device raw pin request.credentialId request.es256PublicKey request.policy t ∧
        SecretRead raw secret t := by
  unfold Authenticator.evaluate at h
  simp only [↓Fallible.runs_except_bind_ok, Fallible.runs_bind_ok, ↓runs_call_bind_ok,
    runs_orFail_ok, require_eq_ok, runs_verifiedSecret_ok] at h
  obtain ⟨-, -, -, -, u, hpin, -, hverify, t₁, assertion, t₂, rfl, -, status, t₃, rfl, t₄, -, t₅,
    rfl, ⟨rfl, rfl⟩, key, flags, memory, secretMemory, rfl, hflags, hid, hsecret⟩ := h
  refine ⟨policyAgrees_of_checks hpin hverify, assertion.raw, ?_, secretMemory, ?_, hsecret⟩
  · refine ⟨key, flags, memory, ⟨t₁, secretReads assertion.raw secretMemory, ?_⟩,
      hflags, hid⟩
    rw [List.append_assoc]
    rfl
  · refine ⟨t₁ ++ verification self.device assertion.raw pin request.credentialId
      request.es256PublicKey key flags memory, [], ?_⟩
    simp [verification]

end FidoKeyWrap.Native
