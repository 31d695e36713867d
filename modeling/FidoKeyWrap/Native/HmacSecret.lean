/-
# FidoKeyWrap.Native.HmacSecret — the adapter evaluates the PRF of the requested credential.

An authenticator with the `hmac-secret` extension keeps two secrets for every credential, one for
assertions with user verification and one for those without, and returns the HMAC of the salt under
the one that was used. `HmacDevice.Step` follows the assertion objects of libfido2 under such a device:
what was set on an object, and what the device returned in it. The device may otherwise sign for
another credential than the allowed one, or verify the user as it likes. The checks of the adapter
exclude both, so a secret that it returns is the PRF of the requested credential under the requested
policy for the requested salt (`evaluates_hmac_secret`).
-/
import FidoKeyWrap.Lib.Path
import FidoKeyWrap.Native.SecretRelease

namespace FidoKeyWrap.Native

open ByteData Interact

/-- **`HmacSecret`** — the extension of an authenticator: the credential, whether the user was
verified, and the salt give the output. -/
abbrev HmacSecret := ByteString → Bool → Bytes 32 → Bytes 32

/-- What a device returned in an assertion. -/
structure Signed where
  credentialId : ByteString
  flags : UInt8
  secret : Option (Bytes 32)

/-- What an assertion object holds. -/
structure AssertionData where
  relyingParty : Option ByteString := none
  clientDataHash : Option (Bytes 32) := none
  allowed : List ByteString := []
  extensions : Int32 := 0
  salt : Option (Bytes 32) := none
  up : Int32 := 0
  uv : Int32 := 0
  signed : Option Signed := none

/-- A setter that succeeds. -/
def AssertionData.set (data : AssertionData) : AssertionSetting → AssertionData
  | .setRp id => { data with relyingParty := some id }
  | .setClientdataHash hash => { data with clientDataHash := some hash }
  | .allowCred id => { data with allowed := data.allowed ++ [id] }
  | .setExtensions extensions => { data with extensions }
  | .setHmacSalt salt => { data with salt := some salt }
  | .setUp option => { data with up := option }
  | .setUv option => { data with uv := option }

/-- Whether the signed flags say that the user was verified. -/
def Signed.verified (signed : Signed) : Bool := signed.flags &&& authdataUv != 0

/-- The device returned the output of its extension, when it was asked for. -/
def Signed.Computes (hmac : HmacSecret) (data : AssertionData) (signed : Signed) : Prop :=
  data.extensions = fidoExtHmacSecret → ∀ salt, data.salt = some salt →
    signed.secret = some (hmac signed.credentialId signed.verified salt)

/-- The pointer leads to the bytes. -/
def PointsTo (pointer : Pointer) (bytes : ByteString) : Prop :=
  ∃ memory, pointer = some memory ∧ fromRawParts memory bytes.length = bytes

/-- The assertion objects of libfido2. -/
abbrev HmacDevice := Handle → AssertionData

/-- **`HmacDevice.Step hmac`** — what one call may do to the assertion objects, and what the getters of
an object with an assertion return. Nothing is known of a call that fails. -/
def HmacDevice.Step (hmac : HmacSecret) (s : HmacDevice) (event : Event libfido2)
    (s' : HmacDevice) : Prop :=
  match event with
  | ⟨.assertNew, some raw⟩ => s' = Function.update s raw {}
  | ⟨.assertSet raw setting, status⟩ =>
    ∃ data, s' = Function.update s raw data ∧ (status = fidoOk → data = (s raw).set setting)
  | ⟨.devGetAssert _ raw _, status⟩ =>
    ∃ data, s' = Function.update s raw data ∧ (status = fidoOk → ∃ signed,
      data = { s raw with signed := some signed } ∧ signed.Computes hmac (s raw))
  | ⟨.assertFlags raw 0, flags⟩ =>
    s' = s ∧ ∀ signed, (s raw).signed = some signed → flags = signed.flags
  | ⟨.assertIdLen raw 0, len⟩ =>
    s' = s ∧ ∀ signed, (s raw).signed = some signed → len = signed.credentialId.length
  | ⟨.assertIdPtr raw 0, pointer⟩ =>
    s' = s ∧ ∀ signed, (s raw).signed = some signed → PointsTo pointer signed.credentialId
  | ⟨.assertHmacSecretLen raw 0, len⟩ =>
    s' = s ∧ ∀ signed, (s raw).signed = some signed → ∀ secret, signed.secret = some secret →
      len = 32
  | ⟨.assertHmacSecretPtr raw 0, pointer⟩ =>
    s' = s ∧ ∀ signed, (s raw).signed = some signed → ∀ secret, signed.secret = some secret →
      PointsTo pointer secret.toList
  | _ => s' = s

/-! ## The assertion that is asked for -/

/-- The calls that prepare an assertion. -/
def preparation (raw : Handle) (rpId : ByteString) (hash : Bytes 32) (request : PrfRequest) :
    Trace libfido2 :=
  [⟨.random, some hash⟩,
    ⟨.assertNew, some raw⟩,
    ⟨.assertSet raw (.setRp rpId), fidoOk⟩,
    ⟨.assertSet raw (.setClientdataHash hash), fidoOk⟩,
    ⟨.assertSet raw (.allowCred request.credentialId), fidoOk⟩,
    ⟨.assertSet raw (.setExtensions fidoExtHmacSecret), fidoOk⟩,
    ⟨.assertSet raw (.setHmacSalt request.salt), fidoOk⟩,
    ⟨.assertSet raw (.setUp fidoOptTrue), fidoOk⟩,
    ⟨.assertSet raw (.setUv (match request.policy with
      | .presence => fidoOptFalse
      | .userVerified => fidoOptTrue)), fidoOk⟩]

/-- What an assertion object holds after them. -/
def PrfRequest.prepared (request : PrfRequest) (hash : Bytes 32) : AssertionData where
  relyingParty := some (utf8 request.relyingPartyId)
  clientDataHash := some hash
  allowed := [request.credentialId]
  extensions := fidoExtHmacSecret
  salt := some request.salt
  up := fidoOptTrue
  uv := match request.policy with
    | .presence => fidoOptFalse
    | .userVerified => fidoOptTrue

section Preparation

variable {request : PrfRequest} {assertion : Assertion} {t : Trace libfido2}

theorem Assertion.runs_new_ok :
    Assertion.new.run.Runs t (.ok assertion) ↔ t = [⟨.assertNew, some assertion.raw⟩] := by
  unfold Assertion.new
  simp only [↓runs_call_bind_ok, ↓Fallible.runs_except_bind_ok, okOr_eq_ok, Fallible.runs_pure,
    Except.ok.injEq]
  constructor
  · rintro ⟨reply, t₁, rfl, raw, rfl, rfl, rfl⟩
    rfl
  · rintro rfl
    exact ⟨_, _, rfl, assertion.raw, rfl, rfl, rfl⟩

theorem Assertion.runs_set_ok {operation : String} {setting : AssertionSetting} {u : Unit} :
    (assertion.set operation setting).run.Runs t (.ok u) ↔
      t = [⟨.assertSet assertion.raw setting, fidoOk⟩] := by
  unfold Assertion.set
  simp only [↓runs_call_bind_ok, runs_orFail_ok]
  constructor
  · rintro ⟨status, t₁, rfl, rfl, rfl⟩
    rfl
  · rintro rfl
    exact ⟨_, _, rfl, rfl, rfl⟩

theorem runs_randomArray_ok {bytes : Bytes 32} :
    randomArray.run.Runs t (.ok bytes) ↔ t = [⟨.random, some bytes⟩] := by
  unfold randomArray
  simp only [↓runs_call_bind_ok, Fallible.runs_except, eq_comm (a := Except.ok bytes), okOr_eq_ok]
  constructor
  · rintro ⟨reply, t₁, rfl, rfl, rfl⟩
    rfl
  · rintro rfl
    exact ⟨_, _, rfl, rfl, rfl⟩

/-- An assertion that was prepared, was prepared by exactly these calls. -/
theorem runs_assertion_ok (h : request.assertion.run.Runs t (.ok assertion)) :
    ∃ hash, t = preparation assertion.raw (utf8 request.relyingPartyId) hash request := by
  unfold PrfRequest.assertion at h
  simp only [↓Fallible.runs_except_bind_ok, Fallible.runs_bind_ok, cString_eq_ok,
    runs_randomArray_ok, Assertion.runs_new_ok, Assertion.runs_set_ok, Fallible.runs_pure,
    Except.ok.injEq] at h
  obtain ⟨rpId, ⟨-, rfl⟩, _, hash, _, rfl, rfl, _, made, _, rfl, rfl, _, _, _, rfl, rfl, _, _, _,
    rfl, rfl, _, _, _, rfl, rfl, _, _, _, rfl, rfl, _, _, _, rfl, rfl, _, _, _, rfl, rfl, _, _, _,
    rfl, rfl, rfl, rfl⟩ := h
  exact ⟨hash, rfl⟩

end Preparation

/-! ## What the object holds -/

section Objects

variable {hmac : HmacSecret} {s s' : HmacDevice} {raw : Handle} {request : PrfRequest}

/-- A setter that succeeded configured its object. -/
theorem HmacDevice.Step.configured {setting : AssertionSetting}
    (h : HmacDevice.Step hmac s ⟨.assertSet raw setting, fidoOk⟩ s') :
    s' raw = (s raw).set setting := by
  obtain ⟨data, rfl, hdata⟩ := h
  rw [Function.update_self]
  exact hdata rfl

/-- **The prepared object is for the request**: its credential, its salt, its policy. -/
theorem prepared_of_path {rpId : ByteString} {hash : Bytes 32}
    (h : Path (HmacDevice.Step hmac) s (preparation raw rpId hash request) s')
    (hrpId : rpId = utf8 request.relyingPartyId) : s' raw = request.prepared hash := by
  obtain ⟨s₁, h₁, s₂, h₂, s₃, h₃, s₄, h₄, s₅, h₅, s₆, h₆, s₇, h₇, s₈, h₈, s₉, h₉, hend⟩ := h
  obtain rfl : s' = s₉ := hend
  have hnew : s₂ raw = {} := by
    obtain rfl : s₂ = Function.update s₁ raw {} := h₂
    rw [Function.update_self]
  rw [HmacDevice.Step.configured h₉, HmacDevice.Step.configured h₈, HmacDevice.Step.configured h₇,
    HmacDevice.Step.configured h₆, HmacDevice.Step.configured h₅, HmacDevice.Step.configured h₄,
    HmacDevice.Step.configured h₃, hnew, hrpId]
  rfl

/-- The device answered the prepared object with the output of its extension. -/
theorem signed_of_step {device : Handle} {pin : Option Pin} {hash : Bytes 32}
    (h : HmacDevice.Step hmac s ⟨.devGetAssert device raw pin, fidoOk⟩ s')
    (hprepared : s raw = request.prepared hash) :
    ∃ signed, (s' raw).signed = some signed ∧
      signed.secret = some (hmac signed.credentialId signed.verified request.salt) := by
  obtain ⟨data, rfl, hdata⟩ := h
  obtain ⟨signed, rfl, hcomputes⟩ := hdata rfl
  refine ⟨signed, by rw [Function.update_self], ?_⟩
  rw [hprepared] at hcomputes
  exact hcomputes rfl request.salt rfl

/-- The bytes behind a pointer are determined. -/
theorem PointsTo.eq {memory : Memory} {bytes bytes' : ByteString} (h : PointsTo (some memory) bytes)
    (hlength : bytes'.length = bytes.length) (hread : fromRawParts memory bytes'.length = bytes') :
    bytes' = bytes := by
  obtain ⟨memory', hsame, hbytes⟩ := h
  cases hsame
  rw [← hread, hlength, hbytes]

/-- **What passes the checks is the PRF of the request.** The flags say which secret was used, and the
id which credential signed. -/
theorem secret_of_path {key : Handle} {flags : UInt8} {memory secretMemory : Memory}
    {publicKey : Bytes 64} {id : ByteString} {policy : ExactPolicy} {salt secret : Bytes 32}
    {signed : Signed} (hsigned : (s raw).signed = some signed)
    (hcomputes : signed.secret = some (hmac signed.credentialId signed.verified salt))
    (hpath : Path (HmacDevice.Step hmac) s
      (identification raw id publicKey key flags memory ++ secretReads raw secretMemory) s')
    (hflags : FlagsExact flags policy) (hid : fromRawParts memory id.length = id)
    (hsecret : fromRawParts secretMemory 32 = secret.toList) :
    secret = hmac id (decide (policy = .userVerified)) salt := by
  obtain ⟨s₁, h₁, s₂, h₂, s₃, h₃, s₄, h₄, s₅, h₅, s₆, h₆, s₇, h₇, s₈, h₈, s₉, h₉, -⟩ := hpath
  -- none of these calls changes the object
  obtain rfl : s₁ = s := h₁
  obtain rfl : s₂ = s₁ := h₂
  obtain rfl : s₃ = s₂ := h₃
  obtain rfl : s₄ = s₃ := h₄
  obtain ⟨rfl, hflag⟩ := h₅
  obtain ⟨rfl, hlen⟩ := h₆
  obtain ⟨rfl, hpointer⟩ := h₇
  obtain ⟨rfl, -⟩ := h₈
  obtain ⟨rfl, hread⟩ := h₉
  have hverified : signed.verified = decide (policy = .userVerified) := by
    rw [← hflags.uv, ← (mask_eq_testBit flags).2.1, hflag signed hsigned]
    rfl
  have hcredential : id = signed.credentialId :=
    (hpointer signed hsigned).eq (hlen signed hsigned) hid
  have hbytes : secret.toList = (hmac signed.credentialId signed.verified salt).toList := by
    refine (hread signed hsigned _ hcomputes).eq ?_ ?_
    · rw [Bytes.length_eq, Bytes.length_eq]
    · rw [Bytes.length_eq]
      exact hsecret
  rw [Bytes.toList_inj.mp hbytes, hverified, ← hcredential]

/-- **The adapter evaluates the PRF of the requested credential**, whatever else the device does. -/
theorem runs_evaluate_hmac {self : Authenticator} {pin : Option Pin} {t : Trace libfido2}
    {secret : Bytes 32} (h : (self.evaluate request pin).run.Runs t (.ok secret))
    (hpath : Path (HmacDevice.Step hmac) s t s') :
    secret = hmac request.credentialId (decide (request.policy = .userVerified)) request.salt := by
  unfold Authenticator.evaluate at h
  simp only [↓Fallible.runs_except_bind_ok, Fallible.runs_bind_ok, ↓runs_call_bind_ok,
    runs_orFail_ok, require_eq_ok, runs_verifiedSecret_ok] at h
  obtain ⟨-, -, -, -, u, -, -, -, t₁, assertion, t₂, rfl, hprepare, status, t₃, rfl, t₄, -, t₅,
    rfl, ⟨rfl, rfl⟩, key, flags, memory, secretMemory, rfl, hflags, hid, hsecret⟩ := h
  obtain ⟨hash, rfl⟩ := runs_assertion_ok hprepare
  obtain ⟨s₁, hprepared, s₂, hstep, hrest⟩ := path_append.mp hpath
  obtain ⟨signed, hsigned, hcomputes⟩ := signed_of_step hstep (prepared_of_path hprepared rfl)
  exact secret_of_path hsigned hcomputes hrest hflags hid hsecret

theorem runs_evaluateManagedEnrollment_hmac {self : Authenticator} {credential : ManagedCredential}
    {pin : Pin} {t : Trace libfido2} {secret : Bytes 32}
    (h : (self.evaluateManagedEnrollment request credential pin).run.Runs t (.ok secret))
    (hpath : Path (HmacDevice.Step hmac) s t s') :
    secret = hmac request.credentialId (decide (request.policy = .userVerified)) request.salt := by
  unfold Authenticator.evaluateManagedEnrollment at h
  simp only [↓Fallible.runs_except_bind_ok, Fallible.runs_bind_ok, require_eq_ok,
    Fallible.runs_pure] at h
  obtain ⟨-, -, -, -, t₁, secret', t₂, rfl, hevaluate, t₃, u, t₄, rfl, -, rfl, hsecret⟩ := h
  cases hsecret
  obtain ⟨s₁, hpath₁, -⟩ := path_append.mp hpath
  exact runs_evaluate_hmac hevaluate hpath₁

end Objects

/-- **The adapter returns the PRF of the request.** Over a device with the `hmac-secret` extension,
whatever it signs and whatever fails, a secret that either entry point returns is the output of the
requested credential for the requested salt, with user verification exactly when the policy says so. -/
theorem evaluates_hmac_secret (hmac : HmacSecret) (self : Authenticator) (request : PrfRequest) :
    (∀ pin t s s' secret, (self.evaluate request pin).run.Runs t (.ok secret) →
      Path (HmacDevice.Step hmac) s t s' →
        secret = hmac request.credentialId (decide (request.policy = .userVerified))
          request.salt) ∧
    ∀ credential pin t s s' secret,
      (self.evaluateManagedEnrollment request credential pin).run.Runs t (.ok secret) →
      Path (HmacDevice.Step hmac) s t s' →
        secret = hmac request.credentialId (decide (request.policy = .userVerified))
          request.salt :=
  ⟨fun _ _ _ _ _ hrun hpath => runs_evaluate_hmac hrun hpath,
    fun _ _ _ _ _ _ hrun hpath => runs_evaluateManagedEnrollment_hmac hrun hpath⟩

/-! ## The authenticator of the vector -/

namespace Vector

/-- What the authenticator signs. -/
def signed : Signed where
  credentialId := credential.credentialId
  flags := 0x05
  secret := some secret

/-- Its extension: the secret for its credential, a verified user and the salt of the request, zero
for everything else. -/
def hmac : HmacSecret := fun credentialId verified salt =>
  if credentialId = credential.credentialId ∧ verified = true ∧ salt = request.salt then secret
  else Bytes.zero 32

/-- The assertion objects after a call. -/
def track (s : HmacDevice) : Event libfido2 → HmacDevice
  | ⟨.assertNew, some raw⟩ => Function.update s raw {}
  | ⟨.assertSet raw setting, _⟩ => Function.update s raw ((s raw).set setting)
  | ⟨.devGetAssert _ raw _, _⟩ => Function.update s raw { s raw with signed := some signed }
  | _ => s

def objects (past : Trace libfido2) : HmacDevice := past.foldl track fun _ => {}

/-- The object holds no other assertion. -/
def Only (data : AssertionData) : Prop := ∀ found, data.signed = some found → found = signed

theorem only_update {s : HmacDevice} {raw : Handle} {data : AssertionData} (h : ∀ raw, Only (s raw))
    (hdata : Only data) (other : Handle) : Only (Function.update s raw data other) := by
  by_cases hraw : other = raw
  · subst hraw
    rw [Function.update_self]
    exact hdata
  · rw [Function.update_of_ne hraw]
    exact h other

theorem objects_append (past : Trace libfido2) (event : Event libfido2) :
    objects (past ++ [event]) = track (objects past) event := by
  unfold objects
  rw [List.foldl_append]
  rfl

theorem only_objects (past : Trace libfido2) : ∀ raw, Only (objects past raw) := by
  induction past using List.reverseRecOn with
  | nil => exact fun raw found hfound => by cases hfound
  | append_singleton past event ih =>
      rw [objects_append]
      unfold track
      split
      · exact only_update ih fun found hfound => by cases hfound
      · rename_i raw setting status
        refine only_update ih fun found hfound => ih raw found ?_
        cases setting <;> exact hfound
      · refine only_update ih fun found hfound => ?_
        cases hfound
        rfl
      · exact ih

/-- The objects hold the salts that were set. -/
theorem salt_objects (past : Trace libfido2) (raw : Handle) :
    (objects past raw).salt = saltOf past raw := by
  induction past using List.reverseRecOn with
  | nil => rfl
  | append_singleton past event ih =>
      have hsalt : saltOf (past ++ [event]) raw = trackSalt raw (saltOf past raw) event := by
        unfold saltOf
        rw [List.foldl_append]
        rfl
      rw [objects_append, hsalt, ← ih]
      obtain ⟨query, reply⟩ := event
      cases query with
      | assertNew =>
          cases reply with
          | none => rfl
          | some created =>
              by_cases h : created = raw
              · subst h
                simp [track, trackSalt]
              · simp [track, trackSalt, h, Function.update_of_ne (Ne.symm h)]
      | assertSet set setting =>
          by_cases h : set = raw
          · subst h
            cases setting <;> simp [track, trackSalt, AssertionData.set]
          · cases setting <;> simp [track, trackSalt, h, Function.update_of_ne (Ne.symm h)]
      | devGetAssert device signing pin =>
          by_cases h : signing = raw
          · subst h
            simp [track, trackSalt]
          · simp [track, trackSalt, Function.update_of_ne (Ne.symm h)]
      | _ => rfl

/-- What the authenticator signs is the output of its extension. -/
theorem signed_computes {data : AssertionData} (h : data.salt.all (· == request.salt) = true) :
    signed.Computes hmac data := by
  intro _ salt hsalt
  rw [hsalt] at h
  obtain rfl : salt = request.salt := eq_of_beq h
  decide

/-- **The authenticator of the vector has the extension.** -/
theorem step_device_objects {past : Trace libfido2} {query : Query} {reply : query.Reply}
    (h : device past query = some reply) :
    HmacDevice.Step hmac (objects past) ⟨query, reply⟩ (objects (past ++ [⟨query, reply⟩])) := by
  rw [objects_append]
  have honly := only_objects past
  cases query with
  | assertNew =>
      cases h
      rfl
  | assertSet raw setting =>
      cases h
      exact ⟨_, rfl, fun _ => rfl⟩
  | devGetAssert device raw pin =>
      cases h
      refine ⟨_, rfl, fun hok => ⟨signed, rfl, signed_computes ?_⟩⟩
      rw [salt_objects]
      by_contra hsalt
      rw [if_neg hsalt] at hok
      cases hok
  | assertFlags raw index =>
      cases h
      cases index with
      | zero => exact ⟨rfl, fun found hfound => by rw [honly raw found hfound]; rfl⟩
      | succ index => rfl
  | assertIdLen raw index =>
      cases h
      cases index with
      | zero => exact ⟨rfl, fun found hfound => by rw [honly raw found hfound]; rfl⟩
      | succ index => rfl
  | assertIdPtr raw index =>
      cases h
      cases index with
      | zero =>
          refine ⟨rfl, fun found hfound => ?_⟩
          rw [honly raw found hfound]
          exact ⟨_, rfl, fromRawParts_of _⟩
      | succ index => rfl
  | assertHmacSecretLen raw index =>
      cases h
      cases index with
      | zero => exact ⟨rfl, fun _ _ _ _ => rfl⟩
      | succ index => rfl
  | assertHmacSecretPtr raw index =>
      cases h
      cases index with
      | zero =>
          refine ⟨rfl, fun found hfound output houtput => ?_⟩
          rw [honly raw found hfound] at houtput
          cases houtput
          exact ⟨_, rfl, fromRawParts_of _⟩
      | succ index => rfl
  | _ => rfl

end Vector

/-- Both entry points of the vector return the output of its extension. -/
theorem vector_evaluates_hmac_secret :
    (∃ t s s', (Vector.authenticator.evaluate Vector.request (some Vector.pin)).run.Runs t
        (.ok Vector.secret) ∧ Path (HmacDevice.Step Vector.hmac) s t s' ∧
        Vector.secret = Vector.hmac Vector.request.credentialId true Vector.request.salt) ∧
      ∃ t s s', (Vector.authenticator.evaluateManagedEnrollment Vector.request Vector.credential
          Vector.pin).run.Runs t (.ok Vector.secret) ∧
        Path (HmacDevice.Step Vector.hmac) s t s' ∧
        Vector.secret = Vector.hmac Vector.request.credentialId true Vector.request.salt := by
  have hevaluate : ((Vector.authenticator.evaluate Vector.request (some Vector.pin)).run.exec?
      Vector.device []).map Prod.snd = some (.ok Vector.secret) := by decide
  have hmanaged : ((Vector.authenticator.evaluateManagedEnrollment Vector.request Vector.credential
      Vector.pin).run.exec? Vector.device []).map Prod.snd = some (.ok Vector.secret) := by
    decide
  obtain ⟨⟨t, r⟩, hexec, rfl⟩ := Option.map_eq_some_iff.mp hevaluate
  obtain ⟨⟨u, r'⟩, hexec', rfl⟩ := Option.map_eq_some_iff.mp hmanaged
  have hpath : Path (HmacDevice.Step Vector.hmac) (Vector.objects []) t (Vector.objects ([] ++ t)) :=
    path_of_exec? (fun _ _ _ => Vector.step_device_objects) hexec
  have hpath' : Path (HmacDevice.Step Vector.hmac) (Vector.objects []) u (Vector.objects ([] ++ u)) :=
    path_of_exec? (fun _ _ _ => Vector.step_device_objects) hexec'
  have hrun := Program.runs_of_exec? hexec
  have hrun' := Program.runs_of_exec? hexec'
  obtain ⟨hfirst, hsecond⟩ := evaluates_hmac_secret Vector.hmac Vector.authenticator Vector.request
  exact ⟨⟨t, _, _, hrun, hpath, hfirst _ _ _ _ _ hrun hpath⟩,
    u, _, _, hrun', hpath', hsecond _ _ _ _ _ _ hrun' hpath'⟩

end FidoKeyWrap.Native
