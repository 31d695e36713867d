/-
# FidoKeyWrap.Native.Inventory — the management records of a relying party.

A managed credential is known by its relying party, user id, credential id, public key and
protection. `find` looks for it in the credential list a device returned: a record that shares
neither id is skipped, the one record that shares both must be the expected credential, and anything
else is a mismatch. `find_eq_ok_present` and `find_eq_ok_absent` say exactly which lists give which
answer.
-/
import FidoKeyWrap.Lib.Failure
import FidoKeyWrap.Native.Device

namespace FidoKeyWrap.Native

open ByteData Interact

/-- **`ManagedCredential`** — the complete identity of one managed discoverable credential. -/
structure ManagedCredential where
  relyingPartyId : String
  userId : ByteString
  credentialId : ByteString
  es256PublicKey : Bytes 64
  protection : CredentialProtection
  deriving DecidableEq

/-- **`PendingManagedCredential`** — a complete but unverified identity, bound to the authenticator
that made it. -/
structure PendingManagedCredential where
  relyingPartyId : String
  userId : ByteString
  credentialId : ByteString
  es256PublicKey : Bytes 64
  affinity : Nat
  deriving DecidableEq

/-- The identity was made on the authenticator with this affinity. -/
def PendingManagedCredential.belongsTo (self : PendingManagedCredential) (affinity : Nat) : Bool :=
  self.affinity = affinity

/-- What an enumeration says of one credential. -/
inductive ManagedPresence where
  | present
  | absent
  deriving DecidableEq

/-- What an enumeration looks for: a verified identity, or one that is not verified yet. -/
inductive InventoryExpectation where
  | exact (credential : ManagedCredential)
  | pending (credential : PendingManagedCredential)

namespace InventoryExpectation

/-- Where to look. -/
def relyingPartyId : InventoryExpectation → String
  | exact credential => credential.relyingPartyId
  | pending credential => credential.relyingPartyId

/-- The user id to find. -/
def userId : InventoryExpectation → ByteString
  | exact credential => credential.userId
  | pending credential => credential.userId

/-- The credential id to find. -/
def credentialId : InventoryExpectation → ByteString
  | exact credential => credential.credentialId
  | pending credential => credential.credentialId

/-- The key it must have. -/
def es256PublicKey : InventoryExpectation → Bytes 64
  | exact credential => credential.es256PublicKey
  | pending credential => credential.es256PublicKey

/-- The protection it must have; a pending identity does not know its own. -/
def protection : InventoryExpectation → Option CredentialProtection
  | exact credential => some credential.protection
  | pending _ => none

end InventoryExpectation

/-! ## The search -/

/-- Both ids or neither: one alone is a mismatch. -/
def managedIdentityMatches (actualId actualUserId : ByteString) (expected : InventoryExpectation) :
    Result Bool :=
  match decide (actualId = expected.credentialId), decide (actualUserId = expected.userId) with
  | false, false => .ok false
  | true, true => .ok true
  | _, _ => .error .credentialMismatch

/-- The new value of `found`. -/
def includeManagedMatch (found : Bool) (actualType actualProtection : Int32)
    (actualPublicKey : ByteString) (expected : InventoryExpectation) : Result Bool := do
  let protectionMatches := expected.protection.all fun protection =>
    actualProtection == protection.native
  require (¬ (found = true ∨ actualType ≠ coseEs256 ∨ protectionMatches = false ∨
    actualPublicKey ≠ expected.es256PublicKey.toList)) Error.credentialMismatch
  return true

/-- One record of the list. -/
def NativeCredential.examine (credential : NativeCredential) (expected : InventoryExpectation)
    (found : Bool) : Result Bool := do
  let id ← copyNativeBytes credential.id maxCredentialIdBytes
  let userId ← copyNativeBytes credential.userId maxUserIdBytes
  if ← managedIdentityMatches id userId expected then
    let publicKey ← copyNativeBytes credential.pubkey 64
    includeManagedMatch found credential.type credential.prot publicKey expected
  else return found

namespace NativeCredentialList

/-- The loop of `ManagedCredentials::find`. -/
def findFrom (self : NativeCredentialList) (expected : InventoryExpectation) :
    Bool → List Nat → Result Bool
  | found, [] => return found
  | found, index :: rest => do
    let credential ← okOr (self.rk index) Error.protocol
    let found ← credential.examine expected found
    self.findFrom expected found rest

/-- `ManagedCredentials::find`. -/
def find (self : NativeCredentialList) (expected : InventoryExpectation) :
    Result ManagedPresence := do
  require (¬ maxManagedCredentialsPerRp < self.count) Error.protocol
  let found ← self.findFrom expected false (List.range self.count)
  return if found then .present else .absent

end NativeCredentialList

/-! ## What the search answers -/

/-- **`Matching`** — the record is the expected credential. -/
structure NativeCredential.Matching (credential : NativeCredential)
    (expected : InventoryExpectation) : Prop where
  id : copyNativeBytes credential.id maxCredentialIdBytes = .ok expected.credentialId
  userId : copyNativeBytes credential.userId maxUserIdBytes = .ok expected.userId
  pubkey : copyNativeBytes credential.pubkey 64 = .ok expected.es256PublicKey.toList
  type : credential.type = coseEs256
  prot : ∀ protection, expected.protection = some protection →
    credential.prot = protection.native

/-- **`Unrelated`** — the record has neither id of the expected credential. -/
def NativeCredential.Unrelated (credential : NativeCredential) (expected : InventoryExpectation) :
    Prop :=
  ∃ id userId, copyNativeBytes credential.id maxCredentialIdBytes = .ok id ∧
    copyNativeBytes credential.userId maxUserIdBytes = .ok userId ∧
    id ≠ expected.credentialId ∧ userId ≠ expected.userId

section Search

variable {credential : NativeCredential} {list : NativeCredentialList}
  {expected : InventoryExpectation} {found b : Bool}

theorem managedIdentityMatches_eq_ok {id userId : ByteString} :
    managedIdentityMatches id userId expected = .ok b ↔
      (b = true ∧ id = expected.credentialId ∧ userId = expected.userId) ∨
        (b = false ∧ id ≠ expected.credentialId ∧ userId ≠ expected.userId) := by
  unfold managedIdentityMatches
  by_cases hid : id = expected.credentialId <;> by_cases huser : userId = expected.userId <;>
    simp [hid, huser, eq_comm]

theorem includeManagedMatch_eq_ok {type prot : Int32} {publicKey : ByteString} :
    includeManagedMatch found type prot publicKey expected = .ok b ↔
      b = true ∧ found = false ∧ type = coseEs256 ∧
        (∀ protection, expected.protection = some protection → prot = protection.native) ∧
        publicKey = expected.es256PublicKey.toList := by
  have hprotection : (expected.protection.all fun protection => prot == protection.native) = true ↔
      ∀ protection, expected.protection = some protection → prot = protection.native := by
    cases expected.protection <;> simp
  unfold includeManagedMatch
  simp only [except_bind_eq_ok, require_eq_ok, except_pure_eq_ok, not_or, not_not, ne_eq,
    Bool.not_eq_true, Bool.not_eq_false, hprotection]
  tauto

/-- A record is either skipped or the first match. -/
theorem examine_eq_ok :
    credential.examine expected found = .ok b ↔
      (credential.Unrelated expected ∧ b = found) ∨
        (credential.Matching expected ∧ found = false ∧ b = true) := by
  unfold NativeCredential.examine
  simp only [except_bind_eq_ok]
  constructor
  · rintro ⟨id, hid, userId, huserId, same, hsame, hrest⟩
    rcases managedIdentityMatches_eq_ok.mp hsame with ⟨rfl, rfl, rfl⟩ | ⟨rfl, hne, hne'⟩
    · obtain ⟨publicKey, hkey, hmatch⟩ := except_bind_eq_ok.mp hrest
      obtain ⟨rfl, hfound, htype, hprot, rfl⟩ := includeManagedMatch_eq_ok.mp hmatch
      exact .inr ⟨⟨hid, huserId, hkey, htype, hprot⟩, hfound, rfl⟩
    · exact .inl ⟨⟨id, userId, hid, huserId, hne, hne'⟩, except_pure_eq_ok.mp hrest⟩
  · rintro (⟨⟨id, userId, hid, huserId, hne, hne'⟩, rfl⟩ | ⟨h, rfl, rfl⟩)
    · exact ⟨id, hid, userId, huserId, false,
        managedIdentityMatches_eq_ok.mpr (.inr ⟨rfl, hne, hne'⟩), rfl⟩
    · refine ⟨_, h.id, _, h.userId, true,
        managedIdentityMatches_eq_ok.mpr (.inl ⟨rfl, rfl, rfl⟩), ?_⟩
      exact except_bind_eq_ok.mpr ⟨_, h.pubkey,
        includeManagedMatch_eq_ok.mpr ⟨rfl, rfl, h.type, h.prot, rfl⟩⟩

/-- The record at an index is skipped. -/
def NativeCredentialList.Skips (list : NativeCredentialList) (expected : InventoryExpectation)
    (index : Nat) : Prop :=
  ∃ credential, list.rk index = some credential ∧ credential.Unrelated expected

/-- The record at an index is the expected credential. -/
def NativeCredentialList.Matches (list : NativeCredentialList) (expected : InventoryExpectation)
    (index : Nat) : Prop :=
  ∃ credential, list.rk index = some credential ∧ credential.Matching expected

/-- The loop skips every record but one at most. -/
theorem findFrom_eq_ok {indices : List Nat} :
    list.findFrom expected found indices = .ok b ↔
      (b = found ∧ ∀ index ∈ indices, list.Skips expected index) ∨
        (found = false ∧ b = true ∧ ∃ before index after, indices = before ++ index :: after ∧
          list.Matches expected index ∧ ∀ other ∈ before ++ after, list.Skips expected other) := by
  induction indices generalizing found with
  | nil => simp [NativeCredentialList.findFrom]
  | cons index rest ih =>
      simp only [NativeCredentialList.findFrom, except_bind_eq_ok, okOr_eq_ok, examine_eq_ok, ih]
      constructor
      · rintro ⟨credential, hrk, found', ⟨hskip, rfl⟩ | ⟨hmatch, rfl, rfl⟩, hrest⟩
        · have hhead : list.Skips expected index := ⟨credential, hrk, hskip⟩
          rcases hrest with ⟨rfl, hall⟩ | ⟨hfound, hb, before, i, after, rfl, hi, hothers⟩
          · exact .inl ⟨rfl, List.forall_mem_cons.mpr ⟨hhead, hall⟩⟩
          · exact .inr ⟨hfound, hb, index :: before, i, after, rfl, hi,
              List.forall_mem_cons.mpr ⟨hhead, hothers⟩⟩
        · rcases hrest with ⟨rfl, hall⟩ | ⟨hfound, -⟩
          · exact .inr ⟨rfl, rfl, [], index, rest, rfl, ⟨credential, hrk, hmatch⟩, hall⟩
          · cases hfound
      · rintro (⟨rfl, hall⟩ | ⟨rfl, rfl, before, i, after, hsplit, hi, hothers⟩)
        · obtain ⟨⟨credential, hrk, hskip⟩, hrest⟩ := List.forall_mem_cons.mp hall
          exact ⟨credential, hrk, b, .inl ⟨hskip, rfl⟩, .inl ⟨rfl, hrest⟩⟩
        · cases before with
          | nil =>
              obtain ⟨rfl, rfl⟩ := List.cons.inj hsplit
              obtain ⟨credential, hrk, hmatch⟩ := hi
              exact ⟨credential, hrk, true, .inr ⟨hmatch, rfl, rfl⟩, .inl ⟨rfl, hothers⟩⟩
          | cons head before =>
              obtain ⟨rfl, rfl⟩ := List.cons.inj hsplit
              obtain ⟨⟨credential, hrk, hskip⟩, hrest⟩ := List.forall_mem_cons.mp hothers
              exact ⟨credential, hrk, false, .inl ⟨hskip, rfl⟩,
                .inr ⟨rfl, rfl, before, i, after, rfl, hi, hrest⟩⟩

/-- **`Shows list expected`** — the list shows exactly the expected record: one record is it, and no
other record has either of its ids. -/
def NativeCredentialList.Shows (list : NativeCredentialList) (expected : InventoryExpectation) :
    Prop :=
  ∃ index < list.count, list.Matches expected index ∧
    ∀ other < list.count, other ≠ index → list.Skips expected other

theorem find_eq_ok_absent :
    list.find expected = .ok .absent ↔
      list.count ≤ maxManagedCredentialsPerRp ∧ ∀ index < list.count, list.Skips expected index := by
  unfold NativeCredentialList.find
  simp only [except_bind_eq_ok, require_eq_ok, not_lt, except_pure_eq_ok]
  constructor
  · rintro ⟨-, hcount, found, hfound, habsent⟩
    cases found with
    | true => cases habsent
    | false =>
        rcases findFrom_eq_ok.mp hfound with ⟨-, hall⟩ | ⟨-, hb, -⟩
        · exact ⟨hcount, fun index h => hall index (List.mem_range.mpr h)⟩
        · cases hb
  · rintro ⟨hcount, hall⟩
    refine ⟨(), hcount, false, findFrom_eq_ok.mpr (.inl ⟨rfl, fun index h => ?_⟩), rfl⟩
    exact hall index (List.mem_range.mp h)

theorem find_eq_ok_present :
    list.find expected = .ok .present ↔
      list.count ≤ maxManagedCredentialsPerRp ∧ list.Shows expected := by
  unfold NativeCredentialList.find
  simp only [except_bind_eq_ok, require_eq_ok, not_lt, except_pure_eq_ok]
  constructor
  · rintro ⟨-, hcount, found, hfound, hpresent⟩
    cases found with
    | false => cases hpresent
    | true =>
        rcases findFrom_eq_ok.mp hfound with ⟨hb, -⟩ | ⟨-, -, before, index, after, hsplit, hi, hothers⟩
        · cases hb
        · have hmem : index ∈ List.range list.count := hsplit ▸ by simp
          refine ⟨hcount, index, List.mem_range.mp hmem, hi, fun other hother hne => hothers other ?_⟩
          have hother : other ∈ before ++ index :: after := hsplit ▸ List.mem_range.mpr hother
          simpa [hne] using hother
  · rintro ⟨hcount, index, hindex, hi, hothers⟩
    obtain ⟨before, after, hsplit⟩ := List.append_of_mem (List.mem_range.mpr hindex)
    have hnodup : (before ++ index :: after).Nodup := hsplit ▸ List.nodup_range
    have hfresh : index ∉ before ++ after := (List.nodup_middle.mp hnodup).notMem
    refine ⟨(), hcount, true, findFrom_eq_ok.mpr (.inr ⟨rfl, rfl, before, index, after, hsplit, hi,
      fun other hother => ?_⟩), rfl⟩
    have hmem : other ∈ List.range list.count := by
      rw [hsplit]
      simp only [List.mem_append, List.mem_cons] at hother ⊢
      tauto
    exact hothers other (List.mem_range.mp hmem) fun h => hfresh (h ▸ hother)

/-! ## Every answer -/

/-- The bytes are there, and between 1 and `maxLen` of them. -/
def NativeBytes.Shaped (bytes : NativeBytes) (maxLen : Nat) : Prop :=
  bytes.pointer ≠ none ∧ 1 ≤ bytes.len ∧ bytes.len ≤ maxLen

theorem exists_copyNativeBytes_iff {bytes : NativeBytes} {maxLen : Nat} :
    (∃ value, copyNativeBytes bytes maxLen = .ok value) ↔ bytes.Shaped maxLen := by
  unfold copyNativeBytes NativeBytes.Shaped
  cases bytes.pointer with
  | none => simp
  | some memory =>
      by_cases h : bytes.len = 0 ∨ maxLen < bytes.len
      · simp only [if_pos h, reduceCtorEq, exists_false, false_iff, not_and, not_le]
        omega
      · simp only [if_neg h, Except.ok.injEq, exists_eq', ne_eq, reduceCtorEq, not_false_eq_true,
          true_and, true_iff]
        omega

/-- The record has the expected credential id. -/
def NativeCredential.HasId (credential : NativeCredential) (expected : InventoryExpectation) :
    Prop :=
  copyNativeBytes credential.id maxCredentialIdBytes = .ok expected.credentialId

/-- The record has the expected user id. -/
def NativeCredential.HasUserId (credential : NativeCredential)
    (expected : InventoryExpectation) : Prop :=
  copyNativeBytes credential.userId maxUserIdBytes = .ok expected.userId

/-- The record is an ES256 credential with the expected key and, where one is expected, the
expected protection. -/
structure NativeCredential.Genuine (credential : NativeCredential)
    (expected : InventoryExpectation) : Prop where
  type : credential.type = coseEs256
  pubkey : copyNativeBytes credential.pubkey 64 = .ok expected.es256PublicKey.toList
  prot : ∀ protection, expected.protection = some protection →
    credential.prot = protection.native

/-- **`WellShaped`** — the fields that the search reads are within their bounds: both ids, and the
key of a record that has both expected ids. -/
structure NativeCredential.WellShaped (credential : NativeCredential)
    (expected : InventoryExpectation) : Prop where
  id : credential.id.Shaped maxCredentialIdBytes
  userId : credential.userId.Shaped maxUserIdBytes
  pubkey : credential.HasId expected → credential.HasUserId expected →
    credential.pubkey.Shaped 64

/-- The record at an index is there and satisfies `P`. -/
def NativeCredentialList.At (list : NativeCredentialList) (index : Nat)
    (P : NativeCredential → Prop) : Prop :=
  ∃ credential, list.rk index = some credential ∧ P credential

theorem matching_iff : credential.Matching expected ↔
    credential.HasId expected ∧ credential.HasUserId expected ∧ credential.Genuine expected := by
  constructor
  · intro h
    exact ⟨h.id, h.userId, h.type, h.pubkey, h.prot⟩
  · rintro ⟨hid, huser, hgenuine⟩
    exact ⟨hid, huser, hgenuine.pubkey, hgenuine.type, hgenuine.prot⟩

/-- A record with an id of each kind is unrelated when neither is the expected one. -/
theorem unrelated_iff (hid : credential.id.Shaped maxCredentialIdBytes)
    (huser : credential.userId.Shaped maxUserIdBytes) : credential.Unrelated expected ↔
      ¬ credential.HasId expected ∧ ¬ credential.HasUserId expected := by
  obtain ⟨id, hid⟩ := exists_copyNativeBytes_iff.mpr hid
  obtain ⟨userId, huser⟩ := exists_copyNativeBytes_iff.mpr huser
  unfold NativeCredential.Unrelated NativeCredential.HasId NativeCredential.HasUserId
  simp only [hid, huser, Except.ok.injEq]
  constructor
  · rintro ⟨id', userId', rfl, rfl, hne⟩
    exact hne
  · intro hne
    exact ⟨id, userId, rfl, rfl, hne⟩

/-- What the search skips or takes is well-shaped. -/
theorem wellShaped_of_examined
    (h : credential.Unrelated expected ∨ credential.Matching expected) :
    credential.WellShaped expected := by
  rcases h with ⟨id, userId, hid, huser, hne, -⟩ | hmatch
  · refine ⟨exists_copyNativeBytes_iff.mp ⟨id, hid⟩, exists_copyNativeBytes_iff.mp ⟨userId, huser⟩,
      fun hsame _ => ?_⟩
    exact absurd (Except.ok.inj (hid.symm.trans hsame)) hne
  · exact ⟨exists_copyNativeBytes_iff.mp ⟨_, hmatch.id⟩,
      exists_copyNativeBytes_iff.mp ⟨_, hmatch.userId⟩,
      fun _ _ => exists_copyNativeBytes_iff.mp ⟨_, hmatch.pubkey⟩⟩

theorem errors_managedIdentityMatches {id userId : ByteString} :
    Errors (managedIdentityMatches id userId expected) (· = .credentialMismatch) := by
  intro e h
  unfold managedIdentityMatches at h
  split at h
  · cases h
  · cases h
  · cases h
    rfl

/-- A well-shaped record fails the search only as a mismatch. -/
theorem errors_examine (hshape : credential.WellShaped expected) :
    Errors (credential.examine expected found) (· = .credentialMismatch) := by
  refine errors_bind (errors_ok (exists_copyNativeBytes_iff.mpr hshape.id)) fun id hid => ?_
  refine errors_bind (errors_ok (exists_copyNativeBytes_iff.mpr hshape.userId)) fun userId huser => ?_
  refine errors_bind errors_managedIdentityMatches fun same hsame => ?_
  rcases managedIdentityMatches_eq_ok.mp hsame with ⟨rfl, rfl, rfl⟩ | ⟨rfl, -, -⟩
  · have hkey := exists_copyNativeBytes_iff.mpr (hshape.pubkey hid huser)
    refine errors_bind (errors_ok hkey) fun publicKey _ => ?_
    exact errors_bind (errors_require rfl) fun _ _ => errors_ok ⟨true, rfl⟩
  · exact errors_ok ⟨found, rfl⟩

theorem errors_findFrom {indices : List Nat}
    (hshape : ∀ index ∈ indices, list.At index fun c => c.WellShaped expected) :
    Errors (list.findFrom expected found indices) (· = .credentialMismatch) := by
  induction indices generalizing found with
  | nil => exact errors_ok ⟨found, rfl⟩
  | cons index rest ih =>
      obtain ⟨⟨credential, hrk, hcredential⟩, hrest⟩ := List.forall_mem_cons.mp hshape
      refine errors_bind (errors_ok ⟨credential, okOr_eq_ok.mpr hrk⟩) fun credential' h => ?_
      obtain rfl : credential = credential' := Option.some.inj (hrk.symm.trans (okOr_eq_ok.mp h))
      refine errors_bind (errors_examine hcredential) fun found' _ => ?_
      exact ih hrest

/-- Exactly one record has both ids, it is genuine, and no other record has either id. -/
def NativeCredentialList.HasOne (list : NativeCredentialList) (expected : InventoryExpectation) :
    Prop :=
  ∃ index < list.count,
    list.At index (fun c => c.HasId expected ∧ c.HasUserId expected ∧ c.Genuine expected) ∧
      ∀ other < list.count, other ≠ index →
        list.At other fun c => ¬ c.HasId expected ∧ ¬ c.HasUserId expected

/-- No record has either id. -/
def NativeCredentialList.HasNone (list : NativeCredentialList) (expected : InventoryExpectation) :
    Prop :=
  ∀ index < list.count, list.At index fun c => ¬ c.HasId expected ∧ ¬ c.HasUserId expected

/-- The list is not too long, and every record of it is there and well-shaped. -/
structure NativeCredentialList.WellFormed (list : NativeCredentialList)
    (expected : InventoryExpectation) : Prop where
  bounded : list.count ≤ maxManagedCredentialsPerRp
  shaped : ∀ index < list.count, list.At index fun c => c.WellShaped expected

theorem NativeCredentialList.At.skips_iff {index : Nat}
    (h : list.At index fun c => c.WellShaped expected) : list.Skips expected index ↔
      list.At index fun c => ¬ c.HasId expected ∧ ¬ c.HasUserId expected := by
  obtain ⟨credential, hrk, hshape⟩ := h
  unfold NativeCredentialList.Skips NativeCredentialList.At
  simp only [hrk, Option.some.injEq, exists_eq_left']
  exact unrelated_iff hshape.id hshape.userId

theorem present_iff_hasOne (h : list.WellFormed expected) :
    list.find expected = .ok .present ↔ list.HasOne expected := by
  rw [find_eq_ok_present, NativeCredentialList.Shows, NativeCredentialList.HasOne,
    and_iff_right h.bounded]
  refine exists_congr fun index => and_congr_right fun hindex => and_congr ?_ ?_
  · exact exists_congr fun credential => and_congr_right fun _ => matching_iff
  · exact forall₂_congr fun other hother => imp_congr_right fun _ => (h.shaped other hother).skips_iff

theorem absent_iff_hasNone (h : list.WellFormed expected) :
    list.find expected = .ok .absent ↔ list.HasNone expected := by
  rw [find_eq_ok_absent, NativeCredentialList.HasNone, and_iff_right h.bounded]
  exact forall₂_congr fun index hindex => (h.shaped index hindex).skips_iff

/-- A list that gets an answer is well-formed. -/
theorem wellFormed_of_find {presence : ManagedPresence} (h : list.find expected = .ok presence) :
    list.WellFormed expected := by
  have hskips {index : Nat} (h : list.Skips expected index) :
      list.At index fun c => c.WellShaped expected := by
    obtain ⟨credential, hrk, hunrelated⟩ := h
    exact ⟨credential, hrk, wellShaped_of_examined (.inl hunrelated)⟩
  cases presence with
  | absent =>
      obtain ⟨hbounded, hall⟩ := find_eq_ok_absent.mp h
      exact ⟨hbounded, fun index hindex => hskips (hall index hindex)⟩
  | present =>
      obtain ⟨hbounded, index, hindex, ⟨credential, hrk, hmatch⟩, hothers⟩ :=
        find_eq_ok_present.mp h
      refine ⟨hbounded, fun other hother => ?_⟩
      by_cases hsame : other = index
      · subst hsame
        exact ⟨credential, hrk, wellShaped_of_examined (.inr hmatch)⟩
      · exact hskips (hothers other hother hsame)

/-- **The search gives the one answer that is true of the list**: present, absent, or a mismatch
wherever the offending records are. A list that is too long or has a malformed record gets an
error. -/
theorem find_answers (list : NativeCredentialList) (expected : InventoryExpectation) :
    (list.WellFormed expected →
      (list.find expected = .ok .present ↔ list.HasOne expected) ∧
      (list.find expected = .ok .absent ↔ list.HasNone expected) ∧
      (list.find expected = .error .credentialMismatch ↔
        ¬ list.HasOne expected ∧ ¬ list.HasNone expected)) ∧
    (¬ list.WellFormed expected → ∃ error, list.find expected = .error error) := by
  constructor
  · intro h
    have hpresent := present_iff_hasOne h
    have habsent := absent_iff_hasNone h
    refine ⟨hpresent, habsent, ?_⟩
    rw [← hpresent, ← habsent]
    have herrors : Errors (list.find expected) (· = .credentialMismatch) := by
      refine errors_bind (errors_ok ⟨(), require_eq_ok.mpr (not_lt.mpr h.bounded)⟩) fun _ _ => ?_
      refine errors_bind (errors_findFrom fun index hindex => ?_) fun _ _ => errors_ok ⟨_, rfl⟩
      exact h.shaped index (List.mem_range.mp hindex)
    cases hfind : list.find expected with
    | error e =>
        obtain rfl := herrors e hfind
        simp
    | ok presence => cases presence <;> simp
  · intro h
    cases hfind : list.find expected with
    | error e => exact ⟨e, rfl⟩
    | ok presence => exact absurd (wellFormed_of_find hfind) h

end Search

namespace Vector

/-- A managed credential with short ids. -/
def credential : ManagedCredential where
  relyingPartyId := "vault.example"
  userId := (Bytes.ofNat 32 5).toList
  credentialId := [0x61, 0x62, 0x63]
  es256PublicKey := Bytes.ofNat 64 9
  protection := .userVerificationRequired

/-- The credential as libfido2 returns it, self-attested. -/
def nativeCredential : NativeCredential where
  fmt := some (utf8 "packed")
  type := coseEs256
  prot := credential.protection.native
  flags := 0x45
  id := inMemory credential.credentialId
  userId := inMemory credential.userId
  pubkey := inMemory credential.es256PublicKey.toList
  x5c := ⟨none, 0⟩
  verify := fidoErrInvalidSig
  verifySelf := fidoOk

/-- A credential with neither of its ids. -/
def otherCredential : NativeCredential where
  fmt := some (utf8 "packed")
  type := coseEs256
  prot := credential.protection.native
  flags := 0x45
  id := inMemory [0x78, 0x79]
  userId := inMemory (Bytes.ofNat 32 6).toList
  pubkey := inMemory (Bytes.ofNat 64 10).toList
  x5c := ⟨none, 0⟩
  verify := fidoErrInvalidSig
  verifySelf := fidoOk

/-- Two records, the second of them the given one. -/
def listing (second : NativeCredential) : NativeCredentialList where
  count := 2
  rk index := some (if index = 0 then otherCredential else second)

/-- A new credential under the user id. -/
def reissued : NativeCredential := { nativeCredential with id := inMemory [0x78] }

/-- A credential whose user id is missing. -/
def nameless : NativeCredential := { nativeCredential with userId := ⟨none, 32⟩ }

theorem shaped_inMemory {bytes : ByteString} {maxLen : Nat}
    (h : 1 ≤ bytes.length ∧ bytes.length ≤ maxLen) : (inMemory bytes).Shaped maxLen :=
  ⟨by simp [inMemory], h⟩

/-- A listing is well-formed when its second record is well-shaped. -/
theorem wellFormed_listing {second : NativeCredential}
    (h : second.WellShaped (.exact credential)) :
    (listing second).WellFormed (.exact credential) where
  bounded := show 2 ≤ maxManagedCredentialsPerRp by decide
  shaped index _ := by
    by_cases hfirst : index = 0
    · subst hfirst
      exact ⟨otherCredential, rfl, shaped_inMemory (by decide), shaped_inMemory (by decide),
        fun _ _ => shaped_inMemory (by decide)⟩
    · exact ⟨second, congrArg some (if_neg hfirst), h⟩

theorem other_unrelated : ¬ otherCredential.HasId (.exact credential) ∧
    ¬ otherCredential.HasUserId (.exact credential) := by
  unfold NativeCredential.HasId NativeCredential.HasUserId
  decide

/-- **The search at three listings**: the credential is found behind another one; under its user id
another credential is a mismatch; a record without a user id is an error. -/
theorem listing_found :
    (listing nativeCredential).find (.exact credential) = .ok .present ∧
      (listing reissued).find (.exact credential) = .error .credentialMismatch ∧
        ∃ error, (listing nameless).find (.exact credential) = .error error := by
  refine ⟨?_, ?_, ?_⟩
  · have hwell : (listing nativeCredential).WellFormed (.exact credential) :=
      wellFormed_listing ⟨shaped_inMemory (by decide), shaped_inMemory (by decide),
        fun _ _ => shaped_inMemory (by decide)⟩
    refine ((find_answers (listing nativeCredential) (.exact credential)).1 hwell).1.mpr ?_
    refine ⟨1, by decide, ⟨nativeCredential, rfl, rfl, rfl, rfl, rfl, ?_⟩, ?_⟩
    · intro protection hprotection
      cases hprotection
      rfl
    · intro other hother hne
      obtain rfl : other = 0 := by change other < 2 at hother; omega
      exact ⟨otherCredential, rfl, other_unrelated⟩
  · have hwell : (listing reissued).WellFormed (.exact credential) :=
      wellFormed_listing ⟨shaped_inMemory (by decide), shaped_inMemory (by decide),
        fun _ _ => shaped_inMemory (by decide)⟩
    have hsecond : ¬ reissued.HasId (.exact credential) ∧ reissued.HasUserId (.exact credential) := by
      unfold NativeCredential.HasId NativeCredential.HasUserId
      decide
    refine ((find_answers (listing reissued) (.exact credential)).1 hwell).2.2.mpr ⟨?_, ?_⟩
    · rintro ⟨index, -, ⟨record, hrk, hid, -, -⟩, -⟩
      -- neither record has the credential id
      by_cases hfirst : index = 0
      · subst hfirst
        cases hrk
        exact other_unrelated.1 hid
      · obtain rfl : reissued = record :=
          Option.some.inj ((congrArg some (if_neg hfirst)).symm.trans hrk)
        exact hsecond.1 hid
    · intro hnone
      obtain ⟨record, hrk, -, huser⟩ := hnone 1 (by decide)
      cases hrk
      exact huser hsecond.2
  · refine (find_answers (listing nameless) (.exact credential)).2 fun hwell => ?_
    obtain ⟨record, hrk, hshape⟩ := hwell.shaped 1 (by decide)
    cases hrk
    exact hshape.userId.1 rfl

end Vector

end FidoKeyWrap.Native
