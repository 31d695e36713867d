/-
# FidoKeyWrap.HardwareInventory — what a search finds among the credentials of a device in memory.

The enumeration of `Hardware` lists the managed credentials of one application. So the search of the
adapter answers present when the device holds the credential with every field as expected and no
other managed credential has its user (`Listed`), absent when nothing has its id or its user
(`Unlisted`), and a mismatch otherwise (`presenceOf_inventory`).
-/
import FidoKeyWrap.FakeInventory
import FidoKeyWrap.Hardware

namespace FidoKeyWrap

open ByteData Interact
open Native (NativeCredential fidoOk fidoErrNoCredentials)

/-! ## The credential of a binding -/

namespace CredentialBinding

variable (binding : CredentialBinding) (credentials : Credentials)

/-- The device holds the credential, for the application of the binding. -/
structure Holds (credential : FakeCredential) : Prop where
  lookup : credentials.lookup binding.credentialId = some credential
  application : credential.applicationId = binding.applicationId.asStr

/-- The credential was enrolled as the binding says. -/
structure Fits (credential : FakeCredential) : Prop where
  storage : credential.storage = .managed
  user : credential.userId = some binding.recipientId
  policy : credential.enrollmentPolicy = binding.policy

/-- The device holds another managed credential of the application and the user. -/
def Shared : Prop :=
  ∃ id credential, id ≠ binding.credentialId ∧ credentials.lookup id = some credential ∧
    credential.applicationId = binding.applicationId.asStr ∧ credential.storage = .managed ∧
    credential.userId = some binding.recipientId

/-- **`Listed`** — the device holds exactly the credential, alone with its user. -/
def Listed : Prop :=
  (∃ credential, binding.Holds credentials credential ∧ binding.Fits credential ∧
    credential.publicKey = binding.publicKey) ∧ ¬ binding.Shared credentials

/-- **`Unlisted`** — no managed credential of the application has the id or the user. -/
def Unlisted : Prop :=
  (∀ credential, binding.Holds credentials credential → credential.storage ≠ .managed) ∧
    ¬ binding.Shared credentials

end CredentialBinding

namespace Hardware

/-! ## One record -/

section Record

variable {entry : Σ _ : ByteString, FakeCredential} {binding : CredentialBinding}
  {bytes : ByteString} {maxLen : Nat}

theorem copyNativeBytes_inMemory (hmin : 1 ≤ bytes.length) (hmax : bytes.length ≤ maxLen) :
    Native.copyNativeBytes (Native.inMemory bytes) maxLen = .ok bytes := by
  have hbounds : ¬ (bytes.length = 0 ∨ maxLen < bytes.length) := by omega
  show (if bytes.length = 0 ∨ maxLen < bytes.length then Except.error Native.Error.protocol
    else .ok (Native.fromRawParts (Native.Memory.of bytes) bytes.length)) = .ok bytes
  rw [if_neg hbounds, Native.fromRawParts_of]

/-- The expected credential of a binding. -/
abbrev expectation (binding : CredentialBinding) : Native.InventoryExpectation :=
  .exact (nativeManagedCredential binding)

/-- The record of an entry that a device can have. -/
structure Regular (entry : Σ _ : ByteString, FakeCredential) : Prop where
  id : ∃ n, entry.1 = FakeBackend.credentialId n
  user : ∃ user, entry.2.userId = some user

theorem copy_id (h : Regular entry) :
    Native.copyNativeBytes (record entry).id Native.maxCredentialIdBytes = .ok entry.1 := by
  obtain ⟨n, hn⟩ := h.id
  have hlength : entry.1.length = 32 := hn ▸ FakeBackend.length_credentialId n
  refine copyNativeBytes_inMemory ?_ ?_ <;> rw [hlength] <;> decide

theorem copy_userId {user : RecipientId} (h : entry.2.userId = some user) :
    Native.copyNativeBytes (record entry).userId Native.maxUserIdBytes =
      .ok user.asBytes.toList := by
  have hlength : user.asBytes.toList.length = 32 := user.asBytes.length_eq
  have huser : (record entry).userId = Native.inMemory user.asBytes.toList := by
    rw [record, h]
    rfl
  rw [huser]
  refine copyNativeBytes_inMemory ?_ ?_ <;> rw [hlength] <;> decide

theorem copy_pubkey : Native.copyNativeBytes (record entry).pubkey 64 =
    .ok entry.2.publicKey.asBytes.toList := by
  have hlength : entry.2.publicKey.asBytes.toList.length = 64 := entry.2.publicKey.asBytes.length_eq
  exact copyNativeBytes_inMemory (by omega) hlength.le

theorem hasId_iff (h : Regular entry) :
    (record entry).HasId (expectation binding) ↔ entry.1 = binding.credentialId := by
  unfold Native.NativeCredential.HasId
  rw [copy_id h, Except.ok.injEq]
  rfl

theorem hasUserId_iff (h : Regular entry) :
    (record entry).HasUserId (expectation binding) ↔
      entry.2.userId = some binding.recipientId := by
  obtain ⟨user, huser⟩ := h.user
  unfold Native.NativeCredential.HasUserId
  rw [copy_userId huser, huser, Except.ok.injEq, Option.some.injEq]
  constructor
  · intro hbytes
    exact RecipientId.ext (Bytes.ext hbytes)
  · rintro rfl
    rfl

theorem nativeProtection_inj {policy policy' : FidoPolicy} :
    (nativeProtection policy).native = (nativeProtection policy').native ↔ policy = policy' := by
  cases policy <;> cases policy' <;> decide

theorem genuine_iff : (record entry).Genuine (expectation binding) ↔
    entry.2.publicKey = binding.publicKey ∧ entry.2.enrollmentPolicy = binding.policy := by
  constructor
  · rintro ⟨-, hkey, hprot⟩
    rw [copy_pubkey, Except.ok.injEq] at hkey
    refine ⟨PublicKey64.ext (Bytes.ext hkey), ?_⟩
    exact nativeProtection_inj.mp (hprot _ rfl)
  · rintro ⟨hkey, hpolicy⟩
    refine ⟨rfl, ?_, fun protection hprotection => ?_⟩
    · rw [copy_pubkey, hkey]
      rfl
    · cases hprotection
      exact nativeProtection_inj.mpr hpolicy

theorem wellShaped_record (h : Regular entry) : (record entry).WellShaped (expectation binding) := by
  obtain ⟨user, huser⟩ := h.user
  exact ⟨Native.exists_copyNativeBytes_iff.mp ⟨_, copy_id h⟩,
    Native.exists_copyNativeBytes_iff.mp ⟨_, copy_userId huser⟩,
    fun _ _ => Native.exists_copyNativeBytes_iff.mp ⟨_, copy_pubkey⟩⟩

end Record

/-! ## The list -/

section List

variable {listing : Listing} {device : FakeDevice} {binding : CredentialBinding}
  {relyingParty : ByteString} {entry : Σ _ : ByteString, FakeCredential} {retries : Int32 × Int32}

theorem mem_listed {credentials : Credentials} : entry ∈ listed listing credentials relyingParty ↔
    credentials.lookup entry.1 = some entry.2 ∧ entry.2.storage = .managed ∧
      utf8 entry.2.applicationId = relyingParty := by
  have hmem : entry ∈ listing.entries credentials ↔ credentials.lookup entry.1 = some entry.2 := by
    rw [Finmap.lookup_eq_some_iff, ← listing.complete credentials, Multiset.mem_coe]
  simp only [listed, List.mem_filter, hmem, decide_eq_true_eq]

/-- The credentials of the application. -/
theorem mem_listed_application {credentials : Credentials} :
    entry ∈ listed listing credentials (utf8 binding.applicationId.asStr) ↔
      credentials.lookup entry.1 = some entry.2 ∧ entry.2.storage = .managed ∧
        entry.2.applicationId = binding.applicationId.asStr := by
  rw [mem_listed, utf8_inj]

theorem nodup_listed {credentials : Credentials} :
    (listed listing credentials relyingParty).Nodup := by
  refine List.Nodup.filter _ (Multiset.coe_nodup.mp ?_)
  rw [listing.complete credentials]
  exact credentials.nodup_entries

theorem length_listed_le (h : device.Shaped) :
    (listed listing device.credentials relyingParty).length ≤
      Native.maxManagedCredentialsPerRp := by
  have hsub : (listed listing device.credentials relyingParty).length ≤ device.managedCount := by
    rw [FakeDevice.managedCount, ← listing.complete device.credentials, Multiset.coe_countP,
      listed, ← List.countP_eq_length_filter]
    refine List.countP_mono_left fun entry _ hentry => ?_
    exact decide_eq_true (of_decide_eq_true hentry).1
  exact hsub.trans (h.bounded.trans (by decide))

/-- What a device lists has an id and a user. -/
theorem regular_of_listed (h : device.Shaped)
    (hentry : entry ∈ listed listing device.credentials relyingParty) : Regular entry := by
  obtain ⟨hlookup, hstorage, -⟩ := mem_listed.mp hentry
  exact ⟨h.ids _ _ hlookup, h.users _ _ hlookup hstorage⟩

theorem at_inventory {credentials : Credentials} {index : Nat} {P : NativeCredential → Prop} :
    (inventory listing credentials relyingParty).2.At index P ↔
      ∃ entry, (listed listing credentials relyingParty)[index]? = some entry ∧
        P (record entry) := by
  unfold Native.NativeCredentialList.At inventory
  simp only [Option.map_eq_some_iff]
  constructor
  · rintro ⟨credential, ⟨entry, hentry, rfl⟩, hP⟩
    exact ⟨entry, hentry, hP⟩
  · rintro ⟨entry, hentry, hP⟩
    exact ⟨record entry, ⟨entry, hentry, rfl⟩, hP⟩

/-- An index of the list has an entry. -/
theorem at_inventory_of_lt {credentials : Credentials} {index : Nat} {P : NativeCredential → Prop}
    (h : index < (listed listing credentials relyingParty).length) :
    (inventory listing credentials relyingParty).2.At index P ↔
      P (record (listed listing credentials relyingParty)[index]) := by
  rw [at_inventory, List.getElem?_eq_getElem h]
  simp

theorem count_inventory {credentials : Credentials} :
    (inventory listing credentials relyingParty).2.count =
      (listed listing credentials relyingParty).length := rfl

theorem wellFormed_inventory (h : device.Shaped) :
    (inventory listing device.credentials relyingParty).2.WellFormed (expectation binding) where
  bounded := length_listed_le h
  shaped _ hindex := (at_inventory_of_lt hindex).mpr
    (wellShaped_record (regular_of_listed h (List.getElem_mem hindex)))

/-- **The list shows no credential** when none of the application has the id or the user. -/
theorem hasNone_iff (h : device.Shaped) :
    (inventory listing device.credentials (utf8 binding.applicationId.asStr)).2.HasNone
      (expectation binding) ↔ binding.Unlisted device.credentials := by
  constructor
  · intro hnone
    have hentry (entry : Σ _ : ByteString, FakeCredential)
        (hmem : entry ∈ listed listing device.credentials (utf8 binding.applicationId.asStr)) :
        entry.1 ≠ binding.credentialId ∧ entry.2.userId ≠ some binding.recipientId := by
      obtain ⟨index, hindex, rfl⟩ := List.getElem_of_mem hmem
      have hat := (at_inventory_of_lt hindex).mp (hnone index hindex)
      have hregular := regular_of_listed h hmem
      rwa [hasId_iff hregular, hasUserId_iff hregular] at hat
    constructor
    · intro credential hholds hmanaged
      exact (hentry ⟨_, credential⟩
        (mem_listed_application.mpr ⟨hholds.lookup, hmanaged, hholds.application⟩)).1 rfl
    · rintro ⟨id, credential, -, hlookup, happlication, hmanaged, huser⟩
      exact (hentry ⟨id, credential⟩
        (mem_listed_application.mpr ⟨hlookup, hmanaged, happlication⟩)).2 huser
  · rintro ⟨hid, huser⟩ index hindex
    have hmem := List.getElem_mem hindex
    have hregular := regular_of_listed h hmem
    rw [at_inventory_of_lt hindex, hasId_iff hregular, hasUserId_iff hregular]
    obtain ⟨hlookup, hmanaged, happlication⟩ := mem_listed_application.mp hmem
    have hne : (listed listing device.credentials
        (utf8 binding.applicationId.asStr))[index].1 ≠ binding.credentialId :=
      fun hsame => hid _ ⟨hsame ▸ hlookup, happlication⟩ hmanaged
    exact ⟨hne, fun hsame => huser ⟨_, _, hne, hlookup, happlication, hmanaged, hsame⟩⟩

/-- **The list shows the credential** when the device holds exactly it, alone with its user. -/
theorem hasOne_iff (h : device.Shaped) :
    (inventory listing device.credentials (utf8 binding.applicationId.asStr)).2.HasOne
      (expectation binding) ↔ binding.Listed device.credentials := by
  constructor
  · rintro ⟨index, hindex, hat, hothers⟩
    rw [count_inventory] at hindex
    have hmem := List.getElem_mem hindex
    have hregular := regular_of_listed h hmem
    rw [at_inventory_of_lt hindex, hasId_iff hregular, hasUserId_iff hregular, genuine_iff] at hat
    obtain ⟨hid, huser, hkey, hpolicy⟩ := hat
    obtain ⟨hlookup, hmanaged, happlication⟩ := mem_listed_application.mp hmem
    refine ⟨⟨_, ⟨hid ▸ hlookup, happlication⟩, ⟨hmanaged, huser, hpolicy⟩, hkey⟩, ?_⟩
    rintro ⟨id, credential, hne, hlookup', happlication', hmanaged', huser'⟩
    have hmem' : (⟨id, credential⟩ : Σ _ : ByteString, FakeCredential) ∈
        listed listing device.credentials (utf8 binding.applicationId.asStr) :=
      mem_listed_application.mpr ⟨hlookup', hmanaged', happlication'⟩
    obtain ⟨other, hother, hentry⟩ := List.getElem_of_mem hmem'
    have hindices : other ≠ index := by
      rintro rfl
      exact hne ((congrArg Sigma.fst hentry).symm.trans hid)
    have hat := hothers other hother hindices
    have hregular' := regular_of_listed h hmem'
    rw [at_inventory_of_lt hother, hentry, hasUserId_iff hregular'] at hat
    exact hat.2 huser'
  · rintro ⟨⟨credential, hholds, hfits, hkey⟩, hshared⟩
    have hmem : (⟨binding.credentialId, credential⟩ : Σ _ : ByteString, FakeCredential) ∈
        listed listing device.credentials (utf8 binding.applicationId.asStr) :=
      mem_listed_application.mpr ⟨hholds.lookup, hfits.storage, hholds.application⟩
    obtain ⟨index, hindex, hentry⟩ := List.getElem_of_mem hmem
    have hregular := regular_of_listed h hmem
    refine ⟨index, hindex, ?_, fun other hother hne => ?_⟩
    · rw [at_inventory_of_lt hindex, hentry, hasId_iff hregular, hasUserId_iff hregular, genuine_iff]
      exact ⟨rfl, hfits.user, hkey, hfits.policy⟩
    · have hmem' := List.getElem_mem hother
      have hregular' := regular_of_listed h hmem'
      rw [at_inventory_of_lt hother, hasId_iff hregular', hasUserId_iff hregular']
      obtain ⟨hlookup, hmanaged, happlication⟩ := mem_listed_application.mp hmem'
      -- no other entry has the id: the ids of a device are distinct
      have hid : (listed listing device.credentials
          (utf8 binding.applicationId.asStr))[other].1 ≠ binding.credentialId := by
        intro hsame
        rw [hsame, hholds.lookup] at hlookup
        have hentries : (listed listing device.credentials
            (utf8 binding.applicationId.asStr))[other] = ⟨binding.credentialId, credential⟩ :=
          Sigma.ext hsame (heq_of_eq (Option.some.inj hlookup).symm)
        exact hne ((nodup_listed.getElem_inj_iff).mp (hentries.trans hentry.symm))
      exact ⟨hid, fun hsame => hshared ⟨_, _, hid, hlookup, happlication, hmanaged, hsame⟩⟩

/-- **What a search gets** from the inventory of the device. -/
theorem presenceOf_inventory (h : device.Shaped) :
    (presenceOf retries (inventory listing device.credentials (utf8 binding.applicationId.asStr))
        (expectation binding) = .ok .present ↔ binding.Listed device.credentials) ∧
    (presenceOf retries (inventory listing device.credentials (utf8 binding.applicationId.asStr))
        (expectation binding) = .ok .absent ↔ binding.Unlisted device.credentials) ∧
    (presenceOf retries (inventory listing device.credentials (utf8 binding.applicationId.asStr))
        (expectation binding) = .error .credentialMismatch ↔
      ¬ binding.Listed device.credentials ∧ ¬ binding.Unlisted device.credentials) := by
  obtain ⟨hanswers, -⟩ := Native.find_answers
    (inventory listing device.credentials (utf8 binding.applicationId.asStr)).2 (expectation binding)
  obtain ⟨hpresent, habsent, hmismatch⟩ := hanswers (wellFormed_inventory h)
  rw [hasOne_iff h] at hpresent hmismatch
  rw [hasNone_iff h] at habsent hmismatch
  by_cases hempty :
      listed listing device.credentials (utf8 binding.applicationId.asStr) = []
  · -- an empty list has a status of its own, which says the same
    have hstatus : (inventory listing device.credentials
        (utf8 binding.applicationId.asStr)).1 = fidoErrNoCredentials := if_pos hempty
    have hfind : (inventory listing device.credentials
        (utf8 binding.applicationId.asStr)).2.find (expectation binding) = .ok .absent := by
      rw [inventory, hempty]
      rfl
    have hpresence : presenceOf retries (inventory listing device.credentials
        (utf8 binding.applicationId.asStr)) (expectation binding) =
          (inventory listing device.credentials (utf8 binding.applicationId.asStr)).2.find
            (expectation binding) := (if_pos hstatus).trans hfind.symm
    rw [hpresence]
    exact ⟨hpresent, habsent, hmismatch⟩
  · have hstatus : (inventory listing device.credentials
        (utf8 binding.applicationId.asStr)).1 = fidoOk := if_neg hempty
    have hne : (inventory listing device.credentials
        (utf8 binding.applicationId.asStr)).1 ≠ fidoErrNoCredentials := by
      rw [hstatus]
      decide
    rw [presenceOf, if_neg hne, if_pos hstatus]
    exact ⟨hpresent, habsent, hmismatch⟩

end List

end Hardware

end FidoKeyWrap
