/-
# FidoKeyWrap.Native.Retirement — a retirement tells the truth about the device.

The authenticator is a set of stored records. A deletion whose status is a definite failure did not
execute; one that reports success, or whose reply was lost, may have executed or not. An enumeration
that returns normally lists the true records of its relying party. `Store.Step` is this device, a
path of it is what happened to the store along a trace, and `retirement_tells_the_truth` compares
what `retire_managed` returned with the two ends of the path.
-/
import FidoKeyWrap.Lib.Path
import FidoKeyWrap.Native.Vector

namespace FidoKeyWrap.Native

open ByteData Interact

/-! ## The device -/

/-- A record of the credential store. -/
structure StoredRecord where
  relyingPartyId : ByteString
  credentialId : ByteString
  userId : ByteString
  publicKey : ByteString
  type : Int32
  protection : Int32

/-- The records an authenticator holds. -/
abbrev Store := Set StoredRecord

namespace Store

/-- The records of one relying party. -/
def ofRelyingParty (s : Store) (rpId : ByteString) : Store :=
  {record | record ∈ s ∧ record.relyingPartyId = rpId}

/-- The store without a credential id. -/
def delete (s : Store) (credentialId : ByteString) : Store :=
  {record | record ∈ s ∧ record.credentialId ≠ credentialId}

end Store

/-- A pointer and a length say where a byte string is, unless the pointer is null. -/
def NativeBytes.Holds (native : NativeBytes) (bytes : ByteString) : Prop :=
  native.len = bytes.length ∧ ∀ memory, native.pointer = some memory →
    fromRawParts memory native.len = bytes

/-- The getters of a listed credential return the fields of a record. -/
structure NativeCredential.Holds (credential : NativeCredential) (record : StoredRecord) : Prop where
  id : credential.id.Holds record.credentialId
  userId : credential.userId.Holds record.userId
  pubkey : credential.pubkey.Holds record.publicKey
  type : credential.type = record.type
  prot : credential.prot = record.protection

/-- **`Lists list records`** — the list has the given records, each once or more, and no other. -/
def NativeCredentialList.Lists (list : NativeCredentialList) (records : Store) : Prop :=
  ∃ entries : List StoredRecord, (∀ record, record ∈ entries ↔ record ∈ records) ∧
    list.count = entries.length ∧
    ∀ index (h : index < entries.length) credential, list.rk index = some credential →
      credential.Holds entries[index]

/-- **`Store.Step device`** — what one call may do to the store of a device. -/
def Store.Step (device : RawDevice) (s : Store) (event : Event libfido2) (s' : Store) : Prop :=
  match event with
  | ⟨.credmanDelDevRk raw credentialId _, status⟩ =>
    s' = s ∨ (raw = device.raw ∧ (status = fidoOk ∨ retirementStatusIsUncertain status = true) ∧
      s' = s.delete credentialId)
  | ⟨.credmanGetDevRk raw rpId _ _, (status, list)⟩ =>
    s' = s ∧ (raw = device.raw →
      (status = fidoOk → list.Lists (s.ofRelyingParty rpId)) ∧
        (status = fidoErrNoCredentials → s.ofRelyingParty rpId = ∅))
  | _ => s' = s

/-- The record of a managed credential. -/
def ManagedCredential.record (credential : ManagedCredential) : StoredRecord where
  relyingPartyId := utf8 credential.relyingPartyId
  credentialId := credential.credentialId
  userId := credential.userId
  publicKey := credential.es256PublicKey.toList
  type := coseEs256
  protection := credential.protection.native

/-! ## What a true list says -/

section Lists

variable {list : NativeCredentialList} {records : Store} {expected : InventoryExpectation}

theorem copyNativeBytes_of_holds {native : NativeBytes} {bytes copied : ByteString} {maxLen : Nat}
    (h : native.Holds bytes) (hcopy : copyNativeBytes native maxLen = .ok copied) :
    copied = bytes := by
  unfold copyNativeBytes at hcopy
  split at hcopy
  · cases hcopy
  · rename_i memory hmemory
    split at hcopy
    · cases hcopy
    · cases hcopy
      exact h.2 memory hmemory

theorem inMemory_holds (bytes : ByteString) : (inMemory bytes).Holds bytes := by
  refine ⟨rfl, fun memory hmemory => ?_⟩
  cases hmemory
  exact fromRawParts_of bytes

/-- Nothing with either id is among the records when a true list shows nothing. -/
theorem NativeCredentialList.Lists.absent (h : list.Lists records)
    (hfind : list.find expected = .ok .absent) :
    ∀ record ∈ records, record.credentialId ≠ expected.credentialId ∧
      record.userId ≠ expected.userId := by
  obtain ⟨entries, hentries, hcount, hholds⟩ := h
  obtain ⟨-, hskips⟩ := find_eq_ok_absent.mp hfind
  intro record hrecord
  obtain ⟨index, hindex, rfl⟩ := List.getElem_of_mem ((hentries record).mpr hrecord)
  obtain ⟨credential, hrk, id, userId, hid, huserId, hne, hne'⟩ := hskips index (hcount ▸ hindex)
  have hcredential := hholds index hindex credential hrk
  rw [copyNativeBytes_of_holds hcredential.id hid] at hne
  rw [copyNativeBytes_of_holds hcredential.userId huserId] at hne'
  exact ⟨hne, hne'⟩

/-- The expected record is among the records when a true list shows it. -/
theorem NativeCredentialList.Lists.present (h : list.Lists records)
    (hfind : list.find expected = .ok .present) :
    ∃ record ∈ records, record.credentialId = expected.credentialId ∧
      record.userId = expected.userId ∧ record.publicKey = expected.es256PublicKey.toList ∧
      record.type = coseEs256 ∧
      ∀ protection, expected.protection = some protection →
        record.protection = protection.native := by
  obtain ⟨entries, hentries, hcount, hholds⟩ := h
  obtain ⟨-, index, hindex, ⟨credential, hrk, hmatch⟩, -⟩ := find_eq_ok_present.mp hfind
  rw [hcount] at hindex
  have hcredential := hholds index hindex credential hrk
  refine ⟨entries[index], (hentries _).mp (List.getElem_mem hindex), ?_, ?_, ?_, ?_, ?_⟩
  · exact (copyNativeBytes_of_holds hcredential.id hmatch.id).symm
  · exact (copyNativeBytes_of_holds hcredential.userId hmatch.userId).symm
  · exact (copyNativeBytes_of_holds hcredential.pubkey hmatch.pubkey).symm
  · rw [← hcredential.type]
    exact hmatch.type
  · intro protection hprotection
    rw [← hcredential.prot]
    exact hmatch.prot protection hprotection

end Lists

/-! ## What the calls do to the store -/

section Steps

variable {device : RawDevice} {s s' : Store} {expected : InventoryExpectation} {pin : Pin}
  {credential : ManagedCredential}

/-- Only a deletion changes the store. -/
theorem Store.Step.unchanged {event : Event libfido2} (h : Store.Step device s event s')
    (hevent : ∀ raw id pin, event.query ≠ .credmanDelDevRk raw id pin) : s' = s := by
  obtain ⟨query, reply⟩ := event
  cases query <;> first
    | exact h
    | exact h.1
    | exact absurd rfl (hevent _ _ _)

/-- An enumeration that answered absent leaves no record with either id under the relying party. -/
theorem Store.Step.absent {event : Event libfido2} (h : Store.Step device s event s')
    (hevent : Enumerated device expected pin .absent event) :
    s' = s ∧ ∀ record ∈ s, record.relyingPartyId = utf8 expected.relyingPartyId →
      record.credentialId ≠ expected.credentialId ∧ record.userId ≠ expected.userId := by
  obtain ⟨raw, ⟨status, list⟩, rfl, hanswer⟩ := hevent
  obtain ⟨hsame, htruth⟩ := h
  obtain ⟨hlists, hempty⟩ := htruth rfl
  refine ⟨hsame, fun record hrecord hrp => ?_⟩
  have hmem : record ∈ s.ofRelyingParty (utf8 expected.relyingPartyId) := ⟨hrecord, hrp⟩
  rcases hanswer with hnone | ⟨hok, hfind⟩
  · rw [hempty hnone] at hmem
    exact absurd hmem (Set.notMem_empty record)
  · exact (hlists hok).absent hfind record hmem

/-- An enumeration that answered present found the exact record. -/
theorem Store.Step.present {event : Event libfido2} (h : Store.Step device s event s')
    (hevent : Enumerated device (.exact credential) pin .present event) :
    s' = s ∧ credential.record ∈ s := by
  obtain ⟨raw, ⟨status, list⟩, rfl, hok, hfind⟩ := hevent
  obtain ⟨hsame, htruth⟩ := h
  refine ⟨hsame, ?_⟩
  obtain ⟨record, ⟨hrecord, hrp⟩, hid, huserId, hkey, htype, hprot⟩ :=
    ((htruth rfl).1 hok).present hfind
  have hrecordEq : record = credential.record := by
    cases record
    simp_all [ManagedCredential.record, InventoryExpectation.credentialId,
      InventoryExpectation.userId, InventoryExpectation.es256PublicKey,
      InventoryExpectation.protection, InventoryExpectation.relyingPartyId]
  exact hrecordEq ▸ hrecord

end Steps

/-! ## Runs along a path -/

section Paths

variable {self : Authenticator} {s s' : Store} {expected : InventoryExpectation} {pin : Pin}
  {credential : ManagedCredential} {t : Trace libfido2}

/-- The event is no deletion. -/
def Keeps (event : Event libfido2) : Prop :=
  ∀ raw id pin, event.query ≠ .credmanDelDevRk raw id pin

theorem keeps_of_quiet {event : Event libfido2} (h : ¬ event.query.Significant) : Keeps event :=
  fun _ _ _ hquery => absurd (by rw [hquery]; trivial) h

theorem unchanged_of_keeps {device : RawDevice} (hpath : Path (Store.Step device) s t s')
    (h : ∀ event ∈ t, Keeps event) : s' = s :=
  hpath.unchanged fun event hmem _ _ hstep => hstep.unchanged (h event hmem)

theorem keeps_verifyManaged : Program.Every Keeps (self.verifyManaged credential pin).run := by
  refine every_verifyManaged self (fun event => keeps_of_quiet) ?_ ?_
  · rintro raw status raw' id pin' hquery
    cases hquery
  · rintro list reply raw id pin' hquery
    cases hquery

/-- A verified managed credential is stored. -/
theorem stored_of_verifyManaged {u : Unit}
    (hrun : (self.verifyManaged credential pin).run.Runs t (.ok u))
    (hpath : Path (Store.Step self.device) s t s') :
    s' = s ∧ credential.record ∈ s ∧
      (∃ raw, Verified self.device raw (some pin) credential.credentialId
        credential.es256PublicKey .userVerified t) ∧
      ∃ list records, ⟨.credmanGetDevRk self.device.raw (utf8 credential.relyingPartyId) list pin,
        (fidoOk, records)⟩ ∈ t ∧ records.Shows (.exact credential) := by
  have hsame : s' = s := unchanged_of_keeps hpath (keeps_verifyManaged t _ hrun)
  obtain ⟨-, -, hrest⟩ := Fallible.runs_except_bind_ok.mp hrun
  obtain ⟨t₁, _, t₂, rfl, hassertion, hconfirm⟩ := Fallible.runs_bind_ok.mp hrest
  obtain ⟨raw, hverified⟩ := runs_verifyManagedAssertion_ok hassertion
  obtain ⟨list, event, rfl, hpresent⟩ := runs_confirmManagedInventory_ok hconfirm
  obtain ⟨mid, -, hpath₂⟩ := path_append.mp hpath
  obtain ⟨mid', -, hpath₃⟩ := hpath₂
  obtain ⟨hsame', hstored⟩ := (path_singleton.mp hpath₃).present hpresent
  refine ⟨hsame, (hsame'.symm.trans hsame) ▸ hstored, ⟨raw, hverified.append⟩, ?_⟩
  obtain ⟨list', ⟨status, records⟩, rfl, hok, hfind⟩ := hpresent
  refine ⟨list', records, ?_, (find_eq_ok_present.mp hfind).2⟩
  rw [← show status = fidoOk from hok]
  simp [InventoryExpectation.relyingPartyId]

/-- The end of a deletion of a stored credential: confirmed, the credential and its user are gone;
failed in a definite way, nothing changed. -/
theorem store_of_deleteManaged {r : Result Unit}
    (hrun : (self.deleteManaged credential.credentialId (.exact credential) pin).run.Runs t r)
    (hpath : Path (Store.Step self.device) s t s') (hstored : credential.record ∈ s) :
    (r = .ok () → ∀ record ∈ s', record.credentialId ≠ credential.credentialId ∧
      (record.relyingPartyId = utf8 credential.relyingPartyId →
        record.userId ≠ credential.userId)) ∧
    ∀ e, r = .error e → e ≠ .retirementUncertain → e ≠ .credentialMismatch → s' = s := by
  obtain ⟨status, t₁, t₂, rfl, hquiet, hcases⟩ := runs_deleteManaged hrun
  obtain ⟨s₁, hdelete, hrest⟩ := hpath
  have hkeeps : ∀ event ∈ t₁, Keeps event := fun event hmem => keeps_of_quiet (hquiet event hmem)
  rcases hcases with ⟨hfailed, hcertain, rfl, e, rfl⟩ | ⟨-, delete, presence, hpresence, rfl⟩
  · -- a definite failure: the deletion did not execute
    rw [List.append_nil] at hrest
    have hs₁ : s₁ = s := by
      rcases hdelete with hsame | ⟨-, hok | huncertain, -⟩
      · exact hsame
      · exact absurd hok hfailed
      · rw [hcertain] at huncertain
        cases huncertain
    have hs' : s' = s₁ := unchanged_of_keeps hrest hkeeps
    refine ⟨fun h => ?_, fun _ _ _ _ => hs'.trans hs₁⟩
    cases h
  · -- otherwise the enumeration decides
    obtain ⟨s₂, hpath₁, hpath₂⟩ := path_append.mp hrest
    have hs₂ : s₂ = s₁ := unchanged_of_keeps hpath₁ hkeeps
    subst hs₂
    constructor
    · intro hok
      obtain rfl := retirementOutcome_eq_ok.mp hok
      obtain ⟨list, event, rfl, henumerated⟩ := runs_managedPresence_ok hpresence
      obtain ⟨s₃, hnew, hlast⟩ := hpath₂
      obtain rfl : s₃ = s₂ := hnew
      obtain ⟨rfl, habsent⟩ := (path_singleton.mp hlast).absent henumerated
      -- the credential was stored, so the deletion executed
      rcases hdelete with rfl | ⟨-, -, rfl⟩
      · exact absurd rfl (habsent credential.record hstored rfl).1
      · intro record hrecord
        exact ⟨hrecord.2, fun hrp => (habsent record hrecord hrp).2⟩
    · intro e he huncertain hmismatch
      obtain rfl := present_of_retirementOutcome he huncertain hmismatch
      obtain ⟨list, event, rfl, henumerated⟩ := runs_managedPresence_ok hpresence
      obtain ⟨s₃, hnew, hlast⟩ := hpath₂
      obtain rfl : s₃ = s₂ := hnew
      obtain ⟨rfl, hpresent⟩ := (path_singleton.mp hlast).present henumerated
      -- the credential is still stored, so the deletion did not execute
      rcases hdelete with hsame | ⟨-, -, rfl⟩
      · exact hsame
      · exact absurd rfl hpresent.2

/-- Every deletion of a retirement names the credential. -/
theorem deletes_retireManaged :
    Program.Every (fun event : Event libfido2 => ∀ device id pin',
      event.query = .credmanDelDevRk device id pin' →
        device = self.device.raw ∧ id = credential.credentialId ∧ pin' = pin)
      (self.retireManaged credential pin).run := by
  have hverify : Program.Every Keeps (self.verifyManaged credential pin).run := keeps_verifyManaged
  refine Fallible.every_bind (hverify.mono fun event hkeeps device id pin' hquery =>
    absurd hquery (hkeeps device id pin')) fun _ => ?_
  refine every_deleteManaged self ?_ ?_ ?_
  · exact fun event hquiet device id pin' hquery =>
      absurd hquery (keeps_of_quiet hquiet device id pin')
  · rintro status device id pin' hquery
    cases hquery
    exact ⟨rfl, rfl, rfl⟩
  · rintro list reply device id pin' hquery
    cases hquery

end Paths

/-! ## Other relying parties -/

section Frames

variable {self : Authenticator} {credential : ManagedCredential} {pin : Pin} {device : RawDevice}
  {s s' others : Store} {t : Trace libfido2} {event : Event libfido2}

/-- **`Apart others event`** — the call deletes none of the records and lists none of their relying
parties. -/
structure Apart (others : Store) (event : Event libfido2) : Prop where
  deleted : ∀ raw id pin, event.query = .credmanDelDevRk raw id pin →
    ∀ record ∈ others, record.credentialId ≠ id
  listed : ∀ raw rpId list pin, event.query = .credmanGetDevRk raw rpId list pin →
    ∀ record ∈ others, record.relyingPartyId ≠ rpId

theorem apart_of_quiet (h : ¬ event.query.Significant) : Apart others event where
  deleted _ _ _ hquery := absurd (by rw [hquery]; trivial) h
  listed _ _ _ _ hquery := absurd (by rw [hquery]; trivial) h

theorem Store.delete_union {id : ByteString} (h : ∀ record ∈ others, record.credentialId ≠ id) :
    Store.delete (s ∪ others) id = s.delete id ∪ others := by
  ext record
  simp only [Store.delete, Set.mem_union, Set.mem_ofPred_eq]
  constructor
  · rintro ⟨hmem | hother, hne⟩
    · exact .inl ⟨hmem, hne⟩
    · exact .inr hother
  · rintro (⟨hmem, hne⟩ | hother)
    · exact ⟨.inl hmem, hne⟩
    · exact ⟨.inr hother, h record hother⟩

theorem Store.ofRelyingParty_union {rpId : ByteString}
    (h : ∀ record ∈ others, record.relyingPartyId ≠ rpId) :
    Store.ofRelyingParty (s ∪ others) rpId = s.ofRelyingParty rpId := by
  ext record
  simp only [Store.ofRelyingParty, Set.mem_union, Set.mem_ofPred_eq]
  constructor
  · rintro ⟨hmem | hother, hrp⟩
    · exact ⟨hmem, hrp⟩
    · exact absurd hrp (h record hother)
  · exact fun ⟨hmem, hrp⟩ => ⟨.inl hmem, hrp⟩

/-- Records that a call is not about stay beside the others. -/
theorem Store.Step.frame (h : Store.Step device s event s') (hapart : Apart others event) :
    Store.Step device (s ∪ others) event (s' ∪ others) := by
  obtain ⟨query, reply⟩ := event
  cases query with
  | credmanDelDevRk raw id pin =>
      rcases h with hsame | ⟨hraw, hstatus, rfl⟩
      · rw [hsame]
        exact .inl rfl
      · refine .inr ⟨hraw, hstatus, ?_⟩
        exact (Store.delete_union (hapart.deleted raw id pin rfl)).symm
  | credmanGetDevRk raw rpId list pin =>
      obtain ⟨hsame, htruth⟩ := h
      rw [hsame]
      refine ⟨rfl, fun hraw => ?_⟩
      rw [Store.ofRelyingParty_union (hapart.listed raw rpId list pin rfl)]
      exact htruth hraw
  | _ => exact congrArg (· ∪ others) h

/-- Every call of a retirement is about the relying party and the id of its credential. -/
theorem apart_retireManaged (h : ∀ record ∈ others,
      record.relyingPartyId ≠ utf8 credential.relyingPartyId ∧
        record.credentialId ≠ credential.credentialId) :
    Program.Every (Apart others) (self.retireManaged credential pin).run := by
  have hlist (list : Handle) (reply : Int32 × NativeCredentialList) :
      Apart others ⟨.credmanGetDevRk self.device.raw (utf8 credential.relyingPartyId) list pin,
        reply⟩ := by
    refine ⟨fun _ _ _ hquery => ?_, fun _ _ _ _ hquery record hrecord => ?_⟩
    · cases hquery
    · cases hquery
      exact (h record hrecord).1
  refine Fallible.every_bind (every_verifyManaged self (fun _ => apart_of_quiet) ?_ hlist)
    fun _ => ?_
  · exact fun raw status => ⟨nofun, nofun⟩
  refine every_deleteManaged self (fun _ => apart_of_quiet) ?_ hlist
  refine fun status => ⟨fun _ _ _ hquery record hrecord => ?_, nofun⟩
  cases hquery
  exact (h record hrecord).2

/-- **A retirement leaves other relying parties alone**: their records, with other credential ids, are
a frame of every retirement, whatever it returns. -/
theorem retireManaged_frame {r : Result Unit}
    (hrun : (self.retireManaged credential pin).run.Runs t r)
    (hpath : Path (Store.Step self.device) s t s') (h : ∀ record ∈ others,
      record.relyingPartyId ≠ utf8 credential.relyingPartyId ∧
        record.credentialId ≠ credential.credentialId) :
    Path (Store.Step self.device) (s ∪ others) t (s' ∪ others) := by
  obtain ⟨framed, hframed, rfl⟩ := hpath.simulates (R := fun s framed => framed = s ∪ others)
    (fun event hmem s s' _ hstep hs =>
      ⟨s' ∪ others, hs ▸ hstep.frame (apart_retireManaged h t r hrun event hmem), rfl⟩) rfl
  exact hframed

end Frames

/-- **Retirement tells the truth.** Along every path of the device, whatever libfido2 replies. A
retirement that succeeds verified a signed, user-verified assertion for exactly the credential's id
and key, saw its exact record in an enumeration, and only then asked for the deletion of exactly its
id; at the end no record has that id, and none of the relying party has that user id. A retirement
that fails, other than as uncertain or as a mismatch, leaves the store as it was. No deletion ever
names another credential. -/
theorem retirement_tells_the_truth (self : Authenticator) (credential : ManagedCredential)
    (pin : Pin) (t : Trace libfido2) (r : Result Unit) (s s' : Store)
    (hrun : (self.retireManaged credential pin).run.Runs t r)
    (hpath : Path (Store.Step self.device) s t s') :
    (r = .ok () →
      (∃ before status after,
        t = before ++ ⟨.credmanDelDevRk self.device.raw credential.credentialId pin, status⟩ ::
          after ∧
        (∃ raw, Verified self.device raw (some pin) credential.credentialId
          credential.es256PublicKey .userVerified before) ∧
        (∃ list records,
          ⟨.credmanGetDevRk self.device.raw (utf8 credential.relyingPartyId) list pin,
            (fidoOk, records)⟩ ∈ before ∧ records.Shows (.exact credential)) ∧
        credential.record ∈ s) ∧
      ∀ record ∈ s', record.credentialId ≠ credential.credentialId ∧
        (record.relyingPartyId = utf8 credential.relyingPartyId →
          record.userId ≠ credential.userId)) ∧
    (∀ e, r = .error e → e ≠ .retirementUncertain → e ≠ .credentialMismatch → s' = s) ∧
    ∀ event ∈ t, ∀ device id pin', event.query = .credmanDelDevRk device id pin' →
      device = self.device.raw ∧ id = credential.credentialId ∧ pin' = pin := by
  have hdeletes := deletes_retireManaged t r hrun
  rcases Fallible.runs_bind.mp hrun with ⟨t₁, _, t₂, rfl, hverify, hdelete⟩ | ⟨e, hverify, rfl⟩
  · obtain ⟨s₁, hpath₁, hpath₂⟩ := path_append.mp hpath
    obtain ⟨rfl, hstored, hverified, hlisted⟩ := stored_of_verifyManaged hverify hpath₁
    obtain ⟨hgone, hkept⟩ := store_of_deleteManaged hdelete hpath₂ hstored
    refine ⟨fun hok => ⟨?_, hgone hok⟩, hkept, hdeletes⟩
    obtain ⟨status, u₁, u₂, rfl, -, -⟩ := runs_deleteManaged hdelete
    exact ⟨t₁, status, u₁ ++ u₂, rfl, hverified, hlisted, hstored⟩
  · have hsame : s' = s := unchanged_of_keeps hpath (keeps_verifyManaged t _ hverify)
    refine ⟨fun h => ?_, fun _ _ _ _ => hsame, hdeletes⟩
    cases h

/-! ## One device -/

namespace Vector

/-- The store of the authenticator. -/
def store (past : Trace libfido2) : Store := {record | stored past = true ∧ record = credential.record}

/-- The store lists as the one credential. -/
theorem lists_store {past : Trace libfido2} (h : stored past = true) {rpId : ByteString}
    (hrp : rpId = utf8 credential.relyingPartyId) :
    NativeCredentialList.Lists { count := 1, rk := fun _ => some nativeCredential }
      ((store past).ofRelyingParty rpId) := by
  refine ⟨[credential.record], fun record => ?_, rfl, ?_⟩
  · rw [List.mem_singleton]
    constructor
    · rintro rfl
      exact ⟨⟨h, rfl⟩, hrp.symm⟩
    · rintro ⟨⟨-, hrecord⟩, -⟩
      exact hrecord
  · intro index hindex native hnative
    obtain rfl : index = 0 := by simpa using hindex
    cases hnative
    exact ⟨inMemory_holds _, inMemory_holds _, inMemory_holds _, rfl, rfl⟩

/-- The replies of the authenticator are those of its store. -/
theorem step_device {past : Trace libfido2} {query : Query} {reply : query.Reply}
    (h : device past query = some reply) :
    (store past).Step authenticator.device ⟨query, reply⟩ (store (past ++ [⟨query, reply⟩])) := by
  have hstored : stored (past ++ [⟨query, reply⟩]) = (stored past && !removes query) := by
    simp [stored]
  by_cases hremoves : removes query = true
  · -- the deletion of the credential
    obtain ⟨raw, id, pin, rfl, rfl, rfl⟩ : ∃ raw id pin, query = .credmanDelDevRk raw id pin ∧
        raw = authenticator.device.raw ∧ id = credential.credentialId := by
      cases query <;> simp_all [removes]
    cases h
    refine .inr ⟨rfl, .inl rfl, ?_⟩
    ext record
    simp only [store, Store.delete, Set.mem_ofPred_eq, hstored, hremoves]
    constructor
    · simp
    · rintro ⟨⟨-, rfl⟩, hne⟩
      exact absurd rfl hne
  · -- every other query keeps the store
    have hsame : store (past ++ [⟨query, reply⟩]) = store past := by
      ext record
      simp [store, hstored, hremoves]
    rw [hsame]
    cases query <;> first
      | rfl
      | exact .inl rfl
      | skip
    rename_i raw rpId list pin
    cases h
    refine ⟨rfl, fun _ => ?_⟩
    by_cases hlisted : stored past = true ∧ rpId = utf8 credential.relyingPartyId
    · rw [if_pos hlisted]
      refine ⟨fun _ => lists_store hlisted.1 hlisted.2, fun hnone => ?_⟩
      exact absurd hnone (by decide)
    · rw [if_neg hlisted]
      refine ⟨fun hok => absurd hok (by decide), fun _ => ?_⟩
      ext record
      simp only [Store.ofRelyingParty, store, Set.mem_ofPred_eq, Set.mem_empty_iff_false,
        iff_false]
      rintro ⟨⟨hstored, rfl⟩, hrp⟩
      exact hlisted ⟨hstored, hrp.symm⟩

/-- The authenticator retires its credential. -/
theorem retires : ∃ t, (authenticator.retireManaged credential pin).run.Runs t (.ok ()) ∧
    Path (Store.Step authenticator.device) (store []) t (store t) := by
  have hretire : ((authenticator.retireManaged credential pin).run.exec? device []).map Prod.snd =
      some (.ok ()) := by decide
  obtain ⟨⟨t, r⟩, hexec, rfl⟩ := Option.map_eq_some_iff.mp hretire
  exact ⟨t, Program.runs_of_exec? hexec, path_of_exec? (fun _ _ _ => step_device) hexec⟩

/-- A record of the same user id with another relying party. -/
def elsewhere : StoredRecord :=
  { credential.record with relyingPartyId := utf8 "mail.example", credentialId := [0x64] }

end Vector

/-- The authenticator of the vector retires its credential: it is stored before, and not after. -/
theorem vector_retired :
    ∃ t s', (∃ before status after,
      t = before ++ ⟨.credmanDelDevRk Vector.authenticator.device.raw
        Vector.credential.credentialId Vector.pin, status⟩ :: after ∧
      Vector.credential.record ∈ Vector.store []) ∧
      Path (Store.Step Vector.authenticator.device) (Vector.store []) t s' ∧
      Vector.credential.record ∉ s' := by
  obtain ⟨t, hrun, hpath⟩ := Vector.retires
  obtain ⟨hok, -, -⟩ := retirement_tells_the_truth Vector.authenticator Vector.credential Vector.pin
    t _ _ _ hrun hpath
  obtain ⟨⟨before, status, after, ht, -, -, hstored⟩, hgone⟩ := hok rfl
  exact ⟨t, _, ⟨before, status, after, ht, hstored⟩, hpath,
    fun hmem => (hgone _ hmem).1 rfl⟩

/-- A user id stays stored: the authenticator also holds a record of that user with another relying
party, which no enumeration of the retirement lists. -/
theorem retired_user_elsewhere :
    ∃ t s', (Vector.authenticator.retireManaged Vector.credential Vector.pin).run.Runs t (.ok ()) ∧
      Path (Store.Step Vector.authenticator.device) (Vector.store [] ∪ {Vector.elsewhere}) t s' ∧
      ∃ record ∈ s', record.userId = Vector.credential.userId := by
  obtain ⟨t, hrun, hpath⟩ := Vector.retires
  refine ⟨t, _, hrun, retireManaged_frame hrun hpath ?_, Vector.elsewhere,
    Set.mem_union_right _ rfl, rfl⟩
  rintro record rfl
  exact ⟨by decide, by decide⟩

end FidoKeyWrap.Native
