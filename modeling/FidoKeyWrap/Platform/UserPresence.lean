/-
# FidoKeyWrap.Platform.UserPresence — recovery secrets behind macos user presence.

Each load of a recovery secret asks the user for authentication. To delete an entry without a second
prompt, its label carries a fingerprint of the secret, and a deletion selects by label. The data is
what an entry is compared by, the label what it is deleted by, so a load insists that they agree.

`create_tells`, `load_tells` and `remove_tells` are the contract of the operations, in keychains
where three statuses promise that nothing was added. A removal keeps every entry with another label.
-/
import FidoKeyWrap.Platform.Keychain
import FidoKeyWrap.Primitives

namespace FidoKeyWrap.Platform.UserPresence

open ByteData Interact Fallible Keychain

/-! ## Calls of the store -/

/-- What every label starts with; the fingerprint follows. -/
def labelPrefix : String := "fido key wrap recovery secret "

/-- `MacosUserPresenceStore`. -/
structure MacosUserPresenceStore where
  application : ApplicationId

/-- A program of the store. -/
abbrev Store := Security StoreError

/-- The error of a status. -/
def mapError (status : Status) : StoreError :=
  if status = errSecDuplicateItem then .alreadyExists
  else if status = errSecItemNotFound then .missing
  else if status = errSecUserCanceled then .cancelled
  else if status = errSecAuthFailed ∨ status = errSecMissingEntitlement then .accessDenied
  else if status = errSecNotAvailable ∨ status = errSecIO ∨ status = errSecInteractionNotAllowed
      ∨ status = errSecInteractionRequired ∨ status = errSecDataNotAvailable
      ∨ status = errSecServiceNotAvailable then .unavailable
  else if status = errSecUnimplemented then .unsupported
  else .operationFailed

/-- The statuses that say that nothing was added. -/
def isDefiniteAddFailure (status : Status) : Bool :=
  decide (status = errSecMissingEntitlement) || decide (status = errSecUnimplemented)

/-- The secret that was read is the expected one. -/
def secretsMatch (actual expected : RecoverySecret) : Bool :=
  recoverySecretMatches actual.bytes.toList expected

/-- The search for one key. -/
def baseQuery (store : MacosUserPresenceStore) (recipient : RecipientId) : ItemSearchOptions where
  location := .dataProtectionKeychain
  service := recoveryServiceName store.application
  account := recipientName recipient

/-- The search for all entries of one key. -/
def exactQuery (store : MacosUserPresenceStore) (recipient : RecipientId) : ItemSearchOptions :=
  { baseQuery store recipient with limit := .all }

/-- The contents of the entries of a key, which asks the user. -/
def findValues (store : MacosUserPresenceStore) (recipient : RecipientId) :
    Store (List ByteString) := do
  let reply ← call (.search { exactQuery store recipient with loadData := true })
  match reply with
  | .ok results => liftM (results.mapM SearchResult.asData)
  | .error status =>
    if status = errSecItemNotFound then return [] else throw (mapError status)

/-- A result that holds attributes. -/
def isDict : SearchResult → Bool
  | .dict => true
  | _ => false

/-- The number of entries a query for attributes shows. -/
def countEntries (query : ItemSearchOptions) : Store Nat := do
  let reply ← call (.search query)
  match reply with
  | .ok results => if results.all isDict then return results.length else throw .corrupt
  | .error status =>
    if status = errSecItemNotFound then return 0 else throw (mapError status)

/-- How many entries a key has, without asking the user. -/
def inventoryCount (store : MacosUserPresenceStore) (recipient : RecipientId) : Store Nat :=
  countEntries { exactQuery store recipient with loadAttributes := true }

/-- After a deletion that succeeded no entry may be left. -/
def confirmRemoved (store : MacosUserPresenceStore) (recipient : RecipientId) : Store Removal := do
  let count ← Fallible.outcome (inventoryCount store recipient)
  match count with
  | .ok 0 => return .removed
  | .ok _ | .error _ => throw .stateUncertain

/-- What a deletion that failed has left is counted. -/
def reconcileAfterDeleteError (store : MacosUserPresenceStore) (recipient : RecipientId)
    (nativeError : Status) : Store Removal := do
  let count ← Fallible.outcome (inventoryCount store recipient)
  match count with
  | .ok 0 => return .removed
  | .ok 1 =>
    if nativeError = errSecItemNotFound then throw .alreadyExists
    else throw (mapError nativeError)
  | .ok _ | .error _ => throw .stateUncertain

section Fingerprint

variable [Primitives]

/-- The label of a secret: its fingerprint, in hexadecimal. -/
def itemLabel (secret : RecoverySecret) : String :=
  labelPrefix ++ hex (Primitives.sha256 secret.bytes.toList).toList

/-- The search for the entries of one key and one secret. -/
def deletionQuery (store : MacosUserPresenceStore) (recipient : RecipientId)
    (expected : RecoverySecret) : ItemSearchOptions :=
  { baseQuery store recipient with label := some (itemLabel expected) }

/-- How many entries carry the fingerprint of a secret. -/
def fingerprintCount (store : MacosUserPresenceStore) (recipient : RecipientId)
    (secret : RecoverySecret) : Store Nat :=
  countEntries { deletionQuery store recipient secret with limit := .all, loadAttributes := true }

/-- Add an entry that the user must authenticate to read. -/
def add (store : MacosUserPresenceStore) (recipient : RecipientId) (secret : RecoverySecret) :
    Security Status Unit := do
  let reply ← call (.accessControl .accessibleWhenPasscodeSetThisDeviceOnly userPresence)
  (liftM reply : Security Status Unit)
  let reply ← call (.add {
    location := .dataProtectionKeychain
    service := recoveryServiceName store.application
    account := recipientName recipient
    label := itemLabel secret
    data := secret.bytes.toList })
  liftM reply

/-! ## Operations -/

/-- `load_exact`, once the inventory is known to be one entry. -/
def loadSole (store : MacosUserPresenceStore) (recipient : RecipientId) :
    Store RecoverySecret := do
  let values ← findValues store recipient
  match values with
  | [] => throw .missing
  | [bytes] =>
    let secret ← (liftM (importRecoverySecret bytes) : Store RecoverySecret)
    let count ← fingerprintCount store recipient secret
    match count with
    | 1 => return secret
    | 0 => throw .corrupt
    | _ => throw .ambiguous
  | _ => throw .ambiguous

/-- The secret of the only entry, if its label agrees. -/
def loadExact (store : MacosUserPresenceStore) (recipient : RecipientId) :
    Store RecoverySecret := do
  let count ← inventoryCount store recipient
  match count with
  | 0 => throw .missing
  | 1 => loadSole store recipient
  | _ => throw .ambiguous

/-- `load`. -/
def load (store : MacosUserPresenceStore) (recipient : RecipientId) : Store RecoverySecret :=
  loadExact store recipient

/-- Delete the entry of a secret that the caller can name. -/
def remove (store : MacosUserPresenceStore) (recipient : RecipientId)
    (expected : RecoverySecret) : Store Removal := do
  let count ← inventoryCount store recipient
  match count with
  | 0 => return .absent
  | 1 =>
    let reply ← call (.delete (deletionQuery store recipient expected))
    match reply with
    | .ok () => confirmRemoved store recipient
    | .error status => reconcileAfterDeleteError store recipient status
  | _ => throw .ambiguous

/-- Read back what was added. -/
def verifyCreated (store : MacosUserPresenceStore) (recipient : RecipientId)
    (secret : RecoverySecret) : Store Unit := do
  let stored ← loadExact store recipient
  if secretsMatch stored secret then return () else throw .corrupt

/-- An entry that was already there is fine if it holds the secret. -/
def compareExisting (store : MacosUserPresenceStore) (recipient : RecipientId)
    (secret : RecoverySecret) : Store Unit := do
  let stored ← loadExact store recipient
  if secretsMatch stored secret then return () else throw .alreadyExists

/-- What an addition that failed has left is counted, then read. -/
def reconcileAfterAddError (store : MacosUserPresenceStore) (recipient : RecipientId)
    (secret : RecoverySecret) (nativeError : Status) : Store Unit := do
  let count ← Fallible.outcome (inventoryCount store recipient)
  match count with
  | .ok 0 => throw (mapError nativeError)
  | .ok 1 =>
    let loaded ← Fallible.outcome (loadExact store recipient)
    match loaded with
    | .error _ => throw .stateUncertain
    | .ok stored => if secretsMatch stored secret then return () else throw .alreadyExists
  | .ok _ => throw .ambiguous
  | .error _ => throw .stateUncertain

/-- Delete what was added but could not be read back. -/
def cleanupAfterFailedCreate (store : MacosUserPresenceStore) (recipient : RecipientId)
    (secret : RecoverySecret) (originalError : StoreError) : Store Unit := do
  let _ ← call (.delete (deletionQuery store recipient secret))
  let count ← Fallible.outcome (inventoryCount store recipient)
  match count with
  | .ok 0 => throw originalError
  | .ok _ | .error _ => throw .stateUncertain

/-- Add first, then see what became of it. -/
def create (store : MacosUserPresenceStore) (recipient : RecipientId) (secret : RecoverySecret) :
    Store Unit := do
  let result ← (liftM (add store recipient secret).run : Store (Except Status Unit))
  match result with
  | .ok () =>
    let verified ← Fallible.outcome (verifyCreated store recipient secret)
    match verified with
    | .ok () => return ()
    | .error error => cleanupAfterFailedCreate store recipient secret error
  | .error status =>
    if status = errSecDuplicateItem then compareExisting store recipient secret
    else if isDefiniteAddFailure status then throw (mapError status)
    else reconcileAfterAddError store recipient secret status

end Fingerprint

/-! ## What the calls show -/

/-- The key of an entry. -/
def entryKey (store : MacosUserPresenceStore) (recipient : RecipientId) : EntryKey :=
  ⟨.dataProtectionKeychain, recoveryServiceName store.application, recipientName recipient⟩

section Shows

variable {refused : List Status} {s : Keychains} {store : MacosUserPresenceStore}
  {recipient : RecipientId}

theorem ends_findValues (store : MacosUserPresenceStore) (recipient : RecipientId)
    (s : Keychains) :
    Ends (Step refused) s (findValues store recipient) fun r s' => s' = s ∧
      ∀ values, r = .ok values → Shown (entryKey store recipient) s values := by
  refine ends_search (fun status hstatus => ?_) fun items hitems => ?_
  · change Ends _ _ (if status = errSecItemNotFound then _ else _) _
    split
    · rename_i hmissing
      refine ends_pure ⟨rfl, fun values h => ?_⟩
      cases h
      have hvacant := hstatus hmissing
      rw [matches_of_label_none rfl] at hvacant
      exact ⟨[], Inventory.lists_nil_iff.mpr hvacant, rfl⟩
    · exact ends_throw ⟨rfl, by simp⟩
  · rw [matches_of_label_none rfl] at hitems
    refine ends_except ⟨rfl, fun values h => ?_⟩
    rw [mapM_asData rfl rfl rfl, limited_of_all rfl] at h
    cases h
    exact ⟨items, hitems, rfl⟩

/-- **`Counted m count`** — the inventory has that many items. -/
def Counted (m : Inventory Entry) (count : Nat) : Prop :=
  ∃ items, m.Lists items ∧ count = items.length

theorem Counted.vacant {m : Inventory Entry} (h : Counted m 0) : m.Vacant := by
  obtain ⟨items, hitems, hcount⟩ := h
  rw [List.length_eq_zero_iff.mp hcount.symm] at hitems
  exact Inventory.lists_nil_iff.mp hitems

theorem Counted.sole {m : Inventory Entry} (h : Counted m 1) : ∃ i e, m.Sole i e := by
  obtain ⟨items, hitems, hcount⟩ := h
  obtain ⟨i, rfl⟩ := List.length_eq_one_iff.mp hcount.symm
  exact ⟨i, Inventory.lists_singleton_iff.mp hitems⟩

theorem Counted.eq_one {m : Inventory Entry} {count i : Nat} {e : Entry} (h : Counted m count)
    (hsole : m.Sole i e) : count = 1 := by
  obtain ⟨items, hitems, rfl⟩ := h
  rw [hsole.lists hitems]
  rfl

/-- A count is the number of the entries that the query matches. -/
theorem ends_countEntries (query : ItemSearchOptions) (hlimit : query.limit = .all)
    (s : Keychains) :
    Ends (Step refused) s (countEntries query) fun r s' => s' = s ∧
      ∀ count, r = .ok count → Counted (s.items.filter query.matches) count := by
  refine ends_search (fun status hstatus => ?_) fun items hitems => ?_
  · change Ends _ _ (if status = errSecItemNotFound then _ else _) _
    split
    · rename_i hmissing
      refine ends_pure ⟨rfl, fun count h => ?_⟩
      cases h
      exact ⟨[], Inventory.lists_nil_iff.mpr (hstatus hmissing), rfl⟩
    · exact ends_throw ⟨rfl, by simp⟩
  · rw [limited_of_all hlimit]
    change Ends _ _ (if _ = true then _ else _) _
    split
    · refine ends_pure ⟨rfl, fun count h => ?_⟩
      cases h
      exact ⟨items, hitems, by simp⟩
    · exact ends_throw ⟨rfl, by simp⟩

theorem ends_inventoryCount (store : MacosUserPresenceStore) (recipient : RecipientId)
    (s : Keychains) :
    Ends (Step refused) s (inventoryCount store recipient) fun r s' => s' = s ∧
      ∀ count, r = .ok count →
        Counted (s.items.filter (entryKey store recipient).selects) count := by
  have h : Ends (Step refused) s _ _ := ends_countEntries
    { exactQuery store recipient with loadAttributes := true } rfl s
  rwa [matches_of_label_none rfl] at h

variable [Primitives]

theorem matches_deletionQuery {secret : RecoverySecret} {e : Entry} :
    (deletionQuery store recipient secret).matches e = true ↔
      e.key = entryKey store recipient ∧ e.label = itemLabel secret := by
  rw [ItemSearchOptions.matches, Bool.and_eq_true, selects_iff]
  change e.key = entryKey store recipient ∧ (itemLabel secret == e.label) = true ↔ _
  rw [beq_iff_eq]
  exact and_congr_right fun _ => eq_comm

/-- What a load returns is the data of the sole entry, and agrees with its label. -/
def Loaded (store : MacosUserPresenceStore) (recipient : RecipientId) (s : Keychains)
    (secret : RecoverySecret) : Prop :=
  ∃ i e, (s.items.filter (entryKey store recipient).selects).Sole i e ∧
    e.data = secret.bytes.toList ∧ e.label = itemLabel secret

theorem ends_loadSole (store : MacosUserPresenceStore) (recipient : RecipientId) (s : Keychains) :
    Ends (Step refused) s (loadSole store recipient) fun r s' => s' = s ∧
      ∀ secret, r = .ok secret → Loaded store recipient s secret := by
  refine ends_bind (ends_findValues store recipient s) (fun _ _ h => ⟨h.1, by simp⟩) ?_
  rintro values s' ⟨rfl, hvalues⟩
  match values, hvalues with
  | [], _ => exact ends_throw ⟨rfl, by simp⟩
  | [bytes], hvalues =>
    obtain ⟨i, e, hsole, hdata⟩ := (hvalues _ rfl).sole
    refine ends_except_bind (fun _ _ => ⟨rfl, by simp⟩) fun secret hsecret => ?_
    have hfingerprint : Ends (Step refused) s' _ _ := ends_countEntries
      { deletionQuery store recipient secret with
        limit := .all, loadAttributes := true } rfl s'
    refine ends_bind hfingerprint (fun _ _ h => ⟨h.1, by simp⟩) ?_
    rintro count s' ⟨rfl, hcount⟩
    match count, hcount with
    | 0, _ => exact ends_throw ⟨rfl, by simp⟩
    | 1, hcount =>
      refine ends_pure ⟨rfl, fun _ h => ?_⟩
      cases h
      obtain ⟨j, f, hlabelled⟩ := (hcount 1 rfl).sole
      obtain ⟨hholds, hmatches⟩ := Inventory.filter_eq_some.mp hlabelled.holds
      obtain ⟨hkey, hlabel⟩ := matches_deletionQuery.mp hmatches
      have hsame : f = e := by
        have hin := Inventory.filter_eq_some.mpr ⟨hholds, selects_iff.mpr hkey⟩
        obtain rfl := hsole.only j (by rw [hin]; simp)
        rw [hsole.holds] at hin
        exact (Option.some.inj hin).symm
      refine ⟨i, e, hsole, ?_, hsame ▸ hlabel⟩
      rw [hdata]
      exact importRecoverySecret_eq_ok.mp hsecret
    | _ + 2, _ => exact ends_throw ⟨rfl, by simp⟩
  | _ :: _ :: _, _ => exact ends_throw ⟨rfl, by simp⟩

theorem ends_loadExact (store : MacosUserPresenceStore) (recipient : RecipientId)
    (s : Keychains) :
    Ends (Step refused) s (loadExact store recipient) fun r s' => s' = s ∧
      ∀ secret, r = .ok secret → Loaded store recipient s secret := by
  refine ends_bind (ends_inventoryCount store recipient s) (fun _ _ h => ⟨h.1, by simp⟩) ?_
  rintro count s' ⟨rfl, -⟩
  match count with
  | 0 => exact ends_throw ⟨rfl, by simp⟩
  | 1 => exact ends_loadSole store recipient s'
  | _ + 2 => exact ends_throw ⟨rfl, by simp⟩

omit [Primitives] in
theorem secretsMatch_iff {actual expected : RecoverySecret} :
    secretsMatch actual expected = true ↔ actual = expected := by
  rw [secretsMatch, recoverySecretMatches_iff, RecoverySecret.ext_iff, Bytes.ext_iff]

/-- Loading an entry and comparing it with a secret. -/
theorem ends_loadAndCompare {secret : RecoverySecret} {error : StoreError}
    (store : MacosUserPresenceStore) (recipient : RecipientId) (s : Keychains) :
    Ends (Step refused) s (do
        let stored ← loadExact store recipient
        if secretsMatch stored secret then return () else throw error) fun r s' => s' = s ∧
      (r = .ok () → Loaded store recipient s secret) := by
  refine ends_bind (ends_loadExact store recipient s) (fun _ _ h => ⟨h.1, by simp⟩) ?_
  rintro stored s' ⟨rfl, hstored⟩
  split
  · rename_i hmatch
    obtain rfl := secretsMatch_iff.mp hmatch
    exact ends_pure ⟨rfl, fun _ => hstored stored rfl⟩
  · exact ends_throw ⟨rfl, by simp⟩

end Shows

/-! ## Outcomes -/

section Outcomes

variable [Primitives] {s s' : Keychains} {store : MacosUserPresenceStore}
  {recipient : RecipientId} {secret : RecoverySecret} {r : Result Unit}

/-- The statuses of an addition that leave no entry. -/
def refusals : List Status :=
  [errSecDuplicateItem, errSecMissingEntitlement, errSecUnimplemented]

/-- The entry that a creation adds. -/
def entry (store : MacosUserPresenceStore) (recipient : RecipientId) (secret : RecoverySecret) :
    Entry :=
  ⟨.dataProtectionKeychain, recoveryServiceName store.application, recipientName recipient,
    itemLabel secret, secret.bytes.toList⟩

/-- What a creation says. -/
def Creates (store : MacosUserPresenceStore) (recipient : RecipientId) (secret : RecoverySecret)
    (s : Keychains) (r : Result Unit) (s' : Keychains) : Prop :=
  CreateTells (fun e => e.data = secret.bytes.toList ∧ e.label = itemLabel secret)
    (entryKey store recipient).selects s.items r s'.items

theorem ends_add (store : MacosUserPresenceStore) (recipient : RecipientId)
    (secret : RecoverySecret) (s : Keychains) :
    Ends (Step refusals) s (add store recipient secret)
      (AddEnds refusals s (entry store recipient secret)) := by
  refine ends_ask_bind fun reply s₁ hstep => ?_
  obtain rfl : s₁ = s := hstep
  refine ends_except_bind (fun status _ => .inl rfl) fun _ _ => ?_
  exact ends_ask_bind fun reply s' hstep => ends_except hstep

theorem creates_of_loaded (h : r = .ok () → Loaded store recipient s secret) :
    Creates store recipient secret s r s :=
  .of_eq h

theorem creates_of_adds (h : Adds s (entry store recipient secret) s')
    (hr : r = .ok () ∨ r = .error .stateUncertain) : Creates store recipient secret s r s' := by
  obtain ⟨item, hsole⟩ := h.sole
  refine ⟨fun _ => ⟨item, _, hsole, rfl, rfl⟩, fun i e hi => h.kept hi,
    fun error herror hne => ?_⟩
  rcases hr with rfl | rfl
  · cases herror
  · cases herror
    exact absurd rfl hne

/-- An entry that was added is the one that is loaded. -/
theorem eq_of_loaded (h : Adds s (entry store recipient secret) s') {stored : RecoverySecret}
    (hloaded : Loaded store recipient s' stored) : stored = secret := by
  obtain ⟨item, hadded⟩ := h.sole
  obtain ⟨i, e, hsole, hdata, -⟩ := hloaded
  obtain ⟨-, rfl⟩ := hadded.unique hsole
  exact RecoverySecret.ext (Bytes.ext hdata.symm)

/-- A deletion keeps the entries of other keys. -/
theorem matches_eq_false {e : Entry} (h : (entryKey store recipient).selects e = false) :
    (deletionQuery store recipient secret).matches e = false := by
  rw [Bool.eq_false_iff]
  intro hmatches
  rw [selects_iff.mpr (matches_deletionQuery.mp hmatches).1] at h
  cases h

/-- Deleting what was just added. -/
theorem eraseAll_of_adds (h : Adds s (entry store recipient secret) s') :
    s'.items.eraseAll (deletionQuery store recipient secret).matches = s.items := by
  obtain ⟨hvacant, item, hitem, hitems⟩ := h
  rw [hitems]
  refine Inventory.eraseAll_insert hitem (matches_deletionQuery.mpr ⟨rfl, rfl⟩) fun i e hi => ?_
  exact matches_eq_false (Inventory.filter_eq_none.mp (hvacant i) e hi)

/-- A deletion of the new entry is undone addition, or the entry is still counted. -/
theorem ends_cleanup (h : Adds s (entry store recipient secret) s') (error : StoreError) :
    Ends (Step refusals) s' (cleanupAfterFailedCreate store recipient secret error)
      (Creates store recipient secret s) := by
  have hundone : ∀ {s₁ : Keychains} {r : Result Unit} {e : StoreError},
      s₁.items = s.items → r = .error e → Creates store recipient secret s r s₁ := by
    rintro s₁ r e hitems rfl
    obtain rfl := Keychains.ext hitems
    exact .failed e
  have hleft : Creates store recipient secret s (.error .stateUncertain) s' :=
    creates_of_adds h (.inr rfl)
  refine ends_ask_bind fun reply s₁ hstep => ?_
  refine ends_run_bind (ends_inventoryCount store recipient s₁) ?_
  rintro r s₁ ⟨rfl, hcount⟩
  rcases hstep with hgone | ⟨-, rfl⟩
  · have hitems := hgone.trans (eraseAll_of_adds h)
    match r with
    | .ok 0 => exact ends_throw (hundone hitems rfl)
    | .ok (_ + 1) => exact ends_throw (hundone hitems rfl)
    | .error _ => exact ends_throw (hundone hitems rfl)
  · match r, hcount with
    | .ok 0, hcount =>
      obtain ⟨item, hsole⟩ := h.sole
      exact absurd hsole (hcount 0 rfl).vacant.not_sole
    | .ok (_ + 1), _ => exact ends_throw hleft
    | .error _, _ => exact ends_throw hleft

/-- After an addition that failed, the inventory tells whether it had its effect. -/
theorem ends_reconcile {status : Status}
    (hadd : s' = s ∨ Adds s (entry store recipient secret) s') :
    Ends (Step refusals) s' (reconcileAfterAddError store recipient secret status)
      (Creates store recipient secret s) := by
  have huncertain : Creates store recipient secret s (.error .stateUncertain) s' := by
    rcases hadd with rfl | hadds
    · exact .failed _
    · exact creates_of_adds hadds (.inr rfl)
  refine ends_run_bind (ends_inventoryCount store recipient s') ?_
  rintro r s' ⟨rfl, hcount⟩
  match r, hcount with
  | .error _, _ => exact ends_throw huncertain
  | .ok 1, _ =>
    refine ends_run_bind (ends_loadExact store recipient s') ?_
    rintro (error | stored) s' ⟨rfl, hstored⟩
    · exact ends_throw huncertain
    · change Ends _ _ (if secretsMatch stored secret = true then _ else _) _
      rcases hadd with rfl | hadds
      · split
        · rename_i hmatch
          obtain rfl := secretsMatch_iff.mp hmatch
          exact ends_pure (creates_of_loaded fun _ => hstored stored rfl)
        · exact ends_throw (.failed _)
      · rw [if_pos (secretsMatch_iff.mpr (eq_of_loaded hadds (hstored stored rfl)))]
        exact ends_pure (creates_of_adds hadds (.inl rfl))
  | .ok 0, hcount =>
    rcases hadd with rfl | hadds
    · exact ends_throw (.failed _)
    · obtain ⟨item, hsole⟩ := hadds.sole
      exact absurd hsole (hcount 0 rfl).vacant.not_sole
  | .ok (count + 2), hcount =>
    rcases hadd with rfl | hadds
    · exact ends_throw (.failed _)
    · obtain ⟨item, hsole⟩ := hadds.sole
      have hone := (hcount _ rfl).eq_one hsole
      omega

theorem create_tells (store : MacosUserPresenceStore) (recipient : RecipientId)
    (secret : RecoverySecret) (s : Keychains) :
    Ends (Step refusals) s (create store recipient secret)
      (Creates store recipient secret s) := by
  refine ends_run_bind (ends_add store recipient secret s) ?_
  rintro (status | _) s' hadd
  · change Ends _ _ (if status = errSecDuplicateItem then _ else _) _
    split
    · rename_i hduplicate
      obtain rfl : s' = s := hadd.resolve_right fun h => h.1 (by simp [refusals, hduplicate])
      refine (ends_loadAndCompare store recipient s').mono ?_
      rintro r s' ⟨rfl, hloaded⟩
      exact creates_of_loaded hloaded
    · split
      · rename_i hdefinite
        have hrefused : status ∈ refusals := by
          simp only [isDefiniteAddFailure, Bool.or_eq_true, decide_eq_true_eq] at hdefinite
          simp [refusals, hdefinite]
        obtain rfl : s' = s := hadd.resolve_right fun h => h.1 hrefused
        exact ends_throw (.failed _)
      · exact ends_reconcile (hadd.imp id And.right)
  · refine ends_run_bind (ends_loadAndCompare store recipient s') ?_
    rintro (error | _) s₁ ⟨rfl, -⟩
    · exact ends_cleanup hadd error
    · exact ends_pure (creates_of_adds hadd (.inl rfl))

theorem load_tells (store : MacosUserPresenceStore) (recipient : RecipientId) (s : Keychains) :
    Ends (Step refusals) s (load store recipient) fun r s' =>
      LoadTells (fun (secret : RecoverySecret) e =>
        e.data = secret.bytes.toList ∧ e.label = itemLabel secret)
        (entryKey store recipient).selects s.items r s'.items := by
  refine (ends_loadExact store recipient s).mono ?_
  rintro r s' ⟨rfl, hloaded⟩
  exact ⟨hloaded, rfl⟩

/-! ### Removing -/

/-- The deletion of a removal: the sole entry is gone, or nothing has changed. -/
theorem eraseAll_of_sole {item : KeychainItem} {e : Entry}
    (hsole : (s.items.filter (entryKey store recipient).selects).Sole item e) :
    (((s.items.eraseAll (deletionQuery store recipient secret).matches).filter
        (entryKey store recipient).selects).Vacant ∨
      s.items.eraseAll (deletionQuery store recipient secret).matches = s.items) := by
  by_cases hmatch : (deletionQuery store recipient secret).matches e = true
  · left
    intro j
    refine Inventory.filter_eq_none.mpr fun f hf => ?_
    obtain ⟨hj, hkept⟩ := Inventory.filter_eq_some.mp hf
    rw [Bool.eq_false_iff]
    intro hkey
    have hin := Inventory.filter_eq_some.mpr ⟨hj, hkey⟩
    obtain rfl := hsole.only j (by rw [hin]; simp)
    rw [hsole.holds] at hin
    cases hin
    rw [hmatch] at hkept
    cases hkept
  · right
    refine Inventory.eraseAll_eq_self fun j f hj => ?_
    by_cases hkey : (entryKey store recipient).selects f = true
    · have hin := Inventory.filter_eq_some.mpr ⟨hj, hkey⟩
      obtain rfl := hsole.only j (by rw [hin]; simp)
      rw [hsole.holds] at hin
      cases hin
      exact Bool.eq_false_iff.mpr hmatch
    · exact matches_eq_false (Bool.eq_false_iff.mpr hkey)

/-- What a removal says, and what it keeps. -/
def Removes (store : MacosUserPresenceStore) (recipient : RecipientId)
    (expected : RecoverySecret) (s : Keychains) (r : Result Removal) (s' : Keychains) : Prop :=
  RemoveTells (entryKey store recipient).selects s.items r s'.items ∧
    ∀ i e, s.items i = some e → e.label ≠ itemLabel expected → s'.items i = some e

theorem remove_tells (store : MacosUserPresenceStore) (recipient : RecipientId)
    (expected : RecoverySecret) (s : Keychains) :
    Ends (Step refusals) s (remove store recipient expected)
      (Removes store recipient expected s) := by
  refine ends_bind (ends_inventoryCount store recipient s) ?_ ?_
  · rintro error s' ⟨rfl, -⟩
    exact ⟨.failed error, fun _ _ h _ => h⟩
  · rintro count s' ⟨rfl, hcount⟩
    match count, hcount with
    | 0, hcount => exact ends_pure ⟨.nothing (hcount 0 rfl).vacant, fun _ _ h _ => h⟩
    | _ + 2, _ => exact ends_throw ⟨.failed _, fun _ _ h _ => h⟩
    | 1, hcount =>
      obtain ⟨item, e, hsole⟩ := (hcount 1 rfl).sole
      refine ends_ask_bind fun reply s₁ hstep => ?_
      have hkept : ∀ i e, s'.items i = some e → e.label ≠ itemLabel expected →
          s₁.items i = some e := by
        intro i f hi hlabel
        rcases hstep with hgone | ⟨-, rfl⟩
        · rw [hgone]
          refine Inventory.eraseAll_kept hi (Bool.eq_false_iff.mpr fun hmatch => ?_)
          exact hlabel (matches_deletionQuery.mp hmatch).2
        · exact hi
      have hremoved : (s₁.items.filter (entryKey store recipient).selects).Vacant →
          Removes store recipient expected s' (.ok .removed) s₁ :=
        fun hvacant => ⟨⟨fun _ => ⟨⟨item, e, hsole⟩, hvacant⟩, by simp, by simp⟩, hkept⟩
      have huncertain : Removes store recipient expected s' (.error .stateUncertain) s₁ :=
        ⟨.uncertain, hkept⟩
      have hunchanged : ∀ error, Counted (s₁.items.filter (entryKey store recipient).selects) 1 →
          Removes store recipient expected s' (.error error) s₁ := by
        intro error hone
        obtain ⟨i, f, hstill⟩ := hone.sole
        have hsame : s₁ = s' := by
          rcases hstep with hgone | ⟨-, hsame⟩
          · refine Keychains.ext (hgone.trans ?_)
            refine (eraseAll_of_sole hsole).resolve_left fun hvacant => ?_
            rw [← hgone] at hvacant
            exact hvacant.not_sole hstill
          · exact hsame
        subst hsame
        exact ⟨.failed error, fun _ _ h _ => h⟩
      cases reply with
      | ok _ =>
          refine ends_run_bind (ends_inventoryCount store recipient s₁) ?_
          rintro r s₁ ⟨rfl, hcount⟩
          match r, hcount with
          | .ok 0, hcount => exact ends_pure (hremoved (hcount 0 rfl).vacant)
          | .ok (_ + 1), _ => exact ends_throw huncertain
          | .error _, _ => exact ends_throw huncertain
      | error status =>
          refine ends_run_bind (ends_inventoryCount store recipient s₁) ?_
          rintro r s₁ ⟨rfl, hcount⟩
          match r, hcount with
          | .ok 0, hcount => exact ends_pure (hremoved (hcount 0 rfl).vacant)
          | .ok 1, hcount =>
            change Ends _ _ (if status = errSecItemNotFound then _ else _) _
            split
            · exact ends_throw (hunchanged _ (hcount 1 rfl))
            · exact ends_throw (hunchanged _ (hcount 1 rfl))
          | .ok (_ + 2), _ => exact ends_throw huncertain
          | .error _, _ => exact ends_throw huncertain

end Outcomes

end FidoKeyWrap.Platform.UserPresence
