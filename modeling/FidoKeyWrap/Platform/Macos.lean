/-
# FidoKeyWrap.Platform.Macos — local factors in a macos keychain.

The store of a signed application uses the data-protection keychain, and that of an unsigned program
the default login keychain. They differ in how an entry is added and searched for; the operations are
the same. A creation never looks first: the keychain refuses a second entry, and what it reports is
settled by reading the entry back.
-/
import FidoKeyWrap.Platform.Keychain

namespace FidoKeyWrap.Platform.Macos

open ByteData Interact Fallible Keychain

/-! ## The store -/

/-- The label of every entry; no search uses it. -/
def label : String := "fido key wrap local secret"

/-- Which keychain the store uses. -/
inductive StoreKind where
  | dataProtection
  | loginKeychain
  deriving DecidableEq

/-- `NativeLocalSecretStore`, on macos. -/
structure NativeLocalSecretStore where
  application : ApplicationId
  kind : StoreKind

/-- A program of the store. -/
abbrev Store := Security StoreError

/-- The error of a status. -/
def mapError (status : Status) : StoreError :=
  if status = errSecDuplicateItem then .alreadyExists
  else if status = errSecItemNotFound then .missing
  else if status = errSecUserCanceled then .cancelled
  else if status = errSecAuthFailed ∨ status = errSecInteractionNotAllowed
      ∨ status = errSecMissingEntitlement then .accessDenied
  else if status = errSecNotAvailable ∨ status = errSecIO then .unavailable
  else if status = errSecUnimplemented then .unsupported
  else .operationFailed

/-- Add an entry to the default login keychain. -/
def addLoginKeychain (store : NativeLocalSecretStore) (recipient : RecipientId)
    (secret : LocalSecret) : Security Status Unit := do
  let reply ← call .defaultKeychain
  (liftM reply : Security Status Unit)
  let reply ← call (.add {
    location := .fileKeychain
    service := serviceName store.application
    account := recipientName recipient
    label := label
    data := secret.bytes.toList })
  liftM reply

/-- Add an entry that this device can read while it is unlocked. -/
def addDataProtection (store : NativeLocalSecretStore) (recipient : RecipientId)
    (secret : LocalSecret) : Security Status Unit := do
  let reply ← call (.accessControl .accessibleWhenUnlockedThisDeviceOnly 0)
  (liftM reply : Security Status Unit)
  let reply ← call (.add {
    location := .dataProtectionKeychain
    service := serviceName store.application
    account := recipientName recipient
    label := label
    data := secret.bytes.toList })
  liftM reply

/-- The search for one key: all entries, or the one that a file keychain can hold. -/
def query (store : NativeLocalSecretStore) (recipient : RecipientId) (loadData : Bool) :
    Store ItemSearchOptions :=
  match store.kind with
  | .dataProtection =>
    return {
      location := .dataProtectionKeychain
      service := serviceName store.application
      account := recipientName recipient
      loadData := loadData
      limit := .all }
  | .loginKeychain => do
    let reply ← call .defaultKeychain
    (liftM (reply.mapError mapError) : Store Unit)
    return {
      location := .fileKeychain
      service := serviceName store.application
      account := recipientName recipient
      loadData := loadData
      limit := .max 1 }

/-- The contents of the entries of a key. -/
def findValues (store : NativeLocalSecretStore) (recipient : RecipientId) :
    Store (List ByteString) := do
  let options ← query store recipient true
  let reply ← call (.search options)
  match reply with
  | .ok results => liftM (results.mapM SearchResult.asData)
  | .error status =>
    if status = errSecItemNotFound then return [] else throw (mapError status)

/-- The reference of a search result. -/
def asItem : SearchResult → Result KeychainItem
  | .ref item => .ok item
  | _ => .error .corrupt

/-- The references of the entries of a key. -/
def findItems (store : NativeLocalSecretStore) (recipient : RecipientId) :
    Store (List KeychainItem) := do
  let options ← query store recipient false
  let reply ← call (.search { options with loadRefs := true })
  match reply with
  | .ok results => liftM (results.mapM asItem)
  | .error status =>
    if status = errSecItemNotFound then return [] else throw (mapError status)

/-- What an addition that failed has left is read back. -/
def reconcileAfterAddError (store : NativeLocalSecretStore) (recipient : RecipientId)
    (secret : LocalSecret) (nativeError : Status) : Store Unit := do
  let found ← Fallible.outcome (findValues store recipient)
  match found with
  | .error _ => throw .stateUncertain
  | .ok [] => throw (mapError nativeError)
  | .ok [bytes] => liftM (compareStored bytes secret)
  | .ok _ => throw .ambiguous

/-- Read back what was added. -/
def verifyCreated (store : NativeLocalSecretStore) (recipient : RecipientId)
    (secret : LocalSecret) : Store Unit := do
  let values ← findValues store recipient
  match values with
  | [bytes] => if binaryMatches bytes secret then return () else throw .corrupt
  | [] => throw .operationFailed
  | _ => throw .ambiguous

/-- Add first, then see what became of it. -/
def create (store : NativeLocalSecretStore) (recipient : RecipientId) (secret : LocalSecret) :
    Store Unit := do
  let add := match store.kind with
    | .dataProtection => addDataProtection store recipient secret
    | .loginKeychain => addLoginKeychain store recipient secret
  let result ← (liftM add.run : Store (Except Status Unit))
  match result with
  | .ok () =>
    let verified ← Fallible.outcome (verifyCreated store recipient secret)
    match verified with
    | .ok () => return ()
    | .error _ => throw .stateUncertain
  | .error status =>
    if status = errSecDuplicateItem then
      let values ← findValues store recipient
      match values with
      | [bytes] => liftM (compareStored bytes secret)
      | [] => throw .operationFailed
      | _ => throw .ambiguous
    else reconcileAfterAddError store recipient secret status

/-- The secret of the only entry. -/
def load (store : NativeLocalSecretStore) (recipient : RecipientId) : Store LocalSecret := do
  let values ← findValues store recipient
  match values with
  | [] => throw .missing
  | [bytes] => liftM (importBinary bytes)
  | _ => throw .ambiguous

/-- Delete the only entry, and see that none is left. -/
def remove (store : NativeLocalSecretStore) (recipient : RecipientId) : Store Removal := do
  let items ← findItems store recipient
  match items with
  | [] => return .absent
  | [item] =>
    let _ ← call (.deleteItem item)
    let found ← Fallible.outcome (findItems store recipient)
    match found with
    | .error _ => throw .stateUncertain
    | .ok remaining => if remaining.isEmpty then return .removed else throw .stateUncertain
  | _ => throw .ambiguous

/-! ## Calls of the store -/

/-- The keychain of a kind of store. -/
def StoreKind.location : StoreKind → Location
  | dataProtection => .dataProtectionKeychain
  | loginKeychain => .fileKeychain

/-- The key of an entry. -/
def entryKey (store : NativeLocalSecretStore) (recipient : RecipientId) : EntryKey :=
  ⟨store.kind.location, serviceName store.application, recipientName recipient⟩

/-- The entry that a creation adds. -/
def entry (store : NativeLocalSecretStore) (recipient : RecipientId) (secret : LocalSecret) :
    Entry :=
  ⟨store.kind.location, serviceName store.application, recipientName recipient, label,
    secret.bytes.toList⟩

section Calls

variable {refused : List Status} {s : Keychains}

theorem ends_add (store : NativeLocalSecretStore) (recipient : RecipientId)
    (secret : LocalSecret) (s : Keychains) :
    Ends (Step refused) s
      (match store.kind with
        | .dataProtection => addDataProtection store recipient secret
        | .loginKeychain => addLoginKeychain store recipient secret)
      (AddEnds refused s (entry store recipient secret)) := by
  cases hkind : store.kind with
  | dataProtection =>
      refine ends_ask_bind fun reply s₁ hstep => ?_
      obtain rfl : s₁ = s := hstep
      refine ends_except_bind (fun status _ => .inl rfl) fun _ _ => ?_
      refine ends_ask_bind fun reply s' hstep => ends_except ?_
      rw [entry, hkind]
      exact hstep
  | loginKeychain =>
      refine ends_ask_bind fun reply s₁ hstep => ?_
      obtain rfl : s₁ = s := hstep
      refine ends_except_bind (fun status _ => .inl rfl) fun _ _ => ?_
      refine ends_ask_bind fun reply s' hstep => ends_except ?_
      rw [entry, hkind]
      exact hstep

/-- A query for the key that shows every entry of it. -/
structure Complete (key : EntryKey) (options : ItemSearchOptions) : Prop where
  key : options.key = key
  label : options.label = none
  limit : options.limit = .all ∨ options.limit = .max 1 ∧ options.location = .fileKeychain

theorem Complete.matches {key : EntryKey} {options : ItemSearchOptions}
    (h : Complete key options) : options.matches = key.selects := by
  rw [matches_of_label_none h.label, h.key]

theorem Complete.limited {key : EntryKey} {options : ItemSearchOptions}
    (h : Complete key options) {items : List KeychainItem}
    (hitems : (s.items.filter key.selects).Lists items) : options.limited items = items := by
  rcases h.limit with hall | ⟨hone, hfile⟩
  · exact limited_of_all hall items
  · rw [← h.matches] at hitems
    exact limited_of_file hone hfile hitems

theorem ends_query (store : NativeLocalSecretStore) (recipient : RecipientId) (loadData : Bool)
    (s : Keychains) :
    Ends (Step refused) s (query store recipient loadData) fun r s' => s' = s ∧
      ∀ options, r = .ok options → Complete (entryKey store recipient) options ∧
        options.loadData = loadData ∧ options.loadRefs = false ∧
        options.loadAttributes = false := by
  unfold query
  split
  · rename_i hkind
    refine ends_pure ⟨rfl, fun options h => ?_⟩
    cases h
    refine ⟨⟨?_, rfl, .inl rfl⟩, rfl, rfl, rfl⟩
    rw [entryKey, hkind]
    rfl
  · rename_i hkind
    refine ends_ask_bind fun reply s' hstep => ?_
    obtain rfl : s' = s := hstep
    refine ends_except_bind (fun _ _ => ⟨rfl, by simp⟩) fun _ _ => ?_
    refine ends_pure ⟨rfl, fun options h => ?_⟩
    cases h
    refine ⟨⟨?_, rfl, .inr ⟨rfl, rfl⟩⟩, rfl, rfl, rfl⟩
    rw [entryKey, hkind]
    rfl

theorem ends_findValues (store : NativeLocalSecretStore) (recipient : RecipientId)
    (s : Keychains) :
    Ends (Step refused) s (findValues store recipient) fun r s' => s' = s ∧
      ∀ values, r = .ok values → Shown (entryKey store recipient) s values := by
  refine ends_bind (ends_query store recipient true s) (fun e s' h => ⟨h.1, by simp⟩) ?_
  rintro options s' ⟨rfl, hoptions⟩
  obtain ⟨hcomplete, hdata, hrefs, hattributes⟩ := hoptions options rfl
  refine ends_search (fun status hstatus => ?_) fun items hitems => ?_
  · rw [hcomplete.matches] at hstatus
    change Ends _ _ (if status = errSecItemNotFound then _ else _) _
    split
    · rename_i hmissing
      refine ends_pure ⟨rfl, fun values h => ?_⟩
      cases h
      exact ⟨[], Inventory.lists_nil_iff.mpr (hstatus hmissing), rfl⟩
    · exact ends_throw ⟨rfl, by simp⟩
  · rw [hcomplete.matches] at hitems
    refine ends_except ⟨rfl, fun values h => ?_⟩
    rw [mapM_asData hdata hrefs hattributes, hcomplete.limited hitems] at h
    cases h
    exact ⟨items, hitems, rfl⟩

theorem mapM_asItem (items : List KeychainItem) :
    (items.map SearchResult.ref).mapM asItem = .ok items := by
  induction items with
  | nil => rfl
  | cons item items ih =>
      rw [List.map_cons, List.mapM_cons, ih]
      rfl

theorem ends_findItems (store : NativeLocalSecretStore) (recipient : RecipientId)
    (s : Keychains) :
    Ends (Step refused) s (findItems store recipient) fun r s' => s' = s ∧
      ∀ items, r = .ok items →
        (s.items.filter (entryKey store recipient).selects).Lists items := by
  refine ends_bind (ends_query store recipient false s) (fun e s' h => ⟨h.1, by simp⟩) ?_
  rintro options s' ⟨rfl, hoptions⟩
  obtain ⟨hcomplete, hdata, hrefs, hattributes⟩ := hoptions options rfl
  have hwith : Complete (entryKey store recipient) { options with loadRefs := true } :=
    ⟨hcomplete.key, hcomplete.label, hcomplete.limit⟩
  refine ends_search (fun status hstatus => ?_) fun items hitems => ?_
  · rw [hwith.matches] at hstatus
    change Ends _ _ (if status = errSecItemNotFound then _ else _) _
    split
    · rename_i hmissing
      refine ends_pure ⟨rfl, fun values h => ?_⟩
      cases h
      exact Inventory.lists_nil_iff.mpr (hstatus hmissing)
    · exact ends_throw ⟨rfl, by simp⟩
  · rw [hwith.matches] at hitems
    refine ends_except ⟨rfl, fun shown h => ?_⟩
    have hresult : ({ options with loadRefs := true } : ItemSearchOptions).result s'.items =
        SearchResult.ref := by
      funext item
      simp [ItemSearchOptions.result, hdata, hattributes]
    rw [hwith.limited hitems, hresult, mapM_asItem] at h
    cases h
    exact hitems

end Calls

/-! ## Outcomes -/

section Outcomes

variable {s s' : Keychains} {store : NativeLocalSecretStore} {recipient : RecipientId}
  {secret : LocalSecret} {r : Result Unit}

/-- An entry that was added is there, whatever is reported of it but a definite failure. -/
theorem createTells_of_adds (h : Adds s (entry store recipient secret) s')
    (hr : r = .ok () ∨ r = .error .stateUncertain) :
    CreateTells (fun e => e.data = secret.bytes.toList) (entryKey store recipient).selects
      s.items r s'.items := by
  obtain ⟨item, hsole⟩ := h.sole
  refine ⟨fun _ => ⟨item, _, hsole, rfl⟩, fun i e hi => h.kept hi, fun error herror hne => ?_⟩
  rcases hr with rfl | rfl
  · cases herror
  · cases herror
    exact absurd rfl hne

/-- Comparing the value of the sole entry. -/
theorem createTells_of_shown {bytes : ByteString}
    (h : Shown (entryKey store recipient) s [bytes]) :
    CreateTells (fun e => e.data = secret.bytes.toList) (entryKey store recipient).selects
      s.items (compareStored bytes secret) s.items := by
  obtain ⟨i, e, hsole, hdata⟩ := h.sole
  refine .of_eq fun hok => ⟨i, e, hsole, ?_⟩
  rw [hdata]
  exact compareStored_eq_ok.mp hok

/-- The values of the key, once the entry is added. -/
theorem shown_of_adds (h : Adds s (entry store recipient secret) s') {values : List ByteString}
    (hvalues : Shown (entryKey store recipient) s' values) :
    values = [secret.bytes.toList] := by
  obtain ⟨item, hsole⟩ := h.sole
  exact hvalues.singleton_of_sole hsole

theorem create_tells (store : NativeLocalSecretStore) (recipient : RecipientId)
    (secret : LocalSecret) (s : Keychains) :
    Ends (Step [errSecDuplicateItem]) s (create store recipient secret) fun r s' =>
      CreateTells (fun e => e.data = secret.bytes.toList) (entryKey store recipient).selects
        s.items r s'.items := by
  refine ends_run_bind (ends_add store recipient secret s) ?_
  rintro (status | _) s' hadd
  · change Ends _ _ (if status = errSecDuplicateItem then _ else _) _
    split
    · rename_i hduplicate
      -- the status is one of those that leave no entry
      obtain rfl : s' = s := by
        rcases hadd with h | ⟨hrefused, -⟩
        · exact h
        · exact absurd (List.mem_singleton.mpr hduplicate) hrefused
      refine ends_bind (ends_findValues store recipient s') ?_ ?_
      · rintro error s' ⟨rfl, -⟩
        exact .failed error
      · rintro values s' ⟨rfl, hvalues⟩
        match values, hvalues with
        | [], _ => exact ends_throw (.failed _)
        | [bytes], hvalues => exact ends_except (createTells_of_shown (hvalues _ rfl))
        | _ :: _ :: _, _ => exact ends_throw (.failed _)
    · refine ends_run_bind (ends_findValues store recipient s') ?_
      rintro (error | values) s' ⟨rfl, hvalues⟩
      · rcases hadd with rfl | ⟨-, hadds⟩
        · exact ends_throw (.failed _)
        · exact ends_throw (createTells_of_adds hadds (.inr rfl))
      · have hshown := hvalues values rfl
        rcases hadd with rfl | ⟨-, hadds⟩
        · match values, hshown with
          | [], _ => exact ends_throw (.failed _)
          | [bytes], hshown => exact ends_except (createTells_of_shown hshown)
          | _ :: _ :: _, _ => exact ends_throw (.failed _)
        · obtain rfl := shown_of_adds hadds hshown
          refine ends_except (createTells_of_adds hadds (.inl ?_))
          exact compareStored_eq_ok.mpr rfl
  · refine ends_run_bind (R := fun _ s₁ => s₁ = s') ?_ ?_
    · refine ends_bind (ends_findValues store recipient s') (fun _ _ h => h.1) ?_
      rintro values s₁ ⟨rfl, -⟩
      split
      · split
        · exact ends_pure rfl
        · exact ends_throw rfl
      · exact ends_throw rfl
      · exact ends_throw rfl
    · rintro (error | _) s₁ rfl
      · exact ends_throw (createTells_of_adds hadd (.inr rfl))
      · exact ends_pure (createTells_of_adds hadd (.inl rfl))

theorem load_tells (store : NativeLocalSecretStore) (recipient : RecipientId) (s : Keychains) :
    Ends (Step [errSecDuplicateItem]) s (load store recipient) fun r s' =>
      LoadTells (fun (secret : LocalSecret) e => e.data = secret.bytes.toList)
        (entryKey store recipient).selects s.items r s'.items := by
  refine ends_bind (ends_findValues store recipient s) ?_ ?_
  · rintro error s' ⟨rfl, -⟩
    exact .failed error
  · rintro values s' ⟨rfl, hvalues⟩
    match values, hvalues with
    | [], _ => exact ends_throw (.failed _)
    | [bytes], hvalues =>
      obtain ⟨i, e, hsole, hdata⟩ := (hvalues _ rfl).sole
      refine ends_except ⟨fun secret hsecret => ⟨i, e, hsole, ?_⟩, rfl⟩
      rw [hdata]
      exact importBinary_eq_ok.mp hsecret
    | _ :: _ :: _, _ => exact ends_throw (.failed _)

theorem remove_tells (store : NativeLocalSecretStore) (recipient : RecipientId) (s : Keychains) :
    Ends (Step [errSecDuplicateItem]) s (remove store recipient) fun r s' =>
      RemoveTells (entryKey store recipient).selects s.items r s'.items := by
  refine ends_bind (ends_findItems store recipient s) ?_ ?_
  · rintro error s' ⟨rfl, -⟩
    exact .failed error
  · rintro items s' ⟨rfl, hitems⟩
    match items, hitems with
    | [], hitems =>
      exact ends_pure (.nothing (Inventory.lists_nil_iff.mp (hitems [] rfl)))
    | [item], hitems =>
      obtain ⟨e, hsole⟩ := Inventory.lists_singleton_iff.mp (hitems [item] rfl)
      refine ends_ask_bind fun reply s₁ hstep => ?_
      refine ends_run_bind (ends_findItems store recipient s₁) ?_
      rintro (error | remaining) s₁ ⟨rfl, hremaining⟩
      · exact ends_throw .uncertain
      · have hlists := hremaining remaining rfl
        change Ends _ _ (if remaining.isEmpty = true then _ else _) _
        split
        · rename_i hempty
          rw [List.isEmpty_iff.mp hempty, Inventory.lists_nil_iff] at hlists
          exact ends_pure ⟨fun _ => ⟨⟨item, e, hsole⟩, hlists⟩, by simp, by simp⟩
        · exact ends_throw .uncertain
    | _ :: _ :: _, _ => exact ends_throw (.failed _)

end Outcomes

end FidoKeyWrap.Platform.Macos
