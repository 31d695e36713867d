/-
# FidoKeyWrap.Platform.KeychainMap — the keychain stores, without failures, are the map.

`Serves` is a set of keychains in which every call has its effect: an addition is refused exactly when
the key is taken, and a deletion finds nothing exactly when nothing matches. The three stores share
these keychains, each under its own service names and location.

The user-presence store deletes by fingerprint, so its removal is that of the map as long as the
expected secret and the stored one do not collide.
-/
import FidoKeyWrap.Platform.Macos
import FidoKeyWrap.Platform.UserPresence
import FidoKeyWrap.Platform.SecretMap

namespace FidoKeyWrap.Platform

open ByteData Interact Fallible

/-! ## Keychains without failures -/

namespace Keychain

/-- **`Serves s event s'`** — one call, with its reply and its effect. -/
def Serves (s : Keychains) : Event securityServices → Keychains → Prop
  | ⟨.search options, reply⟩, s' =>
    s' = s ∧
      ((∃ items, (s.items.filter options.matches).Lists items ∧
          reply = Except.ok ((options.limited items).map (options.result s.items))) ∨
        (s.items.filter options.matches).Vacant ∧ reply = Except.error errSecItemNotFound)
  | ⟨.add entry, reply⟩, s' =>
    reply = Except.ok () ∧ Adds s entry s' ∨
      ¬ (s.items.filter entry.key.selects).Vacant ∧ reply = Except.error errSecDuplicateItem ∧
        s' = s
  | ⟨.deleteItem item, _⟩, s' => s'.items = s.items.erase item
  | ⟨.delete options, reply⟩, s' =>
    ¬ (s.items.filter options.matches).Vacant ∧ reply = Except.ok () ∧
        s'.items = s.items.eraseAll options.matches ∨
      (s.items.filter options.matches).Vacant ∧ reply = Except.error errSecItemNotFound ∧ s' = s
  | ⟨.defaultKeychain, reply⟩, s' | ⟨.accessControl .., reply⟩, s' => reply = Except.ok () ∧ s' = s

/-- Keychains with fewer entries. -/
theorem Keychains.exists_fewer (s : Keychains) (items : Inventory Entry)
    (h : ∀ i e, items i = some e → s.items i = some e) : ∃ s' : Keychains, s'.items = items :=
  ⟨⟨items, fun i j e f hi hj => s.fileUnique i j e f (h i e hi) (h j f hj)⟩, rfl⟩

theorem Keychains.exists_adds (s : Keychains) {entry : Entry}
    (h : (s.items.filter entry.key.selects).Vacant) : ∃ s', Adds s entry s' := by
  obtain ⟨item, hfree⟩ := s.items.exists_free
  have hother : ∀ i e, s.items i = some e → e.key ≠ entry.key := by
    intro i e hi hkey
    have := Inventory.filter_eq_none.mp (h i) e hi
    rw [selects_iff.mpr hkey] at this
    cases this
  refine ⟨⟨s.items.insert item entry, fun i j e f hi hj hkey hfile => ?_⟩, h, item, hfree, rfl⟩
  by_cases hii : i = item
  · subst hii
    rw [Inventory.insert_self] at hi
    cases hi
    by_contra hji
    rw [Inventory.insert_of_ne (Ne.symm hji)] at hj
    exact hother j f hj hkey.symm
  · rw [Inventory.insert_of_ne hii] at hi
    by_cases hji : j = item
    · subst hji
      rw [Inventory.insert_self] at hj
      cases hj
      exact absurd hkey (hother i e hi)
    · rw [Inventory.insert_of_ne hji] at hj
      exact s.fileUnique i j e f hi hj hkey hfile

theorem exists_serves (s : Keychains) (query : Call) : ∃ reply s', Serves s ⟨query, reply⟩ s' := by
  cases query with
  | search options =>
      obtain ⟨items, hitems⟩ := (s.items.filter options.matches).exists_lists
      exact ⟨_, s, rfl, .inl ⟨items, hitems, rfl⟩⟩
  | add entry =>
      by_cases hvacant : (s.items.filter entry.key.selects).Vacant
      · obtain ⟨s', hadds⟩ := s.exists_adds hvacant
        exact ⟨.ok (), s', .inl ⟨rfl, hadds⟩⟩
      · exact ⟨.error errSecDuplicateItem, s, .inr ⟨hvacant, rfl, rfl⟩⟩
  | deleteItem item =>
      obtain ⟨s', hitems⟩ := s.exists_fewer (s.items.erase item) fun i e hi => by
        by_cases hii : i = item
        · subst hii
          rw [Inventory.erase_self] at hi
          cases hi
        · rwa [Inventory.erase_of_ne hii] at hi
      exact ⟨(), s', hitems⟩
  | delete options =>
      by_cases hvacant : (s.items.filter options.matches).Vacant
      · exact ⟨.error errSecItemNotFound, s, .inr ⟨hvacant, rfl, rfl⟩⟩
      · obtain ⟨s', hitems⟩ := s.exists_fewer (s.items.eraseAll options.matches) fun i e hi =>
          (Inventory.filter_eq_some.mp hi).1
        exact ⟨.ok (), s', .inl ⟨hvacant, rfl, hitems⟩⟩
  | defaultKeychain => exact ⟨.ok (), s, rfl, rfl⟩
  | accessControl => exact ⟨.ok (), s, rfl, rfl⟩

/-- Without failures is one way to be keychains. -/
theorem Serves.step {s s' : Keychains} {event : Event securityServices} {refused : List Status}
    (h : Serves s event s') : Step refused s event s' := by
  obtain ⟨query, reply⟩ := event
  cases query with
  | search options =>
      obtain ⟨rfl, ⟨items, hitems, rfl⟩ | ⟨hvacant, rfl⟩⟩ := h
      · exact ⟨rfl, items, hitems, rfl⟩
      · exact ⟨rfl, fun _ => hvacant⟩
  | add entry =>
      obtain ⟨rfl, hadds⟩ | ⟨-, rfl, rfl⟩ := h
      · exact hadds
      · exact .inl rfl
  | deleteItem item => exact .inr h
  | delete options =>
      obtain ⟨-, -, hitems⟩ | ⟨-, rfl, rfl⟩ := h
      · exact .inl hitems
      · exact .inr ⟨by simp, rfl⟩
  | defaultKeychain | accessControl => exact h.2

section Rules

variable {ε α : Type} {s s' : Keychains} {key : EntryKey} {Q : Except ε α → Keychains → Prop}

theorem ends_served_search {options : ItemSearchOptions}
    {f : Except Status (List SearchResult) → Security ε α}
    (hok : ∀ items, (s.items.filter options.matches).Lists items →
      Ends Serves s (f (.ok ((options.limited items).map (options.result s.items)))) Q)
    (hmissing : (s.items.filter options.matches).Vacant →
      Ends Serves s (f (.error errSecItemNotFound)) Q) :
    Ends Serves s (call (.search options) >>= f) Q := by
  refine ends_ask_bind fun reply s' hstep => ?_
  obtain ⟨rfl, ⟨items, hitems, rfl⟩ | ⟨hvacant, rfl⟩⟩ := hstep
  · exact hok items hitems
  · exact hmissing hvacant

/-- An entry is added where there is none, and refused where there is one. -/
theorem ends_served_add (entry : Entry) {holds : Bytes 32 → Entry → Prop} {cell : Cell}
    (hcell : Stores holds entry.key.selects s.items cell) :
    Ends Serves s (do
        let reply ← call (.add entry)
        (liftM reply : Security Status Unit)) fun r s' =>
      cell = none ∧ r = .ok () ∧ Adds s entry s' ∨
        cell ≠ none ∧ r = .error errSecDuplicateItem ∧ s' = s := by
  refine ends_ask_bind fun reply s' hstep => ends_except ?_
  obtain ⟨rfl, hadds⟩ | ⟨hvacant, rfl, rfl⟩ := hstep
  · refine .inl ⟨?_, rfl, hadds⟩
    cases cell with
    | none => rfl
    | some stored =>
        obtain ⟨item, e, hsole, -⟩ := hcell
        exact absurd hsole hadds.1.not_sole
  · refine .inr ⟨?_, rfl, rfl⟩
    rintro rfl
    exact hvacant hcell

/-- What an addition makes of the cell. -/
theorem Adds.acts {entry : Entry} {holds : Bytes 32 → Entry → Prop} {secret : Bytes 32}
    {r : Result α} (h : Adds s entry s') (he : holds secret entry) :
    Acts holds entry.key.selects s.items (r, some secret) r s'.items := by
  obtain ⟨hvacant, item, hfree, hitems⟩ := h
  rw [hitems]
  exact .inserted hvacant hfree (selects_key entry) he

/-- The values of a cell whose entry is known by its data. -/
theorem shown_of_stores {holds : Bytes 32 → Entry → Prop}
    (hdata : ∀ secret e, holds secret e → e.data = secret.toList) {cell : Cell}
    (hcell : Stores holds key.selects s.items cell) {values : List ByteString}
    (h : Shown key s values) : values = cell.toList.map Bytes.toList := by
  cases cell with
  | none => exact h.nil_of_vacant hcell
  | some secret =>
      obtain ⟨i, e, hsole, hholds⟩ := hcell
      rw [h.singleton_of_sole hsole, hdata secret e hholds]
      rfl

theorem apart_of_ne {key key' : EntryKey} (h : key ≠ key') :
    Inventory.Apart key.selects key'.selects := by
  intro e he
  rw [Bool.eq_false_iff]
  intro he'
  exact h ((selects_iff.mp he).symm.trans (selects_iff.mp he'))

end Rules

end Keychain

/-! ## The local store -/

namespace Macos

open Keychain

variable {s : Keychains} {store : NativeLocalSecretStore} {recipient : RecipientId} {cell : Cell}

/-- An entry holds a secret. -/
def HoldsData (secret : Bytes 32) (e : Entry) : Prop := e.data = secret.toList

/-- The query of the store is granted and shows every entry of the key. -/
theorem ends_served_query (store : NativeLocalSecretStore) (recipient : RecipientId)
    (loadData : Bool) (s : Keychains) :
    Ends Serves s (query store recipient loadData) fun r s' => s' = s ∧
      ∃ options, r = .ok options ∧ Complete (entryKey store recipient) options ∧
        options.loadData = loadData ∧ options.loadRefs = false ∧
        options.loadAttributes = false := by
  unfold query
  split
  · rename_i hkind
    refine ends_pure ⟨rfl, _, rfl, ⟨?_, rfl, .inl rfl⟩, rfl, rfl, rfl⟩
    rw [entryKey, hkind]
    rfl
  · rename_i hkind
    refine ends_ask_bind fun reply s' hstep => ?_
    obtain ⟨rfl, rfl⟩ := hstep
    refine ends_pure ⟨rfl, _, rfl, ⟨?_, rfl, .inr ⟨rfl, rfl⟩⟩, rfl, rfl, rfl⟩
    rw [entryKey, hkind]
    rfl

theorem ends_served_findValues
    (hcell : Stores HoldsData (entryKey store recipient).selects s.items cell) :
    Ends Serves s (findValues store recipient) fun r s' =>
      s' = s ∧ r = .ok (cell.toList.map Bytes.toList) := by
  refine ends_bind (ends_served_query store recipient true s) ?_ ?_
  · rintro error s' ⟨-, options, h, -⟩
    cases h
  · rintro options s' ⟨rfl, _, hoptions, hcomplete, hdata, hrefs, hattributes⟩
    cases hoptions
    refine ends_served_search (fun items hitems => ?_) fun hvacant => ?_
    · rw [hcomplete.matches] at hitems
      rw [hcomplete.limited hitems]
      refine ends_except ⟨rfl, ?_⟩
      rw [mapM_asData hdata hrefs hattributes,
        shown_of_stores (fun _ _ h => h) hcell ⟨items, hitems, rfl⟩]
    · rw [hcomplete.matches] at hvacant
      have hnone := shown_of_stores (fun _ _ h => h) hcell
        ⟨[], Inventory.lists_nil_iff.mpr hvacant, rfl⟩
      exact ends_pure ⟨rfl, by rw [← hnone]; rfl⟩

theorem ends_served_findItems (store : NativeLocalSecretStore) (recipient : RecipientId)
    (s : Keychains) :
    Ends Serves s (findItems store recipient) fun r s' => s' = s ∧
      ∃ items, r = .ok items ∧
        (s.items.filter (entryKey store recipient).selects).Lists items := by
  refine ends_bind (ends_served_query store recipient false s) ?_ ?_
  · rintro error s' ⟨-, options, h, -⟩
    cases h
  · rintro options s' ⟨rfl, _, hoptions, hcomplete, hdata, hrefs, hattributes⟩
    cases hoptions
    have hwith : Complete (entryKey store recipient) { options with loadRefs := true } :=
      ⟨hcomplete.key, hcomplete.label, hcomplete.limit⟩
    have hresult : ({ options with loadRefs := true } : ItemSearchOptions).result s'.items =
        SearchResult.ref := by
      funext item
      simp [ItemSearchOptions.result, hdata, hattributes]
    refine ends_served_search (fun items hitems => ?_) fun hvacant => ?_
    · rw [hwith.matches] at hitems
      rw [hwith.limited hitems]
      refine ends_except ⟨rfl, items, ?_, hitems⟩
      rw [hresult, mapM_asItem]
    · rw [hwith.matches] at hvacant
      exact ends_pure ⟨rfl, [], rfl, Inventory.lists_nil_iff.mpr hvacant⟩

theorem ends_served_addEntry (secret : LocalSecret)
    (hcell : Stores HoldsData (entryKey store recipient).selects s.items cell) :
    Ends Serves s
      (match store.kind with
        | .dataProtection => addDataProtection store recipient secret
        | .loginKeychain => addLoginKeychain store recipient secret)
      fun r s' =>
        cell = none ∧ r = .ok () ∧ Adds s (entry store recipient secret) s' ∨
          cell ≠ none ∧ r = .error errSecDuplicateItem ∧ s' = s := by
  have hadd := ends_served_add (s := s) (entry store recipient secret) hcell
  cases hkind : store.kind with
  | dataProtection =>
      have hentry : entry store recipient secret = ⟨.dataProtectionKeychain,
          serviceName store.application, recipientName recipient, label,
          secret.bytes.toList⟩ := by
        rw [entry, hkind]
        rfl
      rw [hentry] at hadd ⊢
      refine ends_ask_bind fun reply s₁ hstep => ?_
      obtain ⟨rfl, rfl⟩ := hstep
      refine ends_except_bind (fun error h => ?_) fun _ _ => hadd
      cases h
  | loginKeychain =>
      have hentry : entry store recipient secret = ⟨.fileKeychain,
          serviceName store.application, recipientName recipient, label,
          secret.bytes.toList⟩ := by
        rw [entry, hkind]
        rfl
      rw [hentry] at hadd ⊢
      refine ends_ask_bind fun reply s₁ hstep => ?_
      obtain ⟨rfl, rfl⟩ := hstep
      refine ends_except_bind (fun error h => ?_) fun _ _ => hadd
      cases h

theorem create_acts (secret : LocalSecret)
    (hcell : Stores HoldsData (entryKey store recipient).selects s.items cell) :
    Ends Serves s (create store recipient secret) fun r s' =>
      Acts HoldsData (entryKey store recipient).selects s.items (cell.create secret.bytes) r
        s'.items := by
  refine ends_run_bind (ends_served_addEntry secret hcell) ?_
  rintro r s' (⟨rfl, rfl, hadds⟩ | ⟨hsome, rfl, rfl⟩)
  · have hacts : Acts HoldsData (entryKey store recipient).selects s.items
        (.ok (), some secret.bytes) (.ok ()) s'.items := hadds.acts rfl
    refine ends_run_bind (R := fun r s₁ => s₁ = s' ∧ r = .ok ()) ?_ ?_
    · refine ends_bind (ends_served_findValues hacts.cell) ?_ ?_
      · rintro error s₁ ⟨-, h⟩
        cases h
      · rintro values s₁ ⟨rfl, hvalues⟩
        cases hvalues
        change Ends Serves s₁ (if binaryMatches secret.bytes.toList secret = true then _ else _) _
        rw [if_pos (binaryMatches_iff.mpr rfl)]
        exact ends_pure ⟨rfl, rfl⟩
    · rintro r s₁ ⟨rfl, rfl⟩
      exact ends_pure hacts
  · cases cell with
    | none => exact absurd rfl hsome
    | some stored =>
        change Ends Serves s' (if errSecDuplicateItem = errSecDuplicateItem then _ else _) _
        rw [if_pos rfl]
        refine ends_bind (ends_served_findValues hcell) ?_ ?_
        · rintro error s₁ ⟨-, h⟩
          cases h
        · rintro values s₁ ⟨rfl, hvalues⟩
          cases hvalues
          refine ends_except ?_
          rw [compareStored_toList]
          exact .unchanged hcell

theorem load_acts (hcell : Stores HoldsData (entryKey store recipient).selects s.items cell) :
    Ends Serves s (load store recipient) fun r s' =>
      Acts HoldsData (entryKey store recipient).selects s.items
        (cell.load.1.map LocalSecret.mk, cell.load.2) r s'.items := by
  refine ends_bind (ends_served_findValues hcell) ?_ ?_
  · rintro error s' ⟨-, h⟩
    cases h
  · rintro values s' ⟨rfl, hvalues⟩
    cases hvalues
    cases cell with
    | none => exact ends_throw (.unchanged hcell)
    | some stored =>
        refine ends_except ?_
        have himport : importBinary stored.toList = .ok ⟨stored⟩ := importBinary_eq_ok.mpr rfl
        rw [himport]
        exact .unchanged hcell

theorem remove_acts (hcell : Stores HoldsData (entryKey store recipient).selects s.items cell) :
    Ends Serves s (remove store recipient) fun r s' =>
      Acts HoldsData (entryKey store recipient).selects s.items cell.remove r s'.items := by
  refine ends_bind (ends_served_findItems store recipient s) ?_ ?_
  · rintro error s' ⟨-, items, h, -⟩
    cases h
  · rintro items s' ⟨rfl, _, h, hitems⟩
    cases h
    cases cell with
    | none =>
        obtain rfl := Inventory.Vacant.lists hcell hitems
        exact ends_pure (.unchanged hcell)
    | some stored =>
        obtain ⟨item, e, hsole, hholds⟩ := hcell
        obtain rfl := hsole.lists hitems
        refine ends_ask_bind fun reply s₁ hstep => ?_
        have herased : s₁.items = s'.items.erase item := hstep
        refine ends_run_bind (ends_served_findItems store recipient s₁) ?_
        rintro r s₂ ⟨rfl, remaining, rfl, hremaining⟩
        have hgone : (s₂.items.filter (entryKey store recipient).selects).Vacant := by
          rw [herased, Inventory.filter_erase]
          exact hsole.vacant_erase
        obtain rfl := hgone.lists hremaining
        refine ends_pure ?_
        rw [herased]
        exact .erased hsole

end Macos

/-! ## The user-presence store -/

namespace UserPresence

open Keychain

theorem ends_served_countEntries (query : ItemSearchOptions) (hlimit : query.limit = .all)
    (hdata : query.loadData = false) (hrefs : query.loadRefs = false)
    (hattributes : query.loadAttributes = true) (s : Keychains) :
    Ends Serves s (countEntries query) fun r s' => s' = s ∧
      ∃ count, r = .ok count ∧ Counted (s.items.filter query.matches) count := by
  refine ends_served_search (fun items hitems => ?_) fun hvacant => ?_
  · have hdict : (items.map (query.result s.items)).all isDict = true := by
      rw [List.all_map, List.all_eq_true]
      intro item _
      simp [ItemSearchOptions.result, hdata, hrefs, hattributes, isDict]
    rw [limited_of_all hlimit]
    change Ends Serves s (if (items.map (query.result s.items)).all isDict = true then _ else _) _
    rw [if_pos hdict]
    exact ends_pure ⟨rfl, _, rfl, items, hitems, by rw [List.length_map]⟩
  · exact ends_pure ⟨rfl, 0, rfl, [], Inventory.lists_nil_iff.mpr hvacant, rfl⟩

theorem Counted.eq_zero {m : Inventory Entry} {count : Nat} (h : Counted m count)
    (hvacant : m.Vacant) : count = 0 := by
  obtain ⟨items, hitems, rfl⟩ := h
  rw [hvacant.lists hitems]
  rfl

variable [Primitives] {s : Keychains} {store : MacosUserPresenceStore} {recipient : RecipientId}
  {cell : Cell}

/-- An entry holds a secret under its fingerprint. -/
def HoldsLabelled (secret : Bytes 32) (e : Entry) : Prop :=
  e.data = secret.toList ∧ e.label = itemLabel ⟨secret⟩

theorem ends_served_inventoryCount
    (hcell : Stores HoldsLabelled (entryKey store recipient).selects s.items cell) :
    Ends Serves s (inventoryCount store recipient) fun r s' =>
      s' = s ∧ r = .ok cell.toList.length := by
  have hcount := ends_served_countEntries
    { exactQuery store recipient with loadAttributes := true } rfl rfl rfl rfl s
  rw [matches_of_label_none rfl] at hcount
  refine hcount.mono ?_
  rintro r s' ⟨rfl, count, rfl, hcounted⟩
  refine ⟨rfl, ?_⟩
  cases cell with
  | none =>
      rw [hcounted.eq_zero hcell]
      rfl
  | some stored =>
      obtain ⟨item, e, hsole, -⟩ := hcell
      rw [hcounted.eq_one hsole]
      rfl

theorem ends_served_findValues
    (hcell : Stores HoldsLabelled (entryKey store recipient).selects s.items cell) :
    Ends Serves s (findValues store recipient) fun r s' =>
      s' = s ∧ r = .ok (cell.toList.map Bytes.toList) := by
  refine ends_served_search (fun items hitems => ?_) fun hvacant => ?_
  · rw [matches_of_label_none rfl] at hitems
    rw [limited_of_all rfl]
    refine ends_except ⟨rfl, ?_⟩
    rw [mapM_asData rfl rfl rfl, shown_of_stores (fun _ _ h => h.1) hcell ⟨items, hitems, rfl⟩]
  · rw [matches_of_label_none rfl] at hvacant
    have hnone := shown_of_stores (fun _ _ h => h.1) hcell
      ⟨[], Inventory.lists_nil_iff.mpr hvacant, rfl⟩
    exact ends_pure ⟨rfl, by rw [← hnone]; rfl⟩

/-- The entry of a secret is the only one a deletion of that secret selects. -/
theorem sole_deletion {stored : Bytes 32} {item : KeychainItem} {e : Entry}
    (hsole : (s.items.filter (entryKey store recipient).selects).Sole item e)
    (hholds : HoldsLabelled stored e) :
    (s.items.filter (deletionQuery store recipient ⟨stored⟩).matches).Sole item e := by
  obtain ⟨hitem, hkey⟩ := Inventory.filter_eq_some.mp hsole.holds
  refine ⟨Inventory.filter_eq_some.mpr ⟨hitem, ?_⟩, fun j hj => hsole.only j ?_⟩
  · exact matches_deletionQuery.mpr ⟨selects_iff.mp hkey, hholds.2⟩
  · obtain ⟨f, hf⟩ := Option.ne_none_iff_exists'.mp hj
    obtain ⟨hf, hmatch⟩ := Inventory.filter_eq_some.mp hf
    rw [Inventory.filter_eq_some.mpr
      ⟨hf, selects_iff.mpr (matches_deletionQuery.mp hmatch).1⟩]
    simp

theorem ends_served_loadExact
    (hcell : Stores HoldsLabelled (entryKey store recipient).selects s.items cell) :
    Ends Serves s (loadExact store recipient) fun r s' =>
      s' = s ∧ r = cell.load.1.map RecoverySecret.mk := by
  refine ends_bind (ends_served_inventoryCount hcell) ?_ ?_
  · rintro error s' ⟨-, h⟩
    cases h
  · rintro count s' ⟨rfl, hcount⟩
    cases hcount
    cases cell with
    | none => exact ends_throw ⟨rfl, rfl⟩
    | some stored =>
        refine ends_bind (ends_served_findValues hcell) ?_ ?_
        · rintro error s' ⟨-, h⟩
          cases h
        · rintro values s' ⟨rfl, hvalues⟩
          cases hvalues
          have himport : importRecoverySecret stored.toList = .ok ⟨stored⟩ :=
            importRecoverySecret_eq_ok.mpr rfl
          change Ends Serves s' (liftM (importRecoverySecret stored.toList) >>= _) _
          rw [himport]
          refine ends_except_bind (fun error h => ?_) fun secret hsecret => ?_
          · cases h
          cases hsecret
          refine ends_bind (ends_served_countEntries
            { deletionQuery store recipient ⟨stored⟩ with
              limit := .all, loadAttributes := true } rfl rfl rfl rfl s') ?_ ?_
          · rintro error s₁ ⟨-, count, h, -⟩
            cases h
          · rintro count s₁ ⟨rfl, _, h, hcounted⟩
            cases h
            obtain ⟨item, e, hsole, hholds⟩ := hcell
            obtain rfl := hcounted.eq_one (sole_deletion hsole hholds)
            exact ends_pure ⟨rfl, rfl⟩

/-- Loading the secret of a cell and comparing it. -/
theorem ends_served_loadAndCompare {secret : RecoverySecret} {error : StoreError}
    {stored : Bytes 32}
    (hcell : Stores HoldsLabelled (entryKey store recipient).selects s.items (some stored)) :
    Ends Serves s (do
        let stored ← loadExact store recipient
        if secretsMatch stored secret then return () else throw error) fun r s' => s' = s ∧
      r = if stored = secret.bytes then .ok () else .error error := by
  refine ends_bind (ends_served_loadExact hcell) ?_ ?_
  · rintro e s' ⟨-, h⟩
    cases h
  · rintro loaded s' ⟨rfl, h⟩
    cases h
    have hmatch : secretsMatch ⟨stored⟩ secret = true ↔ stored = secret.bytes := by
      rw [secretsMatch_iff, RecoverySecret.ext_iff]
    by_cases hsame : stored = secret.bytes
    · rw [if_pos (hmatch.mpr hsame)]
      exact ends_pure ⟨rfl, by rw [if_pos hsame]⟩
    · rw [if_neg (mt hmatch.mp hsame)]
      exact ends_throw ⟨rfl, by rw [if_neg hsame]⟩

theorem create_acts (secret : RecoverySecret)
    (hcell : Stores HoldsLabelled (entryKey store recipient).selects s.items cell) :
    Ends Serves s (create store recipient secret) fun r s' =>
      Acts HoldsLabelled (entryKey store recipient).selects s.items (cell.create secret.bytes) r
        s'.items := by
  have hadd : Ends Serves s (add store recipient secret) fun r s' =>
      cell = none ∧ r = .ok () ∧ Adds s (entry store recipient secret) s' ∨
        cell ≠ none ∧ r = .error errSecDuplicateItem ∧ s' = s := by
    refine ends_ask_bind fun reply s₁ hstep => ?_
    obtain ⟨rfl, rfl⟩ := hstep
    refine ends_except_bind (fun error h => ?_) fun _ _ => ?_
    · cases h
    · exact ends_served_add (entry store recipient secret) hcell
  refine ends_run_bind hadd ?_
  rintro r s' (⟨rfl, rfl, hadds⟩ | ⟨hsome, rfl, rfl⟩)
  · have hacts : Acts HoldsLabelled (entryKey store recipient).selects s.items
        (.ok (), some secret.bytes) (.ok ()) s'.items := hadds.acts ⟨rfl, rfl⟩
    refine ends_run_bind (ends_served_loadAndCompare hacts.cell) ?_
    rintro r s₁ ⟨rfl, rfl⟩
    rw [if_pos rfl]
    exact ends_pure hacts
  · cases cell with
    | none => exact absurd rfl hsome
    | some stored =>
        change Ends Serves s' (if errSecDuplicateItem = errSecDuplicateItem then _ else _) _
        rw [if_pos rfl]
        refine (ends_served_loadAndCompare hcell).mono ?_
        rintro r s₁ ⟨rfl, rfl⟩
        exact .unchanged hcell

theorem load_acts (hcell : Stores HoldsLabelled (entryKey store recipient).selects s.items cell) :
    Ends Serves s (load store recipient) fun r s' =>
      Acts HoldsLabelled (entryKey store recipient).selects s.items
        (cell.load.1.map RecoverySecret.mk, cell.load.2) r s'.items := by
  refine (ends_served_loadExact hcell).mono ?_
  rintro r s' ⟨rfl, rfl⟩
  cases cell <;> exact .unchanged hcell

/-- Where the fingerprints of the expected and the stored secret tell them apart. -/
theorem remove_acts (expected : RecoverySecret)
    (hcell : Stores HoldsLabelled (entryKey store recipient).selects s.items cell)
    (hdistinct : ∀ stored, cell = some stored → itemLabel ⟨stored⟩ = itemLabel expected →
      stored = expected.bytes) :
    Ends Serves s (remove store recipient expected) fun r s' =>
      Acts HoldsLabelled (entryKey store recipient).selects s.items
        (cell.removeExpected expected.bytes) r s'.items := by
  refine ends_bind (ends_served_inventoryCount hcell) ?_ ?_
  · rintro error s' ⟨-, h⟩
    cases h
  rintro count s' ⟨rfl, hcount⟩
  cases hcount
  cases hcellEq : cell with
  | none =>
      rw [hcellEq] at hcell
      exact ends_pure (.unchanged hcell)
  | some stored =>
      rw [hcellEq] at hcell
      have hcell' := hcell
      obtain ⟨item, e, hsole, hholds⟩ := hcell
      refine ends_ask_bind fun reply s₁ hstep => ?_
      by_cases hsame : stored = expected.bytes
      · have hexpected : expected = ⟨stored⟩ := RecoverySecret.ext hsame.symm
        have hdeletion := sole_deletion hsole hholds
        rw [← hexpected] at hdeletion
        obtain ⟨-, rfl, hitems⟩ | ⟨hvacant, -⟩ := hstep
        · have hacts : Acts HoldsLabelled (entryKey store recipient).selects s'.items
              (.ok Removal.removed, none) (.ok Removal.removed) s₁.items := by
            rw [hitems, hdeletion.eraseAll_eq]
            exact .erased hsole
          refine ends_run_bind (ends_served_inventoryCount hacts.cell) ?_
          rintro r s₂ ⟨rfl, rfl⟩
          simp only [Cell.removeExpected, if_pos hsame]
          exact ends_pure hacts
        · exact absurd hdeletion hvacant.not_sole
      · have hvacant : (s'.items.filter (deletionQuery store recipient expected).matches).Vacant := by
          intro j
          refine Inventory.filter_eq_none.mpr fun f hf => Bool.eq_false_iff.mpr fun hmatch => ?_
          obtain ⟨hkey, hlabel⟩ := matches_deletionQuery.mp hmatch
          have hin := Inventory.filter_eq_some.mpr ⟨hf, selects_iff.mpr hkey⟩
          obtain rfl := hsole.only j (by rw [hin]; simp)
          rw [hsole.holds] at hin
          cases hin
          exact hsame (hdistinct stored hcellEq (hholds.2.symm.trans hlabel))
        obtain ⟨hsome, -⟩ | ⟨-, rfl, rfl⟩ := hstep
        · exact absurd hvacant hsome
        · refine ends_run_bind (ends_served_inventoryCount hcell') ?_
          rintro r s₂ ⟨rfl, rfl⟩
          simp only [Cell.removeExpected, if_neg hsame]
          exact ends_throw (.unchanged hcell')

end UserPresence

end FidoKeyWrap.Platform
