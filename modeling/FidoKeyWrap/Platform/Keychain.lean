/-
# FidoKeyWrap.Platform.Keychain — the generic passwords of the macos keychains.

Security Services keeps entries in the data-protection keychain and in file keychains. An entry has a
service, an account, a label and data, and a keychain refuses a second entry for one service and
account. In a file keychain there never are two, which is a field of the state; the data-protection
keychain may hold more, in access groups that the program shares. `Step refused` is one call: a
search that succeeds is accurate up to its limit, and an addition or deletion that fails may have
taken effect, but for an addition whose status is in `refused`.

The stores search and add entries that are not synchronized, so only those are in the state. A file
keychain is always the default one.
-/
import FidoKeyWrap.Platform.Store
import FidoKeyWrap.Lib.Triple

namespace FidoKeyWrap.Platform.Keychain

open ByteData Interact Fallible

/-! ## Calls -/

/-- `security_framework::base::Error`, by its code. -/
abbrev Status := Int32

/-- The user cancelled. -/
def errSecUserCanceled : Status := -128
/-- There is no keychain. -/
def errSecNotAvailable : Status := -25291
/-- The user may not be asked. -/
def errSecInteractionNotAllowed : Status := -25308
/-- The user would have to be asked. -/
def errSecInteractionRequired : Status := -25315
/-- The data cannot be read now. -/
def errSecDataNotAvailable : Status := -25316
/-- The program may not use the keychain. -/
def errSecMissingEntitlement : Status := -34018
/-- The service does not answer. -/
def errSecServiceNotAvailable : Status := -67585
/-- The user was not authenticated. -/
def errSecAuthFailed : Status := -25293
/-- The keychain has an entry for the service and account. -/
def errSecDuplicateItem : Status := -25299
/-- Reading or writing failed. -/
def errSecIO : Status := -36
/-- Nothing matches. -/
def errSecItemNotFound : Status := -25300
/-- The call is not implemented. -/
def errSecUnimplemented : Status := -4

/-- Which kind of keychain holds an entry. -/
inductive Location where
  | dataProtectionKeychain
  | fileKeychain
  deriving DecidableEq

/-- When an entry can be read. -/
inductive ProtectionMode where
  | accessibleWhenUnlockedThisDeviceOnly
  | accessibleWhenPasscodeSetThisDeviceOnly

/-- `AccessControlOptions::USER_PRESENCE`. -/
def userPresence : Nat := 1

/-- A generic password. -/
structure Entry where
  location : Location
  service : String
  account : String
  label : String
  data : ByteString

/-- How many items a search may show. -/
inductive Limit where
  | all
  | max (limit : Nat)

/-- What a search selects, and what it shows of it. -/
structure ItemSearchOptions where
  location : Location
  service : String
  account : String
  label : Option String := none
  loadData : Bool := false
  loadRefs : Bool := false
  loadAttributes : Bool := false
  limit : Limit := .max 1

/-- The name of an entry. -/
abbrev KeychainItem := Nat

/-- What a search shows of one item. -/
inductive SearchResult where
  | ref (item : KeychainItem)
  | dict
  | data (bytes : ByteString)
  | other

/-- A call of Security Services. -/
inductive Call where
  | defaultKeychain
  | accessControl (protection : ProtectionMode) (flags : Nat)
  | add (entry : Entry)
  | search (options : ItemSearchOptions)
  | deleteItem (item : KeychainItem)
  | delete (options : ItemSearchOptions)

/-- Security Services: a call has a result or a status, but `SecKeychainItem::delete` shows none. -/
def securityServices : Signature where
  Query := Call
  Reply
    | .defaultKeychain | .accessControl .. | .add _ | .delete _ => Except Status Unit
    | .search _ => Except Status (List SearchResult)
    | .deleteItem _ => Unit

/-- A program over Security Services. -/
abbrev Security := Fallible securityServices

/-- One call. -/
def call {ε : Type} (query : Call) : Security ε (securityServices.Reply query) :=
  liftM (Program.ask query : Program securityServices _)

/-! ## The keychains -/

/-- What a keychain is unique in. -/
structure EntryKey where
  location : Location
  service : String
  account : String
  deriving DecidableEq

/-- The key of an entry. -/
def Entry.key (entry : Entry) : EntryKey := ⟨entry.location, entry.service, entry.account⟩

/-- The entry has the key. -/
def EntryKey.selects (key : EntryKey) (entry : Entry) : Bool := decide (entry.key = key)

/-- The key that a search is about. -/
def ItemSearchOptions.key (options : ItemSearchOptions) : EntryKey :=
  ⟨options.location, options.service, options.account⟩

/-- The search selects the entry: by its key, and by its label if one is given. -/
def ItemSearchOptions.matches (options : ItemSearchOptions) (entry : Entry) : Bool :=
  options.key.selects entry && options.label.all (· == entry.label)

/-- As many items as the search may show. -/
def ItemSearchOptions.limited (options : ItemSearchOptions) (items : List KeychainItem) :
    List KeychainItem :=
  match options.limit with
  | .all => items
  | .max limit => items.take limit

/-- The form in which a search shows an item. -/
def ItemSearchOptions.result (options : ItemSearchOptions) (items : Inventory Entry)
    (item : KeychainItem) : SearchResult :=
  match options.loadData, options.loadRefs, options.loadAttributes with
  | true, false, false => .data ((items item).map Entry.data |>.getD [])
  | false, true, false => .ref item
  | false, false, true => .dict
  | _, _, _ => .other

/-- **`Keychains`** — the entries; a file keychain holds one for a service and account at most. -/
@[ext] structure Keychains where
  items : Inventory Entry
  fileUnique : ∀ i j e f, items i = some e → items j = some f → e.key = f.key →
    e.location = .fileKeychain → i = j

/-- An addition takes effect: nothing has the key of the entry, and a new item holds it. -/
def Adds (s : Keychains) (entry : Entry) (s' : Keychains) : Prop :=
  (s.items.filter entry.key.selects).Vacant ∧
    ∃ item, s.items item = none ∧ s'.items = s.items.insert item entry

/-- How the addition of an entry ends. -/
def AddEnds (refused : List Status) (s : Keychains) (entry : Entry) (r : Except Status Unit)
    (s' : Keychains) : Prop :=
  match r with
  | .ok () => Adds s entry s'
  | .error status => s' = s ∨ status ∉ refused ∧ Adds s entry s'

/-- **`Step refused s event s'`** — one call. -/
def Step (refused : List Status) (s : Keychains) : Event securityServices → Keychains → Prop
  | ⟨.search options, reply⟩, s' =>
    s' = s ∧
      match (show Except Status (List SearchResult) from reply) with
      | .ok results => ∃ items, (s.items.filter options.matches).Lists items ∧
          results = (options.limited items).map (options.result s.items)
      | .error status => status = errSecItemNotFound → (s.items.filter options.matches).Vacant
  | ⟨.add entry, reply⟩, s' => AddEnds refused s entry reply s'
  | ⟨.deleteItem item, _⟩, s' => s' = s ∨ s'.items = s.items.erase item
  | ⟨.delete options, reply⟩, s' =>
    s'.items = s.items.eraseAll options.matches ∨
      (show Except Status Unit from reply) ≠ .ok () ∧ s' = s
  | _, s' => s' = s

/-! ## Rules -/

section Rules

variable {ε α : Type} {refused : List Status} {s s' : Keychains} {key : EntryKey} {entry : Entry}
  {item : KeychainItem} {Q : Except ε α → Keychains → Prop}

@[simp] theorem selects_key (entry : Entry) : entry.key.selects entry = true := by
  simp [EntryKey.selects]

theorem selects_iff : key.selects entry = true ↔ entry.key = key := by
  simp [EntryKey.selects]

theorem matches_of_label_none {options : ItemSearchOptions} (h : options.label = none) :
    options.matches = options.key.selects := by
  funext entry
  simp [ItemSearchOptions.matches, h]

/-- A search for all items shows all. -/
theorem limited_of_all {options : ItemSearchOptions} (h : options.limit = .all)
    (items : List KeychainItem) : options.limited items = items := by
  simp [ItemSearchOptions.limited, h]

/-- In a file keychain a search for one item shows all. -/
theorem limited_of_file {options : ItemSearchOptions} (hlimit : options.limit = .max 1)
    (hlocation : options.location = .fileKeychain) {items : List KeychainItem}
    (hitems : (s.items.filter options.matches).Lists items) : options.limited items = items := by
  have hone : items.length ≤ 1 := by
    refine hitems.length_le_one fun i j hi hj => ?_
    obtain ⟨e, he⟩ := Option.ne_none_iff_exists'.mp hi
    obtain ⟨f, hf⟩ := Option.ne_none_iff_exists'.mp hj
    obtain ⟨he, hekey⟩ := Inventory.filter_eq_some.mp he
    obtain ⟨hf, hfkey⟩ := Inventory.filter_eq_some.mp hf
    simp only [ItemSearchOptions.matches, Bool.and_eq_true, selects_iff] at hekey hfkey
    refine s.fileUnique i j e f he hf (hekey.1.trans hfkey.1.symm) ?_
    exact (congrArg EntryKey.location hekey.1).trans hlocation
  simp only [ItemSearchOptions.limited, hlimit]
  exact List.take_of_length_le hone

/-- A search shows what its options let it, or fails. -/
theorem ends_search {options : ItemSearchOptions}
    {f : Except Status (List SearchResult) → Security ε α}
    (herror : ∀ status, (status = errSecItemNotFound → (s.items.filter options.matches).Vacant) →
      Ends (Step refused) s (f (.error status)) Q)
    (hok : ∀ items, (s.items.filter options.matches).Lists items →
      Ends (Step refused) s
        (f (.ok ((options.limited items).map (options.result s.items)))) Q) :
    Ends (Step refused) s (call (.search options) >>= f) Q := by
  refine ends_ask_bind fun reply s' hstep => ?_
  obtain ⟨rfl, hreply⟩ := hstep
  cases reply with
  | error status => exact herror status hreply
  | ok results =>
      obtain ⟨items, hitems, rfl⟩ := hreply
      exact hok items hitems

/-! ### What an addition leaves -/

theorem Adds.sole (h : Adds s entry s') :
    ∃ item, (s'.items.filter entry.key.selects).Sole item entry := by
  obtain ⟨hvacant, item, -, hitems⟩ := h
  refine ⟨item, ?_⟩
  rw [hitems, Inventory.filter_insert_of_pos (selects_key entry)]
  exact hvacant.sole_insert

theorem Adds.kept (h : Adds s entry s') {i : Nat} {e : Entry} (hi : s.items i = some e) :
    s'.items i = some e := by
  obtain ⟨-, item, hitem, hitems⟩ := h
  rw [hitems]
  exact Inventory.insert_kept hitem hi

/-! ### Values -/

/-- The data of an item. -/
def dataOf (items : Inventory Entry) (item : KeychainItem) : ByteString :=
  (items item).map Entry.data |>.getD []

/-- **`Shown key s values`** — the values are those of the entries of the key. -/
def Shown (key : EntryKey) (s : Keychains) (values : List ByteString) : Prop :=
  ∃ items, (s.items.filter key.selects).Lists items ∧ values = items.map (dataOf s.items)

theorem Shown.vacant (h : Shown key s []) : (s.items.filter key.selects).Vacant := by
  obtain ⟨items, hitems, hvalues⟩ := h
  obtain rfl := List.map_eq_nil_iff.mp hvalues.symm
  exact Inventory.lists_nil_iff.mp hitems

theorem Shown.sole {bytes : ByteString} (h : Shown key s [bytes]) :
    ∃ i e, (s.items.filter key.selects).Sole i e ∧ e.data = bytes := by
  obtain ⟨items, hitems, hvalues⟩ := h
  obtain ⟨i, rfl, hbytes⟩ := List.map_eq_singleton_iff.mp hvalues.symm
  obtain ⟨e, hsole⟩ := Inventory.lists_singleton_iff.mp hitems
  refine ⟨i, e, hsole, ?_⟩
  rw [← hbytes, dataOf, (Inventory.filter_eq_some.mp hsole.holds).1]
  rfl

theorem Shown.nil_of_vacant {values : List ByteString} (h : Shown key s values)
    (hvacant : (s.items.filter key.selects).Vacant) : values = [] := by
  obtain ⟨items, hitems, rfl⟩ := h
  rw [hvacant.lists hitems]
  rfl

theorem Shown.singleton_of_sole {values : List ByteString} {i : Nat} {e : Entry}
    (h : Shown key s values) (hsole : (s.items.filter key.selects).Sole i e) :
    values = [e.data] := by
  obtain ⟨items, hitems, rfl⟩ := h
  rw [hsole.lists hitems, List.map_singleton, dataOf, (Inventory.filter_eq_some.mp hsole.holds).1]
  rfl

/-- `result.into_iter().map(..).collect()`, of a search for data. -/
def SearchResult.asData : SearchResult → Result ByteString
  | .data bytes => .ok bytes
  | _ => .error .corrupt

theorem mapM_asData {options : ItemSearchOptions} (hdata : options.loadData = true)
    (hrefs : options.loadRefs = false) (hattributes : options.loadAttributes = false)
    (s : Keychains) (items : List KeychainItem) :
    (items.map (options.result s.items)).mapM SearchResult.asData =
      .ok (items.map (dataOf s.items)) := by
  have hresult : ∀ item, options.result s.items item = .data (dataOf s.items item) := by
    intro item
    simp [ItemSearchOptions.result, hdata, hrefs, hattributes, dataOf]
  induction items with
  | nil => rfl
  | cons item items ih =>
      rw [List.map_cons, List.mapM_cons, ih, hresult]
      rfl

end Rules

end FidoKeyWrap.Platform.Keychain
