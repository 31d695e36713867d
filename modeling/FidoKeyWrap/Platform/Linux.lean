/-
# FidoKeyWrap.Platform.Linux — local factors in the default Secret Service collection.

The store is a set of programs over requests to the Secret Service; every request may fail. An item
is found by its attributes and named by a path, here a number. The collection is the world of these
programs: a failing `create_item` or `delete` may have taken effect, and nothing else changes an
item. All requests after `get_default_collection` are about that collection.

`create_tells`, `load_tells` and `remove_tells` are the contract of the operations in that world: an
outcome says what the items of the key were and are, and only `stateUncertain` leaves it open.
-/
import FidoKeyWrap.Platform.Store
import FidoKeyWrap.Lib.Triple

namespace FidoKeyWrap.Platform.Linux

open ByteData Interact Fallible

/-! ## Requests -/

/-- `zbus::fdo::Error`, as far as the store tells them apart. -/
inductive FdoError where
  | accessDenied
  | authFailed
  | interactiveAuthorizationRequired
  | notSupported
  | unknownInterface
  | unknownMethod
  | badAddress
  | disconnected
  | ioError
  | nameHasNoOwner
  | noNetwork
  | noReply
  | noServer
  | serviceUnknown
  | timedOut
  | timeout
  | other

/-- `zbus::Error`. -/
inductive ZbusError where
  | unsupported
  | interfaceNotFound
  | address
  | handshake
  | inputOutput
  | fdo (error : FdoError)
  | other

/-- `secret_service::Error`. -/
inductive ServiceError where
  | locked
  | prompt
  | unavailable
  | noResult
  | zbus (error : ZbusError)
  | zbusFdo (error : FdoError)
  | crypto
  | zvariant
  | other

/-- How secrets travel to the service. -/
inductive EncryptionType where
  | plain
  | dh

/-- The name of an item. -/
abbrev ItemPath := Nat

/-- Names and values, each name once. -/
abbrev Attributes := List (String × String)

/-- A request to the Secret Service. -/
inductive Request where
  | connect (encryption : EncryptionType)
  | getDefaultCollection
  | isLocked
  | unlock
  | ensureUnlocked
  | searchItems (attributes : Attributes)
  | createItem (label : String) (attributes : Attributes) (secret : ByteString) (replace : Bool)
      (contentType : String)
  | getSecret (item : ItemPath)
  | delete (item : ItemPath)

/-- The Secret Service: a request has a reply or fails. -/
def secretService : Signature where
  Query := Request
  Reply
    | .connect _ | .getDefaultCollection | .unlock | .ensureUnlocked | .delete _ =>
      Except ServiceError Unit
    | .isLocked => Except ServiceError Bool
    | .searchItems _ => Except ServiceError (List ItemPath)
    | .createItem .. => Except ServiceError ItemPath
    | .getSecret _ => Except ServiceError ByteString

/-- A program over the Secret Service. -/
abbrev Service := Fallible secretService StoreError

/-- The error of a D-Bus error. -/
def mapFdoError : FdoError → StoreError
  | .accessDenied | .authFailed | .interactiveAuthorizationRequired => .accessDenied
  | .notSupported | .unknownInterface | .unknownMethod => .unsupported
  | .badAddress | .disconnected | .ioError | .nameHasNoOwner | .noNetwork | .noReply | .noServer
  | .serviceUnknown | .timedOut | .timeout => .unavailable
  | .other => .operationFailed

/-- The error of a connection error. -/
def mapZbusError : ZbusError → StoreError
  | .unsupported | .interfaceNotFound => .unsupported
  | .address | .handshake | .inputOutput => .unavailable
  | .fdo error => mapFdoError error
  | .other => .operationFailed

/-- The error of a failed request. -/
def mapError : ServiceError → StoreError
  | .locked => .locked
  | .prompt => .cancelled
  | .unavailable | .noResult => .unavailable
  | .zbus error => mapZbusError error
  | .zbusFdo error => mapFdoError error
  | .crypto | .zvariant => .operationFailed
  | .other => .operationFailed

/-- One request. -/
def request (query : Request) : Service (secretService.Reply query) :=
  liftM (Program.ask query : Program secretService _)

/-- `reply.map_err(map_error)?`. -/
def mapped {α : Type} (reply : Except ServiceError α) : Service α :=
  liftM (reply.mapError mapError)

/-- `reply.map_err(|_| StoreError::StateUncertain)?`. -/
def certain {α : Type} (reply : Except ServiceError α) : Service α :=
  liftM (reply.mapError fun _ => StoreError.stateUncertain)

/-! ## The store -/

/-- The label of every item; no search uses it. -/
def label : String := "fido key wrap local secret"

/-- The schema attribute of every item. -/
def schema : String := "org.fido-key-wrap.local-secret"

/-- `NativeLocalSecretStore`, on linux. -/
structure NativeLocalSecretStore where
  application : ApplicationId

/-- What an item is found by. -/
structure EntryKey where
  application : String
  recipient : String

/-- The attributes of a key. -/
def EntryKey.attributes (key : EntryKey) : Attributes :=
  [("xdg:schema", schema), ("fido-key-wrap.application", key.application),
    ("fido-key-wrap.recipient", key.recipient)]

/-- Open a session. -/
def connect : Service Unit := do
  let reply ← request (.connect .dh)
  mapped reply

/-- Take the default collection. -/
def defaultCollection : Service Unit := do
  let reply ← request .getDefaultCollection
  mapped reply

/-- Unlock the collection if it is locked, and make sure that it is. -/
def unlockCollection : Service Unit := do
  let reply ← request .isLocked
  let locked ← mapped reply
  let unlocked : Service Unit :=
    if locked then do
      let reply ← request .unlock
      mapped reply
    else pure ()
  unlocked
  let reply ← request .ensureUnlocked
  mapped reply

/-- The key of a recipient. -/
def entryKey (store : NativeLocalSecretStore) (recipient : RecipientId) : EntryKey :=
  ⟨store.application.asStr, recipientName recipient⟩

/-- Delete the new item, and see that it is gone. -/
def cleanupAfterFailedCreate (key : EntryKey) (item : ItemPath) (error : StoreError) :
    Service Unit := do
  let _ ← request (.delete item)
  let reply ← request (.searchItems key.attributes)
  let remaining ← certain reply
  if remaining.any (· == item) then throw .stateUncertain else throw error

/-- What a creation that failed has left is read back. -/
def reconcileAfterCreateError (key : EntryKey) (secret : LocalSecret)
    (nativeError : ServiceError) : Service Unit := do
  let reply ← request (.searchItems key.attributes)
  let items ← certain reply
  match items with
  | [] => throw (mapError nativeError)
  | [item] =>
    let reply ← request (.getSecret item)
    let bytes ← certain reply
    liftM (compareStored bytes secret)
  | _ => throw .ambiguous

/-- `create`, once the search found nothing. -/
def createNew (key : EntryKey) (secret : LocalSecret) : Service Unit := do
  let reply ← request
    (.createItem label key.attributes secret.bytes.toList false "application/octet-stream")
  match reply with
  | .error error => reconcileAfterCreateError key secret error
  | .ok created =>
    let reply ← request (.getSecret created)
    match reply with
    | .error error => cleanupAfterFailedCreate key created (mapError error)
    | .ok readBack =>
      if !binaryMatches readBack secret then cleanupAfterFailedCreate key created .corrupt
      else
        let reply ← request (.searchItems key.attributes)
        match reply with
        | .error error => cleanupAfterFailedCreate key created (mapError error)
        | .ok inventory =>
          if inventory.length == 1 && inventory.head? == some created then return ()
          else cleanupAfterFailedCreate key created .ambiguous

/-- Look first, then create and read back. -/
def create (store : NativeLocalSecretStore) (recipient : RecipientId) (secret : LocalSecret) :
    Service Unit := do
  connect
  defaultCollection
  unlockCollection
  let key := entryKey store recipient
  let reply ← request (.searchItems key.attributes)
  let existing ← mapped reply
  match existing with
  | [] => createNew key secret
  | [item] =>
    let reply ← request (.getSecret item)
    let bytes ← mapped reply
    liftM (compareStored bytes secret)
  | _ => throw .ambiguous

/-- The secret of the only item. -/
def load (store : NativeLocalSecretStore) (recipient : RecipientId) : Service LocalSecret := do
  connect
  defaultCollection
  unlockCollection
  let key := entryKey store recipient
  let reply ← request (.searchItems key.attributes)
  let items ← mapped reply
  match items with
  | [] => throw .missing
  | [item] =>
    let reply ← request (.getSecret item)
    let bytes ← mapped reply
    liftM (importBinary bytes)
  | _ => throw .ambiguous

/-- `remove`, once the search found one item. -/
def removeItem (key : EntryKey) (item : ItemPath) : Service Removal := do
  let reply ← request (.delete item)
  match reply with
  | .error error =>
    let reply ← request (.searchItems key.attributes)
    let remaining ← certain reply
    match remaining with
    | [] => return .removed
    | [candidate] => if candidate == item then throw (mapError error) else throw .stateUncertain
    | _ => throw .stateUncertain
  | .ok () =>
    let reply ← request (.searchItems key.attributes)
    let remaining ← certain reply
    if remaining.isEmpty then return .removed else throw .stateUncertain

/-- Delete the only item, and see that none is left. -/
def remove (store : NativeLocalSecretStore) (recipient : RecipientId) : Service Removal := do
  connect
  defaultCollection
  unlockCollection
  let key := entryKey store recipient
  let reply ← request (.searchItems key.attributes)
  let items ← mapped reply
  match items with
  | [] => return .absent
  | [item] => removeItem key item
  | _ => throw .ambiguous

/-! ## The collection -/

/-- An item of the collection. -/
structure Item where
  label : String
  attributes : Attributes
  secret : ByteString
  contentType : String

/-- An item has the attributes of a search. -/
def Item.matches (attributes : Attributes) (item : Item) : Bool :=
  attributes.all fun pair => item.attributes.lookup pair.1 == some pair.2

/-- The items of the collection, by their paths. -/
abbrev Collection := Inventory Item

/-- **`Step s event s'`** — one request. A search or a read that succeeds is accurate; a creation
adds an item, and a creation or deletion that fails may have taken effect. -/
def Step (s : Collection) : Event secretService → Collection → Prop
  | ⟨.searchItems attributes, reply⟩, s' =>
    s' = s ∧ ∀ items, (show Except ServiceError (List ItemPath) from reply) = .ok items →
      (s.filter (Item.matches attributes)).Lists items
  | ⟨.getSecret item, reply⟩, s' =>
    s' = s ∧ ∀ bytes, (show Except ServiceError ByteString from reply) = .ok bytes →
      ∃ e, s item = some e ∧ e.secret = bytes
  | ⟨.createItem label attributes secret replace contentType, reply⟩, s' =>
    replace = false →
      match (show Except ServiceError ItemPath from reply) with
      | .ok item => s item = none ∧ s' = s.insert item ⟨label, attributes, secret, contentType⟩
      | .error _ => s' = s ∨ ∃ item, s item = none ∧
          s' = s.insert item ⟨label, attributes, secret, contentType⟩
  | ⟨.delete item, _⟩, s' => s' = s ∨ s' = s.erase item
  | _, s' => s' = s

/-- The item that a creation makes. -/
def EntryKey.item (key : EntryKey) (secret : LocalSecret) : Item :=
  ⟨Linux.label, key.attributes, secret.bytes.toList, "application/octet-stream"⟩

/-- The items of a key. -/
def EntryKey.selects (key : EntryKey) : Item → Bool := Item.matches key.attributes

@[simp] theorem selects_item (key : EntryKey) (secret : LocalSecret) :
    key.selects (key.item secret) = true := by
  simp [EntryKey.selects, EntryKey.item, Item.matches, EntryKey.attributes, List.lookup_cons]

/-! ## Outcomes -/

section Outcomes

variable {s : Collection} {key : EntryKey} {secret : LocalSecret} {item : ItemPath} {α : Type}
  {Q : Except StoreError α → Collection → Prop}

/-- A search shows the items of the key, or fails. -/
theorem ends_search {f : Except ServiceError (List ItemPath) → Service α}
    (herror : ∀ error, Ends Step s (f (.error error)) Q)
    (hok : ∀ items, (s.filter key.selects).Lists items → Ends Step s (f (.ok items)) Q) :
    Ends Step s (request (.searchItems key.attributes) >>= f) Q := by
  refine ends_ask_bind fun reply s' hstep => ?_
  obtain ⟨rfl, hlists⟩ := hstep
  cases reply with
  | error error => exact herror error
  | ok items => exact hok items (hlists items rfl)

/-- A search whose failure ends the call. -/
theorem ends_search_or {g : ServiceError → StoreError} {f : List ItemPath → Service α}
    (herror : ∀ error, Q (.error (g error)) s)
    (hok : ∀ items, (s.filter key.selects).Lists items → Ends Step s (f items) Q) :
    Ends Step s (request (.searchItems key.attributes) >>= fun reply =>
      (liftM (Except.mapError g reply) : Service (List ItemPath)) >>= f) Q := by
  refine ends_search (fun error => ?_) fun items hitems => ?_
  · exact ends_throw (herror error)
  · exact hok items hitems

/-- The secret of an item that is there. -/
theorem ends_getSecret {f : Except ServiceError ByteString → Service α} {e : Item}
    (hitem : s item = some e) (herror : ∀ error, Ends Step s (f (.error error)) Q)
    (hok : Ends Step s (f (.ok e.secret)) Q) :
    Ends Step s (request (.getSecret item) >>= f) Q := by
  refine ends_ask_bind fun reply s' hstep => ?_
  obtain ⟨rfl, hread⟩ := hstep
  cases reply with
  | error error => exact herror error
  | ok bytes =>
      obtain ⟨e', he', rfl⟩ := hread bytes rfl
      rw [hitem] at he'
      cases he'
      exact hok

/-- The value of the sole item, or a failure. -/
theorem ends_readSole {g : ServiceError → StoreError} {check : ByteString → Result α} {e : Item}
    (hitem : s item = some e) (herror : ∀ error, Q (.error (g error)) s)
    (hok : Q (check e.secret) s) :
    Ends Step s (request (.getSecret item) >>= fun reply =>
      (liftM (Except.mapError g reply) : Service ByteString) >>= fun bytes =>
        liftM (check bytes)) Q := by
  refine ends_getSecret hitem (fun error => ?_) ?_
  · exact ends_throw (herror error)
  · exact ends_except hok

theorem ends_delete {f : Except ServiceError Unit → Service α}
    (hstays : ∀ reply, Ends Step s (f reply) Q)
    (hgone : ∀ reply, Ends Step (s.erase item) (f reply) Q) :
    Ends Step s (request (.delete item) >>= f) Q := by
  refine ends_ask_bind fun reply s' hstep => ?_
  rcases hstep with rfl | rfl
  · exact hstays reply
  · exact hgone reply

/-- A request that changes no item, and its reply. -/
theorem ends_quiet {query : Request} {g : secretService.Reply query → Result α}
    (hquiet : ∀ reply s', Step s ⟨query, reply⟩ s' → s' = s) :
    Ends Step s (request query >>= fun reply => (liftM (g reply) : Service α))
      fun _ s' => s' = s := by
  refine ends_ask_bind fun reply s' hstep => ?_
  exact ends_except (hquiet reply s' hstep)

/-- Connecting and unlocking leave the items as they are. -/
theorem ends_open {p : Service α} (herror : ∀ error, Q (.error error) s) (hok : Ends Step s p Q) :
    Ends Step s (do connect; defaultCollection; unlockCollection; p) Q := by
  have hthen : ∀ {β : Type} {x : Service β} {g : β → Service α},
      Ends Step s x (fun _ s' => s' = s) → (∀ b, Ends Step s (g b) Q) → Ends Step s (x >>= g) Q := by
    intro β x g hx hg
    refine ends_bind hx (fun error s' hs => ?_) fun b s' hs => ?_
    · rw [hs]
      exact herror error
    · rw [hs]
      exact hg b
  refine hthen (ends_quiet fun _ _ h => h) fun _ => ?_
  refine hthen (ends_quiet fun _ _ h => h) fun _ => ?_
  refine hthen ?_ fun _ => hok
  unfold unlockCollection
  refine ends_ask_bind fun reply s' hstep => ?_
  obtain rfl : s' = s := hstep
  refine ends_except_bind (fun _ _ => rfl) fun locked _ => ?_
  refine ends_bind (R := fun _ s₁ => s₁ = s') ?_ (fun _ _ h => h) fun _ s₁ hs => ?_
  · split
    · exact ends_quiet fun _ _ h => h
    · exact ends_pure rfl
  · rw [hs]
    exact ends_quiet fun _ _ h => h

/-! ### Creating -/

/-- A creation that is undone, or whose end is unknown. -/
def Failed (s : Collection) (r : Result Unit) (s' : Collection) : Prop :=
  ∃ error, r = .error error ∧ (∀ i e, s i = some e → s' i = some e) ∧
    (error ≠ .stateUncertain → s' = s)

theorem failed_of_eq (error : StoreError) : Failed s (.error error) s :=
  ⟨error, rfl, fun _ _ h => h, fun _ => rfl⟩

theorem failed_uncertain (hitem : s item = none) {e : Item} :
    Failed s (.error .stateUncertain) (s.insert item e) :=
  ⟨_, rfl, fun _ _ h => Inventory.insert_kept hitem h, fun h => absurd rfl h⟩

theorem ends_cleanup (hitem : s item = none) (error : StoreError) :
    Ends Step (s.insert item (key.item secret)) (cleanupAfterFailedCreate key item error)
      (Failed s) := by
  refine ends_delete (fun reply => ?_) fun reply => ?_
  · refine ends_search_or (fun _ => failed_uncertain hitem) fun items hitems => ?_
    have hmem : item ∈ items := by
      rw [hitems.mem, Inventory.filter_insert_of_pos (selects_item key secret)]
      simp
    rw [if_pos (by simpa using hmem)]
    exact ends_throw (failed_uncertain hitem)
  · rw [Inventory.erase_insert hitem]
    refine ends_search_or (fun _ => failed_of_eq _) fun items hitems => ?_
    split
    · exact ends_throw (failed_of_eq _)
    · exact ends_throw (failed_of_eq _)

/-- The new item is the one that was asked for, or the creation failed. -/
def Added (s : Collection) (new : Item) (r : Result Unit) (s' : Collection) : Prop :=
  (r = .ok () ∧ ∃ item, s item = none ∧ s' = s.insert item new) ∨ Failed s r s'

theorem sole_insert (hvacant : (s.filter key.selects).Vacant) :
    ((s.insert item (key.item secret)).filter key.selects).Sole item (key.item secret) := by
  rw [Inventory.filter_insert_of_pos (selects_item key secret)]
  exact hvacant.sole_insert

/-- A creation whose reply is lost is settled by what the collection holds. -/
theorem ends_reconcile_of_kept (hvacant : (s.filter key.selects).Vacant) (error : ServiceError) :
    Ends Step s (reconcileAfterCreateError key secret error) (Failed s) := by
  refine ends_search_or (fun _ => failed_of_eq _) fun items hitems => ?_
  obtain rfl := hvacant.lists hitems
  exact ends_throw (failed_of_eq _)

theorem ends_reconcile_of_added (hvacant : (s.filter key.selects).Vacant) (hitem : s item = none)
    (error : ServiceError) :
    Ends Step (s.insert item (key.item secret)) (reconcileAfterCreateError key secret error)
      (Added s (key.item secret)) := by
  refine ends_search_or (fun _ => .inr (failed_uncertain hitem)) fun items hitems => ?_
  obtain rfl := (sole_insert hvacant).lists hitems
  refine ends_readSole Inventory.insert_self (fun _ => .inr (failed_uncertain hitem)) ?_
  exact .inl ⟨compareStored_eq_ok.mpr rfl, item, hitem, rfl⟩

theorem ends_createNew (hvacant : (s.filter key.selects).Vacant) :
    Ends Step s (createNew key secret) (Added s (key.item secret)) := by
  refine ends_ask_bind fun reply s' hstep => ?_
  cases reply with
  | error error =>
      rcases hstep rfl with rfl | ⟨item, hitem, rfl⟩
      · exact (ends_reconcile_of_kept hvacant error).mono fun _ _ => .inr
      · exact ends_reconcile_of_added hvacant hitem error
  | ok created =>
      obtain ⟨hitem, rfl⟩ := hstep rfl
      have hcleanup : ∀ error, Ends Step (s.insert created (key.item secret))
          (cleanupAfterFailedCreate key created error) (Added s (key.item secret)) :=
        fun error => (ends_cleanup hitem error).mono fun _ _ => .inr
      refine ends_getSecret Inventory.insert_self (fun error => hcleanup _) ?_
      have hmatches : binaryMatches (key.item secret).secret secret = true :=
        binaryMatches_iff.mpr rfl
      change Ends Step _ (if (!binaryMatches (key.item secret).secret secret) = true then _ else _) _
      rw [if_neg (by simp [hmatches])]
      refine ends_search (fun error => hcleanup _) fun items hitems => ?_
      obtain rfl := (sole_insert hvacant).lists hitems
      change Ends Step _ (if ([created].length == 1 && [created].head? == some created) = true
        then _ else _) _
      rw [if_pos (by simp)]
      exact ends_pure (.inl ⟨rfl, created, hitem, rfl⟩)

theorem Added.tells {r : Result Unit} {s' : Collection} (hvacant : (s.filter key.selects).Vacant)
    (h : Added s (key.item secret) r s') :
    CreateTells (fun e => e.secret = secret.bytes.toList) key.selects s r s' := by
  rcases h with ⟨rfl, item, hitem, rfl⟩ | ⟨error, rfl, hkept, hcertain⟩
  · exact {
      created := fun _ => ⟨item, _, sole_insert hvacant, rfl⟩
      kept := fun _ _ h => Inventory.insert_kept hitem h
      certain := by simp }
  · exact {
      created := by simp
      kept := hkept
      certain := by
        rintro _ h hne
        cases h
        exact hcertain hne }

theorem create_tells (store : NativeLocalSecretStore) (recipient : RecipientId)
    (secret : LocalSecret) (s : Collection) :
    Ends Step s (create store recipient secret)
      (CreateTells (fun e => e.secret = secret.bytes.toList) (entryKey store recipient).selects s) := by
  refine ends_open (fun error => .failed _) ?_
  refine ends_search_or (fun error => .failed _) fun items hitems => ?_
  match items, hitems with
  | [], hitems =>
    have hvacant := Inventory.lists_nil_iff.mp hitems
    exact (ends_createNew hvacant).mono fun _ _ h => h.tells hvacant
  | [item], hitems =>
    obtain ⟨e, hsole⟩ := Inventory.lists_singleton_iff.mp hitems
    have hitem := (Inventory.filter_eq_some.mp hsole.holds).1
    refine ends_readSole hitem (fun error => .failed _) ?_
    exact .of_eq fun hok => ⟨item, e, hsole, compareStored_eq_ok.mp hok⟩
  | _ :: _ :: _, _ => exact ends_throw (.failed _)

/-! ### Loading and removing -/

theorem load_tells (store : NativeLocalSecretStore) (recipient : RecipientId) (s : Collection) :
    Ends Step s (load store recipient)
      (LoadTells (fun (secret : LocalSecret) e => e.secret = secret.bytes.toList)
        (entryKey store recipient).selects s) := by
  refine ends_open (fun error => .failed _) ?_
  refine ends_search_or (fun error => .failed _) fun items hitems => ?_
  match items, hitems with
  | [], _ => exact ends_throw (.failed _)
  | [item], hitems =>
    obtain ⟨e, hsole⟩ := Inventory.lists_singleton_iff.mp hitems
    have hitem := (Inventory.filter_eq_some.mp hsole.holds).1
    refine ends_readSole hitem (fun error => .failed _) ⟨fun value hvalue => ?_, rfl⟩
    exact ⟨item, e, hsole, importBinary_eq_ok.mp hvalue⟩
  | _ :: _ :: _, _ => exact ends_throw (.failed _)

/-- The item is there, or it is not known to be gone. -/
theorem ends_removeItem {e : Item} (hsole : (s.filter key.selects).Sole item e) :
    Ends Step s (removeItem key item) (RemoveTells key.selects s) := by
  have hgone : ((s.erase item).filter key.selects).Vacant := by
    rw [Inventory.filter_erase]
    exact hsole.vacant_erase
  refine ends_delete (fun reply => ?_) fun reply => ?_
  · cases reply with
    | error error =>
        refine ends_search_or (fun _ => .uncertain) fun items hitems => ?_
        obtain rfl := hsole.lists hitems
        change Ends Step s (if (item == item) = true then _ else _) _
        rw [if_pos (by simp)]
        exact ends_throw (.failed _)
    | ok _ =>
        refine ends_search_or (fun _ => .uncertain) fun items hitems => ?_
        obtain rfl := hsole.lists hitems
        exact ends_throw .uncertain
  · cases reply with
    | error error =>
        refine ends_search_or (fun _ => .uncertain) fun items hitems => ?_
        obtain rfl := hgone.lists hitems
        exact ends_pure (.erased hsole)
    | ok _ =>
        refine ends_search_or (fun _ => .uncertain) fun items hitems => ?_
        obtain rfl := hgone.lists hitems
        exact ends_pure (.erased hsole)

theorem remove_tells (store : NativeLocalSecretStore) (recipient : RecipientId) (s : Collection) :
    Ends Step s (remove store recipient) (RemoveTells (entryKey store recipient).selects s) := by
  refine ends_open (fun error => .failed _) ?_
  refine ends_search_or (fun error => .failed _) fun items hitems => ?_
  match items, hitems with
  | [], hitems =>
    have hvacant := Inventory.lists_nil_iff.mp hitems
    exact ends_pure (.nothing hvacant)
  | [item], hitems =>
    obtain ⟨e, hsole⟩ := Inventory.lists_singleton_iff.mp hitems
    exact ends_removeItem hsole
  | _ :: _ :: _, _ => exact ends_throw (.failed _)

end Outcomes

end FidoKeyWrap.Platform.Linux
