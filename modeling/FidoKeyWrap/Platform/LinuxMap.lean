/-
# FidoKeyWrap.Platform.LinuxMap — the Secret Service store, without failures, is the map.

`Serves` is a collection in which every request has its effect. Creating goes through a search, the
new item, its secret and a second search; each of them shows what the map says.
-/
import FidoKeyWrap.Platform.Linux
import FidoKeyWrap.Platform.SecretMap

namespace FidoKeyWrap.Platform.Linux

open ByteData Interact Fallible

/-! ## A service without failures -/

/-- **`Serves s event s'`** — one request, with its reply and its effect. Only the secret of an item
that is not there cannot be read. -/
def Serves (s : Collection) : Event secretService → Collection → Prop
  | ⟨.searchItems attributes, reply⟩, s' =>
    s' = s ∧ ∃ items, reply = Except.ok items ∧ (s.filter (Item.matches attributes)).Lists items
  | ⟨.getSecret item, reply⟩, s' =>
    s' = s ∧
      match s item with
      | some e => reply = Except.ok e.secret
      | none => reply = Except.error ServiceError.noResult
  | ⟨.createItem label attributes secret replace contentType, reply⟩, s' =>
    replace = false → ∃ item, reply = Except.ok item ∧ s item = none ∧
      s' = s.insert item ⟨label, attributes, secret, contentType⟩
  | ⟨.delete item, reply⟩, s' => reply = Except.ok () ∧ s' = s.erase item
  | ⟨.isLocked, reply⟩, s' => s' = s ∧ ∃ locked, reply = Except.ok locked
  | ⟨.connect _, reply⟩, s' | ⟨.getDefaultCollection, reply⟩, s' | ⟨.unlock, reply⟩, s'
  | ⟨.ensureUnlocked, reply⟩, s' => reply = Except.ok () ∧ s' = s

theorem exists_serves (s : Collection) (query : Request) :
    ∃ reply s', Serves s ⟨query, reply⟩ s' := by
  cases query with
  | searchItems attributes =>
      obtain ⟨items, hitems⟩ := (s.filter (Item.matches attributes)).exists_lists
      exact ⟨.ok items, s, rfl, items, rfl, hitems⟩
  | getSecret item =>
      cases hitem : s item with
      | none => exact ⟨.error .noResult, s, rfl, by simp only [hitem]; rfl⟩
      | some e => exact ⟨.ok e.secret, s, rfl, by simp only [hitem]; rfl⟩
  | createItem label attributes secret replace contentType =>
      obtain ⟨item, hfree⟩ := s.exists_free
      exact ⟨.ok item, _, fun _ => ⟨item, rfl, hfree, rfl⟩⟩
  | delete item => exact ⟨.ok (), _, rfl, rfl⟩
  | isLocked => exact ⟨.ok false, s, rfl, false, rfl⟩
  | connect | getDefaultCollection | unlock | ensureUnlocked => exact ⟨.ok (), s, rfl, rfl⟩

/-- Without failures is one way to be a collection. -/
theorem Serves.step {s s' : Collection} {event : Event secretService} (h : Serves s event s') :
    Step s event s' := by
  obtain ⟨query, reply⟩ := event
  cases query with
  | searchItems attributes =>
      obtain ⟨rfl, items, rfl, hitems⟩ := h
      refine ⟨rfl, fun items' hitems' => ?_⟩
      cases hitems'
      exact hitems
  | getSecret item =>
      obtain ⟨rfl, hreply⟩ := h
      refine ⟨rfl, fun bytes hbytes => ?_⟩
      cases hitem : s' item with
      | none =>
          simp only [hitem] at hreply
          rw [hreply] at hbytes
          cases hbytes
      | some e =>
          simp only [hitem] at hreply
          rw [hreply] at hbytes
          cases hbytes
          exact ⟨e, rfl, rfl⟩
  | createItem label attributes secret replace contentType =>
      intro hreplace
      obtain ⟨item, rfl, hfree, rfl⟩ := h hreplace
      exact ⟨hfree, rfl⟩
  | delete item => exact .inr h.2
  | isLocked => exact h.1
  | connect | getDefaultCollection | unlock | ensureUnlocked => exact h.2

/-! ## Operations -/

section Operations

variable {s : Collection} {key : EntryKey} {item : ItemPath} {α : Type}
  {Q : Except StoreError α → Collection → Prop}

/-- An item holds a secret. -/
def HoldsSecret (secret : Bytes 32) (item : Item) : Prop := item.secret = secret.toList

theorem ends_served_search {f : Except ServiceError (List ItemPath) → Service α}
    (hok : ∀ items, (s.filter key.selects).Lists items → Ends Serves s (f (.ok items)) Q) :
    Ends Serves s (request (.searchItems key.attributes) >>= f) Q := by
  refine ends_ask_bind fun reply s' hstep => ?_
  obtain ⟨rfl, items, rfl, hitems⟩ := hstep
  exact hok items hitems

theorem ends_served_getSecret {f : Except ServiceError ByteString → Service α} {e : Item}
    (hitem : s item = some e) (hok : Ends Serves s (f (.ok e.secret)) Q) :
    Ends Serves s (request (.getSecret item) >>= f) Q := by
  refine ends_ask_bind fun reply s' hstep => ?_
  obtain ⟨rfl, hreply⟩ := hstep
  simp only [hitem] at hreply
  rw [hreply]
  exact hok

/-- A request that is granted, and changes no item. -/
theorem ends_granted {query : Request} {g : secretService.Reply query → Result Unit}
    (h : ∀ reply s', Serves s ⟨query, reply⟩ s' → g reply = .ok () ∧ s' = s) :
    Ends Serves s (request query >>= fun reply => (liftM (g reply) : Service Unit))
      fun r s' => r = .ok () ∧ s' = s := by
  refine ends_ask_bind fun reply s' hstep => ?_
  exact ends_except (h reply s' hstep)

theorem ends_served_open {p : Service α} (hok : Ends Serves s p Q) :
    Ends Serves s (do connect; defaultCollection; unlockCollection; p) Q := by
  have hthen : ∀ {x : Service Unit} {g : Unit → Service α},
      Ends Serves s x (fun r s' => r = .ok () ∧ s' = s) → Ends Serves s (g ()) Q →
        Ends Serves s (x >>= g) Q := by
    intro x g hx hg
    refine ends_bind hx ?_ ?_
    · rintro error s' ⟨h, -⟩
      cases h
    · rintro _ s' ⟨-, rfl⟩
      exact hg
  have hgrant : ∀ {reply : Except ServiceError Unit} {s' : Collection},
      reply = .ok () ∧ s' = s → reply.mapError mapError = .ok () ∧ s' = s := by
    rintro reply s' ⟨rfl, rfl⟩
    exact ⟨rfl, rfl⟩
  refine hthen (ends_granted fun _ _ h => hgrant h) ?_
  refine hthen (ends_granted fun _ _ h => hgrant h) ?_
  refine hthen ?_ hok
  unfold unlockCollection
  refine ends_ask_bind fun reply s' hstep => ?_
  obtain ⟨rfl, locked, rfl⟩ := hstep
  change Ends Serves s' ((if locked = true then _ else _ : Service Unit) >>= _) _
  refine ends_bind (R := fun r s₁ => r = .ok () ∧ s₁ = s') ?_ ?_ ?_
  · split
    · exact ends_granted fun _ _ h => hgrant h
    · exact ends_pure ⟨rfl, rfl⟩
  · rintro error s₁ ⟨h, -⟩
    cases h
  · rintro _ s₁ ⟨-, rfl⟩
    exact ends_granted fun _ _ h => hgrant h

theorem create_acts (store : NativeLocalSecretStore) (recipient : RecipientId)
    (secret : LocalSecret) {cell : Cell}
    (hcell : Stores HoldsSecret (entryKey store recipient).selects s cell) :
    Ends Serves s (create store recipient secret)
      (Acts HoldsSecret (entryKey store recipient).selects s (cell.create secret.bytes)) := by
  refine ends_served_open (ends_served_search fun items hitems => ?_)
  cases cell with
  | none =>
      obtain rfl := Inventory.Vacant.lists hcell hitems
      refine ends_ask_bind fun reply s' hstep => ?_
      obtain ⟨item, rfl, hfree, rfl⟩ := hstep rfl
      refine ends_served_getSecret Inventory.insert_self ?_
      change Ends Serves _ (if (!binaryMatches secret.bytes.toList secret) = true then _ else _) _
      rw [if_neg (by simp [binaryMatches_iff.mpr])]
      refine ends_served_search fun items hitems => ?_
      obtain rfl := (sole_insert hcell).lists hitems
      change Ends Serves _ (if ([item].length == 1 && [item].head? == some item) = true
        then _ else _) _
      rw [if_pos (by simp)]
      exact ends_pure (.inserted hcell hfree (selects_item _ secret) rfl)
  | some stored =>
      obtain ⟨item, e, hsole, hholds⟩ := hcell
      obtain rfl := hsole.lists hitems
      refine ends_served_getSecret (Inventory.filter_eq_some.mp hsole.holds).1 ?_
      refine ends_except ?_
      rw [show e.secret = stored.toList from hholds, compareStored_toList]
      exact .unchanged ⟨item, e, hsole, hholds⟩

theorem load_acts (store : NativeLocalSecretStore) (recipient : RecipientId) {cell : Cell}
    (hcell : Stores HoldsSecret (entryKey store recipient).selects s cell) :
    Ends Serves s (load store recipient)
      (Acts HoldsSecret (entryKey store recipient).selects s
        (cell.load.1.map LocalSecret.mk, cell.load.2)) := by
  refine ends_served_open (ends_served_search fun items hitems => ?_)
  cases cell with
  | none =>
      obtain rfl := Inventory.Vacant.lists hcell hitems
      exact ends_throw (.unchanged hcell)
  | some stored =>
      obtain ⟨item, e, hsole, hholds⟩ := hcell
      obtain rfl := hsole.lists hitems
      refine ends_served_getSecret (Inventory.filter_eq_some.mp hsole.holds).1 ?_
      refine ends_except ?_
      have himport : importBinary e.secret = .ok ⟨stored⟩ := importBinary_eq_ok.mpr hholds
      rw [himport]
      exact .unchanged ⟨item, e, hsole, hholds⟩

theorem remove_acts (store : NativeLocalSecretStore) (recipient : RecipientId) {cell : Cell}
    (hcell : Stores HoldsSecret (entryKey store recipient).selects s cell) :
    Ends Serves s (remove store recipient)
      (Acts HoldsSecret (entryKey store recipient).selects s cell.remove) := by
  refine ends_served_open (ends_served_search fun items hitems => ?_)
  cases cell with
  | none =>
      obtain rfl := Inventory.Vacant.lists hcell hitems
      exact ends_pure (.unchanged hcell)
  | some stored =>
      obtain ⟨item, e, hsole, hholds⟩ := hcell
      obtain rfl := hsole.lists hitems
      refine ends_ask_bind fun reply s' hstep => ?_
      obtain ⟨rfl, rfl⟩ := hstep
      refine ends_served_search fun remaining hremaining => ?_
      have hgone : ((s.erase item).filter (entryKey store recipient).selects).Vacant := by
        rw [Inventory.filter_erase]
        exact hsole.vacant_erase
      obtain rfl := hgone.lists hremaining
      exact ends_pure (.erased hsole)

/-- The items of one entry are not those of another. -/
theorem selects_apart {store store' : NativeLocalSecretStore} {recipient recipient' : RecipientId}
    (hne : ¬ (store.application = store'.application ∧ recipient = recipient')) :
    Inventory.Apart (entryKey store recipient).selects (entryKey store' recipient').selects := by
  intro e he
  rw [Bool.eq_false_iff]
  intro he'
  simp only [EntryKey.selects, Item.matches, EntryKey.attributes, entryKey, List.all_cons,
    List.all_nil, Bool.and_true, Bool.and_eq_true, beq_iff_eq] at he he'
  obtain ⟨-, happlication, hrecipient⟩ := he
  obtain ⟨-, happlication', hrecipient'⟩ := he'
  rw [happlication, Option.some.injEq] at happlication'
  rw [hrecipient, Option.some.injEq] at hrecipient'
  exact hne ⟨ApplicationId.asStr_inj.mp happlication', recipientName_inj.mp hrecipient'⟩

end Operations

end FidoKeyWrap.Platform.Linux
