/-
# FidoKeyWrap.Platform.Memory — the stores in memory, for downstream tests.

A store holds a map behind a mutex, which is poisoned when a thread panicked with the lock. The two
stores share the map and its operations; only the removal of a recovery secret looks at the value.
-/
import FidoKeyWrap.Platform.SecretMap

namespace FidoKeyWrap.Platform.Memory

open ByteData

/-- What both stores hold, and whether their mutex is poisoned. -/
structure MemoryStore where
  application : ApplicationId
  entries : RecipientId → Option (Bytes 32)
  poisoned : Bool

namespace MemoryStore

/-- An empty store. -/
def new (application : ApplicationId) : MemoryStore := ⟨application, fun _ => none, false⟩

/-- `entries.lock().map_err(..)?`. -/
def lock (store : MemoryStore) : Result (RecipientId → Option (Bytes 32)) :=
  if store.poisoned then .error .operationFailed else .ok store.entries

/-- `entries.insert(recipient, bytes)` and `entries.remove(&recipient)`. -/
def set (store : MemoryStore) (recipient : RecipientId) (entry : Option (Bytes 32)) :
    MemoryStore :=
  { store with entries := Function.update store.entries recipient entry }

/-- Keep a secret; the same one again is fine, another is refused. -/
def create (store : MemoryStore) (recipient : RecipientId) (secret : Bytes 32) :
    Result Unit × MemoryStore :=
  match store.lock with
  | .error error => (.error error, store)
  | .ok entries =>
    match entries recipient with
    | some existing => (if existing = secret then .ok () else .error .alreadyExists, store)
    | none => (.ok (), store.set recipient (some secret))

/-- The secret of a recipient. -/
def load (store : MemoryStore) (recipient : RecipientId) : Result (Bytes 32) := do
  let entries ← store.lock
  Interact.okOr (entries recipient) .missing

/-- Forget the secret of a recipient. -/
def remove (store : MemoryStore) (recipient : RecipientId) : Result Removal × MemoryStore :=
  match store.lock with
  | .error error => (.error error, store)
  | .ok entries =>
    (.ok (if (entries recipient).isSome then .removed else .absent), store.set recipient none)

end MemoryStore

/-! ## Local secrets -/

/-- A store of local secrets. -/
structure MemoryLocalSecretStore where
  inner : MemoryStore

namespace MemoryLocalSecretStore

/-- An empty store of local secrets. -/
def new (application : ApplicationId) : MemoryLocalSecretStore := ⟨.new application⟩

/-- `create` of the shared store. -/
def create (store : MemoryLocalSecretStore) (recipient : RecipientId) (secret : LocalSecret) :
    Result Unit × MemoryLocalSecretStore :=
  let (result, inner) := store.inner.create recipient secret.bytes
  (result, ⟨inner⟩)

/-- `load` of the shared store. -/
def load (store : MemoryLocalSecretStore) (recipient : RecipientId) : Result LocalSecret :=
  (store.inner.load recipient).map LocalSecret.mk

/-- `remove` of the shared store. -/
def remove (store : MemoryLocalSecretStore) (recipient : RecipientId) :
    Result Removal × MemoryLocalSecretStore :=
  let (result, inner) := store.inner.remove recipient
  (result, ⟨inner⟩)

end MemoryLocalSecretStore

/-! ## Recovery secrets -/

/-- A store of recovery secrets. -/
structure MemoryRecoverySecretStore where
  inner : MemoryStore

namespace MemoryRecoverySecretStore

/-- An empty store of recovery secrets. -/
def new (application : ApplicationId) : MemoryRecoverySecretStore := ⟨.new application⟩

/-- `create` of the shared store. -/
def create (store : MemoryRecoverySecretStore) (recipient : RecipientId)
    (secret : RecoverySecret) : Result Unit × MemoryRecoverySecretStore :=
  let (result, inner) := store.inner.create recipient secret.bytes
  (result, ⟨inner⟩)

/-- `load` of the shared store. -/
def load (store : MemoryRecoverySecretStore) (recipient : RecipientId) : Result RecoverySecret :=
  (store.inner.load recipient).map RecoverySecret.mk

/-- Forget a secret that the caller can name. -/
def remove (store : MemoryRecoverySecretStore) (recipient : RecipientId)
    (expected : RecoverySecret) : Result Removal × MemoryRecoverySecretStore :=
  match store.inner.lock with
  | .error error => (.error error, store)
  | .ok entries =>
    match entries recipient with
    | none => (.ok .absent, store)
    | some stored =>
      if stored ≠ expected.bytes then (.error .alreadyExists, store)
      else (.ok .removed, ⟨store.inner.set recipient none⟩)

end MemoryRecoverySecretStore

/-! ## The map behind a mutex -/

namespace MemoryStore

variable {store : MemoryStore} {recipient : RecipientId}

/-- **`Holds store recipient cell`** — the mutex is sound, and the map has this entry. -/
def Holds (store : MemoryStore) (recipient : RecipientId) (cell : Cell) : Prop :=
  store.poisoned = false ∧ store.entries recipient = cell

theorem lock_of_holds {cell : Cell} (h : store.Holds recipient cell) :
    store.lock = .ok store.entries := by
  simp [lock, h.1]

theorem holds_set {cell : Cell} (h : store.Holds recipient cell) (entry : Cell) :
    (store.set recipient entry).Holds recipient entry :=
  ⟨h.1, Function.update_self ..⟩

/-- The entries of other recipients stay. -/
theorem holds_set_of_ne {other : RecipientId} {cell : Cell} (hne : other ≠ recipient)
    (entry : Cell) (h : store.Holds other cell) : (store.set recipient entry).Holds other cell :=
  ⟨h.1, (Function.update_of_ne hne ..).trans h.2⟩

/-- An entry set to what it is. -/
theorem set_self {cell : Cell} (h : store.Holds recipient cell) : store.set recipient cell = store := by
  obtain ⟨application, entries, poisoned⟩ := store
  obtain ⟨-, hcell⟩ := h
  subst hcell
  simp [set]

theorem create_eq {cell : Cell} (h : store.Holds recipient cell) (secret : Bytes 32) :
    store.create recipient secret =
      ((cell.create secret).1, store.set recipient (cell.create secret).2) := by
  rw [create, lock_of_holds h]
  simp only [h.2]
  cases hcell : cell with
  | none => rfl
  | some stored =>
      rw [hcell] at h
      simp only [Cell.create, set_self h]

theorem load_eq {cell : Cell} (h : store.Holds recipient cell) :
    store.load recipient = cell.load.1 := by
  rw [load, lock_of_holds h]
  change Interact.okOr (store.entries recipient) _ = _
  rw [h.2]
  cases cell <;> rfl

theorem remove_eq {cell : Cell} (h : store.Holds recipient cell) :
    store.remove recipient = (cell.remove.1, store.set recipient cell.remove.2) := by
  rw [remove, lock_of_holds h]
  simp only [h.2]
  cases cell <;> rfl

end MemoryStore

namespace MemoryLocalSecretStore

variable {store : MemoryLocalSecretStore} {recipient : RecipientId} {cell : Cell}

theorem create_eq (h : store.inner.Holds recipient cell) (secret : LocalSecret) :
    store.create recipient secret =
      ((cell.create secret.bytes).1, ⟨store.inner.set recipient (cell.create secret.bytes).2⟩) := by
  rw [create, MemoryStore.create_eq h]

theorem load_eq (h : store.inner.Holds recipient cell) :
    (store.load recipient, store) =
      (cell.load.1.map LocalSecret.mk, ⟨store.inner.set recipient cell.load.2⟩) := by
  have hsame : cell.load.2 = cell := by cases cell <;> rfl
  rw [load, MemoryStore.load_eq h, hsame, MemoryStore.set_self h]

theorem remove_eq (h : store.inner.Holds recipient cell) :
    store.remove recipient = (cell.remove.1, ⟨store.inner.set recipient cell.remove.2⟩) := by
  rw [remove, MemoryStore.remove_eq h]

end MemoryLocalSecretStore

namespace MemoryRecoverySecretStore

variable {store : MemoryRecoverySecretStore} {recipient : RecipientId} {cell : Cell}

theorem create_eq (h : store.inner.Holds recipient cell) (secret : RecoverySecret) :
    store.create recipient secret =
      ((cell.create secret.bytes).1, ⟨store.inner.set recipient (cell.create secret.bytes).2⟩) := by
  rw [create, MemoryStore.create_eq h]

theorem load_eq (h : store.inner.Holds recipient cell) :
    (store.load recipient, store) =
      (cell.load.1.map RecoverySecret.mk, ⟨store.inner.set recipient cell.load.2⟩) := by
  have hsame : cell.load.2 = cell := by cases cell <;> rfl
  rw [load, MemoryStore.load_eq h, hsame, MemoryStore.set_self h]

theorem remove_eq (h : store.inner.Holds recipient cell) (expected : RecoverySecret) :
    store.remove recipient expected = ((cell.removeExpected expected.bytes).1,
      ⟨store.inner.set recipient (cell.removeExpected expected.bytes).2⟩) := by
  rw [remove, MemoryStore.lock_of_holds h]
  simp only [h.2]
  cases hcell : cell with
  | none =>
      rw [hcell] at h
      simp only [Cell.removeExpected, MemoryStore.set_self h]
  | some stored =>
      rw [hcell] at h
      simp only [Cell.removeExpected]
      by_cases hsame : stored = expected.bytes
      · rw [if_neg (not_not.mpr hsame), if_pos hsame]
      · rw [if_pos hsame, if_neg hsame, MemoryStore.set_self h]

end MemoryRecoverySecretStore

end FidoKeyWrap.Platform.Memory
