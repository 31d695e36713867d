/-
# FidoKeyWrap.Platform.Refinement — every secret store is one create-only map.

A `Machine` is everything the stores keep their secrets in: the Secret Service collection, the macos
keychains that three stores share, and a store in memory for each application. A call of a store is
one event of a machine whose services do not fail. `Lookup` is what a store is for, a partial map
from the kind of store, the application and the recipient to a secret, with its own calls.

`Refines` relates the two key by key. A call of any store answers as the map does and keeps the
relation, so a machine and the map have the same histories (`stores_are_one_map`). The keys of
different stores and entries select different items, which rests on the names being injective.
-/
import FidoKeyWrap.Platform.LinuxMap
import FidoKeyWrap.Platform.KeychainMap
import FidoKeyWrap.Platform.Memory

namespace FidoKeyWrap.Platform

open ByteData Interact Fallible

/-! ## Calls -/

/-- The stores of local secrets. -/
inductive LocalKind where
  | linux
  | macos (kind : Macos.StoreKind)
  | memory
  deriving DecidableEq

/-- The stores of recovery secrets. -/
inductive RecoveryKind where
  | userPresence
  | memory
  deriving DecidableEq

/-- A call of one of the stores. -/
inductive Request where
  | createLocal (kind : LocalKind) (application : ApplicationId) (recipient : RecipientId)
      (secret : LocalSecret)
  | loadLocal (kind : LocalKind) (application : ApplicationId) (recipient : RecipientId)
  | removeLocal (kind : LocalKind) (application : ApplicationId) (recipient : RecipientId)
  | createRecovery (kind : RecoveryKind) (application : ApplicationId) (recipient : RecipientId)
      (secret : RecoverySecret)
  | loadRecovery (kind : RecoveryKind) (application : ApplicationId) (recipient : RecipientId)
  | removeRecovery (kind : RecoveryKind) (application : ApplicationId) (recipient : RecipientId)
      (expected : RecoverySecret)

def secretStores : Signature where
  Query := Request
  Reply
    | .createLocal .. | .createRecovery .. => Result Unit
    | .loadLocal .. => Result LocalSecret
    | .loadRecovery .. => Result RecoverySecret
    | .removeLocal .. | .removeRecovery .. => Result Removal

/-! ## The map -/

/-- The kind of a store. -/
inductive StoreKind where
  | localSecrets (kind : LocalKind)
  | recoverySecrets (kind : RecoveryKind)
  deriving DecidableEq

@[ext] structure Key where
  kind : StoreKind
  application : ApplicationId
  recipient : RecipientId
  deriving DecidableEq

/-- **`Lookup`** — the secret under each key. -/
abbrev Lookup := Key → Cell

/-- An operation on the cell of a key. -/
def Lookup.act {α : Type} (map : Lookup) (key : Key) (operation : Cell → α × Cell) : α × Lookup :=
  let (result, cell) := operation (map key)
  (result, Function.update map key cell)

/-- What the map answers, and what it becomes. -/
def Lookup.answer (map : Lookup) : (request : Request) → secretStores.Reply request × Lookup
  | .createLocal kind application recipient secret =>
    map.act ⟨.localSecrets kind, application, recipient⟩ (Cell.create secret.bytes)
  | .loadLocal kind application recipient =>
    map.act ⟨.localSecrets kind, application, recipient⟩ fun cell =>
      (cell.load.1.map LocalSecret.mk, cell.load.2)
  | .removeLocal kind application recipient =>
    map.act ⟨.localSecrets kind, application, recipient⟩ Cell.remove
  | .createRecovery kind application recipient secret =>
    map.act ⟨.recoverySecrets kind, application, recipient⟩ (Cell.create secret.bytes)
  | .loadRecovery kind application recipient =>
    map.act ⟨.recoverySecrets kind, application, recipient⟩ fun cell =>
      (cell.load.1.map RecoverySecret.mk, cell.load.2)
  | .removeRecovery kind application recipient expected =>
    map.act ⟨.recoverySecrets kind, application, recipient⟩
      (Cell.removeExpected expected.bytes)

/-- One call of the map. -/
def Lookup.Step (map : Lookup) (event : Event secretStores) (map' : Lookup) : Prop :=
  (event.reply, map') = map.answer event.query

/-! ## The machine -/

/-- **`Machine`** — where the stores keep their secrets. -/
structure Machine where
  collection : Linux.Collection
  keychains : Keychain.Keychains
  memoryLocal : ApplicationId → Memory.MemoryLocalSecretStore
  memoryRecovery : ApplicationId → Memory.MemoryRecoverySecretStore

/-- The machine with empty stores. -/
def Machine.empty : Machine where
  collection := .empty
  keychains := ⟨.empty, fun _ _ _ _ h => by cases h⟩
  memoryLocal := .new
  memoryRecovery := .new

/-- A program answers in a world. -/
def Executes {Sg : Signature} {σ ε α : Type} (step : σ → Event Sg → σ → Prop) (s : σ)
    (x : Fallible Sg ε α) (r : Except ε α) (s' : σ) : Prop :=
  ∃ t, x.run.Runs t r ∧ Path step s t s'

/-- A call of a Linux store. -/
def Machine.OnLinux {α : Type} (m : Machine) (x : Linux.Service α) (r : Result α)
    (m' : Machine) : Prop :=
  ∃ collection, Executes Linux.Serves m.collection x r collection ∧
    m' = { m with collection := collection }

/-- A call of a keychain store. -/
def Machine.OnKeychains {α : Type} (m : Machine) (x : Keychain.Security StoreError α)
    (r : Result α) (m' : Machine) : Prop :=
  ∃ keychains, Executes Keychain.Serves m.keychains x r keychains ∧
    m' = { m with keychains := keychains }

/-- A call of a local store in memory. -/
def Machine.OnMemoryLocal {α : Type} (m : Machine) (application : ApplicationId)
    (call : Memory.MemoryLocalSecretStore → α × Memory.MemoryLocalSecretStore) (r : α)
    (m' : Machine) : Prop :=
  (r, m') = ((call (m.memoryLocal application)).1,
    { m with memoryLocal :=
      Function.update m.memoryLocal application (call (m.memoryLocal application)).2 })

/-- A call of a recovery store in memory. -/
def Machine.OnMemoryRecovery {α : Type} (m : Machine) (application : ApplicationId)
    (call : Memory.MemoryRecoverySecretStore → α × Memory.MemoryRecoverySecretStore) (r : α)
    (m' : Machine) : Prop :=
  (r, m') = ((call (m.memoryRecovery application)).1,
    { m with memoryRecovery :=
      Function.update m.memoryRecovery application (call (m.memoryRecovery application)).2 })

variable [Primitives]

/-- **`Machine.Step m event m'`** — one call of a store, on services that do not fail. -/
def Machine.Step (m : Machine) : Event secretStores → Machine → Prop
  | ⟨.createLocal kind application recipient secret, r⟩, m' =>
    match kind with
    | .linux => m.OnLinux (Linux.create ⟨application⟩ recipient secret) r m'
    | .macos kind => m.OnKeychains (Macos.create ⟨application, kind⟩ recipient secret) r m'
    | .memory => m.OnMemoryLocal application (·.create recipient secret) r m'
  | ⟨.loadLocal kind application recipient, r⟩, m' =>
    match kind with
    | .linux => m.OnLinux (Linux.load ⟨application⟩ recipient) r m'
    | .macos kind => m.OnKeychains (Macos.load ⟨application, kind⟩ recipient) r m'
    | .memory =>
      m.OnMemoryLocal application (fun store => (store.load recipient, store)) r m'
  | ⟨.removeLocal kind application recipient, r⟩, m' =>
    match kind with
    | .linux => m.OnLinux (Linux.remove ⟨application⟩ recipient) r m'
    | .macos kind => m.OnKeychains (Macos.remove ⟨application, kind⟩ recipient) r m'
    | .memory => m.OnMemoryLocal application (·.remove recipient) r m'
  | ⟨.createRecovery kind application recipient secret, r⟩, m' =>
    match kind with
    | .userPresence => m.OnKeychains (UserPresence.create ⟨application⟩ recipient secret) r m'
    | .memory => m.OnMemoryRecovery application (·.create recipient secret) r m'
  | ⟨.loadRecovery kind application recipient, r⟩, m' =>
    match kind with
    | .userPresence => m.OnKeychains (UserPresence.load ⟨application⟩ recipient) r m'
    | .memory =>
      m.OnMemoryRecovery application (fun store => (store.load recipient, store)) r m'
  | ⟨.removeRecovery kind application recipient expected, r⟩, m' =>
    match kind with
    | .userPresence => m.OnKeychains (UserPresence.remove ⟨application⟩ recipient expected) r m'
    | .memory => m.OnMemoryRecovery application (·.remove recipient expected) r m'

/-! ## The relation -/

/-- **`Machine.Holds m key cell`** — what the machine keeps under a key. -/
def Machine.Holds (m : Machine) (key : Key) (cell : Cell) : Prop :=
  match key.kind with
  | .localSecrets .linux =>
    Stores Linux.HoldsSecret (Linux.entryKey ⟨key.application⟩ key.recipient).selects
      m.collection cell
  | .localSecrets (.macos kind) =>
    Stores Macos.HoldsData (Macos.entryKey ⟨key.application, kind⟩ key.recipient).selects
      m.keychains.items cell
  | .localSecrets .memory => (m.memoryLocal key.application).inner.Holds key.recipient cell
  | .recoverySecrets .userPresence =>
    Stores UserPresence.HoldsLabelled
      (UserPresence.entryKey ⟨key.application⟩ key.recipient).selects m.keychains.items cell
  | .recoverySecrets .memory => (m.memoryRecovery key.application).inner.Holds key.recipient cell

/-- **`Refines m map`** — the machine keeps under every key what the map says. -/
def Refines (m : Machine) (map : Lookup) : Prop := ∀ key, m.Holds key (map key)

/-- The entry of a key, where it is in a keychain. -/
def Key.entry (key : Key) : Option Keychain.EntryKey :=
  match key.kind with
  | .localSecrets (.macos kind) => some (Macos.entryKey ⟨key.application, kind⟩ key.recipient)
  | .recoverySecrets .userPresence =>
    some (UserPresence.entryKey ⟨key.application⟩ key.recipient)
  | _ => none

section Frames

variable {m : Machine} {map : Lookup} {key : Key} {cell : Cell} {α : Type} {r : α}

omit [Primitives] in
theorem location_inj {kind kind' : Macos.StoreKind} (h : kind.location = kind'.location) :
    kind = kind' := by
  cases kind <;> cases kind' <;> first | rfl | cases h

omit [Primitives] in
/-- Keys of keychain stores have different entries. -/
theorem Key.entry_inj {key' : Key} {e : Keychain.EntryKey} (h : key.entry = some e)
    (h' : key'.entry = some e) : key' = key := by
  obtain ⟨kind, application, recipient⟩ := key
  obtain ⟨kind', application', recipient'⟩ := key'
  match kind, kind', h, h' with
  | .localSecrets (.macos kind), .localSecrets (.macos kind'), h, h' =>
    obtain rfl := Option.some.inj h
    obtain ⟨hlocation, hservice, haccount⟩ :=
      Keychain.EntryKey.mk.inj (Option.some.inj h')
    obtain rfl := location_inj hlocation
    obtain rfl := serviceName_inj.mp hservice
    obtain rfl := recipientName_inj.mp haccount
    rfl
  | .localSecrets (.macos kind), .recoverySecrets .userPresence, h, h' =>
    obtain rfl := Option.some.inj h
    obtain ⟨-, hservice, -⟩ := Keychain.EntryKey.mk.inj (Option.some.inj h')
    exact absurd hservice.symm (serviceName_ne application application')
  | .recoverySecrets .userPresence, .localSecrets (.macos kind'), h, h' =>
    obtain rfl := Option.some.inj h
    obtain ⟨-, hservice, -⟩ := Keychain.EntryKey.mk.inj (Option.some.inj h')
    exact absurd hservice (serviceName_ne application' application)
  | .recoverySecrets .userPresence, .recoverySecrets .userPresence, h, h' =>
    obtain rfl := Option.some.inj h
    obtain ⟨-, hservice, haccount⟩ := Keychain.EntryKey.mk.inj (Option.some.inj h')
    obtain rfl := recoveryServiceName_inj.mp hservice
    obtain rfl := recipientName_inj.mp haccount
    rfl

/-! ### What a call leaves of other keys -/

theorem holds_of_collection {application : ApplicationId} {recipient : RecipientId}
    {out : Result α × Cell} {r : Result α} {collection : Linux.Collection}
    (hacts : Acts Linux.HoldsSecret (Linux.entryKey ⟨application⟩ recipient).selects m.collection
      out r collection) {key' : Key} (hne : key' ≠ ⟨.localSecrets .linux, application, recipient⟩)
    (h : m.Holds key' cell) : Machine.Holds { m with collection := collection } key' cell := by
  obtain ⟨kind, application', recipient'⟩ := key'
  match kind, hne, h with
  | .localSecrets .linux, hne, h =>
    refine Stores.of_filter_eq h (hacts.apart _ (Linux.selects_apart ?_))
    rintro ⟨rfl, rfl⟩
    exact hne rfl
  | .localSecrets (.macos _), _, h => exact h
  | .localSecrets .memory, _, h => exact h
  | .recoverySecrets .userPresence, _, h => exact h
  | .recoverySecrets .memory, _, h => exact h

theorem holds_of_keychains {holds : Bytes 32 → Keychain.Entry → Prop} {e : Keychain.EntryKey}
    {out : Result α × Cell} {r : Result α} {keychains : Keychain.Keychains}
    (hentry : key.entry = some e)
    (hacts : Acts holds e.selects m.keychains.items out r keychains.items) {key' : Key}
    (hne : key' ≠ key) (h : m.Holds key' cell) :
    Machine.Holds { m with keychains := keychains } key' cell := by
  have hother : ∀ {e' : Keychain.EntryKey}, key'.entry = some e' →
      keychains.items.filter e'.selects = m.keychains.items.filter e'.selects := by
    intro e' hentry'
    refine hacts.apart _ (Keychain.apart_of_ne ?_)
    rintro rfl
    exact hne (Key.entry_inj hentry hentry')
  obtain ⟨kind, application', recipient'⟩ := key'
  match kind, h with
  | .localSecrets .linux, h => exact h
  | .localSecrets (.macos kind), h => exact Stores.of_filter_eq h (hother rfl)
  | .localSecrets .memory, h => exact h
  | .recoverySecrets .userPresence, h => exact Stores.of_filter_eq h (hother rfl)
  | .recoverySecrets .memory, h => exact h

theorem holds_of_memoryLocal {application : ApplicationId} {recipient : RecipientId}
    (entry : Cell) {key' : Key} (hne : key' ≠ ⟨.localSecrets .memory, application, recipient⟩)
    (h : m.Holds key' cell) :
    Machine.Holds { m with
      memoryLocal := Function.update m.memoryLocal application
        ⟨(m.memoryLocal application).inner.set recipient entry⟩ } key' cell := by
  obtain ⟨kind, application', recipient'⟩ := key'
  match kind, hne, h with
  | .localSecrets .linux, _, h => exact h
  | .localSecrets (.macos _), _, h => exact h
  | .recoverySecrets .userPresence, _, h => exact h
  | .recoverySecrets .memory, _, h => exact h
  | .localSecrets .memory, hne, h =>
    simp only [Machine.Holds] at h ⊢
    by_cases happlication : application' = application
    · subst happlication
      rw [Function.update_self]
      refine Memory.MemoryStore.holds_set_of_ne ?_ entry h
      rintro rfl
      exact hne rfl
    · rw [Function.update_of_ne happlication]
      exact h

theorem holds_of_memoryRecovery {application : ApplicationId} {recipient : RecipientId}
    (entry : Cell) {key' : Key} (hne : key' ≠ ⟨.recoverySecrets .memory, application, recipient⟩)
    (h : m.Holds key' cell) :
    Machine.Holds { m with
      memoryRecovery := Function.update m.memoryRecovery application
        ⟨(m.memoryRecovery application).inner.set recipient entry⟩ } key' cell := by
  obtain ⟨kind, application', recipient'⟩ := key'
  match kind, hne, h with
  | .localSecrets .linux, _, h => exact h
  | .localSecrets (.macos _), _, h => exact h
  | .localSecrets .memory, _, h => exact h
  | .recoverySecrets .userPresence, _, h => exact h
  | .recoverySecrets .memory, hne, h =>
    simp only [Machine.Holds] at h ⊢
    by_cases happlication : application' = application
    · subst happlication
      rw [Function.update_self]
      refine Memory.MemoryStore.holds_set_of_ne ?_ entry h
      rintro rfl
      exact hne rfl
    · rw [Function.update_of_ne happlication]
      exact h

/-- An operation that answers as the map does and touches one key. -/
theorem Refines.act {m' : Machine} {operation : Cell → α × Cell} (h : Refines m map)
    (hresult : r = (operation (map key)).1) (hkey : m'.Holds key (operation (map key)).2)
    (hother : ∀ key' ≠ key, ∀ cell, m.Holds key' cell → m'.Holds key' cell) :
    r = (map.act key operation).1 ∧ Refines m' (map.act key operation).2 := by
  refine ⟨hresult, fun key' => ?_⟩
  by_cases hsame : key' = key
  · subst hsame
    simp only [Lookup.act, Function.update_self]
    exact hkey
  · simp only [Lookup.act, ne_eq, hsame, not_false_eq_true, Function.update_of_ne]
    exact hother key' hsame _ (h key')

/-! ### One call -/

theorem Refines.onLinux {m' : Machine} {application : ApplicationId} {recipient : RecipientId}
    {x : Linux.Service α} {r : Result α} {operation : Cell → Result α × Cell} (h : Refines m map)
    (hx : Ends Linux.Serves m.collection x
      (Acts Linux.HoldsSecret (Linux.entryKey ⟨application⟩ recipient).selects m.collection
        (operation (map ⟨.localSecrets .linux, application, recipient⟩))))
    (hon : m.OnLinux x r m') :
    r = (map.act ⟨.localSecrets .linux, application, recipient⟩ operation).1 ∧
      Refines m' (map.act ⟨.localSecrets .linux, application, recipient⟩ operation).2 := by
  obtain ⟨collection, ⟨t, hrun, hpath⟩, rfl⟩ := hon
  have hacts := hx t r collection hrun hpath
  exact h.act hacts.result hacts.cell fun _ hne _ hother => holds_of_collection hacts hne hother

theorem Refines.onKeychains {m' : Machine} {holds : Bytes 32 → Keychain.Entry → Prop}
    {e : Keychain.EntryKey} {x : Keychain.Security StoreError α} {r : Result α}
    {operation : Cell → Result α × Cell} (h : Refines m map) (hentry : key.entry = some e)
    (hholds : ∀ keychains cell, Stores holds e.selects keychains.items cell →
      Machine.Holds { m with keychains := keychains } key cell)
    (hx : Ends Keychain.Serves m.keychains x fun r s' =>
      Acts holds e.selects m.keychains.items (operation (map key)) r s'.items)
    (hon : m.OnKeychains x r m') :
    r = (map.act key operation).1 ∧ Refines m' (map.act key operation).2 := by
  obtain ⟨keychains, ⟨t, hrun, hpath⟩, rfl⟩ := hon
  have hacts := hx t r keychains hrun hpath
  exact h.act hacts.result (hholds _ _ hacts.cell)
    fun _ hne _ hother => holds_of_keychains hentry hacts hne hother

theorem Refines.onMemoryLocal {m' : Machine} {application : ApplicationId}
    {recipient : RecipientId}
    {call : Memory.MemoryLocalSecretStore → α × Memory.MemoryLocalSecretStore}
    {operation : Cell → α × Cell} (h : Refines m map)
    (hcall : ∀ store cell, store.inner.Holds recipient cell →
      call store = ((operation cell).1, ⟨store.inner.set recipient (operation cell).2⟩))
    (hon : m.OnMemoryLocal application call r m') :
    r = (map.act ⟨.localSecrets .memory, application, recipient⟩ operation).1 ∧
      Refines m' (map.act ⟨.localSecrets .memory, application, recipient⟩ operation).2 := by
  have hcell := h ⟨.localSecrets .memory, application, recipient⟩
  have hstore := hcall (m.memoryLocal application) _ hcell
  rw [Machine.OnMemoryLocal, hstore, Prod.mk.injEq] at hon
  obtain ⟨rfl, rfl⟩ := hon
  refine h.act rfl ?_ fun _ hne _ hother => holds_of_memoryLocal _ hne hother
  simp only [Machine.Holds, Function.update_self]
  exact Memory.MemoryStore.holds_set hcell _

theorem Refines.onMemoryRecovery {m' : Machine} {application : ApplicationId}
    {recipient : RecipientId}
    {call : Memory.MemoryRecoverySecretStore → α × Memory.MemoryRecoverySecretStore}
    {operation : Cell → α × Cell} (h : Refines m map)
    (hcall : ∀ store cell, store.inner.Holds recipient cell →
      call store = ((operation cell).1, ⟨store.inner.set recipient (operation cell).2⟩))
    (hon : m.OnMemoryRecovery application call r m') :
    r = (map.act ⟨.recoverySecrets .memory, application, recipient⟩ operation).1 ∧
      Refines m' (map.act ⟨.recoverySecrets .memory, application, recipient⟩ operation).2 := by
  have hcell := h ⟨.recoverySecrets .memory, application, recipient⟩
  have hstore := hcall (m.memoryRecovery application) _ hcell
  rw [Machine.OnMemoryRecovery, hstore, Prod.mk.injEq] at hon
  obtain ⟨rfl, rfl⟩ := hon
  refine h.act rfl ?_ fun _ hne _ hother => holds_of_memoryRecovery _ hne hother
  simp only [Machine.Holds, Function.update_self]
  exact Memory.MemoryStore.holds_set hcell _

end Frames

/-! ## One map -/

/-- The secrets a call takes the fingerprint of. -/
def Request.fingerprinted : Request → Option RecoverySecret
  | .createRecovery .userPresence _ _ secret => some secret
  | .removeRecovery .userPresence _ _ expected => some expected
  | _ => none

def fingerprinted (requests : List Request) : Set RecoverySecret :=
  { secret | ∃ request ∈ requests, request.fingerprinted = some secret }

/-- `Sha256::digest(bytes)`. -/
def digest (secret : RecoverySecret) : Bytes 32 := Primitives.sha256 secret.bytes.toList

theorem digest_eq_of_itemLabel {a b : RecoverySecret}
    (h : UserPresence.itemLabel a = UserPresence.itemLabel b) : digest a = digest b :=
  Bytes.ext (hex_injective (append_string_inj.mp h))

/-- Everything in the user-presence store was created by one of the calls. -/
def Known (secrets : Set RecoverySecret) (map : Lookup) : Prop :=
  ∀ application recipient stored,
    map ⟨.recoverySecrets .userPresence, application, recipient⟩ = some stored →
      ⟨stored⟩ ∈ secrets

section Simulation

variable {m m' : Machine} {map : Lookup} {event : Event secretStores}
  {secrets : Set RecoverySecret}

/-- **The step lemma**: a call of any store answers as the map does. -/
theorem refines_step (hrefines : Refines m map) (hknown : Known secrets map)
    (hsecrets : ∀ secret, event.query.fingerprinted = some secret → secret ∈ secrets)
    (hdistinct : Set.InjOn digest secrets) (hstep : m.Step event m') :
    event.reply = (map.answer event.query).1 ∧ Refines m' (map.answer event.query).2 := by
  obtain ⟨request, r⟩ := event
  match request, r, hstep with
  | .createLocal .linux application recipient secret, r, hstep =>
    have hkey := hrefines ⟨.localSecrets .linux, application, recipient⟩
    exact hrefines.onLinux (Linux.create_acts _ recipient secret hkey) hstep
  | .loadLocal .linux application recipient, r, hstep =>
    have hkey := hrefines ⟨.localSecrets .linux, application, recipient⟩
    exact hrefines.onLinux (Linux.load_acts _ recipient hkey) hstep
  | .removeLocal .linux application recipient, r, hstep =>
    have hkey := hrefines ⟨.localSecrets .linux, application, recipient⟩
    exact hrefines.onLinux (Linux.remove_acts _ recipient hkey) hstep
  | .createLocal (.macos kind) application recipient secret, r, hstep =>
    have hkey := hrefines ⟨.localSecrets (.macos kind), application, recipient⟩
    exact hrefines.onKeychains rfl (fun _ _ h => h) (Macos.create_acts secret hkey) hstep
  | .loadLocal (.macos kind) application recipient, r, hstep =>
    have hkey := hrefines ⟨.localSecrets (.macos kind), application, recipient⟩
    exact hrefines.onKeychains rfl (fun _ _ h => h) (Macos.load_acts hkey) hstep
  | .removeLocal (.macos kind) application recipient, r, hstep =>
    have hkey := hrefines ⟨.localSecrets (.macos kind), application, recipient⟩
    exact hrefines.onKeychains rfl (fun _ _ h => h) (Macos.remove_acts hkey) hstep
  | .createLocal .memory application recipient secret, r, hstep =>
    exact hrefines.onMemoryLocal
      (fun _ _ h => Memory.MemoryLocalSecretStore.create_eq h secret) hstep
  | .loadLocal .memory application recipient, r, hstep =>
    exact hrefines.onMemoryLocal (fun _ _ h => Memory.MemoryLocalSecretStore.load_eq h) hstep
  | .removeLocal .memory application recipient, r, hstep =>
    exact hrefines.onMemoryLocal (fun _ _ h => Memory.MemoryLocalSecretStore.remove_eq h) hstep
  | .createRecovery .userPresence application recipient secret, r, hstep =>
    have hkey := hrefines ⟨.recoverySecrets .userPresence, application, recipient⟩
    exact hrefines.onKeychains rfl (fun _ _ h => h) (UserPresence.create_acts secret hkey) hstep
  | .loadRecovery .userPresence application recipient, r, hstep =>
    have hkey := hrefines ⟨.recoverySecrets .userPresence, application, recipient⟩
    exact hrefines.onKeychains rfl (fun _ _ h => h) (UserPresence.load_acts hkey) hstep
  | .removeRecovery .userPresence application recipient expected, r, hstep =>
    have hkey := hrefines ⟨.recoverySecrets .userPresence, application, recipient⟩
    refine hrefines.onKeychains rfl (fun _ _ h => h) (UserPresence.remove_acts expected hkey ?_)
      hstep
    intro stored hstored hlabel
    have hsame := hdistinct (hknown application recipient stored hstored)
      (hsecrets expected rfl) (digest_eq_of_itemLabel hlabel)
    rw [← hsame]
  | .createRecovery .memory application recipient secret, r, hstep =>
    exact hrefines.onMemoryRecovery
      (fun _ _ h => Memory.MemoryRecoverySecretStore.create_eq h secret) hstep
  | .loadRecovery .memory application recipient, r, hstep =>
    exact hrefines.onMemoryRecovery
      (fun _ _ h => Memory.MemoryRecoverySecretStore.load_eq h) hstep
  | .removeRecovery .memory application recipient expected, r, hstep =>
    exact hrefines.onMemoryRecovery
      (fun _ _ h => Memory.MemoryRecoverySecretStore.remove_eq h expected) hstep

omit [Primitives] in
/-- What an operation leaves under a key was there or is a known secret. -/
theorem Known.act {α : Type} {key : Key} {operation : Cell → α × Cell} (hknown : Known secrets map)
    (hcell : key.kind = .recoverySecrets .userPresence → ∀ stored,
      (operation (map key)).2 = some stored → map key = some stored ∨ ⟨stored⟩ ∈ secrets) :
    Known secrets (map.act key operation).2 := by
  intro application recipient stored hstored
  by_cases hsame : (⟨.recoverySecrets .userPresence, application, recipient⟩ : Key) = key
  · subst hsame
    simp only [Lookup.act, Function.update_self] at hstored
    rcases hcell rfl stored hstored with hold | hnew
    · exact hknown application recipient stored hold
    · exact hnew
  · simp only [Lookup.act, ne_eq, hsame, not_false_eq_true, Function.update_of_ne] at hstored
    exact hknown application recipient stored hstored

omit [Primitives] in
theorem Cell.create_eq_some {cell : Cell} {secret stored : Bytes 32}
    (h : (cell.create secret).2 = some stored) : cell = some stored ∨ stored = secret := by
  cases cell with
  | none => exact .inr (Option.some.inj h).symm
  | some _ => exact .inl h

omit [Primitives] in
theorem Cell.load_eq_some {cell : Cell} {stored : Bytes 32} (h : cell.load.2 = some stored) :
    cell = some stored := by
  cases cell <;> exact h

omit [Primitives] in
theorem Cell.removeExpected_eq_some {cell : Cell} {expected stored : Bytes 32}
    (h : (cell.removeExpected expected).2 = some stored) : cell = some stored := by
  cases cell with
  | none => exact h
  | some _ =>
      simp only [Cell.removeExpected] at h
      split at h
      · cases h
      · exact h

omit [Primitives] in
theorem known_step {request : Request} (hknown : Known secrets map)
    (hsecrets : ∀ secret, request.fingerprinted = some secret → secret ∈ secrets) :
    Known secrets (map.answer request).2 := by
  match request, hsecrets with
  | .createLocal .., _ => exact hknown.act fun h => by cases h
  | .loadLocal .., _ => exact hknown.act fun h => by cases h
  | .removeLocal .., _ => exact hknown.act fun h => by cases h
  | .createRecovery .memory .., _ => exact hknown.act fun h => by cases h
  | .createRecovery .userPresence application recipient secret, hsecrets =>
    refine hknown.act fun _ stored h => (Cell.create_eq_some h).imp_right ?_
    rintro rfl
    exact hsecrets secret rfl
  | .loadRecovery .., _ => exact hknown.act fun _ stored h => .inl (Cell.load_eq_some h)
  | .removeRecovery .., _ =>
    exact hknown.act fun _ stored h => .inl (Cell.removeExpected_eq_some h)

end Simulation

omit [Primitives] in
theorem exists_onLinux {α : Type} (m : Machine) (x : Linux.Service α) :
    ∃ r m', m.OnLinux x r m' := by
  obtain ⟨t, r, collection, hrun, hpath⟩ :=
    exists_run (fun s q => Linux.exists_serves s q) x.run m.collection
  exact ⟨r, _, collection, ⟨t, hrun, hpath⟩, rfl⟩

omit [Primitives] in
theorem exists_onKeychains {α : Type} (m : Machine) (x : Keychain.Security StoreError α) :
    ∃ r m', m.OnKeychains x r m' := by
  obtain ⟨t, r, keychains, hrun, hpath⟩ :=
    exists_run (fun s q => Keychain.exists_serves s q) x.run m.keychains
  exact ⟨r, _, keychains, ⟨t, hrun, hpath⟩, rfl⟩

/-- Every call of a store returns. -/
theorem exists_step (m : Machine) (request : Request) :
    ∃ r m', m.Step (⟨request, r⟩ : Event secretStores) m' := by
  match request with
  | .createLocal .linux .. => exact exists_onLinux m _
  | .loadLocal .linux .. => exact exists_onLinux m _
  | .removeLocal .linux .. => exact exists_onLinux m _
  | .createLocal (.macos _) .. => exact exists_onKeychains m _
  | .loadLocal (.macos _) .. => exact exists_onKeychains m _
  | .removeLocal (.macos _) .. => exact exists_onKeychains m _
  | .createLocal .memory .. => exact ⟨_, _, rfl⟩
  | .loadLocal .memory .. => exact ⟨_, _, rfl⟩
  | .removeLocal .memory .. => exact ⟨_, _, rfl⟩
  | .createRecovery .userPresence .. => exact exists_onKeychains m _
  | .loadRecovery .userPresence .. => exact exists_onKeychains m _
  | .removeRecovery .userPresence .. => exact exists_onKeychains m _
  | .createRecovery .memory .. => exact ⟨_, _, rfl⟩
  | .loadRecovery .memory .. => exact ⟨_, _, rfl⟩
  | .removeRecovery .memory .. => exact ⟨_, _, rfl⟩

theorem refines_empty : Refines .empty fun _ => none := by
  rintro ⟨kind, application, recipient⟩
  match kind with
  | .localSecrets .linux => exact fun _ => rfl
  | .localSecrets (.macos _) => exact fun _ => rfl
  | .localSecrets .memory => exact ⟨rfl, rfl⟩
  | .recoverySecrets .userPresence => exact fun _ => rfl
  | .recoverySecrets .memory => exact ⟨rfl, rfl⟩

/-- **Every secret store is one create-only map**: any calls of any stores, for any applications,
recipients and secrets, all return, and they return what the map answers, as long as the fingerprints
of the secrets behind user presence do not collide. -/
theorem stores_are_one_map (requests : List Request)
    (hdistinct : Set.InjOn digest (fingerprinted requests)) :
    (∃ t m, t.map Event.query = requests ∧ Path Machine.Step .empty t m) ∧
      ∀ t m, t.map Event.query = requests → Path Machine.Step .empty t m →
        ∃ map, Path Lookup.Step (fun _ => none) t map ∧ Refines m map := by
  have hanswers : ∀ (m : Machine) (request : secretStores.Query),
      ∃ r m', m.Step ⟨request, r⟩ m' := exists_step
  refine ⟨exists_path hanswers requests .empty, fun t m hrequests hpath => ?_⟩
  let related : Machine → Lookup → Prop := fun m map =>
    Refines m map ∧ Known (fingerprinted requests) map
  have hstart : related .empty fun _ => none := by
    refine ⟨refines_empty, ?_⟩
    intro application recipient stored h
    cases h
  have hsimulates : ∀ event ∈ t, ∀ m m' map, Machine.Step m event m' → related m map →
      ∃ map', Lookup.Step map event map' ∧ related m' map' := by
    rintro event hmem m m' map hstep ⟨hrefines, hknown⟩
    have hrequest : event.query ∈ requests := by
      rw [← hrequests]
      exact List.mem_map_of_mem hmem
    have hsecrets : ∀ secret, event.query.fingerprinted = some secret →
        secret ∈ fingerprinted requests := fun secret h => ⟨event.query, hrequest, h⟩
    obtain ⟨hreply, hnext⟩ := refines_step hrefines hknown hsecrets hdistinct hstep
    exact ⟨_, Prod.ext hreply rfl, hnext, known_step hknown hsecrets⟩
  obtain ⟨map, hmap, hrefines, -⟩ := hpath.simulates hsimulates hstart
  exact ⟨map, hmap, hrefines⟩

omit [Primitives] in
/-- Calls of three stores, one after the other. -/
theorem one_map_of_calls :
    let _ := Recording.primitives {}
    let application : ApplicationId := ⟨"store.example", by decide⟩
    let recipient : RecipientId := ⟨Bytes.zero 32⟩
    let secret : RecoverySecret := ⟨Bytes.ofNat 32 7⟩
    let requests : List Request :=
      [.createRecovery .userPresence application recipient secret,
        .removeRecovery .memory application recipient secret,
        .createLocal .linux application recipient ⟨Bytes.ofNat 32 7⟩,
        .loadRecovery .userPresence application recipient]
    (∃ t m, t.map Event.query = requests ∧ Path Machine.Step .empty t m) ∧
      ∀ t m, t.map Event.query = requests → Path Machine.Step .empty t m →
        ∃ map, Path Lookup.Step (fun _ => none) t map ∧ Refines m map := by
  intro _ application recipient secret requests
  refine stores_are_one_map requests ?_
  have hsole : ∀ a ∈ fingerprinted requests, a = secret := by
    rintro a ⟨request, hmem, ha⟩
    simp only [requests, List.mem_cons, List.not_mem_nil, or_false] at hmem
    rcases hmem with rfl | rfl | rfl | rfl
    · exact (Option.some.inj ha).symm
    · cases ha
    · cases ha
    · cases ha
  intro a ha b hb _
  rw [hsole a ha, hsole b hb]

end FidoKeyWrap.Platform
