/-
# FidoKeyWrap.Platform.SecretMap — the create-only map that every store implements.

What a store is for, apart from any service: under a key there is a secret or there is none. Creating
never replaces a secret, and creating the same one again is fine; removing says whether there was one;
a removal of an expected secret leaves another one alone. These are operations on one `Cell`.

`Stores holds p m cell` reads a cell off an inventory: the items that match are none, or one that
holds the secret. `Acts` says of a call what it returns, what the cell becomes, and that the items of
other keys stay.
-/
import FidoKeyWrap.Platform.Store

namespace FidoKeyWrap.Platform

open ByteData

/-! ## Cells -/

/-- What is under a key. -/
abbrev Cell := Option (Bytes 32)

namespace Cell

def create (secret : Bytes 32) : Cell → Result Unit × Cell
  | none => (.ok (), some secret)
  | some stored => (if stored = secret then .ok () else .error .alreadyExists, some stored)

def load : Cell → Result (Bytes 32) × Cell
  | none => (.error .missing, none)
  | some stored => (.ok stored, some stored)

def remove : Cell → Result Removal × Cell
  | none => (.ok .absent, none)
  | some _ => (.ok .removed, none)

def removeExpected (expected : Bytes 32) : Cell → Result Removal × Cell
  | none => (.ok .absent, none)
  | some stored =>
    if stored = expected then (.ok .removed, none) else (.error .alreadyExists, some stored)

end Cell

/-! ## Cells of an inventory -/

variable {E : Type}

/-- **`Stores holds p m cell`** — what the matching items of the inventory are. -/
def Stores (holds : Bytes 32 → E → Prop) (p : E → Bool) (m : Inventory E) : Cell → Prop
  | none => (m.filter p).Vacant
  | some secret => ∃ i e, (m.filter p).Sole i e ∧ holds secret e

/-- The cell depends on the matching items only. -/
theorem Stores.of_filter_eq {holds : Bytes 32 → E → Prop} {p : E → Bool} {m m' : Inventory E}
    {cell : Cell} (h : Stores holds p m cell) (hfilter : m'.filter p = m.filter p) :
    Stores holds p m' cell := by
  cases cell with
  | none =>
      rw [Stores, hfilter]
      exact h
  | some secret =>
      rw [Stores, hfilter]
      exact h

/-- **`Acts holds p m out r m'`** — a call returned what it should, the cell is what it should be,
and other items are as they were. -/
structure Acts {α : Type} (holds : Bytes 32 → E → Prop) (p : E → Bool) (m : Inventory E)
    (out : Result α × Cell) (r : Result α) (m' : Inventory E) : Prop where
  result : r = out.1
  cell : Stores holds p m' out.2
  apart : ∀ q, Inventory.Apart p q → m'.filter q = m.filter q

section Acts

variable {α : Type} {holds : Bytes 32 → E → Prop} {p : E → Bool} {m : Inventory E} {cell : Cell}
  {r : Result α} {i : Nat} {e : E} {secret : Bytes 32}

/-- A call that changes no item. -/
theorem Acts.unchanged (h : Stores holds p m cell) : Acts holds p m (r, cell) r m :=
  ⟨rfl, h, fun _ _ => rfl⟩

/-- A new item under a free key. -/
theorem Acts.inserted (hvacant : Stores holds p m none) (hfree : m i = none) (hp : p e = true)
    (he : holds secret e) : Acts holds p m (r, some secret) r (m.insert i e) where
  result := rfl
  cell := by
    refine ⟨i, e, ?_, he⟩
    rw [Inventory.filter_insert_of_pos hp]
    exact Inventory.Vacant.sole_insert hvacant
  apart _ hpq := Inventory.filter_insert_of_apart hpq hfree hp

/-- The sole item is gone. -/
theorem Acts.erased (hsole : (m.filter p).Sole i e) :
    Acts holds p m (r, none) r (m.erase i) where
  result := rfl
  cell := by
    change ((m.erase i).filter p).Vacant
    rw [Inventory.filter_erase]
    exact hsole.vacant_erase
  apart _ hpq := by
    obtain ⟨hi, hp⟩ := Inventory.filter_eq_some.mp hsole.holds
    exact Inventory.filter_erase_of_apart hpq hi hp

end Acts

end FidoKeyWrap.Platform
