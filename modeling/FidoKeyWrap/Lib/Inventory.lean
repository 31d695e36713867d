/-
# FidoKeyWrap.Lib.Inventory — the entries a service holds, each under the number of its item.

A service that stores entries names each by an item of its own choice, and a client finds entries by
what they contain. `Inventory E` is the finite map from items to entries, `m.filter p` its part that
matches a search, and `Lists m xs` says that a reply names every item of that part, once and in any
order. A client that keeps one entry for each key meets three cases: the part is `Vacant`, it has a
`Sole` item, or the reply lists more.
-/
import Mathlib.Data.List.Nodup
import Mathlib.Tactic

/-- **`Inventory E`** — finitely many items, each with its entry. -/
@[ext] structure Inventory (E : Type) where
  entry : Nat → Option E
  finite : ∃ bound, ∀ i, bound ≤ i → entry i = none

namespace Inventory

variable {E : Type} {m : Inventory E} {p : E → Bool} {i j : Nat} {e e' : E} {xs : List Nat}

instance : CoeFun (Inventory E) fun _ => Nat → Option E := ⟨entry⟩

def empty : Inventory E := ⟨fun _ => none, 0, fun _ _ => rfl⟩

/-- The entry of an item changes. -/
def set (m : Inventory E) (i : Nat) (e : Option E) : Inventory E where
  entry := Function.update m.entry i e
  finite := by
    obtain ⟨bound, hbound⟩ := m.finite
    refine ⟨max bound (i + 1), fun j hj => ?_⟩
    have hji : j ≠ i := by omega
    rw [Function.update_of_ne hji]
    exact hbound j (by omega)

def insert (m : Inventory E) (i : Nat) (e : E) : Inventory E := m.set i (some e)

def erase (m : Inventory E) (i : Nat) : Inventory E := m.set i none

/-- The items whose entries match. -/
def filter (m : Inventory E) (p : E → Bool) : Inventory E where
  entry i := (m i).filter p
  finite := by
    obtain ⟨bound, hbound⟩ := m.finite
    exact ⟨bound, fun i hi => by rw [hbound i hi]; rfl⟩

/-- The matching items are gone. -/
def eraseAll (m : Inventory E) (p : E → Bool) : Inventory E := m.filter fun e => !p e

/-! ## What an item holds -/

@[simp] theorem empty_apply : (empty : Inventory E) i = none := rfl

@[simp] theorem insert_self : m.insert i e i = some e := by
  simp [insert, set]

theorem insert_of_ne (h : j ≠ i) : m.insert i e j = m j := by
  simp [insert, set, h]

@[simp] theorem erase_self : m.erase i i = none := by
  simp [erase, set]

theorem erase_of_ne (h : j ≠ i) : m.erase i j = m j := by
  simp [erase, set, h]

theorem filter_apply : m.filter p i = (m i).filter p := rfl

theorem filter_eq_some : m.filter p i = some e ↔ m i = some e ∧ p e = true := by
  rw [filter_apply, Option.filter_eq_some_iff]

theorem filter_eq_none : m.filter p i = none ↔ ∀ e, m i = some e → p e = false := by
  simp [filter_apply, Option.filter_eq_none_iff]

/-- Two inventories with the same entries are one. -/
theorem ext_apply {m' : Inventory E} (h : ∀ i, m i = m' i) : m = m' :=
  Inventory.ext (funext h)

/-- Taking a new item back. -/
theorem erase_insert (h : m i = none) : (m.insert i e).erase i = m := by
  refine ext_apply fun j => ?_
  by_cases hji : j = i
  · subst hji
    rw [erase_self, h]
  · rw [erase_of_ne hji, insert_of_ne hji]

/-- A new item leaves the others as they were. -/
theorem insert_kept (hfree : m i = none) (h : m j = some e') : m.insert i e j = some e' := by
  have hji : j ≠ i := by
    rintro rfl
    rw [hfree] at h
    cases h
  rwa [insert_of_ne hji]

theorem filter_insert_of_pos (h : p e = true) :
    (m.insert i e).filter p = (m.filter p).insert i e := by
  refine ext_apply fun j => ?_
  by_cases hji : j = i
  · subst hji
    simp [filter_apply, h]
  · simp [filter_apply, insert_of_ne hji]

theorem filter_insert_of_neg (hfree : m i = none) (h : p e = false) :
    (m.insert i e).filter p = m.filter p := by
  refine ext_apply fun j => ?_
  by_cases hji : j = i
  · subst hji
    simp [filter_apply, hfree, h]
  · simp [filter_apply, insert_of_ne hji]

theorem filter_erase : (m.erase i).filter p = (m.filter p).erase i := by
  refine ext_apply fun j => ?_
  by_cases hji : j = i
  · subst hji
    simp [filter_apply]
  · simp [filter_apply, erase_of_ne hji]

/-- Erasing what no entry matches. -/
theorem eraseAll_eq_self (h : ∀ i e, m i = some e → p e = false) : m.eraseAll p = m := by
  refine ext_apply fun i => ?_
  rw [eraseAll, filter_apply]
  cases hi : m i with
  | none => rfl
  | some e => simp [h i e hi]

/-- Erasing only a new item. -/
theorem eraseAll_insert (hfree : m i = none) (he : p e = true)
    (h : ∀ j e, m j = some e → p e = false) : (m.insert i e).eraseAll p = m := by
  rw [eraseAll, filter_insert_of_neg hfree (by simp [he])]
  exact eraseAll_eq_self h

/-- What does not match stays. -/
theorem eraseAll_kept (hi : m i = some e) (h : p e = false) : m.eraseAll p i = some e :=
  filter_eq_some.mpr ⟨hi, by simp [h]⟩

/-- **`Apart p q`** — no entry matches both. -/
def Apart (p q : E → Bool) : Prop := ∀ e, p e = true → q e = false

theorem filter_insert_of_apart {q : E → Bool} (hpq : Apart p q) (hfree : m i = none)
    (he : p e = true) : (m.insert i e).filter q = m.filter q :=
  filter_insert_of_neg hfree (hpq e he)

theorem filter_erase_of_apart {q : E → Bool} (hpq : Apart p q) (hi : m i = some e)
    (he : p e = true) : (m.erase i).filter q = m.filter q := by
  refine ext_apply fun j => ?_
  rw [filter_erase]
  by_cases hji : j = i
  · subst hji
    rw [erase_self, eq_comm, filter_eq_none]
    intro f hf
    rw [hi] at hf
    cases hf
    exact hpq e he
  · rw [erase_of_ne hji]

/-! ## Empty, one, or more -/

/-- **`Vacant m`** — no item. -/
def Vacant (m : Inventory E) : Prop := ∀ i, m i = none

/-- **`Sole m i e`** — the item is the only one, and holds the entry. -/
structure Sole (m : Inventory E) (i : Nat) (e : E) : Prop where
  holds : m i = some e
  only : ∀ j, m j ≠ none → j = i

/-- **`Lists m xs`** — the list names every item once. -/
structure Lists (m : Inventory E) (xs : List Nat) : Prop where
  nodup : xs.Nodup
  mem : ∀ i, i ∈ xs ↔ m i ≠ none

theorem Vacant.not_sole (h : Vacant m) : ¬ Sole m i e := by
  intro hsole
  have hholds := hsole.holds
  rw [h i] at hholds
  cases hholds

/-- The sole item is one item with one entry. -/
theorem Sole.unique (h : Sole m i e) (h' : Sole m j e') : j = i ∧ e' = e := by
  have hholds := h'.holds
  obtain rfl := h.only j (by rw [hholds]; simp)
  rw [h.holds] at hholds
  exact ⟨rfl, (Option.some.inj hholds).symm⟩

theorem Vacant.sole_insert (h : Vacant m) : Sole (m.insert i e) i e where
  holds := insert_self
  only j hj := by
    by_contra hji
    rw [insert_of_ne hji] at hj
    exact hj (h j)

theorem Sole.vacant_erase (h : Sole m i e) : Vacant (m.erase i) := by
  intro j
  by_cases hji : j = i
  · subst hji
    exact erase_self
  · rw [erase_of_ne hji]
    by_contra hj
    exact hji (h.only j hj)

/-- Erasing an item that is not the sole one. -/
theorem Sole.erase_of_ne (h : Sole m i e) (hji : i ≠ j) : Sole (m.erase j) i e where
  holds := by rw [Inventory.erase_of_ne hji]; exact h.holds
  only k hk := by
    by_cases hkj : k = j
    · subst hkj
      rw [erase_self] at hk
      exact absurd rfl hk
    · rw [Inventory.erase_of_ne hkj] at hk
      exact h.only k hk

/-- Erasing what matches is erasing the sole item that matches. -/
theorem Sole.eraseAll_eq (h : Sole (m.filter p) i e) : m.eraseAll p = m.erase i := by
  obtain ⟨hi, hp⟩ := filter_eq_some.mp h.holds
  refine ext_apply fun j => ?_
  by_cases hji : j = i
  · subst hji
    rw [erase_self, eraseAll, filter_eq_none]
    intro f hf
    rw [hi] at hf
    cases hf
    simp [hp]
  · rw [Inventory.erase_of_ne hji]
    cases hj : m j with
    | none => simp [eraseAll, filter_apply, hj]
    | some f =>
        refine eraseAll_kept hj (Bool.eq_false_iff.mpr fun hf => hji (h.only j ?_))
        rw [filter_eq_some.mpr ⟨hj, hf⟩]
        simp

theorem exists_lists (m : Inventory E) : ∃ xs, Lists m xs := by
  obtain ⟨bound, hbound⟩ := m.finite
  refine ⟨(List.range bound).filter fun i => (m i).isSome, List.nodup_range.filter _, fun i => ?_⟩
  rw [List.mem_filter, List.mem_range, Option.isSome_iff_ne_none]
  refine and_iff_right_of_imp fun hi => ?_
  by_contra hlt
  exact hi (hbound i (by omega))

/-- There is always a number for a new item. -/
theorem exists_free (m : Inventory E) : ∃ i, m i = none := by
  obtain ⟨bound, hbound⟩ := m.finite
  exact ⟨bound, hbound bound (Nat.le_refl bound)⟩

@[simp] theorem lists_nil_iff : Lists m [] ↔ Vacant m := by
  constructor
  · intro h i
    by_contra hi
    cases (h.mem i).mpr hi
  · intro h
    refine ⟨List.nodup_nil, fun i => ?_⟩
    simp [h i]

theorem lists_singleton_iff : Lists m [i] ↔ ∃ e, Sole m i e := by
  constructor
  · intro h
    obtain ⟨e, he⟩ := Option.ne_none_iff_exists'.mp ((h.mem i).mp List.mem_cons_self)
    exact ⟨e, he, fun j hj => List.mem_singleton.mp ((h.mem j).mpr hj)⟩
  · rintro ⟨e, h⟩
    refine ⟨List.nodup_singleton i, fun j => ⟨fun hj => ?_, fun hj => ?_⟩⟩
    · rw [List.mem_singleton.mp hj, h.holds]
      simp
    · rw [h.only j hj]
      exact List.mem_cons_self

theorem Vacant.lists (h : Vacant m) (hxs : Lists m xs) : xs = [] := by
  refine List.eq_nil_iff_forall_not_mem.mpr fun i hi => ?_
  exact (hxs.mem i).mp hi (h i)

theorem Sole.lists (h : Sole m i e) (hxs : Lists m xs) : xs = [i] := by
  refine List.perm_singleton.mp ?_
  refine (List.perm_ext_iff_of_nodup hxs.nodup (List.nodup_singleton i)).mpr fun j => ?_
  rw [hxs.mem, List.mem_singleton]
  constructor
  · exact h.only j
  · rintro rfl
    rw [h.holds]
    simp

/-- A reply with one item and a reply about the same items. -/
theorem Lists.length_eq {ys : List Nat} (hxs : Lists m xs) (hys : Lists m ys) :
    xs.length = ys.length := by
  refine List.Perm.length_eq ?_
  refine (List.perm_ext_iff_of_nodup hxs.nodup hys.nodup).mpr fun i => ?_
  rw [hxs.mem, hys.mem]

/-- Where there is at most one item, a reply lists at most one. -/
theorem Lists.length_le_one (h : Lists m xs) (hone : ∀ i j, m i ≠ none → m j ≠ none → i = j) :
    xs.length ≤ 1 := by
  match xs, h with
  | [], _ => exact Nat.zero_le 1
  | [_], _ => exact Nat.le_refl 1
  | i :: j :: _, h =>
    have hij := hone i j ((h.mem i).mp (by simp)) ((h.mem j).mp (by simp))
    have hnodup := h.nodup
    rw [hij] at hnodup
    simp at hnodup

end Inventory
