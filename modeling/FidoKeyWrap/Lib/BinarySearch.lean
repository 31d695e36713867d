/-
# FidoKeyWrap.Lib.BinarySearch — the branchless binary search by key.

`binarySearchByKey` is the search of the standard slice type: it narrows a window `[base, base +
size)` without an early exit, then compares once. On any list at all an index it returns holds the
key (`binarySearchByKey_sound`), which is what a caller with hostile input may rely on. On a list
sorted by the key a present key is found (`binarySearchByKey_complete`); the loop invariant is that
the window still contains an occurrence.
-/
import Mathlib.Tactic

namespace Search

variable {α κ : Type} [LinearOrder κ]

/-- The narrowing loop. The window halves, so `size` rounds are enough fuel. -/
def narrow (key : α → κ) (wanted : κ) (xs : List α) : Nat → Nat → Nat → Nat
  | 0, _, base => base
  | fuel + 1, size, base =>
    if size ≤ 1 then base
    else
      let half := size / 2
      let mid := base + half
      let greater := xs[mid]?.any fun x => wanted < key x
      narrow key wanted xs fuel (size - half) (if greater then base else mid)

/-- The index of an element with the wanted key, or the place to insert one. -/
def binarySearchByKey (xs : List α) (wanted : κ) (key : α → κ) : Except Nat (Fin xs.length) :=
  let base := narrow key wanted xs xs.length xs.length 0
  if h : base < xs.length then
    if key (xs.get ⟨base, h⟩) = wanted then .ok ⟨base, h⟩
    else .error (base + if key (xs.get ⟨base, h⟩) < wanted then 1 else 0)
  else .error base

/-- A returned index holds the key, sorted or not. -/
theorem binarySearchByKey_sound {xs : List α} {wanted : κ} {key : α → κ} {i : Fin xs.length}
    (h : binarySearchByKey xs wanted key = .ok i) : key (xs.get i) = wanted := by
  simp only [binarySearchByKey] at h
  split_ifs at h with hbase hkey
  cases h
  exact hkey

/-! ## Completeness on sorted lists -/

/-- The loop invariant: the window lies in the list and contains an occurrence of the key. -/
def Window (key : α → κ) (wanted : κ) (xs : List α) (size base : Nat) : Prop :=
  base + size ≤ xs.length ∧
    ∃ j, ∃ h : j < xs.length, base ≤ j ∧ j < base + size ∧ key (xs.get ⟨j, h⟩) = wanted

/-- One round keeps an occurrence in the window. -/
theorem Window.step {key : α → κ} {wanted : κ} {xs : List α} {size base : Nat}
    (hsorted : xs.Pairwise fun x y => key x ≤ key y) (hw : Window key wanted xs size base)
    (hsize : 1 < size) :
    Window key wanted xs (size - size / 2)
      (if xs[base + size / 2]?.any (fun x => wanted < key x) then base else base + size / 2) := by
  obtain ⟨hbound, j, hj, hlo, hhi, hkey⟩ := hw
  have hmid : base + size / 2 < xs.length := by omega
  have hmono : ∀ a b (ha : a < xs.length) (hb : b < xs.length), a < b →
      key (xs.get ⟨a, ha⟩) ≤ key (xs.get ⟨b, hb⟩) := fun a b ha hb hab =>
    List.pairwise_iff_get.mp hsorted ⟨a, ha⟩ ⟨b, hb⟩ hab
  rw [List.getElem?_eq_getElem hmid]
  simp only [Option.any_some, decide_eq_true_eq]
  split_ifs with hgreater
  · -- the middle key is too large, so the occurrence lies before it
    refine ⟨by omega, j, hj, hlo, ?_, hkey⟩
    by_contra hcon
    have hle : key (xs.get ⟨base + size / 2, hmid⟩) ≤ key (xs.get ⟨j, hj⟩) := by
      rcases Nat.lt_or_eq_of_le (by omega : base + size / 2 ≤ j) with hlt | heq
      · exact hmono _ _ hmid hj hlt
      · simp [heq]
    rw [hkey] at hle
    exact absurd hgreater (not_lt.mpr hle)
  · rcases Nat.lt_or_ge j (base + size / 2) with hlt | hge
    · -- an occurrence before the middle forces the middle itself to be one
      refine ⟨by omega, base + size / 2, hmid, le_refl _, by omega, ?_⟩
      have hle := hmono j _ hj hmid hlt
      rw [hkey] at hle
      exact le_antisymm (not_lt.mp hgreater) hle
    · exact ⟨by omega, j, hj, hge, by omega, hkey⟩

/-- With enough fuel the loop ends on an occurrence. -/
theorem narrow_window {key : α → κ} {wanted : κ} {xs : List α}
    (hsorted : xs.Pairwise fun x y => key x ≤ key y) {fuel size base : Nat}
    (hfuel : size ≤ fuel) (hw : Window key wanted xs size base) :
    ∃ h : narrow key wanted xs fuel size base < xs.length,
      key (xs.get ⟨narrow key wanted xs fuel size base, h⟩) = wanted := by
  induction fuel generalizing size base with
  | zero =>
      obtain ⟨-, j, hj, hlo, hhi, -⟩ := hw
      omega
  | succ fuel ih =>
      by_cases hsize : size ≤ 1
      · obtain ⟨-, j, hj, hlo, hhi, hkey⟩ := hw
        have hbase : j = base := by omega
        subst hbase
        simp only [narrow, if_pos hsize]
        exact ⟨hj, hkey⟩
      · simp only [narrow, if_neg hsize]
        exact ih (by omega) (hw.step hsorted (by omega))

/-- On a sorted list a present key is found. -/
theorem binarySearchByKey_complete {xs : List α} {wanted : κ} {key : α → κ}
    (hsorted : xs.Pairwise fun x y => key x ≤ key y) {x : α} (hx : x ∈ xs)
    (hkey : key x = wanted) : ∃ i, binarySearchByKey xs wanted key = .ok i := by
  obtain ⟨j, hj⟩ := List.get_of_mem hx
  have hw : Window key wanted xs xs.length 0 :=
    ⟨by omega, j, j.isLt, by omega, by omega, by rw [hj, hkey]⟩
  obtain ⟨hlt, hfound⟩ := narrow_window hsorted (le_refl _) hw
  exact ⟨⟨_, hlt⟩, by simp only [binarySearchByKey, dif_pos hlt, if_pos hfound]⟩

/-- On a strictly sorted list the search returns the one element with the key. -/
theorem binarySearchByKey_eq {xs : List α} {wanted : κ} {key : α → κ}
    (hsorted : xs.Pairwise fun x y => key x < key y) {x : α} (hx : x ∈ xs)
    (hkey : key x = wanted) : ∃ i, binarySearchByKey xs wanted key = .ok i ∧ xs.get i = x := by
  obtain ⟨i, hi⟩ := binarySearchByKey_complete (hsorted.imp fun h => le_of_lt h) hx hkey
  refine ⟨i, hi, ?_⟩
  have hikey := binarySearchByKey_sound hi
  obtain ⟨j, rfl⟩ := List.get_of_mem hx
  rcases lt_trichotomy i j with hlt | rfl | hgt
  · have := List.pairwise_iff_get.mp hsorted i j hlt
    rw [hikey, hkey] at this
    exact absurd this (lt_irrefl _)
  · rfl
  · have := List.pairwise_iff_get.mp hsorted j i hgt
    rw [hikey, hkey] at this
    exact absurd this (lt_irrefl _)

end Search
