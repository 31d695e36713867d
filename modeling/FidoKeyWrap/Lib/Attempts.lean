/-
# FidoKeyWrap.Lib.Attempts — what a bounded retry loop can do.

A run of `attempts` is a row of rejected draws and then one of three endings: a draw that is
accepted, a draw that fails, or the end of its fuel (`runs_attempts`). `Starts` follows a program that
starts with several such searches: it stops in one of them, or each has found its value.
-/
import FidoKeyWrap.Lib.Order

namespace Interact

variable {Sg : Signature} {ε α β : Type}

/-! ## One loop -/

/-- **`Rejected draw accept t k`** — the trace is `k` draws, and no value of them is accepted. -/
inductive Rejected (draw : Fallible Sg ε α) (accept : α → Bool) : Trace Sg → Nat → Prop
  | none : Rejected draw accept [] 0
  | more {t u : Trace Sg} {a : α} {k : Nat} : draw.run.Runs t (.ok a) → accept a = false →
      Rejected draw accept u k → Rejected draw accept (t ++ u) (k + 1)

/-- How a row of rejected draws ends, with the fuel `n`. -/
inductive Ends (draw : Fallible Sg ε α) (accept : α → Bool) (exhausted : ε) (n k : Nat) :
    Trace Sg → Except ε α → Prop
  | found {t : Trace Sg} {a : α} : k < n → draw.run.Runs t (.ok a) → accept a = true →
      Ends draw accept exhausted n k t (.ok a)
  | failed {t : Trace Sg} {e : ε} : k < n → draw.run.Runs t (.error e) →
      Ends draw accept exhausted n k t (.error e)
  | spent : k = n → Ends draw accept exhausted n k [] (.error exhausted)

section Attempts

variable {draw : Fallible Sg ε α} {accept : α → Bool} {exhausted : ε} {n k : Nat} {t : Trace Sg}
  {r : Except ε α}

/-- One rejected draw uses one unit of fuel. -/
theorem Ends.succ (h : Ends draw accept exhausted n k t r) :
    Ends draw accept exhausted (n + 1) (k + 1) t r := by
  cases h with
  | found hk hdraw haccept => exact .found (by omega) hdraw haccept
  | failed hk hdraw => exact .failed (by omega) hdraw
  | spent hk => exact .spent (by omega)

theorem Ends.pred (h : Ends draw accept exhausted (n + 1) (k + 1) t r) :
    Ends draw accept exhausted n k t r := by
  cases h with
  | found hk hdraw haccept => exact .found (by omega) hdraw haccept
  | failed hk hdraw => exact .failed (by omega) hdraw
  | spent hk => exact .spent (by omega)

/-- **The runs of a retry loop**: rejected draws, then an ending. -/
theorem runs_attempts : (attempts draw accept exhausted n).run.Runs t r ↔
    ∃ u v k, t = u ++ v ∧ Rejected draw accept u k ∧ Ends draw accept exhausted n k v r := by
  induction n generalizing t with
  | zero =>
      rw [attempts, Fallible.runs_throw]
      constructor
      · rintro ⟨rfl, rfl⟩
        exact ⟨[], [], 0, rfl, .none, .spent rfl⟩
      · rintro ⟨u, v, k, rfl, hrejected, hends⟩
        cases hends with
        | found hk => omega
        | failed hk => omega
        | spent hk =>
            subst hk
            cases hrejected
            exact ⟨rfl, rfl⟩
  | succ n ih =>
      rw [attempts, Fallible.runs_bind]
      constructor
      · rintro (⟨t₁, a, t₂, rfl, hdraw, htail⟩ | ⟨e, hdraw, rfl⟩)
        · by_cases haccept : accept a = true
          · rw [if_pos haccept] at htail
            obtain ⟨rfl, rfl⟩ := htail
            exact ⟨[], t₁, 0, List.append_nil t₁, .none, .found (by omega) hdraw haccept⟩
          · rw [if_neg haccept] at htail
            obtain ⟨u, v, k, rfl, hrejected, hends⟩ := ih.mp htail
            refine ⟨t₁ ++ u, v, k + 1, (List.append_assoc t₁ u v).symm, ?_, hends.succ⟩
            exact .more hdraw (Bool.eq_false_iff.mpr haccept) hrejected
        · exact ⟨[], t, 0, rfl, .none, .failed (by omega) hdraw⟩
      · rintro ⟨u, v, k, rfl, hrejected, hends⟩
        cases hrejected with
        | none =>
            cases hends with
            | found hk hdraw haccept =>
                refine .inl ⟨v, _, [], (List.append_nil v).symm, hdraw, ?_⟩
                rw [if_pos haccept]
                exact ⟨rfl, rfl⟩
            | failed hk hdraw => exact .inr ⟨_, hdraw, rfl⟩
            | spent hk => omega
        | @more w u a k hdraw haccept hrejected =>
            refine .inl ⟨w, a, u ++ v, List.append_assoc w u v, hdraw, ?_⟩
            rw [if_neg (by simp [haccept])]
            exact ih.mpr ⟨u, v, k, rfl, hrejected, hends.pred⟩

end Attempts

/-! ## Several searches -/

section Searches

variable {ι : Type} {found : ι → Trace Sg → Prop} {fails : ι → Trace Sg → ε → Prop}
  {quiet : Event Sg → Prop}

/-- The searches leave their traces one after the other, and each finds its value. -/
inductive AllFound (found : ι → Trace Sg → Prop) : List ι → Trace Sg → Prop
  | nil : AllFound found [] []
  | cons {i : ι} {is : List ι} {t u : Trace Sg} : found i t → AllFound found is u →
      AllFound found (i :: is) (t ++ u)

/-- One search fails, after those before it have found their values. -/
inductive OneFails (found : ι → Trace Sg → Prop) (fails : ι → Trace Sg → ε → Prop) :
    List ι → Trace Sg → ε → Prop
  | here {i : ι} {is : List ι} {t : Trace Sg} {e : ε} : fails i t e →
      OneFails found fails (i :: is) t e
  | later {i : ι} {is : List ι} {t u : Trace Sg} {e : ε} : found i t →
      OneFails found fails is u e → OneFails found fails (i :: is) (t ++ u) e

/-- **`Starts found fails quiet is x`** — a run of `x` is the searches `is`, up to the first that
fails, and where all of them find their values nothing but quiet events after them. -/
def Starts (found : ι → Trace Sg → Prop) (fails : ι → Trace Sg → ε → Prop)
    (quiet : Event Sg → Prop) (is : List ι) (x : Fallible Sg ε α) : Prop :=
  ∀ t r, x.run.Runs t r → (∃ e, OneFails found fails is t e ∧ r = .error e) ∨
    ∃ u v, t = u ++ v ∧ AllFound found is u ∧ ∀ event ∈ v, quiet event

theorem starts_nil {x : Fallible Sg ε α} (h : Program.Every quiet x.run) :
    Starts found fails quiet [] x :=
  fun t r hrun => .inr ⟨[], t, rfl, .nil, h t r hrun⟩

theorem starts_bind {i : ι} {is : List ι} {x : Fallible Sg ε α} {f : α → Fallible Sg ε β}
    (hfound : ∀ t a, x.run.Runs t (.ok a) → found i t)
    (hfails : ∀ t e, x.run.Runs t (.error e) → fails i t e)
    (hf : ∀ a, Starts found fails quiet is (f a)) :
    Starts found fails quiet (i :: is) (x >>= f) := by
  intro t r hrun
  rcases Fallible.runs_bind.mp hrun with ⟨t₁, a, t₂, rfl, hhead, htail⟩ | ⟨e, hhead, rfl⟩
  · have hi : found i t₁ := hfound t₁ a hhead
    rcases hf a t₂ r htail with ⟨e, hone, rfl⟩ | ⟨u, v, rfl, hall, hquiet⟩
    · exact .inl ⟨e, .later hi hone, rfl⟩
    · exact .inr ⟨t₁ ++ u, v, (List.append_assoc t₁ u v).symm, .cons hi hall, hquiet⟩
  · exact .inl ⟨e, .here (hfails t e hhead), rfl⟩

end Searches

end Interact
