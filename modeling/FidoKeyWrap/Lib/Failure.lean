/-
# FidoKeyWrap.Lib.Failure — which errors a program can end in.

`Errors x E` bounds the errors of a pure computation, `Fails good x E` those of a program while its
replies are good. `FailsAfter loud x E` bounds them once a loud event has happened: up to there the
program may fail as it likes. All follow the statements of a program, so a bound on a long program
is one on each of its calls.
-/
import FidoKeyWrap.Lib.Sum
import FidoKeyWrap.Lib.Triple

namespace Interact

variable {Sg : Signature} {ε α β : Type} {E : ε → Prop}

/-! ## Pure computations -/

/-- **`Errors x E`** — an error of `x` is in `E`. -/
def Errors (x : Except ε α) (E : ε → Prop) : Prop := ∀ e, x = .error e → E e

theorem errors_ok {x : Except ε α} (h : ∃ a, x = .ok a) : Errors x E := by
  obtain ⟨a, rfl⟩ := h
  intro e he
  cases he

theorem errors_throw {e : ε} (h : E e) : Errors (throw e : Except ε α) E := by
  intro e' he
  cases he
  exact h

theorem errors_require {p : Prop} [Decidable p] {e : ε} (h : E e) : Errors (require p e) E := by
  intro e' he
  obtain ⟨-, rfl⟩ := require_eq_error.mp he
  exact h

theorem errors_okOr {x : Option α} {e : ε} (h : E e) : Errors (okOr x e) E := by
  intro e' he
  obtain ⟨-, rfl⟩ := okOr_eq_error.mp he
  exact h

theorem errors_mapError {δ : Type} {f : δ → ε} {x : Except δ α} (h : ∀ e, E (f e)) :
    Errors (x.mapError f) E := by
  intro e he
  obtain ⟨e', -, rfl⟩ := except_mapError_eq_error.mp he
  exact h e'

theorem errors_bind {x : Except ε α} {f : α → Except ε β} (hx : Errors x E)
    (hf : ∀ a, x = .ok a → Errors (f a) E) : Errors (x >>= f) E := by
  cases x with
  | error e => exact errors_throw (hx e rfl)
  | ok a => exact hf a rfl

namespace Fallible

/-! ## Programs -/

section Fails

variable {good : Event Sg → Prop}

/-- **`Fails good x E`** — while its replies are good, an error of `x` is in `E`. -/
def Fails (good : Event Sg → Prop) (x : Fallible Sg ε α) (E : ε → Prop) : Prop :=
  ∀ t e, x.run.Runs t (.error e) → (∀ event ∈ t, good event) → E e

theorem fails_except {x : Except ε α} (h : Errors x E) :
    Fails good (liftM x : Fallible Sg ε α) E := by
  intro t e hrun _
  obtain ⟨-, he⟩ := runs_except.mp hrun
  exact h e he.symm

theorem fails_pure (a : α) : Fails good (pure a : Fallible Sg ε α) E :=
  fails_except (x := .ok a) (errors_ok ⟨a, rfl⟩)

theorem fails_throw {e : ε} (h : E e) : Fails good (throw e : Fallible Sg ε α) E := by
  intro t e' hrun _
  obtain ⟨-, he⟩ := runs_throw.mp hrun
  cases he
  exact h

/-- A sequence fails where a part of it fails. -/
theorem fails_bind {x : Fallible Sg ε α} {f : α → Fallible Sg ε β} (hx : Fails good x E)
    (hf : ∀ a, Fails good (f a) E) : Fails good (x >>= f) E := by
  intro t e hrun hgood
  rcases runs_bind.mp hrun with ⟨t₁, a, t₂, rfl, -, htail⟩ | ⟨e', hhead, he⟩
  · exact hf a t₂ e htail fun event hmem => hgood event (List.mem_append_right _ hmem)
  · cases he
    exact hx t e hhead hgood

/-- After a check, the check has passed. -/
theorem fails_except_bind {x : Except ε α} {f : α → Fallible Sg ε β}
    (hx : Errors x E) (hf : ∀ a, x = .ok a → Fails good (f a) E) :
    Fails good ((liftM x : Fallible Sg ε α) >>= f) E := by
  cases x with
  | error e => exact fails_throw (hx e rfl)
  | ok a => exact hf a rfl

/-- After a query, the reply was good. -/
theorem fails_ask_bind {q : Sg.Query} {f : Sg.Reply q → Fallible Sg ε β}
    (hf : ∀ reply, good ⟨q, reply⟩ → Fails good (f reply) E) :
    Fails good ((liftM (Program.ask q) : Fallible Sg ε (Sg.Reply q)) >>= f) E := by
  intro t e hrun hgood
  rcases runs_bind.mp hrun with ⟨t₁, reply, t₂, rfl, hask, htail⟩ | ⟨e', hask, -⟩
  · obtain ⟨reply', hreply, hsame⟩ := runs_lift.mp hask
    cases hsame
    obtain rfl := Program.runs_ask.mp hreply
    have hreplied : good ⟨q, reply⟩ := hgood _ (by simp)
    exact hf reply hreplied t₂ e htail fun event hmem => hgood event (by simp [hmem])
  · obtain ⟨reply, -, hsame⟩ := runs_lift.mp hask
    cases hsame

theorem Fails.mono {F : ε → Prop} {x : Fallible Sg ε α} (h : Fails good x E)
    (hEF : ∀ e, E e → F e) : Fails good x F :=
  fun t e hrun hgood => hEF e (h t e hrun hgood)

end Fails

theorem fails_mapError {δ : Type} {good : Event Sg → Prop} {D : δ → Prop} {f : ε → δ}
    {x : Fallible Sg ε α} (h : ∀ e, D (f e)) : Fails good (mapError f x) D := by
  intro t e hrun _
  obtain ⟨s, -, hs⟩ := runs_mapError.mp hrun
  obtain ⟨e', -, rfl⟩ := except_mapError_eq_error.mp hs.symm
  exact h e'

/-- A mapped error comes from an error. -/
theorem Fails.mapError {δ : Type} {good : Event Sg → Prop} {D : δ → Prop} {f : ε → δ}
    {x : Fallible Sg ε α} (h : Fails good x fun e => D (f e)) :
    Fails good (Fallible.mapError f x) D := by
  intro t e hrun hgood
  obtain ⟨s, hs, hmapped⟩ := runs_mapError.mp hrun
  obtain ⟨e', rfl, rfl⟩ := except_mapError_eq_error.mp hmapped.symm
  exact h t e' hs hgood

/-- What goes on after a failure knows the error. -/
theorem fails_outcome_bind {good : Event Sg → Prop} {x : Fallible Sg ε α}
    {f : Except ε α → Fallible Sg ε β} (hx : Fails good x E)
    (hf : ∀ r, Errors r E → Fails good (f r) E) : Fails good (outcome x >>= f) E := by
  intro t e hrun hgood
  rcases runs_bind.mp hrun with ⟨t₁, r, t₂, rfl, hhead, htail⟩ | ⟨e', hhead, -⟩
  · obtain ⟨r', hr', hsame⟩ := runs_outcome.mp hhead
    cases hsame
    have herrors : Errors r E := by
      rintro e' rfl
      exact hx t₁ e' hr' fun event hmem => hgood event (List.mem_append_left _ hmem)
    exact hf r herrors t₂ e htail fun event hmem => hgood event (List.mem_append_right _ hmem)
  · obtain ⟨r', -, hsame⟩ := runs_outcome.mp hhead
    cases hsame

/-! ## Side by side -/

section Sides

variable {A B : Signature} {δ : Type} {good : Event (A.sum B) → Prop} {D : δ → Prop}

/-- A mapped error is in the image. -/
theorem fails_left {f : ε → δ} {x : Fallible A ε α} (h : ∀ e, D (f e)) :
    Fails good (left f x : Fallible (A.sum B) δ α) D := by
  intro t e hrun _
  obtain ⟨u, s, -, -, hs⟩ := runs_left.mp hrun
  obtain ⟨e', -, rfl⟩ := except_mapError_eq_error.mp hs.symm
  exact h e'

theorem fails_right {f : ε → δ} {x : Fallible B ε α} (h : ∀ e, D (f e)) :
    Fails good (right f x : Fallible (A.sum B) δ α) D := by
  intro t e hrun _
  obtain ⟨u, s, -, -, hs⟩ := runs_right.mp hrun
  obtain ⟨e', -, rfl⟩ := except_mapError_eq_error.mp hs.symm
  exact h e'

end Sides

/-! ## Once something has happened -/

section After

variable {loud : Event Sg → Prop}

/-- **`FailsAfter loud x E`** — once an event of `x` was loud, its error is in `E`. -/
def FailsAfter (loud : Event Sg → Prop) (x : Fallible Sg ε α) (E : ε → Prop) : Prop :=
  ∀ t e, x.run.Runs t (.error e) → (∃ event ∈ t, loud event) → E e

/-- What asks nothing may fail as it likes. -/
theorem failsAfter_except (x : Except ε α) : FailsAfter loud (liftM x : Fallible Sg ε α) E := by
  rintro t e ⟨rfl, -⟩ ⟨event, hmem, -⟩
  cases hmem

theorem failsAfter_except_bind {x : Except ε α} {f : α → Fallible Sg ε β}
    (hf : ∀ a, x = .ok a → FailsAfter loud (f a) E) :
    FailsAfter loud ((liftM x : Fallible Sg ε α) >>= f) E := by
  cases x with
  | error e => exact failsAfter_except (.error e : Except ε β)
  | ok a => exact hf a rfl

/-- The query itself may be loud. -/
theorem failsAfter_ask_bind {q : Sg.Query} {f : Sg.Reply q → Fallible Sg ε β}
    (hloud : ∀ reply, loud ⟨q, reply⟩ → Fails (fun _ => True) (f reply) E)
    (hf : ∀ reply, FailsAfter loud (f reply) E) :
    FailsAfter loud ((liftM (Program.ask q) : Fallible Sg ε (Sg.Reply q)) >>= f) E := by
  intro t e hrun ⟨event, hmem, hevent⟩
  rcases runs_bind.mp hrun with ⟨t₁, reply, t₂, rfl, hask, htail⟩ | ⟨e', hask, -⟩
  · obtain ⟨reply', hreply, hsame⟩ := runs_lift.mp hask
    cases hsame
    obtain rfl := Program.runs_ask.mp hreply
    rcases List.mem_append.mp hmem with hmem | hmem
    · obtain rfl : event = ⟨q, reply⟩ := List.mem_singleton.mp hmem
      exact hloud reply hevent t₂ e htail fun _ _ => trivial
    · exact hf reply t₂ e htail ⟨event, hmem, hevent⟩
  · obtain ⟨reply, -, hsame⟩ := runs_lift.mp hask
    cases hsame

/-- The head may be loud, so the tail has to keep to the bound from its start. -/
theorem failsAfter_bind {x : Fallible Sg ε α} {f : α → Fallible Sg ε β}
    (hx : FailsAfter loud x E) (hf : ∀ a, Fails (fun _ => True) (f a) E) :
    FailsAfter loud (x >>= f) E := by
  intro t e hrun hloud
  rcases runs_bind.mp hrun with ⟨t₁, a, t₂, rfl, -, htail⟩ | ⟨e', hhead, he⟩
  · exact hf a t₂ e htail fun _ _ => trivial
  · cases he
    exact hx t e hhead hloud

/-- The head is silent, so only the tail can be loud. -/
theorem failsAfter_silent_bind {x : Fallible Sg ε α} {f : α → Fallible Sg ε β}
    (hx : Program.Every (fun event => ¬ loud event) x.run) (hf : ∀ a, FailsAfter loud (f a) E) :
    FailsAfter loud (x >>= f) E := by
  intro t e hrun hloud
  rcases runs_bind.mp hrun with ⟨t₁, a, t₂, rfl, hhead, htail⟩ | ⟨e', hhead, -⟩
  · obtain ⟨event, hmem, hevent⟩ := hloud
    rcases List.mem_append.mp hmem with hmem | hmem
    · exact absurd hevent (hx t₁ _ hhead event hmem)
    · exact hf a t₂ e htail ⟨event, hmem, hevent⟩
  · obtain ⟨event, hmem, hevent⟩ := hloud
    exact absurd hevent (hx t _ hhead event hmem)

end After

end Fallible

/-! ## Programs over a cell -/

namespace Mutating

variable {τ : Type}

/-- **`Fails x E`** — an error of a call of `x`, on any value of the cell, is in `E`. -/
def Fails (x : Mutating Sg τ ε α) (E : ε → Prop) : Prop := ∀ s, Leaves x s fun r _ => Errors r E

theorem fails_except {x : Except ε α} (h : Errors x E) :
    Fails (liftM x : Mutating Sg τ ε α) E :=
  fun _ => leaves_except h

theorem fails_pure (a : α) : Fails (pure a : Mutating Sg τ ε α) E :=
  fun _ => leaves_pure (errors_ok ⟨a, rfl⟩)

theorem fails_throw {e : ε} (h : E e) : Fails (throw e : Mutating Sg τ ε α) E :=
  fun _ => leaves_throw (errors_throw h)

theorem fails_lift {x : Fallible Sg ε α} (h : Fallible.Fails (fun _ => True) x E) :
    Fails (liftM x : Mutating Sg τ ε α) E := by
  intro s t r s' hrun e he
  subst he
  obtain ⟨hx, -⟩ := runs_lift.mp hrun
  exact h t e hx fun _ _ => trivial

theorem fails_get_bind {f : τ → Mutating Sg τ ε β} (hf : ∀ value, Fails (f value) E) :
    Fails (get >>= f : Mutating Sg τ ε β) E :=
  fun s => leaves_get_bind (hf s s)

theorem fails_set (value : τ) : Fails (set value : Mutating Sg τ ε PUnit) E := by
  intro s t r s' hrun
  obtain ⟨-, rfl, -⟩ := runs_set.mp hrun
  exact errors_ok ⟨_, rfl⟩

theorem fails_bind {x : Mutating Sg τ ε α} {f : α → Mutating Sg τ ε β} (hx : Fails x E)
    (hf : ∀ a, Fails (f a) E) : Fails (x >>= f) E := by
  intro s
  refine leaves_bind (hx s) (fun e _ h => ?_) fun a s₁ _ => hf a s₁
  exact errors_throw (h e rfl)

end Mutating

end Interact
