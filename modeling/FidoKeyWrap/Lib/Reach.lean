/-
# FidoKeyWrap.Lib.Reach — where a program gets to in its world.

`Ends` of `Lib.Triple` speaks of every run, and holds of a program that never returns. `Reaches step
s x r s'` says that there is a run: in a world at `s`, the program may return `r` and leave the world
at `s'`. The rules walk through a program query by query, as those of `Ends` do. In a world that has
one answer to a query at most (`Functional`), the end that is reached is the only one.
-/
import FidoKeyWrap.Lib.Triple
import FidoKeyWrap.Lib.Sum

namespace Interact

variable {Sg : Signature} {α β ε δ σ : Type} {step : σ → Event Sg → σ → Prop} {s s₁ s' : σ}

/-- **`Functional step`** — the world has one answer to a query at most, which leaves one state. -/
def Functional (step : σ → Event Sg → σ → Prop) : Prop :=
  ∀ s q r r' s₁ s₂, step s ⟨q, r⟩ s₁ → step s ⟨q, r'⟩ s₂ → r = r' ∧ s₁ = s₂

/-- A program has one run in a functional world. -/
theorem Functional.run_unique (h : Functional step) {p : Program Sg α} {t t' : Trace Sg} {a a' : α}
    (hrun : p.Runs t a) (hpath : Path step s t s₁) (hrun' : p.Runs t' a')
    (hpath' : Path step s t' s') : a = a' ∧ s₁ = s' := by
  induction p generalizing s t t' with
  | ret b =>
      obtain ⟨rfl, rfl⟩ := hrun
      obtain ⟨rfl, rfl⟩ := hrun'
      cases hpath
      cases hpath'
      exact ⟨rfl, rfl⟩
  | call q k ih =>
      obtain ⟨r, u, rfl, hrun⟩ := hrun
      obtain ⟨r', u', rfl, hrun'⟩ := hrun'
      obtain ⟨mid, hstep, hpath⟩ := hpath
      obtain ⟨mid', hstep', hpath'⟩ := hpath'
      obtain ⟨rfl, rfl⟩ := h s q r r' mid mid' hstep hstep'
      exact ih r hrun hpath hrun' hpath'

namespace Fallible

/-- **`Reaches step s x r s'`** — in a world at `s`, the program may return `r` and leave the world
at `s'`. -/
def Reaches (step : σ → Event Sg → σ → Prop) (s : σ) (x : Fallible Sg ε α) (r : Except ε α)
    (s' : σ) : Prop :=
  ∃ t, x.run.Runs t r ∧ Path step s t s'

theorem Reaches.unique (hstep : Functional step) {x : Fallible Sg ε α} {r r' : Except ε α}
    (h : Reaches step s x r s₁) (h' : Reaches step s x r' s') : r = r' ∧ s₁ = s' := by
  obtain ⟨t, hrun, hpath⟩ := h
  obtain ⟨t', hrun', hpath'⟩ := h'
  exact hstep.run_unique hrun hpath hrun' hpath'

section Rules

variable {x : Fallible Sg ε α} {f : α → Fallible Sg ε β} {a : α} {r : Except ε β}

theorem reaches_pure (a : α) : Reaches step s (pure a : Fallible Sg ε α) (.ok a) s :=
  ⟨[], ⟨rfl, rfl⟩, rfl⟩

theorem reaches_throw (e : ε) : Reaches step s (throw e : Fallible Sg ε α) (.error e) s :=
  ⟨[], ⟨rfl, rfl⟩, rfl⟩

theorem reaches_except (x : Except ε α) : Reaches step s (liftM x : Fallible Sg ε α) x s :=
  ⟨[], ⟨rfl, rfl⟩, rfl⟩

theorem reaches_except_of {x y : Except ε α} (h : x = y) :
    Reaches step s (liftM x : Fallible Sg ε α) y s :=
  h ▸ reaches_except x

/-- The tail starts where the head got to. -/
theorem reaches_bind (hx : Reaches step s x (.ok a) s₁) (hf : Reaches step s₁ (f a) r s') :
    Reaches step s (x >>= f) r s' := by
  obtain ⟨t, hrun, hpath⟩ := hx
  obtain ⟨t', hrun', hpath'⟩ := hf
  exact ⟨t ++ t', runs_bind.mpr (.inl ⟨t, a, t', rfl, hrun, hrun'⟩),
    path_append.mpr ⟨s₁, hpath, hpath'⟩⟩

theorem reaches_bind_error {e : ε} (hx : Reaches step s x (.error e) s') :
    Reaches step s (x >>= f) (.error e) s' := by
  obtain ⟨t, hrun, hpath⟩ := hx
  exact ⟨t, runs_bind.mpr (.inr ⟨e, hrun, rfl⟩), hpath⟩

theorem reaches_except_bind {x : Except ε α} (hx : x = .ok a) (hf : Reaches step s (f a) r s') :
    Reaches step s ((liftM x : Fallible Sg ε α) >>= f) r s' := by
  subst hx
  exact hf

theorem reaches_except_error {x : Except ε α} {e : ε} (hx : x = .error e) :
    Reaches step s ((liftM x : Fallible Sg ε α) >>= f) (.error e) s := by
  subst hx
  exact reaches_throw e

/-- The tail is pure. -/
theorem reaches_bind_except {r : Except ε α} (hx : Reaches step s x r s') (g : α → Except ε β) :
    Reaches step s (x >>= fun a => (liftM (g a) : Fallible Sg ε β)) (r >>= g) s' := by
  cases r with
  | error e => exact reaches_bind_error hx
  | ok a => exact reaches_bind hx (reaches_except (g a))

/-- The world answers a query, and the program goes on. -/
theorem reaches_ask_bind {q : Sg.Query} {f : Sg.Reply q → Fallible Sg ε β} {reply : Sg.Reply q}
    (hstep : step s ⟨q, reply⟩ s₁) (hf : Reaches step s₁ (f reply) r s') :
    Reaches step s ((liftM (Program.ask q) : Fallible Sg ε (Sg.Reply q)) >>= f) r s' := by
  refine reaches_bind ⟨[⟨q, reply⟩], runs_lift.mpr ⟨reply, ?_, rfl⟩, path_singleton.mpr hstep⟩ hf
  exact Program.runs_ask.mpr rfl

/-- The tail gets the result of the head, a failure included. -/
theorem reaches_outcome_bind {f : Except ε α → Fallible Sg ε β} {result : Except ε α}
    (hx : Reaches step s x result s₁) (hf : Reaches step s₁ (f result) r s') :
    Reaches step s (outcome x >>= f) r s' := by
  obtain ⟨t, hrun, hpath⟩ := hx
  exact reaches_bind ⟨t, runs_outcome.mpr ⟨result, hrun, rfl⟩, hpath⟩ hf

end Rules

section Sides

variable {A B : Signature} {left' : σ → Event A → σ → Prop} {right' : σ → Event B → σ → Prop}
  {both : σ → Event (A.sum B) → σ → Prop} {f : ε → δ}

/-- A program over the left side gets where it gets to on its own. -/
theorem reaches_left (h : ∀ s event s', left' s event s' → both s event.left s')
    {x : Fallible A ε α} {r : Except ε α} (hx : Reaches left' s x r s') :
    Reaches both s (left f x) (r.mapError f) s' := by
  obtain ⟨t, hrun, hpath⟩ := hx
  refine ⟨t.map Event.left, runs_left.mpr ⟨t, r, rfl, hrun, rfl⟩, ?_⟩
  exact hpath.map h

/-- So does a program over the right side. -/
theorem reaches_right (h : ∀ s event s', right' s event s' → both s event.right s')
    {x : Fallible B ε α} {r : Except ε α} (hx : Reaches right' s x r s') :
    Reaches both s (right f x) (r.mapError f) s' := by
  obtain ⟨t, hrun, hpath⟩ := hx
  refine ⟨t.map Event.right, runs_right.mpr ⟨t, r, rfl, hrun, rfl⟩, ?_⟩
  exact hpath.map h

end Sides

end Fallible

end Interact
