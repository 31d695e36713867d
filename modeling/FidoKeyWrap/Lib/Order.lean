/-
# FidoKeyWrap.Lib.Order — the order of a program's effects.

A condition `C past event` says which events may follow which past. A trace is lawful when each of
its events may follow what came before it, and a program is `Ordered` when all its runs are lawful,
the failing ones included. The condition of the tail of a sequence may rely on the run of its head,
so a proof walks through a program once and meets every event with everything before it at hand.

A condition on the events alone needs no past: `Every P` says that it holds of every event of every
run. `Once loud Q` says that a run has one loud event at most, and that `Q` holds of that event, of
the events after it and of the value returned.
-/
import FidoKeyWrap.Lib.Program

namespace Interact

variable {Sg : Signature} {α β ε σ : Type}

/-- **`Lawful C past t`** — every event of the trace may follow what came before it. -/
def Lawful (C : Trace Sg → Event Sg → Prop) : Trace Sg → Trace Sg → Prop
  | _, [] => True
  | past, event :: t => C past event ∧ Lawful C (past ++ [event]) t

section Lawful

variable {C : Trace Sg → Event Sg → Prop} {past t t' : Trace Sg}

theorem lawful_append :
    Lawful C past (t ++ t') ↔ Lawful C past t ∧ Lawful C (past ++ t) t' := by
  induction t generalizing past with
  | nil => simp [Lawful]
  | cons event t ih =>
      simp only [List.cons_append, Lawful, ih, List.append_assoc, and_assoc, List.nil_append]

/-- What a lawful trace says about each of its events. -/
theorem Lawful.at {before after : Trace Sg} {event : Event Sg}
    (h : Lawful C [] t) (ht : t = before ++ event :: after) : C before event := by
  rw [ht, lawful_append, List.nil_append] at h
  exact h.2.1

/-- Events that may follow anything. -/
theorem lawful_of_forall (h : ∀ event ∈ t, ∀ past, C past event) : Lawful C past t := by
  induction t generalizing past with
  | nil => trivial
  | cons event t ih =>
      exact ⟨h event List.mem_cons_self past, ih fun e he => h e (List.mem_cons_of_mem event he)⟩

end Lawful

namespace Program

/-- **`Ordered C past p`** — after `past`, every run of `p` is lawful. -/
def Ordered (C : Trace Sg → Event Sg → Prop) (past : Trace Sg) (p : Program Sg α) : Prop :=
  ∀ t a, p.Runs t a → Lawful C past t

variable {C : Trace Sg → Event Sg → Prop} {past : Trace Sg}

theorem ordered_pure (a : α) : Ordered C past (pure a : Program Sg α) := by
  rintro t b ⟨rfl, rfl⟩
  trivial

theorem ordered_bind {p : Program Sg α} {f : α → Program Sg β} (hp : Ordered C past p)
    (hf : ∀ t a, p.Runs t a → Ordered C (past ++ t) (f a)) : Ordered C past (p >>= f) := by
  intro t b hrun
  obtain ⟨t₁, a, t₂, rfl, hhead, htail⟩ := runs_bind.mp hrun
  exact lawful_append.mpr ⟨hp t₁ a hhead, hf t₁ a hhead t₂ b htail⟩

/-- A program whose events may follow anything. -/
theorem ordered_of_forall {p : Program Sg α}
    (h : ∀ t a, p.Runs t a → ∀ event ∈ t, ∀ past, C past event) : Ordered C past p :=
  fun t a hrun => lawful_of_forall (h t a hrun)

/-- **`Every P p`** — every event of every run of `p` satisfies `P`. -/
def Every (P : Event Sg → Prop) (p : Program Sg α) : Prop :=
  ∀ t a, p.Runs t a → ∀ event ∈ t, P event

section Every

variable {P Q : Event Sg → Prop}

theorem every_pure (a : α) : Every P (pure a : Program Sg α) := by
  rintro t b ⟨rfl, rfl⟩ event hmem
  cases hmem

theorem every_ask {q : Sg.Query} (h : ∀ r, P ⟨q, r⟩) : Every P (ask q) := by
  intro t r hrun event hmem
  rw [runs_ask] at hrun
  subst hrun
  rw [List.mem_singleton] at hmem
  subst hmem
  exact h r

theorem every_bind {p : Program Sg α} {f : α → Program Sg β} (hp : Every P p)
    (hf : ∀ a, Every P (f a)) : Every P (p >>= f) := by
  intro t b hrun event hmem
  obtain ⟨t₁, a, t₂, rfl, hhead, htail⟩ := runs_bind.mp hrun
  rcases List.mem_append.mp hmem with hmem | hmem
  · exact hp t₁ a hhead event hmem
  · exact hf a t₂ b htail event hmem

theorem Every.mono {p : Program Sg α} (h : Every P p) (hPQ : ∀ event, P event → Q event) :
    Every Q p :=
  fun t a hrun event hmem => hPQ event (h t a hrun event hmem)

/-- A program whose events may follow anything. -/
theorem Every.ordered {p : Program Sg α} (h : Every P p)
    (hC : ∀ event, P event → ∀ past, C past event) : Ordered C past p :=
  ordered_of_forall fun t a hrun event hmem => hC event (h t a hrun event hmem)

end Every

/-- **A run that is cut short** is cut in the head, or after it. -/
theorem cut_bind {p : Program Sg β} {f : β → Program Sg α} {t rest : Trace Sg} {a : α}
    (h : (p >>= f).Runs (t ++ rest) a) :
    (∃ more b, p.Runs (t ++ more) b) ∨
      ∃ u b v, t = u ++ v ∧ p.Runs u b ∧ (f b).Runs (v ++ rest) a := by
  obtain ⟨u, b, v, hsplit, hhead, htail⟩ := runs_bind.mp h
  rcases List.append_eq_append_iff.mp hsplit with ⟨more, rfl, -⟩ | ⟨mid, rfl, rfl⟩
  · exact .inl ⟨more, b, hhead⟩
  · exact .inr ⟨u, b, mid, rfl, hhead, htail⟩

/-- **`Once loud Q p`** — a run of `p` has no loud event, or exactly one with `Q`. -/
def Once (loud : Event Sg → Prop) (Q : Event Sg → Trace Sg → α → Prop) (p : Program Sg α) : Prop :=
  ∀ t a, p.Runs t a → (∀ event ∈ t, ¬ loud event) ∨ ∃ before event after,
    t = before ++ event :: after ∧ loud event ∧ (∀ e ∈ before, ¬ loud e) ∧
      (∀ e ∈ after, ¬ loud e) ∧ Q event after a

section Once

variable {loud : Event Sg → Prop} {Q : Event Sg → Trace Sg → α → Prop}
  {Q' : Event Sg → Trace Sg → β → Prop}

/-- Two splits of a trace at its one loud event are the same split. -/
theorem split_unique {before before' after after' : Trace Sg} {event event' : Event Sg}
    (h : before ++ event :: after = before' ++ event' :: after') (hevent' : loud event') (hbefore : ∀ e ∈ before, ¬ loud e) (hafter : ∀ e ∈ after, ¬ loud e) :
    event = event' ∧ after = after' := by
  induction before generalizing before' with
  | nil =>
      cases before' with
      | nil => exact List.cons.inj h
      | cons e before' =>
          obtain ⟨rfl, htail⟩ := List.cons.inj h
          exact absurd hevent' (hafter event' (htail ▸ by simp))
  | cons e before ih =>
      cases before' with
      | nil =>
          obtain ⟨rfl, -⟩ := List.cons.inj h
          exact absurd hevent' (hbefore e List.mem_cons_self)
      | cons e' before' =>
          obtain ⟨rfl, htail⟩ := List.cons.inj h
          exact ih htail fun e he => hbefore e (List.mem_cons_of_mem _ he)

/-- A split at an event that the second part lacks is a split of the first part. -/
theorem split_left {t t' before after : Trace Sg} {event : Event Sg}
    (h : t ++ t' = before ++ event :: after) (hevent : event ∉ t') :
    ∃ mid, t = before ++ event :: mid ∧ after = mid ++ t' := by
  rcases List.append_eq_append_iff.mp h with ⟨more, -, ht'⟩ | ⟨mid, ht, hmid⟩
  · exact absurd (ht' ▸ by simp) hevent
  · rcases List.append_eq_cons_iff.mp hmid.symm with ⟨rfl, ht'⟩ | ⟨rest, rfl, hafter⟩
    · exact absurd (ht' ▸ List.mem_cons_self) hevent
    · exact ⟨rest, ht, hafter⟩

/-- A split at an event that the first part lacks is a split of the second part. -/
theorem split_right {t t' before after : Trace Sg} {event : Event Sg}
    (h : t ++ t' = before ++ event :: after) (hevent : event ∉ t) :
    ∃ mid, before = t ++ mid ∧ t' = mid ++ event :: after := by
  rcases List.append_eq_append_iff.mp h with ⟨mid, hbefore, ht'⟩ | ⟨mid, ht, hmid⟩
  · exact ⟨mid, hbefore, ht'⟩
  · rcases List.append_eq_cons_iff.mp hmid.symm with ⟨rfl, ht'⟩ | ⟨rest, rfl, -⟩
    · exact ⟨[], by rw [ht, List.append_nil, List.append_nil], ht'⟩
    · exact absurd (ht ▸ by simp) hevent

/-- What `Once` says about a loud event of a run. -/
theorem Once.at {p : Program Sg α} (h : Once loud Q p) {before after : Trace Sg} {event : Event Sg}
    {a : α} (hrun : p.Runs (before ++ event :: after) a) (hevent : loud event) :
    Q event after a := by
  rcases h _ a hrun with hnone | ⟨before', event', after', hsplit, hevent', hbefore, hafter, hQ⟩
  · exact absurd hevent (hnone event (by simp))
  · obtain ⟨rfl, rfl⟩ := split_unique hsplit.symm hevent hbefore hafter
    exact hQ

theorem Every.once {p : Program Sg α} (h : Every (fun event => ¬ loud event) p) : Once loud Q p :=
  fun t a hrun => .inl (h t a hrun)

/-- The loud event is in the tail. -/
theorem once_bind_tail {p : Program Sg β} {f : β → Program Sg α}
    (hp : Every (fun event => ¬ loud event) p) (hf : ∀ b, Once loud Q (f b)) :
    Once loud Q (p >>= f) := by
  intro t a hrun
  obtain ⟨t₁, b, t₂, rfl, hhead, htail⟩ := runs_bind.mp hrun
  have hquiet := hp t₁ b hhead
  rcases hf b t₂ a htail with hnone | ⟨before, event, after, rfl, hevent, hbefore, hafter, hQ⟩
  · exact .inl (List.forall_mem_append.mpr ⟨hquiet, hnone⟩)
  · exact .inr ⟨t₁ ++ before, event, after, (List.append_assoc ..).symm, hevent,
      List.forall_mem_append.mpr ⟨hquiet, hbefore⟩, hafter, hQ⟩

/-- The loud event is in the head. -/
theorem once_bind_head {p : Program Sg α} {f : α → Program Sg β} (hp : Once loud Q p)
    (hf : ∀ a, Every (fun event => ¬ loud event) (f a))
    (hQ : ∀ event after a t b, Q event after a → (f a).Runs t b → Q' event (after ++ t) b) :
    Once loud Q' (p >>= f) := by
  intro t b hrun
  obtain ⟨t₁, a, t₂, rfl, hhead, htail⟩ := runs_bind.mp hrun
  have hquiet := hf a t₂ b htail
  rcases hp t₁ a hhead with hnone | ⟨before, event, after, rfl, hevent, hbefore, hafter, h⟩
  · exact .inl (List.forall_mem_append.mpr ⟨hnone, hquiet⟩)
  · exact .inr ⟨before, event, after ++ t₂, by simp, hevent, hbefore,
      List.forall_mem_append.mpr ⟨hafter, hquiet⟩, hQ event after a t₂ b h htail⟩

end Once

end Program

open Program

namespace Fallible

variable {C : Trace Sg → Event Sg → Prop} {past : Trace Sg}

section Every

variable {P : Event Sg → Prop}

theorem every_except (x : Except ε α) : Every P (liftM x : Fallible Sg ε α).run := every_pure x

theorem every_throw (e : ε) : Every P (throw e : Fallible Sg ε α).run :=
  every_pure (Except.error e)

theorem every_bind {x : Fallible Sg ε α} {f : α → Fallible Sg ε β} (hx : Every P x.run)
    (hf : ∀ a, Every P (f a).run) : Every P (x >>= f).run := by
  rw [ExceptT.run_bind]
  refine Program.every_bind hx ?_
  rintro (e | a)
  · exact every_pure _
  · exact hf a

theorem every_except_bind {x : Except ε α} {f : α → Fallible Sg ε β}
    (hf : ∀ a, x = .ok a → Every P (f a).run) :
    Every P ((liftM x : Fallible Sg ε α) >>= f).run := by
  cases x with
  | error e => exact every_pure _
  | ok a => exact hf a rfl

theorem every_outcome {x : Fallible Sg ε α} (hx : Every P x.run) : Every P (outcome x).run := by
  intro t r hrun
  obtain ⟨r', hx', -⟩ := runs_outcome.mp hrun
  exact hx t r' hx'

end Every

/-- A run that is cut short is cut in the head, or after a head that succeeded. -/
theorem cut_bind {x : Fallible Sg ε α} {f : α → Fallible Sg ε β} {t rest : Trace Sg}
    {r : Except ε β} (h : (x >>= f).run.Runs (t ++ rest) r) :
    (∃ more r', x.run.Runs (t ++ more) r') ∨
      ∃ u a v, t = u ++ v ∧ x.run.Runs u (.ok a) ∧ (f a).run.Runs (v ++ rest) r := by
  rw [ExceptT.run_bind] at h
  rcases Program.cut_bind h with hcut | ⟨u, e | a, v, rfl, hhead, htail⟩
  · exact .inl hcut
  · -- a head that failed was the whole run
    obtain ⟨hnil, -⟩ := Program.runs_pure.mp htail
    obtain ⟨rfl, rfl⟩ := List.append_eq_nil_iff.mp hnil
    exact .inl ⟨[], .error e, by simpa using hhead⟩
  · exact .inr ⟨u, a, v, rfl, hhead, htail⟩

section Once

variable {loud : Event Sg → Prop} {Q : Event Sg → Trace Sg → Except ε α → Prop}

/-- The loud event is in the tail: a head that fails has none. -/
theorem once_bind_tail {x : Fallible Sg ε β} {f : β → Fallible Sg ε α}
    (hx : Every (fun event => ¬ loud event) x.run) (hf : ∀ b, Once loud Q (f b).run) :
    Once loud Q (x >>= f).run := by
  rw [ExceptT.run_bind]
  refine Program.once_bind_tail hx ?_
  rintro (e | b)
  · exact Every.once (every_pure _)
  · exact hf b

theorem once_except_bind {x : Except ε β} {f : β → Fallible Sg ε α}
    (hf : ∀ b, x = .ok b → Once loud Q (f b).run) :
    Once loud Q ((liftM x : Fallible Sg ε β) >>= f).run := by
  cases x with
  | error e => exact Every.once (every_pure _)
  | ok b => exact hf b rfl

end Once

theorem ordered_except (x : Except ε α) : Ordered C past (liftM x : Fallible Sg ε α).run :=
  ordered_pure x

theorem ordered_throw (e : ε) : Ordered C past (throw e : Fallible Sg ε α).run :=
  ordered_pure (Except.error e)

/-- The tail runs after a head that succeeded. -/
theorem ordered_bind {x : Fallible Sg ε α} {f : α → Fallible Sg ε β} (hx : Ordered C past x.run)
    (hf : ∀ t a, x.run.Runs t (.ok a) → Ordered C (past ++ t) (f a).run) :
    Ordered C past (x >>= f).run := by
  rw [ExceptT.run_bind]
  refine Program.ordered_bind hx ?_
  rintro t (e | a) hrun
  · exact ordered_pure _
  · exact hf t a hrun

theorem ordered_except_bind {x : Except ε α} {f : α → Fallible Sg ε β}
    (hf : ∀ a, x = .ok a → Ordered C past (f a).run) :
    Ordered C past ((liftM x : Fallible Sg ε α) >>= f).run := by
  cases x with
  | error e => exact ordered_pure _
  | ok a => exact hf a rfl

/-- A program that asks at most one query. -/
theorem ordered_of_follows {x : Fallible Sg ε α} {q : Sg.Query} (hx : Follows x [q])
    (h : ∀ r, C past ⟨q, r⟩) : Ordered C past x.run := by
  intro t r hrun
  have hstart := (hx t r hrun).1
  rcases t with _ | ⟨⟨q', reply⟩, t⟩
  · trivial
  · rw [List.map_cons, List.cons_prefix_cons] at hstart
    obtain ⟨rfl, htail⟩ := hstart
    have hnil : t = [] := List.map_eq_nil_iff.mp (List.prefix_nil.mp htail)
    subst hnil
    exact ⟨h reply, trivial⟩

end Fallible

namespace Mutating

variable {C : Trace Sg → Event Sg → Prop} {past : Trace Sg} {s : σ}

theorem ordered_except (x : Except ε α) :
    Ordered C past (StateT.run (liftM x : Mutating Sg σ ε α).run s) :=
  ordered_pure (x, s)

theorem ordered_except_bind {x : Except ε α} {f : α → Mutating Sg σ ε β}
    (hf : ∀ a, x = .ok a → Ordered C past (StateT.run (f a).run s)) :
    Ordered C past (StateT.run ((liftM x : Mutating Sg σ ε α) >>= f).run s) := by
  cases x with
  | error e => exact ordered_pure _
  | ok a => exact hf a rfl

/-- A program that does not touch the cell, then another. -/
theorem ordered_lift_bind {x : Fallible Sg ε α} {f : α → Mutating Sg σ ε β}
    (hx : Ordered C past x.run)
    (hf : ∀ t a, x.run.Runs t (.ok a) → Ordered C (past ++ t) (StateT.run (f a).run s)) :
    Ordered C past (StateT.run ((liftM x : Mutating Sg σ ε α) >>= f).run s) := by
  rintro t ⟨r, s'⟩ hrun
  rcases runs_lift_bind.mp hrun with ⟨t₁, a, t₂, rfl, hhead, htail⟩ | ⟨e, hhead, -, -⟩
  · exact lawful_append.mpr ⟨hx t₁ _ hhead, hf t₁ a hhead t₂ _ htail⟩
  · exact hx t _ hhead

theorem ordered_get_bind {f : σ → Mutating Sg σ ε α}
    (hf : Ordered C past (StateT.run (f s).run s)) :
    Ordered C past (StateT.run (get >>= f : Mutating Sg σ ε α).run s) := hf

theorem ordered_set (value : σ) :
    Ordered C past (StateT.run (set value : Mutating Sg σ ε PUnit).run s) :=
  ordered_pure (Except.ok PUnit.unit, value)

theorem ordered_set_pure (value : σ) (a : α) :
    Ordered C past (StateT.run (set value >>= fun _ => pure a : Mutating Sg σ ε α).run s) :=
  ordered_pure (Except.ok a, value)

section Every

variable {P : Event Sg → Prop}

theorem every_except_bind {x : Except ε α} {f : α → Mutating Sg σ ε β}
    (hf : ∀ a, x = .ok a → Every P (StateT.run (f a).run s)) :
    Every P (StateT.run ((liftM x : Mutating Sg σ ε α) >>= f).run s) := by
  cases x with
  | error e => exact every_pure _
  | ok a => exact hf a rfl

theorem every_lift_bind {x : Fallible Sg ε α} {f : α → Mutating Sg σ ε β}
    (hx : Every P x.run) (hf : ∀ a, Every P (StateT.run (f a).run s)) :
    Every P (StateT.run ((liftM x : Mutating Sg σ ε α) >>= f).run s) := by
  rintro t ⟨r, s'⟩ hrun event hmem
  rcases runs_lift_bind.mp hrun with ⟨t₁, a, t₂, rfl, hhead, htail⟩ | ⟨e, hhead, -, -⟩
  · rcases List.mem_append.mp hmem with hmem | hmem
    · exact hx t₁ _ hhead event hmem
    · exact hf a t₂ _ htail event hmem
  · exact hx t _ hhead event hmem

theorem every_get_bind {f : σ → Mutating Sg σ ε α} (hf : Every P (StateT.run (f s).run s)) :
    Every P (StateT.run (get >>= f : Mutating Sg σ ε α).run s) := hf

theorem every_set (value : σ) :
    Every P (StateT.run (set value : Mutating Sg σ ε PUnit).run s) :=
  every_pure (Except.ok PUnit.unit, value)

theorem every_set_pure (value : σ) (a : α) :
    Every P (StateT.run (set value >>= fun _ => pure a : Mutating Sg σ ε α).run s) :=
  every_pure (Except.ok a, value)

end Every

end Mutating

end Interact
