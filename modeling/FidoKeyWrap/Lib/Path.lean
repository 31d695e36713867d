/-
# FidoKeyWrap.Lib.Path — a world that changes as a program asks it.

A world is a state and a step relation: which states an event may lead to. `Path step s t s'` says
that the events of `t` may lead from `s` to `s'`, so a run and a path over one trace are a program
and its world together. Events that keep the state keep it along a whole trace, and an environment
that computes its replies from a state gives a path.
-/
import FidoKeyWrap.Lib.Order

namespace Interact

variable {Sg : Signature} {α σ : Type}

/-- **`Path step s t s'`** — the events of the trace lead from `s` to `s'`. -/
def Path (step : σ → Event Sg → σ → Prop) : σ → Trace Sg → σ → Prop
  | s, [], s' => s' = s
  | s, event :: t, s' => ∃ mid, step s event mid ∧ Path step mid t s'

variable {step : σ → Event Sg → σ → Prop} {s s' : σ} {t t' : Trace Sg}

theorem path_append :
    Path step s (t ++ t') s' ↔ ∃ mid, Path step s t mid ∧ Path step mid t' s' := by
  induction t generalizing s with
  | nil => simp [Path]
  | cons event t ih =>
      simp only [List.cons_append, Path, ih]
      constructor
      · rintro ⟨s₁, hstep, mid, hhead, htail⟩
        exact ⟨mid, ⟨s₁, hstep, hhead⟩, htail⟩
      · rintro ⟨mid, ⟨s₁, hstep, hhead⟩, htail⟩
        exact ⟨s₁, hstep, mid, hhead, htail⟩

theorem path_singleton {event : Event Sg} : Path step s [event] s' ↔ step s event s' := by
  simp [Path]

/-- A condition on the events of a trace may be made part of the steps. -/
theorem Path.guarded {D : Event Sg → Prop} (h : Path step s t s') (hD : ∀ event ∈ t, D event) :
    Path (fun s event s' => D event ∧ step s event s') s t s' := by
  induction t generalizing s with
  | nil => exact h
  | cons event t ih =>
      obtain ⟨mid, hstep, htail⟩ := h
      exact ⟨mid, ⟨hD event List.mem_cons_self, hstep⟩,
        ih htail fun e he => hD e (List.mem_cons_of_mem event he)⟩

/-- A path of a smaller step relation is a path. -/
theorem Path.mono {step' : σ → Event Sg → σ → Prop} (h : Path step s t s')
    (himp : ∀ s event s', step s event s' → step' s event s') : Path step' s t s' := by
  induction t generalizing s with
  | nil => exact h
  | cons event t ih =>
      obtain ⟨mid, hstep, htail⟩ := h
      exact ⟨mid, himp s event mid hstep, ih htail⟩

/-- **The invariant rule**: what every event keeps, a trace keeps. -/
theorem Path.invariant {I : σ → Prop} (h : Path step s t s')
    (hkeep : ∀ event ∈ t, ∀ s s', step s event s' → I s → I s') (hs : I s) : I s' := by
  induction t generalizing s with
  | nil =>
      cases h
      exact hs
  | cons event t ih =>
      obtain ⟨mid, hstep, htail⟩ := h
      have hmid := hkeep event List.mem_cons_self s mid hstep hs
      exact ih htail (fun e he => hkeep e (List.mem_cons_of_mem event he)) hmid

/-- A path in another signature, event by event. -/
theorem Path.map {Sg' : Signature} {step' : σ → Event Sg' → σ → Prop} {f : Event Sg → Event Sg'}
    (h : Path step s t s') (hf : ∀ s event s', step s event s' → step' s (f event) s') :
    Path step' s (t.map f) s' := by
  induction t generalizing s with
  | nil => exact h
  | cons event t ih =>
      obtain ⟨mid, hstep, hrest⟩ := h
      exact ⟨mid, hf s event mid hstep, ih hrest⟩

/-- Events that keep the state. -/
theorem Path.unchanged (h : Path step s t s')
    (hkeep : ∀ event ∈ t, ∀ s s', step s event s' → s' = s) : s' = s :=
  h.invariant (I := fun state => state = s)
    (fun event hmem s₁ s₂ hstep hs => (hkeep event hmem s₁ s₂ hstep).trans hs) rfl

/-- **The simulation rule**: if every event of one world is an event of the other between related
states, so is every trace. -/
theorem Path.simulates {τ : Type} {step' : τ → Event Sg → τ → Prop} {R : σ → τ → Prop} {a : τ}
    (h : Path step s t s')
    (hsim : ∀ event ∈ t, ∀ s s' a, step s event s' → R s a → ∃ a', step' a event a' ∧ R s' a')
    (hR : R s a) : ∃ a', Path step' a t a' ∧ R s' a' := by
  induction t generalizing s a with
  | nil =>
      cases h
      exact ⟨a, rfl, hR⟩
  | cons event t ih =>
      obtain ⟨mid, hstep, htail⟩ := h
      obtain ⟨b, hfirst, hb⟩ := hsim event List.mem_cons_self s mid a hstep hR
      obtain ⟨a', hrest, hR'⟩ :=
        ih htail (fun e he => hsim e (List.mem_cons_of_mem event he)) hb
      exact ⟨a', ⟨b, hfirst, hrest⟩, hR'⟩

/-- A world that answers every query answers every list of queries. -/
theorem exists_path (hanswers : ∀ s q, ∃ r s', step s ⟨q, r⟩ s') (queries : List Sg.Query)
    (s : σ) : ∃ t s', t.map Event.query = queries ∧ Path step s t s' := by
  induction queries generalizing s with
  | nil => exact ⟨[], s, rfl, rfl⟩
  | cons q queries ih =>
      obtain ⟨r, mid, hstep⟩ := hanswers s q
      obtain ⟨t, s', hqueries, hpath⟩ := ih mid
      exact ⟨⟨q, r⟩ :: t, s', by rw [List.map_cons, hqueries], mid, hstep, hpath⟩

/-- A world that answers every query runs every program. -/
theorem exists_run (hanswers : ∀ s q, ∃ r s', step s ⟨q, r⟩ s') (p : Program Sg α) (s : σ) :
    ∃ t a s', p.Runs t a ∧ Path step s t s' := by
  induction p generalizing s with
  | ret a => exact ⟨[], a, s, ⟨rfl, rfl⟩, rfl⟩
  | call q k ih =>
      obtain ⟨r, mid, hstep⟩ := hanswers s q
      obtain ⟨t, a, s', hrun, hpath⟩ := ih r mid
      exact ⟨⟨q, r⟩ :: t, a, s', ⟨r, t, rfl, hrun⟩, mid, hstep, hpath⟩

/-- The world of an environment that replies from a state. -/
theorem path_of_exec? {env : Trace Sg → (q : Sg.Query) → Option (Sg.Reply q)}
    {state : Trace Sg → σ}
    (hstep : ∀ past q r, env past q = some r → step (state past) ⟨q, r⟩ (state (past ++ [⟨q, r⟩])))
    {p : Program Sg α} {past : Trace Sg} {a : α} (h : p.exec? env past = some (t, a)) :
    Path step (state past) t (state (past ++ t)) := by
  induction p generalizing past t with
  | ret b =>
      cases h
      rw [List.append_nil]
      rfl
  | call q k ih =>
      rw [Program.exec?] at h
      split at h
      · cases h
      · rename_i r hr
        obtain ⟨⟨t', b⟩, hrest, hsame⟩ := Option.map_eq_some_iff.mp h
        cases hsame
        have htail := ih r hrest
        rw [List.append_assoc] at htail
        exact ⟨_, hstep past q r hr, htail⟩

end Interact
