/-
# FidoKeyWrap.Lib.Triple — pre- and postconditions of a program in its world.

`Triple step I P p Q` says of a program, run in a world that starts in `P`: every state it passes
through is in `I`, and its events, its result and the last state are in `Q`. The middle part makes
it a statement about what the world looks like whenever the program stops, not only when it returns.

The rules follow the shapes of `Lib.Program`. A part of the program whose every event keeps the
precondition needs no triple of its own (`triple_keeps`): its `Every` lemma is enough.

A program over a cell has a second state, which it reads and writes itself. `Leaves x s Q` is the
postcondition of `x` called on a cell holding `s`, and `Within R x` says that every call relates the
old and the new value of the cell.

Where only the end matters and the state is known, `Ends step s x Q` says that `x`, run in a world at
`s`, ends in `Q`. Its rules walk through a program query by query, with the state at hand.
-/
import FidoKeyWrap.Lib.Path

namespace Interact

variable {Sg : Signature} {α β ε σ τ : Type}

/-- **`Keeps step P event`** — the event leaves a world in `P` in `P`. -/
def Keeps (step : σ → Event Sg → σ → Prop) (P : σ → Prop) (event : Event Sg) : Prop :=
  ∀ s s', step s event s' → P s → P s'

/-- **`Triple step I P p Q`** — from a state in `P`, a run of `p` passes through states in `I` only,
and ends in `Q`. -/
def Program.Triple (step : σ → Event Sg → σ → Prop) (I P : σ → Prop) (p : Program Sg α)
    (Q : Trace Sg → α → σ → Prop) : Prop :=
  ∀ s t a, P s → p.Runs t a →
    (∀ t₁ t₂ mid, t = t₁ ++ t₂ → Path step s t₁ mid → I mid) ∧ ∀ s', Path step s t s' → Q t a s'

variable {step : σ → Event Sg → σ → Prop} {I P : σ → Prop}

namespace Program

section Rules

variable {Q R : Trace Sg → α → σ → Prop} {p : Program Sg α}

theorem triple_pure {a : α} (hI : ∀ s, P s → I s) (hQ : ∀ s, P s → Q [] a s) :
    Triple step I P (pure a : Program Sg α) Q := by
  rintro s t b hs ⟨rfl, rfl⟩
  constructor
  · intro t₁ t₂ mid hsplit hpath
    obtain ⟨rfl, -⟩ := List.append_eq_nil_iff.mp hsplit.symm
    cases hpath
    exact hI s hs
  · intro s' hpath
    cases hpath
    exact hQ s hs

theorem triple_ask {q : Sg.Query} {Q : Trace Sg → Sg.Reply q → σ → Prop} (hI : ∀ s, P s → I s)
    (hstep : ∀ s r s', P s → step s ⟨q, r⟩ s' → I s' ∧ Q [⟨q, r⟩] r s') :
    Triple step I P (ask q) Q := by
  intro s t r hs hrun
  rw [runs_ask] at hrun
  subst hrun
  constructor
  · intro t₁ t₂ mid hsplit hpath
    cases t₁ with
    | nil =>
        cases hpath
        exact hI s hs
    | cons event t₁ =>
        obtain ⟨rfl, hnil⟩ := List.cons.inj hsplit
        obtain ⟨rfl, -⟩ := List.append_eq_nil_iff.mp hnil.symm
        exact (hstep s r mid hs (path_singleton.mp hpath)).1
  · intro s' hpath
    exact (hstep s r s' hs (path_singleton.mp hpath)).2

/-- The rule of consequence. -/
theorem Triple.mono {P' : σ → Prop} (h : Triple step I P p R) (hP : ∀ s, P' s → P s)
    (hQ : ∀ t a s, R t a s → Q t a s) : Triple step I P' p Q := by
  intro s t a hs hrun
  obtain ⟨hmid, hend⟩ := h s t a (hP s hs) hrun
  exact ⟨hmid, fun s' hpath => hQ t a s' (hend s' hpath)⟩

/-- The postcondition may rely on the run. -/
theorem Triple.run (h : Triple step I P p R) :
    Triple step I P p fun t a s => p.Runs t a ∧ R t a s := by
  intro s t a hs hrun
  obtain ⟨hmid, hend⟩ := h s t a hs hrun
  exact ⟨hmid, fun s' hpath => ⟨hrun, hend s' hpath⟩⟩

/-- The tail starts where the head ended, and the states of both are passed through. -/
theorem triple_bind {f : α → Program Sg β} {Q : Trace Sg → β → σ → Prop} (hp : Triple step I P p R)
    (hf : ∀ t₁ a, Triple step I (R t₁ a) (f a) fun t₂ => Q (t₁ ++ t₂)) :
    Triple step I P (p >>= f) Q := by
  intro s t b hs hrun
  obtain ⟨u, a, v, rfl, hhead, htail⟩ := runs_bind.mp hrun
  obtain ⟨hmid, hend⟩ := hp s u a hs hhead
  constructor
  · intro t₁ t₂ mid hsplit hpath
    rcases List.append_eq_append_iff.mp hsplit with ⟨w, rfl, rfl⟩ | ⟨w, rfl, rfl⟩
    · -- the split is in the tail
      obtain ⟨s₁, hfirst, hrest⟩ := path_append.mp hpath
      exact (hf u a s₁ _ b (hend s₁ hfirst) htail).1 w t₂ mid rfl hrest
    · exact hmid t₁ w mid rfl hpath
  · intro s' hpath
    obtain ⟨s₁, hfirst, hrest⟩ := path_append.mp hpath
    exact (hf u a s₁ v b (hend s₁ hfirst) htail).2 s' hrest

/-- Events that keep the precondition. -/
theorem triple_keeps (hp : Every (Keeps step P) p) (hI : ∀ s, P s → I s) :
    Triple step I P p fun t a s => p.Runs t a ∧ P s := by
  intro s t a hs hrun
  have hkeep := hp t a hrun
  constructor
  · rintro t₁ t₂ mid rfl hpath
    exact hI mid (hpath.invariant (fun event hmem => hkeep event (List.mem_append_left t₂ hmem)) hs)
  · exact fun s' hpath => ⟨hrun, hpath.invariant hkeep hs⟩

end Rules

end Program

open Program

namespace Fallible

variable {Q : Trace Sg → Except ε β → σ → Prop}

/-- The tail runs after a head that succeeded. -/
theorem triple_bind {x : Fallible Sg ε α} {f : α → Fallible Sg ε β}
    {R : Trace Sg → Except ε α → σ → Prop} (hx : Triple step I P x.run R)
    (herror : ∀ t e s, R t (.error e) s → I s ∧ Q t (.error e) s)
    (hok : ∀ t₁ a, Triple step I (R t₁ (.ok a)) (f a).run fun t₂ => Q (t₁ ++ t₂)) :
    Triple step I P (x >>= f).run Q := by
  rw [ExceptT.run_bind]
  refine Program.triple_bind hx ?_
  rintro t₁ (e | a)
  · refine triple_pure (fun s hs => (herror t₁ e s hs).1) fun s hs => ?_
    rw [List.append_nil]
    exact (herror t₁ e s hs).2
  · exact hok t₁ a

/-- A head whose events keep the precondition. -/
theorem triple_keeps_bind {x : Fallible Sg ε α} {f : α → Fallible Sg ε β}
    (hx : Every (Keeps step P) x.run) (hI : ∀ s, P s → I s)
    (herror : ∀ t e s, P s → Q t (.error e) s)
    (hok : ∀ t₁ a, x.run.Runs t₁ (.ok a) →
      Triple step I P (f a).run fun t₂ => Q (t₁ ++ t₂)) :
    Triple step I P (x >>= f).run Q := by
  refine triple_bind (triple_keeps hx hI) (fun t e s hs => ?_) fun t₁ a => ?_
  · exact ⟨hI s hs.2, herror t e s hs.2⟩
  · intro s t₂ r hs
    exact hok t₁ a hs.1 s t₂ r hs.2

theorem triple_except_bind {x : Except ε α} {f : α → Fallible Sg ε β} (hI : ∀ s, P s → I s)
    (herror : ∀ e, x = .error e → ∀ s, P s → Q [] (.error e) s)
    (hok : ∀ a, x = .ok a → Triple step I P (f a).run Q) :
    Triple step I P ((liftM x : Fallible Sg ε α) >>= f).run Q := by
  cases x with
  | error e => exact triple_pure hI (herror e rfl)
  | ok a => exact hok a rfl

theorem triple_throw {e : ε} (hI : ∀ s, P s → I s) (hQ : ∀ s, P s → Q [] (.error e) s) :
    Triple step I P (throw e : Fallible Sg ε β).run Q :=
  triple_pure hI hQ

/-- A query, then what the program does with the reply. -/
theorem triple_ask_bind {q : Sg.Query} {f : Sg.Reply q → Fallible Sg ε β}
    {R : Sg.Reply q → σ → Prop} (hI : ∀ s, P s → I s)
    (hstep : ∀ s r s', P s → step s ⟨q, r⟩ s' → I s' ∧ R r s')
    (hf : ∀ r, Triple step I (R r) (f r).run fun t => Q (⟨q, r⟩ :: t)) :
    Triple step I P ((liftM (Program.ask q) : Fallible Sg ε (Sg.Reply q)) >>= f).run Q := by
  have hask : Triple step I P (Program.ask q) fun t r s => t = [⟨q, r⟩] ∧ R r s := by
    refine triple_ask hI fun s r s' hs h => ?_
    obtain ⟨hmid, hR⟩ := hstep s r s' hs h
    exact ⟨hmid, rfl, hR⟩
  refine Program.triple_bind (f := fun r => (f r).run) hask fun t₁ r => ?_
  intro s t a hs hrun
  obtain ⟨rfl, hR⟩ := hs
  exact hf r s t a hR hrun

/-- The tail gets the outcome of the head, a failure included. -/
theorem triple_outcome_bind {x : Fallible Sg ε α} {f : Except ε α → Fallible Sg ε β}
    {R : Trace Sg → Except ε α → σ → Prop} (hx : Triple step I P x.run R)
    (hf : ∀ t₁ r, Triple step I (R t₁ r) (f r).run fun t₂ => Q (t₁ ++ t₂)) :
    Triple step I P (outcome x >>= f).run Q := by
  have hbind : (outcome x >>= f).run = x.run >>= fun r => (f r).run := by
    change (x.run >>= fun r => pure (Except.ok r)) >>= _ = _
    rw [bind_assoc]
    rfl
  rw [hbind]
  exact Program.triple_bind hx hf

/-! ## One state at a time -/

/-- **`Ends step s x Q`** — run in a world at `s`, the program ends in `Q`. -/
def Ends (step : σ → Event Sg → σ → Prop) (s : σ) (x : Fallible Sg ε α)
    (Q : Except ε α → σ → Prop) : Prop :=
  ∀ t r s', x.run.Runs t r → Path step s t s' → Q r s'

section Ends

variable {s : σ} {Q : Except ε β → σ → Prop}

theorem Ends.mono {x : Fallible Sg ε β} {R : Except ε β → σ → Prop} (h : Ends step s x R)
    (hQ : ∀ r s', R r s' → Q r s') : Ends step s x Q :=
  fun t r s' hrun hpath => hQ r s' (h t r s' hrun hpath)

theorem ends_pure {b : β} (h : Q (.ok b) s) : Ends step s (pure b : Fallible Sg ε β) Q := by
  rintro t r s' ⟨rfl, rfl⟩ hpath
  cases hpath
  exact h

theorem ends_throw {e : ε} (h : Q (.error e) s) : Ends step s (throw e : Fallible Sg ε β) Q := by
  rintro t r s' ⟨rfl, rfl⟩ hpath
  cases hpath
  exact h

theorem ends_except {x : Except ε β} (h : Q x s) :
    Ends step s (liftM x : Fallible Sg ε β) Q := by
  rintro t r s' ⟨rfl, rfl⟩ hpath
  cases hpath
  exact h

/-- A query, then the program goes on from where the reply leaves the world. -/
theorem ends_ask_bind {q : Sg.Query} {f : Sg.Reply q → Fallible Sg ε β}
    (h : ∀ reply s', step s ⟨q, reply⟩ s' → Ends step s' (f reply) Q) :
    Ends step s ((liftM (Program.ask q) : Fallible Sg ε (Sg.Reply q)) >>= f) Q := by
  intro t r s' hrun hpath
  rcases runs_bind.mp hrun with ⟨t₁, reply, t₂, rfl, hask, htail⟩ | ⟨e, hask, -⟩
  · obtain ⟨reply', hreply, hsame⟩ := runs_lift.mp hask
    cases hsame
    rw [Program.runs_ask] at hreply
    subst hreply
    obtain ⟨mid, hstep, hrest⟩ := hpath
    exact h reply mid hstep t₂ r s' htail hrest
  · obtain ⟨reply, -, hsame⟩ := runs_lift.mp hask
    cases hsame

theorem ends_except_bind {x : Except ε α} {f : α → Fallible Sg ε β}
    (herror : ∀ e, x = .error e → Q (.error e) s) (hok : ∀ a, x = .ok a → Ends step s (f a) Q) :
    Ends step s ((liftM x : Fallible Sg ε α) >>= f) Q := by
  cases x with
  | error e => exact ends_throw (herror e rfl)
  | ok a => exact hok a rfl

theorem ends_bind {x : Fallible Sg ε α} {f : α → Fallible Sg ε β} {R : Except ε α → σ → Prop}
    (hx : Ends step s x R) (herror : ∀ e s', R (.error e) s' → Q (.error e) s')
    (hok : ∀ a s', R (.ok a) s' → Ends step s' (f a) Q) : Ends step s (x >>= f) Q := by
  intro t r s' hrun hpath
  rcases runs_bind.mp hrun with ⟨t₁, a, t₂, rfl, hhead, htail⟩ | ⟨e, hhead, rfl⟩
  · obtain ⟨mid, hfirst, hrest⟩ := path_append.mp hpath
    exact hok a mid (hx t₁ _ mid hhead hfirst) t₂ r s' htail hrest
  · exact herror e s' (hx t _ s' hhead hpath)

/-- The tail gets the result of the head, a failure included; the two may fail in different ways. -/
theorem ends_run_bind {δ : Type} {x : Fallible Sg δ α} {f : Except δ α → Fallible Sg ε β}
    {R : Except δ α → σ → Prop} (hx : Ends step s x R)
    (hf : ∀ r s', R r s' → Ends step s' (f r) Q) :
    Ends step s ((liftM x.run : Fallible Sg ε (Except δ α)) >>= f) Q := by
  refine ends_bind (R := fun r s' => ∃ r', r = .ok r' ∧ R r' s') ?_ ?_ ?_
  · intro t r s' hrun hpath
    obtain ⟨r', hx', rfl⟩ := runs_lift.mp hrun
    exact ⟨r', rfl, hx t r' s' hx' hpath⟩
  · rintro e s' ⟨r', h, -⟩
    cases h
  · rintro r s' ⟨r', h, hR⟩
    cases h
    exact hf r s' hR

end Ends

end Fallible

namespace Mutating

variable {Q : Trace Sg → Except ε β × τ → σ → Prop} {cell : τ}

theorem triple_except_bind {x : Except ε α} {f : α → Mutating Sg τ ε β} (hI : ∀ s, P s → I s)
    (herror : ∀ e, x = .error e → ∀ s, P s → Q [] (.error e, cell) s)
    (hok : ∀ a, x = .ok a → Triple step I P (StateT.run (f a).run cell) Q) :
    Triple step I P (StateT.run ((liftM x : Mutating Sg τ ε α) >>= f).run cell) Q := by
  cases x with
  | error e => exact triple_pure hI (herror e rfl)
  | ok a => exact hok a rfl

/-! ## Cells -/

/-- **`Leaves x s Q`** — called on a cell holding `s`, the program ends in `Q`. -/
def Leaves (x : Mutating Sg τ ε α) (s : τ) (Q : Except ε α → τ → Prop) : Prop :=
  ∀ t r s', x.Runs s t r s' → Q r s'

section Leaves

variable {s : τ} {Q : Except ε β → τ → Prop}

theorem Leaves.mono {x : Mutating Sg τ ε β} {R : Except ε β → τ → Prop} (h : Leaves x s R)
    (hQ : ∀ r s', R r s' → Q r s') : Leaves x s Q :=
  fun t r s' hrun => hQ r s' (h t r s' hrun)

theorem leaves_pure {b : β} (h : Q (.ok b) s) : Leaves (pure b : Mutating Sg τ ε β) s Q := by
  intro t r s' hrun
  obtain ⟨-, rfl, rfl⟩ := runs_pure.mp hrun
  exact h

theorem leaves_throw {e : ε} (h : Q (.error e) s) : Leaves (throw e : Mutating Sg τ ε β) s Q := by
  intro t r s' hrun
  obtain ⟨-, rfl, rfl⟩ := runs_throw.mp hrun
  exact h

theorem leaves_except {x : Except ε β} (h : Q x s) :
    Leaves (liftM x : Mutating Sg τ ε β) s Q := by
  intro t r s' hrun
  obtain ⟨-, rfl, rfl⟩ := runs_except.mp hrun
  exact h

theorem leaves_get_bind {f : τ → Mutating Sg τ ε β} (h : Leaves (f s) s Q) :
    Leaves (get >>= f : Mutating Sg τ ε β) s Q := h

theorem leaves_set_bind {value : τ} {f : PUnit → Mutating Sg τ ε β} (h : Leaves (f ⟨⟩) value Q) :
    Leaves (set value >>= f : Mutating Sg τ ε β) s Q := h

theorem leaves_except_bind {x : Except ε α} {f : α → Mutating Sg τ ε β}
    (herror : ∀ e, x = .error e → Q (.error e) s) (hok : ∀ a, x = .ok a → Leaves (f a) s Q) :
    Leaves ((liftM x : Mutating Sg τ ε α) >>= f) s Q := by
  cases x with
  | error e =>
      rintro t r s' ⟨-, h⟩
      cases h
      exact herror e rfl
  | ok a => exact hok a rfl

theorem leaves_bind {x : Mutating Sg τ ε α} {f : α → Mutating Sg τ ε β}
    {R : Except ε α → τ → Prop} (hx : Leaves x s R)
    (herror : ∀ e s', R (.error e) s' → Q (.error e) s')
    (hok : ∀ a s', R (.ok a) s' → Leaves (f a) s' Q) : Leaves (x >>= f) s Q := by
  intro t r s' hrun
  rcases runs_bind.mp hrun with ⟨t₁, a, s₁, t₂, rfl, hhead, htail⟩ | ⟨e, hhead, rfl⟩
  · exact hok a s₁ (hx t₁ _ s₁ hhead) t₂ r s' htail
  · exact herror e s' (hx t _ s' hhead)

end Leaves

/-- **`Within R x`** — every call of the program relates the old value of the cell to the new. -/
def Within (R : τ → τ → Prop) (x : Mutating Sg τ ε α) : Prop :=
  ∀ s, Leaves x s fun _ s' => R s s'

section Within

variable {R : τ → τ → Prop}

theorem within_get_bind {f : τ → Mutating Sg τ ε β} (hf : ∀ value, Within R (f value)) :
    Within R (get >>= f : Mutating Sg τ ε β) :=
  fun s => leaves_get_bind (hf s s)

/-- A head that stays in `R`, then a tail that starts anywhere it may end. -/
theorem Within.leaves_bind {x : Mutating Sg τ ε α} {f : α → Mutating Sg τ ε β} {s : τ}
    {Q : Except ε β → τ → Prop} (hx : Within R x) (herror : ∀ e s', R s s' → Q (.error e) s')
    (hok : ∀ a s', R s s' → Leaves (f a) s' Q) : Leaves (x >>= f) s Q :=
  Mutating.leaves_bind (hx s) herror hok

/-- A postcondition about the first value of the cell that steps in `R` may precede. -/
theorem Within.leaves_then {x : Mutating Sg τ ε α} {f : α → Mutating Sg τ ε β}
    {Q : τ → Except ε β → τ → Prop} (hx : Within R x)
    (hQ : ∀ s s₁ r s', R s s₁ → Q s₁ r s' → Q s r s')
    (herror : ∀ s e s', R s s' → Q s (.error e) s')
    (hok : ∀ a s, Leaves (f a) s (Q s)) (s : τ) : Leaves (x >>= f) s (Q s) := by
  refine hx.leaves_bind (fun e s' h => herror s e s' h) fun a s₁ h => ?_
  exact (hok a s₁).mono fun r s' => hQ s s₁ r s' h

variable [IsPreorder τ R]

theorem within_pure (a : α) : Within R (pure a : Mutating Sg τ ε α) :=
  fun s => leaves_pure (refl_of R s)

theorem within_throw (e : ε) : Within R (throw e : Mutating Sg τ ε α) :=
  fun s => leaves_throw (refl_of R s)

theorem within_except (x : Except ε α) : Within R (liftM x : Mutating Sg τ ε α) :=
  fun s => leaves_except (refl_of R s)

theorem within_lift (x : Fallible Sg ε α) : Within R (liftM x : Mutating Sg τ ε α) := by
  intro s t r s' hrun
  obtain ⟨-, rfl⟩ := runs_lift.mp hrun
  exact refl_of R s'

theorem within_bind {x : Mutating Sg τ ε α} {f : α → Mutating Sg τ ε β} (hx : Within R x)
    (hf : ∀ a, Within R (f a)) : Within R (x >>= f) := by
  intro s
  refine leaves_bind (hx s) (fun _ _ h => h) fun a s₁ h => ?_
  exact (hf a s₁).mono fun _ _ h' => trans_of R h h'

end Within

end Mutating

end Interact
