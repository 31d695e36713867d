/-
# FidoKeyWrap.Lib.Causes — which events an error is to blame on.

Some events carry causes of failure: a callback that raised, a prompt that was refused. `Heard hears t
ks` collects them along a trace, and `Hears hears p R` is the rule of a program over what it heard.
`Causal blame ks r` ties a result to the causes: no cause, and no error that stands for one; a single
cause, and exactly its error; or causes that one error of the program masks. A program that is causal
cannot swallow a cause, invent one, or report another than the one that stopped it.
-/
import FidoKeyWrap.Lib.Failure
import FidoKeyWrap.Lib.Path

namespace Interact

variable {Sg : Signature} {κ ε α β τ : Type} {hears : Event Sg → List κ → Prop} {ks u : List κ}

/-! ## What a trace carries -/

/-- **`Heard hears t ks`** — the causes of the events, oldest first. -/
def Heard (hears : Event Sg → List κ → Prop) : Trace Sg → List κ → Prop
  | [], ks => ks = []
  | event :: t, ks => ∃ u v, ks = u ++ v ∧ hears event u ∧ Heard hears t v

theorem heard_append {t t' : Trace Sg} :
    Heard hears (t ++ t') ks ↔ ∃ u v, ks = u ++ v ∧ Heard hears t u ∧ Heard hears t' v := by
  induction t generalizing ks with
  | nil =>
      constructor
      · exact fun h => ⟨[], ks, rfl, rfl, h⟩
      · rintro ⟨u, v, rfl, rfl, h⟩
        exact h
  | cons event t ih =>
      constructor
      · rintro ⟨u, v, rfl, hevent, hrest⟩
        obtain ⟨v₁, v₂, rfl, hfirst, hsecond⟩ := ih.mp hrest
        exact ⟨u ++ v₁, v₂, (List.append_assoc u v₁ v₂).symm, ⟨u, v₁, rfl, hevent, hfirst⟩, hsecond⟩
      · rintro ⟨_, v₂, rfl, ⟨u, v₁, rfl, hevent, hfirst⟩, hsecond⟩
        exact ⟨u, v₁ ++ v₂, List.append_assoc u v₁ v₂, hevent, ih.mpr ⟨v₁, v₂, rfl, hfirst, hsecond⟩⟩

theorem heard_singleton {event : Event Sg} : Heard hears [event] ks ↔ hears event ks := by
  constructor
  · rintro ⟨u, v, rfl, hevent, rfl⟩
    rwa [List.append_nil]
  · exact fun h => ⟨ks, [], (List.append_nil ks).symm, h, rfl⟩

/-- Silent events carry nothing. -/
theorem Heard.eq_nil {t : Trace Sg} (h : Heard hears t ks)
    (hsilent : ∀ event ∈ t, ∀ u, hears event u → u = []) : ks = [] := by
  induction t generalizing ks with
  | nil => exact h
  | cons event t ih =>
      obtain ⟨u, v, rfl, hevent, hrest⟩ := h
      rw [hsilent event List.mem_cons_self u hevent,
        ih hrest fun e he => hsilent e (List.mem_cons_of_mem event he)]
      rfl

/-- A world that says at every step what was heard, says it of a path. -/
theorem Path.exists_heard {σ : Type} {step : σ → Event Sg → σ → Prop} {s s' : σ} {t : Trace Sg}
    (hpath : Path step s t s') (h : ∀ s event s', step s event s' → ∃ u, hears event u) :
    ∃ ks, Heard hears t ks := by
  induction t generalizing s with
  | nil => exact ⟨[], rfl⟩
  | cons event t ih =>
      obtain ⟨mid, hstep, hrest⟩ := hpath
      obtain ⟨u, hevent⟩ := h s event mid hstep
      obtain ⟨v, hheard⟩ := ih hrest
      exact ⟨u ++ v, u, v, rfl, hevent, hheard⟩

namespace Program

/-- An execution was heard if every reply of its environment is. -/
theorem exists_heard_of_exec? {env : Trace Sg → (q : Sg.Query) → Option (Sg.Reply q)}
    {p : Program Sg α} {past t : Trace Sg} {a : α} (h : p.exec? env past = some (t, a))
    (henv : ∀ past q r, env past q = some r → ∃ u, hears ⟨q, r⟩ u) : ∃ ks, Heard hears t ks := by
  let nowhere : Trace Sg → Unit := fun _ => ()
  have hpath : Path (fun _ event _ => ∃ u, hears event u) (nowhere past) t (nowhere (past ++ t)) :=
    path_of_exec? henv h
  exact hpath.exists_heard fun _ _ _ hevent => hevent

/-- **`Hears hears p R`** — whatever the program heard and returned is in `R`. -/
def Hears (hears : Event Sg → List κ → Prop) (p : Program Sg α) (R : List κ → α → Prop) : Prop :=
  ∀ t a ks, p.Runs t a → Heard hears t ks → R ks a

variable {R : List κ → α → Prop} {Q : List κ → β → Prop}

theorem hears_pure {a : α} (h : R [] a) : Hears hears (pure a : Program Sg α) R := by
  rintro t b ks hrun hheard
  obtain ⟨rfl, rfl⟩ := runs_pure.mp hrun
  obtain rfl := hheard
  exact h

theorem hears_ask {q : Sg.Query} {R : List κ → Sg.Reply q → Prop}
    (h : ∀ u r, hears ⟨q, r⟩ u → R u r) : Hears hears (ask q) R := by
  intro t r ks hrun hheard
  rw [runs_ask] at hrun
  subst hrun
  exact h ks r (heard_singleton.mp hheard)

/-- The tail adds to what the head heard. -/
theorem hears_bind {p : Program Sg α} {f : α → Program Sg β} (hp : Hears hears p R)
    (hf : ∀ u a, R u a → Hears hears (f a) fun v b => Q (u ++ v) b) :
    Hears hears (p >>= f) Q := by
  intro t b ks hrun hheard
  obtain ⟨t₁, a, t₂, rfl, hhead, htail⟩ := runs_bind.mp hrun
  obtain ⟨u, v, rfl, hu, hv⟩ := heard_append.mp hheard
  exact hf u a (hp t₁ a u hhead hu) t₂ b v htail hv

theorem Hears.mono {R' : List κ → α → Prop} {p : Program Sg α} (h : Hears hears p R)
    (hR : ∀ u a, R u a → R' u a) : Hears hears p R' :=
  fun t a ks hrun hheard => hR ks a (h t a ks hrun hheard)

/-- A program of silent events hears nothing. -/
theorem hears_of_every {p : Program Sg α}
    (h : Every (fun event => ∀ u, hears event u → u = []) p) :
    Hears hears p fun u _ => u = [] :=
  fun t a _ hrun hheard => hheard.eq_nil (h t a hrun)

end Program

/-! ## Results and their causes -/

/-- The errors that stand for causes, and the one that masks them. -/
structure Blame (κ ε : Type) where
  error : κ → ε
  masked : ε

/-- **`Causal blame ks r`** — the result follows from the causes. -/
inductive Causal (blame : Blame κ ε) : List κ → Except ε α → Prop
  | through {r : Except ε α} : (∀ k, r ≠ .error (blame.error k)) → Causal blame [] r
  | stopped (k : κ) : Causal blame [k] (.error (blame.error k))
  | masked (ks : List κ) : ks ≠ [] → Causal blame ks (.error blame.masked)

/-- The error stands for no cause. -/
def Blame.Innocent (blame : Blame κ ε) (e : ε) : Prop := ∀ k, e ≠ blame.error k

section Causal

variable {blame : Blame κ ε}

theorem causal_ok {a : α} : Causal blame [] (.ok a : Except ε α) := by
  refine .through fun k h => ?_
  cases h

/-- A success heard nothing. -/
theorem Causal.nil_of_ok {a : α} (h : Causal blame ks (.ok a : Except ε α)) : ks = [] := by
  cases h
  rfl

theorem causal_of_errors {x : Except ε α} (h : Errors x blame.Innocent) : Causal blame [] x :=
  .through fun k hx => h _ hx k rfl

/-- An error is causal at every type. -/
theorem Causal.error {e : ε} (h : Causal blame ks (.error e : Except ε α)) :
    Causal blame ks (.error e : Except ε β) := by
  cases h with
  | through hr => exact .through fun k hk => hr k (congrArg Except.error (Except.error.inj hk))
  | stopped k => exact .stopped k
  | masked ks hks => exact .masked ks hks

/-- The masking error is causal whatever was heard. -/
theorem causal_masked (hmasked : blame.Innocent blame.masked) (ks : List κ) :
    Causal blame ks (.error blame.masked : Except ε α) := by
  cases ks with
  | nil => exact .through fun k hk => hmasked k (Except.error.inj hk)
  | cons k ks => exact .masked _ (List.cons_ne_nil k ks)

theorem Causal.map {f : α → β} {r : Except ε α} (h : Causal blame ks r) :
    Causal blame ks (r.map f) := by
  cases r with
  | ok a =>
      rw [h.nil_of_ok]
      exact causal_ok
  | error e => exact h.error

end Causal

/-! ## Causal programs -/

namespace Fallible

/-- **`CausesFrom hears blame u x`** — after the causes `u`, the program ends as all its causes say. -/
def CausesFrom (hears : Event Sg → List κ → Prop) (blame : Blame κ ε) (u : List κ)
    (x : Fallible Sg ε α) : Prop :=
  Program.Hears hears x.run fun v r => Causal blame (u ++ v) r

/-- **`Causes hears blame x`** — the program ends as its causes say. -/
abbrev Causes (hears : Event Sg → List κ → Prop) (blame : Blame κ ε) (x : Fallible Sg ε α) : Prop :=
  CausesFrom hears blame [] x

variable {blame : Blame κ ε}

theorem causesFrom_except {x : Except ε α} (h : Causal blame u x) :
    CausesFrom hears blame u (liftM x : Fallible Sg ε α) :=
  Program.hears_pure (by rwa [List.append_nil])

theorem causes_pure (a : α) : Causes hears blame (pure a : Fallible Sg ε α) :=
  causesFrom_except (x := .ok a) causal_ok

theorem causesFrom_throw {e : ε} (h : Causal blame u (.error e : Except ε α)) :
    CausesFrom hears blame u (throw e : Fallible Sg ε α) :=
  causesFrom_except (x := .error e) h

/-- The tail runs only when the head heard nothing. -/
theorem causes_bind {x : Fallible Sg ε α} {f : α → Fallible Sg ε β} (hx : Causes hears blame x)
    (hf : ∀ a, Causes hears blame (f a)) : Causes hears blame (x >>= f) := by
  change Program.Hears hears (x >>= f).run _
  rw [ExceptT.run_bind]
  refine Program.hears_bind hx fun v r hcausal => ?_
  cases r with
  | error e => exact Program.hears_pure (by simpa using hcausal.error)
  | ok a =>
      obtain rfl : v = [] := hcausal.nil_of_ok
      exact hf a

theorem causes_except_bind {x : Except ε α} {f : α → Fallible Sg ε β}
    (hx : Errors x blame.Innocent) (hf : ∀ a, x = .ok a → Causes hears blame (f a)) :
    Causes hears blame ((liftM x : Fallible Sg ε α) >>= f) := by
  cases x with
  | error e => exact causesFrom_throw (causal_of_errors (errors_throw (hx e rfl)))
  | ok a => exact hf a rfl

/-- What goes on knows what was heard. -/
theorem causesFrom_lift_bind {p : Program Sg α} {f : α → Fallible Sg ε β} {R : List κ → α → Prop}
    (hp : Program.Hears hears p R) (hf : ∀ v a, R v a → CausesFrom hears blame (u ++ v) (f a)) :
    CausesFrom hears blame u ((liftM p : Fallible Sg ε α) >>= f) := by
  have hlift : ((liftM p : Fallible Sg ε α) >>= f).run = p >>= fun a => (f a).run := by
    change (p >>= fun a => pure (Except.ok a)) >>= _ = _
    rw [bind_assoc]
    rfl
  change Program.Hears hears ((liftM p : Fallible Sg ε α) >>= f).run _
  rw [hlift]
  refine Program.hears_bind hp fun v a hR => (hf v a hR).mono fun w r h => ?_
  rwa [← List.append_assoc]

/-- A query that carries no cause. -/
theorem causes_quiet_bind {q : Sg.Query} {f : Sg.Reply q → Fallible Sg ε β}
    (hq : ∀ u r, hears ⟨q, r⟩ u → u = []) (hf : ∀ r, Causes hears blame (f r)) :
    Causes hears blame ((liftM (Program.ask q) : Fallible Sg ε (Sg.Reply q)) >>= f) := by
  refine causesFrom_lift_bind (Program.hears_ask (R := fun u _ => u = []) hq) ?_
  rintro _ r rfl
  exact hf r

/-- A query whose reply has a causal result. -/
theorem causes_answer {q : Sg.Query} {result : Sg.Reply q → Except ε α}
    (hq : ∀ u r, hears ⟨q, r⟩ u → Causal blame u (result r)) :
    Causes hears blame ((liftM (Program.ask q) : Fallible Sg ε (Sg.Reply q)) >>=
      fun r => (liftM (result r) : Fallible Sg ε α)) :=
  causesFrom_lift_bind (Program.hears_ask (R := fun u r => Causal blame u (result r)) hq)
    fun _ _ h => causesFrom_except h

theorem causes_answer_bind {q : Sg.Query} {result : Sg.Reply q → Except ε α}
    {f : α → Fallible Sg ε β} (hq : ∀ u r, hears ⟨q, r⟩ u → Causal blame u (result r))
    (hf : ∀ a, Causes hears blame (f a)) :
    Causes hears blame ((liftM (Program.ask q) : Fallible Sg ε (Sg.Reply q)) >>=
      fun r => (liftM (result r) : Fallible Sg ε α) >>= f) := by
  rw [← bind_assoc]
  exact causes_bind (causes_answer hq) hf

/-- A failure that goes on as a value takes its causes along. -/
theorem causes_outcome_bind {x : Fallible Sg ε α} {f : Except ε α → Fallible Sg ε β}
    (hx : Causes hears blame x) (hok : ∀ a, Causes hears blame (f (.ok a)))
    (herror : ∀ u e, Causal blame u (.error e : Except ε β) →
      CausesFrom hears blame u (f (.error e))) :
    Causes hears blame (outcome x >>= f) := by
  refine causesFrom_lift_bind hx fun v r hcausal => ?_
  cases r with
  | error e => exact herror _ e (by simpa using hcausal.error)
  | ok a =>
      obtain rfl : v = [] := hcausal.nil_of_ok
      exact hok a

/-- The search of fresh values. -/
theorem causes_attempts {draw : Fallible Sg ε α} {accept : α → Bool} {exhausted : ε}
    (hdraw : Causes hears blame draw) (hexhausted : blame.Innocent exhausted) (n : Nat) :
    Causes hears blame (attempts draw accept exhausted n) := by
  induction n with
  | zero => exact causesFrom_throw (causal_of_errors (errors_throw hexhausted))
  | succ n ih =>
      refine causes_bind hdraw fun a => ?_
      split
      · exact causes_pure a
      · exact ih

end Fallible

namespace Mutating

variable {blame : Blame κ ε}

/-- **`Causes hears blame x`** — called on any cell, the program ends as its causes say. -/
def Causes (hears : Event Sg → List κ → Prop) (blame : Blame κ ε) (x : Mutating Sg τ ε α) : Prop :=
  ∀ t s r s' ks, x.Runs s t r s' → Heard hears t ks → Causal blame ks r

theorem causes_get_bind {f : τ → Mutating Sg τ ε β} (hf : ∀ value, Causes hears blame (f value)) :
    Causes hears blame (get >>= f : Mutating Sg τ ε β) :=
  fun t s r s' ks hrun => hf s t s r s' ks (runs_get_bind.mp hrun)

theorem causes_except_bind {x : Except ε α} {f : α → Mutating Sg τ ε β}
    (hx : Errors x blame.Innocent) (hf : ∀ a, x = .ok a → Causes hears blame (f a)) :
    Causes hears blame ((liftM x : Mutating Sg τ ε α) >>= f) := by
  intro t s r s' ks hrun hheard
  rcases runs_except_bind.mp hrun with ⟨a, hok, hrest⟩ | ⟨e, herror, rfl, rfl, rfl⟩
  · exact hf a hok t s r s' ks hrest hheard
  · obtain rfl := hheard
    exact causal_of_errors (errors_throw (hx e herror))

theorem causes_lift_bind {x : Fallible Sg ε α} {f : α → Mutating Sg τ ε β}
    (hx : Fallible.Causes hears blame x) (hf : ∀ a, Causes hears blame (f a)) :
    Causes hears blame ((liftM x : Mutating Sg τ ε α) >>= f) := by
  intro t s r s' ks hrun hheard
  rcases runs_lift_bind.mp hrun with ⟨t₁, a, t₂, rfl, hhead, htail⟩ | ⟨e, hhead, rfl, rfl⟩
  · obtain ⟨u, v, rfl, hu, hv⟩ := heard_append.mp hheard
    obtain rfl : u = [] := (hx t₁ _ u hhead hu).nil_of_ok
    exact hf a t₂ s r s' v htail hv
  · exact (hx t _ ks hhead hheard).error

theorem causes_set_pure (value : τ) (a : α) :
    Causes hears blame (do set value; return a : Mutating Sg τ ε α) := by
  intro t s r s' ks hrun hheard
  obtain ⟨rfl, rfl, -⟩ := runs_pure.mp ((runs_set_bind (f := fun _ => pure a)).mp hrun)
  obtain rfl := hheard
  exact causal_ok

theorem causes_set (value : τ) : Causes hears blame (set value : Mutating Sg τ ε PUnit) := by
  intro t s r s' ks hrun hheard
  obtain ⟨rfl, rfl, -⟩ := runs_set.mp hrun
  obtain rfl := hheard
  exact causal_ok

end Mutating

end Interact
