/-
# FidoKeyWrap.Lib.Program — programs that ask their environment, their runs, and their executions.

A component that prompts a user, draws random bytes and talks to a device is a `Program`: a tree
that either returns or asks one query and continues with the reply. Nothing is assumed about the
environment. `Program.Runs p t a` says that `p` may return `a` after the trace `t` of queries and
replies, so a property of all runs holds of every user, random source and device, an adversarial
one included. `Program.exec env` is the one run an environment produces.

Three shapes of code sit on top. `Fallible` is a program that may fail; `Mutating` is a fallible
program over a cell its caller lent it, which keeps its value on failure because nothing rolls it
back; `attempts` is a bounded retry loop. Each has its bind rules, so that a proof about a run
takes a program apart one statement at a time. Two rules carry an argument through a whole program:
`Guards` (no loud query before a condition holds) and `Yields` (every run with cooperating replies
returns one value).
-/
import Mathlib.Tactic

namespace Interact

/-- What a program may ask, and the type of each reply. -/
structure Signature where
  Query : Type
  Reply : Query → Type

/-- A program over a signature: it returns, or asks and continues with the reply. -/
inductive Program (Sg : Signature) (α : Type) where
  | ret (value : α)
  | call (query : Sg.Query) (next : Sg.Reply query → Program Sg α)

/-- One query and the reply it got. -/
structure Event (Sg : Signature) where
  query : Sg.Query
  reply : Sg.Reply query

/-- The queries and replies of a run, oldest first. -/
abbrev Trace (Sg : Signature) := List (Event Sg)

variable {Sg : Signature} {α β ε σ : Type}

/-! ## Failing without asking -/

@[simp] theorem except_bind_eq_ok {x : Except ε α} {f : α → Except ε β} {b : β} :
    (x >>= f) = .ok b ↔ ∃ a, x = .ok a ∧ f a = .ok b := by
  cases x <;> simp [bind, Except.bind]

theorem except_bind_eq_error {x : Except ε α} {f : α → Except ε β} {e : ε} :
    (x >>= f) = .error e ↔ x = .error e ∨ ∃ a, x = .ok a ∧ f a = .error e := by
  cases x <;> simp [bind, Except.bind]

@[simp] theorem except_pure_eq_ok {a b : α} : (pure a : Except ε α) = .ok b ↔ b = a := by
  simp [pure, Except.pure, eq_comm]

@[simp] theorem except_mapError_eq_ok {δ : Type} {x : Except ε α} {f : ε → δ} {a : α} :
    x.mapError f = .ok a ↔ x = .ok a := by
  cases x <;> simp [Except.mapError]

theorem except_mapError_eq_error {δ : Type} {x : Except ε α} {f : ε → δ} {d : δ} :
    x.mapError f = .error d ↔ ∃ e, x = .error e ∧ f e = d := by
  cases x <;> simp [Except.mapError]

/-- `option.ok_or(error)`. -/
def okOr (option : Option α) (error : ε) : Except ε α :=
  match option with
  | some a => .ok a
  | none => .error error

@[simp] theorem okOr_eq_ok {option : Option α} {error : ε} {a : α} :
    okOr option error = .ok a ↔ option = some a := by
  cases option <;> simp [okOr]

theorem okOr_eq_error {option : Option α} {error e : ε} :
    okOr option error = .error e ↔ option = none ∧ error = e := by
  cases option <;> simp [okOr]

/-- `if !condition { return Err(error) }`. -/
def require (condition : Prop) [Decidable condition] (error : ε) : Except ε Unit :=
  if condition then .ok () else .error error

@[simp] theorem require_eq_ok {condition : Prop} [Decidable condition] {error : ε} {u : Unit} :
    require condition error = .ok u ↔ condition := by
  unfold require
  split <;> simp_all

theorem require_eq_error {condition : Prop} [Decidable condition] {error e : ε} :
    require condition error = .error e ↔ ¬ condition ∧ error = e := by
  unfold require
  split <;> simp_all

theorem require_of {condition : Prop} [Decidable condition] {error : ε} (h : condition) :
    require condition error = .ok () :=
  require_eq_ok.mpr h

namespace Program

/-! ## The monad -/

/-- Continue every return of `p` with `f`. -/
def bind : Program Sg α → (α → Program Sg β) → Program Sg β
  | ret a, f => f a
  | call q k, f => call q fun r => bind (k r) f

instance : Monad (Program Sg) where
  pure := ret
  bind := bind

theorem bind_ret (p : Program Sg α) : bind p ret = p := by
  induction p with
  | ret a => rfl
  | call q k ih => simp [bind, ih]

theorem bind_bind {γ : Type} (p : Program Sg α) (f : α → Program Sg β) (g : β → Program Sg γ) :
    bind (bind p f) g = bind p fun a => bind (f a) g := by
  induction p with
  | ret a => rfl
  | call q k ih => simp [bind, ih]

instance : LawfulMonad (Program Sg) :=
  LawfulMonad.mk' (m := Program Sg)
    (fun p => bind_ret p) (fun _ _ => rfl) (fun p f g => bind_bind p f g)

/-- Ask one query. -/
def ask (q : Sg.Query) : Program Sg (Sg.Reply q) := call q ret

/-! ## Runs -/

/-- `p.Runs t a`: `p` returns `a` when its queries get the replies of `t`. -/
def Runs : Program Sg α → Trace Sg → α → Prop
  | ret a, t, b => t = [] ∧ b = a
  | call q k, t, b => ∃ r t', t = ⟨q, r⟩ :: t' ∧ (k r).Runs t' b

@[simp] theorem runs_pure {a b : α} {t : Trace Sg} :
    (pure a : Program Sg α).Runs t b ↔ t = [] ∧ b = a := Iff.rfl

@[simp] theorem runs_ask {q : Sg.Query} {t : Trace Sg} {r : Sg.Reply q} :
    (ask q).Runs t r ↔ t = [⟨q, r⟩] := by
  constructor
  · rintro ⟨r', t', rfl, rfl, rfl⟩
    rfl
  · rintro rfl
    exact ⟨r, [], rfl, rfl, rfl⟩

/-- **The bind rule**: a run of a sequence is a run of its head followed by one of its tail. -/
theorem runs_bind {p : Program Sg α} {f : α → Program Sg β} {t : Trace Sg} {b : β} :
    (p >>= f).Runs t b ↔ ∃ t₁ a t₂, t = t₁ ++ t₂ ∧ p.Runs t₁ a ∧ (f a).Runs t₂ b := by
  change (bind p f).Runs t b ↔ _
  induction p generalizing t with
  | ret a =>
      constructor
      · intro h
        exact ⟨[], a, t, rfl, ⟨rfl, rfl⟩, h⟩
      · rintro ⟨t₁, a', t₂, rfl, ⟨rfl, rfl⟩, h⟩
        exact h
  | call q k ih =>
      constructor
      · rintro ⟨r, t', rfl, h⟩
        obtain ⟨t₁, a, t₂, rfl, hp, hf⟩ := (ih r).mp h
        exact ⟨⟨q, r⟩ :: t₁, a, t₂, rfl, ⟨r, t₁, rfl, hp⟩, hf⟩
      · rintro ⟨t₁, a, t₂, rfl, ⟨r, t', rfl, hp⟩, hf⟩
        exact ⟨r, t' ++ t₂, rfl, (ih r).mpr ⟨t', a, t₂, rfl, hp, hf⟩⟩

/-- A program reads no more replies than it asks for: two runs that start one trace are one run. -/
theorem runs_unique {p : Program Sg α} {t t' s s' : Trace Sg} {a a' : α} (h : p.Runs t a)
    (h' : p.Runs t' a') (htrace : t ++ s = t' ++ s') : t = t' ∧ a = a' := by
  induction p generalizing t t' with
  | ret b =>
      obtain ⟨rfl, rfl⟩ := h
      obtain ⟨rfl, rfl⟩ := h'
      exact ⟨rfl, rfl⟩
  | call q k ih =>
      obtain ⟨r, u, rfl, h⟩ := h
      obtain ⟨r', u', rfl, h'⟩ := h'
      obtain ⟨hevent, htail⟩ := List.cons.inj htrace
      cases hevent
      obtain ⟨rfl, rfl⟩ := ih r h h' htail
      exact ⟨rfl, rfl⟩

/-! ## Executions -/

end Program

/-- A deterministic environment: a reply to every query, given the events so far. -/
abbrev Environment (Sg : Signature) := Trace Sg → (q : Sg.Query) → Sg.Reply q

namespace Program

/-- The run of a program in an environment, after the events `past`. -/
def exec (env : Environment Sg) : Program Sg α → Trace Sg → Trace Sg × α
  | ret a, _ => ([], a)
  | call q k, past =>
    let event : Event Sg := ⟨q, env past q⟩
    let rest := exec env (k event.reply) (past ++ [event])
    (event :: rest.1, rest.2)

/-- An execution is a run. -/
theorem exec_runs (env : Environment Sg) (p : Program Sg α) (past : Trace Sg) :
    p.Runs (p.exec env past).1 (p.exec env past).2 := by
  induction p generalizing past with
  | ret a => exact ⟨rfl, rfl⟩
  | call q k ih => exact ⟨env past q, _, rfl, ih (env past q) _⟩

theorem runs_of_exec {env : Environment Sg} {p : Program Sg α} {past : Trace Sg} {a : α}
    (h : (p.exec env past).2 = a) : p.Runs (p.exec env past).1 a :=
  h ▸ exec_runs env p past

/-- Every reply in an execution is one the environment gives. -/
theorem exec_reply {env : Environment Sg} {p : Program Sg α} {past : Trace Sg} {event : Event Sg}
    (h : event ∈ (p.exec env past).1) : ∃ seen, event.reply = env seen event.query := by
  induction p generalizing past with
  | ret a => cases h
  | call q k ih =>
      rcases List.mem_cons.mp h with rfl | h
      · exact ⟨past, rfl⟩
      · exact ih _ h

@[simp] theorem exec_pure (env : Environment Sg) (a : α) (past : Trace Sg) :
    (pure a : Program Sg α).exec env past = ([], a) := rfl

/-- Executing a sequence executes its head, then its tail after the head's events. -/
theorem exec_bind (env : Environment Sg) (p : Program Sg α) (f : α → Program Sg β)
    (past : Trace Sg) :
    (p >>= f).exec env past =
      (let head := p.exec env past
       let tail := (f head.2).exec env (past ++ head.1)
       (head.1 ++ tail.1, tail.2)) := by
  change (bind p f).exec env past = _
  induction p generalizing past with
  | ret a => simp [bind, exec]
  | call q k ih => simp [bind, exec, ih, List.append_assoc]

/-- The run of a program whose environment may leave a query without a reply, after the events
`past`. -/
def exec? (env : Trace Sg → (q : Sg.Query) → Option (Sg.Reply q)) :
    Program Sg α → Trace Sg → Option (Trace Sg × α)
  | ret a, _ => some ([], a)
  | call q k, past =>
    match env past q with
    | none => none
    | some r => (exec? env (k r) (past ++ [⟨q, r⟩])).map fun rest => (⟨q, r⟩ :: rest.1, rest.2)

/-- An execution that gets its replies is a run. -/
theorem runs_of_exec? {env : Trace Sg → (q : Sg.Query) → Option (Sg.Reply q)} {p : Program Sg α}
    {past t : Trace Sg} {a : α} (h : p.exec? env past = some (t, a)) : p.Runs t a := by
  induction p generalizing past t with
  | ret b =>
      cases h
      exact ⟨rfl, rfl⟩
  | call q k ih =>
      rw [exec?] at h
      split at h
      · cases h
      · rename_i r _
        obtain ⟨⟨t', b⟩, hrest, hsame⟩ := Option.map_eq_some_iff.mp h
        cases hsame
        exact ⟨r, t', rfl, ih r hrest⟩

theorem exists_runs_of_exec? {env : Trace Sg → (q : Sg.Query) → Option (Sg.Reply q)}
    {p : Program Sg α} {past : Trace Sg} {a : α} (h : (p.exec? env past).map Prod.snd = some a) :
    ∃ t, p.Runs t a := by
  obtain ⟨⟨t, b⟩, hexec, rfl⟩ := Option.map_eq_some_iff.mp h
  exact ⟨t, runs_of_exec? hexec⟩

/-! ## Whole-run rules -/

/-- **`Guards loud p A`** — in every run of `p`, a loud event happens only if `A` holds. -/
def Guards (loud : Event Sg → Prop) (p : Program Sg α) (A : Prop) : Prop :=
  ∀ t a, p.Runs t a → (∃ event ∈ t, loud event) → A

/-- **`Yields good p P`** — every run of `p` whose replies are all good returns a value in `P`. -/
def Yields (good : Event Sg → Prop) (p : Program Sg α) (P : α → Prop) : Prop :=
  ∀ t a, p.Runs t a → (∀ event ∈ t, good event) → P a

section Rules

variable {loud good : Event Sg → Prop} {A B : Prop}

theorem guards_of (p : Program Sg α) (h : A) : Guards loud p A := fun _ _ _ _ => h

theorem guards_pure (a : α) : Guards loud (pure a : Program Sg α) A := by
  rintro t b ⟨rfl, rfl⟩ ⟨event, hmem, -⟩
  cases hmem

theorem guards_ask {q : Sg.Query} (h : ∀ r, ¬ loud ⟨q, r⟩) : Guards loud (ask q) A := by
  intro t r hrun hloud
  rw [runs_ask] at hrun
  subst hrun
  obtain ⟨event, hmem, hev⟩ := hloud
  rw [List.mem_singleton] at hmem
  subst hmem
  exact absurd hev (h r)

/-- The tail may rely on the head having returned. -/
theorem guards_bind {p : Program Sg α} {f : α → Program Sg β} (hp : Guards loud p A)
    (hf : ∀ t a, p.Runs t a → Guards loud (f a) A) : Guards loud (p >>= f) A := by
  intro t b hrun hloud
  obtain ⟨t₁, a, t₂, rfl, hhead, htail⟩ := runs_bind.mp hrun
  obtain ⟨event, hmem, hev⟩ := hloud
  rcases List.mem_append.mp hmem with hmem | hmem
  · exact hp t₁ a hhead ⟨event, hmem, hev⟩
  · exact hf t₁ a hhead t₂ b htail ⟨event, hmem, hev⟩

theorem yields_bind {p : Program Sg α} {f : α → Program Sg β} {P : α → Prop} {Q : β → Prop}
    (hp : Yields good p P) (hf : ∀ a, P a → Yields good (f a) Q) : Yields good (p >>= f) Q := by
  intro t b hrun hgood
  obtain ⟨t₁, a, t₂, rfl, hhead, htail⟩ := runs_bind.mp hrun
  have ha := hp t₁ a hhead fun event h => hgood event (by simp [h])
  exact hf a ha t₂ b htail fun event h => hgood event (by simp [h])

/-- In an environment that only gives good replies, the execution returns the yielded value. -/
theorem Yields.exec {p : Program Sg α} {P : α → Prop} (h : Yields good p P)
    {env : Environment Sg} (henv : ∀ past q, good ⟨q, env past q⟩) (past : Trace Sg) :
    P (p.exec env past).2 := by
  refine h _ _ (exec_runs env p past) fun event hmem => ?_
  obtain ⟨seen, hreply⟩ := exec_reply hmem
  obtain ⟨q, r⟩ := event
  simp only at hreply
  subst hreply
  exact henv seen q

end Rules

end Program

open Program

/-! ## Fallible programs -/

/-- A program that may fail. -/
abbrev Fallible (Sg : Signature) (ε : Type) := ExceptT ε (Program Sg)

namespace Fallible

variable {t : Trace Sg}

@[simp] theorem runs_pure {a : α} {r : Except ε α} :
    (pure a : Fallible Sg ε α).run.Runs t r ↔ t = [] ∧ r = .ok a := Iff.rfl

@[simp] theorem runs_throw {e : ε} {r : Except ε α} :
    (throw e : Fallible Sg ε α).run.Runs t r ↔ t = [] ∧ r = .error e := Iff.rfl

/-- A pure computation asks nothing. -/
@[simp] theorem runs_except {x : Except ε α} {r : Except ε α} :
    (liftM x : Fallible Sg ε α).run.Runs t r ↔ t = [] ∧ r = x := Iff.rfl

@[simp] theorem runs_lift {p : Program Sg α} {r : Except ε α} :
    (liftM p : Fallible Sg ε α).run.Runs t r ↔ ∃ a, p.Runs t a ∧ r = .ok a := by
  change (p >>= fun a => pure (Except.ok a)).Runs t r ↔ _
  rw [Program.runs_bind]
  constructor
  · rintro ⟨t₁, a, t₂, rfl, hp, rfl, rfl⟩
    exact ⟨a, by simpa using hp, rfl⟩
  · rintro ⟨a, hp, rfl⟩
    exact ⟨t, a, [], by simp, hp, rfl, rfl⟩

theorem runs_bind {x : Fallible Sg ε α} {f : α → Fallible Sg ε β} {r : Except ε β} :
    (x >>= f).run.Runs t r ↔
      (∃ t₁ a t₂, t = t₁ ++ t₂ ∧ x.run.Runs t₁ (.ok a) ∧ (f a).run.Runs t₂ r) ∨
        ∃ e, x.run.Runs t (.error e) ∧ r = .error e := by
  rw [ExceptT.run_bind, Program.runs_bind]
  constructor
  · rintro ⟨t₁, a | a, t₂, rfl, hx, hf⟩
    · obtain ⟨rfl, rfl⟩ := hf
      exact .inr ⟨a, by simpa using hx, rfl⟩
    · exact .inl ⟨t₁, a, t₂, rfl, hx, hf⟩
  · rintro (⟨t₁, a, t₂, rfl, hx, hf⟩ | ⟨e, hx, rfl⟩)
    · exact ⟨t₁, .ok a, t₂, rfl, hx, hf⟩
    · exact ⟨t, .error e, [], by simp, hx, rfl, rfl⟩

/-- A sequence succeeds exactly when both parts do. -/
theorem runs_bind_ok {x : Fallible Sg ε α} {f : α → Fallible Sg ε β} {b : β} :
    (x >>= f).run.Runs t (.ok b) ↔
      ∃ t₁ a t₂, t = t₁ ++ t₂ ∧ x.run.Runs t₁ (.ok a) ∧ (f a).run.Runs t₂ (.ok b) := by
  rw [runs_bind]
  constructor
  · rintro (h | ⟨e, -, h⟩)
    · exact h
    · cases h
  · exact .inl

/-- A pure statement that must succeed leaves no trace. -/
@[simp] theorem runs_except_bind_ok {x : Except ε α} {f : α → Fallible Sg ε β} {b : β} :
    ((liftM x : Fallible Sg ε α) >>= f).run.Runs t (.ok b) ↔
      ∃ a, x = .ok a ∧ (f a).run.Runs t (.ok b) := by
  rw [runs_bind_ok]
  constructor
  · rintro ⟨t₁, a, t₂, rfl, ⟨rfl, hx⟩, hf⟩
    exact ⟨a, hx.symm, hf⟩
  · rintro ⟨a, hx, hf⟩
    exact ⟨[], a, t, rfl, ⟨rfl, hx.symm⟩, hf⟩

theorem runs_except_bind {x : Except ε α} {f : α → Fallible Sg ε β} {r : Except ε β} :
    ((liftM x : Fallible Sg ε α) >>= f).run.Runs t r ↔
      (∃ a, x = .ok a ∧ (f a).run.Runs t r) ∨ ∃ e, x = .error e ∧ t = [] ∧ r = .error e := by
  cases x with
  | error e =>
      constructor
      · rintro ⟨rfl, rfl⟩
        exact .inr ⟨e, rfl, rfl, rfl⟩
      · rintro (⟨a, h, -⟩ | ⟨e', h, rfl, rfl⟩)
        · cases h
        · cases h
          exact ⟨rfl, rfl⟩
  | ok a =>
      constructor
      · exact fun h => .inl ⟨a, rfl, h⟩
      · rintro (⟨a', h, hf⟩ | ⟨e, h, -⟩)
        · cases h
          exact hf
        · cases h

/-- A check that always passes changes no run. -/
theorem runs_bind_require {x : Fallible Sg ε α} {check : α → Bool} {e : ε} {r : Except ε α}
    (h : ∀ u a, x.run.Runs u (.ok a) → check a = true) :
    (x >>= fun a => do
      require (check a = true) e
      return a : Fallible Sg ε α).run.Runs t r ↔ x.run.Runs t r := by
  rw [runs_bind]
  constructor
  · rintro (⟨t₁, a, t₂, rfl, hrun, hdone⟩ | ⟨e', hrun, rfl⟩)
    · rcases runs_except_bind.mp hdone with ⟨_, -, rfl, rfl⟩ | ⟨e', he, -⟩
      · rwa [List.append_nil]
      · exact absurd (h t₁ a hrun) (require_eq_error.mp he).1
    · exact hrun
  · intro hrun
    cases r with
    | error e' => exact .inr ⟨e', hrun, rfl⟩
    | ok a =>
        refine .inl ⟨t, a, [], (List.append_nil t).symm, hrun, ?_⟩
        exact runs_except_bind.mpr (.inl ⟨(), require_eq_ok.mpr (h t a hrun), rfl, rfl⟩)

/-- Run a program and continue with its result, a failure included. -/
def outcome (x : Fallible Sg ε α) : Fallible Sg ε (Except ε α) := ExceptT.lift x.run

@[simp] theorem runs_outcome {x : Fallible Sg ε α} {r : Except ε (Except ε α)} :
    (outcome x).run.Runs t r ↔ ∃ r', x.run.Runs t r' ∧ r = .ok r' :=
  runs_lift

/-- A failure goes on as a value. -/
theorem runs_outcome_bind {x : Fallible Sg ε α} {f : Except ε α → Fallible Sg ε β}
    {r : Except ε β} :
    (outcome x >>= f).run.Runs t r ↔
      ∃ t₁ s t₂, t = t₁ ++ t₂ ∧ x.run.Runs t₁ s ∧ (f s).run.Runs t₂ r := by
  rw [runs_bind]
  constructor
  · rintro (⟨t₁, s, t₂, rfl, hx, hf⟩ | ⟨e, hx, -⟩)
    · obtain ⟨s', hs', hsame⟩ := runs_outcome.mp hx
      cases hsame
      exact ⟨t₁, s, t₂, rfl, hs', hf⟩
    · obtain ⟨s', -, hsame⟩ := runs_outcome.mp hx
      cases hsame
  · rintro ⟨t₁, s, t₂, rfl, hx, hf⟩
    exact .inl ⟨t₁, s, t₂, rfl, runs_outcome.mpr ⟨s, hx, rfl⟩, hf⟩

/-- The same program with its error mapped. -/
def mapError {δ : Type} (f : ε → δ) (x : Fallible Sg ε α) : Fallible Sg δ α :=
  ExceptT.mk (x.run >>= fun r => pure (r.mapError f))

@[simp] theorem runs_mapError {δ : Type} {f : ε → δ} {x : Fallible Sg ε α} {r : Except δ α} :
    (mapError f x).run.Runs t r ↔ ∃ s, x.run.Runs t s ∧ r = s.mapError f := by
  change (x.run >>= fun r => pure (r.mapError f)).Runs t r ↔ _
  rw [Program.runs_bind]
  constructor
  · rintro ⟨t₁, s, t₂, rfl, hx, rfl, rfl⟩
    exact ⟨s, by rwa [List.append_nil], rfl⟩
  · rintro ⟨s, hx, rfl⟩
    exact ⟨t, s, [], (List.append_nil t).symm, hx, rfl, rfl⟩

/-- A pure check at the end of a program changes its result and not its trace. -/
theorem exec_bind_except (env : Environment Sg) (x : Fallible Sg ε α) (f : α → Except ε β)
    (past : Trace Sg) :
    (x >>= fun a => (liftM (f a) : Fallible Sg ε β)).run.exec env past =
      ((x.run.exec env past).1, (x.run.exec env past).2 >>= f) := by
  rw [ExceptT.run_bind, Program.exec_bind]
  generalize x.run.exec env past = head
  obtain ⟨t, e | a⟩ := head
  · change (t ++ [], Except.error e) = (t, Except.error e)
    rw [List.append_nil]
  · change (t ++ [], f a) = (t, f a)
    rw [List.append_nil]

section Guards

variable {loud : Event Sg → Prop} {A : Prop}

theorem guards_except (x : Except ε α) : Guards loud (liftM x : Fallible Sg ε α).run A :=
  guards_pure x

theorem guards_bind {x : Fallible Sg ε α} {f : α → Fallible Sg ε β} (hx : Guards loud x.run A)
    (hf : ∀ a, Guards loud (f a).run A) : Guards loud (x >>= f).run A := by
  rw [ExceptT.run_bind]
  apply Program.guards_bind hx
  rintro t (e | a) -
  · exact guards_pure _
  · exact hf a

/-- After a check, the check has passed. -/
theorem guards_except_bind {x : Except ε α} {f : α → Fallible Sg ε β}
    (hf : ∀ a, x = .ok a → Guards loud (f a).run A) :
    Guards loud ((liftM x : Fallible Sg ε α) >>= f).run A := by
  cases x with
  | error e => exact guards_pure _
  | ok a => exact hf a rfl

end Guards

/-! ## Postconditions -/

section Ensures

variable {P : α → Prop} {Q : β → Prop}

/-- **`Ensures x P`** — whatever the replies, a value that `x` returns is in `P`. -/
def Ensures (x : Fallible Sg ε α) (P : α → Prop) : Prop :=
  ∀ t a, x.run.Runs t (.ok a) → P a

theorem ensures_pure {a : α} (h : P a) : Ensures (pure a : Fallible Sg ε α) P := by
  rintro t b ⟨-, hb⟩
  cases hb
  exact h

theorem ensures_throw (e : ε) : Ensures (throw e : Fallible Sg ε α) P := by
  rintro t b ⟨-, hb⟩
  cases hb

/-- The tail may rely on what the head ensures. -/
theorem ensures_bind {x : Fallible Sg ε α} {f : α → Fallible Sg ε β} (hx : Ensures x P)
    (hf : ∀ a, P a → Ensures (f a) Q) : Ensures (x >>= f) Q := by
  intro t b hrun
  obtain ⟨t₁, a, t₂, rfl, hhead, htail⟩ := runs_bind_ok.mp hrun
  exact hf a (hx t₁ a hhead) t₂ b htail

/-- What a sequence returns, its tail returns. -/
theorem ensures_tail {x : Fallible Sg ε α} {f : α → Fallible Sg ε β}
    (hf : ∀ a, Ensures (f a) Q) : Ensures (x >>= f) Q :=
  ensures_bind (P := fun _ => True) (fun _ _ _ => trivial) fun a _ => hf a

theorem ensures_except_bind {x : Except ε α} {f : α → Fallible Sg ε β}
    (hf : ∀ a, x = .ok a → Ensures (f a) Q) :
    Ensures ((liftM x : Fallible Sg ε α) >>= f) Q := by
  intro t b hrun
  obtain ⟨a, hx, htail⟩ := runs_except_bind_ok.mp hrun
  exact hf a hx t b htail

theorem ensures_outcome {x : Fallible Sg ε α} (hx : Ensures x P) :
    Ensures (outcome x) fun r => ∀ a, r = .ok a → P a := by
  intro t r hrun a hr
  obtain ⟨r', hx', hsame⟩ := runs_outcome.mp hrun
  cases hsame
  subst hr
  exact hx t a hx'

end Ensures

/-! ## Cooperating replies -/

section Returns

variable {good : Event Sg → Prop}

/-- **`Returns good x a`** — `x` succeeds with `a` whenever its replies are all good. -/
def Returns (good : Event Sg → Prop) (x : Fallible Sg ε α) (a : α) : Prop :=
  Yields good x.run fun r => r = .ok a

theorem returns_except {x : Except ε α} {a : α} (h : x = .ok a) :
    Returns good (liftM x : Fallible Sg ε α) a := by
  rintro t r ⟨-, rfl⟩ -
  exact h

theorem returns_bind {x : Fallible Sg ε α} {f : α → Fallible Sg ε β} {a : α} {b : β}
    (hx : Returns good x a) (hf : Returns good (f a) b) : Returns good (x >>= f) b := by
  unfold Returns
  rw [ExceptT.run_bind]
  refine yields_bind hx fun r hr => ?_
  subst hr
  exact hf

theorem returns_except_bind {x : Except ε α} {f : α → Fallible Sg ε β} {a : α} {b : β}
    (hx : x = .ok a) (hf : Returns good (f a) b) :
    Returns good ((liftM x : Fallible Sg ε α) >>= f) b :=
  returns_bind (returns_except hx) hf

/-- After a query, the reply was good. -/
theorem returns_ask_bind {q : Sg.Query} {f : Sg.Reply q → Fallible Sg ε β} {b : β}
    (hf : ∀ reply, good ⟨q, reply⟩ → Returns good (f reply) b) :
    Returns good ((liftM (Program.ask q) : Fallible Sg ε (Sg.Reply q)) >>= f) b := by
  intro t r hrun hgood
  rcases runs_bind.mp hrun with ⟨t₁, reply, t₂, rfl, hask, htail⟩ | ⟨e, hask, -⟩
  · obtain ⟨reply', hreply, hsame⟩ := runs_lift.mp hask
    cases hsame
    rw [Program.runs_ask] at hreply
    subst hreply
    exact hf reply (hgood _ (by simp)) t₂ r htail fun event hmem => hgood event (by simp [hmem])
  · obtain ⟨reply, -, hsame⟩ := runs_lift.mp hask
    cases hsame

/-- In an environment with only good replies the execution succeeds. -/
theorem Returns.exec {x : Fallible Sg ε α} {a : α} (h : Returns good x a) {env : Environment Sg}
    (henv : ∀ past q, good ⟨q, env past q⟩) (past : Trace Sg) : (x.run.exec env past).2 = .ok a :=
  Yields.exec h henv past

end Returns

/-! ## Routes -/

/-- **`Follows x queries`** — a run of `x` asks the listed queries in order: all of them when it
succeeds, the first few when it fails. -/
def Follows (x : Fallible Sg ε α) (queries : List Sg.Query) : Prop :=
  ∀ t r, x.run.Runs t r → t.map Event.query <+: queries ∧
    ∀ a, r = .ok a → t.map Event.query = queries

theorem follows_except (x : Except ε α) : Follows (liftM x : Fallible Sg ε α) [] := by
  rintro t r ⟨rfl, -⟩
  exact ⟨List.nil_prefix, fun _ _ => rfl⟩

theorem follows_throw (e : ε) (queries : List Sg.Query) :
    Follows (throw e : Fallible Sg ε α) queries := by
  rintro t r ⟨rfl, rfl⟩
  refine ⟨List.nil_prefix, fun a h => ?_⟩
  cases h

theorem follows_ask (q : Sg.Query) :
    Follows (liftM (Program.ask q) : Fallible Sg ε (Sg.Reply q)) [q] := by
  intro t r hrun
  obtain ⟨reply, hask, -⟩ := runs_lift.mp hrun
  rw [Program.runs_ask] at hask
  subst hask
  exact ⟨List.prefix_refl _, fun _ _ => rfl⟩

theorem follows_bind {x : Fallible Sg ε α} {f : α → Fallible Sg ε β} {qs qs' : List Sg.Query}
    (hx : Follows x qs) (hf : ∀ a, Follows (f a) qs') : Follows (x >>= f) (qs ++ qs') := by
  intro t r hrun
  rcases runs_bind.mp hrun with ⟨t₁, a, t₂, rfl, hhead, htail⟩ | ⟨e, hhead, rfl⟩
  · have hqs : t₁.map Event.query = qs := (hx t₁ _ hhead).2 a rfl
    obtain ⟨hstart, hall⟩ := hf a t₂ r htail
    rw [List.map_append, hqs]
    exact ⟨(List.prefix_append_right_inj qs).mpr hstart, fun b hb => by rw [hall b hb]⟩
  · refine ⟨(hx t _ hhead).1.trans (List.prefix_append qs qs'), fun b hb => ?_⟩
    cases hb

/-- A check asks nothing. -/
theorem follows_except_bind {x : Except ε α} {f : α → Fallible Sg ε β} {qs : List Sg.Query}
    (hf : ∀ a, x = .ok a → Follows (f a) qs) :
    Follows ((liftM x : Fallible Sg ε α) >>= f) qs := by
  cases x with
  | error e => exact follows_throw e qs
  | ok a => exact hf a rfl

/-- Neither does what follows a program without asking. -/
theorem follows_bind_silent {x : Fallible Sg ε α} {f : α → Fallible Sg ε β} {qs : List Sg.Query}
    (hx : Follows x qs) (hf : ∀ a, Follows (f a) []) : Follows (x >>= f) qs := by
  have h := follows_bind hx hf
  rwa [List.append_nil] at h

end Fallible

/-- Draw until a value is accepted, at most `n` times. -/
def attempts (draw : Fallible Sg ε α) (accept : α → Bool) (exhausted : ε) :
    Nat → Fallible Sg ε α
  | 0 => throw exhausted
  | n + 1 => do
    let a ← draw
    if accept a then return a else attempts draw accept exhausted n

/-- A bounded retry only returns accepted draws. -/
theorem attempts_accepts {draw : Fallible Sg ε α} {accept : α → Bool} {exhausted : ε} {n : Nat}
    {t : Trace Sg} {a : α} (h : (attempts draw accept exhausted n).run.Runs t (.ok a)) :
    accept a = true := by
  induction n generalizing t with
  | zero => simp [attempts] at h
  | succ n ih =>
      obtain ⟨t₁, b, t₂, rfl, -, htail⟩ := Fallible.runs_bind_ok.mp h
      split at htail
      · obtain ⟨-, heq⟩ := htail
        cases heq
        assumption
      · exact ih htail

/-- The accepted value is the one of the last draw. -/
theorem attempts_last {draw : Fallible Sg ε α} {accept : α → Bool} {exhausted : ε} {n : Nat}
    {t : Trace Sg} {a : α} (h : (attempts draw accept exhausted n).run.Runs t (.ok a)) :
    ∃ t₁ t₂, t = t₁ ++ t₂ ∧ draw.run.Runs t₂ (.ok a) := by
  induction n generalizing t with
  | zero => simp [attempts] at h
  | succ n ih =>
      obtain ⟨t₁, b, t₂, rfl, hdraw, htail⟩ := Fallible.runs_bind_ok.mp h
      split at htail
      · obtain ⟨rfl, heq⟩ := htail
        cases heq
        exact ⟨[], t₁, by simp, hdraw⟩
      · obtain ⟨u, v, rfl, hlast⟩ := ih htail
        exact ⟨t₁ ++ u, v, (List.append_assoc t₁ u v).symm, hlast⟩

/-- A bounded retry asks nothing but its draws. -/
theorem attempts_events {draw : Fallible Sg ε α} {accept : α → Bool} {exhausted : ε} {n : Nat}
    {P : Event Sg → Prop} (hdraw : ∀ t r, draw.run.Runs t r → ∀ event ∈ t, P event)
    {t : Trace Sg} {r : Except ε α} (h : (attempts draw accept exhausted n).run.Runs t r) :
    ∀ event ∈ t, P event := by
  induction n generalizing t with
  | zero =>
      obtain ⟨rfl, -⟩ := h
      simp
  | succ n ih =>
      rcases Fallible.runs_bind.mp h with ⟨t₁, b, t₂, rfl, hhead, htail⟩ | ⟨e, hhead, -⟩
      · intro event hmem
        rcases List.mem_append.mp hmem with hmem | hmem
        · exact hdraw t₁ _ hhead event hmem
        · split at htail
          · obtain ⟨rfl, -⟩ := htail
            cases hmem
          · exact ih htail event hmem
      · exact hdraw t _ hhead

theorem guards_attempts {loud : Event Sg → Prop} {A : Prop} {draw : Fallible Sg ε α}
    {accept : α → Bool} {exhausted : ε} (hdraw : Guards loud draw.run A) (n : Nat) :
    Guards loud (attempts draw accept exhausted n).run A := by
  induction n with
  | zero => exact guards_pure _
  | succ n ih =>
      apply Fallible.guards_bind hdraw
      intro a
      split
      · exact guards_pure _
      · exact ih

/-! ## Programs over a lent cell -/

/-- A fallible program over a cell of type `σ` that the caller lent it. A failure leaves the cell
as it is at that point: there is no rollback. -/
abbrev Mutating (Sg : Signature) (σ ε : Type) := ExceptT ε (StateT σ (Program Sg))

namespace Mutating

/-- Run a program that does not touch the cell. -/
instance : MonadLift (Fallible Sg ε) (Mutating Sg σ ε) where
  monadLift x := ExceptT.mk (StateT.lift x.run)

/-- Called on a cell holding `s`, the program may return `r` and leave `s'` in the cell. -/
def Runs (p : Mutating Sg σ ε α) (s : σ) (t : Trace Sg) (r : Except ε α) (s' : σ) : Prop :=
  (StateT.run p.run s).Runs t (r, s')

variable {t : Trace Sg} {s s' : σ}

/-- An execution is a run. -/
theorem runs_of_exec {p : Mutating Sg σ ε α} {env : Environment Sg} {past : Trace Sg}
    {r : Except ε α} (h : ((StateT.run p.run s).exec env past).2 = (r, s')) :
    p.Runs s ((StateT.run p.run s).exec env past).1 r s' := by
  unfold Runs
  rw [← h]
  exact exec_runs env (StateT.run p.run s) past

@[simp] theorem runs_pure {a : α} {r : Except ε α} :
    (pure a : Mutating Sg σ ε α).Runs s t r s' ↔ t = [] ∧ r = .ok a ∧ s' = s := by
  change (pure (Except.ok a, s) : Program Sg _).Runs t (r, s') ↔ _
  simp

@[simp] theorem runs_throw {e : ε} {r : Except ε α} :
    (throw e : Mutating Sg σ ε α).Runs s t r s' ↔ t = [] ∧ r = .error e ∧ s' = s := by
  change (pure (Except.error e, s) : Program Sg _).Runs t (r, s') ↔ _
  simp

@[simp] theorem runs_get {r : Except ε σ} :
    (get : Mutating Sg σ ε σ).Runs s t r s' ↔ t = [] ∧ r = .ok s ∧ s' = s := by
  change (pure (Except.ok s, s) : Program Sg _).Runs t (r, s') ↔ _
  simp

@[simp] theorem runs_set {value : σ} {r : Except ε PUnit} :
    (set value : Mutating Sg σ ε PUnit).Runs s t r s' ↔ t = [] ∧ r = .ok ⟨⟩ ∧ s' = value := by
  change (pure (Except.ok PUnit.unit, value) : Program Sg _).Runs t (r, s') ↔ _
  simp

@[simp] theorem runs_except {x : Except ε α} {r : Except ε α} :
    (liftM x : Mutating Sg σ ε α).Runs s t r s' ↔ t = [] ∧ r = x ∧ s' = s := by
  change (pure (x, s) : Program Sg _).Runs t (r, s') ↔ _
  simp

/-- A program that does not touch the cell leaves it unchanged, whatever happens. -/
@[simp] theorem runs_lift {x : Fallible Sg ε α} {r : Except ε α} :
    (liftM x : Mutating Sg σ ε α).Runs s t r s' ↔ x.run.Runs t r ∧ s' = s := by
  change (x.run >>= fun a => pure (a, s)).Runs t (r, s') ↔ _
  rw [Program.runs_bind]
  constructor
  · rintro ⟨t₁, a, t₂, rfl, hx, rfl, hr⟩
    cases hr
    exact ⟨by simpa using hx, rfl⟩
  · rintro ⟨hx, rfl⟩
    exact ⟨t, r, [], by simp, hx, rfl, rfl⟩

theorem runs_bind {x : Mutating Sg σ ε α} {f : α → Mutating Sg σ ε β} {r : Except ε β} :
    (x >>= f).Runs s t r s' ↔
      (∃ t₁ a s₁ t₂, t = t₁ ++ t₂ ∧ x.Runs s t₁ (.ok a) s₁ ∧ (f a).Runs s₁ t₂ r s') ∨
        ∃ e, x.Runs s t (.error e) s' ∧ r = .error e := by
  -- `ExceptT` over `StateT`, one case for each outcome of the head
  have hbind : StateT.run (x >>= f).run s =
      StateT.run x.run s >>= fun out =>
        match out.1 with
        | .ok a => StateT.run (f a).run out.2
        | .error e => pure (.error e, out.2) := by
    change Program.bind _ _ = Program.bind _ _
    congr 1
    funext out
    obtain ⟨out | out, s₁⟩ := out <;> rfl
  unfold Runs
  rw [hbind, Program.runs_bind]
  constructor
  · rintro ⟨t₁, ⟨a | a, s₁⟩, t₂, rfl, hx, hf⟩
    · obtain ⟨rfl, hr⟩ := hf
      cases hr
      exact .inr ⟨a, by simpa using hx, rfl⟩
    · exact .inl ⟨t₁, a, s₁, t₂, rfl, hx, hf⟩
  · rintro (⟨t₁, a, s₁, t₂, rfl, hx, hf⟩ | ⟨e, hx, rfl⟩)
    · exact ⟨t₁, (.ok a, s₁), t₂, rfl, hx, hf⟩
    · exact ⟨t, (.error e, s'), [], by simp, hx, rfl, rfl⟩

/-- A program that does not touch the cell, then another. -/
theorem runs_lift_bind {x : Fallible Sg ε α} {f : α → Mutating Sg σ ε β} {r : Except ε β} :
    ((liftM x : Mutating Sg σ ε α) >>= f).Runs s t r s' ↔
      (∃ t₁ a t₂, t = t₁ ++ t₂ ∧ x.run.Runs t₁ (.ok a) ∧ (f a).Runs s t₂ r s') ∨
        ∃ e, x.run.Runs t (.error e) ∧ r = .error e ∧ s' = s := by
  rw [runs_bind]
  constructor
  · rintro (⟨t₁, a, s₁, t₂, rfl, hx, hf⟩ | ⟨e, hx, rfl⟩)
    · obtain ⟨hhead, rfl⟩ := runs_lift.mp hx
      exact .inl ⟨t₁, a, t₂, rfl, hhead, hf⟩
    · obtain ⟨hhead, rfl⟩ := runs_lift.mp hx
      exact .inr ⟨e, hhead, rfl, rfl⟩
  · rintro (⟨t₁, a, t₂, rfl, hx, hf⟩ | ⟨e, hx, rfl, rfl⟩)
    · exact .inl ⟨t₁, a, s, t₂, rfl, runs_lift.mpr ⟨hx, rfl⟩, hf⟩
    · exact .inr ⟨e, runs_lift.mpr ⟨hx, rfl⟩, rfl⟩

theorem runs_lift_bind_ok {x : Fallible Sg ε α} {f : α → Mutating Sg σ ε β} {b : β} :
    ((liftM x : Mutating Sg σ ε α) >>= f).Runs s t (.ok b) s' ↔
      ∃ t₁ a t₂, t = t₁ ++ t₂ ∧ x.run.Runs t₁ (.ok a) ∧ (f a).Runs s t₂ (.ok b) s' := by
  rw [runs_lift_bind]
  constructor
  · rintro (h | ⟨e, -, h, -⟩)
    · exact h
    · cases h
  · exact .inl

/-- A check that passes, then a program. -/
theorem runs_except_bind_of {x : Except ε α} {f : α → Mutating Sg σ ε β} {a : α} {r : Except ε β}
    (hx : x = .ok a) :
    ((liftM x : Mutating Sg σ ε α) >>= f).Runs s t r s' ↔ (f a).Runs s t r s' := by
  subst hx
  exact Iff.rfl

theorem runs_except_bind_ok {x : Except ε α} {f : α → Mutating Sg σ ε β} {b : β} :
    ((liftM x : Mutating Sg σ ε α) >>= f).Runs s t (.ok b) s' ↔
      ∃ a, x = .ok a ∧ (f a).Runs s t (.ok b) s' := by
  cases x with
  | error e =>
      constructor
      · rintro ⟨-, h⟩
        cases h
      · rintro ⟨a, h, -⟩
        cases h
  | ok a =>
      constructor
      · intro h
        exact ⟨a, rfl, h⟩
      · rintro ⟨a', h, hf⟩
        cases h
        exact hf

/-- A check, then a program. -/
theorem runs_except_bind {x : Except ε α} {f : α → Mutating Sg σ ε β} {r : Except ε β} :
    ((liftM x : Mutating Sg σ ε α) >>= f).Runs s t r s' ↔
      (∃ a, x = .ok a ∧ (f a).Runs s t r s') ∨
        ∃ e, x = .error e ∧ t = [] ∧ r = .error e ∧ s' = s := by
  cases x with
  | error e =>
      constructor
      · rintro ⟨rfl, h⟩
        cases h
        exact .inr ⟨e, rfl, rfl, rfl, rfl⟩
      · rintro (⟨a, h, -⟩ | ⟨e', h, rfl, rfl, rfl⟩)
        · cases h
        · cases h
          exact ⟨rfl, rfl⟩
  | ok a =>
      constructor
      · exact fun h => .inl ⟨a, rfl, h⟩
      · rintro (⟨a', h, hf⟩ | ⟨e, h, -⟩)
        · cases h
          exact hf
        · cases h

theorem runs_get_bind {f : σ → Mutating Sg σ ε α} {r : Except ε α} :
    (get >>= f : Mutating Sg σ ε α).Runs s t r s' ↔ (f s).Runs s t r s' := Iff.rfl

theorem runs_set_bind {value : σ} {f : PUnit → Mutating Sg σ ε α} {r : Except ε α} :
    (set value >>= f : Mutating Sg σ ε α).Runs s t r s' ↔ (f ⟨⟩).Runs value t r s' := Iff.rfl

/-! ## Transactions -/

/-- **`Transacts p s`** — called on a cell holding `s`, the program leaves it as it was whenever it
fails. -/
def Transacts (p : Mutating Sg σ ε α) (s : σ) : Prop :=
  ∀ t e s', p.Runs s t (.error e) s' → s' = s

theorem transacts_lift_bind {x : Fallible Sg ε α} {f : α → Mutating Sg σ ε β}
    (hf : ∀ a, Transacts (f a) s) : Transacts ((liftM x : Mutating Sg σ ε α) >>= f) s := by
  intro t e s' hrun
  rcases runs_lift_bind.mp hrun with ⟨t₁, a, t₂, rfl, -, htail⟩ | ⟨e', -, -, rfl⟩
  · exact hf a t₂ e s' htail
  · rfl

theorem transacts_except_bind {x : Except ε α} {f : α → Mutating Sg σ ε β}
    (hf : ∀ a, Transacts (f a) s) : Transacts ((liftM x : Mutating Sg σ ε α) >>= f) s := by
  cases x with
  | error e =>
      rintro t e' s' ⟨-, h⟩
      cases h
      rfl
  | ok a => exact hf a

theorem transacts_get_bind {f : σ → Mutating Sg σ ε α} (hf : Transacts (f s) s) :
    Transacts (get >>= f : Mutating Sg σ ε α) s := hf

/-- The assignment comes last: nothing after it can fail. -/
theorem transacts_set {value : σ} : Transacts (set value : Mutating Sg σ ε PUnit) s := by
  rintro t e s' ⟨-, h⟩
  cases h

theorem transacts_set_pure {value : σ} {a : α} :
    Transacts (set value >>= fun _ => pure a : Mutating Sg σ ε α) s := by
  rintro t e s' ⟨-, h⟩
  cases h

/-! ## Guards -/

section Guards

variable {loud : Event Sg → Prop} {A : Prop}

theorem guards_get_bind {f : σ → Mutating Sg σ ε α}
    (hf : Guards loud (StateT.run (f s).run s) A) :
    Guards loud (StateT.run (get >>= f : Mutating Sg σ ε α).run s) A := hf

theorem guards_except_bind {x : Except ε α} {f : α → Mutating Sg σ ε β}
    (hf : ∀ a, x = .ok a → Guards loud (StateT.run (f a).run s) A) :
    Guards loud (StateT.run ((liftM x : Mutating Sg σ ε α) >>= f).run s) A := by
  cases x with
  | error e => exact guards_pure _
  | ok a => exact hf a rfl

theorem guards_lift_bind {x : Fallible Sg ε α} {f : α → Mutating Sg σ ε β}
    (hx : Guards loud x.run A) (hf : ∀ a, Guards loud (StateT.run (f a).run s) A) :
    Guards loud (StateT.run ((liftM x : Mutating Sg σ ε α) >>= f).run s) A := by
  rintro t ⟨r, s'⟩ hrun hloud
  rcases runs_lift_bind.mp hrun with ⟨t₁, a, t₂, rfl, hhead, htail⟩ | ⟨e, hhead, -, -⟩
  · obtain ⟨event, hmem, hev⟩ := hloud
    rcases List.mem_append.mp hmem with hmem | hmem
    · exact hx t₁ _ hhead ⟨event, hmem, hev⟩
    · exact hf a t₂ _ htail ⟨event, hmem, hev⟩
  · exact hx t _ hhead hloud

end Guards

end Mutating

end Interact
