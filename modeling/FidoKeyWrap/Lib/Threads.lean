/-
# FidoKeyWrap.Lib.Threads — programs that share a world.

A pool has one program for each thread. `Interleaves step pool s h pool' s'` says that the schedule
`h`, a list of events each with the thread that asked, leads from one pool and world to another: in
every step one thread asks its next query and the world replies. The threads may be any number, and a
call that starts late is one whose first step is late in the schedule.

To reason about all schedules a thread gets a phase, an auxiliary variable that is computed from the
events of the thread alone. `Adheres next permits g p Q` is a protocol for one program: it asks only
what its phase permits, and what it returns fits the phase. It is proved by a walk through the
program, with no world in sight. `Interleaves.invariant` then needs one thing more, that every
permitted event keeps the invariant, and no proof ever compares two programs.
-/
import FidoKeyWrap.Lib.Path

namespace Interact

variable {Sg : Signature} {ι : Type} {α : ι → Type} {β δ ε σ γ : Type}

/-! ## Schedules -/

/-- **`p.Asks event p'`** — the event is the next query of the program, which goes on as `p'`. -/
inductive Program.Asks : Program Sg β → Event Sg → Program Sg β → Prop
  | reply (q : Sg.Query) (k : Sg.Reply q → Program Sg β) (r : Sg.Reply q) :
      Asks (.call q k) ⟨q, r⟩ (k r)

/-- A program for each thread. -/
abbrev Pool (Sg : Signature) (α : ι → Type) := (i : ι) → Program Sg (α i)

/-- The events of all threads, oldest first. -/
abbrev Schedule (ι : Type) (Sg : Signature) := List (ι × Event Sg)

variable [DecidableEq ι]

/-- **`Interleaves step pool s h pool' s'`** — the threads take the steps of the schedule. -/
def Interleaves (step : σ → Event Sg → σ → Prop) :
    Pool Sg α → σ → Schedule ι Sg → Pool Sg α → σ → Prop
  | pool, s, [], pool', s' => pool' = pool ∧ s' = s
  | pool, s, (i, event) :: h, pool', s' =>
    ∃ p mid, (pool i).Asks event p ∧ step s event mid ∧
      Interleaves step (Function.update pool i p) mid h pool' s'

variable {step : σ → Event Sg → σ → Prop} {pool pool' : Pool Sg α} {s s' : σ}
  {h : Schedule ι Sg}

/-- The steps of an interleaving are a path of the world. -/
theorem Interleaves.path (hrun : Interleaves step pool s h pool' s') :
    Path step s (h.map Prod.snd) s' := by
  induction h generalizing pool s with
  | nil => exact hrun.2
  | cons head h ih =>
      obtain ⟨p, mid, -, hstep, hrest⟩ := hrun
      exact ⟨mid, hstep, ih hrest⟩

/-- An interleaving in a world that allows more. -/
theorem Interleaves.mono {step' : σ → Event Sg → σ → Prop}
    (hrun : Interleaves step pool s h pool' s')
    (hstep : ∀ s event s', step s event s' → step' s event s') :
    Interleaves step' pool s h pool' s' := by
  induction h generalizing pool s with
  | nil => exact hrun
  | cons head h ih =>
      obtain ⟨p, mid, hasks, hfirst, hrest⟩ := hrun
      exact ⟨p, mid, hasks, hstep s head.2 mid hfirst, ih hrest⟩

theorem interleaves_append {h' : Schedule ι Sg} :
    Interleaves step pool s (h ++ h') pool' s' ↔ ∃ between mid,
      Interleaves step pool s h between mid ∧ Interleaves step between mid h' pool' s' := by
  induction h generalizing pool s with
  | nil =>
      constructor
      · exact fun hrun => ⟨pool, s, ⟨rfl, rfl⟩, hrun⟩
      · rintro ⟨between, mid, ⟨rfl, rfl⟩, hrun⟩
        exact hrun
  | cons head h ih =>
      constructor
      · rintro ⟨p, mid, hasks, hstep, hrest⟩
        obtain ⟨between, mid', hfirst, hsecond⟩ := ih.mp hrest
        exact ⟨between, mid', ⟨p, mid, hasks, hstep, hfirst⟩, hsecond⟩
      · rintro ⟨between, mid', ⟨p, mid, hasks, hstep, hfirst⟩, hsecond⟩
        exact ⟨p, mid, hasks, hstep, ih.mpr ⟨between, mid', hfirst, hsecond⟩⟩

/-- A thread that has returned stays as it is. -/
theorem Interleaves.stays_returned (hrun : Interleaves step pool s h pool' s') {i : ι} {a : α i}
    (hdone : pool i = .ret a) : pool' i = .ret a := by
  induction h generalizing pool s with
  | nil =>
      obtain ⟨rfl, -⟩ := hrun
      exact hdone
  | cons head h ih =>
      obtain ⟨j, event⟩ := head
      obtain ⟨p, mid, hasks, -, hrest⟩ := hrun
      have hne : i ≠ j := by
        rintro rfl
        rw [hdone] at hasks
        cases hasks
      refine ih hrest ?_
      rw [Function.update_of_ne hne]
      exact hdone

/-- One thread runs to its end while the others wait. -/
theorem interleaves_alone {i : ι} {t : Trace Sg} {a : α i} (hrun : (pool i).Runs t a)
    (hpath : Path step s t s') :
    Interleaves step pool s (t.map fun event => (i, event)) (Function.update pool i (.ret a))
      s' := by
  generalize hp : pool i = p at hrun
  induction p generalizing pool s t with
  | ret b =>
      obtain ⟨rfl, rfl⟩ := hrun
      obtain rfl := hpath
      rw [← hp, Function.update_eq_self]
      exact ⟨rfl, rfl⟩
  | call q k ih =>
      obtain ⟨r, t, rfl, hrun⟩ := hrun
      obtain ⟨mid, hstep, hpath⟩ := hpath
      refine ⟨k r, mid, ?_, hstep, ?_⟩
      · rw [hp]
        exact .reply q k r
      · have hrest := ih r hpath (Function.update_self i (k r) pool) hrun
        rw [Function.update_idem] at hrest
        exact hrest

/-! ## Protocols -/

/-- **`Adheres next permits g p Q`** — from phase `g` on, the program asks only what its phase
permits, and returns in `Q`. -/
def Adheres (next : γ → Event Sg → γ) (permits : γ → Sg.Query → Prop) :
    γ → Program Sg β → (γ → β → Prop) → Prop
  | g, .ret b, Q => Q g b
  | g, .call q k, Q => permits g q ∧ ∀ r, Adheres next permits (next g ⟨q, r⟩) (k r) Q

section Adheres

variable {next : γ → Event Sg → γ} {permits : γ → Sg.Query → Prop} {g : γ}

theorem Adheres.mono {p : Program Sg β} {Q R : γ → β → Prop} (hp : Adheres next permits g p R)
    (hQ : ∀ g b, R g b → Q g b) : Adheres next permits g p Q := by
  induction p generalizing g with
  | ret b => exact hQ g b hp
  | call q k ih => exact ⟨hp.1, fun r => ih r (hp.2 r)⟩

theorem adheres_bind {p : Program Sg β} {f : β → Program Sg δ} {R : γ → β → Prop}
    {Q : γ → δ → Prop} (hp : Adheres next permits g p R)
    (hf : ∀ g b, R g b → Adheres next permits g (f b) Q) :
    Adheres next permits g (p >>= f) Q := by
  change Adheres next permits g (p.bind f) Q
  induction p generalizing g with
  | ret b => exact hf g b hp
  | call q k ih => exact ⟨hp.1, fun r => ih r (hp.2 r)⟩

end Adheres

namespace Fallible

variable {next : γ → Event Sg → γ} {permits : γ → Sg.Query → Prop} {g : γ}
  {Q : γ → Except ε δ → Prop}

theorem adheres_pure {d : δ} (hQ : Q g (.ok d)) :
    Adheres next permits g (pure d : Fallible Sg ε δ).run Q := hQ

theorem adheres_throw {e : ε} (hQ : Q g (.error e)) :
    Adheres next permits g (throw e : Fallible Sg ε δ).run Q := hQ

theorem adheres_except {x : Except ε δ} (hQ : Q g x) :
    Adheres next permits g (liftM x : Fallible Sg ε δ).run Q := hQ

theorem adheres_except_bind {x : Except ε β} {f : β → Fallible Sg ε δ}
    (herror : ∀ e, x = .error e → Q g (.error e))
    (hok : ∀ b, x = .ok b → Adheres next permits g (f b).run Q) :
    Adheres next permits g ((liftM x : Fallible Sg ε β) >>= f).run Q := by
  cases x with
  | error e => exact herror e rfl
  | ok b => exact hok b rfl

/-- A query that the phase permits, then what the program does with the reply. -/
theorem adheres_ask_bind {q : Sg.Query} {f : Sg.Reply q → Fallible Sg ε δ} (hq : permits g q)
    (hf : ∀ r, Adheres next permits (next g ⟨q, r⟩) (f r).run Q) :
    Adheres next permits g
      ((liftM (Program.ask q) : Fallible Sg ε (Sg.Reply q)) >>= f).run Q := ⟨hq, hf⟩

theorem adheres_bind {x : Fallible Sg ε β} {f : β → Fallible Sg ε δ} {R : γ → Except ε β → Prop}
    (hx : Adheres next permits g x.run R) (herror : ∀ g e, R g (.error e) → Q g (.error e))
    (hok : ∀ g b, R g (.ok b) → Adheres next permits g (f b).run Q) :
    Adheres next permits g (x >>= f).run Q := by
  rw [ExceptT.run_bind]
  refine Interact.adheres_bind hx ?_
  rintro g (e | b) hR
  · exact herror g e hR
  · exact hok g b hR

/-- The tail gets the result of the head, a failure included. -/
theorem adheres_run_bind {ζ : Type} {x : Fallible Sg ζ β} {f : Except ζ β → Fallible Sg ε δ}
    {R : γ → Except ζ β → Prop} (hx : Adheres next permits g x.run R)
    (hf : ∀ g r, R g r → Adheres next permits g (f r).run Q) :
    Adheres next permits g
      ((liftM x.run : Fallible Sg ε (Except ζ β)) >>= f).run Q := by
  change Adheres next permits g ((x.run >>= fun r => pure (Except.ok r)) >>= _) Q
  rw [bind_assoc]
  exact Interact.adheres_bind hx hf

end Fallible

/-! ## The invariant rule -/

/-- The phases after a schedule. -/
def phases (next : ι → γ → Event Sg → γ) : (ι → γ) → Schedule ι Sg → ι → γ
  | g, [] => g
  | g, (i, event) :: h => phases next (Function.update g i (next i (g i) event)) h

/-- **`Obeys next D g h`** — every step of the schedule is in `D`, at the phases it is taken. -/
def Obeys (next : ι → γ → Event Sg → γ) (D : (ι → γ) → ι → Event Sg → Prop) :
    (ι → γ) → Schedule ι Sg → Prop
  | _, [] => True
  | g, (i, event) :: h =>
    D g i event ∧ Obeys next D (Function.update g i (next i (g i) event)) h

section Invariant

variable {next : ι → γ → Event Sg → γ} {permits : ι → γ → Sg.Query → Prop}
  {D : (ι → γ) → ι → Event Sg → Prop} {Q : (i : ι) → γ → α i → Prop} {I : σ → (ι → γ) → Prop}
  {g : ι → γ}

/-- **The invariant rule**: if every thread follows its protocol and every permitted event keeps the
invariant, then it holds after every schedule, and every thread still follows its protocol. -/
theorem Interleaves.invariant (hrun : Interleaves step pool s h pool' s')
    (hkeep : ∀ s g i q r s', I s g → permits i (g i) q → D g i ⟨q, r⟩ → step s ⟨q, r⟩ s' →
      I s' (Function.update g i (next i (g i) ⟨q, r⟩)))
    (hobeys : Obeys next D g h) (hI : I s g)
    (hadheres : ∀ i, Adheres (next i) (permits i) (g i) (pool i) (Q i)) :
    I s' (phases next g h) ∧
      ∀ i, Adheres (next i) (permits i) (phases next g h i) (pool' i) (Q i) := by
  induction h generalizing pool s g with
  | nil =>
      obtain ⟨rfl, rfl⟩ := hrun
      exact ⟨hI, hadheres⟩
  | cons head h ih =>
      obtain ⟨i, q, r⟩ := head
      obtain ⟨p, mid, hasks, hstep, hrest⟩ := hrun
      obtain ⟨hD, hobeys⟩ := hobeys
      have hown := hadheres i
      generalize hp : pool i = before at hasks hown
      cases hasks
      obtain ⟨hpermits, hown⟩ := hown
      refine ih hrest hobeys (hkeep s g i q r mid hI hpermits hD hstep) fun j => ?_
      by_cases hj : j = i
      · subst hj
        rw [Function.update_self, Function.update_self]
        exact hown r
      · rw [Function.update_of_ne hj, Function.update_of_ne hj]
        exact hadheres j

/-- What the rule gives of a thread that has returned. -/
theorem Interleaves.returned (hrun : Interleaves step pool s h pool' s')
    (hkeep : ∀ s g i q r s', I s g → permits i (g i) q → D g i ⟨q, r⟩ → step s ⟨q, r⟩ s' →
      I s' (Function.update g i (next i (g i) ⟨q, r⟩)))
    (hobeys : Obeys next D g h) (hI : I s g)
    (hadheres : ∀ i, Adheres (next i) (permits i) (g i) (pool i) (Q i)) {i : ι} {a : α i}
    (hdone : pool' i = .ret a) : Q i (phases next g h i) a := by
  have hown := (hrun.invariant hkeep hobeys hI hadheres).2 i
  rw [hdone] at hown
  exact hown

end Invariant

section Append

variable {next : ι → γ → Event Sg → γ} {D : (ι → γ) → ι → Event Sg → Prop} {g : ι → γ}
  {h' : Schedule ι Sg}

theorem obeys_append :
    Obeys next D g (h ++ h') ↔ Obeys next D g h ∧ Obeys next D (phases next g h) h' := by
  induction h generalizing g with
  | nil =>
      constructor
      · exact fun hobeys => ⟨trivial, hobeys⟩
      · exact fun hobeys => hobeys.2
  | cons head h ih =>
      constructor
      · rintro ⟨hD, hobeys⟩
        obtain ⟨hfirst, hsecond⟩ := ih.mp hobeys
        exact ⟨⟨hD, hfirst⟩, hsecond⟩
      · rintro ⟨⟨hD, hfirst⟩, hsecond⟩
        exact ⟨hD, ih.mpr ⟨hfirst, hsecond⟩⟩

theorem obeys_true (g : ι → γ) (h : Schedule ι Sg) : Obeys next (fun _ _ _ => True) g h := by
  induction h generalizing g with
  | nil => trivial
  | cons head h ih => exact ⟨trivial, ih _⟩

/-- The phases of the threads that wait. -/
theorem phases_alone {i j : ι} (hji : j ≠ i) (t : Trace Sg) :
    phases next g (t.map fun event => (i, event)) j = g j := by
  induction t generalizing g with
  | nil => rfl
  | cons event t ih =>
      rw [List.map_cons, phases, ih, Function.update_of_ne hji]

/-- One thread alone obeys what holds while the others rest. -/
theorem obeys_alone {R : γ → Prop} {i : ι}
    (hD : ∀ g event, (∀ j, j ≠ i → R (g j)) → D g i event) (hrest : ∀ j, j ≠ i → R (g j))
    (t : Trace Sg) : Obeys next D g (t.map fun event => (i, event)) := by
  induction t generalizing g with
  | nil => trivial
  | cons event t ih =>
      refine ⟨hD g event hrest, ih fun j hji => ?_⟩
      rw [Function.update_of_ne hji]
      exact hrest j hji

end Append

/-- **Threads one after another**: a world that answers every query lets each thread of a list run to
its end before the next one starts, in a schedule that obeys what holds while the others rest. -/
theorem exists_sequential {next : ι → γ → Event Sg → γ} {permits : ι → γ → Sg.Query → Prop}
    {D : (ι → γ) → ι → Event Sg → Prop} {Q : (i : ι) → γ → α i → Prop} {R : γ → Prop}
    (hanswers : ∀ s q, ∃ r s', step s ⟨q, r⟩ s')
    (hD : ∀ i g event, (∀ j, j ≠ i → R (g j)) → D g i event)
    (hreturn : ∀ i phase a, Q i phase a → R phase) (threads : List ι) {g : ι → γ}
    (hadheres : ∀ i, Adheres (next i) (permits i) (g i) (pool i) (Q i)) (hrest : ∀ i, R (g i)) :
    ∃ h pool' s', Interleaves step pool s h pool' s' ∧ Obeys next D g h ∧
      ∀ i ∈ threads, ∃ a, pool' i = .ret a := by
  induction threads generalizing pool s g with
  | nil => exact ⟨[], pool, s, ⟨rfl, rfl⟩, trivial, by simp⟩
  | cons i threads ih =>
      obtain ⟨t, a, mid, hrun, hpath⟩ := exists_run hanswers (pool i) s
      have halone := interleaves_alone hrun hpath
      set first : Schedule ι Sg := t.map fun event => (i, event)
      have hstill := (halone.invariant (I := fun _ _ => True) (fun _ _ _ _ _ _ _ _ _ _ => trivial)
        (obeys_true g first) trivial hadheres).2
      have hrest' : ∀ j, R (phases next g first j) := by
        intro j
        by_cases hji : j = i
        · subst hji
          have hends := hstill j
          rw [Function.update_self] at hends
          exact hreturn j _ a hends
        · rw [phases_alone hji]
          exact hrest j
      obtain ⟨h, pool', s', hothers, hobeys, hdone⟩ := ih hstill hrest'
      refine ⟨first ++ h, pool', s', interleaves_append.mpr ⟨_, mid, halone, hothers⟩,
        obeys_append.mpr ⟨obeys_alone (hD i) (fun j _ => hrest j) t, hobeys⟩, ?_⟩
      intro j hj
      rcases List.mem_cons.mp hj with rfl | hj
      · exact ⟨a, hothers.stays_returned (Function.update_self j _ pool)⟩
      · exact hdone j hj

end Interact
