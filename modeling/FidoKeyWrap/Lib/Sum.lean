/-
# FidoKeyWrap.Lib.Sum — programs over two environments side by side.

A component that uses two others asks queries of two signatures. `Signature.sum` is their disjoint
union; a program over either side is one over the sum, with the same runs, and a guarantee about its
cooperating replies carries over (`returns_left`, `returns_right`). The error of the part is mapped
into the error of the whole.
-/
import FidoKeyWrap.Lib.Order

namespace Interact

/-- Two environments side by side. -/
@[reducible] def Signature.sum (A B : Signature) : Signature where
  Query := A.Query ⊕ B.Query
  Reply := Sum.elim A.Reply B.Reply

variable {A B : Signature} {α ε δ : Type}

/-- An event of the left side. -/
def Event.left (event : Event A) : Event (A.sum B) := ⟨.inl event.query, event.reply⟩

/-- An event of the right side. -/
def Event.right (event : Event B) : Event (A.sum B) := ⟨.inr event.query, event.reply⟩

/-- The events of the left side, in order. -/
def lefts (t : Trace (A.sum B)) : Trace A :=
  t.filterMap fun
    | ⟨.inl query, reply⟩ => some ⟨query, reply⟩
    | ⟨.inr _, _⟩ => none

/-- The events of the right side, in order. -/
def rights (t : Trace (A.sum B)) : Trace B :=
  t.filterMap fun
    | ⟨.inl _, _⟩ => none
    | ⟨.inr query, reply⟩ => some ⟨query, reply⟩

section Sides

variable {t t' : Trace (A.sum B)} {u : Trace A} {v : Trace B}

@[simp] theorem lefts_append : lefts (t ++ t') = lefts t ++ lefts t' := List.filterMap_append

@[simp] theorem rights_append : rights (t ++ t') = rights t ++ rights t' := List.filterMap_append

@[simp] theorem lefts_map_left : lefts (u.map Event.left : Trace (A.sum B)) = u := by
  induction u with
  | nil => rfl
  | cons event u ih => exact congrArg (event :: ·) ih

@[simp] theorem lefts_map_right : lefts (v.map Event.right : Trace (A.sum B)) = [] := by
  induction v with
  | nil => rfl
  | cons event v ih => exact ih

@[simp] theorem rights_map_left : rights (u.map Event.left : Trace (A.sum B)) = [] := by
  induction u with
  | nil => rfl
  | cons event u ih => exact ih

@[simp] theorem rights_map_right : rights (v.map Event.right : Trace (A.sum B)) = v := by
  induction v with
  | nil => rfl
  | cons event v ih => exact congrArg (event :: ·) ih

theorem mem_rights {event : Event B} (h : event ∈ rights t) : event.right ∈ t := by
  obtain ⟨⟨query | query, reply⟩, hmem, hsame⟩ := List.mem_filterMap.mp h
  · cases hsame
  · cases hsame
    exact hmem

end Sides

/-- An event of the right side of which something holds. -/
def OnRight (loud : Event B → Prop) (event : Event (A.sum B)) : Prop :=
  ∃ e, event = Event.right e ∧ loud e

theorem onRight_right {loud : Event B → Prop} {event : Event B} :
    OnRight loud (event.right : Event (A.sum B)) ↔ loud event := by
  constructor
  · rintro ⟨e, he, hloud⟩
    obtain ⟨query, reply⟩ := event
    cases he
    exact hloud
  · intro hloud
    exact ⟨event, rfl, hloud⟩

theorem not_onRight_left {loud : Event B → Prop} {event : Event A} :
    ¬ OnRight loud (event.left : Event (A.sum B)) := by
  rintro ⟨e, he, -⟩
  cases he

/-- Each side answers its own queries, given its own events. -/
def Environment.sum (env : Environment A) (env' : Environment B) : Environment (A.sum B) :=
  fun past query =>
    match query with
    | .inl q => env (lefts past) q
    | .inr q => env' (rights past) q

namespace Program

/-- A program over the left side. -/
def left : Program A α → Program (A.sum B) α
  | ret a => ret a
  | call q k => call (.inl q) fun r => left (k r)

/-- A program over the right side. -/
def right : Program B α → Program (A.sum B) α
  | ret a => ret a
  | call q k => call (.inr q) fun r => right (k r)

theorem runs_left {p : Program A α} {t : Trace (A.sum B)} {a : α} :
    (left p).Runs t a ↔ ∃ u, t = u.map Event.left ∧ p.Runs u a := by
  induction p generalizing t with
  | ret b =>
      constructor
      · rintro ⟨rfl, rfl⟩
        exact ⟨[], rfl, rfl, rfl⟩
      · rintro ⟨u, rfl, rfl, rfl⟩
        exact ⟨rfl, rfl⟩
  | call q k ih =>
      constructor
      · rintro ⟨r, t', rfl, hrun⟩
        obtain ⟨u, rfl, hu⟩ := (ih r).mp hrun
        exact ⟨⟨q, r⟩ :: u, rfl, r, u, rfl, hu⟩
      · rintro ⟨u, rfl, r, u', rfl, hu⟩
        exact ⟨r, _, rfl, (ih r).mpr ⟨u', rfl, hu⟩⟩

theorem runs_right {p : Program B α} {t : Trace (A.sum B)} {a : α} :
    (right p).Runs t a ↔ ∃ u, t = u.map Event.right ∧ p.Runs u a := by
  induction p generalizing t with
  | ret b =>
      constructor
      · rintro ⟨rfl, rfl⟩
        exact ⟨[], rfl, rfl, rfl⟩
      · rintro ⟨u, rfl, rfl, rfl⟩
        exact ⟨rfl, rfl⟩
  | call q k ih =>
      constructor
      · rintro ⟨r, t', rfl, hrun⟩
        obtain ⟨u, rfl, hu⟩ := (ih r).mp hrun
        exact ⟨⟨q, r⟩ :: u, rfl, r, u, rfl, hu⟩
      · rintro ⟨u, rfl, r, u', rfl, hu⟩
        exact ⟨r, _, rfl, (ih r).mpr ⟨u', rfl, hu⟩⟩

section Events

variable {P : Event (A.sum B) → Prop}

theorem every_left {p : Program A α} (h : Every (fun event => P event.left) p) :
    Every P (left p : Program (A.sum B) α) := by
  intro t a hrun event hmem
  obtain ⟨u, rfl, hu⟩ := runs_left.mp hrun
  obtain ⟨e, he, rfl⟩ := List.mem_map.mp hmem
  exact h u a hu e he

theorem every_right {p : Program B α} (h : Every (fun event => P event.right) p) :
    Every P (right p : Program (A.sum B) α) := by
  intro t a hrun event hmem
  obtain ⟨u, rfl, hu⟩ := runs_right.mp hrun
  obtain ⟨e, he, rfl⟩ := List.mem_map.mp hmem
  exact h u a hu e he

end Events

/-- One loud event of the right side is one of the sum. -/
theorem once_right {loud : Event B → Prop} {Q : Event B → Trace B → α → Prop} {p : Program B α}
    (h : Once loud Q p) :
    Once (OnRight loud : Event (A.sum B) → Prop)
      (fun event after a => ∃ e u, event = Event.right e ∧ after = u.map Event.right ∧ Q e u a)
      (right p) := by
  have hquiet : ∀ {u : Trace B}, (∀ e ∈ u, ¬ loud e) →
      ∀ event ∈ u.map (Event.right : Event B → Event (A.sum B)), ¬ OnRight loud event := by
    intro u hu event hmem
    obtain ⟨e, he, rfl⟩ := List.mem_map.mp hmem
    exact fun hloud => hu e he (onRight_right.mp hloud)
  intro t a hrun
  obtain ⟨u, rfl, hu⟩ := runs_right.mp hrun
  rcases h u a hu with hnone | ⟨before, event, after, rfl, hevent, hbefore, hafter, hQ⟩
  · exact .inl (hquiet hnone)
  · exact .inr ⟨before.map Event.right, event.right, after.map Event.right, by simp,
      onRight_right.mpr hevent, hquiet hbefore, hquiet hafter, event, after, rfl, rfl, hQ⟩

end Program

namespace Fallible

open Program

/-- Run a program of the right side and continue with its result, a failure included. -/
def outcomeRight (x : Fallible B ε α) : Fallible (A.sum B) δ (Except ε α) :=
  ExceptT.lift (Program.right x.run)

/-- The one loud event is in the program of the right side. -/
theorem once_outcomeRight_bind {β : Type} {loud : Event B → Prop}
    {Q : Event B → Trace B → Except ε α → Prop}
    {Q' : Event (A.sum B) → Trace (A.sum B) → Except δ β → Prop} {x : Fallible B ε α}
    {f : Except ε α → Fallible (A.sum B) δ β} (hx : Once loud Q x.run)
    (hf : ∀ r, Every (fun event => ¬ OnRight loud event) (f r).run)
    (hQ : ∀ event after r t b, Q event after r → (f r).run.Runs t b →
      Q' event.right (after.map Event.right ++ t) b) :
    Once (OnRight loud) Q' (outcomeRight x >>= f).run := by
  have hlift : (outcomeRight x >>= f).run =
      (Program.right x.run >>= fun r => (f r).run : Program (A.sum B) (Except δ β)) := by
    change (Program.right x.run >>= fun r => pure (Except.ok r)) >>= _ = _
    rw [bind_assoc]
    rfl
  rw [hlift]
  refine once_bind_head (once_right hx) hf ?_
  rintro event after r t b ⟨e, u, rfl, rfl, h⟩ hrun
  exact hQ e u r t b h hrun

/-- A fallible program over the left side, its error mapped. -/
def left (f : ε → δ) (x : Fallible A ε α) : Fallible (A.sum B) δ α :=
  ExceptT.mk (Program.left x.run >>= fun r => pure (r.mapError f))

/-- A fallible program over the right side, its error mapped. -/
def right (f : ε → δ) (x : Fallible B ε α) : Fallible (A.sum B) δ α :=
  ExceptT.mk (Program.right x.run >>= fun r => pure (r.mapError f))

theorem every_left {P : Event (A.sum B) → Prop} {f : ε → δ} {x : Fallible A ε α}
    (h : Every (fun event => P event.left) x.run) :
    Every P (left f x : Fallible (A.sum B) δ α).run :=
  Program.every_bind (Program.every_left h) fun _ => every_pure _

theorem every_right {P : Event (A.sum B) → Prop} {f : ε → δ} {x : Fallible B ε α}
    (h : Every (fun event => P event.right) x.run) :
    Every P (right f x : Fallible (A.sum B) δ α).run :=
  Program.every_bind (Program.every_right h) fun _ => every_pure _

section Runs

variable {f : ε → δ} {t : Trace (A.sum B)}

theorem runs_left {x : Fallible A ε α} {r : Except δ α} :
    (left f x : Fallible (A.sum B) δ α).run.Runs t r ↔
      ∃ u s, t = u.map Event.left ∧ x.run.Runs u s ∧ r = s.mapError f := by
  change (Program.left x.run >>= fun r => pure (r.mapError f)).Runs t r ↔ _
  rw [Program.runs_bind]
  constructor
  · rintro ⟨t₁, s, t₂, rfl, hx, rfl, rfl⟩
    obtain ⟨u, rfl, hu⟩ := Program.runs_left.mp hx
    exact ⟨u, s, List.append_nil _, hu, rfl⟩
  · rintro ⟨u, s, rfl, hu, rfl⟩
    exact ⟨_, s, [], (List.append_nil _).symm, Program.runs_left.mpr ⟨u, rfl, hu⟩, rfl, rfl⟩

theorem runs_right {x : Fallible B ε α} {r : Except δ α} :
    (right f x : Fallible (A.sum B) δ α).run.Runs t r ↔
      ∃ u s, t = u.map Event.right ∧ x.run.Runs u s ∧ r = s.mapError f := by
  change (Program.right x.run >>= fun r => pure (r.mapError f)).Runs t r ↔ _
  rw [Program.runs_bind]
  constructor
  · rintro ⟨t₁, s, t₂, rfl, hx, rfl, rfl⟩
    obtain ⟨u, rfl, hu⟩ := Program.runs_right.mp hx
    exact ⟨u, s, List.append_nil _, hu, rfl⟩
  · rintro ⟨u, s, rfl, hu, rfl⟩
    exact ⟨_, s, [], (List.append_nil _).symm, Program.runs_right.mpr ⟨u, rfl, hu⟩, rfl, rfl⟩

theorem runs_left_ok {x : Fallible A ε α} {a : α} :
    (left f x : Fallible (A.sum B) δ α).run.Runs t (.ok a) ↔
      ∃ u, t = u.map Event.left ∧ x.run.Runs u (.ok a) := by
  rw [runs_left]
  constructor
  · rintro ⟨u, s, rfl, hu, hs⟩
    rw [eq_comm, except_mapError_eq_ok] at hs
    subst hs
    exact ⟨u, rfl, hu⟩
  · rintro ⟨u, rfl, hu⟩
    exact ⟨u, .ok a, rfl, hu, rfl⟩

theorem runs_right_ok {x : Fallible B ε α} {a : α} :
    (right f x : Fallible (A.sum B) δ α).run.Runs t (.ok a) ↔
      ∃ u, t = u.map Event.right ∧ x.run.Runs u (.ok a) := by
  rw [runs_right]
  constructor
  · rintro ⟨u, s, rfl, hu, hs⟩
    rw [eq_comm, except_mapError_eq_ok] at hs
    subst hs
    exact ⟨u, rfl, hu⟩
  · rintro ⟨u, rfl, hu⟩
    exact ⟨u, .ok a, rfl, hu, rfl⟩

theorem runs_outcomeRight_ok {x : Fallible B ε α} {s : Except ε α} :
    (outcomeRight x : Fallible (A.sum B) δ (Except ε α)).run.Runs t (.ok s) ↔
      ∃ u, t = u.map Event.right ∧ x.run.Runs u s := by
  change (Program.right x.run >>= fun s => pure (Except.ok s)).Runs t _ ↔ _
  rw [Program.runs_bind]
  constructor
  · rintro ⟨t₁, s', t₂, rfl, hx, rfl, hs⟩
    cases hs
    obtain ⟨u, rfl, hu⟩ := Program.runs_right.mp hx
    exact ⟨u, List.append_nil _, hu⟩
  · rintro ⟨u, rfl, hu⟩
    exact ⟨_, s, [], (List.append_nil _).symm, Program.runs_right.mpr ⟨u, rfl, hu⟩, rfl, rfl⟩

end Runs

section Returns

variable {f : ε → δ} {good : Event (A.sum B) → Prop}

theorem returns_left {x : Fallible A ε α} {a : α}
    (h : Returns (fun event => good event.left) x a) :
    Returns good (left f x : Fallible (A.sum B) δ α) a := by
  intro t r hrun hgood
  obtain ⟨u, s, rfl, hu, rfl⟩ := runs_left.mp hrun
  have hs : s = .ok a := h u s hu fun event hmem => hgood _ (List.mem_map_of_mem hmem)
  rw [hs]
  rfl

theorem returns_right {x : Fallible B ε α} {a : α}
    (h : Returns (fun event => good event.right) x a) :
    Returns good (right f x : Fallible (A.sum B) δ α) a := by
  intro t r hrun hgood
  obtain ⟨u, s, rfl, hu, rfl⟩ := runs_right.mp hrun
  have hs : s = .ok a := h u s hu fun event hmem => hgood _ (List.mem_map_of_mem hmem)
  rw [hs]
  rfl

end Returns

end Fallible

end Interact
