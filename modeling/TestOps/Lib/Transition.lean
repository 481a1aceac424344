import Mathlib

/-! Transition systems whose steps are labelled with actions, and the three ways to speak about
    their runs:

      Reachable     a property of every state, proved from an inductive invariant
      Steps         a property that relates an earlier state to every later one
      History       a property of the whole run so far, read backwards from the last step

    A restricted system takes only the steps its guard admits; what is proved of it holds of every
    run whose steps all meet the guard. -/

namespace Transition

variable {σ α ε ι : Type*}

/-- States, initial states, and what an action may turn a state into. -/
structure System (σ α : Type*) where
  init : σ → Prop
  next : σ → α → σ → Prop

namespace System

variable {S : System σ α} {s s' s'' : σ} {a : α}

/-- A state some run of the system ends in. -/
inductive Reachable (S : System σ α) : σ → Prop
  | init {s : σ} : S.init s → Reachable S s
  | step {s s' : σ} {a : α} : Reachable S s → S.next s a s' → Reachable S s'

/-- An invariant holds of every reachable state: it holds initially and every step keeps it. -/
theorem Reachable.invariant {p : σ → Prop} (base : ∀ s, S.init s → p s)
    (step : ∀ s a s', S.next s a s' → p s → p s') (h : S.Reachable s) : p s := by
  induction h with
  | init h => exact base _ h
  | step _ h ih => exact step _ _ _ h ih

/-- A further invariant may use one that is already established, before and after the step. -/
theorem Reachable.invariant_of {k p : σ → Prop} (hknown : ∀ s, S.Reachable s → k s)
    (base : ∀ s, S.init s → p s)
    (step : ∀ s a s', S.next s a s' → k s → k s' → p s → p s')
    (h : S.Reachable s) : p s := by
  induction h with
  | init h => exact base _ h
  | step hr h ih => exact step _ _ _ h (hknown _ hr) (hknown _ (hr.step h)) ih

/-! ### Later states -/

/-- `s'` is reached from `s` by any number of steps. -/
def Steps (S : System σ α) : σ → σ → Prop :=
  Relation.ReflTransGen fun s s' => ∃ a, S.next s a s'

theorem Reachable.steps (h : S.Reachable s) (hs : S.Steps s s') : S.Reachable s' := by
  induction hs with
  | refl => exact h
  | tail _ hn ih => obtain ⟨a, hn⟩ := hn; exact ih.step hn

/-- What every step from a reachable state preserves is never lost again. -/
theorem Steps.preserves {p : σ → Prop} (hr : S.Reachable s) (hs : S.Steps s s')
    (step : ∀ s a s', S.Reachable s → S.next s a s' → p s → p s') (hp : p s) : p s' := by
  induction hs with
  | refl => exact hp
  | tail hpre hn ih => obtain ⟨a, hn⟩ := hn; exact step _ _ _ (hr.steps hpre) hn ih

/-! ### Restricted systems -/

/-- The system that takes only the steps `guard` admits. -/
def restrict (S : System σ α) (guard : σ → α → Prop) : System σ α where
  init := S.init
  next s a s' := guard s a ∧ S.next s a s'

theorem Reachable.of_restrict {g : σ → α → Prop} (h : (S.restrict g).Reachable s) :
    S.Reachable s := by
  induction h with
  | init h => exact .init h
  | step _ h ih => exact ih.step h.2

/-! ### Histories -/

/-- One step of a run. -/
structure Event (σ α : Type*) where
  before : σ
  action : α
  after : σ

/-- The steps of a run that ends in `s`, the last one first. -/
inductive History (S : System σ α) : List (Event σ α) → σ → Prop
  | init {s : σ} : S.init s → History S [] s
  | step {s s' : σ} {a : α} {h : List (Event σ α)} :
      History S h s → S.next s a s' → History S (⟨s, a, s'⟩ :: h) s'

theorem History.reachable {h : List (Event σ α)} (hh : S.History h s) : S.Reachable s := by
  induction hh with
  | init h => exact .init h
  | step _ hn ih => exact ih.step hn

/-- Every event of a run is a step of the system. -/
theorem History.next {h : List (Event σ α)} (hh : S.History h s) :
    ∀ e ∈ h, S.next e.before e.action e.after := by
  induction hh with
  | init => exact fun _ hmem => absurd hmem List.not_mem_nil
  | step _ hn ih => exact List.forall_mem_cons.mpr ⟨hn, ih⟩

theorem Reachable.history (hr : S.Reachable s) : ∃ h, S.History h s := by
  induction hr with
  | init h => exact ⟨[], .init h⟩
  | step _ hn ih => obtain ⟨h, hh⟩ := ih; exact ⟨_, hh.step hn⟩

/-- An invariant of histories: it holds of the empty run and every further step keeps it. -/
theorem History.invariant {p : List (Event σ α) → σ → Prop}
    (base : ∀ s, S.init s → p [] s)
    (step : ∀ h s a s', S.History h s → S.next s a s' → p h s → p (⟨s, a, s'⟩ :: h) s')
    {h : List (Event σ α)} (hh : S.History h s) : p h s := by
  induction hh with
  | init h => exact base _ h
  | step hh hn ih => exact step _ _ _ _ hh hn ih

/-- The last step of a run leads to the state the run ends in. -/
theorem History.after_eq {e : Event σ α} {h : List (Event σ α)} (hh : S.History (e :: h) s) :
    e.after = s := by
  cases hh
  rfl

/-- A run is a run up to each of its events, and then goes on. -/
theorem History.split {h : List (Event σ α)} (hh : S.History h s) {later earlier : List (Event σ α)}
    {e : Event σ α} (heq : h = later ++ e :: earlier) :
    S.History earlier e.before ∧ S.next e.before e.action e.after ∧ S.Steps e.after s := by
  induction hh generalizing later with
  | init => exact absurd heq (by simp)
  | @step s s' a h hh hn ih =>
    cases later with
    | nil =>
      obtain ⟨rfl, rfl⟩ := List.cons.inj heq
      exact ⟨hh, hn, .refl⟩
    | cons x later =>
      obtain ⟨rfl, rfl⟩ := List.cons.inj heq
      obtain ⟨hearlier, hnext, hsteps⟩ := ih rfl
      exact ⟨hearlier, hnext, hsteps.tail ⟨a, hn⟩⟩

/-- What every step of a run keeps is never lost again later in the run. -/
theorem History.keeps {p : σ → Prop} {h : List (Event σ α)} (hh : S.History h s)
    (hkeep : ∀ e ∈ h, p e.before → p e.after) {later earlier : List (Event σ α)}
    {e : Event σ α} (heq : h = later ++ e :: earlier) (hp : p e.before) :
    ∀ e' ∈ e :: later, p e'.after := by
  induction hh generalizing later with
  | init => exact absurd heq (by simp)
  | @step s s' a h hh hn ih =>
    obtain ⟨hlast, hkeep⟩ := List.forall_mem_cons.mp hkeep
    cases later with
    | nil =>
      obtain ⟨rfl, rfl⟩ := List.cons.inj heq
      exact List.forall_mem_singleton.mpr (hlast hp)
    | cons x later =>
      obtain ⟨rfl, rfl⟩ := List.cons.inj heq
      have hearlier := ih hkeep rfl
      have hs : p s := by
        cases later with
        | nil => exact hh.after_eq ▸ hearlier e List.mem_cons_self
        | cons y later =>
          exact hh.after_eq ▸ hearlier y (List.mem_cons_of_mem _ List.mem_cons_self)
      intro e' he'
      rcases List.mem_cons.mp he' with rfl | he'
      · exact hearlier e' List.mem_cons_self
      · rcases List.mem_cons.mp he' with rfl | he'
        · exact hlast hs
        · exact hearlier e' (List.mem_cons_of_mem _ he')

end System

/-- Some event of the history satisfies `q`, which may look at the events before it, and every
    later event satisfies `p`. -/
def Since (p : ι → Prop) (q : ι → List ι → Prop) : List ι → Prop
  | [] => False
  | e :: h => q e h ∨ (p e ∧ Since p q h)

instance decidableSince {p : ι → Prop} {q : ι → List ι → Prop} [DecidablePred p]
    [∀ e h, Decidable (q e h)] : ∀ h : List ι, Decidable (Since p q h)
  | [] => inferInstanceAs (Decidable False)
  | _ :: h =>
    have := decidableSince (p := p) (q := q) h
    inferInstanceAs (Decidable (_ ∨ _ ∧ _))

/-- A history satisfies `Since p q` exactly when it splits at an event that satisfies `q`. -/
theorem since_iff {p : ι → Prop} {q : ι → List ι → Prop} {h : List ι} :
    Since p q h ↔ ∃ later e earlier, h = later ++ e :: earlier ∧ q e earlier ∧
      ∀ x ∈ later, p x := by
  induction h with
  | nil => simp [Since]
  | cons x h ih =>
    rw [Since, ih]
    constructor
    · rintro (hq | ⟨hp, later, e, earlier, rfl, hq, hall⟩)
      · exact ⟨[], x, h, rfl, hq, by simp⟩
      · exact ⟨x :: later, e, earlier, rfl, hq, List.forall_mem_cons.mpr ⟨hp, hall⟩⟩
    · rintro ⟨later, e, earlier, heq, hq, hall⟩
      cases later with
      | nil => cases heq; exact .inl hq
      | cons y later =>
        obtain ⟨rfl, rfl⟩ := List.cons.inj heq
        obtain ⟨hp, hall⟩ := List.forall_mem_cons.mp hall
        exact .inr ⟨hp, later, e, earlier, rfl, hq, hall⟩

/-! ### Machines -/

/-- A system given by a function: an action either fails, and the state stays, or yields the
    next state. -/
def machine (init : σ → Prop) (step : σ → α → Except ε σ) : System σ α where
  init := init
  next s a s' := step s a = .ok s'

/-- Take a list of actions one after the other. -/
def runActions (step : σ → α → Except ε σ) : σ → List α → Except ε σ
  | s, [] => .ok s
  | s, a :: as =>
    match step s a with
    | .ok s' => runActions step s' as
    | .error e => .error e

/-- All actions of the list succeed, and the state they lead to satisfies `p`. -/
def Ends (step : σ → α → Except ε σ) (s : σ) (as : List α) (p : σ → Prop) : Prop :=
  match runActions step s as with
  | .ok s' => p s'
  | .error _ => False

instance {step : σ → α → Except ε σ} {s : σ} {as : List α} {p : σ → Prop} [DecidablePred p] :
    Decidable (Ends step s as p) :=
  match h : runActions step s as with
  | .ok s' => decidable_of_iff (p s') (by rw [Ends, h])
  | .error _ => .isFalse (by rw [Ends, h]; exact id)

theorem ends_singleton {step : σ → α → Except ε σ} {s : σ} {a : α} {p : σ → Prop} :
    Ends step s [a] p ↔ ∃ s', step s a = .ok s' ∧ p s' := by
  rw [Ends, runActions]
  cases h : step s a with
  | ok s' => simp [runActions]
  | error e => simp

/-- A run of actions is a run of any system whose steps include its steps. -/
theorem steps_of_runActions {S : System σ α} {step : σ → α → Except ε σ} {s s' : σ}
    {as : List α} (hS : ∀ a ∈ as, ∀ s s', step s a = .ok s' → S.next s a s')
    (h : runActions step s as = .ok s') : S.Steps s s' := by
  induction as generalizing s with
  | nil => cases h; exact .refl
  | cons a as ih =>
    obtain ⟨ha, has⟩ := List.forall_mem_cons.mp hS
    rw [runActions] at h
    split at h
    · rename_i s₁ h₁
      exact .head ⟨a, ha s s₁ h₁⟩ (ih has h)
    · cases h

/-- A run of actions that ends in `p` leads to a state in `p`. -/
theorem Ends.exists_steps {S : System σ α} {step : σ → α → Except ε σ} {s : σ}
    {as : List α} {p : σ → Prop} (h : Ends step s as p)
    (hS : ∀ a ∈ as, ∀ s s', step s a = .ok s' → S.next s a s') :
    ∃ s', S.Steps s s' ∧ p s' := by
  unfold Ends at h
  split at h
  · rename_i s' hrun
    exact ⟨s', steps_of_runActions hS hrun, h⟩
  · exact h.elim

/-- A run of actions from an initial state reaches the state it leads to. -/
theorem Ends.exists_reachable {S : System σ α} {step : σ → α → Except ε σ} {s : σ}
    {as : List α} {p : σ → Prop} (h : Ends step s as p)
    (hS : ∀ a ∈ as, ∀ s s', step s a = .ok s' → S.next s a s') (hs : S.init s) :
    ∃ s', S.Reachable s' ∧ p s' := by
  obtain ⟨s', hsteps, hp⟩ := h.exists_steps hS
  exact ⟨s', (System.Reachable.init hs).steps hsteps, hp⟩

/-- The step function that stops with `e` where the guard does not admit the action. -/
def guarded (step : σ → α → Except ε σ) (guard : σ → α → Prop)
    [∀ s a, Decidable (guard s a)] (e : ε) (s : σ) (a : α) : Except ε σ :=
  if guard s a then step s a else .error e

/-- A guarded run that ends in `p` is a run of the restricted machine. -/
theorem Ends.exists_restricted {init : σ → Prop} {step : σ → α → Except ε σ}
    {guard : σ → α → Prop} [∀ s a, Decidable (guard s a)] {e : ε} {s : σ} {as : List α}
    {p : σ → Prop} (h : Ends (guarded step guard e) s as p) (hs : init s) :
    ∃ s', ((machine init step).restrict guard).Reachable s' ∧ p s' := by
  refine h.exists_reachable (fun a _ t t' hstep => ?_) hs
  rw [guarded] at hstep
  split at hstep
  · rename_i hguard
    exact ⟨hguard, hstep⟩
  · cases hstep

theorem Ends.exists_guarded {step : σ → α → Except ε σ} {guard : σ → α → Prop}
    [∀ s a, Decidable (guard s a)] {e : ε} {s : σ} {as : List α} {p : σ → Prop}
    (h : Ends (guarded step guard e) s as p) :
    ∃ s', ((machine (· = s) step).restrict guard).Reachable s' ∧ p s' :=
  h.exists_restricted rfl

/-- Take a list of actions after a run, and keep the events. -/
def runEvents (step : σ → α → Except ε σ) :
    List (System.Event σ α) → σ → List α → Except ε (List (System.Event σ α) × σ)
  | h, s, [] => .ok (h, s)
  | h, s, a :: as =>
    match step s a with
    | .ok s' => runEvents step (⟨s, a, s'⟩ :: h) s' as
    | .error e => .error e

/-- All actions of the list succeed, and the run they are satisfies `p`. -/
def Traces (step : σ → α → Except ε σ) (s : σ) (as : List α)
    (p : List (System.Event σ α) → σ → Prop) : Prop :=
  match runEvents step [] s as with
  | .ok (h, s') => p h s'
  | .error _ => False

instance {step : σ → α → Except ε σ} {s : σ} {as : List α}
    {p : List (System.Event σ α) → σ → Prop} [∀ h s, Decidable (p h s)] :
    Decidable (Traces step s as p) :=
  match h : runEvents step [] s as with
  | .ok (events, s') => decidable_of_iff (p events s') (by rw [Traces, h])
  | .error _ => .isFalse (by rw [Traces, h]; exact id)

theorem history_of_runEvents {init : σ → Prop} {step : σ → α → Except ε σ} {s s' : σ}
    {as : List α} {h h' : List (System.Event σ α)} (hh : (machine init step).History h s)
    (hrun : runEvents step h s as = .ok (h', s')) : (machine init step).History h' s' := by
  induction as generalizing h s with
  | nil => cases hrun; exact hh
  | cons a as ih =>
    rw [runEvents] at hrun
    split at hrun
    · rename_i s₁ h₁
      exact ih (hh.step h₁) hrun
    · cases hrun

/-- A run of actions that satisfies `p` is a history that does. -/
theorem Traces.exists_history {init : σ → Prop} {step : σ → α → Except ε σ} {s : σ}
    {as : List α} {p : List (System.Event σ α) → σ → Prop} (h : Traces step s as p)
    (hs : init s) : ∃ events s', (machine init step).History events s' ∧ p events s' := by
  unfold Traces at h
  split at h
  · rename_i events s' hrun
    exact ⟨events, s', history_of_runEvents (.init hs) hrun, h⟩
  · exact h.elim

end Transition
