import TestOps.Lib.Checked

/-! Computations that emit as they go and may raise: what has been emitted stays, whatever is raised
    behind it.

      emit a ▸ emit b ▸ raise e ▸ emit c          emitted: a b      outcome: e
      (emit a ▸ raise e) caught by emit d         emitted: a d      outcome: ok -/

structure Traced (ω ε α : Type) where
  emitted : List ω
  outcome : Except ε α

namespace Traced

variable {ω ε ε' α β : Type}

instance : Monad (Traced ω ε) where
  pure a := ⟨[], .ok a⟩
  bind x f :=
    match x.outcome with
    | .ok a => ⟨x.emitted ++ (f a).emitted, (f a).outcome⟩
    | .error e => ⟨x.emitted, .error e⟩

def emit (w : ω) : Traced ω ε Unit := ⟨[w], .ok ()⟩

def emitAll (ws : List ω) : Traced ω ε Unit := ⟨ws, .ok ()⟩

/-- A step that emits nothing. -/
def lift (x : Except ε α) : Traced ω ε α := ⟨[], x⟩

/-- What is raised is handled, behind what has been emitted before. -/
def handle (x : Traced ω ε α) (f : ε → Traced ω ε' α) : Traced ω ε' α :=
  match x.outcome with
  | .ok a => ⟨x.emitted, .ok a⟩
  | .error e => ⟨x.emitted ++ (f e).emitted, (f e).outcome⟩

variable {x : Traced ω ε α} {f : α → Traced ω ε β} {a : α} {b : β} {e : ε}

@[simp] theorem pure_emitted : (pure a : Traced ω ε α).emitted = [] := rfl

@[simp] theorem pure_outcome : (pure a : Traced ω ε α).outcome = .ok a := rfl

@[simp] theorem emit_emitted {w : ω} : (emit w : Traced ω ε Unit).emitted = [w] := rfl

@[simp] theorem emit_outcome {w : ω} : (emit w : Traced ω ε Unit).outcome = .ok () := rfl

@[simp] theorem emitAll_emitted {ws : List ω} : (emitAll ws : Traced ω ε Unit).emitted = ws := rfl

@[simp] theorem emitAll_outcome {ws : List ω} :
    (emitAll ws : Traced ω ε Unit).outcome = .ok () := rfl

@[simp] theorem lift_emitted {y : Except ε α} : (lift y : Traced ω ε α).emitted = [] := rfl

@[simp] theorem lift_outcome {y : Except ε α} : (lift y : Traced ω ε α).outcome = y := rfl

@[simp] theorem bind_outcome : (x >>= f).outcome = x.outcome >>= fun a => (f a).outcome := by
  change (match x.outcome with | .ok a => (⟨_, _⟩ : Traced ω ε β) | .error e => ⟨_, _⟩).outcome = _
  cases x.outcome <;> rfl

theorem bind_of_ok (h : x.outcome = .ok a) :
    x >>= f = ⟨x.emitted ++ (f a).emitted, (f a).outcome⟩ := by
  change (match x.outcome with | .ok a => (⟨_, _⟩ : Traced ω ε β) | .error e => ⟨_, _⟩) = _
  rw [h]

theorem bind_of_error (h : x.outcome = .error e) : x >>= f = ⟨x.emitted, .error e⟩ := by
  change (match x.outcome with | .ok a => (⟨_, _⟩ : Traced ω ε β) | .error e => ⟨_, _⟩) = _
  rw [h]

theorem handle_of_ok {g : ε → Traced ω ε' α} (h : x.outcome = .ok a) :
    x.handle g = ⟨x.emitted, .ok a⟩ := by
  rw [handle, h]

theorem handle_of_error {g : ε → Traced ω ε' α} (h : x.outcome = .error e) :
    x.handle g = ⟨x.emitted ++ (g e).emitted, (g e).outcome⟩ := by
  rw [handle, h]

/-- A sequence that returns has gone through all of its steps. -/
theorem bind_ok (h : (x >>= f).outcome = .ok b) : ∃ a, x.outcome = .ok a ∧ (f a).outcome = .ok b ∧
    (x >>= f).emitted = x.emitted ++ (f a).emitted := by
  rw [bind_outcome, Checked.bind_eq_ok] at h
  obtain ⟨a, ha, hb⟩ := h
  exact ⟨a, ha, hb, by rw [bind_of_ok ha]⟩

/-- A step behind another one is reached only if that one returns. -/
theorem bind_emitted : (x >>= f).emitted = x.emitted ++
    match x.outcome with
    | .ok a => (f a).emitted
    | .error _ => [] := by
  cases h : x.outcome with
  | ok a => rw [bind_of_ok h]
  | error e => rw [bind_of_error h, List.append_nil]

/-! ### What all that is emitted has in common -/

/-- Everything that is emitted satisfies the predicate. -/
def Emits (p : ω → Prop) (x : Traced ω ε α) : Prop := ∀ w ∈ x.emitted, p w

variable {p : ω → Prop}

theorem emits_pure : Emits p (pure a : Traced ω ε α) := nofun

theorem emits_lift {y : Except ε α} : Emits p (lift y : Traced ω ε α) := nofun

theorem emits_emit {w : ω} (h : p w) : Emits p (emit w : Traced ω ε Unit) := by
  intro w' hw'
  rwa [List.mem_singleton.mp hw']

theorem emits_emitAll {ws : List ω} (h : ∀ w ∈ ws, p w) :
    Emits p (emitAll ws : Traced ω ε Unit) := h

theorem Emits.bind (hx : Emits p x) (hf : ∀ a, x.outcome = .ok a → Emits p (f a)) :
    Emits p (x >>= f) := by
  intro w hw
  rw [bind_emitted] at hw
  rcases List.mem_append.mp hw with hw | hw
  · exact hx w hw
  · cases h : x.outcome with
    | ok a =>
      rw [h] at hw
      exact hf a h w hw
    | error e =>
      rw [h] at hw
      cases hw

theorem Emits.handle {g : ε → Traced ω ε' α} (hx : Emits p x)
    (hg : ∀ e, x.outcome = .error e → Emits p (g e)) : Emits p (x.handle g) := by
  intro w hw
  cases h : x.outcome with
  | ok a =>
    rw [handle_of_ok h] at hw
    exact hx w hw
  | error e =>
    rw [handle_of_error h] at hw
    rcases List.mem_append.mp hw with hw | hw
    · exact hx w hw
    · exact hg e h w hw

/-! ### How often something is emitted -/

/-- At most `n` of the emitted satisfy the test. -/
def EmitsAtMost (q : ω → Bool) (n : ℕ) (x : Traced ω ε α) : Prop := x.emitted.countP q ≤ n

variable {q : ω → Bool} {m n : ℕ}

theorem emitsAtMost_of_emits (h : Emits (fun w => q w = false) x) : EmitsAtMost q 0 x := by
  rw [EmitsAtMost, Nat.le_zero, List.countP_eq_zero]
  intro w hw hq
  rw [h w hw] at hq
  cases hq

theorem emitsAtMost_emit {w : ω} : EmitsAtMost q 1 (emit w : Traced ω ε Unit) :=
  List.countP_le_length

theorem EmitsAtMost.mono (h : EmitsAtMost q m x) (hle : m ≤ n) : EmitsAtMost q n x := h.trans hle

theorem EmitsAtMost.bind (hx : EmitsAtMost q m x)
    (hf : ∀ a, x.outcome = .ok a → EmitsAtMost q n (f a)) : EmitsAtMost q (m + n) (x >>= f) := by
  rw [EmitsAtMost, bind_emitted, List.countP_append]
  refine Nat.add_le_add hx ?_
  cases h : x.outcome with
  | ok a => exact hf a h
  | error e => exact Nat.zero_le n

theorem EmitsAtMost.handle {g : ε → Traced ω ε' α} (hx : EmitsAtMost q m x)
    (hg : ∀ e, x.outcome = .error e → EmitsAtMost q n (g e)) :
    EmitsAtMost q (m + n) (x.handle g) := by
  cases h : x.outcome with
  | ok a =>
    rw [handle_of_ok h]
    exact hx.mono (Nat.le_add_right m n)
  | error e =>
    rw [handle_of_error h, EmitsAtMost, List.countP_append]
    exact Nat.add_le_add hx (hg e h)

/-! ### What is emitted, with what has been emitted before -/

/-- Each of the emitted is related to what stands in front of it. -/
def EmitsAfter (r : List ω → ω → Prop) (before : List ω) (x : Traced ω ε α) : Prop :=
  ∀ front w back, x.emitted = front ++ w :: back → r (before ++ front) w

variable {r : List ω → ω → Prop} {before : List ω}

theorem emitsAfter_of_emits (h : Emits (fun w => ∀ before, r before w) x) :
    EmitsAfter r before x := by
  intro front w back hsplit
  exact h w (hsplit ▸ List.mem_append_right front List.mem_cons_self) _

theorem emitsAfter_emit {w : ω} (h : r before w) :
    EmitsAfter r before (emit w : Traced ω ε Unit) := by
  intro front w' back hsplit
  cases front with
  | nil =>
    obtain ⟨rfl, -⟩ := List.cons.inj hsplit
    rwa [List.append_nil]
  | cons v front =>
    obtain ⟨-, hnil⟩ := List.cons.inj hsplit
    exact absurd hnil.symm (List.append_ne_nil_of_right_ne_nil front (List.cons_ne_nil w' back))

/-- Behind an emission, it is part of what has been emitted before. -/
theorem emitsAfter_append {before ws ws' : List ω}
    (h : ∀ front w back, ws = front ++ w :: back → r (before ++ front) w)
    (h' : ∀ front w back, ws' = front ++ w :: back → r (before ++ ws ++ front) w) :
    ∀ front w back, ws ++ ws' = front ++ w :: back → r (before ++ front) w := by
  intro front w back hsplit
  rcases List.append_eq_append_iff.mp hsplit with ⟨middle, rfl, hws'⟩ | ⟨middle, rfl, hback⟩
  · rw [← List.append_assoc]
    exact h' middle w back hws'
  · cases middle with
    | nil =>
      rw [List.append_nil] at h h'
      have hrest := h' [] w back hback.symm
      rwa [List.append_nil] at hrest
    | cons v middle =>
      obtain ⟨rfl, -⟩ := List.cons.inj hback
      exact h front w middle rfl

theorem EmitsAfter.bind (hx : EmitsAfter r before x)
    (hf : ∀ a, x.outcome = .ok a → EmitsAfter r (before ++ x.emitted) (f a)) :
    EmitsAfter r before (x >>= f) := by
  rw [EmitsAfter, bind_emitted]
  refine emitsAfter_append hx ?_
  cases h : x.outcome with
  | ok a => exact hf a h
  | error e =>
    intro front w back hsplit
    exact absurd hsplit.symm (List.append_ne_nil_of_right_ne_nil front (List.cons_ne_nil w back))

theorem EmitsAfter.handle {g : ε → Traced ω ε' α} (hx : EmitsAfter r before x)
    (hg : ∀ e, x.outcome = .error e → EmitsAfter r (before ++ x.emitted) (g e)) :
    EmitsAfter r before (x.handle g) := by
  cases h : x.outcome with
  | ok a =>
    rw [handle_of_ok h]
    exact hx
  | error e =>
    rw [handle_of_error h]
    exact emitsAfter_append hx (hg e h)

end Traced
