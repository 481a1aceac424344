import TestOps.Lib.Checked

/-! Computations that work on a state and may raise: the state stays as it is left, whatever is
    raised.

      x ▸ y                  s  ──x──▸  s₁  ──y──▸  s₂
      x raises, y is next    s  ──x──▸  s₁                 outcome: what x has raised
      x finally z            s  ──x──▸  s₁  ──z──▸  s₂     outcome: that of x -/

def Attempt (σ ε α : Type) := σ → Except ε α × σ

namespace Attempt

variable {σ ε ε' α β : Type}

instance : Monad (Attempt σ ε) where
  pure a := fun s => (.ok a, s)
  bind x f := fun s =>
    match x s with
    | (.ok a, s') => f a s'
    | (.error e, s') => (.error e, s')

/-- The state as it is. -/
def get : Attempt σ ε σ := fun s => (.ok s, s)

def modify (f : σ → σ) : Attempt σ ε Unit := fun s => (.ok (), f s)

/-- A computation without the state. -/
def lift (x : Except ε α) : Attempt σ ε α := fun s => (x, s)

def raise (e : ε) : Attempt σ ε α := lift (.error e)

def mapError (x : Attempt σ ε α) (f : ε → ε') : Attempt σ ε' α := fun s =>
  ((x s).1.mapError f, (x s).2)

/-- What is raised, as a value. -/
def result (x : Attempt σ ε α) : Attempt σ ε' (Except ε α) := fun s => (.ok (x s).1, (x s).2)

/-- Whatever `z` raises is forgotten. -/
def lastly (x : Attempt σ ε α) (z : Attempt σ ε' Unit) : Attempt σ ε α := fun s =>
  ((x s).1, (z (x s).2).2)

variable {x : Attempt σ ε α} {f : α → Attempt σ ε β} {s s' s'' : σ} {a : α} {b : β} {e : ε}

@[simp] theorem pure_apply : (pure a : Attempt σ ε α) s = (.ok a, s) := rfl

@[simp] theorem get_apply : (get : Attempt σ ε σ) s = (.ok s, s) := rfl

@[simp] theorem modify_apply {g : σ → σ} : (modify g : Attempt σ ε Unit) s = (.ok (), g s) := rfl

@[simp] theorem lift_apply {y : Except ε α} : (lift y : Attempt σ ε α) s = (y, s) := rfl

@[simp] theorem raise_apply : (raise e : Attempt σ ε α) s = (.error e, s) := rfl

@[simp] theorem mapError_apply {g : ε → ε'} : x.mapError g s = ((x s).1.mapError g, (x s).2) := rfl

@[simp] theorem result_apply : (x.result : Attempt σ ε' _) s = (.ok (x s).1, (x s).2) := rfl

@[simp] theorem lastly_apply {z : Attempt σ ε' Unit} :
    x.lastly z s = ((x s).1, (z (x s).2).2) := rfl

theorem bind_of_ok (h : x s = (.ok a, s')) : (x >>= f) s = f a s' := by
  change (match x s with | (.ok a, s') => f a s' | (.error e, s') => (.error e, s')) = _
  rw [h]

theorem bind_of_error (h : x s = (.error e, s')) : (x >>= f) s = (.error e, s') := by
  change (match x s with | (.ok a, s') => f a s' | (.error e, s') => (.error e, s')) = _
  rw [h]

theorem mapError_of_ok {g : ε → ε'} (h : x s = (.ok a, s')) : x.mapError g s = (.ok a, s') := by
  rw [mapError_apply, h]
  rfl

theorem mapError_of_error {g : ε → ε'} (h : x s = (.error e, s')) :
    x.mapError g s = (.error (g e), s') := by
  rw [mapError_apply, h]
  rfl

@[simp] theorem pure_bind : (pure a : Attempt σ ε α) >>= f = f a := rfl

@[simp] theorem get_bind {g : σ → Attempt σ ε β} : (get >>= g) s = g s s := rfl

/-- A sequence that returns has gone through both of its parts. -/
theorem bind_ok (h : (x >>= f) s = (.ok b, s'')) :
    ∃ a s', x s = (.ok a, s') ∧ f a s' = (.ok b, s'') := by
  cases hx : x s with
  | mk outcome s' =>
    cases outcome with
    | ok a => exact ⟨a, s', rfl, (bind_of_ok hx).symm.trans h⟩
    | error e =>
      rw [bind_of_error hx] at h
      cases h

/-! ### What holds afterwards -/

/-- From a state with the precondition, outcome and state meet the postcondition. -/
def Ensures (pre : σ → Prop) (x : Attempt σ ε α) (post : Except ε α → σ → Prop) : Prop :=
  ∀ s, pre s → post (x s).1 (x s).2

variable {pre mid : σ → Prop} {post : Except ε β → σ → Prop}

theorem Ensures.consequence {pre' : σ → Prop} {post' : Except ε β → σ → Prop}
    {y : Attempt σ ε β} (h : Ensures pre y post) (hpre : ∀ s, pre' s → pre s)
    (hpost : ∀ outcome s, post outcome s → post' outcome s) : Ensures pre' y post' :=
  fun s hs => hpost _ _ (h s (hpre s hs))

theorem ensures_lift {y : Except ε β} (h : ∀ s, pre s → post y s) : Ensures pre (lift y) post := h

/-- A sequence, by what holds between its parts. -/
theorem Ensures.bind {between : Except ε α → σ → Prop} (hx : Ensures pre x between)
    (hf : ∀ a, Ensures (between (.ok a)) (f a) post)
    (herror : ∀ e s, between (.error e) s → post (.error e) s) : Ensures pre (x >>= f) post := by
  intro s hs
  have hbetween := hx s hs
  cases hrun : x s with
  | mk outcome s' =>
    rw [hrun] at hbetween
    cases outcome with
    | ok a =>
      rw [bind_of_ok hrun]
      exact hf a s' hbetween
    | error e =>
      rw [bind_of_error hrun]
      exact herror e s' hbetween

/-- A change of the state, and what follows from the changed one. -/
theorem Ensures.modify_bind {g : σ → σ} {f : Unit → Attempt σ ε β} {pre' : σ → Prop}
    (hf : Ensures pre' (f ()) post) (hg : ∀ s, pre s → pre' (g s)) :
    Ensures pre (modify g >>= f) post := fun s hs => hf (g s) (hg s hs)

/-! ### What is never lost -/

/-- The computation keeps the property, whatever it raises. -/
def Keeps (p : σ → Prop) (x : Attempt σ ε α) : Prop := Ensures p x fun _ => p

variable {p : σ → Prop}

theorem keeps_lift {y : Except ε α} : Keeps p (lift y : Attempt σ ε α) := fun _ hs => hs

theorem keeps_pure : Keeps p (pure a : Attempt σ ε α) := fun _ hs => hs

theorem keeps_get : Keeps p (get : Attempt σ ε σ) := fun _ hs => hs

theorem Keeps.bind (hx : Keeps p x) (hf : ∀ a, Keeps p (f a)) : Keeps p (x >>= f) :=
  Ensures.bind hx hf fun _ _ hs => hs

theorem Keeps.mapError {g : ε → ε'} (hx : Keeps p x) : Keeps p (x.mapError g) := hx

theorem Keeps.result (hx : Keeps p x) : Keeps p (x.result : Attempt σ ε' _) := hx

theorem Keeps.lastly {z : Attempt σ ε' Unit} (hx : Keeps p x) (hz : Keeps p z) :
    Keeps p (x.lastly z) :=
  fun s hs => hz _ (hx s hs)

end Attempt
