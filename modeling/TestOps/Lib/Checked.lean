import Mathlib

/-! Checked computations: a command that validates its input, reads what it needs, and then either
    returns a value or stops with the first error. Commands are written in `Except ε` with two
    guards, `ensure` and `found`; the lemmas below turn `command = .ok r` into the conjunction of
    everything the command has checked, so that no later proof unfolds a command again. -/

namespace Checked

universe u

variable {ε ι : Type*} {α β σ : Type u}

/-- Stop with `e` unless `p` holds. -/
def ensure (p : Prop) [Decidable p] (e : ε) : Except ε Unit :=
  if p then .ok () else .error e

/-- Stop with `e` unless the lookup found something. -/
def found (o : Option α) (e : ε) : Except ε α :=
  match o with
  | some a => .ok a
  | none => .error e

@[simp] theorem ensure_eq_ok {p : Prop} [Decidable p] {e : ε} {u : Unit} :
    ensure p e = .ok u ↔ p := by
  by_cases hp : p <;> simp [ensure, hp]

@[simp] theorem found_eq_ok {o : Option α} {e : ε} {a : α} :
    found o e = .ok a ↔ o = some a := by
  cases o <;> simp [found]

@[simp] theorem pure_eq_ok {a b : α} : (pure a : Except ε α) = .ok b ↔ a = b :=
  ⟨fun h => Except.ok.inj h, fun h => congrArg _ h⟩

/-- A sequence succeeds exactly when its first part does and the rest succeeds on its value. -/
@[simp] theorem bind_eq_ok {x : Except ε α} {f : α → Except ε β} {b : β} :
    x >>= f = .ok b ↔ ∃ a, x = .ok a ∧ f a = .ok b := by
  cases x with
  | error e => exact ⟨fun h => (nomatch h), fun ⟨_, h, _⟩ => (nomatch h)⟩
  | ok a => exact ⟨fun h => ⟨a, rfl, h⟩, fun ⟨_, h, h'⟩ => Except.ok.inj h ▸ h'⟩

@[simp] theorem map_eq_ok {x : Except ε α} {f : α → β} {b : β} :
    f <$> x = .ok b ↔ ∃ a, x = .ok a ∧ f a = b := by
  cases x with
  | error e => exact ⟨fun h => (nomatch h), fun ⟨_, h, _⟩ => (nomatch h)⟩
  | ok a => exact ⟨fun h => ⟨a, rfl, Except.ok.inj h⟩, fun ⟨_, h, h'⟩ =>
      congrArg _ (Except.ok.inj h ▸ h')⟩

theorem mapError_eq_ok {ε' : Type*} {x : Except ε α} {f : ε → ε'} {a : α} :
    x.mapError f = .ok a ↔ x = .ok a := by
  cases x <;> simp [Except.mapError]

theorem ok_bind {a : α} {f : α → Except ε β} : (Except.ok a >>= f) = f a := rfl

theorem error_bind {e : ε} {f : α → Except ε β} : (Except.error e >>= f) = .error e := rfl

theorem ensure_true {p : Prop} [Decidable p] {e : ε} (h : p) : ensure p e = .ok () := if_pos h

theorem ensure_false {p : Prop} [Decidable p] {e : ε} (h : ¬p) : ensure p e = .error e := if_neg h

/-- A command chosen by a test succeeds exactly when the chosen side does. -/
theorem ite_eq_ok {p : Prop} [Decidable p] {x y : Except ε α} {a : α} :
    (if p then x else y) = .ok a ↔ (p ∧ x = .ok a) ∨ (¬p ∧ y = .ok a) := by
  by_cases hp : p <;> simp [hp]

/-! ### Loops -/

/-- A loop that succeeds preserves what each of its rounds preserves. -/
theorem foldlM_invariant (inv : σ → Prop) {f : σ → ι → Except ε σ} {xs : List ι} {s s' : σ}
    (round : ∀ s x s', x ∈ xs → f s x = .ok s' → inv s → inv s')
    (h : xs.foldlM f s = .ok s') (hs : inv s) : inv s' := by
  induction xs generalizing s with
  | nil => simp only [List.foldlM_nil, pure_eq_ok] at h; exact h ▸ hs
  | cons x xs ih =>
    simp only [List.foldlM_cons, bind_eq_ok] at h
    obtain ⟨s₁, h₁, h₂⟩ := h
    exact ih (fun s y s' hy => round s y s' (List.mem_cons_of_mem _ hy)) h₂
      (round s x s₁ List.mem_cons_self h₁ hs)

/-- A loop that succeeds is related end to end when each round is, for a preorder on states. -/
theorem foldlM_rel (rel : σ → σ → Prop) (refl : ∀ s, rel s s)
    (trans : ∀ a b c, rel a b → rel b c → rel a c)
    {f : σ → ι → Except ε σ} {xs : List ι} {s s' : σ}
    (round : ∀ s x s', x ∈ xs → f s x = .ok s' → rel s s')
    (h : xs.foldlM f s = .ok s') : rel s s' :=
  foldlM_invariant (rel s) (fun a x b hx hab ha => trans s a b ha (round a x b hx hab)) h (refl s)

/-- What a loop establishes, one of its rounds establishes. -/
theorem foldlM_establishes {p : σ → Prop} {f : σ → ι → Except ε σ} {xs : List ι} {s s' : σ}
    (h : xs.foldlM f s = .ok s') (hs : ¬p s) (hs' : p s') :
    ∃ earlier x later s₁ s₂, xs = earlier ++ x :: later ∧ earlier.foldlM f s = .ok s₁ ∧
      f s₁ x = .ok s₂ ∧ ¬p s₁ ∧ p s₂ := by
  induction xs generalizing s with
  | nil =>
    simp only [List.foldlM_nil, pure_eq_ok] at h
    exact absurd (h ▸ hs') hs
  | cons x xs ih =>
    simp only [List.foldlM_cons, bind_eq_ok] at h
    obtain ⟨t, hround, hrest⟩ := h
    by_cases ht : p t
    · exact ⟨[], x, xs, s, t, rfl, rfl, hround, hs, ht⟩
    · obtain ⟨earlier, y, later, s₁, s₂, rfl, hearlier, hrounds⟩ := ih hrest ht
      refine ⟨x :: earlier, y, later, s₁, s₂, rfl, ?_, hrounds⟩
      rw [List.foldlM_cons, hround]
      exact hearlier

/-- A loop that fails fails in one of its rounds. -/
theorem foldlM_error {f : σ → ι → Except ε σ} {xs : List ι} {s : σ} {e : ε}
    (h : xs.foldlM f s = .error e) : ∃ s₁ x, x ∈ xs ∧ f s₁ x = .error e := by
  induction xs generalizing s with
  | nil => cases h
  | cons x xs ih =>
    rw [List.foldlM_cons] at h
    cases hround : f s x with
    | ok s₁ =>
      rw [hround, ok_bind] at h
      obtain ⟨s₂, y, hy, herror⟩ := ih h
      exact ⟨s₂, y, List.mem_cons_of_mem _ hy, herror⟩
    | error e' =>
      rw [hround, error_bind] at h
      exact ⟨s, x, List.mem_cons_self, hround.trans h⟩

/-- Read backwards: what holds after each round tells what held before it, and something about the
    element. -/
theorem foldlM_backward {p : σ → Prop} {q : ι → Prop} {f : σ → ι → Except ε σ} {xs : List ι}
    {s s' : σ} (round : ∀ s x s', x ∈ xs → f s x = .ok s' → p s' → p s ∧ q x)
    (h : xs.foldlM f s = .ok s') (hs' : p s') : p s ∧ ∀ x ∈ xs, q x := by
  induction xs generalizing s with
  | nil =>
    simp only [List.foldlM_nil, pure_eq_ok] at h
    exact ⟨h ▸ hs', fun _ hx => absurd hx List.not_mem_nil⟩
  | cons x xs ih =>
    simp only [List.foldlM_cons, bind_eq_ok] at h
    obtain ⟨t, hround, hrest⟩ := h
    obtain ⟨ht, hall⟩ := ih (fun s y s' hy => round s y s' (List.mem_cons_of_mem _ hy)) hrest
    obtain ⟨hs, hx⟩ := round s x t List.mem_cons_self hround ht
    exact ⟨hs, List.forall_mem_cons.mpr ⟨hx, hall⟩⟩

/-- A loop over a list with `x` in it is a loop, the round of `x`, and a loop. -/
theorem foldlM_split {f : σ → ι → Except ε σ} {earlier later : List ι} {x : ι} {s s' : σ} :
    (earlier ++ x :: later).foldlM f s = .ok s' ↔ ∃ s₁ s₂, earlier.foldlM f s = .ok s₁ ∧
      f s₁ x = .ok s₂ ∧ later.foldlM f s₂ = .ok s' := by
  simp only [List.foldlM_append, List.foldlM_cons, bind_eq_ok]
  constructor
  · rintro ⟨s₁, h₁, s₂, h₂, h₃⟩
    exact ⟨s₁, s₂, h₁, h₂, h₃⟩
  · rintro ⟨s₁, s₂, h₁, h₂, h₃⟩
    exact ⟨s₁, h₁, s₂, h₂, h₃⟩

/-- A pass over a list succeeds exactly when it succeeds on each element. -/
theorem exists_mapM_ok {f : ι → Except ε α} {xs : List ι} :
    (∃ ys, xs.mapM f = .ok ys) ↔ ∀ x ∈ xs, ∃ y, f x = .ok y := by
  induction xs with
  | nil => simp
  | cons x xs ih =>
    rw [List.forall_mem_cons, ← ih]
    simp only [List.mapM_cons, bind_eq_ok, pure_eq_ok]
    constructor
    · rintro ⟨_, y, hy, ys, hys, -⟩
      exact ⟨⟨y, hy⟩, ys, hys⟩
    · rintro ⟨⟨y, hy⟩, ys, hys⟩
      exact ⟨y :: ys, y, hy, ys, hys, rfl⟩

/-- What a pass over a list returns is what it returns for the elements. -/
theorem mem_of_mapM_ok {f : ι → Except ε α} {xs : List ι} {ys : List α} {y : α}
    (h : xs.mapM f = .ok ys) : y ∈ ys ↔ ∃ x ∈ xs, f x = .ok y := by
  induction xs generalizing ys with
  | nil =>
    simp only [List.mapM_nil, pure_eq_ok] at h
    subst h
    simp
  | cons x xs ih =>
    simp only [List.mapM_cons, bind_eq_ok, pure_eq_ok] at h
    obtain ⟨z, hz, zs, hzs, rfl⟩ := h
    rw [List.mem_cons, ih hzs, List.exists_mem_cons_iff, hz, Except.ok.injEq, eq_comm]

/-- What a pass over a list reads off the elements, it reads off what they become. -/
theorem map_of_mapM_ok {β : Type*} {f : ι → Except ε α} {key : ι → β} {key' : α → β}
    (hkey : ∀ x y, f x = .ok y → key' y = key x) {xs : List ι} {ys : List α}
    (h : xs.mapM f = .ok ys) : ys.map key' = xs.map key := by
  induction xs generalizing ys with
  | nil =>
    simp only [List.mapM_nil, pure_eq_ok] at h
    rw [← h]
    rfl
  | cons x xs ih =>
    simp only [List.mapM_cons, bind_eq_ok, pure_eq_ok] at h
    obtain ⟨y, hy, ys, hys, rfl⟩ := h
    rw [List.map_cons, List.map_cons, hkey x y hy, ih hys]

/-! ### Values of closed computations -/

/-- What is known of the value of a computation, if it has one. -/
theorem exists_of_toOption {x : Except ε α} {f : α → β} {b : β}
    (h : x.toOption.map f = some b) : ∃ a, x = .ok a ∧ f a = b := by
  cases x with
  | error e => cases h
  | ok a => exact ⟨a, rfl, Option.some.inj h⟩

theorem ok_of_toOption {x : Except ε α} {a : α} (h : x.toOption = some a) : x = .ok a := by
  cases x with
  | error e => cases h
  | ok b => exact congrArg Except.ok (Option.some.inj h)

theorem ok_of_isSome {x : Except ε α} (h : x.toOption.isSome = true) : ∃ a, x = .ok a := by
  obtain ⟨a, ha⟩ := Option.isSome_iff_exists.mp h
  exact ⟨a, ok_of_toOption ha⟩

/-! ### Which errors leave a computation -/

/-- Only such errors leave the computation. -/
def RaisesOnly (p : ε → Prop) (x : Except ε α) : Prop := ∀ e, x = .error e → p e

variable {p q : ε → Prop} {x : Except ε α}

theorem raisesOnly_ok (a : α) : RaisesOnly p (.ok a : Except ε α) := nofun

theorem raisesOnly_error {e : ε} : RaisesOnly p (.error e : Except ε α) ↔ p e :=
  ⟨fun h => h e rfl, fun h _ he => Except.error.inj he ▸ h⟩

theorem raisesOnly_ensure {c : Prop} [Decidable c] {e : ε} (h : p e) :
    RaisesOnly p (ensure c e) := by
  by_cases hc : c
  · rw [ensure_true hc]
    exact raisesOnly_ok ()
  · rw [ensure_false hc]
    exact raisesOnly_error.mpr h

theorem raisesOnly_found {o : Option α} {e : ε} (h : p e) : RaisesOnly p (found o e) := by
  cases o with
  | none => exact raisesOnly_error.mpr h
  | some a => exact raisesOnly_ok a

theorem RaisesOnly.bind {f : α → Except ε β} (hx : RaisesOnly p x)
    (hf : ∀ a, x = .ok a → RaisesOnly p (f a)) : RaisesOnly p (x >>= f) := by
  cases x with
  | error e => exact raisesOnly_error.mpr (raisesOnly_error.mp hx)
  | ok a => exact hf a rfl

theorem RaisesOnly.mapError {ε' : Type*} {f : ε → ε'} {r : ε' → Prop} (hx : RaisesOnly p x)
    (hf : ∀ e, p e → r (f e)) : RaisesOnly r (x.mapError f) := by
  cases x with
  | error e => exact raisesOnly_error.mpr (hf e (raisesOnly_error.mp hx))
  | ok a => exact raisesOnly_ok a

end Checked
