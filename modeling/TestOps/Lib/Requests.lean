import TestOps.Lib.Transition

/-! Programs that ask a server, one request at a time, and many of them at once. Between two requests
    of a program, the server may have answered any number of others:

      program   ask r₁        ask r₂        finish
                  │             │              │
      server    s ──▸ s₁ ┄┄┄┄▸ s₂ ──▸ s₃ ┄┄┄┄▸ s₄        ──▸ its own answer, ┄┄▸ those to others

    A relation that every answer keeps is what a program may rely on, and what it must keep itself. -/

namespace Remote

variable {ρ : Type} {answer : ρ → Type} {ε α β σ : Type}

inductive Program (answer : ρ → Type) (ε α : Type) where
  | finish (outcome : Except ε α)
  | ask (r : ρ) (next : answer r → Program answer ε α)

namespace Program

def bind : Program answer ε α → (α → Program answer ε β) → Program answer ε β
  | finish (.ok a), f => f a
  | finish (.error e), _ => finish (.error e)
  | ask r next, f => ask r fun a => (next a).bind f

instance : Monad (Program answer ε) where
  pure a := finish (.ok a)
  bind := bind

def request (r : ρ) : Program answer ε (answer r) := ask r fun a => finish (.ok a)

def lift (x : Except ε α) : Program answer ε α := finish x

def raise (e : ε) : Program answer ε α := finish (.error e)

/-- What the program comes to, an exception as a value. -/
def attempt : Program answer ε α → Program answer ε (Except ε α)
  | finish outcome => finish (.ok outcome)
  | ask r next => ask r fun a => (next a).attempt

/-! ### What a program establishes -/

/-- How a server answers, and what becomes of its state. -/
abbrev Server (σ : Type) (answer : ρ → Type) := σ → (r : ρ) → answer r → σ → Prop

variable {serves : Server σ answer} {rel : σ → σ → Prop} {post : α → σ → Prop}
  {p : Program answer ε α} {s s' : σ}

/-- As long as others keep the relation, each answer to the program keeps it too, and what the
    program returns meets the postcondition from then on. -/
def Sound (serves : Server σ answer) (rel : σ → σ → Prop) (post : α → σ → Prop) :
    Program answer ε α → σ → Prop
  | finish (.ok a), s => ∀ s', rel s s' → post a s'
  | finish (.error _), _ => True
  | ask r next, s => ∀ s₁, rel s s₁ → ∀ a s₂, serves s₁ r a s₂ →
      rel s₁ s₂ ∧ Sound serves rel post (next a) s₂

/-- Nothing that others do is a change, and so are two things that they do. -/
structure IsRely (rel : σ → σ → Prop) : Prop where
  refl : ∀ s, rel s s
  trans : ∀ s₁ s₂ s₃, rel s₁ s₂ → rel s₂ s₃ → rel s₁ s₃

/-- What others do in between does not matter. -/
theorem Sound.later (hrel : IsRely rel) (h : Sound serves rel post p s) (hs : rel s s') :
    Sound serves rel post p s' := by
  cases p with
  | finish outcome =>
    cases outcome with
    | ok a => exact fun s'' hs' => h s'' (hrel.trans _ _ _ hs hs')
    | error e => trivial
  | ask r next => exact fun s₁ hs₁ => h s₁ (hrel.trans _ _ _ hs hs₁)

theorem sound_lift {x : Except ε α} (h : ∀ a, x = .ok a → ∀ s', rel s s' → post a s') :
    Sound serves rel post (lift x) s := by
  cases x with
  | ok a => exact h a rfl
  | error e => trivial

/-- A computation that asks for nothing. -/
theorem sound_lift_ok {x : Except ε α} :
    Sound serves rel (fun a _ => x = .ok a) (lift x) s := sound_lift fun _ h _ _ => h

theorem sound_pure {a : α} (h : ∀ s', rel s s' → post a s') :
    Sound serves rel post (pure a : Program answer ε α) s := h

theorem sound_raise {e : ε} : Sound serves rel post (raise e) s := trivial

/-- A sequence, by what holds between its parts. -/
theorem Sound.bind {mid : β → σ → Prop} {p : Program answer ε β} {f : β → Program answer ε α}
    (hrel : IsRely rel) (hp : Sound serves rel mid p s)
    (hf : ∀ b s', rel s s' → mid b s' → Sound serves rel post (f b) s') :
    Sound serves rel post (p >>= f) s := by
  induction p generalizing s with
  | finish outcome =>
    cases outcome with
    | ok b => exact hf b s (hrel.refl s) (hp s (hrel.refl s))
    | error e => trivial
  | ask r next ih =>
    intro s₁ hs₁ a s₂ hserve
    obtain ⟨hkept, hnext⟩ := hp s₁ hs₁ a s₂ hserve
    have hs₂ : rel s s₂ := hrel.trans _ _ _ hs₁ hkept
    exact ⟨hkept, ih a hnext fun b s' hs' => hf b s' (hrel.trans _ _ _ hs₂ hs')⟩

/-- A request, and what follows each of its answers. -/
theorem sound_ask {r : ρ} {f : answer r → Program answer ε α}
    (h : ∀ s₁, rel s s₁ → ∀ a s₂, serves s₁ r a s₂ →
      rel s₁ s₂ ∧ Sound serves rel post (f a) s₂) :
    Sound serves rel post (request r >>= f) s := h

/-! ### What a program asks for -/

/-- Whatever it is answered, the program makes only such requests. -/
def Asks (allowed : ρ → Prop) : Program answer ε α → Prop
  | finish _ => True
  | ask r next => allowed r ∧ ∀ a, Asks allowed (next a)

variable {allowed : ρ → Prop}

theorem asks_lift {x : Except ε α} : Asks allowed (lift x : Program answer ε α) := trivial

theorem asks_request {r : ρ} (h : allowed r) :
    Asks allowed (request r : Program answer ε (answer r)) := ⟨h, fun _ => trivial⟩

theorem Asks.bind {p : Program answer ε β} {f : β → Program answer ε α} (hp : Asks allowed p)
    (hf : ∀ b, Asks allowed (f b)) : Asks allowed (p >>= f) := by
  induction p with
  | finish outcome =>
    cases outcome with
    | ok b => exact hf b
    | error e => trivial
  | ask r next ih => exact ⟨hp.1, fun a => ih a (hp.2 a)⟩

theorem Asks.mono {allowed' : ρ → Prop} {p : Program answer ε α} (h : Asks allowed p)
    (himp : ∀ r, allowed r → allowed' r) : Asks allowed' p := by
  induction p with
  | finish outcome => trivial
  | ask r next ih => exact ⟨himp r h.1, fun a => ih a (h.2 a)⟩

/-! ### Ends -/

/-- The program comes to this end, if it is answered in a certain way. -/
def Ends (outcome : Except ε α) : Program answer ε α → Prop
  | finish outcome' => outcome' = outcome
  | ask _ next => ∃ a, (next a).Ends outcome

theorem ends_bind {outcome : Except ε α} {p : Program answer ε β} {f : β → Program answer ε α} :
    (p >>= f).Ends outcome ↔ (∃ b, p.Ends (.ok b) ∧ (f b).Ends outcome) ∨
      ∃ e, p.Ends (.error e) ∧ outcome = .error e := by
  induction p with
  | finish outcome' =>
    cases outcome' with
    | ok b =>
      constructor
      · exact fun h => .inl ⟨b, rfl, h⟩
      · rintro (⟨b', hb, h⟩ | ⟨e, he, -⟩)
        · exact Except.ok.inj hb ▸ h
        · cases he
    | error e =>
      constructor
      · exact fun h => .inr ⟨e, rfl, h.symm⟩
      · rintro (⟨b, hb, -⟩ | ⟨e', he, rfl⟩)
        · cases hb
        · exact congrArg Except.error (Except.error.inj he)
  | ask r next ih =>
    change (∃ a, (next a >>= f).Ends outcome) ↔ _
    simp only [ih]
    constructor
    · rintro ⟨a, ⟨b, hb, h⟩ | ⟨e, he, h⟩⟩
      · exact .inl ⟨b, ⟨a, hb⟩, h⟩
      · exact .inr ⟨e, ⟨a, he⟩, h⟩
    · rintro (⟨b, ⟨a, hb⟩, h⟩ | ⟨e, ⟨a, he⟩, h⟩)
      · exact ⟨a, .inl ⟨b, hb, h⟩⟩
      · exact ⟨a, .inr ⟨e, he, h⟩⟩

/-- No exception but those of a kind is ever raised. -/
def RaisesOnly (kind : ε → Prop) (p : Program answer ε α) : Prop := ∀ e, p.Ends (.error e) → kind e

variable {kind : ε → Prop}

theorem raisesOnly_pure {a : α} : RaisesOnly kind (pure a : Program answer ε α) := nofun

theorem raisesOnly_raise {e : ε} (h : kind e) : RaisesOnly kind (raise e : Program answer ε α) := by
  intro e' he
  cases he
  exact h

theorem raisesOnly_lift {x : Except ε α} (h : ∀ e, x = .error e → kind e) :
    RaisesOnly kind (lift x : Program answer ε α) := h

theorem raisesOnly_request {r : ρ} :
    RaisesOnly kind (request r : Program answer ε (answer r)) := by
  rintro e ⟨a, h⟩
  cases h

theorem RaisesOnly.bind {p : Program answer ε β} {f : β → Program answer ε α}
    (hp : RaisesOnly kind p) (hf : ∀ b, RaisesOnly kind (f b)) : RaisesOnly kind (p >>= f) := by
  intro e h
  rcases ends_bind.mp h with ⟨b, -, h⟩ | ⟨e', he, heq⟩
  · exact hf b e h
  · rw [Except.error.inj heq]
    exact hp e' he

theorem RaisesOnly.ite {c : Prop} [Decidable c] {p p' : Program answer ε α}
    (hp : c → RaisesOnly kind p) (hp' : ¬c → RaisesOnly kind p') :
    RaisesOnly kind (if c then p else p') := by
  by_cases hc : c
  · rw [if_pos hc]
    exact hp hc
  · rw [if_neg hc]
    exact hp' hc

theorem RaisesOnly.forM {f : β → Program answer ε PUnit} {xs : List β}
    (h : ∀ x ∈ xs, RaisesOnly kind (f x)) : RaisesOnly kind (xs.forM f) := by
  induction xs with
  | nil => exact raisesOnly_pure
  | cons x xs ih =>
    exact (h x List.mem_cons_self).bind fun _ => ih fun y hy => h y (List.mem_cons_of_mem _ hy)

theorem raisesOnly_attempt {p : Program answer ε α} : RaisesOnly kind p.attempt := by
  intro e h
  induction p with
  | finish outcome => cases h
  | ask r next ih =>
    obtain ⟨a, h⟩ := h
    exact ih a h

/-! ### Fixed answers -/

/-- What the program comes to, if each request has one answer. -/
def run (answers : (r : ρ) → answer r) : Program answer ε α → Except ε α
  | finish outcome => outcome
  | ask r next => run answers (next (answers r))

theorem run_bind {answers : (r : ρ) → answer r} {p : Program answer ε β}
    {f : β → Program answer ε α} :
    (p >>= f).run answers = p.run answers >>= fun b => (f b).run answers := by
  induction p with
  | finish outcome =>
    cases outcome with
    | ok b => rfl
    | error e => rfl
  | ask r next ih => exact ih (answers r)

/-- The requests of the program, if each request has one answer. -/
def trace (answers : (r : ρ) → answer r) : Program answer ε α → List ρ
  | finish _ => []
  | ask r next => r :: trace answers (next (answers r))

theorem trace_bind {answers : (r : ρ) → answer r} {p : Program answer ε β}
    {f : β → Program answer ε α} {b : β} (h : p.run answers = .ok b) :
    (p >>= f).trace answers = p.trace answers ++ (f b).trace answers := by
  induction p with
  | finish outcome =>
    rw [run] at h
    rw [h]
    rfl
  | ask r next ih => exact congrArg (r :: ·) (ih (answers r) h)

end Program

/-! ### Many programs -/

open Program Transition

/-- The server, and the calls that have been made, each with what is left of its program. -/
structure Pool (κ : Type) (σ : Type) (answer : ρ → Type) (ε α : Type) where
  server : σ
  calls : List (κ × Program answer ε α)

inductive Action (κ : Type) where
  | start (k : κ)
  | answer (i : Nat)

variable {κ : Type}

/-- A call may start at any time, and any call may be the next to be answered. -/
def system (serves : Server σ answer) (program : κ → Program answer ε α) (init : σ → Prop) :
    System (Pool κ σ answer ε α) (Action κ) where
  init pool := init pool.server ∧ pool.calls = []
  next pool act pool' :=
    match act with
    | .start k => pool'.server = pool.server ∧ pool'.calls = pool.calls ++ [(k, program k)]
    | .answer i => ∃ k r next a, pool.calls[i]? = some (k, ask r next) ∧
        serves pool.server r a pool'.server ∧ pool'.calls = pool.calls.set i (k, next a)

variable {serves : Server σ answer} {rel : σ → σ → Prop} {program : κ → Program answer ε α}
  {init inv : σ → Prop} {post : κ → α → σ → Prop} {pool pool' : Pool κ σ answer ε α}

/-- Each call of a pool is sound where it is. -/
def AllSound (serves : Server σ answer) (rel : σ → σ → Prop) (inv : σ → Prop)
    (post : κ → α → σ → Prop) (pool : Pool κ σ answer ε α) : Prop :=
  inv pool.server ∧ ∀ call ∈ pool.calls, Sound serves rel (post call.1) call.2 pool.server

/-- One step keeps the relation, and the soundness of each call. -/
theorem allSound_step (hrel : IsRely rel) (hinv : ∀ s s', rel s s' → inv s → inv s')
    (hstart : ∀ k s, inv s → Sound serves rel (post k) (program k) s) {act : Action κ}
    (hnext : (system serves program init).next pool act pool')
    (h : AllSound serves rel inv post pool) :
    rel pool.server pool'.server ∧ AllSound serves rel inv post pool' := by
  cases act with
  | start k =>
    obtain ⟨hserver, hcalls⟩ := hnext
    rw [AllSound, hserver, hcalls]
    refine ⟨hrel.refl _, h.1, fun call hcall => ?_⟩
    rcases List.mem_append.mp hcall with hcall | hcall
    · exact h.2 call hcall
    · rw [List.mem_singleton.mp hcall]
      exact hstart k _ h.1
  | answer i =>
    obtain ⟨k, r, next, a, hcall, hserve, hcalls⟩ := hnext
    obtain ⟨hkept, hsound⟩ := h.2 (k, ask r next) (List.mem_of_getElem? hcall) _ (hrel.refl _) a _
      hserve
    refine ⟨hkept, hinv _ _ hkept h.1, fun call hmem => ?_⟩
    rw [hcalls] at hmem
    rcases List.mem_or_eq_of_mem_set hmem with hmem | rfl
    · exact (h.2 call hmem).later hrel hkept
    · exact hsound

/-- In every run, each call is sound where it is. -/
theorem reachable_allSound (hrel : IsRely rel) (hinv : ∀ s s', rel s s' → inv s → inv s')
    (hinit : ∀ s, init s → inv s)
    (hstart : ∀ k s, inv s → Sound serves rel (post k) (program k) s)
    (h : (system serves program init).Reachable pool) : AllSound serves rel inv post pool := by
  refine h.invariant ?_ ?_
  · rintro s ⟨hs, hcalls⟩
    refine ⟨hinit _ hs, ?_⟩
    rw [hcalls]
    exact nofun
  · intro s act s' hnext hs
    exact (allSound_step hrel hinv hstart hnext hs).2

/-- What has been returned meets its postcondition. -/
theorem returned_post (hrel : IsRely rel) (h : AllSound serves rel inv post pool) {k : κ} {a : α}
    (hcall : (k, finish (.ok a)) ∈ pool.calls) : post k a pool.server :=
  h.2 _ hcall _ (hrel.refl _)

/-- Later states of the server are related to earlier ones. -/
theorem steps_rel (hrel : IsRely rel) (hinv : ∀ s s', rel s s' → inv s → inv s')
    (hstart : ∀ k s, inv s → Sound serves rel (post k) (program k) s)
    (h : AllSound serves rel inv post pool)
    (hsteps : (system serves program init).Steps pool pool') : rel pool.server pool'.server := by
  have hboth : rel pool.server pool'.server ∧ AllSound serves rel inv post pool' := by
    induction hsteps with
    | refl => exact ⟨hrel.refl _, h⟩
    | tail _ hnext ih =>
      obtain ⟨act, hnext⟩ := hnext
      obtain ⟨hkept, hsound⟩ := allSound_step hrel hinv hstart hnext ih.2
      exact ⟨hrel.trans _ _ _ ih.1 hkept, hsound⟩
  exact hboth.1

/-- Each call makes only the requests that its program makes. -/
theorem reachable_asks {allowed : κ → ρ → Prop} (hstart : ∀ k, Asks (allowed k) (program k))
    (h : (system serves program init).Reachable pool) :
    ∀ call ∈ pool.calls, Asks (allowed call.1) call.2 := by
  refine h.invariant (p := fun pool => ∀ call ∈ pool.calls, Asks (allowed call.1) call.2) ?_ ?_
  · rintro s ⟨-, hcalls⟩
    rw [hcalls]
    exact nofun
  · intro s act s' hnext hs call hmem
    cases act with
    | start k =>
      rw [hnext.2] at hmem
      rcases List.mem_append.mp hmem with hmem | hmem
      · exact hs call hmem
      · rw [List.mem_singleton.mp hmem]
        exact hstart k
    | answer i =>
      obtain ⟨k, r, next, a, hcall, -, hcalls⟩ := hnext
      rw [hcalls] at hmem
      rcases List.mem_or_eq_of_mem_set hmem with hmem | rfl
      · exact hs call hmem
      · exact (hs (k, ask r next) (List.mem_of_getElem? hcall)).2 a

end Remote
