import Mathlib

/-! Items of a batch that send messages, in one transaction or in one each. A transaction that fails
    takes its state back, but not its messages:

      each        i₁ ▸ commit   i₂ ▸ rollback   i₃ ▸ commit     state: i₁ i₃   messages: i₁ i₃
      together    i₁            i₂ ▸ rollback                   state: none    messages: i₁ -/

namespace Batch

variable {ι σ μ ε : Type}

/-- What an item makes of a state, and the messages it sends. -/
abbrev Step (ι σ μ ε : Type) := ι → σ → Except ε (σ × List μ)

variable (step : Step ι σ μ ε)

def Fails (i : ι) (s : σ) : Prop := ∃ e, step i s = .error e

/-- An item in a transaction of its own. -/
def alone (i : ι) (s : σ) : σ × List μ :=
  match step i s with
  | .ok out => out
  | .error _ => (s, [])

/-- Every item in a transaction of its own. -/
def each : List ι → σ → σ × List μ
  | [], s => (s, [])
  | i :: is, s =>
    let rest := each is (alone step i s).1
    (rest.1, (alone step i s).2 ++ rest.2)

/-- Item after item up to the first that fails: the state, the messages, and the failure. -/
def upTo : List ι → σ → σ × List μ × Option ε
  | [], s => (s, [], none)
  | i :: is, s =>
    match step i s with
    | .error e => (s, [], some e)
    | .ok (s', sent) =>
      let rest := upTo is s'
      (rest.1, sent ++ rest.2.1, rest.2.2)

/-- All items in one transaction. -/
def together (is : List ι) (s : σ) : σ × List μ :=
  match upTo step is s with
  | (s', sent, none) => (s', sent)
  | (_, sent, some _) => (s, sent)

variable {step} {i : ι} {is pre post : List ι} {s s' : σ} {sent : List μ}

/-! ### One item -/

theorem alone_of_ok (h : step i s = .ok (s', sent)) : alone step i s = (s', sent) := by
  rw [alone, h]

theorem alone_of_fails (h : Fails step i s) : alone step i s = (s, []) := by
  obtain ⟨e, he⟩ := h
  rw [alone, he]

theorem exists_ok (h : ¬Fails step i s) : ∃ s' sent, step i s = .ok (s', sent) := by
  cases hstep : step i s with
  | error e => exact absurd ⟨e, hstep⟩ h
  | ok out => exact ⟨out.1, out.2, rfl⟩

/-! ### Many items -/

theorem each_append : each step (pre ++ post) s =
    ((each step post (each step pre s).1).1,
      (each step pre s).2 ++ (each step post (each step pre s).1).2) := by
  induction pre generalizing s with
  | nil => rfl
  | cons i pre ih => simp only [List.cons_append, each, ih, List.append_assoc]

/-- One item more. -/
theorem each_concat : each step (is ++ [i]) s =
    ((alone step i (each step is s).1).1,
      (each step is s).2 ++ (alone step i (each step is s).1).2) := by
  rw [each_append]
  simp only [each, List.append_nil]

/-- What every item keeps, all of them keep. -/
theorem each_invariant {p : List ι → σ × List μ → Prop} (base : p [] (s, []))
    (next : ∀ pre i post, is = pre ++ i :: post → p pre (each step pre s) →
      p (pre ++ [i]) ((alone step i (each step pre s).1).1,
        (each step pre s).2 ++ (alone step i (each step pre s).1).2)) :
    p is (each step is s) := by
  induction is using List.reverseRecOn with
  | nil => exact base
  | append_singleton is i ih =>
    rw [each_concat]
    refine next is i [] rfl (ih fun pre j post hsplit hpre => next pre j (post ++ [i]) ?_ hpre)
    rw [hsplit, List.append_assoc, List.cons_append]

/-- Items that all fail leave nothing behind. -/
theorem each_of_fails
    (h : ∀ pre i post, is = pre ++ i :: post → Fails step i (each step pre s).1) :
    each step is s = (s, []) := by
  induction is using List.reverseRecOn with
  | nil => rfl
  | append_singleton is i ih =>
    have hbefore : each step is s = (s, []) := ih fun pre j post hsplit =>
      h pre j (post ++ [i]) (by rw [hsplit, List.append_assoc, List.cons_append])
    have hlast := h is i [] rfl
    rw [hbefore] at hlast
    simp only [each_concat, hbefore, alone_of_fails hlast, List.append_nil]

/-- Without a failure the items do together what they do one by one. -/
theorem upTo_of_pass
    (h : ∀ pre i post, is = pre ++ i :: post → ¬Fails step i (each step pre s).1) :
    upTo step is s = ((each step is s).1, (each step is s).2, none) := by
  induction is generalizing s with
  | nil => rfl
  | cons i is ih =>
    obtain ⟨s', sent, hstep⟩ : ∃ s' sent, step i s = .ok (s', sent) := exists_ok (h [] i is rfl)
    have halone := alone_of_ok hstep
    have hrest := @ih s' fun pre j post hsplit => by
      have hlater := h (i :: pre) j post (by rw [hsplit]; rfl)
      simpa only [each, halone] using hlater
    simp only [upTo, hstep, hrest, each, halone]

/-- A failure ends the transaction. -/
theorem upTo_of_fails (h : Fails step i (each step pre s).1) :
    ∃ e, (upTo step (pre ++ i :: post) s).2.2 = some e := by
  induction pre generalizing s with
  | nil =>
    obtain ⟨e, he⟩ := h
    exact ⟨e, by simp only [List.nil_append, upTo, show step i s = .error e from he]⟩
  | cons j pre ih =>
    by_cases hj : Fails step j s
    · obtain ⟨e, he⟩ := hj
      exact ⟨e, by simp only [List.cons_append, upTo, he]⟩
    · obtain ⟨s', sent, hstep⟩ := exists_ok hj
      rw [each, alone_of_ok hstep] at h
      obtain ⟨e, he⟩ := ih h
      exact ⟨e, by simp only [List.cons_append, upTo, hstep, he]⟩

theorem together_of_fails (h : Fails step i (each step pre s).1) :
    (together step (pre ++ i :: post) s).1 = s := by
  obtain ⟨e, he⟩ := @upTo_of_fails ι σ μ ε step i pre post s h
  rw [together]
  rcases hup : upTo step (pre ++ i :: post) s with ⟨s', sent, failure⟩
  rw [hup] at he
  obtain rfl : failure = some e := he
  rfl

/-! ### Which batches are isolated -/

variable {τ : Type} {view : σ → τ} {fails : ι → Prop}

/-- Which items fail does not depend on those before them, and an item that does not fail leaves a
    trace in what is seen of the state. -/
structure Independent (step : Step ι σ μ ε) (view : σ → τ) (fails : ι → Prop) (is : List ι)
    (s : σ) : Prop where
  stable : ∀ pre i post, is = pre ++ i :: post →
    (Fails step i (each step pre s).1 ↔ fails i)
  trace : ∀ i ∈ is, ¬fails i → view (each step is s).1 ≠ view s

theorem Independent.upTo_of_pass (h : Independent step view fails is s)
    (hpass : ∀ i ∈ is, ¬fails i) :
    upTo step is s = ((each step is s).1, (each step is s).2, none) := by
  refine Batch.upTo_of_pass fun pre i post hsplit hfail => ?_
  refine hpass i ?_ ((h.stable pre i post hsplit).mp hfail)
  rw [hsplit]
  exact List.mem_append_right _ List.mem_cons_self

theorem Independent.each_of_fails (h : Independent step view fails is s)
    (hfails : ∀ i ∈ is, fails i) : each step is s = (s, []) := by
  refine Batch.each_of_fails fun pre i post hsplit => ?_
  refine (h.stable pre i post hsplit).mpr (hfails i ?_)
  rw [hsplit]
  exact List.mem_append_right _ List.mem_cons_self

theorem Independent.together_of_fails (h : Independent step view fails is s)
    (hfails : ∀ i ∈ is, fails i) : together step is s = (s, []) := by
  cases is with
  | nil => rfl
  | cons i is =>
    obtain ⟨e, he⟩ := (h.stable [] i is rfl).mpr (hfails i List.mem_cons_self)
    rw [together, upTo, show step i s = .error e from he]

/-- One transaction shows what one for every item shows exactly when no item fails, or all do. -/
theorem Independent.together_eq_each_iff (h : Independent step view fails is s) :
    (view (together step is s).1, (together step is s).2) =
      (view (each step is s).1, (each step is s).2) ↔
    (∀ i ∈ is, ¬fails i) ∨ ∀ i ∈ is, fails i := by
  constructor
  · intro heq
    by_contra hmixed
    obtain ⟨hsome, hpass⟩ := not_or.mp hmixed
    push Not at hsome hpass
    obtain ⟨i, hi, hfails⟩ := hsome
    obtain ⟨j, hj, hpasses⟩ := hpass
    obtain ⟨pre, post, rfl⟩ := List.append_of_mem hi
    have hback := @Batch.together_of_fails ι σ μ ε step i pre post s
      ((h.stable pre i post rfl).mpr hfails)
    rw [hback] at heq
    exact h.trace j hj hpasses (Prod.mk.inj heq).1.symm
  · rintro (hpass | hfails)
    · rw [together, h.upTo_of_pass hpass]
    · rw [h.together_of_fails hfails, h.each_of_fails hfails]

end Batch
