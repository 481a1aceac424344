import Mathlib

/-! Something that is too large, made smaller step by step until it fits:

      x ──▸ x₁ ──▸ x₂ ──▸ … ──▸ xₙ     fits
                                 │
                                 ╰──▸  nothing left to drop

    Every step makes it lighter, and so the steps come to an end. What they all keep holds of the
    result; and where they stop, everything before was too large. -/

namespace Shrinking

variable {δ : Type*}

/-- What can be dropped next, if anything. -/
structure Shrinker (δ : Type*) where
  step : δ → Option δ
  weight : δ → Nat
  lighter : ∀ x y, step x = some y → weight y < weight x

namespace Shrinker

variable (S : Shrinker δ) (fits : δ → Bool)

/-- The first form that fits. -/
def shrink (x : δ) : Option δ :=
  if fits x then some x
  else match _h : S.step x with
    | some y => shrink y
    | none => none
termination_by S.weight x
decreasing_by exact S.lighter x y _h

variable {S fits} {x y : δ}

theorem shrink_of_fits (h : fits x = true) : S.shrink fits x = some x := by
  rw [shrink, if_pos h]

theorem shrink_of_step (h : fits x = false) (hstep : S.step x = some y) :
    S.shrink fits x = S.shrink fits y := by
  rw [shrink, if_neg (by simp [h])]
  split
  · rename_i z hz
    rw [hstep] at hz
    rw [Option.some.inj hz]
  · rename_i hnone
    rw [hstep] at hnone
    cases hnone

theorem shrink_of_stuck (h : fits x = false) (hstep : S.step x = none) :
    S.shrink fits x = none := by
  rw [shrink, if_neg (by simp [h])]
  split
  · rename_i z hz
    rw [hstep] at hz
    cases hz
  · rfl

variable (fits) in
/-- Induction over the steps, from a form that fits or from which nothing can be dropped. -/
theorem steps_induction {motive : δ → Prop} (hfits : ∀ x, fits x = true → motive x)
    (hstuck : ∀ x, fits x = false → S.step x = none → motive x)
    (hstep : ∀ x y, fits x = false → S.step x = some y → motive y → motive x) (x : δ) :
    motive x := by
  induction hweight : S.weight x using Nat.strong_induction_on generalizing x with
  | _ n ih =>
    cases hx : fits x with
    | true => exact hfits x hx
    | false =>
      cases hy : S.step x with
      | none => exact hstuck x hx hy
      | some y => exact hstep x y hx hy (ih _ (hweight ▸ S.lighter x y hy) y rfl)

/-- The result fits, and has what all steps keep. -/
theorem shrink_spec {inv : δ → Prop} (hinv : ∀ x y, inv x → S.step x = some y → inv y)
    (hx : inv x) (h : S.shrink fits x = some y) : fits y = true ∧ inv y := by
  induction x using S.steps_induction fits with
  | hfits x hfit =>
    rw [shrink_of_fits hfit] at h
    cases h
    exact ⟨hfit, hx⟩
  | hstuck x hlarge hnone =>
    rw [shrink_of_stuck hlarge hnone] at h
    cases h
  | hstep x x' hlarge hstep ih =>
    rw [shrink_of_step hlarge hstep] at h
    exact ih (hinv x x' hx hstep) h

theorem fits_of_shrink (h : S.shrink fits x = some y) : fits y = true :=
  have hinv : ∀ x y, True → S.step x = some y → True := fun _ _ _ _ => trivial
  (shrink_spec hinv trivial h).1

/-- What is not the result itself has been too large. -/
theorem eq_of_shrink_of_fits (hfit : fits x = true) (h : S.shrink fits x = some y) : y = x := by
  rw [shrink_of_fits hfit] at h
  exact (Option.some.inj h).symm

end Shrinker

end Shrinking
