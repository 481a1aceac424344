import TestOps.Lib.Checked

/-! Values that are kept once they have been made. What is made of a source is kept under a key, with a
    fingerprint of the source, and is made anew when the fingerprint is another one:

      source      a          a          b          b
      fetched     A  made    A  kept    B  made    B  kept

    If sources with one fingerprint make one value, nobody can tell a value that was kept from one that
    has just been made. -/

namespace Memo

universe u

variable {κ φ σ : Type*} {ν ε : Type u}

/-- Under a key, the fingerprint of a source and the value that was made of it. -/
abbrev Cache (κ φ ν : Type*) := κ → Option (φ × ν)

def empty : Cache κ φ ν := fun _ => none

/-- Whatever is kept was made of a source in `p` with its fingerprint. -/
def Coherent (p : σ → Prop) (print : σ → φ) (make : σ → Except ε ν) (cache : Cache κ φ ν) : Prop :=
  ∀ key kept, cache key = some kept →
    ∃ source, p source ∧ print source = kept.1 ∧ make source = .ok kept.2

variable {p : σ → Prop} {print : σ → φ} {make : σ → Except ε ν} {key : κ} {source : σ}
  {cache cache' : Cache κ φ ν} {value : ν}

theorem coherent_empty : Coherent p print make (empty : Cache κ φ ν) := by
  intro key kept h
  cases h

variable [DecidableEq κ]

/-- The value of a source, made and kept. What cannot be made is not kept. -/
def remake (print : σ → φ) (make : σ → Except ε ν) (key : κ) (source : σ) (cache : Cache κ φ ν) :
    Except ε (ν × Cache κ φ ν) :=
  (make source).map fun value => (value, Function.update cache key (some (print source, value)))

theorem remake_eq_ok :
    remake print make key source cache = .ok (value, cache') ↔
      make source = .ok value ∧
        cache' = Function.update cache key (some (print source, value)) := by
  rw [remake]
  cases make source with
  | error e => simp [Except.map]
  | ok made =>
    simp only [Except.map, Except.ok.injEq, Prod.mk.injEq]
    constructor
    · rintro ⟨rfl, rfl⟩
      exact ⟨rfl, rfl⟩
    · rintro ⟨rfl, rfl⟩
      exact ⟨rfl, rfl⟩

theorem remake_value : (remake print make key source cache).map Prod.fst = make source := by
  rw [remake]
  cases make source <;> rfl

theorem Coherent.remake (hp : p source) (h : Coherent p print make cache)
    (hfetch : remake print make key source cache = .ok (value, cache')) :
    Coherent p print make cache' := by
  obtain ⟨hmake, rfl⟩ := remake_eq_ok.mp hfetch
  intro key' kept hkept
  rcases eq_or_ne key' key with rfl | hkey
  · rw [Function.update_self] at hkept
    cases hkept
    exact ⟨source, hp, rfl, hmake⟩
  · rw [Function.update_of_ne hkey] at hkept
    exact h key' kept hkept

variable [DecidableEq φ]

/-- The value of a source, kept or made. -/
def fetch (print : σ → φ) (make : σ → Except ε ν) (key : κ) (source : σ) (cache : Cache κ φ ν) :
    Except ε (ν × Cache κ φ ν) :=
  match cache key with
  | some kept =>
    if kept.1 = print source then .ok (kept.2, cache) else remake print make key source cache
  | none => remake print make key source cache

/-- What is fetched is kept, and the rest of the cache with it. -/
theorem Coherent.fetch (hp : p source) (h : Coherent p print make cache)
    (hfetch : fetch print make key source cache = .ok (value, cache')) :
    Coherent p print make cache' := by
  rw [Memo.fetch] at hfetch
  split at hfetch
  · split at hfetch
    · cases hfetch
      exact h
    · exact h.remake hp hfetch
  · exact h.remake hp hfetch

/-- Nobody can tell what was kept from what has just been made. -/
theorem Coherent.fetch_value (hprint : ∀ s s', p s → p s' → print s = print s' → make s = make s')
    (hp : p source) (h : Coherent p print make cache) :
    (Memo.fetch print make key source cache).map Prod.fst = make source := by
  rw [Memo.fetch]
  split
  · rename_i kept hkey
    split
    · rename_i hsame
      obtain ⟨source', hp', hprint', hmake⟩ := h key kept hkey
      rw [← hprint _ _ hp' hp (hprint'.trans hsame), hmake]
      rfl
    · exact remake_value
  · exact remake_value

end Memo
