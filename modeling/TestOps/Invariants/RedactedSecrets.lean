import TestOps.Runners.SecretRedaction

/-! No secret is left in what a runner reports. A later replacement cannot bring back a secret that is
    gone, since a mask shares no character with it:

      abc        secrets abc, b     ──▸  ***
      xabcy      secrets ab, bc     ──▸  x***cy  or  xa***y

    In which of two ways, when secrets of the same length overlap, depends on the process. -/

namespace TestOps

open Replace

variable {order order' : SetOrder} {secrets : List Text} {secret value : Text}

/-! ### Secrets in order -/

theorem mem_longestFirst : secret ∈ longestFirst order secrets ↔ secret ∈ secrets := by
  rw [longestFirst, List.mem_insertionSort, order.mem_list]

theorem longestFirst_perm :
    (longestFirst order secrets).Perm (longestFirst order' secrets) := by
  refine ((List.perm_insertionSort _ _).trans ?_).trans (List.perm_insertionSort _ _).symm
  refine (List.perm_ext_iff_of_nodup (order.nodup _) (order'.nodup _)).mpr fun s => ?_
  rw [order.mem_list, order'.mem_list]

theorem longestFirst_sorted :
    (longestFirst order secrets).Pairwise fun s t => t.length ≤ s.length := by
  have htotal : Std.Total fun s t : Text => t.length ≤ s.length := ⟨fun s t => le_total _ _⟩
  have htrans : IsTrans Text fun s t => t.length ≤ s.length := ⟨fun _ _ _ h h' => h'.trans h⟩
  exact List.pairwise_insertionSort _ _

/-! ### What is left of a text -/

/-- Secrets that have no character of the mask. -/
def Maskable (secrets : List Text) : Prop := ∀ secret ∈ secrets, secret ≠ [] ∧ '*' ∉ secret

theorem disjoint_mask (h : '*' ∉ secret) : secret.Disjoint mask := by
  have hmask : mask = ['*', '*', '*'] := by decide
  intro c hc hstar
  rw [hmask] at hstar
  simp only [List.mem_cons, List.not_mem_nil, or_false, or_self] at hstar
  exact h (hstar ▸ hc)

theorem mask_ne_nil : mask ≠ [] := by decide

/-- What does not occur before a replacement does not occur after it. -/
theorem not_infix_redactSecret {other : Text} (hne : secret ≠ []) (hstar : '*' ∉ secret)
    (h : ¬secret <:+: value) : ¬secret <:+: redactSecret value other := by
  rw [redactSecret]
  split
  · exact h
  · rename_i hother
    exact fun hinfix => h (infix_of_replace hother mask_ne_nil (disjoint_mask hstar) hne hinfix).1

theorem not_infix_foldl {others : List Text} (hne : secret ≠ []) (hstar : '*' ∉ secret)
    (h : ¬secret <:+: value) : ¬secret <:+: others.foldl redactSecret value := by
  induction others generalizing value with
  | nil => exact h
  | cons other others ih => exact ih (not_infix_redactSecret hne hstar h)

/-- A secret is gone once its turn has come. -/
theorem not_infix_redacted {others : List Text} (hne : secret ≠ []) (hstar : '*' ∉ secret)
    (hmem : secret ∈ others) : ¬secret <:+: others.foldl redactSecret value := by
  induction others generalizing value with
  | nil => cases hmem
  | cons other others ih =>
    rw [List.foldl_cons]
    rcases List.mem_cons.mp hmem with rfl | hmem
    · refine not_infix_foldl hne hstar ?_
      rw [redactSecret, if_neg hne]
      exact not_infix_replace hne mask_ne_nil (disjoint_mask hstar)
    · exact ih hmem

/-- No two secrets of the same length overlap. -/
def Apart (secrets : List Text) : Prop :=
  ∀ s ∈ secrets, ∀ t ∈ secrets, s ≠ t → s.length = t.length → ¬Overlaps s t

theorem redactSecret_comm {s t : Text} (hsecrets : Maskable secrets) (hapart : Apart secrets)
    (hs : s ∈ secrets) (ht : t ∈ secrets) (hlength : s.length = t.length) :
    redactSecret (redactSecret value s) t = redactSecret (redactSecret value t) s := by
  by_cases hst : s = t
  · rw [hst]
  · obtain ⟨hs', hsStar⟩ := hsecrets s hs
    obtain ⟨ht', htStar⟩ := hsecrets t ht
    simp only [redactSecret, if_neg hs', if_neg ht']
    exact (replace_comm hs' ht' mask_ne_nil (disjoint_mask hsStar) (disjoint_mask htStar) hlength hst
      (hapart s hs t ht hst hlength) (hapart t ht s hs (Ne.symm hst) hlength.symm)).symm

/-- Any two processes take the secrets out of a text in the same way. -/
theorem foldl_longestFirst_eq (hsecrets : Maskable secrets) (hapart : Apart secrets) :
    (longestFirst order secrets).foldl redactSecret value =
      (longestFirst order' secrets).foldl redactSecret value := by
  refine foldl_eq_of_sorted longestFirst_perm longestFirst_sorted longestFirst_sorted ?_ value
  intro s hs t ht hlength x
  exact redactSecret_comm hsecrets hapart (mem_longestFirst.mp hs) (mem_longestFirst.mp ht) hlength

/-- A set that is gone through in the order of its list. -/
def SetOrder.forward : SetOrder where
  list := List.dedup
  nodup := List.nodup_dedup
  mem_list _ _ := List.mem_dedup

/-- A set that is gone through backwards. -/
def SetOrder.backward : SetOrder where
  list values := values.dedup.reverse
  nodup values := List.nodup_reverse.mpr (List.nodup_dedup values)
  mem_list _ _ := List.mem_reverse.trans List.mem_dedup

end TestOps
