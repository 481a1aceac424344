import Mathlib

/-! Patterns that are matched by backtracking, and the replacement of their matches in a text:

      text      x  x  M  M  M  x  M  M  x
      replaced  x  x  f(M M M) x  f(M M) x

    A text is scanned from its start. Where the pattern matches, the match that backtracking finds
    first is replaced and the scan goes on behind it; a match that reads nothing counts for nothing.
    What is proved of a replacement needs a pattern's possible beginnings and contents only. -/

namespace Regex

variable {α : Type*}

/-- A position in a text, with the groups captured so far, the latest first. -/
structure Cursor (α : Type*) where
  prev : Option α
  rest : List α
  groups : List (Nat × List α)

inductive Pattern (α : Type*)
  | eps
  | set (p : α → Bool)
  /-- A test of the two neighbours of a position. -/
  | look (p : Option α → Option α → Bool)
  | seq (r r' : Pattern α)
  | alt (r r' : Pattern α)
  | many (p : α → Bool) (least : Nat) (greedy : Bool)
  | group (n : Nat) (r : Pattern α)

namespace Pattern

/-- Zero or one, preferably one. -/
def opt (r : Pattern α) : Pattern α := alt r eps

/-- Exactly `n` elements of a set. -/
def exactly (p : α → Bool) : Nat → Pattern α
  | 0 => eps
  | n + 1 => seq (set p) (exactly p n)

end Pattern

namespace Cursor

/-- The content of a group. -/
def group (c : Cursor α) (n : Nat) : List α := (c.groups.lookup n).getD []

/-- What has been read between two positions. -/
def consumed (c c' : Cursor α) : List α := c.rest.take (c.rest.length - c'.rest.length)

def capture (n : Nat) (c c' : Cursor α) : Cursor α :=
  { c' with groups := (n, c.consumed c') :: c'.groups }

end Cursor

/-- The positions behind elements of a set, the nearest first. -/
def runs (p : α → Bool) (groups : List (Nat × List α)) : Option α → List α → List (Cursor α)
  | prev, [] => [⟨prev, [], groups⟩]
  | prev, a :: rest =>
    ⟨prev, a :: rest, groups⟩ :: if p a then runs p groups (some a) rest else []

/-- The positions behind a match, in the order in which backtracking finds them. -/
def results : Pattern α → Cursor α → List (Cursor α)
  | .eps, c => [c]
  | .set p, c =>
    match c.rest with
    | a :: rest => if p a then [⟨some a, rest, c.groups⟩] else []
    | [] => []
  | .look p, c => if p c.prev c.rest.head? then [c] else []
  | .seq r r', c => (results r c).flatMap (results r')
  | .alt r r', c => results r c ++ results r' c
  | .many p least greedy, c =>
    let found := (runs p c.groups c.prev c.rest).drop least
    if greedy then found.reverse else found
  | .group n r, c => (results r c).map (c.capture n)

/-- The first match at a position, if it reads something. -/
def firstMatch (r : Pattern α) (prev : Option α) (text : List α) : Option (Cursor α) :=
  (results r ⟨prev, text, []⟩).head?.filter fun c => c.rest.length < text.length

/-- Replace the matches in a text whose first `skip` elements belong to a match already. -/
def subFrom (r : Pattern α) (f : Cursor α → List α) : Nat → Option α → List α → List α
  | _, _, [] => []
  | skip + 1, _, a :: rest => subFrom r f skip (some a) rest
  | 0, prev, a :: rest =>
    match firstMatch r prev (a :: rest) with
    | some c => f c ++ subFrom r f (rest.length - c.rest.length) (some a) rest
    | none => a :: subFrom r f 0 (some a) rest

def sub (r : Pattern α) (f : Cursor α → List α) (text : List α) : List α := subFrom r f 0 none text

/-- The matches in a text, each with its length. -/
def matchesFrom (r : Pattern α) : Nat → Option α → List α → List (Nat × Cursor α)
  | _, _, [] => []
  | skip + 1, _, a :: rest => matchesFrom r skip (some a) rest
  | 0, prev, a :: rest =>
    match firstMatch r prev (a :: rest) with
    | some c => (rest.length + 1 - c.rest.length, c) ::
        matchesFrom r (rest.length - c.rest.length) (some a) rest
    | none => matchesFrom r 0 (some a) rest

/-- What a group captures in each match. -/
def findall (r : Pattern α) (n : Nat) (text : List α) : List (List α) :=
  (matchesFrom r 0 none text).map fun found => found.2.group n

/-- By how much a text grows when its matches are replaced. -/
def growth (r : Pattern α) (f : Cursor α → List α) (text : List α) : Int :=
  ((matchesFrom r 0 none text).map fun found => ((f found.2).length : Int) - found.1).sum

variable {r r' : Pattern α} {c c' c'' : Cursor α} {p q : α → Prop} {text rest : List α}
  {prev : Option α} {f : Cursor α → List α} {a : α} {n : Nat}

/-! ### Positions -/

theorem mem_results_eps : c' ∈ results .eps c ↔ c' = c := List.mem_singleton

theorem mem_results_seq :
    c' ∈ results (.seq r r') c ↔ ∃ c₁ ∈ results r c, c' ∈ results r' c₁ :=
  List.mem_flatMap

theorem mem_results_alt :
    c' ∈ results (.alt r r') c ↔ c' ∈ results r c ∨ c' ∈ results r' c :=
  List.mem_append

theorem mem_results_group :
    c' ∈ results (.group n r) c ↔ ∃ c₁ ∈ results r c, c.capture n c₁ = c' :=
  List.mem_map

theorem mem_results_look {t : Option α → Option α → Bool} :
    c' ∈ results (.look t) c ↔ t c.prev c.rest.head? = true ∧ c' = c := by
  change c' ∈ (if t c.prev c.rest.head? then [c] else []) ↔ _
  by_cases ht : t c.prev c.rest.head? = true <;> simp [ht]

theorem mem_results_set {t : α → Bool} :
    c' ∈ results (.set t) c ↔
      ∃ a rest, c.rest = a :: rest ∧ t a = true ∧ c' = ⟨some a, rest, c.groups⟩ := by
  obtain ⟨prev, text, groups⟩ := c
  cases text with
  | nil =>
    change c' ∈ [] ↔ _
    simp
  | cons a rest =>
    change c' ∈ (if t a then [⟨some a, rest, groups⟩] else []) ↔ _
    by_cases ht : t a = true <;> simp [ht]

theorem runs_nil {t : α → Bool} {groups : List (Nat × List α)} :
    runs t groups prev [] = [⟨prev, [], groups⟩] := rfl

theorem runs_cons {t : α → Bool} {groups : List (Nat × List α)} :
    runs t groups prev (a :: rest) =
      ⟨prev, a :: rest, groups⟩ :: if t a then runs t groups (some a) rest else [] := rfl

/-- A position behind a run, with the elements that have been read. -/
theorem mem_runs {t : α → Bool} {groups : List (Nat × List α)} {i : Nat}
    (h : (runs t groups prev rest)[i]? = some c) :
    c.groups = groups ∧ c.rest = rest.drop i ∧ i ≤ rest.length ∧
      ∀ b ∈ rest.take i, t b = true := by
  induction rest generalizing prev i with
  | nil =>
    rw [runs_nil] at h
    cases i with
    | zero => cases h; simp
    | succ i => simp at h
  | cons b rest ih =>
    rw [runs_cons] at h
    cases i with
    | zero => cases h; simp
    | succ i =>
      rw [List.getElem?_cons_succ] at h
      split at h
      · rename_i ht
        obtain ⟨hgroups, hrest, hle, hall⟩ := ih h
        refine ⟨hgroups, by rw [hrest, List.drop_succ_cons], by simpa using hle, ?_⟩
        rw [List.take_succ_cons, List.forall_mem_cons]
        exact ⟨ht, hall⟩
      · simp at h

theorem mem_results_many {t : α → Bool} {least : Nat} {greedy : Bool}
    (h : c' ∈ results (.many t least greedy) c) :
    ∃ i, least ≤ i ∧ i ≤ c.rest.length ∧ c'.groups = c.groups ∧ c'.rest = c.rest.drop i ∧
      ∀ b ∈ c.rest.take i, t b = true := by
  have hmem : c' ∈ (runs t c.groups c.prev c.rest).drop least := by
    cases greedy with
    | false => exact h
    | true => exact List.mem_reverse.mp h
  obtain ⟨i, hget⟩ := List.mem_iff_getElem?.mp hmem
  rw [List.getElem?_drop] at hget
  obtain ⟨hgroups, hrest, hle, hall⟩ := mem_runs hget
  exact ⟨least + i, by omega, hle, hgroups, hrest, hall⟩

@[simp] theorem consumed_capture : c.consumed (c'.capture n c'') = c.consumed c'' := rfl

@[simp] theorem capture_rest : (c.capture n c').rest = c'.rest := rfl

/-- A match goes forward. -/
theorem results_suffix (h : c' ∈ results r c) : c'.rest <:+ c.rest := by
  induction r generalizing c c' with
  | eps => rw [mem_results_eps.mp h]
  | set t =>
    obtain ⟨a, rest, hrest, -, rfl⟩ := mem_results_set.mp h
    rw [hrest]
    exact List.suffix_cons a rest
  | look t => rw [(mem_results_look.mp h).2]
  | seq r r' ih ih' =>
    obtain ⟨c₁, h₁, h₂⟩ := mem_results_seq.mp h
    exact (ih' h₂).trans (ih h₁)
  | alt r r' ih ih' =>
    rcases mem_results_alt.mp h with h | h
    · exact ih h
    · exact ih' h
  | many t least greedy =>
    obtain ⟨i, -, -, -, hrest, -⟩ := mem_results_many h
    rw [hrest]
    exact List.drop_suffix i c.rest
  | group n r ih =>
    obtain ⟨c₁, h₁, rfl⟩ := mem_results_group.mp h
    rw [capture_rest]
    exact ih h₁

theorem consumed_append (h : c'.rest <:+ c.rest) : c.consumed c' ++ c'.rest = c.rest := by
  obtain ⟨front, hfront⟩ := h
  rw [Cursor.consumed, ← hfront, List.length_append, Nat.add_sub_cancel, List.take_left]

/-- What is read in two parts. -/
theorem consumed_trans (h : c'.rest <:+ c.rest) (h' : c''.rest <:+ c'.rest) :
    c.consumed c'' = c.consumed c' ++ c'.consumed c'' := by
  have hall := consumed_append (h'.trans h)
  rw [← consumed_append h, ← consumed_append h', ← List.append_assoc] at hall
  exact List.append_cancel_right hall

/-! ### Beginnings and contents -/

namespace Pattern

/-- Every match reads something. -/
def Proper : Pattern α → Prop
  | eps | look _ => False
  | set _ => True
  | seq r r' => r.Proper ∨ r'.Proper
  | alt r r' => r.Proper ∧ r'.Proper
  | many _ least _ => 0 < least
  | group _ r => r.Proper

/-- Whatever a match reads first is in `p`. -/
def Opens (p : α → Prop) : Pattern α → Prop
  | eps | look _ => True
  | set t | many t _ _ => ∀ a, t a = true → p a
  | seq r r' => r.Opens p ∧ (r.Proper ∨ r'.Opens p)
  | alt r r' => r.Opens p ∧ r'.Opens p
  | group _ r => r.Opens p

/-- Every match reads an element of `p`. -/
def Needs (p : α → Prop) : Pattern α → Prop
  | eps | look _ => False
  | set t => ∀ a, t a = true → p a
  | many t least _ => 0 < least ∧ ∀ a, t a = true → p a
  | seq r r' => r.Needs p ∨ r'.Needs p
  | alt r r' => r.Needs p ∧ r'.Needs p
  | group _ r => r.Needs p

/-- A match reads elements of `p` only. -/
def Only (p : α → Prop) : Pattern α → Prop
  | eps | look _ => True
  | set t | many t _ _ => ∀ a, t a = true → p a
  | seq r r' | alt r r' => r.Only p ∧ r'.Only p
  | group _ r => r.Only p

/-- The pattern captures nothing. -/
def Plain : Pattern α → Prop
  | eps | look _ | set _ | many _ _ _ => True
  | seq r r' | alt r r' => r.Plain ∧ r'.Plain
  | group _ _ => False

end Pattern

theorem proper_length (hr : r.Proper) (h : c' ∈ results r c) :
    c'.rest.length < c.rest.length := by
  induction r generalizing c c' with
  | eps => exact hr.elim
  | set t =>
    obtain ⟨a, rest, hrest, -, rfl⟩ := mem_results_set.mp h
    rw [hrest, List.length_cons]
    exact Nat.lt_succ_self _
  | look t => exact hr.elim
  | seq r r' ih ih' =>
    obtain ⟨c₁, h₁, h₂⟩ := mem_results_seq.mp h
    have hle := (results_suffix h₁).length_le
    have hle' := (results_suffix h₂).length_le
    rcases hr with hr | hr
    · have := ih hr h₁
      omega
    · have := ih' hr h₂
      omega
  | alt r r' ih ih' =>
    rcases mem_results_alt.mp h with h | h
    · exact ih hr.1 h
    · exact ih' hr.2 h
  | many t least greedy =>
    obtain ⟨i, hleast, hle, -, hrest, -⟩ := mem_results_many h
    have hpositive : 0 < least := hr
    rw [hrest, List.length_drop]
    omega
  | group n r ih =>
    obtain ⟨c₁, h₁, rfl⟩ := mem_results_group.mp h
    rw [capture_rest]
    exact ih hr h₁

/-- A match that reads something begins with an element the pattern opens with. -/
theorem opens_head (hr : r.Opens p) (h : c' ∈ results r c)
    (hlength : c'.rest.length < c.rest.length) : ∃ a ∈ c.rest.head?, p a := by
  induction r generalizing c c' with
  | eps =>
    rw [mem_results_eps.mp h] at hlength
    exact absurd hlength (lt_irrefl _)
  | set t =>
    obtain ⟨a, rest, hrest, ht, rfl⟩ := mem_results_set.mp h
    exact ⟨a, by rw [hrest]; rfl, hr a ht⟩
  | look t =>
    rw [(mem_results_look.mp h).2] at hlength
    exact absurd hlength (lt_irrefl _)
  | seq r r' ih ih' =>
    obtain ⟨c₁, h₁, h₂⟩ := mem_results_seq.mp h
    by_cases hread : c₁.rest.length < c.rest.length
    · exact ih hr.1 h₁ hread
    · have hsame : c₁.rest = c.rest :=
        (results_suffix h₁).eq_of_length_le (Nat.le_of_not_lt hread)
      rcases hr.2 with hproper | hopens
      · exact absurd (proper_length hproper h₁) hread
      · rw [← hsame] at hlength ⊢
        exact ih' hopens h₂ hlength
  | alt r r' ih ih' =>
    rcases mem_results_alt.mp h with h | h
    · exact ih hr.1 h hlength
    · exact ih' hr.2 h hlength
  | many t least greedy =>
    obtain ⟨i, -, -, -, hrest, hall⟩ := mem_results_many h
    rw [hrest, List.length_drop] at hlength
    obtain ⟨a, rest, hcons⟩ := List.exists_cons_of_length_pos (l := c.rest) (by omega)
    obtain ⟨i, rfl⟩ := Nat.exists_eq_succ_of_ne_zero (n := i) (by omega)
    refine ⟨a, by rw [hcons]; rfl, hr a (hall a ?_)⟩
    rw [hcons, List.take_succ_cons]
    exact List.mem_cons_self
  | group n r ih =>
    obtain ⟨c₁, h₁, rfl⟩ := mem_results_group.mp h
    exact ih hr h₁ hlength

theorem needs_mem (hr : r.Needs p) (h : c' ∈ results r c) : ∃ a ∈ c.rest, p a := by
  induction r generalizing c c' with
  | eps => exact hr.elim
  | set t =>
    obtain ⟨a, rest, hrest, ht, rfl⟩ := mem_results_set.mp h
    exact ⟨a, by rw [hrest]; exact List.mem_cons_self, hr a ht⟩
  | look t => exact hr.elim
  | seq r r' ih ih' =>
    obtain ⟨c₁, h₁, h₂⟩ := mem_results_seq.mp h
    rcases hr with hr | hr
    · exact ih hr h₁
    · obtain ⟨a, ha, hp⟩ := ih' hr h₂
      exact ⟨a, (results_suffix h₁).subset ha, hp⟩
  | alt r r' ih ih' =>
    rcases mem_results_alt.mp h with h | h
    · exact ih hr.1 h
    · exact ih' hr.2 h
  | many t least greedy =>
    obtain ⟨i, hleast, hle, -, -, hall⟩ := mem_results_many h
    have hpositive := hr.1
    obtain ⟨a, ha⟩ := List.exists_mem_of_length_pos (l := c.rest.take i) (by
      rw [List.length_take]
      omega)
    exact ⟨a, List.mem_of_mem_take ha, hr.2 a (hall a ha)⟩
  | group n r ih =>
    obtain ⟨c₁, h₁, rfl⟩ := mem_results_group.mp h
    exact ih hr h₁

theorem only_mem (hr : r.Only p) (h : c' ∈ results r c) : ∀ a ∈ c.consumed c', p a := by
  induction r generalizing c c' with
  | eps =>
    simp [mem_results_eps.mp h, Cursor.consumed]
  | set t =>
    obtain ⟨a, rest, hrest, ht, rfl⟩ := mem_results_set.mp h
    simp [Cursor.consumed, hrest, hr a ht]
  | look t =>
    rw [(mem_results_look.mp h).2]
    simp [Cursor.consumed]
  | seq r r' ih ih' =>
    obtain ⟨c₁, h₁, h₂⟩ := mem_results_seq.mp h
    rw [consumed_trans (results_suffix h₁) (results_suffix h₂)]
    exact List.forall_mem_append.mpr ⟨ih hr.1 h₁, ih' hr.2 h₂⟩
  | alt r r' ih ih' =>
    rcases mem_results_alt.mp h with h | h
    · exact ih hr.1 h
    · exact ih' hr.2 h
  | many t least greedy =>
    obtain ⟨i, -, hle, -, hrest, hall⟩ := mem_results_many h
    rw [Cursor.consumed, hrest, List.length_drop, Nat.sub_sub_self hle]
    exact fun a ha => hr a (hall a ha)
  | group n r ih =>
    obtain ⟨c₁, h₁, rfl⟩ := mem_results_group.mp h
    rw [consumed_capture]
    exact ih hr h₁

theorem plain_groups (hr : r.Plain) (h : c' ∈ results r c) : c'.groups = c.groups := by
  induction r generalizing c c' with
  | eps => rw [mem_results_eps.mp h]
  | set t =>
    obtain ⟨a, rest, -, -, rfl⟩ := mem_results_set.mp h
    rfl
  | look t => rw [(mem_results_look.mp h).2]
  | seq r r' ih ih' =>
    obtain ⟨c₁, h₁, h₂⟩ := mem_results_seq.mp h
    rw [ih' hr.2 h₂, ih hr.1 h₁]
  | alt r r' ih ih' =>
    rcases mem_results_alt.mp h with h | h
    · exact ih hr.1 h
    · exact ih' hr.2 h
  | many t least greedy =>
    obtain ⟨i, -, -, hgroups, -⟩ := mem_results_many h
    exact hgroups
  | group n r => exact hr.elim

/-! ### Replacing -/

theorem firstMatch_eq_some (h : firstMatch r prev text = some c) :
    c ∈ results r ⟨prev, text, []⟩ ∧ c.rest.length < text.length := by
  obtain ⟨hhead, hread⟩ := Option.filter_eq_some_iff.mp h
  exact ⟨List.mem_of_mem_head? hhead, by simpa using hread⟩

theorem subFrom_nil {skip : Nat} : subFrom r f skip prev [] = [] := by cases skip <;> rfl

theorem subFrom_skip {skip : Nat} :
    subFrom r f (skip + 1) prev (a :: rest) = subFrom r f skip (some a) rest := rfl

theorem matchesFrom_nil {skip : Nat} : matchesFrom r skip prev [] = [] := by cases skip <;> rfl

theorem matchesFrom_skip {skip : Nat} :
    matchesFrom r (skip + 1) prev (a :: rest) = matchesFrom r skip (some a) rest := rfl

theorem subFrom_none (h : firstMatch r prev (a :: rest) = none) :
    subFrom r f 0 prev (a :: rest) = a :: subFrom r f 0 (some a) rest := by
  change (match firstMatch r prev (a :: rest) with | some c => _ | none => _) = _
  rw [h]

theorem subFrom_some (h : firstMatch r prev (a :: rest) = some c) :
    subFrom r f 0 prev (a :: rest) =
      f c ++ subFrom r f (rest.length - c.rest.length) (some a) rest := by
  change (match firstMatch r prev (a :: rest) with | some c => _ | none => _) = _
  rw [h]

theorem matchesFrom_none (h : firstMatch r prev (a :: rest) = none) :
    matchesFrom r 0 prev (a :: rest) = matchesFrom r 0 (some a) rest := by
  change (match firstMatch r prev (a :: rest) with | some c => _ | none => _) = _
  rw [h]

theorem matchesFrom_some (h : firstMatch r prev (a :: rest) = some c) :
    matchesFrom r 0 prev (a :: rest) = (rest.length + 1 - c.rest.length, c) ::
      matchesFrom r (rest.length - c.rest.length) (some a) rest := by
  change (match firstMatch r prev (a :: rest) with | some c => _ | none => _) = _
  rw [h]

/-- Nothing is left of a text that belongs to a match. -/
theorem subFrom_eq_nil {skip : Nat} (h : text.length ≤ skip) : subFrom r f skip prev text = [] := by
  induction text generalizing skip prev with
  | nil => exact subFrom_nil
  | cons a rest ih =>
    rw [List.length_cons] at h
    obtain ⟨skip, rfl⟩ := Nat.exists_eq_succ_of_ne_zero (n := skip) (by omega)
    rw [subFrom_skip]
    exact ih (by omega)

theorem length_subFrom {skip : Nat} :
    ((subFrom r f skip prev text).length : Int) = (text.drop skip).length +
      ((matchesFrom r skip prev text).map fun found =>
        ((f found.2).length : Int) - found.1).sum := by
  induction text generalizing skip prev with
  | nil => simp [subFrom_nil, matchesFrom_nil]
  | cons a rest ih =>
    cases skip with
    | succ skip => rw [subFrom_skip, matchesFrom_skip, List.drop_succ_cons, ih]
    | zero =>
      cases hfirst : firstMatch r prev (a :: rest) with
      | none =>
        rw [subFrom_none hfirst, matchesFrom_none hfirst]
        simp only [List.length_cons, List.drop_zero, Nat.cast_add, ih]
        ring
      | some c =>
        have hread := (firstMatch_eq_some hfirst).2
        rw [subFrom_some hfirst, matchesFrom_some hfirst]
        simp only [List.length_append, Nat.cast_add, ih, List.map_cons, List.sum_cons,
          List.length_drop, List.drop_zero, List.length_cons] at hread ⊢
        omega

/-- A replacement changes the length of a text by its growth. -/
theorem length_sub : ((sub r f text).length : Int) = text.length + growth r f text := by
  rw [sub, length_subFrom, List.drop_zero]
  rfl

/-- Where no match can begin nothing is replaced. -/
theorem subFrom_cons (hopens : r.Opens p) (ha : ¬p a) :
    subFrom r f 0 prev (a :: rest) = a :: subFrom r f 0 (some a) rest := by
  cases hfirst : firstMatch r prev (a :: rest) with
  | none => exact subFrom_none hfirst
  | some c =>
    obtain ⟨hmem, hread⟩ := firstMatch_eq_some hfirst
    obtain ⟨b, hb, hp⟩ := opens_head hopens hmem hread
    obtain rfl : a = b := by simpa using hb
    exact absurd hp ha

theorem subFrom_replicate (hopens : r.Opens p) (ha : ¬p a) :
    subFrom r f 0 prev (List.replicate (n + 1) a ++ rest) =
      List.replicate (n + 1) a ++ subFrom r f 0 (some a) rest := by
  induction n generalizing prev with
  | zero => exact subFrom_cons hopens ha
  | succ n ih =>
    rw [List.replicate_succ, List.cons_append, subFrom_cons hopens ha, ih, List.cons_append]

/-- A text without the elements that a match needs stays as it is. -/
theorem sub_eq_self (hneeds : r.Needs p) (htext : ∀ a ∈ text, ¬p a) : sub r f text = text := by
  suffices hfrom : ∀ prev, subFrom r f 0 prev text = text from hfrom none
  induction text with
  | nil => exact fun _ => rfl
  | cons a rest ih =>
    intro prev
    cases hfirst : firstMatch r prev (a :: rest) with
    | none => rw [subFrom_none hfirst, ih fun b hb => htext b (List.mem_cons_of_mem a hb)]
    | some c =>
      obtain ⟨b, hb, hp⟩ := needs_mem hneeds (firstMatch_eq_some hfirst).1
      exact absurd hp (htext b hb)

/-- What is left behind a match. -/
theorem drop_behind (h : c ∈ results r ⟨prev, a :: rest, []⟩)
    (hread : c.rest.length < (a :: rest).length) :
    rest.drop (rest.length - c.rest.length) = c.rest := by
  obtain ⟨front, hfront⟩ := results_suffix h
  cases front with
  | nil =>
    have hsame : c.rest = a :: rest := hfront
    rw [hsame] at hread
    exact absurd hread (lt_irrefl _)
  | cons d front =>
    obtain ⟨-, hrest⟩ := List.cons.inj hfront
    rw [← hrest]
    simp

/-- An element that no match swallows is still there. -/
theorem mem_sub (hf : ∀ c c', c' ∈ results r c → (∃ a ∈ c.consumed c', p a) → ∃ a ∈ f c', p a)
    (h : ∃ a ∈ text, p a) : ∃ a ∈ sub r f text, p a := by
  suffices hfrom : ∀ skip prev, (∃ a ∈ text.drop skip, p a) →
      ∃ a ∈ subFrom r f skip prev text, p a from hfrom 0 none h
  clear h
  induction text with
  | nil =>
    rintro skip prev ⟨a, ha, -⟩
    rw [List.drop_nil] at ha
    exact absurd ha List.not_mem_nil
  | cons b rest ih =>
    intro skip prev hsome
    cases skip with
    | succ skip =>
      rw [subFrom_skip]
      exact ih skip (some b) hsome
    | zero =>
      obtain ⟨a, ha, hp⟩ := hsome
      rw [List.drop_zero] at ha
      cases hfirst : firstMatch r prev (b :: rest) with
      | none =>
        rw [subFrom_none hfirst]
        rcases List.mem_cons.mp ha with rfl | ha
        · exact ⟨a, List.mem_cons_self, hp⟩
        · obtain ⟨a', ha', hp'⟩ := ih 0 (some b) ⟨a, ha, hp⟩
          exact ⟨a', List.mem_cons_of_mem b ha', hp'⟩
      | some c =>
        obtain ⟨hmem, hread⟩ := firstMatch_eq_some hfirst
        have hsplit : Cursor.consumed ⟨prev, b :: rest, []⟩ c ++ c.rest = b :: rest :=
          consumed_append (results_suffix hmem)
        rw [subFrom_some hfirst]
        rw [← hsplit] at ha
        rcases List.mem_append.mp ha with hin | hout
        · obtain ⟨a', ha', hp'⟩ := hf _ _ hmem ⟨a, hin, hp⟩
          exact ⟨a', List.mem_append_left _ ha', hp'⟩
        · obtain ⟨a', ha', hp'⟩ := ih (rest.length - c.rest.length) (some b)
            ⟨a, by rwa [drop_behind hmem hread], hp⟩
          exact ⟨a', List.mem_append_right _ ha', hp'⟩

/-- A text that begins with an element of `p` still does, if every replacement does. -/
theorem head?_sub (hf : ∀ c c', c' ∈ results r c → c'.rest.length < c.rest.length →
      ∃ a ∈ (f c').head?, p a)
    (h : ∃ a ∈ text.head?, p a) : ∃ a ∈ (sub r f text).head?, p a := by
  cases text with
  | nil =>
    obtain ⟨a, ha, -⟩ := h
    cases ha
  | cons b rest =>
    rw [sub]
    cases hfirst : firstMatch r none (b :: rest) with
    | none =>
      rw [subFrom_none hfirst]
      exact h
    | some c =>
      obtain ⟨hmem, hread⟩ := firstMatch_eq_some hfirst
      obtain ⟨a, ha, hp⟩ := hf _ _ hmem hread
      rw [subFrom_some hfirst]
      exact ⟨a, by rw [List.head?_append, Option.mem_def.mp ha]; rfl, hp⟩

theorem getLast?_sub (hf : ∀ c c', c' ∈ results r c → c'.rest.length < c.rest.length →
      ∃ a ∈ (f c').getLast?, p a)
    (h : ∃ a ∈ text.getLast?, p a) : ∃ a ∈ (sub r f text).getLast?, p a := by
  -- a skipped end of the text belongs to a match whose replacement stands before it
  suffices hfrom : ∀ skip prev, (∀ a ∈ text.getLast?, p a) → skip < text.length →
      ∃ a ∈ (subFrom r f skip prev text).getLast?, p a by
    obtain ⟨a, ha, hp⟩ := h
    refine hfrom 0 none (fun b hb => ?_) ?_
    · rwa [← Option.mem_unique ha hb]
    · exact List.length_pos_of_ne_nil (by rintro rfl; cases ha)
  clear h
  induction text with
  | nil => intro skip prev _ hskip; simp at hskip
  | cons b rest ih =>
    intro skip prev hlast hskip
    have hlast' : ∀ a ∈ rest.getLast?, p a := by
      intro a ha
      refine hlast a ?_
      rw [List.getLast?_cons, Option.mem_def.mp ha]
      rfl
    cases skip with
    | succ skip =>
      rw [subFrom_skip]
      exact ih skip (some b) hlast' (by simpa using hskip)
    | zero =>
      cases hfirst : firstMatch r prev (b :: rest) with
      | none =>
        rw [subFrom_none hfirst]
        cases rest with
        | nil => exact ⟨b, rfl, hlast b rfl⟩
        | cons d rest =>
          obtain ⟨a, ha, hp⟩ := ih 0 (some b) hlast' (by simp)
          exact ⟨a, by rw [List.getLast?_cons, Option.mem_def.mp ha]; rfl, hp⟩
      | some c =>
        obtain ⟨hmem, hread⟩ := firstMatch_eq_some hfirst
        obtain ⟨a, ha, hp⟩ := hf _ _ hmem hread
        rw [subFrom_some hfirst]
        by_cases hbehind : rest.length - c.rest.length < rest.length
        · obtain ⟨d, hd, hq⟩ := ih _ (some b) hlast' hbehind
          exact ⟨d, by rw [List.getLast?_append, Option.mem_def.mp hd]; rfl, hq⟩
        · rw [subFrom_eq_nil (Nat.le_of_not_lt hbehind), List.append_nil]
          exact ⟨a, ha, hp⟩

/-! ### Searching -/

/-- The first match in a text, from the left. -/
def search (r : Pattern α) : Option α → List α → Option (Cursor α)
  | prev, [] => (results r ⟨prev, [], []⟩).head?
  | prev, a :: rest =>
    match (results r ⟨prev, a :: rest, []⟩).head? with
    | some c => some c
    | none => search r (some a) rest

/-- What is found is a match at some position of the text. -/
theorem mem_of_search (h : search r prev text = some c) :
    ∃ prev rest, c ∈ results r ⟨prev, rest, []⟩ ∧ rest <:+ text := by
  induction text generalizing prev with
  | nil => exact ⟨prev, [], List.mem_of_mem_head? h, List.suffix_refl []⟩
  | cons a rest ih =>
    rw [search] at h
    split at h
    · rename_i c' hhead
      cases h
      exact ⟨prev, a :: rest, List.mem_of_mem_head? hhead, List.suffix_refl _⟩
    · obtain ⟨prev', rest', hmem, hsuffix⟩ := ih h
      exact ⟨prev', rest', hmem, hsuffix.trans (List.suffix_cons a rest)⟩

end Regex
