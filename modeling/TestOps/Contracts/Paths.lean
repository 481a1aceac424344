import TestOps.Contracts.Text
import TestOps.Lib.FileTree

/-! Paths of files, as sequences of names, and as texts with slashes between the names. -/

namespace TestOps.Paths

open Delimited

abbrev Path := List Text

abbrev Disk := FileTree Text UInt8

/-- One step up, no step, or one step down. -/
def follow (p : Path) (name : Text) : Path :=
  if name = "..".toList then p.dropLast else if name = ".".toList then p else p ++ [name]

/-- `Path.resolve`, of an absolute path -/
def resolve (p : Path) : Path := p.foldl follow []

/-- `PurePosixPath(name).parts`, of a relative path -/
def partsOf (name : Text) : Path :=
  (name.splitOn '/').filter fun part => decide (part ≠ [] ∧ part ≠ ".".toList)

/-- `Path.as_posix`, of a relative path -/
def posix (p : Path) : Text := ['/'].intercalate p

/-- A key of a store: a relative path without steps that stay or go up. -/
def isSafeKey (key : Text) : Bool :=
  key ≠ [] ∧ '\\' ∉ key ∧
    (key.splitOn '/').all (fun part => decide (part ∉ [[], ".".toList, "..".toList])) ∧
    key.all fun c => decide (32 ≤ c.toNat)

/-- A name that a file can have, without control characters. -/
def IsName (name : Text) : Prop :=
  name ≠ [] ∧ name ≠ ".".toList ∧ name ≠ "..".toList ∧ ∀ c ∈ name, c ≠ '/' ∧ 32 ≤ c.toNat

/-! ### Resolved paths -/

/-- A path without steps that stay or go up. -/
def Resolved (p : Path) : Prop := "..".toList ∉ p ∧ ".".toList ∉ p

theorem resolved_nil : Resolved [] := ⟨List.not_mem_nil, List.not_mem_nil⟩

theorem resolved_append {p q : Path} : Resolved (p ++ q) ↔ Resolved p ∧ Resolved q := by
  simp only [Resolved, List.mem_append, not_or]
  tauto

theorem resolved_singleton {name : Text} :
    Resolved [name] ↔ name ≠ "..".toList ∧ name ≠ ".".toList := by
  simp only [Resolved, List.mem_singleton, ne_comm (a := name), ne_eq]

theorem foldl_follow {p q : Path} (h : Resolved q) : q.foldl follow p = p ++ q := by
  induction q generalizing p with
  | nil => simp
  | cons name q ih =>
    simp only [Resolved, List.mem_cons, not_or] at h
    rw [List.foldl_cons, follow, if_neg (Ne.symm h.1.1), if_neg (Ne.symm h.2.1), ih ⟨h.1.2, h.2.2⟩,
      List.append_assoc, List.singleton_append]

theorem resolve_eq {p : Path} (h : Resolved p) : resolve p = p := foldl_follow h

theorem resolved_foldl {p q : Path} (hp : Resolved p) : Resolved (q.foldl follow p) := by
  induction q generalizing p with
  | nil => exact hp
  | cons name q ih =>
    refine ih ?_
    unfold follow
    split
    · exact ⟨fun h => hp.1 (List.dropLast_subset _ h), fun h => hp.2 (List.dropLast_subset _ h)⟩
    · rename_i hup
      split
      · exact hp
      · rename_i hstay
        exact resolved_append.mpr ⟨hp, resolved_singleton.mpr ⟨hup, hstay⟩⟩

theorem resolved_resolve {p : Path} : Resolved (resolve p) := resolved_foldl resolved_nil

/-! ### Names -/

theorem resolved_of_names {p : Path} (h : ∀ name ∈ p, IsName name) : Resolved p :=
  ⟨fun hmem => (h _ hmem).2.2.1 rfl, fun hmem => (h _ hmem).2.1 rfl⟩

/-- The names of a path are what stands between its slashes. -/
theorem splitOn_posix {p : Path} (h : ∀ name ∈ p, IsName name) (hne : p ≠ []) :
    (posix p).splitOn '/' = p := by
  refine splitOnP_intercalate (by simp) hne fun name hname => ?_
  intro c hc
  simpa using ((h name hname).2.2.2 c hc).1

theorem mem_posix {p : Path} {c : Char} (h : c ∈ posix p) :
    c = '/' ∨ ∃ name ∈ p, c ∈ name := by
  induction p with
  | nil => cases h
  | cons name p ih =>
    cases p with
    | nil =>
      rw [posix, List.intercalate_singleton] at h
      exact .inr ⟨name, List.mem_cons_self, h⟩
    | cons next p =>
      rw [posix, List.intercalate_cons_cons] at h
      simp only [List.mem_append, List.mem_singleton] at h
      rcases h with (h | rfl) | h
      · exact .inr ⟨name, List.mem_cons_self, h⟩
      · exact .inl rfl
      · rcases ih h with rfl | ⟨other, hother, hc⟩
        · exact .inl rfl
        · exact .inr ⟨other, List.mem_cons_of_mem _ hother, hc⟩

end TestOps.Paths
