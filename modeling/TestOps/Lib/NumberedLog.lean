import Mathlib

/-! Numbered logs: append-only lists whose records carry the numbers 1, 2, ..., n in order, and
    readers that follow such a log through a cursor, the number of the last record they have seen:

      log        1  2  3  4  5  6  7
      received   1  2  3             cursor = 3
      poll 2              4  5       the records after the cursor, at most two of them

    What a reader has received is always a beginning of the log, however the log grows between its
    polls, and every poll brings it forward. -/

namespace NumberedLog

variable {α : Type*} {number : α → Nat} {log log' : List α} {k limit : Nat}

/-- The records carry the numbers from 1 on. -/
def Numbered (number : α → Nat) (log : List α) : Prop :=
  log.map number = List.range' 1 log.length

theorem Numbered.nil : Numbered number ([] : List α) := rfl

/-- The next record of a numbered log carries one more than its length. -/
theorem Numbered.concat {record : α} (h : Numbered number log)
    (hnext : number record = log.length + 1) : Numbered number (log ++ [record]) := by
  rw [Numbered, List.map_append, List.map_singleton, h, hnext, List.length_append,
    List.length_singleton, List.range'_1_concat, Nat.add_comm]

/-- The highest number of a numbered log is its length. -/
theorem Numbered.foldl_max (h : Numbered number log) :
    (log.map number).foldl max 0 = log.length := by
  rw [h]
  generalize log.length = n
  induction n with
  | zero => rfl
  | succ n ih => rw [List.range'_1_concat, List.foldl_append, ih]; simp [Nat.add_comm]

/-- The record at a position carries the number after it. -/
theorem Numbered.number_getElem (h : Numbered number log) {i : Nat} (hi : i < log.length) :
    number log[i] = i + 1 := by
  have hnumber : (log.map number)[i]? = (List.range' 1 log.length)[i]? := by rw [h]
  rw [List.getElem?_map, List.getElem?_eq_getElem hi, List.getElem?_range' hi] at hnumber
  simp only [Option.map_some, Nat.one_mul, Option.some_inj] at hnumber
  omega

/-- A beginning of a numbered log is numbered. -/
theorem Numbered.take (h : Numbered number log) (k : Nat) : Numbered number (log.take k) := by
  induction k with
  | zero => exact Numbered.nil
  | succ k ih =>
    rcases lt_or_ge k log.length with hk | hk
    · rw [List.take_succ_eq_append_getElem hk]
      refine ih.concat ?_
      rw [h.number_getElem hk, List.length_take, min_eq_left (by omega)]
    · rwa [List.take_of_length_le (by omega), ← List.take_of_length_le hk]

/-- No two records carry the same number. -/
theorem Numbered.nodup (h : Numbered number log) : (log.map number).Nodup := by
  rw [h]
  exact List.nodup_range'

/-! ### Reading after a cursor -/

/-- The number of the last record that was received, zero before the first one. -/
def cursor (number : α → Nat) (received : List α) : Nat :=
  (received.getLast?.map number).getD 0

/-- The records after a cursor in the order of their numbers, at most `limit` of them. -/
def readAfter (number : α → Nat) (log : List α) (after limit : Nat) : List α :=
  ((log.filter fun record => after < number record).insertionSort
    fun a b => number a ≤ number b).take limit

/-- The records of a numbered log after a cursor are the ones it has not passed yet. -/
theorem Numbered.filter_eq_drop (h : Numbered number log) (k : Nat) :
    (log.filter fun record => k < number record) = log.drop k := by
  have hpassed : (log.take k).filter (fun record => k < number record) = [] := by
    rw [List.filter_eq_nil_iff]
    intro record hmem
    obtain ⟨i, hi, rfl⟩ := List.getElem_of_mem hmem
    rw [(h.take k).number_getElem hi, decide_eq_true_eq]
    rw [List.length_take] at hi
    omega
  have hahead : (log.drop k).filter (fun record => k < number record) = log.drop k := by
    rw [List.filter_eq_self]
    intro record hmem
    obtain ⟨i, hi, rfl⟩ := List.getElem_of_mem hmem
    rw [List.length_drop] at hi
    rw [List.getElem_drop, h.number_getElem (by omega), decide_eq_true_eq]
    omega
  conv_lhs => rw [← List.take_append_drop k log]
  rw [List.filter_append, hpassed, hahead, List.nil_append]

/-- The numbers of a numbered log ascend. -/
theorem Numbered.pairwise (h : Numbered number log) :
    log.Pairwise fun a b => number a ≤ number b := by
  rw [← List.pairwise_map, h]
  exact List.pairwise_le_range'

theorem Numbered.pairwise_lt (h : Numbered number log) :
    (log.map number).Pairwise fun m n => m < n := by
  rw [h]
  exact List.pairwise_lt_range'

theorem Numbered.mem_drop (h : Numbered number log) {record : α} :
    record ∈ log.drop k ↔ record ∈ log ∧ k < number record := by
  rw [← h.filter_eq_drop, List.mem_filter, decide_eq_true_eq]

theorem Numbered.readAfter (h : Numbered number log) :
    readAfter number log k limit = (log.drop k).take limit := by
  rw [NumberedLog.readAfter, h.filter_eq_drop]
  have hsorted : (log.drop k).Pairwise fun a b => number a ≤ number b := h.pairwise.drop
  rw [hsorted.insertionSort_eq]

/-- The number of a record is how many stand before it, and one. -/
theorem Numbered.number_last {front : List α} {last : α} (h : Numbered number log)
    (hfront : front ++ [last] <+: log.drop k) : number last = k + front.length + 1 := by
  have hlength := hfront.length_le
  rw [List.length_append, List.length_singleton, List.length_drop] at hlength
  have hlast : log[k + front.length] = last := by
    have hget := hfront.getElem (i := front.length) (by simp)
    rw [List.getElem_concat_length rfl, List.getElem_drop] at hget
    exact hget.symm
  rw [← hlast, h.number_getElem]

/-- A reader that has received the first records of a log has its cursor right behind them. -/
theorem Numbered.cursor_eq {received : List α} (h : Numbered number received) :
    cursor number received = received.length := by
  rw [cursor]
  rcases List.eq_nil_or_concat received with rfl | ⟨front, last, rfl⟩
  · rfl
  · rw [List.concat_eq_append, List.getLast?_concat, Option.map_some, Option.getD_some]
    have hlast := h.number_getElem (i := front.length) (by simp)
    simpa using hlast

/-- A poll brings a reader forward by up to `limit` records, and leaves none out. -/
theorem Numbered.poll {received : List α} (h : Numbered number log) (hgrows : received <+: log) :
    received ++ NumberedLog.readAfter number log (cursor number received) limit =
      log.take (received.length + limit) := by
  have htake : received = log.take received.length := List.prefix_iff_eq_take.mp hgrows
  have hreceived : Numbered number received := htake ▸ h.take received.length
  rw [hreceived.cursor_eq, h.readAfter]
  conv_lhs => rw [htake]
  rw [List.take_add, List.length_take, min_eq_left hgrows.length_le]

/-- Every poll brings a reader at least one record further in what the log held before it. -/
theorem take_succ_grows {received : List α} {m : Nat} (hlog : log <+: log')
    (hreceived : received <+: log') (hseen : log.take m <+: received) (hlimit : 1 ≤ limit) :
    log.take (m + 1) <+: log'.take (received.length + limit) := by
  have hforward : received <+: log'.take (received.length + limit) := by
    rw [List.prefix_take_iff]
    exact ⟨hreceived, by omega⟩
  rcases lt_or_ge m log.length with hm | hm
  · have hlength := hseen.length_le
    rw [List.length_take, min_eq_left (by omega)] at hlength
    rw [List.prefix_take_iff]
    refine ⟨(List.take_prefix _ _).trans hlog, ?_⟩
    rw [List.length_take]
    omega
  · rw [List.take_of_length_le (by omega), ← List.take_of_length_le hm]
    exact hseen.trans hforward

end NumberedLog
