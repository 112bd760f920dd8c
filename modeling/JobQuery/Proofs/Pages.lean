import JobQuery.Proofs.SessionStart

/-!
# JobQuery — how the pages of the in-memory service tile its rows

The in-memory service numbers the rows of a job `0 ..< rows` and serves page `n` in pages of
`P` rows as the rows `pageStart n ..< pageStart (n + 1)`. This module states how the pages fit
together: runs of rows that meet join without a gap or an overlap, a page is empty only once it
starts at the end, the page after `rows / P` starts at the end, and no row is written twice. It
also bounds the pages a reader ever asks for, so that serving them never overflows.
-/

namespace JobQuery

open Json

open scoped List

/-! ## Runs of rows -/

namespace FakeService

theorem rowsBetween_eq_nil_iff {a c : Nat} : rowsBetween false a c = [] ↔ c ≤ a := by
  simp only [rowsBetween, List.map_eq_nil_iff, List.range_eq_nil]
  omega

theorem rowsBetween_of_le {a c : Nat} (h : c ≤ a) : rowsBetween false a c = [] :=
  rowsBetween_eq_nil_iff.mpr h

/-- Two runs of rows that meet join into one. -/
theorem rowsBetween_append {a m c : Nat} (h₁ : a ≤ m) (h₂ : m ≤ c) :
    rowsBetween false a m ++ rowsBetween false m c = rowsBetween false a c := by
  have hlen : c - a = (m - a) + (c - m) := by omega
  rw [rowsBetween, rowsBetween, rowsBetween, hlen, List.range_add, List.map_append, List.map_map]
  congr 1
  refine List.map_congr_left fun i _ => ?_
  -- the second run counts from `m`, which is `m - a` rows after `a`
  have hi : a + (m - a + i) = m + i := by omega
  simp only [Function.comp_apply, hi]

/-- A run of rows that starts later is a part of the run that starts earlier. -/
theorem rowsBetween_sublist {a a' c : Nat} (h : a ≤ a') :
    rowsBetween false a' c <+ rowsBetween false a c := by
  by_cases hc : a' ≤ c
  · rw [← rowsBetween_append h hc]
    exact List.sublist_append_right _ _
  · rw [rowsBetween_of_le (by omega : c ≤ a')]
    exact List.nil_sublist _

/-- The service writes each row number once. -/
theorem rowsBetween_nodup (a c : Nat) : (rowsBetween false a c).Nodup := by
  refine List.Nodup.map (fun i j h => ?_) List.nodup_range
  simpa [Value.object, Value.insertField, Value.nat] using h

end FakeService

/-! ## Pages -/

namespace Behavior

variable (b : Behavior) {P : Nat}

/-- Every row of the job, in order. -/
def allRows : List Value := FakeService.rowsBetween false 0 b.rows

theorem allRows_nodup : b.allRows.Nodup := FakeService.rowsBetween_nodup 0 b.rows

@[simp] theorem pageStart_zero (P : Nat) : b.pageStart P 0 = 0 := by simp [pageStart]

theorem pageStart_le_rows (P n : Nat) : b.pageStart P n ≤ b.rows := Nat.min_le_right _ _

theorem pageStart_mono {m n : Nat} (h : m ≤ n) : b.pageStart P m ≤ b.pageStart P n := by
  have hmul : m * P ≤ n * P := Nat.mul_le_mul_right P h
  simp only [pageStart]
  omega

/-- A page ends where the next one starts. -/
theorem pageStop_eq (P n : Nat) : b.pageStop P n = b.pageStart P (n + 1) := by
  simp only [pageStop, pageStart, Nat.succ_mul]
  omega

theorem page_rows (P n : Nat) :
    (b.page P n).rows =
      FakeService.rowsBetween false (b.pageStart P n) (b.pageStart P (n + 1)) := by
  rw [page, pageStop_eq]

theorem pageStart_lt_rows {n : Nat} : b.pageStart P n < b.rows ↔ n * P < b.rows := by
  simp [pageStart]

/-- The page after `rows / P` starts at the end of the rows. -/
theorem pageStart_last (hP : 0 < P) : b.pageStart P (b.rows / P + 1) = b.rows := by
  have hlt : b.rows < b.rows / P * P + P := Nat.lt_div_mul_add hP
  simp only [pageStart, Nat.succ_mul]
  omega

/-- A page is empty only once it starts at the end of the rows. -/
theorem page_rows_eq_nil (hP : 0 < P) {n : Nat} (h : (b.page P n).rows = []) :
    b.rows ≤ n * P := by
  rw [page_rows, FakeService.rowsBetween_eq_nil_iff] at h
  simp only [pageStart, Nat.succ_mul] at h
  omega

/-- A page that starts within the rows can be served without an overflow, when the rows and
one more page fit in 64 bits. -/
theorem pageFits_of_le (hP : 0 < P) (hfit : b.rows + P < Nat.pow 2 64) {n : Nat}
    (hn : n * P ≤ b.rows) : b.PageFits P n := by
  have h64 : Nat.pow 2 64 = 18446744073709551616 := rfl
  have hstart := b.pageStart_le_rows P n
  have hn' : n ≤ n * P := Nat.le_mul_of_pos_right n hP
  rw [h64] at hfit
  refine ⟨by rw [h64]; omega, by rw [h64]; omega, fun _ => by rw [h64]; omega⟩

end Behavior

end JobQuery
