import Mathlib.Data.List.Perm.Subperm
import Mathlib.Tactic.Common

/-!
A line that is served in batches of bounded size. A batch may go to others than those who
wait; the places they take while one who waits is left out are lost. All are served by so
many batches exactly if the places lost are no more than those to spare.
-/

namespace RcProtocol.Library
variable {ι : Type} [DecidableEq ι]

/-- Who still waits after a batch. -/
def left (waiting batch : List ι) : List ι := waiting.filter (· ∉ batch)

/-- The places of a batch that others take from one who waits. -/
def lost (waiting batch : List ι) : Nat :=
  if waiting ⊆ batch then 0 else (batch.filter (· ∉ waiting)).length

/-- A batch has so many places at most, and no place is empty as long as one waits for it. -/
structure Fills (c : Nat) (waiting batch : List ι) : Prop where
  nodup : batch.Nodup
  length_le : batch.length ≤ c
  full : ¬waiting ⊆ batch → batch.length = c

/-- So many batches, the places lost in them, and who waits after them. -/
inductive Batched (c : Nat) (start : List ι) : Nat → Nat → List ι → Prop
  | start : Batched c start 0 0 start
  | batch {k l : Nat} {waiting : List ι} (run : Batched c start k l waiting) {batch : List ι}
      (hfills : Fills c waiting batch) :
      Batched c start (k + 1) (l + lost waiting batch) (left waiting batch)

variable {c k l : Nat} {start waiting batch : List ι}

theorem left_eq_nil_iff : left waiting batch = [] ↔ waiting ⊆ batch := by
  simp only [left, List.filter_eq_nil_iff, decide_eq_true_eq, not_not]
  rfl

/-- Those served are counted in the line and in the batch alike. -/
theorem length_left_add (hwaiting : waiting.Nodup) (hbatch : batch.Nodup) :
    (left waiting batch).length + (batch.filter (· ∈ waiting)).length = waiting.length := by
  have hserved : (waiting.filter (· ∈ batch)).Perm (batch.filter (· ∈ waiting)) := by
    apply (List.perm_ext_iff_of_nodup (hwaiting.filter _) (hbatch.filter _)).mpr
    intro a
    simp only [List.mem_filter, decide_eq_true_eq]
    exact and_comm
  rw [← hserved.length_eq, left, ← List.countP_eq_length_filter, ← List.countP_eq_length_filter,
    List.length_eq_countP_add_countP (· ∈ batch), Nat.add_comm]
  simp

theorem Fills.length_left (h : Fills c waiting batch) (hwaiting : waiting.Nodup)
    (hleft : left waiting batch ≠ []) :
    (left waiting batch).length + c = waiting.length + lost waiting batch := by
  have hout : ¬waiting ⊆ batch := fun hin => hleft (left_eq_nil_iff.mpr hin)
  have hserved := length_left_add hwaiting h.nodup
  have hplaces : (batch.filter (· ∈ waiting)).length + (batch.filter (· ∉ waiting)).length = c := by
    rw [← h.full hout, ← List.countP_eq_length_filter, ← List.countP_eq_length_filter,
      List.length_eq_countP_add_countP (· ∈ waiting)]
    simp
  rw [lost, if_neg hout]
  omega

theorem Fills.served (h : Fills c waiting batch) (hwaiting : waiting.Nodup)
    (hleft : left waiting batch = []) : lost waiting batch = 0 ∧ waiting.length ≤ c := by
  have hin := left_eq_nil_iff.mp hleft
  rw [lost, if_pos hin]
  have hlength := (List.subperm_of_subset hwaiting hin).length_le
  exact ⟨rfl, Nat.le_trans hlength h.length_le⟩

namespace Batched

theorem nodup (run : Batched c start k l waiting) (hstart : start.Nodup) : waiting.Nodup := by
  induction run with
  | start => exact hstart
  | batch _ _ ih => exact ih.filter _

/-- As long as one waits every batch is full, so the line is shorter by the places not lost. -/
theorem count (run : Batched c start k l waiting) (hstart : start.Nodup) :
    (waiting ≠ [] → waiting.length + c * k = start.length + l) ∧
      (waiting = [] → start.length + l ≤ c * k) := by
  induction run with
  | start => exact ⟨fun _ => by omega, fun hnil => by simp [hnil]⟩
  | @batch k l waiting run batch hfills ih =>
      have hwaiting := run.nodup hstart
      constructor
      · intro hleft
        have hlength := hfills.length_left hwaiting hleft
        have hcount := ih.1 fun hnil => hleft (by rw [hnil]; rfl)
        rw [Nat.mul_succ]
        omega
      · intro hleft
        obtain ⟨hnone, hlast⟩ := hfills.served hwaiting hleft
        rw [Nat.mul_succ, hnone]
        by_cases hnil : waiting = []
        · have hcount := ih.2 hnil
          omega
        · have hcount := ih.1 hnil
          omega

theorem all_iff (run : Batched c start k l waiting) (hstart : start.Nodup) :
    waiting = [] ↔ start.length + l ≤ c * k := by
  obtain ⟨hsome, hnone⟩ := run.count hstart
  constructor
  · exact hnone
  · intro hle
    by_contra hne
    have hlength := List.length_pos_iff.mpr hne
    have hcount := hsome hne
    omega

end Batched

end RcProtocol.Library
