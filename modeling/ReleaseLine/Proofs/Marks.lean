import Mathlib.Data.List.TakeDrop
import Mathlib.Data.List.TakeWhile

namespace ReleaseLine.Text

variable {mark : Char} {text left left' right right' : List Char}

theorem ne_of_notMem (h : mark ∉ text) : ∀ c ∈ text, decide (c ≠ mark) = true := by
  intro c hc
  rw [decide_eq_true_eq]
  rintro rfl
  exact h hc

theorem span_of_notMem (h : mark ∉ text) : text.span (· ≠ mark) = (text, []) := by
  rw [List.span_eq_takeWhile_dropWhile, List.takeWhile_eq_self_iff.mpr (ne_of_notMem h),
    List.dropWhile_eq_nil_iff.mpr (ne_of_notMem h)]

theorem span_append (h : mark ∉ left) (right : List Char) :
    (left ++ mark :: right).span (· ≠ mark) = (left, mark :: right) := by
  rw [List.span_eq_takeWhile_dropWhile, List.takeWhile_append_of_pos (ne_of_notMem h),
    List.dropWhile_append_of_pos (ne_of_notMem h)]
  simp

theorem append_mark_inj (h : mark ∉ left) (h' : mark ∉ left')
    (heq : left ++ mark :: right = left' ++ mark :: right') : left = left' ∧ right = right' := by
  have hspan := span_append h right
  rw [heq, span_append h' right', Prod.mk.injEq, List.cons.injEq] at hspan
  exact ⟨hspan.1.symm, hspan.2.2.symm⟩

theorem notMem_of_mem_splitOn {piece : List Char} (h : piece ∈ text.splitOn mark) :
    mark ∉ piece := by
  induction text generalizing piece with
  | nil =>
      rw [List.splitOn_nil, List.mem_singleton] at h
      rw [h]
      exact List.not_mem_nil
  | cons c text ih =>
      rw [List.splitOn_cons_eq_if_modifyHead] at h
      split at h
      · rcases List.mem_cons.mp h with rfl | h
        · exact List.not_mem_nil
        · exact ih h
      · rename_i hc
        -- A character that is not the mark joins the first part.
        obtain ⟨first, later, hparts⟩ := List.exists_cons_of_ne_nil (List.splitOn_ne_nil mark text)
        rw [hparts] at h ih
        rcases List.mem_cons.mp h with rfl | h
        · have hfirst := ih List.mem_cons_self
          simp only [beq_iff_eq] at hc
          exact List.not_mem_cons_of_ne_of_not_mem (Ne.symm hc) hfirst
        · exact ih (List.mem_cons_of_mem _ h)

end ReleaseLine.Text
