import Mathlib.Algebra.Ring.Int.Defs
import Mathlib.Algebra.Ring.Nat
import Mathlib.Data.List.Sort

/-!
# Reading a list page by page

A query that returns the first rows after a cursor, in the order of a key, and a
reader that continues after the last row of each page. The reader sees every row
if different rows have different keys.
-/

namespace Triangle.Std.Paging

variable {α κ : Type} [LinearOrder κ] (key : α → κ)

/-- The rows after a cursor. -/
def rowsAfter (rows : List α) (after : Option κ) : List α :=
  rows.filter fun row => after.all fun cursor => decide (cursor < key row)

/-- The first rows after a cursor, in the order of the key. -/
def page (rows : List α) (limit : Nat) (after : Option κ) : List α :=
  ((rowsAfter key rows after).insertionSort fun first second => key first ≤ key second).take limit

/-- What a reader has after some pages. -/
def pages (rows : List α) (limit : Nat) : Nat → Option κ → List α
  | 0, _ => []
  | count + 1, after =>
      match (page key rows limit after).getLast? with
      | none => []
      | some last => page key rows limit after ++ pages rows limit count (some (key last))

variable {key}

variable {rows : List α} {after : Option κ} {row : α} {limit : Nat}

theorem mem_rowsAfter :
    row ∈ rowsAfter key rows after ↔ row ∈ rows ∧ ∀ cursor, after = some cursor → cursor < key row := by
  unfold rowsAfter
  rw [List.mem_filter]
  cases after with
  | none | some => simp

section

variable (distinct : ∀ first ∈ rows, ∀ second ∈ rows, key first = key second → first = second)
  (positive : 0 < limit)
include distinct positive

/-- A row after the cursor is on the page, or after the last row of the page. -/
theorem mem_page_or_after (member : row ∈ rowsAfter key rows after) :
    ∃ last, (page key rows limit after).getLast? = some last ∧ last ∈ rowsAfter key rows after ∧
      (row ∈ page key rows limit after ∨ key last < key row) := by
  unfold page
  generalize isSorted : (rowsAfter key rows after).insertionSort
    (fun first second => key first ≤ key second) = sorted
  have sameRows : ∀ entry, entry ∈ sorted ↔ entry ∈ rowsAfter key rows after := by
    intro entry
    rw [← isSorted, List.mem_insertionSort]
  have inOrder : sorted.Pairwise fun first second => key first ≤ key second := by
    rw [← isSorted]
    exact List.pairwise_insertionSort _ _
  have isThere : row ∈ sorted := (sameRows row).mpr member
  cases isLast : (sorted.take limit).getLast? with
  | none =>
      rw [List.getLast?_eq_none_iff, List.take_eq_nil_iff] at isLast
      rcases isLast with isZero | isNil
      · omega
      · rw [isNil] at isThere
        cases isThere
  | some last =>
      have lastThere : last ∈ sorted.take limit := List.mem_of_getLast? isLast
      have lastAfter := (sameRows last).mp (List.mem_of_mem_take lastThere)
      refine ⟨last, rfl, lastAfter, ?_⟩
      rw [← List.take_append_drop limit sorted] at isThere inOrder
      rcases List.mem_append.mp isThere with onPage | afterPage
      · exact .inl onPage
      · have notAbove : key last ≤ key row :=
          (List.pairwise_append.mp inOrder).2.2 last lastThere row afterPage
        rcases notAbove.lt_or_eq with below | same
        · exact .inr below
        · left
          have isLastRow := distinct last (mem_rowsAfter.mp lastAfter).1 row
            (mem_rowsAfter.mp member).1 same
          rw [← isLastRow]
          exact lastThere

/-- A reader that follows the cursors sees every row. -/
theorem mem_pages (count : Nat) (enough : (rowsAfter key rows after).length ≤ count)
    (member : row ∈ rowsAfter key rows after) : row ∈ pages key rows limit count after := by
  induction count generalizing after with
  | zero =>
      rw [List.eq_nil_of_length_eq_zero (by omega : (rowsAfter key rows after).length = 0)] at member
      cases member
  | succ count ih =>
      obtain ⟨last, isLast, lastAfter, onPage | afterPage⟩ :=
        mem_page_or_after distinct positive member
      · simp only [pages, isLast]
        exact List.mem_append_left _ onPage
      · simp only [pages, isLast]
        refine List.mem_append_right _ (ih ?_ ?_)
        · -- The last row of the page is not after itself.
          have shorter : rowsAfter key rows (some (key last)) =
              (rowsAfter key rows after).filter fun entry => decide (key last < key entry) := by
            unfold rowsAfter
            rw [List.filter_filter]
            apply List.filter_congr
            intro entry _
            cases after with
            | none => simp
            | some cursor =>
                have above := (mem_rowsAfter.mp lastAfter).2 cursor rfl
                by_cases beyond : key last < key entry
                · simp [beyond, above.trans beyond]
                · simp [beyond]
          have fewer : ((rowsAfter key rows after).filter fun entry =>
              decide (key last < key entry)).length < (rowsAfter key rows after).length :=
            List.length_filter_lt_length_iff_exists.mpr ⟨last, lastAfter, by simp⟩
          rw [shorter]
          omega
        · refine mem_rowsAfter.mpr ⟨(mem_rowsAfter.mp member).1, ?_⟩
          rintro cursor isCursor
          cases isCursor
          exact afterPage

end

end Triangle.Std.Paging
