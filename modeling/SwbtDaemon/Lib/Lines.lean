import Mathlib.Data.List.Basic

/-!
# Lines of a stream

A stream of symbols is split after each separator. `completeLines` are the lines that end in the
separator, `unfinished` is what follows the last one.
-/

namespace Lines

variable {α : Type*} [DecidableEq α] {sep : α}

/-- The lines of `s` that end in `sep`, each with its separator. -/
def completeLines (sep : α) (s : List α) : List (List α) :=
  (s.splitOn sep).dropLast.map (· ++ [sep])

/-- What follows the last separator of `s`. -/
def unfinished (sep : α) (s : List α) : List α := (s.splitOn sep).getLastD []

/-- A line: the separator is its last symbol and occurs nowhere else. -/
def IsLine (sep : α) (l : List α) : Prop := ∃ body, l = body ++ [sep] ∧ sep ∉ body

theorem completeLines_of_not_mem {s : List α} (h : sep ∉ s) : completeLines sep s = [] := by
  simp [completeLines, List.splitOn_eq_singleton h]

theorem unfinished_of_not_mem {s : List α} (h : sep ∉ s) : unfinished sep s = s := by
  simp [unfinished, List.splitOn_eq_singleton h]

theorem completeLines_line_append {l : List α} (hl : IsLine sep l) (rest : List α) :
    completeLines sep (l ++ rest) = l :: completeLines sep rest := by
  obtain ⟨body, rfl, hbody⟩ := hl
  have hsplit : (body ++ sep :: rest).splitOn sep = body :: rest.splitOn sep :=
    List.splitOn_append_cons_self_of_not_mem hbody rest
  simp [completeLines, hsplit, List.dropLast_cons_of_ne_nil]

theorem unfinished_line_append {l : List α} (hl : IsLine sep l) (rest : List α) :
    unfinished sep (l ++ rest) = unfinished sep rest := by
  obtain ⟨body, rfl, hbody⟩ := hl
  have hsplit : (body ++ sep :: rest).splitOn sep = body :: rest.splitOn sep :=
    List.splitOn_append_cons_self_of_not_mem hbody rest
  have hne : rest.splitOn sep ≠ [] := List.splitOn_ne_nil sep rest
  simp only [unfinished, List.append_assoc, List.cons_append, List.nil_append, hsplit]
  cases h : rest.splitOn sep with
  | nil => exact absurd h hne
  | cons a as => simp [List.getLastD]

theorem completeLines_flatten_append {lines : List (List α)} (h : ∀ l ∈ lines, IsLine sep l)
    (rest : List α) :
    completeLines sep (lines.flatten ++ rest) = lines ++ completeLines sep rest := by
  induction lines with
  | nil => rfl
  | cons l lines ih =>
    rw [List.flatten_cons, List.append_assoc, completeLines_line_append (h l List.mem_cons_self),
      ih fun l hl => h l (List.mem_cons_of_mem _ hl), List.cons_append]

theorem unfinished_flatten_append {lines : List (List α)} (h : ∀ l ∈ lines, IsLine sep l)
    (rest : List α) : unfinished sep (lines.flatten ++ rest) = unfinished sep rest := by
  induction lines with
  | nil => rfl
  | cons l lines ih =>
    rw [List.flatten_cons, List.append_assoc, unfinished_line_append (h l List.mem_cons_self),
      ih fun l hl => h l (List.mem_cons_of_mem _ hl)]

/-- A first line that starts with symbols other than the separator is longer than these. -/
theorem length_lt_of_mem_head? {start rest l : List α} (h : sep ∉ start)
    (hl : l ∈ (completeLines sep (start ++ rest)).head?) : start.length < l.length := by
  by_cases hmem : sep ∈ rest
  · obtain ⟨before, after, rfl, hbefore⟩ := List.eq_append_cons_of_mem hmem
    have hline : IsLine sep (start ++ before ++ [sep]) :=
      ⟨start ++ before, rfl, by simp [h, hbefore]⟩
    have hsplit : start ++ (before ++ sep :: after) = start ++ before ++ [sep] ++ after := by simp
    rw [hsplit, completeLines_line_append hline] at hl
    obtain rfl : start ++ before ++ [sep] = l := by simpa using hl
    simp only [List.length_append, List.length_singleton]
    omega
  · rw [completeLines_of_not_mem (by simp [h, hmem])] at hl
    cases hl

/-- The lines of length at most `n` before the first longer one, in a stream whose next line after
`lines` is longer than `n`. -/
theorem takeWhile_length_le_of_long {lines : List (List α)} {n : Nat} {start : List α}
    (h : ∀ l ∈ lines, IsLine sep l ∧ l.length ≤ n) (hstart : sep ∉ start) (rest : List α)
    (hn : n ≤ start.length) :
    (completeLines sep (lines.flatten ++ (start ++ rest))).takeWhile (·.length ≤ n) = lines := by
  rw [completeLines_flatten_append fun l hl => (h l hl).1,
    List.takeWhile_append_of_pos fun l hl => by simpa using (h l hl).2]
  cases hc : completeLines sep (start ++ rest) with
  | nil => simp
  | cons l ls =>
    have hlen : start.length < l.length := length_lt_of_mem_head? hstart (by rw [hc]; rfl)
    have hlong : ¬ l.length ≤ n := by omega
    simp [hlong]

end Lines
