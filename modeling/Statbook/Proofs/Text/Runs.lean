import Mathlib.Data.List.TakeWhile
import Statbook.Text.Blank

/-!
# Runs of characters

A run of characters of one kind ends where a character of another kind stands. What follows a
run tells where it ended, so texts made of a run and a rest are taken apart in one way only.
-/

namespace Statbook.Text

variable {α : Type} {p : α → Bool} {run run' rest rest' : List α}

/-- A run is what is taken from the front while its kind lasts. -/
theorem takeWhile_run (kind : ∀ c ∈ run, p c) (stops : ∀ c ∈ rest.head?, ¬p c) :
    (run ++ rest).takeWhile p = run := by
  rw [List.takeWhile_append_of_pos kind]
  cases rest with
  | nil => simp
  | cons c rest => rw [List.takeWhile_cons_of_neg (stops c rfl), List.append_nil]

/-- What follows a run is left when the run is dropped. -/
theorem dropWhile_run (kind : ∀ c ∈ run, p c) (stops : ∀ c ∈ rest.head?, ¬p c) :
    (run ++ rest).dropWhile p = rest := by
  rw [List.dropWhile_append_of_pos kind]
  cases rest with
  | nil => rfl
  | cons c rest => rw [List.dropWhile_cons_of_neg (stops c rfl)]

/-- Two texts that start with runs are equal only if the runs and the rests are. -/
theorem run_append_inj (kind : ∀ c ∈ run, p c) (stops : ∀ c ∈ rest.head?, ¬p c)
    (kind' : ∀ c ∈ run', p c) (stops' : ∀ c ∈ rest'.head?, ¬p c)
    (same : run ++ rest = run' ++ rest') : run = run' ∧ rest = rest' := by
  constructor
  · rw [← takeWhile_run kind stops, same, takeWhile_run kind' stops']
  · rw [← dropWhile_run kind stops, same, dropWhile_run kind' stops']

/-- Nothing is left of a text that is trimmed exactly when it has nothing but blanks. -/
theorem trim_eq_empty_iff {s : String} : trim s = "" ↔ isBlankText s := by
  have empty : trim s = "" ↔ ∀ c ∈ skipBlanks s.toList, isBlank c := by
    rw [← String.toList_inj, trim, String.toList_ofList, trimChars, dropTrailingBlanks,
      show "".toList = [] from rfl, List.reverse_eq_nil_iff, List.dropWhile_eq_nil_iff]
    simp only [List.mem_reverse]
  rw [empty, isBlankText, List.all_eq_true]
  constructor
  · intro rest c member
    rw [← @List.takeWhile_append_dropWhile _ isBlank s.toList] at member
    rcases List.mem_append.mp member with front | back
    · exact List.all_eq_true.mp List.all_takeWhile c front
    · exact rest c back
  · exact fun blank c member => blank c ((List.dropWhile_suffix isBlank).mem member)

end Statbook.Text
