import Statbook.Text.Pieces

/-!
# Texts in parts

A text that is split at a character is the parts joined by it, and no part has the character. These
are the only parts that the text is joined of.
-/

namespace Statbook.Text

variable {sep c : Char} {cs piece : List Char} {pieces : List (List Char)}

theorem splitChars_ne_nil (sep : Char) (cs : List Char) : splitChars sep cs ≠ [] := by
  induction cs with
  | nil => simp [splitChars]
  | cons c cs ih =>
    unfold splitChars
    split
    · simp
    · split <;> simp

/-- What is no separator stands in some part. -/
theorem mem_splitChars (other : c ≠ sep) (cs : List Char) :
    (∃ piece ∈ splitChars sep cs, c ∈ piece) ↔ c ∈ cs := by
  induction cs with
  | nil => simp [splitChars]
  | cons d cs ih =>
    unfold splitChars
    split
    · rename_i same
      subst same
      simp [ih, other]
    · split
      · rename_i none
        exact absurd none (splitChars_ne_nil sep cs)
      · rename_i piece pieces found
        rw [found] at ih
        simp only [List.mem_cons, exists_eq_or_imp, or_assoc] at ih ⊢
        rw [ih]

theorem joinChars_cons (nonempty : pieces ≠ []) (sep piece : List Char) :
    joinChars sep (piece :: pieces) = piece ++ sep ++ joinChars sep pieces := by
  cases pieces with
  | nil => exact absurd rfl nonempty
  | cons next pieces => rfl

theorem joinChars_cons_cons (sep piece : List Char) (c : Char) (pieces : List (List Char)) :
    joinChars sep ((c :: piece) :: pieces) = c :: joinChars sep (piece :: pieces) := by
  cases pieces <;> rfl

theorem joinChars_splitChars (sep : Char) (cs : List Char) :
    joinChars [sep] (splitChars sep cs) = cs := by
  induction cs with
  | nil => rfl
  | cons c cs ih =>
    unfold splitChars
    split
    · next same =>
      rw [joinChars_cons (splitChars_ne_nil sep cs), ih, same]
      rfl
    · split
      · next none => exact absurd none (splitChars_ne_nil sep cs)
      · next piece pieces found =>
        rw [joinChars_cons_cons, ← found, ih]

theorem sep_notMem_of_mem_splitChars (member : piece ∈ splitChars sep cs) : sep ∉ piece := by
  induction cs generalizing piece with
  | nil =>
    rw [List.mem_singleton.mp member]
    exact List.not_mem_nil
  | cons c cs ih =>
    unfold splitChars at member
    split at member
    · rcases List.mem_cons.mp member with rfl | member
      · exact List.not_mem_nil
      · exact ih member
    · next other =>
      split at member
      · next none => exact absurd none (splitChars_ne_nil sep cs)
      · next first pieces found =>
        rw [found] at ih
        rcases List.mem_cons.mp member with rfl | member
        · rw [List.mem_cons, not_or]
          exact ⟨Ne.symm other, ih List.mem_cons_self⟩
        · exact ih (List.mem_cons_of_mem _ member)

theorem splitChars_of_notMem (absent : sep ∉ piece) : splitChars sep piece = [piece] := by
  induction piece with
  | nil => rfl
  | cons c piece ih =>
    rw [List.mem_cons, not_or] at absent
    rw [splitChars, if_neg (Ne.symm absent.1), ih absent.2]

theorem splitChars_append (absent : sep ∉ piece) (cs : List Char) :
    splitChars sep (piece ++ sep :: cs) = piece :: splitChars sep cs := by
  induction piece with
  | nil => rw [List.nil_append, splitChars, if_pos rfl]
  | cons c piece ih =>
    rw [List.mem_cons, not_or] at absent
    rw [List.cons_append, splitChars, if_neg (Ne.symm absent.1), ih absent.2]

/-- Parts without the separator are found again in the text that they are joined to. -/
theorem splitChars_joinChars (nonempty : pieces ≠ []) (absent : ∀ piece ∈ pieces, sep ∉ piece) :
    splitChars sep (joinChars [sep] pieces) = pieces := by
  induction pieces with
  | nil => exact absurd rfl nonempty
  | cons piece pieces ih =>
    have first := absent piece List.mem_cons_self
    cases pieces with
    | nil => exact splitChars_of_notMem first
    | cons next pieces =>
      rw [joinChars_cons (List.cons_ne_nil _ _), List.append_assoc, List.singleton_append,
        splitChars_append first, ih (List.cons_ne_nil _ _) fun piece member =>
          absent piece (List.mem_cons_of_mem _ member)]

/-- The parts of a text are those without the separator that the text is joined of. -/
theorem splitAt_eq_iff {s : String} {parts : List String} : splitAt sep s = parts ↔
    parts ≠ [] ∧ joinWith (String.singleton sep) parts = s ∧ ∀ part ∈ parts, sep ∉ part.toList := by
  have one : (String.singleton sep).toList = [sep] := by simp
  unfold joinWith
  rw [one]
  constructor
  · rintro rfl
    refine ⟨?_, ?_, ?_⟩
    · simpa [splitAt] using splitChars_ne_nil sep s.toList
    · have texts : (splitAt sep s).map String.toList = splitChars sep s.toList := by
        simp [splitAt, Function.comp_def]
      rw [texts, joinChars_splitChars, String.ofList_toList]
    · intro part member
      obtain ⟨piece, found, rfl⟩ := List.mem_map.mp member
      rw [String.toList_ofList]
      exact sep_notMem_of_mem_splitChars found
  · rintro ⟨nonempty, rfl, absent⟩
    rw [splitAt, String.toList_ofList, splitChars_joinChars (by simpa using nonempty)]
    · simp [Function.comp_def]
    · intro piece member
      obtain ⟨part, found, rfl⟩ := List.mem_map.mp member
      exact absent part found

end Statbook.Text
