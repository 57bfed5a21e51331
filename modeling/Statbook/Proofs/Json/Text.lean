import Statbook.Proofs.Json.Number
import Statbook.Proofs.Json.Quoted
import Statbook.Proofs.Text.Runs

/-!
# Texts of JSON values

The compact text of a value determines the value, but for the floats that JSON has no numbers
for: all of those are written as null. Values inside arrays and objects are taken apart at the
comma or bracket that follows them.
-/

namespace Statbook.Json

open Decimal

mutual

/-- The value with null for each float that JSON has no number for. -/
def settled : Json → Json
  | null => null
  | bool value => bool value
  | integer value => integer value
  | float value => if isFinite value then float value else null
  | text value => text value
  | array items => array (settledItems items)
  | object members => object (settledMembers members)

/-- The items of an array, settled one by one. -/
def settledItems : List Json → List Json
  | [] => []
  | item :: items => item.settled :: settledItems items

/-- The members of an object, settled one by one. -/
def settledMembers : List (String × Json) → List (String × Json)
  | [] => []
  | (name, value) :: members => (name, value.settled) :: settledMembers members

end

theorem settledItems_cons (item : Json) (items : List Json) :
    settledItems (item :: items) = item.settled :: settledItems items := rfl

theorem settledMembers_cons (name : String) (value : Json) (members : List (String × Json)) :
    settledMembers ((name, value) :: members) = (name, value.settled) :: settledMembers members :=
  rfl

/-- A value that is written without quotes and brackets. -/
def isBare : Json → Bool
  | null | bool _ | integer _ | float _ => true
  | text _ | array _ | object _ => false

/-- A character of a value that is written without quotes and brackets. -/
def isBareChar (c : Char) : Bool :=
  isNumberChar c || ('a' ≤ c && c ≤ 'z')

/-- Text that may follow a value: nothing, or what goes on with a comma or a closing bracket. -/
def Closes (rest : List Char) : Prop :=
  ∀ c ∈ rest.head?, c = ',' ∨ c = ']' ∨ c = '}'

theorem closes_nil : Closes [] := by
  simp [Closes]

theorem closes_cons {c : Char} {rest : List Char} (closer : c = ',' ∨ c = ']' ∨ c = '}') :
    Closes (c :: rest) := by
  simpa [Closes] using closer

theorem Closes.stops {rest : List Char} (closes : Closes rest) : ∀ c ∈ rest.head?, ¬isBareChar c := by
  intro c head
  rcases closes c head with rfl | rfl | rfl <;> decide

/-- The text of a float is the number of a finite float, or null. -/
theorem floatChars_cases (x : Float) :
    isFinite x ∧ jsonFloat? x = some (floatChars x) ∧ IsFloatText (floatChars x) ∨
      ¬isFinite x ∧ floatChars x = "null".toList := by
  have finite : (jsonFloat? x).isSome = isFinite x := jsonFloat_isSome
  unfold floatChars
  cases written : jsonFloat? x with
  | none => exact Or.inr ⟨by simp [← finite, written], rfl⟩
  | some text => exact Or.inl ⟨by simp [← finite, written], rfl, isFloatText_of_jsonFloat written⟩

theorem isBareChar_of_isNumberChar {c : Char} (number : isNumberChar c) : isBareChar c := by
  simp [isBareChar, number]

theorem isBareChar_of_mem_null {c : Char} (member : c ∈ "null".toList) : isBareChar c := by
  have all : "null".toList.all isBareChar := by decide
  exact List.all_eq_true.mp all c member

theorem isBareChar_of_mem_chars {v : Json} (bare : v.isBare) {c : Char} (member : c ∈ v.chars) :
    isBareChar c := by
  cases v with
  | null => exact isBareChar_of_mem_null (by simpa [chars] using member)
  | bool value =>
    have all : (bool value).chars.all isBareChar := by cases value <;> decide
    exact List.all_eq_true.mp all c member
  | integer value => exact isBareChar_of_isNumberChar (isNumberChar_of_mem_ofInt member).1
  | float value =>
    have member : c ∈ floatChars value := member
    rcases floatChars_cases value with ⟨-, -, number, -⟩ | ⟨-, null⟩
    · exact isBareChar_of_isNumberChar (number c member)
    · exact isBareChar_of_mem_null (null ▸ member)
  | text _ | array _ | object _ => simp [isBare] at bare

/-- No value is written as nothing, and what is written for a value starts with no comma and
no closing bracket. -/
theorem chars_head (v : Json) : ∃ c cs, v.chars = c :: cs ∧ ¬(c = ',' ∨ c = ']' ∨ c = '}') := by
  have bareHead {v : Json} (bare : v.isBare) (nonempty : v.chars ≠ []) :
      ∃ c cs, v.chars = c :: cs ∧ ¬(c = ',' ∨ c = ']' ∨ c = '}') := by
    obtain ⟨c, cs, equal⟩ := List.exists_cons_of_ne_nil nonempty
    have bareChar : isBareChar c := isBareChar_of_mem_chars bare (equal ▸ List.mem_cons_self)
    refine ⟨c, cs, equal, ?_⟩
    rintro (rfl | rfl | rfl) <;> exact absurd bareChar (by decide)
  cases v with
  | null => exact bareHead rfl (by simp [chars])
  | bool value => exact bareHead rfl (by cases value <;> simp [chars])
  | integer value => exact bareHead rfl (ofInt_ne_nil value)
  | float value =>
    refine bareHead rfl fun nothing => ?_
    have nothing : floatChars value = [] := nothing
    rcases floatChars_cases value with ⟨-, -, -, c, member, -⟩ | ⟨-, null⟩
    · simp [nothing] at member
    · simp [nothing] at null
  | text value => exact ⟨'"', _, rfl, by decide⟩
  | array items => exact ⟨'[', _, rfl, by decide⟩
  | object members => exact ⟨'{', _, rfl, by decide⟩

/-- What is written for the bare values that JSON can tell apart. -/
inductive BareText : Json → List Char → Prop
  | null : BareText .null "null".toList
  | bool (value : Bool) : BareText (.bool value) (if value then "true" else "false").toList
  | integer (value : Int) : BareText (.integer value) (ofInt value)
  | float {value : Float} {text : List Char} (written : jsonFloat? value = some text) :
      BareText (.float value) text

theorem bareText_settled {v : Json} (bare : v.isBare) : BareText v.settled v.chars := by
  cases v with
  | null => simpa [settled, chars] using BareText.null
  | bool value => simpa [settled, chars] using BareText.bool value
  | integer value => simpa [settled, chars] using BareText.integer value
  | float value =>
    simp only [settled, chars]
    rcases floatChars_cases value with ⟨finite, written, -⟩ | ⟨infinite, null⟩
    · rw [if_pos finite]
      exact BareText.float written
    · rw [if_neg infinite, null]
      exact BareText.null
  | text _ | array _ | object _ => simp [isBare] at bare

/-- Whether a value is written as a word. -/
def isWord : Json → Bool
  | null | bool _ => true
  | _ => false

theorem BareText.isWord_iff {v : Json} {text : List Char} (h : BareText v text) :
    v.isWord ↔ ∃ c ∈ text, ¬isNumberChar c := by
  cases h with
  | null => exact iff_of_true rfl ⟨'n', by decide, by decide⟩
  | bool value =>
    cases value with
    | false => exact iff_of_true rfl ⟨'f', by decide, by decide⟩
    | true => exact iff_of_true rfl ⟨'t', by decide, by decide⟩
  | integer value =>
    simp only [isWord, Bool.false_eq_true, false_iff, not_exists, not_and, not_not]
    exact fun c member => (isNumberChar_of_mem_ofInt member).1
  | float written =>
    simp only [isWord, Bool.false_eq_true, false_iff, not_exists, not_and, not_not]
    exact (isFloatText_of_jsonFloat written).1

/-- Bare values with one text are the same. -/
theorem BareText.unique {v w : Json} {text text' : List Char} (h : BareText v text)
    (h' : BareText w text') (same : text = text') : v = w := by
  have words : v.isWord ↔ w.isWord := by rw [h.isWord_iff, h'.isWord_iff, same]
  -- A float has a mark that no integer has.
  have apart {n : Int} {x : Float} (written : jsonFloat? x = some (ofInt n)) : False := by
    obtain ⟨c, member, mark⟩ := (isFloatText_of_jsonFloat written).2
    exact (isNumberChar_of_mem_ofInt member).2 mark
  cases h with
  | null =>
    cases h' with
    | null => rfl
    | bool value => cases value <;> exact absurd same (by decide)
    | integer _ | float _ => simp [isWord] at words
  | bool value =>
    cases h' with
    | null => cases value <;> exact absurd same (by decide)
    | bool value' => cases value <;> cases value' <;> first | rfl | exact absurd same (by decide)
    | integer _ | float _ => simp [isWord] at words
  | integer value =>
    cases h' with
    | null | bool _ => simp [isWord] at words
    | integer value' => rw [ofInt_injective same]
    | float written => exact (apart (same ▸ written)).elim
  | float written =>
    cases h' with
    | null | bool _ => simp [isWord] at words
    | integer value' => exact (apart (same ▸ written)).elim
    | float written' => rw [jsonFloat_injective written (same ▸ written')]

/-- Bare values are taken apart from what follows them. -/
theorem bare_append_inj {v w : Json} {rest rest' : List Char} (bare : v.isBare)
    (bare' : w.isBare) (closes : Closes rest) (closes' : Closes rest')
    (same : v.chars ++ rest = w.chars ++ rest') : v.settled = w.settled ∧ rest = rest' := by
  obtain ⟨texts, rests⟩ := Text.run_append_inj (fun _ => isBareChar_of_mem_chars bare)
    closes.stops (fun _ => isBareChar_of_mem_chars bare') closes'.stops same
  exact ⟨(bareText_settled bare).unique (bareText_settled bare') texts, rests⟩

/-- A bare value starts with another character than a value with quotes or brackets. -/
theorem bare_ne_enclosed {v w : Json} {rest rest' : List Char} (bare : v.isBare)
    (enclosed : w.isBare = false) : v.chars ++ rest ≠ w.chars ++ rest' := by
  intro same
  obtain ⟨c, cs, equal, -⟩ := chars_head v
  have bareChar : isBareChar c := isBareChar_of_mem_chars bare (equal ▸ List.mem_cons_self)
  rw [equal] at same
  cases w with
  | null | bool _ | integer _ | float _ => simp [isBare] at enclosed
  | text _ =>
    rw [(List.cons.inj same).1] at bareChar
    exact absurd bareChar (by decide)
  | array _ =>
    rw [(List.cons.inj same).1] at bareChar
    exact absurd bareChar (by decide)
  | object _ =>
    rw [(List.cons.inj same).1] at bareChar
    exact absurd bareChar (by decide)

/-- What stands between an item and the end of its array. -/
def itemTail (items : List Json) : List Char :=
  if items.isEmpty then [] else ',' :: itemChars items

theorem itemChars_cons (item : Json) (items : List Json) :
    itemChars (item :: items) = item.chars ++ itemTail items := by
  cases items with
  | nil => simp [itemChars, itemTail]
  | cons next items => simp [itemChars, itemTail]

/-- What stands between a member and the end of its object. -/
def memberTail (members : List (String × Json)) : List Char :=
  if members.isEmpty then [] else ',' :: memberChars members

theorem memberChars_cons (name : String) (value : Json) (members : List (String × Json)) :
    memberChars ((name, value) :: members) =
      quoted name ++ ':' :: (value.chars ++ memberTail members) := by
  cases members with
  | nil => simp [memberChars, memberTail]
  | cons next members => simp [memberChars, memberTail]

theorem closes_itemTail (items : List Json) (rest : List Char) :
    Closes (itemTail items ++ ']' :: rest) := by
  cases items with
  | nil => exact closes_cons (by decide)
  | cons item items => exact closes_cons (by decide)

theorem closes_memberTail (members : List (String × Json)) (rest : List Char) :
    Closes (memberTail members ++ '}' :: rest) := by
  cases members with
  | nil => exact closes_cons (by decide)
  | cons member members => exact closes_cons (by decide)

/-- The end of an array is no item. -/
theorem itemChars_cons_ne_close (item : Json) (items : List Json) (rest rest' : List Char) :
    itemChars (item :: items) ++ rest ≠ ']' :: rest' := by
  obtain ⟨c, cs, equal, noCloser⟩ := chars_head item
  rw [itemChars_cons, equal]
  intro same
  exact noCloser (by simp [(List.cons.inj same).1])

mutual

/-- A text starts with one value at most, up to the floats without numbers. -/
theorem chars_append_inj (v w : Json) {rest rest' : List Char} (closes : Closes rest)
    (closes' : Closes rest') (same : v.chars ++ rest = w.chars ++ rest') :
    v.settled = w.settled ∧ rest = rest' := by
  by_cases bare : v.isBare
  · by_cases bare' : w.isBare
    · exact bare_append_inj bare bare' closes closes' same
    · exact absurd same (bare_ne_enclosed bare (by simpa using bare'))
  · by_cases bare' : w.isBare
    · exact absurd same.symm (bare_ne_enclosed bare' (by simpa using bare))
    · cases v with
      | null | bool _ | integer _ | float _ => simp [isBare] at bare
      | text value =>
        cases w with
        | null | bool _ | integer _ | float _ => simp [isBare] at bare'
        | text value' =>
          obtain ⟨rfl, rests⟩ := quoted_append_inj same
          exact ⟨rfl, rests⟩
        | array _ | object _ => exact absurd (List.cons.inj same).1 (by decide)
      | array items =>
        cases w with
        | null | bool _ | integer _ | float _ => simp [isBare] at bare'
        | array items' =>
          have inner : itemChars items ++ ']' :: rest = itemChars items' ++ ']' :: rest' := by
            simpa [chars] using same
          obtain ⟨equal, rests⟩ := itemChars_append_inj items items' inner
          exact ⟨by rw [settled, settled, equal], rests⟩
        | text _ | object _ => exact absurd (List.cons.inj same).1 (by decide)
      | object members =>
        cases w with
        | null | bool _ | integer _ | float _ => simp [isBare] at bare'
        | object members' =>
          have inner : memberChars members ++ '}' :: rest =
              memberChars members' ++ '}' :: rest' := by
            simpa [chars] using same
          obtain ⟨equal, rests⟩ := memberChars_append_inj members members' inner
          exact ⟨by rw [settled, settled, equal], rests⟩
        | text _ | array _ => exact absurd (List.cons.inj same).1 (by decide)

/-- The items before a closing bracket are told apart. -/
theorem itemChars_append_inj (items items' : List Json) {rest rest' : List Char}
    (same : itemChars items ++ ']' :: rest = itemChars items' ++ ']' :: rest') :
    settledItems items = settledItems items' ∧ rest = rest' := by
  cases items with
  | nil =>
    cases items' with
    | nil => exact ⟨rfl, (List.cons.inj same).2⟩
    | cons item' items' => exact absurd same.symm (itemChars_cons_ne_close item' items' _ _)
  | cons item items =>
    cases items' with
    | nil => exact absurd same (itemChars_cons_ne_close item items _ _)
    | cons item' items' =>
      rw [itemChars_cons, itemChars_cons, List.append_assoc, List.append_assoc] at same
      obtain ⟨front, tails⟩ := chars_append_inj item item' (closes_itemTail items rest)
        (closes_itemTail items' rest') same
      cases items with
      | nil =>
        cases items' with
        | nil => exact ⟨by rw [settledItems_cons, settledItems_cons, front], (List.cons.inj tails).2⟩
        | cons next' items' => exact absurd (List.cons.inj tails).1 (by decide)
      | cons next items =>
        cases items' with
        | nil => exact absurd (List.cons.inj tails).1 (by decide)
        | cons next' items' =>
          obtain ⟨back, rests⟩ := itemChars_append_inj (next :: items) (next' :: items')
            (List.cons.inj tails).2
          exact ⟨by rw [settledItems_cons item, settledItems_cons item', front, back], rests⟩

/-- The members before a closing brace are told apart, names and values. -/
theorem memberChars_append_inj (members members' : List (String × Json))
    {rest rest' : List Char}
    (same : memberChars members ++ '}' :: rest = memberChars members' ++ '}' :: rest') :
    settledMembers members = settledMembers members' ∧ rest = rest' := by
  cases members with
  | nil =>
    cases members' with
    | nil => exact ⟨rfl, (List.cons.inj same).2⟩
    | cons member' members' =>
      rw [memberChars_cons] at same
      exact absurd (List.cons.inj same).1 (by decide)
  | cons member members =>
    cases members' with
    | nil =>
      rw [memberChars_cons] at same
      exact absurd (List.cons.inj same).1 (by decide)
    | cons member' members' =>
      obtain ⟨name, value⟩ := member
      obtain ⟨name', value'⟩ := member'
      rw [memberChars_cons, memberChars_cons, List.append_assoc, List.append_assoc] at same
      obtain ⟨rfl, values⟩ := quoted_append_inj same
      have values : value.chars ++ (memberTail members ++ '}' :: rest) =
          value'.chars ++ (memberTail members' ++ '}' :: rest') := by
        simpa using values
      obtain ⟨front, tails⟩ := chars_append_inj value value' (closes_memberTail members rest)
        (closes_memberTail members' rest') values
      cases members with
      | nil =>
        cases members' with
        | nil => exact ⟨by rw [settledMembers_cons, settledMembers_cons, front], (List.cons.inj tails).2⟩
        | cons next' members' => exact absurd (List.cons.inj tails).1 (by decide)
      | cons next members =>
        cases members' with
        | nil => exact absurd (List.cons.inj tails).1 (by decide)
        | cons next' members' =>
          obtain ⟨back, rests⟩ := memberChars_append_inj (next :: members) (next' :: members')
            (List.cons.inj tails).2
          exact ⟨by rw [settledMembers_cons name value, settledMembers_cons name value', front, back], rests⟩

end

mutual

/-- Settling a value does not change its text. -/
theorem chars_settled (v : Json) : v.settled.chars = v.chars := by
  cases v with
  | null | bool _ | integer _ | text _ => rfl
  | float value =>
    rw [settled]
    split
    · rfl
    · rename_i infinite
      rcases floatChars_cases value with ⟨finite, -⟩ | ⟨-, null⟩
      · exact absurd finite infinite
      · rw [chars, chars, null]
  | array items => rw [settled, chars, chars, itemChars_settledItems items]
  | object members => rw [settled, chars, chars, memberChars_settledMembers members]

theorem itemChars_settledItems (items : List Json) :
    itemChars (settledItems items) = itemChars items := by
  cases items with
  | nil => rfl
  | cons item items =>
    have tail : itemTail (settledItems items) = itemTail items := by
      cases items with
      | nil => rfl
      | cons next items =>
        have rest := itemChars_settledItems (next :: items)
        rw [settledItems_cons] at rest ⊢
        simpa [itemTail] using rest
    rw [settledItems_cons, itemChars_cons, itemChars_cons, chars_settled item, tail]

theorem memberChars_settledMembers (members : List (String × Json)) :
    memberChars (settledMembers members) = memberChars members := by
  cases members with
  | nil => rfl
  | cons member members =>
    obtain ⟨name, value⟩ := member
    have tail : memberTail (settledMembers members) = memberTail members := by
      cases members with
      | nil => rfl
      | cons next members =>
        have rest := memberChars_settledMembers (next :: members)
        obtain ⟨next, nextValue⟩ := next
        rw [settledMembers_cons] at rest ⊢
        simpa [memberTail] using rest
    rw [settledMembers_cons, memberChars_cons, memberChars_cons, chars_settled value, tail]

end

/-- Two values have one text exactly if settling leaves no difference between them. -/
theorem render_eq_iff (v w : Json) : v.render = w.render ↔ v.settled = w.settled := by
  constructor
  · intro same
    have texts : v.chars ++ [] = w.chars ++ [] := by
      rw [String.ofList_injective same]
    exact (chars_append_inj v w closes_nil closes_nil texts).1
  · intro same
    rw [render, render, ← chars_settled v, same, chars_settled w]

end Statbook.Json
