/-!
# Taking texts apart and putting them together

Splitting at a character, joining with a separator, and replacing every occurrence of a
placeholder. All of them read a text once from left to right.
-/

namespace Statbook.Text

/-- The pieces between the occurrences of `sep`, one more than there are occurrences. -/
def splitChars (sep : Char) : List Char → List (List Char)
  | [] => [[]]
  | c :: rest =>
    if c = sep then [] :: splitChars sep rest
    else match splitChars sep rest with
      | [] => [[c]]
      | piece :: pieces => (c :: piece) :: pieces

/-- The texts between the occurrences of `sep`. -/
def splitAt (sep : Char) (s : String) : List String :=
  (splitChars sep s.toList).map String.ofList

/-- The two sides of the first occurrence of `sep`, if there is one. -/
def splitFirst (sep : Char) : List Char → Option (List Char × List Char)
  | [] => none
  | c :: rest =>
    if c = sep then some ([], rest)
    else (splitFirst sep rest).map fun (before, after) => (c :: before, after)

/-- The pieces one after another with `sep` between any two of them. -/
def joinChars (sep : List Char) : List (List Char) → List Char
  | [] => []
  | [piece] => piece
  | piece :: pieces => piece ++ sep ++ joinChars sep pieces

/-- The texts one after another with `sep` between any two of them. -/
def joinWith (sep : String) (pieces : List String) : String :=
  String.ofList (joinChars sep.toList (pieces.map String.toList))

/-- `s` without `start`, if it starts with that. -/
def afterStart? : (start s : List Char) → Option (List Char)
  | [], s => some s
  | _ :: _, [] => none
  | c :: start, d :: s => if c = d then afterStart? start s else none

/-- Every `c` of the text becomes `new`. -/
def replaceChar (c : Char) (new : List Char) (s : List Char) : List Char :=
  s.flatMap fun d => if d = c then new else [d]

/-- Every `c` directly followed by `d` becomes `new`, read from left to right. -/
def replacePair (c d : Char) (new : List Char) : List Char → List Char
  | x :: y :: rest =>
    if x = c ∧ y = d then new ++ replacePair c d new rest
    else x :: replacePair c d new (y :: rest)
  | rest => rest

end Statbook.Text
