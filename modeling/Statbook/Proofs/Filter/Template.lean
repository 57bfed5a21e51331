import Statbook.Filter.Rule
import Statbook.Proofs.Backend.Results
import Statbook.Proofs.Sql.Quoted

/-!
# Values stay in their quotes

A template that is filled has, outside of string literals, the text of its pattern alone; where
the pattern has a placeholder there are literals, and they stand for the plain texts of the value.
The pattern must not open a literal of its own, and no two placeholders may touch: the closing quote
of a literal and the opening one of the next would be read as a quote inside one literal.
-/

namespace Statbook

open Sql

namespace FilterValue

/-- A value fills a template with its plain text, a list with those of its items. -/
inductive Fills : FilterValue → List String → Prop
  | scalar {value : FilterValue} {text : String} :
      value.plainText? = some text → Fills value [text]
  | list {items : List FilterValue} {texts : List String} :
      List.Forall₂ (fun item text => item.plainText? = some text) items texts →
      Fills (.list items) texts

variable {value : FilterValue} {texts texts' : List String}

/-- The texts are those of the value. -/
theorem Fills.unique (fills : value.Fills texts) (fills' : value.Fills texts') : texts = texts' := by
  cases fills with
  | scalar plain =>
    cases fills' with
    | scalar plain' => rw [Option.some.inj (plain.symm.trans plain')]
    | list _ => cases plain
  | list each =>
    cases fills' with
    | scalar plain' => cases plain'
    | list each' =>
      refine List.right_unique_forall₂' ?_ each each'
      intro item text text' plain plain'
      exact Option.some.inj (plain.symm.trans plain')

end FilterValue

namespace FilterRule

/-- String literals with commas between them. -/
def listed : List String → List Segment
  | [] => []
  | [text] => [.literal text.toList]
  | text :: texts => .literal text.toList :: .plain ',' :: .plain ' ' :: listed texts

/-- The same as text: string literals with commas between them. -/
def listedLiterals (texts : List String) : List Char :=
  Text.joinChars ", ".toList (texts.map fun text => (quoteLiteral text).toList)

/-- The segments of one character of a pattern. -/
def filledChar (inserted : List Segment) (c : Char) : List Segment :=
  if c = '?' then inserted else [.plain c]

/-- The segments of a pattern, read once from left to right: `inserted` for a placeholder, the
characters of the table for its mark, and any other character for itself. -/
def filled (table : List Char) (inserted : List Segment) : List Char → List Segment
  | c :: d :: rest =>
    if c = '%' ∧ d = 't' then table.map .plain ++ filled table inserted rest
    else filledChar inserted c ++ filled table inserted (d :: rest)
  | rest => rest.flatMap (filledChar inserted)

variable {key : String} {value : FilterValue} {table rest literals pattern : List Char}
  {inserted : List Segment}

/-- A value that fills a template does so with the literals of its plain texts. -/
theorem literals_eq_ok_iff : FilterRule.literals key value = .ok literals ↔
    ∃ texts, value.Fills texts ∧ literals = listedLiterals texts := by
  constructor
  · intro accepted
    cases value with
    | list items =>
      simp only [FilterRule.literals] at accepted
      cases found : plainTexts? items with
      | none => simp [found] at accepted
      | some texts =>
        rw [found] at accepted
        exact ⟨texts, .list (mapM_eq_some_iff.mp found), (Except.ok.inj accepted).symm⟩
    | range first last => cases accepted
    | _ => exact ⟨_, .scalar rfl, (Except.ok.inj accepted).symm⟩
  · rintro ⟨texts, fills, rfl⟩
    cases fills with
    | list each =>
      rw [FilterRule.literals, plainTexts?, mapM_eq_some_iff.mpr each]
      rfl
    | @scalar value text plain =>
      cases value with
      | list items => cases plain
      | range first last => cases plain
      | _ =>
        obtain rfl := Option.some.inj plain
        rfl

theorem segments?_listed (alone : rest.head? ≠ some '\'') (texts : List String) :
    segments? (listedLiterals texts ++ rest) = (segments? rest).map (listed texts ++ ·) := by
  induction texts with
  | nil => simp [listedLiterals, Text.joinChars, listed]
  | cons text texts ih =>
    cases texts with
    | nil => exact segments?_quoteLiteral alone text
    | cons next texts =>
      have separated : listedLiterals (text :: next :: texts) ++ rest =
          (quoteLiteral text).toList ++ ',' :: ' ' :: (listedLiterals (next :: texts) ++ rest) := by
        simp [listedLiterals, Text.joinChars]
      have comma : ',' ≠ '\'' := by decide
      rw [separated, segments?_quoteLiteral (by simp), segments?_plain comma,
        segments?_plain (by decide), ih]
      cases segments? rest <;> rfl

/-- What a placeholder is replaced by ends before another quote could follow. -/
theorem head?_replaceChar (plain : '\'' ∉ pattern) (apart : pattern.head? ≠ some '?') :
    (Text.replaceChar '?' literals pattern).head? ≠ some '\'' := by
  cases pattern with
  | nil => simp [Text.replaceChar]
  | cons c pattern =>
    have other : c ≠ '?' := by simpa using apart
    have outside : c ≠ '\'' := fun same => plain (same ▸ List.mem_cons_self)
    simp [Text.replaceChar, other, outside]

/-- Placeholders that are apart are read as what is put in their places. -/
theorem segments?_replaceChar
    (fills : ∀ rest : List Char, rest.head? ≠ some '\'' →
      segments? (literals ++ rest) = (segments? rest).map (inserted ++ ·))
    (plain : '\'' ∉ pattern) (apart : ¬['?', '?'] <:+: pattern) :
    segments? (Text.replaceChar '?' literals pattern) =
      some (pattern.flatMap (filledChar inserted)) := by
  induction pattern with
  | nil => simp [Text.replaceChar, segments?]
  | cons c pattern ih =>
    have plain' : '\'' ∉ pattern := fun member => plain (List.mem_cons_of_mem _ member)
    have read := ih plain' fun infixed => apart (List.infix_cons infixed)
    by_cases mark : c = '?'
    · have next : pattern.head? ≠ some '?' := by
        intro touches
        obtain ⟨tail, rfl⟩ := List.head?_eq_some_iff.mp touches
        exact apart (mark ▸ (List.prefix_append ['?', '?'] tail).isInfix)
      have written : Text.replaceChar '?' literals (c :: pattern) =
          literals ++ Text.replaceChar '?' literals pattern := by
        simp [Text.replaceChar, mark]
      rw [written, fills _ (head?_replaceChar plain' next), read]
      simp [filledChar, mark]
    · have outside : c ≠ '\'' := fun same => plain (same ▸ List.mem_cons_self)
      have written : Text.replaceChar '?' literals (c :: pattern) =
          c :: Text.replaceChar '?' literals pattern := by
        simp [Text.replaceChar, mark]
      rw [written, segments?_plain outside, read]
      simp [filledChar, mark]

/-- A table has no placeholders, so it makes no difference that it is put in first. -/
theorem flatMap_replacePair (noMark : '?' ∉ table) (inserted : List Segment)
    (pattern : List Char) :
    (Text.replacePair '%' 't' table pattern).flatMap (filledChar inserted) =
      filled table inserted pattern := by
  have ofTable : table.flatMap (filledChar inserted) = table.map .plain := by
    rw [List.map_eq_flatMap]
    refine List.flatMap_congr fun c member => if_neg ?_
    rintro rfl
    exact noMark member
  fun_induction filled table inserted pattern with
  | case1 c d rest found ih => simp [Text.replacePair, found, ofTable, ih]
  | case2 c d rest other ih => simp [Text.replacePair, other, ih]
  | case3 rest short => rw [Text.replacePair.eq_2 _ _ _ _ short]

theorem not_mem_replacePair (c : Char) (inTable : c ∉ table) (inPattern : c ∉ pattern) :
    c ∉ Text.replacePair '%' 't' table pattern := by
  fun_induction Text.replacePair '%' 't' table pattern with
  | case1 x y rest found ih => simp_all
  | case2 x y rest other ih => simp_all
  | case3 rest => exact inPattern

/-- A string literal is read back as the text that was quoted. So whatever the value of a template
is, the fragment that the template makes of it has, outside of literals, the characters of its
pattern, those of the table in the place of its mark, and the commas of a list; in the places of the
value it has literals, which stand for the plain texts of the value. -/
theorem fillTemplate_keeps_quotes :
    (∀ (text : String) (rest : List Char), rest.head? ≠ some '\'' →
      readLiteral? ((quoteLiteral text).toList ++ rest) = some (text.toList, rest)) ∧
    ∀ (key pattern table : String) (value : FilterValue) (constraint : Constraint),
      fillTemplate key pattern value table = .ok constraint →
      '\'' ∉ pattern.toList → '\'' ∉ table.toList → '?' ∉ table.toList →
      ¬['?', '?'] <:+: Text.replacePair '%' 't' table.toList pattern.toList →
      ∃ fragment texts, constraint = .sql fragment ∧ value.Fills texts ∧
        segments? fragment.toList =
          some (filled table.toList (listed texts) pattern.toList) := by
  refine ⟨fun text rest alone => readLiteral?_quoteLiteral alone text, ?_⟩
  intro key pattern table value constraint accepted plainPattern plainTable noMark apart
  obtain ⟨literals, taken, made⟩ := map_eq_ok_iff.mp accepted
  obtain ⟨texts, fills, rfl⟩ := literals_eq_ok_iff.mp taken
  refine ⟨_, texts, made.symm, fills, ?_⟩
  rw [String.toList_ofList, substitute, ← flatMap_replacePair noMark]
  exact segments?_replaceChar (fun rest alone => segments?_listed alone texts)
    (not_mem_replacePair '\'' plainTable plainPattern) apart

/-- A text with a quote, a placeholder and the mark of the table in it stays one literal, and a list
of texts becomes as many. -/
theorem fillTemplate_keeps_quotes_of_mixed :
    fillTemplate "name" "%t.name = ?" (.text "o'brien ? %t") "items" =
        .ok (.sql "items.name = 'o''brien ? %t'") ∧
      segments? "items.name = 'o''brien ? %t'".toList =
        some ("items.name = ".toList.map .plain ++ [.literal "o'brien ? %t".toList]) ∧
    fillTemplate "name" "name IN (?)" (.list [.text "o'b", .int 3]) "items" =
        .ok (.sql "name IN ('o''b', '3')") ∧
      segments? "name IN ('o''b', '3')".toList =
        some ("name IN (".toList.map .plain ++ [.literal ['o', '\'', 'b'], .plain ',', .plain ' ',
          .literal ['3'], .plain ')']) := by
  have accepted : fillTemplate "name" "%t.name = ?" (.text "o'brien ? %t") "items" =
      .ok (.sql "items.name = 'o''brien ? %t'") := by rfl
  have listed : fillTemplate "name" "name IN (?)" (.list [.text "o'b", .int 3]) "items" =
      .ok (.sql "name IN ('o''b', '3')") := by rfl
  refine ⟨accepted, ?_, listed, ?_⟩
  · obtain ⟨fragment, texts, made, fills, read⟩ := fillTemplate_keeps_quotes.2 "name" "%t.name = ?"
      "items" (.text "o'brien ? %t") _ accepted (by decide) (by decide) (by decide)
      (by decide +kernel)
    obtain rfl := fills.unique (.scalar rfl)
    cases made
    exact read
  · obtain ⟨fragment, texts, made, fills, read⟩ := fillTemplate_keeps_quotes.2 "name" "name IN (?)"
      "items" (.list [.text "o'b", .int 3]) _ listed (by decide) (by decide) (by decide)
      (by decide +kernel)
    obtain rfl := fills.unique (.list (.cons rfl (.cons rfl .nil)))
    cases made
    exact read

end FilterRule

end Statbook
