import Statbook.Proofs.Sqlite.Reading
import Statbook.Proofs.Sqlite.Settled

/-!
# The same tokens in two statements

Two statements may have the same tokens up to some point each. In front of it the same words, marks
and names are taken in both of them, and the same operands are read, up to the places where they
stand. Nothing is taken at that point if the first statement has no token there at which an
expression can start.
-/

namespace Statbook.Sqlite.Reading

/-- A token at which the reading of an expression always fails. -/
def Blocks (t : Token) : Prop :=
  t.lexeme = .unknown ∨ word? t = some "where"

/-- A token that cannot go on with an expression. -/
def Closes (t : Token) : Prop :=
  Blocks t ∨ t.lexeme = .mark .closing

/-- The same token in another statement. The place of a value finds the same one there. -/
structure Like (values values' : List Cell) (t t' : Token) : Prop where
  lexeme : t'.lexeme = t.lexeme
  written : t'.written = t.written
  value : ∀ number, t.lexeme = .parameter number →
    Expr.valueAt values (number.getD 0) = Expr.valueAt values' (number.getD 0)

/-- Expressions that are the same but for their places in statements with these values. -/
def Alike (values values' : List Cell) (a a' : Unresolved) : Prop :=
  a.given values = a'.given values'

/-- The same tokens in two statements, up to what is left of each of them. -/
inductive Alongside (values values' : List Cell) (last last' : List Token) :
    List Token → List Token → Prop
  | ended : Alongside values values' last last' last last'
  | cons {t t' : Token} {ts ts' : List Token} : Like values values' t t' →
    Alongside values values' last last' ts ts' →
    Alongside values values' last last' (t :: ts) (t' :: ts')

variable {values values' : List Cell} {t t' : Token} {ts ts' us last last' rest : List Token}
  {a a' b b' : Unresolved} {k : String}

namespace Like

variable (like : Like values values' t t')

include like

theorem word? : word? t' = word? t := by
  unfold Reading.word?
  rw [like.lexeme]

theorem isWordOf (words : List String) : isWordOf words t' = isWordOf words t := by
  unfold Reading.isWordOf
  rw [like.word?]

theorem name? : name? t' = name? t := by
  unfold Reading.name?
  rw [like.lexeme, like.isWordOf]

theorem cellOfName? : cellOfName? t' = cellOfName? t := by
  unfold Reading.cellOfName?
  rw [like.lexeme]

theorem orderTest? : orderTest? t' = orderTest? t := by
  unfold Reading.orderTest?
  rw [like.lexeme]

theorem equalityTest? : equalityTest? t' = equalityTest? t := by
  unfold Reading.equalityTest?
  rw [like.lexeme]

end Like

namespace Alongside

theorem length_le (along : Alongside values values' last last' ts ts') :
    last.length ≤ ts.length := by
  induction along with
  | ended => exact Nat.le_refl _
  | cons _ _ ih => exact Nat.le_succ_of_le ih

theorem length_eq (along : Alongside values values' last last' ts ts') :
    ts.length + last'.length = ts'.length + last.length := by
  induction along with
  | ended => exact Nat.add_comm _ _
  | cons _ _ ih =>
    simp only [List.length_cons]
    omega

end Alongside

/-- What is left of two statements whose tokens are the same before: in the first nothing that an
expression could take, and in the second nothing that goes on with one. -/
structure Ends (last last' : List Token) : Prop where
  blocked : ∀ t ∈ last.head?, Blocks t
  closed : ∀ t ∈ last'.head?, Closes t

theorem exists_word (word : word? t = some k) : ∃ text, t.lexeme = .word text := by
  unfold word? at word
  split at word
  · exact ⟨_, ‹_›⟩
  · cases word

theorem tier_of_closes (closes : Closes t) : tier t = 6 := by
  obtain (unknown | word) | mark := closes
  · simp [tier, unknown, orderTest?, equalityTest?, isWordOf, word?]
  · obtain ⟨text, lexeme⟩ := exists_word word
    have test : testWords.contains "where" = false := by decide
    simp [tier, lexeme, orderTest?, equalityTest?, isWordOf, word, -List.contains_eq_mem, test]
  · exact tier_closing mark

theorem name?_of_blocks (blocks : Blocks t) : name? t = none := by
  obtain unknown | word := blocks
  · simp [name?, unknown]
  · unfold name?
    split
    · have reserved : isWordOf reservedWords t := by
        unfold isWordOf
        rw [word]
        decide
      rw [if_pos reserved]
    · rename_i lexeme
      simp [word?, lexeme] at word
    · rename_i lexeme
      simp [word?, lexeme] at word
    · rfl

namespace Alike

variable {e : Unresolved}

theorem compare (comparison : Comparison) (ha : Alike values values' a a')
    (hb : Alike values values' b b') :
    Alike values values' (.compare comparison a b) (.compare comparison a' b') := by
  simp only [Alike, Expr.given, Expr.settle] at ha hb ⊢
  rw [ha, hb]

theorem and (ha : Alike values values' a a') (hb : Alike values values' b b') :
    Alike values values' (.and a b) (.and a' b') := by
  simp only [Alike, Expr.given, Expr.settle] at ha hb ⊢
  rw [ha, hb]

theorem or (ha : Alike values values' a a') (hb : Alike values values' b b') :
    Alike values values' (.or a b) (.or a' b') := by
  simp only [Alike, Expr.given, Expr.settle] at ha hb ⊢
  rw [ha, hb]

theorem not (ha : Alike values values' a a') : Alike values values' (.not a) (.not a') :=
  congrArg Expr.not ha

theorem isNull (ha : Alike values values' a a') : Alike values values' (.isNull a) (.isNull a') :=
  congrArg Expr.isNull ha

theorem negatedIf (negated : Bool) (ha : Alike values values' a a') :
    Alike values values' (a.negatedIf negated) (a'.negatedIf negated) := by
  cases negated
  · exact ha
  · exact ha.not

theorem bare (ha : Alike values values' a a') : Alike values values' (.bare a) (.bare a') :=
  congrArg Expr.bare ha

theorem positive (ha : Alike values values' a a') :
    Alike values values' a.positive a'.positive := by
  simp only [Alike, Expr.given, Expr.settle_positive] at ha ⊢
  rw [ha]

theorem negated (ha : Alike values values' a a') :
    Alike values values' a.negated a'.negated := by
  simp only [Alike, Expr.given, Expr.settle_negated] at ha ⊢
  rw [ha]

theorem isBetween {c c' : Unresolved} (ha : Alike values values' a a')
    (hb : Alike values values' b b') (hc : Alike values values' c c') :
    Alike values values' (a.isBetween b c) (a'.isBetween b' c') :=
  (ha.compare _ hb).and (ha.compare _ hc)

theorem isOneOf {items items' : List Unresolved} (ha : Alike values values' a a')
    (alike : List.Forall₂ (Alike values values') items items') :
    Alike values values' (a.isOneOf items) (a'.isOneOf items') := by
  induction alike with
  | nil => rfl
  | cons first _ ih => exact (ha.compare _ first.bare).or ih

end Alike

section Heads

theorem word?_of_closes (closes : Closes t) (other : k ≠ "where") : word? t ≠ some k := by
  obtain (unknown | word) | mark := closes
  · simp [word?, unknown]
  · rw [word]
    exact fun same => other (Option.some.inj same).symm
  · simp [word?, mark]

theorem lexeme_of_blocks (blocks : Blocks t) (m : Mark) : t.lexeme ≠ .mark m := by
  obtain unknown | word := blocks
  · simp [unknown]
  · obtain ⟨text, lexeme⟩ := exists_word word
    simp [lexeme]

theorem afterMark?_of_blocks (blocked : ∀ t ∈ ts.head?, Blocks t) {m : Mark} :
    afterMark? m ts = none := by
  cases ts with
  | nil => rfl
  | cons t ts => exact if_neg (lexeme_of_blocks (blocked t rfl) m)

theorem lexeme_of_closes (closes : Closes t) {m : Mark} (other : m ≠ .closing) :
    t.lexeme ≠ .mark m := by
  obtain blocks | mark := closes
  · exact lexeme_of_blocks blocks m
  · simp [mark, other.symm]

theorem Ends.closes (ends : Ends last last') : ∀ t ∈ last.head?, Closes t :=
  fun t first => .inl (ends.blocked t first)

theorem afterWord?_of_closes (closed : ∀ t ∈ ts.head?, Closes t) (other : k ≠ "where") :
    afterWord? k ts = none := by
  cases ts with
  | nil => rfl
  | cons t ts => exact if_neg (word?_of_closes (closed t rfl) other)

theorem afterMark?_of_closes (closed : ∀ t ∈ ts.head?, Closes t) {m : Mark} (other : m ≠ .closing) :
    afterMark? m ts = none := by
  cases ts with
  | nil => rfl
  | cons t ts => exact if_neg (lexeme_of_closes (closed t rfl) other)

theorem Stops.of_closes (closed : ∀ t ∈ ts.head?, Closes t) {n : Nat} (below : n < 6) :
    Stops n ts := by
  intro t first
  rw [tier_of_closes (closed t first)]
  exact below

/-- A word is taken in both statements or in none. -/
theorem afterWord?_alongside (ends : Ends last last') (other : k ≠ "where")
    (along : Alongside values values' last last' ts ts') :
    afterWord? k ts = none ∧ afterWord? k ts' = none ∨
      ∃ us us', afterWord? k ts = some us ∧ afterWord? k ts' = some us' ∧
        ts.length = us.length + 1 ∧ Alongside values values' last last' us us' := by
  cases along with
  | ended =>
    exact .inl ⟨afterWord?_of_closes ends.closes other, afterWord?_of_closes ends.closed other⟩
  | @cons t t' ts ts' like along =>
    by_cases word : word? t = some k
    · exact .inr ⟨ts, ts', if_pos word, if_pos (like.word?.trans word), rfl, along⟩
    · exact .inl ⟨if_neg word, if_neg (like.word?.symm ▸ word)⟩

/-- So is a mark that closes nothing. -/
theorem afterMark?_alongside (ends : Ends last last') {m : Mark} (other : m ≠ .closing)
    (along : Alongside values values' last last' ts ts') :
    afterMark? m ts = none ∧ afterMark? m ts' = none ∨
      ∃ us us', afterMark? m ts = some us ∧ afterMark? m ts' = some us' ∧
        ts.length = us.length + 1 ∧ Alongside values values' last last' us us' := by
  cases along with
  | ended =>
    exact .inl ⟨afterMark?_of_closes ends.closes other, afterMark?_of_closes ends.closed other⟩
  | @cons t t' ts ts' like along =>
    by_cases isMark : t.lexeme = .mark m
    · exact .inr ⟨ts, ts', if_pos isMark, if_pos (like.lexeme.trans isMark), rfl, along⟩
    · exact .inl ⟨if_neg isMark, if_neg (like.lexeme.symm ▸ isMark)⟩

theorem keyword_alongside (ends : Ends last last') (other : k ≠ "where")
    (along : Alongside values values' last last' ts ts') (taken : keyword k ts = .ok ((), us)) :
    ts.length = us.length + 1 ∧
      ∃ us', keyword k ts' = .ok ((), us') ∧ Alongside values values' last last' us us' := by
  unfold keyword at taken ⊢
  obtain ⟨none, -⟩ | ⟨vs, vs', some, some', length, along'⟩ := afterWord?_alongside ends other along
  · simp [none, fail] at taken
  · simp only [some] at taken
    cases taken
    exact ⟨length, vs', by simp only [some'], along'⟩

theorem mark_alongside (ends : Ends last last') {m : Mark}
    (along : Alongside values values' last last' ts ts') (taken : mark m ts = .ok ((), us)) :
    ts.length = us.length + 1 ∧
      ∃ us', mark m ts' = .ok ((), us') ∧ Alongside values values' last last' us us' := by
  cases along with
  | ended =>
    cases ts with
    | nil => cases taken
    | cons t ts =>
      simp [mark, afterMark?, lexeme_of_blocks (ends.blocked t rfl) m, fail] at taken
  | @cons t t' ts ts' like along =>
    by_cases isMark : t.lexeme = .mark m
    · have taken' : mark m (t :: ts) = .ok ((), ts) := by simp [mark, afterMark?, isMark]
      obtain rfl : ts = us := by simpa [taken'] using taken
      exact ⟨rfl, ts', by simp [mark, afterMark?, like.lexeme, isMark], along⟩
    · simp [mark, afterMark?, isMark, fail] at taken

end Heads

section Atoms

variable {text : String} {column : ColumnName}

theorem name_alongside (ends : Ends last last')
    (along : Alongside values values' last last' ts ts') (taken : name ts = .ok (text, us)) :
    ts.length = us.length + 1 ∧
      ∃ us', name ts' = .ok (text, us') ∧ Alongside values values' last last' us us' := by
  cases along with
  | ended =>
    cases ts with
    | nil => cases taken
    | cons t ts => simp [name, name?_of_blocks (ends.blocked t rfl), fail] at taken
  | @cons t t' ts ts' like along =>
    cases isName : name? t with
    | none => simp [name, isName, fail] at taken
    | some text' =>
      obtain ⟨rfl, rfl⟩ : text' = text ∧ ts = us := by simpa [name, isName] using taken
      exact ⟨rfl, ts', by simp [name, like.name?, isName], along⟩

theorem dottedNames_alongside (ends : Ends last last') {most : Nat} {parts : List String}
    (along : Alongside values values' last last' ts ts')
    (taken : dottedNames most ts = .ok (parts, us)) :
    us.length ≤ ts.length ∧ ∃ us', dottedNames most ts' = .ok (parts, us') ∧
      Alongside values values' last last' us us' := by
  induction most generalizing ts ts' parts with
  | zero =>
    cases taken
    exact ⟨Nat.le_refl _, ts', rfl, along⟩
  | succ most ih =>
    unfold dottedNames at taken ⊢
    obtain ⟨none, none'⟩ | ⟨after, after', some, some', shorter, along'⟩ :=
      afterMark?_alongside ends (m := .dot) (by decide) along
    · simp only [none] at taken
      cases taken
      exact ⟨Nat.le_refl _, ts', by simp only [none'], along⟩
    · simp only [some] at taken
      simp only [some']
      obtain ⟨⟨part, after⟩, isName, taken⟩ := bind_eq_ok_iff.mp taken
      obtain ⟨⟨parts, after⟩, others, same⟩ := bind_eq_ok_iff.mp taken
      cases same
      obtain ⟨length, after', isName', along'⟩ := name_alongside ends along' isName
      obtain ⟨length', after', others', along'⟩ := ih along' others
      refine ⟨by omega, after', ?_, along'⟩
      exact bind_eq_ok_iff.mpr ⟨_, isName', bind_eq_ok_iff.mpr ⟨_, others', rfl⟩⟩

theorem columnName_alongside (ends : Ends last last')
    (along : Alongside values values' last last' ts ts') (taken : columnName ts = .ok (column, us)) :
    us.length < ts.length ∧ ∃ column' us', columnName ts' = .ok (column', us') ∧
      Alike values values' (.column column) (.column column') ∧
      Alongside values values' last last' us us' := by
  cases ts with
  | nil => cases taken
  | cons t ts =>
    obtain ⟨⟨first, rest⟩, isName, taken⟩ := bind_eq_ok_iff.mp taken
    obtain ⟨⟨others, rest⟩, areOthers, same⟩ := bind_eq_ok_iff.mp taken
    cases same
    obtain ⟨length, rest', isName', along'⟩ := name_alongside ends along isName
    obtain ⟨length', rest', areOthers', along'⟩ := dottedNames_alongside ends along' areOthers
    refine ⟨by omega, ?_⟩
    cases along with
    | ended => simp [name, name?_of_blocks (ends.blocked t rfl), fail] at isName
    | @cons t t' ts ts' like _ =>
      refine ⟨_, rest', bind_eq_ok_iff.mpr ⟨_, isName', bind_eq_ok_iff.mpr ⟨_, areOthers', rfl⟩⟩,
        ?_, along'⟩
      simp only [Alike, Expr.given, Expr.settle, like.cellOfName?]

theorem atom_of_blocks (blocks : Blocks t) : atom (t :: ts) ≠ .ok (a, us) := by
  have noName : (columnName (t :: ts)).map (fun named => (Expr.column named.1, named.2)) ≠ .ok (a, us) := by
    simp [columnName, name, name?_of_blocks blocks, fail, bind, Except.bind, Except.map]
  have notNull : word? t ≠ some "null" := by
    obtain unknown | word := blocks
    · simp [word?, unknown]
    · simp [word]
  have lexeme : t.lexeme = .unknown ∨ ∃ text, t.lexeme = .word text := by
    obtain unknown | word := blocks
    · exact .inl unknown
    · exact .inr (exists_word word)
  obtain lexeme | ⟨text, lexeme⟩ := lexeme
  all_goals
    simp only [atom, lexeme, if_neg notNull]
    split
    · simp [fail]
    · exact noName

theorem column_alongside (ends : Ends last last')
    (along : Alongside values values' last last' ts ts')
    (taken : (columnName ts).map (fun named => (Expr.column named.1, named.2)) = .ok (a, us)) :
    us.length < ts.length ∧ ∃ a' us',
      (columnName ts').map (fun named => (Expr.column named.1, named.2)) = .ok (a', us') ∧
        Alike values values' a a' ∧ Alongside values values' last last' us us' := by
  obtain ⟨⟨name, rest⟩, isColumn, same⟩ := map_eq_ok_iff.mp taken
  cases same
  obtain ⟨length, name', us', isColumn', alike, along'⟩ := columnName_alongside ends along isColumn
  exact ⟨length, _, us', map_eq_ok_iff.mpr ⟨_, isColumn', rfl⟩, alike, along'⟩

theorem atom_alongside (ends : Ends last last')
    (along : Alongside values values' last last' ts ts') (taken : atom ts = .ok (a, us)) :
    us.length < ts.length ∧ ∃ a' us', atom ts' = .ok (a', us') ∧ Alike values values' a a' ∧
      Alongside values values' last last' us us' := by
  cases along with
  | ended =>
    cases ts with
    | nil => cases taken
    | cons t ts => exact absurd taken (atom_of_blocks (ends.blocked t rfl))
  | @cons t t' ts ts' like along =>
    have whole := Alongside.cons like along
    cases lexeme : t.lexeme with
    | number n =>
      simp only [atom, lexeme] at taken
      cases taken
      exact ⟨Nat.lt_succ_self _, .number false n t'.bytesOnward, ts',
        by simp only [atom, like.lexeme, lexeme], rfl, along⟩
    | blob bytes =>
      simp only [atom, lexeme] at taken
      cases taken
      exact ⟨Nat.lt_succ_self _, .literal (.blob bytes), ts',
        by simp only [atom, like.lexeme, lexeme], rfl, along⟩
    | parameter number =>
      simp only [atom, lexeme] at taken
      cases taken
      exact ⟨Nat.lt_succ_self _, .parameter (number.getD 0), ts',
        by simp only [atom, like.lexeme, lexeme], congrArg Expr.literal (like.value number lexeme), along⟩
    | text text =>
      simp only [atom, lexeme] at taken
      simp only [atom, like.lexeme, lexeme]
      obtain ⟨none, none'⟩ | ⟨after, after', some, some', -, -⟩ :=
        afterMark?_alongside ends (m := .dot) (by decide) along
      · simp only [none, Option.isNone_none, if_true] at taken
        simp only [none', Option.isNone_none, if_true]
        cases taken
        exact ⟨Nat.lt_succ_self _, .literal (.text text), ts', rfl, rfl, along⟩
      · simp only [some, Option.isNone_some, Bool.false_eq_true, if_false] at taken
        simp only [some', Option.isNone_some, Bool.false_eq_true, if_false]
        exact column_alongside ends whole taken
    | word | name | mark | unknown =>
      simp only [atom, lexeme] at taken
      simp only [atom, like.lexeme, lexeme, like.word?, like.isWordOf]
      split at taken
      · rename_i isNull
        cases taken
        exact ⟨Nat.lt_succ_self _, .literal .null, ts', if_pos isNull, rfl, along⟩
      · rename_i notNull
        rw [if_neg notNull]
        split at taken
        · cases taken
        · rename_i other
          rw [if_neg other]
          exact column_alongside ends whole taken

end Atoms

end Statbook.Sqlite.Reading
