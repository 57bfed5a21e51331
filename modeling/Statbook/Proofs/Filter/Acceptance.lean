import Statbook.Proofs.Filter.Pattern
import Statbook.Proofs.Filter.Rule
import Statbook.Proofs.Filter.Window

/-!
# Which values a rule takes

A rule that is put on one column after another is that rule on the last of them, and its errors name
the key all the same. A template takes scalars and lists of scalars, a comparison takes ranges too,
and a rule for a day takes what tells a day.
-/

namespace Statbook

namespace FilterValue

/-- Whether a value is neither a range nor a list. -/
def isScalar : FilterValue → Bool
  | range .. | list _ => false
  | _ => true

/-- The value is a range. -/
def IsRange (value : FilterValue) : Prop :=
  ∃ first last, value = range first last

/-- The value is not a list, or has scalars only for items. -/
def ListsScalars (value : FilterValue) : Prop :=
  ∀ items, value = list items → ∀ item ∈ items, item.isScalar = true

/-- The value is a day, or a time of it. -/
inductive FallsOn (d : Date) : FilterValue → Prop
  | date : FallsOn d (.date d)
  | timestamp {t : Timestamp} : t.date = d → FallsOn d (.timestamp t)

/-- The value is a day or a time of it, or the text of one. -/
inductive Tells (d : Date) : FilterValue → Prop
  | itself {value : FilterValue} : FallsOn d value → Tells d value
  | text {text : String} : FallsOn d (infer text) → Tells d (.text text)

variable {value : FilterValue}

theorem isScalar_iff_plainText? : value.isScalar = true ↔ ∃ text, value.plainText? = some text := by
  cases value <;> simp [isScalar, plainText?]

theorem isScalar_iff_sqlValue? : value.isScalar = true ↔ ∃ sql, value.sqlValue? = some sql := by
  cases value <;> simp [isScalar, sqlValue?]

/-- Scalars and lists of scalars fill a template. -/
theorem exists_fills_iff : (∃ texts, value.Fills texts) ↔ ¬value.IsRange ∧ value.ListsScalars := by
  constructor
  · rintro ⟨texts, fills⟩
    cases fills with
    | scalar plain =>
      have scalar := isScalar_iff_plainText?.mpr ⟨_, plain⟩
      constructor
      · rintro ⟨first, last, rfl⟩
        cases scalar
      · rintro items rfl
        cases scalar
    | list each =>
      constructor
      · rintro ⟨first, last, same⟩
        cases same
      · rintro items ⟨⟩ item member
        obtain ⟨text, -, plain⟩ := exists_of_forall₂ each member
        exact isScalar_iff_plainText?.mpr ⟨text, plain⟩
  · rintro ⟨noRange, scalars⟩
    cases value with
    | list items =>
      obtain ⟨texts, each⟩ := exists_forall₂ fun item member =>
        isScalar_iff_plainText?.mp (scalars items rfl item member)
      exact ⟨texts, .list each⟩
    | range first last => exact absurd ⟨first, last, rfl⟩ noRange
    | _ => exact ⟨_, .scalar rfl⟩

end FilterValue

namespace FilterRule

/-- A rule that is put on the columns one after another. -/
def onColumns (columns : List String) (rule : FilterRule) : FilterRule :=
  columns.foldr onColumn rule

/-- The constraint compares the column with the value: the column lies in the range, is one of the
values of the list, which has one for each item in order, or equals the scalar. -/
inductive Compares (column : String) : FilterValue → Constraint → Prop
  | range (first last : Timestamp) :
      Compares column (.range first last) (.between column first last)
  | list {items : List FilterValue} {values : List SqlValue} :
      List.Forall₂ (fun item value => item.sqlValue? = some value) items values →
      Compares column (.list items) (.oneOf column values)
  | scalar {value : FilterValue} {sql : SqlValue} :
      value.sqlValue? = some sql → Compares column value (.equals column sql)

variable {key column table : String} {value : FilterValue} {now : Timestamp}

theorem equate_eq_ok_iff {constraint : Constraint} :
    equate key column value = .ok constraint ↔ Compares column value constraint := by
  constructor
  · intro taken
    unfold equate at taken
    split at taken
    · cases taken
      exact .range _ _
    · next items =>
      split at taken
      · next values found =>
        cases taken
        exact .list (mapM_eq_some_iff.mp found)
      · cases taken
    · split at taken
      · next sql found =>
        cases taken
        exact .scalar found
      · cases taken
  · intro compares
    cases compares with
    | range first last => rfl
    | list related => simp only [equate, mapM_eq_some_iff.mpr related]
    | scalar found => cases value <;> cases found <;> rfl

theorem exists_compares_iff :
    (∃ constraint, Compares column value constraint) ↔ value.ListsScalars := by
  constructor
  · rintro ⟨constraint, compares⟩ items rfl item member
    cases compares with
    | list related =>
      obtain ⟨sql, -, found⟩ := exists_of_forall₂ related member
      exact FilterValue.isScalar_iff_sqlValue?.mpr ⟨sql, found⟩
    | scalar found => cases found
  · intro scalars
    cases value with
    | range first last => exact ⟨_, .range first last⟩
    | list items =>
      obtain ⟨values, related⟩ := exists_forall₂ fun item member =>
        FilterValue.isScalar_iff_sqlValue?.mp (scalars items rfl item member)
      exact ⟨_, .list related⟩
    | _ => exact ⟨_, .scalar rfl⟩

theorem dayOf_eq_ok_iff {d : Date} : dayOf key value = .ok d ↔ value.Tells d := by
  constructor
  · intro told
    unfold dayOf at told
    split at told
    · cases told
      exact .itself .date
    · cases told
      exact .itself (.timestamp rfl)
    · split at told
      · next text date inferred =>
        cases told
        exact .text (inferred ▸ .date)
      · next text timestamp inferred =>
        cases told
        exact .text (inferred ▸ .timestamp rfl)
      · cases told
    · cases told
  · intro tells
    cases tells with
    | itself falls =>
      cases falls with
      | date => rfl
      | timestamp same => exact congrArg Except.ok same
    | @text text falls =>
      rw [dayOf]
      cases inferred : FilterValue.infer text <;> rw [inferred] at falls <;> cases falls
      · rfl
      · next same => exact congrArg Except.ok same

/-- On several columns a rule is compared with the last of them. -/
theorem apply_onColumns (columns : List String) (base : FilterRule) :
    (onColumns columns base).apply key value table now column =
      base.apply key value table now (columns.getLastD column) := by
  induction columns generalizing column with
  | nil => rfl
  | cons target columns ih =>
    rw [List.getLastD_cons]
    exact ih

/-- The constraints that a template makes are those of values with texts to fill it. -/
theorem exists_fillTemplate_iff {pattern : String} :
    (∃ constraint, fillTemplate key pattern value table = .ok constraint) ↔
      ¬value.IsRange ∧ value.ListsScalars := by
  rw [← FilterValue.exists_fills_iff]
  unfold fillTemplate
  simp only [map_eq_ok_iff, literals_eq_ok_iff]
  constructor
  · rintro ⟨_, _, ⟨texts, found, -⟩, -⟩
    exact ⟨texts, found⟩
  · rintro ⟨texts, found⟩
    exact ⟨_, _, ⟨texts, found, rfl⟩, rfl⟩

theorem resolve_eq {rule : FilterRule} (given : value.isNull = false) :
    resolve key value (some rule) table now = (rule.apply key value table now key).map some := by
  simp only [resolve, given, Bool.false_eq_true, if_false]

/-- A null value is left out under every rule. Under a rule that is put on any columns, any other
value has the constraint that the rule itself makes of it on the last of the columns, or on the key
where there are none. A template makes one of what is no range, and no list with a range or a list
in it. A comparison makes one of what is no such list, and it is as `Compares` says. A rule for a
day makes one of what tells a day. Whatever else is refused names the key, and none of the
columns. -/
theorem resolve_onColumns (columns : List String) (key table : String) (value : FilterValue)
    (now : Timestamp) :
    let column := columns.getLastD key
    let resolved (base : FilterRule) :=
      resolve key value (some (onColumns columns base)) table now
    (value.isNull = true → ∀ base, resolved base = .ok none) ∧
    (value.isNull = false →
      (∀ base, resolved base = (base.apply key value table now column).map some) ∧
      (∀ pattern, (∃ constraint, resolved (.template pattern) = .ok (some constraint)) ↔
        ¬value.IsRange ∧ value.ListsScalars) ∧
      (∀ constraint, resolved .equality = .ok (some constraint) ↔
        Compares column value constraint) ∧
      ((∃ constraint, resolved .equality = .ok (some constraint)) ↔ value.ListsScalars) ∧
      (∀ constraint, resolved .day = .ok (some constraint) ↔
        ∃ d, value.Tells d ∧ constraint = .between column (.startOf d) (.endOf d)) ∧
      ∀ base error, resolved base = .error error →
        ∃ reason, error = .invalidFilterValue key reason) := by
  intro column resolved
  refine ⟨fun null base => ?_, fun given => ?_⟩
  · show resolve key value _ table now = .ok none
    rw [resolve, if_pos null]
  have same (base : FilterRule) :
      resolved base = (base.apply key value table now column).map some := by
    rw [← apply_onColumns]
    exact resolve_eq given
  have taken (base : FilterRule) (constraint : Constraint) :
      resolved base = .ok (some constraint) ↔
        base.apply key value table now column = .ok constraint := by
    simp [same, map_eq_ok_iff]
  have compared (constraint : Constraint) : resolved .equality = .ok (some constraint) ↔
      Compares column value constraint := by
    rw [taken, apply, equate_eq_ok_iff]
  refine ⟨same, fun pattern => ?_, compared, ?_, fun constraint => ?_, fun base error failed => ?_⟩
  · simp only [taken, apply, exists_fillTemplate_iff]
  · simp only [compared, exists_compares_iff]
  · rw [taken, apply, map_eq_ok_iff]
    exact exists_congr fun d => and_congr dayOf_eq_ok_iff eq_comm
  · exact apply_eq_error (map_eq_error_iff.mp ((same base).symm.trans failed))

/-- On two columns, a list with a null in it is compared with the inner one, a list in a list is
refused for the key, and a time asks for its day on the inner column. -/
theorem resolve_on_inner_column :
    let rule := onColumns ["seen", "made"]
    resolve "on" (.list [.null, .int 3]) (some (rule .equality)) "items" afternoon =
        .ok (some (.oneOf "made" [.null, .integer 3])) ∧
      (∃ reason, resolve "on" (.list [.int 3, .list []]) (some (rule .equality)) "items" afternoon =
        .error (.invalidFilterValue "on" reason)) ∧
      resolve "on" (.timestamp afternoon) (some (rule .day)) "items" afternoon =
        .ok (some (.between "made" (.startOf afternoon.date) (.endOf afternoon.date))) := by
  intro rule
  have of (value : FilterValue) :=
    resolve_onColumns ["seen", "made"] "on" "items" value afternoon
  obtain ⟨-, -, compared, -⟩ := (of (.list [.null, .int 3])).2 rfl
  obtain ⟨-, -, -, -, -, refused⟩ := (of (.list [.int 3, .list []])).2 rfl
  obtain ⟨-, -, -, -, dated, -⟩ := (of (.timestamp afternoon)).2 rfl
  obtain ⟨reason, same⟩ := refused .equality _ rfl
  exact ⟨(compared _).mpr (.list (.cons rfl (.cons rfl .nil))),
    ⟨reason, congrArg Except.error same⟩, (dated _).mpr ⟨_, .itself (.timestamp rfl), rfl⟩⟩

end FilterRule

end Statbook
