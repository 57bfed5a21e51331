import Statbook.Proofs.Sqlite.Rereading
import Statbook.Proofs.Sqlite.Statement

/-!
# The tables of a statement

The table of a statement and its joins are read again in another statement that starts in the same
way, up to its own end or up to the condition on the rows.
-/

namespace Statbook.Sqlite.Reading

variable {values values' : List Cell} {last last' ts ts' us : List Token} {fuel : Nat}

/-- Joins that are the same but for the places of their conditions. -/
structure AlikeJoin (values values' : List Cell) (join join' : Join ColumnName Nat) : Prop where
  kind : join'.kind = join.kind
  source : join'.source = join.source
  condition : Alike values values' join.condition join'.condition

theorem name?_of_closes {t : Token} (closes : Closes t) : name? t = none := by
  obtain blocks | mark := closes
  · exact name?_of_blocks blocks
  · simp [name?, mark]

/-- The name that a table is given without a word in front of it, if it is given one. -/
def labelled (table : String) : List Token → Source × List Token
  | [] => (⟨table, table⟩, [])
  | t :: ts =>
    match name? t with
    | none => (⟨table, table⟩, t :: ts)
    | some label =>
      if isWordOf joinWords t then (⟨table, table⟩, t :: ts) else (⟨table, label⟩, ts)

theorem source_eq (ts : List Token) : source ts = name ts >>= fun (table, ts) =>
    match afterWord? "as" ts with
    | some ts => name ts >>= fun (label, ts) => pure (⟨table, label⟩, ts)
    | none => pure (labelled table ts) := by
  unfold source
  refine congrArg (name ts >>= ·) (funext fun (table, ts) => ?_)
  dsimp only
  cases afterWord? "as" ts with
  | some ts => rfl
  | none =>
    cases ts with
    | nil => rfl
    | cons t ts =>
      simp only [labelled, name, List.head?_cons, Option.any_some]
      cases name? t with
      | none => cases isWordOf joinWords t <;> rfl
      | some label => cases isWordOf joinWords t <;> rfl

theorem labelled_of_closes (closed : ∀ t ∈ ts.head?, Closes t) (table : String) :
    labelled table ts = (⟨table, table⟩, ts) := by
  cases ts with
  | nil => rfl
  | cons t ts => simp only [labelled, name?_of_closes (closed t rfl)]

theorem labelled_alongside (ends : Ends last last') (table : String)
    (along : Alongside values values' last last' ts ts') :
    (labelled table ts).2.length ≤ ts.length ∧
      (labelled table ts').1 = (labelled table ts).1 ∧
      Alongside values values' last last' (labelled table ts).2 (labelled table ts').2 := by
  cases along with
  | ended =>
    rw [labelled_of_closes ends.closes, labelled_of_closes ends.closed]
    exact ⟨Nat.le_refl _, rfl, .ended⟩
  | @cons t t' ts ts' like along =>
    simp only [labelled, like.name?, like.isWordOf]
    cases name? t with
    | none => exact ⟨Nat.le_refl _, rfl, .cons like along⟩
    | some label =>
      dsimp only
      by_cases join : isWordOf joinWords t
      · rw [if_pos join, if_pos join]
        exact ⟨Nat.le_refl _, rfl, .cons like along⟩
      · rw [if_neg join, if_neg join]
        exact ⟨Nat.le_succ _, rfl, along⟩

theorem source_alongside (ends : Ends last last') {s : Source}
    (along : Alongside values values' last last' ts ts') (taken : source ts = .ok (s, us)) :
    us.length < ts.length ∧ ∃ us', source ts' = .ok (s, us') ∧
      Alongside values values' last last' us us' := by
  rw [source_eq] at taken ⊢
  obtain ⟨⟨table, vs⟩, isTable, taken⟩ := bind_eq_ok_iff.mp taken
  obtain ⟨length, vs', isTable', along⟩ := name_alongside ends along isTable
  dsimp only at taken
  obtain ⟨missing, missing'⟩ | ⟨ws, ws', found, found', length', along⟩ :=
    afterWord?_alongside ends (k := "as") (by decide) along
  · simp only [missing] at taken
    obtain ⟨length', same, along⟩ := labelled_alongside ends table along
    have isLabelled := Except.ok.inj taken
    rw [isLabelled] at length' same along
    dsimp only at length' same along
    refine ⟨by omega, _, bind_eq_ok_iff.mpr ⟨_, isTable', ?_⟩, along⟩
    simp only [missing', ← same]
    rfl
  · simp only [found] at taken
    obtain ⟨⟨label, xs⟩, isLabel, same⟩ := bind_eq_ok_iff.mp taken
    dsimp only at same
    cases same
    obtain ⟨length'', us', isLabel', along⟩ := name_alongside ends along isLabel
    refine ⟨by omega, us', bind_eq_ok_iff.mpr ⟨_, isTable', ?_⟩, along⟩
    simp only [found']
    exact bind_eq_ok_iff.mpr ⟨_, isLabel', rfl⟩

theorem joinKind?_alongside (ends : Ends last last')
    (along : Alongside values values' last last' ts ts') :
    joinKind? ts = none ∧ joinKind? ts' = none ∨
      ∃ kind us us', joinKind? ts = some (kind, us) ∧ joinKind? ts' = some (kind, us') ∧
        us.length < ts.length ∧ Alongside values values' last last' us us' := by
  unfold joinKind?
  obtain ⟨join, join'⟩ | ⟨us, us', join, join', length, along'⟩ :=
    afterWord?_alongside ends (k := "join") (by decide) along
  · have afterKind {kind : JoinKind} {vs vs' : List Token} (shorter : vs.length < ts.length)
        (along : Alongside values values' last last' vs vs') :
        (afterWord? "join" vs).map (fun ts => (kind, ts)) = none ∧
            (afterWord? "join" vs').map (fun ts => (kind, ts)) = none ∨
          ∃ kind' us us', (afterWord? "join" vs).map (fun ts => (kind, ts)) = some (kind', us) ∧
            (afterWord? "join" vs').map (fun ts => (kind, ts)) = some (kind', us') ∧
            us.length < ts.length ∧ Alongside values values' last last' us us' := by
      obtain ⟨join, join'⟩ | ⟨us, us', join, join', length, along⟩ :=
        afterWord?_alongside ends (k := "join") (by decide) along
      · exact .inl ⟨by rw [join]; rfl, by rw [join']; rfl⟩
      · exact .inr ⟨kind, us, us', by rw [join]; rfl, by rw [join']; rfl, by omega, along⟩
    simp only [join, join']
    obtain ⟨inner, inner'⟩ | ⟨us, us', inner, inner', length, along'⟩ :=
      afterWord?_alongside ends (k := "inner") (by decide) along
    · simp only [inner, inner', Option.orElse_none]
      obtain ⟨cross, cross'⟩ | ⟨us, us', cross, cross', length, along'⟩ :=
        afterWord?_alongside ends (k := "cross") (by decide) along
      · simp only [cross, cross']
        obtain ⟨left, left'⟩ | ⟨us, us', left, left', length, along'⟩ :=
          afterWord?_alongside ends (k := "left") (by decide) along
        · exact .inl ⟨by rw [left]; rfl, by rw [left']; rfl⟩
        · simp only [left, left', Option.bind_some]
          obtain ⟨outer, outer'⟩ | ⟨vs, vs', outer, outer', length', along'⟩ :=
            afterWord?_alongside ends (k := "outer") (by decide) along'
          · simp only [outer, outer', Option.getD_none]
            exact afterKind (by omega) along'
          · simp only [outer, outer', Option.getD_some]
            exact afterKind (by omega) along'
      · simp only [cross, cross']
        exact afterKind (by omega) along'
    · simp only [inner, inner', Option.orElse_some]
      exact afterKind (by omega) along'
  · exact .inr ⟨.inner, us, us', by simp only [join], by simp only [join'], by omega, along'⟩

theorem optionalCondition_alongside (ends : Ends last last') {k : String} (other : k ≠ "where")
    {e : Unresolved} (along : Alongside values values' last last' ts ts')
    (taken : optionalCondition k ts = .ok (e, us)) :
    us.length ≤ ts.length ∧ ∃ e' us', optionalCondition k ts' = .ok (e', us') ∧
      Alike values values' e e' ∧ Alongside values values' last last' us us' := by
  unfold optionalCondition at taken ⊢
  obtain ⟨missing, missing'⟩ | ⟨ws, ws', found, found', length', along⟩ :=
    afterWord?_alongside ends other along
  · simp only [missing] at taken
    cases taken
    exact ⟨Nat.le_refl _, always, ts', by simp only [missing'], rfl, along⟩
  · simp only [found] at taken
    obtain ⟨length, e', us', taken', alike, along⟩ := expression_alongside ends along taken
    exact ⟨by omega, e', us', by simp only [found', taken'], alike, along⟩

theorem joins_alongside (ends : Ends last last') {js : List (Join ColumnName Nat)}
    (along : Alongside values values' last last' ts ts') (enough : ts.length ≤ fuel)
    (taken : joins fuel ts = .ok (js, us)) :
    us.length ≤ ts.length ∧ ∃ js' us', List.Forall₂ (AlikeJoin values values') js js' ∧
      Alongside values values' last last' us us' ∧
      ∀ fuel', ts.length ≤ fuel' + us.length → joins fuel' ts' = .ok (js', us') := by
  have nothing {ts ts' : List Token} (along : Alongside values values' last last' ts ts')
      (none : joinKind? ts' = none) : ts.length ≤ ts.length ∧ ∃ js' us',
      List.Forall₂ (AlikeJoin values values') [] js' ∧ Alongside values values' last last' ts us' ∧
      ∀ fuel', ts.length ≤ fuel' + ts.length → joins fuel' ts' = .ok (js', us') := by
    refine ⟨Nat.le_refl _, [], ts', .nil, along, fun fuel' _ => ?_⟩
    cases fuel' with
    | zero => rfl
    | succ fuel' => simp only [joins, none]
  induction fuel generalizing ts ts' js with
  | zero =>
    obtain rfl := List.eq_nil_of_length_eq_zero (Nat.le_zero.mp enough)
    cases taken
    obtain ⟨-, none'⟩ | ⟨_, _, _, isJoin, -⟩ := joinKind?_alongside ends along
    · exact nothing along none'
    · cases isJoin
  | succ fuel ih =>
    unfold joins at taken
    obtain ⟨none, none'⟩ | ⟨kind, vs, vs', isJoin, isJoin', length, along'⟩ :=
      joinKind?_alongside ends along
    · simp only [none] at taken
      cases taken
      exact nothing along none'
    · simp only [isJoin] at taken
      obtain ⟨⟨s, ts₁⟩, isSource, taken⟩ := bind_eq_ok_iff.mp taken
      obtain ⟨⟨condition, ts₂⟩, isCondition, taken⟩ := bind_eq_ok_iff.mp taken
      obtain ⟨⟨others, ts₃⟩, areOthers, same⟩ := bind_eq_ok_iff.mp taken
      dsimp only at isCondition areOthers same
      cases same
      obtain ⟨length₁, ts₁', isSource', along₁⟩ := source_alongside ends along' isSource
      obtain ⟨length₂, condition', ts₂', isCondition', alike, along₂⟩ :=
        optionalCondition_alongside ends (by decide) along₁ isCondition
      obtain ⟨length₃, others', ts₃', alikeOthers, along₃, again⟩ :=
        ih along₂ (by omega) areOthers
      refine ⟨by omega, ⟨kind, s, condition'⟩ :: others', ts₃', .cons ⟨rfl, rfl, alike⟩ alikeOthers,
        along₃, fun fuel' enough => ?_⟩
      cases fuel' with
      | zero => omega
      | succ fuel' =>
        simp only [joins, isJoin']
        refine bind_eq_ok_iff.mpr ⟨_, isSource', bind_eq_ok_iff.mpr ⟨_, isCondition', ?_⟩⟩
        exact bind_eq_ok_iff.mpr ⟨_, again fuel' (by omega), rfl⟩

/-- The table of a statement and its joins. -/
def tables : Reading (Source × List (Join ColumnName Nat)) := fun ts => do
  let (source, ts) ← source ts
  let (joins, ts) ← joins ts.length ts
  pure ((source, joins), ts)

theorem tables_alongside (ends : Ends last last') {s : Source} {js : List (Join ColumnName Nat)}
    (along : Alongside values values' last last' ts ts') (taken : tables ts = .ok ((s, js), us)) :
    ∃ js' us', tables ts' = .ok ((s, js'), us') ∧ List.Forall₂ (AlikeJoin values values') js js' ∧
      Alongside values values' last last' us us' := by
  obtain ⟨⟨s, ts₁⟩, isSource, taken⟩ := bind_eq_ok_iff.mp taken
  obtain ⟨⟨js, ts₂⟩, areJoins, same⟩ := bind_eq_ok_iff.mp taken
  cases same
  obtain ⟨-, ts₁', isSource', along₁⟩ := source_alongside ends along isSource
  obtain ⟨-, js', us', alike, along₂, again⟩ :=
    joins_alongside ends along₁ (Nat.le_refl _) areJoins
  have lengths := along₁.length_eq
  have left := along₂.length_le
  refine ⟨js', us', ?_, alike, along₂⟩
  exact bind_eq_ok_iff.mpr ⟨_, isSource', bind_eq_ok_iff.mpr ⟨_, again _ (by omega), rfl⟩⟩

/-- The tables of a statement are read, and then the condition on the rows. -/
theorem body_eq (ts : List Token) : body ts = (do
    let (_, ts) ← keyword "from" ts
    let ((source, joins), ts) ← tables ts
    let (condition, ts) ← optionalCondition "where" ts
    pure ((source, joins, condition), ts)) := by
  simp only [body, tables, bind_assoc, pure_bind]

end Statbook.Sqlite.Reading
