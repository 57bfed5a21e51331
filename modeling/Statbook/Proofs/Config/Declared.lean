import Statbook.Config.Build
import Statbook.Proofs.Backend.Results

/-!
# What is declared

The meaning of a declared rule and of a declared statistic, said without the conversion: which
filter rule, aggregate and definition they stand for. Conversion gives exactly that, and fails only
where a rule lacks what its kind needs.
-/

namespace Statbook

/-- The rule that a kind of rule stands for, with the field and the pattern that are declared. -/
inductive RuleKind.Means (field pattern : Option String) : RuleKind → FilterRule → Prop
  | equality : Means field pattern .equality .equality
  | day : Means field pattern .day .day
  | window {column : String} (given : field = some column) :
    Means field pattern .window (.window column)
  | template {sql : String} (given : pattern = some sql) :
    Means field pattern .template (.template sql)

namespace DeclaredRule

/-- The filter rule that a declared rule stands for. -/
inductive Means : DeclaredRule → FilterRule → Prop
  | brief (pattern : String) : Means (.brief pattern) (.template pattern)
  | onKey {kind : RuleKind} {field pattern : Option String} {rule : FilterRule}
    (base : kind.Means field pattern rule) : Means (.detailed kind field none pattern) rule
  | onColumn {kind : RuleKind} {field pattern : Option String} {rule : FilterRule} (column : String)
    (base : kind.Means field pattern rule) :
    Means (.detailed kind field (some column) pattern) (.onColumn column rule)

/-- A declared rule is for a window without field, or is a template without pattern. -/
inductive Lacking : DeclaredRule → Prop
  | field (column pattern : Option String) : Lacking (.detailed .window none column pattern)
  | pattern (field column : Option String) : Lacking (.detailed .template field column none)

variable {declared : DeclaredRule} {key : String} {kind : RuleKind} {field pattern : Option String}
  {rule : FilterRule}

theorem base_eq_ok_iff : base key field pattern kind = .ok rule ↔ kind.Means field pattern rule := by
  constructor
  · intro given
    cases kind with
    | equality => cases given; exact .equality
    | day => cases given; exact .day
    | window =>
      cases field with
      | none => cases given
      | some column => cases given; exact .window rfl
    | template =>
      cases pattern with
      | none => cases given
      | some sql => cases given; exact .template rfl
  · intro means
    cases means with
    | equality => rfl
    | day => rfl
    | window given => rw [given]; rfl
    | template given => rw [given]; rfl

theorem toRule_eq_ok_iff : declared.toRule key = .ok rule ↔ declared.Means rule := by
  cases declared with
  | brief pattern =>
    constructor
    · intro given
      cases given
      exact .brief pattern
    · intro means
      cases means
      rfl
  | detailed kind field column pattern =>
    rw [toRule, bind_eq_ok_iff]
    simp only [base_eq_ok_iff]
    constructor
    · rintro ⟨base, means, given⟩
      cases column with
      | none => cases given; exact .onKey means
      | some column => cases given; exact .onColumn column means
    · intro means
      cases means with
      | onKey means => exact ⟨rule, means, rfl⟩
      | onColumn column means => exact ⟨_, means, rfl⟩

/-- A declared rule stands for a filter rule unless it lacks what its kind needs. -/
theorem exists_means_iff : (∃ rule, declared.Means rule) ↔ ¬declared.Lacking := by
  constructor
  · rintro ⟨rule, means⟩ lacking
    cases lacking with
    | field column pattern =>
      cases means with
      | onKey base => cases base with | window given => cases given
      | onColumn _ base => cases base with | window given => cases given
    | pattern field column =>
      cases means with
      | onKey base => cases base with | template given => cases given
      | onColumn _ base => cases base with | template given => cases given
  · intro complete
    cases declared with
    | brief pattern => exact ⟨_, .brief pattern⟩
    | detailed kind field column pattern =>
      have base : ∃ rule, kind.Means field pattern rule := by
        cases kind with
        | equality => exact ⟨_, .equality⟩
        | day => exact ⟨_, .day⟩
        | window =>
          cases field with
          | none => exact absurd (.field column pattern) complete
          | some field => exact ⟨_, .window rfl⟩
        | template =>
          cases pattern with
          | none => exact absurd (.pattern field column) complete
          | some pattern => exact ⟨_, .template rfl⟩
      obtain ⟨rule, means⟩ := base
      cases column with
      | none => exact ⟨rule, .onKey means⟩
      | some column => exact ⟨_, .onColumn column means⟩

end DeclaredRule

/-- Filter rules are those that are declared, for the same keys in the same order. -/
def DeclaredRules.Mean (declared : DeclaredRules) (rules : FilterRules) : Prop :=
  List.Forall₂ (fun declared rule => rule.1 = declared.1 ∧ declared.2.Means rule.2) declared rules

namespace DeclaredRules

variable {declared : DeclaredRules} {rules : FilterRules}

theorem toRules_eq_ok_iff : declared.toRules = .ok rules ↔ declared.Mean rules := by
  rw [toRules, mapM_eq_ok_iff, Mean]
  have each (declared : String × DeclaredRule) (rule : String × FilterRule) :
      (declared.2.toRule declared.1 >>= fun rule => pure (declared.1, rule)) =
          (.ok rule : Except ConfigFlaw (String × FilterRule)) ↔
        rule.1 = declared.1 ∧ declared.2.Means rule.2 := by
    rw [bind_eq_ok_iff]
    simp only [DeclaredRule.toRule_eq_ok_iff]
    constructor
    · rintro ⟨meant, means, given⟩
      cases given
      exact ⟨rfl, means⟩
    · rintro ⟨same, means⟩
      exact ⟨rule.2, means, congrArg Except.ok (Prod.ext same.symm rfl)⟩
  constructor
  · exact fun given => given.imp fun declared rule => (each declared rule).mp
  · exact fun mean => mean.imp fun declared rule => (each declared rule).mpr

theorem exists_mean_iff : (∃ rules, declared.Mean rules) ↔ ∀ rule ∈ declared, ¬rule.2.Lacking := by
  unfold Mean
  rw [exists_forall₂_iff]
  refine forall₂_congr fun declared _ => ?_
  rw [← DeclaredRule.exists_means_iff]
  constructor
  · exact fun ⟨rule, _, means⟩ => ⟨rule.2, means⟩
  · exact fun ⟨rule, means⟩ => ⟨(declared.1, rule), rfl, means⟩

end DeclaredRules

namespace StatisticConfig

/-- An aggregate is what a statistic declares. A statistic that names no scope is about the whole
table. -/
structure Specifies (statistic : StatisticConfig) (spec : AggregateSpec) : Prop where
  operation : spec.operation = statistic.operation
  column : spec.column = statistic.column
  scopes : spec.scopes = if statistic.scopes = [] then [wholeTableScope] else statistic.scopes
  rules : statistic.rules.Mean spec.rules
  conditions : spec.conditions = statistic.conditions.map fun sql => .fixed (some (.sql sql))
  joins : spec.joins = if statistic.joins = [] then none else some (.fixed statistic.joins)

/-- A definition is that of the statistic that is declared. -/
structure Declares (statistic : StatisticConfig) (definition : Definition) : Prop where
  name : definition.name = statistic.name
  kind : ∃ spec, definition.kind = .aggregate spec ∧ statistic.Specifies spec
  ttl : definition.ttl = statistic.ttlSeconds.map fun seconds => .fixed (.ofSeconds seconds)

variable {statistic : StatisticConfig} {spec : AggregateSpec} {definition : Definition}

theorem toSpec_eq_ok_iff : statistic.toSpec = .ok spec ↔ statistic.Specifies spec := by
  rw [toSpec, bind_eq_ok_iff]
  simp only [DeclaredRules.toRules_eq_ok_iff, List.isEmpty_iff]
  constructor
  · rintro ⟨rules, mean, given⟩
    cases given
    exact ⟨rfl, rfl, rfl, mean, rfl, rfl⟩
  · intro specifies
    obtain ⟨operation, column, scopes, rules, conditions, joins⟩ := spec
    obtain ⟨rfl, rfl, rfl, mean, rfl, rfl⟩ := specifies
    exact ⟨rules, mean, rfl⟩

theorem toDefinition_eq_ok_iff :
    statistic.toDefinition = .ok definition ↔ statistic.Declares definition := by
  rw [toDefinition, bind_eq_ok_iff]
  simp only [toSpec_eq_ok_iff]
  constructor
  · rintro ⟨spec, specifies, given⟩
    cases given
    exact ⟨rfl, ⟨spec, rfl, specifies⟩, rfl⟩
  · intro declares
    obtain ⟨name, kind, ttl⟩ := definition
    obtain ⟨rfl, ⟨spec, rfl, specifies⟩, rfl⟩ := declares
    exact ⟨spec, specifies, rfl⟩

/-- A statistic that is declared has a definition unless one of its rules lacks something. -/
theorem exists_declares_iff : (∃ definition, statistic.Declares definition) ↔
    ∀ rule ∈ statistic.rules, ¬rule.2.Lacking := by
  rw [← DeclaredRules.exists_mean_iff]
  constructor
  · rintro ⟨definition, declares⟩
    obtain ⟨spec, -, specifies⟩ := declares.kind
    exact ⟨spec.rules, specifies.rules⟩
  · rintro ⟨rules, mean⟩
    exact ⟨⟨_, .aggregate ⟨_, _, _, rules, _, _⟩, _⟩, rfl, ⟨_, rfl, rfl, rfl, rfl, mean, rfl, rfl⟩, rfl⟩

end StatisticConfig

end Statbook
