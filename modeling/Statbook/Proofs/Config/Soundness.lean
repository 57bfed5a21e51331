import Mathlib.Data.List.Nodup
import Statbook.Config.Basic
import Statbook.Proofs.Backend.Results
import Statbook.Proofs.Text.Runs

/-!
# Sound configurations

A configuration is sound if each of its models has a name and a table, no two models have the same
name, and no two statistics of a model do. Otherwise its flaw is the first one that is met when the
models are gone through in order and each of them is looked at for its name, its table, a model of
its name before it, and its statistics in order.
-/

namespace Statbook

/-- What makes the models of a configuration sound. -/
structure Config.SoundModels (models : List ModelConfig) : Prop where
  named : ∀ model ∈ models, Text.trim model.name ≠ ""
  housed : ∀ model ∈ models, Text.trim model.table ≠ ""
  distinct : (models.map ModelConfig.name).Nodup
  statistics : ∀ model ∈ models, (model.statistics.map StatisticConfig.name).Nodup

/-- The flaw of a model that comes after models with the names `earlier`: what is looked at before
it is in order. -/
inductive ModelConfig.FirstFlaw (earlier : List String) (model : ModelConfig) : ConfigFlaw → Prop
  | unnamed (blank : Text.trim model.name = "") : FirstFlaw earlier model .unnamedModel
  | missingTable (named : Text.trim model.name ≠ "") (blank : Text.trim model.table = "") :
    FirstFlaw earlier model (.missingTable model.name)
  | duplicate (named : Text.trim model.name ≠ "") (housed : Text.trim model.table ≠ "")
    (again : model.name ∈ earlier) : FirstFlaw earlier model (.duplicateModel model.name)
  | duplicateStatistic (named : Text.trim model.name ≠ "") (housed : Text.trim model.table ≠ "")
    (new : model.name ∉ earlier) {before after : List StatisticConfig} {statistic : StatisticConfig}
    (split : model.statistics = before ++ statistic :: after)
    (distinct : (before.map StatisticConfig.name).Nodup)
    (again : statistic.name ∈ before.map StatisticConfig.name) :
    FirstFlaw earlier model (.duplicateStatistic statistic.name model.name)

/-- What is looked at does not depend on the order of the names before a model. -/
theorem ModelConfig.FirstFlaw.of_mem_iff {earlier earlier' : List String} {model : ModelConfig}
    {flaw : ConfigFlaw} (same : ∀ {name}, name ∈ earlier ↔ name ∈ earlier')
    (first : model.FirstFlaw earlier flaw) : model.FirstFlaw earlier' flaw := by
  cases first with
  | unnamed blank => exact .unnamed blank
  | missingTable named blank => exact .missingTable named blank
  | duplicate named housed again => exact .duplicate named housed (same.mp again)
  | duplicateStatistic named housed new split distinct again =>
    exact .duplicateStatistic named housed (fun old => new (same.mpr old)) split distinct again

/-- The flaw of a configuration is that of the first model that has one after sound ones. -/
def Config.FirstFlaw (config : Config) (flaw : ConfigFlaw) : Prop :=
  ∃ before model after, config.models = before ++ model :: after ∧ SoundModels before ∧
    model.FirstFlaw (before.map ModelConfig.name) flaw

namespace Config

variable {seen names : List String} {name : String} {model : ModelConfig}
  {models : List ModelConfig} {flaw : ConfigFlaw}

theorem firstRepeated?_eq_none_iff : firstRepeated? seen names = none ↔
    names.Nodup ∧ ∀ name ∈ names, name ∉ seen := by
  induction names generalizing seen with
  | nil => simp [firstRepeated?]
  | cons head tail ih =>
    unfold firstRepeated?
    by_cases old : head ∈ seen
    · simp [old]
    · rw [if_neg (by simpa using old), ih, List.nodup_cons, List.forall_mem_cons]
      simp only [List.mem_cons, not_or]
      constructor
      · rintro ⟨nodup, new⟩
        exact ⟨⟨fun member => (new head member).1 rfl, nodup⟩, old, fun name member =>
          (new name member).2⟩
      · rintro ⟨⟨first, nodup⟩, -, new⟩
        exact ⟨nodup, fun name member => ⟨fun same => first (same ▸ member), new name member⟩⟩

/-- A name is the first repeated one where it stands after it stood before or among those seen,
and none of the names before it does. -/
theorem firstRepeated?_eq_some_iff : firstRepeated? seen names = some name ↔
    ∃ before name' after, names = before ++ name' :: after ∧
      (firstRepeated? seen before = none ∧ name' ∈ before.reverse ++ seen ∧ name' = name) := by
  induction names generalizing seen with
  | nil => simp [firstRepeated?]
  | cons head tail ih =>
    rw [exists_split_cons_iff]
    unfold firstRepeated?
    by_cases old : head ∈ seen
    · simp [old]
    · rw [if_neg (by simpa using old), ih]
      simp [old]

theorem firstRepeated?_fresh_iff : firstRepeated? [] names = some name ↔
    ∃ before after, names = before ++ name :: after ∧ before.Nodup ∧ name ∈ before := by
  rw [firstRepeated?_eq_some_iff]
  constructor
  · rintro ⟨before, name, after, split, distinct, again, rfl⟩
    refine ⟨before, after, split, (firstRepeated?_eq_none_iff.mp distinct).1, ?_⟩
    simpa using again
  · rintro ⟨before, after, split, distinct, again⟩
    refine ⟨before, name, after, split, firstRepeated?_eq_none_iff.mpr ⟨distinct, ?_⟩, ?_, rfl⟩
    · exact fun name _ => List.not_mem_nil
    · simpa using again

theorem modelFlaw?_eq (seen : List String) (model : ModelConfig) : modelFlaw? seen model =
    if Text.trim model.name = "" then some .unnamedModel
    else if Text.trim model.table = "" then some (.missingTable model.name)
    else if model.name ∈ seen then some (.duplicateModel model.name)
    else (firstRepeated? [] (model.statistics.map StatisticConfig.name)).map fun name =>
      .duplicateStatistic name model.name := by
  simp only [modelFlaw?, Text.trim_eq_empty_iff, List.contains_eq_mem, decide_eq_true_eq]

theorem modelFlaw?_eq_none_iff : modelFlaw? seen model = none ↔
    Text.trim model.name ≠ "" ∧ Text.trim model.table ≠ "" ∧ model.name ∉ seen ∧
      (model.statistics.map StatisticConfig.name).Nodup := by
  rw [modelFlaw?_eq]
  by_cases blank : Text.trim model.name = ""
  · simp [blank]
  · by_cases homeless : Text.trim model.table = ""
    · simp [blank, homeless]
    · by_cases again : model.name ∈ seen
      · simp [blank, homeless, again]
      · rw [if_neg blank, if_neg homeless, if_neg again, Option.map_eq_none_iff,
          firstRepeated?_eq_none_iff]
        simp [blank, homeless, again]

/-- The flaw of a model is the first one in the order in which a model is looked at. -/
theorem modelFlaw?_eq_some_iff : modelFlaw? seen model = some flaw ↔ model.FirstFlaw seen flaw := by
  rw [modelFlaw?_eq]
  constructor
  · intro found
    split at found
    · next blank =>
      cases found
      exact .unnamed blank
    · next named =>
      split at found
      · next blank =>
        cases found
        exact .missingTable named blank
      · next housed =>
        split at found
        · next again =>
          cases found
          exact .duplicate named housed again
        · next new =>
          obtain ⟨name, repeated, rfl⟩ := Option.map_eq_some_iff.mp found
          obtain ⟨before, after, split, distinct, again⟩ := firstRepeated?_fresh_iff.mp repeated
          obtain ⟨earlier, others, all, rfl, onward⟩ := List.map_eq_append_iff.mp split
          obtain ⟨statistic, later, rfl, rfl, -⟩ := List.map_eq_cons_iff.mp onward
          exact .duplicateStatistic named housed new all distinct again
  · intro first
    cases first with
    | unnamed blank => rw [if_pos blank]
    | missingTable named blank => rw [if_neg named, if_pos blank]
    | duplicate named housed again => rw [if_neg named, if_neg housed, if_pos again]
    | @duplicateStatistic named housed new before after statistic split distinct again =>
      have repeated : firstRepeated? [] (model.statistics.map StatisticConfig.name) =
          some statistic.name := by
        rw [split, List.map_append, List.map_cons]
        exact firstRepeated?_fresh_iff.mpr ⟨_, _, rfl, distinct, again⟩
      rw [if_neg named, if_neg housed, if_neg new, repeated]
      rfl

theorem soundModels_cons_iff : SoundModels (model :: models) ↔
    (Text.trim model.name ≠ "" ∧ Text.trim model.table ≠ "" ∧
      model.name ∉ models.map ModelConfig.name ∧
      (model.statistics.map StatisticConfig.name).Nodup) ∧ SoundModels models := by
  constructor
  · rintro ⟨named, housed, distinct, statistics⟩
    rw [List.forall_mem_cons] at named housed statistics
    rw [List.map_cons, List.nodup_cons] at distinct
    exact ⟨⟨named.1, housed.1, distinct.1, statistics.1⟩,
      ⟨named.2, housed.2, distinct.2, statistics.2⟩⟩
  · rintro ⟨⟨named, housed, new, statistics⟩, sound⟩
    exact ⟨List.forall_mem_cons.mpr ⟨named, sound.named⟩,
      List.forall_mem_cons.mpr ⟨housed, sound.housed⟩, List.nodup_cons.mpr ⟨new, sound.distinct⟩,
      List.forall_mem_cons.mpr ⟨statistics, sound.statistics⟩⟩

theorem modelsFlaw?_eq_none_iff : modelsFlaw? seen models = none ↔
    SoundModels models ∧ ∀ model ∈ models, model.name ∉ seen := by
  induction models generalizing seen with
  | nil =>
    refine ⟨fun _ => ⟨⟨?_, ?_, List.nodup_nil, ?_⟩, ?_⟩, fun _ => rfl⟩
    all_goals exact fun model member => absurd member List.not_mem_nil
  | cons head tail ih =>
    rw [modelsFlaw?, Option.or_eq_none_iff, ih, modelFlaw?_eq_none_iff, soundModels_cons_iff,
      List.forall_mem_cons]
    constructor
    · rintro ⟨⟨named, housed, new, statistics⟩, sound, unseen⟩
      refine ⟨⟨⟨named, housed, ?_, statistics⟩, sound⟩, new, fun model member old => ?_⟩
      · intro member
        obtain ⟨model, member, same⟩ := List.mem_map.mp member
        exact unseen model member (same ▸ List.mem_cons_self)
      · exact unseen model member (List.mem_cons_of_mem _ old)
    · rintro ⟨⟨⟨named, housed, alone, statistics⟩, sound⟩, new, unseen⟩
      refine ⟨⟨named, housed, new, statistics⟩, sound, fun model member old => ?_⟩
      rcases List.mem_cons.mp old with same | old
      · exact alone (same ▸ List.mem_map_of_mem member)
      · exact unseen model member old

/-- The first flaw is that of the first model which has one after those before it. -/
theorem modelsFlaw?_eq_some_iff : modelsFlaw? seen models = some flaw ↔
    ∃ before model after, models = before ++ model :: after ∧
      (modelsFlaw? seen before = none ∧
        modelFlaw? ((before.map ModelConfig.name).reverse ++ seen) model = some flaw) := by
  induction models generalizing seen with
  | nil => simp [modelsFlaw?]
  | cons head tail ih =>
    rw [exists_split_cons_iff]
    unfold modelsFlaw?
    cases found : modelFlaw? seen head with
    | some flaw => simp [found]
    | none => simp [found, ih]

theorem flaw?_eq_none_iff (config : Config) :
    config.flaw? = none ↔ SoundModels config.models := by
  rw [flaw?, modelsFlaw?_eq_none_iff]
  exact and_iff_left fun model _ => List.not_mem_nil

theorem flaw?_eq_some_iff (config : Config) (flaw : ConfigFlaw) :
    config.flaw? = some flaw ↔ config.FirstFlaw flaw := by
  rw [flaw?, modelsFlaw?_eq_some_iff]
  refine exists_congr fun before => exists_congr fun model => exists_congr fun after =>
    and_congr_right fun _ => and_congr ?_ ?_
  · rw [modelsFlaw?_eq_none_iff]
    exact and_iff_left fun model _ => List.not_mem_nil
  · rw [modelFlaw?_eq_some_iff, List.append_nil]
    exact ⟨.of_mem_iff List.mem_reverse, .of_mem_iff List.mem_reverse.symm⟩

/-- The table of a model is looked at before its name is compared with those before. -/
example : flaw? { empty with models := [⟨"A", "a", [], [], []⟩, ⟨"A", " ", [], [], []⟩] } =
    some (.missingTable "A") := by
  decide

end Config

end Statbook
