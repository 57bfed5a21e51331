import Mathlib.Data.List.Induction
import Mathlib.Data.List.Nodup
import Statbook.Backend.Scripted
import Statbook.Proofs.Backend.Results
import Statbook.Proofs.Registry.Catalog
import Statbook.Proofs.Retry.Policy

/-!
# Names and definitions in step

What is defined again keeps its place among the names and loses its former definition. A registry
holds both in one list of definitions; a ledger holds the names in a list and the definitions in a
table, and what is entered into it shows the same. The values of all statistics are asked for one
after another, each in the session that the ones before it left, up to the first failure.
-/

namespace Statbook

open Fallible

/-- The names of statistics in order, and a table of their definitions. -/
structure Ledger where
  order : List String
  definitions : String → Option Definition

namespace Ledger

/-- A ledger without statistics. -/
def empty : Ledger :=
  ⟨[], fun _ => none⟩

/-- The ledger with a definition entered; only a name that had none is added to the order. -/
def enter (ledger : Ledger) (definition : Definition) : Ledger where
  order :=
    if (ledger.definitions definition.name).isSome then ledger.order
    else ledger.order ++ [definition.name]
  definitions name :=
    if name = definition.name then some definition else ledger.definitions name

/-- The ledger has the same names in the same order as a registry, and the same definitions. -/
structure Shows (ledger : Ledger) (registry : Registry) : Prop where
  order : ledger.order = registry.names
  definitions : ∀ name, ledger.definitions name = registry.definition? name

end Ledger

namespace Registry

variable {registry : Registry} {name : String} {definition : Definition}
  {declared : List Definition}

/-! ## The names of what is defined -/

theorem map_name_setDefinition (definition : Definition) (definitions : List Definition) :
    (setDefinition definition definitions).map Definition.name =
      if definition.name ∈ definitions.map Definition.name then definitions.map Definition.name
      else definitions.map Definition.name ++ [definition.name] := by
  induction definitions with
  | nil => rfl
  | cons head tail ih =>
    unfold setDefinition
    split
    · next same => simp [same]
    · next different =>
      rw [List.map_cons, ih]
      by_cases member : definition.name ∈ tail.map Definition.name
      · have member' : definition.name ∈ (head :: tail).map Definition.name :=
          List.mem_cons_of_mem _ member
        rw [if_pos member, if_pos member', List.map_cons]
      · have absent : definition.name ∉ (head :: tail).map Definition.name := by
          rw [List.map_cons, List.mem_cons, not_or]
          exact ⟨Ne.symm different, member⟩
        rw [if_neg member, if_neg absent, List.map_cons, List.cons_append]

/-- A name that is defined again keeps its place, and a new one comes last. -/
theorem names_define (registry : Registry) (definition : Definition) :
    (registry.define definition).names =
      if definition.name ∈ registry.names then registry.names
      else registry.names ++ [definition.name] :=
  map_name_setDefinition definition registry.definitions

theorem mem_names_iff (registry : Registry) (name : String) :
    name ∈ registry.names ↔ (registry.definition? name).isSome := by
  simp [names, definition?, List.find?_isSome]

theorem definition?_define (registry : Registry) (definition : Definition) (name : String) :
    (registry.define definition).definition? name =
      if name = definition.name then some definition else registry.definition? name := by
  split
  · next same => rw [same, definition?_define_self]
  · next different => exact definition?_define_of_ne (Ne.symm different)

/-- What is entered into a ledger as it is defined in a registry shows the same. -/
theorem shows_define {ledger : Ledger} (shows : ledger.Shows registry) (definition : Definition) :
    (ledger.enter definition).Shows (registry.define definition) where
  order := by
    simp only [Ledger.enter, names_define, shows.order, shows.definitions, mem_names_iff]
  definitions name := by
    simp only [Ledger.enter, definition?_define, shows.definitions]

theorem shows_foldl_define {ledger : Ledger} (shows : ledger.Shows registry)
    (declared : List Definition) :
    (declared.foldl Ledger.enter ledger).Shows (declared.foldl define registry) := by
  induction declared generalizing ledger registry with
  | nil => exact shows
  | cons definition declared ih => exact ih (shows_define shows definition)

/-- The names of a registry and their definitions are those that were declared one after another. -/
structure InStep (registry : Registry) (declared : List Definition) : Prop where
  nodup : registry.names.Nodup
  mem_names : ∀ name, name ∈ registry.names ↔ name ∈ declared.map Definition.name
  /-- The names stand in the order in which they were first declared. -/
  inOrder : registry.names.Pairwise fun first second =>
    (declared.map Definition.name).idxOf first < (declared.map Definition.name).idxOf second
  hasDefinition : ∀ name, name ∈ registry.names ↔ (registry.definition? name).isSome
  /-- The definition of a name is the one that was declared last. -/
  latest : ∀ name definition, registry.definition? name = some definition ↔
    ∃ early late, declared = early ++ definition :: late ∧ definition.name = name ∧
      ∀ other ∈ late, other.name ≠ name

theorem inStep_of_fresh (fresh : registry.definitions = []) : registry.InStep [] := by
  constructor <;> simp [names, definition?, fresh]

/-- The last of the entries with a property, after one more was added. -/
theorem exists_last_concat_iff {α : Type} (P : α → Prop) {xs : List α} {x y : α} :
    (∃ early late, xs ++ [x] = early ++ y :: late ∧ P y ∧ ∀ z ∈ late, ¬P z) ↔
      P x ∧ y = x ∨ ¬P x ∧ ∃ early late, xs = early ++ y :: late ∧ P y ∧ ∀ z ∈ late, ¬P z := by
  constructor
  · rintro ⟨early, late, split, found, others⟩
    rcases List.eq_nil_or_concat' late with rfl | ⟨late, z, rfl⟩
    · obtain ⟨-, last⟩ := List.append_inj' split rfl
      obtain rfl := List.singleton_inj.mp last
      exact .inl ⟨found, rfl⟩
    · rw [← List.cons_append, ← List.append_assoc] at split
      obtain ⟨before, last⟩ := List.append_inj' split rfl
      obtain rfl := List.singleton_inj.mp last
      exact .inr ⟨others x (by simp), early, late, before, found,
        fun z member => others z (List.mem_append_left _ member)⟩
  · rintro (⟨found, rfl⟩ | ⟨last, early, late, rfl, found, others⟩)
    · exact ⟨xs, [], rfl, found, by simp⟩
    · refine ⟨early, late ++ [x], by simp, found, fun z member => ?_⟩
      rcases List.mem_append.mp member with member | member
      · exact others z member
      · rwa [List.mem_singleton.mp member]

theorem InStep.define (inStep : registry.InStep declared) (definition : Definition) :
    (registry.define definition).InStep (declared ++ [definition]) := by
  have declaredNames : (declared ++ [definition]).map Definition.name =
      declared.map Definition.name ++ [definition.name] := List.map_append
  have kept : registry.names.Pairwise fun first second =>
      (declared.map Definition.name ++ [definition.name]).idxOf first <
        (declared.map Definition.name ++ [definition.name]).idxOf second := by
    refine inStep.inOrder.imp_of_mem fun first second earlier => ?_
    rwa [List.idxOf_append_of_mem ((inStep.mem_names _).mp first),
      List.idxOf_append_of_mem ((inStep.mem_names _).mp second)]
  refine ⟨?_, fun name => ?_, ?_, mem_names_iff _, fun name other => ?_⟩
  · rw [names_define]
    split
    · exact inStep.nodup
    · next new =>
      refine List.nodup_append.mpr ⟨inStep.nodup, List.nodup_singleton _, ?_⟩
      rintro first member last added rfl
      exact new (List.mem_singleton.mp added ▸ member)
  · rw [names_define, declaredNames, List.mem_append, ← inStep.mem_names, List.mem_singleton]
    split
    · next member => exact ⟨.inl, fun either => either.elim id fun same => same ▸ member⟩
    · rw [List.mem_append, List.mem_singleton]
  · rw [names_define, declaredNames]
    split
    · exact kept
    · next new =>
      have undeclared : definition.name ∉ declared.map Definition.name :=
        fun member => new ((inStep.mem_names _).mpr member)
      refine List.pairwise_append.mpr ⟨kept, List.pairwise_singleton _ _, ?_⟩
      intro first member last added
      have found := (inStep.mem_names _).mp member
      rw [List.mem_singleton.mp added, List.idxOf_append_of_mem found,
        List.idxOf_append_of_notMem undeclared]
      exact Nat.lt_add_right _ (List.idxOf_lt_length_of_mem found)
  · refine Iff.trans ?_ (exists_last_concat_iff fun other : Definition => other.name = name).symm
    rw [definition?_define, ← inStep.latest]
    by_cases same : definition.name = name
    · simp [same, eq_comm]
    · simp [same, Ne.symm same]

/-- What is declared one after another in a registry without statistics. -/
theorem inStep_foldl_define (fresh : registry.definitions = []) (declared : List Definition) :
    (declared.foldl define registry).InStep declared := by
  -- From the end: which declaration is the last one of its name is settled by those after it.
  induction declared using List.reverseRecOn with
  | nil => exact inStep_of_fresh fresh
  | append_singleton declared definition ih =>
    rw [List.foldl_append]
    exact ih.define definition

/-! ## The values of all that is declared -/

section InTurn

variable {α σ : Type} {backend : Backend σ} {evaluate : Evaluator σ} {filters : Filters}
  {names : List String} {session after : Session σ}

/-- The session after some statistics were evaluated one after another. -/
def sessionAfter (evaluate : Evaluator σ) (names : List String) (session : Session σ) : Session σ :=
  names.foldl (fun session name => (evaluate name session).2) session

/-- The values of some statistics that are evaluated one after another. -/
def inTurn (evaluate : Evaluator σ) (names : List String) :
    Fallible (Session σ) (List (String × StatValue)) :=
  names.mapM fun name => do
    let value ← evaluate name
    pure (name, value.getD .null)

theorem inTurn_cons_eq_ok_iff {name : String} {pairs : List (String × StatValue)} :
    inTurn evaluate (name :: names) session = (.ok pairs, after) ↔
      ∃ value next others, evaluate name session = (.ok value, next) ∧
        inTurn evaluate names next = (.ok others, after) ∧
        (name, value.getD .null) :: others = pairs := by
  unfold inTurn
  rw [List.mapM_cons, bind_assoc]
  simp only [bind_succeeds_iff, pure_bind]
  constructor
  · rintro ⟨value, next, given, others, last, rest, done⟩
    obtain ⟨same, rfl⟩ := Prod.mk.inj done
    exact ⟨value, next, others, given, rest, Except.ok.inj same⟩
  · rintro ⟨value, next, others, given, rest, rfl⟩
    exact ⟨value, next, given, others, after, rest, rfl⟩

theorem inTurn_cons_eq_error_iff {name : String} {error : StatError} :
    inTurn evaluate (name :: names) session = (.error error, after) ↔
      evaluate name session = (.error error, after) ∨
        ∃ value next, evaluate name session = (.ok value, next) ∧
          inTurn evaluate names next = (.error error, after) := by
  unfold inTurn
  rw [List.mapM_cons, bind_assoc]
  simp only [bind_fails_iff, pure_bind]
  refine or_congr_right (exists_congr fun value => exists_congr fun next => and_congr_right
    fun given => ⟨fun fails => fails.elim id ?_, .inl⟩)
  rintro ⟨others, last, -, fails⟩
  cases (Prod.mk.inj fails).1

/-- Values are given where each statistic has one in the session that those before it left. -/
theorem inTurn_eq_ok_iff {pairs : List (String × StatValue)} :
    inTurn evaluate names session = (.ok pairs, after) ↔
      pairs.map Prod.fst = names ∧ after = sessionAfter evaluate names session ∧
      ∀ before pair rest, pairs = before ++ pair :: rest → ∃ value,
        (evaluate pair.1 (sessionAfter evaluate (before.map Prod.fst) session)).1 = .ok value ∧
          value.getD .null = pair.2 := by
  induction names generalizing session pairs with
  | nil =>
    constructor
    · intro done
      obtain ⟨none, rfl⟩ := Prod.mk.inj done
      obtain rfl := Except.ok.inj none
      exact ⟨rfl, rfl, by simp⟩
    · rintro ⟨none, rfl, -⟩
      obtain rfl := List.map_eq_nil_iff.mp none
      rfl
  | cons name names ih =>
    rw [inTurn_cons_eq_ok_iff]
    constructor
    · rintro ⟨value, next, others, given, rest, rfl⟩
      obtain rfl : (evaluate name session).2 = next := congrArg Prod.snd given
      obtain ⟨rfl, reached, each⟩ := ih.mp rest
      have first : ∃ value', (evaluate name session).1 = .ok value' ∧
          value'.getD .null = value.getD .null := ⟨value, congrArg Prod.fst given, rfl⟩
      exact ⟨rfl, reached, forall_split_cons_iff.mpr ⟨first, each⟩⟩
    · rintro ⟨named, reached, each⟩
      cases pairs with
      | nil => cases named
      | cons pair pairs =>
        obtain ⟨rfl, rfl⟩ := List.cons.inj named
        obtain ⟨⟨value, answered, shown⟩, others⟩ := forall_split_cons_iff.mp each
        refine ⟨value, _, pairs, Prod.ext answered rfl, ih.mpr ⟨rfl, reached, others⟩, ?_⟩
        rw [shown]

/-- The first failure is that of all. -/
theorem inTurn_eq_error_iff {error : StatError} :
    inTurn evaluate names session = (.error error, after) ↔
      ∃ before name rest, names = before ++ name :: rest ∧
        (∀ earlier passed later, before = earlier ++ passed :: later → ∃ value,
          (evaluate passed (sessionAfter evaluate earlier session)).1 = .ok value) ∧
        evaluate name (sessionAfter evaluate before session) = (.error error, after) := by
  induction names generalizing session with
  | nil =>
    constructor
    · intro done
      cases (Prod.mk.inj done).1
    · rintro ⟨before, name, rest, split, -⟩
      cases before <;> cases split
  | cons name names ih =>
    rw [inTurn_cons_eq_error_iff, exists_split_cons_iff]
    simp only [forall_split_cons_iff]
    refine or_congr ⟨fun fails => ⟨by simp, fails⟩, And.right⟩ ?_
    constructor
    · rintro ⟨value, next, given, fails⟩
      obtain rfl : (evaluate name session).2 = next := congrArg Prod.snd given
      obtain ⟨before, failing, rest, rfl, passed, fails⟩ := ih.mp fails
      have first : ∃ value, (evaluate name session).1 = .ok value :=
        ⟨value, congrArg Prod.fst given⟩
      exact ⟨before, failing, rest, rfl, ⟨first, passed⟩, fails⟩
    · rintro ⟨before, failing, rest, rfl, ⟨⟨value, given⟩, passed⟩, fails⟩
      exact ⟨value, _, Prod.ext given rfl, ih.mpr ⟨before, failing, rest, rfl, passed, fails⟩⟩

theorem evaluateWith_ne_ok_none (backend : Backend σ) (member : name ∈ registry.names)
    (filters : Filters) (deeper : Option (Evaluator σ)) (session after : Session σ) :
    registry.evaluateWith backend filters deeper name session ≠ (.ok none, after) := by
  obtain ⟨definition, found⟩ :=
    Option.isSome_iff_exists.mp ((mem_names_iff registry name).mp member)
  intro absent
  unfold Registry.evaluateWith at absent
  rw [found] at absent
  obtain ⟨cached, next, -, given⟩ := bind_succeeds_iff.mp absent
  cases cached with
  | some value => cases (Prod.mk.inj given).1
  | none =>
    obtain ⟨value, next, -, stored⟩ := bind_succeeds_iff.mp given
    obtain ⟨-, next, -, given⟩ := bind_succeeds_iff.mp stored
    cases (Prod.mk.inj given).1

/-- A statistic that is defined has a value unless it fails. -/
theorem fst_get_ne_none (backend : Backend σ) (member : name ∈ registry.names) (filters : Filters)
    (session : Session σ) : (registry.get backend name filters session).1 ≠ .ok none := by
  have each (levels : Nat) : Ensures (fun _ => True)
      (registry.evaluateAt backend filters levels name) fun result => result ≠ .ok none := by
    refine fun session _ => ⟨trivial, fun absent => ?_⟩
    cases levels with
    | zero =>
      exact evaluateWith_ne_ok_none backend member filters none session _ (Prod.ext absent rfl)
    | succ levels =>
      exact evaluateWith_ne_ok_none backend member filters
        (some (registry.evaluateAt backend filters levels)) session _ (Prod.ext absent rfl)
  exact (registry.retry.ensures_run (fun _ => each maxDerivationDepth) session trivial).2

/-- Statistics are declared in a registry that has none, each once or again. Each name is listed
once, where it was declared first, and has the definition that was declared last, as in a ledger
with a list of names and a table of definitions. The values of all of them but one are given where
each has one in the session that those before it left. Otherwise the first failure is. -/
theorem lists_and_gets_in_step (backend : Backend σ) (start : Registry) (declared : List Definition)
    (filters : Filters) (except : Option String) (session : Session σ)
    (fresh : start.definitions = []) :
    let registry := declared.foldl define start
    let get : Evaluator σ := fun name => registry.get backend name filters
    let asked := registry.names.filter fun name => some name ≠ except
    registry.InStep declared ∧ (declared.foldl Ledger.enter .empty).Shows registry ∧
    (∀ pairs after, registry.getAll backend filters except session = (.ok pairs, after) ↔
      pairs.map Prod.fst = asked ∧ after = sessionAfter get asked session ∧
      ∀ before pair rest, pairs = before ++ pair :: rest →
        (get pair.1 (sessionAfter get (before.map Prod.fst) session)).1 = .ok (some pair.2)) ∧
    (∀ error after, registry.getAll backend filters except session = (.error error, after) ↔
      ∃ before name rest, asked = before ++ name :: rest ∧
        (∀ earlier passed later, before = earlier ++ passed :: later →
          ∃ value, (get passed (sessionAfter get earlier session)).1 = .ok value) ∧
        get name (sessionAfter get before session) = (.error error, after)) := by
  intro registry get asked
  have inStep : registry.InStep declared := inStep_foldl_define fresh declared
  have shows : Ledger.Shows .empty start := by
    constructor <;> simp [Ledger.empty, names, definition?, fresh]
  refine ⟨inStep, shows_foldl_define shows declared, fun pairs after => ?_,
    fun error after => inTurn_eq_error_iff⟩
  refine inTurn_eq_ok_iff.trans (and_congr_right fun named => and_congr_right fun _ =>
    forall_congr' fun before => forall_congr' fun pair => forall_congr' fun rest =>
      forall_congr' fun split => ?_)
  have member : pair.1 ∈ registry.names := by
    have inAsked : pair.1 ∈ pairs.map Prod.fst := by
      rw [split]
      simp
    exact (List.mem_filter.mp (named ▸ inAsked)).1
  constructor
  · rintro ⟨value | value, answered, shown⟩
    · exact absurd answered (fst_get_ne_none backend member filters _)
    · rwa [show value = pair.2 from shown] at answered
  · exact fun answered => ⟨some pair.2, answered, rfl⟩

/-- A statistic that is declared again is still asked for first, and what depends on it is
calculated from its new definition. -/
theorem declared_again_keeps_place :
    let total (value : Int64) : Definition :=
      ⟨"total", .calculated (.done (.ok (.int value))), none⟩
    let share : Definition := ⟨"share", .calculated (.sibling "total" .done), none⟩
    let registry := [total 1, share, total 2].foldl define
      (.empty ⟨"members", "members"⟩ [] .standard)
    let session : Session Script := ⟨⟨.last, .midnight⟩, .empty 8, ⟨[], [], .ok .null, [], []⟩⟩
    registry.definition? "total" = some (total 2) ∧
      (registry.getAll Script.backend .empty none session).1 =
        .ok [("total", .int 2), ("share", .int 2)] := by
  intro total share registry session
  obtain ⟨inStep, -, gives, -⟩ := lists_and_gets_in_step Script.backend
    (.empty ⟨"members", "members"⟩ [] .standard) [total 1, share, total 2] .empty none session rfl
  refine ⟨(inStep.latest "total" (total 2)).mpr ⟨[total 1, share], [], rfl, rfl, by simp⟩, ?_⟩
  have answered := (gives [("total", .int 2), ("share", .int 2)] _).mpr ⟨rfl, rfl,
    forall_split_cons_iff.mpr ⟨rfl, forall_split_cons_iff.mpr ⟨rfl, by simp⟩⟩⟩
  exact congrArg Prod.fst answered

end InTurn

end Registry

end Statbook
