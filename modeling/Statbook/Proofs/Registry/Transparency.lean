import Statbook.Proofs.Cache.Store
import Statbook.Proofs.Registry.CacheKey
import Statbook.Proofs.Registry.Uncached
import Statbook.Proofs.Retry.Policy

/-!
# The cache does not show

Whatever is asked of a registry, in whatever order, is answered as if nothing were cached,
unless calculations are nested too deeply without the cache. Every cached value is the value
that its question is worth for some number of levels, and each step of an evaluation keeps
that so.
-/

namespace Statbook.Registry

open Fallible

variable {σ : Type} {backend : Backend σ} {registry : Registry} {now : Timestamp} {state : σ}
  {filters filters' : Filters} {asked : List Filters}

/-- What is needed for the cache not to show: options that do not depend on the filters, strict
calculations, a backend without memory, filters whose floats are numbers and whose times a clock face
has, and no two questions whose texts differ but have one digest. -/
structure CacheSafe (backend : Backend σ) (registry : Registry) (asked : List Filters) : Prop where
  plain : registry.Plain
  steady : backend.Steady
  numbers : ∀ filters ∈ asked, filters.HaveNumbers
  onFace : ∀ filters ∈ asked, filters.OnFace
  collisionFree : ∀ name ∈ registry.names, ∀ name' ∈ registry.names,
    ∀ filters ∈ asked, ∀ filters' ∈ asked,
      Blake3.hexDigest (fingerprintBytes registry.model.name name filters) =
        Blake3.hexDigest (fingerprintBytes registry.model.name name' filters') →
      fingerprintBytes registry.model.name name filters =
        fingerprintBytes registry.model.name name' filters'

theorem conditions_literal {spec : AggregateSpec} (literal : spec.Literal) :
    conditions spec filters = conditions spec filters' := by
  unfold conditions
  refine List.filterMap_congr fun condition member => ?_
  cases literal.conditions condition member with
  | fixed value => rfl

theorem joins_literal {spec : AggregateSpec} (literal : spec.Literal) :
    joins spec filters = joins spec filters' := by
  unfold joins
  cases found : spec.joins with
  | none => rfl
  | some joins =>
    cases literal.joins joins found with
    | fixed value => rfl

/-- Without computed options a query depends on the filters that constrain something only. -/
theorem buildQuery_literal {spec : AggregateSpec} (literal : spec.Literal)
    (same : filters.effective = filters'.effective) :
    registry.buildQuery backend spec filters now state =
      registry.buildQuery backend spec filters' now state := by
  unfold buildQuery
  rw [filterConstraints_congr same, conditions_literal literal, joins_literal literal]

theorem derivationWorth_strict {worth : String → Except StatError (Option StatValue)}
    {names : List String} {caller : String} {derivation : Derivation}
    (strict : derivation.Strict) :
    derivationWorth worth names caller filters derivation =
      derivationWorth worth names caller filters' derivation := by
  induction strict with
  | done result => rfl
  | sibling fails _ ih =>
    rw [derivationWorth_sibling fails, derivationWorth_sibling fails]
    exact congrArg _ (funext ih)
  | siblings fails _ ih =>
    rw [derivationWorth_siblings fails, derivationWorth_siblings fails]
    exact congrArg _ (funext ih)

/-- Filters that constrain the same make every statistic worth the same. -/
theorem worthAt_congr (plain : registry.Plain) (same : filters.effective = filters'.effective)
    (levels : Nat) (name : String) : registry.worthAt backend now state filters levels name =
      registry.worthAt backend now state filters' levels name := by
  have step (deeper : Option (String → Except StatError (Option StatValue))) (name : String) :
      registry.nameWorth backend now state filters deeper name =
        registry.nameWorth backend now state filters' deeper name := by
    unfold nameWorth
    cases found : registry.definition? name with
    | none => rfl
    | some definition =>
      have kindPlain := plain definition (definition_of_found found).1
      have kinds : registry.kindWorth backend now state filters deeper definition =
          registry.kindWorth backend now state filters' deeper definition := by
        unfold kindWorth
        cases kind : definition.kind with
        | aggregate spec =>
          rw [kind] at kindPlain
          simp only [aggregateWorth, buildQuery_literal kindPlain same]
        | calculated derivation =>
          rw [kind] at kindPlain
          cases deeper with
          | none => rfl
          | some worth => exact derivationWorth_strict kindPlain
      simp only [kinds]
  induction levels generalizing name with
  | zero => exact step none name
  | succ levels ih => rw [worthAt, worthAt, step, funext ih]

/-- The value is what every question with that key is worth for some number of levels. -/
def Right (backend : Backend σ) (registry : Registry) (asked : List Filters) (now : Timestamp)
    (state : σ) (key : String) (value : StatValue) : Prop :=
  ∀ name ∈ registry.names, ∀ filters ∈ asked,
    fingerprint registry.model.name name filters = key →
      ∃ levels, registry.worthAt backend now state filters levels name = .ok (some value)

/-- Questions with one key are worth the same. -/
theorem right_of_reached (safe : CacheSafe backend registry asked) {name : String}
    (named : name ∈ registry.names) (member : filters ∈ asked) {levels : Nat} {value : StatValue}
    (reached : registry.worthAt backend now state filters levels name = .ok (some value)) :
    Right backend registry asked now state (fingerprint registry.model.name name filters) value := by
  intro name' named' filters' member' same
  have bytes := safe.collisionFree name' named' name named filters' member' filters member
    (hexDigest_eq_of_fingerprint_eq same)
  obtain ⟨-, rfl, kernels⟩ := kernel_eq_of_fingerprintBytes_eq bytes
  have effective := Filters.effective_eq_of_kernel_eq (safe.numbers filters' member')
    (safe.numbers filters member) (safe.onFace filters' member') (safe.onFace filters member) kernels
  exact ⟨levels, (worthAt_congr safe.plain effective levels name').trans reached⟩

/-- The clock stands still and every cached value is right. -/
def Sound (backend : Backend σ) (registry : Registry) (asked : List Filters) (now : Timestamp)
    (state : σ) (session : Session σ) : Prop :=
  session.now = now ∧ session.cache.All (Right backend registry asked now state)

theorem sound_look (definition : Definition) : Ensures (Sound backend registry asked now state)
    (registry.cachedValue definition filters) fun found => ∃ cached, found = .ok cached ∧
      ∀ value, cached = some value → Right backend registry asked now state
        (fingerprint registry.model.name definition.name filters) value := by
  intro session sound
  unfold cachedValue
  cases definition.ttl with
  | none => exact ⟨sound, none, rfl, fun value absent => by cases absent⟩
  | some ttl =>
    obtain ⟨kept, right⟩ := sound.2.get session.now
      (fingerprint registry.model.name definition.name filters)
    exact ⟨⟨sound.1, kept⟩, _, rfl, right⟩

theorem sound_store (definition : Definition) {value : StatValue}
    (right : Right backend registry asked now state
      (fingerprint registry.model.name definition.name filters) value) :
    Yields (Sound backend registry asked now state)
      (registry.cacheValue definition filters value) (.ok ()) := by
  intro session sound
  unfold cacheValue
  cases definition.ttl with
  | none => exact ⟨sound, rfl⟩
  | some ttl => exact ⟨⟨sound.1, sound.2.put session.now right _⟩, rfl⟩

theorem sound_invalidate (name : String) (filters : Filters) :
    Yields (Sound backend registry asked now state) (registry.invalidate name filters) (.ok ()) :=
  fun _ sound => ⟨⟨sound.1, sound.2.invalidate _⟩, rfl⟩

/-- A calculation that returns the error of a sibling goes on only with its value. -/
theorem runDerivation_outcome {α : Type} {evaluate : Evaluator σ} {names : List String}
    {caller : String} {next : Except StatError α → Derivation}
    (fails : ∀ error, next (.error error) = .done (.error error)) (run : Fallible (Session σ) α) :
    (Session.outcome run >>= fun result =>
        runDerivation evaluate names caller filters (next result)) =
      run >>= fun value => runDerivation evaluate names caller filters (next (.ok value)) := by
  funext session
  rw [bind_apply, bind_apply, Session.outcome_apply]
  rcases run session with ⟨result, session'⟩
  cases result with
  | ok value => rfl
  | error error =>
    simp only [fails]
    rfl

/-- A strict calculation goes along with what it is worth, if its siblings do. -/
theorem tracks_runDerivation {P : Session σ → Prop} {evaluate : Evaluator σ}
    {worth : Nat → String → Except StatError (Option StatValue)} {levels : Nat}
    (rising : ∀ name, Rising fun levels => worth levels name)
    (each : ∀ name, Ensures P (evaluate name) (Tracks (fun levels => worth levels name) levels))
    (names : List String) (caller : String) {derivation : Derivation}
    (strict : derivation.Strict) :
    Ensures P (runDerivation evaluate names caller filters derivation)
      (Tracks (fun levels => derivationWorth (worth levels) names caller filters derivation)
        levels) := by
  have sibling (name : String) : Ensures P (siblingValue evaluate caller name)
      (Tracks (fun levels => siblingWorth (worth levels) caller name) levels) := by
    unfold siblingValue siblingWorth
    split
    · exact .pureTracks StatValue.null levels
    · exact (each name).bindTracks (rising name) (fun value => .const _) fun value =>
        .pureTracks (value.getD .null) levels
  have siblingRising (name : String) :
      Rising fun levels => siblingWorth (worth levels) caller name :=
    fun l m le => extends_siblingWorth (fun name => rising name l m le) caller name
  have siblings : Ensures P (siblingValues evaluate names caller)
      (Tracks (fun levels => siblingsWorth (worth levels) names caller) levels) := by
    refine Ensures.mapMTracks (fun name => (siblingRising name).bind fun value => .const _)
      (fun name => ?_) _
    exact (sibling name).bindTracks (siblingRising name) (fun value => .const _) fun value =>
      .pureTracks (name, value) levels
  have siblingsRising : Rising fun levels => siblingsWorth (worth levels) names caller :=
    fun l m le => extends_siblingsWorth (fun name => rising name l m le) names caller
  induction strict with
  | done result => exact fun session kept => ⟨kept, .self (fun _ => result) levels⟩
  | @sibling name next fails stricts ih =>
    rw [runDerivation, runDerivation_outcome fails]
    simp only [derivationWorth_sibling fails]
    exact (sibling name).bindTracks (siblingRising name)
      (fun value l m le => extends_derivationWorth (fun name => rising name l m le)
        (stricts value).prompt) ih
  | @siblings next fails stricts ih =>
    rw [runDerivation, runDerivation_outcome fails]
    simp only [derivationWorth_siblings fails]
    exact siblings.bindTracks siblingsRising
      (fun values l m le => extends_derivationWorth (fun name => rising name l m le)
        (stricts values).prompt) ih

/-- What siblings are worth to a statistic with so many levels below it. -/
def deeperWorth (backend : Backend σ) (registry : Registry) (now : Timestamp) (state : σ)
    (filters : Filters) : Nat → Option (String → Except StatError (Option StatValue))
  | 0 => none
  | levels + 1 => some (registry.worthAt backend now state filters levels)

theorem worthAt_eq (levels : Nat) (name : String) :
    registry.worthAt backend now state filters levels name =
      registry.nameWorth backend now state filters
        (registry.deeperWorth backend now state filters levels) name := by
  cases levels <;> rfl

theorem worthAt_of_found {name : String} {definition : Definition}
    (found : registry.definition? name = some definition) (levels : Nat) :
    registry.worthAt backend now state filters levels name =
      (registry.kindWorth backend now state filters
        (registry.deeperWorth backend now state filters levels) definition).bind fun value =>
          .ok (some value) := by
  rw [worthAt_eq, nameWorth]
  simp only [found]

/-- The evaluator of siblings goes along with what they are worth, one level less deep. -/
inductive Below (backend : Backend σ) (registry : Registry) (now : Timestamp) (state : σ)
    (filters : Filters) (P : Session σ → Prop) : Nat → Option (Evaluator σ) → Prop
  | nothing : Below backend registry now state filters P 0 none
  | siblings {levels : Nat} {evaluate : Evaluator σ} :
      (∀ name, Ensures P (evaluate name)
        (Tracks (fun levels => registry.worthAt backend now state filters levels name) levels)) →
      Below backend registry now state filters P (levels + 1) (some evaluate)

/-- What a statistic is worked out to goes along with what it is worth, if what its siblings
are evaluated to does. -/
theorem tracks_workOut (safe : CacheSafe backend registry asked) {P : Session σ → Prop}
    (clock : ∀ session, P session → session.now = now)
    (kept : ∀ session backend, P session → P { session with backend })
    {definition : Definition} (member : definition ∈ registry.definitions) {levels : Nat}
    {deeper : Option (Evaluator σ)}
    (below : Below backend registry now state filters P levels deeper) :
    Ensures P (registry.workOut backend filters deeper definition)
      (Tracks (fun levels => registry.kindWorth backend now state filters
        (registry.deeperWorth backend now state filters levels) definition) levels) := by
  have kindPlain := safe.plain definition member
  unfold workOut kindWorth
  cases kind : definition.kind with
  | aggregate spec =>
    have answers : Yields P (registry.askBackend backend filters spec)
        (registry.aggregateWorth backend now state filters spec) :=
      yields_askBackend safe.steady clock kept spec
    refine answers.weaken fun result same => ?_
    subst same
    exact .self (fun _ => registry.aggregateWorth backend now state filters spec) levels
  | calculated derivation =>
    rw [kind] at kindPlain
    cases below with
    | nothing => exact .throw (.self _ 0)
    | siblings each =>
      refine (tracks_runDerivation (rising_worthAt safe.plain.prompt) each registry.names
        definition.name kindPlain).weaken fun result tracks => Tracks.succ ?_
      exact tracks

/-- A statistic keeps the cache sound and goes along with what it is worth, if its siblings do. -/
theorem tracks_evaluateWith (safe : CacheSafe backend registry asked) (member : filters ∈ asked)
    {levels : Nat} {deeper : Option (Evaluator σ)}
    (below : Below backend registry now state filters (Sound backend registry asked now state)
      levels deeper) (name : String) :
    Ensures (Sound backend registry asked now state)
      (registry.evaluateWith backend filters deeper name)
      (Tracks (fun levels => registry.worthAt backend now state filters levels name) levels) := by
  unfold evaluateWith
  cases found : registry.definition? name with
  | none =>
    have nothing (levels : Nat) :
        registry.worthAt backend now state filters levels name = .ok none := by
      rw [worthAt_eq, nameWorth]
      simp only [found]
    simp only [nothing]
    exact .pureTracks none levels
  | some definition =>
    obtain ⟨defined, rfl⟩ := definition_of_found found
    have listed : definition.name ∈ registry.names := List.mem_map_of_mem defined
    have worked := tracks_workOut safe (fun _ sound => sound.1) (fun _ _ sound => sound)
      defined below
    have answers {result : Except StatError StatValue}
        (tracks : Tracks (fun levels => registry.kindWorth backend now state filters
          (registry.deeperWorth backend now state filters levels) definition) levels result) :
        Tracks (fun levels => registry.worthAt backend now state filters levels definition.name)
          levels (result.bind fun value => .ok (some value)) := by
      simp only [worthAt_of_found found]
      exact tracks.mapped some
    refine Ensures.bind (sound_look definition) (fun cached looked => ?_) fun error failed => ?_
    · obtain ⟨cached', same, right⟩ := looked
      obtain rfl := Except.ok.inj same
      cases cached with
      | some value =>
        -- The value may have been cached where fewer or more levels were left than here.
        obtain ⟨enough, reached⟩ := right value rfl definition.name listed filters member rfl
        exact .pure (.of_reached (rising_worthAt safe.plain.prompt definition.name) reached)
      | none =>
        refine Ensures.bind worked (fun value tracks => ?_) fun error tracks => answers tracks
        obtain ⟨enough, reached⟩ := (answers tracks).2 (some value) rfl
        have stored := sound_store definition (right_of_reached safe listed member reached)
        refine (stored.bind fun _ => .pure (some value)).weaken fun result same => ?_
        subst same
        exact answers tracks
    · obtain ⟨cached, absent, -⟩ := failed
      cases absent

/-- Every evaluation keeps the cache sound and goes along with what the statistic is worth. -/
theorem tracks_evaluateAt (safe : CacheSafe backend registry asked) (member : filters ∈ asked)
    (levels : Nat) (name : String) : Ensures (Sound backend registry asked now state)
      (registry.evaluateAt backend filters levels name)
      (Tracks (fun levels => registry.worthAt backend now state filters levels name) levels) := by
  induction levels generalizing name with
  | zero => exact tracks_evaluateWith safe member .nothing name
  | succ levels ih => exact tracks_evaluateWith safe member (.siblings ih) name

end Statbook.Registry
