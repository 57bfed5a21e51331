import Statbook.Proofs.Registry.Freshness

/-!
# How deep calculations are nested

Calculations that ask for one another are nested in each other, and sixteen of them may be: the
seventeenth is not begun. A chain of calculations that each give the value of the next one is followed
to its end if it is no longer than that. A chain that closes to a cycle has no end, so its sixteenth
calculation asks in vain; only a calculation that asks for itself is told that it has no value.
-/

namespace Statbook

open Fallible

variable {σ : Type}

/-- Nothing is asked and nothing is cached. -/
def Journal.Silent (events : Journal) : Prop :=
  exchanges events = [] ∧ ∀ action ∈ cacheActions events, action.isPut = false

theorem Journal.Silent.append {first second : Journal} (silent : Silent first)
    (silent' : Silent second) : Silent (first ++ second) := by
  refine ⟨?_, fun action member => ?_⟩
  · rw [exchanges_append, silent.1, silent'.1, List.append_nil]
  · rw [cacheActions_append, List.mem_append] at member
    exact member.elim (silent.2 action) (silent'.2 action)

/-- No calculation is begun or ended. -/
def Journal.Flat (events : Journal) : Prop :=
  ∀ count, deepest count events = count ∧ underway count events = count

/-- A calculation is one level above what happens between its beginning and its end. -/
theorem Journal.deepest_calculated {looks inner : Journal} (flat : looks.Flat) {levels : Nat}
    (nested : ∀ count, deepest count inner = count + levels)
    (balanced : ∀ count, underway count inner = count) (name : String) (count : Nat) :
    deepest count (looks ++ [.began name] ++ inner ++ [.ended name]) = count + (levels + 1) := by
  have begun : underway count (looks ++ [.began name]) = count + 1 := by
    rw [underway_append, (flat count).2]
    rfl
  have before : deepest count (looks ++ [.began name]) = count + 1 := by
    rw [deepest_append, (flat count).1, (flat count).2]
    show max count (max count (count + 1)) = count + 1
    omega
  have inside : underway count (looks ++ [.began name] ++ inner) = count + 1 := by
    rw [underway_append, begun, balanced]
  rw [deepest_append, inside, deepest_append, before, begun, nested]
  show max (max (count + 1) (count + 1 + levels)) (max (count + 1) count) = count + (levels + 1)
  omega

/-- A calculation that gives the value of its sibling `next`, or its error, under the filters. -/
inductive Derivation.Relays (filters : Filters) (next : String) : Derivation → Prop
  | sibling (after : Except StatError StatValue → Derivation)
      (same : ∀ result, after result = .done result) : Relays filters next (.sibling next after)
  | filters (after : Filters → Derivation) (relays : Relays filters next (after filters)) :
      Relays filters next (.filters after)

/-- The session with an empty journal. -/
def Session.recorded (session : Session σ) : Session (σ × Journal) :=
  { session with backend := (session.backend, []) }

/-- Nothing is asked and nothing cached from one session to the other, and a read that could be
answered is answered the same. -/
structure Session.Quiet (before : Session (σ × Journal)) (events : Journal)
    (after : Session (σ × Journal)) : Prop where
  now : after.now = before.now
  inner : after.backend.1 = before.backend.1
  reads : ∀ key, (after.cache.get after.now key).1 = (before.cache.get before.now key).1
  journal : after.backend.2 = before.backend.2 ++ events
  silent : events.Silent

namespace Session.Quiet

variable {before between after : Session (σ × Journal)} {events later : Journal}

theorem refl (session : Session (σ × Journal)) : Quiet session [] session where
  now := rfl
  inner := rfl
  reads _ := rfl
  journal := (List.append_nil _).symm
  silent := ⟨rfl, fun _ member => absurd member List.not_mem_nil⟩

theorem trans (first : Quiet before events between) (second : Quiet between later after) :
    Quiet before (events ++ later) after where
  now := second.now.trans first.now
  inner := second.inner.trans first.inner
  reads key := (second.reads key).trans (first.reads key)
  journal := by rw [second.journal, first.journal, List.append_assoc]
  silent := first.silent.append second.silent

theorem noted (session : Session (σ × Journal)) {event : Event}
    (silent : Journal.Silent [event]) : Quiet session [event] (session.note event) where
  now := rfl
  inner := rfl
  reads _ := rfl
  journal := rfl
  silent := silent

theorem began (session : Session (σ × Journal)) (name : String) :
    Quiet session [.began name] (session.note (.began name)) :=
  noted session ⟨rfl, fun _ member => absurd member List.not_mem_nil⟩

theorem ended (session : Session (σ × Journal)) (name : String) :
    Quiet session [.ended name] (session.note (.ended name)) :=
  noted session ⟨rfl, fun _ member => absurd member List.not_mem_nil⟩

theorem looked (session : Session (σ × Journal)) (key : String) :
    Quiet session [.cache (.get key)] (session.looked key) where
  now := rfl
  inner := rfl
  reads := Cache.fst_get_get session.cache session.now key
  journal := rfl
  silent := by
    refine ⟨rfl, fun action member => ?_⟩
    obtain rfl : action = .get key := List.mem_singleton.mp member
    rfl

end Session.Quiet

namespace Registry

open Session

variable {backend : Backend σ} {registry : Registry} {definition : Definition} {filters : Filters}
  {name next : String} {levels : Nat} {session reached : Session (σ × Journal)} {events : Journal}

/-- A calculated statistic without a cached value that gives the value of its sibling `next`. -/
def Relays (registry : Registry) (filters : Filters) (session : Session σ) (name next : String) :
    Prop :=
  ∃ definition derivation, registry.definition? name = some definition ∧
    definition.kind = .calculated derivation ∧ derivation.Relays filters next ∧
    (definition.isCacheable → (session.cache.get session.now
      (fingerprint registry.model.name name filters)).1 = none)

theorem Relays.of_quiet (relays : registry.Relays filters session name next)
    (quiet : Quiet session events reached) : registry.Relays filters reached name next := by
  obtain ⟨definition, derivation, found, kind, relays, uncached⟩ := relays
  refine ⟨definition, derivation, found, kind, relays, fun cacheable => ?_⟩
  rw [quiet.reads]
  exact uncached cacheable

theorem runDerivation_of_relays {evaluate : Evaluator σ} {names : List String} {caller : String}
    {derivation : Derivation} (relays : derivation.Relays filters next) :
    runDerivation evaluate names caller filters derivation = siblingValue evaluate caller next := by
  induction relays with
  | sibling after same =>
    funext session
    rw [runDerivation, bind_apply]
    show runDerivation evaluate names caller filters
      (after (siblingValue evaluate caller next session).1)
      (siblingValue evaluate caller next session).2 = _
    rw [same]
    rfl
  | filters after relays ih => exact ih

theorem exists_notedLook (definition : Definition)
    (uncached : definition.isCacheable → (session.cache.get session.now
      (fingerprint registry.model.name definition.name filters)).1 = none) :
    ∃ looks reached, registry.notedLook definition filters session = (.ok none, reached) ∧
      Quiet session looks reached ∧ looks.Flat := by
  cases timed : definition.ttl with
  | none =>
    refine ⟨[], session, ?_, .refl session, fun count => ⟨rfl, rfl⟩⟩
    unfold notedLook cachedValue
    simp only [timed]
  | some ttl =>
    have missed := uncached (by rw [Definition.isCacheable, timed]; rfl)
    refine ⟨_, _, ?_, .looked session (fingerprint registry.model.name definition.name filters),
      fun count => ⟨Nat.max_self count, rfl⟩⟩
    simp only [notedLook_of_timed timed, missed]

theorem notedWork_of_relays {evaluate : Evaluator (σ × Journal)} {derivation : Derivation}
    (kind : definition.kind = .calculated derivation) (relays : derivation.Relays filters next)
    (other : next ≠ definition.name) :
    registry.notedWork backend filters (some evaluate) definition session =
      ((evaluate next (session.note (.began definition.name))).1.map fun value => value.getD .null,
        (evaluate next (session.note (.began definition.name))).2.note (.ended definition.name)) := by
  unfold notedWork workOut
  simp only [kind]
  rw [runDerivation_of_relays relays]
  unfold siblingValue calculating
  rw [if_neg other, bind_pure_apply]

theorem notedWork_of_self {evaluate : Evaluator (σ × Journal)} {derivation : Derivation}
    (kind : definition.kind = .calculated derivation)
    (relays : derivation.Relays filters definition.name) :
    (registry.notedWork backend filters (some evaluate) definition session).1 = .ok .null := by
  unfold notedWork workOut
  simp only [kind]
  rw [runDerivation_of_relays relays]
  unfold siblingValue calculating
  rw [if_pos rfl]
  rfl

/-- A statistic that gives the value of another one is evaluated as that one is, one level below. -/
theorem exists_below (relays : registry.Relays filters session name next) (other : next ≠ name)
    (levels : Nat) :
    ∃ looks inner, Quiet session (looks ++ [.began name]) inner ∧ Journal.Flat looks ∧
      (registry.notedAt backend filters (levels + 1) name session).1 =
        (registry.notedAt backend filters levels next inner).1.map
          (fun value => some (value.getD .null)) ∧
      ∀ error, (registry.notedAt backend filters levels next inner).1 = .error error →
        (registry.notedAt backend filters (levels + 1) name session).2 =
          (registry.notedAt backend filters levels next inner).2.note (.ended name) := by
  obtain ⟨definition, derivation, found, kind, relays, uncached⟩ := relays
  obtain rfl := (definition_of_found found).2
  obtain ⟨looks, reached, look, quiet, flat⟩ := exists_notedLook definition uncached
  refine ⟨looks, reached.note (.began definition.name),
    quiet.trans (.began reached definition.name), flat, ?_⟩
  rw [notedAt, notedWith_of_uncached found look, notedWork_of_relays kind relays other]
  cases (registry.notedAt backend filters levels next (reached.note (.began definition.name))).1 with
  | error error => exact ⟨rfl, fun _ _ => rfl⟩
  | ok value => exact ⟨rfl, fun _ failed => by cases failed⟩

/-- Without levels to spare no calculation is begun. -/
theorem notedAt_zero_of_relays (relays : registry.Relays filters session name next) :
    (registry.notedAt backend filters 0 name session).1 = .error (.derivationDepth name) ∧
      ∃ events, Quiet session events (registry.notedAt backend filters 0 name session).2 ∧
        events.Flat := by
  obtain ⟨definition, derivation, found, kind, relays, uncached⟩ := relays
  obtain rfl := (definition_of_found found).2
  obtain ⟨looks, reached, look, quiet⟩ := exists_notedLook definition uncached
  have worked : registry.notedWork backend filters none definition reached =
      (.error (.derivationDepth definition.name), reached) := by
    unfold notedWork workOut
    simp only [kind]
    rfl
  rw [notedAt, notedWith_of_uncached found look, worked]
  exact ⟨rfl, looks, quiet⟩

theorem fst_notedAt_of_self (relays : registry.Relays filters session name name) (levels : Nat) :
    (registry.notedAt backend filters (levels + 1) name session).1 = .ok (some .null) := by
  obtain ⟨definition, derivation, found, kind, relays, uncached⟩ := relays
  obtain rfl := (definition_of_found found).2
  obtain ⟨events, reached, look, -⟩ := exists_notedLook definition uncached
  have worked := @notedWork_of_self _ backend registry _ filters reached
    (registry.notedAt backend filters levels) _ kind relays
  rw [notedAt, notedWith_of_uncached found look]
  rcases h : registry.notedWork backend filters (some (registry.notedAt backend filters levels))
    definition reached with ⟨result, after⟩
  rw [h] at worked
  obtain rfl : result = .ok .null := worked
  rfl

theorem fst_notedWith_of_uncached {deeper : Option (Evaluator (σ × Journal))}
    (found : registry.definition? definition.name = some definition)
    (looked : registry.notedLook definition filters session = (.ok none, reached)) :
    (registry.notedWith backend filters deeper definition.name session).1 =
      (registry.notedWork backend filters deeper definition reached).1.map some := by
  rw [notedWith_of_uncached found looked]
  rcases registry.notedWork backend filters deeper definition reached with ⟨result, worked⟩
  cases result <;> rfl

theorem fst_askBackend_of_quiet {spec : AggregateSpec} (quiet : Quiet session events reached) :
    (registry.askBackend backend.noted filters spec reached).1 =
      (registry.askBackend backend.noted filters spec session).1 := by
  rw [askBackend_noted, askBackend_noted, quiet.now, quiet.inner]
  cases registry.buildQuery backend spec filters session.now session.backend.1 <;> rfl

/-- What is not calculated has the same result with any number of levels, and after nothing was
asked or cached. -/
theorem fst_notedWith_of_quiet (deeper deeper' : Option (Evaluator (σ × Journal)))
    (uncalculated : ∀ definition, registry.definition? name = some definition →
      ∃ spec, definition.kind = .aggregate spec)
    (quiet : Quiet session events reached) :
    (registry.notedWith backend filters deeper name reached).1 =
      (registry.notedWith backend filters deeper' name session).1 := by
  cases found : registry.definition? name with
  | none =>
    unfold notedWith
    simp only [found]
    rfl
  | some definition =>
    obtain ⟨spec, kind⟩ := uncalculated definition found
    obtain rfl := (definition_of_found found).2
    by_cases uncached : definition.isCacheable → (session.cache.get session.now
        (fingerprint registry.model.name definition.name filters)).1 = none
    · obtain ⟨_, here, look, quiet', -⟩ := exists_notedLook definition uncached
      obtain ⟨_, there, look', quiet'', -⟩ := @exists_notedLook _ registry filters reached definition
        (by rw [quiet.reads]; exact uncached)
      rw [fst_notedWith_of_uncached found look, fst_notedWith_of_uncached found look',
        notedWork_of_aggregate _ kind, notedWork_of_aggregate _ kind, fst_askBackend_of_quiet quiet'',
        fst_askBackend_of_quiet quiet, fst_askBackend_of_quiet quiet']
    · rw [Classical.not_imp, ← ne_eq, Option.ne_none_iff_exists'] at uncached
      obtain ⟨cacheable, value, cached⟩ := uncached
      obtain ⟨ttl, timed⟩ := Option.isSome_iff_exists.mp cacheable
      have cached' := (quiet.reads _).trans cached
      rw [notedWith_of_cached found timed cached, notedWith_of_cached found timed cached']

theorem fst_notedAt_of_quiet (levels levels' : Nat)
    (uncalculated : ∀ definition, registry.definition? name = some definition →
      ∃ spec, definition.kind = .aggregate spec)
    (quiet : Quiet session events reached) :
    (registry.notedAt backend filters levels name reached).1 =
      (registry.notedAt backend filters levels' name session).1 := by
  cases levels <;> cases levels' <;> exact fst_notedWith_of_quiet _ _ uncalculated quiet

section Walk

variable {walk : Nat → String} {steps : Nat}

/-- Along calculations that each give the value of the next one, the last one's result is given. -/
theorem fst_notedAt_of_walk {result : Except StatError (Option StatValue)} (rest : Nat)
    (others : ∀ i < steps, walk (i + 1) ≠ walk i)
    (relays : ∀ i < steps, registry.Relays filters session (walk i) (walk (i + 1)))
    (last : ∀ events reached, Quiet session events reached →
      (registry.notedAt backend filters rest (walk steps) reached).1 = result) :
    (registry.notedAt backend filters (rest + steps) (walk 0) session).1 =
      result.map fun value => if steps = 0 then value else some (value.getD .null) := by
  induction steps generalizing walk session with
  | zero =>
    rw [Nat.add_zero, last [] session (.refl session)]
    cases result <;> rfl
  | succ steps ih =>
    obtain ⟨_, inner, quiet, -, same, -⟩ := @exists_below _ backend _ _ _ _ _
      (relays 0 (Nat.zero_lt_succ steps)) (others 0 (Nat.zero_lt_succ steps)) (rest + steps)
    have below := @ih inner (fun i => walk (i + 1))
      (fun i less => others (i + 1) (Nat.succ_lt_succ less))
      (fun i less => (relays (i + 1) (Nat.succ_lt_succ less)).of_quiet quiet)
      (fun later reached quiet' => last _ reached (quiet.trans quiet'))
    rw [← Nat.add_assoc, same, below]
    cases result with
    | error error => rfl
    | ok value => cases steps <;> rfl

/-- Where the last one fails and has begun, asked and cached nothing, all but that one are begun, and
nothing is asked or cached. -/
theorem quiet_notedAt_of_walk {error : StatError} (rest : Nat)
    (others : ∀ i < steps, walk (i + 1) ≠ walk i)
    (relays : ∀ i < steps, registry.Relays filters session (walk i) (walk (i + 1)))
    (last : ∀ events reached, Quiet session events reached →
      (registry.notedAt backend filters rest (walk steps) reached).1 = .error error ∧
        ∃ later, Quiet reached later
          (registry.notedAt backend filters rest (walk steps) reached).2 ∧ later.Flat) :
    (registry.notedAt backend filters (rest + steps) (walk 0) session).1 = .error error ∧
      ∃ events, Quiet session events
          (registry.notedAt backend filters (rest + steps) (walk 0) session).2 ∧
        ∀ count, Journal.deepest count events = count + steps := by
  induction steps generalizing walk session with
  | zero =>
    obtain ⟨failed, later, quiet, flat⟩ := last [] session (.refl session)
    exact ⟨failed, later, quiet, fun count => (flat count).1⟩
  | succ steps ih =>
    obtain ⟨looks, inner, quiet, flat, same, after⟩ := @exists_below _ backend _ _ _ _ _
      (relays 0 (Nat.zero_lt_succ steps)) (others 0 (Nat.zero_lt_succ steps)) (rest + steps)
    obtain ⟨failed, later, quiet', nested⟩ := @ih inner (fun i => walk (i + 1))
      (fun i less => others (i + 1) (Nat.succ_lt_succ less))
      (fun i less => (relays (i + 1) (Nat.succ_lt_succ less)).of_quiet quiet)
      (fun later reached quiet' => last _ reached (quiet.trans quiet'))
    have balanced : ∀ count, Journal.underway count later = count := by
      obtain ⟨events, grows⟩ := @notes_notedAt _ backend registry filters (rest + steps) (walk 1) inner
      obtain rfl := List.append_cancel_left (grows.journal.symm.trans quiet'.journal)
      exact grows.balanced
    rw [← Nat.add_assoc, same, after error failed, failed]
    exact ⟨rfl, _, (quiet.trans quiet').trans (.ended _ (walk 0)),
      Journal.deepest_calculated flat nested balanced (walk 0)⟩

end Walk

variable {session : Session σ}

theorem fst_evaluate (name : String) (session : Session σ) :
    (registry.evaluate backend name filters session).1 =
      (registry.notedAt backend filters maxDerivationDepth name session.recorded).1 :=
  congrArg Prod.fst (mirrors_notedAt maxDerivationDepth name session.recorded)

/-- What a request notes. -/
def journalOf (backend : Backend σ) (registry : Registry) (request : Request) (session : Session σ) :
    Journal :=
  (registry.notedServe backend request session.recorded).2.backend.2

/-- What an evaluation adds to an empty journal is what it notes. -/
theorem journalOf_evaluate {events : Journal}
    (quiet : Quiet session.recorded events
      (registry.notedAt backend filters maxDerivationDepth name session.recorded).2) :
    registry.journalOf backend (.evaluate name filters) session = events := by
  have served : registry.notedServe backend (.evaluate name filters) session.recorded = _ :=
    bind_pure_apply (registry.notedAt backend filters maxDerivationDepth name) Answer.value _
  rw [journalOf, served]
  exact quiet.journal

/-- Where more calculations each give the value of the next one than may be nested, as many are begun
as may be, the one after them is too deep, and nothing is asked or cached. -/
theorem too_deep_of_walk {walk : Nat → String}
    (others : ∀ i < maxDerivationDepth, walk (i + 1) ≠ walk i)
    (relays : ∀ i ≤ maxDerivationDepth, registry.Relays filters session (walk i) (walk (i + 1))) :
    (registry.evaluate backend (walk 0) filters session).1 =
        .error (.derivationDepth (walk maxDerivationDepth)) ∧
      Journal.deepest 0 (registry.journalOf backend (.evaluate (walk 0) filters) session) =
        maxDerivationDepth ∧
      (registry.journalOf backend (.evaluate (walk 0) filters) session).Silent := by
  have last := relays maxDerivationDepth (Nat.le_refl maxDerivationDepth)
  obtain ⟨failed, events, quiet, nested⟩ := @quiet_notedAt_of_walk _ backend registry filters
    session.recorded walk maxDerivationDepth _ 0 others (fun i less => relays i (Nat.le_of_lt less))
    fun events reached quiet => notedAt_zero_of_relays (last.of_quiet quiet)
  rw [Nat.zero_add] at failed quiet
  rw [fst_evaluate, journalOf_evaluate quiet, nested, Nat.zero_add]
  exact ⟨failed, rfl, quiet.silent⟩

theorem ne_of_chain {chain : Nat → String} {n : Nat}
    (distinct : ∀ i < n, ∀ j < n, chain i = chain j → i = j)
    (relays : ∀ i < n, registry.Relays filters session (chain i) (chain (i + 1)))
    (uncalculated : ∀ definition, registry.definition? (chain n) = some definition →
      ∃ spec, definition.kind = .aggregate spec) :
    ∀ i < n, chain (i + 1) ≠ chain i := by
  intro i less same
  by_cases last : i + 1 = n
  · subst last
    obtain ⟨definition, derivation, found, kind, -⟩ := relays i less
    obtain ⟨spec, kind'⟩ := uncalculated definition (same ▸ found)
    rw [kind] at kind'
    cases kind'
  · exact Nat.succ_ne_self i (distinct (i + 1) (by omega) i less same)

theorem ne_of_cycle {cycle : Nat → String} {k : Nat} (two : 2 ≤ k)
    (distinct : ∀ i < k, ∀ j < k, cycle i = cycle j → i = j) (i : Nat) :
    cycle ((i + 1) % k) ≠ cycle (i % k) := by
  have within (i : Nat) : i % k < k := Nat.mod_lt i (by omega)
  intro same
  have still := distinct _ (within (i + 1)) _ (within i) same
  rw [← Nat.mod_add_mod] at still
  by_cases last : i % k + 1 < k
  · rw [Nat.mod_eq_of_lt last] at still
    omega
  · have full : i % k + 1 = k := by
      have := within i
      omega
    rw [full, Nat.mod_self] at still
    omega

/-- Up to as many calculations as may be nested lead to the result at the end of a chain. -/
theorem fst_evaluate_of_chain {chain : Nat → String} {n : Nat} (few : n ≤ maxDerivationDepth)
    (others : ∀ i < n, chain (i + 1) ≠ chain i)
    (relays : ∀ i < n, registry.Relays filters session (chain i) (chain (i + 1)))
    (uncalculated : ∀ definition, registry.definition? (chain n) = some definition →
      ∃ spec, definition.kind = .aggregate spec) :
    (registry.evaluate backend (chain 0) filters session).1 =
      (registry.evaluate backend (chain n) filters session).1.map fun value =>
        if n = 0 then value else some (value.getD .null) := by
  rw [fst_evaluate, fst_evaluate, ← Nat.sub_add_cancel few]
  refine fst_notedAt_of_walk (maxDerivationDepth - n) others relays fun events reached quiet => ?_
  exact fst_notedAt_of_quiet _ _ uncalculated quiet

theorem fst_evaluate_of_unknown (unknown : registry.definition? name = none) :
    (registry.evaluate backend name filters session).1 = .ok none := by
  rw [fst_evaluate]
  show (registry.notedWith backend filters _ name session.recorded).1 = _
  unfold notedWith
  simp only [unknown]
  rfl

/-- Whatever is requested, at most sixteen calculations are nested, and none is left under way; the
journal that tells so changes nothing about the request. Along up to sixteen calculations that each
give the value of the next one, the result is that of the aggregate or the unknown statistic at the
end. Along more of them sixteen are nested and the seventeenth is too deep, and so is, where two or
more of them form a cycle, the one that the cycle has come to by then; nothing is asked and nothing
is cached. A calculation that gives its own value gives none. -/
theorem nesting_is_exact (backend : Backend σ) (registry : Registry) (filters : Filters)
    (session : Session σ) :
    (∀ request, registry.serve backend request session =
        ((registry.notedServe backend request session.recorded).1,
          (registry.notedServe backend request session.recorded).2.seen Prod.fst) ∧
      Journal.deepest 0 (registry.journalOf backend request session) ≤ 16 ∧
      Journal.underway 0 (registry.journalOf backend request session) = 0) ∧
    (∀ (chain : Nat → String) (n : Nat), (∀ i < n, ∀ j < n, chain i = chain j → i = j) →
      (∀ i < n, registry.Relays filters session (chain i) (chain (i + 1))) →
      (∀ definition, registry.definition? (chain n) = some definition →
        ∃ spec, definition.kind = .aggregate spec) →
      (n ≤ 16 → (registry.evaluate backend (chain 0) filters session).1 =
        (registry.evaluate backend (chain n) filters session).1.map fun value =>
          if n = 0 then value else some (value.getD .null)) ∧
      (n ≤ 16 → 0 < n → registry.definition? (chain n) = none →
        (registry.evaluate backend (chain 0) filters session).1 = .ok (some .null)) ∧
      (16 < n → (registry.evaluate backend (chain 0) filters session).1 =
          .error (.derivationDepth (chain 16)) ∧
        Journal.deepest 0 (registry.journalOf backend (.evaluate (chain 0) filters) session) = 16 ∧
        (registry.journalOf backend (.evaluate (chain 0) filters) session).Silent)) ∧
    (∀ (cycle : Nat → String) (k : Nat), 2 ≤ k → (∀ i < k, ∀ j < k, cycle i = cycle j → i = j) →
      (∀ i < k, registry.Relays filters session (cycle i) (cycle ((i + 1) % k))) →
      (registry.evaluate backend (cycle 0) filters session).1 =
          .error (.derivationDepth (cycle (16 % k))) ∧
        Journal.deepest 0 (registry.journalOf backend (.evaluate (cycle 0) filters) session) = 16 ∧
        (registry.journalOf backend (.evaluate (cycle 0) filters) session).Silent) ∧
    (∀ name, registry.Relays filters session name name →
      (registry.evaluate backend name filters session).1 = .ok (some .null)) := by
  refine ⟨fun request => ?_, fun chain n distinct relays uncalculated => ?_,
    fun cycle k two distinct relays => ?_, fun name relays => ?_⟩
  · obtain ⟨events, grows⟩ := @notes_notedServe _ backend registry request session.recorded
    have journal : registry.journalOf backend request session = events := grows.journal
    have nested := grows.nested 0
    rw [Nat.zero_add] at nested
    rw [journal]
    exact ⟨mirrors_notedServe request session.recorded, nested, grows.balanced 0⟩
  · have others := ne_of_chain distinct relays uncalculated
    refine ⟨fun few => fst_evaluate_of_chain few others relays uncalculated,
      fun few some unknown => ?_, fun many => ?_⟩
    · rw [fst_evaluate_of_chain few others relays uncalculated, fst_evaluate_of_unknown unknown]
      simp [Except.map, Nat.ne_of_gt some]
    · exact too_deep_of_walk (fun i less => others i (Nat.lt_trans less many))
        fun i le => relays i (Nat.lt_of_le_of_lt le many)
  · have walked := @too_deep_of_walk _ backend registry filters session (fun i => cycle (i % k))
      (fun i _ => ne_of_cycle two distinct i) fun i _ => by
        rw [← Nat.mod_add_mod]
        exact relays (i % k) (Nat.mod_lt i (by omega))
    rw [Nat.zero_mod] at walked
    exact walked
  · rw [fst_evaluate]
    exact fst_notedAt_of_self relays 15

/-- A calculation of the value of its sibling `next`. -/
def relay (pair : String × String) : Definition :=
  ⟨pair.1, .calculated (.sibling pair.2 .done), none⟩

def link (i : Nat) : String :=
  "C" ++ toString i

/-- A calculation that asks for itself, two that ask for each other, and a chain of seventeen. -/
def relayed : List (String × String) :=
  ("Selfish", "Selfish") :: ("Ping", "Pong") :: ("Pong", "Ping") ::
    (List.range 17).map fun i => (link i, link (i + 1))

def relaying : Registry :=
  (relayed.map relay).foldl define (.empty ⟨"Item", "items"⟩ [] .once)

theorem relays_of_mem {pair : String × String} (member : pair ∈ relayed) (session : Session σ) :
    relaying.Relays .empty session pair.1 pair.2 :=
  ⟨relay pair, .sibling pair.2 .done,
    definition?_foldl_define (by decide +kernel) (List.mem_map_of_mem member), rfl,
    .sibling .done fun _ => rfl, fun cacheable => by cases cacheable⟩

/-- The one of two calculations whose turn it is. -/
def turn (i : Nat) : String :=
  if i = 0 then "Ping" else "Pong"

/-- Seventeen calculations in a row are one too many and sixteen are not; two that ask for each other
are too many, and one that asks for itself is told null. -/
theorem relayed_values :
    let session : Session Script := ⟨noon, .empty 64, fiveThenSeven⟩
    (relaying.evaluate Script.backend (link 0) .empty session).1 =
        .error (.derivationDepth (link 16)) ∧
      (relaying.evaluate Script.backend (link 1) .empty session).1 = .ok (some .null) ∧
      (relaying.evaluate Script.backend "Ping" .empty session).1 =
        .error (.derivationDepth "Ping") ∧
      (relaying.evaluate Script.backend "Selfish" .empty session).1 = .ok (some .null) := by
  intro session
  obtain ⟨-, chains, cycles, selves⟩ := nesting_is_exact Script.backend relaying .empty session
  have linked (i : Nat) (less : i < 17) : relaying.Relays .empty session (link i) (link (i + 1)) := by
    have member : (link i, link (i + 1)) ∈ relayed := by
      simp only [relayed, List.mem_cons, List.mem_map, List.mem_range]
      exact .inr (.inr (.inr ⟨i, less, rfl⟩))
    exact relays_of_mem member session
  have unknown : relaying.definition? (link 17) = none :=
    Option.isNone_iff_eq_none.mp (by decide +kernel)
  have uncalculated (definition : Definition)
      (found : relaying.definition? (link 17) = some definition) :
      ∃ spec, definition.kind = .aggregate spec := by
    rw [unknown] at found
    cases found
  have turning (i : Nat) (less : i < 2) :
      relaying.Relays .empty session (turn i) (turn ((i + 1) % 2)) := by
    rcases Nat.le_one_iff_eq_zero_or_eq_one.mp (Nat.le_of_lt_succ less) with rfl | rfl
    · exact relays_of_mem (.tail _ (.head _)) session
    · exact relays_of_mem (.tail _ (.tail _ (.head _))) session
  refine ⟨?_, ?_, ?_, selves "Selfish" (relays_of_mem (.head _) session)⟩
  · obtain ⟨-, -, long⟩ := chains link 17 (by decide +kernel) linked uncalculated
    exact (long (by decide)).1
  · obtain ⟨-, short, -⟩ := chains (fun i => link (i + 1)) 16 (by decide +kernel)
      (fun i less => linked (i + 1) (Nat.succ_lt_succ less)) uncalculated
    exact short (Nat.le_refl 16) (by decide) unknown
  · exact (cycles turn 2 (Nat.le_refl 2) (by decide +kernel) turning).1

end Registry

end Statbook
