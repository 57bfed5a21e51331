import Statbook.Proofs.Registry.Transparency

/-!
# Requests

A registry serves requests one after another, each in the session that the one before left.
The answers are those of the registry without times to live.
-/

namespace Statbook

open Fallible

/-- What may be asked of a registry. -/
inductive Request where
  | evaluate (name : String) (filters : Filters)
  | get (name : String) (filters : Filters)
  | getFresh (name : String) (filters : Filters)
  | getAll (filters : Filters) (except : Option String)
  | invalidate (name : String) (filters : Filters)
  | clearCache

/-- The filters under which a request evaluates statistics. -/
def Request.asked : Request → List Filters
  | evaluate _ filters | get _ filters | getFresh _ filters | getAll filters _ => [filters]
  | invalidate .. | clearCache => []

/-- What a request is answered with, unless it fails. -/
inductive Answer where
  | value (value : Option StatValue)
  | values (values : List (String × StatValue))
  | done
  deriving DecidableEq

namespace Registry

variable {σ : Type}

/-- Serves one request. -/
def serve (backend : Backend σ) (registry : Registry) : Request → Fallible (Session σ) Answer
  | .evaluate name filters => do
    let value ← registry.evaluate backend name filters
    pure (.value value)
  | .get name filters => do
    let value ← registry.get backend name filters
    pure (.value value)
  | .getFresh name filters => do
    let value ← registry.getFresh backend name filters
    pure (.value value)
  | .getAll filters except => do
    let values ← registry.getAll backend filters except
    pure (.values values)
  | .invalidate name filters => do
    registry.invalidate name filters
    pure .done
  | .clearCache => do
    Session.onCache fun cache => ((), cache.clear)
    pure .done

/-- The answers to requests that are served one after another. -/
def answers (backend : Backend σ) (registry : Registry) :
    List Request → Session σ → List (Except StatError Answer)
  | [], _ => []
  | request :: requests, session =>
    let (answer, session) := registry.serve backend request session
    answer :: answers backend registry requests session

/-- What all statistics but one are worth. -/
def allWorth (backend : Backend σ) (registry : Registry) (now : Timestamp) (state : σ)
    (filters : Filters) (except : Option String) (levels : Nat) :
    Except StatError (List (String × StatValue)) :=
  (registry.names.filter fun name => some name ≠ except).mapM fun name =>
    (registry.worthAt backend now state filters levels name).bind fun value =>
      .ok (name, value.getD .null)

/-- What a request is worth where calculations may be nested `levels` deep. -/
def requestWorth (backend : Backend σ) (registry : Registry) (now : Timestamp) (state : σ)
    (levels : Nat) : Request → Except StatError Answer
  | .evaluate name filters | .get name filters | .getFresh name filters =>
    (registry.worthAt backend now state filters levels name).bind fun value => .ok (.value value)
  | .getAll filters except =>
    (registry.allWorth backend now state filters except levels).bind fun values =>
      .ok (.values values)
  | .invalidate .. | .clearCache => .ok .done

variable {backend : Backend σ} {registry : Registry} {now : Timestamp} {state : σ}
  {filters : Filters} {asked : List Filters}

theorem rising_allWorth (plain : registry.Plain) (except : Option String) :
    Rising (registry.allWorth backend now state filters except) :=
  Rising.mapM (fun name => (rising_worthAt plain.prompt name).bind fun _ => .const _) _

theorem tracks_get (safe : CacheSafe backend registry asked) (member : filters ∈ asked)
    (name : String) : Ensures (Sound backend registry asked now state)
      (registry.get backend name filters)
      (Tracks (fun levels => registry.worthAt backend now state filters levels name)
        maxDerivationDepth) :=
  registry.retry.ensures_run fun _ => tracks_evaluateAt safe member maxDerivationDepth name

theorem tracks_getFresh (safe : CacheSafe backend registry asked) (member : filters ∈ asked)
    (name : String) : Ensures (Sound backend registry asked now state)
      (registry.getFresh backend name filters)
      (Tracks (fun levels => registry.worthAt backend now state filters levels name)
        maxDerivationDepth) :=
  Ensures.bind (sound_invalidate name filters) (fun _ _ => tracks_get safe member name)
    fun error absent => by cases absent

theorem tracks_getAll (safe : CacheSafe backend registry asked) (member : filters ∈ asked)
    (except : Option String) : Ensures (Sound backend registry asked now state)
      (registry.getAll backend filters except)
      (Tracks (registry.allWorth backend now state filters except) maxDerivationDepth) := by
  refine Ensures.mapMTracks
    (fun name => (rising_worthAt safe.plain.prompt name).bind fun value => .const _) (fun name => ?_) _
  exact (tracks_get safe member name).bindTracks (rising_worthAt safe.plain.prompt name)
    (fun value => .const _) fun value =>
      .pureTracks (name, value.getD .null) maxDerivationDepth

/-- A request keeps the cache sound, and its answer goes along with what it is worth. -/
theorem tracks_serve (safe : CacheSafe backend registry asked) (request : Request)
    (members : ∀ filters ∈ request.asked, filters ∈ asked) :
    Ensures (Sound backend registry asked now state) (registry.serve backend request)
      (Tracks (fun levels => registry.requestWorth backend now state levels request)
        maxDerivationDepth) := by
  have valued {filters : Filters} {run : Fallible (Session σ) (Option StatValue)} {name : String}
      (tracks : Ensures (Sound backend registry asked now state) run
        (Tracks (fun levels => registry.worthAt backend now state filters levels name)
          maxDerivationDepth)) :
      Ensures (Sound backend registry asked now state)
        (do let value ← run; pure (Answer.value value))
        (Tracks (fun levels => (registry.worthAt backend now state filters levels name).bind
          fun value => .ok (.value value)) maxDerivationDepth) :=
    tracks.bindTracks (rising_worthAt safe.plain.prompt name) (fun value => .const _) fun value =>
      .pureTracks (Answer.value value) maxDerivationDepth
  cases request with
  | evaluate name filters =>
    have member := members filters List.mem_cons_self
    exact valued (tracks_evaluateAt safe member maxDerivationDepth name)
  | get name filters => exact valued (tracks_get safe (members filters List.mem_cons_self) name)
  | getFresh name filters =>
    exact valued (tracks_getFresh safe (members filters List.mem_cons_self) name)
  | getAll filters except =>
    exact (tracks_getAll safe (members filters List.mem_cons_self) except).bindTracks
      (rising_allWorth safe.plain except) (fun values => .const _) fun values =>
        .pureTracks (Answer.values values) maxDerivationDepth
  | invalidate name filters =>
    refine Ensures.bind (sound_invalidate name filters) (fun _ _ => ?_) fun error absent => by
      cases absent
    exact .pureTracks Answer.done maxDerivationDepth
  | clearCache =>
    have cleared : Yields (Sound backend registry asked now state)
        (Session.onCache fun cache => ((), cache.clear)) (.ok ()) :=
      fun session sound => ⟨⟨sound.1, Cache.All.clear session.cache⟩, rfl⟩
    refine Ensures.bind cleared (fun _ _ => ?_) fun error absent => by cases absent
    exact .pureTracks Answer.done maxDerivationDepth

/-- Without times to live a request is answered with what it is worth. -/
theorem yields_serve_uncached (steady : backend.Steady) (request : Request) :
    Yields (fun session => session.now = now) (registry.uncached.serve backend request)
      (registry.requestWorth backend now state maxDerivationDepth request) := by
  have untimed : ∀ definition ∈ registry.uncached.definitions, definition.ttl = none := by
    intro definition member
    obtain ⟨timed, -, rfl⟩ := List.mem_map.mp member
    rfl
  have evaluated (name : String) (filters : Filters) :
      Yields (fun session => session.now = now) (registry.uncached.evaluate backend name filters)
        (registry.worthAt backend now state filters maxDerivationDepth name) := by
    rw [← worthAt_uncached]
    exact yields_evaluateAt steady untimed maxDerivationDepth name
  have got (name : String) (filters : Filters) :
      Yields (fun session => session.now = now) (registry.uncached.get backend name filters)
        (registry.worthAt backend now state filters maxDerivationDepth name) :=
    registry.retry.ensures_run fun _ => evaluated name filters
  have invalidated (name : String) (filters : Filters) :
      Yields (fun session : Session σ => session.now = now)
        (registry.uncached.invalidate name filters) (.ok ()) :=
    fun session clock => ⟨clock, rfl⟩
  cases request with
  | evaluate name filters => exact (evaluated name filters).bind fun value => .pure _
  | get name filters => exact (got name filters).bind fun value => .pure _
  | getFresh name filters =>
    have fresh : Yields (fun session => session.now = now)
        (registry.uncached.getFresh backend name filters) _ :=
      (invalidated name filters).bind fun _ => got name filters
    exact fresh.bind fun value => .pure _
  | getAll filters except =>
    have all : Yields (fun session => session.now = now)
        (registry.uncached.getAll backend filters except)
        (registry.allWorth backend now state filters except maxDerivationDepth) := by
      unfold getAll allWorth
      rw [names_uncached]
      exact .mapM (fun name => (got name filters).bind fun value => .pure _) _
    exact all.bind fun values => .pure _
  | invalidate name filters => exact (invalidated name filters).bind fun _ => .pure _
  | clearCache =>
    have cleared : Yields (fun session : Session σ => session.now = now)
        (Session.onCache fun cache => ((), cache.clear)) (.ok ()) :=
      fun session clock => ⟨clock, rfl⟩
    exact cleared.bind fun _ => .pure _

/-- An answer is that of the registry without times to live, unless that one is that
calculations are nested too deeply. -/
def Transparent (backend : Backend σ) (registry : Registry) (now : Timestamp) (request : Request)
    (answer : Except StatError Answer) : Prop :=
  ∀ session : Session σ, session.now = now →
    answer = (registry.uncached.serve backend request session).1 ∨
      ∃ name, (registry.uncached.serve backend request session).1 = .error (.derivationDepth name)

theorem transparent_of_tracks (steady : backend.Steady) {request : Request}
    {answer : Except StatError Answer} (tracks : Tracks
      (fun levels => registry.requestWorth backend now state levels request) maxDerivationDepth
      answer) : Transparent backend registry now request answer := by
  intro session clock
  have same : (registry.uncached.serve backend request session).1 =
      registry.requestWorth backend now state maxDerivationDepth request :=
    (yields_serve_uncached steady request session clock).2
  rw [same]
  by_cases settled : Settled (registry.requestWorth backend now state maxDerivationDepth request)
  · exact Or.inl (tracks.1 settled)
  · refine Or.inr ?_
    simpa [Settled] using settled

theorem transparent_answers (safe : CacheSafe backend registry asked) (requests : List Request)
    (members : ∀ request ∈ requests, ∀ filters ∈ request.asked, filters ∈ asked)
    {session : Session σ} (sound : Sound backend registry asked now state session) :
    List.Forall₂ (Transparent backend registry now) requests
      (registry.answers backend requests session) := by
  induction requests generalizing session with
  | nil => exact .nil
  | cons request requests ih =>
    obtain ⟨kept, tracks⟩ := tracks_serve safe request
      (members request List.mem_cons_self) session sound
    exact .cons (transparent_of_tracks safe.steady tracks)
      (ih (fun request member => members request (List.mem_cons_of_mem _ member)) kept)

/-- Whatever requests are served, with whatever capacity and times to live, each is answered as
on the registry without times to live, unless calculations are nested too deeply there. -/
theorem answers_eq_uncached (backend : Backend σ) (registry : Registry) (requests : List Request)
    (now : Timestamp) (capacity : Nat) (state : σ)
    (safe : CacheSafe backend registry (requests.flatMap Request.asked)) :
    List.Forall₂ (Transparent backend registry now) requests
      (registry.answers backend requests ⟨now, .empty capacity, state⟩) := by
  have sound : Sound backend registry (requests.flatMap Request.asked) now state
      ⟨now, .empty capacity, state⟩ := ⟨rfl, Cache.all_empty capacity⟩
  refine transparent_answers safe requests (fun request member filters asked => ?_) sound
  exact List.mem_flatMap.mpr ⟨request, member, asked⟩

/-- A backend without scopes and rows that gives every aggregate the value seven. -/
def sevenBackend : Backend Unit where
  applyScope _ query _ := .ok query
  aggregate _ _ _ state := (.ok (.int 7), state)
  fetch _ state := (.ok [], state)

/-- Two cached statistics of items, the second one a copy of the first one that is kept for
longer where a team is given. -/
def cachedItems : Registry :=
  ((Registry.empty ⟨"item", "items"⟩ [] .standard).define
    ⟨"total", .aggregate (.over .count), some (.fixed (.ofSeconds 60))⟩).define
    ⟨"copy", .calculated (.sibling "total" .done),
      some (.choice (.has "team") (.ofSeconds 60) (.ofSeconds 1))⟩

/-- Requests of all kinds, with a null among the filters of one. -/
def itemRequests : List Request :=
  [.evaluate "copy" .empty, .get "total" (.ofList [("team", .null)]), .getFresh "copy" .empty,
    .invalidate "total" .empty, .getAll .empty none, .clearCache]

theorem hexDigest_total_ne_copy : Blake3.hexDigest (fingerprintBytes "item" "total" .empty) ≠
    Blake3.hexDigest (fingerprintBytes "item" "copy" .empty) := by
  decide +kernel

theorem cacheSafe_items :
    CacheSafe sevenBackend cachedItems (itemRequests.flatMap Request.asked) where
  plain := by
    intro definition member
    have known : definition = ⟨"total", .aggregate (.over .count), some (.fixed (.ofSeconds 60))⟩ ∨
        definition = ⟨"copy", .calculated (.sibling "total" .done),
          some (.choice (.has "team") (.ofSeconds 60) (.ofSeconds 1))⟩ := by
      simpa [cachedItems, define, setDefinition, empty] using member
    rcases known with rfl | rfl
    · exact ⟨fun condition member => absurd member List.not_mem_nil, fun joins absent => by
        cases absent⟩
    · exact .sibling (fun error => rfl) fun value => .done _
  steady := ⟨fun _ _ => rfl, fun _ _ _ _ _ => rfl⟩
  numbers := by decide
  onFace := by decide
  collisionFree := by
    have kernels : ∀ filters ∈ itemRequests.flatMap Request.asked,
        filters.kernel = Filters.empty.kernel := by
      intro filters member
      have known : filters = .empty ∨ filters = .ofList [("team", .null)] := by
        simpa [itemRequests, Request.asked, or_comm, or_left_comm] using member
      rcases known with rfl | rfl <;> rfl
    have names : ∀ name ∈ cachedItems.names, name = "total" ∨ name = "copy" := by
      decide
    intro name named name' named' filters member filters' member'
    rw [fingerprintBytes_congr _ _ (kernels filters member),
      fingerprintBytes_congr _ _ (kernels filters' member')]
    rcases names name named with rfl | rfl
    · rcases names name' named' with rfl | rfl
      · exact fun _ => rfl
      · exact fun same => absurd same hexDigest_total_ne_copy
    · rcases names name' named' with rfl | rfl
      · exact fun same => absurd same.symm hexDigest_total_ne_copy
      · exact fun _ => rfl

theorem cachedItems_answers_eq_uncached :
    CacheSafe sevenBackend cachedItems (itemRequests.flatMap Request.asked) ∧
      List.Forall₂ (Transparent sevenBackend cachedItems .last) itemRequests
        (cachedItems.answers sevenBackend itemRequests ⟨.last, .empty 1, ()⟩) :=
  ⟨cacheSafe_items, answers_eq_uncached sevenBackend cachedItems itemRequests .last 1 ()
    cacheSafe_items⟩

end Registry

end Statbook
