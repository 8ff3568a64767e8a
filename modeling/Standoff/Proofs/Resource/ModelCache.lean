import Mathlib.Data.List.DropRight
import Standoff.Resource.ModelCache

/-! Runs of a model cache. Over any series of requests and clearings, a cache holds for each
location the one model that a loader has made there since the cache was last cleared. Loads
that fail leave nothing behind. -/

namespace Standoff.ModelCache

variable {μ ε : Type}

/-! ## Histories -/

/-- A use of a cache. A request tells what it would find: whether there is a file, and what
its loader answers. -/
inductive Call (μ ε : Type) where
  | get (location : Text) (present : Bool) (load : Except ε (Option μ))
  | clear

/-- A loader has been run and has answered, or the cache has been cleared. -/
inductive Event (μ ε : Type) where
  | loaded (location : Text) (answer : Except ε (Option μ))
  | cleared

/-- A cache, and what has happened to it. -/
structure History (μ ε : Type) where
  cache : ModelCache μ := empty
  events : List (Event μ ε) := []

namespace History

def record (history : History μ ε) (load : Except ε (Option μ)) (fetch : Fetch μ ε) :
    History μ ε where
  cache := fetch.cache
  events := history.events ++ fetch.loads.map (.loaded · load)

def call (history : History μ ε) : Call μ ε → History μ ε
  | .get location present load =>
      history.record load (history.cache.fetch location present load)
  | .clear => { cache := empty, events := history.events ++ [.cleared] }

def ofCalls (calls : List (Call μ ε)) : History μ ε := calls.foldl call {}

theorem ofCalls_concat (calls : List (Call μ ε)) (last : Call μ ε) :
    ofCalls (calls ++ [last]) = (ofCalls calls).call last := by
  rw [ofCalls, List.foldl_append]
  rfl

end History

/-! ## Models that loaders have made -/

namespace Event

def isCleared : Event μ ε → Bool
  | .loaded _ _ => false
  | .cleared => true

def model? (location : Text) : Event μ ε → Option μ
  | .loaded other (.ok made) => if other = location then made else none
  | _ => none

end Event

def models (location : Text) (events : List (Event μ ε)) : List μ :=
  events.filterMap (Event.model? location)

def sinceCleared (events : List (Event μ ε)) : List (Event μ ε) :=
  events.rtakeWhile (!·.isCleared)

theorem models_append (location : Text) (events more : List (Event μ ε)) :
    models location (events ++ more) = models location events ++ models location more :=
  List.filterMap_append

theorem sinceCleared_cleared (events : List (Event μ ε)) :
    sinceCleared (events ++ [.cleared]) = [] :=
  List.rtakeWhile_concat_neg _ _ _ (by simp [Event.isCleared])

theorem sinceCleared_loaded (events : List (Event μ ε)) (location : Text)
    (answer : Except ε (Option μ)) :
    sinceCleared (events ++ [.loaded location answer]) =
      sinceCleared events ++ [.loaded location answer] :=
  List.rtakeWhile_concat_pos _ _ _ rfl

theorem sinceCleared_append (events : List (Event μ ε)) {stretch : List (Event μ ε)}
    (uncleared : .cleared ∉ stretch) :
    sinceCleared (events ++ stretch) = sinceCleared events ++ stretch := by
  induction stretch using List.reverseRecOn with
  | nil => rw [List.append_nil, List.append_nil]
  | append_singleton front last induction =>
      rw [List.mem_append, List.mem_singleton, not_or] at uncleared
      cases last with
      | cleared => exact absurd rfl uncleared.2
      | loaded location answer =>
          rw [← List.append_assoc, sinceCleared_loaded, induction uncleared.1,
            List.append_assoc]

/-! ## One request -/

/-- What a request may leave behind: the model that is kept, the model that the loader has
made, or a cache that is as it was. -/
inductive Fetched (cache : ModelCache μ) (location : Text) :
    Bool → Except ε (Option μ) → Fetch μ ε → Prop
  | kept {present load model} (found : Dictionary.get? cache location = some model) :
      Fetched cache location present load ⟨.ok model, cache, []⟩
  | missing {load} (absent : Dictionary.get? cache location = none) :
      Fetched cache location false load ⟨.error (.missing location), cache, []⟩
  | made {model} (absent : Dictionary.get? cache location = none) :
      Fetched cache location true (.ok (some model))
        ⟨.ok model, Dictionary.set location model cache, [location]⟩
  | notLoaded (absent : Dictionary.get? cache location = none) :
      Fetched cache location true (.ok none)
        ⟨.error (.notLoaded location), cache, [location]⟩
  | failed {failure} (absent : Dictionary.get? cache location = none) :
      Fetched cache location true (.error failure)
        ⟨.error (.loader failure), cache, [location]⟩

theorem fetched (cache : ModelCache μ) (location : Text) (present : Bool)
    (load : Except ε (Option μ)) :
    Fetched cache location present load (cache.fetch location present load) := by
  unfold fetch
  cases found : Dictionary.get? cache location with
  | some model => exact .kept found
  | none =>
      cases present with
      | false => exact .missing found
      | true =>
          rcases load with failure | ⟨_ | model⟩
          · exact .failed found
          · exact .notLoaded found
          · exact .made found

/-! ## Every history -/

/-- The cache holds for each location the only model that has been made for it since the
cache was last cleared, if there is one. -/
def History.Holds (history : History μ ε) : Prop :=
  ∀ location, models location (sinceCleared history.events) =
    (Dictionary.get? history.cache location).toList

theorem models_loaded_of_ne {location other : Text} (different : other ≠ location)
    (answer : Except ε (Option μ)) : models location [.loaded other answer] = [] := by
  cases answer <;> simp [models, Event.model?, different]

theorem History.Holds.loaded {history : History μ ε} (holds : history.Holds) {location : Text}
    {answer : Except ε (Option μ)} (unmade : ∀ model, answer ≠ .ok (some model)) :
    Holds ⟨history.cache, history.events ++ [.loaded location answer]⟩ := by
  intro other
  have nothing : models other [.loaded location answer] = [] := by
    rcases answer with failure | ⟨_ | model⟩
    · rfl
    · simp [models, Event.model?]
    · exact absurd rfl (unmade model)
  rw [sinceCleared_loaded, models_append, nothing, List.append_nil, holds other]

theorem History.Holds.made {history : History μ ε} (holds : history.Holds) {location : Text}
    (absent : Dictionary.get? history.cache location = none) (model : μ) :
    Holds ⟨Dictionary.set location model history.cache,
      history.events ++ [.loaded location (.ok (some model))]⟩ := by
  intro other
  rw [sinceCleared_loaded, models_append, holds other]
  by_cases same : location = other
  · subst same
    rw [absent, Dictionary.get?_set_self]
    simp [models, Event.model?]
  · rw [models_loaded_of_ne same, List.append_nil, Dictionary.get?_set_of_ne _ _ (Ne.symm same)]

theorem History.Holds.record {history : History μ ε} (holds : history.Holds) {location : Text}
    {present : Bool} {load : Except ε (Option μ)} {fetch : Fetch μ ε}
    (fetched : Fetched history.cache location present load fetch) :
    (history.record load fetch).Holds := by
  unfold History.record
  cases fetched with
  | kept _ | missing _ => simpa using holds
  | made absent => exact holds.made absent _
  | notLoaded _ | failed _ => exact holds.loaded (by rintro _ ⟨⟩)

theorem History.Holds.call {history : History μ ε} (holds : history.Holds) (call : Call μ ε) :
    (history.call call).Holds := by
  cases call with
  | get location present load => exact holds.record (fetched history.cache location present load)
  | clear =>
      intro location
      rw [History.call, sinceCleared_cleared]
      rfl

theorem holds_ofCalls (calls : List (Call μ ε)) : (History.ofCalls calls).Holds := by
  induction calls using List.reverseRecOn with
  | nil => exact fun _ => rfl
  | append_singleton earlier last induction =>
      rw [History.ofCalls_concat]
      exact induction.call last

/-! ## Between two clearings -/

theorem exists_calls_of_prefix {events : List (Event μ ε)} {calls : List (Call μ ε)}
    (early : events <+: (History.ofCalls calls).events) :
    ∃ earlier, (History.ofCalls earlier).events = events := by
  induction calls using List.reverseRecOn with
  | nil => exact ⟨[], (List.prefix_nil.mp early).symm⟩
  | append_singleton earlier last induction =>
      -- A call adds at most one event, so that no time lies within a call.
      have step : (History.ofCalls (earlier ++ [last])).events =
            (History.ofCalls earlier).events ∨
          ∃ event, (History.ofCalls (earlier ++ [last])).events =
            (History.ofCalls earlier).events ++ [event] := by
        rw [History.ofCalls_concat]
        generalize History.ofCalls earlier = history
        cases last with
        | clear => exact Or.inr ⟨_, rfl⟩
        | get location present load =>
            have fetched := fetched history.cache location present load
            rw [History.call, History.record]
            generalize history.cache.fetch location present load = fetch at fetched
            cases fetched with
            | kept _ | missing _ => exact Or.inl (List.append_nil _)
            | made _ | notLoaded _ | failed _ => exact Or.inr ⟨_, rfl⟩
      rcases step with same | ⟨event, added⟩
      · exact induction (same ▸ early)
      · rw [added, List.prefix_concat_iff] at early
        rcases early with whole | before
        · exact ⟨earlier ++ [last], added.trans whole.symm⟩
        · exact induction before

theorem length_models_le_one {calls : List (Call μ ε)} {stretch : List (Event μ ε)}
    (part : stretch <:+: (History.ofCalls calls).events) (uncleared : .cleared ∉ stretch)
    (location : Text) : (models location stretch).length ≤ 1 := by
  rcases part with ⟨front, back, split⟩
  have early : front ++ stretch <+: (History.ofCalls calls).events := ⟨back, split⟩
  rcases exists_calls_of_prefix early with ⟨earlier, events⟩
  have holds := holds_ofCalls earlier location
  rw [events, sinceCleared_append front uncleared, models_append] at holds
  have most : (models location (sinceCleared front) ++ models location stretch).length ≤ 1 := by
    rw [holds]
    exact Option.length_toList_le
  rw [List.length_append] at most
  exact Nat.le_of_add_left_le most

/-- What a request has to do, whatever file and loader it comes with. -/
structure Served (history : History μ ε) (location : Text) (present : Bool)
    (load : Except ε (Option μ)) (fetch : Fetch μ ε) : Prop where
  runs : fetch.loads =
    if Dictionary.get? history.cache location = none ∧ present then [location] else []
  fails : (∃ error, fetch.result = .error error) ↔
    Dictionary.get? history.cache location = none ∧
      ¬ (present ∧ ∃ model, load = .ok (some model))
  cause : ∀ error, fetch.result = .error error →
    (present = false ∧ error = .missing location) ∨
    (present = true ∧ load = .ok none ∧ error = .notLoaded location) ∨
    ∃ failure, present = true ∧ load = .error failure ∧ error = .loader failure
  again : ∀ error, fetch.result = .error error → fetch.cache = history.cache ∧
    ∀ later : Except ε (Option μ), (fetch.cache.fetch location true later).loads = [location]
  answers : ∀ model, fetch.result = .ok model →
    models location (sinceCleared (history.record load fetch).events) = [model]

theorem loads_of_absent {cache : ModelCache μ} {location : Text}
    (absent : Dictionary.get? cache location = none) (load : Except ε (Option μ)) :
    (cache.fetch location true load).loads = [location] := by
  have fetched := fetched cache location true load
  generalize cache.fetch location true load = fetch at fetched
  cases fetched with
  | kept found => cases absent.symm.trans found
  | made _ | notLoaded _ | failed _ => rfl

theorem History.Holds.served {history : History μ ε} (holds : history.Holds) {location : Text}
    {present : Bool} {load : Except ε (Option μ)} {fetch : Fetch μ ε}
    (fetched : Fetched history.cache location present load fetch) :
    Served history location present load fetch := by
  have answers : ∀ model, fetch.result = .ok model →
      models location (sinceCleared (history.record load fetch).events) = [model] := by
    intro model answered
    rw [holds.record fetched location]
    cases fetched with
    | kept found =>
        obtain rfl := Except.ok.inj answered
        exact congrArg Option.toList found
    | made _ =>
        obtain rfl := Except.ok.inj answered
        exact congrArg Option.toList (Dictionary.get?_set_self _ _ _)
    | missing _ | notLoaded _ | failed _ => cases answered
  cases fetched with
  | kept found =>
      exact ⟨by simp [found], by simp [found], by rintro _ ⟨⟩, by rintro _ ⟨⟩, answers⟩
  | made absent =>
      exact ⟨by simp [absent], by simp, by rintro _ ⟨⟩, by rintro _ ⟨⟩, answers⟩
  | missing absent =>
      refine ⟨by simp, by simp [absent], ?_, fun _ _ => ⟨rfl, loads_of_absent absent⟩, answers⟩
      rintro error ⟨⟩
      exact Or.inl ⟨rfl, rfl⟩
  | notLoaded absent =>
      refine ⟨by simp [absent], by simp [absent], ?_, fun _ _ => ⟨rfl, loads_of_absent absent⟩,
        answers⟩
      rintro error ⟨⟩
      exact Or.inr (Or.inl ⟨rfl, rfl, rfl⟩)
  | failed absent =>
      refine ⟨by simp [absent], by simp [absent], ?_, fun _ _ => ⟨rfl, loads_of_absent absent⟩,
        answers⟩
      rintro error ⟨⟩
      exact Or.inr (Or.inr ⟨_, rfl, rfl, rfl⟩)

/-- Over any series of requests and clearings, a cache keeps what one loader has made for a
location until it is cleared, and nothing else. Between two clearings no second loader makes
a model for the same location. -/
theorem models_made_once (calls : List (Call μ ε)) :
    let history := History.ofCalls calls
    (∀ location, models location (sinceCleared history.events) =
      (Dictionary.get? history.cache location).toList) ∧
    (∀ stretch, stretch <:+: history.events → .cleared ∉ stretch →
      ∀ location, (models location stretch).length ≤ 1) ∧
    ∀ location present load,
      Served history location present load (history.cache.fetch location present load) :=
  ⟨holds_ofCalls calls, fun _ part uncleared => length_models_le_one part uncleared,
    fun location present load =>
      (holds_ofCalls calls).served (fetched _ location present load)⟩

/-- A model is loaded after two failures, kept although its file is deleted, and loaded anew
after a clearing. -/
example :
    let here := "m".toList
    (History.ofCalls (ε := Unit) [.get here false (.ok (some 1)), .get here true (.error ()),
      .get here true (.ok (some 2)), .get here false (.ok (some 3)), .clear,
      .get here true (.ok (some 4))]).events =
      [.loaded here (.error ()), .loaded here (.ok (some 2)), .cleared,
        .loaded here (.ok (some 4))] := by rfl

end Standoff.ModelCache
