import FieldTags.Proofs.Service.Sequence
import FieldTags.Service.Store
import Mathlib.Data.List.Nodup
import Mathlib.Tactic.Common

/-!
# What a store of configurations keeps

A store is used by one call after the other, and the source answers the fetches among them in any
way. After every such session the store keeps for a model the very object that the last successful
fetch for the model returned, unless the model or everything has been invalidated since, and this
object is the configuration that the rows of the fetch stand for. Asking without a refresh fetches
only if nothing is kept, a fetch that fails changes nothing, and a call that names one model leaves
all others alone.
-/

namespace FieldTags.ConfigStore

/-! ## Calls and what comes of them -/

/-- What the source answers to a fetch. -/
abbrev Answer := Except ServiceError (List TagRow)

/-- A call on a store: it asks for the configuration of a model, looks at what is kept for it, or
forgets it, or all of them. -/
inductive Call where
  | get (model : String) (refresh : Bool)
  | cached (model : String)
  | invalidate (model : Option String)

def Call.model? : Call → Option String
  | .get model _ => some model
  | .cached model => some model
  | .invalidate model => model

/-- A call that has been made, with what it returned and, if the source was asked for rows, with its
answer. -/
inductive Event where
  | get (model : String) (refresh : Bool) (answer : Option Answer)
      (result : Except ServiceError (Kept ModelConfig))
  | cached (model : String) (result : Option (Kept ModelConfig))
  | invalidate (model : Option String)

namespace Event

def call : Event → Call
  | .get model refresh _ _ => .get model refresh
  | .cached model _ => .cached model
  | .invalidate model => .invalidate model

/-- What the source answered, if it was asked for rows. -/
def answer? : Event → Option Answer
  | .get _ _ answer _ => answer
  | _ => none

def isFetch (event : Event) : Bool :=
  event.answer?.isSome

/-- The object that was made of fetched rows. -/
def made? : Event → Option (Kept ModelConfig)
  | .get _ _ (some _) (.ok config) => some config
  | _ => none

/-- Rows of the model were fetched, and the call returned the object. -/
def Fetches (event : Event) (model : String) (rows : List TagRow) (config : Kept ModelConfig) :
    Prop :=
  ∃ refresh, event = .get model refresh (some (.ok rows)) (.ok config)

def Invalidates (event : Event) (model : String) : Prop :=
  event = .invalidate (some model) ∨ event = .invalidate none

/-- What is kept for the model was made or forgotten. -/
def Touches (event : Event) (model : String) : Prop :=
  event.Invalidates model ∨ ∃ rows config, event.Fetches model rows config

variable {event : Event} {model : String} {rows rows' : List TagRow}
  {config config' : Kept ModelConfig}

theorem Fetches.config_eq (h : event.Fetches model rows config)
    (h' : event.Fetches model rows' config') : config = config' := by
  obtain ⟨refresh, rfl⟩ := h
  obtain ⟨refresh', heq⟩ := h'
  cases heq
  rfl

theorem Fetches.not_invalidates (h : event.Fetches model rows config) :
    ¬ event.Invalidates model := by
  obtain ⟨refresh, rfl⟩ := h
  rintro (heq | heq) <;> cases heq

end Event

/-- What comes of a call, and the store after it, where the source gives this answer if asked. -/
def call (s : ConfigStore) (answer : Answer) : Call → Event × ConfigStore
  | .get model refresh =>
    let (result, next) := s.get model refresh answer
    (.get model refresh (if s.fetches model refresh then some answer else none) result, next)
  | .cached model => (.cached model (s.cached? model), s)
  | .invalidate model => (.invalidate model, s.invalidate model)

/-! ## One call -/

/-- What can happen to a store in one call. -/
inductive Happens (s : ConfigStore) : Event → ConfigStore → Prop where
  /-- What is kept is returned, and nothing is fetched. -/
  | hit {model : String} {config : Kept ModelConfig} (hkept : s.cached? model = some config) :
    Happens s (.get model false none (.ok config)) s
  /-- Rows are fetched, and a new object is kept and returned. -/
  | fetched {model : String} {refresh : Bool} (rows : List TagRow)
      (hask : refresh = true ∨ s.cached? model = none) :
    Happens s (.get model refresh (some (.ok rows)) (.ok (s.keep model rows).1))
      (s.keep model rows).2
  | failed {model : String} {refresh : Bool} (error : ServiceError)
      (hask : refresh = true ∨ s.cached? model = none) :
    Happens s (.get model refresh (some (.error error)) (.error error)) s
  | looked (model : String) : Happens s (.cached model (s.cached? model)) s
  | forgotten (model : Option String) : Happens s (.invalidate model) (s.invalidate model)

section Happens

variable {s next : ConfigStore} {event : Event} {model : String} {refresh : Bool} {answer : Answer}
  {rows : List TagRow} {config : Kept ModelConfig}

theorem fetches_iff : s.fetches model refresh = true ↔ refresh = true ∨ s.cached? model = none := by
  rw [fetches, Bool.or_eq_true, Option.isNone_iff_eq_none]

/-- The source is asked exactly where asking for a configuration fetches. -/
theorem isFetch_call_get : (s.call answer (.get model refresh)).1.isFetch = true ↔
    refresh = true ∨ s.cached? model = none := by
  rw [← fetches_iff, call]
  cases s.fetches model refresh
  · exact iff_of_false nofun nofun
  · exact iff_of_true rfl rfl

/-- What is kept is returned, whatever the source would answer. -/
theorem get_of_cached (h : s.cached? model = some config) :
    s.get model false answer = (.ok config, s) := by
  unfold get
  rw [if_neg Bool.false_ne_true, h]

/-- If it has to be fetched, the answer of the source decides. -/
theorem get_of_fetches (h : refresh = true ∨ s.cached? model = none) :
    s.get model refresh answer =
      match answer with
      | .ok rows => (.ok (s.keep model rows).1, (s.keep model rows).2)
      | .error error => (.error error, s) := by
  have hnone : (if refresh then none else s.cached? model) = none := by
    rcases h with rfl | h
    · rfl
    · rw [h, ite_self]
  unfold get
  rw [hnone]
  cases answer <;> rfl

/-- A call does one of the things that can happen. -/
theorem happens_call (s : ConfigStore) (answer : Answer) (c : Call) :
    Happens s (s.call answer c).1 (s.call answer c).2 := by
  cases c with
  | get model refresh =>
    by_cases hask : refresh = true ∨ s.cached? model = none
    · rw [call, get_of_fetches hask, if_pos (fetches_iff.mpr hask)]
      cases answer with
      | ok rows => exact .fetched rows hask
      | error error => exact .failed error hask
    · obtain ⟨hrefresh, hkept⟩ := not_or.mp hask
      obtain ⟨config, hconfig⟩ := Option.ne_none_iff_exists'.mp hkept
      rw [Bool.not_eq_true] at hrefresh
      subst hrefresh
      rw [call, get_of_cached hconfig, if_neg (mt fetches_iff.mp hask)]
      exact .hit hconfig
  | cached model => exact .looked model
  | invalidate model => exact .forgotten model

theorem cached?_keep (s : ConfigStore) (named other : String) (rows : List TagRow) :
    (s.keep named rows).2.cached? other =
      if other = named then some (s.keep named rows).1 else s.cached? other :=
  OrderedMap.find?_insert s.entries named other _

theorem cached?_invalidate_some (s : ConfigStore) (named other : String) :
    (s.invalidate (some named)).cached? other = if other = named then none else s.cached? other :=
  OrderedMap.find?_erase s.entries named other

theorem cached?_invalidate_none (s : ConfigStore) (other : String) :
    (s.invalidate none).cached? other = none :=
  OrderedMap.find?_empty other

theorem Happens.cached?_of_fetches (h : Happens s event next)
    (hfetches : event.Fetches model rows config) : next.cached? model = some config := by
  obtain ⟨refresh, rfl⟩ := hfetches
  cases h with
  | fetched rows hask => rw [cached?_keep, if_pos rfl]

theorem Happens.value_of_fetches (h : Happens s event next)
    (hfetches : event.Fetches model rows config) : config.value = .assemble model rows := by
  obtain ⟨refresh, rfl⟩ := hfetches
  cases h with
  | fetched rows hask => rfl

theorem Happens.cached?_of_invalidates (h : Happens s event next)
    (hinvalidates : event.Invalidates model) : next.cached? model = none := by
  rcases hinvalidates with rfl | rfl
  · cases h with
    | forgotten => rw [cached?_invalidate_some, if_pos rfl]
  · cases h with
    | forgotten => exact cached?_invalidate_none s model

/-- Only a successful fetch and an invalidation change what is kept for a model. -/
theorem Happens.cached?_of_not_touches (h : Happens s event next)
    (htouches : ¬ event.Touches model) : next.cached? model = s.cached? model := by
  cases h with
  | hit => rfl
  | @fetched named refresh rows hask =>
    have hne : model ≠ named := by
      rintro rfl
      exact htouches (.inr ⟨rows, _, refresh, rfl⟩)
    rw [cached?_keep, if_neg hne]
  | failed => rfl
  | looked => rfl
  | forgotten which =>
    cases which with
    | none => exact absurd (.inl (.inr rfl)) htouches
    | some named =>
      have hne : model ≠ named := by
        rintro rfl
        exact htouches (.inl (.inl rfl))
      rw [cached?_invalidate_some, if_neg hne]

/-- A call that names a model touches no other. -/
theorem not_touches_call {c : Call} {named : String} (hnames : c.model? = some named)
    (hne : named ≠ model) : ¬ (s.call answer c).1.Touches model := by
  cases c with
  | get other refresh =>
    cases hnames
    rintro ((h | h) | ⟨rows, config, refresh, h⟩)
    · cases h
    · cases h
    · injection h with hmodel
      exact hne hmodel
  | cached other =>
    rintro ((h | h) | ⟨rows, config, refresh, h⟩) <;> cases h
  | invalidate which =>
    cases hnames
    rintro ((h | h) | ⟨rows, config, refresh, h⟩)
    · cases h
      exact hne rfl
    · cases h
    · cases h

/-- Every object that is made gets the next serial number. -/
theorem Happens.serials (h : Happens s event next)
    (made : List (Kept ModelConfig)) (hmade : made.map Kept.serial = (List.range s.made).reverse) :
    ((event.made?.toList ++ made).map Kept.serial) = (List.range next.made).reverse := by
  cases h with
  | @fetched model _ rows _ =>
    have hnext : (s.keep model rows).2.made = s.made + 1 := rfl
    rw [hnext, List.range_succ, List.reverse_append, List.map_append, hmade]
    rfl
  | forgotten which => cases which <;> exact hmade
  | hit => exact hmade
  | failed => exact hmade
  | looked => exact hmade

end Happens

/-! ## Sessions -/

/-- A store in use. -/
structure Session where
  store : ConfigStore
  /-- What has been called, last first. -/
  history : List Event

namespace Session

def start : Session := ⟨.empty, []⟩

/-- The answers that the source has given, last first. -/
def taken (s : Session) : List Answer :=
  s.history.filterMap Event.answer?

/-- The session with one more call, where `answers n` answers the fetch after `n` others. -/
def step (answers : Nat → Answer) (s : Session) (c : Call) : Session :=
  let (event, next) := s.store.call (answers s.taken.length) c
  ⟨next, event :: s.history⟩

def run (answers : Nat → Answer) (calls : List Call) : Session :=
  calls.foldl (step answers) start

end Session

/-- The object was returned by the last successful fetch for the model, and neither the model nor
everything has been invalidated since. -/
def Latest (history : List Event) (model : String) (config : Kept ModelConfig) : Prop :=
  ∃ later event earlier rows, history = later ++ event :: earlier ∧
    event.Fetches model rows config ∧ ∀ e ∈ later, ¬ e.Touches model

/-- After every successful fetch for the model, it or everything has been invalidated. -/
def Forgotten (history : List Event) (model : String) : Prop :=
  ∀ later event earlier rows config, history = later ++ event :: earlier →
    event.Fetches model rows config → ∃ e ∈ later, e.Invalidates model

/-- The session has made these calls with these answers, and its store caches what they fetched. -/
structure Session.IsCache (s : Session) (answers : Nat → Answer) (calls : List Call) : Prop where
  /-- All calls have been made, in their order. -/
  calls_eq : s.history.map Event.call = calls.reverse
  /-- The answers have been taken in their order, at most one for each call. -/
  taken_eq : s.taken = ((List.range s.taken.length).map answers).reverse
  /-- What is kept for a model is the object that its last successful fetch returned. -/
  cached_iff : ∀ model config, s.store.cached? model = some config ↔ Latest s.history model config
  /-- Nothing is kept for a model exactly if every successful fetch for it has been invalidated. -/
  cached_none_iff : ∀ model, s.store.cached? model = none ↔ Forgotten s.history model
  /-- What was fetched is the configuration that the fetched rows stand for. -/
  assembled : ∀ event ∈ s.history, ∀ model rows config, event.Fetches model rows config →
    config.value = .assemble model rows
  /-- No two fetches have returned the same object. -/
  distinct : ((s.history.filterMap Event.made?).map Kept.serial).Nodup
  /-- Asking fetches exactly if a refresh is forced or nothing is kept. -/
  fetches_iff : ∀ model refresh answer,
    (s.store.call answer (.get model refresh)).1.isFetch = true ↔
      refresh = true ∨ s.store.cached? model = none
  /-- Without a refresh it returns the object that is kept, and nothing changes. -/
  hit : ∀ model config answer, s.store.cached? model = some config →
    s.store.call answer (.get model false) = (.get model false none (.ok config), s.store)
  /-- A fetch that gives rows returns an object. -/
  fetched : ∀ model refresh rows,
    (s.store.call (.ok rows) (.get model refresh)).1.isFetch = true →
      ∃ config, (s.store.call (.ok rows) (.get model refresh)).1.Fetches model rows config
  /-- A fetch that fails returns the error, and nothing changes. -/
  failed : ∀ model refresh error,
    (s.store.call (.error error) (.get model refresh)).1.isFetch = true →
      s.store.call (.error error) (.get model refresh) =
        (.get model refresh (some (.error error)) (.error error), s.store)
  /-- A call that names one model changes nothing for another. -/
  frame : ∀ c named model answer, c.model? = some named → named ≠ model →
    (s.store.call answer c).2.cached? model = s.store.cached? model

/-! ## The cache over a session -/

/-- A store and a history that lead to each other by what can happen. -/
inductive Reaches : List Event → ConfigStore → Prop where
  | start : Reaches [] .empty
  | step {history : List Event} {s next : ConfigStore} {event : Event}
      (hreach : Reaches history s) (hhappens : Happens s event next) :
    Reaches (event :: history) next

section History

variable {history : List Event} {s : ConfigStore} {event : Event} {model : String}
  {config : Kept ModelConfig}

/-- The last call is the latest fetch, or it leaves the latest fetch as it is. -/
theorem latest_cons : Latest (event :: history) model config ↔
    (∃ rows, event.Fetches model rows config) ∨
      ¬ event.Touches model ∧ Latest history model config := by
  constructor
  · rintro ⟨later, found, earlier, rows, hsplit, hfetches, hlater⟩
    rcases List.cons_eq_append_iff.mp hsplit with ⟨rfl, hcons⟩ | ⟨rest, rfl, hrest⟩
    · cases hcons
      exact .inl ⟨rows, hfetches⟩
    · refine .inr ⟨hlater event List.mem_cons_self, rest, found, earlier, rows, hrest, hfetches, ?_⟩
      intro e he
      exact hlater e (List.mem_cons_of_mem event he)
  · rintro (⟨rows, hfetches⟩ | ⟨htouches, later, found, earlier, rows, rfl, hfetches, hlater⟩)
    · refine ⟨[], event, history, rows, rfl, hfetches, ?_⟩
      intro e he
      exact absurd he List.not_mem_nil
    · refine ⟨event :: later, found, earlier, rows, rfl, hfetches, ?_⟩
      intro e he
      rcases List.mem_cons.mp he with rfl | he
      · exact htouches
      · exact hlater e he

/-- The last call forgets every fetch, or it is none and all others are forgotten. -/
theorem forgotten_cons : Forgotten (event :: history) model ↔
    event.Invalidates model ∨ ¬ event.Touches model ∧ Forgotten history model := by
  constructor
  · intro h
    by_cases hinvalidates : event.Invalidates model
    · exact .inl hinvalidates
    refine .inr ⟨?_, ?_⟩
    · rintro (hdrops | ⟨rows, config, hfetches⟩)
      · exact hinvalidates hdrops
      · -- A fetch in the last call would have nothing behind it that forgets it.
        obtain ⟨e, he, -⟩ := h [] event history rows config rfl hfetches
        exact List.not_mem_nil he
    · intro later found earlier rows config hsplit hfetches
      obtain ⟨e, he, hdrops⟩ :=
        h (event :: later) found earlier rows config (congrArg (event :: ·) hsplit) hfetches
      rcases List.mem_cons.mp he with rfl | he
      · exact absurd hdrops hinvalidates
      · exact ⟨e, he, hdrops⟩
  · intro h later found earlier rows config hsplit hfetches
    rcases List.cons_eq_append_iff.mp hsplit with ⟨rfl, hcons⟩ | ⟨rest, rfl, hrest⟩
    · cases hcons
      rcases h with hinvalidates | ⟨htouches, -⟩
      · exact absurd hinvalidates hfetches.not_invalidates
      · exact absurd (.inr ⟨rows, config, hfetches⟩) htouches
    · rcases h with hinvalidates | ⟨-, hforgotten⟩
      · exact ⟨event, List.mem_cons_self, hinvalidates⟩
      · obtain ⟨e, he, hdrops⟩ := hforgotten rest found earlier rows config hrest hfetches
        exact ⟨e, List.mem_cons_of_mem event he, hdrops⟩

/-- What is kept for a model is what was fetched last and not forgotten since. -/
theorem Reaches.cached_iff (h : Reaches history s) :
    s.cached? model = some config ↔ Latest history model config := by
  induction h with
  | start =>
    constructor
    · intro hkept
      cases hkept
    · rintro ⟨later, found, earlier, rows, hsplit, -⟩
      cases later <;> cases hsplit
  | @step history s next event _ hhappens ih =>
    rw [latest_cons]
    -- Either the call settles what is kept for the model, or both sides are as they were before it.
    by_cases htouches : event.Touches model
    · rw [or_iff_left fun h ↦ h.1 htouches]
      rcases htouches with hinvalidates | ⟨rows, found, hfetches⟩
      · rw [hhappens.cached?_of_invalidates hinvalidates]
        have hnone : ¬ ∃ rows, event.Fetches model rows config := by
          rintro ⟨rows, hfetches⟩
          exact hfetches.not_invalidates hinvalidates
        exact iff_of_false nofun hnone
      · rw [hhappens.cached?_of_fetches hfetches, Option.some.injEq]
        constructor
        · rintro rfl
          exact ⟨rows, hfetches⟩
        · rintro ⟨rows', hfetches'⟩
          exact hfetches.config_eq hfetches'
    · have hother : ¬ ∃ rows, event.Fetches model rows config := by
        rintro ⟨rows, hfetches⟩
        exact htouches (.inr ⟨rows, config, hfetches⟩)
      rw [hhappens.cached?_of_not_touches htouches, ih, or_iff_right hother, and_iff_right htouches]

theorem Reaches.cached_none_iff (h : Reaches history s) :
    s.cached? model = none ↔ Forgotten history model := by
  induction h with
  | start =>
    refine iff_of_true rfl ?_
    intro later found earlier rows config hsplit
    cases later <;> cases hsplit
  | @step history s next event _ hhappens ih =>
    rw [forgotten_cons]
    by_cases htouches : event.Touches model
    · rw [or_iff_left fun h ↦ h.1 htouches]
      rcases htouches with hinvalidates | ⟨rows, found, hfetches⟩
      · exact iff_of_true (hhappens.cached?_of_invalidates hinvalidates) hinvalidates
      · rw [hhappens.cached?_of_fetches hfetches]
        exact iff_of_false nofun hfetches.not_invalidates
    · rw [hhappens.cached?_of_not_touches htouches, ih, and_iff_right htouches,
        or_iff_right fun h ↦ htouches (.inl h)]

theorem Reaches.assembled (h : Reaches history s) (hmem : event ∈ history) {rows : List TagRow}
    (hfetches : event.Fetches model rows config) : config.value = .assemble model rows := by
  induction h with
  | start => cases hmem
  | step _ hhappens ih =>
    rcases List.mem_cons.mp hmem with rfl | hmem
    · exact hhappens.value_of_fetches hfetches
    · exact ih hmem

/-- The serial numbers of the objects of a session count down to its first object. -/
theorem Reaches.serials (h : Reaches history s) :
    (history.filterMap Event.made?).map Kept.serial = (List.range s.made).reverse := by
  induction h with
  | start => rfl
  | @step history s next event _ hhappens ih =>
    have hmade : (event :: history).filterMap Event.made? =
        event.made?.toList ++ history.filterMap Event.made? := by
      rw [List.filterMap_cons]
      cases event.made? <;> rfl
    rw [hmade]
    exact hhappens.serials _ ih

end History

namespace Session

/-- The source is asked at most once, and its answer is the next one. -/
theorem answer?_call (s : ConfigStore) (answer : Answer) (c : Call) :
    (s.call answer c).1.answer? = none ∨ (s.call answer c).1.answer? = some answer := by
  cases c with
  | get model refresh => exact (ite_eq_or_eq (s.fetches model refresh = true) _ _).symm
  | cached model => exact .inl rfl
  | invalidate model => exact .inl rfl

variable (answers : Nat → Answer) (calls : List Call)

/-- The store of a session is reached by its history. -/
theorem reaches_run : Reaches (run answers calls).history (run answers calls).store := by
  apply List.foldlRecOn (motive := fun s ↦ Reaches s.history s.store) calls (step answers) .start
  intro s hreach c _
  exact .step hreach (happens_call _ _ c)

theorem calls_run : (run answers calls).history.map Event.call = calls.reverse := by
  rw [run]
  refine calls_foldl rfl (fun s c ↦ ?_) calls
  cases c <;> rfl

theorem taken_run : (run answers calls).taken =
    ((List.range (run answers calls).taken.length).map answers).reverse := by
  rw [run]
  refine taken_foldl rfl (fun s c ↦ ?_) calls
  rcases answer?_call s.store (answers s.taken.length) c with hnone | hsome
  · exact .inl (List.filterMap_cons_none hnone)
  · exact .inr (List.filterMap_cons_some hsome)

/-- The store of every session is a cache of what the source has answered. -/
theorem run_isCache : (run answers calls).IsCache answers calls := by
  have hreaches := reaches_run answers calls
  refine ⟨calls_run answers calls, taken_run answers calls,
    fun model config ↦ hreaches.cached_iff, fun model ↦ hreaches.cached_none_iff,
    fun event hmem model rows config ↦ hreaches.assembled hmem, ?_,
    fun model refresh answer ↦ isFetch_call_get, ?_, ?_, ?_, ?_⟩
  · rw [hreaches.serials, List.nodup_reverse]
    exact List.nodup_range
  · intro model config answer hkept
    have hasks : ¬ (run answers calls).store.fetches model false = true := by
      rw [fetches_iff, hkept]
      simp
    rw [call, get_of_cached hkept, if_neg hasks]
  · intro model refresh rows hfetch
    have hasks := isFetch_call_get.mp hfetch
    refine ⟨((run answers calls).store.keep model rows).1, refresh, ?_⟩
    rw [call, get_of_fetches hasks, if_pos (fetches_iff.mpr hasks)]
  · intro model refresh error hfetch
    have hasks := isFetch_call_get.mp hfetch
    rw [call, get_of_fetches hasks, if_pos (fetches_iff.mpr hasks)]
  · intro c named model answer hnames hne
    exact (happens_call (run answers calls).store answer c).cached?_of_not_touches
      (not_touches_call hnames hne)

end Session

end FieldTags.ConfigStore
