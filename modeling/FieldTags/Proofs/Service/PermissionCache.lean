import FieldTags.Proofs.Service.Sequence
import FieldTags.Service.Store
import Mathlib.Tactic.Common

/-!
# What a store of permissions answers

A store is used by one call after the other, and the source answers the fetches among them in any
way. A call that needs the permissions uses the set that was fetched last since they were cleared,
and does not fetch, unless there is no such set or a refresh is forced. Then it fetches once: a set
that comes is used and remembered, and a fetch that fails counts as no permissions and leaves what
is remembered as it was. So nothing that was fetched before the permissions were cleared decides
anything after it, and what is remembered has always been fetched.
-/

namespace FieldTags.PermissionStore

/-! ## Calls and what comes of them -/

/-- What the source answers to a fetch. -/
abbrev Answer := Except ServiceError PermissionSet

/-- A call on a store: it asks for the permissions, asks whether they allow a button, or forgets
them. -/
inductive Call where
  | get (refresh : Bool)
  | isAuthorized (b : ButtonId) (model : String) (mapped : Option (OrderedMap String))
  | clear

/-- A call that has been made, with what it returned and, if the source was asked, with its
answer. -/
inductive Event where
  | get (refresh : Bool) (answer : Option Answer) (result : Kept PermissionSet)
  | isAuthorized (b : ButtonId) (model : String) (mapped : Option (OrderedMap String))
      (answer : Option Answer) (result : Bool)
  | clear

namespace Event

def call : Event → Call
  | .get refresh _ _ => .get refresh
  | .isAuthorized b model mapped _ _ => .isAuthorized b model mapped
  | .clear => .clear

/-- What the source answered, if it was asked. -/
def answer? : Event → Option Answer
  | .get _ answer _ => answer
  | .isAuthorized _ _ _ answer _ => answer
  | .clear => none

def fetched? (event : Event) : Option PermissionSet :=
  event.answer?.bind Except.toOption

/-- What the call returned is what these permissions give. -/
def RestsOn (permissions : PermissionSet) : Event → Prop
  | .get _ _ result => result.value = permissions
  | .isAuthorized b model mapped _ result => result = b.isAuthorized permissions model mapped
  | .clear => True

end Event

/-- The result of a call and the answer that it took from the source, if it asked. -/
def call (s : PermissionStore) (answer : Answer) : Call → Event × PermissionStore
  | .get refresh =>
    let (result, next) := s.get refresh answer
    (.get refresh (if s.fetches refresh then some answer else none) result, next)
  | .isAuthorized b model mapped =>
    let (result, next) := s.isAuthorized b model mapped answer
    (.isAuthorized b model mapped (if s.fetches false then some answer else none) result, next)
  | .clear => (.clear, s.clear)

/-! ## Sessions -/

/-- A store in use. -/
structure Session where
  store : PermissionStore
  /-- What has been called, last first. -/
  history : List Event

namespace Session

def start : Session := ⟨.empty, []⟩

/-- The answers that the source has given, last first. -/
def taken (s : Session) : List Answer :=
  s.history.filterMap Event.answer?

/-- The session with one more call, where `answers n` answers the fetch after `n` others. -/
def step (answers : Nat → Answer) (s : Session) (c : Call) : Session :=
  let (event, next) := s.store.call (answers s.taken.length) c
  ⟨next, event :: s.history⟩

def run (answers : Nat → Answer) (calls : List Call) : Session :=
  calls.foldl (step answers) start

end Session

/-- The permissions were fetched last, and they have not been cleared since. -/
def Latest (history : List Event) (permissions : PermissionSet) : Prop :=
  ∃ later event earlier, history = later ++ event :: earlier ∧
    event.fetched? = some permissions ∧ ∀ e ∈ later, e.fetched? = none ∧ e ≠ .clear

/-- The permissions that a call uses behind a history, and what the source answers to it. -/
inductive Uses (history : List Event) : Bool → Option Answer → PermissionSet → Prop where
  /-- What was fetched last is used, and nothing is fetched. -/
  | remembered {permissions : PermissionSet} (hlatest : Latest history permissions) :
    Uses history false none permissions
  /-- A set is fetched and used. -/
  | fetched {refresh : Bool} (permissions : PermissionSet)
      (hask : refresh = true ∨ ∀ other, ¬ Latest history other) :
    Uses history refresh (some (.ok permissions)) permissions
  /-- A fetch fails, and there are no permissions. -/
  | failed {refresh : Bool} (error : ServiceError)
      (hask : refresh = true ∨ ∀ other, ¬ Latest history other) :
    Uses history refresh (some (.error error)) .empty

/-- What a call returned is what the permissions give that it has to use behind a history. -/
def Event.Follows (history : List Event) (event : Event) : Prop :=
  match event with
  | .get refresh answer result => Uses history refresh answer result.value
  | .isAuthorized b model mapped answer result =>
    ∃ permissions, Uses history false answer permissions ∧
      result = b.isAuthorized permissions model mapped
  | .clear => True

/-- The session has made these calls with these answers; it fails closed and forgets. -/
structure Session.FailsClosed (s : Session) (answers : Nat → Answer) (calls : List Call) :
    Prop where
  /-- All calls have been made, in their order. -/
  calls_eq : s.history.map Event.call = calls.reverse
  /-- The answers have been taken in their order, at most one for each call. -/
  taken_eq : s.taken = ((List.range s.taken.length).map answers).reverse
  /-- What is remembered was fetched last, and has not been cleared since. -/
  remembered_iff : ∀ permissions,
    s.store.current.map Kept.value = some permissions ↔ Latest s.history permissions
  /-- Every call has used what it had to use behind the calls before it. -/
  follows : ∀ later event earlier, s.history = later ++ event :: earlier → event.Follows earlier
  /-- Where a fetch failed, every button was denied. -/
  denied : ∀ b model mapped error result,
    .isAuthorized b model mapped (some (.error error)) result ∈ s.history → result = false
  /-- What a call returned after the permissions were cleared rests on a set that has been fetched
  after it, or on none. -/
  forgets : ∀ later event between before,
    s.history = later ++ event :: (between ++ .clear :: before) →
    ∃ permissions, event.RestsOn permissions ∧
      (permissions = .empty ∨ ∃ e ∈ event :: between, e.fetched? = some permissions)
  /-- What is remembered has been fetched. -/
  remembers_fetched : ∀ kept, s.store.current = some kept →
    ∃ event ∈ s.history, event.fetched? = some kept.value

/-! ## One call -/

/-- How permissions are come by: the set, the answer of the source and the store after it. -/
inductive Asks (s : PermissionStore) :
    Bool → Option Answer → Kept PermissionSet → PermissionStore → Prop where
  | hit {kept : Kept PermissionSet} (hkept : s.current = some kept) : Asks s false none kept s
  | fetched {refresh : Bool} (permissions : PermissionSet)
      (hask : refresh = true ∨ s.current = none) :
    Asks s refresh (some (.ok permissions)) ⟨s.made, permissions⟩
      ⟨some ⟨s.made, permissions⟩, s.made + 1⟩
  | failed {refresh : Bool} (error : ServiceError) (hask : refresh = true ∨ s.current = none) :
    Asks s refresh (some (.error error)) ⟨s.made, .empty⟩ ⟨s.current, s.made + 1⟩

/-- What can happen to a store in one call. -/
inductive Happens (s : PermissionStore) : Event → PermissionStore → Prop where
  | got {refresh : Bool} {answer : Option Answer} {used : Kept PermissionSet}
      {next : PermissionStore} (hasks : Asks s refresh answer used next) :
    Happens s (.get refresh answer used) next
  | decided {b : ButtonId} {model : String} {mapped : Option (OrderedMap String)}
      {answer : Option Answer} {used : Kept PermissionSet} {next : PermissionStore}
      (hasks : Asks s false answer used next) :
    Happens s (.isAuthorized b model mapped answer (b.isAuthorized used.value model mapped)) next
  | cleared : Happens s .clear s.clear

section Happens

variable {s next : PermissionStore} {refresh : Bool} {answer : Option Answer} {event : Event}
  {used : Kept PermissionSet} {permissions : PermissionSet}

theorem fetches_iff_current : s.fetches refresh = true ↔ refresh = true ∨ s.current = none := by
  rw [fetches, Bool.or_eq_true, Option.isNone_iff_eq_none]

/-- Asking for the permissions does one of three things. -/
theorem asks_get (s : PermissionStore) (refresh : Bool) (answer : Answer) :
    Asks s refresh (if s.fetches refresh then some answer else none) (s.get refresh answer).1
      (s.get refresh answer).2 := by
  by_cases hask : refresh = true ∨ s.current = none
  · have hnone : (if refresh then none else s.current) = none := by
      rcases hask with hrefresh | hcurrent
      · simp [hrefresh]
      · simp [hcurrent]
    unfold get
    rw [if_pos (fetches_iff_current.mpr hask), hnone]
    cases answer with
    | ok permissions => exact .fetched permissions hask
    | error error => exact .failed error hask
  · rw [if_neg (mt fetches_iff_current.mp hask)]
    obtain ⟨hrefresh, hcurrent⟩ := not_or.mp hask
    obtain ⟨kept, hkept⟩ := Option.ne_none_iff_exists'.mp hcurrent
    rw [Bool.not_eq_true] at hrefresh
    have hget : s.get false answer = (kept, s) := by simp [get, hkept]
    rw [hrefresh, hget]
    exact .hit hkept

/-- A call does one of the things that can happen. -/
theorem happens_call (s : PermissionStore) (answer : Answer) (c : Call) :
    Happens s (s.call answer c).1 (s.call answer c).2 := by
  cases c with
  | get refresh => exact .got (asks_get s refresh answer)
  | isAuthorized b model mapped => exact .decided (asks_get s false answer)
  | clear => exact .cleared

/-- Asking leaves what is remembered as it is, unless a set is fetched. -/
theorem Asks.current_eq (h : Asks s refresh answer used next) :
    next.current.map Kept.value =
      ((answer.bind Except.toOption).or (s.current.map Kept.value)) := by
  cases h <;> rfl

/-- A call remembers what it fetches, forgets all if it clears, and changes nothing else. -/
theorem Happens.current_eq (h : Happens s event next) :
    next.current.map Kept.value = some permissions ↔
      event.fetched? = some permissions ∨
        (event.fetched? = none ∧ event ≠ .clear) ∧
          s.current.map Kept.value = some permissions := by
  cases h with
  | got hasks =>
    rw [hasks.current_eq, Option.or_eq_some_iff]
    simp [Event.fetched?, Event.answer?]
  | decided hasks =>
    rw [hasks.current_eq, Option.or_eq_some_iff]
    simp [Event.fetched?, Event.answer?]
  | cleared => simp [clear, Event.fetched?, Event.answer?]

end Happens

/-! ## Histories -/

/-- A store and a history that lead to each other by what can happen. -/
inductive Reaches : List Event → PermissionStore → Prop where
  | start : Reaches [] .empty
  | step {history : List Event} {s next : PermissionStore} {event : Event}
      (hreach : Reaches history s) (hhappens : Happens s event next) :
    Reaches (event :: history) next

section History

variable {history : List Event} {s : PermissionStore} {event : Event} {refresh : Bool}
  {answer : Option Answer} {used : Kept PermissionSet} {permissions : PermissionSet}

theorem not_latest_nil : ¬ Latest [] permissions := by
  rintro ⟨later, event, earlier, hsplit, -⟩
  simp at hsplit

/-- The last call fetched the latest permissions, or it leaves them as they are. -/
theorem latest_cons : Latest (event :: history) permissions ↔
    event.fetched? = some permissions ∨
      (event.fetched? = none ∧ event ≠ .clear) ∧ Latest history permissions := by
  constructor
  · rintro ⟨later, found, earlier, hsplit, hfetched, hlater⟩
    rcases List.cons_eq_append_iff.mp hsplit with ⟨rfl, hcons⟩ | ⟨rest, rfl, hrest⟩
    · cases hcons
      exact .inl hfetched
    · refine .inr ⟨hlater event List.mem_cons_self, rest, found, earlier, hrest, hfetched, ?_⟩
      intro e he
      exact hlater e (List.mem_cons_of_mem event he)
  · rintro (hfetched | ⟨hkeeps, later, found, earlier, rfl, hfetched, hlater⟩)
    · exact ⟨[], event, history, rfl, hfetched, by simp⟩
    · refine ⟨event :: later, found, earlier, rfl, hfetched, ?_⟩
      simp only [List.mem_cons, forall_eq_or_imp]
      exact ⟨hkeeps, hlater⟩

/-- What was fetched last has been fetched since the permissions were cleared. -/
theorem exists_fetched_of_latest {between before : List Event}
    (h : Latest (between ++ .clear :: before) permissions) :
    ∃ e ∈ between, e.fetched? = some permissions := by
  induction between with
  | nil =>
    rcases latest_cons.mp h with hfetched | ⟨⟨-, hclear⟩, -⟩
    · cases hfetched
    · exact absurd rfl hclear
  | cons e between ih =>
    rcases latest_cons.mp h with hfetched | ⟨-, hlatest⟩
    · exact ⟨e, List.mem_cons_self, hfetched⟩
    · obtain ⟨found, hmem, hfetched⟩ := ih hlatest
      exact ⟨found, List.mem_cons_of_mem e hmem, hfetched⟩

/-- What is remembered is what was fetched last and not cleared since. -/
theorem Reaches.remembered_iff (h : Reaches history s) :
    s.current.map Kept.value = some permissions ↔ Latest history permissions := by
  induction h with
  | start => exact iff_of_false nofun not_latest_nil
  | step _ hhappens ih => rw [hhappens.current_eq, latest_cons, ih]

theorem Reaches.current_eq_none_iff (h : Reaches history s) :
    s.current = none ↔ ∀ other, ¬ Latest history other := by
  rw [← Option.map_eq_none_iff (f := Kept.value), Option.eq_none_iff_forall_ne_some]
  exact forall_congr' fun other ↦ not_congr h.remembered_iff

/-- Behind its history a store gives the permissions that have to be used. -/
theorem Asks.uses (h : Asks s refresh answer used next) (hreach : Reaches history s) :
    Uses history refresh answer used.value := by
  cases h with
  | hit hkept =>
    apply Uses.remembered
    rw [← hreach.remembered_iff, hkept]
    rfl
  | fetched permissions hask =>
    rw [hreach.current_eq_none_iff] at hask
    exact .fetched permissions hask
  | failed error hask =>
    rw [hreach.current_eq_none_iff] at hask
    exact .failed error hask

theorem Happens.follows (h : Happens s event next) (hreach : Reaches history s) :
    event.Follows history := by
  cases h with
  | got hasks => exact hasks.uses hreach
  | decided hasks => exact ⟨_, hasks.uses hreach, rfl⟩
  | cleared => trivial

/-- Every call of a history has used what it had to use. -/
theorem Reaches.follows (h : Reaches history s) {later earlier : List Event}
    (hsplit : history = later ++ event :: earlier) : event.Follows earlier := by
  induction h generalizing later with
  | start => simp at hsplit
  | step hreach hhappens ih =>
    rcases List.cons_eq_append_iff.mp hsplit with ⟨rfl, hcons⟩ | ⟨rest, rfl, hrest⟩
    · cases hcons
      exact hhappens.follows hreach
    · exact ih hrest

end History

/-! ## What follows for a call -/

section Follows

variable {event : Event} {history : List Event}

/-- Without permissions no button is allowed. -/
theorem isAuthorized_empty (b : ButtonId) (model : String) (mapped : Option (OrderedMap String)) :
    b.isAuthorized .empty model mapped = false := by
  unfold ButtonId.isAuthorized
  split <;> rfl

/-- The permissions that a call uses are those that were fetched last or that it has fetched
itself, or there are none. -/
theorem Uses.cases_permissions {refresh : Bool} {answer : Option Answer}
    {permissions : PermissionSet} (h : Uses history refresh answer permissions) :
    Latest history permissions ∨ answer.bind Except.toOption = some permissions ∨
      permissions = .empty := by
  cases h with
  | remembered hlatest => exact .inl hlatest
  | fetched permissions hask => exact .inr (.inl rfl)
  | failed error hask => exact .inr (.inr rfl)

/-- What a call returned rests on permissions that were fetched last or that it has fetched itself,
or on none. -/
theorem Event.Follows.exists_restsOn (h : event.Follows history) :
    ∃ permissions, event.RestsOn permissions ∧
      (Latest history permissions ∨ event.fetched? = some permissions ∨ permissions = .empty) := by
  cases event with
  | get refresh answer result => exact ⟨result.value, rfl, h.cases_permissions⟩
  | isAuthorized b model mapped answer result =>
    obtain ⟨permissions, huses, hresult⟩ := h
    exact ⟨permissions, hresult, huses.cases_permissions⟩
  | clear => exact ⟨.empty, trivial, .inr (.inr rfl)⟩

end Follows

namespace Session

/-- The source is asked at most once, and its answer is the next one. -/
theorem answer?_call (s : PermissionStore) (answer : Answer) (c : Call) :
    (s.call answer c).1.answer? = none ∨ (s.call answer c).1.answer? = some answer := by
  cases c with
  | get refresh => exact (ite_eq_or_eq (s.fetches refresh = true) _ _).symm
  | isAuthorized b model mapped => exact (ite_eq_or_eq (s.fetches false = true) _ _).symm
  | clear => exact .inl rfl

variable (answers : Nat → Answer) (calls : List Call)

theorem reaches_run : Reaches (run answers calls).history (run answers calls).store := by
  apply List.foldlRecOn (motive := fun s ↦ Reaches s.history s.store) calls (step answers) .start
  intro s hreach c _
  exact .step hreach (happens_call _ _ c)

theorem calls_run : (run answers calls).history.map Event.call = calls.reverse := by
  rw [run]
  refine calls_foldl rfl (fun s c ↦ ?_) calls
  cases c <;> rfl

theorem taken_run : (run answers calls).taken =
    ((List.range (run answers calls).taken.length).map answers).reverse := by
  rw [run]
  refine taken_foldl rfl (fun s c ↦ ?_) calls
  rcases answer?_call s.store (answers s.taken.length) c with hnone | hsome
  · exact .inl (List.filterMap_cons_none hnone)
  · exact .inr (List.filterMap_cons_some hsome)

/-- Every session fails closed and forgets what was fetched before the permissions were cleared. -/
theorem run_failsClosed : (run answers calls).FailsClosed answers calls := by
  have hreaches := reaches_run answers calls
  refine ⟨calls_run answers calls, taken_run answers calls, fun permissions ↦ hreaches.remembered_iff,
    fun later event earlier ↦ hreaches.follows, ?_, ?_, ?_⟩
  · intro b model mapped error result hmem
    obtain ⟨later, earlier, hsplit⟩ := List.append_of_mem hmem
    obtain ⟨permissions, huses, rfl⟩ := hreaches.follows hsplit
    cases huses
    exact isAuthorized_empty b model mapped
  · intro later event between before hsplit
    obtain ⟨permissions, hrests, hused⟩ := (hreaches.follows hsplit).exists_restsOn
    refine ⟨permissions, hrests, ?_⟩
    rcases hused with hlatest | hfetched | hempty
    · obtain ⟨e, hmem, hfetched⟩ := exists_fetched_of_latest hlatest
      exact .inr ⟨e, List.mem_cons_of_mem event hmem, hfetched⟩
    · exact .inr ⟨event, List.mem_cons_self, hfetched⟩
    · exact .inl hempty
  · intro kept hkept
    have hlatest : Latest (run answers calls).history kept.value := by
      rw [← hreaches.remembered_iff, hkept]
      rfl
    obtain ⟨later, event, earlier, hsplit, hfetched, -⟩ := hlatest
    exact ⟨event, hsplit ▸ by simp, hfetched⟩

end Session

end FieldTags.PermissionStore
