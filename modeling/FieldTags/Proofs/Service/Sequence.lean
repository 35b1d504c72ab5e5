import Mathlib.Tactic.Common

/-!
# Sequences of calls

A session starts in some state and makes one call after the other. What every call adds to the history
is added by a sequence of calls in its order, and answers that are taken one at a time, each of them
the next one, have been taken in their order.
-/

namespace FieldTags

variable {Session Call Event Answer : Type} {start : Session} {step : Session → Call → Session}

/-- Where every call is put in front of those before it, a sequence of calls stands there in
reverse. -/
theorem calls_foldl {history : Session → List Event} {call : Event → Call}
    (hstart : history start = [])
    (hstep : ∀ s c, (history (step s c)).map call = c :: (history s).map call)
    (calls : List Call) : (history (calls.foldl step start)).map call = calls.reverse := by
  have hall (s : Session) :
      (history (calls.foldl step s)).map call = calls.reverse ++ (history s).map call := by
    induction calls generalizing s with
    | nil => rfl
    | cons c calls ih =>
      rw [List.foldl_cons, ih, hstep, List.reverse_cons, List.append_assoc, List.singleton_append]
  rw [hall, hstart, List.map_nil, List.append_nil]

/-- Where every call takes no answer or the one after those that have been taken, the answers that
have been taken are the first ones, the last of them in front. -/
theorem taken_foldl {taken : Session → List Answer} {answers : Nat → Answer}
    (hstart : taken start = [])
    (hstep : ∀ s c, taken (step s c) = taken s ∨
      taken (step s c) = answers (taken s).length :: taken s)
    (calls : List Call) :
    taken (calls.foldl step start) =
      ((List.range (taken (calls.foldl step start)).length).map answers).reverse := by
  apply List.foldlRecOn (motive := fun s ↦
    taken s = ((List.range (taken s).length).map answers).reverse) calls step
  · rw [hstart]
    rfl
  · intro s hs c _
    rcases hstep s c with htaken | htaken
    · rw [htaken]
      exact hs
    · rw [htaken, List.length_cons, List.range_succ, List.map_append, List.reverse_append, ← hs]
      rfl

end FieldTags
