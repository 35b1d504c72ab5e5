import FieldTags.Expression.Parser
import Mathlib.Tactic.Common

/-!
# What running a parser ensures

A run of a parser ends in a result or in an error, and in a state in both cases. A contract names
what holds in either case. The contract of a sequence comes down to contracts of its steps, and each
basic step has its contract here, so that the readers of the grammar are opened only once: what they
ensure follows from what the readers that they call ensure.
-/

namespace FieldTags.Parser

variable {α β : Type}

/-- From `s` the parser ends in a result with `success`, or in an error with `failure`. -/
def Ensures (m : Parser α) (s : ParserState) (success : α → ParserState → Prop)
    (failure : ExpressionError → ParserState → Prop) : Prop :=
  match m s with
  | .ok a s' => success a s'
  | .error e s' => failure e s'

def nextPunctuator? : List ExpressionToken → Option Punctuator
  | ⟨.punctuator p, _⟩ :: _ => some p
  | _ => none

def nextName? : List ExpressionToken → Option String
  | ⟨.name name, _⟩ :: _ => some name
  | _ => none

@[simp]
theorem nextPunctuator?_nil : nextPunctuator? [] = none := rfl

@[simp]
theorem nextPunctuator?_cons (p : Punctuator) (offset : Nat) (rest : List ExpressionToken) :
    nextPunctuator? (⟨.punctuator p, offset⟩ :: rest) = some p := rfl

/-- A punctuator that comes next is the head of the tokens that are left. -/
theorem eq_cons_of_nextPunctuator? {rest : List ExpressionToken} {p : Punctuator}
    (h : nextPunctuator? rest = some p) :
    ∃ offset, rest = ⟨.punctuator p, offset⟩ :: rest.tail := by
  match rest with
  | [] => exact absurd h (by simp [nextPunctuator?])
  | ⟨.number _, _⟩ :: _ => exact absurd h (by simp [nextPunctuator?])
  | ⟨.text _, _⟩ :: _ => exact absurd h (by simp [nextPunctuator?])
  | ⟨.name _, _⟩ :: _ => exact absurd h (by simp [nextPunctuator?])
  | ⟨.punctuator q, offset⟩ :: tail =>
    have hq : q = p := by simpa using h
    exact ⟨offset, by rw [hq, List.tail_cons]⟩

/-- A name that comes next is the head of the tokens that are left. -/
theorem eq_cons_of_nextName? {rest : List ExpressionToken} {name : String}
    (h : nextName? rest = some name) :
    ∃ offset, rest = ⟨.name name, offset⟩ :: rest.tail := by
  match rest with
  | [] => exact absurd h (by simp [nextName?])
  | ⟨.number _, _⟩ :: _ => exact absurd h (by simp [nextName?])
  | ⟨.text _, _⟩ :: _ => exact absurd h (by simp [nextName?])
  | ⟨.punctuator _, _⟩ :: _ => exact absurd h (by simp [nextName?])
  | ⟨.name word, offset⟩ :: tail =>
    have hword : word = name := by simpa [nextName?] using h
    exact ⟨offset, by rw [hword, List.tail_cons]⟩

theorem nextPunctuator?_eq_some_iff {rest : List ExpressionToken} {p : Punctuator} :
    nextPunctuator? rest = some p ↔
      rest.head?.map ExpressionToken.kind = some (.punctuator p) := by
  match rest with
  | [] => simp
  | ⟨.number _, _⟩ :: _ => simp [nextPunctuator?]
  | ⟨.text _, _⟩ :: _ => simp [nextPunctuator?]
  | ⟨.name _, _⟩ :: _ => simp [nextPunctuator?]
  | ⟨.punctuator q, _⟩ :: _ => simp

/-- What a run ensures may be weakened. -/
theorem Ensures.mono {m : Parser α} {s : ParserState} {success success' : α → ParserState → Prop}
    {failure failure' : ExpressionError → ParserState → Prop} (h : Ensures m s success failure)
    (hsuccess : ∀ a s', success a s' → success' a s')
    (hfailure : ∀ e s', failure e s' → failure' e s') : Ensures m s success' failure' := by
  unfold Ensures at h ⊢
  cases hm : m s with
  | ok a s' =>
    rw [hm] at h
    exact hsuccess a s' h
  | error e s' =>
    rw [hm] at h
    exact hfailure e s' h

/-- If only success is weakened, errors stay what they are. -/
theorem Ensures.imp {m : Parser α} {s : ParserState} {success success' : α → ParserState → Prop}
    {failure : ExpressionError → ParserState → Prop} (h : Ensures m s success failure)
    (hsuccess : ∀ a s', success a s' → success' a s') : Ensures m s success' failure :=
  h.mono hsuccess fun _ _ hfailure ↦ hfailure

/-- Two things that a run ensures hold together. -/
theorem Ensures.and {m : Parser α} {s : ParserState} {success success' : α → ParserState → Prop}
    {failure failure' : ExpressionError → ParserState → Prop} (h : Ensures m s success failure)
    (h' : Ensures m s success' failure') :
    Ensures m s (fun a s' ↦ success a s' ∧ success' a s')
      fun e s' ↦ failure e s' ∧ failure' e s' := by
  unfold Ensures at h h' ⊢
  cases hm : m s with
  | ok a s' =>
    rw [hm] at h h'
    exact ⟨h, h'⟩
  | error e s' =>
    rw [hm] at h h'
    exact ⟨h, h'⟩

section Steps

variable {s : ParserState} {failure : ExpressionError → ParserState → Prop}

theorem ensures_pure (a : α) {success : α → ParserState → Prop} :
    Ensures (pure a) s success failure ↔ success a s := Iff.rfl

theorem ensures_throw (e : ExpressionError) {success : α → ParserState → Prop} :
    Ensures (throw e) s success failure ↔ failure e s := Iff.rfl

/-- A sequence ensures what its second part ensures from wherever its first part ends. -/
theorem ensures_bind (m : Parser α) (f : α → Parser β) {success : β → ParserState → Prop} :
    Ensures (m >>= f) s success failure ↔
      Ensures m s (fun a s' ↦ Ensures (f a) s' success failure) failure := by
  have hbind : (m >>= f) s = EStateM.bind m f s := rfl
  unfold Ensures
  rw [hbind, EStateM.bind]
  cases m s <;> rfl

theorem ensures_get {success : ParserState → ParserState → Prop} :
    Ensures get s success failure ↔ success s s := Iff.rfl

theorem ensures_skip {success : Unit → ParserState → Prop} :
    Ensures skip s success failure ↔ success () ⟨s.rest.tail, s.depth⟩ := Iff.rfl

theorem ensures_leaveTo (depth : Nat) {success : Unit → ParserState → Prop} :
    Ensures (leaveTo depth) s success failure ↔ success () ⟨s.rest, depth⟩ := Iff.rfl

theorem ensures_next? {success : Option ExpressionToken → ParserState → Prop} :
    Ensures next? s success failure ↔ success s.rest.head? ⟨s.rest.tail, s.depth⟩ := Iff.rfl

theorem ensures_peek {success : Option Punctuator → ParserState → Prop} :
    Ensures peek s success failure ↔ success (nextPunctuator? s.rest) s := by
  have hrun : peek s = .ok (nextPunctuator? s.rest) s := by
    obtain ⟨rest, depth⟩ := s
    match rest with
    | [] => rfl
    | ⟨.number _, _⟩ :: _ => rfl
    | ⟨.text _, _⟩ :: _ => rfl
    | ⟨.name _, _⟩ :: _ => rfl
    | ⟨.punctuator _, _⟩ :: _ => rfl
  rw [Ensures, hrun]

theorem ensures_eat (p : Punctuator) {success : Bool → ParserState → Prop} :
    Ensures (eat p) s success failure ↔
      if nextPunctuator? s.rest = some p then success true ⟨s.rest.tail, s.depth⟩
      else success false s := by
  rw [eat, ensures_bind, ensures_peek]
  split <;> rfl

theorem ensures_expect (p : Punctuator) {success : Unit → ParserState → Prop} :
    Ensures (expect p) s success failure ↔
      if nextPunctuator? s.rest = some p then success () ⟨s.rest.tail, s.depth⟩
      else failure (unexpected s.rest.head? p.text) ⟨s.rest.tail, s.depth⟩ := by
  rw [expect, ensures_bind, ensures_next?]
  simp only [nextPunctuator?_eq_some_iff]
  split <;> rfl

theorem ensures_enter {success : Unit → ParserState → Prop} :
    Ensures enter s success failure ↔
      if s.depth < maxDepth then success () ⟨s.rest, s.depth + 1⟩
      else failure .tooDeep ⟨s.rest, s.depth + 1⟩ := by
  have hrun : Ensures enter s success failure ↔
      Ensures (if s.depth + 1 > maxDepth then throw .tooDeep else pure ())
        ⟨s.rest, s.depth + 1⟩ success failure := Iff.rfl
  rw [hrun]
  by_cases h : s.depth < maxDepth
  · rw [if_neg (by omega), if_pos h, ensures_pure]
  · rw [if_pos (by omega), if_neg h, ensures_throw]

theorem ensures_propertyName {success : String → ParserState → Prop} :
    Ensures propertyName s success failure ↔
      match nextName? s.rest with
      | some name => success name ⟨s.rest.tail, s.depth⟩
      | none => failure (unexpected s.rest.head? "property name") ⟨s.rest.tail, s.depth⟩ := by
  rw [propertyName, ensures_bind, ensures_next?]
  obtain ⟨rest, depth⟩ := s
  match rest with
  | [] => rfl
  | ⟨.number _, _⟩ :: _ => rfl
  | ⟨.text _, _⟩ :: _ => rfl
  | ⟨.name _, _⟩ :: _ => rfl
  | ⟨.punctuator _, _⟩ :: _ => rfl

end Steps

end FieldTags.Parser
