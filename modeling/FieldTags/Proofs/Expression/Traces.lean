import FieldTags.Proofs.Expression.Soundness

/-!
# The course of reading

A run of a parser shows where it ends, but not where it has been, nor whether it has run out of
fuel. A traced parser is a parser that accounts for its runs: it lists the states that a run goes
through and says whether the run is completed without a call that has no fuel left. The readers of
the grammar are traced here, with one difference. Their conditionals and prefix operators go back to
the depth at which they began; the traced ones take one level off the depth that they find. Both are
the same because what is read in between gives its levels back.
-/

namespace FieldTags.Parser

variable {α β : Type}

/-- A parser that accounts for its runs. -/
structure Traced (α : Type) where
  parser : Parser α
  /-- The states that a run goes through, without the one that it starts from. -/
  states : ParserState → List ParserState
  /-- Whether a run makes no call for which there is no fuel left. -/
  completes : ParserState → Bool

namespace Traced

/-- A parser of which every run is a single step. -/
def step (m : Parser α) : Traced α where
  parser := m
  states s :=
    match m s with
    | .ok _ s' => [s']
    | .error _ s' => [s']
  completes _ := true

/-- A call for which there is no fuel left. -/
def exhausted : Traced α where
  parser := throw .tooDeep
  states _ := []
  completes _ := false

/-- A run of a sequence goes through the states of its first part and then, if that has a result,
through those of its second part. -/
instance : Monad Traced where
  pure a := ⟨pure a, fun _ ↦ [], fun _ ↦ true⟩
  bind x f :=
    { parser := x.parser >>= fun a ↦ (f a).parser
      states := fun s ↦
        match x.parser s with
        | .ok a s' => x.states s ++ (f a).states s'
        | .error _ _ => x.states s
      completes := fun s ↦
        match x.parser s with
        | .ok a s' => x.completes s && (f a).completes s'
        | .error _ _ => x.completes s }

theorem parser_pure (a : α) : (pure a : Traced α).parser = pure a := rfl

theorem parser_step (m : Parser α) : (step m).parser = m := rfl

theorem states_step (m : Parser α) (s : ParserState) :
    (step m).states s = match m s with
      | .ok _ s' => [s']
      | .error _ s' => [s'] := rfl

theorem parser_bind (x : Traced α) (f : α → Traced β) :
    (x >>= f).parser = x.parser >>= fun a ↦ (f a).parser := rfl

theorem states_bind (x : Traced α) (f : α → Traced β) (s : ParserState) :
    (x >>= f).states s = match x.parser s with
      | .ok a s' => x.states s ++ (f a).states s'
      | .error _ _ => x.states s := rfl

theorem completes_bind (x : Traced α) (f : α → Traced β) (s : ParserState) :
    (x >>= f).completes s = match x.parser s with
      | .ok a s' => x.completes s && (f a).completes s'
      | .error _ _ => x.completes s := rfl

end Traced

/-- Takes one level off the depth. -/
def leave : Parser Unit :=
  modify fun s ↦ { s with depth := s.depth - 1 }

namespace Traced

mutual

def conditional : Nat → Traced Expression
  | 0 => exhausted
  | fuel + 1 => do
    step enter
    let test ← binary fuel 1
    if ← step (eat .question) then
      let consequent ← conditional fuel
      step (expect .colon)
      let alternate ← conditional fuel
      step leave
      return .conditional test consequent alternate
    else
      step leave
      return test

def binary : Nat → Nat → Traced Expression
  | 0, _ => exhausted
  | fuel + 1, least => do
    let base := (← step get).depth
    let first ← unary fuel
    let result ← operatorChain fuel least first
    step (leaveTo base)
    return result

def operatorChain : Nat → Nat → Expression → Traced Expression
  | 0, _, _ => exhausted
  | fuel + 1, least, left => do
    match (← step peek).bind Punctuator.betweenOperands? with
    | none => return left
    | some (precedence, operator) =>
      if precedence < least then return left
      else
        step skip
        step enter
        let right ← binary fuel (precedence + 1)
        operatorChain fuel least (operator.apply left right)

def unary : Nat → Traced Expression
  | 0 => exhausted
  | fuel + 1 => do
    match (← step peek).bind Punctuator.beforeOperand? with
    | none => memberChain fuel
    | some operator =>
      step skip
      step enter
      let operand ← unary fuel
      step leave
      return .unary operator operand

def memberChain : Nat → Traced Expression
  | 0 => exhausted
  | fuel + 1 => do
    let base := (← step get).depth
    let root ← primary fuel
    let result ← links fuel root
    step (leaveTo base)
    return result

def links : Nat → Expression → Traced Expression
  | 0, _ => exhausted
  | fuel + 1, object => do
    match ← step peek with
    | some .openBracket =>
      step skip
      step enter
      let key ← conditional fuel
      step (expect .closeBracket)
      links fuel (.index object key false)
    | some .openParenthesis =>
      step (throw (.callNotAllowed (((← step get).rest.head?.map ExpressionToken.offset).getD 0)))
    | some .dot =>
      step skip
      step enter
      let name ← step propertyName
      links fuel (.member object name false)
    | some .optionalDot =>
      step skip
      step enter
      if ← step (eat .openBracket) then
        let key ← conditional fuel
        step (expect .closeBracket)
        links fuel (.index object key true)
      else
        let name ← step propertyName
        links fuel (.member object name true)
    | _ => return object

def primary : Nat → Traced Expression
  | 0 => exhausted
  | fuel + 1 => do
    match ← step next? with
    | some ⟨.number x, _⟩ => return .literal (.number x)
    | some ⟨.text s, _⟩ => return .literal (.text s)
    | some ⟨.name name, _⟩ => return .ofName name
    | some ⟨.punctuator .openParenthesis, _⟩ =>
      let inner ← conditional fuel
      step (expect .closeParenthesis)
      return inner
    | token => step (throw (unexpected token "expression"))

end

end Traced

/-! ## What is traced is what is read -/

theorem bind_apply (m : Parser α) (f : α → Parser β) (s : ParserState) :
    (m >>= f) s = match m s with
      | .ok a s' => f a s'
      | .error e s' => .error e s' := by
  have hbind : (m >>= f) s = EStateM.bind m f s := rfl
  rw [hbind, EStateM.bind]
  cases m s <;> rfl

/-- Sequences that go on alike from wherever their first part ends have the same runs. -/
theorem bind_eq_bind_of_ensures {m : Parser α} {f g : α → Parser β} {s : ParserState}
    (h : Ensures m s (fun a s' ↦ f a s' = g a s') AnyError) : (m >>= f) s = (m >>= g) s := by
  unfold Ensures at h
  rw [bind_apply, bind_apply]
  cases hm : m s with
  | ok a s' =>
    rw [hm] at h
    exact h
  | error e s' => rfl

theorem get_bind (f : ParserState → Parser β) (s : ParserState) : (get >>= f) s = f s s := rfl

/-- One level above a depth, taking a level off is going back to that depth. -/
theorem leave_bind {s : ParserState} {base : Nat} (h : s.depth = base + 1) (m : Parser α) :
    (leave >>= fun _ ↦ m) s = (leaveTo base >>= fun _ ↦ m) s := by
  have hleave : (leave >>= fun _ ↦ m) s = m ⟨s.rest, s.depth - 1⟩ := rfl
  rw [hleave, h]
  rfl

/-- The readers that are traced with some fuel are those of the grammar. -/
structure Traces (fuel : Nat) : Prop where
  conditional : (Traced.conditional fuel).parser = Parser.conditional fuel
  binary : ∀ least, (Traced.binary fuel least).parser = Parser.binary fuel least
  operatorChain : ∀ least left,
    (Traced.operatorChain fuel least left).parser = Parser.operatorChain fuel least left
  unary : (Traced.unary fuel).parser = Parser.unary fuel
  memberChain : (Traced.memberChain fuel).parser = Parser.memberChain fuel
  links : ∀ object, (Traced.links fuel object).parser = Parser.links fuel object
  primary : (Traced.primary fuel).parser = Parser.primary fuel

namespace Traces

variable {fuel : Nat}

theorem zero : Traces 0 where
  conditional := rfl
  binary _ := rfl
  operatorChain _ _ := rfl
  unary := rfl
  memberChain := rfl
  links _ := rfl
  primary := rfl

theorem conditional_succ (ih : Traces fuel) :
    (Traced.conditional (fuel + 1)).parser = Parser.conditional (fuel + 1) := by
  funext s
  rw [Traced.conditional, Parser.conditional]
  simp only [Traced.parser_bind, Traced.parser_step, ih.binary]
  rw [get_bind]
  refine bind_eq_bind_of_ensures ?_
  rw [ensures_enter]
  split
  case isFalse => trivial
  refine bind_eq_bind_of_ensures (((sound fuel).binary 1 _).imp ?_)
  rintro test s₁ ⟨-, links, hdepth₁, -⟩
  refine bind_eq_bind_of_ensures ?_
  rw [ensures_eat]
  split
  next =>
    simp only [if_true, Traced.parser_bind, Traced.parser_step, ih.conditional]
    refine bind_eq_bind_of_ensures (((sound fuel).conditional _).imp ?_)
    rintro consequent s₂ ⟨hdepth₂, -⟩
    refine bind_eq_bind_of_ensures ?_
    rw [ensures_expect]
    split
    case isFalse => trivial
    refine bind_eq_bind_of_ensures (((sound fuel).conditional _).imp ?_)
    rintro alternate s₃ ⟨hdepth₃, -⟩
    exact leave_bind (hdepth₃.trans (hdepth₂.trans hdepth₁)) _
  next => exact leave_bind hdepth₁ _

theorem binary_succ (ih : Traces fuel) (least : Nat) :
    (Traced.binary (fuel + 1) least).parser = Parser.binary (fuel + 1) least := by
  rw [Traced.binary, Parser.binary]
  simp only [Traced.parser_bind, Traced.parser_step, Traced.parser_pure, ih.unary,
    ih.operatorChain]

theorem operatorChain_succ (ih : Traces fuel) (least : Nat) (left : Expression) :
    (Traced.operatorChain (fuel + 1) least left).parser =
      Parser.operatorChain (fuel + 1) least left := by
  rw [Traced.operatorChain, Parser.operatorChain, Traced.parser_bind, Traced.parser_step]
  congr 1
  funext found
  cases found.bind Punctuator.betweenOperands? with
  | none => rfl
  | some next =>
    dsimp only
    split
    next => rfl
    next => simp only [Traced.parser_bind, Traced.parser_step, ih.binary, ih.operatorChain]

theorem unary_succ (ih : Traces fuel) :
    (Traced.unary (fuel + 1)).parser = Parser.unary (fuel + 1) := by
  rw [Traced.unary, Parser.unary, Traced.parser_bind, Traced.parser_step]
  congr 1
  funext found
  cases found.bind Punctuator.beforeOperand? with
  | none => exact ih.memberChain
  | some operator =>
    funext s
    simp only [Traced.parser_bind, Traced.parser_step, ih.unary]
    rw [get_bind]
    refine bind_eq_bind_of_ensures ?_
    rw [ensures_skip]
    refine bind_eq_bind_of_ensures ?_
    rw [ensures_enter]
    split
    case isFalse => trivial
    refine bind_eq_bind_of_ensures (((sound fuel).unary _).imp ?_)
    rintro operand s' ⟨hdepth, -⟩
    exact leave_bind hdepth _

theorem memberChain_succ (ih : Traces fuel) :
    (Traced.memberChain (fuel + 1)).parser = Parser.memberChain (fuel + 1) := by
  rw [Traced.memberChain, Parser.memberChain]
  simp only [Traced.parser_bind, Traced.parser_step, Traced.parser_pure, ih.primary, ih.links]

theorem links_succ (ih : Traces fuel) (object : Expression) :
    (Traced.links (fuel + 1) object).parser = Parser.links (fuel + 1) object := by
  rw [Traced.links, Parser.links, Traced.parser_bind, Traced.parser_step]
  congr 1
  funext found
  cases found with
  | none => rfl
  | some p =>
    cases p
    case openBracket =>
      simp only [Traced.parser_bind, Traced.parser_step, ih.conditional, ih.links]
    case dot => simp only [Traced.parser_bind, Traced.parser_step, ih.links]
    case optionalDot =>
      simp only [Traced.parser_bind, Traced.parser_step, apply_ite Traced.parser, ih.conditional,
        ih.links]
    all_goals rfl

theorem primary_succ (ih : Traces fuel) :
    (Traced.primary (fuel + 1)).parser = Parser.primary (fuel + 1) := by
  rw [Traced.primary, Parser.primary, Traced.parser_bind, Traced.parser_step]
  congr 1
  funext found
  obtain _ | ⟨kind, offset⟩ := found
  · rfl
  cases kind with
  | number => rfl
  | text => rfl
  | name => rfl
  | punctuator p =>
    cases p
    case openParenthesis =>
      simp only [Traced.parser_bind, Traced.parser_step, Traced.parser_pure, ih.conditional]
    all_goals rfl

theorem succ (ih : Traces fuel) : Traces (fuel + 1) where
  conditional := ih.conditional_succ
  binary := ih.binary_succ
  operatorChain := ih.operatorChain_succ
  unary := ih.unary_succ
  memberChain := ih.memberChain_succ
  links := ih.links_succ
  primary := ih.primary_succ

end Traces

/-- Tracing changes no reader. -/
theorem traces (fuel : Nat) : Traces fuel := by
  induction fuel with
  | zero => exact Traces.zero
  | succ fuel ih => exact ih.succ

/-! ## Completed runs -/

/-- Whatever one parser completes, the other completes with the same outcome. -/
def Traced.Extends (x y : Traced α) : Prop :=
  ∀ s, x.completes s = true → y.completes s = true ∧ y.parser s = x.parser s

namespace Traced.Extends

variable {x y : Traced α}

theorem refl (x : Traced α) : x.Extends x :=
  fun _ h ↦ ⟨h, rfl⟩

theorem exhausted : Traced.exhausted.Extends x :=
  fun _ h ↦ nomatch h

theorem bind {f g : α → Traced β} (h : x.Extends y) (hnext : ∀ a, (f a).Extends (g a)) :
    (x >>= f).Extends (y >>= g) := by
  intro s
  rw [Traced.completes_bind, Traced.completes_bind, Traced.parser_bind, Traced.parser_bind,
    bind_apply, bind_apply]
  cases hx : x.parser s with
  | ok a s' =>
    dsimp only
    rw [Bool.and_eq_true]
    rintro ⟨hfirst, hsecond⟩
    obtain ⟨hy, hrun⟩ := h s hfirst
    rw [hrun, hx, hy]
    exact hnext a s' hsecond
  | error e s' =>
    intro hfirst
    obtain ⟨hy, hrun⟩ := h s hfirst
    rw [hrun, hx]
    exact ⟨hy, rfl⟩

/-- The same step first, and then what is extended. -/
theorem step {m : Parser α} {f g : α → Traced β} (hnext : ∀ a, (f a).Extends (g a)) :
    (Traced.step m >>= f).Extends (Traced.step m >>= g) :=
  (refl _).bind hnext

end Traced.Extends

/-- With one unit of fuel more, readers extend what they are with the given fuel. -/
structure Extends (fuel : Nat) : Prop where
  conditional : (Traced.conditional fuel).Extends (Traced.conditional (fuel + 1))
  binary : ∀ least, (Traced.binary fuel least).Extends (Traced.binary (fuel + 1) least)
  operatorChain : ∀ least left,
    (Traced.operatorChain fuel least left).Extends (Traced.operatorChain (fuel + 1) least left)
  unary : (Traced.unary fuel).Extends (Traced.unary (fuel + 1))
  memberChain : (Traced.memberChain fuel).Extends (Traced.memberChain (fuel + 1))
  links : ∀ object, (Traced.links fuel object).Extends (Traced.links (fuel + 1) object)
  primary : (Traced.primary fuel).Extends (Traced.primary (fuel + 1))

namespace Extends

open Traced.Extends (exhausted refl step)

variable {fuel : Nat}

theorem zero : Extends 0 where
  conditional := exhausted
  binary _ := exhausted
  operatorChain _ _ := exhausted
  unary := exhausted
  memberChain := exhausted
  links _ := exhausted
  primary := exhausted

theorem conditional_succ (ih : Extends fuel) :
    (Traced.conditional (fuel + 1)).Extends (Traced.conditional (fuel + 2)) := by
  rw [Traced.conditional, Traced.conditional]
  refine step fun _ ↦ (ih.binary 1).bind fun test ↦ step fun found ↦ ?_
  split
  next => exact ih.conditional.bind fun _ ↦ step fun _ ↦ ih.conditional.bind fun _ ↦ refl _
  next => exact refl _

theorem binary_succ (ih : Extends fuel) (least : Nat) :
    (Traced.binary (fuel + 1) least).Extends (Traced.binary (fuel + 2) least) := by
  rw [Traced.binary, Traced.binary]
  exact step fun _ ↦ ih.unary.bind fun first ↦ (ih.operatorChain least first).bind fun _ ↦ refl _

theorem operatorChain_succ (ih : Extends fuel) (least : Nat) (left : Expression) :
    (Traced.operatorChain (fuel + 1) least left).Extends
      (Traced.operatorChain (fuel + 2) least left) := by
  rw [Traced.operatorChain, Traced.operatorChain]
  refine step fun found ↦ ?_
  cases found.bind Punctuator.betweenOperands? with
  | none => exact refl _
  | some next =>
    dsimp only
    split
    next => exact refl _
    next =>
      exact step fun _ ↦ step fun _ ↦ (ih.binary _).bind fun _ ↦ ih.operatorChain least _

theorem unary_succ (ih : Extends fuel) :
    (Traced.unary (fuel + 1)).Extends (Traced.unary (fuel + 2)) := by
  rw [Traced.unary, Traced.unary]
  refine step fun found ↦ ?_
  cases found.bind Punctuator.beforeOperand? with
  | none => exact ih.memberChain
  | some operator => exact step fun _ ↦ step fun _ ↦ ih.unary.bind fun _ ↦ refl _

theorem memberChain_succ (ih : Extends fuel) :
    (Traced.memberChain (fuel + 1)).Extends (Traced.memberChain (fuel + 2)) := by
  rw [Traced.memberChain, Traced.memberChain]
  exact step fun _ ↦ ih.primary.bind fun root ↦ (ih.links root).bind fun _ ↦ refl _

theorem links_succ (ih : Extends fuel) (object : Expression) :
    (Traced.links (fuel + 1) object).Extends (Traced.links (fuel + 2) object) := by
  rw [Traced.links, Traced.links]
  refine step fun found ↦ ?_
  have hkey (optional : Bool) :=
    ih.conditional.bind fun key ↦ step (m := expect .closeBracket) fun _ ↦
      ih.links (.index object key optional)
  have hname (optional : Bool) :=
    step (m := propertyName) fun name ↦ ih.links (.member object name optional)
  cases found with
  | none => exact refl _
  | some p =>
    cases p
    case openBracket => exact step fun _ ↦ step fun _ ↦ hkey false
    case dot => exact step fun _ ↦ step fun _ ↦ hname false
    case optionalDot =>
      refine step fun _ ↦ step fun _ ↦ step fun bracket ↦ ?_
      split
      next => exact hkey true
      next => exact hname true
    all_goals exact refl _

theorem primary_succ (ih : Extends fuel) :
    (Traced.primary (fuel + 1)).Extends (Traced.primary (fuel + 2)) := by
  rw [Traced.primary, Traced.primary]
  refine step fun found ↦ ?_
  obtain _ | ⟨kind, offset⟩ := found
  · exact refl _
  cases kind with
  | number => exact refl _
  | text => exact refl _
  | name => exact refl _
  | punctuator p =>
    cases p
    case openParenthesis => exact ih.conditional.bind fun _ ↦ refl _
    all_goals exact refl _

theorem succ (ih : Extends fuel) : Extends (fuel + 1) where
  conditional := ih.conditional_succ
  binary := ih.binary_succ
  operatorChain := ih.operatorChain_succ
  unary := ih.unary_succ
  memberChain := ih.memberChain_succ
  links := ih.links_succ
  primary := ih.primary_succ

end Extends

/-- What is completed with some fuel is completed with more, and ends in the same way. -/
theorem extends_succ (fuel : Nat) : Extends fuel := by
  induction fuel with
  | zero => exact Extends.zero
  | succ fuel ih => exact ih.succ

end FieldTags.Parser
