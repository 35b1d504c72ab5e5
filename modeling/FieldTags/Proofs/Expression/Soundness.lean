import FieldTags.Proofs.Expression.Contract
import FieldTags.Proofs.Expression.Levels

/-!
# What is read derives from the grammar

A reader that succeeds has taken a phrase of its kind from the front of the tokens, within the
levels that were left at its depth, and gives the depth back. The operators of a chain are read one
by one; what makes the expression of a chain derive from the stratified grammar is that a right
operand is read up to an operator that does not bind tighter than the one before it, so that the
next operator of the chain binds at most as tightly as the last.
-/

namespace FieldTags.Parser

/-- The precedence and the operator that come next, if one comes next. -/
def nextOperator? (rest : List ExpressionToken) : Option (Nat × InfixOperator) :=
  (nextPunctuator? rest).bind Punctuator.betweenOperands?

/-- No operator of at least the given precedence comes next. -/
def Stops (least : Nat) (rest : List ExpressionToken) : Prop :=
  ∀ precedence operator, nextOperator? rest = some (precedence, operator) → precedence < least

/-- A phrase with a number of links is taken from the front, within the levels that are left. -/
def Reads (phrase : Phrase) (links : Nat) (s : ParserState) (e : Expression) (s' : ParserState) :
    Prop :=
  s'.depth = s.depth ∧
    ∃ read, s.rest = read ++ s'.rest ∧ Fits (maxDepth - s.depth) phrase links read e

/-- Nothing is said about errors. -/
def AnyError : ExpressionError → ParserState → Prop :=
  fun _ _ ↦ True

/-- What success means for all readers with the same fuel. -/
structure Sound (fuel : Nat) : Prop where
  conditional : ∀ s, Ensures (conditional fuel) s (Reads .conditional 0 s) AnyError
  binary : ∀ least s, Ensures (binary fuel least) s
    (fun e s' ↦ Stops least s'.rest ∧ ∃ links, Reads (.binary least) links s e s') AnyError
  operatorChain : ∀ least left base links read s, s.depth = base + links →
    Fits (maxDepth - base) (.binary least) links read left →
    (∀ precedence operator, nextOperator? s.rest = some (precedence, operator) →
      least ≤ precedence → Fits (maxDepth - base) (.binary precedence) links read left) →
    Ensures (operatorChain fuel least left) s
      (fun e s' ↦ Stops least s'.rest ∧ ∃ more links, s.rest = more ++ s'.rest ∧
        Fits (maxDepth - base) (.binary least) links (read ++ more) e) AnyError
  unary : ∀ s, Ensures (unary fuel) s (Reads .unary 0 s) AnyError
  memberChain : ∀ s, Ensures (memberChain fuel) s
    (fun e s' ↦ ∃ links, Reads .chain links s e s') AnyError
  links : ∀ object base links read s, s.depth = base + links →
    Fits (maxDepth - base) .chain links read object →
    Ensures (Parser.links fuel object) s
      (fun e s' ↦ ∃ more links, s.rest = more ++ s'.rest ∧
        Fits (maxDepth - base) .chain links (read ++ more) e) AnyError
  primary : ∀ s, Ensures (primary fuel) s (Reads .primary 0 s) AnyError

namespace Sound

variable {fuel : Nat}

theorem zero : Sound 0 where
  conditional _ := trivial
  binary _ _ := trivial
  operatorChain _ _ _ _ _ _ _ _ _ := trivial
  unary _ := trivial
  memberChain _ := trivial
  links _ _ _ _ _ _ _ := trivial
  primary _ := trivial

theorem conditional_succ (ih : Sound fuel) (s : ParserState) :
    Ensures (Parser.conditional (fuel + 1)) s (Reads .conditional 0 s) AnyError := by
  rw [Parser.conditional]
  simp only [ensures_bind, ensures_get, ensures_enter]
  by_cases hdepth : s.depth < maxDepth
  case neg => rw [if_neg hdepth]; trivial
  rw [if_pos hdepth]
  have hlevels : maxDepth - s.depth = maxDepth - (s.depth + 1) + 1 := by omega
  refine (ih.binary 1 _).imp ?_
  rintro test s₁ ⟨-, links, hdepth₁, first, hfirst, hfits₁⟩
  simp only [ensures_eat]
  split
  next hquestion =>
    obtain ⟨question, hcons₁⟩ := eq_cons_of_nextPunctuator? hquestion
    simp only [if_true, ensures_bind]
    refine (ih.conditional _).imp ?_
    rintro consequent s₂ ⟨hdepth₂, second, hsecond, hfits₂⟩
    simp only [ensures_expect]
    split
    case isFalse => trivial
    next hcolon =>
    obtain ⟨colon, hcons₂⟩ := eq_cons_of_nextPunctuator? hcolon
    refine (ih.conditional _).imp ?_
    rintro alternate s₃ ⟨hdepth₃, third, hthird, hfits₃⟩
    simp only [ensures_leaveTo, ensures_pure] at *
    rw [hdepth₁] at hfits₂
    rw [hdepth₂, hdepth₁] at hfits₃
    have hfits := Fits.choice question colon hfits₁ hfits₂ hfits₃
    rw [← hlevels] at hfits
    refine ⟨rfl, _, ?_, hfits⟩
    rw [hfirst, hcons₁, hsecond, hcons₂, hthird]
    simp
  next =>
    simp only [Bool.false_eq_true, if_false, ensures_bind, ensures_leaveTo, ensures_pure]
    exact ⟨rfl, first, hfirst, hlevels ▸ .alone hfits₁⟩

theorem binary_succ (ih : Sound fuel) (least : Nat) (s : ParserState) :
    Ensures (Parser.binary (fuel + 1) least) s
      (fun e s' ↦ Stops least s'.rest ∧ ∃ links, Reads (.binary least) links s e s')
      AnyError := by
  rw [Parser.binary]
  simp only [ensures_bind, ensures_get]
  refine (ih.unary s).imp ?_
  rintro first s₁ ⟨hdepth₁, read, hread, hfits⟩
  refine (ih.operatorChain least first s.depth 0 read s₁ hdepth₁ (.operand hfits)
    fun _ _ _ _ ↦ .operand hfits).imp ?_
  rintro result s₂ ⟨hstops, more, links, hmore, hfits₂⟩
  simp only [ensures_leaveTo, ensures_pure]
  refine ⟨hstops, links, rfl, _, ?_, hfits₂⟩
  rw [hread, hmore, List.append_assoc]

theorem operatorChain_succ (ih : Sound fuel) (least : Nat) (left : Expression)
    (base links : Nat) (read : List ExpressionToken) (s : ParserState)
    (hdepth : s.depth = base + links)
    (hleft : Fits (maxDepth - base) (.binary least) links read left)
    (hnext : ∀ precedence operator, nextOperator? s.rest = some (precedence, operator) →
      least ≤ precedence → Fits (maxDepth - base) (.binary precedence) links read left) :
    Ensures (Parser.operatorChain (fuel + 1) least left) s
      (fun e s' ↦ Stops least s'.rest ∧ ∃ more links, s.rest = more ++ s'.rest ∧
        Fits (maxDepth - base) (.binary least) links (read ++ more) e) AnyError := by
  have hfold : (nextPunctuator? s.rest).bind Punctuator.betweenOperands? = nextOperator? s.rest :=
    rfl
  rw [Parser.operatorChain, ensures_bind, ensures_peek, hfold]
  cases hoperator : nextOperator? s.rest with
  | none =>
    simp only [ensures_pure]
    exact ⟨fun _ _ h ↦ absurd (hoperator ▸ h) (by simp), [], links, rfl, by simpa using hleft⟩
  | some next =>
    obtain ⟨precedence, operator⟩ := next
    obtain ⟨p, hp, hprecedence⟩ := Option.bind_eq_some_iff.mp hoperator
    obtain ⟨offset, hcons⟩ := eq_cons_of_nextPunctuator? hp
    by_cases hleast : precedence < least
    · simp only [if_pos hleast, ensures_pure]
      refine ⟨fun other _ h ↦ ?_, [], links, rfl, by simpa using hleft⟩
      rw [hoperator] at h
      simp only [Option.some.injEq, Prod.mk.injEq] at h
      omega
    simp only [if_neg hleast, ensures_bind, ensures_skip, ensures_enter]
    by_cases hroom : s.depth < maxDepth
    case neg => rw [if_neg hroom]; trivial
    rw [if_pos hroom]
    refine (ih.binary (precedence + 1) _).imp ?_
    rintro right s₁ ⟨hstops, inner, hdepth₁, behind, hbehind, hright⟩
    simp only at hdepth₁ hbehind hright
    have hlevels : maxDepth - (s.depth + 1) = maxDepth - base - (links + 1) := by omega
    rw [hlevels] at hright
    -- The operator just read binds at least as tightly as whatever operator follows.
    have hfold : ∀ floor, floor ≤ precedence → Fits (maxDepth - base) (.binary floor) (links + 1)
        (read ++ ⟨.punctuator p, offset⟩ :: behind) (operator.apply left right) := by
      intro floor hfloor
      exact .operation offset hprecedence hfloor (by omega)
        (hnext precedence operator hoperator (by omega)) hright
    refine (ih.operatorChain least _ base (links + 1) _ s₁ (by omega) (hfold least (by omega))
      fun other _ h _ ↦ hfold other (by have := hstops _ _ h; omega)).imp ?_
    rintro e s₂ ⟨hstops₂, more, links₂, hmore, hfits₂⟩
    refine ⟨hstops₂, ⟨.punctuator p, offset⟩ :: (behind ++ more), links₂, ?_, ?_⟩
    · rw [hcons, hbehind, hmore]
      simp
    · simpa using hfits₂

theorem unary_succ (ih : Sound fuel) (s : ParserState) :
    Ensures (Parser.unary (fuel + 1)) s (Reads .unary 0 s) AnyError := by
  rw [Parser.unary]
  simp only [ensures_bind, ensures_peek]
  cases hoperator : (nextPunctuator? s.rest).bind Punctuator.beforeOperand? with
  | none =>
    refine (ih.memberChain s).imp ?_
    rintro e s' ⟨links, hdepth, read, hread, hfits⟩
    exact ⟨hdepth, read, hread, .bare hfits⟩
  | some operator =>
    obtain ⟨p, hp, hprefix⟩ := Option.bind_eq_some_iff.mp hoperator
    obtain ⟨offset, hcons⟩ := eq_cons_of_nextPunctuator? hp
    simp only [ensures_bind, ensures_get, ensures_skip, ensures_enter]
    by_cases hroom : s.depth < maxDepth
    case neg => rw [if_neg hroom]; trivial
    rw [if_pos hroom]
    have hlevels : maxDepth - s.depth = maxDepth - (s.depth + 1) + 1 := by omega
    refine (ih.unary _).imp ?_
    rintro operand s' ⟨-, read, hread, hoperand⟩
    simp only [ensures_leaveTo, ensures_pure] at *
    have hfits := Fits.prefixed offset (standsBefore_iff.mpr hprefix) hoperand
    rw [← hlevels] at hfits
    refine ⟨rfl, _, ?_, hfits⟩
    rw [hcons, hread, List.cons_append]

theorem memberChain_succ (ih : Sound fuel) (s : ParserState) :
    Ensures (Parser.memberChain (fuel + 1)) s (fun e s' ↦ ∃ links, Reads .chain links s e s')
      AnyError := by
  rw [Parser.memberChain]
  simp only [ensures_bind, ensures_get]
  refine (ih.primary s).imp ?_
  rintro root s₁ ⟨hdepth₁, read, hread, hfits⟩
  refine (ih.links root s.depth 0 read s₁ hdepth₁ (.root hfits)).imp ?_
  rintro result s₂ ⟨more, links, hmore, hfits₂⟩
  simp only [ensures_leaveTo, ensures_pure]
  refine ⟨links, rfl, _, ?_, hfits₂⟩
  rw [hread, hmore, List.append_assoc]

section Access

variable {object : Expression} {optional : Bool} {base links : Nat}
  {read : List ExpressionToken} {s s₁ : ParserState}

/-- The rest of a chain of which one more link has been read. -/
theorem links_of_link (ih : Sound fuel) (s : ParserState) {opening : List ExpressionToken}
    (hdepth : s₁.depth = base + (links + 1))
    (hlink : s.rest = opening ++ s₁.rest)
    (hfits : Fits (maxDepth - base) .chain (links + 1) (read ++ opening) object) :
    Ensures (Parser.links fuel object) s₁ (fun e s' ↦ ∃ more links, s.rest = more ++ s'.rest ∧
      Fits (maxDepth - base) .chain links (read ++ more) e) AnyError := by
  refine (ih.links object base (links + 1) _ s₁ hdepth hfits).imp ?_
  rintro e s' ⟨more, links', hmore, hfits'⟩
  refine ⟨opening ++ more, links', ?_, ?_⟩
  · rw [hlink, hmore, List.append_assoc]
  · rw [← List.append_assoc]
    exact hfits'

/-- A computed access behind its opening tokens, and the rest of the chain. -/
theorem links_of_key (ih : Sound fuel) (opening : List ExpressionToken)
    (hdepth : s₁.depth = base + (links + 1))
    (hopening : s.rest = opening ++ s₁.rest)
    (hfits : ∀ inner key closing, Fits (maxDepth - base - (links + 1)) .conditional 0 inner key →
      Fits (maxDepth - base) .chain (links + 1)
        (read ++ (opening ++ (inner ++ [⟨.punctuator .closeBracket, closing⟩])))
        (.index object key optional)) :
    Ensures (do
        let key ← Parser.conditional fuel
        expect .closeBracket
        Parser.links fuel (.index object key optional)) s₁
      (fun e s' ↦ ∃ more links, s.rest = more ++ s'.rest ∧
        Fits (maxDepth - base) .chain links (read ++ more) e) AnyError := by
  simp only [ensures_bind]
  refine (ih.conditional s₁).imp ?_
  rintro key s₂ ⟨hdepth₂, inner, hinner, hkey⟩
  rw [ensures_expect]
  split
  case isFalse => trivial
  next hclosing =>
  obtain ⟨closing, hcons⟩ := eq_cons_of_nextPunctuator? hclosing
  have hlevels : maxDepth - s₁.depth = maxDepth - base - (links + 1) := by omega
  rw [hlevels] at hkey
  refine ih.links_of_link s (by simp only; omega) ?_ (hfits inner key closing hkey)
  rw [hopening, hinner, hcons]
  simp

/-- A named access behind its opening token, and the rest of the chain. -/
theorem links_of_name (ih : Sound fuel) (opening : List ExpressionToken)
    (hdepth : s₁.depth = base + (links + 1))
    (hopening : s.rest = opening ++ s₁.rest)
    (hfits : ∀ name word, Fits (maxDepth - base) .chain (links + 1)
      (read ++ (opening ++ [⟨.name name, word⟩])) (.member object name optional)) :
    Ensures (do
        let name ← propertyName
        Parser.links fuel (.member object name optional)) s₁
      (fun e s' ↦ ∃ more links, s.rest = more ++ s'.rest ∧
        Fits (maxDepth - base) .chain links (read ++ more) e) AnyError := by
  rw [ensures_bind, ensures_propertyName]
  cases hname : nextName? s₁.rest with
  | none => trivial
  | some name =>
    obtain ⟨word, hcons⟩ := eq_cons_of_nextName? hname
    refine ih.links_of_link s (by simp only; omega) ?_ (hfits name word)
    rw [hopening, hcons]
    simp

end Access

theorem links_succ (ih : Sound fuel) (object : Expression) (base links : Nat)
    (read : List ExpressionToken) (s : ParserState) (hdepth : s.depth = base + links)
    (hobject : Fits (maxDepth - base) .chain links read object) :
    Ensures (Parser.links (fuel + 1) object) s
      (fun e s' ↦ ∃ more links, s.rest = more ++ s'.rest ∧
        Fits (maxDepth - base) .chain links (read ++ more) e) AnyError := by
  rw [Parser.links, ensures_bind, ensures_peek]
  split
  next hbracket =>
    obtain ⟨bracket, hcons⟩ := eq_cons_of_nextPunctuator? hbracket
    rw [ensures_bind, ensures_skip, ensures_bind, ensures_enter]
    split
    case isFalse => trivial
    next hroom =>
    exact ih.links_of_key [⟨.punctuator .openBracket, bracket⟩] (by simp only; omega)
      hcons fun _ _ closing hkey ↦
        .computed bracket closing (by simp only at hroom; omega) hobject hkey
  next => trivial
  next hdot =>
    obtain ⟨dot, hcons⟩ := eq_cons_of_nextPunctuator? hdot
    rw [ensures_bind, ensures_skip, ensures_bind, ensures_enter]
    split
    case isFalse => trivial
    next hroom =>
    exact ih.links_of_name [⟨.punctuator .dot, dot⟩] (by simp only; omega)
      hcons fun name word ↦ .named name dot word (by simp only at hroom; omega) hobject
  next hdot =>
    obtain ⟨dot, hcons⟩ := eq_cons_of_nextPunctuator? hdot
    rw [ensures_bind, ensures_skip, ensures_bind, ensures_enter]
    split
    case isFalse => trivial
    next hroom =>
    rw [ensures_bind, ensures_eat]
    split
    next hbracket =>
      obtain ⟨bracket, hcons₁⟩ := eq_cons_of_nextPunctuator? hbracket
      refine ih.links_of_key
        [⟨.punctuator .optionalDot, dot⟩, ⟨.punctuator .openBracket, bracket⟩]
        (by simp only; omega) ?_ fun _ _ closing hkey ↦
          .optionalComputed dot bracket closing (by simp only at hroom; omega) hobject hkey
      rw [hcons]
      exact congrArg _ hcons₁
    next =>
      exact ih.links_of_name [⟨.punctuator .optionalDot, dot⟩] (by simp only; omega)
        hcons fun name word ↦ .optionalNamed name dot word (by simp only at hroom; omega) hobject
  next =>
    rw [ensures_pure]
    exact ⟨[], links, rfl, by simpa using hobject⟩

theorem primary_succ (ih : Sound fuel) (s : ParserState) :
    Ensures (Parser.primary (fuel + 1)) s (Reads .primary 0 s) AnyError := by
  rw [Parser.primary, ensures_bind, ensures_next?]
  obtain ⟨rest, depth⟩ := s
  split
  next x offset hhead =>
    obtain ⟨tail, rfl⟩ := List.head?_eq_some_iff.mp hhead
    exact ⟨rfl, _, rfl, .number x offset⟩
  next text offset hhead =>
    obtain ⟨tail, rfl⟩ := List.head?_eq_some_iff.mp hhead
    exact ⟨rfl, _, rfl, .text text offset⟩
  next name offset hhead =>
    obtain ⟨tail, rfl⟩ := List.head?_eq_some_iff.mp hhead
    exact ⟨rfl, _, rfl, .word offset (denotes_iff.mpr rfl)⟩
  next opening hhead =>
    obtain ⟨tail, rfl⟩ := List.head?_eq_some_iff.mp hhead
    rw [ensures_bind]
    refine (ih.conditional _).imp ?_
    rintro e s' ⟨hdepth, inner, hinner, hfits⟩
    rw [ensures_bind, ensures_expect]
    split
    case isFalse => trivial
    next hclosing =>
    obtain ⟨closing, hcons⟩ := eq_cons_of_nextPunctuator? hclosing
    refine ⟨hdepth, _, ?_, .enclosed opening closing hfits⟩
    simp only [List.tail_cons] at hinner ⊢
    rw [hinner, hcons]
    simp
  next => trivial

theorem succ (ih : Sound fuel) : Sound (fuel + 1) where
  conditional := ih.conditional_succ
  binary := ih.binary_succ
  operatorChain := ih.operatorChain_succ
  unary := ih.unary_succ
  memberChain := ih.memberChain_succ
  links := ih.links_succ
  primary := ih.primary_succ

end Sound

/-- What the readers take derives from the grammar, with any fuel. -/
theorem sound (fuel : Nat) : Sound fuel := by
  induction fuel with
  | zero => exact Sound.zero
  | succ fuel ih => exact ih.succ

/-- An expression that is read from all tokens fits within the levels that there are. -/
theorem fits_of_ofTokens {tokens : List ExpressionToken} {e : Expression}
    (h : Expression.ofTokens tokens = .ok e) : Fits maxDepth .conditional 0 tokens e := by
  have hreads := (sound Parser.fuel).conditional ⟨tokens, 0⟩
  unfold Ensures at hreads
  unfold Expression.ofTokens at h
  cases hrun : Parser.conditional Parser.fuel ⟨tokens, 0⟩ with
  | error error s => simp [hrun] at h
  | ok result s =>
    simp only [hrun] at h hreads
    obtain ⟨-, read, hread, hfits⟩ := hreads
    split at h
    next hrest =>
      obtain rfl : result = e := by simpa using h
      have htokens : tokens = read := by simpa [hrest] using hread
      rw [htokens]
      exact hfits
    next => simp at h

end FieldTags.Parser
