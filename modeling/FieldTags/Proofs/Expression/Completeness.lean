import FieldTags.Proofs.Expression.Soundness

/-!
# Whatever derives from the grammar is read

A reader that stands before a phrase of its kind takes exactly this phrase, provided that what
follows cannot continue it, or fails for want of levels. It fails only if the phrase needs more
levels than are left at its depth, or more fuel than these levels ask for; so the fuel that
expressions are read with never runs out, and the expressions that are read are those that fit
within the levels.
-/

namespace FieldTags

/-- How many readers call each other, at most, between a phrase and the next level. -/
def Phrase.calls : Phrase → Nat
  | .conditional => 1
  | .primary => 2
  | .chain => 3
  | .unary => 4
  | .binary _ => 5

namespace Parser

/-- The phrase can be read at a depth with some fuel: neither levels nor fuel run out. -/
def Enough (phrase : Phrase) (levels fuel depth : Nat) : Prop :=
  5 * levels + phrase.calls ≤ fuel ∧ depth + levels ≤ maxDepth

/-- The one result and the one state that success may end in. -/
def Only (e : Expression) (s : ParserState) : Expression → ParserState → Prop :=
  fun e' s' ↦ e' = e ∧ s' = s

/-- The only error is that of the levels, and it needs a reason. -/
def TooDeepUnless (enough : Prop) : ExpressionError → ParserState → Prop :=
  fun error _ ↦ error = .tooDeep ∧ ¬ enough

/-- No access and no argument list comes next. -/
def NoLink (rest : List ExpressionToken) : Prop :=
  nextPunctuator? rest ≠ some .dot ∧ nextPunctuator? rest ≠ some .optionalDot ∧
    nextPunctuator? rest ≠ some .openBracket ∧ nextPunctuator? rest ≠ some .openParenthesis

/-- What comes next can follow operators of at least the given precedence. -/
def Follows (least : Nat) (rest : List ExpressionToken) : Prop :=
  NoLink rest ∧
    ∀ precedence operator, nextOperator? rest = some (precedence, operator) → precedence ≤ least

/-- What comes next can follow a whole expression. -/
def Closed (rest : List ExpressionToken) : Prop :=
  NoLink rest ∧ nextOperator? rest = none ∧ nextPunctuator? rest ≠ some .question

theorem Closed.follows {rest : List ExpressionToken} (h : Closed rest) (least : Nat) :
    Follows least rest :=
  ⟨h.1, fun _ _ hnext ↦ absurd (h.2.1 ▸ hnext) (by simp)⟩

theorem Follows.mono {least more : Nat} {rest : List ExpressionToken} (h : Follows least rest)
    (hmore : least ≤ more) : Follows more rest :=
  ⟨h.1, fun _ _ hnext ↦ Nat.le_trans (h.2 _ _ hnext) hmore⟩

theorem Follows.stops {least more : Nat} {rest : List ExpressionToken} (h : Follows least rest)
    (hmore : least < more) : Stops more rest :=
  fun _ _ hnext ↦ Nat.lt_of_le_of_lt (h.2 _ _ hnext) hmore

/-- What an operator between operands is not. -/
theorem follows_of_operator {p : Punctuator} {precedence : Nat} {operator : InfixOperator}
    (h : p.betweenOperands? = some (precedence, operator)) (offset : Nat)
    (rest : List ExpressionToken) : Follows precedence (⟨.punctuator p, offset⟩ :: rest) := by
  refine ⟨?_, fun other _ hnext ↦ ?_⟩
  · unfold NoLink
    simp only [nextPunctuator?_cons, ne_eq, Option.some.injEq]
    refine ⟨?_, ?_, ?_, ?_⟩ <;>
      · rintro rfl
        simp [Punctuator.betweenOperands?] at h
  · rw [nextOperator?, nextPunctuator?_cons, Option.bind_some, h] at hnext
    simp only [Option.some.injEq, Prod.mk.injEq] at hnext
    omega

theorem closed_nil : Closed [] := by
  simp [Closed, NoLink, nextOperator?]

/-- The punctuators behind the parts of a choice, a computed access and a pair of parentheses. -/
theorem closed_cons {p : Punctuator}
    (h : p = .colon ∨ p = .closeBracket ∨ p = .closeParenthesis) (offset : Nat)
    (rest : List ExpressionToken) : Closed (⟨.punctuator p, offset⟩ :: rest) := by
  rcases h with rfl | rfl | rfl <;>
    simp [Closed, NoLink, nextOperator?, Punctuator.betweenOperands?]

/--
A reader that stands before a phrase takes it, if what follows cannot continue it. For operands
joined by operators and for accesses this is said of the loop over the links: after the first part
and all links of the phrase, the loop goes on behind it with the fuel that the links have left.
-/
def Accepts (levels : Nat) : Phrase → Nat → List ExpressionToken → Expression → Prop
  | .conditional, _, tokens, e => ∀ fuel depth rest, Closed rest →
    Ensures (conditional fuel) ⟨tokens ++ rest, depth⟩ (Only e ⟨rest, depth⟩)
      (TooDeepUnless (Enough .conditional levels fuel depth))
  | .binary least, links, tokens, e => ∀ lower fuel depth rest success, lower ≤ least →
    Follows least rest →
    (∀ left, fuel = left + links →
      Ensures (operatorChain left lower e) ⟨rest, depth + links⟩ success
        (TooDeepUnless (Enough .unary levels fuel depth))) →
    Ensures (unary fuel >>= operatorChain fuel lower) ⟨tokens ++ rest, depth⟩ success
      (TooDeepUnless (Enough .unary levels fuel depth))
  | .unary, _, tokens, e => ∀ fuel depth rest, NoLink rest →
    Ensures (unary fuel) ⟨tokens ++ rest, depth⟩ (Only e ⟨rest, depth⟩)
      (TooDeepUnless (Enough .unary levels fuel depth))
  | .chain, links, tokens, e => ∀ fuel depth rest success,
    (∀ left, fuel = left + links →
      Ensures (Parser.links left e) ⟨rest, depth + links⟩ success
        (TooDeepUnless (Enough .primary levels fuel depth))) →
    Ensures (primary fuel >>= Parser.links fuel) ⟨tokens ++ rest, depth⟩ success
      (TooDeepUnless (Enough .primary levels fuel depth))
  | .primary, _, tokens, e => ∀ fuel depth rest,
    Ensures (primary fuel) ⟨tokens ++ rest, depth⟩ (Only e ⟨rest, depth⟩)
      (TooDeepUnless (Enough .primary levels fuel depth))

theorem TooDeepUnless.weaken {enough enough' : Prop} (h : enough → enough') :
    ∀ error s, TooDeepUnless enough' error s → TooDeepUnless enough error s :=
  fun _ _ herror ↦ ⟨herror.1, fun he ↦ herror.2 (h he)⟩

/-- Every reader needs some fuel. -/
theorem not_enough_zero {phrase : Phrase} {levels depth : Nat} :
    ¬ Enough phrase levels 0 depth := by
  cases phrase <;> simp [Enough, Phrase.calls]

/-- A reader that calls another one at the same depth needs one unit of fuel more. -/
theorem Enough.of_succ {phrase next : Phrase} {levels fuel depth : Nat}
    (hcalls : next.calls = phrase.calls + 1) (h : Enough next levels (fuel + 1) depth) :
    Enough phrase levels fuel depth := by
  unfold Enough at *
  omega

section Loops

variable {levels links : Nat} {tokens rest : List ExpressionToken} {e : Expression}
  {fuel depth : Nat}

/-- The loop over the operators ends where no operator can continue it. -/
theorem operatorChain_of_stops {lower : Nat} (hstops : Stops lower rest) :
    Ensures (operatorChain (fuel + 1) lower e) ⟨rest, depth⟩ (Only e ⟨rest, depth⟩)
      fun _ _ ↦ False := by
  have hfold : (nextPunctuator? rest).bind Punctuator.betweenOperands? = nextOperator? rest := rfl
  rw [operatorChain, ensures_bind, ensures_peek, hfold]
  cases hnext : nextOperator? rest with
  | none => exact ⟨rfl, rfl⟩
  | some next =>
    obtain ⟨precedence, operator⟩ := next
    simp only [if_pos (hstops precedence operator hnext), ensures_pure]
    exact ⟨rfl, rfl⟩

/-- The loop over the accesses ends where no access comes next. -/
theorem links_of_noLink (hrest : NoLink rest) :
    Ensures (Parser.links (fuel + 1) e) ⟨rest, depth⟩ (Only e ⟨rest, depth⟩)
      fun _ _ ↦ False := by
  obtain ⟨hdot, hoptional, hbracket, hparenthesis⟩ := hrest
  rw [Parser.links, ensures_bind, ensures_peek]
  split
  next h => exact absurd h hbracket
  next h => exact absurd h hparenthesis
  next h => exact absurd h hdot
  next h => exact absurd h hoptional
  next => exact ⟨rfl, rfl⟩

/-- Operands and operators that nothing can continue are read as a whole. -/
theorem binary_of_accepts {least : Nat} (h : Accepts levels (.binary least) links tokens e)
    (hlinks : links ≤ levels) {lower : Nat} (hlower : lower ≤ least) (hfollows : Follows least rest)
    (hstops : Stops lower rest) :
    Ensures (binary fuel lower) ⟨tokens ++ rest, depth⟩ (Only e ⟨rest, depth⟩)
      (TooDeepUnless (Enough (.binary least) levels fuel depth)) := by
  cases fuel with
  | zero => exact ⟨rfl, not_enough_zero⟩
  | succ fuel =>
    have hfailure : ∀ error s, TooDeepUnless (Enough .unary levels fuel depth) error s →
        TooDeepUnless (Enough (.binary least) levels (fuel + 1) depth) error s :=
      TooDeepUnless.weaken (Enough.of_succ rfl)
    have hloop := h lower fuel depth rest (Only e ⟨rest, depth + links⟩) hlower hfollows
      fun left hleft ↦ ?_
    · rw [binary]
      simp only [ensures_bind, ensures_get, ensures_leaveTo, ensures_pure]
      rw [← ensures_bind]
      refine hloop.mono ?_ hfailure
      rintro _ _ ⟨rfl, rfl⟩
      exact ⟨rfl, rfl⟩
    · cases left with
      | zero => exact ⟨rfl, fun h ↦ by simp only [Enough, Phrase.calls] at h; omega⟩
      | succ left => exact (operatorChain_of_stops hstops).mono (fun _ _ h ↦ h) fun _ _ h ↦ h.elim

/-- A chain of accesses that nothing can continue is read as a whole. -/
theorem memberChain_of_accepts (h : Accepts levels .chain links tokens e) (hlinks : links ≤ levels)
    (hrest : NoLink rest) :
    Ensures (memberChain fuel) ⟨tokens ++ rest, depth⟩ (Only e ⟨rest, depth⟩)
      (TooDeepUnless (Enough .chain levels fuel depth)) := by
  cases fuel with
  | zero => exact ⟨rfl, not_enough_zero⟩
  | succ fuel =>
    have hfailure : ∀ error s, TooDeepUnless (Enough .primary levels fuel depth) error s →
        TooDeepUnless (Enough .chain levels (fuel + 1) depth) error s :=
      TooDeepUnless.weaken (Enough.of_succ rfl)
    have hloop := h fuel depth rest (Only e ⟨rest, depth + links⟩) fun left hleft ↦ ?_
    · rw [memberChain]
      simp only [ensures_bind, ensures_get, ensures_leaveTo, ensures_pure]
      rw [← ensures_bind]
      refine hloop.mono ?_ hfailure
      rintro _ _ ⟨rfl, rfl⟩
      exact ⟨rfl, rfl⟩
    · cases left with
      | zero => exact ⟨rfl, fun h ↦ by simp only [Enough, Phrase.calls] at h; omega⟩
      | succ left => exact (links_of_noLink hrest).mono (fun _ _ h ↦ h) fun _ _ h ↦ h.elim

end Loops

/-! ## One lemma for each rule of the grammar -/

namespace Accepts

variable {levels links : Nat} {tokens inner : List ExpressionToken} {e key : Expression}

theorem alone (h : Accepts levels (.binary 1) links tokens e) (hlinks : links ≤ levels) :
    Accepts (levels + 1) .conditional 0 tokens e := by
  intro fuel depth rest hrest
  cases fuel with
  | zero => exact ⟨rfl, not_enough_zero⟩
  | succ fuel =>
    rw [conditional]
    simp only [ensures_bind, ensures_get, ensures_enter]
    split
    case isFalse hroom => exact ⟨rfl, fun h ↦ by unfold Enough at h; omega⟩
    have hstops : Stops 1 rest := fun _ _ hnext ↦ absurd (hrest.2.1 ▸ hnext) (by simp)
    refine (binary_of_accepts h hlinks (Nat.le_refl 1) (hrest.follows 1) hstops).mono ?_
      (TooDeepUnless.weaken fun h ↦ ?_)
    · rintro _ _ ⟨rfl, rfl⟩
      rw [ensures_eat, if_neg hrest.2.2]
      exact ⟨rfl, rfl⟩
    · simp only [Enough, Phrase.calls] at *
      omega

theorem choice {first second third : List ExpressionToken} {test consequent alternate : Expression}
    (question colon : Nat) (htest : Accepts levels (.binary 1) links first test)
    (hlinks : links ≤ levels) (hconsequent : Accepts levels .conditional 0 second consequent)
    (halternate : Accepts levels .conditional 0 third alternate) :
    Accepts (levels + 1) .conditional 0
      (first ++ ⟨.punctuator .question, question⟩ :: (second ++
        ⟨.punctuator .colon, colon⟩ :: third))
      (.conditional test consequent alternate) := by
  intro fuel depth rest hrest
  cases fuel with
  | zero => exact ⟨rfl, not_enough_zero⟩
  | succ fuel =>
    simp only [List.append_assoc, List.cons_append]
    rw [conditional]
    simp only [ensures_bind, ensures_get, ensures_enter]
    split
    case isFalse hroom => exact ⟨rfl, fun h ↦ by unfold Enough at h; omega⟩
    have hfailure (phrase : Phrase) (hcalls : phrase.calls ≤ 5) :
        ∀ error s, TooDeepUnless (Enough phrase levels fuel (depth + 1)) error s →
          TooDeepUnless (Enough .conditional (levels + 1) (fuel + 1) depth) error s :=
      TooDeepUnless.weaken fun h ↦ by
        simp only [Enough, Phrase.calls] at *
        omega
    have hquestion (tail : List ExpressionToken) :
        nextOperator? (⟨.punctuator .question, question⟩ :: tail) = none := rfl
    refine (binary_of_accepts htest hlinks (Nat.le_refl 1)
      ⟨by simp [NoLink], fun _ _ hnext ↦ absurd (hquestion _ ▸ hnext) (by simp)⟩
      fun _ _ hnext ↦ absurd (hquestion _ ▸ hnext) (by simp)).mono ?_
        (hfailure (.binary 1) (Nat.le_refl 5))
    rintro _ _ ⟨rfl, rfl⟩
    rw [ensures_eat, if_pos (nextPunctuator?_cons ..), if_pos rfl, ensures_bind]
    refine (hconsequent fuel (depth + 1) _ (closed_cons (.inl rfl) colon _)).mono ?_
      (hfailure .conditional (by decide))
    rintro _ _ ⟨rfl, rfl⟩
    rw [ensures_bind, ensures_expect, if_pos (nextPunctuator?_cons ..), ensures_bind]
    refine (halternate fuel (depth + 1) rest hrest).mono ?_ (hfailure .conditional (by decide))
    rintro _ _ ⟨rfl, rfl⟩
    exact ⟨rfl, rfl⟩

theorem operand {least : Nat} (h : Accepts levels .unary 0 tokens e) :
    Accepts levels (.binary least) 0 tokens e := by
  intro lower fuel depth rest success _ hfollows hloop
  rw [ensures_bind]
  refine (h fuel depth rest hfollows.1).imp ?_
  rintro _ _ ⟨rfl, rfl⟩
  exact hloop fuel rfl

theorem operation {least precedence inner : Nat} {p : Punctuator} {operator : InfixOperator}
    {before behind : List ExpressionToken} {left right : Expression} (offset : Nat)
    (hp : p.betweenOperands? = some (precedence, operator)) (hleast : least ≤ precedence)
    (hlinks : links < levels) (hleft : Accepts levels (.binary precedence) links before left)
    (hright : Accepts (levels - (links + 1)) (.binary (precedence + 1)) inner behind right)
    (hinner : inner ≤ levels - (links + 1)) :
    Accepts levels (.binary least) (links + 1) (before ++ ⟨.punctuator p, offset⟩ :: behind)
      (operator.apply left right) := by
  intro lower fuel depth rest success hlower hfollows hloop
  simp only [List.append_assoc, List.cons_append]
  -- The loop is one link longer seen from the left operand, so it goes on with this operator.
  refine hleft lower fuel depth _ success (by omega) (follows_of_operator hp offset _)
    fun remaining hremaining ↦ ?_
  cases remaining with
  | zero => exact ⟨rfl, fun h ↦ by simp only [Enough, Phrase.calls] at h; omega⟩
  | succ remaining =>
    rw [operatorChain, ensures_bind, ensures_peek, nextPunctuator?_cons, Option.bind_some, hp]
    simp only [if_neg (show ¬ precedence < lower by omega), ensures_bind, ensures_skip,
      ensures_enter]
    split
    case isFalse hroom => exact ⟨rfl, fun h ↦ by simp only [Enough] at h hroom; omega⟩
    refine (binary_of_accepts hright hinner (Nat.le_refl _) (hfollows.mono (by omega))
      (hfollows.stops (by omega))).mono ?_ (TooDeepUnless.weaken fun h ↦ ?_)
    · rintro _ _ ⟨rfl, rfl⟩
      exact hloop remaining (by omega)
    · simp only [Enough, Phrase.calls] at *
      omega

theorem bare (h : Accepts levels .chain links tokens e) (hlinks : links ≤ levels)
    (hstart : ∀ rest, (nextPunctuator? (tokens ++ rest)).bind Punctuator.beforeOperand? = none) :
    Accepts levels .unary 0 tokens e := by
  intro fuel depth rest hrest
  cases fuel with
  | zero => exact ⟨rfl, not_enough_zero⟩
  | succ fuel =>
    rw [unary, ensures_bind, ensures_peek]
    simp only [hstart rest]
    exact (memberChain_of_accepts h hlinks hrest).mono (fun _ _ h ↦ h)
      (TooDeepUnless.weaken (Enough.of_succ rfl))

theorem prefixed {p : Punctuator} {operator : UnaryOperator} (offset : Nat)
    (hp : p.beforeOperand? = some operator) (h : Accepts levels .unary 0 tokens e) :
    Accepts (levels + 1) .unary 0 (⟨.punctuator p, offset⟩ :: tokens) (.unary operator e) := by
  intro fuel depth rest hrest
  cases fuel with
  | zero => exact ⟨rfl, not_enough_zero⟩
  | succ fuel =>
    rw [List.cons_append, unary, ensures_bind, ensures_peek, nextPunctuator?_cons,
      Option.bind_some, hp]
    simp only [ensures_bind, ensures_get, ensures_skip, ensures_enter]
    split
    case isFalse hroom => exact ⟨rfl, fun h ↦ by simp only [Enough] at h hroom; omega⟩
    refine (h fuel (depth + 1) rest hrest).mono ?_ (TooDeepUnless.weaken fun h ↦ ?_)
    · rintro _ _ ⟨rfl, rfl⟩
      exact ⟨rfl, rfl⟩
    · simp only [Enough, Phrase.calls] at *
      omega

theorem root (h : Accepts levels .primary 0 tokens e) : Accepts levels .chain 0 tokens e := by
  intro fuel depth rest success hloop
  rw [ensures_bind]
  refine (h fuel depth rest).imp ?_
  rintro _ _ ⟨rfl, rfl⟩
  exact hloop fuel rfl

/-- One more access: it has to be read with the levels and the fuel that the others leave. -/
theorem link {access : List ExpressionToken} {longer : Expression} (hlinks : links < levels)
    (h : Accepts levels .chain links tokens e)
    (hstep : ∀ fuel depth rest success enough,
      (enough → Enough .conditional (levels - (links + 1)) fuel (depth + 1)) →
      Ensures (Parser.links fuel longer) ⟨rest, depth + 1⟩ success (TooDeepUnless enough) →
      Ensures (Parser.links (fuel + 1) e) ⟨access ++ rest, depth⟩ success
        (TooDeepUnless enough)) :
    Accepts levels .chain (links + 1) (tokens ++ access) longer := by
  intro fuel depth rest success hloop
  rw [List.append_assoc]
  refine h fuel depth _ success fun remaining hremaining ↦ ?_
  cases remaining with
  | zero => exact ⟨rfl, fun h ↦ by simp only [Enough, Phrase.calls] at h; omega⟩
  | succ remaining =>
    refine hstep remaining (depth + links) rest success _ (fun h ↦ ?_) (hloop remaining (by omega))
    simp only [Enough, Phrase.calls] at *
    omega

theorem named (name : String) (dot word : Nat) (hlinks : links < levels)
    (h : Accepts levels .chain links tokens e) :
    Accepts levels .chain (links + 1)
      (tokens ++ [⟨.punctuator .dot, dot⟩, ⟨.name name, word⟩]) (.member e name false) := by
  refine h.link hlinks fun fuel depth rest success enough henough hloop ↦ ?_
  rw [Parser.links, ensures_bind, ensures_peek]
  simp only [List.cons_append, nextPunctuator?_cons, ensures_bind, ensures_skip, ensures_enter]
  split
  case isFalse hroom => exact ⟨rfl, fun h ↦ by have := (henough h).2; omega⟩
  rw [ensures_propertyName]
  exact hloop

theorem optionalNamed (name : String) (dot word : Nat) (hlinks : links < levels)
    (h : Accepts levels .chain links tokens e) :
    Accepts levels .chain (links + 1)
      (tokens ++ [⟨.punctuator .optionalDot, dot⟩, ⟨.name name, word⟩])
      (.member e name true) := by
  refine h.link hlinks fun fuel depth rest success enough henough hloop ↦ ?_
  rw [Parser.links, ensures_bind, ensures_peek]
  simp only [List.cons_append, nextPunctuator?_cons, ensures_bind, ensures_skip, ensures_enter]
  split
  case isFalse hroom => exact ⟨rfl, fun h ↦ by have := (henough h).2; omega⟩
  rw [ensures_eat]
  exact hloop

theorem computed (opening closing : Nat) (hlinks : links < levels)
    (h : Accepts levels .chain links tokens e)
    (hkey : Accepts (levels - (links + 1)) .conditional 0 inner key) :
    Accepts levels .chain (links + 1)
      (tokens ++ ⟨.punctuator .openBracket, opening⟩ :: (inner ++
        [⟨.punctuator .closeBracket, closing⟩]))
      (.index e key false) := by
  refine h.link hlinks fun fuel depth rest success enough henough hloop ↦ ?_
  rw [List.cons_append, List.append_assoc, Parser.links, ensures_bind, ensures_peek]
  simp only [nextPunctuator?_cons, ensures_bind, ensures_skip, ensures_enter]
  split
  case isFalse hroom => exact ⟨rfl, fun h ↦ by have := (henough h).2; omega⟩
  refine (hkey fuel (depth + 1) _ (closed_cons (.inr (.inl rfl)) closing rest)).mono ?_
    (TooDeepUnless.weaken henough)
  rintro _ _ ⟨rfl, rfl⟩
  rw [ensures_expect]
  exact hloop

theorem optionalComputed (dot opening closing : Nat) (hlinks : links < levels)
    (h : Accepts levels .chain links tokens e)
    (hkey : Accepts (levels - (links + 1)) .conditional 0 inner key) :
    Accepts levels .chain (links + 1)
      (tokens ++ ⟨.punctuator .optionalDot, dot⟩ :: ⟨.punctuator .openBracket, opening⟩ ::
        (inner ++ [⟨.punctuator .closeBracket, closing⟩]))
      (.index e key true) := by
  refine h.link hlinks fun fuel depth rest success enough henough hloop ↦ ?_
  rw [List.cons_append, List.cons_append, List.append_assoc, Parser.links, ensures_bind,
    ensures_peek]
  simp only [nextPunctuator?_cons, ensures_bind, ensures_skip, ensures_enter]
  split
  case isFalse hroom => exact ⟨rfl, fun h ↦ by have := (henough h).2; omega⟩
  rw [ensures_eat, List.tail_cons, if_pos (nextPunctuator?_cons ..), if_pos rfl, ensures_bind]
  refine (hkey fuel (depth + 1) _ (closed_cons (.inr (.inl rfl)) closing rest)).mono ?_
    (TooDeepUnless.weaken henough)
  rintro _ _ ⟨rfl, rfl⟩
  rw [ensures_bind, ensures_expect]
  exact hloop

/-- A primary expression of one token, whatever the rest of the tokens. -/
theorem single {token : ExpressionToken}
    (h : ∀ fuel depth rest, Parser.primary (fuel + 1) ⟨token :: rest, depth⟩ =
      .ok e ⟨rest, depth⟩) : Accepts levels .primary 0 [token] e := by
  intro fuel depth rest
  cases fuel with
  | zero => exact ⟨rfl, not_enough_zero⟩
  | succ fuel =>
    rw [Ensures, List.singleton_append, h]
    exact ⟨rfl, rfl⟩

theorem enclosed (opening closing : Nat) (h : Accepts levels .conditional 0 inner e) :
    Accepts levels .primary 0
      (⟨.punctuator .openParenthesis, opening⟩ :: (inner ++
        [⟨.punctuator .closeParenthesis, closing⟩])) e := by
  intro fuel depth rest
  cases fuel with
  | zero => exact ⟨rfl, not_enough_zero⟩
  | succ fuel =>
    rw [List.cons_append, List.append_assoc, primary, ensures_bind, ensures_next?]
    simp only [List.head?_cons, List.tail_cons, ensures_bind]
    refine (h fuel depth _ (closed_cons (.inr (.inr rfl)) closing rest)).mono ?_
      (TooDeepUnless.weaken (Enough.of_succ rfl))
    rintro _ _ ⟨rfl, rfl⟩
    rw [ensures_expect]
    exact ⟨rfl, rfl⟩

end Accepts

end Parser

namespace Fits

variable {levels links : Nat} {phrase : Phrase} {tokens : List ExpressionToken} {e : Expression}

/-- A chain does not start with a prefix operator. -/
theorem beforeOperand?_eq_none (h : Fits levels phrase links tokens e)
    (hphrase : phrase = .chain ∨ phrase = .primary) (rest : List ExpressionToken) :
    (Parser.nextPunctuator? (tokens ++ rest)).bind Punctuator.beforeOperand? = none := by
  induction h generalizing rest with
  | root _ ih => exact ih (.inr rfl) rest
  | named _ _ _ _ _ ih => rw [List.append_assoc]; exact ih (.inl rfl) _
  | optionalNamed _ _ _ _ _ ih => rw [List.append_assoc]; exact ih (.inl rfl) _
  | computed _ _ _ _ _ ih _ => rw [List.append_assoc]; exact ih (.inl rfl) _
  | optionalComputed _ _ _ _ _ _ ih _ => rw [List.append_assoc]; exact ih (.inl rfl) _
  | number | text | word | enclosed => rfl
  | alone | choice | operand | operation | bare | prefixed => simp at hphrase

/-- What fits within some levels is read, or fails where there are not as many levels. -/
theorem accepts (h : Fits levels phrase links tokens e) :
    Parser.Accepts levels phrase links tokens e := by
  -- The induction follows the rules of the grammar, not the calls of the readers.
  induction h with
  | alone hfits ih => exact ih.alone hfits.links_le
  | choice question colon hfits _ _ ihTest ihConsequent ihAlternate =>
    exact .choice question colon ihTest hfits.links_le ihConsequent ihAlternate
  | operand _ ih => exact ih.operand
  | operation offset hp hleast hlinks _ hright ihLeft ihRight =>
    exact .operation offset hp hleast hlinks ihLeft ihRight hright.links_le
  | bare hfits ih => exact ih.bare hfits.links_le (hfits.beforeOperand?_eq_none (.inl rfl))
  | prefixed offset hp _ ih => exact ih.prefixed offset (standsBefore_iff.mp hp)
  | root _ ih => exact ih.root
  | named name dot word hlinks _ ih => exact ih.named name dot word hlinks
  | optionalNamed name dot word hlinks _ ih => exact ih.optionalNamed name dot word hlinks
  | computed opening closing hlinks _ _ ih ihKey => exact ih.computed opening closing hlinks ihKey
  | optionalComputed dot opening closing hlinks _ _ ih ihKey =>
    exact ih.optionalComputed dot opening closing hlinks ihKey
  | number | text => exact .single fun _ _ _ ↦ rfl
  | word offset hword =>
    cases denotes_iff.mp hword
    exact .single fun _ _ _ ↦ rfl
  | enclosed opening closing _ ih => exact ih.enclosed opening closing

end Fits

end FieldTags
