import FieldTags.Proofs.Expression.Completeness

/-!
# Which token sequences are expressions

The tokens that are read as an expression are those that fit within the levels that there are, and
the expression is the one that they derive. Tokens that derive an expression are read as this
expression or are too deep; no other error stops them. The grammar in which a left operand may hold
whatever the whole phrase may hold is ambiguous, and the reader does not agree with it.
-/

namespace FieldTags.Expression

variable {levels : Nat} {tokens : List ExpressionToken} {e : Expression}

/-- Tokens that fit within some levels are read, unless there are not as many levels. -/
theorem ofTokens_of_fits (h : Fits levels .conditional 0 tokens e) :
    ofTokens tokens = .ok e ∨ ofTokens tokens = .error .tooDeep ∧ Parser.maxDepth < levels := by
  have hrun := h.accepts Parser.fuel 0 [] Parser.closed_nil
  rw [List.append_nil, Parser.Ensures] at hrun
  unfold ofTokens
  cases hresult : Parser.conditional Parser.fuel ⟨tokens, 0⟩ with
  | ok result s =>
    rw [hresult] at hrun
    obtain ⟨rfl, rfl⟩ := hrun
    exact .inl rfl
  | error error s =>
    rw [hresult] at hrun
    obtain ⟨rfl, hlevels⟩ := hrun
    refine .inr ⟨rfl, ?_⟩
    have hfuel : Parser.fuel = 8 * (Parser.maxDepth + 2) := rfl
    simp only [Parser.Enough, Phrase.calls] at hlevels
    omega

/-- The tokens of an expression are those that fit within the levels that there are. -/
theorem ofTokens_eq_ok_iff :
    ofTokens tokens = .ok e ↔ Fits Parser.maxDepth .conditional 0 tokens e := by
  constructor
  · exact Parser.fits_of_ofTokens
  · intro h
    rcases ofTokens_of_fits h with hok | ⟨-, hlevels⟩
    · exact hok
    · exact absurd hlevels (Nat.lt_irrefl _)

/-- What is read is derived, and what is derived is read unless it is too deep. -/
theorem ofTokens_agrees_with_grammar (tokens : List ExpressionToken) (e : Expression) :
    (ofTokens tokens = .ok e → Derives .ofOperator .conditional tokens e) ∧
      (Derives .ofOperator .conditional tokens e →
        ofTokens tokens = .ok e ∨ ofTokens tokens = .error .tooDeep) := by
  constructor
  · intro h
    exact (Parser.fits_of_ofTokens h).derives
  · intro h
    obtain ⟨levels, _, hfits⟩ := h.exists_fits
    obtain rfl := hfits.links_eq_zero (by simp) (by simp)
    exact (ofTokens_of_fits hfits).imp_right And.left

/-- The tokens of a sum whose second term is a product. -/
def sumWithProduct : List ExpressionToken :=
  [⟨.name "a", 0⟩, ⟨.punctuator .plus, 2⟩, ⟨.name "b", 4⟩, ⟨.punctuator .times, 6⟩, ⟨.name "c", 8⟩]

/-- The sum of the first name and the product of the others. -/
def sumOfProduct : Expression :=
  .binary .add (.identifier "a") (.binary .multiply (.identifier "b") (.identifier "c"))

/-- The tokens derive the sum, since it is read from them. -/
theorem derives_sumOfProduct : Derives .ofOperator .conditional sumWithProduct sumOfProduct :=
  (ofTokens_agrees_with_grammar sumWithProduct sumOfProduct).1 (by decide)

/-- The product of the first two names and the third, grouped the other way round. -/
def productOfSum : Expression :=
  .binary .multiply (.binary .add (.identifier "a") (.identifier "b")) (.identifier "c")

/-- A left operand that may hold looser operators makes a product of the sum. -/
theorem derives_productOfSum : Derives .ofPhrase .conditional sumWithProduct productOfSum := by
  have hname (word : String) (offset least : Nat) (hword : word ∉ literalWords) :
      Derives .ofPhrase (.binary least) [⟨.name word, offset⟩] (.identifier word) :=
    .operand (.bare (.root (.word offset (.identifier hword))))
  have hsum : Derives .ofPhrase (.binary 1)
      [⟨.name "a", 0⟩, ⟨.punctuator .plus, 2⟩, ⟨.name "b", 4⟩]
      (.binary .add (.identifier "a") (.identifier "b")) :=
    .operation 2 (p := .plus) rfl (by decide) (hname "a" 0 1 (by decide))
      (hname "b" 4 7 (by decide))
  exact .alone (.operation 6 (p := .times) rfl (by decide) hsum (hname "c" 8 8 (by decide)))

/-- The reader does not agree with the grammar whose left operands may hold looser operators. -/
theorem ofTokens_disagrees_with_loose_grammar :
    ¬ ∀ (tokens : List ExpressionToken) (e : Expression),
      (ofTokens tokens = .ok e → Derives .ofPhrase .conditional tokens e) ∧
        (Derives .ofPhrase .conditional tokens e →
          ofTokens tokens = .ok e ∨ ofTokens tokens = .error .tooDeep) := by
  intro h
  have hread : ofTokens sumWithProduct = .ok sumOfProduct := by decide
  rcases (h sumWithProduct productOfSum).2 derives_productOfSum with hok | hdeep
  · rw [hread] at hok
    exact absurd hok (by decide)
  · rw [hread] at hdeep
    exact absurd hdeep (by decide)

end FieldTags.Expression
