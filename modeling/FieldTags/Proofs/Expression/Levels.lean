import FieldTags.Proofs.Expression.Grammar

/-!
# Derivations within a number of levels

A refinement of the stratified grammar that counts levels. An expression takes a level for itself
and so does a prefix operator. The links of a chain take their levels one after the other: the part
behind the first operator or access has one level less than the chain, the part behind the second
has two less, and the first part of the chain has them all. Every derivation fits within some number
of levels, and one that fits within a number fits within every greater one.
-/

namespace FieldTags

/--
The tokens make up an expression within a number of levels. For operands joined by operators and for
accesses, `links` is the number of operators or accesses that follow each other in the phrase.
-/
inductive Fits : Nat → Phrase → Nat → List ExpressionToken → Expression → Prop
  | alone {levels links : Nat} {tokens : List ExpressionToken} {e : Expression} :
      Fits levels (.binary 1) links tokens e → Fits (levels + 1) .conditional 0 tokens e
  | choice {levels links : Nat} {first second third : List ExpressionToken}
      {test consequent alternate : Expression} (question colon : Nat) :
      Fits levels (.binary 1) links first test →
      Fits levels .conditional 0 second consequent →
      Fits levels .conditional 0 third alternate →
      Fits (levels + 1) .conditional 0
        (first ++ ⟨.punctuator .question, question⟩ :: (second ++
          ⟨.punctuator .colon, colon⟩ :: third))
        (.conditional test consequent alternate)
  | operand {levels least : Nat} {tokens : List ExpressionToken} {e : Expression} :
      Fits levels .unary 0 tokens e → Fits levels (.binary least) 0 tokens e
  | operation {levels least precedence links inner : Nat} {p : Punctuator}
      {operator : InfixOperator} {before behind : List ExpressionToken} {left right : Expression}
      (offset : Nat) :
      p.betweenOperands? = some (precedence, operator) →
      least ≤ precedence →
      links < levels →
      Fits levels (.binary precedence) links before left →
      Fits (levels - (links + 1)) (.binary (precedence + 1)) inner behind right →
      Fits levels (.binary least) (links + 1) (before ++ ⟨.punctuator p, offset⟩ :: behind)
        (operator.apply left right)
  | bare {levels links : Nat} {tokens : List ExpressionToken} {e : Expression} :
      Fits levels .chain links tokens e → Fits levels .unary 0 tokens e
  | prefixed {levels : Nat} {p : Punctuator} {operator : UnaryOperator}
      {tokens : List ExpressionToken} {e : Expression} (offset : Nat) :
      StandsBefore p operator →
      Fits levels .unary 0 tokens e →
      Fits (levels + 1) .unary 0 (⟨.punctuator p, offset⟩ :: tokens) (.unary operator e)
  | root {levels : Nat} {tokens : List ExpressionToken} {e : Expression} :
      Fits levels .primary 0 tokens e → Fits levels .chain 0 tokens e
  | named {levels links : Nat} {tokens : List ExpressionToken} {e : Expression} (name : String)
      (dot word : Nat) :
      links < levels →
      Fits levels .chain links tokens e →
      Fits levels .chain (links + 1) (tokens ++ [⟨.punctuator .dot, dot⟩, ⟨.name name, word⟩])
        (.member e name false)
  | optionalNamed {levels links : Nat} {tokens : List ExpressionToken} {e : Expression}
      (name : String) (dot word : Nat) :
      links < levels →
      Fits levels .chain links tokens e →
      Fits levels .chain (links + 1)
        (tokens ++ [⟨.punctuator .optionalDot, dot⟩, ⟨.name name, word⟩]) (.member e name true)
  | computed {levels links : Nat} {tokens inner : List ExpressionToken} {e key : Expression}
      (opening closing : Nat) :
      links < levels →
      Fits levels .chain links tokens e →
      Fits (levels - (links + 1)) .conditional 0 inner key →
      Fits levels .chain (links + 1)
        (tokens ++ ⟨.punctuator .openBracket, opening⟩ :: (inner ++
          [⟨.punctuator .closeBracket, closing⟩]))
        (.index e key false)
  | optionalComputed {levels links : Nat} {tokens inner : List ExpressionToken}
      {e key : Expression} (dot opening closing : Nat) :
      links < levels →
      Fits levels .chain links tokens e →
      Fits (levels - (links + 1)) .conditional 0 inner key →
      Fits levels .chain (links + 1)
        (tokens ++ ⟨.punctuator .optionalDot, dot⟩ :: ⟨.punctuator .openBracket, opening⟩ ::
          (inner ++ [⟨.punctuator .closeBracket, closing⟩]))
        (.index e key true)
  | number {levels : Nat} (x : Binary64) (offset : Nat) :
      Fits levels .primary 0 [⟨.number x, offset⟩] (.literal (.number x))
  | text {levels : Nat} (s : String) (offset : Nat) :
      Fits levels .primary 0 [⟨.text s, offset⟩] (.literal (.text s))
  | word {levels : Nat} {word : String} {e : Expression} (offset : Nat) :
      Denotes word e → Fits levels .primary 0 [⟨.name word, offset⟩] e
  | enclosed {levels : Nat} {inner : List ExpressionToken} {e : Expression}
      (opening closing : Nat) :
      Fits levels .conditional 0 inner e →
      Fits levels .primary 0
        (⟨.punctuator .openParenthesis, opening⟩ :: (inner ++
          [⟨.punctuator .closeParenthesis, closing⟩]))
        e

namespace Fits

variable {levels links : Nat} {phrase : Phrase} {tokens : List ExpressionToken} {e : Expression}

/-- Forgetting the levels leaves a derivation of the stratified grammar. -/
theorem derives (h : Fits levels phrase links tokens e) :
    Derives .ofOperator phrase tokens e := by
  induction h with
  | alone _ ih => exact .alone ih
  | choice question colon _ _ _ ihTest ihConsequent ihAlternate =>
    exact .choice question colon ihTest ihConsequent ihAlternate
  | operand _ ih => exact .operand ih
  | operation offset hp hleast _ _ _ ihLeft ihRight =>
    exact .operation offset hp hleast ihLeft ihRight
  | bare _ ih => exact .bare ih
  | prefixed offset hp _ ih => exact .prefixed offset hp ih
  | root _ ih => exact .root ih
  | named name dot word _ _ ih => exact .named name dot word ih
  | optionalNamed name dot word _ _ ih => exact .optionalNamed name dot word ih
  | computed opening closing _ _ _ ih ihKey => exact .computed opening closing ih ihKey
  | optionalComputed dot opening closing _ _ _ ih ihKey =>
    exact .optionalComputed dot opening closing ih ihKey
  | number x offset => exact .number x offset
  | text s offset => exact .text s offset
  | word offset hword => exact .word offset hword
  | enclosed opening closing _ ih => exact .enclosed opening closing ih

/-- What fits within some levels fits within more. -/
theorem mono (h : Fits levels phrase links tokens e) :
    ∀ more, levels ≤ more → Fits more phrase links tokens e := by
  induction h with
  | alone _ ih =>
    intro more hmore
    obtain ⟨more, rfl⟩ := Nat.exists_eq_add_one_of_ne_zero (by omega : more ≠ 0)
    exact .alone (ih more (by omega))
  | choice question colon _ _ _ ihTest ihConsequent ihAlternate =>
    intro more hmore
    obtain ⟨more, rfl⟩ := Nat.exists_eq_add_one_of_ne_zero (by omega : more ≠ 0)
    exact .choice question colon (ihTest more (by omega)) (ihConsequent more (by omega))
      (ihAlternate more (by omega))
  | operand _ ih => exact fun more hmore ↦ .operand (ih more hmore)
  | operation offset hp hleast hlinks _ _ ihLeft ihRight =>
    exact fun more hmore ↦ .operation offset hp hleast (by omega) (ihLeft more hmore)
      (ihRight _ (by omega))
  | bare _ ih => exact fun more hmore ↦ .bare (ih more hmore)
  | prefixed offset hp _ ih =>
    intro more hmore
    obtain ⟨more, rfl⟩ := Nat.exists_eq_add_one_of_ne_zero (by omega : more ≠ 0)
    exact .prefixed offset hp (ih more (by omega))
  | root _ ih => exact fun more hmore ↦ .root (ih more hmore)
  | named name dot word hlinks _ ih =>
    exact fun more hmore ↦ .named name dot word (by omega) (ih more hmore)
  | optionalNamed name dot word hlinks _ ih =>
    exact fun more hmore ↦ .optionalNamed name dot word (by omega) (ih more hmore)
  | computed opening closing hlinks _ _ ih ihKey =>
    exact fun more hmore ↦ .computed opening closing (by omega) (ih more hmore)
      (ihKey _ (by omega))
  | optionalComputed dot opening closing hlinks _ _ ih ihKey =>
    exact fun more hmore ↦ .optionalComputed dot opening closing (by omega) (ih more hmore)
      (ihKey _ (by omega))
  | number x offset => exact fun _ _ ↦ .number x offset
  | text s offset => exact fun _ _ ↦ .text s offset
  | word offset hword => exact fun _ _ ↦ .word offset hword
  | enclosed opening closing _ ih =>
    exact fun more hmore ↦ .enclosed opening closing (ih more hmore)

/-- An expression takes at least the level that it stands on. -/
theorem conditional_levels_ne_zero (h : Fits levels .conditional links tokens e) : levels ≠ 0 := by
  cases h <;> omega

/-- A chain has no more links than it has levels. -/
theorem links_le (h : Fits levels phrase links tokens e) : links ≤ levels := by
  cases h <;> omega

/-- Only operands joined by operators and accesses behind an object are counted as links. -/
theorem links_eq_zero (h : Fits levels phrase links tokens e) (hbinary : ∀ n, phrase ≠ .binary n)
    (hchain : phrase ≠ .chain) : links = 0 := by
  cases h <;> simp at hbinary hchain ⊢

end Fits

/-- What derives from the stratified grammar fits within some number of levels. -/
theorem Derives.exists_fits {phrase : Phrase} {tokens : List ExpressionToken} {e : Expression}
    (h : Derives .ofOperator phrase tokens e) :
    ∃ levels links, Fits levels phrase links tokens e := by
  -- The parts need not ask for the same levels; the sum is enough for all of them.
  induction h with
  | alone _ ih =>
    obtain ⟨levels, links, hfits⟩ := ih
    exact ⟨levels + 1, 0, .alone hfits⟩
  | choice question colon _ _ _ ihTest ihConsequent ihAlternate =>
    obtain ⟨a, links, htest⟩ := ihTest
    obtain ⟨b, _, hconsequent⟩ := ihConsequent
    obtain ⟨c, _, halternate⟩ := ihAlternate
    obtain rfl := hconsequent.links_eq_zero (by simp) (by simp)
    obtain rfl := halternate.links_eq_zero (by simp) (by simp)
    exact ⟨a + b + c + 1, 0, .choice question colon (htest.mono _ (by omega))
      (hconsequent.mono _ (by omega)) (halternate.mono _ (by omega))⟩
  | operand _ ih =>
    obtain ⟨levels, _, hfits⟩ := ih
    obtain rfl := hfits.links_eq_zero (by simp) (by simp)
    exact ⟨levels, 0, .operand hfits⟩
  | operation offset hp hleast _ _ ihLeft ihRight =>
    obtain ⟨a, links, hleft⟩ := ihLeft
    obtain ⟨b, inner, hright⟩ := ihRight
    exact ⟨a + b + (links + 1), links + 1, .operation offset hp hleast (by omega)
      (hleft.mono _ (by omega)) (hright.mono _ (by omega))⟩
  | bare _ ih =>
    obtain ⟨levels, links, hfits⟩ := ih
    exact ⟨levels, 0, .bare hfits⟩
  | prefixed offset hp _ ih =>
    obtain ⟨levels, _, hfits⟩ := ih
    obtain rfl := hfits.links_eq_zero (by simp) (by simp)
    exact ⟨levels + 1, 0, .prefixed offset hp hfits⟩
  | root _ ih =>
    obtain ⟨levels, _, hfits⟩ := ih
    obtain rfl := hfits.links_eq_zero (by simp) (by simp)
    exact ⟨levels, 0, .root hfits⟩
  | named name dot word _ ih =>
    obtain ⟨levels, links, hfits⟩ := ih
    exact ⟨levels + (links + 1), links + 1, .named name dot word (by omega)
      (hfits.mono _ (by omega))⟩
  | optionalNamed name dot word _ ih =>
    obtain ⟨levels, links, hfits⟩ := ih
    exact ⟨levels + (links + 1), links + 1, .optionalNamed name dot word (by omega)
      (hfits.mono _ (by omega))⟩
  | computed opening closing _ _ ih ihKey =>
    obtain ⟨a, links, hfits⟩ := ih
    obtain ⟨b, _, hkey⟩ := ihKey
    obtain rfl := hkey.links_eq_zero (by simp) (by simp)
    exact ⟨a + b + (links + 1), links + 1, .computed opening closing (by omega)
      (hfits.mono _ (by omega)) (hkey.mono _ (by omega))⟩
  | optionalComputed dot opening closing _ _ ih ihKey =>
    obtain ⟨a, links, hfits⟩ := ih
    obtain ⟨b, _, hkey⟩ := ihKey
    obtain rfl := hkey.links_eq_zero (by simp) (by simp)
    exact ⟨a + b + (links + 1), links + 1, .optionalComputed dot opening closing (by omega)
      (hfits.mono _ (by omega)) (hkey.mono _ (by omega))⟩
  | number x offset => exact ⟨0, 0, .number x offset⟩
  | text s offset => exact ⟨0, 0, .text s offset⟩
  | word offset hword => exact ⟨0, 0, .word offset hword⟩
  | enclosed opening closing _ ih =>
    obtain ⟨levels, _, hfits⟩ := ih
    obtain rfl := hfits.links_eq_zero (by simp) (by simp)
    exact ⟨levels, 0, .enclosed opening closing hfits⟩

end FieldTags
