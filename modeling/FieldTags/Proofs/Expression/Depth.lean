import FieldTags.Proofs.Expression.Recognition
import FieldTags.Proofs.Expression.Spacing
import Mathlib.Tactic.Ring
import Mathlib.Tactic.SplitIfs

/-!
# How deep expressions are

The depth of an expression is the greatest number of operators on a way from its root to a leaf. The
number of levels that expressions are read with does not bound this depth. A chain takes a level for
every link, but its first part is read before the links and has all levels for itself, although the
links end up above it. What bounds the depth is the square of the number of levels, and the bound is
exact: the deepest expression is a choice whose test is a chain of additions; the first term is a
chain of accesses, and its object is an expression of the same kind in parentheses, which has one
level less.
-/

namespace FieldTags

namespace Expression

/-- The greatest number of operators and accesses on a way from the root to a leaf. -/
def operatorDepth : Expression → Nat
  | .literal _ => 0
  | .identifier _ => 0
  | .member object _ _ => object.operatorDepth + 1
  | .index object key _ => max object.operatorDepth key.operatorDepth + 1
  | .unary _ operand => operand.operatorDepth + 1
  | .binary _ left right => max left.operatorDepth right.operatorDepth + 1
  | .logical _ left right => max left.operatorDepth right.operatorDepth + 1
  | .conditional test consequent alternate =>
    max test.operatorDepth (max consequent.operatorDepth alternate.operatorDepth) + 1

theorem operatorDepth_apply (operator : InfixOperator) (left right : Expression) :
    (operator.apply left right).operatorDepth =
      max left.operatorDepth right.operatorDepth + 1 := by
  cases operator <;> rfl

end Expression

/-! ## The bound -/

/-- The greatest depth of an expression within some levels. -/
def deepest (levels : Nat) : Nat := levels ^ 2 - 1

/-- One level more makes room for a choice and for two chains with all the other levels. -/
theorem deepest_succ {levels : Nat} (h : levels ≠ 0) :
    deepest (levels + 1) = deepest levels + 2 * levels + 1 := by
  have hsquare : (levels + 1) ^ 2 = levels ^ 2 + 2 * levels + 1 := by ring
  have hpos : 0 < levels ^ 2 := Nat.pow_pos (Nat.pos_of_ne_zero h)
  unfold deepest
  omega

theorem deepest_mono {levels more : Nat} (h : levels ≤ more) : deepest levels ≤ deepest more :=
  Nat.sub_le_sub_right (Nat.pow_le_pow_left h 2) 1

/-- What stands behind a link leaves room for the link and for all links before it. -/
theorem deepest_behind {levels inner : Nat} (h : inner < levels) :
    deepest inner + 2 * inner ≤ deepest levels := by
  have hmono := deepest_mono (show inner + 1 ≤ levels by omega)
  by_cases hinner : inner = 0
  · subst hinner
    simp [deepest]
  · have hsucc := deepest_succ hinner
    omega

def Phrase.deepest (levels links : Nat) : Phrase → Nat
  | .conditional => FieldTags.deepest levels
  | .binary _ => FieldTags.deepest levels + levels + links
  | .unary => FieldTags.deepest levels + levels
  | .chain => FieldTags.deepest levels + links
  | .primary => FieldTags.deepest levels

/-- A phrase within some levels is not deeper than its kind allows. -/
theorem Fits.operatorDepth_le {levels links : Nat} {phrase : Phrase}
    {tokens : List ExpressionToken} {e : Expression} (h : Fits levels phrase links tokens e) :
    e.operatorDepth ≤ phrase.deepest levels links := by
  induction h with
  | @alone levels _ _ _ hfits ih =>
    -- The links of the chain and of its first part are what the last level adds.
    have hlinks := hfits.links_le
    simp only [Phrase.deepest] at *
    by_cases hlevels : levels = 0
    · subst hlevels
      simp [deepest] at *
      omega
    · have hsucc := deepest_succ hlevels
      omega
  | choice question colon htest hconsequent _ ihTest ihConsequent ihAlternate =>
    have hlinks := htest.links_le
    have hsucc := deepest_succ hconsequent.conditional_levels_ne_zero
    simp only [Phrase.deepest, Expression.operatorDepth] at *
    omega
  | operand _ ih => simpa only [Phrase.deepest, Nat.add_zero] using ih
  | @operation levels _ _ links _ _ _ _ _ _ _ _ hp hleast hlinks hleft hright ihLeft ihRight =>
    -- A right operand with many levels stands behind few links, and so has few of them above it.
    have hinner := hright.links_le
    have hbehind := deepest_behind (show levels - (links + 1) < levels by omega)
    simp only [Phrase.deepest, Expression.operatorDepth_apply] at *
    omega
  | bare hfits ih =>
    have hlinks := hfits.links_le
    simp only [Phrase.deepest] at *
    omega
  | @prefixed levels _ _ _ _ _ _ _ ih =>
    have hmono := deepest_mono (Nat.le_succ levels)
    simp only [Phrase.deepest, Expression.operatorDepth, Nat.succ_eq_add_one] at *
    omega
  | root _ ih => exact ih
  | named _ _ _ _ _ ih =>
    simp only [Phrase.deepest, Expression.operatorDepth] at *
    omega
  | optionalNamed _ _ _ _ _ ih =>
    simp only [Phrase.deepest, Expression.operatorDepth] at *
    omega
  | @computed levels links _ _ _ _ _ _ hlinks _ _ ih ihKey =>
    have hmono := deepest_mono (show levels - (links + 1) ≤ levels by omega)
    simp only [Phrase.deepest, Expression.operatorDepth] at *
    omega
  | @optionalComputed levels links _ _ _ _ _ _ _ hlinks _ _ ih ihKey =>
    have hmono := deepest_mono (show levels - (links + 1) ≤ levels by omega)
    simp only [Phrase.deepest, Expression.operatorDepth] at *
    omega
  | number => exact Nat.zero_le _
  | text => exact Nat.zero_le _
  | word _ hword => cases hword <;> exact Nat.zero_le _
  | enclosed _ _ _ ih => exact ih

/-! ## The deepest expressions -/

namespace Expression

/-- An object with accesses to the member `x` behind it. -/
def withAccesses (object : Expression) : Nat → Expression
  | 0 => object
  | count + 1 => .member (withAccesses object count) "x" false

/-- A first term with additions of `x` behind it. -/
def withAdditions (first : Expression) : Nat → Expression
  | 0 => first
  | count + 1 => .binary .add (withAdditions first count) (.identifier "x")

/-- The deepest expression within one level more than the given number. -/
def deep : Nat → Expression
  | 0 => .identifier "x"
  | count + 1 =>
    .conditional (withAdditions (withAccesses (deep count) (count + 1)) (count + 1))
      (.identifier "x") (.identifier "x")

theorem operatorDepth_withAccesses (object : Expression) (count : Nat) :
    (withAccesses object count).operatorDepth = object.operatorDepth + count := by
  induction count with
  | zero => rfl
  | succ count ih => rw [withAccesses, operatorDepth, ih, Nat.add_assoc]

theorem operatorDepth_withAdditions (first : Expression) (count : Nat) :
    (withAdditions first count).operatorDepth = first.operatorDepth + count := by
  induction count with
  | zero => rfl
  | succ count ih =>
    rw [withAdditions, operatorDepth, ih, operatorDepth, Nat.max_zero, Nat.add_assoc]

theorem operatorDepth_deep (count : Nat) : (deep count).operatorDepth = deepest (count + 1) := by
  induction count with
  | zero => rfl
  | succ count ih =>
    have hsucc := deepest_succ (Nat.succ_ne_zero count)
    simp only [deep, operatorDepth, operatorDepth_withAdditions, operatorDepth_withAccesses, ih]
    simp only [Nat.succ_eq_add_one] at hsucc
    omega

end Expression

namespace TokenKind

def accesses : Nat → List TokenKind
  | 0 => []
  | count + 1 => accesses count ++ [.punctuator .dot, .name "x"]

def additions : Nat → List TokenKind
  | 0 => []
  | count + 1 => additions count ++ [.punctuator .plus, .name "x"]

/-- The tokens of the deepest expression within one level more than the given number. -/
def deep : Nat → List TokenKind
  | 0 => [.name "x"]
  | count + 1 =>
    .punctuator .openParenthesis :: (deep count ++ .punctuator .closeParenthesis ::
      (accesses (count + 1) ++ (additions (count + 1) ++
        [.punctuator .question, .name "x", .punctuator .colon, .name "x"])))

end TokenKind

section Family

variable {levels : Nat} {tokens : List ExpressionToken} {kinds : List TokenKind} {e : Expression}

theorem fits_x (h : tokens.map ExpressionToken.kind = [.name "x"]) :
    Fits levels .primary 0 tokens (.identifier "x") := by
  obtain ⟨⟨_, offset⟩, rfl, rfl⟩ := List.map_eq_singleton_iff.mp h
  exact .word offset (.identifier (by decide))

/-- Accesses behind a primary expression fit if there is a level for each of them. -/
theorem fits_accesses
    (hobject : ∀ tokens, tokens.map ExpressionToken.kind = kinds → Fits levels .primary 0 tokens e)
    {count : Nat} (hcount : count ≤ levels)
    (h : tokens.map ExpressionToken.kind = kinds ++ TokenKind.accesses count) :
    Fits levels .chain count tokens (e.withAccesses count) := by
  induction count generalizing tokens with
  | zero => exact .root (hobject tokens (by simpa [TokenKind.accesses] using h))
  | succ count ih =>
    rw [TokenKind.accesses, ← List.append_assoc] at h
    obtain ⟨before, link, rfl, hbefore, hlink⟩ := List.map_eq_append_iff.mp h
    obtain ⟨⟨_, dot⟩, word, rfl, rfl, hword⟩ := List.map_eq_cons_iff.mp hlink
    obtain ⟨⟨_, offset⟩, rfl, rfl⟩ := List.map_eq_singleton_iff.mp hword
    exact .named "x" dot offset (by omega) (ih (by omega) hbefore)

/-- Additions behind a unary expression fit if there is a level for each of them. -/
theorem fits_additions
    (hfirst : ∀ tokens, tokens.map ExpressionToken.kind = kinds → Fits levels .unary 0 tokens e)
    {count : Nat} (hcount : count ≤ levels) {least : Nat} (hleast : least ≤ 6)
    (h : tokens.map ExpressionToken.kind = kinds ++ TokenKind.additions count) :
    Fits levels (.binary least) count tokens (e.withAdditions count) := by
  induction count generalizing tokens least with
  | zero => exact .operand (hfirst tokens (by simpa [TokenKind.additions] using h))
  | succ count ih =>
    rw [TokenKind.additions, ← List.append_assoc] at h
    obtain ⟨before, link, rfl, hbefore, hlink⟩ := List.map_eq_append_iff.mp h
    obtain ⟨⟨_, plus⟩, word, rfl, rfl, hword⟩ := List.map_eq_cons_iff.mp hlink
    exact .operation plus (p := .plus) rfl hleast (by omega) (ih (by omega) (Nat.le_refl 6) hbefore)
      (.operand (.bare (.root (fits_x hword))))

/-- The deepest expression fits, wherever its tokens stand. -/
theorem fits_deep (count : Nat) (tokens : List ExpressionToken)
    (h : tokens.map ExpressionToken.kind = TokenKind.deep count) :
    Fits (count + 1) .conditional 0 tokens (Expression.deep count) := by
  induction count generalizing tokens with
  | zero => exact .alone (.operand (.bare (.root (fits_x h))))
  | succ count ih =>
    have hx {levels : Nat} {tokens : List ExpressionToken}
        (h : tokens.map ExpressionToken.kind = [.name "x"]) :
        Fits (levels + 1) .conditional 0 tokens (.identifier "x") :=
      .alone (.operand (.bare (.root (fits_x h))))
    have henclosed (inner : List ExpressionToken) (h : inner.map ExpressionToken.kind =
        .punctuator .openParenthesis ::
          (TokenKind.deep count ++ [.punctuator .closeParenthesis])) :
        Fits (count + 1) .primary 0 inner (Expression.deep count) := by
      obtain ⟨⟨_, opening⟩, tail, rfl, rfl, htail⟩ := List.map_eq_cons_iff.mp h
      obtain ⟨inside, last, rfl, hinside, hlast⟩ := List.map_eq_append_iff.mp htail
      obtain ⟨⟨_, closing⟩, rfl, rfl⟩ := List.map_eq_singleton_iff.mp hlast
      exact .enclosed opening closing (ih inside hinside)
    have hgroup : TokenKind.deep (count + 1) =
        (.punctuator .openParenthesis :: (TokenKind.deep count ++
          [.punctuator .closeParenthesis]) ++ TokenKind.accesses (count + 1)) ++
          TokenKind.additions (count + 1) ++
            [.punctuator .question, .name "x", .punctuator .colon, .name "x"] := by
      simp [TokenKind.deep]
    rw [hgroup] at h
    obtain ⟨test, choice, rfl, htest, hchoice⟩ := List.map_eq_append_iff.mp h
    obtain ⟨⟨_, question⟩, parts, rfl, rfl, hparts⟩ := List.map_eq_cons_iff.mp hchoice
    have hsplit : parts.map ExpressionToken.kind =
        [.name "x"] ++ [.punctuator .colon, .name "x"] := hparts
    obtain ⟨consequent, others, rfl, hconsequent, hothers⟩ := List.map_eq_append_iff.mp hsplit
    obtain ⟨⟨_, colon⟩, alternate, rfl, rfl, halternate⟩ := List.map_eq_cons_iff.mp hothers
    have hfirst (first : List ExpressionToken) (h : first.map ExpressionToken.kind =
        .punctuator .openParenthesis :: (TokenKind.deep count ++
          [.punctuator .closeParenthesis]) ++ TokenKind.accesses (count + 1)) :
        Fits (count + 1) .unary 0 first ((Expression.deep count).withAccesses (count + 1)) :=
      .bare (fits_accesses henclosed (Nat.le_refl _) h)
    exact .choice question colon (fits_additions hfirst (Nat.le_refl _) (by decide) htest)
      (hx hconsequent) (hx halternate)

end Family

/-! ## Texts -/

namespace TokenKind

/-- How a punctuator and the name `x` are written. -/
def spelling : TokenKind → List Char
  | .punctuator p => p.chars
  | _ => ['x']

/-- A punctuator or the name `x`. -/
def IsSpelled (kind : TokenKind) : Prop :=
  kind = .name "x" ∨ ∃ p, kind = .punctuator p

theorem IsSpelled.spells {kind : TokenKind} (h : kind.IsSpelled) :
    Lexer.Spells kind.spelling kind := by
  rcases h with rfl | ⟨p, rfl⟩
  · exact ⟨'x', [], rfl, rfl, fun _ _ ↦ rfl⟩
  · exact Lexer.spells_punctuator p

theorem isSpelled_name : IsSpelled (.name "x") :=
  Or.inl rfl

theorem isSpelled_punctuator (p : Punctuator) : IsSpelled (.punctuator p) :=
  Or.inr ⟨p, rfl⟩

theorem isSpelled_of_mem_accesses {kind : TokenKind} {count : Nat} (h : kind ∈ accesses count) :
    kind.IsSpelled := by
  induction count with
  | zero => exact absurd h List.not_mem_nil
  | succ count ih =>
    rcases List.mem_append.mp h with h | h
    · exact ih h
    · simp only [List.mem_cons, List.not_mem_nil, or_false] at h
      rcases h with rfl | rfl
      · exact isSpelled_punctuator .dot
      · exact isSpelled_name

theorem isSpelled_of_mem_additions {kind : TokenKind} {count : Nat} (h : kind ∈ additions count) :
    kind.IsSpelled := by
  induction count with
  | zero => exact absurd h List.not_mem_nil
  | succ count ih =>
    rcases List.mem_append.mp h with h | h
    · exact ih h
    · simp only [List.mem_cons, List.not_mem_nil, or_false] at h
      rcases h with rfl | rfl
      · exact isSpelled_punctuator .plus
      · exact isSpelled_name

theorem isSpelled_of_mem_deep {kind : TokenKind} {count : Nat} (h : kind ∈ deep count) :
    kind.IsSpelled := by
  induction count with
  | zero =>
    obtain rfl := List.mem_singleton.mp h
    exact isSpelled_name
  | succ count ih =>
    simp only [deep, List.mem_cons, List.mem_append, List.not_mem_nil, or_false] at h
    rcases h with rfl | h | rfl | h | h | rfl | rfl | rfl | rfl
    · exact isSpelled_punctuator _
    · exact ih h
    · exact isSpelled_punctuator _
    · exact isSpelled_of_mem_accesses h
    · exact isSpelled_of_mem_additions h
    · exact isSpelled_punctuator _
    · exact isSpelled_name
    · exact isSpelled_punctuator _
    · exact isSpelled_name

end TokenKind

namespace Expression

/-- What fits within all levels, wherever its tokens stand, is compiled from its spaced text. -/
theorem compile_spaced {kinds : List TokenKind} {e : Expression}
    (hspelled : ∀ kind ∈ kinds, kind.IsSpelled)
    (hfits : ∀ tokens, tokens.map ExpressionToken.kind = kinds →
      Fits Parser.maxDepth .conditional 0 tokens e) :
    compile (String.ofList (Lexer.spaced TokenKind.spelling kinds)) = .ok e := by
  obtain ⟨tokens, htokens, hkinds⟩ :=
    Lexer.lexes_spaced (fun kind hkind ↦ (hspelled kind hkind).spells) 0
  have hlexed : Lexer.tokens (String.ofList (Lexer.spaced TokenKind.spelling kinds)) =
      .ok tokens := by
    rw [Lexer.tokens, String.toList_ofList, htokens]
  rw [compile, hlexed]
  exact ofTokens_eq_ok_iff.mpr (hfits tokens hkinds)

/-- The depth limit holds the depth of all expressions within a bound exactly if the bound is not
below the square of the limit less one. -/
theorem forall_compile_operatorDepth_le_iff (bound : Nat) :
    (∀ (source : String) (e : Expression), compile source = .ok e → e.operatorDepth ≤ bound) ↔
      Parser.maxDepth ^ 2 - 1 ≤ bound := by
  constructor
  · intro h
    have hdeep : compile (String.ofList (Lexer.spaced TokenKind.spelling (TokenKind.deep 63))) =
        .ok (deep 63) :=
      compile_spaced (fun _ ↦ TokenKind.isSpelled_of_mem_deep) (fits_deep 63)
    calc Parser.maxDepth ^ 2 - 1
        = (deep 63).operatorDepth := (operatorDepth_deep 63).symm
      _ ≤ bound := h _ _ hdeep
  · intro hbound source e hcompile
    unfold compile at hcompile
    split at hcompile
    · cases hcompile
    · have hdepth : e.operatorDepth ≤ Parser.maxDepth ^ 2 - 1 :=
        (ofTokens_eq_ok_iff.mp hcompile).operatorDepth_le
      exact Nat.le_trans hdepth hbound

/-- A chain of additions whose first term is a chain of accesses. -/
def twoChains : Expression :=
  withAdditions (withAccesses (.identifier "x") 33) 33

/-- The text of the two chains. -/
def twoChainsSource : String :=
  String.ofList (Lexer.spaced TokenKind.spelling
    ((.name "x" :: TokenKind.accesses 33) ++ TokenKind.additions 33))

theorem compile_twoChainsSource : compile twoChainsSource = .ok twoChains := by
  have haccesses (tokens : List ExpressionToken)
      (h : tokens.map ExpressionToken.kind = [.name "x"] ++ TokenKind.accesses 33) :
      Fits 63 .unary 0 tokens (withAccesses (.identifier "x") 33) :=
    .bare (fits_accesses (fun _ ↦ fits_x) (by decide) h)
  refine compile_spaced ?_ fun tokens h ↦
    .alone (fits_additions haccesses (by decide) (by decide) h)
  intro kind hkind
  rcases List.mem_append.mp hkind with hkind | hkind
  · rcases List.mem_cons.mp hkind with rfl | hkind
    · exact TokenKind.isSpelled_name
    · exact TokenKind.isSpelled_of_mem_accesses hkind
  · exact TokenKind.isSpelled_of_mem_additions hkind

/-- The depth limit does not bound the depth: a chain in front of another takes no level from it. -/
theorem operatorDepth_not_le_maxDepth :
    ¬ ∀ (source : String) (e : Expression), compile source = .ok e →
      e.operatorDepth ≤ Parser.maxDepth := by
  intro h
  have hle := h twoChainsSource twoChains compile_twoChainsSource
  rw [twoChains, operatorDepth_withAdditions, operatorDepth_withAccesses] at hle
  exact absurd hle (by decide)

end Expression

end FieldTags
