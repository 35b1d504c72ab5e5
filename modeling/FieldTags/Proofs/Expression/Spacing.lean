import FieldTags.Expression.Lexer
import Mathlib.Tactic.Common

/-!
# Reading spaced tokens

A token that is written out and followed by a space is read back by itself, so a list of tokens that
is written with a space behind each token is read back as a whole. Blanks in front of tokens only move
them, by the bytes that they take up.
-/

namespace FieldTags.Lexer

/-! ## Blanks -/

theorem byteCount_eq (cs : List Char) : byteCount cs = (String.ofList cs).utf8ByteSize := by
  have hfold (count : Nat) : cs.foldl (fun count c ↦ count + c.utf8Size) count =
      count + (String.ofList cs).utf8ByteSize := by
    induction cs generalizing count with
    | nil => rfl
    | cons c rest ih =>
      rw [List.foldl_cons, ih, String.ofList_cons, String.utf8ByteSize_append,
        String.utf8ByteSize_singleton, Nat.add_assoc]
  rw [byteCount, hfold, Nat.zero_add]

theorem byteCount_append (before after : List Char) :
    byteCount (before ++ after) = byteCount before + byteCount after := by
  rw [byteCount_eq, byteCount_eq, byteCount_eq, String.ofList_append, String.utf8ByteSize_append]

/-- Blanks only move the tokens behind them. -/
theorem tokensFrom_blanks {gap : List Char} (h : gap.all Text.isBlank = true) (offset : Nat)
    (rest : List Char) :
    tokensFrom offset (gap ++ rest) = tokensFrom (offset + byteCount gap) rest := by
  induction gap generalizing offset with
  | nil => rfl
  | cons c more ih =>
    have hcount : byteCount (c :: more) = c.utf8Size + byteCount more := by
      rw [byteCount_eq, byteCount_eq, String.ofList_cons, String.utf8ByteSize_append,
        String.utf8ByteSize_singleton]
    rw [List.all_cons, Bool.and_eq_true] at h
    rw [List.cons_append, tokensFrom_of_isBlank h.1, ih h.2, hcount, Nat.add_assoc]

/-! ## Tokens with spaces behind them -/

/-- The text is read as tokens of the given kinds, wherever it starts. -/
def Lexes (cs : List Char) (kinds : List TokenKind) : Prop :=
  ∀ offset, ∃ tokens, tokensFrom offset cs = .ok tokens ∧ tokens.map ExpressionToken.kind = kinds

/-- The text, followed by a space, is read as one token. -/
def Spells (cs : List Char) (kind : TokenKind) : Prop :=
  ∃ c more, cs = c :: more ∧ Text.isBlank c = false ∧
    ∀ offset rest, scan offset c (more ++ ' ' :: rest) = .ok (kind, more.length)

theorem spells_punctuator (p : Punctuator) : Spells p.chars (.punctuator p) := by
  cases p <;> exact ⟨_, _, rfl, rfl, fun _ _ ↦ rfl⟩

theorem lexes_nil : Lexes [] [] := by
  intro offset
  exact ⟨[], tokensFrom_nil offset, rfl⟩

/-- A space in front of a text only moves its tokens. -/
theorem Lexes.space {cs : List Char} {kinds : List TokenKind} (h : Lexes cs kinds) :
    Lexes (' ' :: cs) kinds := by
  intro offset
  have hblank : Text.isBlank ' ' = true := rfl
  rw [tokensFrom_of_isBlank hblank]
  exact h _

/-- A token stands in front of the tokens of the text behind it. -/
theorem Lexes.of_scan {c : Char} {more rest : List Char} {kind : TokenKind}
    {kinds : List TokenKind} (hblank : Text.isBlank c = false)
    (hscan : ∀ offset, scan offset c (more ++ rest) = .ok (kind, more.length))
    (hrest : Lexes rest kinds) : Lexes (c :: (more ++ rest)) (kind :: kinds) := by
  intro offset
  obtain ⟨tokens, htokens, hkinds⟩ :=
    hrest (offset + byteCount (c :: (more ++ rest).take more.length))
  refine ⟨⟨kind, offset⟩ :: tokens, ?_, by rw [List.map_cons, hkinds]⟩
  exact tokensFrom_of_scan hblank (hscan offset) (by rw [List.drop_left, htokens])

/-- A spelled token stands in front of the tokens of the text behind its space. -/
theorem Lexes.cons {cs rest : List Char} {kind : TokenKind} {kinds : List TokenKind}
    (hcs : Spells cs kind) (hrest : Lexes rest kinds) :
    Lexes (cs ++ ' ' :: rest) (kind :: kinds) := by
  obtain ⟨c, more, rfl, hblank, hscan⟩ := hcs
  exact Lexes.of_scan hblank (fun offset ↦ hscan offset rest) hrest.space

/-- The tokens written one after the other, with a space behind each. -/
def spaced (spelling : TokenKind → List Char) (kinds : List TokenKind) : List Char :=
  kinds.flatMap fun kind ↦ spelling kind ++ [' ']

/-- Spaced tokens are read back. -/
theorem lexes_spaced {spelling : TokenKind → List Char} {kinds : List TokenKind}
    (h : ∀ kind ∈ kinds, Spells (spelling kind) kind) : Lexes (spaced spelling kinds) kinds := by
  induction kinds with
  | nil => exact lexes_nil
  | cons kind kinds ih =>
    have htail := ih fun other hother ↦ h other (List.mem_cons_of_mem _ hother)
    have hhead := h kind (List.mem_cons_self ..)
    have hsplit : spaced spelling (kind :: kinds) =
        spelling kind ++ ' ' :: spaced spelling kinds := by
      simp [spaced]
    rw [hsplit]
    exact Lexes.cons hhead htail

end FieldTags.Lexer
