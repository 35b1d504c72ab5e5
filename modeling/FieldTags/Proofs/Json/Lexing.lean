import FieldTags.Json.Printer
import Mathlib.Tactic.Common

/-!
# Reading written tokens

The texts of tokens are written one after the other with nothing in between. Each of them is read
back, and what follows it is left, with one condition: a number is read up to the last character that
can stand in one, so no such character may follow it.
-/

namespace FieldTags.Json

/-! ## Strings -/

theorem hexValue?_digitChar : ∀ d < 16, Text.hexValue? (Nat.digitChar d) = some d := by
  decide

/-- A control character is read from its code. -/
theorem readUnicodeEscape_control {c : Char} (h : c.toNat < 32) (rest : List Char) :
    readUnicodeEscape ('0' :: '0' :: Nat.digitChar (c.toNat / 16) ::
      Nat.digitChar (c.toNat % 16) :: rest) = some (some c, rest) := by
  have hzero : Text.hexValue? '0' = some 0 := rfl
  have hhigh := hexValue?_digitChar (c.toNat / 16) (by omega)
  have hlow := hexValue?_digitChar (c.toNat % 16) (by omega)
  have hcode : ((0 * 16 + 0) * 16 + c.toNat / 16) * 16 + c.toNat % 16 = c.toNat := by omega
  have hunit : readUnit ('0' :: '0' :: Nat.digitChar (c.toNat / 16) ::
      Nat.digitChar (c.toNat % 16) :: rest) = some (c.toNat, rest) := by
    simp only [readUnit, hzero, hhigh, hlow, hcode]
  have hleading : (0xD800 ≤ c.toNat && c.toNat < 0xDC00) = false := by
    rw [decide_eq_false (by omega), Bool.false_and]
  have htrailing : (0xDC00 ≤ c.toNat && c.toNat < 0xE000) = false := by
    rw [decide_eq_false (by omega), Bool.false_and]
  rw [readUnicodeEscape, hunit]
  dsimp only
  rw [hleading, htrailing, if_neg Bool.false_ne_true, if_neg Bool.false_ne_true, Char.ofNat_toNat]

/-- The escaped form of a character is read as this character. -/
theorem readString_escapedChar (before : List Char) (c : Char) (rest : List Char) :
    readString (some before) (escapedChar c ++ rest) = readString (some (c :: before)) rest := by
  have hescape (escaped : List Char) (hread : readEscape (escaped ++ rest) = some (some c, rest)) :
      readString (some before) ('\\' :: escaped ++ rest) = readString (some (c :: before)) rest := by
    rw [List.cons_append, readString, if_neg (by decide), if_pos rfl]
    split
    next hnone => cases hread.symm.trans hnone
    next hsome =>
      cases hread.symm.trans hsome
      rfl
  have hofNat {n : Nat} (h : c.toNat = n) : c = Char.ofNat n := by
    rw [← h, Char.ofNat_toNat]
  unfold escapedChar
  split_ifs with hquote hbackslash hbackspace htab hfeed hform hreturn hcontrol
  · subst hquote
    exact hescape ['"'] rfl
  · subst hbackslash
    exact hescape ['\\'] rfl
  · refine hescape ['b'] ?_
    rw [hofNat hbackspace]
    rfl
  · refine hescape ['t'] ?_
    rw [hofNat htab]
    rfl
  · refine hescape ['n'] ?_
    rw [hofNat hfeed]
    rfl
  · refine hescape ['f'] ?_
    rw [hofNat hform]
    rfl
  · refine hescape ['r'] ?_
    rw [hofNat hreturn]
    rfl
  · exact hescape _ (readUnicodeEscape_control hcontrol rest)
  · rw [List.singleton_append, readString, if_neg hquote, if_neg hbackslash, if_neg hcontrol]
    rfl

/-- An escaped string is read up to its closing quote. -/
theorem readString_escaped (before cs rest : List Char) :
    readString (some before) (cs.flatMap escapedChar ++ '"' :: rest) =
      some (some (before.reverse ++ cs), rest) := by
  induction cs generalizing before with
  | nil =>
    rw [List.flatMap_nil, List.nil_append, readString, if_pos rfl, Option.map_some, List.append_nil]
  | cons c cs ih =>
    rw [List.flatMap_cons, List.append_assoc, readString_escapedChar, ih, List.reverse_cons,
      List.append_assoc, List.singleton_append]

/-! ## Tokens -/

theorem readLexemes_nil : readLexemes [] = some [] := by
  rw [readLexemes]

/-- What a text begins with is read first, and then what follows it. -/
theorem readLexemes_cons {c : Char} (hspace : isSpace c = false) (cs : List Char) :
    readLexemes (c :: cs) =
      (readLexeme c cs).bind fun read ↦ (readLexemes read.2).map (read.1 :: ·) := by
  rw [readLexemes, if_neg (Bool.eq_false_iff.mp hspace)]
  split
  next hnone => rw [hnone, Option.bind_none]
  next hsome => rw [hsome, Option.bind_some]

def tokenChars (tokens : List Token) : List Char :=
  tokens.flatMap fun token ↦ token.text.toList

theorem toList_compact (value : Json) : value.compact.toList = tokenChars value.tokens := by
  rw [compact, String.toList_join, List.flatMap_map, tokenChars]

/-- The texts of tokens in front of a text are read as these tokens, and the text is left. -/
def Reads (tokens : List Token) (rest : List Char) : Prop :=
  readLexemes (tokenChars tokens ++ rest) =
    (readLexemes rest).map (tokens.map Lexeme.token ++ ·)

section Tokens

variable {tokens more : List Token} {rest : List Char}

theorem Reads.append (h : Reads tokens (tokenChars more ++ rest)) (hmore : Reads more rest) :
    Reads (tokens ++ more) rest := by
  have hchars : tokenChars (tokens ++ more) = tokenChars tokens ++ tokenChars more :=
    List.flatMap_append
  rw [Reads] at h hmore
  rw [Reads, hchars, List.append_assoc, h, hmore, Option.map_map, List.map_append]
  congr 1
  funext lexemes
  exact (List.append_assoc _ _ _).symm

theorem reads_of_readLexeme {token : Token} {c : Char} {cs : List Char}
    (htext : token.text.toList = c :: cs) (hspace : isSpace c = false)
    (h : readLexeme c (cs ++ rest) = some (.token token, rest)) : Reads [token] rest := by
  have hchars : tokenChars [token] = c :: cs := by
    rw [tokenChars, List.flatMap_singleton, htext]
  rw [Reads, hchars, List.cons_append, readLexemes_cons hspace, h]
  rfl

/-- A string is read up to its closing quote. -/
theorem reads_string (s : String) : Reads [.string s] rest := by
  have htext : (Token.string s).text.toList = '"' :: (s.toList.flatMap escapedChar ++ ['"']) := by
    rw [Token.text, stringText, String.toList_ofList]
    rfl
  refine reads_of_readLexeme htext rfl ?_
  have hstring := readString_escaped [] s.toList rest
  have hquote : readLexeme '"' (s.toList.flatMap escapedChar ++ ['"'] ++ rest) =
      readStringLexeme (s.toList.flatMap escapedChar ++ ['"'] ++ rest) := rfl
  rw [hquote, readStringLexeme, List.append_assoc, List.singleton_append, hstring]
  dsimp only
  rw [List.reverse_nil, List.nil_append, stringLexeme, String.ofList_toList]

/-- Every token but a number is read, whatever follows it. -/
theorem reads_token (token : Token) (h : ∀ n, token ≠ .number n) : Reads [token] rest := by
  cases token with
  | string s => exact reads_string s
  | number n => exact absurd rfl (h n)
  | bool value => cases value <;> exact reads_of_readLexeme rfl rfl rfl
  | arrayStart => exact reads_of_readLexeme rfl rfl rfl
  | arrayEnd => exact reads_of_readLexeme rfl rfl rfl
  | objectStart => exact reads_of_readLexeme rfl rfl rfl
  | objectEnd => exact reads_of_readLexeme rfl rfl rfl
  | comma => exact reads_of_readLexeme rfl rfl rfl
  | colon => exact reads_of_readLexeme rfl rfl rfl
  | null => exact reads_of_readLexeme rfl rfl rfl

end Tokens

end FieldTags.Json
