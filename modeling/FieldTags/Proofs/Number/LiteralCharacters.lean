import FieldTags.Number.Literal
import FieldTags.Proofs.Text.Trimming

/-!
# The characters of number literals

A number literal is made of signs, digits of all bases, points and the letters of exponents and
bases. A text that has any other character, blanks around it aside, is no number.
-/

namespace FieldTags

namespace Literal

/-- A character that can stand in a number literal. -/
def isLiteralChar (c : Char) : Bool :=
  c == '+' || c == '-' || c == '.' || (baseOfLetter? c).isSome || (digitValue? c).isSome

/-- What a character that cannot stand in a literal is not. -/
structure IsForeign (c : Char) : Prop where
  ne_plus : c ≠ '+'
  ne_minus : c ≠ '-'
  ne_point : c ≠ '.'
  baseOfLetter? : baseOfLetter? c = none
  digitValue? : digitValue? c = none

theorem isForeign_of_isLiteralChar {c : Char} (h : isLiteralChar c = false) : IsForeign c := by
  simp only [isLiteralChar, Bool.or_eq_false_iff, beq_eq_false_iff_ne, Option.isSome_eq_false_iff,
    Option.isNone_iff_eq_none] at h
  exact ⟨h.1.1.1.1, h.1.1.1.2, h.1.1.2, h.1.2, h.2⟩

namespace IsForeign

variable {c : Char} {cs : List Char}

theorem isDigit (hc : IsForeign c) : c.isDigit = false := by
  rw [Bool.eq_false_iff]
  intro hdigit
  have hvalue := hc.digitValue?
  rw [Literal.digitValue?, if_pos hdigit] at hvalue
  cases hvalue

theorem ne_exponent (hc : IsForeign c) : ¬ (c = 'e' || c = 'E') = true := by
  rw [Bool.or_eq_true, decide_eq_true_eq, decide_eq_true_eq]
  have hvalue := hc.digitValue?
  rintro (rfl | rfl)
  · exact absurd hvalue (by decide)
  · exact absurd hvalue (by decide)

theorem mem_readSign (hc : IsForeign c) (h : c ∈ cs) : c ∈ (readSign cs).2 := by
  unfold readSign
  split
  · exact List.mem_of_ne_of_mem hc.ne_minus h
  · exact List.mem_of_ne_of_mem hc.ne_plus h
  · exact h

theorem readExponent_eq_none (hc : IsForeign c) (h : c ∈ cs) : readExponent cs = none := by
  cases cs with
  | nil => exact absurd h List.not_mem_nil
  | cons e rest =>
    rw [readExponent]
    split
    next he =>
      have hrest : c ∈ rest := by
        refine List.mem_of_ne_of_mem ?_ h
        rintro rfl
        exact hc.ne_exponent he
      have hdigits : (readSign rest).2.all Char.isDigit = false :=
        List.all_eq_false.mpr ⟨c, hc.mem_readSign hrest, Bool.eq_false_iff.mp hc.isDigit⟩
      dsimp only
      rw [hdigits, Bool.and_false, if_neg Bool.false_ne_true]
    · rfl

theorem readDecimal_eq_none (hc : IsForeign c) (h : c ∈ cs) : readDecimal cs = none := by
  have hdrop : c ∈ cs.dropWhile Char.isDigit := Text.mem_dropWhile hc.isDigit h
  have hrest : c ∈ (readFraction (cs.dropWhile Char.isDigit)).2 := by
    unfold readFraction
    split
    next more heq =>
      rw [heq] at hdrop
      exact Text.mem_dropWhile hc.isDigit (List.mem_of_ne_of_mem hc.ne_point hdrop)
    · exact hdrop
  unfold readDecimal
  dsimp only
  rw [hc.readExponent_eq_none hrest, Option.map_none, ite_self]

theorem readDigits_eq_none (hc : IsForeign c) (base : Nat) (h : c ∈ cs) :
    readDigits base cs = none := by
  have hfold : ∀ (step : Nat → Char → Option Nat), (∀ value, step value c = none) →
      ∀ value, cs.foldlM step value = none := by
    intro step hstep
    induction cs with
    | nil => exact absurd h List.not_mem_nil
    | cons d rest ih =>
      intro value
      rw [List.foldlM_cons]
      rcases List.mem_cons.mp h with rfl | hrest
      · rw [hstep]
        rfl
      · cases step value d with
        | none => rfl
        | some next => exact ih hrest next
  refine hfold _ (fun value ↦ ?_) 0
  rw [hc.digitValue?]

theorem readPrefixed_eq_none (hc : IsForeign c) (h : c ∈ cs) : readPrefixed cs = none := by
  unfold readPrefixed
  split
  next letter digits =>
    have hzero : c ≠ '0' := by
      rintro rfl
      exact absurd hc.digitValue? (by decide)
    split
    next base hbase =>
      have hletter : c ≠ letter := by
        rintro rfl
        cases hc.baseOfLetter?.symm.trans hbase
      have hdigits : c ∈ digits :=
        List.mem_of_ne_of_mem hletter (List.mem_of_ne_of_mem hzero h)
      rw [hc.readDigits_eq_none base hdigits, ite_self]
    · rfl
  · rfl

end IsForeign

/-- The characters of literals stand between the plus sign and the small letters. -/
theorem toNat_bounds_of_isLiteralChar {c : Char} (h : isLiteralChar c = true) :
    43 ≤ c.toNat ∧ c.toNat ≤ 122 := by
  simp only [isLiteralChar, Bool.or_eq_true, beq_iff_eq] at h
  rcases h with (((rfl | rfl) | rfl) | hbase) | hvalue
  · decide
  · decide
  · decide
  · unfold baseOfLetter? at hbase
    split_ifs at hbase with hx ho hb
    · rcases (Bool.or_eq_true _ _).mp hx with h | h <;> rw [of_decide_eq_true h] <;> decide
    · rcases (Bool.or_eq_true _ _).mp ho with h | h <;> rw [of_decide_eq_true h] <;> decide
    · rcases (Bool.or_eq_true _ _).mp hb with h | h <;> rw [of_decide_eq_true h] <;> decide
    · cases hbase
  · have hrange {low high : Char} (h : (low ≤ c && c ≤ high) = true) :
        low.toNat ≤ c.toNat ∧ c.toNat ≤ high.toNat := by
      rw [Bool.and_eq_true, decide_eq_true_eq, decide_eq_true_eq] at h
      exact h
    unfold digitValue? at hvalue
    split_ifs at hvalue with hdigit hsmall hlarge
    · have hbounds : 48 ≤ c.toNat ∧ c.toNat ≤ 57 := Char.isDigit_iff_toNat.mp hdigit
      omega
    · have := hrange hsmall
      have hbounds : 'a'.toNat = 97 ∧ 'f'.toNat = 102 := by decide
      omega
    · have := hrange hlarge
      have hbounds : 'A'.toNat = 65 ∧ 'F'.toNat = 70 := by decide
      omega
    · cases hvalue

theorem isBlank_of_isLiteralChar {c : Char} (h : isLiteralChar c = true) :
    Text.isBlank c = false := by
  have hbounds := toNat_bounds_of_isLiteralChar h
  simp only [Text.isBlank, Bool.or_eq_false_iff, Bool.and_eq_false_iff, decide_eq_false_iff_not,
    beq_eq_false_iff_ne]
  omega

theorem isLiteralChar_of_isDigit {c : Char} (h : c.isDigit = true) : isLiteralChar c = true := by
  rw [isLiteralChar, digitValue?, if_pos h, Option.isSome_some, Bool.or_true]

theorem isBlank_of_isDigit {c : Char} (h : c.isDigit = true) : Text.isBlank c = false :=
  isBlank_of_isLiteralChar (isLiteralChar_of_isDigit h)

/-- No number literal has a character that cannot stand in one. -/
theorem readChars_of_mem {c : Char} {cs : List Char} (h : c ∈ cs) (hc : isLiteralChar c = false) :
    readChars cs = none := by
  have hforeign := isForeign_of_isLiteralChar hc
  unfold readChars
  dsimp only
  rw [hforeign.readDecimal_eq_none (hforeign.mem_readSign h), hforeign.readPrefixed_eq_none h]

end Literal

/-- A text of characters of literals has no blanks to be taken away. -/
theorem Binary64.ofText?_of_forall {s : String}
    (h : ∀ c ∈ s.toList, Literal.isLiteralChar c = true) :
    ofText? s = Literal.readChars s.toList := by
  rw [ofText?, Text.trimChars_of_forall fun c hc ↦ Literal.isBlank_of_isLiteralChar (h c hc)]

/-- A text with a character that is neither blank nor part of a literal is no number. -/
theorem Binary64.ofText?_of_mem {s : String} {c : Char} (h : c ∈ s.toList)
    (hblank : Text.isBlank c = false) (hc : Literal.isLiteralChar c = false) :
    ofText? s = none :=
  Literal.readChars_of_mem (Text.mem_trimChars hblank h) hc

end FieldTags
