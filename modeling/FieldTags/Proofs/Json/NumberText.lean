import FieldTags.Json.Reader
import FieldTags.Json.Record
import FieldTags.Proofs.Json.Lexing
import FieldTags.Proofs.Number.PlainText

/-!
# Numbers in JSON text

The text of a finite number in a configuration has a point or an exponent, and so it is never read as
an exact integer. Whether it reads back as the same number is a question of rounding, which reading
does more than once. If it does, it is read back as a token in the midst of other text, too.
-/

namespace FieldTags

namespace Json

/-! ## Numerals -/

/-- A number ends where the text begins. -/
def Stops (rest : List Char) : Prop :=
  ∀ c ∈ rest.head?, isNumberChar c = false

theorem stops_nil : Stops [] :=
  fun _ hc ↦ nomatch hc

theorem punctuation?_of_isNumberChar {c : Char} (h : isNumberChar c = true) :
    punctuation? c = none := by
  have hne {d : Char} (hd : isNumberChar d = false) : c ≠ d := by
    rintro rfl
    exact Bool.false_ne_true (hd.symm.trans h)
  unfold punctuation?
  rw [if_neg (hne rfl), if_neg (hne rfl), if_neg (hne rfl), if_neg (hne rfl), if_neg (hne rfl),
    if_neg (hne rfl)]

/-- A numeral is read as a whole where a number ends behind it. -/
theorem readLexeme_number {c : Char} {cs rest : List Char} (hc : c.isDigit = true ∨ c = '-')
    (hcs : ∀ d ∈ cs, isNumberChar d = true) (hrest : Stops rest) :
    readLexeme c (cs ++ rest) =
      (readNumeral (c :: cs)).map fun numeral ↦ (numeral.lexeme, rest) := by
  have hfirst : isNumberChar c = true := by
    rcases hc with hdigit | rfl
    · simp [isNumberChar, hdigit]
    · rfl
  have hquote : c ≠ '"' := by
    rintro rfl
    exact absurd hfirst (by decide)
  have he : c ≠ 'e' := by
    rintro rfl
    exact absurd hc (by decide)
  have hall : ∀ d ∈ c :: cs, isNumberChar d = true := by
    intro d hd
    rcases List.mem_cons.mp hd with rfl | hd
    · exact hfirst
    · exact hcs d hd
  have htake : (c :: (cs ++ rest)).takeWhile isNumberChar = c :: cs :=
    Text.takeWhile_append_of_head? hall hrest
  have hdrop : (c :: (cs ++ rest)).dropWhile isNumberChar = rest :=
    Text.dropWhile_append_of_head? hall hrest
  have hnumber : (isNumberChar c && decide (c ≠ 'e')) = true := by
    rw [hfirst, decide_eq_true he, Bool.and_self]
  rw [readLexeme, punctuation?_of_isNumberChar hfirst]
  dsimp only
  rw [if_neg hquote, if_pos hnumber, readNumber, htake, hdrop]
  cases readNumeral (c :: cs) <;> rfl

theorem isSome_of_readNumeralExponent {cs : List Char} {exponent : Option Int} (hne : cs ≠ [])
    (h : readNumeralExponent cs = some exponent) : exponent.isSome = true := by
  cases cs with
  | nil => exact absurd rfl hne
  | cons e rest =>
    unfold readNumeralExponent at h
    dsimp only at h
    split_ifs at h <;> cases h <;> rfl

/-- A numeral with a point or an exponent has a fraction or an exponent. -/
theorem marked_of_readNumeral {cs : List Char} {numeral : Numeral} {mark : Char}
    (hmark : mark = '.' ∨ mark = 'e') (hmem : mark ∈ cs) (h : readNumeral cs = some numeral) :
    (numeral.fraction.isSome || numeral.exponent.isSome) = true := by
  have hdigit : mark.isDigit = false := by
    rcases hmark with rfl | rfl <;> rfl
  have hminus : mark ≠ '-' := by
    rcases hmark with rfl | rfl <;> decide
  unfold readNumeral at h
  dsimp only at h
  split at h
  all_goals
    dsimp only at h
    split at h
    · cases h
    · split at h
      · split at h
        · cases h
        · obtain ⟨exponent, -, hnumeral⟩ := Option.bind_eq_some_iff.mp h
          cases hnumeral
          rfl
      · obtain ⟨exponent, hexponent, hnumeral⟩ := Option.bind_eq_some_iff.mp h
        cases hnumeral
        have hrest := Text.mem_dropWhile (p := Char.isDigit) hdigit (by simpa [hminus] using hmem)
        exact isSome_of_readNumeralExponent (List.ne_nil_of_mem hrest) hexponent

theorem eq_float_of_ofBinary64? {x : Binary64} {n : JsonNumber}
    (h : JsonNumber.ofBinary64? x = some n) : ∃ hfinite, n = .float x hfinite := by
  unfold JsonNumber.ofBinary64? at h
  split at h
  next hfinite => exact ⟨hfinite, (Option.some.inj h).symm⟩
  · cases h

/-- The number of such a numeral is no exact integer. -/
theorem number?_of_marked {numeral : Numeral} {n : JsonNumber}
    (hmark : (numeral.fraction.isSome || numeral.exponent.isSome) = true)
    (h : numeral.number? = some n) : ∃ x hfinite, n = .float x hfinite := by
  unfold Numeral.number? at h
  dsimp only at h
  rw [hmark, Bool.true_or, if_pos rfl] at h
  dsimp only at h
  obtain ⟨x, -, hn⟩ := Option.bind_eq_some_iff.mp h
  exact ⟨_, eq_float_of_ofBinary64? hn⟩

end Json

/-! ## Texts of numbers -/

namespace NumberLayout

/-- The text of a magnitude in JSON: a digit and more characters of a number, with a point or an
exponent among them. -/
structure IsMarked (cs : List Char) : Prop where
  isNumberChar : ∀ c ∈ cs, Json.isNumberChar c = true
  head : ∃ c more, cs = c :: more ∧ c.isDigit = true
  mark : '.' ∈ cs ∨ 'e' ∈ cs

theorem isNumberChar_of_isDigit {c : Char} (h : c.isDigit = true) : Json.isNumberChar c = true := by
  simp [Json.isNumberChar, h]

theorem isNumberChar_of_isPlain {c : Char} (h : Literal.isPlain c = true) :
    Json.isNumberChar c = true := by
  rcases (Bool.or_eq_true _ _).mp h with hdigit | hpoint
  · exact isNumberChar_of_isDigit hdigit
  · rw [beq_iff_eq.mp hpoint]
    rfl

theorem exists_positional_eq_cons (n : Nat) (exponent : Int) :
    ∃ c more, positional false (Nat.toDigits 10 n) exponent = c :: more ∧ c.isDigit = true := by
  have hne : Nat.toDigits 10 n ≠ [] := Nat.toDigits_ne_nil
  rcases positional_cases hne exponent with
    ⟨zeros, -, htext⟩ | ⟨zeros, whole, fraction, -, hwhole, hdigits, htext⟩
  · obtain ⟨c, more, hcons⟩ := List.exists_cons_of_ne_nil hne
    have hc : c ∈ Nat.toDigits 10 n ∨ c ∈ List.replicate 0 '0' := .inl (hcons ▸ List.mem_cons_self)
    exact ⟨c, _, by rw [htext, hcons, List.cons_append], isDigit_of_mem hc⟩
  · obtain ⟨c, more, rfl⟩ := List.exists_cons_of_ne_nil hwhole
    have hc : c ∈ List.replicate zeros '0' ++ Nat.toDigits 10 n := hdigits ▸ List.mem_cons_self
    exact ⟨c, _, htext, isDigit_of_mem (List.mem_append.mp hc).symm⟩

theorem isMarked_positional (n : Nat) (exponent : Int) :
    IsMarked (positional true (Nat.toDigits 10 n) exponent) := by
  have hplain (c : Char) (hc : c ∈ positional false (Nat.toDigits 10 n) exponent) :
      Json.isNumberChar c = true :=
    isNumberChar_of_isPlain (isPlain_positional hc)
  obtain ⟨first, more, hcons, hfirst⟩ := exists_positional_eq_cons n exponent
  by_cases h : 0 ≤ exponent
  · have htext : positional true (Nat.toDigits 10 n) exponent =
        positional false (Nat.toDigits 10 n) exponent ++ ['.', '0'] := by
      simp only [positional, if_pos h, if_true, Bool.false_eq_true, if_false, List.append_nil]
    rw [htext]
    constructor
    · intro c hc
      rcases List.mem_append.mp hc with hc | hc
      · exact hplain c hc
      · exact List.all_eq_true.mp (by decide : ['.', '0'].all Json.isNumberChar = true) c hc
    · exact ⟨first, more ++ ['.', '0'], by rw [hcons, List.cons_append], hfirst⟩
    · exact .inl (List.mem_append_right _ List.mem_cons_self)
  · have htext : positional true (Nat.toDigits 10 n) exponent =
        positional false (Nat.toDigits 10 n) exponent := by
      rw [positional, positional, if_neg h, if_neg h]
    have hne : Nat.toDigits 10 n ≠ [] := Nat.toDigits_ne_nil
    rw [htext]
    refine ⟨hplain, ⟨first, more, hcons, hfirst⟩, .inl ?_⟩
    rcases positional_cases hne exponent with
      ⟨zeros, hzeros, -⟩ | ⟨zeros, whole, fraction, -, -, -, hpoint⟩
    · omega
    · rw [hpoint]
      exact List.mem_append_right _ List.mem_cons_self

theorem isMarked_scientific (n : Nat) (exponent : Int) :
    IsMarked (scientific true (Nat.toDigits 10 n) exponent) := by
  have hdigit {m : Nat} {c : Char} (hc : c ∈ Nat.toDigits 10 m) : c.isDigit = true :=
    Nat.isDigit_of_mem_toDigits (by decide) (by decide) hc
  have hne : Nat.toDigits 10 n ≠ [] := Nat.toDigits_ne_nil
  obtain ⟨first, more, hcons⟩ := List.exists_cons_of_ne_nil hne
  -- The digits behind the first one, with a point in front of them if there are any.
  obtain ⟨behind, htext, hbehind⟩ : ∃ behind,
      scientific true (Nat.toDigits 10 n) exponent = first :: (behind ++
        'e' :: ((if exponent < 0 then ['-'] else ['+']) ++ Nat.toDigits 10 exponent.natAbs)) ∧
      ∀ c ∈ behind, c = '.' ∨ c ∈ Nat.toDigits 10 n := by
    rw [hcons]
    cases more with
    | nil => exact ⟨[], rfl, fun c hc ↦ absurd hc List.not_mem_nil⟩
    | cons second rest =>
      refine ⟨'.' :: second :: rest, ?_, fun c hc ↦ ?_⟩
      · simp only [scientific, List.append_assoc, List.cons_append, if_true]
      · exact (List.mem_cons.mp hc).imp_right (List.mem_cons_of_mem first)
  have hsign : ∀ c ∈ (if exponent < 0 then ['-'] else ['+']), Json.isNumberChar c = true := by
    split <;> exact List.forall_mem_singleton.mpr rfl
  have hfirst : first.isDigit = true := hdigit (hcons ▸ List.mem_cons_self)
  rw [htext]
  constructor
  · intro c hc
    simp only [List.mem_cons, List.mem_append] at hc
    rcases hc with rfl | hc | rfl | hc | hc
    · exact isNumberChar_of_isDigit hfirst
    · rcases hbehind c hc with rfl | hc
      · rfl
      · exact isNumberChar_of_isDigit (hdigit hc)
    · rfl
    · exact hsign c hc
    · exact isNumberChar_of_isDigit (hdigit hc)
  · exact ⟨first, _, rfl, hfirst⟩
  · exact .inr (List.mem_cons_of_mem _ (List.mem_append_right _ List.mem_cons_self))

theorem isMarked_decimalChars (d : Decimal) : IsMarked (json.decimalChars d) := by
  unfold decimalChars
  dsimp only
  split
  · exact isMarked_positional _ _
  · exact isMarked_scientific _ _

/-- The text of a finite number is that of its magnitude, with a minus sign or without. -/
theorem exists_json_text_eq {x : Binary64} (h : x.isFinite = true) :
    ∃ magnitude, IsMarked magnitude ∧
      ((json.text x).toList = magnitude ∨ (json.text x).toList = '-' :: magnitude) := by
  cases x with
  | nan => cases h
  | signed negative rank hle =>
    have hlt : rank < Binary64.infinityRank := of_decide_eq_true h
    refine ⟨if rank = 0 then json.decimalChars ⟨0, 0⟩
      else json.decimalChars (Decimal.shortest json.tie rank), ?_, ?_⟩
    · split <;> exact isMarked_decimalChars _
    · rw [text, if_neg (Nat.ne_of_lt hlt), String.toList_ofList]
      cases negative with
      | false => exact .inl (if_neg Bool.false_ne_true)
      | true => exact .inr (if_pos rfl)

/-- The text of a finite number is a digit or a minus sign and more characters of a number. -/
theorem exists_json_text_eq_cons {x : Binary64} (h : x.isFinite = true) :
    ∃ c cs, (json.text x).toList = c :: cs ∧ (c.isDigit = true ∨ c = '-') ∧
      (∀ d ∈ cs, Json.isNumberChar d = true) ∧ ('.' ∈ c :: cs ∨ 'e' ∈ c :: cs) := by
  obtain ⟨magnitude, hmarked, htext⟩ := exists_json_text_eq h
  rcases htext with htext | htext
  · obtain ⟨digit, more, rfl, hdigit⟩ := hmarked.head
    refine ⟨digit, more, htext, .inl hdigit, ?_, hmarked.mark⟩
    intro d hd
    exact hmarked.isNumberChar d (List.mem_cons_of_mem _ hd)
  · exact ⟨'-', magnitude, htext, .inr rfl, hmarked.isNumberChar,
      hmarked.mark.imp (List.mem_cons_of_mem _) (List.mem_cons_of_mem _)⟩

end NumberLayout

/-! ## Numbers that read back -/

/-- Whether the JSON text of a number is a document of the same number. -/
def Binary64.ReadsBack (x : Binary64) : Prop :=
  (Json.readDocument (Json.ofBinary64 x).compact).bind JsonDocument.binary64? = some x

instance (x : Binary64) : Decidable x.ReadsBack :=
  inferInstanceAs (Decidable (_ = _))

namespace Json

/-- The document of a single piece holds a binary number if the piece is this number. -/
theorem number_of_ofLexemes? {numeral : Numeral} {x : Binary64}
    (h : (ofLexemes? [numeral.lexeme]).bind JsonDocument.binary64? = some x) :
    ∃ n, numeral.number? = some n ∧ n.toBinary64 = x := by
  rw [Numeral.lexeme] at h
  cases hnumber : numeral.number? with
  | none =>
    rw [hnumber] at h
    cases h
  | some n =>
    rw [hnumber] at h
    exact ⟨n, rfl, Option.some.inj h⟩

theorem isSpace_eq_false {c : Char} (h : c.isDigit = true ∨ c = '-') : isSpace c = false := by
  rcases h with hdigit | rfl
  · apply Bool.eq_false_iff.mpr
    intro hblank
    simp only [isSpace, Bool.or_eq_true, beq_iff_eq] at hblank
    rcases hblank with ((rfl | rfl) | rfl) | rfl <;> cases hdigit
  · rfl

/-- A number that reads back is read where a number ends behind it, whatever else follows. -/
theorem reads_number {x : Binary64} (hfinite : x.isFinite = true) (hread : x.ReadsBack)
    {rest : List Char} (hrest : Stops rest) : Reads [.number (.float x hfinite)] rest := by
  obtain ⟨c, cs, hcons, hc, hcs, hmark⟩ := NumberLayout.exists_json_text_eq_cons hfinite
  have hspace := isSpace_eq_false hc
  -- Alone, the text is a single piece, so what its document holds is the number of its numeral.
  have halone := readLexeme_number hc hcs stops_nil
  rw [List.append_nil] at halone
  have hdocument : readDocument (ofBinary64 x).compact = (readLexemes (c :: cs)).bind ofLexemes? := by
    rw [readDocument, ofBinary64_of_isFinite hfinite, toList_compact]
    exact congrArg (fun text ↦ (readLexemes text).bind ofLexemes?)
      ((List.flatMap_singleton _ _).trans hcons)
  rw [Binary64.ReadsBack, hdocument, readLexemes_cons hspace, halone] at hread
  cases hnumeral : readNumeral (c :: cs) with
  | none =>
    rw [hnumeral] at hread
    cases hread
  | some numeral =>
    rw [hnumeral, Option.map_some, Option.bind_some, readLexemes_nil, Option.map_some,
      Option.bind_some] at hread
    obtain ⟨n, hn, hvalue⟩ := number_of_ofLexemes? hread
    -- The numeral shows that the number is no integer, which could have the same binary value.
    have hnumber : n = .float x hfinite := by
      have hpart : (numeral.fraction.isSome || numeral.exponent.isSome) = true := by
        rcases hmark with hmark | hmark
        · exact marked_of_readNumeral (.inl rfl) hmark hnumeral
        · exact marked_of_readNumeral (.inr rfl) hmark hnumeral
      obtain ⟨y, hy, rfl⟩ := number?_of_marked hpart hn
      cases hvalue
      rfl
    refine reads_of_readLexeme hcons hspace ?_
    rw [readLexeme_number hc hcs hrest, hnumeral, Option.map_some, Numeral.lexeme, hn, hnumber]

end Json

end FieldTags
