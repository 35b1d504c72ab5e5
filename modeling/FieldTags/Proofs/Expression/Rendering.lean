import FieldTags.Proofs.Expression.Paths
import FieldTags.Proofs.Number.DecimalLiteral

/-!
# Writing tokens

Tokens that are written with blanks between them are read back, each at the byte where it was
written. What may be written for a token is not unique: a number has many literals, and a text can
stand between quotes of either kind, with a backslash before every backslash and every quote of that
kind in it.
-/

namespace FieldTags.Lexer

open Literal (NoDigit Exponent Numeral isBlank_of_isDigit)

/-! ## Written tokens -/

/-- The quotes that a text literal stands between. -/
inductive Quote where
  | double
  | single

def Quote.char : Quote → Char
  | .double => '"'
  | .single => '\''

/-- The content of a text literal, with a backslash before every backslash and every quote. -/
def escaped (quote : Quote) (content : List Char) : List Char :=
  content.flatMap fun c ↦ if c = '\\' || c = quote.char then ['\\', c] else [c]

/-- A token in one of the ways to write it. -/
inductive WrittenToken where
  | number (numeral : Numeral) (isFinite : numeral.value.isFinite = true)
  | text (quote : Quote) (content : String)
  | name (word : String) (isName : isName word = true)
  | punctuator (p : Punctuator)

namespace WrittenToken

def kind : WrittenToken → TokenKind
  | .number numeral _ => .number numeral.value
  | .text _ content => .text content
  | .name word _ => .name word
  | .punctuator p => .punctuator p

def chars : WrittenToken → List Char
  | .number numeral _ => numeral.chars
  | .text quote content => quote.char :: (escaped quote content.toList ++ [quote.char])
  | .name word _ => word.toList
  | .punctuator p => p.chars

end WrittenToken

/-- A written token with the blanks behind it. -/
structure SpacedToken where
  token : WrittenToken
  /-- What stands between this token and the next one. -/
  gap : List Char
  all_gap : gap.all Text.isBlank = true

def render (written : List SpacedToken) : List Char :=
  written.flatMap fun spaced ↦ spaced.token.chars ++ spaced.gap

/-- Between neighbours there is at least one blank. -/
def Separated (written : List SpacedToken) : Prop :=
  ∀ spaced ∈ written.dropLast, spaced.gap ≠ []

instance (written : List SpacedToken) : Decidable (Separated written) :=
  inferInstanceAs (Decidable (∀ spaced ∈ written.dropLast, spaced.gap ≠ []))

/-- The tokens with the bytes at which they start, if they stand behind `before`. -/
def placed (before : List Char) : List SpacedToken → List ExpressionToken
  | [] => []
  | spaced :: rest =>
    ⟨spaced.token.kind, (String.ofList before).utf8ByteSize⟩ ::
      placed (before ++ (spaced.token.chars ++ spaced.gap)) rest

/-! ## Where a token ends -/

/-- Nothing follows, or a blank. -/
def EndsToken (rest : List Char) : Prop :=
  ∀ c ∈ rest.head?, Text.isBlank c = true

section

variable {rest : List Char} {p : Char → Bool}

/-- No kind of character that is not blank follows a token. -/
theorem EndsToken.head? (h : EndsToken rest) (hp : ∀ c, p c = true → Text.isBlank c = false) :
    ∀ c ∈ rest.head?, p c = false := by
  intro c hc
  apply Bool.eq_false_iff.mpr
  intro hpc
  exact Bool.false_ne_true ((hp c hpc).symm.trans (h c hc))

theorem EndsToken.any_head? (h : EndsToken rest) (hp : ∀ c, p c = true → Text.isBlank c = false) :
    rest.head?.any p = false := by
  have hhead := h.head? hp
  cases rest with
  | nil => rfl
  | cons c more => exact hhead c rfl

theorem EndsToken.takeWhile (h : EndsToken rest) (hp : ∀ c, p c = true → Text.isBlank c = false) :
    rest.takeWhile p = [] := by
  have hrun : ∀ c ∈ ([] : List Char), p c = true := fun _ hc ↦ nomatch hc
  exact Text.takeWhile_append_of_head? hrun (h.head? hp)

theorem EndsToken.noDigit (h : EndsToken rest) : NoDigit rest :=
  h.head? fun _ ↦ isBlank_of_isDigit

/-- The text is read as one token where a token ends behind it. -/
def StandsAlone (cs : List Char) (kind : TokenKind) : Prop :=
  ∃ c more, cs = c :: more ∧ Text.isBlank c = false ∧
    ∀ offset rest, EndsToken rest → scan offset c (more ++ rest) = .ok (kind, more.length)

end

/-! ## Numbers -/

section

variable {rest : List Char}

theorem exponentChars_of_endsToken (h : EndsToken rest) : exponentChars rest = [] := by
  have hletter (c : Char) (hc : c ∈ rest.head?) : (c = 'e' || c = 'E') = false := by
    refine h.head? (p := fun c ↦ c = 'e' || c = 'E') (fun c hc ↦ ?_) c hc
    rcases (Bool.or_eq_true _ _).mp hc with hc | hc <;> rw [of_decide_eq_true hc] <;> rfl
  unfold exponentChars
  split
  · rw [hletter _ rfl, if_neg Bool.false_ne_true]
  · rw [hletter _ rfl, Bool.false_and, if_neg Bool.false_ne_true]
  · rfl

/-- An exponent ends where no digit follows. -/
theorem exponentChars_exponent (e : Exponent) (h : NoDigit rest) :
    exponentChars (e.chars ++ rest) = e.chars := by
  have hletter := e.isMark_letter
  have hall := e.isDigit
  obtain ⟨d, ds, hdigits⟩ := List.exists_cons_of_ne_nil e.digits_ne_nil
  rw [hdigits] at hall
  have hd : d.isDigit = true := hall d List.mem_cons_self
  have htake : (ds ++ rest).takeWhile Char.isDigit = ds :=
    Text.takeWhile_append_of_head? (fun c hc ↦ hall c (List.mem_cons_of_mem _ hc)) h
  rw [Exponent.chars, hdigits]
  cases e.sign with
  | some negative =>
    cases negative <;>
      simp [Exponent.signChars, exponentChars, hletter, hd, htake]
  | none =>
    have hsign : (d = '+' || d = '-') = false := by
      rw [Bool.or_eq_false_iff, decide_eq_false_iff_not, decide_eq_false_iff_not]
      constructor <;> rintro rfl <;> cases hd
    rw [Exponent.signChars, List.nil_append, List.cons_append, List.cons_append]
    -- Three characters are looked at together, so a single digit at the end is read on its own.
    cases hmore : ds ++ rest with
    | nil =>
      obtain ⟨rfl, rfl⟩ := List.append_eq_nil_iff.mp hmore
      simp [exponentChars, hletter, hd]
    | cons c more =>
      rw [hmore] at htake
      simp only [exponentChars, hletter, hsign, hd, htake, Bool.false_and, Bool.false_eq_true,
        if_false, if_true]

theorem exponentChars_chars (exponent : Option Exponent) (h : EndsToken rest) :
    exponentChars (Numeral.exponentChars exponent ++ rest) = Numeral.exponentChars exponent := by
  cases exponent with
  | none => exact exponentChars_of_endsToken h
  | some e => exact exponentChars_exponent e h.noDigit

/-- No point stands where an exponent does, or where a token ends. -/
theorem ne_point_of_mem_head? (exponent : Option Exponent) (h : EndsToken rest) :
    ∀ c ∈ (Numeral.exponentChars exponent ++ rest).head?, c ≠ '.' := by
  cases exponent with
  | none =>
    rintro c hc rfl
    exact absurd (h '.' hc) (by decide)
  | some e =>
    intro c hc
    obtain rfl : e.letter = c := Option.some.inj hc
    rcases e.letter_cases with h | h <;> rw [h] <;> decide

/-- A decimal literal is taken as a whole. -/
theorem numberChars_chars (n : Numeral) (h : EndsToken rest) :
    numberChars (n.chars ++ rest) = n.chars := by
  have hexponent := Numeral.noDigit_exponentChars n.exponent h.noDigit
  have hpoint := ne_point_of_mem_head? n.exponent h
  have hdigits := n.isDigit_fraction
  -- The exponent is looked for behind as many characters as the two parts before it have.
  have hbehind (fraction : List Char) :
      (n.whole ++ (fraction ++ (Numeral.exponentChars n.exponent ++ rest))).drop
        (n.whole.length + fraction.length) = Numeral.exponentChars n.exponent ++ rest := by
    rw [← List.length_append, ← List.append_assoc, List.drop_left]
  have hbefore := Numeral.noDigit_fractionChars n.fraction hexponent
  rw [Numeral.chars, List.append_assoc, List.append_assoc, numberChars,
    Text.takeWhile_append_of_head? n.isDigit_whole hbefore,
    Text.dropWhile_append_of_head? n.isDigit_whole hbefore]
  cases hfraction : n.fraction with
  | some digits =>
    rw [hfraction, Option.getD_some] at hdigits
    have hbehind := hbehind ('.' :: digits)
    rw [Numeral.fractionChars, List.cons_append]
    split
    next more heq =>
      obtain rfl := (List.cons.inj heq).2
      rw [Text.takeWhile_append_of_head? hdigits hexponent, ← List.cons_append, hbehind,
        exponentChars_chars n.exponent h, List.append_assoc]
    next hnot => exact absurd rfl (hnot _)
  | none =>
    have hbehind := hbehind []
    rw [Numeral.fractionChars, List.nil_append]
    rw [List.nil_append] at hbehind
    split
    next more heq =>
      rw [heq] at hpoint
      exact absurd rfl (hpoint '.' rfl)
    · rw [hbehind, exponentChars_chars n.exponent h, List.append_nil, List.nil_append]

/-- A decimal literal stands alone as its number. -/
theorem standsAlone_number {n : Numeral} (hfinite : n.value.isFinite = true) :
    StandsAlone n.chars (.number n.value) := by
  obtain ⟨c, more, hchars, hc⟩ := n.exists_chars_eq_cons
  have hblank : Text.isBlank c = false :=
    Literal.isBlank_of_isLiteralChar (Numeral.isLiteralChar_of_mem (hchars ▸ List.mem_cons_self))
  refine ⟨c, more, hchars, hblank, fun offset rest hrest ↦ ?_⟩
  have hstarts : startsNumber c (more ++ rest) = true := by
    rcases hc with hdigit | ⟨rfl, d, ds, rfl, hdigit⟩
    · rw [startsNumber, hdigit, Bool.true_or]
    · rw [startsNumber, List.cons_append, List.head?_cons, Option.any_some, hdigit]
      rfl
  have hliteral : numberChars (c :: (more ++ rest)) = c :: more := by
    have h := numberChars_chars n hrest
    rwa [hchars] at h
  have hvalue := Numeral.ofText?_chars hfinite
  have hrest : ((c :: (more ++ rest)).drop (c :: more).length).head?.any isNameChar = false := by
    rw [← List.cons_append, List.drop_left]
    exact hrest.any_head? fun _ ↦ isBlank_of_isNameChar
  rw [hchars] at hvalue
  rw [scan]
  dsimp only
  rw [if_pos hstarts, hliteral, hvalue]
  dsimp only
  rw [hrest, if_neg Bool.false_ne_true, List.length_cons, Nat.add_sub_cancel]

end

/-! ## Texts -/

namespace Quote

theorem char_ne_backslash (quote : Quote) : quote.char ≠ '\\' := by
  cases quote <;> decide

/-- A backslash before a backslash or a quote gives this character. -/
theorem unescape_eq {quote : Quote} {c : Char} (h : (c = '\\' || c = quote.char) = true) :
    unescape c = c := by
  rcases (Bool.or_eq_true _ _).mp h with h | h <;> rw [of_decide_eq_true h]
  · rfl
  · cases quote <;> rfl

end Quote

theorem textChars_quote (quote : Char) (rest : List Char) :
    textChars quote (quote :: rest) = some ([], 1) := by
  rw [textChars.eq_def]
  exact if_pos rfl

theorem textChars_backslash {quote : Char} (h : quote ≠ '\\') (c : Char) (rest : List Char) :
    textChars quote ('\\' :: c :: rest) =
      (textChars quote rest).map fun (content, count) ↦ (unescape c :: content, count + 2) := by
  rw [textChars.eq_def]
  dsimp only
  rw [if_neg h.symm, if_pos rfl]

theorem textChars_cons {quote c : Char} (hquote : c ≠ quote) (hbackslash : c ≠ '\\')
    (rest : List Char) :
    textChars quote (c :: rest) =
      (textChars quote rest).map fun (content, count) ↦ (c :: content, count + 1) := by
  rw [textChars.eq_def]
  dsimp only
  rw [if_neg hquote, if_neg hbackslash]

/-- An escaped content ends at its closing quote. -/
theorem textChars_escaped (quote : Quote) (content rest : List Char) :
    textChars quote.char (escaped quote content ++ quote.char :: rest) =
      some (content, (escaped quote content).length + 1) := by
  induction content with
  | nil => exact textChars_quote _ _
  | cons c more ih =>
    rw [escaped, List.flatMap_cons, ← escaped, List.append_assoc, List.length_append]
    by_cases hc : (c = '\\' || c = quote.char) = true
    · rw [if_pos hc, List.cons_append, List.singleton_append,
        textChars_backslash quote.char_ne_backslash, ih, Option.map_some, Quote.unescape_eq hc,
        List.length_cons, List.length_singleton, Nat.add_comm _ (escaped quote more).length]
    · have hne : c ≠ '\\' ∧ c ≠ quote.char := by
        rwa [Bool.or_eq_true, decide_eq_true_eq, decide_eq_true_eq, not_or] at hc
      rw [if_neg hc, List.singleton_append, textChars_cons hne.2 hne.1, ih, Option.map_some,
        List.length_singleton, Nat.add_comm 1]

/-- A text literal stands alone as its content. -/
theorem standsAlone_text (quote : Quote) (content : String) :
    StandsAlone (quote.char :: (escaped quote content.toList ++ [quote.char])) (.text content) := by
  refine ⟨_, _, rfl, by cases quote <;> rfl, fun offset rest _ ↦ ?_⟩
  have hstarts (more : List Char) : startsNumber quote.char more = false := by
    cases quote <;> rfl
  have hquote : (quote.char = '"' || quote.char = '\'') = true := by
    cases quote <;> rfl
  rw [List.append_assoc, List.singleton_append, scan]
  dsimp only
  rw [hstarts, if_neg Bool.false_ne_true, if_pos hquote, textChars_escaped]
  dsimp only
  rw [String.ofList_toList, List.length_append, List.length_singleton]

/-! ## Names -/

/-- A name stands alone. -/
theorem standsAlone_name {word : String} (h : isName word = true) :
    StandsAlone word.toList (.name word) := by
  obtain ⟨c, more, hlist, hstart, hmore⟩ := isName_iff.mp h
  have hblank := isBlank_of_isNameChar (isNameChar_of_isNameStart hstart)
  refine ⟨c, more, hlist, hblank, fun offset rest hrest ↦ ?_⟩
  have hend := hrest.takeWhile fun _ ↦ isBlank_of_isNameChar
  rw [scan_name hstart hmore hend, ← hlist, String.ofList_toList]

/-! ## Punctuators -/

theorem mem_all (p : Punctuator) : p ∈ Punctuator.all := by
  cases p <;> decide

theorem isBlank_of_mem_chars {p : Punctuator} {c : Char} (h : c ∈ p.chars) :
    Text.isBlank c = false := by
  have hall : ∀ q ∈ Punctuator.all, q.chars.all (fun d ↦ !Text.isBlank d) = true := by decide
  exact (Bool.not_eq_true' _).mp (List.all_eq_true.mp (hall p (mem_all p)) c h)

/-- No other kind of token starts with a character that a punctuator starts with. -/
theorem head_chars {p : Punctuator} {c : Char} {more : List Char} (h : p.chars = c :: more) :
    c.isDigit = false ∧ (c = '"' || c = '\'') = false ∧ isNameStart c = false := by
  have hall : ∀ q ∈ Punctuator.all, q.chars.head?.all
      (fun d ↦ !(d.isDigit || (d = '"' || d = '\'') || isNameStart d)) = true := by
    decide +kernel
  have hhead := hall p (mem_all p)
  rw [h, List.head?_cons, Option.all_some, Bool.not_eq_true', Bool.or_eq_false_iff,
    Bool.or_eq_false_iff] at hhead
  exact ⟨hhead.1.1, hhead.1.2, hhead.2⟩

/-- What has no blanks is at the start of a text only if it is so where a token ends. -/
theorem isPrefixOf_append {cs before rest : List Char} (hcs : ∀ c ∈ cs, Text.isBlank c = false)
    (h : EndsToken rest) : cs.isPrefixOf (before ++ rest) = cs.isPrefixOf before := by
  induction cs generalizing before with
  | nil => rfl
  | cons c more ih =>
    cases before with
    | cons d tail =>
      have hmore : more.isPrefixOf (tail ++ rest) = more.isPrefixOf tail :=
        ih fun d hd ↦ hcs d (List.mem_cons_of_mem _ hd)
      rw [List.cons_append, List.isPrefixOf, List.isPrefixOf, hmore]
    | nil =>
      cases rest with
      | nil => rfl
      | cons d tail =>
        have hne : c ≠ d := by
          rintro rfl
          exact Bool.false_ne_true ((hcs c List.mem_cons_self).symm.trans (h c rfl))
        rw [List.nil_append, List.isPrefixOf_cons_cons, beq_false_of_ne hne, Bool.false_and]
        rfl

/-- What fits where a token ends is decided by its characters alone. -/
theorem fits_append (p q : Punctuator) {rest : List Char} (h : EndsToken rest) :
    fits (p.chars ++ rest) q = fits p.chars q := by
  rw [fits, fits, isPrefixOf_append (fun c ↦ isBlank_of_mem_chars) h]
  -- Only the punctuator of an optional access looks at the character behind it.
  by_cases hq : q = .optionalDot
  · subst hq
    by_cases hp : p = .optionalDot
    · subst hp
      have hdigit : rest.head?.any Char.isDigit = false := h.any_head? fun _ ↦ isBlank_of_isDigit
      have hthird : (Punctuator.optionalDot.chars ++ rest)[2]? = rest.head? := by
        cases rest <;> rfl
      rw [hthird, hdigit]
      rfl
    · have hshorter : Punctuator.optionalDot.chars.isPrefixOf p.chars = false := by
        cases p <;> first | rfl | exact absurd rfl hp
      rw [hshorter, Bool.false_and, Bool.false_and]
  · rw [decide_eq_false hq, Bool.false_and, Bool.false_and]

theorem find?_fits (p : Punctuator) : Punctuator.all.find? (fits p.chars) = some p := by
  cases p <;> decide

/-- A punctuator stands alone. -/
theorem standsAlone_punctuator (p : Punctuator) : StandsAlone p.chars (.punctuator p) := by
  obtain ⟨c, more, hchars⟩ : ∃ c more, p.chars = c :: more := by
    cases p <;> exact ⟨_, _, rfl⟩
  obtain ⟨hdigit, hquote, hstart⟩ := head_chars hchars
  refine ⟨c, more, hchars, isBlank_of_mem_chars (hchars ▸ List.mem_cons_self), ?_⟩
  intro offset rest hrest
  have hstarts : startsNumber c (more ++ rest) = false := by
    rw [startsNumber, hdigit, Bool.false_or, Bool.and_eq_false_iff]
    by_cases hpoint : c = '.'
    · subst hpoint
      obtain rfl : more = [] := by
        cases p <;> cases hchars
        rfl
      exact .inr (hrest.any_head? fun _ ↦ isBlank_of_isDigit)
    · exact .inl (beq_false_of_ne hpoint)
  have hfits : fits (c :: (more ++ rest)) = fits p.chars := by
    funext q
    rw [← List.cons_append, ← hchars, fits_append p q hrest]
  rw [scan]
  dsimp only
  rw [hstarts, if_neg Bool.false_ne_true, hquote, if_neg Bool.false_ne_true, hstart,
    if_neg Bool.false_ne_true, hfits, find?_fits]
  dsimp only
  rw [hchars, List.length_cons, Nat.add_sub_cancel]

/-! ## Reading written tokens -/

theorem WrittenToken.standsAlone (token : WrittenToken) : StandsAlone token.chars token.kind := by
  cases token with
  | number numeral isFinite => exact standsAlone_number isFinite
  | text quote content => exact standsAlone_text quote content
  | name word isName => exact standsAlone_name isName
  | punctuator p => exact standsAlone_punctuator p

variable {spaced : SpacedToken} {written : List SpacedToken}

theorem Separated.tail (h : Separated (spaced :: written)) : Separated written := by
  cases written with
  | nil => exact fun _ hother ↦ nomatch hother
  | cons next rest => exact fun other hother ↦ h other (List.mem_cons_of_mem _ hother)

/-- A separated token ends in front of what follows it. -/
theorem Separated.endsToken (h : Separated (spaced :: written)) :
    EndsToken (spaced.gap ++ render written) := by
  have hblank := List.all_eq_true.mp spaced.all_gap
  cases hgap : spaced.gap with
  | cons c more =>
    rw [hgap] at hblank
    intro d hd
    obtain rfl : c = d := Option.some.inj hd
    exact hblank c List.mem_cons_self
  | nil =>
    cases written with
    | nil => exact fun _ hc ↦ nomatch hc
    | cons next rest => exact absurd hgap (h spaced List.mem_cons_self)

/-- Separated tokens are read back behind any text. -/
theorem tokensFrom_render (h : Separated written) (before : List Char) :
    tokensFrom (byteCount before) (render written) = .ok (placed before written) := by
  -- What has been read joins the text before, whose bytes are the offset.
  induction written generalizing before with
  | nil => exact tokensFrom_nil _
  | cons spaced rest ih =>
    obtain ⟨c, more, hchars, hblank, hscan⟩ := spaced.token.standsAlone
    have hrender : render (spaced :: rest) = c :: (more ++ (spaced.gap ++ render rest)) := by
      rw [render, List.flatMap_cons, ← render, hchars, List.append_assoc, List.cons_append]
    rw [hrender, placed, ← byteCount_eq]
    apply tokensFrom_of_scan hblank (hscan _ _ h.endsToken)
    rw [List.take_left, List.drop_left, tokensFrom_blanks spaced.all_gap, ← hchars,
      Nat.add_assoc, ← byteCount_append, ← byteCount_append]
    exact ih h.tail _

/-- Tokens that are written with at least one blank between neighbours are read as these tokens, each
at the byte where its text starts. -/
theorem tokens_render {lead : List Char} (hlead : lead.all Text.isBlank = true)
    {written : List SpacedToken} (h : Separated written) :
    tokens (String.ofList (lead ++ render written)) = .ok (placed lead written) := by
  have hread := tokensFrom_render h lead
  rw [tokens, String.toList_ofList, tokensFrom_blanks hlead, Nat.zero_add, hread]

/-- A conditional with a fraction behind its question mark and a quote in its text. -/
def writtenConditional : List SpacedToken :=
  [⟨.name "größe" (by decide +kernel), [' '], by decide⟩,
    ⟨.punctuator .question, ['\t', ' '], by decide⟩,
    ⟨.number ⟨[], some ['5'], some ⟨true, some true, ['3'], by decide, by decide⟩,
      by decide, by decide, by decide⟩ (by decide +kernel), [Char.ofNat 0x3000], by decide⟩,
    ⟨.punctuator .colon, ['\n'], by decide⟩,
    ⟨.text .single "it's \\", [], by decide⟩]

/-- The conditional is read back. -/
theorem tokens_render_conditional :
    tokens "  größe ?\t .5E-3　:\n'it\\'s \\\\'" = .ok (placed [' ', ' '] writtenConditional) ∧
      (placed [' ', ' '] writtenConditional).map ExpressionToken.offset = [2, 10, 13, 21, 23] := by
  have hlead : [' ', ' '].all Text.isBlank = true := by decide
  have hseparated : Separated writtenConditional := by decide
  have hread := tokens_render hlead hseparated
  exact ⟨hread, by decide +kernel⟩

end FieldTags.Lexer
