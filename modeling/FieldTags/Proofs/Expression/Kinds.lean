import FieldTags.Proofs.Expression.Condition
import FieldTags.Proofs.Expression.Rendering

/-!
# What the tokens of a text are

Where the tokens of a text stand does not matter to what they make up, so an expression depends only
on what its tokens are, in their order. Blanks in front of a text and behind it change none of them.
This holds of every text: one that cannot be read stays so, also if it ends inside a text literal,
since no blank closes one.
-/

namespace FieldTags

/-! ## Offsets -/

/-- Tokens of the same kinds make up the same expressions. -/
theorem Fits.of_kinds {levels links : Nat} {phrase : Phrase} {tokens others : List ExpressionToken}
    {e : Expression} (h : Fits levels phrase links tokens e)
    (hkinds : others.map ExpressionToken.kind = tokens.map ExpressionToken.kind) :
    Fits levels phrase links others e := by
  induction h generalizing others with
  | alone _ ih => exact .alone (ih hkinds)
  | choice question colon _ _ _ ihTest ihConsequent ihAlternate =>
    simp only [List.map_append, List.map_cons, List.map_eq_append_iff, List.map_eq_cons_iff]
      at hkinds
    obtain ⟨first, _, rfl, hfirst, ⟨_, q⟩, _, rfl, rfl, second, _, rfl, hsecond, ⟨_, c⟩, third,
      rfl, rfl, hthird⟩ := hkinds
    exact .choice q c (ihTest hfirst) (ihConsequent hsecond) (ihAlternate hthird)
  | operand _ ih => exact .operand (ih hkinds)
  | operation offset hp hleast hlinks _ _ ihLeft ihRight =>
    simp only [List.map_append, List.map_cons, List.map_eq_append_iff, List.map_eq_cons_iff]
      at hkinds
    obtain ⟨before, _, rfl, hbefore, ⟨_, o⟩, behind, rfl, rfl, hbehind⟩ := hkinds
    exact .operation o hp hleast hlinks (ihLeft hbefore) (ihRight hbehind)
  | bare _ ih => exact .bare (ih hkinds)
  | prefixed offset hp _ ih =>
    rw [List.map_cons, List.map_eq_cons_iff] at hkinds
    obtain ⟨⟨_, o⟩, rest, rfl, rfl, hrest⟩ := hkinds
    exact .prefixed o hp (ih hrest)
  | root _ ih => exact .root (ih hkinds)
  | named name dot word hlinks _ ih =>
    simp only [List.map_append, List.map_cons, List.map_nil, List.map_eq_append_iff,
      List.map_eq_cons_iff, List.map_eq_nil_iff] at hkinds
    obtain ⟨object, _, rfl, hobject, ⟨_, d⟩, _, rfl, rfl, ⟨_, w⟩, _, rfl, rfl, rfl⟩ := hkinds
    exact .named name d w hlinks (ih hobject)
  | optionalNamed name dot word hlinks _ ih =>
    simp only [List.map_append, List.map_cons, List.map_nil, List.map_eq_append_iff,
      List.map_eq_cons_iff, List.map_eq_nil_iff] at hkinds
    obtain ⟨object, _, rfl, hobject, ⟨_, d⟩, _, rfl, rfl, ⟨_, w⟩, _, rfl, rfl, rfl⟩ := hkinds
    exact .optionalNamed name d w hlinks (ih hobject)
  | computed opening closing hlinks _ _ ih ihKey =>
    simp only [List.map_append, List.map_cons, List.map_nil, List.map_eq_append_iff,
      List.map_eq_cons_iff, List.map_eq_nil_iff] at hkinds
    obtain ⟨object, _, rfl, hobject, ⟨_, o⟩, _, rfl, rfl, inner, _, rfl, hinner, ⟨_, c⟩, _, rfl,
      rfl, rfl⟩ := hkinds
    exact .computed o c hlinks (ih hobject) (ihKey hinner)
  | optionalComputed dot opening closing hlinks _ _ ih ihKey =>
    simp only [List.map_append, List.map_cons, List.map_nil, List.map_eq_append_iff,
      List.map_eq_cons_iff, List.map_eq_nil_iff] at hkinds
    obtain ⟨object, _, rfl, hobject, ⟨_, d⟩, _, rfl, rfl, ⟨_, o⟩, _, rfl, rfl, inner, _, rfl,
      hinner, ⟨_, c⟩, _, rfl, rfl, rfl⟩ := hkinds
    exact .optionalComputed d o c hlinks (ih hobject) (ihKey hinner)
  | number x offset =>
    rw [List.map_singleton, List.map_eq_singleton_iff] at hkinds
    obtain ⟨⟨_, o⟩, rfl, rfl⟩ := hkinds
    exact .number x o
  | text s offset =>
    rw [List.map_singleton, List.map_eq_singleton_iff] at hkinds
    obtain ⟨⟨_, o⟩, rfl, rfl⟩ := hkinds
    exact .text s o
  | word offset hword =>
    rw [List.map_singleton, List.map_eq_singleton_iff] at hkinds
    obtain ⟨⟨_, o⟩, rfl, rfl⟩ := hkinds
    exact .word o hword
  | enclosed opening closing _ ih =>
    simp only [List.map_append, List.map_cons, List.map_nil, List.map_eq_append_iff,
      List.map_eq_cons_iff, List.map_eq_nil_iff] at hkinds
    obtain ⟨⟨_, o⟩, _, rfl, rfl, inner, _, rfl, hinner, ⟨_, c⟩, _, rfl, rfl, rfl⟩ := hkinds
    exact .enclosed o c (ih hinner)

namespace Lexer

open Literal (isBlank_of_isDigit)

/-- The kinds of the tokens of a text; none if the text cannot be read. -/
def kinds? (cs : List Char) : Option (List TokenKind) :=
  (tokensFrom 0 cs).toOption.map fun tokens ↦ tokens.map ExpressionToken.kind

/-- A text that has kinds has tokens of these kinds. -/
theorem exists_tokens_of_kinds? {s : String} {kinds : List TokenKind}
    (h : kinds? s.toList = some kinds) :
    ∃ read, tokens s = .ok read ∧ read.map ExpressionToken.kind = kinds := by
  obtain ⟨read, hread, hkinds⟩ := Option.map_eq_some_iff.mp h
  refine ⟨read, ?_, hkinds⟩
  rw [tokens]
  cases hresult : tokensFrom 0 s.toList with
  | error error =>
    rw [hresult] at hread
    cases hread
  | ok found =>
    rw [hresult] at hread
    cases hread
    rfl

/-- A token is the same at every offset. -/
theorem toOption_scan (offset other : Nat) (c : Char) (rest : List Char) :
    (scan offset c rest).toOption = (scan other c rest).toOption := by
  rw [scan, scan]
  dsimp only
  by_cases hnumber : startsNumber c rest = true
  · rw [if_pos hnumber, if_pos hnumber]
    cases Binary64.ofText? (String.ofList (numberChars (c :: rest))) with
    | none => rfl
    | some x =>
      dsimp only
      by_cases hword :
          ((c :: rest).drop (numberChars (c :: rest)).length).head?.any isNameChar = true
      · rw [if_pos hword, if_pos hword]
        rfl
      · rw [if_neg hword, if_neg hword]
  · rw [if_neg hnumber, if_neg hnumber]
    by_cases hquote : (c = '"' || c = '\'') = true
    · rw [if_pos hquote, if_pos hquote]
      cases textChars c rest with
      | none => rfl
      | some found => rfl
    · rw [if_neg hquote, if_neg hquote]
      by_cases hname : isNameStart c = true
      · rw [if_pos hname, if_pos hname]
      · rw [if_neg hname, if_neg hname]
        cases Punctuator.all.find? (fits (c :: rest)) with
        | none => rfl
        | some p => rfl

/-- The kinds behind a token do not change the kind of the token. -/
theorem map_kind_tokensFrom_cons {c : Char} (h : Text.isBlank c = false) (offset : Nat)
    (rest : List Char) :
    (tokensFrom offset (c :: rest)).toOption.map (List.map ExpressionToken.kind) =
      (scan offset c rest).toOption.bind fun found ↦
        ((tokensFrom (offset + byteCount (c :: rest.take found.2))
          (rest.drop found.2)).toOption.map (List.map ExpressionToken.kind)).map
            (found.1 :: ·) := by
  rw [tokensFrom.eq_def]
  dsimp only
  rw [h, if_neg Bool.false_ne_true]
  cases scan offset c rest with
  | error => rfl
  | ok found =>
    dsimp only [Except.toOption, Option.bind_some]
    cases tokensFrom (offset + byteCount (c :: rest.take found.2)) (rest.drop found.2) <;> rfl

/-- What holds of the empty text, of a text behind a blank and of one with a token in front, if it
holds of what is left behind the token, holds of every text. -/
theorem text_induction {motive : List Char → Prop} (nil : motive [])
    (blank : ∀ c rest, Text.isBlank c = true → motive rest → motive (c :: rest))
    (token : ∀ c rest, Text.isBlank c = false → (∀ count, motive (rest.drop count)) →
      motive (c :: rest)) (cs : List Char) : motive cs := by
  suffices h : ∀ length, ∀ cs : List Char, cs.length < length → motive cs from
    h (cs.length + 1) cs (Nat.lt_succ_self _)
  intro length
  induction length with
  | zero => exact fun cs h ↦ absurd h (Nat.not_lt_zero _)
  | succ length ih =>
    intro cs hlength
    cases cs with
    | nil => exact nil
    | cons c rest =>
      rw [List.length_cons, Nat.add_lt_add_iff_right] at hlength
      cases hblank : Text.isBlank c with
      | true => exact blank c rest hblank (ih rest hlength)
      | false =>
        apply token c rest hblank
        intro count
        exact ih _ (Nat.lt_of_le_of_lt (List.drop_sublist ..).length_le hlength)

/-- The kinds of tokens are the same at every offset. -/
theorem map_kind_tokensFrom (offset : Nat) (cs : List Char) :
    (tokensFrom offset cs).toOption.map (List.map ExpressionToken.kind) = kinds? cs := by
  rw [kinds?]
  generalize 0 = other
  induction cs using text_induction generalizing offset other with
  | nil => rw [tokensFrom_nil, tokensFrom_nil]
  | blank c rest hblank ih =>
    rw [tokensFrom_of_isBlank hblank, tokensFrom_of_isBlank hblank]
    exact ih _ _
  | token c rest hblank ih =>
    rw [map_kind_tokensFrom_cons hblank, map_kind_tokensFrom_cons hblank,
      toOption_scan offset other]
    congr 1
    funext found
    rw [ih found.2]

theorem kinds?_nil : kinds? [] = some [] := by
  rw [kinds?, tokensFrom_nil]
  rfl

/-- A blank is no token. -/
theorem kinds?_of_isBlank {c : Char} (h : Text.isBlank c = true) (rest : List Char) :
    kinds? (c :: rest) = kinds? rest := by
  rw [kinds?, tokensFrom_of_isBlank h, map_kind_tokensFrom]

/-- The kind of the first token, and those behind it. -/
theorem kinds?_cons {c : Char} (h : Text.isBlank c = false) (rest : List Char) :
    kinds? (c :: rest) = (scan 0 c rest).toOption.bind fun found ↦
      (kinds? (rest.drop found.2)).map (found.1 :: ·) := by
  rw [kinds?, map_kind_tokensFrom_cons h]
  congr 1
  funext found
  rw [map_kind_tokensFrom]

/-! ## Blanks behind a text -/

/-- The point and the digits that a text starts with. -/
def fractionChars : List Char → List Char
  | '.' :: rest => '.' :: rest.takeWhile Char.isDigit
  | _ => []

theorem fractionChars_of_ne_point {cs : List Char} (h : ∀ c ∈ cs.head?, c ≠ '.') :
    fractionChars cs = [] := by
  unfold fractionChars
  split
  · exact absurd rfl (h '.' rfl)
  · rfl

theorem numberChars_eq (cs : List Char) :
    numberChars cs = cs.takeWhile Char.isDigit ++ fractionChars (cs.dropWhile Char.isDigit) ++
      exponentChars (cs.drop ((cs.takeWhile Char.isDigit).length +
        (fractionChars (cs.dropWhile Char.isDigit)).length)) :=
  rfl

section Gap

variable {gap : List Char} (hgap : gap.all Text.isBlank = true)

include hgap

theorem endsToken_of_all : EndsToken gap := by
  intro c hc
  exact List.all_eq_true.mp hgap c (List.mem_of_mem_head? hc)

theorem all_drop (count : Nat) : (gap.drop count).all Text.isBlank = true := by
  rw [List.all_eq_true] at hgap ⊢
  exact fun c hc ↦ hgap c (List.mem_of_mem_drop hc)

section

variable {p : Char → Bool} (hp : ∀ c, p c = true → Text.isBlank c = false)

include hp

theorem any_head?_append (cs : List Char) : (cs ++ gap).head?.any p = cs.head?.any p := by
  cases cs with
  | nil => exact (endsToken_of_all hgap).any_head? hp
  | cons c rest => rfl

theorem takeWhile_append (cs : List Char) : (cs ++ gap).takeWhile p = cs.takeWhile p := by
  rw [List.takeWhile_append, (endsToken_of_all hgap).takeWhile hp, List.append_nil]
  split
  next hall => exact ((List.takeWhile_prefix p).eq_of_length hall).symm
  next => rfl

theorem dropWhile_append (cs : List Char) :
    (cs ++ gap).dropWhile p = cs.dropWhile p ++ gap := by
  rw [List.dropWhile_append]
  split
  next hnil =>
    have hrun : ∀ c ∈ ([] : List Char), p c = true := fun _ hc ↦ nomatch hc
    rw [List.isEmpty_iff.mp hnil, List.nil_append]
    exact Text.dropWhile_append_of_head? hrun ((endsToken_of_all hgap).head? hp)
  next => rfl

end

/-- An exponent does not go on into blanks. -/
theorem exponentChars_append (cs : List Char) : exponentChars (cs ++ gap) = exponentChars cs := by
  have htake := takeWhile_append hgap (p := Char.isDigit) fun _ ↦ isBlank_of_isDigit
  match cs, gap with
  | cs, [] => rw [List.append_nil]
  | [], _ :: _ => exact exponentChars_of_endsToken (endsToken_of_all hgap)
  | [e], w :: more =>
    have hw : w.isDigit = false := (endsToken_of_all hgap).noDigit w rfl
    have hsign : (w = '+' || w = '-') = false := by
      rw [List.all_cons, Bool.and_eq_true] at hgap
      rw [Bool.or_eq_false_iff, decide_eq_false_iff_not, decide_eq_false_iff_not]
      constructor <;> rintro rfl <;> cases hgap.1
    cases more <;> simp [exponentChars, hw, hsign]
  | [e, sign], w :: more =>
    have hw : w.isDigit = false := (endsToken_of_all hgap).noDigit w rfl
    by_cases hletter : e = 'e' || e = 'E'
    · by_cases hsign : sign.isDigit <;> simp [exponentChars, hw, hletter, hsign]
    · simp [exponentChars, hletter]
  | e :: sign :: digit :: rest, _ :: _ =>
    simp only [List.cons_append, exponentChars]
    rw [htake, ← List.cons_append, htake]

/-- The fraction of a number does not go on into blanks. -/
theorem fractionChars_append (cs : List Char) : fractionChars (cs ++ gap) = fractionChars cs := by
  have htake := takeWhile_append hgap (p := Char.isDigit) fun _ ↦ isBlank_of_isDigit
  cases cs with
  | nil =>
    apply fractionChars_of_ne_point
    rintro c hc rfl
    cases endsToken_of_all hgap _ hc
  | cons c rest =>
    by_cases hpoint : c = '.'
    · subst hpoint
      rw [List.cons_append, fractionChars, fractionChars, htake]
    · have hne (more : List Char) : ∀ d ∈ (c :: more).head?, d ≠ '.' := by
        rintro d hd rfl
        exact hpoint (Option.some.inj hd)
      rw [List.cons_append, fractionChars_of_ne_point (hne _), fractionChars_of_ne_point (hne _)]

/-- A number does not go on into blanks. -/
theorem numberChars_append (cs : List Char) : numberChars (cs ++ gap) = numberChars cs := by
  have htake := takeWhile_append hgap (p := Char.isDigit) fun _ ↦ isBlank_of_isDigit
  have hdrop := dropWhile_append hgap (p := Char.isDigit) fun _ ↦ isBlank_of_isDigit
  rw [numberChars_eq, numberChars_eq, htake, hdrop, fractionChars_append hgap, List.drop_append,
    exponentChars_append (all_drop hgap _)]

theorem textChars_gap {quote : Char} (hquote : Text.isBlank quote = false) :
    textChars quote gap = none := by
  induction gap with
  | nil => rfl
  | cons c rest ih =>
    rw [List.all_cons, Bool.and_eq_true] at hgap
    have hne {d : Char} (hd : Text.isBlank d = false) : c ≠ d := by
      rintro rfl
      exact Bool.false_ne_true (hd.symm.trans hgap.1)
    rw [textChars_cons (hne hquote) (hne rfl), ih hgap.2, Option.map_none]

/-- Blanks close no text. -/
theorem textChars_append {quote : Char} (hquote : Text.isBlank quote = false) (cs : List Char) :
    textChars quote (cs ++ gap) = textChars quote cs := by
  fun_induction textChars quote cs with
  | case1 => exact textChars_gap hgap hquote
  | case2 rest => exact textChars_quote quote (rest ++ gap)
  | case3 hne =>
    cases gap with
    | nil =>
      rw [List.append_nil, textChars.eq_def]
      dsimp only
      rw [if_neg hne, if_pos rfl]
    | cons c more =>
      rw [List.all_cons, Bool.and_eq_true] at hgap
      rw [List.singleton_append, textChars_backslash (Ne.symm hne), textChars_gap hgap.2 hquote,
        Option.map_none]
  | case4 escaped more hne ih =>
    rw [List.cons_append, List.cons_append, textChars_backslash (Ne.symm hne), ih]
  | case5 c rest hne hbackslash ih =>
    rw [List.cons_append, textChars_cons hne hbackslash, ih]

theorem fits_append_gap (cs : List Char) : fits (cs ++ gap) = fits cs := by
  funext p
  have hthird : (cs ++ gap)[2]?.any Char.isDigit = cs[2]?.any Char.isDigit := by
    rw [← List.head?_drop, ← List.head?_drop, List.drop_append,
      any_head?_append (all_drop hgap _) fun _ ↦ isBlank_of_isDigit]
  rw [fits, fits, isPrefixOf_append (fun c ↦ isBlank_of_mem_chars) (endsToken_of_all hgap), hthird]

theorem scan_append (offset : Nat) {c : Char} (hc : Text.isBlank c = false) (rest : List Char) :
    scan offset c (rest ++ gap) = scan offset c rest := by
  have hdigit (c : Char) (h : c.isDigit = true) := isBlank_of_isDigit h
  have hname (c : Char) (h : isNameChar c = true) := isBlank_of_isNameChar h
  have hword (c : Char) (h : (isNameChar c || c == '.') = true) : Text.isBlank c = false := by
    rcases (Bool.or_eq_true _ _).mp h with h | h
    · exact hname c h
    · rw [beq_iff_eq.mp h]
      rfl
  have hstarts : startsNumber c (rest ++ gap) = startsNumber c rest := by
    rw [startsNumber, startsNumber, any_head?_append hgap hdigit]
  have hbehind (count : Nat) : ((c :: rest ++ gap).drop count).head?.any isNameChar =
      ((c :: rest).drop count).head?.any isNameChar := by
    rw [List.drop_append, any_head?_append (all_drop hgap _) hname]
  rw [scan, scan, ← List.cons_append]
  dsimp only
  rw [hstarts, numberChars_append hgap, hbehind, takeWhile_append hgap hword,
    textChars_append hgap hc, takeWhile_append hgap hname, fits_append_gap hgap]

end Gap

/-- Blanks behind a text change none of its tokens. -/
theorem kinds?_append {gap : List Char} (hgap : gap.all Text.isBlank = true) (cs : List Char) :
    kinds? (cs ++ gap) = kinds? cs := by
  -- How far a token reaches is not bounded, so less of the gap may be left behind it.
  induction cs using text_induction generalizing gap with
  | nil =>
    have hblanks := tokensFrom_of_all_isBlank hgap 0
    rw [List.nil_append, kinds?, hblanks, kinds?_nil]
    rfl
  | blank c rest hblank ih =>
    rw [List.cons_append, kinds?_of_isBlank hblank, kinds?_of_isBlank hblank, ih hgap]
  | token c rest hblank ih =>
    rw [List.cons_append, kinds?_cons hblank, kinds?_cons hblank, scan_append hgap 0 hblank]
    congr 1
    funext found
    rw [List.drop_append, ih _ (all_drop hgap _)]

/-- Blanks in front of a text change none of its tokens. -/
theorem kinds?_append_left {gap : List Char} (hgap : gap.all Text.isBlank = true) (cs : List Char) :
    kinds? (gap ++ cs) = kinds? cs := by
  rw [kinds?, tokensFrom_blanks hgap, map_kind_tokensFrom]

/-- Blanks around a text change none of its tokens. -/
theorem kinds?_padded {before after : List Char} (hbefore : before.all Text.isBlank = true)
    (hafter : after.all Text.isBlank = true) (cs : List Char) :
    kinds? (before ++ (cs ++ after)) = kinds? cs := by
  rw [kinds?_append_left hbefore, kinds?_append hafter]

theorem kinds?_trimChars (cs : List Char) : kinds? (Text.trimChars cs) = kinds? cs := by
  obtain ⟨before, after, hbefore, hafter, hcs⟩ := Text.exists_padded_trimChars cs
  have hpadded := kinds?_padded hbefore hafter (Text.trimChars cs)
  rw [hcs] at hpadded
  exact hpadded.symm

end Lexer

namespace Expression

/-- What is compiled from a text depends on the kinds of its tokens alone. -/
theorem compile_of_kinds {s t : String} {e : Expression} (h : compile s = .ok e)
    (hkinds : Lexer.kinds? t.toList = Lexer.kinds? s.toList) : compile t = .ok e := by
  rw [compile] at h
  cases hs : Lexer.tokens s with
  | error error =>
    rw [hs] at h
    cases h
  | ok tokens =>
    rw [hs] at h
    have hsome : Lexer.kinds? s.toList = some (tokens.map ExpressionToken.kind) := by
      rw [Lexer.tokens] at hs
      rw [Lexer.kinds?, hs]
      rfl
    rw [hsome] at hkinds
    obtain ⟨others, hothers, hsame⟩ := Lexer.exists_tokens_of_kinds? hkinds
    rw [compile, hothers]
    exact ofTokens_eq_ok_iff.mpr ((ofTokens_eq_ok_iff.mp h).of_kinds hsame)

/-- Texts whose tokens are of the same kinds compile to the same expressions. -/
theorem compile_eq_ok_iff_of_kinds {s t : String}
    (hkinds : Lexer.kinds? t.toList = Lexer.kinds? s.toList) (e : Expression) :
    compile t = .ok e ↔ compile s = .ok e :=
  ⟨fun h ↦ compile_of_kinds h hkinds.symm, fun h ↦ compile_of_kinds h hkinds⟩

end Expression

end FieldTags
