import FieldTags.Proofs.Expression.Kinds

/-!
# Conditions in braces and between blanks

A condition may stand between blanks, and in double braces with blanks inside and outside of them.
None of this changes what it says about a row, whatever the condition is: a blank text stays without
a say, and a text that cannot be read or evaluated fails in every form.
-/

namespace FieldTags.Condition

/-! ## Conditions of the same tokens -/

/-- Two outcomes say the same, each about a text of its own. -/
inductive Outcome.Agrees : Outcome → Outcome → Prop
  | blank : Agrees .blank .blank
  | decided (holds : Bool) : Agrees (.decided holds) (.decided holds)
  | failed (source other : String) (error found : ExpressionError) :
      Agrees (.failed source error) (.failed other found)

variable {condition other : String} {row : Option Json}

/-- Conditions with outcomes that agree hold alike. -/
theorem Outcome.Agrees.holds_eq (h : (outcome other row).Agrees (outcome condition row)) :
    holds other row = holds condition row := by
  rw [holds, holds]
  generalize outcome other row = first at h ⊢
  generalize outcome condition row = second at h ⊢
  cases h with
  | blank => rfl
  | decided truthy => rfl
  | failed source text error found => rfl

/-- Conditions whose expressions have tokens of the same kinds say the same of every row. -/
theorem agrees_of_kinds
    (hblank : Text.allBlank (source other) = Text.allBlank (source condition))
    (hkinds : Lexer.kinds? (source other).toList = Lexer.kinds? (source condition).toList)
    (row : Option Json) : (outcome other row).Agrees (outcome condition row) := by
  have hcompile := Expression.compile_eq_ok_iff_of_kinds hkinds
  unfold outcome
  dsimp only
  rw [hblank]
  split_ifs with h
  · exact .blank
  · cases hresult : Expression.compile (source condition) with
    | ok e =>
      rw [(hcompile e).mpr hresult]
      dsimp only [Except.bind]
      cases e.test (scope row) with
      | ok truthy => exact .decided truthy
      | error error => exact .failed ..
    | error error =>
      cases hother : Expression.compile (source other) with
      | ok e =>
        rw [(hcompile e).mp hother] at hresult
        cases hresult
      | error found => exact .failed ..

/-! ## The forms of a condition -/

/-- The text is not delimited: no double braces stand at both ends of what trimming leaves of it. -/
def IsBare (condition : String) : Prop :=
  ∀ body, (Text.trim condition).toList ≠ ['{', '{'] ++ body ++ ['}', '}']

def delimited (s : String) : String :=
  String.ofList ['{', '{'] ++ s ++ String.ofList ['}', '}']

/-- Texts with the same trimmed form are bare together. -/
theorem IsBare.of_trim (h : IsBare condition) (htrim : Text.trim other = Text.trim condition) :
    IsBare other := by
  intro body
  rw [htrim]
  exact h body

theorem IsBare.source_eq (h : IsBare condition) : source condition = condition :=
  unwraps_iff.mp (.bare h)

/-- Texts that are the same up to blanks at their ends have the same tokens. -/
theorem kinds?_of_trim {s t : String} (h : Text.trim s = Text.trim t) :
    Lexer.kinds? s.toList = Lexer.kinds? t.toList := by
  have hchars : Text.trimChars s.toList = Text.trimChars t.toList := String.ofList_injective h
  rw [← Lexer.kinds?_trimChars, hchars, Lexer.kinds?_trimChars]

theorem allBlank_of_trim {s t : String} (h : Text.trim s = Text.trim t) :
    Text.allBlank s = Text.allBlank t := by
  have hchars : Text.trimChars s.toList = Text.trimChars t.toList := String.ofList_injective h
  rw [Bool.eq_iff_iff, Text.allBlank, Text.allBlank, ← Text.trimChars_eq_nil_iff, hchars,
    Text.trimChars_eq_nil_iff]

theorem trim_trim (s : String) : Text.trim (Text.trim s) = Text.trim s := by
  rw [Text.trim, Text.trim, String.toList_ofList, Text.trimChars_trimChars]

/-- Conditions whose expressions are the same up to blanks at their ends say the same. -/
theorem agrees_of_trim (h : Text.trim (source other) = Text.trim (source condition))
    (row : Option Json) : (outcome other row).Agrees (outcome condition row) :=
  agrees_of_kinds (allBlank_of_trim h) (kinds?_of_trim h) row

section Forms

variable {before after : String} (hbefore : Text.allBlank before = true)
  (hafter : Text.allBlank after = true)

include hbefore hafter

theorem trim_padded (s : String) : Text.trim (before ++ s ++ after) = Text.trim s := by
  rw [Text.trim, Text.trim, String.toList_append, String.toList_append, List.append_assoc,
    Text.trimChars_padded hbefore hafter]

/-- The expression of a condition in braces is the text in them, without blanks at its ends. -/
theorem source_delimited (s : String) :
    source (before ++ delimited s ++ after) = Text.trim s := by
  have hchars : (delimited s).toList = ['{', '{'] ++ s.toList ++ ['}', '}'] := by
    rw [delimited, String.toList_append, String.toList_append, String.toList_ofList,
      String.toList_ofList]
  have htrimmed : Text.trimChars (['{', '{'] ++ s.toList ++ ['}', '}']) =
      ['{', '{'] ++ s.toList ++ ['}', '}'] := by
    rw [Text.trimChars_eq_self_iff]
    constructor
    · intro c hc
      cases hc
      rfl
    · intro c hc
      rw [List.getLast?_append_of_ne_nil _ (List.cons_ne_nil _ _)] at hc
      cases hc
      rfl
  apply unwraps_iff.mp
  apply Unwraps.braced
  rw [trim_padded hbefore hafter, Text.trim, hchars, htrimmed, String.toList_ofList]

end Forms

/-- Blanks around a condition, and double braces with blanks in and around them, change nothing
about what the condition says of a row, and so nothing about whether it holds. -/
theorem holds_padded_delimited (hbare : IsBare condition) {before left right after : String}
    (hbefore : Text.allBlank before = true) (hleft : Text.allBlank left = true)
    (hright : Text.allBlank right = true) (hafter : Text.allBlank after = true)
    (row : Option Json) :
    (holds (before ++ condition ++ after) row = holds condition row ∧
      holds (before ++ delimited (left ++ condition ++ right) ++ after) row =
        holds condition row) ∧
      (outcome (before ++ condition ++ after) row).Agrees (outcome condition row) ∧
      (outcome (before ++ delimited (left ++ condition ++ right) ++ after) row).Agrees
        (outcome condition row) := by
  have htrim := trim_padded hbefore hafter condition
  have hpadded : (outcome (before ++ condition ++ after) row).Agrees (outcome condition row) := by
    apply agrees_of_trim
    rw [hbare.source_eq, (hbare.of_trim htrim).source_eq, htrim]
  have hdelimited : (outcome (before ++ delimited (left ++ condition ++ right) ++ after)
      row).Agrees (outcome condition row) := by
    apply agrees_of_trim
    rw [hbare.source_eq, source_delimited hbefore hafter, trim_padded hleft hright, trim_trim]
  exact ⟨⟨hpadded.holds_eq, hdelimited.holds_eq⟩, hpadded, hdelimited⟩

/-- A condition with a text of braces at its end, on a line of its own. -/
def closedMark : String := "row.mark === '" ++ String.ofList ['}', '}'] ++ "'\n"

theorem isBare_closedMark : IsBare closedMark := by
  intro body h
  have hhead : (Text.trim closedMark).toList.head? = some 'r' := by decide +kernel
  rw [h] at hhead
  cases hhead

/-- The condition is false of a row without a mark, also between a tab and an ideographic space, and
in braces there. -/
theorem holds_closedMark :
    holds ("\t" ++ closedMark ++ "　") (some (.object [])) = false ∧
      holds ("\t" ++ delimited (" " ++ closedMark ++ "") ++ "　") (some (.object [])) = false := by
  have htab : Text.allBlank "\t" = true := by decide
  have hspace : Text.allBlank " " = true := by decide
  have hnone : Text.allBlank "" = true := by decide
  have hwide : Text.allBlank "　" = true := by decide
  obtain ⟨⟨hpadded, hdelimited⟩, -⟩ :=
    holds_padded_delimited isBare_closedMark htab hspace hnone hwide (some (.object []))
  have hfalse : holds closedMark (some (.object [])) = false := by decide +kernel
  exact ⟨hpadded.trans hfalse, hdelimited.trans hfalse⟩

end FieldTags.Condition
