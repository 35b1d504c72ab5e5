import FieldTags.Text.Blank
import Mathlib.Data.List.Basic
import Mathlib.Data.List.TakeWhile

/-!
# Trimmed texts

A text without blanks is its own trimmed form, a text of blanks has an empty one, and what is its
own trimmed form and not empty has a character that is not blank. Whether a text is its own trimmed
form can be seen at its two ends, as can the end of a run of characters of one kind. Every text is
its trimmed form with blanks around it, and all blanks around a text are taken away.
-/

namespace FieldTags.Text

/-- Dropping from the front keeps what is not to be dropped. -/
theorem mem_dropWhile {α : Type} {p : α → Bool} {c : α} {cs : List α} (hc : p c = false)
    (h : c ∈ cs) : c ∈ cs.dropWhile p := by
  rw [← List.takeWhile_append_dropWhile (p := p) (l := cs)] at h
  rcases List.mem_append.mp h with htaken | hrest
  · exact absurd (List.mem_takeWhile_imp htaken) (Bool.eq_false_iff.mp hc)
  · exact hrest

section

variable {α : Type} {p : α → Bool} {run rest : List α}

/-- A run ends where what follows it starts with something else. -/
theorem takeWhile_append_of_head? (h : ∀ c ∈ run, p c = true)
    (hrest : ∀ c ∈ rest.head?, p c = false) : (run ++ rest).takeWhile p = run := by
  rw [List.takeWhile_append_of_pos h]
  cases rest with
  | nil => exact List.append_nil run
  | cons c more =>
    rw [List.takeWhile_cons_of_neg (Bool.eq_false_iff.mp (hrest c rfl)), List.append_nil]

theorem dropWhile_append_of_head? (h : ∀ c ∈ run, p c = true)
    (hrest : ∀ c ∈ rest.head?, p c = false) : (run ++ rest).dropWhile p = rest := by
  rw [List.dropWhile_append_of_pos h]
  cases rest with
  | nil => rfl
  | cons c more => exact List.dropWhile_cons_of_neg (Bool.eq_false_iff.mp (hrest c rfl))

end

/-- Nothing is dropped from the front of a text without blanks. -/
theorem dropWhile_isBlank_of_forall {cs : List Char} (h : ∀ c ∈ cs, isBlank c = false) :
    cs.dropWhile isBlank = cs := by
  cases cs with
  | nil => rfl
  | cons c rest =>
    have hc := h c List.mem_cons_self
    exact List.dropWhile_cons_of_neg (Bool.not_eq_true _ ▸ hc)

/-- A text without blanks is trimmed. -/
theorem trimChars_of_forall {cs : List Char} (h : ∀ c ∈ cs, isBlank c = false) :
    trimChars cs = cs := by
  have hreverse : ∀ c ∈ cs.reverse, isBlank c = false := fun c hc ↦ h c (List.mem_reverse.mp hc)
  rw [trimChars, dropWhile_isBlank_of_forall h, trimEnd, dropWhile_isBlank_of_forall hreverse,
    List.reverse_reverse]

/-- Nothing is left of blanks. -/
theorem trimChars_of_all {cs : List Char} (h : cs.all isBlank = true) : trimChars cs = [] := by
  have hnil : cs.dropWhile isBlank = [] := by
    rw [List.dropWhile_eq_nil_iff]
    exact List.all_eq_true.mp h
  rw [trimChars, hnil]
  rfl

/-- A trimmed text that is not empty is not blank. -/
theorem all_isBlank_of_trimChars {cs : List Char} (htrim : trimChars cs = cs) (hne : cs ≠ []) :
    cs.all isBlank = false := by
  refine Bool.eq_false_iff.mpr fun hall ↦ hne ?_
  rw [← htrim]
  exact trimChars_of_all hall

/-- Trimming only leaves characters out. -/
theorem trimChars_sublist (cs : List Char) : (trimChars cs).Sublist cs := by
  have hend : (trimEnd (cs.dropWhile isBlank)).reverse.Sublist (cs.dropWhile isBlank).reverse := by
    rw [trimEnd, List.reverse_reverse]
    exact List.dropWhile_sublist _
  exact (List.reverse_sublist.mp hend).trans (List.dropWhile_sublist _)

/-- Trimming leaves no character out that is not blank. -/
theorem mem_trimChars {c : Char} {cs : List Char} (hc : isBlank c = false) (h : c ∈ cs) :
    c ∈ trimChars cs :=
  List.mem_reverse.mpr (mem_dropWhile hc (List.mem_reverse.mpr (mem_dropWhile hc h)))

/-- Nothing is left of a text exactly if nothing but blanks stands in it. -/
theorem trimChars_eq_nil_iff {cs : List Char} : trimChars cs = [] ↔ cs.all isBlank = true := by
  refine ⟨?_, trimChars_of_all⟩
  intro hnil
  rw [List.all_eq_true]
  intro c hc
  by_contra hblank
  have hmem := mem_trimChars (Bool.eq_false_iff.mpr hblank) hc
  rw [hnil] at hmem
  exact List.not_mem_nil hmem

theorem trimChars_toList {s : String} (h : trim s = s) : trimChars s.toList = s.toList := by
  have hlist := congrArg String.toList h
  rwa [trim, String.toList_ofList] at hlist

/-- A text is trimmed at its front if it does not begin with a blank. -/
theorem dropWhile_isBlank_eq_self_iff {cs : List Char} :
    cs.dropWhile isBlank = cs ↔ ∀ c ∈ cs.head?, isBlank c = false := by
  cases cs with
  | nil => simp
  | cons c rest =>
    constructor
    · intro h first hfirst
      cases hfirst
      apply Bool.eq_false_iff.mpr
      intro hblank
      have hlength := congrArg List.length h
      rw [List.dropWhile_cons_of_pos hblank] at hlength
      have hle := (List.dropWhile_suffix isBlank (l := rest)).length_le
      rw [hlength, List.length_cons] at hle
      omega
    · intro h
      exact List.dropWhile_cons_of_neg (Bool.eq_false_iff.mp (h c rfl))

/-- A text is trimmed if it neither begins nor ends with a blank. -/
theorem trimChars_eq_self_iff {cs : List Char} :
    trimChars cs = cs ↔
      (∀ c ∈ cs.head?, isBlank c = false) ∧ ∀ c ∈ cs.getLast?, isBlank c = false := by
  have hend : trimEnd cs = cs ↔ ∀ c ∈ cs.getLast?, isBlank c = false := by
    rw [trimEnd, List.reverse_eq_iff, dropWhile_isBlank_eq_self_iff, List.head?_reverse]
  rw [← dropWhile_isBlank_eq_self_iff, ← hend]
  constructor
  · intro h
    have hfront : cs.dropWhile isBlank = cs := by
      apply (List.dropWhile_suffix isBlank).eq_of_length_le
      have hlength := congrArg List.length h
      rw [trimChars, trimEnd, List.length_reverse] at hlength
      have hle := (List.dropWhile_suffix isBlank (l := (cs.dropWhile isBlank).reverse)).length_le
      rw [hlength, List.length_reverse] at hle
      exact hle
    refine ⟨hfront, ?_⟩
    rwa [trimChars, hfront] at h
  · rintro ⟨hfront, hend⟩
    rw [trimChars, hfront, hend]

/-- What is left by trimming is trimmed. -/
theorem trimChars_trimChars (cs : List Char) : trimChars (trimChars cs) = trimChars cs := by
  rw [trimChars_eq_self_iff]
  constructor
  · intro c hc
    -- Cutting at the end leaves the front as it is.
    obtain ⟨tail, htail⟩ : trimChars cs <+: cs.dropWhile isBlank := by
      rw [trimChars, trimEnd, ← List.reverse_suffix, List.reverse_reverse]
      exact List.dropWhile_suffix _
    have hfront := List.head?_dropWhile_not isBlank cs
    rwa [← htail, List.head?_append, hc] at hfront
  · intro c hc
    have hback := List.head?_dropWhile_not isBlank (cs.dropWhile isBlank).reverse
    rw [trimChars, trimEnd, List.getLast?_reverse] at hc
    rwa [hc] at hback

/-- Blanks behind a text do not change what is left of its end. -/
theorem trimEnd_append {gap : List Char} (h : gap.all isBlank = true) (cs : List Char) :
    trimEnd (cs ++ gap) = trimEnd cs := by
  rw [trimEnd, List.reverse_append, List.dropWhile_append_of_pos, trimEnd]
  intro c hc
  exact List.all_eq_true.mp h c (List.mem_reverse.mp hc)

/-- Blanks around a text do not change what trimming leaves of it. -/
theorem trimChars_padded {before after : List Char} (hbefore : before.all isBlank = true)
    (hafter : after.all isBlank = true) (cs : List Char) :
    trimChars (before ++ (cs ++ after)) = trimChars cs := by
  rw [trimChars, List.dropWhile_append_of_pos (List.all_eq_true.mp hbefore), List.dropWhile_append]
  split
  next hcs =>
    have hafter : after.dropWhile isBlank = [] :=
      List.dropWhile_eq_nil_iff.mpr (List.all_eq_true.mp hafter)
    rw [trimChars, hafter, List.isEmpty_iff.mp hcs]
  next => rw [trimEnd_append hafter, trimChars]

/-- A text is what trimming leaves of it, with blanks around. -/
theorem exists_padded_trimChars (cs : List Char) :
    ∃ before after, before.all isBlank = true ∧ after.all isBlank = true ∧
      before ++ (trimChars cs ++ after) = cs := by
  have hend : trimChars cs ++ ((cs.dropWhile isBlank).reverse.takeWhile isBlank).reverse =
      cs.dropWhile isBlank := by
    rw [trimChars, trimEnd, ← List.reverse_append, List.takeWhile_append_dropWhile,
      List.reverse_reverse]
  refine ⟨cs.takeWhile isBlank, ((cs.dropWhile isBlank).reverse.takeWhile isBlank).reverse,
    List.all_takeWhile, ?_, ?_⟩
  · rw [List.all_reverse, List.all_takeWhile]
  · rw [hend, List.takeWhile_append_dropWhile]

/-- Trimming takes the spaces around a trimmed text away. -/
theorem trimChars_spaced {cs : List Char} (h : trimChars cs = cs) :
    trimChars (' ' :: (cs ++ [' '])) = cs := by
  have hspace : [' '].all isBlank = true := rfl
  exact (trimChars_padded hspace hspace cs).trans h

/-- Two trimmed texts with a character between them are trimmed. -/
theorem trimChars_append_cons {before after : List Char} {c : Char}
    (hbefore : trimChars before = before) (hne : before ≠ []) (hc : isBlank c = false)
    (hafter : trimChars after = after) :
    trimChars (before ++ c :: after) = before ++ c :: after := by
  rw [trimChars_eq_self_iff] at hbefore hafter ⊢
  constructor
  · rw [List.head?_append_of_ne_nil _ hne]
    exact hbefore.1
  · rw [List.getLast?_append_cons]
    cases after with
    | nil =>
      intro last hlast
      cases hlast
      exact hc
    | cons d rest =>
      rw [List.getLast?_cons_cons]
      exact hafter.2

end FieldTags.Text
