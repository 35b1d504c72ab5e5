import FieldTags.Text.Split
import Mathlib.Tactic.Common

/-!
# Pieces of texts

A text is cut where its first separator is, and joined pieces without the separator are cut again. No
other pieces are, since a piece never has the separator.
-/

namespace FieldTags.Text

/-- The pieces written one after the other with `separator` between them. -/
def joinWith (separator : List Char) : List (List Char) → List Char
  | [] => []
  | [piece] => piece
  | piece :: pieces => piece ++ separator ++ joinWith separator pieces

variable {separator : Char}

/-- Without the separator there is nothing to cut. -/
theorem splitFirst?_of_not_mem {cs : List Char} (h : separator ∉ cs) :
    splitFirst? separator cs = none := by
  induction cs with
  | nil => rfl
  | cons c rest ih =>
    have hc : c ≠ separator := fun heq ↦ h (heq ▸ List.mem_cons_self)
    have hrest : separator ∉ rest := fun hmem ↦ h (List.mem_cons_of_mem c hmem)
    rw [splitFirst?, if_neg hc, ih hrest, Option.map_none]

/-- The first separator is where the text before it has none. -/
theorem splitFirst?_append {before : List Char} (h : separator ∉ before) (after : List Char) :
    splitFirst? separator (before ++ separator :: after) = some (before, after) := by
  induction before with
  | nil => rw [List.nil_append, splitFirst?, if_pos rfl]
  | cons c rest ih =>
    have hc : c ≠ separator := fun heq ↦ h (heq ▸ List.mem_cons_self)
    have hrest : separator ∉ rest := fun hmem ↦ h (List.mem_cons_of_mem c hmem)
    rw [List.cons_append, splitFirst?, if_neg hc, ih hrest, Option.map_some]

/-- What has nothing to cut has no separator. -/
theorem not_mem_of_splitFirst? {cs : List Char} (h : splitFirst? separator cs = none) :
    separator ∉ cs := by
  intro hmem
  obtain ⟨before, after, rfl, hbefore⟩ := List.eq_append_cons_of_mem hmem
  rw [splitFirst?_append hbefore] at h
  cases h

/-- The parts around the first separator. -/
theorem splitFirst?_eq_some_iff {cs before after : List Char} :
    splitFirst? separator cs = some (before, after) ↔
      cs = before ++ separator :: after ∧ separator ∉ before := by
  constructor
  · intro h
    have hmem : separator ∈ cs := by
      by_contra hnot
      cases (splitFirst?_of_not_mem hnot).symm.trans h
    obtain ⟨front, back, rfl, hfront⟩ := List.eq_append_cons_of_mem hmem
    cases (splitFirst?_append hfront back).symm.trans h
    exact ⟨rfl, hfront⟩
  · rintro ⟨rfl, hbefore⟩
    exact splitFirst?_append hbefore after

theorem splitAll_ne_nil (separator : Char) (cs : List Char) : splitAll separator cs ≠ [] := by
  cases cs with
  | nil => simp [splitAll]
  | cons c rest =>
    simp only [splitAll]
    split
    · simp
    · split <;> simp

/-- Without the separator a text is one piece. -/
theorem splitAll_of_not_mem {cs : List Char} (h : separator ∉ cs) : splitAll separator cs = [cs] := by
  induction cs with
  | nil => rfl
  | cons c rest ih =>
    have hc : c ≠ separator := fun heq ↦ h (heq ▸ List.mem_cons_self)
    have hrest : separator ∉ rest := fun hmem ↦ h (List.mem_cons_of_mem c hmem)
    rw [splitAll, if_neg hc, ih hrest]

/-- The first piece ends at the first separator. -/
theorem splitAll_append {piece : List Char} (h : separator ∉ piece) (rest : List Char) :
    splitAll separator (piece ++ separator :: rest) = piece :: splitAll separator rest := by
  induction piece with
  | nil => rw [List.nil_append, splitAll, if_pos rfl]
  | cons c piece ih =>
    have hc : c ≠ separator := fun heq ↦ h (heq ▸ List.mem_cons_self)
    have hpiece : separator ∉ piece := fun hmem ↦ h (List.mem_cons_of_mem c hmem)
    rw [List.cons_append, splitAll, if_neg hc, ih hpiece]

theorem joinWith_cons_cons (piece next : List Char) (more : List (List Char)) :
    joinWith [separator] (piece :: next :: more) =
      piece ++ separator :: joinWith [separator] (next :: more) := by
  rw [joinWith, List.append_assoc]
  · rfl
  · exact List.cons_ne_nil _ _

/-- Joined pieces without the separator are cut again; no pieces are cut as an empty one. -/
theorem splitAll_joinWith {pieces : List (List Char)} (hne : pieces ≠ [])
    (h : ∀ piece ∈ pieces, separator ∉ piece) :
    splitAll separator (joinWith [separator] pieces) = pieces := by
  induction pieces with
  | nil => exact absurd rfl hne
  | cons piece pieces ih =>
    have hpiece := h piece List.mem_cons_self
    cases pieces with
    | nil => exact splitAll_of_not_mem hpiece
    | cons next more =>
      have htail := ih (List.cons_ne_nil _ _) fun other hother ↦ h other (List.mem_cons_of_mem _ hother)
      rw [joinWith_cons_cons, splitAll_append hpiece, htail]

/-- A piece has characters of the text only, and not the separator. -/
theorem mem_of_mem_splitAll {cs piece : List Char} (hpiece : piece ∈ splitAll separator cs)
    {c : Char} (hc : c ∈ piece) : c ∈ cs ∧ c ≠ separator := by
  induction cs generalizing piece with
  | nil =>
    rw [List.mem_singleton.mp hpiece] at hc
    cases hc
  | cons d rest ih =>
    have hrest {other : List Char} (hother : other ∈ splitAll separator rest) (hc : c ∈ other) :
        c ∈ d :: rest ∧ c ≠ separator :=
      ⟨List.mem_cons_of_mem d (ih hother hc).1, (ih hother hc).2⟩
    rw [splitAll] at hpiece
    split at hpiece
    · rcases List.mem_cons.mp hpiece with rfl | hpiece
      · cases hc
      · exact hrest hpiece hc
    next hd =>
      cases hsplit : splitAll separator rest with
      | nil => exact absurd hsplit (splitAll_ne_nil separator rest)
      | cons first more =>
        rw [hsplit] at hpiece hrest
        rcases List.mem_cons.mp hpiece with rfl | hpiece
        · rcases List.mem_cons.mp hc with rfl | hc
          · exact ⟨List.mem_cons_self, hd⟩
          · exact hrest List.mem_cons_self hc
        · exact hrest (List.mem_cons_of_mem first hpiece) hc

theorem mem_of_mem_split {s piece : String} (hpiece : piece ∈ split separator s) {c : Char}
    (hc : c ∈ piece.toList) : c ∈ s.toList ∧ c ≠ separator := by
  obtain ⟨cs, hcs, rfl⟩ := List.mem_map.mp hpiece
  rw [String.toList_ofList] at hc
  exact mem_of_mem_splitAll hcs hc

theorem intercalate_eq_joinWith (pieces : List (List Char)) :
    [separator].intercalate pieces = joinWith [separator] pieces := by
  induction pieces with
  | nil => rfl
  | cons piece pieces ih =>
    cases pieces with
    | nil => exact List.intercalate_singleton
    | cons next more =>
      rw [List.intercalate_cons_cons, joinWith_cons_cons, ih, List.append_assoc]
      rfl

/-- Joined texts without the separator are cut again. -/
theorem split_intercalate {pieces : List String} (hne : pieces ≠ [])
    (h : ∀ piece ∈ pieces, separator ∉ piece.toList) :
    split separator ((String.singleton separator).intercalate pieces) = pieces := by
  have hpieces : ∀ cs ∈ pieces.map String.toList, separator ∉ cs := by
    intro cs hcs
    obtain ⟨piece, hpiece, rfl⟩ := List.mem_map.mp hcs
    exact h piece hpiece
  have hnil : pieces.map String.toList ≠ [] := fun hmap ↦ hne (List.map_eq_nil_iff.mp hmap)
  rw [split, String.toList_intercalate, String.toList_singleton, intercalate_eq_joinWith,
    splitAll_joinWith hnil hpieces, List.map_map]
  simp

end FieldTags.Text
