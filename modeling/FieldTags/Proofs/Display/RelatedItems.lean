import FieldTags.Display.Cell
import Mathlib.Tactic.Common

/-!
# Related items in every mode

The related items of a row depend on the paths of a relation alone, and they are never an empty list.
So either every mode shows the placeholder, or all modes show the same items in their ways, and the
link of several items has a first one to lead to. A field without a formatter that is a relation
shows the same as the relation by itself, but its own text for empty cells in place of the
placeholder.
-/

namespace FieldTags

variable {row : Json} {path itemPath : Option String}

/-- The related items of a row are never an empty list. -/
theorem ne_nil_of_relatedItems? {items : List String}
    (h : relatedItems? row path itemPath = some items) : items ≠ [] := by
  rw [relatedItems?, Option.ite_none_left_eq_some] at h
  obtain ⟨-, h⟩ := h
  dsimp only at h
  split at h
  · cases h
  · rw [Option.ite_none_left_eq_some, Option.some.injEq] at h
    exact h.2 ▸ h.1
  · rw [Option.ite_none_left_eq_some, Option.some.injEq] at h
    exact h.2 ▸ List.cons_ne_nil _ _

/-- The mode that a word asks for. No word, and every other word, asks for flat texts. -/
def RelationMode.ofWord : Option String → RelationMode
  | some "tags" => .tags
  | some "avatar-group" => .avatarGroup
  | some "count" => .count
  | some "link" => .link
  | _ => .flat

theorem RelationMode.getD_ofName? (word : Option String) :
    (word.bind ofName?).getD .flat = ofWord word := by
  unfold ofWord
  split
  · rfl
  · rfl
  · rfl
  · rfl
  next htags havatars hcount hlink =>
    cases word with
    | none => rfl
    | some s =>
      simp only [Option.some.injEq, imp_false] at htags havatars hcount hlink
      rw [Option.bind_some, ofName?, all, List.find?_cons]
      -- The mode of flat texts, the first of all, is in use whether or not the word is its name.
      cases decide (RelationMode.flat.name = s) with
      | true => rfl
      | false =>
        have hnone : [tags, avatarGroup, count, link].find? (fun mode ↦ decide (mode.name = s)) =
            none := by
          simp [name, Ne.symm htags, Ne.symm havatars, Ne.symm hcount, Ne.symm hlink]
        rw [hnone]
        rfl

/-- A field without a formatter shows the items of a relation in a mode. -/
structure FieldConfig.ShowsRelation (field : FieldConfig) (path itemPath : Option String)
    (mode : RelationMode) : Prop where
  no_formatter : ∀ s, field .formatter = some s → Text.allBlank s = true
  isRelation : ∃ s, s ≠ "" ∧ (field .path = some s ∨ field .mode = some s)
  path : field .path = path
  itemPath : field .pathItem = itemPath
  mode : RelationMode.ofWord (field .mode) = mode

namespace Formatter

/-- A relation leads to no items, in whatever mode. -/
structure ShowsNoItems (f : Formatter) (row : Json) (path itemPath : Option String)
    (model : String) : Prop where
  relation (mode : RelationMode) :
    f.showRelation row path itemPath mode model = .text f.settings.placeholder
  /-- In a cell the text for empty cells takes the place of the placeholder, if there is one. -/
  cell (name : String) {field : FieldConfig} {mode : RelationMode}
    (h : field.ShowsRelation path itemPath mode) :
    f.cell row name field model = .ok (.text ((field .emptyText).getD f.settings.placeholder))

/-- A relation leads to some items, which every mode shows in its way. -/
structure SharesItems (f : Formatter) (row : Json) (path itemPath : Option String)
    (model : String) (items : List String) : Prop where
  ne_nil : items ≠ []
  tags : f.showRelation row path itemPath .tags model = .tags items
  avatars : f.showRelation row path itemPath .avatarGroup model = .avatars items
  flat : f.showRelation row path itemPath .flat model =
    .text (f.settings.flatSeparator.intercalate items)
  count : f.showRelation row path itemPath .count model =
    .text (toString items.length ++ f.settings.countUnit)
  /-- The link shows the first item, and its route has the model and this item in their places. -/
  link : f.showRelation row path itemPath .link model =
    .link
      (Text.replaceAll (Text.replaceAll f.settings.linkRoute "{model}" model) "{id}"
        (items.head ne_nil))
      (items.head ne_nil)
  /-- The plain text of tags and of images of persons is the flat text. -/
  plain (mode : RelationMode) (h : mode = .tags ∨ mode = .avatarGroup) :
    .text ((f.showRelation row path itemPath mode model).toPlainText f.settings.flatSeparator) =
      f.showRelation row path itemPath .flat model
  /-- A cell shows the same as the relation by itself. -/
  cell (name : String) {field : FieldConfig} {mode : RelationMode}
    (h : field.ShowsRelation path itemPath mode) :
    f.cell row name field model = .ok (f.showRelation row path itemPath mode model)

variable (f : Formatter) (name model : String) {field : FieldConfig}

/-- A relation without a formatter shows its items, or the text for empty cells. -/
theorem cell_of_isRelation (hformatter : hasFormatter field = false)
    (hrelation : field.isRelation = true) :
    f.cell row name field model =
      .ok (match relatedItems? row (field .path) (field .pathItem) with
        | some items => f.showItems items field.relationMode model
        | none => f.emptyCell field) := by
  rw [cell, hformatter, hrelation]
  cases relatedItems? row (field .path) (field .pathItem) <;> rfl

theorem cell_of_showsRelation {mode : RelationMode} (h : field.ShowsRelation path itemPath mode) :
    f.cell row name field model =
      .ok (match relatedItems? row path itemPath with
        | some items => f.showItems items mode model
        | none => f.emptyCell field) := by
  have hformatter : hasFormatter field = false := by
    rw [hasFormatter, Option.any_eq_false]
    intro s hs
    rw [h.no_formatter s hs, Bool.not_true]
  have hrelation : field.isRelation = true := by
    obtain ⟨s, hs, hpath | hmode⟩ := h.isRelation
    · rw [FieldConfig.isRelation, hpath]
      simp [hs]
    · rw [FieldConfig.isRelation, hmode]
      simp [hs]
  have hrelationMode : field.relationMode = mode :=
    (RelationMode.getD_ofName? (field .mode)).trans h.mode
  rw [f.cell_of_isRelation name model hformatter hrelation, h.path, h.itemPath, hrelationMode]

theorem emptyCell_eq (field : FieldConfig) :
    f.emptyCell field = .text ((field .emptyText).getD f.settings.placeholder) := by
  rw [emptyCell]
  cases field .emptyText <;> rfl

theorem showsNoItems_of_relatedItems? (h : relatedItems? row path itemPath = none) :
    f.ShowsNoItems row path itemPath model where
  relation mode := by
    rw [showRelation, h]
    rfl
  cell name field mode hfield := by
    rw [f.cell_of_showsRelation name model hfield, h, ← emptyCell_eq]

theorem sharesItems_of_relatedItems? {items : List String}
    (h : relatedItems? row path itemPath = some items) :
    f.SharesItems row path itemPath model items := by
  have hshow (mode : RelationMode) :
      f.showRelation row path itemPath mode model = f.showItems items mode model := by
    rw [showRelation, h]
  have hne := ne_nil_of_relatedItems? h
  refine ⟨hne, hshow _, hshow _, hshow _, hshow _, ?_, ?_, ?_⟩
  · rw [hshow, showItems, List.headD_eq_head?_getD, List.head?_eq_some_head hne, Option.getD_some]
    rfl
  · rintro mode (rfl | rfl)
    · rw [hshow, hshow]
      rfl
    · rw [hshow, hshow]
      rfl
  · intro name field mode hfield
    rw [f.cell_of_showsRelation name model hfield, h, hshow]

/-- All modes show the same items of a relation, and a cell shows them too, or there are none and
all show the placeholder. The items are the same under all settings and for all models. -/
theorem relation_shares_items (row : Json) (path itemPath : Option String) :
    (∀ (f : Formatter) (model : String), f.ShowsNoItems row path itemPath model) ∨
      ∃ items, ∀ (f : Formatter) (model : String), f.SharesItems row path itemPath model items := by
  cases h : relatedItems? row path itemPath with
  | none => exact .inl fun f model ↦ f.showsNoItems_of_relatedItems? model h
  | some items => exact .inr ⟨items, fun f model ↦ f.sharesItems_of_relatedItems? model h⟩

end Formatter

end FieldTags
