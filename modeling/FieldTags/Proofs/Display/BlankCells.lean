import FieldTags.Proofs.Display.Numerals
import FieldTags.Proofs.Display.RelatedItems
import FieldTags.Proofs.Json.DisplayText
import FieldTags.Proofs.Text.Trimming

/-!
# Cells that are blank

A value that is missing, null or the empty text, and a relation without items, give the text for
empty cells. An array of which nothing is to be seen does not: its own text, which is empty, is what
the cell shows, under a formatter that shows the text of a value and without one. In the same way an
item of a relation can have an empty text. Apart from these no cell is blank, if the texts of the
settings and of the field are not.
-/

namespace FieldTags

/-! ## Related items -/

/-- Nothing is to be seen of some items in a mode. -/
def RelationMode.HidesItems (items : List String) : RelationMode → Prop
  | .count => False
  | .link => items.head? = some ""
  | .flat | .tags | .avatarGroup => items = [""]

/-- Items with a separator between them are an empty text only if there is a single empty one. -/
theorem intercalate_eq_empty_iff {separator : String} (hseparator : separator ≠ "")
    {items : List String} (hne : items ≠ []) :
    separator.intercalate items = "" ↔ items = [""] := by
  match items with
  | [] => exact absurd rfl hne
  | [item] => simp
  | item :: next :: more =>
    refine iff_of_false ?_ (by simp)
    rw [String.intercalate_cons_cons]
    intro h
    exact hseparator (String.append_eq_empty_iff.mp (String.append_eq_empty_iff.mp h).1).2

namespace Formatter

/-- What is shown has an empty plain text. -/
def IsBlank (f : Formatter) (shown : DisplayValue) : Prop :=
  shown.toPlainText f.settings.flatSeparator = ""

theorem isBlank_showItems_iff (f : Formatter) (hseparator : f.settings.flatSeparator ≠ "")
    {items : List String} (hne : items ≠ []) (mode : RelationMode) (model : String) :
    f.IsBlank (f.showItems items mode model) ↔ mode.HidesItems items := by
  cases mode with
  | flat => exact intercalate_eq_empty_iff hseparator hne
  | tags => exact intercalate_eq_empty_iff hseparator hne
  | avatarGroup => exact intercalate_eq_empty_iff hseparator hne
  | count =>
    have hcount : toString items.length ≠ "" := Json.toString_ne_empty items.length
    exact iff_of_false (Json.append_ne_empty hcount) id
  | link =>
    cases items with
    | nil => exact absurd rfl hne
    | cons first more =>
      simp [IsBlank, showItems, DisplayValue.toPlainText, RelationMode.HidesItems]

end Formatter

/-! ## Formatters -/

/-- A formatter that shows the text of a value as it is. -/
def FormatterSpec.ShowsText (spec : FormatterSpec) : Prop :=
  spec.kind = .image ∨ ∃ name, spec.kind = .unknown name

/-- The field has no formatter of times and no custom one. -/
def FieldConfig.IsFormattedPlainly (field : FieldConfig) : Prop :=
  ∀ format, (field .formatter).bind FormatterSpec.read? = some format →
    format.kind ≠ .custom ∧ ¬ format.IsTime

/-- The field has no formatter, or one that shows the text of a value. -/
def FieldConfig.ShowsText (field : FieldConfig) : Prop :=
  ∀ format, (field .formatter).bind FormatterSpec.read? = some format → format.ShowsText

theorem FormatterSpec.read?_eq_none_iff {s : String} : read? s = none ↔ Text.allBlank s = true := by
  rw [read?, Text.allBlank, ← Text.trimChars_eq_nil_iff]
  dsimp only
  split_ifs with hblank
  · exact iff_of_true rfl hblank
  · refine iff_of_false ?_ hblank
    split <;> exact nofun

/-- A field has a formatter if its text is not blank. -/
theorem Formatter.hasFormatter_iff {field : FieldConfig} :
    hasFormatter field = true ↔
      ∃ format, (field .formatter).bind FormatterSpec.read? = some format := by
  rw [hasFormatter, ← Option.isSome_iff_exists]
  cases field .formatter with
  | none => rfl
  | some s =>
    rw [Option.any_some, Option.bind_some, Bool.not_eq_true', ← Bool.not_eq_true,
      ← FormatterSpec.read?_eq_none_iff, Option.isSome_iff_ne_none]

namespace Formatter

variable {f : Formatter}

/-- What shows a text of a form that is not empty, or else the placeholder, is not blank. -/
theorem ShowsOnly.not_isBlank {Form : List Char → Prop} {shown : Except FormatError DisplayValue}
    (h : f.ShowsOnly Form shown) (hplaceholder : f.settings.placeholder ≠ "") (hform : ¬ Form []) :
    ∃ value, shown = .ok value ∧ ¬ f.IsBlank value := by
  rcases h with hshown | ⟨text, htext, hshown⟩
  · exact ⟨_, hshown, hplaceholder⟩
  · refine ⟨_, hshown, ?_⟩
    rintro (hempty : text = "")
    rw [hempty] at htext
    exact hform htext

theorem not_isBlank_formatBy_of_currency (hplaceholder : f.settings.placeholder ≠ "") (value : Json)
    {spec : FormatterSpec} (h : spec.kind = .currency) :
    ∃ shown, f.formatBy value spec = .ok shown ∧ ¬ f.IsBlank shown :=
  (f.formatBy_of_currency value h).not_isBlank hplaceholder fun hnil ↦
    hnil.ne_nil (fun hwhole ↦ hwhole.ne_nil rfl) rfl

theorem not_isBlank_formatBy_of_percent (hplaceholder : f.settings.placeholder ≠ "") (value : Json)
    {spec : FormatterSpec} (h : spec.kind = .percent) :
    ∃ shown, f.formatBy value spec = .ok shown ∧ ¬ f.IsBlank shown := by
  by_cases hoverflows : value.Overflows
  · rcases f.formatBy_of_overflows h hoverflows with hshown | hshown
    · exact ⟨_, hshown, (by decide : ("inf%" : String) ≠ "")⟩
    · exact ⟨_, hshown, (by decide : ("-inf%" : String) ≠ "")⟩
  · refine (f.formatBy_of_percent h hoverflows).not_isBlank hplaceholder ?_
    rintro ⟨number, -, hnil⟩
    exact List.append_ne_nil_of_right_ne_nil _ (List.cons_ne_nil _ _) hnil.symm

/-- A formatter shows something of a value, unless it shows the text of the value and this is
empty. -/
theorem isBlank_formatBy_iff (hplaceholder : f.settings.placeholder ≠ "") (value : Json)
    {spec : FormatterSpec} (hcustom : spec.kind ≠ .custom) (htime : ¬ spec.IsTime) :
    ∃ shown, f.formatBy value spec = .ok shown ∧
      (f.IsBlank shown ↔ spec.ShowsText ∧ value.ShowsNothing) := by
  have hnumber (h : ∃ shown, f.formatBy value spec = .ok shown ∧ ¬ f.IsBlank shown)
      (htext : ¬ spec.ShowsText) :
      ∃ shown, f.formatBy value spec = .ok shown ∧
        (f.IsBlank shown ↔ spec.ShowsText ∧ value.ShowsNothing) := by
    obtain ⟨shown, hshown, hblank⟩ := h
    exact ⟨shown, hshown, iff_of_false hblank fun h ↦ htext h.1⟩
  cases hkind : spec.kind with
  | date => exact absurd (.inl hkind) htime
  | datetime => exact absurd (.inr hkind) htime
  | currency =>
    refine hnumber (not_isBlank_formatBy_of_currency hplaceholder value hkind) ?_
    rw [FormatterSpec.ShowsText, hkind]
    simp
  | percent =>
    refine hnumber (not_isBlank_formatBy_of_percent hplaceholder value hkind) ?_
    rw [FormatterSpec.ShowsText, hkind]
    simp
  | image =>
    refine ⟨_, by rw [formatBy, hkind], ?_⟩
    rw [and_iff_right (.inl hkind)]
    exact value.displayText_eq_empty_iff
  | custom => exact absurd hkind hcustom
  | unknown name =>
    refine ⟨.text value.displayText, by rw [formatBy, hkind], ?_⟩
    rw [and_iff_right (.inr ⟨name, hkind⟩)]
    exact value.displayText_eq_empty_iff

/-- A value that is not blank has nothing to see under a formatter, or without one, exactly if its
text is shown and is empty. -/
theorem isBlank_formatValue_iff (hplaceholder : f.settings.placeholder ≠ "") {value : Json}
    (hvalue : Json.isBlank (some value) = false) {field : FieldConfig}
    (hplainly : field.IsFormattedPlainly) :
    ∃ shown, f.formatValue (some value) (field .formatter) = .ok shown ∧
      (f.IsBlank shown ↔ field.ShowsText ∧ value.ShowsNothing) := by
  rw [formatValue, hvalue]
  cases hformat : (field .formatter).bind FormatterSpec.read? with
  | none =>
    have htext : field.ShowsText := by
      intro format h
      cases hformat.symm.trans h
    refine ⟨_, rfl, ?_⟩
    rw [and_iff_right htext]
    exact value.displayText_eq_empty_iff
  | some format =>
    have htext : field.ShowsText ↔ format.ShowsText := by
      simp [FieldConfig.ShowsText, hformat]
    obtain ⟨hcustom, htime⟩ := hplainly format hformat
    rw [htext]
    exact isBlank_formatBy_iff hplaceholder value hcustom htime

end Formatter

/-! ## Cells -/

/-- The field shows related items: it is a relation and has no formatter. -/
def FieldConfig.ShowsItems (field : FieldConfig) : Prop :=
  Formatter.hasFormatter field = false ∧ field.isRelation = true

/-- There is nothing to show in the cell of a field. -/
inductive FieldConfig.IsVacant (field : FieldConfig) (row : Json) (name : String) : Prop where
  /-- There is no value, or it is blank. -/
  | value (hroute : ¬ field.ShowsItems) (hblank : Json.isBlank (row.member? name) = true)
  | items (hroute : field.ShowsItems)
    (hitems : relatedItems? row (field .path) (field .pathItem) = none)

/-- The cell of a field is blank, although there is something to show. -/
inductive FieldConfig.LeavesBlank (field : FieldConfig) (row : Json) (name : String) : Prop where
  /-- It shows the text of an array of which nothing is to be seen. -/
  | value {value : Json} (hroute : ¬ field.ShowsItems) (htext : field.ShowsText)
    (hvalue : row.member? name = some value) (hhollow : value.IsHollow)
  /-- Nothing is to be seen of its related items. -/
  | items {items : List String} (hroute : field.ShowsItems)
    (hitems : relatedItems? row (field .path) (field .pathItem) = some items)
    (hhides : field.relationMode.HidesItems items)

namespace FieldConfig

variable {field : FieldConfig} {row : Json} {name : String}

theorem leavesBlank_iff_of_not_showsItems (hroute : ¬ field.ShowsItems) :
    field.LeavesBlank row name ↔
      field.ShowsText ∧ ∃ value, row.member? name = some value ∧ value.IsHollow := by
  constructor
  · rintro (⟨-, htext, hvalue, hhollow⟩ | ⟨hitems, -⟩)
    · exact ⟨htext, _, hvalue, hhollow⟩
    · exact absurd hitems hroute
  · rintro ⟨htext, value, hvalue, hhollow⟩
    exact .value hroute htext hvalue hhollow

theorem leavesBlank_iff_of_showsItems (hroute : field.ShowsItems) :
    field.LeavesBlank row name ↔
      ∃ items, relatedItems? row (field .path) (field .pathItem) = some items ∧
        field.relationMode.HidesItems items := by
  constructor
  · rintro (⟨hvalue, -⟩ | ⟨-, hitems, hhides⟩)
    · exact absurd hroute hvalue
    · exact ⟨_, hitems, hhides⟩
  · rintro ⟨items, hitems, hhides⟩
    exact .items hroute hitems hhides

end FieldConfig

namespace Formatter

variable {f : Formatter} {row : Json} {name : String} {field : FieldConfig}

/-- A cell is blank exactly if its field leaves it so, and it shows the text for empty cells if there
is nothing to show. -/
structure FillsCell (f : Formatter) (row : Json) (name : String) (field : FieldConfig)
    (shown : DisplayValue) : Prop where
  isBlank_iff : f.IsBlank shown ↔ field.LeavesBlank row name
  of_isVacant : field.IsVacant row name → shown = f.emptyCell field

theorem not_isBlank_emptyCell (hplaceholder : f.settings.placeholder ≠ "")
    (hempty : field .emptyText ≠ some "") : ¬ f.IsBlank (f.emptyCell field) := by
  rw [emptyCell_eq]
  cases htext : field .emptyText with
  | none => exact hplaceholder
  | some text =>
    rintro (h : text = "")
    exact hempty (htext.trans (congrArg some h))

theorem fillsCell_emptyCell (hplaceholder : f.settings.placeholder ≠ "")
    (hempty : field .emptyText ≠ some "") (hleaves : ¬ field.LeavesBlank row name) :
    f.FillsCell row name field (f.emptyCell field) where
  isBlank_iff := iff_of_false (not_isBlank_emptyCell hplaceholder hempty) hleaves
  of_isVacant _ := rfl

/-- A cell that does not show related items shows its value under the formatter of the field, if it
has one. -/
theorem cell_of_not_showsItems (model : String) (hroute : ¬ field.ShowsItems) :
    f.cell row name field model =
      if Json.isBlank (row.member? name) then .ok (f.emptyCell field)
      else f.formatValue (row.member? name) (field .formatter) := by
  rw [cell]
  cases hformatter : hasFormatter field with
  | true => rfl
  | false =>
    have hrelation : field.isRelation = false :=
      Bool.eq_false_of_not_eq_true fun h ↦ hroute ⟨hformatter, h⟩
    have hnone : (field .formatter).bind FormatterSpec.read? = none := by
      rw [Option.eq_none_iff_forall_ne_some]
      intro format h
      cases hformatter.symm.trans (hasFormatter_iff.mpr ⟨format, h⟩)
    rw [hrelation]
    -- Without a formatter, formatting a value shows its text too.
    cases row.member? name with
    | none => rfl
    | some value =>
      rw [formatValue, hnone]
      cases Json.isBlank (some value) <;> rfl

theorem fillsCell_of_not_showsItems (model : String) (hplaceholder : f.settings.placeholder ≠ "")
    (hempty : field .emptyText ≠ some "") (hplainly : field.IsFormattedPlainly)
    (hroute : ¬ field.ShowsItems) :
    ∃ shown, f.cell row name field model = .ok shown ∧ f.FillsCell row name field shown := by
  have hleaves : field.LeavesBlank row name ↔
      field.ShowsText ∧ ∃ value, row.member? name = some value ∧ value.IsHollow :=
    FieldConfig.leavesBlank_iff_of_not_showsItems hroute
  rw [f.cell_of_not_showsItems model hroute]
  cases hblank : Json.isBlank (row.member? name) with
  | true =>
    refine ⟨_, rfl, fillsCell_emptyCell hplaceholder hempty ?_⟩
    rw [hleaves]
    rintro ⟨-, value, hvalue, hhollow⟩
    cases hblank.symm.trans (hvalue ▸ hhollow.2)
  | false =>
    cases hvalue : row.member? name with
    | none =>
      rw [hvalue] at hblank
      cases hblank
    | some value =>
      rw [hvalue] at hblank
      obtain ⟨shown, hshown, hiff⟩ := isBlank_formatValue_iff (f := f) hplaceholder hblank hplainly
      refine ⟨shown, hshown, ?_, ?_⟩
      · rw [hiff, hleaves, hvalue]
        simp [Json.IsHollow, hblank]
      · rintro (⟨-, hvacant⟩ | ⟨hitems, -⟩)
        · cases hblank.symm.trans (hvalue ▸ hvacant)
        · exact absurd hitems hroute

theorem fillsCell_of_showsItems (model : String) (hplaceholder : f.settings.placeholder ≠ "")
    (hseparator : f.settings.flatSeparator ≠ "") (hempty : field .emptyText ≠ some "")
    (hroute : field.ShowsItems) :
    ∃ shown, f.cell row name field model = .ok shown ∧ f.FillsCell row name field shown := by
  have hleaves : field.LeavesBlank row name ↔
      ∃ items, relatedItems? row (field .path) (field .pathItem) = some items ∧
        field.relationMode.HidesItems items :=
    FieldConfig.leavesBlank_iff_of_showsItems hroute
  rw [f.cell_of_isRelation name model hroute.1 hroute.2]
  refine ⟨_, rfl, ?_⟩
  cases hitems : relatedItems? row (field .path) (field .pathItem) with
  | none =>
    refine fillsCell_emptyCell hplaceholder hempty ?_
    rw [hleaves, hitems]
    simp
  | some items =>
    constructor
    · rw [f.isBlank_showItems_iff hseparator (ne_nil_of_relatedItems? hitems), hleaves, hitems]
      simp
    · rintro (⟨hvalue, -⟩ | ⟨-, hnone⟩)
      · exact absurd hroute hvalue
      · cases hitems.symm.trans hnone

/--
A cell shows something, which is the text for empty cells if there is nothing to show. It is blank
only if it shows the text of an array, or of related items, of which nothing is to be seen.
-/
theorem cell_isBlank_iff_leavesBlank (f : Formatter) (row : Json) (name : String)
    (field : FieldConfig) (model : String) (hplaceholder : f.settings.placeholder ≠ "")
    (hseparator : f.settings.flatSeparator ≠ "") (hempty : field .emptyText ≠ some "")
    (hplainly : field.IsFormattedPlainly) :
    ∃ shown, f.cell row name field model = .ok shown ∧ f.FillsCell row name field shown := by
  by_cases hroute : field.ShowsItems
  · exact fillsCell_of_showsItems model hplaceholder hseparator hempty hroute
  · exact fillsCell_of_not_showsItems model hplaceholder hempty hplainly hroute

/-- A photo with a text for contacts without one. -/
def photoField : FieldConfig :=
  .ofTag (.ofList [("formatter", .text "img:80x80"), ("empty-text", .text "no photo")])

/-- A contact without a photo has this text in its cell. -/
theorem cell_missingPhoto :
    (ofSettings .default).cell (.object [("Photo", .null)]) "Photo" photoField "Contact" =
      .ok (.text "no photo") := by
  have hplainly : photoField.IsFormattedPlainly := by
    intro format hformat
    have himage : (photoField .formatter).bind FormatterSpec.read? =
        some ⟨.image, some "80x80"⟩ := by
      decide +kernel
    cases himage.symm.trans hformat
    exact ⟨nofun, by rintro (h | h) <;> cases h⟩
  obtain ⟨shown, hshown, hfills⟩ := cell_isBlank_iff_leavesBlank (ofSettings .default)
    (.object [("Photo", .null)]) "Photo" photoField "Contact" (by decide) (by decide) (by decide)
    hplainly
  have hvacant : photoField.IsVacant (.object [("Photo", .null)]) "Photo" :=
    .value (fun h ↦ absurd h.1 (by decide +kernel)) rfl
  rw [hshown, hfills.of_isVacant hvacant]
  rfl

/-- The cell of an empty array is blank. -/
theorem not_forall_not_isBlank_cell :
    ¬ ∀ (f : Formatter) (row : Json) (name : String) (field : FieldConfig) (model : String),
      f.settings.placeholder ≠ "" → f.settings.flatSeparator ≠ "" →
        field .emptyText ≠ some "" → field.IsFormattedPlainly →
          ∃ shown, f.cell row name field model = .ok shown ∧ ¬ f.IsBlank shown := by
  intro h
  obtain ⟨shown, hshown, hblank⟩ := h (ofSettings .default) (.object [("Tags", .array [])]) "Tags"
    .empty "User" (by decide) (by decide) nofun nofun
  cases hshown
  exact hblank rfl

end Formatter

end FieldTags
