import FieldTags.Config.Field
import FieldTags.Proofs.Number.WholeNumberText
import FieldTags.Proofs.Tag.Rereading

/-!
# Attributes of texts

An attribute whose value is a text has the text of the scalar that the tag gives it. What is written
in the tag is read without regard to the attribute, and so a text that is a truth value or a number
comes back in the spelling of this value: in small letters, or as the shortest plain digits. A text
in this spelling, and every text that is neither, stays what it is.
-/

namespace FieldTags

/-! ## Spellings -/

namespace TagValue

/-- A text in the spelling that its value has: the word of a truth value, the plain text of a finite
number, or a text that is neither in any spelling. -/
inductive IsOwnSpelling : String → Prop where
  | truth (b : Bool) : IsOwnSpelling (TagValue.bool b).toText
  | number {x : Binary64} (h : x.isFinite = true) : IsOwnSpelling (NumberLayout.plain.text x)
  | other {s : String} (htrue : s.toLower ≠ "true") (hfalse : s.toLower ≠ "false")
    (hnumber : Binary64.ofText? s = none) : IsOwnSpelling s

variable {s : String}

/-- What a text reads as has this text if the text is in its own spelling. -/
theorem toText_read_eq_iff : (read s).toText = s ↔ IsOwnSpelling s := by
  constructor
  · intro h
    unfold read at h
    split_ifs at h with hempty htrue hfalse
    · subst hempty
      exact .other (by decide +kernel) (by decide +kernel) (by decide +kernel)
    · exact h ▸ .truth true
    · exact h ▸ .truth false
    · split at h
      next x hx => exact h ▸ .number (Binary64.isFinite_of_ofText? hx)
      next hnumber => exact .other htrue hfalse hnumber
  · intro h
    cases h with
    | truth b => cases b <;> decide +kernel
    | number h => rw [read_plain_text h, toText]
    | other htrue hfalse hnumber =>
      rw [read, if_neg htrue, if_neg hfalse, hnumber]
      split_ifs with hempty
      · rw [hempty, toText]
      · rw [toText]

/-- The text of what a trimmed text reads as is in its own spelling and reads as the same value. -/
theorem isOwnSpelling_toText_read (h : Text.trim s = s) :
    IsOwnSpelling (read s).toText ∧ read (read s).toText = read s := by
  have hread := read_toText (isReadable_read h)
  refine ⟨?_, hread⟩
  rw [← toText_read_eq_iff, hread]

/-- The digits of a whole number are its own spelling. -/
theorem isOwnSpelling_integerChars {n : Int} (hlt : n.natAbs < 2 ^ 53)
    (h : s.toList = integerChars n) : IsOwnSpelling s := by
  obtain ⟨x, hfinite, hx⟩ := Binary64.exists_plain_text_integerChars hlt
  obtain rfl : NumberLayout.plain.text x = s := String.toList_inj.mp (hx.trans h.symm)
  exact .number hfinite

end TagValue

/-! ## Attributes -/

namespace FieldAttribute

theorem isKey_key (a : FieldAttribute) : Tag.IsKey a.key := by
  cases a <;> decide +kernel

end FieldAttribute

/-- The text that a value is, if it is of the kind of texts. -/
def AttributeKind.text? : (kind : AttributeKind) → kind.Value → Option String
  | .text, s => some s
  | _, _ => none

theorem AttributeKind.bind_text?_read {kind : AttributeKind} (h : kind = .text)
    (value : TagValue) : (kind.read value).bind kind.text? = some value.toText := by
  subst h
  rfl

namespace FieldConfig

/-- The text that a configuration gives to an attribute of texts. -/
def text? (config : FieldConfig) (a : FieldAttribute) : Option String :=
  (config a).bind a.kind.text?

theorem text?_ofTag (tag : TagMap) {a : FieldAttribute} (h : a.kind = .text) :
    (ofTag tag).text? a = (tag.find? a.key).map TagValue.toText := by
  rw [text?, ofTag]
  cases tag.find? a.key with
  | none => rfl
  | some value => exact AttributeKind.bind_text?_read h value

/-- The attributes of texts. -/
example : FieldAttribute.all.filter (·.kind = .text) =
    [.label, .emptyText, .tooltip, .placeholder, .component, .uiClass, .tableClass, .formClass,
      .align, .options, .api, .labelKey, .valueKey, .apiMethod, .loadingText, .emptyOptionsText,
      .operator, .searchPlaceholder, .rules, .path, .pathItem, .mode, .formatter] := by
  decide

/-- An attribute of texts has the text that is written in the tag, but in its own spelling: as the
word of the truth value or the plain text of the number that it reads as. Nothing but the spelling
changes, and whole numbers below `2 ^ 53` in plain digits keep it. -/
theorem text?_textItem {a : FieldAttribute} (h : a.kind = .text) {s : String}
    (hs : Text.trim s = s) :
    ∃ t, (ofTag (Tag.read (Tag.textItem a.key s))).text? a = some t ∧
      (t = s ↔ TagValue.IsOwnSpelling s) ∧
      TagValue.IsOwnSpelling t ∧ TagValue.read t = TagValue.read s ∧
      ∀ n : Int, n.natAbs < 2 ^ 53 → s.toList = integerChars n → t = s := by
  refine ⟨(TagValue.read s).toText, ?_, TagValue.toText_read_eq_iff, ?_, ?_, ?_⟩
  · rw [text?_ofTag _ h, Tag.read_textItem a.isKey_key hs, OrderedMap.find?_singleton, if_pos rfl,
      Option.map_some]
  · exact (TagValue.isOwnSpelling_toText_read hs).1
  · exact (TagValue.isOwnSpelling_toText_read hs).2
  · exact fun n hlt hn ↦ TagValue.toText_read_eq_iff.mpr (TagValue.isOwnSpelling_integerChars hlt hn)

/-- A text with a semicolon and a year stay what they are, and a truth value in capital letters
does not. -/
theorem text?_textItem_labels :
    (ofTag (Tag.read "label:no. 7;; new")).text? .label = some "no. 7; new" ∧
      (ofTag (Tag.read "tooltip:2024")).text? .tooltip = some "2024" ∧
      (ofTag (Tag.read "placeholder:TRUE")).text? .placeholder = some "true" := by
  refine ⟨?_, ?_, ?_⟩
  · obtain ⟨t, ht, hkeeps, -⟩ :=
      text?_textItem (a := .label) rfl (s := "no. 7; new") (by decide +kernel)
    have hown : TagValue.IsOwnSpelling "no. 7; new" :=
      .other (by decide +kernel) (by decide +kernel) (by decide +kernel)
    rw [hkeeps.mpr hown] at ht
    exact ht
  · obtain ⟨t, ht, -, -, -, hwhole⟩ :=
      text?_textItem (a := .tooltip) rfl (s := "2024") (by decide +kernel)
    rw [hwhole 2024 (by decide) (by decide)] at ht
    exact ht
  · obtain ⟨t, ht, -, hown, hread, -⟩ :=
      text?_textItem (a := .placeholder) rfl (s := "TRUE") (by decide +kernel)
    have hword : (TagValue.read "TRUE").toText = "true" := by decide +kernel
    have hspelled : (TagValue.read t).toText = t := TagValue.toText_read_eq_iff.mpr hown
    rw [← hspelled, hread, hword] at ht
    exact ht

/-- A code with a leading zero does not stay what it is. -/
theorem not_forall_text?_textItem :
    ¬ ∀ (a : FieldAttribute) (s : String), a.kind = .text → Text.trim s = s →
      (ofTag (Tag.read (Tag.textItem a.key s))).text? a = some s := by
  intro hall
  have hlabel : (ofTag (Tag.read (Tag.textItem "label" "007"))).text? .label = some "7" := by
    decide +kernel
  have hkept := hall .label "007" rfl (by decide)
  exact absurd (Option.some.inj (hlabel.symm.trans hkept)) (by decide)

end FieldConfig

end FieldTags
