import FieldTags.Json.Coercion
import FieldTags.Proofs.Number.PlainText

/-!
# Values that show nothing

The text of a value is empty for null and for the empty text. It is empty for the array without items
too, and for an array of a single item whose text is empty; two items have a comma between them.
Every other value has a text that is not empty.
-/

namespace FieldTags.Json

/-- A value of whose text nothing is to be seen. -/
inductive ShowsNothing : Json → Prop where
  | null : ShowsNothing .null
  | string : ShowsNothing (.string "")
  /-- An array without items. -/
  | none : ShowsNothing (.array [])
  /-- An array of a single item that shows nothing. -/
  | single {item : Json} (h : ShowsNothing item) : ShowsNothing (.array [item])

/-- An array that shows nothing. It is not blank, although nothing is to be seen of it. -/
def IsHollow (value : Json) : Prop :=
  value.ShowsNothing ∧ isBlank (some value) = false

theorem scriptText_ne_empty (x : Binary64) : x.scriptText ≠ "" := by
  cases x with
  | nan => decide
  | signed negative rank hrank =>
    rw [Binary64.scriptText]
    split_ifs with hzero hinfinity
    · decide
    · decide
    · decide
    · exact Binary64.plain_text_ne_empty
        (decide_eq_true (Nat.lt_of_le_of_ne hrank hinfinity))

theorem append_ne_empty {s t : String} (h : s ≠ "") : s ++ t ≠ "" :=
  fun happend ↦ h (String.append_eq_empty_iff.mp happend).1

theorem toString_ne_empty (n : Int) : toString n ≠ "" := by
  have hnatural (m : Nat) : Nat.repr m ≠ "" := by
    intro h
    have hdigits := Nat.toList_repr (n := m)
    rw [h] at hdigits
    exact Nat.toDigits_ne_nil hdigits.symm
  cases n with
  | ofNat m => exact hnatural m
  | negSucc m => exact append_ne_empty (by decide)

theorem numberText_ne_empty (n : JsonNumber) : numberText n ≠ "" := by
  cases n with
  | integer n inRange => exact toString_ne_empty n
  | float x finite => exact scriptText_ne_empty x

theorem compact_object_ne_empty (members : List (String × Json)) :
    (Json.object members).compact ≠ "" := by
  rw [compact, tokens, List.cons_append, List.map_cons, String.join_cons]
  exact append_ne_empty (by decide)

/-- The text of a value is empty exactly if it shows nothing. -/
theorem displayText_eq_empty_iff (value : Json) : value.displayText = "" ↔ value.ShowsNothing := by
  match value with
  | .null => exact iff_of_true rfl .null
  | .bool b =>
    refine iff_of_false ?_ nofun
    cases b <;> decide
  | .number n => exact iff_of_false (numberText_ne_empty n) nofun
  | .string s =>
    refine ⟨?_, fun h ↦ by cases h; rfl⟩
    rintro (h : s = "")
    exact h ▸ .string
  | .array [] => exact iff_of_true rfl .none
  | .array [item] =>
    have ih := displayText_eq_empty_iff item
    exact ih.trans ⟨.single, fun h ↦ by cases h; assumption⟩
  | .array (item :: next :: rest) =>
    refine iff_of_false ?_ nofun
    have htexts : (Json.array (item :: next :: rest)).displayText =
        item.displayText ++ "," ++ displayTexts (next :: rest) := rfl
    intro h
    rw [htexts, String.append_eq_empty_iff, String.append_eq_empty_iff] at h
    exact absurd h.1.2 (by decide)
  | .object members => exact iff_of_false (compact_object_ne_empty members) nofun

end FieldTags.Json
