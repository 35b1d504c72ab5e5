import FieldTags.Proofs.Expression.Operands
import FieldTags.Proofs.Number.Order
import FieldTags.Proofs.Number.WholeNumberText

/-!
# Items and lengths

Arrays and texts have items, which are read by their index, and a length. The length of an array is
the number of its items, so that exactly the indices from the length on lead to nothing and the index
before the length leads to the last item. The items of a text are its characters, but its length
counts the code units of UTF-16, of which a character beyond `U+FFFF` has two. A text with such a
character is longer than it has items: indices below its length lead to nothing, and so does the one
before it.
-/

namespace FieldTags

namespace ScriptValue

/-- An array or a text. -/
inductive IsSequence : ScriptValue → Prop where
  | array (place : Place) (items : List Json) : IsSequence (.reference place (.array items))
  | text (s : String) : IsSequence (.text s)

/-- The items of an array, or the characters of a text as texts. -/
def parts : ScriptValue → List ScriptValue
  | .reference place (.array items) =>
    items.mapIdx fun i item ↦ ofJson ⟨place.root, .item i :: place.steps⟩ item
  | .text s => s.toList.map fun c ↦ .text c.toString
  | _ => []

/-- What the length counts: the items of an array, or the code units of a text. -/
def unitLength : ScriptValue → Nat
  | .reference _ (.array items) => items.length
  | .text s => unitCount s.toList
  | _ => 0

/-- A text with a character that has two code units. -/
def IsWide (value : ScriptValue) : Prop :=
  ∃ s, value = .text s ∧ ∃ c ∈ s.toList, 0x10000 ≤ c.toNat

/-! ## Counting -/

/-- A character beyond `U+FFFF` counts twice. -/
theorem unitCount_eq (cs : List Char) :
    unitCount cs = cs.length + cs.countP fun c ↦ 0x10000 ≤ c.toNat := by
  -- The characters before are kept as a number that the rest of them is added to.
  have hfrom (count : Nat) : cs.foldl
      (fun count c ↦ count + if c.toNat < 0x10000 then 1 else 2) count =
        count + (cs.length + cs.countP fun c ↦ 0x10000 ≤ c.toNat) := by
    induction cs generalizing count with
    | nil => rfl
    | cons c cs ih =>
      rw [List.foldl_cons, ih, List.length_cons, List.countP_cons]
      simp only [decide_eq_true_eq]
      split_ifs <;> omega
  rw [unitCount, hfrom, Nat.zero_add]

theorem length_parts_le {value : ScriptValue} (h : value.IsSequence) :
    value.parts.length ≤ value.unitLength := by
  cases h with
  | array place items => rw [parts, List.length_mapIdx, unitLength]
  | text s =>
    rw [parts, List.length_map, unitLength, unitCount_eq]
    exact Nat.le_add_right _ _

/-- The length is greater than the number of items exactly for a wide text. -/
theorem length_parts_lt_iff {value : ScriptValue} (h : value.IsSequence) :
    value.parts.length < value.unitLength ↔ value.IsWide := by
  cases h with
  | array place items =>
    rw [parts, List.length_mapIdx, unitLength]
    exact iff_of_false (Nat.lt_irrefl _) fun ⟨s, hs, _⟩ ↦ nomatch hs
  | text s =>
    rw [parts, List.length_map, unitLength, unitCount_eq, Nat.lt_add_right_iff_pos,
      List.countP_pos_iff]
    simp only [decide_eq_true_eq, IsWide, text.injEq, exists_eq_left']

/-! ## Reading items -/

theorem isNullish_of_isSequence {value : ScriptValue} (h : value.IsSequence) :
    value.isNullish = false := by
  cases h <;> rfl

/-- The digits of a number below `2 ^ 53` are an index. -/
theorem toList_toText_ofNat {i : Nat} (hi : i < 2 ^ 53) :
    (number (.ofNat i)).toText.toList = Nat.toDigits 10 i := by
  have hbits : (i : Int).natAbs < 2 ^ 53 := by omega
  have hfinite : (Binary64.ofInt i).isFinite = true := Binary64.isFinite_ofInt (by decide) hbits
  have hvalue := Binary64.grainValue_ofInt_of_le (Nat.le_of_lt hbits)
  rw [toText, Binary64.ofNat, Binary64.toList_scriptText_whole hfinite hbits hvalue, integerChars,
    if_neg (by omega), Int.natAbs_natCast, List.nil_append]

theorem index?_toText_ofNat {i : Nat} (hi : i < 2 ^ 53) :
    index? (number (.ofNat i)).toText = some i := by
  have hchars := toList_toText_ofNat hi
  have hne : (number (.ofNat i)).toText ≠ "" := by
    intro hempty
    rw [hempty] at hchars
    exact Nat.toDigits_ne_nil hchars.symm
  have hdigits : (Nat.toDigits 10 i).all Char.isDigit = true :=
    List.all_eq_true.mpr fun c hc ↦ Nat.isDigit_of_mem_toDigits (by decide) (by decide) hc
  rw [index?, hchars, hdigits, decide_eq_true hne, Bool.and_true, if_pos rfl,
    Decimal.digitsValue_toDigits]

theorem toText_ofNat_ne_length {i : Nat} (hi : i < 2 ^ 53) :
    (number (.ofNat i)).toText ≠ "length" := by
  intro h
  have hindex := index?_toText_ofNat hi
  have hword : index? "length" = none := by decide
  rw [h, hword] at hindex
  cases hindex

theorem property?_ofNat {value : ScriptValue} (h : value.IsSequence) {i : Nat} (hi : i < 2 ^ 53) :
    value.property? (number (.ofNat i)).toText = some (value.parts[i]?.getD .undefined) := by
  have hindex := index?_toText_ofNat hi
  cases h with
  | array place items =>
    rw [property?, if_neg (toText_ofNat_ne_length hi), hindex, parts, List.getElem?_mapIdx]
    dsimp only
    cases items[i]? <;> rfl
  | text s =>
    rw [property?, if_neg (toText_ofNat_ne_length hi), hindex, parts, List.getElem?_map,
      Option.bind_some]
    cases s.toList[i]? <;> rfl

theorem property?_length {value : ScriptValue} (h : value.IsSequence) :
    value.property? "length" = some (.number (.ofNat value.unitLength)) := by
  cases h <;> rfl

/-- Every item is defined. -/
theorem ne_undefined_of_mem_parts {value part : ScriptValue} (h : part ∈ value.parts) :
    part ≠ .undefined := by
  have hofJson (place : Place) (item : Json) : ofJson place item ≠ .undefined := by
    cases item <;> exact nofun
  unfold parts at h
  split at h
  · obtain ⟨i, hi, rfl⟩ := List.mem_mapIdx.mp h
    exact hofJson _ _
  · obtain ⟨c, -, rfl⟩ := List.mem_map.mp h
    exact nofun
  · cases h

theorem getElem?_parts_getD_eq_undefined_iff {value : ScriptValue} {i : Nat} :
    value.parts[i]?.getD .undefined = .undefined ↔ value.parts.length ≤ i := by
  constructor
  · intro h
    by_contra hlt
    rw [List.getElem?_eq_getElem (Nat.lt_of_not_le hlt), Option.getD_some] at h
    exact ne_undefined_of_mem_parts (List.getElem_mem _) h
  · intro h
    rw [List.getElem?_eq_none h, Option.getD_none]

end ScriptValue

namespace Expression

def length (e : Expression) : Expression :=
  .member e "length" false

/-- The item before the length of the value of an expression. -/
def lastItem (e : Expression) : Expression :=
  .index e (.binary .subtract e.length (.literal (.number (.ofNat 1)))) false

/-- An item of the value is undefined exactly if its index is not smaller than the length. -/
def IndexesByLength (scope : Scope) (e : Expression) : Prop :=
  ∀ (key : Expression) (i : Nat), i < 2 ^ 53 → key.value scope = .ok (.number (.ofNat i)) →
    ((index e key false).value scope = .ok .undefined ↔
      (binary .greaterOrEqual key e.length).value scope = .ok (.bool true))

variable {scope : Scope} {e key : Expression} {sequence : ScriptValue} {i : Nat}

/-- An index leads to the item that stands there, if there is one. -/
theorem value_item (h : e.value scope = .ok sequence) (hsequence : sequence.IsSequence)
    (hi : i < 2 ^ 53) (hkey : key.value scope = .ok (.number (.ofNat i))) :
    (index e key false).value scope = .ok (sequence.parts[i]?.getD .undefined) := by
  rw [value_index h (ScriptValue.isNullish_of_isSequence hsequence) hkey,
    ScriptValue.property?_ofNat hsequence hi, Option.getD_some]

theorem value_length (h : e.value scope = .ok sequence) (hsequence : sequence.IsSequence) :
    e.length.value scope = .ok (.number (.ofNat sequence.unitLength)) := by
  rw [length, value_member _ h (ScriptValue.isNullish_of_isSequence hsequence),
    ScriptValue.property?_length hsequence, Option.getD_some]

theorem value_item_eq_undefined_iff (h : e.value scope = .ok sequence)
    (hsequence : sequence.IsSequence) (hi : i < 2 ^ 53)
    (hkey : key.value scope = .ok (.number (.ofNat i))) :
    (index e key false).value scope = .ok .undefined ↔ sequence.parts.length ≤ i := by
  rw [value_item h hsequence hi hkey, Except.ok.injEq,
    ScriptValue.getElem?_parts_getD_eq_undefined_iff]

theorem value_fromLength_iff (h : e.value scope = .ok sequence)
    (hsequence : sequence.IsSequence) (hi : i < 2 ^ 53)
    (hkey : key.value scope = .ok (.number (.ofNat i))) :
    (binary .greaterOrEqual key e.length).value scope = .ok (.bool true) ↔
      sequence.unitLength ≤ i := by
  have horder : (ScriptValue.number (.ofNat i)).order? (.number (.ofNat sequence.unitLength)) =
      some (compare i sequence.unitLength) := Binary64.compare?_ofNat hi _
  rw [value_binary .greaterOrEqual hkey (value_length h hsequence), BinaryOperator.apply, horder,
    Option.any_some, Except.ok.injEq, ScriptValue.bool.injEq, Nat.isGE_compare]

/-- The item before the length, where the length is not too great for a number. -/
theorem value_lastItem (h : e.value scope = .ok sequence) (hsequence : sequence.IsSequence)
    (hpos : 0 < sequence.unitLength) (hle : sequence.unitLength ≤ 2 ^ 53) :
    e.lastItem.value scope =
      .ok (sequence.parts[sequence.unitLength - 1]?.getD .undefined) := by
  have hone : (literal (.number (.ofNat 1))).value scope = .ok (.number (.ofNat 1)) := rfl
  have hkey : (binary .subtract e.length (literal (.number (.ofNat 1)))).value scope =
      .ok (.number (.ofNat (sequence.unitLength - 1))) := by
    rw [value_binary .subtract (value_length h hsequence) hone, ← Binary64.sub_ofNat hle hpos]
    rfl
  exact value_item h hsequence (by omega) hkey

/-- Where the length counts the items, the indices from the length on are those that lead nowhere.
Indices that are all below the number of items are below the length too. -/
theorem indexesByLength_iff (h : e.value scope = .ok sequence) (hsequence : sequence.IsSequence) :
    IndexesByLength scope e ↔ ¬ sequence.IsWide ∨ 2 ^ 53 ≤ sequence.parts.length := by
  have hle := ScriptValue.length_parts_le hsequence
  rw [← ScriptValue.length_parts_lt_iff hsequence]
  constructor
  · intro hagrees
    by_contra hnot
    obtain ⟨hlt, hshort⟩ : sequence.parts.length < sequence.unitLength ∧
      sequence.parts.length < 2 ^ 53 := by omega
    have hkey : (literal (.number (.ofNat sequence.parts.length))).value scope =
        .ok (.number (.ofNat sequence.parts.length)) := rfl
    have hundefined := (value_item_eq_undefined_iff h hsequence hshort hkey).mpr (Nat.le_refl _)
    have hlength := (value_fromLength_iff h hsequence hshort hkey).mp
      ((hagrees _ _ hshort hkey).mp hundefined)
    omega
  · intro hwide key i hi hkey
    rw [value_item_eq_undefined_iff h hsequence hi hkey,
      value_fromLength_iff h hsequence hi hkey]
    omega

/-- Arrays and texts are indexed by their length, and have their last item before it, unless they are
texts with a character of two code units. The item before the length of such a text is undefined. -/
theorem indexes_by_length_unless_wide (h : e.value scope = .ok sequence)
    (hsequence : sequence.IsSequence) :
    (IndexesByLength scope e ↔ ¬ sequence.IsWide ∨ 2 ^ 53 ≤ sequence.parts.length) ∧
      ∀ last, sequence.parts.getLast? = some last → sequence.unitLength ≤ 2 ^ 53 →
        (¬ sequence.IsWide → e.lastItem.value scope = .ok last) ∧
          (sequence.IsWide → e.lastItem.value scope = .ok .undefined) := by
  refine ⟨indexesByLength_iff h hsequence, fun last hlast hshort ↦ ?_⟩
  have hle := ScriptValue.length_parts_le hsequence
  have hpos : 0 < sequence.parts.length := by
    rw [List.length_pos_iff]
    rintro hnil
    rw [hnil] at hlast
    cases hlast
  have hitem := value_lastItem h hsequence (by omega) hshort
  rw [← ScriptValue.length_parts_lt_iff hsequence]
  constructor
  · intro hnot
    have hlength : sequence.unitLength = sequence.parts.length := by omega
    rw [hitem, hlength, ← List.getLast?_eq_getElem?, hlast, Option.getD_some]
  · intro hlt
    rw [hitem, List.getElem?_eq_none (by omega), Option.getD_none]

/-- A row with two tags and a note that ends in a character of two code units. -/
def taggedRow : Scope :=
  .ofList [("row", .object [("note", .string "a😀"), ("tags", .array [.string "new", .string "😀"])])]

/-- The tags are indexed by their length, and the last one stands before it. -/
theorem indexes_by_length_tags :
    IndexesByLength taggedRow (.member (.identifier "row") "tags" false) ∧
      (lastItem (.member (.identifier "row") "tags" false)).value taggedRow = .ok (.text "😀") := by
  have hvalue : (member (.identifier "row") "tags" false).value taggedRow =
      .ok (.reference ⟨"row", [.key "tags"]⟩ (.array [.string "new", .string "😀"])) := rfl
  have hwide : ¬ (ScriptValue.reference ⟨"row", [.key "tags"]⟩
      (.array [.string "new", .string "😀"])).IsWide := fun ⟨_, hs, _⟩ ↦ nomatch hs
  have htags := indexes_by_length_unless_wide hvalue (.array _ _)
  exact ⟨htags.1.mpr (.inl hwide), (htags.2 _ rfl (by decide)).1 hwide⟩

/-- The item before the length of the note is not its last character. -/
theorem not_forall_indexes_by_length :
    ¬ ∀ (scope : Scope) (e : Expression) (sequence : ScriptValue), e.value scope = .ok sequence →
      sequence.IsSequence → IndexesByLength scope e ∧
        ∀ last, sequence.parts.getLast? = some last → e.lastItem.value scope = .ok last := by
  intro h
  have hvalue : (member (.identifier "row") "note" false).value taggedRow = .ok (.text "a😀") := rfl
  have hlength : (ScriptValue.text "a😀").unitLength = 3 := by decide
  have hparts : (ScriptValue.text "a😀").parts = [.text "a", .text "😀"] := rfl
  have hitem := value_lastItem hvalue (.text _) (by rw [hlength]; decide) (by rw [hlength]; decide)
  have hlast := (h _ _ _ hvalue (.text _)).2 (.text "😀") rfl
  rw [hitem, hlength, hparts] at hlast
  cases hlast

end Expression

end FieldTags
