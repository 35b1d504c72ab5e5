import FieldTags.Config.View
import FieldTags.Proofs.OrderedMap
import Mathlib.Data.List.Sort

/-!
# The order of fields

The total order of numbers goes by their values. Of the two zeros the negative one comes first, and
what is not a number comes last. The fields of a form are the fields that are visible in it, sorted by
their weights in this order. Sorting is stable, so that fields of one weight keep the order in which
they are declared.
-/

namespace FieldTags

/-! ## The total order of numbers -/

namespace Binary64

def isNegative : Binary64 → Bool
  | .nan => false
  | .signed negative _ _ => negative

/-- A number is not behind another one in the total order. -/
inductive TotalLE (x y : Binary64) : Prop where
  | less (h : x.less y = true)
  /-- Its value is the same, and if it is zero its sign is not behind that of the other one. -/
  | equal (h : x.equals y = true) (hsign : y.isNegative = true → x.isNegative = true)
  /-- The other one is not a number. -/
  | nan (h : y.isNaN = true)

/-- The position of a magnitude with a sign. -/
def signedPosition (negative : Bool) (rank : Nat) : Int :=
  if negative then -rank else rank

section

variable {m n : Bool} {r s : Nat} {hr : r ≤ infinityRank} {hs : s ≤ infinityRank}

theorem position?_signed : (signed m r hr).position? = some (signedPosition m r) := by
  cases m <;> rfl

theorem totalPosition_signed :
    (signed m r hr).totalPosition = signedPosition m r - if m then 1 else 0 := by
  cases m
  · exact (Int.sub_zero _).symm
  · rfl

theorem less_signed_iff :
    (signed m r hr).less (signed n s hs) = true ↔ signedPosition m r < signedPosition n s := by
  rw [less, compare?, position?_signed, position?_signed, beq_iff_eq, Option.some.injEq,
    compare_lt_iff_lt]

theorem equals_signed_iff :
    (signed m r hr).equals (signed n s hs) = true ↔ signedPosition m r = signedPosition n s := by
  rw [equals, compare?, position?_signed, position?_signed, beq_iff_eq, Option.some.injEq,
    compare_eq_iff_eq]

theorem totalLE_signed_iff :
    (signed m r hr).TotalLE (signed n s hs) ↔
      signedPosition m r < signedPosition n s ∨
        signedPosition m r = signedPosition n s ∧ (n = true → m = true) := by
  constructor
  · intro h
    cases h with
    | less h => exact .inl (less_signed_iff.mp h)
    | equal h hsign => exact .inr ⟨equals_signed_iff.mp h, hsign⟩
    | nan h => cases h
  · intro h
    cases h with
    | inl h => exact .less (less_signed_iff.mpr h)
    | inr h => exact .equal (equals_signed_iff.mpr h.1) h.2

end

/-- The total order is that of the positions. -/
theorem totalLE_iff {x y : Binary64} : x.TotalLE y ↔ x.totalPosition ≤ y.totalPosition := by
  cases y with
  | nan =>
    refine ⟨fun _ ↦ ?_, fun _ ↦ .nan rfl⟩
    cases x with
    | nan => exact Int.le_refl _
    | signed negative rank hrank => cases negative <;> simp only [totalPosition] <;> omega
  | signed n s hs =>
    cases x with
    | nan =>
      have hlt : (signed n s hs).totalPosition < nan.totalPosition := by
        cases n <;> simp only [totalPosition] <;> omega
      refine ⟨fun h ↦ ?_, fun h ↦ absurd h (Int.not_le.mpr hlt)⟩
      cases h with
      | less h => cases h
      | equal h => cases h
      | nan h => cases h
    | signed m r hr =>
      rw [totalLE_signed_iff, totalPosition_signed, totalPosition_signed]
      cases m <;> cases n <;> simp [signedPosition] <;> omega

end Binary64

/-! ## The fields of a form -/

namespace ModelConfig

/-- A list of fields has those that are visible in a form, sorted by their weights and, for equal
weights, in the order of their declaration. -/
structure SortsFields (config : ModelConfig) (mode : FormMode)
    (fields : List (String × FieldConfig)) : Prop where
  /-- A field is listed with its own configuration, exactly if it is visible in the form. -/
  mem_iff : ∀ name field, (name, field) ∈ fields ↔
    config.fields.find? name = some field ∧ field.isVisible mode = true
  nodup : (fields.map Prod.fst).Nodup
  /-- The weights, which are 99 where none is set, never decrease. -/
  sorted : fields.Pairwise fun a b ↦
    ((a.2 .sort).getD (.ofNat 99)).TotalLE ((b.2 .sort).getD (.ofNat 99))
  /-- The fields of each weight are listed as they are declared. -/
  stable : ∀ weight, (fields.filter fun entry ↦ (entry.2 .sort).getD (.ofNat 99) = weight) =
    config.fields.entries.filter fun entry ↦
      entry.2.isVisible mode && (entry.2 .sort).getD (.ofNat 99) = weight

/-- Whether a field is not behind another one by its weight. -/
def weightLE (a b : String × FieldConfig) : Bool :=
  a.2.weight.totalPosition ≤ b.2.weight.totalPosition

theorem weightLE_trans (a b c : String × FieldConfig) (hab : weightLE a b = true)
    (hbc : weightLE b c = true) : weightLE a c = true :=
  decide_eq_true (Int.le_trans (of_decide_eq_true hab) (of_decide_eq_true hbc))

theorem weightLE_total (a b : String × FieldConfig) : (weightLE a b || weightLE b a) = true := by
  rw [Bool.or_eq_true, weightLE, weightLE, decide_eq_true_eq, decide_eq_true_eq]
  exact Int.le_total _ _

def visibleFields (config : ModelConfig) (mode : FormMode) : List (String × FieldConfig) :=
  config.fields.entries.filter fun entry ↦ entry.2.isVisible mode

variable {config : ModelConfig} {mode : FormMode}

theorem fieldsFor_eq : config.fieldsFor mode = (config.visibleFields mode).mergeSort weightLE := rfl

theorem perm_fieldsFor : (config.fieldsFor mode).Perm (config.visibleFields mode) := by
  rw [fieldsFor_eq]
  exact List.mergeSort_perm _ _

/-- Fields of one weight are sorted as they are, so that sorting all fields keeps their order. -/
theorem filter_fieldsFor (config : ModelConfig) (mode : FormMode) (weight : Binary64) :
    ((config.fieldsFor mode).filter fun entry ↦ entry.2.weight = weight) =
      (config.visibleFields mode).filter fun entry ↦ entry.2.weight = weight := by
  have hpairwise : ((config.visibleFields mode).filter fun entry ↦
      entry.2.weight = weight).Pairwise fun a b ↦ weightLE a b = true := by
    apply List.pairwise_of_forall_mem_list
    intro a ha b hb
    have hweight : a.2.weight = b.2.weight :=
      (of_decide_eq_true (List.mem_filter.mp ha).2).trans
        (of_decide_eq_true (List.mem_filter.mp hb).2).symm
    exact decide_eq_true (Int.le_of_eq (congrArg Binary64.totalPosition hweight))
  have hsublist : ((config.visibleFields mode).filter fun entry ↦
      entry.2.weight = weight).Sublist (config.fieldsFor mode) := by
    rw [fieldsFor_eq]
    exact List.sublist_mergeSort weightLE_trans weightLE_total hpairwise List.filter_sublist
  have hfilter := hsublist.filter fun entry ↦ entry.2.weight = weight
  rw [List.filter_filter] at hfilter
  simp only [Bool.and_self] at hfilter
  exact (hfilter.eq_of_length (perm_fieldsFor.filter _).length_eq.symm).symm

/-- The fields of a form are those that are visible in it, stably sorted by their weights. -/
theorem sortsFields_fieldsFor (config : ModelConfig) (mode : FormMode) :
    config.SortsFields mode (config.fieldsFor mode) where
  mem_iff name field := by
    rw [perm_fieldsFor.mem_iff, visibleFields, List.mem_filter, OrderedMap.find?_eq_some_iff]
  nodup := by
    have hnodup : ((config.visibleFields mode).map Prod.fst).Nodup :=
      config.fields.nodup_keys.sublist (List.filter_sublist.map Prod.fst)
    exact (perm_fieldsFor.map Prod.fst).nodup_iff.mpr hnodup
  sorted := by
    have hsorted : (config.fieldsFor mode).Pairwise fun a b ↦ weightLE a b = true := by
      rw [fieldsFor_eq]
      exact List.pairwise_mergeSort weightLE_trans weightLE_total _
    apply hsorted.imp
    intro a b hle
    exact Binary64.totalLE_iff.mpr (of_decide_eq_true hle)
  stable weight := by
    have hfilter := filter_fieldsFor config mode weight
    rw [visibleFields, List.filter_filter] at hfilter
    refine hfilter.trans (List.filter_congr ?_)
    intro entry _
    exact Bool.and_comm _ _

end ModelConfig

end FieldTags
