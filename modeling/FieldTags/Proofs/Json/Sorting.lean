import FieldTags.Json.Basic
import Mathlib.Tactic.Common

/-!
# Values in canonical form

In canonical form the members of every object stand in the order of their keys, each key once. A
value of this form stays as it is if it is brought into canonical form again.
-/

namespace FieldTags.Json

/-- The members of all objects of a value are sorted by their keys, and no key is repeated. -/
inductive IsSorted : Json → Prop where
  | null : IsSorted .null
  | bool (value : Bool) : IsSorted (.bool value)
  | number (value : JsonNumber) : IsSorted (.number value)
  | string (value : String) : IsSorted (.string value)
  | array {items : List Json} (hitems : ∀ item ∈ items, IsSorted item) : IsSorted (.array items)
  | object {members : List (String × Json)} (hkeys : members.Pairwise fun a b ↦ a.1 < b.1)
    (hmembers : ∀ member ∈ members, IsSorted member.2) : IsSorted (.object members)

variable {key : String} {value : Json} {sorted members : List (String × Json)}

/-! ## Inserting a member -/

theorem mem_insertMember {member : String × Json} (h : member ∈ insertMember key value members) :
    member = (key, value) ∨ member ∈ members := by
  induction members with
  | nil => exact .inl (List.mem_singleton.mp h)
  | cons first rest ih =>
    rw [insertMember] at h
    split_ifs at h with hkey hless
    · rcases List.mem_cons.mp h with hmember | hrest
      · exact .inl hmember
      · exact .inr (List.mem_cons_of_mem first hrest)
    · exact List.mem_cons.mp h
    · rcases List.mem_cons.mp h with hfirst | hrest
      · exact .inr (hfirst ▸ List.mem_cons_self)
      · exact (ih hrest).imp_right (List.mem_cons_of_mem first)

theorem pairwise_insertMember (h : members.Pairwise fun a b ↦ a.1 < b.1) :
    (insertMember key value members).Pairwise fun a b ↦ a.1 < b.1 := by
  induction members with
  | nil => exact List.pairwise_singleton _ _
  | cons first rest ih =>
    obtain ⟨hfirst, hrest⟩ := List.pairwise_cons.mp h
    rw [insertMember]
    split_ifs with hkey hless
    · exact List.pairwise_cons.mpr ⟨fun member hmember ↦ hkey ▸ hfirst member hmember, hrest⟩
    · refine List.pairwise_cons.mpr ⟨fun member hmember ↦ ?_, h⟩
      rcases List.mem_cons.mp hmember with rfl | hmember
      · exact hless
      · exact String.lt_trans hless (hfirst member hmember)
    · refine List.pairwise_cons.mpr ⟨fun member hmember ↦ ?_, ih hrest⟩
      rcases mem_insertMember hmember with rfl | hmember
      · exact Std.lt_of_le_of_ne (String.not_lt.mp hless) (Ne.symm hkey)
      · exact hfirst member hmember

/-- A member whose key comes behind all others is put at the end. -/
theorem insertMember_of_forall_lt (h : ∀ member ∈ members, member.1 < key) :
    insertMember key value members = members ++ [(key, value)] := by
  induction members with
  | nil => rfl
  | cons first rest ih =>
    have hfirst := h first List.mem_cons_self
    have hne : key ≠ first.1 := fun heq ↦ String.lt_irrefl key (heq ▸ hfirst)
    have hnot : ¬ key < first.1 := fun hless ↦ String.lt_irrefl key (String.lt_trans hless hfirst)
    rw [insertMember, if_neg hne, if_neg hnot,
      ih fun member hmember ↦ h member (List.mem_cons_of_mem first hmember), List.cons_append]

/-! ## Canonical values -/

mutual

theorem isSorted_canonical : (value : Json) → IsSorted value.canonical
  | .null => .null
  | .bool value => .bool value
  | .number value => .number value
  | .string value => .string value
  | .array items => .array (isSorted_canonicalItems items)
  | .object members =>
    .object (isSorted_canonicalMembers members .nil fun _ hmember ↦ by cases hmember).1
      (isSorted_canonicalMembers members .nil fun _ hmember ↦ by cases hmember).2

theorem isSorted_canonicalItems :
    (items : List Json) → ∀ item ∈ canonicalItems items, IsSorted item
  | [], _, hitem => by cases hitem
  | first :: rest, item, hitem => by
    rw [canonicalItems] at hitem
    rcases List.mem_cons.mp hitem with rfl | hrest
    · exact isSorted_canonical first
    · exact isSorted_canonicalItems rest item hrest

/-- Inserting members into sorted ones leaves them sorted. -/
theorem isSorted_canonicalMembers : (members : List (String × Json)) →
    {sorted : List (String × Json)} → (sorted.Pairwise fun a b ↦ a.1 < b.1) →
      (∀ member ∈ sorted, IsSorted member.2) →
        ((canonicalMembers sorted members).Pairwise fun a b ↦ a.1 < b.1) ∧
          ∀ member ∈ canonicalMembers sorted members, IsSorted member.2
  | [], _, hkeys, hsorted => ⟨hkeys, hsorted⟩
  | (key, value) :: rest, sorted, hkeys, hsorted => by
    rw [canonicalMembers]
    refine isSorted_canonicalMembers rest (pairwise_insertMember hkeys) fun member hmember ↦ ?_
    rcases mem_insertMember hmember with rfl | hmember
    · exact isSorted_canonical value
    · exact hsorted member hmember

end

mutual

/-- A sorted value is in canonical form. -/
theorem canonical_of_isSorted : (value : Json) → IsSorted value → value.canonical = value
  | .null, _ | .bool _, _ | .number _, _ | .string _, _ => rfl
  | .array items, h => by
    cases h with
    | array hitems => rw [canonical, canonicalItems_of_isSorted items hitems]
  | .object members, h => by
    cases h with
    | object hkeys hmembers =>
      rw [canonical, canonicalMembers_of_isSorted members [] hkeys hmembers, List.nil_append]

theorem canonicalItems_of_isSorted : (items : List Json) → (∀ item ∈ items, IsSorted item) →
    canonicalItems items = items
  | [], _ => rfl
  | first :: rest, h => by
    rw [canonicalItems, canonical_of_isSorted first (h first List.mem_cons_self),
      canonicalItems_of_isSorted rest fun item hitem ↦ h item (List.mem_cons_of_mem first hitem)]

/-- Sorted members whose keys come behind those that stand there are put behind them. -/
theorem canonicalMembers_of_isSorted : (members sorted : List (String × Json)) →
    ((sorted ++ members).Pairwise fun a b ↦ a.1 < b.1) →
      (∀ member ∈ members, IsSorted member.2) →
        canonicalMembers sorted members = sorted ++ members
  | [], sorted, _, _ => (List.append_nil sorted).symm
  | (key, value) :: rest, sorted, hkeys, hmembers => by
    have hbehind : ∀ member ∈ sorted, member.1 < key := fun member hmember ↦
      (List.pairwise_append.mp hkeys).2.2 member hmember (key, value) List.mem_cons_self
    have hstep : sorted ++ (key, value) :: rest = (sorted ++ [(key, value)]) ++ rest := by
      rw [List.append_assoc, List.singleton_append]
    rw [canonicalMembers, canonical_of_isSorted value (hmembers _ List.mem_cons_self),
      insertMember_of_forall_lt hbehind, hstep]
    exact canonicalMembers_of_isSorted rest _ (hstep ▸ hkeys)
      fun member hmember ↦ hmembers member (List.mem_cons_of_mem _ hmember)

end

theorem canonical_canonical (value : Json) : value.canonical.canonical = value.canonical :=
  canonical_of_isSorted value.canonical (isSorted_canonical value)

end FieldTags.Json
