import FieldTags.Proofs.OrderedMap
import FieldTags.Proofs.Tag.Splitting
import Mathlib.Data.List.SplitBy

/-!
# Joining items and tags

Splitting a tag loses nothing: its items, escaped and joined, are the tag again. Of a run of
semicolons every two stand for one in an item, so a run ends an item exactly if its length is odd.
Two tags that are joined by a semicolon are split as each by itself, unless the semicolon gets into a
run with others. The values are then those of the first tag with those of the second one inserted.
-/

namespace FieldTags

namespace Tag

/-! ## Escaping what was split -/

/-- The item that has begun is in front of the rest of the text. -/
theorem joinWith_escape_splitItemsAfter (before cs : List Char) :
    Text.joinWith [';'] ((splitItemsAfter before cs).map escape) = escape before.reverse ++ cs := by
  fun_induction splitItemsAfter before cs with
  | case1 before => exact (List.append_nil _).symm
  | case2 before rest ih =>
    rw [ih, List.reverse_cons, escape_append, List.append_assoc]
    rfl
  | case3 before rest hsingle ih =>
    obtain ⟨item, items, hitems⟩ := List.exists_cons_of_ne_nil (splitItemsAfter_ne_nil [] rest)
    rw [hitems, List.map_cons] at ih
    rw [List.map_cons, hitems, List.map_cons, Text.joinWith_cons_cons, ih]
    rfl
  | case4 before c rest hdouble hc ih =>
    have hsingle : escape [c] = [c] := escape_cons_of_ne hc []
    rw [ih, List.reverse_cons, escape_append, List.append_assoc, hsingle, List.singleton_append]

/-- Items that are escaped and joined are the tag that they were split from. -/
theorem joinWith_escape_splitItems (tag : List Char) :
    Text.joinWith [';'] ((splitItems tag).map escape) = tag :=
  joinWith_escape_splitItemsAfter [] tag

/-! ## Runs -/

/-- A run of semicolons of odd length: one is left to end an item when the others are paired. -/
def isSeparating (run : List Char) : Bool :=
  run.head? == some ';' && run.length % 2 == 1

theorem isSeparating_replicate_iff {c : Char} {count : Nat} :
    isSeparating (List.replicate count c) = true ↔ c = ';' ∧ count % 2 = 1 := by
  rw [isSeparating, Bool.and_eq_true, beq_iff_eq, beq_iff_eq, List.length_replicate,
    and_congr_left_iff]
  intro hodd
  obtain ⟨more, rfl⟩ := Nat.exists_eq_add_one_of_ne_zero (n := count) (by omega)
  rw [List.replicate_succ, List.head?_cons, Option.some.injEq]

theorem escape_replicate (pairs : Nat) :
    escape (List.replicate pairs ';') = List.replicate (2 * pairs) ';' := by
  induction pairs with
  | zero => rfl
  | succ pairs ih =>
    rw [List.replicate_succ, Nat.mul_add, Nat.mul_one, List.replicate_succ, List.replicate_succ,
      ← ih]
    rfl

theorem head?_ne_of_not_doubled {rest : List Char} (h : ∀ more, rest = ';' :: more → False) :
    rest.head? ≠ some ';' := by
  intro hsome
  obtain ⟨more, rfl⟩ := List.head?_eq_some_iff.mp hsome
  exact h more rfl

/-- What an item begins with makes no difference to the number of items. -/
theorem length_splitItemsAfter (before other cs : List Char) :
    (splitItemsAfter before cs).length = (splitItemsAfter other cs).length := by
  fun_induction splitItemsAfter before cs generalizing other with
  | case1 before => rfl
  | case2 before rest ih => exact ih _
  | case3 before rest hsingle ih =>
    rw [splitItemsAfter_semicolon (head?_ne_of_not_doubled hsingle), List.length_cons,
      List.length_cons]
  | case4 before c rest hdouble hc ih => rw [splitItemsAfter_of_ne hc, ih]

/-- A run adds an item to those of the text behind it exactly if it is separating. -/
theorem length_splitItems_run {c : Char} {count : Nat} {rest : List Char}
    (hnext : rest.head? ≠ some c) :
    (splitItems (List.replicate count c ++ rest)).length =
      (splitItems rest).length + if isSeparating (List.replicate count c) then 1 else 0 := by
  by_cases hc : c = ';'
  · subst hc
    obtain ⟨pairs, rfl | rfl⟩ : ∃ pairs, count = 2 * pairs ∨ count = 2 * pairs + 1 :=
      ⟨count / 2, by omega⟩
    · have heven : ¬ isSeparating (List.replicate (2 * pairs) ';') = true :=
        fun h ↦ absurd (isSeparating_replicate_iff.mp h).2 (by omega)
      rw [if_neg heven, ← escape_replicate, splitItems, splitItemsAfter_escape,
        length_splitItemsAfter _ []]
      rfl
    · have hodd : isSeparating (List.replicate (2 * pairs + 1) ';') = true :=
        isSeparating_replicate_iff.mpr ⟨rfl, by omega⟩
      rw [if_pos hodd, List.replicate_succ', ← escape_replicate, List.append_assoc, splitItems,
        splitItemsAfter_escape, List.singleton_append, splitItemsAfter_semicolon hnext]
      rfl
  · have hplain : ';' ∉ List.replicate count c := fun hmem ↦ hc (List.eq_of_mem_replicate hmem).symm
    have hnot : ¬ isSeparating (List.replicate count c) = true :=
      fun h ↦ hc (isSeparating_replicate_iff.mp h).1
    rw [if_neg hnot, ← escape_of_not_mem hplain, splitItems, splitItemsAfter_escape,
      length_splitItemsAfter _ []]
    rfl

/-- The texts are runs of equal characters, each as long as it can be. -/
structure AreRuns (runs : List (List Char)) : Prop where
  ne_nil : [] ∉ runs
  equal : ∀ run ∈ runs, run.IsChain fun c d ↦ (c == d) = true
  maximal : runs.IsChain fun run next ↦ ∃ hrun hnext, (run.getLast hrun == next.head hnext) = false

theorem areRuns_splitBy (tag : List Char) : AreRuns (tag.splitBy (· == ·)) where
  ne_nil := List.nil_notMem_splitBy _ tag
  equal _ := List.isChain_of_mem_splitBy
  maximal := List.isChain_getLast_head_splitBy _ tag

section Runs

variable {run : List Char} {runs : List (List Char)}

theorem AreRuns.tail (h : AreRuns (run :: runs)) : AreRuns runs where
  ne_nil := fun hmem ↦ h.ne_nil (List.mem_cons_of_mem run hmem)
  equal other hother := h.equal other (List.mem_cons_of_mem run hother)
  maximal := h.maximal.tail

/-- The first run repeats one character, with which what follows it does not begin. -/
theorem AreRuns.exists_replicate (h : AreRuns (run :: runs)) :
    ∃ c count, run = List.replicate (count + 1) c ∧ runs.flatten.head? ≠ some c := by
  have hne : run ≠ [] := fun hnil ↦ h.ne_nil (hnil ▸ List.mem_cons_self)
  obtain ⟨c, more, rfl⟩ := List.exists_cons_of_ne_nil hne
  have hchain := (h.equal _ List.mem_cons_self).imp fun _ _ heq ↦ eq_of_beq heq
  have hmore := List.isChain_cons_eq_iff_eq_replicate.mp hchain
  have hmaximal := h.maximal
  rw [hmore, ← List.replicate_succ] at hmaximal
  refine ⟨c, more.length, by rw [List.replicate_succ, ← hmore], ?_⟩
  cases runs with
  | nil => exact nofun
  | cons next others =>
    obtain ⟨hlast, hfirst, hdiffers⟩ := (List.isChain_cons_cons.mp hmaximal).1
    obtain ⟨d, rest, rfl⟩ := List.exists_cons_of_ne_nil hfirst
    rw [List.getLast_replicate, List.head_cons, beq_eq_false_iff_ne] at hdiffers
    rw [List.flatten_cons, List.cons_append, List.head?_cons]
    exact fun hsome ↦ hdiffers (Option.some.inj hsome).symm

/-- There is one item more than there are separating runs. -/
theorem AreRuns.length_splitItems (h : AreRuns runs) :
    (splitItems runs.flatten).length = runs.countP isSeparating + 1 := by
  induction runs with
  | nil => rfl
  | cons run runs ih =>
    obtain ⟨c, count, rfl, hnext⟩ := h.exists_replicate
    rw [List.flatten_cons, length_splitItems_run hnext, ih h.tail, List.countP_cons]
    omega

end Runs

/-- The items of a tag, escaped and joined, are the tag, so no other tag has these items. There is
one item more than there are runs of semicolons of odd length. -/
theorem splitItems_loses_nothing :
    (∀ tag, Text.joinWith [';'] ((splitItems tag).map escape) = tag) ∧
      Function.Injective splitItems ∧
      ∀ tag, splitItems tag ≠ [] ∧
        (splitItems tag).length = ((tag.splitBy (· == ·)).filter isSeparating).length + 1 := by
  have hinverse : Function.LeftInverse
      (fun items ↦ Text.joinWith [';'] (items.map escape)) splitItems := joinWith_escape_splitItems
  refine ⟨joinWith_escape_splitItems, hinverse.injective, fun tag ↦ ⟨?_, ?_⟩⟩
  · exact splitItemsAfter_ne_nil [] tag
  · have hlength := (areRuns_splitBy tag).length_splitItems
    rwa [List.flatten_splitBy, List.countP_eq_length_filter] at hlength

example : splitItems "a;;;b;;;;c;d".toList = ["a;".toList, "b;;c".toList, "d".toList] := by decide

/-! ## Joined tags -/

theorem getLast?_ne_of_cons {c last : Char} {cs : List Char} (h : (c :: cs).getLast? ≠ some last) :
    cs.getLast? ≠ some last := by
  intro hlast
  rw [List.getLast?_cons, hlast] at h
  exact h rfl

/-- Where one text ends and the other begins with no semicolon, the one between them ends an item. -/
theorem splitItemsAfter_append (before : List Char) {s t : List Char} (hs : s.getLast? ≠ some ';')
    (ht : t.head? ≠ some ';') :
    splitItemsAfter before (s ++ ';' :: t) = splitItemsAfter before s ++ splitItems t := by
  -- The first text ends in no semicolon, so each of its semicolons is followed by the same character
  -- in the joined text, and is doubled there exactly if it is here.
  fun_induction splitItemsAfter before s with
  | case1 before => exact splitItemsAfter_semicolon ht before
  | case2 before rest ih =>
    have hrest := getLast?_ne_of_cons (getLast?_ne_of_cons hs)
    rw [List.cons_append, List.cons_append, splitItemsAfter, ih hrest]
  | case3 before rest hsingle ih =>
    cases rest with
    | nil => exact absurd rfl hs
    | cons c rest =>
      have hhead : (c :: rest).head? ≠ some ';' := head?_ne_of_not_doubled hsingle
      have hnext : (c :: rest ++ ';' :: t).head? ≠ some ';' := hhead
      rw [List.cons_append, splitItemsAfter_semicolon hnext, ih (getLast?_ne_of_cons hs),
        List.cons_append]
  | case4 before c rest hdouble hc ih =>
    rw [List.cons_append, splitItemsAfter_of_ne hc, ih (getLast?_ne_of_cons hs)]

theorem splitItems_append {s t : List Char} (hs : s.getLast? ≠ some ';')
    (ht : t.head? ≠ some ';') : splitItems (s ++ ';' :: t) = splitItems s ++ splitItems t :=
  splitItemsAfter_append [] hs ht

/-- A tag that is joined from two tags has the entries of the first one with those of the second one
inserted. -/
theorem read_append {s t : String} (hs : s.toList.getLast? ≠ some ';')
    (ht : t.toList.head? ≠ some ';') :
    read (s ++ ";" ++ t) = (read s).insertAll (read t).entries := by
  have hjoined : (s ++ ";" ++ t).toList = s.toList ++ ';' :: t.toList := by
    have hsemicolon : ";".toList = [';'] := rfl
    rw [String.toList_append, String.toList_append, hsemicolon, List.append_assoc,
      List.singleton_append]
  have hentries : entries (s ++ ";" ++ t) = entries s ++ entries t := by
    rw [entries, hjoined, splitItems_append hs ht, List.filterMap_append]
    rfl
  calc read (s ++ ";" ++ t)
      = .ofList (entries s ++ entries t) := by rw [read, hentries]
    _ = (read s).insertAll (read t).entries := OrderedMap.ofList_append _ _

/-- The second tag changes the order that the first one gives, in its place, and adds a flag. -/
theorem read_append_reordered :
    (read "sort:1;label:a;;b; ;SORT:5;:x;hidden").entries =
      [("sort", .number (.ofNat 5)), ("label", .text "a;b"), ("hidden", .bool true)] := by
  have hjoined : read "sort:1;label:a;;b; ;SORT:5;:x;hidden" =
      (read "sort:1;label:a;;b").insertAll (read " ;SORT:5;:x;hidden").entries :=
    read_append (s := "sort:1;label:a;;b") (t := " ;SORT:5;:x;hidden") (by decide) (by decide)
  rw [hjoined]
  decide +kernel

end Tag

end FieldTags
