import FieldTags.Proofs.Text.Splitting
import FieldTags.Tag.Item

/-!
# Splitting tags into items

Every run of semicolons inside an escaped item is even, so the separator behind an item is the odd
semicolon at the end of a run. This is found from the left only if the next item does not begin with
a semicolon. Items that are escaped and joined are then split again, whatever they end in.
-/

namespace FieldTags

namespace Tag

/-! ## Escaped items -/

theorem escape_append (s t : List Char) : escape (s ++ t) = escape s ++ escape t :=
  List.flatMap_append

theorem escape_cons_of_ne {c : Char} (hc : c ≠ ';') (s : List Char) :
    escape (c :: s) = c :: escape s := by
  rw [escape, List.flatMap_cons, if_neg hc]
  rfl

/-- What has no semicolon is not changed. -/
theorem escape_of_not_mem {s : List Char} (h : ';' ∉ s) : escape s = s := by
  induction s with
  | nil => rfl
  | cons c rest ih =>
    have hc : c ≠ ';' := fun heq ↦ h (heq ▸ List.mem_cons_self)
    have hrest : ';' ∉ rest := fun hmem ↦ h (List.mem_cons_of_mem c hmem)
    rw [escape_cons_of_ne hc, ih hrest]

/-! ## Splitting -/

theorem splitItemsAfter_ne_nil (before cs : List Char) : splitItemsAfter before cs ≠ [] := by
  fun_induction splitItemsAfter before cs with
  | case1 before => exact List.cons_ne_nil _ _
  | case2 before rest ih => exact ih
  | case3 before rest hsingle ih => exact List.cons_ne_nil _ _
  | case4 before c rest hdouble hc ih => exact ih

theorem splitItemsAfter_of_ne {c : Char} (hc : c ≠ ';') (before rest : List Char) :
    splitItemsAfter before (c :: rest) = splitItemsAfter (c :: before) rest := by
  rw [splitItemsAfter]
  · intro more hsemicolon
    exact absurd hsemicolon hc
  · exact hc

/-- A semicolon that is not doubled ends an item. -/
theorem splitItemsAfter_separator {c : Char} (hc : c ≠ ';') (before rest : List Char) :
    splitItemsAfter before (';' :: c :: rest) =
      before.reverse :: splitItemsAfter [] (c :: rest) := by
  rw [splitItemsAfter]
  intro more hmore
  exact absurd (List.cons.inj hmore).1 hc

/-- A semicolon that no other one follows ends an item. -/
theorem splitItemsAfter_semicolon {rest : List Char} (h : rest.head? ≠ some ';')
    (before : List Char) :
    splitItemsAfter before (';' :: rest) = before.reverse :: splitItemsAfter [] rest := by
  cases rest with
  | nil => rfl
  | cons c rest => exact splitItemsAfter_separator (fun hc ↦ h (congrArg some hc)) before rest

/-- Escaped text continues an item with the text itself, whatever follows. -/
theorem splitItemsAfter_escape (before s rest : List Char) :
    splitItemsAfter before (escape s ++ rest) = splitItemsAfter (s.reverse ++ before) rest := by
  induction s generalizing before with
  | nil => rfl
  | cons c s ih =>
    rw [List.reverse_cons, List.append_assoc, List.singleton_append, ← ih]
    by_cases hc : c = ';'
    · subst hc
      rfl
    · rw [escape_cons_of_ne hc, List.cons_append, splitItemsAfter_of_ne hc]

/-- An item that does not begin with a semicolon. -/
def Starts (item : List Char) : Prop :=
  ∃ c rest, item = c :: rest ∧ c ≠ ';'

/-- The joined text of items begins as the first of them. -/
theorem joinWith_escape_eq_cons {item : List Char} (h : Starts item) (items : List (List Char)) :
    ∃ c rest, Text.joinWith [';'] (escape item :: items) = c :: rest ∧ c ≠ ';' := by
  obtain ⟨c, rest, rfl, hc⟩ := h
  rw [escape_cons_of_ne hc]
  cases items with
  | nil => exact ⟨c, _, rfl, hc⟩
  | cons next more => exact ⟨c, _, rfl, hc⟩

/-- Escaped and joined items behind the beginning of the first one are split again. -/
theorem splitItemsAfter_joinWith (before item : List Char) (items : List (List Char))
    (h : ∀ next ∈ items, Starts next) :
    splitItemsAfter before (Text.joinWith [';'] ((item :: items).map escape)) =
      (before.reverse ++ item) :: items := by
  -- Only the items behind a separator matter: the first one may begin with a semicolon.
  induction items generalizing before item with
  | nil =>
    have hend := splitItemsAfter_escape before item []
    rw [List.append_nil] at hend
    rw [List.map_cons, List.map_nil, Text.joinWith, hend, splitItemsAfter, List.reverse_append,
      List.reverse_reverse]
  | cons next items ih =>
    have htail := ih [] next fun other hother ↦ h other (List.mem_cons_of_mem _ hother)
    obtain ⟨c, rest, hrest, hc⟩ :=
      joinWith_escape_eq_cons (h next List.mem_cons_self) (items.map escape)
    have hjoin : Text.joinWith [';'] ((item :: next :: items).map escape) =
        escape item ++ ';' :: (c :: rest) := by
      rw [← hrest, List.map_cons, List.map_cons, Text.joinWith_cons_cons]
    rw [List.map_cons, hrest] at htail
    rw [hjoin, splitItemsAfter_escape, splitItemsAfter_separator hc, htail, List.reverse_append,
      List.reverse_reverse, List.reverse_nil, List.nil_append]

/-- Escaped and joined items are split again. -/
theorem splitItems_joinWith (item : List Char) (items : List (List Char))
    (h : ∀ next ∈ items, Starts next) :
    splitItems (Text.joinWith [';'] ((item :: items).map escape)) = item :: items :=
  splitItemsAfter_joinWith [] item items h

end Tag

end FieldTags
