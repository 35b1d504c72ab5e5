import FieldTags.Proofs.Json.NumberText

/-!
# Reading compact text

The compact text of a value is read back as the document that has the form of this value, if its
numbers are read back and it has no more than 127 levels of arrays and objects. The text is first cut
into its tokens. The reader then goes through the tokens of each value inside, and in the state that
it is in afterwards the value has its place.
-/

namespace FieldTags.Json

/-- A value that has at most so many levels of arrays and objects and numbers that are read back. -/
inductive IsReadable : Nat → Json → Prop where
  | null {levels : Nat} : IsReadable levels .null
  | bool {levels : Nat} (value : Bool) : IsReadable levels (.bool value)
  | number {levels : Nat} {value : JsonNumber}
    (h : ∀ rest, Stops rest → Reads [.number value] rest) : IsReadable levels (.number value)
  | string {levels : Nat} (value : String) : IsReadable levels (.string value)
  | array {levels : Nat} {items : List Json} (h : ∀ item ∈ items, IsReadable levels item) :
    IsReadable (levels + 1) (.array items)
  | object {levels : Nat} {members : List (String × Json)}
    (h : ∀ member ∈ members, IsReadable levels member.2) : IsReadable (levels + 1) (.object members)

namespace IsReadable

variable {levels : Nat}

theorem ofBinary64 {x : Binary64} (h : x.isFinite = true → x.ReadsBack) :
    IsReadable levels (ofBinary64 x) := by
  by_cases hfinite : x.isFinite = true
  · rw [ofBinary64_of_isFinite hfinite]
    exact .number fun rest hrest ↦ reads_number hfinite (h hfinite) hrest
  · rw [Json.ofBinary64, JsonNumber.ofBinary64?, dif_neg hfinite]
    exact .null

theorem ofOptionalMembers {members : List (String × Option Json)}
    (h : ∀ member ∈ members, ∀ value ∈ member.2, IsReadable levels value) :
    IsReadable (levels + 1) (ofOptionalMembers members) := by
  apply object
  intro member hmember
  obtain ⟨source, hsource, hgiven⟩ := List.mem_filterMap.mp hmember
  obtain ⟨value, hvalue, rfl⟩ := Option.map_eq_some_iff.mp hgiven
  exact h source hsource value hvalue

theorem ofMap {α : Type} {toJson : α → Json} {m : OrderedMap α}
    (h : ∀ entry ∈ m.entries, IsReadable levels (toJson entry.2)) :
    IsReadable (levels + 1) (ofMap toJson m) := by
  apply object
  intro member hmember
  obtain ⟨entry, hentry, rfl⟩ := List.mem_map.mp hmember
  exact h entry hentry

theorem strings (texts : List String) : IsReadable (levels + 1) (.array (texts.map .string)) := by
  apply array
  intro item hitem
  obtain ⟨s, -, rfl⟩ := List.mem_map.mp hitem
  exact .string s

end IsReadable

/-! ## Tokens with commas between them -/

/-- The tokens of things with a comma in front of each. -/
def continued {α : Type} (tokens : α → List Token) (xs : List α) : List Token :=
  xs.flatMap fun x ↦ .comma :: tokens x

/-- The tokens of things with commas between them. -/
def separated {α : Type} (tokens : α → List Token) : List α → List Token
  | [] => []
  | x :: xs => tokens x ++ continued tokens xs

def pairTokens (member : String × Json) : List Token :=
  .string member.1 :: .colon :: member.2.tokens

theorem itemTokens_eq (items : List Json) : itemTokens items = separated tokens items := by
  cases items with
  | nil => rfl
  | cons item rest =>
    induction rest generalizing item with
    | nil => exact (List.append_nil _).symm
    | cons next more ih =>
      rw [itemTokens, ih]
      · rfl
      · exact List.cons_ne_nil _ _

theorem memberTokens_eq (members : List (String × Json)) :
    memberTokens members = separated pairTokens members := by
  cases members with
  | nil => rfl
  | cons member rest =>
    induction rest generalizing member with
    | nil => exact (List.append_nil _).symm
    | cons next more ih =>
      rw [memberTokens, ih]
      · rfl
      · exact List.cons_ne_nil _ _

/-! ## Cutting the text into tokens -/

theorem Reads.cons {token : Token} {tokens : List Token} {rest : List Char}
    (htoken : ∀ n, token ≠ .number n) (h : Reads tokens rest) : Reads (token :: tokens) rest :=
  (reads_token token htoken).append h

section Separated

variable {α : Type} {f : α → List Token} {xs : List α} {rest : List Char}

end Separated

namespace Reader

def run (reader : Reader) (tokens : List Token) : Option Reader :=
  tokens.foldlM (fun reader token ↦ reader.step (.token token)) reader

theorem run_cons (reader : Reader) (token : Token) (tokens : List Token) :
    reader.run (token :: tokens) = (reader.step (.token token)).bind (·.run tokens) :=
  List.foldlM_cons

theorem run_append (reader : Reader) (tokens more : List Token) :
    reader.run (tokens ++ more) = (reader.run tokens).bind (·.run more) :=
  List.foldlM_append

/-- A reader goes from one state to another in the course of the tokens. -/
def Runs (reader : Reader) (tokens : List Token) (after : Reader) : Prop :=
  reader.run tokens = some after

section Runs

variable {reader middle after : Reader} {token : Token} {tokens more : List Token}

theorem runs_nil (reader : Reader) : Runs reader [] reader := rfl

theorem Runs.cons (hstep : reader.step (.token token) = some middle)
    (h : Runs middle tokens after) : Runs reader (token :: tokens) after := by
  rw [Runs, run_cons, hstep]
  exact h

theorem Runs.append (h : Runs reader tokens middle) (hmore : Runs middle more after) :
    Runs reader (tokens ++ more) after := by
  rw [Runs] at h
  rw [Runs, run_append, h]
  exact hmore

end Runs

/-- A value takes its place wherever so many levels are left for it. -/
def Places (levels : Nat) (value : Json) : Prop :=
  ∀ outer : List Frame, levels + outer.length ≤ maxDepth →
    Runs (.awaitValue outer) value.tokens (afterValue (.ofValue value) outer)

section Nested

variable {levels : Nat} {outer : List Frame}

theorem Places.inside {value : Json} (h : Places levels value) (frame : Frame)
    (hdepth : levels + 1 + outer.length ≤ maxDepth) :
    Runs (.awaitValue (frame :: outer)) value.tokens (afterValue (.ofValue value) (frame :: outer)) := by
  apply h
  rw [List.length_cons]
  omega

theorem afterNested_of_levels (value : JsonDocument) (hdepth : levels + 1 + outer.length ≤ maxDepth) :
    afterNested value outer = afterValue value outer := by
  have hlt : outer.length < maxDepth := by omega
  rw [afterNested, if_pos hlt]

/-- No value begins with the end of an array, so the first item is read like any other. -/
theorem runs_firstItem {value : Json} {after : Reader}
    (h : Runs (.awaitValue (.array [] :: outer)) value.tokens after) :
    Runs (.firstItem outer) value.tokens after := by
  obtain ⟨token, more, htokens, hne⟩ : ∃ token more, value.tokens = token :: more ∧
      token ≠ .arrayEnd := by
    cases value <;> exact ⟨_, _, rfl, nofun⟩
  have hstep : step (.firstItem outer) (.token token) =
      step (.awaitValue (.array [] :: outer)) (.token token) := by
    cases token <;> first | rfl | exact absurd rfl hne
  rw [htokens, Runs, run_cons] at h ⊢
  rw [hstep]
  exact h

theorem runs_items {items : List Json} (h : ∀ item ∈ items, Places levels item)
    (before : List JsonDocument) (hdepth : levels + 1 + outer.length ≤ maxDepth) :
    Runs (.afterItem before outer) (continued tokens items)
      (.afterItem ((items.map JsonDocument.ofValue).reverse ++ before) outer) := by
  -- The items that are there stand last first, so each one goes on top of those before it.
  induction items generalizing before with
  | nil => exact runs_nil _
  | cons item items ih =>
    have hitem := (h item List.mem_cons_self).inside (.array before) hdepth
    have hrest := ih (fun x hx ↦ h x (List.mem_cons_of_mem _ hx)) (.ofValue item :: before)
    rw [List.map_cons, List.reverse_cons, List.append_assoc, List.singleton_append]
    exact (hitem.append hrest).cons rfl

theorem runs_array {items : List Json} (h : ∀ item ∈ items, Places levels item)
    (hdepth : levels + 1 + outer.length ≤ maxDepth) :
    Runs (.firstItem outer) (itemTokens items ++ [.arrayEnd])
      (afterValue (.array (items.map .ofValue)) outer) := by
  rw [itemTokens_eq, ← afterNested_of_levels _ hdepth]
  cases items with
  | nil => exact (runs_nil _).cons rfl
  | cons item more =>
    have hitem := runs_firstItem ((h item List.mem_cons_self).inside (.array []) hdepth)
    have hmore := runs_items (fun x hx ↦ h x (List.mem_cons_of_mem _ hx)) [.ofValue item] hdepth
    have hend : step (.afterItem ((more.map .ofValue).reverse ++ [.ofValue item]) outer)
        (.token .arrayEnd) = some (afterNested (.array ((item :: more).map .ofValue)) outer) := by
      rw [← List.reverse_cons, ← List.map_cons, step, List.reverse_reverse]
    exact (hitem.append hmore).append ((runs_nil _).cons hend)

/-- A member as a reader keeps it. -/
def kept (member : String × Json) : Option String × JsonDocument :=
  (some member.1, .ofValue member.2)

theorem runs_pair {member : String × Json} {before : List (Option String × JsonDocument)}
    {reader : Reader} (h : Places levels member.2) (hdepth : levels + 1 + outer.length ≤ maxDepth)
    (hkey : reader.step (.token (.string member.1)) =
      some (.awaitColon before (some member.1) outer)) :
    Runs reader (pairTokens member) (.afterMember (kept member :: before) outer) :=
  ((h.inside (.object before (some member.1)) hdepth).cons rfl).cons hkey

theorem runs_members {members : List (String × Json)}
    (h : ∀ member ∈ members, Places levels member.2)
    (before : List (Option String × JsonDocument)) (hdepth : levels + 1 + outer.length ≤ maxDepth) :
    Runs (.afterMember before outer) (continued pairTokens members)
      (.afterMember ((members.map kept).reverse ++ before) outer) := by
  induction members generalizing before with
  | nil => exact runs_nil _
  | cons member members ih =>
    have hpair : Runs (.awaitKey before outer) (pairTokens member)
        (.afterMember (kept member :: before) outer) :=
      runs_pair (h member List.mem_cons_self) hdepth rfl
    have hrest := ih (fun x hx ↦ h x (List.mem_cons_of_mem _ hx)) (kept member :: before)
    rw [List.map_cons, List.reverse_cons, List.append_assoc, List.singleton_append]
    exact (hpair.append hrest).cons rfl

theorem objectOf_map_kept (members : List (String × Json)) :
    objectOf (members.map kept) = .object (members.map fun member ↦ (member.1, .ofValue member.2)) := by
  have hkeys : (members.map kept).mapM (fun member ↦ member.1.map fun key ↦ (key, member.2)) =
      some (members.map fun member ↦ (member.1, .ofValue member.2)) := by
    rw [List.mapM_map]
    exact List.mapM_pure
  rw [objectOf, hkeys]

theorem runs_object {members : List (String × Json)}
    (h : ∀ member ∈ members, Places levels member.2)
    (hdepth : levels + 1 + outer.length ≤ maxDepth) :
    Runs (.firstKey outer) (memberTokens members ++ [.objectEnd])
      (afterValue (.object (members.map fun member ↦ (member.1, .ofValue member.2))) outer) := by
  rw [memberTokens_eq, ← afterNested_of_levels _ hdepth, ← objectOf_map_kept]
  cases members with
  | nil => exact (runs_nil _).cons rfl
  | cons member more =>
    have hpair : Runs (.firstKey outer) (pairTokens member) (.afterMember [kept member] outer) :=
      runs_pair (h member List.mem_cons_self) hdepth rfl
    have hmore := runs_members (fun x hx ↦ h x (List.mem_cons_of_mem _ hx)) [kept member] hdepth
    have hend : step (.afterMember ((more.map kept).reverse ++ [kept member]) outer)
        (.token .objectEnd) = some (afterNested (objectOf ((member :: more).map kept)) outer) := by
      rw [← List.reverse_cons, ← List.map_cons, step, List.reverse_reverse]
    exact (hpair.append hmore).append ((runs_nil _).cons hend)

end Nested

end Reader

/-- The tokens of a readable value put it in its place. -/
theorem IsReadable.places {levels : Nat} {value : Json} (h : IsReadable levels value) :
    Reader.Places levels value := by
  induction h with
  | null => exact fun outer _ ↦ rfl
  | bool value => exact fun outer _ ↦ rfl
  | number h => exact fun outer _ ↦ rfl
  | string value => exact fun outer _ ↦ rfl
  | @array levels items _ ih =>
    intro outer hdepth
    rw [tokens, List.cons_append, JsonDocument.ofValue, JsonDocument.ofItems_eq_map]
    exact (Reader.runs_array ih hdepth).cons rfl
  | @object levels members _ ih =>
    intro outer hdepth
    rw [tokens, List.cons_append, JsonDocument.ofValue, JsonDocument.ofMembers_eq_map]
    exact (Reader.runs_object ih hdepth).cons rfl

end FieldTags.Json
