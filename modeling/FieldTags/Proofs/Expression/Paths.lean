import FieldTags.Expression.Evaluation
import FieldTags.Proofs.Expression.Recognition
import FieldTags.Proofs.Expression.Spacing
import FieldTags.Proofs.Text.Splitting

/-!
# Paths of names

Names with points between them are read as one expression: the first name is an identifier, if it
is not the word of a literal, and every other name is a member of what stands before it. There may
be as many names as there are levels. The value of such a path is found by following its names
through the objects of the scope.
-/

namespace FieldTags

/-! ## Names -/

namespace Lexer

/-- A text that is read as one name. -/
def isName (s : String) : Bool :=
  match s.toList with
  | [] => false
  | c :: more => isNameStart c && more.all isNameChar

theorem isName_iff {s : String} : isName s = true ↔
    ∃ c more, s.toList = c :: more ∧ isNameStart c = true ∧ more.all isNameChar = true := by
  unfold isName
  split
  next hnil => simp [hnil]
  next c more hcons => simp [hcons]

theorem isNameChar_of_isNameStart {c : Char} (h : isNameStart c = true) : isNameChar c = true := by
  rw [isNameStart, Bool.or_eq_true, Bool.or_eq_true] at h
  rw [isNameChar, Text.isLetterOrNumeric, Bool.or_eq_true, Bool.or_eq_true, Bool.or_eq_true]
  exact h.imp_left fun h ↦ h.imp_left Or.inl

/-- What holds of the characters of some codes holds of every character that has one of them. -/
theorem of_mem_codes {codes : List Nat} {p : Char → Prop} (h : ∀ code ∈ codes, p (Char.ofNat code))
    {c : Char} (hc : c.toNat ∈ codes) : p c := by
  have hself := h _ hc
  rwa [Char.ofNat_toNat] at hself

/-- A blank does not stand in a name. -/
theorem isBlank_of_isNameChar {c : Char} (h : isNameChar c = true) : Text.isBlank c = false := by
  rw [Bool.eq_false_iff]
  intro hblank
  have hcode : c.toNat ∈ List.range' 9 5 ++ [0x20, 0x85, 0xA0, 0x1680] ++ List.range' 0x2000 11 ++
      [0x2028, 0x2029, 0x202F, 0x205F, 0x3000] := by
    simp only [Text.isBlank, Bool.or_eq_true, Bool.and_eq_true, decide_eq_true_eq,
      beq_iff_eq] at hblank
    simp only [List.mem_append, List.mem_range'_1, List.mem_cons, List.not_mem_nil, or_false]
    omega
  have hnot : isNameChar c = false :=
    of_mem_codes (p := fun c ↦ isNameChar c = false) (by decide +kernel) hcode
  exact Bool.false_ne_true (hnot.symm.trans h)

theorem isBlank_of_mem_name {s : String} (h : isName s = true) {c : Char} (hc : c ∈ s.toList) :
    Text.isBlank c = false := by
  obtain ⟨first, more, hlist, hstart, hmore⟩ := isName_iff.mp h
  rw [hlist] at hc
  rcases List.mem_cons.mp hc with rfl | hc
  · exact isBlank_of_isNameChar (isNameChar_of_isNameStart hstart)
  · exact isBlank_of_isNameChar (List.all_eq_true.mp hmore c hc)

/-- A digit does not start a name. -/
theorem isDigit_of_isNameStart {c : Char} (h : isNameStart c = true) : c.isDigit = false := by
  rw [Bool.eq_false_iff]
  intro hdigit
  have hcode : c.toNat ∈ List.range' 48 10 := by
    rw [Char.isDigit, Bool.and_eq_true, decide_eq_true_eq, decide_eq_true_eq] at hdigit
    have hlow : 48 ≤ c.toNat := UInt32.le_iff_toNat_le.mp hdigit.1
    have hhigh : c.toNat ≤ 57 := UInt32.le_iff_toNat_le.mp hdigit.2
    exact List.mem_range'_1.mpr (by omega)
  have hnot : isNameStart c = false :=
    of_mem_codes (p := fun c ↦ isNameStart c = false) (by decide +kernel) hcode
  exact Bool.false_ne_true (hnot.symm.trans h)

/-- A name is read up to where no character of a name follows. -/
theorem scan_name {c : Char} {more rest : List Char} (hstart : isNameStart c = true)
    (hmore : more.all isNameChar = true) (hrest : rest.takeWhile isNameChar = []) (offset : Nat) :
    scan offset c (more ++ rest) = .ok (.name (String.ofList (c :: more)), more.length) := by
  have hnumber : startsNumber c (more ++ rest) = false := by
    have hdot : c ≠ '.' := by
      rintro rfl
      exact absurd hstart (by decide +kernel)
    rw [startsNumber, isDigit_of_isNameStart hstart, beq_false_of_ne hdot, Bool.false_and,
      Bool.false_or]
  have hquote : ¬ (c = '"' ∨ c = '\'') := by
    rintro (rfl | rfl)
    · exact absurd hstart (by decide +kernel)
    · exact absurd hstart (by decide +kernel)
  have htake : (c :: (more ++ rest)).takeWhile isNameChar = c :: more := by
    rw [List.takeWhile_cons_of_pos (isNameChar_of_isNameStart hstart),
      List.takeWhile_append_of_pos (List.all_eq_true.mp hmore), hrest, List.append_nil]
  rw [scan]
  simp only [hnumber, Bool.false_eq_true, if_false, Bool.or_eq_true, decide_eq_true_eq, hquote,
    hstart, if_true, htake, List.length_cons, Nat.add_sub_cancel]

/-- A point in front of a name is read by itself. -/
theorem scan_dot {c : Char} (hstart : isNameStart c = true) (rest : List Char) (offset : Nat) :
    scan offset '.' (c :: rest) = .ok (.punctuator .dot, 0) := by
  have hnumber : startsNumber '.' (c :: rest) = false := by
    rw [startsNumber, List.head?_cons, Option.any_some, isDigit_of_isNameStart hstart]
    rfl
  rw [scan]
  simp only [hnumber]
  rfl

def dotted (keys : List String) : List Char :=
  keys.flatMap fun key ↦ '.' :: key.toList

def dottedKinds (keys : List String) : List TokenKind :=
  keys.flatMap fun key ↦ [.punctuator .dot, .name key]

theorem takeWhile_isNameChar_dotted (keys : List String) :
    (dotted keys).takeWhile isNameChar = [] := by
  cases keys with
  | nil => rfl
  | cons key rest =>
    have hdot : isNameChar '.' = false := by decide +kernel
    exact List.takeWhile_cons_of_neg (Bool.eq_false_iff.mp hdot)

/-- A name is read from a text in front of more names. -/
theorem lexes_name {name : String} (hname : isName name = true) {keys : List String}
    (hrest : Lexes (dotted keys) (dottedKinds keys)) :
    Lexes (name.toList ++ dotted keys) (.name name :: dottedKinds keys) := by
  obtain ⟨c, more, hlist, hstart, hmore⟩ := isName_iff.mp hname
  have hself : String.ofList (c :: more) = name := by rw [← hlist, String.ofList_toList]
  have hscan := scan_name hstart hmore (takeWhile_isNameChar_dotted keys)
  rw [hself] at hscan
  rw [hlist]
  exact .of_scan (isBlank_of_isNameChar (isNameChar_of_isNameStart hstart)) hscan hrest

theorem lexes_dotted {keys : List String} (h : ∀ key ∈ keys, isName key = true) :
    Lexes (dotted keys) (dottedKinds keys) := by
  induction keys with
  | nil => exact lexes_nil
  | cons key rest ih =>
    have hkey := h key List.mem_cons_self
    have hrest := lexes_name hkey (ih fun other hother ↦ h other (List.mem_cons_of_mem _ hother))
    obtain ⟨c, more, hlist, hstart, -⟩ := isName_iff.mp hkey
    have hscan (offset : Nat) : scan offset '.' ([] ++ (key.toList ++ dotted rest)) =
        .ok (.punctuator .dot, 0) := by
      rw [hlist]
      exact scan_dot hstart _ offset
    have hdot := Lexes.of_scan rfl hscan hrest
    exact hdot

end Lexer

/-! ## Reading paths -/

namespace Expression

def pathText (root : String) (keys : List String) : String :=
  String.ofList (Text.joinWith ['.'] ((root :: keys).map String.toList))

/-- The members of an object that are found one inside the other. -/
def withMembers (object : Expression) (keys : List String) : Expression :=
  keys.foldl (fun object key ↦ .member object key false) object

theorem toList_pathText (root : String) (keys : List String) :
    (pathText root keys).toList = root.toList ++ Lexer.dotted keys := by
  rw [pathText, String.toList_ofList]
  induction keys generalizing root with
  | nil => exact (List.append_nil _).symm
  | cons key rest ih =>
    have htail := ih key
    rw [List.map_cons] at htail
    rw [List.map_cons, List.map_cons, Text.joinWith_cons_cons, htail]
    rfl

theorem pathText_ne_empty {root : String} (hroot : Lexer.isName root = true) (keys : List String) :
    pathText root keys ≠ "" := by
  intro hempty
  obtain ⟨c, more, hlist, -⟩ := Lexer.isName_iff.mp hroot
  have hchars := congrArg String.toList hempty
  rw [toList_pathText, hlist] at hchars
  cases hchars

/-- No blank stands in a path. -/
theorem isBlank_of_mem_pathText {root : String} {keys : List String}
    (hroot : Lexer.isName root = true) (hkeys : ∀ key ∈ keys, Lexer.isName key = true) {c : Char}
    (hc : c ∈ (pathText root keys).toList) : Text.isBlank c = false := by
  rw [toList_pathText, List.mem_append] at hc
  rcases hc with hc | hc
  · exact Lexer.isBlank_of_mem_name hroot hc
  · obtain ⟨key, hkey, hc⟩ := List.mem_flatMap.mp hc
    rcases List.mem_cons.mp hc with rfl | hc
    · rfl
    · exact Lexer.isBlank_of_mem_name (hkeys key hkey) hc

/-- Members behind a chain fit if there is a level for each of them. -/
theorem fits_withMembers {levels links : Nat} {e : Expression} {before after : List ExpressionToken}
    {keys : List String} (hbefore : Fits levels .chain links before e)
    (hafter : after.map ExpressionToken.kind = Lexer.dottedKinds keys)
    (hlevels : links + keys.length ≤ levels) :
    Fits levels .chain (links + keys.length) (before ++ after) (e.withMembers keys) := by
  induction keys generalizing e links before after with
  | nil =>
    obtain rfl := List.map_eq_nil_iff.mp hafter
    rw [List.append_nil]
    exact hbefore
  | cons key rest ih =>
    rw [List.length_cons] at hlevels ⊢
    obtain ⟨⟨_, dot⟩, more, rfl, rfl, hmore⟩ := List.map_eq_cons_iff.mp hafter
    obtain ⟨⟨_, word⟩, behind, rfl, rfl, hbehind⟩ := List.map_eq_cons_iff.mp hmore
    have hmember := Fits.named key dot word (by omega) hbefore
    have hrest := ih hmember hbehind (by omega)
    rw [List.append_assoc] at hrest
    rw [Nat.add_comm rest.length 1, ← Nat.add_assoc]
    exact hrest

/-- A path is read as the members that it names. -/
theorem compile_pathText {root : String} {keys : List String} (hroot : Lexer.isName root = true)
    (hword : root ∉ literalWords) (hkeys : ∀ key ∈ keys, Lexer.isName key = true)
    (hdepth : keys.length < Parser.maxDepth) :
    compile (pathText root keys) = .ok ((identifier root).withMembers keys) := by
  obtain ⟨tokens, htokens, hkinds⟩ := Lexer.lexes_name hroot (Lexer.lexes_dotted hkeys) 0
  obtain ⟨⟨_, offset⟩, after, rfl, rfl, hafter⟩ := List.map_eq_cons_iff.mp hkinds
  have hlexed : Lexer.tokens (pathText root keys) = .ok (⟨.name root, offset⟩ :: after) := by
    rw [Lexer.tokens, toList_pathText, htokens]
  have hidentifier : Fits 63 .chain 0 [⟨.name root, offset⟩] (.identifier root) :=
    .root (.word offset (.identifier hword))
  have hlevels : 0 + keys.length ≤ 63 := by
    rw [Parser.maxDepth] at hdepth
    omega
  have hfits := fits_withMembers hidentifier hafter hlevels
  rw [compile, hlexed]
  exact ofTokens_eq_ok_iff.mpr (.alone (.operand (.bare hfits)))

end Expression

/-! ## Following paths -/

/-- The value that the keys lead to, each of them a member of an object. -/
def Json.memberAt? (value : Json) : List String → Option Json
  | [] => some value
  | key :: rest => (value.member? key).bind fun member ↦ member.memberAt? rest

/-- Members of an object of the scope are found where their keys lead. -/
theorem Expression.evalChain_withMembers {scope : Scope} {e : Expression} {place : Place}
    {value target : Json} {keys : List String}
    (he : evalChain scope e = .ok (some (.ofJson place value)))
    (h : value.memberAt? keys = some target) :
    ∃ place, evalChain scope (e.withMembers keys) = .ok (some (.ofJson place target)) := by
  induction keys generalizing e place value with
  | nil =>
    cases h
    exact ⟨place, he⟩
  | cons key rest ih =>
    obtain ⟨member, hmember, htarget⟩ := Option.bind_eq_some_iff.mp h
    cases value with
    | object members =>
      have hstep : evalChain scope (.member e key false) =
          .ok (some (.ofJson ⟨place.root, .key key :: place.steps⟩ member)) := by
        have hlookup : members.lookup key = some member := hmember
        have hproperty : (ScriptValue.ofJson place (.object members)).readProperty key =
            .ok (.ofJson ⟨place.root, .key key :: place.steps⟩ member) := by
          rw [ScriptValue.readProperty, ScriptValue.ofJson, ScriptValue.property?]
          simp only [hlookup]
        rw [evalChain, he]
        exact congrArg (fun result ↦ result >>= fun value ↦ Except.ok (some value)) hproperty
      exact ih hstep htarget
    | _ => cases hmember

/-- A path is found in a scope of members where its names lead. -/
theorem Expression.value_path {members : List (String × Json)} {root : String}
    {keys : List String} {target : Json}
    (h : (Json.object members).memberAt? (root :: keys) = some target) :
    ∃ place, ((identifier root).withMembers keys).value (.ofJson (.object members)) =
      .ok (.ofJson place target) := by
  obtain ⟨first, hfirst, htarget⟩ := Option.bind_eq_some_iff.mp h
  have hroot : evalChain (.ofJson (.object members)) (.identifier root) =
      .ok (some (.ofJson ⟨root, []⟩ first)) := by
    have hscope : Scope.ofJson (.object members) root = some first := hfirst
    rw [evalChain, hscope]
  obtain ⟨place, hplace⟩ := evalChain_withMembers hroot htarget
  refine ⟨place, ?_⟩
  rw [Expression.value, hplace]
  rfl

end FieldTags
