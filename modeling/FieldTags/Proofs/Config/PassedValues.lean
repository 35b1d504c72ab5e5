import FieldTags.Config.View
import FieldTags.Proofs.Expression.Condition
import FieldTags.Proofs.Expression.Paths
import FieldTags.Proofs.Number.Integers
import FieldTags.Proofs.Text.Trimming

/-!
# Values that templates pass on

A template that names a value by a path gives this value, and so do the defaults and the parameters
of a field that hold such a template. Numbers go through binary numbers on their way. An integer
that no binary number is equal to comes out as the nearest binary number. All other numbers keep
their value, though perhaps not their form, and everything that is not a number stays as it is.
-/

namespace FieldTags

/-! ## Values -/

namespace Json

/-- The values are equal, where numbers are compared by their value. -/
inductive SameValue : Json → Json → Prop where
  | refl (v : Json) : SameValue v v
  | number {m n : JsonNumber} (h : m.grainValue = n.grainValue) :
    SameValue (.number m) (.number n)

theorem SameValue.grainValue_eq {m n : JsonNumber} (h : SameValue (.number m) (.number n)) :
    m.grainValue = n.grainValue := by
  cases h with
  | refl => rfl
  | number h => exact h

/-- The value with a number replaced by the nearest binary number. -/
def nearestBinary : Json → Json
  | .number n => .ofBinary64 n.toBinary64
  | v => v

/-- If the value is an integer, a binary number is equal to it. -/
def IsBinary (v : Json) : Prop :=
  ∀ n inRange, v = .number (.integer n inRange) →
    ∃ x : Binary64, x.isFinite = true ∧ x.grainValue = n * Binary64.grainsInOne

/-- The value as the data of an expression that has this value. -/
def asResult : Json → Json
  | .number n => .ofCalculation n.toBinary64
  | v => v

theorem toJson?_ofJson (place : Place) (v : Json) :
    (ScriptValue.ofJson place v).toJson? = some v.asResult := by
  cases v <;> rfl

/-- The data of a finite number is a number of the same value. -/
theorem exists_ofCalculation_eq {x : Binary64} (h : x.isFinite = true) :
    ∃ n, ofCalculation x = .number n ∧ n.grainValue = x.grainValue := by
  rcases ofCalculation_cases h with ⟨n, inRange, hwhole, hdata⟩ | hdata
  · exact ⟨.integer n inRange, hdata, (Binary64.grainValue_of_toInt? hwhole).symm⟩
  · exact ⟨.float x h, hdata, rfl⟩

/-- What an expression makes of a value has the value of the nearest binary number. -/
theorem sameValue_asResult_nearestBinary (v : Json) : v.asResult.SameValue v.nearestBinary := by
  cases v with
  | number n =>
    have hfinite := n.isFinite_toBinary64
    obtain ⟨result, hresult, hvalue⟩ := exists_ofCalculation_eq hfinite
    rw [asResult, hresult, nearestBinary, ofBinary64_of_isFinite hfinite]
    exact .number hvalue
  | _ => exact .refl _

/-- A value that is binary is passed on. -/
theorem IsBinary.sameValue_asResult {v : Json} (h : v.IsBinary) : v.asResult.SameValue v := by
  cases v with
  | number n =>
    obtain ⟨result, hresult, hvalue⟩ := exists_ofCalculation_eq n.isFinite_toBinary64
    rw [asResult, hresult]
    refine .number (hvalue.trans ?_)
    cases n with
    | integer n inRange =>
      obtain ⟨x, hfinite, hx⟩ := h n inRange rfl
      exact Binary64.grainValue_ofInt_of_eq hfinite hx
    | float x finite => rfl
  | _ => exact .refl _

/-- Integers up to `2 ^ 53` are binary. -/
theorem isBinary_of_natAbs_le {v : Json}
    (h : ∀ n inRange, v = .number (.integer n inRange) → n.natAbs ≤ 2 ^ 53) : v.IsBinary := by
  intro n inRange hv
  have hbits : n.natAbs < 2 ^ 64 := Nat.lt_of_le_of_lt (h n inRange hv) (by decide)
  exact ⟨.ofInt n, Binary64.isFinite_ofInt (by decide) hbits,
    Binary64.grainValue_ofInt_of_le (h n inRange hv)⟩

end Json

/-! ## Templates -/

namespace Template

/-- The template of a path of names. -/
def ofPath (root : String) (keys : List String) : String :=
  String.ofList ['{', '{', ' '] ++ Expression.pathText root keys ++ String.ofList [' ', '}', '}']

/-- The template of a path gives what an expression makes of the value that its names lead to. -/
theorem evaluate_ofPath {members : List (String × Json)} {root : String} {keys : List String}
    {v : Json} (hroot : Lexer.isName root = true) (hword : root ∉ Expression.literalWords)
    (hkeys : ∀ key ∈ keys, Lexer.isName key = true) (hdepth : keys.length < Parser.maxDepth)
    (hpath : (Json.object members).memberAt? (root :: keys) = some v) :
    evaluate (.ofJson (.object members)) (ofPath root keys) = some v.asResult := by
  have htrim : Text.trimChars (Expression.pathText root keys).toList =
      (Expression.pathText root keys).toList :=
    Text.trimChars_of_forall fun _ hc ↦ Expression.isBlank_of_mem_pathText hroot hkeys hc
  have hbody : body? (ofPath root keys) = some (Expression.pathText root keys) := by
    refine body?_eq_some_iff.mpr ⟨' ' :: ((Expression.pathText root keys).toList ++ [' ']), ?_, ?_⟩
    · rw [ofPath, String.toList_append, String.toList_append, String.toList_ofList,
        String.toList_ofList]
      simp
    · rw [Text.trimChars_spaced htrim, String.ofList_toList]
  obtain ⟨place, hvalue⟩ := Expression.value_path hpath
  have heval : (Expression.compile (Expression.pathText root keys)).bind
      (Expression.eval (.ofJson (.object members))) = .ok (some v.asResult) := by
    rw [Expression.compile_pathText hroot hword hkeys hdepth, Except.bind, Expression.eval, hvalue,
      Except.map, Json.toJson?_ofJson]
  rw [evaluate, outcome, hbody]
  dsimp only
  rw [if_neg (Expression.pathText_ne_empty hroot keys), heval]
  rfl

end Template

/-! ## Fields -/

namespace FieldConfig

/-- A text gives a value in a scope, by itself and as a default or a parameter of any field. -/
structure Gives (scope : Scope) (text : String) (w : Json) : Prop where
  evaluate : Template.evaluate scope text = some w
  defaultValue (config : FieldConfig) (h : config .default = some (.text text)) :
    config.defaultValue scope = some w
  searchDefault (config : FieldConfig) (h : config .searchDefault = some (.text text)) :
    config.searchDefault scope = some w
  requestParams (config : FieldConfig) (entries : OrderedMap String)
    (h : config .apiParams = some (.pairs entries)) (key : String)
    (hkey : (key, text) ∈ entries.entries) : (key, w) ∈ config.requestParams scope

theorem gives_of_evaluate {scope : Scope} {text : String} {w : Json}
    (h : Template.evaluate scope text = some w) : Gives scope text w where
  evaluate := h
  defaultValue config hconfig := by
    rw [FieldConfig.defaultValue, hconfig, Option.bind_some, TagValue.inScope, h]
  searchDefault config hconfig := by
    rw [FieldConfig.searchDefault, hconfig, Option.bind_some, TagValue.inScope, h]
  requestParams config entries hconfig key hkey := by
    rw [FieldConfig.requestParams, hconfig]
    exact List.mem_filterMap.mpr ⟨(key, text), hkey, by rw [h, Option.map_some]⟩

/-- The template of a path gives the value that the path leads to. An integer gives the nearest
binary number, which is equal to it if any binary number is, and always up to `2 ^ 53`. -/
theorem gives_ofPath {members : List (String × Json)} {root : String} {keys : List String}
    {v : Json} (hroot : Lexer.isName root = true) (hword : root ∉ Expression.literalWords)
    (hkeys : ∀ key ∈ keys, Lexer.isName key = true) (hdepth : keys.length < Parser.maxDepth)
    (hpath : (Json.object members).memberAt? (root :: keys) = some v) :
    ∃ w, Gives (.ofJson (.object members)) (Template.ofPath root keys) w ∧
      w.SameValue v.nearestBinary ∧ (v.IsBinary → w.SameValue v) ∧
      ((∀ n inRange, v = .number (.integer n inRange) → n.natAbs ≤ 2 ^ 53) → w.SameValue v) := by
  refine ⟨v.asResult, gives_of_evaluate ?_, v.sameValue_asResult_nearestBinary, ?_, ?_⟩
  · exact Template.evaluate_ofPath hroot hword hkeys hdepth hpath
  · exact fun hbinary ↦ hbinary.sameValue_asResult
  · exact fun hsmall ↦ (Json.isBinary_of_natAbs_le hsmall).sameValue_asResult

/-- A row with its owner inside. -/
def ownedRow : List (String × Json) :=
  [("row", .object [("id", .string "a-7"), ("owner", .object [("id", .ofUInt32 4711)])])]

/-- The identifier of the owner is passed on. -/
theorem gives_ownerId : ∃ w, Gives (.ofJson (.object ownedRow)) "{{ row.owner.id }}" w ∧
    w.SameValue (.ofUInt32 4711) := by
  have hpath : (Json.object ownedRow).memberAt? ["row", "owner", "id"] =
      some (.ofUInt32 4711) := rfl
  have hroot : Lexer.isName "row" = true := by decide +kernel
  have hkeys : ∀ key ∈ ["owner", "id"], Lexer.isName key = true := by decide +kernel
  obtain ⟨w, hgives, -, -, hsame⟩ := gives_ofPath hroot (by decide) hkeys (by decide) hpath
  refine ⟨w, hgives, hsame fun n inRange hn ↦ ?_⟩
  cases hn
  decide

/-- An identifier for which there is no binary number. -/
def longIdentifier : Json := .number (.integer 9007199254740993 (by decide))

theorem not_sameValue_longIdentifier : ¬ longIdentifier.asResult.SameValue longIdentifier := by
  have hfinite : (Binary64.ofInt 9007199254740993).isFinite = true := by decide +kernel
  have hrounded : (Binary64.ofInt 9007199254740993).grainValue ≠
      9007199254740993 * Binary64.grainsInOne := by decide +kernel
  obtain ⟨n, hn, hvalue⟩ := Json.exists_ofCalculation_eq hfinite
  have hresult : longIdentifier.asResult = .number n := hn
  rw [hresult]
  intro hsame
  exact hrounded (hvalue.symm.trans hsame.grainValue_eq)

/-- An integer beyond `2 ^ 53` need not be passed on. -/
theorem not_forall_gives_ofPath :
    ¬ ∀ (members : List (String × Json)) (root : String) (keys : List String) (v : Json),
      Lexer.isName root = true → root ∉ Expression.literalWords →
      (∀ key ∈ keys, Lexer.isName key = true) → keys.length < Parser.maxDepth →
      (Json.object members).memberAt? (root :: keys) = some v →
      ∃ w, Template.evaluate (.ofJson (.object members)) (Template.ofPath root keys) = some w ∧
        w.SameValue v := by
  intro h
  have hroot : Lexer.isName "id" = true := by decide +kernel
  have hword : "id" ∉ Expression.literalWords := by decide
  have hkeys : ∀ key ∈ ([] : List String), Lexer.isName key = true := by decide
  have hdepth : ([] : List String).length < Parser.maxDepth := by decide
  have hpath : (Json.object [("id", longIdentifier)]).memberAt? ["id"] = some longIdentifier := rfl
  obtain ⟨w, hw, hsame⟩ := h _ _ _ _ hroot hword hkeys hdepth hpath
  rw [Template.evaluate_ofPath hroot hword hkeys hdepth hpath] at hw
  obtain rfl := Option.some.inj hw
  exact not_sameValue_longIdentifier hsame

end FieldConfig

end FieldTags
