import FieldTags.Check.Lint
import FieldTags.Display.Settings
import FieldTags.Yaml.Parser
import FieldTags.Yaml.Value

/-!
# Project settings

The settings file of a project says which files hold tags and how values are displayed and rules are
checked. All of it has defaults.
-/

namespace FieldTags

/-- The settings of a project. -/
structure ProjectConfig where
  /-- The patterns of the files that hold tags, if they are set. -/
  sources : Option (List String)
  render : RenderSettings
  lint : LintConfig

namespace ProjectConfig

def fileName : String := "uitag.config.yaml"

/-- The settings in use where there is no readable file. -/
def default : ProjectConfig := ⟨none, .default, .default⟩

def uint32? (value : Yaml.Value) : Option UInt32 :=
  (value.int? 0 maxUInt32).map fun n ↦ UInt32.ofNat n.toNat

def weekdayNames? (value : Yaml.Value) : Option (Vector String 7) :=
  (value.list? Yaml.Value.text?).bind fun names ↦
    if h : names.toArray.size = 7 then some ⟨names.toArray, h⟩ else none

def render? (value : Yaml.Value) : Option RenderSettings := do
  let d := RenderSettings.default
  let members ← value.members?
  return {
    placeholder := ← members.valueOr "placeholder" d.placeholder Yaml.Value.text?
    flatSeparator := ← members.valueOr "flatSeparator" d.flatSeparator Yaml.Value.text?
    countUnit := ← members.valueOr "countUnit" d.countUnit Yaml.Value.text?
    linkRoute := ← members.valueOr "linkRoute" d.linkRoute Yaml.Value.text?
    utcOffsetMinutes := ← members.valueOr "utcOffsetMinutes" d.utcOffsetMinutes
      (Yaml.Value.int? minInt32 maxInt32)
    weekdayNames := ← members.valueOr "weekdayNames" d.weekdayNames weekdayNames?
    imageWidth := ← members.valueOr "imageWidth" d.imageWidth uint32?
    imageHeight := ← members.valueOr "imageHeight" d.imageHeight uint32? }

/-- The levels of rules, of which the last counts if a rule has several. -/
def levels? (value : Yaml.Value) : Option (OrderedMap RuleLevel) := do
  let members ← value.members?
  return .ofList (← members.mapM fun member ↦
    (member.2.choice? RuleLevel.ofName?).map fun level ↦ (member.1, level))

def lint? (value : Yaml.Value) : Option LintConfig := do
  let members ← value.members?
  return ⟨← members.valueOr "rules" .empty levels?⟩

def ofYaml? (value : Yaml.Value) : Option ProjectConfig := do
  let members ← value.members?
  return {
    sources := ← members.valueOr "sources" none
      (Yaml.Value.nullable? (Yaml.Value.list? Yaml.Value.text?))
    render := ← members.valueOr "render" .default render?
    lint := ← members.valueOr "lint" .default lint? }

def read (text : String) : Option ProjectConfig :=
  (Yaml.readDocument text).bind fun document ↦ ofYaml? ⟨document, document⟩

end ProjectConfig

end FieldTags
