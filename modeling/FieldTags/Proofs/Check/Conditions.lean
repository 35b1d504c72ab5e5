import FieldTags.Proofs.Check.Problems
import FieldTags.Proofs.Expression.Condition
import FieldTags.Proofs.Expression.LargerScope
import FieldTags.Proofs.Expression.Sandbox

/-!
# What validation says about conditions

A condition about which nothing is reported compiles and reads the row alone, so its evaluation
fails only on a value without properties. A condition that is reported not to compile holds of every
row. One that is reported to read other names is said to hold of every row too, but this is not so:
what stands in front of such a name may already decide, and then the condition can be false. It
holds of all rows but those of which it is false whatever the other names mean.
-/

namespace FieldTags

/-! ## Reports -/

/-- Something with this code is reported. -/
def Report.Has (r : Report) (code : String) : Prop :=
  ∃ finding ∈ r.errors ++ r.warnings, finding.code = code

/-- The problems of a configuration are what is reported. -/
theorem ModelConfig.has_validate {config : ModelConfig} {code : String} :
    config.validate.Has code ↔ ∃ p ∈ config.problems, p.code = code := by
  constructor
  · rintro ⟨finding, hfinding, rfl⟩
    have hmem : finding ∈ config.problems.map (Problem.finding config.model) := by
      rcases List.mem_append.mp hfinding with h | h <;> exact (List.mem_filter.mp h).1
    obtain ⟨p, hp, rfl⟩ := List.mem_map.mp hmem
    exact ⟨p, hp, rfl⟩
  · rintro ⟨p, hp, rfl⟩
    have hmem := List.mem_map_of_mem (f := Problem.finding config.model) hp
    refine ⟨p.finding config.model, List.mem_append.mpr ?_, rfl⟩
    cases hseverity : (p.finding config.model).severity with
    | error => exact .inl (List.mem_filter.mpr ⟨hmem, decide_eq_true hseverity⟩)
    | warning => exact .inr (List.mem_filter.mpr ⟨hmem, decide_eq_true hseverity⟩)

/-- The button whose condition has the problem. -/
def Problem.conditionButton? : Problem → Option String
  | .brokenCondition button _ => some button
  | .foreignNames button _ => some button
  | _ => none

/-- The condition of the button is reported under this code. -/
def ModelConfig.FlagsCondition (config : ModelConfig) (code button : String) : Prop :=
  ∃ p ∈ config.problems, p.code = code ∧ p.conditionButton? = some button

/-! ## Problems of conditions -/

section Problems

variable {config : ModelConfig} {button condition code : String} {p : Problem}

/-- The problems of a field are not those of a condition. -/
theorem FieldConfig.conditionButton?_eq_none {field : FieldConfig} {name : String}
    (h : p ∈ field.problems name) : p.conditionButton? = none := by
  have hfield := field?_of_mem_problems h
  cases p with
  | brokenCondition => cases hfield
  | foreignNames => cases hfield
  | _ => rfl

namespace ModelConfig

/-- A condition is reported as broken exactly if its expression does not compile. -/
theorem exists_broken_iff : (∃ p ∈ conditionProblems button condition, p.code = "UIT-E002") ↔
    ∃ error, Expression.compile (Condition.source condition) = .error error := by
  unfold conditionProblems
  cases Expression.compile (Condition.source condition) with
  | error error => exact iff_of_true ⟨_, List.mem_cons_self, rfl⟩ ⟨error, rfl⟩
  | ok e =>
    refine iff_of_false ?_ nofun
    dsimp only
    split_ifs <;> simp [Problem.code]

/-- A condition is reported to read other names exactly if its expression compiles and does so. -/
theorem exists_foreign_iff : (∃ p ∈ conditionProblems button condition, p.code = "UIT-W008") ↔
    ∃ e, Expression.compile (Condition.source condition) = .ok e ∧
      ∃ name ∈ e.identifiers, name ≠ "row" := by
  unfold conditionProblems
  cases Expression.compile (Condition.source condition) with
  | error error => exact iff_of_false (by simp [Problem.code]) nofun
  | ok e =>
    have hforeign : e.identifiers.filter (· ≠ "row") = [] ↔
        ¬ ∃ name ∈ e.identifiers, name ≠ "row" := by
      simp [List.filter_eq_nil_iff]
    dsimp only
    split_ifs with h
    · constructor
      · rintro ⟨p, hp, -⟩
        exact absurd hp List.not_mem_nil
      · rintro ⟨found, hfound, hname⟩
        cases hfound
        exact absurd hname (hforeign.mp h)
    · have hname : ∃ name ∈ e.identifiers, name ≠ "row" := not_not.mp (mt hforeign.mpr h)
      exact iff_of_true ⟨_, List.mem_cons_self, rfl⟩ ⟨e, rfl, hname⟩

theorem conditionButton?_eq_some (h : p ∈ conditionProblems button condition) :
    p.conditionButton? = some button := by
  obtain ⟨error, rfl⟩ | ⟨names, rfl⟩ := eq_of_mem_conditionProblems h <;> rfl

theorem mem_problems_of_condition (hentry : (button, condition) ∈ config.actionEntries .condition)
    (h : p ∈ conditionProblems button condition) : p ∈ config.problems :=
  mem_problems_iff.mpr (.inr (.inr (.inl ⟨button, condition, hentry, h⟩)))

/-- What is wrong with the condition of a button is wrong with the condition that it has. -/
theorem mem_conditionProblems (hentry : (button, condition) ∈ config.actionEntries .condition)
    (h : p ∈ config.problems) (hbutton : p.conditionButton? = some button) :
    p ∈ conditionProblems button condition := by
  rcases mem_problems_iff.mp h with h | h | ⟨name, other, hother, h⟩ | h | ⟨name, field, -, h⟩
  · obtain ⟨setting, key, value, rfl, -⟩ := mem_undeclaredButtons_iff.mp h
    cases hbutton
  · obtain ⟨b, -, rfl⟩ := List.mem_map.mp h
    cases hbutton
  · obtain rfl : name = button :=
      Option.some.inj ((conditionButton?_eq_some h).symm.trans hbutton)
    -- A button has one entry, so this is the condition that it has.
    have hfind := mem_actionEntries.mp hentry
    rw [mem_actionEntries.mp hother, Option.some.injEq] at hfind
    exact hfind ▸ h
  · obtain ⟨entry, -, rfl⟩ := List.mem_map.mp h
    cases hbutton
  · rw [FieldConfig.conditionButton?_eq_none h] at hbutton
    cases hbutton

/-- A condition is reported under a code exactly if it has such a problem. -/
theorem flagsCondition_iff (hentry : (button, condition) ∈ config.actionEntries .condition) :
    config.FlagsCondition code button ↔
      ∃ p ∈ conditionProblems button condition, p.code = code := by
  constructor
  · rintro ⟨p, hp, hcode, hbutton⟩
    exact ⟨p, mem_conditionProblems hentry hp hbutton, hcode⟩
  · rintro ⟨p, hp, hcode⟩
    exact ⟨p, mem_problems_of_condition hentry hp, hcode, conditionButton?_eq_some hp⟩

theorem not_exists_of_not_has (h : ¬ config.validate.Has code)
    (hentry : (button, condition) ∈ config.actionEntries .condition) :
    ¬ ∃ p ∈ conditionProblems button condition, p.code = code := by
  rintro ⟨p, hp, hcode⟩
  apply h
  exact has_validate.mpr ⟨p, mem_problems_of_condition hentry hp, hcode⟩

end ModelConfig

end Problems

/-! ## What holds at run time -/

namespace Condition

variable {condition : String} {row : Option Json} {e : Expression}

theorem scope_row (row : Option Json) : scope row "row" = some (row.getD (.object [])) := rfl

/-- A scope with the row has all that a condition sees. -/
theorem extends_scope {other : Scope} (h : other "row" = some (row.getD (.object []))) :
    other.Extends (scope row) := by
  intro name value hname
  by_cases hrow : name = "row"
  · subst hrow
    rw [h, ← scope_row]
    exact hname
  · have hnone : scope row name = none := by
      simp [scope, Scope.ofList, hrow]
    rw [hnone] at hname
    cases hname

/-- An expression over the row alone fails only on a value without properties. -/
theorem test_failsOnly (hnames : ∀ name ∈ e.identifiers, name = "row") :
    Expression.FailsOnly (fun error ↦ ∃ property target, error = .nullAccess property target)
      (e.test (scope row)) := by
  refine Expression.FailsOnly.map (Expression.FailsOnly.mono (Expression.value_failsOnly _ e) ?_) _
  rintro error (hnull | ⟨name, -, hmention, hnone⟩)
  · exact hnull
  · rw [hnames name (Expression.mem_identifiers.mpr hmention), scope_row] at hnone
    cases hnone

/-- A condition that does not compile holds of every row. -/
theorem holds_of_broken {error : ExpressionError}
    (h : Expression.compile (source condition) = .error error) (row : Option Json) :
    holds condition row = true := by
  by_contra hholds
  have hfalse : holds condition row = false := Bool.eq_false_iff.mpr hholds
  obtain ⟨text, e, value, hunwraps, -, hcompile, -⟩ := holds_eq_false_iff.mp hfalse
  rw [unwraps_iff.mp hunwraps] at h
  cases h.symm.trans hcompile

/-- A condition is false of a row exactly if its expression is false in every scope with the row. -/
theorem holds_eq_false_iff_forall (hcompile : Expression.compile (source condition) = .ok e) :
    holds condition row = false ↔
      ∀ other : Scope, other "row" = some (row.getD (.object [])) → e.test other = .ok false := by
  have hblank : Text.allBlank (source condition) = false := by
    apply Bool.eq_false_iff.mpr
    intro hblank
    cases hcompile.symm.trans (Expression.compile_of_allBlank hblank)
  rw [holds_eq_false_iff_test]
  constructor
  · rintro ⟨-, found, hfound, htest⟩ other hother
    cases hcompile.symm.trans hfound
    -- A scope with the row has more names, and the expression keeps its value there.
    exact Expression.test_persists (extends_scope hother) e false htest
  · intro h
    exact ⟨hblank, e, hcompile, h _ (scope_row row)⟩

end Condition

namespace ModelConfig

/-- Where validation reports no broken condition and none that reads other names than the row, every
condition compiles, and it fails only on a value without properties. -/
theorem condition_fails_only_on_nullAccess (config : ModelConfig)
    (hbroken : ¬ config.validate.Has "UIT-E002") (hforeign : ¬ config.validate.Has "UIT-W008")
    (button condition : String) (hentry : (button, condition) ∈ config.actionEntries .condition)
    (row : Option Json) :
    (∃ e, Expression.compile (Condition.source condition) = .ok e) ∧
      ∀ text error, Condition.outcome condition row = .failed text error →
        ∃ property target, error = .nullAccess property target := by
  have hcompiles : ¬ ∃ error, Expression.compile (Condition.source condition) = .error error :=
    mt exists_broken_iff.mpr (not_exists_of_not_has hbroken hentry)
  have hnames := mt exists_foreign_iff.mpr (not_exists_of_not_has hforeign hentry)
  cases hcompile : Expression.compile (Condition.source condition) with
  | error error => exact absurd ⟨error, hcompile⟩ hcompiles
  | ok e =>
    refine ⟨⟨e, rfl⟩, ?_⟩
    intro text error hfailed
    have hrow : ∀ name ∈ e.identifiers, name = "row" := by
      intro name hname
      by_contra hne
      exact hnames ⟨e, hcompile, name, hname, hne⟩
    rcases Condition.failed_of_outcome hfailed with herror | ⟨found, hfound, htest⟩
    · cases hcompile.symm.trans herror
    · cases hcompile.symm.trans hfound
      exact Condition.test_failsOnly hrow error htest

/-- A model whose button asks for the name of an owner that a row may not have. -/
def ownedOrders : ModelConfig :=
  .assemble "Order" [⟨TagRow.settingsField,
    "actions:edit;action-item-condition:edit=row.owner.name === row.user"⟩]

/-- Without a row there is no owner whose name could be read, and this is all that is wrong. -/
theorem outcome_ownedOrders : ∃ property target,
    Condition.outcome "row.owner.name === row.user" none =
      .failed "row.owner.name === row.user" (.nullAccess property target) := by
  have hfailed : Condition.outcome "row.owner.name === row.user" none =
      .failed "row.owner.name === row.user" (.nullAccess "name" "undefined") := by
    decide +kernel
  have hproblems : ownedOrders.problems = [] := by
    decide +kernel
  have hclean (code : String) : ¬ ownedOrders.validate.Has code := by
    rw [has_validate, hproblems]
    rintro ⟨p, hp, -⟩
    exact List.not_mem_nil hp
  obtain ⟨property, target, herror⟩ :=
    (condition_fails_only_on_nullAccess ownedOrders (hclean _) (hclean _) "edit"
      "row.owner.name === row.user" (by decide +kernel) none).2 _ _ hfailed
  exact ⟨property, target, herror ▸ hfailed⟩

/-- A condition that is reported not to compile holds of every row. One that is reported to read
other names compiles and reads one, and it holds of all rows but those of which its expression is
false in every scope, whatever the other names mean there. -/
theorem holds_of_flagged (config : ModelConfig) (button condition : String)
    (hentry : (button, condition) ∈ config.actionEntries .condition) :
    (config.FlagsCondition "UIT-E002" button → ∀ row, Condition.holds condition row = true) ∧
      (config.FlagsCondition "UIT-W008" button →
        ∃ e, Expression.compile (Condition.source condition) = .ok e ∧
          (∃ name ∈ e.identifiers, name ≠ "row") ∧
          ∀ row, Condition.holds condition row = true ↔
            ¬ ∀ scope : Scope, scope "row" = some (row.getD (.object [])) →
              e.test scope = .ok false) := by
  constructor
  · intro hflag row
    obtain ⟨error, herror⟩ := exists_broken_iff.mp ((flagsCondition_iff hentry).mp hflag)
    exact Condition.holds_of_broken herror row
  · intro hflag
    obtain ⟨e, hcompile, hname⟩ := exists_foreign_iff.mp ((flagsCondition_iff hentry).mp hflag)
    refine ⟨e, hcompile, hname, ?_⟩
    intro row
    rw [← Condition.holds_eq_false_iff_forall hcompile, Bool.not_eq_false]

/-- A model with a condition that reads a user beside the row, and one that does not compile. -/
def reportedUsers : ModelConfig :=
  .assemble "SysUser" [⟨TagRow.settingsField,
    "actions:edit,delete;action-item-condition:edit=row.active && user.admin;;delete=row."⟩]

theorem actionEntries_reportedUsers : reportedUsers.actionEntries .condition =
    [("edit", "row.active && user.admin"), ("delete", "row.")] := by
  decide +kernel

theorem edit_mem_reportedUsers :
    ("edit", "row.active && user.admin") ∈ reportedUsers.actionEntries .condition := by
  simp [actionEntries_reportedUsers]

theorem delete_mem_reportedUsers :
    ("delete", "row.") ∈ reportedUsers.actionEntries .condition := by
  simp [actionEntries_reportedUsers]

/-- What the condition with the user compiles to. -/
def activeAndAdmin : Expression :=
  .logical .and (.member (.identifier "row") "active" false)
    (.member (.identifier "user") "admin" false)

theorem compile_reportedUsers :
    Expression.compile (Condition.source "row.active && user.admin") = .ok activeAndAdmin ∧
      Expression.compile (Condition.source "row.") =
        .error (.unexpectedEnd "property name") := by
  decide +kernel

theorem flagsCondition_reportedUsers : reportedUsers.FlagsCondition "UIT-W008" "edit" ∧
    reportedUsers.FlagsCondition "UIT-E002" "delete" := by
  rw [flagsCondition_iff edit_mem_reportedUsers, flagsCondition_iff delete_mem_reportedUsers]
  have hforeign : conditionProblems "edit" "row.active && user.admin" =
      [.foreignNames "edit" ["user"]] := by
    rw [conditionProblems, compile_reportedUsers.1]
    rfl
  have hbroken : conditionProblems "delete" "row." =
      [.brokenCondition "delete" (.unexpectedEnd "property name")] := by
    rw [conditionProblems, compile_reportedUsers.2]
  rw [hforeign, hbroken]
  exact ⟨⟨_, List.mem_singleton_self _, rfl⟩, ⟨_, List.mem_singleton_self _, rfl⟩⟩

/-- A scope with a user beside an active row. -/
def administeredRow : Scope :=
  .ofList [("row", .object [("active", .bool true)]), ("user", .object [("admin", .bool true)])]

/-- The broken condition holds without a row. The other one holds of a row that is active, as it is
true there if the user is an administrator. -/
theorem holds_of_flagged_reportedUsers :
    Condition.holds "row." none = true ∧
      Condition.holds "row.active && user.admin"
        (some (.object [("active", .bool true)])) = true := by
  constructor
  · exact (holds_of_flagged reportedUsers "delete" "row." delete_mem_reportedUsers).1
      flagsCondition_reportedUsers.2 none
  · obtain ⟨e, hcompile, -, hholds⟩ :=
      (holds_of_flagged reportedUsers "edit" "row.active && user.admin" edit_mem_reportedUsers).2
        flagsCondition_reportedUsers.1
    apply (hholds _).mpr
    intro hfalse
    cases compile_reportedUsers.1.symm.trans hcompile
    have htrue : activeAndAdmin.test administeredRow = .ok true := rfl
    cases (hfalse administeredRow rfl).symm.trans htrue

/-- A condition that is reported to read other names need not hold: of a row that is not active the
condition is false before it comes to the user. -/
theorem flagged_condition_may_not_hold :
    ¬ ∀ (config : ModelConfig) (button condition : String) (row : Option Json),
      (button, condition) ∈ config.actionEntries .condition →
      config.FlagsCondition "UIT-E002" button ∨ config.FlagsCondition "UIT-W008" button →
      Condition.holds condition row = true := by
  intro h
  have hholds := h reportedUsers "edit" "row.active && user.admin"
    (some (.object [("active", .bool false)])) edit_mem_reportedUsers
    (.inr flagsCondition_reportedUsers.1)
  have hfalse : Condition.holds "row.active && user.admin"
      (some (.object [("active", .bool false)])) = false := by
    apply Condition.holds_eq_false_iff_test.mpr
    exact ⟨by rfl, activeAndAdmin, compile_reportedUsers.1, rfl⟩
  exact Bool.false_ne_true (hfalse.symm.trans hholds)

end ModelConfig

end FieldTags
