import FieldTags.Proofs.Display.Numerals

/-!
# Commas between thousands

A finite number with commas between its thousands is the fixed text of its magnitude with a minus
sign in front if the number is negative, once the commas are taken away. The commas stand in the whole part
only, which they cut into groups of three digits behind a first one of at most three. This holds for
every count of decimals for which there is a fixed text.
-/

namespace FieldTags

/-- A point and a given count of digits, or nothing if the count is zero. -/
def IsDecimals (places : Nat) (cs : List Char) : Prop :=
  if places = 0 then cs = []
  else ∃ decimals, IsDigits decimals ∧ decimals.length = places ∧ cs = '.' :: decimals

theorem IsDecimals.isFraction {places : Nat} {cs : List Char} (h : IsDecimals places cs) :
    IsFraction cs := by
  rw [IsDecimals] at h
  split_ifs at h with hplaces
  · exact .inl h
  · obtain ⟨decimals, hdigits, -, hcs⟩ := h
    exact .inr ⟨decimals, hdigits, hcs⟩

/-! ## Taking commas away -/

def withoutCommas (cs : List Char) : List Char :=
  cs.filter (· ≠ ',')

theorem withoutCommas_of_forall {cs : List Char} (h : ∀ c ∈ cs, c ≠ ',') : withoutCommas cs = cs :=
  List.filter_eq_self.mpr fun c hc ↦ decide_eq_true (h c hc)

theorem withoutCommas_append (cs more : List Char) :
    withoutCommas (cs ++ more) = withoutCommas cs ++ withoutCommas more :=
  List.filter_append ..

theorem ne_comma_of_isDigit {c : Char} (h : c.isDigit = true) : c ≠ ',' := by
  intro hc
  rw [hc] at h
  cases h

theorem IsDigits.withoutCommas {digits : List Char} (h : IsDigits digits) :
    withoutCommas digits = digits :=
  withoutCommas_of_forall fun c hc ↦ ne_comma_of_isDigit (h.2 c hc)

/-- Grouping digits only puts commas in. -/
theorem withoutCommas_groupDigits (digits : List Char) :
    withoutCommas (groupDigits digits) = withoutCommas digits := by
  induction digits with
  | nil => rfl
  | cons digit rest ih =>
    have hcons (more : List Char) : withoutCommas (digit :: more) =
        withoutCommas [digit] ++ withoutCommas more :=
      withoutCommas_append [digit] more
    rw [groupDigits]
    split_ifs
    · rw [hcons, hcons rest, ← ih]
      rfl
    · rw [hcons, hcons rest, ih]

theorem IsFraction.withoutCommas {cs : List Char} (h : IsFraction cs) : withoutCommas cs = cs := by
  apply withoutCommas_of_forall
  intro c hc
  rcases h with rfl | ⟨decimals, hdecimals, rfl⟩
  · cases hc
  · rcases List.mem_cons.mp hc with rfl | hc
    · decide
    · exact ne_comma_of_isDigit (hdecimals.2 c hc)

/-! ## Numbers with commas -/

/-- The minus sign of a number that is less than zero. -/
def minusSign (x : Binary64) : List Char :=
  if x.less (.ofNat 0) then ['-'] else []

theorem withoutCommas_minusSign (x : Binary64) : withoutCommas (minusSign x) = minusSign x := by
  rw [minusSign]
  split_ifs <;> rfl

/-- The magnitude of a finite number with a count of decimals is written in digits, with a point in
front of so many of them. -/
theorem Binary64.exists_fixedText_abs {x : Binary64} (h : x.isFinite = true) (places : Nat) :
    ∃ whole fraction, IsDigits whole ∧ IsDecimals places fraction ∧
      (x.abs.fixedText places).toList = whole ++ fraction := by
  cases x with
  | nan => cases h
  | signed negative rank hrank =>
    obtain ⟨whole, decimals, hwhole, hdecimals, hlength, htext⟩ := placedChars_eq places
      (roundHalfEven (grains rank * tenPow places) grainsInOne)
    refine ⟨whole, if places = 0 then [] else '.' :: decimals, hwhole, ?_, ?_⟩
    · rw [IsDecimals]
      split_ifs with hplaces
      · rfl
      · refine ⟨decimals, ⟨?_, hdecimals⟩, hlength, rfl⟩
        rw [← List.length_pos_iff]
        omega
    · rw [abs, toList_fixedText hrank (of_decide_eq_true h), htext]
      rfl

/-- A text shows a number with a count of decimals and with commas between the thousands. -/
structure IsGroupedText (x : Binary64) (places : Nat) (cs : List Char) : Prop where
  /-- Without its commas, it is the fixed text of the magnitude behind the minus sign. -/
  withoutCommas_eq : withoutCommas cs = minusSign x ++ (x.abs.fixedText places).toList
  /-- Commas stand in the whole part, and there between groups of three digits. -/
  exists_groups : ∃ whole fraction, IsGrouped whole ∧ IsDecimals places fraction ∧
    cs = minusSign x ++ whole ++ fraction

theorem isGroupedText_groupedText {x : Binary64} (h : x.isFinite = true) (places : Nat) :
    IsGroupedText x places
      (groupedText (x.less (.ofNat 0)) (x.abs.fixedText places).toList).toList := by
  obtain ⟨whole, fraction, hwhole, hfraction, htext⟩ := Binary64.exists_fixedText_abs h places
  have hgrouped : (groupedText (x.less (.ofNat 0)) (x.abs.fixedText places).toList).toList =
      minusSign x ++ groupDigits whole ++ fraction := by
    rw [htext, toList_groupedText _ hwhole hfraction.isFraction, minusSign]
  constructor
  · calc withoutCommas (groupedText (x.less (.ofNat 0)) (x.abs.fixedText places).toList).toList
        = withoutCommas (minusSign x) ++ withoutCommas (groupDigits whole) ++
            withoutCommas fraction := by rw [hgrouped, withoutCommas_append, withoutCommas_append]
      _ = minusSign x ++ whole ++ fraction := by
        rw [withoutCommas_minusSign, withoutCommas_groupDigits, hwhole.withoutCommas,
          hfraction.isFraction.withoutCommas]
      _ = minusSign x ++ (x.abs.fixedText places).toList := by rw [htext, List.append_assoc]
  · exact ⟨groupDigits whole, fraction, isGrouped_groupDigits hwhole, hfraction, hgrouped⟩

/-- A finite number is shown with commas between its thousands and with every count of decimals for
which there is a fixed text of its magnitude. -/
theorem groupThousands_isGroupedText {x : Binary64} (h : x.isFinite = true) {places : Nat}
    (hfixed : ∃ fixed, decimalText x.abs places = .ok fixed) :
    ∃ text : String, groupThousands x places = .ok text ∧ IsGroupedText x places text.toList := by
  have htext : decimalText x.abs places = .ok (x.abs.fixedText places) := by
    obtain ⟨fixed, hfixed⟩ := hfixed
    rw [decimalText] at hfixed ⊢
    split_ifs at hfixed ⊢
    rfl
  rw [groupThousands, htext]
  exact ⟨_, rfl, isGroupedText_groupedText h places⟩

/-- A negative number of seven digits before the point and one behind it. -/
def negativeMillions : Binary64 :=
  Decimal.toBinary64 true ⟨12345675, -1⟩

/-- It is rounded where it is shown without decimals. -/
theorem groupThousands_negativeMillions :
    (∃ text : String, groupThousands negativeMillions 0 = .ok text ∧
      IsGroupedText negativeMillions 0 text.toList) ∧
      groupThousands negativeMillions 0 = .ok "-1,234,568" :=
  ⟨groupThousands_isGroupedText (by decide +kernel) ⟨_, rfl⟩, by decide +kernel⟩

end FieldTags
