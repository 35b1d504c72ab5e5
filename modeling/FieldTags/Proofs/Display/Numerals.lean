import FieldTags.Proofs.Display.Formatting
import FieldTags.Proofs.Number.Integers
import FieldTags.Proofs.Number.PlainText
import FieldTags.Proofs.Text.Splitting

/-!
# Numerals

A number with a fixed count of decimals is written in digits, with a point in front of the decimals
if there are any and a minus sign in front of all. Commas then stand before every group of three
digits of the whole part. So the formatter of amounts shows a numeral or the placeholder, whatever
the value is. The one of percentages multiplies by a hundred after it has seen that the number is
finite; it shows a numeral or the placeholder as long as the product is finite too, and otherwise the
word for infinity.
-/

namespace FieldTags

/-! ## Forms of numerals -/

/-- One digit or more. -/
def IsDigits (cs : List Char) : Prop :=
  cs ≠ [] ∧ ∀ c ∈ cs, c.isDigit = true

/-- Digits in groups of three, of which the first may be shorter, with commas between the groups. -/
def IsGrouped (cs : List Char) : Prop :=
  ∃ first groups, IsDigits first ∧ first.length ≤ 3 ∧
    (∀ group ∈ groups, IsDigits group ∧ group.length = 3) ∧
      cs = Text.joinWith [','] (first :: groups)

/-- A point and digits, or nothing. -/
def IsFraction (cs : List Char) : Prop :=
  cs = [] ∨ ∃ decimals, IsDigits decimals ∧ cs = '.' :: decimals

/-- A whole part of a given form, which a minus sign may precede and a fraction may follow. -/
def IsNumeral (IsWhole : List Char → Prop) (cs : List Char) : Prop :=
  ∃ sign whole fraction, (sign = [] ∨ sign = ['-']) ∧ IsWhole whole ∧ IsFraction fraction ∧
    cs = sign ++ whole ++ fraction

/-- A numeral with a percent sign behind it. -/
def IsPercentage (cs : List Char) : Prop :=
  ∃ number, IsNumeral IsDigits number ∧ cs = number ++ ['%']

theorem IsNumeral.ne_nil {IsWhole : List Char → Prop} (hwhole : ¬ IsWhole []) {cs : List Char}
    (h : IsNumeral IsWhole cs) : cs ≠ [] := by
  obtain ⟨sign, whole, fraction, -, hw, -, rfl⟩ := h
  intro hnil
  rw [List.append_eq_nil_iff, List.append_eq_nil_iff] at hnil
  exact hwhole (hnil.1.2 ▸ hw)

theorem IsGrouped.ne_nil {cs : List Char} (h : IsGrouped cs) : cs ≠ [] := by
  obtain ⟨first, groups, hfirst, -, -, rfl⟩ := h
  cases groups with
  | nil => exact hfirst.1
  | cons group groups =>
    rw [Text.joinWith_cons_cons]
    exact List.append_ne_nil_of_left_ne_nil hfirst.1 _

/-- No letter is part of a numeral. -/
theorem IsNumeral.isPlain_or_eq_minus {cs : List Char} (h : IsNumeral IsDigits cs) {c : Char}
    (hc : c ∈ cs) : Literal.isPlain c = true ∨ c = '-' := by
  have hdigit (hc : c.isDigit = true) : Literal.isPlain c = true := by
    rw [Literal.isPlain, hc, Bool.true_or]
  obtain ⟨sign, whole, fraction, hsign, hwhole, hfraction, rfl⟩ := h
  rw [List.mem_append, List.mem_append] at hc
  rcases hc with (hc | hc) | hc
  · rcases hsign with rfl | rfl
    · cases hc
    · exact .inr (List.mem_singleton.mp hc)
  · exact .inl (hdigit (hwhole.2 c hc))
  · rcases hfraction with rfl | ⟨decimals, hdecimals, rfl⟩
    · cases hc
    · rcases List.mem_cons.mp hc with rfl | hc
      · exact .inl rfl
      · exact .inl (hdigit (hdecimals.2 c hc))

/-! ## Numbers with a fixed count of decimals -/

namespace Binary64

/-- The digits of a number with a point in front of its last ones. -/
theorem placedChars_eq (places n : Nat) :
    ∃ whole decimals, IsDigits whole ∧ (∀ c ∈ decimals, c.isDigit = true) ∧
      decimals.length = places ∧
        placedChars places n = whole ++ if places = 0 then [] else '.' :: decimals := by
  obtain ⟨padded, hpadded⟩ : ∃ padded, padded =
      List.replicate (places + 1 - (Nat.toDigits 10 n).length) '0' ++ Nat.toDigits 10 n := ⟨_, rfl⟩
  have hlength : places + 1 ≤ padded.length := by
    rw [hpadded, List.length_append, List.length_replicate]
    omega
  have hdigits (c : Char) (hc : c ∈ padded) : c.isDigit = true := by
    rw [hpadded, List.mem_append] at hc
    exact NumberLayout.isDigit_of_mem hc.symm
  have htext : placedChars places n =
      if places = 0 then padded
      else padded.take (padded.length - places) ++ '.' :: padded.drop (padded.length - places) := by
    rw [hpadded]
    rfl
  refine ⟨padded.take (padded.length - places), padded.drop (padded.length - places), ⟨?_, ?_⟩, ?_,
    ?_, ?_⟩
  · rw [← List.length_pos_iff, List.length_take]
    omega
  · exact fun c hc ↦ hdigits c (List.mem_of_mem_take hc)
  · exact fun c hc ↦ hdigits c (List.mem_of_mem_drop hc)
  · rw [List.length_drop]
    omega
  · rw [htext]
    split_ifs with hplaces
    · rw [hplaces, Nat.sub_zero, List.take_length, List.append_nil]
    · rfl

/-- The digits of a number with a point in front of its last ones are a whole part and a fraction. -/
theorem exists_placedChars (places n : Nat) :
    ∃ whole fraction, IsDigits whole ∧ IsFraction fraction ∧
      placedChars places n = whole ++ fraction := by
  obtain ⟨whole, decimals, hwhole, hdecimals, hlength, htext⟩ := placedChars_eq places n
  refine ⟨whole, _, hwhole, ?_, htext⟩
  split_ifs with hplaces
  · exact .inl rfl
  · refine .inr ⟨decimals, ⟨?_, hdecimals⟩, rfl⟩
    rw [← List.length_pos_iff]
    omega

theorem toList_fixedText {negative : Bool} {rank : Nat} (hrank : rank ≤ infinityRank)
    (hlt : rank < infinityRank) (places : Nat) :
    ((signed negative rank hrank).fixedText places).toList =
      (if negative then ['-'] else []) ++
        placedChars places (roundHalfEven (grains rank * tenPow places) grainsInOne) := by
  rw [fixedText, if_neg (Nat.ne_of_lt hlt), String.toList_ofList]
  cases negative <;> rfl

/-- A finite number with a fixed count of decimals is a numeral. -/
theorem isNumeral_fixedText {x : Binary64} (h : x.isFinite = true) (places : Nat) :
    IsNumeral IsDigits (x.fixedText places).toList := by
  cases x with
  | nan => cases h
  | signed negative rank hrank =>
    obtain ⟨whole, fraction, hwhole, hfraction, htext⟩ := exists_placedChars places
      (roundHalfEven (grains rank * tenPow places) grainsInOne)
    refine ⟨if negative then ['-'] else [], whole, fraction, ?_, hwhole, hfraction, ?_⟩
    · cases negative
      · exact .inl rfl
      · exact .inr rfl
    · rw [toList_fixedText hrank (of_decide_eq_true h), htext, List.append_assoc]

end Binary64

/-! ## Groups of digits -/

/-- Digits with commas are groups of three digits behind one of at most three. -/
theorem exists_groupDigits {digits : List Char} (hne : digits ≠ []) :
    ∃ first groups, first ≠ [] ∧ first.length ≤ 3 ∧ (∀ group ∈ groups, group.length = 3) ∧
      first ++ groups.flatten = digits ∧
        groupDigits digits = Text.joinWith [','] (first :: groups) := by
  induction digits with
  | nil => exact absurd rfl hne
  | cons digit rest ih =>
    by_cases hrest : rest = []
    · subst hrest
      exact ⟨[digit], [], List.cons_ne_nil _ _, by simp, nofun, rfl, rfl⟩
    · obtain ⟨first, groups, hfirst, hlength, hgroups, hflatten, htext⟩ := ih hrest
      have htotal : rest.length = first.length + 3 * groups.length := by
        have hsum : groups.flatten.length = 3 * groups.length := by
          rw [List.length_flatten, List.map_congr_left hgroups, List.map_const',
            List.sum_replicate_nat, Nat.mul_comm]
        rw [← hflatten, List.length_append, hsum]
      have hpos : 0 < first.length := List.length_pos_iff.mpr hfirst
      by_cases hfull : rest.length % 3 = 0
      · -- The group behind the digit is full, so that the digit starts another one.
        refine ⟨[digit], first :: groups, List.cons_ne_nil _ _, by simp, ?_, ?_, ?_⟩
        · intro group hgroup
          rcases List.mem_cons.mp hgroup with rfl | hgroup
          · omega
          · exact hgroups group hgroup
        · rw [List.flatten_cons, hflatten]
          rfl
        · rw [groupDigits, if_pos (by simp [hfull, hrest]), htext, Text.joinWith_cons_cons]
          rfl
      · refine ⟨digit :: first, groups, List.cons_ne_nil _ _, ?_, hgroups, ?_, ?_⟩
        · rw [List.length_cons]
          omega
        · rw [List.cons_append, hflatten]
        · rw [groupDigits, if_neg (by simp [hfull]), htext]
          cases groups with
          | nil => rfl
          | cons group groups =>
            rw [Text.joinWith_cons_cons, Text.joinWith_cons_cons, List.cons_append]

theorem isGrouped_groupDigits {digits : List Char} (h : IsDigits digits) :
    IsGrouped (groupDigits digits) := by
  obtain ⟨first, groups, hne, hlength, hgroups, hflatten, htext⟩ := exists_groupDigits h.1
  have hdigits (c : Char) (hc : c ∈ first ∨ ∃ group ∈ groups, c ∈ group) : c.isDigit = true := by
    apply h.2
    rw [← hflatten, List.mem_append, List.mem_flatten]
    exact hc
  refine ⟨first, groups, ⟨hne, fun c hc ↦ hdigits c (.inl hc)⟩, hlength, ?_, htext⟩
  intro group hgroup
  have hthree := hgroups group hgroup
  refine ⟨⟨?_, fun c hc ↦ hdigits c (.inr ⟨group, hgroup, hc⟩)⟩, hthree⟩
  rw [← List.length_pos_iff]
  omega

/-- Commas are put into the whole part of a numeral only. -/
theorem toList_groupedText (negative : Bool) {whole fraction : List Char} (hwhole : IsDigits whole)
    (hfraction : IsFraction fraction) :
    (groupedText negative (whole ++ fraction)).toList =
      (if negative then ['-'] else []) ++ groupDigits whole ++ fraction := by
  have hpass : ∀ c ∈ whole, decide (c ≠ '.') = true := by
    intro c hc
    refine decide_eq_true fun hpoint ↦ ?_
    have hdigit := hwhole.2 c hc
    rw [hpoint] at hdigit
    cases hdigit
  have hpoint : ∀ c ∈ fraction.head?, decide (c ≠ '.') = false := by
    rcases hfraction with rfl | ⟨decimals, -, rfl⟩
    · exact fun _ hc ↦ nomatch hc
    · intro c hc
      cases hc
      rfl
  rw [groupedText, Text.takeWhile_append_of_head? hpass hpoint,
    Text.dropWhile_append_of_head? hpass hpoint, String.toList_ofList]

/-! ## The formatters of numbers -/

theorem finiteNumber?_eq_some_iff {value : Json} {x : Binary64} :
    finiteNumber? value = some x ↔ value.toNumber? = some x ∧ x.isFinite = true := by
  rw [finiteNumber?, Option.filter_eq_some_iff]

/-- The hundredfold of the number that a value counts as is not finite, although the number is. -/
def Json.Overflows (value : Json) : Prop :=
  ∃ x, finiteNumber? value = some x ∧ (x.mul (.ofNat 100)).isFinite = false

theorem isFinite_mul_hundred_of_not_overflows {value : Json} {x : Binary64}
    (hx : finiteNumber? value = some x) (h : ¬ value.Overflows) :
    (x.mul (.ofNat 100)).isFinite = true := by
  by_contra hinfinite
  exact h ⟨x, hx, Bool.eq_false_iff.mpr hinfinite⟩

/-- A value that is blank counts as zero, if at all, of which the hundredfold is zero. -/
theorem Json.Overflows.isBlank {value : Json} (h : value.Overflows) :
    isBlank (some value) = false := by
  have hzero : ((Binary64.ofNat 0).mul (.ofNat 100)).isFinite = true := by decide +kernel
  obtain ⟨x, hx, hinfinite⟩ := h
  have hne : some x ≠ some (.ofNat 0) := by
    rintro ⟨⟩
    rw [hzero] at hinfinite
    cases hinfinite
  have hnumber := (finiteNumber?_eq_some_iff.mp hx).1
  cases value with
  | null => exact absurd hnumber.symm hne
  | string s =>
    refine decide_eq_false ?_
    rintro rfl
    exact absurd hnumber.symm hne
  | _ => rfl

/-- An amount is a numeral with groups of digits. -/
theorem exists_groupThousands {x : Binary64} (h : x.isFinite = true) {places : Nat}
    (hplaces : places ≤ 20) :
    ∃ text : String, IsNumeral IsGrouped text.toList ∧ groupThousands x places = .ok text := by
  cases x with
  | nan => cases h
  | signed negative rank hrank =>
    have hlt : rank < Binary64.infinityRank := of_decide_eq_true h
    obtain ⟨whole, fraction, hwhole, hfraction, htext⟩ := Binary64.exists_placedChars places
      (Binary64.roundHalfEven (Binary64.grains rank * tenPow places) Binary64.grainsInOne)
    obtain ⟨sign, hsign⟩ : ∃ sign, sign = Binary64.less (.signed negative rank hrank) (.ofNat 0) :=
      ⟨_, rfl⟩
    refine ⟨groupedText sign (whole ++ fraction), ?_, ?_⟩
    · refine ⟨if sign then ['-'] else [], groupDigits whole, fraction, ?_,
        isGrouped_groupDigits hwhole, hfraction, toList_groupedText sign hwhole hfraction⟩
      cases sign
      · exact .inl rfl
      · exact .inr rfl
    · rw [groupThousands, decimalText_of_le hplaces, ← hsign, Except.map, Binary64.abs,
        Binary64.toList_fixedText hrank hlt, htext]
      rfl

/-- A percentage is a numeral with a percent sign, if its number is finite. -/
theorem exists_percentText {x : Binary64} (h : (x.mul (.ofNat 100)).isFinite = true) {places : Nat}
    (hplaces : places ≤ 20) :
    ∃ text : String, IsPercentage text.toList ∧ percentText x places = .ok text := by
  refine ⟨(x.mul (.ofNat 100)).fixedText places ++ "%", ?_, ?_⟩
  · exact ⟨_, Binary64.isNumeral_fixedText h places, String.toList_append⟩
  · rw [percentText, decimalText_of_le hplaces]
    rfl

/-- A percentage whose number is not finite shows the word for infinity. -/
theorem percentText_of_not_isFinite {x : Binary64} (hfinite : x.isFinite = true)
    (h : (x.mul (.ofNat 100)).isFinite = false) {places : Nat} (hplaces : places ≤ 20) :
    percentText x places = .ok "inf%" ∨ percentText x places = .ok "-inf%" := by
  cases x with
  | nan => cases hfinite
  | signed negative rank hrank =>
    rw [Binary64.mul_ofNat (of_decide_eq_true hfinite) (by decide)] at h
    have hrank' : Binary64.nearestRank (Binary64.grains rank * 100) 1 = Binary64.infinityRank :=
      Nat.le_antisymm (Binary64.nearestRank_le _ _) (Nat.not_lt.mp (of_decide_eq_false h))
    rw [percentText, decimalText_of_le hplaces,
      Binary64.mul_ofNat (of_decide_eq_true hfinite) (by decide), Binary64.ofGrains,
      Binary64.fixedText, if_pos hrank']
    cases negative
    · exact .inl rfl
    · exact .inr rfl

namespace Formatter

/-- What is shown is the placeholder or a text of a given form. -/
def ShowsOnly (f : Formatter) (Form : List Char → Prop)
    (shown : Except FormatError DisplayValue) : Prop :=
  shown = .ok f.placeholder ∨ ∃ text : String, Form text.toList ∧ shown = .ok (.text text)

/-- A formatter of numbers shows texts of the form that it writes finite numbers in. -/
theorem showsOnly_of_finiteNumber (f : Formatter) {Form : List Char → Prop} (value : Json)
    {write : Binary64 → Except FormatError String}
    (h : ∀ x, finiteNumber? value = some x → ∃ text : String, Form text.toList ∧ write x = .ok text) :
    f.ShowsOnly Form
      (match finiteNumber? value with
        | some x => (write x).map .text
        | none => .ok f.placeholder) := by
  cases hx : finiteNumber? value with
  | none => exact .inl rfl
  | some x =>
    obtain ⟨text, hform, htext⟩ := h x hx
    refine .inr ⟨text, hform, ?_⟩
    dsimp only
    rw [htext]
    rfl

theorem formatBy_of_currency (f : Formatter) (value : Json) {spec : FormatterSpec}
    (h : spec.kind = .currency) : f.ShowsOnly (IsNumeral IsGrouped) (f.formatBy value spec) := by
  rw [formatBy, h]
  refine f.showsOnly_of_finiteNumber value fun x hx ↦ ?_
  exact exists_groupThousands (finiteNumber?_eq_some_iff.mp hx).2
    (decimalPlaces_le spec.params (by decide))

theorem formatBy_of_percent (f : Formatter) {value : Json} {spec : FormatterSpec}
    (h : spec.kind = .percent) (hfinite : ¬ value.Overflows) :
    f.ShowsOnly IsPercentage (f.formatBy value spec) := by
  rw [formatBy, h]
  refine f.showsOnly_of_finiteNumber value fun x hx ↦ ?_
  exact exists_percentText (isFinite_mul_hundred_of_not_overflows hx hfinite)
    (decimalPlaces_le spec.params (by decide))

theorem formatBy_of_overflows (f : Formatter) {value : Json} {spec : FormatterSpec}
    (h : spec.kind = .percent) (hoverflows : value.Overflows) :
    f.formatBy value spec = .ok (.text "inf%") ∨ f.formatBy value spec = .ok (.text "-inf%") := by
  obtain ⟨x, hx, hinfinite⟩ := hoverflows
  rw [formatBy, h]
  dsimp only
  rw [hx]
  dsimp only
  rcases percentText_of_not_isFinite (finiteNumber?_eq_some_iff.mp hx).2 hinfinite
      (decimalPlaces_le spec.params (by decide : 1 ≤ 20)) with htext | htext
  · rw [htext]
    exact .inl rfl
  · rw [htext]
    exact .inr rfl

/--
The formatter of amounts shows a numeral with groups of digits or the placeholder. The one of
percentages shows a numeral and a percent sign or the placeholder, unless the number of the value is
finite and its hundredfold is not; then it shows the word for infinity.
-/
theorem formatValue_numeral_unless_overflows (f : Formatter) (value : Option Json)
    {spec : Option String} {format : FormatterSpec}
    (hspec : spec.bind FormatterSpec.read? = some format) :
    (format.kind = .currency → f.ShowsOnly (IsNumeral IsGrouped) (f.formatValue value spec)) ∧
      (format.kind = .percent → (¬ ∃ data, value = some data ∧ data.Overflows) →
        f.ShowsOnly IsPercentage (f.formatValue value spec)) ∧
      (format.kind = .percent → (∃ data, value = some data ∧ data.Overflows) →
        f.formatValue value spec = .ok (.text "inf%") ∨
          f.formatValue value spec = .ok (.text "-inf%")) := by
  have hform {Form : List Char → Prop}
      (h : ∀ data, value = some data → f.ShowsOnly Form (f.formatBy data format)) :
      f.ShowsOnly Form (f.formatValue value spec) := by
    cases value with
    | none => exact .inl rfl
    | some data =>
      rw [formatValue, hspec]
      split_ifs with hblank
      · exact .inl rfl
      · exact h data rfl
  refine ⟨fun hkind ↦ hform fun data _ ↦ f.formatBy_of_currency data hkind, ?_, ?_⟩
  · intro hkind hfinite
    refine hform fun data hvalue ↦ f.formatBy_of_percent hkind fun hoverflows ↦ ?_
    exact hfinite ⟨data, hvalue, hoverflows⟩
  · rintro hkind ⟨data, rfl, hoverflows⟩
    rw [formatValue, if_neg (Bool.eq_false_iff.mp hoverflows.isBlank), hspec]
    exact f.formatBy_of_overflows hkind hoverflows

/-- An amount in a text and a share in an array are shown as numerals. -/
theorem formatValue_numeral_amount_share :
    (ofSettings .default).ShowsOnly (IsNumeral IsGrouped)
        ((ofSettings .default).formatValue (some (.string "-1234567.891")) (some "currency:3")) ∧
      (ofSettings .default).ShowsOnly IsPercentage
        ((ofSettings .default).formatValue (some (.array [.string " 0.256 "])) (some "percent")) := by
  have hamount : (some "currency:3").bind FormatterSpec.read? = some ⟨.currency, some "3"⟩ := by
    decide +kernel
  have hshare : (some "percent").bind FormatterSpec.read? = some ⟨.percent, none⟩ := by
    decide +kernel
  refine ⟨(formatValue_numeral_unless_overflows _ _ hamount).1 rfl, ?_⟩
  refine (formatValue_numeral_unless_overflows _ _ hshare).2.1 rfl ?_
  rintro ⟨data, hdata, x, hx, hinfinite⟩
  cases hdata
  have hfinite : ∀ x ∈ finiteNumber? (.array [.string " 0.256 "]),
      (x.mul (.ofNat 100)).isFinite = true := by
    decide +kernel
  rw [hfinite x hx] at hinfinite
  cases hinfinite

/-- The number `10 ^ 307`, which is finite, but of which the hundredfold is not. -/
def largeShare : Json :=
  .number (.float (Decimal.toBinary64 false ⟨1, 307⟩) (by decide +kernel))

/-- A large number is shown as infinity. -/
theorem not_forall_formatValue_percentage :
    ¬ ∀ (f : Formatter) (value : Option Json) (spec : Option String) (format : FormatterSpec),
      spec.bind FormatterSpec.read? = some format → format.kind = .percent →
        f.ShowsOnly IsPercentage (f.formatValue value spec) := by
  intro h
  have hshown : (ofSettings .default).formatValue (some largeShare) (some "percent") =
      .ok (.text "inf%") := by
    decide +kernel
  have honly := h (ofSettings .default) (some largeShare) (some "percent") ⟨.percent, none⟩
    (by decide +kernel) rfl
  rw [hshown] at honly
  rcases honly with hplaceholder | ⟨text, ⟨number, hnumeral, hnumber⟩, htext⟩
  · revert hplaceholder
    decide
  · cases htext
    have hletters : ['i', 'n', 'f'] ++ ['%'] = number ++ ['%'] := hnumber
    obtain rfl := List.append_cancel_right hletters
    have hletter := hnumeral.isPlain_or_eq_minus (c := 'i') List.mem_cons_self
    revert hletter
    decide

end Formatter

end FieldTags
