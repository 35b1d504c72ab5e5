import FieldTags.Proofs.Text.Trimming
import FieldTags.Text.Lowercase
import Mathlib.Data.List.Count
import Mathlib.Data.Nat.Bitwise
import Mathlib.Tactic.Common

/-!
# Lowercase text

Lowercase text is its own lowercase form. What the mapping puts in the place of another character is
a small letter or stands behind ASCII, is no blank and is mapped no further. So no separator of a tag
comes in or goes out, and a trimmed text stays trimmed.
-/

namespace FieldTags.Text

/-! ## The table -/

/-- The codes that lie as far behind `start` as the characters of a run lie behind its first one. -/
def runCodes (run : Nat × Nat × Nat × Nat) (start : Nat) : List Nat :=
  ((List.range (run.2.1 + 1 - run.1)).filter fun k ↦ k % run.2.2.1 == 0).map (start + ·)

/-- The codes of all characters that the table maps. -/
def sourceCodes : List Nat :=
  lowercaseRuns.flatMap fun run ↦ runCodes run run.1

/-- The codes of all their images. -/
def imageCodes : List Nat :=
  lowercaseRuns.flatMap fun run ↦ runCodes run run.2.2.2

/-- Whether a run of the table has the character of a code. -/
def InRun (code : Nat) (run : Nat × Nat × Nat × Nat) : Prop :=
  (run.1 ≤ code ∧ code ≤ run.2.1) ∧ (code - run.1) % run.2.2.1 = 0

theorem mem_runCodes_of_inRun {code : Nat} {run : Nat × Nat × Nat × Nat} (h : InRun code run)
    (start : Nat) : start + (code - run.1) ∈ runCodes run start := by
  refine List.mem_map.mpr ⟨code - run.1, List.mem_filter.mpr ⟨?_, beq_iff_eq.mpr h.2⟩, rfl⟩
  have hbounds := h.1
  exact List.mem_range.mpr (by omega)

theorem mem_sourceCodes {code : Nat} :
    code ∈ sourceCodes ↔ ∃ run ∈ lowercaseRuns, InRun code run := by
  rw [sourceCodes, List.mem_flatMap]
  constructor
  · rintro ⟨run, hrun, hcode⟩
    obtain ⟨k, hk, rfl⟩ := List.mem_map.mp hcode
    rw [List.mem_filter, List.mem_range, beq_iff_eq] at hk
    refine ⟨run, hrun, ⟨Nat.le_add_right _ _, by omega⟩, ?_⟩
    rw [Nat.add_sub_cancel_left]
    exact hk.2
  · rintro ⟨run, hrun, h⟩
    refine ⟨run, hrun, ?_⟩
    have hmem := mem_runCodes_of_inRun h run.1
    rwa [Nat.add_sub_cancel' h.1.1] at hmem

/-- The number that has the bits at the given places. -/
def bitsAt (places : List Nat) : Nat :=
  places.foldr (fun place bits ↦ bits ||| 1 <<< place) 0

theorem testBit_bitsAt {place : Nat} {places : List Nat} :
    (bitsAt places).testBit place = true ↔ place ∈ places := by
  induction places with
  | nil => simp [bitsAt]
  | cons first rest ih =>
    have hcons : bitsAt (first :: rest) = bitsAt rest ||| 1 <<< first := rfl
    rw [hcons, Nat.testBit_or, Bool.or_eq_true, ih, Nat.one_shiftLeft, Nat.testBit_two_pow,
      decide_eq_true_iff, List.mem_cons, or_comm, eq_comm]

/-- No image is mapped again. Comparing the two lists bit by bit spares comparing all their pairs. -/
theorem not_mem_sourceCodes_of_mem_imageCodes {code : Nat} (h : code ∈ imageCodes) :
    code ∉ sourceCodes := by
  have hapart : bitsAt sourceCodes &&& bitsAt imageCodes = 0 := by decide +kernel
  intro hsource
  have hbit : (bitsAt sourceCodes &&& bitsAt imageCodes).testBit code = true := by
    rw [Nat.testBit_and, testBit_bitsAt.mpr hsource, testBit_bitsAt.mpr h, Bool.and_self]
  rw [hapart, Nat.zero_testBit] at hbit
  exact Bool.false_ne_true hbit

/-- Ranges without images: all of ASCII but the small letters, `İ`, the capital sigma, the blanks
and the codes that no character has. -/
def imagelessRanges : List (Nat × Nat) :=
  [(0, 0x60), (0x7B, 0x85), (0xA0, 0xA0), (0x130, 0x130), (0x3A3, 0x3A3), (0x1680, 0x1680),
    (0x2000, 0x200A), (0x2028, 0x2029), (0x202F, 0x202F), (0x205F, 0x205F), (0x3000, 0x3000),
    (0xD800, 0xDFFF)]

/-- The images are codes of characters and lie in none of these ranges. -/
theorem mem_imageCodes {code : Nat} (h : code ∈ imageCodes) :
    code < 0x110000 ∧ ∀ range ∈ imagelessRanges, code < range.1 ∨ range.2 < code := by
  have hall : ∀ run ∈ lowercaseRuns, run.2.2.2 + (run.2.1 - run.1) < 0x110000 ∧
      ∀ range ∈ imagelessRanges,
        run.2.2.2 + (run.2.1 - run.1) < range.1 ∨ range.2 < run.2.2.2 := by
    decide +kernel
  obtain ⟨run, hrun, hcode⟩ := List.mem_flatMap.mp h
  obtain ⟨k, hk, rfl⟩ := List.mem_map.mp hcode
  have hle := List.mem_range.mp (List.mem_filter.mp hk).1
  obtain ⟨hlast, hranges⟩ := hall run hrun
  refine ⟨by omega, fun range hrange ↦ ?_⟩
  have hapart := hranges range hrange
  omega

/-! ## Characters -/

/-- The character is no capital: mapping it again changes nothing. -/
def IsSmall (c : Char) : Prop :=
  lowercaseChar c = c ∧ c.toNat ≠ 0x130 ∧ c.toNat ≠ 0x3A3

instance (c : Char) : Decidable (IsSmall c) :=
  inferInstanceAs (Decidable (_ ∧ _ ∧ _))

/-- A character that can stand in the place of another one: no blank and behind the capitals. -/
def IsImage (c : Char) : Prop :=
  0x60 < c.toNat ∧ isBlank c = false

instance (c : Char) : Decidable (IsImage c) :=
  inferInstanceAs (Decidable (_ ∧ _))

/-- In ASCII, a character stays as it is or becomes a small letter. -/
theorem toLower_of_lt {c : Char} (h : c.toNat < 0x80) :
    c.toLower = c ∨ 0x60 < c.toLower.toNat ∧ c.toLower.toNat < 0x7B := by
  have hall : ∀ code < 0x80, (Char.ofNat code).toLower = Char.ofNat code ∨
      0x60 < (Char.ofNat code).toLower.toNat ∧ (Char.ofNat code).toLower.toNat < 0x7B := by
    decide +kernel
  have hc := hall c.toNat h
  rwa [Char.ofNat_toNat] at hc

/-- What stands behind the capitals of ASCII and in ASCII is small. -/
theorem isSmall_of_lt {c : Char} (hlow : 0x60 < c.toNat) (h : c.toNat < 0x80) : IsSmall c := by
  refine ⟨?_, by omega, by omega⟩
  have hall : ∀ code < 0x80, 0x60 < code → lowercaseChar (Char.ofNat code) = Char.ofNat code := by
    decide +kernel
  have hc := hall c.toNat h hlow
  rwa [Char.ofNat_toNat] at hc

theorem isImage_of_lt {c : Char} (hlow : 0x60 < c.toNat) (h : c.toNat < 0x7B) : IsImage c := by
  refine ⟨hlow, ?_⟩
  simp only [isBlank, Bool.or_eq_false_iff, Bool.and_eq_false_iff, decide_eq_false_iff_not,
    beq_eq_false_iff_ne]
  omega

/-- Behind ASCII, a character is mapped to an image or is not in the table and stays as it is. -/
theorem lowercaseChar_of_le {c : Char} (h : 0x80 ≤ c.toNat) :
    lowercaseChar c = c ∧ c.toNat ∉ sourceCodes ∨
      c.toNat ∈ sourceCodes ∧ ∃ code ∈ imageCodes, lowercaseChar c = Char.ofNat code := by
  unfold lowercaseChar
  dsimp only
  rw [if_neg (Nat.not_lt.mpr h), mem_sourceCodes]
  split
  next first last step image hfind =>
    right
    have hrun := List.mem_of_find?_eq_some hfind
    have hin : InRun c.toNat (first, last, step, image) := by
      simpa [InRun] using List.find?_some hfind
    exact ⟨⟨_, hrun, hin⟩, _, List.mem_flatMap.mpr ⟨_, hrun, mem_runCodes_of_inRun hin image⟩, rfl⟩
  next hfind =>
    refine .inl ⟨rfl, ?_⟩
    rintro ⟨run, hrun, hin⟩
    have hmiss := List.find?_eq_none.mp hfind run hrun
    simp only [Bool.and_eq_true, decide_eq_true_iff, beq_iff_eq] at hmiss
    exact hmiss hin

/-- An image is a character of its own code, and it is none of those with a rule of their own. -/
theorem toNat_ofNat_image {code : Nat} (h : code ∈ imageCodes) :
    (Char.ofNat code).toNat = code := by
  obtain ⟨hlt, hranges⟩ := mem_imageCodes h
  have hsurrogate : code < 0xD800 ∨ 0xDFFF < code := hranges (0xD800, 0xDFFF) (by decide)
  have hvalid : code.isValidChar := hsurrogate.imp_right fun hbehind ↦ ⟨hbehind, hlt⟩
  rw [Char.ofNat, dif_pos hvalid]
  rfl

theorem isImage_ofNat {code : Nat} (h : code ∈ imageCodes) : IsImage (Char.ofNat code) := by
  have hranges := (mem_imageCodes h).2
  simp only [imagelessRanges, List.forall_mem_cons, List.not_mem_nil, false_implies,
    implies_true, and_true] at hranges
  rw [IsImage, toNat_ofNat_image h, isBlank, toNat_ofNat_image h]
  simp only [Bool.or_eq_false_iff, Bool.and_eq_false_iff, decide_eq_false_iff_not,
    beq_eq_false_iff_ne]
  omega

theorem isSmall_ofNat {code : Nat} (h : code ∈ imageCodes) : IsSmall (Char.ofNat code) := by
  have hranges := (mem_imageCodes h).2
  simp only [imagelessRanges, List.forall_mem_cons, List.not_mem_nil, false_implies,
    implies_true, and_true] at hranges
  have hcode := toNat_ofNat_image h
  by_cases hascii : code < 0x80
  · exact isSmall_of_lt (by omega) (by omega)
  · refine ⟨?_, by omega, by omega⟩
    rcases lowercaseChar_of_le (c := Char.ofNat code) (by omega) with hself | ⟨hsource, -⟩
    · exact hself.1
    · rw [hcode] at hsource
      exact absurd hsource (not_mem_sourceCodes_of_mem_imageCodes h)

/-- A character without a rule of its own is mapped to one that is mapped no further, and this is
the character itself or an image. -/
theorem lowercaseChar_cases {c : Char} (hdot : c.toNat ≠ 0x130) (hsigma : c.toNat ≠ 0x3A3) :
    IsSmall (lowercaseChar c) ∧ (lowercaseChar c = c ∨ IsImage (lowercaseChar c)) := by
  by_cases hascii : c.toNat < 0x80
  · have hlower : lowercaseChar c = c.toLower := if_pos hascii
    rcases toLower_of_lt hascii with hself | ⟨hlow, hhigh⟩
    · rw [hself] at hlower
      exact ⟨⟨hlower.symm ▸ hlower, by rwa [hlower], by rwa [hlower]⟩, .inl hlower⟩
    · rw [hlower]
      exact ⟨isSmall_of_lt hlow (by omega), .inr (isImage_of_lt hlow hhigh)⟩
  · rcases lowercaseChar_of_le (Nat.not_lt.mp hascii) with ⟨hself, -⟩ | ⟨-, code, hcode, himage⟩
    · exact ⟨⟨hself.symm ▸ hself, by rwa [hself], by rwa [hself]⟩, .inl hself⟩
    · rw [himage]
      exact ⟨isSmall_ofNat hcode, .inr (isImage_ofNat hcode)⟩

/-! ## Texts -/

/-- What stands in the place of a character between the characters in front of it, nearest first,
and the characters behind it. -/
def lowercaseImage (before : List Char) (c : Char) (rest : List Char) : List Char :=
  if c.toNat = 0x130 then ['i', Char.ofNat 0x307]
  else if c.toNat = 0x3A3 then
    [Char.ofNat (if meetsCased before && !meetsCased rest then 0x3C2 else 0x3C3)]
  else [lowercaseChar c]

theorem lowercaseAfter_cons (before : List Char) (c : Char) (rest : List Char) :
    lowercaseAfter before (c :: rest) =
      lowercaseImage before c rest ++ lowercaseAfter (c :: before) rest := rfl

theorem lowercaseImage_ne_nil (before : List Char) (c : Char) (rest : List Char) :
    lowercaseImage before c rest ≠ [] := by
  unfold lowercaseImage
  split_ifs <;> exact List.cons_ne_nil _ _

/-- In the place of a character stand itself or images, all of which are mapped no further. -/
theorem mem_lowercaseImage {before rest : List Char} {c d : Char}
    (h : d ∈ lowercaseImage before c rest) : IsSmall d ∧ (d = c ∨ IsImage d) := by
  have hspecial : ∀ code ∈ [0x69, 0x307, 0x3C2, 0x3C3],
      IsSmall (Char.ofNat code) ∧ IsImage (Char.ofNat code) := by
    decide +kernel
  unfold lowercaseImage at h
  by_cases hdot : c.toNat = 0x130
  · rw [if_pos hdot] at h
    rcases List.mem_cons.mp h with rfl | h
    · exact (hspecial 0x69 (by decide)).imp_right .inr
    · obtain rfl := List.mem_singleton.mp h
      exact (hspecial 0x307 (by decide)).imp_right .inr
  · rw [if_neg hdot] at h
    by_cases hsigma : c.toNat = 0x3A3
    · rw [if_pos hsigma] at h
      obtain rfl := List.mem_singleton.mp h
      split_ifs
      · exact (hspecial 0x3C2 (by decide)).imp_right .inr
      · exact (hspecial 0x3C3 (by decide)).imp_right .inr
    · rw [if_neg hsigma] at h
      obtain rfl := List.mem_singleton.mp h
      exact lowercaseChar_cases hdot hsigma

theorem mem_lowercaseAfter {before cs : List Char} {d : Char} (h : d ∈ lowercaseAfter before cs) :
    IsSmall d ∧ (d ∈ cs ∨ IsImage d) := by
  induction cs generalizing before with
  | nil => exact absurd h List.not_mem_nil
  | cons c rest ih =>
    rw [lowercaseAfter_cons] at h
    rcases List.mem_append.mp h with himage | hrest
    · refine (mem_lowercaseImage himage).imp_right (Or.imp_left ?_)
      rintro rfl
      exact List.mem_cons_self
    · exact (ih hrest).imp_right (Or.imp_left (List.mem_cons_of_mem c))

theorem lowercaseAfter_of_isSmall {before cs : List Char} (h : ∀ c ∈ cs, IsSmall c) :
    lowercaseAfter before cs = cs := by
  induction cs generalizing before with
  | nil => rfl
  | cons c rest ih =>
    obtain ⟨hself, hdot, hsigma⟩ := h c List.mem_cons_self
    rw [lowercaseAfter_cons, lowercaseImage, if_neg hdot, if_neg hsigma, hself,
      ih fun d hd ↦ h d (List.mem_cons_of_mem c hd), List.singleton_append]

/-- Lowercase text is its own lowercase form. -/
theorem lowercase_lowercase (s : String) : lowercase (lowercase s) = lowercase s := by
  rw [lowercase, lowercase, String.toList_ofList,
    lowercaseAfter_of_isSmall fun c hc ↦ (mem_lowercaseAfter hc).1]

/-- A character in front of the small letters of ASCII that is no capital is mapped from itself
only, so the text has it as often as before. -/
theorem count_lowercaseAfter {separator : Char} (hlow : separator.toNat ≤ 0x60)
    (hself : lowercaseChar separator = separator) (before cs : List Char) :
    (lowercaseAfter before cs).count separator = cs.count separator := by
  induction cs generalizing before with
  | nil => rfl
  | cons c rest ih =>
    have himage : (lowercaseImage before c rest).count separator = [c].count separator := by
      by_cases hc : c = separator
      · subst hc
        rw [lowercaseImage, if_neg (by omega), if_neg (by omega), hself]
      · rw [List.count_eq_zero.mpr, List.count_eq_zero.mpr]
        · exact fun hmem ↦ hc (List.mem_singleton.mp hmem).symm
        · intro hmem
          rcases (mem_lowercaseImage hmem).2 with rfl | hbehind
          · exact hc rfl
          · have := hbehind.1
            omega
    rw [lowercaseAfter_cons, List.count_append, himage, ih, ← List.count_append,
      List.singleton_append]

theorem lowercaseAfter_ne_nil {before cs : List Char} (h : cs ≠ []) :
    lowercaseAfter before cs ≠ [] := by
  obtain ⟨c, rest, rfl⟩ := List.exists_cons_of_ne_nil h
  rw [lowercaseAfter_cons]
  exact List.append_ne_nil_of_left_ne_nil (lowercaseImage_ne_nil _ _ _) _

/-- A trimmed text stays trimmed. -/
theorem trimChars_lowercaseAfter {before cs : List Char} (h : trimChars cs = cs) :
    trimChars (lowercaseAfter before cs) = lowercaseAfter before cs := by
  have himage {before rest : List Char} {c d : Char} (hc : isBlank c = false)
      (hd : d ∈ lowercaseImage before c rest) : isBlank d = false := by
    rcases (mem_lowercaseImage hd).2 with rfl | hbehind
    · exact hc
    · exact hbehind.2
  rw [trimChars_eq_self_iff] at h ⊢
  obtain ⟨hfirst, hlast⟩ := h
  constructor
  · cases cs with
    | nil => exact nofun
    | cons c rest =>
      rw [lowercaseAfter_cons, List.head?_append_of_ne_nil _ (lowercaseImage_ne_nil _ _ _)]
      exact fun d hd ↦ himage (hfirst c rfl) (List.mem_of_head? hd)
  · clear hfirst
    induction cs generalizing before with
    | nil => exact nofun
    | cons c rest ih =>
      rw [lowercaseAfter_cons]
      by_cases hrest : rest = []
      · subst hrest
        rw [lowercaseAfter, List.append_nil]
        exact fun d hd ↦ himage (hlast c rfl) (List.mem_of_getLast? hd)
      · rw [List.getLast?_append_of_ne_nil _ (lowercaseAfter_ne_nil hrest)]
        refine ih fun last hmem ↦ hlast last ?_
        obtain ⟨d, more, rfl⟩ := List.exists_cons_of_ne_nil hrest
        rwa [List.getLast?_cons_cons]

end FieldTags.Text
