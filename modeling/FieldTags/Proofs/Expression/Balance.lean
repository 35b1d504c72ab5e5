import FieldTags.Proofs.Expression.Recognition
import FieldTags.Proofs.Expression.Traces

/-!
# Progress and balance of the readers

A reader of a phrase that succeeds has taken at least one token and is back at the depth at which it
began. While it runs, and also where it fails, the depth is never below the one that it began at and
never more than one level above the limit. The depth also bounds the calls: from one level to the
next at most five readers call each other, and a reader that would go beyond the last level fails. So
reading ends for all tokens, and the fuel that is needed depends on the depth only.
-/

namespace FieldTags

namespace Parser

open Traced (step)

variable {α β : Type}

/-! ## Runs within bounds -/

/-- The depth is not below the given one and at most one level above the limit. -/
def Within (low : Nat) (s : ParserState) : Prop :=
  low ≤ s.depth ∧ s.depth ≤ maxDepth + 1

/-- A run that is completed, goes through states within the bounds only, and ends in a result with
`success` or in an error. -/
structure Stays (low : Nat) (x : Traced α) (s : ParserState) (success : α → ParserState → Prop) :
    Prop where
  completes : x.completes s = true
  within : ∀ t ∈ x.states s, Within low t
  ends : Ensures x.parser s success fun _ s' ↦ Within low s'

/-- A run that stays within the bounds and gives its levels back. -/
def Balanced (x : Traced Expression) (s : ParserState) : Prop :=
  Stays s.depth x s fun _ s' ↦ s'.depth = s.depth

/-- Whether it has a result or not, a parser leaves the depth as it is. -/
def KeepsDepth (m : Parser α) : Prop :=
  ∀ s, Ensures m s (fun _ s' ↦ s'.depth = s.depth) fun _ s' ↦ s'.depth = s.depth

section KeepsDepth

theorem keepsDepth_throw (e : ExpressionError) : KeepsDepth (throw e : Parser α) :=
  fun _ ↦ rfl

theorem keepsDepth_skip : KeepsDepth skip :=
  fun _ ↦ rfl

theorem keepsDepth_next? : KeepsDepth next? :=
  fun _ ↦ rfl

theorem keepsDepth_peek : KeepsDepth peek :=
  fun _ ↦ ensures_peek.mpr rfl

theorem keepsDepth_eat (p : Punctuator) : KeepsDepth (eat p) := by
  intro s
  rw [ensures_eat]
  split <;> rfl

theorem keepsDepth_expect (p : Punctuator) : KeepsDepth (expect p) := by
  intro s
  rw [ensures_expect]
  split <;> rfl

theorem keepsDepth_propertyName : KeepsDepth propertyName := by
  intro s
  rw [ensures_propertyName]
  split <;> rfl

end KeepsDepth

namespace Stays

variable {low : Nat} {x : Traced α} {f : α → Traced β} {s : ParserState}
  {middle : α → ParserState → Prop} {success : β → ParserState → Prop}

theorem pure {a : α} (h : middle a s) : Stays low (Pure.pure a) s middle where
  completes := rfl
  within := nofun
  ends := h

/-- A sequence stays within the bounds if its second part does from wherever its first part ends. -/
theorem bind (hx : Stays low x s middle)
    (hf : ∀ a s', middle a s' → Stays low (f a) s' success) : Stays low (x >>= f) s success := by
  have hends := hx.ends
  refine ⟨?_, ?_, ?_⟩
  · rw [Traced.completes_bind, hx.completes]
    unfold Ensures at hends
    cases hrun : x.parser s with
    | ok a s' =>
      rw [hrun] at hends
      exact (hf a s' hends).completes
    | error e s' => rfl
  · rw [Traced.states_bind]
    unfold Ensures at hends
    cases hrun : x.parser s with
    | ok a s' =>
      rw [hrun] at hends
      intro t ht
      rcases List.mem_append.mp ht with ht | ht
      · exact hx.within t ht
      · exact (hf a s' hends).within t ht
    | error e s' => exact hx.within
  · rw [Traced.parser_bind, ensures_bind]
    exact hends.imp fun a s' h ↦ (hf a s' h).ends

/-- The bounds may be widened. -/
theorem widen {lower : Nat} (h : Stays low x s middle) (hlower : lower ≤ low) :
    Stays lower x s middle where
  completes := h.completes
  within t ht := ⟨Nat.le_trans hlower (h.within t ht).1, (h.within t ht).2⟩
  ends := h.ends.mono (fun _ _ h ↦ h) fun _ _ h ↦ ⟨Nat.le_trans hlower h.1, h.2⟩

theorem imp {weaker : α → ParserState → Prop} (h : Stays low x s middle)
    (hweaker : ∀ a s', middle a s' → weaker a s') : Stays low x s weaker where
  completes := h.completes
  within := h.within
  ends := h.ends.imp hweaker

/-- A step that ends within the bounds. -/
theorem ofStep {m : Parser α}
    (h : Ensures m s (fun a s' ↦ middle a s' ∧ Within low s') fun _ s' ↦ Within low s') :
    Stays low (step m) s middle where
  completes := rfl
  within := by
    rw [Traced.states_step]
    unfold Ensures at h
    intro t ht
    cases hrun : m s with
    | ok a s' =>
      rw [hrun] at h ht
      rw [List.mem_singleton.mp ht]
      exact h.2
    | error e s' =>
      rw [hrun] at h ht
      rw [List.mem_singleton.mp ht]
      exact h
  ends := h.imp fun _ _ h ↦ h.1

/-- A step that leaves the depth as it is. -/
theorem ofKeepsDepth {m : Parser α} (h : KeepsDepth m) (hs : Within low s) :
    Stays low (step m) s fun _ s' ↦ s'.depth = s.depth := by
  have hwithin {s' : ParserState} (hdepth : s'.depth = s.depth) : Within low s' := by
    rw [Within, hdepth]
    exact hs
  exact ofStep ((h s).mono (fun _ _ h ↦ ⟨h, hwithin h⟩) fun _ _ h ↦ hwithin h)

theorem get (hs : Within low s) : Stays low (step MonadState.get) s fun a s' ↦ s = a ∧ s = s' :=
  ofStep ⟨⟨rfl, rfl⟩, hs⟩

/-- Going one level deeper stays within the bounds also if it fails. -/
theorem enter (hlow : low ≤ s.depth) (hdepth : s.depth ≤ maxDepth) :
    Stays low (step Parser.enter) s fun _ s' ↦ s.depth < maxDepth ∧ s'.depth = s.depth + 1 := by
  have hwithin : Within low ⟨s.rest, s.depth + 1⟩ :=
    ⟨Nat.le_trans hlow (Nat.le_succ _), Nat.succ_le_succ hdepth⟩
  refine ofStep ?_
  rw [ensures_enter]
  split
  next hroom => exact ⟨⟨hroom, rfl⟩, hwithin⟩
  next => exact hwithin

/-- What goes on behind a token one level deeper. -/
theorem deeper {base : Nat} (hs : s.depth = base) (hbase : base ≤ maxDepth)
    (hx : ∀ t, t.depth = base + 1 → base < maxDepth → Stays base x t middle) :
    Stays base (do step skip; step Parser.enter; x) s middle := by
  refine (ofKeepsDepth keepsDepth_skip ⟨by omega, by omega⟩).bind ?_
  rintro - s₁ hdepth₁
  refine (enter (by omega) (by omega)).bind ?_
  rintro - s₂ ⟨hroom, hdepth₂⟩
  exact hx s₂ (by omega) (by omega)

/-- Going back to a depth within the bounds. -/
theorem leaveTo {base : Nat} (hlow : low ≤ base) (hbase : base ≤ maxDepth + 1) :
    Stays low (step (Parser.leaveTo base)) s fun _ s' ↦ s'.depth = base :=
  ofStep ⟨rfl, hlow, hbase⟩

/-- Taking a level off stays within the bounds if the depth is above the lower one. -/
theorem leave {base : Nat} (hs : s.depth = base + 1) (hlow : low ≤ base)
    (hbase : base ≤ maxDepth + 1) :
    Stays low (step Parser.leave) s fun _ s' ↦ s'.depth = base := by
  have hdepth : s.depth - 1 = base := Nat.sub_eq_of_eq_add hs
  have hwithin : Within low ⟨s.rest, s.depth - 1⟩ := by
    rw [hdepth]
    exact ⟨hlow, hbase⟩
  exact ofStep ⟨hdepth, hwithin⟩

end Stays

/-! ## Readers with enough fuel -/

/--
With enough fuel the readers of phrases are balanced, and the loops in them stay within the bounds.
The constants count the readers that call each other before the depth grows.
-/
structure Balances (fuel : Nat) : Prop where
  conditional : ∀ s, s.depth ≤ maxDepth → 5 * (maxDepth - s.depth) + 1 ≤ fuel →
    Balanced (Traced.conditional fuel) s
  binary : ∀ least s, s.depth ≤ maxDepth → 5 * (maxDepth - s.depth) + 5 ≤ fuel →
    Balanced (Traced.binary fuel least) s
  operatorChain : ∀ least left s, s.depth ≤ maxDepth → 5 * (maxDepth - s.depth) + 1 ≤ fuel →
    Stays s.depth (Traced.operatorChain fuel least left) s fun _ _ ↦ True
  unary : ∀ s, s.depth ≤ maxDepth → 5 * (maxDepth - s.depth) + 4 ≤ fuel →
    Balanced (Traced.unary fuel) s
  memberChain : ∀ s, s.depth ≤ maxDepth → 5 * (maxDepth - s.depth) + 3 ≤ fuel →
    Balanced (Traced.memberChain fuel) s
  links : ∀ object s, s.depth ≤ maxDepth → 5 * (maxDepth - s.depth) + 1 ≤ fuel →
    Stays s.depth (Traced.links fuel object) s fun _ _ ↦ True
  primary : ∀ s, s.depth ≤ maxDepth → 5 * (maxDepth - s.depth) + 2 ≤ fuel →
    Balanced (Traced.primary fuel) s

namespace Balances

variable {fuel : Nat}

theorem zero : Balances 0 := by
  constructor <;> intros <;> omega

theorem conditional_succ (ih : Balances fuel) (s : ParserState) (hdepth : s.depth ≤ maxDepth)
    (hfuel : 5 * (maxDepth - s.depth) + 1 ≤ fuel + 1) :
    Balanced (Traced.conditional (fuel + 1)) s := by
  rw [Balanced, Traced.conditional]
  -- No token is taken before the test is read: it is the depth that grows.
  refine (Stays.enter (Nat.le_refl _) hdepth).bind ?_
  rintro - s₁ ⟨hroom, hdepth₁⟩
  have hpart (t : ParserState) (ht : t.depth = s.depth + 1) :
      Stays s.depth (Traced.conditional fuel) t fun _ t' ↦ t'.depth = s.depth + 1 := by
    have hbalanced := ih.conditional t (by omega) (by omega)
    exact (hbalanced.widen (by omega)).imp fun _ _ h ↦ h.trans ht
  refine ((ih.binary 1 s₁ (by omega) (by omega)).widen (by omega)).bind ?_
  rintro test s₂ hdepth₂
  refine (Stays.ofKeepsDepth (keepsDepth_eat _) ⟨by omega, by omega⟩).bind ?_
  rintro found s₃ hdepth₃
  split
  next =>
    refine (hpart s₃ (by omega)).bind ?_
    rintro consequent s₄ hdepth₄
    refine (Stays.ofKeepsDepth (keepsDepth_expect _) ⟨by omega, by omega⟩).bind ?_
    rintro - s₅ hdepth₅
    refine (hpart s₅ (by omega)).bind ?_
    rintro alternate s₆ hdepth₆
    exact (Stays.leave hdepth₆ (Nat.le_refl _) (by omega)).bind fun _ _ h ↦ .pure h
  next =>
    exact (Stays.leave (by omega) (Nat.le_refl _) (by omega)).bind fun _ _ h ↦ .pure h

theorem binary_succ (ih : Balances fuel) (least : Nat) (s : ParserState)
    (hdepth : s.depth ≤ maxDepth) (hfuel : 5 * (maxDepth - s.depth) + 5 ≤ fuel + 1) :
    Balanced (Traced.binary (fuel + 1) least) s := by
  rw [Balanced, Traced.binary]
  refine (Stays.get ⟨Nat.le_refl _, by omega⟩).bind ?_
  rintro _ _ ⟨rfl, rfl⟩
  refine (ih.unary s hdepth (by omega)).bind ?_
  rintro first s₁ hdepth₁
  refine ((ih.operatorChain least first s₁ (by omega) (by omega)).widen (by omega)).bind ?_
  rintro result s₂ -
  exact (Stays.leaveTo (Nat.le_refl _) (by omega)).bind fun _ _ h ↦ .pure h

theorem operatorChain_succ (ih : Balances fuel) (least : Nat) (left : Expression) (s : ParserState)
    (hdepth : s.depth ≤ maxDepth) (hfuel : 5 * (maxDepth - s.depth) + 1 ≤ fuel + 1) :
    Stays s.depth (Traced.operatorChain (fuel + 1) least left) s fun _ _ ↦ True := by
  rw [Traced.operatorChain]
  refine (Stays.ofKeepsDepth keepsDepth_peek ⟨Nat.le_refl _, by omega⟩).bind ?_
  rintro found s₁ hdepth₁
  split
  next => exact .pure trivial
  next precedence operator _ =>
    split
    next => exact .pure trivial
    next =>
      refine Stays.deeper hdepth₁ hdepth fun s₂ hdepth₂ hroom ↦ ?_
      refine ((ih.binary (precedence + 1) s₂ (by omega) (by omega)).widen (by omega)).bind ?_
      rintro right s₃ hdepth₃
      exact (ih.operatorChain least _ s₃ (by omega) (by omega)).widen (by omega)

theorem unary_succ (ih : Balances fuel) (s : ParserState) (hdepth : s.depth ≤ maxDepth)
    (hfuel : 5 * (maxDepth - s.depth) + 4 ≤ fuel + 1) :
    Balanced (Traced.unary (fuel + 1)) s := by
  rw [Balanced, Traced.unary]
  refine (Stays.ofKeepsDepth keepsDepth_peek ⟨Nat.le_refl _, by omega⟩).bind ?_
  rintro found s₁ hdepth₁
  split
  next =>
    have hbalanced := ih.memberChain s₁ (by omega) (by omega)
    exact (hbalanced.widen (by omega)).imp fun _ _ h ↦ h.trans hdepth₁
  next operator _ =>
    refine Stays.deeper hdepth₁ hdepth fun s₂ hdepth₂ hroom ↦ ?_
    refine ((ih.unary s₂ (by omega) (by omega)).widen (by omega)).bind ?_
    rintro operand s₃ hdepth₃
    exact (Stays.leave (by omega) (Nat.le_refl _) (by omega)).bind fun _ _ h ↦ .pure h

theorem memberChain_succ (ih : Balances fuel) (s : ParserState) (hdepth : s.depth ≤ maxDepth)
    (hfuel : 5 * (maxDepth - s.depth) + 3 ≤ fuel + 1) :
    Balanced (Traced.memberChain (fuel + 1)) s := by
  rw [Balanced, Traced.memberChain]
  refine (Stays.get ⟨Nat.le_refl _, by omega⟩).bind ?_
  rintro _ _ ⟨rfl, rfl⟩
  refine (ih.primary s hdepth (by omega)).bind ?_
  rintro root s₁ hdepth₁
  refine ((ih.links root s₁ (by omega) (by omega)).widen (by omega)).bind ?_
  rintro result s₂ -
  exact (Stays.leaveTo (Nat.le_refl _) (by omega)).bind fun _ _ h ↦ .pure h

theorem links_succ (ih : Balances fuel) (object : Expression) (s : ParserState)
    (hdepth : s.depth ≤ maxDepth) (hfuel : 5 * (maxDepth - s.depth) + 1 ≤ fuel + 1) :
    Stays s.depth (Traced.links (fuel + 1) object) s fun _ _ ↦ True := by
  -- Every link is read one level deeper, and so are all links behind it.
  have hkey (optional : Bool) (t : ParserState) (ht : t.depth = s.depth + 1)
      (hroom : s.depth < maxDepth) :
      Stays s.depth (do
        let key ← Traced.conditional fuel
        step (expect .closeBracket)
        Traced.links fuel (.index object key optional)) t fun _ _ ↦ True := by
    refine ((ih.conditional t (by omega) (by omega)).widen (by omega)).bind ?_
    rintro key t₁ hdepth₁
    refine (Stays.ofKeepsDepth (keepsDepth_expect _) ⟨by omega, by omega⟩).bind ?_
    rintro - t₂ hdepth₂
    exact (ih.links _ t₂ (by omega) (by omega)).widen (by omega)
  have hname (optional : Bool) (t : ParserState) (ht : t.depth = s.depth + 1)
      (hroom : s.depth < maxDepth) :
      Stays s.depth (do
        let name ← step propertyName
        Traced.links fuel (.member object name optional)) t fun _ _ ↦ True := by
    refine (Stays.ofKeepsDepth keepsDepth_propertyName ⟨by omega, by omega⟩).bind ?_
    rintro name t₁ hdepth₁
    exact (ih.links _ t₁ (by omega) (by omega)).widen (by omega)
  rw [Traced.links]
  refine (Stays.ofKeepsDepth keepsDepth_peek ⟨Nat.le_refl _, by omega⟩).bind ?_
  rintro found s₁ hdepth₁
  have hwithin : Within s.depth s₁ := ⟨by omega, by omega⟩
  split
  next => exact Stays.deeper hdepth₁ hdepth (hkey false)
  next =>
    refine (Stays.get hwithin).bind ?_
    rintro _ _ ⟨rfl, rfl⟩
    exact (Stays.ofKeepsDepth (keepsDepth_throw _) hwithin).imp fun _ _ _ ↦ trivial
  next => exact Stays.deeper hdepth₁ hdepth (hname false)
  next =>
    refine Stays.deeper hdepth₁ hdepth fun s₂ hdepth₂ hroom ↦ ?_
    refine (Stays.ofKeepsDepth (keepsDepth_eat _) ⟨by omega, by omega⟩).bind ?_
    rintro bracket s₃ hdepth₃
    split
    next => exact hkey true s₃ (by omega) hroom
    next => exact hname true s₃ (by omega) hroom
  next => exact .pure trivial

theorem primary_succ (ih : Balances fuel) (s : ParserState) (hdepth : s.depth ≤ maxDepth)
    (hfuel : 5 * (maxDepth - s.depth) + 2 ≤ fuel + 1) :
    Balanced (Traced.primary (fuel + 1)) s := by
  rw [Balanced, Traced.primary]
  refine (Stays.ofKeepsDepth keepsDepth_next? ⟨Nat.le_refl _, by omega⟩).bind ?_
  rintro token s₁ hdepth₁
  split
  next => exact .pure hdepth₁
  next => exact .pure hdepth₁
  next => exact .pure hdepth₁
  next =>
    refine ((ih.conditional s₁ (by omega) (by omega)).widen (by omega)).bind ?_
    rintro inner s₂ hdepth₂
    refine (Stays.ofKeepsDepth (keepsDepth_expect _) ⟨by omega, by omega⟩).bind ?_
    rintro - s₃ hdepth₃
    exact .pure (by omega)
  next =>
    have hwithin : Within s.depth s₁ := ⟨by omega, by omega⟩
    exact (Stays.ofKeepsDepth (keepsDepth_throw _) hwithin).imp fun _ _ h ↦ h.trans hdepth₁

theorem succ (ih : Balances fuel) : Balances (fuel + 1) where
  conditional := ih.conditional_succ
  binary := ih.binary_succ
  operatorChain := ih.operatorChain_succ
  unary := ih.unary_succ
  memberChain := ih.memberChain_succ
  links := ih.links_succ
  primary := ih.primary_succ

end Balances

theorem balances (fuel : Nat) : Balances fuel := by
  induction fuel with
  | zero => exact Balances.zero
  | succ fuel ih => exact ih.succ

end Parser

/-! ## Readers of phrases -/

/-- A phrase has at least one token. -/
theorem Fits.tokens_ne_nil {levels links : Nat} {phrase : Phrase} {tokens : List ExpressionToken}
    {e : Expression} (h : Fits levels phrase links tokens e) : tokens ≠ [] := by
  induction h with
  | alone _ ih => exact ih
  | choice => simp
  | operand _ ih => exact ih
  | operation => simp
  | bare _ ih => exact ih
  | prefixed => simp
  | root _ ih => exact ih
  | named => simp
  | optionalNamed => simp
  | computed => simp
  | optionalComputed => simp
  | number => simp
  | text => simp
  | word => simp
  | enclosed => simp

namespace Phrase

def reader (fuel : Nat) : Phrase → Parser Expression
  | .conditional => Parser.conditional fuel
  | .binary least => Parser.binary fuel least
  | .unary => Parser.unary fuel
  | .chain => Parser.memberChain fuel
  | .primary => Parser.primary fuel

def traced (fuel : Nat) : Phrase → Parser.Traced Expression
  | .conditional => Parser.Traced.conditional fuel
  | .binary least => Parser.Traced.binary fuel least
  | .unary => Parser.Traced.unary fuel
  | .chain => Parser.Traced.memberChain fuel
  | .primary => Parser.Traced.primary fuel

/-- The fuel that a phrase is read with from a depth, whatever the tokens are. -/
def fuelFrom (phrase : Phrase) (depth : Nat) : Nat :=
  5 * (Parser.maxDepth - depth) + phrase.calls

theorem parser_traced (phrase : Phrase) (fuel : Nat) :
    (phrase.traced fuel).parser = phrase.reader fuel := by
  have htraces := Parser.traces fuel
  cases phrase with
  | conditional => exact htraces.conditional
  | binary least => exact htraces.binary least
  | unary => exact htraces.unary
  | chain => exact htraces.memberChain
  | primary => exact htraces.primary

theorem balanced_traced (phrase : Phrase) {fuel : Nat} {s : ParserState}
    (hdepth : s.depth ≤ Parser.maxDepth) (hfuel : phrase.fuelFrom s.depth ≤ fuel) :
    Parser.Balanced (phrase.traced fuel) s := by
  have hbalances := Parser.balances fuel
  cases phrase with
  | conditional => exact hbalances.conditional s hdepth hfuel
  | binary least => exact hbalances.binary least s hdepth hfuel
  | unary => exact hbalances.unary s hdepth hfuel
  | chain => exact hbalances.memberChain s hdepth hfuel
  | primary => exact hbalances.primary s hdepth hfuel

theorem extends_traced (phrase : Phrase) (fuel : Nat) :
    (phrase.traced fuel).Extends (phrase.traced (fuel + 1)) := by
  have hextends := Parser.extends_succ fuel
  cases phrase with
  | conditional => exact hextends.conditional
  | binary least => exact hextends.binary least
  | unary => exact hextends.unary
  | chain => exact hextends.memberChain
  | primary => exact hextends.primary

/-- A reader that succeeds has taken a phrase from the front. -/
theorem ensures_reader (phrase : Phrase) (fuel : Nat) (s : ParserState) :
    Parser.Ensures (phrase.reader fuel) s
      (fun e s' ↦ ∃ links, Parser.Reads phrase links s e s') Parser.AnyError := by
  have hsound := Parser.sound fuel
  cases phrase with
  | conditional => exact (hsound.conditional s).imp fun _ _ h ↦ ⟨0, h⟩
  | binary least => exact (hsound.binary least s).imp fun _ _ h ↦ h.2
  | unary => exact (hsound.unary s).imp fun _ _ h ↦ ⟨0, h⟩
  | chain => exact hsound.memberChain s
  | primary => exact (hsound.primary s).imp fun _ _ h ↦ ⟨0, h⟩

/-- More fuel than a completed run needs changes nothing. -/
theorem reader_eq_of_completes (phrase : Phrase) {fuel more : Nat} {s : ParserState}
    (h : (phrase.traced fuel).completes s = true) (hmore : fuel ≤ more) :
    phrase.reader more s = phrase.reader fuel s := by
  have hextends : (phrase.traced more).completes s = true ∧
      (phrase.traced more).parser s = (phrase.traced fuel).parser s := by
    induction hmore with
    | refl => exact ⟨h, rfl⟩
    | @step more _ ih =>
      obtain ⟨hcompletes, hrun⟩ := phrase.extends_traced more s ih.1
      exact ⟨hcompletes, hrun.trans ih.2⟩
  rw [← parser_traced, ← parser_traced]
  exact hextends.2

/-- Tokens that are taken from behind a position lead to a later one. -/
theorem exists_drop_of_taken {tokens read rest : List ExpressionToken} {position : Nat}
    (h : tokens.drop position = read ++ rest) (hread : read ≠ []) :
    ∃ next, position < next ∧ next ≤ tokens.length ∧ rest = tokens.drop next := by
  have hpos := List.length_pos_iff.mpr hread
  have hlength := congrArg List.length h
  rw [List.length_drop, List.length_append] at hlength
  refine ⟨position + read.length, by omega, by omega, ?_⟩
  rw [← List.drop_drop, h, List.drop_left]

/-- What a call of the reader of a phrase comes to, from a position of the tokens and a depth. -/
structure Progresses (phrase : Phrase) (fuel : Nat) (tokens : List ExpressionToken)
    (position depth : Nat) : Prop where
  /-- The traced reader runs as the reader does. -/
  parser_traced : (phrase.traced fuel).parser = phrase.reader fuel
  /-- No call in the run is left without fuel. -/
  completes : (phrase.traced fuel).completes ⟨tokens.drop position, depth⟩ = true
  /-- More fuel makes no difference. -/
  fuel_irrelevant : ∀ more, fuel ≤ more →
    phrase.reader more ⟨tokens.drop position, depth⟩ =
      phrase.reader fuel ⟨tokens.drop position, depth⟩
  /-- The run goes through no depth below the first one or more than one above the limit. -/
  depth_within : ∀ s ∈ (phrase.traced fuel).states ⟨tokens.drop position, depth⟩,
    depth ≤ s.depth ∧ s.depth ≤ Parser.maxDepth + 1
  /-- Success is at a later position and at the same depth; failure is at a depth within the
  bounds. -/
  ends : Parser.Ensures (phrase.reader fuel) ⟨tokens.drop position, depth⟩
    (fun _ s ↦ s.depth = depth ∧
      ∃ next, position < next ∧ next ≤ tokens.length ∧ s.rest = tokens.drop next)
    (fun _ s ↦ depth ≤ s.depth ∧ s.depth ≤ Parser.maxDepth + 1)

/-- From every depth that is not beyond the limit, every reader of a phrase comes to an end within
the bounds, and takes tokens and gives its levels back if it succeeds. -/
theorem progresses (phrase : Phrase) (tokens : List ExpressionToken) (position : Nat)
    {depth fuel : Nat} (hdepth : depth ≤ Parser.maxDepth) (hfuel : phrase.fuelFrom depth ≤ fuel) :
    phrase.Progresses fuel tokens position depth := by
  have hbalanced := phrase.balanced_traced (s := ⟨tokens.drop position, depth⟩) hdepth hfuel
  have hends := hbalanced.ends
  rw [phrase.parser_traced] at hends
  refine ⟨phrase.parser_traced fuel, hbalanced.completes,
    fun more ↦ phrase.reader_eq_of_completes hbalanced.completes, hbalanced.within, ?_⟩
  refine (hends.and (phrase.ensures_reader fuel _)).mono ?_ fun _ _ h ↦ h.1
  rintro e s ⟨hback, links, -, read, hread, hfits⟩
  exact ⟨hback, exists_drop_of_taken hread hfits.tokens_ne_nil⟩

/-- One level below the limit the second term of a sum is read; its operator takes the last level. -/
theorem progresses_lastLevel :
    63 ≤ Parser.maxDepth ∧ (binary 1).fuelFrom 63 ≤ Parser.fuel ∧
      (binary 1).Progresses Parser.fuel Expression.sumWithProduct 2 63 :=
  ⟨by decide, by decide, progresses (binary 1) Expression.sumWithProduct 2 (by decide) (by decide)⟩

end Phrase

end FieldTags
