import FieldTags.Text.Split

/-!
# Name patterns

In a pattern for names, an asterisk stands for any characters, a question mark for one, and brackets for
one of the characters in them, or for one that is not in them behind an exclamation mark. Two asterisks
stand for directories within directories and must stand alone between slashes.
-/

namespace FieldTags

/-- What is wrong with a pattern. -/
inductive PatternFault where
  /-- There are three asterisks. -/
  | asterisks
  /-- Two asterisks do not stand alone between slashes. -/
  | depth
  /-- Brackets are not closed. -/
  | range
  deriving DecidableEq

def PatternFault.message : PatternFault → String
  | .asterisks => "wildcards are either regular \x60*\x60 or recursive \x60**\x60"
  | .depth => "recursive wildcards must form a single path component"
  | .range => "invalid range pattern"

/-- A fault and the number of characters in front of it. -/
structure PatternError where
  position : Nat
  fault : PatternFault
  deriving DecidableEq

def PatternError.message (e : PatternError) : String :=
  "Pattern syntax error near position " ++ toString e.position ++ ": " ++ e.fault.message

/-- A part of a pattern. -/
inductive PatternPart where
  | char (c : Char)
  | anyChar
  | anyText
  /-- A character between two others, or one that is not. -/
  | range (isExcluded : Bool) (bounds : List (Char × Char))
  /-- Any directories. -/
  | anyDepth
  deriving DecidableEq

namespace PatternPart

/-- The bounds that brackets hold. -/
def readBounds : List Char → List (Char × Char)
  | a :: '-' :: b :: rest => (a, b) :: readBounds rest
  | a :: rest => (a, a) :: readBounds rest
  | [] => []

/-- What stands in front of the closing bracket, at least one character, and what follows it. -/
def readBracket (cs : List Char) : Option (List Char × List Char) :=
  match cs with
  | [] => none
  | c :: rest =>
    match rest.dropWhile (· ≠ ']') with
    | [] => none
    | _ :: more => some (c :: rest.takeWhile (· ≠ ']'), more)

/-- The range behind an opening bracket, and what follows it. -/
def readRange : List Char → Option (PatternPart × List Char)
  | '!' :: cs => (readBracket cs).map fun r ↦ (.range true (readBounds r.1), r.2)
  | cs => (readBracket cs).map fun r ↦ (.range false (readBounds r.1), r.2)

theorem length_readBracket {cs held rest : List Char} (h : readBracket cs = some (held, rest)) :
    rest.length < cs.length := by
  unfold readBracket at h
  split at h
  · simp at h
  next c more =>
    have hdrop := (List.dropWhile_sublist (· ≠ ']') (l := more)).length_le
    split at h
    · simp at h
    next heq =>
      simp only [Option.some.injEq, Prod.mk.injEq] at h
      rw [heq] at hdrop
      simp only [List.length_cons] at hdrop ⊢
      rw [← h.2]
      omega

theorem length_readRange {cs rest : List Char} {part : PatternPart}
    (h : readRange cs = some (part, rest)) : rest.length < cs.length := by
  unfold readRange at h
  split at h <;> simp only [Option.map_eq_some_iff, Prod.mk.injEq] at h
  · obtain ⟨r, hr, -, rfl⟩ := h
    have := length_readBracket hr
    simp only [List.length_cons]
    omega
  · obtain ⟨r, hr, -, rfl⟩ := h
    exact length_readBracket hr

/-- A part and the ones that follow it. -/
def consPart (part : PatternPart) (parts : Except PatternError (List PatternPart)) :
    Except PatternError (List PatternPart) :=
  parts.map (part :: ·)

/-- The parts of a pattern from a position on, behind a character. -/
def readFrom (position : Nat) (previous : Option Char) (cs : List Char) :
    Except PatternError (List PatternPart) :=
  match cs with
  | [] => .ok []
  | '*' :: '*' :: '*' :: _ => .error ⟨position + 2, .asterisks⟩
  | '*' :: '*' :: rest =>
    if previous.any (· ≠ '/') then .error ⟨position - 1, .depth⟩
    else
      match rest with
      | [] => .ok [.anyDepth]
      | '/' :: rest => consPart .anyDepth (readFrom (position + 3) (some '/') rest)
      | _ => .error ⟨position + 2, .depth⟩
  | '*' :: rest => consPart .anyText (readFrom (position + 1) (some '*') rest)
  | '?' :: rest => consPart .anyChar (readFrom (position + 1) (some '?') rest)
  | '[' :: rest =>
    match _h : readRange rest with
    | none => .error ⟨position, .range⟩
    | some (part, more) =>
      have := length_readRange _h
      consPart part (readFrom (position + 1 + (rest.length - more.length)) (some ']') more)
  | c :: rest => consPart (.char c) (readFrom (position + 1) (some c) rest)
termination_by cs.length

def read (pattern : String) : Except PatternError (List PatternPart) :=
  readFrom 0 none pattern.toList

def accepts (part : PatternPart) (c : Char) : Bool :=
  match part with
  | .char d => c = d
  | .anyChar => true
  | .range isExcluded bounds =>
    (bounds.any fun bound ↦ bound.1 ≤ c && c ≤ bound.2) != isExcluded
  | .anyText | .anyDepth => false

def matchesName (parts : List PatternPart) (name : List Char) : Bool :=
  match parts, name with
  | [], name => name = []
  | .anyText :: parts, [] => matchesName parts []
  | .anyText :: parts, c :: name =>
    matchesName parts (c :: name) || matchesName (.anyText :: parts) name
  | _ :: _, [] => false
  | part :: parts, c :: name => part.accepts c && matchesName parts name
termination_by parts.length + name.length

/-- The character that a part stands for if it can be no other. -/
def char? : PatternPart → Option Char
  | .char c => some c
  | _ => none

/-- The text of a pattern that stands for itself only. -/
def literal? (parts : List PatternPart) : Option String :=
  (parts.mapM char?).map String.ofList

end PatternPart

end FieldTags
