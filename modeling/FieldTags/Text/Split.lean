/-!
# Cutting and replacing

Texts are cut at every occurrence of a separator, or at its first occurrence only. Every occurrence
of a pattern is replaced, from the left and without overlaps; what is inserted is not searched again.
-/

namespace FieldTags.Text

/-- The pieces of a text between the occurrences of `separator`; there is always at least one. -/
def splitAll (separator : Char) : List Char → List (List Char)
  | [] => [[]]
  | c :: rest =>
    if c = separator then [] :: splitAll separator rest
    else
      match splitAll separator rest with
      | [] => [[c]]
      | piece :: pieces => (c :: piece) :: pieces

/-- The text before and the text after the first occurrence of `separator`. -/
def splitFirst? (separator : Char) : List Char → Option (List Char × List Char)
  | [] => none
  | c :: rest =>
    if c = separator then some ([], rest)
    else (splitFirst? separator rest).map fun (before, after) ↦ (c :: before, after)

def split (separator : Char) (s : String) : List String :=
  (splitAll separator s.toList).map String.ofList

/-- The text with every occurrence of the pattern, which must not be empty, replaced. -/
def replaceChars (pattern replacement : List Char) (cs : List Char) : List Char :=
  match cs with
  | [] => []
  | c :: rest =>
    if pattern.isPrefixOf (c :: rest) then
      replacement ++ replaceChars pattern replacement (rest.drop (pattern.length - 1))
    else c :: replaceChars pattern replacement rest
termination_by cs.length
decreasing_by
  · simp only [List.length_drop, List.length_cons]
    omega
  · simp

def replaceAll (s pattern replacement : String) : String :=
  String.ofList (replaceChars pattern.toList replacement.toList s.toList)

end FieldTags.Text
