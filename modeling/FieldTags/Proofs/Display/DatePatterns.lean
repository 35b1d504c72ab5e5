import FieldTags.Proofs.Display.CalendarDays

/-!
# Patterns of times

A pattern is put together from tokens and from texts without the letters of tokens, and its tokens are
expanded one after the other. Every token repeats a letter of its own a fixed number of times, so that
its end is found also where another token, or the same one, stands directly behind it. What a token is
expanded to is not looked at again, not even if the name of a day contains a token.
-/

namespace FieldTags

namespace DateToken

/-- The letters that tokens are made of. -/
def letters : List Char :=
  ['Y', 'M', 'D', 'H', 'm', 's', 'W']

/-- The tens and the ones of a number below one hundred. -/
def twoDigits (n : Nat) : String :=
  String.ofList [Nat.digitChar (n / 10), Nat.digitChar (n % 10)]

/-- What a time has in the place of a token: the year as it is, two digits for a month, a day, an
hour, a minute or a second, and the name of the day of the week. -/
def shown (t : LocalTime) (weekdays : Vector String 7) : DateToken → String
  | .year => toString t.date.year
  | .month => twoDigits t.date.month
  | .day => twoDigits t.date.day
  | .hour => twoDigits t.hour
  | .minute => twoDigits t.minute
  | .second => twoDigits t.second
  | .weekday => weekdays.get t.weekday

theorem padded_two {n : Nat} (h : n < 100) : Text.padded 2 n = twoDigits n := by
  have hall : ∀ m : Fin 100, Text.padded 2 m = twoDigits m := by decide +kernel
  exact hall ⟨n, h⟩

theorem expand_eq_shown (t : LocalTime) (weekdays : Vector String 7) (token : DateToken) :
    token.expand t weekdays = token.shown t weekdays := by
  obtain ⟨-, hmonth, -, hday⟩ := CalendarDate.ofDays_fields t.dayNumber
  have hlength := CalendarDate.daysInMonth_le t.date.year t.date.month
  have hsecond := t.secondOfDay_lt
  cases token with
  | year => rfl
  | month => exact padded_two (Nat.lt_of_le_of_lt hmonth (by decide))
  | day => exact padded_two (Nat.lt_of_le_of_lt (Nat.le_trans hday hlength) (by decide))
  | hour => exact padded_two (by rw [LocalTime.hour]; omega)
  | minute => exact padded_two (by rw [LocalTime.minute]; omega)
  | second => exact padded_two (by rw [LocalTime.second]; omega)
  | weekday => rfl

end DateToken

/-- A part of a pattern: a token, or a text in which no token begins. -/
inductive PatternSegment where
  | token (part : DateToken)
  | literal (content : String) (plain : ∀ c ∈ content.toList, c ∉ DateToken.letters)

namespace PatternSegment

def text : PatternSegment → String
  | .token part => String.ofList part.chars
  | .literal content _ => content

/-- What a segment is expanded to; a literal text stays as it is. -/
def expand (t : LocalTime) (weekdays : Vector String 7) : PatternSegment → String
  | .token part => part.shown t weekdays
  | .literal content _ => content

def pattern (segments : List PatternSegment) : String :=
  String.join (segments.map text)

end PatternSegment

namespace LocalTime

open PatternSegment (pattern)

variable (t : LocalTime) (weekdays : Vector String 7)

/-! ## Segments in front of a pattern -/

/-- A token is expanded, whatever stands behind it. -/
theorem renderChars_token (token : DateToken) (rest : List Char) :
    t.renderChars weekdays (token.chars ++ rest) =
      (token.shown t weekdays).toList ++ t.renderChars weekdays rest := by
  rw [← token.expand_eq_shown]
  cases token <;> rw [DateToken.chars] <;> simp only [List.cons_append, List.nil_append, renderChars]

/-- No token begins with a character that is no letter of a token. -/
theorem renderChars_cons {c : Char} (hc : c ∉ DateToken.letters) (rest : List Char) :
    t.renderChars weekdays (c :: rest) = c :: t.renderChars weekdays rest := by
  simp only [DateToken.letters, List.mem_cons, List.not_mem_nil, or_false, not_or] at hc
  obtain ⟨hY, hM, hD, hH, hm, hs, hW⟩ := hc
  rw [renderChars]
  · exact fun _ h ↦ absurd h hY
  · exact fun _ h ↦ absurd h hM
  · exact fun _ h ↦ absurd h hD
  · exact fun _ h ↦ absurd h hH
  · exact fun _ h ↦ absurd h hm
  · exact fun _ h ↦ absurd h hs
  · exact fun _ h ↦ absurd h hW

theorem renderChars_literal {cs : List Char} (hcs : ∀ c ∈ cs, c ∉ DateToken.letters)
    (rest : List Char) :
    t.renderChars weekdays (cs ++ rest) = cs ++ t.renderChars weekdays rest := by
  induction cs with
  | nil => rfl
  | cons c cs ih =>
    rw [List.cons_append, t.renderChars_cons weekdays (hcs c List.mem_cons_self),
      ih fun d hd ↦ hcs d (List.mem_cons_of_mem c hd), List.cons_append]

theorem renderChars_segment (segment : PatternSegment) (rest : List Char) :
    t.renderChars weekdays (segment.text.toList ++ rest) =
      (segment.expand t weekdays).toList ++ t.renderChars weekdays rest := by
  cases segment with
  | token part =>
    rw [PatternSegment.text, String.toList_ofList]
    exact t.renderChars_token weekdays part rest
  | literal content plain => exact t.renderChars_literal weekdays plain rest

/-! ## Patterns of segments -/

/-- Segments in front of a pattern are expanded one after the other. -/
theorem renderChars_segments (segments : List PatternSegment) (rest : List Char) :
    t.renderChars weekdays ((pattern segments).toList ++ rest) =
      (String.join (segments.map (PatternSegment.expand t weekdays))).toList ++
        t.renderChars weekdays rest := by
  induction segments with
  | nil => rfl
  | cons segment segments ih =>
    rw [pattern] at ih ⊢
    rw [List.map_cons, List.map_cons, String.join_cons, String.join_cons, String.toList_append,
      String.toList_append, List.append_assoc, List.append_assoc, renderChars_segment, ih]

theorem render_segments (segments : List PatternSegment) :
    t.render weekdays (pattern segments) =
      String.join (segments.map (PatternSegment.expand t weekdays)) := by
  have hsegments := t.renderChars_segments weekdays segments []
  rw [List.append_nil, renderChars, List.append_nil] at hsegments
  rw [render, hsegments, String.ofList_toList]

/--
A pattern of segments is expanded segment by segment, for every time and all names of the days of the
week. So the name of a day stands in the text as it is, between what the segments before it and those
behind it are expanded to on their own.
-/
theorem render_pattern (segments : List PatternSegment) :
    t.render weekdays (pattern segments) =
        String.join (segments.map (PatternSegment.expand t weekdays)) ∧
      ∀ before behind : List PatternSegment,
        t.render weekdays (pattern (before ++ .token .weekday :: behind)) =
          t.render weekdays (pattern before) ++ weekdays.get t.weekday ++
            t.render weekdays (pattern behind) := by
  refine ⟨t.render_segments weekdays segments, fun before behind ↦ ?_⟩
  rw [render_segments, render_segments, render_segments, List.map_append, List.map_cons,
    String.join_append, String.join_cons, String.append_assoc]
  rfl

/-- Tokens directly behind each other, and a day whose name contains tokens. -/
example : (LocalTime.mk 1709600523).render #v["a", "b", "MMWW", "c", "d", "e", "f"]
    "YYYYMMMMmmMMWWss" = "202403030203MMWW03" := by
  decide +kernel

end LocalTime

end FieldTags
