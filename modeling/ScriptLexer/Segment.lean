import ScriptLexer.Text.Whitespace
import ScriptLexer.TokenClass

/-!
# Segments of a text

A text is cut into **segments**. Each has a **gap**, which is the longest run of whitespace and of
characters that begin no token, and the scan of the token after it. The text ends with a segment
whose token is the end mark.

Segments depend on the text alone, not on where in a source it stands. The division of a text stops
after its first segment that is **last**: the end mark, or a token that was not accepted. Every
other segment takes at least one character beyond its gap (`Segment.text_first_ne_nil`), which is
why the division comes to an end.
-/

namespace ScriptLexer

/-- Whether a character is skipped between tokens. -/
def isGap (c : Char) : Bool :=
  isWhitespace c || TokenClass.beginsNothing c

/-- The scan of the token at the head of a text; an empty text has the end mark there. -/
def scanToken : Recognizer
  | [] => ⟨[], .accept .endOfInput []⟩
  | first :: rest =>
    match TokenClass.classify first rest.head? with
    | some cls => cls.recognizer (first :: rest)
    | none => ⟨[], .misplaced⟩

theorem scanToken_taken_isPrefix (text : List Char) : (scanToken text).taken <+: text := by
  fun_cases scanToken text with
  | case1 | case3 => exact List.nil_prefix
  | case2 first tail cls _ => exact TokenClass.recognizer_taken_isPrefix cls _

/-- What lies between two tokens, together with the second of them. -/
structure Segment where
  /-- The characters skipped before the token. -/
  gap : List Char
  /-- The token. -/
  scan : Scan
deriving DecidableEq, Repr

namespace Segment

/-- The segment at the head of a text. -/
def first (text : List Char) : Segment :=
  ⟨text.takeWhile isGap, scanToken (text.dropWhile isGap)⟩

/-- All characters of a segment. -/
def text (s : Segment) : List Char :=
  s.gap ++ s.scan.taken

/-- Whether no segment follows: at the end mark, and after whatever is not accepted. -/
def isLast (s : Segment) : Bool :=
  match s.scan.verdict with
  | .accept kind _ => kind == .endOfInput
  | .reject _ | .misplaced => true

/-- A segment lies at the head of the text it was read from. -/
theorem text_first_isPrefix (text : List Char) : (first text).text <+: text := by
  have := (List.prefix_append_right_inj (text.takeWhile isGap)).2
    (scanToken_taken_isPrefix (text.dropWhile isGap))
  rwa [List.takeWhile_append_dropWhile] at this

/-- **Progress.** Only an empty text yields an empty segment. -/
theorem text_first_ne_nil {text : List Char} (h : text ≠ []) : (first text).text ≠ [] := by
  intro hnil
  obtain ⟨hgap, htaken⟩ := List.append_eq_nil_iff.1 hnil
  cases text with
  | nil => exact h rfl
  | cons c rest =>
    by_cases hc : isGap c = true
    · simp [first, hc] at hgap
    · have hbegins : TokenClass.classify c rest.head? ≠ none := by
        simp only [isGap, Bool.or_eq_true, not_or] at hc
        rw [Ne, TokenClass.classify_eq_none_iff]
        exact hc.2
      obtain ⟨cls, hcls⟩ := Option.ne_none_iff_exists'.1 hbegins
      have hdrop : (c :: rest).dropWhile isGap = c :: rest := by simp [hc]
      rw [first, hdrop, scanToken, hcls] at htaken
      exact TokenClass.recognizer_taken_ne_nil hcls htaken

theorem length_drop_text_first_lt {text : List Char} (h : (first text).isLast = false) :
    (text.drop (first text).text.length).length < text.length := by
  have hne : text ≠ [] := by
    rintro rfl
    simp [first, scanToken, isLast] at h
  have hlen := List.length_pos_iff.2 (text_first_ne_nil hne)
  have hpos := List.length_pos_iff.2 hne
  rw [List.length_drop]
  omega

end Segment

/-- The division of a text into segments, as far as its first fault. -/
def segments (text : List Char) : List Segment :=
  let segment := Segment.first text
  if segment.isLast then [segment]
  else segment :: segments (text.drop segment.text.length)
termination_by text.length
decreasing_by
  rename_i h
  exact Segment.length_drop_text_first_lt (eq_false_of_ne_true h)

end ScriptLexer
