import ScriptLexer.CharClass
import ScriptLexer.Scan.Basic

/-!
# Numbers

A number is decimal and is made of up to four parts, read from left to right:

* a **sign**, which may be missing;
* a **whole part**, which is a lone zero or a run of digits that does not begin with zero;
* a **fraction**, a point and at least one digit, which may be missing;
* an **exponent**, the letter `e` in either case, perhaps a sign, and at least one digit, which may
  be missing.

No character that could stand in a word may follow directly.

The reading never goes back. Once a point or an `e` has been taken, the number stands or falls with
the digits after it, although what stood before would have been a number by itself. Each part below
takes what belongs to it and hands the rest of the text to the next one; the result is a `Stretch`,
whose characters are the literal as far as it was read.
-/

namespace ScriptLexer.Scan

/-- A stretch of a number literal, and the fault that ended it, if there was one. -/
structure Stretch where
  /-- The characters taken. -/
  taken : List Char
  /-- The fault met after them. -/
  fault : Option Cause
deriving DecidableEq, Repr

/-- A stretch with more characters taken in front of it. -/
def Stretch.after (lead : List Char) (s : Stretch) : Stretch :=
  { s with taken := lead ++ s.taken }

/-- The sign at the head of a text, or nothing. -/
def leadingSign (text : List Char) : List Char :=
  (text.take 1).takeWhile isSign

/-- Whether a text begins with a digit. -/
def startsWithDigit (text : List Char) : Bool :=
  text.head?.any Char.isDigit

/-- A run of digits and then whatever `next` finds; having no digit at all is the fault
`missing`. -/
def digitsThen (missing : Cause) (next : List Char → Stretch) (text : List Char) : Stretch :=
  if startsWithDigit text then
    (next (text.dropWhile Char.isDigit)).after (text.takeWhile Char.isDigit)
  else ⟨[], some missing⟩

/-- The end of a literal, which no character of a word may follow. -/
def literalEnd (text : List Char) : Stretch :=
  ⟨[], (text.head?.filter isIdentContinue).map Cause.invalidTrailingCharacter⟩

/-- The exponent, if there is one, and the end of the literal. -/
def exponent : List Char → Stretch
  | [] => literalEnd []
  | c :: rest =>
    if c = 'e' ∨ c = 'E' then
      let sign := leadingSign rest
      (digitsThen .malformedExponent literalEnd (rest.drop sign.length)).after (c :: sign)
    else literalEnd (c :: rest)

/-- The fraction, if there is one, and what follows it. -/
def fraction : List Char → Stretch
  | [] => exponent []
  | c :: rest =>
    if c = '.' then (digitsThen .malformedNumber exponent rest).after [c]
    else exponent (c :: rest)

/-- The whole part and what follows it. -/
def wholePart : List Char → Stretch
  | [] => ⟨[], some .malformedNumber⟩
  | c :: rest =>
    if c = '0' then
      (if startsWithDigit rest then ⟨[], some .leadingZero⟩ else fraction rest).after [c]
    else digitsThen .malformedNumber fraction (c :: rest)

/-- The literal at the head of a text, as far as it can be read. -/
def numberStretch (text : List Char) : Stretch :=
  let sign := leadingSign text
  (wholePart (text.drop sign.length)).after sign

/-- The recognizer of numbers. -/
def number : Recognizer := fun text ↦
  let stretch := numberStretch text
  match stretch.fault with
  | some cause => ⟨stretch.taken, .reject cause⟩
  | none => verbatim .number stretch.taken

/-! ### Characters are taken from the head of the text -/

theorem Stretch.after_taken_isPrefix (lead : List Char) {rest : List Char} {s : Stretch}
    (h : s.taken <+: rest) : (s.after lead).taken <+: lead ++ rest :=
  (List.prefix_append_right_inj lead).2 h

theorem leadingSign_append_drop (text : List Char) :
    leadingSign text ++ text.drop (leadingSign text).length = text := by
  match text with
  | [] => rfl
  | c :: rest => by_cases h : isSign c = true <;> simp [leadingSign, h]

theorem digitsThen_taken_isPrefix (missing : Cause) {next : List Char → Stretch}
    (hnext : ∀ text, (next text).taken <+: text) (text : List Char) :
    (digitsThen missing next text).taken <+: text := by
  rw [digitsThen]
  split
  · have := Stretch.after_taken_isPrefix (text.takeWhile Char.isDigit)
      (hnext (text.dropWhile Char.isDigit))
    rwa [List.takeWhile_append_dropWhile] at this
  · exact List.nil_prefix

theorem literalEnd_taken_isPrefix (text : List Char) : (literalEnd text).taken <+: text :=
  List.nil_prefix

theorem exponent_taken_isPrefix (text : List Char) : (exponent text).taken <+: text := by
  fun_cases exponent text with
  | case1 => exact literalEnd_taken_isPrefix []
  | case2 c rest h sign =>
    have := Stretch.after_taken_isPrefix (c :: sign)
      (digitsThen_taken_isPrefix .malformedExponent literalEnd_taken_isPrefix
        (rest.drop sign.length))
    rwa [List.cons_append, leadingSign_append_drop] at this
  | case3 c rest h => exact literalEnd_taken_isPrefix _

theorem fraction_taken_isPrefix (text : List Char) : (fraction text).taken <+: text := by
  fun_cases fraction text with
  | case1 => exact exponent_taken_isPrefix []
  | case2 rest =>
    exact Stretch.after_taken_isPrefix ['.']
      (digitsThen_taken_isPrefix .malformedNumber exponent_taken_isPrefix rest)
  | case3 c rest h => exact exponent_taken_isPrefix _

theorem wholePart_taken_isPrefix (text : List Char) : (wholePart text).taken <+: text := by
  fun_cases wholePart text with
  | case1 => exact List.nil_prefix
  | case2 rest =>
    refine Stretch.after_taken_isPrefix ['0'] ?_
    split
    · exact List.nil_prefix
    · exact fraction_taken_isPrefix rest
  | case3 c rest h => exact digitsThen_taken_isPrefix .malformedNumber fraction_taken_isPrefix _

theorem numberStretch_taken_isPrefix (text : List Char) : (numberStretch text).taken <+: text := by
  have := Stretch.after_taken_isPrefix (leadingSign text)
    (wholePart_taken_isPrefix (text.drop (leadingSign text).length))
  rwa [leadingSign_append_drop] at this

theorem number_taken (text : List Char) : (number text).taken = (numberStretch text).taken := by
  simp only [number]
  split <;> rfl

theorem number_taken_isPrefix (text : List Char) : (number text).taken <+: text := by
  rw [number_taken]
  exact numberStretch_taken_isPrefix text

/-! ### A sign or a digit is always taken -/

theorem wholePart_taken_ne_nil {text : List Char} (h : startsWithDigit text = true) :
    (wholePart text).taken ≠ [] := by
  fun_cases wholePart text with
  | case1 => simp [startsWithDigit] at h
  | case2 rest => simp [Stretch.after]
  | case3 c rest hc =>
    have hd : c.isDigit = true := by simpa [startsWithDigit] using h
    simp [digitsThen, h, hd, Stretch.after]

theorem number_taken_ne_nil {c : Char} (rest : List Char)
    (h : isSign c = true ∨ c.isDigit = true) : (number (c :: rest)).taken ≠ [] := by
  rw [number_taken]
  by_cases hs : isSign c = true
  · simp [numberStretch, leadingSign, hs, Stretch.after]
  · have hd : c.isDigit = true := h.resolve_left hs
    have := @wholePart_taken_ne_nil (c :: rest) (by simpa [startsWithDigit] using hd)
    simpa [numberStretch, leadingSign, hs, Stretch.after] using this

end ScriptLexer.Scan
