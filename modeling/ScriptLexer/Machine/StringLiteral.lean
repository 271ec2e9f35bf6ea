import ScriptLexer.Machine.Basic
import ScriptLexer.Scan.StringLiteral

/-!
# The machine for string literals

The first character becomes the quote, which the states behind it carry along. The lexeme begins
behind the opening quote and ends in front of the next one that is not escaped; there the literal is
complete, and nothing more is looked at.
-/

namespace ScriptLexer.Machine

open Scan

/-- How far a string literal has been read. -/
inductive StringState where
  /-- It is about to begin. -/
  | start
  /-- A unit of its content may follow, or the closing quote. -/
  | body (quote : Char)
  /-- A backslash has been read, and whatever follows belongs to it. -/
  | escape (quote : Char)
  /-- It is closed. -/
  | complete
deriving DecidableEq, Repr

/-- The machine for string literals. -/
def stringLiteral : Machine StringState where
  initial := .start
  isComplete
    | .complete => true
    | .start | .body _ | .escape _ => false
  move
    | .start, c => .opening (.body c)
    | .body quote, c =>
      if c = '\n' then .stop (.reject .unterminatedString)
      else if c = '\\' then .take (.escape quote)
      else if c = quote then .closing .complete
      else .take (.body quote)
    | .escape quote, _ => .take (.body quote)
    | .complete, _ => .stop .misplaced
  atEnd _ := .reject .unterminatedString
  kind _ := .string

/-! ### Behind the opening quote -/

/-- What comes of the body of a literal that is read at a cursor, with the mark at its beginning. -/
def bodyResult (start : Position) (opening : Nat) (quote : Char) (c : Cursor) (body : StringBody) :
    Option (Outcome Token) × Cursor :=
  if body.closed then
    (stringLiteral.cut start ⟨opening, c.offset + utf8Length body.content⟩ c,
      c.advance (body.content ++ [quote]))
  else (some (.failed ⟨.unterminatedString, start⟩), c.advance body.content)

variable {start : Position} {marks : Marks} {opening : Nat} {quote : Char} {c : Cursor}
  {lead text : List Char} {body : StringBody}

/-- What is read farther on is read here, with what lies between in front of it. -/
theorem bodyResult_advance :
    bodyResult start opening quote (c.advance lead) body =
      bodyResult start opening quote c (body.after lead) := by
  simp only [bodyResult, StringBody.after, List.append_assoc, utf8Length_append,
    Cursor.advance_append c lead, ← Nat.add_assoc]
  rfl

/-- **Units are read up to the closing quote**, at which the other mark is set. -/
theorem stringLiteral_runFrom_body (hrest : c.rest = text) :
    stringLiteral.runFrom start (.body quote) marks c =
      bodyResult start marks.opening quote c (stringBody quote text) := by
  fun_induction stringBody quote text generalizing c with
  | case1 => exact runFrom_nil rfl hrest
  | case2 =>
    rw [runFrom_of_take rfl hrest rfl]
    exact runFrom_nil rfl (Cursor.rest_advance_singleton hrest)
  | case3 next rest ih =>
    have hescape : (c.advance ['\\']).rest = next :: rest := Cursor.rest_advance_singleton hrest
    rw [runFrom_of_take rfl hrest rfl, runFrom_of_take rfl hescape rfl,
      ih (Cursor.rest_advance_singleton hescape), ← Cursor.advance_append, bodyResult_advance]
    rfl
  | case4 rest _ _ =>
    have hmove : stringLiteral.move (.body quote) '\n' = .stop (.reject .unterminatedString) := rfl
    exact runFrom_of_stop rfl hrest hmove
  | case5 rest hlast hescape hnewline =>
    have hmove : stringLiteral.move (.body quote) quote = .closing .complete := by
      simp [stringLiteral, hnewline, ne_backslash hlast hescape]
    rw [runFrom_of_closing rfl hrest hmove]
    exact runFrom_of_isComplete rfl
  | case6 next rest hlast hescape hnewline hquote ih =>
    have hmove : stringLiteral.move (.body quote) next = .take (.body quote) := by
      simp [stringLiteral, hnewline, ne_backslash hlast hescape, hquote]
    rw [runFrom_of_take rfl hrest hmove, ih (Cursor.rest_advance_singleton hrest),
      bodyResult_advance]

/-- **The machine at a string literal.** The lexeme is cut out between the quotes. -/
theorem stringLiteral_run (hrest : c.rest = quote :: text) :
    stringLiteral.run c =
      if (stringBody quote text).closed then
        (stringLiteral.cut c.position
            ⟨c.offset + quote.utf8Size,
              c.offset + quote.utf8Size + utf8Length (stringBody quote text).content⟩ c,
          c.advance (quote :: ((stringBody quote text).content ++ [quote])))
      else
        (some (.failed ⟨.unterminatedString, c.position⟩),
          c.advance (quote :: (stringBody quote text).content)) := by
  have hmove : stringLiteral.move .start quote = .opening (.body quote) := rfl
  show stringLiteral.runFrom c.position .start ⟨c.offset, c.offset⟩ c = _
  rw [runFrom_of_opening rfl hrest hmove,
    stringLiteral_runFrom_body (Cursor.rest_advance_singleton hrest), bodyResult]
  simp only [← Cursor.advance_append]
  rfl

end ScriptLexer.Machine
