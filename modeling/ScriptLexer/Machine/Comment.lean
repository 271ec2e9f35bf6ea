import ScriptLexer.Machine.Basic
import ScriptLexer.Scan.Comment

/-!
# The machine for comments

In a block comment the machine never looks ahead for the closing delimiter. At each star it sets the
mark at the end, as if the comment ended there, and if no slash comes next it sets the mark anew at
the next star. The star of the opener sets no mark.

That the mark stands in front of the first closing delimiter in the end, and not at some other star,
is `comment_runFrom_block`. The induction is over the characters in front of that delimiter. Behind
a star the machine is in a state of its own; unless a slash follows, it goes on from there as from
any other character of the comment (`comment_runFrom_star`).
-/

namespace ScriptLexer.Machine

open Scan

/-- How far a comment has been read. -/
inductive CommentState where
  /-- It is about to begin. -/
  | start
  /-- The slash of the opener has been read. -/
  | slash
  /-- A line comment may go on. -/
  | line
  /-- A block comment may go on. -/
  | block
  /-- A block comment may go on or, by a slash, be closed. -/
  | star
  /-- A block comment is closed. -/
  | complete
deriving DecidableEq, Repr

/-- The machine for comments. -/
def comment : Machine CommentState where
  initial := .start
  isComplete
    | .complete => true
    | .start | .slash | .line | .block | .star => false
  move
    | .start, c => if c = '/' then .take .slash else .stop .misplaced
    | .slash, c =>
      if c = '/' then .opening .line
      else if c = '*' then .opening .block
      else .stop .misplaced
    | .line, c => if c = '\n' then .stop .accept else .take .line
    | .block, c => if c = '*' then .closing .star else .take .block
    | .star, c =>
      if c = '*' then .closing .star
      else if c = '/' then .take .complete
      else .take .block
    | .complete, _ => .stop .misplaced
  atEnd
    | .start | .slash | .complete => .misplaced
    | .line => .accept
    | .block | .star => .reject .unterminatedComment
  kind _ := .comment

variable {start : Position} {marks : Marks} {opening : Nat} {c : Cursor} {next : Char}
  {rest text : List Char}

/-! ### Line comments -/

/-- A line comment goes on up to its newline. -/
theorem comment_runFrom_line (hrest : c.rest = text) :
    comment.runFrom start .line marks c =
      (comment.cut start
          { marks with closing := c.offset + utf8Length (text.takeWhile (· ≠ '\n')) } c,
        c.advance (text.takeWhile (· ≠ '\n'))) := by
  induction text generalizing c with
  | nil => exact runFrom_nil rfl hrest
  | cons next rest ih =>
    by_cases hnext : next = '\n'
    · have hmove : comment.move .line next = .stop .accept := if_pos hnext
      rw [runFrom_of_stop rfl hrest hmove, List.takeWhile_cons_of_neg (by simpa using hnext)]
      rfl
    · have hmove : comment.move .line next = .take .line := if_neg hnext
      rw [runFrom_of_take rfl hrest hmove, ih (Cursor.rest_advance_singleton hrest),
        List.takeWhile_cons_of_pos (by simpa using hnext), ← Cursor.advance_append]
      simp only [List.singleton_append, utf8Length_cons, ← Nat.add_assoc]
      rfl

/-! ### Block comments -/

/-- What comes of a block comment that is read at a cursor, with the mark at its beginning, if this
is what is found in front of the first closing delimiter. -/
def blockResult (start : Position) (opening : Nat) (c : Cursor) :
    Option (List Char) → Option (Outcome Token) × Cursor
  | some content =>
    (comment.cut start ⟨opening, c.offset + utf8Length content⟩ c,
      c.advance (content ++ ['*', '/']))
  | none => (some (.failed ⟨.unterminatedComment, start⟩), c.advance c.rest)

theorem blockResult_advance (hrest : c.rest = next :: rest) (content : Option (List Char)) :
    blockResult start opening (c.advance [next]) content =
      blockResult start opening c (content.map (next :: ·)) := by
  cases content with
  | none =>
    show (_, (c.advance [next]).advance (c.advance [next]).rest) = (_, c.advance c.rest)
    rw [Cursor.rest_advance_singleton hrest, ← Cursor.advance_append, hrest]
    rfl
  | some content =>
    show (comment.cut start ⟨_, (c.offset + utf8Length [next]) + utf8Length content⟩ c,
      (c.advance [next]).advance (content ++ ['*', '/'])) = _
    rw [← Cursor.advance_append, Nat.add_assoc, ← utf8Length_append]
    rfl

/-- Behind a star the comment goes on as ever, unless a slash follows. -/
theorem comment_runFrom_star (hslash : ∀ tail, c.rest ≠ '/' :: tail) :
    comment.runFrom start .star marks c = comment.runFrom start .block marks c := by
  match hrest : c.rest with
  | [] => rw [runFrom_nil rfl hrest, runFrom_nil rfl hrest]; rfl
  | next :: rest =>
    have hnext : next ≠ '/' := fun h ↦ hslash rest (h ▸ hrest)
    have hmove : comment.move .star next = comment.move .block next := by
      simp [comment, hnext]
    rw [runFrom_cons rfl hrest, runFrom_cons rfl hrest, hmove]

/-- **A block comment is closed where it first can be.** Every star sets the mark, and the one that
is followed by a slash sets it last. -/
theorem comment_runFrom_block (hrest : c.rest = text) :
    comment.runFrom start .block marks c =
      blockResult start marks.opening c (beforeTerminator? text) := by
  fun_induction beforeTerminator? text generalizing c marks with
  | case1 =>
    rw [runFrom_nil rfl hrest, blockResult, hrest]
    rfl
  | case2 rest =>
    have hslash : (c.advance ['*']).rest = '/' :: rest := Cursor.rest_advance_singleton hrest
    have hstar : comment.move .block '*' = .closing .star := rfl
    have hclose : comment.move .star '/' = .take .complete := rfl
    rw [runFrom_of_closing rfl hrest hstar, runFrom_of_take rfl hslash hclose,
      runFrom_of_isComplete rfl, ← Cursor.advance_append]
    rfl
  | case3 next rest hnone ih =>
    have htail := Cursor.rest_advance_singleton hrest
    rw [← blockResult_advance hrest]
    by_cases hnext : next = '*'
    · have hmove : comment.move .block next = .closing .star := if_pos hnext
      rw [runFrom_of_closing rfl hrest hmove, comment_runFrom_star, ih htail]
      intro tail hslash
      exact hnone tail hnext (htail ▸ hslash)
    · have hmove : comment.move .block next = .take .block := if_neg hnext
      rw [runFrom_of_take rfl hrest hmove, ih htail]

/-! ### Openers -/

theorem comment_run_line (hrest : c.rest = '/' :: '/' :: text) :
    comment.run c =
      (comment.cut c.position
          ⟨c.offset + 2, c.offset + 2 + utf8Length (text.takeWhile (· ≠ '\n'))⟩ c,
        c.advance ('/' :: '/' :: text.takeWhile (· ≠ '\n'))) := by
  have hbehind := Cursor.rest_advance_singleton hrest
  have hslash : comment.move .start '/' = .take .slash := rfl
  have hline : comment.move .slash '/' = .opening .line := rfl
  show comment.runFrom c.position .start ⟨c.offset, c.offset⟩ c = _
  rw [runFrom_of_take rfl hrest hslash, runFrom_of_opening rfl hbehind hline,
    comment_runFrom_line (Cursor.rest_advance_singleton hbehind)]
  simp only [← Cursor.advance_append]
  rfl

theorem comment_run_block (hrest : c.rest = '/' :: '*' :: text) :
    comment.run c =
      match beforeTerminator? text with
      | some content =>
        (comment.cut c.position ⟨c.offset + 2, c.offset + 2 + utf8Length content⟩ c,
          c.advance ('/' :: '*' :: (content ++ ['*', '/'])))
      | none => (some (.failed ⟨.unterminatedComment, c.position⟩), c.advance c.rest) := by
  have hbehind := Cursor.rest_advance_singleton hrest
  have htext := Cursor.rest_advance_singleton hbehind
  have hslash : comment.move .start '/' = .take .slash := rfl
  have hblock : comment.move .slash '*' = .opening .block := rfl
  show comment.runFrom c.position .start ⟨c.offset, c.offset⟩ c = _
  rw [runFrom_of_take rfl hrest hslash, runFrom_of_opening rfl hbehind hblock,
    comment_runFrom_block htext]
  cases beforeTerminator? text with
  | none =>
    rw [blockResult, htext, ← Cursor.advance_append, ← Cursor.advance_append, hrest]
    rfl
  | some content =>
    rw [blockResult, ← Cursor.advance_append, ← Cursor.advance_append]
    rfl

/-- A slash that opens no comment is taken. -/
theorem comment_run_slash (hrest : c.rest = '/' :: text) (hline : text.head? ≠ some '/')
    (hblock : text.head? ≠ some '*') : comment.run c = (some .misplaced, c.advance ['/']) := by
  have hbehind := Cursor.rest_advance_singleton hrest
  have hslash : comment.move .start '/' = .take .slash := rfl
  show comment.runFrom c.position .start ⟨c.offset, c.offset⟩ c = _
  rw [runFrom_of_take rfl hrest hslash]
  match text with
  | [] => exact runFrom_nil rfl hbehind
  | next :: rest =>
    have hmove : comment.move .slash next = .stop .misplaced := by
      simp_all [comment]
    exact runFrom_of_stop rfl hbehind hmove

theorem comment_run_misplaced (hslash : c.rest.head? ≠ some '/') :
    comment.run c = (some .misplaced, c) := by
  show comment.runFrom c.position .start ⟨c.offset, c.offset⟩ c = _
  match hrest : c.rest with
  | [] => exact runFrom_nil rfl hrest
  | next :: rest =>
    have hmove : comment.move .start next = .stop .misplaced := by
      simp_all [comment]
    exact runFrom_of_stop rfl hrest hmove

end ScriptLexer.Machine
