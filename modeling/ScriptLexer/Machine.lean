import ScriptLexer.Machine.Comment
import ScriptLexer.Machine.Number
import ScriptLexer.Machine.StringLiteral
import ScriptLexer.Machine.Symbol
import ScriptLexer.Machine.Word
import ScriptLexer.TokenClass

/-!
# Machines by class

Tokens of five classes have a machine that reads them, and punctuation is read at once. That the
recognizers of `TokenClass.recognizer` tell what is read here is `TokenClass.run_eq`.
-/

namespace ScriptLexer

/-- The outcome of reading a token of a class at a cursor, and the cursor after it. There is no
outcome if the marks that were set mark no slice of the source. -/
def TokenClass.run : TokenClass → Cursor → Option (Outcome Token) × Cursor
  | number, c => Machine.number.run c
  | word, c => Machine.word.run c
  | string, c => Machine.stringLiteral.run c
  | comment, c => Machine.comment.run c
  | operator, c => Machine.operator.run c
  | punctuation, c => c.readMark

/-- **Nothing goes back**: wherever a token is read, the cursor moves over a text at the head. -/
theorem TokenClass.exists_taken_run (cls : TokenClass) (c : Cursor) :
    ∃ taken, taken <+: c.rest ∧ (cls.run c).2 = c.advance taken := by
  cases cls with
  | number => exact Machine.number.exists_taken_runFrom c.position _ _ c
  | word => exact Machine.word.exists_taken_runFrom c.position _ _ c
  | string => exact Machine.stringLiteral.exists_taken_runFrom c.position _ _ c
  | comment => exact Machine.comment.exists_taken_runFrom c.position _ _ c
  | operator => exact Machine.operator.exists_taken_runFrom c.position _ _ c
  | punctuation => exact ⟨_, List.take_prefix 1 _, rfl⟩

end ScriptLexer
