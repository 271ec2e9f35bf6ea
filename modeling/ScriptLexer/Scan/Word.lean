import ScriptLexer.CharClass
import ScriptLexer.Scan.Basic

/-!
# Words

A **word** begins with a letter, an underscore or a dollar sign and goes on as long as such
characters and digits follow. It is a keyword if it is reserved and an identifier otherwise.
-/

namespace ScriptLexer.Scan

/-- The kind of a word. -/
def wordKind (text : List Char) : TokenKind :=
  if isKeyword (String.ofList text) then .keyword else .identifier

/-- The recognizer of keywords and identifiers. -/
def word : Recognizer
  | [] => ⟨[], .misplaced⟩
  | c :: rest =>
    if isIdentStart c then
      let text := c :: rest.takeWhile isIdentContinue
      verbatim (wordKind text) text
    else ⟨[], .misplaced⟩

theorem word_taken_isPrefix (text : List Char) : (word text).taken <+: text := by
  fun_cases word text with
  | case1 => exact List.nil_prefix
  | case2 c rest h w =>
    exact List.cons_prefix_cons.2 ⟨rfl, List.takeWhile_prefix _⟩
  | case3 => exact List.nil_prefix

theorem word_taken_ne_nil {text : List Char} (h : (word text).verdict ≠ .misplaced) :
    (word text).taken ≠ [] := by
  fun_cases word text <;> simp_all [word, verbatim]

end ScriptLexer.Scan
