import ScriptLexer.Scan.Basic

/-!
# String literals

A string literal runs from its opening quote to the next character that equals it, except that a
backslash and the character after it are always taken together: neither a quote nor a newline ends
the literal in second place of such a pair. Any other newline, and the end of the text, leaves the
literal unterminated. The escapes are not decoded; the lexeme is what stands between the quotes.

The recognizer accepts any character as the opening quote. A literal that opens with a backslash or
a newline can never be closed, because both have another meaning in its body.
-/

namespace ScriptLexer.Scan

/-- What stands after an opening quote. -/
structure StringBody where
  /-- The characters up to the closing quote, or up to where the literal breaks off. -/
  content : List Char
  /-- Whether the closing quote was found. -/
  closed : Bool
deriving DecidableEq, Repr

/-- A body with more content in front of it. -/
def StringBody.after (lead : List Char) (b : StringBody) : StringBody :=
  { b with content := lead ++ b.content }

/-- The body of a literal with the given quote. -/
def stringBody (quote : Char) : List Char → StringBody
  | [] => ⟨[], false⟩
  | ['\\'] => ⟨['\\'], false⟩
  | '\\' :: c :: rest => (stringBody quote rest).after ['\\', c]
  | c :: rest =>
    if c = '\n' then ⟨[], false⟩
    else if c = quote then ⟨[], true⟩
    else (stringBody quote rest).after [c]

/-- A character at which the two patterns for escapes have failed is no backslash. -/
theorem ne_backslash {c : Char} {rest : List Char} (hlast : c = '\\' → rest = [] → False)
    (hescape : ∀ d tail, c = '\\' → rest = d :: tail → False) : c ≠ '\\' := by
  intro hc
  match rest with
  | [] => exact hlast hc rfl
  | d :: tail => exact hescape d tail hc rfl

/-- The recognizer of string literals. -/
def stringLiteral : Recognizer
  | [] => ⟨[], .reject .unterminatedString⟩
  | quote :: rest =>
    let body := stringBody quote rest
    if body.closed then ⟨quote :: (body.content ++ [quote]), .accept .string body.content⟩
    else ⟨quote :: body.content, .reject .unterminatedString⟩

theorem stringBody_content_isPrefix (quote : Char) (text : List Char) :
    (stringBody quote text).content <+: text := by
  fun_induction stringBody quote text with
  | case1 | case4 | case5 => exact List.nil_prefix
  | case2 => exact List.prefix_rfl
  | case3 c rest ih => exact List.cons_prefix_cons.2 ⟨rfl, List.cons_prefix_cons.2 ⟨rfl, ih⟩⟩
  | case6 c rest _ _ _ _ ih => exact List.cons_prefix_cons.2 ⟨rfl, ih⟩

/-- In a closed body the quote follows the content. -/
theorem stringBody_content_quote_isPrefix {quote : Char} {text : List Char}
    (h : (stringBody quote text).closed = true) :
    (stringBody quote text).content ++ [quote] <+: text := by
  fun_induction stringBody quote text with
  | case1 | case2 | case4 => simp at h
  | case3 c rest ih => exact List.cons_prefix_cons.2 ⟨rfl, List.cons_prefix_cons.2 ⟨rfl, ih h⟩⟩
  | case5 rest => simp
  | case6 c rest _ _ _ _ ih => exact List.cons_prefix_cons.2 ⟨rfl, ih h⟩

theorem stringLiteral_taken_isPrefix (text : List Char) : (stringLiteral text).taken <+: text := by
  fun_cases stringLiteral text with
  | case1 => exact List.nil_prefix
  | case2 quote rest body h =>
    exact List.cons_prefix_cons.2 ⟨rfl, stringBody_content_quote_isPrefix h⟩
  | case3 quote rest body h =>
    exact List.cons_prefix_cons.2 ⟨rfl, stringBody_content_isPrefix quote rest⟩

theorem stringLiteral_taken_ne_nil {text : List Char} (h : text ≠ []) :
    (stringLiteral text).taken ≠ [] := by
  fun_cases stringLiteral text <;> simp_all

end ScriptLexer.Scan
