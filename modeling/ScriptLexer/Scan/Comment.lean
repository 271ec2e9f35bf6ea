import ScriptLexer.Scan.Basic

/-!
# Comments

A comment that opens with two slashes runs to the end of its line, the newline left out. One that
opens with a slash and a star runs to the first star and slash in the text after the opener; the
star of the opener is not part of that text, so a slash right after it closes nothing. The lexeme
is what stands between the delimiters.
-/

namespace ScriptLexer.Scan

/-- The text before the first star and slash, if they occur. -/
def beforeTerminator? : List Char → Option (List Char)
  | [] => none
  | '*' :: '/' :: _ => some []
  | c :: rest => (beforeTerminator? rest).map (c :: ·)

/-- The recognizer of comments. -/
def comment : Recognizer
  | '/' :: '/' :: rest =>
    let content := rest.takeWhile (· ≠ '\n')
    ⟨'/' :: '/' :: content, .accept .comment content⟩
  | '/' :: '*' :: rest =>
    match beforeTerminator? rest with
    | some content => ⟨'/' :: '*' :: (content ++ ['*', '/']), .accept .comment content⟩
    | none => ⟨'/' :: '*' :: rest, .reject .unterminatedComment⟩
  | '/' :: _ => ⟨['/'], .misplaced⟩
  | _ => ⟨[], .misplaced⟩

theorem beforeTerminator?_isPrefix {text content : List Char}
    (h : beforeTerminator? text = some content) : content ++ ['*', '/'] <+: text := by
  fun_induction beforeTerminator? text generalizing content with
  | case1 => simp at h
  | case2 rest => simp_all
  | case3 c rest _ ih =>
    obtain ⟨tail, htail, rfl⟩ := Option.map_eq_some_iff.1 h
    exact List.cons_prefix_cons.2 ⟨rfl, ih htail⟩

theorem comment_taken_isPrefix (text : List Char) : (comment text).taken <+: text := by
  fun_cases comment text with
  | case1 rest content => simpa using List.takeWhile_prefix _
  | case2 rest content h => simpa using beforeTerminator?_isPrefix h
  | case3 rest h => exact List.prefix_rfl
  | case4 rest => simp
  | case5 => exact List.nil_prefix

theorem comment_taken_ne_nil {text : List Char} (h : (comment text).verdict ≠ .misplaced) :
    (comment text).taken ≠ [] := by
  fun_cases comment text <;> simp_all [comment]

end ScriptLexer.Scan
