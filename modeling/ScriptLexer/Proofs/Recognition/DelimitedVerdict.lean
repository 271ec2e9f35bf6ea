import ScriptLexer.Proofs.Lines
import ScriptLexer.Proofs.Recognition.Fault
import ScriptLexer.Proofs.Refinement

/-!
# The verdicts on strings and comments

What is said of string literals and comments at any place, wherever one is read, and how far that
goes.

Whether a quote closes a literal, and whether a newline breaks it off, is settled by the backslashes
before it. The grammar groups them into units from the front. Seen from the character itself, it is
escaped if the run of backslashes before it is odd (`Scan.IsEscaping`), and this is how the end of
a literal that is not closed is described (`Scan.IsLogicalLine`): it needs no quote, and so it also
fits the literals that open with a backslash or a newline, which nothing can close.

A block comment ends where a search for the closing delimiter first finds it, although the machine
that reads it does not search. The recognizer, with which it agrees (`Machine.comment_run_eq`),
reads up to there content that does not contain the delimiter; that no occurrence overlaps the end
of such content is `Scan.isPrefix_of_isBlockContent`.
-/

namespace ScriptLexer

open Grammar

variable {text taken lead content lexeme rest front back : List Char} {quote c : Char}

namespace Scan

/-! ### Escapes -/

/-- A text escapes the character after it if it ends with an odd number of backslashes. -/
def IsEscaping (before : List Char) : Prop :=
  (before.rtakeWhile (· = '\\')).length % 2 = 1

theorem not_isEscaping_nil : ¬ IsEscaping [] := by
  simp [IsEscaping]

/-- A backslash escapes what follows unless it is escaped itself; no other character does. -/
theorem isEscaping_concat : IsEscaping (text ++ [c]) ↔ c = '\\' ∧ ¬ IsEscaping text := by
  by_cases hc : c = '\\'
  · rw [IsEscaping, List.rtakeWhile_concat_pos _ _ _ (by simpa using hc), List.length_append,
      List.length_singleton, and_iff_right hc, IsEscaping]
    omega
  · rw [IsEscaping, List.rtakeWhile_concat_neg _ _ _ (by simpa using hc)]
    simp [hc]

theorem isEscaping_backslash : IsEscaping ['\\'] :=
  isEscaping_concat.2 ⟨rfl, not_isEscaping_nil⟩

/-- Behind a text that escapes nothing, backslashes are counted afresh. -/
theorem isEscaping_append (h : ¬ IsEscaping lead) :
    IsEscaping (lead ++ text) ↔ IsEscaping text := by
  -- the run of backslashes ends the text, from where the induction therefore goes
  induction text using List.reverseRecOn with
  | nil => simp [h, not_isEscaping_nil]
  | append_singleton text d ih =>
    rw [← List.append_assoc, isEscaping_concat, isEscaping_concat, ih]

/-- An escape has no part in what comes after it. -/
theorem isEscaping_escape (c : Char) (text : List Char) :
    IsEscaping ('\\' :: c :: text) ↔ IsEscaping text := by
  have hpair : ¬ IsEscaping (['\\'] ++ [c]) := fun h ↦
    (isEscaping_concat.1 h).2 isEscaping_backslash
  exact isEscaping_append hpair

theorem isEscaping_cons (hc : c ≠ '\\') (text : List Char) :
    IsEscaping (c :: text) ↔ IsEscaping text := by
  have hsingle : ¬ IsEscaping ([] ++ [c]) := fun h ↦ hc (isEscaping_concat.1 h).1
  exact isEscaping_append hsingle

/-- The head of a text up to its first newline that is not escaped, or the whole of a text that has
no such newline. -/
structure IsLogicalLine (line rest : List Char) : Prop where
  /-- The newlines in it are escaped. -/
  isEscaping : ∀ front back, line = front ++ '\n' :: back → IsEscaping front
  /-- The newline after it is not; nothing else follows it. -/
  head? : ∀ c ∈ rest.head?, c = '\n' ∧ ¬ IsEscaping line

end Scan

open Scan

namespace Grammar.IsStringContent

/-- Units escape nothing that comes after them. -/
theorem not_isEscaping (h : IsStringContent quote content) : ¬ IsEscaping content := by
  induction h with
  | nil => exact not_isEscaping_nil
  | escaped c _ ih => rwa [isEscaping_escape]
  | plain hc _ _ _ ih => rwa [isEscaping_cons hc]

/-- **A newline among units** is in second place of an escape. -/
theorem isEscaping_of_newline (h : IsStringContent quote content)
    (hcontent : content = front ++ '\n' :: back) : IsEscaping front := by
  induction h generalizing front with
  | nil => simp at hcontent
  | escaped c _ ih =>
    match front with
    | [] => simp at hcontent
    | [d] =>
      obtain ⟨rfl, -⟩ := List.cons.inj hcontent
      exact isEscaping_backslash
    | d :: e :: front =>
      obtain ⟨rfl, htail⟩ := List.cons.inj hcontent
      obtain ⟨rfl, hrest⟩ := List.cons.inj htail
      exact (isEscaping_escape c front).2 (ih hrest)
  | plain hc _ hnewline _ ih =>
    match front with
    | [] => exact absurd (List.cons.inj hcontent).1 hnewline
    | d :: front =>
      obtain ⟨rfl, htail⟩ := List.cons.inj hcontent
      exact (isEscaping_cons hc front).2 (ih htail)

theorem isLogicalLine (h : IsStringContent quote content) (hrest : ∀ c ∈ rest.head?, c = '\n') :
    IsLogicalLine content rest :=
  ⟨fun _ _ ↦ h.isEscaping_of_newline, fun c hc ↦ ⟨hrest c hc, h.not_isEscaping⟩⟩

/-- A lone backslash belongs to the line that it ends. -/
theorem isLogicalLine_backslash (h : IsStringContent quote content) :
    IsLogicalLine (content ++ ['\\']) [] := by
  refine ⟨fun front back hline ↦ ?_, by simp⟩
  obtain rfl | ⟨back, last, rfl⟩ := List.eq_nil_or_concat back
  · simp at hline
  · have hsplit : front ++ '\n' :: back.concat last = front ++ '\n' :: back ++ [last] := by simp
    exact h.isEscaping_of_newline (List.append_inj_left' (hline.trans hsplit) rfl)

end Grammar.IsStringContent

namespace Scan

/-! ### Strings -/

/-- A text begins with a string literal in some quote: `content` stands between the quotes, and
`rest` behind the second of them. Backslashes and newlines are no quotes. -/
structure IsQuoted (quote : Char) (content rest text : List Char) : Prop where
  /-- A backslash would begin an escape. -/
  ne_backslash : quote ≠ '\\'
  /-- A newline would end the line. -/
  ne_newline : quote ≠ '\n'
  /-- Units stand between the quotes. -/
  isStringContent : IsStringContent quote content
  /-- The two quotes are equal. -/
  text_eq : text = quote :: (content ++ quote :: rest)

/-- **A literal that is closed** is accepted with what stands between its quotes. -/
theorem IsQuoted.stringLiteral_eq (h : IsQuoted quote content rest text) :
    stringLiteral text = ⟨quote :: (content ++ [quote]), .accept .string content⟩ :=
  stringLiteral_eq_accept_iff.2
    ⟨rfl, quote, h.ne_backslash, h.ne_newline, h.isStringContent, rfl, rest, by simp [h.text_eq]⟩

theorem exists_isQuoted {kind : TokenKind}
    (h : stringLiteral text = ⟨taken, .accept kind lexeme⟩) :
    kind = .string ∧ ∃ quote rest, IsQuoted quote lexeme rest text ∧
      taken = quote :: (lexeme ++ [quote]) := by
  obtain ⟨hkind, quote, hslash, hnewline, hcontent, rfl, rest, htext⟩ :=
    stringLiteral_eq_accept_iff.1 h
  exact ⟨hkind, quote, rest, ⟨hslash, hnewline, hcontent, by simp [htext]⟩, rfl⟩

/-- There is one way to read a text as a literal. -/
theorem IsQuoted.content_unique {quote' : Char} {content' rest' : List Char}
    (h : IsQuoted quote content rest text) (h' : IsQuoted quote' content' rest' text) :
    content = content' :=
  (accept_inj (h.stringLiteral_eq.symm.trans h'.stringLiteral_eq)).2.2

/-- What is taken behind the quote of a literal that is not closed is one logical line. -/
theorem exists_isLogicalLine (h : (stringBody quote text).closed = false) :
    ∃ rest, text = (stringBody quote text).content ++ rest ∧
      IsLogicalLine (stringBody quote text).content rest := by
  obtain ⟨hcontent, rest, htext, hend⟩ | ⟨units, hunits, hcontent, htext⟩ := stringBody_open h
  · exact ⟨rest, htext, hcontent.isLogicalLine hend⟩
  · rw [hcontent]
    exact ⟨[], by rw [htext, List.append_nil], hunits.isLogicalLine_backslash⟩

/-- **A literal that is not closed** is given up at the end of its logical line. -/
theorem stringLiteral_of_not_isQuoted
    (h : ∀ quote content rest, ¬ IsQuoted quote content rest text) :
    ∃ line rest, text.tail = line ++ rest ∧ IsLogicalLine line rest ∧
      stringLiteral text = ⟨text.take 1 ++ line, .reject .unterminatedString⟩ := by
  fun_cases stringLiteral text with
  | case1 => exact ⟨[], [], rfl, ⟨by simp, by simp⟩, rfl⟩
  | case2 quote tail body hclosed =>
    have haccept : stringLiteral (quote :: tail) =
        ⟨quote :: (body.content ++ [quote]), .accept .string body.content⟩ := by
      rw [stringLiteral, if_pos hclosed]
    obtain ⟨-, _, _, hquoted, -⟩ := exists_isQuoted haccept
    exact absurd hquoted (h _ _ _)
  | case3 quote tail body hopen =>
    obtain ⟨rest, htail, hline⟩ := exists_isLogicalLine (eq_false_of_ne_true hopen)
    exact ⟨body.content, rest, htail, hline, rfl⟩

/-! ### Comments -/

/-- **No occurrence comes earlier** than the closing delimiter behind content that does not contain
it, nor does one overlap the end of such content. -/
theorem isPrefix_of_isBlockContent (h : IsBlockContent content)
    (htext : content ++ '*' :: '/' :: rest = front ++ '*' :: '/' :: back) : content <+: front := by
  obtain ⟨more, rfl, -⟩ | ⟨more, rfl, hmore⟩ := List.append_eq_append_iff.1 htext
  · exact List.prefix_append _ _
  · match more with
    | [] => simp
    -- the star found is the last character of the content, and a star follows it, not a slash
    | [d] => simp at hmore
    | d :: e :: more =>
      obtain ⟨rfl, htail⟩ := List.cons.inj hmore
      obtain ⟨rfl, -⟩ := List.cons.inj htail
      exact absurd ⟨front, more, by simp⟩ h

/-- **A block comment that is closed** ends with the first occurrence of its closing delimiter. -/
theorem comment_block_of_isInfix (h : ['*', '/'] <:+: text) :
    ∃ content rest, text = content ++ '*' :: '/' :: rest ∧
      (∀ front back, text = front ++ '*' :: '/' :: back → content <+: front) ∧
      comment ('/' :: '*' :: text) =
        ⟨'/' :: '*' :: (content ++ ['*', '/']), .accept .comment content⟩ := by
  obtain ⟨content, rest, hbefore, hcontent, htext⟩ | ⟨-, hnone⟩ := beforeTerminator?_cases text
  · refine ⟨content, rest, htext, fun front back hfront ↦ ?_, ?_⟩
    · exact isPrefix_of_isBlockContent hcontent (htext.symm.trans hfront)
    · rw [comment, hbefore]
  · exact absurd h hnone

/-- **A block comment that is not closed** is taken to the end of the text. -/
theorem comment_block_of_not_isInfix (h : ¬ ['*', '/'] <:+: text) :
    comment ('/' :: '*' :: text) = ⟨'/' :: '*' :: text, .reject .unterminatedComment⟩ := by
  rw [comment, beforeTerminator?_eq_none h]

/-- **A line comment** is what stands before the first newline. -/
theorem comment_line (text : List Char) :
    ∃ content rest, text = content ++ rest ∧ IsLineContent content ∧
      (∀ c ∈ rest.head?, c = '\n') ∧
      (∀ run, run <+: text → IsLineContent run → run <+: content) ∧
      comment ('/' :: '/' :: text) = ⟨'/' :: '/' :: content, .accept .comment content⟩ := by
  have hline : IsLineContent (text.takeWhile (· ≠ '\n')) := fun hmem ↦ by
    simpa using List.mem_takeWhile_imp hmem
  refine ⟨_, text.dropWhile (· ≠ '\n'), List.takeWhile_append_dropWhile.symm, hline,
    fun c hc ↦ ?_, fun run hrun hfree ↦ ?_, rfl⟩
  · simpa using eq_false_of_mem_head?_dropWhile c hc
  · obtain ⟨rest, rfl⟩ := hrun
    rw [List.takeWhile_append_of_pos fun c hc ↦ by simpa using ne_of_mem_of_not_mem hc hfree]
    exact List.prefix_append _ _

/-- **Where no comment opens**, none is found, but a slash is taken all the same. -/
theorem comment_misplaced (hblock : ¬ ['/', '*'] <+: text) (hline : ¬ ['/', '/'] <+: text) :
    comment text = ⟨if text.head? = some '/' then ['/'] else [], .misplaced⟩ := by
  fun_cases comment text with
  | case1 | case2 | case3 => simp_all
  | case4 => rfl
  | case5 _ _ _ hslash =>
    have hhead : text.head? ≠ some '/' := fun hsome ↦ by
      obtain ⟨tail, rfl⟩ := List.head?_eq_some_iff.1 hsome
      exact hslash tail rfl
    rw [if_neg hhead]

end Scan

/-! ### At a cursor -/

namespace Cursor

/-- Over a literal, lines are counted by the newlines in it, and columns from the last of them. -/
theorem advanceOver_quoted (p : Position) (hquote : quote ≠ '\n') (content : List Char) :
    p.advanceOver (quote :: (content ++ [quote])) =
      ⟨p.line + content.count '\n',
        if '\n' ∈ content then (lastLine content).length + 2
        else p.column + content.length + 2⟩ := by
  rw [Position.advanceOver_cons, Position.advanceOver_append, Position.advanceOver_cons,
    Position.advanceOver_nil, Position.advance, if_neg hquote, Position.advance, if_neg hquote,
    advanceOver_eq]
  simp only [Position.mk.injEq, true_and]
  split <;> omega

/-- **The recognizer of string literals** accepts just the texts that begin with two equal quotes
and units between them, whatever the quote is. Of every other text it takes the first character and
one logical line behind it. It answers everywhere, and the lexeme can be cut out between the
quotes. The machine for string literals, which does so, says and does the same. -/
theorem recognize_stringLiteral_verdicts (c : Cursor) :
    -- literals
    (∀ t c', c.recognize Scan.stringLiteral = (.accepted t, c') ↔
      ∃ quote content rest, Scan.IsQuoted quote content rest c.rest ∧
        t = ⟨.string, String.ofList content, c.position⟩ ∧
        c' = c.advance (quote :: (content ++ [quote]))) ∧
    (∀ quote content rest, Scan.IsQuoted quote content rest c.rest →
      (∀ quote' content' rest', Scan.IsQuoted quote' content' rest' c.rest →
        content = content') ∧
      (c.advance (quote :: (content ++ [quote]))).rest = rest ∧
      (c.advance (quote :: (content ++ [quote]))).position =
        ⟨c.position.line + content.count '\n',
          if '\n' ∈ content then (lastLine content).length + 2
          else c.position.column + content.length + 2⟩) ∧
    -- everything else
    ((∀ quote content rest, ¬ Scan.IsQuoted quote content rest c.rest) →
      ∃ line rest, c.rest.tail = line ++ rest ∧ Scan.IsLogicalLine line rest ∧
        c.recognize Scan.stringLiteral =
          (.failed ⟨.unterminatedString, c.position⟩, c.advance (c.rest.take 1 ++ line)) ∧
        (c.advance (c.rest.take 1 ++ line)).rest = rest) ∧
    -- the machine
    (∀ before, c.IsAt before → TokenClass.string.run c =
      (some (c.recognize Scan.stringLiteral).1, (c.recognize Scan.stringLiteral).2)) ∧
    -- panics
    (c.recognize Scan.stringLiteral).1 ≠ .misplaced ∧
    ∀ before quote content rest, c.IsAt before → Scan.IsQuoted quote content rest c.rest →
      c.slice? (c.offset + quote.utf8Size) (c.offset + quote.utf8Size + utf8Length content) =
        some (String.ofList content) := by
  refine ⟨fun t c' ↦ ?_, fun quote content rest h ↦ ⟨fun _ _ _ ↦ h.content_unique, ?_, ?_⟩,
    fun h ↦ ?_, fun before h ↦ TokenClass.string.run_eq h.isBetween,
    fun h ↦ Scan.stringLiteral_verdict_ne_misplaced _ (Verdict.at_eq_misplaced_iff.1 h),
    fun before quote content rest hplace h ↦ ?_⟩
  · rw [recognize_eq_accepted_iff]
    constructor
    · intro ⟨taken, kind, lexeme, hscan, ht, hcursor⟩
      obtain ⟨rfl, quote, rest, hquoted, rfl⟩ := Scan.exists_isQuoted hscan
      exact ⟨quote, lexeme, rest, hquoted, ht, hcursor⟩
    · intro ⟨quote, content, rest, hquoted, ht, hcursor⟩
      exact ⟨_, _, _, hquoted.stringLiteral_eq, ht, hcursor⟩
  · exact rest_advance (by simp [h.text_eq])
  · exact advanceOver_quoted c.position h.ne_newline content
  · obtain ⟨line, rest, htail, hline, hscan⟩ := Scan.stringLiteral_of_not_isQuoted h
    refine ⟨line, rest, htail, hline, recognize_eq hscan, rest_advance ?_⟩
    rw [List.append_assoc, ← htail, ← List.drop_one, List.take_append_drop]
  · have hahead : c.IsBetween c.source before ([quote] ++ (content ++ quote :: rest)) :=
      ⟨rfl, hplace, h.text_eq⟩
    simpa [Nat.add_assoc] using hahead.slice?_eq

/-- Escapes count behind a quote that cannot be closed, too: the second backslash takes the newline
after it along, and the second newline ends the line. -/
example : (ofString "\\a\\\nb\n").recognize Scan.stringLiteral =
    (.failed ⟨.unterminatedString, ⟨1, 1⟩⟩,
      (ofString "\\a\\\nb\n").advance ['\\', 'a', '\\', '\n', 'b']) := by
  decide

end Cursor

namespace TokenClass

variable {c : Cursor} {before : List Char}

/-- **The machine for comments** ends a block comment at the first closing delimiter behind its
opener, and a line comment at its line. It goes to the end of the text for a delimiter that is
missing, and over one slash for a comment that does not open. -/
theorem run_comment_verdicts (h : c.IsAt before) :
    -- block comments
    (∀ text, c.rest = '/' :: '*' :: text →
      (['*', '/'] <:+: text → ∃ content rest, text = content ++ '*' :: '/' :: rest ∧
        (∀ front back, text = front ++ '*' :: '/' :: back → content <+: front) ∧
        comment.run c =
          (some (.accepted ⟨.comment, String.ofList content, c.position⟩),
            c.advance ('/' :: '*' :: (content ++ ['*', '/']))) ∧
        (c.advance ('/' :: '*' :: (content ++ ['*', '/']))).rest = rest) ∧
      (¬ ['*', '/'] <:+: text →
        comment.run c =
          (some (.failed ⟨.unterminatedComment, c.position⟩), c.advance c.rest) ∧
        (c.advance c.rest).rest = [])) ∧
    -- line comments
    (∀ text, c.rest = '/' :: '/' :: text → ∃ content rest, text = content ++ rest ∧
      IsLineContent content ∧ (∀ run, run <+: text → IsLineContent run → run <+: content) ∧
      (∀ d ∈ rest.head?, d = '\n') ∧
      comment.run c =
        (some (.accepted ⟨.comment, String.ofList content, c.position⟩),
          c.advance ('/' :: '/' :: content)) ∧
      (c.advance ('/' :: '/' :: content)).rest = rest) ∧
    -- everything else
    (¬ ['/', '*'] <+: c.rest → ¬ ['/', '/'] <+: c.rest →
      comment.run c =
        (some .misplaced, c.advance (if c.rest.head? = some '/' then ['/'] else []))) := by
  have hplace := h.isBetween
  simp only [run_eq_some_iff hplace]
  refine ⟨fun text htext ↦ ⟨fun hclosed ↦ ?_, fun hopen ↦ ?_⟩, fun text htext ↦ ?_,
    fun hblock hline ↦ Cursor.recognize_eq (Scan.comment_misplaced hblock hline)⟩
  · obtain ⟨content, rest, hsplit, hfirst, hscan⟩ := Scan.comment_block_of_isInfix hclosed
    rw [← htext] at hscan
    exact ⟨content, rest, hsplit, hfirst, Cursor.recognize_eq hscan,
      Cursor.rest_advance (by simp [htext, hsplit])⟩
  · have hscan := Scan.comment_block_of_not_isInfix hopen
    rw [← htext] at hscan
    exact ⟨Cursor.recognize_eq hscan, Cursor.rest_advance (List.append_nil _).symm⟩
  · obtain ⟨content, rest, hsplit, hcontent, hend, hlongest, hscan⟩ := Scan.comment_line text
    rw [← htext] at hscan
    exact ⟨content, rest, hsplit, hcontent, hlongest, hend, Cursor.recognize_eq hscan,
      Cursor.rest_advance (by simp [htext, hsplit])⟩

/-- The star of the opener closes nothing, and of a run of stars the last one closes. -/
theorem run_comment_verdicts_stars :
    ((Cursor.ofString "é/*/**/*/").advance ['é']).IsAt ['é'] ∧
      comment.run ((Cursor.ofString "é/*/**/*/").advance ['é']) =
        (some (.accepted ⟨.comment, "/*", ⟨1, 2⟩⟩),
          (Cursor.ofString "é/*/**/*/").advance ['é', '/', '*', '/', '*', '*', '/']) ∧
      ∀ front back, ['/', '*', '*', '/', '*', '/'] = front ++ '*' :: '/' :: back →
        ['/', '*'] <+: front := by
  have hplace : ((Cursor.ofString "é/*/**/*/").advance ['é']).IsAt ['é'] :=
    (Cursor.isAt_ofString "é/*/**/*/").advance ⟨_, rfl⟩
  have hrun : comment.run ((Cursor.ofString "é/*/**/*/").advance ['é']) =
      (some (.accepted ⟨.comment, "/*", ⟨1, 2⟩⟩),
        (Cursor.ofString "é/*/**/*/").advance ['é', '/', '*', '/', '*', '*', '/']) := by
    decide +kernel
  have hclosed : ['*', '/'] <:+: ['/', '*', '*', '/', '*', '/'] :=
    ⟨['/', '*'], ['*', '/'], rfl⟩
  obtain ⟨content, _, -, hfirst, haccepted, -⟩ :=
    ((run_comment_verdicts hplace).1 ['/', '*', '*', '/', '*', '/'] rfl).1 hclosed
  have htoken := Option.some.inj (congrArg Prod.fst (hrun.symm.trans haccepted))
  have hlexeme : "/*" = String.ofList content := congrArg Token.lexeme (Outcome.accepted.inj htoken)
  obtain rfl : content = ['/', '*'] := String.ofList_injective hlexeme.symm
  exact ⟨hplace, hrun, hfirst⟩

end TokenClass

end ScriptLexer
