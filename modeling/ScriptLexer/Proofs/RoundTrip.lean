import Mathlib.Data.List.Forall2
import ScriptLexer.Proofs.TokenList

/-!
# Round trip

Which tokens the lexer can give, and that it gives back what is written for it. A pair of a kind
and a lexeme is **valid** if the lexeme is one of that kind by the grammar. Every token that is seen
is valid, and every list of valid pairs is read back from a source with one rendered pair to a line.

No rendered pair can reach its neighbour, because a newline ends every token
(`Grammar.endsBefore_newline`). The gap of the newline then belongs to the token after it.
-/

namespace ScriptLexer

open Grammar

variable {kind : TokenKind} {lexeme text gap : List Char} {pair : TokenKind × String}
  {pairs : List (TokenKind × String)} {texts : List (List Char)}

/-! ### Renderings -/

/-- A pair of a kind and a lexeme that the grammar knows. -/
def IsValid (pair : TokenKind × String) : Prop :=
  pair.1 ≠ .endOfInput ∧ IsLexeme pair.1 pair.2.toList

/-- The renderings of a pair. Only for strings there may be a choice. -/
inductive IsRendering : TokenKind × String → List Char → Prop
  /-- A string is put between quotes that fit it. -/
  | string {quote : Char} {lexeme : String} :
    IsQuote quote → IsStringContent quote lexeme.toList →
      IsRendering (.string, lexeme) (quote :: (lexeme.toList ++ [quote]))
  /-- A comment without newlines is put behind two slashes. -/
  | line {lexeme : String} :
    '\n' ∉ lexeme.toList → IsRendering (.comment, lexeme) ('/' :: '/' :: lexeme.toList)
  /-- A comment with newlines is put between block delimiters. -/
  | block {lexeme : String} :
    '\n' ∈ lexeme.toList →
      IsRendering (.comment, lexeme) ('/' :: '*' :: (lexeme.toList ++ ['*', '/']))
  /-- Every other pair is rendered as its lexeme. -/
  | verbatim {kind : TokenKind} {lexeme : String} :
    kind ≠ .string → kind ≠ .comment → IsRendering (kind, lexeme) lexeme.toList

/-- Texts with a newline after each. -/
def linesOf (texts : List (List Char)) : List Char :=
  texts.flatMap (· ++ ['\n'])

@[simp] theorem linesOf_nil : linesOf [] = [] := rfl

@[simp] theorem linesOf_cons : linesOf (text :: texts) = text ++ '\n' :: linesOf texts := by
  simp [linesOf]

/-- Every valid pair has a rendering. -/
theorem exists_isRendering (h : IsValid pair) : ∃ text, IsRendering pair text := by
  obtain ⟨kind, lexeme⟩ := pair
  by_cases hstring : kind = .string
  · obtain rfl := hstring
    obtain ⟨-, quote, hquote, hcontent⟩ := h
    exact ⟨_, .string hquote hcontent⟩
  by_cases hcomment : kind = .comment
  · obtain rfl := hcomment
    by_cases hline : '\n' ∈ lexeme.toList
    · exact ⟨_, .block hline⟩
    · exact ⟨_, .line hline⟩
  · exact ⟨_, .verbatim hstring hcomment⟩

theorem exists_forall₂_isRendering (h : ∀ pair ∈ pairs, IsValid pair) :
    ∃ texts, List.Forall₂ IsRendering pairs texts := by
  induction pairs with
  | nil => exact ⟨[], .nil⟩
  | cons pair pairs ih =>
    obtain ⟨hpair, hpairs⟩ := List.forall_mem_cons.1 h
    obtain ⟨text, htext⟩ := exists_isRendering hpair
    obtain ⟨texts, htexts⟩ := ih hpairs
    exact ⟨text :: texts, .cons htext htexts⟩

/-- A rendering of a valid pair is a way to write it. -/
theorem isWritten_of_isRendering (h : IsValid pair) (hrendering : IsRendering pair text) :
    IsWritten pair.1 pair.2.toList text := by
  obtain ⟨hmark, hlexeme⟩ := h
  cases hrendering with
  | string hquote hcontent => exact .string hquote hcontent
  | line hline => exact .line hline
  | block hline =>
    obtain hcontent | hcontent := hlexeme
    · exact absurd hline hcontent
    · exact .block hcontent
  | verbatim hstring hcomment => exact .verbatim hstring hcomment hmark hlexeme

/-- What is written has a lexeme of its kind. -/
theorem isLexeme_of_isWritten (h : IsWritten kind lexeme text) : IsLexeme kind lexeme := by
  cases h with
  | string hquote hcontent => exact ⟨_, hquote, hcontent⟩
  | line hcontent => exact .inl hcontent
  | block hcontent => exact .inr hcontent
  | verbatim _ _ _ hlexeme => exact hlexeme

/-! ### One token to a line -/

namespace WrittenToken

/-- The kind and the lexeme of a written token. -/
def toPair (w : WrittenToken) : TokenKind × String :=
  (w.kind, String.ofList w.lexeme)

theorem map_tokensAfter {before : List Char} (ws : List WrittenToken) :
    (tokensAfter before ws).map (fun t ↦ (t.kind, t.lexeme)) = ws.map toPair := by
  induction ws generalizing before with
  | nil => rfl
  | cons w ws ih =>
    rw [tokensAfter, List.map_cons, ih]
    rfl

/-- **Lines make a run.** The newline after a token is the gap before the next one, so the lines are
taken together with a gap in front of them. -/
theorem exists_isRun_linesOf
    (h : List.Forall₂ (fun pair text ↦ IsWritten pair.1 pair.2.toList text) pairs texts) :
    ∀ lead : List Char, (∀ c ∈ lead, isGap c = true) →
      ∃ ws gap, lead ++ linesOf texts = charsOf ws ++ gap ∧ (∀ c ∈ gap, isGap c = true) ∧
        IsRun ws gap ∧ ws.map toPair = pairs := by
  induction h with
  | nil =>
    intro lead hlead
    exact ⟨[], lead, by simp, hlead, trivial, rfl⟩
  | @cons pair text pairs texts hwritten _ ih =>
    intro lead hlead
    -- the newline of this line is the gap in front of the remaining ones
    have hnewline : isGap '\n' = true := by decide
    obtain ⟨ws, gap, htext, hgap, hrun, hpairs⟩ := ih ['\n'] (by simpa using hnewline)
    let w : WrittenToken := ⟨lead, pair.1, pair.2.toList, text, hlead, hwritten⟩
    have hend : EndsBefore w.kind w.text (charsOf ws ++ gap).head? := by
      rw [← htext]
      exact endsBefore_newline hwritten
    refine ⟨w :: ws, gap, ?_, hgap, ⟨hend, hrun⟩, ?_⟩
    · rw [charsOf_cons, List.append_assoc, ← htext, linesOf_cons, chars, List.append_assoc]
      rfl
    · rw [List.map_cons, hpairs, WrittenToken.toPair, String.ofList_toList]

end WrittenToken

/-! ### The two directions -/

/-- Every token that is seen before the end mark is valid. -/
theorem isValid_of_mem_tokensSeen {source : String} {t : Token} (ht : t ∈ tokensSeen source)
    (hmark : t.kind ≠ .endOfInput) : IsValid (t.kind, t.lexeme) := by
  have hvalid {ws : List WrittenToken} (ht : t ∈ WrittenToken.tokensAfter [] ws) :
      IsValid (t.kind, t.lexeme) := by
    obtain ⟨w, -, hkind, hlexeme⟩ := WrittenToken.exists_of_mem_tokensAfter ht
    refine ⟨hmark, ?_⟩
    rw [hkind, hlexeme]
    exact isLexeme_of_isWritten w.isWritten
  obtain ⟨ws, gap, -, -, -, -, hseen⟩ | ⟨ws, _, _, _, _, -, -, -, -, -, hseen⟩ :=
    WrittenToken.tokenize_cases source
  · rw [hseen, List.mem_append, List.mem_singleton] at ht
    obtain ht | rfl := ht
    · exact hvalid ht
    · exact absurd rfl hmark
  · exact hvalid (hseen ▸ ht)

/-- Written pairs, one to a line, are read back. -/
theorem exists_tokenize_linesOf
    (h : List.Forall₂ (fun pair text ↦ IsWritten pair.1 pair.2.toList text) pairs texts) :
    ∃ tokens, tokenize (String.ofList (linesOf texts)) = .accepted tokens ∧
      tokens.map (fun t ↦ (t.kind, t.lexeme)) = pairs ++ [(.endOfInput, "")] := by
  obtain ⟨ws, gap, htext, hgap, hrun, rfl⟩ := WrittenToken.exists_isRun_linesOf h [] (by simp)
  have hsource : (String.ofList (linesOf texts)).toList = WrittenToken.charsOf ws ++ gap := by
    rw [String.toList_ofList, ← htext, List.nil_append]
  refine ⟨_, (WrittenToken.tokenize_of_isRun hsource hrun hgap).1, ?_⟩
  rw [List.map_append, WrittenToken.map_tokensAfter]
  rfl

/-- **The image of the lexer.** Whatever is seen is valid; and a list of valid pairs, each rendered
on a line of its own, can be rendered and is read back, whichever quotes have been chosen. -/
theorem isValid_and_round_trip :
    (∀ source, ∀ t ∈ tokensSeen source, t.kind ≠ .endOfInput → IsValid (t.kind, t.lexeme)) ∧
      ∀ pairs : List (TokenKind × String), (∀ pair ∈ pairs, IsValid pair) →
        (∃ texts, List.Forall₂ IsRendering pairs texts) ∧
          ∀ texts, List.Forall₂ IsRendering pairs texts →
            ∃ tokens, tokenize (String.ofList (linesOf texts)) = .accepted tokens ∧
              tokens.map (fun t ↦ (t.kind, t.lexeme)) = pairs ++ [(.endOfInput, "")] := by
  refine ⟨fun source t ht hmark ↦ isValid_of_mem_tokensSeen ht hmark,
    fun pairs hvalid ↦ ⟨exists_forall₂_isRendering hvalid, fun texts htexts ↦ ?_⟩⟩
  have hboth := (List.forall₂_and_left pairs texts).2 ⟨hvalid, htexts⟩
  exact exists_tokenize_linesOf (hboth.imp fun _ _ h ↦ isWritten_of_isRendering h.1 h.2)

/-- A token that is seen although its source is rejected; and a string with a quote of each sort, a
comment that is to end in two stars, and an operator, on four lines. -/
theorem isValid_and_round_trip_delimiters :
    IsValid (.operator, ">>>=") ∧
      ∃ tokens, tokenize (String.ofList (linesOf ["\"'\\\"\"".toList, "/*\n**/".toList,
          ">>>=".toList])) = .accepted tokens ∧
        tokens.map (fun t ↦ (t.kind, t.lexeme)) =
          [(.string, "'\\\""), (.comment, "\n*"), (.operator, ">>>="), (.endOfInput, "")] := by
  have hoperator : IsValid (.operator, ">>>=") :=
    isValid_and_round_trip.1 ">>>='" ⟨.operator, ">>>=", .start⟩ (by decide +kernel) (by decide)
  have hstring : IsStringContent '"' "'\\\"".toList :=
    .plain (by decide) (by decide) (by decide) (.escaped '"' .nil)
  have hcomment : IsBlockContent "\n*".toList := by
    rw [IsBlockContent]
    decide
  refine ⟨hoperator, (isValid_and_round_trip.2
    [(.string, "'\\\""), (.comment, "\n*"), (.operator, ">>>=")] ?_).2 _ ?_⟩
  · simp only [List.forall_mem_cons]
    exact ⟨⟨by decide, '"', .inl rfl, hstring⟩, ⟨by decide, .inr hcomment⟩, hoperator, by simp⟩
  · exact .cons (.string (.inl rfl) hstring) <| .cons (.block (by decide)) <|
      .cons (.verbatim (by decide) (by decide)) .nil

end ScriptLexer
