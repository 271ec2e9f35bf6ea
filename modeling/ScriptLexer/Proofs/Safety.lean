import ScriptLexer.Proofs.FaultLocation
import ScriptLexer.Proofs.Refinement

/-!
# Safety

No call of a lexer goes wrong, whatever calls have come before it. A reading is **safe** if no
recognizer was asked for a token that cannot begin where it was asked, if the error it may end with
is one of those that a source can have, if all that it cuts out of the source stands between two
byte offsets of the source, and if the kind of its token fits the class by which its recognizer was
chosen.

The recognizers do not cut; they hand on the characters that they have taken, and cutting is left to
the machines that do as they say. Safety ties these characters to offsets: `Reading.IsSafe.slice`
speaks about every stretch of the characters passed over, and `Reading.IsSafe.lexeme` about the
offsets between which a lexeme lies, which are those of the token moved inwards by its delimiters.
That the marks of a machine are such offsets is `Reading.IsSafe.machine`: there is an outcome.
-/

namespace ScriptLexer

open Grammar

variable {source : String} {before taken lexeme rest text skip piece : List Char}
  {kind : TokenKind} {cls : TokenClass} {r : Reading}

/-! ### Delimiters -/

/-- The numbers of bytes that the opening and the closing delimiter have in the text of a token. -/
def delimiterBytes : TokenKind → List Char → Nat × Nat
  | .string, _ => (1, 1)
  | .comment, '/' :: '/' :: _ => (2, 0)
  | .comment, _ => (2, 2)
  | _, _ => (0, 0)

/-- A lexeme stands between the delimiters of its token. -/
theorem exists_delimiters (h : IsWritten kind lexeme text) :
    ∃ opening closing, text = opening ++ (lexeme ++ closing) ∧
      delimiterBytes kind text = (utf8Length opening, utf8Length closing) := by
  cases h with
  | @string quote _ hquote hcontent =>
    have hsize : quote.utf8Size = 1 := by
      obtain rfl | rfl := hquote <;> decide
    exact ⟨[quote], [quote], rfl, by simp [delimiterBytes, hsize]⟩
  | line hcontent => exact ⟨['/', '/'], [], by simp, rfl⟩
  | block hcontent => exact ⟨['/', '*'], ['*', '/'], rfl, rfl⟩
  | verbatim hstring hcomment hmark hlexeme =>
    refine ⟨[], [], by simp, ?_⟩
    cases kind with
    | string => exact absurd rfl hstring
    | comment => exact absurd rfl hcomment
    | keyword | identifier | number | operator | punctuation | endOfInput => rfl

/-! ### Kinds and classes -/

/-- The kinds of the tokens of a class. -/
def TokenClass.kinds : TokenClass → List TokenKind
  | number => [.number]
  | word => [.keyword, .identifier]
  | string => [.string]
  | comment => [.comment]
  | operator => [.operator]
  | punctuation => [.punctuation]

/-- A recognizer accepts tokens of its class only. -/
theorem TokenClass.mem_kinds_of_recognizer
    (h : cls.recognizer text = ⟨taken, .accept kind lexeme⟩) : kind ∈ cls.kinds := by
  cases cls with
  | number => exact List.mem_singleton.2 (Scan.number_eq_accept_iff.1 h).1
  | word =>
    rw [(Scan.word_eq_accept_iff.1 h).1, Scan.wordKind, kinds]
    split <;> simp
  | string => exact List.mem_singleton.2 (Scan.stringLiteral_eq_accept_iff.1 h).1
  | comment => exact List.mem_singleton.2 (Scan.comment_eq_accept_iff.1 h).1
  | operator => exact List.mem_singleton.2 (Scan.operator_eq_accept_iff.1 h).1
  | punctuation => exact List.mem_singleton.2 (Scan.verbatim_eq_accept_iff.1 h).1

/-- What is accepted at the head of a text has the class of its first two characters. -/
theorem exists_classify_of_scanToken (hne : text ≠ [])
    (h : scanToken text = ⟨taken, .accept kind lexeme⟩) :
    ∃ first tail, text = first :: tail ∧
      ∃ cls, TokenClass.classify first tail.head? = some cls ∧ kind ∈ cls.kinds := by
  fun_cases scanToken text with
  | case1 => exact absurd rfl hne
  | case2 first tail cls hcls =>
    rw [scanToken, hcls] at h
    exact ⟨first, tail, rfl, cls, hcls, TokenClass.mem_kinds_of_recognizer h⟩
  | case3 first tail hcls =>
    rw [scanToken, hcls] at h
    cases h

/-! ### Safe readings -/

/-- **A safe reading.** -/
structure Reading.IsSafe (r : Reading) : Prop where
  /-- Nothing was asked for where it cannot begin. -/
  ne_misplaced : r.outcome ≠ .misplaced
  /-- No error complains of an unknown operator. -/
  ne_unknownOperator : ∀ e, r.outcome = .failed e → e.cause ≠ .unknownOperator
  /-- Every stretch of the characters passed over lies between the offsets of its two ends. -/
  slice : ∀ skip piece rest, r.segment.text = skip ++ (piece ++ rest) →
    r.after.slice? (r.origin.offset + utf8Length skip)
      (r.origin.offset + utf8Length (skip ++ piece)) = some (String.ofList piece)
  /-- A lexeme lies between the offsets behind the opening and before the closing delimiter. -/
  lexeme : ∀ t, r.outcome = .accepted t → ∃ start stop,
    start = r.tokenCursor.offset + (delimiterBytes t.kind r.segment.scan.taken).1 ∧
      stop + (delimiterBytes t.kind r.segment.scan.taken).2 = r.after.offset ∧
      r.after.slice? start stop = some t.lexeme
  /-- The machine of the class that was chosen comes to the same end. It has an outcome, so its
  marks mark a slice. -/
  machine : ∀ first cls, r.tokenCursor.peek? = some first →
    TokenClass.classify first r.tokenCursor.peekSecond? = some cls →
      cls.run r.tokenCursor = (some r.outcome, r.after)
  /-- The kind of a token is one of the class that was chosen by the two characters at its
  beginning. Only the end mark has no such characters. -/
  kind : ∀ t, r.outcome = .accepted t →
    (r.tokenCursor.peek? = none ∧ t.kind = .endOfInput) ∨
      ∃ first cls, r.tokenCursor.peek? = some first ∧
        TokenClass.classify first r.tokenCursor.peekSecond? = some cls ∧ t.kind ∈ cls.kinds

namespace Reading.Spans

/-- The delimiters of the token that a reading yields; the end mark has none. -/
theorem exists_delimiters_of_accepted (h : r.Spans source before rest) {t : Token}
    (ht : r.outcome = .accepted t) :
    ∃ opening closing, r.segment.scan.taken = opening ++ (t.lexeme.toList ++ closing) ∧
      delimiterBytes t.kind r.segment.scan.taken = (utf8Length opening, utf8Length closing) := by
  obtain ⟨htaken, -, hmark⟩ | ⟨-, hreports⟩ := h.outcome_cases
  · obtain rfl := Outcome.accepted.inj (ht.symm.trans hmark)
    exact ⟨[], [], by simp [htaken, endMark], by simp [endMark, delimiterBytes]⟩
  · rw [ht] at hreports
    obtain ⟨-, hwritten⟩ := hreports
    exact exists_delimiters hwritten

theorem slice?_eq (h : r.Spans source before rest)
    (hpiece : r.segment.text = skip ++ (piece ++ text)) :
    r.after.slice? (r.origin.offset + utf8Length skip)
      (r.origin.offset + utf8Length (skip ++ piece)) = some (String.ofList piece) := by
  have happend : r.segment.gap ++ (r.segment.scan.taken ++ rest) =
      skip ++ (piece ++ (text ++ rest)) := by
    rw [← List.append_assoc, ← Segment.text, hpiece]
    simp
  have hahead : r.origin.IsBetween source before (skip ++ (piece ++ (text ++ rest))) :=
    happend ▸ h.origin
  exact hahead.slice?_eq

theorem slice?_lexeme (h : r.Spans source before rest) {t : Token} (ht : r.outcome = .accepted t) :
    ∃ start stop,
      start = r.tokenCursor.offset + (delimiterBytes t.kind r.segment.scan.taken).1 ∧
        stop + (delimiterBytes t.kind r.segment.scan.taken).2 = r.after.offset ∧
        r.after.slice? start stop = some t.lexeme := by
  obtain ⟨opening, closing, htaken, hbytes⟩ := h.exists_delimiters_of_accepted ht
  have hoffset : r.after.offset = r.tokenCursor.offset + utf8Length r.segment.scan.taken := rfl
  have happend : r.segment.scan.taken ++ rest =
      opening ++ (t.lexeme.toList ++ (closing ++ rest)) := by
    rw [htaken]
    simp
  have hahead : r.tokenCursor.IsBetween source (before ++ r.segment.gap)
      (opening ++ (t.lexeme.toList ++ (closing ++ rest))) :=
    happend ▸ h.tokenCursor
  refine ⟨_, r.tokenCursor.offset + utf8Length (opening ++ t.lexeme.toList), rfl, ?_, ?_⟩
  · rw [hoffset, hbytes, htaken]
    simp only [utf8Length_append]
    omega
  · rw [hbytes]
    exact hahead.slice?_eq.trans (by rw [String.ofList_toList])

theorem mem_kinds (h : r.Spans source before rest) {t : Token} (ht : r.outcome = .accepted t) :
    (r.tokenCursor.peek? = none ∧ t.kind = .endOfInput) ∨
      ∃ first cls, r.tokenCursor.peek? = some first ∧
        TokenClass.classify first r.tokenCursor.peekSecond? = some cls ∧ t.kind ∈ cls.kinds := by
  rw [Cursor.peek?, Cursor.peekSecond?, h.tokenCursor.rest_eq]
  rcases hscan : r.segment.scan with ⟨taken, verdict⟩
  cases verdict with
  | accept kind lexeme =>
    rw [outcome, hscan] at ht
    obtain rfl := Outcome.accepted.inj ht
    have htoken : scanToken (taken ++ rest) = ⟨taken, .accept kind lexeme⟩ := by
      have heq := h.scan_eq
      rw [hscan] at heq
      exact heq.symm
    by_cases hnil : taken ++ rest = []
    · rw [hnil] at htoken ⊢
      obtain ⟨-, hkind, -⟩ := Scan.accept_inj htoken
      exact .inl ⟨rfl, hkind.symm⟩
    · obtain ⟨first, tail, htext, cls, hcls, hkind⟩ := exists_classify_of_scanToken hnil htoken
      rw [htext]
      refine .inr ⟨first, cls, rfl, ?_, hkind⟩
      rw [← hcls]
      cases tail <;> rfl
  | reject cause | misplaced =>
    rw [outcome, hscan] at ht
    cases ht

/-- **Readings at a place are safe.** -/
theorem isSafe (h : r.Spans source before rest) : r.IsSafe := by
  refine ⟨?_, ?_, fun _ _ _ ↦ h.slice?_eq, fun _ ↦ h.slice?_lexeme, fun _ _ ↦ h.run_eq,
    fun _ ↦ h.mem_kinds⟩
  · intro hmisplaced
    obtain ⟨-, -, hmark⟩ | ⟨-, hreports⟩ := h.outcome_cases
    · exact absurd (hmisplaced.symm.trans hmark) (by simp)
    · rw [hmisplaced] at hreports
      cases hreports
  · intro e he
    obtain ⟨-, -, hmark⟩ | ⟨-, hreports⟩ := h.outcome_cases
    · exact absurd (he.symm.trans hmark) (by simp)
    · rw [he] at hreports
      obtain _ | ⟨-, hfault⟩ := hreports
      exact ne_unknownOperator_of_isFault hfault

end Reading.Spans

/-! ### Calls -/

/-- **Every call is safe.** After any calls on a source, also after errors, a call gives the outcome
of a safe reading and moves to its end; or it is a call of `next` that comes after the end and has
no effect. -/
theorem Lexer.call_isSafe (source : String) (calls : List Call) (c : Call) :
    (c = .next ∧ (after source calls).finished = true ∧
        (after source calls).call c = (none, after source calls)) ∨
      ((after source calls).call c).1 = some (after source calls).cursor.read.outcome ∧
        ((after source calls).call c).2.cursor = (after source calls).cursor.read.after ∧
        (after source calls).cursor.source = source ∧
        (after source calls).cursor.read.IsSafe := by
  obtain ⟨before, text, hplace⟩ := exists_isBetween_after source calls
  obtain ⟨rest, hspans⟩ := hplace.exists_spans_read
  by_cases hidle : c = .next ∧ (after source calls).finished = true
  · obtain ⟨rfl, hfinished⟩ := hidle
    exact .inl ⟨rfl, hfinished, by rw [call, next, if_pos hfinished]⟩
  · have hcall : ((after source calls).call c).1 = some (after source calls).cursor.read.outcome ∧
        ((after source calls).call c).2.cursor = (after source calls).cursor.read.after := by
      cases c with
      | next =>
        have hfinished : ¬ (after source calls).finished = true := fun h ↦ hidle ⟨rfl, h⟩
        rw [call, next, if_neg hfinished]
        exact ⟨rfl, rfl⟩
      | nextToken => exact ⟨rfl, rfl⟩
    exact .inr ⟨hcall.1, hcall.2, hplace.source_eq, hspans.isSafe⟩

end ScriptLexer
