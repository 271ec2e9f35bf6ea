import ScriptLexer.Lexer
import ScriptLexer.Proofs.TokenList

/-!
# Lexers in use

Where the calls of a lexer can bring it. A cursor is **between** two texts if they are the two parts
of its source at its place. One reading keeps a cursor between two parts of the same source,
whatever its verdict (`Cursor.IsBetween.exists_spans_read`), and therefore so does every list of
calls (`Lexer.exists_isBetween_after`). That a call came after an error makes no difference: a
faulty token breaks off at some place of the source, and nothing else is remembered of it. What
stands between two places of a source is cut out between the offsets there
(`Cursor.IsBetween.slice?_between`).

What a reading finds at its place is a matter of the text alone and is said of `scanToken`
(`scanToken_cases`).
-/

namespace ScriptLexer

open Grammar

variable {source : String} {before taken rest text skip piece : List Char}

/-! ### Tokens behind a gap -/

/-- **What is found behind a gap**: the end mark where nothing is left, and otherwise a token or a
fault, each of which takes something. -/
theorem scanToken_cases (h : ∀ c ∈ (taken ++ rest).head?, isGap c = false) {verdict : Verdict}
    (hscan : scanToken (taken ++ rest) = ⟨taken, verdict⟩) :
    (taken = [] ∧ rest = [] ∧ verdict = .accept .endOfInput []) ∨
      taken ≠ [] ∧
        ((∃ kind lexeme, verdict = .accept kind lexeme ∧ IsWritten kind lexeme taken) ∨
          ∃ cause, verdict = .reject cause ∧ IsFault cause taken rest) := by
  by_cases hnil : taken ++ rest = []
  · obtain ⟨rfl, rfl⟩ := List.append_eq_nil_iff.1 hnil
    exact .inl ⟨rfl, rfl, (Scan.mk.inj hscan).2.symm⟩
  · have htaken : taken ≠ [] := by
      obtain ⟨first, tail, htext⟩ := List.exists_cons_of_ne_nil hnil
      rw [htext] at h hscan
      obtain ⟨cls, hopens⟩ := exists_opens_of_isGap_eq_false tail (h first rfl)
      rw [scanToken_of_opens hopens] at hscan
      have hne := TokenClass.recognizer_taken_ne_nil (TokenClass.classify_of_opens hopens)
      rwa [hscan] at hne
    refine .inr ⟨htaken, ?_⟩
    match verdict with
    | .accept kind lexeme =>
      exact .inl ⟨kind, lexeme, rfl, ((scanToken_eq_accept_iff hnil).1 hscan).1⟩
    | .reject cause =>
      obtain ⟨rest', htext, hfault⟩ := scanToken_reject hscan
      exact .inr ⟨cause, rfl, (List.append_cancel_left htext) ▸ hfault⟩
    | .misplaced => exact absurd (by rw [hscan]) (scanToken_verdict_ne_misplaced h)

/-! ### Places of cursors -/

namespace Cursor

variable {c : Cursor}

/-- A cursor stands in a source between what it has passed and what is left. -/
structure IsBetween (source : String) (c : Cursor) (before rest : List Char) : Prop where
  /-- The cursor belongs to the source. -/
  source_eq : c.source = source
  /-- It stands after the first part. -/
  isAt : c.IsAt before
  /-- The second part is left. -/
  rest_eq : c.rest = rest

theorem IsAt.isBetween {before : List Char} (h : c.IsAt before) :
    c.IsBetween c.source before c.rest :=
  ⟨rfl, h, rfl⟩

theorem isBetween_ofString (source : String) :
    (ofString source).IsBetween source [] source.toList :=
  ⟨rfl, isAt_ofString source, rfl⟩

/-- The two parts are the whole source. -/
theorem IsBetween.toList_eq (h : c.IsBetween source before rest) :
    source.toList = before ++ rest := by
  rw [← h.source_eq, h.isAt.source_eq, h.rest_eq]

theorem IsBetween.advance (h : c.IsBetween source before (taken ++ rest)) :
    (c.advance taken).IsBetween source (before ++ taken) rest := by
  refine ⟨h.source_eq, h.isAt.advance ?_, rest_advance h.rest_eq⟩
  rw [h.rest_eq]
  exact List.prefix_append _ _

/-! ### Slices at a place -/

/-- **What stands between two cursors** lies between their offsets, whichever cursor of the source
is asked to cut it out. -/
theorem IsBetween.slice?_between {c' reader : Cursor}
    (h : c.IsBetween source before (piece ++ rest))
    (h' : c'.IsBetween source (before ++ piece) rest) (hreader : reader.source = source) :
    reader.slice? c.offset c'.offset = some (String.ofList piece) := by
  have hslice : ScriptLexer.slice? reader.source.toList c.offset c'.offset = some piece := by
    refine slice?_eq_some_iff.2 ⟨before, rest, ?_, h.isAt.offset_eq.symm, ?_⟩
    · rw [hreader, h.toList_eq]
    · rw [h.isAt.offset_eq, h'.isAt.offset_eq, utf8Length_append]
  rw [slice?, hslice]
  rfl

/-- What has been passed is cut out from the offset before it. -/
theorem IsBetween.sliceFrom?_advance (h : c.IsBetween source before (piece ++ rest)) :
    (c.advance piece).sliceFrom? c.offset = some (String.ofList piece) :=
  h.slice?_between h.advance h.advance.source_eq

/-- What stands ahead of a cursor lies between the offsets that are counted on from it. -/
theorem IsBetween.slice?_eq (h : c.IsBetween source before (skip ++ (piece ++ rest))) :
    c.slice? (c.offset + utf8Length skip) (c.offset + utf8Length (skip ++ piece)) =
      some (String.ofList piece) := by
  rw [utf8Length_append, ← Nat.add_assoc]
  exact h.advance.slice?_between h.advance.advance h.source_eq

end Cursor

/-! ### Readings at a place -/

/-- A reading goes from the end of `before` to the beginning of `rest`: it passes over a gap that
ends there, and over what is found behind the gap. -/
structure Reading.Spans (source : String) (r : Reading) (before rest : List Char) : Prop where
  /-- The reading begins after the first part. -/
  origin : r.origin.IsBetween source before (r.segment.gap ++ (r.segment.scan.taken ++ rest))
  /-- What stands before the token is a gap. -/
  isGap_of_mem : ∀ c ∈ r.segment.gap, isGap c = true
  /-- The gap does not go on. -/
  isGap_head? : ∀ c ∈ (r.segment.scan.taken ++ rest).head?, isGap c = false
  /-- The token is the one at the head of what stands behind the gap. -/
  scan_eq : r.segment.scan = scanToken (r.segment.scan.taken ++ rest)

/-- An outcome tells rightly what begins at a position: a token that is written in `taken`, or a
faulty one of which `taken` is the text as far as it goes. -/
inductive Outcome.Reports (position : Position) (taken rest : List Char) : Outcome Token → Prop
  /-- There is a token. -/
  | token {t : Token} : t.position = position → IsWritten t.kind t.lexeme.toList taken →
      Reports position taken rest (.accepted t)
  /-- There is an error. -/
  | fault {e : LexError} : e.position = position → IsFault e.cause taken rest →
      Reports position taken rest (.failed e)

namespace Reading.Spans

variable {r : Reading}

theorem tokenCursor (h : r.Spans source before rest) :
    r.tokenCursor.IsBetween source (before ++ r.segment.gap) (r.segment.scan.taken ++ rest) :=
  h.origin.advance

theorem after (h : r.Spans source before rest) :
    r.after.IsBetween source (before ++ r.segment.gap ++ r.segment.scan.taken) rest :=
  h.tokenCursor.advance

/-- **What a reading yields**: the end mark of the source where nothing is left, and otherwise a
report of what it has taken. -/
theorem outcome_cases (h : r.Spans source before rest) :
    (r.segment.scan.taken = [] ∧ rest = [] ∧ r.outcome = .accepted (endMark source.toList)) ∨
      r.segment.scan.taken ≠ [] ∧
        r.outcome.Reports r.tokenCursor.position r.segment.scan.taken rest := by
  obtain ⟨htaken, rfl, hverdict⟩ | ⟨htaken, hcases⟩ :=
    scanToken_cases h.isGap_head? h.scan_eq.symm
  · have hsource : source.toList = before ++ r.segment.gap := by
      rw [h.tokenCursor.toList_eq, htaken, List.append_nil, List.append_nil]
    refine .inl ⟨htaken, rfl, ?_⟩
    rw [outcome, hverdict, hsource, h.tokenCursor.isAt.position_eq]
    rfl
  · refine .inr ⟨htaken, ?_⟩
    obtain ⟨kind, lexeme, hverdict, hwritten⟩ | ⟨cause, hverdict, hfault⟩ := hcases
    · rw [outcome, hverdict]
      exact .token rfl (by simpa using hwritten)
    · rw [outcome, hverdict]
      exact .fault rfl hfault

end Reading.Spans

/-- **One reading** goes from its place to another place of the same source. -/
theorem Cursor.IsBetween.exists_spans_read {c : Cursor} (h : c.IsBetween source before text) :
    ∃ rest, c.read.Spans source before rest := by
  obtain ⟨rest, hrest⟩ := scanToken_taken_isPrefix (text.dropWhile isGap)
  have hsegment : c.read.segment =
      ⟨text.takeWhile isGap, scanToken (text.dropWhile isGap)⟩ := by
    rw [read, h.rest_eq, Segment.first]
  refine ⟨rest, ?_, ?_, ?_, ?_⟩
  · rw [hsegment]
    show c.IsBetween source before
      (text.takeWhile isGap ++ ((scanToken (text.dropWhile isGap)).taken ++ rest))
    rwa [hrest, List.takeWhile_append_dropWhile]
  · rw [hsegment]
    exact fun ch ↦ List.mem_takeWhile_imp
  · rw [hsegment]
    show ∀ ch ∈ ((scanToken (text.dropWhile isGap)).taken ++ rest).head?, isGap ch = false
    rw [hrest]
    exact eq_false_of_mem_head?_dropWhile
  · rw [hsegment]
    show scanToken (text.dropWhile isGap) =
      scanToken ((scanToken (text.dropWhile isGap)).taken ++ rest)
    rw [hrest]

/-! ### Lexers after calls -/

namespace Lexer

/-- **What a call does.** It gives nothing and has no effect, which only a call of `next` does that
comes after the end; or it reads. -/
theorem call_cases (l : Lexer) (c : Call) :
    (c = .next ∧ l.finished = true ∧ l.call c = (none, l)) ∨
      (¬ (c = .next ∧ l.finished = true) ∧ (l.call c).1 = some l.cursor.read.outcome ∧
        (l.call c).2.cursor = l.cursor.read.after) := by
  match c with
  | .nextToken => exact .inr ⟨by simp, rfl, rfl⟩
  | .next =>
    by_cases hfinished : l.finished = true
    · exact .inl ⟨rfl, hfinished, if_pos hfinished⟩
    · refine .inr ⟨by simp [hfinished], ?_⟩
      rw [call, next, if_neg hfinished]
      exact ⟨rfl, rfl⟩

/-- A call leaves the cursor where it is or brings it to the end of one reading. -/
theorem call_cursor (l : Lexer) (c : Call) :
    (l.call c).2.cursor = l.cursor ∨ (l.call c).2.cursor = l.cursor.read.after := by
  obtain ⟨-, -, hcall⟩ | ⟨-, -, hcursor⟩ := l.call_cases c
  · rw [hcall]
    exact .inl rfl
  · exact .inr hcursor

/-- What a call gives is what the next reading yields. -/
theorem outcome_read_of_call_eq_some {l : Lexer} {c : Call} {outcome : Outcome Token}
    (h : (l.call c).1 = some outcome) : l.cursor.read.outcome = outcome := by
  obtain ⟨-, -, hidle⟩ | ⟨-, hread, -⟩ := l.call_cases c
  · rw [hidle] at h
    cases h
  · exact Option.some.inj (hread.symm.trans h)

/-- **One call** stays within the source. -/
theorem exists_isBetween_call {l : Lexer} (h : l.cursor.IsBetween source before text) (c : Call) :
    ∃ before rest, (l.call c).2.cursor.IsBetween source before rest := by
  obtain hcursor | hcursor := l.call_cursor c
  · exact ⟨before, text, hcursor ▸ h⟩
  · obtain ⟨rest, hspans⟩ := h.exists_spans_read
    exact ⟨_, rest, hcursor ▸ hspans.after⟩

/-- The lexer that a list of calls on a source leaves behind. -/
def after (source : String) (calls : List Call) : Lexer :=
  ((ofString source).replay calls).2

theorem exists_isBetween_replay {l : Lexer} (h : l.cursor.IsBetween source before rest)
    (calls : List Call) :
    ∃ before rest, (l.replay calls).2.cursor.IsBetween source before rest := by
  induction calls generalizing l before rest with
  | nil => exact ⟨before, rest, h⟩
  | cons c calls ih =>
    obtain ⟨_, _, hplace⟩ := exists_isBetween_call h c
    exact ih hplace

/-- **Calls stay within the source.** -/
theorem exists_isBetween_after (source : String) (calls : List Call) :
    ∃ before rest, (after source calls).cursor.IsBetween source before rest :=
  exists_isBetween_replay (Cursor.isBetween_ofString source) calls

end Lexer

end ScriptLexer
