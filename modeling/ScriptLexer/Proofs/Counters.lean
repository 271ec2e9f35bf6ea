import Mathlib.Data.String.Basic
import ScriptLexer.Proofs.Lines
import ScriptLexer.Proofs.Order
import ScriptLexer.Proofs.Session

/-!
# Counters do not overflow

A cursor counts in natural numbers. A machine counts in words of 64 bits, which wrap around
(`Counters`). On a source that fits into memory, where a text has at most `2 ^ 63 - 1` bytes, the
two agree (`Cursor.IsBetween.agrees`), because no update ever meets a counter that is full
(`Cursor.IsBetween.hasRoomFor`).

Neither the line nor the column bounds the other, and the column falls back at each newline. What
holds throughout is a bound on both together (`Cursor.IsBetween.isBounded`): the newlines before
a place and the characters after the last of them are different characters, each of which has at
least one byte. It holds wherever a cursor can be brought by commands, recognizers and calls
(`Cursor.Reachable`), as all of these leave it at a place of the source.

A position that is reported is that of such a cursor. So it is counted from one, and its line is one
of those into which the newlines split the source (`Cursor.IsBetween.isFoundIn`).
-/

namespace ScriptLexer

variable {source : String} {before rest passed : List Char}

/-! ### Characters, bytes and lines -/

/-- Every character has a byte. -/
theorem length_le_utf8Length (text : List Char) : text.length ≤ utf8Length text := by
  induction text with
  | nil => exact Nat.le_refl 0
  | cons c text ih =>
    have hc := c.utf8Size_pos
    rw [List.length_cons, utf8Length_cons]
    omega

/-- The bytes of a source are those of its characters. -/
theorem utf8Length_toList (source : String) : utf8Length source.toList = source.utf8ByteSize := by
  have key (text : List Char) : utf8Length text = String.utf8Len text := by
    induction text with
    | nil => rfl
    | cons c text ih => rw [utf8Length_cons, ih, String.utf8Len_cons, Nat.add_comm]
  rw [key, ← String.utf8ByteSize_ofList, String.ofList_toList]

/-- Newlines do not stand on the last line. -/
theorem count_add_length_lastLine_le (text : List Char) :
    text.count '\n' + (lastLine text).length ≤ text.length := by
  -- a newline at the end empties the last line, any other character adds to it
  induction text using List.reverseRecOn with
  | nil => simp
  | append_singleton text c ih =>
    rw [List.count_append, List.length_append, List.length_singleton]
    by_cases hc : c = '\n'
    · subst hc
      rw [List.count_singleton_self, lastLine_concat_newline, List.length_nil]
      omega
    · rw [List.count_singleton, if_neg (by simpa using hc), lastLine_concat text hc,
        List.length_append, List.length_singleton]
      omega

/-- **The lines of a source** are the pieces into which its newlines split it. Past the last of them
there is none. -/
theorem splitOn_newline_getElem? (text : List Char) (n : Nat) :
    (text.splitOn '\n')[n]? =
      if n ≤ text.count '\n' then some ((dropLines n text).takeWhile (· ≠ '\n')) else none := by
  rw [List.splitOn_eq_splitOnP]
  induction text generalizing n with
  | nil =>
    match n with
    | 0 => rfl
    | n + 1 => simp
  | cons c text ih =>
    rw [List.splitOnP_cons_eq_if_modifyHead]
    by_cases hc : c = '\n'
    · subst hc
      match n with
      | 0 => simp [dropLines]
      | n + 1 => simp [dropLines, ih]
    · rw [if_neg (by simpa using hc), List.count_cons_of_ne hc]
      match n with
      | 0 => simp [dropLines, ih, hc]
      | n + 1 => simp [dropLines, ih, hc]

/-! ### Counters in words -/

/-- The counters of a cursor in words of 64 bits. -/
structure Counters where
  /-- The number of bytes before the place. -/
  offset : UInt64
  /-- The line. -/
  line : UInt64
  /-- The column. -/
  column : UInt64
deriving DecidableEq, Repr

namespace Counters

/-- The counters at the beginning of a source. -/
def start : Counters := ⟨0, 1, 1⟩

/-- The counters after a character. An addition that leaves the range of a word wraps around. -/
def advance (k : Counters) (c : Char) : Counters :=
  if c = '\n' then ⟨k.offset + .ofNat c.utf8Size, k.line + 1, 1⟩
  else ⟨k.offset + .ofNat c.utf8Size, k.line, k.column + 1⟩

/-- The counters after a text. -/
def advanceOver (k : Counters) (text : List Char) : Counters :=
  text.foldl advance k

/-- The words hold what the cursor has counted. -/
structure Agrees (k : Counters) (c : Cursor) : Prop where
  /-- The offset is the same. -/
  offset_eq : k.offset.toNat = c.offset
  /-- So is the line. -/
  line_eq : k.line.toNat = c.position.line
  /-- So is the column. -/
  column_eq : k.column.toNat = c.position.column

end Counters

namespace Cursor

variable {c : Cursor} {k : Counters} {next : Char}

/-- None of the counters of a cursor leaves the range of a word when it moves over a character. -/
structure HasRoomFor (c : Cursor) (next : Char) : Prop where
  /-- There is room for the bytes of the character. -/
  offset_lt : c.offset + next.utf8Size < 2 ^ 64
  /-- There is room for a line. -/
  line_lt : c.position.line + 1 < 2 ^ 64
  /-- There is room for a column. -/
  column_lt : c.position.column + 1 < 2 ^ 64

/-- **One update.** Words that agree with a cursor agree with it after a character for which they
have room. -/
theorem HasRoomFor.agrees_advance (hroom : c.HasRoomFor next) (h : k.Agrees c) :
    (k.advance next).Agrees (c.advance [next]) := by
  -- each sum is taken modulo `2 ^ 64`, which there is room to leave out
  have hsize : (UInt64.ofNat next.utf8Size).toNat = next.utf8Size :=
    Nat.mod_eq_of_lt (Nat.lt_of_le_of_lt (Nat.le_add_left _ _) hroom.offset_lt)
  have hoffset : (k.offset + .ofNat next.utf8Size).toNat = c.offset + next.utf8Size := by
    rw [UInt64.toNat_add, h.offset_eq, hsize, Nat.mod_eq_of_lt hroom.offset_lt]
  have hline : (k.line + 1).toNat = c.position.line + 1 := by
    rw [UInt64.toNat_add, h.line_eq, UInt64.toNat_one, Nat.mod_eq_of_lt hroom.line_lt]
  have hcolumn : (k.column + 1).toNat = c.position.column + 1 := by
    rw [UInt64.toNat_add, h.column_eq, UInt64.toNat_one, Nat.mod_eq_of_lt hroom.column_lt]
  have hposition : (c.advance [next]).position = c.position.advance next := rfl
  rw [Counters.advance]
  split
  · next hnewline =>
    refine ⟨hoffset, ?_, ?_⟩
    · rw [hposition, Position.advance, if_pos hnewline]
      exact hline
    · rw [hposition, Position.advance, if_pos hnewline]
      rfl
  · next hnewline =>
    refine ⟨hoffset, ?_, ?_⟩
    · rw [hposition, Position.advance, if_neg hnewline]
      exact h.line_eq
    · rw [hposition, Position.advance, if_neg hnewline]
      exact hcolumn

/-! ### Bounds at a place -/

/-- What the counters of a cursor may be when it has passed a text. -/
structure IsBounded (source : String) (c : Cursor) (before : List Char) : Prop where
  /-- Lines are counted from one. -/
  one_le_line : 1 ≤ c.position.line
  /-- So are columns. -/
  one_le_column : 1 ≤ c.position.column
  /-- Each line and each column is due to a character. -/
  add_le_length : (c.position.line - 1) + (c.position.column - 1) ≤ before.length
  /-- Each character is due to a byte. -/
  length_le_offset : before.length ≤ c.offset
  /-- The bytes are those of the source. -/
  offset_le : c.offset ≤ source.utf8ByteSize

/-- The offset and the bytes that are left make up the source. -/
theorem IsBetween.offset_add_utf8Length (h : c.IsBetween source before rest) :
    c.offset + utf8Length rest = source.utf8ByteSize := by
  rw [← utf8Length_toList, h.toList_eq, utf8Length_append, h.isAt.offset_eq]

/-- **Every place is bounded.** -/
theorem IsBetween.isBounded (h : c.IsBetween source before rest) : c.IsBounded source before := by
  have hline : c.position.line = 1 + before.count '\n' := by
    rw [h.isAt.position_eq, line_advanceOver_eq]
  have hcolumn : c.position.column = 1 + (lastLine before).length := by
    rw [h.isAt.position_eq, column_advanceOver_eq]
  have hlength := count_add_length_lastLine_le before
  have hbytes := h.offset_add_utf8Length
  refine ⟨by omega, by omega, by omega, ?_, by omega⟩
  rw [h.isAt.offset_eq]
  exact length_le_utf8Length before

/-- **No counter is ever full** on a source that fits into memory. -/
theorem IsBetween.hasRoomFor (h : c.IsBetween source before (next :: rest))
    (hsize : source.utf8ByteSize ≤ 2 ^ 63 - 1) : c.HasRoomFor next := by
  obtain ⟨hline, hcolumn, hsum, hlength, hoffset⟩ := h.isBounded
  have hbytes := h.offset_add_utf8Length
  rw [utf8Length_cons] at hbytes
  exact ⟨by omega, by omega, by omega⟩

/-- Only one cursor stands at a place. -/
theorem IsBetween.eq {c' : Cursor} (h : c.IsBetween source before rest)
    (h' : c'.IsBetween source before rest) : c = c' := by
  obtain ⟨hsource, ⟨-, hoffset, hposition⟩, hrest⟩ := h
  obtain ⟨hsource', ⟨-, hoffset', hposition'⟩, hrest'⟩ := h'
  rw [mk.injEq]
  exact ⟨hsource.trans hsource'.symm, hrest.trans hrest'.symm, hoffset.trans hoffset'.symm,
    hposition.trans hposition'.symm⟩

/-- **Many updates.** Words that agree with a cursor do so at every place farther on. -/
theorem IsBetween.agrees_advanceOver (h : c.IsBetween source before (passed ++ rest))
    (hsize : source.utf8ByteSize ≤ 2 ^ 63 - 1) (hagrees : k.Agrees c) :
    (k.advanceOver passed).Agrees (c.advance passed) := by
  induction passed generalizing c k before with
  | nil => exact hagrees
  | cons next passed ih =>
    have hstep := (h.hasRoomFor hsize).agrees_advance hagrees
    rw [← List.singleton_append, advance_append]
    exact ih (IsBetween.advance h) hstep

/-- **Words hold all that is counted**, from the beginning of the source on. -/
theorem IsBetween.agrees (h : c.IsBetween source before rest)
    (hsize : source.utf8ByteSize ≤ 2 ^ 63 - 1) :
    (Counters.start.advanceOver before).Agrees c := by
  have hstart : (ofString source).IsBetween source [] (before ++ rest) := by
    rw [← h.toList_eq]
    exact isBetween_ofString source
  have hagrees : Counters.start.Agrees (ofString source) := ⟨rfl, rfl, rfl⟩
  rw [h.eq hstart.advance]
  exact hstart.agrees_advanceOver hsize hagrees

end Cursor

/-! ### Lines of positions -/

/-- A position can be looked up in a source: it is counted from one, and its line is one of those
into which newlines split the source. -/
structure Position.IsFoundIn (source : String) (p : Position) : Prop where
  /-- One can be taken from the line. -/
  one_le_line : 1 ≤ p.line
  /-- One can be taken from the column. -/
  one_le_column : 1 ≤ p.column
  /-- The line that is found is a line of the source. -/
  getElem?_line : (source.toList.splitOn '\n')[p.line - 1]? =
    some (SourceLine.find source p.line).text

theorem Cursor.IsBetween.isFoundIn {c : Cursor} (h : c.IsBetween source before rest) :
    c.position.IsFoundIn source := by
  have hbounded := h.isBounded
  have hline : c.position.line - 1 ≤ source.toList.count '\n' := by
    rw [h.isAt.position_eq, line_advanceOver_eq, h.toList_eq, List.count_append]
    omega
  refine ⟨hbounded.one_le_line, hbounded.one_le_column, ?_⟩
  rw [splitOn_newline_getElem?, if_pos hline]
  rfl

/-- What a reading yields lies at a place of the source. -/
theorem Reading.Spans.isFoundIn {r : Reading} (h : r.Spans source before rest) {p : Position}
    (hp : r.outcome.position? = some p) : p.IsFoundIn source := by
  obtain rfl := Option.some.inj (h.position?_outcome.symm.trans hp)
  exact h.tokenCursor.isFoundIn

theorem isFoundIn_of_mem_readings {r : Reading} (hr : r ∈ readings source) {p : Position}
    (hp : r.outcome.position? = some p) : p.IsFoundIn source := by
  obtain ⟨_, _, hspans⟩ := (Cursor.isBetween_ofString source).exists_spans_of_mem_readings hr
  exact hspans.isFoundIn hp

/-! ### Wherever a cursor can be brought -/

namespace Cursor

/-- The cursors that can be had of a source: the one at its beginning, and those that a command or a
call makes of them. A command may meet any two of them, as cursors can be copied. -/
inductive Reachable (source : String) : Cursor → Prop
  /-- The cursor at the beginning. -/
  | ofString : Reachable source (ofString source)
  /-- The cursor after a command; it may be one that calls a recognizer. -/
  | perform {s : Session} (command : Command) : Reachable source s.current →
      Reachable source s.saved → Reachable source (s.perform command).2.current
  /-- The cursor after a call of a lexer. -/
  | call {l : Lexer} (call : Lexer.Call) : Reachable source l.cursor →
      Reachable source (l.call call).2.cursor

variable {c : Cursor}

/-- Commands in a row reach nothing else. -/
theorem reachable_run {s : Session} (hcurrent : Reachable source s.current)
    (hsaved : Reachable source s.saved) (commands : List Command) :
    Reachable source (s.run commands).current := by
  induction commands generalizing s with
  | nil => exact hcurrent
  | cons command commands ih =>
    refine ih (.perform command hcurrent hsaved) ?_
    cases command with
    | save => exact hcurrent
    | next | peek | peekSecond | consume _ | consumeBy _ | slice _ _ | sliceFrom _ | restore
    | recognize _ => exact hsaved

/-- Nor do calls in a row. -/
theorem reachable_replay {l : Lexer} (h : Reachable source l.cursor) (calls : List Lexer.Call) :
    Reachable source (l.replay calls).2.cursor := by
  induction calls generalizing l with
  | nil => exact h
  | cons call calls ih => exact ih (.call call h)

/-- **Nothing leads out of the source.** -/
theorem Reachable.exists_isBetween (h : Reachable source c) :
    ∃ before rest, c.IsBetween source before rest := by
  induction h with
  | ofString => exact ⟨_, _, isBetween_ofString source⟩
  | perform command _ _ hcurrent hsaved =>
    exact (Session.IsWithin.perform ⟨hcurrent, hsaved⟩ command).current
  | call call _ ih =>
    obtain ⟨_, _, hplace⟩ := ih
    exact Lexer.exists_isBetween_call hplace call

/-- What a recognizer answers lies where it was called. -/
theorem position?_recognize {r : Recognizer} {p : Position}
    (h : (c.recognize r).1.position? = some p) : p = c.position := by
  rw [recognize] at h
  cases hverdict : (r c.rest).verdict with
  | accept kind lexeme | reject cause =>
    rw [hverdict] at h
    exact (Option.some.inj h).symm
  | misplaced =>
    rw [hverdict] at h
    cases h

/-- **Counters never wrap.** On a source that fits into memory, wherever a cursor is brought by
commands, recognizers and calls, its line and its column count from one, what they have counted is
no more than the characters it has passed, and these are no more than the bytes it has passed, which
are bytes of the source. So there is always room to count the next character, also at every place on
the way over a longer text, and counters in words agree with those of the cursor. What is reported,
by a recognizer, by a lexer or for the source as a whole, has a position whose line is a line of the
source. -/
theorem counters_never_wrap (hsize : source.utf8ByteSize ≤ 2 ^ 63 - 1) :
    (∀ c, Reachable source c →
        (∃ before, source.toList = before ++ c.rest ∧ c.IsBounded source before ∧
          (Counters.start.advanceOver before).Agrees c) ∧
        (∀ passed next later, c.rest = passed ++ next :: later →
          (c.advance passed).HasRoomFor next) ∧
        (∀ cls p, (c.recognize (TokenClass.recognizer cls)).1.position? = some p →
          p.IsFoundIn source) ∧
        ∀ finished call outcome p, ((Lexer.mk c finished).call call).1 = some outcome →
          outcome.position? = some p → p.IsFoundIn source) ∧
      (∀ t ∈ tokensSeen source, t.position.IsFoundIn source) ∧
      ∀ e, tokenize source = .failed e → e.position.IsFoundIn source := by
  refine ⟨fun c h ↦ ?_, fun t ht ↦ ?_, fun e he ↦ ?_⟩
  · obtain ⟨before, rest, hplace⟩ := h.exists_isBetween
    refine ⟨⟨before, ?_, hplace.isBounded, hplace.agrees hsize⟩, fun passed next later hrest ↦ ?_,
      fun cls p hp ↦ ?_, fun finished call outcome p hcall hp ↦ ?_⟩
    · rw [hplace.rest_eq]
      exact hplace.toList_eq
    · rw [← hplace.rest_eq, hrest] at hplace
      exact hplace.advance.hasRoomFor hsize
    · rw [position?_recognize hp]
      exact hplace.isFoundIn
    · obtain rfl := Lexer.outcome_read_of_call_eq_some hcall
      obtain ⟨_, hspans⟩ := hplace.exists_spans_read
      exact hspans.isFoundIn hp
  · obtain ⟨r, hr, hvalue⟩ := List.mem_filterMap.1 ht
    refine isFoundIn_of_mem_readings hr ?_
    rw [Outcome.value?_eq_some_iff.1 hvalue]
    rfl
  · obtain ⟨r, hr, houtcome⟩ := List.mem_map.1 (Outcome.mem_of_collect_eq_failed he)
    refine isFoundIn_of_mem_readings hr ?_
    rw [houtcome]
    rfl

/-- After the error of a leading zero, the rest of the line is consumed. -/
theorem counters_never_wrap_leadingZero :
    "01\né".utf8ByteSize ≤ 2 ^ 63 - 1 ∧ ∃ c : Cursor, Reachable "01\né" c ∧
      c = ⟨"01\né", ['é'], 3, ⟨2, 1⟩⟩ ∧ c.IsBounded "01\né" ['0', '1', '\n'] ∧
      (Counters.start.advanceOver ['0', '1', '\n']).Agrees c ∧ c.HasRoomFor 'é' ∧
      (⟨1, 1⟩ : Position).IsFoundIn "01\né" := by
  have hsize : "01\né".utf8ByteSize ≤ 2 ^ 63 - 1 := by decide +kernel
  have hcall : Reachable "01\né" (Lexer.after "01\né" [.nextToken]).cursor :=
    reachable_replay .ofString _
  have hreach : Reachable "01\né" ⟨"01\né", ['é'], 3, ⟨2, 1⟩⟩ := by
    have h := reachable_run (s := ⟨_, .ofString "01\né"⟩) hcall .ofString [.consume (· ≠ 'é')]
    have hcursor : (Session.run ⟨(Lexer.after "01\né" [.nextToken]).cursor, .ofString "01\né"⟩
        [.consume (· ≠ 'é')]).current = ⟨"01\né", ['é'], 3, ⟨2, 1⟩⟩ := by
      decide +kernel
    rwa [hcursor] at h
  obtain ⟨hcursors, -, herrors⟩ := counters_never_wrap hsize
  obtain ⟨⟨before, hsource, hbounded, hagrees⟩, hroom, -⟩ := hcursors _ hreach
  have hbefore : ['0', '1', '\n'] ++ ['é'] = before ++ ['é'] := hsource
  obtain rfl := List.append_cancel_right hbefore
  exact ⟨hsize, _, hreach, rfl, hbounded, hagrees, hroom [] 'é' [] rfl,
    herrors ⟨.leadingZero, ⟨1, 1⟩⟩ (by decide +kernel)⟩

end Cursor

end ScriptLexer
