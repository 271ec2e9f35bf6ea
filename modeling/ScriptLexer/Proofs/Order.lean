import ScriptLexer.Proofs.Account
import ScriptLexer.Proofs.Interleaving
import ScriptLexer.Proofs.Session

/-!
# The order of what is reported

Columns begin anew on each line, so neither lines nor columns by themselves grow from one token to
the next. Positions do. On the way through a source every character leads to a later position
(`Position.atOffset_lt_atOffset`), and every reading that does not end the source takes at least one
character, be it of a token or of a fault (`Reading.Spans.position_lt_after`). So whatever is
reported lies before the place from which the next report is made, and reports come in the order of
their positions, as far as the first end mark.

Reports are made along two recursions: the calls of a lexer, which go on behind errors
(`Lexer.ascend_replay`), and the readings of a source, which do not
(`Cursor.IsBetween.ascend_readings`). One step is the same for both
(`Reading.Spans.ascend_cons`).
-/

namespace ScriptLexer

variable {source : String} {before rest text : List Char} {m n : Nat}

/-! ### Offsets -/

namespace Position

/-- The position behind the first `n` characters of a source. -/
def atOffset (source : String) (n : Nat) : Position :=
  start.advanceOver (source.toList.take n)

/-- **Positions grow with offsets.** -/
theorem atOffset_lt_atOffset (hlt : m < n) (hn : n ≤ source.length) :
    atOffset source m < atOffset source n := by
  have hsplit : source.toList.take n = source.toList.take m ++ (source.toList.take n).drop m := by
    conv_lhs => rw [← List.take_append_drop m (source.toList.take n), List.take_take,
      Nat.min_eq_left (Nat.le_of_lt hlt)]
  have hne : (source.toList.take n).drop m ≠ [] := by
    rw [← List.length_pos_iff, List.length_drop, List.length_take_of_le (String.length_toList ▸ hn)]
    omega
  rw [atOffset, atOffset, hsplit, advanceOver_append]
  exact lt_advanceOver _ hne

/-- No two offsets share a position. -/
theorem eq_of_atOffset_eq (hm : m ≤ source.length) (hn : n ≤ source.length)
    (h : atOffset source m = atOffset source n) : m = n := by
  obtain hlt | heq | hgt := Nat.lt_trichotomy m n
  · exact absurd (h ▸ atOffset_lt_atOffset hlt hn) (lt_irrefl _)
  · exact heq
  · exact absurd (h ▸ atOffset_lt_atOffset hgt hm) (lt_irrefl _)

end Position

/-- **Offsets are reached** one character at a time. -/
theorem Cursor.Session.isBetween_after_next (hn : n ≤ source.length) :
    (after source (List.replicate n .next)).current.IsBetween source (source.toList.take n)
      (source.toList.drop n) := by
  induction n with
  | zero => exact isBetween_ofString source
  | succ n ih =>
    have hlt : n < source.toList.length := by
      rw [String.length_toList]
      omega
    have hplace := ih (Nat.le_of_succ_le hn)
    rw [List.drop_eq_getElem_cons hlt, ← List.singleton_append] at hplace
    rw [List.replicate_succ', after_concat, ← List.take_append_getElem hlt]
    have hmove : ((after source (List.replicate n .next)).perform .next).2.current =
        (after source (List.replicate n .next)).current.advance [source.toList[n]] := by
      show Cursor.advance _ (List.take 1 _) = _
      rw [hplace.rest_eq]
      rfl
    rw [hmove]
    exact hplace.advance

/-! ### Reports in order -/

namespace Outcome

/-- Where the token or the error of an outcome lies. -/
def position? : Outcome Token → Option Position
  | accepted t => some t.position
  | failed e => some e.position
  | misplaced => none

/-- Whether an outcome is the end mark. -/
def isEndMark : Outcome Token → Bool
  | accepted t => t.kind == .endOfInput
  | failed _ | misplaced => false

/-- Both outcomes have a position, and that of the first is less. -/
def Precedes (outcome outcome' : Outcome Token) : Prop :=
  ∃ p q, outcome.position? = some p ∧ outcome'.position? = some q ∧ p < q

theorem Precedes.lt {outcome outcome' : Outcome Token} {p q : Position}
    (h : outcome.Precedes outcome') (hp : outcome.position? = some p)
    (hq : outcome'.position? = some q) : p < q := by
  obtain ⟨_, _, hp', hq', hlt⟩ := h
  obtain rfl := Option.some.inj (hp.symm.trans hp')
  obtain rfl := Option.some.inj (hq.symm.trans hq')
  exact hlt

/-- Outcomes ascend from a position: none lies before it, and each precedes those after it unless
it is the end mark. -/
structure Ascend (p : Position) (outcomes : List (Outcome Token)) : Prop where
  /-- Every outcome has a position, and none lies before `p`. -/
  exists_position : ∀ outcome ∈ outcomes, ∃ q, outcome.position? = some q ∧ ¬ q < p
  /-- They come in order. -/
  precedes : outcomes.Pairwise fun outcome outcome' ↦
    outcome.isEndMark = false → outcome.Precedes outcome'

theorem ascend_nil (p : Position) : Ascend p [] :=
  ⟨by simp, List.Pairwise.nil⟩

theorem isEndMark_of_isFinal_eq_false {outcome : Outcome Token} (h : outcome.isFinal = false) :
    outcome.isEndMark = false := by
  cases outcome with
  | accepted t => exact h
  | failed _ | misplaced => rfl

end Outcome

open Outcome

namespace Reading.Spans

variable {r : Reading} {outcomes : List (Outcome Token)}

/-- What a reading yields lies at the first character of the token. -/
theorem position?_outcome (h : r.Spans source before rest) :
    r.outcome.position? = some r.tokenCursor.position := by
  have hne := h.isSafe.ne_misplaced
  rw [outcome] at hne ⊢
  cases hverdict : r.segment.scan.verdict with
  | accept kind lexeme | reject cause => rfl
  | misplaced => exact absurd (by rw [hverdict]; rfl) hne

/-- **A reading leads behind what it yields**, unless that is the end mark. -/
theorem position_lt_after (h : r.Spans source before rest) (hmark : r.outcome.isEndMark = false) :
    r.tokenCursor.position < r.after.position := by
  obtain ⟨-, -, hend⟩ | ⟨htaken, -⟩ := h.outcome_cases
  · rw [hend] at hmark
    cases hmark
  · exact Position.lt_advanceOver _ htaken

/-- **One reading more** in front of what ascends from its end. -/
theorem ascend_cons (h : r.Spans source before rest) (hrest : Ascend r.after.position outcomes) :
    Ascend r.origin.position (r.outcome :: outcomes) := by
  have horigin : ¬ r.tokenCursor.position < r.origin.position := Position.not_advanceOver_lt _ _
  have hafter : ¬ r.after.position < r.tokenCursor.position := Position.not_advanceOver_lt _ _
  refine ⟨List.forall_mem_cons.2 ⟨⟨_, h.position?_outcome, horigin⟩, fun outcome ho ↦ ?_⟩,
    List.pairwise_cons.2 ⟨fun outcome ho hmark ↦ ?_, hrest.precedes⟩⟩
  · obtain ⟨q, hq, hle⟩ := hrest.exists_position outcome ho
    exact ⟨q, hq, Position.not_lt_trans horigin (Position.not_lt_trans hafter hle)⟩
  · obtain ⟨q, hq, hle⟩ := hrest.exists_position outcome ho
    exact ⟨_, q, h.position?_outcome, hq,
      Position.lt_of_lt_of_not_lt (h.position_lt_after hmark) hle⟩

end Reading.Spans

/-! ### Many reports -/

/-- **Answers ascend.** Calls of either kind report in the order of positions, from the place of the
lexer on. -/
theorem Lexer.ascend_replay {l : Lexer} (h : l.cursor.IsBetween source before text)
    (calls : List Call) : Ascend l.cursor.position (l.replay calls).1.reduceOption := by
  induction calls generalizing l before text with
  | nil => exact ascend_nil _
  | cons c calls ih =>
    obtain ⟨-, -, hcall⟩ | ⟨-, hanswer, hcursor⟩ := l.call_cases c
    · simp only [replay, hcall, List.reduceOption_cons_of_none]
      exact ih h
    · obtain ⟨rest, hspans⟩ := h.exists_spans_read
      have hrest := ih (hcursor ▸ hspans.after)
      rw [hcursor] at hrest
      simp only [replay, hanswer, List.reduceOption_cons_of_some]
      exact hspans.ascend_cons hrest

namespace Cursor

/-- **Readings ascend.** -/
theorem IsBetween.ascend_readings {c : Cursor} (h : c.IsBetween source before text) :
    Ascend c.position (c.readings.map Reading.outcome) := by
  induction c using induction_on_readings generalizing before text with
  | step c ih =>
    obtain ⟨rest, hspans⟩ := h.exists_spans_read
    rcases hlast : c.read.segment.isLast with - | -
    · rw [readings_of_isLast_eq_false hlast]
      exact hspans.ascend_cons (ih hlast hspans.after)
    · rw [readings_of_isLast hlast]
      exact hspans.ascend_cons (ascend_nil _)

/-- Nothing follows the end mark in the readings of a source. -/
theorem pairwise_isEndMark_readings (c : Cursor) :
    (c.readings.map Reading.outcome).Pairwise fun outcome _ ↦ outcome.isEndMark = false := by
  induction c using induction_on_readings with
  | step c ih =>
    rcases hlast : c.read.segment.isLast with - | -
    · rw [readings_of_isLast_eq_false hlast, List.map_cons]
      have hfinal : c.read.outcome.isFinal = false := by rw [Reading.isFinal_outcome, hlast]
      exact List.pairwise_cons.2 ⟨fun _ _ ↦ isEndMark_of_isFinal_eq_false hfinal, ih hlast⟩
    · rw [readings_of_isLast hlast]
      exact List.pairwise_singleton _ _

end Cursor

/-- The outcomes of a source come in order. -/
theorem pairwise_precedes_readings (source : String) :
    ((readings source).map Reading.outcome).Pairwise Precedes := by
  have hascend := (Cursor.isBetween_ofString source).ascend_readings.precedes
  have hmarks := (Cursor.ofString source).pairwise_isEndMark_readings
  exact (hascend.and hmarks).imp fun ⟨hprecedes, hmark⟩ ↦ hprecedes hmark

/-- **Reported positions strictly increase.** The position reached at an offset of a source is later
the greater the offset is, and so no two offsets share one. Whatever calls are made of a lexer,
errors or not, what they report comes in the order of positions up to the first end mark. So the
tokens of a source lie one after the other, and its error lies behind the tokens that were seen
before. -/
theorem positions_strictly_increase (source : String) :
    (∀ n, n ≤ source.length →
        (Cursor.Session.after source (List.replicate n .next)).current.position =
          Position.atOffset source n) ∧
      (∀ m n, m < n → n ≤ source.length →
        Position.atOffset source m < Position.atOffset source n) ∧
      (∀ m n, m ≤ source.length → n ≤ source.length →
        Position.atOffset source m = Position.atOffset source n → m = n) ∧
      (∀ calls, (∀ outcome ∈ (Lexer.answers source calls).reduceOption,
          ∃ p, outcome.position? = some p) ∧
        (Lexer.answers source calls).reduceOption.Pairwise fun outcome outcome' ↦
          outcome.isEndMark = false → outcome.Precedes outcome') ∧
      (∀ tokens, tokenize source = .accepted tokens →
        tokens.Pairwise fun t u ↦ t.position < u.position) ∧
      ∀ e, tokenize source = .failed e →
        (tokensSeen source).Pairwise (fun t u ↦ t.position < u.position) ∧
          ∀ t ∈ tokensSeen source, t.position < e.position := by
  have hpairs := pairwise_precedes_readings source
  refine ⟨fun n hn ↦ (Cursor.Session.isBetween_after_next hn).isAt.position_eq,
    fun m n ↦ Position.atOffset_lt_atOffset, fun m n ↦ Position.eq_of_atOffset_eq,
    fun calls ↦ ?_, fun tokens htokens ↦ ?_, fun e he ↦ ?_⟩
  · have hascend := Lexer.ascend_replay (l := .ofString source)
      (Cursor.isBetween_ofString source) calls
    refine ⟨fun outcome ho ↦ ?_, hascend.precedes⟩
    obtain ⟨p, hp, -⟩ := hascend.exists_position outcome ho
    exact ⟨p, hp⟩
  · obtain ⟨_, haccepted, houtcomes⟩ | ⟨_, hfailed, -⟩ := map_outcome_readings_cases source
    · obtain rfl := accepted.inj (haccepted.symm.trans htokens)
      rw [houtcomes, List.pairwise_map] at hpairs
      exact hpairs.imp fun hprecedes ↦ hprecedes.lt rfl rfl
    · exact absurd (htokens.symm.trans hfailed) (by simp)
  · obtain ⟨_, haccepted, -⟩ | ⟨_, hfailed, houtcomes⟩ := map_outcome_readings_cases source
    · exact absurd (he.symm.trans haccepted) (by simp)
    · obtain rfl := failed.inj (hfailed.symm.trans he)
      rw [houtcomes, List.pairwise_append, List.pairwise_map] at hpairs
      obtain ⟨hseen, -, herror⟩ := hpairs
      refine ⟨hseen.imp fun hprecedes ↦ hprecedes.lt rfl rfl, fun t ht ↦ ?_⟩
      exact (herror _ (List.mem_map_of_mem ht) _ (List.mem_singleton_self _)).lt rfl rfl

/-- A string literal that holds a newline, two errors and the end mark, on three lines. -/
example : (Lexer.answers "'\\\n' 01\n/*" (List.replicate 5 .nextToken)).map
    (fun answer ↦ answer.bind Outcome.position?) =
      [some ⟨1, 1⟩, some ⟨2, 3⟩, some ⟨2, 4⟩, some ⟨3, 1⟩, some ⟨3, 3⟩] := by
  decide +kernel

end ScriptLexer
