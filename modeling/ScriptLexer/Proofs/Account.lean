import Mathlib.Data.List.Pairwise
import ScriptLexer.Proofs.Readings
import ScriptLexer.Proofs.Relocation
import ScriptLexer.Proofs.Rendering
import ScriptLexer.Proofs.Replay

/-!
# The log as an account

The log of a run leaves nothing of the source out. Its records but the last are **entries**, each of
which tells of a stretch of the source: a skipped character, or the text of a token. Entries
**account** for a text if they and whitespace make it up, one after the other (`Accounts`), and the
entries of every run account for its source, up to the error if there is one
(`Cursor.IsBetween.exists_examines`).

Everything else is read off that, by induction along the account: the positions of the entries
increase, every entry stands in the text where it says, and every character that is not whitespace
is covered by exactly one of them. As a record tells what it is about (`Record.ofSkip_inj`,
`Token.position_eq_of_render_eq`), no record occurs twice, and none tells of a character that has
not been skipped.
-/

namespace ScriptLexer

open Grammar

variable {p q : Position}

/-! ### Places in order -/

theorem Position.not_lt_trans {r : Position} (hqp : ¬ q < p) (hrq : ¬ r < q) : ¬ r < p := by
  rw [lt_iff] at *
  omega

theorem Position.lt_of_lt_of_not_lt {r : Position} (hpq : p < q) (hrq : ¬ r < q) : p < r := by
  rw [lt_iff] at *
  omega

theorem Position.not_advanceOver_lt (p : Position) (text : List Char) :
    ¬ p.advanceOver text < p := by
  by_cases htext : text = []
  · subst htext
    exact lt_irrefl p
  · exact fun h ↦ lt_irrefl p (lt_trans (lt_advanceOver p htext) h)

/-! ### Entries -/

/-- What a record before the last one tells of. -/
inductive Entry where
  /-- A skipped character and its position. -/
  | skip (c : Char) (position : Position)
  /-- A token and its text, delimiters included. -/
  | token (t : Token) (text : List Char)
deriving DecidableEq, Repr

namespace Entry

/-- The record. -/
def record : Entry → Record
  | skip c position => .ofSkip c position
  | token t _ => .ofToken t

/-- Where it begins. -/
def position : Entry → Position
  | skip _ position => position
  | token t _ => t.position

/-- What it tells of. -/
def text : Entry → List Char
  | skip c _ => [c]
  | token _ text => text

/-- The token that it tells of, if it is one. -/
def token? : Entry → Option Token
  | skip _ _ => none
  | token t _ => some t

/-- Where it ends. -/
def stop (e : Entry) : Position :=
  e.position.advanceOver e.text

/-- What has a position is a part of what the entry tells of. -/
def Covers (e : Entry) (p : Position) : Prop :=
  ¬ p < e.position ∧ p < e.stop

/-- Whether it may be told: no skipped character is whitespace or begins a token, and a token is
written in its text, unless it is the end mark. -/
def IsProper : Entry → Prop
  | skip c _ => isWhitespace c = false ∧ TokenClass.beginsNothing c = true
  | token t text => IsWritten t.kind t.lexeme.toList text ∨ t.kind = .endOfInput ∧ text = []

end Entry

/-! ### Accounts of a text -/

variable {source : String} {text before after gap : List Char} {c : Char}

/-- **Entries that account for a text** which begins at a position: the text is made up of
whitespace, of skipped characters and of the texts of tokens, and the entries tell of the latter two
in their order. Nothing stands behind the end mark. -/
inductive Accounts : Position → List Char → List Entry → Prop
  /-- There is nothing to tell of an empty text. -/
  | nil (p : Position) : Accounts p [] []
  /-- The text ends with the end mark. -/
  | endMark (p : Position) : Accounts p [] [.token ⟨.endOfInput, "", p⟩ []]
  /-- Whitespace is passed over in silence. -/
  | blank {p : Position} {c : Char} {text : List Char} {entries : List Entry} :
    isWhitespace c = true → Accounts (p.advance c) text entries → Accounts p (c :: text) entries
  /-- Any other character outside of tokens has an entry. -/
  | skip {p : Position} {c : Char} {text : List Char} {entries : List Entry} :
    isWhitespace c = false → TokenClass.beginsNothing c = true →
      Accounts (p.advance c) text entries → Accounts p (c :: text) (.skip c p :: entries)
  /-- A token has one entry for all of its text. -/
  | token {t : Token} {written text : List Char} {entries : List Entry} :
    IsWritten t.kind t.lexeme.toList written →
      Accounts (t.position.advanceOver written) text entries →
      Accounts t.position (written ++ text) (.token t written :: entries)

namespace Accounts

variable {entries : List Entry}

theorem ne_nil_of_isWritten {kind : TokenKind} {lexeme : List Char}
    (h : IsWritten kind lexeme text) : text ≠ [] := by
  obtain ⟨first, tail, rfl, -⟩ := exists_cons_of_isWritten h
  exact List.cons_ne_nil first tail

/-- No entry begins before the text. -/
theorem not_position_lt (h : Accounts p text entries) : ∀ e ∈ entries, ¬ e.position < p := by
  induction h with
  | nil p => simp
  | endMark p => simp [Entry.position, Position.lt_irrefl]
  | blank _ _ ih =>
    exact fun e he ↦ Position.not_lt_trans (Position.not_advanceOver_lt _ [_]) (ih e he)
  | skip _ _ _ ih =>
    refine List.forall_mem_cons.2 ⟨Position.lt_irrefl _, fun e he ↦ ?_⟩
    exact Position.not_lt_trans (Position.not_advanceOver_lt _ [_]) (ih e he)
  | token _ _ ih =>
    refine List.forall_mem_cons.2 ⟨Position.lt_irrefl _, fun e he ↦ ?_⟩
    exact Position.not_lt_trans (Position.not_advanceOver_lt _ _) (ih e he)

/-- **One entry after the other**: each begins after the one before it, and not before that one has
ended. -/
theorem pairwise (h : Accounts p text entries) :
    entries.Pairwise fun e e' ↦ e.position < e'.position ∧ ¬ e'.position < e.stop := by
  have hnext {e : Entry} {p : Position} {text : List Char} {entries : List Entry}
      (htext : e.text ≠ []) (hstop : e.stop = p) (h : Accounts p text entries) :
      ∀ e' ∈ entries, e.position < e'.position ∧ ¬ e'.position < e.stop := by
    intro e' he'
    have hlt : e.position < e.stop := Position.lt_advanceOver e.position htext
    have hstop' : ¬ e'.position < e.stop := hstop ▸ h.not_position_lt e' he'
    exact ⟨Position.lt_of_lt_of_not_lt hlt hstop', hstop'⟩
  induction h with
  | nil p => exact List.Pairwise.nil
  | endMark p => exact List.pairwise_singleton _ _
  | blank _ _ ih => exact ih
  | skip _ _ hrest ih => exact List.pairwise_cons.2 ⟨hnext (by simp [Entry.text]) rfl hrest, ih⟩
  | token hwritten hrest ih =>
    exact List.pairwise_cons.2 ⟨hnext (ne_nil_of_isWritten hwritten) rfl hrest, ih⟩

/-- **Every entry stands** in the text where it says, and may be told. -/
theorem stands (h : Accounts p text entries) : ∀ e ∈ entries, e.IsProper ∧
    ∃ front back, text = front ++ (e.text ++ back) ∧ e.position = p.advanceOver front := by
  induction h with
  | nil p => simp
  | endMark p =>
    intro e he
    rw [List.mem_singleton.1 he]
    exact ⟨.inr ⟨rfl, rfl⟩, [], [], rfl, rfl⟩
  | @blank p c text entries _ _ ih =>
    intro e he
    obtain ⟨hproper, front, back, rfl, hposition⟩ := ih e he
    exact ⟨hproper, c :: front, back, rfl, hposition⟩
  | @skip p c text entries hblank hnone _ ih =>
    refine List.forall_mem_cons.2 ⟨⟨⟨hblank, hnone⟩, [], text, rfl, rfl⟩, fun e he ↦ ?_⟩
    obtain ⟨hproper, front, back, rfl, hposition⟩ := ih e he
    exact ⟨hproper, c :: front, back, rfl, hposition⟩
  | @token t written text entries hwritten _ ih =>
    refine List.forall_mem_cons.2 ⟨⟨.inl hwritten, [], text, rfl, rfl⟩, fun e he ↦ ?_⟩
    obtain ⟨hproper, front, back, rfl, hposition⟩ := ih e he
    refine ⟨hproper, written ++ front, back, by simp, ?_⟩
    rw [hposition, Position.advanceOver_append]

/-- **Nothing is left out**: a character that is not whitespace is a part of the text of a token,
or is told of by itself. -/
theorem exists_covers (h : Accounts p text entries) (htext : text = before ++ c :: after)
    (hc : isWhitespace c = false) : ∃ e ∈ entries, e.Covers (p.advanceOver before) ∧
      (e = .skip c (p.advanceOver before) ∨ ∃ t written, e = .token t written) := by
  induction h generalizing before with
  | nil p | endMark p => simp at htext
  | @blank p d text entries hblank _ ih =>
    match before with
    | [] =>
      obtain ⟨rfl, -⟩ := List.cons.inj htext
      exact absurd hblank (ne_true_of_eq_false hc)
    | _ :: before =>
      obtain ⟨rfl, htail⟩ := List.cons.inj htext
      exact ih htail
  | @skip p d text entries _ _ _ ih =>
    match before with
    | [] =>
      obtain ⟨rfl, -⟩ := List.cons.inj htext
      have hcovers : (Entry.skip d p).Covers p := ⟨Position.lt_irrefl p, p.lt_advance d⟩
      exact ⟨_, List.mem_cons_self, hcovers, .inl rfl⟩
    | _ :: before =>
      obtain ⟨rfl, htail⟩ := List.cons.inj htext
      obtain ⟨e, he, hcovers⟩ := ih htail
      exact ⟨e, List.mem_cons_of_mem _ he, hcovers⟩
  | @token t written text entries _ _ ih =>
    -- the character stands behind the text of the token, or inside
    obtain ⟨more, rfl, htail⟩ | ⟨more, hwritten, hmore⟩ := List.append_eq_append_iff.1 htext
    · obtain ⟨e, he, hcovers⟩ := ih htail
      rw [← Position.advanceOver_append] at hcovers
      exact ⟨e, List.mem_cons_of_mem _ he, hcovers⟩
    · match more with
      | [] =>
        rw [List.append_nil] at hwritten
        have hhead : text = [] ++ c :: after := hmore.symm
        obtain ⟨e, he, hcovers⟩ := ih hhead
        rw [← Position.advanceOver_append, hwritten, List.append_nil] at hcovers
        exact ⟨e, List.mem_cons_of_mem _ he, hcovers⟩
      | d :: more =>
        have hlt : t.position.advanceOver before < t.position.advanceOver written := by
          rw [hwritten, Position.advanceOver_append]
          exact Position.lt_advanceOver _ (List.cons_ne_nil d more)
        have hcovers : (Entry.token t written).Covers (t.position.advanceOver before) :=
          ⟨Position.not_advanceOver_lt _ _, hlt⟩
        exact ⟨_, List.mem_cons_self, hcovers, .inr ⟨t, written, rfl⟩⟩

/-- **A gap** in front of what is accounted for has the entries of its skipped characters. -/
theorem gap_append (hgap : ∀ c ∈ gap, isGap c = true)
    (h : Accounts (p.advanceOver gap) text entries) :
    Accounts p (gap ++ text)
      ((((p.locate gap).filter fun skip ↦ !isWhitespace skip.1).map fun skip ↦
        .skip skip.1 skip.2) ++ entries) := by
  induction gap generalizing p with
  | nil => exact h
  | cons c gap ih =>
    obtain ⟨hc, hgap⟩ := List.forall_mem_cons.1 hgap
    have hrest := ih hgap h
    rw [Position.locate]
    rcases hblank : isWhitespace c with - | -
    · rw [isGap, hblank, Bool.false_or] at hc
      rw [List.filter_cons_of_pos (by simp [hblank])]
      exact .skip hblank hc hrest
    · rw [List.filter_cons_of_neg (by simp [hblank])]
      exact .blank hblank hrest

end Accounts

/-! ### The entries of a run -/

namespace Reading

/-- The entries of one reading. -/
def entries (r : Reading) : List Entry :=
  (r.skipped.map fun skip ↦ .skip skip.1 skip.2) ++
    match r.outcome with
    | .accepted t => [.token t r.segment.scan.taken]
    | .failed _ | .misplaced => []

/-- The tokens among the entries of a reading. -/
theorem filterMap_token?_entries (r : Reading) :
    r.entries.filterMap Entry.token? = r.outcome.value?.toList := by
  have hskipped : (r.skipped.map fun skip ↦ Entry.skip skip.1 skip.2).filterMap Entry.token? =
      [] := by
    simp [Entry.token?]
  rw [entries, List.filterMap_append, hskipped, List.nil_append]
  cases r.outcome <;> rfl

/-- The records of a reading are those of its entries, and the one of its error. -/
theorem records_eq (r : Reading) :
    r.records = r.entries.map Entry.record ++
      match r.outcome with
      | .failed e => [.ofError e]
      | .accepted _ | .misplaced => [] := by
  have hskipped : (r.skipped.map fun skip ↦ Entry.skip skip.1 skip.2).map Entry.record =
      r.skipped.map fun skip ↦ Record.ofSkip skip.1 skip.2 := by
    simp [Entry.record, Function.comp_def]
  rw [records, entries, List.map_append, hskipped, List.append_assoc]
  cases r.outcome <;> rfl

end Reading

/-- The entries of a run. -/
def entries (source : String) : List Entry :=
  (readings source).flatMap Reading.entries

/-- The tokens that are seen have their entries, in order. -/
theorem filterMap_token?_entries (source : String) :
    (entries source).filterMap Entry.token? = tokensSeen source := by
  rw [entries, List.filterMap_flatMap]
  simp only [Reading.filterMap_token?_entries]
  exact (List.filterMap_eq_flatMap_toList _ _).symm

namespace Outcome

variable {α : Type} {value : α} {values : List α} {outcomes : List (Outcome α)} {e : LexError}

theorem collect_accepted_eq_accepted_iff :
    collect (.accepted value :: outcomes) = .accepted values ↔
      ∃ others, collect outcomes = .accepted others ∧ values = value :: others := by
  rw [collect]
  cases collect outcomes <;> simp [Outcome.map, eq_comm]

theorem collect_accepted_eq_failed_iff :
    collect (.accepted value :: outcomes) = .failed e ↔ collect outcomes = .failed e := by
  rw [collect]
  cases collect outcomes <;> simp [Outcome.map]

end Outcome

namespace Cursor

/-- The records of the readings are those of their entries, and the one of their error. -/
theorem flatMap_records_readings (cursor : Cursor) :
    cursor.readings.flatMap Reading.records =
      (cursor.readings.flatMap Reading.entries).map Entry.record ++
        match Outcome.collect (cursor.readings.map Reading.outcome) with
        | .failed e => [.ofError e]
        | .accepted _ | .misplaced => [] := by
  induction cursor using induction_on_readings with
  | step cursor ih =>
    have hfinal := cursor.read.isFinal_outcome
    have hrecords := cursor.read.records_eq
    rcases hlast : cursor.read.segment.isLast with - | -
    · -- a reading that is not the last has no error
      rw [readings_of_isLast_eq_false hlast, List.flatMap_cons, List.flatMap_cons, List.map_cons,
        ih hlast, List.map_append, hrecords]
      rw [hlast] at hfinal
      cases houtcome : cursor.read.outcome with
      | accepted t =>
        rw [Outcome.collect]
        cases Outcome.collect (cursor.read.after.readings.map Reading.outcome) <;>
          simp [Outcome.map]
      | failed e | misplaced => simp [houtcome, Outcome.isFinal] at hfinal
    · rw [readings_of_isLast hlast, List.flatMap_singleton, List.flatMap_singleton,
        List.map_singleton, hrecords]
      cases cursor.read.outcome <;> rfl

/-- The readings from a cursor on **examine** a text, which is followed by another one: their
entries account for it, and it is all that is left, or it ends at the position of the error. -/
structure Examines (cursor : Cursor) (examined rest : List Char) : Prop where
  /-- The entries account for the text. -/
  accounts : Accounts cursor.position examined (cursor.readings.flatMap Reading.entries)
  /-- Without an error, nothing is left. -/
  complete : ∀ tokens,
    Outcome.collect (cursor.readings.map Reading.outcome) = .accepted tokens → rest = []
  /-- An error stands where the text ends. -/
  position_eq : ∀ e, Outcome.collect (cursor.readings.map Reading.outcome) = .failed e →
    e.position = cursor.position.advanceOver examined

section Examined

variable {cursor : Cursor} {examined rest rest' : List Char} {t : Token} {e : LexError}

/-- The end mark is found behind a gap, which is all that is left. -/
theorem examines_of_endMark (hspans : cursor.read.Spans source before rest)
    (htaken : cursor.read.segment.scan.taken = []) (hrest : rest = [])
    (houtcome : cursor.read.outcome = .accepted (endMark source.toList)) :
    cursor.Examines cursor.read.segment.gap [] := by
  have hlast : cursor.read.segment.isLast = true := by
    rw [← cursor.read.isFinal_outcome, houtcome]
    rfl
  have hmark : endMark source.toList =
      ⟨.endOfInput, "", cursor.position.advanceOver cursor.read.segment.gap⟩ := by
    rw [endMark, hspans.tokenCursor.toList_eq, htaken, hrest, List.append_nil, List.append_nil,
      ← hspans.tokenCursor.isAt.position_eq]
    rfl
  have haccounts := Accounts.gap_append (p := cursor.position) hspans.isGap_of_mem (.endMark _)
  rw [List.append_nil, ← hmark] at haccounts
  refine ⟨?_, fun _ _ ↦ rfl, ?_⟩
  · rw [readings_of_isLast hlast, List.flatMap_singleton, Reading.entries, houtcome, htaken]
    exact haccounts
  · rw [readings_of_isLast hlast, List.map_singleton, houtcome]
    nofun

/-- An error is found behind a gap. -/
theorem examines_of_failed (hspans : cursor.read.Spans source before rest)
    (hposition : e.position = cursor.position.advanceOver cursor.read.segment.gap)
    (houtcome : cursor.read.outcome = .failed e) (rest' : List Char) :
    cursor.Examines cursor.read.segment.gap rest' := by
  have hlast : cursor.read.segment.isLast = true := by
    rw [← cursor.read.isFinal_outcome, houtcome]
    rfl
  have haccounts := Accounts.gap_append (p := cursor.position) hspans.isGap_of_mem (.nil _)
  rw [List.append_nil] at haccounts
  refine ⟨?_, ?_, ?_⟩
  · rw [readings_of_isLast hlast, List.flatMap_singleton, Reading.entries, houtcome]
    exact haccounts
  · rw [readings_of_isLast hlast, List.map_singleton, houtcome]
    nofun
  · rw [readings_of_isLast hlast, List.map_singleton, houtcome]
    intro e' he'
    rw [← Outcome.failed.inj he']
    exact hposition

/-- A token is found behind a gap, and its text and what is examined after it come next. -/
theorem Examines.of_after (hspans : cursor.read.Spans source before rest)
    (hposition : t.position = cursor.position.advanceOver cursor.read.segment.gap)
    (hwritten : IsWritten t.kind t.lexeme.toList cursor.read.segment.scan.taken)
    (houtcome : cursor.read.outcome = .accepted t)
    (hlast : cursor.read.segment.isLast = false) (h : cursor.read.after.Examines examined rest') :
    cursor.Examines
      (cursor.read.segment.gap ++ (cursor.read.segment.scan.taken ++ examined)) rest' := by
  have hafter : cursor.read.after.position =
      t.position.advanceOver cursor.read.segment.scan.taken := by
    rw [hposition]
    rfl
  have htoken : Accounts t.position (cursor.read.segment.scan.taken ++ examined)
      (.token t cursor.read.segment.scan.taken ::
        cursor.read.after.readings.flatMap Reading.entries) :=
    .token hwritten (hafter ▸ h.accounts)
  refine ⟨?_, ?_, ?_⟩
  · rw [readings_of_isLast_eq_false hlast, List.flatMap_cons, Reading.entries, houtcome,
      List.append_assoc]
    exact Accounts.gap_append hspans.isGap_of_mem (hposition ▸ htoken)
  · intro tokens htokens
    rw [readings_of_isLast_eq_false hlast, List.map_cons, houtcome,
      Outcome.collect_accepted_eq_accepted_iff] at htokens
    obtain ⟨tokens', htokens', -⟩ := htokens
    exact h.complete tokens' htokens'
  · intro e he
    rw [readings_of_isLast_eq_false hlast, List.map_cons, houtcome,
      Outcome.collect_accepted_eq_failed_iff] at he
    rw [h.position_eq e he, hafter, hposition, Position.advanceOver_append,
      Position.advanceOver_append]

/-- **The entries account for what is read**: for all that is left, or for what stands before the
position of the error. -/
theorem IsBetween.exists_examines (h : cursor.IsBetween source before text) :
    ∃ examined rest, text = examined ++ rest ∧ cursor.Examines examined rest := by
  induction cursor using induction_on_readings generalizing before text with
  | step cursor ih =>
    obtain ⟨rest, hspans⟩ := h.exists_spans_read
    have htext : text = cursor.read.segment.gap ++ (cursor.read.segment.scan.taken ++ rest) := by
      rw [← h.rest_eq]
      exact hspans.origin.rest_eq
    obtain ⟨htaken, hrest, houtcome⟩ | ⟨-, hreports⟩ := hspans.outcome_cases
    · refine ⟨cursor.read.segment.gap, [], ?_, examines_of_endMark hspans htaken hrest houtcome⟩
      rw [htext, htaken, hrest, List.append_nil]
    · generalize houtcome : cursor.read.outcome = outcome at hreports
      cases hreports with
      | token hposition hwritten =>
        have hlast : cursor.read.segment.isLast = false := by
          rw [← cursor.read.isFinal_outcome, houtcome, Outcome.isFinal]
          simpa using hwritten.kind_ne_endOfInput
        obtain ⟨examined, rest', rfl, hexamines⟩ := ih hlast hspans.after
        exact ⟨_, rest', by simpa using htext,
          .of_after hspans hposition hwritten houtcome hlast hexamines⟩
      | fault hposition _ =>
        exact ⟨_, _, htext, examines_of_failed hspans hposition houtcome _⟩

end Examined

end Cursor

/-! ### The log -/

/-- **An account of a text** that begins a source: entries that stand in the text where they say, in
its order, and leave nothing of it out. -/
structure IsAccount (text : List Char) (entries : List Entry) : Prop where
  /-- The positions of the entries increase. -/
  position_lt : entries.Pairwise fun e e' ↦ e.position < e'.position
  /-- Every entry may be told, and what it tells of stands at its position. -/
  stands : ∀ e ∈ entries, e.IsProper ∧ ∃ before after,
    text = before ++ (e.text ++ after) ∧ e.position = Position.start.advanceOver before
  /-- Every character that is not whitespace is a part of what one entry tells of, and of one only:
  of a token, or of itself. -/
  covers : ∀ before c after, text = before ++ c :: after → isWhitespace c = false →
    ∃ e ∈ entries, e.Covers (Position.start.advanceOver before) ∧
      (e = .skip c (Position.start.advanceOver before) ∨ ∃ t written, e = .token t written) ∧
      ∀ e' ∈ entries, e'.Covers (Position.start.advanceOver before) → e' = e
  /-- Nothing tells of whitespace as skipped. -/
  blank : ∀ before c after, text = before ++ c :: after → isWhitespace c = true →
    ∀ d, .skip d (Position.start.advanceOver before) ∉ entries

namespace Accounts

variable {entries : List Entry}

/-- No two entries cover one place. -/
theorem eq_of_covers (h : Accounts p text entries) {e e' : Entry} (he : e ∈ entries)
    (he' : e' ∈ entries) (hcovers : e.Covers q) (hcovers' : e'.Covers q) : e = e' := by
  have hsymm : Std.Symm fun e e' : Entry ↦ ¬ (e.Covers q ∧ e'.Covers q) :=
    ⟨fun _ _ hne hboth ↦ hne hboth.symm⟩
  have hapart : entries.Pairwise fun e e' ↦ ¬ (e.Covers q ∧ e'.Covers q) := by
    refine h.pairwise.imp ?_
    intro e e' ⟨_, hstop⟩ ⟨hcovers, hcovers'⟩
    exact hcovers'.1 (Position.lt_of_lt_of_not_lt hcovers.2 hstop)
  by_contra hne
  exact hapart.forall he he' hne ⟨hcovers, hcovers'⟩

/-- **Entries that account for a text are an account of it.** -/
theorem isAccount (h : Accounts Position.start text entries) : IsAccount text entries where
  position_lt := h.pairwise.imp And.left
  stands := h.stands
  covers before c after htext hc := by
    obtain ⟨e, he, hcovers, htells⟩ := h.exists_covers htext hc
    exact ⟨e, he, hcovers, htells, fun e' he' hcovers' ↦ h.eq_of_covers he' he hcovers' hcovers⟩
  blank before c after htext hc d hd := by
    obtain ⟨⟨hblank, -⟩, before', after', htext', hposition⟩ := h.stands _ hd
    -- the position tells the place, and with it the character
    have hplaces : before ++ c :: after = before' ++ d :: after' := htext.symm.trans htext'
    obtain rfl : before = before' := Position.eq_of_advanceOver_eq hplaces hposition
    obtain ⟨rfl, -⟩ := List.cons.inj (List.append_cancel_left hplaces)
    exact absurd hc (ne_true_of_eq_false hblank)

end Accounts

namespace Record

/-! Records of different sorts differ in their levels or in how they begin. -/

theorem ofSkip_ne_ofToken (c : Char) (p : Position) (t : Token) : ofSkip c p ≠ ofToken t := by
  simp [ofSkip, ofToken]

theorem ofSkip_ne_ofCount (c : Char) (p : Position) (count : Nat) :
    ofSkip c p ≠ ofCount count := by
  intro h
  have hfirst := congrArg (fun r ↦ r.message.toList.head?) h
  simp [ofSkip, ofCount] at hfirst

theorem ofSkip_ne_ofError (c : Char) (p : Position) (e : LexError) : ofSkip c p ≠ ofError e := by
  intro h
  have hfirst := congrArg (fun r ↦ r.message.toList.head?) h
  simp [ofSkip, ofError] at hfirst

theorem ofCount_ne_ofError (count : Nat) (e : LexError) : ofCount count ≠ ofError e := by
  intro h
  have hseventh := congrArg (fun r ↦ r.message.toList[6]?) h
  simp [ofCount, ofError] at hseventh

end Record

/-- **The log** is made of the records of the entries and of one that closes it. -/
theorem exists_closing (source : String) :
    ∃ closing, log source = (entries source).map Entry.record ++ [closing] ∧
      closing.level = .debug ∧ (∀ c p, .ofSkip c p ≠ closing) ∧
      ((∃ tokens, tokenize source = .accepted tokens ∧ closing = .ofCount tokens.length) ∨
        ∃ e, tokenize source = .failed e ∧ closing = .ofError e) := by
  have hrecords : (readings source).flatMap Reading.records =
      (entries source).map Entry.record ++
        match tokenize source with
        | .failed e => [.ofError e]
        | .accepted _ | .misplaced => [] :=
    (Cursor.ofString source).flatMap_records_readings
  cases houtcome : tokenize source with
  | accepted tokens =>
    exact ⟨.ofCount tokens.length, by simp [log, hrecords, houtcome], rfl,
      fun c p ↦ Record.ofSkip_ne_ofCount c p _, .inl ⟨tokens, rfl, rfl⟩⟩
  | failed e =>
    exact ⟨.ofError e, by simp [log, hrecords, houtcome], rfl,
      fun c p ↦ Record.ofSkip_ne_ofError c p e, .inr ⟨e, rfl, rfl⟩⟩
  | misplaced => exact absurd houtcome (WrittenToken.tokenize_ne_misplaced source)

/-- An entry of its own position has a record of its own. -/
theorem Entry.record_ne_record {e e' : Entry} (h : e.position < e'.position) :
    e.record ≠ e'.record := by
  intro hrecord
  have hposition : e.position = e'.position := by
    match e, e' with
    | .skip c p, .skip d q => exact (Record.ofSkip_inj hrecord).2
    | .skip c p, .token t _ => exact absurd hrecord (Record.ofSkip_ne_ofToken c p t)
    | .token t _, .skip c p => exact absurd hrecord.symm (Record.ofSkip_ne_ofToken c p t)
    | .token t _, .token u _ => exact Token.position_eq_of_render_eq (Record.mk.inj hrecord).2
  exact Position.lt_irrefl _ (hposition ▸ h)

/-- No two records of an account are the same, nor is one of them the record that closes the log. -/
theorem IsAccount.nodup_append {entries : List Entry} {closing : Record}
    (h : IsAccount text entries) (hlevel : closing.level = .debug)
    (hskip : ∀ c p, Record.ofSkip c p ≠ closing) :
    (entries.map Entry.record ++ [closing]).Nodup := by
  refine List.nodup_append.2 ⟨?_, List.pairwise_singleton _ _, ?_⟩
  · exact List.pairwise_map.2 (h.position_lt.imp Entry.record_ne_record)
  · intro r hr r' hr'
    obtain ⟨e, -, rfl⟩ := List.mem_map.1 hr
    rw [List.mem_singleton.1 hr']
    cases e with
    | skip c p => exact hskip c p
    | token t written =>
      intro heq
      rw [← heq] at hlevel
      cases hlevel

/-- A record of entries tells of a skipped character only if one of them does. -/
theorem Entry.ofSkip_mem_map_record {entries : List Entry} {c : Char} {p : Position} :
    .ofSkip c p ∈ entries.map record ↔ .skip c p ∈ entries := by
  constructor
  · intro hmem
    obtain ⟨e, he, hrecord⟩ := List.mem_map.1 hmem
    cases e with
    | skip d q =>
      obtain ⟨rfl, rfl⟩ := Record.ofSkip_inj hrecord
      exact he
    | token t written => exact absurd hrecord.symm (Record.ofSkip_ne_ofToken c p t)
  · exact fun hmem ↦ List.mem_map.2 ⟨_, hmem, rfl⟩

/-- The record of an entry, spelled out. -/
theorem Entry.record_eq (e : Entry) :
    e.record = match e with
      | .skip c p => ⟨.debug, "Skipping " ++ quotedChar c ++ " at " ++ toString p.line ++ ":" ++
          toString p.column⟩
      | .token t _ => ⟨.trace, "[" ++ toString t.position.line ++ ":" ++
          toString t.position.column ++ "] " ++ t.kind.label ++ " '" ++ t.lexeme ++ "'"⟩ := by
  cases e with
  | skip c p => exact Record.ofSkip_eq c p
  | token t written => exact congrArg (Record.mk .trace) t.render_eq

/-- The tokens of entries have the records at the level of steps, in their order. -/
theorem Entry.filter_trace_map_record (entries : List Entry) :
    (entries.map record).filter (fun r ↦ r.level = .trace) =
      (entries.filterMap token?).map .ofToken := by
  induction entries with
  | nil => rfl
  | cons e entries ih =>
    cases e with
    | skip c p =>
      show (entries.map record).filter _ = (entries.filterMap token?).map .ofToken
      exact ih
    | token t written =>
      show .ofToken t :: (entries.map record).filter _ =
        .ofToken t :: (entries.filterMap token?).map .ofToken
      rw [ih]

/-- **The tokens in the log** are those that are seen. -/
theorem filter_trace_log (source : String) :
    (log source).filter (fun r ↦ r.level = .trace) = (tokensSeen source).map .ofToken := by
  rw [← filterMap_token?_entries, ← Entry.filter_trace_map_record]
  obtain ⟨closing, hlog, hlevel, -⟩ := exists_closing source
  rw [hlog, List.filter_append, List.filter_cons_of_neg (by simp [hlevel]), List.filter_nil,
    List.append_nil]

/-- **The log accounts for the run.** Its records but the last tell, in the order of the source, of
the tokens that are seen and of the skipped characters. Between them they leave out nothing of the
source if the run succeeds, and nothing in front of the error if it fails. The last record tells
which of the two it is. -/
theorem log_accounts (source : String) :
    ∃ examined rest entries closing, source.toList = examined ++ rest ∧
      IsAccount examined entries ∧
      log source = entries.map (fun
        | .skip c p => ⟨.debug, "Skipping " ++ quotedChar c ++ " at " ++ toString p.line ++ ":" ++
            toString p.column⟩
        | .token t _ => ⟨.trace, "[" ++ toString t.position.line ++ ":" ++
            toString t.position.column ++ "] " ++ t.kind.label ++ " '" ++ t.lexeme ++ "'"⟩) ++
        [⟨.debug, closing⟩] ∧
      (log source).Nodup ∧
      (∀ c p, ⟨.debug, "Skipping " ++ quotedChar c ++ " at " ++ toString p.line ++ ":" ++
        toString p.column⟩ ∈ log source ↔ .skip c p ∈ entries) ∧
      entries.filterMap Entry.token? = tokensSeen source ∧
      (log source).filter (fun r ↦ r.level = .trace) =
        (tokensSeen source).map (fun t ↦ ⟨.trace, t.render⟩) ∧
      (closing = "Lexer produced " ++ toString ((log source).countP fun r ↦ r.level = .trace) ++
          " tokens" ↔
        ∃ tokens, tokenize source = .accepted tokens) ∧
      ((∃ tokens, tokenize source = .accepted tokens) → rest = []) ∧
      ((¬ ∃ tokens, tokenize source = .accepted tokens) → ∃ e, tokenize source = .failed e ∧
        closing = "Lexer stopped: " ++ e.cause.message ++ " at line " ++
          toString e.position.line ++ ", column " ++ toString e.position.column ∧
        e.position = Position.start.advanceOver examined) := by
  obtain ⟨examined, rest, hsource, hexamines⟩ :=
    (Cursor.isBetween_ofString source).exists_examines
  have haccount : IsAccount examined (entries source) := hexamines.accounts.isAccount
  have hcount : (log source).countP (fun r ↦ r.level = .trace) = (tokensSeen source).length := by
    rw [List.countP_eq_length_filter, filter_trace_log, List.length_map]
  obtain ⟨closing, hlog, hlevel, hskip, hcases⟩ := exists_closing source
  refine ⟨examined, rest, entries source, closing.message, hsource, haccount, ?_,
    hlog ▸ haccount.nodup_append hlevel hskip, fun c p ↦ ?_, filterMap_token?_entries source,
    filter_trace_log source, ?_⟩
  · have hclosing : closing = ⟨.debug, closing.message⟩ := by rw [← hlevel]
    rw [hlog, List.map_congr_left fun e _ ↦ e.record_eq, ← hclosing]
  · rw [← Record.ofSkip_eq, hlog, List.mem_append, List.mem_singleton, or_iff_left (hskip c p)]
    exact Entry.ofSkip_mem_map_record
  · rw [hcount]
    obtain ⟨tokens, haccepted, rfl⟩ | ⟨e, hfailed, rfl⟩ := hcases
    · rw [tokensSeen_of_accepted haccepted]
      exact ⟨iff_of_true rfl ⟨tokens, haccepted⟩, fun _ ↦ hexamines.complete tokens haccepted,
        fun hnone ↦ absurd ⟨tokens, haccepted⟩ hnone⟩
    · have hnone : ¬ ∃ tokens, tokenize source = .accepted tokens := by
        intro ⟨tokens, haccepted⟩
        exact absurd (hfailed.symm.trans haccepted) (by simp)
      refine ⟨iff_of_false (fun h ↦ ?_) hnone, fun h ↦ absurd h hnone,
        fun _ ↦ ⟨e, hfailed, ?_, hexamines.position_eq e hfailed⟩⟩
      · exact Record.ofCount_ne_ofError _ e (congrArg (Record.mk .debug) h.symm)
      · simp [Record.ofError, LexError.message, String.append_assoc]

/-- A token, a skipped character and an error: the space is not told of. -/
example : log "a # 1." =
    [⟨.trace, "[1:1] ID 'a'"⟩, ⟨.debug, "Skipping '#' at 1:3"⟩,
      ⟨.debug, "Lexer stopped: Malformed number at line 1, column 5"⟩] := by
  decide +kernel

end ScriptLexer
