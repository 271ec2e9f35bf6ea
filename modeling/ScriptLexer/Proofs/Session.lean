import ScriptLexer.Cursor.Session
import ScriptLexer.Proofs.Refinement

/-!
# Sessions with a cursor, at any place

What is true of a cursor whatever has been done with it, tokens read where they cannot begin
included. The cursor and its saved copy stand somewhere in the source (`Session.IsWithin`), so their
offsets, lines and columns are those of the text before them. Every command but `restore` moves
over a text at the head of what is left, or over nothing (`Session.exists_taken_perform`); hence
what lies between two moments of a session, without a `restore` between them, is what has been
passed, and it can be cut out between the offsets of the two.

Few commands can go wrong: a slice whose offsets mark none, a word where no word can begin, and
a comment where none can begin (`Session.isPanic_perform_iff`). Tokens of the other classes can be
asked for at any place, and are answered by a token or an error. The marks that are set in reading
one always mark a slice.
-/

namespace ScriptLexer

open Grammar

variable {source : String} {before taken lexeme rest text : List Char} {kind : TokenKind}
  {cls : TokenClass}

/-! ### Recognizers at any place -/

namespace TokenClass

/-- Whether the recognizer of a class can be asked at the head of a text. Four of them can be asked
anywhere, and find a token or an error. -/
def MayBegin : TokenClass → List Char → Prop
  | word, text => ∃ c ∈ text.head?, isIdentStart c = true
  | comment, text => ['/', '/'] <+: text ∨ ['/', '*'] <+: text
  | number, _ | string, _ | operator, _ | punctuation, _ => True

theorem recognizer_verdict_eq_misplaced_iff :
    (cls.recognizer text).verdict = .misplaced ↔ ¬ cls.MayBegin text := by
  cases cls with
  | number => simp [recognizer, MayBegin, Scan.number_verdict_ne_misplaced]
  | word => simp [recognizer, MayBegin, Scan.word_verdict_eq_misplaced_iff]
  | string => simp [recognizer, MayBegin, Scan.stringLiteral_verdict_ne_misplaced]
  | comment => exact Scan.comment_verdict_eq_misplaced_iff
  | operator => simp [recognizer, MayBegin, Scan.operator_verdict_ne_misplaced]
  | punctuation => simp [recognizer, MayBegin, Scan.punctuation, Scan.verbatim]

/-- The texts that stand before and behind the lexemes of a class. -/
def Delimits : TokenClass → List Char → List Char → Prop
  | string, opening, closing => ∃ quote, opening = [quote] ∧ closing = [quote]
  | comment, opening, closing =>
    (opening = ['/', '/'] ∧ closing = []) ∨ (opening = ['/', '*'] ∧ closing = ['*', '/'])
  | number, opening, closing | word, opening, closing | operator, opening, closing
  | punctuation, opening, closing => opening = [] ∧ closing = []

/-- The lexeme that a recognizer accepts stands between the delimiters that it takes along. -/
theorem exists_delimits_of_recognizer (h : cls.recognizer text = ⟨taken, .accept kind lexeme⟩) :
    ∃ opening closing, cls.Delimits opening closing ∧ taken = opening ++ (lexeme ++ closing) := by
  have hwhole (hbare : cls.Delimits [] []) (hlexeme : lexeme = taken) :
      ∃ opening closing, cls.Delimits opening closing ∧ taken = opening ++ (lexeme ++ closing) :=
    ⟨[], [], hbare, by simp [hlexeme]⟩
  cases cls with
  | number => exact hwhole ⟨rfl, rfl⟩ (Scan.number_eq_accept_iff.1 h).2.1
  | word => exact hwhole ⟨rfl, rfl⟩ (Scan.word_eq_accept_iff.1 h).2.1
  | string =>
    obtain ⟨-, quote, -, -, -, htaken, -⟩ := Scan.stringLiteral_eq_accept_iff.1 h
    exact ⟨[quote], [quote], ⟨quote, rfl, rfl⟩, htaken⟩
  | comment =>
    obtain ⟨hkind, hwritten, -⟩ := Scan.comment_eq_accept_iff.1 h
    cases hwritten with
    | line => exact ⟨['/', '/'], [], .inl ⟨rfl, rfl⟩, by simp⟩
    | block => exact ⟨['/', '*'], ['*', '/'], .inr ⟨rfl, rfl⟩, rfl⟩
    | verbatim _ hcomment _ _ => exact absurd rfl hcomment
  | operator => exact hwhole ⟨rfl, rfl⟩ (Scan.operator_eq_accept_iff.1 h).2.1
  | punctuation =>
    obtain ⟨-, htaken, hlexeme⟩ := Scan.verbatim_eq_accept_iff.1 h
    exact hwhole ⟨rfl, rfl⟩ (hlexeme.trans htaken.symm)

end TokenClass

namespace Cursor

/-! ### Commands that go wrong -/

/-- Whether a reply tells that the command could not be carried out. -/
def Reply.isPanic : Reply → Bool
  | .text none | .token .misplaced => true
  | .character _ | .text (some _) | .token (.accepted _) | .token (.failed _) | .done => false

/-- A command cannot be carried out at the place of a cursor: it cuts out what is no slice, or it
asks for a token of a class where none can begin. -/
def Command.IsMisuse (c : Cursor) : Command → Prop
  | slice start stop => IsBadRange c.source.toList start stop
  | sliceFrom start => IsBadRange c.source.toList start c.offset
  | recognize cls => ¬ cls.MayBegin c.rest
  | next | peek | peekSecond | consume _ | consumeBy _ | save | restore => False

namespace Session

variable {s : Session} {command : Command} {commands forward : List Command}

/-- **What goes wrong.** -/
theorem isPanic_perform_iff (hplace : s.current.IsBetween source before text) :
    (s.perform command).1.isPanic = true ↔ command.IsMisuse s.current := by
  have hslice (start stop : Nat) : (Reply.text (s.current.slice? start stop)).isPanic = true ↔
      IsBadRange s.current.source.toList start stop := by
    rw [← slice?_eq_none_iff, slice?]
    rcases ScriptLexer.slice? s.current.source.toList start stop with - | -
    · simp [Reply.isPanic]
    · simp [Reply.isPanic]
  cases command with
  | slice start stop => exact hslice start stop
  | sliceFrom start => exact hslice start s.current.offset
  | recognize cls =>
    rw [Command.IsMisuse, ← TokenClass.recognizer_verdict_eq_misplaced_iff, perform,
      TokenClass.run_eq cls hplace, Cursor.recognize]
    cases (cls.recognizer s.current.rest).verdict with
    | accept _ _ | reject _ | misplaced => simp [Verdict.at, Reply.isPanic]
  | next | peek | peekSecond | consume _ | consumeBy _ | save | restore =>
    simp [perform, Reply.isPanic, Command.IsMisuse]

/-! ### One command -/

/-- **What a command does to the cursor**: it moves it over a text at the head of what is left. Only
`restore` does not. -/
theorem exists_taken_perform (s : Session) (h : command ≠ .restore) :
    ∃ taken, taken <+: s.current.rest ∧
      (s.perform command).2.current = s.current.advance taken := by
  cases command with
  | next => exact ⟨_, List.take_prefix 1 _, rfl⟩
  | consume condition => exact ⟨_, List.takeWhile_prefix condition, rfl⟩
  | consumeBy condition => exact ⟨_, passing_isPrefix condition [] _, rfl⟩
  | recognize cls => exact cls.exists_taken_run s.current
  | peek | peekSecond | slice _ _ | sliceFrom _ | save => exact ⟨[], List.nil_prefix, rfl⟩
  | restore => exact absurd rfl h

theorem exists_passed_perform (hplace : s.current.IsBetween source before text)
    (h : command ≠ .restore) :
    ∃ passed rest, text = passed ++ rest ∧
      (s.perform command).2.current.IsBetween source (before ++ passed) rest := by
  obtain ⟨passed, ⟨rest, htext⟩, hmove⟩ := s.exists_taken_perform h
  rw [hplace.rest_eq] at htext
  refine ⟨passed, rest, htext.symm, ?_⟩
  rw [hmove]
  exact Cursor.IsBetween.advance (htext ▸ hplace)

/-- Both cursors of a session stand in a source. -/
structure IsWithin (source : String) (s : Session) : Prop where
  /-- The cursor stands somewhere. -/
  current : ∃ before rest, s.current.IsBetween source before rest
  /-- So does its copy. -/
  saved : ∃ before rest, s.saved.IsBetween source before rest

theorem isWithin_ofString (source : String) : (ofString source).IsWithin source :=
  ⟨⟨_, _, isBetween_ofString source⟩, ⟨_, _, isBetween_ofString source⟩⟩

/-- **One command** keeps both cursors in the source. -/
theorem IsWithin.perform (h : s.IsWithin source) (command : Command) :
    (s.perform command).2.IsWithin source := by
  obtain ⟨before, text, hplace⟩ := h.current
  have hcurrent (hc : command ≠ .restore) :
      ∃ before rest, (s.perform command).2.current.IsBetween source before rest := by
    obtain ⟨passed, rest, -, hplace'⟩ := exists_passed_perform hplace hc
    exact ⟨_, _, hplace'⟩
  cases command with
  | next | peek | peekSecond | consume _ | consumeBy _ | slice _ _ | sliceFrom _ | recognize _ =>
    exact ⟨hcurrent (by simp), h.saved⟩
  | save => exact ⟨h.current, h.current⟩
  | restore => exact ⟨h.saved, h.saved⟩

/-- What is consumed is cut out between the offsets before and after it. -/
theorem perform_consumeBy (hplace : s.current.IsBetween source before text)
    (condition : List Char → Char → Bool) :
    (s.perform (.consumeBy condition)).1 = .text
      ((s.perform (.consumeBy condition)).2.current.sliceFrom? s.current.offset) := by
  obtain ⟨rest, htext⟩ := passing_isPrefix condition [] text
  have hahead : s.current.IsBetween source before (passing condition [] text ++ rest) :=
    htext.symm ▸ hplace
  rw [perform, takeWhileBy, hplace.rest_eq, hahead.sliceFrom?_advance]

/-- A condition without a memory is one that does not look at it. -/
theorem perform_consume_eq (s : Session) (condition : Char → Bool) :
    s.perform (.consume condition) = s.perform (.consumeBy fun _ ↦ condition) := by
  have hpassing (passed text : List Char) :
      passing (fun _ ↦ condition) passed text = text.takeWhile condition := by
    induction text generalizing passed with
    | nil => rfl
    | cons c text ih => rw [passing, ih, List.takeWhile_cons]
  rw [perform, perform, takeWhileBy, hpassing]
  rfl

/-- The lexeme of a token that is read is cut out between the offsets of its delimiters. -/
theorem exists_slice?_lexeme (hplace : s.current.IsBetween source before text) {t : Token}
    (ht : (s.perform (.recognize cls)).1 = .token (.accepted t)) :
    ∃ opening closing rest, cls.Delimits opening closing ∧
      text = opening ++ (t.lexeme.toList ++ (closing ++ rest)) ∧
      (s.perform (.recognize cls)).2.current.rest = rest ∧
      ∃ start stop, start = s.current.offset + utf8Length opening ∧
        stop + utf8Length closing = (s.perform (.recognize cls)).2.current.offset ∧
        (s.perform (.recognize cls)).2.current.slice? start stop = some t.lexeme := by
  have hperform : s.perform (.recognize cls) =
      (.token (s.current.recognize cls.recognizer).1,
        { s with current := (s.current.recognize cls.recognizer).2 }) := by
    rw [perform, TokenClass.run_eq cls hplace]
    rfl
  match hscan : cls.recognizer text with
  | ⟨taken, .accept kind lexeme⟩ =>
    obtain ⟨opening, closing, hdelimits, htaken⟩ := TokenClass.exists_delimits_of_recognizer hscan
    obtain ⟨rest, htext⟩ := cls.recognizer_taken_isPrefix text
    rw [hscan, htaken, List.append_assoc, List.append_assoc] at htext
    have hahead : s.current.IsBetween source before (opening ++ (lexeme ++ (closing ++ rest))) :=
      htext ▸ hplace
    rw [hperform, Cursor.recognize, hplace.rest_eq, hscan] at ht ⊢
    obtain rfl := Outcome.accepted.inj (Reply.token.inj ht)
    refine ⟨opening, closing, rest, hdelimits, by simpa using htext.symm, ?_, _,
      s.current.offset + utf8Length (opening ++ lexeme), rfl, ?_, hahead.slice?_eq⟩
    · exact rest_advance (by simp [hplace.rest_eq, ← htext, htaken])
    · show s.current.offset + utf8Length (opening ++ lexeme) + utf8Length closing =
        s.current.offset + utf8Length taken
      rw [htaken, ← List.append_assoc, utf8Length_append _ closing]
      omega
  | ⟨_, .reject _⟩ | ⟨_, .misplaced⟩ =>
    rw [hperform, Cursor.recognize, hplace.rest_eq, hscan] at ht
    cases ht

/-! ### Many commands -/

/-- The session that a list of commands leaves behind. -/
def run (s : Session) (commands : List Command) : Session :=
  commands.foldl (fun s command ↦ (s.perform command).2) s

theorem run_append (s : Session) (commands later : List Command) :
    s.run (commands ++ later) = (s.run commands).run later :=
  List.foldl_append

/-- **Commands keep both cursors in the source.** -/
theorem IsWithin.run (h : s.IsWithin source) (commands : List Command) :
    (s.run commands).IsWithin source := by
  induction commands generalizing s with
  | nil => exact h
  | cons command commands ih => exact ih (h.perform command)

/-- **Commands go forward** as long as none of them is `restore`. -/
theorem exists_passed_run (hplace : s.current.IsBetween source before text)
    (h : ∀ command ∈ forward, command ≠ .restore) :
    ∃ passed rest, text = passed ++ rest ∧
      (s.run forward).current.IsBetween source (before ++ passed) rest := by
  induction forward generalizing s before text with
  | nil => exact ⟨[], text, rfl, by rwa [List.append_nil]⟩
  | cons command forward ih =>
    obtain ⟨hcommand, hforward⟩ := List.forall_mem_cons.1 h
    obtain ⟨passed, middle, rfl, hmiddle⟩ := exists_passed_perform hplace hcommand
    obtain ⟨passed', rest, rfl, hrest⟩ := ih hmiddle hforward
    refine ⟨passed ++ passed', rest, by rw [List.append_assoc], ?_⟩
    rw [← List.append_assoc]
    exact hrest

/-! ### Any session -/

/-- The session that a list of commands on a source leaves behind. -/
def after (source : String) (commands : List Command) : Session :=
  (ofString source).run commands

theorem after_append (source : String) (commands later : List Command) :
    after source (commands ++ later) = (after source commands).run later :=
  run_append _ commands later

theorem after_concat (source : String) (commands : List Command) (command : Command) :
    after source (commands ++ [command]) = ((after source commands).perform command).2 :=
  after_append source commands [command]

theorem isWithin_after (source : String) (commands : List Command) :
    (after source commands).IsWithin source :=
  (isWithin_ofString source).run commands

/-- **A cursor keeps its place.** After any commands on a source, the cursor stands between two
parts of the source; its offset counts the bytes of the first, its line the newlines there, and its
column the characters after the last of them. From there on, commands without `restore` pass over
a part of what is left, and what they have passed is what is cut out between the offsets before and
after them, then or later. So is what is consumed, whatever the condition remembers; and the lexeme
of a token that is recognized is what is cut out between the delimiters of its class. And a command
goes wrong only if it is misused. -/
theorem keeps_place (source : String) (commands : List Command) :
    (∃ before rest, (after source commands).current.IsBetween source before rest ∧
        (after source commands).current.position =
          ⟨1 + before.count '\n', 1 + (before.reverse.takeWhile (· ≠ '\n')).length⟩) ∧
      (∀ forward, (∀ command ∈ forward, command ≠ .restore) → ∃ before passed rest,
        (after source commands).current.IsBetween source before (passed ++ rest) ∧
          (after source (commands ++ forward)).current.IsBetween source (before ++ passed) rest ∧
          ∀ later, (after source (commands ++ forward ++ later)).current.slice?
              (after source commands).current.offset
              (after source (commands ++ forward)).current.offset =
            some (String.ofList passed)) ∧
      (∀ condition, ((after source commands).perform (.consume condition)).1 =
        .text ((after source (commands ++ [.consume condition])).current.sliceFrom?
          (after source commands).current.offset)) ∧
      (∀ condition, ((after source commands).perform (.consumeBy condition)).1 =
        .text ((after source (commands ++ [.consumeBy condition])).current.sliceFrom?
          (after source commands).current.offset)) ∧
      (∀ cls t, ((after source commands).perform (.recognize cls)).1 = .token (.accepted t) →
        ∃ opening closing rest, cls.Delimits opening closing ∧
          (after source commands).current.rest =
            opening ++ (t.lexeme.toList ++ (closing ++ rest)) ∧
          (after source (commands ++ [.recognize cls])).current.rest = rest ∧
          ∃ start stop, start = (after source commands).current.offset + utf8Length opening ∧
            stop + utf8Length closing =
              (after source (commands ++ [.recognize cls])).current.offset ∧
            (after source (commands ++ [.recognize cls])).current.slice? start stop =
              some t.lexeme) ∧
      ∀ command, ((after source commands).perform command).1.isPanic = true ↔
        command.IsMisuse (after source commands).current := by
  obtain ⟨before, text, hplace⟩ := (isWithin_after source commands).current
  refine ⟨⟨before, text, hplace, ?_⟩, fun forward hforward ↦ ?_, fun condition ↦ ?_,
    fun condition ↦ ?_, fun cls t ht ↦ ?_, fun _ ↦ isPanic_perform_iff hplace⟩
  · rw [hplace.isAt.position_eq, Position.advanceOver_start]
  · obtain ⟨passed, rest, rfl, hplace'⟩ := exists_passed_run hplace hforward
    rw [← after_append] at hplace'
    refine ⟨before, passed, rest, hplace, hplace', fun later ↦ ?_⟩
    obtain ⟨_, _, hlater⟩ := (isWithin_after source (commands ++ forward ++ later)).current
    exact hplace.slice?_between hplace' hlater.source_eq
  · rw [after_concat, perform_consume_eq]
    exact perform_consumeBy hplace _
  · rw [after_concat]
    exact perform_consumeBy hplace condition
  · rw [after_concat, hplace.rest_eq]
    exact exists_slice?_lexeme hplace ht

/-- A slash that opens no comment is passed all the same, and an offset inside a character marks no
slice. -/
example : ((ofString "é\n/x").performAll
      [.next, .next, .recognize .comment, .recognize .word, .sliceFrom 1, .sliceFrom 2]).map
    (fun step ↦ (step.1, step.2.current.offset, step.2.current.position)) =
      [(.character (some 'é'), 2, ⟨1, 2⟩), (.character (some '\n'), 3, ⟨2, 1⟩),
        (.token .misplaced, 4, ⟨2, 2⟩), (.token (.accepted ⟨.identifier, "x", ⟨2, 2⟩⟩), 5, ⟨2, 3⟩),
        (.text none, 5, ⟨2, 3⟩), (.text (some "\n/x"), 5, ⟨2, 3⟩)] := by
  decide +kernel

end Session

end Cursor

end ScriptLexer
