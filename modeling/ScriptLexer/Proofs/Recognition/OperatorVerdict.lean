import ScriptLexer.Proofs.Refinement

/-!
# The verdicts on operators

What the machine for operators says at any place, wherever it is started. It has no list of
operators and never looks for the longest of them: it takes one character after the other as long as
its state has a move for it. That it finds the longest operator all the same has two reasons. Its
moves are those of a candidate that grows within the table of operators
(`Machine.operator_move`), and the table has no operator beyond a gap
(`Grammar.isLongestOperator_iff`).

It rejects in one way only, and then it has taken nothing. That happens where the first character
is not one with which an operator may begin; these characters are a table of their own, and it
agrees with the operators (`Grammar.no_operator_iff`).
-/

namespace ScriptLexer

open Grammar

variable {text taken lexeme entry : List Char} {kind : TokenKind}

namespace Grammar

/-! ### The longest operator -/

/-- The longest operator that a text begins with. -/
structure IsLongestOperator (entry text : List Char) : Prop where
  /-- It is an operator. -/
  isOperator : IsOperator entry
  /-- The text begins with it. -/
  isPrefix : entry <+: text
  /-- The text begins with no longer operator. -/
  length_le : ∀ other, IsOperator other → other <+: text → other.length ≤ entry.length

/-- **An operator that cannot grow is the longest one.** A longer one would have to begin with this
one and the character after it, and that would be an operator, too. -/
theorem isLongestOperator_iff : IsLongestOperator entry text ↔
    IsOperator entry ∧
      ∃ rest, text = entry ++ rest ∧ ∀ c ∈ rest.head?, ¬ IsOperator (entry ++ [c]) := by
  constructor
  · intro ⟨hoperator, ⟨rest, htext⟩, hlongest⟩
    refine ⟨hoperator, rest, htext.symm, fun c hc hgrown ↦ ?_⟩
    obtain ⟨rest, rfl⟩ := List.head?_eq_some_iff.1 hc
    have hlength := hlongest (entry ++ [c]) hgrown ⟨rest, by simp [← htext]⟩
    rw [List.length_append, List.length_singleton] at hlength
    omega
  · intro ⟨hoperator, rest, htext, hstop⟩
    refine ⟨hoperator, ⟨rest, htext.symm⟩, fun other hother hprefix ↦ ?_⟩
    refine Nat.le_of_not_lt fun hlt ↦ ?_
    have hbegins : entry <+: other :=
      List.prefix_of_prefix_length_le ⟨rest, htext.symm⟩ hprefix (Nat.le_of_lt hlt)
    obtain ⟨more, rfl⟩ := hbegins
    match more with
    | [] => simp at hlt
    | c :: more =>
      obtain ⟨tail, htail⟩ := hprefix
      have hrest : rest = c :: (more ++ tail) := by
        rw [htext, List.append_assoc] at htail
        exact (List.append_cancel_left htail).symm
      have hgrown : Scan.isOperator (entry ++ [c]) = true :=
        Scan.isOperator_of_isPrefix (isOperator_iff.2 hother) ⟨more, by simp⟩ (by simp)
      exact hstop c (by rw [hrest]; rfl) (isOperator_iff.1 hgrown)

/-- There is at most one longest operator. -/
theorem IsLongestOperator.unique {entry' : List Char} (h : IsLongestOperator entry text)
    (h' : IsLongestOperator entry' text) : entry = entry' := by
  have hlength : entry.length = entry'.length :=
    Nat.le_antisymm (h'.length_le _ h.isOperator h.isPrefix)
      (h.length_le _ h'.isOperator h'.isPrefix)
  exact (List.prefix_of_prefix_length_le h.isPrefix h'.isPrefix hlength.le).eq_of_length hlength

/-- **The two tables agree**: a text begins with no operator just when its first character is not
one with which an operator may begin. -/
theorem no_operator_iff :
    (∀ entry, entry <+: text → entry ≠ [] → ¬ IsOperator entry) ↔
      ∀ c ∈ text.head?, isOperatorStart c = false := by
  constructor
  · intro h c hc
    obtain ⟨rest, rfl⟩ := List.head?_eq_some_iff.1 hc
    refine eq_false_of_ne_true fun hstart ↦ ?_
    exact h [c] ⟨rest, rfl⟩ (by simp) (isOperator_iff.1 (Scan.isOperator_singleton hstart))
  · intro h entry hprefix hne hoperator
    obtain ⟨c, tail, rfl⟩ := List.exists_cons_of_ne_nil hne
    obtain ⟨rest, rfl⟩ := hprefix
    have hstart := Scan.isOperatorStart_of_isOperator (isOperator_iff.2 hoperator)
    exact absurd hstart (ne_true_of_eq_false (h c rfl))

end Grammar

namespace Scan

/-! ### The recognizer -/

/-- **Maximal munch.** What is accepted is the longest operator. -/
theorem operator_eq_accept_iff_isLongestOperator :
    Scan.operator text = ⟨taken, .accept kind lexeme⟩ ↔
      kind = .operator ∧ lexeme = taken ∧ IsLongestOperator taken text := by
  rw [operator_eq_accept_iff, isLongestOperator_iff]

/-- **What is rejected** begins with no operator, and nothing of it is taken. -/
theorem operator_eq_unknownOperator_iff :
    Scan.operator text = ⟨[], .reject .unknownOperator⟩ ↔
      ∀ c ∈ text.head?, isOperatorStart c = false := by
  match text with
  | [] => exact iff_of_true rfl (by simp)
  | c :: rest =>
    by_cases hc : isOperatorStart c = true
    · obtain ⟨_, haccept⟩ := exists_operator_eq_accept rest hc
      simp [haccept, verbatim, hc]
    · have hstop : Scan.isOperator ([] ++ [c]) = false :=
        eq_false_of_ne_true fun h ↦ hc (isOperatorStart_of_isOperator h)
      have hscan : Scan.operator (c :: rest) = ⟨[], .reject .unknownOperator⟩ := by
        rw [Scan.operator, operatorGrowth, hstop]
        rfl
      simp [hscan, hc]

/-- There is no third answer. -/
theorem operator_cases (text : List Char) :
    (∃ taken, Scan.operator text = verbatim .operator taken) ∨
      Scan.operator text = ⟨[], .reject .unknownOperator⟩ := by
  rw [Scan.operator]
  split
  · exact .inr rfl
  · exact .inl ⟨_, rfl⟩

end Scan

/-! ### At a cursor -/

namespace TokenClass

variable {c : Cursor} {before : List Char}

/-- **The machine for operators** accepts the longest operator that stands after the cursor, and
leaves the cursor right behind it. Where no operator stands, it says so, and the cursor has not
moved. -/
theorem run_operator_verdicts (h : c.IsAt before) :
    -- operators
    (∀ t c', operator.run c = (some (.accepted t), c') ↔
      ∃ entry rest, c.rest = entry ++ rest ∧ IsLongestOperator entry c.rest ∧
        t = ⟨.operator, String.ofList entry, c.position⟩ ∧ c' = c.advance entry ∧
        c'.rest = rest) ∧
    (∀ entry entry', IsLongestOperator entry c.rest → IsLongestOperator entry' c.rest →
      entry = entry') ∧
    -- everything else
    (operator.run c = (some (.failed ⟨.unknownOperator, c.position⟩), c) ↔
      ∀ entry, entry <+: c.rest → entry ≠ [] → ¬ IsOperator entry) ∧
    ((∀ entry, entry <+: c.rest → entry ≠ [] → ¬ IsOperator entry) ↔
      ∀ d ∈ c.rest.head?, isOperatorStart d = false) ∧
    ((∃ t c', operator.run c = (some (.accepted t), c')) ∨
      operator.run c = (some (.failed ⟨.unknownOperator, c.position⟩), c)) := by
  have hplace := h.isBetween
  simp only [run_eq_some_iff hplace]
  refine ⟨fun t c' ↦ ?_, fun _ _ ↦ IsLongestOperator.unique, ?_, no_operator_iff, ?_⟩
  · rw [Cursor.recognize_eq_accepted_iff]
    constructor
    · intro ⟨taken, kind, lexeme, hscan, ht, hcursor⟩
      obtain ⟨rfl, rfl, hlongest⟩ := Scan.operator_eq_accept_iff_isLongestOperator.1 hscan
      obtain ⟨rest, hrest⟩ := hlongest.isPrefix
      exact ⟨lexeme, rest, hrest.symm, hlongest, ht, hcursor,
        hcursor ▸ Cursor.rest_advance hrest.symm⟩
    · intro ⟨entry, _, _, hlongest, ht, hcursor, _⟩
      exact ⟨entry, .operator, entry,
        Scan.operator_eq_accept_iff_isLongestOperator.2 ⟨rfl, rfl, hlongest⟩, ht, hcursor⟩
  · rw [no_operator_iff, ← Scan.operator_eq_unknownOperator_iff]
    refine ⟨fun hrun ↦ ?_, Cursor.recognize_eq⟩
    obtain ⟨taken, htaken⟩ | hscan := Scan.operator_cases c.rest
    · cases hrun.symm.trans (Cursor.recognize_eq htaken)
    · exact hscan
  · obtain ⟨taken, htaken⟩ | hscan := Scan.operator_cases c.rest
    · exact .inl ⟨_, _, Cursor.recognize_eq htaken⟩
    · exact .inr (Cursor.recognize_eq hscan)

/-- Of four angle brackets and an equals sign three are taken, behind a letter of two bytes. -/
theorem run_operator_verdicts_unsignedShift :
    ((Cursor.ofString "é>>>>=").advance ['é']).IsAt ['é'] ∧
      operator.run ((Cursor.ofString "é>>>>=").advance ['é']) =
        (some (.accepted ⟨.operator, ">>>", ⟨1, 2⟩⟩),
          (Cursor.ofString "é>>>>=").advance ['é', '>', '>', '>']) ∧
      IsLongestOperator ['>', '>', '>'] ['>', '>', '>', '>', '='] := by
  have hplace : ((Cursor.ofString "é>>>>=").advance ['é']).IsAt ['é'] :=
    (Cursor.isAt_ofString "é>>>>=").advance ⟨['>', '>', '>', '>', '='], rfl⟩
  have hrun : operator.run ((Cursor.ofString "é>>>>=").advance ['é']) =
      (some (.accepted ⟨.operator, ">>>", ⟨1, 2⟩⟩),
        (Cursor.ofString "é>>>>=").advance ['é', '>', '>', '>']) := by
    decide +kernel
  obtain ⟨entry, _, -, hlongest, htoken, -⟩ := ((run_operator_verdicts hplace).1 _ _).1 hrun
  have hlexeme : ">>>" = String.ofList entry := congrArg Token.lexeme htoken
  obtain rfl : entry = ['>', '>', '>'] := String.ofList_injective hlexeme.symm
  exact ⟨hplace, hrun, hlongest⟩

end TokenClass

end ScriptLexer
