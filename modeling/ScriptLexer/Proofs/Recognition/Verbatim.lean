import ScriptLexer.Proofs.Boundary
import ScriptLexer.Proofs.LongestRun
import Mathlib.Data.List.Infix

/-!
# Words, operators and punctuation

For each of the three recognizers the exact condition under which it accepts: what it takes belongs
to its language, stands at the head of the text, and is not continued by the character after it.

For words that is a longest run. For operators it rests on one fact about the table, that every
text with which an operator begins is an operator (`isOperator_of_isPrefix`): a candidate that grows
one character at a time never has to pass through a text that is not in the table.
-/

namespace ScriptLexer.Scan

open Grammar

variable {text taken lexeme : List Char} {kind : TokenKind}

theorem verbatim_eq_accept_iff {kind' : TokenKind} :
    verbatim kind text = ⟨taken, .accept kind' lexeme⟩ ↔
      kind' = kind ∧ taken = text ∧ lexeme = text := by
  constructor
  · intro h
    obtain ⟨htaken, hkind, hlexeme⟩ := accept_inj h
    exact ⟨hkind.symm, htaken.symm, hlexeme.symm⟩
  · rintro ⟨rfl, rfl, rfl⟩
    rfl

/-! ### Words -/

/-- **Words are taken in full.** -/
theorem word_eq_accept_iff :
    word text = ⟨taken, .accept kind lexeme⟩ ↔
      kind = wordKind taken ∧ lexeme = taken ∧ IsWord taken ∧
        ∃ rest, text = taken ++ rest ∧ ∀ c ∈ rest.head?, isIdentContinue c = false := by
  constructor
  · intro h
    fun_cases word text with
    | case1 | case3 => simp_all [word]
    | case2 c rest hc w =>
      rw [word, if_pos hc] at h
      obtain ⟨rfl, rfl, rfl⟩ := verbatim_eq_accept_iff.1 h
      refine ⟨rfl, rfl, ⟨c, _, rfl, hc, fun d hd ↦ List.mem_takeWhile_imp hd⟩,
        rest.dropWhile isIdentContinue, ?_, eq_false_of_mem_head?_dropWhile⟩
      rw [List.cons_append, List.takeWhile_append_dropWhile]
  · rintro ⟨rfl, rfl, ⟨c, run, rfl, hc, hrun⟩, rest, rfl, hrest⟩
    simp [word, hc, takeWhile_run hrun hrest, verbatim]

/-- Where a word can begin, a word is accepted. -/
theorem exists_word_eq_accept {c : Char} (rest : List Char) (h : isIdentStart c = true) :
    ∃ taken, word (c :: rest) = verbatim (wordKind taken) taken := by
  rw [word, if_pos h]
  exact ⟨_, rfl⟩

/-- A word is misplaced just where none can begin. -/
theorem word_verdict_eq_misplaced_iff :
    (word text).verdict = .misplaced ↔ ∀ c ∈ text.head?, isIdentStart c = false := by
  fun_cases word text <;> simp_all [verbatim]

/-- The reserved words are words. -/
theorem isWord_of_isReserved (h : IsReserved text) : IsWord text := by
  have table : (keywords.all fun keyword ↦ keyword.toList.head?.any isIdentStart &&
      keyword.toList.tail.all isIdentContinue) = true := by
    decide
  have hkeyword := List.all_eq_true.1 table _
    (List.contains_iff_mem.1 (isKeyword_iff_isReserved.2 h))
  rw [String.toList_ofList, Bool.and_eq_true, Option.any_eq_true, List.all_eq_true] at hkeyword
  obtain ⟨⟨c, hc, hstart⟩, hcontinue⟩ := hkeyword
  exact ⟨c, text.tail, (List.cons_head?_tail hc).symm, hstart, hcontinue⟩

/-- The lexemes of keywords and identifiers are the words, and each word is of one of the two
kinds. -/
theorem isLexeme_word_iff : (kind = .keyword ∨ kind = .identifier) ∧ IsLexeme kind text ↔
    kind = wordKind text ∧ IsWord text := by
  constructor
  · rintro ⟨rfl | rfl, hlexeme⟩
    · exact ⟨(if_pos (isKeyword_iff_isReserved.2 hlexeme)).symm, isWord_of_isReserved hlexeme⟩
    · exact ⟨(if_neg (mt isKeyword_iff_isReserved.1 hlexeme.2)).symm, hlexeme.1⟩
  · rintro ⟨rfl, hword⟩
    rw [wordKind]
    split
    · next hkeyword => exact ⟨.inl rfl, isKeyword_iff_isReserved.1 hkeyword⟩
    · next hkeyword => exact ⟨.inr rfl, hword, mt isKeyword_iff_isReserved.2 hkeyword⟩

/-! ### Operators -/

/-- **The table is closed under taking heads.** -/
theorem isOperator_of_isPrefix {operator : List Char} (h : isOperator operator = true)
    (hhead : text <+: operator) (hne : text ≠ []) : isOperator text = true := by
  have table : ∀ operator ∈ operators, ∀ text ∈ operator.inits, text ≠ [] →
      isOperator text = true := by
    decide
  exact table operator (by simpa [isOperator] using h) text ((List.mem_inits _ _).2 hhead) hne

/-- A candidate grows to an operator and stops where it can grow no more. -/
theorem operatorGrowth_stops (candidate text : List Char) :
    (operatorGrowth candidate text ≠ [] →
        isOperator (candidate ++ operatorGrowth candidate text) = true) ∧
      ∃ rest, text = operatorGrowth candidate text ++ rest ∧ ∀ c ∈ rest.head?,
        isOperator (candidate ++ operatorGrowth candidate text ++ [c]) = false := by
  fun_induction operatorGrowth candidate text with
  | case1 => simp
  | case2 candidate c rest hc ih =>
    obtain ⟨hgrown, tail, htail, hstop⟩ := ih
    rw [List.append_assoc, List.singleton_append] at hgrown hstop
    refine ⟨fun _ ↦ ?_, tail, by rw [List.cons_append, ← htail], hstop⟩
    rcases List.eq_nil_or_concat (operatorGrowth (candidate ++ [c]) rest) with hnil | ⟨_, _, hne⟩
    · rwa [hnil]
    · exact hgrown (by simp [hne])
  | case3 candidate c rest hc =>
    refine ⟨by simp, c :: rest, rfl, ?_⟩
    rintro d ⟨⟩
    simpa using hc

/-- A candidate grows through every operator that begins with it. -/
theorem operatorGrowth_append {candidate growth rest : List Char}
    (hgrown : growth ≠ [] → isOperator (candidate ++ growth) = true)
    (hstop : ∀ c ∈ rest.head?, isOperator (candidate ++ growth ++ [c]) = false) :
    operatorGrowth candidate (growth ++ rest) = growth := by
  induction growth generalizing candidate with
  | nil =>
    match rest with
    | [] => rfl
    | c :: rest =>
      have hc := hstop c rfl
      rw [List.append_nil] at hc
      simp [operatorGrowth, hc]
  | cons c growth ih =>
    have hsplit : candidate ++ c :: growth = candidate ++ [c] ++ growth := by simp
    rw [hsplit] at hgrown hstop
    have hc : isOperator (candidate ++ [c]) = true :=
      isOperator_of_isPrefix (hgrown (by simp)) (List.prefix_append _ _) (by simp)
    rw [List.cons_append, operatorGrowth, if_pos hc, ih (fun _ ↦ hgrown (by simp)) hstop]

/-- **Operators are taken in full.** -/
theorem operator_eq_accept_iff :
    operator text = ⟨taken, .accept kind lexeme⟩ ↔
      kind = .operator ∧ lexeme = taken ∧ IsOperator taken ∧
        ∃ rest, text = taken ++ rest ∧ ∀ c ∈ rest.head?, ¬ IsOperator (taken ++ [c]) := by
  simp only [← isOperator_iff, Bool.not_eq_true]
  constructor
  · intro h
    obtain ⟨hgrown, rest, htext, hstop⟩ := operatorGrowth_stops [] text
    rw [List.nil_append] at hgrown hstop
    rw [operator] at h
    split at h
    · cases h
    · next c growth hgrowth =>
      obtain ⟨rfl, rfl, rfl⟩ := verbatim_eq_accept_iff.1 h
      rw [hgrowth] at hgrown htext hstop
      exact ⟨rfl, rfl, hgrown (by simp), rest, htext, hstop⟩
  · rintro ⟨rfl, rfl, hoperator, rest, rfl, hstop⟩
    have hgrowth : operatorGrowth [] (lexeme ++ rest) = lexeme :=
      operatorGrowth_append (fun _ ↦ hoperator) hstop
    rw [operator, hgrowth]
    cases lexeme with
    | nil => exact absurd hoperator (by decide)
    | cons c growth => rfl

/-- Where an operator can begin, an operator is accepted. -/
theorem exists_operator_eq_accept {c : Char} (rest : List Char) (h : isOperatorStart c = true) :
    ∃ taken, operator (c :: rest) = verbatim .operator taken := by
  rw [operator, operatorGrowth, List.nil_append, if_pos (isOperator_singleton h)]
  exact ⟨_, rfl⟩

theorem operator_verdict_ne_misplaced (text : List Char) :
    (operator text).verdict ≠ .misplaced := by
  rw [operator]
  split <;> simp [verbatim]

/-! ### Punctuation -/

theorem punctuation_cons (c : Char) (rest : List Char) :
    punctuation (c :: rest) = verbatim .punctuation [c] :=
  rfl

end ScriptLexer.Scan
