import ScriptLexer.Proofs.Rendering

/-!
# What written forms tell

Tokens and errors are written without escapes: a lexeme stands between its quotes as it is, and so
does the character that an error quotes. Nevertheless the written form tells everything
(`Token.eq_of_render_eq`, `LexError.eq_of_message_eq`), because the parts of free shape stand where
their limits are known from elsewhere.

* A token is read from the left. Its position ends at the first bracket and the label of its kind
  at the first space behind that; the lexeme is all that is left but for the last quote.
* An error is read from the right, where there are two numbers, each behind the last space. What
  is left in front of them is the wording of the cause. Only one cause quotes a character, and the
  first letter of its wording is that of no other.
-/

namespace ScriptLexer

/-! ### Tokens -/

theorem TokenKind.space_notMem_label (kind : TokenKind) : ' ' ∉ kind.label.toList := by
  cases kind <;> decide

/-- The kinds have different labels. -/
theorem TokenKind.label_injective : Function.Injective label := by
  intro kind kind' h
  cases kind <;> cases kind' <;> first | rfl | exact absurd h (by decide)

theorem Token.toList_render (t : Token) : t.render.toList =
    '[' :: (t.position.render.toList ++ ']' :: ' ' ::
      (t.kind.label.toList ++ ' ' :: '\'' :: (t.lexeme.toList ++ ['\'']))) := by
  simp [render]

/-- **A written token tells the token.** -/
theorem Token.eq_of_render_eq {t u : Token} (h : t.render = u.render) : t = u := by
  have hposition := position_eq_of_render_eq h
  have hlists := congrArg String.toList h
  rw [toList_render, toList_render, hposition] at hlists
  have hbehind := (List.cons.inj (List.append_cancel_left (List.cons.inj hlists).2)).2
  obtain ⟨hlabel, hquoted⟩ := eq_of_append_cons_eq t.kind.space_notMem_label
    u.kind.space_notMem_label (List.cons.inj hbehind).2
  have hlexeme := List.append_cancel_right (List.cons.inj hquoted).2
  obtain ⟨kind, lexeme, position⟩ := t
  obtain ⟨kind', lexeme', position'⟩ := u
  obtain rfl : kind = kind' := TokenKind.label_injective (String.toList_injective hlabel)
  obtain rfl : lexeme = lexeme' := String.toList_injective hlexeme
  obtain rfl : position = position' := hposition
  rfl

/-! ### Errors -/

namespace Cause

/-- The causes of fixed wording. -/
def plain : List Cause :=
  [malformedNumber, leadingZero, malformedExponent, unterminatedString, unterminatedComment,
    unknownOperator]

theorem mem_plain_or (cause : Cause) :
    cause ∈ plain ∨ ∃ c, cause = invalidTrailingCharacter c := by
  cases cause <;> simp [plain]

theorem eq_of_message_eq_of_mem_plain :
    ∀ cause ∈ plain, ∀ cause' ∈ plain, cause.message = cause'.message → cause = cause' := by
  decide +kernel

/-- The wording that quotes a character has it between two fixed texts. -/
theorem toList_message_invalidTrailingCharacter (c : Char) :
    (invalidTrailingCharacter c).message.toList =
      "Invalid character '".toList ++ c :: "' directly after a number".toList := by
  show ("Invalid character '" ++ String.singleton c ++ "' directly after a number").toList = _
  rw [String.toList_append, String.toList_append, String.toList_singleton, List.append_assoc]
  rfl

/-- No fixed wording looks like one that quotes a character: the first letter is another. -/
theorem message_ne_of_mem_plain {cause : Cause} (h : cause ∈ plain) (c : Char) :
    cause.message ≠ (invalidTrailingCharacter c).message := by
  have hplain : ∀ cause ∈ plain, cause.message.toList.head? ≠ some 'I' := by decide +kernel
  have hquoting : (invalidTrailingCharacter c).message.toList.head? = some 'I' := by
    rw [toList_message_invalidTrailingCharacter, List.head?_append,
      show "Invalid character '".toList.head? = some 'I' by decide +kernel]
    rfl
  exact fun heq ↦ hplain cause h (heq ▸ hquoting)

/-- **A wording tells the cause**, the quoted character included. -/
theorem message_injective : Function.Injective message := by
  intro cause cause' h
  obtain hplain | ⟨c, rfl⟩ := cause.mem_plain_or
  · obtain hplain' | ⟨d, rfl⟩ := cause'.mem_plain_or
    · exact eq_of_message_eq_of_mem_plain cause hplain cause' hplain' h
    · exact absurd h (message_ne_of_mem_plain hplain d)
  · obtain hplain' | ⟨d, rfl⟩ := cause'.mem_plain_or
    · exact absurd h.symm (message_ne_of_mem_plain hplain' c)
    · have hlists := congrArg String.toList h
      rw [toList_message_invalidTrailingCharacter, toList_message_invalidTrailingCharacter]
        at hlists
      rw [(List.cons.inj (List.append_cancel_left hlists)).1]

end Cause

namespace LexError

theorem toList_message (e : LexError) : e.message.toList =
    (e.cause.message ++ " at line").toList ++ ' ' :: (Nat.toDigits 10 e.position.line ++ [',']) ++
      " column".toList ++ ' ' :: Nat.toDigits 10 e.position.column := by
  simp [message]

/-- **A written error tells the error.** -/
theorem eq_of_message_eq {d e : LexError} (h : d.message = e.message) : d = e := by
  have hdigits (n : Nat) : ' ' ∉ Nat.toDigits 10 n := not_mem_toDigits (by decide) n
  have hlists := congrArg String.toList h
  rw [toList_message, toList_message] at hlists
  obtain ⟨hfront, hcolumn⟩ := eq_of_append_cons_eq_right (hdigits _) (hdigits _) hlists
  obtain ⟨hwording, hline⟩ := eq_of_append_cons_eq_right (by simp [hdigits]) (by simp [hdigits])
    (List.append_cancel_right hfront)
  have hmessage : d.cause.message = e.cause.message :=
    String.append_left_inj _ |>.1 (String.toList_injective hwording)
  obtain ⟨cause, ⟨line, column⟩⟩ := d
  obtain ⟨cause', ⟨line', column'⟩⟩ := e
  obtain rfl : cause = cause' := Cause.message_injective hmessage
  obtain rfl : line = line' :=
    toDigits_injective (by decide) (by decide) (List.append_cancel_right hline)
  obtain rfl : column = column' := toDigits_injective (by decide) (by decide) hcolumn
  rfl

end LexError

/-! ### Both -/

/-- **Written forms identify what they show.** No two tokens are written alike, whatever their
lexemes and their positions are, and no two errors. -/
theorem written_forms_injective :
    Function.Injective Token.render ∧ Function.Injective LexError.message :=
  ⟨fun _ _ ↦ Token.eq_of_render_eq, fun _ _ ↦ LexError.eq_of_message_eq⟩

/-- The lexeme of one token looks like the written form of another. -/
example : (Token.mk .string "' ID '[1:1] ID 'x'" ⟨1, 1⟩).render =
    "[1:1] STR '' ID '[1:1] ID 'x''" := by
  decide +kernel

end ScriptLexer
