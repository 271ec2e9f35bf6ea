import ScriptLexer.Log
import ScriptLexer.Proofs.LongestRun

/-!
# Positions in written forms

The position can be read off whatever is written with it. In the written form of a position, a colon
separates two runs of digits (`Position.toList_render`), so it tells the position
(`Position.render_injective`). Where it stands in a longer text, it ends at the first bracket after
it, as in the written form of a token, or begins behind the last space, as in the record of a
skipped character. Neither of these characters is part of it, and what else is written, with or
without brackets and spaces of its own, does not matter.

In the record of a skipped character the character can be read off, too. Characters in quotes are
written in three ways (`toList_escapedChar_cases`), of which each tells the character and none can
be taken for another.
-/

namespace ScriptLexer

/-! ### Texts cut at a character -/

section Cuts

variable {c : Char} {front front' back back' : List Char}

/-- A text is cut in one way at the first place of a character. -/
theorem eq_of_append_cons_eq (hfront : c ∉ front) (hfront' : c ∉ front')
    (h : front ++ c :: back = front' ++ c :: back') : front = front' ∧ back = back' := by
  have hrun {run : List Char} (hrun : c ∉ run) : ∀ d ∈ run, (d != c) = true := fun d hd ↦ by
    simpa using ne_of_mem_of_not_mem hd hrun
  obtain ⟨hfirst, hrest⟩ :=
    run_unique (hrun hfront) (by simp) (hrun hfront') (by simp) h
  exact ⟨hfirst, (List.cons.inj hrest).2⟩

/-- A text is cut in one way at the last place of a character. -/
theorem eq_of_append_cons_eq_right (hback : c ∉ back) (hback' : c ∉ back')
    (h : front ++ c :: back = front' ++ c :: back') : front = front' ∧ back = back' := by
  have hreverse : back.reverse ++ c :: front.reverse = back'.reverse ++ c :: front'.reverse := by
    simpa using congrArg List.reverse h
  obtain ⟨hlast, hrest⟩ :=
    eq_of_append_cons_eq (by simpa using hback) (by simpa using hback') hreverse
  exact ⟨List.reverse_inj.1 hrest, List.reverse_inj.1 hlast⟩

end Cuts

/-! ### Numbers -/

/-- Numbers are written with digits only. -/
theorem not_mem_toDigits {c : Char} (hc : c.isDigit = false) (n : Nat) :
    c ∉ Nat.toDigits 10 n := by
  intro h
  exact absurd (Nat.isDigit_of_mem_toDigits (by decide) (by decide) h) (ne_true_of_eq_false hc)

/-- Numbers are told apart by their digits. -/
theorem toDigits_injective {base m n : Nat} (hbase : 1 < base) (hsixteen : base ≤ 16)
    (h : base.toDigits m = base.toDigits n) : m = n := by
  have hdigit : ∀ m < 16, ∀ n < 16, m.digitChar = n.digitChar → m = n := by decide
  induction m using Nat.strongRecOn generalizing n with
  | ind m ih =>
    rcases Nat.lt_or_ge m base with hm | hm <;> rcases Nat.lt_or_ge n base with hn | hn
    · rw [Nat.toDigits_of_lt_base hm, Nat.toDigits_of_lt_base hn] at h
      exact hdigit m (by omega) n (by omega) (List.cons.inj h).1
    · rw [Nat.toDigits_of_lt_base hm, Nat.toDigits_of_base_le hbase hn] at h
      exact absurd (congrArg List.length h) (by simp)
    · rw [Nat.toDigits_of_base_le hbase hm, Nat.toDigits_of_lt_base hn] at h
      exact absurd (congrArg List.length h) (by simp)
    · rw [Nat.toDigits_of_base_le hbase hm, Nat.toDigits_of_base_le hbase hn] at h
      obtain ⟨hfront, hlast⟩ := List.append_inj' h rfl
      have hquotient : m / base = n / base := ih _ (Nat.div_lt_self (by omega) hbase) hfront
      have hremainder : m % base = n % base :=
        have hlt (k : Nat) : k % base < 16 := (Nat.mod_lt k (by omega)).trans_le hsixteen
        hdigit _ (hlt m) _ (hlt n) (List.cons.inj hlast).1
      rw [← Nat.div_add_mod m base, hquotient, hremainder, Nat.div_add_mod]

/-! ### Positions -/

namespace Position

variable {p q : Position}

theorem toList_render (p : Position) :
    p.render.toList = Nat.toDigits 10 p.line ++ ':' :: Nat.toDigits 10 p.column := by
  simp [render]

theorem not_mem_render {c : Char} (hc : c.isDigit = false) (hcolon : c ≠ ':') (p : Position) :
    c ∉ p.render.toList := by
  rw [toList_render, List.mem_append, List.mem_cons, not_or, not_or]
  exact ⟨not_mem_toDigits hc _, hcolon, not_mem_toDigits hc _⟩

/-- **A written position tells the position.** -/
theorem render_injective (h : p.render.toList = q.render.toList) : p = q := by
  rw [toList_render, toList_render] at h
  obtain ⟨hline, hcolumn⟩ := eq_of_append_cons_eq (not_mem_toDigits (by decide) _)
    (not_mem_toDigits (by decide) _) h
  obtain ⟨_, _⟩ := p
  obtain ⟨_, _⟩ := q
  obtain rfl := toDigits_injective (by decide) (by decide) hline
  obtain rfl := toDigits_injective (by decide) (by decide) hcolumn
  rfl

end Position

/-! ### Quoted characters -/

/-- The characters that are written as a backslash and a letter, each with its letter. -/
def letterEscapes : List (Char × Char) :=
  [('\x00', '0'), ('\t', 't'), ('\r', 'r'), ('\n', 'n'), ('\\', '\\'), ('\'', '\'')]

/-- Inside quotes a character stands for itself, or it is written as a backslash and a letter, or by
its code point. -/
theorem toList_escapedChar_cases (c : Char) :
    (escapedChar c).toList = [c] ∨
      (∃ letter, (c, letter) ∈ letterEscapes ∧ (escapedChar c).toList = ['\\', letter]) ∨
      (escapedChar c).toList = '\\' :: 'u' :: '\x7b' :: (Nat.toDigits 16 c.toNat ++ ['\x7d']) := by
  by_cases hletter : c ∈ letterEscapes.map Prod.fst
  · obtain ⟨⟨_, letter⟩, hmem, rfl⟩ := List.mem_map.1 hletter
    have table : ∀ p ∈ letterEscapes, (escapedChar p.1).toList = ['\\', p.2] := by decide
    exact .inr (.inl ⟨letter, hmem, table _ hmem⟩)
  · simp only [letterEscapes, List.map_cons, List.map_nil, List.mem_cons, List.not_mem_nil,
      or_false, not_or] at hletter
    obtain ⟨hnull, htab, hreturn, hnewline, hbackslash, hquote⟩ := hletter
    rw [escapedChar, if_neg hnull, if_neg htab, if_neg hreturn, if_neg hnewline, if_neg hbackslash,
      if_neg hquote]
    split
    · exact .inr (.inr (by simp [hexadecimal]))
    · exact .inl (by simp)

/-- **A quoted character tells the character.** -/
theorem quotedChar_injective {c d : Char} (h : quotedChar c = quotedChar d) : c = d := by
  have hlists : (escapedChar c).toList = (escapedChar d).toList := by
    simpa [quotedChar] using congrArg String.toList h
  have hletters : ∀ p ∈ letterEscapes, ∀ q ∈ letterEscapes, p.2 = q.2 → p.1 = q.1 := by decide
  obtain hc | ⟨letter, hletter, hc⟩ | hc := toList_escapedChar_cases c <;>
    obtain hd | ⟨letter', hletter', hd⟩ | hd := toList_escapedChar_cases d <;>
    rw [hc, hd] at hlists <;>
    simp at hlists
  · exact hlists
  · exact hletters _ hletter _ hletter' hlists
  · exact Char.toNat_inj.1 (toDigits_injective (by decide) (by decide) hlists)

/-! ### Tokens and skipped characters -/

/-- A token as it is listed, spelled out. -/
theorem Token.render_eq (t : Token) :
    t.render = "[" ++ toString t.position.line ++ ":" ++ toString t.position.column ++ "] " ++
      t.kind.label ++ " '" ++ t.lexeme ++ "'" := by
  simp [render, Position.render, String.append_assoc]

/-- **A written token tells its position**, whatever its lexeme is. -/
theorem Token.position_eq_of_render_eq {t u : Token} (h : t.render = u.render) :
    t.position = u.position := by
  have hrender (t : Token) : t.render.toList =
      '[' :: (t.position.render.toList ++ ']' ::
        (" " ++ t.kind.label ++ " '" ++ t.lexeme ++ "'").toList) := by
    simp [render]
  have hlists := congrArg String.toList h
  rw [hrender, hrender] at hlists
  obtain ⟨-, hlists⟩ := List.cons.inj hlists
  exact Position.render_injective (eq_of_append_cons_eq
    (Position.not_mem_render (by decide) (by decide) _)
    (Position.not_mem_render (by decide) (by decide) _) hlists).1

/-- The record of a skipped character, spelled out. -/
theorem Record.ofSkip_eq (c : Char) (p : Position) :
    ofSkip c p = ⟨.debug, "Skipping " ++ quotedChar c ++ " at " ++ toString p.line ++ ":" ++
      toString p.column⟩ := by
  simp [ofSkip, Position.render, String.append_assoc]

/-- **The record of a skipped character tells the character and its position.** -/
theorem Record.ofSkip_inj {c d : Char} {p q : Position} (h : ofSkip c p = ofSkip d q) :
    c = d ∧ p = q := by
  have hmessage (c : Char) (p : Position) : (ofSkip c p).message.toList =
      ("Skipping " ++ quotedChar c ++ " at").toList ++ ' ' :: p.render.toList := by
    simp [ofSkip]
  have hlists := congrArg (fun r ↦ r.message.toList) h
  simp only [hmessage] at hlists
  obtain ⟨hfront, hposition⟩ := eq_of_append_cons_eq_right
    (Position.not_mem_render (by decide) (by decide) _)
    (Position.not_mem_render (by decide) (by decide) _) hlists
  have hquoted : quotedChar c = quotedChar d := by
    rw [← String.toList_inj]
    simpa using hfront
  exact ⟨quotedChar_injective hquoted, Position.render_injective hposition⟩

end ScriptLexer
