import ScriptLexer.Proofs.TokenList

/-!
# Tiling

Nothing of a source is lost, doubled or moved by the lexer. A **division** cuts a text into token
texts and the gaps around them. Tokens are carried by a division if each of them is written in its
token text and has the position of that text. `tokenize_tiles` says that the tokens of an accepted
source are carried by a division of the whole source.

Divisions are mere cuts. They know nothing of recognizers, and which texts they may contain is left
to those who speak about them.
-/

namespace ScriptLexer

open Grammar

/-! ### Divisions -/

/-- A token text and the gap before it. -/
structure Piece where
  /-- The characters before the token. -/
  gap : List Char
  /-- The text of the token, delimiters included. -/
  text : List Char
deriving DecidableEq, Repr

/-- A way to cut a text into gaps and token texts. -/
structure Division where
  /-- The token texts with the gaps before them. -/
  pieces : List Piece
  /-- The gap after the last token text. -/
  tail : List Char
deriving DecidableEq, Repr

namespace Division

/-- The text of consecutive pieces. -/
def textOf (pieces : List Piece) : List Char :=
  pieces.flatMap fun piece ↦ piece.gap ++ piece.text

/-- The text that is cut. -/
def text (d : Division) : List Char :=
  textOf d.pieces ++ d.tail

@[simp] theorem textOf_nil : textOf [] = [] := rfl

@[simp] theorem textOf_cons (piece : Piece) (pieces : List Piece) :
    textOf (piece :: pieces) = piece.gap ++ piece.text ++ textOf pieces := rfl

/-- A text that can be skipped: each of its characters is whitespace or has no class, whatever
follows it. -/
def IsSkipped (gap : List Char) : Prop :=
  ∀ c ∈ gap, isWhitespace c = true ∨ ∀ second, TokenClass.classify c second = none

theorem isSkipped_iff {gap : List Char} : IsSkipped gap ↔ ∀ c ∈ gap, isGap c = true :=
  forall₂_congr fun _ _ ↦ isGap_iff.symm

/-- All gaps of a division can be skipped. -/
def HasGaps (d : Division) : Prop :=
  (∀ piece ∈ d.pieces, IsSkipped piece.gap) ∧ IsSkipped d.tail

/-- **Tokens in their places.** There is one token for each piece. It is written in the text of the
piece, and its position is that of this text. -/
structure Carries (d : Division) (tokens : List Token) : Prop where
  /-- There are as many tokens as pieces. -/
  length_eq : tokens.length = d.pieces.length
  /-- A token is written where its piece is. -/
  token : ∀ before piece after, d.pieces = before ++ piece :: after →
    ∃ t, tokens[before.length]? = some t ∧ IsWritten t.kind t.lexeme.toList piece.text ∧
      t.position = Position.start.advanceOver (textOf before ++ piece.gap)

end Division

/-! ### The division of a run -/

namespace WrittenToken

/-- The piece of a written token. -/
def piece (w : WrittenToken) : Piece :=
  ⟨w.gap, w.text⟩

/-- The division of a run before a gap. -/
def division (ws : List WrittenToken) (gap : List Char) : Division :=
  ⟨ws.map piece, gap⟩

variable {ws : List WrittenToken} {gap : List Char}

@[simp] theorem textOf_map_piece (ws : List WrittenToken) :
    Division.textOf (ws.map piece) = charsOf ws := by
  rw [Division.textOf, List.flatMap_map]
  rfl

@[simp] theorem text_division : (division ws gap).text = charsOf ws ++ gap := by
  rw [Division.text, division, textOf_map_piece]

theorem hasGaps_division (h : ∀ c ∈ gap, isGap c = true) : (division ws gap).HasGaps := by
  refine ⟨fun piece hpiece ↦ ?_, Division.isSkipped_iff.2 h⟩
  obtain ⟨w, -, rfl⟩ := List.mem_map.1 hpiece
  exact Division.isSkipped_iff.2 w.isGap_of_mem

/-- **The tokens of a run are carried by its division.** -/
theorem carries_division : (division ws gap).Carries (tokensAfter [] ws) := by
  refine ⟨by simp [division], fun before piece after h ↦ ?_⟩
  obtain ⟨ws₁, ws₂, rfl, rfl, htail⟩ := List.map_eq_append_iff.1 h
  obtain ⟨w, ws₂, rfl, rfl, -⟩ := List.map_eq_cons_iff.1 htail
  have hget : (tokensAfter [] (ws₁ ++ w :: ws₂))[ws₁.length]? =
      some ⟨w.kind, String.ofList w.lexeme, Position.start.advanceOver (charsOf ws₁ ++ w.gap)⟩ := by
    rw [tokensAfter_append, List.getElem?_append_right (by simp)]
    simp [tokensAfter]
  refine ⟨_, by rw [List.length_map]; exact hget, ?_, ?_⟩
  · rw [String.toList_ofList]
    exact w.isWritten
  · rw [textOf_map_piece]
    rfl

end WrittenToken

/-! ### Accepted sources -/

/-- **Lossless tiling.** An accepted source is cut without remainder into gaps, which can be
skipped, and the texts of its tokens. Each token has the position of its text. The end mark comes
last and only there, and it has the position of the end of the source. -/
theorem tokenize_tiles {source : String} {tokens : List Token}
    (h : tokenize source = .accepted tokens) :
    ∃ (d : Division) (body : List Token),
      tokens = body ++ [⟨.endOfInput, "", Position.start.advanceOver source.toList⟩] ∧
        source.toList = d.text ∧ d.HasGaps ∧ d.Carries body ∧ ∀ t ∈ body, t.kind ≠ .endOfInput := by
  obtain ⟨ws, gap, htext, -, hgap, rfl⟩ := WrittenToken.tokenize_eq_accepted_iff.1 h
  refine ⟨WrittenToken.division ws gap, WrittenToken.tokensAfter [] ws, rfl, ?_,
    WrittenToken.hasGaps_division hgap, WrittenToken.carries_division, fun t ht ↦ ?_⟩
  · rw [WrittenToken.text_division, htext]
  · obtain ⟨w, -, hkind, -⟩ := WrittenToken.exists_of_mem_tokensAfter ht
    exact hkind ▸ w.isWritten.kind_ne_endOfInput

/-- A source with a character outside of ASCII, a sign that belongs to a number, and newlines inside
a comment and inside a string literal. -/
theorem tokenize_tiles_multiline :
    tokenize "é x=-1/*a\n*/'\\\n'" = .accepted
        [⟨.identifier, "x", ⟨1, 3⟩⟩, ⟨.operator, "=", ⟨1, 4⟩⟩, ⟨.number, "-1", ⟨1, 5⟩⟩,
          ⟨.comment, "a\n", ⟨1, 7⟩⟩, ⟨.string, "\\\n", ⟨2, 3⟩⟩, ⟨.endOfInput, "", ⟨3, 2⟩⟩] ∧
      ∃ d : Division, "é x=-1/*a\n*/'\\\n'".toList = d.text ∧ d.HasGaps ∧ d.Carries
        [⟨.identifier, "x", ⟨1, 3⟩⟩, ⟨.operator, "=", ⟨1, 4⟩⟩, ⟨.number, "-1", ⟨1, 5⟩⟩,
          ⟨.comment, "a\n", ⟨1, 7⟩⟩, ⟨.string, "\\\n", ⟨2, 3⟩⟩] := by
  have haccepted : tokenize "é x=-1/*a\n*/'\\\n'" = .accepted
      ([⟨.identifier, "x", ⟨1, 3⟩⟩, ⟨.operator, "=", ⟨1, 4⟩⟩, ⟨.number, "-1", ⟨1, 5⟩⟩,
        ⟨.comment, "a\n", ⟨1, 7⟩⟩, ⟨.string, "\\\n", ⟨2, 3⟩⟩] ++ [⟨.endOfInput, "", ⟨3, 2⟩⟩]) := by
    decide +kernel
  obtain ⟨d, body, htokens, htext, hgaps, hcarries, -⟩ := tokenize_tiles haccepted
  obtain ⟨rfl, -⟩ := List.append_inj' htokens rfl
  exact ⟨haccepted, d, htext, hgaps, hcarries⟩

end ScriptLexer
