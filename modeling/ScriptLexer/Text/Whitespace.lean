import ScriptLexer.Text.CodeRange

/-!
# Whitespace

Whitespace is the Unicode property `White_Space`: besides the blanks of ASCII it has the next-line
control, the no-break space, the typographic spaces and the line and paragraph separators. It has
neither the zero-width space nor the byte order mark.
-/

namespace ScriptLexer

/-- The code points with the property `White_Space`. -/
def whitespaceTable : List CodeRange :=
  [⟨0x0009, 0x000D⟩, ⟨0x0020, 0x0020⟩, ⟨0x0085, 0x0085⟩, ⟨0x00A0, 0x00A0⟩, ⟨0x1680, 0x1680⟩,
   ⟨0x2000, 0x200A⟩, ⟨0x2028, 0x2029⟩, ⟨0x202F, 0x202F⟩, ⟨0x205F, 0x205F⟩, ⟨0x3000, 0x3000⟩]

/-- Whether a character is whitespace. -/
def isWhitespace (c : Char) : Bool :=
  CodeRange.anyContains whitespaceTable c

end ScriptLexer
