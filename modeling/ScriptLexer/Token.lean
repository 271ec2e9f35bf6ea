import ScriptLexer.Position

/-!
# Tokens

A **token** has a kind, a lexeme and the position of its first character. The lexeme is the text of
the token as it stands in the source; only strings and comments leave their delimiters out of it.
-/

namespace ScriptLexer

/-- The kinds of tokens. -/
inductive TokenKind where
  /-- A reserved word. -/
  | keyword
  /-- A word that is not reserved. -/
  | identifier
  /-- A decimal number, with its sign if it has one. -/
  | number
  /-- A string literal. -/
  | string
  /-- A comment, to the end of a line or in block form. -/
  | comment
  /-- An operator. -/
  | operator
  /-- A punctuation mark. -/
  | punctuation
  /-- The mark that stands after the last token of a text. -/
  | endOfInput
deriving DecidableEq, Repr

namespace TokenKind

/-- The full name of a kind. -/
def name : TokenKind → String
  | keyword => "Keyword"
  | identifier => "Identifier"
  | number => "Number"
  | string => "String"
  | comment => "Comment"
  | operator => "Operator"
  | punctuation => "Punctuation"
  | endOfInput => "EndOfInput"

/-- The short name of a kind, used where tokens are listed. -/
def label : TokenKind → String
  | keyword => "KW"
  | identifier => "ID"
  | number => "NUM"
  | string => "STR"
  | comment => "CMT"
  | operator => "OP"
  | punctuation => "PUN"
  | endOfInput => "EOF"

end TokenKind

/-- A token of a source text. -/
structure Token where
  /-- What sort of token it is. -/
  kind : TokenKind
  /-- Its text; the delimiters of strings and comments are left out. -/
  lexeme : String
  /-- Where its first character stands, the opening delimiter included. -/
  position : Position
deriving DecidableEq, Repr

/-- A token as it is listed: position, short kind and the lexeme, unescaped, in quotes. -/
def Token.render (t : Token) : String :=
  "[" ++ t.position.render ++ "] " ++ t.kind.label ++ " '" ++ t.lexeme ++ "'"

/-! ### Reserved words -/

/-- The reserved words. -/
def keywords : List String :=
  ["var", "if", "else", "function", "return", "let", "const", "while"]

/-- Whether a text is a reserved word. -/
def isKeyword (text : String) : Bool :=
  keywords.contains text

end ScriptLexer
