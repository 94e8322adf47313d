import Assay.Span
import Assay.Text.Case
import Assay.Text.Letter

/-!
# Tokens

The tokens of AL source: keywords, operators, brackets, literals and identifiers, and with them
comments and directives, which components may look at. Keywords are written in any case.
-/

namespace Assay

/-- The kinds of tokens. -/
inductive TokenKind where
  -- objects
  | table | tableExtension | page | codeunit | report | enum | fields | field | keys | key
  -- code
  | procedure | trigger | var | begin | endWord | ifWord | thenWord | elseWord | exit | localWord | trueWord | falseWord
  -- operators
  | plus | minus | star | slash | assign | equals | leftAngle | rightAngle
  -- brackets and separators
  | leftParen | rightParen | leftBracket | rightBracket | leftBrace | rightBrace
  | colon | semicolon | comma | dot | dotDot
  -- literals and names
  | integer | string | quotedIdentifier | identifier
  -- for components that look at them
  | comment | directive
  /-- The end of the text. -/
  | eof
  deriving DecidableEq, Repr, Inhabited

namespace TokenKind

/-- The keywords with their kinds. -/
def keywords : List (String × TokenKind) :=
  [("table", .table), ("tableextension", .tableExtension), ("page", .page),
    ("codeunit", .codeunit), ("report", .report), ("enum", .enum), ("fields", .fields),
    ("field", .field), ("keys", .keys), ("key", .key), ("procedure", .procedure),
    ("trigger", .trigger), ("var", .var), ("begin", .begin), ("end", .endWord), ("if", .ifWord),
    ("then", .thenWord), ("else", .elseWord), ("exit", .exit), ("local", .localWord), ("true", .trueWord),
    ("false", .falseWord)]

/-- Whether a kind is that of a keyword. -/
def isKeyword (k : TokenKind) : Bool := keywords.any fun entry => entry.2 = k

/-- The kind of a word: that of the keyword which it is in some case, else an identifier. -/
def ofWord (word : Text) : TokenKind :=
  let small := word.lower
  match keywords.find? fun entry => entry.1.toList == small with
  | some entry => entry.2
  | none => .identifier

/-- The characters that are tokens whatever follows them. -/
def ofCharacter? : Char → Option TokenKind
  | '+' => some .plus
  | '-' => some .minus
  | '*' => some .star
  | '(' => some .leftParen
  | ')' => some .rightParen
  | '[' => some .leftBracket
  | ']' => some .rightBracket
  | '{' => some .leftBrace
  | '}' => some .rightBrace
  | ';' => some .semicolon
  | ',' => some .comma
  | '=' => some .equals
  | '<' => some .leftAngle
  | '>' => some .rightAngle
  | _ => none

/-- The name of a kind. -/
def name : TokenKind → String
  | .table => "TABLE"
  | .tableExtension => "TABLEEXTENSION"
  | .page => "PAGE"
  | .codeunit => "CODEUNIT"
  | .report => "REPORT"
  | .enum => "ENUM"
  | .fields => "FIELDS"
  | .field => "FIELD"
  | .keys => "KEYS"
  | .key => "KEY"
  | .procedure => "PROCEDURE"
  | .trigger => "TRIGGER"
  | .var => "VAR"
  | .begin => "BEGIN"
  | .endWord => "END"
  | .ifWord => "IF"
  | .thenWord => "THEN"
  | .elseWord => "ELSE"
  | .exit => "EXIT"
  | .localWord => "LOCAL"
  | .trueWord => "TRUE"
  | .falseWord => "FALSE"
  | .plus => "PLUS"
  | .minus => "MINUS"
  | .star => "STAR"
  | .slash => "SLASH"
  | .assign => "ASSIGN"
  | .equals => "EQUALS"
  | .leftAngle => "LANGLE"
  | .rightAngle => "RANGLE"
  | .leftParen => "LPAREN"
  | .rightParen => "RPAREN"
  | .leftBracket => "LBRACKET"
  | .rightBracket => "RBRACKET"
  | .leftBrace => "LBRACE"
  | .rightBrace => "RBRACE"
  | .colon => "COLON"
  | .semicolon => "SEMICOLON"
  | .comma => "COMMA"
  | .dot => "DOT"
  | .dotDot => "DOTDOT"
  | .integer => "INT_LIT"
  | .string => "STRING_LIT"
  | .quotedIdentifier => "QUOTED_IDENT"
  | .identifier => "IDENT"
  | .comment => "COMMENT"
  | .directive => "DIRECTIVE"
  | .eof => "EOF"

end TokenKind

/-- A token: its kind, the text that it stands for, and where that is. -/
structure Token where
  kind : TokenKind
  lexeme : Text
  span : Span
  deriving DecidableEq, Repr, Inhabited

namespace Token

/-- The token further on in the text. -/
def shift (t : Token) (distance : Nat) : Token := { t with span := t.span.shift distance }

/-- The token of a lexeme that starts at an offset. -/
def ofLexeme (kind : TokenKind) (lexeme : Text) (start : Nat) : Token :=
  ⟨kind, lexeme, ⟨start, lexeme.length⟩⟩

end Token

end Assay
