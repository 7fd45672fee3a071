/-!
# Symbols

Operators and punctuation. Every symbol has one spelling by which messages name it, and `read` finds
the symbol at the front of a text: two characters are taken where they form a symbol together.
-/

namespace GraphSql

/-- An operator or a punctuation mark. -/
inductive Symbol where
  | plus | minus | star | slash | percent | concat | equal | unequal | less | atMost | greater
  | atLeast | arrow | leftArrow | openParen | closeParen | openBracket | closeBracket
  | openBrace | closeBrace | comma | dot | semicolon | colon | doubleColon
  deriving DecidableEq, Repr

/-- The symbol as a name. -/
def Symbol.title : Symbol → String
  | .plus => "Plus"
  | .minus => "Minus"
  | .star => "Star"
  | .slash => "Slash"
  | .percent => "Percent"
  | .concat => "Concat"
  | .equal => "Eq"
  | .unequal => "Ne"
  | .less => "Lt"
  | .atMost => "Le"
  | .greater => "Gt"
  | .atLeast => "Ge"
  | .arrow => "Arrow"
  | .leftArrow => "LeftArrow"
  | .openParen => "LParen"
  | .closeParen => "RParen"
  | .openBracket => "LBracket"
  | .closeBracket => "RBracket"
  | .openBrace => "LBrace"
  | .closeBrace => "RBrace"
  | .comma => "Comma"
  | .dot => "Dot"
  | .semicolon => "Semicolon"
  | .colon => "Colon"
  | .doubleColon => "DoubleColon"

/-- The characters of the symbol. -/
def Symbol.spelling : Symbol → String
  | .plus => "+"
  | .minus => "-"
  | .star => "*"
  | .slash => "/"
  | .percent => "%"
  | .concat => "||"
  | .equal => "="
  | .unequal => "<>"
  | .less => "<"
  | .atMost => "<="
  | .greater => ">"
  | .atLeast => ">="
  | .arrow => "->"
  | .leftArrow => "<-"
  | .openParen => "("
  | .closeParen => ")"
  | .openBracket => "["
  | .closeBracket => "]"
  | .openBrace => "\x7b"
  | .closeBrace => "\x7d"
  | .comma => ","
  | .dot => "."
  | .semicolon => ";"
  | .colon => ":"
  | .doubleColon => "::"

/-- The symbol that starts with a character, given the character after it, and the number of
characters it takes beyond the first. -/
def Symbol.read (first : Char) (next : Option Char) : Option (Symbol × Nat) :=
  match first, next with
  | '<', some '-' => some (.leftArrow, 1)
  | '<', some '=' => some (.atMost, 1)
  | '<', some '>' => some (.unequal, 1)
  | '<', _ => some (.less, 0)
  | '>', some '=' => some (.atLeast, 1)
  | '>', _ => some (.greater, 0)
  | '-', some '>' => some (.arrow, 1)
  | '-', _ => some (.minus, 0)
  | '!', some '=' => some (.unequal, 1)
  | '=', some '=' => some (.equal, 1)
  | '=', _ => some (.equal, 0)
  | '|', some '|' => some (.concat, 1)
  | ':', some ':' => some (.doubleColon, 1)
  | ':', _ => some (.colon, 0)
  | '+', _ => some (.plus, 0)
  | '*', _ => some (.star, 0)
  | '/', _ => some (.slash, 0)
  | '%', _ => some (.percent, 0)
  | '(', _ => some (.openParen, 0)
  | ')', _ => some (.closeParen, 0)
  | '[', _ => some (.openBracket, 0)
  | ']', _ => some (.closeBracket, 0)
  | '\x7b', _ => some (.openBrace, 0)
  | '\x7d', _ => some (.closeBrace, 0)
  | ',', _ => some (.comma, 0)
  | '.', _ => some (.dot, 0)
  | ';', _ => some (.semicolon, 0)
  | _, _ => none

end GraphSql
