namespace Scripting
namespace Lexical

/-!
Operators, punctuation and brackets.
-/

/-- An operator or a punctuation mark. -/
inductive Symbol where
  | overwrite
  | doubleSlashAssign
  | doubleCaretAssign
  | doubleSlash
  | doubleCaret
  | redirect
  | arrow
  | equal
  | notEqual
  | lessEqual
  | greaterEqual
  | plusAssign
  | minusAssign
  | starAssign
  | slashAssign
  | percentAssign
  | caretAssign
  | pipeAssign
  | ampersandAssign
  | plus
  | minus
  | star
  | slash
  | percent
  | caret
  | pipe
  | ampersand
  | tilde
  | assign
  | less
  | greater
  | question
  | dollar
  | comma
  | dot
  | colon
  deriving DecidableEq, Repr

/-- The symbol as it is written in a program. -/
def Symbol.spelling : Symbol → String
  | .overwrite => "!>>"
  | .doubleSlashAssign => "//="
  | .doubleCaretAssign => "^^="
  | .doubleSlash => "//"
  | .doubleCaret => "^^"
  | .redirect => ">>"
  | .arrow => "->"
  | .equal => "=="
  | .notEqual => "!="
  | .lessEqual => "<="
  | .greaterEqual => ">="
  | .plusAssign => "+="
  | .minusAssign => "-="
  | .starAssign => "*="
  | .slashAssign => "/="
  | .percentAssign => "%="
  | .caretAssign => "^="
  | .pipeAssign => "|="
  | .ampersandAssign => "&="
  | .plus => "+"
  | .minus => "-"
  | .star => "*"
  | .slash => "/"
  | .percent => "%"
  | .caret => "^"
  | .pipe => "|"
  | .ampersand => "&"
  | .tilde => "~"
  | .assign => "="
  | .less => "<"
  | .greater => ">"
  | .question => "?"
  | .dollar => "$"
  | .comma => ","
  | .dot => "."
  | .colon => ":"

/-- All symbols, each before those that its spelling starts with. -/
def Symbol.all : List Symbol :=
  [.overwrite, .doubleSlashAssign, .doubleCaretAssign, .doubleSlash, .doubleCaret,
   .redirect, .arrow, .equal, .notEqual, .lessEqual, .greaterEqual, .plusAssign,
   .minusAssign, .starAssign, .slashAssign, .percentAssign, .caretAssign, .pipeAssign,
   .ampersandAssign, .plus, .minus, .star, .slash, .percent, .caret, .pipe,
   .ampersand, .tilde, .assign, .less, .greater, .question, .dollar, .comma, .dot,
   .colon]

/-- Every symbol is in the list of them. -/
theorem Symbol.mem_all (symbol : Symbol) : symbol ∈ Symbol.all := by
  cases symbol <;> decide

/-- The longest symbol at the start of a text. -/
def Symbol.read? (text : List Char) : Option Symbol :=
  Symbol.all.find? fun symbol => symbol.spelling.toList.isPrefixOf text

/-- A pair of brackets. -/
inductive Bracket where
  | round
  | square
  deriving DecidableEq, Repr

/-- The character that opens a pair. -/
def Bracket.opening : Bracket → Char
  | .round => '('
  | .square => '['

/-- The character that closes a pair. -/
def Bracket.closing : Bracket → Char
  | .round => ')'
  | .square => ']'

end Lexical
end Scripting
