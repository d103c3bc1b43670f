namespace Scripting
namespace Lexical

/-!
The reserved words of the language.
-/

/-- A reserved word, which cannot be the name of anything. -/
inductive Keyword where
  | thenWord
  | xorWord
  | defWord
  | orWord
  | writeWord
  | returnWord
  | doWord
  | exportWord
  | notWord
  | elseWord
  | stepWord
  | forWord
  | andWord
  | delWord
  | endWord
  | toWord
  | continueWord
  | inWord
  | loopWord
  | varWord
  | assertWord
  | importWord
  | whileWord
  | asWord
  | breakWord
  | ifWord
  | classWord
  | elifWord
  | readWord
  | defaultWord
  deriving DecidableEq, Repr

/-- The word as it is written in a program. -/
def Keyword.spelling : Keyword → String
  | .thenWord => "then"
  | .xorWord => "xor"
  | .defWord => "def"
  | .orWord => "or"
  | .writeWord => "write"
  | .returnWord => "return"
  | .doWord => "do"
  | .exportWord => "export"
  | .notWord => "not"
  | .elseWord => "else"
  | .stepWord => "step"
  | .forWord => "for"
  | .andWord => "and"
  | .delWord => "del"
  | .endWord => "end"
  | .toWord => "to"
  | .continueWord => "continue"
  | .inWord => "in"
  | .loopWord => "loop"
  | .varWord => "var"
  | .assertWord => "assert"
  | .importWord => "import"
  | .whileWord => "while"
  | .asWord => "as"
  | .breakWord => "break"
  | .ifWord => "if"
  | .classWord => "class"
  | .elifWord => "elif"
  | .readWord => "read"
  | .defaultWord => "default"

/-- All reserved words, in the order in which they are offered as suggestions. -/
def Keyword.all : List Keyword :=
  [.thenWord, .xorWord, .defWord, .orWord, .writeWord, .returnWord, .doWord,
   .exportWord, .notWord, .elseWord, .stepWord, .forWord, .andWord, .delWord,
   .endWord, .toWord, .continueWord, .inWord, .loopWord, .varWord, .assertWord,
   .importWord, .whileWord, .asWord, .breakWord, .ifWord, .classWord, .elifWord,
   .readWord, .defaultWord]

/-- Every reserved word is in the list of them. -/
theorem Keyword.mem_all (keyword : Keyword) : keyword ∈ Keyword.all := by
  cases keyword <;> decide

/-- The reserved word with the given spelling. -/
def Keyword.ofSpelling? (text : String) : Option Keyword :=
  Keyword.all.find? fun keyword => keyword.spelling = text

/-- Looking up the spelling of a reserved word finds that word. -/
theorem Keyword.ofSpelling?_spelling (keyword : Keyword) :
    Keyword.ofSpelling? keyword.spelling = some keyword := by
  cases keyword <;> decide +kernel

/-- A word that is found is spelt as it was looked up. -/
theorem Keyword.spelling_of_ofSpelling? {text : String} {keyword : Keyword}
    (found : Keyword.ofSpelling? text = some keyword) : keyword.spelling = text := by
  simpa using List.find?_some found

end Lexical
end Scripting
