import Mathlib.Data.List.TakeWhile
import Scripting.Lexical.Scan

namespace Scripting
namespace Lexical

/-!
How tokens are spelt.

The readers of the scanner say how many characters they cover and what these make.
Here it is said what may be written for each kind of token, and what may stand
between tokens, as relations on characters that do not mention the readers.  The
readers are then shown to cover only what is so spelt, and to complain only about
characters that are there.
-/

/-! ## Text between tokens -/

/-- The rest of a block comment inside which a number of further comments are open. -/
inductive CommentTail : Nat → List Char → Prop
  | close : CommentTail 0 ['*', '/']
  | leave {depth : Nat} {rest : List Char} (later : CommentTail depth rest) :
      CommentTail (depth + 1) ('*' :: '/' :: rest)
  | enter {depth : Nat} {rest : List Char} (later : CommentTail (depth + 1) rest) :
      CommentTail depth ('/' :: '*' :: rest)
  | pass {depth : Nat} {c : Char} {rest : List Char} (opens : ¬ ['/', '*'] <+: c :: rest)
      (closes : ¬ ['*', '/'] <+: c :: rest) (later : CommentTail depth rest) :
      CommentTail depth (c :: rest)

inductive Comment : List Char → Prop
  | line {words : List Char} (within : '\n' ∉ words) : Comment ('#' :: words)
  | block {tail : List Char} (closed : CommentTail 0 tail) : Comment ('/' :: '*' :: tail)

/-- A piece of text that makes no token. -/
inductive Skipped : List Char → Prop
  | blank {c : Char} (blank : isInlineBlank c = true) : Skipped [c]
  | comment {piece : List Char} (comment : Comment piece) : Skipped piece
  | continued : Skipped ['\\', '\n']
  | continuedReturn : Skipped ['\\', '\r', '\n']
  | directive {gap name gap' value : List Char} (gaps : ∀ c ∈ gap ++ gap', c = ' ' ∨ c = '\t')
      (named : name ≠ []) (words : ∀ c ∈ name ++ value, Text.isIdentifierPart c = true) :
      Skipped ('@' :: 'm' :: 'e' :: 't' :: 'a' :: (gap ++ name ++ gap' ++ value))

/-- What may stand between string literals that are read as one. -/
inductive Trivia : List Char → Prop
  | nothing : Trivia []
  | blank {c : Char} {rest : List Char} (blank : isInlineBlank c = true ∨ c = '\n')
      (later : Trivia rest) : Trivia (c :: rest)
  | comment {piece rest : List Char} (comment : Comment piece) (later : Trivia rest) :
      Trivia (piece ++ rest)

/-! ## Literals -/

/-- What follows a backslash, and the character that both stand for. -/
inductive Escape : List Char → Char → Prop
  | simple {letter c : Char} (known : simpleEscape? letter = some c) : Escape [letter] c
  | code {letter : Char} {digits : List Char} (counted : hexEscapeDigits? letter = some digits.length)
      (hex : ∀ digit ∈ digits, Number.isDigitOf 16 digit = true)
      (valid : (Number.textValue 16 digits).isValidChar) :
      Escape (letter :: digits) (Char.ofNat (Number.textValue 16 digits))
  | named {name : List Char} {c : Char} (closed : '\x7d' ∉ name) (oneLine : '\n' ∉ name)
      (known : Text.named? (String.ofList name) = some c) :
      Escape ('N' :: '\x7b' :: (name ++ ['\x7d'])) c

/-- What is written between quotes, and the text that it stands for. -/
inductive Body (escapes : Bool) (closing : Char) : List Char → List Char → Prop
  | done : Body escapes closing [] []
  | plain {c : Char} {written text : List Char} (inside : c ≠ closing)
      (literal : ¬ (c = '\\' ∧ escapes = true)) (later : Body escapes closing written text) :
      Body escapes closing (c :: written) (c :: text)
  | escape {piece : List Char} {c : Char} {written text : List Char} (on : escapes = true)
      (escape : Escape piece c) (later : Body escapes closing written text) :
      Body escapes closing ('\\' :: (piece ++ written)) (c :: text)
  /-- A backslash before any other character stands for itself. -/
  | backslash {letter : Char} {written text : List Char} (on : escapes = true)
      (simple : simpleEscape? letter = none) (code : hexEscapeDigits? letter = none)
      (name : letter ≠ 'N') (later : Body escapes closing (letter :: written) text) :
      Body escapes closing ('\\' :: letter :: written) ('\\' :: text)

/-- A string literal with its quotes, and the text that it stands for. -/
inductive Quoted : List Char → List Char → Prop
  | quoted {escapes : Bool} {opening closing : Char} {written text : List Char}
      (quotes : closingQuote? opening = some closing) (body : Body escapes closing written text) :
      Quoted (opening :: (written ++ [closing])) text

/-- String literals one after the other, and the text that they stand for together. -/
inductive Quotation : List Char → List Char → Prop
  | single {lexeme text : List Char} (literal : Quoted lexeme text) : Quotation lexeme text
  | merged {first text gap others more : List Char} (literal : Quoted first text)
      (between : Trivia gap) (following : Quotation others more) :
      Quotation (first ++ (gap ++ others)) (text ++ more)

/-- Digits of a base with underscores among them. -/
def IsRun (base : Nat) (run : List Char) : Prop :=
  ∀ c ∈ run, c = '_' ∨ Number.isDigitOf base c = true

/-- The digits that do not go on in the text behind them. -/
def EndsRun (base : Nat) (rest : List Char) : Prop :=
  ∀ c ∈ rest.head?, ¬ (c = '_' ∨ Number.isDigitOf base c = true)

/-- An integer literal of a base, with the digits in it. -/
inductive Integer : Nat → List Char → List Char → Prop
  | decimal {digit : Char} {run : List Char} (starts : Number.isDigitOf 10 digit = true)
      (digits : IsRun 10 run) : Integer 10 (digit :: run) (digit :: run)
  | announced {base : Nat} {letter : Char} {run : List Char}
      (announced : literalBase? ['0', letter] = some base) (digits : IsRun base run)
      (some : digitsOf run ≠ []) : Integer base ('0' :: letter :: run) run

/-- The value of a decimal fraction by the digits before and after its point. -/
def fractionValue (whole fraction : List Char) : Float :=
  let digits := digitsOf whole ++ digitsOf fraction
  Number.decimalToFloat false (Number.textValue 10 digits) digits.length
    (-Int.ofNat (digitsOf fraction).length)

/-- A word that does not go on in the text behind it. -/
structure IsWord (word rest : List Char) : Prop where
  starts : ∃ c ∈ word.head?, Text.isIdentifierStart c = true
  parts : ∀ c ∈ word, Text.isIdentifierPart c = true
  ends : ∀ c ∈ rest.head?, Text.isIdentifierPart c = false

/-- What is written for a token of each kind, with regard to the text behind it. -/
def Spells (lexeme rest : List Char) : TokenKind → Prop
  | .int value => ∃ base run, Integer base lexeme run ∧ EndsRun base rest ∧
      value.toInt = Int.ofNat (Number.textValue base (digitsOf run))
  | .float value => ∃ whole fraction, lexeme = whole ++ '.' :: fraction ∧
      Integer 10 whole whole ∧ IsRun 10 fraction ∧ EndsRun 10 rest ∧
      value = fractionValue whole fraction
  | .text value => Quotation lexeme value.toList
  | .identifier name => lexeme = name.toList ∧ IsWord lexeme rest ∧
      ∀ keyword : Keyword, keyword.spelling ≠ name
  | .keyword word => lexeme = word.spelling.toList ∧ IsWord lexeme rest
  | .exponent => lexeme = ['e'] ∨ lexeme = ['E']
  | .symbol mark => lexeme = mark.spelling.toList ∧
      ∀ other : Symbol, other.spelling.toList <+: lexeme ++ rest →
        other.spelling.length ≤ mark.spelling.length
  | .opening bracket => lexeme = [bracket.opening]
  | .closing bracket => lexeme = [bracket.closing]
  | .newline => lexeme = ['\n'] ∨ lexeme = [';']
  | .endOfFile => False

/-- Parts that cover a text from its head on, each as it is spelt. -/
inductive Covers : List Part → List Char → Prop
  | nothing (rest : List Char) : Covers [] rest
  | skip {piece rest : List Char} {parts : List Part} (skipped : Skipped piece)
      (later : Covers parts rest) : Covers (⟨none, piece.length⟩ :: parts) (piece ++ rest)
  | token {kind : TokenKind} {lexeme rest : List Char} {parts : List Part}
      (spelt : Spells lexeme rest kind) (later : Covers parts rest) :
      Covers (⟨some kind, lexeme.length⟩ :: parts) (lexeme ++ rest)

/-- A fault points at characters that are there, at least at one of them. -/
def Fault.Within (fault : Fault) (rest : List Char) : Prop :=
  fault.start < fault.stop ∧ fault.stop ≤ rest.length

/-- What a reader of a piece may answer. -/
def Answers (rest : List Char) : Except Fault (List Part) → Prop
  | .ok parts => parts ≠ [] ∧ Covers parts rest
  | .error fault => fault.Within rest

/-! ## Comments and trivia -/

/-- A text splits after its longest head of characters with a property. -/
theorem takeWhile_split (property : Char → Bool) (text : List Char) :
    ∃ rest, text = text.takeWhile property ++ rest ∧
      text.drop (text.takeWhile property).length = rest ∧
      ∀ c ∈ rest.head?, property c = false := by
  refine ⟨text.dropWhile property, List.takeWhile_append_dropWhile.symm, ?_, ?_⟩
  · have whole : text.takeWhile property ++ text.dropWhile property = text :=
      List.takeWhile_append_dropWhile
    have dropped := @List.drop_left _ (text.takeWhile property) (text.dropWhile property)
    rwa [whole] at dropped
  · intro c first
    have stopped := List.head?_dropWhile_not property text
    rw [Option.mem_def.mp first] at stopped
    exact stopped

theorem CommentTail.of_commentTail? {depth : Nat} {rest : List Char} {length : Nat}
    (found : commentTail? depth rest = some length) :
    ∃ tail after, rest = tail ++ after ∧ tail.length = length ∧ CommentTail depth tail := by
  fun_induction commentTail? depth rest generalizing length with
  | case1 => cases found
  | case2 depth rest ih =>
      obtain ⟨inner, closed, rfl⟩ := Option.map_eq_some_iff.mp found
      obtain ⟨tail, after, rfl, rfl, later⟩ := ih closed
      exact ⟨'/' :: '*' :: tail, after, rfl, rfl, .enter later⟩
  | case3 after =>
      cases found
      exact ⟨['*', '/'], after, rfl, rfl, .close⟩
  | case4 depth rest ih =>
      obtain ⟨inner, closed, rfl⟩ := Option.map_eq_some_iff.mp found
      obtain ⟨tail, after, rfl, rfl, later⟩ := ih closed
      exact ⟨'*' :: '/' :: tail, after, rfl, rfl, .leave later⟩
  | case5 depth c rest notOpening notClosing notLeaving ih =>
      obtain ⟨inner, closed, rfl⟩ := Option.map_eq_some_iff.mp found
      obtain ⟨tail, after, rfl, rfl, later⟩ := ih closed
      refine ⟨c :: tail, after, rfl, rfl, .pass ?_ ?_ later⟩
      · rintro ⟨more, same⟩
        obtain ⟨rfl, rfl⟩ := List.cons.inj same
        exact notOpening _ rfl rfl
      · rintro ⟨more, same⟩
        obtain ⟨rfl, rfl⟩ := List.cons.inj same
        cases depth with
        | zero => exact notClosing _ rfl rfl rfl
        | succ depth => exact notLeaving depth _ rfl rfl rfl

theorem Comment.of_blockCommentLength? {rest : List Char} {length : Nat}
    (opens : opensComment rest = true) (found : blockCommentLength? rest = some length) :
    ∃ piece after, rest = piece ++ after ∧ piece.length = length ∧ Comment piece := by
  unfold opensComment at opens
  split at opens
  · obtain ⟨inner, ends, rfl⟩ := Option.map_eq_some_iff.mp found
    obtain ⟨tail, after, same, rfl, closed⟩ := CommentTail.of_commentTail? ends
    refine ⟨'/' :: '*' :: tail, after, ?_, rfl, .block closed⟩
    exact congrArg (fun rest => '/' :: '*' :: rest) same
  · cases opens

theorem Comment.of_lineCommentLength (rest : List Char) :
    ∃ words after, rest = words ++ after ∧ words.length = lineCommentLength rest ∧
      Comment ('#' :: words) := by
  obtain ⟨after, split, _, _⟩ := takeWhile_split (· ≠ '\n') rest
  refine ⟨_, after, split, rfl, .line ?_⟩
  intro member
  simpa using List.mem_takeWhile_imp member

/-- Characters of a comment that has begun are passed first. -/
theorem triviaFrom_append (inside rest : List Char) :
    triviaFrom inside.length (inside ++ rest) = inside.length + triviaFrom 0 rest := by
  induction inside with
  | nil => simp
  | cons c inside ih =>
      change triviaFrom inside.length (inside ++ rest) + 1 = _
      rw [ih, List.length_cons]
      omega

theorem Trivia.of_triviaLength (rest : List Char) :
    ∃ gap after, rest = gap ++ after ∧ gap.length = triviaLength rest ∧ Trivia gap := by
  unfold triviaLength
  -- A comment is passed as a whole, so the induction is on the length of the text.
  induction bound : rest.length using Nat.strongRecOn generalizing rest with
  | _ size ih =>
      subst bound
      have nothing : triviaFrom 0 rest = 0 → ∃ gap after, rest = gap ++ after ∧
          gap.length = triviaFrom 0 rest ∧ Trivia gap := by
        intro none
        exact ⟨[], rest, rfl, none.symm, .nothing⟩
      match rest with
      | [] => exact nothing rfl
      | c :: rest =>
          have passed : ∀ piece after : List Char, c :: rest = piece ++ after → piece ≠ [] →
              Comment piece → triviaFrom 0 (c :: rest) = piece.length + triviaFrom 0 after →
              ∃ gap after, c :: rest = gap ++ after ∧
                gap.length = triviaFrom 0 (c :: rest) ∧ Trivia gap := by
            intro piece after same nonempty comment counted
            have shorter : after.length < (c :: rest).length := by
              rw [same, List.length_append]
              have := List.length_pos_iff.mpr nonempty
              omega
            obtain ⟨gap, left, rfl, length, trivia⟩ := ih _ shorter after rfl
            refine ⟨piece ++ gap, left, ?_, ?_, .comment comment trivia⟩
            · rw [same, List.append_assoc]
            · rw [counted, List.length_append, length]
          by_cases blank : (isInlineBlank c || c = '\n') = true
          · have counted : triviaFrom 0 (c :: rest) = triviaFrom 0 rest + 1 := by
              rw [triviaFrom, if_pos blank]
            obtain ⟨gap, left, rfl, length, trivia⟩ :=
              ih rest.length (Nat.lt_succ_self _) rest rfl
            refine ⟨c :: gap, left, rfl, ?_, .blank (by simpa using blank) trivia⟩
            rw [counted, List.length_cons, length]
          · by_cases hash : c = '#'
            · subst hash
              obtain ⟨words, after, rfl, length, comment⟩ := Comment.of_lineCommentLength rest
              refine passed ('#' :: words) after rfl (List.cons_ne_nil _ _) comment ?_
              rw [triviaFrom, if_neg blank, if_pos rfl, ← length, triviaFrom_append,
                List.length_cons]
              omega
            · by_cases opens : opensComment (c :: rest) = true
              · cases found : blockCommentLength? (c :: rest) with
                | none =>
                    refine nothing ?_
                    rw [triviaFrom, if_neg blank, if_neg hash, if_pos opens, found]
                | some length =>
                    obtain ⟨piece, after, same, rfl, comment⟩ :=
                      Comment.of_blockCommentLength? opens found
                    cases piece with
                    | nil => cases comment
                    | cons first piece =>
                        obtain ⟨rfl, rfl⟩ := List.cons.inj same
                        refine passed (c :: piece) after rfl (List.cons_ne_nil _ _) comment ?_
                        rw [triviaFrom, if_neg blank, if_neg hash, if_pos opens, found]
                        change triviaFrom piece.length (piece ++ after) + 1 = _
                        rw [triviaFrom_append, List.length_cons]
                        omega
              · refine nothing ?_
                rw [triviaFrom, if_neg blank, if_neg hash, if_neg opens]

/-! ## String literals -/

/-- What the reader of an escape may answer on the text after a backslash. -/
def EscapeAnswers (rest : List Char) : Except Fault (Option (Char × Nat)) → Prop
  | .ok (some (c, length)) =>
      ∃ piece after, rest = piece ++ after ∧ piece.length = length ∧ Escape piece c
  | .ok none => ∀ letter ∈ rest.head?,
      simpleEscape? letter = none ∧ hexEscapeDigits? letter = none ∧ letter ≠ 'N'
  | .error fault => fault.Within ('\\' :: rest)

theorem readHexEscape_answers {letter : Char} {count : Nat}
    (counted : hexEscapeDigits? letter = some count) (rest : List Char) :
    EscapeAnswers (letter :: rest) ((readHexEscape count letter rest).map some) := by
  have longest : ((rest.take count).takeWhile (Number.isDigitOf 16)).length ≤ rest.length :=
    Nat.le_trans (List.takeWhile_prefix _).length_le (List.length_take_le' _ _)
  unfold readHexEscape
  by_cases missing : ((rest.take count).takeWhile (Number.isDigitOf 16)).length < count
  · rw [if_pos missing]
    change _ < _ ∧ _ ≤ _
    simp only [List.length_cons]
    omega
  · rw [if_neg missing]
    obtain ⟨after, split, _, _⟩ := takeWhile_split (Number.isDigitOf 16) (rest.take count)
    generalize given : (rest.take count).takeWhile (Number.isDigitOf 16) = digits
      at split missing longest
    have all : rest.take count = digits := by
      have bound := congrArg List.length split
      rw [List.length_append] at bound
      have most := List.length_take_le count rest
      have none : after = [] := List.eq_nil_of_length_eq_zero (by omega)
      rw [split, none, List.append_nil]
    have length : digits.length = count :=
      Nat.le_antisymm (all ▸ List.length_take_le count rest) (Nat.le_of_not_lt missing)
    by_cases valid : (Number.textValue 16 digits).isValidChar
    · simp only [valid, if_true]
      refine ⟨letter :: digits, rest.drop count, ?_, ?_, .code (length ▸ counted) ?_ valid⟩
      · rw [List.cons_append, ← all, List.take_append_drop]
      · rw [List.length_cons, length, Nat.add_comm]
      · intro digit member
        exact List.mem_takeWhile_imp (given ▸ member)
    · simp only [valid, if_false]
      change _ < _ ∧ _ ≤ _
      simp only [List.length_cons]
      omega

theorem readNamedEscape_answers (rest : List Char) :
    EscapeAnswers ('N' :: rest) ((readNamedEscape rest).map some) := by
  unfold readNamedEscape
  split
  · rename_i opened
    obtain ⟨after, split, dropped, -⟩ := takeWhile_split (fun c => c ≠ '\x7d' && c ≠ '\n') opened
    have inside : ∀ c ∈ opened.takeWhile (fun c => c ≠ '\x7d' && c ≠ '\n'),
        c ≠ '\x7d' ∧ c ≠ '\n' := by
      intro c member
      simpa using List.mem_takeWhile_imp member
    generalize opened.takeWhile (fun c => c ≠ '\x7d' && c ≠ '\n') = name at split dropped inside
    simp only [dropped]
    split
    · rename_i left
      subst split
      cases known : Text.named? (String.ofList name) with
      | some c =>
          refine ⟨'N' :: '\x7b' :: (name ++ ['\x7d']), left, ?_, ?_, .named ?_ ?_ known⟩
          · simp
          · simp only [List.length_cons, List.length_append, List.length_nil]
            omega
          · exact fun member => (inside _ member).1 rfl
          · exact fun member => (inside _ member).2 rfl
      | none =>
          change _ < _ ∧ _ ≤ _
          simp only [List.length_cons, List.length_append]
          omega
    · subst split
      change _ < _ ∧ _ ≤ _
      simp only [List.length_cons, List.length_append]
      omega
  · change _ < _ ∧ _ ≤ _
    simp only [List.length_cons]
    omega

theorem readEscape_answers (rest : List Char) : EscapeAnswers rest (readEscape rest) := by
  cases rest with
  | nil =>
      intro letter none
      cases none
  | cons letter rest =>
      cases simple : simpleEscape? letter with
      | some c =>
          simp only [readEscape, simple]
          exact ⟨[letter], rest, rfl, rfl, .simple simple⟩
      | none =>
          cases counted : hexEscapeDigits? letter with
          | some count =>
              simp only [readEscape, simple, counted]
              exact readHexEscape_answers counted rest
          | none =>
              by_cases name : letter = 'N'
              · subst name
                exact readNamedEscape_answers rest
              · simp only [readEscape, simple, counted, if_neg name]
                intro other first
                cases first
                exact ⟨simple, counted, name⟩

/-- What the reader of a literal's body may answer, when some characters are passed before. -/
def BodyAnswers (closing : Char) (escapes : Bool) (inside : Nat) (rest : List Char) :
    Except BodyFault (List Char × Nat) → Prop
  | .ok (text, length) => ∃ passed written after,
      rest = passed ++ (written ++ closing :: after) ∧ passed.length = inside ∧
      length = inside + (written.length + 1) ∧ Body escapes closing written text
  | .error .unclosed => True
  | .error (.escape fault) => fault.Within rest

theorem Fault.Within.later {fault : Fault} {rest : List Char} (within : fault.Within rest)
    (before : List Char) : (fault.later before.length).Within (before ++ rest) := by
  obtain ⟨nonempty, bound⟩ := within
  constructor
  · exact Nat.add_lt_add_right nonempty _
  · change fault.stop + before.length ≤ _
    rw [List.length_append]
    omega

/-- A body that goes on after one more character that is decoded to the given ones. -/
theorem extendBody_answers {closing c : Char} {escapes : Bool} {inside : Nat} {rest : List Char}
    {decoded : List Char} {answer : Except BodyFault (List Char × Nat)}
    {outer : Nat} (answers : BodyAnswers closing escapes inside rest answer)
    (extended : ∀ {text passed written after : List Char},
      rest = passed ++ (written ++ closing :: after) → passed.length = inside →
      Body escapes closing written text →
      ∃ passed' written', c :: (passed ++ written) = passed' ++ written' ∧
        passed'.length = outer ∧ Body escapes closing written' (decoded ++ text)) :
    BodyAnswers closing escapes outer (c :: rest) (extendBody decoded answer) := by
  match answer with
  | .ok (text, length) =>
      obtain ⟨passed, written, after, same, passedLength, rfl, body⟩ := answers
      obtain ⟨passed', written', split, rfl, body'⟩ := extended same passedLength body
      have lengths := congrArg List.length split
      simp only [List.length_cons, List.length_append] at lengths
      refine ⟨passed', written', after, ?_, rfl, ?_, body'⟩
      · rw [same, ← List.append_assoc, ← List.append_assoc, ← split]
        rfl
      · omega
  | .error .unclosed => trivial
  | .error (.escape fault) => exact answers.later [c]

theorem readBody_answers {closing : Char} (quote : (simpleEscape? closing).isSome)
    (escapes : Bool) (inside : Nat) (rest : List Char) :
    BodyAnswers closing escapes inside rest (readBody closing escapes inside rest) := by
  fun_induction readBody closing escapes inside rest with
  | case1 => trivial
  | case2 inside c rest ih =>
      refine extendBody_answers ih ?_
      intro text passed written after _ length body
      exact ⟨c :: passed, written, rfl, congrArg (· + 1) length, body⟩
  | case3 rest => exact ⟨[], [], rest, rfl, rfl, rfl, .done⟩
  | case4 c rest _ escaping fault failed =>
      have answers := readEscape_answers rest
      rw [failed] at answers
      exact answers
  | case5 c rest _ escaping decoded length read ih =>
      have answers := readEscape_answers rest
      rw [read] at answers
      obtain ⟨piece, after, same, pieceLength, escape⟩ := answers
      obtain ⟨rfl, on⟩ := escaping
      refine extendBody_answers ih ?_
      intro text passed written after' same' passedLength body
      -- The characters that are passed are those of the escape.
      have passedPiece : passed = piece :=
        (List.append_inj (same'.symm.trans same) (passedLength.trans pieceLength.symm)).1
      subst passedPiece
      exact ⟨[], '\\' :: (passed ++ written), rfl, rfl, .escape on escape body⟩
  | case6 c rest _ escaping read ih =>
      have answers := readEscape_answers rest
      rw [read] at answers
      obtain ⟨rfl, on⟩ := escaping
      refine extendBody_answers ih ?_
      intro text passed written after same passedLength body
      have none : passed = [] := List.eq_nil_of_length_eq_zero passedLength
      subst none
      cases written with
      | nil =>
          -- The closing quote would be an escape itself.
          have unknown := (answers closing (by rw [same]; rfl)).1
          rw [unknown] at quote
          cases quote
      | cons letter written =>
          obtain ⟨simple, code, name⟩ := answers letter (by rw [same]; rfl)
          exact ⟨[], '\\' :: letter :: written, rfl, rfl, .backslash on simple code name body⟩
  | case7 c rest inside literal ih =>
      refine extendBody_answers ih ?_
      intro text passed written after _ passedLength body
      have none : passed = [] := List.eq_nil_of_length_eq_zero passedLength
      subst none
      exact ⟨[], c :: written, rfl, rfl, .plain inside literal body⟩

theorem simpleEscape?_isSome_of_closingQuote? {opening closing : Char}
    (quotes : closingQuote? opening = some closing) : (simpleEscape? closing).isSome := by
  unfold closingQuote? at quotes
  split at quotes
  · rename_i style
    obtain rfl := Option.some.inj quotes
    rcases style with rfl | rfl <;> decide
  · split at quotes
    · obtain rfl := Option.some.inj quotes
      decide
    · cases quotes

/-- What a reader of string literals may answer. -/
def LiteralAnswers (spelt : List Char → List Char → Prop) (rest : List Char) :
    Except Fault (List Char × Nat) → Prop
  | .ok (text, length) =>
      ∃ lexeme after, rest = lexeme ++ after ∧ lexeme.length = length ∧ spelt lexeme text
  | .error fault => fault.Within rest

theorem readLiteral_answers (escapes : Bool) {rest : List Char}
    (opens : opensLiteral rest = true) :
    LiteralAnswers Quoted rest (readLiteral escapes rest) := by
  cases rest with
  | nil => cases opens
  | cons opening rest =>
      obtain ⟨closing, quotes⟩ := Option.isSome_iff_exists.mp opens
      unfold readLiteral
      simp only [quotes, Option.getD_some]
      have answers := readBody_answers (simpleEscape?_isSome_of_closingQuote? quotes) escapes 0 rest
      generalize readBody closing escapes 0 rest = answer at answers
      match answer with
      | .ok (text, length) =>
          obtain ⟨passed, written, after, rfl, none, rfl, body⟩ := answers
          obtain rfl := List.eq_nil_of_length_eq_zero none
          refine ⟨opening :: (written ++ [closing]), after, ?_, ?_, .quoted quotes body⟩
          · simp
          · simp
      | .error .unclosed =>
          change _ < _ ∧ _ ≤ _
          simp
      | .error (.escape fault) => exact answers.later [opening]

theorem readLiterals_answers (escapes : Bool) (more : Nat) {rest : List Char}
    (opens : opensLiteral rest = true) :
    LiteralAnswers Quotation rest (readLiterals escapes more rest) := by
  induction more generalizing rest with
  | zero =>
      have answers := readLiteral_answers escapes opens
      unfold readLiterals
      generalize readLiteral escapes rest = answer at answers
      match answer with
      | .ok (text, length) =>
          obtain ⟨lexeme, after, same, lexemeLength, literal⟩ := answers
          exact ⟨lexeme, after, same, lexemeLength, .single literal⟩
      | .error fault => exact answers
  | succ more ih =>
      have answers := readLiteral_answers escapes opens
      unfold readLiterals
      generalize readLiteral escapes rest = answer at answers
      match answer with
      | .error fault => exact answers
      | .ok (text, length) =>
          obtain ⟨lexeme, after, rfl, rfl, literal⟩ := answers
          obtain ⟨gap, left, rfl, gapLength, trivia⟩ := Trivia.of_triviaLength after
          have next : (lexeme ++ (gap ++ left)).drop (lexeme.length + gap.length) = left := by
            rw [← List.append_assoc, ← List.length_append, List.drop_left]
          simp only [List.drop_left, ← gapLength, next]
          by_cases again : opensLiteral left = true
          · rw [if_pos again]
            have following := ih again
            generalize readLiterals escapes more left = answer at following
            match answer with
            | .ok (others, covered) =>
                obtain ⟨lexeme', after, rfl, rfl, quotation⟩ := following
                refine ⟨lexeme ++ (gap ++ lexeme'), after, ?_, ?_,
                  .merged literal trivia quotation⟩
                · simp only [List.append_assoc]
                · simp only [List.length_append, Nat.add_assoc]
            | .error fault =>
                have later := Fault.Within.later following (lexeme ++ gap)
                rw [List.length_append, List.append_assoc] at later
                exact later
          · rw [if_neg again]
            exact ⟨lexeme, gap ++ left, rfl, rfl, .single literal⟩

theorem readString_answers (switches : Switches) {rest : List Char}
    (opens : opensLiteral rest = true) : Answers rest (readString switches rest) := by
  have answers := readLiterals_answers switches.escapes
    (if switches.implicitConcat then rest.length else 0) opens
  simp only [readString]
  generalize readLiterals switches.escapes _ rest = answer at answers
  match answer with
  | .ok (text, length) =>
      obtain ⟨lexeme, after, rfl, rfl, quotation⟩ := answers
      refine ⟨List.cons_ne_nil _ _, .token ?_ (.nothing after)⟩
      change Quotation lexeme (String.ofList text).toList
      rw [String.toList_ofList]
      exact quotation
  | .error fault => exact answers

/-! ## Numbers -/

theorem isDigitOf_ten_iff {c : Char} : Number.isDigitOf 10 c = true ↔ c.isDigit = true := by
  have decimal : c.isDigit = true ↔ '0' ≤ c ∧ c ≤ '9' := by
    simp only [Char.isDigit, Bool.and_eq_true, decide_eq_true_eq]
    exact Iff.rfl
  rw [decimal]
  unfold Number.isDigitOf Number.digit?
  by_cases digit : '0' ≤ c ∧ c ≤ '9'
  · have last : c.toNat ≤ 57 := digit.2
    simp only [digit, and_self, if_true, decide_eq_true_eq, iff_true]
    change c.toNat - 48 < 10
    omega
  · rw [if_neg digit]
    simp only [digit, iff_false]
    split
    · rename_i value found
      -- The letters stand for ten and more.
      have large : 10 ≤ value := by
        split at found
        · obtain rfl := Option.some.inj found
          omega
        · split at found
          · obtain rfl := Option.some.inj found
            omega
          · cases found
      simpa using large
    · exact Bool.false_ne_true

theorem isIdentifierPart_of_isDigitOf_ten {c : Char} (digit : Number.isDigitOf 10 c = true) :
    Text.isIdentifierPart c = true := by
  have decimal := isDigitOf_ten_iff.mp digit
  have small : c.toNat < 0x80 := by
    simp only [Char.isDigit, Bool.and_eq_true, decide_eq_true_eq] at decimal
    have last : c.toNat ≤ 57 := decimal.2
    omega
  simp only [Text.isIdentifierPart, Text.isNumeral, if_pos small, decimal, Bool.or_true,
    Bool.true_or]

/-- The digits at the head of a text, with what is left of it. -/
theorem digitRun_split (base : Nat) (rest : List Char) :
    ∃ after, rest = digitRun base rest ++ after ∧
      rest.drop (digitRun base rest).length = after ∧
      IsRun base (digitRun base rest) ∧ EndsRun base after := by
  obtain ⟨after, split, dropped, ends⟩ :=
    takeWhile_split (fun c => c = '_' || Number.isDigitOf base c) rest
  refine ⟨after, split, dropped, ?_, ?_⟩
  · intro c member
    simpa using List.mem_takeWhile_imp member
  · intro c first
    simpa using ends c first

/-- What a reader of one token may answer. -/
inductive PartAnswers : List Char → Except Fault Part → Prop
  | token {kind : TokenKind} {lexeme after : List Char} (spelt : Spells lexeme after kind) :
      PartAnswers (lexeme ++ after) (.ok ⟨some kind, lexeme.length⟩)
  | fault {rest : List Char} {fault : Fault} (within : fault.Within rest) :
      PartAnswers rest (.error fault)

theorem PartAnswers.alone {rest : List Char} {answer : Except Fault Part}
    (answers : PartAnswers rest answer) : Answers rest (answer.map fun part => [part]) := by
  cases answers with
  | token spelt => exact ⟨List.cons_ne_nil _ _, .token spelt (.nothing _)⟩
  | fault within => exact within

theorem Integer.nonempty {base : Nat} {lexeme run : List Char} (integer : Integer base lexeme run) :
    lexeme ≠ [] := by
  cases integer <;> exact List.cons_ne_nil _ _

theorem integerPart_answers {base : Nat} {lexeme run after : List Char}
    (integer : Integer base lexeme run) (ends : EndsRun base after) :
    PartAnswers (lexeme ++ after) (integerPart base (digitsOf run) lexeme.length) := by
  unfold integerPart
  cases fits : Number.fit? (Int.ofNat (Number.textValue base (digitsOf run))) with
  | some value => exact .token ⟨base, run, integer, ends, Number.toInt_of_fit? fits⟩
  | none =>
      refine .fault ⟨?_, ?_⟩
      · exact List.length_pos_iff.mpr integer.nonempty
      · change lexeme.length ≤ (lexeme ++ after).length
        rw [List.length_append]
        exact Nat.le_add_right _ _

theorem literalBase?_split {rest : List Char} {base : Nat} (announced : literalBase? rest = some base) :
    ∃ letter after, rest = '0' :: letter :: after ∧ literalBase? ['0', letter] = some base := by
  unfold literalBase? at announced
  split at announced
  · rename_i letter after
    exact ⟨letter, after, rfl, announced⟩
  · cases announced

theorem readPrefixed_answers {rest : List Char} {base : Nat}
    (announced : literalBase? rest = some base) : PartAnswers rest (readPrefixed base rest) := by
  obtain ⟨letter, behind, rfl, base?⟩ := literalBase?_split announced
  obtain ⟨after, split, -, digits, ends⟩ := digitRun_split base behind
  unfold readPrefixed
  simp only [List.drop_succ_cons, List.drop_zero]
  generalize digitRun base behind = run at split digits
  subst split
  have dropped : ('0' :: letter :: (run ++ after)).drop (2 + run.length) = after := by
    rw [Nat.add_comm, List.drop_succ_cons, List.drop_succ_cons, List.drop_left]
  have length : 2 + run.length = ('0' :: letter :: run).length := Nat.add_comm _ _
  rw [dropped, length]
  have integer : digitsOf run ≠ [] → PartAnswers ('0' :: letter :: run ++ after)
      (integerPart base (digitsOf run) ('0' :: letter :: run).length) :=
    fun some => integerPart_answers (.announced base? digits some) ends
  generalize integerPart base (digitsOf run) ('0' :: letter :: run).length = answer at integer
  have whole : PartAnswers ('0' :: letter :: run ++ after)
      (if (digitsOf run).isEmpty = true then
        .error ⟨.missingDigits base, 0, ('0' :: letter :: run).length⟩ else answer) := by
    by_cases none : (digitsOf run).isEmpty = true
    · rw [if_pos none]
      refine .fault ⟨Nat.succ_pos _, ?_⟩
      change ('0' :: letter :: run).length ≤ ('0' :: letter :: run ++ after).length
      rw [List.length_append]
      exact Nat.le_add_right _ _
    · rw [if_neg none]
      exact integer (by simpa using none)
  -- A digit behind a point is complained about before missing digits are.
  split
  · split
    · refine .fault ⟨Nat.succ_pos _, ?_⟩
      simp only [List.length_cons, List.length_append]
      omega
    · exact whole
  · rw [if_neg Bool.false_ne_true]
    exact whole

theorem readDecimal_answers {c : Char} (digit : c.isDigit = true) (behind : List Char) :
    PartAnswers (c :: behind) (readDecimal (c :: behind)) := by
  have starts : Number.isDigitOf 10 c = true := isDigitOf_ten_iff.mpr digit
  have first : digitRun 10 (c :: behind) = c :: digitRun 10 behind := by
    simp only [digitRun, List.takeWhile_cons, starts, Bool.or_true, if_true]
  obtain ⟨after, split, -, digits, ends⟩ := digitRun_split 10 behind
  unfold readDecimal
  simp only [first]
  generalize digitRun 10 behind = run at split digits
  subst split
  have integer : Integer 10 (c :: run) (c :: run) := .decimal starts digits
  have dropped : (c :: (run ++ after)).drop (c :: run).length = after := by
    rw [List.length_cons, List.drop_succ_cons, List.drop_left]
  rw [dropped]
  split
  · rename_i afterPoint
    obtain ⟨left, split, dropped, fractionDigits, fractionEnds⟩ := digitRun_split 10 afterPoint
    rw [dropped]
    generalize digitRun 10 afterPoint = fraction at split fractionDigits
    subst split
    split
    · refine .fault ⟨Nat.succ_pos _, ?_⟩
      simp only [List.length_cons, List.length_append]
      omega
    · have spelt : Spells (c :: run ++ '.' :: fraction) left
          (.float (fractionValue (c :: run) fraction)) :=
        ⟨c :: run, fraction, rfl, integer, fractionDigits, fractionEnds, rfl⟩
      have answers := PartAnswers.token spelt
      have length : (c :: run ++ '.' :: fraction).length =
          (c :: run).length + 1 + fraction.length := by
        simp only [List.length_append, List.length_cons]
        omega
      rw [length, List.append_assoc] at answers
      exact answers
  · exact integerPart_answers integer ends

/-- Plain digits that fill a word are a decimal integer. -/
theorem integerPart_answers_of_digits {run after : List Char}
    (digits : (!run.isEmpty && run.all (Number.isDigitOf 10)) = true)
    (ends : ∀ c ∈ after.head?, Text.isIdentifierPart c = false) :
    PartAnswers (run ++ after) (integerPart 10 run run.length) := by
  simp only [Bool.and_eq_true, Bool.not_eq_true', List.isEmpty_eq_false_iff,
    List.all_eq_true] at digits
  have plain : digitsOf run = run := by
    refine List.filter_eq_self.mpr ?_
    intro c member
    have digit := digits.2 c member
    have other : c ≠ '_' := by
      rintro rfl
      exact absurd digit (by decide)
    simpa using other
  have integer : Integer 10 run run := by
    cases run with
    | nil => exact absurd rfl digits.1
    | cons c run =>
        refine .decimal (digits.2 c List.mem_cons_self) ?_
        exact fun c member => Or.inr (digits.2 c (List.mem_cons_of_mem _ member))
  have endsRun : EndsRun 10 after := by
    intro c first goesOn
    have part : Text.isIdentifierPart c = true := by
      rcases goesOn with rfl | digit
      · decide +kernel
      · exact isIdentifierPart_of_isDigitOf_ten digit
    exact absurd (part.symm.trans (ends c first)) Bool.true_eq_false.mp
  have answers := integerPart_answers integer endsRun
  rwa [plain] at answers

/-- What a reader of something that need not be there may answer. -/
def Continues (rest : List Char) : Except Fault (List Part) → Prop
  | .ok parts => Covers parts rest
  | .error fault => fault.Within rest

theorem readPowerOfTen_continues (rest : List Char) : Continues rest (readPowerOfTen rest) := by
  cases rest with
  | nil => exact .nothing []
  | cons letter behind =>
      have nothing : Continues (letter :: behind) (.ok []) := .nothing _
      unfold readPowerOfTen
      by_cases marked : letter = 'e' ∨ letter = 'E'
      · have exponent : Spells [letter] behind .exponent := by
          rcases marked with rfl | rfl
          · exact Or.inl rfl
          · exact Or.inr rfl
        obtain ⟨after, split, -, ends⟩ := takeWhile_split Text.isIdentifierPart behind
        simp only [if_pos marked]
        generalize behind.takeWhile Text.isIdentifierPart = run at split
        have answers : (!run.isEmpty && run.all (Number.isDigitOf 10)) = true →
            PartAnswers behind (integerPart 10 run run.length) := by
          intro digits
          rw [split]
          exact integerPart_answers_of_digits digits ends
        generalize integerPart 10 run run.length = answer at answers
        split
        · rename_i digits
          cases answers digits with
          | token spelt => exact .token exponent (.token spelt (.nothing _))
          | fault within => exact within.later [letter]
        · split
          · split
            · exact .token exponent (.nothing _)
            · exact nothing
          · exact nothing
      · simp only [if_neg marked]
        exact nothing

theorem readNumber_answers (powers : Bool) {c : Char} (digit : c.isDigit = true)
    (behind : List Char) : Answers (c :: behind) (readNumber powers (c :: behind)) := by
  unfold readNumber
  cases announced : literalBase? (c :: behind) with
  | some base => exact (readPrefixed_answers announced).alone
  | none =>
      have answers := readDecimal_answers digit behind
      generalize readDecimal (c :: behind) = answer at answers
      generalize c :: behind = rest at answers
      cases answers with
      | fault within => exact within
      | @token kind lexeme after spelt =>
          simp only [List.drop_left]
          split
          · have continues := readPowerOfTen_continues after
            generalize readPowerOfTen after = answer at continues
            cases answer with
            | ok parts => exact ⟨List.cons_ne_nil _ _, .token spelt continues⟩
            | error fault => exact Fault.Within.later continues lexeme
          · exact ⟨List.cons_ne_nil _ _, .token spelt (.nothing after)⟩

/-! ## Words, marks and pieces -/

theorem readWord_covers {c : Char} (start : Text.isIdentifierStart c = true) (behind : List Char) :
    Covers [readWord (c :: behind)] (c :: behind) := by
  obtain ⟨after, split, -, ends⟩ := takeWhile_split Text.isIdentifierPart (c :: behind)
  change c :: behind = wordAt (c :: behind) ++ after at split
  have word : IsWord (wordAt (c :: behind)) after := by
    refine ⟨⟨c, ?_, start⟩, fun c member => List.mem_takeWhile_imp member, ends⟩
    simp only [wordAt, List.takeWhile_cons, Text.isIdentifierPart_of_start start, if_true,
      List.head?_cons, Option.mem_def]
  have spelt : ∀ kind, Spells (wordAt (c :: behind)) after kind →
      Covers [⟨some kind, (wordAt (c :: behind)).length⟩] (c :: behind) := by
    intro kind spelt
    have covers := Covers.token spelt (.nothing after)
    rwa [← split] at covers
  simp only [readWord]
  cases found : Keyword.ofSpelling? (String.ofList (wordAt (c :: behind))) with
  | some keyword =>
      refine spelt (.keyword keyword) ⟨?_, word⟩
      rw [Keyword.spelling_of_ofSpelling? found, String.toList_ofList]
  | none =>
      refine spelt (.identifier _) ⟨String.toList_ofList.symm, word, ?_⟩
      intro keyword same
      rw [← same, Keyword.ofSpelling?_spelling] at found
      cases found

theorem Symbol.all_longest_first :
    Symbol.all.Pairwise fun first second => second.spelling.length ≤ first.spelling.length := by
  decide

theorem Symbol.spells_of_read? {text : List Char} {symbol : Symbol}
    (found : Symbol.read? text = some symbol) :
    ∃ after, text = symbol.spelling.toList ++ after ∧
      Spells symbol.spelling.toList after (.symbol symbol) := by
  obtain ⟨starts, before, behind, all, earlier⟩ := List.find?_eq_some_iff_append.mp found
  obtain ⟨after, rfl⟩ := List.isPrefixOf_iff_prefix.mp starts
  refine ⟨after, rfl, rfl, ?_⟩
  intro other others
  -- Those tried before do not match, and those not tried are no longer.
  have member : other ∈ before ++ symbol :: behind := all ▸ Symbol.mem_all other
  have sorted := Symbol.all_longest_first
  rw [all, List.pairwise_append, List.pairwise_cons] at sorted
  rcases List.mem_append.mp member with tried | left
  · have unmatched := earlier other tried
    rw [List.isPrefixOf_iff_prefix.mpr others] at unmatched
    cases unmatched
  · rcases List.mem_cons.mp left with rfl | later
    · exact Nat.le_refl _
    · exact sorted.2.1.1 other later

theorem spells_of_readBracket? {c : Char} {kind : TokenKind} (found : readBracket? c = some kind)
    (behind : List Char) : Spells [c] behind kind := by
  unfold readBracket? at found
  split at found
  · rename_i same
    obtain rfl := Option.some.inj found
    exact congrArg (fun c => [c]) same
  · split at found
    · rename_i same
      obtain rfl := Option.some.inj found
      exact congrArg (fun c => [c]) same
    · split at found
      · rename_i same
        obtain rfl := Option.some.inj found
        exact congrArg (fun c => [c]) same
      · split at found
        · rename_i same
          obtain rfl := Option.some.inj found
          exact congrArg (fun c => [c]) same
        · cases found

theorem readMark_answers (c : Char) (behind : List Char) :
    Answers (c :: behind) (readMark c (c :: behind)) := by
  unfold readMark
  cases bracket : readBracket? c with
  | some kind => 
      exact ⟨List.cons_ne_nil _ _, .token (spells_of_readBracket? bracket behind) (.nothing behind)⟩
  | none =>
      cases found : Symbol.read? (c :: behind) with
      | some symbol =>
          obtain ⟨after, split, spelt⟩ := Symbol.spells_of_read? found
          rw [split]
          exact ⟨List.cons_ne_nil _ _, .token spelt (.nothing after)⟩
      | none => exact ⟨Nat.one_pos, Nat.succ_pos _⟩

/-- A piece that is passed over as a whole. -/
theorem Answers.skipped {piece after : List Char} {length : Nat} (skipped : Skipped piece)
    (same : piece.length = length) : Answers (piece ++ after) (.ok [⟨none, length⟩]) := by
  subst same
  exact ⟨List.cons_ne_nil _ _, .skip skipped (.nothing after)⟩

theorem continuation_split {rest : List Char} (continued : 0 < continuationLength rest) :
    ∃ piece after, rest = piece ++ after ∧ piece.length = continuationLength rest ∧
      Skipped piece := by
  unfold continuationLength at continued
  split at continued
  · rename_i after
    exact ⟨['\\', '\n'], after, rfl, rfl, .continued⟩
  · rename_i after
    exact ⟨['\\', '\r', '\n'], after, rfl, rfl, .continuedReturn⟩
  · cases continued

theorem readPiece_answers (switches : Switches) (c : Char) (behind : List Char) :
    Answers (c :: behind) (readPiece switches c (c :: behind)) := by
  unfold readPiece
  by_cases blank : isInlineBlank c = true
  · rw [if_pos blank]
    exact .skipped (.blank blank) rfl
  rw [if_neg blank]
  by_cases newline : c = '\n' ∨ c = ';'
  · rw [if_pos newline]
    have spelt : Spells [c] behind .newline := by
      rcases newline with rfl | rfl
      · exact Or.inl rfl
      · exact Or.inr rfl
    exact ⟨List.cons_ne_nil _ _, .token spelt (.nothing behind)⟩
  rw [if_neg newline]
  by_cases continued : 0 < continuationLength (c :: behind)
  · rw [if_pos continued]
    obtain ⟨piece, after, split, length, skipped⟩ := continuation_split continued
    rw [← length, split]
    exact .skipped skipped rfl
  rw [if_neg continued]
  by_cases hash : c = '#'
  · subst hash
    rw [if_pos rfl]
    obtain ⟨words, after, rfl, length, comment⟩ := Comment.of_lineCommentLength behind
    refine .skipped (.comment comment) ?_
    simp only [lineCommentLength, List.takeWhile_cons] at length ⊢
    simpa using length
  rw [if_neg hash]
  by_cases opens : opensComment (c :: behind) = true
  · rw [if_pos opens]
    cases found : blockCommentLength? (c :: behind) with
    | some length =>
        obtain ⟨piece, after, split, same, comment⟩ := Comment.of_blockCommentLength? opens found
        rw [split]
        exact .skipped (.comment comment) same
    | none =>
        unfold opensComment at opens
        split at opens
        · rename_i same
          rw [same]
          exact ⟨Nat.two_pos, Nat.le_add_left 2 _⟩
        · cases opens
  rw [if_neg opens]
  by_cases quote : (closingQuote? c).isSome = true
  · rw [if_pos quote]
    exact readString_answers switches quote
  rw [if_neg quote]
  by_cases digit : c.isDigit = true
  · rw [if_pos digit]
    exact readNumber_answers switches.exponent digit behind
  rw [if_neg digit]
  by_cases start : Text.isIdentifierStart c = true
  · rw [if_pos start]
    exact ⟨List.cons_ne_nil _ _, readWord_covers start behind⟩
  rw [if_neg start]
  exact readMark_answers c behind

/-! ## Directives -/

theorem wordAt_split (rest : List Char) :
    ∃ word after, rest = word ++ after ∧ wordAt rest = word ∧
      ∀ c ∈ word, Text.isIdentifierPart c = true := by
  obtain ⟨after, split, -, -⟩ := takeWhile_split Text.isIdentifierPart rest
  exact ⟨_, after, split, rfl, fun c member => List.mem_takeWhile_imp member⟩

theorem gapAt_split (rest : List Char) :
    ∃ gap after, rest = gap ++ after ∧ gapAt rest = gap.length ∧ ∀ c ∈ gap, c = ' ' ∨ c = '\t' := by
  obtain ⟨after, split, -, -⟩ := takeWhile_split (fun c => c = ' ' || c = '\t') rest
  refine ⟨_, after, split, rfl, ?_⟩
  intro c member
  simpa using List.mem_takeWhile_imp member

/-- What is left of a text after one more stretch of it. -/
theorem drop_add_length {text piece rest : List Char} {passed : Nat}
    (split : text.drop passed = piece ++ rest) :
    text.drop (passed + piece.length) = rest := by
  rw [← List.drop_drop, split, List.drop_left]

/-- What the reader of a directive may answer. -/
inductive DirectiveAnswers : List Char → Except Fault (Switches × Nat) → Prop
  | directive {switches : Switches} {piece after : List Char} (skipped : Skipped piece) :
      DirectiveAnswers (piece ++ after) (.ok (switches, piece.length))
  | fault {rest : List Char} {fault : Fault} (within : fault.Within rest) :
      DirectiveAnswers rest (.error fault)

/-- A fault that points at everything up to some place behind the sign. -/
theorem DirectiveAnswers.upTo {rest : List Char} {length : Nat} (cause : Cause)
    (bound : length ≤ rest.length) (some : 0 < length) :
    DirectiveAnswers rest (.error ⟨cause, 0, length⟩) :=
  .fault ⟨some, bound⟩

theorem readDirective_answers (switches : Switches) (behind : List Char) :
    DirectiveAnswers ('@' :: behind) (readDirective switches ('@' :: behind)) := by
  obtain ⟨word, behindWord, rfl, wordIs, -⟩ := wordAt_split behind
  obtain ⟨gap, behindGap, rfl, gapIs, gapBlank⟩ := gapAt_split behindWord
  obtain ⟨name, behindName, rfl, nameIs, nameWord⟩ := wordAt_split behindGap
  obtain ⟨gap', behindGap', rfl, gapIs', gapBlank'⟩ := gapAt_split behindName
  obtain ⟨value, after, rfl, valueIs, valueWord⟩ := wordAt_split behindGap'
  generalize text : '@' :: (word ++ (gap ++ (name ++ (gap' ++ (value ++ after))))) = rest
  have total : rest.length = 1 + word.length + gap.length + name.length + gap'.length +
      value.length + after.length := by
    simp only [← text, List.length_cons, List.length_append]
    omega
  have behindSign : rest.drop 1 = word ++ (gap ++ (name ++ (gap' ++ (value ++ after)))) := by
    rw [← text]
    rfl
  have behindWord := drop_add_length behindSign
  have behindGap := drop_add_length behindWord
  have behindName := drop_add_length behindGap
  have behindGap' := drop_add_length behindName
  simp only [readDirective, behindSign, wordIs, behindWord, gapIs, behindGap, nameIs, behindName,
    gapIs', behindGap', valueIs]
  by_cases directs : String.ofList word ≠ "meta"
  · rw [if_pos directs]
    exact .upTo _ (by omega) (by omega)
  rw [if_neg directs]
  by_cases unnamed : name.isEmpty = true
  · rw [if_pos unnamed]
    exact .upTo _ (by omega) (by omega)
  rw [if_neg unnamed]
  split
  · exact .upTo _ (by omega) (by omega)
  · split
    · exact .upTo _ (by omega) (by omega)
    · rename_i updated _
      have metaWord : word = ['m', 'e', 't', 'a'] := by
        have same := congrArg String.toList (not_not.mp directs)
        rwa [String.toList_ofList] at same
      have skipped : Skipped ('@' :: 'm' :: 'e' :: 't' :: 'a' :: (gap ++ name ++ gap' ++ value)) := by
        refine .directive ?_ (by simpa using unnamed) ?_
        · intro c member
          rcases List.mem_append.mp member with first | second
          · exact gapBlank c first
          · exact gapBlank' c second
        · intro c member
          rcases List.mem_append.mp member with first | second
          · exact nameWord c first
          · exact valueWord c second
      have split : rest =
          '@' :: 'm' :: 'e' :: 't' :: 'a' :: (gap ++ name ++ gap' ++ value) ++ after := by
        rw [← text, metaWord]
        simp only [List.cons_append, List.append_assoc, List.nil_append]
      have length : 1 + word.length + gap.length + name.length + gap'.length + value.length =
          ('@' :: 'm' :: 'e' :: 't' :: 'a' :: (gap ++ name ++ gap' ++ value)).length := by
        rw [metaWord]
        simp only [List.length_cons, List.length_append, List.length_nil]
        omega
      rw [length, split]
      exact .directive skipped

end Lexical
end Scripting
