import Scripting.Proofs.DataTokens

namespace Scripting
namespace Lexical

/-!
Tokens written out and read again.

Every kind of token has a spelling, and a blank behind it is enough to tell where it ends: no
number, word or symbol goes on with a blank, and a string literal ends at its closing quote.
So a scan of spellings with single blanks between them takes one spelling after the other,
whatever stands behind.  Only brackets depend on what came before, through those that are
still open; a text whose brackets are nested is read to its end.
-/

/-! ## Spellings -/

/-- A character between double quotes: the quote itself and a backslash are escaped. -/
def escapedChar (c : Char) : List Char :=
  if c = '"' ∨ c = '\\' then ['\\', c] else [c]

/-- What a program says for a token. -/
def TokenKind.written : TokenKind → List Char
  | .int value => (Number.writeInt value).toList
  | .float value => (Number.writeFloat value).toList
  | .text value => '"' :: (value.toList.flatMap escapedChar ++ ['"'])
  | .identifier name => name.toList
  | .keyword word => word.spelling.toList
  | .exponent => ['e']
  | .symbol mark => mark.spelling.toList
  | .opening bracket => [bracket.opening]
  | .closing bracket => [bracket.closing]
  | .newline => ['\n']
  | .endOfFile => []

/-- A word that may name a variable. -/
def IsName (name : String) : Prop :=
  name.toList.head?.any Text.isIdentifierStart = true ∧
    name.toList.all Text.isIdentifierPart = true ∧ Keyword.ofSpelling? name = none

instance (name : String) : Decidable (IsName name) :=
  inferInstanceAs (Decidable (_ ∧ _))

/-- A token that stands for itself in a text: fractions and their powers of ten are left out. -/
def TokenKind.Plain : TokenKind → Prop
  | .int value => 0 ≤ value.toInt
  | .identifier name => IsName name
  | .float _ | .exponent | .endOfFile => False
  | _ => True

/-- Single blanks between the spellings of tokens. -/
def spaced (kinds : List TokenKind) : List Char :=
  [' '].intercalate (kinds.map TokenKind.written)

/-! ## Brackets -/

/-- Neither an opening nor a closing bracket. -/
def TokenKind.Unbracketed : TokenKind → Prop
  | .opening _ | .closing _ => False
  | _ => True

/-- Tokens whose brackets belong together in pairs, one inside or behind the other. -/
inductive Nested : List TokenKind → Prop
  | nothing : Nested []
  | other {kind : TokenKind} {kinds : List TokenKind} (unbracketed : kind.Unbracketed)
      (later : Nested kinds) : Nested (kind :: kinds)
  | pair {bracket : Bracket} {inner kinds : List TokenKind} (inside : Nested inner)
      (later : Nested kinds) :
      Nested (.opening bracket :: (inner ++ .closing bracket :: kinds))

/-- The brackets that are open behind a token, unless it closes one that is not. -/
def TokenKind.leaves? (opened : List Bracket) : TokenKind → Option (List Bracket)
  | .opening bracket => some (bracket :: opened)
  | .closing bracket => if opened.head? = some bracket then some opened.tail else none
  | _ => some opened

/-- The brackets that are open behind some tokens. -/
def leavesAll? (opened : List Bracket) (kinds : List TokenKind) : Option (List Bracket) :=
  kinds.foldlM TokenKind.leaves? opened

theorem TokenKind.leaves?_of_unbracketed {kind : TokenKind} (unbracketed : kind.Unbracketed)
    (opened : List Bracket) : kind.leaves? opened = some opened := by
  cases kind with
  | opening bracket => cases unbracketed
  | closing bracket => cases unbracketed
  | _ => rfl

theorem leavesAll?_cons (opened : List Bracket) (kind : TokenKind) (kinds : List TokenKind) :
    leavesAll? opened (kind :: kinds) = (kind.leaves? opened).bind (leavesAll? · kinds) :=
  List.foldlM_cons

theorem leavesAll?_append (opened : List Bracket) (front back : List TokenKind) :
    leavesAll? opened (front ++ back) = (leavesAll? opened front).bind (leavesAll? · back) :=
  List.foldlM_append

/-- Nested tokens leave the brackets open that were open before them. -/
theorem Nested.leavesAll? {kinds : List TokenKind} (nested : Nested kinds)
    (opened : List Bracket) (others : List TokenKind) :
    leavesAll? opened (kinds ++ others) = Lexical.leavesAll? opened others := by
  induction nested generalizing opened others with
  | nothing => rfl
  | other unbracketed later ih =>
      rw [List.cons_append, leavesAll?_cons, TokenKind.leaves?_of_unbracketed unbracketed,
        Option.bind_some, ih]
  | @pair bracket inner kinds inside later ihInside ihLater =>
      have closed : (TokenKind.closing bracket).leaves? (bracket :: opened) = some opened := by
        simp [TokenKind.leaves?]
      rw [List.cons_append, List.append_assoc, List.cons_append, leavesAll?_cons]
      change Lexical.leavesAll? (bracket :: opened) _ = _
      rw [ihInside, leavesAll?_cons, closed, Option.bind_some, ihLater]

variable {switches : Switches} {scan : Scan} {rest after : List Char}

/-! ## A spelling at the head of a text -/

/-- The end of a text or a blank. -/
def Gapped (after : List Char) : Prop :=
  after = [] ∨ ∃ rest, after = ' ' :: rest

theorem Gapped.endsWord (gapped : Gapped after) : EndsWord after := by
  rcases gapped with rfl | ⟨rest, rfl⟩
  · nofun
  · intro c first
    cases first
    exact Or.inl rfl

/-- The head of the text is one piece, a token of this kind. -/
def ReadsAs (switches : Switches) (written after : List Char) (kind : TokenKind) : Prop :=
  ∃ c others, written = c :: others ∧ c ≠ '@' ∧
    readPiece switches c (written ++ after) = .ok [⟨some kind, written.length⟩]

theorem int_reads {value : Int64} (natural : 0 ≤ value.toInt) (gapped : Gapped after) :
    ReadsAs switches (TokenKind.int value).written after (.int value) := by
  rcases Int.eq_ofNat_of_zero_le natural with ⟨n, same⟩
  rw [TokenKind.written, writeInt_natural same]
  exact readPiece_of_digits switches same gapped.endsWord

theorem isDigit_of_start {c : Char} (start : Text.isIdentifierStart c = true) :
    c.isDigit = false := by
  rw [Bool.eq_false_iff]
  intro digit
  simp only [Char.isDigit, Bool.and_eq_true, decide_eq_true_eq] at digit
  have last : c.toNat ≤ 57 := digit.2
  have small : c.toNat < 0x80 := by omega
  simp only [Text.isIdentifierStart, Text.isLetter, if_pos small, Char.isAlpha, Char.isUpper,
    Char.isLower, Bool.or_eq_true, Bool.and_eq_true, decide_eq_true_eq] at start
  rcases start with (⟨upper, -⟩ | ⟨lower, -⟩) | rfl
  · have first : 65 ≤ c.toNat := upper
    omega
  · have first : 97 ≤ c.toNat := lower
    omega
  · exact absurd last (by decide)

theorem bare_of_start {c : Char} (start : Text.isIdentifierStart c = true) : Bare c := by
  have different : ∀ d : Char, Text.isIdentifierStart d = false → c ≠ d := by
    rintro d no rfl
    rw [start] at no
    cases no
  have quote : closingQuote? c = none := by
    simp [closingQuote?, different '"' (by decide), different '\'' (by decide),
      different '«' (by decide +kernel)]
  refine ⟨?_, ?_, different _ (by decide), different _ (by decide), different _ (by decide), ?_⟩
  · simp [isInlineBlank, different ' ' (by decide), different '\t' (by decide),
      different '\r' (by decide)]
  · simp [different '\n' (by decide), different ';' (by decide)]
  · rw [quote]
    rfl

/-- A word is read up to the blank behind it. -/
theorem word_reads {name : String} {kind : TokenKind}
    (start : name.toList.head?.any Text.isIdentifierStart = true)
    (parts : name.toList.all Text.isIdentifierPart = true) (gapped : Gapped after)
    (word : readWord name.toList = ⟨some kind, name.toList.length⟩) :
    ReadsAs switches name.toList after kind := by
  generalize name.toList = letters at start parts word ⊢
  rcases letters with _ | ⟨c, others⟩
  · cases start
  replace start : Text.isIdentifierStart c = true := start
  rw [List.all_eq_true] at parts
  have taken : wordAt (c :: others ++ after) = c :: others :=
    gapped.endsWord.takeWhile_append parts (by decide) (by decide) (by decide)
  have alone : wordAt (c :: others) = c :: others := List.takeWhile_eq_self_iff.mpr parts
  have same : readWord (c :: others ++ after) = readWord (c :: others) := by
    simp only [readWord, taken, alone]
  refine ⟨c, others, rfl, ?_, ?_⟩
  · rintro rfl
    exact absurd start (by decide)
  · rw [List.cons_append, readPiece_bare _ (bare_of_start start), isDigit_of_start start,
      if_neg Bool.false_ne_true, if_pos start, ← List.cons_append, same, word]

theorem readWord_eq {name : String} (parts : name.toList.all Text.isIdentifierPart = true) :
    readWord name.toList =
      ⟨some ((Keyword.ofSpelling? name).elim (.identifier name) .keyword), name.toList.length⟩ := by
  have alone : wordAt name.toList = name.toList :=
    List.takeWhile_eq_self_iff.mpr (List.all_eq_true.mp parts)
  simp only [readWord, alone, String.ofList_toList]
  cases Keyword.ofSpelling? name <;> rfl

theorem identifier_reads {name : String} (isName : IsName name) (gapped : Gapped after) :
    ReadsAs switches (TokenKind.identifier name).written after (.identifier name) := by
  rcases isName with ⟨start, parts, free⟩
  have word := readWord_eq parts
  rw [free] at word
  exact word_reads start parts gapped word

theorem keyword_reads (word : Keyword) (gapped : Gapped after) :
    ReadsAs switches (TokenKind.keyword word).written after (.keyword word) := by
  have start : word.spelling.toList.head?.any Text.isIdentifierStart = true := by
    cases word <;> decide +kernel
  have parts : word.spelling.toList.all Text.isIdentifierPart = true := by
    cases word <;> decide +kernel
  have read := readWord_eq parts
  rw [Keyword.ofSpelling?_spelling] at read
  exact word_reads start parts gapped read

/-! ### Symbols -/

/-- No symbol goes on with a blank, so a blank behind a text does not lengthen the match. -/
theorem isPrefixOf_gapped {spelling text : List Char} (solid : ' ' ∉ spelling)
    (gapped : Gapped after) :
    spelling.isPrefixOf (text ++ after) = spelling.isPrefixOf text := by
  induction spelling generalizing text with
  | nil => rfl
  | cons c spelling ih =>
      rcases List.ne_and_not_mem_of_not_mem_cons solid with ⟨first, others⟩
      rcases text with _ | ⟨d, text⟩
      · rcases gapped with rfl | ⟨rest, rfl⟩
        · rfl
        · simp [List.isPrefixOf, Ne.symm first]
      · simp only [List.cons_append, List.isPrefixOf, ih others]

theorem Symbol.solid (mark : Symbol) : ' ' ∉ mark.spelling.toList := by
  cases mark <;> decide +kernel

theorem Symbol.read?_written (mark : Symbol) (gapped : Gapped after) :
    Symbol.read? (mark.spelling.toList ++ after) = some mark := by
  have same : Symbol.read? (mark.spelling.toList ++ after) =
      Symbol.read? mark.spelling.toList := by
    unfold Symbol.read?
    exact congrArg (Symbol.all.find? ·) (funext fun other => isPrefixOf_gapped other.solid gapped)
  rw [same]
  cases mark <;> decide +kernel

theorem opensComment_eq (text : List Char) : opensComment text = ['/', '*'].isPrefixOf text := by
  unfold opensComment
  split
  · rfl
  · rename_i other
    symm
    rw [Bool.eq_false_iff, Ne, List.isPrefixOf_iff_prefix]
    rintro ⟨rest, rfl⟩
    exact other rest rfl

/-- No comment opens where a symbol is written. -/
theorem Symbol.opensComment_written (mark : Symbol) (gapped : Gapped after) :
    opensComment (mark.spelling.toList ++ after) = false := by
  rw [opensComment_eq, isPrefixOf_gapped (by decide) gapped]
  cases mark <;> decide +kernel

/-- A character that starts neither trivia nor a literal nor a word, apart from comments. -/
def StartsMark (c : Char) : Prop :=
  isInlineBlank c = false ∧ ¬ (c = '\n' ∨ c = ';') ∧ c ≠ '\\' ∧ c ≠ '#' ∧
    (closingQuote? c).isSome = false ∧ c.isDigit = false ∧ Text.isIdentifierStart c = false

instance (c : Char) : Decidable (StartsMark c) :=
  inferInstanceAs (Decidable (_ ∧ _))

theorem readPiece_mark {c : Char} (starts : StartsMark c)
    (open? : opensComment (c :: rest) = false) :
    readPiece switches c (c :: rest) = readMark c (c :: rest) := by
  rcases starts with ⟨blank, line, backslash, hash, quote, digit, start⟩
  unfold readPiece
  rw [continuationLength_of_ne backslash, open?, blank, quote, digit, start, if_neg line,
    if_neg hash]
  rfl

theorem Symbol.startsMark (mark : Symbol) :
    ∃ c others, mark.spelling.toList = c :: others ∧ StartsMark c ∧ readBracket? c = none ∧
      c ≠ '@' := by
  cases mark <;> exact ⟨_, _, rfl, by decide +kernel⟩

theorem symbol_reads (mark : Symbol) (gapped : Gapped after) :
    ReadsAs switches (TokenKind.symbol mark).written after (.symbol mark) := by
  have read := mark.read?_written gapped
  have uncommented := mark.opensComment_written gapped
  rcases mark.startsMark with ⟨c, others, spelt, starts, bracket, sign⟩
  have length : mark.spelling.length = (c :: others).length := by
    rw [← spelt, String.length_toList]
  rw [spelt, List.cons_append] at read uncommented
  rw [TokenKind.written, spelt]
  refine ⟨c, others, rfl, sign, ?_⟩
  rw [List.cons_append, readPiece_mark starts uncommented]
  simp only [readMark, bracket, read, length]

theorem bracket_reads {c : Char} {kind : TokenKind} (bare : Bare c) (digit : c.isDigit = false)
    (start : Text.isIdentifierStart c = false) (other : c ≠ '@')
    (bracket : readBracket? c = some kind) : ReadsAs switches [c] after kind := by
  refine ⟨c, [], rfl, other, ?_⟩
  rw [List.singleton_append, readPiece_bare _ bare, digit, start]
  simp only [readMark, bracket]
  rfl

/-! ### String literals -/

theorem escaped_body (text : List Char) : Body true '"' (text.flatMap escapedChar) text := by
  induction text with
  | nil => exact .done
  | cons c text ih =>
      rw [List.flatMap_cons, escapedChar]
      by_cases marked : c = '"' ∨ c = '\\'
      · rw [if_pos marked]
        refine .escape rfl (.simple ?_) ih
        rcases marked with rfl | rfl
        · rfl
        · rfl
      · rw [if_neg marked]
        rw [not_or] at marked
        exact .plain marked.1 (fun both => marked.2 both.1) ih

theorem text_reads (value : String) (escapes : switches.escapes = true)
    (apart : switches.implicitConcat = false) :
    ReadsAs switches (TokenKind.text value).written after (.text value) := by
  refine ⟨'"', _, rfl, by decide, ?_⟩
  have quotes : closingQuote? '"' = some '"' := rfl
  have literal := readLiteral_append quotes (escaped_body value.toList) after
  unfold TokenKind.written
  rw [List.cons_append, readPiece_literal _ rfl, readString, apart, escapes,
    List.append_assoc, List.singleton_append]
  simp only [readLiterals, literal, Bool.false_eq_true, if_false, Except.map, String.ofList_toList,
    List.length_cons, List.length_append, List.length_nil]

/-! ## The scan of many spellings -/

/-- Every plain token is read from its spelling. -/
theorem TokenKind.Plain.reads {kind : TokenKind} (plain : kind.Plain)
    (escapes : switches.escapes = true) (apart : switches.implicitConcat = false)
    (gapped : Gapped after) : ReadsAs switches kind.written after kind := by
  cases kind with
  | int value => exact int_reads plain gapped
  | float value => cases plain
  | text value => exact text_reads value escapes apart
  | identifier name => exact identifier_reads plain gapped
  | keyword word => exact keyword_reads word gapped
  | exponent => cases plain
  | symbol mark => exact symbol_reads mark gapped
  | opening bracket =>
      cases bracket <;> exact bracket_reads (by decide) rfl (by decide) (by decide) rfl
  | closing bracket =>
      cases bracket <;> exact bracket_reads (by decide) rfl (by decide) (by decide) rfl
  | newline => exact ⟨'\n', [], rfl, by decide, rfl⟩
  | endOfFile => cases plain

/-- A scan that has gone on over tokens of these kinds, with the brackets open behind them. -/
structure Scan.Takes (scan : Scan) (kinds : List TokenKind) (opened : List Bracket)
    (next : Scan) : Prop where
  switches : next.switches = scan.switches
  tokens : next.tokens.toList.map Token.kind = scan.tokens.toList.map Token.kind ++ kinds
  brackets : next.brackets.map Prod.fst = opened

theorem Scan.Takes.trans {kinds others : List TokenKind} {opened outer : List Bracket}
    {next last : Scan} (first : scan.Takes kinds opened next)
    (second : next.Takes others outer last) : scan.Takes (kinds ++ others) outer last where
  switches := second.switches.trans first.switches
  tokens := by rw [second.tokens, first.tokens, List.append_assoc]
  brackets := second.brackets

theorem Scan.cover_kind {kind : TokenKind} {opened : List Bracket} {piece : List Char}
    (split : scan.rest = piece ++ rest)
    (leaves : kind.leaves? (scan.brackets.map Prod.fst) = some opened) :
    ∃ next, scan.cover ⟨some kind, piece.length⟩ = .ok next ∧ next.rest = rest ∧
      scan.Takes [kind] opened next := by
  have left : (scan.emit kind piece.length).rest = rest := by
    change scan.rest.drop piece.length = rest
    rw [split, List.drop_left]
  have pushed : (scan.emit kind piece.length).tokens.toList.map Token.kind =
      scan.tokens.toList.map Token.kind ++ [kind] := by
    change (scan.tokens.push _).toList.map Token.kind = _
    rw [Array.toList_push, List.map_append]
    rfl
  cases kind with
  | opening bracket =>
      cases leaves
      exact ⟨_, rfl, left, rfl, pushed, rfl⟩
  | closing bracket =>
      rcases held : scan.brackets with _ | ⟨⟨inner, place⟩, outer⟩
      · rw [held] at leaves
        cases leaves
      · rw [held] at leaves
        simp only [TokenKind.leaves?, List.map_cons, List.head?_cons, Option.some.injEq,
          List.tail_cons, Option.ite_none_right_eq_some] at leaves
        rcases leaves with ⟨rfl, rfl⟩
        refine ⟨{ scan.emit (.closing inner) piece.length with brackets := outer }, ?_, left, rfl,
          pushed, rfl⟩
        simp only [Scan.cover, held, if_true]
  | _ =>
      cases leaves
      exact ⟨_, rfl, left, rfl, pushed, rfl⟩

/-- One spelling at the head of the text is one step of the scan. -/
theorem Scan.step_written {kind : TokenKind} {opened : List Bracket} (plain : kind.Plain)
    (escapes : scan.switches.escapes = true) (apart : scan.switches.implicitConcat = false)
    (gapped : Gapped after) (split : scan.rest = kind.written ++ after)
    (leaves : kind.leaves? (scan.brackets.map Prod.fst) = some opened) :
    ∃ next, scan.step = .ok next ∧ next.rest = after ∧ scan.Takes [kind] opened next := by
  rcases plain.reads escapes apart gapped with ⟨c, others, written, other, read⟩
  rcases Scan.cover_kind split leaves with ⟨next, covered, left, takes⟩
  rw [← split] at read
  rw [written, List.cons_append] at split
  exact ⟨next, (Scan.step_of_part split other read).trans covered, left, takes⟩

/-- A scan of spellings ends behind the last of them, if every bracket can be closed. -/
theorem Scan.outcome_spaced {kinds : List TokenKind} {opened : List Bracket}
    (plain : ∀ kind ∈ kinds, kind.Plain) (escapes : scan.switches.escapes = true)
    (apart : scan.switches.implicitConcat = false) (split : scan.rest = spaced kinds)
    (leaves : leavesAll? (scan.brackets.map Prod.fst) kinds = some opened) :
    ∃ final, scan.outcome = .ok final ∧ scan.Takes kinds opened final := by
  induction kinds generalizing scan with
  | nil =>
      cases leaves
      exact ⟨scan, Scan.outcome_of_done split, rfl, (List.append_nil _).symm, rfl⟩
  | cons kind kinds ih =>
      rw [leavesAll?_cons, Option.bind_eq_some_iff] at leaves
      rcases leaves with ⟨between, first, others⟩
      have plainHead := plain kind List.mem_cons_self
      have plainTail : ∀ other ∈ kinds, other.Plain :=
        fun other member => plain other (List.mem_cons_of_mem _ member)
      -- Behind the last spelling the text ends; behind every other one stands a blank.
      have onward : ∃ next, scan.outcome = next.outcome ∧ next.rest = spaced kinds ∧
          scan.Takes [kind] between next := by
        cases kinds with
        | nil =>
            rw [spaced, List.map_singleton, List.intercalate_singleton,
              ← List.append_nil kind.written] at split
            rcases Scan.step_written plainHead escapes apart (.inl rfl) split first with
              ⟨next, stepped, left, takes⟩
            exact ⟨next, Scan.outcome_of_step stepped, left, takes⟩
        | cons second kinds =>
            rw [spaced, List.map_cons, List.map_cons, List.intercalate_cons_cons,
              List.append_assoc, ← List.map_cons] at split
            rcases Scan.step_written plainHead escapes apart (.inr ⟨_, rfl⟩) split first with
              ⟨next, stepped, left, takes⟩
            have blank := Scan.outcome_of_step (Scan.step_of_blank rfl left)
            have behind : (next.beyond [' '] []).rest = spaced (second :: kinds) :=
              Scan.rest_beyond left []
            refine ⟨next.beyond [' '] [], (Scan.outcome_of_step stepped).trans blank, behind,
              takes.switches, ?_, takes.brackets⟩
            rw [← takes.tokens, Scan.beyond, Array.toList_append, List.append_nil]
      rcases onward with ⟨next, outcome, left, takes⟩
      rw [← takes.brackets] at others
      rw [← takes.switches] at escapes apart
      rcases ih plainTail escapes apart left others with ⟨final, ended, taken⟩
      exact ⟨final, outcome.trans ended, takes.trans taken⟩

/--
Tokens written out with single blanks between them are read again: literals, words and symbols
each as themselves, whatever their neighbours are, and brackets too as long as they are nested.
-/
theorem tokenize_spaced {kinds : List TokenKind} (escapes : switches.escapes = true)
    (apart : switches.implicitConcat = false) (plain : ∀ kind ∈ kinds, kind.Plain)
    (nested : Nested kinds) :
    ∃ tokens, tokenize switches (String.ofList (spaced kinds)) = .ok (tokens, switches) ∧
      tokens.map Token.kind = kinds ++ [.endOfFile] := by
  have closed : leavesAll? [] kinds = some [] := by
    have whole := nested.leavesAll? [] []
    rwa [List.append_nil] at whole
  let start := Scan.start switches (spaced kinds)
  have ended : ∃ final, start.outcome = .ok final ∧ start.Takes kinds [] final :=
    Scan.outcome_spaced plain escapes apart rfl closed
  rcases ended with ⟨final, outcome, takes⟩
  have empty : final.brackets = [] := List.map_eq_nil_iff.mp takes.brackets
  refine ⟨final.tokens.toList ++ [⟨.endOfFile, final.position, final.position⟩], ?_, ?_⟩
  · rw [tokenize_eq, String.toList_ofList, Scan.result, outcome]
    simp only [Except.bind, Scan.finish, empty, List.getLast?_nil]
    rw [takes.switches]
    rfl
  · rw [List.map_append, takes.tokens]
    rfl

/-- Marks that could run into one another, and a text with a quote and a backslash. -/
theorem tokenize_spaced_marks :
    ∃ tokens, tokenize { implicitConcat := false } (String.ofList (spaced
        [.opening .round, .symbol .slash, .symbol .star, .text "a\"\\", .closing .round, .int 12,
          .identifier "e3"])) = .ok (tokens, { implicitConcat := false }) ∧
      tokens.map Token.kind =
        [.opening .round, .symbol .slash, .symbol .star, .text "a\"\\", .closing .round, .int 12,
          .identifier "e3"] ++ [.endOfFile] := by
  have inside : Nested [.symbol .slash, .symbol .star, .text "a\"\\"] :=
    .other trivial (.other trivial (.other trivial .nothing))
  have outside : Nested [.int 12, .identifier "e3"] :=
    .other trivial (.other trivial .nothing)
  have natural : (TokenKind.int 12).Plain := by
    change 0 ≤ (12 : Int64).toInt
    decide
  have name : (TokenKind.identifier "e3").Plain := by
    change IsName "e3"
    decide +kernel
  refine tokenize_spaced rfl rfl ?_ (.pair inside outside)
  simp only [List.forall_mem_cons]
  exact ⟨trivial, trivial, trivial, trivial, trivial, natural, name, nofun⟩

end Lexical
end Scripting
