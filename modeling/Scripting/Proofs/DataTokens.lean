import Mathlib
import Scripting.Proofs.IntegerArithmetic
import Scripting.Proofs.LiteralGaps
import Scripting.Proofs.PlainData

namespace Scripting

/-!
Plain data as tokens.

The text of a datum is split into tokens without regard to what it is part of: behind it stand
a comma, a closing bracket or the end of the text, and none of them goes on with a number, a
word or a string literal.  So the tokens of a list are those of its items with commas between.
An integer below zero makes two tokens, its sign and its magnitude.
-/

namespace Data

open Lexical (TokenKind)

/-- The tokens of an integer. -/
def signedKinds (value : Int64) : List TokenKind :=
  if value.toInt < 0 then [.symbol .minus, .int (-value)] else [.int value]

namespace Datum

mutual

/-- The tokens of a datum. -/
def kinds : Datum → List TokenKind
  | .nothing => [.identifier "None"]
  | .int value _ => signedKinds value
  | .text value _ => [.text value]
  | .list items =>
      .opening .square :: ([.symbol .comma].intercalate (kindsAll items) ++ [.closing .square])

def kindsAll : List Datum → List (List TokenKind)
  | [] => []
  | item :: rest => item.kinds :: kindsAll rest

end

end Datum
end Data

namespace Lexical

open Data (Datum signedKinds)

variable {scan : Scan} {rest after : List Char}

/-! ## What stands behind a datum -/

/-- The end of a text, a comma or a closing bracket. -/
def EndsItem (after : List Char) : Prop :=
  ∀ c ∈ after.head?, c = ',' ∨ c = ']'

theorem EndsItem.nil : EndsItem [] :=
  fun _ => nofun

theorem EndsItem.comma (rest : List Char) : EndsItem (',' :: rest) := by
  intro c first
  cases first
  exact Or.inl rfl

theorem EndsItem.closing (rest : List Char) : EndsItem (']' :: rest) := by
  intro c first
  cases first
  exact Or.inr rfl

theorem EndsItem.cases (ends : EndsItem after) :
    after = [] ∨ ∃ c rest, after = c :: rest ∧ (c = ',' ∨ c = ']') := by
  cases after with
  | nil => exact Or.inl rfl
  | cons c rest => exact Or.inr ⟨c, rest, rfl, ends c rfl⟩

/-- The end of a text, a blank or the end of an item, none of which goes on with a word. -/
def EndsWord (after : List Char) : Prop :=
  ∀ c ∈ after.head?, c = ' ' ∨ c = ',' ∨ c = ']'

theorem EndsItem.endsWord (ends : EndsItem after) : EndsWord after :=
  fun c first => Or.inr (ends c first)

theorem EndsWord.cases (ends : EndsWord after) :
    after = [] ∨ ∃ c rest, after = c :: rest ∧ (c = ' ' ∨ c = ',' ∨ c = ']') := by
  cases after with
  | nil => exact Or.inl rfl
  | cons c rest => exact Or.inr ⟨c, rest, rfl, ends c rfl⟩

/-- Nothing that stops at these marks takes characters from behind a word. -/
theorem EndsWord.takeWhile_append {property : Char → Bool} {piece : List Char}
    (ends : EndsWord after) (all : ∀ c ∈ piece, property c = true)
    (blank : property ' ' = false) (comma : property ',' = false)
    (closing : property ']' = false) : (piece ++ after).takeWhile property = piece := by
  rw [List.takeWhile_append_of_pos all]
  rcases ends.cases with rfl | ⟨c, rest, rfl, rfl | rfl | rfl⟩
  · rw [List.takeWhile_nil, List.append_nil]
  · rw [List.takeWhile_cons_of_neg (by simp [blank]), List.append_nil]
  · rw [List.takeWhile_cons_of_neg (by simp [comma]), List.append_nil]
  · rw [List.takeWhile_cons_of_neg (by simp [closing]), List.append_nil]

/-- The end of a word, or the letter of a power of ten. -/
def EndsDigits (after : List Char) : Prop :=
  ∀ c ∈ after.head?, c = ' ' ∨ c = ',' ∨ c = ']' ∨ c = 'e'

theorem EndsWord.endsDigits (ends : EndsWord after) : EndsDigits after := by
  intro c first
  have marks := ends c first
  tauto

theorem EndsDigits.power (rest : List Char) : EndsDigits ('e' :: rest) := by
  intro c first
  cases first
  exact Or.inr (Or.inr (Or.inr rfl))

theorem EndsDigits.cases (ends : EndsDigits after) :
    after = [] ∨ ∃ c rest, after = c :: rest ∧ (c = ' ' ∨ c = ',' ∨ c = ']' ∨ c = 'e') := by
  cases after with
  | nil => exact Or.inl rfl
  | cons c rest => exact Or.inr ⟨c, rest, rfl, ends c rfl⟩

/-! ## Pieces by their first character -/

/-- Trivia and string literals do not start with the character. -/
def Bare (c : Char) : Prop :=
  isInlineBlank c = false ∧ ¬ (c = '\n' ∨ c = ';') ∧ c ≠ '\\' ∧ c ≠ '#' ∧ c ≠ '/' ∧
    (closingQuote? c).isSome = false

instance (c : Char) : Decidable (Bare c) :=
  inferInstanceAs (Decidable (_ ∧ _))

theorem readPiece_bare {c : Char} (switches : Switches) (bare : Bare c) (rest : List Char) :
    readPiece switches c (c :: rest) =
      if c.isDigit then readNumber switches.exponent (c :: rest)
      else if Text.isIdentifierStart c then .ok [readWord (c :: rest)]
      else readMark c (c :: rest) := by
  rcases bare with ⟨blank, line, backslash, hash, slash, quote⟩
  unfold readPiece
  rw [continuationLength_of_ne backslash, opensComment_of_ne slash, blank, quote, if_neg line,
    if_neg hash]
  rfl

theorem bare_of_digit {c : Char} (digit : c.isDigit = true) : Bare c := by
  have other : ∀ d : Char, d.isDigit = false → c ≠ d := by
    rintro d no rfl
    rw [no] at digit
    cases digit
  have quote : closingQuote? c = none := by
    simp [closingQuote?, other '"' (by decide), other '\'' (by decide), other '«' (by decide)]
  refine ⟨?_, ?_, other _ (by decide), other _ (by decide), other _ (by decide), ?_⟩
  · simp [isInlineBlank, other ' ' (by decide), other '\t' (by decide), other '\r' (by decide)]
  · simp [other '\n' (by decide), other ';' (by decide)]
  · rw [quote]
    rfl

/-! ## Stretches of a text -/

/-- The scan passes the stretch of text and makes tokens of these kinds from it. -/
def Scan.PassesAs (scan : Scan) (piece : List Char) (kinds : List TokenKind) : Prop :=
  ∃ tokens : List Token, tokens.map Token.kind = kinds ∧
    scan.outcome = (scan.beyond piece tokens).outcome

theorem Scan.PassesAs.nil (scan : Scan) : scan.PassesAs [] [] :=
  ⟨[], rfl, by rw [scan.beyond_nil]⟩

theorem Scan.PassesAs.append {piece more : List Char} {kinds others : List TokenKind}
    (first : scan.PassesAs piece kinds)
    (second : ∀ tokens, (scan.beyond piece tokens).PassesAs more others) :
    scan.PassesAs (piece ++ more) (kinds ++ others) := by
  rcases first with ⟨tokens, rfl, onward⟩
  rcases second tokens with ⟨added, rfl, further⟩
  exact ⟨tokens ++ added, List.map_append, by rw [onward, further, Scan.beyond_beyond]⟩

/-- The token that the scan makes of the stretch of text before it. -/
def Scan.token (scan : Scan) (piece : List Char) (kind : TokenKind) : Token :=
  ⟨kind, ⟨scan.position, scan.position.after piece⟩⟩

theorem Scan.PassesAs.of_emit {piece : List Char} {kind : TokenKind}
    (split : scan.rest = piece ++ rest) (stepped : scan.step = .ok (scan.emit kind piece.length)) :
    scan.PassesAs piece [kind] := by
  refine ⟨[scan.token piece kind], rfl, ?_⟩
  rw [Scan.outcome_of_step stepped, Scan.emit_eq_beyond split]
  rfl

/-- A token that is no bracket is passed. -/
theorem Scan.PassesAs.token {c : Char} {piece : List Char} {kind : TokenKind}
    (split : scan.rest = c :: (piece ++ rest)) (other : c ≠ '@')
    (covers : scan.cover ⟨some kind, (c :: piece).length⟩ =
      .ok (scan.emit kind (c :: piece).length))
    (read : readPiece scan.switches c scan.rest = .ok [⟨some kind, (c :: piece).length⟩]) :
    scan.PassesAs (c :: piece) [kind] :=
  .of_emit split ((Scan.step_of_part split other read).trans covers)

/-- The text makes tokens of these kinds wherever a datum may stand. -/
def Makes (written : List Char) (kinds : List TokenKind) : Prop :=
  ∀ (scan : Scan) (after : List Char), scan.switches = {} → EndsItem after →
    scan.rest = written ++ after → scan.PassesAs written kinds

/-! ## Words and numbers -/

theorem none_makes : Makes "None".toList [.identifier "None"] := by
  intro scan after defaults ends split
  have word : wordAt scan.rest = "None".toList := by
    rw [split]
    exact ends.endsWord.takeWhile_append (List.all_eq_true.mp rfl) (by decide) (by decide)
      (by decide)
  have read : readPiece scan.switches 'N' scan.rest = .ok [⟨some (.identifier "None"), 4⟩] := by
    have piece : readWord scan.rest = ⟨some (.identifier "None"), 4⟩ := by
      unfold readWord
      simp only [word]
      rfl
    rw [split] at piece ⊢
    change readPiece scan.switches 'N' ('N' :: _) = _
    rw [readPiece_bare _ (by decide), if_neg (by decide), if_pos (by decide)]
    exact congrArg (fun part => Except.ok [part]) piece
  exact .token split (by decide) rfl read

/-- The value of decimal digits. -/
theorem textValue_toDigits (n : Nat) : Number.textValue 10 (Nat.toDigits 10 n) = n := by
  have digits : ∀ c ∈ Nat.toDigits 10 n, (Number.digit? c).getD 0 = c.toNat - '0'.toNat := by
    intro c member
    have decimal := Nat.isDigit_of_mem_toDigits (by decide) (by decide) member
    simp only [Char.isDigit, Bool.and_eq_true, decide_eq_true_eq] at decimal
    have range : '0' ≤ c ∧ c ≤ '9' := decimal
    rw [Number.digit?, if_pos range]
    rfl
  have value := Nat.ofDigitChars_toDigits (b := 10) (n := n) (by decide) (by decide)
  rw [Number.textValue, List.map_congr_left digits, Number.digitsValue, List.foldl_map]
  exact value

theorem isDigitOf_toDigits {n : Nat} {c : Char} (member : c ∈ Nat.toDigits 10 n) :
    Number.isDigitOf 10 c = true :=
  isDigitOf_ten_iff.mpr (Nat.isDigit_of_mem_toDigits (by decide) (by decide) member)

/-- Decimal digits do not announce another base. -/
theorem literalBase?_of_digits {digits : List Char} (ends : EndsDigits after)
    (decimal : ∀ c ∈ digits, Number.isDigitOf 10 c = true) (some : digits ≠ []) :
    literalBase? (digits ++ after) = none := by
  cases found : literalBase? (digits ++ after) with
  | none => rfl
  | some base =>
      rcases literalBase?_split found with ⟨letter, behind, split, announced⟩
      have letters : letter ∈ ['x', 'X', 'o', 'O', 'b', 'B'] := by
        simp only [literalBase?] at announced
        split_ifs at announced <;> simp only [List.mem_cons] <;> tauto
      have other : Number.isDigitOf 10 letter = true ∨ letter = ' ' ∨ letter = ',' ∨
          letter = ']' ∨ letter = 'e' := by
        rcases digits with _ | ⟨first, _ | ⟨second, digits⟩⟩
        · exact absurd rfl some
        · cases split
          exact Or.inr (ends letter rfl)
        · cases split
          exact Or.inl (decimal _ (List.mem_cons_of_mem _ List.mem_cons_self))
      refine absurd other ?_
      fin_cases letters <;> decide

theorem digitRun_of_digits {digits : List Char} (ends : EndsDigits after)
    (decimal : ∀ c ∈ digits, Number.isDigitOf 10 c = true) :
    digitRun 10 (digits ++ after) = digits := by
  unfold digitRun
  rw [List.takeWhile_append_of_pos fun c member => by rw [decimal c member, Bool.or_true]]
  rcases ends.cases with rfl | ⟨c, rest, rfl, rfl | rfl | rfl | rfl⟩
  all_goals exact List.append_nil _

theorem readDecimal_of_digits {n : Nat} {value : Int64} (same : value.toInt = n)
    (ends : EndsDigits after) : readDecimal (Nat.toDigits 10 n ++ after) =
      .ok ⟨some (.int value), (Nat.toDigits 10 n).length⟩ := by
  have run : digitRun 10 (Nat.toDigits 10 n ++ after) = Nat.toDigits 10 n :=
    digitRun_of_digits ends fun _ => isDigitOf_toDigits
  have plain : digitsOf (Nat.toDigits 10 n) = Nat.toDigits 10 n := by
    refine List.filter_eq_self.mpr fun c member => decide_eq_true ?_
    rintro rfl
    exact absurd (isDigitOf_toDigits member) (by decide)
  have whole : integerPart 10 (digitsOf (Nat.toDigits 10 n)) (Nat.toDigits 10 n).length =
      .ok ⟨some (.int value), (Nat.toDigits 10 n).length⟩ := by
    have fits := Number.fit?_toInt value
    rw [same] at fits
    rw [plain, integerPart, textValue_toDigits]
    simp only [Int.ofNat_eq_natCast, fits, Option.elim_some]
  unfold readDecimal
  simp only [run, List.drop_left]
  rcases ends.cases with rfl | ⟨c, rest, rfl, rfl | rfl | rfl | rfl⟩
  all_goals exact whole

theorem readNumber_of_digits {n : Nat} {value : Int64} (powers : Bool) (same : value.toInt = n)
    (ends : EndsWord after) : readNumber powers (Nat.toDigits 10 n ++ after) =
      .ok [⟨some (.int value), (Nat.toDigits 10 n).length⟩] := by
  have power : readPowerOfTen after = .ok [] := by
    rcases ends.cases with rfl | ⟨c, rest, rfl, rfl | rfl | rfl⟩
    · rfl
    · rfl
    · rfl
    · rfl
  have base : literalBase? (Nat.toDigits 10 n ++ after) = none :=
    literalBase?_of_digits ends.endsDigits (fun _ => isDigitOf_toDigits) Nat.toDigits_ne_nil
  unfold readNumber
  simp only [base, readDecimal_of_digits same ends.endsDigits, List.drop_left, power, ite_self]

/-- The digits of a number at the head of a text are one piece. -/
theorem readPiece_of_digits {n : Nat} {value : Int64} (switches : Switches)
    (same : value.toInt = n) (ends : EndsWord after) :
    ∃ c others, Nat.toDigits 10 n = c :: others ∧ c ≠ '@' ∧
      readPiece switches c (Nat.toDigits 10 n ++ after) =
        .ok [⟨some (.int value), (Nat.toDigits 10 n).length⟩] := by
  have read := readNumber_of_digits switches.exponent same ends
  have digit := fun c (member : c ∈ Nat.toDigits 10 n) => isDigitOf_toDigits member
  rcases digits : Nat.toDigits 10 n with _ | ⟨c, others⟩
  · exact absurd digits Nat.toDigits_ne_nil
  rw [digits] at read digit
  have decimal := isDigitOf_ten_iff.mp (digit c List.mem_cons_self)
  refine ⟨c, others, rfl, ?_, ?_⟩
  · rintro rfl
    exact absurd decimal (by decide)
  · rw [List.cons_append, readPiece_bare _ (bare_of_digit decimal), if_pos decimal]
    exact read

theorem digits_make {n : Nat} {value : Int64} (same : value.toInt = n) :
    Makes (Nat.toDigits 10 n) [.int value] := by
  intro scan after defaults ends split
  rcases readPiece_of_digits scan.switches same ends.endsWord with
    ⟨c, others, digits, other, read⟩
  rw [← split, digits] at read
  rw [digits] at split ⊢
  exact .token split other rfl read

/-- A minus sign that no digit can be part of. -/
theorem minus_passes {d : Char} (split : scan.rest = '-' :: d :: rest) (digit : d.isDigit = true) :
    scan.PassesAs ['-'] [.symbol .minus] := by
  have arrow : ('>' == d) = false := by
    rw [beq_eq_false_iff_ne]
    rintro rfl
    cases digit
  have assign : ('=' == d) = false := by
    rw [beq_eq_false_iff_ne]
    rintro rfl
    cases digit
  have symbol : Symbol.read? ('-' :: d :: rest) = some .minus := by
    simp [Symbol.read?, Symbol.all, Symbol.spelling, List.isPrefixOf, arrow, assign]
  have read : readPiece scan.switches '-' scan.rest = .ok [⟨some (.symbol .minus), 1⟩] := by
    rw [split, readPiece_bare _ (by decide), if_neg (by decide), if_neg (by decide), readMark]
    simp only [symbol]
    rfl
  exact .token split (by decide) rfl read

theorem comma_passes (split : scan.rest = ',' :: ' ' :: rest) :
    scan.PassesAs [',', ' '] [.symbol .comma] := by
  have read : readPiece scan.switches ',' scan.rest = .ok [⟨some (.symbol .comma), 1⟩] := by
    rw [split, readPiece_bare _ (by decide), if_neg (by decide), if_neg (by decide)]
    rfl
  have mark : scan.PassesAs [','] [.symbol .comma] := .token split (by decide) rfl read
  refine mark.append fun tokens => ⟨[], rfl, ?_⟩
  exact Scan.outcome_of_step (Scan.step_of_blank rfl (Scan.rest_beyond split tokens))

/-! ## Texts -/

/-- A character that is not shown by its code point stands for itself or has an escape. -/
theorem quotedChar_cases {c : Char} (visible : Text.quotedChar c ≠ Text.codePointEscape c) :
    (∃ letter, Text.quotedChar c = ['\\', letter] ∧ simpleEscape? letter = some c) ∨
      (Text.quotedChar c = [c] ∧ c ≠ '"' ∧ c ≠ '\\') := by
  unfold Text.quotedChar at visible ⊢
  split_ifs at visible ⊢ with null tab carriage feed quote backslash printable
  · exact Or.inl ⟨'0', rfl, null ▸ rfl⟩
  · exact Or.inl ⟨'t', rfl, tab ▸ rfl⟩
  · exact Or.inl ⟨'r', rfl, carriage ▸ rfl⟩
  · exact Or.inl ⟨'n', rfl, feed ▸ rfl⟩
  · exact Or.inl ⟨'"', rfl, by rw [quote]; decide⟩
  · exact Or.inl ⟨'\\', rfl, by rw [backslash]; decide⟩
  · exact Or.inr ⟨rfl, quote, backslash⟩
  · exact absurd rfl visible

theorem quoted_body {text : List Char}
    (visible : ∀ c ∈ text, Text.quotedChar c ≠ Text.codePointEscape c) :
    Body true '"' (text.flatMap Text.quotedChar) text := by
  induction text with
  | nil => exact .done
  | cons c text ih =>
      have later := ih fun d member => visible d (List.mem_cons_of_mem _ member)
      rw [List.flatMap_cons]
      rcases quotedChar_cases (visible c List.mem_cons_self) with
        ⟨letter, written, known⟩ | ⟨written, inside, literal⟩
      · rw [written]
        exact .escape rfl (.simple known) later
      · rw [written]
        exact .plain inside (fun both => literal both.1) later

/-- No string literal follows, so none is joined to one before. -/
theorem EndsItem.alone (ends : EndsItem after) :
    opensLiteral (after.drop (triviaLength after)) = false := by
  rcases ends.cases with rfl | ⟨c, rest, rfl, rfl | rfl⟩
  · rfl
  · rfl
  · rfl

theorem quoted_makes {text : String}
    (visible : ∀ c ∈ text.toList, Text.quotedChar c ≠ Text.codePointEscape c) :
    Makes (Text.quoted text).toList [.text text] := by
  intro scan after defaults ends split
  have literal : readLiteral true ((Text.quoted text).toList ++ after) =
      .ok (text.toList, (Text.quoted text).toList.length) := by
    have quotes : closingQuote? '"' = some '"' := rfl
    have read := readLiteral_append quotes (quoted_body visible) after
    simp only [Text.quoted, String.toList_ofList, List.cons_append, List.append_assoc,
      List.length_cons, List.length_append, List.length_nil] at read ⊢
    exact read
  have opens : opensLiteral scan.rest = true := by
    rw [split, Text.quoted, String.toList_ofList]
    rfl
  have read : scan.literals = .ok (text.toList, (Text.quoted text).toList.length) := by
    rw [Scan.literals, defaults, if_pos rfl, split]
    exact readChain_alone literal ends.alone
  have stepped := Scan.step_of_literal opens read
  rw [String.ofList_toList] at stepped
  exact .of_emit split stepped

/-! ## Signs -/

theorem writeInt_natural {value : Int64} {n : Nat} (same : value.toInt = n) :
    (Number.writeInt value).toList = Nat.toDigits 10 n := by
  rw [Number.writeInt, same]
  exact String.toList_ofList

theorem writeInt_negative {value : Int64} {n : Nat} (same : value.toInt = Int.negSucc n) :
    (Number.writeInt value).toList = '-' :: Nat.toDigits 10 (n + 1) := by
  rw [Number.writeInt, same]
  change ("-" ++ String.ofList (Nat.toDigits 10 (n + 1))).toList = _
  simp only [String.toList_append, String.toList_ofList]
  rfl

theorem natural_makes {value : Int64} {n : Nat} (same : value.toInt = n) :
    Makes (Number.writeInt value).toList (signedKinds value) := by
  rw [writeInt_natural same, signedKinds, same, if_neg (Int.not_lt.mpr (Int.natCast_nonneg n))]
  exact digits_make same

theorem negative_makes {value : Int64} {n : Nat} (same : value.toInt = Int.negSucc n)
    (negatable : value ≠ Int64.minValue) :
    Makes (Number.writeInt value).toList (signedKinds value) := by
  have magnitude : (-value).toInt = (n + 1 : Nat) := by
    rw [Number.toInt_neg_of_ne_least negatable, same]
    rfl
  rw [writeInt_negative same, signedKinds, same, if_pos (Int.negSucc_lt_zero n)]
  intro scan after defaults ends split
  have sign : scan.PassesAs ['-'] [.symbol .minus] := by
    have digit := fun c (member : c ∈ Nat.toDigits 10 (n + 1)) => isDigitOf_toDigits member
    rcases digits : Nat.toDigits 10 (n + 1) with _ | ⟨c, others⟩
    · exact absurd digits Nat.toDigits_ne_nil
    rw [digits] at split digit
    exact minus_passes split (isDigitOf_ten_iff.mp (digit c List.mem_cons_self))
  have whole : scan.rest = ['-'] ++ (Nat.toDigits 10 (n + 1) ++ after) := split
  refine sign.append fun tokens => ?_
  exact digits_make magnitude _ after defaults ends (Scan.rest_beyond whole tokens)

theorem writeInt_makes {value : Int64} (negatable : value ≠ Int64.minValue) :
    Makes (Number.writeInt value).toList (signedKinds value) := by
  rcases same : value.toInt with n | n
  · exact natural_makes same
  · exact negative_makes same negatable

/-! ## Lists -/

theorem items_make {items : List Datum} (each : ∀ item ∈ items, Makes item.written item.kinds) :
    Makes ([',', ' '].intercalate (Datum.writtenAll items))
      ([.symbol .comma].intercalate (Datum.kindsAll items)) := by
  induction items with
  | nil => exact fun scan _ _ _ _ => .nil scan
  | cons item items ih =>
      have first := each item List.mem_cons_self
      have others := ih fun other member => each other (List.mem_cons_of_mem _ member)
      intro scan after defaults ends split
      cases items with
      | nil =>
          simp only [Datum.writtenAll, Datum.kindsAll, List.intercalate_singleton] at split ⊢
          exact first scan after defaults ends split
      | cons next items =>
          simp only [Datum.writtenAll, Datum.kindsAll, List.intercalate_cons_cons,
            List.append_assoc] at split others ⊢
          refine (first scan _ defaults (.comma _) split).append fun tokens => ?_
          have behind := Scan.rest_beyond split tokens
          refine (comma_passes behind).append fun added => ?_
          exact others _ after defaults ends (Scan.rest_beyond behind added)

theorem Scan.outcome_opening (split : scan.rest = ['['] ++ rest) :
    scan.outcome =
      { scan.beyond ['['] [scan.token ['['] (.opening .square)] with
        brackets := (.square, scan.position) :: scan.brackets }.outcome := by
  have opens : readPiece scan.switches '[' scan.rest = .ok [⟨some (.opening .square), 1⟩] := by
    rw [split, List.singleton_append, readPiece_bare _ (by decide), if_neg (by decide),
      if_neg (by decide)]
    rfl
  have emitted := Scan.emit_eq_beyond split (.opening .square)
  apply Scan.outcome_of_step
  rw [Scan.step_of_part split (by decide) opens]
  exact congrArg (fun after : Scan => Except.ok
    { after with brackets := (.square, scan.position) :: scan.brackets }) emitted

theorem Scan.outcome_closing {position : Source.Position}
    {outer : List (Bracket × Source.Position)} (split : scan.rest = [']'] ++ rest)
    (opened : scan.brackets = (.square, position) :: outer) :
    scan.outcome =
      { scan.beyond [']'] [scan.token [']'] (.closing .square)] with
        brackets := outer }.outcome := by
  have closes : readPiece scan.switches ']' scan.rest = .ok [⟨some (.closing .square), 1⟩] := by
    rw [split, List.singleton_append, readPiece_bare _ (by decide), if_neg (by decide),
      if_neg (by decide)]
    rfl
  have emitted := Scan.emit_eq_beyond split (.closing .square)
  apply Scan.outcome_of_step
  rw [Scan.step_of_part split (by decide) closes]
  simp only [Scan.cover, opened, if_true]
  exact congrArg (fun after : Scan => Except.ok { after with brackets := outer }) emitted

/-- A list is passed when its items are, since its brackets belong together. -/
theorem bracketed_make {written : List Char} {kinds : List TokenKind}
    (inner : Makes written kinds) :
    Makes ('[' :: (written ++ [']'])) (.opening .square :: (kinds ++ [.closing .square])) := by
  intro scan after defaults ends split
  have whole : scan.rest = ['['] ++ (written ++ ([']'] ++ after)) := by
    simpa using split
  let first := scan.token ['['] (.opening .square)
  let entered : Scan :=
    { scan.beyond ['['] [first] with brackets := (.square, scan.position) :: scan.brackets }
  have inside : entered.rest = written ++ ([']'] ++ after) := Scan.rest_beyond whole [first]
  rcases inner entered _ defaults (.closing after) inside with ⟨tokens, rfl, onward⟩
  let reached := entered.beyond written tokens
  have behind : reached.rest = [']'] ++ after := Scan.rest_beyond inside tokens
  let last := reached.token [']'] (.closing .square)
  have restored : { reached.beyond [']'] [last] with brackets := scan.brackets } =
      ((scan.beyond ['['] [first]).beyond written tokens).beyond [']'] [last] := rfl
  refine ⟨first :: (tokens ++ [last]), by simp [first, last, Scan.token], ?_⟩
  rw [Scan.outcome_opening whole, onward, Scan.outcome_closing behind rfl, restored,
    Scan.beyond_beyond, Scan.beyond_beyond]
  rfl

/-- The text of a datum makes its tokens. -/
theorem datum_makes (datum : Datum) : Makes datum.written datum.kinds := by
  induction datum with
  | nothing => exact none_makes
  | int value negatable => exact writeInt_makes negatable
  | text value visible => exact quoted_makes visible
  | list items ih => exact bracketed_make (items_make ih)

end Lexical
end Scripting
