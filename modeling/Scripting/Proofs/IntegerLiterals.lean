import Scripting.Proofs.Numerals
import Scripting.Proofs.ParserSoundness
import Scripting.Proofs.PowersOfTen

namespace Scripting

/-!
Integer literals stand for what they say.

A literal is a numeral in base ten, or in another base that a prefix announces, with
underscores among its digits.  Read as a text of its own it makes one token of the number
it stands for if that is in range, and the whole literal is complained about if it is not.

No literal stands for a negative number.  So every integer token is natural, wherever it was
read, and the power of ten after a number can be negated without leaving the range.
-/

namespace Lexical

variable {switches : Switches} {scan next last : Scan} {rest digits run text : List Char}
  {value base : Nat}

/-! ## Literals -/

/-- Digits with any underscores among them and behind them. -/
inductive Separated : List Char → List Char → Prop
  | nothing : Separated [] []
  | digit {c : Char} {run digits : List Char} (later : Separated run digits) :
      Separated (c :: run) (c :: digits)
  | underscore {run digits : List Char} (later : Separated run digits) :
      Separated ('_' :: run) digits

/-- The letters that announce a base other than ten. -/
def baseLetters : List (Char × Nat) :=
  [('x', 16), ('X', 16), ('o', 8), ('O', 8), ('b', 2), ('B', 2)]

/-- An integer literal and the number it stands for. -/
inductive IntegerLiteral : List Char → Nat → Prop
  | decimal {first : Char} {digits run : List Char} {value : Nat}
      (numeral : Number.Numeral 10 (first :: digits) value) (separated : Separated run digits) :
      IntegerLiteral (first :: run) value
  | announced {letter : Char} {base : Nat} {digits run : List Char} {value : Nat}
      (announces : (letter, base) ∈ baseLetters) (numeral : Number.Numeral base digits value)
      (some : digits ≠ []) (separated : Separated run digits) :
      IntegerLiteral ('0' :: letter :: run) value

theorem ne_underscore_of_isDigitOf {c : Char} (digit : Number.isDigitOf base c = true) :
    c ≠ '_' := by
  rintro rfl
  cases digit

theorem Separated.isRun (separated : Separated run digits)
    (all : ∀ c ∈ digits, Number.isDigitOf base c = true) : IsRun base run := by
  induction separated with
  | nothing => exact List.forall_mem_nil _
  | digit _ ih =>
      rcases List.forall_mem_cons.mp all with ⟨first, later⟩
      exact List.forall_mem_cons.mpr ⟨Or.inr first, ih later⟩
  | underscore _ ih => exact List.forall_mem_cons.mpr ⟨Or.inl rfl, ih all⟩

theorem Separated.digitsOf_eq (separated : Separated run digits)
    (all : ∀ c ∈ digits, Number.isDigitOf base c = true) : digitsOf run = digits := by
  induction separated with
  | nothing => rfl
  | digit _ ih =>
      rcases List.forall_mem_cons.mp all with ⟨first, later⟩
      have rest := ih later
      unfold digitsOf at rest ⊢
      rw [List.filter_cons_of_pos (by simpa using ne_underscore_of_isDigitOf first), rest]
  | underscore _ ih =>
      have rest := ih all
      unfold digitsOf at rest ⊢
      rw [List.filter_cons_of_neg (by simp), rest]

theorem separated_digitsOf (run : List Char) : Separated run (digitsOf run) := by
  induction run with
  | nil => exact .nothing
  | cons c run ih =>
      unfold digitsOf at ih ⊢
      by_cases same : c = '_'
      · subst same
        rw [List.filter_cons_of_neg (by simp)]
        exact .underscore ih
      · rw [List.filter_cons_of_pos (by simpa using same)]
        exact .digit ih

theorem separated_refl (digits : List Char) : Separated digits digits := by
  induction digits with
  | nil => exact .nothing
  | cons c digits ih => exact .digit ih

theorem exists_integerLiteral (value : Nat) : ∃ text, IntegerLiteral text value := by
  have two : 2 ≤ 10 := by decide
  rcases Number.exists_numeral two value with ⟨digits, some, numeral⟩
  rcases digits with _ | ⟨first, digits⟩
  · exact absurd rfl some
  · exact ⟨first :: digits, .decimal numeral (separated_refl digits)⟩

theorem IsRun.digitRun_eq (isRun : IsRun base run) : digitRun base run = run := by
  apply List.takeWhile_eq_self_iff.mpr
  intro c member
  simpa using isRun c member

theorem literalBase?_of_baseLetter {letter : Char} (announces : (letter, base) ∈ baseLetters)
    (rest : List Char) : literalBase? ('0' :: letter :: rest) = some base ∧ base ≤ 16 := by
  unfold baseLetters at announces
  fin_cases announces <;> exact ⟨rfl, by decide⟩

/-- Decimal digits and underscores do not announce another base. -/
theorem literalBase?_of_isRun {c : Char} (isRun : IsRun 10 run) :
    literalBase? (c :: run) = none := by
  cases found : literalBase? (c :: run) with
  | none => rfl
  | some base =>
      rcases literalBase?_split found with ⟨letter, behind, split, announced⟩
      cases split
      have part := isRun letter List.mem_cons_self
      have letters : letter ∈ ['x', 'X', 'o', 'O', 'b', 'B'] := by
        simp only [literalBase?] at announced
        split_ifs at announced <;> simp only [List.mem_cons] <;> tauto
      refine absurd part ?_
      fin_cases letters <;> decide

/-- The token of a literal that stands for a number, or the complaint about all of it. -/
def integerAnswer (value length : Nat) : Except Fault Part :=
  (Number.fit? (Int.ofNat value)).elim (.error ⟨.integerTooLarge, 0, length⟩) fun word =>
    .ok ⟨some (.int word), length⟩

theorem Numeral.integerPart_eq (numeral : Number.Numeral base digits value) (small : base ≤ 16)
    (length : Nat) : integerPart base digits length = integerAnswer value length := by
  unfold integerPart integerAnswer
  rw [numeral.textValue_eq small]

theorem readDecimal_literal {first : Char} (numeral : Number.Numeral 10 (first :: digits) value)
    (separated : Separated run digits) :
    readDecimal (first :: run) = integerAnswer value (first :: run).length := by
  have all := numeral.isDigitOf (by decide)
  have whole : Separated (first :: run) (first :: digits) := .digit separated
  unfold readDecimal
  simp only [(whole.isRun all).digitRun_eq, List.drop_length, whole.digitsOf_eq all]
  exact Numeral.integerPart_eq numeral (by decide) _

theorem readPrefixed_literal {letter : Char} (numeral : Number.Numeral base digits value)
    (small : base ≤ 16) (some : digits ≠ []) (separated : Separated run digits) :
    readPrefixed base ('0' :: letter :: run) =
      integerAnswer value ('0' :: letter :: run).length := by
  have all := numeral.isDigitOf small
  have length : 2 + run.length = ('0' :: letter :: run).length := Nat.add_comm _ _
  have filled : digits.isEmpty = false := List.isEmpty_eq_false_iff.mpr some
  have integer := Numeral.integerPart_eq numeral small ('0' :: letter :: run).length
  unfold readPrefixed
  simp only [List.drop_succ_cons, List.drop_zero, (separated.isRun all).digitRun_eq, length]
  rw [separated.digitsOf_eq all]
  generalize integerPart base digits ('0' :: letter :: run).length = answer at integer
  rw [List.drop_length, filled, if_neg Bool.false_ne_true, if_neg Bool.false_ne_true]
  exact integer

theorem length_of_integerAnswer {length : Nat} {part : Part}
    (answered : integerAnswer value length = .ok part) : part.length = length := by
  unfold integerAnswer at answered
  cases fits : Number.fit? (Int.ofNat value) with
  | none =>
      rw [fits] at answered
      cases answered
  | some word =>
      rw [fits] at answered
      cases answered
      rfl

/-- Behind a decimal literal that is all of the text, no power of ten follows. -/
theorem readNumber_of_decimal {answer : Except Fault Part} (base : literalBase? text = none)
    (decimal : readDecimal text = answer)
    (whole : ∀ part, answer = .ok part → part.length = text.length) (powers : Bool) :
    readNumber powers text = answer.map fun part => [part] := by
  unfold readNumber
  rw [base, decimal]
  cases answer with
  | error fault => rfl
  | ok part =>
      simp only [whole part rfl, List.drop_length]
      cases powers <;> rfl

theorem readNumber_of_prefixed {answer : Except Fault Part}
    (announced : literalBase? text = some base) (read : readPrefixed base text = answer)
    (powers : Bool) : readNumber powers text = answer.map fun part => [part] := by
  unfold readNumber
  rw [announced, ← read]

theorem IntegerLiteral.readNumber_eq (literal : IntegerLiteral text value) (powers : Bool) :
    readNumber powers text = (integerAnswer value text.length).map fun part => [part] := by
  cases literal with
  | @decimal first digits run value numeral separated =>
      have later : ∀ c ∈ digits, Number.isDigitOf 10 c = true := fun c member =>
        numeral.isDigitOf (by decide) c (List.mem_cons_of_mem first member)
      exact readNumber_of_decimal (literalBase?_of_isRun (separated.isRun later))
        (readDecimal_literal numeral separated) (fun _ => length_of_integerAnswer) powers
  | @announced letter base digits run value announces numeral some separated =>
      rcases literalBase?_of_baseLetter announces run with ⟨announced, small⟩
      exact readNumber_of_prefixed announced (readPrefixed_literal numeral small some separated)
        powers

theorem IntegerLiteral.starts (literal : IntegerLiteral text value) :
    ∃ c rest, text = c :: rest ∧ c.isDigit = true := by
  cases literal with
  | @decimal first digits run value numeral separated =>
      have digit := numeral.isDigitOf (by decide) first List.mem_cons_self
      exact ⟨first, run, rfl, isDigitOf_ten_iff.mp digit⟩
  | announced => exact ⟨'0', _, rfl, rfl⟩

/-- What the number a literal stands for is read as, if the text is the literal alone. -/
structure ReadsInteger (switches : Switches) (text : String) (value : Nat) : Prop where
  fits : value ≤ 9223372036854775807 → ∃ word : Int64, word.toInt = value ∧
    tokenize switches text = .ok ([⟨.int word, spanBehind [] text.toList⟩,
      ⟨.endOfFile, spanBehind text.toList []⟩], switches)
  tooLarge : 9223372036854775807 < value → ∃ error, tokenize switches text = .error error ∧
    error.cause.message = "integer literal is too large" ∧
    error.span = spanBehind [] text.toList

theorem IntegerLiteral.readsInteger {text : String} (literal : IntegerLiteral text.toList value)
    (switches : Switches) : ReadsInteger switches text value := by
  let start := Scan.start switches text.toList
  rcases literal.starts with ⟨c, rest, split, digit⟩
  have unread : start.rest = c :: rest := split
  have sign : c ≠ '@' := by
    rintro rfl
    cases digit
  have read : readPiece start.switches c start.rest =
      (integerAnswer value text.toList.length).map fun part => [part] := by
    rw [unread, readPiece_bare _ (bare_of_digit digit), if_pos digit, ← split]
    exact literal.readNumber_eq _
  unfold integerAnswer at read
  constructor
  · intro bound
    have inRange : Number.InRange (Int.ofNat value) := by
      unfold Number.InRange
      rw [Int.ofNat_eq_natCast]
      omega
    rcases Number.fit?_of_inRange inRange with ⟨word, fits, same⟩
    rw [fits] at read
    exact ⟨word, same, tokenize_single (Scan.step_of_part unread sign read)⟩
  · intro large
    have outside : Number.fit? (Int.ofNat value) = none := by
      apply Number.fit?_eq_none_iff.mpr
      rw [Int.ofNat_eq_natCast]
      omega
    rw [outside] at read
    have failed := Scan.step_of_fault unread sign read
    have started := Scan.hasRead_start switches text.toList
    refine ⟨_, tokenize_of_fault (.here start) failed, rfl, ?_⟩
    have span := @Scan.HasRead.span_fail start [] text.toList [] [] text.toList started
      (List.append_nil _).symm .integerTooLarge
    rw [List.length_nil, Nat.zero_add] at span
    exact span

/-- Every integer that is not negative can be written as a literal. -/
theorem exists_text_of_int (switches : Switches) {word : Int64} (natural : 0 ≤ word.toInt) :
    ∃ text : String, tokenize switches text =
      .ok ([⟨.int word, spanBehind [] text.toList⟩,
        ⟨.endOfFile, spanBehind text.toList []⟩], switches) := by
  rcases exists_integerLiteral word.toInt.toNat with ⟨text, literal⟩
  rw [← @String.toList_ofList text] at literal
  have bound : word.toInt.toNat ≤ 9223372036854775807 := by
    have below := word.toInt_lt
    omega
  rcases (literal.readsInteger switches).fits bound with ⟨found, same, read⟩
  rw [Int.toNat_of_nonneg natural, Int64.toInt_inj] at same
  subst same
  exact ⟨_, read⟩

/-! ## No token stands for a negative number -/

/-- A token that is no integer, or one of a natural number. -/
def TokenKind.Natural : TokenKind → Prop
  | .int value => 0 ≤ value.toInt
  | _ => True

theorem Spells.natural {lexeme : List Char} {kind : TokenKind} (spelt : Spells lexeme rest kind) :
    kind.Natural := by
  cases kind with
  | int word =>
      rcases spelt with ⟨base, run, -, -, same⟩
      change 0 ≤ word.toInt
      rw [same]
      exact Int.natCast_nonneg _
  | _ => trivial

theorem Covers.natural {parts : List Part} (covers : Covers parts rest) :
    ∀ kind ∈ parts.flatMap fun part => part.kind.toList, kind.Natural := by
  induction covers with
  | nothing => exact List.forall_mem_nil _
  | skip _ _ ih => exact ih
  | token spelt _ ih => exact List.forall_mem_cons.mpr ⟨spelt.natural, ih⟩

/-- All tokens that the scan has made are natural. -/
def Scan.Natural (scan : Scan) : Prop :=
  ∀ token ∈ scan.tokens.toList, token.kind.Natural

theorem Scan.Natural.step (natural : scan.Natural) (stepped : scan.step = .ok next) :
    next.Natural := by
  unfold Scan.Natural at natural ⊢
  rcases Scan.kinds_step stepped with ⟨parts, covers, made⟩
  rw [← List.forall_mem_map] at natural ⊢
  rw [made]
  exact List.forall_mem_append.mpr ⟨natural, covers.natural⟩

theorem Scan.Reaches.natural (reaches : scan.Reaches last) (natural : scan.Natural) :
    last.Natural := by
  induction reaches with
  | here => exact natural
  | step _ stepped _ ih => exact ih (natural.step stepped)

theorem natural_start (switches : Switches) (text : List Char) :
    (Scan.start switches text).Natural :=
  fun _ none => absurd none List.not_mem_nil

/-- The tokens of a text are those that the last scan has made, and the end of the file. -/
theorem natural_of_tokenize {text : String} {tokens : List Token} {after : Switches}
    (read : tokenize switches text = .ok (tokens, after)) :
    ∀ token ∈ tokens, token.kind.Natural := by
  have ends := (Scan.start switches text.toList).ends_outcome
  rw [tokenize_eq] at read
  unfold Scan.result at read
  generalize (Scan.start switches text.toList).outcome = outcome at ends read
  cases ends with
  | failed reaches unread failed => cases read
  | @done last reaches done =>
      have natural := reaches.natural (natural_start switches text.toList)
      unfold Except.bind Scan.finish at read
      simp only at read
      split at read
      · cases read
      · cases read
        intro token member
        rcases List.mem_append.mp member with earlier | final
        · exact natural token earlier
        · rw [List.mem_singleton.mp final]
          trivial

end Lexical

/-! ## Powers of ten -/

namespace Grammar

open Lexical (Switches TokenKind tokenize)
open Program (Literal)
open Source (Span)

/-- The tokens of a power of ten, and the power that is meant. -/
inductive SignedPower : List TokenKind → Int → Prop
  | plain (digits : Int64) : SignedPower [.int digits] digits.toInt
  | plus (digits : Int64) : SignedPower [.symbol .plus, .int digits] digits.toInt
  | minus (digits : Int64) : SignedPower [.symbol .minus, .int digits] (-digits.toInt)

/-- A number alone, or with a power of ten that is exactly the one meant. -/
inductive ScaledExactly (value : Literal) (span : Span) : List TokenKind → Program.Node → Prop
  | alone : ScaledExactly value span [] ⟨span, .number value⟩
  | power {signed : List TokenKind} {meant : Int} {power : Int64} {exponentSpan : Span}
      (written : SignedPower signed meant) (exact : power.toInt = meant) :
      ScaledExactly value span (.exponent :: signed)
        (binaryNode .scale ⟨span, .number value⟩ ⟨exponentSpan, .number (.int power)⟩)

theorem toInt_neg_of_natural {digits : Int64} (natural : (TokenKind.int digits).Natural) :
    (-digits).toInt = -digits.toInt := by
  apply Number.toInt_neg_of_ne_least
  rintro rfl
  exact absurd natural (by decide : ¬ 0 ≤ Int64.minValue.toInt)

/-- The digits of an exponent that are natural have a negation. -/
theorem fits_of_natural {signed : List TokenKind} (natural : ∀ kind ∈ signed, kind.Natural) :
    signed ≠ [.symbol .minus, .int Int64.minValue] := by
  rintro rfl
  exact absurd (natural (.int Int64.minValue) (by simp)) (by decide : ¬ 0 ≤ Int64.minValue.toInt)

theorem Exponent.signedPower {signed : List TokenKind} {power : Int64}
    (exponent : Exponent signed power) (natural : ∀ kind ∈ signed, kind.Natural) :
    SignedPower signed power.toInt := by
  cases exponent with
  | plain => exact .plain power
  | plus => exact .plus power
  | @minus digits =>
      rw [toInt_neg_of_natural (natural (.int digits) (by simp))]
      exact .minus digits

theorem SignedPower.exponent {signed : List TokenKind} {meant : Int}
    (written : SignedPower signed meant) (natural : ∀ kind ∈ signed, kind.Natural) :
    ∃ power, Exponent signed power ∧ power.toInt = meant := by
  cases written with
  | plain digits => exact ⟨digits, .plain, rfl⟩
  | plus digits => exact ⟨digits, .plus, rfl⟩
  | minus digits =>
      exact ⟨-digits, .minus, toInt_neg_of_natural (natural (.int digits) (by simp))⟩

section Readers

variable {place : Place} {value : Literal} {span : Span} {signed rest : List TokenKind}
  {power : Int64}

theorem number_scales_exactly (natural : ∀ kind ∈ place.kinds, kind.Natural) :
    Yields place (number value span) (ScaledExactly value span) := by
  intro ends node next read
  rcases number_scales ends node next read with ⟨passed, split, alone | power⟩
  · rcases alone with ⟨rfl, rfl⟩
    exact ⟨[], split, .alone⟩
  · rcases power with ⟨signed, power, exponentSpan, rfl, exponent, rfl⟩
    refine ⟨_, split, .power (exponent.signedPower fun kind member => ?_) rfl⟩
    apply natural
    rw [split]
    exact List.mem_append_left _ (List.mem_cons_of_mem _ member)

theorem number_reads_power {meant : Int} (natural : ∀ kind ∈ place.kinds, kind.Natural)
    (written : SignedPower signed meant) (stands : place.kinds = .exponent :: (signed ++ rest))
    (some : rest ≠ []) : Gives place (number value span) fun node next =>
      next.kinds = rest ∧ ScaledExactly value span (.exponent :: signed) node := by
  have naturalSigned : ∀ kind ∈ signed, kind.Natural := by
    intro kind member
    apply natural
    rw [stands]
    exact List.mem_cons_of_mem _ (List.mem_append_left _ member)
  rcases written.exponent naturalSigned with ⟨power, exponent, exact⟩
  rcases number_gives exponent (fits_of_natural naturalSigned) stands some with ⟨node, next, read, left, exponentSpan, rfl⟩
  exact ⟨_, next, read, left, .power written exact⟩

end Readers

/--
Integer literals stand for what they say.  A text that is a literal is read as one token of its
number, or complained about as a whole if the number is out of range.  Every integer token that
is made of any text is natural, and so a power of ten after a number is read, and read as
exactly the power that is written, also behind a minus sign.
-/
theorem integer_literals_exact (switches : Switches) (text : String) :
    (∀ value, Lexical.IntegerLiteral text.toList value →
      Lexical.ReadsInteger switches text value) ∧
    (∀ scan : Lexical.Scan, (Lexical.Scan.start switches text.toList).Reaches scan →
      ∀ token ∈ scan.tokens.toList, token.kind.Natural) ∧
    ∀ tokens after, tokenize switches text = .ok (tokens, after) →
      (∀ token ∈ tokens, token.kind.Natural) ∧
      ∀ place : Place, (∀ kind ∈ place.kinds, kind ∈ tokens.map Lexical.Token.kind) →
        ∀ (value : Literal) (span : Span),
          Yields place (number value span) (ScaledExactly value span) ∧
          ∀ signed meant rest, SignedPower signed meant →
            place.kinds = .exponent :: (signed ++ rest) → rest ≠ [] →
            Gives place (number value span) fun node next =>
              next.kinds = rest ∧ ScaledExactly value span (.exponent :: signed) node := by
  refine ⟨fun value literal => literal.readsInteger switches, fun scan reaches => ?_, ?_⟩
  · exact reaches.natural (Lexical.natural_start switches text.toList)
  · intro tokens after read
    have natural := Lexical.natural_of_tokenize read
    refine ⟨natural, fun place among value span => ?_⟩
    have naturalPlace : ∀ kind ∈ place.kinds, kind.Natural := by
      intro kind member
      rcases List.mem_map.mp (among kind member) with ⟨token, made, rfl⟩
      exact natural token made
    refine ⟨number_scales_exactly naturalPlace, fun signed meant rest written stands some => ?_⟩
    exact number_reads_power naturalPlace written stands some

/-- The tokens of `1e-5`. -/
def negatedPower : List Lexical.Token :=
  [⟨.int 1, ⟨⟨0, 0, 0⟩, ⟨1, 0, 1⟩⟩⟩, ⟨.exponent, ⟨⟨1, 0, 1⟩, ⟨2, 0, 2⟩⟩⟩,
    ⟨.symbol .minus, ⟨⟨2, 0, 2⟩, ⟨3, 0, 3⟩⟩⟩, ⟨.int 5, ⟨⟨3, 0, 3⟩, ⟨4, 0, 4⟩⟩⟩,
    ⟨.endOfFile, ⟨⟨4, 0, 4⟩, ⟨4, 0, 4⟩⟩⟩]

/-- The largest literal in base sixteen, the first one too large in base ten, and a power of ten. -/
theorem literals_at_the_bounds :
    (∃ word : Int64, word.toInt = 9223372036854775807 ∧ tokenize {} "0x7fff_FFFF_ffff_FFFF" =
      .ok ([⟨.int word, ⟨⟨0, 0, 0⟩, ⟨21, 0, 21⟩⟩⟩, ⟨.endOfFile, ⟨⟨21, 0, 21⟩, ⟨21, 0, 21⟩⟩⟩], {})) ∧
    (∃ error, tokenize {} "9_223_372_036_854_775_808" = .error error ∧
      error.cause.message = "integer literal is too large" ∧
      error.span = ⟨⟨0, 0, 0⟩, ⟨25, 0, 25⟩⟩) ∧
    tokenize {} "1e-5" = .ok (negatedPower, {}) ∧
    Gives (Place.ofTokens negatedPower).advance (number (.int 1) ⟨⟨0, 0, 0⟩, ⟨1, 0, 1⟩⟩)
      fun node next => next.kinds = [.endOfFile] ∧ ScaledExactly (.int 1) ⟨⟨0, 0, 0⟩, ⟨1, 0, 1⟩⟩
        [.exponent, .symbol .minus, .int 5] node := by
  let sixteen := ['7', 'f', 'f', 'f', '_', 'F', 'F', 'F', 'F', '_', 'f', 'f', 'f', 'f', '_', 'F',
    'F', 'F', 'F']
  have largest : Lexical.IntegerLiteral "0x7fff_FFFF_ffff_FFFF".toList 9223372036854775807 := by
    have numeral : Number.Numeral 16 (Lexical.digitsOf sixteen) 9223372036854775807 :=
      (Number.numeral_iff (by decide)).mpr ⟨List.all_eq_true.mp (by decide), by decide +kernel⟩
    have split : "0x7fff_FFFF_ffff_FFFF".toList = '0' :: 'x' :: sixteen := by decide
    rw [split]
    exact .announced (by decide) numeral (by decide) (Lexical.separated_digitsOf sixteen)
  let ten := ['_', '2', '2', '3', '_', '3', '7', '2', '_', '0', '3', '6', '_', '8', '5', '4', '_',
    '7', '7', '5', '_', '8', '0', '8']
  have tooLarge : Lexical.IntegerLiteral "9_223_372_036_854_775_808".toList
      9223372036854775808 := by
    have numeral : Number.Numeral 10 ('9' :: Lexical.digitsOf ten) 9223372036854775808 :=
      (Number.numeral_iff (by decide)).mpr ⟨List.all_eq_true.mp (by decide), by decide +kernel⟩
    have split : "9_223_372_036_854_775_808".toList = '9' :: ten := by decide
    rw [split]
    exact .decimal numeral (Lexical.separated_digitsOf ten)
  have read : tokenize {} "1e-5" = .ok (negatedPower, {}) := by decide +kernel
  refine ⟨((integer_literals_exact {} "0x7fff_FFFF_ffff_FFFF").1 _ largest).fits (by decide),
    ((integer_literals_exact {} "9_223_372_036_854_775_808").1 _ tooLarge).tooLarge (by decide),
    read, ?_⟩
  have powers := ((integer_literals_exact {} "1e-5").2.2 negatedPower {} read).2
    (Place.ofTokens negatedPower).advance (by decide) (.int 1) ⟨⟨0, 0, 0⟩, ⟨1, 0, 1⟩⟩
  exact powers.2 _ _ [.endOfFile] (.minus 5) rfl nofun

end Grammar
end Scripting
