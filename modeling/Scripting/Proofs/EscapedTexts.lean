import Scripting.Proofs.LiteralGaps
import Scripting.Proofs.Numerals

namespace Scripting
namespace Lexical

/-!
String literals decode what was encoded.

A text may be written between quotes of any style, each of its characters in any of the ways
that there are for it: as it is, by its simple escape, or by its code point.  Whatever is
chosen for one character and the next, the literal is read as the text.  With escapes off,
a text without the closing quote is written as it is.

An escape by code point is complained about if digits are missing or if no character has the
code point, wherever the scan comes to it: behind any other content of a literal, and behind
any literals that the one with the escape is joined to.
-/

variable {switches : Switches} {scan : Scan} {written text : List Char}

/-! ## Ways to write a text -/

/-- The quotes that a literal may stand between. -/
inductive QuoteStyle where
  | double
  | single
  | angled

namespace QuoteStyle

def opening : QuoteStyle → Char
  | .double => '"'
  | .single => '\''
  | .angled => '«'

def closing : QuoteStyle → Char
  | .double => '"'
  | .single => '\''
  | .angled => '»'

/-- What is written, between quotes. -/
def around (style : QuoteStyle) (written : List Char) : List Char :=
  style.opening :: (written ++ [style.closing])

theorem closingQuote?_opening (style : QuoteStyle) :
    closingQuote? style.opening = some style.closing := by
  cases style <;> rfl

theorem opensLiteral_opening (style : QuoteStyle) (rest : List Char) :
    opensLiteral (style.opening :: rest) = true :=
  Option.isSome_iff_exists.mpr ⟨_, style.closingQuote?_opening⟩

theorem readLiteral_around (style : QuoteStyle) {escapes : Bool}
    (body : Body escapes style.closing written text) (after : List Char) :
    readLiteral escapes (style.around written ++ after) =
      .ok (text, (style.around written).length) := by
  have split : style.around written ++ after =
      style.opening :: (written ++ style.closing :: after) := by
    simp [around]
  have length : (style.around written).length = written.length + 2 := by
    simp [around]
  rw [split, length]
  exact readLiteral_append style.closingQuote?_opening body after

end QuoteStyle

/-- The letters of simple escapes, and what they stand for. -/
def simpleEscapes : List (Char × Char) :=
  [('n', '\n'), ('t', '\t'), ('r', '\r'), ('0', '\x00'), ('\\', '\\'), ('"', '"'), ('\'', '\''),
    ('«', '«'), ('»', '»')]

/-- The letters of escapes by code point, and the numbers of digits behind them. -/
def codeEscapes : List (Char × Nat) :=
  [('x', 2), ('u', 4), ('U', 8)]

/-- The ways to write a character between quotes. -/
inductive WrittenChar (closing : Char) : List Char → Char → Prop
  | direct {c : Char} (other : c ≠ '\\') (inside : c ≠ closing) : WrittenChar closing [c] c
  | simple {letter c : Char} (known : (letter, c) ∈ simpleEscapes) :
      WrittenChar closing ['\\', letter] c
  | code {letter c : Char} {digits : List Char} (counted : (letter, digits.length) ∈ codeEscapes)
      (numeral : Number.Numeral 16 digits c.toNat) :
      WrittenChar closing ('\\' :: letter :: digits) c

/-- The ways to write a text between quotes, each character in a way of its own. -/
inductive WrittenText (closing : Char) : List Char → List Char → Prop
  | nothing : WrittenText closing [] []
  | next {piece written text : List Char} {c : Char} (first : WrittenChar closing piece c)
      (later : WrittenText closing written text) :
      WrittenText closing (piece ++ written) (c :: text)

theorem simpleEscape?_of_mem {letter c : Char} (known : (letter, c) ∈ simpleEscapes) :
    simpleEscape? letter = some c := by
  have table : ∀ entry ∈ simpleEscapes, simpleEscape? entry.1 = some entry.2 := by decide
  exact table _ known

theorem hexEscapeDigits?_of_mem {letter : Char} {count : Nat}
    (counted : (letter, count) ∈ codeEscapes) : hexEscapeDigits? letter = some count := by
  have table : ∀ entry ∈ codeEscapes, hexEscapeDigits? entry.1 = some entry.2 := by decide
  exact table _ counted

theorem WrittenChar.body {closing c : Char} {piece : List Char}
    (first : WrittenChar closing piece c) (later : Body true closing written text) :
    Body true closing (piece ++ written) (c :: text) := by
  cases first with
  | direct other inside => exact .plain inside (fun both => other both.1) later
  | simple known => exact .escape rfl (.simple (simpleEscape?_of_mem known)) later
  | @code letter c digits counted numeral =>
      have value := numeral.textValue_eq (by decide)
      have valid : (Number.textValue 16 digits).isValidChar := by
        rw [value]
        exact c.valid
      have escape : Escape (letter :: digits) (Char.ofNat (Number.textValue 16 digits)) :=
        .code (hexEscapeDigits?_of_mem counted) (numeral.isDigitOf (by decide)) valid
      rw [value, Char.ofNat_toNat] at escape
      exact .escape rfl escape later

theorem WrittenText.body {closing : Char} (encoded : WrittenText closing written text) :
    Body true closing written text := by
  induction encoded with
  | nothing => exact .done
  | next first _ ih => exact first.body ih

theorem body_verbatim {closing : Char} (inside : closing ∉ text) :
    Body false closing text text := by
  induction text with
  | nil => exact .done
  | cons c text ih =>
      rcases List.ne_and_not_mem_of_not_mem_cons inside with ⟨other, later⟩
      exact .plain other.symm (fun both => Bool.false_ne_true both.2) (ih later)

/-! ## Literals that are all of a text -/

/-- The text is a literal of one string and nothing else. -/
def ReadsText (switches : Switches) (source : List Char) (text : String) : Prop :=
  tokenize switches (String.ofList source) =
    .ok ([⟨.text text, spanBehind [] source⟩, ⟨.endOfFile, spanBehind source []⟩], switches)

theorem Body.readsText {style : QuoteStyle} {text : String}
    (body : Body switches.escapes style.closing written text.toList) :
    ReadsText switches (style.around written) text := by
  let start := Scan.start switches (style.around written)
  have whole : start.rest = style.around written ++ [] := (List.append_nil _).symm
  have literal := style.readLiteral_around body []
  have read : start.literals = .ok (text.toList, (style.around written).length) := by
    unfold Scan.literals
    rw [whole]
    split
    · exact readChain_alone literal rfl
    · exact literal
  have stepped := Scan.step_of_literal (style.opensLiteral_opening _) read
  have source : (String.ofList (style.around written)).toList = style.around written :=
    String.toList_ofList
  have single := @tokenize_single switches (String.ofList (style.around written)) (.text text)
  rw [source] at single
  rw [String.ofList_toList] at stepped
  exact single stepped

/-! ## Escapes that stand for no character -/

/-- An escape behind its backslash and the text behind it: there are too few digits, or no
character has their value as its code point. -/
inductive BadEscape : List Char → List Char → Prop
  | missing {letter : Char} {count : Nat} {digits after : List Char}
      (counted : (letter, count) ∈ codeEscapes) (hex : ∀ c ∈ digits, ∃ n, Number.Digit 16 c n)
      (few : digits.length < count) (ends : ∀ c ∈ after.head?, ∀ n, ¬ Number.Digit 16 c n) :
      BadEscape (letter :: digits) after
  | noCharacter {letter : Char} {digits after : List Char} {value : Nat}
      (counted : (letter, digits.length) ∈ codeEscapes)
      (numeral : Number.Numeral 16 digits value) (none : ∀ c : Char, c.toNat ≠ value) :
      BadEscape (letter :: digits) after

variable {piece after front : List Char} {count : Nat}

theorem takeWhile_few {digits : List Char} {property : Char → Bool}
    (all : ∀ c ∈ digits, property c = true) (ends : ∀ c ∈ after.head?, property c = false) :
    ((digits ++ after).take count).takeWhile property = digits.take count := by
  rw [List.take_append]
  have first : ∀ c ∈ digits.take count, property c = true := fun c member =>
    all c (List.mem_of_mem_take member)
  have stops : (after.take (count - digits.length)).takeWhile property = [] := by
    rcases after with _ | ⟨c, rest⟩
    · rw [List.take_nil, List.takeWhile_nil]
    · rcases count - digits.length with _ | more
      · rw [List.take_zero, List.takeWhile_nil]
      · rw [List.take_succ_cons, List.takeWhile_cons_of_neg]
        rw [ends c rfl]
        exact Bool.false_ne_true
  rw [List.takeWhile_append_of_pos first, stops, List.append_nil]

theorem BadEscape.readEscape_eq (bad : BadEscape piece after) :
    ∃ cause, cause.kind = "InvalidEscapeError" ∧
      readEscape (piece ++ after) = .error ⟨cause, 0, 1 + piece.length⟩ := by
  have fault : ∀ {letter : Char} {count : Nat} {digits : List Char} {cause : Cause},
      (letter, count) ∈ codeEscapes →
      readHexEscape count letter (digits ++ after) = .error ⟨cause, 0, 2 + digits.length⟩ →
      readEscape (letter :: digits ++ after) =
        .error ⟨cause, 0, 1 + (letter :: digits).length⟩ := by
    intro letter count digits cause counted failed
    have length : 1 + (letter :: digits).length = 2 + digits.length := by
      rw [List.length_cons]
      omega
    have table : ∀ entry ∈ codeEscapes, simpleEscape? entry.1 = none := by decide
    have simple : simpleEscape? letter = none := table _ counted
    rw [length]
    simp only [List.cons_append, readEscape, simple, hexEscapeDigits?_of_mem counted, failed]
    rfl
  cases bad with
  | @missing letter count digits after counted hex few ends =>
      have all : ∀ c ∈ digits, Number.isDigitOf 16 c = true := by
        intro c member
        rcases hex c member with ⟨n, digit⟩
        exact digit.isDigitOf (by decide)
      have stops : ∀ c ∈ after.head?, Number.isDigitOf 16 c = false := by
        intro c first
        apply Bool.eq_false_iff.mpr
        intro found
        rcases Number.exists_digit found with ⟨n, digit⟩
        exact ends c first n digit
      refine ⟨.missingHexDigits count letter, rfl, fault counted ?_⟩
      unfold readHexEscape
      simp only [takeWhile_few all stops, List.take_of_length_le (Nat.le_of_lt few), if_pos few]
  | @noCharacter letter digits after value counted numeral none =>
      have all := numeral.isDigitOf (by decide)
      have invalid : ¬ value.isValidChar := by
        intro valid
        apply none (Char.ofNat value)
        rw [Char.ofNat, dif_pos valid]
        rfl
      refine ⟨.notACharacter digits, rfl, fault counted ?_⟩
      unfold readHexEscape
      simp only [List.take_left, List.takeWhile_eq_self_iff.mpr all, Nat.lt_irrefl, if_false,
        numeral.textValue_eq (by decide), if_neg invalid]

/-- String literals, each with a gap behind it, that a further one is joined to. -/
inductive Joined (escapes : Bool) : List Char → Prop
  | nothing : Joined escapes []
  | literal {style : QuoteStyle} {written text gap later : List Char}
      (body : Body escapes style.closing written text) (filled : Gap gap)
      (others : Joined escapes later) :
      Joined escapes (style.around written ++ (gap ++ later))

theorem Joined.opensLiteral {escapes : Bool} {rest : List Char} (joined : Joined escapes front)
    (opens : opensLiteral rest = true) : Lexical.opensLiteral (front ++ rest) = true := by
  cases joined with
  | nothing => exact opens
  | @literal style => exact style.opensLiteral_opening _

theorem Joined.readChain_fault {escapes : Bool} {rest : List Char} {fault : Fault}
    (joined : Joined escapes front) (opens : Lexical.opensLiteral rest = true)
    (failed : readLiteral escapes rest = .error fault) :
    readChain escapes (front ++ rest) = .error (fault.later front.length) := by
  induction joined with
  | nothing => exact readLiterals_of_fault _ failed
  | @literal style written text gap later body filled others ih =>
      have read := style.readLiteral_around body (gap ++ (later ++ rest))
      have onward := readChain_again (style.opensLiteral_opening _) read filled
        (others.opensLiteral opens)
      have split : style.around written ++ (gap ++ later) ++ rest =
          style.around written ++ (gap ++ (later ++ rest)) := by
        simp only [List.append_assoc]
      have length : (style.around written ++ (gap ++ later)).length =
          later.length + (style.around written ++ gap).length := by
        simp only [List.length_append]
        omega
      rw [split, onward, ih, length]
      simp only [Chained, Except.map, Except.mapError, Fault.later, Nat.add_assoc]

/-- The escape is complained about, from its backslash to its last digit. -/
theorem BadEscape.readLiteral_eq (bad : BadEscape piece after) (style : QuoteStyle)
    (body : Body true style.closing written text) : ∃ cause, cause.kind = "InvalidEscapeError" ∧
      readLiteral true (style.opening :: (written ++ '\\' :: (piece ++ after))) =
        .error ⟨cause, written.length + 1, written.length + 1 + (1 + piece.length)⟩ := by
  rcases bad.readEscape_eq with ⟨cause, kind, failed⟩
  have other : '\\' ≠ style.closing := by
    cases style <;> decide
  have inner : readBody style.closing true 0 ('\\' :: (piece ++ after)) =
      .error (.escape ⟨cause, 0, 1 + piece.length⟩) := by
    rw [readBody, if_neg other, if_pos ⟨rfl, rfl⟩]
    simp only [failed]
  refine ⟨cause, kind, ?_⟩
  unfold readLiteral
  simp only [style.closingQuote?_opening, Option.getD_some,
    body.readBody_before style.closingQuote?_opening, inner, bodyBehind, Fault.later]
  have stop : 1 + piece.length + written.length + 1 =
      written.length + 1 + (1 + piece.length) := by omega
  rw [Nat.zero_add, stop]

/-- What the scan has to pass to come to an escape: literals it is joined to, and text. -/
structure ComesTo (scan : Scan) (front : List Char) (style : QuoteStyle) (written : List Char)
    (rest : List Char) : Prop where
  split : scan.rest = front ++ style.opening :: (written ++ '\\' :: rest)
  escapes : scan.switches.escapes = true
  joined : front = [] ∨ scan.switches.implicitConcat = true ∧ Joined true front
  body : ∃ text, Body true style.closing written text

theorem ComesTo.opens {style : QuoteStyle} {rest : List Char}
    (comes : ComesTo scan front style written rest) : opensLiteral scan.rest = true := by
  rw [comes.split]
  rcases comes.joined with rfl | ⟨-, joined⟩
  · exact style.opensLiteral_opening _
  · exact joined.opensLiteral (style.opensLiteral_opening _)

theorem BadEscape.literals_eq {style : QuoteStyle} (bad : BadEscape piece after)
    (comes : ComesTo scan front style written (piece ++ after)) :
    ∃ cause, cause.kind = "InvalidEscapeError" ∧ scan.literals =
      .error ⟨cause, (front ++ style.opening :: written).length,
        (front ++ style.opening :: written).length + ('\\' :: piece).length⟩ := by
  rcases comes.body with ⟨text, body⟩
  rcases bad.readLiteral_eq style body with ⟨cause, kind, failed⟩
  have place : (⟨cause, (front ++ style.opening :: written).length,
      (front ++ style.opening :: written).length + ('\\' :: piece).length⟩ : Fault) =
      Fault.later ⟨cause, written.length + 1, written.length + 1 + (1 + piece.length)⟩
        front.length := by
    simp only [Fault.later, List.length_append, List.length_cons, Fault.mk.injEq, true_and]
    omega
  refine ⟨cause, kind, ?_⟩
  unfold Scan.literals
  rw [comes.split, comes.escapes, place]
  rcases comes.joined with rfl | ⟨on, joined⟩
  · split
    · exact Joined.readChain_fault .nothing (style.opensLiteral_opening _) failed
    · exact failed
  · rw [if_pos on]
    exact joined.readChain_fault (style.opensLiteral_opening _) failed

/-- The text is complained about because of an escape with some text behind it. -/
def RefusesEscape (switches : Switches) (source : String) (piece after : List Char) : Prop :=
  ∃ before error, source.toList = before ++ '\\' :: (piece ++ after) ∧
    tokenize switches source = .error error ∧ error.cause.kind = "InvalidEscapeError" ∧
    error.span = spanBehind before ('\\' :: piece)

theorem BadEscape.refused {source : String} {style : QuoteStyle} (bad : BadEscape piece after)
    (reaches : (Scan.start switches source.toList).Reaches scan)
    (comes : ComesTo scan front style written (piece ++ after)) :
    RefusesEscape switches source piece after := by
  rcases bad.literals_eq comes with ⟨cause, kind, failed⟩
  rcases reaches.hasRead (Scan.hasRead_start switches source.toList) with ⟨before, read⟩
  have split : scan.rest = (front ++ style.opening :: written) ++ (('\\' :: piece) ++ after) := by
    rw [comes.split]
    simp only [List.append_assoc, List.cons_append]
  refine ⟨before ++ (front ++ style.opening :: written), _, ?_,
    tokenize_of_fault reaches (Scan.step_of_literalFault comes.opens failed), kind,
    read.span_fail split cause⟩
  rw [read.split, split, List.append_assoc before, List.cons_append]

/--
String literals decode what was encoded.  With escapes on, a text written between quotes of any
style, each character in any of the ways there are for it, is read as one string of that text
and nothing else.  With escapes off, so is a text that is written as it is.  An escape by code
point with too few digits or of no character is complained about wherever the scan comes to it.
-/
theorem written_texts_decode (switches : Switches) :
    (switches.escapes = true → ∀ (style : QuoteStyle) (text : String) (written : List Char),
      WrittenText style.closing written text.toList →
      ReadsText switches (style.around written) text) ∧
    (switches.escapes = false → ∀ (style : QuoteStyle) (text : String),
      style.closing ∉ text.toList → ReadsText switches (style.around text.toList) text) ∧
    ∀ (source : String) (scan : Scan) (front : List Char) (style : QuoteStyle)
      (written piece after : List Char), (Scan.start switches source.toList).Reaches scan →
      ComesTo scan front style written (piece ++ after) → BadEscape piece after →
      RefusesEscape switches source piece after := by
  refine ⟨fun on style text written encoded => ?_, fun off style text inside => ?_, ?_⟩
  · have body := encoded.body
    rw [← on] at body
    exact body.readsText
  · have body := body_verbatim inside
    rw [← off] at body
    exact body.readsText
  · intro source scan front style written piece after reaches comes bad
    exact bad.refused reaches comes

/-- Escapes of all kinds in one literal, a backslash with escapes off, and a missing digit in a
literal that is joined to one before it. -/
theorem escapes_side_by_side :
    ReadsText {} ['«', '\\', 'x', '4', '1', '\\', 'u', '0', '0', 'E', '9', '"', '\\', 'n', '\\',
      '»', '»'] "Aé\"\n»" ∧
    ReadsText { escapes := false } ['\'', 'a', '\\', 'n', '\''] "a\\n" ∧
    RefusesEscape {} "'a' \"b\\x4\"" ['x', '4'] ['"'] := by
  refine ⟨?_, ?_, ?_⟩
  · have a : WrittenChar '»' ['\\', 'x', '4', '1'] 'A' :=
      .code (by decide)
        ((Number.numeral_iff (by decide)).mpr ⟨List.all_eq_true.mp (by decide), by decide⟩)
    have e : WrittenChar '»' ['\\', 'u', '0', '0', 'E', '9'] 'é' :=
      .code (by decide)
        ((Number.numeral_iff (by decide)).mpr ⟨List.all_eq_true.mp (by decide), by decide⟩)
    have double : WrittenChar '»' ['"'] '"' := .direct (by decide) (by decide)
    have feed : WrittenChar '»' ['\\', 'n'] '\n' := .simple (by decide)
    have quote : WrittenChar '»' ['\\', '»'] '»' := .simple (by decide)
    have encoded := (WrittenText.nothing.next quote).next feed
    have whole := ((encoded.next double).next e).next a
    exact (written_texts_decode {}).1 rfl .angled "Aé\"\n»" _ whole
  · exact (written_texts_decode { escapes := false }).2.1 rfl .single "a\\n" (by decide)
  · have first : Body true '\'' ['a'] ['a'] := .plain (by decide) (by decide) .done
    have joined : Joined true "'a' ".toList :=
      @Joined.literal true .single ['a'] ['a'] [' '] [] first (.blank (Or.inl rfl) .nothing)
        .nothing
    have four : Number.Digit 16 '4' 4 := @Number.Digit.small 16 4 (by decide)
    have hex : ∀ c ∈ ['4'], ∃ n, Number.Digit 16 c n := List.forall_mem_singleton.mpr ⟨4, four⟩
    have ends : ∀ c ∈ ['"'].head?, ∀ n, ¬ Number.Digit 16 c n := by
      intro c first n digit
      cases first
      exact absurd (digit.isDigitOf (by decide)) (by decide)
    have bad : BadEscape ['x', '4'] ['"'] :=
      @BadEscape.missing 'x' 2 ['4'] ['"'] (by decide) hex (by decide) ends
    have body : Body true '"' ['b'] ['b'] := .plain (by decide) (by decide) .done
    exact (written_texts_decode {}).2.2 "'a' \"b\\x4\"" _ "'a' ".toList .double ['b'] _ _
      (.here _) ⟨rfl, rfl, Or.inr ⟨rfl, joined⟩, ⟨_, body⟩⟩ bad

end Lexical
end Scripting
