import Scripting.Proofs.ReadBack

namespace Scripting

/-!
Integers times powers of ten.

The power of ten is computed before the product, and has to be in range itself.  From ten to
the power of nineteen on it is not, and neither is the product with any integer other than
zero.  So the product overflows exactly where it is out of range, except that zero overflows
together with its power.

A literal with a power of ten is one piece of a text, which makes three tokens.  They are read
as an operation on two numbers, so a program of the literal ends as the operator does.
-/

namespace Data

open Number (InRange)

/-! ## The operator -/

/-- Zero times a power of ten that is out of range. -/
def ZeroBeyond (m k : Int64) : Prop :=
  m = 0 ∧ 19 ≤ k.toInt

instance (m k : Int64) : Decidable (ZeroBeyond m k) :=
  inferInstanceAs (Decidable (_ ∧ _))

/-- The exact product or an overflow; for zero the power of ten decides. -/
structure Scales (m k : Int64) (outcome : Except Fault Product) : Prop where
  exactly : ¬ ZeroBeyond m k → Exactly (m.toInt * 10 ^ k.toInt.toNat) outcome
  beyond : ZeroBeyond m k → ∃ fault : Fault, outcome = .error fault ∧ fault.kind = .overflow

theorem Scales.value_or_fault {m k : Int64} {outcome : Except Fault Product}
    (scales : Scales m k outcome) :
    (∃ word, outcome = .ok (.value (.int word))) ∨ ∃ fault, outcome = .error fault := by
  by_cases zero : ZeroBeyond m k
  · rcases scales.beyond zero with ⟨fault, failed, -⟩
    exact Or.inr ⟨fault, failed⟩
  by_cases range : InRange (m.toInt * 10 ^ k.toInt.toNat)
  · rcases (scales.exactly zero).represented range with ⟨word, given, -⟩
    exact Or.inl ⟨word, given⟩
  · rcases (scales.exactly zero).overflows range with ⟨fault, failed, -⟩
    exact Or.inr ⟨fault, failed⟩

/-- A large power of ten takes every integer other than zero out of range. -/
theorem not_inRange_scaled {m : Int} {exponent : Nat} (nonzero : m ≠ 0) (large : 19 ≤ exponent) :
    ¬ InRange (m * 10 ^ exponent) := by
  intro range
  unfold InRange at range
  have least : 10 ^ 19 ≤ (m * 10 ^ exponent).natAbs :=
    calc 10 ^ 19 ≤ 10 ^ exponent := Nat.pow_le_pow_right (by decide) large
      _ ≤ m.natAbs * 10 ^ exponent := Nat.le_mul_of_pos_left _ (Int.natAbs_pos.mpr nonzero)
      _ = (m * 10 ^ exponent).natAbs := by rw [Int.natAbs_mul, Int.natAbs_pow]; rfl
  omega

/-- A power of ten is in range up to the eighteenth. -/
theorem inRange_ten_pow {exponent : Nat} : InRange (10 ^ exponent) ↔ exponent < 19 := by
  constructor
  · intro range
    by_contra large
    have scaled := not_inRange_scaled one_ne_zero (Nat.le_of_not_lt large)
    rw [one_mul] at scaled
    exact scaled range
  · intro small
    have least : (0 : Int) ≤ 10 ^ exponent := by positivity
    have most : (10 : Int) ^ exponent ≤ 10 ^ 18 := pow_le_pow_right₀ (by decide) (by omega)
    unfold InRange
    omega

theorem integerScale_scales (m k : Int64) : Scales m k (integerScale m.toInt k.toInt) := by
  rw [integerScale, Number.power?_eq (by decide)]
  by_cases large : 19 ≤ k.toInt
  · have beyond : ¬ InRange (10 ^ k.toInt.toNat) := fun range => by
      have := inRange_ten_pow.mp range
      omega
    rw [Number.fit?_of_not_inRange beyond]
    refine ⟨fun other => ⟨fun range => ?_, fun _ => ⟨_, rfl, rfl⟩⟩, fun _ => ⟨_, rfl, rfl⟩⟩
    have nonzero : m ≠ 0 := fun zero => other ⟨zero, large⟩
    exact absurd range (not_inRange_scaled (Number.toInt_ne_zero nonzero) (by omega))
  · have small : k.toInt.toNat < 19 := by omega
    obtain ⟨scale, fits, value⟩ := Number.fit?_of_inRange (inRange_ten_pow.mpr small)
    rw [fits, Option.bind_some, value]
    exact ⟨fun _ => exact_exactly _ _, fun zero => absurd zero.2 large⟩

theorem scale_scales (heap : Heap) (m : Int64) {k : Int64} (nonnegative : 0 ≤ k.toInt) :
    Scales m k (heap.binary .scale (.int m) (.int k)) := by
  have same : heap.binary .scale (.int m) (.int k) = integerScale m.toInt k.toInt := by
    simp only [Heap.binary, Heap.scale, if_pos nonnegative]
  rw [same]
  exact integerScale_scales m k

end Data

namespace Lexical

/-! ## The tokens of the literal -/

/-- The digits of a number, and of the power of ten it is multiplied with. -/
def scientific (m k : Nat) : List Char :=
  Nat.toDigits 10 m ++ 'e' :: Nat.toDigits 10 k

variable {m k : Nat} {value power : Int64}

theorem readPowerOfTen_of_digits (same : power.toInt = k) :
    readPowerOfTen ('e' :: Nat.toDigits 10 k) =
      .ok [⟨some .exponent, 1⟩, ⟨some (.int power), (Nat.toDigits 10 k).length⟩] := by
  have digits : ∀ c ∈ Nat.toDigits 10 k, Number.isDigitOf 10 c = true :=
    fun _ => isDigitOf_toDigits
  have run : (Nat.toDigits 10 k).takeWhile Text.isIdentifierPart = Nat.toDigits 10 k :=
    List.takeWhile_eq_self_iff.mpr fun c member =>
      isIdentifierPart_of_isDigitOf_ten (digits c member)
  have some : (Nat.toDigits 10 k).isEmpty = false :=
    List.isEmpty_eq_false_iff.mpr Nat.toDigits_ne_nil
  have part : integerPart 10 (Nat.toDigits 10 k) (Nat.toDigits 10 k).length =
      .ok ⟨.some (.int power), (Nat.toDigits 10 k).length⟩ := by
    have fits := Number.fit?_toInt power
    rw [same] at fits
    rw [integerPart, textValue_toDigits]
    simp only [Int.ofNat_eq_natCast, fits, Option.elim_some]
  simp only [readPowerOfTen, run, some, List.all_eq_true.mpr digits, part, true_or, if_true,
    Bool.not_false, Bool.and_self]

/-- The three parts that the literal is covered by. -/
def scientificParts (value power : Int64) (m k : Nat) : List Part :=
  [⟨some (.int value), (Nat.toDigits 10 m).length⟩, ⟨some .exponent, 1⟩,
    ⟨some (.int power), (Nat.toDigits 10 k).length⟩]

theorem readPiece_of_scientific {switches : Switches} (powers : switches.exponent = true)
    (sameValue : value.toInt = m) (samePower : power.toInt = k) :
    ∃ c others, scientific m k = c :: others ∧ c ≠ '@' ∧
      readPiece switches c (scientific m k) = .ok (scientificParts value power m k) := by
  have ends := EndsDigits.power (Nat.toDigits 10 k)
  have base : literalBase? (scientific m k) = none :=
    literalBase?_of_digits ends (fun _ => isDigitOf_toDigits) Nat.toDigits_ne_nil
  have decimal : readDecimal (scientific m k) =
      .ok ⟨some (.int value), (Nat.toDigits 10 m).length⟩ := readDecimal_of_digits sameValue ends
  have behind : (scientific m k).drop (Nat.toDigits 10 m).length = 'e' :: Nat.toDigits 10 k :=
    List.drop_left
  have read : readNumber switches.exponent (scientific m k) =
      .ok (scientificParts value power m k) := by
    simp only [readNumber, base, decimal, powers, if_true, behind,
      readPowerOfTen_of_digits samePower, scientificParts]
  rcases split : scientific m k with _ | ⟨c, others⟩
  · exact absurd split (List.append_ne_nil_of_right_ne_nil _ (List.cons_ne_nil _ _))
  have member : c ∈ Nat.toDigits 10 m := by
    unfold scientific at split
    have some : Nat.toDigits 10 m ≠ [] := Nat.toDigits_ne_nil
    rcases List.exists_cons_of_ne_nil some with ⟨first, more, digits⟩
    rw [digits] at split ⊢
    cases split
    exact List.mem_cons_self
  have digit := isDigitOf_ten_iff.mp (isDigitOf_toDigits member)
  refine ⟨c, others, rfl, ?_, ?_⟩
  · rintro rfl
    cases digit
  · rw [readPiece_bare _ (bare_of_digit digit), if_pos digit, ← split]
    exact read

/-- The literal makes three tokens and leaves the switches as they are. -/
theorem tokenize_scientific {switches : Switches} {text : String}
    (powers : switches.exponent = true) (written : text.toList = scientific m k)
    (sameValue : value.toInt = m) (samePower : power.toInt = k) :
    ∃ tokens last, tokenize switches text = .ok (tokens ++ [last], switches) ∧
      tokens.map Token.kind = [.int value, .exponent, .int power] ∧ last.kind = .endOfFile := by
  rcases readPiece_of_scientific powers sameValue samePower with ⟨c, others, split, other, read⟩
  rw [← written] at read
  let scan := Scan.start switches text.toList
  have unread : scan.rest = Nat.toDigits 10 m ++ ('e' :: Nat.toDigits 10 k) := written
  let first := scan.token (Nat.toDigits 10 m) (.int value)
  let second := (scan.beyond (Nat.toDigits 10 m) [first]).token ['e'] .exponent
  let third := ((scan.beyond (Nat.toDigits 10 m) [first]).beyond ['e'] [second]).token
    (Nat.toDigits 10 k) (.int power)
  have beforeLetter : (scan.beyond (Nat.toDigits 10 m) [first]).rest =
      ['e'] ++ Nat.toDigits 10 k := Scan.rest_beyond unread [first]
  have beforeDigits : ((scan.beyond (Nat.toDigits 10 m) [first]).beyond ['e'] [second]).rest =
      Nat.toDigits 10 k ++ [] := by
    rw [List.append_nil]
    exact Scan.rest_beyond beforeLetter [second]
  let final := ((scan.beyond (Nat.toDigits 10 m) [first]).beyond ['e'] [second]).beyond
    (Nat.toDigits 10 k) [third]
  have stepped : scan.step = .ok final := by
    have here : scan.rest = c :: others := written.trans split
    rw [Scan.step_of_piece here other read]
    simp only [scientificParts, Scan.coverAll, Scan.cover]
    rw [Scan.emit_eq_beyond unread]
    have letter := Scan.emit_eq_beyond beforeLetter .exponent
    have digits := Scan.emit_eq_beyond beforeDigits (.int power)
    exact congrArg Except.ok ((congrArg (fun next : Scan => next.emit (.int power) _) letter).trans
      digits)
  have done : final.outcome = .ok final := Scan.outcome_of_done (Scan.rest_beyond beforeDigits _)
  refine ⟨[first, second, third], ⟨.endOfFile, ⟨final.position, final.position⟩⟩, ?_, rfl, rfl⟩
  rw [tokenize_eq, Scan.result, Scan.outcome_of_step stepped, done]
  rfl

end Lexical

namespace Grammar

open Lexical (Token TokenKind)
open Program (BinaryOp Form Node nowhere)
open Source (Span)

/-! ## The expression of the literal -/

variable {value power : Int64}

section Readers

variable {place : Place} {literal : Program.Literal} {span : Span}
  {signed rest : List TokenKind} {power : Int64}

theorem exponentSign_gives (exponent : Exponent signed power)
    (stands : place.kinds = signed ++ rest) :
    Gives place exponentSign fun negative next => ∃ digits, next.kinds = .int digits :: rest ∧
      (negative = true → signed = [.symbol .minus, .int digits]) ∧
        power = if negative = true then -digits else digits := by
  cases exponent with
  | plain =>
      refine Gives.ifEat_elsewhere (Place.current_ne stands TokenKind.noConfusion) ?_
      have unsigned : eat (.symbol .plus) place = .ok (false, place) := by
        unfold eat
        rw [if_neg (Place.current_ne stands TokenKind.noConfusion)]
      exact Gives.step unsigned (Gives.pure ⟨power, stands, nofun, rfl⟩)
  | plus =>
      refine Gives.ifEat_elsewhere (Place.current_ne stands (by decide)) ?_
      rcases Place.kinds_passed stands TokenKind.noConfusion nofun with ⟨here, left⟩
      have sign : eat (.symbol .plus) place = .ok (true, place.advance) := by
        unfold eat
        rw [if_pos here]
      exact Gives.step sign (Gives.pure ⟨power, left, nofun, rfl⟩)
  | @minus digits =>
      refine Gives.ifEat_here stands nofun nofun fun next left => ?_
      exact Gives.pure ⟨digits, left, fun _ => rfl, rfl⟩

theorem signedDigits_gives {negative : Bool} {digits : Int64}
    (fits : negative = true → digits ≠ Int64.minValue) :
    Gives place (signedDigits negative digits span) fun power next =>
      power = (if negative = true then -digits else digits) ∧ next = place := by
  cases negative with
  | false => exact ⟨digits, place, rfl, rfl, rfl⟩
  | true =>
      have within : ¬ (place.checked = true ∧ digits = Int64.minValue) :=
        fun beyond => fits rfl beyond.2
      have negated : signedDigits true digits span place = .ok (-digits, place) := if_neg within
      exact ⟨-digits, place, negated, rfl, rfl⟩

/-- A number with a power of ten behind it is read, if the exponent has a negation. -/
theorem number_gives (exponent : Exponent signed power)
    (fits : signed ≠ [.symbol .minus, .int Int64.minValue])
    (stands : place.kinds = .exponent :: (signed ++ rest)) (some : rest ≠ []) :
    Gives place (number literal span) fun node next => next.kinds = rest ∧ ∃ exponentSpan,
      node = binaryNode .scale ⟨span, .number literal⟩ ⟨exponentSpan, .number (.int power)⟩ := by
  have filled : signed ++ rest ≠ [] := List.append_ne_nil_of_right_ne_nil _ some
  refine Gives.ifEat_here stands nofun filled fun next left => Gives.peek ?_
  refine Gives.bind (exponentSign_gives exponent left) fun negative next signs => ?_
  rcases signs with ⟨digits, left, minus, rfl⟩
  refine Gives.peek ?_
  simp only [Place.current_of_kinds left]
  refine Gives.advance left nofun some fun next left => ?_
  have negatable (negated : negative = true) : digits ≠ Int64.minValue := by
    rintro rfl
    exact fits (minus negated)
  refine Gives.bind (signedDigits_gives negatable) fun power next result => ?_
  rcases result with ⟨rfl, rfl⟩
  exact Gives.thenNode fun exponentSpan => Gives.pure ⟨left, exponentSpan, rfl⟩

end Readers

/-- A number times a power of ten. -/
def scaledNode (value power : Int64) : Node :=
  ⟨nowhere, .binary .scale ⟨nowhere, .number (.int value)⟩ ⟨nowhere, .number (.int power)⟩⟩

theorem scaled_reads (value power : Int64) :
    Reads atom .atom [.int value, .exponent, .int power] (Same (scaledNode value power)) := by
  intro depth place rest _ stands stops
  refine Gives.peek ?_
  simp only [Place.current_of_kinds stands]
  refine Gives.advance stands nofun nofun fun next left => ?_
  rcases number_gives (.plain : Exponent [.int power] power) nofun left stops.ne_nil with
    ⟨node, next, read, left, exponentSpan, rfl⟩
  exact ⟨_, next, read, left, rfl⟩

theorem scaled_parses {tokens : List Token} {last : Token}
    (kinds : tokens.map Token.kind = [.int value, .exponent, .int power])
    (ends : last.kind = .endOfFile) :
    ∃ program, parse (tokens ++ [last]) = .ok program ∧
      Same ⟨nowhere, .block [scaledNode value power]⟩ program := by
  have begins : Begins .atom [.int value, .exponent, .int power] :=
    ⟨_, _, .atom, rfl, rfl, Nat.le_refl _⟩
  have fits : Level.fallback.rank ≤ Level.atom.rank := by decide
  have takes : Takes .atom [.int value, .exponent, .int power] (scaledNode value power) :=
    scaled_reads value power
  have enough : (tokens.map Token.kind).length < (tokens ++ [last]).length + 2 := by
    rw [List.length_map, List.length_append]
    omega
  rw [kinds] at enough
  have stands : (Place.ofTokens (tokens ++ [last])).kinds = _ := kinds_ofTokens ends
  rw [kinds] at stands
  rcases program_reads (begins.looser fits) (takes.within begins fits).reads enough stands with
    ⟨result, next, read, same⟩
  exact ⟨result, outcome_ok.mpr ⟨next, read⟩, same⟩

theorem Same.binary_inv {span : Span} {op : BinaryOp} {left right result : Node}
    (same : Same ⟨span, .binary op left right⟩ result) :
    ∃ first second, result.form = .binary op first second ∧ Same left first ∧
      Same right second := by
  rcases result with ⟨place, form⟩
  cases form <;> simp_all [Same, Node.unplaced, Form.unplaced]

end Grammar

namespace Session

open Data (Fault Heap Product Scales Value)
open Evaluation (Evaluator Trail applyBinary bind_apply check evalBinary evalNode evalSequence
  isTruthy perform readHeap)
open Lexical (scientific)
open Source (Place)

/-! ## Runs -/

/-- The run of a program ends with what an operator gives. -/
inductive EndsAs : Except Fault Product → Outcome → Prop
  | value {value : Value} : EndsAs (.ok (.value value)) (.finished value)
  | fault {fault : Fault} {place : Place} {trail : Trail} :
      EndsAs (.error fault) (.failed ⟨fault, place, trail⟩)

/-- A program of the literal ends as the operator does. -/
theorem run_scientific {state : State} {name text : String} {fuel : Nat} {m k : Int64}
    (powers : state.switches.exponent = true) (natural : 0 ≤ m.toInt) (nonnegative : 0 ≤ k.toInt)
    (written : text.toList = scientific m.toInt.toNat k.toInt.toNat) (enough : 3 ≤ fuel) :
    EndsAs (state.machine.heap.binary .scale (.int m) (.int k)) (state.run fuel ⟨name, text⟩).1 ∧
      (state.run fuel ⟨name, text⟩).2 = state := by
  rcases Lexical.tokenize_scientific powers written (Int.toNat_of_nonneg natural).symm
    (Int.toNat_of_nonneg nonnegative).symm with ⟨tokens, last, split, kinds, ends⟩
  rcases Grammar.scaled_parses kinds ends with ⟨program, parsed, same⟩
  have read : Grammar.readProgram state.switches text = (.ok program, state.switches) := by
    simp only [Grammar.readProgram, split, parsed]
  rcases same.single_inv with ⟨node, form, sameNode⟩
  rcases sameNode.binary_inv with ⟨first, second, formNode, sameFirst, sameSecond⟩
  rcases Nat.exists_eq_add_of_le' enough with ⟨fuel, rfl⟩
  let frame := programFrame ⟨name, text⟩
  have performs : perform state.settings (fuel + 3) (.evaluate program frame) state.machine =
      applyBinary frame node.span .scale (.int m) (.int k) state.machine := by
    have leftEnd : perform state.settings (fuel + 1) (.evaluate first frame) state.machine =
        .ok (.int m) state.machine := by
      change evalNode state.settings fuel _ first frame state.machine = _
      simp only [evalNode, sameFirst.number_inv]
      rfl
    have rightEnd : perform state.settings (fuel + 1) (.evaluate second frame) state.machine =
        .ok (.int k) state.machine := by
      change evalNode state.settings fuel _ second frame state.machine = _
      simp only [evalNode, sameSecond.number_inv]
      rfl
    have inner : perform state.settings (fuel + 2) (.evaluate node frame) state.machine =
        applyBinary frame node.span .scale (.int m) (.int k) state.machine := by
      change evalNode state.settings (fuel + 1) (perform state.settings (fuel + 1)) node frame
        state.machine = _
      simp only [evalNode, formNode, evalBinary, Evaluator.eval, bind_apply, leftEnd, isTruthy,
        readHeap, reduceCtorEq, false_and, if_false, rightEnd]
    change evalNode state.settings (fuel + 2) (perform state.settings (fuel + 2)) program frame
      state.machine = _
    simp only [evalNode, form, evalSequence, Evaluator.eval, bind_apply, inner]
    cases applyBinary frame node.span .scale (.int m) (.int k) state.machine <;> rfl
  have scales := Data.scale_scales state.machine.heap m nonnegative
  simp only [State.run, read, State.evaluate]
  rw [performs]
  rcases scales.value_or_fault with ⟨word, given⟩ | ⟨fault, failed⟩
  · rw [given]
    simp only [applyBinary, bind_apply, check, given]
    exact ⟨.value, rfl⟩
  · rw [failed]
    simp only [applyBinary, bind_apply, check, failed]
    exact ⟨.fault, rfl⟩

/--
An integer times a power of ten is the exact product where that is in range and an overflow
where it is not, except that zero overflows, too, once the power of ten is out of range.  A
program of the literal ends in the same way and changes nothing.
-/
theorem powers_of_ten_exact (m k : Int64) (nonnegative : 0 ≤ k.toInt) :
    (∀ heap : Heap, Scales m k (heap.binary .scale (.int m) (.int k))) ∧
    (0 ≤ m.toInt → ∀ (state : State) (name text : String) (fuel : Nat),
      state.switches.exponent = true → text.toList = scientific m.toInt.toNat k.toInt.toNat →
      3 ≤ fuel →
      (∃ outcome, Scales m k outcome ∧ EndsAs outcome (state.run fuel ⟨name, text⟩).1) ∧
        (state.run fuel ⟨name, text⟩).2 = state) := by
  refine ⟨fun heap => Data.scale_scales heap m nonnegative, ?_⟩
  intro natural state name text fuel powers written enough
  rcases run_scientific powers natural nonnegative written enough with ⟨ends, unchanged⟩
  exact ⟨⟨_, Data.scale_scales _ m nonnegative, ends⟩, unchanged⟩

/-- The literal `25e17`, whose value is in range, and `25e18`, whose value is not. -/
theorem twenty_five_scaled :
    0 ≤ (17 : Int64).toInt ∧ 0 ≤ (18 : Int64).toInt ∧
      ((start {} {} {}).run ampleFuel ⟨"", "25e17"⟩).1 = .finished (.int 2500000000000000000) ∧
      ∃ error, ((start {} {} {}).run ampleFuel ⟨"", "25e18"⟩).1 = .failed error ∧
        error.fault.kind = .overflow := by
  have first : 0 ≤ (17 : Int64).toInt := by decide
  have second : 0 ≤ (18 : Int64).toInt := by decide
  have natural : 0 ≤ (25 : Int64).toInt := by decide
  have enough : 3 ≤ ampleFuel := by decide
  refine ⟨first, second, ?_, ?_⟩
  · rcases ((powers_of_ten_exact 25 17 first).2 natural (start {} {} {}) "" "25e17" ampleFuel rfl
      (by decide) enough).1 with ⟨outcome, scales, ends⟩
    rcases (scales.exactly (by decide)).represented (by decide) with ⟨word, rfl, value⟩
    have same : word = 2500000000000000000 := Int64.toInt_inj.mp value
    rw [same] at ends
    generalize ((start {} {} {}).run ampleFuel ⟨"", "25e17"⟩).1 = reached at ends ⊢
    cases ends
    rfl
  · rcases ((powers_of_ten_exact 25 18 second).2 natural (start {} {} {}) "" "25e18" ampleFuel rfl
      (by decide) enough).1 with ⟨outcome, scales, ends⟩
    rcases (scales.exactly (by decide)).overflows (by decide) with ⟨fault, rfl, overflow⟩
    generalize ((start {} {} {}).run ampleFuel ⟨"", "25e18"⟩).1 = reached at ends ⊢
    cases ends
    exact ⟨_, rfl, overflow⟩

/-- Zero times any power of ten is zero, but `0e19` overflows. -/
theorem zero_overflows_with_its_power :
    Number.InRange ((0 : Int64).toInt * 10 ^ (19 : Int64).toInt.toNat) ∧
      (∃ fault, startHeap.binary .scale (.int 0) (.int 19) = .error fault ∧
        fault.kind = .overflow) ∧
      ∃ error, ((start {} {} {}).run ampleFuel ⟨"", "0e19"⟩).1 = .failed error ∧
        error.fault.kind = .overflow := by
  have failed : startHeap.binary .scale (.int 0) (.int 19) = .error (.tooLarge "e") := rfl
  have natural : 0 ≤ (0 : Int64).toInt := by decide
  have nonnegative : 0 ≤ (19 : Int64).toInt := by decide
  have enough : 3 ≤ ampleFuel := by decide
  let state := start {} {} {}
  have powers : state.switches.exponent = true := rfl
  have ends : EndsAs (state.machine.heap.binary .scale (.int 0) (.int 19))
      (state.run ampleFuel ⟨"", "0e19"⟩).1 :=
    (run_scientific powers natural nonnegative (by decide) enough).1
  have same : state.machine.heap = startHeap := rfl
  rw [same, failed] at ends
  refine ⟨by decide, ⟨_, failed, rfl⟩, ?_⟩
  change ∃ error, (state.run ampleFuel ⟨"", "0e19"⟩).1 = .failed error ∧ _
  generalize (state.run ampleFuel ⟨"", "0e19"⟩).1 = outcome at ends ⊢
  cases ends
  exact ⟨_, rfl, rfl⟩

end Session
end Scripting
