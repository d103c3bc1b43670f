import Scripting.Proofs.StrandedOperands

namespace Scripting
namespace Grammar

/-!
Operators behind operands that were given up.

A sign is an operator between two operands as well.  Behind a stranded place that holds a
sign, the readers of operators go on exactly as the operand that was given up did: it is
read by the same levels, from the same place, and how far they reach does not depend on
what stands before them.  So one of them fails where that operand failed.
-/

open Lexical (Bracket Keyword Symbol Token TokenKind)
open Source (Position Span)
open Program

variable {α : Type} {tokens : List Token} {bound smaller : Nat} {place next : Place}
  {lost : Place → Prop} {nodes : List Node} {self : Descent}

theorem power_agree (ready : Ready tokens bound self) (short : smaller ≤ bound) :
    Agree tokens smaller place (power self) (power grammar)
      fun node => Settles tokens Stranded [node] := by
  refine (chain_agree ready short).bind fun base next _ settles => ?_
  refine Agree.ifEat nofun (fun next _ less _ found => ?_) (fun _ => Agree.pure settles)
  have base := settles.resolve found rfl
  refine (ready.agrees .factor _ _ (Nat.lt_of_lt_of_le less short)).bind
    fun exponent next _ settles => Agree.pure ?_
  exact .node rfl (Settles.append (.inl base) settles)

theorem inner_of_prefixOp? {kind : TokenKind} {op : UnaryOp} (found : prefixOp? kind = some op) :
    kind ≠ .endOfFile := by
  rintro rfl
  cases found

theorem factor_agree (ready : Ready tokens bound self) (short : smaller ≤ bound) :
    Agree tokens smaller place (factor self) (factor grammar)
      fun node => Settles tokens Stranded [node] := by
  refine Agree.peek ?_
  cases found : prefixOp? place.current.kind with
  | none => exact power_agree ready short
  | some op =>
      refine Agree.advance (inner_of_prefixOp? found) fun _ less _ => ?_
      refine (ready.agrees .factor _ _ (Nat.lt_of_lt_of_le less short)).bind
        fun operand next _ settles => ?_
      exact Agree.nodeFrom (.node rfl settles)

/-! ### Loops over operators -/

/-- An operand is not given up before an operator that begins no expression. -/
theorem Stranded.no_operator {ω : Type} {op? : TokenKind → Option ω} (stranded : Stranded place)
    (never : ∀ {kind op}, op? kind = some op → begins kind = false) :
    op? place.current.kind = none := by
  cases found : op? place.current.kind with
  | none => rfl
  | some op => exact stranded.absurd rfl (never found)

theorem not_begins_of_multiplicativeOp? {kind : TokenKind} {op : BinaryOp}
    (found : multiplicativeOp? kind = some op) : begins kind = false := by
  unfold multiplicativeOp? at found
  split at found <;> first | rfl | cases found

theorem not_begins_of_logicOp? {kind : TokenKind} {op : BinaryOp}
    (found : logicOp? kind = some op) : begins kind = false := by
  unfold logicOp? at found
  split at found <;> first | rfl | cases found

theorem not_begins_of_compareOp? {kind : TokenKind} {op : CompareOp}
    (found : compareOp? kind = some op) : begins kind = false := by
  unfold compareOp? at found
  split at found <;> first | rfl | cases found

section Loops

variable {op? : TokenKind → Option BinaryOp} {operand operand' : Reader Node}

/-- The operators that are looked for are not the end of the file. -/
def Inner {ω : Type} (op? : TokenKind → Option ω) : Prop :=
  op? .endOfFile = none

theorem Inner.ne {ω : Type} {op? : TokenKind → Option ω} (inner : Inner op?) {kind : TokenKind}
    {op : ω} (found : op? kind = some op) : kind ≠ .endOfFile := by
  rintro rfl
  rw [inner] at found
  cases found

theorem inner_multiplicativeOp? : Inner multiplicativeOp? := rfl

theorem inner_additiveOp? : Inner additiveOp? := rfl

theorem inner_compareOp? : Inner compareOp? := rfl

theorem inner_logicOp? : Inner logicOp? := rfl

/-- A reader that moves forward wherever it succeeds. -/
def Forward (tokens : List Token) (bound : Nat) (reader : Reader α) : Prop :=
  ∀ place, Near tokens bound place → ∀ value next, reader place = .ok (value, next) →
    place.Moves next

theorem forward_of_agree (reader : Descent → Reader α) {condition : α → Place → Prop}
    (agree : ∀ place, Agree tokens bound place (reader self) (reader grammar) condition) :
    Forward tokens bound (reader grammar) := by
  intro place near value next read
  rcases agree place near with ⟨same, ends⟩
  exact (ends value next (same ▸ read)).1

theorem leftGrouped_succ {fuel : Nat} {left : Node} {op : BinaryOp}
    (found : op? place.current.kind = some op) :
    leftGrouped op? operand (fuel + 1) left place =
      (operand >>= fun right => leftGrouped op? operand fuel (binaryNode op left right))
        place.advance := by
  have looked : peek place = .ok (place.current, place) := rfl
  rw [leftGrouped, bind_of_ok looked, found]
  rfl

theorem leftGrouped_stop {fuel : Nat} {left : Node} (ended : op? place.current.kind = none) :
    leftGrouped op? operand fuel left place = .ok (left, place) := by
  cases fuel with
  | zero => rfl
  | succ fuel =>
      have looked : peek place = .ok (place.current, place) := rfl
      rw [leftGrouped, bind_of_ok looked, ended]
      rfl

/-- How far operators of one level reach does not depend on what stands before them. -/
theorem leftGrouped_enough (inner : Inner op?) (forward : Forward tokens bound operand)
    {fuel fuel' : Nat} {left left' node : Node} (near : Near tokens bound place)
    (enough : place.rest.length < fuel) (enough' : place.rest.length < fuel')
    (read : leftGrouped op? operand fuel left place = .ok (node, next)) :
    ∃ node', leftGrouped op? operand fuel' left' place = .ok (node', next) := by
  induction fuel generalizing place fuel' left left' with
  | zero => exact absurd enough (Nat.not_lt_zero _)
  | succ fuel ih =>
      cases found : op? place.current.kind with
      | none =>
          rw [leftGrouped_stop found] at read
          cases read
          exact ⟨left', leftGrouped_stop found⟩
      | some op =>
          rw [leftGrouped_succ found] at read
          rcases bind_ok read with ⟨right, between, readOperand, readRest⟩
          rcases near.advance (inner.ne found) with ⟨moves, shorter⟩
          have moves' := forward _ (near.moves moves) _ _ readOperand
          have left := moves'.length_le
          cases fuel' with
          | zero => exact absurd enough' (Nat.not_lt_zero _)
          | succ fuel' =>
              rw [leftGrouped_succ found, bind_of_ok readOperand]
              exact ih (near.moves (moves.trans moves')) (by omega) (by omega) readRest

theorem leftGrouped_agree_any (inner : Inner op?) {condition : Node → Place → Prop}
    (operands : ∀ place, Agree tokens bound place operand operand' condition) (fuel : Nat)
    (left : Node) :
    Agree tokens bound place (leftGrouped op? operand fuel left)
      (leftGrouped op? operand' fuel left) fun _ _ => True := by
  induction fuel generalizing place left with
  | zero => exact Agree.pure trivial
  | succ fuel ih =>
      intro near
      cases found : op? place.current.kind with
      | none =>
          rw [leftGrouped_stop found, leftGrouped_stop found]
          exact Agree.pure trivial near
      | some op =>
          rcases near.advance (inner.ne found) with ⟨moves, -⟩
          refine Agree.later moves (leftGrouped_succ found) (leftGrouped_succ found)
            (near.moves moves).within ?_ near
          exact (operands _).bind fun right next _ _ => ih (binaryNode op left right)

/--
Operands of one level with operators between them.  Where an operand ends at a place that
is lost, what the loop does from there on decides how it ends.
-/
theorem leftGrouped_agree (inner : Inner op?) {lost' : Place → Prop}
    (operands : ∀ place, Agree tokens bound place operand operand' fun node =>
      Settles tokens lost [node])
    (escapes : ∀ place, Near tokens bound place → lost place → ∀ fuel left node next,
      place.rest.length < fuel → leftGrouped op? operand' fuel left place = .ok (node, next) →
      lost' next)
    {fuel : Nat} (enough : place.rest.length < fuel) {left : Node}
    (start : Settles tokens lost [left] place) :
    Agree tokens bound place (leftGrouped op? operand fuel left)
      (leftGrouped op? operand' fuel left) fun node => Settles tokens lost' [node] := by
  induction fuel generalizing place left with
  | zero => exact absurd enough (Nat.not_lt_zero _)
  | succ fuel ih =>
      intro near
      rcases start with all | gone
      · cases found : op? place.current.kind with
        | none =>
            rw [leftGrouped_stop found, leftGrouped_stop found]
            exact Agree.pure (Or.inl all) near
        | some op =>
            rcases near.advance (inner.ne found) with ⟨moves, shorter⟩
            refine Agree.later moves (leftGrouped_succ found) (leftGrouped_succ found)
              (near.moves moves).within ?_ near
            refine (operands _).bind fun right next moves' settles => ih ?_ ?_
            · have := moves'.length_le
              omega
            · exact .node rfl (Settles.append (.inl all) settles)
      · rcases leftGrouped_agree_any inner operands (fuel + 1) left near with ⟨same, ends⟩
        refine ⟨same, fun node next read => ⟨(ends node next read).1, Or.inr ?_⟩⟩
        exact escapes place near gone _ _ _ _ enough (same ▸ read)

theorem comparisonLinks_succ {fuel : Nat} {op : CompareOp}
    (found : compareOp? place.current.kind = some op) :
    comparisonLinks operand (fuel + 1) place =
      (operand >>= fun right => comparisonLinks operand fuel >>= fun others =>
        pure ((op, right) :: others)) place.advance := by
  have looked : peek place = .ok (place.current, place) := rfl
  rw [comparisonLinks, bind_of_ok looked, found]
  rfl

theorem comparisonLinks_stop {fuel : Nat} (ended : compareOp? place.current.kind = none) :
    comparisonLinks operand fuel place = .ok ([], place) := by
  cases fuel with
  | zero => rfl
  | succ fuel =>
      have looked : peek place = .ok (place.current, place) := rfl
      rw [comparisonLinks, bind_of_ok looked, ended]
      rfl

/-- How far the links of a comparison reach depends on the place alone. -/
theorem comparisonLinks_enough (forward : Forward tokens bound operand) {fuel fuel' : Nat}
    {links : List (CompareOp × Node)} (near : Near tokens bound place)
    (enough : place.rest.length < fuel) (enough' : place.rest.length < fuel')
    (read : comparisonLinks operand fuel place = .ok (links, next)) :
    ∃ links', comparisonLinks operand fuel' place = .ok (links', next) := by
  induction fuel generalizing place fuel' links with
  | zero => exact absurd enough (Nat.not_lt_zero _)
  | succ fuel ih =>
      cases found : compareOp? place.current.kind with
      | none =>
          rw [comparisonLinks_stop found] at read
          cases read
          exact ⟨[], comparisonLinks_stop found⟩
      | some op =>
          rw [comparisonLinks_succ found] at read
          rcases bind_ok read with ⟨right, between, readOperand, readRest⟩
          rcases bind_ok readRest with ⟨others, last, readOthers, done⟩
          cases done
          rcases near.advance (inner_compareOp?.ne found) with ⟨moves, shorter⟩
          have moves' := forward _ (near.moves moves) _ _ readOperand
          have left := moves'.length_le
          cases fuel' with
          | zero => exact absurd enough' (Nat.not_lt_zero _)
          | succ fuel' =>
              have enough' : between.rest.length < fuel' := by omega
              rcases ih (near.moves (moves.trans moves')) (by omega) enough' readOthers
                with ⟨links', again⟩
              refine ⟨(op, right) :: links', ?_⟩
              rw [comparisonLinks_succ found, bind_of_ok readOperand, bind_of_ok again]
              rfl

theorem comparisonLinks_agree_any {condition : Node → Place → Prop}
    (operands : ∀ place, Agree tokens bound place operand operand' condition) (fuel : Nat) :
    Agree tokens bound place (comparisonLinks operand fuel) (comparisonLinks operand' fuel)
      fun _ _ => True := by
  induction fuel generalizing place with
  | zero => exact Agree.pure trivial
  | succ fuel ih =>
      intro near
      cases found : compareOp? place.current.kind with
      | none =>
          rw [comparisonLinks_stop found, comparisonLinks_stop found]
          exact Agree.pure trivial near
      | some op =>
          rcases near.advance (inner_compareOp?.ne found) with ⟨moves, -⟩
          refine Agree.later moves (comparisonLinks_succ found) (comparisonLinks_succ found)
            (near.moves moves).within ?_ near
          refine (operands _).bind fun right next _ _ => ?_
          exact ih.bind fun others _ _ _ => Agree.pure trivial

theorem fallbackOperands_succ {fuel : Nat} (found : place.current.kind = .symbol .question) :
    fallbackOperands operand (fuel + 1) place =
      (operand >>= fun node => fallbackOperands operand fuel >>= fun others =>
        pure (node :: others)) place.advance := by
  have passed : eat (.symbol .question) place = .ok (true, place.advance) := if_pos found
  exact bind_of_ok passed

theorem fallbackOperands_stop {fuel : Nat} (ended : place.current.kind ≠ .symbol .question) :
    fallbackOperands operand fuel place = .ok ([], place) := by
  cases fuel with
  | zero => rfl
  | succ fuel =>
      have stays : eat (.symbol .question) place = .ok (false, place) := if_neg ended
      exact bind_of_ok stays

/-- How far the operands of a fallback reach depends on the place alone. -/
theorem fallbackOperands_enough (forward : Forward tokens bound operand) {fuel fuel' : Nat}
    {nodes : List Node} (near : Near tokens bound place)
    (enough : place.rest.length < fuel) (enough' : place.rest.length < fuel')
    (read : fallbackOperands operand fuel place = .ok (nodes, next)) :
    ∃ nodes', fallbackOperands operand fuel' place = .ok (nodes', next) := by
  induction fuel generalizing place fuel' nodes with
  | zero => exact absurd enough (Nat.not_lt_zero _)
  | succ fuel ih =>
      by_cases found : place.current.kind = .symbol .question
      · rw [fallbackOperands_succ found] at read
        rcases bind_ok read with ⟨right, between, readOperand, readRest⟩
        rcases bind_ok readRest with ⟨others, last, readOthers, done⟩
        cases done
        rcases near.advance (by rw [found]; nofun) with ⟨moves, shorter⟩
        have moves' := forward _ (near.moves moves) _ _ readOperand
        have left := moves'.length_le
        cases fuel' with
        | zero => exact absurd enough' (Nat.not_lt_zero _)
        | succ fuel' =>
            have enough' : between.rest.length < fuel' := by omega
            rcases ih (near.moves (moves.trans moves')) (by omega) enough' readOthers
              with ⟨nodes', again⟩
            refine ⟨right :: nodes', ?_⟩
            rw [fallbackOperands_succ found, bind_of_ok readOperand, bind_of_ok again]
            rfl
      · rw [fallbackOperands_stop found] at read
        cases read
        exact ⟨[], fallbackOperands_stop found⟩

theorem fallbackOperands_agree_any {condition : Node → Place → Prop}
    (operands : ∀ place, Agree tokens bound place operand operand' condition) (fuel : Nat) :
    Agree tokens bound place (fallbackOperands operand fuel) (fallbackOperands operand' fuel)
      fun _ _ => True := by
  induction fuel generalizing place with
  | zero => exact Agree.pure trivial
  | succ fuel ih =>
      intro near
      by_cases found : place.current.kind = .symbol .question
      · rcases near.advance (by rw [found]; nofun) with ⟨moves, -⟩
        refine Agree.later moves (fallbackOperands_succ found) (fallbackOperands_succ found)
          (near.moves moves).within ?_ near
        refine (operands _).bind fun node next _ _ => ?_
        exact ih.bind fun others _ _ _ => Agree.pure trivial
      · rw [fallbackOperands_stop found, fallbackOperands_stop found]
        exact Agree.pure trivial near

end Loops

theorem term_agree (ready : Ready tokens bound self) (short : smaller ≤ bound) :
    Agree tokens smaller place (term self) (term grammar)
      fun node => Settles tokens Stranded [node] := by
  refine (factor_agree ready short).bind fun first next _ settles => ?_
  refine Agree.repeated fun fuel enough => ?_
  refine leftGrouped_agree inner_multiplicativeOp? (fun _ => factor_agree ready short) ?_ enough
    settles
  intro place _ stranded fuel left node next _ read
  rw [leftGrouped_stop (stranded.no_operator not_begins_of_multiplicativeOp?)] at read
  cases read
  exact stranded

/-! ### Behind a sign -/

theorem prefixOp?_of_additiveOp? {kind : TokenKind} {op : BinaryOp}
    (found : additiveOp? kind = some op) :
    (∃ sign, prefixOp? kind = some sign) ∧ kind = binaryToken op := by
  unfold additiveOp? at found
  split at found
  · cases found
    exact ⟨⟨_, rfl⟩, rfl⟩
  · cases found
    exact ⟨⟨_, rfl⟩, rfl⟩
  · cases found

theorem factor_forward (ready : Ready tokens bound self) :
    Forward tokens bound (factor grammar) :=
  forward_of_agree factor fun _ => factor_agree ready (Nat.le_refl _)

theorem term_forward (ready : Ready tokens bound self) : Forward tokens bound (term grammar) :=
  forward_of_agree term fun _ => term_agree ready (Nat.le_refl _)

/--
A sum that begins with a sign is read like the operands behind the sign in the middle of a
sum: the operand right behind the sign, then what is multiplied with it, then the rest.
-/
theorem sum_of_sign (ready : Ready tokens bound self) (near : Near tokens bound place)
    {op : BinaryOp} (sign : additiveOp? place.current.kind = some op) {fuel : Nat}
    {left node : Node} (enough : place.rest.length < fuel)
    (read : leftGrouped additiveOp? (term grammar) fuel left place = .ok (node, next)) :
    ∃ whole, sum grammar place = .ok (whole, next) := by
  rcases prefixOp?_of_additiveOp? sign with ⟨⟨signOp, prefixed⟩, -⟩
  rcases near.advance (inner_additiveOp?.ne sign) with ⟨moves, shorter⟩
  have nearBehind := near.moves moves
  cases fuel with
  | zero => exact absurd enough (Nat.not_lt_zero _)
  | succ fuel =>
      rw [leftGrouped_succ sign] at read
      rcases bind_ok read with ⟨right, afterTerm, readTerm, readRest⟩
      rcases bind_ok readTerm with ⟨operand, afterFactor, readFactor, readProduct⟩
      -- The factor behind the sign, with the sign before it.
      have inside : grammar .factor place.advance = .ok (operand, afterFactor) := by
        have near' : Near tokens place.advance.rest.length place.advance :=
          ⟨nearBehind.closed, nearBehind.behind, Nat.le_refl _⟩
        rw [ready.unfolds .factor _ _ (Nat.lt_of_lt_of_le shorter near.within) near']
        exact readFactor
      have signed : ∃ first, factor grammar place = .ok (first, afterFactor) := by
        refine ⟨⟨afterFactor.spanAfter place.current.span.start, .unary signOp operand⟩, ?_⟩
        have looked : peek place = .ok (place.current, place) := rfl
        have passed : advance place = .ok (place.current, place.advance) := rfl
        rw [factor, bind_of_ok looked, prefixed]
        exact (bind_of_ok passed).trans (bind_of_ok inside)
      rcases signed with ⟨first, readFirst⟩
      have movesFactor := factor_forward ready _ nearBehind _ _ readFactor
      have nearFactor := nearBehind.moves movesFactor
      rcases leftGrouped_enough inner_multiplicativeOp? (factor_forward ready) nearFactor
        (Nat.lt_succ_self _) (Nat.lt_succ_self _) readProduct with ⟨product, readProduct'⟩
      have readTerm' : term grammar place = .ok (product, afterTerm) :=
        (bind_of_ok readFirst).trans readProduct'
      have movesTerm := term_forward ready _ nearBehind _ _ readTerm
      have shorterTerm := movesTerm.length_le
      rcases leftGrouped_enough inner_additiveOp? (term_forward ready)
        (nearBehind.moves movesTerm) (by omega) (Nat.lt_succ_self _) readRest with ⟨whole, readSum⟩
      exact ⟨whole, (bind_of_ok readTerm').trans readSum⟩

theorem sum_agree_any (ready : Ready tokens bound self) :
    Agree tokens bound place (sum self) (sum grammar) fun _ _ => True := by
  refine (term_agree ready (Nat.le_refl _)).bind fun first next _ _ => ?_
  exact Agree.repeated fun fuel _ => leftGrouped_agree_any inner_additiveOp?
    (fun _ => term_agree ready (Nat.le_refl _)) fuel first

theorem sum_forward (ready : Ready tokens bound self) : Forward tokens bound (sum grammar) :=
  forward_of_agree sum fun _ => sum_agree_any ready

theorem comparison_agree_any (ready : Ready tokens bound self) :
    Agree tokens bound place (comparison self) (comparison grammar) fun _ _ => True := by
  refine Agree.peek ?_
  by_cases negated : place.current.kind = .keyword .notWord
  · rw [if_pos negated, if_pos negated]
    refine Agree.advance (by rw [negated]; nofun) fun _ less _ => ?_
    refine (ready.agrees .comparison _ _ less).bind fun operand next _ _ => ?_
    exact Agree.nodeFrom trivial
  · rw [if_neg negated, if_neg negated]
    refine (sum_agree_any ready).bind fun first next _ _ => ?_
    refine (Agree.repeated fun fuel _ =>
      comparisonLinks_agree_any (fun _ => sum_agree_any ready) fuel).bind fun links next _ _ => ?_
    cases links.getLast? with
    | none => exact Agree.pure trivial
    | some last => exact Agree.pure trivial

theorem comparison_forward (ready : Ready tokens bound self) :
    Forward tokens bound (comparison grammar) :=
  forward_of_agree comparison fun _ => comparison_agree_any ready

theorem logic_agree_any (ready : Ready tokens bound self) :
    Agree tokens bound place (logic self) (logic grammar) fun _ _ => True := by
  refine (comparison_agree_any ready).bind fun first next _ _ => ?_
  exact Agree.repeated fun fuel _ => leftGrouped_agree_any inner_logicOp?
    (fun _ => comparison_agree_any ready) fuel first

theorem logic_forward (ready : Ready tokens bound self) : Forward tokens bound (logic grammar) :=
  forward_of_agree logic fun _ => logic_agree_any ready

/-- A comparison without a negation reaches as far as the links behind its first sum. -/
theorem comparison_of_sum (ready : Ready tokens bound self) (near : Near tokens bound place)
    (unnegated : place.current.kind ≠ .keyword .notWord) {first : Node} {between : Place}
    (readSum : sum grammar place = .ok (first, between)) (links : LinksPass between next) :
    ∃ node, comparison grammar place = .ok (node, next) := by
  rcases links with ⟨fuel, given, enough, readLinks⟩
  have moves := sum_forward ready _ near _ _ readSum
  rcases comparisonLinks_enough (sum_forward ready) (near.moves moves) enough
    (Nat.lt_succ_self _) readLinks with ⟨links, readLinks'⟩
  have looped : repeated (comparisonLinks (sum grammar)) between = .ok (links, next) := readLinks'
  have looked : peek place = .ok (place.current, place) := rfl
  rw [comparison, bind_of_ok looked, if_neg unnegated, bind_of_ok readSum, bind_of_ok looped]
  cases links.getLast? with
  | none => exact ⟨_, rfl⟩
  | some last => exact ⟨_, rfl⟩

/-- A logical expression reaches as far as the operators behind its first comparison. -/
theorem logic_of_comparison (ready : Ready tokens bound self) (near : Near tokens bound place)
    {first : Node} {between : Place}
    (readFirst : comparison grammar place = .ok (first, between))
    (passes : LogicPasses between next) : ∃ node, logic grammar place = .ok (node, next) := by
  rcases passes with ⟨fuel, left, node, enough, read⟩
  have moves := comparison_forward ready _ near _ _ readFirst
  rcases leftGrouped_enough inner_logicOp? (comparison_forward ready) (near.moves moves) enough
    (Nat.lt_succ_self _) read with ⟨node', read'⟩
  exact ⟨node', (bind_of_ok readFirst).trans read'⟩

/-- A fallback reaches as far as the operands behind its first one. -/
theorem fallback_of_logic (ready : Ready tokens bound self) (near : Near tokens bound place)
    {first : Node} {between : Place} (readFirst : logic grammar place = .ok (first, between))
    (passes : OperandsPass between next) : ∃ node, fallback grammar place = .ok (node, next) := by
  rcases passes with ⟨fuel, given, enough, read⟩
  have moves := logic_forward ready _ near _ _ readFirst
  rcases fallbackOperands_enough (logic_forward ready) (near.moves moves) enough
    (Nat.lt_succ_self _) read with ⟨others, read'⟩
  have looped : repeated (fallbackOperands (logic grammar)) between = .ok (others, next) := read'
  rw [fallback, bind_of_ok readFirst, bind_of_ok looped]
  cases others.getLast? with
  | none => exact ⟨_, rfl⟩
  | some last => exact ⟨_, rfl⟩

/-- Behind a sign before which an operand was given up, the rest of the sum is lost too. -/
theorem Stranded.behind_sign (ready : Ready tokens bound self) (near : Near tokens bound place)
    (stranded : Stranded place) {op : BinaryOp} (sign : additiveOp? place.current.kind = some op)
    {fuel : Nat} {left node : Node} (enough : place.rest.length < fuel)
    (read : leftGrouped additiveOp? (term grammar) fuel left place = .ok (node, next)) :
    LostBehindSum next := by
  rcases sum_of_sign ready near sign enough read with ⟨first, readSum⟩
  intro afterLinks links afterLogic passes last operands
  have token := (prefixOp?_of_additiveOp? sign).2
  have unnegated : place.current.kind ≠ .keyword .notWord := by
    rw [token]
    cases op <;> nofun
  rcases comparison_of_sum ready near unnegated readSum links with ⟨compared, readComparison⟩
  rcases logic_of_comparison ready near readComparison passes with ⟨joined, readLogic⟩
  rcases fallback_of_logic ready near readLogic operands with ⟨whole, readFallback⟩
  refine stranded.fails (whole, last) ?_
  have looked : peek place = .ok (place.current, place) := rfl
  rw [expression, bind_of_ok looked, token]
  cases op <;> exact readFallback

/-! ### Levels of operators -/

theorem sum_agree (ready : Ready tokens bound self) (short : smaller ≤ bound) :
    Agree tokens smaller place (sum self) (sum grammar)
      fun node => Settles tokens (Barred LostBehindSum) [node] := by
  refine (term_agree ready short).bind fun first next _ settles => ?_
  refine Agree.repeated fun fuel enough => ?_
  refine leftGrouped_agree inner_additiveOp? (fun _ => term_agree ready short) ?_ enough settles
  intro place near stranded fuel left node next enough read
  cases sign : additiveOp? place.current.kind with
  | none =>
      rw [leftGrouped_stop sign] at read
      cases read
      exact .inl ⟨stranded, sign⟩
  | some op =>
      have near' : Near tokens bound place := ⟨near.closed, near.behind, Nat.le_trans near.within short⟩
      exact .inr (stranded.behind_sign ready near' sign enough read)

theorem comparisonLinks_agree (ready : Ready tokens bound self) (short : smaller ≤ bound)
    {fuel : Nat} (enough : place.rest.length < fuel)
    (start : Settles tokens (Barred LostBehindSum) nodes place) :
    Agree tokens smaller place (comparisonLinks (sum self) fuel)
      (comparisonLinks (sum grammar) fuel) fun links =>
        Settles tokens (Barred LostBehindComparison) (nodes ++ links.map Prod.snd) := by
  induction fuel generalizing place nodes with
  | zero => exact absurd enough (Nat.not_lt_zero _)
  | succ fuel ih =>
      intro near
      rcases start with all | ⟨stranded, unsigned⟩ | gone
      · cases found : compareOp? place.current.kind with
        | none =>
            rw [comparisonLinks_stop found, comparisonLinks_stop found]
            refine Agree.pure (Or.inl ?_) near
            exact all.append .nil
        | some op =>
            rcases near.advance (inner_compareOp?.ne found) with ⟨moves, shorter⟩
            refine Agree.later moves (comparisonLinks_succ found) (comparisonLinks_succ found)
              (near.moves moves).within ?_ near
            refine (sum_agree ready short).bind fun right next moves' settles => ?_
            have left := moves'.length_le
            have enough' : next.rest.length < fuel := by omega
            refine (ih enough' (Settles.append (.inl all) settles)).bind fun others _ _ later => ?_
            refine Agree.pure ?_
            rw [List.append_assoc] at later
            exact later
      · have ended := stranded.no_operator not_begins_of_compareOp?
        rw [comparisonLinks_stop ended, comparisonLinks_stop ended]
        exact Agree.pure (Or.inr (Or.inl ⟨stranded, unsigned⟩)) near
      · rcases comparisonLinks_agree_any (fun _ => sum_agree ready short) (fuel + 1) near
          with ⟨same, ends⟩
        refine ⟨same, fun links next read => ⟨(ends links next read).1, Or.inr (Or.inr ?_)⟩⟩
        exact gone next ⟨fuel + 1, links, enough, same ▸ read⟩

theorem comparison_agree (ready : Ready tokens bound self) (short : smaller ≤ bound) :
    Agree tokens smaller place (comparison self) (comparison grammar)
      fun node => Settles tokens (Barred LostBehindComparison) [node] := by
  refine Agree.peek ?_
  by_cases negated : place.current.kind = .keyword .notWord
  · rw [if_pos negated, if_pos negated]
    refine Agree.advance (by rw [negated]; nofun) fun _ less _ => ?_
    refine (ready.agrees .comparison _ _ (Nat.lt_of_lt_of_le less short)).bind
      fun operand next _ settles => ?_
    exact Agree.nodeFrom (.node rfl settles)
  · rw [if_neg negated, if_neg negated]
    refine (sum_agree ready short).bind fun first next _ start => ?_
    refine (Agree.repeated fun fuel enough => comparisonLinks_agree ready short enough start).bind
      fun links next _ settles => ?_
    cases last : links.getLast? with
    | none =>
        rw [List.getLast?_eq_none_iff.mp last] at settles
        exact Agree.pure settles
    | some link => exact Agree.pure (.node rfl settles)

theorem logic_agree (ready : Ready tokens bound self) (short : smaller ≤ bound) :
    Agree tokens smaller place (logic self) (logic grammar)
      fun node => Settles tokens (Barred LostBehindLogic) [node] := by
  refine (comparison_agree ready short).bind fun first next _ settles => ?_
  refine Agree.repeated fun fuel enough => ?_
  refine leftGrouped_agree inner_logicOp? (fun _ => comparison_agree ready short) ?_ enough settles
  intro place near gone fuel left node next enough read
  rcases gone with ⟨stranded, unsigned⟩ | gone
  · rw [leftGrouped_stop (stranded.no_operator not_begins_of_logicOp?)] at read
    cases read
    exact .inl ⟨stranded, unsigned⟩
  · exact .inr (gone next ⟨fuel, left, node, enough, read⟩)

theorem fallbackOperands_agree (ready : Ready tokens bound self) (short : smaller ≤ bound)
    {fuel : Nat} (enough : place.rest.length < fuel)
    (start : Settles tokens (Barred LostBehindLogic) nodes place) :
    Agree tokens smaller place (fallbackOperands (logic self) fuel)
      (fallbackOperands (logic grammar) fuel) fun others =>
        Settles tokens Stranded (nodes ++ others) := by
  induction fuel generalizing place nodes with
  | zero => exact absurd enough (Nat.not_lt_zero _)
  | succ fuel ih =>
      intro near
      rcases start with all | ⟨stranded, -⟩ | gone
      · by_cases found : place.current.kind = .symbol .question
        · rcases near.advance (by rw [found]; nofun) with ⟨moves, shorter⟩
          refine Agree.later moves (fallbackOperands_succ found) (fallbackOperands_succ found)
            (near.moves moves).within ?_ near
          refine (logic_agree ready short).bind fun node next moves' settles => ?_
          have left := moves'.length_le
          have enough' : next.rest.length < fuel := by omega
          refine (ih enough' (Settles.append (.inl all) settles)).bind fun others _ _ later => ?_
          refine Agree.pure ?_
          rw [List.append_assoc] at later
          exact later
        · rw [fallbackOperands_stop found, fallbackOperands_stop found]
          refine Agree.pure (Or.inl ?_) near
          exact all.append .nil
      · have ended : place.current.kind ≠ .symbol .question :=
          fun found => stranded.absurd found rfl
        rw [fallbackOperands_stop ended, fallbackOperands_stop ended]
        exact Agree.pure (Or.inr stranded) near
      · rcases fallbackOperands_agree_any (fun _ => logic_agree ready short) (fuel + 1) near
          with ⟨same, -⟩
        refine ⟨same, fun others next read => ?_⟩
        exact absurd ⟨fuel + 1, others, enough, same ▸ read⟩ (gone next)

theorem fallback_agree (ready : Ready tokens bound self) (short : smaller ≤ bound) :
    Agree tokens smaller place (fallback self) (fallback grammar)
      fun node => Settles tokens Stranded [node] := by
  refine (logic_agree ready short).bind fun first next _ start => ?_
  refine (Agree.repeated fun fuel enough => fallbackOperands_agree ready short enough start).bind
    fun others next _ settles => ?_
  cases last : others.getLast? with
  | none =>
      rw [List.getLast?_eq_none_iff.mp last] at settles
      exact Agree.pure settles
  | some node => exact Agree.pure (.node rfl settles)

end Grammar
end Scripting
