import Scripting.Proofs.ParserProgress
import Scripting.Proofs.Spellings

namespace Scripting
namespace Grammar

/-!
Round brackets in place of an operand.

An operand that is tried and given up may begin with a round bracket.  It is given up only
there where more is wrong than what stands between the brackets, or where that is no single
expression.  In the first case the bracket, taken for the arguments of a call instead, leads
to a place where the operators behind the call fail as they did behind the operand: they are
read by the same levels, from the same place, and how far they reach does not depend on what
stands before them.
-/

open Lexical (Bracket Keyword Symbol Token TokenKind leavesAll? leavesAll?_cons leavesAll?_append)
open Source (Position Span)
open Program

/-! ## Brackets close inside the part that opens them -/

/-- The brackets that are open where the tokens of a part begin. -/
def Part.opened : Part → List Bracket → List Bracket
  | .bracketed bracket, outside => bracket :: outside
  | _, outside => outside

/-- What announces a clause holds no brackets. -/
def Part.Unled : Part → Prop
  | .clause lead => ∀ kind ∈ lead, kind.Unbracketed
  | _ => True

section Brackets

variable (opened : List Bracket)

@[simp] theorem leavesAll?_nil : leavesAll? opened [] = some opened := rfl

theorem leavesAll?_unbracketed {kinds : List TokenKind}
    (unbracketed : ∀ kind ∈ kinds, kind.Unbracketed) : leavesAll? opened kinds = some opened := by
  induction kinds with
  | nil => rfl
  | cons kind kinds ih =>
      rcases List.forall_mem_cons.mp unbracketed with ⟨here, later⟩
      rw [leavesAll?_cons, TokenKind.leaves?_of_unbracketed here, Option.bind_some, ih later]

theorem leavesAll?_newlines {gap : List TokenKind} (newlines : Newlines gap) :
    leavesAll? opened gap = some opened := by
  refine leavesAll?_unbracketed opened fun kind member => ?_
  rw [newlines kind member]
  trivial

@[simp] theorem leaves?_opening (bracket : Bracket) :
    (TokenKind.opening bracket).leaves? opened = some (bracket :: opened) := rfl

@[simp] theorem leaves?_closing (bracket : Bracket) :
    (TokenKind.closing bracket).leaves? (bracket :: opened) = some opened := by
  simp [TokenKind.leaves?]

@[simp] theorem leaves?_keyword (word : Keyword) :
    (TokenKind.keyword word).leaves? opened = some opened := rfl

@[simp] theorem leaves?_symbol (mark : Symbol) :
    (TokenKind.symbol mark).leaves? opened = some opened := rfl

@[simp] theorem leaves?_identifier (name : String) :
    (TokenKind.identifier name).leaves? opened = some opened := rfl

@[simp] theorem leaves?_text (value : String) :
    (TokenKind.text value).leaves? opened = some opened := rfl

@[simp] theorem leaves?_newline : TokenKind.newline.leaves? opened = some opened := rfl

@[simp] theorem leaves?_binaryToken (op : BinaryOp) :
    (binaryToken op).leaves? opened = some opened := by
  cases op <;> rfl

@[simp] theorem leaves?_compareToken (op : CompareOp) :
    (compareToken op).leaves? opened = some opened := by
  cases op <;> rfl

@[simp] theorem leaves?_unaryToken (op : UnaryOp) :
    (unaryToken op).leaves? opened = some opened := by
  cases op <;> rfl

@[simp] theorem leaves?_literalToken (value : Literal) :
    (literalToken value).leaves? opened = some opened := by
  cases value <;> rfl

@[simp] theorem leaves?_writeToken (overwrite : Bool) :
    (writeToken overwrite).leaves? opened = some opened := by
  cases overwrite <;> rfl

theorem leaves?_of_assignToken? {op : AssignOp} {mark : TokenKind}
    (found : assignToken? op = some mark) : mark.leaves? opened = some opened := by
  unfold assignToken? at found
  split at found <;> cases found <;> rfl

@[simp] theorem leavesAll?_afterSymbol (mark : Symbol) (name : Option String) :
    leavesAll? opened (namedAfter (.symbol mark) name) = some opened := by
  cases name <;> rfl

@[simp] theorem leavesAll?_afterWord (word : Keyword) (name : Option String) :
    leavesAll? opened (namedAfter (.keyword word) name) = some opened := by
  cases name <;> rfl

@[simp] theorem leavesAll?_closing (block : Bool) :
    leavesAll? opened (closing block) = some opened := by
  cases block <;> rfl

@[simp] theorem leavesAll?_nameTokens (name : Option String) :
    leavesAll? opened (nameTokens name) = some opened := by
  cases name <;> rfl

theorem Exponent.closes {kinds : List TokenKind} {value : Int64} (exponent : Exponent kinds value) :
    leavesAll? opened kinds = some opened := by
  cases exponent <;> rfl

end Brackets

@[simp] theorem unled_symbol (mark : Symbol) : (Part.clause [.symbol mark]).Unled := by
  intro kind member
  cases List.mem_singleton.mp member
  trivial

@[simp] theorem unled_keyword (word : Keyword) : (Part.clause [.keyword word]).Unled := by
  intro kind member
  cases List.mem_singleton.mp member
  trivial

/-- The tokens of a part close exactly the brackets that they open. -/
theorem Derives.closes {part : Part} {kinds : List TokenKind} {tree : part.Tree}
    (derives : Derives part kinds tree) (unled : part.Unled) (outside : List Bracket) :
    leavesAll? (part.opened outside) kinds = some outside := by
  induction derives generalizing outside with
  | assign _ operator _ targets values =>
      have targets := targets trivial outside
      have values := values trivial outside
      simp only [Part.opened] at targets values ⊢
      simp [leavesAll?_append, leavesAll?_cons, leaves?_of_assignToken? outside operator, targets,
        values]
  | clause _ given =>
      have given := given trivial outside
      simp only [Part.opened] at given ⊢
      rw [leavesAll?_append, leavesAll?_unbracketed outside unled, Option.bind_some, given]
  | assertion _ _ condition message =>
      have condition := condition trivial outside
      have message := message (unled_symbol _) outside
      simp only [Part.opened] at condition message ⊢
      simp [leavesAll?_append, leavesAll?_cons, condition, message]
  | countedLoop _ _ _ _ first last step body =>
      have step := step (unled_keyword _) outside
      simp_all [Part.opened, Part.Unled, leavesAll?_append, leavesAll?_cons]
  | scaled exponent => simp [Part.opened, leavesAll?_cons, exponent.closes]
  | endlessLoop optionalWord =>
      rcases optionalWord with rfl | rfl <;>
        simp_all [Part.opened, Part.Unled, leavesAll?_append, leavesAll?_cons]
  | _ =>
      simp_all [Part.opened, Part.Unled, leavesAll?_append, leavesAll?_cons, leavesAll?_newlines]

/-! ## Operators behind an operand -/

variable {tokens : List Token} {bound : Nat} {place next between : Place}

/-- The calls that follow a place end at another. -/
def CallsPass (place next : Place) : Prop :=
  ∃ callee node, called grammar callee place = .ok (node, next)

/-- The attributes that follow a place end at another. -/
def StepsPass (place next : Place) : Prop :=
  ∃ steps, repeated (attributeSteps grammar) place = .ok (steps, next)

/-- The exponent that may follow a place ends at another. -/
def PowerPasses (place next : Place) : Prop :=
  (place.current.kind ≠ .symbol .caret ∧ next = place) ∨
    (place.current.kind = .symbol .caret ∧
      ∃ node, grammar .factor place.advance = .ok (node, next))

/-- The operands of a product that follow a place end at another. -/
def ProductPasses (place next : Place) : Prop :=
  ∃ fuel left node, place.rest.length < fuel ∧
    leftGrouped multiplicativeOp? (factor grammar) fuel left place = .ok (node, next)

/-- The operands of a sum that follow a place end at another. -/
def SumPasses (place next : Place) : Prop :=
  ∃ fuel left node, place.rest.length < fuel ∧
    leftGrouped additiveOp? (term grammar) fuel left place = .ok (node, next)

/-- What follows a product here cannot be read. -/
def LostBehindTerm (place : Place) : Prop :=
  ∀ next, SumPasses place next → LostBehindSum next

/-- What follows a factor here cannot be read. -/
def LostBehindFactor (place : Place) : Prop :=
  ∀ next, ProductPasses place next → LostBehindTerm next

/-- What follows an attribute chain here cannot be read. -/
def LostBehindChain (place : Place) : Prop :=
  ∀ next, PowerPasses place next → LostBehindFactor next

/-- What follows calls here cannot be read. -/
def LostBehindCalls (place : Place) : Prop :=
  ∀ next, StepsPass place next → LostBehindChain next

/-- How far calls reach does not depend on what is called. -/
theorem callSuffixes_reach {fuel : Nat} {callee node : Node} (callee' : Node)
    (read : callSuffixes grammar fuel callee place = .ok (node, next)) :
    ∃ node', callSuffixes grammar fuel callee' place = .ok (node', next) := by
  induction fuel generalizing place callee callee' with
  | zero =>
      cases read
      exact ⟨callee', rfl⟩
  | succ fuel ih =>
      by_cases found : place.current.kind = .opening .round
      · have passed : eat (.opening .round) place = .ok (true, place.advance) := if_pos found
        rw [callSuffixes, bind_of_ok passed] at read ⊢
        rcases bind_ok read with ⟨given, behind, readArguments, more⟩
        rcases ih (⟨behind.spanAfter callee'.span.start, .call callee' given⟩) more with ⟨node', again⟩
        exact ⟨node', (bind_of_ok readArguments).trans again⟩
      · have stays : eat (.opening .round) place = .ok (false, place) := if_neg found
        rw [callSuffixes, bind_of_ok stays] at read ⊢
        cases read
        exact ⟨callee', rfl⟩

/-- A chain reaches as far as the calls and the attributes behind its atom. -/
theorem chain_reaches {node : Node} {calls : Place}
    (readAtom : atom grammar place = .ok (node, between)) (called : CallsPass between calls)
    (steps : StepsPass calls next) : ∃ node, chain grammar place = .ok (node, next) := by
  rcases called with ⟨callee, base, readCalls⟩
  rcases callSuffixes_reach node readCalls with ⟨base', readBase⟩
  have readBase : Grammar.called grammar node between = .ok (base', calls) := readBase
  rcases steps with ⟨steps, readSteps⟩
  exact ⟨_, (bind_of_ok readAtom).trans ((bind_of_ok readBase).trans (bind_of_ok readSteps))⟩

/-- A power reaches as far as the exponent behind its base. -/
theorem power_reaches {node : Node} (readChain : chain grammar place = .ok (node, between))
    (power : PowerPasses between next) : ∃ node, Grammar.power grammar place = .ok (node, next) := by
  rcases power with ⟨other, rfl⟩ | ⟨caret, exponent, readExponent⟩
  · have stays : eat (.symbol .caret) next = .ok (false, next) := if_neg other
    exact ⟨_, (bind_of_ok readChain).trans (bind_of_ok stays)⟩
  · have passed : eat (.symbol .caret) between = .ok (true, between.advance) := if_pos caret
    exact ⟨_, (bind_of_ok readChain).trans ((bind_of_ok passed).trans (bind_of_ok readExponent))⟩

/-- A product reaches as far as the operands behind its first factor. -/
theorem term_reaches (near : Near tokens bound place) {node : Node}
    (readFactor : factor grammar place = .ok (node, between))
    (product : ProductPasses between next) : ∃ node, term grammar place = .ok (node, next) := by
  rcases product with ⟨fuel, left, last, enough, read⟩
  have forward := factor_forward (ready_descend tokens bound _ (Nat.le_refl _))
  have moves := forward _ near _ _ readFactor
  rcases leftGrouped_enough inner_multiplicativeOp? forward (near.moves moves) enough
    (Nat.lt_succ_self _) read with ⟨node', read'⟩
  exact ⟨node', (bind_of_ok readFactor).trans read'⟩

/-- A sum reaches as far as the operands behind its first product. -/
theorem sum_reaches (near : Near tokens bound place) {node : Node}
    (readTerm : term grammar place = .ok (node, between)) (more : SumPasses between next) :
    ∃ node, sum grammar place = .ok (node, next) := by
  rcases more with ⟨fuel, left, last, enough, read⟩
  have forward := term_forward (ready_descend tokens bound _ (Nat.le_refl _))
  have moves := forward _ near _ _ readTerm
  rcases leftGrouped_enough inner_additiveOp? forward (near.moves moves) enough
    (Nat.lt_succ_self _) read with ⟨node', read'⟩
  exact ⟨node', (bind_of_ok readTerm).trans read'⟩

/-! ## Places that no reader gets past -/

/--
A place with a round bracket where no expression can be read, although an atom can be if
what the bracket holds can be read as arguments.
-/
structure Misread (place : Place) : Prop where
  round : place.current.kind = .opening .round
  fails : ∀ result, expression grammar place ≠ .ok result
  whole : ∀ given next, arguments grammar place.advance = .ok (given, next) →
    ∃ node, atom grammar place = .ok (node, next)

/-- A place where an operand was given up for another reason than that there is none. -/
def Stuck (place : Place) : Prop :=
  Stranded place ∨ Misread place

/-- No reader around this place gets past it or past what follows. -/
def Astray (lost : Place → Prop) (place : Place) : Prop :=
  Stranded place ∨ lost place

/-- How a part of the grammar that contains itself can end where nothing more can be read. -/
def Entry.Leaves : Entry → Place → Prop
  | .comparison => Astray LostBehindComparison
  | .factor => Astray LostBehindFactor
  | .chain => Astray LostBehindChain
  | .statement | .expression => Stuck

theorem Stuck.begun (stuck : Stuck place) : begins place.current.kind = true := by
  rcases stuck with stranded | misread
  · exact stranded.begun
  · rw [misread.round]
    rfl

theorem Stuck.fails (stuck : Stuck place) (result : Node × Place) :
    expression grammar place ≠ .ok result := by
  rcases stuck with stranded | misread
  · exact stranded.fails result
  · exact misread.fails result

theorem Stuck.ne {kind : TokenKind} (stuck : Stuck place) (never : begins kind = false) :
    place.current.kind ≠ kind := by
  rintro rfl
  rw [stuck.begun] at never
  cases never

theorem Stranded.ne {kind : TokenKind} (stranded : Stranded place) (never : begins kind = false) :
    place.current.kind ≠ kind :=
  Stuck.ne (.inl stranded) never

/-- An expression that begins with a round bracket reaches as far as what follows its atom. -/
theorem expression_reaches (near : Near tokens bound place)
    (round : place.current.kind = .opening .round) {node : Node} {calls steps power product sum
      links joined : Place} (readAtom : atom grammar place = .ok (node, between))
    (called : CallsPass between calls) (attributes : StepsPass calls steps)
    (raised : PowerPasses steps power) (multiplied : ProductPasses power product)
    (added : SumPasses product sum) (compared : LinksPass sum links)
    (connected : LogicPasses links joined) (replaced : OperandsPass joined next) :
    ∃ node, expression grammar place = .ok (node, next) := by
  have ready := ready_descend tokens bound _ (Nat.le_refl _)
  have looked : peek place = .ok (place.current, place) := rfl
  rcases chain_reaches readAtom called attributes with ⟨_, readChain⟩
  rcases power_reaches readChain raised with ⟨base, readPower⟩
  have readFactor : factor grammar place = .ok (base, power) := by
    rw [factor, bind_of_ok looked, round]
    exact readPower
  rcases term_reaches near readFactor multiplied with ⟨_, readTerm⟩
  rcases sum_reaches near readTerm added with ⟨_, readSum⟩
  have unnegated : place.current.kind ≠ .keyword .notWord := fun same => by
    cases round.symm.trans same
  rcases comparison_of_sum ready near unnegated readSum compared with ⟨_, readComparison⟩
  rcases logic_of_comparison ready near readComparison connected with ⟨_, readLogic⟩
  rcases fallback_of_logic ready near readLogic replaced with ⟨whole, readFallback⟩
  refine ⟨whole, ?_⟩
  rw [expression, bind_of_ok looked, round]
  exact readFallback

/-- Behind what was taken for arguments, the operators of the operand are lost. -/
theorem Misread.behind_calls (near : Near tokens bound place) (misread : Misread place)
    {callee node : Node} (read : called grammar callee place = .ok (node, next)) :
    LostBehindCalls next := by
  have inner : place.current.kind ≠ .endOfFile := by
    rw [misread.round]
    nofun
  have passed : eat (.opening .round) place = .ok (true, place.advance) := if_pos misread.round
  have shorter := near.advance inner
  have nearBracket := near.moves shorter.1
  have turn : callSuffixes grammar (place.rest.length + 1) callee place = .ok (node, next) := read
  rw [callSuffixes, bind_of_ok passed] at turn
  rcases bind_ok turn with ⟨given, behind, readArguments, more⟩
  have ready := ready_descend tokens (bound + 1) _ (Nat.le_refl _)
  have agree : Agree tokens bound place.advance (arguments _) (arguments grammar) _ :=
    arguments_agree ready (Nat.lt_succ_self bound)
  have moves := ((agree nearBracket).2 given behind ((agree nearBracket).1.trans readArguments)).1
  have left := moves.length_le
  have calls : CallsPass behind next := by
    refine ⟨⟨behind.spanAfter callee.span.start, .call callee given⟩, node, ?_⟩
    have steady := (Repetition.calls ⟨behind.spanAfter callee.span.start, .call callee given⟩).steady
    have closed := (nearBracket.moves moves).closed_here
    exact (steady _ (behind.rest.length + 1) place.rest.length behind (Nat.lt_succ_self _) (by omega)
      closed (Nat.le_refl _)).trans more
  rcases misread.whole given behind readArguments with ⟨_, readAtom⟩
  intro _ steps _ power _ product _ added _ links _ connected _ operands
  rcases expression_reaches near misread.round readAtom calls steps power product added links
    connected operands with ⟨whole, readWhole⟩
  exact misread.fails _ readWhole

/-- Nothing is lost where no operator follows. -/
theorem LostBehindChain.followed (lost : LostBehindChain place) :
    place.current.kind ≠ .closing .round := by
  intro closing
  have operator {ω : Type} {op? : TokenKind → Option ω} (none : op? (.closing .round) = none) :
      op? place.current.kind = Option.none := by
    rw [closing]
    exact none
  have power : PowerPasses place place := .inl ⟨by rw [closing]; nofun, rfl⟩
  let left : Node := ⟨place.current.span, .placeholder⟩
  have product : ProductPasses place place :=
    ⟨_, left, left, Nat.lt_succ_self _, leftGrouped_stop (operator rfl)⟩
  have added : SumPasses place place :=
    ⟨_, left, left, Nat.lt_succ_self _, leftGrouped_stop (operator rfl)⟩
  have links : LinksPass place place :=
    ⟨_, [], Nat.lt_succ_self _, comparisonLinks_stop (operator rfl)⟩
  have connected : LogicPasses place place :=
    ⟨_, left, left, Nat.lt_succ_self _, leftGrouped_stop (operator rfl)⟩
  have operands : OperandsPass place place :=
    ⟨_, [], Nat.lt_succ_self _, fallbackOperands_stop (by rw [closing]; nofun)⟩
  exact lost _ power _ product _ added _ links _ connected _ operands

/-! ## Readers behind a lost place -/

theorem Stuck.called (near : Near tokens bound place) (stuck : Stuck place) {callee node : Node}
    (read : called grammar callee place = .ok (node, next)) : Astray LostBehindCalls next := by
  rcases stuck with stranded | misread
  · have stays : eat (.opening .round) place = .ok (false, place) := if_neg stranded.notRound
    have turn : callSuffixes grammar (place.rest.length + 1) callee place = .ok (node, next) := read
    rw [callSuffixes, bind_of_ok stays] at turn
    cases turn
    exact .inl stranded
  · exact .inr (misread.behind_calls near read)

theorem Astray.steps (astray : Astray LostBehindCalls place) {steps : List Node}
    (read : repeated (attributeSteps grammar) place = .ok (steps, next)) :
    Astray LostBehindChain next := by
  rcases astray with stranded | lost
  · have stays : eat (.symbol .dot) place = .ok (false, place) := if_neg (stranded.ne rfl)
    have turn : attributeSteps grammar (place.rest.length + 1) place = .ok (steps, next) := read
    rw [attributeSteps, bind_of_ok stays] at turn
    cases turn
    exact .inl stranded
  · exact .inr (lost next ⟨steps, read⟩)

theorem Astray.power (astray : Astray LostBehindChain place) {base node : Node}
    (read : (eat (.symbol .caret) >>= fun found => if found = true then
      grammar .factor >>= fun exponent => pure (binaryNode .pow base exponent)
      else pure base) place = .ok (node, next)) : Astray LostBehindFactor next := by
  by_cases caret : place.current.kind = .symbol .caret
  · have passed : eat (.symbol .caret) place = .ok (true, place.advance) := if_pos caret
    rw [bind_of_ok passed] at read
    rcases bind_ok read with ⟨exponent, after, readExponent, done⟩
    cases done
    rcases astray with stranded | lost
    · exact absurd caret (stranded.ne rfl)
    · exact .inr (lost _ (.inr ⟨caret, exponent, readExponent⟩))
  · have stays : eat (.symbol .caret) place = .ok (false, place) := if_neg caret
    rw [bind_of_ok stays] at read
    cases read
    rcases astray with stranded | lost
    · exact .inl stranded
    · exact .inr (lost _ (.inl ⟨caret, rfl⟩))

theorem Astray.product (astray : Astray LostBehindFactor place) {fuel : Nat} {left node : Node}
    (enough : place.rest.length < fuel)
    (read : leftGrouped multiplicativeOp? (factor grammar) fuel left place = .ok (node, next)) :
    Astray LostBehindTerm next := by
  rcases astray with stranded | lost
  · rw [leftGrouped_stop (stranded.no_operator not_begins_of_multiplicativeOp?)] at read
    cases read
    exact .inl stranded
  · exact .inr (lost next ⟨fuel, left, node, enough, read⟩)

theorem Astray.sum (near : Near tokens bound place) (astray : Astray LostBehindTerm place)
    {fuel : Nat} {left node : Node} (enough : place.rest.length < fuel)
    (read : leftGrouped additiveOp? (term grammar) fuel left place = .ok (node, next)) :
    Astray LostBehindSum next := by
  rcases astray with stranded | lost
  · cases sign : additiveOp? place.current.kind with
    | none =>
        rw [leftGrouped_stop sign] at read
        cases read
        exact .inl stranded
    | some op =>
        have ready := ready_descend tokens bound _ (Nat.le_refl _)
        exact .inr (stranded.behind_sign ready near sign enough read)
  · exact .inr (lost next ⟨fuel, left, node, enough, read⟩)

theorem Astray.links (astray : Astray LostBehindSum place) {fuel : Nat}
    {links : List (CompareOp × Node)} (enough : place.rest.length < fuel)
    (read : comparisonLinks (Grammar.sum grammar) fuel place = .ok (links, next)) :
    Astray LostBehindComparison next := by
  rcases astray with stranded | lost
  · rw [comparisonLinks_stop (stranded.no_operator not_begins_of_compareOp?)] at read
    cases read
    exact .inl stranded
  · exact .inr (lost next ⟨fuel, links, enough, read⟩)

theorem Astray.logic (astray : Astray LostBehindComparison place) {fuel : Nat} {left node : Node}
    (enough : place.rest.length < fuel)
    (read : leftGrouped logicOp? (comparison grammar) fuel left place = .ok (node, next)) :
    Astray LostBehindLogic next := by
  rcases astray with stranded | lost
  · rw [leftGrouped_stop (stranded.no_operator not_begins_of_logicOp?)] at read
    cases read
    exact .inl stranded
  · exact .inr (lost next ⟨fuel, left, node, enough, read⟩)

theorem Astray.operands (astray : Astray LostBehindLogic place) {fuel : Nat} {nodes : List Node}
    (enough : place.rest.length < fuel)
    (read : fallbackOperands (Grammar.logic grammar) fuel place = .ok (nodes, next)) :
    Stuck next := by
  rcases astray with stranded | lost
  · rw [fallbackOperands_stop (stranded.ne rfl)] at read
    cases read
    exact .inl stranded
  · exact absurd ⟨fuel, nodes, enough, read⟩ (lost next)

end Grammar
end Scripting
