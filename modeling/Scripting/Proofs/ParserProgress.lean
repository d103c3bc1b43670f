import Scripting.Proofs.BalancedReaders
import Scripting.Proofs.OmittedOperands

namespace Scripting
namespace Grammar

/-!
The reading of a program comes to an end.

The readers of the grammar call each other and themselves, and several of them repeat a
part for as long as another one follows.  Neither the depth of the calls nor the number of
repetitions has a limit of its own; both are bounded here by the number of tokens.  These
bounds are never reached: every way back to a reader passes a token.  So what is read is
what the readers without bounds read, whatever the tokens are.
-/

open Lexical (Bracket Keyword Symbol Token TokenKind)
open Source (Position Span)
open Program

variable {α β : Type} {bound smaller done : Nat} {front : List Token} {place : Place}

/-! ## Repetitions -/

/-- Two readers give the same at a place with no more than some tokens behind it. -/
def Parallel (bound : Nat) (place : Place) (reader other : Reader α) : Prop :=
  Closed place.tokens → place.rest.length ≤ bound → reader place = other place

theorem Parallel.refl {reader : Reader α} : Parallel bound place reader reader :=
  fun _ _ => rfl

/-- The same reader comes first, so fewer tokens are left for the others. -/
theorem Parallel.bind {first : Reader α} {rest rest' : α → Reader β}
    (begun : Orderly bound done 0 [] place first)
    (continued : ∀ value next, ∀ smaller, smaller + done ≤ bound →
      Parallel smaller next (rest value) (rest' value)) :
    Parallel bound place (first >>= rest) (first >>= rest') := by
  intro closed within
  have ends := begun closed within
  cases result : first place with
  | error error => rw [bind_error result, bind_error result]
  | ok pair =>
      rcases pair with ⟨value, next⟩
      rw [result] at ends
      rw [bind_of_ok result, bind_of_ok result]
      cases ends with
      | ok passed split inner enough openers =>
          have shorter := length_le_of_split split
          exact continued value next next.rest.length (by omega) (closed.later split)
            (Nat.le_refl _)

/-- Readers that give the same come first. -/
theorem Parallel.then {first first' : Reader α} {rest : α → Reader β}
    (same : Parallel bound place first first') :
    Parallel bound place (first >>= rest) (first' >>= rest) := by
  intro closed within
  cases result : first place with
  | error error => rw [bind_error result, bind_error ((same closed within).symm.trans result)]
  | ok pair => rw [bind_of_ok result, bind_of_ok ((same closed within).symm.trans result)]

/-- A token is passed that may be there, and otherwise nothing is repeated. -/
theorem Parallel.ifEat {kind : TokenKind} {chosen chosen' other other' : Reader β}
    (inner : kind ≠ .endOfFile)
    (taken : ∀ next, ∀ smaller < bound, Parallel smaller next chosen chosen')
    (left : Parallel bound place other other') :
    Parallel bound place (eat kind >>= fun found => if found = true then chosen else other)
      (eat kind >>= fun found => if found = true then chosen' else other') := by
  intro closed within
  by_cases found : place.current.kind = kind
  · have passed : eat kind place = .ok (true, place.advance) := if_pos found
    have split := Place.tokens_advance closed (found ▸ inner)
    have shorter := length_le_of_split split
    rw [bind_of_ok passed, bind_of_ok passed]
    refine taken place.advance place.advance.rest.length ?_ (closed.later split) (Nat.le_refl _)
    simp only [List.length_singleton] at shorter
    omega
  · have stays : eat kind place = .ok (false, place) := if_neg found
    rw [bind_of_ok stays, bind_of_ok stays]
    exact left closed within

theorem Parallel.peek {rest rest' : Token → Reader β}
    (continued : Parallel bound place (rest place.current) (rest' place.current)) :
    Parallel bound place (Grammar.peek >>= rest) (Grammar.peek >>= rest') :=
  continued

theorem Parallel.thenNode {start : Position} {form : Form Node} {rest rest' : Node → Reader β}
    (continued : Parallel bound place (rest ⟨place.spanAfter start, form⟩)
      (rest' ⟨place.spanAfter start, form⟩)) :
    Parallel bound place (Grammar.nodeFrom start form >>= rest)
      (Grammar.nodeFrom start form >>= rest') :=
  continued

theorem Parallel.advance {rest rest' : Token → Reader β} (inner : place.current.kind ≠ .endOfFile)
    (continued : ∀ token next, ∀ smaller < bound, Parallel smaller next (rest token) (rest' token)) :
    Parallel bound place (Grammar.advance >>= rest) (Grammar.advance >>= rest') := by
  intro closed within
  have split := Place.tokens_advance closed inner
  have shorter := length_le_of_split split
  refine continued place.current place.advance place.advance.rest.length ?_ (closed.later split)
    (Nat.le_refl _)
  simp only [List.length_singleton] at shorter
  omega

theorem Parallel.ifAt {kind : TokenKind} {chosen chosen' other : Reader β}
    (here : Parallel bound place chosen chosen') :
    Parallel bound place (isAt kind >>= fun found => if found = true then chosen else other)
      (isAt kind >>= fun found => if found = true then chosen' else other) := by
  intro closed within
  have looked : ∃ found, isAt kind place = .ok (found, place) := ⟨_, rfl⟩
  rcases looked with ⟨found, looked⟩
  rw [bind_of_ok looked, bind_of_ok looked]
  cases found with
  | true => exact here closed within
  | false => rfl

theorem Parallel.isAtStop {stop : List Keyword} {chosen other other' : Reader β}
    (elsewhere : Parallel bound place other other') :
    Parallel bound place (Grammar.isAtStop stop >>= fun found => if found = true then chosen else other)
      (Grammar.isAtStop stop >>= fun found => if found = true then chosen else other') := by
  intro closed within
  have looked : ∃ found, Grammar.isAtStop stop place = .ok (found, place) := ⟨_, rfl⟩
  rcases looked with ⟨found, looked⟩
  rw [bind_of_ok looked, bind_of_ok looked]
  cases found with
  | true => rfl
  | false => exact elsewhere closed within

/-- How often a part may be repeated makes no difference once it exceeds the tokens left. -/
def Steady (loop : Nat → Reader α) : Prop :=
  ∀ bound fuel fuel' place, bound < fuel → bound < fuel' → Parallel bound place (loop fuel) (loop fuel')

/--
A repetition is steady if one turn of it is: what is repeated in a turn begins where fewer
tokens are left.
-/
theorem Steady.of_turn {σ : Type} (loop : σ → Nat → Reader α)
    (turn : ∀ state bound fuel fuel' place,
      (∀ later, ∀ smaller < bound, ∀ next, Parallel smaller next (loop later fuel) (loop later fuel')) →
      Parallel bound place (loop state (fuel + 1)) (loop state (fuel' + 1)))
    (state : σ) : Steady (loop state) := by
  intro bound fuel
  induction fuel generalizing bound state with
  | zero => exact fun _ _ enough _ => absurd enough (Nat.not_lt_zero _)
  | succ fuel ih =>
      intro fuel' place enough enough'
      cases fuel' with
      | zero => exact absurd enough' (Nat.not_lt_zero _)
      | succ fuel' =>
          refine turn state bound fuel fuel' place fun later smaller less next => ?_
          exact ih later smaller fuel' next (by omega) (by omega)

theorem commaSeparated_steady {item : Reader α}
    (items : ∀ bound front place, Orderly bound 1 0 front place item) :
    Steady (commaSeparated item) := by
  refine Steady.of_turn (fun _ : Unit => commaSeparated item)
    (fun _ bound fuel fuel' place again => ?_) ()
  refine Parallel.bind (items _ _ _) fun first next inside less => ?_
  refine Parallel.ifEat nofun (fun next behind fewer => ?_) Parallel.refl
  exact (again () behind (by omega) next).then

theorem bracketedItems_steady {item : Reader α}
    (items : ∀ bound front place, Orderly bound 1 0 front place item) :
    Steady (bracketedItems item) := by
  refine Steady.of_turn (fun _ : Unit => bracketedItems item)
    (fun _ bound fuel fuel' place again => ?_) ()
  refine Parallel.bind (items _ _ _) fun first next inside less => ?_
  refine Parallel.bind skipNewlines_orderly fun _ next lower notMore => ?_
  refine Parallel.ifEat nofun (fun next behind fewer => ?_) Parallel.refl
  refine Parallel.bind skipNewlines_orderly fun _ next last notMore' => ?_
  exact (again () last (by omega) next).then

theorem callSuffixes_steady (callee : Node) :
    Steady fun fuel => callSuffixes grammar fuel callee := by
  refine Steady.of_turn (fun callee fuel => callSuffixes grammar fuel callee)
    (fun callee bound fuel fuel' place again => ?_) callee
  refine Parallel.ifEat nofun (fun next behind fewer => ?_) Parallel.refl
  have sound := disciplined_grammar (behind + 1)
  refine Parallel.bind (arguments_orderly sound (Nat.lt_succ_self _)) fun given next inside less => ?_
  exact Parallel.thenNode (again _ inside (by omega) next)

theorem attributeSteps_steady : Steady (attributeSteps grammar) := by
  refine Steady.of_turn (fun _ : Unit => attributeSteps grammar)
    (fun _ bound fuel fuel' place again => ?_) ()
  refine Parallel.ifEat nofun (fun next behind fewer => ?_) Parallel.refl
  refine Parallel.bind (calledName_orderly (disciplined_grammar behind) (Nat.le_refl _))
    fun step next inside less => ?_
  exact (again () inside (by omega) next).then

theorem leftGrouped_steady {op? : TokenKind → Option BinaryOp} {operand : Reader Node}
    (none : op? .endOfFile = none)
    (operands : ∀ bound front place, Orderly bound 1 0 front place operand) (left : Node) :
    Steady fun fuel => leftGrouped op? operand fuel left := by
  refine Steady.of_turn (fun left fuel => leftGrouped op? operand fuel left)
    (fun left bound fuel fuel' place again => ?_) left
  refine Parallel.peek ?_
  cases found : op? place.current.kind with
  | none => exact Parallel.refl
  | some op =>
      refine Parallel.advance (ne_endOfFile_of_operator none found) fun _ next behind fewer => ?_
      refine Parallel.bind (operands _ _ _) fun right next inside less => ?_
      exact again _ inside (by omega) next

theorem comparisonLinks_steady {operand : Reader Node}
    (operands : ∀ bound front place, Orderly bound 1 0 front place operand) :
    Steady (comparisonLinks operand) := by
  refine Steady.of_turn (fun _ : Unit => comparisonLinks operand)
    (fun _ bound fuel fuel' place again => ?_) ()
  refine Parallel.peek ?_
  cases found : compareOp? place.current.kind with
  | none => exact Parallel.refl
  | some op =>
      refine Parallel.advance (ne_endOfFile_of_operator rfl found) fun _ next behind fewer => ?_
      refine Parallel.bind (operands _ _ _) fun right next inside less => ?_
      exact (again () inside (by omega) next).then

theorem fallbackOperands_steady {operand : Reader Node}
    (operands : ∀ bound front place, Orderly bound 1 0 front place operand) :
    Steady (fallbackOperands operand) := by
  refine Steady.of_turn (fun _ : Unit => fallbackOperands operand)
    (fun _ bound fuel fuel' place again => ?_) ()
  refine Parallel.ifEat nofun (fun next behind fewer => ?_) Parallel.refl
  refine Parallel.bind (operands _ _ _) fun node next inside less => ?_
  exact (again () inside (by omega) next).then

theorem statementList_steady (stop : List Keyword) : Steady (statementList grammar stop) := by
  refine Steady.of_turn (fun _ : Unit => statementList grammar stop)
    (fun _ bound fuel fuel' place again => ?_) ()
  have sound := disciplined_grammar (bound + 1)
  refine Parallel.isAtStop ?_
  refine Parallel.bind (sound.orderly .statement _ (Nat.lt_succ_self _) _ _)
    fun node next inside less => ?_
  refine Parallel.ifAt ?_
  refine Parallel.bind skipNewlines_orderly fun _ next last notMore => ?_
  exact (again () last (by omega) next).then

theorem furtherCases_steady {body lastBody : Reader Node}
    (bodies : ∀ bound front place, Orderly bound 0 0 front place body) :
    Steady (furtherCases grammar body lastBody) := by
  refine Steady.of_turn (fun _ : Unit => furtherCases grammar body lastBody)
    (fun _ bound fuel fuel' place again => ?_) ()
  refine Parallel.ifEat nofun (fun next behind fewer => ?_) Parallel.refl
  have sound := disciplined_grammar (behind + 1)
  have thenWord : TokenKind.keyword .thenWord ≠ .endOfFile := nofun
  refine Parallel.bind (sound.orderly .expression _ (Nat.lt_succ_self _) _ _)
    fun condition next inside less => ?_
  refine Parallel.bind (expect_orderly thenWord) fun _ next lower less' => ?_
  refine Parallel.bind (bodies _ _ _) fun chosen next last notMore => ?_
  exact (again () last (by omega) next).then

theorem parameterList_steady (given : Parameters) :
    Steady fun fuel => parameterList grammar fuel given := by
  refine Steady.of_turn (fun given fuel => parameterList grammar fuel given)
    (fun given bound fuel fuel' place again => ?_) given
  have sound := disciplined_grammar (bound + 1)
  refine Parallel.bind (parameter_orderly sound (Nat.lt_succ_self _) given)
    fun extended next inside less => ?_
  refine Parallel.ifEat nofun (fun next behind fewer => ?_) Parallel.refl
  exact again extended behind (by omega) next

/-- The repetitions of the grammar, with the bound on how often a part is repeated. -/
inductive Repetition : {α : Type} → (Nat → Reader α) → Prop
  | values : Repetition (commaSeparated (grammar .expression))
  | targets : Repetition (commaSeparated (target grammar))
  | items : Repetition (bracketedItems (grammar .expression))
  | calls (callee : Node) : Repetition fun fuel => callSuffixes grammar fuel callee
  | steps : Repetition (attributeSteps grammar)
  | factors (left : Node) : Repetition fun fuel =>
      leftGrouped multiplicativeOp? (factor grammar) fuel left
  | terms (left : Node) : Repetition fun fuel => leftGrouped additiveOp? (term grammar) fuel left
  | comparisons (left : Node) : Repetition fun fuel =>
      leftGrouped logicOp? (comparison grammar) fuel left
  | links : Repetition (comparisonLinks (sum grammar))
  | operands : Repetition (fallbackOperands (logic grammar))
  | statements (stop : List Keyword) : Repetition (statementList grammar stop)
  | blockCases (stop lastStop : List Keyword) : Repetition
      (furtherCases grammar (Grammar.statements grammar stop) (Grammar.statements grammar lastStop))
  | lineCases : Repetition (furtherCases grammar (grammar .statement) (grammar .statement))
  | parameters (given : Parameters) : Repetition fun fuel => parameterList grammar fuel given

theorem Repetition.steady {loop : Nat → Reader α} (repetition : Repetition loop) :
    Steady loop := by
  have entries : ∀ entry bound front place, Orderly bound 1 0 front place (grammar entry) :=
    fun entry bound => (disciplined_grammar (bound + 1)).orderly entry bound (Nat.lt_succ_self _)
  cases repetition with
  | values => exact commaSeparated_steady (entries .expression)
  | targets =>
      exact commaSeparated_steady fun bound _ _ =>
        target_orderly (disciplined_grammar bound) (Nat.le_refl _)
  | items => exact bracketedItems_steady (entries .expression)
  | calls callee => exact callSuffixes_steady callee
  | steps => exact attributeSteps_steady
  | factors left =>
      exact leftGrouped_steady rfl (fun bound _ _ =>
        factor_orderly (disciplined_grammar bound) (Nat.le_refl _)) left
  | terms left =>
      exact leftGrouped_steady rfl (fun bound _ _ =>
        term_orderly (disciplined_grammar bound) (Nat.le_refl _)) left
  | comparisons left =>
      exact leftGrouped_steady rfl (fun bound _ _ =>
        comparison_orderly (disciplined_grammar bound) (Nat.le_refl _)) left
  | links =>
      exact comparisonLinks_steady fun bound _ _ =>
        sum_orderly (disciplined_grammar bound) (Nat.le_refl _)
  | operands =>
      exact fallbackOperands_steady fun bound _ _ =>
        logic_orderly (disciplined_grammar bound) (Nat.le_refl _)
  | statements stop => exact statementList_steady stop
  | blockCases stop lastStop =>
      exact furtherCases_steady fun bound _ _ =>
        statements_orderly (disciplined_grammar (bound + 1)) (Nat.lt_succ_self _) stop
  | lineCases =>
      exact furtherCases_steady fun bound front place =>
        (entries .statement bound front place).weaken (Nat.zero_le _)
  | parameters given => exact parameterList_steady given

/-! ## Routines and the blocks that are open -/

/--
Where a reader succeeds, it has passed tokens of which none is the end of the file, and
the same blocks are open as before.  Where it fails, all blocks that were open before are
still open, perhaps with others inside them.
-/
structure Balanced (place : Place) (reader : Reader α) : Prop where
  passes : ∀ value next, reader place = .ok (value, next) → ∃ passed,
    place.tokens = passed ++ next.tokens ∧ (∀ token ∈ passed, token.kind ≠ .endOfFile) ∧
      next.openers = place.openers ∧ next.checked = place.checked
  keeps : ∀ failure, reader place = .error failure →
    place.openers <:+ failure.openers ∧ (failure.cause = .overflow → place.checked = true)

theorem Orderly.balanced {reader : Reader α} (closed : Closed place.tokens)
    (orderly : Orderly place.rest.length done 0 [] place reader) : Balanced place reader := by
  have ends := orderly closed (Nat.le_refl _)
  constructor
  · intro value next read
    rw [read] at ends
    cases ends with
    | ok passed split inner enough openers build => exact ⟨passed, split, inner, openers, build⟩
  · intro failure failed
    rw [failed] at ends
    cases ends with
    | error blamed kept => exact ⟨kept, fun overflow => (blamed.overflows overflow).1⟩

theorem Balanced.bind {first : Reader α} {rest : α → Reader β} (closed : Closed place.tokens)
    (begun : Balanced place first)
    (continued : ∀ value next, Closed next.tokens → Balanced next (rest value)) :
    Balanced place (first >>= rest) := by
  constructor
  · intro value last read
    rcases bind_ok read with ⟨middle, next, readFirst, readRest⟩
    rcases begun.passes middle next readFirst with ⟨passed, split, inner, openers, build⟩
    rcases (continued middle next (closed.later split)).passes value last readRest with
      ⟨more, split', inner', openers', build'⟩
    refine ⟨passed ++ more, ?_, List.forall_mem_append.mpr ⟨inner, inner'⟩,
      openers'.trans openers, build'.trans build⟩
    rw [split, split', List.append_assoc]
  · intro failure failed
    rcases bind_failed failed with failedFirst | ⟨middle, next, readFirst, failedRest⟩
    · exact begun.keeps failure failedFirst
    · rcases begun.passes middle next readFirst with ⟨passed, split, inner, openers, build⟩
      rw [← openers, ← build]
      exact (continued middle next (closed.later split)).keeps failure failedRest

theorem Balanced.pure {value : α} : Balanced place (Pure.pure value) where
  passes := by
    intro _ _ read
    cases read
    exact ⟨[], rfl, List.forall_mem_nil _, rfl, rfl⟩
  keeps _ failed := nomatch failed

/-- A block is closed by its word alone; where it is not, it stays open. -/
theorem leaveBlock_failed {closer : Keyword} {failure : Failure}
    (failed : leaveBlock closer place = .error failure) :
    failure.openers = place.openers ∧ failure.cause ≠ .overflow := by
  unfold leaveBlock at failed
  split at failed
  · cases failed
  · split at failed
    · split at failed <;> cases failed <;> exact ⟨rfl, nofun⟩
    · cases failed
      exact ⟨rfl, nofun⟩

theorem closedBlock_balanced (closed : Closed place.tokens) (opener : Keyword) (span : Span)
    (closer : Keyword) : Balanced place (closedBlock grammar opener span closer) := by
  let block : Place := { place with openers := (opener, span) :: place.openers }
  have sound := disciplined_grammar (place.rest.length + 1)
  have closedBlock : Closed block.tokens := closed
  have statements : Orderly block.rest.length 0 0 [] block (statements grammar [closer]) :=
    statements_orderly sound (Nat.lt_succ_self _) _
  have balanced := statements.balanced closedBlock
  have around : place.openers <:+ block.openers := List.suffix_cons _ _
  constructor
  · intro value next read
    rcases bind_ok read with ⟨_, inside, entered, readBody⟩
    cases entered
    rcases bind_ok readBody with ⟨body, after, readStatements, readEnd⟩
    rcases bind_ok readEnd with ⟨_, outside, left, done⟩
    cases done
    rcases balanced.passes _ _ readStatements with ⟨passed, split, inner, openers, build⟩
    unfold leaveBlock at left
    split at left
    · rename_i found
      cases left
      have other : after.current.kind ≠ .endOfFile := by
        rw [found]
        exact TokenKind.noConfusion
      have onward := Place.tokens_advance (closedBlock.later split) other
      refine ⟨passed ++ [after.current], ?_, ?_, congrArg List.tail openers,
        after.checked_advance.trans build⟩
      · rw [List.append_assoc]
        exact split.trans (congrArg (passed ++ ·) onward)
      · exact List.forall_mem_append.mpr ⟨inner, List.forall_mem_singleton.mpr other⟩
    · split at left
      · split at left <;> cases left
      · cases left
  · intro failure failed
    rcases bind_failed failed with entered | ⟨_, inside, entered, failedBody⟩
    · cases entered
    cases entered
    rcases bind_failed failedBody with failedStatements | ⟨body, after, readStatements, failedEnd⟩
    · rcases balanced.keeps failure failedStatements with ⟨kept, checks⟩
      exact ⟨around.trans kept, checks⟩
    rcases balanced.passes _ _ readStatements with ⟨passed, split, inner, openers, build⟩
    rcases bind_failed failedEnd with left | ⟨_, outside, left, done⟩
    · rcases leaveBlock_failed left with ⟨same, bounded⟩
      rw [same, openers]
      exact ⟨around, fun overflow => absurd overflow bounded⟩
    · cases done

theorem isAt_balanced (kind : TokenKind) : Balanced place (isAt kind) where
  passes := by
    intro _ _ read
    cases read
    exact ⟨[], rfl, List.forall_mem_nil _, rfl, rfl⟩
  keeps _ failed := nomatch failed

theorem entry_balanced (closed : Closed place.tokens) (entry : Entry) :
    Balanced place (grammar entry) :=
  ((disciplined_grammar (place.rest.length + 1)).orderly entry _ (Nat.lt_succ_self _) _ _).balanced
    closed

theorem loopBody_balanced (closed : Closed place.tokens) (opener : Keyword) (span : Span) :
    Balanced place (loopBody grammar opener span) := by
  refine (isAt_balanced _).bind closed fun newline here closed => ?_
  split
  · exact (closedBlock_balanced closed _ _ _).bind closed fun _ _ _ => .pure
  · exact (entry_balanced closed .statement).bind closed fun _ _ _ => .pure

theorem doBody_balanced (closed : Closed place.tokens) (span : Span) :
    Balanced place (doBody grammar span) := by
  refine (isAt_balanced _).bind closed fun newline here closed => ?_
  split
  · exact (closedBlock_balanced closed _ _ _).bind closed fun _ _ _ => .pure
  · refine (entry_balanced closed .statement).bind closed fun _ _ closed => ?_
    have thenWord : TokenKind.keyword .thenWord ≠ .endOfFile := nofun
    exact ((expect_orderly thenWord).balanced closed).bind closed fun _ _ _ => .pure

/--
The routines of the grammar, each at a place where it is called: a form that begins with a
word of its own is read where that word stands.
-/
inductive Routine (place : Place) : {α : Type} → Reader α → Prop
  | entry (entry : Entry) : Routine place (grammar entry)
  | program : Routine place (program grammar)
  | statements (stop : List Keyword) : Routine place (statements grammar stop)
  | statement : Routine place (statement grammar)
  | expression : Routine place (expression grammar)
  | fallback : Routine place (fallback grammar)
  | logic : Routine place (logic grammar)
  | comparison : Routine place (comparison grammar)
  | sum : Routine place (sum grammar)
  | term : Routine place (term grammar)
  | factor : Routine place (factor grammar)
  | power : Routine place (power grammar)
  | chain : Routine place (chain grammar)
  | called (callee : Node) : Routine place (called grammar callee)
  | calledName (expected : Expectation) : Routine place (calledName grammar expected)
  | steps : Routine place (repeated (attributeSteps grammar))
  | arguments : Routine place (arguments grammar)
  | atom : Routine place (atom grammar)
  | number (value : Literal) (span : Span) : Routine place (number value span)
  | bracketed (found : place.current.kind = .opening .round) : Routine place (bracketed grammar)
  | listLiteral (found : place.current.kind = .opening .square) :
      Routine place (listLiteral grammar)
  | conditional (found : place.current.kind = .keyword .ifWord) :
      Routine place (conditional grammar)
  | forLoop (found : place.current.kind = .keyword .forWord) : Routine place (forLoop grammar)
  | whileLoop (found : place.current.kind = .keyword .whileWord) :
      Routine place (whileLoop grammar)
  | endlessLoop (found : place.current.kind = .keyword .loopWord) :
      Routine place (endlessLoop grammar)
  | doLoop (found : place.current.kind = .keyword .doWord) : Routine place (doLoop grammar)
  | function (found : place.current.kind = .keyword .defWord) : Routine place (function grammar)
  | classDefinition (found : place.current.kind = .keyword .classWord) :
      Routine place (classDefinition grammar)
  | closedBlock (opener : Keyword) (span : Span) (closer : Keyword) :
      Routine place (closedBlock grammar opener span closer)
  | loopBody (opener : Keyword) (span : Span) : Routine place (loopBody grammar opener span)
  | doBody (span : Span) : Routine place (doBody grammar span)
  | parameters : Routine place (parameters grammar)
  | parentClause : Routine place (parentClause grammar)
  | label : Routine place label
  | target : Routine place (target grammar)
  | assignment (found : place.current.kind = .keyword .varWord) : Routine place (assignment grammar)
  | deletion (found : place.current.kind = .keyword .delWord) : Routine place deletion
  | writeStatement (found : place.current.kind = .keyword .writeWord) :
      Routine place (writeStatement grammar)
  | readStatement (found : place.current.kind = .keyword .readWord) :
      Routine place (readStatement grammar)
  | assertionStatement (found : place.current.kind = .keyword .assertWord) :
      Routine place (assertionStatement grammar)
  | returnStatement (found : place.current.kind = .keyword .returnWord) :
      Routine place (returnStatement grammar)
  | breakStatement (found : place.current.kind = .keyword .breakWord) :
      Routine place breakStatement
  | continueStatement (found : place.current.kind = .keyword .continueWord) :
      Routine place continueStatement
  | importStatement (found : place.current.kind = .keyword .importWord) :
      Routine place importStatement
  | exportStatement (found : place.current.kind = .keyword .exportWord) :
      Routine place (exportStatement grammar)

theorem program_orderly (bound : Nat) : Orderly bound 0 0 front place (program grammar) := by
  have sound := disciplined_grammar (bound + 1)
  refine (statements_orderly sound (Nat.lt_succ_self _) _).bind fun _ _ _ _ => ?_
  exact Orderly.ifAt (fun _ => Orderly.pure) (fun _ => Orderly.unexpected)

/-- Every routine closes the blocks that it opens, and no others. -/
theorem Routine.balanced {reader : Reader α} (closed : Closed place.tokens)
    (routine : Routine place reader) : Balanced place reader := by
  have sound := disciplined_grammar place.rest.length
  have soundBehind := disciplined_grammar (place.rest.length + 1)
  have here := Nat.le_refl place.rest.length
  have behind := Nat.lt_succ_self place.rest.length
  cases routine with
  | entry entry => exact entry_balanced closed entry
  | program => exact (program_orderly _).balanced closed
  | statements stop => exact (statements_orderly soundBehind behind stop).balanced closed
  | statement => exact (statement_orderly sound here).balanced closed
  | expression => exact (expression_orderly sound here).balanced closed
  | fallback => exact (fallback_orderly sound here).balanced closed
  | logic => exact (logic_orderly sound here).balanced closed
  | comparison => exact (comparison_orderly sound here).balanced closed
  | sum => exact (sum_orderly sound here).balanced closed
  | term => exact (term_orderly sound here).balanced closed
  | factor => exact (factor_orderly sound here).balanced closed
  | power => exact (power_orderly sound here).balanced closed
  | chain => exact (chain_orderly sound here).balanced closed
  | called callee => exact (called_orderly sound here callee).balanced closed
  | calledName expected => exact (calledName_orderly sound here).balanced closed
  | steps =>
      exact (Orderly.repeated fun fuel => attributeSteps_orderly sound here fuel).balanced closed
  | arguments => exact (arguments_orderly soundBehind behind).balanced closed
  | atom => exact (atom_orderly sound here).balanced closed
  | number value span => exact number_orderly.balanced closed
  | bracketed found => exact (bracketed_orderly sound here found).balanced closed
  | listLiteral found => exact (listLiteral_orderly sound here found).balanced closed
  | conditional found => exact (conditional_orderly sound here found).balanced closed
  | forLoop found => exact (forLoop_orderly sound here found).balanced closed
  | whileLoop found => exact (whileLoop_orderly sound here found).balanced closed
  | endlessLoop found => exact (endlessLoop_orderly sound here found).balanced closed
  | doLoop found => exact (doLoop_orderly sound here found).balanced closed
  | function found => exact (function_orderly sound here found).balanced closed
  | classDefinition found => exact (classDefinition_orderly sound here found).balanced closed
  | closedBlock opener span closer => exact closedBlock_balanced closed opener span closer
  | loopBody opener span => exact loopBody_balanced closed opener span
  | doBody span => exact doBody_balanced closed span
  | parameters => exact (parameters_orderly soundBehind behind).balanced closed
  | parentClause => exact (parentClause_orderly soundBehind behind).balanced closed
  | label => exact label_orderly.balanced closed
  | target => exact (target_orderly sound here).balanced closed
  | assignment found => exact (assignment_orderly sound here found).balanced closed
  | deletion found => exact (deletion_orderly found).balanced closed
  | writeStatement found => exact (writeStatement_orderly sound here found).balanced closed
  | readStatement found => exact (readStatement_orderly sound here found).balanced closed
  | assertionStatement found => exact (assertionStatement_orderly sound here found).balanced closed
  | returnStatement found => exact (returnStatement_orderly sound here found).balanced closed
  | breakStatement found => exact (breakStatement_orderly found).balanced closed
  | continueStatement found => exact (continueStatement_orderly found).balanced closed
  | importStatement found => exact (importStatement_orderly found).balanced closed
  | exportStatement found => exact (exportStatement_orderly sound here found).balanced closed

/--
What is tried and fails leaves the place with its open blocks as it was.  Only the tokens
are read again; the stack is cut to its former height, and as no block below that height
was closed, this restores it.
-/
theorem Balanced.attempt_eq_none_iff {reader : Reader α} {next : Place}
    (balanced : Balanced place reader) :
    attempt reader place = .ok (none, next) ↔
      next = place ∧ ∃ failure, reader place = .error failure ∧ failure.cause ≠ .overflow := by
  constructor
  · intro tried
    rcases attempt_ok tried with ⟨value, none, -⟩ | ⟨failure, -, failed, bounded, rfl⟩
    · cases none
    · rcases balanced.keeps failure failed with ⟨kept, -⟩
      exact ⟨Place.rewind_of_suffix kept, failure, failed, bounded⟩
  · rintro ⟨rfl, failure, failed, bounded⟩
    rcases balanced.keeps failure failed with ⟨kept, -⟩
    simp only [attempt, failed, if_neg bounded, Place.rewind_of_suffix kept]

/-! ## Programs -/

/-- How a list of tokens is read as a program, with checked arithmetic or without. -/
structure Progresses (checked : Bool) (tokens : List Token) : Prop where
  /--
  The reading ends with a tree or an error.  The error does not come from a bound on the
  depth, and if it names a block, then that is the innermost of the blocks that are open
  where the reading stops.  It is an overflow only if arithmetic is checked and an exponent
  among the tokens has no negation.
  -/
  ends : (∃ node, parse tokens checked = .ok node) ∨
    ∃ failure : Failure, program grammar (Place.ofTokens tokens checked) = .error failure ∧
      parse tokens checked = .error failure.toParseError ∧
      Blames checked (Place.ofTokens tokens checked).tokens failure
  /-- What is read is what the grammar reads, in which each part is made of its parts. -/
  whole : parse tokens checked = (program grammar).outcome (Place.ofTokens tokens checked)
  unfolds : ∀ entry place, place.tokens <:+ (Place.ofTokens tokens checked).tokens →
    grammar entry place = level grammar entry place
  /-- No part is repeated more often than there are tokens left. -/
  repeats : ∀ {α : Type} {loop : Nat → Reader α}, Repetition loop → ∀ place,
    place.tokens <:+ (Place.ofTokens tokens checked).tokens → ∀ fuel, place.rest.length < fuel →
      loop fuel place = repeated loop place
  /-- Statements and expressions pass at least one token, and not the end of the file. -/
  advances : ∀ entry place, place.tokens <:+ (Place.ofTokens tokens checked).tokens →
    ∀ node next, grammar entry place = .ok (node, next) → ∃ passed, passed ≠ [] ∧
      place.tokens = passed ++ next.tokens ∧ ∀ token ∈ passed, token.kind ≠ .endOfFile
  /--
  A routine that succeeds leaves the blocks open that were open before.  One that fails
  leaves them open as well, and above them those that it opened itself.
  -/
  balances : ∀ {α : Type} {reader : Reader α} (place : Place),
    place.tokens <:+ (Place.ofTokens tokens checked).tokens → Routine place reader →
      Balanced place reader
  /-- A routine that is tried and fails leaves the place, with its open blocks, as it was. -/
  restores : ∀ {α : Type} {reader : Reader α} (place next : Place),
    place.tokens <:+ (Place.ofTokens tokens checked).tokens → Routine place reader →
      (attempt reader place = .ok (none, next) ↔
        next = place ∧ ∃ failure, reader place = .error failure ∧ failure.cause ≠ .overflow)

theorem checked_ofTokens (tokens : List Token) (checked : Bool) :
    (Place.ofTokens tokens checked).checked = checked := by
  cases tokens <;> rfl

theorem parse_eq_grammar (tokens : List Token) (checked : Bool := false) :
    parse tokens checked = (program grammar).outcome (Place.ofTokens tokens checked) := by
  let start := Place.ofTokens tokens checked
  have near : Near start.tokens tokens.length start :=
    ⟨closed_ofTokens tokens checked, List.suffix_refl _, length_rest_ofTokens tokens checked⟩
  have ready := ready_descend start.tokens (tokens.length + 2) _ (Nat.le_refl _)
  have short : tokens.length < tokens.length + 2 := by omega
  have same := (program_agree ready short near).1
  unfold parse Reader.outcome
  rw [same]

/-- The tokens of a power of ten whose digits are the least integer, behind a minus sign. -/
def leastPower : List Token :=
  [.int 1, .exponent, .symbol .minus, .int Int64.minValue, .endOfFile].map
    (⟨·, ⟨.start, .start⟩⟩)

example : (parse leastPower).isOk = true := by decide +kernel

example : (parse leastPower true).isOk = false := by decide +kernel

end Grammar
end Scripting
