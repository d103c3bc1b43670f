import Scripting.Proofs.BalancedReaders

namespace Scripting
namespace Grammar

/-!
Operands that are tried and given up.

A return may be without a value, and a read or a write without a line.  Whether there is
an operand is found out by trying to read one: if that fails, the reader goes back and the
operand counts as left out, whatever the reason for the failure was.  A place is stranded
if an operand was given up there although an expression begins with the token at it.

No reader of brackets, bodies, atoms and calls accepts the token at a stranded place: each
of them fails there or stops there.  So where one of them ends, either all nodes it read
are followed as they should be, or it ends at a stranded place.
-/

open Lexical (Bracket Keyword Symbol Token TokenKind)
open Source (Position Span)
open Program

/-! ## What begins an expression -/

/-- The kinds of tokens that an expression begins with. -/
def begins : TokenKind → Bool
  | .int _ | .float _ | .text _ | .identifier _ | .opening _ => true
  | .symbol mark => [Symbol.dollar, .plus, .minus, .tilde].contains mark
  | .keyword word =>
      [Keyword.defaultWord, .ifWord, .forWord, .whileWord, .doWord, .loopWord, .defWord,
        .classWord, .notWord, .varWord, .delWord, .writeWord, .readWord, .assertWord].contains word
  | .exponent | .closing _ | .newline | .endOfFile => false

/-- The parts of the grammar that are expressions or begin like one. -/
def Part.opens : Part → Bool
  | .expression | .fallback | .tier _ | .operand _ | .comparison | .factor | .power | .chain
  | .call | .atom => true
  | _ => false

/-- Tokens of which the first begins an expression. -/
def Opens (tokens : List TokenKind) : Prop :=
  ∃ kind rest, tokens = kind :: rest ∧ begins kind = true

theorem Opens.append {front : List TokenKind} (opens : Opens front) (back : List TokenKind) :
    Opens (front ++ back) := by
  rcases opens with ⟨kind, rest, rfl, begun⟩
  exact ⟨kind, rest ++ back, rfl, begun⟩

theorem begins_literalToken (value : Literal) : begins (literalToken value) = true := by
  cases value <;> rfl

theorem begins_unaryToken (op : UnaryOp) : begins (unaryToken op) = true := by
  cases op <;> rfl

theorem Derives.opens {part : Part} {tokens : List TokenKind} {tree : part.Tree}
    (derives : Derives part tokens tree) (opening : part.opens = true) : Opens tokens := by
  induction derives with
  | expressionAlone _ ih | fallbackAlone _ ih | comparisonOperand _ ih | termOperand _ ih
  | factorOperand _ ih | tierAlone _ ih | comparisonAlone _ ih | factorAlone _ ih
  | powerAlone _ ih | chainAlone _ ih | callAlone _ ih => exact ih rfl
  | fallback _ _ _ ih | binary _ _ _ ih | comparison _ _ _ ih | power _ _ ih | chain _ _ _ ih
  | call _ _ ih => exact (ih rfl).append _
  | sign => exact ⟨_, _, rfl, begins_unaryToken _⟩
  | negation => exact ⟨_, _, rfl, rfl⟩
  | number | scaled => exact ⟨_, _, rfl, begins_literalToken _⟩
  | _ =>
      first
      | exact ⟨_, _, rfl, rfl⟩
      | cases opening

/-- Some expression begins with a token of this kind. -/
def CanBegin (kind : TokenKind) : Prop :=
  ∃ kinds node, Derives .expression (kind :: kinds) node

theorem begins_of_canBegin {kind : TokenKind} (can : CanBegin kind) : begins kind = true := by
  rcases can with ⟨kinds, node, derives⟩
  rcases derives.opens rfl with ⟨_, _, same, begun⟩
  cases same
  exact begun

/-! ## Nodes and the tokens after them -/

/-- A return without a value, or a read or a write without a line. -/
def omitsOperand : Form Node → Bool
  | .returnFrom none | .write _ _ _ none | .read _ _ none => true
  | _ => false

/-- A stretch of tokens that a span reaches from the first to the last of. -/
def Spans (stretch : List Token) (span : Span) : Prop :=
  ∃ first last, stretch.head? = some first ∧ stretch.getLast? = some last ∧
    span.start = first.span.start ∧
    span.stop = if last.span.stop.index < first.span.start.index then first.span.start
      else last.span.stop

/-- The token right after the tokens of a node is of an allowed kind. -/
def FollowedBy (allowed : TokenKind → Prop) (tokens : List Token) (node : Node) : Prop :=
  ∃ before stretch next after, tokens = before ++ (stretch ++ next :: after) ∧
    Spans stretch node.span ∧ allowed next.kind

/-- No expression begins with a token of this kind, or it is an opening round bracket. -/
def EndsOperand (kind : TokenKind) : Prop :=
  ¬ CanBegin kind ∨ kind = .opening .round

/-- A property of a node and of all nodes inside it. -/
inductive Everywhere (property : Node → Prop) : Node → Prop
  | node {span : Span} {form : Form Node} (here : property ⟨span, form⟩)
      (parts : ∀ part ∈ formParts form, Everywhere property part) :
      Everywhere property ⟨span, form⟩

/-- A node that is followed as it should be, if it leaves an operand out. -/
def Heeds (tokens : List Token) (node : Node) : Prop :=
  omitsOperand node.form = true → FollowedBy EndsOperand tokens node

def AllHeed (tokens : List Token) (nodes : List Node) : Prop :=
  ∀ node ∈ nodes, Everywhere (Heeds tokens) node

/-! ## Places where an operand was given up -/

/-- A place where an expression begins, but none can be read. -/
structure Stranded (place : Place) : Prop where
  begun : begins place.current.kind = true
  notRound : place.current.kind ≠ .opening .round
  fails : ∀ result, expression grammar place ≠ .ok result

/-- The operands of a fallback that follow a place end at another. -/
def OperandsPass (place next : Place) : Prop :=
  ∃ fuel nodes, place.rest.length < fuel ∧
    fallbackOperands (logic grammar) fuel place = .ok (nodes, next)

/-- The operands of logical operators that follow a place end at another. -/
def LogicPasses (place next : Place) : Prop :=
  ∃ fuel left node, place.rest.length < fuel ∧
    leftGrouped logicOp? (comparison grammar) fuel left place = .ok (node, next)

/-- The links of a comparison that follow a place end at another. -/
def LinksPass (place next : Place) : Prop :=
  ∃ fuel links, place.rest.length < fuel ∧
    comparisonLinks (sum grammar) fuel place = .ok (links, next)

/-- What follows a logical expression here cannot be read. -/
def LostBehindLogic (place : Place) : Prop :=
  ∀ next, ¬ OperandsPass place next

/-- What follows a comparison here cannot be read. -/
def LostBehindComparison (place : Place) : Prop :=
  ∀ next, LogicPasses place next → LostBehindLogic next

/-- What follows a sum here cannot be read. -/
def LostBehindSum (place : Place) : Prop :=
  ∀ next, LinksPass place next → LostBehindComparison next

/--
A place that no reader around it gets past: an operand was given up there, or before a
sign that was passed since.
-/
def Barred (lost : Place → Prop) (place : Place) : Prop :=
  (Stranded place ∧ additiveOp? place.current.kind = none) ∨ lost place

/-- How a part of the grammar that contains itself can end without being followed properly. -/
def Entry.Lost : Entry → Place → Prop
  | .comparison => Barred LostBehindComparison
  | _ => Stranded

/-- All nodes are followed as they should be, or there is no getting past this place. -/
def Settles (tokens : List Token) (lost : Place → Prop) (nodes : List Node) (place : Place) :
    Prop :=
  AllHeed tokens nodes ∨ lost place

variable {α : Type} {tokens : List Token} {bound : Nat} {place next : Place}
  {lost : Place → Prop} {nodes : List Node} {self : Descent}

theorem AllHeed.nil : AllHeed tokens [] :=
  List.forall_mem_nil _

theorem AllHeed.append {others : List Node} (first : AllHeed tokens nodes)
    (later : AllHeed tokens others) : AllHeed tokens (nodes ++ others) :=
  List.forall_mem_append.mpr ⟨first, later⟩

theorem AllHeed.cons {node : Node} (first : AllHeed tokens [node])
    (later : AllHeed tokens nodes) : AllHeed tokens (node :: nodes) :=
  first.append later

theorem AllHeed.node {span : Span} {form : Form Node} (ordinary : omitsOperand form = false)
    (parts : AllHeed tokens (formParts form)) : AllHeed tokens [⟨span, form⟩] := by
  refine List.forall_mem_singleton.mpr (.node ?_ parts)
  intro omits
  rw [ordinary] at omits
  cases omits

theorem Settles.append {others : List Node} (first : Settles tokens lost nodes place)
    (later : Settles tokens lost others place) : Settles tokens lost (nodes ++ others) place := by
  rcases first with all | lost
  · rcases later with all' | lost
    · exact .inl (all.append all')
    · exact .inr lost
  · exact .inr lost

/-- Nodes before a place are settled with the last ones. -/
theorem Settles.cons {node : Node} (first : AllHeed tokens [node])
    (later : Settles tokens lost nodes place) : Settles tokens lost (node :: nodes) place :=
  Settles.append (.inl first) later

theorem Settles.node {span : Span} {form : Form Node} (ordinary : omitsOperand form = false)
    (parts : Settles tokens lost (formParts form) place) :
    Settles tokens lost [⟨span, form⟩] place := by
  rcases parts with all | lost
  · exact .inl (.node ordinary all)
  · exact .inr lost

/-- No operand was given up before a token that begins no expression. -/
theorem Stranded.absurd {kind : TokenKind} {claim : Prop} (stranded : Stranded place)
    (found : place.current.kind = kind) (never : begins kind = false) : claim := by
  have begun := stranded.begun
  rw [found, never] at begun
  cases begun

/-- Another token than one that begins an expression shows that nothing was given up. -/
theorem Settles.resolve {kind : TokenKind} (settles : Settles tokens Stranded nodes place)
    (found : place.current.kind = kind) (never : begins kind = false) : AllHeed tokens nodes := by
  rcases settles with all | stranded
  · exact all
  · exact stranded.absurd found never

/-- A reader that passes nothing where an operand was given up keeps what is known. -/
theorem Settles.onward (settles : Settles tokens Stranded nodes place)
    (stays : Stranded place → next = place) : Settles tokens Stranded nodes next := by
  rcases settles with all | stranded
  · exact .inl all
  · rw [stays stranded]
    exact .inr stranded

theorem Stranded.not_newline (stranded : Stranded place) : place.current.kind ≠ .newline :=
  fun newline => stranded.absurd newline rfl

/--
A descent that reads as the grammar does where no more than some tokens are left.  Its
readers leave behind nodes that are followed properly, or a place that is lost.
-/
structure Ready (tokens : List Token) (bound : Nat) (reads : Descent) : Prop where
  agrees : ∀ entry place, ∀ smaller < bound,
    Agree tokens smaller place (reads entry) (grammar entry) fun node next =>
      Settles tokens entry.Lost [node] next
  unfolds : ∀ entry place, ∀ smaller < bound, Near tokens smaller place →
    grammar entry place = level grammar entry place

/-! ## Readers without operands -/

theorem label_agree : Agree tokens bound place label label fun _ _ => True := by
  refine Agree.ifEat nofun (fun next _ _ _ _ => ?_) (fun _ => Agree.pure trivial)
  exact Agree.identifier fun _ _ _ _ _ _ => Agree.pure trivial

/-- A name after another token is passed only if that token is there. -/
theorem readInto_agree : Agree tokens bound place readInto readInto fun _ next =>
    Stranded place → next = place := by
  refine Agree.ifEat nofun (fun next _ _ _ found => ?_) (fun _ => Agree.pure fun _ => rfl)
  exact Agree.identifier fun _ _ _ _ _ _ => Agree.pure fun stranded => stranded.absurd found rfl

theorem nameAfterAs_agree {expected : Expectation} :
    Agree tokens bound place (nameAfterAs expected) (nameAfterAs expected) fun _ next =>
      Stranded place → next = place := by
  refine Agree.ifEat nofun (fun next _ _ _ found => ?_) (fun _ => Agree.pure fun _ => rfl)
  exact Agree.identifier fun _ _ _ _ _ _ => Agree.pure fun stranded => stranded.absurd found rfl

theorem functionName_agree : Agree tokens bound place functionName functionName
    fun _ _ => True := by
  refine Agree.ifAt (fun _ => Agree.pure trivial) (fun _ => ?_)
  exact Agree.identifier fun _ _ _ _ _ _ => Agree.pure trivial

theorem exponentSign_agree : Agree tokens bound place exponentSign exponentSign
    fun _ _ => True := by
  refine Agree.ifEat nofun (fun _ _ _ _ _ => Agree.pure trivial) (fun _ => ?_)
  exact Agree.eat nofun fun _ _ _ _ _ => Agree.pure trivial

theorem signedDigits_agree {negative : Bool} {digits : Int64} {span : Span} :
    Agree tokens bound place (signedDigits negative digits span) (signedDigits negative digits span)
      fun _ _ => True := by
  refine fun _ => ⟨rfl, fun power next read => ?_⟩
  rcases signedDigits_ok read with ⟨-, rfl⟩
  exact ⟨.refl _, trivial⟩

theorem number_agree {value : Literal} {span : Span} :
    Agree tokens bound place (number value span) (number value span)
      fun node _ => AllHeed tokens [node] := by
  refine Agree.ifEat nofun (fun next _ _ _ _ => ?_) (fun _ => Agree.pure (.node rfl .nil))
  refine Agree.peek ?_
  refine exponentSign_agree.bind fun negative next _ _ => ?_
  refine Agree.peek ?_
  split
  · rename_i digits found
    refine Agree.advance (by rw [found]; nofun) fun _ _ _ => ?_
    refine signedDigits_agree.bind fun power last _ _ => ?_
    refine Agree.thenNode (Agree.pure ?_)
    have literal : AllHeed tokens [⟨span, .number value⟩] := .node rfl .nil
    exact .node rfl (literal.append (.node rfl .nil))
  · exact Agree.unexpected

/-! ## Brackets -/

variable {smaller : Nat}

theorem bracketedItems_agree (ready : Ready tokens bound self) (short : smaller < bound)
    (fuel : Nat) :
    Agree tokens smaller place (bracketedItems (self .expression) fuel)
      (bracketedItems (grammar .expression) fuel) (Settles tokens Stranded) := by
  induction fuel generalizing smaller place with
  | zero =>
      refine (ready.agrees .expression place smaller short).bind fun node next _ settles => ?_
      exact Agree.pure settles
  | succ fuel ih =>
      refine (ready.agrees .expression place smaller short).bind fun node next _ settles => ?_
      refine Agree.skipNewlines fun after _ stays => ?_
      have settles := Settles.onward settles fun stranded => stays stranded.not_newline
      refine Agree.ifEat nofun (fun _ _ less _ found => ?_) (fun _ => Agree.pure settles)
      have all := settles.resolve found rfl
      refine Agree.skipNewlines fun _ _ _ => ?_
      refine (ih (Nat.lt_trans less short)).bind fun others _ _ later => Agree.pure ?_
      exact Settles.append (.inl all) later

theorem arguments_agree (ready : Ready tokens bound self) (short : smaller < bound) :
    Agree tokens smaller place (arguments self) (arguments grammar)
      fun nodes _ => AllHeed tokens nodes := by
  refine Agree.skipNewlines fun _ _ _ => ?_
  refine Agree.ifEat nofun (fun _ _ _ _ _ => Agree.pure .nil) (fun _ => ?_)
  refine (Agree.repeated fun fuel _ => bracketedItems_agree ready short fuel).bind
    fun nodes next _ settles => ?_
  exact Agree.expect nofun fun _ _ _ _ found => Agree.pure (settles.resolve found rfl)

theorem listElements_agree (ready : Ready tokens bound self) (short : smaller < bound) :
    Agree tokens smaller place (listElements self) (listElements grammar)
      fun nodes _ => AllHeed tokens nodes := by
  refine Agree.skipNewlines fun _ _ _ => ?_
  refine Agree.ifEat nofun (fun _ _ _ _ _ => Agree.pure .nil) (fun _ => ?_)
  refine (Agree.repeated fun fuel _ => bracketedItems_agree ready short fuel).bind
    fun nodes next _ settles => ?_
  refine Agree.ifEat nofun (fun _ _ _ _ found => ?_) (fun _ => Agree.unexpected)
  exact Agree.pure (settles.resolve found rfl)

theorem bracketed_agree (ready : Ready tokens bound self) (short : smaller ≤ bound)
    (found : place.current.kind = .opening .round) :
    Agree tokens smaller place (bracketed self) (bracketed grammar)
      fun node _ => AllHeed tokens [node] := by
  refine Agree.advance (by rw [found]; nofun) fun _ less _ => ?_
  have short := Nat.lt_of_lt_of_le less short
  refine Agree.skipNewlines fun next _ _ => ?_
  refine (ready.agrees .expression next _ short).bind fun node next _ settles => ?_
  refine Agree.skipNewlines fun after _ stays => ?_
  have settles := Settles.onward settles fun stranded => stays stranded.not_newline
  exact Agree.expect nofun fun _ _ _ _ found => Agree.pure (settles.resolve found rfl)

theorem listLiteral_agree (ready : Ready tokens bound self) (short : smaller ≤ bound)
    (found : place.current.kind = .opening .square) :
    Agree tokens smaller place (listLiteral self) (listLiteral grammar)
      fun node _ => AllHeed tokens [node] := by
  refine Agree.advance (by rw [found]; nofun) fun _ less _ => ?_
  refine (listElements_agree ready (Nat.lt_of_lt_of_le less short)).bind
    fun elements _ _ all => ?_
  exact Agree.nodeFrom (.node rfl all)

/-! ## Bodies -/

theorem Agree.isAtStop {β : Type} {stop : List Keyword} {chosen chosen' other other' : Reader β}
    {condition : β → Place → Prop}
    (here : Agree tokens bound place chosen chosen' condition)
    (elsewhere : Agree tokens bound place other other' condition) :
    Agree tokens bound place
      (Grammar.isAtStop stop >>= fun found => if found = true then chosen else other)
      (Grammar.isAtStop stop >>= fun found => if found = true then chosen' else other')
      condition := by
  have looked : ∃ found, Grammar.isAtStop stop place = .ok (found, place) := ⟨_, rfl⟩
  rcases looked with ⟨found, looked⟩
  intro near
  rw [bind_of_ok looked, bind_of_ok looked]
  cases found with
  | true => exact here near
  | false => exact elsewhere near

theorem statementList_agree (ready : Ready tokens bound self) (short : smaller < bound)
    (stop : List Keyword) (fuel : Nat) :
    Agree tokens smaller place (statementList self stop fuel) (statementList grammar stop fuel)
      (Settles tokens Stranded) := by
  induction fuel generalizing smaller place with
  | zero => exact Agree.pure (.inl .nil)
  | succ fuel ih =>
      refine Agree.isAtStop (Agree.pure (.inl .nil)) ?_
      refine (ready.agrees .statement place smaller short).bind fun node next _ settles => ?_
      refine Agree.ifAt (fun newline => ?_) (fun _ => Agree.pure settles)
      have all := Settles.resolve settles newline rfl
      refine Agree.skipNewlines fun _ _ _ => ?_
      refine (ih short).bind fun others _ _ later => Agree.pure ?_
      exact Settles.append (.inl all) later

theorem statements_agree (ready : Ready tokens bound self) (short : smaller < bound)
    (stop : List Keyword) :
    Agree tokens smaller place (statements self stop) (statements grammar stop)
      fun node => Settles tokens Stranded [node] := by
  refine Agree.peek ?_
  refine Agree.skipNewlines fun _ _ _ => ?_
  refine (Agree.repeated fun fuel _ => statementList_agree ready short stop fuel).bind
    fun nodes next _ settles => ?_
  exact Agree.nodeFrom (.node rfl settles)

theorem closedBlock_agree (ready : Ready tokens bound self) (short : smaller < bound)
    {opener : Keyword} {span : Span} {closer : Keyword} (never : begins (.keyword closer) = false) :
    Agree tokens smaller place (closedBlock self opener span closer)
      (closedBlock grammar opener span closer) fun node _ => AllHeed tokens [node] := by
  refine Agree.enterBlock fun _ _ _ => ?_
  refine (statements_agree ready short _).bind fun node next _ settles => ?_
  exact Agree.leaveBlock fun _ _ found => Agree.pure (settles.resolve found never)

theorem loopBody_agree (ready : Ready tokens bound self) (short : smaller < bound)
    {opener : Keyword} {span : Span} :
    Agree tokens smaller place (loopBody self opener span) (loopBody grammar opener span)
      fun body => Settles tokens Stranded [body.1] := by
  refine Agree.ifAt (fun _ => ?_) (fun _ => ?_)
  · refine (closedBlock_agree ready short rfl).bind fun node _ _ all => ?_
    exact Agree.pure (.inl all)
  · refine (ready.agrees .statement place smaller short).bind fun node next _ settles => ?_
    exact Agree.pure settles

/-- The nodes of the cases of a conditional. -/
def caseNodes (cases : List (Node × Node)) (otherwise : Option Node) : List Node :=
  cases.flatMap (fun case => [case.1, case.2]) ++ otherwise.toList

theorem furtherCases_agree (ready : Ready tokens bound self) (short : smaller < bound)
    {body body' lastBody lastBody' : Reader Node}
    (arm : ∀ place, ∀ less ≤ smaller, Agree tokens less place body body'
      fun node => Settles tokens Stranded [node])
    (lastArm : ∀ place, ∀ less ≤ smaller, Agree tokens less place lastBody lastBody'
      fun node => Settles tokens Stranded [node]) (fuel : Nat) :
    Agree tokens smaller place (furtherCases self body lastBody fuel)
      (furtherCases grammar body' lastBody' fuel) fun cases next =>
        Settles tokens Stranded (caseNodes cases.1 cases.2) next ∧
          (Stranded place → next = place) := by
  induction fuel generalizing smaller place with
  | zero => exact Agree.pure ⟨.inl .nil, fun _ => rfl⟩
  | succ fuel ih =>
      refine Agree.ifEat nofun (fun next _ less _ found => ?_) (fun _ => ?_)
      · have short := Nat.lt_trans less short
        refine (ready.agrees .expression next _ short).bind fun condition next _ tested => ?_
        refine Agree.expect nofun fun next _ less' _ found' => ?_
        have tested := Settles.resolve tested found' rfl
        refine (arm next _ (Nat.le_of_lt (Nat.lt_trans less' less))).bind
          fun chosen next _ settles => ?_
        refine (ih (Nat.lt_trans less' short)
          (fun place _ le => arm place _ (Nat.le_trans le (Nat.le_of_lt (Nat.lt_trans less' less))))
          (fun place _ le =>
            lastArm place _ (Nat.le_trans le (Nat.le_of_lt (Nat.lt_trans less' less))))).bind
          fun cases last _ later => ?_
        refine Agree.pure ⟨?_, fun stranded => stranded.absurd found rfl⟩
        have chosen := settles.onward later.2
        exact Settles.cons tested (chosen.append later.1)
      · refine Agree.ifEat nofun (fun next _ less _ found => ?_)
          (fun _ => Agree.pure ⟨.inl .nil, fun _ => rfl⟩)
        refine (lastArm next _ (Nat.le_of_lt less)).bind fun node next _ settles => ?_
        exact Agree.pure ⟨settles, fun stranded => stranded.absurd found rfl⟩

theorem conditional_agree (ready : Ready tokens bound self) (short : smaller ≤ bound)
    (found : place.current.kind = .keyword .ifWord) :
    Agree tokens smaller place (conditional self) (conditional grammar)
      fun node => Settles tokens Stranded [node] := by
  refine Agree.advance (by rw [found]; nofun) fun _ less _ => ?_
  have short := Nat.lt_of_lt_of_le less short
  refine (ready.agrees .expression _ _ short).bind fun condition next _ tested => ?_
  refine Agree.expect nofun fun next _ less' _ found' => ?_
  have short := Nat.lt_trans less' short
  have tested := Settles.resolve tested found' rfl
  refine Agree.ifAt (fun _ => ?_) (fun _ => ?_)
  · refine Agree.enterBlock fun next _ _ => ?_
    refine (statements_agree ready short _).bind fun first next _ settles => ?_
    refine (Agree.repeated fun fuel _ => furtherCases_agree ready short
      (fun _ _ le => statements_agree ready (Nat.lt_of_le_of_lt le short) _)
      (fun _ _ le => statements_agree ready (Nat.lt_of_le_of_lt le short) _) fuel).bind
      fun cases next _ later => ?_
    have first := settles.onward later.2
    refine Agree.leaveBlock fun _ _ ended => Agree.nodeFrom (.inl (.node rfl ?_))
    exact AllHeed.cons tested
      (AllHeed.cons (first.resolve ended rfl) (later.1.resolve ended rfl))
  · refine (ready.agrees .statement _ _ short).bind fun first next _ settles => ?_
    refine (Agree.repeated fun fuel _ => furtherCases_agree ready short
      (fun _ _ le => ready.agrees .statement _ _ (Nat.lt_of_le_of_lt le short))
      (fun _ _ le => ready.agrees .statement _ _ (Nat.lt_of_le_of_lt le short)) fuel).bind
      fun cases next _ later => ?_
    have first := Settles.onward settles later.2
    refine Agree.nodeFrom (.node rfl ?_)
    exact Settles.cons tested (first.append later.1)

/-- An expression after a word is read only if the word is there. -/
theorem stepClause_agree (ready : Ready tokens bound self) (short : smaller < bound) :
    Agree tokens smaller place (stepClause self) (stepClause grammar) fun step next =>
      Settles tokens Stranded step.toList next ∧ (Stranded place → next = place) := by
  refine Agree.ifEat nofun (fun next _ less _ found => ?_)
    (fun _ => Agree.pure ⟨.inl .nil, fun _ => rfl⟩)
  refine (ready.agrees .expression _ _ (Nat.lt_trans less short)).bind
    fun step next _ settles => ?_
  exact Agree.pure ⟨settles, fun stranded => stranded.absurd found rfl⟩

theorem forLoop_agree (ready : Ready tokens bound self) (short : smaller ≤ bound)
    (found : place.current.kind = .keyword .forWord) :
    Agree tokens smaller place (forLoop self) (forLoop grammar)
      fun node => Settles tokens Stranded [node] := by
  refine Agree.advance (by rw [found]; nofun) fun _ less _ => ?_
  have short := Nat.lt_of_lt_of_le less short
  refine label_agree.bind fun label next _ _ => ?_
  refine Agree.identifier fun name next _ less _ _ => ?_
  have short := Nat.lt_trans less short
  refine Agree.ifEat nofun (fun next _ less _ _ => ?_) (fun _ => ?_)
  · have short := Nat.lt_trans less short
    refine (ready.agrees .expression _ _ short).bind fun first next _ starts => ?_
    refine Agree.expect nofun fun next _ less _ found => ?_
    have starts := Settles.resolve starts found rfl
    have short := Nat.lt_trans less short
    refine (ready.agrees .expression _ _ short).bind fun last next _ stops => ?_
    refine (stepClause_agree ready short).bind fun step next _ advances => ?_
    refine Agree.expect nofun fun next _ less _ found => ?_
    have stops := (Settles.onward stops advances.2).resolve found rfl
    have step := advances.1.resolve found rfl
    refine (loopBody_agree ready (Nat.lt_trans less short)).bind fun body next _ settles => ?_
    refine Agree.nodeFrom (.node rfl ?_)
    exact Settles.append settles (.inl (AllHeed.append starts (AllHeed.append stops step)))
  · refine Agree.ifEat nofun (fun next _ less _ _ => ?_) (fun _ => Agree.unexpected)
    have short := Nat.lt_trans less short
    refine (ready.agrees .expression _ _ short).bind fun items next _ visits => ?_
    refine Agree.expect nofun fun next _ less _ found => ?_
    have visits := Settles.resolve visits found rfl
    refine (loopBody_agree ready (Nat.lt_trans less short)).bind fun body next _ settles => ?_
    exact Agree.nodeFrom (.node rfl (Settles.append settles (.inl visits)))

theorem whileLoop_agree (ready : Ready tokens bound self) (short : smaller ≤ bound)
    (found : place.current.kind = .keyword .whileWord) :
    Agree tokens smaller place (whileLoop self) (whileLoop grammar)
      fun node => Settles tokens Stranded [node] := by
  refine Agree.advance (by rw [found]; nofun) fun _ less _ => ?_
  have short := Nat.lt_of_lt_of_le less short
  refine label_agree.bind fun label next _ _ => ?_
  refine (ready.agrees .expression _ _ short).bind fun condition next _ tested => ?_
  refine Agree.expect nofun fun next _ less _ found => ?_
  have tested := Settles.resolve tested found rfl
  refine (loopBody_agree ready (Nat.lt_trans less short)).bind fun body next _ settles => ?_
  exact Agree.nodeFrom (.node rfl (Settles.append settles (.inl tested)))

theorem endlessLoop_agree (ready : Ready tokens bound self) (short : smaller ≤ bound)
    (found : place.current.kind = .keyword .loopWord) :
    Agree tokens smaller place (endlessLoop self) (endlessLoop grammar)
      fun node => Settles tokens Stranded [node] := by
  refine Agree.advance (by rw [found]; nofun) fun _ less _ => ?_
  have short := Nat.lt_of_lt_of_le less short
  refine label_agree.bind fun label next _ _ => ?_
  refine Agree.eat nofun fun _ _ _ _ _ => ?_
  refine (loopBody_agree ready short).bind fun body next _ settles => ?_
  exact Agree.nodeFrom (.node rfl settles)

theorem doBody_agree (ready : Ready tokens bound self) (short : smaller < bound) {span : Span} :
    Agree tokens smaller place (doBody self span) (doBody grammar span)
      fun body _ => AllHeed tokens [body.1] := by
  refine Agree.ifAt (fun _ => ?_) (fun _ => ?_)
  · exact (closedBlock_agree ready short rfl).bind fun node _ _ all => Agree.pure all
  · refine (ready.agrees .statement _ _ short).bind fun node next _ settles => ?_
    exact Agree.expect nofun fun _ _ _ _ found => Agree.pure (Settles.resolve settles found rfl)

theorem doLoop_agree (ready : Ready tokens bound self) (short : smaller ≤ bound)
    (found : place.current.kind = .keyword .doWord) :
    Agree tokens smaller place (doLoop self) (doLoop grammar)
      fun node => Settles tokens Stranded [node] := by
  refine Agree.advance (by rw [found]; nofun) fun _ less _ => ?_
  have short := Nat.lt_of_lt_of_le less short
  refine label_agree.bind fun label next _ _ => ?_
  refine (doBody_agree ready short).bind fun body next _ all => ?_
  refine Agree.expect nofun fun next _ less _ _ => ?_
  refine Agree.expect nofun fun next _ less' _ _ => ?_
  have short := Nat.lt_trans less' (Nat.lt_trans less short)
  refine (ready.agrees .expression _ _ short).bind fun condition next _ tested => ?_
  exact Agree.nodeFrom (.node rfl (Settles.append (.inl all) tested))

/-! ### Functions and classes -/

/-- The defaults of the parameters that have one. -/
def Parameters.defaults (given : Parameters) : List Node :=
  given.optional.map Prod.snd

theorem parameter_agree (ready : Ready tokens bound self) (short : smaller < bound)
    {given : Parameters} (all : AllHeed tokens given.defaults) :
    Agree tokens smaller place (parameter self given) (parameter grammar given)
      fun extended => Settles tokens Stranded extended.defaults := by
  refine Agree.identifier fun name next _ less _ _ => ?_
  by_cases known : given.contains name = true
  · simp only [known, if_true]
    exact Agree.failAt
  simp only [known]
  have short := Nat.lt_trans less short
  refine Agree.ifEat nofun (fun next _ less _ _ => ?_) (fun _ => ?_)
  · refine (ready.agrees .expression _ _ (Nat.lt_trans less short)).bind
      fun value next _ settles => Agree.pure ?_
    simp only [Parameters.defaults, List.map_append, List.map_cons, List.map_nil]
    exact Settles.append (.inl all) settles
  · by_cases optional : (!given.optional.isEmpty) = true
    · rw [if_pos optional]
      exact Agree.failAt
    · rw [if_neg optional]
      exact Agree.pure (.inl all)

theorem parameterList_agree (ready : Ready tokens bound self) (short : smaller < bound)
    (fuel : Nat) {given : Parameters} (all : AllHeed tokens given.defaults) :
    Agree tokens smaller place (parameterList self fuel given) (parameterList grammar fuel given)
      fun extended => Settles tokens Stranded extended.defaults := by
  induction fuel generalizing smaller place given with
  | zero => exact parameter_agree ready short all
  | succ fuel ih =>
      refine (parameter_agree ready short all).bind fun extended next _ settles => ?_
      refine Agree.ifEat nofun (fun _ _ less _ found => ?_) (fun _ => Agree.pure settles)
      exact ih (Nat.lt_trans less short) (settles.resolve found rfl)

theorem parameters_agree (ready : Ready tokens bound self) (short : smaller < bound) :
    Agree tokens smaller place (parameters self) (parameters grammar)
      fun given _ => AllHeed tokens given.defaults := by
  refine Agree.expect nofun fun next left less _ _ => ?_
  have short := Nat.lt_trans less short
  have read : Agree tokens left next
      (isAt (.closing .round) >>= fun found => if found = true then pure ⟨[], []⟩
        else repeated fun fuel => parameterList self fuel ⟨[], []⟩)
      (isAt (.closing .round) >>= fun found => if found = true then pure ⟨[], []⟩
        else repeated fun fuel => parameterList grammar fuel ⟨[], []⟩)
      fun given => Settles tokens Stranded given.defaults := by
    refine Agree.ifAt (fun _ => Agree.pure (.inl .nil)) (fun _ => ?_)
    exact Agree.repeated fun fuel _ => parameterList_agree ready short fuel .nil
  refine read.bind fun given next _ settles => ?_
  exact Agree.expect nofun fun _ _ _ _ found => Agree.pure (settles.resolve found rfl)

theorem function_agree (ready : Ready tokens bound self) (short : smaller ≤ bound)
    (found : place.current.kind = .keyword .defWord) :
    Agree tokens smaller place (function self) (function grammar)
      fun node => Settles tokens Stranded [node] := by
  refine Agree.advance (by rw [found]; nofun) fun _ less _ => ?_
  have short := Nat.lt_of_lt_of_le less short
  refine functionName_agree.bind fun name next _ _ => ?_
  refine (parameters_agree ready short).bind fun given next _ defaults => ?_
  refine Agree.ifEat nofun (fun next _ less _ _ => ?_) (fun _ => ?_)
  · refine (ready.agrees .expression _ _ (Nat.lt_trans less short)).bind
      fun body next _ settles => ?_
    exact Agree.nodeFrom (.node rfl (Settles.append settles (.inl defaults)))
  · refine Agree.ifAt (fun _ => ?_) (fun _ => Agree.unexpected)
    refine (closedBlock_agree ready short rfl).bind fun body next _ all => ?_
    exact Agree.nodeFrom (.inl (.node rfl (AllHeed.append all defaults)))

theorem parentClause_agree (ready : Ready tokens bound self) (short : smaller < bound) :
    Agree tokens smaller place (parentClause self) (parentClause grammar)
      fun parent _ => AllHeed tokens parent.toList := by
  refine Agree.ifEat nofun (fun next _ less _ _ => ?_) (fun _ => Agree.pure .nil)
  refine (ready.agrees .chain _ _ (Nat.lt_trans less short)).bind fun parent next _ settles => ?_
  exact Agree.expect nofun fun _ _ _ _ found => Agree.pure (Settles.resolve settles found rfl)

theorem classDefinition_agree (ready : Ready tokens bound self) (short : smaller ≤ bound)
    (found : place.current.kind = .keyword .classWord) :
    Agree tokens smaller place (classDefinition self) (classDefinition grammar)
      fun node => Settles tokens Stranded [node] := by
  refine Agree.advance (by rw [found]; nofun) fun _ less _ => ?_
  have short := Nat.lt_of_lt_of_le less short
  refine Agree.identifier fun name next _ less _ _ => ?_
  have short := Nat.lt_trans less short
  refine (parentClause_agree ready short).bind fun parent next _ inherits => ?_
  refine Agree.ifEat nofun (fun next _ less _ _ => ?_) (fun _ => ?_)
  · refine (ready.agrees .statement _ _ (Nat.lt_trans less short)).bind
      fun body next _ settles => ?_
    exact Agree.nodeFrom (.node rfl (Settles.append settles (.inl inherits)))
  · refine Agree.ifAt (fun _ => ?_) (fun _ => Agree.unexpected)
    refine (closedBlock_agree ready short rfl).bind fun body next _ all => ?_
    exact Agree.nodeFrom (.inl (.node rfl (AllHeed.append all inherits)))

/-! ## Atoms, calls and attributes -/

theorem atom_agree (ready : Ready tokens bound self) (short : smaller ≤ bound) :
    Agree tokens smaller place (atom self) (atom grammar)
      fun node => Settles tokens Stranded [node] := by
  refine Agree.peek ?_
  cases found : place.current.kind with
  | int value =>
      refine Agree.advance (by rw [found]; nofun) fun _ _ _ => ?_
      exact number_agree.mono fun _ _ _ all => .inl all
  | float value =>
      refine Agree.advance (by rw [found]; nofun) fun _ _ _ => ?_
      exact number_agree.mono fun _ _ _ all => .inl all
  | text value =>
      refine Agree.advance (by rw [found]; nofun) fun _ _ _ => ?_
      exact Agree.pure (.inl (.node rfl .nil))
  | identifier name =>
      refine Agree.advance (by rw [found]; nofun) fun _ _ _ => ?_
      exact Agree.pure (.inl (.node rfl .nil))
  | symbol mark =>
      cases mark with
      | dollar =>
          refine Agree.advance (by rw [found]; nofun) fun _ _ _ => ?_
          exact Agree.identifier fun _ _ _ _ _ _ => Agree.nodeFrom (.inl (.node rfl .nil))
      | _ => exact Agree.unexpected
  | opening bracket =>
      cases bracket with
      | round => exact (bracketed_agree ready short found).mono fun _ _ _ all => .inl all
      | square => exact (listLiteral_agree ready short found).mono fun _ _ _ all => .inl all
  | keyword word =>
      cases word with
      | defaultWord =>
          refine Agree.advance (by rw [found]; nofun) fun _ _ _ => ?_
          exact Agree.pure (.inl (.node rfl .nil))
      | ifWord => exact conditional_agree ready short found
      | forWord => exact forLoop_agree ready short found
      | whileWord => exact whileLoop_agree ready short found
      | doWord => exact doLoop_agree ready short found
      | loopWord => exact endlessLoop_agree ready short found
      | defWord => exact function_agree ready short found
      | classWord => exact classDefinition_agree ready short found
      | _ => exact Agree.unexpected
  | _ => exact Agree.unexpected

/-- Calls are read only where a round bracket opens, and end with one that closes. -/
theorem callSuffixes_agree (ready : Ready tokens bound self) (short : smaller ≤ bound)
    (fuel : Nat) (callee : Node) :
    Agree tokens smaller place (callSuffixes self fuel callee) (callSuffixes grammar fuel callee)
      fun node next => (AllHeed tokens [callee] → AllHeed tokens [node]) ∧
        (Stranded place → next = place) := by
  induction fuel generalizing smaller place callee with
  | zero => exact Agree.pure ⟨id, fun _ => rfl⟩
  | succ fuel ih =>
      refine Agree.ifEat nofun (fun next _ less _ found => ?_)
        (fun _ => Agree.pure ⟨id, fun _ => rfl⟩)
      have short := Nat.lt_of_lt_of_le less short
      refine (arguments_agree ready short).bind fun given next _ passed => ?_
      refine Agree.thenNode ?_
      refine (ih (Nat.le_of_lt short) _).mono fun node last _ later => ?_
      refine ⟨fun all => later.1 (.node rfl (all.append passed)), fun stranded => ?_⟩
      exact absurd found stranded.notRound

theorem called_agree (ready : Ready tokens bound self) (short : smaller ≤ bound) (callee : Node) :
    Agree tokens smaller place (called self callee) (called grammar callee)
      fun node next => (AllHeed tokens [callee] → AllHeed tokens [node]) ∧
        (Stranded place → next = place) :=
  Agree.repeated fun fuel _ => callSuffixes_agree ready short fuel callee

theorem calledName_agree (ready : Ready tokens bound self) (short : smaller ≤ bound)
    {expected : Expectation} :
    Agree tokens smaller place (calledName self expected) (calledName grammar expected)
      fun node _ => AllHeed tokens [node] := by
  refine Agree.identifier fun name next _ less _ _ => ?_
  refine (called_agree ready (Nat.le_trans (Nat.le_of_lt less) short) _).mono
    fun node _ _ calls => ?_
  exact calls.1 (.node rfl .nil)

theorem attributeSteps_agree (ready : Ready tokens bound self) (short : smaller ≤ bound)
    (fuel : Nat) :
    Agree tokens smaller place (attributeSteps self fuel) (attributeSteps grammar fuel)
      fun steps next => AllHeed tokens steps ∧ (Stranded place → next = place) := by
  induction fuel generalizing smaller place with
  | zero => exact Agree.pure ⟨.nil, fun _ => rfl⟩
  | succ fuel ih =>
      refine Agree.ifEat nofun (fun next _ less _ found => ?_)
        (fun _ => Agree.pure ⟨.nil, fun _ => rfl⟩)
      have short := Nat.le_of_lt (Nat.lt_of_lt_of_le less short)
      refine (calledName_agree ready short).bind fun step next _ first => ?_
      refine (ih short).bind fun others last _ later => Agree.pure ?_
      exact ⟨first.append later.1, fun stranded => stranded.absurd found rfl⟩

theorem settles_attributeChain {base : Node} {steps : List Node}
    (first : Settles tokens Stranded [base] place) (later : AllHeed tokens steps) :
    Settles tokens Stranded [attributeChain base steps] place := by
  rcases attributeChain_cases base steps with ⟨-, alone⟩ | ⟨-, span, chained⟩
  · rw [alone]
    exact first
  · rw [chained]
    exact .node rfl (Settles.append first (.inl later))

theorem chain_agree (ready : Ready tokens bound self) (short : smaller ≤ bound) :
    Agree tokens smaller place (chain self) (chain grammar)
      fun node => Settles tokens Stranded [node] := by
  refine (atom_agree ready short).bind fun atom between _ first => ?_
  refine (called_agree ready short atom).bind fun base next _ calls => ?_
  have base : Settles tokens Stranded [base] next := by
    rcases first with all | stranded
    · exact .inl (calls.1 all)
    · rw [calls.2 stranded]
      exact .inr stranded
  refine (Agree.repeated fun fuel _ => attributeSteps_agree ready short fuel).bind
    fun steps last _ further => ?_
  exact Agree.pure (settles_attributeChain (base.onward further.2) further.1)

end Grammar
end Scripting
