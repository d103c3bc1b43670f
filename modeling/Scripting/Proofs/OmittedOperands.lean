import Scripting.Proofs.SignedOperands

namespace Scripting
namespace Grammar

/-!
Operands that are left out.

In a program that is read as a whole, a node without its optional operand is followed by a
token that begins no expression.  The one exception is an opening round bracket, which a
form on one line takes for the arguments of a call of its own.
-/

open Lexical (Bracket Keyword Symbol Token TokenKind)
open Source (Position Span)
open Program

variable {α : Type} {tokens : List Token} {bound smaller : Nat} {place next : Place}
  {lost : Place → Prop} {nodes : List Node} {self : Descent}

/-! ## Statements -/

/-- Items with commas between them, each with the nodes that it is made of. -/
theorem commaSeparated_agree {item item' : Reader α} (parts : α → List Node)
    (items : ∀ place, ∀ less ≤ smaller, Agree tokens less place item item' fun value =>
      Settles tokens Stranded (parts value)) (fuel : Nat) :
    Agree tokens smaller place (commaSeparated item fuel) (commaSeparated item' fuel)
      fun values => Settles tokens Stranded (values.flatMap parts) := by
  induction fuel generalizing smaller place with
  | zero =>
      refine (items place smaller (Nat.le_refl _)).bind fun value next _ settles => ?_
      refine Agree.pure ?_
      rw [List.flatMap_singleton]
      exact settles
  | succ fuel ih =>
      refine (items place smaller (Nat.le_refl _)).bind fun value next _ settles => ?_
      refine Agree.ifEat nofun (fun _ _ less _ found => ?_) (fun _ => Agree.pure ?_)
      · have first := settles.resolve found rfl
        refine (ih fun place _ le => items place _ (Nat.le_trans le (Nat.le_of_lt less))).bind
          fun others _ _ later => Agree.pure ?_
        rw [List.flatMap_cons]
        exact Settles.append (.inl first) later
      · rw [List.flatMap_singleton]
        exact settles

theorem target_agree (ready : Ready tokens bound self) (short : smaller ≤ bound) :
    Agree tokens smaller place (target self) (target grammar)
      fun target => Settles tokens Stranded target.object.toList := by
  refine Agree.peek ?_
  refine (calledName_agree ready short).bind fun first next _ start => ?_
  refine (Agree.repeated fun fuel _ => attributeSteps_agree ready short fuel).bind
    fun others next _ further => ?_
  refine Agree.spanFrom ?_
  have owner : AllHeed tokens (ownerOf first others).toList := by
    cases others with
    | nil => exact .nil
    | cons step others =>
        have front : AllHeed tokens (step :: others).dropLast :=
          fun node member => further.1 node (List.dropLast_subset _ member)
        rcases attributeChain_cases first (step :: others).dropLast with
          ⟨-, alone⟩ | ⟨-, span, chained⟩
        · simp only [ownerOf, alone]
          exact start
        · simp only [ownerOf, chained]
          exact .node rfl (start.append front)
  rcases others.getLastD first with ⟨lastSpan, form⟩
  cases form with
  | name name => exact Agree.pure (Or.inl owner)
  | _ => exact Agree.failAt

theorem not_begins_of_assignOp? {kind : TokenKind} {op : AssignOp}
    (found : assignOp? kind = some op) : begins kind = false := by
  unfold assignOp? at found
  split at found <;> first | rfl | cases found

theorem assignment_agree (ready : Ready tokens bound self) (short : smaller ≤ bound)
    (found : place.current.kind = .keyword .varWord) :
    Agree tokens smaller place (assignment self) (assignment grammar)
      fun node => Settles tokens Stranded [node] := by
  refine Agree.advance (by rw [found]; nofun) fun _ less _ => ?_
  have short := Nat.lt_of_lt_of_le less short
  refine (Agree.repeated fun fuel _ => commaSeparated_agree
    (fun target : Target Node => target.object.toList)
    (fun _ _ le => target_agree ready (Nat.le_trans le (Nat.le_of_lt short))) fuel).bind
    fun targets next _ assigned => ?_
  refine Agree.peek ?_
  cases operator : assignOp? next.current.kind with
  | none => exact Agree.unexpected
  | some op =>
      have assigned := assigned.resolve rfl (not_begins_of_assignOp? operator)
      have inner : next.current.kind ≠ .endOfFile := by
        intro last
        rw [last] at operator
        cases operator
      refine Agree.advance inner fun _ less _ => ?_
      refine (Agree.repeated fun fuel _ => commaSeparated_agree (fun node => [node])
        (fun _ _ le => ready.agrees .expression _ _
          (Nat.lt_of_le_of_lt le (Nat.lt_trans less short))) fuel).bind
        fun values next _ given => ?_
      refine Agree.nodeFrom (.node rfl ?_)
      rw [List.flatMap_singleton'] at given
      exact Settles.append (.inl assigned) given

theorem deletion_agree (found : place.current.kind = .keyword .delWord) :
    Agree tokens smaller place deletion deletion fun node _ => AllHeed tokens [node] := by
  refine Agree.advance (by rw [found]; nofun) fun _ _ _ => ?_
  exact Agree.identifier fun _ _ _ _ _ _ => Agree.nodeFrom (.node rfl .nil)

/-- The direction of a write is a token that begins no expression. -/
theorem redirection_agree : Agree tokens smaller place redirection redirection
    fun _ _ => begins place.current.kind = false := by
  refine Agree.peek ?_
  split
  · rename_i found
    refine Agree.advance (by rw [found]; nofun) fun _ _ _ => Agree.pure ?_
    rw [found]
    rfl
  · rename_i found
    refine Agree.advance (by rw [found]; nofun) fun _ _ _ => Agree.pure ?_
    rw [found]
    rfl
  · exact Agree.unexpected

/-- A node spans the tokens from the one it begins with to the last one passed. -/
theorem spans_of_moves {origin : Place} (moves : origin.Moves place)
    (shorter : place.rest.length < origin.rest.length) :
    ∃ stretch, origin.tokens = stretch ++ place.tokens ∧
      Spans stretch (place.spanAfter origin.current.span.start) := by
  rcases moves with ⟨stretch, split, ended, -⟩
  refine ⟨stretch, split, ?_⟩
  cases stretch with
  | nil =>
      have lengths := congrArg List.length split
      simp only [Place.tokens, List.nil_append, List.length_cons] at lengths
      omega
  | cons first others =>
      have same : origin.current = first := (List.cons.inj split).1
      cases ending : (first :: others).getLast? with
      | none => exact absurd (List.getLast?_eq_none_iff.mp ending) (List.cons_ne_nil _ _)
      | some last =>
          rw [ending] at ended
          refine ⟨first, last, rfl, ending, by rw [same]; rfl, ?_⟩
          simp only [Place.spanAfter, ended, Option.elim, same]

/--
An operand was tried and given up at a place behind the first token of a node.  Either no
expression begins there or a round bracket opens, and the node is followed as it should be;
or the place is one where an operand was given up.
-/
theorem settles_omitted {origin : Place} {form : Form Node} (near : Near tokens bound origin)
    (moves : origin.Moves place) (shorter : place.rest.length < origin.rest.length)
    (fails : ∀ result, expression grammar place ≠ .ok result)
    (parts : AllHeed tokens (formParts form)) :
    Settles tokens Stranded [⟨place.spanAfter origin.current.span.start, form⟩] place := by
  by_cases ordinary : begins place.current.kind = false ∨ place.current.kind = .opening .round
  · rcases spans_of_moves moves shorter with ⟨stretch, split, spans⟩
    rcases near.behind with ⟨before, whole⟩
    refine .inl (List.forall_mem_singleton.mpr (.node (fun _ => ?_) parts))
    refine ⟨before, stretch, place.current, place.rest, ?_, spans, ?_⟩
    · rw [← whole, split]
      rfl
    · rcases ordinary with never | round
      · refine .inl fun can => ?_
        rw [begins_of_canBegin can] at never
        cases never
      · exact .inr round
  · have begun : begins place.current.kind = true := by
      cases beginning : begins place.current.kind with
      | true => rfl
      | false => exact absurd (Or.inl beginning) ordinary
    exact .inr ⟨begun, fun round => ordinary (Or.inr round), fails⟩

/--
An operand that may be left out, at the end of a node.  What stands before it is either
followed as it should be or ends where an operand was given up; in that case this one is
given up as well, because it is read in the same way.
-/
theorem optionalOperand_agree (ready : Ready tokens bound self) (short : smaller < bound)
    {origin : Place} (near : Near tokens bound origin) (moves : origin.Moves place)
    (shorter : place.rest.length < origin.rest.length) {form : Option Node → Form Node}
    (ordinary : ∀ operand, omitsOperand (form (some operand)) = false)
    (parts : ∀ operand, formParts (form operand) = nodes ++ operand.toList)
    (start : Settles tokens Stranded nodes place) :
    Agree tokens smaller place
      (attempt (self .expression) >>= fun operand =>
        nodeFrom origin.current.span.start (form operand))
      (attempt (grammar .expression) >>= fun operand =>
        nodeFrom origin.current.span.start (form operand))
      fun node => Settles tokens Stranded [node] := by
  intro here
  have unfolds := ready.unfolds .expression place smaller short here
  refine Agree.attempt (ready.agrees .expression _ _ short) (fun operand next _ read settles => ?_)
    (fun failure failed => ?_) here
  · rcases start with all | stranded
    · refine Agree.nodeFrom (.node (ordinary operand) ?_)
      rw [parts]
      exact Settles.append (.inl all) settles
    · rw [unfolds] at read
      exact absurd read (stranded.fails _)
  · rw [(grammar_failed here.closed_here failed).1]
    rcases start with all | stranded
    · refine Agree.nodeFrom (settles_omitted near moves shorter (fun result read => ?_) ?_)
      · cases failed.symm.trans (unfolds.trans read)
      · rw [parts]
        exact all.append .nil
    · exact Agree.nodeFrom (.inr stranded)

theorem returnStatement_agree (ready : Ready tokens bound self) (short : smaller ≤ bound)
    (found : place.current.kind = .keyword .returnWord) :
    Agree tokens smaller place (returnStatement self) (returnStatement grammar)
      fun node => Settles tokens Stranded [node] := by
  intro near
  have inner : place.current.kind ≠ .endOfFile := by rw [found]; nofun
  have origin : Near tokens bound place :=
    ⟨near.closed, near.behind, Nat.le_trans near.within short⟩
  rcases near.advance inner with ⟨moves, shorter⟩
  refine Agree.advance inner (fun _ less _ => ?_) near
  exact optionalOperand_agree ready (Nat.lt_of_lt_of_le less short) origin moves shorter
    (fun _ => rfl) (fun _ => rfl) (.inl .nil)

theorem writeStatement_agree (ready : Ready tokens bound self) (short : smaller ≤ bound)
    (found : place.current.kind = .keyword .writeWord) :
    Agree tokens smaller place (writeStatement self) (writeStatement grammar)
      fun node => Settles tokens Stranded [node] := by
  intro near
  have inner : place.current.kind ≠ .endOfFile := by rw [found]; nofun
  have origin : Near tokens bound place :=
    ⟨near.closed, near.behind, Nat.le_trans near.within short⟩
  rcases near.advance inner with ⟨moves, shorter⟩
  refine Agree.advance inner (fun _ less _ => ?_) near
  have short := Nat.lt_of_lt_of_le less short
  refine (ready.agrees .expression _ _ short).bind fun text _ toText written => ?_
  refine redirection_agree.bind fun overwrite _ toMark never => ?_
  have written := Settles.resolve written rfl never
  refine (ready.agrees .expression _ _ short).bind fun target _ toTarget file => ?_
  have onward := toText.trans (toMark.trans toTarget)
  exact optionalOperand_agree ready short origin (moves.trans onward)
    (Nat.lt_of_le_of_lt onward.length_le shorter) (fun _ => rfl) (fun _ => rfl)
    (Settles.cons written file)

theorem readStatement_agree (ready : Ready tokens bound self) (short : smaller ≤ bound)
    (found : place.current.kind = .keyword .readWord) :
    Agree tokens smaller place (readStatement self) (readStatement grammar)
      fun node => Settles tokens Stranded [node] := by
  intro near
  have inner : place.current.kind ≠ .endOfFile := by rw [found]; nofun
  have origin : Near tokens bound place :=
    ⟨near.closed, near.behind, Nat.le_trans near.within short⟩
  rcases near.advance inner with ⟨moves, shorter⟩
  refine Agree.advance inner (fun _ less _ => ?_) near
  have short := Nat.lt_of_lt_of_le less short
  refine (ready.agrees .expression _ _ short).bind fun target _ toTarget file => ?_
  refine readInto_agree.bind fun into _ toName stays => ?_
  have onward := toTarget.trans toName
  exact optionalOperand_agree ready short origin (moves.trans onward)
    (Nat.lt_of_le_of_lt onward.length_le shorter) (fun _ => rfl) (fun _ => rfl)
    (Settles.onward file stays)

theorem assertionMessage_agree (ready : Ready tokens bound self) (short : smaller < bound) :
    Agree tokens smaller place (assertionMessage self) (assertionMessage grammar)
      fun message next => Settles tokens Stranded message.toList next ∧
        (Stranded place → next = place) := by
  refine Agree.ifEat nofun (fun next _ less _ found => ?_)
    (fun _ => Agree.pure ⟨.inl .nil, fun _ => rfl⟩)
  refine (ready.agrees .expression _ _ (Nat.lt_trans less short)).bind
    fun message next _ settles => ?_
  exact Agree.pure ⟨settles, fun stranded => stranded.absurd found rfl⟩

theorem assertionStatement_agree (ready : Ready tokens bound self) (short : smaller ≤ bound)
    (found : place.current.kind = .keyword .assertWord) :
    Agree tokens smaller place (assertionStatement self) (assertionStatement grammar)
      fun node => Settles tokens Stranded [node] := by
  refine Agree.advance (by rw [found]; nofun) fun _ less _ => ?_
  have short := Nat.lt_of_lt_of_le less short
  refine (ready.agrees .expression _ _ short).bind fun condition next _ claimed => ?_
  refine (assertionMessage_agree ready short).bind fun message next _ explained => ?_
  exact Agree.nodeFrom (.node rfl (Settles.append (Settles.onward claimed explained.2) explained.1))

theorem expression_agree (ready : Ready tokens bound self) (short : smaller ≤ bound) :
    Agree tokens smaller place (expression self) (expression grammar)
      fun node => Settles tokens Stranded [node] := by
  refine Agree.peek ?_
  split
  · rename_i found
    exact assignment_agree ready short found
  · rename_i found
    exact (deletion_agree found).mono fun _ _ _ all => .inl all
  · rename_i found
    exact writeStatement_agree ready short found
  · rename_i found
    exact readStatement_agree ready short found
  · rename_i found
    exact assertionStatement_agree ready short found
  · exact fallback_agree ready short

theorem breakStatement_agree (found : place.current.kind = .keyword .breakWord) :
    Agree tokens smaller place breakStatement breakStatement
      fun node _ => AllHeed tokens [node] := by
  refine Agree.advance (by rw [found]; nofun) fun _ _ _ => ?_
  exact label_agree.bind fun label _ _ _ => Agree.nodeFrom (.node rfl .nil)

theorem continueStatement_agree (found : place.current.kind = .keyword .continueWord) :
    Agree tokens smaller place continueStatement continueStatement
      fun node _ => AllHeed tokens [node] := by
  refine Agree.advance (by rw [found]; nofun) fun _ _ _ => ?_
  exact label_agree.bind fun label _ _ _ => Agree.nodeFrom (.node rfl .nil)

theorem importStatement_agree (found : place.current.kind = .keyword .importWord) :
    Agree tokens smaller place importStatement importStatement
      fun node _ => AllHeed tokens [node] := by
  refine Agree.advance (by rw [found]; nofun) fun _ _ _ => ?_
  refine Agree.identifier fun name next _ _ _ _ => ?_
  exact nameAfterAs_agree.bind fun rename _ _ _ => Agree.nodeFrom (.node rfl .nil)

theorem exportStatement_agree (ready : Ready tokens bound self) (short : smaller ≤ bound)
    (found : place.current.kind = .keyword .exportWord) :
    Agree tokens smaller place (exportStatement self) (exportStatement grammar)
      fun node => Settles tokens Stranded [node] := by
  refine Agree.advance (by rw [found]; nofun) fun _ less _ => ?_
  have short := Nat.lt_of_lt_of_le less short
  refine (ready.agrees .expression _ _ short).bind fun value next _ exported => ?_
  refine nameAfterAs_agree.bind fun given next _ stays => ?_
  cases given.orElse fun _ => impliedName? value with
  | none => exact Agree.unexpected
  | some name => exact Agree.nodeFrom (.node rfl (Settles.onward exported stays))

theorem statement_agree (ready : Ready tokens bound self) (short : smaller ≤ bound) :
    Agree tokens smaller place (statement self) (statement grammar)
      fun node => Settles tokens Stranded [node] := by
  refine Agree.peek ?_
  split
  · rename_i found
    exact returnStatement_agree ready short found
  · rename_i found
    exact (breakStatement_agree found).mono fun _ _ _ all => .inl all
  · rename_i found
    exact (continueStatement_agree found).mono fun _ _ _ all => .inl all
  · rename_i found
    exact (importStatement_agree found).mono fun _ _ _ all => .inl all
  · rename_i found
    exact exportStatement_agree ready short found
  · exact expression_agree ready short

/-! ## Programs -/

theorem level_agree (ready : Ready tokens bound self) (short : smaller ≤ bound) (entry : Entry) :
    Agree tokens smaller place (level self entry) (level grammar entry)
      fun node => Settles tokens entry.Lost [node] := by
  cases entry with
  | statement => exact statement_agree ready short
  | expression => exact expression_agree ready short
  | comparison => exact comparison_agree ready short
  | factor => exact factor_agree ready short
  | chain => exact chain_agree ready short

/-- A descent that is deeper than there are tokens left reads as the grammar does. -/
theorem ready_descend (tokens : List Token) (bound : Nat) :
    ∀ depth, bound ≤ depth → Ready tokens bound (descend depth) := by
  induction bound using Nat.strongRecOn with
  | ind bound ih =>
      have here {smaller : Nat} {place : Place} (near : Near tokens smaller place) :
          Near tokens place.rest.length place := ⟨near.closed, near.behind, Nat.le_refl _⟩
      have shorter {smaller : Nat} {place : Place} (less : smaller < bound)
          (near : Near tokens smaller place) : place.rest.length < bound :=
        Nat.lt_of_le_of_lt near.within less
      have unfolds : ∀ entry place, ∀ smaller < bound, Near tokens smaller place →
          grammar entry place = level grammar entry place := by
        intro entry place smaller less near
        have ready := ih _ (shorter less near) place.rest.length (Nat.le_refl _)
        exact (level_agree ready (Nat.le_refl _) entry (here near)).1
      intro depth deep
      refine ⟨fun entry place smaller less near => ?_, unfolds⟩
      cases depth with
      | zero => exact absurd (Nat.lt_of_lt_of_le less deep) (Nat.not_lt_zero _)
      | succ depth =>
          have enough : place.rest.length ≤ depth :=
            Nat.lt_succ_iff.mp (Nat.lt_of_lt_of_le (shorter less near) deep)
          have ready := ih _ (shorter less near) depth enough
          rcases level_agree ready (Nat.le_refl _) entry (here near) with ⟨same, ends⟩
          exact ⟨same.trans (unfolds entry place smaller less near).symm, ends⟩

theorem program_agree (ready : Ready tokens bound self) (short : smaller < bound) :
    Agree tokens smaller place (program self) (program grammar)
      fun node _ => AllHeed tokens [node] := by
  refine (statements_agree ready short _).bind fun body next _ settles => ?_
  refine Agree.ifAt (fun ended => Agree.pure ?_) (fun _ => Agree.unexpected)
  exact settles.resolve ended rfl

theorem program_settles (ready : Ready tokens bound self) (near : Near tokens smaller place)
    (short : smaller < bound) {node : Node} (read : program self place = .ok (node, next)) :
    Everywhere (Heeds tokens) node := by
  have agree := program_agree ready short near
  exact List.forall_mem_singleton.mp (agree.2 node next read).2

theorem length_rest_ofTokens (tokens : List Token) (checked : Bool := false) :
    (Place.ofTokens tokens checked).rest.length ≤ tokens.length := by
  cases tokens with
  | nil => exact Nat.le_refl _
  | cons first rest =>
      simp only [Place.ofTokens]
      split
      · simp
      · simp

/--
In a program that is read, a return without a value, a write without a line and a read
without a line are followed, right behind their last token, by a token that begins no
expression or by an opening round bracket.
-/
theorem omitted_operands_followed {tokens : List Token} {tree : Node}
    (parsed : parse tokens = .ok tree) :
    Everywhere (fun node => omitsOperand node.form = true →
      FollowedBy EndsOperand (Place.ofTokens tokens).tokens node) tree := by
  have near : Near (Place.ofTokens tokens).tokens tokens.length (Place.ofTokens tokens) :=
    ⟨closed_ofTokens tokens, List.suffix_refl _, length_rest_ofTokens tokens⟩
  have ready := ready_descend (Place.ofTokens tokens).tokens (tokens.length + 2) _ (Nat.le_refl _)
  rcases outcome_ok.mp parsed with ⟨last, read⟩
  exact program_settles ready near (by omega) read

/-- A token on the first line of a text, between two columns. -/
def tokenAt (kind : TokenKind) (start stop : Nat) : Token :=
  ⟨kind, ⟨⟨start, 0, start⟩, ⟨stop, 0, stop⟩⟩⟩

/-- The tokens of `if 1 then return (1, 2)`. -/
def returnBeforeBracket : List Token :=
  [tokenAt (.keyword .ifWord) 0 2, tokenAt (.int 1) 3 4, tokenAt (.keyword .thenWord) 5 9,
    tokenAt (.keyword .returnWord) 10 16, tokenAt (.opening .round) 17 18, tokenAt (.int 1) 18 19,
    tokenAt (.symbol .comma) 19 20, tokenAt (.int 2) 21 22, tokenAt (.closing .round) 22 23,
    tokenAt .endOfFile 23 23]

/-- The return in `if 1 then return (1, 2)`, which is without a value. -/
def bareReturn : Node :=
  ⟨⟨⟨10, 0, 10⟩, ⟨16, 0, 16⟩⟩, .returnFrom none⟩

/-- The tree of `if 1 then return (1, 2)`: the conditional is called with two arguments. -/
def calledConditional : Node :=
  let column (index : Nat) : Position := ⟨index, 0, index⟩
  let number (value : Int64) (start : Nat) : Node :=
    ⟨⟨column start, column (start + 1)⟩, .number (.int value)⟩
  let conditional : Node :=
    ⟨⟨column 0, column 16⟩, .conditional [(number 1 3, bareReturn)] none false⟩
  ⟨⟨column 0, column 23⟩,
    .block [⟨⟨column 0, column 23⟩, .call conditional [number 1 18, number 2 21]⟩]⟩

theorem parse_returnBeforeBracket : parse returnBeforeBracket = .ok calledConditional := by
  rfl

theorem returnBeforeBracket_followed :
    parse returnBeforeBracket = .ok calledConditional ∧
      Everywhere (fun node => omitsOperand node.form = true →
        FollowedBy EndsOperand (Place.ofTokens returnBeforeBracket).tokens node)
        calledConditional :=
  ⟨parse_returnBeforeBracket, omitted_operands_followed parse_returnBeforeBracket⟩

/-- An expression can begin with an opening round bracket. -/
theorem canBegin_round : CanBegin (.opening .round) := by
  have atom {kinds : List TokenKind} {node : Node} (derives : Derives .atom kinds node) :
      Derives .expression kinds node :=
    .expressionAlone (.fallbackAlone (.tierAlone (.comparisonOperand (.comparisonAlone
      (.tierAlone (.termOperand (.tierAlone (.factorOperand (.factorAlone (.powerAlone
        (.chainAlone (.callAlone derives))))))))))))
  have one : Derives .expression [.int 1] ⟨⟨.start, .start⟩, .number (.int 1)⟩ :=
    atom (@Derives.number _ (.int 1))
  exact ⟨_, _, atom (.parenthesised (List.forall_mem_nil _) one (List.forall_mem_nil _))⟩

/-- Only one token ends where the return does, and the bracket comes after it. -/
theorem round_after_return : ∀ index < 10,
    returnBeforeBracket[index]?.map (·.span.stop) = some bareReturn.span.stop →
      returnBeforeBracket[index + 1]?.map Token.kind = some (.opening .round) := by
  decide

theorem bareReturn_before_round {before stretch after : List Token} {next : Token}
    (split : returnBeforeBracket = before ++ (stretch ++ next :: after))
    (spans : Spans stretch bareReturn.span) : next.kind = .opening .round := by
  rcases spans with ⟨first, last, -, ending, start, stop⟩
  have stops : last.span.stop = bareReturn.span.stop := by
    rw [← start] at stop
    split_ifs at stop
    · cases stop
    · exact stop.symm
  rcases List.getLast?_eq_some_iff.mp ending with ⟨front, rfl⟩
  have here : returnBeforeBracket = (before ++ front) ++ last :: next :: after := by
    rw [split]
    simp
  have lastAt : returnBeforeBracket[(before ++ front).length]? = some last := by
    rw [here, List.getElem?_append_right (Nat.le_refl _), Nat.sub_self]
    rfl
  have nextAt : returnBeforeBracket[(before ++ front).length + 1]? = some next := by
    rw [here, List.getElem?_append_right (Nat.le_succ _), Nat.succ_sub (Nat.le_refl _),
      Nat.sub_self]
    rfl
  have bounded : (before ++ front).length < 10 := (List.getElem?_eq_some_iff.mp lastAt).1
  have round := round_after_return _ bounded (by rw [lastAt, Option.map_some, stops])
  rw [nextAt] at round
  exact Option.some.inj round

/--
In `if 1 then return (1, 2)` the return is without a value, although an expression can
begin with the token after it: what was tried as its value is read as arguments instead.
-/
theorem bareReturn_not_followed :
    parse returnBeforeBracket = .ok calledConditional ∧
      ¬ Everywhere (fun node => omitsOperand node.form = true →
        FollowedBy (fun kind => ¬ CanBegin kind) (Place.ofTokens returnBeforeBracket).tokens node)
        calledConditional := by
  refine ⟨parse_returnBeforeBracket, fun everywhere => ?_⟩
  rcases everywhere with ⟨-, blockParts⟩
  rcases blockParts _ (List.mem_singleton.mpr rfl) with ⟨-, callParts⟩
  rcases callParts _ List.mem_cons_self with ⟨-, cases⟩
  have inside : bareReturn ∈ formParts
      (.conditional [(⟨⟨⟨3, 0, 3⟩, ⟨4, 0, 4⟩⟩, .number (.int 1)⟩, bareReturn)] none false) :=
    List.mem_cons_of_mem _ List.mem_cons_self
  rcases cases _ inside with ⟨followed, -⟩
  rcases followed rfl with ⟨before, stretch, next, after, split, spans, cannot⟩
  rw [bareReturn_before_round split spans] at cannot
  exact cannot canBegin_round

end Grammar
end Scripting
