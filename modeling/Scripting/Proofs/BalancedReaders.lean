import Scripting.Proofs.OrderlyReaders

namespace Scripting
namespace Grammar

/-!
Every reader of the grammar keeps order.

One lemma a reader, in the order of the grammar: brackets, bodies, atoms, operators and
statements.  A reader descends only behind a token that it has passed, so it is enough to
know of the parts of the grammar that contain themselves how they read shorter lists of
tokens.  Readers of blocks are given the header before the block, which together with the
lines of the block shows that the block is open as long as its closing word is missing.
-/

open Lexical (Bracket Keyword Symbol Token TokenKind)
open Source (Position Span)
open Program

/-- A descent that keeps order where fewer than some tokens are left. -/
structure Disciplined (bound : Nat) (reads : Descent) : Prop where
  orderly : ∀ entry, ∀ smaller < bound, ∀ front place,
    Orderly smaller 1 0 front place (reads entry)
  follows : Follows reads

variable {α : Type} {bound smaller : Nat} {front : List Token} {place : Place} {self : Descent}

/-! ## Names and signs -/

theorem expect_orderly {kind : TokenKind} (inner : kind ≠ .endOfFile) :
    Orderly bound 1 0 front place (expect kind) := by
  have same : expect kind = (expect kind >>= fun token => pure token) := (bind_pure _).symm
  rw [same]
  exact Orderly.expect inner fun _ _ _ => Orderly.pure

theorem label_orderly : Orderly bound 0 0 front place label := by
  refine Orderly.ifEat nofun (fun _ _ _ => ?_) Orderly.pure
  exact Orderly.identifier fun _ _ _ _ => Orderly.pure

theorem nameAfterAs_orderly {expected : Expectation} :
    Orderly bound 0 0 front place (nameAfterAs expected) := by
  refine Orderly.ifEat nofun (fun _ _ _ => ?_) Orderly.pure
  exact Orderly.identifier fun _ _ _ _ => Orderly.pure

theorem readInto_orderly : Orderly bound 0 0 front place readInto := by
  refine Orderly.ifEat nofun (fun _ _ _ => ?_) Orderly.pure
  exact Orderly.identifier fun _ _ _ _ => Orderly.pure

theorem functionName_orderly : Orderly bound 0 0 front place functionName := by
  refine Orderly.ifAt (fun _ => Orderly.pure) (fun _ => ?_)
  exact Orderly.identifier fun _ _ _ _ => Orderly.pure

theorem exponentSign_orderly : Orderly bound 0 0 front place exponentSign := by
  refine Orderly.ifEat nofun (fun _ _ _ => Orderly.pure) ?_
  have plus : TokenKind.symbol .plus ≠ .endOfFile := nofun
  exact (eat_orderly plus).bind fun _ _ _ _ => Orderly.pure

theorem exponentSign_yields :
    Yields place exponentSign fun passed negative => negative = true → passed = [.symbol .minus] := by
  refine Yields.ifEat nofun (fun _ => Yields.pure fun _ => rfl) (fun _ => ?_)
  exact (eat_yields (.symbol .plus) nofun).bind fun _ _ _ _ => Yields.pure nofun

/-- Only the least integer has no negation, and it matters only where arithmetic is checked. -/
theorem signedDigits_orderly {negative : Bool} {digits : Int64} {span : Span}
    (stand : negative = true → digits = Int64.minValue → Overflows front) :
    Orderly bound 0 0 front place (signedDigits negative digits span) := by
  cases negative with
  | false => exact Orderly.staying rfl
  | true =>
      by_cases beyond : place.checked = true ∧ digits = Int64.minValue
      · have failed : signedDigits true digits span place = failAt .overflow span place := if_pos beyond
        have overflows := stand rfl beyond.2
        refine Orderly.failing failed ⟨nofun, nofun, fun _ => ⟨beyond.1, ?_⟩⟩
        unfold Overflows at overflows ⊢
        rw [List.map_append]
        exact overflows.trans (List.prefix_append _ _).isInfix
      · exact Orderly.staying (if_neg beyond)

theorem number_orderly {value : Literal} {span : Span} :
    Orderly bound 0 0 front place (number value span) := by
  refine Orderly.ifEat nofun (fun _ _ exponent => ?_) Orderly.pure
  refine Orderly.peek ?_
  refine exponentSign_orderly.bindYields exponentSign_yields fun sign negative next minus _ => ?_
  refine Orderly.peek ?_
  split
  · rename_i digits found
    refine Orderly.advance (by rw [found]; exact TokenKind.noConfusion) fun _ _ => ?_
    refine (signedDigits_orderly fun negated least => ?_).bind fun _ power last _ => ?_
    · have kinds := minus negated
      refine ⟨front.map Token.kind, [], ?_⟩
      simp [exponent, kinds, found, least]
    · exact Orderly.thenNode Orderly.pure
  · exact Orderly.unexpected

theorem redirection_orderly : Orderly bound 1 0 front place redirection := by
  refine Orderly.peek ?_
  split
  · rename_i found
    exact Orderly.advance (by rw [found]; exact TokenKind.noConfusion) fun _ _ => Orderly.pure
  · rename_i found
    exact Orderly.advance (by rw [found]; exact TokenKind.noConfusion) fun _ _ => Orderly.pure
  · exact Orderly.unexpected

/-! ## Brackets -/

theorem bracketedItems_orderly {item : Reader α}
    (items : ∀ smaller < bound, ∀ front place, Orderly smaller 1 0 front place item)
    (short : smaller < bound) (fuel : Nat) :
    Orderly smaller 1 0 front place (bracketedItems item fuel) := by
  induction fuel generalizing smaller front place with
  | zero => exact (items _ short _ _).bind fun _ _ _ _ => Orderly.pure
  | succ fuel ih =>
      refine (items _ short _ _).bind fun _ _ _ _ => ?_
      refine skipNewlines_orderly.bind fun _ _ _ _ => ?_
      refine Orderly.ifEat nofun (fun _ less _ => ?_) Orderly.pure
      refine skipNewlines_orderly.bind fun _ _ _ _ => ?_
      exact ((ih (Nat.lt_trans less short)).weaken (Nat.zero_le _)).bind
        fun _ _ _ _ => Orderly.pure

theorem commaSeparated_orderly {item : Reader α}
    (items : ∀ smaller < bound, ∀ front place, Orderly smaller 1 0 front place item)
    (short : smaller < bound) (fuel : Nat) :
    Orderly smaller 1 0 front place (commaSeparated item fuel) := by
  induction fuel generalizing smaller front place with
  | zero => exact (items _ short _ _).bind fun _ _ _ _ => Orderly.pure
  | succ fuel ih =>
      refine (items _ short _ _).bind fun _ _ _ _ => ?_
      refine Orderly.ifEat nofun (fun _ less _ => ?_) Orderly.pure
      exact ((ih (Nat.lt_trans less short)).weaken (Nat.zero_le _)).bind
        fun _ _ _ _ => Orderly.pure

theorem arguments_orderly (sound : Disciplined bound self) (short : smaller < bound) :
    Orderly smaller 1 0 front place (arguments self) := by
  refine skipNewlines_orderly.bind fun _ _ _ _ => ?_
  refine Orderly.ifEat nofun (fun _ _ _ => Orderly.pure) ?_
  refine (Orderly.repeated fun fuel =>
    bracketedItems_orderly (sound.orderly .expression) short fuel).bind fun _ _ _ _ => ?_
  exact Orderly.expect nofun fun _ _ _ => Orderly.pure

theorem listElements_orderly (sound : Disciplined bound self) (short : smaller < bound) :
    Orderly smaller 1 0 front place (listElements self) := by
  refine skipNewlines_orderly.bind fun _ _ _ _ => ?_
  refine Orderly.ifEat nofun (fun _ _ _ => Orderly.pure) ?_
  refine (Orderly.repeated fun fuel =>
    bracketedItems_orderly (sound.orderly .expression) short fuel).bind fun _ _ _ _ => ?_
  exact Orderly.ifEat nofun (fun _ _ _ => Orderly.pure) Orderly.unexpected

theorem bracketed_orderly (sound : Disciplined bound self) (short : smaller ≤ bound)
    (found : place.current.kind = .opening .round) :
    Orderly smaller 1 0 front place (bracketed self) := by
  refine Orderly.advance (by rw [found]; exact TokenKind.noConfusion) fun _ less => ?_
  refine skipNewlines_orderly.bind fun _ _ next _ => ?_
  have inside := sound.orderly .expression _ (Nat.lt_of_lt_of_le less short)
  refine (inside _ next).bind fun _ _ _ _ => ?_
  refine skipNewlines_orderly.bind fun _ _ _ _ => ?_
  exact Orderly.expect nofun fun _ _ _ => Orderly.pure

theorem listLiteral_orderly (sound : Disciplined bound self) (short : smaller ≤ bound)
    (found : place.current.kind = .opening .square) :
    Orderly smaller 1 0 front place (listLiteral self) := by
  refine Orderly.advance (by rw [found]; exact TokenKind.noConfusion) fun _ less => ?_
  refine (listElements_orderly sound (Nat.lt_of_lt_of_le less short)).bind fun _ _ _ _ => ?_
  exact Orderly.nodeFrom

/-! ## Blocks -/

theorem Unfinished.of_derives (more : List TokenKind) {opener closer : Keyword}
    {kinds tokens : List TokenKind} {node : Node} (whole : Derives .atom tokens node)
    (same : tokens = .keyword opener :: (kinds ++ .keyword closer :: more)) :
    Unfinished opener closer kinds :=
  ⟨more, node, same ▸ whole⟩

theorem statementList_orderly (sound : Disciplined bound self) (short : smaller < bound)
    (stop : List Keyword) (fuel : Nat) :
    Orderly smaller 0 0 front place (statementList self stop fuel) := by
  induction fuel generalizing front place with
  | zero => exact Orderly.pure
  | succ fuel ih =>
      refine Orderly.isAtStop Orderly.pure ?_
      refine (sound.orderly .statement _ short _ _).bind fun _ _ _ _ => ?_
      refine Orderly.ifAt (fun _ => ?_) (fun _ => Orderly.pure)
      refine skipNewlines_orderly.bind fun _ _ _ _ => ?_
      exact ih.bind fun _ _ _ _ => Orderly.pure

theorem statements_orderly (sound : Disciplined bound self) (short : smaller < bound)
    (stop : List Keyword) : Orderly smaller 0 0 front place (statements self stop) := by
  refine Orderly.peek ?_
  refine skipNewlines_orderly.bind fun _ _ _ _ => ?_
  refine (Orderly.repeated fun fuel => statementList_orderly sound short stop fuel).bind
    fun _ _ _ _ => ?_
  exact Orderly.nodeFrom

/--
The tokens before a place end with an opening word and a header, and lines from this place
on would make up an unfinished block with them.
-/
def Opening (front : List Token) (opener closer : Keyword) (span : Span) : Prop :=
  ∃ before word header, front = before ++ word :: header ∧ word.kind = .keyword opener ∧
    word.span = span ∧ ∀ lines node, Derives .block (.newline :: lines) node →
      Unfinished opener closer (header.map Token.kind ++ .newline :: lines)

/-- The block that an opening and the lines after it make up is open at the place after them. -/
theorem Opening.standsOpen {opener closer : Keyword} {span : Span} {passed : List Token}
    {lines : List TokenKind} {node : Node} {after : Place}
    (opening : Opening front opener closer span)
    (derives : Derives .block (.newline :: lines) node)
    (same : passed.map Token.kind = .newline :: lines)
    (other : after.current.kind ≠ .keyword closer)
    (stuck : after.current.kind = .endOfFile ∨ isKeyword after.current.kind = true) :
    StandsOpen (front ++ passed ++ after.tokens) opener closer span := by
  rcases opening with ⟨before, word, header, rfl, begun, spanned, unfinished⟩
  refine ⟨before, word, header ++ passed, after.current, after.rest, ?_, begun, spanned, ?_, other,
    stuck⟩
  · simp only [Place.tokens, List.append_assoc, List.cons_append]
  · rw [List.map_append, same]
    exact unfinished lines node derives

theorem closedBlock_orderly (sound : Disciplined bound self) (short : smaller < bound)
    {opener closer : Keyword} {span : Span} (newline : place.current.kind = .newline)
    (opening : Opening front opener closer span) :
    Orderly smaller 1 0 front place (closedBlock self opener span closer) := by
  refine Orderly.enterBlock fun next same opened => ?_
  refine (statements_orderly sound short _).bindYields (statements_yields sound.follows _)
    fun passed node after block openers => ?_
  rcases block with ⟨derives, begins⟩
  rcases begins (same ▸ newline) with ⟨lines, kinds⟩
  rw [kinds] at derives
  refine Orderly.leaveBlock (openers.trans opened) (fun other stuck => ?_)
    (fun _ _ _ => Orderly.pure)
  exact opening.standsOpen derives kinds other stuck

theorem loopBody_orderly (sound : Disciplined bound self) (short : smaller < bound)
    {opener : Keyword} {span : Span} (opening : Opening front opener .endWord span) :
    Orderly smaller 1 0 front place (loopBody self opener span) := by
  refine Orderly.ifAt (fun newline => ?_) (fun _ => ?_)
  · exact (closedBlock_orderly sound short newline opening).bind fun _ _ _ _ => Orderly.pure
  · exact (sound.orderly .statement _ short _ _).bind fun _ _ _ _ => Orderly.pure

theorem furtherCases_orderly (sound : Disciplined bound self) (short : smaller < bound)
    {body lastBody : Reader Node}
    (bodies : ∀ smaller < bound, ∀ front place, Orderly smaller 0 0 front place body)
    (lastBodies : ∀ smaller < bound, ∀ front place, Orderly smaller 0 0 front place lastBody)
    (fuel : Nat) : Orderly smaller 0 0 front place (furtherCases self body lastBody fuel) := by
  induction fuel generalizing smaller front place with
  | zero => exact Orderly.pure
  | succ fuel ih =>
      refine Orderly.ifEat nofun (fun _ less _ => ?_) ?_
      · have short := Nat.lt_trans less short
        refine (sound.orderly .expression _ short _ _).bind fun _ _ _ _ => ?_
        refine Orderly.expect nofun fun _ less _ => ?_
        have short := Nat.lt_trans less short
        refine (bodies _ short _ _).bind fun _ _ _ _ => ?_
        exact (ih short).bind fun _ _ _ _ => Orderly.pure
      · refine Orderly.ifEat nofun (fun _ less _ => ?_) Orderly.pure
        exact (lastBodies _ (Nat.lt_trans less short) _ _).bind fun _ _ _ _ => Orderly.pure

theorem conditional_orderly (sound : Disciplined bound self) (short : smaller ≤ bound)
    (found : place.current.kind = .keyword .ifWord) :
    Orderly smaller 1 0 front place (conditional self) := by
  have lines : ∀ stop, ∀ smaller < bound, ∀ front place,
      Orderly smaller 0 0 front place (statements self stop) :=
    fun stop _ short _ _ => statements_orderly sound short stop
  have single : ∀ smaller < bound, ∀ front place,
      Orderly smaller 0 0 front place (self .statement) :=
    fun _ short front place => (sound.orderly .statement _ short front place).weaken (Nat.zero_le _)
  have arms : ∀ stop place, Yields place (statements self stop) (Derives (.arm true)) :=
    fun stop place => (statements_yields sound.follows stop).mono
      fun _ _ block => .armOwnLines block.1
  refine Orderly.advance (by rw [found]; exact TokenKind.noConfusion) fun _ less => ?_
  have short := Nat.lt_of_lt_of_le less short
  refine (sound.orderly .expression _ short _ _).bindYields (sound.follows.expression _)
    fun conditions condition next tested _ => ?_
  refine Orderly.expect nofun fun _ less thenFound => ?_
  have short := Nat.lt_trans less short
  refine Orderly.ifAt (fun newline => ?_) (fun _ => ?_)
  · refine Orderly.enterBlock fun inside same opened => ?_
    refine (lines _ _ short _ _).bindYields (statements_yields sound.follows _)
      fun body first after block openers => ?_
    rcases block with ⟨derives, begins⟩
    rcases begins (same ▸ newline) with ⟨kinds, kindsBody⟩
    rw [kindsBody] at derives
    refine (Orderly.repeated fun fuel =>
      furtherCases_orderly sound short (lines _) (lines _) fuel).bindYields
        (Yields.repeated (furtherCases_yields sound.follows (arms _) (arms _)))
        fun others cases last later openers' => ?_
    refine Orderly.leaveBlock (openers'.trans (openers.trans opened)) (fun other stuck => ?_)
      (fun _ _ _ => Orderly.nodeFrom)
    -- From the opening word to here only the closing word is missing.
    refine ⟨front, place.current, conditions ++ next.current :: (body ++ others), last.current,
      last.rest, ?_, found, rfl, ?_, other, stuck⟩
    · simp only [Place.tokens, List.append_assoc, List.cons_append, List.nil_append]
    · have whole : Derives .atom _ ⟨place.current.span,
          .conditional ((condition, first) :: cases.1) cases.2 true⟩ :=
        .conditional tested (.ownLines derives) later
      refine Unfinished.of_derives [] whole ?_
      simp [thenFound, kindsBody, closing]
  · refine (single _ short _ _).bind fun _ _ _ _ => ?_
    refine (Orderly.repeated fun fuel =>
      furtherCases_orderly sound short single single fuel).bind fun _ _ _ _ => ?_
    exact Orderly.nodeFrom

theorem stepClause_orderly (sound : Disciplined bound self) (short : smaller < bound) :
    Orderly smaller 0 0 front place (stepClause self) := by
  refine Orderly.ifEat nofun (fun _ less _ => ?_) Orderly.pure
  exact (sound.orderly .expression _ (Nat.lt_trans less short) _ _).bind
    fun _ _ _ _ => Orderly.pure

theorem forLoop_orderly (sound : Disciplined bound self) (short : smaller ≤ bound)
    (found : place.current.kind = .keyword .forWord) :
    Orderly smaller 1 0 front place (forLoop self) := by
  refine Orderly.advance (by rw [found]; exact TokenKind.noConfusion) fun _ less => ?_
  have short := Nat.lt_of_lt_of_le less short
  refine label_orderly.bindYields label_yields fun labels label next labelled _ => ?_
  refine Orderly.identifier fun name _ less named => ?_
  have short := Nat.lt_trans less short
  refine Orderly.ifEat nofun (fun _ less assigned => ?_) ?_
  · have short := Nat.lt_trans less short
    refine (sound.orderly .expression _ short _ _).bindYields (sound.follows.expression _)
      fun firsts first afterFirst starts _ => ?_
    refine Orderly.expect nofun fun _ less toFound => ?_
    have short := Nat.lt_trans less short
    refine (sound.orderly .expression _ short _ _).bindYields (sound.follows.expression _)
      fun lasts last afterLast stops _ => ?_
    refine (stepClause_orderly sound short).bindYields (stepClause_yields sound.follows)
      fun steps step afterStep advances _ => ?_
    refine Orderly.expect nofun fun _ less thenFound => ?_
    have short := Nat.lt_trans less short
    refine (loopBody_orderly sound short ?_).bind fun _ _ _ _ => Orderly.nodeFrom
    refine ⟨front, place.current, labels ++ next.current :: next.advance.current :: (firsts ++
      afterFirst.current :: (lasts ++ (steps ++ [afterStep.current]))), ?_, found, rfl, ?_⟩
    · simp only [List.append_assoc, List.cons_append, List.nil_append]
    · intro lines node derives
      have whole : Derives .atom _ ⟨place.current.span,
          .loop label (.counted name first last step) node true⟩ :=
        .countedLoop starts stops advances (.ownLines derives)
      refine Unfinished.of_derives [] whole ?_
      simp [labelled, named, assigned, toFound, thenFound, closing]
  · refine Orderly.ifEat nofun (fun _ less inFound => ?_) Orderly.unexpected
    have short := Nat.lt_trans less short
    refine (sound.orderly .expression _ short _ _).bindYields (sound.follows.expression _)
      fun visited items afterItems visits _ => ?_
    refine Orderly.expect nofun fun _ less thenFound => ?_
    have short := Nat.lt_trans less short
    refine (loopBody_orderly sound short ?_).bind fun _ _ _ _ => Orderly.nodeFrom
    refine ⟨front, place.current, labels ++ next.current :: next.advance.current :: (visited ++
      [afterItems.current]), ?_, found, rfl, ?_⟩
    · simp only [List.append_assoc, List.cons_append, List.nil_append]
    · intro lines node derives
      have whole : Derives .atom _ ⟨place.current.span,
          .loop label (.each name items) node true⟩ :=
        .eachLoop visits (.ownLines derives)
      refine Unfinished.of_derives [] whole ?_
      simp [labelled, named, inFound, thenFound, closing]

theorem whileLoop_orderly (sound : Disciplined bound self) (short : smaller ≤ bound)
    (found : place.current.kind = .keyword .whileWord) :
    Orderly smaller 1 0 front place (whileLoop self) := by
  refine Orderly.advance (by rw [found]; exact TokenKind.noConfusion) fun _ less => ?_
  have short := Nat.lt_of_lt_of_le less short
  refine label_orderly.bindYields label_yields fun labels label next labelled _ => ?_
  refine (sound.orderly .expression _ short _ _).bindYields (sound.follows.expression _)
    fun conditions condition after tested _ => ?_
  refine Orderly.expect nofun fun _ less thenFound => ?_
  have short := Nat.lt_trans less short
  refine (loopBody_orderly sound short ?_).bind fun _ _ _ _ => Orderly.nodeFrom
  refine ⟨front, place.current, labels ++ (conditions ++ [after.current]), ?_, found, rfl, ?_⟩
  · simp only [List.append_assoc, List.cons_append, List.nil_append]
  · intro lines node derives
    have whole : Derives .atom _ ⟨place.current.span,
        .loop label (.whileTrue condition) node true⟩ :=
      .whileLoop tested (.ownLines derives)
    refine Unfinished.of_derives [] whole ?_
    simp [labelled, thenFound, closing]

theorem endlessLoop_orderly (sound : Disciplined bound self) (short : smaller ≤ bound)
    (found : place.current.kind = .keyword .loopWord) :
    Orderly smaller 1 0 front place (endlessLoop self) := by
  refine Orderly.advance (by rw [found]; exact TokenKind.noConfusion) fun _ less => ?_
  have short := Nat.lt_of_lt_of_le less short
  refine label_orderly.bindYields label_yields fun labels label next labelled _ => ?_
  have thenWord : TokenKind.keyword .thenWord ≠ .endOfFile := nofun
  refine (eat_orderly thenWord).bindYields (eat_yields _ thenWord)
    fun filler _ _ optionalWord _ => ?_
  refine (loopBody_orderly sound short ?_).bind fun _ _ _ _ => Orderly.nodeFrom
  refine ⟨front, place.current, labels ++ filler, ?_, found, rfl, ?_⟩
  · simp only [List.append_assoc, List.cons_append, List.nil_append]
  · intro lines node derives
    have whole : Derives .atom _ ⟨place.current.span,
        .loop label .endless node true⟩ :=
      .endlessLoop optionalWord (.ownLines derives)
    refine Unfinished.of_derives [] whole ?_
    simp [labelled, closing]

theorem doBody_orderly (sound : Disciplined bound self) (short : smaller < bound) {span : Span}
    (opening : Opening front .doWord .thenWord span) :
    Orderly smaller 1 0 front place (doBody self span) := by
  refine Orderly.ifAt (fun newline => ?_) (fun _ => ?_)
  · exact (closedBlock_orderly sound short newline opening).bind fun _ _ _ _ => Orderly.pure
  · refine (sound.orderly .statement _ short _ _).bind fun _ _ _ _ => ?_
    exact Orderly.expect nofun fun _ _ _ => Orderly.pure

/-- A number alone is an expression. -/
theorem derives_number (value : Literal) (span : Span) :
    Derives .expression [literalToken value] ⟨span, .number value⟩ :=
  .expressionAlone (.fallbackAlone (.tierAlone (.comparisonOperand (.comparisonAlone
    (.tierAlone (.termOperand (.tierAlone (.factorOperand (.factorAlone (.powerAlone
      (.chainAlone (.callAlone .number))))))))))))

theorem doLoop_orderly (sound : Disciplined bound self) (short : smaller ≤ bound)
    (found : place.current.kind = .keyword .doWord) :
    Orderly smaller 1 0 front place (doLoop self) := by
  refine Orderly.advance (by rw [found]; exact TokenKind.noConfusion) fun _ less => ?_
  have short := Nat.lt_of_lt_of_le less short
  refine label_orderly.bindYields label_yields fun labels label next labelled _ => ?_
  refine (doBody_orderly sound short ?_).bind fun _ _ _ _ => ?_
  · refine ⟨front, place.current, labels, ?_, found, rfl, ?_⟩
    · simp only [List.append_assoc, List.cons_append, List.nil_append]
    · intro lines node derives
      have whole : Derives .atom _ ⟨place.current.span,
          .loop label (.doWhile ⟨place.current.span, .number (.int 1)⟩) node true⟩ :=
        .doLoop (.ownLines derives) (derives_number (.int 1) place.current.span)
      refine Unfinished.of_derives [.keyword .loopWord, .keyword .whileWord, .int 1] whole ?_
      simp [labelled, literalToken]
  · refine Orderly.expect nofun fun _ less _ => ?_
    have short := Nat.lt_trans less short
    refine Orderly.expect nofun fun _ less _ => ?_
    have short := Nat.lt_trans less short
    exact ((sound.orderly .expression _ short _ _).weaken (Nat.zero_le _)).bind
      fun _ _ _ _ => Orderly.nodeFrom

/-! ## Functions and classes -/

theorem parameter_orderly (sound : Disciplined bound self) (short : smaller < bound)
    (given : Parameters) : Orderly smaller 1 0 front place (parameter self given) := by
  refine Orderly.identifier fun name _ less _ => ?_
  have short := Nat.lt_trans less short
  by_cases known : given.contains name = true
  · simp only [known, if_true]
    exact Orderly.failAt nofun nofun nofun
  · simp only [known]
    refine Orderly.ifEat nofun (fun _ less _ => ?_) ?_
    · exact ((sound.orderly .expression _ (Nat.lt_trans less short) _ _).weaken
        (Nat.zero_le _)).bind fun _ _ _ _ => Orderly.pure
    · by_cases optional : (!given.optional.isEmpty) = true
      · rw [if_pos optional]
        exact Orderly.failAt nofun nofun nofun
      · rw [if_neg optional]
        exact Orderly.pure

theorem parameterList_orderly (sound : Disciplined bound self) (short : smaller < bound)
    (fuel : Nat) (given : Parameters) :
    Orderly smaller 1 0 front place (parameterList self fuel given) := by
  induction fuel generalizing smaller front place given with
  | zero => exact parameter_orderly sound short given
  | succ fuel ih =>
      refine (parameter_orderly sound short given).bind fun _ extended _ _ => ?_
      refine Orderly.ifEat nofun (fun _ less _ => ?_) Orderly.pure
      exact (ih (Nat.lt_trans less short) extended).weaken (Nat.zero_le _)

theorem parameters_orderly (sound : Disciplined bound self) (short : smaller < bound) :
    Orderly smaller 1 0 front place (parameters self) := by
  refine Orderly.expect nofun fun fewer less _ => ?_
  have short := Nat.lt_trans less short
  have read : ∀ front place, Orderly fewer 0 0 front place
      (isAt (.closing .round) >>= fun found => if found = true then pure ⟨[], []⟩
        else repeated fun fuel => parameterList self fuel ⟨[], []⟩) := by
    intro front place
    refine Orderly.ifAt (fun _ => Orderly.pure) (fun _ => ?_)
    exact Orderly.repeated fun fuel =>
      (parameterList_orderly sound short fuel _).weaken (Nat.zero_le _)
  refine (read _ _).bind fun _ _ _ _ => ?_
  exact Orderly.expect nofun fun _ _ _ => Orderly.pure

theorem function_orderly (sound : Disciplined bound self) (short : smaller ≤ bound)
    (found : place.current.kind = .keyword .defWord) :
    Orderly smaller 1 0 front place (function self) := by
  refine Orderly.advance (by rw [found]; exact TokenKind.noConfusion) fun _ less => ?_
  have short := Nat.lt_of_lt_of_le less short
  refine functionName_orderly.bindYields functionName_yields fun names name next named _ => ?_
  refine ((parameters_orderly sound short).weaken (Nat.zero_le _)).bindYields
    (parameters_yields sound.follows) fun passed given after all _ => ?_
  rcases all with ⟨distinct, tokens, kinds, taken⟩
  refine Orderly.ifEat nofun (fun _ less _ => ?_) ?_
  · exact ((sound.orderly .expression _ (Nat.lt_trans less short) _ _).weaken
      (Nat.zero_le _)).bind fun _ _ _ _ => Orderly.nodeFrom
  · refine Orderly.ifAt (fun newline => ?_) (fun _ => Orderly.unexpected)
    refine ((closedBlock_orderly sound short newline ?_).weaken (Nat.zero_le _)).bind
      fun _ _ _ _ => Orderly.nodeFrom
    refine ⟨front, place.current, names ++ passed, ?_, found, rfl, ?_⟩
    · simp only [List.append_assoc, List.cons_append, List.nil_append]
    · intro lines node derives
      have whole : Derives .atom _ ⟨place.current.span,
          .function name given.required given.optional node false⟩ :=
        .function taken distinct (.blockBody derives)
      refine Unfinished.of_derives [] whole ?_
      simp [named, kinds]

theorem parentClause_orderly (sound : Disciplined bound self) (short : smaller < bound) :
    Orderly smaller 0 0 front place (parentClause self) := by
  refine Orderly.ifEat nofun (fun _ less _ => ?_) Orderly.pure
  refine ((sound.orderly .chain _ (Nat.lt_trans less short) _ _).weaken (Nat.zero_le _)).bind
    fun _ _ _ _ => ?_
  exact Orderly.expect nofun fun _ _ _ => Orderly.pure

theorem classDefinition_orderly (sound : Disciplined bound self) (short : smaller ≤ bound)
    (found : place.current.kind = .keyword .classWord) :
    Orderly smaller 1 0 front place (classDefinition self) := by
  refine Orderly.advance (by rw [found]; exact TokenKind.noConfusion) fun _ less => ?_
  have short := Nat.lt_of_lt_of_le less short
  refine Orderly.identifier fun name _ less named => ?_
  have short := Nat.lt_trans less short
  refine (parentClause_orderly sound short).bindYields (parentClause_yields sound.follows)
    fun parents parent after inherits _ => ?_
  refine Orderly.ifEat nofun (fun _ less _ => ?_) ?_
  · exact ((sound.orderly .statement _ (Nat.lt_trans less short) _ _).weaken
      (Nat.zero_le _)).bind fun _ _ _ _ => Orderly.nodeFrom
  · refine Orderly.ifAt (fun newline => ?_) (fun _ => Orderly.unexpected)
    refine ((closedBlock_orderly sound short newline ?_).weaken (Nat.zero_le _)).bind
      fun _ _ _ _ => Orderly.nodeFrom
    refine ⟨front, place.current, place.advance.current :: parents, ?_, found, rfl, ?_⟩
    · simp only [List.append_assoc, List.cons_append, List.nil_append]
    · intro lines node derives
      have whole : Derives .atom _ ⟨place.current.span,
          .classDef name parent node⟩ :=
        .classDef inherits (.blockClass derives)
      refine Unfinished.of_derives [] whole ?_
      simp [named]

/-! ## Atoms and calls -/

theorem atom_orderly (sound : Disciplined bound self) (short : smaller ≤ bound) :
    Orderly smaller 1 0 front place (atom self) := by
  have inner : ∀ {kind}, place.current.kind = kind → kind ≠ .endOfFile →
      place.current.kind ≠ .endOfFile := fun found other => found ▸ other
  refine Orderly.peek ?_
  cases found : place.current.kind with
  | int value => exact Orderly.advance (inner found nofun) fun _ _ => number_orderly
  | float value => exact Orderly.advance (inner found nofun) fun _ _ => number_orderly
  | text value => exact Orderly.advance (inner found nofun) fun _ _ => Orderly.pure
  | identifier name => exact Orderly.advance (inner found nofun) fun _ _ => Orderly.pure
  | symbol mark =>
      cases mark with
      | dollar =>
          refine Orderly.advance (inner found nofun) fun _ _ => ?_
          exact Orderly.identifier fun _ _ _ _ => Orderly.nodeFrom
      | _ => exact Orderly.unexpected
  | opening bracket =>
      cases bracket with
      | round => exact bracketed_orderly sound short found
      | square => exact listLiteral_orderly sound short found
  | keyword word =>
      cases word with
      | defaultWord => exact Orderly.advance (inner found nofun) fun _ _ => Orderly.pure
      | ifWord => exact conditional_orderly sound short found
      | forWord => exact forLoop_orderly sound short found
      | whileWord => exact whileLoop_orderly sound short found
      | doWord => exact doLoop_orderly sound short found
      | loopWord => exact endlessLoop_orderly sound short found
      | defWord => exact function_orderly sound short found
      | classWord => exact classDefinition_orderly sound short found
      | _ => exact Orderly.unexpected
  | _ => exact Orderly.unexpected

theorem callSuffixes_orderly (sound : Disciplined bound self) (short : smaller ≤ bound) (fuel : Nat)
    (callee : Node) : Orderly smaller 0 0 front place (callSuffixes self fuel callee) := by
  induction fuel generalizing smaller front place callee with
  | zero => exact Orderly.pure
  | succ fuel ih =>
      refine Orderly.ifEat nofun (fun _ less _ => ?_) Orderly.pure
      have short := Nat.lt_of_lt_of_le less short
      refine ((arguments_orderly sound short).weaken (Nat.zero_le _)).bind fun _ _ _ _ => ?_
      exact Orderly.thenNode (ih (Nat.le_of_lt short) _)

theorem called_orderly (sound : Disciplined bound self) (short : smaller ≤ bound) (callee : Node) :
    Orderly smaller 0 0 front place (called self callee) :=
  Orderly.repeated fun fuel => callSuffixes_orderly sound short fuel callee

theorem calledName_orderly (sound : Disciplined bound self) (short : smaller ≤ bound)
    {expected : Expectation} : Orderly smaller 1 0 front place (calledName self expected) := by
  refine Orderly.identifier fun _ _ less _ => ?_
  exact called_orderly sound (Nat.le_trans (Nat.le_of_lt less) short) _

theorem attributeSteps_orderly (sound : Disciplined bound self) (short : smaller ≤ bound)
    (fuel : Nat) : Orderly smaller 0 0 front place (attributeSteps self fuel) := by
  induction fuel generalizing smaller front place with
  | zero => exact Orderly.pure
  | succ fuel ih =>
      refine Orderly.ifEat nofun (fun _ less _ => ?_) Orderly.pure
      have short := Nat.le_trans (Nat.le_of_lt less) short
      refine ((calledName_orderly sound short).weaken (Nat.zero_le _)).bind fun _ _ _ _ => ?_
      exact (ih short).bind fun _ _ _ _ => Orderly.pure

theorem chain_orderly (sound : Disciplined bound self) (short : smaller ≤ bound) :
    Orderly smaller 1 0 front place (chain self) := by
  refine (atom_orderly sound short).bind fun _ _ _ _ => ?_
  refine (called_orderly sound short _).bind fun _ _ _ _ => ?_
  refine (Orderly.repeated fun fuel => attributeSteps_orderly sound short fuel).bind
    fun _ _ _ _ => ?_
  exact Orderly.pure

/-! ## Operators -/

theorem power_orderly (sound : Disciplined bound self) (short : smaller ≤ bound) :
    Orderly smaller 1 0 front place (power self) := by
  refine (chain_orderly sound short).bind fun _ _ _ _ => ?_
  refine Orderly.ifEat nofun (fun _ less _ => ?_) Orderly.pure
  exact ((sound.orderly .factor _ (Nat.lt_of_lt_of_le less short) _ _).weaken (Nat.zero_le _)).bind
    fun _ _ _ _ => Orderly.pure

theorem factor_orderly (sound : Disciplined bound self) (short : smaller ≤ bound) :
    Orderly smaller 1 0 front place (factor self) := by
  refine Orderly.peek ?_
  cases found : prefixOp? place.current.kind with
  | none => exact power_orderly sound short
  | some op =>
      have inner : place.current.kind ≠ .endOfFile := by
        intro ended
        rw [ended] at found
        cases found
      refine Orderly.advance inner fun _ less => ?_
      exact ((sound.orderly .factor _ (Nat.lt_of_lt_of_le less short) _ _).weaken
        (Nat.zero_le _)).bind fun _ _ _ _ => Orderly.nodeFrom

/-- No operator is the end of the file. -/
theorem ne_endOfFile_of_operator {ω : Type} {op? : TokenKind → Option ω} {kind : TokenKind} {op : ω}
    (none : op? .endOfFile = none) (found : op? kind = some op) : kind ≠ .endOfFile := by
  rintro rfl
  rw [none] at found
  cases found

theorem leftGrouped_orderly {op? : TokenKind → Option BinaryOp} {operand : Reader Node}
    (none : op? .endOfFile = none)
    (operands : ∀ smaller ≤ bound, ∀ front place, Orderly smaller 1 0 front place operand)
    (short : smaller ≤ bound) (fuel : Nat) (left : Node) :
    Orderly smaller 0 0 front place (leftGrouped op? operand fuel left) := by
  induction fuel generalizing smaller front place left with
  | zero => exact Orderly.pure
  | succ fuel ih =>
      refine Orderly.peek ?_
      cases found : op? place.current.kind with
      | none => exact Orderly.pure
      | some op =>
          refine Orderly.advance (ne_endOfFile_of_operator none found) fun _ less => ?_
          have short := Nat.le_trans (Nat.le_of_lt less) short
          refine ((operands _ short _ _).weaken (Nat.zero_le _)).bind fun _ _ _ _ => ?_
          exact ih short _

theorem binaryLevel_orderly {op? : TokenKind → Option BinaryOp} {operand : Reader Node}
    (none : op? .endOfFile = none)
    (operands : ∀ smaller ≤ bound, ∀ front place, Orderly smaller 1 0 front place operand)
    (short : smaller ≤ bound) : Orderly smaller 1 0 front place (binaryLevel op? operand) := by
  refine (operands _ short _ _).bind fun _ first _ _ => ?_
  exact Orderly.repeated fun fuel => leftGrouped_orderly none operands short fuel first

theorem term_orderly (sound : Disciplined bound self) (short : smaller ≤ bound) :
    Orderly smaller 1 0 front place (term self) :=
  binaryLevel_orderly rfl (fun _ short _ _ => factor_orderly sound short) short

theorem sum_orderly (sound : Disciplined bound self) (short : smaller ≤ bound) :
    Orderly smaller 1 0 front place (sum self) :=
  binaryLevel_orderly rfl (fun _ short _ _ => term_orderly sound short) short

theorem comparisonLinks_orderly (sound : Disciplined bound self) (short : smaller ≤ bound)
    (fuel : Nat) : Orderly smaller 0 0 front place (comparisonLinks (sum self) fuel) := by
  induction fuel generalizing smaller front place with
  | zero => exact Orderly.pure
  | succ fuel ih =>
      refine Orderly.peek ?_
      cases found : compareOp? place.current.kind with
      | none => exact Orderly.pure
      | some op =>
          refine Orderly.advance (ne_endOfFile_of_operator rfl found) fun _ less => ?_
          have short := Nat.le_trans (Nat.le_of_lt less) short
          refine ((sum_orderly sound short).weaken (Nat.zero_le _)).bind fun _ _ _ _ => ?_
          exact (ih short).bind fun _ _ _ _ => Orderly.pure

theorem comparison_orderly (sound : Disciplined bound self) (short : smaller ≤ bound) :
    Orderly smaller 1 0 front place (comparison self) := by
  refine Orderly.peek ?_
  by_cases negated : place.current.kind = .keyword .notWord
  · rw [if_pos negated]
    refine Orderly.advance (by rw [negated]; exact TokenKind.noConfusion) fun _ less => ?_
    exact ((sound.orderly .comparison _ (Nat.lt_of_lt_of_le less short) _ _).weaken
      (Nat.zero_le _)).bind fun _ _ _ _ => Orderly.nodeFrom
  · rw [if_neg negated]
    refine (sum_orderly sound short).bind fun _ _ _ _ => ?_
    refine (Orderly.repeated fun fuel => comparisonLinks_orderly sound short fuel).bind
      fun _ links _ _ => ?_
    cases links.getLast? with
    | none => exact Orderly.pure
    | some last => exact Orderly.pure

theorem logic_orderly (sound : Disciplined bound self) (short : smaller ≤ bound) :
    Orderly smaller 1 0 front place (logic self) :=
  binaryLevel_orderly rfl (fun _ short _ _ => comparison_orderly sound short) short

theorem fallbackOperands_orderly (sound : Disciplined bound self) (short : smaller ≤ bound)
    (fuel : Nat) : Orderly smaller 0 0 front place (fallbackOperands (logic self) fuel) := by
  induction fuel generalizing smaller front place with
  | zero => exact Orderly.pure
  | succ fuel ih =>
      refine Orderly.ifEat nofun (fun _ less _ => ?_) Orderly.pure
      have short := Nat.le_trans (Nat.le_of_lt less) short
      refine ((logic_orderly sound short).weaken (Nat.zero_le _)).bind fun _ _ _ _ => ?_
      exact (ih short).bind fun _ _ _ _ => Orderly.pure

theorem fallback_orderly (sound : Disciplined bound self) (short : smaller ≤ bound) :
    Orderly smaller 1 0 front place (fallback self) := by
  refine (logic_orderly sound short).bind fun _ _ _ _ => ?_
  refine (Orderly.repeated fun fuel => fallbackOperands_orderly sound short fuel).bind
    fun _ others _ _ => ?_
  cases others.getLast? with
  | none => exact Orderly.pure
  | some last => exact Orderly.pure

/-! ## Statements -/

theorem target_orderly (sound : Disciplined bound self) (short : smaller ≤ bound) :
    Orderly smaller 1 0 front place (target self) := by
  refine Orderly.peek ?_
  refine (calledName_orderly sound short).bind fun _ first _ _ => ?_
  refine (Orderly.repeated fun fuel => attributeSteps_orderly sound short fuel).bind
    fun _ others _ _ => ?_
  refine Orderly.spanFrom ?_
  simp only
  split
  · exact Orderly.pure
  · exact Orderly.failAt nofun nofun nofun

theorem assignment_orderly (sound : Disciplined bound self) (short : smaller ≤ bound)
    (found : place.current.kind = .keyword .varWord) :
    Orderly smaller 1 0 front place (assignment self) := by
  refine Orderly.advance (by rw [found]; exact TokenKind.noConfusion) fun _ less => ?_
  have short := Nat.lt_of_lt_of_le less short
  have targets := fun (smaller : Nat) (less : smaller < bound) front place =>
    @target_orderly _ smaller front place _ sound (Nat.le_of_lt less)
  refine ((Orderly.repeated fun fuel => commaSeparated_orderly targets short fuel).weaken
    (Nat.zero_le _)).bind fun _ _ next _ => ?_
  refine Orderly.peek ?_
  cases found : assignOp? next.current.kind with
  | none => exact Orderly.unexpected
  | some op =>
      refine Orderly.advance (ne_endOfFile_of_operator rfl found) fun _ less => ?_
      have short := Nat.lt_trans less short
      refine ((Orderly.repeated fun fuel =>
        commaSeparated_orderly (sound.orderly .expression) short fuel).weaken (Nat.zero_le _)).bind
          fun _ _ _ _ => ?_
      exact Orderly.nodeFrom

theorem deletion_orderly (found : place.current.kind = .keyword .delWord) :
    Orderly smaller 1 0 front place deletion := by
  refine Orderly.advance (by rw [found]; exact TokenKind.noConfusion) fun _ _ => ?_
  exact Orderly.identifier fun _ _ _ _ => Orderly.nodeFrom

/-- An expression that may be left out. -/
theorem optionalOperand_orderly (sound : Disciplined bound self) (short : smaller < bound) :
    Orderly smaller 0 0 front place (attempt (self .expression)) :=
  attempt_orderly (sound.orderly .expression _ short _ _)

theorem writeStatement_orderly (sound : Disciplined bound self) (short : smaller ≤ bound)
    (found : place.current.kind = .keyword .writeWord) :
    Orderly smaller 1 0 front place (writeStatement self) := by
  refine Orderly.advance (by rw [found]; exact TokenKind.noConfusion) fun _ less => ?_
  have short := Nat.lt_of_lt_of_le less short
  refine (sound.orderly .expression _ short _ _).bind fun _ _ _ _ => ?_
  refine redirection_orderly.bind fun _ _ _ _ => ?_
  refine (sound.orderly .expression _ short _ _).bind fun _ _ _ _ => ?_
  exact (optionalOperand_orderly sound short).bind fun _ _ _ _ => Orderly.nodeFrom

theorem readStatement_orderly (sound : Disciplined bound self) (short : smaller ≤ bound)
    (found : place.current.kind = .keyword .readWord) :
    Orderly smaller 1 0 front place (readStatement self) := by
  refine Orderly.advance (by rw [found]; exact TokenKind.noConfusion) fun _ less => ?_
  have short := Nat.lt_of_lt_of_le less short
  refine (sound.orderly .expression _ short _ _).bind fun _ _ _ _ => ?_
  refine readInto_orderly.bind fun _ _ _ _ => ?_
  exact (optionalOperand_orderly sound short).bind fun _ _ _ _ => Orderly.nodeFrom

theorem assertionMessage_orderly (sound : Disciplined bound self) (short : smaller < bound) :
    Orderly smaller 0 0 front place (assertionMessage self) := by
  refine Orderly.ifEat nofun (fun _ less _ => ?_) Orderly.pure
  exact (sound.orderly .expression _ (Nat.lt_trans less short) _ _).bind
    fun _ _ _ _ => Orderly.pure

theorem assertionStatement_orderly (sound : Disciplined bound self) (short : smaller ≤ bound)
    (found : place.current.kind = .keyword .assertWord) :
    Orderly smaller 1 0 front place (assertionStatement self) := by
  refine Orderly.advance (by rw [found]; exact TokenKind.noConfusion) fun _ less => ?_
  have short := Nat.lt_of_lt_of_le less short
  refine (sound.orderly .expression _ short _ _).bind fun _ _ _ _ => ?_
  exact (assertionMessage_orderly sound short).bind fun _ _ _ _ => Orderly.nodeFrom

theorem expression_orderly (sound : Disciplined bound self) (short : smaller ≤ bound) :
    Orderly smaller 1 0 front place (expression self) := by
  refine Orderly.peek ?_
  split
  · rename_i found
    exact assignment_orderly sound short found
  · rename_i found
    exact deletion_orderly found
  · rename_i found
    exact writeStatement_orderly sound short found
  · rename_i found
    exact readStatement_orderly sound short found
  · rename_i found
    exact assertionStatement_orderly sound short found
  · exact fallback_orderly sound short

theorem returnStatement_orderly (sound : Disciplined bound self) (short : smaller ≤ bound)
    (found : place.current.kind = .keyword .returnWord) :
    Orderly smaller 1 0 front place (returnStatement self) := by
  refine Orderly.advance (by rw [found]; exact TokenKind.noConfusion) fun _ less => ?_
  exact (optionalOperand_orderly sound (Nat.lt_of_lt_of_le less short)).bind
    fun _ _ _ _ => Orderly.nodeFrom

theorem breakStatement_orderly (found : place.current.kind = .keyword .breakWord) :
    Orderly smaller 1 0 front place breakStatement := by
  refine Orderly.advance (by rw [found]; exact TokenKind.noConfusion) fun _ _ => ?_
  exact label_orderly.bind fun _ _ _ _ => Orderly.nodeFrom

theorem continueStatement_orderly (found : place.current.kind = .keyword .continueWord) :
    Orderly smaller 1 0 front place continueStatement := by
  refine Orderly.advance (by rw [found]; exact TokenKind.noConfusion) fun _ _ => ?_
  exact label_orderly.bind fun _ _ _ _ => Orderly.nodeFrom

theorem importStatement_orderly (found : place.current.kind = .keyword .importWord) :
    Orderly smaller 1 0 front place importStatement := by
  refine Orderly.advance (by rw [found]; exact TokenKind.noConfusion) fun _ _ => ?_
  refine Orderly.identifier fun _ _ _ _ => ?_
  exact nameAfterAs_orderly.bind fun _ _ _ _ => Orderly.nodeFrom

theorem exportStatement_orderly (sound : Disciplined bound self) (short : smaller ≤ bound)
    (found : place.current.kind = .keyword .exportWord) :
    Orderly smaller 1 0 front place (exportStatement self) := by
  refine Orderly.advance (by rw [found]; exact TokenKind.noConfusion) fun _ less => ?_
  refine (sound.orderly .expression _ (Nat.lt_of_lt_of_le less short) _ _).bind
    fun _ value _ _ => ?_
  refine nameAfterAs_orderly.bind fun _ given _ _ => ?_
  cases given.orElse fun _ => impliedName? value with
  | some name => exact Orderly.nodeFrom
  | none => exact Orderly.unexpected

theorem statement_orderly (sound : Disciplined bound self) (short : smaller ≤ bound) :
    Orderly smaller 1 0 front place (statement self) := by
  refine Orderly.peek ?_
  split
  · rename_i found
    exact returnStatement_orderly sound short found
  · rename_i found
    exact breakStatement_orderly found
  · rename_i found
    exact continueStatement_orderly found
  · rename_i found
    exact importStatement_orderly found
  · rename_i found
    exact exportStatement_orderly sound short found
  · exact expression_orderly sound short

/-- One level of the grammar keeps order if the levels inside it do. -/
theorem level_orderly (sound : Disciplined bound self) (short : smaller ≤ bound) (entry : Entry) :
    Orderly smaller 1 0 front place (level self entry) := by
  cases entry with
  | statement => exact statement_orderly sound short
  | expression => exact expression_orderly sound short
  | comparison => exact comparison_orderly sound short
  | factor => exact factor_orderly sound short
  | chain => exact chain_orderly sound short

/-! ## The whole grammar -/

theorem disciplined_descend (depth : Nat) :
    ∀ bound ≤ depth, Disciplined bound (descend depth) := by
  induction depth with
  | zero =>
      intro bound shallow
      refine ⟨fun entry smaller less => ?_, follows_descend 0⟩
      exact absurd (Nat.lt_of_lt_of_le less shallow) (Nat.not_lt_zero _)
  | succ depth ih =>
      intro bound deep
      refine ⟨fun entry smaller less front place => ?_, follows_descend (depth + 1)⟩
      have inside := ih smaller (Nat.lt_succ_iff.mp (Nat.lt_of_lt_of_le less deep))
      exact level_orderly inside (Nat.le_refl _) entry

/-- The grammar with as much depth as there are tokens left. -/
def grammar : Descent :=
  fun entry place => descend (place.rest.length + 1) entry place

theorem grammar_eq (entry : Entry) (place : Place) :
    grammar entry place = descend (place.rest.length + 1) entry place :=
  rfl

theorem Yields.congr {reader other : Reader α} {condition : List TokenKind → α → Prop}
    (yields : Yields place other condition) (same : reader place = other place) :
    Yields place reader condition := by
  intro ends value next read
  exact yields ends value next (same ▸ read)

theorem follows_grammar : Follows grammar where
  statement place := ((follows_descend _).statement place).congr (grammar_eq .statement place)
  expression place := ((follows_descend _).expression place).congr (grammar_eq .expression place)
  comparison place := ((follows_descend _).comparison place).congr (grammar_eq .comparison place)
  factor place := ((follows_descend _).factor place).congr (grammar_eq .factor place)
  chain place := ((follows_descend _).chain place).congr (grammar_eq .chain place)

theorem disciplined_grammar (bound : Nat) : Disciplined bound grammar := by
  refine ⟨fun entry smaller _ front place closed _ => ?_, follows_grammar⟩
  have sound := disciplined_descend (place.rest.length + 1) _ (Nat.le_refl _)
  rw [grammar_eq]
  exact sound.orderly entry _ (Nat.lt_succ_self _) front place closed (Nat.le_refl _)

/-- What cannot be read has closed no block, and it overflows only where that is checked. -/
theorem grammar_failed {entry : Entry} {failure : Failure} (closed : Closed place.tokens)
    (failed : grammar entry place = .error failure) :
    place.rewind failure.openers = place ∧ (failure.cause = .overflow → place.checked = true) := by
  have sound := disciplined_grammar (place.rest.length + 1)
  have ends := sound.orderly entry _ (Nat.lt_succ_self _) [] place closed (Nat.le_refl _)
  rw [failed] at ends
  cases ends with
  | error blamed kept =>
      exact ⟨Place.rewind_of_suffix kept, fun overflow => (blamed.overflows overflow).1⟩

theorem attempt_grammar {entry : Entry} {failure : Failure} (closed : Closed place.tokens)
    (unchecked : place.checked = false) (failed : grammar entry place = .error failure) :
    attempt (grammar entry) place = .ok (none, place) := by
  rcases grammar_failed closed failed with ⟨restored, checks⟩
  have bounded : failure.cause ≠ .overflow := by
    intro overflow
    cases unchecked.symm.trans (checks overflow)
  simp only [attempt, failed, if_neg bounded, restored]

end Grammar
end Scripting
