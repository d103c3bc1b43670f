import Scripting.Proofs.CutExpressions

namespace Scripting
namespace Grammar

/-!
Unclosed blocks are reported at the word that opens them.

A program that is cut off behind a newline between the statements of a block leaves this
block open, and every block and every bracket around it as well.  What is reported is the
innermost one, which is the block.  The exception is a block in an operand that may be left
out: there the report is taken for a sign that the operand is missing.
-/

open Lexical (Bracket Keyword Switches Symbol Token TokenKind tokenize)
open Source (Position Span)
open Program

variable {α : Type} {cut : Cut} {fault : ParseError} {bound smaller : Nat} {place next : Place}
  {lost : Prop} {stops : Place → Prop}

/-! ## Readers that read no nodes -/

theorem readInto_cuts (stays : lost → Stuck place) :
    Cuts cut fault bound place lost none readInto (fun _ _ => True) Stuck :=
  .ifEat nofun nofun (fun gone => (stays gone).ne rfl) (fun _ _ below _ => .shrink below
    (.identifier fun _ _ _ => .pure trivial False.elim)) (.pure trivial stays)

theorem nameAfterAs_cuts {expected : Expectation} (stays : lost → Stuck place) :
    Cuts cut fault bound place lost none (nameAfterAs expected) (fun _ _ => True) Stuck :=
  .ifEat nofun nofun (fun gone => (stays gone).ne rfl) (fun _ _ below _ => .shrink below
    (.identifier fun _ _ _ => .pure trivial False.elim)) (.pure trivial stays)

theorem redirection_cuts (stays : lost → Stuck place) :
    Cuts cut fault bound place lost none redirection (fun _ _ => True) fun _ => False := by
  refine .peek ?_
  split
  · rename_i kind
    refine .unlost (fun gone => (stays gone).ne rfl kind) ?_
    exact .advance kind nofun nofun fun _ _ _ _ => .pure trivial id
  · rename_i kind
    refine .unlost (fun gone => (stays gone).ne rfl kind) ?_
    exact .advance kind nofun nofun fun _ _ _ _ => .pure trivial id
  · exact .unexpected

/-! ## Assignments -/

theorem commaSeparated_cuts {item : Reader α} {nodes : α → List Node}
    (items : ∀ place, Cuts cut fault bound place False none item
      (fun value _ => AllRight cut fault (nodes value)) stops)
    (last : ∀ place, stops place → place.current.kind ≠ .symbol .comma) (fuel : Nat) :
    Cuts cut fault bound place False none (commaSeparated item fuel)
      (fun values _ => ∀ value ∈ values, AllRight cut fault (nodes value)) stops := by
  have single {value : α} (right : AllRight cut fault (nodes value)) :
      ∀ other ∈ [value], AllRight cut fault (nodes other) :=
    List.forall_mem_singleton.mpr right
  induction fuel generalizing place with
  | zero => exact .bind (items place) fun first next _ => .pure single id
  | succ fuel ih =>
      refine .bind (items place) fun first next _ => ?_
      refine .ifEat nofun nofun (last next) (fun comma _ below _ => .shrink below ?_)
        (.pure single id)
      refine .bind ih fun others ended _ => .pure (fun later first => ?_) id
      exact List.forall_mem_cons.mpr ⟨first, later⟩

theorem AllRight.chain {base : Node} {steps : List Node}
    (right : AllRight cut fault (base :: steps)) : Right cut fault (attributeChain base steps) := by
  unfold attributeChain
  split
  · exact .plain right fun _ _ _ => nofun
  · exact right _ List.mem_cons_self

theorem AllRight.owner {first : Node} {others : List Node}
    (right : AllRight cut fault (first :: others)) :
    AllRight cut fault (ownerOf first others).toList := by
  cases others with
  | nil => exact .nil
  | cons step steps =>
      refine .single (AllRight.chain fun node member => right node ?_)
      exact (List.Sublist.cons_cons _ (List.dropLast_sublist _)).mem member

theorem target_cuts (trimmed : Trimmed cut fault bound) :
    Cuts cut fault bound place False none (target grammar)
      (fun target _ => AllRight cut fault target.object.toList) fun _ => False := by
  refine .peek (.bind (calledName_cuts trimmed _) fun first next _ => ?_)
  refine .bind (.repeated .steps fun fuel _ => attributeSteps_cuts trimmed fuel)
    fun others last _ => .spanFrom ?_
  dsimp only
  split
  · exact .pure (fun later first => AllRight.owner (first.right.append later.right)) id
  · exact .failAt

theorem assignment_cuts (trimmed : Trimmed cut fault bound)
    (found : place.current.kind = .keyword .varWord) :
    Cuts cut fault bound place False none (assignment grammar)
      (fun node next => Reported cut fault place [node] next) Stuck := by
  refine .opened (.advance found nofun nofun fun start smaller less _ => ?_)
  refine .bind (.repeated .targets fun fuel _ => commaSeparated_cuts
    (fun _ => target_cuts (trimmed.mono (Nat.le_of_lt less))) (fun _ => False.elim) fuel)
    fun targets named _ => .peek ?_
  split
  · rename_i op sign
    refine .advance rfl (ne_of_operator rfl sign) (ne_of_operator rfl sign)
      fun assigned fewer below _ => .shrink below ?_
    have values (place : Place) : Cuts cut fault smaller place False none (grammar .expression)
        (fun node _ => AllRight cut fault [node]) Stuck :=
      (trimmed .expression place _ less).mono (fun _ _ _ _ => Reported.right) fun _ => id
    refine .bind (.repeated .values fun fuel _ => commaSeparated_cuts values
      (fun _ stuck => stuck.ne rfl) fuel) fun values last _ => .nodeFrom ?_ id
    intro second first
    refine ⟨.plain (.append (fun owner member => ?_) fun value member => ?_) fun _ _ _ => nofun, rfl⟩
    · rcases List.mem_flatMap.mp member with ⟨target, within, owns⟩
      exact first target within owner owns
    · exact second value member value List.mem_cons_self
  · exact .unexpected

/-! ## Statements -/

theorem deletion_cuts (found : place.current.kind = .keyword .delWord) :
    Cuts cut fault bound place False none deletion
      (fun node next => Reported cut fault place [node] next) Stuck :=
  .opened (.advance found nofun nofun fun _ _ _ _ => .identifier fun _ _ _ =>
    .nodeFrom ⟨.plain .nil fun _ _ _ => nofun, rfl⟩ False.elim)

theorem writeStatement_cuts (trimmed : Trimmed cut fault bound)
    (found : place.current.kind = .keyword .writeWord) :
    Cuts cut fault bound place False none (writeStatement grammar)
      (fun node next => Reported cut fault place [node] next) Stuck := by
  refine .opened (.advance found nofun nofun fun start smaller less _ => ?_)
  refine .bind (trimmed .expression start _ less) fun text written _ => ?_
  refine .bind (redirection_cuts id) fun overwrite directed _ => ?_
  refine .bind (trimmed .expression directed _ less) fun target read _ => ?_
  refine .bind (attempt_cuts trimmed less id) fun line last _ => .nodeFrom ?_ id
  intro _ second _ first
  exact ⟨.plain (first.right.append second.right) fun _ _ _ => nofun, rfl⟩

theorem readStatement_cuts (trimmed : Trimmed cut fault bound)
    (found : place.current.kind = .keyword .readWord) :
    Cuts cut fault bound place False none (readStatement grammar)
      (fun node next => Reported cut fault place [node] next) Stuck := by
  refine .opened (.advance found nofun nofun fun start smaller less _ => ?_)
  refine .bind (trimmed .expression start _ less) fun target read _ => ?_
  refine .bind (readInto_cuts id) fun name named _ => ?_
  refine .bind (attempt_cuts trimmed less id) fun line last _ => .nodeFrom ?_ id
  intro _ _ first
  exact ⟨.plain first.right fun _ _ _ => nofun, rfl⟩

theorem assertionMessage_cuts (trimmed : Trimmed cut fault bound) (less : smaller < bound)
    (stays : lost → Stuck place) :
    Cuts cut fault smaller place lost none (assertionMessage grammar)
      (fun message _ => AllRight cut fault message.toList) Stuck := by
  refine .ifEat nofun nofun (fun gone => (stays gone).ne rfl)
    (fun next _ below _ => .shrink below ?_) (.pure .nil stays)
  exact .bind (trimmed .expression next _ less) fun message last _ => .pure Reported.right id

theorem assertionStatement_cuts (trimmed : Trimmed cut fault bound)
    (found : place.current.kind = .keyword .assertWord) :
    Cuts cut fault bound place False none (assertionStatement grammar)
      (fun node next => Reported cut fault place [node] next) Stuck := by
  refine .opened (.advance found nofun nofun fun start smaller less _ => ?_)
  refine .bind (trimmed .expression start _ less) fun condition read _ => ?_
  refine .bind (assertionMessage_cuts trimmed less id) fun message last _ => .nodeFrom ?_ id
  intro second first
  exact ⟨.plain (first.right.append second) fun _ _ _ => nofun, rfl⟩

theorem expression_cuts (trimmed : Trimmed cut fault bound) :
    Cuts cut fault bound place False none (expression grammar)
      (fun node next => Reported cut fault place [node] next) Stuck := by
  refine .peek ?_
  split
  · exact assignment_cuts trimmed ‹_›
  · exact deletion_cuts ‹_›
  · exact writeStatement_cuts trimmed ‹_›
  · exact readStatement_cuts trimmed ‹_›
  · exact assertionStatement_cuts trimmed ‹_›
  · exact fallback_cuts trimmed

/-- A value that may be left out is not looked into. -/
theorem returnStatement_cuts (trimmed : Trimmed cut fault bound)
    (found : place.current.kind = .keyword .returnWord) :
    Cuts cut fault bound place False none (returnStatement grammar)
      (fun node next => Reported cut fault place [node] next) Stuck := by
  refine .opened (.advance found nofun nofun fun start smaller less _ => ?_)
  refine .bind (attempt_cuts trimmed less False.elim) fun value last _ => .nodeFrom (fun _ => ?_) id
  exact ⟨.plain .nil fun _ _ _ => nofun, rfl⟩

theorem breakStatement_cuts (found : place.current.kind = .keyword .breakWord) :
    Cuts cut fault bound place False none breakStatement
      (fun node next => Reported cut fault place [node] next) Stuck :=
  .opened (.advance found nofun nofun fun _ _ _ _ => .bind label_cuts fun _ _ _ =>
    .nodeFrom (fun _ => ⟨.plain .nil fun _ _ _ => nofun, rfl⟩) False.elim)

theorem continueStatement_cuts (found : place.current.kind = .keyword .continueWord) :
    Cuts cut fault bound place False none continueStatement
      (fun node next => Reported cut fault place [node] next) Stuck :=
  .opened (.advance found nofun nofun fun _ _ _ _ => .bind label_cuts fun _ _ _ =>
    .nodeFrom (fun _ => ⟨.plain .nil fun _ _ _ => nofun, rfl⟩) False.elim)

theorem importStatement_cuts (found : place.current.kind = .keyword .importWord) :
    Cuts cut fault bound place False none importStatement
      (fun node next => Reported cut fault place [node] next) Stuck := by
  refine .opened (.advance found nofun nofun fun start _ _ _ => .identifier fun name named _ => ?_)
  refine .bind (nameAfterAs_cuts False.elim) fun rename last _ => .nodeFrom (fun _ => ?_) id
  exact ⟨.plain .nil fun _ _ _ => nofun, rfl⟩

theorem exportStatement_cuts (trimmed : Trimmed cut fault bound)
    (found : place.current.kind = .keyword .exportWord) :
    Cuts cut fault bound place False none (exportStatement grammar)
      (fun node next => Reported cut fault place [node] next) Stuck := by
  refine .opened (.advance found nofun nofun fun start smaller less _ => ?_)
  refine .bind (trimmed .expression start _ less) fun value read _ => ?_
  refine .bind (nameAfterAs_cuts id) fun given last _ => ?_
  split
  · refine .nodeFrom (fun _ value => ?_) id
    exact ⟨.plain value.right fun _ _ _ => nofun, rfl⟩
  · exact .unexpected

theorem statement_cuts (trimmed : Trimmed cut fault bound) :
    Cuts cut fault bound place False none (statement grammar)
      (fun node next => Reported cut fault place [node] next) Stuck := by
  refine .peek ?_
  split
  · exact returnStatement_cuts trimmed ‹_›
  · exact breakStatement_cuts ‹_›
  · exact continueStatement_cuts ‹_›
  · exact importStatement_cuts ‹_›
  · exact exportStatement_cuts trimmed ‹_›
  · exact expression_cuts trimmed

/-! ## The whole grammar -/

theorem level_cuts (trimmed : Trimmed cut fault bound) (entry : Entry) :
    Cuts cut fault bound place False none (level grammar entry)
      (fun node next => Reported cut fault place [node] next) entry.Leaves := by
  cases entry with
  | statement => exact statement_cuts trimmed
  | expression => exact expression_cuts trimmed
  | comparison => exact comparison_cuts trimmed
  | factor => exact factor_cuts trimmed
  | chain => exact chain_cuts trimmed

/-- How many tokens are left makes no difference. -/
theorem trimmed_grammar (bound : Nat) : Trimmed cut fault bound := by
  induction bound with
  | zero => exact fun _ _ _ less => absurd less (Nat.not_lt_zero _)
  | succ bound ih =>
      intro entry place smaller less
      have trimmed := ih.mono (Nat.lt_succ_iff.mp less)
      refine .known fun laid => .tight fun within => ?_
      refine .onward (.refl place) (cut.unfolds laid entry)
        (fun before => ⟨before, before.unfolds laid entry⟩) (Nat.le_refl _) id ?_
      exact level_cuts (trimmed.mono within) entry

theorem program_cuts : Cuts cut fault bound place False none (program grammar)
    (fun tree _ => Right cut fault tree) fun _ => False := by
  refine .bind (statements_cuts (trimmed_grammar (bound + 1)) (Nat.lt_succ_self _))
    fun body last _ => ?_
  refine .ifAt (fun ended => ?_) fun _ => .unexpected
  exact .unlost (fun stuck => stuck.ne rfl ended) (.pure And.left id)

/-! ## Programs that are cut off -/

/-- A newline that a statement is right in front of and a word right behind is not next to a bracket. -/
theorem not_bracketed (front after : List Token) {last first : Token}
    (ends : last.kind ≠ .newline ∧ last.kind ≠ .opening .round)
    (starts : first.kind ≠ .newline ∧ first.kind ≠ .closing .round) :
    ¬ Bracketed (front ++ [last]) (first :: after) := by
  rintro (⟨begun, opener, gap, split, opens, newlines⟩ | ⟨gap, closer, back, split, closes, newlines⟩)
  · rcases List.eq_nil_or_concat gap with rfl | ⟨others, newest, rfl⟩
    · rw [List.singleton_inj.mp (List.append_inj' split rfl).2] at ends
      exact ends.2 opens
    · rw [List.concat_eq_append, ← List.cons_append, ← List.append_assoc] at split
      rw [List.singleton_inj.mp (List.append_inj' split rfl).2] at ends
      exact ends.1 (newlines newest (by simp))
  · cases gap with
    | nil => exact starts.2 ((List.cons.inj split).1 ▸ closes)
    | cons newest gap =>
        exact starts.1 ((List.cons.inj split).1 ▸ newlines newest List.mem_cons_self)

/-- Whatever the shorter list of tokens ends with, it reports the blocks of the tree. -/
theorem Cut.right_of_error (cut : Cut) {tree : Node} {error : ParseError}
    (parsed : parse cut.layout.tokens = .ok tree)
    (failed : ∀ given, parse (cut.before ++ [cut.hole]) = .error given → given = error) :
    Right cut error tree := by
  rw [parse_eq_grammar, Cut.ofTokens_cut] at failed
  rw [parse_eq_grammar] at parsed
  rcases outcome_ok.mp parsed with ⟨last, read⟩
  let place := Place.ofTokens cut.layout.tokens
  have cuts := @program_cuts cut error place.rest.length place
  have kept := cuts (laid_ofTokens cut.layout) (Nat.le_refl _) tree last read
  refine (kept.ends.resolve_left id).1 fun _ => ?_
  cases ended : program grammar (cut.shorten (Place.ofTokens cut.layout.tokens)) with
  | error failure =>
      unfold Reader.outcome at failed
      rw [ended] at failed
      exact (failed failure.toParseError rfl).symm
  | ok other => exact fun _ _ none => nomatch none

/--
A program that is cut off behind a newline directly in a block is not accepted.  The report says
of this block, which is the innermost one open there, that it is never closed, and spans the
word that opens it, whatever stands around the block; only blocks in an operand that may be left
out are not spoken of.
-/
theorem unclosed_block_reported {switches after : Switches} {text : String}
    {tokens front back : List Token} {hole : Token} {tree node body : Node} {word closer : Keyword}
    (lexed : tokenize switches text = .ok (tokens, after)) (parsed : parse tokens = .ok tree)
    (split : tokens = front ++ hole :: back) (newline : hole.kind = .newline)
    (within : FirmlyIn tree node) (block : BlockBody node.form word closer body)
    (direct : Direct front hole back body) :
    ∃ error, parse (front ++ [hole]) = .error error ∧
      error.cause.message =
        s!"'{word.spelling}' block is never closed, expected '{closer.spelling}'" ∧
      ∃ opener ∈ tokens, opener.kind = .keyword word ∧
        opener.span.start = node.span.start ∧ error.span = opener.span := by
  have faithful := Lexical.faithful_of_tokenize lexed
  rcases exists_layout faithful with ⟨layout, rfl, -⟩
  have inner : ∀ token ∈ front, token.kind ≠ .endOfFile := by
    rcases faithful.ends with ⟨words, whole, inner⟩
    have more : back ≠ [] := by
      rintro rfl
      have closed := layout.closed
      rw [Closed, split, List.getLast?_concat, Option.map_some, newline] at closed
      cases closed
    rw [← List.dropLast_concat_getLast more, ← List.cons_append, ← List.append_assoc, whole] at split
    rw [(List.append_inj' split rfl).1] at inner
    exact fun token member => (inner token (List.mem_append_left _ member)).1
  let cut : Cut := ⟨layout, front, hole, back, split, newline, inner⟩
  have reports (error : ParseError)
      (failed : ∀ given, parse (front ++ [hole]) = .error given → given = error) :
      Reports layout.tokens error node word closer :=
    cut.right_of_error parsed failed node within word closer body block direct
  cases result : parse (front ++ [hole]) with
  | ok other =>
      -- Then every error at all would be a report of this block.
      rcases reports ⟨.tooDeep, hole.span⟩ (fun given failed => by
        cases result.symm.trans failed) with ⟨_, _, _, _, same⟩
      cases same
  | error error =>
      rcases reports error (fun given failed => by cases result.symm.trans failed; rfl) with
        ⟨opener, member, kind, starts, rfl⟩
      exact ⟨_, rfl, rfl, opener, member, kind, starts, rfl⟩

/-- The text from a character to another one, in one line that starts at a third. -/
def stretch (line bol start stop : Nat) : Span :=
  ⟨⟨start, line, start - bol⟩, ⟨stop, line, stop - bol⟩⟩

/-- The newline at the end of a line. -/
def lineBreak (line bol index : Nat) : Token :=
  ⟨.newline, ⟨⟨index, line, index - bol⟩, ⟨index + 1, line + 1, 0⟩⟩⟩

/-- The tokens in front of the third newline in a loop in a class. -/
def nestedFront : List Token :=
  [⟨.keyword .classWord, stretch 0 0 0 5⟩, ⟨.identifier "A", stretch 0 0 6 7⟩, lineBreak 0 0 7,
    ⟨.keyword .loopWord, stretch 1 8 10 14⟩, lineBreak 1 8 14, ⟨.int 2, stretch 2 15 19 20⟩]

/-- The tokens behind it. -/
def nestedBack : List Token :=
  [⟨.keyword .endWord, stretch 3 21 23 26⟩, lineBreak 3 21 26,
    ⟨.keyword .endWord, stretch 4 27 27 30⟩, ⟨.endOfFile, stretch 4 27 30 30⟩]

def nestedBody : Node :=
  ⟨⟨⟨14, 1, 6⟩, ⟨21, 3, 0⟩⟩, .block [⟨stretch 2 15 19 20, .number (.int 2)⟩]⟩

def nestedLoop : Node :=
  ⟨⟨⟨10, 1, 2⟩, ⟨26, 3, 5⟩⟩, .loop none .endless nestedBody true⟩

def nestedTree : Node :=
  ⟨⟨⟨0, 0, 0⟩, ⟨30, 4, 3⟩⟩, .block [⟨⟨⟨0, 0, 0⟩, ⟨30, 4, 3⟩⟩,
    .classDef "A" none ⟨⟨⟨7, 0, 7⟩, ⟨27, 4, 0⟩⟩, .block [nestedLoop]⟩⟩]⟩

theorem nestedLoop_within : FirmlyIn nestedTree nestedLoop :=
  .inside List.mem_cons_self <| .inside List.mem_cons_self <| .inside List.mem_cons_self (.self _)

instance (inner outer : Span) : Decidable (Inside inner outer) :=
  inferInstanceAs (Decidable (_ ∧ _))

theorem nestedBody_direct : Direct nestedFront (lineBreak 2 15 20) nestedBack nestedBody where
  inside := by decide
  between := ⟨_, rfl, by decide⟩
  free := not_bracketed nestedFront.dropLast nestedBack.tail (by decide) (by decide)

theorem nestedLoop_reported :
    tokenize {} "class A\n  loop\n    2\n  end\nend" =
        .ok (nestedFront ++ lineBreak 2 15 20 :: nestedBack, {}) ∧
      parse (nestedFront ++ lineBreak 2 15 20 :: nestedBack) = .ok nestedTree ∧
      FirmlyIn nestedTree nestedLoop ∧ BlockBody nestedLoop.form .loopWord .endWord nestedBody ∧
      Direct nestedFront (lineBreak 2 15 20) nestedBack nestedBody ∧
      ∃ error, parse (nestedFront ++ [lineBreak 2 15 20]) = .error error ∧
        error.cause.message = "'loop' block is never closed, expected 'end'" ∧
        ∃ opener ∈ nestedFront ++ lineBreak 2 15 20 :: nestedBack,
          opener.kind = .keyword .loopWord ∧ opener.span.start = nestedLoop.span.start ∧
            error.span = opener.span := by
  have lexed : tokenize {} "class A\n  loop\n    2\n  end\nend" =
      .ok (nestedFront ++ lineBreak 2 15 20 :: nestedBack, {}) := by decide +kernel
  have parsed : parse (nestedFront ++ lineBreak 2 15 20 :: nestedBack) = .ok nestedTree := rfl
  exact ⟨lexed, parsed, nestedLoop_within, .endless, nestedBody_direct,
    unclosed_block_reported lexed parsed rfl rfl nestedLoop_within .endless nestedBody_direct⟩

/-! ### A block in the value of a return -/

def returnedFront : List Token :=
  [⟨.keyword .returnWord, stretch 0 0 0 6⟩, ⟨.keyword .doWord, stretch 0 0 7 9⟩]

def returnedBack : List Token :=
  [⟨.int 1, stretch 1 10 12 13⟩, lineBreak 1 10 13, ⟨.keyword .thenWord, stretch 2 14 14 18⟩,
    ⟨.keyword .loopWord, stretch 2 14 19 23⟩, ⟨.keyword .whileWord, stretch 2 14 24 29⟩,
    ⟨.int 0, stretch 2 14 30 31⟩, ⟨.endOfFile, stretch 2 14 31 31⟩]

def returnedBody : Node :=
  ⟨⟨⟨9, 0, 9⟩, ⟨14, 2, 0⟩⟩, .block [⟨stretch 1 10 12 13, .number (.int 1)⟩]⟩

def returnedLoop : Node :=
  ⟨⟨⟨7, 0, 7⟩, ⟨31, 2, 17⟩⟩,
    .loop none (.doWhile ⟨stretch 2 14 30 31, .number (.int 0)⟩) returnedBody true⟩

/--
In the value of a return, a block that is cut off is not reported as open: the value counts as
left out, and the word that opens the block as one too many.
-/
theorem returned_block_not_reported :
    tokenize {} "return do\n  1\nthen loop while 0" =
        .ok (returnedFront ++ lineBreak 0 0 9 :: returnedBack, {}) ∧
      parse (returnedFront ++ lineBreak 0 0 9 :: returnedBack) =
        .ok ⟨⟨⟨0, 0, 0⟩, ⟨31, 2, 17⟩⟩, .block [⟨⟨⟨0, 0, 0⟩, ⟨31, 2, 17⟩⟩,
          .returnFrom (some returnedLoop)⟩]⟩ ∧
      BlockBody returnedLoop.form .doWord .thenWord returnedBody ∧
      Direct returnedFront (lineBreak 0 0 9) returnedBack returnedBody ∧
      parse (returnedFront ++ [lineBreak 0 0 9]) =
        .error ⟨.unexpected .endOfStatement (.keyword .doWord), stretch 0 0 7 9⟩ ∧
      (Cause.unexpected .endOfStatement (.keyword .doWord)).message ≠
        "'do' block is never closed, expected 'then'" := by
  refine ⟨by decide +kernel, rfl, .doWhile, ⟨by decide, ⟨_, rfl, by decide⟩, ?_⟩, rfl, by decide⟩
  exact not_bracketed returnedFront.dropLast returnedBack.tail (by decide) (by decide)

end Grammar
end Scripting
