import Scripting.Proofs.CutReaders

namespace Scripting
namespace Grammar

/-!
Blocks that are reported as never closed.

A newline stands directly in a block if it lies in it but in none of its statements; brackets
around a statement count as part of the statement.  A program that ends there leaves the block
open, and the report has to name the word that opens it.  This is said of all blocks of a tree
except those inside an operand that may be left out: such an operand is only tried, and a
report of what is wrong in it is discarded.
-/

open Lexical (Bracket Keyword Symbol Token TokenKind leavesAll? leavesAll?_cons leavesAll?_append)
open Source (Position Span)
open Program

/-! ## Blocks and the newlines in them -/

/-- A form has this body on lines of its own, between a word that opens it and one that closes it. -/
inductive BlockBody : Form Node → Keyword → Keyword → Node → Prop
  | case {cases : List (Node × Node)} {otherwise : Option Node} {condition body : Node}
      (member : (condition, body) ∈ cases) :
      BlockBody (.conditional cases otherwise true) .ifWord .endWord body
  | otherwise {cases : List (Node × Node)} {body : Node} :
      BlockBody (.conditional cases (some body) true) .ifWord .endWord body
  | counted {label : Option String} {counter : String} {first last body : Node}
      {step : Option Node} :
      BlockBody (.loop label (.counted counter first last step) body true) .forWord .endWord body
  | each {label : Option String} {item : String} {items body : Node} :
      BlockBody (.loop label (.each item items) body true) .forWord .endWord body
  | whileTrue {label : Option String} {condition body : Node} :
      BlockBody (.loop label (.whileTrue condition) body true) .whileWord .endWord body
  | doWhile {label : Option String} {condition body : Node} :
      BlockBody (.loop label (.doWhile condition) body true) .doWord .thenWord body
  | endless {label : Option String} {body : Node} :
      BlockBody (.loop label .endless body true) .loopWord .endWord body
  | function {name : Option String} {required : List String} {optional : List (String × Node)}
      {body : Node} : BlockBody (.function name required optional body false) .defWord .endWord body
  | classDef {name : String} {parent : Option Node} {body : Node} :
      BlockBody (.classDef name parent body) .classWord .endWord body

/-- The newlines around this point reach up to a round bracket that opens or one that closes. -/
def Bracketed (before after : List Token) : Prop :=
  (∃ (front : List Token) (opener : Token) (gap : List Token),
      before = front ++ opener :: gap ∧ opener.kind = .opening .round ∧
      ∀ token ∈ gap, token.kind = .newline) ∨
    ∃ (gap : List Token) (closer : Token) (back : List Token),
      after = gap ++ closer :: back ∧ closer.kind = .closing .round ∧
      ∀ token ∈ gap, token.kind = .newline

/-- A newline lies between the statements of a block, in front of them or behind them. -/
structure Direct (before : List Token) (hole : Token) (after : List Token) (body : Node) :
    Prop where
  inside : Inside hole.span body.span
  between : ∃ statements, body.form = .block statements ∧
    ∀ statement ∈ statements, ¬ Inside hole.span statement.span
  /-- Brackets around a whole statement are not in its span. -/
  free : ¬ Bracketed before after

/-- The parts of a form without the operand that may be left out. -/
def firmParts : Form Node → List Node
  | .returnFrom _ => []
  | .write text _ target _ => [text, target]
  | .read target _ _ => [target]
  | form => formParts form

/-- A node stands inside another one, but not in an operand that may be left out. -/
inductive FirmlyIn : Node → Node → Prop
  | self (node : Node) : FirmlyIn node node
  | inside {outer part inner : Node} (member : part ∈ firmParts outer.form)
      (within : FirmlyIn part inner) : FirmlyIn outer inner

/-- The error says of the block of a node, at the word that opens it, that it is never closed. -/
def Reports (tokens : List Token) (fault : ParseError) (node : Node) (word closer : Keyword) :
    Prop :=
  ∃ opener ∈ tokens, opener.kind = .keyword word ∧ opener.span.start = node.span.start ∧
    fault = ⟨.neverClosed word closer, opener.span⟩

/-- If the newline stands directly in a block of this tree, then the error reports the block. -/
def Right (cut : Cut) (fault : ParseError) (node : Node) : Prop :=
  ∀ inner, FirmlyIn node inner → ∀ word closer body, BlockBody inner.form word closer body →
    Direct cut.before cut.hole cut.after body → Reports cut.layout.tokens fault inner word closer

def AllRight (cut : Cut) (fault : ParseError) (nodes : List Node) : Prop :=
  ∀ node ∈ nodes, Right cut fault node

variable {cut : Cut} {fault : ParseError} {bound smaller : Nat} {place next : Place}
  {lost : Prop} {nodes others : List Node}

theorem AllRight.nil : AllRight cut fault [] :=
  List.forall_mem_nil _

theorem AllRight.append (first : AllRight cut fault nodes) (later : AllRight cut fault others) :
    AllRight cut fault (nodes ++ others) :=
  List.forall_mem_append.mpr ⟨first, later⟩

theorem AllRight.single {node : Node} (right : Right cut fault node) :
    AllRight cut fault [node] :=
  List.forall_mem_singleton.mpr right

theorem AllRight.cons {node : Node} (right : Right cut fault node)
    (later : AllRight cut fault nodes) : AllRight cut fault (node :: nodes) :=
  List.forall_mem_cons.mpr ⟨right, later⟩

/-- A node of which the parts and the blocks are right. -/
theorem Right.node {span : Span} {form : Form Node} (parts : AllRight cut fault (firmParts form))
    (blocks : ∀ word closer body, BlockBody form word closer body →
      Direct cut.before cut.hole cut.after body →
      Reports cut.layout.tokens fault ⟨span, form⟩ word closer) : Right cut fault ⟨span, form⟩ := by
  intro inner within
  cases within with
  | self => exact blocks
  | inside member within => exact parts _ member inner within

/-- A node without blocks of its own. -/
theorem Right.plain {span : Span} {form : Form Node} (parts : AllRight cut fault (firmParts form))
    (blockless : ∀ word closer body, ¬ BlockBody form word closer body) :
    Right cut fault ⟨span, form⟩ :=
  .node parts fun word closer body block => absurd block (blockless word closer body)

/-! ## What is read between two places -/

/-- The newline lies in one of some nodes, or next to a bracket around a part of one. -/
def Cut.Held (cut : Cut) (nodes : List Node) : Prop :=
  Bracketed cut.before cut.after ∨
    ∃ node ∈ nodes, ∃ inner, FirmlyIn node inner ∧ Inside cut.hole.span inner.span

/-- The blocks of some nodes are reported, and the newline is in the nodes if it is passed. -/
structure Reported (cut : Cut) (fault : ParseError) (place : Place) (nodes : List Node)
    (next : Place) : Prop where
  right : AllRight cut fault nodes
  held : cut.Before place → ¬ cut.Before next → cut.Held nodes

theorem Cut.Held.mono (held : cut.Held nodes) (within : ∀ node ∈ nodes, node ∈ others) :
    cut.Held others :=
  held.imp id fun ⟨node, member, inner⟩ => ⟨node, within node member, inner⟩

theorem firmParts_subset {form : Form Node} {part : Node} (member : part ∈ firmParts form) :
    part ∈ formParts form := by
  unfold firmParts at member
  split at member
  case h_1 => cases member
  case h_2 => exact List.mem_append_left _ member
  case h_3 => exact List.mem_append_left _ member
  case h_4 => exact member

/-- In a text, a node that stands in another one lies in its span. -/
theorem FirmlyIn.inside_span {outer inner : Node} (within : FirmlyIn outer inner)
    (tidy : cut.layout.Tidy outer) : Inside inner.span outer.span := by
  induction within with
  | self => exact ⟨Nat.le_refl _, Nat.le_refl _⟩
  | inside member _ ih =>
      cases tidy with
      | node fits parts =>
          have part := firmParts_subset member
          exact (ih (parts _ part)).trans (fits.wellSpanned.parts _ part)

namespace Reported

variable {between : Place}

theorem nothing (reaches : cut.Reaches place next) : Reported cut fault place [] next :=
  ⟨.nil, fun before past => absurd (reaches.stays before) past⟩

theorem reached (reaches : cut.Reaches place between)
    (reported : Reported cut fault between nodes next) : Reported cut fault place nodes next :=
  ⟨reported.right, fun before past => reported.held (reaches.stays before) past⟩

theorem andThen (first : Reported cut fault place nodes between)
    (later : Reported cut fault between others next) :
    Reported cut fault place (nodes ++ others) next := by
  refine ⟨first.right.append later.right, fun before past => ?_⟩
  by_cases halfway : cut.Before between
  · exact (later.held halfway past).mono fun _ => List.mem_append_right _
  · exact (first.held before halfway).mono fun _ => List.mem_append_left _

/-- A node that consists of other ones. -/
theorem node {span : Span} {form : Form Node} (reported : Reported cut fault place nodes next)
    (parts : firmParts form = nodes) (blockless : ∀ word closer body, ¬ BlockBody form word closer body) :
    Reported cut fault place [⟨span, form⟩] next := by
  subst parts
  refine ⟨.single (.plain reported.right blockless), fun before past => ?_⟩
  rcases reported.held before past with bracketed | ⟨part, member, inner, within, inside⟩
  · exact .inl bracketed
  · exact .inr ⟨_, List.mem_singleton_self _, inner, .inside member within, inside⟩

end Reported

/-- A node from a place to another one holds the newline if it is passed. -/
theorem inside_of_passed {start : Position} (laid : cut.layout.Laid place)
    (moves : place.Moves next) (starts : start.index ≤ place.ahead) (before : cut.Before place)
    (past : ¬ cut.Before next) : Inside cut.hole.span (next.spanAfter start) := by
  have ahead := before.ahead_le laid
  have behind := Cut.hole_le_behind laid moves before past
  have filled := cut.hole_filled
  refine ⟨Nat.le_trans starts ahead, ?_⟩
  have onward : ¬ next.previousEnd.index < start.index := by
    have reaches : cut.hole.span.stop.index ≤ next.previousEnd.index := behind
    omega
  rw [Place.spanAfter, if_neg onward]
  exact behind

/-- A node that begins with the token here. -/
theorem Cuts.opened {reader : Reader Node} {leaves : Place → Prop}
    (cuts : Cuts cut fault bound place False none reader (fun node next => Right cut fault node ∧
      node.span = next.spanAfter place.current.span.start) leaves) :
    Cuts cut fault bound place False none reader
      (fun node next => Reported cut fault place [node] next) leaves := by
  refine cuts.mono (fun node next laid moves holds => ⟨.single holds.1, fun before past => ?_⟩)
    fun _ gone => gone
  refine .inr ⟨node, List.mem_singleton_self _, node, .self node, ?_⟩
  rw [holds.2]
  exact inside_of_passed laid moves (Nat.le_refl _) before past

/-! ## Operands that only the shorter list has -/

/-- The grammar is cut as it should be where fewer than some tokens are left. -/
def Trimmed (cut : Cut) (fault : ParseError) (bound : Nat) : Prop :=
  ∀ entry place, ∀ smaller < bound, Cuts cut fault smaller place False none (grammar entry)
    (fun node next => Reported cut fault place [node] next) entry.Leaves

/-- Where an expression can be read, one begins. -/
theorem begins_of_expression {node : Node} (ended : Ended place.kinds)
    (read : grammar .expression place = .ok (node, next)) : begins place.current.kind = true := by
  rcases follows_grammar.expression place ended node next read with ⟨kinds, split, derives⟩
  rcases derives.opens rfl with ⟨kind, rest, rfl, begun⟩
  rw [(List.cons.inj split).1]
  exact begun

/-- An expression that begins with a round bracket begins with what the bracket holds. -/
theorem bracketed_of_expression {node : Node} (round : place.current.kind = .opening .round)
    (read : expression grammar place = .ok (node, next)) :
    ∃ inner after, grammar .expression place.advance.skipped = .ok (inner, after) ∧
      after.skipped.current.kind = .closing .round := by
  have looked : peek place = .ok (place.current, place) := rfl
  rw [expression, bind_of_ok looked, round] at read
  rcases bind_ok read with ⟨_, _, readLogic, -⟩
  rcases bind_ok readLogic with ⟨_, _, readComparison, -⟩
  have unnegated : place.current.kind ≠ .keyword .notWord := fun same => by
    cases round.symm.trans same
  rw [comparison, bind_of_ok looked, if_neg unnegated] at readComparison
  rcases bind_ok readComparison with ⟨_, _, readSum, -⟩
  rcases bind_ok readSum with ⟨_, _, readTerm, -⟩
  rcases bind_ok readTerm with ⟨_, _, readFactor, -⟩
  rw [factor, bind_of_ok looked, round] at readFactor
  rcases bind_ok readFactor with ⟨_, _, readChain, -⟩
  rcases bind_ok readChain with ⟨_, _, readAtom, -⟩
  rw [atom, bind_of_ok looked, round] at readAtom
  rcases bind_ok readAtom with ⟨_, _, passed, readInside⟩
  cases passed
  rcases bind_ok readInside with ⟨_, _, skipped, readInner⟩
  cases skipped
  rcases bind_ok readInner with ⟨inner, after, readExpression, readEnd⟩
  rcases bind_ok readEnd with ⟨_, _, skipped, readCloser⟩
  cases skipped
  refine ⟨inner, after, readExpression, ?_⟩
  rcases bind_ok readCloser with ⟨_, _, closed, -⟩
  by_contra other
  have failed : Grammar.expect (.closing .round) after.skipped = .error _ := if_neg other
  cases failed.symm.trans closed

/-- What a round bracket holds makes an atom if the bracket is closed behind it. -/
theorem atom_of_bracketed {inner : Node} {after : Place}
    (round : place.current.kind = .opening .round)
    (read : grammar .expression place.advance.skipped = .ok (inner, after))
    (closing : after.skipped.current.kind = .closing .round) :
    atom grammar place = .ok (inner, after.skipped.advance) := by
  have looked : peek place = .ok (place.current, place) := rfl
  have passed : advance place = .ok (place.current, place.advance) := rfl
  have closed : Grammar.expect (.closing .round) after.skipped =
      .ok (after.skipped.current, after.skipped.advance) := if_pos closing
  rw [atom, bind_of_ok looked, round]
  refine (bind_of_ok passed).trans ((bind_of_ok (Place.skipNewlines_eq _)).trans ?_)
  refine (bind_of_ok read).trans ((bind_of_ok (Place.skipNewlines_eq _)).trans ?_)
  exact bind_of_ok closed

/-- No expression goes on behind a bracket that closes another one. -/
theorem Derives.no_closer {front kinds gap : List TokenKind} {inner node : Node}
    {bracket : Bracket} (shorter : Derives .expression front inner) (newlines : Newlines gap)
    (whole : Derives .expression kinds node) :
    ¬ front ++ (gap ++ [.closing bracket]) <+: kinds := by
  rintro ⟨behind, rfl⟩
  have closed : (TokenKind.closing bracket).leaves? [] = none := rfl
  have left : leavesAll? [] front = some [] := shorter.closes trivial []
  have all : leavesAll? [] (front ++ (gap ++ [.closing bracket]) ++ behind) = some [] :=
    whole.closes trivial []
  rw [leavesAll?_append, leavesAll?_append, left, Option.bind_some, leavesAll?_append,
    leavesAll?_newlines [] newlines, Option.bind_some, leavesAll?_cons, closed] at all
  cases all

/-- Before the newline both lists have the same tokens, and a bracket is neither of the last two. -/
theorem prefix_of_cut {α : Type} {front before back after : List α} {mark hole last : α}
    (split : front ++ mark :: back = before ++ [hole, last]) (notHole : mark ≠ hole)
    (notLast : mark ≠ last) {passed left : List α} (whole : passed ++ left = before ++ hole :: after)
    (beyond : left.length ≤ after.length) : front ++ [mark] <+: passed := by
  have inside : front ++ [mark] <+: before := by
    rcases List.append_eq_append_iff.mp split with ⟨more, rfl, rest⟩ | ⟨more, rfl, rest⟩
    · cases more with
      | nil => exact absurd (List.cons.inj rest).1 notHole
      | cons first more =>
          rcases List.cons.inj rest with ⟨rfl, -⟩
          exact ⟨more, by simp⟩
    · rcases more with _ | ⟨first, _ | ⟨second, more⟩⟩
      · exact absurd (List.cons.inj rest).1.symm notHole
      · exact absurd (List.cons.inj (List.cons.inj rest).2).1.symm notLast
      · have lengths := congrArg List.length rest
        simp only [List.length_cons, List.length_append, List.length_nil] at lengths
        omega
  refine inside.trans ?_
  rcases List.append_eq_append_iff.mp whole with ⟨more, rfl, rest⟩ | ⟨more, rfl, rest⟩
  · have lengths := congrArg List.length rest
    simp only [List.length_cons, List.length_append] at lengths
    omega
  · exact List.prefix_append _ _

theorem kinds_skipped (place : Place) : ∃ gap, place.kinds = gap ++ place.skipped.kinds ∧
    Newlines gap := by
  rcases passNewlines_passes place.current place.previousEnd place.rest with ⟨gap, split, newlines, -⟩
  exact ⟨gap, split, newlines⟩

/-- Arguments that are read begin with an expression that a comma or a bracket follows. -/
theorem first_of_arguments {given : List Node}
    (read : arguments grammar place = .ok (given, next))
    (some : place.skipped.current.kind ≠ .closing .round) :
    ∃ first stop, grammar .expression place.skipped = .ok (first, stop) ∧ ¬ Stuck stop ∧
      (stop.skipped.current.kind = .closing .round → next = stop.skipped.advance) := by
  rcases bind_ok read with ⟨_, start, skipped, readGiven⟩
  cases (Place.skipNewlines_eq place).symm.trans skipped
  have stays : eat (.closing .round) place.skipped = .ok (false, place.skipped) := if_neg some
  rw [bind_of_ok stays] at readGiven
  rcases bind_ok readGiven with ⟨items, finish, readItems, readCloser⟩
  have turn : bracketedItems (grammar .expression) (place.skipped.rest.length + 1) place.skipped =
      .ok (items, finish) := readItems
  rw [bracketedItems] at turn
  rcases bind_ok turn with ⟨first, stop, readFirst, more⟩
  rcases bind_ok more with ⟨_, behind, skippedMore, turnMore⟩
  cases (Place.skipNewlines_eq stop).symm.trans skippedMore
  -- Without a comma, the items end here.
  have single (other : stop.skipped.current.kind ≠ .symbol .comma) : finish = stop.skipped := by
    have stays : eat (.symbol .comma) stop.skipped = .ok (false, stop.skipped) := if_neg other
    rw [bind_of_ok stays] at turnMore
    cases turnMore
    rfl
  refine ⟨first, stop, readFirst, fun stuck => ?_, fun closing => ?_⟩
  · have same : stop.skipped = stop := Place.skipped_of_ne (stuck.ne rfl)
    have noComma : stop.skipped.current.kind ≠ .symbol .comma := by
      rw [same]
      exact stuck.ne rfl
    have ended : finish = stop := (single noComma).trans same
    have failed : Grammar.expect (.closing .round) finish = .error _ :=
      if_neg (ended ▸ stuck.ne rfl)
    rw [bind_error failed] at readCloser
    cases readCloser
  · have ended := single (by rw [closing]; nofun)
    subst ended
    have passed : Grammar.expect (.closing .round) stop.skipped =
        .ok (stop.skipped.current, stop.skipped.advance) := if_pos closing
    rw [bind_of_ok passed] at readCloser
    cases readCloser
    rfl

/--
What the brackets of an expression in the shorter list hold is read alike in the whole list,
if it can be read there as the first of some arguments.
-/
theorem Cut.Before.same_inside (trimmed : Trimmed cut fault bound)
    (short : place.rest.length < bound) (laid : cut.layout.Laid place) (before : cut.Before place)
    {first inner : Node} {stop after : Place}
    (read : grammar .expression place = .ok (first, stop)) (free : ¬ Stuck stop)
    (readShort : grammar .expression (cut.shorten place) = .ok (inner, after))
    (closing : after.skipped.current.kind = .closing .round) :
    stop.skipped.current.kind = .closing .round := by
  have kept := trimmed .expression place _ short laid (Nat.le_refl _) first stop read
  rcases kept.ends with stuck | ⟨-, same⟩
  · exact absurd stuck free
  have laidStop := (laid.moves kept.moves).1
  by_cases later : cut.Before stop
  · cases (same later).symm.trans readShort
    rcases later.skipped laidStop with ⟨-, equal⟩ | ⟨-, last⟩
    · rw [← equal] at closing
      exact closing
    · rw [last] at closing
      cases closing
  · -- The expression goes on behind the newline, and so has a bracket too many.
    exfalso
    rcases follows_grammar.expression place laid.near.closed_here.ended first stop read with
      ⟨kinds, split, derives⟩
    have closedShort := (before.near laid).closed_here.ended
    rcases follows_grammar.expression _ closedShort inner after readShort with
      ⟨kindsShort, splitShort, derivesShort⟩
    rcases kinds_skipped after with ⟨gap, splitGap, newlines⟩
    rcases before.kinds laid with ⟨front, here, hereShort⟩
    have short : stop.kinds.length ≤ (cut.after.map Token.kind).length := by
      have past : stop.rest.length < cut.after.length := Nat.lt_of_not_le later
      simp only [Place.kinds, List.length_cons, List.length_map]
      omega
    have closer : after.skipped.kinds =
        .closing .round :: after.skipped.rest.map Token.kind := by
      rw [Place.kinds, closing]
    rw [splitGap, closer, ← List.append_assoc] at splitShort
    have within := prefix_of_cut (splitShort.symm.trans hereShort) (fun same => by cases same)
      (fun same => by cases same) (split.symm.trans here) short
    rw [List.append_assoc] at within
    exact derivesShort.no_closer newlines derives within

/--
An operand that is given up in the whole list, but not in the shorter one, begins with a token
at which readers stop; a round bracket is the exception.  If that is closed before the newline,
then what it holds is read alike in both lists, for no expression has a bracket too many.
-/
theorem stuck_of_revived (trimmed : Trimmed cut fault bound) (short : place.rest.length < bound)
    (laid : cut.layout.Laid place) (before : cut.Before place)
    (failed : ∀ result, expression grammar place ≠ .ok result) {node : Node}
    (read : grammar .expression (cut.shorten place) = .ok (node, next)) : Stuck place := by
  have never {here : Place} {kind : TokenKind} {given : Node} {later : Place}
      (closed : Closed here.tokens) (found : here.current.kind = kind)
      (fails : begins kind = false) : grammar .expression here ≠ .ok (given, later) := by
    intro read
    have begun := begins_of_expression closed.ended read
    rw [found, fails] at begun
    cases begun
  have begun : begins place.current.kind = true := by
    by_contra other
    exact never (before.near laid).closed_here rfl (Bool.eq_false_of_not_eq_true other) read
  by_cases round : place.current.kind = .opening .round
  swap
  · exact .inl ⟨begun, round, failed⟩
  refine .inr ⟨round, failed, fun given behind readArguments => ?_⟩
  have readShort : expression grammar (cut.shorten place) = .ok (node, next) :=
    (before.unfolds laid .expression).symm.trans read
  have roundShort : (cut.shorten place).current.kind = .opening .round := round
  rcases bracketed_of_expression roundShort readShort with ⟨inner, after, readInner, closing⟩
  rcases before.advance laid (by rw [round]; nofun) with ⟨beforeBracket, equal⟩
  have shorter := laid.near.advance (by rw [round]; nofun)
  have laidBracket := (laid.moves shorter.1).1
  have moves := Place.moves_skipped place.advance
  have laidInside := (laidBracket.moves moves).1
  rw [← equal] at readInner
  rcases beforeBracket.skipped laidBracket with ⟨beforeInside, equal'⟩ | ⟨-, last⟩
  swap
  · have near := (beforeBracket.near laidBracket).moves (Place.moves_skipped _)
    exact absurd readInner (never near.closed_here last rfl)
  rw [← equal'] at readInner
  have some : place.advance.skipped.current.kind ≠ .closing .round := fun empty =>
    never (beforeInside.near laidInside).closed_here empty rfl readInner
  rcases first_of_arguments readArguments some with ⟨first, stop, readFirst, free, ended⟩
  have less : place.advance.skipped.rest.length < bound := by
    have := moves.length_le
    have := shorter.2
    omega
  have closed := beforeInside.same_inside trimmed less laidInside readFirst free readInner closing
  rw [ended closed]
  exact ⟨first, atom_of_bracketed round readFirst closed⟩

/-- Where an operand is tried, it is given up alike in both lists, or the place is lost. -/
theorem attempt_cuts (trimmed : Trimmed cut fault bound) (less : smaller < bound)
    (stays : lost → Stuck place) :
    Cuts cut fault smaller place lost none (attempt (grammar .expression)) (fun _ _ => True)
      Stuck := by
  intro laid within value next read
  have unfolds := cut.unfolds laid .expression
  cases result : grammar .expression place with
  | ok pair =>
    rcases pair with ⟨given, reached⟩
    rw [attempt, result] at read
    cases read
    rcases trimmed .expression place smaller less laid within given next result with
      ⟨moves, -, ends⟩
    refine ⟨moves, fun gone => ?_, ends.imp id fun kept => ⟨fun _ => trivial, fun later => ?_⟩⟩
    · exact absurd (unfolds.symm.trans result) ((stays gone).fails _)
    · rw [attempt, kept.2 later]
  | error failure =>
    rw [attempt_grammar laid.near.closed_here laid.unchecked result] at read
    cases read
    refine ⟨.refl _, stays, ?_⟩
    have fails (given : Node × Place) : expression grammar place ≠ .ok given := by
      intro succeeded
      cases result.symm.trans (unfolds.trans succeeded)
    by_cases before : cut.Before place
    · cases shortened : grammar .expression (cut.shorten place) with
      | ok pair =>
          have short := Nat.lt_of_le_of_lt within less
          exact .inl (stuck_of_revived trimmed short laid before fails shortened)
      | error failure =>
          have closed := (before.near laid).closed_here
          have unchecked : (cut.shorten place).checked = false := laid.unchecked
          exact .inr ⟨fun _ => trivial, fun _ => attempt_grammar closed unchecked shortened⟩
    · exact .inr ⟨fun _ => trivial, fun later => absurd later before⟩

end Grammar
end Scripting
