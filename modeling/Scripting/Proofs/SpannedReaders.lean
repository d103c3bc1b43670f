import Scripting.Grammar.Statement
import Scripting.Proofs.SpanLayout

namespace Scripting
namespace Grammar

/-!
Readers lay out what they read.

Each reader of the grammar lays out what it reads.  A form with a word of its own begins with
that word and ends with the last token passed; an operator, a call and an attribute begin with
their first operand and end with the last one or behind it, so brackets around an operand are
left out of the span.  A block begins at the token where it is asked for, and if it has no
statements and no newlines it is empty and ends there as well, in front of the word that
closes it.
-/

open Lexical (Bracket Keyword Symbol Token TokenKind)
open Source (Position Span)
open Program

namespace Layout

variable {layout : Layout} {place : Place} {self : Descent}

/-- A node is read that begins no earlier than the current token. -/
abbrev LaysNode (layout : Layout) (place : Place) (reader : Reader Node) : Prop :=
  layout.Lays place reader fun node next => layout.Between place.ahead node next.behind

/-- Nodes are read behind what was passed before, if any. -/
abbrev LaysNodes (layout : Layout) {α : Type} (nodes : α → List Node) (place : Place)
    (reader : Reader α) : Prop :=
  layout.Lays place reader fun value next =>
    layout.AllBetween place.behind (nodes value) next.behind

theorem LaysNode.behind {reader : Reader Node} (lays : layout.LaysNode place reader) :
    layout.LaysNodes (fun node => [node]) place reader :=
  .known fun laid => lays.mono fun _ _ _ _ between => between.all.before laid.gap

/-! ## Readers that read no nodes -/

theorem label_lays : layout.Lays place label anyhow :=
  .ifEat nofun (fun _ _ _ => .identifier fun _ _ _ _ => .pure trivial) (.pure trivial)

theorem functionName_lays : layout.Lays place functionName anyhow :=
  .ifAt (fun _ => .pure trivial) (.identifier fun _ _ _ _ => .pure trivial)

theorem readInto_lays : layout.Lays place readInto anyhow :=
  .ifEat nofun (fun _ _ _ => .identifier fun _ _ _ _ => .pure trivial) (.pure trivial)

theorem nameAfterAs_lays (expected : Expectation) :
    layout.Lays place (nameAfterAs expected) anyhow :=
  .ifEat nofun (fun _ _ _ => .identifier fun _ _ _ _ => .pure trivial) (.pure trivial)

theorem exponentSign_lays : layout.Lays place exponentSign anyhow :=
  .ifEat nofun (fun _ _ _ => .pure trivial) (.bind (.eat nofun) fun _ _ _ _ _ => .pure trivial)

theorem redirection_lays : layout.Lays place redirection anyhow := by
  refine .peek ?_
  split
  · rename_i kind
    exact .advance (by rw [kind]; nofun) fun _ _ => .pure trivial
  · rename_i kind
    exact .advance (by rw [kind]; nofun) fun _ _ => .pure trivial
  · exact .unexpected

/-- Looking for a stop passes nothing. -/
theorem isAtStop_lays (stop : List Keyword) :
    layout.Lays place (isAtStop stop) fun _ next => next = place := by
  intro laid value next read
  cases read
  exact ⟨laid, Nat.le_refl _, Nat.le_refl _, rfl⟩

/-! ## Lists of things -/

/-- Things of any kind with commas between them stand in a row. -/
theorem commaSeparated_lays {α : Type} {item : Reader α} (spanOf : α → Span) (fine : α → Prop)
    (items : ∀ place, layout.Lays place item fun value next =>
      Row place.behind [spanOf value] next.behind ∧ fine value) (fuel : Nat) :
    layout.Lays place (commaSeparated item fuel) fun values next =>
      Row place.behind (values.map spanOf) next.behind ∧ ∀ value ∈ values, fine value := by
  induction fuel generalizing place with
  | zero =>
      refine .bind (items place) fun value next _ _ good => .pure ?_
      exact ⟨good.1, List.forall_mem_singleton.mpr good.2⟩
  | succ fuel ih =>
      refine .bind (items place) fun first next _ _ good => ?_
      refine .ifEat nofun (fun _ further passes => ?_) (.pure ?_)
      · refine .bind ih fun others last _ _ rest => .pure ⟨?_, List.forall_mem_cons.mpr ⟨good.2, rest.2⟩⟩
        have gap := passes.gap
        have passed := passes.passed
        exact good.1.append (rest.1.before (by omega))
      · exact ⟨good.1, List.forall_mem_singleton.mpr good.2⟩

theorem bracketedItems_lays {item : Reader Node} (items : ∀ place, layout.LaysNode place item)
    (fuel : Nat) : layout.LaysNodes id place (bracketedItems item fuel) := by
  induction fuel generalizing place with
  | zero => exact .bind (items place).behind fun value next _ _ good => .pure good
  | succ fuel ih =>
      refine .bind (items place).behind fun first next _ _ good => ?_
      refine .skipNewlines fun beyond onward _ => ?_
      refine .ifEat nofun (fun _ further passes => ?_) (.pure (good.upTo onward))
      have gap := passes.gap
      have passed := passes.passed
      refine .skipNewlines fun start later _ => .bind ih fun others last _ _ rest => .pure ?_
      exact good.andThen (by omega) rest

/-- A node that may be left out. -/
theorem attempt_lays {reader : Reader Node} (lays : layout.LaysNode place reader) :
    layout.LaysNodes Option.toList place (attempt reader) := by
  refine (Lays.attempt lays.behind).mono fun value next onward laid outcome => ?_
  rcases outcome with ⟨rfl, back⟩ | ⟨given, rfl, all⟩
  · exact .nothing (Nat.le_of_eq back.symm)
  · exact all

/-! ## Expressions -/

/-- All readers of a descent lay out the nodes they read. -/
def LaysAll (layout : Layout) (self : Descent) : Prop :=
  ∀ entry place, layout.LaysNode place (self entry)

section Readers

variable (descends : layout.LaysAll self)

include descends in
theorem arguments_lays : layout.LaysNodes id place (arguments self) := by
  refine .skipNewlines fun beyond onward _ => ?_
  refine .ifEat nofun (fun _ further passes => .pure (.nothing ?_)) ?_
  · have gap := passes.gap
    have passed := passes.passed
    omega
  · refine .bind (.repeated (bracketedItems_lays (descends .expression))) fun given next _ _ all => ?_
    refine .expect nofun fun _ last passes => .pure ?_
    have gap := passes.gap
    have passed := passes.passed
    exact (all.before onward).upTo (by omega)

include descends in
theorem callSuffixes_lays {low : Nat} {callee : Node} (fuel : Nat)
    (between : layout.Between low callee place.behind) :
    layout.Lays place (callSuffixes self fuel callee) fun node next =>
      layout.Between low node next.behind := by
  induction fuel generalizing place callee with
  | zero => exact .pure between
  | succ fuel ih =>
      refine .ifEat nofun (fun _ next passes => ?_) (.pure between)
      have gap := passes.gap
      have passed := passes.passed
      refine .bind (arguments_lays descends) fun given beyond onward _ all => ?_
      have parts : layout.AllBetween low (callee :: given) beyond.behind :=
        between.all.andThen (by omega) all
      have filled := between.filled
      have reaches := between.reaches
      have row : Row callee.span.start.index (spansOf (callee :: given)) beyond.behind := by
        cases parts.row with
        | next behind ordered later => exact .next (Nat.le_refl _) ordered later
      refine .bind (.nodeFrom between.tidy.starts between.behind (by omega) row nofun parts.tidy)
        fun call last _ _ made => ?_
      exact ih made

include descends in
theorem called_lays {low : Nat} {callee : Node} (between : layout.Between low callee place.behind) :
    layout.Lays place (called self callee) fun node next =>
      layout.Between low node next.behind :=
  .repeated fun fuel => callSuffixes_lays descends fuel between

/-- The name or literal that a single token makes. -/
theorem token_between {token : Token} {next : Place} {form : Form Node}
    (passes : layout.Passes place token next) (none : formParts form = [])
    (bare : partSpans form = []) (free : targetsOf form = []) :
    layout.Between place.ahead ⟨token.span, form⟩ next.behind where
  behind := Nat.le_of_eq passes.start.symm
  filled := passes.holds.filled
  reaches := Nat.le_of_eq passes.stop
  tidy := .leaf passes.holds none bare free

include descends in
theorem calledName_lays (expected : Expectation) :
    layout.LaysNode place (calledName self expected) :=
  .identifier fun _ _ _ passes => called_lays descends (token_between passes rfl rfl rfl)

include descends in
theorem attributeSteps_lays (fuel : Nat) :
    layout.LaysNodes id place (attributeSteps self fuel) := by
  induction fuel generalizing place with
  | zero => exact .pure (.nothing (Nat.le_refl _))
  | succ fuel ih =>
      refine .ifEat nofun (fun _ next passes => ?_) (.pure (.nothing (Nat.le_refl _)))
      have gap := passes.gap
      have passed := passes.passed
      refine .bind (calledName_lays descends _).behind fun step beyond _ _ first => ?_
      refine .bind ih fun others last _ _ rest => .pure ?_
      exact (first.before (by omega)).andThen (Nat.le_refl _) rest

omit self in
theorem attributeChain_between {low middle high : Nat} {base : Node} {steps : List Node}
    (between : layout.Between low base middle) (all : layout.AllBetween middle steps high)
    (within : high ≤ layout.limit) :
    layout.Between low (attributeChain base steps) high := by
  unfold attributeChain
  cases ends : steps.getLast? with
  | none => exact between.upTo all.row.le
  | some last =>
      have parts : layout.AllBetween low (base :: steps) high :=
        between.all.andThen (Nat.le_refl _) all
      have final : (base :: steps).getLast? = some last := by
        rw [List.getLast?_cons, ends]
        rfl
      exact parts.through between.filled final within rfl rfl rfl

/-- Operands on both sides of an operator. -/
theorem binaryNode_between {low middle middle' high : Nat} {left right : Node}
    (op : BinaryOp) (first : layout.Between low left middle) (gap : middle ≤ middle')
    (second : layout.Between middle' right high) (within : high ≤ layout.limit) :
    layout.Between low (binaryNode op left right) high :=
  (first.all.andThen gap second.all).through first.filled rfl within rfl rfl rfl

/-! ### Atoms -/

theorem signedDigits_lays {negative : Bool} {digits : Int64} {span : Span} :
    layout.Lays place (signedDigits negative digits span) fun _ next => next = place := by
  intro laid power next read
  rcases signedDigits_ok read with ⟨-, rfl⟩
  exact ⟨laid, Nat.le_refl _, Nat.le_refl _, rfl⟩

theorem number_lays {low : Nat} {value : Literal} {span : Span}
    (between : layout.Between low ⟨span, .number value⟩ place.behind) :
    layout.Lays place (number value span) fun node next =>
      layout.Between low node next.behind := by
  refine .ifEat nofun (fun _ start passes => .known fun laid => ?_) (.pure between)
  refine .peek (.bind exponentSign_lays fun negative signed _ onward _ => .peek ?_)
  split
  · rename_i digits kind
    refine .advance (by rw [kind]; nofun) fun last passed => ?_
    have digitsPassed := passed.passed
    have exponentPassed := passes.passed
    have gap := passes.gap
    have ahead : start.current.span.start.index ≤ signed.ahead := onward
    have laidGap : start.behind ≤ start.current.span.start.index := laid.gap
    refine .bind signedDigits_lays fun power same _ _ stays => ?_
    rw [stays]
    refine .bind (.nodeFrom laid.starts (Nat.le_refl start.current.span.start.index) (by omega)
      (.nothing (by omega)) nofun nofun) fun exponent ended _ _ made => ?_
    exact .known fun laid => .pure (binaryNode_between .scale between (by omega) made laid.behind_le)
  · exact .unexpected

include descends in
theorem bracketed_lays (inner : place.current.kind ≠ .endOfFile) :
    layout.LaysNode place (bracketed self) := by
  refine .advance inner fun next opened => .known fun laid => ?_
  refine .skipNewlines fun first _ onward => ?_
  refine .bind (descends .expression first) fun node read _ _ between => ?_
  refine .skipNewlines fun beyond later _ => ?_
  refine .expect nofun fun _ last closed => .pure ?_
  have start := opened.passed
  have ahead := laid.gap
  have gap := closed.gap
  have stop := closed.passed
  exact (between.before (by omega)).upTo (by omega)

include descends in
theorem listElements_lays : layout.LaysNodes id place (listElements self) := by
  refine .skipNewlines fun beyond onward _ => ?_
  refine .ifEat nofun (fun _ further passes => .pure (.nothing ?_)) ?_
  · have gap := passes.gap
    have passed := passes.passed
    omega
  · refine .bind (.repeated (bracketedItems_lays (descends .expression))) fun given next _ _ all => ?_
    refine .ifEat nofun (fun _ last passes => .pure ?_) .unexpected
    have gap := passes.gap
    have passed := passes.passed
    exact (all.before onward).upTo (by omega)

include descends in
theorem listLiteral_lays (inner : place.current.kind ≠ .endOfFile) :
    layout.LaysNode place (listLiteral self) := by
  refine .advance inner fun next opened => ?_
  refine .bind (listElements_lays descends) fun elements last _ _ all => ?_
  exact .node opened all rfl (fun part member => member) rfl

/-! ### Bodies -/

include descends in
theorem statementList_lays (stop : List Keyword) (fuel : Nat) :
    layout.Lays place (statementList self stop fuel) fun nodes next =>
      nodes = [] ∨ layout.AllBetween place.ahead nodes next.behind := by
  induction fuel generalizing place with
  | zero => exact .pure (.inl rfl)
  | succ fuel ih =>
      refine .bind (isAtStop_lays stop) fun stops next _ _ same => ?_
      subst same
      split
      · exact .pure (.inl rfl)
      · refine .bind (descends .statement next) fun statement read _ _ between => ?_
        refine .ifAt (fun _ => ?_) (.pure (.inr between.all))
        refine .known fun laid => .skipNewlines fun beyond onward further => ?_
        refine .bind ih fun others last later _ rest => .pure (.inr ?_)
        rcases rest with rfl | rest
        · exact between.all.upTo (by omega)
        · have gap := laid.gap
          exact between.all.andThen (by omega) rest

include descends in
/-- A block reaches at most to where the token behind it starts. -/
theorem statements_lays (stop : List Keyword) :
    layout.Lays place (statements self stop) fun node next =>
      layout.AllBetween place.ahead [node] next.ahead := by
  refine .known fun laid => .peek (.skipNewlines fun first _ onward => ?_)
  refine .bind (.repeated (statementList_lays descends stop)) fun body next _ further rest => ?_
  intro there node last read
  cases read
  refine ⟨there, Nat.le_refl _, Nat.le_refl _, ?_⟩
  have start : place.current.span.start.index = place.ahead := rfl
  have gap := there.gap
  have within := there.behind_le
  have ahead := laid.ahead_le
  have tidy : ∀ statement ∈ body, layout.Tidy statement := by
    rcases rest with rfl | rest
    · nofun
    · exact rest.tidy
  by_cases empty : next.previousEnd.index < place.current.span.start.index
  · -- Nothing was passed since the block was asked for.
    have none : body = [] := by
      rcases rest with none | rest
      · exact none
      · have reaches := rest.row.le
        have before : next.behind < place.ahead := empty
        omega
    subst none
    simp only [if_pos empty]
    refine ⟨.single (Nat.le_refl _) (Nat.le_refl _) (Nat.le_trans onward further), ?_⟩
    refine List.forall_mem_singleton.mpr (.node ⟨laid.starts, Nat.le_refl _, ?_, ?_, ?_, nofun⟩ nofun)
    · exact ahead
    · exact fun other => absurd rfl (other [])
    · exact .nothing (Nat.le_refl _)
  · have reaches : place.ahead ≤ next.behind := Nat.le_of_not_lt empty
    simp only [if_neg empty]
    refine ⟨.single (Nat.le_refl _) reaches gap, ?_⟩
    refine List.forall_mem_singleton.mpr (.node ⟨laid.starts, reaches, within, ?_, ?_, nofun⟩ tidy)
    · exact fun other => absurd rfl (other body)
    · rcases rest with rfl | rest
      · exact .nothing reaches
      · exact rest.row.before onward

include descends in
theorem closedBlock_lays (opener : Keyword) (span : Span) (closer : Keyword) :
    layout.LaysNodes (fun node => [node]) place (closedBlock self opener span closer) := by
  refine .known fun laid => .enterBlock fun next _ same => ?_
  refine .bind (statements_lays descends [closer]) fun body read _ _ all => ?_
  refine .leaveBlock fun last passed => .pure ?_
  have gap := laid.gap
  exact (all.before (by omega)).upTo (by omega)

include descends in
theorem loopBody_lays (opener : Keyword) (span : Span) :
    layout.LaysNodes (fun body => [body.1]) place (loopBody self opener span) := by
  refine .ifAt (fun _ => ?_) ?_
  · exact .bind (closedBlock_lays descends opener span .endWord) fun body next _ _ all => .pure all
  · exact .bind (descends .statement place).behind fun body next _ _ all => .pure all

include descends in
/--
The cases of a conditional.  Its bodies reach either to the last token passed or to where the
next token starts, and the next case begins behind either of them.
-/
theorem furtherCases_lays {body lastBody : Reader Node} (edge : Place → Nat)
    (edges : ∀ place, layout.Laid place → place.behind ≤ edge place ∧ edge place ≤ place.ahead)
    (bodies : ∀ place, layout.Lays place body fun node next =>
      layout.AllBetween (edge place) [node] (edge next))
    (last : ∀ place, layout.Lays place lastBody fun node next =>
      layout.AllBetween (edge place) [node] (edge next)) (fuel : Nat) :
    layout.Lays place (furtherCases self body lastBody fuel) fun cases next =>
      layout.AllBetween (edge place)
        (cases.1.flatMap (fun case => [case.1, case.2]) ++ cases.2.toList) (edge next) := by
  induction fuel generalizing place with
  | zero => exact .pure (.nothing (Nat.le_refl _))
  | succ fuel ih =>
      refine .known fun laid => ?_
      have ahead := (edges place laid).2
      refine .ifEat nofun (fun _ next passes => ?_) ?_
      · have passed := passes.passed
        refine .bind (descends .expression next).behind fun condition tested _ _ first => ?_
        refine .expect nofun fun _ beyond closed => .known fun laid => ?_
        have gap := closed.gap
        have thenPassed := closed.passed
        have behind := (edges beyond laid).1
        refine .bind (bodies beyond) fun chosen read _ _ second => ?_
        refine .bind ih fun others ended _ _ rest => .pure ?_
        have onward : edge place ≤ next.behind := by omega
        have arm := (first.before onward).andThen (by omega) second
        exact arm.andThen (Nat.le_refl _) rest
      · refine .ifEat nofun (fun _ next passes => .known fun laid => ?_) (.pure ?_)
        · have passed := passes.passed
          have behind := (edges next laid).1
          refine .bind (last next) fun otherwise ended _ _ all => .pure ?_
          exact all.before (by omega)
        · exact .nothing (Nat.le_refl _)

/-- The parts of a conditional are its first case and the further ones. -/
theorem conditional_all {low middle middle' high : Nat} {condition first : Node}
    {others : List (Node × Node)} {otherwise : Option Node}
    (tested : layout.AllBetween low [condition] middle) (gap : middle ≤ middle')
    (chosen : layout.AllBetween middle' ([first] ++
      (others.flatMap (fun case => [case.1, case.2]) ++ otherwise.toList)) high) (block : Bool) :
    layout.AllBetween low
      (formParts (.conditional ((condition, first) :: others) otherwise block)) high :=
  tested.andThen gap chosen

include descends in
theorem conditional_lays (inner : place.current.kind ≠ .endOfFile) :
    layout.LaysNode place (conditional self) := by
  refine .advance inner fun start opened => ?_
  refine .bind (descends .expression start).behind fun condition read _ _ tested => ?_
  refine .expect nofun fun _ next passes => .known fun laid => ?_
  have gap := passes.gap
  have passed := passes.passed
  have ahead := laid.gap
  refine .ifAt (fun _ => ?_) ?_
  · refine .enterBlock fun entered _ same => ?_
    refine .bind (statements_lays descends _) fun first after _ _ chosen => ?_
    refine .bind (.repeated (furtherCases_lays descends Place.ahead
      (fun place laid => ⟨laid.gap, Nat.le_refl _⟩) (fun place => statements_lays descends _)
      fun place => statements_lays descends _)) fun cases ended _ _ others => ?_
    refine .leaveBlock fun last left => ?_
    have arms := chosen.andThen (Nat.le_refl _) others
    exact .node opened (conditional_all tested (by omega) (arms.upTo (by omega)) true) rfl
      (fun part member => member) rfl
  · refine .bind (descends .statement next).behind fun first after _ _ chosen => ?_
    refine .bind (.repeated (furtherCases_lays descends Place.behind
      (fun place laid => ⟨Nat.le_refl _, laid.gap⟩) (fun place => (descends .statement place).behind)
      fun place => (descends .statement place).behind)) fun cases ended _ _ others => ?_
    have arms := chosen.andThen (Nat.le_refl _) others
    exact .node opened (conditional_all tested (by omega) arms false) rfl
      (fun part member => member) rfl

/-! ### Loops -/

include descends in
theorem stepClause_lays : layout.LaysNodes Option.toList place (stepClause self) := by
  refine .ifEat nofun (fun _ next passes => ?_) (.pure (.nothing (Nat.le_refl _)))
  have gap := passes.gap
  have passed := passes.passed
  refine .bind (descends .expression next).behind fun step last _ _ all => .pure ?_
  exact all.before (by omega)

include descends in
theorem forLoop_lays (inner : place.current.kind ≠ .endOfFile) :
    layout.LaysNode place (forLoop self) := by
  refine .advance inner fun start opened => ?_
  refine .bind label_lays fun label labelled labelPassed _ _ => ?_
  refine .identifier fun name _ named nameRead => ?_
  have nameGap := nameRead.gap
  have namePassed := nameRead.passed
  refine .ifEat nofun (fun _ assigned signRead => ?_) (.ifEat nofun (fun _ asked wordRead => ?_)
    .unexpected)
  · have signGap := signRead.gap
    have signPassed := signRead.passed
    refine .bind (descends .expression assigned).behind fun first firstEnd _ _ firstAll => ?_
    refine .expect nofun fun _ toward toRead => ?_
    refine .bind (descends .expression toward).behind fun last lastEnd _ _ lastAll => ?_
    refine .bind (stepClause_lays descends) fun step stepEnd _ _ stepAll => ?_
    refine .expect nofun fun _ entered thenRead => ?_
    refine .bind (loopBody_lays descends _ _) fun body bodyEnd _ _ bodyAll => ?_
    have toGap := toRead.gap
    have toPassed := toRead.passed
    have thenGap := thenRead.gap
    have thenPassed := thenRead.passed
    have onward : start.behind ≤ assigned.behind := by omega
    have bounds := (firstAll.before onward).andThen (by omega) lastAll
    have header := bounds.andThen (Nat.le_refl _) stepAll
    refine .node opened (header.andThen (by omega) bodyAll) rfl (fun part member => ?_) rfl
    simp only [formParts, loopParts, List.mem_cons, List.mem_append] at member ⊢
    grind
  · have wordGap := wordRead.gap
    have wordPassed := wordRead.passed
    refine .bind (descends .expression asked).behind fun items itemsEnd _ _ itemsAll => ?_
    refine .expect nofun fun _ entered thenRead => ?_
    refine .bind (loopBody_lays descends _ _) fun body bodyEnd _ _ bodyAll => ?_
    have thenGap := thenRead.gap
    have thenPassed := thenRead.passed
    have onward : start.behind ≤ asked.behind := by omega
    have header := itemsAll.before onward
    refine .node opened (header.andThen (by omega) bodyAll) rfl (fun part member => ?_) rfl
    simp only [formParts, loopParts, List.mem_cons, List.mem_append] at member ⊢
    grind

include descends in
theorem whileLoop_lays (inner : place.current.kind ≠ .endOfFile) :
    layout.LaysNode place (whileLoop self) := by
  refine .advance inner fun start opened => ?_
  refine .bind label_lays fun label labelled labelPassed _ _ => ?_
  refine .bind (descends .expression labelled).behind fun condition tested _ _ header => ?_
  refine .expect nofun fun _ entered thenRead => ?_
  refine .bind (loopBody_lays descends _ _) fun body bodyEnd _ _ bodyAll => ?_
  have thenGap := thenRead.gap
  have thenPassed := thenRead.passed
  refine .node opened ((header.before labelPassed).andThen (by omega) bodyAll) rfl
    (fun part member => ?_) rfl
  simp only [formParts, loopParts, List.mem_cons, List.mem_append] at member ⊢
  grind

include descends in
theorem endlessLoop_lays (inner : place.current.kind ≠ .endOfFile) :
    layout.LaysNode place (endlessLoop self) := by
  refine .advance inner fun start opened => ?_
  refine .bind label_lays fun label labelled labelPassed _ _ => ?_
  refine .bind (.eat nofun) fun _ entered thenPassed _ _ => ?_
  refine .bind (loopBody_lays descends _ _) fun body bodyEnd _ _ bodyAll => ?_
  exact .node opened (bodyAll.before (by omega)) rfl (fun part member => member) rfl

include descends in
theorem doBody_lays (span : Span) :
    layout.LaysNodes (fun body => [body.1]) place (doBody self span) := by
  refine .ifAt (fun _ => ?_) ?_
  · exact .bind (closedBlock_lays descends _ span _) fun body next _ _ all => .pure all
  · refine .bind (descends .statement place).behind fun body next _ _ all => ?_
    refine .expect nofun fun _ last passes => .pure ?_
    have gap := passes.gap
    have passed := passes.passed
    exact all.upTo (by omega)

include descends in
theorem doLoop_lays (inner : place.current.kind ≠ .endOfFile) :
    layout.LaysNode place (doLoop self) := by
  refine .advance inner fun start opened => ?_
  refine .bind label_lays fun label labelled labelPassed _ _ => ?_
  refine .bind (doBody_lays descends _) fun body bodyEnd _ _ bodyAll => ?_
  refine .expect nofun fun _ again loopRead => ?_
  refine .expect nofun fun _ asked whileRead => ?_
  refine .bind (descends .expression asked).behind fun condition tested _ _ header => ?_
  have loopGap := loopRead.gap
  have loopPassed := loopRead.passed
  have whileGap := whileRead.gap
  have whilePassed := whileRead.passed
  exact .node opened ((bodyAll.before labelPassed).andThen (by omega) header) rfl
    (fun part member => member) rfl

/-! ### Functions and classes -/

/-- The defaults of the parameters read so far. -/
def defaultsOf (given : Parameters) : List Node :=
  given.optional.map Prod.snd

include descends in
theorem parameter_lays {low : Nat} {given : Parameters}
    (all : layout.AllBetween low (defaultsOf given) place.behind) :
    layout.Lays place (parameter self given) fun extended next =>
      layout.AllBetween low (defaultsOf extended) next.behind := by
  refine .identifier fun name _ next passes => ?_
  have gap := passes.gap
  have passed := passes.passed
  dsimp only
  split
  · exact .failAt
  refine .ifEat nofun (fun _ further signRead => ?_) ?_
  · have signGap := signRead.gap
    have signPassed := signRead.passed
    refine .bind (descends .expression further).behind fun value last _ _ default => .pure ?_
    have listed : defaultsOf { given with optional := given.optional ++ [(name, value)] } =
        defaultsOf given ++ [value] := List.map_append
    rw [listed]
    exact all.andThen (by omega) default
  · split
    · exact .failAt
    · exact .pure (all.upTo (by omega))

include descends in
theorem parameterList_lays {low : Nat} (fuel : Nat) {given : Parameters}
    (all : layout.AllBetween low (defaultsOf given) place.behind) :
    layout.Lays place (parameterList self fuel given) fun extended next =>
      layout.AllBetween low (defaultsOf extended) next.behind := by
  induction fuel generalizing place given with
  | zero => exact parameter_lays descends all
  | succ fuel ih =>
      refine .bind (parameter_lays descends all) fun extended next _ _ read => ?_
      refine .ifEat nofun (fun _ further passes => ?_) (.pure read)
      have gap := passes.gap
      have passed := passes.passed
      exact ih (read.upTo (by omega))

include descends in
theorem parameters_lays : layout.LaysNodes defaultsOf place (parameters self) := by
  refine .expect nofun fun _ start opened => ?_
  have gap := opened.gap
  have passed := opened.passed
  have none : layout.AllBetween start.behind (defaultsOf ⟨[], []⟩) start.behind :=
    .nothing (Nat.le_refl _)
  have read : layout.LaysNodes defaultsOf start
      (isAt (.closing .round) >>= fun found => if found = true then pure ⟨[], []⟩
        else repeated fun fuel => parameterList self fuel ⟨[], []⟩) :=
    .ifAt (fun _ => .pure none) (.repeated fun fuel => parameterList_lays descends fuel none)
  refine .bind read fun given next _ _ all => .expect nofun fun _ last closed => .pure ?_
  have closedGap := closed.gap
  have closedPassed := closed.passed
  exact (all.before (by omega)).upTo (by omega)

include descends in
theorem function_lays (inner : place.current.kind ≠ .endOfFile) :
    layout.LaysNode place (function self) := by
  refine .advance inner fun start opened => ?_
  refine .bind functionName_lays fun name named namePassed _ _ => ?_
  refine .bind (parameters_lays descends) fun given listed _ _ defaults => ?_
  have members : ∀ body arrow, ∀ part ∈ formParts (.function name given.required given.optional
      body arrow), part ∈ defaultsOf given ++ [body] := by
    intro body arrow part member
    simp only [formParts, defaultsOf, List.mem_cons, List.mem_append] at member ⊢
    grind
  have header := defaults.before namePassed
  refine .ifEat (by simp) (fun _ next passes => ?_) (.ifAt (fun _ => ?_) .unexpected)
  · have gap := passes.gap
    have passed := passes.passed
    refine .bind (descends .expression next).behind fun body last _ _ all => ?_
    exact .node opened (header.andThen (by omega) all) rfl (members body true) rfl
  · refine .bind (closedBlock_lays descends _ _ _) fun body last _ _ all => ?_
    exact .node opened (header.andThen (Nat.le_refl _) all) rfl (members body false) rfl

include descends in
theorem parentClause_lays : layout.LaysNodes Option.toList place (parentClause self) := by
  refine .ifEat nofun (fun _ next opened => ?_) (.pure (.nothing (Nat.le_refl _)))
  refine .bind (descends .chain next).behind fun parent read _ _ all => ?_
  refine .expect nofun fun _ last closed => .pure ?_
  have gap := opened.gap
  have passed := opened.passed
  have closedGap := closed.gap
  have closedPassed := closed.passed
  exact (all.before (by omega)).upTo (by omega)

include descends in
theorem classDefinition_lays (inner : place.current.kind ≠ .endOfFile) :
    layout.LaysNode place (classDefinition self) := by
  refine .advance inner fun start opened => ?_
  refine .identifier fun name _ named nameRead => ?_
  refine .bind (parentClause_lays descends) fun parent listed _ _ extended => ?_
  have nameGap := nameRead.gap
  have namePassed := nameRead.passed
  have members : ∀ body, ∀ part ∈ formParts (.classDef name parent body),
      part ∈ parent.toList ++ [body] := by
    intro body part member
    simp only [formParts, List.mem_cons, List.mem_append] at member ⊢
    grind
  have onward : start.behind ≤ named.behind := by omega
  have header := extended.before onward
  refine .ifEat (by simp) (fun _ next passes => ?_) (.ifAt (fun _ => ?_) .unexpected)
  · have gap := passes.gap
    have passed := passes.passed
    refine .bind (descends .statement next).behind fun body last _ _ all => ?_
    exact .node opened (header.andThen (by omega) all) rfl (members body) rfl
  · refine .bind (closedBlock_lays descends _ _ _) fun body last _ _ all => ?_
    exact .node opened (header.andThen (Nat.le_refl _) all) rfl (members body) rfl

/-! ### Operators -/

omit self in
/-- A token of a kind other than the end of the file is not the last one. -/
theorem inner_of {kind : TokenKind} (found : place.current.kind = kind)
    (inner : kind ≠ .endOfFile) : place.current.kind ≠ .endOfFile :=
  found ▸ inner

include descends in
theorem atom_lays : layout.LaysNode place (atom self) := by
  refine .peek ?_
  cases kind : place.current.kind with
  | int value =>
      refine .advance (inner_of kind nofun) fun next passes => ?_
      exact number_lays (token_between passes rfl rfl rfl)
  | float value =>
      refine .advance (inner_of kind nofun) fun next passes => ?_
      exact number_lays (token_between passes rfl rfl rfl)
  | text value =>
      refine .advance (inner_of kind nofun) fun next passes => .pure ?_
      exact token_between passes rfl rfl rfl
  | identifier name =>
      refine .advance (inner_of kind nofun) fun next passes => .pure ?_
      exact token_between passes rfl rfl rfl
  | symbol mark =>
      cases mark with
      | dollar =>
          refine .advance (inner_of kind nofun) fun next opened => ?_
          refine .identifier fun name _ last passes => ?_
          have gap := passes.gap
          have passed := passes.passed
          exact .node opened (.nothing (by omega)) rfl nofun rfl
      | _ => exact .unexpected
  | opening bracket =>
      cases bracket with
      | round => exact bracketed_lays descends (inner_of kind nofun)
      | square => exact listLiteral_lays descends (inner_of kind nofun)
  | keyword word =>
      cases word with
      | defaultWord =>
          refine .advance (inner_of kind nofun) fun next passes => .pure ?_
          exact token_between passes rfl rfl rfl
      | ifWord => exact conditional_lays descends (inner_of kind nofun)
      | forWord => exact forLoop_lays descends (inner_of kind nofun)
      | whileWord => exact whileLoop_lays descends (inner_of kind nofun)
      | doWord => exact doLoop_lays descends (inner_of kind nofun)
      | loopWord => exact endlessLoop_lays descends (inner_of kind nofun)
      | defWord => exact function_lays descends (inner_of kind nofun)
      | classWord => exact classDefinition_lays descends (inner_of kind nofun)
      | _ => exact .unexpected
  | _ => exact .unexpected

include descends in
theorem chain_lays : layout.LaysNode place (chain self) := by
  refine .bind (atom_lays descends) fun atom next _ _ between => ?_
  refine .bind (called_lays descends between) fun base called _ _ base' => ?_
  refine .bind (.repeated (attributeSteps_lays descends)) fun steps last _ _ all => ?_
  exact .known fun laid => .pure (attributeChain_between base' all laid.behind_le)

include descends in
theorem power_lays : layout.LaysNode place (power self) := by
  refine .bind (chain_lays descends) fun base next _ _ first => ?_
  refine .ifEat nofun (fun _ raised passes => .known fun laid => ?_) (.pure first)
  refine .bind (descends .factor raised) fun exponent last _ _ second => ?_
  have gap := passes.gap
  have passed := passes.passed
  have ahead := laid.gap
  exact .known fun laid => .pure (binaryNode_between .pow first (by omega) second laid.behind_le)

include descends in
theorem factor_lays : layout.LaysNode place (factor self) := by
  refine .peek ?_
  split
  · rename_i op found
    have inner : place.current.kind ≠ .endOfFile := by
      intro ended
      rw [ended] at found
      cases found
    refine .advance inner fun next opened => ?_
    refine .bind (descends .factor next).behind fun operand last _ _ all => ?_
    exact .node opened all rfl (fun part member => member) rfl
  · exact power_lays descends

theorem leftGrouped_lays {low : Nat} {op? : TokenKind → Option BinaryOp} {operand : Reader Node}
    (ends : op? .endOfFile = none) (operands : ∀ place, layout.LaysNode place operand) (fuel : Nat)
    {left : Node} (between : layout.Between low left place.behind) :
    layout.Lays place (leftGrouped op? operand fuel left) fun node next =>
      layout.Between low node next.behind := by
  induction fuel generalizing place left with
  | zero => exact .pure between
  | succ fuel ih =>
      refine .peek ?_
      split
      · rename_i op found
        have inner : place.current.kind ≠ .endOfFile := by
          intro ended
          rw [ended, ends] at found
          cases found
        refine .advance inner fun next passes => .known fun laid => ?_
        refine .bind (operands next) fun right last _ _ second => .known fun beyond => ?_
        have gap := passes.gap
        have passed := passes.passed
        have ahead := laid.gap
        exact ih (binaryNode_between op between (by omega) second beyond.behind_le)
      · exact .pure between

theorem binaryLevel_lays {op? : TokenKind → Option BinaryOp} {operand : Reader Node}
    (ends : op? .endOfFile = none) (operands : ∀ place, layout.LaysNode place operand) :
    layout.LaysNode place (binaryLevel op? operand) :=
  .bind (operands place) fun _ _ _ _ between =>
    .repeated fun fuel => leftGrouped_lays ends operands fuel between

include descends in
theorem term_lays : layout.LaysNode place (term self) :=
  binaryLevel_lays rfl fun _ => factor_lays descends

include descends in
theorem sum_lays : layout.LaysNode place (sum self) :=
  binaryLevel_lays rfl fun _ => term_lays descends

theorem comparisonLinks_lays {operand : Reader Node}
    (operands : ∀ place, layout.LaysNode place operand) (fuel : Nat) :
    layout.LaysNodes (List.map Prod.snd) place (comparisonLinks operand fuel) := by
  induction fuel generalizing place with
  | zero => exact .pure (.nothing (Nat.le_refl _))
  | succ fuel ih =>
      refine .peek ?_
      split
      · rename_i op found
        have inner : place.current.kind ≠ .endOfFile := by
          intro ended
          rw [ended] at found
          cases found
        refine .advance inner fun next passes => ?_
        have gap := passes.gap
        have passed := passes.passed
        refine .bind (operands next).behind fun right read _ _ all => ?_
        refine .bind ih fun others last _ _ rest => .pure ?_
        exact (all.before (by omega)).andThen (Nat.le_refl _) rest
      · exact .pure (.nothing (Nat.le_refl _))

include descends in
theorem comparison_lays : layout.LaysNode place (comparison self) := by
  refine .peek ?_
  split
  · rename_i kind
    refine .advance (inner_of kind nofun) fun next opened => ?_
    refine .bind (descends .comparison next).behind fun operand last _ _ all => ?_
    exact .node opened all rfl (fun part member => member) rfl
  · refine .bind (sum_lays descends) fun first read _ _ between => ?_
    refine .bind (.repeated (comparisonLinks_lays fun _ => sum_lays descends))
      fun links last _ _ rest => .known fun laid => ?_
    split
    · rename_i op final ends
      have parts := between.all.andThen (Nat.le_refl _) rest
      have finalNode : (first :: links.map Prod.snd).getLast? = some final := by
        rw [List.getLast?_cons, List.getLast?_map, ends]
        rfl
      exact .pure (parts.through between.filled finalNode laid.behind_le rfl rfl rfl)
    · exact .pure (between.upTo rest.row.le)

include descends in
theorem logic_lays : layout.LaysNode place (logic self) :=
  binaryLevel_lays rfl fun _ => comparison_lays descends

theorem fallbackOperands_lays {operand : Reader Node}
    (operands : ∀ place, layout.LaysNode place operand) (fuel : Nat) :
    layout.LaysNodes id place (fallbackOperands operand fuel) := by
  induction fuel generalizing place with
  | zero => exact .pure (.nothing (Nat.le_refl _))
  | succ fuel ih =>
      refine .ifEat nofun (fun _ next passes => ?_) (.pure (.nothing (Nat.le_refl _)))
      have gap := passes.gap
      have passed := passes.passed
      refine .bind (operands next).behind fun operand read _ _ all => ?_
      refine .bind ih fun others last _ _ rest => .pure ?_
      exact (all.before (by omega)).andThen (Nat.le_refl _) rest

include descends in
theorem fallback_lays : layout.LaysNode place (fallback self) := by
  refine .bind (logic_lays descends) fun first read _ _ between => ?_
  refine .bind (.repeated (fallbackOperands_lays fun _ => logic_lays descends))
    fun others last _ _ rest => .known fun laid => ?_
  split
  · rename_i final ends
    have parts : layout.AllBetween place.ahead (first :: others) last.behind :=
      between.all.andThen (Nat.le_refl _) rest
    have finalNode : (first :: others).getLast? = some final := by
      rw [List.getLast?_cons, ends]
      rfl
    exact .pure (parts.through between.filled finalNode laid.behind_le rfl rfl rfl)
  · exact .pure (between.upTo rest.row.le)

/-! ### Assignments -/

omit self in
theorem ownerOf_between {low middle high : Nat} {base : Node} {steps : List Node}
    (between : layout.Between low base middle) (all : layout.AllBetween middle steps high)
    (within : high ≤ layout.limit) : ∀ owner ∈ ownerOf base steps,
      layout.Between low owner high := by
  intro owner owns
  cases steps with
  | nil => cases owns
  | cons step steps =>
      cases owns
      exact attributeChain_between between (all.sublist (List.dropLast_sublist _)) within

/-- A target stands in the text, and the object that owns what is set stands in it. -/
structure HoldsTarget (layout : Layout) (target : Target Node) : Prop where
  holds : layout.Holds target.span
  owner : ∀ owner ∈ target.object, Inside owner.span target.span ∧ layout.Tidy owner

include descends in
theorem target_lays : layout.Lays place (target self) fun target next =>
    Row place.behind [target.span] next.behind ∧ layout.HoldsTarget target := by
  refine .known fun laid => .peek ?_
  refine .bind (calledName_lays descends _) fun first read _ _ between => ?_
  refine .bind (.repeated (attributeSteps_lays descends)) fun others last _ _ all => ?_
  refine .known fun there => ?_
  have behind := between.behind
  have filled := between.filled
  have reaches := between.reaches
  have onward := all.row.le
  have gap := laid.gap
  have passed : place.ahead < last.behind := by omega
  refine .spanFrom passed ?_
  dsimp only
  split
  · refine .pure ⟨.single gap (Nat.le_of_lt passed) (Nat.le_refl _), ?_, ?_⟩
    · exact ⟨laid.starts, passed, there.behind_le⟩
    · intro owner owns
      have whole := ownerOf_between between all there.behind_le owner owns
      exact ⟨⟨whole.behind, whole.reaches⟩, whole.tidy⟩
  · exact .failAt

include descends in
theorem assignment_lays (inner : place.current.kind ≠ .endOfFile) :
    layout.LaysNode place (assignment self) := by
  refine .advance inner fun start opened => ?_
  have values : ∀ place, layout.Lays place (self .expression) fun value next =>
      Row place.behind [value.span] next.behind ∧ layout.Tidy value := fun place =>
    (descends .expression place).behind.mono fun value next _ _ all =>
      ⟨all.row, all.tidy value List.mem_cons_self⟩
  refine .bind (.repeated (commaSeparated_lays (fun target : Target Node => target.span)
    layout.HoldsTarget fun _ => target_lays descends)) fun targets named _ _ first => ?_
  refine .peek ?_
  split
  · rename_i op found
    have inner : named.current.kind ≠ .endOfFile := by
      intro ended
      rw [ended] at found
      cases found
    refine .advance inner fun next passes => ?_
    refine .bind (.repeated (commaSeparated_lays (fun value : Node => value.span)
      layout.Tidy values)) fun given last _ _ second => ?_
    have begins := opened.start
    have opens := opened.passed
    have gap := passes.gap
    have passed := passes.passed
    have row := first.1.append (second.1.before (by omega))
    have reaches := row.le
    refine .nodeFrom opened.holds.starts (by omega) (by omega) (row.before (by omega)) ?_ ?_
    · intro target member
      have stands := first.2 target member
      exact ⟨stands.holds, fun owner owns => (stands.owner owner owns).1⟩
    · intro part member
      rcases List.mem_append.mp member with owner | value
      · rcases List.mem_flatMap.mp owner with ⟨target, within, owns⟩
        exact ((first.2 target within).owner part (Option.mem_toList.mp owns)).2
      · exact second.2 part value
  · exact .unexpected

/-! ### Statements -/

theorem deletion_lays (inner : place.current.kind ≠ .endOfFile) :
    layout.LaysNode place deletion := by
  refine .advance inner fun start opened => .identifier fun name _ last passes => ?_
  have gap := passes.gap
  have passed := passes.passed
  exact .node opened (.nothing (by omega)) rfl nofun rfl

include descends in
theorem writeStatement_lays (inner : place.current.kind ≠ .endOfFile) :
    layout.LaysNode place (writeStatement self) := by
  refine .advance inner fun start opened => ?_
  refine .bind (descends .expression start).behind fun text written _ _ first => ?_
  refine .bind redirection_lays fun overwrite directed passed _ _ => ?_
  refine .bind (descends .expression directed).behind fun target read _ _ second => ?_
  refine .bind (attempt_lays (descends .expression read)) fun line last _ _ third => ?_
  have all := (first.andThen passed second).andThen (Nat.le_refl _) third
  exact .node opened all rfl (fun part member => member) rfl

include descends in
theorem readStatement_lays (inner : place.current.kind ≠ .endOfFile) :
    layout.LaysNode place (readStatement self) := by
  refine .advance inner fun start opened => ?_
  refine .bind (descends .expression start).behind fun target read _ _ first => ?_
  refine .bind readInto_lays fun variableName named passed _ _ => ?_
  refine .bind (attempt_lays (descends .expression named)) fun line last _ _ second => ?_
  exact .node opened (first.andThen passed second) rfl (fun part member => member) rfl

include descends in
theorem assertionMessage_lays : layout.LaysNodes Option.toList place (assertionMessage self) := by
  refine .ifEat nofun (fun _ next passes => ?_) (.pure (.nothing (Nat.le_refl _)))
  have gap := passes.gap
  have passed := passes.passed
  refine .bind (descends .expression next).behind fun message last _ _ all => .pure ?_
  exact all.before (by omega)

include descends in
theorem assertionStatement_lays (inner : place.current.kind ≠ .endOfFile) :
    layout.LaysNode place (assertionStatement self) := by
  refine .advance inner fun start opened => ?_
  refine .bind (descends .expression start).behind fun condition read _ _ first => ?_
  refine .bind (assertionMessage_lays descends) fun message last _ _ second => ?_
  exact .node opened (first.andThen (Nat.le_refl _) second) rfl (fun part member => member) rfl

include descends in
theorem expression_lays : layout.LaysNode place (expression self) := by
  refine .peek ?_
  split
  · rename_i kind
    exact assignment_lays descends (inner_of kind nofun)
  · rename_i kind
    exact deletion_lays (inner_of kind nofun)
  · rename_i kind
    exact writeStatement_lays descends (inner_of kind nofun)
  · rename_i kind
    exact readStatement_lays descends (inner_of kind nofun)
  · rename_i kind
    exact assertionStatement_lays descends (inner_of kind nofun)
  · exact fallback_lays descends

include descends in
theorem returnStatement_lays (inner : place.current.kind ≠ .endOfFile) :
    layout.LaysNode place (returnStatement self) := by
  refine .advance inner fun start opened => ?_
  refine .bind (attempt_lays (descends .expression start)) fun value last _ _ all => ?_
  exact .node opened all rfl (fun part member => member) rfl

theorem breakStatement_lays (inner : place.current.kind ≠ .endOfFile) :
    layout.LaysNode place breakStatement := by
  refine .advance inner fun start opened => ?_
  refine .bind label_lays fun label last passed _ _ => ?_
  exact .node opened (.nothing passed) rfl nofun rfl

theorem continueStatement_lays (inner : place.current.kind ≠ .endOfFile) :
    layout.LaysNode place continueStatement := by
  refine .advance inner fun start opened => ?_
  refine .bind label_lays fun label last passed _ _ => ?_
  exact .node opened (.nothing passed) rfl nofun rfl

theorem importStatement_lays (inner : place.current.kind ≠ .endOfFile) :
    layout.LaysNode place importStatement := by
  refine .advance inner fun start opened => .identifier fun name _ named passes => ?_
  refine .bind (nameAfterAs_lays _) fun rename last onward _ _ => ?_
  have gap := passes.gap
  have passed := passes.passed
  exact .node opened (.nothing (by omega)) rfl nofun rfl

include descends in
theorem exportStatement_lays (inner : place.current.kind ≠ .endOfFile) :
    layout.LaysNode place (exportStatement self) := by
  refine .advance inner fun start opened => ?_
  refine .bind (descends .expression start).behind fun value read _ _ all => ?_
  refine .bind (nameAfterAs_lays _) fun given last onward _ _ => ?_
  split
  · exact .node opened (all.upTo onward) rfl (fun part member => member) rfl
  · exact .unexpected

include descends in
theorem statement_lays : layout.LaysNode place (statement self) := by
  refine .peek ?_
  split
  · rename_i kind
    exact returnStatement_lays descends (inner_of kind nofun)
  · rename_i kind
    exact breakStatement_lays (inner_of kind nofun)
  · rename_i kind
    exact continueStatement_lays (inner_of kind nofun)
  · rename_i kind
    exact importStatement_lays (inner_of kind nofun)
  · rename_i kind
    exact exportStatement_lays descends (inner_of kind nofun)
  · exact expression_lays descends

end Readers

/-! ## The whole grammar -/

theorem laysAll_level (descends : layout.LaysAll self) : layout.LaysAll (level self) := by
  intro entry place
  cases entry with
  | statement => exact statement_lays descends
  | expression => exact expression_lays descends
  | comparison => exact comparison_lays descends
  | factor => exact factor_lays descends
  | chain => exact chain_lays descends

theorem laysAll_descend (depth : Nat) : layout.LaysAll (descend depth) := by
  induction depth with
  | zero =>
      intro entry place laid value next read
      cases read
  | succ depth ih => exact laysAll_level ih

theorem program_lays (descends : layout.LaysAll self) :
    layout.Lays place (program self) fun tree _ => layout.Tidy tree := by
  refine .bind (statements_lays descends []) fun body next _ _ all => ?_
  exact .ifAt (fun _ => .pure (all.tidy body List.mem_cons_self)) .unexpected

end Layout
end Grammar
end Scripting
