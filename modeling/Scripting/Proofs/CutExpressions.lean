import Scripting.Proofs.CutBodies

namespace Scripting
namespace Grammar

/-!
Expressions and statements in tokens that are cut off.

An expression that is given up in one list and not in the other leaves a place that the
operators behind it do not get past.  All other expressions and statements are read alike up
to the newline, and blocks inside them are reported as they are on their own.  Round brackets
around an expression are not in its span, but the newlines that are passed with them stand
right behind the bracket that opens or in front of the one that closes.
-/

open Lexical (Bracket Keyword Symbol Token TokenKind)
open Source (Position Span)
open Program

variable {α β : Type} {cut : Cut} {fault : ParseError} {bound smaller : Nat}
  {start place next : Place} {lost : Prop} {stops leaves : Place → Prop}

/-! ## Atoms -/

theorem exponentSign_cuts : CutsPlain cut fault bound place exponentSign :=
  .ifEat nofun nofun nofun (fun _ _ _ sign => .pure sign.stays id)
    (.eat nofun nofun fun _ _ sign => .pure sign.stays id)

/-- A node that a few tokens make up. -/
theorem Reported.tokens {span : Span} {form : Form Node} (reaches : cut.Reaches place next)
    (none : firmParts form = []) (blockless : ∀ word closer body, ¬ BlockBody form word closer body) :
    Reported cut fault place [⟨span, form⟩] next :=
  .node (.nothing reaches) none blockless

/-- The digits of an exponent are negated alike in both lists. -/
theorem signedDigits_cuts {negative : Bool} {digits : Int64} {span : Span} :
    Cuts cut fault bound place False none (signedDigits negative digits span)
      (fun _ next => next = place) fun _ => False := by
  intro laid within power next read
  have unchecked : (cut.shorten place).checked = false := laid.unchecked
  rw [signedDigits_unchecked laid.unchecked] at read
  cases read
  exact ⟨.refl place, id, .inr ⟨fun _ => rfl, fun _ => signedDigits_unchecked unchecked⟩⟩

theorem number_cuts {value : Literal} {span : Span} (reaches : cut.Reaches start place) :
    Cuts cut fault bound place False none (number value span)
      (fun node next => Reported cut fault start [node] next) Stuck := by
  have literal {next : Place} (reaches : cut.Reaches start next) :
      Reported cut fault start [⟨span, .number value⟩] next := .tokens reaches rfl fun _ _ _ => nofun
  refine .ifEat nofun nofun nofun (fun behind _ _ mark => ?_) (.pure (literal reaches) False.elim)
  refine .peek (.bind exponentSign_cuts fun negative signed moves => .peek ?_)
  split
  · rename_i digits kind
    refine .advance kind nofun nofun fun last _ _ passed => ?_
    refine .bind signedDigits_cuts fun power reached _ => .thenNode (.pure ?_ False.elim)
    rintro rfl sign
    have all := (reaches.trans mark).trans (Cut.Reaches.trans ⟨moves, sign⟩ passed)
    have exponent {span : Span} {digits : Literal} :
        Reported cut fault reached [⟨span, .number digits⟩] reached :=
      .tokens (.refl cut reached) rfl fun _ _ _ => nofun
    exact .node ((literal all).andThen exponent) rfl fun _ _ _ => nofun
  · exact .unexpected

/-- The newlines that are passed behind a bracket are next to it. -/
theorem bracketed_of_opening (laid : cut.layout.Laid place)
    (round : place.current.kind = .opening .round) (before : cut.Before place)
    (past : ¬ cut.Before place.advance.skipped) : Bracketed cut.before cut.after := by
  have inner : place.current.kind ≠ .endOfFile := by
    rw [round]
    nofun
  have laidBehind := (laid.advance inner).1
  have beforeBehind := (before.advance laid (by rw [round]; nofun)).1
  rcases beforeBehind.crossed laidBehind past with ⟨gap, -, split, -, newlines, -, -⟩
  rcases before.front laid with ⟨front, ⟨passed, whole⟩, here⟩
  have tokens : place.tokens = place.current :: place.advance.tokens :=
    Place.tokens_advance laid.near.closed_here inner
  rw [tokens, split, ← List.cons_append] at here
  have same : place.current :: gap = front := (List.append_inj' here rfl).1
  exact .inl ⟨passed, place.current, gap, by rw [same, whole], round, newlines⟩

/-- The newlines that are passed in front of a bracket are next to it. -/
theorem bracketed_of_closing (laid : cut.layout.Laid place)
    (round : place.skipped.current.kind = .closing .round) (before : cut.Before place)
    (past : ¬ cut.Before place.skipped) : Bracketed cut.before cut.after := by
  rcases before.crossed laid past with ⟨-, gap, -, -, -, split, newlines⟩
  exact .inr ⟨gap, place.skipped.current, place.skipped.rest, split, round, newlines⟩

theorem bracketed_cuts (trimmed : Trimmed cut fault bound)
    (round : place.current.kind = .opening .round) :
    Cuts cut fault bound place False none (bracketed grammar)
      (fun node next => Reported cut fault place [node] next) fun _ => False := by
  refine .known fun laid => .opening round nofun nofun fun smaller less _ => ?_
  refine .skipNewlines fun start opens => ?_
  refine .bind (trimmed .expression start _ less) fun inner last _ => .known fun laidLast => ?_
  refine .skipNewlines fun closer closes => ?_
  subst opens closes
  by_cases closing : last.skipped.current.kind = .closing .round
  swap
  · have failed : expect (.closing .round) last.skipped = .error _ := if_neg closing
    intro _ _ value next read
    rw [bind_error failed] at read
    cases read
  refine .expect nofun nofun (fun stuck => ?_) fun next closed => .pure (fun given => ?_) id
  · rw [Place.skipped_of_ne (stuck.ne rfl)]
    exact stuck.ne rfl
  refine ⟨given.right, fun before past => ?_⟩
  by_cases begun : cut.Before place.advance.skipped
  · by_cases ended : cut.Before last
    · have far : ¬ cut.Before last.skipped := fun before => past (closed.stays before)
      exact .inl (bracketed_of_closing laidLast closing ended far)
    · exact given.held begun ended
  · exact .inl (bracketed_of_opening laid round before begun)

/-! ## Lists in brackets -/

theorem Stuck.skipped (stuck : Stuck place) : Stuck place.skipped := by
  rw [Place.skipped_of_ne (stuck.ne rfl)]
  exact stuck

theorem bracketedItems_cuts (trimmed : Trimmed cut fault bound) (less : smaller < bound)
    (fuel : Nat) :
    Cuts cut fault smaller place False none (bracketedItems (grammar .expression) fuel)
      (fun nodes _ => AllRight cut fault nodes) Stuck := by
  induction fuel generalizing place with
  | zero =>
      exact .bind (trimmed .expression place _ less) fun first next _ => .pure Reported.right id
  | succ fuel ih =>
      refine .bind (trimmed .expression place _ less) fun first next _ => ?_
      refine .skipNewlines fun behind same => ?_
      subst same
      refine .ifEat nofun nofun (fun stuck => stuck.skipped.ne rfl)
        (fun comma _ below _ => .shrink below ?_) (.pure Reported.right Stuck.skipped)
      refine .skipNewlines fun later _ => .bind ih fun others last _ => .pure ?_ id
      exact fun others first => .cons (first.right _ List.mem_cons_self) others

theorem arguments_cuts (trimmed : Trimmed cut fault bound) (less : smaller < bound) :
    Cuts cut fault smaller place False none (arguments grammar)
      (fun nodes _ => AllRight cut fault nodes) fun _ => False := by
  refine .skipNewlines fun first _ => .ifEat nofun nofun nofun (fun _ _ _ _ => .pure .nil id) ?_
  refine .bind (.repeated .items fun fuel _ => bracketedItems_cuts trimmed less fuel)
    fun given last _ => ?_
  exact .expect nofun nofun (fun stuck => stuck.ne rfl) fun next _ => .pure id id

theorem listLiteral_cuts (trimmed : Trimmed cut fault bound)
    (found : place.current.kind = .opening .square) :
    Cuts cut fault bound place False none (listLiteral grammar)
      (fun node next => Reported cut fault place [node] next) fun _ => False := by
  refine .opened (.advance found nofun nofun fun start smaller less _ => ?_)
  have elements : Cuts cut fault smaller start False none (listElements grammar)
      (fun nodes _ => AllRight cut fault nodes) fun _ => False := by
    refine .skipNewlines fun first _ => .ifEat nofun nofun nofun (fun _ _ _ _ => .pure .nil id) ?_
    refine .bind (.repeated .items fun fuel _ => bracketedItems_cuts trimmed less fuel)
      fun given last _ => ?_
    exact .ifEat nofun nofun (fun stuck => stuck.ne rfl) (fun _ _ _ _ => .pure id id) .unexpected
  refine .bind elements fun nodes last _ => .nodeFrom (fun right => ⟨.plain right ?_, rfl⟩) id
  exact fun _ _ _ => nofun

theorem atom_cuts (trimmed : Trimmed cut fault bound) :
    Cuts cut fault bound place False none (atom grammar)
      (fun node next => Reported cut fault place [node] next) Stuck := by
  have never {reader : Reader Node} {right : Node → Place → Prop}
      (cuts : Cuts cut fault bound place False none reader right fun _ => False) :
      Cuts cut fault bound place False none reader right Stuck :=
    cuts.mono (fun _ _ _ _ => id) fun _ => False.elim
  refine .peek ?_
  cases kind : place.current.kind with
  | int value => exact .advance kind nofun nofun fun next _ _ passed => number_cuts passed
  | float value => exact .advance kind nofun nofun fun next _ _ passed => number_cuts passed
  | text value =>
      refine .advance kind nofun nofun fun next _ _ passed => .pure ?_ False.elim
      exact .tokens passed rfl fun _ _ _ => nofun
  | identifier name =>
      refine .advance kind nofun nofun fun next _ _ passed => .pure ?_ False.elim
      exact .tokens passed rfl fun _ _ _ => nofun
  | symbol mark =>
      cases mark with
      | dollar =>
          refine .opened (.advance kind nofun nofun fun next _ _ _ => ?_)
          refine .identifier fun name last _ => .nodeFrom ⟨.plain .nil ?_, rfl⟩ False.elim
          exact fun _ _ _ => nofun
      | _ => exact .unexpected
  | opening bracket =>
      cases bracket with
      | round => exact never (bracketed_cuts trimmed kind)
      | square => exact never (listLiteral_cuts trimmed kind)
  | keyword word =>
      cases word with
      | defaultWord =>
          refine .advance kind nofun nofun fun next _ _ passed => .pure ?_ False.elim
          exact .tokens passed rfl fun _ _ _ => nofun
      | ifWord => exact conditional_cuts trimmed kind
      | forWord => exact forLoop_cuts trimmed kind
      | whileWord => exact whileLoop_cuts trimmed kind
      | doWord => exact doLoop_cuts trimmed kind
      | loopWord => exact endlessLoop_cuts trimmed kind
      | defWord => exact function_cuts trimmed kind
      | classWord => exact classDefinition_cuts trimmed kind
      | _ => exact .unexpected
  | _ => exact .unexpected

/-! ## Calls and attributes -/

/-- A call reaches from its callee to the bracket that closes its arguments. -/
theorem Reported.call {callee : Node} {given : List Node} (laid : cut.layout.Laid place)
    (moves : place.Moves next) (called : Reported cut fault start [callee] place)
    (begins : callee.span.start.index ≤ place.ahead) (right : AllRight cut fault given) :
    Reported cut fault start [⟨next.spanAfter callee.span.start, .call callee given⟩] next := by
  have callee' := called.right _ List.mem_cons_self
  refine ⟨.single (.plain (.cons callee' right) fun _ _ _ => nofun), fun before past => ?_⟩
  by_cases halfway : cut.Before place
  · have inside := inside_of_passed laid moves begins halfway past
    exact .inr ⟨_, List.mem_singleton_self _, _, .self _, inside⟩
  · refine (called.held before halfway).imp id fun ⟨node, member, inner, within, inside⟩ => ?_
    cases List.mem_singleton.mp member
    exact ⟨_, List.mem_singleton_self _, inner, .inside List.mem_cons_self within, inside⟩

theorem callSuffixes_cuts (trimmed : Trimmed cut fault bound) (fuel : Nat) (callee : Node) :
    Cuts cut fault bound place False none (callSuffixes grammar fuel callee)
      (fun node next => Reported cut fault start [callee] place →
        callee.span.start.index ≤ place.ahead → Reported cut fault start [node] next)
      fun _ => False := by
  induction fuel generalizing bound place callee with
  | zero => exact .pure (fun given _ => given) id
  | succ fuel ih =>
      refine .known fun laid => ?_
      refine .ifEat nofun nofun nofun (fun opened smaller less passed => ?_)
        (.pure (fun given _ => given) id)
      refine .bind (arguments_cuts trimmed less) fun given last moves => .thenNode ?_
      refine (ih (trimmed.mono (Nat.le_of_lt less)) _).mono (fun node next _ _ later => ?_)
        fun _ => id
      have onward := passed.moves.trans moves
      intro arguments called begins
      exact later (called.call laid onward begins arguments)
        (Nat.le_trans begins (laid.moves onward).2.2)

theorem called_cuts (trimmed : Trimmed cut fault bound) (callee : Node) :
    Cuts cut fault bound place False none (called grammar callee)
      (fun node next => Reported cut fault start [callee] place →
        callee.span.start.index ≤ place.ahead → Reported cut fault start [node] next)
      fun _ => False :=
  .repeated (.calls callee) fun fuel _ => callSuffixes_cuts trimmed fuel callee

theorem calledName_cuts (trimmed : Trimmed cut fault bound) (expected : Expectation) :
    Cuts cut fault bound place False none (calledName grammar expected)
      (fun node next => Reported cut fault place [node] next) fun _ => False := by
  refine .known fun laid => .identifier fun name next passed => ?_
  have calls : Cuts cut fault bound next False none (called grammar ⟨place.current.span, .name name⟩)
      (fun node last => Reported cut fault place [⟨place.current.span, .name name⟩] next →
        place.ahead ≤ next.ahead → Reported cut fault place [node] last) fun _ => False :=
    called_cuts trimmed _
  refine calls.mono (fun node last _ _ holds => ?_) fun _ => id
  exact holds (.tokens passed rfl fun _ _ _ => nofun) (laid.moves passed.moves).2.2

theorem attributeSteps_cuts (trimmed : Trimmed cut fault bound) (fuel : Nat) :
    Cuts cut fault bound place False none (attributeSteps grammar fuel)
      (fun steps next => Reported cut fault place steps next) fun _ => False := by
  induction fuel generalizing place with
  | zero => exact .pure (.nothing (.refl cut place)) id
  | succ fuel ih =>
      refine .ifEat nofun nofun nofun (fun dot _ below passed => .shrink below ?_)
        (.pure (.nothing (.refl cut place)) id)
      refine .bind (calledName_cuts trimmed _) fun step next _ => .bind ih fun others last _ => ?_
      exact .pure (fun later first => (first.andThen later).reached passed) id

/-- Attributes behind a base. -/
theorem Reported.chain {base : Node} {steps : List Node} {between : Place}
    (first : Reported cut fault place [base] between)
    (later : Reported cut fault between steps next) :
    Reported cut fault place [attributeChain base steps] next := by
  have all := first.andThen later
  unfold attributeChain
  cases ends : steps.getLast? with
  | none =>
      rw [List.getLast?_eq_none_iff.mp ends] at all
      exact all
  | some last => exact .node all rfl fun _ _ _ => nofun

theorem chain_cuts (trimmed : Trimmed cut fault bound) :
    Cuts cut fault bound place False none (chain grammar)
      (fun node next => Reported cut fault place [node] next) (Astray LostBehindChain) := by
  have between : cut.layout.Laid place → ∀ node next, atom grammar place = .ok (node, next) →
      node.span.start.index ≤ next.ahead := by
    intro laid node next read
    rcases Layout.atom_lays (laysAll_grammar _) laid node next read with ⟨laidNext, -, -, stands⟩
    exact Nat.le_trans (Nat.le_of_lt stands.filled) (Nat.le_trans stands.reaches laidNext.gap)
  refine .bind (.also between (atom_cuts trimmed)) fun base atomEnd _ => ?_
  -- Calls and attributes lead on from a lost place to a lost place.
  have calls : Cuts cut fault bound atomEnd (Stuck atomEnd) none (called grammar base)
      (fun node next => Reported cut fault place [base] atomEnd →
        base.span.start.index ≤ atomEnd.ahead → Reported cut fault place [node] next)
      (Astray LostBehindCalls) :=
    .straying ((called_cuts trimmed base).mono (fun _ _ _ _ => id) fun _ => False.elim)
      fun laid _ stuck _ _ read => stuck.called laid.near read
  have attributes {place : Place} : Cuts cut fault bound place (Astray LostBehindCalls place) none
      (repeated (attributeSteps grammar)) (fun steps next => Reported cut fault place steps next)
      (Astray LostBehindChain) :=
    .straying ((Cuts.repeated .steps fun fuel _ => attributeSteps_cuts trimmed fuel).mono
      (fun _ _ _ _ => id) fun _ => False.elim) fun _ _ astray _ _ read => astray.steps read
  refine .bind calls fun callee callsEnd _ => .bind attributes fun steps last _ => .pure ?_ id
  exact fun later called first => (called first.1 first.2).chain later

theorem power_cuts (trimmed : Trimmed cut fault bound) :
    Cuts cut fault bound place False none (power grammar)
      (fun node next => Reported cut fault place [node] next) (Astray LostBehindFactor) := by
  refine .bind (chain_cuts trimmed) fun base next _ => ?_
  refine .straying ?_ fun _ _ astray _ _ read => astray.power read
  refine .ifEat nofun nofun nofun (fun caret smaller less passed => ?_) (.pure id False.elim)
  refine .bind (trimmed .factor caret _ less) fun exponent last _ => .pure ?_ id
  intro second first
  exact .node (first.andThen (second.reached passed)) rfl fun _ _ _ => nofun

theorem ne_of_operator {ω : Type} {op? : TokenKind → Option ω} {kind other : TokenKind} {op : ω}
    (none : op? other = none) (found : op? kind = some op) : kind ≠ other := by
  rintro rfl
  cases none.symm.trans found

theorem factor_cuts (trimmed : Trimmed cut fault bound) :
    Cuts cut fault bound place False none (factor grammar)
      (fun node next => Reported cut fault place [node] next) (Astray LostBehindFactor) := by
  refine .peek ?_
  split
  · rename_i op found
    refine .opened (.advance rfl (ne_of_operator rfl found) (ne_of_operator rfl found)
      fun start smaller less _ => ?_)
    refine .bind (trimmed .factor start _ less) fun operand last _ => .nodeFrom ?_ id
    exact fun given => ⟨.plain given.right fun _ _ _ => nofun, rfl⟩
  · exact power_cuts trimmed

/-! ## Operators -/

section Operators

variable {operand : Reader Node}

/-- Operands of one level, of which the last one may leave a place that is lost. -/
theorem leftGrouped_cuts {op? : TokenKind → Option BinaryOp} (newline : op? .newline = none)
    (ended : op? .endOfFile = none)
    (operands : ∀ place, ∀ smaller ≤ bound, Cuts cut fault smaller place False none operand
      (fun node next => Reported cut fault place [node] next) stops)
    (strays : ∀ {place next : Place}, ∀ fuel left node, cut.layout.Laid place → stops place →
      place.rest.length < fuel → leftGrouped op? operand fuel left place = .ok (node, next) →
        leaves next) (fuel : Nat) (enough : bound < fuel) (left : Node) :
    Cuts cut fault bound place (stops place) none (leftGrouped op? operand fuel left)
      (fun node next => Reported cut fault start [left] place → Reported cut fault start [node] next)
      leaves := by
  induction fuel generalizing bound place left with
  | zero => exact absurd enough (Nat.not_lt_zero _)
  | succ fuel ih =>
      refine .straying ?_ fun laid within lost node next read =>
        strays _ left node laid lost (Nat.lt_of_le_of_lt within enough) read
      refine .peek ?_
      split
      · rename_i op found
        refine .advance rfl (ne_of_operator ended found) (ne_of_operator newline found)
          fun further smaller less passed => ?_
        refine .bind (operands further _ (Nat.le_of_lt less)) fun right last _ => ?_
        have inside (place : Place) (fewer : Nat) (below : fewer ≤ smaller) :=
          operands place fewer (Nat.le_trans below (Nat.le_of_lt less))
        refine (ih inside (by omega) (binaryNode op left right)).mono
          (fun node next _ _ later second first => later ?_) fun _ => id
        exact .node (first.andThen (second.reached passed)) rfl fun _ _ _ => nofun
      · exact .pure id False.elim

theorem binaryLevel_cuts {op? : TokenKind → Option BinaryOp} (newline : op? .newline = none)
    (ended : op? .endOfFile = none)
    (repetition : ∀ left, Repetition fun fuel => leftGrouped op? operand fuel left)
    (operands : ∀ place, ∀ smaller ≤ bound, Cuts cut fault smaller place False none operand
      (fun node next => Reported cut fault place [node] next) stops)
    (strays : ∀ {place next : Place}, ∀ fuel left node, cut.layout.Laid place → stops place →
      place.rest.length < fuel → leftGrouped op? operand fuel left place = .ok (node, next) →
        leaves next) :
    Cuts cut fault bound place False none (binaryLevel op? operand)
      (fun node next => Reported cut fault place [node] next) leaves :=
  .bind (operands place bound (Nat.le_refl _)) fun first _ _ => .tight fun within =>
    .repeated (repetition first) fun fuel enough => leftGrouped_cuts newline ended
      (fun place smaller less => operands place smaller (Nat.le_trans less within)) strays fuel
      enough first

theorem comparisonLinks_cuts
    (operands : ∀ place, ∀ smaller ≤ bound, Cuts cut fault smaller place False none operand
      (fun node next => Reported cut fault place [node] next) stops)
    (strays : ∀ {place next : Place}, ∀ fuel links, cut.layout.Laid place → stops place →
      place.rest.length < fuel → comparisonLinks operand fuel place = .ok (links, next) →
        leaves next) (fuel : Nat) (enough : bound < fuel) :
    Cuts cut fault bound place (stops place) none (comparisonLinks operand fuel)
      (fun links next => Reported cut fault place (links.map Prod.snd) next) leaves := by
  induction fuel generalizing bound place with
  | zero => exact absurd enough (Nat.not_lt_zero _)
  | succ fuel ih =>
      refine .straying ?_ fun laid within lost links next read =>
        strays _ links laid lost (Nat.lt_of_le_of_lt within enough) read
      refine .peek ?_
      split
      · rename_i op found
        refine .advance rfl (ne_of_operator rfl found) (ne_of_operator rfl found)
          fun further smaller less passed => ?_
        refine .bind (operands further _ (Nat.le_of_lt less)) fun right last _ => ?_
        have inside (place : Place) (fewer : Nat) (below : fewer ≤ smaller) :=
          operands place fewer (Nat.le_trans below (Nat.le_of_lt less))
        refine .bind (ih inside (by omega)) fun others ended _ => .pure ?_ id
        exact fun later first => (first.andThen later).reached passed
      · exact .pure (.nothing (.refl cut place)) False.elim

theorem fallbackOperands_cuts
    (operands : ∀ place, ∀ smaller ≤ bound, Cuts cut fault smaller place False none operand
      (fun node next => Reported cut fault place [node] next) stops)
    (strays : ∀ {place next : Place}, ∀ fuel nodes, cut.layout.Laid place → stops place →
      place.rest.length < fuel → fallbackOperands operand fuel place = .ok (nodes, next) →
        leaves next) (fuel : Nat) (enough : bound < fuel) :
    Cuts cut fault bound place (stops place) none (fallbackOperands operand fuel)
      (fun nodes next => Reported cut fault place nodes next) leaves := by
  induction fuel generalizing bound place with
  | zero => exact absurd enough (Nat.not_lt_zero _)
  | succ fuel ih =>
      refine .straying ?_ fun laid within lost nodes next read =>
        strays _ nodes laid lost (Nat.lt_of_le_of_lt within enough) read
      refine .ifEat nofun nofun nofun (fun further smaller less passed => ?_)
        (.pure (.nothing (.refl cut place)) False.elim)
      refine .bind (operands further _ (Nat.le_of_lt less)) fun right last _ => ?_
      have inside (place : Place) (fewer : Nat) (below : fewer ≤ smaller) :=
        operands place fewer (Nat.le_trans below (Nat.le_of_lt less))
      refine .bind (ih inside (by omega)) fun others ended _ => .pure ?_ id
      exact fun later first => (first.andThen later).reached passed

end Operators

theorem term_cuts (trimmed : Trimmed cut fault bound) :
    Cuts cut fault bound place False none (term grammar)
      (fun node next => Reported cut fault place [node] next) (Astray LostBehindTerm) :=
  binaryLevel_cuts rfl rfl .factors (fun _ _ less => factor_cuts (trimmed.mono less))
    fun _ _ _ _ astray enough read => astray.product enough read

theorem sum_cuts (trimmed : Trimmed cut fault bound) :
    Cuts cut fault bound place False none (sum grammar)
      (fun node next => Reported cut fault place [node] next) (Astray LostBehindSum) :=
  binaryLevel_cuts rfl rfl .terms (fun _ _ less => term_cuts (trimmed.mono less))
    fun _ _ _ laid astray enough read => astray.sum laid.near enough read

theorem comparison_cuts (trimmed : Trimmed cut fault bound) :
    Cuts cut fault bound place False none (comparison grammar)
      (fun node next => Reported cut fault place [node] next) (Astray LostBehindComparison) := by
  refine .peek ?_
  split
  · rename_i kind
    refine .opened (.advance kind nofun nofun fun start smaller less _ => ?_)
    refine .bind (trimmed .comparison start _ less) fun operand last _ => .nodeFrom ?_ id
    exact fun given => ⟨.plain given.right fun _ _ _ => nofun, rfl⟩
  · refine .bind (sum_cuts trimmed) fun first next _ => .tight fun within => ?_
    refine .bind (.repeated .links fun fuel enough => comparisonLinks_cuts
      (fun _ _ less => sum_cuts (trimmed.mono (Nat.le_trans less within)))
      (fun _ _ _ astray enough read => astray.links enough read) fuel enough) fun links last _ => ?_
    split
    · rename_i ends
      exact .pure (fun later first => .node (first.andThen later) rfl fun _ _ _ => nofun) id
    · rename_i ends
      rw [List.getLast?_eq_none_iff] at ends
      subst ends
      exact .pure (fun later first => first.andThen later) id

theorem logic_cuts (trimmed : Trimmed cut fault bound) :
    Cuts cut fault bound place False none (logic grammar)
      (fun node next => Reported cut fault place [node] next) (Astray LostBehindLogic) :=
  binaryLevel_cuts rfl rfl .comparisons (fun _ _ less => comparison_cuts (trimmed.mono less))
    fun _ _ _ _ astray enough read => astray.logic enough read

theorem fallback_cuts (trimmed : Trimmed cut fault bound) :
    Cuts cut fault bound place False none (fallback grammar)
      (fun node next => Reported cut fault place [node] next) Stuck := by
  refine .bind (logic_cuts trimmed) fun first next _ => .tight fun within => ?_
  refine .bind (.repeated .operands fun fuel enough => fallbackOperands_cuts
    (fun _ _ less => logic_cuts (trimmed.mono (Nat.le_trans less within)))
    (fun _ _ _ astray enough read => astray.operands enough read) fuel enough) fun others last _ => ?_
  split
  · exact .pure (fun later first => .node (first.andThen later) rfl fun _ _ _ => nofun) id
  · rename_i ends
    rw [List.getLast?_eq_none_iff] at ends
    subst ends
    exact .pure (fun later first => first.andThen later) id

end Grammar
end Scripting
