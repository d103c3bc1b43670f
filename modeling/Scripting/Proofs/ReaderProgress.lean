import Scripting.Proofs.TokenPassing

namespace Scripting
namespace Grammar

/-!
Readers move forward, and how far they may look.

A descent is given to readers as a parameter, and the grammar bounds the depth of the
descent by a number.  Two descents that agree on all shorter lists of tokens make
readers that agree, because a reader descends only after it has passed a token.  To say
so, readers are compared in pairs: both give the same result at a place, and where they
succeed the place after them lies further on and satisfies a condition.
-/

open Lexical (Bracket Keyword Symbol Token TokenKind)
open Source (Position Span)
open Program

/-! ## Places in a list of tokens -/

/-- The tokens from a place on. -/
def Place.tokens (place : Place) : List Token :=
  place.current :: place.rest

/-- The last of some tokens is the end of the file. -/
def Closed (tokens : List Token) : Prop :=
  tokens.getLast?.map Token.kind = some .endOfFile

theorem closed_ofTokens (tokens : List Token) (checked : Bool := false) :
    Closed (Place.ofTokens tokens checked).tokens := by
  unfold Closed Place.tokens
  cases tokens with
  | nil => rfl
  | cons first rest =>
      simp only [Place.ofTokens]
      split
      · rename_i last
        rw [List.getLast?_eq_some_getLast (List.cons_ne_nil first rest), Option.map_some, last]
      · rw [← List.cons_append, List.getLast?_concat]
        rfl

/--
One place lies behind another, or is the same: the tokens between them are passed, and
the end of the last of them is kept.  Arithmetic is checked at both or at neither.
-/
def Place.Moves (place next : Place) : Prop :=
  ∃ stretch, place.tokens = stretch ++ next.tokens ∧
    next.previousEnd = stretch.getLast?.elim place.previousEnd (·.span.stop) ∧
    next.checked = place.checked

theorem Place.Moves.refl (place : Place) : place.Moves place :=
  ⟨[], rfl, rfl, rfl⟩

theorem Place.Moves.trans {first second third : Place} (begun : first.Moves second)
    (continued : second.Moves third) : first.Moves third := by
  rcases begun with ⟨front, split, ended, build⟩
  rcases continued with ⟨back, split', ended', build'⟩
  refine ⟨front ++ back, by rw [split, split', List.append_assoc], ?_, build'.trans build⟩
  rw [ended', ended, List.getLast?_append]
  cases back.getLast? <;> rfl

theorem Place.Moves.length_le {place next : Place} (moves : place.Moves next) :
    next.rest.length ≤ place.rest.length := by
  rcases moves with ⟨stretch, split, -⟩
  have lengths := congrArg List.length split
  simp only [Place.tokens, List.length_cons, List.length_append] at lengths
  omega

/-- A place in a given closed list of tokens, with no more than some tokens behind it. -/
structure Near (tokens : List Token) (bound : Nat) (place : Place) : Prop where
  closed : Closed tokens
  behind : place.tokens <:+ tokens
  within : place.rest.length ≤ bound

theorem Near.moves {tokens : List Token} {bound : Nat} {place next : Place}
    (near : Near tokens bound place) (moves : place.Moves next) : Near tokens bound next where
  closed := near.closed
  behind := by
    rcases moves with ⟨stretch, split, -⟩
    have later : next.tokens <:+ place.tokens := ⟨stretch, split.symm⟩
    exact later.trans near.behind
  within := Nat.le_trans moves.length_le near.within

theorem Near.closed_here {tokens : List Token} {bound : Nat} {place : Place}
    (near : Near tokens bound place) : Closed place.tokens := by
  rcases near.behind with ⟨front, split⟩
  have closed := near.closed
  unfold Closed at closed ⊢
  rw [← split, List.getLast?_append] at closed
  cases last : place.tokens.getLast? with
  | none => exact absurd (List.getLast?_eq_none_iff.mp last) (List.cons_ne_nil _ _)
  | some token =>
      rw [last] at closed
      exact closed

/-- A token other than the end of the file is passed. -/
theorem Near.advance {tokens : List Token} {bound : Nat} {place : Place}
    (near : Near tokens bound place) (inner : place.current.kind ≠ .endOfFile) :
    place.Moves place.advance ∧ place.advance.rest.length < place.rest.length := by
  have closed := near.closed_here
  unfold Place.advance
  rw [if_neg inner]
  cases rest : place.rest with
  | nil =>
      unfold Closed Place.tokens at closed
      rw [rest] at closed
      simp only [List.getLast?_singleton, Option.map_some, Option.some.injEq] at closed
      exact absurd closed inner
  | cons next rest' =>
      refine ⟨⟨[place.current], ?_, rfl, rfl⟩, ?_⟩
      · unfold Place.tokens
        rw [rest]
        rfl
      · simp

theorem passNewlines_moves (current : Token) (previousEnd : Position) (rest : List Token)
    (openers : List (Keyword × Span)) (checked : Bool) :
    let passed := passNewlines current previousEnd rest
    Place.Moves ⟨current, rest, previousEnd, openers, checked⟩
      ⟨passed.1, passed.2.1, passed.2.2, openers, checked⟩ := by
  induction rest generalizing current previousEnd with
  | nil => exact .refl _
  | cons next rest ih =>
      by_cases newline : current.kind = .newline
      · simp only [passNewlines, if_pos newline]
        have step : Place.Moves ⟨current, next :: rest, previousEnd, openers, checked⟩
            ⟨next, rest, current.span.stop, openers, checked⟩ := ⟨[current], rfl, rfl, rfl⟩
        exact step.trans (ih next current.span.stop)
      · simp only [passNewlines, if_neg newline]
        exact .refl _

theorem passNewlines_of_ne {current : Token} (other : current.kind ≠ .newline)
    (previousEnd : Position) (rest : List Token) :
    passNewlines current previousEnd rest = (current, rest, previousEnd) := by
  cases rest with
  | nil => rfl
  | cons next rest => simp only [passNewlines, if_neg other]

/-! ## Pairs of readers -/

/--
Two readers agree at a place with no more than some tokens behind it.  Where they
succeed, they move forward, and the value and the place after it satisfy a condition.
-/
def Agree {α : Type} (tokens : List Token) (bound : Nat) (place : Place)
    (reader other : Reader α) (condition : α → Place → Prop) : Prop :=
  Near tokens bound place → reader place = other place ∧
    ∀ value next, reader place = .ok (value, next) → place.Moves next ∧ condition value next

variable {α β : Type} {tokens : List Token} {bound : Nat} {place : Place}

theorem bind_error {first : Reader α} {rest : α → Reader β} {error : Failure}
    (failed : first place = .error error) : (first >>= rest) place = .error error := by
  change (first place >>= fun pair => rest pair.1 pair.2) = _
  rw [failed]
  rfl

theorem bind_of_ok {first : Reader α} {rest : α → Reader β} {value : α} {next : Place}
    (read : first place = .ok (value, next)) : (first >>= rest) place = rest value next := by
  change (first place >>= fun pair => rest pair.1 pair.2) = _
  rw [read]
  rfl

theorem Agree.bind {first first' : Reader α} {rest rest' : α → Reader β}
    {between : α → Place → Prop} {condition : β → Place → Prop}
    (begun : Agree tokens bound place first first' between)
    (continued : ∀ value next, place.Moves next → between value next →
      Agree tokens bound next (rest value) (rest' value) condition) :
    Agree tokens bound place (first >>= rest) (first' >>= rest') condition := by
  intro near
  rcases begun near with ⟨same, ends⟩
  cases result : first place with
  | error error =>
      rw [bind_error result, bind_error (same ▸ result)]
      exact ⟨rfl, fun _ _ read => nomatch read⟩
  | ok pair =>
      rcases pair with ⟨value, next⟩
      rcases ends value next result with ⟨moves, holds⟩
      rcases continued value next moves holds (near.moves moves) with ⟨same', ends'⟩
      rw [bind_of_ok result, bind_of_ok (same ▸ result)]
      refine ⟨same', fun last place' read => ?_⟩
      rcases ends' last place' read with ⟨moves', holds'⟩
      exact ⟨moves.trans moves', holds'⟩

theorem Agree.mono {reader other : Reader α} {condition weaker : α → Place → Prop}
    (agree : Agree tokens bound place reader other condition)
    (implies : ∀ value next, place.Moves next → condition value next → weaker value next) :
    Agree tokens bound place reader other weaker := by
  intro near
  rcases agree near with ⟨same, ends⟩
  refine ⟨same, fun value next read => ?_⟩
  rcases ends value next read with ⟨moves, holds⟩
  exact ⟨moves, implies value next moves holds⟩

theorem Agree.pure {value : α} {condition : α → Place → Prop} (holds : condition value place) :
    Agree tokens bound place (Pure.pure value) (Pure.pure value) condition := by
  intro _
  refine ⟨rfl, fun value' next read => ?_⟩
  cases read
  exact ⟨.refl place, holds⟩

theorem Agree.failAt {cause : Cause} {span : Span} {condition : α → Place → Prop} :
    Agree tokens bound place (Grammar.failAt cause span) (Grammar.failAt cause span) condition :=
  fun _ => ⟨rfl, fun _ _ read => nomatch read⟩

theorem Agree.unexpected {expected : Expectation} {condition : α → Place → Prop} :
    Agree tokens bound place (Grammar.unexpected expected) (Grammar.unexpected expected)
      condition :=
  fun _ => ⟨rfl, fun _ _ read => nomatch read⟩

/-- A reader whose result at a place is that of another one at a later place. -/
theorem Agree.later {reader other : Reader α} {next : Place} {reader' other' : Reader α}
    {smaller : Nat} {condition : α → Place → Prop} (moves : place.Moves next)
    (same : reader place = reader' next) (same' : other place = other' next)
    (short : next.rest.length ≤ smaller)
    (agree : Agree tokens smaller next reader' other' condition)
    (near : Near tokens bound place) :
    reader place = other place ∧
      ∀ value last, reader place = .ok (value, last) → place.Moves last ∧ condition value last := by
  have there : Near tokens smaller next := ⟨near.closed, (near.moves moves).behind, short⟩
  rcases agree there with ⟨equal, ends⟩
  rw [same, same']
  refine ⟨equal, fun value last read => ?_⟩
  rcases ends value last read with ⟨moves', holds⟩
  exact ⟨moves.trans moves', holds⟩

section Steps

variable {condition : β → Place → Prop}

theorem Agree.peek {rest rest' : Token → Reader β}
    (continued : Agree tokens bound place (rest place.current) (rest' place.current) condition) :
    Agree tokens bound place (Grammar.peek >>= rest) (Grammar.peek >>= rest') condition :=
  continued

theorem Agree.advance {rest rest' : Token → Reader β} (inner : place.current.kind ≠ .endOfFile)
    (continued : ∀ smaller < bound, place.Moves place.advance →
      Agree tokens smaller place.advance (rest place.current) (rest' place.current) condition) :
    Agree tokens bound place (Grammar.advance >>= rest) (Grammar.advance >>= rest')
      condition := by
  intro near
  rcases near.advance inner with ⟨moves, shorter⟩
  have smaller := Nat.lt_of_lt_of_le shorter near.within
  exact Agree.later moves rfl rfl (Nat.le_refl _) (continued _ smaller moves) near

theorem Agree.expect {kind : TokenKind} {rest rest' : Token → Reader β}
    (inner : kind ≠ .endOfFile)
    (continued : ∀ next, ∀ smaller < bound, place.Moves next → place.current.kind = kind →
      Agree tokens smaller next (rest place.current) (rest' place.current) condition) :
    Agree tokens bound place (Grammar.expect kind >>= rest) (Grammar.expect kind >>= rest')
      condition := by
  by_cases found : place.current.kind = kind
  · have passed : Grammar.expect kind place = .ok (place.current, place.advance) := if_pos found
    intro near
    rcases near.advance (found ▸ inner) with ⟨moves, shorter⟩
    have smaller := Nat.lt_of_lt_of_le shorter near.within
    exact Agree.later moves (bind_of_ok passed) (bind_of_ok passed) (Nat.le_refl _)
      (continued _ _ smaller moves found) near
  · have failed : Grammar.expect kind place = Grammar.unexpected (.token kind) place :=
      if_neg found
    intro _
    rw [bind_error failed, bind_error failed]
    exact ⟨rfl, fun _ _ read => nomatch read⟩

theorem Agree.identifier {expected : Expectation} {rest rest' : String × Span → Reader β}
    (continued : ∀ name next, ∀ smaller < bound, place.Moves next →
      place.current.kind = .identifier name →
      Agree tokens smaller next (rest (name, place.current.span))
        (rest' (name, place.current.span)) condition) :
    Agree tokens bound place (Grammar.identifier expected >>= rest)
      (Grammar.identifier expected >>= rest') condition := by
  cases result : Grammar.identifier expected place with
  | error error =>
      intro _
      rw [bind_error result, bind_error result]
      exact ⟨rfl, fun _ _ read => nomatch read⟩
  | ok pair =>
      unfold Grammar.identifier at result
      split at result
      · rename_i name found
        cases result
        have passed : Grammar.identifier expected place
            = .ok ((name, place.current.span), place.advance) := by
          unfold Grammar.identifier
          rw [found]
        intro near
        rcases near.advance (by rw [found]; exact TokenKind.noConfusion) with ⟨moves, shorter⟩
        have smaller := Nat.lt_of_lt_of_le shorter near.within
        exact Agree.later moves (bind_of_ok passed) (bind_of_ok passed) (Nat.le_refl _)
          (continued _ _ _ smaller moves found) near
      · cases result
      · cases result

theorem Agree.ifEat {kind : TokenKind} {chosen chosen' other other' : Reader β}
    (inner : kind ≠ .endOfFile)
    (taken : ∀ next, ∀ smaller < bound, place.Moves next → place.current.kind = kind →
      Agree tokens smaller next chosen chosen' condition)
    (left : place.current.kind ≠ kind → Agree tokens bound place other other' condition) :
    Agree tokens bound place
      (eat kind >>= fun found => if found = true then chosen else other)
      (eat kind >>= fun found => if found = true then chosen' else other') condition := by
  by_cases found : place.current.kind = kind
  · have passed : eat kind place = .ok (true, place.advance) := if_pos found
    intro near
    rcases near.advance (found ▸ inner) with ⟨moves, shorter⟩
    have smaller := Nat.lt_of_lt_of_le shorter near.within
    exact Agree.later moves (bind_of_ok passed) (bind_of_ok passed) (Nat.le_refl _)
      (taken _ _ smaller moves found) near
  · have stays : eat kind place = .ok (false, place) := if_neg found
    intro near
    rw [bind_of_ok stays, bind_of_ok stays]
    exact left found near

theorem Agree.eat {kind : TokenKind} {rest rest' : Bool → Reader β} (inner : kind ≠ .endOfFile)
    (continued : ∀ found next, place.Moves next →
      (found = true → place.current.kind = kind) → (found = false → next = place) →
      Agree tokens bound next (rest found) (rest' found) condition) :
    Agree tokens bound place (Grammar.eat kind >>= rest) (Grammar.eat kind >>= rest')
      condition := by
  by_cases found : place.current.kind = kind
  · have passed : Grammar.eat kind place = .ok (true, place.advance) := if_pos found
    intro near
    rcases near.advance (found ▸ inner) with ⟨moves, -⟩
    rw [bind_of_ok passed, bind_of_ok passed]
    rcases continued true _ moves (fun _ => found) nofun (near.moves moves) with ⟨same, ends⟩
    refine ⟨same, fun value last read => ?_⟩
    rcases ends value last read with ⟨moves', holds⟩
    exact ⟨moves.trans moves', holds⟩
  · have stays : Grammar.eat kind place = .ok (false, place) := if_neg found
    intro near
    rw [bind_of_ok stays, bind_of_ok stays]
    exact continued false place (.refl place) nofun (fun _ => rfl) near

theorem Agree.ifAt {kind : TokenKind} {chosen chosen' other other' : Reader β}
    (here : place.current.kind = kind → Agree tokens bound place chosen chosen' condition)
    (elsewhere : place.current.kind ≠ kind →
      Agree tokens bound place other other' condition) :
    Agree tokens bound place
      (isAt kind >>= fun found => if found = true then chosen else other)
      (isAt kind >>= fun found => if found = true then chosen' else other') condition := by
  by_cases found : place.current.kind = kind
  · have looked : isAt kind place = .ok (true, place) := by
      rw [isAt, decide_eq_true found]
    intro near
    rw [bind_of_ok looked, bind_of_ok looked]
    exact here found near
  · have looked : isAt kind place = .ok (false, place) := by
      rw [isAt, decide_eq_false found]
    intro near
    rw [bind_of_ok looked, bind_of_ok looked]
    exact elsewhere found near

theorem Agree.skipNewlines {rest rest' : Unit → Reader β}
    (continued : ∀ next, place.Moves next →
      (place.current.kind ≠ .newline → next = place) →
      Agree tokens bound next (rest ()) (rest' ()) condition) :
    Agree tokens bound place (Grammar.skipNewlines >>= rest) (Grammar.skipNewlines >>= rest')
      condition := by
  have moves := passNewlines_moves place.current place.previousEnd place.rest place.openers
    place.checked
  intro near
  refine Agree.later moves rfl rfl (near.moves moves).within (continued _ moves ?_) near
  intro other
  simp only [passNewlines_of_ne other]

theorem Agree.enterBlock {opener : Keyword} {span : Span} {rest rest' : Unit → Reader β}
    (continued : ∀ next : Place, place.Moves next → next.current = place.current →
      Agree tokens bound next (rest ()) (rest' ()) condition) :
    Agree tokens bound place (Grammar.enterBlock opener span >>= rest)
      (Grammar.enterBlock opener span >>= rest') condition := by
  have moves : place.Moves { place with openers := (opener, span) :: place.openers } :=
    ⟨[], rfl, rfl, rfl⟩
  intro near
  exact Agree.later moves rfl rfl near.within (continued _ moves rfl) near

theorem Agree.leaveBlock {closer : Keyword} {rest rest' : Unit → Reader β}
    (continued : ∀ next, place.Moves next → place.current.kind = .keyword closer →
      Agree tokens bound next (rest ()) (rest' ()) condition) :
    Agree tokens bound place (Grammar.leaveBlock closer >>= rest)
      (Grammar.leaveBlock closer >>= rest') condition := by
  by_cases found : place.current.kind = .keyword closer
  · have passed : Grammar.leaveBlock closer place
        = .ok ((), { place.advance with openers := place.openers.tail }) := if_pos found
    intro near
    rcases near.advance (by rw [found]; exact TokenKind.noConfusion) with ⟨moves, -⟩
    have onward : place.Moves { place.advance with openers := place.openers.tail } := moves
    exact Agree.later onward (bind_of_ok passed) (bind_of_ok passed) (near.moves moves).within
      (continued _ onward found) near
  · cases result : Grammar.leaveBlock closer place with
    | error error =>
        intro _
        rw [bind_error result, bind_error result]
        exact ⟨rfl, fun _ _ read => nomatch read⟩
    | ok pair =>
        unfold Grammar.leaveBlock at result
        rw [if_neg found] at result
        split at result
        · split at result <;> cases result
        · cases result

/--
Try two readers that agree; if they fail, both go on where they began, or both break down.
-/
theorem Agree.attempt {reader reader' : Reader α} {rest rest' : Option α → Reader β}
    {between : α → Place → Prop} (tried : Agree tokens bound place reader reader' between)
    (succeeded : ∀ value next, place.Moves next → reader' place = .ok (value, next) →
      between value next → Agree tokens bound next (rest (some value)) (rest' (some value)) condition)
    (failed : ∀ failure : Failure, reader' place = .error failure →
      Agree tokens bound (place.rewind failure.openers) (rest none) (rest' none) condition) :
    Agree tokens bound place (Grammar.attempt reader >>= rest) (Grammar.attempt reader' >>= rest')
      condition := by
  intro near
  rcases tried near with ⟨same, ends⟩
  have sameTry : Grammar.attempt reader place = Grammar.attempt reader' place := by
    simp only [Grammar.attempt, same]
  cases result : Grammar.attempt reader' place with
  | error failure =>
      rw [bind_error result, bind_error (sameTry.trans result)]
      exact ⟨rfl, fun _ _ read => nomatch read⟩
  | ok pair =>
      rcases pair with ⟨tried, next⟩
      have result' := sameTry.trans result
      rcases attempt_ok result with ⟨value, rfl, read⟩ | ⟨failure, rfl, missed, -, rfl⟩
      · rcases ends value next (same.trans read) with ⟨moves, holds⟩
        exact Agree.later moves (bind_of_ok result') (bind_of_ok result) (near.moves moves).within
          (succeeded value next moves read holds) near
      · have stays : place.Moves (place.rewind failure.openers) := ⟨[], rfl, rfl, rfl⟩
        refine Agree.later stays (bind_of_ok result') (bind_of_ok result) near.within ?_ near
        exact failed failure missed

end Steps

/-- The span of a node from a start to the last token before a place. -/
def Place.spanAfter (place : Place) (start : Position) : Span :=
  ⟨start, if place.previousEnd.index < start.index then start else place.previousEnd⟩

theorem Agree.spanFrom {start : Position} {rest rest' : Span → Reader β}
    {condition : β → Place → Prop}
    (continued : Agree tokens bound place (rest (place.spanAfter start))
      (rest' (place.spanAfter start)) condition) :
    Agree tokens bound place (Grammar.spanFrom start >>= rest) (Grammar.spanFrom start >>= rest')
      condition :=
  continued

theorem Agree.nodeFrom {start : Position} {form : Form Node} {condition : Node → Place → Prop}
    (holds : condition ⟨place.spanAfter start, form⟩ place) :
    Agree tokens bound place (Grammar.nodeFrom start form) (Grammar.nodeFrom start form)
      condition :=
  Agree.spanFrom (Agree.pure holds)

theorem Agree.thenNode {start : Position} {form : Form Node} {rest rest' : Node → Reader β}
    {condition : β → Place → Prop}
    (continued : Agree tokens bound place (rest ⟨place.spanAfter start, form⟩)
      (rest' ⟨place.spanAfter start, form⟩) condition) :
    Agree tokens bound place (Grammar.nodeFrom start form >>= rest)
      (Grammar.nodeFrom start form >>= rest') condition :=
  continued

theorem Agree.repeated {reader reader' : Nat → Reader α} {condition : α → Place → Prop}
    (each : ∀ fuel, place.rest.length < fuel →
      Agree tokens bound place (reader fuel) (reader' fuel) condition) :
    Agree tokens bound place (Grammar.repeated reader) (Grammar.repeated reader') condition :=
  each _ (Nat.lt_succ_self _)

end Grammar
end Scripting
