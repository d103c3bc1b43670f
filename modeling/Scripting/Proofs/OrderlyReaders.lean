import Scripting.Proofs.ParserSoundness
import Scripting.Proofs.ReaderProgress

namespace Scripting
namespace Grammar

/-!
Readers keep order.

A reader that succeeds passes tokens of which none is the end of the file, and closes the
stack of open blocks as it found it.  A reader that fails may leave blocks open that it
opened, but it has closed none of those that were open before: cut back to its former
height, the stack is what it was.  If the reader fails because a block is never closed, it
names the innermost one that is open where it fails: the tokens from the opening word up
to that place make up the whole construct but for its closing word.

All this is one judgement on readers, which is closed under sequence.  It counts the tokens
that are passed at least, and it remembers the tokens before the place, so that the
opening word of a block is at hand when the block turns out not to be closed.
-/

open Lexical (Bracket Keyword Symbol Token TokenKind)
open Source (Position Span)
open Program

/-! ## Blocks that are open -/

/-- The open blocks by the words that open them, the innermost first. -/
abbrev Stack := List (Keyword × Span)

/--
The tokens after the opening word of a block, up to a point where it is still open: its
closing word, and what may have to follow it, would make the construct complete.
-/
def Unfinished (opener closer : Keyword) (kinds : List TokenKind) : Prop :=
  ∃ more node, Derives .atom (.keyword opener :: (kinds ++ .keyword closer :: more)) node

/--
A block with its opening word at the given span is open at a token of the list, which is
the end of the file or a word other than the closing one.
-/
def StandsOpen (tokens : List Token) (opener closer : Keyword) (span : Span) : Prop :=
  ∃ before word inner here after, tokens = before ++ word :: (inner ++ here :: after) ∧
    word.kind = .keyword opener ∧ word.span = span ∧
    Unfinished opener closer (inner.map Token.kind) ∧
    here.kind ≠ .keyword closer ∧ (here.kind = .endOfFile ∨ isKeyword here.kind = true)

/-- Some tokens hold an exponent whose digits have no negation among the integers. -/
def Overflows (tokens : List Token) : Prop :=
  [.exponent, .symbol .minus, .int Int64.minValue] <:+: tokens.map Token.kind

/--
What a failure says is so: it is not about the depth of the descent, a block that it names
is the innermost of those that are open, and an exponent has no negation where arithmetic
is checked.
-/
structure Blames (checked : Bool) (tokens : List Token) (failure : Failure) : Prop where
  shallow : failure.cause ≠ .tooDeep
  stands : ∀ opener closer, failure.cause = .neverClosed opener closer →
    failure.openers.head? = some (opener, failure.span) ∧
      StandsOpen tokens opener closer failure.span
  overflows : failure.cause = .overflow → checked = true ∧ Overflows tokens

/-! ## The judgement -/

/--
How a reader may end that began at a place, with some tokens before it.  If it succeeds,
it has passed at least a number of tokens and closed a number of the open blocks.  If it
fails, it has closed no more than these.
-/
inductive Ends {α : Type} (least closes : Nat) (front : List Token) (place : Place) :
    Except Failure (α × Place) → Prop
  | ok {value : α} {next : Place} (passed : List Token)
      (split : place.tokens = passed ++ next.tokens)
      (inner : ∀ token ∈ passed, token.kind ≠ .endOfFile) (enough : least ≤ passed.length)
      (openers : next.openers = place.openers.drop closes) (build : next.checked = place.checked) :
      Ends least closes front place (.ok (value, next))
  | error {failure : Failure} (blamed : Blames place.checked (front ++ place.tokens) failure)
      (kept : place.openers.drop closes <:+ failure.openers) :
      Ends least closes front place (.error failure)

/-- A reader ends in this way at a place with no more than some tokens behind it. -/
def Orderly {α : Type} (bound least closes : Nat) (front : List Token) (place : Place)
    (reader : Reader α) : Prop :=
  Closed place.tokens → place.rest.length ≤ bound → Ends least closes front place (reader place)

variable {α β : Type} {bound least done closes : Nat} {front : List Token}
  {place : Place}

theorem Closed.later {passed : List Token} {next : Place} (closed : Closed place.tokens)
    (split : place.tokens = passed ++ next.tokens) : Closed next.tokens := by
  have near : Near place.tokens next.rest.length next :=
    ⟨closed, ⟨passed, split.symm⟩, Nat.le_refl _⟩
  exact near.closed_here

theorem Closed.ended (closed : Closed place.tokens) : Ended place.kinds := by
  have same : place.kinds = place.tokens.map Token.kind := rfl
  unfold Ended
  rw [same, List.getLast?_map]
  exact closed

theorem length_le_of_split {passed : List Token} {next : Place}
    (split : place.tokens = passed ++ next.tokens) :
    passed.length + next.rest.length = place.rest.length := by
  have lengths := congrArg List.length split
  simp only [Place.tokens, List.length_cons, List.length_append] at lengths
  omega

theorem Place.openers_advance (place : Place) : place.advance.openers = place.openers := by
  unfold Place.advance
  split
  · rfl
  · split <;> rfl

theorem Place.checked_advance (place : Place) : place.advance.checked = place.checked := by
  unfold Place.advance
  split
  · rfl
  · split <;> rfl

/-- Going back gives up just the blocks that were opened, if no other one was closed. -/
theorem Place.rewind_of_suffix {openers : List (Keyword × Span)}
    (kept : place.openers <:+ openers) : place.rewind openers = place := by
  have same := List.suffix_iff_eq_drop.mp kept
  unfold Place.rewind
  rw [← same]

/-- The current token is the first of those from its place on. -/
theorem Place.tokens_advance (closed : Closed place.tokens)
    (inner : place.current.kind ≠ .endOfFile) :
    place.tokens = [place.current] ++ place.advance.tokens := by
  unfold Place.advance
  rw [if_neg inner]
  unfold Closed Place.tokens at *
  cases rest : place.rest with
  | nil =>
      rw [rest] at closed
      exact absurd (Option.some.inj closed) inner
  | cons next rest' => rfl

theorem Ends.weaken {result : Except Failure (α × Place)}
    (ends : Ends least closes front place result) (fewer : done ≤ least) :
    Ends done closes front place result := by
  cases ends with
  | ok passed split inner enough openers build =>
      exact .ok passed split inner (Nat.le_trans fewer enough) openers build
  | error blamed kept => exact .error blamed kept

/-- Tokens are passed and the stack is changed, and then a reader goes on. -/
theorem Ends.after {closes' : Nat} {result : Except Failure (α × Place)}
    {passed : List Token} {next : Place} (split : place.tokens = passed ++ next.tokens)
    (inner : ∀ token ∈ passed, token.kind ≠ .endOfFile)
    (stack : next.openers.drop closes' = place.openers.drop closes)
    (build : next.checked = place.checked)
    (ends : Ends (least - passed.length) closes' (front ++ passed) next result) :
    Ends least closes front place result := by
  cases ends with
  | ok more split' inner' enough openers' build' =>
      refine .ok (passed ++ more) ?_ ?_ ?_ ?_ (build'.trans build)
      · rw [split, split', List.append_assoc]
      · exact List.forall_mem_append.mpr ⟨inner, inner'⟩
      · rw [List.length_append]
        omega
      · rw [openers', stack]
  | error blamed kept =>
      refine .error ?_ (stack ▸ kept)
      rw [split, ← List.append_assoc, ← build]
      exact blamed

/-- One reader after another, where it is known what the first one gives. -/
theorem Orderly.sequence {first : Reader α} {rest : α → Reader β}
    (begun : Orderly bound done 0 front place first)
    (continued : ∀ passed value next, first place = .ok (value, next) →
      place.tokens = passed ++ next.tokens → next.openers = place.openers →
      Orderly bound (least - done) closes (front ++ passed) next (rest value)) :
    Orderly bound least closes front place (first >>= rest) := by
  intro closed within
  have ends := begun closed within
  cases result : first place with
  | error failure =>
      rw [result] at ends
      rw [bind_error result]
      cases ends with
      | error blamed kept => exact .error blamed ((List.drop_suffix _ _).trans kept)
  | ok pair =>
      rcases pair with ⟨value, next⟩
      rw [result] at ends
      rw [bind_of_ok result]
      cases ends with
      | ok passed split inner enough openers build =>
          have shorter := length_le_of_split split
          have later := continued passed value next result split openers (closed.later split)
            (by omega)
          exact Ends.after split inner (congrArg (List.drop closes) openers) build
            (later.weaken (by omega))

theorem Orderly.bind {first : Reader α} {rest : α → Reader β}
    (begun : Orderly bound done 0 front place first)
    (continued : ∀ passed value next, next.openers = place.openers →
      Orderly bound (least - done) closes (front ++ passed) next (rest value)) :
    Orderly bound least closes front place (first >>= rest) :=
  begun.sequence fun passed value next _ _ openers => continued passed value next openers

/-- One reader after another, with a condition on the tokens that the first one passes. -/
theorem Orderly.bindYields {first : Reader α} {rest : α → Reader β}
    {condition : List TokenKind → α → Prop} (begun : Orderly bound done 0 front place first)
    (yields : Yields place first condition)
    (continued : ∀ passed value next, condition (passed.map Token.kind) value →
      next.openers = place.openers →
      Orderly bound (least - done) closes (front ++ passed) next (rest value)) :
    Orderly bound least closes front place (first >>= rest) := by
  intro closed within
  refine begun.sequence (fun passed value next read split openers => ?_) closed within
  rcases yields closed.ended value next read with ⟨kinds, kindsSplit, holds⟩
  have same : passed.map Token.kind = kinds := by
    have mapped := congrArg (List.map Token.kind) split
    rw [List.map_append] at mapped
    exact List.append_cancel_right (mapped.symm.trans kindsSplit)
  exact continued passed value next (same ▸ holds) openers

theorem Orderly.weaken {reader : Reader α} (orderly : Orderly bound least closes front place reader)
    (fewer : done ≤ least) : Orderly bound done closes front place reader :=
  fun closed within => (orderly closed within).weaken fewer

/-- A reader that passes nothing and changes nothing. -/
theorem Orderly.staying {reader : Reader α} {value : α} (stays : reader place = .ok (value, place)) :
    Orderly bound 0 0 front place reader := by
  intro _ _
  rw [stays]
  exact .ok [] rfl (List.forall_mem_nil _) (Nat.le_refl _) rfl rfl

theorem Orderly.pure {value : α} :
    Orderly bound 0 0 front place (Pure.pure value) :=
  Orderly.staying rfl

/-- A failure at a place, with all blocks of the place still open. -/
theorem Orderly.failing {reader : Reader α} {cause : Cause} {span : Span}
    (failed : reader place = .error (place.failure cause span))
    (blamed : Blames place.checked (front ++ place.tokens) (place.failure cause span)) :
    Orderly bound least closes front place reader := by
  intro _ _
  rw [failed]
  exact .error blamed (List.drop_suffix _ _)

theorem Orderly.unexpected {expected : Expectation} :
    Orderly (α := α) bound least closes front place (Grammar.unexpected expected) :=
  Orderly.failing rfl ⟨nofun, nofun, nofun⟩

theorem Orderly.failAt {cause : Cause} {span : Span} (shallow : cause ≠ .tooDeep)
    (closed : ∀ opener closer, cause ≠ .neverClosed opener closer) (bounded : cause ≠ .overflow) :
    Orderly (α := α) bound least closes front place (Grammar.failAt cause span) :=
  Orderly.failing rfl ⟨shallow, fun opener closer same => absurd same (closed opener closer),
    fun same => absurd same bounded⟩

/-! ## Steps of readers -/

section Steps

theorem Orderly.peek {rest : Token → Reader β}
    (continued : Orderly bound least closes front place (rest place.current)) :
    Orderly bound least closes front place (Grammar.peek >>= rest) :=
  continued

/-- A token other than the end of the file is passed, and a reader goes on behind it. -/
theorem Orderly.passing {reader rest : Reader β} (inner : place.current.kind ≠ .endOfFile)
    (same : reader place = rest place.advance)
    (continued : ∀ smaller < bound,
      Orderly smaller (least - 1) closes (front ++ [place.current]) place.advance rest) :
    Orderly bound least closes front place reader := by
  intro closed within
  have near : Near place.tokens bound place := ⟨closed, List.suffix_refl _, within⟩
  rcases near.advance inner with ⟨-, shorter⟩
  have split := Place.tokens_advance closed inner
  rw [same]
  refine Ends.after split (List.forall_mem_singleton.mpr inner)
    (congrArg (List.drop closes) place.openers_advance) place.checked_advance ?_
  exact continued _ (Nat.lt_of_lt_of_le shorter within) (closed.later split) (Nat.le_refl _)

theorem Orderly.advance {rest : Token → Reader β} (inner : place.current.kind ≠ .endOfFile)
    (continued : ∀ smaller < bound, Orderly smaller (least - 1) closes (front ++ [place.current])
      place.advance (rest place.current)) :
    Orderly bound least closes front place (Grammar.advance >>= rest) :=
  Orderly.passing inner rfl continued

theorem Orderly.expect {kind : TokenKind} {rest : Token → Reader β} (inner : kind ≠ .endOfFile)
    (continued : ∀ smaller < bound, place.current.kind = kind →
      Orderly smaller (least - 1) closes (front ++ [place.current]) place.advance
        (rest place.current)) :
    Orderly bound least closes front place (Grammar.expect kind >>= rest) := by
  by_cases found : place.current.kind = kind
  · have passed : Grammar.expect kind place = .ok (place.current, place.advance) := if_pos found
    exact Orderly.passing (found ▸ inner) (bind_of_ok passed) fun smaller less =>
      continued smaller less found
  · have failed : Grammar.expect kind place = Grammar.unexpected (.token kind) place :=
      if_neg found
    exact Orderly.failing (bind_error failed) ⟨nofun, nofun, nofun⟩

theorem Orderly.identifier {expected : Expectation} {rest : String × Span → Reader β}
    (continued : ∀ name, ∀ smaller < bound, place.current.kind = .identifier name →
      Orderly smaller (least - 1) closes (front ++ [place.current]) place.advance
        (rest (name, place.current.span))) :
    Orderly bound least closes front place (Grammar.identifier expected >>= rest) := by
  cases result : Grammar.identifier expected place with
  | error failure =>
      have failed : (Grammar.identifier expected >>= rest) place = .error failure :=
        bind_error result
      unfold Grammar.identifier at result
      split at result
      · cases result
      · cases result
        exact Orderly.failing failed ⟨nofun, nofun, nofun⟩
      · cases result
        exact Orderly.failing failed ⟨nofun, nofun, nofun⟩
  | ok pair =>
      unfold Grammar.identifier at result
      split at result
      · rename_i name found
        cases result
        have passed : Grammar.identifier expected place
            = .ok ((name, place.current.span), place.advance) := by
          unfold Grammar.identifier
          rw [found]
        exact Orderly.passing (by rw [found]; exact TokenKind.noConfusion) (bind_of_ok passed)
          fun smaller less => continued name smaller less found
      · cases result
      · cases result

theorem Orderly.ifEat {kind : TokenKind} {chosen other : Reader β} (inner : kind ≠ .endOfFile)
    (taken : ∀ smaller < bound, place.current.kind = kind →
      Orderly smaller (least - 1) closes (front ++ [place.current]) place.advance chosen)
    (left : Orderly bound least closes front place other) :
    Orderly bound least closes front place
      (eat kind >>= fun found => if found = true then chosen else other) := by
  by_cases found : place.current.kind = kind
  · have passed : eat kind place = .ok (true, place.advance) := if_pos found
    exact Orderly.passing (found ▸ inner) (bind_of_ok passed) fun smaller less =>
      taken smaller less found
  · have stays : eat kind place = .ok (false, place) := if_neg found
    intro closed within
    rw [bind_of_ok stays]
    exact left closed within

/-- A token that may be there or not. -/
theorem eat_orderly {kind : TokenKind} (inner : kind ≠ .endOfFile) :
    Orderly bound 0 0 front place (eat kind) := by
  by_cases found : place.current.kind = kind
  · have passed : eat kind place = .ok (true, place.advance) := if_pos found
    exact Orderly.passing (found ▸ inner) passed fun _ _ => Orderly.pure
  · exact Orderly.staying (if_neg found)

theorem Orderly.ifAt {kind : TokenKind} {chosen other : Reader β}
    (here : place.current.kind = kind → Orderly bound least closes front place chosen)
    (elsewhere : place.current.kind ≠ kind → Orderly bound least closes front place other) :
    Orderly bound least closes front place
      (isAt kind >>= fun found => if found = true then chosen else other) := by
  intro closed within
  by_cases found : place.current.kind = kind
  · have looked : isAt kind place = .ok (true, place) := by
      rw [isAt, decide_eq_true found]
    rw [bind_of_ok looked]
    exact here found closed within
  · have looked : isAt kind place = .ok (false, place) := by
      rw [isAt, decide_eq_false found]
    rw [bind_of_ok looked]
    exact elsewhere found closed within

theorem Orderly.isAtStop {stop : List Keyword} {chosen other : Reader β}
    (here : Orderly bound least closes front place chosen)
    (elsewhere : Orderly bound least closes front place other) :
    Orderly bound least closes front place
      (Grammar.isAtStop stop >>= fun found => if found = true then chosen else other) := by
  have looked : ∃ found, Grammar.isAtStop stop place = .ok (found, place) := ⟨_, rfl⟩
  rcases looked with ⟨found, looked⟩
  intro closed within
  rw [bind_of_ok looked]
  cases found with
  | true => exact here closed within
  | false => exact elsewhere closed within

theorem passNewlines_inner (current : Token) (previousEnd : Position) (rest : List Token) :
    ∃ gap, current :: rest = gap ++ ((passNewlines current previousEnd rest).1 ::
        (passNewlines current previousEnd rest).2.1) ∧
      ∀ token ∈ gap, token.kind ≠ .endOfFile := by
  induction rest generalizing current previousEnd with
  | nil => exact ⟨[], rfl, List.forall_mem_nil _⟩
  | cons next rest ih =>
      by_cases newline : current.kind = .newline
      · rcases ih next current.span.stop with ⟨gap, split, inner⟩
        simp only [passNewlines, if_pos newline]
        refine ⟨current :: gap, by rw [split]; rfl, ?_⟩
        exact List.forall_mem_cons.mpr ⟨by rw [newline]; exact TokenKind.noConfusion, inner⟩
      · simp only [passNewlines, if_neg newline]
        exact ⟨[], rfl, List.forall_mem_nil _⟩

theorem skipNewlines_orderly : Orderly bound 0 0 front place Grammar.skipNewlines := by
  intro _ _
  rcases passNewlines_inner place.current place.previousEnd place.rest with ⟨gap, split, inner⟩
  exact .ok gap split inner (Nat.zero_le _) rfl rfl

/-- A block is opened, and what follows closes it. -/
theorem Orderly.enterBlock {opener : Keyword} {span : Span} {rest : Unit → Reader β}
    (continued : ∀ next : Place, next.current = place.current →
      next.openers = (opener, span) :: place.openers →
      Orderly bound least 1 front next (rest ())) :
    Orderly bound least 0 front place (Grammar.enterBlock opener span >>= rest) := by
  intro closed within
  let inside : Place := { place with openers := (opener, span) :: place.openers }
  have split : place.tokens = [] ++ inside.tokens := rfl
  have stack : inside.openers.drop 1 = place.openers.drop 0 := rfl
  refine Ends.after split (List.forall_mem_nil _) stack rfl ?_
  rw [List.append_nil]
  exact continued inside rfl rfl closed within

/-- The innermost block is closed; if it is not, it has to be one that stands open here. -/
theorem Orderly.leaveBlock {opener closer : Keyword} {span : Span} {outer : Stack}
    {rest : Unit → Reader β} (opened : place.openers = (opener, span) :: outer)
    (open_ : place.current.kind ≠ .keyword closer →
      (place.current.kind = .endOfFile ∨ isKeyword place.current.kind = true) →
      StandsOpen (front ++ place.tokens) opener closer span)
    (continued : ∀ smaller < bound, ∀ next : Place,
      Orderly smaller (least - 1) 0 (front ++ [place.current]) next (rest ())) :
    Orderly bound least 1 front place (Grammar.leaveBlock closer >>= rest) := by
  by_cases found : place.current.kind = .keyword closer
  · have passed : Grammar.leaveBlock closer place
        = .ok ((), { place.advance with openers := place.openers.tail }) := if_pos found
    have inner : place.current.kind ≠ .endOfFile := by
      rw [found]
      exact TokenKind.noConfusion
    intro closed within
    have near : Near place.tokens bound place := ⟨closed, List.suffix_refl _, within⟩
    rcases near.advance inner with ⟨-, shorter⟩
    let outside : Place := { place.advance with openers := place.openers.tail }
    have split : place.tokens = [place.current] ++ outside.tokens :=
      Place.tokens_advance closed inner
    have stack : outside.openers.drop 0 = place.openers.drop 1 := (List.drop_one).symm
    rw [bind_of_ok passed]
    refine Ends.after split (List.forall_mem_singleton.mpr inner) stack place.checked_advance ?_
    exact continued _ (Nat.lt_of_lt_of_le shorter within) _ (closed.later split) (Nat.le_refl _)
  · by_cases stuck : place.current.kind = .endOfFile ∨ isKeyword place.current.kind = true
    · have failed : Grammar.leaveBlock closer place
          = Grammar.failAt (.neverClosed opener closer) span place := by
        unfold Grammar.leaveBlock
        rw [if_neg found, opened]
        exact if_pos stuck
      refine Orderly.failing (bind_error failed) ⟨nofun, fun opener' closer' cause => ?_, nofun⟩
      cases cause
      exact ⟨congrArg List.head? opened, open_ found stuck⟩
    · have failed : Grammar.leaveBlock closer place
          = Grammar.unexpected (.blockEnd closer) place := by
        unfold Grammar.leaveBlock
        rw [if_neg found, opened]
        exact if_neg stuck
      exact Orderly.failing (bind_error failed) ⟨nofun, nofun, nofun⟩

/--
A reader that fails is tried.  It has closed none of the blocks that were open before, so
what is left of the stack is the stack as it was.
-/
theorem attempt_orderly {reader : Reader α} (tried : Orderly bound least 0 front place reader) :
    Orderly bound 0 0 front place (attempt reader) := by
  intro closed within
  have ends := tried closed within
  unfold attempt
  generalize reader place = result at ends
  cases ends with
  | ok passed split inner enough openers build =>
      exact .ok passed split inner (Nat.zero_le _) openers build
  | @error failure blamed kept =>
      by_cases broken : failure.cause = .overflow
      · simp only [if_pos broken]
        exact .error blamed kept
      · simp only [if_neg broken, Place.rewind_of_suffix kept]
        exact .ok [] rfl (List.forall_mem_nil _) (Nat.le_refl _) rfl rfl

theorem Orderly.nodeFrom {start : Position} {form : Form Node} :
    Orderly bound 0 0 front place (Grammar.nodeFrom start form) :=
  Orderly.staying rfl

theorem Orderly.thenNode {start : Position} {form : Form Node} {rest : Node → Reader β}
    (continued : Orderly bound least closes front place (rest ⟨place.spanAfter start, form⟩)) :
    Orderly bound least closes front place (Grammar.nodeFrom start form >>= rest) :=
  continued

theorem Orderly.spanFrom {start : Position} {rest : Span → Reader β}
    (continued : Orderly bound least closes front place (rest (place.spanAfter start))) :
    Orderly bound least closes front place (Grammar.spanFrom start >>= rest) :=
  continued

theorem Orderly.repeated {reader : Nat → Reader α}
    (each : ∀ fuel, Orderly bound least closes front place (reader fuel)) :
    Orderly bound least closes front place (Grammar.repeated reader) :=
  each _

end Steps

end Grammar
end Scripting
