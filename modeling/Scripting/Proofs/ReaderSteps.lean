import Scripting.Proofs.TokenPassing

namespace Scripting
namespace Grammar

/-!
Readers that succeed.

A reader is said to give something at a place if it succeeds there with a value, and leaves
a place, as said.  Each primitive reader has a lemma for the tokens at which it succeeds, so
that a reader is followed through the tokens it is meant for step by step.
-/

open Lexical (Bracket Keyword Symbol Token TokenKind)
open Source (Position Span)
open Program

/-- The reader succeeds, and its value and the place after it are as said. -/
def Gives {α : Type} (place : Place) (reader : Reader α) (good : α → Place → Prop) : Prop :=
  ∃ value next, reader place = .ok (value, next) ∧ good value next

/-- A value as said is read, and the given tokens are left. -/
def Leaves {α : Type} (rest : List TokenKind) (same : α → Prop) (value : α) (next : Place) : Prop :=
  next.kinds = rest ∧ same value

section Steps

variable {α β : Type} {place : Place} {good : β → Place → Prop}

theorem Place.kinds_passed {kind : TokenKind} {kinds : List TokenKind}
    (stands : place.kinds = kind :: kinds) (inner : kind ≠ .endOfFile) (some : kinds ≠ []) :
    place.current.kind = kind ∧ place.advance.kinds = kinds := by
  unfold Place.kinds at stands
  rcases List.cons.inj stands with ⟨rfl, later⟩
  refine ⟨rfl, ?_⟩
  unfold Place.advance
  rw [if_neg inner]
  cases rest : place.rest with
  | nil =>
      rw [rest] at later
      exact absurd later.symm some
  | cons next others =>
      rw [rest] at later
      exact later

theorem Place.current_of_kinds {kind : TokenKind} {kinds : List TokenKind}
    (stands : place.kinds = kind :: kinds) : place.current.kind = kind :=
  (List.cons.inj stands).1

theorem Place.current_ne {kind other : TokenKind} {kinds : List TokenKind}
    (stands : place.kinds = kind :: kinds) (different : kind ≠ other) :
    place.current.kind ≠ other := by
  rw [Place.current_of_kinds stands]
  exact different

theorem Gives.pure {value : β} (holds : good value place) : Gives place (Pure.pure value) good :=
  ⟨value, place, rfl, holds⟩

theorem Gives.result {reader : Reader β} {value : β} {next : Place}
    (gives : Gives place reader fun given after => given = value ∧ after = next) :
    reader place = .ok (value, next) := by
  rcases gives with ⟨_, _, read, rfl, rfl⟩
  exact read

theorem Gives.bind {first : Reader α} {rest : α → Reader β} {between : α → Place → Prop}
    (begun : Gives place first between)
    (continued : ∀ value next, between value next → Gives next (rest value) good) :
    Gives place (first >>= rest) good := by
  rcases begun with ⟨middle, halfway, readFirst, holds⟩
  rcases continued middle halfway holds with ⟨value, next, readRest, holds'⟩
  refine ⟨value, next, ?_, holds'⟩
  change (first place >>= fun pair => rest pair.1 pair.2) = _
  rw [readFirst]
  exact readRest

/-- The value of a reader that is known to succeed is passed on. -/
theorem Gives.step {first : Reader α} {rest : α → Reader β} {value : α} {next : Place}
    (read : first place = .ok (value, next)) (continued : Gives next (rest value) good) :
    Gives place (first >>= rest) good := by
  have begun : Gives place first fun given after => given = value ∧ after = next :=
    ⟨value, next, read, rfl, rfl⟩
  refine Gives.bind begun ?_
  rintro _ _ ⟨rfl, rfl⟩
  exact continued

theorem Gives.peek {rest : Token → Reader β} (continued : Gives place (rest place.current) good) :
    Gives place (Grammar.peek >>= rest) good :=
  Gives.step rfl continued

theorem Gives.ifEat_passing {kind : TokenKind} {chosen other : Reader β}
    (here : place.current.kind = kind) (continued : Gives place.advance chosen good) :
    Gives place (eat kind >>= fun found => if found = true then chosen else other) good := by
  have eaten : eat kind place = .ok (true, place.advance) := by
    unfold eat
    rw [if_pos here]
  exact Gives.step eaten continued

section Passing

variable {kind : TokenKind} {kinds : List TokenKind} (stands : place.kinds = kind :: kinds)
  (inner : kind ≠ .endOfFile) (some : kinds ≠ [])

include stands inner some

theorem Gives.advance {rest : Token → Reader β}
    (continued : ∀ next : Place, next.kinds = kinds → Gives next (rest place.current) good) :
    Gives place (Grammar.advance >>= rest) good :=
  Gives.step rfl (continued place.advance (Place.kinds_passed stands inner some).2)

theorem Gives.expect {rest : Token → Reader β}
    (continued : ∀ next : Place, next.kinds = kinds → Gives next (rest place.current) good) :
    Gives place (Grammar.expect kind >>= rest) good := by
  rcases Place.kinds_passed stands inner some with ⟨here, passed⟩
  refine Gives.step ?_ (continued place.advance passed)
  unfold Grammar.expect
  rw [if_pos here]

theorem Gives.ifEat_here {chosen other : Reader β}
    (continued : ∀ next : Place, next.kinds = kinds → Gives next chosen good) :
    Gives place (eat kind >>= fun found => if found = true then chosen else other) good := by
  rcases Place.kinds_passed stands inner some with ⟨here, passed⟩
  exact Gives.ifEat_passing here (continued place.advance passed)

end Passing

theorem Gives.identifier {name : String} {kinds : List TokenKind} {expected : Expectation}
    {rest : String × Span → Reader β} (stands : place.kinds = .identifier name :: kinds)
    (some : kinds ≠ [])
    (continued : ∀ next : Place, next.kinds = kinds →
      Gives next (rest (name, place.current.span)) good) :
    Gives place (Grammar.identifier expected >>= rest) good := by
  rcases Place.kinds_passed stands TokenKind.noConfusion some with ⟨here, passed⟩
  refine Gives.step ?_ (continued place.advance passed)
  unfold Grammar.identifier
  rw [here]

theorem Gives.ifEat_elsewhere {kind : TokenKind} {chosen other : Reader β}
    (elsewhere : place.current.kind ≠ kind) (continued : Gives place other good) :
    Gives place (eat kind >>= fun found => if found = true then chosen else other) good := by
  have left : eat kind place = .ok (false, place) := by
    unfold eat
    rw [if_neg elsewhere]
  exact Gives.step left continued

theorem Gives.ifAt_here {kind : TokenKind} {chosen other : Reader β}
    (here : place.current.kind = kind) (continued : Gives place chosen good) :
    Gives place (isAt kind >>= fun found => if found = true then chosen else other) good := by
  have found : isAt kind place = .ok (true, place) := by
    unfold isAt
    rw [decide_eq_true here]
  exact Gives.step found continued

theorem Gives.ifAt_elsewhere {kind : TokenKind} {chosen other : Reader β}
    (elsewhere : place.current.kind ≠ kind) (continued : Gives place other good) :
    Gives place (isAt kind >>= fun found => if found = true then chosen else other) good := by
  have absent : isAt kind place = .ok (false, place) := by
    unfold isAt
    rw [decide_eq_false elsewhere]
  exact Gives.step absent continued

theorem Gives.skipNewlines {rest : Unit → Reader β} (elsewhere : place.current.kind ≠ .newline)
    (continued : Gives place (rest ()) good) :
    Gives place (Grammar.skipNewlines >>= rest) good := by
  refine Gives.step ?_ continued
  rcases place with ⟨current, tokens, previousEnd, openers, checked⟩
  have stays : passNewlines current previousEnd tokens = (current, tokens, previousEnd) := by
    cases tokens with
    | nil => rfl
    | cons next others => exact if_neg elsewhere
  simp only [Grammar.skipNewlines, stays]

theorem Gives.thenNode {start : Position} {form : Form Node} {rest : Node → Reader β}
    (continued : ∀ span, Gives place (rest ⟨span, form⟩) good) :
    Gives place (Grammar.nodeFrom start form >>= rest) good :=
  Gives.step rfl (continued _)

theorem Gives.repeated {reader : Nat → Reader β}
    (each : ∀ fuel, place.kinds.length ≤ fuel → Gives place (reader fuel) good) :
    Gives place (Grammar.repeated reader) good :=
  each (place.rest.length + 1) (by simp [Place.kinds])

end Steps

theorem Gives.nodeFrom {place : Place} {start : Position} {form : Form Node}
    {good : Node → Place → Prop} (holds : ∀ span, good ⟨span, form⟩ place) :
    Gives place (Grammar.nodeFrom start form) good :=
  ⟨_, _, rfl, holds _⟩

end Grammar
end Scripting
