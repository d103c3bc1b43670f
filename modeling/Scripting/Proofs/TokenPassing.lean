import Scripting.Grammar.Statement
import Scripting.Proofs.Derivations

namespace Scripting
namespace Grammar

/-!
What readers pass.

What a reader passes on its way is said by a condition on the tokens passed and the value
made of them.  The condition is carried through a reader step by step: each primitive
reader has a lemma that says what it adds to the tokens passed so far, so that the tokens
of a construct stand in its condition in the order of the program text.
-/

open Lexical (Bracket Keyword Symbol Token TokenKind)
open Source (Position Span)
open Program

/-! ## Places -/

/-- The kinds of the tokens from a place on. -/
def Place.kinds (place : Place) : List TokenKind :=
  place.current.kind :: place.rest.map Token.kind

theorem kinds_ofTokens {body : List Token} {last : Token} (ends : last.kind = .endOfFile) :
    (Place.ofTokens (body ++ [last])).kinds = body.map Token.kind ++ [.endOfFile] := by
  cases body with
  | nil => simp [Place.ofTokens, Place.kinds, ends]
  | cons first body =>
      have final : (first :: (body ++ [last])).getLast (List.cons_ne_nil _ _) = last :=
        List.getLast_concat (l := first :: body)
      simp only [List.cons_append, Place.ofTokens, Place.kinds, final, ends, if_true,
        List.map_append, List.map_cons, List.map_nil]

/-- The end of the file comes last and only there. -/
inductive EndsOnce : List TokenKind → Prop
  | last : EndsOnce [.endOfFile]
  | before {kind : TokenKind} {kinds : List TokenKind} (inner : kind ≠ .endOfFile)
      (later : EndsOnce kinds) : EndsOnce (kind :: kinds)

theorem EndsOnce.of_append {passed left : List TokenKind} (ends : EndsOnce (passed ++ left))
    (some : left ≠ []) : EndsOnce left := by
  induction passed with
  | nil => exact ends
  | cons kind passed ih =>
      generalize same : passed ++ left = kinds at ih
      rw [List.cons_append, same] at ends
      cases ends with
      | last => exact absurd (List.append_eq_nil_iff.mp same).2 some
      | before _ later => exact ih later

/-- The end of the file comes last, and may come before. -/
def Ended (kinds : List TokenKind) : Prop :=
  kinds.getLast? = some .endOfFile

theorem EndsOnce.ended {kinds : List TokenKind} (ends : EndsOnce kinds) : Ended kinds := by
  induction ends with
  | last => rfl
  | before _ later ih =>
      cases later with
      | last => rfl
      | before => exact ih

theorem Ended.of_append {passed left : List TokenKind} (ends : Ended (passed ++ left))
    (some : left ≠ []) : Ended left := by
  unfold Ended at ends ⊢
  rw [List.getLast?_append] at ends
  cases last : left.getLast? with
  | none => exact absurd (List.getLast?_eq_none_iff.mp last) some
  | some kind =>
      rw [last] at ends
      exact ends

theorem Place.kinds_advance {place : Place} (ends : Ended place.kinds)
    (inner : place.current.kind ≠ .endOfFile) :
    place.kinds = place.current.kind :: place.advance.kinds := by
  unfold Place.advance
  rw [if_neg inner]
  cases rest : place.rest with
  | nil =>
      unfold Ended Place.kinds at ends
      rw [rest] at ends
      exact absurd (Option.some.inj ends) inner
  | cons next rest' =>
      unfold Place.kinds
      rw [rest]
      rfl

theorem passNewlines_passes (current : Token) (previousEnd : Position) (rest : List Token) :
    ∃ gap, current.kind :: rest.map Token.kind =
        gap ++ ((passNewlines current previousEnd rest).1.kind ::
          (passNewlines current previousEnd rest).2.1.map Token.kind) ∧
      Newlines gap ∧ (current.kind = .newline → rest ≠ [] → ∃ later, gap = .newline :: later) := by
  induction rest generalizing current previousEnd with
  | nil => exact ⟨[], rfl, fun _ none => absurd none List.not_mem_nil, fun _ some => absurd rfl some⟩
  | cons next rest ih =>
      by_cases newline : current.kind = .newline
      · obtain ⟨gap, split, newlines, -⟩ := ih next current.span.stop
        simp only [passNewlines, if_pos newline]
        refine ⟨.newline :: gap, ?_, ?_, fun _ _ => ⟨gap, rfl⟩⟩
        · rw [List.map_cons, split, newline]
          rfl
        · exact List.forall_mem_cons.mpr ⟨rfl, newlines⟩
      · simp only [passNewlines, if_neg newline]
        exact ⟨[], rfl, fun _ none => absurd none List.not_mem_nil,
          fun newline' => absurd newline' newline⟩

/-! ## Conditions on what is passed -/

/-- Where a reader succeeds, it passes tokens that satisfy the condition with its value. -/
def Yields {α : Type} (place : Place) (reader : Reader α)
    (condition : List TokenKind → α → Prop) : Prop :=
  Ended place.kinds → ∀ value next, reader place = .ok (value, next) →
    ∃ passed, place.kinds = passed ++ next.kinds ∧ condition passed value

variable {α β : Type} {place : Place}

theorem bind_ok {first : Reader α} {rest : α → Reader β} {value : β} {next : Place}
    (read : (first >>= rest) place = .ok (value, next)) :
    ∃ middle between, first place = .ok (middle, between) ∧
      rest middle between = .ok (value, next) := by
  change (first place >>= fun pair => rest pair.1 pair.2) = _ at read
  cases result : first place with
  | error error =>
      rw [result] at read
      cases read
  | ok pair =>
      rw [result] at read
      exact ⟨pair.1, pair.2, rfl, read⟩

theorem bind_failed {first : Reader α} {rest : α → Reader β} {failure : Failure}
    (failed : (first >>= rest) place = .error failure) :
    first place = .error failure ∨
      ∃ middle between, first place = .ok (middle, between) ∧
        rest middle between = .error failure := by
  change (first place >>= fun pair => rest pair.1 pair.2) = _ at failed
  cases result : first place with
  | error failure =>
      rw [result] at failed
      cases failed
      exact Or.inl rfl
  | ok pair =>
      rw [result] at failed
      exact Or.inr ⟨pair.1, pair.2, rfl, failed⟩

/-- What was tried was read, or it failed and some of the open blocks were given up. -/
theorem attempt_ok {reader : Reader α} {tried : Option α} {next : Place}
    (read : attempt reader place = .ok (tried, next)) :
    (∃ value, tried = some value ∧ reader place = .ok (value, next)) ∨
    ∃ failure : Failure, tried = none ∧ reader place = .error failure ∧ failure.cause ≠ .overflow ∧
      next = place.rewind failure.openers := by
  unfold attempt at read
  split at read
  · rename_i value last result
    cases read
    exact Or.inl ⟨value, rfl, result⟩
  · rename_i failure result
    by_cases broken : failure.cause = .overflow
    · rw [if_pos broken] at read
      cases read
    · rw [if_neg broken] at read
      cases read
      exact Or.inr ⟨failure, rfl, result, broken, rfl⟩

/-- The digits of an exponent are negated without passing a token. -/
theorem signedDigits_ok {negative : Bool} {digits power : Int64} {span : Span} {next : Place}
    (read : signedDigits negative digits span place = .ok (power, next)) :
    power = (if negative = true then -digits else digits) ∧ next = place := by
  unfold signedDigits at read
  split at read
  · rename_i minus
    rw [if_pos minus]
    split at read
    · cases read
    · cases read
      exact ⟨rfl, rfl⟩
  · rename_i plus
    rw [if_neg plus]
    cases read
    exact ⟨rfl, rfl⟩

theorem signedDigits_unchecked {negative : Bool} {digits : Int64} {span : Span}
    (unchecked : place.checked = false) : signedDigits negative digits span place =
      .ok (if negative = true then -digits else digits, place) := by
  cases negative with
  | false => rfl
  | true => simp only [signedDigits, unchecked, Bool.false_eq_true, false_and, if_true, if_false]

theorem outcome_ok {reader : Reader α} {value : α} :
    reader.outcome place = .ok value ↔ ∃ next, reader place = .ok (value, next) := by
  unfold Reader.outcome
  constructor
  · intro read
    split at read
    · rename_i _ next result
      cases read
      exact ⟨next, result⟩
    · cases read
  · rintro ⟨next, read⟩
    rw [read]

theorem Yields.pure {value : α} {condition : List TokenKind → α → Prop}
    (holds : condition [] value) : Yields place (Pure.pure value) condition := by
  intro _ value' next read
  cases read
  exact ⟨[], rfl, holds⟩

theorem Yields.bind {first : Reader α} {rest : α → Reader β}
    {condition : List TokenKind → β → Prop} {between : List TokenKind → α → Prop}
    (begun : Yields place first between)
    (continued : ∀ passed value next, between passed value →
      Yields next (rest value) fun more result => condition (passed ++ more) result) :
    Yields place (first >>= rest) condition := by
  intro ends value next read
  obtain ⟨middle, halfway, readFirst, readRest⟩ := bind_ok read
  obtain ⟨passed, split, holds⟩ := begun ends middle halfway readFirst
  have endsLater : Ended halfway.kinds :=
    Ended.of_append (split ▸ ends) (List.cons_ne_nil _ _)
  obtain ⟨more, split', holds'⟩ :=
    continued passed middle halfway holds endsLater value next readRest
  exact ⟨passed ++ more, by rw [split, split', List.append_assoc], holds'⟩

theorem Yields.mono {reader : Reader α} {condition weaker : List TokenKind → α → Prop}
    (yields : Yields place reader condition)
    (implies : ∀ passed value, condition passed value → weaker passed value) :
    Yields place reader weaker := by
  intro ends value next read
  obtain ⟨passed, split, holds⟩ := yields ends value next read
  exact ⟨passed, split, implies passed value holds⟩

theorem Yields.failAt {cause : Cause} {span : Span} {condition : List TokenKind → α → Prop} :
    Yields place (failAt cause span) condition := by
  intro _ _ _ read
  cases read

theorem Yields.unexpected {expected : Expectation} {condition : List TokenKind → α → Prop} :
    Yields place (unexpected expected) condition := by
  intro _ _ _ read
  cases read

/-- A token that may be there or not. -/
theorem eat_yields (kind : TokenKind) (inner : kind ≠ .endOfFile) :
    Yields place (eat kind) fun passed _ => passed = [] ∨ passed = [kind] := by
  intro ends value next read
  unfold eat at read
  split at read
  · rename_i found
    cases read
    subst found
    exact ⟨[place.current.kind], Place.kinds_advance ends inner, Or.inr rfl⟩
  · cases read
    exact ⟨[], rfl, Or.inl rfl⟩

section Steps

variable {condition : List TokenKind → β → Prop}

theorem Yields.peek {rest : Token → Reader β} (continued : Yields place (rest place.current) condition) :
    Yields place (Grammar.peek >>= rest) condition := by
  intro ends value next read
  obtain ⟨_, _, passed, readRest⟩ := bind_ok read
  cases passed
  exact continued ends value next readRest

/-- Tokens that are passed stand before what is passed after them. -/
theorem Yields.passing (front : List TokenKind) {rest : Reader β} {next : Place}
    (ends : Ended place.kinds) (split : place.kinds = front ++ next.kinds)
    (continued : Yields next rest fun more result => condition (front ++ more) result)
    {value : β} {last : Place} (read : rest next = .ok (value, last)) :
    ∃ passed, place.kinds = passed ++ last.kinds ∧ condition passed value := by
  rw [split] at ends
  obtain ⟨more, split', holds⟩ :=
    continued (ends.of_append (List.cons_ne_nil _ _)) value last read
  exact ⟨front ++ more, by rw [split, split', List.append_assoc], holds⟩

theorem Yields.advance {kind : TokenKind} {rest : Token → Reader β}
    (found : place.current.kind = kind) (inner : kind ≠ .endOfFile)
    (continued : ∀ token next, Yields next (rest token) fun more result =>
      condition (kind :: more) result) :
    Yields place (Grammar.advance >>= rest) condition := by
  subst found
  intro ends value next read
  obtain ⟨_, _, passed, readRest⟩ := bind_ok read
  cases passed
  exact Yields.passing [place.current.kind] ends (Place.kinds_advance ends inner) (continued _ _)
    readRest

theorem Yields.expect {kind : TokenKind} {rest : Token → Reader β} (inner : kind ≠ .endOfFile)
    (continued : ∀ token next, Yields next (rest token) fun more result =>
      condition (kind :: more) result) :
    Yields place (Grammar.expect kind >>= rest) condition := by
  intro ends value next read
  obtain ⟨_, _, passed, readRest⟩ := bind_ok read
  unfold Grammar.expect at passed
  split at passed
  · rename_i found
    cases passed
    subst found
    exact Yields.passing [place.current.kind] ends (Place.kinds_advance ends inner) (continued _ _) readRest
  · cases passed

theorem Yields.identifier {expected : Expectation} {rest : String × Span → Reader β}
    (continued : ∀ name span next, Yields next (rest (name, span)) fun more result =>
      condition (.identifier name :: more) result) :
    Yields place (Grammar.identifier expected >>= rest) condition := by
  intro ends value next read
  obtain ⟨_, _, passed, readRest⟩ := bind_ok read
  unfold Grammar.identifier at passed
  split at passed
  · rename_i name found
    cases passed
    have split := Place.kinds_advance ends (by rw [found]; exact TokenKind.noConfusion)
    rw [found] at split
    exact Yields.passing [.identifier name] ends split (continued _ _ _) readRest
  · cases passed
  · cases passed

theorem Yields.ifEat {kind : TokenKind} {chosen other : Reader β} (inner : kind ≠ .endOfFile)
    (taken : ∀ next, Yields next chosen fun more result => condition (kind :: more) result)
    (left : place.current.kind ≠ kind → Yields place other condition) :
    Yields place (eat kind >>= fun found => if found = true then chosen else other) condition := by
  intro ends value next read
  obtain ⟨_, _, passed, readRest⟩ := bind_ok read
  unfold eat at passed
  split at passed
  · rename_i found
    cases passed
    subst found
    exact Yields.passing [place.current.kind] ends (Place.kinds_advance ends inner) (taken _) readRest
  · rename_i found
    cases passed
    exact left found ends value next readRest

theorem Yields.ifAt {kind : TokenKind} {chosen other : Reader β}
    (here : place.current.kind = kind → Yields place chosen condition)
    (elsewhere : place.current.kind ≠ kind → Yields place other condition) :
    Yields place (isAt kind >>= fun found => if found = true then chosen else other) condition := by
  intro ends value next read
  obtain ⟨_, _, passed, readRest⟩ := bind_ok read
  cases passed
  by_cases found : place.current.kind = kind
  · rw [if_pos (decide_eq_true found)] at readRest
    exact here found ends value next readRest
  · rw [if_neg (by simpa using found)] at readRest
    exact elsewhere found ends value next readRest

theorem Yields.skipNewlines {rest : Unit → Reader β}
    (continued : ∀ gap next, Newlines gap →
      (place.current.kind = .newline → ∃ later, gap = .newline :: later) →
      Yields next (rest ()) fun more result => condition (gap ++ more) result) :
    Yields place (Grammar.skipNewlines >>= rest) condition := by
  intro ends value next read
  obtain ⟨_, halfway, passed, readRest⟩ := bind_ok read
  obtain ⟨gap, split, newlines, first⟩ :=
    passNewlines_passes place.current place.previousEnd place.rest
  cases passed
  have some : place.current.kind = .newline → ∃ later, gap = .newline :: later := by
    intro newline
    refine first newline ?_
    intro none
    unfold Ended Place.kinds at ends
    rw [none, newline] at ends
    cases ends
  refine Yields.passing gap ends ?_ (continued gap _ newlines some) readRest
  exact split

theorem Yields.enterBlock {opener : Keyword} {span : Span} {rest : Unit → Reader β}
    (continued : ∀ next : Place, next.current = place.current →
      Yields next (rest ()) condition) :
    Yields place (Grammar.enterBlock opener span >>= rest) condition := by
  intro ends value next read
  obtain ⟨_, _, passed, readRest⟩ := bind_ok read
  cases passed
  exact continued { place with openers := (opener, span) :: place.openers } rfl ends value next
    readRest

theorem Yields.leaveBlock {closer : Keyword} {rest : Unit → Reader β}
    (continued : ∀ next, Yields next (rest ()) fun more result =>
      condition (.keyword closer :: more) result) :
    Yields place (Grammar.leaveBlock closer >>= rest) condition := by
  intro ends value next read
  obtain ⟨_, _, passed, readRest⟩ := bind_ok read
  unfold Grammar.leaveBlock at passed
  split at passed
  · rename_i found
    cases passed
    have split := Place.kinds_advance ends (by rw [found]; exact TokenKind.noConfusion)
    rw [found] at split
    refine Yields.passing [.keyword closer] ends ?_ (continued _) readRest
    exact split
  · split at passed
    · split at passed <;> cases passed
    · cases passed

theorem Yields.spanFrom {start : Position} {rest : Span → Reader β}
    (continued : ∀ span, Yields place (rest span) condition) :
    Yields place (Grammar.spanFrom start >>= rest) condition := by
  intro ends value next read
  obtain ⟨_, _, passed, readRest⟩ := bind_ok read
  cases passed
  exact continued _ ends value next readRest

end Steps

theorem Yields.nodeFrom {start : Position} {form : Form Node}
    {condition : List TokenKind → Node → Prop} (holds : ∀ span, condition [] ⟨span, form⟩) :
    Yields place (Grammar.nodeFrom start form) condition :=
  Yields.spanFrom fun span => Yields.pure (holds span)

theorem Yields.thenNode {start : Position} {form : Form Node} {rest : Node → Reader β}
    {condition : List TokenKind → β → Prop}
    (continued : ∀ span, Yields place (rest ⟨span, form⟩) condition) :
    Yields place (Grammar.nodeFrom start form >>= rest) condition := by
  intro ends value next read
  obtain ⟨_, _, passed, readRest⟩ := bind_ok read
  cases passed
  exact continued _ ends value next readRest

theorem Yields.repeated {reader : Nat → Reader α} {condition : List TokenKind → α → Prop}
    (each : ∀ fuel, Yields place (reader fuel) condition) :
    Yields place (Grammar.repeated reader) condition :=
  each _

end Grammar
end Scripting
