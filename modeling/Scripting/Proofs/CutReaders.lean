import Scripting.Proofs.CutTokens
import Scripting.Proofs.MisreadBrackets

namespace Scripting
namespace Grammar

/-!
Readers of tokens that are cut off.

A reader that succeeds in the whole list of tokens is compared with its reading of the shorter
one.  If it ends at the newline or before it, both readings are the same.  If it goes on
behind the newline, the second reading meets the end of the file, and what is said of it is
said of an error that it may end with.  There is one way out: an operand that is given up in
the whole list may be accepted in the shorter one.  Then the place is one that no reader
around it gets past, and it is enough to follow what becomes of such a place.
-/

open Lexical (Bracket Keyword Symbol Token TokenKind)
open Source (Position Span)
open Program

/-! ## The judgement -/

/-- A place is reached from another one, and the newline is not passed on the way. -/
structure Cut.Reaches (cut : Cut) (place next : Place) : Prop where
  moves : place.Moves next
  stays : cut.Before place → cut.Before next

/--
An error may come of a result: it is the one that the result consists of, or nothing was
wrong yet.  A reader that stops at the end of the file may already be bound to fail there.
-/
def Due {α : Type} (fault : ParseError) (halt : Option ParseError) :
    Except Failure (α × Place) → Prop
  | .error failure => fault = failure.toParseError
  | .ok (_, next) => next.current.kind = .endOfFile → ∀ stop ∈ halt, fault = stop

/--
How a reader that succeeds in the whole list of tokens ends in the shorter one, unless it
leaves a place that is lost.  What is said of its value holds if the error may come of the
second reading; and a place that was lost before it stays so.
-/
structure Kept {α : Type} (cut : Cut) (fault : ParseError) (place : Place) (lost : Prop)
    (halt : Option ParseError) (reader : Reader α) (right : α → Place → Prop)
    (leaves : Place → Prop) (value : α) (next : Place) : Prop where
  moves : place.Moves next
  strays : lost → leaves next
  ends : leaves next ∨
    (((cut.Before place → Due fault halt (reader (cut.shorten place))) → right value next) ∧
      (cut.Before next → reader (cut.shorten place) = .ok (value, cut.shorten next)))

/-- This is how the reader ends at a place with no more than some tokens behind it. -/
def Cuts {α : Type} (cut : Cut) (fault : ParseError) (bound : Nat) (place : Place) (lost : Prop)
    (halt : Option ParseError) (reader : Reader α) (right : α → Place → Prop)
    (leaves : Place → Prop) : Prop :=
  cut.layout.Laid place → place.rest.length ≤ bound → ∀ value next,
    reader place = .ok (value, next) →
      Kept cut fault place lost halt reader right leaves value next

variable {α β : Type} {cut : Cut} {fault : ParseError} {bound smaller : Nat} {place next : Place}
  {lost : Prop} {halt : Option ParseError} {leaves stops : Place → Prop}

/-- The error is due if it is due where the reader goes on. -/
theorem Due.of_bind {halt' : Option ParseError} {first : Reader α} {rest : α → Reader β}
    (ends : ∀ stop ∈ halt', ∀ value next, first place = .ok (value, next) →
      next.current.kind = .endOfFile → Due fault halt (rest value next) → fault = stop)
    (due : Due fault halt ((first >>= rest) place)) : Due fault halt' (first place) := by
  cases result : first place with
  | error error =>
      rw [bind_error result] at due
      exact due
  | ok pair =>
      rw [bind_of_ok result] at due
      intro last stop given
      exact ends stop given _ _ result last due

theorem Cut.Reaches.refl (cut : Cut) (place : Place) : cut.Reaches place place :=
  ⟨.refl place, id⟩

theorem Cut.Reaches.trans {last : Place} (first : cut.Reaches place next)
    (second : cut.Reaches next last) : cut.Reaches place last :=
  ⟨first.moves.trans second.moves, second.stays ∘ first.stays⟩

namespace Cuts

/-- What is known of the place may be used of the reader. -/
theorem known {reader : Reader α} {right : α → Place → Prop}
    (cuts : cut.layout.Laid place → Cuts cut fault bound place lost halt reader right leaves) :
    Cuts cut fault bound place lost halt reader right leaves :=
  fun laid => cuts laid laid

/-- A place that cannot be lost. -/
theorem unlost {reader : Reader α} {right : α → Place → Prop} (never : ¬ lost)
    (cuts : Cuts cut fault bound place False halt reader right leaves) :
    Cuts cut fault bound place lost halt reader right leaves := by
  intro laid within value next read
  rcases cuts laid within value next read with ⟨moves, -, ends⟩
  exact ⟨moves, fun gone => absurd gone never, ends⟩

theorem mono {reader : Reader α} {right weaker : α → Place → Prop} {leaves' : Place → Prop}
    (cuts : Cuts cut fault bound place lost halt reader right leaves)
    (implies : ∀ value next, cut.layout.Laid place → place.Moves next → right value next →
      weaker value next)
    (loses : ∀ next, leaves next → leaves' next) :
    Cuts cut fault bound place lost halt reader weaker leaves' := by
  intro laid within value next read
  rcases cuts laid within value next read with ⟨moves, strays, ends⟩
  refine ⟨moves, fun gone => loses _ (strays gone), ?_⟩
  rcases ends with gone | ⟨holds, same⟩
  · exact .inl (loses _ gone)
  · exact .inr ⟨fun due => implies _ _ laid moves (holds due), same⟩

/-- What is known of everything that the reader reads may be added. -/
theorem also {reader : Reader α} {right good : α → Place → Prop}
    (known : cut.layout.Laid place → ∀ value next, reader place = .ok (value, next) →
      good value next)
    (cuts : Cuts cut fault bound place lost halt reader right leaves) :
    Cuts cut fault bound place lost halt reader
      (fun value next => right value next ∧ good value next) leaves := by
  intro laid within value next read
  have holds := known laid value next read
  rcases cuts laid within value next read with ⟨moves, strays, ends⟩
  refine ⟨moves, strays, ends.imp id fun kept => ⟨fun due => ⟨kept.1 due, holds⟩, kept.2⟩⟩

/-- Fewer tokens are left than there may be. -/
theorem shrink {reader : Reader α} {right : α → Place → Prop} (less : smaller < bound)
    (cuts : Cuts cut fault bound place lost halt reader right leaves) :
    Cuts cut fault smaller place lost halt reader right leaves :=
  fun laid within => cuts laid (Nat.le_trans within (Nat.le_of_lt less))

/-- It is enough to look at the number of tokens that are left. -/
theorem tight {reader : Reader α} {right : α → Place → Prop}
    (cuts : place.rest.length ≤ bound →
      Cuts cut fault place.rest.length place lost halt reader right leaves) :
    Cuts cut fault bound place lost halt reader right leaves :=
  fun laid within => cuts within laid (Nat.le_refl _)

/-- What becomes of a lost place is clear from the whole list alone. -/
theorem straying {reader : Reader α} {right : α → Place → Prop}
    (cuts : Cuts cut fault bound place False halt reader right leaves)
    (strays : cut.layout.Laid place → place.rest.length ≤ bound → lost → ∀ value next,
      reader place = .ok (value, next) → leaves next) :
    Cuts cut fault bound place lost halt reader right leaves := by
  intro laid within value next read
  rcases cuts laid within value next read with ⟨moves, -, ends⟩
  exact ⟨moves, fun gone => strays laid within gone value next read, ends⟩

theorem pure {value : α} {right : α → Place → Prop} (holds : right value place)
    (strays : lost → leaves place) :
    Cuts cut fault bound place lost halt (Pure.pure value) right leaves := by
  intro _ _ value' next read
  cases read
  exact ⟨.refl place, strays, .inr ⟨fun _ => holds, fun _ => rfl⟩⟩

theorem unexpected {expected : Expectation} {right : α → Place → Prop} :
    Cuts cut fault bound place lost halt (Grammar.unexpected expected) right leaves :=
  fun _ _ _ _ read => nomatch read

theorem failAt {cause : Cause} {span : Span} {right : α → Place → Prop} :
    Cuts cut fault bound place lost halt (Grammar.failAt cause span) right leaves :=
  fun _ _ _ _ read => nomatch read

/-- A reader whose result at a place is that of another one at a later place, in both lists. -/
theorem onward {reader rest : Reader α} {lost' : Prop} {right : α → Place → Prop}
    (moves : place.Moves next) (same : reader place = rest next)
    (shortened : cut.Before place →
      cut.Before next ∧ reader (cut.shorten place) = rest (cut.shorten next))
    (short : next.rest.length ≤ smaller) (still : lost → lost')
    (continued : Cuts cut fault smaller next lost' halt rest right leaves) :
    Cuts cut fault bound place lost halt reader right leaves := by
  intro laid within value last read
  rw [same] at read
  rcases continued (laid.moves moves).1 short value last read with ⟨moves', strays, ends⟩
  refine ⟨moves.trans moves', fun gone => strays (still gone), ?_⟩
  rcases ends with gone | ⟨holds, equal⟩
  · exact .inl gone
  · refine .inr ⟨fun due => holds fun later => ?_, fun later => ?_⟩
    · have before := later.of_moves moves
      rw [← (shortened before).2]
      exact due before
    · have before := later.of_moves (moves.trans moves')
      rw [(shortened before).2]
      exact equal later

section Sequence

variable {right : β → Place → Prop}

/--
One reader after another.  If the first one stops at the end of the file, it has to be clear
what comes of the second one there.
-/
theorem bindHalting {halt' : Option ParseError} {first : Reader α} {rest : α → Reader β}
    {between : α → Place → Prop} (begun : Cuts cut fault bound place lost halt' first between stops)
    (ends : cut.layout.Laid place → cut.Before place → ∀ stop ∈ halt', ∀ value next,
      first (cut.shorten place) = .ok (value, next) → next.current.kind = .endOfFile →
      Due fault halt (rest value next) → fault = stop)
    (continued : ∀ value next, first place = .ok (value, next) → place.Moves next →
      Cuts cut fault bound next (stops next) halt (rest value)
        (fun result last => between value next → right result last) leaves) :
    Cuts cut fault bound place lost halt (first >>= rest) right leaves := by
  intro laid within value last read
  rcases bind_ok read with ⟨middle, halfway, readFirst, readRest⟩
  rcases begun laid within middle halfway readFirst with ⟨moves, strays, kept⟩
  have short := Nat.le_trans moves.length_le within
  rcases continued middle halfway readFirst moves (laid.moves moves).1 short value last readRest
    with ⟨moves', strays', kept'⟩
  refine ⟨moves.trans moves', fun gone => strays' (strays gone), ?_⟩
  rcases kept with gone | ⟨holds, same⟩
  · exact .inl (strays' gone)
  rcases kept' with gone | ⟨holds', same'⟩
  · exact .inl gone
  refine .inr ⟨fun due => holds' (fun later => ?_) (holds fun before => ?_), fun later => ?_⟩
  · have due := due (later.of_moves moves)
    rw [bind_of_ok (same later)] at due
    exact due
  · exact (due before).of_bind (ends laid before)
  · rw [bind_of_ok (same (later.of_moves moves'))]
    exact same' later

theorem bind {first : Reader α} {rest : α → Reader β} {between : α → Place → Prop}
    (begun : Cuts cut fault bound place lost none first between stops)
    (continued : ∀ value next, place.Moves next →
      Cuts cut fault bound next (stops next) halt (rest value)
        (fun result last => between value next → right result last) leaves) :
    Cuts cut fault bound place lost halt (first >>= rest) right leaves :=
  begun.bindHalting (fun _ _ _ none => nomatch none) fun value next _ => continued value next

/-- A reader that goes on where it is, in both lists. -/
theorem staying {reader rest : Reader β} (same : reader place = rest place)
    (same' : reader (cut.shorten place) = rest (cut.shorten place))
    (continued : Cuts cut fault bound place lost halt rest right leaves) :
    Cuts cut fault bound place lost halt reader right leaves :=
  fun laid within => onward (.refl place) same (fun before => ⟨before, same'⟩) within id continued
    laid within

theorem peek {rest : Token → Reader β}
    (continued : Cuts cut fault bound place lost halt (rest place.current) right leaves) :
    Cuts cut fault bound place lost halt (Grammar.peek >>= rest) right leaves := by
  have same : (Grammar.peek >>= rest) place = rest place.current place := rfl
  exact staying same rfl continued

/-- A token that is neither a newline nor the end of the file is passed. -/
theorem passing {reader rest : Reader β} {kind : TokenKind} (found : place.current.kind = kind)
    (inner : kind ≠ .endOfFile) (other : kind ≠ .newline) (never : ¬ lost)
    (same : ∀ here : Place, here.current = place.current → reader here = rest here.advance)
    (continued : ∀ smaller < bound, cut.Reaches place place.advance →
      Cuts cut fault smaller place.advance False halt rest right leaves) :
    Cuts cut fault bound place lost halt reader right leaves := by
  intro laid within
  rcases laid.near.advance (found ▸ inner) with ⟨moves, shorter⟩
  have less := Nat.lt_of_lt_of_le shorter within
  have passes (before : cut.Before place) := before.advance laid (found ▸ other)
  refine onward moves (same place rfl) (fun before => ?_) (Nat.le_refl _)
    (fun gone => absurd gone never)
    (continued _ less ⟨moves, fun before => (passes before).1⟩) laid within
  rcases passes before with ⟨later, equal⟩
  exact ⟨later, (same _ Cut.shorten_current).trans (congrArg rest equal.symm)⟩

theorem opening {rest : Token → Reader β} {kind : TokenKind} (found : place.current.kind = kind)
    (inner : kind ≠ .endOfFile) (other : kind ≠ .newline)
    (continued : ∀ smaller < bound, cut.Reaches place place.advance →
      Cuts cut fault smaller place.advance False halt (rest place.current) right leaves) :
    Cuts cut fault bound place False halt (Grammar.advance >>= rest) right leaves := by
  refine passing found inner other id (fun here same => ?_) continued
  rw [← same]
  rfl

theorem advance {rest : Token → Reader β} {kind : TokenKind} (found : place.current.kind = kind)
    (inner : kind ≠ .endOfFile) (other : kind ≠ .newline)
    (continued : ∀ next, ∀ smaller < bound, cut.Reaches place next →
      Cuts cut fault smaller next False halt (rest place.current) right leaves) :
    Cuts cut fault bound place False halt (Grammar.advance >>= rest) right leaves :=
  opening found inner other (continued _)

theorem expect {kind : TokenKind} {rest : Token → Reader β} (inner : kind ≠ .endOfFile)
    (other : kind ≠ .newline) (never : lost → place.current.kind ≠ kind)
    (continued : ∀ next, cut.Reaches place next →
      Cuts cut fault bound next False halt (rest place.current) right leaves) :
    Cuts cut fault bound place lost halt (Grammar.expect kind >>= rest) right leaves := by
  by_cases found : place.current.kind = kind
  · refine passing found inner other (fun gone => never gone found) (fun here same => ?_)
      fun _ below reaches => (continued _ reaches).shrink below
    have passed : Grammar.expect kind here = .ok (here.current, here.advance) :=
      if_pos (same ▸ found)
    rw [bind_of_ok passed, same]
  · have failed : Grammar.expect kind place = Grammar.unexpected (.token kind) place :=
      if_neg found
    intro _ _ value last read
    rw [bind_error failed] at read
    cases read

theorem identifier {expected : Expectation} {rest : String × Span → Reader β}
    (continued : ∀ name next, cut.Reaches place next →
      Cuts cut fault bound next False halt (rest (name, place.current.span)) right leaves) :
    Cuts cut fault bound place False halt (Grammar.identifier expected >>= rest) right leaves := by
  cases result : Grammar.identifier expected place with
  | error error =>
      intro _ _ value last read
      rw [bind_error result] at read
      cases read
  | ok pair =>
      unfold Grammar.identifier at result
      split at result
      · rename_i name found
        have onward : ∀ smaller < bound, cut.Reaches place place.advance →
            Cuts cut fault smaller place.advance False halt (rest (name, place.current.span)) right
              leaves :=
          fun _ below reaches => (continued name _ reaches).shrink below
        refine passing found nofun nofun id (fun here same => ?_) onward
        have passed : Grammar.identifier expected here =
            .ok ((name, here.current.span), here.advance) := by
          unfold Grammar.identifier
          rw [same, found]
        rw [bind_of_ok passed, same]
      · cases result
      · cases result

theorem ifEat {kind : TokenKind} {chosen otherwise : Reader β} (inner : kind ≠ .endOfFile)
    (other : kind ≠ .newline) (never : lost → place.current.kind ≠ kind)
    (taken : ∀ next, ∀ smaller < bound, cut.Reaches place next →
      Cuts cut fault smaller next False halt chosen right leaves)
    (left : Cuts cut fault bound place lost halt otherwise right leaves) :
    Cuts cut fault bound place lost halt
      (eat kind >>= fun found => if found = true then chosen else otherwise) right leaves := by
  by_cases found : place.current.kind = kind
  · refine passing found inner other (fun gone => never gone found) (fun here same => ?_) (taken _)
    have passed : eat kind here = .ok (true, here.advance) := if_pos (same ▸ found)
    exact bind_of_ok passed
  · have stays (here : Place) (same : here.current = place.current) :
        eat kind here = .ok (false, here) := if_neg (same ▸ found)
    exact staying (bind_of_ok (stays place rfl)) (bind_of_ok (stays _ Cut.shorten_current)) left

theorem eat {kind : TokenKind} {rest : Bool → Reader β} (inner : kind ≠ .endOfFile)
    (other : kind ≠ .newline)
    (continued : ∀ found next, cut.Reaches place next →
      Cuts cut fault bound next False halt (rest found) right leaves) :
    Cuts cut fault bound place False halt (Grammar.eat kind >>= rest) right leaves := by
  by_cases found : place.current.kind = kind
  · refine passing found inner other id (fun here same => ?_)
      fun _ below reaches => (continued true _ reaches).shrink below
    have passed : Grammar.eat kind here = .ok (true, here.advance) := if_pos (same ▸ found)
    exact bind_of_ok passed
  · have stays (here : Place) (same : here.current = place.current) :
        Grammar.eat kind here = .ok (false, here) := if_neg (same ▸ found)
    exact staying (bind_of_ok (stays place rfl)) (bind_of_ok (stays _ Cut.shorten_current))
      (continued false place (.refl cut place))

theorem ifAt {kind : TokenKind} {chosen otherwise : Reader β}
    (here : place.current.kind = kind → Cuts cut fault bound place lost halt chosen right leaves)
    (elsewhere : place.current.kind ≠ kind →
      Cuts cut fault bound place lost halt otherwise right leaves) :
    Cuts cut fault bound place lost halt
      (isAt kind >>= fun found => if found = true then chosen else otherwise) right leaves := by
  by_cases found : place.current.kind = kind
  · have looked (at' : Place) (same : at'.current = place.current) :
        isAt kind at' = .ok (true, at') := by
      rw [isAt, same, decide_eq_true found]
    exact staying (bind_of_ok (looked place rfl)) (bind_of_ok (looked _ Cut.shorten_current))
      (here found)
  · have looked (at' : Place) (same : at'.current = place.current) :
        isAt kind at' = .ok (false, at') := by
      rw [isAt, same, decide_eq_false found]
    exact staying (bind_of_ok (looked place rfl)) (bind_of_ok (looked _ Cut.shorten_current))
      (elsewhere found)

/--
Newlines are passed between statements.  If the newline in question is among them, the error
may come of what is read at the end of the file.
-/
theorem skipLines {rest : Unit → Reader β}
    (continued : ∀ next, next = place.skipped → Cuts cut fault bound next lost halt (rest ())
        (fun value last => (cut.Before place → ¬ cut.Before next → ∃ ended : Place,
          ended.current.kind = .endOfFile ∧ ended.openers = place.openers ∧
            Due fault halt (rest () ended)) → right value last) leaves) :
    Cuts cut fault bound place lost halt (Grammar.skipNewlines >>= rest) right leaves := by
  intro laid within value last read
  have moves := Place.moves_skipped place
  have short := Nat.le_trans moves.length_le within
  rcases continued place.skipped rfl (laid.moves moves).1 short value last read with
    ⟨moves', strays, ends⟩
  refine ⟨moves.trans moves', strays, ?_⟩
  rcases ends with gone | ⟨holds, same⟩
  · exact .inl gone
  refine .inr ⟨fun due => holds (fun later => ?_) (fun before past => ?_), fun later => ?_⟩
  · have before := later.of_moves moves
    rcases before.skipped laid with ⟨-, equal⟩ | ⟨past, -⟩
    · rw [equal]
      exact due before
    · exact absurd later past
  · rcases before.skipped laid with ⟨later, -⟩ | ⟨-, last⟩
    · exact absurd later past
    · exact ⟨_, last, rfl, due before⟩
  · have before := later.of_moves (moves.trans moves')
    rcases before.skipped laid with ⟨-, equal⟩ | ⟨past, -⟩
    · have same := same later
      rw [equal] at same
      exact same
    · exact absurd (later.of_moves moves') past

theorem skipNewlines {rest : Unit → Reader β}
    (continued : ∀ next, next = place.skipped →
      Cuts cut fault bound next lost halt (rest ()) right leaves) :
    Cuts cut fault bound place lost halt (Grammar.skipNewlines >>= rest) right leaves :=
  skipLines fun next same =>
    (continued next same).mono (fun _ _ _ _ holds _ => holds) fun _ gone => gone

theorem enterBlock {opener : Keyword} {span : Span} {rest : Unit → Reader β}
    (continued : ∀ next : Place, cut.Reaches place next → next.current = place.current →
      next.openers = (opener, span) :: place.openers →
      Cuts cut fault bound next lost halt (rest ()) right leaves) :
    Cuts cut fault bound place lost halt (Grammar.enterBlock opener span >>= rest) right
      leaves := by
  let entered : Place := { place with openers := (opener, span) :: place.openers }
  have moves : place.Moves entered := ⟨[], rfl, rfl, rfl⟩
  intro laid within
  exact onward moves rfl (fun before => ⟨before, rfl⟩) within id (continued entered ⟨moves, id⟩ rfl rfl)
    laid within

theorem leaveBlock {closer : Keyword} {rest : Unit → Reader β}
    (never : lost → place.current.kind ≠ .keyword closer)
    (continued : ∀ next, cut.Reaches place next →
      Cuts cut fault bound next False halt (rest ()) right leaves) :
    Cuts cut fault bound place lost halt (Grammar.leaveBlock closer >>= rest) right leaves := by
  by_cases found : place.current.kind = .keyword closer
  · let closed (here : Place) : Place := { here.advance with openers := here.openers.tail }
    have passed (here : Place) (same : here.current = place.current) :
        Grammar.leaveBlock closer here = .ok ((), closed here) := if_pos (same ▸ found)
    intro laid within
    rcases laid.near.advance (by rw [found]; nofun) with ⟨moves, shorter⟩
    have onto : place.Moves (closed place) := moves
    have passes (before : cut.Before place) := before.advance laid (by rw [found]; nofun)
    refine onward onto (bind_of_ok (passed place rfl)) (fun before => ?_) (Nat.le_refl _)
      (fun gone => absurd found (never gone))
      ((continued _ ⟨onto, fun before => (passes before).1⟩).shrink
        (Nat.lt_of_lt_of_le shorter within)) laid within
    rcases passes before with ⟨later, equal⟩
    refine ⟨later, (bind_of_ok (passed _ Cut.shorten_current)).trans ?_⟩
    have same : closed (cut.shorten place) = cut.shorten (closed place) := by
      simp only [closed, ← equal]
      rfl
    rw [same]
  · cases result : Grammar.leaveBlock closer place with
    | error error =>
        intro _ _ value last read
        rw [bind_error result] at read
        cases read
    | ok pair =>
        unfold Grammar.leaveBlock at result
        rw [if_neg found] at result
        split at result
        · split at result <;> cases result
        · cases result

theorem spanFrom {start : Position} {rest : Span → Reader β}
    (continued : Cuts cut fault bound place lost halt (rest (place.spanAfter start)) right leaves) :
    Cuts cut fault bound place lost halt (Grammar.spanFrom start >>= rest) right leaves := by
  have same : (Grammar.spanFrom start >>= rest) place = rest (place.spanAfter start) place := rfl
  exact staying same rfl continued

theorem thenNode {start : Position} {form : Form Node} {rest : Node → Reader β}
    (continued : Cuts cut fault bound place lost halt (rest ⟨place.spanAfter start, form⟩) right
      leaves) :
    Cuts cut fault bound place lost halt (Grammar.nodeFrom start form >>= rest) right leaves := by
  have same : (Grammar.nodeFrom start form >>= rest) place =
      rest ⟨place.spanAfter start, form⟩ place := rfl
  exact staying same rfl continued

end Sequence

theorem nodeFrom {start : Position} {form : Form Node} {right : Node → Place → Prop}
    (holds : right ⟨place.spanAfter start, form⟩ place) (strays : lost → leaves place) :
    Cuts cut fault bound place lost halt (Grammar.nodeFrom start form) right leaves :=
  spanFrom (pure holds strays)

/-- A repetition may go on for as many turns in the shorter list. -/
theorem repeated {loop : Nat → Reader α} {right : α → Place → Prop} (repetition : Repetition loop)
    (each : ∀ fuel, place.rest.length < fuel →
      Cuts cut fault bound place lost halt (loop fuel) right leaves) :
    Cuts cut fault bound place lost halt (Grammar.repeated loop) right leaves := by
  intro laid within
  have once := each (place.rest.length + 1) (Nat.lt_succ_self _)
  have same : Grammar.repeated loop place = loop (place.rest.length + 1) place := rfl
  refine onward (.refl place) same (fun before => ⟨before, ?_⟩) within id once laid within
  have fewer : (cut.shorten place).rest.length < place.rest.length + 1 := by
    have reaches : cut.after.length ≤ place.rest.length := before
    have some := cut.after_pos
    simp only [Cut.shorten, List.length_append, List.length_take, List.length_singleton]
    omega
  exact repetition.steady _ _ _ _ (Nat.lt_succ_self _) fewer (before.near laid).closed_here
    (Nat.le_refl _)

end Cuts

end Grammar
end Scripting
