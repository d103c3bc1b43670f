import Scripting.Proofs.Composition
import Scripting.Session.Basic

namespace Scripting
namespace Evaluation

/-!
What may leave a call.

A return, a break or a continue belongs to the function or the loop around it.  The
body of a function keeps them in: it takes a return for its result and makes an error
of anything else.  The defaults of its parameters are evaluated before the body, where
nothing keeps signals in.  They are the only way out, and this module says exactly
which calls send a signal to the code that makes them.
-/

open Data (BuiltinId ClassId Function FunctionId ObjectId Scope Value)
open Program (Node)
open Source (Span)

/-- An ending in a signal that a loop or a function may take for its own. -/
def Sends {α : Type} (ending : Ending α) (signal : Signal) (after : Machine) : Prop :=
  ending = .error (.signal signal) after ∧ signal.isLocal = true

/--
One of the optional parameters is given no argument, and its default sends a signal when
it is evaluated, after those before it have been bound.
-/
inductive DefaultSends (self : Evaluator) (frame : Frame) (signal : Signal) (after : Machine) :
    List (String × Node) → List (Option Value) → Machine → Prop
  | here {parameter : String} {node : Node} {parameters : List (String × Node)}
      {arguments : List (Option Value)} {machine : Machine}
      (omitted : arguments.head?.join = none)
      (sent : Sends (self.eval node frame machine) signal after) :
      DefaultSends self frame signal after ((parameter, node) :: parameters) arguments machine
  | given {parameter : String} {node : Node} {parameters : List (String × Node)} {value : Value}
      {rest : List (Option Value)} {machine between : Machine}
      (bound : bindName frame parameter value machine = .ok () between)
      (later : DefaultSends self frame signal after parameters rest between) :
      DefaultSends self frame signal after ((parameter, node) :: parameters)
        (some value :: rest) machine
  | defaulted {parameter : String} {node : Node} {parameters : List (String × Node)}
      {arguments : List (Option Value)} {value : Value} {machine evaluated between : Machine}
      (omitted : arguments.head?.join = none)
      (ended : self.eval node frame machine = .ok value evaluated)
      (bound : bindName frame parameter value evaluated = .ok () between)
      (later : DefaultSends self frame signal after parameters arguments.tail between) :
      DefaultSends self frame signal after ((parameter, node) :: parameters) arguments machine

/--
A call sends a signal because a default of the function that it enters does: of the
function or method that is called, or of the initializer of the class that is called.
-/
inductive DefaultEscapes (settings : Settings) (site : CallSite) (signal : Signal) :
    Nat → Value → List (Option Value) → Machine → Machine → Prop
  | function {fuel : Nat} {id : FunctionId} {arguments rest : List (Option Value)} {scope : Scope}
      {machine opened between after : Machine}
      (accepted : arityFault? (machine.heap.function id) arguments.length = none)
      (below : machine.depth < settings.maxDepth)
      (opens : openScope .empty (machine.heap.function id).scope
        { machine with depth := machine.depth + 1 } = .ok scope opened)
      (bound : bindRequired site (calleeFrame (machine.heap.function id) site scope)
        (machine.heap.function id) (machine.heap.function id).required arguments opened =
          .ok rest between)
      (sent : DefaultSends (perform settings fuel)
        (calleeFrame (machine.heap.function id) site scope) signal after
        (machine.heap.function id).optional rest between) :
      DefaultEscapes settings site signal fuel (.function id) arguments machine
        { after with depth := after.depth - 1 }
  | method {fuel : Nat} {id : FunctionId} {receiver : ObjectId} {arguments : List (Option Value)}
      {machine after : Machine}
      (escapes : DefaultEscapes settings site signal fuel (.function id)
        (some (.object receiver) :: arguments) machine after) :
      DefaultEscapes settings site signal fuel (.method id receiver) arguments machine after
  | initializer {fuel : Nat} {id : ClassId} {object : ObjectId} {member : Value}
      {arguments : List (Option Value)} {machine created after : Machine}
      (made : newInstance id machine = .ok object created)
      (found : created.heap.attribute? object initializer = some member)
      (escapes : DefaultEscapes settings site signal fuel member arguments created after) :
      DefaultEscapes settings site signal (fuel + 1) (.constructor id) arguments machine after

variable {α β : Type} {signal : Signal} {machine after : Machine}

/-! ## What sends no signal -/

theorem Elementary.not_sends {alike : Trail → Trail → Prop} {action other : Action α}
    (elementary : Elementary alike action other) : ¬ Sends (action machine) signal after := by
  rintro ⟨ended, isLocal⟩
  have silent := elementary.silent ended
  rw [isLocal] at silent
  cases silent

/-- A sequence sends a signal in its first action or in the second. -/
theorem sends_bind_iff {action : Action α} {next : α → Action β} :
    Sends ((action >>= next) machine) signal after ↔
      Sends (action machine) signal after ∨
        ∃ value between, action machine = .ok value between ∧
          Sends (next value between) signal after := by
  unfold Sends
  rw [bind_eq_error_iff]
  constructor
  · rintro ⟨first | ⟨value, between, ended, second⟩, isLocal⟩
    · exact .inl ⟨first, isLocal⟩
    · exact .inr ⟨value, between, ended, second, isLocal⟩
  · rintro (⟨first, isLocal⟩ | ⟨value, between, ended, second, isLocal⟩)
    · exact ⟨.inl first, isLocal⟩
    · exact ⟨.inr ⟨value, between, ended, second⟩, isLocal⟩

/-- A call sends what runs inside it sends, and it begins only below the limit. -/
theorem sends_withinCall_iff {settings : Settings} {frame : Frame} {span : Span}
    {action : Action α} :
    Sends (withinCall settings frame span action machine) signal after ↔
      machine.depth < settings.maxDepth ∧
        ∃ between, Sends (action { machine with depth := machine.depth + 1 }) signal between ∧
          after = { between with depth := between.depth - 1 } := by
  unfold withinCall
  by_cases full : settings.maxDepth ≤ machine.depth
  · rw [if_pos full]
    constructor
    · intro sent
      exact absurd sent (Elementary.raise (.refl frame) span .recursionLimit).not_sends
    · rintro ⟨below, _⟩
      exact absurd full (Nat.not_le_of_lt below)
  · rw [if_neg full]
    cases action { machine with depth := machine.depth + 1 } with
    | ok value between => simp [Sends]
    | error interrupt between =>
        constructor
        · rintro ⟨ended, isLocal⟩
          cases ended
          exact ⟨Nat.lt_of_not_le full, between, ⟨rfl, isLocal⟩, rfl⟩
        · rintro ⟨_, _, ⟨ended, isLocal⟩, rfl⟩
          cases ended
          exact ⟨rfl, isLocal⟩

/-- Nothing that the body of a function sends leaves it. -/
theorem not_sends_catchReturn {frame : Frame} {action : Action Value} :
    ¬ Sends (catchReturn frame action machine) signal after := by
  rintro ⟨ended, isLocal⟩
  unfold catchReturn at ended
  generalize action machine = ending at ended
  match ending with
  | .ok _ _ => cases ended
  | .error (.signal (.returned _ _)) _ => cases ended
  | .error (.signal (.jumped _ _ _)) _ => cases ended
  | .error (.signal (.exited _)) _ =>
      cases ended
      cases isLocal
  | .error (.error _) _ => cases ended
  | .error .outOfFuel _ => cases ended

/-- A fault that names the type of a value is no signal. -/
theorem not_sends_raiseTyped {frame : Frame} {span : Span} {value : Value}
    {fault : String → Data.Fault} :
    ¬ Sends ((do raise frame span (fault (← typeName value)) : Action α) machine) signal
      after := by
  rintro ⟨ended, _⟩
  cases ended

/-! ## Parameters -/

theorem not_sends_bindName {frame : Frame} {name : String} {value : Value} :
    ¬ Sends (bindName frame name value machine) signal after := by
  rintro ⟨ended, _⟩
  cases ended

theorem not_sends_bindRequired {site : CallSite} {frame : Frame} {function : Function}
    (required : List String) (arguments : List (Option Value)) :
    ¬ Sends (bindRequired site frame function required arguments machine) signal after := by
  induction required generalizing arguments machine with
  | nil =>
      rintro ⟨ended, _⟩
      cases ended
  | cons parameter parameters ih =>
      have missing := @Elementary.raise Eq (List (Option Value)) site.frame site.frame (.refl _)
        site.span (.missingArgument .defined function.name parameter)
      match arguments with
      | some value :: rest =>
          intro sent
          rcases sends_bind_iff.mp sent with early | ⟨_, between, _, late⟩
          · exact not_sends_bindName early
          · exact ih rest late
      | none :: rest => exact missing.not_sends
      | [] => exact missing.not_sends

theorem bindOptional_of_omitted {self : Evaluator} {frame : Frame} {parameter : String}
    {node : Node} {parameters : List (String × Node)} {arguments : List (Option Value)}
    (omitted : arguments.head?.join = none) :
    bindOptional self frame ((parameter, node) :: parameters) arguments = (do
      let value ← self.eval node frame
      bindName frame parameter value
      bindOptional self frame parameters arguments.tail) := by
  match arguments with
  | some value :: rest => cases omitted
  | none :: rest => rfl
  | [] => rfl

/-- Binding the optional parameters sends a signal exactly if a default does. -/
theorem sends_bindOptional_iff {self : Evaluator} {frame : Frame}
    (optional : List (String × Node)) (arguments : List (Option Value)) :
    Sends (bindOptional self frame optional arguments machine) signal after ↔
      DefaultSends self frame signal after optional arguments machine := by
  induction optional generalizing arguments machine with
  | nil =>
      constructor
      · rintro ⟨ended, _⟩
        cases ended
      · intro impossible
        cases impossible
  | cons entry parameters ih =>
      obtain ⟨parameter, node⟩ := entry
      constructor
      · intro sent
        by_cases omitted : arguments.head?.join = none
        · rw [bindOptional_of_omitted omitted] at sent
          rcases sends_bind_iff.mp sent with early | ⟨value, evaluated, ended, late⟩
          · exact .here omitted early
          · rcases sends_bind_iff.mp late with binding | ⟨_, between, bound, later⟩
            · exact absurd binding not_sends_bindName
            · exact .defaulted omitted ended bound ((ih _).mp later)
        · match arguments with
          | some value :: rest =>
              rcases sends_bind_iff.mp sent with binding | ⟨_, between, bound, later⟩
              · exact absurd binding not_sends_bindName
              · exact .given bound ((ih rest).mp later)
          | none :: rest => exact absurd rfl omitted
          | [] => exact absurd rfl omitted
      · intro sends
        cases sends with
        | here omitted sent =>
            rw [bindOptional_of_omitted omitted]
            exact sends_bind_iff.mpr (.inl sent)
        | given bound later =>
            exact sends_bind_iff.mpr (.inr ⟨(), _, bound, (ih _).mpr later⟩)
        | defaulted omitted ended bound later =>
            rw [bindOptional_of_omitted omitted]
            refine sends_bind_iff.mpr (.inr ⟨_, _, ended, ?_⟩)
            exact sends_bind_iff.mpr (.inr ⟨(), _, bound, (ih _).mpr later⟩)

/-! ## Calls -/

/-- A function that has been entered sends a signal exactly if one of its defaults does. -/
theorem sends_enterFunction_iff {self : Evaluator} {function : Function}
    {arguments : List (Option Value)} {site : CallSite} :
    Sends (enterFunction self function arguments site machine) signal after ↔
      ∃ scope opened rest between,
        openScope .empty function.scope machine = .ok scope opened ∧
        bindRequired site (calleeFrame function site scope) function function.required arguments
          opened = .ok rest between ∧
        DefaultSends self (calleeFrame function site scope) signal after function.optional rest
          between := by
  constructor
  · intro sent
    rcases sends_bind_iff.mp sent with opening | ⟨scope, opened, opens, inside⟩
    · obtain ⟨impossible, _⟩ := opening
      cases impossible
    rcases sends_bind_iff.mp inside with binding | ⟨rest, between, bound, inside⟩
    · exact absurd binding (not_sends_bindRequired _ _)
    rcases sends_bind_iff.mp inside with defaults | ⟨_, _, _, body⟩
    · exact ⟨scope, opened, rest, between, opens, bound,
        (sends_bindOptional_iff _ _).mp defaults⟩
    · exact absurd body not_sends_catchReturn
  · rintro ⟨scope, opened, rest, between, opens, bound, sends⟩
    have defaults := (sends_bindOptional_iff _ _).mpr sends
    refine sends_bind_iff.mpr (.inr ⟨scope, opened, opens, ?_⟩)
    refine sends_bind_iff.mpr (.inr ⟨rest, between, bound, ?_⟩)
    exact sends_bind_iff.mpr (.inl defaults)

section Calls

variable {settings : Settings} {fuel : Nat} {arguments : List (Option Value)} {site : CallSite}

theorem sends_callFunction_iff {id : FunctionId} :
    Sends (callFunction (perform settings fuel) settings id arguments site machine) signal after ↔
      DefaultEscapes settings site signal fuel (.function id) arguments machine after := by
  rw [callFunction_apply]
  constructor
  · intro sent
    cases accepted : arityFault? (machine.heap.function id) arguments.length with
    | some fault =>
        rw [accepted] at sent
        exact absurd sent (Elementary.raise (.refl site.frame) site.span fault).not_sends
    | none =>
        rw [accepted] at sent
        obtain ⟨below, ended, inside, rfl⟩ := sends_withinCall_iff.mp sent
        obtain ⟨scope, opened, rest, between, opens, bound, sends⟩ :=
          sends_enterFunction_iff.mp inside
        exact .function accepted below opens bound sends
  · intro escapes
    cases escapes with
    | function accepted below opens bound sends =>
        rw [accepted]
        have inside := sends_enterFunction_iff.mpr ⟨_, _, _, _, opens, bound, sends⟩
        exact sends_withinCall_iff.mpr ⟨below, _, inside, rfl⟩

theorem not_sends_callBuiltin {id : BuiltinId} :
    ¬ Sends (callBuiltin settings id arguments site machine) signal after := by
  intro sent
  rcases sends_bind_iff.mp sent with reading | ⟨builtin, _, _, rest⟩
  · obtain ⟨impossible, _⟩ := reading
    cases impossible
  rcases sends_bind_iff.mp rest with checking | ⟨bound, _, _, running⟩
  · exact (Elementary.check (.refl site.frame) site.span _).not_sends checking
  obtain ⟨_, _, inside, _⟩ := sends_withinCall_iff.mp running
  have parallel := (CallSite.Parallel.refl site).builtinCall builtin
  exact (Elementary.runOperation parallel builtin.operation bound).not_sends inside

theorem not_sends_callSequence {sequence : Value} :
    ¬ Sends (callSequence sequence arguments site machine) signal after := by
  unfold callSequence
  split
  · exact (Elementary.check (.refl site.frame) site.span _).not_sends
  · exact not_sends_raiseTyped

/-- An instance sends a signal exactly if the call of its initializer does. -/
theorem sends_instantiate_iff {self : Evaluator} {id : ClassId} :
    Sends (instantiate self id arguments site machine) signal after ↔
      ∃ object created member,
        newInstance id machine = .ok object created ∧
        created.heap.attribute? object initializer = some member ∧
        Sends (self (.call member arguments site) created) signal after := by
  constructor
  · intro sent
    rcases sends_bind_iff.mp sent with making | ⟨object, created, made, rest⟩
    · obtain ⟨impossible, _⟩ := making
      cases impossible
    rcases sends_bind_iff.mp rest with reading | ⟨found, unchanged, read, rest⟩
    · obtain ⟨impossible, _⟩ := reading
      cases impossible
    obtain ⟨found', rfl⟩ := EStateM.Result.ok.inj read
    cases found with
    | some member =>
        rcases sends_bind_iff.mp rest with calling | ⟨_, _, _, impossible, _⟩
        · exact ⟨object, created, member, made, found', calling⟩
        · cases impossible
    | none =>
        -- Without an initializer there is a new object, or too many arguments.
        by_cases none : arguments.isEmpty = true
        · simp only [if_pos none] at rest
          obtain ⟨impossible, _⟩ := rest
          cases impossible
        · simp only [if_neg none] at rest
          obtain ⟨impossible, _⟩ := rest
          cases impossible
  · rintro ⟨object, created, member, made, found, sent⟩
    have read : readHeap (fun heap => heap.attribute? object initializer) created =
        .ok (some member) created :=
      congrArg (EStateM.Result.ok · created) found
    refine sends_bind_iff.mpr (.inr ⟨object, created, made, ?_⟩)
    refine sends_bind_iff.mpr (.inr ⟨some member, created, read, ?_⟩)
    exact sends_bind_iff.mpr (.inl sent)

/-- What a call sends, given what the call of a class sends. -/
theorem sends_callValue_iff {callee : Value}
    (classes : ∀ id,
      Sends (instantiate (perform settings fuel) id arguments site machine) signal after ↔
        DefaultEscapes settings site signal fuel (.constructor id) arguments machine after) :
    Sends (callValue (perform settings fuel) settings callee arguments site machine) signal
        after ↔
      DefaultEscapes settings site signal fuel callee arguments machine after := by
  cases callee with
  | function id => exact sends_callFunction_iff
  | method id receiver =>
      constructor
      · intro sent
        exact .method (sends_callFunction_iff.mp sent)
      · intro escapes
        cases escapes with
        | method escapes => exact sends_callFunction_iff.mpr escapes
  | constructor id => exact classes id
  | builtin id => exact iff_of_false not_sends_callBuiltin nofun
  | list id => exact iff_of_false not_sends_callSequence nofun
  | text value => exact iff_of_false not_sends_callSequence nofun
  | _ => exact iff_of_false not_sends_raiseTyped nofun

/--
A call sends a return, a break or a continue to the code that makes it exactly if it
comes to a default of the callee that does so.  Bodies of functions send none, nor do
functions of the language, lists, texts, or values that cannot be called.
-/
theorem call_sends_iff_default_escapes (settings : Settings) (fuel : Nat) (callee : Value)
    (arguments : List (Option Value)) (site : CallSite) (machine after : Machine)
    (signal : Signal) :
    Sends (callValue (perform settings fuel) settings callee arguments site machine) signal
        after ↔
      DefaultEscapes settings site signal fuel callee arguments machine after := by
  -- Fuel is used up only where a class is called, by the call of its initializer.
  induction fuel generalizing callee arguments machine with
  | zero =>
      refine sends_callValue_iff ?_
      intro id
      rw [sends_instantiate_iff]
      constructor
      · rintro ⟨_, _, _, _, _, impossible, _⟩
        cases impossible
      · intro escapes
        cases escapes
  | succ fuel ih =>
      refine sends_callValue_iff ?_
      intro id
      rw [sends_instantiate_iff]
      constructor
      · rintro ⟨object, created, member, made, found, sent⟩
        exact .initializer made found ((ih member arguments created).mp sent)
      · intro escapes
        cases escapes with
        | @initializer _ _ object member _ _ created _ made found escapes =>
            exact ⟨object, created, member, made, found,
              (ih member arguments created).mpr escapes⟩

end Calls

end Evaluation

namespace Session

open Evaluation

/-- A function whose default is a break sends it, and the endless loop that calls it ends. -/
theorem default_break_sent_to_caller :
    let span : Source.Span := ⟨.start, .start⟩
    let document : Source.Document :=
      ⟨"main.ql", "def f(x = if 1 then break) -> x\nloop\n  f()\nend"⟩
    let leave : Program.Node :=
      ⟨span, .conditional [(⟨span, .number (.int 1)⟩, ⟨span, .breakLoop none⟩)] none false⟩
    let define : Program.Node :=
      ⟨span, .function (some "f") [] [("x", leave)] ⟨span, .name "x"⟩ true⟩
    let call : Program.Node := ⟨span, .call ⟨span, .name "f"⟩ []⟩
    let endless : Program.Node := ⟨span, .loop none .endless call true⟩
    let state := ((start {} {} {}).evaluate 6 document define).2
    let site : CallSite := ⟨programFrame document, span, []⟩
    (∃ after, Sends (callValue (perform {} 6) {} (.function ⟨0⟩) [] site state.machine)
      (.jumped .leave none ⟨document, span⟩) after) ∧
      (state.evaluate 6 document endless).1 = .finished .nothing := by
  intro span document leave define call endless state site
  exact ⟨⟨_, rfl, rfl⟩, rfl⟩

end Session
end Scripting
