import Mathlib.Algebra.Order.Floor.Ring
import Mathlib.Algebra.Order.Ring.Rat
import Mathlib.Data.Rat.Floor
import Mathlib.Tactic.FieldSimp
import Mathlib.Tactic.Linarith
import Scripting.Proofs.EnoughFuel
import Scripting.Proofs.HaltingForms
import Scripting.Proofs.ScopeTables

namespace Scripting
namespace Evaluation

/-!
Loops over a course that is fixed beforehand.

A counted loop and a loop over items settle what they visit before the first pass.  The body
may bind the variable anew or change the list that is visited, and it makes no difference: the
passes that are made are those that were settled, in their order.  Whether they end is up to
the body.
-/

open Data (ListId Value)
open Program (LoopHeader Node)

/-- From some amount of fuel on, a task ends in a given way. -/
def Comes (settings : Settings) (task : Task) (machine : Machine) (ending : Ending Value) : Prop :=
  ∃ enough, ∀ fuel, enough ≤ fuel → perform settings fuel task machine = ending

/-- A task that ends with some amount of fuel ends in this way from there on. -/
theorem Comes.of_run {settings : Settings} {task : Task} {machine : Machine}
    {ending : Ending Value} (fuel : Nat) (ended : perform settings fuel task machine = ending)
    (ends : ∀ after, ending ≠ .error .outOfFuel after) : Comes settings task machine ending :=
  ⟨fuel, fun _ enough => (perform_of_le enough (ended ▸ ends)).trans ended⟩

/-! ## Courses -/

/-- What a loop visits: the integers from one bound up to another, or items that are there. -/
inductive Course where
  | counted (first last step : Int64)
  | listed (items : List Value)

/-- How many steps lead from a bound up to or past another one. -/
def stepsBetween (first last step : Int64) : Int :=
  ⌈((last.toInt - first.toInt : Int) : ℚ) / step.toInt⌉

/-- The items that a loop visits on its course, one by one. -/
def Course.Lists : Course → List Value → Prop
  | .counted first last step, items =>
      (items.length : Int) = max 0 (stepsBetween first last step) ∧
        ∀ k (inside : k < items.length),
          ∃ n : Int64, items[k] = .int n ∧ n.toInt = first.toInt + k * step.toInt
  | .listed given, items => items = given

/-- What the header of a loop settles: the variable, the course, and where the passes begin. -/
inductive Fixes (settings : Settings) (frame : Frame) :
    LoopHeader Node → Machine → String → Course → Machine → Prop
  | counted {name : String} {first last : Node} {a b : Int64} {machine between begun : Machine}
      (start : Comes settings (.evaluate first frame) machine (.ok (.int a) between))
      (stop : Comes settings (.evaluate last frame) between (.ok (.int b) begun)) :
      Fixes settings frame (.counted name first last none) machine name (.counted a b 1) begun
  | stepped {name : String} {first last step : Node} {a b s : Int64}
      {machine between later begun : Machine}
      (start : Comes settings (.evaluate first frame) machine (.ok (.int a) between))
      (stop : Comes settings (.evaluate last frame) between (.ok (.int b) later))
      (stride : Comes settings (.evaluate step frame) later (.ok (.int s) begun)) (moves : s ≠ 0) :
      Fixes settings frame (.counted name first last (some step)) machine name (.counted a b s)
        begun
  | elements {name : String} {node : Node} {id : ListId} {machine begun : Machine}
      (given : Comes settings (.evaluate node frame) machine (.ok (.list id) begun)) :
      Fixes settings frame (.each name node) machine name (.listed (begun.heap.list id)) begun
  | characters {name : String} {node : Node} {s : String} {machine begun : Machine}
      (given : Comes settings (.evaluate node frame) machine (.ok (.text s) begun)) :
      Fixes settings frame (.each name node) machine name
        (.listed (s.toList.map fun c => .text (String.ofList [c]))) begun

/-! ## Passes -/

/-- The machine in which a variable of the frame is bound. -/
def Machine.binding (machine : Machine) (frame : Frame) (name : String) (item : Value) : Machine :=
  { machine with heap := machine.heap.bind frame.scope.inner name item }

/-- A pass through a body: what is visited, and what became of it.  Without a value it was cut short. -/
structure Iteration where
  item : Value
  before : Machine
  result : Option Value
  after : Machine

/-- A body ends normally or goes on with the next pass of its loop. -/
inductive BodyEnds (settings : Settings) (frame : Frame) (label : Option String) (body : Node)
    (before : Machine) : Option Value → Machine → Prop
  | normally {value : Value} {after : Machine}
      (comes : Comes settings (.evaluate body frame) before (.ok value after)) :
      BodyEnds settings frame label body before (some value) after
  | continued {target : Option String} {place : Source.Place} {after : Machine}
      (comes : Comes settings (.evaluate body frame) before
        (.error (.signal (.jumped .next target place)) after))
      (meant : target = none ∨ target = label) :
      BodyEnds settings frame label body before none after

/-- Passes one after another, each of which begins with its item bound to the variable. -/
inductive Iterates (frame : Frame) (name : String)
    (ends : Machine → Option Value → Machine → Prop) :
    Machine → List Iteration → Machine → Prop
  | done (machine : Machine) : Iterates frame name ends machine [] machine
  | pass {machine after reached : Machine} {item : Value} {result : Option Value}
      {iterations : List Iteration} (body : ends (machine.binding frame name item) result after)
      (rest : Iterates frame name ends after iterations reached) :
      Iterates frame name ends machine
        (⟨item, machine.binding frame name item, result, after⟩ :: iterations) reached

/-- Every pass that a loop comes to ends normally or goes on with the next one. -/
def Steady (settings : Settings) (frame : Frame) (label : Option String) (name : String)
    (body : Node) (course : Course) (begun : Machine) : Prop :=
  ∀ iterations item rest reached, course.Lists (iterations.map (·.item) ++ item :: rest) →
    Iterates frame name (BodyEnds settings frame label body) begun iterations reached →
      ∃ result after, BodyEnds settings frame label body (reached.binding frame name item) result
        after

/-- What a loop gives after its passes: nothing if it has a block, else a list of their values. -/
inductive Yields (iterations : List Iteration) (reached : Machine) : Bool → Value → Machine → Prop
  | nothing : Yields iterations reached true .nothing reached
  | list {id : ListId} {after : Machine} (fresh : reached.heap.lists.size ≤ id.index)
      (items : after.heap.list id = iterations.filterMap (·.result))
      (others : ∀ other : ListId, other.index < reached.heap.lists.size →
        after.heap.list other = reached.heap.list other) :
      Yields iterations reached false (.list id) after

namespace Iterates

variable {frame : Frame} {name : String} {ends : Machine → Option Value → Machine → Prop}
  {begun reached : Machine} {iterations : List Iteration}

/-- One more pass at the end. -/
theorem snoc (iterates : Iterates frame name ends begun iterations reached) {item : Value}
    {result : Option Value} {after : Machine}
    (body : ends (reached.binding frame name item) result after) :
    Iterates frame name ends begun
      (iterations ++ [⟨item, reached.binding frame name item, result, after⟩]) after := by
  induction iterates with
  | done machine => exact .pass body (.done after)
  | pass first rest ih => exact .pass first (ih body)

/-- The last pass leaves behind what the loop does. -/
theorem after_last (iterates : Iterates frame name ends begun iterations reached)
    {last : Iteration} (ending : iterations.getLast? = some last) : last.after = reached := by
  induction iterates with
  | done machine => cases ending
  | @pass machine after reached item result iterations first rest ih =>
      cases rest with
      | done machine =>
          cases ending
          rfl
      | pass second others =>
          rw [List.getLast?_cons_cons] at ending
          exact ih ending

end Iterates

/-! ## Counting without overflow -/

section Counting

variable {first last step : Int64}

theorem stride_ne_zero (moves : step ≠ 0) : (step.toInt : ℚ) ≠ 0 :=
  Int.cast_ne_zero.mpr fun zero => moves (Int64.toInt_inj.mp zero)

/-- There is a step to make as long as the last value has not been reached. -/
theorem stepsBetween_pos (moves : step ≠ 0) :
    0 < stepsBetween first last step ↔ isBefore first last step = true := by
  have apart : step.toInt ≠ 0 := fun zero => moves (Int64.toInt_inj.mp zero)
  rw [stepsBetween, Int.ceil_pos]
  unfold isBefore
  by_cases up : 0 ≤ step
  · have positive : 0 < step.toInt := by
      have zero : (0 : Int64).toInt = 0 := rfl
      have upward := Int64.le_iff_toInt_le.mp up
      omega
    rw [if_pos up, decide_eq_true_iff, Int64.lt_iff_toInt_lt,
      div_pos_iff_of_pos_right (Int.cast_pos.mpr positive), Int.cast_pos, sub_pos]
  · have negative : step.toInt < 0 := by
      have zero : (0 : Int64).toInt = 0 := rfl
      have down : ¬ (0 : Int64).toInt ≤ step.toInt := fun le => up (Int64.le_iff_toInt_le.mpr le)
      omega
    have opposite : (0 : ℚ) < -(step.toInt : ℚ) := neg_pos.mpr (Int.cast_lt_zero.mpr negative)
    rw [if_neg up, decide_eq_true_iff, Int64.lt_iff_toInt_lt, ← neg_div_neg_eq,
      div_pos_iff_of_pos_right opposite, neg_pos, Int.cast_lt_zero, sub_neg]

/-- One step further there is one step less to make. -/
theorem stepsBetween_next {next : Int64} (moves : step ≠ 0)
    (further : next.toInt = first.toInt + step.toInt) :
    stepsBetween next last step = stepsBetween first last step - 1 := by
  have apart := stride_ne_zero moves
  have quotient : ((last.toInt - next.toInt : Int) : ℚ) / step.toInt =
      ((last.toInt - first.toInt : Int) : ℚ) / step.toInt - 1 := by
    rw [further]
    push_cast
    field_simp
    ring
  rw [stepsBetween, quotient, Int.ceil_sub_one, stepsBetween]

/-- A value that a counter comes to lies between the bounds, so it is an integer of the language. -/
theorem counter_in_range (moves : step ≠ 0) {k : Nat}
    (inside : (k : Int) < stepsBetween first last step) :
    ∃ n : Int64, n.toInt = first.toInt + k * step.toInt := by
  have before := Int.lt_ceil.mp inside
  have bounds : -9223372036854775808 ≤ first.toInt + k * step.toInt ∧
      first.toInt + k * step.toInt < 9223372036854775808 := by
    have least := first.le_toInt
    have most := first.toInt_lt
    have least' := last.le_toInt
    have most' := last.toInt_lt
    rcases lt_or_gt_of_ne (stride_ne_zero moves) with down | up
    · have past : (last.toInt : ℚ) - first.toInt < k * step.toInt := by
        have := (lt_div_iff_of_neg down).mp before
        push_cast at this
        linarith
      have below : (k : Int) * step.toInt ≤ 0 :=
        mul_nonpos_of_nonneg_of_nonpos (Int.natCast_nonneg k) (Int.cast_lt_zero.mp down).le
      have whole : last.toInt - first.toInt < k * step.toInt := by exact_mod_cast past
      omega
    · have past : (k : ℚ) * step.toInt < last.toInt - first.toInt := by
        have := (lt_div_iff₀ up).mp before
        push_cast at this
        linarith
      have above : 0 ≤ (k : Int) * step.toInt :=
        mul_nonneg (Int.natCast_nonneg k) (Int.cast_pos.mp up).le
      have whole : k * step.toInt < last.toInt - first.toInt := by exact_mod_cast past
      omega
  exact ⟨Int64.ofInt (first.toInt + k * step.toInt),
    Int64.toInt_ofInt_of_le bounds.1 bounds.2⟩

/-- A counted course can be listed: no value on it is out of range. -/
theorem Course.lists_counted (moves : step ≠ 0) :
    ∃ items, (Course.counted first last step).Lists items := by
  refine ⟨(List.range (stepsBetween first last step).toNat).map fun k : Nat =>
    .int (Int64.ofInt (first.toInt + k * step.toInt)), ?_, fun k inside => ?_⟩
  · rw [List.length_map, List.length_range]
    omega
  · rw [List.length_map, List.length_range] at inside
    obtain ⟨n, exact⟩ := @counter_in_range first last step moves k (by omega)
    refine ⟨n, ?_, exact⟩
    rw [List.getElem_map, List.getElem_range, ← exact, Int64.ofInt_toInt]

/-- The course of a counter that has arrived is empty. -/
theorem Course.Lists.arrived (moves : step ≠ 0)
    (lists : (Course.counted first last step).Lists []) : isBefore first last step = false := by
  rw [← Bool.not_eq_true, ← stepsBetween_pos moves]
  have length := lists.1
  rw [List.length_nil] at length
  omega

/-- A course that is not at its end begins with the counter and goes on one step further. -/
theorem Course.Lists.counts (moves : step ≠ 0) {item : Value} {rest : List Value}
    (lists : (Course.counted first last step).Lists (item :: rest)) :
    item = .int first ∧ isBefore first last step = true ∧
      (Number.fit? (first.toInt + step.toInt) = none → rest = []) ∧
      ∀ next, Number.fit? (first.toInt + step.toInt) = some next →
        (Course.counted next last step).Lists rest := by
  obtain ⟨length, at?⟩ := lists
  rw [List.length_cons] at length
  refine ⟨?_, (stepsBetween_pos moves).mp (by omega), fun out => ?_, fun next fits => ?_⟩
  · obtain ⟨n, same, exact⟩ := at? 0 (Nat.zero_lt_succ _)
    have equal : n = first := Int64.toInt_inj.mp (by simpa using exact)
    rw [← equal, ← same, List.getElem_cons_zero]
  · -- A further item would be the very integer that does not fit.
    cases rest with
    | nil => rfl
    | cons second others =>
        obtain ⟨n, -, exact⟩ := at? 1 (by simp)
        have least := n.le_toInt
        have most := n.toInt_lt
        have outside := Number.fit?_eq_none_iff.mp out
        omega
  · have further := Number.toInt_of_fit? fits
    refine ⟨?_, fun k inside => ?_⟩
    · rw [stepsBetween_next moves further]
      omega
    · obtain ⟨n, same, exact⟩ := at? (k + 1) (Nat.succ_lt_succ inside)
      refine ⟨n, same, ?_⟩
      rw [exact, further]
      push_cast
      ring

end Counting

/-! ## Turns along a course -/

/-- How a pass ended, by its value. -/
def passWith : Option Value → Pass
  | some value => .completed value
  | none => .skipped

/-- An action that makes a pass ends it with a value or goes on. -/
def MakesPass (pass : Action Pass) (before : Machine) (result : Option Value) (after : Machine) :
    Prop :=
  pass before = .ok (passWith result) after

/-- Turns that visit listed items: what is to come of them belongs to the state they start from. -/
structure Serves {σ : Type} (frame : Frame) (name : String) (pass : Action Pass)
    (turn : σ → Action (Turn σ)) (due : σ → List Value → Prop) : Prop where
  spent : ∀ {state}, due state [] → ∀ machine, turn state machine = .ok .finished machine
  next : ∀ {state item rest}, due state (item :: rest) → ∃ following : Option σ,
    (∀ machine, turn state machine =
      (pass >>= fun made => return .made made following) (machine.binding frame name item)) ∧
    (following = none → rest = []) ∧ ∀ state, following = some state → due state rest

/-- What a pass gave is collected, and the loop goes on or ends as its turn says. -/
theorem afterTurn_made {σ : Type} (again : σ → List Value → Action (List Value))
    (collected : List Value) (result : Option Value) (following : Option σ) :
    Halts.afterTurn again collected (.made (passWith result) following) =
      match following with
      | none => return (result.toList ++ collected).reverse
      | some state => again state (result.toList ++ collected) := by
  cases result <;> cases following <;> rfl

/-- The turns of a loop make one pass for each item and collect what the passes give. -/
theorem takeTurns_of_iterates {σ : Type} {frame : Frame} {name : String} {pass : Action Pass}
    {turn : σ → Action (Turn σ)} {due : σ → List Value → Prop}
    (serves : Serves frame name pass turn due) {machine reached : Machine}
    {iterations : List Iteration}
    (iterates : Iterates frame name (MakesPass pass) machine iterations reached) {state : σ}
    (items : due state (iterations.map (·.item))) {fuel : Nat}
    (enough : iterations.length < fuel) (collected : List Value) :
    takeTurns turn fuel state collected machine =
      .ok (collected.reverse ++ iterations.filterMap (·.result)) reached := by
  induction iterates generalizing state fuel collected with
  | done machine =>
      obtain ⟨more, rfl⟩ := Nat.exists_eq_add_of_lt enough
      rw [Halts.takeTurns_succ, bind_apply, serves.spent items]
      simp only [List.filterMap_nil, List.append_nil]
      rfl
  | @pass machine after reached item result iterations made rest ih =>
      obtain ⟨more, rfl⟩ := Nat.exists_eq_add_of_lt enough
      obtain ⟨following, taken, lastOne, further⟩ := serves.next items
      have ended : turn state machine = .ok (.made (passWith result) following) after := by
        rw [taken, bind_apply, made]
        rfl
      have values : (result.toList ++ collected).reverse ++ iterations.filterMap (·.result) =
          collected.reverse ++ result.toList ++ iterations.filterMap (·.result) := by
        cases result <;> simp
      rw [Halts.takeTurns_succ, bind_apply, ended]
      simp only [afterTurn_made]
      cases following with
      | none =>
          cases List.map_eq_nil_iff.mp (lastOne rfl)
          cases rest
          cases result <;> simp <;> rfl
      | some state =>
          refine (ih (further state rfl) (by simp only [List.length_cons]; omega) _).trans ?_
          rw [values]
          cases result <;> simp

/-- A counter visits the values on its course, whatever a pass does to its variable. -/
theorem countedTurn_serves (frame : Frame) (name : String) (pass : Action Pass)
    {last step : Int64} (moves : step ≠ 0) :
    Serves frame name pass (countedTurn frame name last step pass)
      fun current => (Course.counted current last step).Lists where
  spent arrived machine := by
    simp only [countedTurn, arrived.arrived moves]
    rfl
  next {state item rest} lists := by
    obtain ⟨rfl, before, lastOne, further⟩ := lists.counts moves
    refine ⟨Number.fit? (state.toInt + step.toInt), fun machine => ?_, lastOne, further⟩
    simp only [countedTurn, before, if_true]
    rfl

/-- A loop over items visits those that it was given. -/
theorem eachTurn_serves (frame : Frame) (name : String) (pass : Action Pass) :
    Serves frame name pass (eachTurn frame name pass) fun items => (Course.listed items).Lists where
  spent none machine := by
    subst none
    rfl
  next {state item rest} lists := by
    subst lists
    exact ⟨some rest, fun machine => rfl, nofun, fun state same => Option.some.inj same⟩

/-! ## Enough fuel -/

section Fuel

variable {settings : Settings} {frame : Frame} {label : Option String} {body : Node}

theorem evalBound_of_ok {self : Evaluator} {node : Node} {machine after : Machine} {n : Int64}
    (bound : Data.LoopBound) (ended : self (.evaluate node frame) machine = .ok (.int n) after) :
    evalBound self frame bound node machine = .ok n after := by
  rw [evalBound, Evaluator.eval, bind_apply, ended]
  rfl

/-- A body that ends makes a pass, given enough fuel. -/
theorem BodyEnds.makesPass {before after : Machine} {result : Option Value}
    (ends : BodyEnds settings frame label body before result after) :
    ∃ enough, ∀ fuel, enough ≤ fuel →
      MakesPass (runPass (perform settings fuel) frame label body) before result after := by
  cases ends with
  | normally comes =>
      obtain ⟨enough, comes⟩ := comes
      refine ⟨enough, fun fuel more => ?_⟩
      simp only [MakesPass, runPass, Evaluator.eval, comes fuel more, passWith]
  | @continued target place after comes meant =>
      obtain ⟨enough, comes⟩ := comes
      have addressed : isAddressed target label = true := by
        rcases meant with rfl | rfl
        · rfl
        · cases target <;> simp [isAddressed]
      refine ⟨enough, fun fuel more => ?_⟩
      simp only [MakesPass, runPass, Evaluator.eval, comes fuel more, addressed, if_true, passOf,
        passWith]

/-- Some amount of fuel is enough for all passes of a loop. -/
theorem Iterates.makesPasses {name : String} {begun reached : Machine}
    {iterations : List Iteration}
    (iterates : Iterates frame name (BodyEnds settings frame label body) begun iterations reached) :
    ∃ enough, ∀ fuel, enough ≤ fuel →
      Iterates frame name (MakesPass (runPass (perform settings fuel) frame label body)) begun
        iterations reached := by
  induction iterates with
  | done machine => exact ⟨0, fun fuel _ => .done machine⟩
  | pass first rest ih =>
      obtain ⟨enough, others⟩ := ih
      obtain ⟨least, made⟩ := first.makesPass
      exact ⟨max enough least, fun fuel more =>
        .pass (made fuel (by omega)) (others fuel (by omega))⟩

/-- If every pass that a loop comes to ends well, it comes to all of them. -/
theorem Steady.iterates {name : String} {course : Course} {begun : Machine}
    (steady : Steady settings frame label name body course begun) {items : List Value}
    (lists : course.Lists items) :
    ∃ iterations reached,
      Iterates frame name (BodyEnds settings frame label body) begun iterations reached ∧
        iterations.map (·.item) = items := by
  have onward : ∀ rest iterations reached, iterations.map (·.item) ++ rest = items →
      Iterates frame name (BodyEnds settings frame label body) begun iterations reached →
      ∃ iterations reached,
        Iterates frame name (BodyEnds settings frame label body) begun iterations reached ∧
          iterations.map (·.item) = items := by
    intro rest
    induction rest with
    | nil =>
        intro iterations reached all iterates
        exact ⟨iterations, reached, iterates, by rw [← all, List.append_nil]⟩
    | cons item rest ih =>
        intro iterations reached all iterates
        obtain ⟨result, after, ends⟩ := steady iterations item rest reached (all ▸ lists) iterates
        exact ih _ after (by simpa using all) (iterates.snoc ends)
  exact onward items [] begun rfl (.done begun)

/-- What a loop comes to that makes its passes along its course. -/
theorem Fixes.runs {header : LoopHeader Node} {machine begun reached : Machine} {name : String}
    {course : Course} (head : Fixes settings frame header machine name course begun)
    {iterations : List Iteration} (lists : course.Lists (iterations.map (·.item)))
    (iterates : Iterates frame name (BodyEnds settings frame label body) begun iterations reached) :
    ∃ enough, ∀ fuel, enough ≤ fuel →
      runLoop (perform settings fuel) fuel frame header
          (runPass (perform settings fuel) frame label body) machine =
        .ok (iterations.filterMap (·.result)) reached := by
  obtain ⟨enough, made⟩ := iterates.makesPasses
  cases head with
  | counted start stop =>
      obtain ⟨least, start⟩ := start
      obtain ⟨least', stop⟩ := stop
      refine ⟨enough + least + least' + iterations.length + 1, fun fuel more => ?_⟩
      simp only [runLoop, evalStepBound, bind_apply, evalBound_of_ok _ (start fuel (by omega)),
        evalBound_of_ok _ (stop fuel (by omega))]
      exact takeTurns_of_iterates (countedTurn_serves frame name _ (by decide))
        (made fuel (by omega)) lists (by omega) []
  | stepped start stop stride moves =>
      obtain ⟨least, start⟩ := start
      obtain ⟨least', stop⟩ := stop
      obtain ⟨least'', stride⟩ := stride
      refine ⟨enough + least + least' + least'' + iterations.length + 1, fun fuel more => ?_⟩
      simp only [runLoop, evalStepBound, bind_apply, evalBound_of_ok _ (start fuel (by omega)),
        evalBound_of_ok _ (stop fuel (by omega)), evalBound_of_ok _ (stride fuel (by omega))]
      exact takeTurns_of_iterates (countedTurn_serves frame name _ moves)
        (made fuel (by omega)) lists (by omega) []
  | elements given =>
      obtain ⟨least, given⟩ := given
      refine ⟨enough + least + iterations.length + 1, fun fuel more => ?_⟩
      simp only [runLoop, Evaluator.eval, bind_apply, check, Data.Heap.items,
        given fuel (by omega)]
      exact takeTurns_of_iterates (eachTurn_serves frame name _) (made fuel (by omega)) lists
        (by omega) []
  | characters given =>
      obtain ⟨least, given⟩ := given
      refine ⟨enough + least + iterations.length + 1, fun fuel more => ?_⟩
      simp only [runLoop, Evaluator.eval, bind_apply, check, Data.Heap.items,
        given fuel (by omega)]
      exact takeTurns_of_iterates (eachTurn_serves frame name _) (made fuel (by omega)) lists
        (by omega) []

end Fuel

/-! ## The variable of a loop -/

section Variable

variable {settings : Settings} {frame : Frame} {label : Option String} {body : Node}
  {name : String}

/-- The table in which a frame binds its names is there. -/
def Frame.Held (frame : Frame) (machine : Machine) : Prop :=
  frame.scope.inner.index < machine.heap.tables.size

theorem Comes.held {node : Node} {machine : Machine} {ending : Ending Value}
    (comes : Comes settings (.evaluate node frame) machine ending) (held : frame.Held machine) :
    frame.Held (finalMachine ending) := by
  obtain ⟨enough, comes⟩ := comes
  have spares := (perform_sparing settings enough).evaluate node frame machine
  rw [Evaluator.eval, comes enough (Nat.le_refl _)] at spares
  exact Nat.lt_of_lt_of_le held spares.size

theorem BodyEnds.held {before after : Machine} {result : Option Value}
    (ends : BodyEnds settings frame label body before result after) (held : frame.Held before) :
    frame.Held after := by
  cases ends with
  | normally comes => exact comes.held held
  | continued comes meant => exact comes.held held

theorem Fixes.held {header : LoopHeader Node} {machine begun : Machine} {course : Course}
    (head : Fixes settings frame header machine name course begun) (held : frame.Held machine) :
    frame.Held begun := by
  cases head with
  | counted start stop => exact stop.held (start.held held)
  | stepped start stop stride moves => exact stride.held (stop.held (start.held held))
  | elements given => exact given.held held
  | characters given => exact given.held held

theorem Frame.Held.binding {machine : Machine} (held : frame.Held machine) (item : Value) :
    frame.Held (machine.binding frame name item) := by
  change _ < (machine.heap.tables.modify _ _).size
  rw [Array.size_modify]
  exact held

/-- Code of the frame sees the item that its variable has been bound to. -/
theorem lookup?_binding {machine : Machine} (held : frame.Held machine) (item : Value) :
    (machine.binding frame name item).heap.lookup? frame.scope name = some item := by
  have bound : ((machine.binding frame name item).heap.table frame.scope.inner).get? name =
      some item := by
    change ((machine.heap.tables.modify frame.scope.inner.index _).getD _ _).get? name = _
    rw [Array.getD_eq_getD_getElem?, Array.getElem?_modify, if_pos rfl,
      Array.getElem?_eq_getElem held]
    exact (Data.Bindings.get?_insert _ name name item).trans (if_pos rfl)
  simp only [Data.Heap.lookup?, Data.Scope.tables, List.findSome?_cons, bound]

/-- Every pass of a loop begins with its item in sight. -/
theorem Iterates.sees {begun reached : Machine} {iterations : List Iteration}
    (iterates : Iterates frame name (BodyEnds settings frame label body) begun iterations reached)
    (held : frame.Held begun) :
    ∀ iteration ∈ iterations,
      iteration.before.heap.lookup? frame.scope name = some iteration.item := by
  induction iterates with
  | done machine => exact fun _ member => nomatch member
  | @pass machine after reached item result iterations first rest ih =>
      exact List.forall_mem_cons.mpr
        ⟨lookup?_binding held item, ih (first.held (held.binding item))⟩

end Variable

/-- A new list holds what it is made of, and the others stay as they are. -/
theorem Yields.newList (iterations : List Iteration) (reached : Machine) :
    Yields iterations reached false (.list ⟨reached.heap.lists.size⟩)
      { reached with
        heap := (reached.heap.newList (iterations.filterMap (·.result))).2 } := by
  refine .list (Nat.le_refl _) ?_ fun other older => ?_
  · simp [Data.Heap.newList, Data.Heap.list]
  · simp only [Data.Heap.newList, Data.Heap.list, Array.getD_eq_getD_getElem?,
      Array.getElem?_push_lt older, Array.getElem?_eq_getElem older]

/--
A counted loop and a loop over items visit what is fixed when they begin.  If every pass ends
normally or goes on with the next one, there are as many passes as there are items; each begins
with its item bound to the variable, wherever the passes before have left it, and the loop
comes to its end after the last.  On one line it gives a new list of what the completed passes
gave, with a block it gives nothing.  Where the last pass leaves the variable as it found it,
it holds the last item afterwards.
-/
theorem loop_follows_course (settings : Settings) (frame : Frame) (span : Source.Span)
    (label : Option String) (body : Node) (block : Bool) {header : LoopHeader Node}
    {machine begun : Machine} {name : String} {course : Course}
    (head : Fixes settings frame header machine name course begun) (held : frame.Held machine)
    (steady : Steady settings frame label name body course begun) :
    ∃ iterations reached value after,
      course.Lists (iterations.map (·.item)) ∧
      Iterates frame name (BodyEnds settings frame label body) begun iterations reached ∧
      Comes settings (.evaluate ⟨span, .loop label header body block⟩ frame) machine
        (.ok value after) ∧
      Yields iterations reached block value after ∧
      (∀ iteration ∈ iterations,
        iteration.before.heap.lookup? frame.scope name = some iteration.item) ∧
      ∀ last, iterations.getLast? = some last →
        last.after.heap.lookup? frame.scope name = last.before.heap.lookup? frame.scope name →
          after.heap.lookup? frame.scope name = some last.item := by
  obtain ⟨items, listed⟩ : ∃ items, course.Lists items := by
    cases head with
    | counted start stop => exact Course.lists_counted (by decide)
    | stepped start stop stride moves => exact Course.lists_counted moves
    | elements given => exact ⟨_, rfl⟩
    | characters given => exact ⟨_, rfl⟩
  obtain ⟨iterations, reached, iterates, rfl⟩ := steady.iterates listed
  obtain ⟨enough, runs⟩ := head.runs listed iterates
  have seen := iterates.sees (head.held held)
  have kept : ∀ last, iterations.getLast? = some last →
      last.after.heap.lookup? frame.scope name = last.before.heap.lookup? frame.scope name →
        reached.heap.lookup? frame.scope name = some last.item := by
    intro last ending untouched
    rw [← iterates.after_last ending, untouched, seen last (List.mem_of_getLast? ending)]
  have comes : ∀ fuel, enough + 1 ≤ fuel →
      perform settings fuel (.evaluate ⟨span, .loop label header body block⟩ frame) machine =
        (if block then return .nothing else newList (iterations.filterMap (·.result))) reached := by
    intro fuel more
    obtain ⟨less, rfl⟩ := Nat.exists_eq_add_of_lt more
    change evalLoop (perform settings (enough + less)) (enough + less) frame label header body
      block machine = _
    rw [evalLoop, bind_apply, runs _ (Nat.le_add_right _ _)]
  cases block with
  | true =>
      exact ⟨iterations, reached, .nothing, reached, listed, iterates, ⟨_, comes⟩, .nothing, seen,
        kept⟩
  | false =>
      exact ⟨iterations, reached, _, _, listed, iterates, ⟨_, comes⟩,
        .newList iterations reached, seen, kept⟩

namespace Brink

def span : Source.Span := ⟨.start, .start⟩

def number (n : Int64) : Node := ⟨span, .number (.int n)⟩

/-- The last integer but one up to the last one; a step leads past both. -/
def header : LoopHeader Node :=
  .counted "i" (number 9223372036854775806) (number 9223372036854775807) (some (number 5))

/-- The variable of the loop is set back. -/
def body : Node := ⟨span, .assign [⟨none, "i", span⟩] .set [number 0]⟩

def frame : Frame := Session.programFrame ⟨"main.ql", ""⟩

def machine : Machine := (Session.start {} {} {}).machine

def course : Course := .counted 9223372036854775806 9223372036854775807 5

theorem comes_number (n : Int64) (machine : Machine) :
    Comes {} (.evaluate (number n) frame) machine (.ok (.int n) machine) :=
  .of_run 1 rfl nofun

theorem fixes : Fixes {} frame header machine "i" course machine :=
  .stepped (comes_number _ _) (comes_number _ _) (comes_number _ _) (by decide)

theorem steady : Steady {} frame none "i" body course machine := by
  intro iterations item rest reached lists iterates
  exact ⟨some (.int 0), (reached.binding frame "i" item).binding frame "i" (.int 0),
    .normally (.of_run 2 rfl nofun)⟩

theorem held : frame.Held machine := by
  change 1 < Session.startHeap.tables.size
  decide +kernel

theorem length_of_lists {items : List Value} (lists : course.Lists items) : items.length = 1 := by
  have one : stepsBetween 9223372036854775806 9223372036854775807 5 = 1 := by
    have first : (9223372036854775806 : Int64).toInt = 9223372036854775806 := rfl
    have last : (9223372036854775807 : Int64).toInt = 9223372036854775807 := rfl
    have step : (5 : Int64).toInt = 5 := rfl
    rw [stepsBetween, first, last, step, Int.ceil_eq_iff]
    norm_num
  have length := lists.1
  rw [one] at length
  omega

end Brink

/-- A loop at the end of the integers makes its only pass, which sets the variable back to zero. -/
theorem brink_visited_once :
    ∃ value after, Comes {} (.evaluate ⟨Brink.span, .loop none Brink.header Brink.body false⟩
        Brink.frame) Brink.machine (.ok value after) ∧
      ∃ iterations reached, Yields iterations reached false value after ∧
        iterations.map (·.item) = [.int 9223372036854775806] := by
  obtain ⟨iterations, reached, value, after, lists, -, comes, yields, -⟩ :=
    loop_follows_course {} Brink.frame Brink.span none Brink.body false Brink.fixes
      Brink.held Brink.steady
  obtain ⟨item, single⟩ := List.length_eq_one_iff.mp (Brink.length_of_lists lists)
  rw [single] at lists
  exact ⟨value, after, comes, iterations, reached, yields,
    by rw [single, (lists.counts (by decide)).1]⟩

end Evaluation
end Scripting
