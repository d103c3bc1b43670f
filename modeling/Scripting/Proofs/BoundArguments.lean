import Mathlib.Logic.Basic
import Scripting.Data.Parameters
import Scripting.Data.Prelude

namespace Scripting
namespace Data

/-!
How arguments are bound to the parameters of the functions of the language.

The binding is described for any declaration.  What a call is refused for is said without
the order in which it is looked for, and then once more with the fault that is reported.
Arguments that are not refused fill one slot for each parameter.
-/

/-! ## Refused arguments -/

/-- How many parameters a function of the language is declared with. -/
def Builtin.declared (builtin : Builtin) : Nat :=
  builtin.required.length + builtin.optional.length

/-- The number of arguments is not one that the function takes. -/
def Builtin.Miscounts (builtin : Builtin) (count : Nat) : Prop :=
  count < builtin.required.length ∨ (builtin.variadic = false ∧ builtin.declared < count)

/-- The arguments do not fit the parameters, for one reason or several. -/
def Builtin.Refuses (builtin : Builtin) (arguments : List (Option Value)) : Prop :=
  builtin.Miscounts arguments.length ∨
    ∃ place < builtin.required.length, arguments[place]? = some none

/-- What is reported of arguments that do not fit: their number before any placeholder. -/
inductive Builtin.Misfit (builtin : Builtin) (arguments : List (Option Value)) : Fault → Prop
  | count (wrong : builtin.Miscounts arguments.length) :
      Misfit builtin arguments
        (.arity .builtin builtin.name builtin.least builtin.most? arguments.length)
  | placeholder {place : Nat} {parameter : String}
      (counted : ¬ builtin.Miscounts arguments.length)
      (required : builtin.required[place]? = some parameter)
      (empty : arguments[place]? = some none)
      (first : ∀ earlier < place, ∃ value, arguments[earlier]? = some (some value)) :
      Misfit builtin arguments (.missingArgument .builtin builtin.name parameter)

theorem Builtin.accepts_iff {builtin : Builtin} {count : Nat} :
    builtin.accepts count = true ↔ ¬ builtin.Miscounts count := by
  unfold Builtin.accepts Builtin.Miscounts Builtin.least Builtin.most? Builtin.declared
  cases builtin.variadic <;> simp

section Misfit

variable {builtin : Builtin} {arguments : List (Option Value)} {fault : Fault}

theorem Builtin.Misfit.refuses (misfit : builtin.Misfit arguments fault) :
    builtin.Refuses arguments := by
  cases misfit with
  | count wrong => exact .inl wrong
  | placeholder counted required empty first =>
      exact .inr ⟨_, (List.getElem?_eq_some_iff.mp required).1, empty⟩

theorem Builtin.Misfit.kind (misfit : builtin.Misfit arguments fault) : fault.kind = .type := by
  cases misfit <;> rfl

end Misfit

/-! ## Filled slots -/

/-- What a function of the language finds at a place. -/
inductive Slot where
  | value (value : Value)
  /-- The list of the arguments that are left over. -/
  | rest (values : List Value)

/-- The slots that a function of the language is run with. -/
def Builtin.slots (builtin : Builtin) (bound : Arguments) : List Slot :=
  bound.slots.map .value ++ if builtin.variadic then [.rest bound.extras] else []

/-- Slots are filled as the declaration asks, from arguments that fit it. -/
structure Builtin.Fills (builtin : Builtin) (arguments : List (Option Value))
    (slots : List Slot) : Prop where
  length : slots.length = builtin.declared + if builtin.variadic then 1 else 0
  required : ∀ place < builtin.required.length, ∃ value,
    arguments[place]? = some (some value) ∧ slots[place]? = some (.value value)
  /-- An argument that is left out is treated like a placeholder. -/
  optional : ∀ place parameter, builtin.optional[place]? = some parameter →
    slots[builtin.required.length + place]? =
      some (.value (arguments[builtin.required.length + place]?.join.getD parameter.2))
  rest : builtin.variadic = true → slots[builtin.declared]? =
    some (.rest ((arguments.drop builtin.declared).map (·.getD .nothing)))

theorem requiredValues_cons_eq_ok_iff {function parameter : String} {parameters : List String}
    {value : Value} {arguments : List (Option Value)} {values : List Value} :
    requiredValues function (parameter :: parameters) (some value :: arguments) = .ok values ↔
      ∃ later, requiredValues function parameters arguments = .ok later ∧
        value :: later = values := by
  rw [requiredValues]
  cases requiredValues function parameters arguments <;> simp [Except.map]

/-- Required parameters take the values in front, each of which has to be there. -/
theorem requiredValues_eq_ok_iff {function : String} {parameters : List String}
    {arguments : List (Option Value)} {values : List Value} :
    requiredValues function parameters arguments = .ok values ↔
      values.length = parameters.length ∧ values.map some <+: arguments := by
  induction parameters generalizing arguments values with
  | nil =>
      simp only [requiredValues, Except.ok.injEq, List.length_nil, List.length_eq_zero_iff]
      constructor
      · rintro rfl
        exact ⟨rfl, List.nil_prefix⟩
      · rintro ⟨rfl, -⟩
        rfl
  | cons parameter rest ih =>
      -- Without a value in front nothing is bound, and no value is in front of the rest.
      rcases arguments with _ | ⟨_ | value, others⟩
      · cases values <;> simp [requiredValues]
      · cases values <;> simp [requiredValues, List.cons_prefix_cons]
      · rw [requiredValues_cons_eq_ok_iff]
        simp only [ih]
        constructor
        · rintro ⟨later, ⟨counted, front⟩, rfl⟩
          exact ⟨congrArg Nat.succ counted, List.cons_prefix_cons.mpr ⟨rfl, front⟩⟩
        · rintro ⟨counted, front⟩
          rcases values with _ | ⟨first, later⟩
          · cases counted
          · obtain ⟨same, behind⟩ := List.cons_prefix_cons.mp front
            cases same
            exact ⟨later, ⟨Nat.succ.inj counted, behind⟩, rfl⟩

/-- If there are enough arguments, what is missed is a value in place of the first placeholder. -/
theorem misses_requiredValues {function : String} {parameters : List String}
    {arguments : List (Option Value)} {fault : Fault}
    (enough : parameters.length ≤ arguments.length)
    (missed : requiredValues function parameters arguments = .error fault) :
    ∃ (place : Nat) (parameter : String),
      parameters[place]? = some parameter ∧ arguments[place]? = some none ∧
      (∀ earlier < place, ∃ value, arguments[earlier]? = some (some value)) ∧
      fault = .missingArgument .builtin function parameter := by
  induction parameters generalizing arguments with
  | nil => cases missed
  | cons parameter rest ih =>
      rcases arguments with _ | ⟨_ | value, others⟩
      · cases enough
      · cases missed
        exact ⟨0, parameter, rfl, rfl, nofun, rfl⟩
      · cases found : requiredValues function rest others with
        | ok values =>
            rw [requiredValues, found] at missed
            cases missed
        | error reason =>
            rw [requiredValues, found] at missed
            cases missed
            obtain ⟨place, required, listed, empty, before, rfl⟩ :=
              ih (Nat.le_of_succ_le_succ enough) found
            refine ⟨place + 1, required, listed, empty, ?_, rfl⟩
            rintro (_ | earlier) front
            · exact ⟨value, rfl⟩
            · exact before earlier (Nat.lt_of_succ_lt_succ front)

theorem optionalValues_getElem? (parameters : List (String × Value))
    (arguments : List (Option Value)) (place : Nat) :
    (optionalValues parameters arguments)[place]? =
      parameters[place]?.map fun parameter => arguments[place]?.join.getD parameter.2 := by
  induction parameters generalizing arguments place with
  | nil => rfl
  | cons parameter rest ih =>
      rw [optionalValues]
      cases place with
      | zero => simp [List.head?_eq_getElem?]
      | succ place =>
          rw [List.getElem?_cons_succ, List.getElem?_cons_succ, ih, List.getElem?_tail]

theorem optionalValues_length (parameters : List (String × Value))
    (arguments : List (Option Value)) :
    (optionalValues parameters arguments).length = parameters.length := by
  induction parameters generalizing arguments with
  | nil => rfl
  | cons parameter rest ih => exact congrArg Nat.succ (ih arguments.tail)

section Bind

variable {builtin : Builtin} {arguments : List (Option Value)}

/-- Arguments are bound if they are counted right and the required parameters have values. -/
theorem Builtin.bind_eq_ok_iff {bound : Arguments} :
    builtin.bind arguments = .ok bound ↔
      ¬ builtin.Miscounts arguments.length ∧
        ∃ required, requiredValues builtin.name builtin.required arguments = .ok required ∧
          bound = ⟨required ++
              optionalValues builtin.optional (arguments.drop builtin.required.length),
            (arguments.drop builtin.declared).map (·.getD .nothing)⟩ := by
  rw [← Builtin.accepts_iff]
  unfold Builtin.bind Builtin.declared
  cases builtin.accepts arguments.length with
  | false => simp
  | true =>
      cases requiredValues builtin.name builtin.required arguments <;>
        simp [Except.map, eq_comm]

theorem Builtin.length_slots_of_bind {bound : Arguments}
    (binds : builtin.bind arguments = .ok bound) : bound.slots.length = builtin.declared := by
  obtain ⟨-, required, taken, rfl⟩ := Builtin.bind_eq_ok_iff.mp binds
  rw [List.length_append, (requiredValues_eq_ok_iff.mp taken).1, optionalValues_length,
    Builtin.declared]

/-- Values that stand in front are found among the arguments. -/
theorem given_of_front {values : List Value} (front : values.map some <+: arguments) {place : Nat}
    (inside : place < values.length) : arguments[place]? = some (some values[place]) := by
  have found := List.prefix_iff_getElem?.mp front place (by simpa using inside)
  rwa [List.getElem_map] at found

/-- Arguments that fit fill the slots. -/
theorem Builtin.fills_of_bind {bound : Arguments} (binds : builtin.bind arguments = .ok bound) :
    builtin.Fills arguments (builtin.slots bound) := by
  have declared := Builtin.length_slots_of_bind binds
  obtain ⟨-, required, taken, rfl⟩ := Builtin.bind_eq_ok_iff.mp binds
  obtain ⟨counted, front⟩ := requiredValues_eq_ok_iff.mp taken
  have found := optionalValues_getElem? builtin.optional
    (arguments.drop builtin.required.length)
  have number := optionalValues_length builtin.optional
    (arguments.drop builtin.required.length)
  generalize optionalValues builtin.optional (arguments.drop builtin.required.length) = optional
    at found number declared
  have before : (required.map Slot.value).length = builtin.required.length := by
    rw [List.length_map, counted]
  have all : ((required ++ optional).map Slot.value).length = builtin.declared := by
    rw [List.length_map, declared]
  unfold Builtin.slots
  refine ⟨?length, ?required, ?optional, ?rest⟩
  case length =>
    rw [List.length_append, all]
    cases builtin.variadic <;> rfl
  case required =>
    intro place inside
    have taken : place < required.length := counted ▸ inside
    refine ⟨required[place], given_of_front front taken, ?_⟩
    rw [List.map_append, List.append_assoc, List.getElem?_append_left (before ▸ inside),
      List.getElem?_map, List.getElem?_eq_getElem taken]
    rfl
  case optional =>
    intro place parameter listed
    have inside : place < (optional.map Slot.value).length := by
      rw [List.length_map, number]
      exact (List.getElem?_eq_some_iff.mp listed).1
    rw [← before, List.map_append, List.append_assoc,
      List.getElem?_append_right (Nat.le_add_right _ _), Nat.add_sub_cancel_left,
      List.getElem?_append_left inside, List.getElem?_map, found, listed, before,
      List.getElem?_drop]
    rfl
  case rest =>
    intro variadic
    rw [← all, List.getElem?_append_right (Nat.le_refl _), Nat.sub_self, variadic, all]
    rfl

/-- A placeholder is filled like an argument that is left out; left over, it is nothing. -/
example :
    preludeFunctions[0].bind [none, some (.int 1), none] =
      .ok ⟨[.text ""], [.int 1, .nothing]⟩ := rfl

/-- Arguments that do not fit are refused for one reason, which is reported. -/
theorem Builtin.misfit_of_bind {fault : Fault} (refused : builtin.bind arguments = .error fault) :
    builtin.Misfit arguments fault := by
  unfold Builtin.bind at refused
  split at refused
  case isTrue accepted =>
    have counted := Builtin.accepts_iff.mp accepted
    have enough : builtin.required.length ≤ arguments.length :=
      Nat.le_of_not_lt fun few => counted (.inl few)
    cases taken : requiredValues builtin.name builtin.required arguments with
    | ok required =>
        rw [taken] at refused
        cases refused
    | error reason =>
        rw [taken] at refused
        cases refused
        obtain ⟨place, parameter, required, empty, first, rfl⟩ :=
          misses_requiredValues enough taken
        exact .placeholder counted required empty first
  case isFalse refusal =>
    cases refused
    exact .count (not_not.mp fun counted => refusal (Builtin.accepts_iff.mpr counted))

/-- Arguments that are bound fit. -/
theorem Builtin.not_refuses_of_bind {bound : Arguments}
    (binds : builtin.bind arguments = .ok bound) : ¬ builtin.Refuses arguments := by
  obtain ⟨counted, required, taken, -⟩ := Builtin.bind_eq_ok_iff.mp binds
  obtain ⟨number, front⟩ := requiredValues_eq_ok_iff.mp taken
  rintro (wrong | ⟨place, inside, empty⟩)
  · exact counted wrong
  · rw [← number] at inside
    rw [given_of_front front inside] at empty
    cases empty

end Bind

end Data

namespace Evaluation

open Data (Operation mathFunctions preludeFunctions)

/-! ## What functions read -/

/-- How many values an operation reads by their places. -/
def valuesRead : Operation → Nat
  | .append | .pop | .extend => 2
  | .insert => 3
  | _ => 1

/-- As many parameters are declared as are read, and printing alone takes any number. -/
theorem declared_eq_valuesRead : ∀ builtin ∈ preludeFunctions ++ mathFunctions,
    builtin.declared = valuesRead builtin.operation ∧
      builtin.variadic = decide (builtin.operation = .print) := by
  decide

end Evaluation
end Scripting
