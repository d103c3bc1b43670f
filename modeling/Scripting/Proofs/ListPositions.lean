import Scripting.Proofs.IntegerArithmetic
import Scripting.Proofs.SortedLists

namespace Scripting

/-!
Positions in lists and texts.

A position counts from the start or, if it is negative, from the end.  Reading an element,
leaving it out and taking it away go by the same place, and refuse the same positions.  Adding
an element refuses none: a position past an end means that end.  The place is computed with one
sum of machine words, which never leaves their range.
-/

namespace Data

open Number (InRange)

/-! ## Places -/

/-- A position that refers to an element of a sequence of the given length. -/
def Reaches (length : Nat) (index : Int) : Prop :=
  -length ≤ index ∧ index < length

instance (length : Nat) (index : Int) : Decidable (Reaches length index) :=
  inferInstanceAs (Decidable (_ ∧ _))

/-- A position counted from the start. -/
def fromStart (length : Nat) (index : Int) : Int :=
  if index < 0 then index + length else index

variable {length place : Nat} {index : Int}

theorem place?_eq_some_iff :
    place? length index = some place ↔ Reaches length index ∧ place = fromStart length index := by
  unfold place? Reaches fromStart
  split <;> simp only [Option.ite_none_right_eq_some, Option.some.injEq] <;> omega

theorem place?_eq_none_iff : place? length index = none ↔ ¬ Reaches length index := by
  unfold place? Reaches
  split <;> simp only [ite_eq_right_iff, reduceCtorEq, imp_false] <;> omega

theorem insertionPlace_eq (length : Nat) (index : Int) :
    insertionPlace length index = max 0 (min (length : Int) (fromStart length index)) := by
  unfold insertionPlace fromStart
  split <;> omega

/-- A position counted from the start, computed on machine words. -/
def wordFromStart (length index : Int64) : Int64 :=
  if index < 0 then index + length else index

/-- The sum of machine words is exact. -/
theorem wordFromStart_exact (range : InRange length) (index : Int64) :
    InRange (fromStart length index.toInt) ∧
      (wordFromStart (.ofNat length) index).toInt = fromStart length index.toInt := by
  have inside := Number.inRange_toInt index
  have exact : (Int64.ofNat length).toInt = length := Int64.toInt_ofNat_of_lt (by
    unfold InRange at range
    omega)
  unfold wordFromStart fromStart
  simp only [Int64.lt_iff_toInt_lt, Int64.toInt_zero]
  split
  · have sum : InRange (index.toInt + length) := by
      unfold InRange at inside range ⊢
      omega
    exact ⟨sum, by rw [Number.toInt_add_of_inRange (exact ▸ sum), exact]⟩
  · exact ⟨inside, rfl⟩

/-- The element at a position of a list, and the list without it. -/
structure Selects (items : List Value) (index : Int) (place : Nat) (item : Value)
    (rest : List Value) : Prop where
  counted : place = fromStart items.length index
  there : items[place]? = some item
  others : rest = items.take place ++ items.drop (place + 1)

theorem selects_of_reaches {items : List Value} (reaches : Reaches items.length index) :
    ∃ place item, place? items.length index = some place ∧
      Selects items index place item (items.eraseIdx place) := by
  cases found : place? items.length index with
  | none => exact absurd reaches (place?_eq_none_iff.mp found)
  | some place =>
      have counted := (place?_eq_some_iff.mp found).2
      have inside : place < items.length := by
        unfold Reaches fromStart at *
        split at counted <;> omega
      exact ⟨place, items[place], rfl, counted, List.getElem?_eq_getElem inside,
        List.eraseIdx_eq_take_drop_succ items place⟩

variable {heap : Heap} {item : Value} {items : List Value} {word : Int64}

theorem insertIdx_eq_take_drop {α : Type} {items : List α} (item : α)
    (inside : place ≤ items.length) :
    items.insertIdx place item = items.take place ++ item :: items.drop place := by
  induction place generalizing items with
  | zero => rfl
  | succ place ih =>
      cases items with
      | nil => exact absurd inside (Nat.not_succ_le_zero place)
      | cons first items =>
          rw [List.insertIdx_succ_cons, ih (Nat.le_of_succ_le_succ inside)]
          rfl

/-- The sequences that can be indexed: a list, and the characters of a text. -/
inductive Heap.Sequence (heap : Heap) : Value → List Value → Prop
  | list (id : ListId) : Sequence heap (.list id) (heap.list id)
  | text (s : String) : Sequence heap (.text s) (s.toList.map ofChar)

theorem element_of_place {sequence : Value} (indexed : heap.Sequence sequence items)
    (found : place? items.length word.toInt = some place) (there : items[place]? = some item) :
    heap.element sequence (.int word) = .ok item := by
  unfold Heap.element
  cases indexed <;> simp only [found, Option.bind_some, there]

theorem element_of_outside {sequence : Value} (indexed : heap.Sequence sequence items)
    (outside : place? items.length word.toInt = none) :
    heap.element sequence (.int word) = .error (.indexOutOfRange word.toInt) := by
  unfold Heap.element
  cases indexed <;> simp only [outside, Option.bind_none]

end Data

namespace Evaluation

open Data (Arguments Builtin BuiltinId Heap ListId Operation Reaches Selects Value fromStart
  insertionPlace place? preludeFunctions wordFromStart)
open Source (Span)

/-! ## Functions -/

/-- A function that every program starts with, by whatever name it is called. -/
def Offers (heap : Heap) (id : BuiltinId) (operation : Operation) : Prop :=
  heap.builtin id ∈ preludeFunctions ∧ (heap.builtin id).operation = operation

theorem Offers.eq {heap : Heap} {id : BuiltinId} {operation : Operation} {builtin : Builtin}
    (offers : Offers heap id operation)
    (only : preludeFunctions.filter (·.operation = operation) = [builtin]) :
    heap.builtin id = builtin := by
  apply List.mem_singleton.mp
  rw [← only]
  exact List.mem_filter.mpr ⟨offers.1, decide_eq_true offers.2⟩

/-- An action ends with an error about an index, and everything stays as it is. -/
def Refuses (action : Action Value) (machine : Machine) : Prop :=
  ∃ error : RuntimeError, error.fault.kind = .index ∧
    action machine = .error (.error error) machine

/-! ## What is done at a position -/

section Positions

variable {settings : Settings} {fuel : Nat} {site : CallSite} {frame : Frame} {span : Span}
  {machine : Machine} {list : ListId} {sequence item : Value} {items : List Value} {place : Nat}
  {word : Int64}

theorem call_sequence (indexed : machine.heap.Sequence sequence items) :
    perform settings (fuel + 1) (.call sequence [some (.int word)] site) machine =
      check site.frame site.span (fun heap => heap.element sequence (.int word)) machine := by
  cases indexed <;> rfl

theorem index_ok (indexed : machine.heap.Sequence sequence items)
    (found : place? items.length word.toInt = some place) (there : items[place]? = some item) :
    perform settings (fuel + 1) (.call sequence [some (.int word)] site) machine =
      .ok item machine := by
  rw [call_sequence indexed, check, Data.element_of_place indexed found there]

theorem index_refuses (indexed : machine.heap.Sequence sequence items)
    (outside : place? items.length word.toInt = none) :
    Refuses (perform settings (fuel + 1) (.call sequence [some (.int word)] site)) machine := by
  rw [Refuses, call_sequence indexed, check, Data.element_of_outside indexed outside]
  exact ⟨_, rfl, rfl⟩

/-- A new list, with everything else as before. -/
structure Adds (machine after : Machine) (fresh : ListId) (items : List Value) : Prop where
  same : after = { machine with heap := (machine.heap.newList items).2 }
  new : fresh.index = machine.heap.lists.size
  stored : after.heap.list fresh = items
  others : ∀ other : ListId, other.index < machine.heap.lists.size →
    after.heap.list other = machine.heap.list other

theorem adds (machine : Machine) (items : List Value) :
    Adds machine { machine with heap := (machine.heap.newList items).2 }
      (machine.heap.newList items).1 items where
  same := rfl
  new := rfl
  stored := by simp [Heap.list, Heap.newList]
  others other inside := by simp [Heap.list, Heap.newList, Array.getElem?_push, Nat.ne_of_lt inside]

theorem without_ok (found : place? (machine.heap.list list).length word.toInt = some place) :
    ∃ fresh after, applyBinary frame span .sub (.list list) (.int word) machine =
        .ok (.list fresh) after ∧
      Adds machine after fresh ((machine.heap.list list).eraseIdx place) := by
  refine ⟨_, _, ?_, adds machine _⟩
  have product : machine.heap.binary .sub (.list list) (.int word) =
      .ok (.list ((machine.heap.list list).eraseIdx place)) := by
    unfold Heap.binary Heap.sub
    simp only [found]
  simp only [applyBinary, bind_apply, check, product]
  rfl

theorem without_refuses (outside : place? (machine.heap.list list).length word.toInt = none) :
    Refuses (applyBinary frame span .sub (.list list) (.int word)) machine := by
  have product : machine.heap.binary .sub (.list list) (.int word) =
      .error (.indexOutOfRange word.toInt) := by
    unfold Heap.binary Heap.sub
    simp only [outside]
  simp only [Refuses, applyBinary, bind_apply, check, product]
  exact ⟨_, rfl, rfl⟩

theorem intAt_int (call : BuiltinCall) (ordinal : Nat) (word : Int64) (machine : Machine) :
    call.intAt ordinal (.int word) machine = .ok word machine :=
  rfl

section Pop

variable {pop : BuiltinId} (pops : Offers machine.heap pop .pop)
  (room : machine.depth < settings.maxDepth)

include pops

theorem call_pop : ∃ call,
    perform settings (fuel + 1)
        (.call (.builtin pop) [some (.list list), some (.int word)] site) machine =
      withinCall settings site.frame site.span (runPop call (.list list) (.int word)) machine := by
  rw [call_builtin (pops.eq rfl) rfl]
  exact ⟨_, rfl⟩

include room

theorem pop_ok (found : place? (machine.heap.list list).length word.toInt = some place)
    (there : (machine.heap.list list)[place]? = some item) :
    perform settings (fuel + 1)
        (.call (.builtin pop) [some (.list list), some (.int word)] site) machine =
      .ok item { machine with
        heap := machine.heap.setList list ((machine.heap.list list).eraseIdx place) } := by
  rcases call_pop pops with ⟨call, called⟩
  rw [called]
  refine withinCall_ok room ?_
  have same : machine.called.heap = machine.heap := rfl
  simp only [runPop, bind_apply, listAt_list, intAt_int, readHeap, same, found,
    Option.bind_some, there, Option.map_some]
  rfl

theorem pop_refuses (outside : place? (machine.heap.list list).length word.toInt = none) :
    Refuses (perform settings (fuel + 1)
      (.call (.builtin pop) [some (.list list), some (.int word)] site)) machine := by
  rcases call_pop pops with ⟨call, called⟩
  rw [Refuses, called]
  have same : machine.called.heap = machine.heap := rfl
  have ran : runPop call (.list list) (.int word) machine.called =
      call.raiseAt 2 (.popOutOfRange word.toInt) machine.called := by
    simp only [runPop, bind_apply, listAt_list, intAt_int, readHeap, same, outside,
      Option.bind_none]
  rw [BuiltinCall.raiseAt] at ran
  cases written : call.site.arguments[2 - 1]? <;> rw [written] at ran
  all_goals exact ⟨_, rfl, withinCall_error room ran⟩

end Pop

theorem insert_ok {insert : BuiltinId} {value : Value}
    (inserts : Offers machine.heap insert .insert) (room : machine.depth < settings.maxDepth) :
    perform settings (fuel + 1)
        (.call (.builtin insert) [some (.list list), some (.int word), some value] site) machine =
      .ok .nothing { machine with
        heap := machine.heap.setList list ((machine.heap.list list).insertIdx
          (insertionPlace (machine.heap.list list).length word.toInt) value) } := by
  rw [call_builtin (inserts.eq rfl) rfl]
  exact withinCall_ok room rfl

end Positions

/-- What can be done at a position of a list, and at which of them. -/
structure ListPosition (settings : Settings) (fuel : Nat) (pop insert : BuiltinId)
    (site : CallSite) (frame : Frame) (span : Span) (machine : Machine) (list : ListId)
    (word : Int64) (value : Value) : Prop where
  reaches : Reaches (machine.heap.list list).length word.toInt →
    ∃ place item rest, Selects (machine.heap.list list) word.toInt place item rest ∧
      perform settings (fuel + 1) (.call (.list list) [some (.int word)] site) machine =
        .ok item machine ∧
      (∃ fresh after, applyBinary frame span .sub (.list list) (.int word) machine =
        .ok (.list fresh) after ∧ Adds machine after fresh rest) ∧
      ∃ after, perform settings (fuel + 1)
          (.call (.builtin pop) [some (.list list), some (.int word)] site) machine =
        .ok item after ∧ Rearranged machine after list rest
  refuses : ¬ Reaches (machine.heap.list list).length word.toInt →
    Refuses (perform settings (fuel + 1) (.call (.list list) [some (.int word)] site)) machine ∧
    Refuses (applyBinary frame span .sub (.list list) (.int word)) machine ∧
    Refuses (perform settings (fuel + 1)
      (.call (.builtin pop) [some (.list list), some (.int word)] site)) machine
  /-- No position is refused, and the elements keep their order. -/
  inserts : ∃ (place : Nat) (items : List Value) (after : Machine),
    place = max 0 (min ((machine.heap.list list).length : Int)
      (fromStart (machine.heap.list list).length word.toInt)) ∧
    items = (machine.heap.list list).take place ++ value :: (machine.heap.list list).drop place ∧
    items.length = (machine.heap.list list).length + 1 ∧
    perform settings (fuel + 1) (.call (.builtin insert)
      [some (.list list), some (.int word), some value] site) machine = .ok .nothing after ∧
    Rearranged machine after list items

/-- Texts are indexed by their characters. -/
structure TextPosition (settings : Settings) (fuel : Nat) (site : CallSite) (machine : Machine)
    (text : String) (word : Int64) : Prop where
  reaches : Reaches text.toList.length word.toInt →
    ∃ (place : Nat) (c : Char), place = fromStart text.toList.length word.toInt ∧
      text.toList[place]? = some c ∧
      perform settings (fuel + 1) (.call (.text text) [some (.int word)] site) machine =
        .ok (.text (String.ofList [c])) machine
  refuses : ¬ Reaches text.toList.length word.toInt →
    Refuses (perform settings (fuel + 1) (.call (.text text) [some (.int word)] site)) machine

/--
An index is taken in the same way wherever it is used: a call of a list, the list without an
element and the removal of an element agree on the place and on the positions that they refuse,
and texts are indexed like lists of their characters.  An insertion refuses no position.  The
machine words that the place is computed with do not overflow.
-/
theorem positions_agree {settings : Settings} {fuel : Nat} {pop insert : BuiltinId}
    {site : CallSite} {frame : Frame} {span : Span} {machine : Machine} {list : ListId}
    (pops : Offers machine.heap pop .pop) (inserts : Offers machine.heap insert .insert)
    (room : machine.depth < settings.maxDepth)
    (present : list.index < machine.heap.lists.size) (word : Int64) :
    (∀ value, ListPosition settings fuel pop insert site frame span machine list word value) ∧
    (∀ text, TextPosition settings fuel site machine text word) ∧
    ∀ length : Nat, Number.InRange length →
      Number.InRange (fromStart length word.toInt) ∧
      (wordFromStart (.ofNat length) word).toInt = fromStart length word.toInt := by
  refine ⟨fun value => ⟨fun reaches => ?_, fun beyond => ?_, ?_⟩, fun text => ⟨?_, ?_⟩, ?_⟩
  · rcases Data.selects_of_reaches reaches with ⟨place, item, found, selects⟩
    exact ⟨place, item, _, selects, index_ok (.list list) found selects.there,
      without_ok found, _, pop_ok pops room found selects.there, replaced (.inl present)⟩
  · have outside := Data.place?_eq_none_iff.mpr beyond
    exact ⟨index_refuses (.list list) outside, without_refuses outside,
      pop_refuses pops room outside⟩
  · have bound : insertionPlace (machine.heap.list list).length word.toInt ≤
        (machine.heap.list list).length := by
      have exact := Data.insertionPlace_eq (machine.heap.list list).length word.toInt
      omega
    refine ⟨_, _, _, Data.insertionPlace_eq _ _, rfl, ?_, insert_ok inserts room, ?_⟩
    · simp only [List.length_append, List.length_take, List.length_cons, List.length_drop]
      omega
    · rw [← Data.insertIdx_eq_take_drop value bound]
      exact replaced (.inl present)
  · intro reaches
    have reached : Reaches (text.toList.map Data.ofChar).length word.toInt := by
      rwa [List.length_map]
    rcases Data.selects_of_reaches reached with ⟨place, item, found, selects⟩
    have counted := selects.counted
    rcases Option.map_eq_some_iff.mp (List.getElem?_map ▸ selects.there) with ⟨c, there, rfl⟩
    rw [List.length_map] at counted
    exact ⟨place, c, counted, there, index_ok (.text text) found selects.there⟩
  · intro beyond
    refine index_refuses (.text text) (Data.place?_eq_none_iff.mpr ?_)
    rwa [List.length_map]
  · exact fun length range => Data.wordFromStart_exact range word

/-- A list of three elements. -/
def threeElements : Machine :=
  machineWith #[[.int 5, .text "a", .int 7]]

theorem last_position_agrees :
    Offers threeElements.heap ⟨9⟩ .pop ∧ Offers threeElements.heap ⟨10⟩ .insert ∧
      Reaches (threeElements.heap.list ⟨0⟩).length (-1) ∧
      ¬ Reaches (threeElements.heap.list ⟨0⟩).length 3 ∧
      (∃ after, perform {} 1
          (.call (.builtin ⟨9⟩) [some (.list ⟨0⟩), some (.int (-1))] sampleSite) threeElements =
        .ok (.int 7) after ∧ after.heap.list ⟨0⟩ = [.int 5, .text "a"]) ∧
      (∃ fresh after, applyBinary sampleSite.frame sampleSite.span .sub (.list ⟨0⟩)
          (.int (-1)) threeElements = .ok (.list fresh) after ∧
        after.heap.list fresh = [.int 5, .text "a"] ∧
        after.heap.list ⟨0⟩ = threeElements.heap.list ⟨0⟩) ∧
      Refuses (perform {} 1 (.call (.list ⟨0⟩) [some (.int 3)] sampleSite)) threeElements := by
  have popping : preludeFunctions[9]? = some (threeElements.heap.builtin ⟨9⟩) := rfl
  have inserting : preludeFunctions[10]? = some (threeElements.heap.builtin ⟨10⟩) := rfl
  have pops : Offers threeElements.heap ⟨9⟩ .pop := ⟨List.mem_of_getElem? popping, rfl⟩
  have inserts : Offers threeElements.heap ⟨10⟩ .insert := ⟨List.mem_of_getElem? inserting, rfl⟩
  have room : threeElements.depth < ({} : Settings).maxDepth := by decide
  have present : (⟨0⟩ : ListId).index < threeElements.heap.lists.size := by decide
  have agrees (word : Int64) := (@positions_agree {} 0 ⟨9⟩ ⟨10⟩ sampleSite sampleSite.frame
    sampleSite.span threeElements ⟨0⟩ pops inserts room present word).1 .nothing
  have reaches : Reaches (threeElements.heap.list ⟨0⟩).length (-1) := by decide
  have beyond : ¬ Reaches (threeElements.heap.list ⟨0⟩).length 3 := by decide
  refine ⟨pops, inserts, reaches, beyond, ?_, ?_, ((agrees 3).refuses beyond).1⟩
  all_goals
    rcases (agrees (-1)).reaches reaches with ⟨place, item, rest, selects, -, without, popped⟩
    obtain rfl : place = 2 := by
      have counted : (place : Int) = 2 := selects.counted
      omega
    cases selects.there
    cases selects.others
  · rcases popped with ⟨after, ran, rearranged⟩
    exact ⟨after, ran, rearranged.stored⟩
  · rcases without with ⟨fresh, after, ran, added⟩
    exact ⟨fresh, after, ran, added.stored, added.others ⟨0⟩ present⟩

end Evaluation
end Scripting
