import Scripting.Evaluation.Perform
import Scripting.Proofs.Elementary
import Scripting.Proofs.IntegerRounding

namespace Scripting

/-!
Sorted lists.

Sorting is stable, and puts texts in the order of the language.  Integers are compared as
floating-point numbers, so those that become the same number are left in the order they were in.
The result is in the order of the language exactly if among them none stood before a smaller one,
which is so for all integers of at most fifty-three bits.
-/

/-! ## Stable sorting -/

section Keys

variable {α β : Type} [LinearOrder β] (key : α → β) (items : List α)

/-- The items sorted by their keys. -/
def sortedBy : List α :=
  items.mergeSort fun left right => decide (key left ≤ key right)

theorem sortedBy_perm : (sortedBy key items).Perm items :=
  List.mergeSort_perm _ _

theorem before_trans (left middle right : α) (first : decide (key left ≤ key middle) = true)
    (second : decide (key middle ≤ key right) = true) : decide (key left ≤ key right) = true :=
  decide_eq_true (le_trans (of_decide_eq_true first) (of_decide_eq_true second))

theorem before_total (left right : α) :
    (decide (key left ≤ key right) || decide (key right ≤ key left)) = true := by
  rw [Bool.or_eq_true, decide_eq_true_iff, decide_eq_true_iff]
  exact le_total _ _

theorem sortedBy_pairwise :
    (sortedBy key items).Pairwise fun left right => key left ≤ key right :=
  (List.pairwise_mergeSort (before_trans key) (before_total key) items).imp of_decide_eq_true

/-- Items with the same key stay in the order they were in. -/
theorem sortedBy_stable (shared : β) :
    (sortedBy key items).filter (fun item => key item = shared) =
      items.filter fun item => key item = shared := by
  have together : (items.filter fun item => key item = shared).Pairwise
      fun left right => decide (key left ≤ key right) = true := by
    apply List.pairwise_of_forall_mem_list
    intro left first right second
    have leftKey := of_decide_eq_true (List.mem_filter.mp first).2
    have rightKey := of_decide_eq_true (List.mem_filter.mp second).2
    exact decide_eq_true (le_of_eq (leftKey.trans rightKey.symm))
  have kept := (List.sublist_mergeSort (before_trans key) (before_total key) together
    List.filter_sublist).filter fun item => key item = shared
  rw [List.filter_filter] at kept
  simp only [Bool.and_self] at kept
  have count := ((sortedBy_perm key items).filter fun item => key item = shared).length_eq
  exact (kept.eq_of_length count.symm).symm

/-- Two items with the same key, one before the other in the result, were so before. -/
theorem sublist_of_sortedBy {first second : α}
    (after : [first, second].Sublist (sortedBy key items)) (same : key first = key second) :
    [first, second].Sublist items := by
  have kept := after.filter fun item => key item = key first
  rw [sortedBy_stable] at kept
  have both : [first, second].filter (fun item => key item = key first) = [first, second] := by
    simp [same]
  rw [both] at kept
  exact kept.trans List.filter_sublist

end Keys

namespace Data

/-! ## The order of the language -/

variable {heap : Heap}

/-- Every element is at most its successor, as the language compares them. -/
def Heap.Ascending (heap : Heap) (items : List Value) : Prop :=
  items.IsChain fun left right => heap.compare .le left right = .ok true

theorem compare_le_int (a b : Int64) :
    heap.compare .le (.int a) (.int b) = .ok (decide (a.toInt ≤ b.toInt)) := by
  change Except.ok (satisfies .le (compare a.toInt b.toInt)) = _
  congr 1
  rcases Int.lt_trichotomy a.toInt b.toInt with lt | same | gt
  · rw [compare_lt_iff_lt.mpr lt, decide_eq_true (Int.le_of_lt lt)]
    rfl
  · rw [compare_eq_iff_eq.mpr same, decide_eq_true (Int.le_of_eq same)]
    rfl
  · rw [compare_gt_iff_gt.mpr gt, decide_eq_false (Int.not_le.mpr gt)]
    rfl

theorem textOrder_ne_gt (a b : String) : decide (textOrder a b ≠ .gt) = decide (a ≤ b) := by
  unfold textOrder
  rcases lt_trichotomy a b with lt | same | gt
  · rw [if_pos lt, decide_eq_true (le_of_lt lt)]
    rfl
  · rw [if_neg (not_lt_of_ge (ge_of_eq same)), if_pos same, decide_eq_true (le_of_eq same)]
    rfl
  · rw [if_neg (not_lt_of_gt gt), if_neg (ne_of_gt gt), decide_eq_false (not_le_of_gt gt)]
    rfl

theorem compare_le_text (a b : String) :
    heap.compare .le (.text a) (.text b) = .ok (decide (a ≤ b)) :=
  congrArg Except.ok (textOrder_ne_gt a b)

theorem ascending_ints {ints : List Int64} :
    heap.Ascending (ints.map .int) ↔ ints.Pairwise fun a b => a.toInt ≤ b.toInt := by
  let atMost : Int64 → Int64 → Prop := fun a b => a.toInt ≤ b.toInt
  have trans : Trans atMost atMost atMost := ⟨fun first second => Int.le_trans first second⟩
  simp only [Heap.Ascending, List.isChain_map, compare_le_int, Except.ok.injEq, decide_eq_true_iff]
  exact List.isChain_iff_pairwise

theorem ascending_texts {texts : List String} (sorted : texts.Pairwise (· ≤ ·)) :
    heap.Ascending (texts.map .text) := by
  simp only [Heap.Ascending, List.isChain_map, compare_le_text, Except.ok.injEq,
    decide_eq_true_iff]
  exact sorted.isChain

end Data

namespace Evaluation

open Data (Arguments Builtin BuiltinId Heap ListId Value preludeFunctions)
open Number (ofInteger roundingKey)
open Source (Span)

/-! ## What is compared -/

theorem numberBefore_int (a b : Int64) :
    numberBefore (.int a) (.int b) = decide (roundingKey a ≤ roundingKey b) := by
  change decide (Data.floatOrder? (ofInteger a) (ofInteger b) ≠ some .gt) = _
  rw [Number.floatOrder?_ofInteger]
  rcases Int.lt_trichotomy (roundingKey a) (roundingKey b) with lt | same | gt
  · rw [compare_lt_iff_lt.mpr lt, decide_eq_true (Int.le_of_lt lt)]
    rfl
  · rw [compare_eq_iff_eq.mpr same, decide_eq_true (Int.le_of_eq same)]
    rfl
  · rw [compare_gt_iff_gt.mpr gt, decide_eq_false (Int.not_le.mpr gt)]
    rfl

theorem sorted?_ints (ints : List Int64) :
    sorted? (ints.map .int) = some ((sortedBy roundingKey ints).map .int) := by
  have numbers : (ints.map Value.int).all (fun item => item.toFloat?.isSome) = true := by
    rw [List.all_map]
    exact List.all_eq_true.mpr fun _ _ => rfl
  rw [sorted?, if_pos numbers, sortedBy]
  exact congrArg some (List.map_mergeSort fun a _ b _ => (numberBefore_int a b).symm).symm

theorem sorted?_texts (texts : List String) :
    sorted? (texts.map .text) = some ((sortedBy id texts).map .text) := by
  have order : (texts.map Value.text).mergeSort textBefore = (sortedBy id texts).map .text :=
    (List.map_mergeSort fun a _ b _ => (Data.textOrder_ne_gt a b).symm).symm
  have all : (texts.map Value.text).all isText = true := by
    rw [List.all_map]
    exact List.all_eq_true.mpr fun _ _ => rfl
  unfold sorted?
  cases texts with
  | nil => simp [sortedBy]
  | cons first others => rw [if_neg (by simp [Value.toFloat?]), if_pos all, order]

theorem sorted?_mixed {items : List Value} (number : ∃ item ∈ items, item.toFloat? = none)
    (text : ∃ item ∈ items, isText item = false) : sorted? items = none := by
  rcases number with ⟨first, member, noNumber⟩
  rcases text with ⟨second, among, noText⟩
  have numbers : ¬ (items.all fun item => item.toFloat?.isSome) = true := by
    intro all
    have found := List.all_eq_true.mp all first member
    rw [noNumber] at found
    cases found
  have texts : ¬ items.all isText = true := by
    intro all
    have found := List.all_eq_true.mp all second among
    rw [noText] at found
    cases found
  rw [sorted?, if_neg numbers, if_neg texts]

/-! ## Calls -/

/-- The machine with one more active call. -/
def Machine.called (machine : Machine) : Machine :=
  { machine with depth := machine.depth + 1 }

section Within

variable {settings : Settings} {fuel : Nat} {frame : Frame} {span : Span} {site : CallSite}
  {machine : Machine} {action : Action Value}

theorem call_builtin {id : BuiltinId} {builtin : Builtin} {arguments : List (Option Value)}
    {bound : Arguments} (known : machine.heap.builtin id = builtin)
    (binds : builtin.bind arguments = .ok bound) :
    perform settings (fuel + 1) (.call (.builtin id) arguments site) machine =
      withinCall settings site.frame site.span
        (runOperation ⟨builtin.name, builtinFrame builtin site, site⟩ builtin.operation bound)
        machine := by
  change callBuiltin settings id arguments site machine = _
  rw [callBuiltin_apply, known, binds]

/-- A call that only changes the heap. -/
theorem withinCall_ok (room : machine.depth < settings.maxDepth) {value : Value} {heap : Heap}
    (ran : action machine.called = .ok value { machine.called with heap := heap }) :
    withinCall settings frame span action machine = .ok value { machine with heap := heap } := by
  unfold withinCall
  rw [if_neg (Nat.not_le.mpr room)]
  unfold Machine.called at ran
  rw [ran]
  rfl

/-- A call that is interrupted before it changes anything. -/
theorem withinCall_error (room : machine.depth < settings.maxDepth) {interrupt : Interrupt}
    (ran : action machine.called = .error interrupt machine.called) :
    withinCall settings frame span action machine = .error interrupt machine := by
  unfold withinCall
  rw [if_neg (Nat.not_le.mpr room)]
  unfold Machine.called at ran
  rw [ran]
  rfl

end Within

/-- The function of the language that sorts, by whatever name it is called. -/
def IsSort (heap : Heap) (id : BuiltinId) : Prop :=
  heap.builtin id ∈ preludeFunctions ∧ (heap.builtin id).operation = .sort

theorem IsSort.eq {heap : Heap} {id : BuiltinId} (sort : IsSort heap id) :
    heap.builtin id = { name := "sort", operation := .sort, required := ["list"] } := by
  rcases sort with ⟨member, operation⟩
  generalize heap.builtin id = builtin at member operation ⊢
  simp only [preludeFunctions, List.mem_cons, List.not_mem_nil, or_false] at member
  rcases member with rfl | rfl | rfl | rfl | rfl | rfl | rfl | rfl | rfl | rfl | rfl | rfl |
    rfl | rfl | rfl | rfl
  all_goals first | rfl | cases operation

/-- The machine after the elements of a list have been replaced; all else is as before. -/
structure Rearranged (machine after : Machine) (id : ListId) (items : List Value) : Prop where
  same : after = { machine with heap := machine.heap.setList id items }
  stored : after.heap.list id = items
  others : ∀ other, other ≠ id → after.heap.list other = machine.heap.list other

/-- Elements are put into a list that is there; into one that is not, none can be put. -/
theorem replaced {machine : Machine} {id : ListId} {items : List Value}
    (present : id.index < machine.heap.lists.size ∨ items = []) :
    Rearranged machine { machine with heap := machine.heap.setList id items } id items where
  same := rfl
  stored := by
    change (machine.heap.lists.setIfInBounds id.index items).getD id.index [] = items
    rw [Array.getD_eq_getD_getElem?, Array.getElem?_setIfInBounds, if_pos rfl]
    split_ifs with inside
    · rfl
    · exact (present.resolve_left inside).symm
  others other different := by
    have places : id.index ≠ other.index := fun same => different (by cases id; cases other; simp_all)
    change (machine.heap.lists.setIfInBounds id.index items).getD other.index [] = _
    rw [Array.getD_eq_getD_getElem?, Array.getElem?_setIfInBounds, if_neg places, Heap.list,
      Array.getD_eq_getD_getElem?]

theorem rearranged {machine : Machine} {id : ListId} {items : List Value}
    (perm : items.Perm (machine.heap.list id)) :
    Rearranged machine { machine with heap := machine.heap.setList id items } id items := by
  refine replaced (Decidable.or_iff_not_imp_left.mpr fun outside => ?_)
  have none : machine.heap.list id = [] := by
    rw [Heap.list, Array.getD_eq_getD_getElem?, Array.getElem?_eq_none (Nat.not_lt.mp outside)]
    rfl
  rw [none] at perm
  exact perm.eq_nil

/-- How the function sees a call of it. -/
def sortCall (site : CallSite) : BuiltinCall :=
  ⟨"sort",
    { site.frame with trail := site.frame.enter "sort" site.span, exports := none }, site⟩

theorem listAt_list (call : BuiltinCall) (ordinal : Nat) (id : ListId) (machine : Machine) :
    call.listAt ordinal (.list id) machine = .ok id machine :=
  rfl

section Calls

variable {settings : Settings} {fuel : Nat} {builtin : BuiltinId} {list : ListId} {site : CallSite}
  {machine : Machine} (sort : IsSort machine.heap builtin) (room : machine.depth < settings.maxDepth)

include sort

theorem call_sort :
    perform settings (fuel + 1) (.call (.builtin builtin) [some (.list list)] site) machine =
      withinCall settings site.frame site.span (runSort (sortCall site) (.list list)) machine := by
  rw [call_builtin sort.eq rfl]
  rfl

include room

theorem call_sort_ok {items : List Value} (sorted : sorted? (machine.heap.list list) = some items) :
    perform settings (fuel + 1) (.call (.builtin builtin) [some (.list list)] site) machine =
      .ok .nothing { machine with heap := machine.heap.setList list items } := by
  rw [call_sort sort]
  refine withinCall_ok room ?_
  have same : machine.called.heap = machine.heap := rfl
  simp only [runSort, bind_apply, listAt_list, readHeap, same, sorted]
  rfl

/-- A list that cannot be sorted is left as it is, with everything else. -/
theorem call_sort_error (mixed : sorted? (machine.heap.list list) = none) :
    ∃ error : RuntimeError, error.fault = .unsortable ∧
      perform settings (fuel + 1) (.call (.builtin builtin) [some (.list list)] site) machine =
        .error (.error error) machine := by
  let error : RuntimeError :=
    ⟨.unsortable, (sortCall site).frame.place site.span, (sortCall site).frame.trail⟩
  refine ⟨error, rfl, ?_⟩
  rw [call_sort sort]
  refine withinCall_error room ?_
  have same : machine.called.heap = machine.heap := rfl
  simp only [runSort, bind_apply, listAt_list, readHeap, same, mixed]
  rfl

end Calls

/-- Two integers may stand in this order if they are compared as floating-point numbers. -/
def RoundedAtMost (a b : Int64) : Prop :=
  ¬ ofInteger b < ofInteger a

theorem roundedAtMost_iff (a b : Int64) : RoundedAtMost a b ↔ roundingKey a ≤ roundingKey b := by
  have behind := Number.float_lt_iff (ofInteger b) (ofInteger a)
  rw [Number.compare_ofInteger, Option.some_inj, compare_lt_iff_lt] at behind
  rw [RoundedAtMost, behind, Int.not_lt]

/-- What sorting makes of integers. -/
structure SortsIntegers (heap : Heap) (ints sorted : List Int64) : Prop where
  perm : sorted.Perm ints
  rounded : sorted.Pairwise RoundedAtMost
  stable : ∀ shared : Float, sorted.filter (fun n => ofInteger n = shared) =
    ints.filter fun n => ofInteger n = shared
  /-- The exact condition for the order of the language. -/
  ascending_iff : heap.Ascending (sorted.map .int) ↔
    ∀ a b, [a, b].Sublist ints → ofInteger a = ofInteger b → a.toInt ≤ b.toInt
  /-- It holds of integers of at most fifty-three bits. -/
  ascending : (∀ n ∈ ints, n.toInt.natAbs ≤ 2 ^ 53) → heap.Ascending (sorted.map .int)

theorem ascending_iff (heap : Heap) (ints : List Int64) :
    heap.Ascending ((sortedBy roundingKey ints).map .int) ↔
      ∀ a b, [a, b].Sublist ints → ofInteger a = ofInteger b → a.toInt ≤ b.toInt := by
  rw [Data.ascending_ints, List.pairwise_iff_forall_sublist]
  constructor
  · intro ordered a b before same
    have keys := (Number.ofInteger_eq_iff a b).mp same
    refine ordered (List.pair_sublist_mergeSort (before_trans _) (before_total _) ?_ before)
    exact decide_eq_true (Int.le_of_eq keys)
  · intro condition a b after
    have keys := List.pairwise_iff_forall_sublist.mp (sortedBy_pairwise roundingKey ints) after
    rcases Int.lt_or_eq_of_le keys with lt | same
    · by_contra greater
      have reversed := Number.roundingKey_mono (show b.toInt ≤ a.toInt by omega)
      omega
    · exact condition a b (sublist_of_sortedBy _ _ after same)
        ((Number.ofInteger_eq_iff a b).mpr same)

theorem rounded_stable (ints : List Int64) (shared : Float) :
    (sortedBy roundingKey ints).filter (fun n => ofInteger n = shared) =
      ints.filter fun n => ofInteger n = shared := by
  by_cases reached : ∃ m, ofInteger m = shared
  · rcases reached with ⟨m, rfl⟩
    simp only [Number.ofInteger_eq_iff]
    exact sortedBy_stable roundingKey ints (roundingKey m)
  · have never : ∀ n, decide (ofInteger n = shared) = false :=
      fun n => decide_eq_false fun same => reached ⟨n, same⟩
    simp only [never, List.filter_false]

theorem sortsIntegers (heap : Heap) (ints : List Int64) :
    SortsIntegers heap ints (sortedBy roundingKey ints) where
  perm := sortedBy_perm _ _
  rounded := (sortedBy_pairwise roundingKey ints).imp fun le => (roundedAtMost_iff _ _).mpr le
  stable := rounded_stable ints
  ascending_iff := ascending_iff heap ints
  ascending short := by
    rw [ascending_iff]
    intro a b before same
    have first := short a (before.subset List.mem_cons_self)
    have second := short b (before.subset (List.mem_cons_of_mem _ List.mem_cons_self))
    by_contra greater
    have strict := Number.roundingKey_strict (Int.not_le.mp greater) second first
    have keys := (Number.ofInteger_eq_iff a b).mp same
    omega

/--
Sorting a list by a call that is within the limit on active calls.  Integers and texts are
replaced by the same elements in another order, which everyone who refers to the list sees;
a list that holds neither numbers alone nor texts alone is left as it is.
-/
theorem sort_by_rounding {settings : Settings} {fuel : Nat} {builtin : BuiltinId} {list : ListId}
    {site : CallSite} {machine : Machine} (sort : IsSort machine.heap builtin)
    (room : machine.depth < settings.maxDepth) :
    (∀ ints : List Int64, machine.heap.list list = ints.map .int →
      ∃ (sorted : List Int64) (after : Machine),
      perform settings (fuel + 1) (.call (.builtin builtin) [some (.list list)] site) machine =
        .ok .nothing after ∧
      Rearranged machine after list (sorted.map .int) ∧ SortsIntegers after.heap ints sorted) ∧
    (∀ texts : List String, machine.heap.list list = texts.map .text →
      ∃ (sorted : List String) (after : Machine),
      perform settings (fuel + 1) (.call (.builtin builtin) [some (.list list)] site) machine =
        .ok .nothing after ∧
      Rearranged machine after list (sorted.map .text) ∧ sorted.Perm texts ∧
      after.heap.Ascending (sorted.map .text)) ∧
    ((∃ item ∈ machine.heap.list list, item.toFloat? = none) →
      (∃ item ∈ machine.heap.list list, isText item = false) →
      ∃ error : RuntimeError, error.fault.kind = .type ∧
        perform settings (fuel + 1) (.call (.builtin builtin) [some (.list list)] site) machine =
          .error (.error error) machine) := by
  refine ⟨?ints, ?texts, ?mixed⟩
  case ints =>
    intro ints stored
    have sorted := sorted?_ints ints
    rw [← stored] at sorted
    have perm := (sortedBy_perm roundingKey ints).map Value.int
    rw [← stored] at perm
    exact ⟨_, _, call_sort_ok sort room sorted, rearranged perm, sortsIntegers _ ints⟩
  case texts =>
    intro texts stored
    have sorted := sorted?_texts texts
    rw [← stored] at sorted
    have perm := (sortedBy_perm id texts).map Value.text
    rw [← stored] at perm
    exact ⟨_, _, call_sort_ok sort room sorted, rearranged perm, sortedBy_perm _ _,
      Data.ascending_texts (sortedBy_pairwise _ texts)⟩
  case mixed =>
    intro number text
    rcases call_sort_error sort room (sorted?_mixed number text) with ⟨error, fault, ended⟩
    exact ⟨error, by rw [fault]; rfl, ended⟩

/-- A machine on which nothing has run, with the given lists. -/
def machineWith (lists : Array (List Value)) : Machine where
  heap := { (Heap.newPrelude {}).2 with lists := lists }
  depth := 0
  console := {}
  files := {}

def sampleSite : CallSite where
  frame := { trail := .root "", scope := ⟨⟨0⟩, []⟩, exports := none, document := ⟨"", ""⟩ }
  span := ⟨.start, .start⟩
  arguments := []

theorem isSort_machineWith (lists : Array (List Value)) :
    IsSort (machineWith lists).heap ⟨13⟩ := by
  have sorting : preludeFunctions[13]? = some ((machineWith lists).heap.builtin ⟨13⟩) := rfl
  exact ⟨List.mem_of_getElem? sorting, rfl⟩

/-- The call of the function on the list with the given number. -/
def sortList (machine : Machine) (place : Nat) : EStateM.Result Interrupt Machine Value :=
  perform {} 1 (.call (.builtin ⟨13⟩) [some (.list ⟨place⟩)] sampleSite) machine

/-- Integers, texts, and a list of both. -/
def unsortedMachine : Machine :=
  machineWith #[[.int 7, .int (-3), .int 7], [.text "b", .text "", .text "a"],
    [.int 1, .text "a"]]

theorem unsorted_lists_sorted :
    IsSort unsortedMachine.heap ⟨13⟩ ∧ unsortedMachine.depth < ({} : Settings).maxDepth ∧
      (∃ (sorted : List Int64) (after : Machine),
        sortList unsortedMachine 0 = .ok .nothing after ∧ sorted.Perm [7, -3, 7] ∧
        after.heap.list ⟨0⟩ = sorted.map .int ∧ after.heap.Ascending (sorted.map .int)) ∧
      (∃ (sorted : List String) (after : Machine),
        sortList unsortedMachine 1 = .ok .nothing after ∧ sorted.Perm ["b", "", "a"] ∧
        after.heap.list ⟨1⟩ = sorted.map .text ∧ after.heap.Ascending (sorted.map .text)) ∧
      ∃ error : RuntimeError, error.fault.kind = .type ∧
        sortList unsortedMachine 2 = .error (.error error) unsortedMachine := by
  have sort : IsSort unsortedMachine.heap ⟨13⟩ := isSort_machineWith _
  have room : unsortedMachine.depth < ({} : Settings).maxDepth := by decide
  refine ⟨sort, room, ?ints, ?texts, ?mixed⟩
  case ints =>
    have stored : unsortedMachine.heap.list ⟨0⟩ = [7, -3, 7].map .int := rfl
    rcases (sort_by_rounding sort room).1 [7, -3, 7] stored with
      ⟨sorted, after, ended, rearranged, sorts⟩
    have short : ∀ n ∈ ([7, -3, 7] : List Int64), n.toInt.natAbs ≤ 2 ^ 53 := by
      intro n member
      simp only [List.mem_cons, List.not_mem_nil, or_false] at member
      rcases member with rfl | rfl | rfl
      all_goals decide
    exact ⟨sorted, after, ended, sorts.perm, rearranged.stored, sorts.ascending short⟩
  case texts =>
    have stored : unsortedMachine.heap.list ⟨1⟩ = ["b", "", "a"].map .text := rfl
    rcases (sort_by_rounding sort room).2.1 ["b", "", "a"] stored with
      ⟨sorted, after, ended, rearranged, perm, ascending⟩
    exact ⟨sorted, after, ended, perm, rearranged.stored, ascending⟩
  case mixed =>
    have number : Value.int 1 ∈ unsortedMachine.heap.list ⟨2⟩ := List.mem_cons_self
    have text : Value.text "a" ∈ unsortedMachine.heap.list ⟨2⟩ :=
      List.mem_cons_of_mem _ List.mem_cons_self
    exact (sort_by_rounding sort room).2.2 ⟨_, text, rfl⟩ ⟨_, number, rfl⟩

/-- Two neighbours above two to the power of fifty-three, the greater one first. -/
def closeIntegers : List Int64 :=
  [9007199254740993, 9007199254740992]

/-- Sorting leaves them in this order, which is not that of the language. -/
theorem close_integers_left_unsorted :
    ∃ after, sortList (machineWith #[closeIntegers.map .int]) 0 = .ok .nothing after ∧
      after.heap.list ⟨0⟩ = closeIntegers.map .int ∧
      ¬ after.heap.Ascending (after.heap.list ⟨0⟩) := by
  have same : roundingKey 9007199254740993 = roundingKey 9007199254740992 := by decide +kernel
  have kept : sortedBy roundingKey closeIntegers = closeIntegers := by
    apply List.mergeSort_of_pairwise
    simp [closeIntegers, same]
  have sort := isSort_machineWith #[closeIntegers.map .int]
  have room : (machineWith #[closeIntegers.map .int]).depth < ({} : Settings).maxDepth := by decide
  have sorted := sorted?_ints closeIntegers
  rw [kept] at sorted
  have stored : (machineWith #[closeIntegers.map .int]).heap.list ⟨0⟩ = closeIntegers.map .int := rfl
  have placed := rearranged (List.Perm.of_eq stored.symm)
  refine ⟨_, call_sort_ok sort room sorted, placed.stored, ?_⟩
  rw [placed.stored, Data.ascending_ints]
  decide

end Evaluation
end Scripting
