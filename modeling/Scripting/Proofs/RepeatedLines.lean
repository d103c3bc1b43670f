import Mathlib.Data.List.Infix
import Mathlib.Data.List.TakeWhile
import Scripting.Evaluation.Frame

namespace Scripting
namespace Text

/-!
Repeated lines that are cut short are not lost.

A list of lines falls into maximal runs of equal ones, and each run is shown on its own.  So
what is shown of several runs stands one behind the other, and facts about shown lines are
proved run by run.

A line that says how many times another one was repeated tells everything about the lines that
it stands for.  This only goes wrong if a line of the list already looks like that.
-/

variable {line : String} {count : Nat} {lines front back : List String}

/-! ## The line that stands for others -/

/-- How many repetitions a line stands for, if it stands for any. -/
def repeatedCount? (line : String) : Option Nat :=
  let count := Nat.ofDigitChars 10 (line.toList.filter Char.isDigit) 0
  if line = repetitionMarker count then some count else none

theorem toList_repetitionMarker (count : Nat) :
    (repetitionMarker count).toList =
      "  (repeated ".toList ++ (Nat.toDigits 10 count ++ " more times)".toList) := by
  rw [← Nat.toList_repr, ← String.toList_append, ← String.toList_append, ← String.append_assoc]
  rfl

theorem filter_repetitionMarker (count : Nat) :
    (repetitionMarker count).toList.filter Char.isDigit = Nat.toDigits 10 count := by
  have digits : (Nat.toDigits 10 count).filter Char.isDigit = Nat.toDigits 10 count :=
    List.filter_eq_self.mpr fun _ => Nat.isDigit_of_mem_toDigits (by decide) (by decide)
  have left : "  (repeated ".toList.filter Char.isDigit = [] := by decide
  have right : " more times)".toList.filter Char.isDigit = [] := by decide
  rw [toList_repetitionMarker, List.filter_append, List.filter_append, digits, left, right,
    List.append_nil, List.nil_append]

theorem repeatedCount?_eq_some_iff :
    repeatedCount? line = some count ↔ line = repetitionMarker count := by
  simp only [repeatedCount?]
  constructor
  · intro found
    split at found
    · rename_i written
      cases found
      exact written
    · cases found
  · rintro rfl
    rw [filter_repetitionMarker, Nat.ofDigitChars_toDigits (by decide) (by decide), if_pos rfl]

/-- A line that does not look as if it stood for others. -/
def Ordinary (line : String) : Prop :=
  ∀ count, line ≠ repetitionMarker count

theorem ordinary_iff : Ordinary line ↔ repeatedCount? line = none := by
  simp only [Option.eq_none_iff_forall_ne_some, ne_eq, repeatedCount?_eq_some_iff, Ordinary]

instance (line : String) : Decidable (Ordinary line) :=
  decidable_of_iff _ ordinary_iff.symm

/-- The lines that a line stands for when it follows another one. -/
def standsFor (before : Option String) (line : String) : List String :=
  match before, repeatedCount? line with
  | some earlier, some count => List.replicate count earlier
  | _, _ => [line]

/-- Lines with those that they stand for put in, behind the line before them. -/
def expandAfter (before : Option String) : List String → List String
  | [] => []
  | line :: rest => standsFor before line ++ expandAfter (some line) rest

/-- Lines with those that they stand for put in. -/
def expand (lines : List String) : List String :=
  expandAfter none lines

theorem standsFor_repetitionMarker (earlier : String) (count : Nat) :
    standsFor (some earlier) (repetitionMarker count) = List.replicate count earlier := by
  unfold standsFor
  rw [repeatedCount?_eq_some_iff.mpr rfl]

theorem Ordinary.standsFor_eq (ordinary : Ordinary line) (before : Option String) :
    standsFor before line = [line] := by
  unfold standsFor
  rw [ordinary_iff.mp ordinary]
  cases before <;> rfl

theorem expandAfter_replicate (ordinary : Ordinary line) (before : Option String)
    (some : 0 < count) (rest : List String) :
    expandAfter before (List.replicate count line ++ rest) =
      List.replicate count line ++ expandAfter line rest := by
  induction count generalizing before with
  | zero => cases some
  | succ count ih =>
      rw [List.replicate_succ, List.cons_append, List.cons_append, expandAfter,
        ordinary.standsFor_eq, List.singleton_append]
      rcases Nat.eq_zero_or_pos count with rfl | more
      · rfl
      · rw [ih line more]

/-! ## Runs of equal lines -/

/-- Equal lines in a row that are not part of a longer row of equal lines. -/
structure MaximalRun (lines front : List String) (line : String) (count : Nat)
    (back : List String) : Prop where
  split : lines = front ++ (List.replicate count line ++ back)
  before : line ∉ front.getLast?
  behind : line ∉ back.head?

/-- No line stands more than five times in a row. -/
def Short (lines : List String) : Prop :=
  ∀ line count, List.replicate count line <:+: lines → count ≤ shownRepetitions

theorem head?_runsOf (lines : List String) :
    (runsOf lines).head?.map Prod.fst = lines.head? := by
  cases lines with
  | nil => rfl
  | cons line rest =>
      unfold runsOf
      split
      · rfl
      · split
        · rename_i same
          exact congrArg some same.symm
        · rfl

/-- The run at the start of a list is kept apart from the others. -/
theorem runsOf_replicate (some : 0 < count) (behind : line ∉ back.head?) :
    runsOf (List.replicate count line ++ back) = (line, count) :: runsOf back := by
  induction count with
  | zero => cases some
  | succ count ih =>
      rw [List.replicate_succ, List.cons_append]
      rcases Nat.eq_zero_or_pos count with rfl | more
      · have first := head?_runsOf back
        rw [List.replicate_zero, List.nil_append, runsOf]
        cases runs : runsOf back with
        | nil => rfl
        | cons run others =>
            rw [runs] at first
            have other : line ≠ run.1 := fun same => behind (by rw [← first, same]; rfl)
            simp only [if_neg other]
      · simp only [runsOf, ih more, if_true]

/-- Every list of lines is made of maximal runs. -/
@[elab_as_elim]
theorem byRuns {motive : List String → Prop} (nothing : motive [])
    (run : ∀ line count back, 0 < count → line ∉ back.head? → motive back →
      motive (List.replicate count line ++ back)) : ∀ lines, motive lines
  | [] => nothing
  | line :: rest => by
      -- The first run ends where the first other line stands.
      have same : rest.takeWhile (· = line) =
          List.replicate (rest.takeWhile (· = line)).length line :=
        List.eq_replicate_of_mem fun other member => by simpa using List.mem_takeWhile_imp member
      have other : line ∉ (rest.dropWhile (· = line)).head? := by
        intro first
        have apart := List.head?_dropWhile_not (· = line) rest
        rw [Option.mem_def.mp first] at apart
        simp at apart
      have shorter : (rest.dropWhile (· = line)).length ≤ rest.length :=
        List.length_dropWhile_le _ _
      have whole := run line _ _ (Nat.succ_pos (rest.takeWhile (· = line)).length) other
        (byRuns nothing run (rest.dropWhile (· = line)))
      rw [List.replicate_succ, ← same, List.cons_append, List.takeWhile_append_dropWhile] at whole
      exact whole
termination_by lines => lines.length
decreasing_by exact Nat.lt_succ_of_le shorter

/-! ## What is shown of them -/

theorem showRun_short (short : count ≤ shownRepetitions) :
    showRun (line, count) = List.replicate count line := by
  rw [showRun, Nat.min_eq_left short, if_neg (Nat.not_lt_of_le short), List.append_nil]

theorem showRun_long (some : 0 < count) :
    showRun (line, shownRepetitions + count) =
      List.replicate shownRepetitions line ++ [repetitionMarker count] := by
  have long : shownRepetitions < shownRepetitions + count := Nat.lt_add_of_pos_right some
  rw [showRun, Nat.min_eq_right (Nat.le_of_lt long), if_pos long, Nat.add_sub_cancel_left]

theorem short_or_long (count : Nat) :
    count ≤ shownRepetitions ∨ ∃ more, 0 < more ∧ count = shownRepetitions + more := by
  rcases Nat.lt_or_ge shownRepetitions count with long | short
  · exact .inr ⟨count - shownRepetitions, by omega, by omega⟩
  · exact .inl short

theorem head?_showRun (some : 0 < count) : (showRun (line, count)).head? = line := by
  have shown : min count shownRepetitions ≠ 0 := by
    unfold shownRepetitions
    omega
  rw [showRun, List.head?_append, List.head?_replicate, if_neg shown]
  rfl

theorem collapse_replicate (some : 0 < count) (behind : line ∉ back.head?) :
    collapse (List.replicate count line ++ back) = showRun (line, count) ++ collapse back := by
  rw [collapse, runsOf_replicate some behind, List.flatMap_cons]
  rfl

theorem head?_collapse (lines : List String) : (collapse lines).head? = lines.head? := by
  induction lines using byRuns with
  | nothing => rfl
  | run line count back some behind _ =>
      rw [collapse_replicate some behind, List.head?_append, head?_showRun some, List.head?_append,
        List.head?_replicate, if_neg (Nat.ne_of_gt some)]
      rfl

/-- A run that begins or ends a part of the list does not go on in the other part. -/
def Apart (front back : List String) : Prop :=
  ∀ line ∈ front.getLast?, line ∉ back.head?

theorem Apart.of_append (apart : Apart (front ++ lines) back) : Apart lines back := by
  intro line last
  refine apart line ?_
  rw [List.getLast?_append, Option.mem_def.mp last]
  rfl

theorem Apart.behind_run (apart : Apart (List.replicate count line ++ lines) back)
    (some : 0 < count) (behind : line ∉ lines.head?) : line ∉ (lines ++ back).head? := by
  cases lines with
  | nil =>
      refine apart line ?_
      rw [List.append_nil, List.getLast?_replicate, if_neg (Nat.ne_of_gt some)]
      rfl
  | cons first lines => exact behind

theorem collapse_append (apart : Apart front back) :
    collapse (front ++ back) = collapse front ++ collapse back := by
  induction front using byRuns with
  | nothing => rfl
  | run line count rest some behind ih =>
      rw [List.append_assoc, collapse_replicate some (apart.behind_run some behind),
        collapse_replicate some behind, ih apart.of_append, List.append_assoc]

theorem MaximalRun.collapse_eq (run : MaximalRun lines front line count back) (some : 0 < count) :
    collapse lines = collapse front ++ (showRun (line, count) ++ collapse back) := by
  have apart : Apart front (List.replicate count line ++ back) := by
    intro last member
    rw [List.head?_append, List.head?_replicate, if_neg (Nat.ne_of_gt some)]
    rintro ⟨⟩
    exact run.before member
  rw [run.split, collapse_append apart, collapse_replicate some run.behind]

/-! ## Lines that are shown -/

theorem Short.mono (short : Short lines) (inside : front <:+: lines) : Short front :=
  fun line count run => short line count (run.trans inside)

theorem short_replicate (few : count ≤ shownRepetitions) : Short (List.replicate count line) := by
  intro other many run
  have length := run.length_le
  rw [List.length_replicate, List.length_replicate] at length
  exact Nat.le_trans length few

theorem getLast?_of_ends (some : 0 < count) (ends : List.replicate count line <:+ lines) :
    line ∈ lines.getLast? := by
  rcases ends with ⟨before, rfl⟩
  rw [List.getLast?_append, List.getLast?_replicate, if_neg (Nat.ne_of_gt some)]
  rfl

theorem head?_of_starts (some : 0 < count) (starts : List.replicate count line <+: lines) :
    line ∈ lines.head? := by
  rcases starts with ⟨behind, rfl⟩
  rw [List.head?_append, List.head?_replicate, if_neg (Nat.ne_of_gt some)]
  rfl

/-- A run across the border of two lists would have the same line on both sides of it. -/
theorem Short.append (left : Short front) (right : Short back) (apart : Apart front back) :
    Short (front ++ back) := by
  intro line count run
  rcases List.infix_append_iff.mp run with inside | inside | ⟨one, two, split, ends, starts⟩
  · exact left line count inside
  · exact right line count inside
  · rcases List.replicate_eq_append_iff.mp split with ⟨rfl, first, second⟩
    rw [first] at ends
    rw [second] at starts
    rcases Nat.eq_zero_or_pos one.length with none | before
    · rw [none, Nat.zero_add]
      exact right line _ starts.isInfix
    · rcases Nat.eq_zero_or_pos two.length with none | behind
      · rw [none, Nat.add_zero]
        exact left line _ ends.isInfix
      · exact absurd (head?_of_starts behind starts) (apart line (getLast?_of_ends before ends))

/-- A list without long runs is shown as it is. -/
theorem collapse_of_short (short : Short lines) : collapse lines = lines := by
  induction lines using byRuns with
  | nothing => rfl
  | run line count back some behind ih =>
      have few : count ≤ shownRepetitions := short line count (List.prefix_append _ _).isInfix
      rw [collapse_replicate some behind, showRun_short few,
        ih (short.mono (List.suffix_append _ _).isInfix)]

/-- The lines of a list do not look as if they stood for others. -/
def AllOrdinary (lines : List String) : Prop :=
  ∀ line ∈ lines, Ordinary line

theorem AllOrdinary.run (ordinary : AllOrdinary (List.replicate count line ++ back))
    (some : 0 < count) : Ordinary line ∧ AllOrdinary back := by
  rcases List.forall_mem_append.mp ordinary with ⟨here, later⟩
  exact ⟨here line (List.mem_replicate.mpr ⟨Nat.ne_of_gt some, rfl⟩), later⟩

theorem expandAfter_collapse (ordinary : AllOrdinary lines) (before : Option String) :
    expandAfter before (collapse lines) = lines := by
  induction lines using byRuns generalizing before with
  | nothing => rfl
  | run line count back some behind ih =>
      rcases ordinary.run some with ⟨plain, later⟩
      rw [collapse_replicate some behind]
      rcases short_or_long count with short | ⟨more, further, rfl⟩
      · rw [showRun_short short, expandAfter_replicate plain before some, ih later]
      · rw [showRun_long further, List.append_assoc, List.singleton_append,
          expandAfter_replicate plain before (by decide), expandAfter,
          standsFor_repetitionMarker, ih later, ← List.append_assoc, ← List.replicate_add]

theorem short_showRun (ordinary : Ordinary line) (count : Nat) : Short (showRun (line, count)) := by
  rcases short_or_long count with few | ⟨more, further, rfl⟩
  · rw [showRun_short few]
    exact short_replicate few
  · rw [showRun_long further]
    have one : Short (List.replicate 1 (repetitionMarker more)) := short_replicate (by decide)
    refine (short_replicate (Nat.le_refl _)).append one ?_
    rintro _ last ⟨⟩
    rw [List.getLast?_replicate, if_neg (by decide)] at last
    exact ordinary more (Option.some.inj last)

/-- The last line shown of a run is its own or tells of it. -/
theorem apart_showRun (ordinary : AllOrdinary back) (some : 0 < count)
    (behind : line ∉ back.head?) : Apart (showRun (line, count)) (collapse back) := by
  unfold Apart
  rw [head?_collapse]
  rcases short_or_long count with few | ⟨more, further, rfl⟩
  · rw [showRun_short few, List.getLast?_replicate, if_neg (Nat.ne_of_gt some)]
    rintro _ ⟨⟩
    exact behind
  · rw [showRun_long further, List.getLast?_concat]
    rintro _ ⟨⟩ first
    exact ordinary _ (List.mem_of_mem_head? first) more rfl

theorem short_collapse (ordinary : AllOrdinary lines) : Short (collapse lines) := by
  induction lines using byRuns with
  | nothing => exact @short_replicate "" 0 (Nat.zero_le _)
  | run line count back some behind ih =>
      rcases ordinary.run some with ⟨plain, later⟩
      rw [collapse_replicate some behind]
      exact (short_showRun plain count).append (ih later) (apart_showRun later some behind)

/-! ## Where runs are cut short -/

/-- A line that stands for others is shown of a run only in its last place. -/
theorem marker_of_showRun {before after : List String} {number : Nat} (ordinary : Ordinary line)
    (shown : showRun (line, count) = before ++ repetitionMarker number :: after) :
    0 < number ∧ count = shownRepetitions + number ∧
      before = List.replicate shownRepetitions line ∧ after = [] := by
  have absent (many : Nat) : repetitionMarker number ∉ List.replicate many line :=
    fun member => ordinary number (List.eq_of_mem_replicate member).symm
  rcases short_or_long count with few | ⟨more, further, rfl⟩
  · rw [showRun_short few] at shown
    refine absurd ?_ (absent count)
    rw [shown]
    exact List.mem_append_right before List.mem_cons_self
  · rw [showRun_long further] at shown
    rcases List.eq_nil_or_concat' after with rfl | ⟨rest, last, rfl⟩
    · rcases List.append_inj' shown rfl with ⟨rfl, same⟩
      have counted := repeatedCount?_eq_some_iff.mpr (List.cons.inj same).1
      rw [repeatedCount?_eq_some_iff.mpr rfl] at counted
      cases counted
      exact ⟨further, rfl, rfl, rfl⟩
    · rw [← List.cons_append, ← List.append_assoc] at shown
      refine absurd ?_ (absent shownRepetitions)
      rw [(List.append_inj' shown rfl).1]
      exact List.mem_append_right before List.mem_cons_self

/-- A maximal run is one, too, behind a run of other lines. -/
theorem MaximalRun.behind_run {other : String} {many : Nat} (several : 0 < many)
    (run : MaximalRun lines front other many back) (behind : line ∉ lines.head?) (count : Nat) :
    line ∉ front.head? ∧
      MaximalRun (List.replicate count line ++ lines) (List.replicate count line ++ front) other
        many back := by
  have split : List.replicate count line ++ lines =
      List.replicate count line ++ front ++ (List.replicate many other ++ back) := by
    rw [run.split, List.append_assoc]
  rw [run.split] at behind
  rcases List.eq_nil_or_concat' front with rfl | ⟨front, last, rfl⟩
  · refine ⟨nofun, split, ?_, run.behind⟩
    rw [List.nil_append, List.head?_append, List.head?_replicate,
      if_neg (Nat.ne_of_gt several)] at behind
    rw [List.append_nil, List.getLast?_replicate]
    split_ifs
    · exact nofun
    · rintro ⟨⟩
      exact behind rfl
  · refine ⟨?_, split, ?_, run.behind⟩
    · intro first
      rw [List.head?_append, Option.mem_def.mp first] at behind
      exact behind rfl
    · have before := run.before
      rw [List.getLast?_concat] at before
      rwa [← List.append_assoc, List.getLast?_concat]

/-- Every line that stands for others is shown of a maximal run. -/
theorem exists_run_of_marker (ordinary : AllOrdinary lines) {before after : List String}
    {number : Nat} (shown : collapse lines = before ++ repetitionMarker number :: after) :
    ∃ front line back, MaximalRun lines front line (shownRepetitions + number) back ∧ 0 < number ∧
      before = collapse front ++ List.replicate shownRepetitions line ∧ after = collapse back := by
  induction lines using byRuns generalizing before with
  | nothing => exact absurd shown.symm (by simp [collapse, runsOf])
  | run line count back some behind ih =>
      rcases ordinary.run some with ⟨plain, later⟩
      rw [collapse_replicate some behind] at shown
      have cases : (∃ rest, before = showRun (line, count) ++ rest ∧
          collapse back = rest ++ repetitionMarker number :: after) ∨
          ∃ rest, showRun (line, count) = before ++ repetitionMarker number :: rest ∧
            after = rest ++ collapse back := by
        rcases List.append_eq_append_iff.mp shown with inBack | ⟨rest, here, ends⟩
        · exact .inl inBack
        · rcases List.cons_eq_append_iff.mp ends with ⟨rfl, first⟩ | ⟨rest, rfl, rfl⟩
          · exact .inl ⟨[], by rw [here, List.append_nil, List.append_nil], first⟩
          · exact .inr ⟨rest, here, rfl⟩
      rcases cases with ⟨rest, rfl, inBack⟩ | ⟨rest, here, rfl⟩
      · rcases ih later inBack with ⟨front, other, last, run, positive, rfl, rfl⟩
        have several : 0 < shownRepetitions + number := Nat.lt_add_left _ positive
        rcases run.behind_run several behind count with ⟨apart, run⟩
        refine ⟨_, other, last, run, positive, ?_, rfl⟩
        rw [collapse_replicate some apart, List.append_assoc]
      · rcases marker_of_showRun plain here with ⟨positive, rfl, rfl, rfl⟩
        exact ⟨[], line, back, ⟨rfl, nofun, behind⟩, positive, rfl, rfl⟩

/--
Repeated lines that are cut short are not lost.  If no line of a list looks as if it stood for
others, then putting in what the shown lines stand for gives the list back, and no line is shown
more than five times in a row.  A line that stands for others is shown right behind the five
lines that are shown of a maximal run of more, with the number of the rest, and nowhere else.
Every list without a run of more than five is shown as it is.
-/
theorem repeated_lines_recoverable (lines : List String) :
    (AllOrdinary lines →
      expand (collapse lines) = lines ∧ Short (collapse lines) ∧
      ∀ before number after, collapse lines = before ++ repetitionMarker number :: after ↔
        ∃ front line back, MaximalRun lines front line (shownRepetitions + number) back ∧
          0 < number ∧ before = collapse front ++ List.replicate shownRepetitions line ∧
          after = collapse back) ∧
    (Short lines → collapse lines = lines) := by
  refine ⟨fun ordinary => ⟨expandAfter_collapse ordinary none, short_collapse ordinary,
    fun before number after => ⟨exists_run_of_marker ordinary, ?_⟩⟩, collapse_of_short⟩
  rintro ⟨front, line, back, run, positive, rfl, rfl⟩
  rw [run.collapse_eq (Nat.lt_add_left _ positive), showRun_long positive]
  simp only [List.append_assoc, List.singleton_append]

/-- A function that calls itself six times, and another that does so five times. -/
def deepCalls : List String :=
  "main" :: (List.replicate 6 "f" ++ List.replicate 5 "g")

theorem deepCalls_recoverable :
    AllOrdinary deepCalls ∧
      collapse deepCalls = ["main", "f", "f", "f", "f", "f", "  (repeated 1 more times)",
        "g", "g", "g", "g", "g"] ∧
      expand (collapse deepCalls) = deepCalls ∧ collapse ["f", "g", "g"] = ["f", "g", "g"] := by
  have ordinary : AllOrdinary deepCalls := fun line member =>
    of_decide_eq_true (List.all_eq_true.mp
      (by decide +kernel : deepCalls.all (fun line => decide (Ordinary line)) = true) line member)
  have short : Short ["f", "g", "g"] := fun line count run =>
    Nat.le_trans (by simpa using run.length_le) (by decide : 3 ≤ shownRepetitions)
  exact ⟨ordinary, by decide +kernel, ((repeated_lines_recoverable deepCalls).1 ordinary).1,
    (repeated_lines_recoverable _).2 short⟩

end Text

namespace Evaluation

open Text (AllOrdinary Ordinary)

/-! ## Tracebacks -/

theorem ordinary_tracebackLine (document : Source.Document) (position : Source.Position)
    (name : String) : Ordinary (tracebackLine document position name) := by
  have begins : ∃ rest,
      (tracebackLine document position name).toList = "  In file ".toList ++ rest := by
    unfold tracebackLine
    iterate 5 rw [String.append_assoc]
    rw [String.toList_append]
    exact ⟨_, rfl⟩
  rcases begins with ⟨rest, begins⟩
  intro count same
  rw [same, Text.toList_repetitionMarker] at begins
  -- The third characters differ.
  have third : some '(' = some 'I' := congrArg (fun characters : List Char => characters[2]?) begins
  exact absurd third (by decide)

theorem Trail.ordinary_lines (trail : Trail) (document : Source.Document)
    (position : Source.Position) : AllOrdinary (trail.lines document position) := by
  induction trail generalizing document position with
  | root name => exact List.forall_mem_singleton.mpr (ordinary_tracebackLine document position name)
  | entered name caller entry entryPosition ih =>
      refine List.forall_mem_append.mpr ⟨ih entry entryPosition, ?_⟩
      exact List.forall_mem_singleton.mpr (ordinary_tracebackLine document position name)

/-- All frames of an error can be told from its report. -/
theorem RuntimeError.expand_traceback (error : RuntimeError) :
    Text.expand (Text.collapse error.tracebackLines) = error.tracebackLines :=
  Text.expandAfter_collapse (error.trail.ordinary_lines _ _) none

end Evaluation
end Scripting
