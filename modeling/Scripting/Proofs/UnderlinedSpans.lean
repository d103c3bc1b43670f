import Scripting.Proofs.LineFiles
import Scripting.Proofs.Segmentation
import Scripting.Source.Excerpt

namespace Scripting
namespace Source

/-!
Excerpts underline exactly what a span covers.

What an excerpt has to show is said here by the characters of the text: those of the span are
those between its ends, a line is touched if one of them stands on it, line feeds included, and
carets belong under the ones that can be seen.  The excerpt itself only knows lines and columns.
Both come together because the places of a text are in the same order by index as by line and
column, and because the places on a line are those between its characters.
-/

open Lexical (placeAfter placeAfter_step)

/-! ## Order of places -/

/-- A place comes no later than another one, by line and column. -/
def Position.Precedes (first second : Position) : Prop :=
  first.line < second.line ∨ first.line = second.line ∧ first.column ≤ second.column

/-- A place of a text, with the line and the column that belong to it. -/
def OnText (text : List Char) (position : Position) : Prop :=
  ∃ before, before <+: text ∧ position = placeAfter before

/-- A stretch of a text, possibly empty. -/
structure Span.On (text : List Char) (span : Span) : Prop where
  start : OnText text span.start
  stop : OnText text span.stop
  ordered : span.start.index ≤ span.stop.index

variable {text before piece front line back : List Char} {c : Char} {span : Span}
  {number column : Nat}

theorem line_append (before piece : List Char) :
    (placeAfter (before ++ piece)).line = (placeAfter before).line + piece.count '\n' :=
  List.count_append

theorem column_append (before : List Char) (unbroken : '\n' ∉ piece) :
    (placeAfter (before ++ piece)).column = (placeAfter before).column + piece.length := by
  have kept : ∀ c ∈ piece.reverse, decide (c ≠ '\n') = true := by
    intro c member
    rw [List.mem_reverse] at member
    exact decide_eq_true fun same => unbroken (same ▸ member)
  simp only [placeAfter, List.reverse_append, List.takeWhile_append_of_pos kept,
    List.length_append, List.length_reverse]
  omega

theorem line_append_of_unbroken (before : List Char) (unbroken : '\n' ∉ piece) :
    (placeAfter (before ++ piece)).line = (placeAfter before).line := by
  rw [line_append, List.count_eq_zero_of_not_mem unbroken, Nat.add_zero]

theorem place_break (before : List Char) :
    (placeAfter (before ++ ['\n'])).line = (placeAfter before).line + 1 ∧
      (placeAfter (before ++ ['\n'])).column = 0 := by
  rw [← placeAfter_step]
  exact ⟨rfl, rfl⟩

/-- Some characters further on, a place is on a later line or further along the same one. -/
theorem places_apart (before piece : List Char) :
    (placeAfter before).line < (placeAfter (before ++ piece)).line ∧ 0 < piece.length ∨
      (placeAfter before).line = (placeAfter (before ++ piece)).line ∧
        (placeAfter (before ++ piece)).column = (placeAfter before).column + piece.length := by
  by_cases broken : '\n' ∈ piece
  · have positive := List.count_pos_iff.mpr broken
    rw [line_append]
    exact .inl ⟨by omega, List.length_pos_of_mem broken⟩
  · exact .inr ⟨(line_append_of_unbroken before broken).symm, column_append before broken⟩

/-- The places of a text are in the same order by index as by line and column. -/
theorem index_le_iff {other : List Char} (first : before <+: text) (second : other <+: text) :
    before.length ≤ other.length ↔ (placeAfter before).Precedes (placeAfter other) := by
  unfold Position.Precedes
  rcases Nat.le_total before.length other.length with less | less
  · rcases List.prefix_of_prefix_length_le first second less with ⟨piece, rfl⟩
    have apart := places_apart before piece
    refine ⟨fun _ => ?_, fun _ => less⟩
    omega
  · rcases List.prefix_of_prefix_length_le second first less with ⟨piece, rfl⟩
    have apart := places_apart other piece
    rw [List.length_append]
    omega

/-! ## Places on a line -/

/-- A line of a text between what stands in front of it and behind it. -/
structure LineAt (text : List Char) (number : Nat) (front line back : List Char) : Prop where
  split : text = front ++ (line ++ back)
  unbroken : '\n' ∉ line
  number_eq : (placeAfter front).line = number
  column_eq : (placeAfter front).column = 0
  ended : ∀ c ∈ back.head?, c = '\n'

namespace LineAt

variable (here : LineAt text number front line back)
include here

theorem place_take (within : column ≤ line.length) :
    (placeAfter (front ++ line.take column)).line = number ∧
      (placeAfter (front ++ line.take column)).column = column := by
  have unbroken : '\n' ∉ line.take column := fun member =>
    here.unbroken (List.mem_of_mem_take member)
  rw [line_append_of_unbroken front unbroken, column_append front unbroken, here.number_eq,
    here.column_eq, Nat.zero_add, List.length_take, Nat.min_eq_left within]
  exact ⟨rfl, rfl⟩

theorem front_prefix : front <+: text := by
  rw [here.split]
  exact List.prefix_append front _

/-- A place on the line is one between its characters, or at one of its ends. -/
theorem eq_take (within : before <+: text) (same : (placeAfter before).line = number) :
    ∃ column ≤ line.length, before = front ++ line.take column := by
  have first : front.length ≤ before.length := by
    rw [index_le_iff here.front_prefix within, Position.Precedes, here.number_eq, here.column_eq]
    exact .inr ⟨same.symm, Nat.zero_le _⟩
  rcases List.prefix_of_prefix_length_le here.front_prefix within first with ⟨piece, rfl⟩
  have unbroken : '\n' ∉ piece := by
    rw [line_append, here.number_eq] at same
    exact List.count_eq_zero.mp (by omega)
  rw [here.split, List.prefix_append_right_inj] at within
  rcases Nat.le_total piece.length line.length with short | long
  · have start : piece <+: line :=
      List.prefix_of_prefix_length_le within (List.prefix_append line back) short
    exact ⟨piece.length, short, congrArg (front ++ ·) (List.prefix_iff_eq_take.mp start)⟩
  · -- Beyond the line there would be the line feed behind it.
    rcases List.prefix_of_prefix_length_le (List.prefix_append line back) within long with
      ⟨rest, rfl⟩
    rw [List.prefix_append_right_inj] at within
    cases rest with
    | nil => exact ⟨line.length, Nat.le_refl _, by simp⟩
    | cons c rest =>
        have ends : c ∈ back.head? := by
          rcases within with ⟨others, rfl⟩
          rfl
        rw [here.ended c ends] at unbroken
        exact absurd (List.mem_append_right line List.mem_cons_self) unbroken

end LineAt

/-! ## Lines as they are split off -/

/-- Every text is a line, or a line with its end in front of another text. -/
@[elab_as_elim]
theorem byLines {motive : List Char → Prop} (last : ∀ line, '\n' ∉ line → motive line)
    (more : ∀ line rest, '\n' ∉ line → motive rest → motive (line ++ '\n' :: rest))
    (text : List Char) : motive text := by
  by_cases broken : '\n' ∈ text
  · rcases List.eq_append_cons_of_mem broken with ⟨line, rest, split, unbroken⟩
    have shorter : rest.length < text.length := by
      rw [split, List.length_append, List.length_cons]
      omega
    rw [split]
    exact more line rest unbroken (byLines last more rest)
  · exact last text broken
termination_by text.length

theorem splitAt_unbroken (unbroken : '\n' ∉ line) : Text.splitAt '\n' line = [line] := by
  induction line with
  | nil => rfl
  | cons c line ih =>
      rcases not_or.mp (mt List.mem_cons.mpr unbroken) with ⟨other, unbroken⟩
      rw [Text.splitAt, if_neg (Ne.symm other), ih unbroken]

theorem length_splitAt (text : List Char) :
    (Text.splitAt '\n' text).length = text.count '\n' + 1 := by
  induction text using byLines with
  | last line unbroken =>
      rw [splitAt_unbroken unbroken, List.count_eq_zero_of_not_mem unbroken]
      rfl
  | more line rest unbroken ih =>
      rw [Text.splitAt_append unbroken, List.length_cons, ih, List.count_append,
        List.count_eq_zero_of_not_mem unbroken, List.count_cons_self]
      omega

theorem exists_lineAt_of_splitAt {rest : List Char} (begins : (placeAfter before).column = 0)
    (split : (Text.splitAt '\n' rest)[number]? = some line) :
    ∃ front back, LineAt (before ++ rest) ((placeAfter before).line + number) front line back := by
  induction rest using byLines generalizing before number with
  | last rest unbroken =>
      rw [splitAt_unbroken unbroken, List.getElem?_singleton] at split
      split_ifs at split with first
      cases split
      subst first
      exact ⟨before, [], by rw [List.append_nil], unbroken, rfl, begins, fun _ => nofun⟩
  | more first rest unbroken ih =>
      rw [Text.splitAt_append unbroken] at split
      cases number with
      | zero =>
          cases split
          exact ⟨before, '\n' :: rest, rfl, unbroken, rfl, begins, fun c ends => by
            cases ends
            rfl⟩
      | succ number =>
          rcases place_break (before ++ first) with ⟨next, column⟩
          rcases ih column split with ⟨front, back, here⟩
          rw [next, line_append_of_unbroken before unbroken] at here
          refine ⟨front, back, ?_⟩
          simp only [List.append_assoc, List.singleton_append] at here
          rwa [Nat.add_assoc, Nat.add_comm 1] at here

theorem lineAt_of_splitAt (split : (Text.splitAt '\n' text)[number]? = some line) :
    ∃ front back, LineAt text number front line back := by
  have begins : (placeAfter []).line = 0 ∧ (placeAfter []).column = 0 := ⟨rfl, rfl⟩
  have found := exists_lineAt_of_splitAt begins.2 split
  rwa [List.nil_append, begins.1, Nat.zero_add] at found

/-! ## The characters of a span -/

/-- A character between the ends of a span that stands at this line and column of the text. -/
def Covers (text : List Char) (span : Span) (c : Char) (line column : Nat) : Prop :=
  ∃ front back, text = front ++ c :: back ∧
    (span.start.index ≤ front.length ∧ front.length < span.stop.index) ∧
    (placeAfter front).line = line ∧ (placeAfter front).column = column

/-- A line on which a character of the span stands; an empty span touches its own line. -/
def Touches (text : List Char) (span : Span) (line : Nat) : Prop :=
  (∃ c column, Covers text span c line column) ∨
    span.start.index = span.stop.index ∧ line = span.start.line

/--
A column of a line that is to be underlined: that of a character of the span that can be seen,
or, if the line has none, the column at which the span begins on the line.
-/
def Underlined (text : List Char) (span : Span) (line column : Nat) : Prop :=
  (∃ c, c ≠ '\n' ∧ Covers text span c line column) ∨
    (¬ ∃ c other, c ≠ '\n' ∧ Covers text span c line other) ∧
      column = if line = span.start.line then span.start.column else 0

/-- Between the ends of a span, by line and column. -/
def Span.Around (span : Span) (line column : Nat) : Prop :=
  (span.start.line < line ∨ span.start.line = line ∧ span.start.column ≤ column) ∧
    (line < span.stop.line ∨ line = span.stop.line ∧ column < span.stop.column)

namespace OnText

variable {position other : Position}

theorem line_le (on : OnText text position) : position.line ≤ text.count '\n' := by
  rcases on with ⟨before, within, rfl⟩
  exact within.sublist.count_le '\n'

theorem index_le_iff (on : OnText text position) (within : before <+: text) :
    position.index ≤ before.length ↔ position.Precedes (placeAfter before) := by
  rcases on with ⟨first, start, rfl⟩
  exact Source.index_le_iff start within

theorem precedes_iff (on : OnText text position) (also : OnText text other) :
    position.index ≤ other.index ↔ position.Precedes other := by
  rcases also with ⟨before, within, rfl⟩
  exact on.index_le_iff within

end OnText

theorem LineAt.column_le (here : LineAt text number front line back) {position : Position}
    (on : OnText text position) (same : position.line = number) :
    position.column ≤ line.length := by
  rcases on with ⟨before, within, rfl⟩
  rcases here.eq_take within same with ⟨column, short, rfl⟩
  rwa [(here.place_take short).2]

section Characters

variable (here : LineAt text number front line back) (on : span.On text)
include on

theorem Span.On.between_iff (within : before <+: text) :
    (span.start.index ≤ before.length ∧ before.length < span.stop.index) ↔
      span.Around (placeAfter before).line (placeAfter before).column := by
  have first := on.start.index_le_iff within
  have second := on.stop.index_le_iff within
  unfold Position.Precedes at first second
  unfold Span.Around
  omega

theorem Covers.around {line : Nat} (covers : Covers text span c line column) :
    span.Around line column := by
  rcases covers with ⟨front, back, rfl, between, rfl, rfl⟩
  exact (on.between_iff (List.prefix_append front _)).mp between

include here

theorem LineAt.covers_iff :
    (∃ c, c ≠ '\n' ∧ Covers text span c number column) ↔
      column < line.length ∧ span.Around number column := by
  constructor
  · rintro ⟨c, visible, covers⟩
    refine ⟨?_, covers.around on⟩
    rcases covers with ⟨before, after, split, -, onLine, rfl⟩
    have within : before <+: text := split ▸ List.prefix_append before _
    rcases here.eq_take within onLine with ⟨column, short, rfl⟩
    rw [(here.place_take short).2]
    refine Nat.lt_of_le_of_ne short ?_
    rintro rfl
    -- Behind the last character of the line there is the end of the line, if anything.
    rw [List.take_length, here.split, List.append_assoc, List.append_cancel_left_eq,
      List.append_cancel_left_eq] at split
    exact visible (here.ended c (by rw [split]; rfl))
  · rintro ⟨inside, around⟩
    cases cut : line.drop column with
    | nil => exact absurd (List.drop_eq_nil_iff.mp cut) (Nat.not_le_of_lt inside)
    | cons c rest =>
        have split : text = (front ++ line.take column) ++ c :: (rest ++ back) := by
          rw [List.append_assoc, ← List.cons_append, ← cut, ← List.append_assoc (line.take column),
            List.take_append_drop]
          exact here.split
        have member : c ∈ line := List.mem_of_mem_drop (cut ▸ List.mem_cons_self)
        rcases here.place_take (Nat.le_of_lt inside) with ⟨onLine, atColumn⟩
        refine ⟨c, fun same => here.unbroken (same ▸ member), _, _, split, ?_, onLine, atColumn⟩
        rw [on.between_iff (split ▸ List.prefix_append _ _), onLine, atColumn]
        exact around

theorem LineAt.covers_break (further : number < text.count '\n')
    (around : span.Around number line.length) : Covers text span '\n' number line.length := by
  rcases here.place_take (Nat.le_refl _) with ⟨onLine, atColumn⟩
  rw [List.take_length] at onLine atColumn
  cases back with
  | nil =>
      -- The last line is the one with all line feeds in front of it.
      have last : text.count '\n' = number := by
        rw [here.split, List.append_nil]
        exact onLine
      omega
  | cons c back =>
      have newline := here.ended c rfl
      subst newline
      have split : text = (front ++ line) ++ '\n' :: back := by
        rw [List.append_assoc]
        exact here.split
      refine ⟨_, _, split, ?_, onLine, atColumn⟩
      rw [on.between_iff (split ▸ List.prefix_append _ _), onLine, atColumn]
      exact around

end Characters

/-! ## Lines of an excerpt -/

theorem Span.On.precedes (on : span.On text) : span.start.Precedes span.stop :=
  (on.start.precedes_iff on.stop).mp on.ordered

/-- The last line is that of the end of the span, unless the span stops just before it. -/
theorem Span.On.extent_cases (on : span.On text) :
    (span.start.line < span.stop.line ∧ span.stop.column = 0 ∧
      span.extent.lastLine + 1 = span.stop.line ∧ span.extent.lastColumn = none) ∨
    (span.start.line = span.stop.line ∨ span.stop.column ≠ 0) ∧
      span.extent.lastLine = span.stop.line ∧ span.extent.lastColumn = some span.stop.column := by
  have precedes := on.precedes
  unfold Position.Precedes at precedes
  unfold Span.extent
  split
  · rename_i before
    exact .inl ⟨before.1, before.2, by dsimp only; omega, rfl⟩
  · exact .inr ⟨by omega, Nat.max_eq_left (by omega), rfl⟩

/-- The column at which a span begins on a line. -/
def Span.firstColumn (span : Span) (number : Nat) : Nat :=
  if number = span.start.line then span.start.column else 0

/-- The column at which a span ends on a line of the given width. -/
def Span.pastColumn (span : Span) (number width : Nat) : Nat :=
  if number = span.extent.lastLine then span.extent.lastColumn.getD width else width

theorem Span.underline_eq (span : Span) (number width : Nat) :
    span.underline number width =
      (span.firstColumn number,
        max (span.pastColumn number width) (span.firstColumn number + 1) -
          span.firstColumn number) := rfl

theorem exists_lineAt (within : number ≤ text.count '\n') :
    ∃ front line back, LineAt text number front line back := by
  have inside : number < (Text.splitAt '\n' text).length := by
    rw [length_splitAt]
    omega
  rcases lineAt_of_splitAt (List.getElem?_eq_getElem inside) with ⟨front, back, here⟩
  exact ⟨front, _, back, here⟩

theorem Span.On.touches_iff (on : span.On text) :
    Touches text span number ↔ span.start.line ≤ number ∧ number ≤ span.extent.lastLine := by
  have extent := on.extent_cases
  have precedes := on.precedes
  have backward := on.stop.precedes_iff on.start
  have ordered := on.ordered
  unfold Position.Precedes at precedes backward
  constructor
  · rintro (⟨c, column, covers⟩ | ⟨empty, rfl⟩)
    · have around := covers.around on
      unfold Span.Around at around
      omega
    · omega
  · rintro ⟨low, high⟩
    have within := on.stop.line_le
    have inside : number ≤ text.count '\n' := by omega
    rcases exists_lineAt inside with ⟨front, line, back, here⟩
    by_cases empty : span.start.index = span.stop.index
    · exact .inr ⟨empty, by omega⟩
    · left
      have begins := here.column_le on.start
      have ends := here.column_le on.stop
      rcases Nat.lt_or_ge number span.stop.line with before | reached
      · -- The end of the line is in the span.
        refine ⟨'\n', line.length, here.covers_break on (by omega) ?_⟩
        unfold Span.Around
        omega
      · -- The last character of the span stands on the line.
        have last : span.stop.column - 1 < line.length ∧
            span.Around number (span.stop.column - 1) := by
          unfold Span.Around
          omega
        rcases (here.covers_iff on).mpr last with ⟨c, -, covers⟩
        exact ⟨c, _, covers⟩

theorem LineAt.between_iff (here : LineAt text number front line back) (on : span.On text)
    (low : span.start.line ≤ number) (high : number ≤ span.extent.lastLine) (column : Nat) :
    (∃ c, c ≠ '\n' ∧ Covers text span c number column) ↔
      span.firstColumn number ≤ column ∧ column < span.pastColumn number line.length := by
  have ends := here.column_le on.stop
  rw [here.covers_iff on]
  unfold Span.Around Span.firstColumn Span.pastColumn
  rcases on.extent_cases with ⟨before, atStart, last, whole⟩ | ⟨inside, last, part⟩
  · rw [whole, Option.getD_none]
    split_ifs <;> omega
  · rw [part, Option.getD_some]
    split_ifs <;> omega

theorem LineAt.underlined_iff (here : LineAt text number front line back) (on : span.On text)
    (low : span.start.line ≤ number) (high : number ≤ span.extent.lastLine) :
    Underlined text span number column ↔
      (span.underline number line.length).1 ≤ column ∧
        column < (span.underline number line.length).1 + (span.underline number line.length).2 := by
  have visible := here.between_iff on low high
  have some : (∃ c other, c ≠ '\n' ∧ Covers text span c number other) ↔
      span.firstColumn number < span.pastColumn number line.length := by
    rw [exists_comm]
    simp only [visible]
    exact ⟨fun ⟨_, low, high⟩ => Nat.lt_of_le_of_lt low high, fun less => ⟨_, Nat.le_refl _, less⟩⟩
  unfold Underlined
  rw [visible, some, Span.underline_eq]
  change _ ∨ _ ∧ column = span.firstColumn number ↔ _
  dsimp only
  omega

/-! ## Excerpts -/

/-- A line of the text with the line that is shown under it. -/
structure ShownLine where
  number : Nat
  line : List Char
  underline : List Char

/-- How it is shown. -/
def ShownLine.written (shown : ShownLine) : List Char :=
  '\t' :: shown.line ++ '\n' :: '\t' :: shown.underline ++ ['\n']

/-- Carets under what is to be underlined, and blanks in front of them. -/
structure Underlines (text : List Char) (span : Span) (number : Nat) (carets : List Char) :
    Prop where
  caret_iff : ∀ column, carets[column]? = some '^' ↔ Underlined text span number column
  blank : ∀ c ∈ carets, c = ' ' ∨ c = '^'
  ends : carets.getLast? = some '^'

/-- The carets of a span on a line of the given width. -/
def Span.carets (span : Span) (number width : Nat) : List Char :=
  List.replicate (span.underline number width).1 ' ' ++
    List.replicate (span.underline number width).2 '^'

theorem Span.underline_exact (span : Span) (number width : Nat) :
    (span.underline number width).1 + (span.underline number width).2 =
      max (span.pastColumn number width) (span.firstColumn number + 1) := by
  rw [Span.underline_eq]
  dsimp only
  omega

theorem LineAt.underlines (here : LineAt text number front line back) (on : span.On text)
    (low : span.start.line ≤ number) (high : number ≤ span.extent.lastLine) :
    Underlines text span number (span.carets number line.length) where
  caret_iff column := by
    rw [here.underlined_iff on low high, Span.carets, List.getElem?_append, List.length_replicate,
      List.getElem?_replicate, List.getElem?_replicate]
    split_ifs <;> simp <;> omega
  blank c member := by
    rcases List.mem_append.mp member with blank | caret
    · exact .inl (List.eq_of_mem_replicate blank)
    · exact .inr (List.eq_of_mem_replicate caret)
  ends := by
    have exact := span.underline_exact number line.length
    have positive : (span.underline number line.length).2 ≠ 0 := by
      rw [Span.underline_eq]
      dsimp only
      omega
    rw [Span.carets, List.getLast?_append, List.getLast?_replicate, if_neg positive]
    rfl

theorem dropEndWhile_unreturned (unreturned : '\r' ∉ line) :
    Text.dropEndWhile (· = '\r') line = line := by
  have kept : line.reverse.dropWhile (· = '\r') = line.reverse := by
    rw [List.dropWhile_eq_self_iff]
    intro some returned
    have first := List.getElem_mem some
    rw [of_decide_eq_true returned, List.mem_reverse] at first
    exact unreturned first
  rw [Text.dropEndWhile, kept, List.reverse_reverse]

theorem Span.showLine_eq (span : Span) (number : Nat) (unreturned : '\r' ∉ line) :
    span.showLine number line =
      ShownLine.written ⟨number, line, span.carets number line.length⟩ := by
  unfold Span.showLine ShownLine.written Span.carets
  rw [dropEndWhile_unreturned unreturned]
  simp only [List.cons_append, List.append_assoc]

/-- The lines that an excerpt shows, with the carets under them. -/
def Span.shownLines (span : Span) (text : List Char) : List ShownLine :=
  ((Text.splitAt '\n' text).zipIdx.filter fun numbered =>
    span.start.line ≤ numbered.2 && numbered.2 ≤ span.extent.lastLine).map fun numbered =>
      ⟨numbered.2, numbered.1, span.carets numbered.2 numbered.1.length⟩

theorem mem_shownLines_iff {shown : ShownLine} :
    shown ∈ span.shownLines text ↔
      ∃ number line, (Text.splitAt '\n' text)[number]? = some line ∧
        (span.start.line ≤ number ∧ number ≤ span.extent.lastLine) ∧
        shown = ⟨number, line, span.carets number line.length⟩ := by
  unfold Span.shownLines
  simp only [List.mem_map, List.mem_filter, List.mem_zipIdx_iff_getElem?, Bool.and_eq_true,
    decide_eq_true_eq]
  constructor
  · rintro ⟨⟨line, number⟩, ⟨split, bounds⟩, rfl⟩
    exact ⟨number, line, split, bounds, rfl⟩
  · rintro ⟨number, line, split, bounds, rfl⟩
    exact ⟨(line, number), ⟨split, bounds⟩, rfl⟩

theorem excerpt_eq (text : String) (span : Span) (unreturned : '\r' ∉ text.toList) :
    (excerpt text span).toList = (span.shownLines text.toList).flatMap ShownLine.written := by
  rw [excerpt, String.toList_ofList, Span.shownLines, List.flatMap_map]
  refine List.flatMap_congr fun numbered member => ?_
  have split := List.mem_zipIdx_iff_getElem?.mp (List.mem_filter.mp member).1
  have part := (Text.mem_splitAt (List.mem_of_getElem? split)).2
  exact span.showLine_eq numbered.2 fun returned => unreturned (part returned)

theorem shownLines_ordered (text : List Char) (span : Span) :
    ((span.shownLines text).map ShownLine.number).Pairwise (· < ·) := by
  unfold Span.shownLines
  rw [List.map_map]
  have ordered : ((Text.splitAt '\n' text).zipIdx.map Prod.snd).Pairwise (· < ·) := by
    rw [List.zipIdx_map_snd]
    exact List.pairwise_lt_range' 1
  exact ordered.sublist (List.filter_sublist.map Prod.snd)

theorem Span.On.mem_numbers_iff (on : span.On text) :
    number ∈ (span.shownLines text).map ShownLine.number ↔ Touches text span number := by
  rw [on.touches_iff, List.mem_map]
  constructor
  · rintro ⟨_, member, rfl⟩
    rcases mem_shownLines_iff.mp member with ⟨number, line, -, bounds, rfl⟩
    exact bounds
  · intro bounds
    have within := on.stop.line_le
    have inside : number < (Text.splitAt '\n' text).length := by
      rw [length_splitAt]
      rcases on.extent_cases with ⟨-, -, last, -⟩ | ⟨-, last, -⟩ <;> omega
    exact ⟨_, mem_shownLines_iff.mpr ⟨number, _, List.getElem?_eq_getElem inside, bounds, rfl⟩, rfl⟩

/--
Excerpts underline exactly what a span covers.  For every text without carriage returns and all
two places of it in order, the excerpt shows one line and one underline for each line that the
span touches, in order.  The line is the one of the text, and the carets under it are those under
the characters of the span that can be seen on it, or a single one where the span begins on the
line if there are none.  Neither the count of the carets nor the number of the last line is cut
off at zero.
-/
theorem excerpt_underlines_span {text : String} {span : Span} (unreturned : '\r' ∉ text.toList)
    (on : span.On text.toList) :
    (∃ shown : List ShownLine,
      (excerpt text span).toList = shown.flatMap ShownLine.written ∧
      (shown.map ShownLine.number).Pairwise (· < ·) ∧
      (∀ number, number ∈ shown.map ShownLine.number ↔ Touches text.toList span number) ∧
      ∀ part ∈ shown,
        (∃ front back, LineAt text.toList part.number front part.line back) ∧
        Underlines text.toList span part.number part.underline) ∧
    (∀ number width, (span.underline number width).1 + (span.underline number width).2 =
      max (span.pastColumn number width) (span.firstColumn number + 1)) ∧
    (span.extent.lastLine + 1 = span.stop.line ∨ span.extent.lastLine = span.stop.line) := by
  refine ⟨⟨span.shownLines text.toList, excerpt_eq text span unreturned, shownLines_ordered _ span,
    fun number => on.mem_numbers_iff, fun part member => ?_⟩, span.underline_exact, ?_⟩
  · rcases mem_shownLines_iff.mp member with ⟨number, line, split, ⟨low, high⟩, rfl⟩
    rcases lineAt_of_splitAt split with ⟨front, back, here⟩
    exact ⟨⟨front, back, here⟩, here.underlines on low high⟩
  · rcases on.extent_cases with ⟨-, -, last, -⟩ | ⟨-, last, -⟩
    · exact .inl last
    · exact .inr last

/-- A text with an empty line in it. -/
def threeLines : String := "if a\n\nend"

/-- From the condition over the empty line up to the last line. -/
def acrossEmptyLine : Span :=
  ⟨⟨3, 0, 3⟩, ⟨6, 2, 0⟩⟩

theorem acrossEmptyLine_underlined :
    '\r' ∉ threeLines.toList ∧ acrossEmptyLine.On threeLines.toList ∧
      excerpt threeLines acrossEmptyLine = "\tif a\n\t   ^\n\t\n\t^\n" ∧
      ∃ shown : List ShownLine,
        (excerpt threeLines acrossEmptyLine).toList = shown.flatMap ShownLine.written ∧
        ∀ part ∈ shown,
          Underlines threeLines.toList acrossEmptyLine part.number part.underline := by
  have unreturned : '\r' ∉ threeLines.toList := by decide
  have on : acrossEmptyLine.On threeLines.toList :=
    ⟨⟨"if ".toList, by decide, by decide⟩, ⟨"if a\n\n".toList, by decide, by decide⟩, by decide⟩
  rcases (excerpt_underlines_span unreturned on).1 with ⟨shown, whole, -, -, each⟩
  exact ⟨unreturned, on, by decide +kernel, shown, whole, fun part member => (each part member).2⟩

end Source
end Scripting
