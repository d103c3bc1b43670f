import Scripting.Proofs.LiteralGaps

namespace Scripting
namespace Lexical

open Source (Position)

/-!
Block comments nest.

A block comment holds characters and further block comments.  Its reader does not follow that
grammar; it goes through the text with a counter of what is open.  Between the two stand the
rests of comments by the number of comments around them: such a rest is a row of contents with a
closing behind each, and a whole comment goes into the first content of the row.

What a character means is decided by itself and the one behind it.  Inside a comment the one
behind always belongs to the same comment, since at least its closing follows, so that the
grammar can speak of comments without the text around them.
-/

/-! ## The grammar -/

mutual

/-- A block comment with its opening and its closing. -/
inductive BlockComment : List Char → Prop
  | enclosed {inner : List Char} (content : CommentContent inner) :
      BlockComment ('/' :: '*' :: (inner ++ ['*', '/']))

/-- What stands between the two: comments, and characters with which neither begins. -/
inductive CommentContent : List Char → Prop
  | nothing : CommentContent []
  | nested {comment rest : List Char} (inside : BlockComment comment)
      (later : CommentContent rest) : CommentContent (comment ++ rest)
  | plain {c : Char} {rest : List Char} (opens : ¬ ['/', '*'] <+: c :: (rest ++ ['*', '/']))
      (closes : ¬ ['*', '/'] <+: c :: (rest ++ ['*', '/'])) (later : CommentContent rest) :
      CommentContent (c :: rest)

end

/-- Two characters at the head are the same whatever stands behind a closing. -/
theorem pair_prefix_iff (first second c : Char) (rest after : List Char) :
    [first, second] <+: c :: (rest ++ '*' :: '/' :: after) ↔
      [first, second] <+: c :: (rest ++ ['*', '/']) := by
  cases rest <;> simp

/-! ## Rests of comments -/

/-- Contents with a closing behind each, one more than a number of comments that are around. -/
inductive CommentLayers : Nat → List Char → Prop
  | last {inner : List Char} (content : CommentContent inner) :
      CommentLayers 0 (inner ++ ['*', '/'])
  | around {depth : Nat} {inner rest : List Char} (content : CommentContent inner)
      (outer : CommentLayers depth rest) :
      CommentLayers (depth + 1) (inner ++ '*' :: '/' :: rest)

namespace CommentLayers

variable {depth : Nat} {rest : List Char}

/-- The first content and what follows its closing. -/
theorem first (layers : CommentLayers depth rest) :
    ∃ inner after, rest = inner ++ '*' :: '/' :: after ∧ CommentContent inner ∧
      ∀ other, CommentContent other → CommentLayers depth (other ++ '*' :: '/' :: after) := by
  cases layers with
  | @last inner content => exact ⟨inner, [], rfl, content, fun _ content => .last content⟩
  | @around depth inner rest content outer =>
      exact ⟨inner, rest, rfl, content, fun _ content => .around content outer⟩

/-- A whole comment goes into the first content. -/
theorem nested {comment : List Char} (nested : BlockComment comment)
    (layers : CommentLayers depth rest) : CommentLayers depth (comment ++ rest) := by
  rcases layers.first with ⟨inner, after, rfl, content, refill⟩
  rw [← List.append_assoc]
  exact refill _ (.nested nested content)

/-- So does a character with which nothing begins. -/
theorem plain {c : Char} (opens : ¬ ['/', '*'] <+: c :: rest) (closes : ¬ ['*', '/'] <+: c :: rest)
    (layers : CommentLayers depth rest) : CommentLayers depth (c :: rest) := by
  rcases layers.first with ⟨inner, after, rfl, content, refill⟩
  rw [pair_prefix_iff] at opens closes
  exact refill (c :: inner) (.plain opens closes content)

/-- A comment that has been opened is closed in the first of the layers. -/
theorem enter (layers : CommentLayers (depth + 1) rest) :
    CommentLayers depth ('/' :: '*' :: rest) := by
  cases layers with
  | @around _ inner rest content outer =>
      have comment : BlockComment ('/' :: '*' :: (inner ++ ['*', '/'])) := .enclosed content
      have whole := outer.nested comment
      simpa using whole

end CommentLayers

theorem CommentTail.layers {depth : Nat} {tail : List Char} (closed : CommentTail depth tail) :
    CommentLayers depth tail := by
  induction closed with
  | close => exact .last .nothing
  | leave later ih => exact .around .nothing ih
  | enter later ih => exact ih.enter
  | pass opens closes later ih => exact ih.plain opens closes

mutual

/-- A comment is passed with the counter as it was. -/
theorem BlockComment.commentTail {comment : List Char} :
    BlockComment comment → ∀ {depth after}, CommentTail depth after →
      CommentTail depth (comment ++ after)
  | .enclosed content, depth, _, closed => by
      have inside := content.commentTail closed.leave
      simpa using inside.enter

/-- So is a content, up to the closing behind it. -/
theorem CommentContent.commentTail {inner : List Char} :
    CommentContent inner → ∀ {depth after}, CommentTail depth ('*' :: '/' :: after) →
      CommentTail depth (inner ++ '*' :: '/' :: after)
  | .nothing, _, _, closed => closed
  | .nested inside later, _, _, closed => by
      rw [List.append_assoc]
      exact inside.commentTail (later.commentTail closed)
  | .plain opens closes later, _, after, closed => by
      rw [← pair_prefix_iff _ _ _ _ after] at opens closes
      exact .pass opens closes (later.commentTail closed)

end

/-- A block comment is an opening with a rest inside which nothing else is open. -/
theorem blockComment_iff {comment : List Char} :
    BlockComment comment ↔ ∃ tail, comment = '/' :: '*' :: tail ∧ CommentTail 0 tail := by
  constructor
  · intro nested
    cases nested with
    | enclosed content => exact ⟨_, rfl, content.commentTail .close⟩
  · rintro ⟨tail, rfl, closed⟩
    cases closed.layers with
    | last content => exact .enclosed content

/-- The length that is read is that of a comment at the head of the text, if there is one. -/
theorem blockCommentLength?_eq_some_iff {rest : List Char} (opens : opensComment rest = true)
    {length : Nat} :
    blockCommentLength? rest = some length ↔
      ∃ comment after, rest = comment ++ after ∧ comment.length = length ∧
        BlockComment comment := by
  constructor
  · intro found
    rcases exists_of_opensComment opens with ⟨behind, rfl⟩
    rcases Option.map_eq_some_iff.mp found with ⟨inner, ends, rfl⟩
    rcases CommentTail.of_commentTail? ends with ⟨tail, after, split, rfl, closed⟩
    exact ⟨'/' :: '*' :: tail, after, congrArg ('/' :: '*' :: ·) split, rfl,
      blockComment_iff.mpr ⟨tail, rfl, closed⟩⟩
  · rintro ⟨comment, after, rfl, rfl, nested⟩
    rcases blockComment_iff.mp nested with ⟨tail, rfl, closed⟩
    exact blockCommentLength?_append closed after

/-- No comment begins another one. -/
theorem BlockComment.unique {comment other after behind : List Char} (nested : BlockComment comment)
    (nested' : BlockComment other) (same : comment ++ after = other ++ behind) :
    other = comment := by
  rcases blockComment_iff.mp nested with ⟨tail, rfl, closed⟩
  rcases blockComment_iff.mp nested' with ⟨tail', rfl, closed'⟩
  replace same : tail ++ after = tail' ++ behind := by simpa using same
  have length := closed.commentTail?_append after
  rw [same, closed'.commentTail?_append behind] at length
  rw [(List.append_inj same (Option.some.inj length).symm).1]

/-! ## The counter -/

/-- How far a block comment has been read. -/
structure CommentReading where
  /-- Openings less closings: an integer, which only the text can keep from falling below zero. -/
  depth : Int
  rest : List Char

/-- What the reader comes to by looking at the head of the rest. -/
inductive CommentTurn where
  | on (piece : List Char) (next : CommentReading)
  | closed (after : List Char)
  | unclosed

namespace CommentReading

/-- An opening and a closing are looked for before the character is passed. -/
def turn : CommentReading → CommentTurn
  | ⟨depth, '/' :: '*' :: rest⟩ => .on ['/', '*'] ⟨depth + 1, rest⟩
  | ⟨depth, '*' :: '/' :: rest⟩ =>
      if depth - 1 = 0 then .closed rest else .on ['*', '/'] ⟨depth - 1, rest⟩
  | ⟨depth, c :: rest⟩ => .on [c] ⟨depth, rest⟩
  | ⟨_, []⟩ => .unclosed

/-- Turns one after the other, with the pieces that they pass. -/
inductive Reaches : CommentReading → List (List Char) → CommentReading → Prop
  | here (reading : CommentReading) : Reaches reading [] reading
  | turn {reading next last : CommentReading} {piece : List Char} {pieces : List (List Char)}
      (turned : reading.turn = .on piece next) (later : Reaches next pieces last) :
      Reaches reading (piece :: pieces) last

variable {reading next last : CommentReading} {piece : List Char} {pieces : List (List Char)}

/-- Each turn passes one or two characters, and no closing brings the counter down to zero. -/
theorem turn_on (turned : reading.turn = .on piece next) :
    reading.rest = piece ++ next.rest ∧ piece ≠ [] ∧ (1 ≤ reading.depth → 1 ≤ next.depth) := by
  unfold turn at turned
  split at turned
  · cases turned
    refine ⟨rfl, List.cons_ne_nil _ _, fun inside => ?_⟩
    simp only at inside ⊢
    omega
  · split at turned
    · cases turned
    · cases turned
      refine ⟨rfl, List.cons_ne_nil _ _, fun inside => ?_⟩
      simp only at inside ⊢
      omega
  · cases turned
    exact ⟨rfl, List.cons_ne_nil _ _, id⟩
  · cases turned

namespace Reaches

/-- The pieces stand one behind the other in the text. -/
theorem split (reaches : reading.Reaches pieces last) :
    reading.rest = pieces.flatten ++ last.rest := by
  induction reaches with
  | here reading => rfl
  | turn turned later ih =>
      rw [(turn_on turned).1, ih, List.flatten_cons, List.append_assoc]

/-- There are no more turns than characters. -/
theorem length_le (reaches : reading.Reaches pieces last) :
    pieces.length + last.rest.length ≤ reading.rest.length := by
  induction reaches with
  | here reading => exact Nat.le_of_eq (Nat.zero_add _)
  | turn turned later ih =>
      rcases turn_on turned with ⟨split, some, -⟩
      have positive := List.length_pos_iff.mpr some
      rw [split, List.length_append, List.length_cons]
      omega

theorem depth_pos (reaches : reading.Reaches pieces last) (inside : 1 ≤ reading.depth) :
    1 ≤ last.depth := by
  induction reaches with
  | here reading => exact inside
  | turn turned later ih => exact ih ((turn_on turned).2.2 inside)

end Reaches

end CommentReading

/-- How the reader ends on a text in which it finds the end of a comment, or does not. -/
def CommentTurn.ofLength (rest : List Char) : Option Nat → CommentTurn
  | some length => .closed (rest.drop length)
  | none => .unclosed

theorem CommentTurn.ofLength_append (piece rest : List Char) (found : Option Nat) :
    ofLength (piece ++ rest) (found.map (· + piece.length)) = ofLength rest found := by
  cases found with
  | none => rfl
  | some length =>
      change closed ((piece ++ rest).drop (length + piece.length)) = closed (rest.drop length)
      rw [Nat.add_comm, List.drop_length_add_append]

/-- The reader counts one more than the comments that are around what it reads. -/
theorem commentTail?_counted (depth : Nat) (rest : List Char) :
    ∃ pieces last, (CommentReading.mk (depth + 1) rest).Reaches pieces last ∧
      last.turn = .ofLength rest (commentTail? depth rest) := by
  fun_induction commentTail? depth rest with
  | case1 depth => exact ⟨[], _, .here _, rfl⟩
  | case2 depth rest ih =>
      rcases ih with ⟨pieces, last, reaches, ends⟩
      refine ⟨_, last, .turn rfl reaches, ?_⟩
      exact ends.trans (CommentTurn.ofLength_append ['/', '*'] rest _).symm
  | case3 rest => exact ⟨[], _, .here _, rfl⟩
  | case4 depth rest ih =>
      rcases ih with ⟨pieces, last, reaches, ends⟩
      refine ⟨['*', '/'] :: pieces, last, .turn ?_ reaches, ?_⟩
      · have inside : ¬ ((↑(depth + 1) + 1 - 1 : Int) = 0) := by omega
        unfold CommentReading.turn
        simp only [if_neg inside]
        simp
      · exact ends.trans (CommentTurn.ofLength_append ['*', '/'] rest _).symm
  | case5 depth c rest notOpening notClosing notLeaving ih =>
      rcases ih with ⟨pieces, last, reaches, ends⟩
      refine ⟨[c] :: pieces, last, .turn ?_ reaches, ?_⟩
      · rw [CommentReading.turn]
        · exact notOpening
        · intro more first second
          cases depth with
          | zero => exact notClosing more rfl first second
          | succ depth => exact notLeaving depth more rfl first second
      · exact ends.trans (CommentTurn.ofLength_append [c] rest _).symm

/-- The counter goes through a text that starts with an opening as the reader of comments does. -/
theorem blockCommentLength?_counted {rest : List Char} (opens : opensComment rest = true) :
    ∃ pieces last, (CommentReading.mk 0 rest).Reaches pieces last ∧
      last.turn = .ofLength rest (blockCommentLength? rest) := by
  rcases exists_of_opensComment opens with ⟨tail, rfl⟩
  rcases commentTail?_counted 0 tail with ⟨pieces, last, reaches, ends⟩
  refine ⟨_, last, .turn rfl reaches, ?_⟩
  exact ends.trans (CommentTurn.ofLength_append ['/', '*'] tail _).symm

/-- Behind the opening the counter is at least one, so that no closing takes it below zero. -/
theorem CommentReading.Reaches.depth_nonneg {rest : List Char} {pieces : List (List Char)}
    {reading : CommentReading} (opens : opensComment rest = true)
    (reaches : (CommentReading.mk 0 rest).Reaches pieces reading) :
    0 ≤ reading.depth ∧ (pieces ≠ [] → 1 ≤ reading.depth) := by
  cases reaches with
  | here => exact ⟨Int.le_refl 0, fun some => absurd rfl some⟩
  | turn turned later =>
      rcases exists_of_opensComment opens with ⟨tail, rfl⟩
      cases turned
      have inside := later.depth_pos (Int.le_refl 1)
      exact ⟨Int.le_of_lt inside, fun _ => inside⟩

/-! ## Scans -/

/--
What a scan makes of an opening at its head.  It passes the one comment that begins there, at
whose end its counter is back at zero; or none begins there, the counter is not back at the end
of the text, and the error points at the opening.
-/
inductive CommentVerdict (scan : Scan) : Except LexError Scan → Prop
  | closed {comment after : List Char} {pieces : List (List Char)} {last : CommentReading}
      (split : scan.rest = comment ++ after) (nested : BlockComment comment)
      (only : ∀ other behind, scan.rest = other ++ behind → BlockComment other → other = comment)
      (counted : (CommentReading.mk 0 scan.rest).Reaches pieces last)
      (ends : last.turn = .closed after) : CommentVerdict scan (.ok (scan.skip comment.length))
  | unclosed {error : LexError} {pieces : List (List Char)} {last : CommentReading}
      (none : ∀ comment after, scan.rest = comment ++ after → ¬ BlockComment comment)
      (counted : (CommentReading.mk 0 scan.rest).Reaches pieces last)
      (ends : last.turn = .unclosed) (kind : error.cause.kind = "UnterminatedCommentError")
      (span : error.span = ⟨scan.position, scan.position.after ['/', '*']⟩) :
      CommentVerdict scan (.error error)

theorem Scan.commentVerdict (scan : Scan) (opens : opensComment scan.rest = true) :
    CommentVerdict scan scan.step := by
  rcases blockCommentLength?_counted opens with ⟨pieces, last, counted, ends⟩
  cases found : blockCommentLength? scan.rest with
  | none =>
      rw [found] at ends
      rw [Scan.step_of_openComment opens found]
      refine .unclosed ?_ counted ends rfl ?_
      · intro comment after split nested
        have closed := (blockCommentLength?_eq_some_iff opens).mpr ⟨_, _, split, rfl, nested⟩
        rw [found] at closed
        cases closed
      · rcases exists_of_opensComment opens with ⟨tail, split⟩
        change Source.Span.mk (scan.position.after (scan.rest.take 0))
          (scan.position.after (scan.rest.take 2)) = _
        rw [split]
        rfl
  | some length =>
      rcases (blockCommentLength?_eq_some_iff opens).mp found with
        ⟨comment, after, split, rfl, nested⟩
      rw [found, split] at ends
      rw [CommentTurn.ofLength, List.drop_left] at ends
      rcases blockComment_iff.mp nested with ⟨tail, rfl, closed⟩
      have whole : scan.rest = '/' :: '*' :: (tail ++ after) := split
      rw [Scan.step_of_blockComment closed whole]
      rw [← Scan.skip_eq_beyond split]
      refine .closed split nested ?_ counted ends
      intro other behind split' nested'
      exact nested.unique nested' (split.symm.trans split')

/--
Block comments are skipped exactly.  Wherever an opening is met, the scan passes the comment of
the grammar that begins there, and no other does; if none begins there, the error points at the
opening.  The reader finds the length of that comment.  Its counter, which looks at one or two
characters at a time and never at one of them twice, never falls below zero, and it takes no
more turns than there are characters.
-/
theorem block_comments_skipped_exactly (scan : Scan) (opens : opensComment scan.rest = true) :
    CommentVerdict scan scan.step ∧
    (∀ length, blockCommentLength? scan.rest = some length ↔
      ∃ comment after, scan.rest = comment ++ after ∧ comment.length = length ∧
        BlockComment comment) ∧
    ∀ pieces reading, (CommentReading.mk 0 scan.rest).Reaches pieces reading →
      scan.rest = pieces.flatten ++ reading.rest ∧ 0 ≤ reading.depth ∧
      (pieces ≠ [] → 1 ≤ reading.depth) ∧
      pieces.length + reading.rest.length ≤ scan.rest.length := by
  refine ⟨scan.commentVerdict opens, fun _ => blockCommentLength?_eq_some_iff opens, ?_⟩
  intro pieces reading counted
  rcases counted.depth_nonneg opens with ⟨nonneg, inside⟩
  exact ⟨counted.split, nonneg, inside, counted.length_le⟩

/--
Marks that overlap are read from the left: in the first text two comments are closed behind one
another, and in the second the slash behind the openings belongs to none of them.
-/
theorem overlapping_marks_read :
    let closed := Scan.start {} "/*/**/*/1".toList
    let unclosed := Scan.start {} "/*/*/".toList
    CommentVerdict closed (.ok (closed.skip 8)) ∧ (closed.skip 8).rest = ['1'] ∧
      ∃ error, unclosed.step = .error error ∧ CommentVerdict unclosed (.error error) := by
  refine ⟨?_, by decide, ?_⟩
  · exact (block_comments_skipped_exactly (Scan.start {} "/*/**/*/1".toList) (by decide)).1
  · exact ⟨_, rfl, (block_comments_skipped_exactly (Scan.start {} "/*/*/".toList) (by decide)).1⟩

end Lexical
end Scripting
