import Scripting.Proofs.ScanOutcomes

namespace Scripting
namespace Lexical

/-!
String literals and the gaps between them.

What is written for a literal or a comment is read in the same way whatever stands behind
it, since both end by a mark of their own.  So literals that are read as one token can be
followed one at a time: the first literal, the gap up to the next one, and the literals from
there on.  A scan that does not join them passes the same literals and the same gaps.
-/

variable {scan next : Scan} {rest after : List Char}

/-! ## Comments and gaps -/

theorem CommentTail.nonempty {depth : Nat} {tail : List Char} (closed : CommentTail depth tail) :
    tail ≠ [] := by
  cases closed <;> exact List.cons_ne_nil _ _

theorem CommentTail.commentTail?_append {depth : Nat} {tail : List Char}
    (closed : CommentTail depth tail) (after : List Char) :
    commentTail? depth (tail ++ after) = some tail.length := by
  induction closed with
  | close => simp [commentTail?]
  | leave later ih => simp [commentTail?, ih]
  | enter later ih => simp [commentTail?, ih]
  | @pass depth c rest opens closes later ih =>
      rcases List.exists_cons_of_ne_nil later.nonempty with ⟨d, rest, rfl⟩
      have notOpening : ¬ (c = '/' ∧ d = '*') := by
        rintro ⟨rfl, rfl⟩
        exact opens ⟨rest, rfl⟩
      have notClosing : ¬ (c = '*' ∧ d = '/') := by
        rintro ⟨rfl, rfl⟩
        exact closes ⟨rest, rfl⟩
      change commentTail? depth (c :: d :: (rest ++ after)) = _
      rw [commentTail?]
      · exact congrArg (Option.map (· + 1)) ih
      · intro more first second
        exact notOpening ⟨first, (List.cons.inj second).1⟩
      · intro more _ first second
        exact notClosing ⟨first, (List.cons.inj second).1⟩
      · intro _ more _ first second
        exact notClosing ⟨first, (List.cons.inj second).1⟩

theorem blockCommentLength?_append {tail : List Char} (closed : CommentTail 0 tail)
    (after : List Char) :
    blockCommentLength? ('/' :: '*' :: (tail ++ after)) = some (tail.length + 2) := by
  have found := closed.commentTail?_append after
  change (commentTail? 0 (tail ++ after)).map (· + 2) = _
  rw [found]
  rfl

/--
What may stand between string literals that are read as one: blanks, line feeds and
complete comments.  A line comment is complete with the line feed behind it.
-/
inductive Gap : List Char → Prop
  | nothing : Gap []
  | blank {c : Char} {rest : List Char} (blank : isInlineBlank c = true ∨ c = '\n')
      (later : Gap rest) : Gap (c :: rest)
  | line {words rest : List Char} (within : '\n' ∉ words) (later : Gap rest) :
      Gap ('#' :: (words ++ '\n' :: rest))
  | block {tail rest : List Char} (closed : CommentTail 0 tail) (later : Gap rest) :
      Gap ('/' :: '*' :: (tail ++ rest))

theorem lineCommentLength_of_within {words : List Char} (within : '\n' ∉ words)
    (rest : List Char) : lineCommentLength (words ++ '\n' :: rest) = words.length := by
  unfold lineCommentLength
  rw [List.takeWhile_append_of_pos]
  · simp
  · intro c member
    have other : c ≠ '\n' := fun same => within (same ▸ member)
    simpa using other

theorem triviaLength_blank {c : Char} (blank : isInlineBlank c = true ∨ c = '\n')
    (rest : List Char) : triviaLength (c :: rest) = triviaLength rest + 1 := by
  unfold triviaLength
  rw [triviaFrom, if_pos (by simpa using blank)]

theorem triviaLength_hash (rest : List Char) :
    triviaLength ('#' :: rest) = triviaFrom (lineCommentLength rest) rest + 1 := by
  unfold triviaLength
  rw [triviaFrom, if_neg (by decide), if_pos rfl]

/-- A line comment in the last line runs to the end of the text. -/
theorem triviaLength_unfed (within : '\n' ∉ rest) :
    triviaLength ('#' :: rest) = rest.length + 1 := by
  have all : rest.takeWhile (· ≠ '\n') = rest := by
    rw [List.takeWhile_eq_self_iff]
    intro c member
    have other : c ≠ '\n' := fun same => within (same ▸ member)
    simpa using other
  have passes := triviaFrom_append rest []
  rw [List.append_nil] at passes
  rw [triviaLength_hash, lineCommentLength, all, passes]
  rfl

theorem triviaLength_block {tail : List Char} (closed : CommentTail 0 tail) (rest : List Char) :
    triviaLength ('/' :: '*' :: (tail ++ rest)) = tail.length + 2 + triviaLength rest := by
  have passed := triviaFrom_append ('*' :: tail) rest
  have opens : opensComment ('/' :: '*' :: (tail ++ rest)) = true := rfl
  unfold triviaLength
  rw [triviaFrom, if_neg (by decide), if_neg (by decide), if_pos opens,
    blockCommentLength?_append closed]
  change triviaFrom ('*' :: tail).length ('*' :: tail ++ rest) + 1 = _
  rw [passed, List.length_cons]
  omega

/-- A gap is passed whole, and what is behind it follows. -/
theorem Gap.triviaLength_append {gap : List Char} (filled : Gap gap) (after : List Char) :
    triviaLength (gap ++ after) = gap.length + triviaLength after := by
  induction filled with
  | nothing => simp
  | blank blank later ih =>
      rw [List.cons_append, triviaLength_blank blank, ih, List.length_cons]
      omega
  | @line words rest within later ih =>
      have behind := triviaLength_blank (Or.inr rfl : _ ∨ '\n' = '\n') (rest ++ after)
      rw [List.cons_append, List.append_assoc, List.cons_append, triviaLength_hash,
        lineCommentLength_of_within within, triviaFrom_append]
      change words.length + triviaLength ('\n' :: (rest ++ after)) + 1 = _
      rw [behind, ih]
      simp only [List.length_cons, List.length_append]
      omega
  | block closed later ih =>
      rw [List.cons_append, List.cons_append, List.append_assoc, triviaLength_block closed, ih]
      simp only [List.length_cons, List.length_append]
      omega

/-- How a text may begin, as far as gaps are concerned. -/
theorem triviaLength_cases (c : Char) (rest : List Char) :
    triviaLength (c :: rest) = 0 ∨ (isInlineBlank c = true ∨ c = '\n') ∨ c = '#' ∨
      ∃ tail after, c :: rest = '/' :: '*' :: (tail ++ after) ∧ CommentTail 0 tail := by
  by_cases blank : isInlineBlank c = true ∨ c = '\n'
  · exact Or.inr (Or.inl blank)
  by_cases hash : c = '#'
  · exact Or.inr (Or.inr (Or.inl hash))
  unfold triviaLength
  rw [triviaFrom, if_neg (by simpa using blank), if_neg hash]
  by_cases opens : opensComment (c :: rest) = true
  · rw [if_pos opens]
    cases found : blockCommentLength? (c :: rest) with
    | none => exact Or.inl rfl
    | some length =>
        rcases Comment.of_blockCommentLength? opens found with ⟨piece, after, split, -, comment⟩
        cases comment with
        | line within =>
            cases split
            exact absurd rfl hash
        | @block tail closed => exact Or.inr (Or.inr (Or.inr ⟨tail, after, split, closed⟩))
  · rw [if_neg opens]
    exact Or.inl rfl

/-- A text whose last character is a line feed. -/
def EndsLine (text : List Char) : Prop :=
  text.getLast? = some '\n'

theorem EndsLine.behind {front : List Char} (ends : EndsLine (front ++ rest)) (some : rest ≠ []) :
    EndsLine rest := by
  unfold EndsLine at ends ⊢
  rw [List.getLast?_eq_some_getLast some]
  rwa [List.getLast?_append, List.getLast?_eq_some_getLast some, Option.some_or] at ends

/-- The trivia at the head of a text are a gap unless the text ends in the middle of a comment. -/
theorem Gap.of_triviaLength (rest : List Char)
    (complete : EndsLine rest ∨ triviaLength rest < rest.length) :
    ∃ gap after, rest = gap ++ after ∧ triviaLength after = 0 ∧ Gap gap := by
  induction size : rest.length using Nat.strongRecOn generalizing rest with
  | _ size ih =>
      subst size
      have passed : ∀ piece after : List Char, rest = piece ++ after → piece ≠ [] →
          triviaLength rest = piece.length + triviaLength after →
          (∀ gap, Gap gap → Gap (piece ++ gap)) →
          ∃ gap after, rest = gap ++ after ∧ triviaLength after = 0 ∧ Gap gap := by
        intro piece after split some counted filled
        have positive := List.length_pos_iff.mpr some
        have lengths : rest.length = piece.length + after.length := by
          rw [split, List.length_append]
        by_cases last : after = []
        · have whole := filled [] .nothing
          rw [List.append_nil] at whole
          exact ⟨piece, after, split, by rw [last]; rfl, whole⟩
        · have completeBehind : EndsLine after ∨ triviaLength after < after.length := by
            rcases complete with ends | shorter
            · rw [split] at ends
              exact Or.inl (ends.behind last)
            · exact Or.inr (by omega)
          rcases ih after.length (by omega) after completeBehind rfl with
            ⟨gap, left, rfl, stops, later⟩
          refine ⟨piece ++ gap, left, ?_, stops, filled gap later⟩
          rw [split, List.append_assoc]
      rcases rest with _ | ⟨c, rest⟩
      · exact ⟨[], [], rfl, rfl, .nothing⟩
      rcases triviaLength_cases c rest with none | blank | rfl | ⟨tail, after, split, closed⟩
      · exact ⟨[], c :: rest, rfl, none, .nothing⟩
      · refine passed [c] rest rfl (List.cons_ne_nil _ _) ?_ fun gap => .blank blank
        rw [triviaLength_blank blank, List.length_singleton, Nat.add_comm]
      · by_cases fed : '\n' ∈ rest
        · rcases List.eq_append_cons_of_mem fed with ⟨words, after, rfl, within⟩
          refine passed ('#' :: (words ++ ['\n'])) after (by simp) (List.cons_ne_nil _ _) ?_ ?_
          · have counted := (Gap.line within .nothing).triviaLength_append after
            rwa [List.cons_append, List.append_assoc] at counted
          · intro gap later
            rw [List.cons_append, List.append_assoc]
            exact .line within later
        · -- The comment runs to the end of the text, which is then not the end of a line.
          have counted := triviaLength_unfed fed
          rcases complete with ends | shorter
          · have member := List.mem_of_getLast? ends
            rcases List.mem_cons.mp member with same | inside
            · exact absurd same (by decide)
            · exact absurd inside fed
          · rw [counted, List.length_cons] at shorter
            omega
      · refine passed ('/' :: '*' :: tail) after split (List.cons_ne_nil _ _) ?_ ?_
        · rw [split]
          exact triviaLength_block closed after
        · intro gap later
          exact .block closed later

/-! ## Literals -/

theorem closingQuote?_cases {opening closing : Char} (quotes : closingQuote? opening = some closing) :
    (opening = '"' ∧ closing = '"') ∨ (opening = '\'' ∧ closing = '\'') ∨
      (opening = '«' ∧ closing = '»') := by
  unfold closingQuote? at quotes
  split at quotes
  · rename_i style
    cases quotes
    rcases style with rfl | rfl
    · exact Or.inl ⟨rfl, rfl⟩
    · exact Or.inr (Or.inl ⟨rfl, rfl⟩)
  · split at quotes
    · rename_i style
      cases quotes
      exact Or.inr (Or.inr ⟨style, rfl⟩)
    · cases quotes

theorem hexEscapeDigits?_cases {letter : Char} {count : Nat}
    (counted : hexEscapeDigits? letter = some count) :
    letter = 'x' ∨ letter = 'u' ∨ letter = 'U' := by
  unfold hexEscapeDigits? at counted
  split at counted
  · exact Or.inl ‹_›
  · split at counted
    · exact Or.inr (Or.inl ‹_›)
    · split at counted
      · exact Or.inr (Or.inr ‹_›)
      · cases counted

theorem readHexEscape_append {letter : Char} {digits : List Char}
    (hex : ∀ digit ∈ digits, Number.isDigitOf 16 digit = true)
    (valid : (Number.textValue 16 digits).isValidChar) (after : List Char) :
    readHexEscape digits.length letter (digits ++ after) =
      .ok (Char.ofNat (Number.textValue 16 digits), 1 + digits.length) := by
  have all : digits.takeWhile (Number.isDigitOf 16) = digits :=
    List.takeWhile_eq_self_iff.mpr hex
  unfold readHexEscape
  simp only [List.take_left, all, Nat.lt_irrefl, if_false, if_pos valid]

theorem readNamedEscape_append {name : List Char} {c : Char} (closed : '\x7d' ∉ name)
    (oneLine : '\n' ∉ name) (known : Text.named? (String.ofList name) = some c)
    (after : List Char) :
    readNamedEscape ('\x7b' :: (name ++ '\x7d' :: after)) = .ok (c, 3 + name.length) := by
  have inside : (name ++ '\x7d' :: after).takeWhile (fun c => c ≠ '\x7d' && c ≠ '\n') = name := by
    rw [List.takeWhile_append_of_pos]
    · simp
    · intro d member
      have notClosing : d ≠ '\x7d' := fun same => closed (same ▸ member)
      have notFeed : d ≠ '\n' := fun same => oneLine (same ▸ member)
      simp [notClosing, notFeed]
  unfold readNamedEscape
  simp only [inside, List.drop_left, known]

/-- An escape is read in the same way whatever stands behind it. -/
theorem Escape.readEscape_append {piece : List Char} {c : Char} (escape : Escape piece c)
    (after : List Char) : readEscape (piece ++ after) = .ok (some (c, piece.length)) := by
  cases escape with
  | simple known =>
      simp only [List.singleton_append, readEscape, known]
      rfl
  | @code letter digits counted hex valid =>
      have simple : simpleEscape? letter = none := by
        rcases hexEscapeDigits?_cases counted with rfl | rfl | rfl <;> decide
      simp only [List.cons_append, readEscape, simple, counted, readHexEscape_append hex valid]
      rw [List.length_cons, Nat.add_comm]
      rfl
  | @named name c closed oneLine known =>
      have read := readNamedEscape_append closed oneLine known after
      have simple : simpleEscape? 'N' = none := by decide
      have counted : hexEscapeDigits? 'N' = none := by decide
      simp only [List.cons_append, List.append_assoc, List.nil_append, readEscape, simple, counted,
        if_true, read, List.length_cons, List.length_append, List.length_nil]
      rw [Nat.add_comm 3]
      rfl

/-- A stretch of a literal, and the text that it stands for, put before the rest of its body. -/
def bodyBehind (text : List Char) (length : Nat) :
    Except BodyFault (List Char × Nat) → Except BodyFault (List Char × Nat)
  | .ok (more, covered) => .ok (text ++ more, length + covered)
  | .error .unclosed => .error .unclosed
  | .error (.escape fault) => .error (.escape (fault.later length))

theorem extendBody_eq (decoded : List Char) (answer : Except BodyFault (List Char × Nat)) :
    extendBody decoded answer = bodyBehind decoded 1 answer := by
  rcases answer with (fault | fault) | ⟨text, length⟩
  · rfl
  · rfl
  · rw [bodyBehind, Nat.add_comm]
    rfl

theorem bodyBehind_nothing (answer : Except BodyFault (List Char × Nat)) :
    bodyBehind [] 0 answer = answer := by
  rcases answer with (fault | fault) | ⟨text, length⟩
  · rfl
  · rfl
  · rw [bodyBehind, Nat.zero_add]
    rfl

theorem bodyBehind_bodyBehind (first second : List Char) (length more : Nat)
    (answer : Except BodyFault (List Char × Nat)) :
    bodyBehind first length (bodyBehind second more answer) =
      bodyBehind (first ++ second) (length + more) answer := by
  rcases answer with (fault | fault) | ⟨text, covered⟩
  · rfl
  · simp only [bodyBehind, Fault.later, Nat.add_assoc, Nat.add_comm more]
  · simp only [bodyBehind, List.append_assoc, Nat.add_assoc]

theorem readBody_passing (closing : Char) (escapes : Bool) (passed rest : List Char) :
    readBody closing escapes passed.length (passed ++ rest) =
      bodyBehind [] passed.length (readBody closing escapes 0 rest) := by
  induction passed with
  | nil => exact (bodyBehind_nothing _).symm
  | cons c passed ih =>
      rw [List.length_cons, List.cons_append, readBody, ih, extendBody_eq, bodyBehind_bodyBehind,
        Nat.add_comm]
      rfl

/-- A stretch of a literal is read in the same way whatever stands behind it. -/
theorem Body.readBody_before {escapes : Bool} {opening closing : Char} {written text : List Char}
    (quotes : closingQuote? opening = some closing) (body : Body escapes closing written text)
    (rest : List Char) : readBody closing escapes 0 (written ++ rest) =
      bodyBehind text written.length (readBody closing escapes 0 rest) := by
  have other : '\\' ≠ closing := by
    rcases closingQuote?_cases quotes with ⟨-, rfl⟩ | ⟨-, rfl⟩ | ⟨-, rfl⟩ <;> decide
  induction body with
  | done => exact (bodyBehind_nothing _).symm
  | plain inside literal later ih =>
      rw [List.cons_append, readBody, if_neg inside, if_neg literal, ih, extendBody_eq,
        bodyBehind_bodyBehind, List.length_cons, Nat.add_comm]
      rfl
  | @escape piece c written text on escape later ih =>
      have read := escape.readEscape_append (written ++ rest)
      have length : 1 + (piece.length + written.length) = ('\\' :: (piece ++ written)).length := by
        rw [List.length_cons, List.length_append, Nat.add_comm]
      rw [List.cons_append, List.append_assoc, readBody, if_neg other, if_pos ⟨rfl, on⟩]
      simp only [read, readBody_passing, ih, extendBody_eq, bodyBehind_bodyBehind, length]
      rfl
  | @backslash letter written text on simple code name later ih =>
      have read : readEscape (letter :: (written ++ rest)) = .ok none := by
        simp only [readEscape, simple, code, if_neg name]
      have length : 1 + (letter :: written).length = ('\\' :: letter :: written).length :=
        Nat.add_comm _ _
      rw [List.cons_append] at ih
      rw [List.cons_append, List.cons_append, readBody, if_neg other, if_pos ⟨rfl, on⟩]
      simp only [read, ih, extendBody_eq, bodyBehind_bodyBehind, length]
      rfl

/-- The text between quotes, with the closing one. -/
theorem Body.readBody_append {escapes : Bool} {opening closing : Char} {written text : List Char}
    (quotes : closingQuote? opening = some closing) (body : Body escapes closing written text)
    (after : List Char) :
    readBody closing escapes 0 (written ++ closing :: after) = .ok (text, written.length + 1) := by
  rw [body.readBody_before quotes, readBody, if_pos rfl]
  simp only [bodyBehind, List.append_nil]

theorem readLiteral_append {escapes : Bool} {opening closing : Char} {written text : List Char}
    (quotes : closingQuote? opening = some closing) (body : Body escapes closing written text)
    (after : List Char) :
    readLiteral escapes (opening :: (written ++ closing :: after)) =
      .ok (text, written.length + 2) := by
  unfold readLiteral
  simp only [quotes, Option.getD_some, body.readBody_append quotes]

/-- A literal that has been read, with what is written between its quotes. -/
theorem readLiteral_body {escapes : Bool} {text : List Char} {length : Nat}
    (opens : opensLiteral rest = true) (read : readLiteral escapes rest = .ok (text, length)) :
    ∃ opening closing written after, rest = opening :: (written ++ closing :: after) ∧
      closingQuote? opening = some closing ∧ Body escapes closing written text ∧
      length = written.length + 2 := by
  rcases rest with _ | ⟨opening, rest⟩
  · cases opens
  rcases Option.isSome_iff_exists.mp opens with ⟨closing, quotes⟩
  unfold readLiteral at read
  simp only [quotes, Option.getD_some] at read
  have answers := readBody_answers (simpleEscape?_isSome_of_closingQuote? quotes) escapes 0 rest
  generalize readBody closing escapes 0 rest = answer at answers read
  rcases answer with fault | ⟨body, covered⟩
  · cases fault <;> cases read
  · cases read
    rcases answers with ⟨passed, written, after, rfl, none, rfl, written_body⟩
    rcases List.eq_nil_of_length_eq_zero none with rfl
    exact ⟨opening, closing, written, after, rfl, quotes, written_body, by omega⟩

/-- More text behind a literal does not change how it is read. -/
theorem readLiteral_followed {escapes : Bool} {text : List Char} {length : Nat}
    (opens : opensLiteral rest = true) (read : readLiteral escapes rest = .ok (text, length))
    (later : List Char) : readLiteral escapes (rest ++ later) = .ok (text, length) := by
  rcases readLiteral_body opens read with
    ⟨opening, closing, written, after, rfl, quotes, body, rfl⟩
  rw [List.cons_append, List.append_assoc, List.cons_append]
  exact readLiteral_append quotes body _

/-! ## Literals that are read as one -/

theorem triviaLength_of_opensLiteral (opens : opensLiteral rest = true) : triviaLength rest = 0 := by
  rcases rest with _ | ⟨c, rest⟩
  · rfl
  rcases Option.isSome_iff_exists.mp opens with ⟨closing, quotes⟩
  rcases triviaLength_cases c rest with none | blank | hash | ⟨tail, after, split, -⟩
  · exact none
  · rcases closingQuote?_cases quotes with ⟨rfl, -⟩ | ⟨rfl, -⟩ | ⟨rfl, -⟩ <;> simp [isInlineBlank] at blank
  · subst hash
    cases quotes
  · cases split
    cases quotes

/-- The gap before a literal that follows at the head of a text. -/
theorem Gap.of_opensLiteral (follows : opensLiteral (rest.drop (triviaLength rest)) = true) :
    ∃ gap after, rest = gap ++ after ∧ Gap gap ∧ opensLiteral after = true := by
  have shorter : triviaLength rest < rest.length := by
    rcases Nat.lt_or_ge (triviaLength rest) rest.length with shorter | all
    · exact shorter
    · rw [List.drop_eq_nil_of_le all] at follows
      cases follows
  rcases Gap.of_triviaLength rest (Or.inr shorter) with ⟨gap, after, rfl, stops, filled⟩
  rw [filled.triviaLength_append, stops, Nat.add_zero, List.drop_left] at follows
  exact ⟨gap, after, rfl, filled, follows⟩

/-- All literals at the head of a text that only gaps separate. -/
def readChain (escapes : Bool) (rest : List Char) : Except Fault (List Char × Nat) :=
  readLiterals escapes rest.length rest

/-- The literals behind a first one and a gap, put together with that one. -/
def Chained (text : List Char) (length : Nat) (following : Except Fault (List Char × Nat)) :
    Except Fault (List Char × Nat) :=
  (following.map fun others => (text ++ others.1, length + others.2)).mapError (·.later length)

theorem readLiterals_of_fault {escapes : Bool} {fault : Fault} (more : Nat)
    (failed : readLiteral escapes rest = .error fault) :
    readLiterals escapes more rest = .error fault := by
  cases more <;> simp only [readLiterals, failed]

theorem readLiterals_alone {escapes : Bool} {text : List Char} {length : Nat} (more : Nat)
    (read : readLiteral escapes rest = .ok (text, length))
    (alone : opensLiteral (rest.drop (length + triviaLength (rest.drop length))) = false) :
    readLiterals escapes more rest = .ok (text, length) := by
  cases more with
  | zero => simp only [readLiterals, read]
  | succ more => simp only [readLiterals, read, alone, Bool.false_eq_true, if_false]

theorem readLiterals_again {escapes : Bool} {text : List Char} {length : Nat} (more : Nat)
    (read : readLiteral escapes rest = .ok (text, length))
    (again : opensLiteral (rest.drop (length + triviaLength (rest.drop length))) = true) :
    readLiterals escapes (more + 1) rest =
      Chained text (length + triviaLength (rest.drop length))
        (readLiterals escapes more (rest.drop (length + triviaLength (rest.drop length)))) := by
  simp only [readLiterals, read, again, if_true]
  cases readLiterals escapes more (rest.drop (length + triviaLength (rest.drop length))) <;> rfl

theorem opensLiteral_ne_nil (opens : opensLiteral rest = true) : rest ≠ [] := by
  rintro rfl
  cases opens

theorem readLiterals_enough {escapes : Bool} {more : Nat} (opens : opensLiteral rest = true)
    (enough : rest.length ≤ more) : readLiterals escapes more rest = readChain escapes rest := by
  unfold readChain
  generalize bound : rest.length = least at enough ⊢
  replace bound := Nat.le_of_eq bound
  induction least generalizing rest more with
  | zero => exact absurd (List.eq_nil_of_length_eq_zero (Nat.le_zero.mp bound)) (opensLiteral_ne_nil opens)
  | succ least ih =>
      rcases Nat.exists_eq_add_of_le' enough with ⟨extra, rfl⟩
      cases read : readLiteral escapes rest with
      | error fault => rw [readLiterals_of_fault _ read, readLiterals_of_fault _ read]
      | ok literal =>
          rcases literal with ⟨text, length⟩
          cases again : opensLiteral (rest.drop (length + triviaLength (rest.drop length))) with
          | false => rw [readLiterals_alone _ read again, readLiterals_alone _ read again]
          | true =>
              rcases readLiteral_body opens read with ⟨_, _, written, _, _, _, _, rfl⟩
              rw [← Nat.add_assoc, readLiterals_again _ read again, readLiterals_again _ read again]
              refine congrArg _ (ih again (Nat.le_add_left _ _) ?_)
              rw [List.length_drop]
              omega

theorem readChain_of_fault {escapes : Bool} {fault : Fault}
    (failed : readLiteral escapes rest = .error fault) :
    readChain escapes rest = .error fault :=
  readLiterals_of_fault _ failed

theorem readChain_alone {escapes : Bool} {lexeme text : List Char}
    (read : readLiteral escapes (lexeme ++ rest) = .ok (text, lexeme.length))
    (alone : opensLiteral (rest.drop (triviaLength rest)) = false) :
    readChain escapes (lexeme ++ rest) = .ok (text, lexeme.length) := by
  refine readLiterals_alone _ read ?_
  rwa [List.drop_left, ← List.drop_drop, List.drop_left]

theorem readChain_again {escapes : Bool} {lexeme text gap : List Char}
    (opens : opensLiteral (lexeme ++ (gap ++ after)) = true)
    (read : readLiteral escapes (lexeme ++ (gap ++ after)) = .ok (text, lexeme.length))
    (filled : Gap gap) (again : opensLiteral after = true) :
    readChain escapes (lexeme ++ (gap ++ after)) =
      Chained text (lexeme ++ gap).length (readChain escapes after) := by
  have counted : triviaLength (gap ++ after) = gap.length := by
    rw [filled.triviaLength_append, triviaLength_of_opensLiteral again, Nat.add_zero]
  have behind : (lexeme ++ (gap ++ after)).drop
      (lexeme.length + triviaLength ((lexeme ++ (gap ++ after)).drop lexeme.length)) = after := by
    rw [List.drop_left, counted, ← List.append_assoc, ← List.length_append, List.drop_left]
  have onward := readLiterals_again (lexeme ++ (gap ++ after)).length read (by rwa [behind])
  rw [behind, List.drop_left, counted, ← List.length_append] at onward
  rw [← readLiterals_enough opens (Nat.le_succ _), onward,
    readLiterals_enough again (by simp only [List.length_append]; omega)]

/-! ## The scan at literals and gaps -/

theorem Scan.step_of_part {c : Char} {part : Part} (split : scan.rest = c :: rest)
    (other : c ≠ '@') (read : readPiece scan.switches c scan.rest = .ok [part]) :
    scan.step = scan.cover part := by
  rw [Scan.step_of_piece split other read, Scan.coverAll_cons]
  cases scan.cover part <;> rfl

theorem continuationLength_of_ne {c : Char} (other : c ≠ '\\') (rest : List Char) :
    continuationLength (c :: rest) = 0 := by
  unfold continuationLength
  split
  · rename_i same
    exact absurd (List.cons.inj same).1 other
  · rename_i same
    exact absurd (List.cons.inj same).1 other
  · rfl

theorem opensComment_of_ne {c : Char} (other : c ≠ '/') (rest : List Char) :
    opensComment (c :: rest) = false := by
  unfold opensComment
  split
  · rename_i same
    exact absurd (List.cons.inj same).1 other
  · rfl

theorem readPiece_literal {c : Char} (switches : Switches) (quote : (closingQuote? c).isSome = true)
    (behind : List Char) : readPiece switches c (c :: behind) = readString switches (c :: behind) := by
  rcases Option.isSome_iff_exists.mp quote with ⟨closing, quotes⟩
  unfold readPiece
  rcases closingQuote?_cases quotes with ⟨rfl, -⟩ | ⟨rfl, -⟩ | ⟨rfl, -⟩
  all_goals
    rw [continuationLength_of_ne (by decide), opensComment_of_ne (by decide), if_neg (by decide),
      if_neg (by decide), if_neg (by decide), if_neg (by decide), if_neg (by decide), if_pos quote]

theorem ne_sign_of_quote {c : Char} (quote : (closingQuote? c).isSome = true) : c ≠ '@' := by
  rintro rfl
  exact absurd quote (by decide)

/-- The literals that the scan is about to read as one token. -/
def Scan.literals (scan : Scan) : Except Fault (List Char × Nat) :=
  if scan.switches.implicitConcat then readChain scan.switches.escapes scan.rest
  else readLiteral scan.switches.escapes scan.rest

theorem Scan.readString_eq :
    readString scan.switches scan.rest = scan.literals.map fun literal =>
      [⟨some (.text (String.ofList literal.1)), literal.2⟩] := by
  simp only [readString, Scan.literals, readChain]
  cases scan.switches.implicitConcat
  · rfl
  · rfl

theorem Scan.step_of_literal {text : List Char} {length : Nat}
    (opens : opensLiteral scan.rest = true) (read : scan.literals = .ok (text, length)) :
    scan.step = .ok (scan.emit (.text (String.ofList text)) length) := by
  have answer := scan.readString_eq
  rw [read] at answer
  rcases split : scan.rest with _ | ⟨c, behind⟩
  · rw [split] at opens
    cases opens
  rw [split] at opens answer
  have piece : readPiece scan.switches c scan.rest =
      .ok [⟨some (.text (String.ofList text)), length⟩] := by
    rw [split, readPiece_literal _ opens]
    exact answer
  exact Scan.step_of_part split (ne_sign_of_quote opens) piece

theorem Scan.step_of_literalFault {fault : Fault} (opens : opensLiteral scan.rest = true)
    (failed : scan.literals = .error fault) : scan.step = .error (scan.fail fault) := by
  have answer := scan.readString_eq
  rw [failed] at answer
  rcases split : scan.rest with _ | ⟨c, behind⟩
  · rw [split] at opens
    cases opens
  rw [split] at opens answer
  refine Scan.step_of_fault split (ne_sign_of_quote opens) ?_
  rw [split, readPiece_literal _ opens]
  exact answer

/-- The scan behind a stretch of text, with more tokens. -/
def Scan.beyond (scan : Scan) (piece : List Char) (tokens : List Token) : Scan :=
  { scan with
    rest := scan.rest.drop piece.length
    position := scan.position.after piece
    tokens := scan.tokens ++ tokens.toArray }

theorem Scan.skip_eq_beyond {piece : List Char} (split : scan.rest = piece ++ rest) :
    scan.skip piece.length = scan.beyond piece [] := by
  simp only [Scan.skip, Scan.beyond, split, List.take_left, Array.append_empty, List.toArray]

theorem Scan.emit_eq_beyond {piece : List Char} (split : scan.rest = piece ++ rest)
    (kind : TokenKind) : scan.emit kind piece.length =
      scan.beyond piece [⟨kind, ⟨scan.position, scan.position.after piece⟩⟩] := by
  simp only [Scan.emit, Scan.skip, Scan.beyond, split, List.take_left]
  rfl

theorem Scan.rest_beyond {piece : List Char} (split : scan.rest = piece ++ rest)
    (tokens : List Token) : (scan.beyond piece tokens).rest = rest := by
  simp only [Scan.beyond, split, List.drop_left]

/-- A text whose first step makes one token of all of it. -/
theorem tokenize_single {switches : Switches} {text : String} {kind : TokenKind}
    (stepped : (Scan.start switches text.toList).step =
      .ok ((Scan.start switches text.toList).emit kind text.toList.length)) :
    tokenize switches text = .ok ([⟨kind, spanBehind [] text.toList⟩,
      ⟨.endOfFile, spanBehind text.toList []⟩], switches) := by
  let start := Scan.start switches text.toList
  have whole : start.rest = text.toList ++ [] := (List.append_nil _).symm
  have place : placeAfter text.toList = start.position.after text.toList :=
    (placeAfter_after [] text.toList).symm
  rw [Scan.emit_eq_beyond whole] at stepped
  rw [tokenize_eq, Scan.result, Scan.outcome_of_step stepped,
    Scan.outcome_of_done (Scan.rest_beyond whole _)]
  unfold spanBehind
  rw [List.nil_append, List.append_nil, place]
  rfl

theorem Scan.beyond_nil (scan : Scan) : scan.beyond [] [] = scan := by
  simp only [Scan.beyond, List.length_nil, List.drop_zero, Source.Position.after_nil,
    List.toArray, Array.append_empty]

theorem Scan.beyond_beyond (piece more : List Char) (tokens others : List Token) :
    (scan.beyond piece tokens).beyond more others =
      scan.beyond (piece ++ more) (tokens ++ others) := by
  simp only [Scan.beyond, List.drop_drop, List.length_append, Source.Position.after_append,
    Array.append_assoc, List.append_toArray]

theorem Scan.step_of_skipped {c : Char} {piece : List Char} (split : scan.rest = piece ++ rest)
    (starts : piece.head? = some c) (other : c ≠ '@')
    (read : readPiece scan.switches c scan.rest = .ok [⟨none, piece.length⟩]) :
    scan.step = .ok (scan.beyond piece []) := by
  rcases List.head?_eq_some_iff.mp starts with ⟨behind, rfl⟩
  rw [Scan.step_of_part split other read, ← Scan.skip_eq_beyond split]
  rfl

theorem Scan.step_of_feed (split : scan.rest = '\n' :: rest) :
    scan.step = .ok (scan.beyond ['\n'] [⟨.newline, ⟨scan.position, scan.position.after ['\n']⟩⟩]) := by
  have read : readPiece scan.switches '\n' scan.rest = .ok [⟨some .newline, 1⟩] := by
    unfold readPiece
    rw [if_neg (by decide), if_pos (Or.inl rfl)]
  have behind : scan.rest = ['\n'] ++ rest := split
  rw [Scan.step_of_part split (by decide) read, ← Scan.emit_eq_beyond behind]
  rfl

theorem Scan.step_of_blank {c : Char} (blank : isInlineBlank c = true)
    (split : scan.rest = c :: rest) : scan.step = .ok (scan.beyond [c] []) := by
  have other : c ≠ '@' := by
    rintro rfl
    cases blank
  have read : readPiece scan.switches c scan.rest = .ok [⟨none, [c].length⟩] := by
    unfold readPiece
    rw [if_pos blank]
    rfl
  exact Scan.step_of_skipped split rfl other read

theorem Scan.step_of_lineComment {words : List Char} (within : '\n' ∉ words)
    (split : scan.rest = '#' :: (words ++ '\n' :: rest)) :
    scan.step = .ok (scan.beyond ('#' :: words) []) := by
  have read : readPiece scan.switches '#' scan.rest = .ok [⟨none, ('#' :: words).length⟩] := by
    have within' : '\n' ∉ '#' :: words := by
      simpa using within
    have length := lineCommentLength_of_within within' rest
    unfold readPiece
    rw [split, continuationLength_of_ne (by decide), if_neg (by decide), if_neg (by decide),
      if_neg (Nat.lt_irrefl 0), if_pos rfl]
    exact congrArg (fun length => Except.ok [Part.mk none length]) length
  exact Scan.step_of_skipped split rfl (by decide) read

theorem Scan.step_of_blockComment {tail : List Char} (closed : CommentTail 0 tail)
    (split : scan.rest = '/' :: '*' :: (tail ++ rest)) :
    scan.step = .ok (scan.beyond ('/' :: '*' :: tail) []) := by
  have read : readPiece scan.switches '/' scan.rest =
      .ok [⟨none, ('/' :: '*' :: tail).length⟩] := by
    unfold readPiece
    have opens : opensComment ('/' :: '*' :: (tail ++ rest)) = true := rfl
    rw [split, continuationLength_of_ne (by decide), blockCommentLength?_append closed,
      if_neg (by decide), if_neg (by decide), if_neg (Nat.lt_irrefl 0), if_neg (by decide),
      if_pos opens]
    rfl
  exact Scan.step_of_skipped split rfl (by decide) read

theorem exists_of_opensComment {rest : List Char} (opens : opensComment rest = true) :
    ∃ tail, rest = '/' :: '*' :: tail := by
  unfold opensComment at opens
  split at opens
  · exact ⟨_, rfl⟩
  · cases opens

theorem Scan.step_of_openComment (opens : opensComment scan.rest = true)
    (unclosed : blockCommentLength? scan.rest = none) :
    scan.step = .error (scan.fail ⟨.unterminatedComment, 0, 2⟩) := by
  rcases exists_of_opensComment opens with ⟨rest, split⟩
  refine Scan.step_of_fault split (by decide) ?_
  unfold readPiece
  rw [unclosed, if_pos opens, split, continuationLength_of_ne (by decide), if_neg (by decide),
    if_neg (by decide), if_neg (Nat.lt_irrefl 0), if_neg (by decide)]

/-- A fault is found at the same place by a reader that begins further on. -/
theorem Scan.fail_beyond {piece : List Char} (split : scan.rest = piece ++ rest)
    (tokens : List Token) (fault : Fault) :
    (scan.beyond piece tokens).fail fault = scan.fail (fault.later piece.length) := by
  have passed : ∀ more, scan.position.after (scan.rest.take (more + piece.length)) =
      (scan.position.after piece).after (rest.take more) := by
    intro more
    rw [split, Nat.add_comm, List.take_length_add_append, Source.Position.after_append]
  simp only [Scan.fail, Fault.locate, Fault.later, passed, Scan.rest_beyond split]
  rfl

/-- A gap is passed, and leaves only tokens for line feeds. -/
theorem Scan.outcome_gap {gap : List Char} (filled : Gap gap) (split : scan.rest = gap ++ after) :
    ∃ feeds : List Token, (∀ token ∈ feeds, token.kind = .newline) ∧
      scan.outcome = (scan.beyond gap feeds).outcome := by
  have none : ∀ token ∈ ([] : List Token), token.kind = .newline :=
    fun _ member => absurd member List.not_mem_nil
  induction filled generalizing scan with
  | nothing => exact ⟨[], none, by rw [scan.beyond_nil]⟩
  | @blank c rest blank later ih =>
      -- A line feed leaves a token, and any other blank none.
      have step : ∃ feeds : List Token, (∀ token ∈ feeds, token.kind = .newline) ∧
          scan.step = .ok (scan.beyond [c] feeds) := by
        rcases blank with blank | rfl
        · exact ⟨[], none, Scan.step_of_blank blank split⟩
        · exact ⟨_, List.forall_mem_singleton.mpr rfl, Scan.step_of_feed split⟩
      rcases step with ⟨feeds, newlines, stepped⟩
      have behind : scan.rest = [c] ++ (rest ++ after) := split
      rcases ih (Scan.rest_beyond behind feeds) with ⟨others, newlines', onward⟩
      rw [Scan.beyond_beyond] at onward
      exact ⟨feeds ++ others, List.forall_mem_append.mpr ⟨newlines, newlines'⟩,
        (Scan.outcome_of_step stepped).trans onward⟩
  | @line words rest within later ih =>
      have commented : scan.rest = '#' :: words ++ '\n' :: (rest ++ after) := by
        simpa using split
      have atFeed : (scan.beyond ('#' :: words) []).rest = ['\n'] ++ (rest ++ after) :=
        Scan.rest_beyond commented []
      have first := Scan.outcome_of_step (Scan.step_of_lineComment within commented)
      have second := Scan.outcome_of_step (Scan.step_of_feed atFeed)
      generalize token : Token.mk .newline _ = feed at second
      have newline : feed.kind = .newline := by rw [← token]
      rcases ih (Scan.rest_beyond atFeed [feed]) with ⟨others, newlines, onward⟩
      refine ⟨feed :: others, List.forall_mem_cons.mpr ⟨newline, newlines⟩, ?_⟩
      rw [first, second, onward, Scan.beyond_beyond, Scan.beyond_beyond]
      simp only [List.cons_append, List.nil_append]
  | @block tail rest closed later ih =>
      have commented : scan.rest = '/' :: '*' :: tail ++ (rest ++ after) := by
        simpa using split
      have first := Scan.outcome_of_step (Scan.step_of_blockComment closed commented)
      rcases ih (Scan.rest_beyond commented []) with ⟨others, newlines, onward⟩
      rw [Scan.beyond_beyond] at onward
      exact ⟨others, newlines, first.trans onward⟩

end Lexical
end Scripting
