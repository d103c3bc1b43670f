import Scripting.Proofs.Segmentation

namespace Scripting

/-- The same place of a text with more characters and lines before it. -/
def Source.Position.moved (characters lines : Nat) (position : Source.Position) :
    Source.Position where
  index := position.index + characters
  line := position.line + lines
  column := position.column

def Source.Span.moved (characters lines : Nat) (span : Source.Span) : Source.Span where
  start := span.start.moved characters lines
  stop := span.stop.moved characters lines

namespace Lexical

/-!
What a scan comes to.

A scan goes on until nothing is left of its text or a fault ends it.  Its outcome is
described here one step at a time and without the fuel that the run is given.  Three facts
about it are used wherever two scans are compared.  The outcome depends neither on what
stands before the text nor on the tokens read so far, as long as no directive comes too
late because of them.  Gaps between string literals are passed and leave only tokens for
their line feeds.  And literals that are read as one token are read one after the other.
-/

variable {scan next : Scan} {rest after : List Char}

/-! ## Steps -/

/-- A scan that has passed some characters more than another. -/
structure Scan.Passes (scan : Scan) (piece : List Char) (next : Scan) : Prop where
  split : scan.rest = piece ++ next.rest
  place : next.position = scan.position.after piece

theorem Scan.Passes.trans {piece more : List Char} {last : Scan} (first : scan.Passes piece next)
    (second : next.Passes more last) : scan.Passes (piece ++ more) last where
  split := by rw [first.split, second.split, List.append_assoc]
  place := by rw [second.place, first.place, Source.Position.after_append]

theorem Scan.passes_skip {piece : List Char} (split : scan.rest = piece ++ rest) :
    scan.Passes piece (scan.skip piece.length) := by
  have left : (scan.skip piece.length).rest = rest := by
    change scan.rest.drop piece.length = rest
    rw [split, List.drop_left]
  constructor
  · rw [left, split]
  · change scan.position.after (scan.rest.take piece.length) = _
    rw [split, List.take_left]

theorem Scan.passes_cover {lexeme : List Char} {kind : Option TokenKind}
    (split : scan.rest = lexeme ++ rest) (covered : scan.cover ⟨kind, lexeme.length⟩ = .ok next) :
    scan.Passes lexeme next := by
  have passes := scan.passes_skip split
  have same : next.rest = (scan.skip lexeme.length).rest ∧
      next.position = (scan.skip lexeme.length).position := by
    unfold Scan.cover at covered
    split at covered
    · cases covered
      exact ⟨rfl, rfl⟩
    · cases covered
      exact ⟨rfl, rfl⟩
    · split at covered
      · cases covered
      · split at covered
        · cases covered
          exact ⟨rfl, rfl⟩
        · cases covered
    · cases covered
      exact ⟨rfl, rfl⟩
  exact ⟨same.1 ▸ passes.split, same.2 ▸ passes.place⟩

theorem Scan.coverAll_cons {part : Part} {parts : List Part} :
    scan.coverAll (part :: parts) = (scan.cover part).bind (·.coverAll parts) := by
  rw [Scan.coverAll]
  cases scan.cover part <;> rfl

/-- The first of the parts that cover a text has at least one character. -/
theorem Covers.first {kind : Option TokenKind} {length : Nat} {parts : List Part}
    (covers : Covers (⟨kind, length⟩ :: parts) rest) : ∃ lexeme behind, lexeme ≠ [] ∧
      rest = lexeme ++ behind ∧ lexeme.length = length ∧ Covers parts behind := by
  cases covers with
  | skip skipped later => exact ⟨_, _, skipped.nonempty, rfl, rfl, later⟩
  | token spelt later => exact ⟨_, _, spelt.nonempty, rfl, rfl, later⟩

theorem Scan.passes_coverAll {parts : List Part} (covers : Covers parts scan.rest)
    (covered : scan.coverAll parts = .ok next) :
    ∃ piece, parts.length ≤ piece.length ∧ scan.Passes piece next := by
  induction parts generalizing scan with
  | nil =>
      cases covered
      exact ⟨[], Nat.le_refl _, rfl, rfl⟩
  | cons part parts ih =>
      rcases part with ⟨kind, length⟩
      rcases covers.first with ⟨lexeme, rest, some, split, rfl, later⟩
      rw [Scan.coverAll_cons] at covered
      cases coveredFirst : scan.cover ⟨kind, lexeme.length⟩ with
      | error error =>
          rw [coveredFirst] at covered
          cases covered
      | ok middle =>
          rw [coveredFirst] at covered
          have passes := Scan.passes_cover split coveredFirst
          have left : middle.rest = rest := List.append_cancel_left (passes.split.symm.trans split)
          rcases ih (left ▸ later) covered with ⟨piece, longer, passesOthers⟩
          refine ⟨lexeme ++ piece, ?_, passes.trans passesOthers⟩
          have positive := List.length_pos_iff.mpr some
          rw [List.length_cons, List.length_append]
          omega

theorem Scan.passes_direct (sign : scan.rest = '@' :: rest) (directed : scan.direct = .ok next) :
    ∃ piece, piece ≠ [] ∧ scan.Passes piece next := by
  unfold Scan.direct at directed
  split at directed
  · cases directed
  · have answers := readDirective_answers scan.switches rest
    rw [← sign] at answers
    generalize readDirective scan.switches scan.rest = answer at answers directed
    generalize unread : scan.rest = text at answers
    cases answers with
    | fault within => cases directed
    | directive skipped =>
        cases directed
        have passes := Scan.passes_skip unread
        exact ⟨_, skipped.nonempty, passes.split, passes.place⟩

theorem Scan.step_of_done (done : scan.rest = []) : scan.step = .ok scan := by
  unfold Scan.step
  simp only [done]

theorem Scan.step_of_sign (sign : scan.rest = '@' :: rest) : scan.step = scan.direct := by
  unfold Scan.step
  simp only [sign, if_true]

theorem Scan.step_of_piece {c : Char} {parts : List Part} (split : scan.rest = c :: rest)
    (other : c ≠ '@') (read : readPiece scan.switches c scan.rest = .ok parts) :
    scan.step = scan.coverAll parts := by
  unfold Scan.step
  rw [split] at read ⊢
  simp only [if_neg other, read]

theorem Scan.step_of_fault {c : Char} {fault : Fault} (split : scan.rest = c :: rest)
    (other : c ≠ '@') (failed : readPiece scan.switches c scan.rest = .error fault) :
    scan.step = .error (scan.fail fault) := by
  unfold Scan.step
  rw [split] at failed ⊢
  simp only [if_neg other, failed]

/-- Each step passes at least one character. -/
theorem Scan.passes_step (unread : scan.rest ≠ []) (stepped : scan.step = .ok next) :
    ∃ piece, piece ≠ [] ∧ scan.Passes piece next := by
  rcases List.exists_cons_of_ne_nil unread with ⟨c, rest, split⟩
  by_cases sign : c = '@'
  · subst sign
    rw [Scan.step_of_sign split] at stepped
    exact Scan.passes_direct split stepped
  · have answers := readPiece_answers scan.switches c rest
    rw [← split] at answers
    cases read : readPiece scan.switches c scan.rest with
    | error fault =>
        rw [Scan.step_of_fault split sign read] at stepped
        cases stepped
    | ok parts =>
        rw [Scan.step_of_piece split sign read] at stepped
        rw [read] at answers
        rcases Scan.passes_coverAll answers.2 stepped with ⟨piece, longer, passes⟩
        have positive := List.length_pos_iff.mpr answers.1
        exact ⟨piece, List.ne_nil_of_length_pos (by omega), passes⟩

theorem Scan.Passes.shorter {piece : List Char} (passes : scan.Passes piece next)
    (some : piece ≠ []) : next.rest.length < scan.rest.length := by
  have positive := List.length_pos_iff.mpr some
  rw [passes.split, List.length_append]
  omega

/-! ## Tokens that are made -/

theorem Scan.tokens_emit (kind : TokenKind) (length : Nat) :
    (scan.emit kind length).tokens.toList =
      scan.tokens.toList ++ [⟨kind, ⟨scan.position, (scan.skip length).position⟩⟩] :=
  Array.toList_push

theorem Scan.kinds_emit (kind : TokenKind) (length : Nat) :
    (scan.emit kind length).tokens.toList.map Token.kind =
      scan.tokens.toList.map Token.kind ++ [kind] := by
  rw [Scan.tokens_emit, List.map_append, List.map_singleton]

theorem Scan.kinds_cover {part : Part} (covered : scan.cover part = .ok next) :
    next.tokens.toList.map Token.kind =
      scan.tokens.toList.map Token.kind ++ part.kind.toList := by
  rcases part with ⟨_ | kind, length⟩
  · cases covered
    exact (List.append_nil _).symm
  · cases kind with
    | opening bracket =>
        cases covered
        exact Scan.kinds_emit _ _
    | closing bracket =>
        unfold Scan.cover at covered
        simp only at covered
        split at covered
        · cases covered
        · split at covered
          · cases covered
            exact Scan.kinds_emit _ _
          · cases covered
    | _ =>
        cases covered
        exact Scan.kinds_emit _ _

theorem Scan.kinds_coverAll {parts : List Part} (covered : scan.coverAll parts = .ok next) :
    next.tokens.toList.map Token.kind =
      scan.tokens.toList.map Token.kind ++ parts.flatMap fun part => part.kind.toList := by
  induction parts generalizing scan with
  | nil =>
      cases covered
      exact (List.append_nil _).symm
  | cons part parts ih =>
      rw [Scan.coverAll_cons] at covered
      cases coveredFirst : scan.cover part with
      | error error =>
          rw [coveredFirst] at covered
          cases covered
      | ok between =>
          rw [coveredFirst] at covered
          rw [ih covered, Scan.kinds_cover coveredFirst, List.flatMap_cons, List.append_assoc]

theorem Scan.tokens_direct (directed : scan.direct = .ok next) : next.tokens = scan.tokens := by
  unfold Scan.direct at directed
  split at directed
  · cases directed
  · split at directed
    · cases directed
      rfl
    · cases directed

/-- Each step makes the tokens of parts that cover what is read. -/
theorem Scan.kinds_step (stepped : scan.step = .ok next) : ∃ parts, Covers parts scan.rest ∧
    next.tokens.toList.map Token.kind =
      scan.tokens.toList.map Token.kind ++ parts.flatMap fun part => part.kind.toList := by
  rcases split : scan.rest with _ | ⟨c, rest⟩
  · rw [Scan.step_of_done split] at stepped
    cases stepped
    exact ⟨[], .nothing _, (List.append_nil _).symm⟩
  by_cases sign : c = '@'
  · subst sign
    rw [Scan.step_of_sign split] at stepped
    rw [Scan.tokens_direct stepped]
    exact ⟨[], .nothing _, (List.append_nil _).symm⟩
  · have answers := readPiece_answers scan.switches c rest
    rw [← split] at answers ⊢
    cases read : readPiece scan.switches c scan.rest with
    | error fault =>
        rw [Scan.step_of_fault split sign read] at stepped
        cases stepped
    | ok parts =>
        rw [Scan.step_of_piece split sign read] at stepped
        rw [read] at answers
        exact ⟨parts, answers.2, Scan.kinds_coverAll stepped⟩

/-! ## Outcomes -/

/-- What the scan of all that is left comes to. -/
def Scan.outcome (scan : Scan) : Except LexError Scan :=
  scan.run scan.rest.length

theorem Scan.run_succ (unread : scan.rest ≠ []) (fuel : Nat) :
    scan.run (fuel + 1) = scan.step.bind (·.run fuel) := by
  rw [Scan.run, if_neg (by simpa using unread)]
  cases scan.step <;> rfl

theorem Scan.run_of_done (done : scan.rest = []) (fuel : Nat) : scan.run fuel = .ok scan := by
  cases fuel with
  | zero => rfl
  | succ fuel => rw [Scan.run, if_pos (by simpa using done)]

theorem Scan.run_enough {fuel : Nat} (enough : scan.rest.length ≤ fuel) :
    scan.run fuel = scan.outcome := by
  unfold Scan.outcome
  generalize bound : scan.rest.length = least at enough ⊢
  replace bound := Nat.le_of_eq bound
  induction least generalizing scan fuel with
  | zero =>
      have done : scan.rest = [] := List.eq_nil_of_length_eq_zero (Nat.le_zero.mp bound)
      rw [Scan.run_of_done done, Scan.run_of_done done]
  | succ least ih =>
      rcases Nat.exists_eq_add_of_le' enough with ⟨more, rfl⟩
      by_cases done : scan.rest = []
      · rw [Scan.run_of_done done, Scan.run_of_done done]
      · rw [← Nat.add_assoc, Scan.run_succ done, Scan.run_succ done]
        cases stepped : scan.step with
        | error error => rfl
        | ok next =>
            rcases Scan.passes_step done stepped with ⟨piece, some, passes⟩
            have shorter := passes.shorter some
            exact ih (Nat.le_add_left _ _) (by omega)

theorem Scan.outcome_of_done (done : scan.rest = []) : scan.outcome = .ok scan :=
  Scan.run_of_done done _

theorem Scan.outcome_of_step (stepped : scan.step = .ok next) : scan.outcome = next.outcome := by
  by_cases done : scan.rest = []
  · rw [Scan.step_of_done done] at stepped
    rw [Except.ok.inj stepped]
  · rcases Scan.passes_step done stepped with ⟨piece, some, passes⟩
    have shorter := passes.shorter some
    rcases Nat.exists_eq_add_of_lt shorter with ⟨more, length⟩
    change scan.run scan.rest.length = _
    rw [length, Scan.run_succ done, stepped]
    exact Scan.run_enough (by omega)

theorem Scan.outcome_of_fault {error : LexError} (failed : scan.step = .error error) :
    scan.outcome = .error error := by
  by_cases done : scan.rest = []
  · rw [Scan.step_of_done done] at failed
    cases failed
  · rcases Nat.exists_eq_succ_of_ne_zero (mt List.eq_nil_of_length_eq_zero done) with ⟨more, length⟩
    change scan.run scan.rest.length = _
    rw [length, Scan.run_succ done, failed]
    rfl

/-- Scans that come one after the other. -/
inductive Scan.Reaches : Scan → Scan → Prop
  | here (scan : Scan) : Reaches scan scan
  | step {scan next last : Scan} (unread : scan.rest ≠ []) (stepped : scan.step = .ok next)
      (later : Reaches next last) : Reaches scan last

theorem Scan.Reaches.suffix {last : Scan} (reaches : scan.Reaches last) :
    last.rest <:+ scan.rest := by
  induction reaches with
  | here => exact List.suffix_refl _
  | step unread stepped later ih =>
      rcases Scan.passes_step unread stepped with ⟨piece, -, passes⟩
      exact ih.trans ⟨piece, passes.split.symm⟩

theorem Scan.Reaches.hasRead {last : Scan} {text before : List Char}
    (reaches : scan.Reaches last) (read : scan.HasRead text before) : ∃ front, last.HasRead text front := by
  induction reaches generalizing before with
  | here => exact ⟨before, read⟩
  | step unread stepped later ih =>
      have advances := read.step unread
      rw [stepped] at advances
      cases advances with
      | on onward => exact ih onward

/-- A fault at a stretch of what is still to be read is located there. -/
theorem Scan.HasRead.span_fail {text before passed stretch : List Char}
    (read : scan.HasRead text before) (split : scan.rest = passed ++ (stretch ++ rest))
    (cause : Cause) :
    (scan.fail ⟨cause, passed.length, passed.length + stretch.length⟩).span =
      spanBehind (before ++ passed) stretch := by
  have whole : scan.rest = (passed ++ stretch) ++ rest := by
    rw [split, List.append_assoc]
  have first : scan.rest.take passed.length = passed := by
    rw [split, List.take_left]
  have both : scan.rest.take (passed.length + stretch.length) = passed ++ stretch := by
    rw [whole, ← List.length_append, List.take_left]
  unfold Scan.fail Fault.locate spanBehind
  rw [first, both, read.place, placeAfter_after, placeAfter_after, List.append_assoc]

/-- A scan comes to what a later one comes to. -/
theorem Scan.Reaches.outcome {last : Scan} (reaches : scan.Reaches last) :
    scan.outcome = last.outcome := by
  induction reaches with
  | here => rfl
  | step _ stepped _ ih => exact (Scan.outcome_of_step stepped).trans ih

/-- What the steps of a scan come to. -/
inductive Scan.Ends (scan : Scan) : Except LexError Scan → Prop
  | done {last : Scan} (reaches : scan.Reaches last) (done : last.rest = []) : scan.Ends (.ok last)
  | failed {last : Scan} {error : LexError} (reaches : scan.Reaches last)
      (unread : last.rest ≠ []) (failed : last.step = .error error) : scan.Ends (.error error)

theorem Scan.Ends.behind {outcome : Except LexError Scan} (unread : scan.rest ≠ [])
    (stepped : scan.step = .ok next) (ends : next.Ends outcome) : scan.Ends outcome := by
  cases ends with
  | done reaches done => exact .done (.step unread stepped reaches) done
  | failed reaches unread' failed => exact .failed (.step unread stepped reaches) unread' failed

theorem Scan.ends_outcome (scan : Scan) : scan.Ends scan.outcome := by
  induction size : scan.rest.length using Nat.strongRecOn generalizing scan with
  | _ size ih =>
      subst size
      by_cases done : scan.rest = []
      · rw [Scan.outcome_of_done done]
        exact .done (.here scan) done
      · cases stepped : scan.step with
        | error error =>
            rw [Scan.outcome_of_fault stepped]
            exact .failed (.here scan) done stepped
        | ok next =>
            rcases Scan.passes_step done stepped with ⟨piece, some, passes⟩
            rw [Scan.outcome_of_step stepped]
            exact (ih _ (passes.shorter some) next rfl).behind done stepped

/-- The tokens and switches that the scan of all that is left comes to. -/
def Scan.result (scan : Scan) : Except LexError (List Token × Switches) :=
  scan.outcome.bind Scan.finish

theorem tokenize_eq (switches : Switches) (text : String) :
    tokenize switches text = (Scan.start switches text.toList).result := by
  simp only [tokenize]
  change _ = ((Scan.start switches text.toList).run text.toList.length).bind Scan.finish
  cases (Scan.start switches text.toList).run text.toList.length <;> rfl

theorem tokenize_of_fault {switches : Switches} {text : String} {error : LexError}
    (reaches : (Scan.start switches text.toList).Reaches scan)
    (failed : scan.step = .error error) : tokenize switches text = .error error := by
  rw [tokenize_eq, Scan.result, reaches.outcome, Scan.outcome_of_fault failed]
  rfl

/-! ## What stands before -/

def Token.moved (characters lines : Nat) (token : Token) : Token :=
  { token with span := token.span.moved characters lines }

def LexError.moved (characters lines : Nat) (error : LexError) : LexError :=
  { error with span := error.span.moved characters lines }

/-- The same scan of a text that is preceded by others, with the tokens of those. -/
def Scan.placed (characters lines : Nat) (front : Array Token) (scan : Scan) : Scan where
  rest := scan.rest
  position := scan.position.moved characters lines
  switches := scan.switches
  tokens := front ++ scan.tokens.map (Token.moved characters lines)
  brackets := scan.brackets.map fun entry => (entry.1, entry.2.moved characters lines)

/-- The outcome of the same scan. -/
def placedOutcome (characters lines : Nat) (front : Array Token) (outcome : Except LexError Scan) :
    Except LexError Scan :=
  (outcome.map (Scan.placed characters lines front)).mapError (LexError.moved characters lines)

section Placed

variable {characters lines : Nat} {front : Array Token}

theorem moved_step (position : Source.Position) (c : Char) :
    (position.moved characters lines).step c = (position.step c).moved characters lines := by
  unfold Source.Position.step Source.Position.moved
  split
  · simp only [Source.Position.mk.injEq, and_true]
    omega
  · simp only [Source.Position.mk.injEq, and_true]
    omega

theorem moved_after (position : Source.Position) (text : List Char) :
    (position.moved characters lines).after text = (position.after text).moved characters lines := by
  induction text generalizing position with
  | nil => rfl
  | cons c text ih =>
      rw [Source.Position.after_cons, Source.Position.after_cons, moved_step, ih]

theorem Scan.skip_placed (length : Nat) :
    (scan.placed characters lines front).skip length =
      (scan.skip length).placed characters lines front := by
  unfold Scan.skip Scan.placed
  simp only [moved_after]

theorem Scan.emit_placed (kind : TokenKind) (length : Nat) :
    (scan.placed characters lines front).emit kind length =
      (scan.emit kind length).placed characters lines front := by
  unfold Scan.emit
  rw [Scan.skip_placed]
  simp only [Scan.placed, Scan.skip, Array.map_push, Array.push_append]
  rfl

theorem Scan.fail_placed (fault : Fault) :
    (scan.placed characters lines front).fail fault =
      (scan.fail fault).moved characters lines := by
  unfold Scan.fail Fault.locate Scan.placed
  simp only [moved_after]
  rfl

theorem Scan.cover_placed (part : Part) :
    (scan.placed characters lines front).cover part =
      placedOutcome characters lines front (scan.cover part) := by
  rcases part with ⟨kind, length⟩
  rcases kind with _ | kind
  · exact congrArg Except.ok (Scan.skip_placed length)
  cases kind with
  | opening bracket =>
      unfold Scan.cover
      simp only [Scan.emit_placed]
      rfl
  | closing bracket =>
      unfold Scan.cover
      simp only [Scan.emit_placed, Scan.fail_placed]
      rcases opened : scan.brackets with _ | ⟨entry, outer⟩
      · simp only [Scan.placed, opened]
        rfl
      · simp only [Scan.placed, opened, List.map_cons]
        split
        · rfl
        · rfl
  | _ => exact congrArg Except.ok (Scan.emit_placed _ length)

theorem Scan.coverAll_placed (parts : List Part) :
    (scan.placed characters lines front).coverAll parts =
      placedOutcome characters lines front (scan.coverAll parts) := by
  induction parts generalizing scan with
  | nil => rfl
  | cons part parts ih =>
      rw [Scan.coverAll_cons, Scan.coverAll_cons, Scan.cover_placed]
      cases scan.cover part with
      | error error => rfl
      | ok next => exact ih

/-- Nothing that stands before makes a directive come too late. -/
def Scan.Allows (front : Array Token) (scan : Scan) : Prop :=
  '@' ∉ scan.rest ∨ ∀ token ∈ front, token.kind = .newline

theorem Scan.Passes.allows {piece : List Char} (passes : scan.Passes piece next)
    (allows : scan.Allows front) : next.Allows front := by
  rcases allows with none | early
  · rw [passes.split] at none
    exact Or.inl fun sign => none (List.mem_append_right _ sign)
  · exact Or.inr early

theorem Scan.direct_placed (early : ∀ token ∈ front, token.kind = .newline) :
    (scan.placed characters lines front).direct =
      placedOutcome characters lines front scan.direct := by
  have late : (scan.placed characters lines front).tokens.any (fun token => token.kind ≠ .newline) =
      scan.tokens.any fun token => token.kind ≠ .newline := by
    have none : front.any (fun token => token.kind ≠ .newline) = false := by
      rw [Array.any_eq_false']
      intro token member
      simp [early token member]
    change (front ++ scan.tokens.map (Token.moved characters lines)).any _ = _
    rw [Array.any_append, none, Bool.false_or, Array.any_map]
    rfl
  unfold Scan.direct
  rw [late, Scan.fail_placed]
  split
  · rfl
  · change _ = placedOutcome characters lines front _
    have same : readDirective (scan.placed characters lines front).switches
        (scan.placed characters lines front).rest = readDirective scan.switches scan.rest := rfl
    rw [same]
    cases readDirective scan.switches scan.rest with
    | error fault => exact congrArg Except.error (Scan.fail_placed fault)
    | ok read =>
        simp only [Scan.skip_placed]
        rfl

theorem Scan.step_placed (allows : scan.Allows front) :
    (scan.placed characters lines front).step =
      placedOutcome characters lines front scan.step := by
  rcases split : scan.rest with _ | ⟨c, rest⟩
  · have placed : (scan.placed characters lines front).rest = [] := split
    rw [Scan.step_of_done placed, Scan.step_of_done split]
    rfl
  have placed : (scan.placed characters lines front).rest = c :: rest := split
  by_cases sign : c = '@'
  · subst sign
    rw [Scan.step_of_sign placed, Scan.step_of_sign split]
    rcases allows with none | early
    · rw [split] at none
      exact absurd List.mem_cons_self none
    · exact Scan.direct_placed early
  · cases read : readPiece scan.switches c scan.rest with
    | error fault =>
        rw [Scan.step_of_fault placed sign read, Scan.step_of_fault split sign read]
        exact congrArg Except.error (Scan.fail_placed fault)
    | ok parts =>
        rw [Scan.step_of_piece placed sign read, Scan.step_of_piece split sign read]
        exact Scan.coverAll_placed parts

/-- The outcome of a scan does not depend on what stands before its text. -/
theorem Scan.outcome_placed (allows : scan.Allows front) :
    (scan.placed characters lines front).outcome =
      placedOutcome characters lines front scan.outcome := by
  induction size : scan.rest.length using Nat.strongRecOn generalizing scan with
  | _ size ih =>
      subst size
      by_cases done : scan.rest = []
      · have placed : (scan.placed characters lines front).rest = [] := done
        rw [Scan.outcome_of_done done, Scan.outcome_of_done placed]
        rfl
      · have turn : (scan.placed characters lines front).step = _ := Scan.step_placed allows
        cases stepped : scan.step with
        | error error =>
            rw [stepped] at turn
            rw [Scan.outcome_of_fault stepped, Scan.outcome_of_fault turn]
            rfl
        | ok next =>
            rw [stepped] at turn
            rcases Scan.passes_step done stepped with ⟨piece, some, passes⟩
            rw [Scan.outcome_of_step stepped, Scan.outcome_of_step turn]
            exact ih _ (passes.shorter some) (passes.allows allows) rfl

theorem Scan.finish_placed :
    (scan.placed characters lines front).finish =
      (scan.finish.map fun read =>
        (front.toList ++ read.1.map (Token.moved characters lines), read.2)).mapError
        (LexError.moved characters lines) := by
  unfold Scan.finish
  simp only [Scan.placed, List.getLast?_map]
  cases scan.brackets.getLast? with
  | none =>
      simp only [Option.map_none, Array.toList_append, Array.toList_map, List.append_assoc]
      simp only [Except.map, Except.mapError, List.map_append]
      rfl
  | some entry =>
      simp only [Option.map_some, moved_step]
      rfl

/-- The tokens of a text do not depend on what stands before it, except for their places. -/
theorem Scan.result_placed (allows : scan.Allows front) :
    (scan.placed characters lines front).result =
      (scan.result.map fun read =>
        (front.toList ++ read.1.map (Token.moved characters lines), read.2)).mapError
        (LexError.moved characters lines) := by
  unfold Scan.result
  rw [Scan.outcome_placed allows]
  cases scan.outcome with
  | error error => rfl
  | ok final => exact Scan.finish_placed

end Placed

end Lexical
end Scripting
