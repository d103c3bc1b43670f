import Scripting.Proofs.Lexemes

namespace Scripting
namespace Lexical

/-!
The tokens of a text cover it faithfully.

A scan leaves nothing of the text out: what it has read is a sequence of tokens, each
spelt by the characters of its span, and of pieces that make no token.  This is kept by
every step, so it holds of the whole text at the end.  What a reader of tokens relies on
follows from it: where each token stands, that tokens do not overlap, and what may stand
between them.
-/

/-! ## Places -/

/--
The place behind the given characters: their number, the line feeds among them, and
those since the last line feed.
-/
def placeAfter (before : List Char) : Source.Position where
  index := before.length
  line := before.count '\n'
  column := (before.reverse.takeWhile (· ≠ '\n')).length

theorem placeAfter_step (before : List Char) (c : Char) :
    (placeAfter before).step c = placeAfter (before ++ [c]) := by
  by_cases newline : c = '\n'
  · subst newline
    simp [placeAfter, Source.Position.step]
  · simp [placeAfter, Source.Position.step, newline]

theorem placeAfter_after (before piece : List Char) :
    (placeAfter before).after piece = placeAfter (before ++ piece) := by
  induction piece generalizing before with
  | nil => rw [Source.Position.after_nil, List.append_nil]
  | cons c piece ih =>
      rw [Source.Position.after_cons, placeAfter_step, ih, List.append_assoc, List.singleton_append]

/-- The span of some characters behind others. -/
def spanBehind (before lexeme : List Char) : Source.Span :=
  ⟨placeAfter before, placeAfter (before ++ lexeme)⟩

/-- A stretch of at least one character of a text. -/
def Located (text : List Char) (span : Source.Span) : Prop :=
  ∃ before stretch after, text = before ++ (stretch ++ after) ∧ stretch ≠ [] ∧
    span = spanBehind before stretch

/-! ## Segmentation -/

/--
The rest of a text after what has been read of it, with its tokens.  Every character of
the rest belongs to a token that it spells or to a piece that makes none.
-/
inductive Segmented : List Char → List Char → List Token → Prop
  | finish (before : List Char) :
      Segmented before [] [⟨.endOfFile, spanBehind before []⟩]
  | skip {before piece rest : List Char} {tokens : List Token} (skipped : Skipped piece)
      (later : Segmented (before ++ piece) rest tokens) :
      Segmented before (piece ++ rest) tokens
  | token {before lexeme rest : List Char} {kind : TokenKind} {tokens : List Token}
      (spelt : Spells lexeme rest kind) (later : Segmented (before ++ lexeme) rest tokens) :
      Segmented before (lexeme ++ rest) (⟨kind, spanBehind before lexeme⟩ :: tokens)

/-- A token stands in a text where its span says. -/
def Token.StandsIn (token : Token) (text : List Char) : Prop :=
  ∃ before lexeme after, text = before ++ (lexeme ++ after) ∧
    token.span = spanBehind before lexeme ∧ Spells lexeme after token.kind

/-- The token covers the character with the given index. -/
def Token.CoversAt (token : Token) (index : Nat) : Prop :=
  token.span.start.index ≤ index ∧ index < token.span.stop.index

/-- The character with the given index is part of a piece of the text that makes no token. -/
def SkippedAt (text : List Char) (index : Nat) : Prop :=
  ∃ before piece after, text = before ++ (piece ++ after) ∧ Skipped piece ∧
    before.length ≤ index ∧ index < before.length + piece.length

/-- The tokens of a text, with the end of the file behind them. -/
structure Faithful (text : List Char) (tokens : List Token) : Prop where
  segmented : Segmented [] text tokens
  ends : ∃ body, tokens = body ++ [⟨.endOfFile, spanBehind text []⟩] ∧
    ∀ token ∈ body, token.kind ≠ .endOfFile ∧ token.StandsIn text ∧
      token.span.start.index < token.span.stop.index
  ordered : tokens.Pairwise fun first second => first.span.stop.index ≤ second.span.start.index
  covered : ∀ index < text.length,
    (∃ token ∈ tokens, token.CoversAt index) ∨ SkippedAt text index

/-! ### What a segmentation says of its tokens -/

theorem Quotation.nonempty {lexeme text : List Char} (quotation : Quotation lexeme text) :
    lexeme ≠ [] := by
  cases quotation with
  | single literal =>
      cases literal
      exact List.cons_ne_nil _ _
  | merged literal _ _ =>
      cases literal
      exact List.cons_ne_nil _ _

theorem IsWord.nonempty {word rest : List Char} (isWord : IsWord word rest) : word ≠ [] := by
  obtain ⟨c, first, -⟩ := isWord.starts
  rintro rfl
  cases first

theorem Symbol.spelling_nonempty (symbol : Symbol) : symbol.spelling.toList ≠ [] := by
  cases symbol <;> decide

theorem Spells.nonempty {lexeme rest : List Char} {kind : TokenKind}
    (spelt : Spells lexeme rest kind) : lexeme ≠ [] := by
  cases kind with
  | int value =>
      obtain ⟨base, run, integer, -⟩ := spelt
      exact integer.nonempty
  | float value =>
      obtain ⟨whole, fraction, rfl, -⟩ := spelt
      exact List.append_ne_nil_of_right_ne_nil _ (List.cons_ne_nil _ _)
  | text value => exact Quotation.nonempty spelt
  | identifier name => exact spelt.2.1.nonempty
  | keyword word => exact spelt.2.nonempty
  | exponent => rcases spelt with rfl | rfl <;> exact List.cons_ne_nil _ _
  | symbol mark =>
      rw [spelt.1]
      exact mark.spelling_nonempty
  | opening bracket =>
      rw [show lexeme = _ from spelt]
      exact List.cons_ne_nil _ _
  | closing bracket =>
      rw [show lexeme = _ from spelt]
      exact List.cons_ne_nil _ _
  | newline => rcases spelt with rfl | rfl <;> exact List.cons_ne_nil _ _
  | endOfFile => exact absurd spelt id

theorem Skipped.nonempty {piece : List Char} (skipped : Skipped piece) : piece ≠ [] := by
  cases skipped with
  | comment comment => cases comment <;> exact List.cons_ne_nil _ _
  | _ => exact List.cons_ne_nil _ _

/-- Each token stands in the text and has at least one character, but for the last one. -/
theorem Segmented.ends {before rest : List Char} {tokens : List Token}
    (segmented : Segmented before rest tokens) :
    ∃ body, tokens = body ++ [⟨.endOfFile, spanBehind (before ++ rest) []⟩] ∧
      ∀ token ∈ body, token.kind ≠ .endOfFile ∧ token.StandsIn (before ++ rest) ∧
        token.span.start.index < token.span.stop.index := by
  induction segmented with
  | finish before => exact ⟨[], by rw [List.append_nil]; rfl, by simp⟩
  | skip skipped later ih =>
      rw [List.append_assoc] at ih
      exact ih
  | @token before lexeme rest kind tokens spelt later ih =>
      obtain ⟨body, rfl, stand⟩ := ih
      rw [List.append_assoc] at stand ⊢
      refine ⟨⟨kind, spanBehind before lexeme⟩ :: body, rfl, ?_⟩
      intro token member
      rcases List.mem_cons.mp member with rfl | member
      · refine ⟨?_, ⟨before, lexeme, rest, rfl, rfl, spelt⟩, ?_⟩
        · rintro rfl
          exact spelt
        · change before.length < (before ++ lexeme).length
          have positive := List.length_pos_iff.mpr spelt.nonempty
          rw [List.length_append]
          omega
      · exact stand token member

/-- Tokens of the rest of a text start behind what has been read. -/
theorem Segmented.starts {before rest : List Char} {tokens : List Token}
    (segmented : Segmented before rest tokens) :
    ∀ token ∈ tokens, before.length ≤ token.span.start.index := by
  induction segmented with
  | finish before =>
      intro token member
      rw [List.mem_singleton.mp member]
      exact Nat.le_refl _
  | skip skipped later ih =>
      intro token member
      have further := ih token member
      rw [List.length_append] at further
      omega
  | token spelt later ih =>
      intro token member
      rcases List.mem_cons.mp member with rfl | member
      · exact Nat.le_refl _
      · have further := ih token member
        rw [List.length_append] at further
        omega

theorem Segmented.ordered {before rest : List Char} {tokens : List Token}
    (segmented : Segmented before rest tokens) :
    tokens.Pairwise fun first second => first.span.stop.index ≤ second.span.start.index := by
  induction segmented with
  | finish before => exact List.pairwise_singleton _ _
  | skip skipped later ih => exact ih
  | token spelt later ih => exact List.pairwise_cons.mpr ⟨later.starts, ih⟩

theorem Segmented.covered {before rest : List Char} {tokens : List Token}
    (segmented : Segmented before rest tokens) (index : Nat) (behind : before.length ≤ index)
    (inside : index < (before ++ rest).length) :
    (∃ token ∈ tokens, token.CoversAt index) ∨ SkippedAt (before ++ rest) index := by
  induction segmented with
  | finish before =>
      rw [List.append_nil] at inside
      omega
  | @skip before piece rest tokens skipped later ih =>
      by_cases here : index < (before ++ piece).length
      · rw [List.length_append] at here
        exact Or.inr ⟨before, piece, rest, rfl, skipped, behind, here⟩
      · rw [List.append_assoc] at ih
        exact ih (Nat.le_of_not_lt here) inside
  | @token before lexeme rest kind tokens spelt later ih =>
      by_cases here : index < (before ++ lexeme).length
      · exact Or.inl ⟨_, List.mem_cons_self, behind, here⟩
      · rw [List.append_assoc] at ih
        rcases ih (Nat.le_of_not_lt here) inside with ⟨token, member, covers⟩ | skipped
        · exact Or.inl ⟨token, List.mem_cons_of_mem _ member, covers⟩
        · exact Or.inr skipped

theorem Segmented.faithful {text : List Char} {tokens : List Token}
    (segmented : Segmented [] text tokens) : Faithful text tokens where
  segmented := segmented
  ends := segmented.ends
  ordered := segmented.ordered
  covered := fun index inside => segmented.covered index (Nat.zero_le _) inside

/-! ## The scan -/

/-- A scan that has read the given characters of a text. -/
structure Scan.HasRead (text before : List Char) (scan : Scan) : Prop where
  split : text = before ++ scan.rest
  place : scan.position = placeAfter before
  resumes : ∀ tokens, Segmented before scan.rest tokens →
    Segmented [] text (scan.tokens.toList ++ tokens)
  /-- Open brackets stand where they are remembered. -/
  opened : ∀ entry ∈ scan.brackets, ∃ front behind,
    text = front ++ (entry.1.opening :: behind) ∧ entry.2 = placeAfter front

theorem Scan.hasRead_start (switches : Switches) (text : List Char) :
    (Scan.start switches text).HasRead text [] where
  split := rfl
  place := rfl
  resumes := fun _ segmented => segmented
  opened := fun _ none => absurd none List.not_mem_nil

variable {text before : List Char} {scan : Scan}

/-- A fault that points at characters there are is located in the text. -/
theorem Scan.HasRead.located (read : scan.HasRead text before) {fault : Fault}
    (within : fault.Within scan.rest) : Located text (scan.fail fault).span := by
  obtain ⟨some, bound⟩ := within
  have first : scan.rest.take fault.start = (scan.rest.take fault.stop).take fault.start := by
    rw [List.take_take, Nat.min_eq_left (Nat.le_of_lt some)]
  refine ⟨before ++ scan.rest.take fault.start,
    (scan.rest.take fault.stop).drop fault.start, scan.rest.drop fault.stop, ?_, ?_, ?_⟩
  · rw [read.split, List.append_assoc, ← List.append_assoc (scan.rest.take fault.start), first,
      List.take_append_drop, List.take_append_drop]
  · apply List.ne_nil_of_length_pos
    rw [List.length_drop, List.length_take]
    omega
  · unfold spanBehind Scan.fail Fault.locate
    rw [read.place, placeAfter_after, placeAfter_after, List.append_assoc before, first,
      List.take_append_drop]

theorem Scan.HasRead.skip (read : scan.HasRead text before) {piece rest : List Char}
    (split : scan.rest = piece ++ rest) (skipped : Skipped piece) :
    (scan.skip piece.length).HasRead text (before ++ piece) ∧
      (scan.skip piece.length).rest = rest := by
  have left : (scan.skip piece.length).rest = rest := by
    change scan.rest.drop piece.length = rest
    rw [split, List.drop_left]
  refine ⟨⟨?_, ?_, ?_, read.opened⟩, left⟩
  · rw [left, List.append_assoc, ← split, read.split]
  · change scan.position.after (scan.rest.take piece.length) = _
    rw [split, List.take_left, read.place, placeAfter_after]
  · intro tokens segmented
    rw [left] at segmented
    exact read.resumes tokens (split ▸ .skip skipped segmented)

theorem Scan.HasRead.emit (read : scan.HasRead text before) {kind : TokenKind}
    {lexeme rest : List Char} (split : scan.rest = lexeme ++ rest)
    (spelt : Spells lexeme rest kind) :
    (scan.emit kind lexeme.length).HasRead text (before ++ lexeme) ∧
      (scan.emit kind lexeme.length).rest = rest := by
  have left : (scan.emit kind lexeme.length).rest = rest := by
    change scan.rest.drop lexeme.length = rest
    rw [split, List.drop_left]
  have stop : (scan.emit kind lexeme.length).position = placeAfter (before ++ lexeme) := by
    change scan.position.after (scan.rest.take lexeme.length) = _
    rw [split, List.take_left, read.place, placeAfter_after]
  refine ⟨⟨?_, stop, ?_, read.opened⟩, left⟩
  · rw [left, List.append_assoc, ← split, read.split]
  · intro tokens segmented
    rw [left] at segmented
    have pushed : (scan.emit kind lexeme.length).tokens.toList ++ tokens =
        scan.tokens.toList ++ (⟨kind, spanBehind before lexeme⟩ :: tokens) := by
      change (scan.tokens.push ⟨kind, ⟨scan.position, (scan.emit kind lexeme.length).position⟩⟩).toList
        ++ tokens = _
      rw [stop, read.place, Array.toList_push, List.append_assoc, List.singleton_append]
      rfl
    rw [pushed]
    exact read.resumes _ (split ▸ .token spelt segmented)

/-- What the scan may come to: it has read on, or it points at characters of the text. -/
inductive Advances (text : List Char) (good : Scan → Prop) : Except LexError Scan → Prop
  | on {before : List Char} {next : Scan} (read : next.HasRead text before) (holds : good next) :
      Advances text good (.ok next)
  | fault {error : LexError} (located : Located text error.span) :
      Advances text good (.error error)

theorem Scan.HasRead.cover_skip (read : scan.HasRead text before) {piece rest : List Char}
    (split : scan.rest = piece ++ rest) (skipped : Skipped piece) :
    Advances text (fun next => next.rest = rest) (scan.cover ⟨none, piece.length⟩) := by
  obtain ⟨hasRead, left⟩ := read.skip split skipped
  exact .on hasRead left

theorem Scan.HasRead.cover_token (read : scan.HasRead text before) {kind : TokenKind}
    {lexeme rest : List Char} (split : scan.rest = lexeme ++ rest)
    (spelt : Spells lexeme rest kind) :
    Advances text (fun next => next.rest = rest) (scan.cover ⟨some kind, lexeme.length⟩) := by
  obtain ⟨hasRead, left⟩ := read.emit split spelt
  cases kind with
  | opening bracket =>
      refine .on ⟨hasRead.split, hasRead.place, hasRead.resumes, ?_⟩ left
      intro entry member
      rcases List.mem_cons.mp member with rfl | earlier
      · refine ⟨before, rest, ?_, read.place⟩
        rw [read.split, split, show lexeme = [bracket.opening] from spelt]
        rfl
      · exact read.opened entry earlier
  | closing bracket =>
      have within : ∀ cause, Fault.Within ⟨cause, 0, 1⟩ scan.rest := by
        intro cause
        refine ⟨Nat.one_pos, ?_⟩
        rw [split, show lexeme = [bracket.closing] from spelt]
        exact Nat.succ_pos _
      unfold Scan.cover
      simp only
      split
      · exact .fault (read.located (within _))
      · rename_i opened position outer brackets
        split
        · refine .on ⟨hasRead.split, hasRead.place, hasRead.resumes, ?_⟩ left
          intro entry member
          exact read.opened entry (brackets ▸ List.mem_cons_of_mem _ member)
        · exact .fault (read.located (within _))
  | _ => exact .on hasRead left

theorem Scan.HasRead.coverAll (read : scan.HasRead text before) {parts : List Part}
    (covers : Covers parts scan.rest) :
    Advances text (fun next => next.rest.length + parts.length ≤ scan.rest.length)
      (scan.coverAll parts) := by
  induction parts generalizing scan before with
  | nil => exact .on read (Nat.le_refl _)
  | cons part parts ih =>
      -- One part is covered, and it has at least one character.
      obtain ⟨rest, shorter, later, first⟩ : ∃ rest, rest.length < scan.rest.length ∧
          Covers parts rest ∧ Advances text (fun next => next.rest = rest) (scan.cover part) := by
        generalize unread : scan.rest = covered at covers
        cases covers with
        | @skip piece rest parts skipped later =>
            have positive := List.length_pos_iff.mpr skipped.nonempty
            refine ⟨rest, ?_, later, read.cover_skip unread skipped⟩
            rw [List.length_append]
            omega
        | @token kind lexeme rest parts spelt later =>
            have positive := List.length_pos_iff.mpr spelt.nonempty
            refine ⟨rest, ?_, later, read.cover_token unread spelt⟩
            rw [List.length_append]
            omega
      unfold Scan.coverAll
      generalize scan.cover part = answer at first
      cases first with
      | fault located => exact .fault located
      | @on before next hasRead left =>
          subst left
          have others := ih hasRead later
          simp only
          generalize next.coverAll parts = answer at others
          cases others with
          | fault located => exact .fault located
          | on hasRead bound =>
              refine .on hasRead ?_
              rw [List.length_cons]
              omega

theorem Scan.HasRead.direct (read : scan.HasRead text before) {behind : List Char}
    (sign : scan.rest = '@' :: behind) :
    Advances text (fun next => next.rest.length < scan.rest.length) scan.direct := by
  unfold Scan.direct
  split
  · refine .fault (read.located ⟨Nat.one_pos, ?_⟩)
    rw [sign]
    exact Nat.succ_pos _
  · have answers := readDirective_answers scan.switches behind
    rw [← sign] at answers
    generalize readDirective scan.switches scan.rest = answer at answers
    generalize unread : scan.rest = rest at answers
    cases answers with
    | fault within => exact .fault (read.located (unread ▸ within))
    | @directive switches piece after skipped =>
        obtain ⟨hasRead, left⟩ := read.skip unread skipped
        refine .on ⟨hasRead.split, hasRead.place, hasRead.resumes, hasRead.opened⟩ ?_
        change (scan.skip piece.length).rest.length < _
        have positive := List.length_pos_iff.mpr skipped.nonempty
        rw [left, List.length_append]
        omega

theorem Scan.HasRead.step (read : scan.HasRead text before) (unread : scan.rest ≠ []) :
    Advances text (fun next => next.rest.length < scan.rest.length) scan.step := by
  unfold Scan.step
  split
  · rename_i none
    exact absurd none unread
  · rename_i c behind rest
    split
    · rename_i sign
      subst sign
      exact read.direct rest
    · have answers := readPiece_answers scan.switches c behind
      rw [← rest] at answers
      generalize readPiece scan.switches c scan.rest = answer at answers
      cases answer with
      | error fault => exact .fault (read.located answers)
      | ok parts =>
          obtain ⟨some, covers⟩ := answers
          have positive := List.length_pos_iff.mpr some
          have covered := read.coverAll covers
          simp only
          generalize scan.coverAll parts = answer at covered
          cases covered with
          | fault located => exact .fault located
          | on hasRead bound =>
              refine .on hasRead ?_
              omega

/-- Each step reads at least one character, so the scan comes to the end of the text. -/
theorem Scan.HasRead.run (read : scan.HasRead text before) {fuel : Nat}
    (enough : scan.rest.length ≤ fuel) :
    Advances text (fun final => final.rest = []) (scan.run fuel) := by
  induction fuel generalizing scan before with
  | zero => exact .on read (List.eq_nil_of_length_eq_zero (Nat.le_zero.mp enough))
  | succ fuel ih =>
      unfold Scan.run
      split
      · rename_i done
        exact .on read (List.isEmpty_iff.mp done)
      · rename_i unread
        have stepped := read.step (by simpa using unread)
        generalize scan.step = answer at stepped
        cases stepped with
        | fault located => exact .fault located
        | on hasRead shorter => exact ih hasRead (by omega)

/-- What may come of reading a text as tokens. -/
inductive Tokenized (text : List Char) : Except LexError (List Token × Switches) → Prop
  | tokens {tokens : List Token} {switches : Switches} (faithful : Faithful text tokens) :
      Tokenized text (.ok (tokens, switches))
  | fault {error : LexError} (located : Located text error.span) :
      Tokenized text (.error error)

theorem Scan.HasRead.finish (read : scan.HasRead text before) (done : scan.rest = []) :
    Tokenized text scan.finish := by
  unfold Scan.finish
  cases open? : scan.brackets.getLast? with
  | none =>
      refine .tokens (Segmented.faithful (read.resumes _ ?_))
      have finished := Segmented.finish before
      unfold spanBehind at finished
      rw [List.append_nil, ← read.place] at finished
      rw [done]
      exact finished
  | some entry =>
      obtain ⟨front, behind, split, place⟩ := read.opened entry (List.mem_of_getLast? open?)
      refine .fault ⟨front, [entry.1.opening], behind, split, List.cons_ne_nil _ _, ?_⟩
      change (⟨entry.2, entry.2.step entry.1.opening⟩ : Source.Span) = _
      rw [place, placeAfter_step]
      rfl

/-- The tokens that a text is read as cover it. -/
theorem faithful_of_tokenize {switches next : Switches} {text : String} {tokens : List Token}
    (lexed : tokenize switches text = .ok (tokens, next)) : Faithful text.toList tokens := by
  have run := (Scan.hasRead_start switches text.toList).run (Nat.le_refl text.toList.length)
  simp only [tokenize] at lexed
  generalize (Scan.start switches text.toList).run text.toList.length = answer at run lexed
  cases run with
  | fault located => cases lexed
  | on read done =>
      have finished : Tokenized text.toList (.ok (tokens, next)) := by
        rw [← lexed]
        exact read.finish done
      cases finished with
      | tokens faithful => exact faithful

/--
Reading a text as tokens either gives tokens that cover it faithfully or points at a
stretch of at least one of its characters.
-/
theorem tokenize_covers_text (switches : Switches) (text : String) :
    Tokenized text.toList (tokenize switches text) := by
  have run := (Scan.hasRead_start switches text.toList).run (Nat.le_refl text.toList.length)
  simp only [tokenize]
  generalize (Scan.start switches text.toList).run text.toList.length = answer at run
  cases run with
  | fault located => exact .fault located
  | on read done => exact read.finish done

end Lexical
end Scripting
