import Scripting.Proofs.LineSeams

namespace Scripting
namespace Lexical

/-!
A text read in pieces.

A scan of a text that ends in a line feed takes the same steps when more text follows, and
from its end on the rest is read as a text of its own.  The one exception is a string literal
that joins another one behind the end, and then both must be string literals that only gaps
and line feeds separate.  Even then a fault in the second text is found in both ways of
reading.  So a program that is typed in line by line gives the tokens of the whole program.
-/

variable {scan next final : Scan} {rest after later : List Char}

/-! ## Literals before the end of a text -/

theorem Gap.append {first second : List Char} (filled : Gap first) (filled' : Gap second) :
    Gap (first ++ second) := by
  induction filled with
  | nothing => exact filled'
  | blank blank later ih => exact .blank blank ih
  | line within later ih =>
      rw [List.cons_append, List.append_assoc, List.cons_append]
      exact .line within ih
  | block closed later ih =>
      rw [List.cons_append, List.cons_append, List.append_assoc]
      exact .block closed ih

theorem opensLiteral_append (some : rest ≠ []) (later : List Char) :
    opensLiteral (rest ++ later) = opensLiteral rest := by
  rcases rest with _ | ⟨c, rest⟩
  · exact absurd rfl some
  · rfl

/-- What is no trivia is none either if more text follows, unless it opens a comment. -/
theorem triviaLength_followed (stops : triviaLength rest = 0) (ends : EndsLine rest)
    (closed : opensComment rest = true → blockCommentLength? rest ≠ none) (later : List Char) :
    triviaLength (rest ++ later) = 0 := by
  rcases rest with _ | ⟨c, rest⟩
  · exact absurd rfl ends.ne_nil
  rcases triviaLength_cases c (rest ++ later) with none | blank | rfl | ⟨tail, after, split, found⟩
  · exact none
  · rw [triviaLength_blank blank] at stops
    omega
  · rw [triviaLength_hash] at stops
    omega
  · have opens : opensComment (c :: rest) = true := by
      rw [← opensComment_followed ends later, List.cons_append, split]
      rfl
    rcases Option.ne_none_iff_exists'.mp (closed opens) with ⟨length, inside⟩
    rcases Comment.of_blockCommentLength? opens inside with ⟨piece, left, same, -, comment⟩
    cases comment with
    | line within =>
        rw [same] at opens
        cases opens
    | block closed =>
        rw [same, List.cons_append, List.cons_append, triviaLength_block closed] at stops
        omega

/-- No block comment is left open behind the gap at the head of a text. -/
def Settled (rest : List Char) : Prop :=
  ∀ gap after, rest = gap ++ after → Gap gap → opensComment after = true →
    blockCommentLength? after ≠ none

theorem Chained_Chained {text others : List Char} {length covered : Nat}
    {following : Except Fault (List Char × Nat)} :
    Chained text length (Chained others covered following) =
      Chained (text ++ others) (length + covered) following := by
  cases following with
  | ok literals => simp only [Chained, Except.map, Except.mapError, List.append_assoc, Nat.add_assoc]
  | error fault =>
      simp only [Chained, Except.map, Except.mapError, Fault.later, Nat.add_assoc,
        Nat.add_comm length covered]

/-- A literal that has been read ends by its quote and not by a line feed. -/
theorem readLiteral_split {escapes : Bool} {text : List Char} {length : Nat}
    (opens : opensLiteral rest = true) (read : readLiteral escapes rest = .ok (text, length)) :
    ∃ lexeme after, rest = lexeme ++ after ∧ lexeme.length = length ∧ lexeme ≠ [] ∧
      ¬ EndsLine lexeme := by
  rcases readLiteral_body opens read with
    ⟨opening, closing, written, after, rfl, quotes, -, rfl⟩
  refine ⟨opening :: (written ++ [closing]), after, by simp, by simp, List.cons_ne_nil _ _, ?_⟩
  intro ends
  have whole : EndsLine ((opening :: written) ++ [closing]) := ends
  have last := whole.behind (List.cons_ne_nil _ _)
  rcases closingQuote?_cases quotes with ⟨-, rfl⟩ | ⟨-, rfl⟩ | ⟨-, rfl⟩ <;> cases last

/-- How the literals at the head of a text are read if more text follows its last line. -/
inductive ChainFollowed (escapes : Bool) (rest later text : List Char) (length : Nat) : Prop
  | same (read : readChain escapes (rest ++ later) = .ok (text, length))
  | joined {lexeme left gap after : List Char} (split : rest = lexeme ++ left)
      (covered : lexeme.length = length) (toEnd : Gap left) (splitLater : later = gap ++ after)
      (filled : Gap gap) (opens : opensLiteral after = true)
      (read : readChain escapes (rest ++ later) =
        Chained text (rest ++ gap).length (readChain escapes after))

/-- A literal and a gap in front of literals that are followed by more text. -/
theorem ChainFollowed.behind {escapes : Bool} {front left text others : List Char} {covered : Nat}
    (followed : ChainFollowed escapes left later others covered)
    (chained : readChain escapes (front ++ (left ++ later)) =
      Chained text front.length (readChain escapes (left ++ later))) :
    ChainFollowed escapes (front ++ left) later (text ++ others) (front.length + covered) := by
  cases followed with
  | same onward =>
      refine .same ?_
      rw [List.append_assoc, chained, onward]
      rfl
  | @joined lexeme left gap after split covered toEnd splitLater filled opens onward =>
      have splitAll : front ++ (lexeme ++ left) = front ++ lexeme ++ left :=
        (List.append_assoc front lexeme left).symm
      subst split
      refine .joined splitAll ?_ toEnd splitLater filled opens ?_
      · rw [List.length_append, covered]
      · rw [List.append_assoc, chained, onward, Chained_Chained]
        simp only [List.length_append, Nat.add_assoc]

/-- The last literal before the end of a text, if the text behind it is a gap. -/
theorem readChain_atEnd {escapes : Bool} {lexeme left text : List Char}
    (opens : opensLiteral (lexeme ++ left) = true) (toEnd : Gap left)
    (read : readLiteral escapes (lexeme ++ (left ++ later)) = .ok (text, lexeme.length)) :
    ChainFollowed escapes (lexeme ++ left) later text lexeme.length := by
  have counted := toEnd.triviaLength_append later
  cases again : opensLiteral (later.drop (triviaLength later)) with
  | false =>
      have alone : opensLiteral ((left ++ later).drop (triviaLength (left ++ later))) = false := by
        rw [counted, ← List.drop_drop, List.drop_left]
        exact again
      refine .same ?_
      rw [List.append_assoc]
      exact readChain_alone read alone
  | true =>
      rcases Gap.of_opensLiteral again with ⟨gap, after, rfl, filled, opensAfter⟩
      have opensAll : opensLiteral (lexeme ++ ((left ++ gap) ++ after)) = true := by
        rw [List.append_assoc, ← List.append_assoc,
          opensLiteral_append (opensLiteral_ne_nil opens)]
        exact opens
      rw [← List.append_assoc left] at read
      have chained := readChain_again opensAll read (toEnd.append filled) opensAfter
      refine .joined rfl rfl toEnd rfl filled opensAfter ?_
      rw [List.append_assoc, List.append_assoc, ← List.append_assoc left, chained]

/-- The last literal of a text, whatever stands between it and the end of the text. -/
theorem readChain_lastFollowed {escapes : Bool} {lexeme gap left text : List Char}
    (opens : opensLiteral (lexeme ++ (gap ++ left)) = true) (filled : Gap gap)
    (stops : triviaLength left = 0) (alone : opensLiteral left = false)
    (ends : EndsLine (gap ++ left)) (settled : Settled (gap ++ left))
    (read : readLiteral escapes (lexeme ++ (gap ++ (left ++ later))) = .ok (text, lexeme.length)) :
    ChainFollowed escapes (lexeme ++ (gap ++ left)) later text lexeme.length := by
  by_cases atEnd : left = []
  · subst atEnd
    rw [List.append_nil] at opens ⊢
    exact readChain_atEnd opens filled read
  · -- Something else stands behind the gap, and it still does.
    have closed := settled gap left rfl filled
    have stopsFollowed := triviaLength_followed stops (ends.behind atEnd) closed later
    refine .same ?_
    rw [List.append_assoc, List.append_assoc]
    apply readChain_alone read
    rw [filled.triviaLength_append, stopsFollowed, Nat.add_zero, List.drop_left,
      opensLiteral_append atEnd, alone]

theorem readChain_followed {escapes : Bool} {text : List Char} {length : Nat}
    (opens : opensLiteral rest = true) (ends : EndsLine rest)
    (read : readChain escapes rest = .ok (text, length)) (settled : Settled (rest.drop length))
    (later : List Char) : ChainFollowed escapes rest later text length := by
  induction size : rest.length using Nat.strongRecOn generalizing rest text length with
  | _ size ih =>
      subst size
      cases first : readLiteral escapes rest with
      | error fault =>
          rw [readChain_of_fault first] at read
          cases read
      | ok literal =>
          rcases literal with ⟨firstText, firstLength⟩
          have followed := readLiteral_followed opens first later
          rcases readLiteral_split opens first with ⟨lexeme, behind, rfl, rfl, some, notFeed⟩
          have endsBehind : EndsLine behind := by
            apply ends.behind
            rintro rfl
            rw [List.append_nil] at ends
            exact notFeed ends
          rcases Gap.of_triviaLength behind (Or.inl endsBehind) with ⟨gap, left, rfl, stops, filled⟩
          rw [List.append_assoc, List.append_assoc] at followed
          have opensFollowed : opensLiteral (lexeme ++ (gap ++ (left ++ later))) = true := by
            rw [← List.append_assoc gap, ← List.append_assoc lexeme,
              opensLiteral_append (opensLiteral_ne_nil opens)]
            exact opens
          have counted : triviaLength (gap ++ left) = gap.length := by
            rw [filled.triviaLength_append, stops, Nat.add_zero]
          cases again : opensLiteral left with
          | true =>
              -- Another literal of the same text follows, and the others from there on.
              have leftSome := opensLiteral_ne_nil again
              have againFollowed : opensLiteral (left ++ later) = true := by
                rw [opensLiteral_append leftSome, again]
              have chained := readChain_again opens first filled again
              have chainedFollowed := readChain_again opensFollowed followed filled againFollowed
              rw [chained] at read
              cases others : readChain escapes left with
              | error fault =>
                  rw [others] at read
                  cases read
              | ok literals =>
                  rcases literals with ⟨othersText, covered⟩
                  rw [others] at read
                  cases read
                  have dropped : (lexeme ++ (gap ++ left)).drop ((lexeme ++ gap).length + covered) =
                      left.drop covered := by
                    rw [← List.append_assoc, ← List.drop_drop, List.drop_left]
                  rw [dropped] at settled
                  have shorter : left.length < (lexeme ++ (gap ++ left)).length := by
                    have positive := List.length_pos_iff.mpr some
                    simp only [List.length_append]
                    omega
                  have onward := ih _ shorter again (endsBehind.behind leftSome) others settled rfl
                  rw [← List.append_assoc] at chainedFollowed ⊢
                  exact onward.behind chainedFollowed
          | false =>
              have alone : opensLiteral ((gap ++ left).drop (triviaLength (gap ++ left))) = false := by
                rw [counted, List.drop_left]
                exact again
              rw [readChain_alone first alone] at read
              cases read
              rw [List.drop_left] at settled
              exact readChain_lastFollowed opens filled stops again endsBehind settled followed

/-! ## The scan of a text that is followed by another -/

/-- The same scan when more text follows. -/
def Scan.followed (later : List Char) (scan : Scan) : Scan :=
  { scan with rest := scan.rest ++ later }

theorem Scan.skip_followed {piece : List Char} (split : scan.rest = piece ++ rest) :
    (scan.followed later).skip piece.length = (scan.skip piece.length).followed later := by
  simp only [Scan.skip, Scan.followed, split, List.append_assoc, List.drop_left, List.take_left]

theorem Scan.emit_followed {piece : List Char} (split : scan.rest = piece ++ rest)
    (kind : TokenKind) :
    (scan.followed later).emit kind piece.length = (scan.emit kind piece.length).followed later := by
  unfold Scan.emit
  rw [Scan.skip_followed split]
  rfl

theorem Scan.cover_followed {lexeme : List Char} {kind : Option TokenKind}
    (split : scan.rest = lexeme ++ rest) (covered : scan.cover ⟨kind, lexeme.length⟩ = .ok next) :
    (scan.followed later).cover ⟨kind, lexeme.length⟩ = .ok (next.followed later) := by
  rcases kind with _ | kind
  · cases covered
    exact congrArg Except.ok (Scan.skip_followed split)
  cases kind with
  | opening bracket =>
      cases covered
      simp only [Scan.cover, Scan.emit_followed split]
      rfl
  | closing bracket =>
      unfold Scan.cover at covered ⊢
      simp only [Scan.emit_followed split] at covered ⊢
      rcases opened : scan.brackets with _ | ⟨entry, outer⟩
      · rw [opened] at covered
        cases covered
      · have same : (scan.followed later).brackets = entry :: outer := opened
        simp only [opened, same] at covered ⊢
        split at covered
        · rename_i fits
          cases covered
          rw [if_pos fits]
          rfl
        · cases covered
  | _ =>
      cases covered
      exact congrArg Except.ok (Scan.emit_followed split _)

theorem Scan.coverAll_followed {parts : List Part} (covers : Covers parts scan.rest)
    (covered : scan.coverAll parts = .ok next) :
    (scan.followed later).coverAll parts = .ok (next.followed later) := by
  induction parts generalizing scan with
  | nil =>
      cases covered
      rfl
  | cons part parts ih =>
      rcases part with ⟨kind, length⟩
      rcases covers.first with ⟨lexeme, rest, -, split, rfl, others⟩
      rw [Scan.coverAll_cons] at covered ⊢
      cases first : scan.cover ⟨kind, lexeme.length⟩ with
      | error error =>
          rw [first] at covered
          cases covered
      | ok middle =>
          rw [first] at covered
          rw [Scan.cover_followed split first]
          have passes := Scan.passes_cover split first
          have left : middle.rest = rest := List.append_cancel_left (passes.split.symm.trans split)
          exact ih (left ▸ others) covered

theorem Scan.direct_followed (sign : scan.rest = '@' :: rest) (ends : EndsLine scan.rest)
    (directed : scan.direct = .ok next) :
    (scan.followed later).direct = .ok (next.followed later) := by
  have behind : EndsLine (scan.rest.drop 1) := by
    rw [sign] at ends ⊢
    exact ends.tail (by decide)
  have same : readDirective (scan.followed later).switches (scan.followed later).rest =
      readDirective scan.switches scan.rest := readDirective_followed _ behind later
  unfold Scan.direct at directed ⊢
  rw [same]
  have late : (scan.followed later).tokens = scan.tokens := rfl
  rw [late]
  split at directed
  · cases directed
  · rename_i early
    rw [if_neg early]
    have answers := readDirective_answers scan.switches rest
    rw [← sign] at answers
    generalize readDirective scan.switches scan.rest = answer at answers directed
    generalize unread : scan.rest = text at answers
    cases answers with
    | fault within => cases directed
    | directive skipped =>
        cases directed
        simp only [Scan.skip_followed unread]
        rfl

/-- A step that reads no string literal is the same if more text follows the last line. -/
theorem Scan.step_followed (ends : EndsLine scan.rest) (other : opensLiteral scan.rest = false)
    (stepped : scan.step = .ok next) :
    (scan.followed later).step = .ok (next.followed later) := by
  rcases List.exists_cons_of_ne_nil ends.ne_nil with ⟨c, rest, split⟩
  have followed : (scan.followed later).rest = c :: (rest ++ later) := by
    rw [Scan.followed, split]
    rfl
  by_cases sign : c = '@'
  · subst sign
    rw [Scan.step_of_sign split] at stepped
    rw [Scan.step_of_sign followed]
    exact Scan.direct_followed split ends stepped
  · have answers := readPiece_answers scan.switches c rest
    cases read : readPiece scan.switches c scan.rest with
    | error fault =>
        rw [Scan.step_of_fault split sign read] at stepped
        cases stepped
    | ok parts =>
        rw [Scan.step_of_piece split sign read] at stepped
        rw [split] at ends other read
        have readFollowed : readPiece (scan.followed later).switches c (scan.followed later).rest =
            .ok parts := by
          rw [followed]
          exact readPiece_followed ends other read later
        rw [read] at answers
        rw [Scan.step_of_piece followed sign readFollowed]
        exact Scan.coverAll_followed (split ▸ answers.2) stepped

/-- A literal before the end of a text that joins one behind it. -/
structure Seam (final : Scan) (later gap after : List Char) : Prop where
  concat : final.switches.implicitConcat = true
  text : ∃ front token feeds, final.tokens.toList = front ++ token :: feeds ∧
    (∃ value, token.kind = .text value) ∧ ∀ feed ∈ feeds, feed.kind = .newline
  split : later = gap ++ after
  filled : Gap gap
  opens : opensLiteral after = true

/--
What a scan comes to that has ended a text and goes on to another one.  It goes on as it
would with the other text alone, or it joins a literal at the head of that text to its last
one, and goes on behind it with other tokens.
-/
inductive GoesOn (final : Scan) (later : List Char) (outcome : Except LexError Scan) : Prop
  | apart (same : outcome = (final.followed later).outcome)
  | fault {gap after : List Char} {fault : Fault} (seam : Seam final later gap after)
      (failed : readChain final.switches.escapes after = .error fault)
      (same : outcome = .error (((final.followed later).beyond gap []).fail fault))
  | joined {gap after text : List Char} {length : Nat} (seam : Seam final later gap after)
      (read : readChain final.switches.escapes after = .ok (text, length))
      (same : ∃ tokens, outcome = Scan.outcome
        { ((final.followed later).beyond gap []).skip length with tokens := tokens })

theorem Scan.rest_of_outcome (reads : scan.outcome = .ok final) : final.rest = [] := by
  induction size : scan.rest.length using Nat.strongRecOn generalizing scan with
  | _ size ih =>
      subst size
      by_cases done : scan.rest = []
      · rw [Scan.outcome_of_done done] at reads
        cases reads
        exact done
      · cases stepped : scan.step with
        | error error =>
            rw [Scan.outcome_of_fault stepped] at reads
            cases reads
        | ok next =>
            rcases Scan.passes_step done stepped with ⟨piece, some, passes⟩
            rw [Scan.outcome_of_step stepped] at reads
            exact ih _ (passes.shorter some) reads rfl

/-- A scan that comes to its end leaves no comment open behind a gap. -/
theorem Scan.settled_of_outcome (reads : scan.outcome = .ok final) : Settled scan.rest := by
  intro gap after split filled opens unclosed
  rcases Scan.outcome_gap filled split with ⟨feeds, -, onward⟩
  have rest := Scan.rest_beyond split feeds
  rw [← rest] at opens unclosed
  rw [onward, Scan.outcome_of_fault (Scan.step_of_openComment opens unclosed)] at reads
  cases reads

/-- A literal that only a gap separates from the end of the text is the last thing read. -/
theorem Scan.final_of_gap {lexeme left : List Char} {token : Token}
    (split : scan.rest = lexeme ++ left) (toEnd : Gap left)
    (reads : (scan.beyond lexeme [token]).outcome = .ok final) :
    ∃ feeds, (∀ feed ∈ feeds, feed.kind = .newline) ∧
      final = scan.beyond scan.rest (token :: feeds) := by
  have behind : (scan.beyond lexeme [token]).rest = left ++ [] := by
    rw [Scan.rest_beyond split, List.append_nil]
  rcases Scan.outcome_gap toEnd behind with ⟨feeds, newlines, onward⟩
  have done := Scan.rest_beyond behind feeds
  rw [onward, Scan.outcome_of_done done] at reads
  cases reads
  refine ⟨feeds, newlines, ?_⟩
  rw [Scan.beyond_beyond, split]
  rfl

theorem Scan.beyond_followed {piece : List Char} (split : scan.rest = piece ++ rest)
    (tokens : List Token) :
    (scan.beyond piece tokens).followed later = (scan.followed later).beyond piece tokens := by
  simp only [Scan.beyond, Scan.followed, split, List.append_assoc, List.drop_left]

theorem Scan.skip_skip (first second : Nat) :
    (scan.skip first).skip second = scan.skip (first + second) := by
  simp only [Scan.skip, List.drop_drop, List.take_add, Source.Position.after_append]

theorem Scan.literals_split {text : List Char} {length : Nat} (opens : opensLiteral scan.rest = true)
    (read : scan.literals = .ok (text, length)) :
    ∃ lexeme rest, scan.rest = lexeme ++ rest ∧ lexeme.length = length := by
  have answers : LiteralAnswers Quotation scan.rest scan.literals := by
    unfold Scan.literals
    split
    · exact readLiterals_answers _ _ opens
    · exact readLiterals_answers _ 0 opens
  rw [read] at answers
  rcases answers with ⟨lexeme, rest, split, covered, -⟩
  exact ⟨lexeme, rest, split, covered⟩

/-- The literals that a scan reads, if more text follows the last line. -/
theorem Scan.literals_followed {text : List Char} {length : Nat}
    (opens : opensLiteral scan.rest = true) (ends : EndsLine scan.rest)
    (read : scan.literals = .ok (text, length)) (settled : Settled (scan.rest.drop length))
    (later : List Char) :
    (scan.followed later).literals = .ok (text, length) ∨
      scan.switches.implicitConcat = true ∧ ∃ lexeme left gap after,
        scan.rest = lexeme ++ left ∧ lexeme.length = length ∧ Gap left ∧
        later = gap ++ after ∧ Gap gap ∧ opensLiteral after = true ∧
        (scan.followed later).literals =
          Chained text (scan.rest ++ gap).length (readChain scan.switches.escapes after) := by
  have switches : (scan.followed later).switches = scan.switches := rfl
  have rest : (scan.followed later).rest = scan.rest ++ later := rfl
  unfold Scan.literals at read ⊢
  rw [switches, rest]
  cases concat : scan.switches.implicitConcat with
  | false =>
      rw [concat, if_neg Bool.false_ne_true] at read
      exact Or.inl (readLiteral_followed opens read later)
  | true =>
      rw [concat, if_pos rfl] at read
      cases readChain_followed opens ends read settled later with
      | same same => exact Or.inl same
      | @joined lexeme left gap after split covered toEnd splitLater filled opensAfter chained =>
          exact Or.inr ⟨rfl, lexeme, left, gap, after, split, covered, toEnd, splitLater, filled,
            opensAfter, chained⟩

/-- The last literal of a text joins the first one of the text behind it. -/
theorem Scan.goesOn_joined {text lexeme left gap : List Char}
    (opens : opensLiteral scan.rest = true) (concat : scan.switches.implicitConcat = true)
    (split : scan.rest = lexeme ++ left) (toEnd : Gap left) (splitLater : later = gap ++ after)
    (filled : Gap gap) (opensAfter : opensLiteral after = true)
    (reads : (scan.emit (.text (String.ofList text)) lexeme.length).outcome = .ok final)
    (chained : (scan.followed later).literals =
      Chained text (scan.rest ++ gap).length (readChain scan.switches.escapes after)) :
    GoesOn final later (scan.followed later).outcome := by
  rw [Scan.emit_eq_beyond split] at reads
  generalize tokenIs : Token.mk (.text (String.ofList text)) _ = token at reads
  rcases Scan.final_of_gap split toEnd reads with ⟨feeds, newlines, rfl⟩
  have seam : Seam (scan.beyond scan.rest (token :: feeds)) later gap after := by
    refine ⟨concat, ⟨scan.tokens.toList, token, feeds, ?_, ?_, newlines⟩, splitLater, filled,
      opensAfter⟩
    · exact Array.toList_append
    · exact ⟨String.ofList text, by rw [← tokenIs]⟩
  have opensFollowed : opensLiteral (scan.followed later).rest = true := by
    rw [Scan.followed, opensLiteral_append (opensLiteral_ne_nil opens), opens]
  -- Both scans stand at the literal of the second text.
  have whole : scan.rest = scan.rest ++ [] := (List.append_nil _).symm
  have place : ((scan.beyond scan.rest (token :: feeds)).followed later).beyond gap [] =
      (scan.followed later).beyond (scan.rest ++ gap) (token :: feeds) := by
    rw [Scan.beyond_followed whole, Scan.beyond_beyond, List.append_nil]
  have front : (scan.followed later).rest = (scan.rest ++ gap) ++ after := by
    rw [Scan.followed, splitLater, List.append_assoc]
  cases read : readChain scan.switches.escapes after with
  | error fault =>
      rw [read] at chained
      refine .fault seam read ?_
      rw [place, Scan.fail_beyond front]
      exact Scan.outcome_of_fault (Scan.step_of_literalFault opensFollowed chained)
  | ok literals =>
      rcases literals with ⟨others, length⟩
      rw [read] at chained
      have skipped : (scan.followed later).skip ((scan.rest ++ gap).length + length) =
          ((scan.followed later).beyond (scan.rest ++ gap) []).skip length := by
        rw [← Scan.skip_skip, Scan.skip_eq_beyond front]
      have stepped := Scan.outcome_of_step (Scan.step_of_literal opensFollowed chained)
      refine .joined seam read ?_
      rw [stepped, place, Scan.emit, skipped]
      exact ⟨_, rfl⟩

/-- The scan of a text, and how it goes on if another text follows. -/
theorem Scan.goesOn (ends : scan.rest = [] ∨ EndsLine scan.rest) (reads : scan.outcome = .ok final)
    (later : List Char) : GoesOn final later (scan.followed later).outcome := by
  induction size : scan.rest.length using Nat.strongRecOn generalizing scan with
  | _ size ih =>
      subst size
      rcases ends with done | ends
      · rw [Scan.outcome_of_done done] at reads
        cases reads
        exact .apart rfl
      cases stepped : scan.step with
      | error error =>
          rw [Scan.outcome_of_fault stepped] at reads
          cases reads
      | ok next =>
          rw [Scan.outcome_of_step stepped] at reads
          -- If the step is the same, the text behind it decides.
          have onward : (scan.followed later).step = .ok (next.followed later) →
              GoesOn final later (scan.followed later).outcome := by
            intro same
            rcases Scan.passes_step ends.ne_nil stepped with ⟨piece, some, passes⟩
            have endsNext : next.rest = [] ∨ EndsLine next.rest := by
              rw [passes.split] at ends
              exact or_iff_not_imp_left.mpr ends.behind
            rw [Scan.outcome_of_step same]
            exact ih _ (passes.shorter some) endsNext reads rfl
          cases opens : opensLiteral scan.rest with
          | false => exact onward (Scan.step_followed ends opens stepped)
          | true =>
              cases read : scan.literals with
              | error fault =>
                  rw [Scan.step_of_literalFault opens read] at stepped
                  cases stepped
              | ok literals =>
                  rcases literals with ⟨text, length⟩
                  rw [Scan.step_of_literal opens read] at stepped
                  cases stepped
                  rcases Scan.literals_split opens read with ⟨lexeme, rest, split, rfl⟩
                  have settled : Settled (scan.rest.drop lexeme.length) :=
                    Scan.settled_of_outcome reads
                  rcases Scan.literals_followed opens ends read settled later with same |
                    ⟨concat, lexeme', left, gap, after, split', covered, toEnd, splitLater,
                      filled, opensAfter, chained⟩
                  · have opensFollowed : opensLiteral (scan.followed later).rest = true := by
                      rw [Scan.followed, opensLiteral_append ends.ne_nil, opens]
                    apply onward
                    rw [Scan.step_of_literal opensFollowed same, Scan.emit_followed split]
                  · rw [← covered] at reads
                    exact Scan.goesOn_joined opens concat split' toEnd splitLater filled opensAfter
                      reads chained

/-! ## Tokens at the seam -/

/-- The text of a string token. -/
def Token.text? (token : Token) : Option String :=
  match token.kind with
  | .text value => some value
  | _ => none

theorem Token.text?_of_kind {token : Token} {value : String} (text : token.kind = .text value) :
    token.text? = some value := by
  unfold Token.text?
  rw [text]

/-- The last token other than a newline is a string. -/
def endsInText (tokens : List Token) : Bool :=
  (tokens.filter (·.kind ≠ .newline)).getLast?.any (·.text?.isSome)

/-- The first token other than a newline is a string. -/
def startsWithText (tokens : List Token) : Bool :=
  (tokens.filter (·.kind ≠ .newline)).head?.any (·.text?.isSome)

theorem filter_newlines {feeds : List Token} (newlines : ∀ feed ∈ feeds, feed.kind = .newline) :
    feeds.filter (fun token => token.kind ≠ .newline) = [] := by
  rw [List.filter_eq_nil_iff]
  intro feed member
  simp [newlines feed member]

theorem filter_text {token : Token} {value : String} (text : token.kind = .text value)
    (others : List Token) : (token :: others).filter (fun token => token.kind ≠ .newline) =
      token :: others.filter fun token => token.kind ≠ .newline := by
  rw [List.filter_cons_of_pos]
  simp [text]

theorem Seam.endsInText {gap : List Char} (seam : Seam final later gap after) :
    endsInText final.tokens.toList = true := by
  rcases seam.text with ⟨front, token, feeds, split, ⟨value, text⟩, newlines⟩
  unfold Lexical.endsInText
  rw [split, List.filter_append, filter_text text, filter_newlines newlines, List.getLast?_append]
  exact congrArg Option.isSome (Token.text?_of_kind text)

theorem startsWithText_of_split {feeds others : List Token} {token : Token} {value : String}
    (newlines : ∀ feed ∈ feeds, feed.kind = .newline) (text : token.kind = .text value) :
    startsWithText (feeds ++ token :: others) = true := by
  unfold startsWithText
  rw [List.filter_append, filter_newlines newlines, filter_text text]
  exact congrArg Option.isSome (Token.text?_of_kind text)

theorem Scan.beyond_placed {characters lines : Nat} {front : Array Token} (piece : List Char) :
    (scan.placed characters lines front).beyond piece [] =
      (scan.beyond piece []).placed characters lines front := by
  simp only [Scan.beyond, Scan.placed, moved_after, List.toArray, Array.append_empty]

/-- A scan with other tokens is a scan of the same text behind them. -/
theorem Scan.placed_tokens (characters lines : Nat) (front tokens : Array Token) :
    { scan.placed characters lines front with tokens := tokens } =
      ({ scan with tokens := #[] } : Scan).placed characters lines tokens := by
  simp only [Scan.placed, Array.map_empty, Array.append_empty]

theorem Scan.placed_zero (tokens : Array Token) :
    { scan with tokens := tokens } = ({ scan with tokens := #[] } : Scan).placed 0 0 tokens := by
  have same : ∀ entry : Bracket × Source.Position, (entry.1, entry.2.moved 0 0) = entry :=
    fun _ => rfl
  simp only [Scan.placed, Array.map_empty, Array.append_empty, same, List.map_id']
  rfl

/-- The second of two texts, read behind the first and alone. -/
structure ReadBehind (characters lines : Nat) (before : List Token) (concat : Bool)
    (alone behind : Except LexError (List Token × Switches)) : Prop where
  succeeds : ∀ tokens switches, alone = .ok (tokens, switches) →
    (concat = true → ¬ (endsInText before = true ∧ startsWithText tokens = true)) →
    behind = .ok (before ++ tokens.map (Token.moved characters lines), switches)
  fails : ∀ error, alone = .error error → behind = .error (error.moved characters lines)

theorem Seam.no_sign {gap : List Char} (seam : Seam final later gap after)
    (allowed : '@' ∉ later ∨ ∀ token ∈ final.tokens, token.kind = .newline) : '@' ∉ later := by
  rcases allowed with none | early
  · exact none
  · rcases seam.text with ⟨front, token, feeds, split, ⟨value, text⟩, -⟩
    have member : token ∈ final.tokens.toList := by
      rw [split]
      exact List.mem_append_right _ List.mem_cons_self
    have newline := early token (Array.mem_toList_iff.mp member)
    rw [text] at newline
    cases newline

theorem readBehind_of_apart {characters lines : Nat}
    (same : final.followed later =
      (Scan.start final.switches later).placed characters lines final.tokens)
    (allowed : '@' ∉ later ∨ ∀ token ∈ final.tokens, token.kind = .newline) :
    ReadBehind characters lines final.tokens.toList final.switches.implicitConcat
      (Scan.start final.switches later).result (final.followed later).result := by
  have allows : (Scan.start final.switches later).Allows final.tokens := allowed
  rw [same, Scan.result_placed allows]
  constructor
  · intro tokens switches alone _
    rw [alone]
    rfl
  · intro error alone
    rw [alone]
    rfl

/-- The second text alone, up to the literal that would be joined. -/
theorem Seam.outcome_alone {gap : List Char} (seam : Seam final later gap after) :
    ∃ feeds, (∀ feed ∈ feeds, feed.kind = .newline) ∧
      (Scan.start final.switches later).outcome =
        ((Scan.start final.switches later).beyond gap feeds).outcome ∧
      ((Scan.start final.switches later).beyond gap feeds).rest = after ∧
      ((Scan.start final.switches later).beyond gap feeds).literals =
        readChain final.switches.escapes after := by
  have split : (Scan.start final.switches later).rest = gap ++ after := seam.split
  rcases Scan.outcome_gap seam.filled split with ⟨feeds, newlines, onward⟩
  have rest := Scan.rest_beyond split feeds
  refine ⟨feeds, newlines, onward, rest, ?_⟩
  unfold Scan.literals
  rw [rest]
  change (if final.switches.implicitConcat = true then _ else _) = _
  rw [if_pos seam.concat]
  rfl

theorem readBehind_of_fault {characters lines : Nat} {gap : List Char} {fault : Fault}
    (same : final.followed later =
      (Scan.start final.switches later).placed characters lines final.tokens)
    (seam : Seam final later gap after)
    (failed : readChain final.switches.escapes after = .error fault) :
    ReadBehind characters lines final.tokens.toList final.switches.implicitConcat
      (Scan.start final.switches later).result
      (.error (((final.followed later).beyond gap []).fail fault)) := by
  rcases seam.outcome_alone with ⟨feeds, -, onward, rest, literals⟩
  have opens := seam.opens
  rw [← rest] at opens
  have stepped := Scan.step_of_literalFault opens (literals.trans failed)
  have split : (Scan.start final.switches later).rest = gap ++ after := seam.split
  have alone : (Scan.start final.switches later).result =
      .error ((Scan.start final.switches later).fail (fault.later gap.length)) := by
    unfold Scan.result
    rw [onward, Scan.outcome_of_fault stepped, Scan.fail_beyond split]
    rfl
  have behind : ((final.followed later).beyond gap []).fail fault =
      ((Scan.start final.switches later).fail (fault.later gap.length)).moved characters lines := by
    rw [same, Scan.beyond_placed, Scan.fail_placed, Scan.fail_beyond split]
  rw [alone, behind]
  constructor
  · intro tokens switches impossible
    cases impossible
  · intro error failed
    cases failed
    rfl

theorem readBehind_of_joined {characters lines : Nat} {gap text : List Char} {length : Nat}
    (same : final.followed later =
      (Scan.start final.switches later).placed characters lines final.tokens)
    (seam : Seam final later gap after) (noSign : '@' ∉ later)
    (read : readChain final.switches.escapes after = .ok (text, length)) (tokens : Array Token) :
    ReadBehind characters lines final.tokens.toList final.switches.implicitConcat
      (Scan.start final.switches later).result
      (Scan.result { ((final.followed later).beyond gap []).skip length with tokens := tokens }) := by
  rcases seam.outcome_alone with ⟨feeds, newlines, onward, rest, literals⟩
  have opens := seam.opens
  rw [← rest] at opens
  have stepped := Scan.step_of_literal opens (literals.trans read)
  -- Behind the literal both scans stand before the same text.
  let base : Scan :=
    { ((Scan.start final.switches later).beyond gap []).skip length with tokens := #[] }
  have noSignBehind : '@' ∉ base.rest := by
    intro sign
    exact noSign (List.mem_of_mem_drop (List.mem_of_mem_drop sign))
  have behind : { ((final.followed later).beyond gap []).skip length with tokens := tokens } =
      base.placed characters lines tokens := by
    rw [same, Scan.beyond_placed, Scan.skip_placed, Scan.placed_tokens]
  let joined : Scan := ((Scan.start final.switches later).beyond gap feeds).emit
    (.text (String.ofList text)) length
  have emitted : joined = base.placed 0 0 joined.tokens := Scan.placed_zero joined.tokens
  have begins : ∃ token : Token, token.kind = .text (String.ofList text) ∧
      joined.tokens.toList = feeds ++ [token] := by
    refine ⟨⟨.text (String.ofList text),
      ⟨((Scan.start final.switches later).beyond gap feeds).position, joined.position⟩⟩, rfl, ?_⟩
    change (Array.push (#[] ++ feeds.toArray) _).toList = _
    rw [Array.toList_push, Array.empty_append]
    rfl
  have alone : (Scan.start final.switches later).result =
      (base.placed 0 0 joined.tokens).result := by
    unfold Scan.result
    rw [onward, Scan.outcome_of_step stepped, ← emitted]
  rw [alone, behind, Scan.result_placed (Or.inl noSignBehind),
    Scan.result_placed (Or.inl noSignBehind)]
  cases base.result with
  | error error =>
      constructor
      · intro tokens switches impossible
        cases impossible
      · intro error failed
        cases failed
        rfl
  | ok read =>
      constructor
      · intro tokens switches succeeded apart
        cases succeeded
        rcases begins with ⟨token, text, split⟩
        rw [split, List.append_assoc] at apart
        exact absurd ⟨seam.endsInText, startsWithText_of_split newlines text⟩ (apart seam.concat)
      · intro error impossible
        cases impossible

theorem GoesOn.readBehind {characters lines : Nat} {outcome : Except LexError Scan}
    (same : final.followed later =
      (Scan.start final.switches later).placed characters lines final.tokens)
    (allowed : '@' ∉ later ∨ ∀ token ∈ final.tokens, token.kind = .newline)
    (goes : GoesOn final later outcome) :
    ReadBehind characters lines final.tokens.toList final.switches.implicitConcat
      (Scan.start final.switches later).result (outcome.bind Scan.finish) := by
  cases goes with
  | apart outcomeIs =>
      rw [outcomeIs]
      exact readBehind_of_apart same allowed
  | fault seam failed outcomeIs =>
      rw [outcomeIs]
      exact readBehind_of_fault same seam failed
  | joined seam read outcomeIs =>
      rcases outcomeIs with ⟨tokens, outcomeIs⟩
      rw [outcomeIs]
      exact readBehind_of_joined same seam (seam.no_sign allowed) read tokens

/-! ## Texts -/

theorem placeAfter_eq_moved {text : List Char} (ended : text = [] ∨ EndsLine text) :
    placeAfter text = Source.Position.start.moved text.length (text.count '\n') := by
  have column : (text.reverse.takeWhile (· ≠ '\n')).length = 0 := by
    rcases ended with rfl | ends
    · rfl
    · rcases List.getLast?_eq_some_iff.mp ends with ⟨front, rfl⟩
      simp
  unfold placeAfter Source.Position.moved Source.Position.start
  rw [column, Nat.zero_add, Nat.zero_add]

theorem Scan.position_of_outcome {switches : Switches} {text : List Char}
    (reads : (Scan.start switches text).outcome = .ok final) :
    final.position = placeAfter text := by
  have run := (Scan.hasRead_start switches text).run (Nat.le_refl text.length)
  change Advances text _ (Scan.start switches text).outcome at run
  rw [reads] at run
  cases run with
  | on read done =>
      have whole := read.split
      rw [done, List.append_nil] at whole
      rw [read.place, ← whole]

/-- Where a text ends that has been read to its end, the scan of another one begins. -/
theorem Scan.followed_of_outcome {switches : Switches} {text : List Char}
    (ended : text = [] ∨ EndsLine text) (reads : (Scan.start switches text).outcome = .ok final)
    (closed : final.brackets = []) : final.followed later =
      (Scan.start final.switches later).placed text.length (text.count '\n') final.tokens := by
  have rest := Scan.rest_of_outcome reads
  have place := (Scan.position_of_outcome reads).trans (placeAfter_eq_moved ended)
  rcases final with ⟨finalRest, position, finalSwitches, tokens, brackets⟩
  cases rest
  cases place
  cases closed
  simp only [Scan.followed, Scan.placed, Scan.start, List.nil_append, Array.map_empty,
    Array.append_empty, List.map_nil]
  rfl

theorem Scan.finish_ok {tokens : List Token} {switches : Switches}
    (finished : final.finish = .ok (tokens, switches)) : final.brackets = [] ∧
      final.switches = switches ∧ ∃ last, tokens = final.tokens.toList ++ [last] := by
  unfold Scan.finish at finished
  split at finished
  · cases finished
  · rename_i none
    cases finished
    exact ⟨List.getLast?_eq_none_iff.mp none, rfl, _, rfl⟩

theorem readBehind_of_tokenize {first second : String} {switches between : Switches}
    {tokens : List Token} {last : Token}
    (ended : first.toList = [] ∨ first.toList.getLast? = some '\n')
    (read : tokenize switches first = .ok (tokens ++ [last], between))
    (allowed : '@' ∉ second.toList ∨ ∀ token ∈ tokens, token.kind = .newline) :
    ReadBehind first.length (first.toList.count '\n') tokens between.implicitConcat
      (tokenize between second) (tokenize switches (first ++ second)) := by
  rw [tokenize_eq, Scan.result] at read
  cases reads : (Scan.start switches first.toList).outcome with
  | error error =>
      rw [reads] at read
      cases read
  | ok final =>
      rw [reads] at read
      rcases Scan.finish_ok read with ⟨closed, rfl, end', split⟩
      rcases List.append_inj' split rfl with ⟨rfl, -⟩
      have same : final.followed second.toList = _ := Scan.followed_of_outcome ended reads closed
      have goes := Scan.goesOn ended reads second.toList
      have allowed' : '@' ∉ second.toList ∨ ∀ token ∈ final.tokens, token.kind = .newline := by
        simpa only [Array.mem_toList_iff] using allowed
      have behind := goes.readBehind same allowed'
      have whole : (Scan.start switches first.toList).followed second.toList =
          Scan.start switches (first ++ second).toList := by
        rw [String.toList_append]
        rfl
      rw [whole] at behind
      rw [tokenize_eq, tokenize_eq, ← String.length_toList]
      exact behind

/-- What has been read of a text piece by piece: its tokens so far and the switches now. -/
structure Fed where
  text : String
  tokens : List Token
  switches : Switches

/--
One more piece is read with the switches that the pieces before have left.  It begins a line,
its directives do not come too late, and no string literal is torn from the one before it.
-/
inductive Fed.Takes (fed : Fed) (piece : String) : Fed → Prop
  | read {tokens : List Token} {last : Token} {switches : Switches}
      (ended : fed.text.toList = [] ∨ fed.text.toList.getLast? = some '\n')
      (allowed : '@' ∉ piece.toList ∨ ∀ token ∈ fed.tokens, token.kind = .newline)
      (read : tokenize fed.switches piece = .ok (tokens ++ [last], switches))
      (apart : fed.switches.implicitConcat = true →
        ¬ (endsInText fed.tokens = true ∧ startsWithText (tokens ++ [last]) = true)) :
      Takes fed piece
        { text := fed.text ++ piece
          tokens := fed.tokens ++
            tokens.map (Token.moved fed.text.length (fed.text.toList.count '\n'))
          switches := switches }

/-- Pieces are read one after the other. -/
inductive Fed.TakesAll : Fed → Fed → Prop
  | none (fed : Fed) : TakesAll fed fed
  | more {start fed next : Fed} {piece : String} (earlier : TakesAll start fed)
      (takes : fed.Takes piece next) : TakesAll start next

/-- What has been read piece by piece is what is read at once. -/
def Fed.Agrees (switches : Switches) (fed : Fed) : Prop :=
  ∃ last, tokenize switches fed.text = .ok (fed.tokens ++ [last], fed.switches)

theorem Fed.Takes.agrees {switches : Switches} {fed taken : Fed} {piece : String}
    (takes : fed.Takes piece taken) (agrees : fed.Agrees switches) : taken.Agrees switches := by
  rcases agrees with ⟨last, whole⟩
  cases takes with
  | @read tokens last' switches' ended allowed read apart =>
      have behind := readBehind_of_tokenize ended whole allowed
      have together := behind.succeeds _ _ read apart
      rw [List.map_append, ← List.append_assoc] at together
      exact ⟨_, together⟩

theorem Fed.TakesAll.agrees {switches : Switches} {start fed : Fed}
    (takes : start.TakesAll fed) (agrees : start.Agrees switches) : fed.Agrees switches := by
  induction takes with
  | none => exact agrees
  | more earlier takes ih => exact takes.agrees ih

/--
Reading goes together at the ends of lines.  A text behind one that is empty or ends in a
line feed gives the tokens and the switches, or the fault, that it gives alone with the
switches that the first text leaves, moved by the characters and lines of that text.  So a
text that is read piece by piece has the tokens of the whole.
-/
theorem tokenize_composes {first : String} {switches between : Switches} {tokens : List Token}
    {last : Token} (ended : first.toList = [] ∨ first.toList.getLast? = some '\n')
    (read : tokenize switches first = .ok (tokens ++ [last], between)) :
    (∀ second : String, ('@' ∉ second.toList ∨ ∀ token ∈ tokens, token.kind = .newline) →
      ReadBehind first.length (first.toList.count '\n') tokens between.implicitConcat
        (tokenize between second) (tokenize switches (first ++ second))) ∧
    ∀ fed : Fed, Fed.TakesAll ⟨first, tokens, between⟩ fed → fed.Agrees switches := by
  constructor
  · intro second allowed
    exact readBehind_of_tokenize ended read allowed
  · intro fed takes
    exact takes.agrees ⟨last, read⟩

/-- Two lines, of which the first ends in a string and the second does not begin with one. -/
theorem two_lines_compose :
    tokenize {} ("'a'\n" ++ "x 'b'") =
      .ok ([⟨.text "a", ⟨⟨0, 0, 0⟩, ⟨3, 0, 3⟩⟩⟩, ⟨.newline, ⟨⟨3, 0, 3⟩, ⟨4, 1, 0⟩⟩⟩,
        ⟨.identifier "x", ⟨⟨4, 1, 0⟩, ⟨5, 1, 1⟩⟩⟩, ⟨.text "b", ⟨⟨6, 1, 2⟩, ⟨9, 1, 5⟩⟩⟩,
        ⟨.endOfFile, ⟨⟨9, 1, 5⟩, ⟨9, 1, 5⟩⟩⟩], {}) := by
  have ended : "'a'\n".toList = [] ∨ "'a'\n".toList.getLast? = some '\n' := Or.inr (by decide)
  have read : tokenize {} "'a'\n" = .ok ([⟨.text "a", ⟨⟨0, 0, 0⟩, ⟨3, 0, 3⟩⟩⟩,
      ⟨.newline, ⟨⟨3, 0, 3⟩, ⟨4, 1, 0⟩⟩⟩] ++ [⟨.endOfFile, ⟨⟨4, 1, 0⟩, ⟨4, 1, 0⟩⟩⟩], {}) := by
    decide
  have alone : tokenize {} "x 'b'" = .ok ([⟨.identifier "x", ⟨⟨0, 0, 0⟩, ⟨1, 0, 1⟩⟩⟩,
      ⟨.text "b", ⟨⟨2, 0, 2⟩, ⟨5, 0, 5⟩⟩⟩, ⟨.endOfFile, ⟨⟨5, 0, 5⟩, ⟨5, 0, 5⟩⟩⟩], {}) := by
    decide
  have behind := (tokenize_composes ended read).1 "x 'b'" (Or.inl (by decide))
  exact behind.succeeds _ _ alone (fun _ => by decide)

end Lexical
end Scripting
