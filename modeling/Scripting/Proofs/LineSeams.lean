import Scripting.Proofs.LiteralGaps

namespace Scripting
namespace Lexical

/-!
Texts that are joined at the end of a line.

No piece of a text goes on behind a line feed, except comments and string literals, and
these end by a mark of their own.  So a text that ends in a line feed is read in the same
way whatever stands behind it, as long as it can be read alone.  Where it ends, no bracket
is open, and what is behind is read as if it stood alone, with the switches found there.
Only string literals look further: behind a literal the scan looks over gaps for another one
to join, and this other one may stand in the next text.
-/

variable {scan next final : Scan} {rest after later : List Char}

/-! ## Readers at the end of a line -/

theorem EndsLine.mem (ends : EndsLine rest) : '\n' ∈ rest :=
  List.mem_of_getLast? ends

theorem EndsLine.ne_nil (ends : EndsLine rest) : rest ≠ [] :=
  List.ne_nil_of_mem ends.mem

theorem EndsLine.tail {c : Char} (ends : EndsLine (c :: rest)) (other : c ≠ '\n') :
    EndsLine rest := by
  have whole : EndsLine ([c] ++ rest) := ends
  apply whole.behind
  rintro rfl
  exact other (Option.some.inj ends)

theorem EndsLine.takeWhile_append {p : Char → Bool} (ends : EndsLine rest)
    (stops : p '\n' = false) (later : List Char) :
    (rest ++ later).takeWhile p = rest.takeWhile p := by
  rw [List.takeWhile_append, if_neg]
  intro all
  have whole : rest.takeWhile p = rest := (List.takeWhile_prefix p).eq_of_length all
  have member : '\n' ∈ rest.takeWhile p := by
    rw [whole]
    exact ends.mem
  have passed := List.mem_takeWhile_imp member
  rw [stops] at passed
  cases passed

theorem EndsLine.drop_takeWhile {p : Char → Bool} (ends : EndsLine rest)
    (stops : p '\n' = false) : EndsLine (rest.drop (rest.takeWhile p).length) := by
  rcases takeWhile_split p rest with ⟨behind, split, dropped, -⟩
  rw [dropped]
  have whole : EndsLine (rest.takeWhile p ++ behind) := split ▸ ends
  apply whole.behind
  rintro rfl
  rw [List.append_nil] at split
  have passed := List.mem_takeWhile_imp (split ▸ ends.mem : '\n' ∈ rest.takeWhile p)
  rw [stops] at passed
  cases passed

theorem EndsLine.drop_append {passed : Nat} (ends : EndsLine (rest.drop passed))
    (later : List Char) : (rest ++ later).drop passed = rest.drop passed ++ later := by
  apply List.drop_append_of_le_length
  have some := ends.ne_nil
  rw [ne_eq, List.drop_eq_nil_iff] at some
  omega

theorem wordAt_followed (ends : EndsLine rest) (later : List Char) :
    wordAt (rest ++ later) = wordAt rest :=
  ends.takeWhile_append (by decide +kernel) later

theorem gapAt_followed (ends : EndsLine rest) (later : List Char) :
    gapAt (rest ++ later) = gapAt rest :=
  congrArg List.length (ends.takeWhile_append (by decide) later)

theorem digitRun_stops (base : Nat) :
    ('\n' = '_' || Number.isDigitOf base '\n') = false := rfl

theorem digitRun_followed (base : Nat) (ends : EndsLine rest) (later : List Char) :
    digitRun base (rest ++ later) = digitRun base rest :=
  ends.takeWhile_append (digitRun_stops base) later

theorem EndsLine.behind_digits (base : Nat) (ends : EndsLine rest) :
    EndsLine (rest.drop (digitRun base rest).length) :=
  ends.drop_takeWhile (digitRun_stops base)

theorem readPrefixed_followed (base : Nat) (ends : EndsLine (rest.drop 2)) (later : List Char) :
    readPrefixed base (rest ++ later) = readPrefixed base rest := by
  have behind := ends.behind_digits base
  rw [List.drop_drop] at behind
  unfold readPrefixed
  simp only [ends.drop_append, digitRun_followed base ends, behind.drop_append]
  -- Whether a fraction follows is seen from two characters, and a line feed is none of them.
  generalize rest.drop (2 + (digitRun base (rest.drop 2)).length) = fraction at behind
  rcases fraction with _ | ⟨point, _ | ⟨digit, more⟩⟩
  · exact absurd rfl behind.ne_nil
  · have feed : point = '\n' := Option.some.inj behind
    subst feed
    rfl
  · by_cases dotted : point = '.'
    · subst dotted
      rfl
    · simp [dotted]

theorem readDecimal_followed (ends : EndsLine rest) (later : List Char) :
    readDecimal (rest ++ later) = readDecimal rest := by
  have behind := ends.behind_digits 10
  unfold readDecimal
  simp only [digitRun_followed 10 ends, behind.drop_append]
  generalize rest.drop (digitRun 10 rest).length = fraction at behind
  rcases fraction with _ | ⟨point, fraction⟩
  · exact absurd rfl behind.ne_nil
  simp only [List.cons_append]
  by_cases dotted : point = '.'
  · subst dotted
    have inner := behind.tail (by decide)
    have last := inner.behind_digits 10
    simp only [digitRun_followed 10 inner, last.drop_append]
    generalize fraction.drop (digitRun 10 fraction).length = others at last
    rcases others with _ | ⟨other, others⟩
    · exact absurd rfl last.ne_nil
    · simp only [List.cons_append]
      split
      · rename_i same
        rcases (List.cons.inj same).1 with rfl
        rfl
      · rename_i differs
        split
        · rename_i same
          exact absurd (congrArg (· :: _) (List.cons.inj same).1) (differs _)
        · rfl
  · split
    · rename_i same
      exact absurd (List.cons.inj same).1 dotted
    · split
      · rename_i same
        exact absurd (List.cons.inj same).1 dotted
      · rfl

theorem length_of_integerPart {base length : Nat} {digits : List Char} {part : Part}
    (read : integerPart base digits length = .ok part) : part.length = length := by
  unfold integerPart at read
  cases fits : Number.fit? (Int.ofNat (Number.textValue base digits)) with
  | none =>
      rw [fits] at read
      cases read
  | some value =>
      rw [fits] at read
      cases read
      rfl

theorem EndsLine.behind_decimal {part : Part} (ends : EndsLine rest)
    (read : readDecimal rest = .ok part) : EndsLine (rest.drop part.length) := by
  have behind := ends.behind_digits 10
  unfold readDecimal at read
  simp only at read
  split at read
  · rename_i fraction dropped
    rw [dropped] at behind
    have last := (behind.tail (by decide)).behind_digits 10
    split at read
    · cases read
    · cases read
      rw [Nat.add_assoc, ← List.drop_drop, dropped, Nat.add_comm, List.drop_succ_cons]
      exact last
  · rw [length_of_integerPart read]
    exact behind

theorem readPowerOfTen_followed (ends : EndsLine rest) (later : List Char) :
    readPowerOfTen (rest ++ later) = readPowerOfTen rest := by
  rcases rest with _ | ⟨letter, behind⟩
  · exact absurd rfl ends.ne_nil
  unfold readPowerOfTen
  simp only [List.cons_append]
  by_cases marked : letter = 'e' ∨ letter = 'E'
  · have other : letter ≠ '\n' := by
      rcases marked with rfl | rfl <;> decide
    have inner := ends.tail other
    simp only [if_pos marked, inner.takeWhile_append (by decide +kernel : Text.isIdentifierPart '\n' = false)]
    rcases behind with _ | ⟨sign, _ | ⟨digit, more⟩⟩
    · exact absurd rfl inner.ne_nil
    · have feed : sign = '\n' := Option.some.inj inner
      subst feed
      cases later <;> rfl
    · rfl
  · simp only [if_neg marked]

theorem literalBase?_followed {c : Char} (ends : EndsLine (c :: rest)) (other : c ≠ '\n')
    (later : List Char) : literalBase? (c :: rest ++ later) = literalBase? (c :: rest) := by
  rcases rest with _ | ⟨letter, behind⟩
  · exact absurd (Option.some.inj ends) other
  · simp only [List.cons_append]
    unfold literalBase?
    split
    · rename_i same
      cases same
      rfl
    · rename_i differs
      split
      · rename_i same
        cases same
        exact absurd rfl (differs _ _)
      · rfl

theorem EndsLine.behind_base {c : Char} {base : Nat} (ends : EndsLine (c :: rest))
    (announced : literalBase? (c :: rest) = some base) : EndsLine ((c :: rest).drop 2) := by
  unfold literalBase? at announced
  split at announced
  · rename_i letter behind same
    cases same
    have inner := ends.tail (by decide)
    apply inner.tail
    rintro rfl
    cases announced
  · cases announced

/-- Numbers do not go on behind a line feed. -/
theorem readNumber_followed {c : Char} (powers : Bool) (digit : c.isDigit = true)
    (ends : EndsLine (c :: rest)) (later : List Char) :
    readNumber powers (c :: rest ++ later) = readNumber powers (c :: rest) := by
  have other : c ≠ '\n' := by
    rintro rfl
    cases digit
  unfold readNumber
  rw [literalBase?_followed ends other]
  cases announced : literalBase? (c :: rest) with
  | some base =>
      simp only [readPrefixed_followed base (ends.behind_base announced)]
  | none =>
      simp only [readDecimal_followed ends]
      cases read : readDecimal (c :: rest) with
      | error fault => rfl
      | ok part =>
          have behind := ends.behind_decimal read
          simp only [behind.drop_append, readPowerOfTen_followed behind]

theorem Symbol.spelling_oneLine (symbol : Symbol) : '\n' ∉ symbol.spelling.toList := by
  cases symbol <;> decide

theorem isPrefixOf_followed {word : List Char} (oneLine : '\n' ∉ word) (ends : EndsLine rest)
    (later : List Char) : word.isPrefixOf (rest ++ later) = word.isPrefixOf rest := by
  rw [Bool.eq_iff_iff, List.isPrefixOf_iff_prefix, List.isPrefixOf_iff_prefix]
  constructor
  · intro starts
    have whole : rest <+: rest ++ later := List.prefix_append _ _
    rcases Nat.le_total word.length rest.length with short | long
    · exact List.prefix_of_prefix_length_le starts whole short
    · have inside := List.prefix_of_prefix_length_le whole starts long
      exact absurd (inside.subset ends.mem) oneLine
  · exact fun starts => starts.trans (List.prefix_append _ _)

theorem readMark_followed (c : Char) (ends : EndsLine rest) (later : List Char) :
    readMark c (rest ++ later) = readMark c rest := by
  have same : Symbol.read? (rest ++ later) = Symbol.read? rest := by
    unfold Symbol.read?
    congr 1
    funext symbol
    exact isPrefixOf_followed symbol.spelling_oneLine ends later
  unfold readMark
  rw [same]

theorem EndsLine.behind_word {passed : Nat} (ends : EndsLine (rest.drop passed)) :
    EndsLine (rest.drop (passed + (wordAt (rest.drop passed)).length)) := by
  rw [← List.drop_drop]
  exact ends.drop_takeWhile (by decide +kernel)

theorem EndsLine.behind_gap {passed : Nat} (ends : EndsLine (rest.drop passed)) :
    EndsLine (rest.drop (passed + gapAt (rest.drop passed))) := by
  rw [← List.drop_drop]
  exact ends.drop_takeWhile (by decide)

theorem readDirective_followed (switches : Switches) (ends : EndsLine (rest.drop 1))
    (later : List Char) :
    readDirective switches (rest ++ later) = readDirective switches rest := by
  have behindWord := ends.behind_word
  have behindGap := behindWord.behind_gap
  have behindName := behindGap.behind_word
  have behindGap' := behindName.behind_gap
  unfold readDirective
  simp only [ends.drop_append, wordAt_followed ends, behindWord.drop_append,
    gapAt_followed behindWord, behindGap.drop_append, wordAt_followed behindGap,
    behindName.drop_append, gapAt_followed behindName, behindGap'.drop_append,
    wordAt_followed behindGap']

theorem continuationLength_followed (ends : EndsLine rest) (later : List Char) :
    continuationLength (rest ++ later) = continuationLength rest := by
  rcases rest with _ | ⟨c, _ | ⟨d, _ | ⟨e, rest⟩⟩⟩
  · exact absurd rfl ends.ne_nil
  · have feed : c = '\n' := Option.some.inj ends
    subst feed
    exact continuationLength_of_ne (by decide) _
  · have feed : d = '\n' := Option.some.inj ends
    subst feed
    by_cases backslash : c = '\\'
    · subst backslash
      rfl
    · rw [continuationLength_of_ne backslash]
      exact continuationLength_of_ne backslash _
  · simp only [List.cons_append]
    unfold continuationLength
    split
    · rename_i same
      cases same
      rfl
    · rename_i same
      cases same
      rfl
    · rename_i first second
      split
      · rename_i same
        cases same
        exact absurd rfl (first _)
      · rename_i same
        cases same
        exact absurd rfl (second _)
      · rfl

theorem opensComment_followed (ends : EndsLine rest) (later : List Char) :
    opensComment (rest ++ later) = opensComment rest := by
  rcases rest with _ | ⟨c, _ | ⟨d, rest⟩⟩
  · exact absurd rfl ends.ne_nil
  · have feed : c = '\n' := Option.some.inj ends
    subst feed
    exact opensComment_of_ne (by decide) _
  · simp only [List.cons_append]
    unfold opensComment
    split
    · rename_i same
      cases same
      rfl
    · rename_i differs
      split
      · rename_i same
        cases same
        exact absurd rfl (differs _)
      · rfl

theorem blockCommentLength?_followed {length : Nat} (opens : opensComment rest = true)
    (found : blockCommentLength? rest = some length) (later : List Char) :
    blockCommentLength? (rest ++ later) = some length := by
  rcases Comment.of_blockCommentLength? opens found with ⟨piece, after, rfl, rfl, comment⟩
  cases comment with
  | line within => cases opens
  | @block tail closed =>
      rw [List.append_assoc]
      exact blockCommentLength?_append closed (after ++ later)

/-- A piece other than a string literal is read in the same way if more text follows its line. -/
theorem readPiece_followed {switches : Switches} {c : Char} {parts : List Part}
    (ends : EndsLine (c :: rest)) (other : (closingQuote? c).isSome = false)
    (read : readPiece switches c (c :: rest) = .ok parts) (later : List Char) :
    readPiece switches c (c :: rest ++ later) = .ok parts := by
  rw [← read]
  unfold readPiece at read ⊢
  rw [continuationLength_followed ends, opensComment_followed ends]
  by_cases blank : isInlineBlank c = true
  · rw [if_pos blank, if_pos blank]
  rw [if_neg blank] at read ⊢
  rw [if_neg blank]
  by_cases newline : c = '\n' ∨ c = ';'
  · rw [if_pos newline, if_pos newline]
  rw [if_neg newline] at read ⊢
  rw [if_neg newline]
  by_cases continued : 0 < continuationLength (c :: rest)
  · rw [if_pos continued, if_pos continued]
  rw [if_neg continued] at read ⊢
  rw [if_neg continued]
  by_cases hash : c = '#'
  · have length : lineCommentLength (c :: rest ++ later) = lineCommentLength (c :: rest) :=
      congrArg List.length (ends.takeWhile_append (by decide) later)
    rw [if_pos hash, if_pos hash, length]
  rw [if_neg hash] at read ⊢
  rw [if_neg hash]
  by_cases opens : opensComment (c :: rest) = true
  · rw [if_pos opens] at read ⊢
    rw [if_pos opens]
    cases found : blockCommentLength? (c :: rest) with
    | none =>
        rw [found] at read
        cases read
    | some length => rw [blockCommentLength?_followed opens found]
  rw [if_neg opens] at read ⊢
  rw [if_neg opens, other]
  rw [if_neg Bool.false_ne_true, if_neg Bool.false_ne_true]
  by_cases digit : c.isDigit = true
  · rw [if_pos digit, if_pos digit, readNumber_followed _ digit ends]
  rw [if_neg digit, if_neg digit]
  by_cases start : Text.isIdentifierStart c = true
  · simp only [if_pos start, readWord, wordAt_followed ends]
  · rw [if_neg start, if_neg start, readMark_followed c ends]

end Lexical
end Scripting
