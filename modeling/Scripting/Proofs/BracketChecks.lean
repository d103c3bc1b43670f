import Scripting.Proofs.Spellings

namespace Scripting
namespace Lexical

open Source (Position)

/-!
Brackets are checked exactly.

The scan keeps the brackets that are open on a stack and complains when the next one does not
fit.  What it ought to complain about is a matter of the bracket tokens alone: they have to
belong together in pairs.  The two agree because at every point the tokens read so far fall
into nested stretches, with one opening bracket of the stack between each and the next.  So a
closing bracket that fits the top of the stack ends a nested stretch, one that does not can
never be part of nested tokens, and the bracket at the bottom of the stack is the first one
that nothing closes.

Only brackets that are tokens count.  No other reader complains about brackets, and none but
the reader of marks makes tokens of them.
-/

variable {switches : Switches} {scan next last : Scan} {rest : List Char}

/-! ## Nested tokens -/

theorem Nested.append {first second : List TokenKind} (nested : Nested first)
    (behind : Nested second) : Nested (first ++ second) := by
  induction nested with
  | nothing => exact behind
  | other unbracketed _ ih => exact .other unbracketed ih
  | pair inside _ _ ih =>
      rw [List.cons_append, List.append_assoc, List.cons_append]
      exact .pair inside ih

/-- Tokens behind an opening bracket in which it is closed. -/
def ClosedIn (bracket : Bracket) (kinds : List TokenKind) : Prop :=
  ∃ inner others, kinds = inner ++ .closing bracket :: others ∧ Nested inner

theorem ClosedIn.append {bracket : Bracket} {kinds : List TokenKind}
    (closed : ClosedIn bracket kinds) (more : List TokenKind) :
    ClosedIn bracket (kinds ++ more) := by
  rcases closed with ⟨inner, others, rfl, nested⟩
  exact ⟨inner, others ++ more, by simp, nested⟩

/-- A bracket is not closed in tokens that close only what they open themselves. -/
theorem not_closedIn {bracket : Bracket} {kinds : List TokenKind} {opened : List Bracket}
    (leaves : leavesAll? [] kinds = some opened) : ¬ ClosedIn bracket kinds := by
  rintro ⟨inner, others, rfl, nested⟩
  rw [nested.leavesAll?, leavesAll?_cons] at leaves
  cases leaves

/-- Nested tokens close every bracket that they open. -/
theorem Nested.closedIn {kinds front behind : List TokenKind} {bracket : Bracket}
    (nested : Nested kinds) (split : kinds = front ++ .opening bracket :: behind) :
    ClosedIn bracket behind := by
  induction nested generalizing front behind with
  | nothing => simp at split
  | other unbracketed _ ih =>
      rcases front with _ | ⟨first, front⟩
      · cases split
        cases unbracketed
      · cases split
        exact ih rfl
  | @pair outer inner kinds inside _ ihInside ihLater =>
      rcases front with _ | ⟨first, front⟩
      · cases split
        exact ⟨inner, kinds, rfl, inside⟩
      · have tail := (List.cons.inj split).2
        rcases List.append_eq_append_iff.mp tail with ⟨between, rfl, later⟩ | ⟨between, rfl, later⟩
        · rcases between with _ | ⟨closer, between⟩
          · cases later
          · cases later
            exact ihLater rfl
        · rcases between with _ | ⟨here, between⟩
          · cases later
          · cases later
            exact (ihInside rfl).append _

/-- Tokens that nested tokens can begin with. -/
def Extendable (kinds : List TokenKind) : Prop :=
  ∃ more, Nested (kinds ++ more)

theorem Nested.leaves_nothing {kinds : List TokenKind} (nested : Nested kinds) :
    Lexical.leavesAll? [] kinds = some [] := by
  have leaves := nested.leavesAll? [] []
  rwa [List.append_nil] at leaves

theorem not_extendable {kinds : List TokenKind} {opened : List Bracket} {kind : TokenKind}
    (leaves : leavesAll? [] kinds = some opened) (refused : kind.leaves? opened = none) :
    ¬ Extendable (kinds ++ [kind]) := by
  rintro ⟨more, nested⟩
  have none := nested.leaves_nothing
  rw [leavesAll?_append, leavesAll?_append, leaves, Option.bind_some, leavesAll?_cons,
    refused] at none
  cases none

/-! ## Tokens read so far and the brackets open behind them -/

/--
Tokens behind which brackets are open, the innermost first.  Each opening bracket on the way
stands where it is remembered, and the tokens between one and the next are nested.
-/
inductive Standing : List Token → List (Bracket × Position) → Prop
  | nested {tokens : List Token} (nested : Nested (tokens.map Token.kind)) : Standing tokens []
  | inside {outer inner : List Token} {opener : Token} {bracket : Bracket} {position : Position}
      {opened : List (Bracket × Position)} (standing : Standing outer opened)
      (kind : opener.kind = .opening bracket)
      (span : opener.span = ⟨position, position.step bracket.opening⟩)
      (nested : Nested (inner.map Token.kind)) :
      Standing (outer ++ opener :: inner) ((bracket, position) :: opened)

variable {tokens : List Token} {opened : List (Bracket × Position)} {token : Token}
  {bracket : Bracket} {position : Position}

namespace Standing

theorem all_closed (standing : Standing tokens []) : Nested (tokens.map Token.kind) := by
  cases standing with
  | nested nested => exact nested

theorem append_nested (standing : Standing tokens opened) {more : List Token}
    (nested : Nested (more.map Token.kind)) : Standing (tokens ++ more) opened := by
  cases standing with
  | nested before =>
      apply Standing.nested
      rw [List.map_append]
      exact before.append nested
  | inside standing kind span before =>
      rw [List.append_assoc, List.cons_append]
      apply standing.inside kind span
      rw [List.map_append]
      exact before.append nested

theorem unbracketed (standing : Standing tokens opened) (other : token.kind.Unbracketed) :
    Standing (tokens ++ [token]) opened :=
  standing.append_nested (.other other .nothing)

theorem opening (standing : Standing tokens opened) (kind : token.kind = .opening bracket)
    (span : token.span = ⟨position, position.step bracket.opening⟩) :
    Standing (tokens ++ [token]) ((bracket, position) :: opened) :=
  standing.inside kind span .nothing

theorem closing (standing : Standing tokens ((bracket, position) :: opened))
    (kind : token.kind = .closing bracket) : Standing (tokens ++ [token]) opened := by
  cases standing with
  | inside standing opener span nested =>
      rw [List.append_assoc, List.cons_append]
      apply standing.append_nested
      rw [List.map_cons, List.map_append, List.map_singleton, opener, kind]
      exact .pair nested .nothing

theorem leaves (standing : Standing tokens opened) :
    leavesAll? [] (tokens.map Token.kind) = some (opened.map Prod.fst) := by
  induction standing with
  | nested nested => exact nested.leaves_nothing
  | @inside outer inner opener bracket position opened _ kind _ nested ih =>
      have inside := nested.leavesAll? (bracket :: opened.map Prod.fst) []
      rw [List.append_nil] at inside
      rw [List.map_append, List.map_cons, kind, leavesAll?_append, ih, Option.bind_some,
        leavesAll?_cons]
      exact inside

/-- What is open can be closed. -/
theorem extendable (standing : Standing tokens opened) :
    Extendable (tokens.map Token.kind) := by
  induction opened generalizing tokens with
  | nil =>
      have nested := standing.all_closed
      exact ⟨[], by rwa [List.append_nil]⟩
  | cons entry opened ih =>
      let closer : Token := ⟨.closing entry.1, ⟨.start, .start⟩⟩
      have closed : Standing (tokens ++ [closer]) opened := standing.closing rfl
      rcases ih closed with ⟨more, nested⟩
      rw [List.map_append, List.append_assoc] at nested
      exact ⟨_, nested⟩

end Standing

/-- An opening bracket is the first of some tokens that none of those behind it closes. -/
def FirstUnclosed (tokens : List Token) (opener : Token) : Prop :=
  ∃ front behind bracket, tokens = front ++ opener :: behind ∧ opener.kind = .opening bracket ∧
    ¬ ClosedIn bracket (behind.map Token.kind) ∧
    ∀ earlier other between inner, front = earlier ++ other :: between →
      other.kind = .opening inner →
      ClosedIn inner ((between ++ opener :: behind).map Token.kind)

/-- The bracket opened first stands behind nested tokens, and nothing behind it closes it. -/
theorem Standing.bottom (standing : Standing tokens opened)
    (first : opened.getLast? = some (bracket, position)) :
    ∃ front opener behind others, tokens = front ++ opener :: behind ∧
      Nested (front.map Token.kind) ∧ opener.kind = .opening bracket ∧
      opener.span = ⟨position, position.step bracket.opening⟩ ∧
      leavesAll? [] (behind.map Token.kind) = some others := by
  induction standing with
  | nested => cases first
  | @inside outer inner opener bracket' position' opened standing kind span nested ih =>
      rcases opened with _ | ⟨entry, opened⟩
      · cases first
        cases standing with
        | nested before =>
            exact ⟨outer, opener, inner, [], rfl, before, kind, span, nested.leaves_nothing⟩
      · rw [List.getLast?_cons_cons] at first
        rcases ih first with
          ⟨front, lowest, behind, others, rfl, before, lowestKind, lowestSpan, leaves⟩
        have inside := nested.leavesAll? (bracket' :: others) []
        rw [List.append_nil] at inside
        refine ⟨front, lowest, behind ++ opener :: inner, bracket' :: others, by simp, before,
          lowestKind, lowestSpan, ?_⟩
        rw [List.map_append, List.map_cons, kind, leavesAll?_append, leaves, Option.bind_some,
          leavesAll?_cons]
        exact inside

theorem Standing.firstUnclosed (standing : Standing tokens opened)
    (first : opened.getLast? = some (bracket, position)) :
    ∃ opener, FirstUnclosed tokens opener ∧
      opener.span = ⟨position, position.step bracket.opening⟩ := by
  rcases standing.bottom first with ⟨front, opener, behind, others, rfl, before, kind, span, leaves⟩
  refine ⟨opener, ⟨front, behind, bracket, rfl, kind, not_closedIn leaves, ?_⟩, span⟩
  rintro earlier other between inner rfl otherKind
  rw [List.map_append, List.map_cons, otherKind] at before
  rw [List.map_append]
  exact (before.closedIn rfl).append _

/-! ## Readers that know nothing of brackets -/

def Cause.OnBrackets : Cause → Prop
  | .unclosedBracket _ | .mismatchedBracket .. | .unmatchedBracket _ => True
  | _ => False

/-- The answer of a reader that does not complain about brackets. -/
inductive Bracketless {α : Type} (good : α → Prop) : Except Fault α → Prop
  | read {value : α} (found : good value) : Bracketless good (.ok value)
  | fault {fault : Fault} (other : ¬ fault.cause.OnBrackets) : Bracketless good (.error fault)

theorem Bracketless.map {α β : Type} {good : α → Prop} {good' : β → Prop} {f : α → β}
    {answer : Except Fault α} (free : Bracketless good answer)
    (onward : ∀ value, good value → good' (f value)) : Bracketless good' (answer.map f) := by
  cases free with
  | read found => exact .read (onward _ found)
  | fault other => exact .fault other

theorem Bracketless.cause {α : Type} {good : α → Prop} {fault : Fault}
    (free : Bracketless good (.error fault)) : ¬ fault.cause.OnBrackets := by
  cases free with
  | fault other => exact other

/-- The part makes no bracket. -/
def Part.Unbracketed (part : Part) : Prop :=
  match part.kind with
  | some kind => kind.Unbracketed
  | none => True

def AllUnbracketed (parts : List Part) : Prop :=
  ∀ part ∈ parts, part.Unbracketed

theorem Bracketless.single {part : Part} (unbracketed : part.Unbracketed) :
    Bracketless AllUnbracketed (.ok [part]) :=
  .read (List.forall_mem_singleton.mpr unbracketed)

/-! ### String literals -/

theorem readHexEscape_bracketless (count : Nat) (letter : Char) (rest : List Char) :
    Bracketless (fun _ => True) (readHexEscape count letter rest) := by
  unfold readHexEscape
  dsimp only
  split
  · exact .fault id
  · split
    · exact .read trivial
    · exact .fault id

theorem readNamedEscape_bracketless (rest : List Char) :
    Bracketless (fun _ => True) (readNamedEscape rest) := by
  unfold readNamedEscape
  split
  · dsimp only
    split
    · split
      · exact .read trivial
      · exact .fault id
    · exact .fault id
  · exact .fault id

theorem readEscape_bracketless (rest : List Char) :
    Bracketless (fun _ => True) (readEscape rest) := by
  unfold readEscape
  split
  · exact .read trivial
  · split
    · exact .read trivial
    · split
      · exact (readHexEscape_bracketless _ _ _).map fun _ _ => trivial
      · split
        · exact (readNamedEscape_bracketless _).map fun _ _ => trivial
        · exact .read trivial

/-- The body of a literal is read without a complaint about brackets. -/
inductive BodyBracketless : Except BodyFault (List Char × Nat) → Prop
  | read {read : List Char × Nat} : BodyBracketless (.ok read)
  | unclosed : BodyBracketless (.error .unclosed)
  | escape {fault : Fault} (other : ¬ fault.cause.OnBrackets) :
      BodyBracketless (.error (.escape fault))

theorem extendBody_bracketless {decoded : List Char}
    {answer : Except BodyFault (List Char × Nat)} (free : BodyBracketless answer) :
    BodyBracketless (extendBody decoded answer) := by
  cases free with
  | read => exact .read
  | unclosed => exact .unclosed
  | escape other => exact .escape other

theorem readBody_bracketless (closing : Char) (escapes : Bool) (inside : Nat) (rest : List Char) :
    BodyBracketless (readBody closing escapes inside rest) := by
  fun_induction readBody closing escapes inside rest with
  | case1 => exact .unclosed
  | case2 inside c rest ih => exact extendBody_bracketless ih
  | case3 => exact .read
  | case4 c rest _ _ fault failed =>
      have free := readEscape_bracketless rest
      rw [failed] at free
      exact .escape free.cause
  | case5 c rest _ _ decoded length _ ih => exact extendBody_bracketless ih
  | case6 c rest _ _ _ ih => exact extendBody_bracketless ih
  | case7 c rest _ _ ih => exact extendBody_bracketless ih

theorem readLiteral_bracketless (escapes : Bool) (rest : List Char) :
    Bracketless (fun _ => True) (readLiteral escapes rest) := by
  unfold readLiteral
  split
  · exact .read trivial
  · rename_i opening body
    have free := readBody_bracketless ((closingQuote? opening).getD opening) escapes 0 body
    dsimp only
    split
    · exact .read trivial
    · exact .fault id
    · rename_i fault failed
      rw [failed] at free
      cases free with
      | escape other => exact .fault other

theorem readLiterals_bracketless (escapes : Bool) (more : Nat) (rest : List Char) :
    Bracketless (fun _ => True) (readLiterals escapes more rest) := by
  induction more generalizing rest with
  | zero => exact readLiteral_bracketless escapes rest
  | succ more ih =>
      have first := readLiteral_bracketless escapes rest
      unfold readLiterals
      split
      · rename_i fault failed
        rw [failed] at first
        exact .fault first.cause
      · rename_i text length _
        have others := ih (rest.drop (length + triviaLength (rest.drop length)))
        dsimp only
        split
        · split
          · rename_i fault failed
            rw [failed] at others
            exact .fault others.cause
          · exact .read trivial
        · exact .read trivial

theorem readString_bracketless (switches : Switches) (rest : List Char) :
    Bracketless AllUnbracketed (readString switches rest) := by
  apply (readLiterals_bracketless _ _ _).map
  intro literal _
  exact List.forall_mem_singleton.mpr trivial

/-! ### Numbers -/

theorem integerPart_bracketless (base : Nat) (digits : List Char) (length : Nat) :
    Bracketless Part.Unbracketed (integerPart base digits length) := by
  unfold integerPart
  cases Number.fit? (Int.ofNat (Number.textValue base digits)) with
  | none => exact .fault id
  | some value => exact .read trivial

theorem readPrefixed_bracketless (base : Nat) (rest : List Char) :
    Bracketless Part.Unbracketed (readPrefixed base rest) := by
  have integer := integerPart_bracketless base (digitsOf (digitRun base (rest.drop 2)))
    (2 + (digitRun base (rest.drop 2)).length)
  unfold readPrefixed
  dsimp only
  split
  · split
    · exact .fault id
    · split
      · exact .fault id
      · exact integer
  · rw [if_neg Bool.false_ne_true]
    split
    · exact .fault id
    · exact integer

theorem readDecimal_bracketless (rest : List Char) :
    Bracketless Part.Unbracketed (readDecimal rest) := by
  unfold readDecimal
  dsimp only
  split
  · split
    · exact .fault id
    · exact .read trivial
  · exact integerPart_bracketless _ _ _

theorem readPowerOfTen_bracketless (rest : List Char) :
    Bracketless AllUnbracketed (readPowerOfTen rest) := by
  have nothing : Bracketless AllUnbracketed (.ok []) := .read (List.forall_mem_nil _)
  have exponent : (Part.mk (some .exponent) 1).Unbracketed := trivial
  unfold readPowerOfTen
  split
  · rename_i letter behind
    have digits := integerPart_bracketless 10 (behind.takeWhile Text.isIdentifierPart)
      (behind.takeWhile Text.isIdentifierPart).length
    dsimp only
    split
    · split
      · split
        · rename_i part read
          rw [read] at digits
          cases digits with
          | read found =>
              exact .read (List.forall_mem_cons.mpr ⟨exponent, List.forall_mem_singleton.mpr found⟩)
        · rename_i fault failed
          rw [failed] at digits
          exact .fault digits.cause
      · split
        · split
          · exact .single exponent
          · exact nothing
        · exact nothing
    · exact nothing
  · exact nothing

theorem readNumber_bracketless (powers : Bool) (rest : List Char) :
    Bracketless AllUnbracketed (readNumber powers rest) := by
  unfold readNumber
  split
  · rename_i base _
    exact (readPrefixed_bracketless base rest).map fun _ => List.forall_mem_singleton.mpr
  · have first := readDecimal_bracketless rest
    split
    · rename_i fault failed
      rw [failed] at first
      exact .fault first.cause
    · rename_i part read
      rw [read] at first
      cases first with
      | read found =>
          have power := readPowerOfTen_bracketless (rest.drop part.length)
          split
          · split
            · rename_i parts followed
              rw [followed] at power
              cases power with
              | read others => exact .read (List.forall_mem_cons.mpr ⟨found, others⟩)
            · rename_i fault failed
              rw [failed] at power
              exact .fault power.cause
          · exact .single found

/-! ### Words, marks and directives -/

theorem readWord_unbracketed (rest : List Char) : (readWord rest).Unbracketed := by
  unfold readWord
  dsimp only
  split
  · trivial
  · trivial

/-- What the reader of a piece makes of brackets: a token each, and no other tokens. -/
inductive PieceAnswers (c : Char) : Except Fault (List Part) → Prop
  | opening {bracket : Bracket} (char : c = bracket.opening) :
      PieceAnswers c (.ok [⟨some (.opening bracket), 1⟩])
  | closing {bracket : Bracket} (char : c = bracket.closing) :
      PieceAnswers c (.ok [⟨some (.closing bracket), 1⟩])
  | other {answer : Except Fault (List Part)} (other : Bracketless AllUnbracketed answer) :
      PieceAnswers c answer

theorem readMark_pieceAnswers (c : Char) (rest : List Char) :
    PieceAnswers c (readMark c rest) := by
  unfold readMark
  split
  · rename_i kind found
    have spelt := spells_of_readBracket? found []
    cases kind with
    | opening bracket => exact .opening (List.cons.inj spelt).1
    | closing bracket => exact .closing (List.cons.inj spelt).1
    | _ => exact .other (.single trivial)
  · split
    · exact .other (.single trivial)
    · exact .other (.fault id)

theorem readPiece_pieceAnswers (switches : Switches) (c : Char) (rest : List Char) :
    PieceAnswers c (readPiece switches c rest) := by
  unfold readPiece
  split
  · exact .other (.single trivial)
  split
  · exact .other (.single trivial)
  split
  · exact .other (.single trivial)
  split
  · exact .other (.single trivial)
  split
  · split
    · exact .other (.single trivial)
    · exact .other (.fault id)
  split
  · exact .other (readString_bracketless switches rest)
  split
  · exact .other (readNumber_bracketless switches.exponent rest)
  split
  · exact .other (.single (readWord_unbracketed rest))
  · exact readMark_pieceAnswers c rest

theorem readDirective_bracketless (switches : Switches) (rest : List Char) :
    Bracketless (fun _ => True) (readDirective switches rest) := by
  unfold readDirective
  dsimp only
  split
  · exact .fault id
  split
  · exact .fault id
  split
  · exact .fault id
  split
  · exact .fault id
  · exact .read trivial

/-! ## What a step does to the open brackets -/

/-- Brackets are open behind the tokens of a scan as it remembers them. -/
def Scan.Stands (scan : Scan) : Prop :=
  Standing scan.tokens.toList scan.brackets

/-- What a scan may come to. -/
inductive StepAnswers (scan : Scan) : Except LexError Scan → Prop
  | on {next : Scan} (stands : next.Stands) : StepAnswers scan (.ok next)
  | refused {bracket : Bracket} {after : List Char} {cause : Cause}
      (split : scan.rest = bracket.closing :: after) (kind : cause.kind = "UnmatchedBracketError")
      (refused : (TokenKind.closing bracket).leaves? (scan.brackets.map Prod.fst) = none) :
      StepAnswers scan (.error (scan.fail ⟨cause, 0, 1⟩))
  | other {error : LexError} (other : ¬ error.cause.OnBrackets) : StepAnswers scan (.error error)

theorem Scan.Stands.push (stands : scan.Stands) {kind : TokenKind} (other : kind.Unbracketed)
    (length : Nat) : (scan.emit kind length).Stands := by
  unfold Scan.Stands
  rw [Scan.tokens_emit]
  exact Standing.unbracketed stands other

theorem Scan.Stands.cover (stands : scan.Stands) {part : Part} (other : part.Unbracketed) :
    ∃ next, scan.cover part = .ok next ∧ next.Stands := by
  rcases part with ⟨kind, length⟩
  rcases kind with _ | kind
  · exact ⟨_, rfl, stands⟩
  · replace other : kind.Unbracketed := other
    cases kind with
    | opening bracket => cases other
    | closing bracket => cases other
    | _ => exact ⟨_, rfl, stands.push other length⟩

theorem Scan.Stands.coverAll (stands : scan.Stands) {parts : List Part}
    (others : AllUnbracketed parts) : ∃ next, scan.coverAll parts = .ok next ∧ next.Stands := by
  induction parts generalizing scan with
  | nil => exact ⟨scan, rfl, stands⟩
  | cons part parts ih =>
      rcases List.forall_mem_cons.mp others with ⟨first, later⟩
      rcases stands.cover first with ⟨next, covered, onward⟩
      rw [Scan.coverAll_cons, covered]
      exact ih onward later

theorem Scan.Stands.opening (stands : scan.Stands) (split : scan.rest = bracket.opening :: rest) :
    ∃ next, scan.coverAll [⟨some (.opening bracket), 1⟩] = .ok next ∧ next.Stands := by
  have place : (scan.skip 1).position = scan.position.step bracket.opening := by
    change scan.position.after (scan.rest.take 1) = _
    rw [split]
    rfl
  refine ⟨_, rfl, ?_⟩
  change Standing (scan.emit (.opening bracket) 1).tokens.toList _
  rw [Scan.tokens_emit, place]
  exact Standing.opening stands rfl rfl

theorem Scan.Stands.closing (stands : scan.Stands) (split : scan.rest = bracket.closing :: rest) :
    StepAnswers scan (scan.coverAll [⟨some (.closing bracket), 1⟩]) := by
  unfold Scan.Stands at stands
  rw [Scan.coverAll_cons]
  unfold Scan.cover
  simp only
  rcases open? : scan.brackets with _ | ⟨⟨opened, position⟩, outer⟩
  · exact .refused split rfl (by rw [open?]; rfl)
  · rw [open?] at stands
    simp only
    by_cases same : opened = bracket
    · subst same
      rw [if_pos rfl]
      apply StepAnswers.on
      change Standing (scan.emit (.closing opened) 1).tokens.toList outer
      rw [Scan.tokens_emit]
      exact Standing.closing stands rfl
    · rw [if_neg same]
      apply StepAnswers.refused split rfl
      rw [open?]
      simp [TokenKind.leaves?, same]

theorem Scan.Stands.direct (stands : scan.Stands) : StepAnswers scan scan.direct := by
  have free := readDirective_bracketless scan.switches scan.rest
  unfold Scan.direct
  split
  · exact .other id
  · split
    · exact .on stands
    · rename_i fault failed
      rw [failed] at free
      exact .other free.cause

theorem Scan.Stands.step (stands : scan.Stands) : StepAnswers scan scan.step := by
  rcases split : scan.rest with _ | ⟨c, rest⟩
  · rw [Scan.step_of_done split]
    exact .on stands
  by_cases sign : c = '@'
  · subst sign
    rw [Scan.step_of_sign split]
    exact stands.direct
  · have answers := readPiece_pieceAnswers scan.switches c scan.rest
    generalize read : readPiece scan.switches c scan.rest = answer at answers
    cases answers with
    | opening char =>
        rcases stands.opening (char ▸ split) with ⟨next, covered, onward⟩
        rw [Scan.step_of_piece split sign read, covered]
        exact .on onward
    | closing char =>
        rw [Scan.step_of_piece split sign read]
        exact stands.closing (char ▸ split)
    | other free =>
        cases free with
        | fault other =>
            rw [Scan.step_of_fault split sign read]
            exact .other other
        | read others =>
            rcases stands.coverAll others with ⟨next, covered, onward⟩
            rw [Scan.step_of_piece split sign read, covered]
            exact .on onward

/-! ## Whole texts -/

theorem Scan.Reaches.stands (reaches : scan.Reaches last) (stands : scan.Stands) :
    last.Stands := by
  induction reaches with
  | here => exact stands
  | @step scan next last unread stepped later ih =>
      have answers := stands.step
      rw [stepped] at answers
      cases answers with
      | on onward => exact ih onward

/-- The scan of a text has made these tokens of what stands before a place in it. -/
def MadeOf (switches : Switches) (text before : List Char) (tokens : List Token) : Prop :=
  ∃ scan, (Scan.start switches text).Reaches scan ∧ scan.HasRead text before ∧
    scan.tokens.toList = tokens

/--
What reading a text says about its brackets.  The bracket complained about is the first with
which no nested tokens can begin, or, at the end of the text, the first that is not closed.
-/
inductive BracketVerdict (switches : Switches) (text : List Char) :
    Except LexError (List Token × Switches) → Prop
  | nested {tokens : List Token} {next : Switches} (nested : Nested (tokens.map Token.kind)) :
      BracketVerdict switches text (.ok (tokens, next))
  | unmatched {error : LexError} {before after : List Char} {bracket : Bracket}
      {tokens : List Token} (kind : error.cause.kind = "UnmatchedBracketError")
      (split : text = before ++ bracket.closing :: after)
      (span : error.span = spanBehind before [bracket.closing])
      (made : MadeOf switches text before tokens) (fits : Extendable (tokens.map Token.kind))
      (refused : ¬ Extendable (tokens.map Token.kind ++ [.closing bracket])) :
      BracketVerdict switches text (.error error)
  | unclosed {error : LexError} {tokens : List Token} {opener : Token}
      (kind : error.cause.kind = "UnclosedBracketError")
      (made : MadeOf switches text text tokens) (fits : Extendable (tokens.map Token.kind))
      (left : ¬ Nested (tokens.map Token.kind)) (first : FirstUnclosed tokens opener)
      (span : error.span = opener.span) : BracketVerdict switches text (.error error)
  | other {error : LexError} (unmatched : error.cause.kind ≠ "UnmatchedBracketError")
      (unclosed : error.cause.kind ≠ "UnclosedBracketError") :
      BracketVerdict switches text (.error error)

theorem Cause.kind_of_not_onBrackets {cause : Cause} (other : ¬ cause.OnBrackets) :
    cause.kind ≠ "UnmatchedBracketError" ∧ cause.kind ≠ "UnclosedBracketError" := by
  cases cause with
  | unclosedBracket => exact absurd trivial other
  | mismatchedBracket => exact absurd trivial other
  | unmatchedBracket => exact absurd trivial other
  | _ => simp [Cause.kind]

theorem StepAnswers.verdict {text before : List Char} {error : LexError}
    (reaches : (Scan.start switches text).Reaches scan) (read : scan.HasRead text before)
    (stands : scan.Stands) (answers : StepAnswers scan (.error error)) :
    BracketVerdict switches text (.error error) := by
  cases answers with
  | @refused bracket after cause split kind refused =>
      have span : (scan.fail ⟨cause, 0, 1⟩).span = spanBehind before [bracket.closing] := by
        unfold Scan.fail Fault.locate spanBehind
        rw [split, read.place]
        exact congrArg _ (placeAfter_step before bracket.closing)
      exact .unmatched kind (split ▸ read.split) span ⟨scan, reaches, read, rfl⟩
        stands.extendable (not_extendable stands.leaves refused)
  | other other =>
      rcases Cause.kind_of_not_onBrackets other with ⟨unmatched, unclosed⟩
      exact .other unmatched unclosed

theorem Scan.Stands.finish {text before : List Char}
    (reaches : (Scan.start switches text).Reaches scan) (read : scan.HasRead text before)
    (stands : scan.Stands) (done : scan.rest = []) :
    BracketVerdict switches text scan.finish := by
  have whole : text = before := by
    rw [read.split, done, List.append_nil]
  unfold Scan.finish
  cases open? : scan.brackets.getLast? with
  | none =>
      unfold Scan.Stands at stands
      rw [List.getLast?_eq_none_iff.mp open?] at stands
      apply BracketVerdict.nested
      rw [List.map_append]
      exact stands.all_closed.append (.other trivial .nothing)
  | some entry =>
      rcases entry with ⟨bracket, position⟩
      rcases Standing.firstUnclosed stands open? with ⟨opener, first, span⟩
      have left : ¬ Nested (scan.tokens.toList.map Token.kind) := by
        intro nested
        have none := nested.leaves_nothing
        rw [Standing.leaves stands] at none
        rw [List.map_eq_nil_iff.mp (Option.some.inj none)] at open?
        cases open?
      exact .unclosed rfl ⟨scan, reaches, whole ▸ read, rfl⟩ stands.extendable left first span.symm

/--
Brackets are checked exactly.  For every text and all switches, the brackets belong together in
pairs if there are tokens.  If a closing bracket is refused, the tokens before it can go on to
be so and those with it cannot.  If a bracket is left open, all tokens of the text can go on to
be so but are not, and the bracket pointed at is the first that is not closed.
-/
theorem brackets_checked_exactly (switches : Switches) (text : String) :
    BracketVerdict switches text.toList (tokenize switches text) := by
  have stands : (Scan.start switches text.toList).Stands := .nested .nothing
  have read := Scan.hasRead_start switches text.toList
  have ends := (Scan.start switches text.toList).ends_outcome
  rw [tokenize_eq]
  unfold Scan.result
  generalize (Scan.start switches text.toList).outcome = outcome at ends
  cases ends with
  | done reaches done =>
      rcases reaches.hasRead read with ⟨before, hasRead⟩
      exact (reaches.stands stands).finish reaches hasRead done
  | @failed last error reaches unread failed =>
      rcases reaches.hasRead read with ⟨before, hasRead⟩
      have answers := (reaches.stands stands).step
      rw [failed] at answers
      exact answers.verdict reaches hasRead (reaches.stands stands)

end Lexical
end Scripting
