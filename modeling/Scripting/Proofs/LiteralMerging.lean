import Scripting.Proofs.JoinedTexts

namespace Scripting
namespace Lexical

/-!
Reading string literals as one is a merge of tokens.

With the switch for it on, the scan itself joins string literals that only gaps separate.
Here it is shown that the same tokens come about if the literals are read one by one and
their tokens are merged afterwards: string tokens with a gap of the text between them become
one token, and the tokens for line feeds in the gap are dropped.  Both ways fail at the same
place.  A scan that reads the literals one by one passes the same gaps, but a gap is passed
by the joining scan only if a literal follows it; so the two are compared literal by literal
and not character by character.
-/

variable {scan next final : Scan} {text rest after : List Char}

/-! ## Merged tokens -/

/-- A text is a gap if all of it is passed before a quote. -/
theorem gap_iff {gap : List Char} : Gap gap ↔ triviaLength (gap ++ ['"']) = gap.length := by
  constructor
  · intro filled
    exact filled.triviaLength_append ['"']
  · intro counted
    have shorter : triviaLength (gap ++ ['"']) < (gap ++ ['"']).length := by
      rw [counted, List.length_append]
      exact Nat.lt_succ_self _
    rcases Gap.of_triviaLength _ (Or.inr shorter) with ⟨front, behind, split, stops, filled⟩
    have length : front.length = gap.length := by
      rw [← counted, split, filled.triviaLength_append, stops, Nat.add_zero]
    rw [(List.append_inj split length.symm).1]
    exact filled

instance (gap : List Char) : Decidable (Gap gap) :=
  decidable_of_iff _ gap_iff.symm

/-- The text between two tokens. -/
def between (text : List Char) (first second : Token) : List Char :=
  (text.drop first.span.stop.index).take (second.span.start.index - first.span.stop.index)

/--
A token before others.  If it is a string and the next token other than a newline is one
too, with a gap between them, both become one.
-/
def joinToken (text : List Char) (token : Token) (later : List Token) : List Token :=
  match token.text?, later.dropWhile (·.kind = .newline) with
  | some value, other :: others =>
      match other.text? with
      | some more =>
          if Gap (between text token other) then
            ⟨.text (value ++ more), ⟨token.span.start, other.span.stop⟩⟩ :: others
          else token :: later
      | none => token :: later
  | _, _ => token :: later

/-- The tokens of a text with its neighbouring strings merged. -/
def mergeTokens (text : List Char) (tokens : List Token) : List Token :=
  tokens.foldr (joinToken text) []

theorem joinToken_other {token : Token} (other : token.text? = none) (later : List Token) :
    joinToken text token later = token :: later := by
  unfold joinToken
  rw [other]

theorem joinToken_joined {token other : Token} {later others : List Token} {value more : String}
    (first : token.text? = some value)
    (second : later.dropWhile (fun token => token.kind = .newline) = other :: others)
    (isText : other.text? = some more) (filled : Gap (between text token other)) :
    joinToken text token later =
      ⟨.text (value ++ more), ⟨token.span.start, other.span.stop⟩⟩ :: others := by
  unfold joinToken
  simp only [first, second, isText, if_pos filled]

/-- No string is joined to a token: what follows is none, or more than a gap separates it. -/
def Apart (text : List Char) (token : Token) (later : List Token) : Prop :=
  ∀ other others, later.dropWhile (fun token => token.kind = .newline) = other :: others →
    other.text?.isSome = true → ¬ Gap (between text token other)

theorem Apart.congr {token other : Token} {later : List Token}
    (stop : token.span.stop = other.span.stop) (apart : Apart text token later) :
    Apart text other later := by
  unfold Apart between at apart ⊢
  rwa [← stop]

theorem joinToken_apart {token : Token} {later : List Token} (apart : Apart text token later) :
    joinToken text token later = token :: later := by
  unfold joinToken
  split
  · rename_i value other others _ second
    split
    · rename_i more isText
      rw [if_neg (apart other others second (by rw [isText]; rfl))]
    · rfl
  · rfl

theorem text?_newline {token : Token} (newline : token.kind = .newline) : token.text? = none := by
  unfold Token.text?
  rw [newline]

theorem mergeTokens_cons (token : Token) (tokens : List Token) :
    mergeTokens text (token :: tokens) = joinToken text token (mergeTokens text tokens) := rfl

theorem mergeTokens_plain {plain : List Token} (others : ∀ token ∈ plain, token.text? = none)
    (tokens : List Token) : mergeTokens text (plain ++ tokens) = plain ++ mergeTokens text tokens := by
  induction plain with
  | nil => rfl
  | cons token plain ih =>
      have rest := ih fun token member => others token (List.mem_cons_of_mem _ member)
      rw [List.cons_append, mergeTokens_cons, rest, joinToken_other (others token List.mem_cons_self)]
      rfl

/-- A string with only newlines and a gap before another one, which may be merged already. -/
theorem mergeTokens_joined {first second : Token} {value more : String} {feeds group others : List Token}
    (isText : first.text? = some value) (isText' : second.text? = some more)
    (newlines : ∀ feed ∈ feeds, feed.kind = .newline) (filled : Gap (between text first second))
    (merged : mergeTokens text group = second :: others) :
    mergeTokens text (first :: (feeds ++ group)) =
      ⟨.text (value ++ more), ⟨first.span.start, second.span.stop⟩⟩ :: others := by
  have notNewline : second.kind ≠ .newline := by
    intro newline
    rw [text?_newline newline] at isText'
    cases isText'
  have next : (feeds ++ second :: others).dropWhile (fun token => token.kind = .newline) =
      second :: others := by
    rw [List.dropWhile_append_of_pos (by simpa using newlines)]
    exact List.dropWhile_cons_of_neg (by simpa using notNewline)
  rw [mergeTokens_cons, mergeTokens_plain fun feed member => text?_newline (newlines feed member),
    merged]
  exact joinToken_joined isText next isText' filled

theorem joinToken_head {token : Token} (other : token.kind ≠ .newline) (later : List Token) :
    ∃ head behind, joinToken text token later = head :: behind ∧ head.kind ≠ .newline ∧
      head.span.start = token.span.start ∧ head.text?.isSome = token.text?.isSome := by
  have unchanged : ∃ head behind, token :: later = head :: behind ∧ head.kind ≠ .newline ∧
      head.span.start = token.span.start ∧ head.text?.isSome = token.text?.isSome :=
    ⟨token, later, rfl, other, rfl, rfl⟩
  unfold joinToken
  split
  · rename_i value second others isText _
    split
    · split
      · exact ⟨_, _, rfl, TokenKind.noConfusion, rfl, by rw [isText]; rfl⟩
      · exact unchanged
    · exact unchanged
  · exact unchanged

/-- What the first token other than a newline is, is not changed by merging. -/
theorem head_mergeTokens {tokens others : List Token} {other : Token}
    (merged : (mergeTokens text tokens).dropWhile (fun token => token.kind = .newline) =
      other :: others) :
    ∃ token behind, tokens.dropWhile (fun token => token.kind = .newline) = token :: behind ∧
      other.span.start = token.span.start ∧ other.text?.isSome = token.text?.isSome := by
  induction tokens with
  | nil => cases merged
  | cons token tokens ih =>
      rw [mergeTokens_cons] at merged
      by_cases newline : token.kind = .newline
      · rw [joinToken_other (text?_newline newline), List.dropWhile_cons_of_pos (by simpa using newline)] at merged
        rw [List.dropWhile_cons_of_pos (by simpa using newline)]
        exact ih merged
      · rw [List.dropWhile_cons_of_neg (by simpa using newline)]
        rcases joinToken_head newline (mergeTokens text tokens) with
          ⟨head, behind, joined, notNewline, start, isText⟩
        rw [joined, List.dropWhile_cons_of_neg (by simpa using notNewline)] at merged
        rcases List.cons.inj merged with ⟨rfl, -⟩
        exact ⟨token, tokens, rfl, start, isText⟩

/-- The end of the file is no string, and merging leaves it where it is. -/
theorem mergeTokens_concat {last : Token} (other : last.text? = none)
    (notNewline : last.kind ≠ .newline) (tokens : List Token) :
    mergeTokens text (tokens ++ [last]) = mergeTokens text tokens ++ [last] := by
  induction tokens with
  | nil => exact joinToken_other other []
  | cons token tokens ih =>
      rw [List.cons_append, mergeTokens_cons, mergeTokens_cons, ih]
      generalize mergeTokens text tokens = later
      have stops : [last].dropWhile (fun token => token.kind = .newline) = [last] :=
        List.dropWhile_cons_of_neg (by simpa using notNewline)
      cases next : later.dropWhile (fun token => token.kind = .newline) with
      | nil =>
          have all : (later ++ [last]).dropWhile (fun token => token.kind = .newline) = [last] := by
            rw [List.dropWhile_append, next, List.isEmpty_nil, if_pos rfl, stops]
          unfold joinToken
          rw [next, all]
          cases token.text? with
          | none => rfl
          | some value =>
              simp only [other]
              rfl
      | cons second others =>
          have same : (later ++ [last]).dropWhile (fun token => token.kind = .newline) =
              second :: (others ++ [last]) := by
            rw [List.dropWhile_append, next]
            rfl
          unfold joinToken
          rw [next, same]
          cases token.text? with
          | none => rfl
          | some value =>
              cases isText : second.text? with
              | none => simp only [isText, List.cons_append]
              | some more =>
                  by_cases filled : Gap (between text token second)
                  · simp only [isText, if_pos filled, List.cons_append]
                  · simp only [isText, if_neg filled, List.cons_append]

/-! ## Literals read one by one -/

/-- The scan has before it what stands in the text from its position on. -/
def Scan.StandsIn (text : List Char) (scan : Scan) : Prop :=
  text.drop scan.position.index = scan.rest

theorem Scan.Passes.standsIn {piece : List Char} (passes : scan.Passes piece next)
    (stands : scan.StandsIn text) : next.StandsIn text := by
  unfold Scan.StandsIn at stands ⊢
  rw [passes.place, Source.Position.after_index, ← List.drop_drop, stands, passes.split,
    List.drop_left]

theorem Scan.passes_beyond {piece : List Char} (split : scan.rest = piece ++ rest)
    (tokens : List Token) : scan.Passes piece (scan.beyond piece tokens) where
  split := by rw [Scan.rest_beyond split, split]
  place := rfl

/-- The token for a stretch of text before a scan that is read as a string. -/
def Scan.textToken (scan : Scan) (lexeme value : List Char) : Token :=
  ⟨.text (String.ofList value), ⟨scan.position, scan.position.after lexeme⟩⟩

/-- What stands between a literal and the next one is the gap that separates them. -/
theorem Scan.gap_between {lexeme gap : List Char} (tokens : List Token)
    (stands : scan.StandsIn text) (split : scan.rest = lexeme ++ (gap ++ after)) (filled : Gap gap)
    (value others more : List Char) :
    Gap (between text (scan.textToken lexeme value)
      ((scan.beyond (lexeme ++ gap) tokens).textToken others more)) := by
  have behind := (Scan.passes_beyond split []).standsIn stands
  have rest : text.drop (scan.position.after lexeme).index = gap ++ after :=
    Eq.trans behind (Scan.rest_beyond split [])
  have length : (scan.position.after (lexeme ++ gap)).index -
      (scan.position.after lexeme).index = gap.length := by
    simp only [Source.Position.after_index, List.length_append]
    omega
  change Gap ((text.drop (scan.position.after lexeme).index).take
    ((scan.position.after (lexeme ++ gap)).index - (scan.position.after lexeme).index))
  rw [length, rest, List.take_left]
  exact filled

/--
A scan that reads literals one by one has passed those that are read as one otherwise.  Their
tokens are merged to one, if no further literal follows behind a gap.
-/
inductive ChainPassed (text : List Char) (scan : Scan) : Except Fault (List Char × Nat) → Prop
  | fault {fault : Fault} (failed : scan.outcome = .error (scan.fail fault)) :
      ChainPassed text scan (.error fault)
  | read {lexeme rest value : List Char} {group : List Token} (some : lexeme ≠ [])
      (split : scan.rest = lexeme ++ rest)
      (onward : scan.outcome = (scan.beyond lexeme group).outcome)
      (last : ∃ token ∈ group, token.kind ≠ .newline ∧
        token.span.stop = scan.position.after lexeme)
      (alone : opensLiteral (rest.drop (triviaLength rest)) = false)
      (merges : ∀ later, Apart text (scan.textToken lexeme value) (mergeTokens text later) →
        mergeTokens text (group ++ later) =
          scan.textToken lexeme value :: mergeTokens text later) :
      ChainPassed text scan (.ok (value, lexeme.length))

/-- A literal and a gap before literals that are passed one by one. -/
theorem ChainPassed.behind {lexeme gap value : List Char} {feeds : List Token}
    {answer : Except Fault (List Char × Nat)} (stands : scan.StandsIn text)
    (split : scan.rest = lexeme ++ (gap ++ after)) (filled : Gap gap)
    (newlines : ∀ feed ∈ feeds, feed.kind = .newline)
    (onward : scan.outcome =
      (scan.beyond (lexeme ++ gap) (scan.textToken lexeme value :: feeds)).outcome)
    (passed : ChainPassed text
      (scan.beyond (lexeme ++ gap) (scan.textToken lexeme value :: feeds)) answer) :
    ChainPassed text scan (Chained value (lexeme ++ gap).length answer) := by
  have front : scan.rest = (lexeme ++ gap) ++ after := by
    rw [split, List.append_assoc]
  cases passed with
  | fault failed =>
      refine .fault ?_
      rw [onward, failed, Scan.fail_beyond front]
  | @read others rest more group some splitOthers onwardOthers last alone merges =>
      have wholeSplit : scan.rest = (lexeme ++ gap ++ others) ++ rest := by
        rw [Scan.rest_beyond front] at splitOthers
        rw [front, splitOthers]
        simp only [List.append_assoc]
      have place : scan.position.after (lexeme ++ gap ++ others) =
          (scan.position.after (lexeme ++ gap)).after others := Source.Position.after_append _ _ _
      have passed : ChainPassed text scan (.ok (value ++ more, (lexeme ++ gap ++ others).length)) := by
        refine @ChainPassed.read text scan _ rest _ (scan.textToken lexeme value :: (feeds ++ group))
          (List.append_ne_nil_of_right_ne_nil _ some) wholeSplit ?_ ?_ alone ?_
        · rw [onward, onwardOthers, Scan.beyond_beyond]
          rfl
        · rcases last with ⟨token, member, other, stop⟩
          exact ⟨token, List.mem_cons_of_mem _ (List.mem_append_right _ member), other,
            stop.trans place.symm⟩
        · intro later apart
          have merged := merges later (apart.congr place)
          have gapBetween := Scan.gap_between (scan.textToken lexeme value :: feeds) stands split
            filled value others more
          rw [List.cons_append, List.append_assoc,
            mergeTokens_joined rfl rfl newlines gapBetween merged]
          unfold Scan.textToken
          rw [place, String.ofList_append]
          rfl
      rwa [List.length_append] at passed

theorem Scan.chainPassed (plain : scan.switches.implicitConcat = false)
    (opens : opensLiteral scan.rest = true) (stands : scan.StandsIn text) :
    ChainPassed text scan (readChain scan.switches.escapes scan.rest) := by
  induction size : scan.rest.length using Nat.strongRecOn generalizing scan with
  | _ size ih =>
      subst size
      have literals : scan.literals = readLiteral scan.switches.escapes scan.rest := by
        unfold Scan.literals
        rw [plain]
        rfl
      cases first : readLiteral scan.switches.escapes scan.rest with
      | error fault =>
          rw [readChain_of_fault first]
          exact .fault (Scan.outcome_of_fault (Scan.step_of_literalFault opens (literals.trans first)))
      | ok literal =>
          rcases literal with ⟨value, length⟩
          rcases readLiteral_split opens first with ⟨lexeme, behind, split, rfl, some, -⟩
          have stepped := Scan.outcome_of_step (Scan.step_of_literal opens (literals.trans first))
          rw [Scan.emit_eq_beyond split] at stepped
          change scan.outcome = (scan.beyond lexeme [scan.textToken lexeme value]).outcome at stepped
          cases again : opensLiteral (behind.drop (triviaLength behind)) with
          | false =>
              rw [split] at first ⊢
              rw [readChain_alone first again]
              refine .read some split stepped ?_ again ?_
              · exact ⟨_, List.mem_singleton_self _, TokenKind.noConfusion, rfl⟩
              · intro later apart
                exact joinToken_apart apart
          | true =>
              rcases Gap.of_opensLiteral again with ⟨gap, after, rfl, filled, opensAfter⟩
              rcases Scan.outcome_gap filled (Scan.rest_beyond split _) with
                ⟨feeds, newlines, onward⟩
              rw [Scan.beyond_beyond] at onward
              have front : scan.rest = (lexeme ++ gap) ++ after := by
                rw [split, List.append_assoc]
              let later := scan.beyond (lexeme ++ gap) (scan.textToken lexeme value :: feeds)
              have rest : later.rest = after := Scan.rest_beyond front _
              have passes : scan.Passes (lexeme ++ gap) later := Scan.passes_beyond front _
              have shorter := passes.shorter (List.append_ne_nil_of_left_ne_nil some gap)
              have opensLater : opensLiteral later.rest = true := by rw [rest, opensAfter]
              have plainLater : later.switches.implicitConcat = false := plain
              have passed := ih _ shorter plainLater opensLater (passes.standsIn stands) rfl
              have chained : readChain scan.switches.escapes scan.rest =
                  Chained value (lexeme ++ gap).length (readChain later.switches.escapes later.rest) := by
                rw [split] at opens first
                rw [rest, split]
                exact readChain_again opens first filled opensAfter
              rw [chained]
              exact passed.behind stands split filled newlines (stepped.trans onward)

/-! ## Pieces other than literals -/

/-- The same scan with the switch on and other tokens. -/
def Scan.joining (front : Array Token) (scan : Scan) : Scan :=
  { scan with
    switches := { scan.switches with implicitConcat := true }
    tokens := front }

/-- Two scans that go the same way, where the second one has the switch on. -/
inductive Beside (before front : Array Token) :
    Except LexError Scan → Except LexError Scan → Prop
  | on {next : Scan} {added : List Token} (tokens : next.tokens = before ++ added.toArray)
      (others : ∀ token ∈ added, token.text? = none)
      (plain : next.switches.implicitConcat = false) :
      Beside before front (.ok next) (.ok (next.joining (front ++ added.toArray)))
  | fault (error : LexError) : Beside before front (.error error) (.error error)

/-- A part that makes no string token. -/
def Part.Plain (part : Part) : Prop :=
  ∀ value, part.kind ≠ some (.text value)

theorem text?_eq_none {kind : TokenKind} (plain : ∀ value, kind ≠ .text value) (span : Source.Span) :
    Token.text? ⟨kind, span⟩ = none := by
  unfold Token.text?
  split
  · rename_i value same
    exact absurd same (plain value)
  · rfl

theorem Scan.emit_joining (front : Array Token) (kind : TokenKind) (length : Nat) :
    (scan.joining front).emit kind length = (scan.emit kind length).joining
      (front ++ [⟨kind, ⟨scan.position, (scan.skip length).position⟩⟩].toArray) := by
  unfold Scan.emit Scan.joining
  simp only [Array.append_singleton]
  rfl

theorem Scan.cover_beside (plain : scan.switches.implicitConcat = false) (front : Array Token)
    {part : Part} (other : part.Plain) :
    Beside scan.tokens front (scan.cover part) ((scan.joining front).cover part) := by
  rcases part with ⟨kind, length⟩
  rcases kind with _ | kind
  · have same : (scan.joining front).skip length =
        (scan.skip length).joining (front ++ ([] : List Token).toArray) := by
      unfold Scan.skip Scan.joining
      simp only [List.toArray, Array.append_empty]
    change Beside scan.tokens front (.ok _) (.ok _)
    rw [same]
    exact .on (by simp [Scan.skip]) (fun _ none => absurd none List.not_mem_nil) plain
  have notText : ∀ value, kind ≠ .text value := by
    intro value same
    exact other value (congrArg some same)
  have emitted : ∀ next : Scan, next.tokens = (scan.emit kind length).tokens →
      next.switches = scan.switches →
      Beside scan.tokens front (.ok next) (.ok (next.joining
        (front ++ [⟨kind, ⟨scan.position, (scan.skip length).position⟩⟩].toArray))) := by
    intro next tokens switches
    refine .on ?_ ?_ ?_
    · rw [tokens]
      simp [Scan.emit]
    · exact List.forall_mem_singleton.mpr (text?_eq_none notText _)
    · rw [switches, plain]
  cases kind with
  | opening bracket =>
      unfold Scan.cover
      simp only [Scan.emit_joining]
      exact emitted _ rfl rfl
  | closing bracket =>
      unfold Scan.cover
      simp only [Scan.emit_joining]
      rcases opened : scan.brackets with _ | ⟨entry, outer⟩
      · have same : (scan.joining front).brackets = [] := opened
        simp only [same]
        exact .fault _
      · have same : (scan.joining front).brackets = entry :: outer := opened
        simp only [same]
        split
        · exact emitted _ rfl rfl
        · exact .fault _
  | text value => exact absurd rfl (notText value)
  | _ =>
      change Beside scan.tokens front (.ok _) (.ok _)
      rw [Scan.emit_joining]
      exact emitted _ rfl rfl

theorem Scan.coverAll_beside {parts : List Part} (plain : scan.switches.implicitConcat = false)
    (front : Array Token) (others : ∀ part ∈ parts, part.Plain) :
    Beside scan.tokens front (scan.coverAll parts) ((scan.joining front).coverAll parts) := by
  induction parts generalizing scan front with
  | nil =>
      have same : scan.joining front = scan.joining (front ++ ([] : List Token).toArray) := by
        simp
      change Beside scan.tokens front (.ok _) (.ok _)
      rw [same]
      exact .on (by simp) (fun _ none => absurd none List.not_mem_nil) plain
  | cons part parts ih =>
      rw [Scan.coverAll_cons, Scan.coverAll_cons]
      have first := Scan.cover_beside plain front (others part List.mem_cons_self)
      generalize scan.cover part = one at first
      generalize (scan.joining front).cover part = two at first
      cases first with
      | fault error => exact .fault error
      | @on next added tokens plainTokens plainNext =>
          have onward := ih plainNext (front ++ added.toArray)
            fun part member => others part (List.mem_cons_of_mem _ member)
          change Beside scan.tokens front (next.coverAll parts)
            ((next.joining (front ++ added.toArray)).coverAll parts)
          generalize next.coverAll parts = one at onward
          generalize (next.joining (front ++ added.toArray)).coverAll parts = two at onward
          cases onward with
          | fault error => exact .fault error
          | @on last more tokens' plainTokens' plainLast =>
              have joined : last.joining (front ++ added.toArray ++ more.toArray) =
                  last.joining (front ++ (added ++ more).toArray) := by
                simp
              rw [joined]
              refine .on ?_ (List.forall_mem_append.mpr ⟨plainTokens, plainTokens'⟩) plainLast
              rw [tokens', tokens]
              simp

theorem integerPart_plain {base length : Nat} {digits : List Char} {part : Part}
    (read : integerPart base digits length = .ok part) : part.Plain := by
  unfold integerPart at read
  cases fits : Number.fit? (Int.ofNat (Number.textValue base digits)) with
  | none =>
      rw [fits] at read
      cases read
  | some value =>
      rw [fits] at read
      cases read
      exact nofun

theorem readPrefixed_plain {base : Nat} {part : Part} (read : readPrefixed base rest = .ok part) :
    part.Plain := by
  unfold readPrefixed at read
  simp only at read
  split at read
  all_goals
    split at read
    · cases read
    · split at read
      · cases read
      · exact integerPart_plain read

theorem readDecimal_plain {part : Part} (read : readDecimal rest = .ok part) : part.Plain := by
  unfold readDecimal at read
  simp only at read
  split at read
  · split at read
    · cases read
    · cases read
      exact nofun
  · exact integerPart_plain read

theorem readPowerOfTen_plain {parts : List Part} (read : readPowerOfTen rest = .ok parts) :
    ∀ part ∈ parts, part.Plain := by
  have none : ∀ part ∈ ([] : List Part), part.Plain :=
    fun _ member => absurd member List.not_mem_nil
  unfold readPowerOfTen at read
  split at read
  · split at read
    · simp only at read
      split at read
      · split at read
        · rename_i digits found
          cases read
          exact List.forall_mem_cons.mpr
            ⟨nofun, List.forall_mem_singleton.mpr (integerPart_plain found)⟩
        · cases read
      · split at read
        · split at read
          · cases read
            exact List.forall_mem_singleton.mpr nofun
          · cases read
            exact none
        · cases read
          exact none
    · cases read
      exact none
  · cases read
    exact none

theorem readNumber_plain {powers : Bool} {parts : List Part}
    (read : readNumber powers rest = .ok parts) : ∀ part ∈ parts, part.Plain := by
  unfold readNumber at read
  split at read
  · rename_i base _
    cases found : readPrefixed base rest with
    | error fault =>
        rw [found] at read
        cases read
    | ok part =>
        rw [found] at read
        cases read
        exact List.forall_mem_singleton.mpr (readPrefixed_plain found)
  · split at read
    · cases read
    · rename_i part found
      split at read
      · split at read
        · rename_i more power
          cases read
          exact List.forall_mem_cons.mpr ⟨readDecimal_plain found, readPowerOfTen_plain power⟩
        · cases read
      · cases read
        exact List.forall_mem_singleton.mpr (readDecimal_plain found)

theorem readWord_plain (rest : List Char) : (readWord rest).Plain := by
  unfold readWord
  simp only
  split
  · exact nofun
  · exact nofun

theorem readBracket?_ne_text {c : Char} {value : String} :
    readBracket? c ≠ some (.text value) := by
  unfold readBracket?
  split
  · exact nofun
  split
  · exact nofun
  split
  · exact nofun
  split
  · exact nofun
  · exact nofun

theorem readMark_plain {c : Char} {parts : List Part} (read : readMark c rest = .ok parts) :
    ∀ part ∈ parts, part.Plain := by
  unfold readMark at read
  split at read
  · rename_i kind bracket
    cases read
    intro part member value same
    rw [List.mem_singleton.mp member] at same
    cases same
    exact readBracket?_ne_text bracket
  · split at read
    · cases read
      exact List.forall_mem_singleton.mpr nofun
    · cases read

/-- Only string literals make string tokens. -/
theorem readPiece_plain {switches : Switches} {c : Char} {parts : List Part}
    (other : (closingQuote? c).isSome = false) (read : readPiece switches c rest = .ok parts) :
    ∀ part ∈ parts, part.Plain := by
  have skipped : ∀ length, ∀ part ∈ [Part.mk none length], part.Plain :=
    fun _ => List.forall_mem_singleton.mpr nofun
  unfold readPiece at read
  split at read
  · cases read
    exact skipped _
  split at read
  · cases read
    exact List.forall_mem_singleton.mpr nofun
  split at read
  · cases read
    exact skipped _
  split at read
  · cases read
    exact skipped _
  split at read
  · split at read
    · cases read
      exact skipped _
    · cases read
  rw [other, if_neg Bool.false_ne_true] at read
  split at read
  · exact readNumber_plain read
  split at read
  · cases read
    exact List.forall_mem_singleton.mpr (readWord_plain rest)
  · exact readMark_plain read

/-- The switch matters to string literals only. -/
theorem readPiece_switch {switches : Switches} {c : Char}
    (other : (closingQuote? c).isSome = false) (rest : List Char) :
    readPiece { switches with implicitConcat := true } c rest = readPiece switches c rest := by
  unfold readPiece
  rw [other, if_neg Bool.false_ne_true, if_neg Bool.false_ne_true]

/-! ## Directives -/

/-- A directive for the switch of the given name stands at the head of a text. -/
def DirectiveFor (name : String) (rest : List Char) : Prop :=
  ∃ gap behind, rest = '@' :: ("meta".toList ++ (gap ++ (name.toList ++ behind))) ∧ gap ≠ [] ∧
    (∀ c ∈ gap, c = ' ' ∨ c = '\t') ∧ ∀ c ∈ behind.head?, Text.isIdentifierPart c = false

theorem set?_switch {switches : Switches} {name : String} (other : name ≠ "implicit_concat")
    (flag : Bool) : Switches.set? { switches with implicitConcat := true } name flag =
      (switches.set? name flag).map fun updated => { updated with implicitConcat := true } := by
  unfold Switches.set?
  split
  · rfl
  · exact absurd rfl other
  · rfl
  · rfl

theorem set?_kept {switches updated : Switches} {name : String} {flag : Bool}
    (other : name ≠ "implicit_concat") (set : switches.set? name flag = some updated) :
    updated.implicitConcat = switches.implicitConcat := by
  unfold Switches.set? at set
  split at set
  · cases set
    rfl
  · exact absurd rfl other
  · cases set
    rfl
  · cases set

/-- What a directive does to the switches, if it is not for the one that is compared. -/
def DirectiveAlike (plain joining : Except Fault (Switches × Nat)) (switches : Switches) : Prop :=
  joining = plain.map (fun read => ({ read.1 with implicitConcat := true }, read.2)) ∧
    ∀ updated length, plain = .ok (updated, length) →
      updated.implicitConcat = switches.implicitConcat

/-- The name that the reader of directives finds is the one that stands there. -/
theorem directiveFor_of_name {rest : List Char} (sign : ∃ behind, rest = '@' :: behind)
    (directs : String.ofList (wordAt (rest.drop 1)) = "meta") {name : String}
    (some : name.toList ≠ [])
    (named : wordAt (rest.drop (1 + (wordAt (rest.drop 1)).length +
      gapAt (rest.drop (1 + (wordAt (rest.drop 1)).length)))) = name.toList) :
    DirectiveFor name rest := by
  rcases sign with ⟨behind, rfl⟩
  rcases takeWhile_split Text.isIdentifierPart behind with ⟨behindWord, splitWord, dropWord, endWord⟩
  rcases takeWhile_split (fun c => c = ' ' || c = '\t') behindWord with ⟨behindGap, splitGap, -, -⟩
  rcases takeWhile_split Text.isIdentifierPart behindGap with ⟨behindName, splitName, -, endName⟩
  generalize wordIs : behind.takeWhile Text.isIdentifierPart = word at splitWord dropWord
  generalize gapIs : behindWord.takeWhile (fun c => c = ' ' || c = '\t') = gap at splitGap
  -- What is left behind the word and behind the blanks.
  have atWord : ('@' :: behind).drop 1 = word ++ behindWord := splitWord
  have atGap : ('@' :: behind).drop (1 + word.length) = gap ++ behindGap :=
    (drop_add_length atWord).trans splitGap
  have wordRead : wordAt (('@' :: behind).drop 1) = word := wordIs
  have gapRead : gapAt (gap ++ behindGap) = gap.length := by
    rw [← splitGap, ← gapIs]
    rfl
  rw [wordRead, atGap, gapRead, drop_add_length atGap] at named
  rw [wordRead] at directs
  have metaWord : word = "meta".toList := by
    rw [← directs, String.toList_ofList]
  change behindGap = wordAt behindGap ++ behindName at splitName
  rw [named] at splitName
  refine ⟨gap, behindName, ?_, ?_, ?_, endName⟩
  · rw [splitWord, splitGap, splitName, metaWord]
  · -- Without blanks the name would have been read as part of the word.
    rintro rfl
    rcases List.exists_cons_of_ne_nil some with ⟨c, more, starts⟩
    have part : Text.isIdentifierPart c = true := by
      apply List.mem_takeWhile_imp (l := behindGap)
      change c ∈ wordAt behindGap
      rw [named, starts]
      exact List.mem_cons_self
    have first : c ∈ behindWord.head? := by
      rw [splitGap, splitName, starts]
      rfl
    rw [endWord c first] at part
    cases part
  · intro c member
    rw [← gapIs] at member
    simpa using List.mem_takeWhile_imp member

theorem readDirective_alike {switches : Switches} {behind : List Char}
    (unset : ¬ DirectiveFor "implicit_concat" ('@' :: behind)) :
    DirectiveAlike (readDirective switches ('@' :: behind))
      (readDirective { switches with implicitConcat := true } ('@' :: behind)) switches := by
  generalize text : '@' :: behind = rest at unset
  have fault : ∀ fault, DirectiveAlike (.error fault) (.error fault) switches :=
    fun fault => ⟨rfl, nofun⟩
  unfold readDirective
  simp only
  split
  · exact fault _
  · rename_i directs
    split
    · exact fault _
    · rename_i named
      split
      · exact fault _
      · rename_i flag _
        have other : String.ofList (wordAt (rest.drop (1 + (wordAt (rest.drop 1)).length +
            gapAt (rest.drop (1 + (wordAt (rest.drop 1)).length))))) ≠ "implicit_concat" := by
          intro same
          have name := congrArg String.toList same
          rw [String.toList_ofList] at name
          exact unset (directiveFor_of_name ⟨behind, text.symm⟩ (not_not.mp directs) (by decide) name)
        rw [set?_switch other]
        cases set : switches.set? _ flag with
        | none => exact fault _
        | some updated =>
            refine ⟨rfl, ?_⟩
            intro updated' length same
            cases same
            exact set?_kept other set

/-- A directive would come too late behind these tokens. -/
def isLate (tokens : Array Token) : Bool :=
  tokens.any fun token => token.kind ≠ .newline

theorem isLate_append (first second : Array Token) :
    isLate (first ++ second) = (isLate first || isLate second) :=
  Array.any_append

theorem Scan.direct_beside (plain : scan.switches.implicitConcat = false) {front : Array Token}
    (late : isLate front = isLate scan.tokens) (sign : scan.rest = '@' :: rest)
    (unset : isLate scan.tokens = true ∨ ¬ DirectiveFor "implicit_concat" scan.rest) :
    Beside scan.tokens front scan.direct (scan.joining front).direct := by
  have lateJoining : (scan.joining front).tokens.any (fun token => token.kind ≠ .newline) =
      scan.tokens.any fun token => token.kind ≠ .newline := late
  unfold Scan.direct
  rw [lateJoining]
  split
  · exact .fault _
  · rename_i early
    have alike : DirectiveAlike (readDirective scan.switches scan.rest)
        (readDirective (scan.joining front).switches (scan.joining front).rest) scan.switches := by
      have unsetHere := unset.resolve_left early
      rw [sign] at unsetHere
      have alike := @readDirective_alike scan.switches rest unsetHere
      rw [← sign] at alike
      exact alike
    rw [alike.1]
    cases read : readDirective scan.switches scan.rest with
    | error fault => exact .fault _
    | ok directive =>
        rcases directive with ⟨updated, length⟩
        have kept := (alike.2 updated length read).trans plain
        have none : ∀ token ∈ ([] : List Token), token.text? = none :=
          fun _ member => absurd member List.not_mem_nil
        let next : Scan := { scan.skip length with switches := updated }
        have tokens : next.tokens = scan.tokens ++ ([] : List Token).toArray := by
          simp [next, Scan.skip]
        have both := @Beside.on scan.tokens front next [] tokens none kept
        simp only [List.toArray, Array.append_empty] at both
        exact both

/-- Pieces other than literals are read in the same way. -/
theorem Scan.step_beside (plain : scan.switches.implicitConcat = false) {front : Array Token}
    (late : isLate front = isLate scan.tokens)
    (unset : isLate scan.tokens = true ∨ ¬ DirectiveFor "implicit_concat" scan.rest)
    (other : opensLiteral scan.rest = false) :
    Beside scan.tokens front scan.step (scan.joining front).step := by
  rcases split : scan.rest with _ | ⟨c, rest⟩
  · have done : (scan.joining front).rest = [] := split
    rw [Scan.step_of_done split, Scan.step_of_done done]
    exact Scan.coverAll_beside plain front (fun _ none => absurd none List.not_mem_nil)
  have joining : (scan.joining front).rest = c :: rest := split
  by_cases sign : c = '@'
  · subst sign
    rw [Scan.step_of_sign split, Scan.step_of_sign joining]
    exact Scan.direct_beside plain late split unset
  · rw [split] at other
    have same : readPiece (scan.joining front).switches c (scan.joining front).rest =
        readPiece scan.switches c scan.rest := readPiece_switch other scan.rest
    cases read : readPiece scan.switches c scan.rest with
    | error fault =>
        rw [Scan.step_of_fault split sign read, Scan.step_of_fault joining sign (same.trans read)]
        exact .fault _
    | ok parts =>
        rw [Scan.step_of_piece split sign read, Scan.step_of_piece joining sign (same.trans read)]
        exact Scan.coverAll_beside plain front (readPiece_plain other read)

/-! ## The two scans -/

/-- Strings stand where literals begin, and no token overlaps the next one. -/
structure Sound (text : List Char) (tokens : List Token) : Prop where
  literals : ∀ token ∈ tokens, token.text?.isSome = true →
    opensLiteral (text.drop token.span.start.index) = true
  ordered : tokens.Pairwise fun first second => first.span.stop.index ≤ second.span.start.index

/-- The outcome with the switch on is the merged one. -/
inductive MergedOutcome (text : List Char) (before front : Array Token) :
    Except LexError Scan → Except LexError Scan → Prop
  | ok {final : Scan} {added : List Token} (tokens : final.tokens = before ++ added.toArray) :
      MergedOutcome text before front (.ok final)
        (.ok (final.joining (front ++ (mergeTokens text added).toArray)))
  | error (error : LexError) : MergedOutcome text before front (.error error) (.error error)

/-- No string follows behind a gap, because no literal does. -/
theorem Sound.apart {before added : List Token} {token stop : Token}
    (sound : Sound text (before ++ added)) (member : token ∈ before)
    (same : token.span.stop = stop.span.stop)
    (behind : text.drop stop.span.stop.index = after)
    (alone : opensLiteral (after.drop (triviaLength after)) = false) :
    Apart text stop (mergeTokens text added) := by
  intro other others next isText filled
  rcases head_mergeTokens next with ⟨first, rest, begins, start, isText'⟩
  have member' : first ∈ added := by
    apply (List.dropWhile_suffix _).subset
    rw [begins]
    exact List.mem_cons_self
  have opens := sound.literals first (List.mem_append_right _ member') (isText'.symm.trans isText)
  have order := (List.pairwise_append.mp sound.ordered).2.2 token member first member'
  rw [same] at order
  -- The text between the tokens would be the gap before a literal.
  have split : after = between text stop other ++ text.drop first.span.start.index := by
    unfold between
    rw [start, behind]
    have dropped : text.drop first.span.start.index =
        after.drop (first.span.start.index - stop.span.stop.index) := by
      rw [← behind, List.drop_drop, Nat.add_sub_cancel' order]
    rw [dropped, List.take_append_drop]
  have counted : triviaLength after = (between text stop other).length := by
    rw [split, filled.triviaLength_append, triviaLength_of_opensLiteral opens, Nat.add_zero]
  rw [counted, split, List.drop_left, opens] at alone
  cases alone

/-- Tokens that have been passed before, and what they are merged to. -/
theorem MergedOutcome.earlier {before front : Array Token} {passed joined : List Token}
    {plain joining : Except LexError Scan}
    (merges : ∀ final added, plain = .ok final →
      final.tokens.toList = before.toList ++ (passed ++ added) →
      mergeTokens text (passed ++ added) = joined ++ mergeTokens text added)
    (onward : MergedOutcome text (before ++ passed.toArray) (front ++ joined.toArray) plain joining) :
    MergedOutcome text before front plain joining := by
  cases onward with
  | error error => exact .error error
  | @ok final added tokens =>
      have all : final.tokens = before ++ (passed ++ added).toArray := by
        rw [tokens]
        simp
      have merged := merges final added rfl (by rw [all]; simp)
      have front : front ++ joined.toArray ++ (mergeTokens text added).toArray =
          front ++ (mergeTokens text (passed ++ added)).toArray := by
        rw [merged]
        simp
      rw [front]
      exact .ok all

theorem isLate_of_mem {tokens : List Token} {token : Token} (member : token ∈ tokens)
    (other : token.kind ≠ .newline) : isLate tokens.toArray = true := by
  unfold isLate
  rw [List.any_toArray, List.any_eq_true]
  exact ⟨token, member, by simpa using other⟩

/--
A scan of the text that joins no literals, and the tokens that another scan has at the same
point, which joins them.  No directive for the switch can be met from there on.
-/
structure Scan.Merging (text : List Char) (front : Array Token) (scan : Scan) : Prop where
  plain : scan.switches.implicitConcat = false
  stands : scan.StandsIn text
  late : isLate front = isLate scan.tokens
  unset : isLate scan.tokens = true ∨
    ∀ later, scan.Reaches later → ¬ DirectiveFor "implicit_concat" later.rest
  sound : ∀ final, scan.outcome = .ok final → Sound text final.tokens.toList

section Merging

variable {front : Array Token} {added : List Token}

theorem Scan.Merging.step {piece : List Char} (merging : scan.Merging text front)
    (unread : scan.rest ≠ []) (stepped : scan.step = .ok next) (passes : scan.Passes piece next)
    (tokens : next.tokens = scan.tokens ++ added.toArray)
    (plain : next.switches.implicitConcat = false) :
    next.Merging text (front ++ added.toArray) where
  plain := plain
  stands := passes.standsIn merging.stands
  late := by rw [tokens, isLate_append, isLate_append, merging.late]
  unset := by
    rcases merging.unset with late | unset
    · left
      rw [tokens, isLate_append, late, Bool.true_or]
    · exact Or.inr fun later reaches => unset later (.step unread stepped reaches)
  sound final reads := merging.sound final ((Scan.outcome_of_step stepped).trans reads)

/-- Behind a token other than a newline no directive is met any more. -/
theorem Scan.Merging.behind {piece : List Char} {group : List Token} {token joined : Token}
    (merging : scan.Merging text front) (onward : scan.outcome = (scan.beyond piece group).outcome)
    (passes : scan.Passes piece (scan.beyond piece group)) (member : token ∈ group)
    (inner : token.kind ≠ .newline) (innerJoined : joined.kind ≠ .newline) :
    (scan.beyond piece group).Merging text (front ++ [joined].toArray) := by
  have lateBehind : isLate (scan.beyond piece group).tokens = true := by
    change isLate (scan.tokens ++ group.toArray) = true
    rw [isLate_append, isLate_of_mem member inner, Bool.or_true]
  have lateJoined : isLate (front ++ [joined].toArray) = true := by
    rw [isLate_append, isLate_of_mem List.mem_cons_self innerJoined, Bool.or_true]
  exact {
    plain := merging.plain
    stands := passes.standsIn merging.stands
    late := lateJoined.trans lateBehind.symm
    unset := Or.inl lateBehind
    sound := fun final reads => merging.sound final (onward.trans reads) }

/-- The scan that joins literals comes to the merged tokens. -/
theorem Scan.Merging.outcome (merging : scan.Merging text front) :
    MergedOutcome text scan.tokens front scan.outcome (scan.joining front).outcome := by
  induction size : scan.rest.length using Nat.strongRecOn generalizing scan front with
  | _ size ih =>
      subst size
      by_cases done : scan.rest = []
      · have doneJoining : (scan.joining front).rest = [] := done
        rw [Scan.outcome_of_done done, Scan.outcome_of_done doneJoining]
        have both := @MergedOutcome.ok text scan.tokens front scan [] (by simp)
        simpa [mergeTokens] using both
      cases opens : opensLiteral scan.rest with
      | false =>
          have unsetHere := merging.unset.imp_right fun unset => unset scan (.here scan)
          have turn := Scan.step_beside merging.plain merging.late unsetHere opens
          generalize stepped : scan.step = one at turn
          generalize steppedJoining : (scan.joining front).step = two at turn
          cases turn with
          | fault error =>
              rw [Scan.outcome_of_fault stepped, Scan.outcome_of_fault steppedJoining]
              exact .error error
          | on tokens others plainNext =>
              rcases Scan.passes_step done stepped with ⟨piece, some, passes⟩
              have onward := ih _ (passes.shorter some)
                (merging.step done stepped passes tokens plainNext) rfl
              rw [Scan.outcome_of_step stepped, Scan.outcome_of_step steppedJoining]
              rw [tokens] at onward
              exact onward.earlier fun final more _ _ => mergeTokens_plain others more
      | true =>
          have opensJoining : opensLiteral (scan.joining front).rest = true := opens
          have literals : (scan.joining front).literals =
              readChain scan.switches.escapes scan.rest := rfl
          have passed := Scan.chainPassed merging.plain opens merging.stands
          generalize readChain scan.switches.escapes scan.rest = answer at literals passed
          cases passed with
          | fault failed =>
              rw [failed, Scan.outcome_of_fault (Scan.step_of_literalFault opensJoining literals)]
              exact .error _
          | @read lexeme rest value group some split onward last alone merges =>
              rcases last with ⟨token, member, notNewline, stop⟩
              have passes := Scan.passes_beyond split group
              have emitted : (scan.joining front).emit (.text (String.ofList value)) lexeme.length =
                  (scan.beyond lexeme group).joining
                    (front ++ [scan.textToken lexeme value].toArray) := by
                have joining : (scan.joining front).rest = lexeme ++ rest := split
                rw [Scan.emit_eq_beyond joining]
                rfl
              have behind := merging.behind onward passes member notNewline
                (TokenKind.noConfusion : (scan.textToken lexeme value).kind ≠ .newline)
              have onwardMerged := ih _ (passes.shorter some) behind rfl
              rw [onward, Scan.outcome_of_step (Scan.step_of_literal opensJoining literals), emitted]
              refine onwardMerged.earlier fun final added reads tokens => merges added ?_
              have sound := behind.sound final reads
              rw [tokens, ← List.append_assoc] at sound
              refine sound.apart (List.mem_append_right _ member) stop ?_ alone
              exact behind.stands.trans (Scan.rest_beyond split group)

end Merging

/-! ## Texts -/

theorem Quotation.opensLiteral {lexeme value : List Char} (quotation : Quotation lexeme value)
    (after : List Char) : opensLiteral (lexeme ++ after) = true := by
  have first : ∀ {lexeme value : List Char}, Quoted lexeme value → ∀ after,
      Lexical.opensLiteral (lexeme ++ after) = true := by
    intro lexeme value quoted after
    cases quoted with
    | quoted quotes body => exact Option.isSome_iff_exists.mpr ⟨_, quotes⟩
  cases quotation with
  | single literal => exact first literal after
  | merged literal between following =>
      rw [List.append_assoc]
      exact first literal _

theorem Scan.sound_of_outcome {switches : Switches}
    (reads : (Scan.start switches text).outcome = .ok final) : Sound text final.tokens.toList := by
  have run := (Scan.hasRead_start switches text).run (Nat.le_refl text.length)
  change Advances text _ (Scan.start switches text).outcome at run
  rw [reads] at run
  cases run with
  | @on before _ read done =>
      have segmented := read.resumes [⟨.endOfFile, spanBehind before []⟩] (done ▸ .finish before)
      have faithful := segmented.faithful
      rcases faithful.ends with ⟨body, split, stand⟩
      rcases List.append_inj' split rfl with ⟨tokens, -⟩
      constructor
      · intro token member isText
        rw [tokens] at member
        rcases (stand token member).2.1 with ⟨front, lexeme, after, textSplit, span, spelt⟩
        have start : token.span.start.index = front.length := by
          rw [span]
          rfl
        rw [start, textSplit, List.drop_left]
        rcases Option.isSome_iff_exists.mp isText with ⟨value, found⟩
        have kind : token.kind = .text value := by
          unfold Token.text? at found
          split at found
          · rename_i kind
            cases found
            exact kind
          · cases found
        rw [kind] at spelt
        exact Quotation.opensLiteral spelt after
      · exact (List.pairwise_append.mp faithful.ordered).1

/-- A directive for the switch of the given name is come to when the text is read. -/
def HasDirective (name : String) (switches : Switches) (text : String) : Prop :=
  ∃ scan, (Scan.start switches text.toList).Reaches scan ∧ DirectiveFor name scan.rest

theorem not_hasDirective {name : String} {switches : Switches} {text : String}
    (noSign : '@' ∉ text.toList) : ¬ HasDirective name switches text := by
  rintro ⟨scan, reaches, gap, behind, split, -⟩
  apply noSign
  apply reaches.suffix.subset
  rw [split]
  exact List.mem_cons_self

theorem Scan.finish_joining {added : List Token} (tokens : final.tokens = #[] ++ added.toArray) :
    (final.joining (#[] ++ (mergeTokens text added).toArray)).finish =
      final.finish.map fun read =>
        (mergeTokens text read.1, { read.2 with implicitConcat := true }) := by
  have brackets : (final.joining (#[] ++ (mergeTokens text added).toArray)).brackets =
      final.brackets := rfl
  unfold Scan.finish
  rw [brackets]
  cases final.brackets.getLast? with
  | some entry => rfl
  | none =>
      have list : final.tokens.toList = added := by
        rw [tokens]
        simp
      have last := @mergeTokens_concat text ⟨.endOfFile, ⟨final.position, final.position⟩⟩ rfl
        TokenKind.noConfusion added
      simp only [Except.map, list, last]
      simp [Scan.joining]

/--
Reading neighbouring string literals as one is merging their tokens.  For every text without
a directive for the switch, the tokens with the switch on are those with the switch off in
which strings with only a gap between them are one token, from the start of the first to the
end of the last.  If one way of reading fails, so does the other, with the same error.
-/
theorem tokenize_merges (switches : Switches) (text : String)
    (unset : ¬ HasDirective "implicit_concat" { switches with implicitConcat := false } text) :
    tokenize { switches with implicitConcat := true } text =
      (tokenize { switches with implicitConcat := false } text).map fun read =>
        (mergeTokens text.toList read.1, { read.2 with implicitConcat := true }) := by
  let start := Scan.start { switches with implicitConcat := false } text.toList
  have merged : MergedOutcome text.toList start.tokens #[] start.outcome
      (start.joining #[]).outcome := by
    have stands : start.StandsIn text.toList := List.drop_zero
    have merging : start.Merging text.toList #[] := {
      plain := rfl
      stands := stands
      late := rfl
      unset := Or.inr fun later reaches directive => unset ⟨later, reaches, directive⟩
      sound := fun final reads => Scan.sound_of_outcome reads }
    exact merging.outcome
  rw [tokenize_eq, tokenize_eq]
  change (start.joining #[]).outcome.bind Scan.finish = (start.outcome.bind Scan.finish).map _
  generalize start.outcome = plain at merged
  generalize (start.joining #[]).outcome = joining at merged
  cases merged with
  | error error => rfl
  | ok tokens => exact Scan.finish_joining tokens

/-- Two literals on two lines with a comment between them. -/
theorem literals_merge_over_comment :
    tokenize {} "'a' # b\n'c'" =
      .ok ([⟨.text "ac", ⟨⟨0, 0, 0⟩, ⟨11, 1, 3⟩⟩⟩, ⟨.endOfFile, ⟨⟨11, 1, 3⟩, ⟨11, 1, 3⟩⟩⟩], {}) := by
  have merged := tokenize_merges {} "'a' # b\n'c'" (not_hasDirective (by decide))
  exact merged.trans (by decide)

end Lexical
end Scripting
