import Scripting.Proofs.ParserProgress
import Scripting.Proofs.SpanDiscipline

namespace Scripting
namespace Grammar

/-!
Tokens that are cut off behind a newline.

The tokens of a program are read a second time, but only up to one of their newlines.  A
place at that newline or before it is a place in both lists of tokens, and no reader can tell
the two apart there until it passes the newline.  A place behind the newline exists only in
the whole list; in the other one the end of the file comes in its stead.
-/

open Lexical (Bracket Keyword Symbol Token TokenKind)
open Source (Position Span)
open Program

/-! ## Newlines passed -/

/-- The place behind the newlines at a place. -/
def Place.skipped (place : Place) : Place :=
  let passed := passNewlines place.current place.previousEnd place.rest
  { place with current := passed.1, rest := passed.2.1, previousEnd := passed.2.2 }

namespace Place

variable {place next : Place}

theorem skipNewlines_eq (place : Place) : skipNewlines place = .ok ((), place.skipped) :=
  rfl

theorem moves_skipped (place : Place) : place.Moves place.skipped :=
  passNewlines_moves place.current place.previousEnd place.rest place.openers place.checked

theorem skipped_of_ne (other : place.current.kind ≠ .newline) : place.skipped = place := by
  unfold Place.skipped
  rw [passNewlines_of_ne other]

theorem skipped_of_newline (newline : place.current.kind = .newline) (more : place.rest ≠ []) :
    place.skipped = place.advance.skipped := by
  have inner : place.current.kind ≠ .endOfFile := by
    rw [newline]
    nofun
  rcases List.exists_cons_of_ne_nil more with ⟨token, rest, split⟩
  have advanced : place.advance =
      { place with current := token, rest := rest, previousEnd := place.current.span.stop } := by
    unfold Place.advance
    rw [if_neg inner, split]
  rw [advanced]
  unfold Place.skipped
  rw [split]
  simp only [passNewlines, if_pos newline]

theorem tokens_skipped (place : Place) : ∃ gap, place.tokens = gap ++ place.skipped.tokens ∧
    ∀ token ∈ gap, token.kind = .newline := by
  rcases place with ⟨current, rest, previousEnd, openers, checked⟩
  induction rest generalizing current previousEnd with
  | nil => exact ⟨[], rfl, nofun⟩
  | cons next rest ih =>
      by_cases newline : current.kind = .newline
      · rcases ih next current.span.stop with ⟨gap, split, newlines⟩
        refine ⟨current :: gap, ?_, List.forall_mem_cons.mpr ⟨newline, newlines⟩⟩
        have same : (Place.skipped ⟨current, next :: rest, previousEnd, openers, checked⟩).tokens =
            (Place.skipped ⟨next, rest, current.span.stop, openers, checked⟩).tokens := by
          unfold Place.skipped
          simp only [passNewlines, if_pos newline]
        rw [same]
        exact congrArg (current :: ·) split
      · rw [skipped_of_ne newline]
        exact ⟨[], rfl, nofun⟩

end Place

/-! ## The two lists of tokens -/

/-- The tokens of a text, and one of its newlines. -/
structure Cut where
  layout : Layout
  before : List Token
  hole : Token
  after : List Token
  split : layout.tokens = before ++ hole :: after
  newline : hole.kind = .newline
  inner : ∀ token ∈ before, token.kind ≠ .endOfFile

namespace Cut

variable {cut : Cut} {place next : Place}

/-- The tokens up to the newline, with the end of the file right behind it. -/
def tokens (cut : Cut) : List Token :=
  cut.before ++ [cut.hole, endToken cut.hole.span.stop]

/-- The place is at the newline or before it. -/
def Before (cut : Cut) (place : Place) : Prop :=
  cut.after.length ≤ place.rest.length

/-- The same place in the tokens that end behind the newline. -/
def shorten (cut : Cut) (place : Place) : Place :=
  { place with
    rest := place.rest.take (place.rest.length - cut.after.length) ++
      [endToken cut.hole.span.stop] }

instance (cut : Cut) (place : Place) : Decidable (cut.Before place) :=
  inferInstanceAs (Decidable (_ ≤ _))

@[simp] theorem shorten_current : (cut.shorten place).current = place.current := rfl

@[simp] theorem shorten_openers : (cut.shorten place).openers = place.openers := rfl

theorem after_ne_nil (cut : Cut) : cut.after ≠ [] := by
  intro none
  have closed := cut.layout.closed
  rw [Closed, cut.split, none, List.getLast?_concat, Option.map_some, cut.newline] at closed
  cases closed

theorem after_pos (cut : Cut) : 0 < cut.after.length :=
  List.length_pos_iff.mpr cut.after_ne_nil

theorem Before.of_moves (before : cut.Before next) (moves : place.Moves next) : cut.Before place :=
  Nat.le_trans before moves.length_le

/-- What a place before the newline has before it. -/
theorem Before.front (before : cut.Before place) (laid : cut.layout.Laid place) :
    ∃ front, front <:+ cut.before ∧ place.tokens = front ++ cut.hole :: cut.after := by
  rcases laid.suffix with ⟨passed, whole⟩
  rw [cut.split] at whole
  rcases List.append_eq_append_iff.mp whole with ⟨front, split, rest⟩ | ⟨more, split, rest⟩
  · exact ⟨front, ⟨passed, split.symm⟩, rest⟩
  · have lengths := congrArg List.length rest
    simp only [List.length_cons, List.length_append, Place.tokens] at lengths
    have reaches : cut.after.length ≤ place.rest.length := before
    have none : more = [] := List.length_eq_zero_iff.mp (by omega)
    subst none
    exact ⟨[], List.nil_suffix, rest.symm⟩

/-- The tokens left at a place before the newline, in both lists. -/
theorem Before.rest (before : cut.Before place) (laid : cut.layout.Laid place) :
    ∃ front, place.rest = front ++ cut.after ∧
      (cut.shorten place).rest = front ++ [endToken cut.hole.span.stop] ∧
      (front = [] → place.current = cut.hole) ∧ place.current :: front <:+ cut.before ++ [cut.hole] := by
  rcases before.front laid with ⟨front, behind, split⟩
  have shortened {some : List Token} (rest : place.rest = some ++ cut.after) :
      (cut.shorten place).rest = some ++ [endToken cut.hole.span.stop] := by
    have count : (some ++ cut.after).length - cut.after.length = some.length := by
      rw [List.length_append, Nat.add_sub_cancel]
    change place.rest.take (place.rest.length - cut.after.length) ++ _ = _
    rw [rest, count, List.take_left]
  cases front with
  | nil =>
      rcases List.cons.inj split with ⟨here, rest⟩
      exact ⟨[], rest, shortened rest, fun _ => here, here ▸ List.suffix_append _ _⟩
  | cons first front =>
      rcases List.cons.inj split with ⟨here, rest⟩
      have rest' : place.rest = (front ++ [cut.hole]) ++ cut.after := by
        rw [rest, List.append_assoc]
        rfl
      refine ⟨front ++ [cut.hole], rest', shortened rest', fun none => ?_, ?_⟩
      · exact absurd none (by simp)
      · rw [here]
        rcases behind with ⟨passed, whole⟩
        exact ⟨passed, by rw [← whole]; simp⟩

/-- The kinds of the tokens at a place before the newline, in both lists. -/
theorem Before.kinds (before : cut.Before place) (laid : cut.layout.Laid place) :
    ∃ front, place.kinds = front ++ .newline :: cut.after.map Token.kind ∧
      (cut.shorten place).kinds = front ++ [.newline, .endOfFile] := by
  rcases before.rest laid with ⟨front, rest, shortened, -, passed, whole⟩
  rcases List.eq_nil_or_concat (place.current :: front) with none | ⟨more, last, here⟩
  · cases none
  · rw [List.concat_eq_append] at here
    rw [here, ← List.append_assoc] at whole
    have ends : last = cut.hole := List.singleton_inj.mp (List.append_inj' whole rfl).2
    have kinds : place.current.kind :: front.map Token.kind = more.map Token.kind ++ [.newline] := by
      rw [← List.map_cons, here, ends, List.map_append, List.map_singleton, cut.newline]
    refine ⟨more.map Token.kind, ?_, ?_⟩
    · rw [Place.kinds, rest, List.map_append, ← List.cons_append, kinds, List.append_assoc]
      rfl
    · rw [Place.kinds, shortened, shorten_current, List.map_append, ← List.cons_append, kinds,
        List.append_assoc]
      rfl

theorem Before.inner (before : cut.Before place) (laid : cut.layout.Laid place) :
    place.current.kind ≠ .endOfFile := by
  rcases before.rest laid with ⟨front, -, -, -, behind⟩
  have member : place.current ∈ cut.before ++ [cut.hole] := behind.mem List.mem_cons_self
  rcases List.mem_append.mp member with earlier | here
  · exact cut.inner _ earlier
  · rw [List.mem_singleton.mp here, cut.newline]
    nofun

/-- A token other than the newline is passed in both lists. -/
theorem Before.advance_of (before : cut.Before place) (laid : cut.layout.Laid place)
    (elsewhere : place.rest ≠ cut.after) :
    cut.Before place.advance ∧ cut.shorten place.advance = (cut.shorten place).advance := by
  have inner := before.inner laid
  rcases before.rest laid with ⟨front, rest, shortened, -, -⟩
  cases front with
  | nil => exact absurd rest elsewhere
  | cons first front =>
      have advanced : place.advance =
          { place with
            current := first, rest := front ++ cut.after,
            previousEnd := place.current.span.stop } := by
        unfold Place.advance
        rw [if_neg inner, rest]
        rfl
      have reaches : cut.Before place.advance := by
        rw [advanced, Cut.Before, List.length_append]
        exact Nat.le_add_left _ _
      refine ⟨reaches, ?_⟩
      have count : (front ++ cut.after).length - cut.after.length = front.length := by
        rw [List.length_append, Nat.add_sub_cancel]
      have here : (cut.shorten place).current.kind ≠ .endOfFile := inner
      have passed : (cut.shorten place).advance =
          { place with
            current := first, rest := front ++ [endToken cut.hole.span.stop],
            previousEnd := place.current.span.stop } := by
        unfold Place.advance
        rw [if_neg here, shortened]
        rfl
      rw [passed, advanced]
      simp only [Cut.shorten, count, List.take_left]

theorem Before.advance (before : cut.Before place) (laid : cut.layout.Laid place)
    (other : place.current.kind ≠ .newline) :
    cut.Before place.advance ∧ cut.shorten place.advance = (cut.shorten place).advance := by
  refine before.advance_of laid fun same => ?_
  rcases before.rest laid with ⟨front, rest, -, here, -⟩
  have none : front = [] := List.append_left_eq_self.mp (rest.symm.trans same)
  rw [here none, cut.newline] at other
  exact other rfl

/--
Newlines are passed in both lists.  If the newline in question is among them, the end of
the file is reached in the shorter one.
-/
theorem Before.skipped (before : cut.Before place) (laid : cut.layout.Laid place) :
    (cut.Before place.skipped ∧ cut.shorten place.skipped = (cut.shorten place).skipped) ∨
      (¬ cut.Before place.skipped ∧ (cut.shorten place).skipped.current.kind = .endOfFile) := by
  induction left : place.rest.length using Nat.strongRecOn generalizing place with
  | ind count ih =>
      subst left
      by_cases newline : place.current.kind = .newline
      · have inner := before.inner laid
        have shorter := laid.near.advance inner
        have more : place.rest ≠ [] := by
          intro none
          have reaches : cut.after.length ≤ place.rest.length := before
          have some := cut.after_pos
          rw [none, List.length_nil] at reaches
          omega
        have moreShort : (cut.shorten place).rest ≠ [] := by simp [Cut.shorten]
        have newlineShort : (cut.shorten place).current.kind = .newline := newline
        rw [Place.skipped_of_newline newline more,
          Place.skipped_of_newline newlineShort moreShort]
        by_cases same : place.rest = cut.after
        · -- The newline itself is passed.
          refine .inr ⟨fun later => ?_, ?_⟩
          · have left := (Place.moves_skipped place.advance).length_le
            have less : place.advance.rest.length < cut.after.length := same ▸ shorter.2
            have reaches : cut.after.length ≤ place.advance.skipped.rest.length := later
            omega
          · have shortened : (cut.shorten place).rest = [endToken cut.hole.span.stop] := by
              change place.rest.take (place.rest.length - cut.after.length) ++ _ = _
              rw [same, Nat.sub_self]
              rfl
            have ended : (cut.shorten place).advance.current = endToken cut.hole.span.stop := by
              have here : (cut.shorten place).current.kind ≠ .endOfFile := inner
              rw [Place.advance, if_neg here, shortened]
            have stays : (cut.shorten place).advance.current.kind ≠ .newline := by
              rw [ended]
              nofun
            rw [Place.skipped_of_ne stays, ended]
            rfl
        · rcases before.advance_of laid same with ⟨later, equal⟩
          rw [← equal]
          exact ih _ shorter.2 later (laid.moves shorter.1).1 rfl
      · have newlineShort : (cut.shorten place).current.kind ≠ .newline := newline
        rw [Place.skipped_of_ne newline, Place.skipped_of_ne newlineShort]
        exact .inl ⟨before, rfl⟩

/-- Only newlines are passed with the newline in question. -/
theorem Before.crossed (before : cut.Before place) (laid : cut.layout.Laid place)
    (past : ¬ cut.Before place.skipped) :
    ∃ front back, place.tokens = front ++ cut.hole :: cut.after ∧ front <:+ cut.before ∧
      (∀ token ∈ front, token.kind = .newline) ∧ cut.after = back ++ place.skipped.tokens ∧
        ∀ token ∈ back, token.kind = .newline := by
  rcases before.front laid with ⟨front, behind, split⟩
  rcases place.tokens_skipped with ⟨gap, splitGap, newlines⟩
  have short : place.skipped.rest.length < cut.after.length := Nat.lt_of_not_le past
  rcases List.append_eq_append_iff.mp (splitGap.symm.trans split) with
    ⟨more, rfl, rest⟩ | ⟨more, rfl, rest⟩
  · have lengths := congrArg List.length rest
    simp only [Place.tokens, List.length_cons, List.length_append] at lengths
    omega
  · rcases List.forall_mem_append.mp newlines with ⟨frontNewlines, moreNewlines⟩
    cases more with
    | nil =>
        have lengths := congrArg List.length rest
        simp only [Place.tokens, List.length_cons, List.nil_append] at lengths
        omega
    | cons first back =>
        exact ⟨front, back, split, behind, frontNewlines, (List.cons.inj rest).2,
          (List.forall_mem_cons.mp moreNewlines).2⟩

/-! ## Where the newline stands -/

theorem hole_mem (cut : Cut) : cut.hole ∈ cut.layout.tokens := by
  rw [cut.split]
  exact List.mem_append_right _ List.mem_cons_self

theorem hole_filled (cut : Cut) : cut.hole.span.start.index < cut.hole.span.stop.index :=
  cut.layout.filled _ cut.hole_mem (by rw [cut.newline]; nofun)

theorem Before.ahead_le (before : cut.Before place) (laid : cut.layout.Laid place) :
    place.ahead ≤ cut.hole.span.start.index := by
  rcases before.front laid with ⟨front, behind, split⟩
  cases front with
  | nil => exact Nat.le_of_eq (congrArg (·.span.start.index) (List.cons.inj split).1)
  | cons first front =>
      have apart : (first :: front ++ cut.hole :: cut.after).Pairwise fun first second =>
          first.span.stop.index ≤ second.span.start.index :=
        split ▸ cut.layout.apart.sublist laid.suffix.sublist
      have gap := (List.pairwise_append.mp apart).2.2 first List.mem_cons_self cut.hole
        List.mem_cons_self
      have here : place.current = first := (List.cons.inj split).1
      have ordered := cut.layout.ordered _ laid.current_mem
      rw [Place.ahead]
      rw [here] at ordered ⊢
      omega

/-- A place that is not before the newline is behind it. -/
theorem hole_le_ahead (laid : cut.layout.Laid place) (past : ¬ cut.Before place) :
    cut.hole.span.stop.index ≤ place.ahead := by
  rcases laid.suffix with ⟨passed, whole⟩
  rw [cut.split] at whole
  have short : place.rest.length < cut.after.length := Nat.lt_of_not_le past
  rcases List.append_eq_append_iff.mp whole with ⟨front, split, rest⟩ | ⟨more, split, rest⟩
  · have lengths := congrArg List.length rest
    simp only [Place.tokens, List.length_cons, List.length_append] at lengths
    omega
  · cases more with
    | nil =>
        have lengths := congrArg List.length rest
        simp only [Place.tokens, List.length_cons, List.nil_append] at lengths
        omega
    | cons first more =>
        have apart := cut.layout.apart
        rw [cut.split, (List.cons.inj rest).2] at apart
        have apart' := (List.pairwise_append.mp apart).2.1
        exact (List.pairwise_cons.mp apart').1 _ (List.mem_append_right _ List.mem_cons_self)

/-- What is passed with the newline ends behind it. -/
theorem hole_le_behind (laid : cut.layout.Laid place) (moves : place.Moves next)
    (before : cut.Before place) (past : ¬ cut.Before next) :
    cut.hole.span.stop.index ≤ next.behind := by
  rcases before.front laid with ⟨front, -, whole⟩
  rcases moves with ⟨stretch, split, ended, -⟩
  have short : next.rest.length < cut.after.length := Nat.lt_of_not_le past
  have apart : (front ++ cut.hole :: cut.after).Pairwise fun first second =>
      first.span.stop.index ≤ second.span.start.index :=
    whole ▸ cut.layout.apart.sublist laid.suffix.sublist
  rw [whole] at split
  rcases List.append_eq_append_iff.mp split with ⟨more, rfl, rest⟩ | ⟨more, rfl, rest⟩
  · cases more with
    | nil =>
        have lengths := congrArg List.length rest
        simp only [Place.tokens, List.length_cons, List.nil_append] at lengths
        omega
    | cons first more =>
        rcases List.cons.inj rest with ⟨rfl, later⟩
        rcases List.eq_nil_or_concat more with rfl | ⟨middle, last, rfl⟩
        · rw [List.getLast?_concat] at ended
          exact Nat.le_of_eq (congrArg Position.index ended).symm
        · rw [List.concat_eq_append] at ended later
          rw [← List.cons_append, ← List.append_assoc, List.getLast?_concat] at ended
          have ends : next.behind = last.span.stop.index := congrArg Position.index ended
          have apart' := (List.pairwise_append.mp apart).2.1
          have within : last ∈ cut.after := by
            rw [later]
            exact List.mem_append_left _ (List.mem_append_right _ List.mem_cons_self)
          have gap := (List.pairwise_cons.mp apart').1 last within
          have member : last ∈ cut.layout.tokens := by
            rw [cut.split]
            exact List.mem_append_right _ (List.mem_cons_of_mem _ within)
          have ordered := cut.layout.ordered last member
          omega
  · have lengths := congrArg List.length rest
    simp only [Place.tokens, List.length_cons, List.length_append] at lengths
    omega

/-! ## The grammar in both lists -/

theorem closed_tokens (cut : Cut) : Closed cut.tokens := by
  have split : cut.tokens = (cut.before ++ [cut.hole]) ++ [endToken cut.hole.span.stop] := by
    simp [tokens]
  rw [split, Closed, List.getLast?_concat]
  rfl

theorem Before.near (before : cut.Before place) (laid : cut.layout.Laid place) :
    Near cut.tokens (cut.shorten place).rest.length (cut.shorten place) := by
  refine ⟨cut.closed_tokens, ?_, Nat.le_refl _⟩
  rcases before.rest laid with ⟨front, -, shortened, -, behind⟩
  rcases behind with ⟨passed, whole⟩
  refine ⟨passed, ?_⟩
  rw [Place.tokens, shortened, shorten_current, ← List.cons_append, ← List.append_assoc, whole]
  simp [tokens]

theorem unfolds (laid : cut.layout.Laid place) (entry : Entry) :
    grammar entry place = level grammar entry place :=
  (ready_descend cut.layout.tokens _ _ (Nat.le_refl _)).unfolds entry place _
    (Nat.lt_succ_self _) laid.near

theorem Before.unfolds (before : cut.Before place) (laid : cut.layout.Laid place) (entry : Entry) :
    grammar entry (cut.shorten place) = level grammar entry (cut.shorten place) :=
  (ready_descend cut.tokens _ _ (Nat.le_refl _)).unfolds entry _ _ (Nat.lt_succ_self _)
    (before.near laid)

/-- The first place of the tokens up to the newline. -/
theorem ofTokens_cut (cut : Cut) : Place.ofTokens (cut.before ++ [cut.hole]) =
    cut.shorten (Place.ofTokens cut.layout.tokens) := by
  have closed := cut.layout.closed
  rw [cut.split] at closed ⊢
  have other : cut.hole.kind ≠ .endOfFile := by
    rw [cut.newline]
    nofun
  cases before : cut.before with
  | nil =>
      rw [before] at closed
      have last : ((cut.hole :: cut.after).getLast (List.cons_ne_nil _ _)).kind = .endOfFile := by
        rw [Closed, List.nil_append, List.getLast?_eq_some_getLast (List.cons_ne_nil _ _)] at closed
        exact Option.some.inj closed
      have alone : ([cut.hole].getLast (List.cons_ne_nil _ _)).kind ≠ .endOfFile := other
      simp only [List.nil_append, Place.ofTokens, if_pos last, if_neg alone, Cut.shorten,
        Nat.sub_self, List.take_zero]
      rfl
  | cons first others =>
      rw [before] at closed
      have last : ((first :: (others ++ cut.hole :: cut.after)).getLast
          (List.cons_ne_nil _ _)).kind = .endOfFile := by
        rw [Closed, List.cons_append,
          List.getLast?_eq_some_getLast (List.cons_ne_nil _ _)] at closed
        exact Option.some.inj closed
      have ends : (first :: (others ++ [cut.hole])).getLast (List.cons_ne_nil _ _) = cut.hole :=
        List.getLast_concat (l := first :: others)
      have whole : others ++ cut.hole :: cut.after = (others ++ [cut.hole]) ++ cut.after := by
        rw [List.append_assoc]
        rfl
      have count : ((others ++ [cut.hole]) ++ cut.after).length - cut.after.length =
          (others ++ [cut.hole]).length := by
        rw [List.length_append, Nat.add_sub_cancel]
      simp only [List.cons_append, Place.ofTokens, ends, if_neg other, if_pos last, Cut.shorten]
      rw [whole, count, List.take_left]

end Cut

end Grammar
end Scripting
