import Scripting.Proofs.Segmentation
import Scripting.Proofs.StrandedOperands

namespace Scripting
namespace Grammar

/-!
Where the nodes of a tree stand in its text.

The tokens of a text come one after the other, so whatever is read between two places stands
between them.  A reader is said to lay out what it reads if this is so, and if each node in
it begins where a token begins, covers its parts, and has them in the order of the text.

Places are compared by two numbers: where the last token before a place ends, and where the
token at the place starts.  Between them there is at most a gap.  Every token that is passed
takes the first number beyond the second one, and this is all that spans are made of.
-/

open Lexical (Bracket Keyword Symbol Token TokenKind)
open Source (Position Span)
open Program

/-! ## Spans in a row -/

/-- Spans between two places of the text, each behind the one before. -/
inductive Row : Nat → List Span → Nat → Prop
  | nothing {low high : Nat} (reaches : low ≤ high) : Row low [] high
  | next {low high : Nat} {span : Span} {spans : List Span} (behind : low ≤ span.start.index)
      (ordered : span.start.index ≤ span.stop.index) (later : Row span.stop.index spans high) :
      Row low (span :: spans) high

/-- A span lies inside another one. -/
def Inside (inner outer : Span) : Prop :=
  outer.start.index ≤ inner.start.index ∧ inner.stop.index ≤ outer.stop.index

namespace Row

variable {low middle high : Nat} {span : Span} {spans others : List Span}

theorem le (row : Row low spans high) : low ≤ high := by
  induction row with
  | nothing reaches => exact reaches
  | next behind ordered later ih => omega

theorem before (row : Row low spans high) {lower : Nat} (less : lower ≤ low) :
    Row lower spans high := by
  cases row with
  | nothing reaches => exact .nothing (Nat.le_trans less reaches)
  | next behind ordered later => exact .next (Nat.le_trans less behind) ordered later

theorem upTo (row : Row low spans high) {higher : Nat} (more : high ≤ higher) :
    Row low spans higher := by
  induction row with
  | nothing reaches => exact .nothing (Nat.le_trans reaches more)
  | next behind ordered later ih => exact .next behind ordered (ih more)

theorem append (row : Row low spans middle) (rest : Row middle others high) :
    Row low (spans ++ others) high := by
  induction row with
  | nothing reaches => exact rest.before reaches
  | next behind ordered later ih => exact .next behind ordered (ih rest)

theorem single (behind : low ≤ span.start.index) (ordered : span.start.index ≤ span.stop.index)
    (reaches : span.stop.index ≤ high) : Row low [span] high :=
  .next behind ordered (.nothing reaches)

theorem sublist (within : others.Sublist spans) (row : Row low spans high) :
    Row low others high := by
  induction within generalizing low with
  | slnil => exact row
  | cons span within ih =>
      cases row with
      | next behind ordered later => exact (ih later).before (Nat.le_trans behind ordered)
  | cons_cons span within ih =>
      cases row with
      | next behind ordered later => exact .next behind ordered (ih later)

/-- A row reaches from the start of its first span to the stop of its last one. -/
theorem tight {last : Span} (row : Row low (span :: spans) high)
    (ends : (span :: spans).getLast? = some last) :
    Row span.start.index (span :: spans) last.stop.index := by
  induction spans generalizing low span with
  | nil =>
      cases ends
      cases row with
      | next behind ordered later => exact .single (Nat.le_refl _) ordered (Nat.le_refl _)
  | cons second spans ih =>
      cases row with
      | next behind ordered later =>
          have rest := ih later (by simpa using ends)
          cases later with
          | next behind' ordered' later' => exact .next (Nat.le_refl _) ordered (rest.before behind')

theorem bounds (row : Row low spans high) :
    ∀ span ∈ spans, low ≤ span.start.index ∧ span.stop.index ≤ high := by
  induction row with
  | nothing reaches => nofun
  | next behind ordered later ih =>
      have reaches := later.le
      intro span member
      rcases List.mem_cons.mp member with rfl | member
      · exact ⟨behind, reaches⟩
      · have inner := ih span member
        omega

theorem pairwise (row : Row low spans high) :
    spans.Pairwise fun first second => first.stop.index ≤ second.start.index := by
  induction row with
  | nothing reaches => exact .nil
  | next behind ordered later ih =>
      exact List.pairwise_cons.mpr ⟨fun span member => (later.bounds span member).1, ih⟩

end Row

/-! ## Parts in the order of the text -/

def spansOf (nodes : List Node) : List Span :=
  nodes.map (·.span)

/-- The targets of a form. -/
def targetsOf : Form Node → List (Target Node)
  | .assign targets _ _ => targets
  | _ => []

/-- The spans of the parts of a form in the order of the text, with those of whole targets. -/
def partSpans : Form Node → List Span
  | .assign targets _ values => targets.map (·.span) ++ spansOf values
  | .loop _ (.doWhile condition) body _ => spansOf [body, condition]
  | .loop _ header body _ => spansOf (loopParts header ++ [body])
  | .function _ _ optional body _ => spansOf (optional.map Prod.snd ++ [body])
  | .classDef _ parent body => spansOf (parent.toList ++ [body])
  | form => spansOf (formParts form)

/-- Every part of a form is among them, or is the object of a target. -/
theorem span_mem_partSpans {form : Form Node} {part : Node} (member : part ∈ formParts form) :
    part.span ∈ partSpans form ∨ ∃ target ∈ targetsOf form, part ∈ target.object := by
  cases form with
  | assign targets op values =>
      rcases List.mem_append.mp member with owner | value
      · rcases List.mem_flatMap.mp owner with ⟨target, within, owns⟩
        exact .inr ⟨target, within, Option.mem_toList.mp owns⟩
      · exact .inl (List.mem_append_right _ (List.mem_map_of_mem value))
  | loop label header body block =>
      refine .inl ?_
      cases header <;>
        simp only [formParts, loopParts, partSpans, spansOf, List.mem_cons, List.mem_map,
          List.mem_append] at member ⊢ <;> grind
  | function name required optional body arrow =>
      refine .inl ?_
      simp only [formParts, partSpans, spansOf, List.mem_cons, List.mem_map,
        List.mem_append] at member ⊢
      grind
  | classDef name parent body =>
      refine .inl ?_
      simp only [formParts, partSpans, spansOf, List.mem_cons, List.mem_map,
        List.mem_append] at member ⊢
      grind
  | _ => exact .inl (List.mem_map_of_mem member)

/-! ## Tokens one after the other -/

/-- Tokens of a text: they do not overlap, and only the last one is the end of the file. -/
structure Layout where
  tokens : List Token
  /-- The length of the text. -/
  limit : Nat
  apart : tokens.Pairwise fun first second => first.span.stop.index ≤ second.span.start.index
  ordered : ∀ token ∈ tokens, token.span.start.index ≤ token.span.stop.index
  filled : ∀ token ∈ tokens, token.kind ≠ .endOfFile →
    token.span.start.index < token.span.stop.index
  within : ∀ token ∈ tokens, token.span.stop.index ≤ limit
  closed : Closed tokens

/-- Where the last token before a place ends. -/
def Place.behind (place : Place) : Nat :=
  place.previousEnd.index

/-- Where the token at a place starts. -/
def Place.ahead (place : Place) : Nat :=
  place.current.span.start.index

namespace Layout

variable {layout : Layout}

/-- A token starts here. -/
def Starts (layout : Layout) (start : Position) : Prop :=
  ∃ token ∈ layout.tokens, start = token.span.start

/-- A stretch of the text that starts with a token. -/
structure Holds (layout : Layout) (span : Span) : Prop where
  starts : layout.Starts span.start
  filled : span.start.index < span.stop.index
  within : span.stop.index ≤ layout.limit

/-- A node stands in the text as its form requires. -/
structure Fits (layout : Layout) (node : Node) : Prop where
  starts : layout.Starts node.span.start
  ordered : node.span.start.index ≤ node.span.stop.index
  within : node.span.stop.index ≤ layout.limit
  filled : (∀ statements, node.form ≠ .block statements) →
    node.span.start.index < node.span.stop.index
  parts : Row node.span.start.index (partSpans node.form) node.span.stop.index
  targets : ∀ target ∈ targetsOf node.form, layout.Holds target.span ∧
    ∀ owner ∈ target.object, Inside owner.span target.span

/-- A node and all nodes inside it stand as they should. -/
def Tidy (layout : Layout) (node : Node) : Prop :=
  Everywhere layout.Fits node

/-- A node that is not empty stands between two places of the text. -/
structure Between (layout : Layout) (low : Nat) (node : Node) (high : Nat) : Prop where
  behind : low ≤ node.span.start.index
  filled : node.span.start.index < node.span.stop.index
  reaches : node.span.stop.index ≤ high
  tidy : layout.Tidy node

/-- Nodes stand between two places of the text, in their order. -/
structure AllBetween (layout : Layout) (low : Nat) (nodes : List Node) (high : Nat) : Prop where
  row : Row low (spansOf nodes) high
  tidy : ∀ node ∈ nodes, layout.Tidy node

theorem Tidy.starts {node : Node} (tidy : layout.Tidy node) : layout.Starts node.span.start := by
  cases tidy with
  | node here parts => exact here.starts

theorem Tidy.of_parts {span : Span} {form : Form Node} (starts : layout.Starts span.start)
    (filled : span.start.index < span.stop.index) (within : span.stop.index ≤ layout.limit)
    (row : Row span.start.index (partSpans form) span.stop.index)
    (targets : ∀ target ∈ targetsOf form, layout.Holds target.span ∧
      ∀ owner ∈ target.object, Inside owner.span target.span)
    (parts : ∀ part ∈ formParts form, layout.Tidy part) : layout.Tidy ⟨span, form⟩ :=
  .node ⟨starts, Nat.le_of_lt filled, within, fun _ => filled, row, targets⟩ parts

/-- A node without parts and targets. -/
theorem Tidy.leaf {span : Span} {form : Form Node} (holds : layout.Holds span)
    (none : formParts form = []) (bare : partSpans form = []) (free : targetsOf form = []) :
    layout.Tidy ⟨span, form⟩ := by
  refine .of_parts holds.starts holds.filled holds.within ?_ ?_ ?_
  · rw [bare]
    exact .nothing (Nat.le_of_lt holds.filled)
  · rw [free]
    nofun
  · rw [none]
    nofun

namespace Between

variable {low high : Nat} {node : Node}

theorem before (between : layout.Between low node high) {lower : Nat} (less : lower ≤ low) :
    layout.Between lower node high :=
  ⟨Nat.le_trans less between.behind, between.filled, between.reaches, between.tidy⟩

theorem upTo (between : layout.Between low node high) {higher : Nat} (more : high ≤ higher) :
    layout.Between low node higher :=
  ⟨between.behind, between.filled, Nat.le_trans between.reaches more, between.tidy⟩

theorem all (between : layout.Between low node high) : layout.AllBetween low [node] high where
  row := .single between.behind (Nat.le_of_lt between.filled) between.reaches
  tidy := List.forall_mem_singleton.mpr between.tidy

end Between

namespace AllBetween

variable {low middle middle' high : Nat} {nodes others : List Node}

theorem nothing (reaches : low ≤ high) : layout.AllBetween low [] high :=
  ⟨.nothing reaches, nofun⟩

theorem before (all : layout.AllBetween low nodes high) {lower : Nat} (less : lower ≤ low) :
    layout.AllBetween lower nodes high :=
  ⟨all.row.before less, all.tidy⟩

theorem upTo (all : layout.AllBetween low nodes high) {higher : Nat} (more : high ≤ higher) :
    layout.AllBetween low nodes higher :=
  ⟨all.row.upTo more, all.tidy⟩

/-- Nodes and then, behind a gap, other nodes. -/
theorem andThen (all : layout.AllBetween low nodes middle) (gap : middle ≤ middle')
    (rest : layout.AllBetween middle' others high) :
    layout.AllBetween low (nodes ++ others) high where
  row := by
    rw [spansOf, List.map_append]
    exact all.row.append (rest.row.before gap)
  tidy := List.forall_mem_append.mpr ⟨all.tidy, rest.tidy⟩

/-- A form that reaches from the first of its parts to the last one makes a node. -/
theorem through {form : Form Node} {first last : Node} {others : List Node}
    (all : layout.AllBetween low (first :: others) high)
    (filled : first.span.start.index < first.span.stop.index)
    (ends : (first :: others).getLast? = some last) (within : high ≤ layout.limit)
    (same : formParts form = first :: others)
    (listed : partSpans form = spansOf (first :: others)) (free : targetsOf form = []) :
    layout.Between low ⟨first.span.through last.span, form⟩ high := by
  have endsSpan : (spansOf (first :: others)).getLast? = some last.span := by
    rw [spansOf, List.getLast?_map, ends]
    rfl
  have bounds := all.row.bounds
  have tight : Row first.span.start.index (spansOf (first :: others)) last.span.stop.index :=
    all.row.tight endsSpan
  have reaches := (tight.bounds first.span List.mem_cons_self).2
  have last' := (bounds last.span (List.mem_of_getLast? endsSpan)).2
  have whole : first.span.start.index < last.span.stop.index := Nat.lt_of_lt_of_le filled reaches
  refine ⟨(bounds first.span List.mem_cons_self).1, whole, last', ?_⟩
  refine .of_parts ?_ whole (Nat.le_trans last' within) ?_ ?_ ?_
  · exact (all.tidy first List.mem_cons_self).starts
  · rw [listed]
    exact tight
  · rw [free]
    nofun
  · rw [same]
    exact all.tidy

theorem sublist (within : others.Sublist nodes) (all : layout.AllBetween low nodes high) :
    layout.AllBetween low others high :=
  ⟨all.row.sublist (within.map _), fun node member => all.tidy node (within.mem member)⟩

end AllBetween

/-! ## Places -/

/-- A place in the tokens of the text, where arithmetic is not checked. -/
structure Laid (layout : Layout) (place : Place) : Prop where
  suffix : place.tokens <:+ layout.tokens
  gap : place.behind ≤ place.ahead
  unchecked : place.checked = false

namespace Laid

variable {place next : Place}

theorem current_mem (laid : layout.Laid place) : place.current ∈ layout.tokens :=
  laid.suffix.mem List.mem_cons_self

theorem near (laid : layout.Laid place) : Near layout.tokens place.rest.length place :=
  ⟨layout.closed, laid.suffix, Nat.le_refl _⟩

theorem starts (laid : layout.Laid place) : layout.Starts place.current.span.start :=
  ⟨place.current, laid.current_mem, rfl⟩

theorem ahead_le (laid : layout.Laid place) : place.ahead ≤ layout.limit :=
  Nat.le_trans (layout.ordered _ laid.current_mem) (layout.within _ laid.current_mem)

theorem behind_le (laid : layout.Laid place) : place.behind ≤ layout.limit :=
  Nat.le_trans laid.gap laid.ahead_le

/-- A token that is not the end of the file is a stretch of the text. -/
theorem holds (laid : layout.Laid place) (inner : place.current.kind ≠ .endOfFile) :
    layout.Holds place.current.span :=
  ⟨⟨_, laid.current_mem, rfl⟩, layout.filled _ laid.current_mem inner,
    layout.within _ laid.current_mem⟩

/-- Further on in the tokens, both numbers are as large at least. -/
theorem moves (laid : layout.Laid place) (moves : place.Moves next) :
    layout.Laid next ∧ place.behind ≤ next.behind ∧ place.ahead ≤ next.ahead := by
  rcases moves with ⟨stretch, split, ended, build⟩
  have unchecked := build.trans laid.unchecked
  have later : next.tokens <:+ layout.tokens := (split ▸ List.suffix_append _ _).trans laid.suffix
  have apart : (stretch ++ next.tokens).Pairwise fun first second =>
      first.span.stop.index ≤ second.span.start.index :=
    split ▸ layout.apart.sublist laid.suffix.sublist
  rcases List.eq_nil_or_concat stretch with rfl | ⟨front, last, rfl⟩
  · -- No token was passed.
    have same : place.current = next.current := (List.cons.inj split).1
    have ends : next.behind = place.behind := congrArg Position.index ended
    have begins : next.ahead = place.ahead := by rw [Place.ahead, Place.ahead, same]
    have gap := laid.gap
    exact ⟨⟨later, by omega, unchecked⟩, by omega, by omega⟩
  · rw [List.concat_eq_append] at split ended apart
    rw [List.getLast?_concat] at ended
    have ends : next.behind = last.span.stop.index := congrArg Position.index ended
    have gap : last.span.stop.index ≤ next.ahead :=
      (List.pairwise_append.mp apart).2.2 last (List.mem_append_right _ List.mem_cons_self) _
        List.mem_cons_self
    have member : last ∈ layout.tokens := by
      refine laid.suffix.mem (split ▸ List.mem_append_left _ ?_)
      exact List.mem_append_right _ List.mem_cons_self
    have filled := layout.ordered last member
    have onward : place.ahead ≤ last.span.start.index := by
      cases front with
      | nil =>
          have same : place.current = last := (List.cons.inj split).1
          rw [Place.ahead, same]
      | cons first front =>
          have same : place.current = first := (List.cons.inj split).1
          have ordered := layout.ordered _ laid.current_mem
          have before := (List.pairwise_append.mp (List.pairwise_append.mp apart).1).2.2 first
            List.mem_cons_self last List.mem_cons_self
          rw [Place.ahead]
          rw [same] at ordered ⊢
          omega
    have before := laid.gap
    exact ⟨⟨later, by omega, unchecked⟩, by omega, by omega⟩

/-- A token that is passed ends behind where it starts. -/
theorem advance (laid : layout.Laid place) (inner : place.current.kind ≠ .endOfFile) :
    layout.Laid place.advance ∧ place.ahead < place.advance.behind ∧
      place.current.span.stop.index = place.advance.behind := by
  have split := laid.near.advance inner
  refine ⟨(laid.moves split.1).1, ?_⟩
  have filled := layout.filled _ laid.current_mem inner
  have ends : place.advance.previousEnd = place.current.span.stop := by
    have shorter := split.2
    unfold Place.advance at shorter ⊢
    rw [if_neg inner] at shorter ⊢
    cases rest : place.rest with
    | nil =>
        rw [rest] at shorter
        exact absurd shorter (Nat.not_lt_zero _)
    | cons next rest => rfl
  rw [Place.ahead, Place.behind, ends]
  exact ⟨filled, rfl⟩

end Laid

/-- The current token of a place is passed. -/
structure Passes (layout : Layout) (place : Place) (token : Token) (next : Place) : Prop where
  holds : layout.Holds token.span
  start : token.span.start.index = place.ahead
  stop : token.span.stop.index = next.behind
  gap : place.behind ≤ place.ahead
  passed : place.ahead < next.behind

/-! ## Readers -/

/-- Where a reader succeeds, it has gone on in the text, and what it read is as said. -/
def Lays {α : Type} (layout : Layout) (place : Place) (reader : Reader α)
    (good : α → Place → Prop) : Prop :=
  layout.Laid place → ∀ value next, reader place = .ok (value, next) →
    layout.Laid next ∧ place.behind ≤ next.behind ∧ place.ahead ≤ next.ahead ∧ good value next

/-- Whatever is read, and wherever the reader ends. -/
abbrev anyhow {α : Type} : α → Place → Prop := fun _ _ => True

namespace Lays

variable {α β : Type} {place : Place} {good : β → Place → Prop}

/-- What is known of the place may be used of the reader. -/
theorem known {reader : Reader β} (lays : layout.Laid place → layout.Lays place reader good) :
    layout.Lays place reader good :=
  fun laid => lays laid laid

theorem mono {reader : Reader β} {weaker : β → Place → Prop}
    (lays : layout.Lays place reader good)
    (implies : ∀ value next, place.behind ≤ next.behind → layout.Laid next → good value next →
      weaker value next) : layout.Lays place reader weaker := by
  intro laid value next read
  rcases lays laid value next read with ⟨there, behind, ahead, holds⟩
  exact ⟨there, behind, ahead, implies value next behind there holds⟩

theorem pure {value : β} (holds : good value place) : layout.Lays place (Pure.pure value) good := by
  intro laid value' next read
  cases read
  exact ⟨laid, Nat.le_refl _, Nat.le_refl _, holds⟩

theorem unexpected {expected : Expectation} :
    layout.Lays place (Grammar.unexpected expected) good := by
  intro laid value next read
  cases read

theorem failAt {cause : Cause} {span : Span} :
    layout.Lays place (Grammar.failAt cause span) good := by
  intro laid value next read
  cases read

/-- A reader that goes on where another place is reached. -/
theorem onward {reader rest : Reader β} {next : Place} (same : reader place = rest next)
    (reached : layout.Laid place →
      layout.Laid next ∧ place.behind ≤ next.behind ∧ place.ahead ≤ next.ahead)
    (continued : layout.Lays next rest good) : layout.Lays place reader good := by
  intro laid value last read
  rcases reached laid with ⟨there, behind, ahead⟩
  rw [same] at read
  rcases continued there value last read with ⟨ends, behind', ahead', holds⟩
  exact ⟨ends, Nat.le_trans behind behind', Nat.le_trans ahead ahead', holds⟩

theorem bind {first : Reader α} {rest : α → Reader β} {between : α → Place → Prop}
    (begun : layout.Lays place first between)
    (continued : ∀ value next, place.behind ≤ next.behind → place.ahead ≤ next.ahead →
      between value next → layout.Lays next (rest value) good) :
    layout.Lays place (first >>= rest) good := by
  intro laid value next read
  rcases bind_ok read with ⟨middle, halfway, readFirst, readRest⟩
  rcases begun laid middle halfway readFirst with ⟨there, behind, ahead, holds⟩
  exact onward (bind_of_ok readFirst) (fun _ => ⟨there, behind, ahead⟩)
    (continued middle halfway behind ahead holds) laid value next read

theorem peek {rest : Token → Reader β}
    (continued : layout.Lays place (rest place.current) good) :
    layout.Lays place (Grammar.peek >>= rest) good :=
  continued

/-- A token other than the end of the file is passed. -/
theorem passing {reader rest : Reader β} (same : reader place = rest place.advance)
    (inner : place.current.kind ≠ .endOfFile)
    (continued : ∀ next, layout.Passes place place.current next → layout.Lays next rest good) :
    layout.Lays place reader good := by
  refine known fun laid => ?_
  rcases laid.advance inner with ⟨there, passed, stop⟩
  have gap := laid.gap
  have ahead := there.gap
  refine onward same (fun _ => ⟨there, by omega, by omega⟩) (continued _ ?_)
  exact ⟨laid.holds inner, rfl, stop, gap, passed⟩

theorem advance {rest : Token → Reader β} (inner : place.current.kind ≠ .endOfFile)
    (continued : ∀ next, layout.Passes place place.current next →
      layout.Lays next (rest place.current) good) :
    layout.Lays place (Grammar.advance >>= rest) good :=
  passing rfl inner continued

theorem expect {kind : TokenKind} {rest : Token → Reader β} (inner : kind ≠ .endOfFile)
    (continued : ∀ token next, layout.Passes place token next →
      layout.Lays next (rest token) good) :
    layout.Lays place (Grammar.expect kind >>= rest) good := by
  by_cases found : place.current.kind = kind
  · have read : Grammar.expect kind place = .ok (place.current, place.advance) := if_pos found
    exact passing (bind_of_ok read) (found ▸ inner) fun next passes => continued _ next passes
  · have failed : Grammar.expect kind place
        = Grammar.unexpected (.token kind) place :=
      if_neg found
    intro laid value next read
    rw [bind_error failed] at read
    cases read

theorem identifier {expected : Expectation} {rest : String × Span → Reader β}
    (continued : ∀ name token next, layout.Passes place token next →
      layout.Lays next (rest (name, token.span)) good) :
    layout.Lays place (Grammar.identifier expected >>= rest) good := by
  cases result : Grammar.identifier expected place with
  | error error =>
      intro laid value next read
      rw [bind_error result] at read
      cases read
  | ok pair =>
      unfold Grammar.identifier at result
      split at result
      · rename_i name found
        cases result
        have inner : place.current.kind ≠ .endOfFile := by
          rw [found]
          exact TokenKind.noConfusion
        have read : Grammar.identifier expected place =
            .ok ((name, place.current.span), place.advance) := by
          unfold Grammar.identifier
          rw [found]
        exact passing (bind_of_ok read) inner fun next passes => continued name _ next passes
      · cases result
      · cases result

theorem ifEat {kind : TokenKind} {chosen other : Reader β} (inner : kind ≠ .endOfFile)
    (taken : ∀ token next, layout.Passes place token next → layout.Lays next chosen good)
    (left : layout.Lays place other good) :
    layout.Lays place (eat kind >>= fun found => if found = true then chosen else other)
      good := by
  by_cases found : place.current.kind = kind
  · have read : eat kind place = .ok (true, place.advance) := if_pos found
    exact passing (bind_of_ok read) (found ▸ inner) fun next passes => taken _ next passes
  · have stays : eat kind place = .ok (false, place) := if_neg found
    intro laid value next read
    rw [bind_of_ok stays] at read
    exact left laid value next read

theorem eat {kind : TokenKind} (inner : kind ≠ .endOfFile) :
    layout.Lays place (Grammar.eat kind) anyhow := by
  by_cases found : place.current.kind = kind
  · have read : Grammar.eat kind place = (Pure.pure true : Reader Bool) place.advance :=
      if_pos found
    exact passing read (found ▸ inner) fun next passes => pure trivial
  · have stays : Grammar.eat kind place = .ok (false, place) := if_neg found
    intro laid value next read
    rw [stays] at read
    cases read
    exact ⟨laid, Nat.le_refl _, Nat.le_refl _, trivial⟩

theorem ifAt {kind : TokenKind} {chosen other : Reader β}
    (here : place.current.kind = kind → layout.Lays place chosen good)
    (elsewhere : layout.Lays place other good) :
    layout.Lays place (isAt kind >>= fun found => if found = true then chosen else other)
      good := by
  intro laid value next read
  by_cases found : place.current.kind = kind
  · have looked : isAt kind place = .ok (true, place) := by
      rw [isAt, decide_eq_true found]
    rw [bind_of_ok looked] at read
    exact here found laid value next read
  · have looked : isAt kind place = .ok (false, place) := by
      rw [isAt, decide_eq_false found]
    rw [bind_of_ok looked] at read
    exact elsewhere laid value next read

theorem skipNewlines {rest : Unit → Reader β}
    (continued : ∀ next, place.behind ≤ next.behind → place.ahead ≤ next.ahead →
      layout.Lays next (rest ()) good) :
    layout.Lays place (Grammar.skipNewlines >>= rest) good := by
  refine known fun laid => ?_
  have moves := passNewlines_moves place.current place.previousEnd place.rest place.openers
    place.checked
  have reached := laid.moves moves
  let passed := passNewlines place.current place.previousEnd place.rest
  let next : Place := ⟨passed.1, passed.2.1, passed.2.2, place.openers, place.checked⟩
  have same : (Grammar.skipNewlines >>= rest) place = rest () next := rfl
  exact onward same (fun _ => reached) (continued next reached.2.1 reached.2.2)

theorem enterBlock {opener : Keyword} {span : Span} {rest : Unit → Reader β}
    (continued : ∀ next : Place, next.behind = place.behind → next.ahead = place.ahead →
      layout.Lays next (rest ()) good) :
    layout.Lays place (Grammar.enterBlock opener span >>= rest) good := by
  let next : Place := { place with openers := (opener, span) :: place.openers }
  have same : (Grammar.enterBlock opener span >>= rest) place = rest () next := rfl
  exact onward same (fun laid => laid.moves ⟨[], rfl, rfl, rfl⟩) (continued next rfl rfl)

theorem leaveBlock {closer : Keyword} {rest : Unit → Reader β}
    (continued : ∀ next, place.ahead < next.behind → layout.Lays next (rest ()) good) :
    layout.Lays place (Grammar.leaveBlock closer >>= rest) good := by
  cases result : Grammar.leaveBlock closer place with
  | error error =>
      intro laid value next read
      rw [bind_error result] at read
      cases read
  | ok pair =>
      unfold Grammar.leaveBlock at result
      split at result
      · rename_i found
        cases result
        have inner : place.current.kind ≠ .endOfFile := by
          rw [found]
          exact TokenKind.noConfusion
        have read : Grammar.leaveBlock closer place =
            .ok ((), { place.advance with openers := place.openers.tail }) := if_pos found
        refine known fun laid => ?_
        have moved := laid.moves (laid.near.advance inner).1
        have passed := (laid.advance inner).2.1
        exact onward (bind_of_ok read) (fun _ => ⟨⟨moved.1.suffix, moved.1.gap, moved.1.unchecked⟩, moved.2⟩)
          (continued _ passed)
      · split at result
        · split at result <;> cases result
        · cases result

/-- What is tried and fails has read nothing. -/
theorem attempt {reader : Reader α} {tried : α → Place → Prop}
    (lays : layout.Lays place reader tried) :
    layout.Lays place (Grammar.attempt reader) fun value next =>
      (value = none ∧ next.behind = place.behind) ∨
        ∃ given, value = some given ∧ tried given next := by
  intro laid value next read
  rcases attempt_ok read with ⟨given, rfl, succeeded⟩ | ⟨failure, rfl, -, -, rfl⟩
  · rcases lays laid given _ succeeded with ⟨there, behind, ahead, holds⟩
    exact ⟨there, behind, ahead, .inr ⟨given, rfl, holds⟩⟩
  · have back : place.Moves (place.rewind failure.openers) := ⟨[], rfl, rfl, rfl⟩
    exact ⟨(laid.moves back).1, Nat.le_refl _, Nat.le_refl _, .inl ⟨rfl, rfl⟩⟩

theorem repeated {reader : Nat → Reader β} (each : ∀ fuel, layout.Lays place (reader fuel) good) :
    layout.Lays place (Grammar.repeated reader) good :=
  each _

/-- The span from a start to the last token passed. -/
theorem spanFrom {start : Position} {rest : Span → Reader β} (passed : start.index < place.behind)
    (continued : layout.Lays place (rest ⟨start, place.previousEnd⟩) good) :
    layout.Lays place (Grammar.spanFrom start >>= rest) good := by
  have span : place.spanAfter start = ⟨start, place.previousEnd⟩ := by
    unfold Place.spanAfter
    exact congrArg (Span.mk start) (if_neg (Nat.not_lt_of_gt passed))
  change layout.Lays place (rest (place.spanAfter start)) good
  rw [span]
  exact continued

/-- A node from a start to the last token passed. -/
theorem nodeFrom {start : Position} {form : Form Node} {low : Nat}
    (starts : layout.Starts start) (behind : low ≤ start.index) (passed : start.index < place.behind)
    (row : Row start.index (partSpans form) place.behind)
    (targets : ∀ target ∈ targetsOf form, layout.Holds target.span ∧
      ∀ owner ∈ target.object, Inside owner.span target.span)
    (tidy : ∀ part ∈ formParts form, layout.Tidy part) :
    layout.Lays place (nodeFrom start form) fun node next =>
      layout.Between low node next.behind := by
  refine known fun laid => spanFrom passed (pure ⟨behind, passed, Nat.le_refl _, ?_⟩)
  exact .of_parts starts passed laid.behind_le row targets tidy

/-- A node from an opening token to the last token passed, around its parts. -/
theorem node {outer first : Place} {opener : Token} {form : Form Node} {parts : List Node}
    (begun : layout.Passes outer opener first)
    (all : layout.AllBetween first.behind parts place.behind)
    (listed : partSpans form = spansOf parts) (members : ∀ part ∈ formParts form, part ∈ parts)
    (free : targetsOf form = []) :
    layout.Lays place (Grammar.nodeFrom opener.span.start form) fun node next =>
      layout.Between outer.ahead node next.behind := by
  have start := begun.start
  have passed := begun.passed
  have onward := all.row.le
  refine nodeFrom begun.holds.starts (by omega) (by omega) ?_ ?_ ?_
  · rw [listed]
    exact all.row.before (by omega)
  · rw [free]
    nofun
  · exact fun part member => all.tidy part (members part member)

end Lays

end Layout
end Grammar
end Scripting
