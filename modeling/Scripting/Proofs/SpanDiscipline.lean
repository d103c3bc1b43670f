import Scripting.Grammar.Reading
import Scripting.Proofs.SpannedReaders

namespace Scripting
namespace Grammar

/-!
The span discipline of the tree.

The tokens of a text are a layout, and the grammar reads a tree that stands in it.  So the
span of every node begins with a token and contains the spans of its parts, and these come
one behind the other as the parts do in the text.
-/

open Lexical (Switches Token TokenKind tokenize)
open Source (Position Span)
open Program

/-- The span of a node among the tokens of a text with the given length. -/
structure WellSpanned (tokens : List Token) (limit : Nat) (node : Node) : Prop where
  starts : ∃ token ∈ tokens, node.span.start = token.span.start
  ordered : node.span.start.index ≤ node.span.stop.index
  within : node.span.stop.index ≤ limit
  /-- Only a block of statements can be empty. -/
  filled : (∀ statements, node.form ≠ .block statements) →
    node.span.start.index < node.span.stop.index
  parts : ∀ part ∈ formParts node.form, Inside part.span node.span
  targets : ∀ target ∈ targetsOf node.form,
    (∃ token ∈ tokens, target.span.start = token.span.start) ∧
      target.span.start.index < target.span.stop.index ∧ target.span.stop.index ≤ limit ∧
      Inside target.span node.span ∧ ∀ owner ∈ target.object, Inside owner.span target.span
  /-- In the order of the text, each part ends before the next one starts. -/
  apart : (partSpans node.form).Pairwise fun first second =>
    first.stop.index ≤ second.start.index

theorem Inside.trans {inner middle outer : Span} (first : Inside inner middle)
    (second : Inside middle outer) : Inside inner outer :=
  ⟨Nat.le_trans second.1 first.1, Nat.le_trans first.2 second.2⟩

/-- The spans of the targets are among those of the parts. -/
theorem target_mem_partSpans {form : Form Node} {target : Target Node}
    (member : target ∈ targetsOf form) : target.span ∈ partSpans form := by
  cases form with
  | assign targets op values => exact List.mem_append_left _ (List.mem_map_of_mem member)
  | _ => cases member

namespace Layout

variable {layout : Layout}

theorem Fits.wellSpanned {node : Node} (fits : layout.Fits node) :
    WellSpanned layout.tokens layout.limit node := by
  have bounds : ∀ span ∈ partSpans node.form, Inside span node.span := fits.parts.bounds
  refine ⟨fits.starts, fits.ordered, fits.within, fits.filled, ?_, ?_, fits.parts.pairwise⟩
  · intro part member
    rcases span_mem_partSpans member with listed | ⟨target, within, owns⟩
    · exact bounds _ listed
    · exact ((fits.targets target within).2 part owns).trans (bounds _ (target_mem_partSpans within))
  · intro target member
    rcases fits.targets target member with ⟨holds, owners⟩
    exact ⟨holds.starts, holds.filled, holds.within, bounds _ (target_mem_partSpans member), owners⟩

theorem Tidy.wellSpanned {node : Node} (tidy : layout.Tidy node) :
    Everywhere (WellSpanned layout.tokens layout.limit) node := by
  induction tidy with
  | node here parts ih => exact .node here.wellSpanned ih

end Layout

/-- The tokens that a text is split into are a layout. -/
theorem exists_layout {text : List Char} {tokens : List Token}
    (faithful : Lexical.Faithful text tokens) :
    ∃ layout : Layout, layout.tokens = tokens ∧ layout.limit = text.length := by
  rcases faithful.ends with ⟨body, rfl, inner⟩
  have last : (Lexical.spanBehind text []).start.index = text.length := rfl
  have ended : (Lexical.spanBehind text []).stop.index = text.length := by
    change (text ++ []).length = _
    rw [List.append_nil]
  have within : ∀ token ∈ body, token.span.stop.index ≤ text.length := fun token member =>
    (List.pairwise_append.mp faithful.ordered).2.2 token member _ List.mem_cons_self
  refine ⟨⟨_, text.length, faithful.ordered, ?_, ?_, ?_, ?_⟩, rfl, rfl⟩
  · refine List.forall_mem_append.mpr ⟨fun token member => Nat.le_of_lt (inner token member).2.2, ?_⟩
    exact List.forall_mem_singleton.mpr (Nat.le_of_eq (last.trans ended.symm))
  · refine List.forall_mem_append.mpr ⟨fun token member _ => (inner token member).2.2, ?_⟩
    exact List.forall_mem_singleton.mpr fun other => absurd rfl other
  · exact List.forall_mem_append.mpr ⟨within, List.forall_mem_singleton.mpr (Nat.le_of_eq ended)⟩
  · rw [Closed, List.getLast?_concat]
    rfl

/-- The first place of tokens that end with the end of the file leaves them as they are. -/
theorem tokens_ofTokens {tokens : List Token} (closed : Closed tokens) :
    (Place.ofTokens tokens).tokens = tokens := by
  cases tokens with
  | nil => cases closed
  | cons first rest =>
      have last : ((first :: rest).getLast (List.cons_ne_nil first rest)).kind = .endOfFile := by
        rw [Closed, List.getLast?_eq_some_getLast (List.cons_ne_nil first rest)] at closed
        exact Option.some.inj closed
      simp only [Place.ofTokens, Place.tokens, if_pos last]

theorem laid_ofTokens (layout : Layout) : layout.Laid (Place.ofTokens layout.tokens) where
  suffix := ⟨[], tokens_ofTokens layout.closed⟩
  gap := by
    have closed := layout.closed
    cases tokens : layout.tokens with
    | nil =>
        rw [tokens] at closed
        cases closed
    | cons first rest => exact Nat.le_refl _
  unchecked := by cases layout.tokens <;> rfl

/--
In a text that is read as a program, the span of every node and of every target starts where a
token does, ends behind that in the text, and lies in the span of the node around it, in front
of those of the parts that follow.  Only a block of statements can have an empty span.
-/
theorem spans_disciplined {switches next : Switches} {text : String} {tokens : List Token}
    {tree : Node} (lexed : tokenize switches text = .ok (tokens, next))
    (parsed : parse tokens = .ok tree) : Everywhere (WellSpanned tokens text.length) tree := by
  rcases exists_layout (Lexical.faithful_of_tokenize lexed) with ⟨layout, rfl, limit⟩
  rw [← String.length_toList, ← limit]
  rcases outcome_ok.mp parsed with ⟨last, read⟩
  have descends : layout.LaysAll (descend (layout.tokens.length + 2)) :=
    Layout.laysAll_descend _
  have lays := Layout.program_lays descends (laid_ofTokens layout) _ _ read
  exact lays.2.2.2.wellSpanned

/-- A stretch of the first line of a text. -/
def columns (start stop : Nat) : Span :=
  ⟨⟨start, 0, start⟩, ⟨stop, 0, stop⟩⟩

/-- The tokens of `var a.b = -(1 + c)`. -/
def negatedSum : List Token :=
  [⟨.keyword .varWord, columns 0 3⟩, ⟨.identifier "a", columns 4 5⟩, ⟨.symbol .dot, columns 5 6⟩,
    ⟨.identifier "b", columns 6 7⟩, ⟨.symbol .assign, columns 8 9⟩, ⟨.symbol .minus, columns 10 11⟩,
    ⟨.opening .round, columns 11 12⟩, ⟨.int 1, columns 12 13⟩, ⟨.symbol .plus, columns 14 15⟩,
    ⟨.identifier "c", columns 16 17⟩, ⟨.closing .round, columns 17 18⟩,
    ⟨.endOfFile, columns 18 18⟩]

/-- The tree of `var a.b = -(1 + c)`, in which the brackets are in the span of the sign only. -/
def negatedSumTree : Node :=
  let sum : Node := ⟨columns 12 17, .binary .add ⟨columns 12 13, .number (.int 1)⟩
    ⟨columns 16 17, .name "c"⟩⟩
  let target : Target Node := ⟨some ⟨columns 4 5, .name "a"⟩, "b", columns 4 7⟩
  ⟨columns 0 18, .block [⟨columns 0 18,
    .assign [target] .set [⟨columns 10 18, .unary .neg sum⟩]⟩]⟩

theorem negatedSum_disciplined :
    tokenize {} "var a.b = -(1 + c)" = .ok (negatedSum, {}) ∧
      parse negatedSum = .ok negatedSumTree ∧
      Everywhere (WellSpanned negatedSum "var a.b = -(1 + c)".length) negatedSumTree := by
  have lexed : tokenize {} "var a.b = -(1 + c)" = .ok (negatedSum, {}) := by decide +kernel
  have parsed : parse negatedSum = .ok negatedSumTree := rfl
  exact ⟨lexed, parsed, spans_disciplined lexed parsed⟩

end Grammar
end Scripting
