import Mathlib
import Scripting.Proofs.DataTokens
import Scripting.Proofs.Elementary
import Scripting.Proofs.Precedence
import Scripting.Session.Basic

namespace Scripting

/-!
Plain data read back.

The text of a datum is a program of one expression: a name, a number with or without a sign, a
string literal or a list.  Its evaluation changes nothing but the lists of the heap, to which
it adds new ones, so all that has been built stays as it is while the items of a list are
evaluated one after the other.  Hence a new session builds the datum again.

The new value and the one that was shown belong to different heaps.  They are compared with
the one heap placed beside the other.
-/

namespace Data

open Grammar (Level Writes)
open Lexical (TokenKind)
open Program (Node UnaryOp nowhere)

/-! ## The expression of a datum -/

/-- A number behind its sign, if there is one. -/
def signedNode (value : Int64) : Node :=
  if value.toInt < 0 then ⟨nowhere, .unary .neg ⟨nowhere, .number (.int (-value))⟩⟩
  else ⟨nowhere, .number (.int value)⟩

namespace Datum

mutual

/-- The expression of a datum, at no place in particular. -/
def node : Datum → Node
  | .nothing => ⟨nowhere, .name "None"⟩
  | .int value _ => signedNode value
  | .text value _ => ⟨nowhere, .text value⟩
  | .list items => ⟨nowhere, .list (nodeAll items)⟩

def nodeAll : List Datum → List Node
  | [] => []
  | item :: rest => item.node :: nodeAll rest

end

theorem nodeAll_eq (items : List Datum) : nodeAll items = items.map node := by
  induction items with
  | nil => rfl
  | cons item rest ih => rw [nodeAll, List.map_cons, ih]

theorem written_pos (datum : Datum) : 0 < datum.written.length := by
  cases datum with
  | nothing => decide
  | int value negatable =>
      rw [written]
      rcases sign : value.toInt with n | n
      · rw [Lexical.writeInt_natural sign]
        exact Nat.length_toDigits_pos
      · rw [Lexical.writeInt_negative sign]
        exact Nat.succ_pos _
  | text value visible =>
      rw [written, Text.quoted, String.toList_ofList]
      exact Nat.succ_pos _
  | list items => exact Nat.succ_pos _

theorem length_le_intercalate {part : List Char} {parts : List (List Char)}
    (member : part ∈ parts) (separator : List Char) :
    part.length ≤ (separator.intercalate parts).length := by
  induction parts with
  | nil => cases member
  | cons first rest ih =>
      cases rest with
      | nil =>
          rw [List.mem_singleton.mp member, List.intercalate_singleton]
      | cons second rest =>
          rw [List.intercalate_cons_cons, List.length_append, List.length_append]
          rcases List.mem_cons.mp member with rfl | later
          · omega
          · have within := ih later
            omega

theorem written_lt_of_mem {item : Datum} {items : List Datum} (member : item ∈ items) :
    item.written.length < (Datum.list items).written.length := by
  have listed : item.written ∈ writtenAll items := by
    rw [writtenAll_eq]
    exact List.mem_map_of_mem member
  have within := length_le_intercalate listed [',', ' ']
  simp only [written, List.length_cons, List.length_append]
  omega

theorem signed_writes (value : Int64) :
    Writes true (.within .fallback) (signedKinds value) (signedNode value) := by
  have literal : ∀ word : Int64, Writes true .bare [.int word] ⟨nowhere, .number (.int word)⟩ :=
    fun word => @Writes.number true nowhere (.int word)
  unfold signedKinds signedNode
  split
  · have sign : UnaryOp.neg ≠ .not := by decide
    have tight : Level.factor.rank ≤ Level.atom.rank := by decide
    have magnitude : Writes true (.within .factor) [.int (-value)]
        ⟨nowhere, .number (.int (-value))⟩ := .plain tight (literal _)
    exact .plain (Nat.zero_le _) (.sign sign magnitude)
  · exact .plain (Nat.zero_le _) (literal _)

theorem items_write {items : List Datum}
    (each : ∀ item ∈ items, Writes true (.within .fallback) item.kinds item.node) :
    Writes true .items ([.symbol .comma].intercalate (kindsAll items)) (nodeAll items) := by
  induction items with
  | nil => exact .noItems
  | cons item items ih =>
      have first := each item List.mem_cons_self
      have others := ih fun other member => each other (List.mem_cons_of_mem _ member)
      cases items with
      | nil =>
          simp only [kindsAll, nodeAll, List.intercalate_singleton]
          exact .lastItem first
      | cons next items =>
          simp only [kindsAll, nodeAll, List.intercalate_cons_cons, List.append_assoc] at others ⊢
          exact .nextItem first others (List.cons_ne_nil _ _)

/-- The tokens of a datum are a way to write its expression, without any brackets. -/
theorem writes (datum : Datum) : Writes true (.within .fallback) datum.kinds datum.node := by
  induction datum with
  | nothing => exact .plain (Nat.zero_le _) .name
  | int value => exact signed_writes value
  | text => exact .plain (Nat.zero_le _) .text
  | list items ih => exact .plain (Nat.zero_le _) (.list (items_write ih))

end Datum
end Data

namespace Lexical

open Data (Datum)

/-- The text of a datum is split into its tokens. -/
theorem tokenize_datum {datum : Datum} {text : String} (written : text.toList = datum.written) :
    ∃ tokens last, tokenize {} text = .ok (tokens ++ [last], {}) ∧
      tokens.map Token.kind = datum.kinds ∧ last.kind = .endOfFile := by
  have split : (Scan.start {} text.toList).rest = datum.written ++ [] := by
    rw [List.append_nil]
    exact written
  rcases datum_makes datum (Scan.start {} text.toList) [] rfl .nil split with
    ⟨tokens, kinds, onward⟩
  let final := (Scan.start {} text.toList).beyond datum.written tokens
  have done : final.outcome = .ok final := Scan.outcome_of_done (Scan.rest_beyond split tokens)
  refine ⟨tokens, ⟨.endOfFile, ⟨final.position, final.position⟩⟩, ?_, kinds, rfl⟩
  have made : final.tokens.toList = tokens := by
    change (#[] ++ tokens.toArray).toList = tokens
    rw [Array.empty_append]
  rw [tokenize_eq, Scan.result, onward, done]
  change Except.ok (final.tokens.toList ++ _, _) = _
  rw [made]
  rfl

end Lexical

namespace Grammar

open Program (Form Literal Node UnaryOp nowhere)

/-! ## Nodes that are the same but for their spans -/

section Same

variable {result : Node}

attribute [local simp] Same SameAll Node.unplaced Form.unplaced

theorem Same.name_inv {span : Source.Span} {name : String} (same : Same ⟨span, .name name⟩ result) :
    result.form = .name name := by
  rcases result with ⟨place, form⟩
  cases form <;> simp_all

theorem Same.number_inv {span : Source.Span} {value : Literal}
    (same : Same ⟨span, .number value⟩ result) : result.form = .number value := by
  rcases result with ⟨place, form⟩
  cases form <;> simp_all

theorem Same.text_inv {span : Source.Span} {value : String}
    (same : Same ⟨span, .text value⟩ result) : result.form = .text value := by
  rcases result with ⟨place, form⟩
  cases form <;> simp_all

theorem Same.unary_inv {span : Source.Span} {op : UnaryOp} {operand : Node}
    (same : Same ⟨span, .unary op operand⟩ result) :
    ∃ inner, result.form = .unary op inner ∧ Same operand inner := by
  rcases result with ⟨place, form⟩
  cases form <;> simp_all

theorem Same.list_inv {span : Source.Span} {elements : List Node}
    (same : Same ⟨span, .list elements⟩ result) :
    ∃ nodes, result.form = .list nodes ∧ SameAll elements nodes := by
  rcases result with ⟨place, form⟩
  cases form <;> simp_all

theorem SameAll.each {nodes results : List Node} (same : SameAll nodes results) :
    List.Forall₂ Same nodes results := by
  induction nodes generalizing results with
  | nil =>
      cases same.nil_iff.mpr rfl
      exact .nil
  | cons node nodes ih =>
      cases results with
      | nil => cases same
      | cons first later =>
          rcases List.cons.inj same with ⟨head, tail⟩
          exact .cons head (ih tail)

/-- The program of one expression. -/
theorem Same.single_inv {span : Source.Span} {statement : Node}
    (same : Same ⟨span, .block [statement]⟩ result) :
    ∃ node, result.form = .block [node] ∧ Same statement node := by
  have block : ∃ nodes, result.form = .block nodes ∧ SameAll [statement] nodes := by
    rcases result with ⟨place, form⟩
    cases form <;> simp_all
  rcases block with ⟨nodes, form, sameAll⟩
  cases sameAll.each with
  | cons first later =>
      cases later
      exact ⟨_, form, first⟩

end Same

end Grammar

namespace Evaluation

open Data (Datum Heap Value signedNode)
open Grammar (Same SameAll)
open Program (Node nowhere)

variable {settings : Settings} {frame : Frame} {machine between after : Machine}

/-! ## Evaluation -/

/-- All that has happened is that lists have been added to the heap. -/
def AddsLists (machine after : Machine) : Prop :=
  ∃ more, after =
    { machine with heap := { machine.heap with lists := machine.heap.lists ++ more } }

theorem AddsLists.refl (machine : Machine) : AddsLists machine machine :=
  ⟨#[], by rw [Array.append_empty]⟩

theorem AddsLists.trans (first : AddsLists machine between) (second : AddsLists between after) :
    AddsLists machine after := by
  rcases first with ⟨more, rfl⟩
  rcases second with ⟨others, rfl⟩
  exact ⟨more ++ others, by rw [Array.append_assoc]⟩

theorem AddsLists.listsKept (adds : AddsLists machine after) :
    machine.heap.ListsKept after.heap := by
  rcases adds with ⟨more, rfl⟩
  intro place items stored
  rcases Array.getElem?_eq_some_iff.mp stored with ⟨inside, -⟩
  change (machine.heap.lists ++ more)[place]? = _
  rw [Array.getElem?_append_left inside, stored]

/-- The name by which the absence of a value is written has its first meaning. -/
def KnowsNone (frame : Frame) (machine : Machine) : Prop :=
  machine.heap.lookup? frame.scope "None" = some .nothing

theorem AddsLists.knowsNone (adds : AddsLists machine after) (knows : KnowsNone frame machine) :
    KnowsNone frame after := by
  rcases adds with ⟨more, rfl⟩
  exact knows

/-- The evaluator builds the datum from the node on any machine, by adding lists. -/
def BuildsUp (self : Evaluator) (frame : Frame) (datum : Datum) (node : Node) : Prop :=
  ∀ machine, KnowsNone frame machine → ∃ value after,
    self (.evaluate node frame) machine = .ok value after ∧ AddsLists machine after ∧
      after.heap.Builds datum value

theorem evalAll_builds {self : Evaluator} {data : List Datum} {nodes : List Node}
    (each : List.Forall₂ (BuildsUp self frame) data nodes) (knows : KnowsNone frame machine) :
    ∃ values after, evalAll self frame nodes machine = .ok values after ∧
      AddsLists machine after ∧ List.Forall₂ after.heap.Builds data values := by
  induction each generalizing machine with
  | nil => exact ⟨[], machine, rfl, .refl machine, .nil⟩
  | @cons datum node data nodes first later ih =>
      rcases first machine knows with ⟨value, between, evaluated, adds, builds⟩
      rcases ih (adds.knowsNone knows) with ⟨values, after, others, addsMore, buildsOthers⟩
      refine ⟨value :: values, after, ?_, adds.trans addsMore,
        .cons (builds.kept addsMore.listsKept) buildsOthers⟩
      change (self (.evaluate node frame) >>= fun value =>
        evalAll self frame nodes >>= fun values => pure (value :: values)) machine = _
      rw [bind_apply, evaluated]
      simp only [bind_apply, others]
      rfl

theorem newList_builds {data : List Datum} {values : List Value}
    (each : List.Forall₂ machine.heap.Builds data values) :
    ∃ value after, newList values machine = .ok value after ∧ AddsLists machine after ∧
      after.heap.Builds (.list data) value := by
  let after : Machine := { machine with heap := (machine.heap.newList values).2 }
  have adds : AddsLists machine after := by
    refine ⟨#[values], ?_⟩
    simp only [after, Heap.newList, Array.push_eq_append]
  have stored : after.heap.lists[machine.heap.lists.size]? = some values :=
    Array.getElem?_push_size
  refine ⟨.list ⟨machine.heap.lists.size⟩, after, rfl, adds, .list stored ?_⟩
  exact each.imp fun _ _ builds => builds.kept adds.listsKept

section Integers

variable {fuel n : Nat} {value : Int64} {negatable : value ≠ Int64.minValue} {node : Node}

theorem natural_builds (sign : value.toInt = n) (same : Same (signedNode value) node)
    (positive : 0 < fuel) :
    BuildsUp (perform settings fuel) frame (.int value negatable) node := by
  rw [signedNode, sign, if_neg (Int.not_lt.mpr (Int.natCast_nonneg n))] at same
  rcases Nat.exists_eq_add_of_le' positive with ⟨fuel, rfl⟩
  intro machine knows
  refine ⟨.int value, machine, ?_, .refl machine, .int⟩
  change evalNode settings fuel (perform settings fuel) node frame machine = _
  simp only [evalNode, same.number_inv]
  rfl

/-- The magnitude is evaluated first, and its negation is the integer again. -/
theorem negative_builds (sign : value.toInt = Int.negSucc n)
    (same : Same (signedNode value) node) (enough : 2 ≤ fuel) :
    BuildsUp (perform settings fuel) frame (.int value negatable) node := by
  rw [signedNode, sign, if_pos (Int.negSucc_lt_zero n)] at same
  rcases same.unary_inv with ⟨inner, form, sameInner⟩
  rcases Nat.exists_eq_add_of_le' enough with ⟨fuel, rfl⟩
  intro machine knows
  have operand : perform settings (fuel + 1) (.evaluate inner frame) machine =
      .ok (.int (-value)) machine := by
    change evalNode settings fuel (perform settings fuel) inner frame machine = _
    simp only [evalNode, sameInner.number_inv]
    rfl
  have negated : machine.heap.unary .neg (.int (-value)) = .ok (.int value) := by
    have magnitude := Number.toInt_neg_of_ne_least negatable
    have fits := Number.fit?_toInt value
    simp only [Heap.unary, magnitude, Int.neg_neg, fits]
  refine ⟨.int value, machine, ?_, .refl machine, .int⟩
  change evalNode settings (fuel + 1) (perform settings (fuel + 1)) node frame machine = _
  simp only [evalNode, form, evalUnary, Evaluator.eval, bind_apply, operand, check, negated]

theorem signed_builds (same : Same (signedNode value) node)
    (enough : (Number.writeInt value).toList.length ≤ fuel) :
    BuildsUp (perform settings fuel) frame (.int value negatable) node := by
  rcases sign : value.toInt with n | n
  · rw [Lexical.writeInt_natural sign] at enough
    exact natural_builds sign same (Nat.lt_of_lt_of_le Nat.length_toDigits_pos enough)
  · rw [Lexical.writeInt_negative sign] at enough
    have two := Nat.succ_le_succ (@Nat.length_toDigits_pos 10 (n + 1))
    exact negative_builds sign same (Nat.le_trans two enough)

end Integers

/-- A datum is built up from its expression, wherever that was read from. -/
theorem datum_builds (datum : Datum) {fuel : Nat} {node : Node} (same : Same datum.node node)
    (enough : datum.written.length ≤ fuel) :
    BuildsUp (perform settings fuel) frame datum node := by
  have positive : 0 < fuel := Nat.lt_of_lt_of_le datum.written_pos enough
  induction datum generalizing fuel node with
  | nothing =>
      rcases Nat.exists_eq_add_of_le' positive with ⟨fuel, rfl⟩
      intro machine knows
      refine ⟨.nothing, machine, ?_, .refl machine, .nothing⟩
      change evalNode settings fuel (perform settings fuel) node frame machine = _
      have found : machine.heap.lookup? frame.scope "None" = some .nothing := knows
      simp only [evalNode, same.name_inv, lookUp, bind_apply, readHeap, found]
      rfl
  | int value negatable => exact signed_builds same enough
  | text value visible =>
      rcases Nat.exists_eq_add_of_le' positive with ⟨fuel, rfl⟩
      intro machine knows
      refine ⟨.text value, machine, ?_, .refl machine, .text⟩
      change evalNode settings fuel (perform settings fuel) node frame machine = _
      simp only [evalNode, same.text_inv]
      rfl
  | list items ih =>
      -- Brackets add to the text, so its length bounds how deep the expression goes.
      rcases same.list_inv with ⟨nodes, form, sameAll⟩
      rcases Nat.exists_eq_add_of_le' positive with ⟨fuel, rfl⟩
      intro machine knows
      have each : List.Forall₂ (BuildsUp (perform settings fuel) frame) items nodes := by
        have pairs := sameAll.each
        rw [Datum.nodeAll_eq, List.forall₂_map_left_iff] at pairs
        refine Data.each_weaken pairs fun item member node _ sameItem => ?_
        have shorter := Datum.written_lt_of_mem member
        have left : item.written.length ≤ fuel := by omega
        exact ih item member sameItem left (Nat.lt_of_lt_of_le item.written_pos left)
      rcases evalAll_builds each knows with ⟨values, between, evaluated, adds, builds⟩
      rcases newList_builds builds with ⟨value, after, made, addsMore, whole⟩
      refine ⟨value, after, ?_, adds.trans addsMore, whole⟩
      change evalNode settings fuel (perform settings fuel) node frame machine = _
      simp only [evalNode, form, evalList, bind_apply, evaluated, made]

/-- The program of the expression builds the datum up, too. -/
theorem program_builds {datum : Datum} {fuel : Nat} {program : Node}
    (same : Same ⟨nowhere, .block [datum.node]⟩ program) (enough : datum.written.length < fuel) :
    BuildsUp (perform settings fuel) frame datum program := by
  rcases same.single_inv with ⟨node, form, sameNode⟩
  rcases Nat.exists_eq_add_of_lt enough with ⟨more, rfl⟩
  have inner : BuildsUp (perform settings (datum.written.length + more)) frame datum node :=
    datum_builds datum sameNode (Nat.le_add_right _ _)
  intro machine knows
  rcases inner machine knows with ⟨value, after, evaluated, adds, builds⟩
  refine ⟨value, after, ?_, adds, builds⟩
  change evalNode settings _ (perform settings (datum.written.length + more)) program frame
    machine = _
  simp only [evalNode, form, evalSequence, Evaluator.eval, bind_apply, evaluated]
  rfl

end Evaluation

namespace Session

open Data (Datum Surroundings Value)
open Evaluation (BuildsUp Console KnowsNone Settings perform program_builds)
open Files (Tree)

theorem knowsNone_start (settings : Settings) (console : Console) (files : Tree)
    (document : Source.Document) :
    KnowsNone (programFrame document) (start settings console files).machine := by
  rfl

/-- A new session builds every datum up from its text. -/
theorem run_datum (settings : Settings) (console : Console) (files : Tree) (name : String)
    {datum : Datum} {text : String} (written : text.toList = datum.written) {fuel : Nat}
    (enough : text.length < fuel) :
    ∃ value after, (start settings console files).run fuel ⟨name, text⟩ = (.finished value, after) ∧
      after.machine.heap.Builds datum value := by
  rcases Lexical.tokenize_datum written with ⟨tokens, last, split, kinds, ends⟩
  have writes := datum.writes
  rw [← kinds] at writes
  rcases writes.parses ends with ⟨program, parsed, same⟩
  have read : Grammar.readProgram {} text = (.ok program, {}) := by
    simp only [Grammar.readProgram, split, parsed]
  have length : datum.written.length < fuel := by
    rw [← written, String.length_toList]
    exact enough
  have performs : BuildsUp (perform settings fuel) (programFrame ⟨name, text⟩) datum program :=
    program_builds same length
  rcases performs (start settings console files).machine
    (knowsNone_start settings console files ⟨name, text⟩) with ⟨value, after, evaluated, -, builds⟩
  refine ⟨value, { start settings console files with machine := after }, ?_, builds⟩
  have switches : (start settings console files).switches = {} := rfl
  have same : (start settings console files).settings = settings := rfl
  simp only [State.run, switches, read, State.evaluate, same]
  rw [evaluated]

/--
A value built from the absence of a value, integers other than the least one, texts without
characters that are shown by their code points, and lists of such values, is read back.
Whatever heap it lives in, its shown form runs in a new session to a value that is equal to it,
given more fuel than the form has characters.
-/
theorem represented_value_reads_back (settings : Settings) (console : Console) (files : Tree)
    (name : String) (around : Surroundings) {datum : Datum} {value : Value}
    (builds : around.outside.Builds datum value) {fuel : Nat}
    (enough : (around.outside.represent value).length < fuel) :
    ∃ result after,
      (start settings console files).run fuel ⟨name, around.outside.represent value⟩ =
        (.finished result, after) ∧
      (around.heap after.machine.heap).compare .eq (around.value result) value = .ok true ∧
      (around.heap after.machine.heap).compare .eq value (around.value result) = .ok true := by
  rcases run_datum settings console files name builds.represent enough with
    ⟨result, after, ran, again⟩
  have left : (around.heap after.machine.heap).Builds datum (around.value result) :=
    Surroundings.builds_heap again
  have right : (around.heap after.machine.heap).Builds datum value :=
    builds.kept Surroundings.listsKept_outside
  exact ⟨result, after, ran, congrArg Except.ok (left.equal right),
    congrArg Except.ok (right.equal left)⟩

/-- A heap with the list `[None, -7]`, and a list in which it stands on either side of a text. -/
def sampleHome : Surroundings where
  outside := { startHeap with
    lists := #[[.nothing, .int (-7)], [.list ⟨0⟩, .text "a\t\"«", .list ⟨0⟩]] }
  standard := 0
  prelude := by decide
  functions := Nat.zero_le _

def samplePair : Datum :=
  .list [.nothing, .int (-7) (by decide)]

theorem sampleText_visible :
    ∀ c ∈ "a\t\"«".toList, Text.quotedChar c ≠ Text.codePointEscape c := by
  have all : ("a\t\"«".toList.all fun c => Text.quotedChar c ≠ Text.codePointEscape c) = true := by
    decide +kernel
  exact fun c member => of_decide_eq_true (List.all_eq_true.mp all c member)

def sampleNest : Datum :=
  .list [samplePair, .text "a\t\"«" sampleText_visible, samplePair]

theorem sampleNest_builds : sampleHome.outside.Builds sampleNest (.list ⟨1⟩) := by
  have pair : sampleHome.outside.Builds samplePair (.list ⟨0⟩) :=
    .list rfl (.cons .nothing (.cons .int .nil))
  exact .list rfl (.cons pair (.cons .text (.cons pair .nil)))

theorem nested_list_reads_back :
    sampleHome.outside.Builds sampleNest (.list ⟨1⟩) ∧
      (sampleHome.outside.represent (.list ⟨1⟩)).length < ampleFuel ∧
      ∃ result after,
        (start {} {} {}).run ampleFuel ⟨"", sampleHome.outside.represent (.list ⟨1⟩)⟩ =
          (.finished result, after) ∧
        (sampleHome.heap after.machine.heap).compare .eq (sampleHome.value result) (.list ⟨1⟩) =
          .ok true ∧
        (sampleHome.heap after.machine.heap).compare .eq (.list ⟨1⟩) (sampleHome.value result) =
          .ok true := by
  have written : (sampleHome.outside.represent (.list ⟨1⟩)).toList =
      "[[None, -7], \"a\\t\\\"«\", [None, -7]]".toList := by
    rw [sampleNest_builds.represent]
    decide +kernel
  have enough : (sampleHome.outside.represent (.list ⟨1⟩)).length < ampleFuel := by
    rw [← String.length_toList, written]
    decide
  exact ⟨sampleNest_builds, enough,
    represented_value_reads_back {} {} {} "" sampleHome sampleNest_builds enough⟩

end Session
end Scripting
