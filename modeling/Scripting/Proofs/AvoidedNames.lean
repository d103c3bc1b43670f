import Scripting.Grammar.Reading
import Scripting.Proofs.ParserSoundness
import Scripting.Proofs.Segmentation
import Scripting.Proofs.StrandedOperands

namespace Scripting

/-!
Names that a program does not mention.

A form looks up the names that it mentions as variables, and those of its targets.  All of them
are identifiers of its text: if a text does not contain an identifier, then nothing that is read
from it looks up that name.
-/

open Lexical (Switches Token TokenKind tokenize)

namespace Program

open Grammar (Everywhere formParts)

/-- The names that a form itself looks up or sets. -/
def mentions : Form Node → List String
  | .name name | .inspect name | .delete name => [name]
  | .assign targets _ _ => targets.map (·.name)
  | _ => []

/-- Nowhere in a node is one of the names mentioned. -/
def Node.Avoids (names : List String) (node : Node) : Prop :=
  Everywhere (fun node => ∀ name ∈ mentions node.form, name ∉ names) node

theorem avoids_iff {names : List String} {span : Source.Span} {form : Form Node} :
    Node.Avoids names ⟨span, form⟩ ↔
      (∀ name ∈ mentions form, name ∉ names) ∧ ∀ part ∈ formParts form, part.Avoids names := by
  constructor
  · rintro ⟨here, parts⟩
    exact ⟨here, parts⟩
  · rintro ⟨here, parts⟩
    exact .node here parts

end Program

namespace Lexical

/-- Whether a text contains none of some names as an identifier. -/
def lacks (names : List String) (switches : Switches) (text : String) : Bool :=
  match tokenize switches text with
  | .ok (tokens, _) => tokens.all fun token => names.all fun name => token.kind ≠ .identifier name
  | .error _ => true

end Lexical

namespace Grammar

open Program (Node Target avoids_iff)

variable {names : List String}

/-- The names of targets in what a part of the grammar makes up. -/
def Part.targetNames : (part : Part) → part.Tree → List String
  | .element .target, target => [target.name]
  | .separated .target, targets => targets.map (·.name)
  | _, _ => []

theorem avoids_single {node : Node} :
    (∀ part ∈ [node], part.Avoids names) ↔ node.Avoids names :=
  List.forall_mem_singleton

/-- A form with parts that avoid the names, if it does not mention them itself. -/
theorem avoids_form {span : Source.Span} {form : Program.Form Node}
    (here : ∀ name ∈ Program.mentions form, name ∉ names)
    (parts : ∀ part ∈ formParts form, part.Avoids names) :
    ∀ part ∈ [(⟨span, form⟩ : Node)], part.Avoids names :=
  avoids_single.mpr (avoids_iff.mpr ⟨here, parts⟩)

section Derivations

variable {all : List TokenKind} (lacking : ∀ name, .identifier name ∈ all → name ∉ names)
include lacking

/-- Targets are named by identifiers among the tokens. -/
theorem Derives.targets_avoid {part : Part} {tokens : List TokenKind} {tree : part.Tree}
    (derives : Derives part tokens tree) (within : tokens ⊆ all) :
    ∀ name ∈ part.targetNames tree, name ∉ names := by
  induction derives with
  | «variable» =>
      exact List.forall_mem_singleton.mpr (lacking _ (List.cons_subset.mp within).1)
  | attributeTarget owner =>
      have last := (List.cons_subset.mp (List.append_subset.mp within).2).2
      exact List.forall_mem_singleton.mpr (lacking _ (List.cons_subset.mp last).1)
  | @lastElement element _ _ _ last =>
      cases element with
      | target => exact last within
      | _ => exact nofun
  | @nextElement element _ _ _ _ _ _ first later =>
      obtain ⟨here, there⟩ := List.append_subset.mp within
      cases element with
      | target =>
          have head := first here _ List.mem_cons_self
          exact List.forall_mem_cons.mpr ⟨head, later (List.cons_subset.mp there).2⟩
      | _ => exact nofun
  | _ => exact nofun

/-- What is derived from tokens without some names mentions none of them. -/
theorem Derives.avoids {part : Part} {tokens : List TokenKind} {tree : part.Tree}
    (derives : Derives part tokens tree) (within : tokens ⊆ all) :
    ∀ node ∈ part.nodes tree, node.Avoids names := by
  induction derives with
  | assign left _ _ targets values =>
      simp only [List.cons_subset, List.append_subset] at within
      obtain ⟨-, assigned, -, given⟩ := within
      refine avoids_form (left.targets_avoid lacking assigned) ?_
      exact List.forall_mem_append.mpr ⟨targets assigned, values given⟩
  | delete | inspect =>
      simp only [List.cons_subset] at within
      exact avoids_form (List.forall_mem_singleton.mpr (lacking _ within.2.1))
        (List.forall_mem_nil _)
  | name | stepName =>
      exact avoids_form (List.forall_mem_singleton.mpr (lacking _ (List.cons_subset.mp within).1))
        (List.forall_mem_nil _)
  | @lastElement element _ _ _ last =>
      cases element with
      | value => exact last within
      | target => simpa [Part.nodes] using last within
      | parameter => simpa [Part.nodes] using last within
  | @nextElement element _ _ _ _ _ _ first later =>
      simp only [List.append_subset, List.cons_subset] at within
      obtain ⟨here, -, there⟩ := within
      cases element with
      | value => exact List.forall_mem_cons.mpr ⟨avoids_single.mp (first here), later there⟩
      | target => exact List.forall_mem_append.mpr ⟨first here, later there⟩
      | parameter => exact List.forall_mem_append.mpr ⟨first here, later there⟩
  | @function _ _ _ _ required optional _ _ _ _ _ taken body =>
      simp only [List.append_subset, List.cons_subset] at within
      obtain ⟨-, -, -, given, -, tokens⟩ := within
      refine avoids_form (List.forall_mem_nil _)
        (List.forall_mem_cons.mpr ⟨avoids_single.mp (body tokens), ?_⟩)
      intro value member
      obtain ⟨entry, listed, rfl⟩ := List.mem_map.mp member
      refine taken given entry.2 (List.mem_flatMap.mpr ⟨(entry.1, some entry.2), ?_, ?_⟩)
      · exact List.mem_append_right _ (List.mem_map_of_mem listed)
      · exact Option.mem_toList.mpr rfl
  | parameters _ given => exact given within
  | comparison _ _ _ first links =>
      obtain ⟨here, there⟩ := List.append_subset.mp within
      exact avoids_form (List.forall_mem_nil _)
        (List.forall_mem_cons.mpr ⟨avoids_single.mp (first here), links there⟩)
  | nextLink _ _ first later =>
      simp only [List.append_subset, List.cons_subset] at within
      obtain ⟨-, here, there⟩ := within
      exact List.forall_mem_cons.mpr ⟨avoids_single.mp (first here), later there⟩
  | _ =>
      simp_all [Part.nodes, avoids_iff, formParts, loopParts, Program.mentions]

end Derivations

/-- A program mentions only names that are identifiers among its tokens. -/
theorem parse_avoids {body : List Token} {last : Token} {node : Node}
    (ends : last.kind = .endOfFile)
    (lacking : ∀ token ∈ body, ∀ name ∈ names, token.kind ≠ .identifier name)
    (parsed : parse (body ++ [last]) = .ok node) : node.Avoids names := by
  have kinds : (Place.ofTokens (body ++ [last])).kinds = body.map Token.kind ++ [.endOfFile] :=
    kinds_ofTokens ends
  have ended : Ended (Place.ofTokens (body ++ [last])).kinds := by
    rw [kinds]
    exact List.getLast?_concat
  rcases outcome_ok.mp parsed with ⟨next, read⟩
  rcases program_yields (follows_descend _) ended node next read with ⟨passed, split, derives⟩
  refine avoids_single.mp (derives.avoids (fun name member listed => ?_) (List.Subset.refl _))
  have among : .identifier name ∈ body.map Token.kind ++ [.endOfFile] := by
    rw [← kinds, split]
    exact List.mem_append_left _ member
  rcases List.mem_append.mp among with inBody | atEnd
  · obtain ⟨token, here, same⟩ := List.mem_map.mp inBody
    exact lacking token here name listed same
  · cases List.mem_singleton.mp atEnd

/-- What is read from a text without some names mentions none of them. -/
theorem readProgram_avoids {switches : Switches} {text : String} {program : Node}
    (lacks : Lexical.lacks names switches text = true)
    (read : (readProgram switches text).1 = .ok program) : program.Avoids names := by
  unfold Lexical.lacks at lacks
  unfold readProgram at read
  split at read
  · cases read
  · rename_i tokens next lexed
    rcases (Lexical.faithful_of_tokenize lexed).ends with ⟨body, rfl, -⟩
    rw [lexed] at lacks
    split at read
    · cases read
    · rename_i node parsed
      cases read
      refine parse_avoids rfl (fun token member name listed => ?_) parsed
      have absent := List.all_eq_true.mp lacks token (List.mem_append_left _ member)
      exact of_decide_eq_true (List.all_eq_true.mp absent name listed)

end Grammar
end Scripting
