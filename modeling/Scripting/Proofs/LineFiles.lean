import Mathlib.Data.List.Basic
import Scripting.Data.Bindings
import Scripting.Proofs.Elementary
import Scripting.Proofs.ListPositions

namespace Scripting

/-!
Files changed line by line.

A text is split at its line feeds, changed as a list of lines, and joined again with a line feed
behind each line.  Without carriage returns both ways are inverse to each other, whether or not
the last line was ended.  What is written is found again under the same path, because a file
that is put into a directory does not hide one of the directories on the way to it.
-/

namespace Text

/-! ## Lines -/

/-- A line: it contains neither its own end nor a carriage return. -/
def Plain (line : String) : Prop :=
  '\n' ∉ line.toList ∧ '\r' ∉ line.toList

instance (line : String) : Decidable (Plain line) :=
  inferInstanceAs (Decidable (_ ∧ _))

section Splitting

variable {separator : Char} {line : List Char}

theorem splitAt_append (absent : separator ∉ line) (rest : List Char) :
    splitAt separator (line ++ separator :: rest) = line :: splitAt separator rest := by
  induction line with
  | nil => simp [splitAt]
  | cons c line ih =>
      rcases not_or.mp (mt List.mem_cons.mpr absent) with ⟨other, absent⟩
      rw [List.cons_append, splitAt, if_neg (Ne.symm other), ih absent]

theorem splitAt_ended {lines : List (List Char)} (absent : ∀ line ∈ lines, separator ∉ line) :
    splitAt separator (lines.flatMap (· ++ [separator])) = lines ++ [[]] := by
  induction lines with
  | nil => rfl
  | cons line lines ih =>
      rcases List.forall_mem_cons.mp absent with ⟨here, later⟩
      rw [List.flatMap_cons, List.append_assoc, List.singleton_append, splitAt_append here, ih later]
      rfl

/-- The pieces of a text are parts of it without the separator. -/
theorem mem_splitAt {text piece : List Char} (member : piece ∈ splitAt separator text) :
    separator ∉ piece ∧ piece ⊆ text := by
  induction text generalizing piece with
  | nil =>
      obtain rfl := List.mem_singleton.mp member
      exact ⟨List.not_mem_nil, List.Subset.refl _⟩
  | cons c text ih =>
      rw [splitAt] at member
      split at member
      · rcases List.mem_cons.mp member with rfl | member
        · exact ⟨List.not_mem_nil, List.nil_subset _⟩
        · exact ⟨(ih member).1, List.subset_cons_of_subset c (ih member).2⟩
      · rename_i other
        split at member
        · obtain rfl := List.mem_singleton.mp member
          exact ⟨by simpa using Ne.symm other, by simp⟩
        · rename_i first others split
          rw [split] at ih
          rcases List.mem_cons.mp member with rfl | member
          · rcases ih List.mem_cons_self with ⟨absent, part⟩
            refine ⟨?_, List.cons_subset_cons c part⟩
            rw [List.mem_cons, not_or]
            exact ⟨Ne.symm other, absent⟩
          · rcases ih (List.mem_cons_of_mem _ member) with ⟨absent, part⟩
            exact ⟨absent, List.subset_cons_of_subset c part⟩

end Splitting

theorem dropReturn_of_absent {line : List Char} (absent : '\r' ∉ line) : dropReturn line = line := by
  rw [dropReturn, if_neg fun last => absent (List.mem_of_getLast? last)]

theorem dropReturn_subset (line : List Char) : dropReturn line ⊆ line := by
  unfold dropReturn
  split
  · exact List.dropLast_subset line
  · exact List.Subset.refl line

theorem endedLines_concat_nil (lines : List (List Char)) :
    endedLines (lines ++ [[]]) = lines.map dropReturn := by
  induction lines with
  | nil => rfl
  | cons line lines ih =>
      rw [List.map_cons, ← ih]
      cases lines <;> rfl

theorem mem_endedLines {pieces : List (List Char)} {line : List Char}
    (member : line ∈ endedLines pieces) : ∃ piece ∈ pieces, line ⊆ piece := by
  fun_induction endedLines pieces with
  | case1 => cases member
  | case2 last empty => cases member
  | case3 last _ => exact ⟨last, List.mem_cons_self, by rw [List.mem_singleton.mp member]; simp⟩
  | case4 first rest _ ih =>
      rcases List.mem_cons.mp member with rfl | member
      · exact ⟨first, List.mem_cons_self, dropReturn_subset first⟩
      · rcases ih member with ⟨piece, among, part⟩
        exact ⟨piece, List.mem_cons_of_mem _ among, part⟩

theorem plain_of_mem_lines {content line : String} (absent : '\r' ∉ content.toList)
    (member : line ∈ lines content) : Plain line := by
  rcases List.mem_map.mp member with ⟨letters, among, rfl⟩
  rcases mem_endedLines among with ⟨piece, split, part⟩
  rcases mem_splitAt split with ⟨unbroken, within⟩
  rw [Plain, String.toList_ofList]
  exact ⟨fun feed => unbroken (part feed), fun return_ => absent (within (part return_))⟩

theorem toList_joinLines {lines : List String} (some : lines ≠ []) :
    (joinLines lines).toList = (lines.map String.toList).flatMap (· ++ ['\n']) := by
  rw [joinLines, String.toList_append, String.toList_intercalate]
  induction lines with
  | nil => exact absurd rfl some
  | cons line lines ih =>
      cases lines with
      | nil => simp
      | cons next lines =>
          have joined := ih (List.cons_ne_nil next lines)
          simp only [List.map_cons, List.intercalate_cons_cons, List.flatMap_cons,
            List.append_assoc] at joined ⊢
          rw [joined]
          rfl

/-- Joining lines and splitting the text again gives the lines. -/
theorem lines_joinLines {lines : List String} (some : lines ≠ [])
    (plain : ∀ line ∈ lines, Plain line) : Text.lines (joinLines lines) = lines := by
  have unbroken : ∀ line ∈ lines.map String.toList, '\n' ∉ line := by
    rw [List.forall_mem_map]
    exact fun line member => (plain line member).1
  rw [Text.lines, toList_joinLines some, splitAt_ended unbroken, endedLines_concat_nil,
    List.map_map, List.map_map]
  refine (List.map_congr_left fun line member => ?_).trans (List.map_id lines)
  simp only [Function.comp_apply, dropReturn_of_absent (plain line member).2]
  exact String.ofList_toList

end Text

namespace Files

/-! ## Files found again -/

namespace Tree

variable {tree : Tree} {location other directory reached : Location} {content : ByteArray}
  {path : String} {above : List (List Char)} {last : List Char}

theorem lookup_put (tree : Tree) (location other : Location) (content : ByteArray) :
    (tree.put location content).files.lookup other =
      if other = location then some content else tree.files.lookup other := by
  rw [put, List.lookup_cons]
  split
  · rename_i same
    rw [if_pos (beq_iff_eq.mp same)]
  · rename_i different
    have different : other ≠ location := beq_eq_false_iff_ne.mp different
    rw [if_neg different]
    exact Data.lookup_filter_ne different tree.files

theorem entry_put_self (tree : Tree) (location : Location) (content : ByteArray) :
    (tree.put location content).entry location = .file content := by
  rw [entry, lookup_put, if_pos rfl]

theorem entry_eq_directory_iff : tree.entry other = .directory ↔
    tree.files.lookup other = none ∧
      (tree.files.any (fun file => file.1.isBelow other) ||
        (tree.here :: tree.directories).any (fun directory => directory.isWithin other)) =
          true := by
  unfold entry
  cases tree.files.lookup other with
  | some content => simp
  | none =>
      simp only [true_and]
      split
      · rename_i made
        exact iff_of_true rfl made
      · rename_i missing
        exact iff_of_false (fun same => by cases same) missing

theorem any_put {condition : Location → Bool}
    (some : tree.files.any (fun file => condition file.1) = true) (location : Location)
    (content : ByteArray) :
    (tree.put location content).files.any (fun file => condition file.1) = true := by
  rcases List.any_eq_true.mp some with ⟨file, member, holds⟩
  rw [put, List.any_cons, Bool.or_eq_true]
  by_cases same : file.1 = location
  · exact .inl (same ▸ holds)
  · exact .inr (List.any_eq_true.mpr
      ⟨file, List.mem_filter.mpr ⟨member, decide_eq_true same⟩, holds⟩)

/-- Directories do not disappear when a file is put elsewhere. -/
theorem entry_put_directory (there : tree.entry other = .directory) (different : other ≠ location)
    (content : ByteArray) : (tree.put location content).entry other = .directory := by
  rw [entry_eq_directory_iff] at there ⊢
  rcases there with ⟨unoccupied, made⟩
  refine ⟨by rw [lookup_put, if_neg different, unoccupied], ?_⟩
  rw [Bool.or_eq_true] at made ⊢
  exact made.imp_left fun below => @any_put tree (·.isBelow other) below location content

/-- The place that a piece of a path leads to from a directory. -/
def stride (location : Location) (piece : List Char) : Except FileError Location :=
  if staysInPlace piece then .ok location
  else if piece = ['.', '.'] then .ok location.up
  else if isLongName piece then .error .nameTooLong
  else .ok (location.down (String.ofList piece))

theorem follow_cons_eq_ok_iff {piece : List Char} :
    tree.follow location (piece :: above) = .ok reached ↔
      tree.entry location = .directory ∧
        ∃ next, stride location piece = .ok next ∧ tree.follow next above = .ok reached := by
  rw [follow, stride]
  cases tree.entry location with
  | missing => simp
  | file content => simp
  | directory =>
      by_cases stays : staysInPlace piece
      · simp [stays]
      · by_cases back : piece = ['.', '.']
        · simp only [if_neg stays, if_pos back, Except.ok.injEq, exists_eq_left', true_and]
        · by_cases long : isLongName piece <;> simp [stays, back, long]

theorem follow_append_eq_ok_iff {below : List (List Char)} :
    tree.follow location (above ++ below) = .ok reached ↔
      ∃ middle, tree.follow location above = .ok middle ∧ tree.follow middle below = .ok reached := by
  induction above generalizing location with
  | nil => simp [follow]
  | cons piece above ih =>
      simp only [List.cons_append, follow_cons_eq_ok_iff, ih]
      constructor
      · rintro ⟨there, next, goes, middle, first, second⟩
        exact ⟨middle, ⟨there, next, goes, first⟩, second⟩
      · rintro ⟨middle, ⟨there, next, goes, first⟩, second⟩
        exact ⟨there, next, goes, middle, first, second⟩

/-- What can be reached stays in reach when a file is put where no directory is. -/
theorem follow_put (free : tree.entry location ≠ .directory) {start : Location}
    (followed : tree.follow start above = .ok reached) (content : ByteArray) :
    (tree.put location content).follow start above = .ok reached := by
  induction above generalizing start with
  | nil => exact followed
  | cons piece above ih =>
      rcases follow_cons_eq_ok_iff.mp followed with ⟨there, next, goes, further⟩
      have different : start ≠ location := fun same => free (same ▸ there)
      exact follow_cons_eq_ok_iff.mpr
        ⟨entry_put_directory there different content, next, goes, ih further⟩

/-- A path names a place in a directory. -/
structure Names (tree : Tree) (path : String) (above : List (List Char)) (last : List Char)
    (directory : Location) : Prop where
  accepted : rejected? path = none
  split : pieces path.toList = above ++ [last]
  named : last ≠ [] ∧ last ≠ ['.'] ∧ last ≠ ['.', '.']
  short : isLongName last = false
  followed : tree.follow (tree.start path) above = .ok directory
  inside : tree.entry directory = .directory

/-- The place of a file in a directory, unless there is a directory. -/
def placeIn (tree : Tree) (last : List Char) (directory : Location) : Except FileError Location :=
  match tree.entry directory with
  | .missing => .error .notFound
  | .file _ => .error .notDirectory
  | .directory =>
      if last = ['.'] || last = ['.', '.'] then .error .isDirectory
      else if isLongName last then .error .nameTooLong
      else
        let location := directory.down (String.ofList last)
        match tree.entry location with
        | .directory => .error .isDirectory
        | _ => .ok location

theorem placeIn_eq_ok_iff : tree.placeIn last directory = .ok location ↔
    tree.entry directory = .directory ∧ (last ≠ ['.'] ∧ last ≠ ['.', '.']) ∧
      isLongName last = false ∧ location = directory.down (String.ofList last) ∧
      tree.entry location ≠ .directory := by
  unfold placeIn
  cases tree.entry directory with
  | missing => simp
  | file content => simp
  | directory =>
      by_cases special : last = ['.'] ∨ last = ['.', '.']
      · have flagged : (decide (last = ['.']) || decide (last = ['.', '.'])) = true := by
          simpa using special
        simp only [flagged, if_true, reduceCtorEq, false_iff]
        exact fun both => special.elim both.2.1.1 both.2.1.2
      · have plain := not_or.mp special
        cases long : isLongName last with
        | true => simp [plain]
        | false =>
            simp only [plain, decide_false, Bool.or_self, Bool.false_eq_true, if_false]
            cases free : tree.entry (directory.down (String.ofList last)) with
            | directory =>
                refine iff_of_false (fun same => by cases same) fun both => ?_
                exact both.2.2.2.2 (both.2.2.2.1 ▸ free)
            | file content => simp +contextual [plain, free, eq_comm]
            | missing => simp +contextual [plain, free, eq_comm]

theorem locateForWriting_of_split (accepted : rejected? path = none)
    (split : pieces path.toList = above ++ [last]) (named : last ≠ []) :
    tree.locateForWriting path = tree.follow (tree.start path) above >>= tree.placeIn last := by
  have reversed : (pieces path.toList).reverse = last :: above.reverse := by rw [split]; simp
  have kept : (last :: above.reverse).dropWhile (· = []) = last :: above.reverse := by
    rw [List.dropWhile_cons_of_neg (by simpa using named)]
  have unended : (some last = some []) = False := by simp [named]
  unfold locateForWriting
  simp only [accepted, reversed, kept, List.reverse_reverse, List.head?_cons, unended, decide_false,
    Bool.false_or]
  rfl

/-- A separator at the end of a path stands for a directory. -/
theorem locateForWriting_of_ended (split : pieces path.toList = above ++ [[]]) :
    tree.locateForWriting path ≠ .ok location := by
  have reversed : (pieces path.toList).reverse.head? = some [] := by rw [split]; simp
  intro found
  unfold locateForWriting at found
  simp only [reversed] at found
  split at found
  · cases found
  · split at found
    · cases found
    · rename_i last above _
      cases followed : tree.follow (tree.start path) above.reverse with
      | error error =>
          rw [followed] at found
          cases found
      | ok directory =>
          simp only [followed, decide_true, Bool.true_or, if_true, bind, Except.bind] at found
          split at found <;> cases found

/-- The place that a file is written to is named by the path, and not taken by a directory. -/
theorem locateForWriting_eq_ok_iff : tree.locateForWriting path = .ok location ↔
    ∃ above last directory, tree.Names path above last directory ∧
      location = directory.down (String.ofList last) ∧ tree.entry location ≠ .directory := by
  constructor
  · intro found
    have accepted : rejected? path = none := by
      cases rejected : rejected? path with
      | none => rfl
      | some error =>
          unfold locateForWriting at found
          rw [rejected] at found
          cases found
    rcases List.eq_nil_or_concat' (pieces path.toList) with none | ⟨above, last, split⟩
    · unfold locateForWriting at found
      simp only [accepted, none] at found
      cases found
    · by_cases named : last = []
      · exact absurd found (locateForWriting_of_ended (named ▸ split))
      · rw [locateForWriting_of_split accepted split named] at found
        cases followed : tree.follow (tree.start path) above with
        | error error =>
            rw [followed] at found
            cases found
        | ok directory =>
            rw [followed] at found
            rcases placeIn_eq_ok_iff.mp found with ⟨inside, special, short, placed, free⟩
            exact ⟨above, last, directory,
              ⟨accepted, split, ⟨named, special⟩, short, followed, inside⟩, placed, free⟩
  · rintro ⟨above, last, directory, names, placed, free⟩
    rw [locateForWriting_of_split names.accepted names.split names.named.1, names.followed]
    exact placeIn_eq_ok_iff.mpr ⟨names.inside, names.named.2, names.short, placed, free⟩

/-- A file is looked for where it is written. -/
theorem Names.locate (names : tree.Names path above last directory) :
    tree.locate path = .ok (directory.down (String.ofList last)) := by
  have named := names.named
  have moves : staysInPlace last = false := by simp [staysInPlace, named]
  have goes : stride directory last = .ok (directory.down (String.ofList last)) := by
    simp [stride, moves, named, names.short]
  rw [Tree.locate, names.accepted, names.split]
  exact follow_append_eq_ok_iff.mpr
    ⟨directory, names.followed, follow_cons_eq_ok_iff.mpr ⟨names.inside, _, goes, rfl⟩⟩

theorem Names.put (names : tree.Names path above last directory)
    (free : tree.entry location ≠ .directory) (content : ByteArray) :
    (tree.put location content).Names path above last directory := by
  have different : directory ≠ location := fun same => free (same ▸ names.inside)
  exact { names with
    followed := follow_put free names.followed content
    inside := entry_put_directory names.inside different content }

/-- What is written under a path is read under it. -/
theorem readText_put (found : tree.locateForWriting path = .ok location) (text : String) :
    (tree.put location text.toUTF8).readText path = .ok text := by
  rcases locateForWriting_eq_ok_iff.mp found with ⟨above, last, directory, names, rfl, free⟩
  have located := (names.put free text.toUTF8).locate
  have decoded : String.fromUTF8? text.toUTF8 = some text := dif_pos text.isValidUTF8
  simp only [readText, readBytes, located, bind, Except.bind, entry_put_self, decoded]

theorem locateForWriting_put (found : tree.locateForWriting path = .ok location)
    (content : ByteArray) : (tree.put location content).locateForWriting path = .ok location := by
  rcases locateForWriting_eq_ok_iff.mp found with ⟨above, last, directory, names, rfl, free⟩
  refine locateForWriting_eq_ok_iff.mpr ⟨above, last, directory, names.put free content, rfl, ?_⟩
  rw [entry_put_self]
  exact fun same => by cases same

/-- The last of several contents counts. -/
theorem put_put (tree : Tree) (location : Location) (first second : ByteArray) :
    (tree.put location first).put location second = tree.put location second := by
  simp only [put, List.filter_cons, ne_eq, not_true_eq_false, decide_false, Bool.false_eq_true,
    if_false, List.filter_filter, Bool.and_self]

/-- The text of the file under a path; one that is missing counts as empty. -/
def Contains (tree : Tree) (path content : String) : Prop :=
  tree.readText path = .ok content ∨ (tree.readText path = .error .notFound ∧ content = "")

theorem writeLine_eq {content : String} (contains : tree.Contains path content)
    (found : tree.locateForWriting path = .ok location) (text : String) (number : Nat)
    (replace : Bool) :
    tree.writeLine path text number replace =
      .ok (tree.put location (Text.joinLines
        (putLine (Text.lines content) text (number - 1) replace)).toUTF8) := by
  rcases contains with there | ⟨missing, rfl⟩
  · simp only [writeLine, there, write, found]
    rfl
  · simp only [writeLine, missing, write, found]
    rfl

end Tree

/-! ## Lines of a file -/

section Lines

variable {former : List String} {text : String} {number : Nat} {replace : Bool}

/--
What writing a line is to make of lines: an existing one is replaced if asked for, and otherwise
a new one comes between the others, which empty lines precede if they do not reach up to it.
-/
def writtenLines (former : List String) (text : String) (number : Nat) (replace : Bool) :
    List String :=
  if replace = true ∧ number ≤ former.length then former.set (number - 1) text
  else
    let padded := former ++ List.replicate (number - 1 - former.length) ""
    padded.take (number - 1) ++ text :: padded.drop (number - 1)

theorem putLine_eq (positive : 1 ≤ number) :
    putLine former text (number - 1) replace = writtenLines former text number replace := by
  unfold putLine writtenLines
  by_cases there : number ≤ former.length
  · have unpadded : number - 1 - former.length = 0 := by omega
    have inside : number - 1 < former.length := by omega
    cases replace with
    | true => simp [there, unpadded, inside]
    | false => simpa [unpadded] using Data.insertIdx_eq_take_drop text (Nat.le_of_lt inside)
  · have beyond : ¬ number - 1 < former.length + (number - 1 - former.length) := by omega
    have within : number - 1 ≤ (former ++ List.replicate (number - 1 - former.length) "").length := by
      rw [List.length_append, List.length_replicate]
      omega
    simpa [there, beyond] using Data.insertIdx_eq_take_drop text within

theorem writtenLines_ne_nil (positive : 1 ≤ number) :
    writtenLines former text number replace ≠ [] := by
  unfold writtenLines
  split
  · rename_i there
    rw [Ne, List.set_eq_nil_iff]
    rintro rfl
    exact Nat.not_succ_le_zero 0 (positive.trans there.2)
  · exact List.append_ne_nil_of_right_ne_nil _ (List.cons_ne_nil _ _)

theorem plain_writtenLines (plain : ∀ line ∈ former, Text.Plain line) (fits : Text.Plain text) :
    ∀ line ∈ writtenLines former text number replace, Text.Plain line := by
  have padding : ∀ line ∈ former ++ List.replicate (number - 1 - former.length) "",
      Text.Plain line := by
    rw [List.forall_mem_append]
    refine ⟨plain, fun line member => ?_⟩
    rw [List.eq_of_mem_replicate member]
    decide
  intro line member
  unfold writtenLines at member
  split at member
  · rcases List.mem_or_eq_of_mem_set member with among | rfl
    · exact plain line among
    · exact fits
  · rcases List.mem_append.mp member with before | behind
    · exact padding line (List.mem_of_mem_take before)
    · rcases List.mem_cons.mp behind with rfl | behind
      · exact fits
      · exact padding line (List.mem_of_mem_drop behind)

/-- So many lines come before a new one. -/
theorem length_front (former : List String) (number : Nat) :
    ((former ++ List.replicate (number - 1 - former.length) "").take (number - 1)).length =
      number - 1 := by
  rw [List.length_take, List.length_append, List.length_replicate]
  omega

/-- The line itself. -/
theorem writtenLines_here (positive : 1 ≤ number) :
    (writtenLines former text number replace)[number - 1]? = some text := by
  unfold writtenLines
  split
  · rename_i there
    have inside : number - 1 < former.length := by omega
    exact List.getElem?_set_self inside
  · have front := length_front former number
    rw [List.getElem?_append_right (Nat.le_of_eq front), front, Nat.sub_self]
    rfl

/-- Lines before it stay, and are empty where there were none. -/
theorem writtenLines_before {line : Nat} (first : 1 ≤ line) (before : line < number) :
    (writtenLines former text number replace)[line - 1]? = some (former[line - 1]?.getD "") := by
  unfold writtenLines
  split
  · rename_i there
    have inside : line - 1 < former.length := by omega
    rw [List.getElem?_set_ne (by omega), List.getElem?_eq_getElem inside]
    rfl
  · have front := length_front former number
    rw [List.getElem?_append_left (by omega), List.getElem?_take_of_lt (by omega)]
    by_cases there : line - 1 < former.length
    · rw [List.getElem?_append_left there, List.getElem?_eq_getElem there]
      rfl
    · have within : line - 1 - former.length < number - 1 - former.length := by omega
      rw [List.getElem?_append_right (Nat.not_lt.mp there), List.getElem?_replicate_of_lt within,
        List.getElem?_eq_none (Nat.not_lt.mp there)]
      rfl

/-- Lines behind it stay where they are if it replaces one, and move down otherwise. -/
theorem writtenLines_behind {line : Nat} (positive : 1 ≤ number) (behind : number < line) :
    (writtenLines former text number replace)[line - 1]? =
      former[if replace = true ∧ number ≤ former.length then line - 1 else line - 2]? := by
  unfold writtenLines
  split
  · exact List.getElem?_set_ne (by omega)
  · have front := length_front former number
    have step : line - 1 - (number - 1) = (line - 2 - (number - 1)) + 1 := by omega
    have place : number - 1 + (line - 2 - (number - 1)) = line - 2 := by omega
    rw [List.getElem?_append_right (by omega), front, step, List.getElem?_cons_succ,
      List.getElem?_drop, place]
    by_cases there : line - 2 < former.length
    · exact List.getElem?_append_left there
    · rw [List.getElem?_eq_none (Nat.not_lt.mp there), List.getElem?_eq_none]
      rw [List.length_append, List.length_replicate]
      omega

/-- Once a line is written, to replace it by the same line changes nothing. -/
theorem writtenLines_again (positive : 1 ≤ number) :
    writtenLines (writtenLines former text number replace) text number true =
      writtenLines former text number replace := by
  have here := @writtenLines_here former text number replace positive
  rcases List.getElem?_eq_some_iff.mp here with ⟨inside, same⟩
  have there : number ≤ (writtenLines former text number replace).length := by omega
  generalize writtenLines former text number replace = written at inside same there ⊢
  rw [writtenLines, if_pos ⟨rfl, there⟩, ← same]
  exact List.set_getElem_self inside

end Lines

end Files

namespace Evaluation

open Files (writtenLines)
open Source (Span)

/-! ## Writing and reading -/

/-- What becomes of a line that is read, if there is one. -/
def readLine? (frame : Frame) (span : Span) (number : Nat) : Option String → Action String
  | some line => return line
  | none => raise frame span (.lineOutOfRange number)

/-- A line has been written to a file whose lines were others before. -/
structure LineWritten (settings : Settings) (frame : Frame) (span : Span) (target : String)
    (after : Machine) (former : List String) (text : String) (number : Nat) (replace : Bool) :
    Prop where
  /-- The file ends with a line feed, and its lines are the ones before with this one. -/
  whole : ∃ content, readFile settings frame span target none after = .ok content after ∧
    content.toList.getLast? = some '\n' ∧
    Text.lines content = writtenLines former text number replace
  here : readFile settings frame span target (some number) after = .ok text after
  before : ∀ line, 1 ≤ line → line < number →
    readFile settings frame span target (some line) after =
      .ok (former[line - 1]?.getD "") after
  behind : ∀ line, number < line →
    readFile settings frame span target (some line) after =
      readLine? frame span line
        former[if replace = true ∧ number ≤ former.length then line - 1 else line - 2]? after
  again : writeFile settings frame span target text true (some number) after = .ok () after

section Reading

variable {settings : Settings} {frame : Frame} {span : Span} {target content text : String}
  {machine : Machine} {former : List String} {number : Nat} {replace : Bool}

theorem readFile_whole (there : machine.files.readText (settings.resolve target) = .ok content) :
    readFile settings frame span target none machine = .ok content machine := by
  have got : (get : Action Machine) machine = .ok machine machine := rfl
  rw [readFile, bind_apply, got]
  simp only [there]
  rfl

theorem readFile_line (there : machine.files.readText (settings.resolve target) = .ok content)
    (number : Nat) :
    readFile settings frame span target (some number) machine =
      readLine? frame span number (Text.lines content)[number - 1]? machine := by
  have got : (get : Action Machine) machine = .ok machine machine := rfl
  rw [readFile, bind_apply, got]
  simp only [there, Files.lineOf?]
  cases (Text.lines content)[number - 1]? <;> rfl

theorem writeFile_line {files : Files.Tree}
    (wrote : machine.files.writeLine (settings.resolve target) text number replace = .ok files) :
    writeFile settings frame span target text replace (some number) machine =
      .ok () { machine with files := files } := by
  unfold writeFile
  have written : writtenFiles machine.files (settings.resolve target) text replace (some number) =
      .ok files := wrote
  rw [written]

theorem getLast?_joinLines (lines : List String) :
    (Text.joinLines lines).toList.getLast? = some '\n' := by
  rw [Text.joinLines, String.toList_append]
  exact List.getLast?_append_of_ne_nil _ (List.cons_ne_nil _ _)

theorem lineWritten (positive : 1 ≤ number)
    (there : machine.files.readText (settings.resolve target) = .ok content)
    (ended : content.toList.getLast? = some '\n')
    (lines : Text.lines content = writtenLines former text number replace)
    (again : machine.files.writeLine (settings.resolve target) text number true =
      .ok machine.files) :
    LineWritten settings frame span target machine former text number replace where
  whole := ⟨content, readFile_whole there, ended, lines⟩
  here := by
    rw [readFile_line there, lines, Files.writtenLines_here positive]
    rfl
  before line first before := by
    rw [readFile_line there, lines, Files.writtenLines_before first before]
    rfl
  behind line behind := by
    rw [readFile_line there, lines, Files.writtenLines_behind positive behind]
  again := writeFile_line again

/-- Nothing is written where there is no place for a file. -/
theorem writeFile_of_error {error : Files.FileError} {after : Machine}
    (contains : machine.files.Contains (settings.resolve target) content)
    (refused : machine.files.locateForWriting (settings.resolve target) = .error error) :
    writeFile settings frame span target text replace (some number) machine ≠ .ok () after := by
  have wrote : machine.files.writeLine (settings.resolve target) text number replace =
      .error error := by
    rcases contains with there | ⟨missing, rfl⟩
    · simp only [Files.Tree.writeLine, there, Files.Tree.write, refused]
      rfl
    · simp only [Files.Tree.writeLine, missing, Files.Tree.write, refused]
      rfl
  have written : writtenFiles machine.files (settings.resolve target) text replace (some number) =
      .error error := wrote
  unfold writeFile
  rw [written]
  cases error <;> exact fun same => by cases same

/--
A line that is written to a file is found there again, between the lines that were there before:
those in front of it are as they were, with empty lines where there were none, and those behind
it have moved down unless it replaced one.  To write it once more in its place changes nothing.
-/
theorem written_line_read
    (contains : machine.files.Contains (settings.resolve target) content)
    (unreturned : '\r' ∉ content.toList) (fits : Text.Plain text) (positive : 1 ≤ number)
    (replace : Bool) :
    (∀ location, machine.files.locateForWriting (settings.resolve target) = .ok location →
      ∃ after, writeFile settings frame span target text replace (some number) machine =
        .ok () after) ∧
    ∀ after, writeFile settings frame span target text replace (some number) machine =
        .ok () after →
      ∀ frame span, LineWritten settings frame span target after (Text.lines content) text number
        replace := by
  cases found : machine.files.locateForWriting (settings.resolve target) with
  | error error =>
      refine ⟨fun location same => ?_, fun after wrote => ?_⟩
      · cases same
      · exact absurd wrote (writeFile_of_error contains found)
  | ok location =>
      have plain := @Files.plain_writtenLines (Text.lines content) text number replace
        (fun _ => Text.plain_of_mem_lines unreturned) fits
      have lines := Text.lines_joinLines (Files.writtenLines_ne_nil positive) plain
      have wrote := Files.Tree.writeLine_eq contains found text number replace
      rw [Files.putLine_eq positive] at wrote
      have there := Files.Tree.readText_put found
        (Text.joinLines (writtenLines (Text.lines content) text number replace))
      have again := Files.Tree.writeLine_eq (.inl there)
        (Files.Tree.locateForWriting_put found _) text number true
      rw [lines, Files.putLine_eq positive, Files.writtenLines_again positive,
        Files.Tree.put_put] at again
      have ended := @writeFile_line settings frame span target text machine number replace _ wrote
      refine ⟨fun _ _ => ⟨_, ended⟩, fun after same frame span => ?_⟩
      rw [ended] at same
      cases same
      exact lineWritten positive there (getLast?_joinLines _) lines again

end Reading

/-- A machine with a file of two lines, the last of which is not ended. -/
def twoLines : Machine where
  heap := {}
  depth := 0
  console := {}
  files := Files.Tree.put {} ⟨["notes"]⟩ "one\ntwo".toUTF8

theorem fourth_line_read :
    twoLines.files.Contains "./notes" "one\ntwo" ∧ '\r' ∉ "one\ntwo".toList ∧
      Text.Plain "four" ∧
      ∃ after, writeFile {} sampleSite.frame sampleSite.span "notes" "four" true (some 4)
          twoLines = .ok () after ∧
        readFile {} sampleSite.frame sampleSite.span "notes" (some 4) after = .ok "four" after ∧
        readFile {} sampleSite.frame sampleSite.span "notes" (some 3) after = .ok "" after ∧
        readFile {} sampleSite.frame sampleSite.span "notes" (some 2) after = .ok "two" after := by
  have empty : ({} : Files.Tree).locateForWriting "./notes" = .ok ⟨["notes"]⟩ := by
    decide +kernel
  have found := Files.Tree.locateForWriting_put empty "one\ntwo".toUTF8
  have contains : twoLines.files.Contains "./notes" "one\ntwo" :=
    .inl (Files.Tree.readText_put empty _)
  have unreturned : '\r' ∉ "one\ntwo".toList := by decide +kernel
  have fits : Text.Plain "four" := by decide +kernel
  have lines : Text.lines "one\ntwo" = ["one", "two"] := by decide +kernel
  rcases @written_line_read {} sampleSite.frame sampleSite.span "notes" "one\ntwo" "four" twoLines 4
    contains unreturned fits (by decide) true with ⟨succeeds, reads⟩
  rcases succeeds _ found with ⟨after, wrote⟩
  have line := reads after wrote sampleSite.frame sampleSite.span
  rw [lines] at line
  exact ⟨contains, unreturned, fits, after, wrote, line.here, line.before 3 (by decide) (by decide),
    line.before 2 (by decide) (by decide)⟩

end Evaluation
end Scripting
