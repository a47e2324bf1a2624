import FixtureHarness.Proofs.Configuration.Decoding
import FixtureHarness.Proofs.Configuration.Layout
import FixtureHarness.Proofs.Yaml.Blank
import Mathlib.Data.List.TakeWhile

/-! # Reading configurations

A text that holds a mapping is read as a configuration exactly if the mapping fits the rules, and
what it gives are the fields of the mapping in place of the defaults. Whether a text that says
nothing is a text of white space or a document left empty makes no difference.
-/

namespace FixtureHarness.Configuration

open Yaml (Document Tree)

variable {text file : String} {tree : Tree}

/-- The text is one whole document, with the tree as its content. -/
structure Holds (text : String) (tree : Tree) : Prop where
  whole : (Document.ofText text).error? = none
  single : (Document.ofText text).hasMore = false
  shown : (Document.ofText text).Shows tree (Document.ofText text).root

/-- The content of a text that is one whole document without aliases. -/
def content? (text : String) : Option Tree :=
  let document := Document.ofText text
  if document.error?.isNone && !document.hasMore then document.root.tree? else none

theorem holds_of_content? (content : content? text = some tree) : Holds text tree := by
  obtain ⟨ended, shown⟩ := Option.ite_none_right_eq_some.mp content
  rw [Bool.and_eq_true, Option.isNone_iff_eq_none, Bool.not_eq_true'] at ended
  exact ⟨ended.1, ended.2, Document.shows_of_tree? shown⟩

/-- Nothing is left of a text by trimming only if it is white space. -/
theorem isBlank_of_trim (empty : (Text.trim text.toList).isEmpty = true) :
    ∀ char ∈ text.toList, Text.isBlank char = true := by
  have nothing : (Text.trimStart text.toList).reverse.dropWhile Text.isBlank = [] := by
    simpa only [Text.trim, Text.trimStart, List.isEmpty_reverse, List.isEmpty_iff] using empty
  have behind : ∀ char ∈ text.toList.dropWhile Text.isBlank, Text.isBlank char = true := by
    intro char member
    exact List.dropWhile_eq_nil_iff.mp nothing char (List.mem_reverse.mpr member)
  have front : ∀ char ∈ text.toList.takeWhile Text.isBlank, Text.isBlank char = true :=
    fun char => List.mem_takeWhile_imp
  intro char member
  rw [← List.takeWhile_append_dropWhile (p := Text.isBlank) (l := text.toList)] at member
  exact (List.mem_append.mp member).elim (front char) (behind char)

/-- A text is read if its content fits the rules. For a text of white space, which is not decoded at
all, the content that is left out fits and gives the defaults too. -/
theorem ofText?_eq_ok_iff {entries : List (Tree × Tree)} {configuration : Configuration}
    (held : Holds text tree) (given : tree.entries? = some entries) :
    ofText? text file = .ok configuration ↔
      HasFields rules tree ∧ configuration = configurationFrom {} tree := by
  have decoded : ofDocument? (.ofText text) = .ok configuration ↔
      HasFields rules tree ∧ configuration = configurationFrom {} tree := by
    rw [ofDocument?_eq_ok_iff]
    constructor
    · rintro ⟨_, _, other, shown, fits, rfl⟩
      obtain rfl := held.shown.unique shown
      exact ⟨fits, rfl⟩
    · rintro ⟨fits, rfl⟩
      exact ⟨held.whole, held.single, tree, held.shown, fits, rfl⟩
  unfold ofText?
  split_ifs with empty
  -- A mapping cannot be white space, but a document left empty can.
  · rcases Tree.entries?_eq_some_iff.mp given with rfl | ⟨rfl, rfl⟩
    · exact (Document.not_shows_mapping_of_blank (isBlank_of_trim empty) held.shown).elim
    · have fits : HasFields rules (.scalar "" .plain) := ⟨[], rfl, by simp, by simp⟩
      have default : configurationFrom {} (.scalar "" .plain) = {} := readBy_fields.void {}
      rw [default, Except.ok.injEq, eq_comm]
      exact (and_iff_right fits).symm
  · rw [← decoded]
    split
    · next read => simp [read]
    · next failed => simp [failed]

/-- A text that cannot be read is reported with the name of its file. -/
theorem exists_configText_of_not_ok
    (fails : ∀ configuration, ofText? text file ≠ .ok configuration) :
    ∃ message, ofText? text file = .error (.configText file message) := by
  unfold ofText? at fails ⊢
  split_ifs at fails ⊢
  · exact (fails _ rfl).elim
  · split at fails
    · exact (fails _ rfl).elim
    · exact ⟨_, rfl⟩

/-- A text that holds a mapping is read exactly if the mapping has known fields only, none of them
repeated and each with a value as its rule wants it. It gives the default configuration with these
fields in place of the defaults. Other orders of entries, and defaults that are written or left out,
give the same; one unknown or repeated key more, at whatever place, is refused. -/
theorem ofText_reads_fields {text file : String} {entries : List (Tree × Tree)}
    (held : Holds text (.mapping entries)) :
    (∀ configuration, ofText? text file = .ok configuration ↔
      HasFields rules (.mapping entries) ∧
        configuration = configurationFrom {} (.mapping entries)) ∧
    (¬ HasFields rules (.mapping entries) →
      ∃ message, ofText? text file = .error (.configText file message)) ∧
    (∀ {other otherFile : String} {tree : Tree}, Holds other tree →
      SaysSame (.mapping entries) tree →
      ∀ configuration,
        ofText? other otherFile = .ok configuration ↔ ofText? text file = .ok configuration) ∧
    ∀ {other otherFile : String} {tree : Tree} {entry : Tree × Tree} {place : List String}
      {siblings : List (Tree × Tree)}, Holds other tree →
      Tree.Adds entry place siblings (.mapping entries) tree →
      IsUnwanted place siblings entry.1 →
      ∃ message, ofText? other otherFile = .error (.configText otherFile message) := by
  refine ⟨fun _ => ofText?_eq_ok_iff held rfl, ?_, ?_, ?_⟩
  · intro unfit
    refine exists_configText_of_not_ok fun configuration read => unfit ?_
    exact ((ofText?_eq_ok_iff held rfl).mp read).1
  · intro other otherFile tree heldToo same configuration
    obtain ⟨others, given⟩ := Option.isSome_iff_exists.mp same.isSome_entries?.symm
    obtain ⟨forth, back⟩ := givesSame_of_saysSame same
    rw [ofText?_eq_ok_iff heldToo given, ofText?_eq_ok_iff held rfl]
    constructor
    · rintro ⟨fits, rfl⟩
      exact ⟨(back fits).1, (back fits).2.symm⟩
    · rintro ⟨fits, rfl⟩
      exact ⟨(forth fits).1, (forth fits).2.symm⟩
  · intro other otherFile tree entry place siblings heldToo adds unwanted
    obtain ⟨others, given⟩ := Option.isSome_iff_exists.mp adds.isSome_entries?.2
    refine exists_configText_of_not_ok fun configuration read => ?_
    exact not_hasFields_of_unwanted adds unwanted ((ofText?_eq_ok_iff heldToo given).mp read).1

/-- The content of a configuration with a directory, and a runner with a program and a setting more
at most. -/
def sampleEntries (settings : List (Tree × Tree)) : List (Tree × Tree) :=
  [(.scalar "fixture_dir" .plain, .scalar "data" .plain),
    (.scalar "runner" .plain,
      .mapping ((.scalar "program" .plain, .scalar "sh" .plain) :: settings))]

theorem sample_holds :
    Holds "fixture_dir: data\nrunner: \x7bprogram: sh\x7d\n" (.mapping (sampleEntries [])) :=
  holds_of_content? (by decide +kernel)

theorem reversedSample_holds :
    Holds "runner: \x7bprogram: sh, args: []\x7d\nfixture_dir: data\n"
      (.mapping (sampleEntries [(.scalar "args" .plain, .sequence [])]).reverse) :=
  holds_of_content? (by decide +kernel)

theorem unknownSample_holds :
    Holds "fixture_dir: data\nrunner: \x7bprogram: sh, mode: x\x7d\n"
      (.mapping (sampleEntries [(.scalar "mode" .plain, .scalar "x" .plain)])) :=
  holds_of_content? (by decide +kernel)

theorem adds_sampleEntry (entry : Tree × Tree) :
    Tree.Adds entry ["runner"] [(.scalar "program" .plain, .scalar "sh" .plain)]
      (.mapping (sampleEntries [])) (.mapping (sampleEntries [entry])) := by
  have inside : Tree.Adds entry [] [(.scalar "program" .plain, .scalar "sh" .plain)]
      (.mapping [(.scalar "program" .plain, .scalar "sh" .plain)])
      (.mapping [(.scalar "program" .plain, .scalar "sh" .plain), entry]) :=
    @Tree.Adds.here entry _ [_] [] rfl
  exact @Tree.Adds.inside entry _ _ _ [_] [] _ _ _ rfl inside

/-- The default that the second text writes, in another order of entries, is left out in the first.
The key that the third text has is unknown. -/
theorem sample_read :
    Holds "fixture_dir: data\nrunner: \x7bprogram: sh\x7d\n" (.mapping (sampleEntries [])) ∧
    ofText? "fixture_dir: data\nrunner: \x7bprogram: sh\x7d\n" "a.yaml" =
      .ok { fixtureDirectory := ⟨"data"⟩, runner := { program := "sh" } } ∧
    ofText? "runner: \x7bprogram: sh, args: []\x7d\nfixture_dir: data\n" "b.yaml" =
      .ok { fixtureDirectory := ⟨"data"⟩, runner := { program := "sh" } } ∧
    ∃ message, ofText? "fixture_dir: data\nrunner: \x7bprogram: sh, mode: x\x7d\n" "c.yaml" =
      .error (.configText "c.yaml" message) := by
  obtain ⟨reads, _, same, refuses⟩ := @ofText_reads_fields _ "a.yaml" _ sample_holds
  have fits : HasFields rules (.mapping (sampleEntries [])) := by
    have program : HasFields runnerRules
        (.mapping [(.scalar "program" .plain, .scalar "sh" .plain)]) := by
      simp [hasFields_mapping, runnerRules, IsScalar, Tree.text?]
    simp [hasFields_mapping, sampleEntries, rules, IsScalar, Tree.text?, program]
  have read := (reads _).mpr ⟨fits, rfl⟩
  have written : SaysSame (.mapping (sampleEntries []))
      (.mapping (sampleEntries [(.scalar "args" .plain, .sequence [])]).reverse) := by
    have arguments := SaysSame.default (adds_sampleEntry (.scalar "args" .plain, .sequence []))
      rfl (by decide) (.inr (.inl ⟨rfl, rfl⟩))
    exact .trans arguments (.order (.perm (List.reverse_perm _).symm))
  have unwanted : IsUnwanted ["runner"] [(.scalar "program" .plain, .scalar "sh" .plain)]
      (.scalar "mode" .plain) := by
    simp [IsUnwanted, fieldsAt, runnerRules, Tree.text?]
  exact ⟨sample_holds, read, (same reversedSample_holds written _).mpr read,
    refuses unknownSample_holds (adds_sampleEntry _) unwanted⟩

end FixtureHarness.Configuration
