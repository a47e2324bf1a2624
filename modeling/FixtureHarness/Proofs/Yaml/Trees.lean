import FixtureHarness.Yaml.Node
import Mathlib.Data.List.Nodup

/-! # The content of documents as trees

What a document says, without the marks, anchors and tags that its nodes carry, and with each alias
replaced by what it stands for. A document says at most one thing; one that refers to itself says
nothing that is a tree.
-/

namespace FixtureHarness.Yaml

/-- The content of a node. -/
inductive Tree where
  | scalar (text : String) (style : ScalarStyle)
  | sequence (items : List Tree)
  | mapping (entries : List (Tree × Tree))
  deriving Inhabited

namespace Tree

mutual

/-- Whether two trees are the same. -/
def decEq : (tree other : Tree) → Decidable (tree = other)
  | scalar text style, scalar otherText otherStyle =>
    decidable_of_iff (text = otherText ∧ style = otherStyle) (by simp)
  | sequence items, sequence others =>
    have := decEqItems items others
    decidable_of_iff (items = others) (by simp)
  | mapping entries, mapping others =>
    have := decEqEntries entries others
    decidable_of_iff (entries = others) (by simp)
  | scalar .., sequence _ | scalar .., mapping _ | sequence _, scalar .. | sequence _, mapping _
  | mapping _, scalar .. | mapping _, sequence _ => isFalse nofun

/-- Whether items are the same. -/
def decEqItems : (items others : List Tree) → Decidable (items = others)
  | [], [] => isTrue rfl
  | item :: items, other :: others =>
    have := decEq item other
    have := decEqItems items others
    decidable_of_iff (item = other ∧ items = others) (by simp)
  | [], _ :: _ | _ :: _, [] => isFalse nofun

/-- Whether entries are the same. -/
def decEqEntries : (entries others : List (Tree × Tree)) → Decidable (entries = others)
  | [], [] => isTrue rfl
  | (key, value) :: entries, (otherKey, otherValue) :: others =>
    have := decEq key otherKey
    have := decEq value otherValue
    have := decEqEntries entries others
    decidable_of_iff ((key = otherKey ∧ value = otherValue) ∧ entries = others) (by simp)
  | [], _ :: _ | _ :: _, [] => isFalse nofun

end

instance : DecidableEq Tree := decEq

end Tree

namespace Node

mutual

/-- The content of a node that refers to no other. -/
def tree? : Node → Option Tree
  | scalar _ _ _ text style => some (.scalar (String.ofList text) style)
  | sequence _ _ items => (itemTrees? items).map .sequence
  | mapping _ _ entries => (entryTrees? entries).map .mapping
  | aliasOf _ _ => none
  | cut => none

/-- The contents of items. -/
def itemTrees? : List Node → Option (List Tree)
  | [] => some []
  | item :: rest => do
    let tree ← item.tree?
    let trees ← itemTrees? rest
    some (tree :: trees)

/-- The contents of the keys and values of entries. -/
def entryTrees? : List (Node × Node) → Option (List (Tree × Tree))
  | [] => some []
  | (key, value) :: rest => do
    let keyTree ← key.tree?
    let valueTree ← value.tree?
    let trees ← entryTrees? rest
    some ((keyTree, valueTree) :: trees)

end

end Node

namespace Document

variable {document : Document}

mutual

/-- A node shows a tree: its content, or that of the node it stands for, is the tree. -/
def Shows (document : Document) : Tree → Node → Prop
  | .scalar text style, node =>
    ∃ mark anchor? tag?, document.target node = .scalar mark anchor? tag? text.toList style
  | .sequence trees, node =>
    ∃ mark anchor? items, document.target node = .sequence mark anchor? items ∧
      ShowsItems document trees items
  | .mapping trees, node =>
    ∃ mark anchor? entries, document.target node = .mapping mark anchor? entries ∧
      ShowsEntries document trees entries

/-- Items show as many trees, in their order. -/
def ShowsItems (document : Document) : List Tree → List Node → Prop
  | [], items => items = []
  | tree :: trees, items =>
    ∃ item rest, items = item :: rest ∧ Shows document tree item ∧ ShowsItems document trees rest

/-- Entries show as many pairs of trees, in their order. -/
def ShowsEntries (document : Document) : List (Tree × Tree) → List (Node × Node) → Prop
  | [], entries => entries = []
  | (key, value) :: trees, entries =>
    ∃ keyNode valueNode rest, entries = (keyNode, valueNode) :: rest ∧
      Shows document key keyNode ∧ Shows document value valueNode ∧
      ShowsEntries document trees rest

end

mutual

/-- A node shows one tree at most. -/
theorem Shows.unique {node : Node} : ∀ {tree other : Tree}, document.Shows tree node →
    document.Shows other node → tree = other
  | .scalar text style, other, shown, again => by
    obtain ⟨mark, anchor?, tag?, target⟩ := shown
    cases other with
    | scalar otherText otherStyle =>
      obtain ⟨_, _, _, otherTarget⟩ := again
      obtain ⟨_, _, _, same, rfl⟩ := Node.scalar.inj (target.symm.trans otherTarget)
      rw [String.toList_injective same]
    | sequence trees =>
      obtain ⟨_, _, _, otherTarget, _⟩ := again
      cases target.symm.trans otherTarget
    | mapping trees =>
      obtain ⟨_, _, _, otherTarget, _⟩ := again
      cases target.symm.trans otherTarget
  | .sequence trees, other, shown, again => by
    obtain ⟨mark, anchor?, items, target, shown⟩ := shown
    cases other with
    | scalar text style =>
      obtain ⟨_, _, _, otherTarget⟩ := again
      cases target.symm.trans otherTarget
    | sequence others =>
      obtain ⟨_, _, _, otherTarget, again⟩ := again
      obtain ⟨_, _, rfl⟩ := Node.sequence.inj (target.symm.trans otherTarget)
      rw [ShowsItems.unique shown again]
    | mapping others =>
      obtain ⟨_, _, _, otherTarget, _⟩ := again
      cases target.symm.trans otherTarget
  | .mapping trees, other, shown, again => by
    obtain ⟨mark, anchor?, entries, target, shown⟩ := shown
    cases other with
    | scalar text style =>
      obtain ⟨_, _, _, otherTarget⟩ := again
      cases target.symm.trans otherTarget
    | sequence others =>
      obtain ⟨_, _, _, otherTarget, _⟩ := again
      cases target.symm.trans otherTarget
    | mapping others =>
      obtain ⟨_, _, _, otherTarget, again⟩ := again
      obtain ⟨_, _, rfl⟩ := Node.mapping.inj (target.symm.trans otherTarget)
      rw [ShowsEntries.unique shown again]

theorem ShowsItems.unique {items : List Node} : ∀ {trees others : List Tree},
    document.ShowsItems trees items → document.ShowsItems others items → trees = others
  | [], [], _, _ => rfl
  | [], _ :: _, empty, again => by
    obtain ⟨_, _, some, _⟩ := again
    cases empty.symm.trans some
  | tree :: trees, [], shown, empty => by
    obtain ⟨_, _, some, _⟩ := shown
    cases empty.symm.trans some
  | tree :: trees, other :: others, shown, again => by
    obtain ⟨item, rest, rfl, first, more⟩ := shown
    obtain ⟨_, _, same, otherFirst, otherMore⟩ := again
    obtain ⟨rfl, rfl⟩ := List.cons.inj same
    rw [first.unique otherFirst, more.unique otherMore]

theorem ShowsEntries.unique {entries : List (Node × Node)} : ∀ {trees others : List (Tree × Tree)},
    document.ShowsEntries trees entries → document.ShowsEntries others entries → trees = others
  | [], [], _, _ => rfl
  | [], _ :: _, empty, again => by
    obtain ⟨_, _, _, some, _⟩ := again
    cases empty.symm.trans some
  | (key, value) :: trees, [], shown, empty => by
    obtain ⟨_, _, _, some, _⟩ := shown
    cases empty.symm.trans some
  | (key, value) :: trees, (otherKey, otherValue) :: others, shown, again => by
    obtain ⟨_, _, _, rfl, first, second, more⟩ := shown
    obtain ⟨_, _, _, same, otherFirst, otherSecond, otherMore⟩ := again
    obtain ⟨pair, rfl⟩ := List.cons.inj same
    obtain ⟨rfl, rfl⟩ := Prod.mk.inj pair
    rw [first.unique otherFirst, second.unique otherSecond, more.unique otherMore]

end

/-- What a scalar shows. -/
theorem shows_of_scalar {node : Node} {mark : Mark} {anchor? : Option Nat}
    {tag? : Option (List Char)} {chars : List Char} {style : ScalarStyle}
    (target : document.target node = .scalar mark anchor? tag? chars style) :
    document.Shows (.scalar (String.ofList chars) style) node :=
  ⟨mark, anchor?, tag?, by rw [target, String.toList_ofList]⟩

/-- A node shows nothing if it counts as left out. -/
theorem shows_void_iff {node : Node} :
    document.Shows (.scalar "" .plain) node ↔ (document.target node).isVoid = true := by
  constructor
  · rintro ⟨_, _, _, target⟩
    rw [target]
    rfl
  · intro void
    cases held : document.target node with
    | scalar mark anchor? tag? chars style =>
      rw [held] at void
      obtain ⟨rfl, rfl⟩ : chars = [] ∧ style = .plain := by simpa [Node.isVoid] using void
      exact shows_of_scalar held
    | _ =>
      rw [held] at void
      cases void

mutual

/-- A node that refers to no other shows its content. -/
theorem shows_of_tree? : ∀ {node : Node} {tree : Tree}, node.tree? = some tree →
    document.Shows tree node
  | .scalar mark anchor? tag? text style, tree, held => by
    obtain rfl := Option.some.inj held
    exact shows_of_scalar rfl
  | .sequence mark anchor? items, tree, held => by
    obtain ⟨trees, more, rfl⟩ := Option.map_eq_some_iff.mp held
    exact ⟨mark, anchor?, items, rfl, showsItems_of_itemTrees? more⟩
  | .mapping mark anchor? entries, tree, held => by
    obtain ⟨trees, more, rfl⟩ := Option.map_eq_some_iff.mp held
    exact ⟨mark, anchor?, entries, rfl, showsEntries_of_entryTrees? more⟩
  | .aliasOf mark anchor, tree, held => nomatch held
  | .cut, tree, held => nomatch held

theorem showsItems_of_itemTrees? : ∀ {items : List Node} {trees : List Tree},
    Node.itemTrees? items = some trees → document.ShowsItems trees items
  | [], trees, held => by
    obtain rfl := Option.some.inj held
    rfl
  | item :: rest, trees, held => by
    obtain ⟨tree, first, held⟩ := Option.bind_eq_some_iff.mp held
    obtain ⟨later, more, held⟩ := Option.bind_eq_some_iff.mp held
    obtain rfl := Option.some.inj held
    exact ⟨item, rest, rfl, shows_of_tree? first, showsItems_of_itemTrees? more⟩

theorem showsEntries_of_entryTrees? : ∀ {entries : List (Node × Node)}
    {trees : List (Tree × Tree)}, Node.entryTrees? entries = some trees →
    document.ShowsEntries trees entries
  | [], trees, held => by
    obtain rfl := Option.some.inj held
    rfl
  | (key, value) :: rest, trees, held => by
    obtain ⟨keyTree, first, held⟩ := Option.bind_eq_some_iff.mp held
    obtain ⟨valueTree, second, held⟩ := Option.bind_eq_some_iff.mp held
    obtain ⟨later, more, held⟩ := Option.bind_eq_some_iff.mp held
    obtain rfl := Option.some.inj held
    exact ⟨key, value, rest, rfl, shows_of_tree? first, shows_of_tree? second,
      showsEntries_of_entryTrees? more⟩

end

end Document

namespace Tree

/-! ## Looking at trees -/

/-- The text of a scalar. -/
def text? : Tree → Option String
  | scalar text _ => some text
  | _ => none

/-- Whether a tree counts as left out: a plain scalar of no characters. -/
def isVoid : Tree → Bool
  | scalar text style => text.isEmpty && style = .plain
  | _ => false

/-- The texts of a sequence of scalars; there are none where nothing is given. -/
def texts? : Tree → Option (List String)
  | sequence items => items.mapM text?
  | tree => if tree.isVoid then some [] else none

/-- The entries of a mapping; there are none where nothing is given. -/
def entries? : Tree → Option (List (Tree × Tree))
  | mapping entries => some entries
  | tree => if tree.isVoid then some [] else none

/-- The value under a name. -/
def field? (tree : Tree) (name : String) : Option Tree :=
  ((tree.entries?.getD []).find? fun entry => entry.1.text? = some name).map (·.2)

/-- The text of a scalar, empty for other trees. -/
def text (tree : Tree) : String :=
  tree.text?.getD ""

/-- What is read from the value under a name, or what is there without one. -/
def valueOr {Value : Type} (tree : Tree) (name : String) (read : Tree → Value) (default : Value) :
    Value :=
  ((tree.field? name).map read).getD default

theorem isVoid_iff {tree : Tree} : tree.isVoid = true ↔ tree = scalar "" .plain := by
  cases tree <;> simp [isVoid, String.isEmpty_iff]

theorem nothing_eq_some_iff {Item : Type} {tree : Tree} {items : List Item} :
    (if tree.isVoid then some [] else none) = some items ↔
      tree = scalar "" .plain ∧ items = [] := by
  rw [← isVoid_iff]
  split_ifs with void
  · simp [void, eq_comm]
  · simp [void]

theorem entries?_eq_some_iff {tree : Tree} {entries : List (Tree × Tree)} :
    tree.entries? = some entries ↔
      tree = mapping entries ∨ tree = scalar "" .plain ∧ entries = [] := by
  cases tree with
  | scalar text style => exact nothing_eq_some_iff.trans (or_iff_right nofun).symm
  | sequence items => simp [entries?, isVoid]
  | mapping others => simp [entries?]

theorem texts?_eq_some_iff {tree : Tree} {texts : List String} :
    tree.texts? = some texts ↔
      (∃ items, tree = sequence items ∧ items.mapM text? = some texts) ∨
        tree = scalar "" .plain ∧ texts = [] := by
  cases tree with
  | scalar text style =>
    refine nothing_eq_some_iff.trans (or_iff_right ?_).symm
    rintro ⟨_, ⟨⟩, _⟩
  | sequence items => simp [texts?]
  | mapping others => simp [texts?, isVoid]

section

variable {tree key value other otherKey : Tree} {front rest entries others : List (Tree × Tree)}
  {name : String}

theorem field?_mapping (entries : List (Tree × Tree)) (name : String) :
    (mapping entries).field? name =
      (entries.find? fun entry => entry.1.text? = some name).map (·.2) :=
  rfl

/-- A value is found under a name that comes first with it. -/
theorem field?_eq_some_iff (distinct : (entries.map fun entry => entry.1.text?).Nodup) :
    (mapping entries).field? name = some value ↔
      ∃ key, (key, value) ∈ entries ∧ key.text? = some name := by
  rw [field?_mapping, Option.map_eq_some_iff]
  constructor
  · rintro ⟨⟨key, _⟩, found, rfl⟩
    exact ⟨key, List.mem_of_find?_eq_some found, by simpa using List.find?_some found⟩
  · rintro ⟨key, member, named⟩
    refine ⟨(key, value), ?_, rfl⟩
    obtain ⟨entry, found⟩ : ∃ entry,
        entries.find? (fun entry => entry.1.text? = some name) = some entry := by
      rw [← Option.isSome_iff_exists, List.find?_isSome]
      exact ⟨(key, value), member, by simpa using named⟩
    have first : entry.1.text? = some name := by simpa using List.find?_some found
    have same : entry = (key, value) :=
      List.inj_on_of_nodup_map distinct (List.mem_of_find?_eq_some found) member
        (first.trans named.symm)
    rw [found, same]

/-- Where no key is repeated, the order of entries does not matter for the value under a name. -/
theorem field?_perm (permuted : entries.Perm others)
    (distinct : (entries.map fun entry => entry.1.text?).Nodup) :
    (mapping others).field? name = (mapping entries).field? name := by
  have distinctToo := (permuted.map fun entry => entry.1.text?).nodup_iff.mp distinct
  ext value
  rw [field?_eq_some_iff distinct, field?_eq_some_iff distinctToo]
  simp only [permuted.mem_iff]

/-- Another entry does not change the values under other names. -/
theorem field?_insert_of_ne (apart : key.text? ≠ some name) :
    (mapping (front ++ (key, value) :: rest)).field? name =
      (mapping (front ++ rest)).field? name := by
  simp [field?_mapping, List.find?_append, apart]

theorem field?_insert (named : key.text? = some name)
    (absent : ∀ entry ∈ front, entry.1.text? ≠ some name) :
    (mapping (front ++ (key, value) :: rest)).field? name = some value := by
  have none : front.find? (fun entry => entry.1.text? = some name) = none := by
    rw [List.find?_eq_none]
    simpa using absent
  simp [field?_mapping, List.find?_append, none, named]

theorem field?_of_absent (absent : ∀ entry ∈ entries, entry.1.text? ≠ some name) :
    (mapping entries).field? name = none := by
  rw [field?_mapping, Option.map_eq_none_iff, List.find?_eq_none]
  simpa using absent

variable {Value : Type} {read : Tree → Value} {default : Value}

theorem valueOr_of_some (found : tree.field? name = some value) :
    tree.valueOr name read default = read value := by
  rw [valueOr, found]
  rfl

theorem valueOr_of_none (none : tree.field? name = none) :
    tree.valueOr name read default = default := by
  rw [valueOr, none]
  rfl

/-- One entry more, under a name that no other entry has, is read instead of what is there. -/
theorem valueOr_insert (absent : ∀ entry ∈ front ++ rest, entry.1.text? ≠ key.text?) :
    (mapping (front ++ (key, value) :: rest)).valueOr name read default =
      if key.text? = some name then read value
      else (mapping (front ++ rest)).valueOr name read default := by
  split_ifs with named
  · rw [valueOr_of_some]
    refine field?_insert named fun entry member => ?_
    exact named ▸ absent entry (List.mem_append_left _ member)
  · rw [valueOr, valueOr, field?_insert_of_ne named]

/-- One entry more with the default makes no difference. -/
theorem valueOr_insert_default (given : tree.entries? = some (front ++ rest))
    (absent : ∀ entry ∈ front ++ rest, entry.1.text? ≠ key.text?) (name : String)
    (read : Tree → Value) (default : Value) (same : key.text? = some name → read value = default) :
    (mapping (front ++ (key, value) :: rest)).valueOr name read default =
      tree.valueOr name read default := by
  have before : tree.valueOr name read default =
      (mapping (front ++ rest)).valueOr name read default := by
    rw [valueOr, valueOr, field?, given]
    rfl
  rw [valueOr_insert absent, before]
  split_ifs with named
  · rw [same named, valueOr_of_none (field?_of_absent (named ▸ absent))]
  · rfl

/-- An entry may be replaced by one that is read the same. -/
theorem valueOr_replace (absent : ∀ entry ∈ front ++ rest, entry.1.text? ≠ key.text?)
    (named : otherKey.text? = key.text?) (name : String) (read : Tree → Value) (default : Value)
    (same : key.text? = some name → read other = read value) :
    (mapping (front ++ (otherKey, other) :: rest)).valueOr name read default =
      (mapping (front ++ (key, value) :: rest)).valueOr name read default := by
  rw [valueOr_insert absent, valueOr_insert (named ▸ absent), named]
  split_ifs with held
  · exact same held
  · rfl

theorem valueOr_single :
    (mapping [(key, value)]).valueOr name read default =
      if key.text? = some name then read value else default := by
  have whole : (mapping ([] ++ [(key, value)])).valueOr name read default = _ :=
    valueOr_insert (by simp)
  exact whole

/-- Entries of different names are read one after the other. -/
theorem valueOr_cons (absent : ∀ entry ∈ rest, entry.1.text? ≠ key.text?) :
    (mapping ((key, value) :: rest)).valueOr name read default =
      (mapping rest).valueOr name read ((mapping [(key, value)]).valueOr name read default) := by
  have whole : (mapping ([] ++ (key, value) :: rest)).valueOr name read default = _ :=
    valueOr_insert absent
  rw [List.nil_append] at whole
  rw [whole, valueOr_single]
  split_ifs with named
  · rw [valueOr_of_none (field?_of_absent (named ▸ absent))]
  · rfl

end

/-! ## The order of entries -/

/-- The trees differ in the order of the entries of mappings, at any depth. -/
inductive Reorders : Tree → Tree → Prop
  | refl (tree : Tree) : Reorders tree tree
  | perm {entries others : List (Tree × Tree)} : entries.Perm others →
      Reorders (mapping entries) (mapping others)
  | entry {front rest : List (Tree × Tree)} {key value otherKey otherValue : Tree} :
      Reorders key otherKey → Reorders value otherValue →
      Reorders (mapping (front ++ (key, value) :: rest))
        (mapping (front ++ (otherKey, otherValue) :: rest))
  | item {front rest : List Tree} {item other : Tree} : Reorders item other →
      Reorders (sequence (front ++ item :: rest)) (sequence (front ++ other :: rest))
  | trans {tree other last : Tree} : Reorders tree other → Reorders other last →
      Reorders tree last

theorem Reorders.symm {tree other : Tree} (reorders : Reorders tree other) :
    Reorders other tree := by
  induction reorders with
  | refl tree => exact .refl tree
  | perm permuted => exact .perm permuted.symm
  | entry _ _ key value => exact .entry key value
  | item _ ih => exact .item ih
  | trans _ _ first second => exact .trans second first

theorem Reorders.isSome_entries? {tree other : Tree} (reorders : Reorders tree other) :
    tree.entries?.isSome = other.entries?.isSome := by
  induction reorders with
  | trans _ _ first second => exact first.trans second
  | _ => rfl

/-! ## One more entry -/

/-- The other tree has one more entry, in the mapping that some names lead to. That mapping has the
`siblings` beside it; it may have been left out before. -/
inductive Adds (entry : Tree × Tree) : List String → List (Tree × Tree) → Tree → Tree → Prop
  | here {tree : Tree} {front rest : List (Tree × Tree)} :
      tree.entries? = some (front ++ rest) →
      Adds entry [] (front ++ rest) tree (mapping (front ++ entry :: rest))
  | inside {name : String} {names : List String} {siblings front rest : List (Tree × Tree)}
      {key value changed : Tree} : key.text? = some name →
      Adds entry names siblings value changed →
      Adds entry (name :: names) siblings (mapping (front ++ (key, value) :: rest))
        (mapping (front ++ (key, changed) :: rest))

theorem Adds.isSome_entries? {entry : Tree × Tree} {place : List String}
    {siblings : List (Tree × Tree)} {tree other : Tree}
    (adds : Adds entry place siblings tree other) :
    tree.entries?.isSome = true ∧ other.entries?.isSome = true := by
  cases adds with
  | here given => exact ⟨by rw [given]; rfl, rfl⟩
  | inside _ _ => exact ⟨rfl, rfl⟩

end Tree

end FixtureHarness.Yaml
