import FixtureHarness.Json.Typed
import FixtureHarness.Proofs.Json.Printing

/-! # Decoding what was encoded

A document that is printed and read again comes back in its canonical form. A decoder restores what
an encoder made if it gives the data back from this form. For the member of an object it does not
matter where among the others it was written, and one that was left out is found to be missing.
-/

namespace FixtureHarness

section
variable {Value Result : Type}

theorem lookupKey_map (change : Value → Result) (key : String) (entries : List (String × Value)) :
    lookupKey key (entries.map fun entry => (entry.1, change entry.2)) =
      (lookupKey key entries).map change := by
  induction entries with
  | nil => rfl
  | cons entry rest ih =>
    rw [List.map_cons, lookupKey_cons, lookupKey_cons, ih]
    split <;> rfl

theorem lastValue_map (change : Value → Result) (key : String) (entries : List (String × Value)) :
    lastValue? key (entries.map fun entry => (entry.1, change entry.2)) =
      (lastValue? key entries).map change := by
  rw [lastValue?, ← List.map_reverse, lookupKey_map, lastValue?]

/-- An entry that may have been left out. -/
theorem lastValue_optional (key name : String) (change : Value → Result) (value? : Option Value) :
    lastValue? key (value?.toList.map fun value => (name, change value)) =
      if name = key then value?.map change else none := by
  cases value? with
  | none => exact (ite_self none).symm
  | some value => exact lookupKey_cons key (name, change value) []

end

namespace Json

variable {Item : Type} {decode : Decoder Item} {encode : Item → Json}

theorem canonicalItems_eq_map (items : List Json) :
    canonicalItems items = items.map canonical := by
  induction items with
  | nil => rfl
  | cons item rest ih => rw [canonicalItems, ih, List.map_cons]

theorem canonicalMembers_eq_map (members : List (String × Json)) :
    canonicalMembers members = members.map fun member => (member.1, member.2.canonical) := by
  induction members with
  | nil => rfl
  | cons member rest ih => rw [canonicalMembers, ih, List.map_cons]

/-- A decoder gives back what was encoded, from the canonical form of the document. -/
def Restores (decode : Decoder Item) (encode : Item → Json) : Prop :=
  ∀ item, decode (encode item).canonical = .ok item

theorem restores_text : Restores decodeText text :=
  fun _ => rfl

theorem restores_count (range : String) :
    Restores (decodeCount range) fun count => number (.integer count) := by
  intro count
  have notNegative : (0 : Int) ≤ count := Int.natCast_nonneg count
  simp only [canonical, decodeCount, if_pos notNegative, Int.toNat_natCast]

theorem restores_optionalText :
    Restores (decodeOptional decodeText) fun text? => text?.elim null text := by
  intro text?
  cases text? with
  | none => rfl
  | some held => rfl

theorem Restores.list (restores : Restores decode encode) :
    Restores (decodeList decode) fun items => array (items.map encode) := by
  intro items
  rw [canonical, decodeList, canonicalItems_eq_map]
  induction items with
  | nil => rfl
  | cons item rest ih =>
    simp only [List.map_cons, List.mapM_cons, restores item, ih]
    rfl

/-- The value that was written last under a key of an object. -/
def written? (key : String) : Json → Option Json
  | object members => lastValue? key members
  | _ => none

/-- A member of an object is restored from the value that was written last under its key. -/
theorem Restores.member (restores : Restores decode encode) {value : Json}
    {members : List (String × Json)} (canonicalForm : value.canonical = object members)
    {key : String} {item? : Option Item} (written : value.written? key = item?.map encode) :
    decodeMember? members key decode = .ok item? := by
  cases value with
  | object own =>
    obtain rfl : sortEntries (canonicalMembers own) = members := Json.object.inj canonicalForm
    have found : lookupKey key (sortEntries (canonicalMembers own)) =
        item?.map fun item => (encode item).canonical := by
      rw [lookupKey_sortEntries, canonicalMembers_eq_map, lastValue_map, ← written?, written,
        Option.map_map]
      rfl
    rw [decodeMember?, found]
    cases item? with
    | none => rfl
    | some item => exact congrArg (Except.map some) (restores item)
  | _ => cases canonicalForm

/-! ## Bounds -/

theorem everyItem_iff {holds : Json → Prop} {items : List Json} :
    EveryItem holds items ↔ ∀ item ∈ items, item.Every holds := by
  induction items with
  | nil => simp [EveryItem]
  | cons item rest ih => simp [EveryItem, ih]

theorem itemsNesting_le_iff {items : List Json} {bound : Nat} :
    itemsNesting items ≤ bound ↔ ∀ item ∈ items, item.nesting ≤ bound := by
  induction items with
  | nil => simp [itemsNesting]
  | cons item rest ih => simp [itemsNesting, ih]

theorem membersNesting_le_iff {members : List (String × Json)} {bound : Nat} :
    membersNesting members ≤ bound ↔ ∀ member ∈ members, member.2.nesting ≤ bound := by
  induction members with
  | nil => simp [membersNesting]
  | cons member rest ih => simp [membersNesting, ih]

/-- The pretty form of a value with integers of 64 bits is read to its canonical form, also with
white space behind it. -/
theorem ofText_pretty_append {value : Json} (integers : value.HasIntegers)
    (shallow : value.nesting ≤ nestingLimit) {blank : String} (blankText : IsBlank blank.toList) :
    ofText? (value.pretty ++ blank) = .ok value.canonical := by
  have written : value.source.WrittenIn (value.pretty ++ blank).toList := by
    refine ⟨[], prettyAt 0 value, blank.toList, isBlank_nil, prettyAt_writtenAs 0 value, blankText,
      ?_⟩
    rw [String.toList_append, pretty, String.toList_ofList, List.nil_append]
  exact ofText_eq_ok_iff.mpr
    ⟨value.source, written, value.source_depth.trans_le shallow, integers.source_value⟩

end Json

end FixtureHarness
