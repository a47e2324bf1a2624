import FixtureHarness.Proofs.Json.Documents

/-! # Documents within the limits of reading

A document can be kept as a value if it is not nested too deep, none of its numbers is too large, and
its escapes stand for characters. What holds of a document holds of everything inside it, with less
nesting.
-/

namespace FixtureHarness.Json

mutual

/-- The strings of a document, the keys of its objects among them. -/
def Source.strings : Source → List (List Piece)
  | .text pieces => [pieces]
  | .array items => itemStrings items
  | .object members => memberStrings members
  | _ => []

/-- The strings of items. -/
def itemStrings : List Source → List (List Piece)
  | [] => []
  | item :: rest => item.strings ++ itemStrings rest

/-- The strings of members. -/
def memberStrings : List (List Piece × Source) → List (List Piece)
  | [] => []
  | (key, value) :: rest => key :: value.strings ++ memberStrings rest

end

/-- A document that reading admits, with at most so many containers inside each other. -/
structure Source.IsWithin (limit : Nat) (source : Source) : Prop where
  nesting : source.depth ≤ limit
  numbers : ∀ literal ∈ source.literals, literal.number?.isSome
  strings : ∀ pieces ∈ source.strings, (decode pieces).isSome

section
variable {limit : Nat} {items : List Source} {members : List (List Piece × Source)}

theorem depth_le_itemsDepth {item : Source} (member : item ∈ items) :
    item.depth ≤ itemsDepth items := by
  induction items with
  | nil => cases member
  | cons first rest ih =>
    rw [itemsDepth]
    rcases List.mem_cons.mp member with rfl | later
    · exact Nat.le_max_left ..
    · exact (ih later).trans (Nat.le_max_right ..)

theorem depth_le_membersDepth {member : List Piece × Source} (held : member ∈ members) :
    member.2.depth ≤ membersDepth members := by
  induction members with
  | nil => cases held
  | cons first rest ih =>
    rw [membersDepth]
    rcases List.mem_cons.mp held with rfl | later
    · exact Nat.le_max_left ..
    · exact (ih later).trans (Nat.le_max_right ..)

theorem itemLiterals_eq_flatMap (items : List Source) :
    itemLiterals items = items.flatMap Source.literals := by
  induction items with
  | nil => rfl
  | cons item rest ih => rw [itemLiterals, ih, List.flatMap_cons]

theorem memberLiterals_eq_flatMap (members : List (List Piece × Source)) :
    memberLiterals members = members.flatMap fun member => member.2.literals := by
  induction members with
  | nil => rfl
  | cons member rest ih => rw [memberLiterals, ih, List.flatMap_cons]

theorem itemStrings_eq_flatMap (items : List Source) :
    itemStrings items = items.flatMap Source.strings := by
  induction items with
  | nil => rfl
  | cons item rest ih => rw [itemStrings, ih, List.flatMap_cons]

theorem memberStrings_eq_flatMap (members : List (List Piece × Source)) :
    memberStrings members = members.flatMap fun member => member.1 :: member.2.strings := by
  induction members with
  | nil => rfl
  | cons member rest ih => rw [memberStrings, ih, List.flatMap_cons]

theorem Source.IsWithin.item (within : (Source.array items).IsWithin (limit + 1)) {item : Source}
    (member : item ∈ items) : item.IsWithin limit := by
  obtain ⟨nesting, numbers, strings⟩ := within
  rw [Source.literals, itemLiterals_eq_flatMap] at numbers
  rw [Source.strings, itemStrings_eq_flatMap] at strings
  refine ⟨(depth_le_itemsDepth member).trans (Nat.le_of_succ_le_succ nesting), ?_, ?_⟩
  · intro literal held
    exact numbers literal (List.mem_flatMap.mpr ⟨item, member, held⟩)
  · intro pieces held
    exact strings pieces (List.mem_flatMap.mpr ⟨item, member, held⟩)

theorem Source.IsWithin.key (within : (Source.object members).IsWithin limit)
    {member : List Piece × Source} (held : member ∈ members) : (decode member.1).isSome := by
  have strings := within.strings
  rw [Source.strings, memberStrings_eq_flatMap] at strings
  exact strings member.1 (List.mem_flatMap.mpr ⟨member, held, List.mem_cons_self ..⟩)

theorem Source.IsWithin.member (within : (Source.object members).IsWithin (limit + 1))
    {member : List Piece × Source} (held : member ∈ members) : member.2.IsWithin limit := by
  obtain ⟨nesting, numbers, strings⟩ := within
  rw [Source.literals, memberLiterals_eq_flatMap] at numbers
  rw [Source.strings, memberStrings_eq_flatMap] at strings
  refine ⟨(depth_le_membersDepth held).trans (Nat.le_of_succ_le_succ nesting), ?_, ?_⟩
  · intro literal inside
    exact numbers literal (List.mem_flatMap.mpr ⟨member, held, inside⟩)
  · intro pieces inside
    exact strings pieces
      (List.mem_flatMap.mpr ⟨member, held, List.mem_cons_of_mem _ inside⟩)

end

/-! ## Values of such documents -/

mutual

/-- A document has a value if its numbers are not too large and its escapes stand for characters. -/
theorem Source.exists_value {source : Source}
    (numbers : ∀ literal ∈ source.literals, literal.number?.isSome)
    (strings : ∀ pieces ∈ source.strings, (decode pieces).isSome) :
    ∃ value, source.value? = some value := by
  cases source with
  | null => exact ⟨_, rfl⟩
  | boolean truth => exact ⟨_, rfl⟩
  | number literal =>
    obtain ⟨number, kept⟩ := Option.isSome_iff_exists.mp (numbers literal (List.mem_singleton_self _))
    exact ⟨.number number, by rw [Source.value?, kept]; rfl⟩
  | text pieces =>
    obtain ⟨chars, decoded⟩ := Option.isSome_iff_exists.mp (strings pieces (List.mem_singleton_self _))
    exact ⟨.text (String.ofList chars), by rw [Source.value?, decoded]; rfl⟩
  | array items =>
    obtain ⟨values, kept⟩ := exists_itemValues numbers strings
    exact ⟨.array values, by rw [Source.value?, kept]; rfl⟩
  | object members =>
    obtain ⟨entries, kept⟩ := exists_memberValues numbers strings
    exact ⟨.object (sortEntries entries), by rw [Source.value?, kept]; rfl⟩

theorem exists_itemValues {items : List Source}
    (numbers : ∀ literal ∈ itemLiterals items, literal.number?.isSome)
    (strings : ∀ pieces ∈ itemStrings items, (decode pieces).isSome) :
    ∃ values, itemValues? items = some values := by
  match items with
  | [] => exact ⟨[], rfl⟩
  | item :: rest =>
    rw [itemLiterals, List.forall_mem_append] at numbers
    rw [itemStrings, List.forall_mem_append] at strings
    obtain ⟨value, first⟩ := Source.exists_value numbers.1 strings.1
    obtain ⟨values, others⟩ := exists_itemValues numbers.2 strings.2
    exact ⟨value :: values, by rw [itemValues?, first, others]; rfl⟩

theorem exists_memberValues {members : List (List Piece × Source)}
    (numbers : ∀ literal ∈ memberLiterals members, literal.number?.isSome)
    (strings : ∀ pieces ∈ memberStrings members, (decode pieces).isSome) :
    ∃ entries, memberValues? members = some entries := by
  match members with
  | [] => exact ⟨[], rfl⟩
  | (key, value) :: rest =>
    rw [memberLiterals, List.forall_mem_append] at numbers
    rw [memberStrings, List.cons_append, List.forall_mem_cons, List.forall_mem_append] at strings
    obtain ⟨chars, decoded⟩ := Option.isSome_iff_exists.mp strings.1
    obtain ⟨kept, first⟩ := Source.exists_value numbers.1 strings.2.1
    obtain ⟨entries, others⟩ := exists_memberValues numbers.2 strings.2.2
    exact ⟨(String.ofList chars, kept) :: entries,
      by rw [memberValues?, decoded, first, others]; rfl⟩

end

theorem Source.IsWithin.exists_value {limit : Nat} {source : Source}
    (within : source.IsWithin limit) : ∃ value, valueWithin? limit source = some value := by
  obtain ⟨value, kept⟩ := Source.exists_value within.numbers within.strings
  exact ⟨value, by rw [valueWithin?, if_pos within.nesting, kept]⟩

end FixtureHarness.Json
