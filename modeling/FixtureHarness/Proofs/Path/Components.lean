import FixtureHarness.Proofs.Path.Parents

/-! # The components of joined paths

Joining writes one text behind another, with a slash between where one is needed. Read component for
component, the second path follows the first: an empty part that the slash may leave does not count,
nor does a dot that led the second path. The directory of a file consists of all components of the
file but the last.
-/

namespace FixtureHarness.Path

/-! ## Reading a text component for component -/

/-- The component that a text leads with, if it is the root or a dot. -/
def lead (text : List Char) : List Component :=
  if text.head? = some '/' then [.root]
  else if (text.splitOn '/').head? = some ['.'] then [.here]
  else []

/-- The components that pieces stand for inside a path. -/
def inside (pieces : List (List Char)) : List Component :=
  (pieces.filter fun piece => !isVoidPart piece).map componentOf

variable {path base : Path} {text front rest : List Char} {pieces : List (List Char)}

theorem components_eq (path : Path) :
    path.components = lead path.text.toList ++ inside (path.text.toList.splitOn '/') := by
  simp only [components, parts, Text.splitAt_eq_splitOn, isAbsolute, lead, inside,
    decide_eq_true_eq]
  split_ifs <;> rfl

theorem inside_append (first second : List (List Char)) :
    inside (first ++ second) = inside first ++ inside second := by
  simp only [inside, List.filter_append, List.map_append]

theorem here_not_mem_inside (pieces : List (List Char)) : Component.here ∉ inside pieces := by
  intro member
  obtain ⟨piece, _, same⟩ := List.mem_map.mp member
  unfold componentOf at same
  split_ifs at same

theorem name_not_mem_lead {name : List Char} : Component.name name ∉ lead text := by
  unfold lead
  split_ifs <;> simp

theorem inside_slash (front rest : List Char) :
    inside ((front ++ '/' :: rest).splitOn '/') =
      inside (front.splitOn '/') ++ inside (rest.splitOn '/') := by
  rw [List.splitOn_append_cons_self, inside_append]

theorem lead_slash (front rest : List Char) :
    lead (front ++ '/' :: rest) = lead (front ++ ['/']) := by
  have pieces : front.splitOn '/' ≠ [] := List.splitOn_ne_nil '/' front
  have first (rest : List Char) :
      ((front ++ '/' :: rest).splitOn '/').head? = (front.splitOn '/').head? := by
    rw [List.splitOn_append_cons_self, List.head?_append_of_ne_nil _ pieces]
  have head : (front ++ '/' :: rest).head? = (front ++ ['/']).head? := by
    cases front <;> rfl
  rw [lead, lead, head, first, first]

theorem lead_ended (full : front ≠ []) : lead (front ++ ['/']) = lead front := by
  have pieces : front.splitOn '/' ≠ [] := List.splitOn_ne_nil '/' front
  rw [lead, lead, List.splitOn_append_cons_self, List.head?_append_of_ne_nil _ pieces,
    List.head?_append_of_ne_nil _ full]

/-- Only the empty path has no components. -/
theorem components_eq_nil_iff : path.components = [] ↔ path.text.toList = [] := by
  rw [components_eq]
  generalize path.text.toList = text
  constructor
  · intro none
    obtain ⟨noLead, noInside⟩ := List.append_eq_nil_iff.mp none
    cases text with
    | nil => rfl
    | cons char rest =>
      by_cases slash : char = '/'
      · simp [lead, slash] at noLead
      obtain ⟨piece, others, split⟩ : ∃ piece others,
          (char :: rest).splitOn '/' = (char :: piece) :: others := by
        rw [List.splitOn_cons_eq_if_modifyHead, if_neg (by simpa using slash)]
        obtain ⟨piece, others, split⟩ := List.exists_cons_of_ne_nil (List.splitOn_ne_nil '/' rest)
        exact ⟨piece, others, by rw [split, List.modifyHead_cons]⟩
      -- The first piece is a leading dot, or it counts.
      by_cases dot : char :: piece = ['.']
      · simp [lead, slash, split, dot] at noLead
      · have counts : isVoidPart (char :: piece) = false := by simp [isVoidPart, dot]
        simp [inside, split, counts] at noInside
  · rintro rfl
    rfl

/-! ## Joining -/

/-- Components that follow others. A dot that led them does not count behind others. -/
def follow (outer inner : List Component) : List Component :=
  if outer = [] then inner else outer ++ inner.filter fun component => component ≠ .here

theorem filter_components (relative : path.isAbsolute = false) :
    path.components.filter (fun component => component ≠ .here) =
      inside (path.text.toList.splitOn '/') := by
  have kept : (inside (path.text.toList.splitOn '/')).filter (fun component => component ≠ .here) =
      inside (path.text.toList.splitOn '/') := by
    rw [List.filter_eq_self]
    intro component member
    have other : component ≠ .here := fun same => here_not_mem_inside _ (same ▸ member)
    simpa using other
  have notRoot : path.text.toList.head? ≠ some '/' := by
    simpa [isAbsolute] using relative
  rw [components_eq, List.filter_append, kept, lead, if_neg notRoot]
  split_ifs <;> rfl

/-- A relative path is put behind a slash, which ends the first path or is written in between. -/
theorem join_text (full : base.text.toList ≠ []) (relative : path.isAbsolute = false) :
    ∃ front, (base.join path).text.toList = front ++ '/' :: path.text.toList ∧
      (base.text.toList = front ++ ['/'] ∨ base.text.toList = front) := by
  have notEmpty : base.text.isEmpty = false := by
    simpa [← String.toList_eq_nil_iff] using full
  by_cases ended : base.text.toList.getLast? = some '/'
  · obtain ⟨front, text⟩ := List.getLast?_eq_some_iff.mp ended
    refine ⟨front, ?_, .inl text⟩
    simp [join, relative, text, String.toList_append]
  · refine ⟨base.text.toList, ?_, .inr rfl⟩
    simp [join, relative, ended, notEmpty, String.toList_append]

/-- A path that is joined to another follows it, unless it is absolute. -/
theorem components_join (base path : Path) :
    (base.join path).components =
      if path.isAbsolute then path.components else follow base.components path.components := by
  split_ifs with absolute
  · rw [join, if_pos absolute]
  have relative : path.isAbsolute = false := by simpa using absolute
  by_cases empty : base.text.toList = []
  · have same : base.join path = path := by
      have none : base.text = "" := String.toList_eq_nil_iff.mp empty
      simp [join, relative, none]
    rw [same, follow, if_pos (components_eq_nil_iff.mpr empty)]
  · rw [follow, if_neg (mt components_eq_nil_iff.mp empty), filter_components relative]
    obtain ⟨front, text, ended | whole⟩ := join_text empty relative
    · rw [components_eq, components_eq, text, ended, lead_slash, inside_slash, inside_slash]
      simp [inside, isVoidPart]
    · rw [components_eq, components_eq, text, whole, lead_slash, inside_slash,
        lead_ended (whole ▸ empty), List.append_assoc]

/-! ## The directory of a file -/

theorem inside_dropVoidEnd (pieces : List (List Char)) :
    inside (dropVoidEnd pieces) = inside pieces := by
  induction pieces using List.reverseRecOn with
  | nil => rfl
  | append_singleton pieces last ih =>
    have dropped : dropVoidEnd (pieces ++ [last]) =
        if isVoidPart last then dropVoidEnd pieces else pieces ++ [last] :=
      List.rdropWhile_concat isVoidPart pieces last
    rw [dropped]
    split_ifs with void
    · rw [ih, inside_append]
      simp [inside, void]
    · rfl

theorem inside_intercalate (plain : ∀ piece ∈ pieces, '/' ∉ piece) :
    inside ((List.intercalate ['/'] pieces).splitOn '/') = inside pieces := by
  by_cases none : pieces = []
  · rw [none, List.intercalate_nil]
    rfl
  · rw [List.splitOn_intercalate '/' plain none]

/-- A text without an anchor, cut between two pieces, has none either. -/
theorem lead_kept (bare : path.anchor = []) (kept : pieces <+: path.body) :
    lead (List.intercalate ['/'] pieces) = [] := by
  cases pieces with
  | nil => rfl
  | cons piece others =>
    have plain : ∀ other ∈ piece :: others, '/' ∉ other := fun other member =>
      body_plain other (kept.subset member)
    rcases path.anchor_cases with ⟨root, _⟩ | ⟨dot, _⟩ | ⟨_, relative, first⟩
    · simp [root] at bare
    · simp [dot] at bare
    have body : path.parts = path.body := by simp [parts, Path.body, bare]
    obtain ⟨more, starts, _⟩ := List.cons_prefix_iff.mp kept
    have notDot : piece ≠ ['.'] := by
      rintro rfl
      exact first (by rw [body, starts, List.head?_cons])
    -- What is left of the text begins as the text did.
    have notRoot : (List.intercalate ['/'] (piece :: others)).head? ≠ some '/' := by
      intro slash
      obtain ⟨rest, text⟩ : List.intercalate ['/'] (piece :: others) <+:
        List.intercalate ['/'] path.body := Text.intercalate_prefix kept
      have head : path.text.toList.head? = some '/' := by
        rw [path.text_eq, bare, List.nil_append, ← text, List.head?_append, slash]
        rfl
      simp [isAbsolute, head] at relative
    rw [lead, if_neg notRoot, List.splitOn_intercalate '/' plain (List.cons_ne_nil _ _),
      List.head?_cons, if_neg (by simpa using notDot)]

/-- A text that keeps the anchor of a path and some first pieces of its body has the components of
these. -/
theorem components_kept (kept : pieces <+: path.body) {cut : Path}
    (text : cut.text.toList = path.anchor ++ List.intercalate ['/'] pieces) :
    cut.components = lead path.anchor ++ inside pieces := by
  have plain : ∀ piece ∈ pieces, '/' ∉ piece := fun piece member =>
    body_plain piece (kept.subset member)
  rw [components_eq, text]
  rcases path.body_fits with root | bare | ⟨dot, slash⟩
  · have split := inside_slash [] (List.intercalate ['/'] pieces)
    rw [root, List.singleton_append]
    rw [List.nil_append, inside_intercalate plain] at split
    rw [split]
    rfl
  · rw [bare, List.nil_append, lead_kept bare kept, inside_intercalate plain]
    rfl
  · rw [dot]
    match pieces with
    | [] | [[]] => rfl
    | [] :: next :: others =>
      have later : ∀ piece ∈ next :: others, '/' ∉ piece := fun piece member =>
        plain piece (List.mem_cons_of_mem _ member)
      have dotted : ['.'] ++ List.intercalate ['/'] ([] :: next :: others) =
          ['.'] ++ '/' :: List.intercalate ['/'] (next :: others) :=
        congrArg (['.'] ++ ·) List.intercalate_cons_cons
      rw [dotted, lead_slash, inside_slash, inside_intercalate later]
      rfl
    | (char :: piece) :: others =>
      obtain ⟨more, same, _⟩ := List.cons_prefix_iff.mp kept
      simp [same] at slash

/-- Above a path that ends in a name lies the path of the components before the name. -/
theorem parent?_of_name {outer : List Component} {file : List Char}
    (ends : path.components = outer ++ [.name file]) :
    ∃ parent, path.parent? = some parent ∧ parent.components = outer := by
  have whole : path.components = lead path.anchor ++ inside (dropVoidEnd path.body) := by
    rw [inside_dropVoidEnd]
    exact components_kept List.prefix_rfl path.text_eq
  cases held : (dropVoidEnd path.body).reverse with
  | nil =>
    have anchorOnly : lead path.anchor = outer ++ [.name file] := by
      rw [← ends, whole, List.reverse_eq_nil_iff.mp held]
      exact (List.append_nil _).symm
    have named : Component.name file ∈ lead path.anchor := by simp [anchorOnly]
    exact (name_not_mem_lead named).elim
  | cons last rest =>
    have parted : path.body.rdropWhile isVoidPart = rest.reverse ++ [last] := by
      rw [← List.reverse_cons, ← held, List.reverse_reverse]
      rfl
    have counts : isVoidPart last = false := by
      have full : path.body.rdropWhile isVoidPart ≠ [] := by simp [parted]
      simpa [parted] using List.rdropWhile_last_not isVoidPart path.body full
    have before : lead path.anchor ++ inside rest.reverse = outer := by
      have single : inside [last] = [componentOf last] := by simp [inside, counts]
      have split := whole.symm.trans ends
      rw [show dropVoidEnd path.body = rest.reverse ++ [last] from parted, inside_append, single,
        ← List.append_assoc] at split
      exact List.append_inj_left' split rfl
    have first : rest.reverse <+: path.body :=
      (List.prefix_append _ _).trans (parted ▸ List.rdropWhile_prefix isVoidPart path.body)
    have kept : dropVoidEnd rest.reverse <+: path.body :=
      (List.rdropWhile_prefix isVoidPart _).trans first
    let text := String.ofList
      (path.anchor ++ List.intercalate ['/'] (dropVoidEnd rest.reverse))
    have cut : (Path.mk text).components = lead path.anchor ++ inside (dropVoidEnd rest.reverse) :=
      components_kept kept String.toList_ofList
    refine ⟨⟨text⟩, by rw [parent?, held], ?_⟩
    rw [cut, inside_dropVoidEnd, before]

/-- The directory of a path that ends in a name has the components before the name; for a name alone
it is the directory `.`. -/
theorem directory_components {outer : List Component} {file : List Char}
    (ends : path.components = outer ++ [.name file]) :
    (outer = [] → path.directory = ⟨"."⟩) ∧ (outer ≠ [] → path.directory.components = outer) := by
  obtain ⟨parent, found, components⟩ := parent?_of_name ends
  have empty : parent.text.isEmpty = true ↔ outer = [] := by
    rw [← components, components_eq_nil_iff, String.toList_eq_nil_iff, String.isEmpty_iff]
  constructor
  · intro bare
    simp only [directory, found, empty.mpr bare, if_true]
  · intro full
    simp only [directory, found, mt empty.mp full]
    exact components

end FixtureHarness.Path
