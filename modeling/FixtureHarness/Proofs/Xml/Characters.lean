import FixtureHarness.Proofs.Xml.Grammar

/-! # The characters of XML documents

Every production of the grammar has only characters that a document may have. So a character that it
may not have, anywhere in a text, keeps the text from being a document.
-/

namespace FixtureHarness.Text.Xml

theorem isText_append {left right : List Char} :
    IsText (left ++ right) ↔ IsText left ∧ IsText right :=
  List.forall_mem_append

theorem isText_cons {char : Char} {rest : List Char} :
    IsText (char :: rest) ↔ isChar char = true ∧ IsText rest :=
  List.forall_mem_cons

theorem isText_nil : IsText [] :=
  List.forall_mem_nil _

theorem IsBlank.isText {text : List Char} (blank : IsBlank text) : IsText text := by
  intro char member
  rcases blank char member with rfl | rfl | rfl | rfl <;> decide

theorem isCode_of_range {code low high : Nat} (above : low ≤ code) (below : code ≤ high)
    (inside : 0x20 ≤ low ∧ high ≤ 0xD7FF ∨ 0xE000 ≤ low ∧ high ≤ 0xFFFD ∨
      0x10000 ≤ low ∧ high ≤ 0x10FFFF) : isCode code = true := by
  simp only [isCode, Bool.or_eq_true, Bool.and_eq_true, decide_eq_true_eq]
  omega

theorem isChar_of_inRanges {char : Char}
    (named : inRanges (nameStarts ++ nameOthers) char = true) : isChar char = true := by
  obtain ⟨⟨low, high⟩, member, inside⟩ := List.any_eq_true.mp named
  simp only [Bool.and_eq_true, decide_eq_true_eq] at inside
  have ranges : ∀ range ∈ nameStarts ++ nameOthers,
      0x20 ≤ range.1 ∧ range.2 ≤ 0xD7FF ∨ 0xE000 ≤ range.1 ∧ range.2 ≤ 0xFFFD ∨
        0x10000 ≤ range.1 ∧ range.2 ≤ 0x10FFFF := by decide
  exact isCode_of_range inside.1 inside.2 (ranges _ member)

theorem isText_of_isName {name : List Char} (named : isName name = true) : IsText name := by
  cases name with
  | nil => exact isText_nil
  | cons first rest =>
    simp only [isName, Bool.and_eq_true, List.all_eq_true] at named
    obtain ⟨starts, others⟩ := named
    have also : inRanges (nameStarts ++ nameOthers) first = true := by
      rw [inRanges, List.any_append, Bool.or_eq_true]
      exact .inl starts
    exact isText_cons.mpr ⟨isChar_of_inRanges also, fun char member =>
      isChar_of_inRanges (others char member)⟩

/-- Letters, digits and punctuation below the delete character. -/
theorem isChar_of_ascii {char : Char} (above : 0x20 ≤ char.toNat) (below : char.toNat ≤ 0x7E) :
    isChar char = true :=
  isCode_of_range above below (by omega)

theorem isText_of_all {allowed : Char → Bool} {text : List Char} (all : text.all allowed = true)
    (chars : ∀ char, allowed char = true → isChar char = true) : IsText text :=
  fun char member => chars char (List.all_eq_true.mp all char member)

theorem isText_literal {text : List Char} (all : text.all isChar = true) : IsText text :=
  List.all_eq_true.mp all

theorem isChar_of_isDigit {char : Char} (digit : char.isDigit = true) : isChar char = true := by
  simp only [Char.isDigit, Bool.and_eq_true, decide_eq_true_eq, ge_iff_le,
    UInt32.le_iff_toNat_le] at digit
  exact isChar_of_ascii (Nat.le_trans (by decide) digit.1) (Nat.le_trans digit.2 (by decide))

theorem isChar_of_isHexDigit {char : Char} (digit : isHexDigit char = true) :
    isChar char = true := by
  simp only [isHexDigit, Bool.or_eq_true, Bool.and_eq_true, decide_eq_true_eq, Char.le_def,
    UInt32.le_iff_toNat_le] at digit
  rcases digit with (decimal | small) | capital
  · exact isChar_of_isDigit decimal
  · exact isChar_of_ascii (Nat.le_trans (by decide) small.1) (Nat.le_trans small.2 (by decide))
  · exact isChar_of_ascii (Nat.le_trans (by decide) capital.1) (Nat.le_trans capital.2 (by decide))

theorem Reference.isText {text : List Char} (reference : Reference text) : IsText text := by
  cases reference with
  | named member =>
    have all : ∀ name ∈ entityNames, name.all isChar = true := by decide
    simp only [isText_cons, isText_append, isText_nil]
    exact ⟨by decide, isText_literal (all _ member), by decide, trivial⟩
  | decimal _ digits _ =>
    simp only [isText_cons, isText_append, isText_nil]
    exact ⟨by decide, by decide, isText_of_all digits fun _ => isChar_of_isDigit, by decide, trivial⟩
  | hexadecimal _ digits _ =>
    simp only [isText_cons, isText_append, isText_nil]
    exact ⟨by decide, by decide, by decide, isText_of_all digits fun _ => isChar_of_isHexDigit,
      by decide, trivial⟩

theorem Value.isText {quote : Char} {text : List Char} (value : Value quote text) :
    IsText text := by
  induction value with
  | nil => exact isText_nil
  | char allowed _ _ _ _ ih => exact isText_cons.mpr ⟨allowed, ih⟩
  | reference reference _ ih => exact isText_append.mpr ⟨reference.isText, ih⟩

theorem isChar_of_mem_quotes {quote : Char} (member : quote ∈ quotes) : isChar quote = true := by
  have all : IsText quotes := isText_literal (by decide)
  exact all quote member

theorem Equals.isText {text : List Char} (equals : Equals text) : IsText text := by
  obtain ⟨before, after, blankBefore, blankAfter, rfl⟩ := equals
  rw [isText_append, isText_cons]
  exact ⟨blankBefore.isText, by decide, blankAfter.isText⟩

/-- A name, an equals sign and a quoted value, with white space before. -/
theorem isText_item {gap name equals value : List Char} {quote : Char} (blank : IsBlank gap)
    (named : IsText name) (sign : Equals equals) (quoted : quote ∈ quotes) (held : IsText value) :
    IsText (gap ++ (name ++ (equals ++ quote :: (value ++ [quote])))) := by
  simp only [isText_append, isText_cons, isText_nil]
  have quoteChar := isChar_of_mem_quotes quoted
  exact ⟨blank.isText, named, sign.isText, quoteChar, held, quoteChar, trivial⟩

theorem Attributes.isText {names : List (List Char)} {text : List Char}
    (attributes : Attributes names text) : IsText text := by
  induction attributes with
  | nil => exact isText_nil
  | cons own _ _ ih =>
    obtain ⟨named, gap, equals, quote, value, _, blank, sign, quoted, held, rfl⟩ := own
    exact isText_append.mpr
      ⟨isText_item blank (isText_of_isName named) sign quoted held.isText, ih⟩

theorem TagBody.isText {name text : List Char} (body : TagBody name text) : IsText text := by
  obtain ⟨named, names, attributes, space, held, blank, rfl⟩ := body
  rw [isText_append, isText_append]
  exact ⟨isText_of_isName named, held.isText, blank.isText⟩

theorem StartTag.isText {name text : List Char} (tag : StartTag name text) : IsText text := by
  obtain ⟨body, held, rfl⟩ := tag
  rw [isText_cons, isText_append]
  exact ⟨by decide, held.isText, isText_literal (by decide)⟩

theorem EmptyTag.isText {name text : List Char} (tag : EmptyTag name text) : IsText text := by
  obtain ⟨body, held, rfl⟩ := tag
  rw [isText_cons, isText_append]
  exact ⟨by decide, held.isText, isText_literal (by decide)⟩

theorem StartTag.isName {name text : List Char} (tag : StartTag name text) :
    Xml.isName name = true := by
  obtain ⟨_, ⟨named, _⟩, _⟩ := tag
  exact named

theorem EndTag.isText {name text : List Char} (tag : EndTag name text)
    (named : isName name = true) : IsText text := by
  obtain ⟨space, blank, rfl⟩ := tag
  rw [isText_cons, isText_cons, isText_append, isText_append]
  exact ⟨by decide, by decide, isText_of_isName named, blank.isText, isText_literal (by decide)⟩

/-- The three kinds of markup that are no elements. -/
theorem isText_markup {text : List Char} (markup : Comment text ∨ Instruction text ∨ Section text) :
    IsText text := by
  rcases markup with ⟨inner, held, _, rfl⟩ | ⟨target, inner, named, _, held, _, _, rfl⟩ |
    ⟨inner, held, _, rfl⟩
  · rw [isText_append, isText_append]
    exact ⟨isText_literal (by decide), held, isText_literal (by decide)⟩
  · rw [isText_cons, isText_cons, isText_append, isText_append]
    exact ⟨by decide, by decide, isText_of_isName named, held, isText_literal (by decide)⟩
  · rw [isText_append, isText_append]
    exact ⟨isText_literal (by decide), held, isText_literal (by decide)⟩

theorem Content.isText {text : List Char} (content : Content text) : IsText text := by
  induction content with
  | nil => exact isText_nil
  | char allowed _ _ _ _ ih => exact isText_cons.mpr ⟨allowed, ih⟩
  | reference reference _ ih => exact isText_append.mpr ⟨reference.isText, ih⟩
  | markup markup _ ih => exact isText_append.mpr ⟨isText_markup markup, ih⟩
  | empty tag _ ih => exact isText_append.mpr ⟨tag.isText, ih⟩
  | element start _ finish _ inner rest =>
    simp only [isText_append]
    exact ⟨start.isText, inner, finish.isText start.isName, rest⟩

theorem Element.isText {text : List Char} (element : Element text) : IsText text := by
  rcases element with ⟨name, tag⟩ | ⟨name, start, inner, finish, opens, content, closes, rfl⟩
  · exact tag.isText
  · simp only [isText_append]
    exact ⟨opens.isText, content.isText, closes.isText opens.isName⟩

theorem Misc.isText {text : List Char} (misc : Misc text) : IsText text := by
  induction misc with
  | nil => exact isText_nil
  | blank blank _ ih => exact isText_cons.mpr ⟨(isText_cons.mp blank.isText).1, ih⟩
  | markup markup _ ih =>
    refine isText_append.mpr ⟨isText_markup ?_, ih⟩
    rcases markup with comment | instruction
    · exact .inl comment
    · exact .inr (.inl instruction)

theorem DeclarationItem.isText {name : String} {allowed : List Char → Prop} {text : List Char}
    (item : DeclarationItem name allowed text) (named : IsText name.toList)
    (values : ∀ value, allowed value → IsText value) : IsText text := by
  obtain ⟨gap, equals, quote, value, _, blank, sign, quoted, held, rfl⟩ := item
  exact isText_item blank named sign quoted (values value held)

theorem IsVersion.isText {text : List Char} (version : IsVersion text) : IsText text := by
  obtain ⟨digits, _, all, rfl⟩ := version
  rw [isText_cons, isText_cons]
  exact ⟨by decide, by decide, isText_of_all all fun _ => isChar_of_isDigit⟩

theorem isChar_of_isAlphanum {char : Char} (letter : char.isAlphanum = true) :
    isChar char = true := by
  delta Char.isAlphanum Char.isAlpha Char.isUpper Char.isLower Char.isDigit at letter
  simp only [Bool.or_eq_true, Bool.and_eq_true, decide_eq_true_eq, ge_iff_le,
    UInt32.le_iff_toNat_le] at letter
  rcases letter with (upper | lower) | digit
  · exact isChar_of_ascii (Nat.le_trans (by decide) upper.1) (Nat.le_trans upper.2 (by decide))
  · exact isChar_of_ascii (Nat.le_trans (by decide) lower.1) (Nat.le_trans lower.2 (by decide))
  · exact isChar_of_ascii (Nat.le_trans (by decide) digit.1) (Nat.le_trans digit.2 (by decide))

theorem IsEncoding.isText {text : List Char} (encoding : IsEncoding text) : IsText text := by
  obtain ⟨first, rest, rfl, letter, others⟩ := encoding
  refine isText_cons.mpr ⟨isChar_of_isAlphanum (Bool.or_eq_true_iff.mpr (.inl letter)), ?_⟩
  intro char member
  rcases others char member with letter | rfl | rfl | rfl
  · exact isChar_of_isAlphanum letter
  all_goals decide

theorem IsStandalone.isText {text : List Char} (standalone : IsStandalone text) : IsText text := by
  rcases standalone with rfl | rfl
  all_goals exact isText_literal (by decide)

theorem Declaration.isText {text : List Char} (declaration : Declaration text) : IsText text := by
  obtain ⟨version, encoding, standalone, space, first, second, third, blank, rfl⟩ := declaration
  simp only [isText_append]
  refine ⟨isText_literal (by decide), ?_, ?_, ?_, blank.isText, isText_literal (by decide)⟩
  · exact first.isText (isText_literal (by decide)) fun _ => IsVersion.isText
  · rcases second with rfl | item
    · exact isText_nil
    · exact item.isText (isText_literal (by decide)) fun _ => IsEncoding.isText
  · rcases third with rfl | item
    · exact isText_nil
    · exact item.isText (isText_literal (by decide)) fun _ => IsStandalone.isText

/-- A document has no other characters than those that a document may have. -/
theorem Document.isText {text : List Char} (document : Document text) : IsText text := by
  obtain ⟨declaration, before, element, after, declares, miscBefore, held, miscAfter, rfl⟩ := document
  simp only [isText_append]
  refine ⟨?_, miscBefore.isText, held.isText, miscAfter.isText⟩
  rcases declares with rfl | declares
  · exact isText_nil
  · exact declares.isText

end FixtureHarness.Text.Xml
