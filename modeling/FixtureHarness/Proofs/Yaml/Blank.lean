import FixtureHarness.Proofs.Json.Reading
import FixtureHarness.Proofs.Yaml.Trees
import FixtureHarness.Text.Blank
import Mathlib.Data.List.Basic

/-! # Texts of white space

Reading a text only drops characters from its front. In a text of white space no character of the
syntax can come up, so that its first token is a plain scalar, made of the white space that does not
count as such in a document, or the end. The document holds at most this scalar, and no mapping.
-/

namespace FixtureHarness.Yaml

open Json (bind_eq_ok_iff)

/-! ## Characters are only dropped -/

namespace Cursor

variable {cursor after : Cursor}

theorem skip_suffix (count : Nat) (cursor : Cursor) : (cursor.skip count).rest <:+ cursor.rest :=
  List.drop_suffix count cursor.rest

theorem skipBreak_suffix (cursor : Cursor) : cursor.skipBreak.rest <:+ cursor.rest :=
  List.drop_suffix _ cursor.rest

theorem skipWhile_suffix (isMember : Char → Bool) (cursor : Cursor) :
    (cursor.skipWhile isMember).rest <:+ cursor.rest :=
  cursor.skip_suffix _

end Cursor

variable {cursor after : Cursor}

theorem Gap.read_suffix {refusesTab : Gap → Cursor → Option SyntaxError} {fuel : Nat}
    {gap final : Gap} (read : Gap.read refusesTab fuel gap cursor = .ok (final, after)) :
    after.rest <:+ cursor.rest := by
  induction fuel generalizing gap cursor with
  | zero =>
    obtain ⟨_, rfl⟩ := Prod.mk.inj (Except.ok.inj read)
    exact List.suffix_rfl
  | succ fuel ih =>
    unfold Gap.read at read
    repeat' split at read
    · cases read
    · exact (ih read).trans (cursor.skip_suffix 1)
    · exact (ih read).trans cursor.skipBreak_suffix
    · obtain ⟨_, rfl⟩ := Prod.mk.inj (Except.ok.inj read)
      exact List.suffix_rfl
    · obtain ⟨_, rfl⟩ := Prod.mk.inj (Except.ok.inj read)
      exact List.suffix_rfl

theorem Plain.readWords_suffix {inFlow : Bool} {indent : Int} {start : Mark} {fuel : Nat}
    {scalar final : Plain.Scalar} {gap : Gap}
    (read : Plain.readWords inFlow indent start fuel scalar gap cursor = .ok (final, after)) :
    after.rest <:+ cursor.rest := by
  induction fuel generalizing scalar gap cursor with
  | zero =>
    obtain ⟨_, rfl⟩ := Prod.mk.inj (Except.ok.inj read)
    exact List.suffix_rfl
  | succ fuel ih =>
    unfold Plain.readWords at read
    dsimp only at read
    split_ifs at read
    · obtain ⟨_, rfl⟩ := Prod.mk.inj (Except.ok.inj read)
      exact List.suffix_rfl
    · cases read
    · obtain ⟨_, rfl⟩ := Prod.mk.inj (Except.ok.inj read)
      exact List.suffix_rfl
    · obtain ⟨⟨found, behind⟩, gapRead, more⟩ := bind_eq_ok_iff.mp read
      have dropped := (Gap.read_suffix gapRead).trans (cursor.skip_suffix _)
      dsimp only at more
      split_ifs at more
      · obtain ⟨_, rfl⟩ := Prod.mk.inj (Except.ok.inj more)
        exact dropped
      · obtain ⟨_, rfl⟩ := Prod.mk.inj (Except.ok.inj more)
        exact dropped
      · exact (ih more).trans dropped

namespace Lexer

/-- A token that begins no collection. -/
def isPlainToken : TokenKind → Bool
  | .scalar .. | .streamEnd => true
  | _ => false

/-- The state of reading white space: no collection is open, and none begins the text. -/
structure Quiet (lexer : Lexer) : Prop where
  blank : ∀ char ∈ lexer.cursor.rest, Text.isBlank char = true
  closed : lexer.outerIndents = []
  first : ∀ token ∈ lexer.tokens.head?, isPlainToken token.kind = true

variable {lexer next : Lexer}

/-- Candidates, and whether a key may stand, do not count. -/
theorem Quiet.of_eq (quiet : Quiet lexer) (rest : next.cursor.rest <:+ lexer.cursor.rest)
    (indents : next.outerIndents = lexer.outerIndents) (tokens : next.tokens = lexer.tokens) :
    Quiet next :=
  ⟨fun char member => quiet.blank char (rest.mem member), indents.trans quiet.closed,
    tokens ▸ quiet.first⟩

theorem Quiet.push (quiet : Quiet lexer) {token : Token}
    (plain : isPlainToken token.kind = true) : Quiet (lexer.push token) := by
  refine ⟨quiet.blank, quiet.closed, ?_⟩
  intro other held
  rw [Lexer.push] at held
  cases earlier : lexer.tokens with
  | nil =>
    obtain rfl : token = other := by simpa [earlier] using held
    exact plain
  | cons first rest =>
    refine quiet.first other ?_
    simpa [earlier] using held

theorem skipByteOrderMark_suffix (cursor : Cursor) :
    (skipByteOrderMark cursor).rest <:+ cursor.rest := by
  unfold skipByteOrderMark
  split_ifs
  · exact cursor.skip_suffix 1
  · exact List.suffix_rfl

theorem skipToToken_quiet {fuel : Nat} (quiet : Quiet lexer) : Quiet (skipToToken fuel lexer) := by
  induction fuel generalizing lexer with
  | zero => exact quiet
  | succ fuel ih =>
    unfold skipToToken
    dsimp only
    generalize spaces : (skipByteOrderMark lexer.cursor).skipWhile _ = behind
    have dropped : behind.rest <:+ lexer.cursor.rest := by
      rw [← spaces]
      exact (Cursor.skipWhile_suffix _ _).trans (skipByteOrderMark_suffix _)
    generalize comment : (if behind.head? = some '#' then _ else behind) = last
    have droppedToo : last.rest <:+ lexer.cursor.rest := by
      rw [← comment]
      split_ifs
      · exact (Cursor.skipWhile_suffix _ _).trans dropped
      · exact dropped
    split_ifs
    · exact ih (quiet.of_eq (last.skipBreak_suffix.trans droppedToo) rfl rfl)
    · exact quiet.of_eq droppedToo rfl rfl

theorem dropStale_quiet (quiet : Quiet lexer) (dropped : lexer.dropStale = .ok next) :
    Quiet next := by
  obtain ⟨outer, _, dropped⟩ := bind_eq_ok_iff.mp dropped
  obtain ⟨inner, _, dropped⟩ := bind_eq_ok_iff.mp dropped
  obtain rfl := Except.ok.inj dropped
  exact quiet.of_eq List.suffix_rfl rfl rfl

theorem dropCandidate_quiet (quiet : Quiet lexer) (dropped : lexer.dropCandidate = .ok next) :
    Quiet next := by
  unfold dropCandidate at dropped
  split at dropped
  · split_ifs at dropped
    obtain rfl := Except.ok.inj dropped
    exact quiet.of_eq List.suffix_rfl rfl rfl
  · obtain rfl := Except.ok.inj dropped
    exact quiet

theorem saveCandidate_quiet (quiet : Quiet lexer) (saved : lexer.saveCandidate = .ok next) :
    Quiet next := by
  unfold saveCandidate at saved
  split_ifs at saved
  · obtain ⟨kept, dropped, same⟩ := bind_eq_ok_iff.mp saved
    obtain rfl := Except.ok.inj same
    exact (dropCandidate_quiet quiet dropped).of_eq List.suffix_rfl rfl rfl
  · obtain rfl := Except.ok.inj saved
    exact quiet

theorem Quiet.closeBlocks_eq (quiet : Quiet lexer) (column : Int) :
    lexer.closeBlocks column = lexer := by
  rw [closeBlocks, quiet.closed]
  split_ifs <;> rfl

theorem fetchEnd_quiet (quiet : Quiet lexer) (fetched : lexer.fetchEnd = .ok next) :
    Quiet next := by
  unfold fetchEnd at fetched
  dsimp only at fetched
  generalize moved : ({ lexer with cursor := _ } : Lexer) = start at fetched
  have quietStart : Quiet start := by
    rw [← moved]
    exact quiet.of_eq List.suffix_rfl rfl rfl
  rw [quietStart.closeBlocks_eq] at fetched
  obtain ⟨kept, dropped, same⟩ := bind_eq_ok_iff.mp fetched
  obtain rfl := Except.ok.inj same
  have pushed : Quiet (kept.pushHere .streamEnd) :=
    (dropCandidate_quiet quietStart dropped).push rfl
  exact pushed.of_eq List.suffix_rfl rfl rfl

theorem fetchPlain_quiet (quiet : Quiet lexer) (fetched : lexer.fetchPlain = .ok next) :
    Quiet next := by
  obtain ⟨saved, held, fetched⟩ := bind_eq_ok_iff.mp fetched
  obtain ⟨⟨scalar, behind⟩, read, same⟩ := bind_eq_ok_iff.mp fetched
  obtain rfl := Except.ok.inj same
  have dropped : behind.rest <:+ saved.cursor.rest := Plain.readWords_suffix read
  exact Quiet.of_eq ((saveCandidate_quiet quiet held).push rfl) dropped rfl rfl

/-- White space has none of the characters that the syntax knows. -/
theorem fetchToken_quiet (quiet : Quiet lexer) (fetched : lexer.fetchToken = .ok next) :
    Quiet next := by
  unfold fetchToken at fetched
  dsimp only at fetched
  cases held : lexer.cursor.head? with
  | none =>
    rw [held] at fetched
    exact fetchEnd_quiet quiet fetched
  | some char =>
    have blank : Text.isBlank char = true :=
      quiet.blank char (List.mem_of_head? held)
    have plain (other : Char) (mark : Text.isBlank other = false) : char ≠ other := by
      rintro rfl
      rw [blank] at mark
      cases mark
    have noMark : lexer.cursor.atDocumentMark = false := by
      obtain ⟨more, rest⟩ := List.head?_eq_some_iff.mp held
      have hyphen := (plain '-' (by decide)).symm
      have dot := (plain '.' (by decide)).symm
      simp [Cursor.atDocumentMark, Cursor.sees, rest, hyphen, dot]
    have plainOrFail (fetched : (if lexer.startsPlain = true then lexer.fetchPlain else
        lexer.cursor.failIn "while scanning for the next token" lexer.cursor.mark
          "found character that cannot start any token") = .ok next) : Quiet next := by
      split_ifs at fetched
      · exact fetchPlain_quiet quiet fetched
      · cases fetched
    rw [held] at fetched
    simp only [noMark, plain '%' (by decide), decide_false, Bool.and_false, Bool.false_and,
      Bool.false_eq_true, if_false] at fetched
    -- Every other branch asks for a character that is not white space.
    split at fetched
    all_goals first
      | exact plainOrFail fetched
      | exact absurd blank (by decide)

theorem fetch_quiet (quiet : Quiet lexer) (fetched : lexer.fetch = .ok next) : Quiet next := by
  obtain ⟨fresh, dropped, fetched⟩ := bind_eq_ok_iff.mp fetched
  have quietFresh := dropStale_quiet (skipToToken_quiet quiet) dropped
  rw [quietFresh.closeBlocks_eq] at fetched
  obtain ⟨found, token, fetched⟩ := bind_eq_ok_iff.mp fetched
  exact dropStale_quiet (fetchToken_quiet quietFresh token) fetched

end Lexer

open Lexer (Quiet isPlainToken)

theorem Tokens.fetchAll_first {fuel : Nat} {lexer : Lexer} (quiet : Quiet lexer) :
    ∀ token ∈ (fetchAll fuel lexer).tokens.head?, isPlainToken token.kind = true := by
  induction fuel generalizing lexer with
  | zero => exact quiet.first
  | succ fuel ih =>
    unfold fetchAll
    split_ifs
    · exact quiet.first
    · split
      · next fetched => exact ih (Lexer.fetch_quiet quiet fetched)
      · intro token held
        rw [List.head?_take] at held
        split_ifs at held
        · cases held
        · exact quiet.first token held

/-- The first token of a text of white space is a plain scalar or the end. -/
theorem Tokens.ofText_first {text : String}
    (blank : ∀ char ∈ text.toList, Text.isBlank char = true) :
    ∀ token ∈ (ofText text).tokens.head?, isPlainToken token.kind = true := by
  unfold ofText
  dsimp only
  split
  · exact fun token held => nomatch held
  · have dropped : dropSignature text.toList <:+ text.toList := by
      unfold dropSignature
      split
      · next held => exact ⟨['\uFEFF'], held.symm⟩
      · exact List.suffix_rfl
    refine fetchAll_first ⟨fun char member => blank char (dropped.mem member), rfl, ?_⟩
    exact fun token held => nomatch held

namespace Document

/-- A node that holds no other nodes and stands for itself. -/
def isLeaf : Node → Bool
  | .scalar .. | .cut => true
  | _ => false

variable {document : Document} {entries : List (Tree × Tree)}

/-- A document whose first token is a plain scalar or the end holds no more than a scalar. -/
theorem root_of_first {tokens : List Token} (error? endError? : Option SyntaxError)
    (first : ∀ token ∈ tokens.head?, isPlainToken token.kind = true) :
    isLeaf (ofEvents (Events.ofTokens tokens error?).events endError?).root = true := by
  cases tokens with
  | nil => rfl
  | cons token rest =>
    obtain ⟨kind, start, stop⟩ := token
    have plain : isPlainToken kind = true := first _ rfl
    cases kind with
    | streamEnd =>
      obtain ⟨more, events⟩ : ∃ more,
          (Events.ofTokens (⟨.streamEnd, start, stop⟩ :: rest) error?).events =
            ⟨.streamEnd, start⟩ :: more := ⟨_, rfl⟩
      rw [events]
      rfl
    | scalar text style =>
      obtain ⟨more, events⟩ : ∃ more,
          (Events.ofTokens (⟨.scalar text style, start, stop⟩ :: rest) error?).events =
            ⟨.documentStart, start⟩ :: ⟨.scalar .none text style, start⟩ :: more := ⟨_, rfl⟩
      rw [events]
      cases more with
      | nil => rfl
      | cons event more => rfl
    | _ => cases plain

theorem not_shows_mapping_of_leaf (leaf : isLeaf document.root = true) :
    ¬ document.Shows (.mapping entries) document.root := by
  rintro ⟨mark, anchor?, nodes, target, _⟩
  cases held : document.root with
  | scalar => simp [held, Document.target] at target
  | cut => simp [held, Document.target] at target
  | _ =>
    rw [held] at leaf
    cases leaf

/-- A text of white space holds no mapping. -/
theorem not_shows_mapping_of_blank {text : String}
    (blank : ∀ char ∈ text.toList, Text.isBlank char = true) :
    ¬ (ofText text).Shows (.mapping entries) (ofText text).root :=
  not_shows_mapping_of_leaf (root_of_first _ _ (Tokens.ofText_first blank))

end Document

end FixtureHarness.Yaml
