import FixtureHarness.Text.Utf8

/-! # Texts without steering

A terminal takes some characters as orders: control characters, and the sequences that an escape
character begins. A log that is no terminal leaves them out. A line ending or a tab inside a
sequence breaks it off, and what follows is shown up to the next character that is not.
-/

namespace FixtureHarness.Text

/-- Whether a character is white space of ASCII that has a control character of its own. -/
def isBlankControl (char : Char) : Bool :=
  char = '\t' || char = '\n' || char = '\x0c' || char = '\r'

/-- Whether a character stands for itself: one from the space on that is no delete character, or
white space. -/
def isShown (char : Char) : Bool :=
  (' ' ≤ char && char ≠ '\x7f') || isBlankControl char

/-- Where in a steering sequence a text is. -/
inductive Steering where
  /-- In no sequence. -/
  | outside
  /-- Behind an escape character, which one more character completes. -/
  | escape
  /-- Behind the marks that come between an escape character and its last character. -/
  | marked
  /-- Among the numbers of an order. -/
  | order
  /-- In an order to the system, which a bell ends. -/
  | systemText
  /-- At the start of an order to a device. -/
  | deviceStart
  /-- Among the numbers of an order to a device. -/
  | deviceNumbers
  /-- Behind the marks that come before the last character of an order to a device. -/
  | deviceMarks
  /-- In a text for a device. -/
  | deviceText
  deriving DecidableEq, Repr

namespace Steering

/-- Whether a character lies between two others. -/
def within (low high char : Char) : Bool :=
  low ≤ char && char ≤ high

/-- The place behind the character that follows an escape character. -/
def behindEscape (char : Char) : Steering :=
  if char = '[' then order
  else if char = ']' then systemText
  else if char = 'P' then deviceStart
  else if char = 'X' || char = '^' || char = '_' then deviceText
  else if within ' ' '/' char then marked
  else if within '0' '~' char then outside
  else escape

/-- Whether a character ends a text for a device: the bytes of its form in UTF-8 count. -/
def endsDeviceText (char : Char) : Bool :=
  0x80 ≤ char.toNat && (Utf8.bytesOf (String.singleton char)).contains 0x9C

/-- The place behind a character of an order to a device, before its text begins. -/
def behindDevice (place : Steering) (char : Char) : Steering :=
  if within '@' '~' char then deviceText
  else if place = deviceMarks && within '0' '?' char then deviceText
  else if place = deviceNumbers && within '<' '?' char then deviceText
  else if within '0' '?' char then deviceNumbers
  else if within ' ' '/' char then deviceMarks
  else place

/-- The place behind a character that is left out. -/
def next (place : Steering) (char : Char) : Steering :=
  if char = '\x1b' then escape
  else if char = '\x18' || char = '\x1a' then outside
  else
    match place with
    | outside => outside
    | escape => behindEscape char
    | marked => if within '0' '~' char then outside else marked
    | order => if within '@' '~' char then outside else order
    | systemText => if char = '\x07' then outside else systemText
    | deviceStart | deviceNumbers | deviceMarks => behindDevice place char
    | deviceText => if endsDeviceText char then outside else deviceText

/-- Whether a character is shown at a place. -/
def shows (place : Steering) (char : Char) : Bool :=
  match place with
  | outside => isShown char
  | escape | marked | order => isBlankControl char
  | systemText | deviceStart | deviceNumbers | deviceMarks | deviceText => false

/-- What is shown of a text from a place on. `isShowing` says whether the last character was. -/
def shownFrom (isShowing : Bool) (place : Steering) : List Char → List Char
  | [] => []
  | char :: rest =>
    if (isShowing && isShown char) || place.shows char then
      char :: shownFrom true (if 0x80 ≤ char.toNat then outside else place) rest
    else shownFrom false (place.next char) rest

end Steering

/-- A text without its control characters and steering sequences. -/
def unsteered (text : String) : String :=
  String.ofList (Steering.shownFrom false .outside text.toList)

theorem Steering.isShown_of_shows {place : Steering} {char : Char} (shown : place.shows char) :
    isShown char := by
  cases place <;> simp_all [shows, isShown]

/-- Everything that is left stands for itself. -/
theorem Steering.isShown_of_mem_shownFrom {char : Char} {isShowing : Bool} {place : Steering}
    {text : List Char} (member : char ∈ shownFrom isShowing place text) : isShown char := by
  induction text generalizing isShowing place with
  | nil => simp [shownFrom] at member
  | cons head rest ih =>
    simp only [shownFrom] at member
    split at member
    · next shown =>
      rcases List.mem_cons.mp member with rfl | member
      · rcases Bool.or_eq_true_iff.mp shown with shown | shown
        · exact (Bool.and_eq_true_iff.mp shown).2
        · exact isShown_of_shows shown
      · exact ih member
    · exact ih member

/-- A text of characters that stand for themselves stays as it is. -/
theorem unsteered_of_isShown {text : String} (shown : ∀ char ∈ text.toList, isShown char) :
    unsteered text = text := by
  have keeps (chars : List Char) (isShowing : Bool) (shown : ∀ char ∈ chars, isShown char) :
      Steering.shownFrom isShowing .outside chars = chars := by
    induction chars generalizing isShowing with
    | nil => rfl
    | cons head rest ih =>
      have headShown := shown head (by simp)
      have restShown : ∀ char ∈ rest, isShown char := fun char member =>
        shown char (List.mem_cons_of_mem head member)
      simp [Steering.shownFrom, Steering.shows, headShown, ih true restShown]
  simp [unsteered, keeps text.toList false shown]

end FixtureHarness.Text
