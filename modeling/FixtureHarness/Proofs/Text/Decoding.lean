import FixtureHarness.Proofs.Text.Occurrence
import FixtureHarness.Text.Octets
import Mathlib.Tactic.Ring
import Mathlib.Tactic.SplitIfs

/-! # What lossy decoding keeps

Decoding divides bytes into runs: an ASCII byte is a run of its own and gives its character, and any
other run holds no ASCII byte and gives one character outside ASCII, be it a character or the mark
of an invalid part. One step of the machine keeps this division, with the bytes of the unfinished
character held back. So a text of ASCII characters occurs in what is decoded exactly where its bytes
occur in what was written.
-/

namespace FixtureHarness.Utf8

/-- A byte that encodes a character by itself. -/
def IsAscii (byte : UInt8) : Prop := byte.toNat < 0x80

/-- A code that a character outside ASCII can have. -/
def IsWide (code : Nat) : Prop := 0x80 ≤ code ∧ code.isValidChar

/-- A division of bytes into runs, with the characters that the runs give. -/
inductive Decoded : List UInt8 → List Char → Prop where
  | nil : Decoded [] []
  | ascii {byte : UInt8} {bytes : List UInt8} {text : List Char} :
      IsAscii byte → Decoded bytes text →
        Decoded (byte :: bytes) (Char.ofNat byte.toNat :: text)
  | other {run bytes : List UInt8} {char : Char} {text : List Char} :
      run ≠ [] → (∀ byte ∈ run, ¬ IsAscii byte) → 0x80 ≤ char.toNat → Decoded bytes text →
        Decoded (run ++ bytes) (char :: text)

/-- The least code that a character can have, of which some bytes are missing and the next is at
least a bound. -/
def leastCode (missing code bound : Nat) : Nat :=
  (code * 64 + (bound - 0x80)) * 64 ^ (missing - 1)

/-- The bytes of an unfinished character. Every way to finish it gives a code outside ASCII. -/
structure Unfinished (held : List UInt8) (missing code : Nat) (low high : UInt8) : Prop where
  nonempty : held ≠ []
  large : ∀ byte ∈ held, ¬ IsAscii byte
  bottom : 0x80 ≤ low.toNat
  top : high.toNat ≤ 0xBF
  wide : ∀ final, leastCode missing code low.toNat ≤ final →
    final < leastCode missing code (high.toNat + 1) → IsWide final

/-- The bytes that are held back, beside the state that they lead to. -/
inductive Holds : List UInt8 → State → Prop where
  | ready : Holds [] .ready
  | pending {held : List UInt8} {missing code : Nat} {low high : UInt8} :
      Unfinished held missing code low high → Holds held (.pending missing code low high)

/-- The text of parts, with the replacement character for the invalid ones. -/
def lossyText (parts : List Part) : List Char :=
  parts.map (·.getD replacement)

@[simp] theorem lossyText_some (char : Char) : lossyText [some char] = [char] := rfl

/-- Bytes that were read are divided into finished runs and those that are held back. -/
def Reads (read : List UInt8) (next : List Part × State) : Prop :=
  ∃ finished held, read = finished ++ held ∧ Decoded finished (lossyText next.1) ∧
    Holds held next.2

theorem Decoded.append {first second : List UInt8} {left right : List Char}
    (before : Decoded first left) (after : Decoded second right) :
    Decoded (first ++ second) (left ++ right) := by
  induction before with
  | nil => exact after
  | ascii small _ ih => exact .ascii small ih
  | other nonempty large wide _ ih =>
    rw [List.append_assoc]
    exact .other nonempty large wide ih

/-- A whole run that gives one character. -/
theorem Decoded.single {run : List UInt8} {char : Char} (nonempty : run ≠ [])
    (large : ∀ byte ∈ run, ¬ IsAscii byte) (wide : 0x80 ≤ char.toNat) : Decoded run [char] := by
  simpa only [List.append_nil] using Decoded.other nonempty large wide .nil

theorem replacement_wide : 0x80 ≤ replacement.toNat := by decide

theorem toNat_ofNat_of_valid {code : Nat} (valid : code.isValidChar) :
    (Char.ofNat code).toNat = code := by
  rw [Char.ofNat, dif_pos valid]
  rfl

theorem toNat_ofNat_byte (byte : UInt8) : (Char.ofNat byte.toNat).toNat = byte.toNat :=
  toNat_ofNat_of_valid (.inl (Nat.lt_trans byte.toNat_lt (by decide)))

theorem IsWide.le_toNat {code : Nat} (wide : IsWide code) : 0x80 ≤ (Char.ofNat code).toNat := by
  rw [toNat_ofNat_of_valid wide.2]
  exact wide.1

/-- All codes of a range are wide if it leaves out ASCII and the surrogates. -/
theorem IsWide.of_range {least bound final : Nat} (above : least ≤ final) (below : final < bound)
    (range : 0x80 ≤ least ∧ (bound ≤ 0xD800 ∨ 0xE000 ≤ least ∧ bound ≤ 0x110000)) :
    IsWide final := by
  refine ⟨by omega, ?_⟩
  change final < 0xD800 ∨ 0xDFFF < final ∧ final < 0x110000
  omega

/-! ## Codes of unfinished characters -/

theorem leastCode_mono (missing code : Nat) {first second : Nat} (ordered : first ≤ second) :
    leastCode missing code first ≤ leastCode missing code second := by
  unfold leastCode
  exact Nat.mul_le_mul_right _ (by omega)

/-- The codes that are possible behind a byte are those from the byte on and before the next. -/
theorem leastCode_read (missing code : Nat) {byte : Nat} (large : 0x80 ≤ byte) :
    leastCode (missing + 1) (code * 64 + (byte - 0x80)) 0x80 = leastCode (missing + 2) code byte ∧
      leastCode (missing + 1) (code * 64 + (byte - 0x80)) 0xC0 =
        leastCode (missing + 2) code (byte + 1) := by
  obtain ⟨bits, rfl⟩ := Nat.exists_eq_add_of_le large
  have next : 0x80 + bits + 1 - 0x80 = bits + 1 := by omega
  have fewer : missing + 2 - 1 = missing + 1 := rfl
  constructor
  · simp only [leastCode, Nat.add_sub_cancel_left, Nat.add_sub_cancel, Nat.sub_self, fewer]
    ring
  · simp only [leastCode, Nat.add_sub_cancel_left, Nat.add_sub_cancel, next, fewer]
    ring

section Unfinished

variable {held : List UInt8} {missing code : Nat} {low high byte : UInt8}

/-- A first byte is held back if the codes that it leads to leave out ASCII and the surrogates. -/
theorem Unfinished.first (large : ¬ IsAscii byte) (bottom : 0x80 ≤ low.toNat)
    (top : high.toNat ≤ 0xBF)
    (range : 0x80 ≤ leastCode missing code low.toNat ∧
      (leastCode missing code (high.toNat + 1) ≤ 0xD800 ∨
        0xE000 ≤ leastCode missing code low.toNat ∧
          leastCode missing code (high.toNat + 1) ≤ 0x110000)) :
    Unfinished [byte] missing code low high where
  nonempty := List.cons_ne_nil _ _
  large := by simpa using large
  bottom := bottom
  top := top
  wide := fun _ above below => .of_range above below range

theorem Unfinished.invalid (unfinished : Unfinished held missing code low high) :
    Decoded held [replacement] :=
  .single unfinished.nonempty unfinished.large replacement_wide

theorem Unfinished.large_of_fits (unfinished : Unfinished held missing code low high)
    (above : low.toNat ≤ byte.toNat) : ∀ other ∈ held ++ [byte], ¬ IsAscii other := by
  intro other member
  rcases List.mem_append.mp member with old | new
  · exact unfinished.large other old
  · have bottom := unfinished.bottom
    rw [List.mem_singleton.mp new, IsAscii]
    omega

/-- The last byte that is missing finishes the character. -/
theorem Unfinished.finished (unfinished : Unfinished held missing code low high)
    (last : missing ≤ 1) (above : low.toNat ≤ byte.toNat) (below : byte.toNat ≤ high.toNat) :
    Decoded (held ++ [byte]) [Char.ofNat (code * 64 + (byte.toNat - 0x80))] := by
  have none : missing - 1 = 0 := by omega
  have bottom := unfinished.bottom
  have outside : IsWide (code * 64 + (byte.toNat - 0x80)) := by
    apply unfinished.wide
    · rw [leastCode, none]
      omega
    · rw [leastCode, none]
      omega
  exact .single (by simp) (unfinished.large_of_fits above) outside.le_toNat

/-- Any other byte that fits leaves the character unfinished. -/
theorem Unfinished.continued (unfinished : Unfinished held (missing + 2) code low high)
    (above : low.toNat ≤ byte.toNat) (below : byte.toNat ≤ high.toNat) :
    Unfinished (held ++ [byte]) (missing + 1) (code * 64 + (byte.toNat - 0x80)) 0x80 0xBF where
  nonempty := by simp
  large := unfinished.large_of_fits above
  bottom := by decide
  top := by decide
  wide := by
    obtain ⟨first, next⟩ :=
      leastCode_read missing code (Nat.le_trans unfinished.bottom above)
    intro final least greatest
    rw [show (0x80 : UInt8).toNat = 0x80 from rfl, first] at least
    rw [show (0xBF : UInt8).toNat + 1 = 0xC0 from rfl, next] at greatest
    apply unfinished.wide final
    · exact Nat.le_trans (leastCode_mono _ _ above) least
    · exact Nat.lt_of_lt_of_le greatest (leastCode_mono _ _ (Nat.succ_le_succ below))

end Unfinished

/-! ## One step -/

/-- A first byte is a whole character, a whole invalid part, or held back. -/
theorem reads_lead (byte : UInt8) : Reads [byte] (lead byte) := by
  by_cases small : IsAscii byte
  · have whole : lead byte = ([some (Char.ofNat byte.toNat)], .ready) :=
      if_pos (UInt8.lt_iff_toNat_lt.mpr (show byte.toNat < 0x80 from small))
    rw [whole]
    exact ⟨[byte], [], rfl, .ascii small .nil, .ready⟩
  · have invalid : Reads [byte] ([none], .ready) :=
      ⟨[byte], [], rfl,
        .single (List.cons_ne_nil _ _) (by simpa using small) replacement_wide, .ready⟩
    have started {missing code : Nat} {low high : UInt8}
        (unfinished : Unfinished [byte] missing code low high) :
        Reads [byte] ([], .pending missing code low high) :=
      ⟨[], [byte], rfl, .nil, .pending unfinished⟩
    unfold lead
    simp only [UInt8.lt_iff_toNat_lt, ← UInt8.toNat_inj, UInt8.reduceToNat]
    split_ifs with ascii tail two e0 ed three f0 four f4
    · exact (small ascii).elim
    · exact invalid
    · exact started (.first small (by decide) (by decide) (by simp [leastCode]; omega))
    · exact started (.first small (by decide) (by decide) (by decide))
    · exact started (.first small (by decide) (by decide) (by decide))
    · exact started (.first small (by decide) (by decide) (by simp [leastCode]; omega))
    · exact started (.first small (by decide) (by decide) (by decide))
    · exact started (.first small (by decide) (by decide) (by simp [leastCode]; omega))
    · exact started (.first small (by decide) (by decide) (by decide))
    · exact invalid

/-- A byte after those held back finishes their character, is held back with them, or ends an
invalid part and is a first byte itself. -/
theorem Holds.reads_step {held : List UInt8} {state : State} (holds : Holds held state)
    (byte : UInt8) : Reads (held ++ [byte]) (step state byte) := by
  cases holds with
  | ready => exact reads_lead byte
  | @pending _ missing code low high unfinished =>
    by_cases fits : low ≤ byte ∧ byte ≤ high
    · have above := UInt8.le_iff_toNat_le.mp fits.1
      have below := UInt8.le_iff_toNat_le.mp fits.2
      simp only [step, if_pos fits]
      by_cases last : missing ≤ 1
      · rw [if_pos last]
        refine ⟨held ++ [byte], [], (List.append_nil _).symm, ?_, .ready⟩
        rw [lossyText_some]
        exact unfinished.finished last above below
      · rw [if_neg last]
        obtain ⟨more, rfl⟩ : ∃ more, missing = more + 2 := ⟨missing - 2, by omega⟩
        exact ⟨[], held ++ [byte], rfl, .nil, .pending (unfinished.continued above below)⟩
    · obtain ⟨finished, rest, split, decoded, holds⟩ := reads_lead byte
      simp only [step, if_neg fits]
      refine ⟨held ++ finished, rest, ?_, unfinished.invalid.append decoded, holds⟩
      rw [split, List.append_assoc]

/-- The run lemma: from any state, the bytes held back and those that follow are divided into runs.
-/
theorem Holds.decoded {held : List UInt8} {state : State} (holds : Holds held state)
    (bytes : List UInt8) : Decoded (held ++ bytes) (lossyText (partsFrom state bytes)) := by
  induction bytes generalizing held state with
  | nil =>
    rw [List.append_nil]
    cases holds with
    | ready => exact .nil
    | pending unfinished => exact unfinished.invalid
  | cons byte rest ih =>
    obtain ⟨finished, unfinished, split, decoded, holds⟩ := holds.reads_step byte
    have parts : partsFrom state (byte :: rest) =
        (step state byte).1 ++ partsFrom (step state byte).2 rest := by
      cases state <;> rfl
    have moved : held ++ byte :: rest = finished ++ (unfinished ++ rest) := by
      rw [← List.append_assoc, ← split, List.append_assoc, List.singleton_append]
    rw [parts, moved, lossyText, List.map_append]
    exact decoded.append (ih holds)

theorem decoded_decodeLossy (bytes : List UInt8) : Decoded bytes (decodeLossy bytes) :=
  Holds.ready.decoded bytes

/-! ## Occurrences of ASCII texts -/

variable {needle bytes : List UInt8} {text : List Char}

theorem ofNat_byte_inj {first second : UInt8} :
    Char.ofNat first.toNat = Char.ofNat second.toNat ↔ first = second := by
  constructor
  · intro same
    rw [← UInt8.toNat_inj, ← toNat_ofNat_byte first, same, toNat_ofNat_byte]
  · rintro rfl
    rfl

theorem not_mem_ofBytes_of_wide {char : Char} (wide : 0x80 ≤ char.toNat)
    (ascii : ∀ byte ∈ needle, IsAscii byte) : char ∉ Octets.ofBytes needle := by
  intro member
  obtain ⟨byte, held, rfl⟩ := List.mem_map.mp member
  have small : byte.toNat < 0x80 := ascii byte held
  rw [toNat_ofNat_byte] at wide
  omega

theorem Decoded.prefix_iff (decoded : Decoded bytes text) (ascii : ∀ byte ∈ needle, IsAscii byte) :
    Octets.ofBytes needle <+: text ↔ needle <+: bytes := by
  induction decoded generalizing needle with
  | nil => simp only [Octets.ofBytes, List.prefix_nil, List.map_eq_nil_iff]
  | @ascii byte bytes text _ _ ih =>
    cases needle with
    | nil => simp only [Octets.ofBytes, List.map_nil, List.nil_prefix]
    | cons first others =>
      have rest := ih fun other held => ascii other (List.mem_cons_of_mem _ held)
      simp only [Octets.ofBytes, List.map_cons, List.cons_prefix_cons] at rest ⊢
      rw [rest, ofNat_byte_inj]
  | @other run bytes char text nonempty large wide _ _ =>
    obtain ⟨byte, others, rfl⟩ := List.exists_cons_of_ne_nil nonempty
    have apart : byte ∉ needle := fun held => large byte (List.mem_cons_self ..) (ascii byte held)
    rw [Text.prefix_cons_iff_of_not_mem (not_mem_ofBytes_of_wide wide ascii), List.cons_append,
      Text.prefix_cons_iff_of_not_mem apart, Octets.ofBytes, List.map_eq_nil_iff]

theorem Decoded.infix_iff (decoded : Decoded bytes text) (ascii : ∀ byte ∈ needle, IsAscii byte) :
    Octets.ofBytes needle <:+: text ↔ needle <:+: bytes := by
  induction decoded with
  | nil => simp only [Octets.ofBytes, List.infix_nil, List.map_eq_nil_iff]
  | ascii small decoded ih =>
    rw [List.infix_cons_iff, (decoded.ascii small).prefix_iff ascii, ih, ← List.infix_cons_iff]
  | other _ large wide _ ih =>
    have apart : ∀ byte ∈ _, byte ∉ needle := fun byte held inside => large byte held (ascii byte inside)
    rw [Text.infix_cons_iff_of_not_mem (not_mem_ofBytes_of_wide wide ascii),
      Text.infix_append_iff_right apart, ih]

/-- An ASCII text occurs in what is decoded exactly where its bytes occur in what was written. -/
theorem infix_decodeLossy_iff (ascii : ∀ byte ∈ needle, IsAscii byte) (bytes : List UInt8) :
    Octets.ofBytes needle <:+: decodeLossy bytes ↔ needle <:+: bytes :=
  (decoded_decodeLossy bytes).infix_iff ascii

end FixtureHarness.Utf8
