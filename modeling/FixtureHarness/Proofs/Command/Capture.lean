import FixtureHarness.Command.Runner
import FixtureHarness.Proofs.Text.Decoding
import FixtureHarness.Verdict

/-! # Verdicts on what a program wrote

The verdict is read off the captured text, but it is decided by the bytes that the program wrote:
decoding and taking off the final line ending neither hide the marker nor make one up.
-/

namespace FixtureHarness

theorem Verdict.isPassed_classify_iff (output : String) :
    (classify output).isPassed = true ↔ marker.toList <:+: output.toList := by
  rw [classify, ← Text.occursIn_iff]
  split_ifs with occurs
  · simp [isPassed, occurs]
  · simp [isPassed, occurs]

/-- The bytes of the marker are its characters, one byte each. -/
theorem Verdict.ofBytes_marker : Octets.ofBytes (Utf8.bytesOf marker) = marker.toList := by
  decide

theorem Verdict.marker_ascii : ∀ byte ∈ Utf8.bytesOf marker, Utf8.IsAscii byte := by
  unfold Utf8.IsAscii
  decide +kernel

namespace RunnerSettings

theorem marker_infix_decodeLossy_iff (output : List UInt8) :
    Verdict.marker.toList <:+: Utf8.decodeLossy output ↔
      Utf8.bytesOf Verdict.marker <:+: output := by
  rw [← Verdict.ofBytes_marker]
  exact Utf8.infix_decodeLossy_iff Verdict.marker_ascii output

theorem marker_infix_capturedText_iff (output : List UInt8) :
    Verdict.marker.toList <:+: (capturedText output).toList ↔
      Verdict.marker.toList <:+: Utf8.decodeLossy output := by
  rw [capturedText, String.toList_ofList]
  exact Text.infix_dropLineEnd_iff (by decide) (by decide) _

/-- A program that ran passes exactly when the bytes of the marker stand together in what it wrote,
whatever else it wrote and however it ended. Neither decoding nor the final line ending matters. -/
theorem run_passes_iff (settings : RunnerSettings) (system : System) (paths : FixturePaths)
    (files : FileTree) (ended : Ended)
    (started : system settings.program (settings.commandArguments paths) files = .ok ended) :
    let captured := (settings.run system paths files).captured
    ((Verdict.classify captured.text).isPassed = true ↔
        Utf8.bytesOf Verdict.marker <:+: ended.output) ∧
      (Verdict.marker.toList <:+: Utf8.decodeLossy ended.output ↔
        Utf8.bytesOf Verdict.marker <:+: ended.output) ∧
      (Verdict.marker.toList <:+: captured.text.toList ↔
        Verdict.marker.toList <:+: Utf8.decodeLossy ended.output) ∧
      captured.exitCode = ended.exitCode := by
  intro captured
  have kept : captured = ⟨capturedText ended.output, ended.exitCode⟩ := by
    simp only [captured, run, started]
  rw [kept, Verdict.isPassed_classify_iff]
  refine ⟨?_, marker_infix_decodeLossy_iff _, marker_infix_capturedText_iff _, rfl⟩
  rw [marker_infix_capturedText_iff, marker_infix_decodeLossy_iff]

/-- A character cut short right before the marker and a stray byte right behind it change nothing. -/
theorem run_passes_between_invalid_bytes :
    let ended : Ended :=
      ⟨[0xF0, 0x9F, 0x98] ++ Utf8.bytesOf Verdict.marker ++ [0xC3, 0x0D, 0x0A], some 1, ⟨[], []⟩⟩
    let system : System := fun _ _ _ => .ok ended
    let settings : RunnerSettings := {}
    let paths : FixturePaths := ⟨⟨"s"⟩, ⟨"i"⟩, ⟨"o"⟩⟩
    system settings.program (settings.commandArguments paths) ⟨[], []⟩ = .ok ended ∧
      (Verdict.classify (settings.run system paths ⟨[], []⟩).captured.text).isPassed = true := by
  intro ended system settings paths
  refine ⟨rfl, (run_passes_iff settings system paths ⟨[], []⟩ ended rfl).1.mpr ?_⟩
  exact ⟨[0xF0, 0x9F, 0x98], [0xC3, 0x0D, 0x0A], rfl⟩

end RunnerSettings

end FixtureHarness
