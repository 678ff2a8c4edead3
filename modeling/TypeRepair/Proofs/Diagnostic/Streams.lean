import TypeRepair.Program.Basic
import TypeRepair.Program.Rehearsal
import TypeRepair.Proofs.Diagnostic.Printing
import TypeRepair.Proofs.Text.Decoding

/-!
# Output in parts

Output is read line by line, so what is reported in output that was cut at the end of a line is what
is reported in its parts. The checker's standard output and its error output are such parts: lenient
decoding keeps the newline at the end of the first one.

* `parse_append`: output that is cut at the end of a line.
* `Ended.decodeLossy`: the end of a line in bytes is one in their text.
* `perform_check`: what a pass of the checker comes to.
* `streams_do_not_mix`: the two streams of a pass, and lines that report nothing.
-/

namespace TypeRepair

namespace Diagnostic

open Text

/-- No line is left open at the end of the text. -/
def Ended (text : String) : Prop :=
  text = "" ∨ ∃ front, text = front ++ "\n"

/-- Output that is cut at the end of a line. -/
theorem parse_append {first : String} (h : Ended first) (second : String) :
    parse (first ++ second) = parse first ++ parse second := by
  rcases h with rfl | ⟨front, rfl⟩
  · rw [String.empty_append]
    rfl
  · have hLines : outputLines (front ++ "\n" ++ second).toList =
        outputLines (front ++ "\n").toList ++ outputLines second.toList := by
      simpa using outputLines_append_of_newline front.toList second.toList
    rw [parse, hLines, List.filterMap_append, parse, parse]

theorem ended_line (line : String) : Ended (line ++ "\n") := .inr ⟨line, rfl⟩

theorem parse_noise {line : String} (h : Noise line.toList) : parse (line ++ "\n") = [] := by
  have hLines : outputLines (line ++ "\n").toList = [line.toList] := by
    rw [String.toList_append]
    exact (outputLines_line h.one_line []).trans (by rw [dropReturn_of_ne h.no_return]; rfl)
  rw [parse, hLines, List.filterMap_cons_none h.rejected, List.filterMap_nil]

/-- A line that reports nothing can be left out. -/
theorem parse_without_noise {first line : String} (h : Ended first) (hNoise : Noise line.toList)
    (second : String) : parse (first ++ line ++ "\n" ++ second) = parse (first ++ second) := by
  have hParts : first ++ line ++ "\n" ++ second = first ++ (line ++ "\n" ++ second) := by
    simp only [String.append_assoc]
  rw [hParts, parse_append h, parse_append (ended_line line), parse_noise hNoise,
    List.nil_append, parse_append h]

/-- The newline of the last line is not lost when bytes are decoded, whatever they are. -/
theorem ended_decodeLossy {bytes : Bytes} (h : bytes = [] ∨ ∃ front, bytes = front ++ [10]) :
    Ended (decodeLossy bytes) := by
  rcases h with rfl | ⟨front, rfl⟩
  · exact .inl rfl
  · rw [decodeLossy_concat_newline]
    exact ended_line _

end Diagnostic

/-- A process that was started makes a pass. -/
theorem Program.perform_check {σ : Type} {outside : Host.Outside σ} {machine : Host.Machine σ}
    {project : String} {output : Checker.Output}
    (h : (outside.execute Checker.program (Checker.arguments project) machine.disk
      machine.outside).1 = .ok output) :
    (outside.perform (check project) machine).result = .ok output.pass := by
  simp [check, Host.note, Host.execute, Host.Outside.perform, Host.Outside.handler, h]

namespace Diagnostic

open Text

/-- Output of which the first part is empty or ends at a newline is read part by part, and a line
between the parts makes no difference if it reports nothing and does not end at a carriage return.
So the errors of a pass are those in the checker's standard output followed by those in its error
output, where the standard output is empty or ends at a newline. -/
theorem streams_do_not_mix :
    (∀ first second : String, (first = "" ∨ ∃ front, first = front ++ "\n") →
      parse (first ++ second) = parse first ++ parse second ∧
        ∀ line : String, '\n' ∉ line.toList → line.toList.getLast? ≠ some '\r' →
          parseLine? line.toList = none →
            parse (first ++ line ++ "\n" ++ second) = parse (first ++ second)) ∧
      ∀ {σ : Type} (outside : Host.Outside σ) (machine : Host.Machine σ) (project : String)
        (stdout stderr : Bytes) (exitCode : Option Int),
        (outside.execute Checker.program (Checker.arguments project) machine.disk
          machine.outside).1 = .ok ⟨stdout, stderr, exitCode⟩ →
        (stdout = [] ∨ ∃ front, stdout = front ++ [10]) →
        ∃ pass, (outside.perform (Program.check project) machine).result = .ok pass ∧
          parse pass.text = parse (decodeLossy stdout) ++ parse (decodeLossy stderr) := by
  constructor
  · intro first second hEnded
    refine ⟨parse_append hEnded second, ?_⟩
    intro line hLine hReturn hRejected
    exact parse_without_noise hEnded ⟨hLine, hReturn, hRejected⟩ second
  · intro σ outside machine project stdout stderr exitCode hExecute hStdout
    refine ⟨_, Program.perform_check hExecute, ?_⟩
    exact parse_append (ended_decodeLossy hStdout) (decodeLossy stderr)

/-- Streams that are no UTF-8: a character is cut off by the newline at the end of the first one,
and the second one goes on with the rest of it. -/
def cutStreams : Checker.Output where
  stdout := encode "a.ts(1,2): error TS1: x" ++ [0xE2, 0x82] ++ [10]
  stderr := 0xAC :: encode "b.ts(3,4): error TS2: y\r"
  exitCode := some 2

theorem cutStreams_do_not_mix :
    let first := "a.ts(1,2): error TS1: x\r\n"
    let second := "b.ts(3,4): error TS2: y\r"
    let line := "  in c.ts(5,6): error"
    let machine : Host.Machine Host.Script :=
      ⟨Disk.empty [], ⟨⟨true, [cutStreams], []⟩, ⟨true, [], []⟩⟩, ""⟩
    parseLine? line.toList = none ∧
      parse (first ++ line ++ "\n" ++ second) =
        [⟨"a.ts", 1, 2, "TS1", "x"⟩, ⟨"b.ts", 3, 4, "TS2", "y"⟩] ∧
      ∃ pass, (Host.scripted.perform (Program.check "tsconfig.json") machine).result = .ok pass ∧
        parse pass.text =
          [⟨"a.ts", 1, 2, "TS1", "x\uFFFD"⟩, ⟨"\uFFFDb.ts", 3, 4, "TS2", "y"⟩] := by
  intro first second line machine
  obtain ⟨hParts, hPass⟩ := streams_do_not_mix
  have hRejected : parseLine? line.toList = none := by decide
  obtain ⟨hSplit, hWithout⟩ := hParts first second (.inr ⟨"a.ts(1,2): error TS1: x\r", rfl⟩)
  obtain ⟨pass, hMade, hErrors⟩ := hPass Host.scripted machine "tsconfig.json" cutStreams.stdout
    cutStreams.stderr (some 2) rfl (.inr ⟨_, rfl⟩)
  refine ⟨hRejected, ?_, pass, hMade, ?_⟩
  · rw [hWithout line (by decide) (by decide) hRejected, hSplit]
    decide +kernel
  · rw [hErrors]
    decide +kernel

end Diagnostic

end TypeRepair
