import TextAnalysis.CommandLine.Commands
import TextAnalysis.Proofs.Blob.Cells
import TextAnalysis.Proofs.Blob.Restoring
import TextAnalysis.Proofs.Files

/-!
# Commands that write files

A command that makes a blob of a file, or restores a file from a blob, reads the whole of its input before it
writes. So the output may be the input, and nothing is written if anything is wrong with what is read.
-/

namespace TextAnalysis.CommandLine

open Blob

/-! ### One file made of another -/

section

variable {change : Bytes → Except Error Bytes} {files : Files} {input output name : String}

/-- What is made of a file is put in the place that the output leads to. Nothing else is changed. -/
theorem transformFile_of_read (located : files.locate output = .ok name) {content changed : Bytes}
    (read : files.read input = .ok content) (made : change content = .ok changed) :
    transformFile change files input output =
      .ok (.transformed input output content.length changed.length, files.insert name changed) := by
  unfold transformFile
  simp only [read, made, Files.write_eq_ok_iff.mpr ⟨name, located, rfl⟩]

/-- Where the output leads to a file, what can be wrong is that the input cannot be read, or that nothing can be
made of its content. -/
theorem transformFile_eq_error_iff (located : files.locate output = .ok name) {e : Error} :
    transformFile change files input output = .error e ↔
      (∃ fault, files.read input = .error fault ∧ e = .file fault) ∨
        ∃ content, files.read input = .ok content ∧ change content = .error e := by
  cases read : files.read input with
  | error fault => simp [transformFile, read, eq_comm]
  | ok content =>
    cases made : change content with
    | error refused => simp [transformFile, read, made]
    | ok changed => simp [transformFile_of_read located read made, made]

end

/-! ### Runs -/

section

variable {encoder : Bytes → Bytes} {lookup : String → Option String} {files : Files} {i : Invocation}

/-- An invocation that fails leaves the files as they were. -/
theorem files_runWith_of_error {e : Error} (failed : (i.runWith encoder lookup files).output = .error e) :
    (i.runWith encoder lookup files).files = files := by
  unfold Invocation.runWith at failed ⊢
  split at failed
  · cases failed
  · rfl

end

/-- The command makes `change` of the content of `input` and writes it to `output`, under a title, if `encoder`
makes the streams of blobs. -/
inductive Transforms (encoder : Bytes → Bytes) (input output : String) :
    Command → String → (Bytes → Except Error Bytes) → Prop
  | compress : Transforms encoder input output (.compress input output) "Compressed" (compressWith encoder)
  | uncompress : Transforms encoder input output (.uncompress input output) "Uncompressed" uncompress

namespace Transforms

variable {encoder : Bytes → Bytes} {input output title name : String} {i : Invocation}
  {change : Bytes → Except Error Bytes}

theorem of_compress (command : i.command = .compress input output) :
    Transforms encoder input output i.command "Compressed" (compressWith encoder) :=
  command ▸ .compress

theorem of_uncompress (command : i.command = .uncompress input output) :
    Transforms encoder input output i.command "Uncompressed" Blob.uncompress :=
  command ▸ .uncompress

section

variable (transforms : Transforms encoder input output i.command title change)
  (lookup : String → Option String) {files : Files}

include transforms

theorem performWith_eq :
    i.command.performWith encoder lookup files = (title, transformFile change files input output) := by
  cases command : i.command
  all_goals
    rw [command] at transforms
    cases transforms
  · rfl
  · rfl

variable (located : files.locate output = .ok name)

include located

/-- One step: what is made of the input is written, and that is reported. -/
theorem runWith_eq {content changed : Bytes} (read : files.read input = .ok content)
    (made : change content = .ok changed) :
    i.runWith encoder lookup files =
      ⟨.ok ((Report.transformed input output content.length changed.length).show i title),
        files.insert name changed⟩ := by
  unfold Invocation.runWith
  rw [transforms.performWith_eq, transformFile_of_read located read made]

theorem output_eq_error_iff {e : Error} :
    (i.runWith encoder lookup files).output = .error e ↔
      (∃ fault, files.read input = .error fault ∧ e = .file fault) ∨
        ∃ content, files.read input = .ok content ∧ change content = .error e := by
  rw [← transformFile_eq_error_iff located, Invocation.runWith, transforms.performWith_eq lookup]
  cases transformFile change files input output <;> simp

/-- The output is read as what has been made, whether or not it is the input. No other file is changed. -/
theorem written {content changed : Bytes} (read : files.read input = .ok content)
    (made : change content = .ok changed) :
    let outcome := i.runWith encoder lookup files
    outcome.output = .ok ((Report.transformed input output content.length changed.length).show i title) ∧
      outcome.files.read output = .ok changed ∧ Files.SameExcept [name] files outcome.files := by
  have step := transforms.runWith_eq lookup located read made
  refine ⟨congrArg Outcome.output step, ?_, ?_⟩
  · rw [step]
    exact Files.read_of_write (Files.write_eq_ok_iff.mpr ⟨name, located, rfl⟩)
  · rw [step]
    exact Files.sameExcept_insert files name changed

end

end Transforms

/-! ### Restored, copied, left alone -/

/-- Bytes from which there is nothing to restore: a text, or part of a blob that some encoder has written. -/
inductive IsTextOrCut : Bytes → Prop
  | text (text : String) : IsTextOrCut (Text.toBytes text)
  | cut {encoder : Bytes → Bytes} {content blob part : Bytes} (isStream : IsStreamOf content (encoder content))
      (written : compressWith encoder content = .ok blob) (isPrefix : part <+: blob) (ne : part ≠ blob) :
      IsTextOrCut part

theorem IsTextOrCut.uncompress_eq {bytes : Bytes} (isTextOrCut : IsTextOrCut bytes) :
    uncompress bytes = .ok bytes := by
  cases isTextOrCut with
  | text text => exact uncompress_of_parse?_eq_none (parse?_toBytes text)
  | cut isStream written isPrefix ne =>
    obtain ⟨small, rfl⟩ := compressWith_eq_ok_iff.mp written
    exact uncompress_of_isCutOf small isStream (.of_isPrefix isPrefix ne)

end TextAnalysis.CommandLine
