import Phrasebook.Files.Request
import Phrasebook.Proofs.Files.Disk
import Phrasebook.Proofs.Reference

/-!
# Compiling files on a disk

Compiling a message file to an output file is compiling what stands in the message file, and
nothing else: what is written goes to the one location that the output path leads to, whether
the compilation succeeds or not, and every other location of the disk stays as it is. If the
message file cannot be opened, or the output cannot be created, the disk does not change.

The order of the effects shows in one place. The output is emptied before the message file is
read, so a message file that is its own output is read as empty.

## Main results

* `compileFile_of_opened`: what compiling files does once both files are open.
* `compileFile_eq_compile`: compiling files is compiling the content, and touches the output
  only.
-/

namespace Phrasebook

/-! ### The three ways through -/

/-- Creating the output empties the message file if it is the same file. -/
theorem Disk.content_set {d : Disk} {target : Location} (source : Location)
    (htarget : d.get? target ≠ some .directory) :
    (d.set target (.file [])).content source =
      if source = target then .ok [] else d.content source := by
  rw [content]
  by_cases h : source = target
  · rw [if_pos h, h, get?_set_self _ (ne_nil_of_get? htarget)]
  · rw [if_neg h, get?_set_of_ne _ h]
    rfl

/-- A step that only gives a value leaves the disk as it is. -/
theorem Disk.pure_apply {α : Type} (a : α) (d : Disk) : (pure a : StateM Disk α) d = (a, d) :=
  rfl

section

variable {d : Disk} {messages output : Path} (options : Options)

/-- Nothing is done to the disk if the message file cannot be opened. -/
theorem compileFile_of_not_opened {error : AccessError} (h : d.locate messages = .error error) :
    compileFile Disk.access messages output options d =
      ({ notices := extensionNotices options.target output ++ [.openFailed messages error]
         result := .error (.access error) }, d) := by
  simp only [compileFile, Disk.access, Disk.openSource, bind, StateT.bind, Disk.pure_apply, h]

/-- Nothing is done to the disk if the output cannot be created. -/
theorem compileFile_of_not_created {source : Location} {error : AccessError}
    (h : d.locate messages = .ok source) (hnew : d.locateNew output = .error error) :
    compileFile Disk.access messages output options d =
      ({ notices := extensionNotices options.target output ++ [.createFailed output error]
         result := .error (.access error) }, d) := by
  simp only [compileFile, Disk.access, Disk.openSource, Disk.create, bind, StateT.bind,
    Disk.pure_apply, h, hnew]

/-- Once both files are open, the output is filled with what the compilation of the content has
written. -/
theorem compileFile_of_opened {source target : Location} (h : d.locate messages = .ok source)
    (hnew : d.locateNew output = .ok target) :
    let content := if source = target then .ok [] else d.content source
    let outcome := compile .unlimited options (some output) content
    compileFile Disk.access messages output options d =
      ({ notices := extensionNotices options.target output ++ outcome.notices
         result := outcome.result }, d.set target (.file (Utf8.encode outcome.written))) := by
  intro content outcome
  have hread := Disk.content_set source (Disk.get?_of_locateNew hnew)
  simp only [compileFile, Disk.access, Disk.openSource, Disk.create, Disk.readAll, Disk.fill, bind,
    StateT.bind, Disk.pure_apply, h, hnew, hread, Disk.set_set]
  rfl

end

/-- What cannot be read gives the beginning of the file and the error of reading. -/
theorem compile_unreadable (options : Options) (output : Option Path) (error : AccessError) :
    let outcome := compile .unlimited options output (.error error)
    outcome.result = .error (.access error) ∧
      outcome.written = (Layout.select options output).text .preamble := by
  intro outcome
  have hopening := Reference.opening_yields (Layout.select options output) options
  have houtcome : outcome =
      (Reference.opening (Layout.select options output) options).andThen fun s =>
        .fail s (.access error) := by
    rw [Reference.opening, Outcome.andThen_assoc]
    simp only [outcome, compile, Session.readDefinitions, Session.readSource, Outcome.andThen_assoc,
      Outcome.andThen_fail]
    rfl
  have hfailure : outcome.failure = some (.access error) := by
    rw [houtcome, Outcome.failure_andThen hopening.failure]
    rfl
  have hchunks : outcome.chunks = [.preamble] := by
    rw [houtcome, Outcome.chunks_andThen hopening.failure, hopening.stored]
    rfl
  refine ⟨by rw [Outcome.result, hfailure], ?_⟩
  rw [Reference.compile_written, hchunks, Layout.spelling, List.map_singleton, String.join]
  exact String.empty_append

/-! ### The main result -/

/-- **Compiling files is compiling the content, and touches the output only.** For every disk,
all paths and all options:

* If the message file cannot be opened, or it can and the output cannot be created, the error of
  that step is the result, and the disk is as it was.
* Otherwise nothing but the location of the output changes. The output path leads there, and
  the file there holds exactly what the compilation of the content writes, also if that fails.
  The result is that of the compilation, and so are the notices, after the one about an unusual
  extension. The content is that of the message file, or empty if the message file is the
  output itself.
* If the message file is a directory, the output holds the beginning of the file, and the
  result is the error of reading a directory. -/
theorem compileFile_eq_compile (d : Disk) (messages output : Path) (options : Options) :
    let report := (compileFile Disk.access messages output options d).1
    let after := (compileFile Disk.access messages output options d).2
    let first := extensionNotices options.target output
    (∀ error, d.locate messages = .error error →
      report.result = .error (.access error) ∧
        report.notices = first ++ [.openFailed messages error] ∧ after = d) ∧
    (∀ source error, d.locate messages = .ok source → d.locateNew output = .error error →
      report.result = .error (.access error) ∧
        report.notices = first ++ [.createFailed output error] ∧ after = d) ∧
    ∀ source target, d.locate messages = .ok source → d.locateNew output = .ok target →
      let content := if source = target then .ok [] else d.content source
      let outcome := compile .unlimited options (some output) content
      (∀ loc, loc ≠ target → after.get? loc = d.get? loc) ∧
        after.workingDirectory = d.workingDirectory ∧
        after.locate output = .ok target ∧
        after.get? target = some (.file (Utf8.encode outcome.written)) ∧
        report.result = outcome.result ∧ report.notices = first ++ outcome.notices ∧
        (d.get? source = some .directory →
          outcome.written = (Layout.select options (some output)).text .preamble ∧
            outcome.result = .error (.access .isADirectory)) := by
  intro report after first
  refine ⟨?_, ?_, ?_⟩
  · intro error h
    simp [report, after, first, compileFile_of_not_opened options h]
  · intro source error h hnew
    simp [report, after, first, compileFile_of_not_created options h hnew]
  · intro source target h hnew content outcome
    have htarget := Disk.get?_of_locateNew hnew
    have hrun := compileFile_of_opened options h hnew
    simp only [report, after, hrun]
    refine ⟨fun loc hloc => Disk.get?_set_of_ne _ hloc, rfl, Disk.locate_set_of_locateNew _ hnew,
      Disk.get?_set_self _ (Disk.ne_nil_of_get? htarget), rfl, rfl, ?_⟩
    intro hdirectory
    have hne : source ≠ target := by
      rintro rfl
      exact htarget hdirectory
    have hcontent : content = .error .isADirectory := by
      simp only [content, if_neg hne, Disk.content, hdirectory]
    obtain ⟨hresult, hwritten⟩ := compile_unreadable options (some output) .isADirectory
    simp only [outcome, hcontent]
    exact ⟨hwritten, hresult⟩

/-- A disk with a directory and a message file: nothing changes if the message file is missing or
the output is the directory; the message file is its own output under another spelling, and is
read as empty; and a directory is read as a message file. -/
theorem compileFile_eq_compile_respelled :
    let file : Location := [Utf8.encode "w", Utf8.encode "a.msg"]
    let d : Disk :=
      { entries := [([Utf8.encode "w"], .directory), ([Utf8.encode "w", Utf8.encode "d"], .directory),
          (file, .file (Utf8.encode "package p\nm x\n"))]
        workingDirectory := [Utf8.encode "w"] }
    let run := fun messages output =>
      compileFile Disk.access (.ofString messages) (.ofString output) {} d
    (d.locate (.ofString "b.msg") = .error .notFound ∧ (run "b.msg" "o.hpp").2 = d) ∧
    (d.locate (.ofString "a.msg") = .ok file ∧
      d.locateNew (.ofString "d") = .error .isADirectory ∧ (run "a.msg" "d").2 = d) ∧
    (d.locate (.ofString "d/../a.msg") = .ok file ∧ d.locateNew (.ofString "./a.msg") = .ok file ∧
      (run "d/../a.msg" "./a.msg").1.result =
        (compile .unlimited {} (some (.ofString "./a.msg")) (.ok [])).result) ∧
    (d.locate (.ofString "d") = .ok [Utf8.encode "w", Utf8.encode "d"] ∧
      d.locateNew (.ofString "o.hpp") = .ok [Utf8.encode "w", Utf8.encode "o.hpp"] ∧
      (run "d" "o.hpp").1.result = .error (.access .isADirectory)) := by
  intro file d run
  have hmissing : d.locate (.ofString "b.msg") = .error .notFound := by decide +kernel
  have hfile : d.locate (.ofString "a.msg") = .ok file := by decide +kernel
  have hdirectory : d.locateNew (.ofString "d") = .error .isADirectory := by decide +kernel
  have hrespelled : d.locate (.ofString "d/../a.msg") = .ok file := by decide +kernel
  have hsame : d.locateNew (.ofString "./a.msg") = .ok file := by decide +kernel
  have hread : d.locate (.ofString "d") = .ok [Utf8.encode "w", Utf8.encode "d"] := by
    decide +kernel
  have hnew : d.locateNew (.ofString "o.hpp") = .ok [Utf8.encode "w", Utf8.encode "o.hpp"] := by
    decide +kernel
  have hstands : d.get? [Utf8.encode "w", Utf8.encode "d"] = some .directory := by decide +kernel
  obtain ⟨hunopened, -, -⟩ :=
    compileFile_eq_compile d (.ofString "b.msg") (.ofString "o.hpp") {}
  obtain ⟨-, huncreated, -⟩ := compileFile_eq_compile d (.ofString "a.msg") (.ofString "d") {}
  obtain ⟨-, -, haliased⟩ :=
    compileFile_eq_compile d (.ofString "d/../a.msg") (.ofString "./a.msg") {}
  obtain ⟨-, -, hunread⟩ := compileFile_eq_compile d (.ofString "d") (.ofString "o.hpp") {}
  obtain ⟨-, -, -, -, hempty, -, -⟩ := haliased file file hrespelled hsame
  obtain ⟨-, -, -, -, hresult, -, hunreadable⟩ := hunread _ _ hread hnew
  exact ⟨⟨hmissing, (hunopened _ hmissing).2.2⟩,
    ⟨hfile, hdirectory, (huncreated _ _ hfile hdirectory).2.2⟩,
    ⟨hrespelled, hsame, hempty⟩, hread, hnew, hresult.trans (hunreadable hstands).2⟩

end Phrasebook
