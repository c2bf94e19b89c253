import Phrasebook.Proofs.Files.Compilation

/-!
# Requests and their message files

A request refuses to write its output over its message file, as far as the two paths show it:
it compares their components, and follows neither. This module compares that with where the
paths lead on a disk.

Equivalent paths have the same destination, because a destination is reached component by
component (`Disk.destination_eq_foldl`). A request that is refused could therefore have written
to no other file than the one it reads. The converse fails: a leading `.`, a detour through a
directory and back, or an absolute path beside a relative one can lead to the same file by
other components. Such a request is carried out, and its message file is emptied and filled
with the output (`execute_replaces_messages`).

## Main results

* `Disk.destination_eq_of_equivalent`: equivalent paths have the same destination.
* `execute_keeps_messages`: what becomes of the message file of a request.
-/

namespace Phrasebook

/-! ### Components and destinations -/

/-- The location that a component leads to. The root and a leading `.` only say where a path
begins. -/
def Component.follow (loc : Location) : Component → Location
  | .root | .here => loc
  | .parent => loc.dropLast
  | .name bytes => loc ++ [bytes]

namespace Path

/-- Only a leading slash is the root. -/
theorem root_mem_components_iff (p : Path) : .root ∈ p.components ↔ p.isAbsolute = true := by
  have hstretches : .root ∉ (stretches p.bytes).filterMap component? := by
    intro hmem
    obtain ⟨stretch, -, hstretch⟩ := List.mem_filterMap.mp hmem
    rw [component?] at hstretch
    split at hstretch
    · exact absurd hstretch (by simp)
    · split at hstretch <;> exact absurd hstretch (by simp)
  rw [components, List.mem_append, or_iff_left hstretches, leading]
  split
  next h => simp [h]
  next h => split <;> simp [h]

/-- Equivalent paths begin at the same place. -/
theorem isAbsolute_eq_of_equivalent {p q : Path} (h : p.equivalent q = true) :
    p.isAbsolute = q.isAbsolute := by
  have hcomponents : p.components = q.components := beq_iff_eq.mp h
  rw [Bool.eq_iff_iff, ← root_mem_components_iff, ← root_mem_components_iff, hcomponents]

end Path

namespace Disk

/-- A stretch between slashes leads where its component leads, and nowhere if it has none. -/
theorem foldl_child_stretches (row : List Bytes) (loc : Location) :
    (row.filter fun stretch => stretch != []).foldl child loc =
      (row.filterMap Path.component?).foldl Component.follow loc := by
  induction row generalizing loc with
  | nil => rfl
  | cons stretch rest ih =>
      by_cases hempty : stretch = []
      · subst hempty
        exact ih loc
      rw [List.filter_cons_of_pos (by simpa using hempty), List.foldl_cons, ih, child]
      by_cases hdot : stretch = [Path.dot]
      · rw [if_pos hdot, List.filterMap_cons_none (by simp [Path.component?, hdot])]
      rw [if_neg hdot]
      by_cases hdots : stretch = [Path.dot, Path.dot]
      · rw [if_pos hdots, List.filterMap_cons_some (b := .parent) (by simp [Path.component?, hdots])]
        rfl
      · rw [if_neg hdots, List.filterMap_cons_some (b := .name stretch)
          (by simp [Path.component?, hempty, hdot, hdots])]
        rfl

/-- A destination is reached component by component. -/
theorem destination_eq_foldl (d : Disk) (p : Path) :
    d.destination p = p.components.foldl Component.follow (d.origin p) := by
  have hleading : p.leading.foldl Component.follow (d.origin p) = d.origin p := by
    rw [Path.leading]
    split
    · rfl
    · split <;> rfl
  rw [destination, names, foldl_child_stretches, Path.components, List.foldl_append, hleading]

/-- **Equivalent paths have the same destination**, on every disk. -/
theorem destination_eq_of_equivalent {p q : Path} (h : p.equivalent q = true) (d : Disk) :
    d.destination p = d.destination q := by
  have hcomponents : p.components = q.components := beq_iff_eq.mp h
  have horigin : d.origin p = d.origin q := by
    rw [origin, origin, Path.isAbsolute_eq_of_equivalent h]
  rw [destination_eq_foldl, destination_eq_foldl, hcomponents, horigin]

end Disk

/-! ### The message file of a request -/

/-- A request whose paths are equivalent is refused and touches nothing. -/
theorem Request.execute_of_equivalent {r : Request} (h : r.messages.equivalent r.output = true)
    (d : Disk) :
    r.execute Disk.access d = ({ notices := [], result := .error (.overwrites r.output) }, d) := by
  simp only [execute, validate, h, if_true]
  rfl

/-- Any other request compiles its files. -/
theorem Request.execute_of_not_equivalent {r : Request}
    (h : r.messages.equivalent r.output = false) (d : Disk) :
    r.execute Disk.access d = compileFile Disk.access r.messages r.output r.options d := by
  simp only [execute, validate, h]
  rfl

/-- Compiling files leaves a message file that is not the output as it is, under its path. -/
theorem compileFile_keeps_messages {d : Disk} {messages output : Path} {loc : Location}
    {content : Bytes} (options : Options) (hloc : d.locate messages = .ok loc)
    (hfile : d.get? loc = some (.file content)) (hother : d.locateNew output ≠ .ok loc) :
    (compileFile Disk.access messages output options d).2.locate messages = .ok loc ∧
      (compileFile Disk.access messages output options d).2.get? loc = some (.file content) := by
  cases hnew : d.locateNew output with
  | error error =>
      rw [compileFile_of_not_created options hloc hnew]
      exact ⟨hloc, hfile⟩
  | ok target =>
      have hne : loc ≠ target := by
        rintro rfl
        exact hother hnew
      rw [compileFile_of_opened options hloc hnew]
      exact ⟨Disk.locate_set (Disk.get?_of_locateNew hnew) _ hloc,
        (Disk.get?_set_of_ne _ hne).trans hfile⟩

/-- **What becomes of the message file of a request.** Take any disk, any request, and the file
that the path of its messages leads to.

* If the paths are equivalent, the request is refused and the disk stays as it is. The output
  could have been created nowhere but at the message file.
* If they are not, and the output is not created at the message file, that file still stands
  there with the same content.
* If they are not, and the output is created at the message file nevertheless, the file is
  replaced by the output for an empty file. -/
theorem execute_keeps_messages (d : Disk) (r : Request) {loc : Location} {content : Bytes}
    (hloc : d.locate r.messages = .ok loc) (hfile : d.get? loc = some (.file content)) :
    let report := (r.execute Disk.access d).1
    let after := (r.execute Disk.access d).2
    (r.messages.equivalent r.output = true →
      report.result = .error (.overwrites r.output) ∧ after = d ∧
        ∀ target, d.locateNew r.output = .ok target → target = loc) ∧
    (r.messages.equivalent r.output = false → d.locateNew r.output ≠ .ok loc →
      after.locate r.messages = .ok loc ∧ after.get? loc = some (.file content)) ∧
    (r.messages.equivalent r.output = false → d.locateNew r.output = .ok loc →
      after.locate r.messages = .ok loc ∧
        after.get? loc = some (.file (Utf8.encode
          (compile .unlimited r.options (some r.output) (.ok [])).written))) := by
  intro report after
  refine ⟨?_, ?_, ?_⟩
  · intro h
    have hrun := Request.execute_of_equivalent h d
    refine ⟨by simp only [report, hrun], by simp only [after, hrun], ?_⟩
    intro target htarget
    rw [Disk.eq_destination_of_locateNew htarget, Disk.eq_destination_of_locate hloc,
      Disk.destination_eq_of_equivalent h]
  · intro h hother
    simp only [after, Request.execute_of_not_equivalent h]
    exact compileFile_keeps_messages r.options hloc hfile hother
  · intro h hsame
    have htarget := Disk.get?_of_locateNew hsame
    simp only [after, Request.execute_of_not_equivalent h, compileFile_of_opened r.options hloc hsame]
    refine ⟨Disk.locate_set htarget _ hloc, ?_⟩
    rw [Disk.get?_set_self _ (Disk.ne_nil_of_get? htarget), if_pos trivial]

/-- Requests on a disk with one file: one is refused because its paths are equivalent, one keeps its
message file beside another output, and one replaces it, because its output path is a detour. -/
theorem execute_keeps_messages_detour :
    let file : Location := [Utf8.encode "w", Utf8.encode "a.msg"]
    let content := Utf8.encode "m x\n"
    let d : Disk :=
      { entries := [([Utf8.encode "w"], .directory), ([Utf8.encode "w", Utf8.encode "d"], .directory),
          (file, .file content)]
        workingDirectory := [Utf8.encode "w"] }
    let request := fun output => Request.mk (.ofString "a.msg") (.ofString output) {}
    let after := fun output => ((request output).execute Disk.access d).2
    (d.locate (.ofString "a.msg") = .ok file ∧ d.get? file = some (.file content)) ∧
    ((Path.ofString "a.msg").equivalent (.ofString "a.msg/.") = true ∧ after "a.msg/." = d) ∧
    ((Path.ofString "a.msg").equivalent (.ofString "d/o.hpp") = false ∧
      d.locateNew (.ofString "d/o.hpp") ≠ .ok file ∧
      (after "d/o.hpp").get? file = some (.file content)) ∧
    ((Path.ofString "a.msg").equivalent (.ofString "d/../a.msg") = false ∧
      d.locateNew (.ofString "d/../a.msg") = .ok file ∧
      (after "d/../a.msg").get? file = some (.file (Utf8.encode
        (compile .unlimited {} (some (.ofString "d/../a.msg")) (.ok [])).written))) := by
  intro file content d request after
  have hloc : d.locate (.ofString "a.msg") = .ok file := by decide +kernel
  have hfile : d.get? file = some (.file content) := by decide +kernel
  have hspelled : (Path.ofString "a.msg").equivalent (.ofString "a.msg/.") = true := by
    decide +kernel
  have hother : (Path.ofString "a.msg").equivalent (.ofString "d/o.hpp") = false := by
    decide +kernel
  have hbeside : d.locateNew (.ofString "d/o.hpp") ≠ .ok file := by decide +kernel
  have hdetour : (Path.ofString "a.msg").equivalent (.ofString "d/../a.msg") = false := by
    decide +kernel
  have hsame : d.locateNew (.ofString "d/../a.msg") = .ok file := by decide +kernel
  obtain ⟨hrefused, -, -⟩ := execute_keeps_messages d (request "a.msg/.") hloc hfile
  obtain ⟨-, hkept, -⟩ := execute_keeps_messages d (request "d/o.hpp") hloc hfile
  obtain ⟨-, -, hreplaced⟩ := execute_keeps_messages d (request "d/../a.msg") hloc hfile
  exact ⟨⟨hloc, hfile⟩, ⟨hspelled, (hrefused hspelled).2.1⟩,
    ⟨hother, hbeside, (hkept hother hbeside).2⟩, hdetour, hsame, (hreplaced hdetour hsame).2⟩

/-- A request may replace its message file: a leading `.` leads to the same file by other
components, so the request is carried out, and what stood in the message file is lost. -/
theorem execute_replaces_messages :
    let file : Location := [Utf8.encode "w", Utf8.encode "a.msg"]
    let d : Disk :=
      { entries := [([Utf8.encode "w"], .directory), (file, .file (Utf8.encode "m x\n"))]
        workingDirectory := [Utf8.encode "w"] }
    let r : Request := { messages := .ofString "a.msg", output := .ofString "./a.msg" }
    r.validate = .ok () ∧ d.locate r.messages = .ok file ∧
      d.get? file = some (.file (Utf8.encode "m x\n")) ∧
      (r.execute Disk.access d).1.result = .ok {} ∧
      (r.execute Disk.access d).2.get? file =
        some (.file (Utf8.encode "#pragma once\n#include <string>\n#include <sstream>\n")) := by
  decide +kernel

end Phrasebook
