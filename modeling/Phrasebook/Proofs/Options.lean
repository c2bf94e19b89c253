import Mathlib.Data.List.Induction
import Phrasebook.Options.Decode

/-!
# What a settings file says

The options of a settings file are found entry by entry, each of which sets one option. Seen from
the outside each option stands for itself: its value is what the file says about it, and its default
if the file says nothing.

## Main results

* `follows_ofDocument`: the options of a settings file are what it says, each for itself.
-/

namespace Phrasebook.Options

/-- What entries say about a key: the value of the last entry that has it. -/
def said? (entries : Settings.Entries) (key : String) : Option Settings.Node :=
  entries.reverse.lookup key

/-- A value is the one that a setting decodes to, or the default if there is no such setting. -/
def Settles {α : Type} (decode : Settings.Node → Except Fault α) (said : Option Settings.Node)
    (default value : α) : Prop :=
  match said with
  | some node => decode node = .ok value
  | none => value = default

/-- Options are what entries say, and as they were before where nothing is said. -/
structure Follows (entries : Settings.Entries) (before options : Options) : Prop where
  target : Settles (choice Target.ofAlias? .unknownTarget) (said? entries "target") before.target
    options.target
  guard : Settles (choice guardNamed? .unknownGuard) (said? entries "guard") before.guard
    options.guard
  strict : Settles truth (said? entries "strict") before.strict options.strict
  lint : Settles truth (said? entries "lint") before.lint options.lint

/-- Of two entries for one key the later one counts. -/
theorem said?_concat (entries : Settings.Entries) (key other : String) (node : Settings.Node) :
    said? (entries ++ [(other, node)]) key =
      if key = other then some node else said? entries key := by
  rw [said?, List.reverse_append, List.reverse_singleton, List.singleton_append, List.lookup_cons]
  by_cases h : key = other
  · rw [if_pos h, beq_iff_eq.mpr h]
  · rw [if_neg h, beq_eq_false_iff_ne.mpr h]
    rfl

section

variable {α : Type} {decode : Settings.Node → Except Fault α} {entries : Settings.Entries}
  {key other : String} {node : Settings.Node} {default value : α}

/-- An entry settles its own option. -/
theorem settles_concat_self (h : decode node = .ok value) :
    Settles decode (said? (entries ++ [(key, node)]) key) default value := by
  rw [said?_concat, if_pos rfl]
  exact h

/-- An entry leaves the other options as they are. -/
theorem Settles.concat (h : Settles decode (said? entries key) default value) (hne : key ≠ other) :
    Settles decode (said? (entries ++ [(other, node)]) key) default value := by
  rw [said?_concat, if_neg hne]
  exact h

end

/-- From a chain that succeeds, its first step succeeds. -/
theorem exists_of_bind_eq_ok {ε α β : Type} {x : Except ε α} {f : α → Except ε β} {b : β}
    (h : x >>= f = .ok b) : ∃ a, x = .ok a ∧ f a = .ok b := by
  cases x with
  | error e => cases h
  | ok a => exact ⟨a, rfl, h⟩

/-- Rewording the error of a step does not make it succeed. -/
theorem eq_ok_of_mapError_eq_ok {ε δ α : Type} {x : Except ε α} {f : ε → δ} {a : α}
    (h : x.mapError f = .ok a) : x = .ok a := by
  cases x with
  | error e => cases h
  | ok b => exact congrArg _ (Except.ok.inj h)

/-- One more entry settles one more option. -/
theorem Follows.concat {entries : Settings.Entries} {before options next : Options}
    {entry : String × Settings.Node} (h : Follows entries before options)
    (hnext : applyEntry options entry = .ok next) : Follows (entries ++ [entry]) before next := by
  obtain ⟨key, node⟩ := entry
  rw [applyEntry] at hnext
  split at hnext
  next hkey =>
    obtain rfl : key = "target" := hkey
    obtain ⟨target, htarget, hnext⟩ := exists_of_bind_eq_ok hnext
    obtain rfl := Except.ok.inj hnext
    exact ⟨settles_concat_self htarget, h.guard.concat (by decide), h.strict.concat (by decide),
      h.lint.concat (by decide)⟩
  next hkey =>
    obtain rfl : key = "guard" := hkey
    obtain ⟨guard, hguard, hnext⟩ := exists_of_bind_eq_ok hnext
    obtain rfl := Except.ok.inj hnext
    exact ⟨h.target.concat (by decide), settles_concat_self hguard, h.strict.concat (by decide),
      h.lint.concat (by decide)⟩
  next hkey =>
    obtain rfl : key = "strict" := hkey
    obtain ⟨strict, hstrict, hnext⟩ := exists_of_bind_eq_ok hnext
    obtain rfl := Except.ok.inj hnext
    exact ⟨h.target.concat (by decide), h.guard.concat (by decide), settles_concat_self hstrict,
      h.lint.concat (by decide)⟩
  next hkey =>
    obtain rfl : key = "lint" := hkey
    obtain ⟨lint, hlint, hnext⟩ := exists_of_bind_eq_ok hnext
    obtain rfl := Except.ok.inj hnext
    exact ⟨h.target.concat (by decide), h.guard.concat (by decide), h.strict.concat (by decide),
      settles_concat_self hlint⟩
  next => cases hnext

/-- **Options are what the entries say**, each for itself. -/
theorem follows_of_foldlM {entries : Settings.Entries} {before options : Options}
    (h : entries.foldlM applyEntry before = .ok options) : Follows entries before options := by
  induction entries using List.reverseRecOn generalizing options with
  | nil =>
      obtain rfl : before = options := Except.ok.inj h
      exact ⟨rfl, rfl, rfl, rfl⟩
  | append_singleton entries entry ih =>
      rw [List.foldlM_append] at h
      obtain ⟨between, hbetween, hlast⟩ := exists_of_bind_eq_ok h
      rw [List.foldlM_cons] at hlast
      obtain ⟨next, hnext, hdone⟩ := exists_of_bind_eq_ok hlast
      obtain rfl : next = options := Except.ok.inj hdone
      exact (ih hbetween).concat hnext

/-- The options of a settings file are what it says, and the defaults where it says nothing. -/
theorem follows_ofDocument {document : String} {options : Options}
    (h : ofDocument document = .ok options) :
    Follows ((Settings.read? document).getD []) {} options := by
  rw [ofDocument] at h
  cases hentries : Settings.read? document with
  | none =>
      rw [hentries] at h
      cases h
  | some entries =>
      rw [hentries] at h
      exact follows_of_foldlM h

/-- A truth value that was off is on exactly if that is said. -/
theorem settles_truth_iff {said : Option Settings.Node} {default value : Bool}
    (h : Settles truth said default value) :
    value = !default ↔ said = some (.flag !default) := by
  rcases said with - | node
  · obtain rfl : value = default := h
    simp
  · cases node with
    | flag b =>
        obtain rfl : b = value := Except.ok.inj h
        simp
    | text | other | array | table | tables => exact absurd h (by simp [Settles, truth])

end Phrasebook.Options
