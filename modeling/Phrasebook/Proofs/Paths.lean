import Mathlib.Data.List.Basic
import Mathlib.Data.List.Induction
import Mathlib.Logic.Relation
import Mathlib.Tactic.ByContra
import Phrasebook.Files.Request
import Phrasebook.Proofs.Utf8

/-!
# What a path is

Three decisions are made on the bytes of a path, before any file is touched. A request is refused
if its paths are equivalent, a guard is named after a file name, and the extension of a file name
is compared with those of a target. Each of them has its own view of the bytes: all components,
the last one, or what follows a dot in the last one. This module shows that the views agree.

What a path is does not depend on how it is spelled. One step makes a spelling plainer
(`Path.Tidies`): it drops one of two adjacent slashes, a slash at the end, or a `.` that stands
between slashes or at the end. Two spellings are *variants* of each other if they differ by such
steps (`Path.Variants`), and the equivalent paths are exactly the variants. That a step keeps the
components is one equation for a slash in a path (`Path.components_append`). Conversely, each path
is a variant of the plain spelling of its components (`Path.variants_plain`), which is built up
name by name, from the first to the last.

The guard and the extension depend on the last component alone, so they are the same for all
variants.

## Main results

* `Path.equivalent_iff_variants`: equivalent paths are variants of one spelling.
* `Path.extension?_eq_some_iff`: which paths have which extensions.
* `Target.matchesPath_iff`: which extensions a target takes, byte by byte.
* `path_decisions_agree`: the three decisions agree.
-/

namespace Phrasebook

/-- The bytes that spell a component. -/
def Component.spelling : Component → Bytes
  | .root => [Path.slash]
  | .here => [Path.dot]
  | .parent => [Path.dot, Path.dot]
  | .name bytes => bytes

namespace Path

/-! ### Stretches and components -/

/-- Every path has a stretch, if only an empty one. -/
theorem stretches_ne_nil (bytes : Bytes) : stretches bytes ≠ [] := by
  rcases bytes with - | ⟨b, bs⟩
  · exact List.cons_ne_nil _ _
  · rw [stretches]
    split
    · exact List.cons_ne_nil _ _
    · split <;> exact List.cons_ne_nil _ _

/-- The stretches of two byte strings with a slash between them. -/
theorem stretches_append (dir name : Bytes) :
    stretches (dir ++ slash :: name) = stretches dir ++ stretches name := by
  induction dir with
  | nil => rfl
  | cons b bs ih =>
      rw [List.cons_append, stretches, stretches, ih]
      split
      · rfl
      · cases hbs : stretches bs with
        | nil => exact absurd hbs (stretches_ne_nil bs)
        | cons first rest => rfl

/-- A byte string without slashes is one stretch. -/
theorem stretches_eq_singleton {name : Bytes} (h : slash ∉ name) : stretches name = [name] := by
  induction name with
  | nil => rfl
  | cons b bs ih =>
      rw [List.mem_cons, not_or] at h
      rw [stretches, if_neg (Ne.symm h.1), ih h.2]

/-- The stretches that give no component are the empty one and a single dot. -/
theorem component?_eq_none_iff {stretch : Bytes} :
    component? stretch = none ↔ stretch = [] ∨ stretch = [dot] := by
  rw [component?]
  split
  next h => exact iff_of_true rfl h
  next h => split <;> exact iff_of_false (by simp) h

/-- A component is spelled as it stands between slashes. -/
theorem spelling_of_component? {stretch : Bytes} {c : Component}
    (h : component? stretch = some c) : c.spelling = stretch := by
  rw [component?] at h
  split at h
  · exact absurd h (by simp)
  · split at h
    next hdots => exact Option.some.inj h ▸ hdots.symm
    next => exact Option.some.inj h ▸ rfl

/-- The components of what stands before a slash. Where nothing does, the slash is the root. -/
def directory (dir : Bytes) : List Component :=
  if dir = [] then [.root] else (Path.mk dir).components

/-- A path begins as the directory in it does. -/
theorem leading_append {dir : Bytes} (h : dir ≠ []) (name : Bytes) :
    (Path.mk (dir ++ slash :: name)).leading = (Path.mk dir).leading := by
  have habsolute : (Path.mk (dir ++ slash :: name)).isAbsolute = (Path.mk dir).isAbsolute :=
    congrArg (· == some slash) (List.head?_append_of_ne_nil dir h)
  have hfirst : (stretches (dir ++ slash :: name)).head? = (stretches dir).head? := by
    rw [stretches_append, List.head?_append_of_ne_nil _ (stretches_ne_nil dir)]
  rw [leading, leading, habsolute, hfirst]

/-- **The components on the two sides of a slash.** -/
theorem components_append (dir name : Bytes) :
    (Path.mk (dir ++ slash :: name)).components =
      directory dir ++ (stretches name).filterMap component? := by
  rw [components, stretches_append, List.filterMap_append, ← List.append_assoc, directory]
  split
  next h =>
    subst h
    rfl
  next h => rw [leading_append h, ← components]

/-- The last stretch of a path gives its last component, if it gives one at all. -/
theorem getLast?_components {p : Path} {name : Bytes} {c : Component} (before : List Bytes)
    (h : stretches p.bytes = before ++ [name]) (hc : component? name = some c) :
    p.components.getLast? = some c := by
  rw [components, h, List.filterMap_append, List.filterMap_cons, hc]
  simp

/-- A name is the last component of a path in whatever directory. -/
theorem getLast?_components_append (dir : Bytes) {name : Bytes} (hslash : slash ∉ name)
    (hname : name ≠ []) (hdot : name ≠ [dot]) :
    (Path.mk (dir ++ slash :: name)).components.getLast? =
      (Path.mk name).components.getLast? := by
  obtain ⟨c, hc⟩ : ∃ c, component? name = some c :=
    Option.ne_none_iff_exists'.mp (mt component?_eq_none_iff.mp (not_or.mpr ⟨hname, hdot⟩))
  have hone := stretches_eq_singleton hslash
  have hlast : stretches (dir ++ slash :: name) = stretches dir ++ [name] := by
    rw [stretches_append, hone]
  rw [getLast?_components (stretches dir) hlast hc, getLast?_components [] hone hc]

/-! ### Spellings of a path -/

/-- One step that makes the spelling of a path plainer. -/
inductive Tidies : Bytes → Bytes → Prop where
  /-- One of two adjacent slashes is dropped. -/
  | slashes (before after : Bytes) :
      Tidies (before ++ slash :: slash :: after) (before ++ slash :: after)
  /-- A slash at the end is dropped, unless it is the root. -/
  | trailingSlash {bytes : Bytes} (h : bytes ≠ []) : Tidies (bytes ++ [slash]) bytes
  /-- A `.` between slashes is dropped. -/
  | innerDot (before after : Bytes) :
      Tidies (before ++ slash :: dot :: slash :: after) (before ++ slash :: after)
  /-- A `.` after the last slash is dropped. -/
  | trailingDot (before : Bytes) : Tidies (before ++ [slash, dot]) (before ++ [slash])

/-- Two spellings that differ by such steps, each of them made or undone. -/
def Variants : Bytes → Bytes → Prop :=
  Relation.EqvGen Tidies

section

variable {bytes bytes' : Bytes}

/-- Tidying a path once makes a variant of it. -/
theorem Tidies.variants (h : Tidies bytes bytes') : Variants bytes bytes' :=
  .rel _ _ h

/-- No step changes the components. -/
theorem Tidies.components_eq (h : Tidies bytes bytes') :
    (Path.mk bytes).components = (Path.mk bytes').components := by
  cases h with
  | slashes before after =>
      rw [components_append, components_append]
      rfl
  | trailingSlash h =>
      rw [components_append, directory, if_neg h]
      exact List.append_nil _
  | innerDot before after =>
      rw [components_append, components_append]
      rfl
  | trailingDot before =>
      rw [components_append, components_append]
      rfl

/-- Variants have the same components. -/
theorem Variants.components_eq (h : Variants bytes bytes') :
    (Path.mk bytes).components = (Path.mk bytes').components := by
  induction h with
  | rel _ _ hstep => exact hstep.components_eq
  | refl bytes => rfl
  | symm _ _ _ ih => exact ih.symm
  | trans _ _ _ _ _ ih ih' => exact ih.trans ih'

/-- Tidying neither empties a path nor fills an empty one. -/
theorem Tidies.eq_nil_iff (h : Tidies bytes bytes') : bytes = [] ↔ bytes' = [] := by
  cases h with
  | trailingSlash h => simp [h]
  | _ => simp

/-- The empty path has no variants. -/
theorem Variants.eq_nil_iff (h : Variants bytes bytes') : bytes = [] ↔ bytes' = [] := by
  induction h with
  | rel _ _ hstep => exact hstep.eq_nil_iff
  | refl bytes => rfl
  | symm _ _ _ ih => exact ih.symm
  | trans _ _ _ _ _ ih ih' => exact ih.trans ih'

/-- A step at the end of a directory is one or two steps in the middle of a path. -/
theorem Tidies.child (h : Tidies bytes bytes') (name : Bytes) :
    Variants (bytes ++ slash :: name) (bytes' ++ slash :: name) := by
  cases h with
  | slashes before after =>
      rw [List.append_assoc, List.append_assoc]
      exact (Tidies.slashes before (after ++ slash :: name)).variants
  | trailingSlash h =>
      rw [List.append_assoc]
      exact (Tidies.slashes bytes' name).variants
  | innerDot before after =>
      rw [List.append_assoc, List.append_assoc]
      exact (Tidies.innerDot before (after ++ slash :: name)).variants
  | trailingDot before =>
      rw [List.append_assoc, List.append_assoc]
      exact .trans _ _ _ (Tidies.innerDot before name).variants
        (.symm _ _ (Tidies.slashes before name).variants)

/-- A name in two variants of a directory. -/
theorem Variants.child (h : Variants bytes bytes') (name : Bytes) :
    Variants (bytes ++ slash :: name) (bytes' ++ slash :: name) := by
  induction h with
  | rel _ _ hstep => exact hstep.child name
  | refl bytes => exact .refl _
  | symm _ _ _ ih => exact .symm _ _ ih
  | trans _ _ _ _ _ ih ih' => exact .trans _ _ _ ih ih'

end

/-! ### Plain spellings -/

/-- The plain spelling of a directory with a component added. -/
def extend (dir : Bytes) (c : Component) : Bytes :=
  if dir = [] ∨ dir = [slash] then dir ++ c.spelling else dir ++ slash :: c.spelling

/-- The plain spelling of a row of components. -/
def plain (row : List Component) : Bytes :=
  row.foldl extend []

/-- The last component of a row is spelled after the others. -/
theorem plain_concat (row : List Component) (c : Component) :
    plain (row ++ [c]) = extend (plain row) c := by
  rw [plain, List.foldl_append]
  rfl

/-- A second slash after the root is the only one that the plain spelling leaves out. -/
theorem variants_extend {dir : Bytes} (h : dir ≠ []) (c : Component) :
    Variants (dir ++ slash :: c.spelling) (extend dir c) := by
  by_cases hroot : dir = [slash]
  · rw [hroot]
    exact (Tidies.slashes [] c.spelling).variants
  · rw [extend, if_neg (not_or.mpr ⟨h, hroot⟩)]
    exact .refl _

/-- A path without slashes is spelled plainly. -/
theorem plain_components_of_notMem {name : Bytes} (h : slash ∉ name) :
    plain (Path.mk name).components = name := by
  by_cases hdot : name = [dot]
  · subst hdot
    rfl
  have habsolute : (Path.mk name).isAbsolute = false := by
    rw [isAbsolute, beq_eq_false_iff_ne]
    exact fun hhead => h (List.mem_of_head? hhead)
  have hleading : (Path.mk name).leading = [] := by
    simp [leading, habsolute, stretches_eq_singleton h, hdot]
  rw [components, hleading, stretches_eq_singleton h, List.nil_append]
  cases hc : component? name with
  | none =>
      obtain rfl | rfl := component?_eq_none_iff.mp hc
      · rfl
      · exact absurd rfl hdot
  | some c =>
      rw [List.filterMap_cons_some hc]
      exact spelling_of_component? hc

/-- Every path has no slash, or a last one. The bytes after the last slash that has been met so far
are kept apart. -/
theorem slash_induction {P : Bytes → Prop} (alone : ∀ name, slash ∉ name → P name)
    (child : ∀ dir name, slash ∉ name → P dir → P (dir ++ slash :: name)) (bytes : Bytes) :
    P bytes := by
  have hall : ∀ name, slash ∉ name → P (bytes ++ name) := by
    induction bytes using List.reverseRecOn with
    | nil => exact alone
    | append_singleton bytes b ih =>
        intro name hname
        rw [List.append_assoc, List.singleton_append]
        by_cases hb : b = slash
        · rw [hb]
          refine child bytes name hname ?_
          simpa using ih [] List.not_mem_nil
        · exact ih (b :: name) (by simp [hname, Ne.symm hb])
  simpa using hall [] List.not_mem_nil

/-- **Every path is a variant of the plain spelling of its components.** Where no component follows
the last slash, what does follow is dropped, and then the slash unless it is the root. -/
theorem variants_plain (bytes : Bytes) : Variants bytes (plain (Path.mk bytes).components) := by
  induction bytes using slash_induction with
  | alone name hname =>
      rw [plain_components_of_notMem hname]
      exact .refl name
  | child dir name hname ih =>
      rw [components_append, stretches_eq_singleton hname]
      cases hc : component? name with
      | none =>
          rw [List.filterMap_cons_none hc, List.filterMap_nil, List.append_nil]
          have hslash : Variants (dir ++ slash :: name) (dir ++ [slash]) := by
            obtain rfl | rfl := component?_eq_none_iff.mp hc
            · exact .refl _
            · exact (Tidies.trailingDot dir).variants
          refine .trans _ _ _ hslash ?_
          by_cases hdir : dir = []
          · subst hdir
            exact .refl _
          · rw [directory, if_neg hdir]
            exact .trans _ _ _ (Tidies.trailingSlash hdir).variants ih
      | some c =>
          rw [List.filterMap_cons_some hc, List.filterMap_nil, plain_concat]
          obtain rfl := spelling_of_component? hc
          by_cases hdir : dir = []
          · subst hdir
            exact .refl _
          · rw [directory, if_neg hdir]
            have hplain := mt ih.eq_nil_iff.mpr hdir
            exact .trans _ _ _ (ih.child c.spelling) (variants_extend hplain c)

/-- **Equivalent paths are variants of one spelling.** -/
theorem equivalent_iff_variants {p q : Path} :
    p.equivalent q = true ↔ Variants p.bytes q.bytes := by
  rw [equivalent, beq_iff_eq]
  refine ⟨fun h => ?_, Variants.components_eq⟩
  have hplain := variants_plain p.bytes
  rw [h] at hplain
  exact .trans _ _ _ hplain (.symm _ _ (variants_plain q.bytes))

/-! ### File names and extensions -/

/-- The file name of a path is its last component, if that is a name. -/
theorem fileName?_eq_some_iff {p : Path} {name : Bytes} :
    p.fileName? = some name ↔ p.components.getLast? = some (.name name) := by
  rw [fileName?]
  split
  next bytes h => simp [h]
  next hother => exact iff_of_false (by simp) (hother name)

/-- Bytes without dots are passed over in the search for the last dot. -/
theorem takeWhile_append_of_notMem {bytes : Bytes} (h : dot ∉ bytes) (rest : Bytes) :
    (bytes.reverse ++ rest).takeWhile (· != dot) =
      bytes.reverse ++ rest.takeWhile (· != dot) := by
  refine List.takeWhile_append_of_pos ?_
  intro b hb
  exact bne_iff_ne.mpr fun hdot => h (hdot ▸ List.mem_reverse.mp hb)

/-- The extension of a name with a dot, unless nothing stands before its last dot. -/
theorem extensionOf?_append (stem : Bytes) {extension : Bytes} (h : dot ∉ extension) :
    extensionOf? (stem ++ dot :: extension) = if stem = [] then none else some extension := by
  have hlast : ((stem ++ dot :: extension).reverse.takeWhile (· != dot)).reverse = extension := by
    rw [List.reverse_append, List.reverse_cons, List.append_assoc, takeWhile_append_of_notMem h,
      List.singleton_append, List.takeWhile_cons_of_neg (by simp), List.append_nil,
      List.reverse_reverse]
  have hlength : extension.length + 1 < (stem ++ dot :: extension).length ↔ stem ≠ [] := by
    rw [List.length_append, List.length_cons, ← List.length_pos_iff]
    omega
  rw [extensionOf?, hlast]
  simp only [hlength, ne_eq, ite_not]

/-- A name without a dot has no extension. -/
theorem extensionOf?_of_notMem {name : Bytes} (h : dot ∉ name) : extensionOf? name = none := by
  have hall := takeWhile_append_of_notMem h []
  simp only [List.takeWhile_nil, List.append_nil] at hall
  simp [extensionOf?, hall]

/-- An extension follows the last dot of a name, and something stands before that dot. -/
theorem extensionOf?_eq_some_iff {name extension : Bytes} :
    extensionOf? name = some extension ↔
      ∃ stem, name = stem ++ dot :: extension ∧ stem ≠ [] ∧ dot ∉ extension := by
  constructor
  · intro h
    have hdot : dot ∈ name := by
      by_contra hdot
      rw [extensionOf?_of_notMem hdot] at h
      exact absurd h (by simp)
    obtain ⟨after, before, hsplit, hafter⟩ :=
      List.eq_append_cons_of_mem (List.mem_reverse.mpr hdot)
    have hname : name = before.reverse ++ dot :: after.reverse := by
      rw [← List.reverse_reverse name, hsplit]
      simp
    have hlast : dot ∉ after.reverse := mt List.mem_reverse.mp hafter
    rw [hname, extensionOf?_append _ hlast] at h
    split at h
    next => exact absurd h (by simp)
    next hstem =>
      obtain rfl := Option.some.inj h
      exact ⟨before.reverse, hname, hstem, hlast⟩
  · rintro ⟨stem, rfl, hstem, hdot⟩
    rw [extensionOf?_append stem hdot, if_neg hstem]

/-- The extension of a path is that of its last component. -/
theorem extension?_of_getLast? {p : Path} {name : Bytes}
    (h : p.components.getLast? = some (.name name)) : p.extension? = extensionOf? name := by
  rw [extension?, fileName?_eq_some_iff.mpr h, Option.bind_some]

/-- **The extension of a path** follows the last dot of its last component. -/
theorem extension?_eq_some_iff {p : Path} {extension : Bytes} :
    p.extension? = some extension ↔
      ∃ stem, p.components.getLast? = some (.name (stem ++ dot :: extension)) ∧
        stem ≠ [] ∧ dot ∉ extension := by
  simp only [extension?, Option.bind_eq_some_iff, fileName?_eq_some_iff, extensionOf?_eq_some_iff]
  constructor
  · rintro ⟨name, hlast, stem, rfl, hstem, hdot⟩
    exact ⟨stem, hlast, hstem, hdot⟩
  · rintro ⟨stem, hlast, hstem, hdot⟩
    exact ⟨_, hlast, stem, rfl, hstem, hdot⟩

/-- A last component that has no extension, or an empty one. -/
inductive Bare : Component → Prop where
  /-- A `..`. -/
  | parent : Bare .parent
  /-- A name with a dot in front and no other dot. -/
  | hidden {name : Bytes} (h : dot ∉ name) : Bare (.name (dot :: name))
  /-- A name with a dot at its end. -/
  | trailingDot (stem : Bytes) : Bare (.name (stem ++ [dot]))

/-- What a bare component has for an extension is empty. -/
theorem Bare.extension_eq_nil {c : Component} (hc : Bare c) {p : Path} {extension : Bytes}
    (hlast : p.components.getLast? = some c) (h : p.extension? = some extension) :
    extension = [] := by
  cases hc with
  | parent =>
      rw [extension?, fileName?, hlast] at h
      exact absurd h (by simp)
  | hidden hhidden =>
      have hnone := extensionOf?_append [] hhidden
      rw [List.nil_append, if_pos rfl] at hnone
      rw [extension?_of_getLast? hlast, hnone] at h
      exact absurd h (by simp)
  | trailingDot stem =>
      rw [extension?_of_getLast? hlast, extensionOf?_append stem List.not_mem_nil] at h
      split at h
      · exact absurd h (by simp)
      · exact (Option.some.inj h).symm

end Path

/-! ### Decisions about paths -/

/-- Only the last component of a path names the guard. -/
theorem GuardName.ofPath_congr {p q : Path} (h : p.components.getLast? = q.components.getLast?) :
    ofPath p = ofPath q := by
  rw [ofPath, ofPath, Path.fileName?, Path.fileName?, h]

namespace Target

/-- No extension belongs to two targets. -/
theorem eq_of_mem_extensions {t t' : Target} {extension : String}
    (h : extension ∈ t.extensions) (h' : extension ∈ t'.extensions) : t = t' := by
  have hcpp : ∀ e ∈ Target.cpp.extensions, e ∉ Target.rust.extensions := by decide
  cases t <;> cases t'
  · rfl
  · exact absurd h' (hcpp extension h)
  · exact absurd h (hcpp extension h')
  · rfl

/-- **A target takes the paths with one of its extensions**, in small or capital letters. -/
theorem matchesPath_iff {t : Target} {p : Path} :
    t.matchesPath p = true ↔
      ∃ extension, p.extension? = some extension ∧
        extension.map Utf8.lowerByte ∈ t.extensions.map Utf8.encode := by
  have hlower (extension : Bytes) :
      extension.map Utf8.lowerByte ∈ t.extensions.map Utf8.encode ↔
        ∃ text, Utf8.decode? extension = some text ∧ text.toLower ∈ t.extensions := by
    simp only [List.mem_map, eq_comm (b := extension.map Utf8.lowerByte),
      Utf8.map_lowerByte_eq_encode_iff, Option.map_eq_some_iff]
    constructor
    · rintro ⟨-, hmem, text, htext, rfl⟩
      exact ⟨text, htext, hmem⟩
    · rintro ⟨text, htext, hmem⟩
      exact ⟨_, hmem, text, htext, rfl⟩
  simp only [matchesPath, Option.any_eq_true, Option.bind_eq_some_iff, List.contains_iff_mem,
    hlower]
  constructor
  · rintro ⟨text, ⟨extension, hextension, htext⟩, hmem⟩
    exact ⟨extension, hextension, text, htext, hmem⟩
  · rintro ⟨extension, hextension, text, htext, hmem⟩
    exact ⟨text, ⟨extension, hextension, htext⟩, hmem⟩

/-- Only the last component of a path decides whether a target takes it. -/
theorem matchesPath_congr {p q : Path} (h : p.components.getLast? = q.components.getLast?)
    (t : Target) : t.matchesPath p = t.matchesPath q := by
  rw [matchesPath, matchesPath, Path.extension?, Path.extension?, Path.fileName?, Path.fileName?, h]

/-- No target takes a path whose last component is bare. -/
theorem matchesPath_of_bare {c : Component} (hc : Path.Bare c) {p : Path}
    (hlast : p.components.getLast? = some c) (t : Target) : t.matchesPath p = false := by
  have hnonempty : [] ∉ t.extensions.map Utf8.encode := by cases t <;> decide +kernel
  refine Bool.eq_false_iff.mpr fun h => ?_
  obtain ⟨extension, hextension, hmem⟩ := matchesPath_iff.mp h
  rw [hc.extension_eq_nil hlast hextension, List.map_nil] at hmem
  exact hnonempty hmem

/-- Two targets never take the same path. -/
theorem eq_of_matchesPath {t t' : Target} {p : Path} (h : t.matchesPath p = true)
    (h' : t'.matchesPath p = true) : t = t' := by
  obtain ⟨extension, hextension, hmem⟩ := matchesPath_iff.mp h
  obtain ⟨extension', hextension', hmem'⟩ := matchesPath_iff.mp h'
  obtain rfl : extension = extension' := Option.some.inj (hextension.symm.trans hextension')
  obtain ⟨text, htext, hbytes⟩ := List.mem_map.mp hmem
  obtain ⟨text', htext', hbytes'⟩ := List.mem_map.mp hmem'
  obtain rfl : text = text' := Utf8.eq_of_encode_eq (hbytes.trans hbytes'.symm)
  exact eq_of_mem_extensions htext htext'

end Target

/-- A request is refused exactly if its paths are equivalent. -/
theorem Request.validate_eq_error_iff {r : Request} :
    r.validate = .error (.overwrites r.output) ↔ r.messages.equivalent r.output = true := by
  rw [validate]
  split
  next h => exact iff_of_true rfl h
  next h => exact iff_of_false (by simp) h

/-- **All decisions about paths agree on what a path is.** Take any bytes as a path.

* A request refuses the path beside another one exactly if the two are spelled alike up to
  repeated and trailing slashes and to inner and trailing dots; and then they have the same guard,
  and each target takes both or neither.
* A target takes the path exactly if its last component is a name, something stands before the
  last dot of this name, and what follows the dot is, in small letters, an extension of the target.
  Hence it takes no `..`, no name whose only dot comes first, and no name with a dot at its end.
* The two targets never both take the path. -/
theorem path_decisions_agree (p : Path) :
    (∀ (q : Path) (options : Options),
      let r : Request := { messages := p, output := q, options }
      (r.validate = .error (.overwrites q) ↔ Path.Variants p.bytes q.bytes) ∧
        (r.validate = .error (.overwrites q) →
          GuardName.ofPath p = GuardName.ofPath q ∧
            ∀ t : Target, t.matchesPath p = t.matchesPath q)) ∧
    (∀ t : Target, t.matchesPath p = true ↔
      ∃ stem extension : Bytes,
        p.components.getLast? = some (.name (stem ++ Path.dot :: extension)) ∧ stem ≠ [] ∧
          Path.dot ∉ extension ∧
          extension.map Utf8.lowerByte ∈ t.extensions.map Utf8.encode) ∧
    (∀ (t : Target) (c : Component), p.components.getLast? = some c → Path.Bare c →
      t.matchesPath p = false) ∧
    ¬ (Target.cpp.matchesPath p = true ∧ Target.rust.matchesPath p = true) := by
  refine ⟨?_, ?_, fun t c hlast hc => Target.matchesPath_of_bare hc hlast t, ?_⟩
  · intro q options r
    have hrefused : r.validate = .error (.overwrites q) ↔ p.equivalent q = true :=
      Request.validate_eq_error_iff
    refine ⟨hrefused.trans Path.equivalent_iff_variants, fun h => ?_⟩
    have hcomponents : p.components = q.components := beq_iff_eq.mp (hrefused.mp h)
    have hlast := congrArg List.getLast? hcomponents
    exact ⟨GuardName.ofPath_congr hlast, Target.matchesPath_congr hlast⟩
  · intro t
    rw [Target.matchesPath_iff]
    simp only [Path.extension?_eq_some_iff]
    constructor
    · rintro ⟨extension, ⟨stem, hlast, hstem, hdot⟩, hmem⟩
      exact ⟨stem, extension, hlast, hstem, hdot, hmem⟩
    · rintro ⟨stem, extension, hlast, hstem, hdot, hmem⟩
      exact ⟨extension, ⟨stem, hlast, hstem, hdot⟩, hmem⟩
  · rintro ⟨hcpp, hrust⟩
    exact absurd (Target.eq_of_matchesPath hcpp hrust) (by decide)

/-- Two spellings of a file whose name has a byte that is no text, a second dot and a capital in its
extension; and a hidden file that is called as an extension is. -/
theorem path_decisions_agree_untidy :
    let name : Bytes := 0xFF :: Utf8.encode ".v2.Hpp"
    let p : Path := ⟨Utf8.encode "gen//./" ++ name ++ Utf8.encode "/"⟩
    let q : Path := ⟨Utf8.encode "gen/" ++ name ++ Utf8.encode "//."⟩
    let hidden : Path := .ofString "gen/.hpp/"
    let last : Component := .name (Path.dot :: Utf8.encode "hpp")
    ((Request.mk p q {}).validate = .error (.overwrites q) ∧ Path.Variants p.bytes q.bytes) ∧
      (GuardName.ofPath q = "V2_HPP" ∧ GuardName.ofPath p = "V2_HPP") ∧
      (Target.cpp.matchesPath q = true ∧ Target.cpp.matchesPath p = true) ∧
      (hidden.components.getLast? = some last ∧ Path.Bare last ∧
        Target.cpp.matchesPath hidden = false) := by
  intro name p q hidden last
  have hrefused : (Request.mk p q {}).validate = .error (.overwrites q) := by decide +kernel
  have hguard : GuardName.ofPath q = "V2_HPP" := by decide +kernel
  obtain ⟨hspelled, hsame⟩ := (path_decisions_agree p).1 q {}
  obtain ⟨hguards, htargets⟩ := hsame hrefused
  have hcpp : Target.cpp.matchesPath q = true :=
    ((path_decisions_agree q).2.1 .cpp).mpr
      ⟨0xFF :: Utf8.encode ".v2", Utf8.encode "Hpp", by decide +kernel, by decide +kernel,
        by decide +kernel, by decide +kernel⟩
  have hlast : hidden.components.getLast? = some last := by decide +kernel
  have hbare : Path.Bare last := .hidden (by decide +kernel)
  exact ⟨⟨hrefused, hspelled.mp hrefused⟩, ⟨hguard, hguards.trans hguard⟩,
    ⟨hcpp, (htargets .cpp).trans hcpp⟩, hlast, hbare,
    (path_decisions_agree hidden).2.2.1 .cpp last hlast hbare⟩

end Phrasebook
