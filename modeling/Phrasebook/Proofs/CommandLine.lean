import Phrasebook.CommandLine.Run
import Phrasebook.Proofs.Files.Overwriting
import Phrasebook.Proofs.Options

/-!
# What the command line does to files

Many things can be in the way of a compilation from the command line: the options file, the name of
a target or of a guard style, and the two paths. Each of them is found on its own here, without
regard to the others, and they are put in the order in which a run comes to them
(`Arguments.problems`). A run with anything in its way reports the first of these problems and
touches no file. Any other run is a compilation of files.

The options of that compilation are settled one by one: a target or a guard style by its flag if
there is one, else by the options file, else by the default. A flag can make a run strict and never
lenient, and it can silence the lints and never bring them back (`Arguments.Settled`).

## Main results

* `execute_cases`: the first failure of a request, or what it does.
* `Arguments.options_cases`: the first problem with the options, or what the options are.
* `Arguments.run_cases`: the first problem of a run, or what it does.
* `run_touches_output_only`: what a run does to files, and what it reports.
-/

namespace Phrasebook

/-! ### Requests -/

/-- The error of a step, if it has failed. -/
def error? {ε α : Type} : Except ε α → Option ε
  | .error e => some e
  | .ok _ => none

/-- What is in the way of a compilation of files: the paths are equivalent, the message file cannot
be opened, the output cannot be created. -/
def Disk.failures (d : Disk) (messages output : Path) : List Failure :=
  [if messages.equivalent output then some (.overwrites output) else none,
    (error? (d.locate messages)).map .access,
    (error? (d.locateNew output)).map .access].filterMap id

/-- **The first failure of a request ends it, and if there is none its files are compiled.** A
request that fails touches nothing, and any other changes nothing but its output. -/
theorem execute_cases (d : Disk) (r : Request) :
    (∃ failure others, d.failures r.messages r.output = failure :: others ∧
      (r.execute Disk.access d).1.result = .error failure ∧ (r.execute Disk.access d).2 = d) ∨
    (d.failures r.messages r.output = [] ∧
      r.execute Disk.access d = compileFile Disk.access r.messages r.output r.options d ∧
      ∃ target, d.locateNew r.output = .ok target ∧
        ∀ loc, loc ≠ target → (r.execute Disk.access d).2.get? loc = d.get? loc) := by
  rw [Disk.failures]
  cases hequivalent : r.messages.equivalent r.output with
  | true =>
      rw [Request.execute_of_equivalent hequivalent]
      exact .inl ⟨_, _, rfl, rfl, rfl⟩
  | false =>
      rw [Request.execute_of_not_equivalent hequivalent]
      cases hsource : d.locate r.messages with
      | error error =>
          rw [compileFile_of_not_opened r.options hsource]
          exact .inl ⟨_, _, rfl, rfl, rfl⟩
      | ok source =>
          cases htarget : d.locateNew r.output with
          | error error =>
              rw [compileFile_of_not_created r.options hsource htarget]
              exact .inl ⟨_, _, rfl, rfl, rfl⟩
          | ok target =>
              rw [compileFile_of_opened r.options hsource htarget]
              exact .inr ⟨rfl, rfl, target, rfl, fun loc hloc => Disk.get?_set_of_ne _ hloc⟩

/-! ### Options files -/

/-- The text of the file that a path leads to, or why it cannot be read. -/
def Disk.document (d : Disk) (p : Path) : Except AccessError String := do
  let loc ← d.locate p
  let bytes ← d.content loc
  match Utf8.decode? bytes with
  | some text => return text
  | none => .error .invalidText

/-- Loading options touches nothing, and gives those of the text that stands there. -/
theorem loadOptions_apply (d : Disk) (p : Path) :
    loadOptions Disk.access p d =
      ((d.document p).mapError .access >>= fun document =>
        (Options.ofDocument document).mapError .options, d) := by
  cases hloc : d.locate p with
  | error error =>
      simp only [loadOptions, Disk.access, Disk.openSource, Disk.document, bind, StateT.bind,
        Except.bind, Disk.pure_apply, hloc, Except.mapError]
  | ok loc =>
      cases hbytes : d.content loc with
      | error error =>
          simp only [loadOptions, Disk.access, Disk.openSource, Disk.readAll, Disk.document, bind,
            StateT.bind, Except.bind, Disk.pure_apply, hloc, hbytes, Except.mapError]
      | ok bytes =>
          cases hdocument : Utf8.decode? bytes with
          | none =>
              simp only [loadOptions, Disk.access, Disk.openSource, Disk.readAll, Disk.document,
                bind, StateT.bind, Except.bind, Disk.pure_apply, hloc, hbytes, hdocument,
                Except.mapError]
          | some document =>
              simp only [loadOptions, Disk.access, Disk.openSource, Disk.readAll, Disk.document,
                bind, StateT.bind, Except.bind, Disk.pure_apply, hloc, hbytes, hdocument,
                Except.mapError]
              rfl

namespace CommandLine.Arguments

/-- The options before the arguments override them, on a disk. -/
def configOptions (d : Disk) (a : Arguments) : Except Problem Options :=
  match a.config with
  | none => .ok {}
  | some path =>
    ((d.document path).mapError .access >>= fun document =>
      (Options.ofDocument document).mapError .options).mapError (.config path)

/-- The entries of the options file: none if there is no such file. -/
def configEntries (d : Disk) (a : Arguments) : Settings.Entries :=
  match a.config with
  | none => []
  | some path =>
    match d.document path with
    | .ok document => (Settings.read? document).getD []
    | .error _ => []

/-- Reading the configuration leaves the disk as it is. -/
theorem baseOptions_apply (d : Disk) (a : Arguments) :
    a.baseOptions Disk.access d = (a.configOptions d, d) := by
  rw [baseOptions, configOptions]
  cases a.config with
  | none => rfl
  | some path => simp only [bind, StateT.bind, loadOptions_apply, Disk.pure_apply]

/-- The options of an options file are what its entries say. -/
theorem follows_configOptions {d : Disk} {a : Arguments} {options : Options}
    (h : a.configOptions d = .ok options) : Options.Follows (a.configEntries d) {} options := by
  rw [configOptions] at h
  rw [configEntries]
  cases hconfig : a.config with
  | none =>
      rw [hconfig] at h
      obtain rfl := Except.ok.inj h
      exact ⟨rfl, rfl, rfl, rfl⟩
  | some path =>
      rw [hconfig] at h
      obtain ⟨document, hdocument, hread⟩ :=
        Options.exists_of_bind_eq_ok (Options.eq_ok_of_mapError_eq_ok h)
      simp only [Options.eq_ok_of_mapError_eq_ok hdocument]
      exact Options.follows_ofDocument (Options.eq_ok_of_mapError_eq_ok hread)

/-! ### Flags over options -/

/-- What is wrong with the name that a flag gives, if it is not known. -/
def nameProblem? {α : Type} (parse : String → Except UnknownName α)
    (problem : String → UnknownName → Problem) (flag : Option String) : Option Problem :=
  flag.bind fun name => (error? (parse name)).map (problem name)

/-- A value is the one that a flag names; without the flag it is as said otherwise. -/
def FlagOr {α : Type} (parse : String → Except UnknownName α) (flag : Option String)
    (otherwise : α → Prop) (value : α) : Prop :=
  match flag with
  | some name => parse name = .ok value
  | none => otherwise value

/-- Options are those that the flags and the options file ask for, each for itself. -/
structure Settled (d : Disk) (a : Arguments) (options : Options) : Prop where
  target : FlagOr Target.ofName a.target
    (Options.Settles (Options.choice Target.ofAlias? .unknownTarget)
      (Options.said? (a.configEntries d) "target") .cpp) options.target
  guard : FlagOr GuardStyle.ofName a.guard
    (Options.Settles (Options.choice Options.guardNamed? .unknownGuard)
      (Options.said? (a.configEntries d) "guard") .pragma) options.guard
  strict : options.strict = true ↔
    a.strict = true ∨ Options.said? (a.configEntries d) "strict" = some (.flag true)
  lint : options.lint = false ↔
    a.noLint = true ∨ Options.said? (a.configEntries d) "lint" = some (.flag false)

/-- What is in the way of settling the options: the options file cannot be read or is refused, the
target is not known, the guard style is not known. -/
def optionProblems (d : Disk) (a : Arguments) : List Problem :=
  [error? (a.configOptions d), nameProblem? Target.ofName .target a.target,
    nameProblem? GuardStyle.ofName .guard a.guard].filterMap id

/-- Everything that is in the way of a compilation, in the order in which a run comes to it. -/
def problems (d : Disk) (a : Arguments) : List Problem :=
  a.optionProblems d ++
    (d.failures a.messages a.output).map (.compilation a.messages a.output)

/-- The value of a flag, or else the one that is there. -/
def overridden {α : Type} (parse : String → Except UnknownName α)
    (problem : String → UnknownName → Problem) (flag : Option String) (value : α) :
    Except Problem α :=
  match flag with
  | none => pure value
  | some name => (parse name).mapError (problem name)

/-- The names among the arguments go before those of the configuration; the switches can only make
the options strict or turn the examination of messages off. -/
theorem override_eq (a : Arguments) (options : Options) :
    a.override options = (do
      let target ← overridden Target.ofName .target a.target options.target
      let guard ← overridden GuardStyle.ofName .guard a.guard options.guard
      return { target, guard, strict := options.strict || a.strict
               lint := options.lint && !a.noLint }) := by
  rw [override]
  cases a.target <;> cases a.guard <;> rfl

/-- A flag that names nothing known is a problem. Otherwise it gives the value, or it is not there
and the value is the old one. -/
theorem overridden_cases {α : Type} (parse : String → Except UnknownName α)
    (problem : String → UnknownName → Problem) (flag : Option String) {otherwise : α → Prop}
    {old : α} (hold : otherwise old) :
    (∃ p, overridden parse problem flag old = .error p ∧
      nameProblem? parse problem flag = some p) ∨
    (∃ value, overridden parse problem flag old = .ok value ∧
      nameProblem? parse problem flag = none ∧ FlagOr parse flag otherwise value) := by
  rcases flag with - | name
  · exact .inr ⟨old, rfl, rfl, hold⟩
  · rw [overridden, nameProblem?, Option.bind_some]
    cases hname : parse name with
    | error error => exact .inl ⟨problem name error, rfl, rfl⟩
    | ok value => exact .inr ⟨value, rfl, rfl, hname⟩

/-- The options of a run are those of the options file, overridden. Finding them touches nothing. -/
theorem options_apply (d : Disk) (a : Arguments) :
    a.options Disk.access d = (a.configOptions d >>= a.override, d) := by
  simp only [options, bind, StateT.bind, baseOptions_apply]
  cases a.configOptions d <;> rfl

/-- **The first problem with the options ends their search, and if there is none they are
settled.** -/
theorem options_cases (d : Disk) (a : Arguments) :
    (∃ problem others, a.optionProblems d = problem :: others ∧
      a.configOptions d >>= a.override = .error problem) ∨
    (a.optionProblems d = [] ∧
      ∃ options, a.configOptions d >>= a.override = .ok options ∧ a.Settled d options) := by
  rw [optionProblems]
  cases hconfig : a.configOptions d with
  | error problem => exact .inl ⟨problem, _, rfl, rfl⟩
  | ok base =>
      have hfollows := follows_configOptions hconfig
      have hrun : (Except.ok base : Except Problem Options) >>= a.override = a.override base := rfl
      rw [hrun, override_eq]
      obtain ⟨problem, htarget, hproblem⟩ | ⟨target, htarget, hproblem, htargeted⟩ :=
        overridden_cases Target.ofName .target a.target hfollows.target
      · rw [htarget, hproblem]
        exact .inl ⟨problem, _, rfl, rfl⟩
      rw [htarget, hproblem]
      obtain ⟨problem, hguard, hproblem⟩ | ⟨guard, hguard, hproblem, hguarded⟩ :=
        overridden_cases GuardStyle.ofName .guard a.guard hfollows.guard
      · rw [hguard, hproblem]
        exact .inl ⟨problem, _, rfl, rfl⟩
      rw [hguard, hproblem]
      have hstrict := Options.settles_truth_iff hfollows.strict
      have hlint := Options.settles_truth_iff hfollows.lint
      refine .inr ⟨rfl, _, rfl, htargeted, hguarded, ?_, ?_⟩
      · rw [Bool.or_eq_true, or_comm]
        exact or_congr_right hstrict
      · rw [Bool.and_eq_false_iff, or_comm, Bool.not_eq_false']
        exact or_congr_right hlint

/-! ### Runs -/

/-- A run whose options are not settled reports the problem and touches nothing. -/
theorem run_of_error {d : Disk} {a : Arguments} {problem : Problem}
    (h : a.configOptions d >>= a.override = .error problem) :
    a.run Disk.access d = ({ ending := .problem, complaint := problem.text }, d) := by
  simp only [run, bind, StateT.bind, options_apply] at h ⊢
  rw [h]
  rfl

/-- A run whose options are settled carries out its request. -/
theorem run_of_ok {d : Disk} {a : Arguments} {options : Options}
    (h : a.configOptions d >>= a.override = .ok options) :
    a.run Disk.access d =
      (a.transcript (a.request options) ((a.request options).execute Disk.access d).1,
        ((a.request options).execute Disk.access d).2) := by
  simp only [run, bind, StateT.bind, options_apply] at h ⊢
  rw [h]
  rfl

/-- The transcript of a request that has failed. -/
theorem transcript_of_error {a : Arguments} {r : Request} {report : Report} {failure : Failure}
    (h : report.result = .error failure) :
    (a.transcript r report).ending = .problem ∧
      (a.transcript r report).complaint = (Problem.compilation r.messages r.output failure).text := by
  simp [transcript, h]

/-- A run ends well exactly if its request has succeeded. -/
theorem exitCode_transcript_eq_zero_iff (a : Arguments) (r : Request) (report : Report) :
    (a.transcript r report).ending.exitCode = 0 ↔ ∃ summary, report.result = .ok summary := by
  cases h : report.result with
  | error failure =>
      rw [(transcript_of_error h).1]
      simp [Ending.exitCode]
  | ok summary => simp [transcript, h, Ending.exitCode]

/-- **The first problem ends a run, and if there is none its files are compiled.** -/
theorem run_cases (d : Disk) (a : Arguments) :
    (∃ problem others, a.problems d = problem :: others ∧
      (a.run Disk.access d).1.ending = .problem ∧
      (a.run Disk.access d).1.complaint = problem.text ∧ (a.run Disk.access d).2 = d) ∨
    (a.problems d = [] ∧ ∃ options, a.Settled d options ∧
      let r := a.request options
      a.run Disk.access d =
        (a.transcript r (r.execute Disk.access d).1, (r.execute Disk.access d).2) ∧
      r.execute Disk.access d = compileFile Disk.access r.messages r.output options d ∧
      ∃ target, d.locateNew r.output = .ok target ∧
        ∀ loc, loc ≠ target → (r.execute Disk.access d).2.get? loc = d.get? loc) := by
  rw [problems]
  obtain ⟨problem, others, hproblems, herror⟩ | ⟨hproblems, options, hoptions, hsettled⟩ :=
    a.options_cases d
  · rw [hproblems, run_of_error herror]
    exact .inl ⟨problem, _, rfl, rfl, rfl, rfl⟩
  · rw [hproblems, List.nil_append, run_of_ok hoptions]
    obtain ⟨failure, others, hfailures, hresult, hafter⟩ | ⟨hfailures, hexecute, hframe⟩ :=
      execute_cases d (a.request options)
    · obtain ⟨hending, hcomplaint⟩ := transcript_of_error (a := a) (r := a.request options) hresult
      exact .inl ⟨_, _, congrArg (List.map _) hfailures, hending, hcomplaint, hafter⟩
    · exact .inr ⟨congrArg (List.map _) hfailures, options, hsettled, rfl, hexecute, hframe⟩

end CommandLine.Arguments

/-! ### The main result -/

namespace CommandLine

/-- **A run touches its output only, and only once nothing is in its way.** For every disk and all
arguments, whatever their bytes:

* If the arguments cannot be accepted, or ask for the help or the version, nothing is touched.
* If anything is in the way of a compilation, nothing is touched, and the problem that is reported is
  the first one: the options file, the target, the guard style, equivalent paths, the message file,
  the output.
* Otherwise the disk is as compiling the files leaves it, with the options that the flags and the
  options file ask for, each for itself. Nothing but the file that the output path leads to has
  changed, and the exit code is zero exactly if the files were compiled without a failure. -/
theorem run_touches_output_only (d : Disk) (args : List Bytes) :
    let transcript := (run Disk.access args d).1
    let after := (run Disk.access args d).2
    match Invocation.ofArguments args with
    | .misused => after = d ∧ transcript.ending.exitCode = 2
    | .help => after = d ∧ transcript.ending.exitCode = 0 ∧ transcript.output = helpText
    | .version => after = d ∧ transcript.ending.exitCode = 0 ∧ transcript.output = versionText
    | .compile a =>
      match a.problems d with
      | problem :: _ =>
        after = d ∧ transcript.ending.exitCode = 1 ∧ transcript.complaint = problem.text
      | [] =>
        ∃ options target, a.Settled d options ∧
          after = (compileFile Disk.access a.messages a.output options d).2 ∧
          d.locateNew a.output = .ok target ∧
          (∀ loc, loc ≠ target → after.get? loc = d.get? loc) ∧
          (transcript.ending.exitCode = 0 ↔ ∃ summary,
            (compileFile Disk.access a.messages a.output options d).1.result = .ok summary) := by
  intro transcript after
  cases hinvocation : Invocation.ofArguments args with
  | misused => simp [transcript, after, run, hinvocation, Disk.pure_apply, Ending.exitCode]
  | help => simp [transcript, after, run, hinvocation, Disk.pure_apply, Ending.exitCode]
  | version => simp [transcript, after, run, hinvocation, Disk.pure_apply, Ending.exitCode]
  | compile a =>
      have hrun : run Disk.access args = a.run Disk.access := by
        rw [run, hinvocation]
      simp only [transcript, after, hrun]
      obtain ⟨problem, others, hproblems, hending, hcomplaint, hafter⟩ |
        ⟨hproblems, options, hsettled, hran, hexecute, target, htarget, hframe⟩ := a.run_cases d
      · rw [hproblems, hending, hcomplaint, hafter]
        exact ⟨rfl, rfl, rfl⟩
      · rw [hproblems, hran]
        refine ⟨options, target, hsettled, congrArg Prod.snd hexecute, htarget, hframe, ?_⟩
        rw [Arguments.exitCode_transcript_eq_zero_iff, hexecute]
        rfl

/-- Two runs on one disk. One has everything in its way, and of its six problems it reports the
options file. The other overrides its options file by flags, writes to a path that is no text, and
keeps its message file. -/
theorem run_touches_output_only_flags :
    let messages : Location := [Utf8.encode "w", Utf8.encode "a.msg"]
    let d : Disk :=
      { entries := [([Utf8.encode "w"], .directory), (messages, .file (Utf8.encode "m x\n")),
          ([Utf8.encode "w", Utf8.encode "o.toml"],
            .file (Utf8.encode "target = \"rust\"\nlint = false\n"))]
        workingDirectory := [Utf8.encode "w"] }
    let output : Path := ⟨0xFF :: Utf8.encode ".hpp"⟩
    let hindered :=
      ["--msgfile=n/a", "--hppfile=n/a", "--config=c", "--target=t", "--guard=g"].map Utf8.encode
    let unhindered :=
      ["--strict", "--msgfile=a.msg", "--target=cpp", "--config=o.toml", "--hppfile"].map
        Utf8.encode ++ [output.bytes]
    ((run Disk.access hindered d).2 = d ∧
      (run Disk.access hindered d).1.complaint =
        (Problem.config (.ofString "c") (.access .notFound)).text) ∧
    ∃ options : Options, (options.target = .cpp ∧ options.strict = true ∧ options.lint = false) ∧
      (run Disk.access unhindered d).2 =
        (compileFile Disk.access (.ofString "a.msg") output options d).2 ∧
      (run Disk.access unhindered d).2.get? messages = some (.file (Utf8.encode "m x\n")) := by
  intro messages d output hindered unhindered
  let first : Arguments :=
    { messages := .ofString "n/a", output := .ofString "n/a", config := some (.ofString "c")
      target := some "t", guard := some "g" }
  let second : Arguments :=
    { messages := .ofString "a.msg", output, config := some (.ofString "o.toml")
      target := some "cpp", strict := true }
  have hfirst : Invocation.ofArguments hindered = .compile first := by decide +kernel
  have hsecond : Invocation.ofArguments unhindered = .compile second := by decide +kernel
  obtain ⟨others, hothers⟩ : ∃ others, first.problems d =
      .config (.ofString "c") (.access .notFound) :: others :=
    ⟨(first.problems d).tail, by decide +kernel⟩
  have hnone : second.problems d = [] := by decide +kernel
  have hconfig : second.configOptions d = .ok { target := .rust, lint := false } := by
    decide +kernel
  have hother : d.locateNew output ≠ .ok messages := by decide +kernel
  have hmessages : d.get? messages = some (.file (Utf8.encode "m x\n")) := by decide +kernel
  have hname : Target.ofName "cpp" = .ok .cpp := by decide +kernel
  clear_value d hindered unhindered
  have hrefused := run_touches_output_only d hindered
  have hcarried := run_touches_output_only d unhindered
  simp only [hfirst, hothers] at hrefused
  simp only [hsecond, hnone] at hcarried
  obtain ⟨hkept, -, hcomplaint⟩ := hrefused
  obtain ⟨options, target, hsettled, hafter, htarget, hframe, -⟩ := hcarried
  have hcpp : options.target = .cpp := Except.ok.inj (hsettled.target.symm.trans hname)
  have hlint := (Options.settles_truth_iff (Arguments.follows_configOptions hconfig).lint).mp rfl
  have hkeeps : messages ≠ target := by
    rintro rfl
    exact hother htarget
  exact ⟨⟨hkept, hcomplaint⟩, options,
    ⟨hcpp, hsettled.strict.mpr (.inl rfl), hsettled.lint.mpr (.inr hlint)⟩, hafter,
    (hframe messages hkeeps).trans hmessages⟩

end CommandLine

end Phrasebook
