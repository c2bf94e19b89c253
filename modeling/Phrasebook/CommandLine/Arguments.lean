import Phrasebook.Path

/-!
# Arguments

The arguments of the command line are byte strings. They are read from left to right, and
the first thing that decides ends the reading: an argument that cannot be accepted, or a
wish to see the help or the version. An option may be given once. The value of an option
follows a `=` or is the next argument, which must not look like an option itself. A value
that is a path may be any bytes but none at all, and a value that is a name has to be text.
Short options may be put together. At the end the two paths have to be there.
-/

namespace Phrasebook.CommandLine

/-- An option that takes a path. -/
inductive PathSetting where
  | messages
  | output
  | config
  deriving DecidableEq, Repr

/-- An option that takes a name. -/
inductive NameSetting where
  | target
  | guard
  deriving DecidableEq, Repr

/-- An option that takes a value. -/
inductive Setting where
  | path (s : PathSetting)
  | name (s : NameSetting)
  deriving DecidableEq, Repr

/-- An option that is on or off. -/
inductive Switch where
  | strict
  | noLint
  | verbose
  deriving DecidableEq, Repr

/-- What an option stands for. -/
inductive Flag where
  | setting (s : Setting)
  | switch (s : Switch)
  | help
  | version
  deriving DecidableEq, Repr

namespace Flag

/-- The option of a long name. -/
def ofLong? : String → Option Flag
  | "msgfile" => some (.setting (.path .messages))
  | "hppfile" => some (.setting (.path .output))
  | "config" => some (.setting (.path .config))
  | "target" => some (.setting (.name .target))
  | "guard" => some (.setting (.name .guard))
  | "strict" => some (.switch .strict)
  | "no-lint" => some (.switch .noLint)
  | "verbose" => some (.switch .verbose)
  | "help" => some .help
  | "version" => some .version
  | _ => none

/-- The option of a letter. -/
def ofShort? : Char → Option Flag
  | 'v' => some (.switch .verbose)
  | 'h' => some .help
  | 'V' => some .version
  | _ => none

end Flag

/-- The arguments that have been read: values of settings and switches that are on. -/
structure Given where
  paths : List (PathSetting × Path) := []
  names : List (NameSetting × String) := []
  switches : List Switch := []
  deriving DecidableEq, Repr

namespace Given

/-- The path of a setting, if it is given. -/
def path? (g : Given) (s : PathSetting) : Option Path :=
  g.paths.lookup s

/-- The name of a setting, if it is given. -/
def name? (g : Given) (s : NameSetting) : Option String :=
  g.names.lookup s

/-- Whether a switch is on. -/
def isOn (g : Given) (s : Switch) : Bool :=
  g.switches.contains s

/-- Gives a setting its value, unless it has one or the value will not do. -/
def give (g : Given) (s : Setting) (value : Bytes) : Option Given :=
  match s with
  | .path s =>
    if (g.path? s).isSome || value.isEmpty then none
    else some { g with paths := (s, ⟨value⟩) :: g.paths }
  | .name s =>
    if (g.name? s).isSome then none
    else (Utf8.decode? value).map fun name => { g with names := (s, name) :: g.names }

/-- Turns a switch on, unless it is on. -/
def turnOn (g : Given) (s : Switch) : Option Given :=
  if g.isOn s then none else some { g with switches := s :: g.switches }

end Given

/-- The arguments of a compilation. -/
structure Arguments where
  messages : Path
  output : Path
  config : Option Path := none
  target : Option String := none
  guard : Option String := none
  strict : Bool := false
  noLint : Bool := false
  verbose : Bool := false
  deriving DecidableEq, Repr

/-- What the arguments ask for. -/
inductive Invocation where
  /-- They cannot be accepted. -/
  | misused
  | help
  | version
  | compile (arguments : Arguments)
  deriving DecidableEq, Repr

/-- What is asked for when all arguments have been read. -/
def Given.conclude (g : Given) : Invocation :=
  match g.path? .messages, g.path? .output with
  | some messages, some output =>
    .compile
      { messages, output
        config := g.path? .config
        target := g.name? .target
        guard := g.name? .guard
        strict := g.isOn .strict
        noLint := g.isOn .noLint
        verbose := g.isOn .verbose }
  | _, _ => .misused

/-- The byte that options begin with. -/
def dash : UInt8 := 0x2D

/-- The byte between a long option and its value. -/
def equalsSign : UInt8 := 0x3D

/-- What an argument is, by its first bytes. -/
inductive Shape where
  /-- Two dashes and nothing else. -/
  | separator
  /-- Two dashes, the name of an option, and perhaps its value. -/
  | long (name : Bytes) (value? : Option Bytes)
  /-- A dash and letters. -/
  | short (letters : Bytes)
  /-- Anything else. -/
  | plain
  deriving DecidableEq, Repr

/-- The shape of what follows two dashes. -/
def Shape.ofLong (long : Bytes) : Shape :=
  if long = [] then .separator
  else .long (long.takeWhile (· != equalsSign)) (long.dropWhile (· != equalsSign)).tail?

/-- The shape of an argument. A dash alone is not an option. -/
def Shape.ofArgument : Bytes → Shape
  | first :: second :: rest =>
    if first = dash then
      if second = dash then .ofLong rest else .short (second :: rest)
    else .plain
  | _ => .plain

/-- Reads the letters of short options. -/
def readLetters (g : Given) : List Utf8.Piece → Invocation ⊕ Given
  | [] => .inr g
  | .broken :: _ => .inl .misused
  | .char c :: rest =>
    match Flag.ofShort? c with
    | some .help => .inl .help
    | some .version => .inl .version
    | some (.switch s) =>
      match g.turnOn s with
      | some g => readLetters g rest
      | none => .inl .misused
    | _ => .inl .misused

/-- Reads the rest of the arguments. -/
def readFrom (g : Given) : List Bytes → Invocation
  | [] => g.conclude
  | arg :: rest =>
    match Shape.ofArgument arg with
    | .separator => if rest.isEmpty then g.conclude else .misused
    | .long name value? =>
      match (Utf8.decode? name).bind Flag.ofLong?, value? with
      | some (.setting s), some value =>
        match g.give s value with
        | some g => readFrom g rest
        | none => .misused
      | some (.setting s), none =>
        match rest with
        | [] => .misused
        | value :: rest =>
          if Shape.ofArgument value = .plain then
            match g.give s value with
            | some g => readFrom g rest
            | none => .misused
          else .misused
      | some (.switch s), none =>
        match g.turnOn s with
        | some g => readFrom g rest
        | none => .misused
      | some .help, none => .help
      | some .version, none => .version
      | _, _ => .misused
    | .short letters =>
      match readLetters g (Utf8.pieces letters) with
      | .inl invocation => invocation
      | .inr g => readFrom g rest
    | .plain => .misused

/-- What a list of arguments asks for. -/
def Invocation.ofArguments (args : List Bytes) : Invocation :=
  readFrom {} args

end Phrasebook.CommandLine
