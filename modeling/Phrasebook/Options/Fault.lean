/-!
# Faults of an options file

An options file is refused as a whole. Where the fault is a name that is not known, that
name and the ones that would be are told; every other fault of the file is only reported as
such.
-/

namespace Phrasebook.Options

/-- Why an options file is refused. -/
inductive Fault where
  /-- The file breaks the rules of its format, or a value has the wrong type. -/
  | invalid
  /-- A key that is not an option. -/
  | unknownKey (key : String)
  /-- A target that is not known. -/
  | unknownTarget (name : String)
  /-- A guard style that is not known. -/
  | unknownGuard (name : String)
  deriving DecidableEq, Repr

/-- The wording of a fault, for those that have one. -/
def Fault.detail? : Fault → Option String
  | .invalid => none
  | .unknownKey key =>
    some ("unknown field `" ++ key ++ "`, expected one of `target`, `guard`, `strict`, `lint`")
  | .unknownTarget name =>
    some ("unknown variant `" ++ name ++
      "`, expected one of `c++`, `cpp`, `hpp`, `rs`, `rust`")
  | .unknownGuard name =>
    some ("unknown variant `" ++ name ++ "`, expected `pragma` or `ifndef`")

end Phrasebook.Options
