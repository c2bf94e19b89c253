/-!
# Summaries

The counters of a run.
-/

namespace Phrasebook

/-- How many lines were read, packages opened, functions written, and lines skipped. -/
structure Summary where
  lines : Nat := 0
  namespaces : Nat := 0
  functions : Nat := 0
  skipped : Nat := 0
  deriving DecidableEq, Repr

end Phrasebook
