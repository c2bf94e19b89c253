import Phrasebook.Main
import Phrasebook.Proofs.Utf8
import Phrasebook.Proofs.Lines
import Phrasebook.Proofs.Session.Lawful
import Phrasebook.Proofs.Session.Runs
import Phrasebook.Proofs.Session.Brackets
import Phrasebook.Proofs.Session.Refusals
import Phrasebook.Proofs.Session.Unhindered
import Phrasebook.Proofs.Reference
import Phrasebook.Proofs.Session.LineCounts
import Phrasebook.Proofs.Template.Print
import Phrasebook.Proofs.Tokens
import Phrasebook.Proofs.Program
import Phrasebook.Proofs.Session.Coupling
import Phrasebook.Proofs.Truncation
import Phrasebook.Proofs.Session.Causes
import Phrasebook.Proofs.Strictness
import Phrasebook.Proofs.Lints
import Phrasebook.Proofs.Targets
import Phrasebook.Proofs.Files.Compilation
import Phrasebook.Proofs.Files.Overwriting
import Phrasebook.Proofs.Session.Counters
import Phrasebook.Proofs.Session.Renumbering
import Phrasebook.Proofs.Erasure
import Phrasebook.Proofs.Causality
import Phrasebook.Proofs.Success
import Phrasebook.Proofs.Composition
import Phrasebook.Proofs.Paths
import Phrasebook.Proofs.IncludeGuard
import Phrasebook.Proofs.Layout.Lossless
import Phrasebook.Proofs.Template.Grammar
import Phrasebook.Proofs.Template.Meaning
import Phrasebook.Proofs.CommandLine
import Phrasebook.Proofs.Lexemes
import Phrasebook.Proofs.Template.Faults
import Phrasebook.Proofs.Layout.Literals
import Phrasebook.Proofs.LineEnds
import Phrasebook.Proofs.GuardWords
import Phrasebook.Proofs.Layout.Outline
import Phrasebook.Proofs.Findings
