import CoverageGate.Files.FileTree
import CoverageGate.Main
import CoverageGate.Proofs.LastAssignment
import CoverageGate.Proofs.Location
import CoverageGate.Proofs.LooseReading
import CoverageGate.Proofs.Pipeline
import CoverageGate.Proofs.Encoding
import CoverageGate.Proofs.GateCommand
import CoverageGate.Proofs.Planning
import CoverageGate.Proofs.Session
import CoverageGate.Proofs.Shorthand
import CoverageGate.Proofs.SummaryTable
import CoverageGate.Proofs.UnchosenReports
import CoverageGate.Proofs.Verification
import CoverageGate.Proofs.Cells
import CoverageGate.Proofs.FirstRow
import CoverageGate.Proofs.Logging
import CoverageGate.Proofs.FileContent
import CoverageGate.Proofs.OwnSetting
import CoverageGate.Proofs.Continuation
import CoverageGate.Proofs.Rounding
import CoverageGate.Proofs.ExactValue
import CoverageGate.Proofs.GateVerdict
import CoverageGate.Proofs.Outcomes
import CoverageGate.Proofs.NotANumber
import CoverageGate.Proofs.Padding
import CoverageGate.Proofs.DecimalOrder
import CoverageGate.Proofs.Transcript
import CoverageGate.Proofs.SettingsRendering
import CoverageGate.Proofs.AssignmentOrder
import CoverageGate.Proofs.VisitingOrder
import CoverageGate.Proofs.NewestReport
import CoverageGate.Proofs.LetterCase
import CoverageGate.Proofs.ScoreText
