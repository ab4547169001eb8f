import LogicGrid.Main
import LogicGrid.Proofs.Support
import LogicGrid.Proofs.Checker
import LogicGrid.Proofs.Cycles
import LogicGrid.Proofs.Limits
import LogicGrid.Proofs.Candidates
import LogicGrid.Proofs.Completeness
import LogicGrid.Proofs.Unifiers
import LogicGrid.Proofs.Descent
import LogicGrid.Proofs.Join
import LogicGrid.Proofs.Monotone
import LogicGrid.Proofs.Grammar
import LogicGrid.Proofs.Operations
import LogicGrid.Proofs.Patterns
import LogicGrid.Proofs.Cursors
import LogicGrid.Proofs.Choices
import LogicGrid.Proofs.Records
import LogicGrid.Proofs.Statistics
import LogicGrid.Proofs.Statements
import LogicGrid.Proofs.JsonText
import LogicGrid.Proofs.RoundTrip
import LogicGrid.Proofs.Assignments
import LogicGrid.Proofs.FirstConflict
import LogicGrid.Proofs.Lines
import LogicGrid.Proofs.RuleLines
import LogicGrid.Proofs.Legible
import LogicGrid.Proofs.Bounds
import LogicGrid.Proofs.IdleVariables
import LogicGrid.Proofs.Values
