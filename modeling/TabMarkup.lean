import TabMarkup.Main
import TabMarkup.Sample
import TabMarkup.Tree.Editing
import TabMarkup.FaultName
import TabMarkup.Reading.Reread
import TabMarkup.Rehearsal
import TabMarkup.Proofs.Reading.Mark
import TabMarkup.Proofs.Reading.Nest
import TabMarkup.Proofs.Markup.Head
import TabMarkup.Proofs.Reading.Levels
import TabMarkup.Proofs.Text.Lines
import TabMarkup.Proofs.Markup.Line
import TabMarkup.Proofs.Markup.Declaration
import TabMarkup.Proofs.Markup.Doctype
import TabMarkup.Proofs.Reading.Building
import TabMarkup.Proofs.Reading.Simulation
import TabMarkup.Proofs.Reading.Contexts
import TabMarkup.Proofs.Reading.Grammar
import TabMarkup.Proofs.Reading.Closing
import TabMarkup.Proofs.Reading.Outline
import TabMarkup.Proofs.Reading.Placement
import TabMarkup.Proofs.Writing.Rows
import TabMarkup.Proofs.Writing.Legible
import TabMarkup.Proofs.Writing.Rebuilding
import TabMarkup.Proofs.Writing.Faithful
import TabMarkup.Proofs.Writing.Rereading
import TabMarkup.Proofs.Writing.RoundTrip
import TabMarkup.Proofs.Writing.Accepted
import TabMarkup.Proofs.Writing.Stable
import TabMarkup.Proofs.Refinement.Priority
import TabMarkup.Proofs.Refinement.Builtin
import TabMarkup.Proofs.Refinement.BottomUp
import TabMarkup.Proofs.Refinement.WhileReading
import TabMarkup.Proofs.Service.Provide
import TabMarkup.Proofs.Service.Rollback
import TabMarkup.Proofs.Service.History
import TabMarkup.Proofs.Service.Lifecycle
import TabMarkup.Proofs.Reading.Composition
import TabMarkup.Proofs.Writing.Layout
import TabMarkup.Proofs.Reading.Limits
import TabMarkup.Proofs.Reading.Faults
import TabMarkup.Proofs.Reading.Size
import TabMarkup.Proofs.Tree.Comparison
import TabMarkup.Proofs.Tree.Editing
import TabMarkup.Proofs.Tree.Orderly
import TabMarkup.Proofs.Tree.Payload
import TabMarkup.Proofs.Tree.Accessors
import TabMarkup.Proofs.Tree.Promise
import TabMarkup.Proofs.Tree.InPlace
import TabMarkup.Proofs.Tree.Frozen
import TabMarkup.Proofs.Reading.Permissive
import TabMarkup.Proofs.Refinement.Acceptance
import TabMarkup.Proofs.Text.Noise
import TabMarkup.Proofs.Reading.Noise
import TabMarkup.Proofs.Document.Doctype
import TabMarkup.Proofs.Document.Singleton
import TabMarkup.Proofs.Service.Inheritance
import TabMarkup.Proofs.Tree.Erasure
import TabMarkup.Proofs.Writing.Indentation
import TabMarkup.Proofs.Reading.Located
import TabMarkup.Proofs.Reading.Meter
import TabMarkup.Proofs.Markup.Tokens
import TabMarkup.Proofs.Reading.Stacked
import TabMarkup.Proofs.Writing.Sample
