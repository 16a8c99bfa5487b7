import ManagedTree.Address.Basic
import ManagedTree.Address.Form
import ManagedTree.Address.Pattern
import ManagedTree.Address.Resolve
import ManagedTree.Address.Text
import ManagedTree.Archive
import ManagedTree.Blocking
import ManagedTree.Controller.Basic
import ManagedTree.Controller.BlockingExecution
import ManagedTree.Controller.Calls
import ManagedTree.Controller.Deed
import ManagedTree.Controller.Execution
import ManagedTree.Controller.Reporting
import ManagedTree.Controller.Scripts
import ManagedTree.Controller.Start
import ManagedTree.Decimal.Binary64
import ManagedTree.Decimal.Shortest
import ManagedTree.Diagnostics
import ManagedTree.Failure.Basic
import ManagedTree.Failure.Form
import ManagedTree.Fault.Basic
import ManagedTree.Fault.Links
import ManagedTree.Files
import ManagedTree.Forest
import ManagedTree.Handle
import ManagedTree.Handler
import ManagedTree.Interrupt
import ManagedTree.Keyed
import ManagedTree.Ledger
import ManagedTree.Node.Basic
import ManagedTree.Node.Place
import ManagedTree.Node.Printer
import ManagedTree.Node.Reader
import ManagedTree.Operation
import ManagedTree.Registry
import ManagedTree.Report
import ManagedTree.Run
import ManagedTree.Scope
import ManagedTree.Settings
import ManagedTree.Settings.Document
import ManagedTree.Settings.Error
import ManagedTree.Settings.Plain
import ManagedTree.Settings.Quotation
import ManagedTree.Settings.Reader
import ManagedTree.Settings.Scalar
import ManagedTree.Text.Blank
import ManagedTree.Text.Glyph
import ManagedTree.Text.Pieces
import ManagedTree.Text.Quoted
import ManagedTree.Text.Shapeless
import ManagedTree.TreeError
import ManagedTree.Proofs.Run.Keeps
import ManagedTree.Proofs.Trace.Closures
import ManagedTree.Proofs.Trace.Order
import ManagedTree.Proofs.Scope.Standing
import ManagedTree.Proofs.Scope.Continues
import ManagedTree.Proofs.Scope.Within
import ManagedTree.Proofs.Forest.Deferral
import ManagedTree.Controller.Use
import ManagedTree.Proofs.Controller.Moves
import ManagedTree.Proofs.Controller.Uses
import ManagedTree.Proofs.Controller.Proceeds
import ManagedTree.Proofs.Controller.Protocol
import ManagedTree.Proofs.Address.Creation
import ManagedTree.Proofs.Controller.Dispatch
import ManagedTree.Proofs.Controller.Pairs
import ManagedTree.Proofs.Controller.Storage
import ManagedTree.Proofs.Scope.Gains
import ManagedTree.Proofs.Registry.History
import ManagedTree.Proofs.Address.Specificity
import ManagedTree.Proofs.Registry.Lookup
import ManagedTree.Proofs.Blocking.Verdict
import ManagedTree.Proofs.Blocking.Course
import ManagedTree.Proofs.Controller.Awaited
import ManagedTree.Proofs.Json.Numbers
import ManagedTree.Proofs.Json.Documents
import ManagedTree.Proofs.Archive.Register
import ManagedTree.Proofs.Controller.Containment
import ManagedTree.Proofs.Json.Strings
import ManagedTree.Proofs.Archive.Replacement
import ManagedTree.Proofs.Node.Alike
import ManagedTree.Proofs.Registry.Table
import ManagedTree.Proofs.Address.Reading
import ManagedTree.Proofs.Node.Writing
import ManagedTree.Proofs.Report.Fragments
import ManagedTree.Proofs.Operation.Form
import ManagedTree.Proofs.Node.Walking
import ManagedTree.Proofs.Address.Lookup
import ManagedTree.Proofs.Address.Succession
import ManagedTree.Proofs.Address.Writing
import ManagedTree.Proofs.Fault.Chains
import ManagedTree.Proofs.Failure.Form
import ManagedTree.Proofs.Registry.Listing
import ManagedTree.Proofs.Address.Form
import ManagedTree.Proofs.Interrupt.Waits
import ManagedTree.Proofs.Forest.Points
import ManagedTree.Proofs.Controller.Opened
import ManagedTree.Proofs.Controller.Spared
import ManagedTree.Proofs.Controller.Body
import ManagedTree.Proofs.Controller.Worker
