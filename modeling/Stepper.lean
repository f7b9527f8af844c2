import Stepper.Playback
import Stepper.Session
import Stepper.WordMachine.Basic
import Stepper.Proofs.Machine.Attempts
import Stepper.Proofs.Machine.Recorded
import Stepper.Proofs.Machine.Counting
import Stepper.Proofs.Machine.Fetching
import Stepper.Proofs.Debugger.Run
import Stepper.Proofs.Debugger.Inspecting
import Stepper.Proofs.Debugger.Resemblance
import Stepper.Proofs.Debugger.Faulting
import Stepper.Proofs.Debugger.Limits
import Stepper.Proofs.Debugger.Reporting
import Stepper.Proofs.Debugger.Loading
import Stepper.Proofs.Debugger.Verdict
import Stepper.Proofs.Session.Recording
import Stepper.Proofs.Session.History
import Stepper.Proofs.Session.Status
import Stepper.Proofs.Session.Reloading
import Stepper.Proofs.Session.BreakpointHistory
import Stepper.Proofs.Session.Resuming
import Stepper.Proofs.Session.Repairing
import Stepper.Proofs.Session.SymbolRange
import Stepper.Proofs.Session.Contract
import Stepper.Proofs.SymbolFile.Grammar
import Stepper.Proofs.SymbolFile.Reading
import Stepper.Proofs.SymbolFile.Printing
import Stepper.Proofs.SymbolFile.Joining
import Stepper.Proofs.SymbolFile.Layout
import Stepper.Proofs.SymbolTable.Declaring
import Stepper.Proofs.SymbolTable.Nearest
import Stepper.Proofs.SymbolTable.Agreement
import Stepper.Proofs.SymbolTable.Redeclaring
import Stepper.Proofs.Debugger.Unexecuted
import Stepper.Proofs.Session.Circling
import Stepper.Proofs.Debugger.StraightLine
import Stepper.Proofs.Session.RoundTrip
import Stepper.Proofs.Session.Writing
import Stepper.Proofs.Config.WrittenLimit
import Stepper.Proofs.Breakpoints.Editing
import Stepper.Proofs.SymbolFile.Showing
import Stepper.Proofs.Machine.Arrays
import Stepper.Proofs.Session.Keeping
import Stepper.Proofs.Session.OutOfReach
import Stepper.Proofs.Session.Bounds
