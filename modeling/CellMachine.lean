import CellMachine.Text.Blank
import CellMachine.Text.Word
import CellMachine.Text.Line
import CellMachine.Text.Numeral
import CellMachine.Text.Layout
import CellMachine.Text.Hidden
import CellMachine.Text.Quoted
import CellMachine.Memory
import CellMachine.Operand
import CellMachine.Frame
import CellMachine.Builtin
import CellMachine.Instruction
import CellMachine.Script
import CellMachine.Registry
import CellMachine.Outcome
import CellMachine.Assembly
import CellMachine.Machine
import CellMachine.Description
import CellMachine.Dump
import CellMachine.Diagnostic
import CellMachine.Settings
import CellMachine.Console
import CellMachine.CommandLine
import CellMachine.HelpPage
import CellMachine.Folder
import CellMachine.Session
import CellMachine.Main
import CellMachine.Proofs.Language
import CellMachine.Proofs.Semantics
import CellMachine.Proofs.RoundTrip
import CellMachine.Proofs.Text.Spans
import CellMachine.Proofs.Diagnostic
import CellMachine.Proofs.Atomicity
import CellMachine.Proofs.Coherence
import CellMachine.Proofs.Driving
import CellMachine.Proofs.Insertion
import CellMachine.Proofs.Control
import CellMachine.Proofs.Enlargement
import CellMachine.Proofs.Renaming
import CellMachine.Proofs.Composition
import CellMachine.Proofs.Concatenation
import CellMachine.Proofs.Advice
import CellMachine.Proofs.Dump
import CellMachine.Proofs.Layout
import CellMachine.Proofs.LineEndings
import CellMachine.Proofs.Registration
import CellMachine.Proofs.Replay
import CellMachine.Proofs.CommandLine
import CellMachine.Proofs.Footprint
import CellMachine.Proofs.Store
import CellMachine.Proofs.Flags
import CellMachine.Proofs.Assignment
import CellMachine.Proofs.Tokens
import CellMachine.Proofs.Segmentation
import CellMachine.Proofs.Fibonacci
import CellMachine.Proofs.Independence
import CellMachine.Proofs.Termination
import CellMachine.Proofs.Settings
