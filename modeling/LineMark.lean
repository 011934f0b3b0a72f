import LineMark.Proofs.Characters
import LineMark.Proofs.Concatenation
import LineMark.Proofs.Cursor
import LineMark.Proofs.Cursor.Failure
import LineMark.Proofs.Cursor.Operation
import LineMark.Proofs.Cursor.Skip
import LineMark.Proofs.Cursor.Zipper
import LineMark.Proofs.DebugMarker
import LineMark.Proofs.Dump
import LineMark.Proofs.FileLabel
import LineMark.Proofs.IntegerModes
import LineMark.Proofs.Lexeme
import LineMark.Proofs.Lexer
import LineMark.Proofs.LifeCycle
import LineMark.Proofs.LineEnd
import LineMark.Proofs.Location
import LineMark.Proofs.Location.Offset
import LineMark.Proofs.Location.Walk
import LineMark.Proofs.Machine.Cycle
import LineMark.Proofs.Machine.Loop
import LineMark.Proofs.Machine.Plan
import LineMark.Proofs.Machine.Program
import LineMark.Proofs.Machine.Run
import LineMark.Proofs.Machine.Scanner
import LineMark.Proofs.Machine.Visits
import LineMark.Proofs.MarkerTail
import LineMark.Proofs.Message
import LineMark.Proofs.Places
import LineMark.Proofs.Reading.Basic
import LineMark.Proofs.Reading.Ending
import LineMark.Proofs.Reading.Piece
import LineMark.Proofs.Reading.Prefix
import LineMark.Proofs.RoundTrip
import LineMark.Proofs.Runs
import LineMark.Proofs.Safety
import LineMark.Proofs.Session.Binding
import LineMark.Proofs.Session.Scopes
import LineMark.Proofs.Spans
import LineMark.Proofs.Text.Closing
import LineMark.Proofs.Text.Lines
import LineMark.Proofs.Text.Quoted
import LineMark.Proofs.TokenGap
import LineMark.Proofs.Viability
import LineMark.Reading
import LineMark.Session
import LineMark.Version
