import ScriptLexer.Cursor.Session
import ScriptLexer.Grammar
import ScriptLexer.Lexer
import ScriptLexer.Machine.Basic
import ScriptLexer.Main
import ScriptLexer.Proofs.Boundary
import ScriptLexer.Proofs.LongestRun
import ScriptLexer.Proofs.Recognition.Verbatim
import ScriptLexer.Proofs.Recognition.Delimited
import ScriptLexer.Proofs.Recognition.Number
import ScriptLexer.Proofs.Recognition.Token
import ScriptLexer.Proofs.Run
import ScriptLexer.Proofs.TokenList
import ScriptLexer.Proofs.Relocation
import ScriptLexer.Proofs.Incremental
import ScriptLexer.Proofs.Replay
import ScriptLexer.Proofs.Tiling
import ScriptLexer.Proofs.MaximalMunch
import ScriptLexer.Proofs.FaultLocation
import ScriptLexer.Proofs.RoundTrip
import ScriptLexer.Proofs.Safety
import ScriptLexer.Proofs.Recovery
import ScriptLexer.Proofs.Recognition.Fault
import ScriptLexer.Proofs.Readings
import ScriptLexer.Proofs.Stability
import ScriptLexer.Proofs.Blanking
import ScriptLexer.Proofs.Interleaving
import ScriptLexer.Proofs.Session
import ScriptLexer.Proofs.Lines
import ScriptLexer.Proofs.Rendering
import ScriptLexer.Proofs.Account
import ScriptLexer.Proofs.Noninterference
import ScriptLexer.Proofs.Recognition.NumberVerdict
import ScriptLexer.Proofs.Recognition.DelimitedVerdict
import ScriptLexer.Proofs.Excerpt
import ScriptLexer.Proofs.Order
import ScriptLexer.Proofs.WrittenForms
import ScriptLexer.Proofs.CommandLine.Taking
import ScriptLexer.Proofs.CommandLine.Acceptance
import ScriptLexer.Proofs.CommandLine.Respelling
import ScriptLexer.Proofs.Counters
import ScriptLexer.Machine.Word
import ScriptLexer.Machine.Number
import ScriptLexer.Machine.StringLiteral
import ScriptLexer.Machine.Symbol
import ScriptLexer.Machine
import ScriptLexer.Proofs.Refinement
import ScriptLexer.Proofs.Recognition.OperatorVerdict
