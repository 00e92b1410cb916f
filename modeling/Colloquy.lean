import Colloquy.Document.Template
import Colloquy.Session.Check
import Colloquy.Settings.Derived
import Colloquy.Source.Overview
import Colloquy.Proofs.Pipeline.History
import Colloquy.Proofs.Source.Gate
import Colloquy.Proofs.Template.Lexical
import Colloquy.Proofs.Echo.Silence
import Colloquy.Proofs.Template.Resolution
import Colloquy.Proofs.Run.Ensures
import Colloquy.Proofs.Echo.Session
import Colloquy.Proofs.Echo.Parallel
import Colloquy.Proofs.Echo.Program
import Colloquy.Proofs.Echo.Middleware
import Colloquy.Proofs.Twin.Program
import Colloquy.Proofs.Number.Difference
import Colloquy.Proofs.Cache.Replay
import Colloquy.Proofs.Cache.Rejection
import Colloquy.Proofs.Source.Middleware
import Colloquy.Proofs.Budget.Lineage
import Colloquy.Proofs.Bucket.Window
import Colloquy.Proofs.Template.Building
import Colloquy.Proofs.Twin.Inlining
import Colloquy.Proofs.Number.Nearest
import Colloquy.Proofs.Number.Decimal
import Colloquy.Proofs.Json.Numeral
import Colloquy.Proofs.Json.RoundTrip
import Colloquy.Proofs.Backend.Translation
import Colloquy.Proofs.Session.ReadBack
import Colloquy.Proofs.Session.Roles
import Colloquy.Proofs.Template.Rounds
import Colloquy.Proofs.Template.ToolRound
import Colloquy.Proofs.Echo.Rejoin
import Colloquy.Proofs.Retry.Found
import Colloquy.Proofs.Source.Wrapping
import Colloquy.Proofs.Source.Structure
import Colloquy.Proofs.Template.Feedback
import Colloquy.Proofs.Text.Interpolation
import Colloquy.Proofs.Extraction.Blocks
import Colloquy.Proofs.Parallel.Judged
import Colloquy.Proofs.Validator.Formula
import Colloquy.Proofs.Validator.Keywords
import Colloquy.Proofs.Cache.Identity
import Colloquy.Proofs.Retry.Backoff
import Colloquy.Proofs.Extraction.Rules
import Colloquy.Proofs.Source.Consumption
import Colloquy.Proofs.Settings.Substitution
