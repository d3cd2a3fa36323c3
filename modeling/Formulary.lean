import Formulary.CommandLine.Folder
import Formulary.Expr.Json
import Formulary.Main
import Formulary.Session
import Formulary.Proofs.Doubles
import Formulary.Proofs.Numerals
import Formulary.Proofs.Ordering
import Formulary.Proofs.Grammar
import Formulary.Proofs.Failure
import Formulary.Proofs.Parsing
import Formulary.Proofs.Blame
import Formulary.Proofs.Scanning
import Formulary.Proofs.Writing
import Formulary.Proofs.Parenthesized
import Formulary.Proofs.Sessions
import Formulary.Proofs.Grouping
import Formulary.Proofs.TypedValues
import Formulary.Proofs.Variables
import Formulary.Proofs.History
import Formulary.Proofs.Replay
import Formulary.Proofs.Requests
import Formulary.Proofs.Libraries
import Formulary.Proofs.Folders
import Formulary.Proofs.Storage
import Formulary.Proofs.SavingOrder
import Formulary.Proofs.SavedRuns
import Formulary.Proofs.Postorder
import Formulary.Proofs.Substitution
import Formulary.Proofs.Limits
import Formulary.Proofs.Finiteness
import Formulary.Proofs.Brackets
import Formulary.Proofs.LeadingNumbers
import Formulary.Proofs.RoundedDecimals
import Formulary.Proofs.DisplayedNumbers
import Formulary.Proofs.DisplayedShapes
import Formulary.Proofs.Calls
import Formulary.Proofs.Runs
import Formulary.Proofs.Progress
