import SqlStates.Main
import SqlStates.Proofs.CodeNumeral
import SqlStates.Proofs.CodeRoundTrip
import SqlStates.Proofs.CodeOrder
import SqlStates.Proofs.CodeCategory
import SqlStates.Proofs.Words
import SqlStates.Proofs.Lines
import SqlStates.Proofs.FirstWins
import SqlStates.Proofs.FirstError
import SqlStates.Proofs.Concatenation
import SqlStates.Proofs.PrefixStability
import SqlStates.Proofs.LineEndings
import SqlStates.Proofs.Layouts
import SqlStates.Proofs.LowerCase
import SqlStates.Proofs.Rendering
import SqlStates.Proofs.Writing
import SqlStates.Proofs.Outcome
import SqlStates.Proofs.FileWriting
import SqlStates.Proofs.ExitCodes
import SqlStates.Proofs.FailedRuns
import SqlStates.Proofs.ReadingBack
import SqlStates.Proofs.EncodedTexts
import SqlStates.Proofs.Locations
import SqlStates.Proofs.Redirects
import SqlStates.Proofs.Fetching
import SqlStates.Proofs.SourceAgreement
import SqlStates.Proofs.Settings
import SqlStates.Proofs.CommandGrammar
import SqlStates.Proofs.SideReading
import SqlStates.Proofs.CommandReading
import SqlStates.Proofs.RefusedRows
import SqlStates.Proofs.OptionPlacement
import SqlStates.Proofs.SourceSelection
import SqlStates.Proofs.Hosting
import SqlStates.Proofs.Logging
import SqlStates.Proofs.LineGrammar
import SqlStates.Proofs.Breaks
import SqlStates.Proofs.NormalForm
import SqlStates.Proofs.Repeats
