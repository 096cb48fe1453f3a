import LoxTokens.LineEvaluator
import LoxTokens.Main
import LoxTokens.Config.Write
import LoxTokens.Proofs.SourceCutting
import LoxTokens.Proofs.LexerPlaces
import LoxTokens.Proofs.Newline
import LoxTokens.Proofs.Respacing
import LoxTokens.Proofs.LineRuns
import LoxTokens.Proofs.PullSchedules
import LoxTokens.Proofs.ErrorLines
import LoxTokens.Proofs.TomlStrings
import LoxTokens.Proofs.TomlNumbers
import LoxTokens.Proofs.TomlDocuments
import LoxTokens.Proofs.StoredFiles
import LoxTokens.Proofs.ConfigRoundTrip
import LoxTokens.Proofs.Blanking
import LoxTokens.Proofs.Rounding
import LoxTokens.Proofs.ShortestDecimals
import LoxTokens.Proofs.SourceReports
import LoxTokens.Proofs.TextOutput
import LoxTokens.Proofs.JsonReading
import LoxTokens.Proofs.JsonNumbers
import LoxTokens.Proofs.JsonRoundTrip
import LoxTokens.Proofs.TokenJson
import LoxTokens.Proofs.Continuation
import LoxTokens.Proofs.Reporters
import LoxTokens.Proofs.ReportHistories
import LoxTokens.Proofs.CommandOutput
import LoxTokens.Proofs.InputLines
import LoxTokens.Proofs.Sessions
import LoxTokens.Proofs.DirectScans
import LoxTokens.Proofs.Lexemes
import LoxTokens.Proofs.NearestMagnitude
import LoxTokens.Proofs.NumberLiterals
import LoxTokens.Proofs.FewestDigits
import LoxTokens.Proofs.NumberForms
import LoxTokens.Proofs.PrintedNumbers
import LoxTokens.Proofs.SourceFiles
import LoxTokens.Proofs.ErrorJson
import LoxTokens.Proofs.IndentedJson
import LoxTokens.Proofs.TomlKeys
import LoxTokens.Proofs.ConfigSettings
import LoxTokens.Proofs.ConfigEdits
