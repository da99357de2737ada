import Abacus.Command.Serve
import Abacus.Main
import Abacus.Proofs.BracketContext
import Abacus.Proofs.InfixMeaning
import Abacus.Proofs.ValuedTexts
import Abacus.Report.Build
import Abacus.Server.Service
import Abacus.Proofs.PostfixOutcome
import Abacus.Proofs.ConversionOutcome
import Abacus.Proofs.TokenConservation
import Abacus.Proofs.ReportedFailures
import Abacus.Proofs.ReportedPlaces
import Abacus.Proofs.CalculationReplies
import Abacus.Proofs.EncodedText
import Abacus.Proofs.JsonWriting
import Abacus.Proofs.SavedSettings
import Abacus.Proofs.SettingsFaults
import Abacus.Proofs.ServeOutcome
import Abacus.Proofs.PathResolution
import Abacus.Proofs.LocatedPlaces
import Abacus.Proofs.PageReplies
import Abacus.Proofs.TreeAgreement
import Abacus.Proofs.PageConfinement
import Abacus.Proofs.LiteralBounds
import Abacus.Proofs.DispatchSessions
import Abacus.Proofs.CommandInputs
import Abacus.Proofs.SentExpressions
import Abacus.Proofs.NearestWhole
import Abacus.Proofs.LogPruning
import Abacus.Proofs.ServedSettings
import Abacus.Proofs.PartialSettings
import Abacus.Proofs.WaitingGroups
import Abacus.Proofs.AllowedEndings
import Abacus.Proofs.ErrorPages
import Abacus.Proofs.LogLines
import Abacus.Proofs.ConversionPasses
import Abacus.Proofs.AtomicSteps
