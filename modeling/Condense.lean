import Condense.Provider.Chat
import Condense.Session
import Condense.Setup
import Condense.Proofs.CompactionSteps
import Condense.Proofs.KeptSpans
import Condense.Proofs.FailOpen
import Condense.Proofs.Dialogue
import Condense.Proofs.NothingLost
import Condense.Proofs.PreviousSummaries
import Condense.Proofs.DependableStores
import Condense.Proofs.CompactionResults
import Condense.Proofs.PoolSteps
import Condense.Proofs.Rivals
import Condense.Proofs.WindowRivals
import Condense.Proofs.SerialRuns
import Condense.Proofs.ThresholdRivals
import Condense.Proofs.WindowCounts
import Condense.Proofs.JsonTokens
import Condense.Proofs.JsonDocuments
import Condense.Proofs.FileRefinement
import Condense.Proofs.RegistryRefresh
import Condense.Proofs.RealDigits
import Condense.Proofs.RealTexts
import Condense.Proofs.JsonReadings
import Condense.Proofs.Cancellations
import Condense.Proofs.SharedStores
import Condense.Proofs.SeparateAgents
import Condense.Proofs.SettingNames
import Condense.Proofs.ValidSettings
import Condense.Proofs.ConfigRoundTrip
import Condense.Proofs.ReliableReads
import Condense.Proofs.QuietCalls
import Condense.Proofs.RepeatedCalls
import Condense.Proofs.FullHistories
import Condense.Proofs.GuardedSteps
import Condense.Proofs.HotReloads
import Condense.Proofs.ChosenBoundaries
import Condense.Proofs.Namesakes
import Condense.Proofs.RealBounds
import Condense.Proofs.Retention
import Condense.Proofs.SummarizedTurns
import Condense.Proofs.FailedCompactions
import Condense.Proofs.RefusedWrites
import Condense.Proofs.DamagedFiles
import Condense.Proofs.Redaction
import Condense.Proofs.ProviderKeys
import Condense.Proofs.LoadedSettings
import Condense.Proofs.LastingSummaries
import Condense.Proofs.RoutedNames
import Condense.Proofs.MemberOrder
import Condense.Proofs.ConvertedNames
import Condense.Proofs.RealRounding
import Condense.Proofs.RealShares
import Condense.Proofs.SpareBuffers
import Condense.Proofs.LargestMatchings
import Condense.Proofs.AnswersInTurn
