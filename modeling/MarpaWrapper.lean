import MarpaWrapper.Effects
import MarpaWrapper.Tables
import MarpaWrapper.Ownership
import MarpaWrapper.PostOrder
import MarpaWrapper.Sorting
import MarpaWrapper.World
import MarpaWrapper.Wrapper
import MarpaWrapper.Exchanges
import MarpaWrapper.ManageBuf
import MarpaWrapper.GenericStack
import MarpaWrapper.GenericStackRuns
import MarpaWrapper.GenericStackExchanges
import MarpaWrapper.GenericStackRefinement
import MarpaWrapper.GenericStackOwnership
import MarpaWrapper.Valuation
import MarpaWrapper.ParseTrees
import MarpaWrapper.ValuationRules
import MarpaWrapper.ValuationOwnership
import MarpaWrapper.ValuationFold
import MarpaWrapper.ValuationFailures
import MarpaWrapper.Libmarpa
import MarpaWrapper.GrammarDefinition
import MarpaWrapper.EventReport
import MarpaWrapper.Recognizer
import MarpaWrapper.Recognition
import MarpaWrapper.Api
import MarpaWrapper.EventDelivery
import MarpaWrapper.EventSeverity
import MarpaWrapper.WrapperTables
import MarpaWrapper.GenericStackCapacity
import MarpaWrapper.Nesting
import MarpaWrapper.ValuationProtocol
import MarpaWrapper.ValuationTermination
import MarpaWrapper.GenericStackAddresses
import MarpaWrapper.ValuationLocals
import MarpaWrapper.ApiExchanges
import MarpaWrapper.ExpectedTerminals
import MarpaWrapper.Frames
import MarpaWrapper.Segments
import MarpaWrapper.TerminalChecks
import MarpaWrapper.TerminalPushes
import MarpaWrapper.Iterations
import MarpaWrapper.SharedValue
import MarpaWrapper.ValuationExchanges
import MarpaWrapper.ReachableStates
import MarpaWrapper.ExpectedArrays
import MarpaWrapper.LongestMatches
import MarpaWrapper.ProgressTable
import MarpaWrapper.ProgressReports
import MarpaWrapper.ProgressCleanup
import MarpaWrapper.SymbolOrder
import MarpaWrapper.GenericStackTermination
import MarpaWrapper.GenericStackCells
import MarpaWrapper.GenericStackFailures
import MarpaWrapper.GenericStackGrowth
import MarpaWrapper.RuleRegistration
import MarpaWrapper.ManageBufGrowth
import MarpaWrapper.ManageBufFailures
import MarpaWrapper.ManageBufPrefill
import MarpaWrapper.TableMirror
import MarpaWrapper.SessionTables
import MarpaWrapper.ExpectedCache
import MarpaWrapper.FailedDefinitions
import MarpaWrapper.Leftovers
import MarpaWrapper.GenericLogger
import MarpaWrapper.GenericStackCallbacks
import MarpaWrapper.ValuationCallbacks
import MarpaWrapper.MessageBuilder
import MarpaWrapper.Assumptions
import MarpaWrapper.Verdicts
import MarpaWrapper.TerminalVerdicts
import MarpaWrapper.TracedProgress
import MarpaWrapper.AcceptedInput
import MarpaWrapper.Lockstep
import MarpaWrapper.OwnView
import MarpaWrapper.RecognitionLockstep
import MarpaWrapper.ProgressLockstep
import MarpaWrapper.RepeatedRecognition
import MarpaWrapper.WithoutReading
import MarpaWrapper.ManualControl
import MarpaWrapper.RecognitionByHand
import MarpaWrapper.ObjectLifetimes
import MarpaWrapper.StandingDefinitions
