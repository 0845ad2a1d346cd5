import PstHsm.Tables
import PstHsm.Runs
import PstHsm.AttemptLimit
import PstHsm.HexNames
import PstHsm.PrefixCodes
import PstHsm.Chunks
import PstHsm.Mutexes
import PstHsm.Regions
import PstHsm.Loops
import PstHsm.Frames
import PstHsm.LastWrites
import PstHsm.Queries
import PstHsm.LockOrder
import PstHsm.Isolation
import PstHsm.Erasure
import PstHsm.Deliveries
import PstHsm.Buffers
import PstHsm.Types
import PstHsm.Storage
import PstHsm.Pins
import PstHsm.Sessions
import PstHsm.Templates
import PstHsm.Objects
import PstHsm.KeyGeneration
import PstHsm.Signing
import PstHsm.Library
import PstHsm.Api
import PstHsm.Locks
import PstHsm.NetworkServer
import PstHsm.ServerProcess
import PstHsm.Effects
import PstHsm.Views
import PstHsm.KeyPairTurns
import PstHsm.TemplateEntries
import PstHsm.KeyUse
import PstHsm.PinAuthority
import PstHsm.PinMachine
import PstHsm.Restarts
import PstHsm.Handles
import PstHsm.KeyFiles
import PstHsm.Persistence
import PstHsm.Projections
import PstHsm.Secrecy
import PstHsm.SignBinding
import PstHsm.Concealment
import PstHsm.SessionTable
import PstHsm.SessionRecords
import PstHsm.LoginState
import PstHsm.ObjectTable
import PstHsm.Searches
import PstHsm.Durability
import PstHsm.Disposal
import PstHsm.LockPairs
import PstHsm.LockDiscipline
import PstHsm.Admission
import PstHsm.KeyPairRaces
import PstHsm.LoginExclusion
import PstHsm.ReadOnlySessions
import PstHsm.IdleSessions
import PstHsm.KeyPairTemplates
import PstHsm.KeyNumbers
import PstHsm.KeyPairClasses
import PstHsm.KeyParameters
import PstHsm.ObjectFrames
import PstHsm.AttributeUpdates
import PstHsm.AttributeRoundTrips
import PstHsm.Requests
import PstHsm.RequestFields
import PstHsm.Responses
import PstHsm.AttributeReads
import PstHsm.MechanismDispatch
import PstHsm.SizeQueries
import PstHsm.SearchMatches
import PstHsm.KeyRecords
import PstHsm.ObjectLoading
import PstHsm.TornRecords
import PstHsm.StoredObjects
import PstHsm.TokenLabels
import PstHsm.Narrowing
import PstHsm.Deadlocks
import PstHsm.SessionIsolation
import PstHsm.FailedCalls
import PstHsm.ServedConnections
import PstHsm.ServerLimits
import PstHsm.Processes
import PstHsm.HandleLifetimes
import PstHsm.TokenFiles
import PstHsm.KeyBuffers
import PstHsm.ThreadedTables
import PstHsm.RacingGuesses
