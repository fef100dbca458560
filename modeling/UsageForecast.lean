import UsageForecast.Cache
import UsageForecast.Checkpoint.Basic
import UsageForecast.Checkpoint.Diagnosis
import UsageForecast.Checkpoint.Directory
import UsageForecast.Checkpoint.Store
import UsageForecast.Checkpoint.Turns
import UsageForecast.Cluster.ApiKind
import UsageForecast.Cluster.Listing
import UsageForecast.Cluster.Objects
import UsageForecast.Cluster.Pod
import UsageForecast.Cluster.Resolver
import UsageForecast.Cluster.Saved
import UsageForecast.Config.Basic
import UsageForecast.Config.Environment
import UsageForecast.Config.Outline
import UsageForecast.Config.Reading
import UsageForecast.Daemon.Basic
import UsageForecast.Daemon.Tasks
import UsageForecast.Decimal.Basic
import UsageForecast.Decimal.Literal
import UsageForecast.Decimal.Nearest
import UsageForecast.Decimal.Rendering
import UsageForecast.Engine.Basic
import UsageForecast.Engine.Schedule
import UsageForecast.Engine.Tasks
import UsageForecast.Estimator.Basic
import UsageForecast.Estimator.Quantile
import UsageForecast.Estimator.Saved
import UsageForecast.Failure
import UsageForecast.Health
import UsageForecast.Histogram.Basic
import UsageForecast.Histogram.Layout
import UsageForecast.Http.Exchange
import UsageForecast.Http.Message
import UsageForecast.Http.Url
import UsageForecast.Interleaving
import UsageForecast.Journal
import UsageForecast.Json.Basic
import UsageForecast.Json.Codec
import UsageForecast.Json.Reader
import UsageForecast.Json.Record
import UsageForecast.Json.Writer
import UsageForecast.KeyOrder
import UsageForecast.Main
import UsageForecast.Manager.Basic
import UsageForecast.Manager.Interleaving
import UsageForecast.Manager.Round
import UsageForecast.Profile.Key
import UsageForecast.Profile.Result
import UsageForecast.Profile.Spec
import UsageForecast.Profiler.Basic
import UsageForecast.Profiler.Cycle
import UsageForecast.Profiler.Interleaving
import UsageForecast.Proofs.CycleEffect
import UsageForecast.Proofs.Lookup
import UsageForecast.Proofs.Observation
import UsageForecast.Proofs.OfferOrigin
import UsageForecast.Proofs.Offers
import UsageForecast.Publishing.Body
import UsageForecast.Publishing.Delivery
import UsageForecast.Publishing.Publisher
import UsageForecast.Quantity.Reading
import UsageForecast.Quantity.Rendering
import UsageForecast.Resource
import UsageForecast.Router
import UsageForecast.Scalar.Basic
import UsageForecast.Scalar.Binary
import UsageForecast.Selector
import UsageForecast.Simulation.Daemon
import UsageForecast.Simulation.Engine
import UsageForecast.Simulation.Store
import UsageForecast.SortedMap
import UsageForecast.Source
import UsageForecast.Target
import UsageForecast.Telemetry
import UsageForecast.Text.Blank
import UsageForecast.Text.Digest
import UsageForecast.Text.Invisible
import UsageForecast.Text.Quoted
import UsageForecast.Time.Instant
import UsageForecast.Time.Timestamp
import UsageForecast.Usage.BackendFault
import UsageForecast.Usage.PodMetrics
import UsageForecast.Usage.Queries
import UsageForecast.Usage.QueryClient
import UsageForecast.Usage.Repository
import UsageForecast.Usage.Rows
import UsageForecast.Usage.Series
import UsageForecast.Usage.Snapshot
import UsageForecast.Proofs.AnswerOrder
import UsageForecast.Proofs.RepeatedCycles
import UsageForecast.Proofs.Following
import UsageForecast.Proofs.RestoredCycle
import UsageForecast.Proofs.ScalarOrder
import UsageForecast.Proofs.SoundProfiler
import UsageForecast.Proofs.EngineRun
import UsageForecast.Proofs.SoundManager
import UsageForecast.Proofs.Publication
import UsageForecast.Proofs.JsonText
import UsageForecast.Proofs.JsonRecord
import UsageForecast.Proofs.KeyText
import UsageForecast.Proofs.CheckpointText
import UsageForecast.Proofs.SavedEstimator
import UsageForecast.Proofs.StoreLaws
import UsageForecast.Proofs.DirectoryStore
import UsageForecast.Proofs.StoreHistory
import UsageForecast.Proofs.GarbageCollection
import UsageForecast.Proofs.EngineChange
import UsageForecast.Proofs.RestoredResult
import UsageForecast.Proofs.RoundEffect
import UsageForecast.Proofs.KeptCheckpoints
import UsageForecast.Proofs.Reregistration
import UsageForecast.Proofs.CacheHistory
import UsageForecast.Proofs.UnfailingRounds
import UsageForecast.Proofs.DaemonEvents
import UsageForecast.Proofs.WatchedHealth
import UsageForecast.Proofs.FiniteNumbers
import UsageForecast.Proofs.CheckpointNumbers
import UsageForecast.Proofs.RegisteredProfilers
import UsageForecast.Proofs.NumberedBuckets
import UsageForecast.Proofs.CheckpointFile
import UsageForecast.Proofs.RestorableCycles
import UsageForecast.Proofs.InterruptedSave
import UsageForecast.Proofs.SeparateFiles
import UsageForecast.Proofs.CheckpointListing
import UsageForecast.Proofs.SeparateStores
import UsageForecast.Proofs.RoundOrder
import UsageForecast.Proofs.KeyIsolation
import UsageForecast.Proofs.CallOrder
import UsageForecast.Proofs.OverlappingUpdates
import UsageForecast.Proofs.OverlappingRemovals
import UsageForecast.Proofs.ExactScalar
import UsageForecast.Proofs.InstantOrder
import UsageForecast.Proofs.BucketWeights
import UsageForecast.Proofs.RunningStatistics
import UsageForecast.Proofs.GeometricLayout
import UsageForecast.Proofs.QuantileInversion
import UsageForecast.Proofs.EmpiricalQuantile
import UsageForecast.Proofs.DamagedCheckpoint
import UsageForecast.Proofs.Readings
import UsageForecast.Proofs.FoldedSamples
import UsageForecast.Proofs.FoldHistory
import UsageForecast.Proofs.ContainerCycle
import UsageForecast.Proofs.PodTotals
import UsageForecast.Proofs.PodCycle
import UsageForecast.Proofs.SingleQuantity
import UsageForecast.Proofs.Contrast
import UsageForecast.Proofs.SampleOrder
import UsageForecast.Proofs.FaultIsolation
import UsageForecast.Proofs.RefusedOperations
import UsageForecast.Proofs.Retention
import UsageForecast.Proofs.ScalarSign
import UsageForecast.Proofs.QuantityGrammar
import UsageForecast.Proofs.QuantityValue
import UsageForecast.Proofs.QuantityRoundTrip
import UsageForecast.Proofs.EstimatorLifetime
import UsageForecast.Proofs.KeyIdentity
import UsageForecast.Proofs.FetchHistory
import UsageForecast.Proofs.CycleFaults
import UsageForecast.Proofs.StandardProfiles
import UsageForecast.Proofs.ApiObjects
import UsageForecast.Proofs.ListedCluster
import UsageForecast.Proofs.WrittenObjects
import UsageForecast.Proofs.Coverage
import UsageForecast.Proofs.SignedBuckets
import UsageForecast.Proofs.DecayedWeights
import UsageForecast.Proofs.MergedSeries
import UsageForecast.Proofs.FileTurns
