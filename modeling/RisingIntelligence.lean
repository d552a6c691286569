import RisingIntelligence.Async.Program
import RisingIntelligence.Async.Interleaving
import RisingIntelligence.Async.Generator
import RisingIntelligence.Shared.FirstOfEach
import RisingIntelligence.Shared.JsString
import RisingIntelligence.Shared.JsArray
import RisingIntelligence.Shared.JsMap
import RisingIntelligence.Shared.Recency
import RisingIntelligence.Shared.Json
import RisingIntelligence.Shared.Pattern
import RisingIntelligence.Shared.Shrinking
import RisingIntelligence.Shared.Tokens
import RisingIntelligence.Shared.Throws
import RisingIntelligence.Shared.TopN
import RisingIntelligence.Shared.Message
import RisingIntelligence.Shared.Url
import RisingIntelligence.Shared.IpAddress
import RisingIntelligence.Pipeline.Transport
import RisingIntelligence.Pipeline.HandledPrefix
import RisingIntelligence.Pipeline.Source
import RisingIntelligence.Pipeline.RawEvent
import RisingIntelligence.Pipeline.BriefEvidence
import RisingIntelligence.Pipeline.CanonicalUrls
import RisingIntelligence.Pipeline.EvidenceText
import RisingIntelligence.Pipeline.EvidenceMarkers
import RisingIntelligence.Pipeline.EvidenceRecord
import RisingIntelligence.Pipeline.BriefingHandoff
import RisingIntelligence.Pipeline.EvidenceBudget
import RisingIntelligence.Pipeline.EnrichmentLaw
import RisingIntelligence.Http.FetchGuard
import RisingIntelligence.Topics.Extraction
import RisingIntelligence.Topics.WholeWords
import RisingIntelligence.Runtime.CircuitBreaker
import RisingIntelligence.Collector.RunAdapter
import RisingIntelligence.Collector.Checkpoints
import RisingIntelligence.Collector.AdapterApi
import RisingIntelligence.Collector.HackerNews
import RisingIntelligence.Collector.IngestionPipeline
import RisingIntelligence.Collector.SeenEvents
import RisingIntelligence.Collector.NewStories
import RisingIntelligence.Collector.FeedBursts
import RisingIntelligence.Collector.Serializer
import RisingIntelligence.Collector.TopicAssignment
import RisingIntelligence.Collector.ContentFetcher
import RisingIntelligence.Collector.DomainLimiter
import RisingIntelligence.Persister.Process
import RisingIntelligence.Persister.AtLeastOnce
import RisingIntelligence.Persister.HealthyBatch
import RisingIntelligence.Persister.EventRows
import RisingIntelligence.Trends.Snapshots
import RisingIntelligence.Trends.Counters
import RisingIntelligence.Trends.TopEvidence
import RisingIntelligence.Trends.Ranking
import RisingIntelligence.Brief.Types
import RisingIntelligence.Brief.BudgetLedger
import RisingIntelligence.Brief.ReservationSpec
import RisingIntelligence.Brief.Orchestrator
import RisingIntelligence.Brief.BudgetCap
import RisingIntelligence.Brief.ReservationDisposal
import RisingIntelligence.Brief.ResultAgreement
import RisingIntelligence.Brief.BudgetConservation
import RisingIntelligence.Brief.SummaryRequest
import RisingIntelligence.Brief.WellTyped
import RisingIntelligence.Brief.RequestWire
import RisingIntelligence.Brief.RequestRoundTrip
import RisingIntelligence.Brief.GroundedHighlights
import RisingIntelligence.Brief.GroundingLaws
import RisingIntelligence.Brief.GroundedNotes
import RisingIntelligence.Brief.EvidenceInsights
import RisingIntelligence.Brief.CodexCli
import RisingIntelligence.Brief.QueryModeTopics
import RisingIntelligence.Brief.MatcherCache
import RisingIntelligence.Brief.EvidenceSelection
import RisingIntelligence.Brief.GlobLaws
import RisingIntelligence.Brief.TopicRanking
import RisingIntelligence.OpsCli.TriggerAgreement
import RisingIntelligence.OpsCli.Args
import RisingIntelligence.Runtime.Startup
import RisingIntelligence.Async.Expansion
import RisingIntelligence.Async.Loop
import RisingIntelligence.Collector.AdapterLoop
import RisingIntelligence.Collector.AdapterLoopLaw
import RisingIntelligence.Pipeline.Consumer
import RisingIntelligence.Pipeline.PartitionLog
import RisingIntelligence.Shared.Chain
import RisingIntelligence.Shared.Replay
import RisingIntelligence.Trends.Consumer
import RisingIntelligence.Trends.Preparation
import RisingIntelligence.Brief.Consumer
import RisingIntelligence.Runtime.Resilience
import RisingIntelligence.Shared.Trace
import RisingIntelligence.Runtime.Lifecycle
import RisingIntelligence.Collector.MarketFilters
import RisingIntelligence.Collector.RssFeeds
import RisingIntelligence.Collector.Rss
import RisingIntelligence.Collector.RssLaw
import RisingIntelligence.Shared.Keyset
import RisingIntelligence.OpsCli.Backfill
import RisingIntelligence.OpsCli.BackfillLaw
import RisingIntelligence.OpsCli.Enrich
import RisingIntelligence.OpsCli.BackfillAlone
