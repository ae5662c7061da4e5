import EmbeddingService.Library.LabelledRuns
import EmbeddingService.Batcher.MicroBatcherRuns
import EmbeddingService.Batcher.PrioritySlotRuns
import EmbeddingService.Contracts.Config
import EmbeddingService.Contracts.Schemas
import EmbeddingService.Handler
import EmbeddingService.Worker.Settling
import EmbeddingService.Worker.OnMessage
import EmbeddingService.Worker.State
import EmbeddingService.Worker.Step
import EmbeddingService.Library.Trace
import EmbeddingService.Worker.Ledger
import EmbeddingService.Worker.LedgerRuns
import EmbeddingService.Library.ListUpdate
import EmbeddingService.Worker.LedgerView
import EmbeddingService.Worker.Process
import EmbeddingService.Worker.LedgerRefinement
import EmbeddingService.Worker.EncodeExclusion
import EmbeddingService.Worker.Outcomes
import EmbeddingService.Worker.Discipline
import EmbeddingService.Worker.QuietRuns
import EmbeddingService.Worker.Shutdown
import EmbeddingService.Library.Inevitability
import EmbeddingService.Worker.Progress
import EmbeddingService.Worker.LaneLoop
import EmbeddingService.System.Fleet
import EmbeddingService.Wire
import EmbeddingService.System.Attempts
import EmbeddingService.Client.Jobs
import EmbeddingService.System.Answers
import EmbeddingService.System.IndexLane
import EmbeddingService.Client.EmbeddingClient
import EmbeddingService.Client.ClientRuns
import EmbeddingService.Client.Results
import EmbeddingService.System.QueryLane
import EmbeddingService.BatchedEncoding
import EmbeddingService.EncodeCosts
import EmbeddingService.Batcher.Deadlines
import EmbeddingService.Batcher.Starvation
import EmbeddingService.Batcher.NextBatch
import EmbeddingService.System.Replies
import EmbeddingService.Worker.Expiry
import EmbeddingService.Worker.Drain
import EmbeddingService.Worker.Disconnect
import EmbeddingService.Worker.Finishing
import EmbeddingService.Worker.Verdicts
import EmbeddingService.Worker.Stats
import EmbeddingService.Worker.StatsRuns
import EmbeddingService.System.Poison
import EmbeddingService.Batcher.Batches
import EmbeddingService.Batcher.SlotOrder
import EmbeddingService.Worker.SlotTurns
import EmbeddingService.Worker.ProcessedBatches
import EmbeddingService.Worker.Tenure
import EmbeddingService.Batcher.FullTurns
import EmbeddingService.Client.PendingTable
import EmbeddingService.System.Correlation
import EmbeddingService.Http.Embeddings
import EmbeddingService.Http.EncodeSlot
import EmbeddingService.Http.EngineHealth
import EmbeddingService.Engine.Loading
import EmbeddingService.Engine.Encode
import EmbeddingService.Http.Served
import EmbeddingService.System.Transports
import EmbeddingService.Engine.TokenizerLog
import EmbeddingService.Contracts.Requests
import EmbeddingService.System.Acceptance
import EmbeddingService.System.EngineCalls
import EmbeddingService.Library.Declarations
import EmbeddingService.Broker.Amqp
import EmbeddingService.Broker.Topology
import EmbeddingService.System.BrokerSetup
import EmbeddingService.System.BrokerAgreement
import EmbeddingService.Worker.AnsweredOnce
import EmbeddingService.System.StoredOnce
import EmbeddingService.Http.RequestsEnd
import EmbeddingService.System.Backpressure
import EmbeddingService.System.Repeats
import EmbeddingService.System.IndexResults
import EmbeddingService.Worker.Verdicts
