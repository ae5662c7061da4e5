import Mathlib.Data.Rat.Init
import EmbeddingService.Contracts.Python

/-!
# Configuration

The settings the queue side of the service reads, and the two lanes with the
specification each of them runs under.
-/

namespace EmbeddingService

/-- `Lane`: queries are latency first, indexing is throughput first. -/
inductive LaneName where
  | query
  | index
  deriving DecidableEq, Repr

def LaneName.text : LaneName → PyStr
  | .query => pyStr "query"
  | .index => pyStr "index"

/-- The settings of the queue.  A lane's batcher refuses a batch size below
one, so no worker runs with such a size. -/
structure Settings where
  maxBatchItems : Int := 128
  maxCharsPerText : Int := 8000
  mqMetadataMaxBytes : Int := 16384
  queryPrefetch : Int := 16
  queryBatchMaxTexts : Int := 32
  queryBatchWindowMs : ℚ := 5
  queryTtlMs : Int := 5000
  indexResultsQueue : PyStr := pyStr "indexer.results"
  indexPrefetch : Int := 32
  indexBatchMaxTexts : Int := 256
  indexBatchWindowMs : ℚ := 50
  indexDeliveryLimit : Int := 5
  queryTextsPositive : 1 ≤ queryBatchMaxTexts := by decide
  indexTextsPositive : 1 ≤ indexBatchMaxTexts := by decide

/-- The settings of an empty environment. -/
def Settings.defaults : Settings := {}

/-- Settings with batches of one text. -/
def Settings.oneText : Settings :=
  { queryBatchMaxTexts := 1, indexBatchMaxTexts := 1 }

/-- Settings with batches of two texts. -/
def Settings.twoTexts : Settings :=
  { queryBatchMaxTexts := 2, indexBatchMaxTexts := 2 }

/-- What a worker knows about one of its lanes.  A lower `priority` runs first
when both lanes share a process. -/
structure LaneSpec where
  name : LaneName
  prefetch : Int
  maxTexts : Int
  maxTextsPositive : 1 ≤ maxTexts
  windowS : ℚ
  priority : Int
  persistentReply : Bool
  mandatoryReply : Bool
  retryOnFailure : Bool

/-- `lane_specs`.  Index replies survive a broker restart and must reach a
real queue, and index requests are retried; a query that failed once is
answered with an error instead. -/
def laneSpecs (settings : Settings) : LaneName → LaneSpec
  | .query =>
      { name := .query
        prefetch := settings.queryPrefetch
        maxTexts := settings.queryBatchMaxTexts
        maxTextsPositive := settings.queryTextsPositive
        windowS := settings.queryBatchWindowMs / 1000
        priority := 0
        persistentReply := false
        mandatoryReply := false
        retryOnFailure := false }
  | .index =>
      { name := .index
        prefetch := settings.indexPrefetch
        maxTexts := settings.indexBatchMaxTexts
        maxTextsPositive := settings.indexTextsPositive
        windowS := settings.indexBatchWindowMs / 1000
        priority := 1
        persistentReply := true
        mandatoryReply := true
        retryOnFailure := true }

end EmbeddingService
