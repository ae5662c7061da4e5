import EmbeddingService.Encoding
import EmbeddingService.Engine.Loading

/-!
# Encoding with the loaded model

`EmbeddingEngine.encode` with its query instruction and its truncation flags.
What the model and its tokenizer do is a parameter; where they treat every
text by itself, so does the engine, and the results of a worker are the
engine's answers to the texts of their jobs.
-/

namespace EmbeddingService

/-- The calls of a loaded model: its `encode`, with the batch size and the flag
for unit length, and the lengths its tokenizer counts without truncation.
Vectors are the rows of `tolist()`. -/
structure ModelCalls (Weights : Type) where
  encodes : SentenceTransformer Weights → List PyStr → Int → Bool →
    Except PyException (List (List PyFloat)) → Prop
  lengths : SentenceTransformer Weights → List PyStr →
    Except PyException (List Int) → Prop

/-- `ModelNotLoadedError`. -/
def modelNotLoadedError : PyException :=
  ⟨pyStr "call EmbeddingEngine.load() first"⟩

/-- `prepared` of `encode`: a query carries the instruction, a passage is
embedded bare. -/
def preparedTexts (settings : EngineSettings) (inputType : InputType)
    (texts : List PyStr) : List PyStr :=
  if inputType = .query ∧ settings.queryInstruction ≠ [] then
    texts.map (settings.queryInstruction ++ ·)
  else
    texts

/-- The flags of `_detect_truncation`. -/
def SentenceTransformer.detectTruncation {Weights : Type}
    (model : SentenceTransformer Weights) (lengths : List Int) :
    List Bool :=
  lengths.map (fun length => decide (model.maxSeqLength < length))

/-- `encode`, with what its two calls of the model return or raise and the
time it took.  The model would raise on an empty list, so it is not called. -/
def EmbeddingEngine.encode {Weights : Type}
    (engine : EmbeddingEngine Weights) (request : EncodeCall)
    (vectors : Except PyException (List (List PyFloat)))
    (lengths : Except PyException (List Int)) (tookMs : PyFloat) :
    EngineReply :=
  match engine.model with
  | none => .error modelNotLoadedError
  | some model =>
      if request.texts.isEmpty then
        .ok { embeddings := [], truncated := [], tookMs := .zero }
      else do
        let embeddings ← vectors
        let counted ← lengths
        .ok
          { embeddings := embeddings
            truncated := model.detectTruncation counted
            tookMs := tookMs }

/-- What `encode` may return or raise. -/
def EngineReplies {Weights : Type} (calls : ModelCalls Weights)
    (settings : EngineSettings) (engine : EmbeddingEngine Weights)
    (request : EncodeCall) (reply : EngineReply) : Prop :=
  ∃ vectors lengths tookMs,
    (∀ model, engine.model = some model →
      let prepared :=
        preparedTexts settings request.inputType request.texts
      calls.encodes model prepared settings.encodeBatchSize
          request.normalize vectors ∧
        calls.lengths model prepared lengths) ∧
    reply = engine.encode request vectors lengths tookMs

/-- A model that treats every text by itself, in order: it returns one vector
and counts one length for each. -/
structure ModelCalls.TextWise {Weights : Type} (calls : ModelCalls Weights)
    (model : SentenceTransformer Weights)
    (vector : Bool → PyStr → List PyFloat) (tokens : PyStr → Int) :
    Prop where
  encodes : ∀ texts size normalize vectors,
    calls.encodes model texts size normalize (.ok vectors) →
      vectors = texts.map (vector normalize)
  lengths : ∀ texts lengths, calls.lengths model texts (.ok lengths) →
    lengths = texts.map tokens

/-- What the engine makes of one text before the model sees it. -/
def preparedText (settings : EngineSettings) (inputType : InputType)
    (text : PyStr) : PyStr :=
  match inputType with
  | .query => settings.queryInstruction ++ text
  | .passage => text

theorem preparedTexts_eq_map (settings : EngineSettings)
    (inputType : InputType) (texts : List PyStr) :
    preparedTexts settings inputType texts =
      texts.map (preparedText settings inputType) := by
  cases inputType with
  | passage =>
      exact (List.map_id texts).symm
  | query =>
      unfold preparedTexts
      split
      · rfl
      · next bare =>
          have none : settings.queryInstruction = [] := by
            simpa using bare
          have same : preparedText settings .query = id := by
            funext text
            rw [preparedText, none]
            rfl
          rw [same, List.map_id]

/-- The answer of the engine to one text. -/
structure TextAnswer where
  vector : List PyFloat
  truncated : Bool

/-- What the model gives the prepared text, and whether its tokens are more
than the model reads. -/
def engineAnswer {Weights : Type} (settings : EngineSettings)
    (model : SentenceTransformer Weights)
    (vector : Bool → PyStr → List PyFloat) (tokens : PyStr → Int)
    (inputType : InputType) (normalize : Bool) (text : PyStr) :
    TextAnswer :=
  let prepared := preparedText settings inputType text
  { vector := vector normalize prepared
    truncated := decide (model.maxSeqLength < tokens prepared) }

abbrev TextAnswers := InputType → Bool → PyStr → TextAnswer

/-- A reply that holds the answers to the texts, one by one. -/
structure Encoded (answers : TextAnswers) (request : EncodeCall)
    (embeddings : List (List PyFloat)) (truncated : List Bool) : Prop where
  embeddings : embeddings = request.texts.map (fun text =>
    (answers request.inputType request.normalize text).vector)
  truncated : truncated = request.texts.map (fun text =>
    (answers request.inputType request.normalize text).truncated)

/-- The result of a job holds the answers to the texts of the job, and says
which engine gave them. -/
structure AnswersJob (engine : EngineInfo) (answers : TextAnswers)
    (job : EmbeddingJob) (result : EmbeddingResult) : Prop where
  attributed : Attributed job result
  embeddings : result.embeddings = job.input.map (fun text =>
    (answers job.inputType job.normalize text).vector)
  truncated : result.truncated = job.input.map (fun text =>
    (answers job.inputType job.normalize text).truncated)
  inputType : result.inputType = some job.inputType
  normalized : result.normalized = some job.normalize
  modelName : result.modelName = some engine.modelName
  dimensions : result.dimensions = some engine.dimensions

section Answers

variable {Weights : Type} {calls : ModelCalls Weights}
  {settings : EngineSettings} {engine : EmbeddingEngine Weights}
  {model : SentenceTransformer Weights}
  {vector : Bool → PyStr → List PyFloat} {tokens : PyStr → Int}
  {request : EncodeCall} {result : EncodeResult}

/-- With a model that treats every text by itself, so does the engine. -/
theorem EngineReplies.encoded (loaded : engine.model = some model)
    (textWise : calls.TextWise model vector tokens)
    (replied : EngineReplies calls settings engine request
      (.ok result)) :
    Encoded (engineAnswer settings model vector tokens) request
      result.embeddings result.truncated := by
  obtain ⟨vectors, lengths, tookMs, called, returned⟩ := replied
  obtain ⟨encodes, counts⟩ := called model loaded
  unfold EmbeddingEngine.encode at returned
  rw [loaded] at returned
  dsimp only at returned
  split at returned
  · next empty =>
      have noTexts : request.texts = [] := by
        simpa using empty
      cases returned
      constructor <;> simp [noTexts]
  · cases vectors with
    | error raised =>
        cases returned
    | ok rows =>
        cases lengths with
        | error raised =>
            cases returned
        | ok counted =>
            cases returned
            have rowsAre := textWise.encodes _ _ _ _ encodes
            have countedAre := textWise.lengths _ _ counts
            rw [preparedTexts_eq_map, List.map_map] at rowsAre countedAre
            constructor
            · exact rowsAre
            · dsimp only
              rw [SentenceTransformer.detectTruncation, countedAre,
                List.map_map]
              rfl

theorem slice_map {Value Other : Type} (change : Value → Other)
    {values before middle after : List Value}
    (split : values = before ++ (middle ++ after)) :
    slice (values.map change) before.length
      (before.length + middle.length) = middle.map change := by
  have sliced := slice_append (before.map change) (middle.map change)
    (after.map change)
  rw [List.length_map, List.length_map] at sliced
  rw [split, List.map_append, List.map_append]
  exact sliced

/-- The part of a job in an encode holds the answers to the job's texts. -/
theorem OwnPart.answersJob {info : EngineInfo} {answers : TextAnswers}
    {Allowed : EncodeCall → EngineReply → Prop} {job : EmbeddingJob}
    {result : EmbeddingResult}
    (answered : ∀ request encoded, Allowed request (.ok encoded) →
      Encoded answers request encoded.embeddings encoded.truncated)
    (own : OwnPart info Allowed job result) :
    AnswersJob info answers job result := by
  obtain @⟨_, before, after, request, encoded, texts, sameType,
    sameNormalize, replied⟩ := own
  obtain ⟨embeddings, truncated⟩ := answered request encoded replied
  refine ⟨⟨rfl, rfl, rfl, rfl⟩, ?_, ?_, congrArg some sameType.symm,
    congrArg some sameNormalize.symm, rfl, rfl⟩
  · rw [jobResult, embeddings, sameType, sameNormalize]
    exact slice_map _ texts
  · rw [jobResult, truncated, sameType, sameNormalize]
    exact slice_map _ texts

/-- A worker with the loaded model gives every job the answers to its
texts. -/
theorem splitsGood_answersJob (info : EngineInfo)
    (workerId : Option PyStr) (loaded : engine.model = some model)
    (textWise : calls.TextWise model vector tokens) :
    SplitsGood info workerId (EngineReplies calls settings engine)
      (AnswersJob info (engineAnswer settings model vector tokens)) :=
  fun first rest encoded sharing replied =>
    (splitsGood_ownPart first rest encoded sharing replied).imp
      (fun _ _ own => own.answersJob
        (fun _ _ allowed =>
          EngineReplies.encoded loaded textWise allowed))

end Answers

end EmbeddingService
