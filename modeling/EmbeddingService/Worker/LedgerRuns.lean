import Mathlib.Algebra.Order.Group.Multiset
import EmbeddingService.Worker.Ledger

/-!
# Runs of the ledger

Every move of the ledger keeps it in order, so that every run of whatever
follows the ledger is disciplined.
-/

namespace EmbeddingService

open LabelledRuns Trace

/-- The cell of a delivery after the first segment of `_on_message`, if it is
not lost to an exception. -/
def receivedCells {Body : Type} (lane : LaneName) (message : Message Body) :
    HandlerState Body → Multiset (Cell Body)
  | .settling state =>
      {{ lane := lane, message := message, phase := .settling state }}
  | .buffered job =>
      {{ lane := lane, message := message, phase := .held job }}
  | .escaped _ => 0

namespace Ledger

variable {Body : Type}

/-- A delivery moves to another phase. -/
def move (ledger : Ledger Body) (rest : Multiset (Cell Body))
    (lane : LaneName) (message : Message Body)
    (segment : Segment Body (Settling Body)) : Ledger Body :=
  { ledger with
    cells :=
      { lane := lane, message := message, phase := .settling segment.1 } ::ₘ
        rest
    log := ledger.log ++ segment.2 }

/-- A delivery arrives. -/
def receive (ledger : Ledger Body) (lane : LaneName)
    (message : Message Body)
    (segment : Segment Body (HandlerState Body)) : Ledger Body :=
  { ledger with
    received := ledger.received ++ [(lane, message)]
    cells := receivedCells lane message segment.1 + ledger.cells
    log := ledger.log ++ segment.2 }

/-- The moves of the ledger, one for each way a coroutine can take up a
delivery. -/
inductive Step (environment : Environment Body) (workerId : PyStr)
    (Good : EmbeddingJob → EmbeddingResult → Prop) :
    Ledger Body → Unit → Ledger Body → Prop
  | encode {ledger : Ledger Body} {lane : LaneName}
      {jobs : List EmbeddingJob} {now : Instant} :
      Step environment workerId Good ledger ()
        { ledger with log := ledger.log ++ [.encodeStarted lane jobs now] }
  | drain {ledger : Ledger Body} :
      Step environment workerId Good ledger ()
        { ledger with
          draining := true
          log := ledger.log ++ [.drainingBegan] }
  | receive {ledger : Ledger Body} {lane : LaneName}
      {message : Message Body} {freshId : PyStr} {now : Instant}
      (fresh : message.tag ∉
        ledger.received.map (fun origin => origin.2.tag)) :
      Step environment workerId Good ledger ()
        (ledger.receive lane message
          (onMessage environment workerId lane ledger.draining freshId now
            message))
  | expire {ledger : Ledger Body} {rest : Multiset (Cell Body)}
      {lane : LaneName} {message : Message Body} {job : EmbeddingJob}
      {now : Instant}
      (held : ledger.cells =
        { lane := lane, message := message, phase := .held job } ::ₘ rest)
      (late : isExpired job now = true) :
      Step environment workerId Good ledger ()
        (ledger.move rest lane message
          (EmbeddingService.expire environment workerId lane
            { message := message, job := job } now))
  | finish {ledger : Ledger Body} {rest : Multiset (Cell Body)}
      {lane : LaneName} {message : Message Body} {job : EmbeddingJob}
      {outcome : Outcome}
      (held : ledger.cells =
        { lane := lane, message := message, phase := .held job } ::ₘ rest)
      (good : ∀ result, outcome = .ok result → Good job result) :
      Step environment workerId Good ledger ()
        (ledger.move rest lane message
          (EmbeddingService.finish environment workerId lane
            { message := message, job := job } outcome))
  | abandon {ledger : Ledger Body} {rest : Multiset (Cell Body)}
      {lane : LaneName} {message : Message Body} {job : EmbeddingJob}
      (held : ledger.cells =
        { lane := lane, message := message, phase := .held job } ::ₘ rest) :
      Step environment workerId Good ledger ()
        (ledger.move rest lane message (.ended .cancelled, []))
  | resume {ledger : Ledger Body} {rest : Multiset (Cell Body)}
      {lane : LaneName} {message : Message Body} {state : Settling Body}
      {how : Ending}
      (settling : ledger.cells =
        { lane := lane, message := message, phase := .settling state } ::ₘ
          rest) :
      Step environment workerId Good ledger ()
        (ledger.move rest lane message (state.resume lane message how))

variable {environment : Environment Body} {workerId : PyStr}
  {Good : EmbeddingJob → EmbeddingResult → Prop}

theorem sound_empty :
    ({} : Ledger Body).Sound environment workerId Good where
  tagsUnique := List.nodup_nil
  cellsReceived := Multiset.zero_le _
  agrees := by simp
  unknownUnsettled := by simp
  bufferedHeld := by simp
  drains := by simp
  justified := every_nil

/-- Events that leave the settlements of a delivery alone keep its cell in
agreement with the log. -/
theorem agrees_append {cell : Cell Body} {log added : List (Event Body)}
    (agrees : cell.Agrees environment workerId Good log)
    (untouched : settlements cell.message.tag added = 0) :
    cell.Agrees environment workerId Good (log ++ added) := by
  obtain ⟨lane, message, phase⟩ := cell
  have same : settlements message.tag (log ++ added) =
      settlements message.tag log := by
    rw [settlements_append, untouched, Nat.add_zero]
  cases phase with
  | held job =>
      exact ⟨agrees.1, same.trans agrees.2⟩
  | settling state =>
      cases state with
      | publishing result retry reply =>
          exact ⟨agrees.1, List.mem_append_left _ agrees.2.1,
            same.trans agrees.2.2⟩
      | acking =>
          exact same.trans agrees
      | nacking requeue =>
          exact same.trans agrees
      | ended how =>
          cases how with
          | returned =>
              exact same.trans agrees
          | raised =>
              exact same.le.trans agrees
          | cancelled =>
              exact same.le.trans agrees

section Moving

variable {ledger : Ledger Body} {rest : Multiset (Cell Body)}
  {cell : Cell Body}

/-- Two cells of a sound ledger are about different deliveries. -/
theorem Sound.others_differ
    (sound : ledger.Sound environment workerId Good)
    (split : ledger.cells = cell ::ₘ rest) {other : Cell Body}
    (member : other ∈ rest) : other.message.tag ≠ cell.message.tag := by
  have tagsBelow :
      (ledger.cells.map Cell.origin).map (fun origin => origin.2.tag) ≤
        (ledger.received : Multiset (LaneName × Message Body)).map
          (fun origin => origin.2.tag) :=
    Multiset.map_le_map sound.cellsReceived
  rw [split, Multiset.map_cons, Multiset.map_cons, Multiset.map_coe]
    at tagsBelow
  have distinct := Multiset.nodup_of_le tagsBelow
    (Multiset.coe_nodup.mpr sound.tagsUnique)
  rw [Multiset.nodup_cons] at distinct
  intro same
  apply distinct.1
  rw [Multiset.map_map, Multiset.mem_map]
  exact ⟨other, member, same⟩

theorem Sound.cell_known (sound : ledger.Sound environment workerId Good)
    (split : ledger.cells = cell ::ₘ rest) :
    cell.message.tag ∈
      ledger.received.map (fun origin => origin.2.tag) := by
  have member : cell.origin ∈ ledger.cells.map Cell.origin := by
    rw [split, Multiset.map_cons]
    exact Multiset.mem_cons_self _ _
  have received := Multiset.mem_of_le sound.cellsReceived member
  exact List.mem_map.mpr ⟨cell.origin, received, rfl⟩

/-- A segment that is in order moves its delivery and keeps the ledger
sound. -/
theorem Sound.move (sound : ledger.Sound environment workerId Good)
    (split : ledger.cells = cell ::ₘ rest)
    {segment : Segment Body (Settling Body)}
    (settles : Settles environment workerId Good cell.lane cell.message
      ledger.log segment) :
    (ledger.move rest cell.lane cell.message segment).Sound environment
      workerId Good where
  tagsUnique := sound.tagsUnique
  cellsReceived := by
    have below := sound.cellsReceived
    rw [split, Multiset.map_cons] at below
    rw [Ledger.move, Multiset.map_cons]
    exact below
  agrees := by
    intro other member
    rcases Multiset.mem_cons.mp member with rfl | later
    · exact settles.agrees
    · have before : other ∈ ledger.cells := by
        rw [split]
        exact Multiset.mem_cons_of_mem later
      exact agrees_append (sound.agrees other before)
        (settles.about _ (sound.others_differ split later))
  unknownUnsettled := by
    intro tag unknown
    have different : tag ≠ cell.message.tag := by
      intro same
      rw [same] at unknown
      exact unknown (sound.cell_known split)
    have before := sound.unknownUnsettled tag unknown
    simp [Ledger.move, before, settles.about tag different]
  bufferedHeld := by
    intro lane message member
    rcases List.mem_append.mp member with earlier | added
    · have held := sound.bufferedHeld lane message earlier
      rw [split, Multiset.map_cons] at held
      rw [Ledger.move, Multiset.map_cons]
      exact held
    · cases settles.settlement _ added
  drains := by
    rw [Ledger.move, List.mem_append]
    refine sound.drains.trans ⟨Or.inl, ?_⟩
    intro member
    rcases member with earlier | added
    · exact earlier
    · cases settles.settlement _ added
  justified := sound.justified.append settles.follows

/-- An event about no delivery keeps the ledger sound. -/
theorem Sound.note (sound : ledger.Sound environment workerId Good)
    {event : Event Body} {draining : Bool}
    (silent : ∀ tag, settlements tag [event] = 0)
    (unbuffered : ∀ lane message, event ≠ .buffered lane message)
    (justified : Justified environment workerId Good ledger.log event)
    (drains : draining = true ↔ .drainingBegan ∈ ledger.log ++ [event]) :
    ({ ledger with
        draining := draining
        log := ledger.log ++ [event] } : Ledger Body).Sound
      environment workerId Good where
  tagsUnique := sound.tagsUnique
  cellsReceived := sound.cellsReceived
  agrees := fun cell member =>
    agrees_append (sound.agrees cell member) (silent _)
  unknownUnsettled := by
    intro tag unknown
    rw [settlements_append, sound.unknownUnsettled tag unknown, silent]
  bufferedHeld := by
    intro lane message member
    rcases List.mem_append.mp member with earlier | added
    · exact sound.bufferedHeld lane message earlier
    · rw [List.mem_singleton] at added
      exact False.elim (unbuffered lane message added.symm)
  drains := drains
  justified := sound.justified.append ⟨justified, trivial⟩

end Moving

section Receiving

variable {lane : LaneName} {message : Message Body} {draining : Bool}
  {freshId : PyStr} {now : Instant} {log : List (Event Body)}

/-- The first segment of `_on_message` is in order after `log`. -/
structure Receives (environment : Environment Body) (workerId : PyStr)
    (Good : EmbeddingJob → EmbeddingResult → Prop) (lane : LaneName)
    (message : Message Body) (log : List (Event Body))
    (segment : Segment Body (HandlerState Body)) : Prop where
  about : ∀ tag, tag ≠ message.tag → settlements tag segment.2 = 0
  buffered : ∀ other otherMessage, .buffered other otherMessage ∈ segment.2 →
    (other, otherMessage) ∈
      (receivedCells lane message segment.1).map Cell.origin
  undrained : .drainingBegan ∉ segment.2
  follows : Follows (Justified environment workerId Good) log segment.2
  agrees : ∀ cell ∈ receivedCells lane message segment.1,
    cell.Agrees environment workerId Good (log ++ segment.2)

theorem receives_of_settles {segment : Segment Body (Settling Body)}
    (settles : Settles environment workerId Good lane message log segment) :
    Receives environment workerId Good lane message log
      (.settling segment.1, segment.2) where
  about := settles.about
  buffered := by
    intro other otherMessage member
    cases settles.settlement _ member
  undrained := by
    intro member
    cases settles.settlement _ member
  follows := settles.follows
  agrees := by
    intro cell member
    rw [receivedCells, Multiset.mem_singleton] at member
    rw [member]
    exact settles.agrees

theorem onMessage_receives
    (drains : draining = true ↔ .drainingBegan ∈ log)
    (unsettled : settlements message.tag log = 0) :
    Receives environment workerId Good lane message log
      (onMessage environment workerId lane draining freshId now
        message) := by
  cases draining with
  | true =>
      rw [onMessage_of_draining]
      have settles : Settles environment workerId Good lane message log
          (.nacking true, [.nacked lane message true]) :=
        { about := by
            intro tag different
            simp [Event.settles, different.symm]
          settlement := by simp [Event.isSettlement]
          follows :=
            ⟨⟨unsettled, Or.inl ⟨rfl, drains.mp rfl⟩⟩, trivial⟩
          agrees := by
            simp [Cell.Agrees, unsettled, Event.settles] }
      exact receives_of_settles settles
  | false =>
      cases parsed : parseMessage environment workerId freshId message with
      | error escape =>
          rw [onMessage_of_escape parsed]
          exact
            { about := by simp
              buffered := by simp
              undrained := by simp
              follows := trivial
              agrees := by simp [receivedCells] }
      | ok parsedMessage =>
          cases parsedMessage with
          | rejection result =>
              rw [onMessage_of_rejection parsed]
              have justified : Justified environment workerId Good log
                  (.rejected lane message result) :=
                ⟨freshId, parsed⟩
              refine receives_of_settles
                (Settles.cons (fun _ => rfl) rfl justified
                  (settle_settles (.rejected parsed) ?_))
              simp [unsettled, Event.settles]
          | job job =>
              have parsedAs :
                  ParsedAs environment workerId message job :=
                ⟨freshId, parsed⟩
              cases late : isExpired job now with
              | true =>
                  rw [onMessage_of_expired parsed late]
                  exact receives_of_settles
                    (expire_settles parsedAs late unsettled)
              | false =>
                  rw [onMessage_of_buffered parsed late]
                  exact
                    { about := by
                        intro tag different
                        simp [Event.settles]
                      buffered := by
                        intro other otherMessage member
                        rw [List.mem_singleton] at member
                        cases member
                        simp [receivedCells, Cell.origin]
                      undrained := by simp
                      follows := by
                        refine ⟨⟨?_, job, parsedAs⟩, trivial⟩
                        simpa using drains
                      agrees := by
                        intro cell member
                        rw [receivedCells, Multiset.mem_singleton] at member
                        rw [member]
                        exact ⟨parsedAs, by simp [unsettled, Event.settles]⟩ }

theorem receivedCells_origin_le (state : HandlerState Body) :
    (receivedCells lane message state).map Cell.origin ≤
      {(lane, message)} := by
  cases state with
  | settling state =>
      simp [receivedCells, Cell.origin]
  | buffered job =>
      simp [receivedCells, Cell.origin]
  | escaped escape =>
      simp [receivedCells]

theorem Sound.receive {ledger : Ledger Body}
    (sound : ledger.Sound environment workerId Good)
    (fresh : message.tag ∉
      ledger.received.map (fun origin => origin.2.tag))
    {segment : Segment Body (HandlerState Body)}
    (receives : Receives environment workerId Good lane message ledger.log
      segment) :
    (ledger.receive lane message segment).Sound environment workerId
      Good where
  tagsUnique := by
    rw [Ledger.receive, List.map_append, List.nodup_append]
    refine ⟨sound.tagsUnique, by simp, ?_⟩
    intro tag member other single
    rw [List.map_singleton, List.mem_singleton] at single
    intro same
    apply fresh
    rw [← single, ← same]
    exact member
  cellsReceived := by
    rw [Ledger.receive, Multiset.map_add, ← Multiset.coe_add, add_comm]
    exact add_le_add sound.cellsReceived (receivedCells_origin_le _)
  agrees := by
    intro cell member
    rcases Multiset.mem_add.mp member with new | old
    · exact receives.agrees cell new
    · refine agrees_append (sound.agrees cell old) (receives.about _ ?_)
      intro same
      obtain ⟨others, split⟩ := Multiset.exists_cons_of_mem old
      apply fresh
      rw [← same]
      exact sound.cell_known split
  unknownUnsettled := by
    intro tag unknown
    rw [Ledger.receive, List.map_append, List.mem_append, not_or]
      at unknown
    have different : tag ≠ message.tag := by
      simpa using unknown.2
    rw [Ledger.receive, settlements_append,
      sound.unknownUnsettled tag unknown.1, receives.about tag different]
  bufferedHeld := by
    intro other otherMessage member
    rw [Ledger.receive, Multiset.map_add, Multiset.mem_add]
    rcases List.mem_append.mp member with earlier | added
    · exact Or.inr (sound.bufferedHeld other otherMessage earlier)
    · exact Or.inl (receives.buffered other otherMessage added)
  drains := by
    rw [Ledger.receive, List.mem_append]
    refine sound.drains.trans ⟨Or.inl, ?_⟩
    intro member
    rcases member with earlier | added
    · exact earlier
    · exact False.elim (receives.undrained added)
  justified := sound.justified.append receives.follows

end Receiving

/-- Every move of the ledger keeps it in order. -/
theorem Sound.step {ledger after : Ledger Body} {label : Unit}
    (sound : ledger.Sound environment workerId Good)
    (taken : Step environment workerId Good ledger label after) :
    after.Sound environment workerId Good := by
  cases taken with
  | @encode lane jobs now =>
      refine sound.note (by simp [Event.settles]) (by simp) trivial ?_
      simpa using sound.drains
  | drain =>
      refine sound.note (by simp [Event.settles]) (by simp) trivial ?_
      simp
  | receive fresh =>
      exact sound.receive fresh
        (onMessage_receives sound.drains (sound.unknownUnsettled _ fresh))
  | @expire rest lane message job now held late =>
      obtain ⟨parsed, unsettled⟩ := sound.agrees _
        (held ▸ Multiset.mem_cons_self _ _)
      exact sound.move held (expire_settles parsed late unsettled)
  | @finish rest lane message job outcome held good =>
      obtain ⟨parsed, unsettled⟩ := sound.agrees _
        (held ▸ Multiset.mem_cons_self _ _)
      exact sound.move held (finish_settles parsed good unsettled)
  | @abandon rest lane message job held =>
      obtain ⟨_, unsettled⟩ := sound.agrees _
        (held ▸ Multiset.mem_cons_self _ _)
      refine sound.move held ?_
      exact
        { about := by simp
          settlement := by simp
          follows := trivial
          agrees := by
            simp [Cell.Agrees, unsettled] }
  | @resume rest lane message state how settling =>
      have agrees := sound.agrees _
        (settling ▸ Multiset.mem_cons_self _ _)
      exact sound.move settling (resume_settles how agrees)

/-- The log only grows. -/
theorem log_extends {ledger after : Ledger Body}
    (reachable : Reachable (Step environment workerId Good) ledger after) :
    ∃ added, after.log = ledger.log ++ added := by
  refine reachable.invariant
    (I := fun state => ∃ added, state.log = ledger.log ++ added)
    ⟨[], (List.append_nil _).symm⟩ ?_
  intro before label next held taken
  obtain ⟨added, log⟩ := held
  have grown : ∃ more, next.log = before.log ++ more := by
    cases taken with
    | abandon held =>
        exact ⟨[], rfl⟩
    | _ =>
        exact ⟨_, rfl⟩
  obtain ⟨more, nextLog⟩ := grown
  exact ⟨added ++ more, by rw [nextLog, log, List.append_assoc]⟩

/-- Every reachable ledger is in order. -/
theorem sound_of_reachable {ledger : Ledger Body}
    (reachable : Reachable (Step environment workerId Good) {} ledger) :
    ledger.Sound environment workerId Good :=
  reachable.invariant sound_empty
    (fun _ _ _ sound taken => sound.step taken)

end Ledger

end EmbeddingService
