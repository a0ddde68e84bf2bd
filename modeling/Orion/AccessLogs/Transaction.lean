import Orion.AccessLogs.BodyWithMetrics
import Orion.Foundation.Execution

/-! # The record of a transaction

The closures of the two bodies share what is logged of a transaction. The one that is called
first leaves its number of bytes, and the other one emits the record. The body of a response
is wrapped when the handler returns one. -/

namespace Orion.AccessLogs

open Foundation RequestBody.Event List Option

/-! ## The closures -/

inductive BodyKind where
  | request
  | response
  deriving DecidableEq

structure FinishContext where
  bytesReceived : Nat
  bytesSent : Nat
  deriving DecidableEq

/-- How many bodies are complete, and the bytes of the first one. -/
structure TransactionLog where
  phase : Nat
  bytes : Nat
  deriving DecidableEq

namespace TransactionLog

def new : TransactionLog := ⟨0, 0⟩

def messageComplete (log : TransactionLog) : TransactionLog × Bool :=
  ({ log with phase := log.phase + 1 }, 0 < log.phase)

def complete (kind : BodyKind) (log : TransactionLog) (nbytes : Nat) :
    TransactionLog × List FinishContext :=
  let (log, isTransactionComplete) := log.messageComplete
  if isTransactionComplete then
    match kind with
    | .request => (log, [⟨nbytes, log.bytes⟩])
    | .response => (log, [⟨log.bytes, nbytes⟩])
  else ({ log with bytes := nbytes }, [])

def completeAll (kind : BodyKind) (log : TransactionLog) :
    List Nat → TransactionLog × List FinishContext
  | [] => (log, [])
  | nbytes :: calls =>
    let (log, records) := log.complete kind nbytes
    let (log, later) := log.completeAll kind calls
    (log, records ++ later)

def After : List Nat → List Nat → TransactionLog → List FinishContext → Prop
  | [], [], log, records => log.phase = 0 ∧ records = []
  | [received], [], log, records => log.phase = 1 ∧ log.bytes = received ∧ records = []
  | [], [sent], log, records => log.phase = 1 ∧ log.bytes = sent ∧ records = []
  | [received], [sent], _, records => records = [⟨received, sent⟩]
  | _, _, _, _ => False

section

variable {log : TransactionLog} {records : List FinishContext}

theorem first_of_once (once : (earlier ++ nbytes :: later).length ≤ 1) :
    earlier = [] ∧ later = [] := by
  rw [length_append, length_cons] at once
  exact ⟨length_eq_zero_iff.mp (by omega), length_eq_zero_iff.mp (by omega)⟩

theorem After.request (after : After requestCalls responseCalls log records)
    (once : (requestCalls ++ calls).length ≤ 1) :
    After (requestCalls ++ calls) responseCalls (log.completeAll .request calls).1
      (records ++ (log.completeAll .request calls).2) := by
  cases calls with
  | nil => simpa [completeAll] using after
  | cons nbytes calls =>
    rcases first_of_once once with ⟨rfl, rfl⟩
    match responseCalls, after with
    | [], ⟨phase, noRecords⟩ =>
      simp [After, completeAll, complete, messageComplete, phase, noRecords]
    | [_], ⟨phase, bytes, noRecords⟩ =>
      simp [After, completeAll, complete, messageComplete, phase, bytes, noRecords]

theorem After.response (after : After requestCalls responseCalls log records)
    (once : (responseCalls ++ calls).length ≤ 1) :
    After requestCalls (responseCalls ++ calls) (log.completeAll .response calls).1
      (records ++ (log.completeAll .response calls).2) := by
  cases calls with
  | nil => simpa [completeAll] using after
  | cons nbytes calls =>
    rcases first_of_once once with ⟨rfl, rfl⟩
    match requestCalls, after with
    | [], ⟨phase, noRecords⟩ =>
      simp [After, completeAll, complete, messageComplete, phase, noRecords]
    | [_], ⟨phase, bytes, noRecords⟩ =>
      simp [After, completeAll, complete, messageComplete, phase, bytes, noRecords]

end

end TransactionLog

/-! ## Transactions -/

structure Transaction where
  log : TransactionLog
  request : RequestBody
  response : Option ResponseBody
  /-- The handler has returned. -/
  returned : Bool
  deriving DecidableEq

namespace Transaction

inductive Event where
  | request (event : RequestBody.Event)
  /-- The handler returns a response. -/
  | responded
  /-- The handler returns an error, or is dropped before it returns. -/
  | failed
  | response (event : ResponseBody.Event)
  deriving DecidableEq

def initial : Transaction := ⟨.new, .new, none, false⟩

/-- What the handler itself does with the request. -/
def byHandler : RequestBody.Event → Bool
  | .process => true
  | .collect => true
  | .gather _ _ => true
  | .attempt => true
  | _ => false

section

variable (transaction : Transaction)

/-- The handler keeps the guard of a wrapper that it has taken apart until it returns. -/
def mayReturn : Bool :=
  !transaction.returned ∧
    (transaction.request.usage = .whole ∨ transaction.request.held = false)

def enabled : Event → Bool
  | .request event =>
    transaction.request.enabled event ∧ !(byHandler event && transaction.returned)
  | .responded => transaction.mayReturn
  | .failed => transaction.mayReturn
  | .response event => transaction.response.any fun response => response.enabled event

def reactRequest (event : RequestBody.Event) : Transaction × List FinishContext :=
  let (request, calls) := transaction.request.react event
  let (log, records) := transaction.log.completeAll .request calls
  ({ transaction with log, request }, records)

def reactResponse (response : ResponseBody)
    (event : ResponseBody.Event) : Transaction × List FinishContext :=
  let (response, calls) := response.react event
  let (log, records) := transaction.log.completeAll .response calls
  ({ transaction with log, response := some response }, records)

def react : Event → Transaction × List FinishContext
  | .request event => transaction.reactRequest event
  | .responded => ({ transaction with returned := true, response := some .new }, [])
  | .failed => ({ transaction with returned := true }, [])
  | .response event =>
    match transaction.response with
    | none => (transaction, [])
    | some response => transaction.reactResponse response event

end

def machine : Machine Transaction Event FinishContext := .guarded enabled react

def finished (transaction : Transaction) : Bool :=
  transaction.returned ∧ transaction.request.released ∧
    transaction.response.all fun response => !response.held

section

variable (events : List Event)

def requestEvents : List RequestBody.Event :=
  events.filterMap fun
    | .request event => some event
    | _ => none

def responseEvents : List ResponseBody.Event :=
  events.filterMap fun
    | .response event => some event
    | _ => none

def receivedBytes : Nat :=
  total received (requestEvents events)

def sentBytes : Nat :=
  total ResponseBody.Event.sent (responseEvents events)

/-! ## What a history leaves -/

/-- The body of a response is there once the handler has returned one. -/
def ResponseCounted (calls : List Nat) : Option ResponseBody → Prop
  | none => calls = [] ∧ responseEvents events = [] ∧ .responded ∉ events
  | some response =>
    .responded ∈ events ∧ ResponseBody.Counted (responseEvents events) calls response

end

structure Accounted (events : List Event) (records : List FinishContext)
    (transaction : Transaction) : Prop where
  unanswered : transaction.returned = false → transaction.response = none
  logged : ∃ requestCalls responseCalls,
    RequestBody.Counted (requestEvents events) requestCalls transaction.request ∧
      ResponseCounted events responseCalls transaction.response ∧
      TransactionLog.After requestCalls responseCalls transaction.log records

theorem accounted_initial : Accounted [] [] initial :=
  ⟨fun _ => rfl, [], [], RequestBody.counted_new, ⟨rfl, rfl, nofun⟩, rfl, rfl⟩

section

variable {events : List Event} {records : List FinishContext} {transaction : Transaction}
  {event : Event}

theorem requestEvents_append (first second : List Event) :
    requestEvents (first ++ second) = requestEvents first ++ requestEvents second :=
  filterMap_append

theorem responseEvents_append (first second : List Event) :
    responseEvents (first ++ second) = responseEvents first ++ responseEvents second :=
  filterMap_append

theorem ResponseCounted.other {response : Option ResponseBody}
    (counted : ResponseCounted events calls response)
    (elsewhere : responseEvents [event] = []) (kept : event ≠ .responded) :
    ResponseCounted (events ++ [event]) calls response := by
  have same : responseEvents (events ++ [event]) = responseEvents events := by
    rw [responseEvents_append, elsewhere, append_nil]
  cases response with
  | none =>
    rcases counted with ⟨none, noEvents, unanswered⟩
    refine ⟨none, same.trans noEvents, ?_⟩
    intro member
    rcases mem_append.mp member with earlier | last
    · exact unanswered earlier
    · exact kept (mem_singleton.mp last).symm
  | some response =>
    rcases counted with ⟨answered, counted⟩
    refine ⟨mem_append_left _ answered, ?_⟩
    rw [same]
    exact counted

theorem requestCounted_other {request : RequestBody}
    (counted : RequestBody.Counted (requestEvents events) calls request)
    (elsewhere : requestEvents [event] = []) :
    RequestBody.Counted (requestEvents (events ++ [event])) calls request := by
  rw [requestEvents_append, elsewhere, append_nil]
  exact counted

theorem Accounted.react (accounted : Accounted events records transaction)
    (possible : transaction.enabled event) :
    Accounted (events ++ [event]) (records ++ (transaction.react event).2)
      (transaction.react event).1 := by
  rcases accounted with ⟨unanswered, requestCalls, responseCalls, request, response, after⟩
  cases event with
  | request event =>
    have counted := request.react (of_decide_eq_true possible).1
    refine ⟨unanswered, _, responseCalls, ?_, response.other rfl nofun,
      after.request counted.ledger.calls_length⟩
    rw [requestEvents_append]
    exact counted
  | responded =>
    have absent := unanswered (by simpa using (of_decide_eq_true possible).1)
    rw [absent] at response
    rcases response with ⟨rfl, noEvents, _⟩
    refine ⟨nofun, requestCalls, [], requestCounted_other request rfl, ⟨?_, ?_⟩, ?_⟩
    · exact mem_append_right _ (mem_singleton_self _)
    · rw [responseEvents_append, noEvents]
      exact ResponseBody.counted_new
    · rw [react, append_nil]
      exact after
  | failed =>
    refine ⟨nofun, requestCalls, responseCalls, requestCounted_other request rfl,
      response.other rfl nofun, ?_⟩
    rw [react, append_nil]
    exact after
  | response event =>
    rcases (any_eq_true _ _).mp possible with ⟨body, present, bodyPossible⟩
    rw [present] at response
    rcases response with ⟨answered, counted⟩
    have next := counted.react bodyPossible
    rw [react, present]
    refine ⟨?_, requestCalls, _, requestCounted_other request rfl,
      ⟨mem_append_left _ answered, ?_⟩, after.response next.ledger.calls_length⟩
    · intro running
      exact absurd (present.symm.trans (unanswered running)) nofun
    · rw [responseEvents_append]
      exact next

end

theorem accounted_of_run (run : machine.Run Machine.anyStep initial events records transaction) :
    Accounted events records transaction :=
  run.guardedInvariant Accounted accounted_initial Accounted.react

/-- A transaction that is finished has left one record with the bytes that were received and sent,
in whatever order its bodies were completed, exactly when the handler returned a response, and
the data polled in place of the client's, before the body of the request was complete, is as
long as what was read of the client's without its wrapper. -/
theorem logged_once_iff (events : List Event) (records : List FinishContext)
    (transaction : Transaction)
    (run : machine.Run Machine.anyStep initial events records transaction)
    (finished : transaction.finished = true) :
    records = [⟨receivedBytes events, sentBytes events⟩] ↔
      .responded ∈ events ∧
        total substituted
            (beforeCompletion completes (requestEvents events)) =
          total unwrapped (requestEvents events) := by
  rcases accounted_of_run run with ⟨_, requestCalls, responseCalls, request, response, after⟩
  rcases of_decide_eq_true finished with ⟨_, requestReleased, responseReleased⟩
  have requestDropped : transaction.request.held = false := by
    simpa using (of_decide_eq_true requestReleased).1
  rw [request.calls_of_dropped requestDropped] at after
  cases present : transaction.response with
  | none =>
    rw [present] at response
    rcases response with ⟨rfl, _, unanswered⟩
    rw [after.2.2]
    exact iff_of_false nofun fun condition => unanswered condition.1
  | some body =>
    rw [present] at response responseReleased
    rcases response with ⟨answered, counted⟩
    rw [counted.calls_of_dropped (by simpa using responseReleased)] at after
    have emitted : records = [⟨_, sentBytes events⟩] := after
    have received : receivedBytes events = total passed (requestEvents events) +
          total unwrapped (requestEvents events) :=
      total_add _ _ _
    rw [emitted, received, and_iff_right answered]
    simp only [cons.injEq, FinishContext.mk.injEq, and_true, Nat.add_left_cancel_iff]

def sentOnce : List Event :=
  [.request .collect, .request (.gather .client 5), .request .attempt, .request (.replay 5),
    .request (.attemptDropped true), .request .dropped, .responded, .response (.frame 7),
    .response .ended, .response .dropped]

theorem logged_once_sentOnce : (machine.execute initial sentOnce).map Prod.snd =
      some [⟨receivedBytes sentOnce, sentBytes sentOnce⟩] := by
  have executed : machine.execute initial sentOnce =
      some (⟨⟨2, 5⟩, ⟨⟨5, false⟩, .client, .replaying, false, false, 5, 0, 0⟩,
        some ⟨⟨7, false⟩, false, true⟩, true⟩, [⟨5, 7⟩]) := by decide
  have run := Machine.Run.any_of_execute executed
  exact congrArg some ((logged_once_iff _ _ _ run (by decide)).mpr ⟨by decide, by decide⟩)

def refused : List Event :=
  [.request (.frame .client 5), .request .ended, .request .dropped, .failed]

/-- A request that is sent again after a connection could not be made. -/
def sentAgain : List Event :=
  [.request .collect, .request (.gather .client 5), .request .attempt,
    .request (.attemptDropped false), .request .attempt, .request (.replay 5),
    .request (.attemptDropped true), .request .dropped, .responded, .response (.frame 7),
    .response .ended, .response .dropped]

/-- A request whose body an external processor makes longer. -/
def lengthened : List Event :=
  [.request .process, .request (.take 5), .request (.frame .filter 8), .request .ended,
    .request .dropped, .responded, .response .dropped]

/-- The first is not logged, and the other two are logged with a wrong number of bytes. -/
theorem not_logged_once :
    ((machine.execute initial refused).map fun result => (result.1.finished, result.2)) =
      some (true, []) ∧
    ((machine.execute initial sentAgain).map fun result => (result.1.finished, result.2)) =
      some (true, [⟨0, 7⟩]) ∧
    ((machine.execute initial lengthened).map fun result => (result.1.finished, result.2)) =
      some (true, [⟨8, 0⟩]) ∧
    receivedBytes refused = 5 ∧ receivedBytes sentAgain = 5 ∧ receivedBytes lengthened = 5 := by
  decide

end Transaction

end Orion.AccessLogs
