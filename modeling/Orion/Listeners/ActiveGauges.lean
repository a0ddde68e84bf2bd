import Orion.Listeners.ConnectionProcessing

/-! # Gauges of what is active

Two gauges of a listener go up when a connection or a request begins. What is deferred to
their end should take them down again. -/

namespace Orion.Listeners

open Foundation Transport Multiset

/-! ## Connections and requests -/

inductive ConnectionPhase where
  | accepted
  | inspected
  | serving
  deriving DecidableEq

structure ConnectionTask where
  phase : ConnectionPhase
  /-- The flag that is looked at in the end. -/
  ssl : Bool
  /-- A client hello was read. -/
  tls : Bool
  deriving DecidableEq

inductive ConnectionExit where
  | proxyHeaderRefused
  | tlvRefused
  | selectionFailed
  | noFilterChainMatch
  | droppedByRbac
  | handshakeRefused
  | served
  | aborted
  deriving DecidableEq

/-- The connections and requests of a listener, and its gauges. A request is in `call` until
that returns a future, and pending until the future returns the response. -/
structure ListenerActivity where
  connections : Multiset ConnectionTask
  calling : Nat
  pending : Nat
  downstreamCxSslActive : Nat
  downstreamRqActive : Nat
  deriving DecidableEq

namespace ListenerActivity

inductive Event where
  | accepted
  | inspected (tlsResult : InspectorResult)
  | started (task : ConnectionTask) (handshake : Bool)
  | ended (task : ConnectionTask) (exit : ConnectionExit)
  | called
  | callReturned
  | responded
  deriving DecidableEq

def initial : ListenerActivity := ⟨0, 0, 0, 0, 0⟩

def fresh : ConnectionTask := ⟨.accepted, false, false⟩

def readyPhase (withTlsInspector : Bool) : ConnectionPhase :=
  if withTlsInspector then .inspected else .accepted

def canExit (withTlsInspector : Bool) (phase : ConnectionPhase) : ConnectionExit → Bool
  | .aborted => true
  | .served => phase = .serving
  | _ => phase = readyPhase withTlsInspector

def inspectedTask (tlsResult : InspectorResult) : ConnectionTask :=
  match tlsResult.transportProtocol with
  | .ssl => ⟨.inspected, true, true⟩
  | .rawBuffer => ⟨.inspected, false, false⟩

/-! ### What happens to the gauges -/

section

variable (state : ListenerActivity)

def accept : ListenerActivity :=
  { state with connections := fresh ::ₘ state.connections }

def inspect (tlsResult : InspectorResult) : ListenerActivity :=
  let task := inspectedTask tlsResult
  { state with
    connections := task ::ₘ state.connections.erase fresh
    downstreamCxSslActive :=
      if task.ssl then state.downstreamCxSslActive + 1 else state.downstreamCxSslActive }

/-- A filter chain serves the connection, after a handshake when it is one for TLS. -/
def start (task : ConnectionTask) (handshake : Bool) : ListenerActivity :=
  { state with
    connections := { task with phase := .serving, tls := task.tls || handshake } ::ₘ
      state.connections.erase task }

/-- What is deferred adds to the gauge once more. -/
def finish (task : ConnectionTask) : ListenerActivity :=
  { state with
    connections := state.connections.erase task
    downstreamCxSslActive :=
      if task.ssl then state.downstreamCxSslActive + 1 else state.downstreamCxSslActive }

def call : ListenerActivity :=
  { state with
    calling := state.calling + 1
    downstreamRqActive := state.downstreamRqActive + 1 }

/-- What is deferred runs when `call` returns the future, and not when that returns. -/
def returnCall : ListenerActivity :=
  { state with
    calling := state.calling - 1
    pending := state.pending + 1
    downstreamRqActive := state.downstreamRqActive - 1 }

def respond : ListenerActivity :=
  { state with pending := state.pending - 1 }

end

def enabled (withTlsInspector : Bool) (state : ListenerActivity) : Event → Bool
  | .accepted => true
  | .inspected _ => withTlsInspector ∧ fresh ∈ state.connections
  | .started task _ => task ∈ state.connections ∧ task.phase = readyPhase withTlsInspector
  | .ended task exit => task ∈ state.connections ∧ canExit withTlsInspector task.phase exit
  | .called => 0 < state.connections.countP fun task => task.phase = .serving
  | .callReturned => 0 < state.calling
  | .responded => 0 < state.pending

def react (state : ListenerActivity) : Event → ListenerActivity
  | .accepted => state.accept
  | .inspected tlsResult => state.inspect tlsResult
  | .started task handshake => state.start task handshake
  | .ended task _ => state.finish task
  | .called => state.call
  | .callReturned => state.returnCall
  | .responded => state.respond

def machine (withTlsInspector : Bool) : Machine ListenerActivity Event Unit where
  step state event :=
    if state.enabled withTlsInspector event then some (state.react event, []) else none

/-! ## What the gauges count -/

def openTlsConnections (state : ListenerActivity) : Nat :=
  state.connections.countP fun task => task.tls = true

def unansweredRequests (state : ListenerActivity) : Nat := state.calling + state.pending

structure GaugesRight (state : ListenerActivity) : Prop where
  ssl : state.downstreamCxSslActive = state.openTlsConnections
  requests : state.downstreamRqActive = state.unansweredRequests

/-- No connection that was counted ends, none that was not counted begins, and no request
leaves `call`. -/
def Harmless (_ : ListenerActivity) : Event → Prop
  | .started task handshake => handshake = true → task.ssl = true
  | .ended task _ => task.ssl = false
  | .callReturned => False
  | _ => True

structure Balanced (state : ListenerActivity) : Prop where
  flagged : ∀ task ∈ state.connections, task.tls = task.ssl
  ssl : state.downstreamCxSslActive = state.openTlsConnections
  answered : state.pending = 0
  requests : state.downstreamRqActive = state.calling

theorem Balanced.right {state : ListenerActivity} (balanced : state.Balanced) :
    state.GaugesRight := by
  refine ⟨balanced.ssl, ?_⟩
  rw [unansweredRequests, balanced.answered, balanced.requests, add_zero]

theorem balanced_initial : initial.Balanced := ⟨by simp [initial], rfl, rfl, rfl⟩

theorem inspectedTask_tls (tlsResult : InspectorResult) :
    (inspectedTask tlsResult).tls = (inspectedTask tlsResult).ssl := by
  rw [inspectedTask]
  cases tlsResult.transportProtocol <;> rfl

section

variable {state : ListenerActivity} (member : task ∈ state.connections)

include member

theorem openTlsConnections_finish :
    (state.finish task).openTlsConnections + (if task.tls then 1 else 0) =
      state.openTlsConnections := by
  change (state.connections.erase task).countP _ + _ = state.connections.countP _
  conv_rhs => rw [← cons_erase member]
  rw [countP_cons]

theorem openTlsConnections_start (handshake : Bool) :
    (state.start task handshake).openTlsConnections + (if task.tls then 1 else 0) =
      state.openTlsConnections + if (task.tls || handshake) then 1 else 0 := by
  have erased := openTlsConnections_finish member
  change countP _ (_ ::ₘ state.connections.erase task) + _ = _
  rw [countP_cons, ← erased, add_right_comm]
  rfl

end

theorem openTlsConnections_inspect {state : ListenerActivity} (member : fresh ∈ state.connections)
    (tlsResult : InspectorResult) : (state.inspect tlsResult).openTlsConnections =
      state.openTlsConnections + if (inspectedTask tlsResult).ssl then 1 else 0 := by
  have erased := openTlsConnections_finish member
  change countP _ (_ ::ₘ state.connections.erase fresh) = _
  rw [countP_cons, ← erased, inspectedTask_tls]
  rfl

theorem flagged_replace {connections : Multiset ConnectionTask}
    (flagged : ∀ task ∈ connections, task.tls = task.ssl)
    (same : replacement.tls = replacement.ssl) :
    ∀ other ∈ replacement ::ₘ connections.erase task, other.tls = other.ssl := by
  intro other member
  rcases mem_cons.mp member with rfl | later
  · exact same
  · exact flagged other (mem_of_mem_erase later)

theorem step_eq_some {state : ListenerActivity}
    (taken : (machine withTlsInspector).step state event = some (next, emitted)) :
    state.enabled withTlsInspector event ∧ next = state.react event := by
  change (if _ then _ else _) = _ at taken
  split at taken
  case isTrue possible =>
    cases taken
    exact ⟨possible, rfl⟩
  case isFalse => exact absurd taken nofun

section

variable {state : ListenerActivity} (balanced : state.Balanced)
  (possible : state.enabled withTlsInspector event = true)

include balanced possible

theorem Balanced.react (harmless : Harmless state event) : (state.react event).Balanced := by
  rcases balanced with ⟨flagged, ssl, answered, requests⟩
  cases event with
  | accepted =>
    refine ⟨?_, ?_, answered, requests⟩
    · intro task member
      rcases mem_cons.mp member with rfl | old
      · rfl
      · exact flagged task old
    · change _ = (fresh ::ₘ state.connections).countP _
      rw [countP_cons_of_neg _ (by decide)]
      exact ssl
  | inspected tlsResult =>
    rcases of_decide_eq_true possible with ⟨_, member⟩
    refine ⟨flagged_replace flagged (inspectedTask_tls tlsResult), ?_, answered, requests⟩
    change (if _ then _ else _) = (state.inspect tlsResult).openTlsConnections
    rw [openTlsConnections_inspect member, ← ssl]
    split <;> rfl
  | started task handshake =>
    rcases of_decide_eq_true possible with ⟨member, _⟩
    have same : (task.tls || handshake) = task.tls := by
      cases handshake with
      | false => exact Bool.or_false _
      | true => rw [flagged task member, harmless rfl, Bool.true_or]
    have counted := openTlsConnections_start member handshake
    refine ⟨flagged_replace flagged (same.trans (flagged task member)), ?_, answered, requests⟩
    rw [same] at counted
    exact ssl.trans (add_right_cancel counted).symm
  | ended task exit =>
    rcases of_decide_eq_true possible with ⟨member, _⟩
    have plain : task.ssl = false := harmless
    have counted := openTlsConnections_finish member
    refine ⟨fun other later => flagged other (mem_of_mem_erase later), ?_, answered,
      requests⟩
    rw [flagged task member, plain, if_neg (by decide), add_zero] at counted
    change (if _ then _ else _) = (state.finish task).openTlsConnections
    rw [plain, if_neg (by decide), counted, ssl]
  | called => exact ⟨flagged, ssl, answered, congrArg (· + 1) requests⟩
  | callReturned => exact harmless.elim
  | responded =>
    have some : 0 < state.pending := of_decide_eq_true possible
    omega

theorem Balanced.not_gaugesRight (harmful : ¬ Harmless state event) :
    ¬ (state.react event).GaugesRight := by
  rcases balanced with ⟨flagged, ssl, answered, requests⟩
  rintro ⟨sslRight, requestsRight⟩
  cases event with
  | accepted | inspected => exact harmful trivial
  | started task handshake =>
    rcases of_decide_eq_true possible with ⟨member, _⟩
    rcases Classical.not_imp.mp harmful with ⟨rfl, plain⟩
    have counted := openTlsConnections_start member true
    rw [flagged task member, if_neg plain, if_pos (Bool.or_true _)] at counted
    change state.downstreamCxSslActive = (state.start task true).openTlsConnections at sslRight
    omega
  | ended task exit =>
    rcases of_decide_eq_true possible with ⟨member, _⟩
    have flag : task.ssl := Bool.not_eq_false _ ▸ harmful
    have counted := openTlsConnections_finish member
    change (if _ then _ else _) = (state.finish task).openTlsConnections at sslRight
    rw [if_pos flag] at sslRight
    omega
  | called => exact harmful trivial
  | callReturned =>
    change state.downstreamRqActive - 1 = state.calling - 1 + (state.pending + 1) at requestsRight
    omega
  | responded => exact harmful trivial

end

/-- The gauges are right in every state of an execution exactly when all of its steps are
harmless. -/
theorem gaugesRight_throughout_iff (withTlsInspector : Bool) (events : List Event)
    (final : ListenerActivity) (outputs : List Unit)
    (executed : (machine withTlsInspector).execute initial events = some (final, outputs)) :
    (machine withTlsInspector).Throughout GaugesRight initial events ↔
      (machine withTlsInspector).AllAllowed Harmless initial events :=
  Machine.throughout_iff_allAllowed Balanced.right (fun balanced taken harmless => by
      rcases step_eq_some taken with ⟨possible, rfl⟩
      exact balanced.react possible harmless)
    (fun balanced taken harmful => by
      rcases step_eq_some taken with ⟨possible, rfl⟩
      exact balanced.not_gaugesRight possible harmful)
    balanced_initial executed

theorem gaugesRight_while_calling : (machine true).Throughout GaugesRight initial
      [.accepted, .inspected .successNoSni, .started ⟨.inspected, true, true⟩ true, .called] := by
  refine (gaugesRight_throughout_iff true _ ⟨{⟨.serving, true, true⟩}, 1, 0, 1, 1⟩ []
    (by decide)).mpr ?_
  exact ⟨trivial, trivial, fun _ => rfl, trivial, trivial⟩

/-- A client hello for which there is no filter chain is counted twice, and a request is
not counted while it waits for its response. -/
theorem gauges_wrong : (machine true).execute initial
        [.accepted, .inspected .successNoSni, .ended ⟨.inspected, true, true⟩ .noFilterChainMatch] =
      some (⟨0, 0, 0, 2, 0⟩, []) ∧
    (machine false).execute initial
        [.accepted, .started ⟨.accepted, false, false⟩ false, .called, .callReturned] =
      some (⟨{⟨.serving, false, false⟩}, 0, 1, 0, 0⟩, []) ∧
    ¬ GaugesRight ⟨0, 0, 0, 2, 0⟩ ∧ ¬ GaugesRight ⟨{⟨.serving, false, false⟩}, 0, 1, 0, 0⟩ := by
  refine ⟨by decide, by decide, ?_, ?_⟩
  · rintro ⟨ssl, _⟩
    exact absurd ssl (by decide)
  · rintro ⟨_, requests⟩
    exact absurd requests (by decide)

end ListenerActivity

end Orion.Listeners
