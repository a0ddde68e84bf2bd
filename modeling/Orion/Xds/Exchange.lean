import Orion.Xds.Handler

/-! # The worker and the configuration handler

The two run side by side. The worker sends batches of updates to the handler over one
channel, each with a channel of its own for the answer. The handler sends the names to
subscribe to over another channel, which the worker reads only between responses.
-/

namespace Orion.Xds

open Foundation Http Tls Clusters

/-- A batch in the channel to the handler; the number stands for its answer channel. -/
structure Batch where
  number : Nat
  updates : List ResourceUpdate

inductive WorkerPhase where
  /-- Ready for a response or a subscription. -/
  | idle
  /-- Waiting for room in the channel to the handler. -/
  | sending (pending : PendingBatch) (updates : List ResourceUpdate)
  /-- Waiting for the handler; the answer may be there already. -/
  | waiting (pending : PendingBatch) (number : Nat) (answer : Option Acknowledgement)

def WorkerPhase.deliver (number : Nat) (answer : Acknowledgement) : WorkerPhase → WorkerPhase
  | .waiting pending awaited none =>
    .waiting pending awaited (if awaited = number then some answer else none)
  | phase => phase

/-- The channels of all batches are dropped. -/
def WorkerPhase.dropAnswer : WorkerPhase → WorkerPhase
  | .waiting pending awaited none => .waiting pending awaited (some .dropped)
  | phase => phase

inductive HandlerPhase (Limiter : Type) where
  | idle
  | busy (number : Nat) (remaining : List ResourceUpdate) (rejected : List RejectedConfig)
  /-- The subscriptions of an update are sent before it takes effect. -/
  | subscribing (number : Nat) (update : ResourceUpdate) (processed : Processed Limiter)
      (toSend : List SubscriptionEvent) (remaining : List ResourceUpdate)
      (rejected : List RejectedConfig)
  /-- The task has panicked. -/
  | failed

structure Exchange (Limiter : Type) where
  client : DiscoveryClientState
  worker : WorkerPhase := .idle
  /-- How many batches were sent. -/
  sent : Nat := 0
  resources : List Batch := []
  handler : ConfigurationHandler
  phase : HandlerPhase Limiter := .idle
  subscriptions : List SubscriptionEvent := []

namespace Exchange

variable {Limiter : Type}

inductive Event where
  | response (response : DeltaDiscoveryResponse)
  | sendBatch
  | receiveAnswer
  | timeout
  | processSubscription
  | reconnect
  | takeBatch
  | takeUpdate
  | sendSubscription
  | apply
  | answer

inductive Output (Limiter : Type) where
  | request (request : DeltaDiscoveryRequest)
  | processed (update : ResourceUpdate) (result : Except UpdateFailure Unit)
  | action (action : Action Limiter)

/-! ## The worker -/

def conclude (self : Exchange Limiter) (pending : PendingBatch) (answer : Acknowledgement) :
    Exchange Limiter × List (Output Limiter) :=
  let (client, requests) := self.client.conclude pending answer
  ({ self with client := client, worker := .idle }, requests.map .request)

/-- A response of an unknown type ends the stream. -/
def receiveResponse [XdsCrates] (self : Exchange Limiter)
    (response : DeltaDiscoveryResponse) : Exchange Limiter × List (Output Limiter) :=
  match self.client.receive response with
  | (client, .unknownType) => ({ self with client := client }, [])
  | (client, .undecodable answer) => ({ self with client := client }, [.request answer])
  | (client, .decoded pending updates) =>
    ({ self with client := client, worker := .sending pending updates }, [])

def stepWorker [XdsCrates] (self : Exchange Limiter) :
    Event → Option (Exchange Limiter × List (Output Limiter))
  | .response response =>
    match self.worker with
    | .idle => some (self.receiveResponse response)
    | _ => none
  | .sendBatch =>
    match self.worker, self.phase with
    -- The receiver is gone, and the stream ends.
    | .sending _ _, .failed => some ({ self with worker := .idle }, [])
    | .sending pending updates, _ =>
      if self.resources.length < channelCapacity then
        some ({ self with
          worker := .waiting pending self.sent none
          sent := self.sent + 1
          resources := self.resources ++ [⟨self.sent, updates⟩] }, [])
      else
        none
    | _, _ => none
  | .receiveAnswer =>
    match self.worker with
    | .waiting pending _ (some answer) => some (self.conclude pending answer)
    | _ => none
  | .timeout =>
    match self.worker with
    | .waiting pending _ _ => some (self.conclude pending .timedOut)
    | _ => none
  | .processSubscription =>
    match self.worker, self.subscriptions with
    | .idle, event :: rest =>
      let (client, requests) := self.client.processSubscriptionEvent event
      some ({ self with client := client, subscriptions := rest }, requests.map .request)
    | _, _ => none
  | .reconnect =>
    match self.worker with
    | .idle => some (self, self.client.buildInitialDiscoveryRequests.map .request)
    | _ => none
  | _ => none

/-! ## The handler -/

section

variable [TlsPlatform] [HttpCrate] [ChannelCrates] [BalancerCrates] [HashMapOrder]
  [XdsCrates] (newLimiter : Configuration.LocalRateLimit → Limiter) (profile : BuildProfile)

/-- An update takes effect once its subscriptions are sent. -/
def applyUpdate (self : Exchange Limiter) (number : Nat) (update : ResourceUpdate)
    (processed : Processed Limiter) (remaining : List ResourceUpdate)
    (rejected : List RejectedConfig) : Exchange Limiter :=
  match processed.result with
  | .ok () =>
    { self with handler := processed.handler, phase := .busy number remaining rejected }
  | .error (.rejected error) =>
    { self with
      handler := processed.handler
      phase := .busy number remaining
        (rejected ++ [⟨update.id, XdsCrates.errorText error⟩]) }
  | .error (.panicked _) =>
    { self with
      handler := processed.handler
      phase := .failed
      resources := []
      worker := WorkerPhase.dropAnswer self.worker }

def stepHandler (self : Exchange Limiter) :
    Event → Option (Exchange Limiter × List (Output Limiter))
  | .takeBatch =>
    match self.phase, self.resources with
    | .idle, batch :: rest =>
      some ({ self with
        resources := rest
        phase := .busy batch.number batch.updates [] }, [])
    | _, _ => none
  | .takeUpdate =>
    match self.phase with
    | .busy number (update :: remaining) rejected =>
      let processed := self.handler.processUpdate newLimiter profile update
      some ({ self with
        phase := .subscribing number update processed
          (processed.actions.filterMap Action.subscription?) remaining rejected }, [])
    | _ => none
  | .sendSubscription =>
    match self.phase with
    | .subscribing number update processed (event :: toSend) remaining rejected =>
      if self.subscriptions.length < channelCapacity then
        some ({ self with
          phase := .subscribing number update processed toSend remaining rejected
          subscriptions := self.subscriptions ++ [event] }, [])
      else
        none
    | _ => none
  | .apply =>
    match self.phase with
    | .subscribing number update processed [] remaining rejected =>
      some (self.applyUpdate number update processed remaining rejected,
        processed.actions.map .action ++ [.processed update processed.result])
    | _ => none
  | .answer =>
    match self.phase with
    | .busy number [] rejected =>
      some ({ self with
        phase := .idle
        worker := WorkerPhase.deliver number (.answered rejected) self.worker }, [])
    | _ => none
  | _ => none

def step (self : Exchange Limiter) (event : Event) :
    Option (Exchange Limiter × List (Output Limiter)) :=
  match event with
  | .response _ | .sendBatch | .receiveAnswer | .timeout | .processSubscription | .reconnect =>
    self.stepWorker event
  | .takeBatch | .takeUpdate | .sendSubscription | .apply | .answer =>
    self.stepHandler newLimiter profile event

omit [TlsPlatform] [HttpCrate] [ChannelCrates] [BalancerCrates] [HashMapOrder] in
theorem receiveResponse_eq (self : Exchange Limiter) (response : DeltaDiscoveryResponse) :
    ∃ worker, ∃ requests : List DeltaDiscoveryRequest, self.receiveResponse response =
      ({ self with client := (self.client.receive response).1, worker := worker },
        requests.map .request) := by
  unfold receiveResponse
  split
  · rename_i received
    rw [received]
    exact ⟨self.worker, [], rfl⟩
  · rename_i received
    rw [received]
    exact ⟨self.worker, [_], rfl⟩
  · rename_i received
    rw [received]
    exact ⟨_, [], rfl⟩

inductive Moves (self : Exchange Limiter) :
    Event → Exchange Limiter → List (Output Limiter) → Prop
  | response {response} (idle : self.worker = .idle) :
      Moves self (.response response) (self.receiveResponse response).1
        (self.receiveResponse response).2
  | sendFailed {pending updates} (sending : self.worker = .sending pending updates)
      (failed : self.phase = .failed) :
      Moves self .sendBatch { self with worker := .idle } []
  | sendBatch {pending updates} (sending : self.worker = .sending pending updates)
      (running : self.phase ≠ .failed) (room : self.resources.length < channelCapacity) :
      Moves self .sendBatch
        { self with
          worker := .waiting pending self.sent none
          sent := self.sent + 1
          resources := self.resources ++ [⟨self.sent, updates⟩] } []
  | receiveAnswer {pending number answer}
      (waiting : self.worker = .waiting pending number (some answer)) :
      Moves self .receiveAnswer (self.conclude pending answer).1
        (self.conclude pending answer).2
  | timeout {pending number answer} (waiting : self.worker = .waiting pending number answer) :
      Moves self .timeout (self.conclude pending .timedOut).1
        (self.conclude pending .timedOut).2
  | processSubscription {event rest} (idle : self.worker = .idle)
      (queued : self.subscriptions = event :: rest) :
      Moves self .processSubscription
        { self with
          client := (self.client.processSubscriptionEvent event).1
          subscriptions := rest }
        ((self.client.processSubscriptionEvent event).2.map .request)
  | reconnect (idle : self.worker = .idle) :
      Moves self .reconnect self (self.client.buildInitialDiscoveryRequests.map .request)
  | takeBatch {batch rest} (idle : self.phase = .idle)
      (queued : self.resources = batch :: rest) :
      Moves self .takeBatch
        { self with resources := rest, phase := .busy batch.number batch.updates [] } []
  | takeUpdate {number update remaining rejected}
      (busy : self.phase = .busy number (update :: remaining) rejected) :
      Moves self .takeUpdate
        { self with
          phase := .subscribing number update
            (self.handler.processUpdate newLimiter profile update)
            ((self.handler.processUpdate newLimiter profile update).actions.filterMap
              Action.subscription?) remaining rejected } []
  | sendSubscription {number update processed event toSend remaining rejected}
      (subscribing : self.phase =
        .subscribing number update processed (event :: toSend) remaining rejected)
      (room : self.subscriptions.length < channelCapacity) :
      Moves self .sendSubscription
        { self with
          phase := .subscribing number update processed toSend remaining rejected
          subscriptions := self.subscriptions ++ [event] } []
  | apply {number update processed remaining rejected}
      (subscribing : self.phase = .subscribing number update processed [] remaining rejected) :
      Moves self .apply (self.applyUpdate number update processed remaining rejected)
        (processed.actions.map .action ++ [.processed update processed.result])
  | answer {number rejected} (busy : self.phase = .busy number [] rejected) :
      Moves self .answer
        { self with
          phase := .idle
          worker := self.worker.deliver number (.answered rejected) } []

theorem moves_of_step {newLimiter : Configuration.LocalRateLimit → Limiter} {profile : BuildProfile}
    {self : Exchange Limiter} (taken : self.step newLimiter profile event = some (next, outputs)) :
    Moves newLimiter profile self event next outputs := by
  cases event with
  | response response =>
    simp only [step, stepWorker] at taken
    split at taken
    · rename_i idle
      have moved : Moves newLimiter profile self (.response response) _ _ := .response idle
      rw [Option.some.inj taken] at moved
      exact moved
    · cases taken
  | sendBatch =>
    simp only [step, stepWorker] at taken
    split at taken
    · rename_i sending failed
      cases taken
      exact .sendFailed sending failed
    · rename_i sending running
      split_ifs at taken with room
      cases taken
      exact .sendBatch sending running room
    · cases taken
  | receiveAnswer =>
    simp only [step, stepWorker] at taken
    split at taken
    · rename_i waiting
      cases taken
      exact .receiveAnswer waiting
    · cases taken
  | timeout =>
    simp only [step, stepWorker] at taken
    split at taken
    · rename_i waiting
      cases taken
      exact .timeout waiting
    · cases taken
  | processSubscription =>
    simp only [step, stepWorker] at taken
    split at taken
    · rename_i idle queued
      cases taken
      exact .processSubscription idle queued
    · cases taken
  | reconnect =>
    simp only [step, stepWorker] at taken
    split at taken
    · rename_i idle
      cases taken
      exact .reconnect idle
    · cases taken
  | takeBatch =>
    simp only [step, stepHandler] at taken
    split at taken
    · rename_i idle queued
      cases taken
      exact .takeBatch idle queued
    · cases taken
  | takeUpdate =>
    simp only [step, stepHandler] at taken
    split at taken
    · rename_i busy
      cases taken
      exact .takeUpdate busy
    · cases taken
  | sendSubscription =>
    simp only [step, stepHandler] at taken
    split at taken
    · rename_i subscribing
      split_ifs at taken with room
      cases taken
      exact .sendSubscription subscribing room
    · cases taken
  | apply =>
    simp only [step, stepHandler] at taken
    split at taken
    · rename_i subscribing
      cases taken
      exact .apply subscribing
    · cases taken
  | answer =>
    simp only [step, stepHandler] at taken
    split at taken
    · rename_i busy
      cases taken
      exact .answer busy
    · cases taken

def machine : Machine (Exchange Limiter) Event (Output Limiter) where
  step := step newLimiter profile

end

def start (handler : ConfigurationHandler) : Exchange Limiter where
  client := .new
  handler := handler

end Exchange

end Orion.Xds
