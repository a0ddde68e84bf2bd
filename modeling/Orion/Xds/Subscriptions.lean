import Orion.Clusters.Rebuild
import Orion.Xds.Exchange

/-! # The names that are subscribed to

The client is to be subscribed to the endpoints of the clusters and the routes of the
listeners that were added and not removed since. But it is only ever told to subscribe.
-/

namespace Orion.Xds

open Foundation Http Tls Clusters SubscriptionEvent List Nat HandlerPhase

/-! ## What is subscribed to -/

def SubscriptionEvent.follow (names : TypeUrl → Finset Text) :
    SubscriptionEvent → TypeUrl → Finset Text
  | .subscribe typeUrl id => Function.update names typeUrl (insert id (names typeUrl))
  | .unsubscribe typeUrl id => Function.update names typeUrl ((names typeUrl).erase id)

theorem DiscoveryClientState.processSubscriptionEvent_subscriptions
    (state : DiscoveryClientState) (event : SubscriptionEvent) :
    (state.processSubscriptionEvent event).1.subscriptions = event.follow state.subscriptions := by
  cases event <;> rfl

def followAll (names : TypeUrl → Finset Text) (events : List SubscriptionEvent) :
    TypeUrl → Finset Text :=
  events.foldl follow names

def SubscriptionEvent.isSubscribe : SubscriptionEvent → Bool
  | .subscribe _ _ => true
  | .unsubscribe _ _ => false

theorem mem_followAll (only : ∀ event ∈ events, event.isSubscribe) {id : Text} :
    id ∈ followAll names events typeUrl ↔ id ∈ names typeUrl ∨ .subscribe typeUrl id ∈ events := by
  induction events generalizing names with
  | nil => simp [followAll]
  | cons event rest induction =>
    have later := @induction (event.follow names) fun other member =>
      only other (mem_cons_of_mem _ member)
    rw [followAll, foldl_cons]
    rw [followAll] at later
    rw [later]
    cases event with
    | unsubscribe => cases only _ mem_cons_self
    | subscribe other name =>
      by_cases same : typeUrl = other
      · subst same
        simp only [follow, Function.update_self, Finset.mem_insert,
          mem_cons, subscribe.injEq, true_and]
        tauto
      · simp only [follow, Function.update_of_ne same, mem_cons,
          subscribe.injEq, same, false_and, false_or]

theorem ResourceUpdate.eq_subscribe {update : ResourceUpdate}
    (asked : event ∈ update.subscribed result) :
    (∃ id, event = .subscribe .clusterLoadAssignment id) ∨
      ∃ name, event = .subscribe .routeConfiguration name := by
  unfold subscribed at asked
  split at asked
  · split at asked
    · rcases mem_map.mp asked with ⟨name, _, rfl⟩
      exact .inr ⟨name, rfl⟩
    · cases asked
  · split at asked
    · cases asked
    · exact .inl ⟨_, mem_singleton.mp asked⟩
  · exact .inl ⟨_, mem_singleton.mp asked⟩
  · cases asked

/-! ## What is wanted -/

section

variable {Limiter : Type}

def Exchange.Output.subscribed : Exchange.Output Limiter → List SubscriptionEvent
  | .processed update result => update.subscribed result
  | _ => []

section

variable (outputs : List (Exchange.Output Limiter))

/-- The names that the updates processed so far have asked for. -/
def askedFor : List SubscriptionEvent :=
  outputs.flatMap Exchange.Output.subscribed

/-- The clusters that were added and not removed since. -/
def clustersAdded : Finset Text :=
  outputs.foldl (fun clusters output =>
    match output with
    | .processed (.update _ (.cluster id _) _) (.ok ()) => insert id clusters
    | .processed (.remove id .cluster) (.ok ()) => clusters.erase id
    | _ => clusters) ∅

/-- The listeners that were added and not removed since, with the routes they discover. -/
def listenersAdded : Table Text (List Text) :=
  outputs.foldl (fun listeners output =>
    match output with
    | .processed (.update _ (.listener id listener) _) (.ok ()) =>
      listeners.insert id listener.rdsNames
    | .processed (.remove id .listener) (.ok ()) =>
      fun other => if other = id then none else listeners other
    | _ => listeners) Table.empty

def RouteUsed (name : Text) : Prop :=
  ∃ id names, listenersAdded outputs id = some names ∧ name ∈ names

/-- Endpoints are wanted for the clusters there are, routes for the listeners. -/
def Wanted : SubscriptionEvent → Prop
  | .subscribe .clusterLoadAssignment id => id ∈ clustersAdded outputs
  | .subscribe .routeConfiguration name => RouteUsed outputs name
  | _ => False

end

theorem askedFor_of_clusterAdded {outputs : List (Exchange.Output Limiter)} {id : Text}
    (added : id ∈ clustersAdded outputs) :
    .subscribe .clusterLoadAssignment id ∈ askedFor outputs := by
  induction outputs using reverseRecOn with
  | nil => simp [clustersAdded] at added
  | append_singleton outputs output induction =>
    rw [askedFor, flatMap_append, mem_append]
    rw [clustersAdded, foldl_append] at added
    change id ∈ (match output with
      | .processed (.update _ (.cluster id _) _) (.ok ()) => insert id (clustersAdded outputs)
      | .processed (.remove id .cluster) (.ok ()) => (clustersAdded outputs).erase id
      | _ => clustersAdded outputs) at added
    split at added
    · rcases Finset.mem_insert.mp added with rfl | earlier
      · exact .inr (by simp [Exchange.Output.subscribed, ResourceUpdate.subscribed])
      · exact .inl (induction earlier)
    · exact .inl (induction (Finset.mem_of_mem_erase added))
    · exact .inl (induction added)

theorem askedFor_of_routeUsed (used : RouteUsed outputs name) :
    .subscribe .routeConfiguration name ∈ askedFor outputs := by
  rcases used with ⟨id, names, added, member⟩
  induction outputs using reverseRecOn with
  | nil => simp [listenersAdded] at added
  | append_singleton outputs output induction =>
    rw [askedFor, flatMap_append, mem_append]
    rw [listenersAdded, foldl_append] at added
    change (match output with
      | .processed (.update _ (.listener id listener) _) (.ok ()) =>
        (listenersAdded outputs).insert id listener.rdsNames
      | .processed (.remove id .listener) (.ok ()) =>
        fun other => if other = id then none else listenersAdded outputs other
      | _ => listenersAdded outputs) id = some names at added
    split at added
    · simp only [Table.insert] at added
      split_ifs at added with same
      · cases added
        exact .inr (by simpa [Exchange.Output.subscribed, ResourceUpdate.subscribed])
      · exact .inl (induction added)
    · split_ifs at added
      exact .inl (induction added)
    · exact .inl (induction added)

theorem askedFor_requests (outputs : List (Exchange.Output Limiter))
    (requests : List DeltaDiscoveryRequest) :
    askedFor (outputs ++ requests.map .request) = askedFor outputs := by
  simp [askedFor, Exchange.Output.subscribed]

theorem askedFor_processed (outputs : List (Exchange.Output Limiter))
    (actions : List (Action Limiter)) (update : ResourceUpdate)
    (result : Except UpdateFailure Unit) :
    askedFor (outputs ++ (actions.map .action ++ [.processed update result])) =
      askedFor outputs ++ update.subscribed result := by
  simp [askedFor, Exchange.Output.subscribed]

end

/-! ## Subscriptions on their way -/

/-- The update that the handler subscribes for, and what is still to be sent. -/
def HandlerPhase.current? {Limiter : Type} : HandlerPhase Limiter →
    Option (ResourceUpdate × Processed Limiter × List SubscriptionEvent)
  | .subscribing _ update processed toSend _ _ => some (update, processed, toSend)
  | _ => none

namespace Exchange

variable {Limiter : Type}

/-- The names the client will be subscribed to once it has read the channel. -/
def drained (self : Exchange Limiter) : TypeUrl → Finset Text :=
  followAll self.client.subscriptions self.subscriptions

/-- What was sent is what the updates have asked for. -/
inductive Follows (outputs : List (Output Limiter)) (exchange : Exchange Limiter) : Prop
  | between (none : exchange.phase.current? = none)
      (same : exchange.drained = followAll (fun _ => ∅) (askedFor outputs))
  | subscribing {update processed toSend} {sent : List SubscriptionEvent}
      (current : exchange.phase.current? = some (update, processed, toSend))
      (split : update.subscribed processed.result = sent ++ toSend)
      (same : exchange.drained = followAll (fun _ => ∅) (askedFor outputs ++ sent))

theorem Follows.of_same {self next : Exchange Limiter} (follows : self.Follows before)
    (asked : askedFor (before ++ outputs) = askedFor before)
    (phase : next.phase.current? = self.phase.current?) (same : next.drained = self.drained) :
    next.Follows (before ++ outputs) := by
  cases follows with
  | between none drained =>
    refine .between (phase.trans none) ?_
    rw [asked, same, drained]
  | subscribing current split drained =>
    refine .subscribing (phase.trans current) split ?_
    rw [asked, same, drained]

section

variable [TlsPlatform] [HttpCrate] [ChannelCrates] [BalancerCrates] [HashMapOrder]
  [XdsCrates] {newLimiter : Configuration.LocalRateLimit → Limiter} {profile : BuildProfile}

theorem Follows.step {self next : Exchange Limiter} {before outputs : List (Output Limiter)}
    {event : Event} (follows : self.Follows before)
    (taken : self.step newLimiter profile event = some (next, outputs)) :
    next.Follows (before ++ outputs) := by
  cases moves_of_step taken with
  | @response response idle =>
    rcases self.receiveResponse_eq response with ⟨worker, requests, received⟩
    rw [received]
    refine follows.of_same (askedFor_requests before requests) rfl ?_
    exact congrArg (followAll · self.subscriptions) (self.client.receive_subscriptions response)
  | sendFailed | sendBatch => exact follows.of_same (askedFor_requests before []) rfl rfl
  | @receiveAnswer pending _ answer =>
    refine follows.of_same (askedFor_requests before _) rfl ?_
    exact congrArg (followAll · self.subscriptions)
      (self.client.conclude_subscriptions pending answer)
  | @timeout pending =>
    refine follows.of_same (askedFor_requests before _) rfl ?_
    exact congrArg (followAll · self.subscriptions)
      (self.client.conclude_subscriptions pending .timedOut)
  | processSubscription _ queued =>
    refine follows.of_same (askedFor_requests before _) rfl ?_
    rw [drained, drained, queued, DiscoveryClientState.processSubscriptionEvent_subscriptions]
    rfl
  | reconnect => exact follows.of_same (askedFor_requests before _) rfl rfl
  | takeBatch idle =>
    refine follows.of_same (askedFor_requests before []) ?_ rfl
    rw [idle]
    rfl
  | @takeUpdate _ update _ _ busy =>
    cases follows with
    | subscribing current =>
      rw [busy] at current
      cases current
    | between _ same =>
      have split : update.subscribed
          (self.handler.processUpdate newLimiter profile update).result = [] ++ _ :=
        (self.handler.processUpdate_subscriptions newLimiter profile update).symm
      refine .subscribing rfl split ?_
      rw [append_nil, append_nil]
      exact same
  | @sendSubscription _ update processed event toSend _ _ subscribing _ =>
    cases follows with
    | between none =>
      rw [subscribing] at none
      cases none
    | @subscribing _ _ _ sent current split same =>
      rw [subscribing] at current
      cases current
      refine .subscribing rfl (split.trans (append_cons sent event toSend)) ?_
      rw [append_nil, ← append_assoc, followAll, foldl_append]
      change followAll self.client.subscriptions (self.subscriptions ++ [event]) =
        event.follow (followAll _ (askedFor before ++ sent))
      rw [← same, followAll, foldl_append]
      rfl
  | @apply number update processed remaining rejected subscribing =>
    cases follows with
    | between none =>
      rw [subscribing] at none
      cases none
    | subscribing current split same =>
      rw [subscribing] at current
      cases current
      rw [append_nil] at split
      refine .between ?_ ?_
      · unfold applyUpdate
        split <;> rfl
      · rw [askedFor_processed, split, ← same]
        unfold applyUpdate
        split <;> rfl
  | answer busy =>
    refine follows.of_same (askedFor_requests before []) ?_ rfl
    rw [busy]
    rfl

section

variable {handler : ConfigurationHandler} {events : List Event} {outputs : List (Output Limiter)}
  {self : Exchange Limiter}
  (run : (machine newLimiter profile).Run Machine.anyStep (.start handler) events outputs self)
  (idle : self.phase = .idle) (empty : self.subscriptions = [])

include run idle empty

/-- Once the channel is empty, the client is subscribed to all that was ever asked for. -/
theorem mem_subscriptions_iff {typeUrl : TypeUrl} {id : Text} :
    id ∈ self.client.subscriptions typeUrl ↔ .subscribe typeUrl id ∈ askedFor outputs := by
  have follows : self.Follows outputs := by
    refine run.invariant (fun _ outputs self => self.Follows outputs) (.between rfl rfl) ?_
    intro events outputs state event next emitted follows _ taken
    exact follows.step taken
  cases follows with
  | subscribing current =>
    rw [idle] at current
    cases current
  | between _ same =>
    have drained : self.client.subscriptions = self.drained := by
      rw [drained, empty]
      rfl
    rw [drained, same, mem_followAll]
    · simp
    · intro event member
      rcases mem_flatMap.mp member with ⟨output, _, asked⟩
      cases output with
      | processed =>
        rcases ResourceUpdate.eq_subscribe asked with ⟨_, rfl⟩ | ⟨_, rfl⟩ <;> rfl
      | request | action => cases asked

/-- The client is subscribed to the endpoints of the clusters and to the routes of the
listeners that were added and not removed since. -/
structure FollowsConfiguration (outputs : List (Output Limiter)) (exchange : Exchange Limiter) :
    Prop where
  endpoints : ∀ id, id ∈ exchange.client.subscriptions .clusterLoadAssignment ↔
    id ∈ clustersAdded outputs
  routes : ∀ name, name ∈ exchange.client.subscriptions .routeConfiguration ↔
    RouteUsed outputs name

/-- The subscriptions follow the configuration exactly if every name that some update has
asked for is still wanted. -/
theorem followsConfiguration_iff :
    self.FollowsConfiguration outputs ↔
      ∀ update result, .processed update result ∈ outputs →
        ∀ event ∈ update.subscribed result, Wanted outputs event := by
  have subscribed {typeUrl : TypeUrl} {id : Text} :=
    @mem_subscriptions_iff _ _ _ _ _ _ _ newLimiter profile _ _ _ _ run idle empty typeUrl id
  constructor
  · intro follows update result processed event asked
    have listed : event ∈ askedFor outputs :=
      mem_flatMap.mpr ⟨_, processed, asked⟩
    rcases ResourceUpdate.eq_subscribe asked with ⟨id, rfl⟩ | ⟨name, rfl⟩
    · exact (follows.endpoints id).mp (subscribed.mpr listed)
    · exact (follows.routes name).mp (subscribed.mpr listed)
  · intro wanted
    have still : ∀ event ∈ askedFor outputs, Wanted outputs event := by
      intro event listed
      rcases mem_flatMap.mp listed with ⟨output, member, asked⟩
      cases output with
      | processed update result => exact wanted update result member event asked
      | request | action => cases asked
    constructor
    · intro id
      exact ⟨fun member => still _ (subscribed.mp member),
        fun added => subscribed.mpr (askedFor_of_clusterAdded added)⟩
    · intro name
      exact ⟨fun member => still _ (subscribed.mp member),
        fun used => subscribed.mpr (askedFor_of_routeUsed used)⟩

end

end

/-! ## A cluster that is removed -/

def clusterAdded : DeltaDiscoveryResponse :=
  ⟨TypeUrl.cluster.text, "1".toList, [⟨"a".toList, "1".toList, some [97]⟩], []⟩

def clusterRemoved : DeltaDiscoveryResponse :=
  ⟨TypeUrl.cluster.text, "2".toList, [], ["a".toList]⟩

/-- The events of a batch with one update that subscribes to one name. -/
def oneSubscription (response : DeltaDiscoveryResponse) : List Event :=
  [.response response, .sendBatch, .takeBatch, .takeUpdate, .sendSubscription, .apply,
    .answer, .receiveAnswer, .processSubscription]

attribute [local instance] TlsPlatform.withoutFiles AsciiChannel.httpCrate ChannelCrates.ascii
  BalancerCrates.simple HashMapOrder.insertion XdsCrates.plain

theorem follows_cluster_added :
    ∃ (outputs : List (Output Unit)) (self : Exchange Unit),
      (machine (fun _ => ()) ⟨true⟩).Run Machine.anyStep (.start ⟨.empty, .empty⟩)
        (oneSubscription clusterAdded) outputs self ∧
      "a".toList ∈ clustersAdded outputs ∧ self.FollowsConfiguration outputs := by
  have run : (machine (fun _ => ()) ⟨true⟩).Run Machine.anyStep (.start ⟨.empty, .empty⟩)
      (oneSubscription clusterAdded) _ _ :=
    Machine.Run.any_of_execute rfl
  refine ⟨_, _, run, by decide, (followsConfiguration_iff run rfl rfl).mpr ?_⟩
  intro update result processed event asked
  have listed : event ∈ askedFor _ := mem_flatMap.mpr ⟨_, processed, asked⟩
  have only : event ∈ [subscribe .clusterLoadAssignment "a".toList] := listed
  cases mem_singleton.mp only
  exact Finset.mem_singleton.mpr rfl

/-- The client stays subscribed to a cluster that was removed. -/
theorem subscribed_to_removed_cluster :
    ∃ (outputs : List (Output Unit)) (self : Exchange Unit),
      (machine (fun _ => ()) ⟨true⟩).Run Machine.anyStep (.start ⟨.empty, .empty⟩)
        (oneSubscription clusterAdded ++ oneSubscription clusterRemoved) outputs self ∧
      self.phase = .idle ∧ self.subscriptions = [] ∧
      "a".toList ∈ self.client.subscriptions .clusterLoadAssignment ∧
      "a".toList ∉ clustersAdded outputs := by
  exact ⟨_, _, Machine.Run.any_of_execute rfl, rfl, rfl,
    by decide, by decide⟩

end Exchange

/-! ## Room for subscriptions

While the worker waits for the handler, it does not read the subscriptions that the
handler sends. If a batch has more of them than there is room for, both wait for each
other, until the worker gives up.
-/

/-! ## The subscriptions that are still to come -/

/-- The names that an update asks for, if it gets that far. -/
def ResourceUpdate.subscriptionCount : ResourceUpdate → Nat
  | .update _ (.listener _ listener) _ => listener.rdsNames.length
  | .update _ (.cluster _ _) _ => 1
  | .remove _ .cluster => 1
  | _ => 0

theorem ResourceUpdate.length_subscribed_le (update : ResourceUpdate)
    (result : Except UpdateFailure Unit) :
    (update.subscribed result).length ≤ update.subscriptionCount := by
  unfold subscribed subscriptionCount
  split
  · split <;> simp
  · split <;> simp
  · simp
  · exact zero_le _

def subscriptionCounts (updates : List ResourceUpdate) : Nat :=
  (updates.map ResourceUpdate.subscriptionCount).sum

def WorkerPhase.owed : WorkerPhase → Nat
  | .sending _ updates => subscriptionCounts updates
  | _ => 0

def HandlerPhase.owed {Limiter : Type} : HandlerPhase Limiter → Nat
  | .busy _ remaining _ => subscriptionCounts remaining
  | .subscribing _ _ _ toSend remaining _ => toSend.length + subscriptionCounts remaining
  | _ => 0

@[simp] theorem WorkerPhase.owed_deliver (worker : WorkerPhase) (number : Nat)
    (answer : Acknowledgement) : (worker.deliver number answer).owed = worker.owed := by
  unfold deliver
  split <;> rfl

@[simp] theorem WorkerPhase.owed_dropAnswer (worker : WorkerPhase) :
    worker.dropAnswer.owed = worker.owed := by
  unfold dropAnswer
  split <;> rfl

theorem WorkerPhase.deliver_eq_idle {worker : WorkerPhase} :
    worker.deliver number answer = .idle ↔ worker = .idle := by
  unfold deliver
  split <;> simp

theorem WorkerPhase.dropAnswer_eq_idle {worker : WorkerPhase} :
    worker.dropAnswer = .idle ↔ worker = .idle := by
  unfold dropAnswer
  split <;> simp

namespace Exchange

variable {Limiter : Type}

/-- The subscriptions in the channel, and those that the batches under way may add. -/
def load (self : Exchange Limiter) : Nat :=
  self.subscriptions.length + self.worker.owed +
    (self.resources.map fun batch => subscriptionCounts batch.updates).sum + self.phase.owed

/-- The worker waits for an answer, and the handler for room in the channel that only the
worker reads. -/
def waitForEachOther (self : Exchange Limiter) : Bool :=
  match self.worker, self.phase with
  | .waiting _ _ none, .subscribing _ _ _ (_ :: _) _ _ =>
    channelCapacity ≤ self.subscriptions.length
  | _, _ => false

/-- While the worker does not read subscriptions, there is room for all to come. -/
def HasRoom (self : Exchange Limiter) : Prop :=
  self.worker ≠ .idle → self.load ≤ channelCapacity

theorem HasRoom.waitForEachOther_eq_false {self : Exchange Limiter} (room : self.HasRoom) :
    self.waitForEachOther = false := by
  unfold waitForEachOther
  split
  · rename_i waiting subscribing
    have load := room (by simp [waiting])
    simp only [Exchange.load, subscribing, owed, length_cons] at load
    exact decide_eq_false (by omega)
  · rfl

section

variable [XdsCrates]

/-- There is room for all subscriptions that a response may lead to, besides those that
are on their way. -/
def Roomy (self : Exchange Limiter) : Event → Prop
  | .response response => ∀ client pending updates,
      self.client.receive response = (client, .decoded pending updates) →
        self.load + subscriptionCounts updates ≤ channelCapacity
  | _ => True

theorem hasRoom_receiveResponse {self : Exchange Limiter} (idle : self.worker = .idle)
    (roomy : self.Roomy (.response response)) : (self.receiveResponse response).1.HasRoom := by
  unfold receiveResponse
  split
  · exact fun busy => absurd idle busy
  · exact fun busy => absurd idle busy
  · rename_i client pending updates decoded
    intro _
    have load := roomy client pending updates decoded
    simp only [Exchange.load, idle, WorkerPhase.owed] at load ⊢
    omega

theorem hasRoom_applyUpdate {self : Exchange Limiter} (room : self.HasRoom)
    (subscribing : self.phase = .subscribing number update processed [] remaining rejected) :
    (self.applyUpdate number update processed remaining rejected).HasRoom := by
  unfold applyUpdate
  split
  · intro busy
    have load := room busy
    simp only [Exchange.load, subscribing, owed] at load ⊢
    simpa using load
  · intro busy
    have load := room busy
    simp only [Exchange.load, subscribing, owed] at load ⊢
    simpa using load
  · intro busy
    have load := room fun idle => busy (WorkerPhase.dropAnswer_eq_idle.mpr idle)
    simp only [Exchange.load, subscribing, owed, map_nil, sum_nil,
      WorkerPhase.owed_dropAnswer] at load ⊢
    omega

variable [TlsPlatform] [HttpCrate] [ChannelCrates] [BalancerCrates] [HashMapOrder]

theorem HasRoom.step {self next : Exchange Limiter} {event : Event}
    {outputs : List (Output Limiter)} (room : self.HasRoom) (roomy : self.Roomy event)
    (taken : self.step newLimiter profile event = some (next, outputs)) : next.HasRoom := by
  cases moves_of_step taken with
  | response idle => exact hasRoom_receiveResponse idle roomy
  | sendFailed => exact fun busy => absurd rfl busy
  | @sendBatch pending updates sending running _ =>
    intro _
    have load := room (by simp [sending])
    simp only [Exchange.load, sending, WorkerPhase.owed, map_append, map_cons,
      List.map_nil, List.sum_append, List.sum_cons, List.sum_nil] at load ⊢
    omega
  | receiveAnswer | timeout => exact fun busy => absurd rfl busy
  | processSubscription idle => exact fun busy => absurd idle busy
  | reconnect => exact room
  | takeBatch idle queued =>
    intro busy
    have load := room busy
    simp only [Exchange.load, idle, queued, owed, map_cons, sum_cons] at load ⊢
    omega
  | @takeUpdate number update remaining rejected taking =>
    intro busy
    have load := room busy
    have bound := update.length_subscribed_le
      (self.handler.processUpdate newLimiter profile update).result
    rw [← ConfigurationHandler.processUpdate_subscriptions] at bound
    simp only [Exchange.load, taking, owed, subscriptionCounts, map_cons,
      sum_cons] at load ⊢
    omega
  | sendSubscription subscribing =>
    intro busy
    have load := room busy
    simp only [Exchange.load, subscribing, owed, length_append,
      length_cons, length_nil] at load ⊢
    omega
  | apply subscribing => exact hasRoom_applyUpdate room subscribing
  | answer busy =>
    intro waits
    have load := room fun idle => waits (WorkerPhase.deliver_eq_idle.mpr idle)
    simp only [Exchange.load, busy, owed, WorkerPhase.owed_deliver] at load ⊢
    omega

/-- In every run whose responses find room for their subscriptions, the worker and the
handler never wait for each other. -/
theorem never_waitForEachOther {handler : ConfigurationHandler} {events : List Event}
    {outputs : List (Output Limiter)} {self : Exchange Limiter}
    (run : (machine newLimiter profile).Run Roomy (.start handler) events outputs self) :
    self.waitForEachOther = false := by
  have room : self.HasRoom := by
    refine run.stateInvariant HasRoom (fun busy => absurd rfl busy) ?_
    intro state event next emitted room roomy taken
    exact room.step roomy taken
  exact room.waitForEachOther_eq_false

end

/-! ## A listener with many routes -/

/-- A listener that discovers its routes under as many names as there are bytes. -/
def listenerResponse (names : List UInt8) : DeltaDiscoveryResponse :=
  ⟨TypeUrl.listener.text, "nonce".toList,
    [⟨"listener".toList, "1".toList, some names⟩], []⟩

attribute [local instance] TlsPlatform.withoutFiles AsciiChannel.httpCrate ChannelCrates.ascii
  BalancerCrates.simple HashMapOrder.insertion XdsCrates.plain

/-- With two names there is room, and the handler gets to the end of the batch. -/
theorem two_routes_processed :
    ∃ outputs self,
      (machine (fun _ => ()) ⟨true⟩).Run Roomy (.start ⟨.empty, .empty⟩)
        [.response (listenerResponse [97, 98]), .sendBatch, .takeBatch, .takeUpdate,
          .sendSubscription, .sendSubscription] outputs self ∧ self.waitForEachOther = false := by
  have run : ∃ outputs self, (machine (fun _ => ()) ⟨true⟩).Run Roomy (.start ⟨.empty, .empty⟩)
        [.response (listenerResponse [97, 98]), .sendBatch, .takeBatch, .takeUpdate,
          .sendSubscription, .sendSubscription] outputs self := by
    refine ⟨_, _, Machine.Run.of_execute rfl ⟨?_, trivial, trivial, trivial, trivial,
      trivial, trivial⟩⟩
    intro client pending updates decoded
    cases decoded
    decide
  rcases run with ⟨outputs, self, run⟩
  exact ⟨outputs, self, run, never_waitForEachOther run⟩

/-- With a hundred and one names, both wait for each other. -/
theorem many_routes_wait_for_each_other :
    ∃ outputs self,
      (machine (fun _ => ()) ⟨true⟩).Run Machine.anyStep (.start ⟨.empty, .empty⟩)
        ([.response (listenerResponse ((range 101).map UInt8.ofNat)), .sendBatch,
          .takeBatch, .takeUpdate] ++ replicate 100 .sendSubscription) outputs self ∧
      self.waitForEachOther = true := by
  exact Machine.Run.exists_of_execute _ (by decide +kernel)

end Exchange

end Orion.Xds
