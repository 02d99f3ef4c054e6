import Corstone.Lib.Run
import Corstone.MqttAgent.SubscriptionManager
import Corstone.Ota.Pal

/-!
# The stream subscriptions of the jobs

Every job writes its stream topic into `mqttFileDownloaderContext.topicStreamData`
and subscribes to it. When the broker acknowledges, the topic is registered with
`addSubscription`, which keeps the pointer. No job takes its topic back, so that
the filters of earlier jobs are the topic of the latest one, cut to their own
lengths.

* `filtersKept_init_iff`: when a new topic leaves the registered filters alone.
* `streamSubscriptions_of_condition`: as long as all jobs have the same topic,
  the registered filters keep their bytes, a message is handed on once, and no
  registration fails because of an earlier job.
* `not_streamSubscriptions_otherStream`: a second job with another stream.
-/

namespace Corstone.Ota

open Corstone.Lib Corstone.MqttAgent

/-! ## Topics and callbacks -/

/-- `OTA_TOPIC_PREFIX`. -/
def otaTopicPrefix : Bytes := ascii "$aws/things/+/"

/-- `OTA_JOB_NOTIFY_TOPIC_FILTER`. -/
def otaJobNotifyTopicFilter : Bytes := otaTopicPrefix ++ ascii "jobs/start-next"

/-- `OTA_DATA_STREAM_TOPIC_FILTER`. -/
def otaDataStreamTopicFilter : Bytes := otaTopicPrefix ++ ascii "streams/#"

/-- `OTA_DEFAULT_TOPIC_FILTER`. -/
def otaDefaultTopicFilter : Bytes := otaTopicPrefix ++ ascii "jobs/#"

/-- The callbacks of the agent, and those of the other tasks. -/
inductive PublishCallback (C : Type)
  | prvMqttJobCallback | prvMqttDataCallback | prvMqttDefaultCallback
  | application (callback : C)
  deriving DecidableEq

/-- The addresses of topic filters: the buffer of the stream topic, the string
    literal of the default filter, and the strings of the other tasks. -/
inductive TopicAddr (A : Type)
  | topicStreamData | otaDefaultTopicFilter
  | application (filter : A)
  deriving DecidableEq

variable {A C : Type} [DecidableEq C]

/-- `otaTopicFilterCallbacks` (lines 429–446). -/
def otaTopicFilterCallbacks : List (Bytes × PublishCallback C) :=
  [(otaJobNotifyTopicFilter, .prvMqttJobCallback), (otaDataStreamTopicFilter, .prvMqttDataCallback),
    (otaDefaultTopicFilter, .prvMqttDefaultCallback)]

/-- The loop body of `prvRegisterOTACallback`: the list, and the callbacks whose
    registration has failed. -/
def registerEntry (matchTopic : Bytes → Bytes → Bool) (mem : Memory (TopicAddr A))
    (pTopicFilter : TopicAddr A) (topicFilterLength : UInt16)
    (registered : SubscriptionList (TopicAddr A) (PublishCallback C) × List (PublishCallback C))
    (entry : Bytes × PublishCallback C) :
    SubscriptionList (TopicAddr A) (PublishCallback C) × List (PublishCallback C) :=
  if matchTopic ((mem pTopicFilter).take topicFilterLength.toNat) entry.1 then
    let (list, subscriptionAdded) :=
      addSubscription mem registered.1 pTopicFilter topicFilterLength entry.2
    (list, if subscriptionAdded then registered.2 else entry.2 :: registered.2)
  else registered

/-- `prvRegisterOTACallback` (`ota_orchestrator.c`, lines 700–739), for a
    `MQTT_MatchTopic` of topic and filter. -/
def prvRegisterOTACallback (matchTopic : Bytes → Bytes → Bool) (mem : Memory (TopicAddr A))
    (list : SubscriptionList (TopicAddr A) (PublishCallback C)) (pTopicFilter : TopicAddr A)
    (topicFilterLength : UInt16) :
    SubscriptionList (TopicAddr A) (PublishCallback C) × List (PublishCallback C) :=
  otaTopicFilterCallbacks.foldl (registerEntry matchTopic mem pTopicFilter topicFilterLength)
    (list, [])

/-! ## The system -/

/-- The topic of the latest job, the static `MQTTSubscribeInfo_t` of
    `prvMQTTSubscribe`, whose pointer is always `topicStreamData`, and the list
    of registered filters. -/
structure StreamSubscriptions (A C : Type) where
  topicStreamData : Bytes
  topicStreamDataLength : UInt16
  xSubscribeInfoTopicFilterLength : UInt16
  /-- The accepted SUBSCRIBE commands that have not completed. -/
  inFlight : ℕ
  xGlobalSubscriptionList : SubscriptionList (TopicAddr A) (PublishCallback C)

/-- The steps of the agent's task, of the MQTT agent and of the other tasks. -/
inductive SubscriptionAction (A C : Type)
  /-- `prvRunOTADemo` registers the default filter (line 1263). -/
  | registerDefault
  /-- `mqttDownloader_init` writes the topic of a new job, whatever is behind it. -/
  | mqttDownloaderInit (topicStreamData : Bytes) (topicStreamDataLength : UInt16)
  /-- `prvMQTTSubscribe`, and whether the MQTT agent accepts the command. -/
  | prvMQTTSubscribe (accepted : Bool)
  /-- `prvMQTTSubscribeCompleteCallback`, and whether the broker has acknowledged. -/
  | subscribeComplete (success : Bool)
  /-- Another task adds or removes one of its filters. -/
  | addSubscription (filter : A) (length : UInt16) (callback : C)
  | removeSubscription (filter : A) (length : UInt16)
  deriving DecidableEq

namespace StreamSubscriptions

def boot : StreamSubscriptions A C where
  topicStreamData := []
  topicStreamDataLength := 0
  xSubscribeInfoTopicFilterLength := 0
  inFlight := 0
  xGlobalSubscriptionList := emptySubscriptionList

section Step

variable (matchTopic : Bytes → Bytes → Bool) (application : A → Bytes)

/-- The memory of the topic filters; those of the other tasks stay as they are. -/
def mem (σ : StreamSubscriptions A C) : Memory (TopicAddr A)
  | .topicStreamData => σ.topicStreamData
  | .otaDefaultTopicFilter => Ota.otaDefaultTopicFilter
  | .application filter => application filter

/-- The registration of the acknowledged topic. -/
def registration (σ : StreamSubscriptions A C) :
    SubscriptionList (TopicAddr A) (PublishCallback C) × List (PublishCallback C) :=
  prvRegisterOTACallback matchTopic (σ.mem application) σ.xGlobalSubscriptionList .topicStreamData
    σ.xSubscribeInfoTopicFilterLength

/-- One step. -/
def step (σ : StreamSubscriptions A C) : SubscriptionAction A C → StreamSubscriptions A C
  | .registerDefault =>
    { σ with
      xGlobalSubscriptionList :=
        (prvRegisterOTACallback matchTopic (σ.mem application) σ.xGlobalSubscriptionList
          .otaDefaultTopicFilter (UInt16.ofNat Ota.otaDefaultTopicFilter.length)).1 }
  | .mqttDownloaderInit topicStreamData topicStreamDataLength =>
    { σ with
      topicStreamData := topicStreamData
      topicStreamDataLength := topicStreamDataLength }
  | .prvMQTTSubscribe accepted =>
    -- `configASSERT( topicFilterLength > 0 )`
    if σ.topicStreamDataLength = 0 then σ
    else
      { σ with
        xSubscribeInfoTopicFilterLength := σ.topicStreamDataLength
        inFlight := if accepted then σ.inFlight + 1 else σ.inFlight }
  | .subscribeComplete success =>
    if σ.inFlight = 0 then σ
    else
      { σ with
        inFlight := σ.inFlight - 1
        xGlobalSubscriptionList :=
          if success then (σ.registration matchTopic application).1
          else σ.xGlobalSubscriptionList }
  | .addSubscription filter length callback =>
    { σ with
      xGlobalSubscriptionList :=
        (MqttAgent.addSubscription (σ.mem application) σ.xGlobalSubscriptionList
          (.application filter) length (.application callback)).1 }
  | .removeSubscription filter length =>
    { σ with
      xGlobalSubscriptionList :=
        (MqttAgent.removeSubscription (σ.mem application) σ.xGlobalSubscriptionList
          (.application filter) length).1 }

/-! ## Properties -/

/-- A filter that stays registered keeps its bytes. -/
def FiltersKept (σ : StreamSubscriptions A C) (a : SubscriptionAction A C) : Prop :=
  ∀ e ∈ occupied σ.xGlobalSubscriptionList,
    e ∈ occupied (step matchTopic application σ a).xGlobalSubscriptionList →
    e.filter ((step matchTopic application σ a).mem application) = e.filter (σ.mem application)

/-- A message is handed to `prvMqttDataCallback` at most once. -/
def HandedOnce (σ : StreamSubscriptions A C) : Prop :=
  ∀ topicName, (handleIncomingPublishes (σ.mem application) matchTopic σ.xGlobalSubscriptionList
    topicName).count .prvMqttDataCallback ≤ 1

/-- An acknowledged topic whose registration fails does not find the list taken
    by the topic of an earlier job. -/
def NotExhausted (σ : StreamSubscriptions A C) (a : SubscriptionAction A C) : Prop :=
  a = .subscribeComplete true → σ.inFlight ≠ 0 →
    .prvMqttDataCallback ∈ (σ.registration matchTopic application).2 →
    ∀ e ∈ occupied (σ.registration matchTopic application).1,
      e.pxIncomingPublishCallback ≠ .prvMqttDataCallback

/-- A new topic is the one that is registered already, if there is one. A
    SUBSCRIBE is not acknowledged between the write of the next topic and the
    call of `prvMQTTSubscribe` with its length. -/
def Condition (σ : StreamSubscriptions A C) : SubscriptionAction A C → Prop
  | .mqttDownloaderInit topicStreamData topicStreamDataLength =>
    ∀ e ∈ occupied σ.xGlobalSubscriptionList, e.pcSubscriptionFilterString = .topicStreamData →
      e.usFilterStringLength = topicStreamDataLength ∧
        topicStreamData.take topicStreamDataLength.toNat =
          σ.topicStreamData.take topicStreamDataLength.toNat
  | .subscribeComplete success =>
    success = true → σ.inFlight ≠ 0 →
      σ.xSubscribeInfoTopicFilterLength = σ.topicStreamDataLength
  | _ => True

end Step

/-! ## One topic in the list -/

/-- The call hands messages to `prvMqttDataCallback`. -/
def isDataEntry (e : SubscriptionElement (TopicAddr A) (PublishCallback C)) : Bool :=
  decide (e.pxIncomingPublishCallback = .prvMqttDataCallback)

/-- All filters in `topicStreamData` have the length, only these hand messages to
    `prvMqttDataCallback`, and at most one does. -/
structure OneTopic (length : UInt16)
    (list : SubscriptionList (TopicAddr A) (PublishCallback C)) : Prop where
  sameLength : ∀ e ∈ occupied list,
    e.pcSubscriptionFilterString = .topicStreamData → e.usFilterStringLength = length
  dataTopic : ∀ e ∈ occupied list, e.pxIncomingPublishCallback = .prvMqttDataCallback →
    e.pcSubscriptionFilterString = .topicStreamData
  single : (occupied list).countP isDataEntry ≤ 1

section OneTopic

variable {mem : Memory (TopicAddr A)} {length : UInt16}
  {list : SubscriptionList (TopicAddr A) (PublishCallback C)}

/-- A filter in the same place with the same length and callback is a duplicate. -/
theorem duplicates_of_eq {e e' : SubscriptionElement (TopicAddr A) (PublishCallback C)}
    (hptr : e'.pcSubscriptionFilterString = e.pcSubscriptionFilterString)
    (hlength : e'.usFilterStringLength = e.usFilterStringLength)
    (hcallback : e'.pxIncomingPublishCallback = e.pxIncomingPublishCallback) :
    e.duplicates mem e' = true := by
  have hequal : ∀ (m : Bytes) (n : ℕ), strncmp m m n = 0 := by
    intro m n
    induction n generalizing m with
    | zero => rfl
    | succ n ih => simp [strncmp, ih]
  simp [SubscriptionElement.duplicates, hptr, hlength, hcallback, hequal]

/-- A new topic finds no entry of `prvMqttDataCallback`. -/
theorem OneTopic.no_dataEntry (h : OneTopic length list)
    {e : SubscriptionElement (TopicAddr A) (PublishCallback C)}
    (hptr : e.pcSubscriptionFilterString = .topicStreamData)
    (hlength : e.usFilterStringLength = length)
    (hcallback : e.pxIncomingPublishCallback = .prvMqttDataCallback)
    (hnew : ∀ e' ∈ occupied list, e.duplicates mem e' = false) :
    ∀ e' ∈ occupied list, e'.pxIncomingPublishCallback ≠ .prvMqttDataCallback := by
  intro e' he' hdata
  have hptr' := h.dataTopic e' he' hdata
  have hdup := @duplicates_of_eq A C _ mem e e' (hptr'.trans hptr.symm)
    ((h.sameLength e' he' hptr').trans hlength.symm) (hdata.trans hcallback.symm)
  rw [hnew e' he'] at hdup
  exact Bool.false_ne_true hdup

/-- `addSubscription` keeps one topic, if it is given this topic or another
    place and another callback. -/
theorem OneTopic.addSubscription (h : OneTopic length list) (pTopicFilter : TopicAddr A)
    (topicFilterLength : UInt16) (callback : PublishCallback C)
    (hlength : pTopicFilter = .topicStreamData → topicFilterLength = length)
    (hdata : callback = .prvMqttDataCallback → pTopicFilter = .topicStreamData) :
    OneTopic length (addSubscription mem list pTopicFilter topicFilterLength callback).1 := by
  have hcases := addSubscription_cases mem list pTopicFilter topicFilterLength callback
  generalize MqttAgent.addSubscription mem list pTopicFilter topicFilterLength callback = p
    at hcases ⊢
  cases hcases with
  | refused => exact h
  | alreadyExists => exact h
  | full => exact h
  | added hne index hfree hnew =>
    have hperm := occupied_set_perm
      (e := ⟨callback, topicFilterLength, pTopicFilter, hne⟩) hfree
    refine ⟨?_, ?_, ?_⟩
    · intro e he hptr
      rcases List.mem_cons.mp (hperm.mem_iff.mp he) with rfl | he
      · exact hlength hptr
      · exact h.sameLength e he hptr
    · intro e he hcallback
      rcases List.mem_cons.mp (hperm.mem_iff.mp he) with rfl | he
      · exact hdata hcallback
      · exact h.dataTopic e he hcallback
    · rw [hperm.countP_eq, List.countP_cons]
      by_cases hcallback : callback = .prvMqttDataCallback
      · have hptr := hdata hcallback
        have hnone := h.no_dataEntry hptr (hlength hptr) hcallback hnew
        have hzero : (occupied list).countP isDataEntry = 0 := by
          rw [List.countP_eq_zero]
          intro e he
          simpa [isDataEntry] using hnone e he
        rw [hzero]
        split_ifs <;> omega
      · have hno : isDataEntry (⟨callback, topicFilterLength, pTopicFilter, hne⟩ :
            SubscriptionElement (TopicAddr A) (PublishCallback C)) = false := by
          simpa [isDataEntry] using hcallback
        rw [hno]
        exact h.single

/-- A registration that fails does not find an entry of `prvMqttDataCallback`. -/
theorem OneTopic.failed (h : OneTopic length list) {topicFilterLength : UInt16}
    (hlength : topicFilterLength = length) (hne : topicFilterLength ≠ 0)
    (hfailed : (MqttAgent.addSubscription mem list .topicStreamData topicFilterLength
      (.prvMqttDataCallback : PublishCallback C)).2 = false) :
    ∀ e ∈ occupied list, e.pxIncomingPublishCallback ≠ .prvMqttDataCallback := by
  have hcases := addSubscription_cases mem list .topicStreamData topicFilterLength
    (.prvMqttDataCallback : PublishCallback C)
  generalize MqttAgent.addSubscription mem list .topicStreamData topicFilterLength
    (.prvMqttDataCallback : PublishCallback C) = p at hcases hfailed
  cases hcases with
  | refused hzero => exact absurd hzero hne
  | alreadyExists => exact absurd hfailed (by simp)
  | added => exact absurd hfailed (by simp)
  | full hne' hfull hnew => exact h.no_dataEntry rfl hlength rfl hnew

/-- A registration keeps one topic. The data filter of the table is only matched
    by a topic in `topicStreamData`. -/
theorem OneTopic.registerEntry {matchTopic : Bytes → Bytes → Bool} {pTopicFilter : TopicAddr A}
    {topicFilterLength : UInt16}
    {registered : SubscriptionList (TopicAddr A) (PublishCallback C) × List (PublishCallback C)}
    (h : OneTopic length registered.1) (entry : Bytes × PublishCallback C)
    (hlength : pTopicFilter = .topicStreamData → topicFilterLength = length)
    (hdata : entry.2 = .prvMqttDataCallback →
      matchTopic ((mem pTopicFilter).take topicFilterLength.toNat) entry.1 = true →
      pTopicFilter = .topicStreamData) :
    OneTopic length
      (Ota.registerEntry matchTopic mem pTopicFilter topicFilterLength registered entry).1 := by
  unfold Ota.registerEntry
  split_ifs with hmatch
  · exact h.addSubscription pTopicFilter topicFilterLength entry.2 hlength
      fun hcallback => hdata hcallback hmatch
  · exact h

/-- A failed registration of `prvMqttDataCallback` has left no entry of it. -/
def FailedAlone
    (registered : SubscriptionList (TopicAddr A) (PublishCallback C) × List (PublishCallback C)) :
    Prop :=
  .prvMqttDataCallback ∈ registered.2 →
    ∀ e ∈ occupied registered.1, e.pxIncomingPublishCallback ≠ .prvMqttDataCallback

theorem FailedAlone.registerOther {matchTopic : Bytes → Bytes → Bool} {pTopicFilter : TopicAddr A}
    {topicFilterLength : UInt16}
    {registered : SubscriptionList (TopicAddr A) (PublishCallback C) × List (PublishCallback C)}
    (h : FailedAlone registered) (filter : Bytes) {callback : PublishCallback C}
    (hcallback : callback ≠ .prvMqttDataCallback) :
    FailedAlone (Ota.registerEntry matchTopic mem pTopicFilter topicFilterLength registered
      (filter, callback)) := by
  unfold Ota.registerEntry
  split_ifs with hmatch
  · intro hfailed e he
    have hbefore : .prvMqttDataCallback ∈ registered.2 := by
      dsimp only at hfailed
      split_ifs at hfailed
      · exact hfailed
      · exact (List.mem_cons.mp hfailed).resolve_left hcallback.symm
    rcases mem_occupied_addSubscription he with he | heq
    · exact h hbefore e he
    · rw [heq]
      exact hcallback
  · exact h

theorem OneTopic.failedAlone {matchTopic : Bytes → Bytes → Bool}
    {registered : SubscriptionList (TopicAddr A) (PublishCallback C) × List (PublishCallback C)}
    (h : OneTopic length registered.1) (hne : length ≠ 0)
    (hnone : .prvMqttDataCallback ∉ registered.2) (filter : Bytes) :
    FailedAlone (Ota.registerEntry matchTopic mem .topicStreamData length registered
      (filter, .prvMqttDataCallback)) := by
  unfold Ota.registerEntry
  split_ifs with hmatch
  · intro hfailed e he
    cases hadded : (MqttAgent.addSubscription mem registered.1 .topicStreamData length
        (.prvMqttDataCallback : PublishCallback C)).2 with
    | true =>
      dsimp only at hfailed
      rw [hadded, if_pos rfl] at hfailed
      exact absurd hfailed hnone
    | false =>
      have hno := h.failed rfl hne hadded
      rw [addSubscription_of_failed hadded] at he
      exact hno e he
  · exact fun hfailed => absurd hfailed hnone

/-- The registration of the stream topic keeps one topic; if it fails, there is
    no entry of `prvMqttDataCallback`. -/
theorem OneTopic.registration (matchTopic : Bytes → Bytes → Bool) (h : OneTopic length list)
    (hne : length ≠ 0) :
    OneTopic length (prvRegisterOTACallback matchTopic mem list .topicStreamData length).1 ∧
      FailedAlone (prvRegisterOTACallback matchTopic mem list .topicStreamData length) := by
  have hjob : OneTopic length (Ota.registerEntry matchTopic mem .topicStreamData length (list, [])
      (otaJobNotifyTopicFilter, .prvMqttJobCallback)).1 :=
    OneTopic.registerEntry h _ (fun _ => rfl) (fun _ _ => rfl)
  have hnone : .prvMqttDataCallback ∉ (Ota.registerEntry matchTopic mem .topicStreamData length
      (list, []) (otaJobNotifyTopicFilter, (.prvMqttJobCallback : PublishCallback C))).2 := by
    unfold Ota.registerEntry
    split_ifs
    · dsimp only
      split_ifs <;> simp
    · simp
  constructor
  · exact (hjob.registerEntry (otaDataStreamTopicFilter, .prvMqttDataCallback) (fun _ => rfl)
      (fun _ _ => rfl)).registerEntry (otaDefaultTopicFilter, .prvMqttDefaultCallback)
      (fun _ => rfl) (fun _ _ => rfl)
  · exact (hjob.failedAlone hne hnone otaDataStreamTopicFilter).registerOther
      otaDefaultTopicFilter (by simp)

/-- The registration of another topic keeps one topic, if the data filter does
    not match it. -/
theorem OneTopic.registerDefault {matchTopic : Bytes → Bytes → Bool} (h : OneTopic length list)
    {topicFilterLength : UInt16}
    (hmatch : matchTopic ((mem .otaDefaultTopicFilter).take topicFilterLength.toNat)
      otaDataStreamTopicFilter = false) :
    OneTopic length
      (prvRegisterOTACallback matchTopic mem list .otaDefaultTopicFilter topicFilterLength).1 := by
  have hjob : OneTopic length (Ota.registerEntry matchTopic mem .otaDefaultTopicFilter
      topicFilterLength (list, []) (otaJobNotifyTopicFilter, .prvMqttJobCallback)).1 :=
    OneTopic.registerEntry h _ (by simp) (by simp)
  have hdata : OneTopic length (Ota.registerEntry matchTopic mem .otaDefaultTopicFilter
      topicFilterLength (Ota.registerEntry matchTopic mem .otaDefaultTopicFilter topicFilterLength
        (list, []) (otaJobNotifyTopicFilter, .prvMqttJobCallback))
      (otaDataStreamTopicFilter, .prvMqttDataCallback)).1 :=
    hjob.registerEntry _ (by simp) (by simp [hmatch])
  exact hdata.registerEntry (otaDefaultTopicFilter, .prvMqttDefaultCallback) (by simp) (by simp)

end OneTopic

/-! ## Steps -/

section Steps

variable {matchTopic : Bytes → Bytes → Bool} {application : A → Bytes}
  {σ : StreamSubscriptions A C}

/-- **When a new topic leaves the registered filters alone.** -/
theorem filtersKept_init_iff (topicStreamData : Bytes) (topicStreamDataLength : UInt16) :
    FiltersKept matchTopic application σ
        (.mqttDownloaderInit topicStreamData topicStreamDataLength) ↔
      ∀ e ∈ occupied σ.xGlobalSubscriptionList,
        e.pcSubscriptionFilterString = .topicStreamData →
          topicStreamData.take e.usFilterStringLength.toNat =
            σ.topicStreamData.take e.usFilterStringLength.toNat := by
  refine forall_congr' fun e => forall_congr' fun he => ?_
  constructor
  · intro hkept hptr
    have heq := hkept he
    simpa [SubscriptionElement.filter, hptr, mem, step] using heq
  · intro hagree _
    cases hptr : e.pcSubscriptionFilterString with
    | topicStreamData => simpa [SubscriptionElement.filter, hptr, mem, step] using hagree hptr
    | otaDefaultTopicFilter => simp [SubscriptionElement.filter, hptr, mem]
    | application filter => simp [SubscriptionElement.filter, hptr, mem]

/-- Only a new topic changes the memory. -/
theorem filtersKept_of_condition {a : SubscriptionAction A C}
    (hcond : Condition σ a) : FiltersKept matchTopic application σ a := by
  cases a with
  | mqttDownloaderInit topicStreamData topicStreamDataLength =>
    rw [filtersKept_init_iff]
    intro e he hptr
    obtain ⟨hlength, hbytes⟩ := hcond e he hptr
    rw [hlength]
    exact hbytes
  | prvMQTTSubscribe accepted =>
    intro e _ _
    simp only [step]
    split_ifs
    · rfl
    · rfl
    · rfl
  | subscribeComplete success =>
    intro e _ _
    simp only [step]
    split_ifs
    · rfl
    · rfl
    · rfl
  | _ => exact fun _ _ _ => rfl

/-- The list has one topic, and an accepted SUBSCRIBE has a filter. -/
structure Inv (σ : StreamSubscriptions A C) : Prop where
  oneTopic : OneTopic σ.topicStreamDataLength σ.xGlobalSubscriptionList
  subscribed : σ.inFlight ≠ 0 → σ.xSubscribeInfoTopicFilterLength ≠ 0

theorem inv_step (hmatch : matchTopic Ota.otaDefaultTopicFilter otaDataStreamTopicFilter = false)
    (h : Inv σ) {a : SubscriptionAction A C} (hcond : Condition σ a) :
    Inv (step matchTopic application σ a) := by
  cases a with
  | registerDefault =>
    refine ⟨h.oneTopic.registerDefault ?_, h.subscribed⟩
    have hwhole : Ota.otaDefaultTopicFilter.take
        (UInt16.ofNat Ota.otaDefaultTopicFilter.length).toNat = Ota.otaDefaultTopicFilter := by
      decide
    show matchTopic (Ota.otaDefaultTopicFilter.take _) _ = false
    rw [hwhole]
    exact hmatch
  | mqttDownloaderInit topicStreamData topicStreamDataLength =>
    refine ⟨⟨?_, h.oneTopic.dataTopic, h.oneTopic.single⟩, h.subscribed⟩
    exact fun e he hptr => (hcond e he hptr).1
  | prvMQTTSubscribe accepted =>
    unfold step
    dsimp only
    split_ifs with hempty
    · exact h
    · exact ⟨h.oneTopic, fun _ => hempty⟩
    · exact ⟨h.oneTopic, fun _ => hempty⟩
  | subscribeComplete success =>
    unfold step
    dsimp only
    split_ifs with hnone hsuccess
    · exact h
    · have hlength := hcond hsuccess hnone
      refine ⟨?_, fun _ => h.subscribed hnone⟩
      show OneTopic σ.topicStreamDataLength (prvRegisterOTACallback _ _ _ _ _).1
      rw [hlength]
      exact (h.oneTopic.registration matchTopic (hlength ▸ h.subscribed hnone)).1
    · exact ⟨h.oneTopic, fun _ => h.subscribed hnone⟩
  | addSubscription filter length callback =>
    exact ⟨h.oneTopic.addSubscription _ _ _ (by simp) (by simp), h.subscribed⟩
  | removeSubscription filter length =>
    have hsublist : (occupied (MqttAgent.removeSubscription (σ.mem application)
        σ.xGlobalSubscriptionList (.application filter) length).1).Sublist
          (occupied σ.xGlobalSubscriptionList) := occupied_removeSubscription_sublist _ _
    refine ⟨⟨?_, ?_, ?_⟩, h.subscribed⟩
    · exact fun e he => h.oneTopic.sameLength e (hsublist.subset he)
    · exact fun e he => h.oneTopic.dataTopic e (hsublist.subset he)
    · exact hsublist.countP_le.trans h.oneTopic.single

/-- A list with one topic hands a message on once. -/
theorem Inv.handedOnce (h : Inv σ) : HandedOnce matchTopic application σ :=
  fun topicName => (count_handleIncomingPublishes_le matchTopic topicName _).trans h.oneTopic.single

theorem Inv.notExhausted (h : Inv σ) {a : SubscriptionAction A C} (hcond : Condition σ a) :
    NotExhausted matchTopic application σ a := by
  rintro rfl hflight hfailed
  have hlength := hcond rfl hflight
  have hne := h.subscribed hflight
  unfold registration at hfailed ⊢
  rw [hlength] at hfailed hne ⊢
  exact (h.oneTopic.registration matchTopic hne).2 hfailed

theorem inv_boot : Inv (boot : StreamSubscriptions A C) where
  oneTopic := ⟨by simp [boot], by simp [boot], by simp [boot]⟩
  subscribed := fun h => absurd rfl h

end Steps

/-! ## Runs -/

/-- **Stream subscriptions.** In a run in which every new topic is the one that
    is registered already, the registered filters keep their bytes, a message is
    handed to `prvMqttDataCallback` at most once, and no registration fails
    because of the topic of an earlier job. The default filter, taken as a topic,
    does not match the data filter. -/
theorem streamSubscriptions_of_condition (matchTopic : Bytes → Bytes → Bool)
    (application : A → Bytes)
    (hmatch : matchTopic Ota.otaDefaultTopicFilter otaDataStreamTopicFilter = false)
    (as : List (SubscriptionAction A C))
    (h : Along (step matchTopic application) Condition boot as) :
    Along (step matchTopic application) (FiltersKept matchTopic application) boot as ∧
      Along (step matchTopic application) (NotExhausted matchTopic application) boot as ∧
      ∀ pre, pre <+: as →
        HandedOnce matchTopic application (run (step matchTopic application) boot pre) := by
  refine ⟨?_, ?_, ?_⟩
  · exact along_of_inv (I := fun _ => True) (fun _ _ _ _ => trivial)
      (fun _ _ _ hcond => filtersKept_of_condition hcond) trivial h
  · exact along_of_inv (I := Inv) (fun _ _ hinv hcond => inv_step hmatch hinv hcond)
      (fun _ _ hinv hcond => hinv.notExhausted hcond) inv_boot h
  · rintro pre ⟨post, rfl⟩
    have hpre := ((along_append _ _ _).mp h).1
    exact (Along.inv (I := Inv) (fun _ _ hinv hcond => inv_step hmatch hinv hcond) inv_boot
      hpre).handedOnce

/-! ## Two jobs -/

/-- `MQTT_MatchTopic` with its wildcards `+` and `#`. -/
def matchTopicFilter (name : Bytes) : Bytes → Bool
  | [] => name.isEmpty
  | [35] => true
  | 43 :: filter => matchTopicFilter (name.dropWhile fun b => b != 47) filter
  | b :: filter =>
    match name with
    | [] => false
    | c :: name => c == b && matchTopicFilter name filter

/-- The stream topic of a job. -/
def streamTopic (streamName : Bytes) : Bytes :=
  ascii "$aws/things/t/streams/" ++ streamName ++ ascii "/data/json"

/-- A job with its stream; the broker acknowledges the SUBSCRIBE. -/
def streamJob (streamName : Bytes) : List (SubscriptionAction Unit Unit) :=
  [.mqttDownloaderInit (streamTopic streamName) (UInt16.ofNat (streamTopic streamName).length),
    .prvMQTTSubscribe true, .subscribeComplete true]

section Decidable

variable [DecidableEq A] (matchTopic : Bytes → Bytes → Bool) (application : A → Bytes)
  (σ : StreamSubscriptions A C) (a : SubscriptionAction A C)

instance : Decidable (FiltersKept matchTopic application σ a) :=
  inferInstanceAs (Decidable (∀ e ∈ _, _ → _))

instance : Decidable (NotExhausted matchTopic application σ a) :=
  inferInstanceAs (Decidable (_ → _))

instance : Decidable (Condition σ a) :=
  match a with
  | .mqttDownloaderInit _ _ => inferInstanceAs (Decidable (∀ e ∈ _, _ → _))
  | .subscribeComplete _ => inferInstanceAs (Decidable (_ → _))
  | .registerDefault | .prvMQTTSubscribe _ | .addSubscription _ _ _ | .removeSubscription _ _ =>
    isTrue trivial

end Decidable

set_option maxRecDepth 20000 in
/-- Two jobs with the same stream. -/
theorem streamSubscriptions_sameStream :
    Along (step matchTopicFilter fun _ : Unit => [])
        (FiltersKept matchTopicFilter fun _ => []) boot
        (.registerDefault :: streamJob (ascii "s") ++ streamJob (ascii "s")) ∧
      Along (step matchTopicFilter fun _ : Unit => [])
        (NotExhausted matchTopicFilter fun _ => []) boot
        (.registerDefault :: streamJob (ascii "s") ++ streamJob (ascii "s")) ∧
      ∀ pre, pre <+: (.registerDefault :: streamJob (ascii "s") ++ streamJob (ascii "s")) →
        HandedOnce matchTopicFilter (fun _ => [])
          (run (step matchTopicFilter fun _ => []) boot pre) :=
  streamSubscriptions_of_condition matchTopicFilter (fun _ => []) (by decide)
    (.registerDefault :: streamJob (ascii "s") ++ streamJob (ascii "s")) (by decide)

/-- Ten jobs whose stream names have the lengths 1 to 10. -/
def tenJobs : List (SubscriptionAction Unit Unit) :=
  .registerDefault :: (List.range 10).flatMap fun n => streamJob (List.replicate (n + 1) 115)

set_option maxRecDepth 20000 in
/-- A second job changes the filter of the first one, and ten jobs with topics of
    different lengths fill the list. -/
theorem not_streamSubscriptions_otherStream :
    ¬ Along (step matchTopicFilter fun _ : Unit => []) (FiltersKept matchTopicFilter fun _ => [])
        boot (.registerDefault :: streamJob (ascii "s") ++ streamJob (ascii "t")) ∧
      ¬ Along (step matchTopicFilter fun _ : Unit => [])
        (NotExhausted matchTopicFilter fun _ => []) boot tenJobs := by
  constructor
  · decide
  · decide

end StreamSubscriptions

end Corstone.Ota
