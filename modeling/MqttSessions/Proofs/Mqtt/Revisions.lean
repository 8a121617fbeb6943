import MqttSessions.Proofs.Mqtt.Pump
import MqttSessions.Proofs.Text.Utf8

/-! # Both revisions of the protocol say the same

A report of revision 3.1.1 has **`Mqtt.Counterpart`**s of revision 5.0: the same packet with the codes, the
topic and the properties in the form that the later revision gives them. A session cannot tell the one
from the other, except by the reason that the end of a connection comes with
(**`Mqtt.Counterpart.route`**), and links that hear counterparts stay alike
(**`Mqtt.Link.Alike.receiveAll`**).

* **`Utf8.lossy_encode`**: a topic that is a text is read as that text;
* **`Mqtt.allGranted_map`**: which return codes grant every filter;
* **`Mqtt.revisions_agree`**: what either revision gives a session. -/

namespace MqttSessions

/-- Octets that encode a text are read as that text. -/
theorem Utf8.lossy_encode (s : String) : Utf8.lossy (Utf8.encode s.toList) = s := by
  rw [lossy, units_encode, List.map_map]
  simp [Function.comp_def]

/-- An event without the reason that it gives. -/
def LinkEvent.unexplained : LinkEvent → LinkEvent
  | .disconnected _ => .disconnected ""
  | event => event

namespace Mqtt

/-! ## Counterparts -/

/-- The same answer to one topic filter in both revisions: granted with the same quality of service, or
refused for whatever reason. -/
inductive SubscribeCode311.Same : SubscribeCode311 → SubscribeCode5 → Prop
  | granted (qos : Qos) : Same (.granted qos) (.granted qos)
  | refused (reason : SubscribeRefusal5) : Same .failure (.refused reason)

/-- The same report in both revisions. -/
inductive Counterpart : Report311 → Report5 → Prop
  /-- Both brokers accept the connection, or both refuse it. -/
  | connack {code : ConnectCode311} {code' : ConnectCode5} (present present' : Bool)
      (verdict : code = .success ↔ code' = .success) :
      Counterpart (.incoming (.connack code present)) (.incoming (.connack code' present'))
  /-- The same message comes in, under a topic that one of them takes as octets. -/
  | publish {packet : Publish String} {packet' : Publish (List UInt8)}
      (topic : packet'.topic = Utf8.encode packet.topic.toList) (payload : packet'.payload = packet.payload)
      (qos : packet'.qos = packet.qos) (retain : packet'.retain = packet.retain) :
      Counterpart (.incoming (.publish packet)) (.incoming (.publish packet'))
  /-- The same filters are granted. -/
  | suback (packetId packetId' : Nat) {codes : List SubscribeCode311} {codes' : List SubscribeCode5}
      (verdicts : List.Forall₂ SubscribeCode311.Same codes codes') :
      Counterpart (.incoming (.suback packetId codes)) (.incoming (.suback packetId' codes'))
  | disconnect : Counterpart (.incoming .disconnect) (.incoming .disconnect)
  | unsuback (packetId packetId' : Nat) (details : String) :
      Counterpart (.incoming (.unsuback packetId)) (.incoming (.unsuback packetId' details))
  | ack (kind : Ack) (packetId packetId' : Nat) (details : String) :
      Counterpart (.incoming (.ack kind packetId)) (.incoming (.ack kind packetId' details))
  | pingRequest : Counterpart (.incoming .pingRequest) (.incoming .pingRequest)
  | pingResponse : Counterpart (.incoming .pingResponse) (.incoming .pingResponse)
  /-- What a client would send, in whatever way its fields are written out. -/
  | demand (kind : Demand) (fields fields' : String) :
      Counterpart (.incoming (.demand kind fields)) (.incoming (.demand kind fields'))
  /-- Whatever the client sends itself. -/
  | outgoing (packet packet' : Outgoing) : Counterpart (.outgoing packet) (.outgoing packet')

/-! ## Return codes -/

/-- A quality of service is no failure. -/
theorem level_lt_firstFailure (qos : Qos) : qos.level < firstFailure := by
  cases qos <;> decide

/-- Return codes grant every filter just if each answer does. -/
theorem allGranted_map {Code : Type} {number : Code → Nat} {granted : Qos → Code}
    (grants : ∀ code, number code < firstFailure ↔ ∃ qos, code = granted qos) (codes : List Code) :
    allGranted (codes.map number) = true ↔ ∀ code ∈ codes, ∃ qos, code = granted qos := by
  simp [allGranted, ← grants]

theorem SubscribeCode311.number_lt_iff (code : SubscribeCode311) :
    code.number < firstFailure ↔ ∃ qos, code = .granted qos := by
  cases code with
  | granted qos => simp [number, level_lt_firstFailure]
  | failure => simp [number]

theorem SubscribeCode5.number_lt_iff (code : SubscribeCode5) :
    code.number < firstFailure ↔ ∃ qos, code = .granted qos := by
  cases code with
  | granted qos => simp [number, level_lt_firstFailure]
  | refused reason => simp [number]

/-- The same answers have the same numbers. -/
theorem map_number_of_same {codes : List SubscribeCode311} {codes' : List SubscribeCode5}
    (verdicts : List.Forall₂ SubscribeCode311.Same codes codes') :
    codes.map SubscribeCode311.number = codes'.map SubscribeCode5.number := by
  induction verdicts with
  | nil => rfl
  | cons verdict _ ih =>
    rw [List.map_cons, List.map_cons, ih]
    cases verdict <;> rfl

/-! ## What a session hears -/

/-- Routes that differ at most in a code that comes with a refused or accepted connection, and in the
wording of what has no meaning for a session. -/
inductive Route.Same : Route → Route → Prop
  | refl (route : Route) : Same route route
  | acknowledged (success : Bool) (code code' : Nat) :
      Same (.acknowledged success code) (.acknowledged success code')
  | housekeeping (text text' : String) : Same (.housekeeping text) (.housekeeping text')

namespace Route.Same

variable {route route' : Route}

/-- A session sees the same of both routes, but for the reason of a disconnection. -/
theorem event? (same : Same route route') :
    route.event?.map LinkEvent.unexplained = route'.event?.map LinkEvent.unexplained := by
  cases same with
  | refl => rfl
  | acknowledged success => cases success <;> rfl
  | housekeeping => rfl

/-- Both routes acknowledge the connection, or neither does. -/
theorem isAcknowledgement (same : Same route route') :
    route.isAcknowledgement = route'.isAcknowledgement := by
  cases same <;> rfl

end Route.Same

/-- **Counterparts mean the same.** -/
theorem Counterpart.route {r : Report311} {r' : Report5} (same : Counterpart r r') :
    r.route.Same r'.route := by
  cases same with
  | @connack code code' present present' verdict =>
    have accepted : (code == .success) = (code' == .success) := by
      rw [Bool.eq_iff_iff, beq_iff_eq, beq_iff_eq, verdict]
    simp only [Report311.route, Report5.route, Incoming311.route, Incoming5.route, accepted]
    exact .acknowledged _ _ _
  | publish topic payload qos retain =>
    simp only [Report311.route, Report5.route, Incoming311.route, Incoming5.route, topic,
      Utf8.lossy_encode, payload, qos, retain]
    exact .refl _
  | suback packetId packetId' verdicts =>
    simp only [Report311.route, Report5.route, Incoming311.route, Incoming5.route,
      map_number_of_same verdicts]
    exact .refl _
  | unsuback | ack | pingRequest | pingResponse | demand => exact .housekeeping _ _
  | disconnect | outgoing => exact .refl _

/-! ## Links of both revisions -/

namespace Link

/-- What a pump at work does with a report. -/
theorem receive_report {link : Link} (pumping : link.pumping = true) (route : Route) :
    link.receive (.report route) =
      { link with
        acknowledged := link.acknowledged || route.isAcknowledgement
        events := link.events ++ route.event?.toList
        pumping := !route.event?.any isLast } := by
  cases seen : route.event? <;> simp [receive, pumping, Polled.event?, seen]

/-- Two links that cannot be told apart, but for the reasons of disconnections. -/
structure Alike (link link' : Link) : Prop where
  acknowledged : link.acknowledged = link'.acknowledged
  pumping : link.pumping = link'.pumping
  events : link.events.map LinkEvent.unexplained = link'.events.map LinkEvent.unexplained

/-- Whether an event is the last one does not depend on its reason. -/
theorem isLast_unexplained (event : LinkEvent) : isLast event.unexplained = isLast event := by
  cases event <;> rfl

/-- Links that are alike stay alike when they hear the same. -/
theorem Alike.receive {link link' : Link} (alike : link.Alike link') {route route' : Route}
    (same : route.Same route') :
    (link.receive (.report route)).Alike (link'.receive (.report route')) := by
  have pumping := alike.pumping
  cases works : link.pumping with
  | false =>
    rw [works] at pumping
    simpa [Link.receive, works, ← pumping] using alike
  | true =>
    rw [works] at pumping
    rw [receive_report works, receive_report pumping.symm]
    have heard := same.event?
    have last : route.event?.any isLast = route'.event?.any isLast := by
      have lasts := congrArg (Option.any isLast) heard
      simpa [Option.any_map, Function.comp_def, isLast_unexplained] using lasts
    refine ⟨?_, ?_, ?_⟩
    · simp [alike.acknowledged, same.isAcknowledgement]
    · simp [last]
    · have added := congrArg Option.toList heard
      simp only [Option.toList_map] at added
      simp [alike.events, added]

/-- **Links of both revisions stay alike** when they hear counterparts one after the other. -/
theorem Alike.receiveAll {link link' : Link} (alike : link.Alike link') {reports : List Report311}
    {reports' : List Report5} (same : List.Forall₂ Counterpart reports reports') :
    (reports.foldl (fun link r => link.receive (.report r.route)) link).Alike
      (reports'.foldl (fun link r => link.receive (.report r.route)) link') := by
  induction same generalizing link link' with
  | nil => exact alike
  | cons first _ ih => exact ih (alike.receive first.route)

end Link

/-! ## What either revision gives a session -/

/-- A session sees nothing of a route just if the route is not meaningful. -/
theorem Route.event?_eq_none_iff (route : Route) : route.event? = none ↔ route.isMeaningful = false := by
  rw [← Route.event?_isSome, Option.isSome_eq_false_iff, Option.isNone_iff_eq_none]

/-- **Both revisions of the protocol give a session the same events.** Reports that are counterparts give it
equal events, but for the reason of a disconnection, and leave it equally acknowledged; so links that hear
counterparts one after the other stay alike. In either revision nothing is seen of a report just if its
route is not meaningful, a message comes in with its topic, payload, quality of service and retain flag
unchanged, whatever octets encode the topic, and a subscription has succeeded just if each filter has been
granted. -/
theorem revisions_agree :
    (∀ (r : Report311) (r' : Report5), Counterpart r r' →
      r.route.event?.map LinkEvent.unexplained = r'.route.event?.map LinkEvent.unexplained ∧
        r.route.isAcknowledgement = r'.route.isAcknowledgement) ∧
    (∀ (reports : List Report311) (reports' : List Report5),
      List.Forall₂ Counterpart reports reports' → ∀ link link' : Link, link.Alike link' →
        (reports.foldl (fun link r => link.receive (.report r.route)) link).Alike
          (reports'.foldl (fun link r => link.receive (.report r.route)) link')) ∧
    (∀ r : Report311, r.route.event? = none ↔ r.route.isMeaningful = false) ∧
    (∀ r : Report5, r.route.event? = none ↔ r.route.isMeaningful = false) ∧
    (∀ packet : Publish String, (Report311.incoming (.publish packet)).route.event? =
      some (.message packet.topic packet.payload packet.qos packet.retain)) ∧
    (∀ (packet : Publish (List UInt8)) (topic : String), packet.topic = Utf8.encode topic.toList →
      (Report5.incoming (.publish packet)).route.event? =
        some (.message topic packet.payload packet.qos packet.retain)) ∧
    (∀ packetId codes, ∃ success,
      (Report311.incoming (.suback packetId codes)).route.event? = some (.subscribeAck success) ∧
        (success = true ↔ ∀ code ∈ codes, ∃ qos, code = .granted qos)) ∧
    (∀ packetId codes, ∃ success,
      (Report5.incoming (.suback packetId codes)).route.event? = some (.subscribeAck success) ∧
        (success = true ↔ ∀ code ∈ codes, ∃ qos, code = .granted qos)) := by
  refine ⟨fun r r' same => ⟨same.route.event?, same.route.isAcknowledgement⟩,
    fun reports reports' same link link' alike => alike.receiveAll same,
    fun r => r.route.event?_eq_none_iff, fun r => r.route.event?_eq_none_iff, fun packet => rfl,
    fun packet topic encoded => ?_,
    fun packetId codes => ⟨_, rfl, allGranted_map SubscribeCode311.number_lt_iff codes⟩,
    fun packetId codes => ⟨_, rfl, allGranted_map SubscribeCode5.number_lt_iff codes⟩⟩
  simp only [Report5.route, Incoming5.route, Route.event?, encoded, Utf8.lossy_encode]

end Mqtt

end MqttSessions
