import RpiHealth.Mqtt.Dormant

/-! What the client library answers for. Outgoing events may outlive their connection,
but a PubAck answers what was sent on this one. -/
namespace RpiHealth
open Machines

def isLost : Obs → Bool
  | .lost => true
  | _ => false

/-- What happened since a connection was last lost. -/
def session (trace : List Obs) : List Obs := since isLost trace

/-- A PubAck is read only for an identifier that something was sent under on this
connection. One that is left over never comes behind the leftover Outgoing event of its
publish: the client returns that event before it reads on. -/
def Answers (c : List Obs) : Obs → Prop
  | .received id => id ∈ (transmitted c).map Prod.snd
  | .polled (.stale (.incoming (.pubAck id))) => .polled (.stale (.outgoing (.publish id))) ∉ c
  | _ => True

instance decidableAnswers (c : List Obs) (o : Obs) : Decidable (Answers c o) := by
  cases o with
  | received id => exact inferInstanceAs (Decidable (id ∈ (transmitted c).map Prod.snd))
  | polled b =>
    cases b with
    | stale e =>
      cases e with
      | incoming packet =>
        cases packet with
        | pubAck id => exact inferInstanceAs (Decidable (_ ∉ c))
        | _ => exact .isTrue True.intro
      | outgoing packet => exact .isTrue True.intro
    | _ => exact .isTrue True.intro
  | _ => exact .isTrue True.intro

/-- The client kept to this in all that was observed. -/
def Answering (trace : List Obs) : Prop :=
  Guarded (fun before o => Answers (session before) o) trace

instance decidableAnswering (trace : List Obs) : Decidable (Answering trace) :=
  inferInstanceAs (Decidable (Guarded _ trace))

theorem answering_append (trace emitted : List Obs) :
    Answering (trace ++ emitted) ↔
      Answering trace ∧ Meets (fun before o => Answers (session before) o) trace emitted :=
  guarded_append _ trace emitted

/-- The sending of a request was reported. -/
def HasReported (c : List Obs) : Prop := ∃ r id, Obs.polled (.sent r id) ∈ c

/-- The observations that are the client's and not a handler's. -/
def Obs.isClients : Obs → Bool
  | .transmitted _ _ | .received _ | .polled _ | .lost => true
  | _ => false

def Quiet (d : List Obs) : Prop := ∀ o ∈ d, o.isClients = false

theorem quiet_append (d e : List Obs) (first : Quiet d) (second : Quiet e) : Quiet (d ++ e) := by
  intro o member
  rcases List.mem_append.mp member with member | member
  · exact first o member
  · exact second o member

theorem quiet_transmitted (d : List Obs) (quiet : Quiet d) : transmitted d = [] := by
  refine List.filterMap_eq_nil_iff.mpr fun o member => ?_
  cases o with
  | transmitted r id => simpa [Obs.isClients] using quiet _ member
  | _ => rfl

theorem quiet_polled (c d : List Obs) (quiet : Quiet d) (b : Buffered) :
    .polled b ∈ c ++ d ↔ .polled b ∈ c := by
  refine ⟨fun member => (List.mem_append.mp member).resolve_right fun here => ?_,
    List.mem_append_left d⟩
  simpa [Obs.isClients] using quiet _ here

theorem quiet_reported (c d : List Obs) (quiet : Quiet d) :
    HasReported (c ++ d) ↔ HasReported c := by
  simp only [HasReported, quiet_polled c d quiet]

theorem reported_append (c d : List Obs) (reported : HasReported c) : HasReported (c ++ d) := by
  obtain ⟨r, id, member⟩ := reported
  exact ⟨r, id, List.mem_append_left d member⟩

theorem session_append (trace d : List Obs) (kept : ∀ o ∈ d, isLost o = false) :
    session (trace ++ d) = session trace ++ d :=
  since_append isLost trace d kept

theorem quiet_kept (d : List Obs) (quiet : Quiet d) : ∀ o ∈ d, isLost o = false := by
  intro o member
  cases o with
  | lost => simpa [Obs.isClients] using quiet _ member
  | _ => rfl

theorem session_quiet (trace d : List Obs) (quiet : Quiet d) :
    session (trace ++ d) = session trace ++ d :=
  session_append trace d (quiet_kept d quiet)

theorem session_cons (trace d : List Obs) (o : Obs) (kept : isLost o = false) (quiet : Quiet d) :
    session (trace ++ o :: d) = session trace ++ o :: d := by
  refine session_append trace (o :: d) fun a member => ?_
  rcases List.mem_cons.mp member with rfl | member
  · exact kept
  · exact quiet_kept d quiet a member

namespace World

theorem performAny_quiet (w : World) (action : Option ProtocolAction)
    (message : Option StateMessage) : Quiet (w.performAny action message).emitted := by
  cases action with
  | none => simp [performAny, Quiet]
  | some action =>
    simp only [performAny, perform]
    split <;> simp [Quiet, Obs.isClients]

theorem publishCurrentState_quiet (w : World) : Quiet w.publishCurrentState.emitted := by
  cases value : w.states.value with
  | none => simp [publishCurrentState, value, Quiet]
  | some message =>
    simp only [publishCurrentState, value]
    exact performAny_quiet _ _ _

theorem andThen_quiet (first : Outcome) (next : World → Outcome) (start : Quiet first.emitted)
    (later : ∀ v, Quiet (next v).emitted) : Quiet (first.andThen next).emitted := by
  unfold Outcome.andThen
  split
  · exact start
  · exact quiet_append _ _ start (later _)

theorem finishTurn_quiet (w : World) : Quiet w.finishTurn.emitted := by
  simp only [finishTurn]
  split
  · exact andThen_quiet _ _ (by simp [Quiet, Obs.isClients]) publishCurrentState_quiet
  · split <;> simp [Quiet, Obs.isClients]

theorem conclude_quiet (out : Outcome) (quiet : Quiet out.emitted) :
    Quiet (World.conclude out).1 := by
  unfold World.conclude
  split
  · exact quiet
  · exact quiet_append _ _ quiet (by simp [Quiet, Obs.isClients])

theorem stop_quiet (w : World) : Quiet w.stop.1 := by
  simp [World.stop, Quiet, Obs.isClients]

theorem turn_quiet (w : World) (event : Event) : Quiet (w.turn event).1 :=
  conclude_quiet _ (andThen_quiet _ _ (performAny_quiet _ _ _) finishTurn_quiet)

theorem stateTurn_quiet (w : World) : Quiet w.stateTurn.1 :=
  conclude_quiet _ (andThen_quiet _ _ (publishCurrentState_quiet w) finishTurn_quiet)

theorem drain_quiet (w : World) (event : Event) : Quiet (w.drain event).1 := by
  simp only [World.drain]
  split
  · exact quiet_append _ _ (performAny_quiet _ _ _) (stop_quiet _)
  · exact conclude_quiet _ (performAny_quiet _ _ _)

theorem gracefulShutdown_quiet (w : World) : Quiet w.gracefulShutdown.1 := by
  simp only [World.gracefulShutdown]
  refine quiet_append [_, _] _ (by simp [Quiet, Obs.isClients]) ?_
  split
  · exact stop_quiet _
  · exact conclude_quiet _ (performAny_quiet _ (some _) none)

end World

/-- No PubAck stands before the first report of a request. -/
def SentFirst : List Buffered → Prop
  | [] | .sent _ _ :: _ => True
  | .ack _ :: _ => False
  | .quiet :: rest | .stale _ :: rest => SentFirst rest

theorem sentFirst_stale (kept : List Event) : SentFirst (kept.map .stale) := by
  induction kept with
  | nil => exact True.intro
  | cons e rest ih => exact ih

theorem sentFirst_snoc (events : List Buffered) (b : Buffered) (first : SentFirst events)
    (allowed : (∃ r id, .sent r id ∈ events) ∨ ∀ id, b ≠ .ack id) : SentFirst (events ++ [b]) := by
  induction events with
  | nil =>
    cases b with
    | ack id =>
      rcases allowed with ⟨r, sid, member⟩ | other
      · simp at member
      · exact other id rfl
    | _ => exact True.intro
  | cons a rest ih =>
    cases a with
    | sent r id => exact True.intro
    | ack id => exact first
    | quiet | stale e =>
      exact ih first (allowed.imp_left fun ⟨r, id, member⟩ => ⟨r, id, by simpa using member⟩)

theorem sentFirst_pop (b : Buffered) (rest : List Buffered) (first : SentFirst (b :: rest))
    (other : ∀ r id, b ≠ .sent r id) : SentFirst rest := by
  cases b with
  | sent r id => exact absurd rfl (other r id)
  | ack id => exact False.elim first
  | quiet | stale e => exact first

/-- The buffered events of a connection that is in use, or may be. -/
structure Tidy (c : List Obs) (events : List Buffered) : Prop where
  staleFirst : StaleFirst events
  unreported : ∀ e, .stale e ∈ events → ¬ HasReported c
  answered : HasReported c ∨ SentFirst events
  sent : ∀ r id, (r, id) ∈ transmitted c → HasReported c ∨ ∃ s sid, .sent s sid ∈ events

theorem tidy_quiet (c d : List Obs) (events : List Buffered) (quiet : Quiet d)
    (tidy : Tidy c events) : Tidy (c ++ d) events := by
  have same := quiet_reported c d quiet
  refine ⟨tidy.staleFirst, ?_, ?_, ?_⟩
  · rw [same]
    exact tidy.unreported
  · rw [same]
    exact tidy.answered
  · rw [same, transmitted_append, quiet_transmitted d quiet, List.append_nil]
    exact tidy.sent

/-- What an error leaves behind. -/
theorem tidy_kept (kept : List Event) :
    Tidy [.reported .disconnected] (kept.map .stale) where
  staleFirst := by
    refine List.pairwise_map.mpr (List.pairwise_of_forall fun a b _ => rfl)
  unreported e _ := by simp [HasReported]
  answered := .inr (sentFirst_stale kept)
  sent r id member := by simp [transmission?] at member

theorem staleFirst_snoc (events : List Buffered) (b : Buffered) (own : b.isStale = false)
    (staleFirst : StaleFirst events) : StaleFirst (events ++ [b]) := by
  refine List.pairwise_append.mpr ⟨staleFirst, by simp, fun a _ last member stale => ?_⟩
  obtain rfl : last = b := by simpa using member
  simp [own] at stale

section Tidy

variable (c : List Obs) (events : List Buffered)

/-- A request is sent. -/
theorem tidy_transmit (r : Submission) (id : PacketId) (tidy : Tidy c events) :
    Tidy (c ++ [.transmitted r id]) (events ++ [.sent r id]) := by
  have same : HasReported (c ++ [.transmitted r id]) ↔ HasReported c := by simp [HasReported]
  refine ⟨staleFirst_snoc events _ rfl tidy.staleFirst, ?_, ?_, fun _ _ _ => .inr ⟨r, id, by simp⟩⟩
  · intro e member
    rw [same]
    exact tidy.unreported e (by simpa using member)
  · rw [same]
    exact tidy.answered.imp_right fun first =>
      sentFirst_snoc events _ first (.inr fun _ => by simp)

/-- A PubAck is read. -/
theorem tidy_receive (id : PacketId) (answers : Answers c (.received id)) (tidy : Tidy c events) :
    Tidy (c ++ [.received id]) (events ++ [.ack id]) := by
  have same : HasReported (c ++ [.received id]) ↔ HasReported c := by simp [HasReported]
  obtain ⟨⟨r, _⟩, made, rfl⟩ := List.mem_map.mp answers
  have earlier := tidy.sent r _ made
  refine ⟨staleFirst_snoc events _ rfl tidy.staleFirst, ?_, ?_, ?_⟩
  · intro e member
    rw [same]
    exact tidy.unreported e (by simpa using member)
  · rw [same]
    rcases earlier with reported | waiting
    · exact .inl reported
    · exact tidy.answered.imp_right fun first => sentFirst_snoc events _ first (.inl waiting)
  · intro s sid _
    rw [same]
    exact earlier.imp_right fun ⟨s, sid, member⟩ => ⟨s, sid, by simp [member]⟩

theorem tidy_ping (tidy : Tidy c events) : Tidy c (events ++ [.quiet]) where
  staleFirst := staleFirst_snoc events _ rfl tidy.staleFirst
  unreported e member := tidy.unreported e (by simpa using member)
  answered := tidy.answered.imp_right fun first =>
    sentFirst_snoc events _ first (.inr fun _ => by simp)
  sent r id member := (tidy.sent r id member).imp_right fun ⟨s, sid, here⟩ =>
    ⟨s, sid, by simp [here]⟩

/-- An event is returned. -/
theorem tidy_pop (b : Buffered) (rest : List Buffered) (tidy : Tidy c (b :: rest)) :
    Tidy (c ++ [.polled b]) rest := by
  have later := List.pairwise_cons.mp tidy.staleFirst
  cases b with
  | sent r id =>
    have reported : HasReported (c ++ [.polled (.sent r id)]) := ⟨r, id, by simp⟩
    refine ⟨later.2, fun e member => ?_, .inl reported, fun _ _ _ => .inl reported⟩
    simpa [Buffered.isStale] using later.1 _ member rfl
  | _ =>
    refine ⟨later.2, fun e member => ?_, ?_, fun s sid member => ?_⟩
    · simpa [HasReported] using tidy.unreported e (by simp [member])
    · exact tidy.answered.imp (reported_append _ _) fun first =>
        sentFirst_pop _ rest first (by simp)
    · simpa [HasReported] using tidy.sent s sid (by simpa [transmission?] using member)

/-- A PubAck of this connection comes behind a report. -/
theorem tidy_ack (id : PacketId) (rest : List Buffered) (tidy : Tidy c (.ack id :: rest)) :
    HasReported c :=
  tidy.answered.resolve_right fun first => first

end Tidy

end RpiHealth
