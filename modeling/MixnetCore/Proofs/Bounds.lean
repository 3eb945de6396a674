import MixnetCore.Proofs.Handle
import MixnetCore.Proofs.Post

/-!
# Queue bounds

`QueueBounds` holds in every reachable state (`Reachable.queueBounds`): the forward packet queue
keeps the configured capacity and holds at most that many packets, and the authored packet queue
of each full session holds at most its capacity, which is the capacity `maybe_set_mixnodes`
created it with (`SlotsInvariant`). It rests on the pushes: `handle_packet` inserts into the
forward packet queue only while the queue has room (`handlePacket_forwardPacketQueue`), and each
post pushes at most as many packets as the fragment count it checked against the queue's
remaining capacity: exactly that many when it returns `Ok`, fewer when a fragment of its loop
fails, and none when it fails before the loop (`postRequest_pushes`, `postReply_pushes`).
-/

namespace MixnetCore

variable {E : Env}

/-- The bounds of the engine's queues. -/
structure QueueBounds (s : Mixnet E) : Prop where
  /-- The forward packet queue has the configured capacity. -/
  forwardCapacity : s.forwardPacketQueue.capacity = s.config.forwardPacketQueueCapacity
  /-- The forward packet queue holds at most its capacity. -/
  forward : s.forwardPacketQueue.queue.length ≤ s.forwardPacketQueue.capacity
  /-- The authored packet queue of a full session holds at most its capacity. -/
  authored : ∀ r S, s.sessions.get r = .full S →
    S.authoredPacketQueue.queue.length ≤ S.authoredPacketQueue.capacity

namespace Mixnet

/-- `post_request` pushes into the authored packet queue of the session it posts to at most as
many packets as the fragment count it checked against the queue's remaining capacity: exactly
that many when it returns `Ok`, fewer when its loop fails, and none when it returns an error
before the loop. It changes no other slot. -/
theorem postRequest_pushes {s s' : Mixnet E} {destination destination' : Option MixnodeId}
    {data : List UInt8} {numSurbs : ℕ} {ns : E.NetworkStatus} {rng : E.Rng}
    {res : Except (PostErr E.TopologyErr) Duration}
    (h : s.postRequest destination data numSurbs ns rng = some (s', destination', res)) :
    (s'.sessions = s.sessions ∧ ∃ e, res = .error e) ∨
      ∃ bps rel S packets,
        E.fragmentBlueprints (E.fillMessageId rng).1 data numSurbs = some bps ∧
        s.sessions.get rel = .full S ∧ bps.length ≤ S.authoredPacketQueue.remainingCapacity ∧
        (∀ d, res = .ok d → packets.length = bps.length) ∧
        (∀ e, res = .error e → packets.length < bps.length) ∧
        s'.sessions = s.sessions.set rel (.full { S with authoredPacketQueue :=
          ⟨S.authoredPacketQueue.capacity, S.authoredPacketQueue.queue ++ packets⟩ }) := by
  rcases postRequest_eq_some h with ⟨rfl, -, e, he, -⟩ |
    ⟨bps, _, rel, S, rb, rng', res', st, hbps, -, -, hS, hcap, -, hb, rfl, hres⟩
  · exact .inl ⟨rfl, e, he⟩
  · obtain ⟨packets, hq, hok, herr⟩ := buildPackets_queue rb s.config.numHops bps
      ⟨S.authoredPacketQueue, s.surbKeystore, 0, 0, rng'⟩
    rw [hb] at hq hok herr
    refine .inr ⟨bps, rel, S, packets, hbps, postSession_ok hS, hcap, ?_, ?_, by
      simp only [setSession_sessions]; rw [hq]⟩
    · rintro d rfl
      rcases hres with ⟨hr, -⟩ | ⟨e, -, -, hr⟩
      · exact hok hr
      · cases hr
    · rintro e rfl
      rcases hres with ⟨-, -, hr⟩ | ⟨e', hr, -, he⟩
      · cases hr
      · cases he; exact (herr _ hr).1

/-- `post_reply` pushes into the authored packet queue of the session it posts to at most as
many packets as the fragment count it checked against the queue's remaining capacity: exactly
that many when it returns `Ok`, fewer when its loop fails, and none when it returns an error
before the loop. It changes no other slot. -/
theorem postReply_pushes {s s' : Mixnet E} {surbs surbs' : List E.Surb}
    {sessionIndex : SessionIndex} {messageId : E.MessageId} {data : List UInt8}
    {res : Except (PostErr E.TopologyErr) Unit}
    (h : s.postReply surbs sessionIndex messageId data = some (s', surbs', res)) :
    (s'.sessions = s.sessions ∧ ∃ e, res = .error e) ∨
      ∃ bps rel S packets,
        E.fragmentBlueprints messageId data 0 = some bps ∧
        s.sessions.get rel = .full S ∧ bps.length ≤ S.authoredPacketQueue.remainingCapacity ∧
        (res = .ok () → packets.length = bps.length) ∧
        (∀ e, res = .error e → packets.length < bps.length) ∧
        s'.sessions = s.sessions.set rel (.full { S with authoredPacketQueue :=
          ⟨S.authoredPacketQueue.capacity, S.authoredPacketQueue.queue ++ packets⟩ }) := by
  rcases postReply_eq_some h with ⟨rfl, -, e, he, -⟩ |
    ⟨bps, rel, S, q, hbps, -, -, hS, hcap, hc, rfl⟩
  · exact .inl ⟨rfl, e, he⟩
  · obtain ⟨packets, used, rfl, -, hok, herr⟩ := completeReplies_queue S.topology hc
    exact .inr ⟨bps, rel, S, packets, hbps, postSession_ok hS, hcap, fun h => (hok h).1,
      fun e h => (herr e h).1, rfl⟩

end Mixnet

/-! ### The invariant -/

/-- A loop that pushes exactly `n` packets when it returns `Ok` and fewer when it fails pushes at
most `n`. -/
theorem length_le_of_result {ε α β : Type} {res : Except ε α} {packets : List β} {n : ℕ}
    (hok : ∀ d, res = .ok d → packets.length = n)
    (herr : ∀ e, res = .error e → packets.length < n) :
    packets.length ≤ n := by
  cases res with
  | ok d => exact (hok d rfl).le
  | error e => exact (herr e rfl).le

theorem QueueBounds.authored_set {s : Mixnet E} (h : QueueBounds s) {rel : RelSessionIndex}
    {S' : Session E}
    (hS' : S'.authoredPacketQueue.queue.length ≤ S'.authoredPacketQueue.capacity) :
    ∀ r S, (s.sessions.set rel (.full S')).get r = .full S →
      S.authoredPacketQueue.queue.length ≤ S.authoredPacketQueue.capacity := by
  intro r S hS
  rw [Sessions.get_set] at hS
  split_ifs at hS
  · cases hS; exact hS'
  · exact h.authored r S hS

/-- Packets pushed within the remaining capacity fit in the queue. -/
theorem QueueBounds.authored_push {s : Mixnet E} (h : QueueBounds s) {rel : RelSessionIndex}
    {S : Session E} (hS : s.sessions.get rel = .full S) {n : ℕ}
    {packets : List (AddressedPacket E.PeerId E.Packet)}
    (hcap : n ≤ S.authoredPacketQueue.remainingCapacity) (hlen : packets.length ≤ n) :
    (S.authoredPacketQueue.queue ++ packets).length ≤ S.authoredPacketQueue.capacity := by
  have := h.authored rel S hS
  simp only [AuthoredPacketQueue.remainingCapacity] at hcap
  rw [List.length_append]
  omega

/-- The bounds carry over to a state with the same configuration and forward packet queue whose
authored packet queues keep their bound. -/
theorem QueueBounds.of_forward {s s' : Mixnet E} (h : QueueBounds s)
    (hc : s'.config = s.config) (hfq : s'.forwardPacketQueue = s.forwardPacketQueue)
    (ha : ∀ r S, s'.sessions.get r = .full S →
      S.authoredPacketQueue.queue.length ≤ S.authoredPacketQueue.capacity) : QueueBounds s' :=
  ⟨by rw [hfq, hc]; exact h.forwardCapacity, hfq ▸ h.forward, ha⟩

theorem QueueBounds.step {s s' : Mixnet E} {op : Op E} (h : QueueBounds s)
    (hs : s.step op = some s') : QueueBounds s' := by
  cases op with
  | setSessionStatus status =>
    rcases Mixnet.setSessionStatus_eq_some hs with ⟨-, rfl⟩ | ⟨-, before, -, rfl⟩
    · exact h
    · refine h.of_forward rfl rfl fun r S hS => ?_
      obtain ⟨r₀, hS₀, -⟩ := Mixnet.sessionsAfter_full hS
      exact h.authored r₀ S hS₀
  | maybeSetMixnodes rel mixnodes rng =>
    obtain ⟨⟨s'', res⟩, hm, rfl⟩ := Option.map_eq_some'.mp hs
    rcases Mixnet.maybeSetMixnodes_eq_some hm with rfl | ⟨-, i, ms, -, rfl⟩
    · exact h
    obtain ⟨hc, -, hfq, -, -, -, hother, hrel⟩ := s.setMixnodes_slots rel i ms rng
    refine h.of_forward hc hfq fun r S hS => ?_
    by_cases hr : r = rel
    · subst hr
      rcases hrel with ⟨hd, -⟩ | ⟨S', hS', -, -, hq, -⟩
      · rw [hd] at hS; cases hS
      · rw [hS'] at hS; cases hS; simp [hq]
    · rw [hother r hr] at hS; exact h.authored r S hS
  | handlePacket packet now =>
    obtain ⟨⟨s'', m⟩, hh, rfl⟩ := Option.map_eq_some'.mp hs
    have hc := (Mixnet.handlePacket_frame hh).1
    have ha : ∀ r S, s''.sessions.get r = .full S →
        S.authoredPacketQueue.queue.length ≤ S.authoredPacketQueue.capacity := by
      rcases (Mixnet.handlePacket_sessions hh).2 with hss | ⟨rel, S, -, -, -, -, hS, hss⟩ <;>
        rw [hss]
      · exact h.authored
      · exact h.authored_set (h.authored rel S hS)
    rcases Mixnet.handlePacket_forwardPacketQueue hh with ⟨hfq, -⟩ | ⟨hcap, p, hfq, -⟩
    · exact h.of_forward hc hfq ha
    · refine ⟨by rw [hfq, ForwardPacketQueue.insert_capacity, hc]; exact h.forwardCapacity, ?_, ha⟩
      rw [hfq, ForwardPacketQueue.insert_capacity, ForwardPacketQueue.insert_queue_length]
      simp only [ForwardPacketQueue.remainingCapacity] at hcap
      omega
  | popNextForwardPacket =>
    cases hs
    refine ⟨?_, ?_, h.authored⟩ <;>
      simp only [Mixnet.popNextForwardPacket, ForwardPacketQueue.pop_capacity]
    · exact h.forwardCapacity
    · exact (ForwardPacketQueue.pop_queue_length_le _).trans h.forward
  | popNextAuthoredPacket ns rng =>
    obtain ⟨-, rfl⟩ := Mixnet.step_popNextAuthoredPacket hs
    obtain ⟨hc, -, -, hfq, -, -, hpop⟩ := s.popNextAuthoredPacket_fields ns rng
    refine h.of_forward hc hfq ?_
    rcases hpop with hpop | ⟨-, -, hss | ⟨rel, S, hS, hss⟩⟩
    · rw [hpop]; exact h.authored
    · rw [hss]; exact h.authored
    · rw [hss]
      refine h.authored_set ?_
      simp only [AuthoredPacketQueue.pop_capacity]
      exact (AuthoredPacketQueue.pop_queue_length_le _).trans (h.authored rel S hS)
  | postRequest destination data numSurbs ns rng =>
    obtain ⟨⟨s'', destination', res⟩, hp, rfl⟩ := Option.map_eq_some'.mp hs
    obtain ⟨hc, -, -, -, -, hfq, -⟩ := Mixnet.postRequest_frame hp
    refine h.of_forward hc hfq ?_
    rcases Mixnet.postRequest_pushes hp with
      ⟨hss, -⟩ | ⟨bps, rel, S, packets, -, hS, hcap, hok, herr, hss⟩ <;> rw [hss]
    · exact h.authored
    · exact h.authored_set (h.authored_push hS hcap (length_le_of_result hok herr))
  | postReply surbs sessionIndex messageId data =>
    obtain ⟨⟨s'', surbs', res⟩, hp, rfl⟩ := Option.map_eq_some'.mp hs
    obtain ⟨hc, -, -, -, -, hfq, -⟩ := Mixnet.postReply_frame hp
    refine h.of_forward hc hfq ?_
    rcases Mixnet.postReply_pushes hp with
      ⟨hss, -⟩ | ⟨bps, rel, S, packets, -, hS, hcap, hok, herr, hss⟩ <;> rw [hss]
    · exact h.authored
    · exact h.authored_set (h.authored_push hS hcap (length_le_of_result (fun _ => hok) herr))
  | takeInvalidated | publicForSession _ => cases hs; exact h.of_forward rfl rfl h.authored

end MixnetCore
