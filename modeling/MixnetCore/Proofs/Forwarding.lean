import MixnetCore.Proofs.Replay

/-!
# Forwarded packets

What the engine forwards. `handle_packet` inserts into the forward packet queue only in its
`ForwardTo` branch: the packet has peeled under the key of a full session to
`ForwardTo { target, delay }`, the local node is a mixnode of that session, the target maps to a
peer id in the session's topology, and the deadline is the time of handling plus the delay. No
other operation inserts, and `pop_next_forward_packet` only takes the head. So along every run
from `Mixnet::new`, every queued forward packet, and so every packet `pop_next_forward_packet`
returns, was queued by one `handle_packet` call of the run, with that call's packet, time and
engine state (`forwarded_packets_peeled`).
-/

namespace MixnetCore

variable {E : Env}

/-- `p` is the packet the call `handle_packet(incoming, now)` in the state `s` queues for
forwarding: the search of `handle_packet` peels `incoming` under the key of the full session `S`
of slot `rel`, of index `i`, to `ForwardTo { target, delay }`; the local node is a mixnode of `S`;
and `p` is the peeled packet, addressed to the target's peer id in `S`'s topology, due at `now`
plus the delay at the configured mean forwarding delay. -/
def ForwardPacket.PeeledBy (s : Mixnet E) (incoming : E.Packet) (now : Instant)
    (p : ForwardPacket E) : Prop :=
  ∃ rel S i target delay, s.sessions.get rel = .full S ∧
    rel.add s.sessionStatus.currentIndex = some i ∧
    E.peel incoming (E.kxSharedSecret i (E.kxPublic incoming)) =
      .ok (.forwardTo target delay, p.packet.packet) ∧
    E.isMixnode S.topology ∧ E.targetToPeerId S.topology target = .ok p.packet.peerId ∧
    p.deadline = now + E.delayToDuration delay s.config.meanForwardingDelay

namespace ForwardPacketQueue

theorem mem_insertSorted {p x : ForwardPacket E} :
    ∀ {qs : List (ForwardPacket E)}, x ∈ insertSorted p qs ↔ x = p ∨ x ∈ qs
  | [] => by simp [insertSorted]
  | q :: qs => by
    unfold insertSorted
    split <;> simp [mem_insertSorted, or_left_comm]

theorem mem_pop {q : ForwardPacketQueue E} {x : ForwardPacket E} (h : x ∈ q.pop.1.queue) :
    x ∈ q.queue := by
  unfold pop at h
  split at h <;> simp_all

end ForwardPacketQueue

namespace Mixnet

/-- The `match action` of `handle_packet` inserts into the forward packet queue only in the
`ForwardTo` branch, in a session the local node is a mixnode of, once the target maps to a peer
id. -/
theorem handleAction_forwardPacketQueue (s : Mixnet E) (packet : E.Packet) (now : Instant)
    (rel : RelSessionIndex) (S : Session E) (i : SessionIndex) (out : E.Packet)
    (action : Action E.Target E.SurbId) :
    (s.handleAction packet now rel S i out action).1.forwardPacketQueue = s.forwardPacketQueue ∨
      ∃ target delay peerId, action = .forwardTo target delay ∧ E.isMixnode S.topology ∧
        E.targetToPeerId S.topology target = .ok peerId ∧
        (s.handleAction packet now rel S i out action).1.forwardPacketQueue =
          (s.forwardPacketQueue.insert ⟨now + E.delayToDuration delay
            s.config.meanForwardingDelay, ⟨peerId, out⟩⟩).1 := by
  cases action with
  | forwardTo target delay =>
    simp only [handleAction]
    split_ifs with hm
    · exact .inl rfl
    · exact .inl rfl
    · split
      · rename_i peerId hp
        exact .inr ⟨target, delay, peerId, rfl, by simpa using hm, hp, rfl⟩
      · exact .inl rfl
  | deliverRequest =>
    simp only [handleAction]
    split_ifs <;> exact .inl rfl
  | deliverReply X =>
    left
    simp only [handleAction]
    split
    · rfl
    · split <;> rfl
  | deliverCover => exact .inl rfl

/-- What a step does to the forward packet queue: nothing, insert the packet a `handle_packet`
call peels for forwarding, or pop the head. -/
theorem step_forwardPacketQueue {s s' : Mixnet E} {op : Op E} (h : s.step op = some s') :
    s'.forwardPacketQueue = s.forwardPacketQueue ∨
      (∃ incoming now p, op = .handlePacket incoming now ∧ p.PeeledBy s incoming now ∧
        s'.forwardPacketQueue = (s.forwardPacketQueue.insert p).1) ∨
      s'.forwardPacketQueue = s.forwardPacketQueue.pop.1 := by
  cases op with
  | setSessionStatus status =>
    rcases setSessionStatus_eq_some h with ⟨-, rfl⟩ | ⟨-, before, -, rfl⟩ <;> exact .inl rfl
  | maybeSetMixnodes rel mixnodes rng =>
    obtain ⟨⟨s'', res⟩, hm, rfl⟩ := Option.map_eq_some'.mp h
    rcases maybeSetMixnodes_eq_some hm with rfl | ⟨-, i, ms, -, rfl⟩
    · exact .inl rfl
    · exact .inl (s.setMixnodes_slots rel i ms rng).2.2.1
  | handlePacket packet now =>
    obtain ⟨⟨s'', m⟩, hh, rfl⟩ := Option.map_eq_some'.mp h
    obtain ⟨-, ha, ⟨-, rfl, -⟩ | ⟨rel, S, i, action, out, rfl, -, rfl, -⟩⟩ :=
      handlePacket_eq_some hh
    · exact .inl rfl
    · rcases handleAction_forwardPacketQueue s.addPendingSessionSecrets packet now rel S i out
        action with hq | ⟨target, delay, peerId, rfl, hmix, hp, hq⟩
      · exact .inl hq
      · obtain ⟨hS, hi, hpeel⟩ := findPeeled_peeled_spec ha
        exact .inr (.inl ⟨packet, now, _, rfl,
          ⟨rel, S, i, target, delay, hS, hi, hpeel, hmix, hp, rfl⟩, hq⟩)
  | popNextForwardPacket => cases h; exact .inr (.inr rfl)
  | popNextAuthoredPacket ns rng =>
    obtain ⟨-, rfl⟩ := Mixnet.step_popNextAuthoredPacket h
    exact .inl (popNextAuthoredPacket_frame s ns rng).2.2.2.2.2
  | postRequest =>
    obtain ⟨⟨s'', d, res⟩, hp, rfl⟩ := Option.map_eq_some'.mp h
    exact .inl (postRequest_frame hp).2.2.2.2.2.1
  | postReply =>
    obtain ⟨⟨s'', surbs', res⟩, hp, rfl⟩ := Option.map_eq_some'.mp h
    exact .inl (postReply_frame hp).2.2.2.2.2.1
  | takeInvalidated => cases h; exact .inl rfl
  | publicForSession => cases h; exact .inl rfl

/-- A packet in the forward packet queue after a step was queued before it, or the step is a
`handle_packet` call that queued it. -/
theorem step_mem_forwardPacketQueue {s s' : Mixnet E} {op : Op E} (h : s.step op = some s')
    {p : ForwardPacket E} (hp : p ∈ s'.forwardPacketQueue.queue) :
    p ∈ s.forwardPacketQueue.queue ∨
      ∃ incoming now, op = .handlePacket incoming now ∧ p.PeeledBy s incoming now := by
  rcases step_forwardPacketQueue h with hq | ⟨incoming, now, p', rfl, hp', hq⟩ | hq <;>
    rw [hq] at hp
  · exact .inl hp
  · rcases ForwardPacketQueue.mem_insertSorted.mp hp with rfl | hp
    · exact .inr ⟨incoming, now, rfl, hp'⟩
    · exact .inl hp
  · exact .inl (ForwardPacketQueue.mem_pop hp)

/-- A packet in the forward packet queue after a run was queued at its start, or by a
`handle_packet` call of the run. -/
theorem run_mem_forwardPacketQueue {s₀ s : Mixnet E} :
    ∀ {ops : List (Op E)}, s₀.run ops = some s → ∀ p ∈ s.forwardPacketQueue.queue,
      p ∈ s₀.forwardPacketQueue.queue ∨
        ∃ incoming now s₁, s₀.Calls ops (.handlePacket incoming now) s₁ ∧ p.PeeledBy s₁ incoming now
  | [], h, p, hp => by cases h; exact .inl hp
  | op :: ops, h, p, hp => by
    rw [run_cons, Option.bind_eq_some] at h
    obtain ⟨s₁, h₁, h⟩ := h
    rcases run_mem_forwardPacketQueue h p hp with hp | ⟨incoming, now, t, hc, hpt⟩
    · rcases step_mem_forwardPacketQueue h₁ hp with hp | ⟨incoming, now, rfl, hpt⟩
      · exact .inl hp
      · exact .inr ⟨incoming, now, s₀, calls_head s₀ _ ops, hpt⟩
    · exact .inr ⟨incoming, now, t, hc.cons h₁, hpt⟩

end Mixnet

/-- **The engine forwards only what it has peeled.** Along every run from `Mixnet::new`, every
packet in the forward packet queue, and every packet `pop_next_forward_packet` returns, was queued
by a `handle_packet(incoming, now)` call of the run: in the state the call was made in, `incoming`
peeled under the key of a full session to `ForwardTo { target, delay }`, the local node is a
mixnode of that session, and the packet is the peeled one, addressed to the target's peer id in
the session's topology, due at that call's `now` plus the delay. -/
theorem forwarded_packets_peeled {config : Config} {kxPublicStore : KxPublicStore}
    {ops : List (Op E)} {s : Mixnet E} (h : (Mixnet.new config kxPublicStore).run ops = some s) :
    (∀ p ∈ s.forwardPacketQueue.queue, ∃ incoming now s₁,
      (Mixnet.new config kxPublicStore).Calls ops (.handlePacket incoming now) s₁ ∧
        p.PeeledBy s₁ incoming now) ∧
    ∀ ap, s.popNextForwardPacket.2 = some ap → ∃ p : ForwardPacket E, p.packet = ap ∧
      ∃ incoming now s₁,
        (Mixnet.new config kxPublicStore).Calls ops (.handlePacket incoming now) s₁ ∧
        p.PeeledBy s₁ incoming now := by
  have hq : ∀ p ∈ s.forwardPacketQueue.queue, ∃ incoming now s₁,
      (Mixnet.new config kxPublicStore).Calls ops (.handlePacket incoming now) s₁ ∧
        p.PeeledBy s₁ incoming now := fun p hp =>
    (Mixnet.run_mem_forwardPacketQueue h p hp).resolve_left nofun
  refine ⟨hq, fun ap hap => ?_⟩
  simp only [Mixnet.popNextForwardPacket, ForwardPacketQueue.pop] at hap
  split at hap
  · cases hap
  · rename_i p ps hps
    cases hap
    exact ⟨p, rfl, hq p (by rw [hps]; exact List.mem_cons_self _ _)⟩

/-- Packet `0`, handled at time `5` in session `0` after `maybe_set_mixnodes` built it, peels to a
forward with delay `0`: it is queued, due at `5`, by that call. -/
theorem forwarded_packets_peeled_at_five :
    let s₀ : Mixnet Env.peelsAtZero := Mixnet.new Config.example KxPublicStore.new
    let ops : List (Op Env.peelsAtZero) :=
      [.maybeSetMixnodes .current (.ok [0, 0, 0]) 0, .handlePacket 0 5]
    ∃ s, s₀.run ops = some s ∧ s.nextForwardPacketDeadline = some 5 ∧
      (∀ p ∈ s.forwardPacketQueue.queue, ∃ incoming now s₁,
        s₀.Calls ops (.handlePacket incoming now) s₁ ∧ p.PeeledBy s₁ incoming now) ∧
      ∀ ap, s.popNextForwardPacket.2 = some ap → ∃ p : ForwardPacket Env.peelsAtZero,
        p.packet = ap ∧ ∃ incoming now s₁,
          s₀.Calls ops (.handlePacket incoming now) s₁ ∧ p.PeeledBy s₁ incoming now :=
  ⟨_, rfl, rfl, forwarded_packets_peeled rfl⟩

end MixnetCore
