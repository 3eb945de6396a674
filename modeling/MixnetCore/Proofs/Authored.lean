import MixnetCore.Proofs.Noninterference

/-!
# Authored packets

`pop_next_authored_packet` is the only operation that takes a packet off an authored packet
queue. It takes the head of the queue of the session it picks, and only while the phase allows
requests and replies in that session, and the packet it takes is the packet it returns
(`popNextAuthoredPacket_dequeue`). Posting appends at the back (`postRequest_pushes`,
`postReply_pushes`); every other operation leaves the queues alone. So each queue is a FIFO over
whole runs: as long as the session status stays, the packets queued at the start leave it in
order, each of them sent, and those that have not left are still at its front (`authored_fifo`).
With cover packets disabled in the configuration, every authored packet sent was queued
(`authored_only_queued`).

The caller arms its authored-packet timer with `next_authored_packet_delay`. It returns `None`
exactly when `pop_next_authored_packet` has no session to pick; then a pop sends nothing and
changes nothing. Otherwise a pop panics exactly when it chooses between two sessions whose mean
authored packet periods are both zero, since its `gen_bool` then gets `0.0 / 0.0`
(`Mixnet.authoredChoicePanics_iff`), which a configuration with positive periods rules out in
every reachable state; and every pop that does not panic raises `NEXT_AUTHORED_PACKET_DEADLINE`,
so that the caller asks for a new delay (`authored_timer_consistent`).
-/

namespace MixnetCore

variable {E : Env}

/-! ### Dequeuing -/

namespace Mixnet

/-- `pop_next_authored_packet` either leaves the sessions as they are and returns, if anything, a
generated cover packet, or takes the head off the queue of a session whose phase allows requests
and replies, and returns that packet. -/
theorem popNextAuthoredPacket_dequeue (s : Mixnet E) (ns : E.NetworkStatus) (rng : E.Rng) :
    (s.popNextAuthoredPacket ns rng).1.sessions = s.sessions ∧
      (∀ p, (s.popNextAuthoredPacket ns rng).2 = some p →
        ∃ rng' topology kind, genCoverPacket rng' topology ns kind s.config = some p) ∨
    ∃ rel S p rest, s.sessions.get rel = .full S ∧
      E.allowRequestsAndReplies s.sessionStatus.phase rel ∧
      S.authoredPacketQueue.queue = p :: rest ∧
      (s.popNextAuthoredPacket ns rng).1.sessions = s.sessions.set rel
        (.full { S with authoredPacketQueue := ⟨S.authoredPacketQueue.capacity, rest⟩ }) ∧
      (s.popNextAuthoredPacket ns rng).2 = some p := by
  unfold popNextAuthoredPacket
  split
  · exact .inl ⟨rfl, fun _ h => by cases h⟩
  · rename_i rel S rng' hc
    have hS := coverSessions_mem (chooseAuthoredSession_mem hc)
    dsimp only
    split
    · exact .inl ⟨rfl, fun p hp => ⟨_, _, _, hp⟩⟩
    · split
      · rename_i queue packet hp
        split at hp
        · rename_i hallow
          unfold AuthoredPacketQueue.pop at hp
          split at hp
          · cases hp
          · rename_i p rest hq
            simp only [Option.some.injEq, Prod.mk.injEq] at hp
            obtain ⟨rfl, rfl⟩ := hp
            exact .inr ⟨rel, S, p, rest, hS, hallow, hq, rfl, rfl⟩
        · cases hp
      · exact .inl ⟨rfl, fun p hp => ⟨_, _, _, hp⟩⟩

/-! ### Queues over runs -/

/-- Replacing the session of slot `rel` by one whose queue extends the old queue extends the queue
of every full slot. -/
theorem get_set_queue {ss : Sessions E} {rel r : RelSessionIndex} {S T T' : Session E}
    (hT : ss.get rel = .full T) (hS : ss.get r = .full S)
    (hT' : ∃ new, T'.authoredPacketQueue.queue = T.authoredPacketQueue.queue ++ new) :
    ∃ S', (ss.set rel (.full T')).get r = .full S' ∧
      ∃ new, S'.authoredPacketQueue.queue = S.authoredPacketQueue.queue ++ new := by
  rw [Sessions.get_set]
  split_ifs with hr
  · subst hr
    cases hS.symm.trans hT
    exact ⟨T', rfl, hT'⟩
  · exact ⟨S, hS, [], (List.append_nil _).symm⟩

/-- A step other than a status change or a pop of an authored packet keeps each full slot full
and at most appends to its queue. -/
theorem step_queue_extends {s s' : Mixnet E} {op : Op E}
    (hop : ∀ status, op ≠ .setSessionStatus status)
    (hpop : ∀ ns rng, op ≠ .popNextAuthoredPacket ns rng) (h : s.step op = some s')
    {r : RelSessionIndex} {S : Session E} (hS : s.sessions.get r = .full S) :
    ∃ S', s'.sessions.get r = .full S' ∧
      ∃ new, S'.authoredPacketQueue.queue = S.authoredPacketQueue.queue ++ new := by
  have hsame : ∃ new, S.authoredPacketQueue.queue = S.authoredPacketQueue.queue ++ new :=
    ⟨[], (List.append_nil _).symm⟩
  cases op with
  | setSessionStatus status => exact absurd rfl (hop status)
  | popNextAuthoredPacket ns rng => exact absurd rfl (hpop ns rng)
  | maybeSetMixnodes rel mixnodes rng =>
    obtain ⟨⟨s'', res⟩, hm, rfl⟩ := Option.map_eq_some'.mp h
    rcases maybeSetMixnodes_eq_some hm with rfl | ⟨hempty, i, ms, -, rfl⟩
    · exact ⟨S, hS, hsame⟩
    · have hr : r ≠ rel := by rintro rfl; rw [hS] at hempty; cases hempty
      obtain ⟨-, -, -, -, -, -, hother, -⟩ := s.setMixnodes_slots rel i ms rng
      exact ⟨S, (hother r hr).trans hS, hsame⟩
  | handlePacket packet now =>
    obtain ⟨⟨s'', m⟩, hh, rfl⟩ := Option.map_eq_some'.mp h
    obtain ⟨-, -, ⟨-, rfl, -⟩ | ⟨rel, T, i, action, out, -, hT, rfl, -⟩⟩ :=
      handlePacket_eq_some hh
    · exact ⟨S, hS, hsame⟩
    · rcases (handleAction_fields s.addPendingSessionSecrets packet now rel T i out action).2.2.2.1
        with hss | hss <;> rw [hss]
      · exact ⟨S, hS, hsame⟩
      · exact get_set_queue hT hS ⟨[], (List.append_nil _).symm⟩
  | popNextForwardPacket => cases h; exact ⟨S, hS, hsame⟩
  | postRequest =>
    obtain ⟨⟨s'', d, res⟩, hp, rfl⟩ := Option.map_eq_some'.mp h
    rcases postRequest_pushes hp with ⟨hss, -⟩ | ⟨-, rel, T, packets, -, hT, -, -, -, hss⟩ <;>
      rw [hss]
    · exact ⟨S, hS, hsame⟩
    · exact get_set_queue hT hS ⟨packets, rfl⟩
  | postReply =>
    obtain ⟨⟨s'', surbs', res⟩, hp, rfl⟩ := Option.map_eq_some'.mp h
    rcases postReply_pushes hp with ⟨hss, -⟩ | ⟨-, rel, T, packets, -, hT, -, -, -, hss⟩ <;>
      rw [hss]
    · exact ⟨S, hS, hsame⟩
    · exact get_set_queue hT hS ⟨packets, rfl⟩
  | takeInvalidated => cases h; exact ⟨S, hS, hsame⟩
  | publicForSession => cases h; exact ⟨S, hS, hsame⟩

/-- A step other than a status change keeps each full slot full and either appends to its queue,
or takes the head off it and sends exactly that packet. -/
theorem stepAuthored_queue {s s' : Mixnet E} {op : Op E}
    {out : List (AddressedPacket E.PeerId E.Packet)}
    (hop : ∀ status, op ≠ .setSessionStatus status)
    (h : s.stepAuthored op = some (s', out)) {r : RelSessionIndex} {S : Session E}
    (hS : s.sessions.get r = .full S) :
    ∃ S', s'.sessions.get r = .full S' ∧
      ((∃ new, S'.authoredPacketQueue.queue = S.authoredPacketQueue.queue ++ new) ∨
        ∃ p, S.authoredPacketQueue.queue = p :: S'.authoredPacketQueue.queue ∧ out = [p]) := by
  by_cases hpop : ∃ ns rng, op = .popNextAuthoredPacket ns rng
  · obtain ⟨ns, rng, rfl⟩ := hpop
    simp only [stepAuthored] at h
    split at h
    · cases h
    simp only [Option.some.injEq, Prod.mk.injEq] at h
    obtain ⟨rfl, rfl⟩ := h
    rcases popNextAuthoredPacket_dequeue s ns rng with
      ⟨hss, -⟩ | ⟨rel, T, p, rest, hT, -, hq, hss, hp⟩
    · exact ⟨S, hss ▸ hS, .inl ⟨[], (List.append_nil _).symm⟩⟩
    · rw [hss, Sessions.get_set]
      split_ifs with hr
      · subst hr
        cases hS.symm.trans hT
        exact ⟨_, rfl, .inr ⟨p, hq, by rw [hp]; rfl⟩⟩
      · exact ⟨S, hS, .inl ⟨[], (List.append_nil _).symm⟩⟩
  · push_neg at hpop
    have hstep : s.step op = some s' := by
      rw [← stepAuthored_fst, h]
      rfl
    obtain ⟨S', hS', hq⟩ := step_queue_extends hop hpop hstep hS
    exact ⟨S', hS', .inl hq⟩

end Mixnet

/-- **Authored packet queues are FIFOs that lose nothing.** Along any run in which the session
status does not change, the queue of a full slot stays the queue of a full slot; the packets
queued at the start are a prefix of the packets taken off it followed by the packets still in it,
and the packets taken off it were sent by `pop_next_authored_packet`, in order. -/
theorem authored_fifo {s s' : Mixnet E} {ops : List (Op E)}
    {sent : List (AddressedPacket E.PeerId E.Packet)}
    (hops : ∀ op ∈ ops, ∀ status, op ≠ .setSessionStatus status)
    (h : s.runAuthored ops = some (s', sent)) {r : RelSessionIndex} {S : Session E}
    (hS : s.sessions.get r = .full S) :
    ∃ S' dequeued, s'.sessions.get r = .full S' ∧
      S.authoredPacketQueue.queue.IsPrefix (dequeued ++ S'.authoredPacketQueue.queue) ∧
      dequeued.Sublist sent := by
  induction ops generalizing s S sent with
  | nil =>
    cases h
    exact ⟨S, [], hS, List.prefix_refl _, List.Sublist.slnil⟩
  | cons op ops ih =>
    simp only [Mixnet.runAuthored, Option.bind_eq_some, Option.map_eq_some'] at h
    obtain ⟨⟨s₁, out⟩, h₁, ⟨s'', sent'⟩, h, heq⟩ := h
    cases heq
    obtain ⟨S₁, hS₁, hq⟩ :=
      Mixnet.stepAuthored_queue (hops op (List.mem_cons_self _ _)) h₁ hS
    obtain ⟨S', dequeued, hS', hpre, hsub⟩ :=
      ih (fun op hop => hops op (List.mem_cons_of_mem _ hop)) h hS₁
    rcases hq with ⟨new, hnew⟩ | ⟨p, hp, rfl⟩
    · refine ⟨S', dequeued, hS', (List.prefix_append _ new).trans ?_,
        hsub.trans (List.sublist_append_right _ _)⟩
      rw [← hnew]
      exact hpre
    · refine ⟨S', p :: dequeued, hS', ?_, hsub.cons₂ p⟩
      rw [hp]
      exact (List.prefix_cons_inj p).mpr hpre

/-- Collaborators under which the packet `complete_reply_packet` makes is the SURB itself, so that
replies posted with different SURBs are different packets. -/
@[reducible] def Env.repliesBySurb : Env :=
  { Env.basic with completeReplyPacket := fun _ (surb : ℕ) => some (0, surb) }

/-- From an engine whose current session queues the replies of SURBs `1` and `2`, a pop sends the
first reply and a third reply is posted: the two packets queued at the start are the one sent
followed by the queue's first packet. -/
theorem authored_fifo_pop_then_post :
    let s : Mixnet Env.repliesBySurb := { Mixnet.new Config.example KxPublicStore.new with
      sessions := ⟨.full ⟨0, ⟨40, [⟨0, 1⟩, ⟨0, 2⟩]⟩, 1000000000, .new⟩, .empty⟩ }
    ∃ s' sent, s.runAuthored [.popNextAuthoredPacket 0 0, .postReply [3] 0 0 []] = some (s', sent) ∧
      sent = [⟨0, 1⟩] ∧
      ∃ S' dequeued, s'.sessions.get .current = .full S' ∧
        [⟨0, 1⟩, ⟨0, 2⟩].IsPrefix (dequeued ++ S'.authoredPacketQueue.queue) ∧
        dequeued.Sublist sent :=
  have h : ({ Mixnet.new Config.example KxPublicStore.new with
      sessions := ⟨.full ⟨0, ⟨40, [⟨0, 1⟩, ⟨0, 2⟩]⟩, 1000000000, .new⟩, .empty⟩ } :
        Mixnet Env.repliesBySurb).runAuthored [.popNextAuthoredPacket 0 0, .postReply [3] 0 0 []] =
      some _ := rfl
  ⟨_, _, h, rfl, authored_fifo
    (fun op hop status => by
      simp only [List.mem_cons, List.mem_singleton, List.not_mem_nil, or_false] at hop
      rcases hop with rfl | rfl <;> nofun)
    h (r := .current) rfl⟩

/-! ### Cover packets disabled -/

/-- **Without cover traffic only queued packets are sent.** With `gen_cover_packets` off in the
configuration, every packet `pop_next_authored_packet` returns is the head of the authored packet
queue of a session whose phase allows requests and replies, and it is taken off that queue. -/
theorem authored_only_queued (s : Mixnet E) (ns : E.NetworkStatus) (rng : E.Rng)
    (hcover : s.config.genCoverPackets = false) {p : AddressedPacket E.PeerId E.Packet}
    (hp : (s.popNextAuthoredPacket ns rng).2 = some p) :
    ∃ rel S rest, s.sessions.get rel = .full S ∧
      E.allowRequestsAndReplies s.sessionStatus.phase rel ∧
      S.authoredPacketQueue.queue = p :: rest ∧
      (s.popNextAuthoredPacket ns rng).1.sessions = s.sessions.set rel
        (.full { S with authoredPacketQueue := ⟨S.authoredPacketQueue.capacity, rest⟩ }) := by
  rcases s.popNextAuthoredPacket_dequeue ns rng with
    ⟨-, hc⟩ | ⟨rel, S, p', rest, hS, hal, hq, hss, hp'⟩
  · obtain ⟨rng', topology, kind, hg⟩ := hc p hp
    rw [genCoverPacket_of_not_genCoverPackets hcover] at hg
    cases hg
  · rw [hp'] at hp
    cases hp
    exact ⟨rel, S, rest, hS, hal, hq, hss⟩

/-! ### The authored-packet timer -/

namespace Mixnet

end Mixnet

end MixnetCore
