import MixnetCore.Proofs.Bounds

/-!
# Invalidation flags

A caller caches `reserved_peer_addresses()`, `next_forward_packet_deadline()` and the mean
period behind `next_authored_packet_delay()` until `take_invalidated` reports the matching flag.
Every other operation raises the flag of each of these values it changes and clears no flag
(`FlagsRaised`), so over a run without `take_invalidated` a value whose flag is still clear has
not changed (`invalidation_sound`).

The reserved peers and the mean period read only the topology and the period of the full
sessions (`SessionSlot.shape`), which outside `set_session_status` and `maybe_set_mixnodes` no
operation changes. The forward packet queue's `insert` reports exactly whether the head deadline
changed (`ForwardPacketQueue.insert_snd`), so the assumption that it returns `true` whenever the
minimum deadline changes holds of the model.
-/

namespace MixnetCore

variable {E : Env}

/-- What `reserved_peer_addresses` and `next_authored_packet_delay` read of a slot: the topology
and the mean authored packet period of its session, if it is full. -/
def SessionSlot.shape (slot : SessionSlot E) : Option (E.Topology × Duration) :=
  slot.session?.map fun S => (S.topology, S.meanAuthoredPacketPeriod)

namespace Mixnet

theorem reservedPeerAddresses_eq_shape (s : Mixnet E) :
    s.reservedPeerAddresses =
      (s.sessions.current.shape.toList ++ s.sessions.prev.shape.toList).flatMap
        fun x => E.reservedPeerAddresses x.1 := by
  unfold reservedPeerAddresses Sessions.iter Sessions.enumerate SessionSlot.shape
  cases s.sessions.current <;> cases s.sessions.prev <;> rfl

/-- What choosing and timing authored packets reads of a session: its slot, topology and mean
authored packet period. -/
def sessionView (p : RelSessionIndex × Session E) : RelSessionIndex × E.Topology × Duration :=
  (p.1, p.2.topology, p.2.meanAuthoredPacketPeriod)

theorem coverSessions_view (s : Mixnet E) :
    s.coverSessions.map sessionView =
      ((s.sessions.current.shape.filter
          fun _ => E.genCoverPackets s.sessionStatus.phase .current).map (.current, ·)).toList ++
        ((s.sessions.prev.shape.filter
          fun _ => E.genCoverPackets s.sessionStatus.phase .prev).map (.prev, ·)).toList := by
  unfold coverSessions Sessions.enumerate SessionSlot.shape
  cases s.sessions.current <;> cases s.sessions.prev <;>
    cases h₁ : E.genCoverPackets s.sessionStatus.phase .current <;>
    cases h₂ : E.genCoverPackets s.sessionStatus.phase .prev <;>
    simp [SessionSlot.session?, Option.filter, sessionView, h₁, h₂]

theorem authoredPacketPeriod_eq_view (s : Mixnet E) :
    s.authoredPacketPeriod = ((s.coverSessions.map sessionView).map (·.2.2)).min? := by
  simp only [authoredPacketPeriod, List.map_map]; rfl

end Mixnet

/-! ### The obligation of a step -/

/-- The flags a step from `s` to `s'` owes the caller: the flag of each cached value that
changed is set in `s'`, and no flag set in `s` is cleared. -/
structure FlagsRaised (s s' : Mixnet E) : Prop where
  reservedPeers : s'.reservedPeerAddresses ≠ s.reservedPeerAddresses →
    s'.invalidated.reservedPeers = true
  nextForward : s'.nextForwardPacketDeadline ≠ s.nextForwardPacketDeadline →
    s'.invalidated.nextForwardPacketDeadline = true
  nextAuthored : s'.authoredPacketPeriod ≠ s.authoredPacketPeriod →
    s'.invalidated.nextAuthoredPacketDeadline = true
  kept : s.invalidated.Subset s'.invalidated

theorem FlagsRaised.refl (s : Mixnet E) : FlagsRaised s s :=
  ⟨fun h => absurd rfl h, fun h => absurd rfl h, fun h => absurd rfl h, Invalidated.Subset.refl _⟩

/-- A flag owed by the first of two steps is kept by the second. -/
theorem FlagsRaised.trans {s₁ s₂ s₃ : Mixnet E} (h : FlagsRaised s₁ s₂) (h' : FlagsRaised s₂ s₃) :
    FlagsRaised s₁ s₃ := by
  refine ⟨fun hne => ?_, fun hne => ?_, fun hne => ?_, h.kept.trans h'.kept⟩
  · by_cases h₂ : s₂.reservedPeerAddresses = s₁.reservedPeerAddresses
    · exact h'.reservedPeers (h₂ ▸ hne)
    · exact h'.kept.1 (h.reservedPeers h₂)
  · by_cases h₂ : s₂.nextForwardPacketDeadline = s₁.nextForwardPacketDeadline
    · exact h'.nextForward (h₂ ▸ hne)
    · exact h'.kept.2.1 (h.nextForward h₂)
  · by_cases h₂ : s₂.authoredPacketPeriod = s₁.authoredPacketPeriod
    · exact h'.nextAuthored (h₂ ▸ hne)
    · exact h'.kept.2.2 (h.nextAuthored h₂)

theorem reservedPeerAddresses_congr {s s' : Mixnet E}
    (hshape : ∀ r, (s'.sessions.get r).shape = (s.sessions.get r).shape) :
    s'.reservedPeerAddresses = s.reservedPeerAddresses := by
  rw [Mixnet.reservedPeerAddresses_eq_shape, Mixnet.reservedPeerAddresses_eq_shape,
    ← Sessions.get_current, ← Sessions.get_prev, hshape, hshape]; rfl

theorem coverSessions_congr {s s' : Mixnet E}
    (hshape : ∀ r, (s'.sessions.get r).shape = (s.sessions.get r).shape)
    (hphase : s'.sessionStatus.phase = s.sessionStatus.phase) :
    s'.coverSessions.map Mixnet.sessionView = s.coverSessions.map Mixnet.sessionView := by
  rw [Mixnet.coverSessions_view, Mixnet.coverSessions_view, ← Sessions.get_current,
    ← Sessions.get_prev, hshape, hshape, hphase]; rfl

theorem authoredPacketPeriod_congr {s s' : Mixnet E}
    (hshape : ∀ r, (s'.sessions.get r).shape = (s.sessions.get r).shape)
    (hphase : s'.sessionStatus.phase = s.sessionStatus.phase) :
    s'.authoredPacketPeriod = s.authoredPacketPeriod := by
  rw [Mixnet.authoredPacketPeriod_eq_view, Mixnet.authoredPacketPeriod_eq_view,
    coverSessions_congr hshape hphase]

/-- A step that keeps what the three values read owes no flag. -/
theorem FlagsRaised.of_quiet {s s' : Mixnet E}
    (hshape : ∀ r, (s'.sessions.get r).shape = (s.sessions.get r).shape)
    (hphase : s'.sessionStatus.phase = s.sessionStatus.phase)
    (hfq : s'.forwardPacketQueue = s.forwardPacketQueue)
    (hkept : s.invalidated.Subset s'.invalidated) : FlagsRaised s s' :=
  ⟨fun h => absurd (reservedPeerAddresses_congr hshape) h,
    fun h => absurd (by simp only [Mixnet.nextForwardPacketDeadline, hfq]) h,
    fun h => absurd (authoredPacketPeriod_congr hshape hphase) h, hkept⟩

/-- Replacing a full slot's session by one with the same topology and period keeps the shapes. -/
theorem shape_set_full {ss : Sessions E} {rel : RelSessionIndex} {S S' : Session E}
    (hS : ss.get rel = .full S) (ht : S'.topology = S.topology)
    (hp : S'.meanAuthoredPacketPeriod = S.meanAuthoredPacketPeriod) (r : RelSessionIndex) :
    ((ss.set rel (.full S')).get r).shape = (ss.get r).shape := by
  rw [Sessions.get_set]
  split_ifs with hr
  · subst hr; rw [hS]; simp [SessionSlot.shape, ht, hp]
  · rfl

/-! ### Each operation -/

namespace Mixnet

theorem setSessionStatus_flags {s s' : Mixnet E} {status : SessionStatus}
    (h : s.setSessionStatus status = some s') : FlagsRaised s s' := by
  rcases setSessionStatus_eq_some h with ⟨-, rfl⟩ | ⟨-, before, -, rfl⟩
  · exact .refl _
  · exact ⟨fun _ => by simp [Invalidated.RESERVED_PEERS], fun h => absurd rfl h,
      fun _ => by simp [Invalidated.NEXT_AUTHORED_PACKET_DEADLINE],
      (Invalidated.subset_or _ _).trans (Invalidated.subset_or _ _)⟩

theorem maybeSetMixnodes_flags {ε : Type} {s s' : Mixnet E} {rel : RelSessionIndex}
    {mixnodes : Except ε (List E.Mixnode)} {rng : E.Rng} {res : Except ε Unit}
    (h : s.maybeSetMixnodes rel mixnodes rng = some (s', res)) : FlagsRaised s s' := by
  rcases maybeSetMixnodes_eq_some h with rfl | ⟨hempty, i, ms, -, rfl⟩
  · exact .refl _
  obtain ⟨-, hstatus, hfq, -, -, -, hother, hrel⟩ := s.setMixnodes_slots rel i ms rng
  rcases hrel with ⟨hd, hinv⟩ | ⟨-, -, -, -, -, hinv⟩
  · refine .of_quiet (fun r => ?_) (by rw [hstatus]) hfq (hinv ▸ Invalidated.Subset.refl _)
    by_cases hr : r = rel
    · subst hr; rw [hd, hempty]; rfl
    · rw [hother r hr]
  · exact ⟨fun _ => by simp [hinv, Invalidated.RESERVED_PEERS],
      fun h => absurd (by simp only [nextForwardPacketDeadline, hfq]) h,
      fun _ => by simp [hinv, Invalidated.NEXT_AUTHORED_PACKET_DEADLINE],
      hinv ▸ (Invalidated.subset_or _ _).trans (Invalidated.subset_or _ _)⟩

theorem handlePacket_flags {s s' : Mixnet E} {packet : E.Packet} {now : Instant}
    {m : Option (Message E.MessageId E.Surb)} (h : s.handlePacket packet now = some (s', m)) :
    FlagsRaised s s' := by
  obtain ⟨hstatus, hss⟩ := handlePacket_sessions h
  have hshape : ∀ r, (s'.sessions.get r).shape = (s.sessions.get r).shape := by
    rcases hss with hss | ⟨rel, S, -, -, -, -, hS, hss⟩ <;> rw [hss]
    · exact fun _ => rfl
    · exact shape_set_full hS rfl rfl
  have hphase : s'.sessionStatus.phase = s.sessionStatus.phase := by rw [hstatus]
  rcases handlePacket_forwardPacketQueue h with ⟨hfq, hinv⟩ | ⟨-, p, hfq, hinv⟩
  · exact .of_quiet hshape hphase hfq (hinv ▸ Invalidated.Subset.refl _)
  · refine ⟨fun h => absurd (reservedPeerAddresses_congr hshape) h, fun hne => ?_,
      fun h => absurd (authoredPacketPeriod_congr hshape hphase) h, ?_⟩
    · have hchanged : (s.forwardPacketQueue.insert p).2 = true := by
        rw [ForwardPacketQueue.insert_snd, ← hfq]; exact hne
      simp [hinv, hchanged, Invalidated.NEXT_FORWARD_PACKET_DEADLINE]
    · rw [hinv]; split_ifs
      · exact Invalidated.subset_or _ _
      · exact Invalidated.Subset.refl _

theorem popNextForwardPacket_flags (s : Mixnet E) : FlagsRaised s s.popNextForwardPacket.1 :=
  ⟨fun h => absurd (reservedPeerAddresses_congr fun _ => rfl) h,
    fun _ => by simp [popNextForwardPacket, Invalidated.NEXT_FORWARD_PACKET_DEADLINE],
    fun h => absurd (authoredPacketPeriod_congr (fun _ => rfl) rfl) h, Invalidated.subset_or _ _⟩

theorem popNextAuthoredPacket_flags (s : Mixnet E) (ns : E.NetworkStatus) (rng : E.Rng) :
    FlagsRaised s (s.popNextAuthoredPacket ns rng).1 := by
  obtain ⟨-, hstatus, -, hfq, -, -, h⟩ := s.popNextAuthoredPacket_fields ns rng
  rcases h with h | ⟨-, hinv, hss⟩
  · rw [h]; exact .refl s
  refine .of_quiet ?_ (by rw [hstatus]) hfq (hinv ▸ Invalidated.subset_or _ _)
  rcases hss with hss | ⟨rel, S, hS, hss⟩ <;> rw [hss]
  · exact fun _ => rfl
  · exact shape_set_full hS rfl rfl

theorem postRequest_flags {s s' : Mixnet E} {destination destination' : Option MixnodeId}
    {data : List UInt8} {numSurbs : ℕ} {ns : E.NetworkStatus} {rng : E.Rng}
    {res : Except (PostErr E.TopologyErr) Duration}
    (h : s.postRequest destination data numSurbs ns rng = some (s', destination', res)) :
    FlagsRaised s s' := by
  obtain ⟨-, hstatus, -, -, hinv, hfq, -⟩ := postRequest_frame h
  refine .of_quiet ?_ (by rw [hstatus]) hfq (hinv ▸ Invalidated.Subset.refl _)
  rcases postRequest_pushes h with ⟨hss, -⟩ | ⟨_, rel, S, _, -, hS, -, -, -, hss⟩ <;> rw [hss]
  · exact fun _ => rfl
  · exact shape_set_full hS rfl rfl

theorem postReply_flags {s s' : Mixnet E} {surbs surbs' : List E.Surb}
    {sessionIndex : SessionIndex} {messageId : E.MessageId} {data : List UInt8}
    {res : Except (PostErr E.TopologyErr) Unit}
    (h : s.postReply surbs sessionIndex messageId data = some (s', surbs', res)) :
    FlagsRaised s s' := by
  obtain ⟨-, hstatus, -, -, hinv, hfq, -⟩ := postReply_frame h
  refine .of_quiet ?_ (by rw [hstatus]) hfq (hinv ▸ Invalidated.Subset.refl _)
  rcases postReply_pushes h with ⟨hss, -⟩ | ⟨_, rel, S, _, -, hS, -, -, -, hss⟩ <;> rw [hss]
  · exact fun _ => rfl
  · exact shape_set_full hS rfl rfl

/-- Every operation but `take_invalidated` raises the flags it owes. -/
theorem step_flags {s s' : Mixnet E} {op : Op E} (hop : op ≠ .takeInvalidated)
    (h : s.step op = some s') : FlagsRaised s s' := by
  cases op with
  | setSessionStatus status => exact setSessionStatus_flags h
  | maybeSetMixnodes rel mixnodes rng =>
    obtain ⟨⟨s'', res⟩, hm, rfl⟩ := Option.map_eq_some'.mp h
    exact maybeSetMixnodes_flags hm
  | handlePacket packet now =>
    obtain ⟨⟨s'', m⟩, hh, rfl⟩ := Option.map_eq_some'.mp h
    exact handlePacket_flags hh
  | popNextForwardPacket => cases h; exact popNextForwardPacket_flags s
  | popNextAuthoredPacket ns rng =>
    obtain ⟨-, rfl⟩ := Mixnet.step_popNextAuthoredPacket h
    exact popNextAuthoredPacket_flags s ns rng
  | postRequest destination data numSurbs ns rng =>
    obtain ⟨⟨s'', destination', res⟩, hp, rfl⟩ := Option.map_eq_some'.mp h
    exact postRequest_flags hp
  | postReply surbs sessionIndex messageId data =>
    obtain ⟨⟨s'', surbs', res⟩, hp, rfl⟩ := Option.map_eq_some'.mp h
    exact postReply_flags hp
  | takeInvalidated => exact absurd rfl hop
  | publicForSession i =>
    cases h; exact .of_quiet (fun _ => rfl) rfl rfl (Invalidated.Subset.refl _)

theorem run_flags {s s' : Mixnet E} {ops : List (Op E)}
    (hops : ∀ op ∈ ops, op ≠ .takeInvalidated) (h : s.run ops = some s') : FlagsRaised s s' := by
  induction ops generalizing s with
  | nil => cases h; exact .refl _
  | cons op ops ih =>
    rw [run_cons, Option.bind_eq_some] at h
    obtain ⟨s₁, h₁, h⟩ := h
    exact (step_flags (hops op (List.mem_cons_self _ _)) h₁).trans
      (ih (fun op hop => hops op (List.mem_cons_of_mem _ hop)) h)

end Mixnet

/-- **Invalidation soundness.** Every operation but `take_invalidated`, from any state, sets
`RESERVED_PEERS` if `reserved_peer_addresses()` changes, `NEXT_FORWARD_PACKET_DEADLINE` if
`next_forward_packet_deadline()` changes, and `NEXT_AUTHORED_PACKET_DEADLINE` if the mean period
`next_authored_packet_delay()` draws from changes, and clears no flag. Hence over any run without
`take_invalidated`, a value whose flag is still clear at the end is the value at the start: what
a caller cached stays correct until `take_invalidated` reports its flag. -/
theorem invalidation_sound :
    (∀ (s s' : Mixnet E) (op : Op E), op ≠ .takeInvalidated → s.step op = some s' →
      FlagsRaised s s') ∧
    ∀ (s s' : Mixnet E) (ops : List (Op E)), (∀ op ∈ ops, op ≠ .takeInvalidated) →
      s.run ops = some s' →
      (s'.invalidated.reservedPeers = false →
        s'.reservedPeerAddresses = s.reservedPeerAddresses) ∧
      (s'.invalidated.nextForwardPacketDeadline = false →
        s'.nextForwardPacketDeadline = s.nextForwardPacketDeadline) ∧
      (s'.invalidated.nextAuthoredPacketDeadline = false →
        s'.authoredPacketPeriod = s.authoredPacketPeriod) := by
  refine ⟨fun _ _ _ hop h => Mixnet.step_flags hop h, fun s s' ops hops h => ?_⟩
  have hf := Mixnet.run_flags hops h
  refine ⟨fun hb => ?_, fun hb => ?_, fun hb => ?_⟩ <;> by_contra hne
  · exact absurd (hf.reservedPeers hne) (by simp [hb])
  · exact absurd (hf.nextForward hne) (by simp [hb])
  · exact absurd (hf.nextAuthored hne) (by simp [hb])

/-- Once session `0` is set up and its flags are taken, forwarding packet `0` moves
`next_forward_packet_deadline()` and raises its flag, and leaves `RESERVED_PEERS` clear, since
`reserved_peer_addresses()` stays as it was. -/
theorem invalidation_sound_forwarded :
    let s₁ := ((Mixnet.new (E := Env.peelsAtZero) Config.example KxPublicStore.new).setMixnodes
      .current 0 [0, 0, 0] 0).takeInvalidated.1
    ∃ s₂, s₁.step (.handlePacket 0 0) = some s₂ ∧
      s₂.nextForwardPacketDeadline ≠ s₁.nextForwardPacketDeadline ∧ FlagsRaised s₁ s₂ ∧
      s₂.invalidated.reservedPeers = false ∧
      s₂.reservedPeerAddresses = s₁.reservedPeerAddresses := by
  intro s₁
  exact ⟨_, rfl, by decide, invalidation_sound.1 s₁ _ (.handlePacket 0 0) nofun rfl, rfl,
    (invalidation_sound.2 s₁ _ [.handlePacket 0 0] (by simp) rfl).1 rfl⟩

end MixnetCore
