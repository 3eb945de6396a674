import MixnetCore.Proofs.Invalidation

/-!
# Cover traffic does not depend on the queues

`pop_next_authored_packet` decides which session to serve, whether to send a loop cover packet,
and which cover packet to send, before it looks at any authored packet queue
(`coverDecision`); the queue only decides whether a queued packet takes the place of the drop
cover packet. The decision reads nothing but the configuration, the session status and the
topologies and periods of the full sessions, so two engines that agree on these
(`CoverAlike`) decide alike and time their packets alike, whatever is queued
(`cover_noninterference`).
-/

namespace MixnetCore

variable {E : Env}

/-- Two engines that agree on everything `next_authored_packet_delay` and the choices of
`pop_next_authored_packet` read: the configuration, the session status, and which slots are full
with sessions of which topology and mean authored packet period. Queued packets, the forward
packet queue, the SURB keystore, the fragment assembler, the replay filters and the flags may
differ. -/
structure CoverAlike (s₁ s₂ : Mixnet E) : Prop where
  config : s₁.config = s₂.config
  sessionStatus : s₁.sessionStatus = s₂.sessionStatus
  shape : ∀ r, (s₁.sessions.get r).shape = (s₂.sessions.get r).shape

namespace Mixnet

/-- What `pop_next_authored_packet` decides before it looks at a queue: the slot of the session
it picks, whether it sends a loop cover packet, and the cover packet it sends unless a queued
packet takes its place. -/
def coverDecision (s : Mixnet E) (ns : E.NetworkStatus) (rng : E.Rng) :
    Option (RelSessionIndex × Bool × Option (AddressedPacket E.PeerId E.Packet)) :=
  (s.chooseAuthoredSession rng).map fun ((rel, S), rng) =>
    let (loop, rng) := E.genBool rng s.config.loopCoverProportion
    (rel, loop, genCoverPacket rng S.topology ns (if loop then .loop else .drop) s.config)

/-- The session `pop_next_authored_packet` picks, and the RNG it goes on with, depend only on the
views of the sessions cover packets are generated for. -/
theorem chooseAuthoredSession_view {s₁ s₂ : Mixnet E}
    (h : s₁.coverSessions.map sessionView = s₂.coverSessions.map sessionView) (rng : E.Rng) :
    (s₁.chooseAuthoredSession rng).map (fun x => (sessionView x.1, x.2)) =
      (s₂.chooseAuthoredSession rng).map (fun x => (sessionView x.1, x.2)) := by
  unfold chooseAuthoredSession
  generalize s₁.coverSessions = l₁ at h ⊢
  generalize s₂.coverSessions = l₂ at h ⊢
  rcases l₁ with _ | ⟨a₁, _ | ⟨b₁, _ | ⟨c₁, l₁⟩⟩⟩ <;>
    rcases l₂ with _ | ⟨a₂, _ | ⟨b₂, _ | ⟨c₂, l₂⟩⟩⟩ <;>
    simp only [List.map_nil, List.map_cons, List.cons.injEq, reduceCtorEq, and_false,
      false_and, and_true, List.nil_eq, List.cons_ne_nil] at h ⊢
  · exact congrArg (fun v => some (v, rng)) h
  · obtain ⟨ha, hb⟩ := h
    have hp : ∀ {x y : RelSessionIndex × Session E}, sessionView x = sessionView y →
        x.2.meanAuthoredPacketPeriod = y.2.meanAuthoredPacketPeriod :=
      fun hxy => congrArg (·.2.2) hxy
    simp only [hp ha, hp hb, Option.map_some']
    split_ifs <;> simp [ha, hb]

/-- Engines alike to an observer of cover traffic make the same decision. -/
theorem coverDecision_congr {s₁ s₂ : Mixnet E} (h : CoverAlike s₁ s₂) (ns : E.NetworkStatus)
    (rng : E.Rng) : s₁.coverDecision ns rng = s₂.coverDecision ns rng := by
  have hc := chooseAuthoredSession_view
    (coverSessions_congr (fun r => (h.shape r)) (by rw [h.sessionStatus])) rng
  have key : ∀ s : Mixnet E, s.config = s₁.config → s.coverDecision ns rng =
      ((s.chooseAuthoredSession rng).map (fun x => (sessionView x.1, x.2))).map
        fun (v, rng) =>
          let (loop, rng) := E.genBool rng s₁.config.loopCoverProportion
          (v.1, loop, genCoverPacket rng v.2.1 ns (if loop then .loop else .drop) s₁.config) :=
    fun s hs => by rw [Option.map_map, coverDecision, hs]; rfl
  rw [key s₁ rfl, key s₂ h.config.symm, hc]

/-- `pop_next_authored_packet` follows its decision: with no session to serve it changes and
sends nothing; otherwise it raises the flag of the next authored packet deadline and sends the
decided cover packet, unless, outside a loop, a queued packet takes its place. -/
theorem popNextAuthoredPacket_decision (s : Mixnet E) (ns : E.NetworkStatus) (rng : E.Rng) :
    (s.coverDecision ns rng = none → s.popNextAuthoredPacket ns rng = (s, none)) ∧
    ∀ rel loop cover, s.coverDecision ns rng = some (rel, loop, cover) →
      (s.popNextAuthoredPacket ns rng).1.invalidated =
        s.invalidated ||| Invalidated.NEXT_AUTHORED_PACKET_DEADLINE ∧
      ((s.popNextAuthoredPacket ns rng).2 = cover ∨
        loop = false ∧ (s.popNextAuthoredPacket ns rng).2.isSome) := by
  unfold coverDecision popNextAuthoredPacket
  split
  · exact ⟨fun _ => rfl, fun _ _ _ h => by simp_all⟩
  · rename_i rel S rng' hc
    refine ⟨fun h => by simp [hc] at h, fun rel' loop cover h => ?_⟩
    simp only [hc, Option.map_some', Option.some.injEq, Prod.mk.injEq] at h
    obtain ⟨rfl, hloop, rfl⟩ := h
    dsimp only
    refine ⟨?_, ?_⟩
    · split
      · rfl
      · split <;> rfl
    split
    · rename_i hl
      rw [hl] at hloop; subst hloop
      exact .inl rfl
    · rename_i hl
      split
      · exact .inr ⟨by simp [← hloop, hl], rfl⟩
      · exact .inl (by simp [← hloop, hl])

/-- Once it decides on a cover packet that is generated, `pop_next_authored_packet` sends a
packet. -/
theorem popNextAuthoredPacket_emits {s : Mixnet E} {ns : E.NetworkStatus} {rng : E.Rng}
    {rel : RelSessionIndex} {loop : Bool} {cover : Option (AddressedPacket E.PeerId E.Packet)}
    (hs : s.coverDecision ns rng = some (rel, loop, cover)) (hc : cover.isSome) :
    (s.popNextAuthoredPacket ns rng).2.isSome := by
  rcases ((s.popNextAuthoredPacket_decision ns rng).2 rel loop cover hs).2 with hp | ⟨-, hp⟩
  · rw [hp]; exact hc
  · exact hp

/-- The flags `pop_next_authored_packet` raises depend on its decision only. -/
theorem popNextAuthoredPacket_invalidated (s : Mixnet E) (ns : E.NetworkStatus) (rng : E.Rng) :
    (s.popNextAuthoredPacket ns rng).1.invalidated = s.invalidated |||
      if (s.coverDecision ns rng).isSome then Invalidated.NEXT_AUTHORED_PACKET_DEADLINE
      else .empty := by
  cases hdec : s.coverDecision ns rng with
  | none => rw [(s.popNextAuthoredPacket_decision ns rng).1 hdec]; simp
  | some d => exact ((s.popNextAuthoredPacket_decision ns rng).2 d.1 d.2.1 d.2.2 hdec).1

end Mixnet

/-- **Cover-traffic noninterference.** Two engines alike to an observer of cover traffic, whose
authored packet queues, forward packet queues, SURB keystores, fragment assemblers, replay
filters and flags may differ, draw their next authored packet delay from the same mean period,
so with the same random draws at the same times. Driven by the same random choices,
`pop_next_authored_packet` makes the same decision in both (the same session, the same
loop-or-drop coin, the same cover packet), sends the same loop cover packet, and raises the same
flags. With no session to serve it sends nothing in both; whenever the decided cover packet is
generated, which needs `gen_cover_packets` in the configuration, it sends a packet in both:
whether a packet goes out does not depend on whether real packets are queued. -/
theorem cover_noninterference {s₁ s₂ : Mixnet E} (h : CoverAlike s₁ s₂) (ns : E.NetworkStatus)
    (rng : E.Rng) :
    s₁.authoredPacketPeriod = s₂.authoredPacketPeriod ∧
    s₁.nextAuthoredPacketDelay rng = s₂.nextAuthoredPacketDelay rng ∧
    s₁.coverDecision ns rng = s₂.coverDecision ns rng ∧
    (∀ rel cover, s₁.coverDecision ns rng = some (rel, true, cover) →
      (s₁.popNextAuthoredPacket ns rng).2 = cover ∧ (s₂.popNextAuthoredPacket ns rng).2 = cover) ∧
    (∃ flags, (s₁.popNextAuthoredPacket ns rng).1.invalidated = s₁.invalidated ||| flags ∧
      (s₂.popNextAuthoredPacket ns rng).1.invalidated = s₂.invalidated ||| flags) ∧
    (s₁.coverDecision ns rng = none →
      (s₁.popNextAuthoredPacket ns rng).2 = none ∧ (s₂.popNextAuthoredPacket ns rng).2 = none) ∧
    (∀ rel loop cover, s₁.coverDecision ns rng = some (rel, loop, cover) → cover.isSome →
      (s₁.popNextAuthoredPacket ns rng).2.isSome ∧
        (s₂.popNextAuthoredPacket ns rng).2.isSome) := by
  have hperiod := authoredPacketPeriod_congr (fun r => (h.shape r).symm)
    (by rw [h.sessionStatus])
  have hd := Mixnet.coverDecision_congr h ns rng
  have loopSent : ∀ s : Mixnet E, ∀ rel cover, s.coverDecision ns rng = some (rel, true, cover) →
      (s.popNextAuthoredPacket ns rng).2 = cover := fun s rel cover hs =>
    ((s.popNextAuthoredPacket_decision ns rng).2 rel true cover hs).2.resolve_right (by simp)
  refine ⟨hperiod.symm, by simp only [Mixnet.nextAuthoredPacketDelay, hperiod], hd,
    fun rel cover h₁ => ⟨loopSent s₁ rel cover h₁, loopSent s₂ rel cover (hd ▸ h₁)⟩,
    ⟨_, s₁.popNextAuthoredPacket_invalidated ns rng,
      by rw [s₂.popNextAuthoredPacket_invalidated ns rng, hd]⟩,
    fun hdec => ?_, fun _ _ _ hdec hc =>
      ⟨Mixnet.popNextAuthoredPacket_emits hdec hc,
        Mixnet.popNextAuthoredPacket_emits (hd ▸ hdec) hc⟩⟩
  rw [(s₁.popNextAuthoredPacket_decision ns rng).1 hdec,
    (s₂.popNextAuthoredPacket_decision ns rng).1 (hd ▸ hdec)]
  exact ⟨rfl, rfl⟩

/-- An engine with a queued request and one without are alike to an observer of cover traffic. -/
theorem cover_noninterference_queued :
    let s₁ : Mixnet Env.basic := { Mixnet.new Config.example KxPublicStore.new with
      sessions := ⟨.full ⟨0, ⟨40, []⟩, 1000000000, .new⟩, .empty⟩ }
    let s₂ : Mixnet Env.basic := { Mixnet.new Config.example KxPublicStore.new with
      sessions := ⟨.full ⟨0, ⟨40, [⟨0, 0⟩]⟩, 1000000000, .new⟩, .empty⟩ }
    CoverAlike s₁ s₂ ∧ s₁.authoredPacketPeriod = s₂.authoredPacketPeriod ∧
      s₁.nextAuthoredPacketDelay 0 = s₂.nextAuthoredPacketDelay 0 ∧
      s₁.coverDecision 0 0 = s₂.coverDecision 0 0 ∧
      (∀ rel cover, s₁.coverDecision 0 0 = some (rel, true, cover) →
        (s₁.popNextAuthoredPacket 0 0).2 = cover ∧ (s₂.popNextAuthoredPacket 0 0).2 = cover) ∧
      (∃ flags, (s₁.popNextAuthoredPacket 0 0).1.invalidated = s₁.invalidated ||| flags ∧
        (s₂.popNextAuthoredPacket 0 0).1.invalidated = s₂.invalidated ||| flags) ∧
      (s₁.coverDecision 0 0 = none →
        (s₁.popNextAuthoredPacket 0 0).2 = none ∧ (s₂.popNextAuthoredPacket 0 0).2 = none) ∧
      (∀ rel loop cover, s₁.coverDecision 0 0 = some (rel, loop, cover) → cover.isSome →
        (s₁.popNextAuthoredPacket 0 0).2.isSome ∧ (s₂.popNextAuthoredPacket 0 0).2.isSome) :=
  have h : CoverAlike (E := Env.basic)
      { Mixnet.new Config.example KxPublicStore.new with
        sessions := ⟨.full ⟨0, ⟨40, []⟩, 1000000000, .new⟩, .empty⟩ }
      { Mixnet.new Config.example KxPublicStore.new with
        sessions := ⟨.full ⟨0, ⟨40, [⟨0, 0⟩]⟩, 1000000000, .new⟩, .empty⟩ } :=
    ⟨rfl, rfl, fun r => by cases r <;> rfl⟩
  ⟨h, cover_noninterference h 0 0⟩

end MixnetCore
