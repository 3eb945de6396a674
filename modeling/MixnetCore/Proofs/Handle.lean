import MixnetCore.Proofs.Frame

/-!
# Dropped inbound packets

`handle_packet` first promotes the pending key-exchange secrets, then looks for a full session
that peels the packet. `DropReason` lists, as the code observes them, the cases in which it then
gives up on the packet; in each it returns `None` and changes nothing else
(`handlePacket_drops`). On every path the only change to the sessions is one insert of the
packet's public key into the replay filter of the session that peeled it, and only on the
paths that forward the packet or deliver it as a request (`handleAction_fields`).
-/

namespace MixnetCore

variable {E : Env}

namespace Mixnet

/-- The reasons for which `handle_packet` drops a packet, with the search of `find_map` run on the
engine whose pending secrets are promoted. -/
inductive DropReason (s : Mixnet E) (packet : E.Packet) : Prop
  /-- No full session peels the packet: each has no secret for it or fails its MAC. -/
  | notPeeled :
      s.addPendingSessionSecrets.findPeeled packet s.sessions.enumerate = some .next →
      DropReason s packet
  /-- The packet's public key is in the replay filter of a session checked, the first one
  included. -/
  | replayed :
      s.addPendingSessionSecrets.findPeeled packet s.sessions.enumerate = some .replayed →
      DropReason s packet
  /-- Peeling fails with an error other than a bad MAC. -/
  | peelFailed :
      s.addPendingSessionSecrets.findPeeled packet s.sessions.enumerate = some .failed →
      DropReason s packet
  /-- A packet to forward, peeled in a session in which the local node is not a mixnode. -/
  | forwardNotMixnode {rel S i target delay out} :
      s.addPendingSessionSecrets.findPeeled packet s.sessions.enumerate =
        some (.peeled rel S i (.forwardTo target delay) out) →
      E.isMixnode S.topology = false → DropReason s packet
  /-- A request, peeled in a session in which the local node is not a mixnode. -/
  | requestNotMixnode {rel S i out} :
      s.addPendingSessionSecrets.findPeeled packet s.sessions.enumerate =
        some (.peeled rel S i .deliverRequest out) →
      E.isMixnode S.topology = false → DropReason s packet
  /-- A packet to forward while the forward packet queue is full. -/
  | queueFull {rel S i target delay out} :
      s.addPendingSessionSecrets.findPeeled packet s.sessions.enumerate =
        some (.peeled rel S i (.forwardTo target delay) out) →
      s.forwardPacketQueue.remainingCapacity = 0 → DropReason s packet
  /-- A reply whose SURB id the SURB keystore does not hold. -/
  | unknownSurb {rel S i surbId out} :
      s.addPendingSessionSecrets.findPeeled packet s.sessions.enumerate =
        some (.peeled rel S i (.deliverReply surbId) out) →
      s.surbKeystore.entry surbId = none → DropReason s packet
  /-- A cover packet. -/
  | cover {rel S i out} :
      s.addPendingSessionSecrets.findPeeled packet s.sessions.enumerate =
        some (.peeled rel S i .deliverCover out) →
      DropReason s packet

/-- A fresh engine has no session to peel a packet with. -/
example : (Mixnet.new Config.example KxPublicStore.new : Mixnet Env.basic).DropReason 0 :=
  .notPeeled rfl

theorem handlePacket_of_peeled {s : Mixnet E} {packet : E.Packet} {now : Instant}
    {rel : RelSessionIndex} {S : Session E} {i : SessionIndex} {action : Action E.Target E.SurbId}
    {out : E.Packet}
    (h : s.addPendingSessionSecrets.findPeeled packet s.sessions.enumerate =
      some (.peeled rel S i action out)) :
    s.handlePacket packet now =
      some (s.addPendingSessionSecrets.handleAction packet now rel S i out action) := by
  simp only [handlePacket, Option.bind_eq_bind, addPendingSessionSecrets_sessions, h,
    Option.some_bind, Option.pure_def]

theorem handlePacket_of_not_peeled {s : Mixnet E} {packet : E.Packet} {now : Instant}
    {a : PeelAttempt E}
    (h : s.addPendingSessionSecrets.findPeeled packet s.sessions.enumerate = some a)
    (ha : ∀ rel S i action out, a ≠ .peeled rel S i action out) :
    s.handlePacket packet now = some (s.addPendingSessionSecrets, none) := by
  cases a with
  | peeled rel S i action out => exact absurd rfl (ha rel S i action out)
  | _ => simp only [handlePacket, Option.bind_eq_bind, addPendingSessionSecrets_sessions, h,
      Option.some_bind, Option.pure_def]

theorem handlePacket_of_dropReason {s : Mixnet E} {packet : E.Packet} (now : Instant)
    (hd : s.DropReason packet) :
    s.handlePacket packet now = some (s.addPendingSessionSecrets, none) := by
  cases hd with
  | notPeeled h | replayed h | peelFailed h =>
    exact handlePacket_of_not_peeled h fun _ _ _ _ _ => nofun
  | cover h => rw [handlePacket_of_peeled h]; rfl
  | forwardNotMixnode h hm | requestNotMixnode h hm =>
    rw [handlePacket_of_peeled h]; simp only [handleAction, hm, Bool.not_false, if_true]
  | queueFull h hc =>
    rw [handlePacket_of_peeled h]
    simp only [handleAction, addPendingSessionSecrets_forwardPacketQueue, hc, if_true, ite_self]
  | unknownSurb h hk =>
    rw [handlePacket_of_peeled h]
    simp only [handleAction, addPendingSessionSecrets_surbKeystore, hk]

/-- `handle_packet` changes the sessions at most by inserting the packet's public key into the
replay filter of the full session that peeled it. -/
theorem handlePacket_sessions {s s' : Mixnet E} {packet : E.Packet} {now : Instant}
    {m : Option (Message E.MessageId E.Surb)} (h : s.handlePacket packet now = some (s', m)) :
    s'.sessionStatus = s.sessionStatus ∧
      (s'.sessions = s.sessions ∨
        ∃ rel S i action out,
          s.addPendingSessionSecrets.findPeeled packet s.sessions.enumerate =
            some (.peeled rel S i action out) ∧
          s.sessions.get rel = .full S ∧
          s'.sessions = s.sessions.set rel
            (.full { S with replayFilter := S.replayFilter.insert (E.kxPublic packet) })) := by
  obtain ⟨a, ha, ⟨-, rfl, -⟩ | ⟨rel, S, i, action, out, rfl, hS, rfl, -⟩⟩ := handlePacket_eq_some h
  · exact ⟨rfl, .inl rfl⟩
  · obtain ⟨-, hstatus, -, hss, -⟩ :=
      handleAction_fields s.addPendingSessionSecrets packet now rel S i out action
    exact ⟨hstatus, hss.imp id fun hss => ⟨rel, S, i, action, out, ha, hS, hss⟩⟩

/-- `handle_packet` inserts into the forward packet queue only while the queue has room. -/
theorem handlePacket_forwardPacketQueue {s s' : Mixnet E} {packet : E.Packet} {now : Instant}
    {m : Option (Message E.MessageId E.Surb)} (h : s.handlePacket packet now = some (s', m)) :
    s'.forwardPacketQueue = s.forwardPacketQueue ∧ s'.invalidated = s.invalidated ∨
      0 < s.forwardPacketQueue.remainingCapacity ∧ ∃ p,
        s'.forwardPacketQueue = (s.forwardPacketQueue.insert p).1 ∧
        s'.invalidated = if (s.forwardPacketQueue.insert p).2 then
          s.invalidated ||| Invalidated.NEXT_FORWARD_PACKET_DEADLINE else s.invalidated := by
  obtain ⟨-, -, ⟨-, rfl, -⟩ | ⟨rel, S, i, action, out, -, -, rfl, -⟩⟩ := handlePacket_eq_some h
  · exact .inl ⟨rfl, rfl⟩
  · exact (handleAction_fields s.addPendingSessionSecrets packet now rel S i out action).2.2.2.2

/-- **Dropped packets.** When `handle_packet` drops a packet for one of the reasons of
`DropReason`, it returns `None` and changes nothing but the key-exchange store, whose pending
secrets it promotes. On every path it keeps the session status, and the sessions either stay as
they are or differ only in the replay filter of the full session whose secret peeled the packet,
into which the packet's public key is inserted: no slot changes state and no authored packet
queue changes. -/
theorem handlePacket_drops (s : Mixnet E) (packet : E.Packet) (now : Instant) :
    (s.DropReason packet → s.handlePacket packet now = some (s.addPendingSessionSecrets, none)) ∧
      ∀ s' m, s.handlePacket packet now = some (s', m) →
        s'.sessionStatus = s.sessionStatus ∧
        (s'.sessions = s.sessions ∨
          ∃ rel S i action out,
            s.addPendingSessionSecrets.findPeeled packet s.sessions.enumerate =
              some (.peeled rel S i action out) ∧
            s.sessions.get rel = .full S ∧
            s'.sessions = s.sessions.set rel
              (.full { S with replayFilter := S.replayFilter.insert (E.kxPublic packet) })) :=
  ⟨handlePacket_of_dropReason now, fun _ _ => handlePacket_sessions⟩

end Mixnet

/-- Collaborators under which a packet peels, to a packet to forward, under the secret `0` only:
with `Env.basic`'s key exchange, under session `0`'s secret only when its key is `0`. -/
@[reducible] def Env.peelsAtZero : Env :=
  { Env.basic with
    peel := fun packet (secret : ℕ) =>
      if secret = 0 then .ok (.forwardTo (0 : ℕ) 0, packet) else .error .mac }

namespace Mixnet

/-- In session `0`, set up by `maybe_set_mixnodes`, packet `0` is forwarded the first time, which
inserts its public key into the replay filter of the current session, and dropped as replayed
the second time. -/
theorem handlePacket_drops_replayed :
    let s₁ : Mixnet Env.peelsAtZero :=
      (Mixnet.new Config.example KxPublicStore.new).setMixnodes .current 0 [0, 0, 0] 0
    ∃ s₂ m, s₁.handlePacket 0 0 = some (s₂, m) ∧
      (s₂.sessionStatus = s₁.sessionStatus ∧
        (s₂.sessions = s₁.sessions ∨
          ∃ rel S i action out,
            s₁.addPendingSessionSecrets.findPeeled 0 s₁.sessions.enumerate =
              some (.peeled rel S i action out) ∧
            s₁.sessions.get rel = .full S ∧
            s₂.sessions = s₁.sessions.set rel
              (.full { S with
                replayFilter := S.replayFilter.insert (Env.peelsAtZero.kxPublic 0) }))) ∧
      s₂.DropReason 0 ∧ s₂.handlePacket 0 0 = some (s₂.addPendingSessionSecrets, none) :=
  ⟨_, _, rfl, (handlePacket_drops (E := Env.peelsAtZero) _ 0 0).2 _ _ rfl, .replayed rfl,
    (handlePacket_drops (E := Env.peelsAtZero) _ 0 0).1 (.replayed rfl)⟩

end Mixnet

end MixnetCore
