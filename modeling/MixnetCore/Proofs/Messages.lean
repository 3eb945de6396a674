import MixnetCore.Proofs.Replay
import MixnetCore.Proofs.Post

/-!
# Delivered messages

What `handle_packet` delivers, and what that tells its caller. A request is delivered only for a
packet that a full session peeled to `DeliverRequest` while the local node is a mixnode of that
session; the packet's key goes into the session's replay filter, and the request carries the
index of that session (`Mixnet.handlePacket_request`). So a reply posted with the request's
session index is posted through the session the request came in on, as long as the session
status does not change (`request_reply_routing`).

A reply is delivered only after `handle_packet` has decrypted the payload with the keys of a
SURB id the keystore held. The id is taken out of the keystore, and no session changes: the key
of a reply packet goes into no replay filter, so the keystore alone keeps replies from being
replayed (`reply_consumes_surb`).
-/

namespace MixnetCore

variable {E : Env}

namespace Mixnet

/-! ### What `match action` delivers -/

variable {s : Mixnet E} {packet : E.Packet} {now : Instant} {rel : RelSessionIndex}
  {S : Session E} {i : SessionIndex} {out : E.Packet} {action : Action E.Target E.SurbId}

/-- What the `match action` delivers: a request only for `DeliverRequest` in a session the local
node is a mixnode of, carrying the index of the session that peeled it; a reply only for
`DeliverReply` with a SURB id the keystore holds, which it takes out of the keystore, leaving the
sessions as they are. -/
theorem handleAction_message {m : Message E.MessageId E.Surb}
    (h : (s.handleAction packet now rel S i out action).2 = some m) :
    (action = .deliverRequest ∧ E.isMixnode S.topology ∧
      ∃ data surbs, m = .request i data surbs) ∨
    ∃ X, action = .deliverReply X ∧ (s.surbKeystore.entry X).isSome ∧
      (s.handleAction packet now rel S i out action).1.surbKeystore = s.surbKeystore.remove X ∧
      (s.handleAction packet now rel S i out action).1.sessions = s.sessions ∧
      ∃ id data, m = .reply id data := by
  cases action with
  | forwardTo target delay =>
    simp only [handleAction] at h
    split_ifs at h
    split at h <;> cases h
  | deliverRequest =>
    simp only [handleAction] at h
    split_ifs at h with hm
    obtain ⟨_, -, rfl⟩ := Option.map_eq_some'.mp h
    exact .inl ⟨rfl, by simpa using hm, _, _, rfl⟩
  | deliverReply X =>
    refine .inr ⟨X, rfl, ?_⟩
    simp only [handleAction] at h ⊢
    split at h
    · cases h
    · rename_i keys hk
      rw [hk]
      split at h
      · cases h
      · obtain ⟨_, -, rfl⟩ := Option.map_eq_some'.mp h
        exact ⟨rfl, rfl, rfl, _, _, rfl⟩
  | deliverCover => cases h

/-! ### What `handle_packet` delivers -/

/-- **Where a delivered request comes from.** A full slot holds the session that peeled the
request, the request carries that session's index, the local node is a mixnode of it, the
session status stays, and the packet's key is now in the session's replay filter. -/
theorem handlePacket_request {s' : Mixnet E} {data : List UInt8} {surbs : List E.Surb}
    (h : s.handlePacket packet now = some (s', some (.request i data surbs))) :
    ∃ rel S, s.sessions.get rel = .full S ∧ rel.add s.sessionStatus.currentIndex = some i ∧
      E.isMixnode S.topology ∧ s'.sessionStatus = s.sessionStatus ∧
      s'.sessions = s.sessions.set rel
        (.full { S with replayFilter := S.replayFilter.insert (E.kxPublic packet) }) := by
  obtain ⟨a, ha, ⟨-, -, hm⟩ | ⟨rel, S, i₀, action, out, rfl, hS, rfl, hm⟩⟩ :=
    handlePacket_eq_some h
  · cases hm
  · rcases handleAction_message hm.symm with
      ⟨rfl, hmix, _, _, heq⟩ | ⟨_, -, -, -, -, _, _, heq⟩ <;> cases heq
    obtain ⟨-, -, hi, -⟩ := peelAttempt_peeled (findPeeled_peeled ha).2
    exact ⟨rel, S, hS, hi, hmix,
      (handleAction_fields s.addPendingSessionSecrets packet now rel S i out _).2.1,
      handleAction_inserts hmix (.inr rfl)⟩

/-- A delivered reply was decrypted with the keys of a SURB id the keystore held; the id is
taken out of the keystore, and the sessions stay as they are. -/
theorem handlePacket_reply {s' : Mixnet E} {id : E.MessageId} {data : List UInt8}
    (h : s.handlePacket packet now = some (s', some (.reply id data))) :
    ∃ X, s.DecryptsWith packet X ∧ s'.surbKeystore = s.surbKeystore.remove X ∧
      s'.sessions = s.sessions := by
  obtain ⟨a, ha, ⟨-, -, hm⟩ | ⟨rel, S, i₀, action, out, rfl, hS, rfl, hm⟩⟩ :=
    handlePacket_eq_some h
  · cases hm
  · rcases handleAction_message hm.symm with
      ⟨-, -, _, _, heq⟩ | ⟨X, rfl, hX, hks, hss, _, _, -⟩
    · cases heq
    · exact ⟨X, ⟨rel, S, i₀, out, ha, hX⟩, hks, hss⟩

/-! ### Runs without a status change -/

/-- Only `set_session_status` changes the session status. -/
theorem step_sessionStatus {s s' : Mixnet E} {op : Op E}
    (hop : ∀ status, op ≠ .setSessionStatus status) (h : s.step op = some s') :
    s'.sessionStatus = s.sessionStatus := by
  cases op with
  | setSessionStatus status => exact absurd rfl (hop status)
  | maybeSetMixnodes rel mixnodes rng =>
    obtain ⟨⟨s'', res⟩, hm, rfl⟩ := Option.map_eq_some'.mp h
    rcases maybeSetMixnodes_eq_some hm with rfl | ⟨-, j, ms, -, rfl⟩
    exacts [rfl, (s.setMixnodes_slots rel j ms rng).2.1]
  | _ => exact (step_keepsSessions h rfl).2.1

/-- Along a run without a status change, the status stays and a full slot stays full, with a
session that evolves. -/
theorem run_full {s s' : Mixnet E} {ops : List (Op E)}
    (hops : ∀ op ∈ ops, ∀ status, op ≠ .setSessionStatus status) (h : s.run ops = some s')
    (hS : s.sessions.get rel = .full S) :
    ∃ S', s'.sessions.get rel = .full S' ∧ S.Evolves S' ∧
      s'.sessionStatus = s.sessionStatus := by
  induction ops generalizing s S with
  | nil =>
    cases h
    exact ⟨S, hS, .refl S, rfl⟩
  | cons op ops ih =>
    rw [run_cons, Option.bind_eq_some] at h
    obtain ⟨s₁, h₁, h⟩ := h
    have hop := hops op (List.mem_cons_self _ _)
    obtain ⟨S₁, hS₁, hev₁⟩ := step_full hop h₁ hS
    obtain ⟨S', hS', hev, hst⟩ :=
      ih (fun op hop => hops op (List.mem_cons_of_mem _ hop)) h hS₁
    exact ⟨S', hS', hev₁.trans hev, hst.trans (step_sessionStatus hop h₁)⟩

end Mixnet

/-- `post_session` resolves the index of the session in a full slot to that slot. -/
theorem postSession_of_add {sessions : Sessions E} {status : SessionStatus}
    {rel : RelSessionIndex} {i : SessionIndex} {S : Session E}
    (hi : rel.add status.currentIndex = some i) (hS : sessions.get rel = .full S) :
    postSession sessions status i =
      if E.allowRequestsAndReplies status.phase rel then .ok (rel, S)
      else .error (.requestsAndRepliesBlocked i) := by
  have hrel : relOfWrappingSub (status.currentIndex - i) = some rel := by
    rw [relOfWrappingSub_sub]
    rcases RelSessionIndex.add_eq_some.mp hi with ⟨rfl, rfl⟩ | ⟨rfl, hc, rfl⟩
    · rw [if_pos rfl]
    · rw [if_neg (by bv_omega), if_pos (by bv_omega)]
  unfold postSession
  rw [hrel]
  dsimp only
  rw [hS]
  cases E.allowRequestsAndReplies status.phase rel <;> rfl

/-- **A reply goes back through the session the request came in on.** When `handle_packet`
delivers a request, the session that peeled it is in a full slot, the local node is one of its
mixnodes, and the request carries its index. Along any later run that does not change the
session status, that slot stays full, with the session evolved and the request's key still in
its replay filter, and `post_session`, which `post_reply` calls first, resolves the request's
index to that slot: to its session if the phase allows requests and replies there, to
`RequestsAndRepliesBlocked` otherwise. -/
theorem request_reply_routing {s s₁ s₂ : Mixnet E} {packet : E.Packet} {now : Instant}
    {i : SessionIndex} {data : List UInt8} {surbs : List E.Surb} {ops : List (Op E)}
    (h : s.handlePacket packet now = some (s₁, some (.request i data surbs)))
    (hops : ∀ op ∈ ops, ∀ status, op ≠ .setSessionStatus status)
    (hrun : s₁.run ops = some s₂) :
    ∃ rel S, s.sessions.get rel = .full S ∧ rel.add s.sessionStatus.currentIndex = some i ∧
      E.isMixnode S.topology ∧
      ∃ S₂, s₂.sessions.get rel = .full S₂ ∧ S.Evolves S₂ ∧
        E.kxPublic packet ∈ S₂.replayFilter.publics ∧ s₂.sessionStatus = s.sessionStatus ∧
        postSession s₂.sessions s₂.sessionStatus i =
          if E.allowRequestsAndReplies s.sessionStatus.phase rel then .ok (rel, S₂)
          else .error (.requestsAndRepliesBlocked i) := by
  obtain ⟨rel, S, hS, hi, hmix, hst, hss⟩ := Mixnet.handlePacket_request h
  have hS₁ : s₁.sessions.get rel =
      .full { S with replayFilter := S.replayFilter.insert (E.kxPublic packet) } := by
    rw [hss, Sessions.get_set, if_pos rfl]
  obtain ⟨S₂, hS₂, hev, hst₂⟩ := Mixnet.run_full hops hrun hS₁
  have hstatus : s₂.sessionStatus = s.sessionStatus := hst₂.trans hst
  refine ⟨rel, S, hS, hi, hmix, S₂, hS₂, (Session.evolves_insert S _).trans hev,
    hev.filter _ (List.mem_cons_self _ _), hstatus, ?_⟩
  rw [hstatus]
  exact postSession_of_add hi hS₂

/-- Collaborators under which a packet peels under the secret `0` only, to `action`, and every
payload completes a message at once. -/
@[reducible] def Env.deliversAtZero (action : Action ℕ ℕ) : Env :=
  { Env.basic with
    peel := fun packet (secret : ℕ) => if secret = 0 then .ok (action, packet) else .error .mac
    fragmentAssemblerInsert := fun fa payload => (fa, some ⟨payload, [], []⟩) }

/-- A request peeled in session `0`, the current session of an engine that `maybe_set_mixnodes`
has just built, is answered through the current slot. -/
theorem request_reply_routing_current :
    let E := Env.deliversAtZero .deliverRequest
    let s : Mixnet E :=
      (Mixnet.new Config.example KxPublicStore.new).setMixnodes .current 0 [0, 0, 0] 0
    ∃ s₁, s.handlePacket 0 0 = some (s₁, some (.request 0 [] [])) ∧
      ∃ rel S, s.sessions.get rel = .full S ∧ rel.add s.sessionStatus.currentIndex = some 0 ∧
        E.isMixnode S.topology ∧
        ∃ S₂, s₁.sessions.get rel = .full S₂ ∧ S.Evolves S₂ ∧
          E.kxPublic 0 ∈ S₂.replayFilter.publics ∧ s₁.sessionStatus = s.sessionStatus ∧
          postSession s₁.sessions s₁.sessionStatus 0 =
            if E.allowRequestsAndReplies s.sessionStatus.phase rel then .ok (rel, S₂)
            else .error (.requestsAndRepliesBlocked 0) := by
  intro E s
  obtain ⟨s₁, hs⟩ : ∃ s₁, s.handlePacket 0 0 = some (s₁, some (.request 0 [] [])) :=
    ⟨_, rfl⟩
  exact ⟨s₁, hs,
    @request_reply_routing E s s₁ s₁ 0 0 0 [] [] [] hs (fun _ h => by cases h) rfl⟩

/-! ### Retries of a request -/

/-- `post_session` depends only on the slot it resolves to. -/
theorem postSession_of_slot {sessions sessions' : Sessions E} {status : SessionStatus}
    {i : SessionIndex} {rel : RelSessionIndex} {S S' : Session E}
    (h : postSession sessions status i = .ok (rel, S)) (hS' : sessions'.get rel = .full S') :
    postSession sessions' status i = .ok (rel, S') := by
  have hrel := postSession_ok_rel h
  unfold postSession at h ⊢
  rw [hrel] at h ⊢
  dsimp only at h ⊢
  rw [hS']
  cases hallow : E.allowRequestsAndReplies status.phase rel <;> simp_all

/-- **A request's destination sticks.** When `post_request` returns `Ok`, it writes back the
index of the session it posted to and the destination mixnode its request builder chose in that
session's topology. Along any later run that does not change the session status, a retry with
that destination is posted to the same slot, whose session has only evolved (so its topology is
the same), and its request builder is asked for the same destination mixnode. -/
theorem request_destination_sticky {s s₁ s₂ : Mixnet E} {destination : Option MixnodeId}
    {d : MixnodeId} {data : List UInt8} {numSurbs : ℕ} {ns : E.NetworkStatus} {rng : E.Rng}
    {delay : Duration} {ops : List (Op E)}
    (h : s.postRequest destination data numSurbs ns rng = some (s₁, some d, .ok delay))
    (hops : ∀ op ∈ ops, ∀ status, op ≠ .setSessionStatus status)
    (hrun : s₁.run ops = some s₂) :
    s.requestSessionIndex destination = some d.sessionIndex ∧
    ∃ rel S, postSession s.sessions s.sessionStatus d.sessionIndex = .ok (rel, S) ∧
      (∃ rb rng', E.requestBuilderNew (E.fillMessageId rng).2 S.topology ns
          (destination.map (·.mixnodeIndex)) = .ok (rb, rng') ∧
        d.mixnodeIndex = E.destinationIndex rb) ∧
      ∃ S₂, s₂.sessions.get rel = .full S₂ ∧ S.Evolves S₂ ∧
        postSession s₂.sessions s₂.sessionStatus d.sessionIndex = .ok (rel, S₂) := by
  obtain ⟨-, hst₁, -, hev₁, -⟩ := Mixnet.postRequest_frame h
  rcases Mixnet.postRequest_eq_some h with ⟨-, -, e, he, -⟩ |
    ⟨bps, sessionIndex, rel, S, rb, rng', res', st, -, -, hsi, hps, -, hrb, -, -, hres⟩
  · cases he
  rcases hres with ⟨-, hd, -⟩ | ⟨e, -, -, he⟩
  · cases hd
    obtain ⟨S₁, hS₁, hevS₁⟩ :=
      SessionSlot.Evolves.full_left (Mixnet.postSession_ok hps ▸ hev₁ rel)
    obtain ⟨S₂, hS₂, hevS₂, hst₂⟩ := Mixnet.run_full hops hrun hS₁
    refine ⟨hsi, rel, S, hps, ⟨rb, rng', hrb, rfl⟩, S₂, hS₂, hevS₁.trans hevS₂, ?_⟩
    rw [hst₂, hst₁]
    exact postSession_of_slot hps hS₂
  · cases he

/-- A request posted without a destination from an engine whose current session is set goes to
mixnode `0` of session `0`. -/
theorem request_destination_sticky_fresh :
    let s : Mixnet Env.basic :=
      (Mixnet.new Config.example KxPublicStore.new).setMixnodes .current 0 [0, 0, 0] 0
    let d : MixnodeId := ⟨0, 0⟩
    ∃ s₁, s.postRequest none [] 0 0 0 = some (s₁, some d, .ok 0) ∧
      s.requestSessionIndex none = some d.sessionIndex ∧
      ∃ rel S, postSession s.sessions s.sessionStatus d.sessionIndex = .ok (rel, S) ∧
        (∃ rb rng', Env.basic.requestBuilderNew (Env.basic.fillMessageId 0).2 S.topology 0 none =
          .ok (rb, rng') ∧ d.mixnodeIndex = Env.basic.destinationIndex rb) ∧
        ∃ S₂, s₁.sessions.get rel = .full S₂ ∧ S.Evolves S₂ ∧
          postSession s₁.sessions s₁.sessionStatus d.sessionIndex = .ok (rel, S₂) :=
  ⟨_, rfl, @request_destination_sticky Env.basic _ _ _ none ⟨0, 0⟩ [] 0 0 0 0 [] rfl
    (fun _ h => by cases h) rfl⟩

/-- **A reply consumes its SURB.** `handle_packet` delivers a reply only after peeling the packet
as a reply to a SURB id the keystore holds and decrypting its payload with that id's keys. The id
is then gone from the keystore, and no session changes: the key of a reply packet goes into no
replay filter. -/
theorem reply_consumes_surb {s s' : Mixnet E} {packet : E.Packet} {now : Instant}
    {id : E.MessageId} {data : List UInt8}
    (h : s.handlePacket packet now = some (s', some (.reply id data))) :
    ∃ X, s.DecryptsWith packet X ∧ X ∈ s.surbKeystore.ids ∧ X ∉ s'.surbKeystore.ids ∧
      s'.surbKeystore = s.surbKeystore.remove X ∧ s'.sessions = s.sessions := by
  obtain ⟨X, hd, hks, hss⟩ := Mixnet.handlePacket_reply h
  obtain ⟨hmem, hnot⟩ := hd.removes h
  exact ⟨X, hd, hmem, hnot, hks, hss⟩

end MixnetCore
