import MixnetCore.Run

/-!
# What each operation may change

Outside `set_session_status` and `maybe_set_mixnodes`, no operation adds, drops or moves a
session: a session keeps its topology, its mean authored packet period and the capacity of its
authored packet queue, and its replay filter only grows (`Sessions.Evolves`). This module proves
that once per operation (`handlePacket_frame`, `popNextAuthoredPacket_frame`,
`postRequest_frame`, `postReply_frame`), together with what each operation does to the session
status, the configuration, the key-exchange store and the invalidation flags; later modules
cite these lemmas and do not unfold the operations again.
-/

namespace MixnetCore

variable {E : Env}

/-! ### Evolution of sessions -/

/-- How a session may change in place: same topology, period and queue capacity, and a replay
filter that only grows. -/
structure Session.Evolves (S S' : Session E) : Prop where
  topology : S'.topology = S.topology
  period : S'.meanAuthoredPacketPeriod = S.meanAuthoredPacketPeriod
  capacity : S'.authoredPacketQueue.capacity = S.authoredPacketQueue.capacity
  filter : ∀ k ∈ S.replayFilter.publics, k ∈ S'.replayFilter.publics

theorem Session.Evolves.refl (S : Session E) : S.Evolves S := ⟨rfl, rfl, rfl, fun _ h => h⟩

theorem Session.Evolves.trans {S S' S'' : Session E} (h : S.Evolves S') (h' : S'.Evolves S'') :
    S.Evolves S'' :=
  ⟨h'.topology.trans h.topology, h'.period.trans h.period, h'.capacity.trans h.capacity,
    fun k hk => h'.filter k (h.filter k hk)⟩

theorem Session.evolves_insert (S : Session E) (k : E.KxPublic) :
    S.Evolves { S with replayFilter := S.replayFilter.insert k } :=
  ⟨rfl, rfl, rfl, fun _ h => List.mem_cons_of_mem _ h⟩

theorem Session.evolves_queue (S : Session E) (q : AuthoredPacketQueue E)
    (hq : q.capacity = S.authoredPacketQueue.capacity) :
    S.Evolves { S with authoredPacketQueue := q } :=
  ⟨rfl, rfl, hq, fun _ h => h⟩

/-- Slot-wise evolution: empty and disabled slots stay, a full slot's session evolves. -/
inductive SessionSlot.Evolves : SessionSlot E → SessionSlot E → Prop
  | empty : SessionSlot.Evolves .empty .empty
  | disabled : SessionSlot.Evolves .disabled .disabled
  | full {S S' : Session E} : S.Evolves S' → SessionSlot.Evolves (.full S) (.full S')

theorem SessionSlot.Evolves.refl : ∀ slot : SessionSlot E, slot.Evolves slot
  | .empty => .empty
  | .disabled => .disabled
  | .full S => .full (Session.Evolves.refl S)

theorem SessionSlot.Evolves.trans {a b c : SessionSlot E} (h : a.Evolves b) (h' : b.Evolves c) :
    a.Evolves c := by
  cases h with
  | empty => exact h'
  | disabled => exact h'
  | full hS => cases h' with | full hS' => exact .full (hS.trans hS')

/-- Both slots evolve. -/
def Sessions.Evolves (ss ss' : Sessions E) : Prop := ∀ r, (ss.get r).Evolves (ss'.get r)

theorem Sessions.Evolves.refl (ss : Sessions E) : ss.Evolves ss :=
  fun _ => SessionSlot.Evolves.refl _

theorem Sessions.Evolves.trans {a b c : Sessions E} (h : a.Evolves b) (h' : b.Evolves c) :
    a.Evolves c :=
  fun r => (h r).trans (h' r)

/-- Replacing the session of a full slot by an evolution of it. -/
theorem Sessions.evolves_set {ss : Sessions E} {r : RelSessionIndex} {S S' : Session E}
    (hr : ss.get r = .full S) (h : S.Evolves S') : ss.Evolves (ss.set r (.full S')) := by
  intro r'
  rw [Sessions.get_set]
  split
  · subst r'; rw [hr]; exact .full h
  · exact SessionSlot.Evolves.refl _

theorem SessionSlot.Evolves.full_left {slot : SessionSlot E} {S : Session E}
    (h : (SessionSlot.full S).Evolves slot) : ∃ S', slot = .full S' ∧ S.Evolves S' := by
  cases h with | full h => exact ⟨_, rfl, h⟩

theorem SessionSlot.Evolves.full_right {slot : SessionSlot E} {S' : Session E}
    (h : slot.Evolves (.full S')) : ∃ S, slot = .full S ∧ S.Evolves S' := by
  cases h with | full h => exact ⟨_, rfl, h⟩

/-! ### `handle_packet` -/

namespace Mixnet

@[simp] theorem addPendingSessionSecrets_sessions (s : Mixnet E) :
    s.addPendingSessionSecrets.sessions = s.sessions := rfl

@[simp] theorem addPendingSessionSecrets_forwardPacketQueue (s : Mixnet E) :
    s.addPendingSessionSecrets.forwardPacketQueue = s.forwardPacketQueue := rfl

@[simp] theorem addPendingSessionSecrets_surbKeystore (s : Mixnet E) :
    s.addPendingSessionSecrets.surbKeystore = s.surbKeystore := rfl

theorem peelAttempt_peeled {s : Mixnet E} {packet : E.Packet} {rel rel' : RelSessionIndex}
    {S S' : Session E} {i : SessionIndex} {action : Action E.Target E.SurbId} {out : E.Packet}
    (h : s.peelAttempt packet rel S = some (.peeled rel' S' i action out)) :
    rel' = rel ∧ S' = S ∧ rel.add s.sessionStatus.currentIndex = some i ∧
      S.replayFilter.contains (E.kxPublic packet) = false ∧
      ∃ k, s.kxStore.sessionExchange i (E.kxPublic packet) = some k ∧
        E.peel packet k = .ok (action, out) := by
  unfold peelAttempt at h
  split at h
  · cases h
  · rename_i hf
    cases hj : rel.add s.sessionStatus.currentIndex with
    | none => simp [hj] at h
    | some j =>
      simp only [hj, Option.map_some', Option.some.injEq] at h
      split at h
      · cases h
      · rename_i k hk
        split at h <;> try cases h
        rename_i hp
        exact ⟨rfl, rfl, rfl, by simpa using hf, k, hk, hp⟩

/-- A session `find_map` peels a packet in is one of the listed sessions. -/
theorem findPeeled_peeled {s : Mixnet E} {packet : E.Packet} {rel : RelSessionIndex}
    {S : Session E} {i : SessionIndex} {action : Action E.Target E.SurbId} {out : E.Packet} :
    ∀ {l : List (RelSessionIndex × Session E)},
      s.findPeeled packet l = some (.peeled rel S i action out) →
        (rel, S) ∈ l ∧ s.peelAttempt packet rel S = some (.peeled rel S i action out)
  | [], h => by cases h
  | (rel', S') :: l, h => by
    simp only [findPeeled, Option.bind_eq_bind, Option.bind_eq_some] at h
    obtain ⟨a, ha, h⟩ := h
    cases a with
    | next =>
      obtain ⟨hmem, hp⟩ := findPeeled_peeled h
      exact ⟨List.mem_cons_of_mem _ hmem, hp⟩
    | peeled =>
      cases h
      obtain ⟨rfl, rfl, -⟩ := peelAttempt_peeled ha
      exact ⟨List.mem_cons_self _ _, ha⟩
    | _ => cases h

/-- What `handle_packet`'s `match action` changes, on every path: at most the replay filter of
the session that peeled the packet, by inserting the packet's public key; and the forward packet
queue, by one insert made only while the queue has room, raising its flag if the insert changed
the head deadline. -/
theorem handleAction_fields (s : Mixnet E) (packet : E.Packet) (now : Instant)
    (rel : RelSessionIndex) (S : Session E) (i : SessionIndex) (out : E.Packet)
    (action : Action E.Target E.SurbId) :
    let s' := (s.handleAction packet now rel S i out action).1
    s'.config = s.config ∧ s'.sessionStatus = s.sessionStatus ∧ s'.kxStore = s.kxStore ∧
      (s'.sessions = s.sessions ∨ s'.sessions = s.sessions.set rel
        (.full { S with replayFilter := S.replayFilter.insert (E.kxPublic packet) })) ∧
      (s'.forwardPacketQueue = s.forwardPacketQueue ∧ s'.invalidated = s.invalidated ∨
        0 < s.forwardPacketQueue.remainingCapacity ∧ ∃ p,
          s'.forwardPacketQueue = (s.forwardPacketQueue.insert p).1 ∧
          s'.invalidated = if (s.forwardPacketQueue.insert p).2 then
            s.invalidated ||| Invalidated.NEXT_FORWARD_PACKET_DEADLINE else s.invalidated) := by
  cases action with
  | forwardTo target delay =>
    simp only [handleAction]
    split_ifs with hm hc
    · exact ⟨rfl, rfl, rfl, .inl rfl, .inl ⟨rfl, rfl⟩⟩
    · exact ⟨rfl, rfl, rfl, .inl rfl, .inl ⟨rfl, rfl⟩⟩
    · split
      · exact ⟨rfl, rfl, rfl, .inr rfl, .inr ⟨Nat.pos_of_ne_zero hc, _, rfl, rfl⟩⟩
      · exact ⟨rfl, rfl, rfl, .inr rfl, .inl ⟨rfl, rfl⟩⟩
  | deliverRequest =>
    simp only [handleAction]
    split_ifs
    · exact ⟨rfl, rfl, rfl, .inl rfl, .inl ⟨rfl, rfl⟩⟩
    · exact ⟨rfl, rfl, rfl, .inr rfl, .inl ⟨rfl, rfl⟩⟩
  | deliverReply surbId =>
    simp only [handleAction]
    split
    · exact ⟨rfl, rfl, rfl, .inl rfl, .inl ⟨rfl, rfl⟩⟩
    · split <;> exact ⟨rfl, rfl, rfl, .inl rfl, .inl ⟨rfl, rfl⟩⟩
  | deliverCover => exact ⟨rfl, rfl, rfl, .inl rfl, .inl ⟨rfl, rfl⟩⟩

/-- What `handle_packet` can do: promote the pending secrets, then drop the packet, or run the
`match action` for the full session that peeled it. -/
theorem handlePacket_eq_some {s s' : Mixnet E} {packet : E.Packet} {now : Instant}
    {m : Option (Message E.MessageId E.Surb)} (h : s.handlePacket packet now = some (s', m)) :
    ∃ a, s.addPendingSessionSecrets.findPeeled packet s.sessions.enumerate = some a ∧
      ((∀ rel S i action out, a ≠ .peeled rel S i action out) ∧
          s' = s.addPendingSessionSecrets ∧ m = none ∨
        ∃ rel S i action out, a = .peeled rel S i action out ∧ s.sessions.get rel = .full S ∧
          s' = (s.addPendingSessionSecrets.handleAction packet now rel S i out action).1 ∧
          m = (s.addPendingSessionSecrets.handleAction packet now rel S i out action).2) := by
  simp only [handlePacket, Option.bind_eq_bind, Option.bind_eq_some] at h
  obtain ⟨a, ha, h⟩ := h
  refine ⟨a, ha, ?_⟩
  cases a with
  | peeled rel S i action out =>
    simp only [Option.pure_def, Option.some.injEq] at h
    exact .inr ⟨rel, S, i, action, out, rfl,
      Sessions.mem_enumerate.mp (findPeeled_peeled ha).1, by rw [h], by rw [h]⟩
  | _ => obtain ⟨rfl⟩ := h; exact .inl ⟨nofun, rfl, rfl⟩

/-- `handle_packet` keeps the configuration and the session status, only promotes the pending
key-exchange secrets, lets the sessions evolve and only raises flags. -/
theorem handlePacket_frame {s s' : Mixnet E} {packet : E.Packet} {now : Instant}
    {m : Option (Message E.MessageId E.Surb)} (h : s.handlePacket packet now = some (s', m)) :
    s'.config = s.config ∧ s'.sessionStatus = s.sessionStatus ∧
      s'.kxStore = s.kxStore.addPendingSessionSecrets ∧ s.sessions.Evolves s'.sessions ∧
      s.invalidated.Subset s'.invalidated := by
  obtain ⟨-, -, ⟨-, rfl, -⟩ | ⟨rel, S, i, action, out, -, hS, rfl, -⟩⟩ := handlePacket_eq_some h
  · exact ⟨rfl, rfl, rfl, Sessions.Evolves.refl _, Invalidated.Subset.refl _⟩
  · obtain ⟨h1, h2, h3, hss, hfq⟩ :=
      handleAction_fields s.addPendingSessionSecrets packet now rel S i out action
    refine ⟨h1, h2, h3, ?_, ?_⟩
    · rcases hss with hss | hss <;> rw [hss]
      · exact Sessions.Evolves.refl _
      · exact Sessions.evolves_set hS (S.evolves_insert _)
    · rcases hfq with ⟨-, hinv⟩ | ⟨-, p, -, hinv⟩ <;> rw [hinv]
      · exact Invalidated.Subset.refl _
      · split_ifs
        · exact Invalidated.subset_or _ _
        · exact Invalidated.Subset.refl _

/-! ### Popping packets -/

theorem coverSessions_mem {s : Mixnet E} {rel : RelSessionIndex} {S : Session E}
    (h : (rel, S) ∈ s.coverSessions) : s.sessions.get rel = .full S :=
  Sessions.mem_enumerate.mp (List.mem_filter.mp h).1

theorem chooseAuthoredSession_mem {s : Mixnet E} {rng rng' : E.Rng} {rel : RelSessionIndex}
    {S : Session E} (h : s.chooseAuthoredSession rng = some ((rel, S), rng')) :
    (rel, S) ∈ s.coverSessions := by
  unfold chooseAuthoredSession at h
  split at h
  · rename_i hc
    simp only [Option.some.injEq, Prod.mk.injEq] at h
    rw [hc, ← h.1]
    split <;> simp
  · rename_i hc
    simp only [Option.some.injEq, Prod.mk.injEq] at h
    rw [hc, ← h.1]
    simp
  · cases h

/-- What `pop_next_authored_packet` changes: at most the authored packet queue of the session it
picks, by one pop, and the flag of the next authored packet deadline, raised whenever it picks a
session. -/
theorem popNextAuthoredPacket_fields (s : Mixnet E) (ns : E.NetworkStatus) (rng : E.Rng) :
    let s' := (s.popNextAuthoredPacket ns rng).1
    s'.config = s.config ∧ s'.sessionStatus = s.sessionStatus ∧ s'.kxStore = s.kxStore ∧
      s'.forwardPacketQueue = s.forwardPacketQueue ∧ s'.surbKeystore = s.surbKeystore ∧
      s'.fragmentAssembler = s.fragmentAssembler ∧
      (s' = s ∨ (∃ rel S rng', s.chooseAuthoredSession rng = some ((rel, S), rng')) ∧
        s'.invalidated = s.invalidated ||| Invalidated.NEXT_AUTHORED_PACKET_DEADLINE ∧
        (s'.sessions = s.sessions ∨ ∃ rel S, s.sessions.get rel = .full S ∧
          s'.sessions = s.sessions.set rel
            (.full { S with authoredPacketQueue := S.authoredPacketQueue.pop.1 }))) := by
  unfold popNextAuthoredPacket
  split
  · exact ⟨rfl, rfl, rfl, rfl, rfl, rfl, .inl rfl⟩
  · rename_i rel S rng' hc
    have hS := coverSessions_mem (chooseAuthoredSession_mem hc)
    have hchosen : ∃ rel S rng', s.chooseAuthoredSession rng = some ((rel, S), rng') :=
      ⟨rel, S, rng', hc⟩
    dsimp only
    split
    · exact ⟨rfl, rfl, rfl, rfl, rfl, rfl, .inr ⟨hchosen, rfl, .inl rfl⟩⟩
    · split
      · rename_i queue packet hp
        have hq : queue = S.authoredPacketQueue.pop.1 := by
          split at hp
          · exact (congrArg Prod.fst (Option.some.inj hp)).symm
          · cases hp
        exact ⟨rfl, rfl, rfl, rfl, rfl, rfl,
          .inr ⟨hchosen, rfl, .inr ⟨rel, S, hS, by rw [hq]; rfl⟩⟩⟩
      · exact ⟨rfl, rfl, rfl, rfl, rfl, rfl, .inr ⟨hchosen, rfl, .inl rfl⟩⟩

/-- `pop_next_authored_packet` only pops an authored packet queue and raises a flag. -/
theorem popNextAuthoredPacket_frame (s : Mixnet E) (ns : E.NetworkStatus) (rng : E.Rng) :
    let s' := (s.popNextAuthoredPacket ns rng).1
    s'.config = s.config ∧ s'.sessionStatus = s.sessionStatus ∧ s'.kxStore = s.kxStore ∧
      s.sessions.Evolves s'.sessions ∧ s.invalidated.Subset s'.invalidated ∧
      s'.forwardPacketQueue = s.forwardPacketQueue := by
  obtain ⟨h1, h2, h3, h4, -, -, h⟩ := popNextAuthoredPacket_fields s ns rng
  refine ⟨h1, h2, h3, ?_, ?_, h4⟩
  · rcases h with h | ⟨-, -, h | ⟨rel, S, hS, h⟩⟩ <;> rw [h]
    · exact Sessions.Evolves.refl _
    · exact Sessions.Evolves.refl _
    · exact Sessions.evolves_set hS (S.evolves_queue _ (AuthoredPacketQueue.pop_capacity _))
  · rcases h with h | ⟨-, h, -⟩ <;> rw [h]
    · exact Invalidated.Subset.refl _
    · exact Invalidated.subset_or _ _

/-! ### Posting -/

theorem postSession_ok {sessions : Sessions E} {status : SessionStatus} {index : SessionIndex}
    {rel : RelSessionIndex} {S : Session E}
    (h : postSession sessions status index = .ok (rel, S)) : sessions.get rel = .full S := by
  unfold postSession at h
  split at h
  · cases h
  · split at h
    · cases h
    · split at h
      · cases h
      · cases h
      · rename_i hg; cases h; exact hg

@[simp] theorem setSession_sessions (s : Mixnet E) (rel : RelSessionIndex) (S : Session E) :
    (s.setSession rel S).sessions = s.sessions.set rel (.full S) := rfl

theorem setSession_get (s : Mixnet E) (rel : RelSessionIndex) (S : Session E) :
    (s.setSession rel S).sessions.get rel = .full S := by
  simp

theorem popLast_eq_some {α : Type} {l l' : List α} {a : α} (h : popLast l = some (a, l')) :
    l = l' ++ [a] := by
  obtain ⟨a', ha, he⟩ := Option.map_eq_some'.mp h
  cases he
  exact (List.dropLast_append_getLast? a ha).symm

/-- `post_request`'s loop pushes one packet per fragment it builds: every fragment when it
returns `Ok`, fewer when a fragment fails to build. -/
theorem buildPackets_queue (rb : E.RequestBuilder) (numHops : ℕ) :
    ∀ (bps : List E.FragmentBlueprint) (st : RequestLoop E),
      ∃ packets : List (AddressedPacket E.PeerId E.Packet),
        (buildPackets rb numHops bps st).2.queue = ⟨st.queue.capacity, st.queue.queue ++ packets⟩ ∧
        ((buildPackets rb numHops bps st).1 = .ok () → packets.length = bps.length) ∧
        ∀ e, (buildPackets rb numHops bps st).1 = .error e →
          packets.length < bps.length ∧ ∃ te, e = .topology te
  | [], st => ⟨[], by simp [buildPackets], fun _ => rfl, fun _ => nofun⟩
  | bp :: bps, st => by
    unfold buildPackets
    split
    · exact ⟨[], by simp, nofun, fun _ h => ⟨by simp, _, (Except.error.inj h).symm⟩⟩
    · rename_i packet _ _ _ _ _
      obtain ⟨packets, hq, hok, herr⟩ := buildPackets_queue rb numHops bps _
      refine ⟨packet :: packets, by rw [hq]; simp, fun h => by simp [hok h], fun e h => ?_⟩
      obtain ⟨hlt, hte⟩ := herr e h
      exact ⟨by simpa using hlt, hte⟩

/-- `post_reply`'s loop pops one SURB per fragment it reaches and pushes one packet per fragment
it completes: on `Ok` as many of both as there are fragments; on an error the SURB of the failing
fragment is consumed and its packet is not pushed. -/
theorem completeReplies_queue (topology : E.Topology) :
    ∀ {bps : List E.FragmentBlueprint} {q q' : AuthoredPacketQueue E} {surbs surbs' : List E.Surb}
      {res : Except (PostErr E.TopologyErr) Unit},
      completeReplies topology bps q surbs = some (res, q', surbs') →
      ∃ (packets : List (AddressedPacket E.PeerId E.Packet)) (used : List E.Surb),
        q' = ⟨q.capacity, q.queue ++ packets⟩ ∧ surbs = surbs' ++ used ∧
        (res = .ok () → packets.length = bps.length ∧ used.length = bps.length) ∧
        ∀ e, res = .error e → packets.length < bps.length ∧ used.length = packets.length + 1 ∧
          (e = .badSurb ∨ ∃ te, e = .topology te)
  | [], q, q', surbs, surbs', res, h => by
    cases h
    exact ⟨[], [], by simp, by simp, fun _ => ⟨rfl, rfl⟩, fun _ => nofun⟩
  | bp :: bps, q, q', surbs, surbs', res, h => by
    simp only [completeReplies, Option.bind_eq_bind, Option.bind_eq_some] at h
    obtain ⟨⟨surb, rest⟩, hpop, h⟩ := h
    have hs := popLast_eq_some hpop
    split at h
    · cases h
      exact ⟨[], [surb], by simp, hs, nofun,
        fun _ h => ⟨by simp, rfl, .inl (Except.error.inj h).symm⟩⟩
    · split at h
      · cases h
        exact ⟨[], [surb], by simp, hs, nofun,
          fun _ h => ⟨by simp, rfl, .inr ⟨_, (Except.error.inj h).symm⟩⟩⟩
      · rename_i packet _ _ peerId _
        obtain ⟨packets, used, hq, hsu, hok, herr⟩ := completeReplies_queue topology h
        dsimp only at hsu
        refine ⟨⟨peerId, packet⟩ :: packets, used ++ [surb], by simp [hq], by simp [hs, hsu],
          fun h => ?_, fun e h => ?_⟩
        · simp [hok h]
        · obtain ⟨hlt, hused, he⟩ := herr e h
          simp only [List.length_cons, List.length_append, List.length_nil]
          exact ⟨by omega, by omega, he⟩

/-- `post_request` returns `e` before its fragment loop: the message has no fragment blueprints
or more than `max_fragments_per_message` of them (`TooManyFragments`), `post_session` fails with
`e`, the queue of the session has no room for the fragments (`NotEnoughSpaceInQueue`), or
`RequestBuilder::new` fails (`Topology`). -/
def RequestRejected (s : Mixnet E) (destination : Option MixnodeId) (data : List UInt8)
    (numSurbs : ℕ) (ns : E.NetworkStatus) (rng : E.Rng) (e : PostErr E.TopologyErr) : Prop :=
  (∀ bps, E.fragmentBlueprints (E.fillMessageId rng).1 data numSurbs = some bps →
      s.config.maxFragmentsPerMessage < bps.length) ∧ e = .tooManyFragments ∨
  ∃ bps sessionIndex, E.fragmentBlueprints (E.fillMessageId rng).1 data numSurbs = some bps ∧
    bps.length ≤ s.config.maxFragmentsPerMessage ∧
    s.requestSessionIndex destination = some sessionIndex ∧
    (postSession s.sessions s.sessionStatus sessionIndex = .error e ∨
      ∃ rel S, postSession s.sessions s.sessionStatus sessionIndex = .ok (rel, S) ∧
        (S.authoredPacketQueue.remainingCapacity < bps.length ∧ e = .notEnoughSpaceInQueue ∨
          bps.length ≤ S.authoredPacketQueue.remainingCapacity ∧
            ∃ te, E.requestBuilderNew (E.fillMessageId rng).2 S.topology ns
              (destination.map (·.mixnodeIndex)) = .error te ∧ e = .topology te))

/-- What `post_request` can do: return an error before its fragment loop, changing nothing, or
run the loop on the authored packet queue of the session it posts to and on the SURB keystore,
and write both back whatever the loop returns. `*destination` is written only on `Ok`. -/
theorem postRequest_eq_some {s s' : Mixnet E} {destination destination' : Option MixnodeId}
    {data : List UInt8} {numSurbs : ℕ} {ns : E.NetworkStatus} {rng : E.Rng}
    {res : Except (PostErr E.TopologyErr) Duration}
    (h : s.postRequest destination data numSurbs ns rng = some (s', destination', res)) :
    (s' = s ∧ destination' = destination ∧
      ∃ e, res = .error e ∧ s.RequestRejected destination data numSurbs ns rng e) ∨
    ∃ bps sessionIndex rel S rb rng' res' st,
      E.fragmentBlueprints (E.fillMessageId rng).1 data numSurbs = some bps ∧
      bps.length ≤ s.config.maxFragmentsPerMessage ∧
      s.requestSessionIndex destination = some sessionIndex ∧
      postSession s.sessions s.sessionStatus sessionIndex = .ok (rel, S) ∧
      bps.length ≤ S.authoredPacketQueue.remainingCapacity ∧
      E.requestBuilderNew (E.fillMessageId rng).2 S.topology ns (destination.map (·.mixnodeIndex)) =
        .ok (rb, rng') ∧
      buildPackets rb s.config.numHops bps ⟨S.authoredPacketQueue, s.surbKeystore, 0, 0, rng'⟩ =
        (res', st) ∧
      s' = { s.setSession rel { S with authoredPacketQueue := st.queue } with
        surbKeystore := st.surbKeystore } ∧
      ((res' = .ok () ∧ destination' = some ⟨sessionIndex, E.destinationIndex rb⟩ ∧
          res = .ok (E.delayToDuration (st.maxRequestDelay + st.maxReplyDelay)
            s.config.meanForwardingDelay)) ∨
        ∃ e, res' = .error e ∧ destination' = destination ∧ res = .error e) := by
  unfold postRequest at h
  simp only [Option.pure_def, Option.bind_eq_bind] at h
  split at h
  · rename_i hf
    cases h
    exact .inl ⟨rfl, rfl, _, rfl, .inl ⟨fun bps hb => Nat.lt_of_not_le fun hle =>
      Option.noConfusion (hf.symm.trans (Option.filter_eq_some.mpr ⟨hb, decide_eq_true hle⟩)),
      rfl⟩⟩
  rename_i bps hbps
  obtain ⟨hbps, hmax⟩ := Option.filter_eq_some.mp hbps
  replace hmax := of_decide_eq_true hmax
  obtain ⟨sessionIndex, hsi, h⟩ := Option.bind_eq_some.mp h
  split at h
  · rename_i e hS
    cases h; exact .inl ⟨rfl, rfl, _, rfl, .inr ⟨bps, sessionIndex, hbps, hmax, hsi, .inl hS⟩⟩
  rename_i rel S hS
  split at h
  · rename_i hcap
    cases h
    exact .inl ⟨rfl, rfl, _, rfl,
      .inr ⟨bps, sessionIndex, hbps, hmax, hsi, .inr ⟨rel, S, hS, .inl ⟨hcap, rfl⟩⟩⟩⟩
  rename_i hcap
  split at h
  · rename_i te hrb
    cases h
    exact .inl ⟨rfl, rfl, _, rfl, .inr ⟨bps, sessionIndex, hbps, hmax, hsi,
      .inr ⟨rel, S, hS, .inr ⟨Nat.le_of_not_gt hcap, te, hrb, rfl⟩⟩⟩⟩
  rename_i rb rng' hrb
  refine .inr ⟨bps, sessionIndex, rel, S, rb, rng', _, _, hbps, hmax, hsi, hS,
    Nat.le_of_not_gt hcap, hrb, rfl, ?_⟩
  split at h
  · rename_i e hres
    cases h; exact ⟨rfl, .inr ⟨e, hres, rfl, rfl⟩⟩
  · rename_i hres
    cases h; exact ⟨rfl, .inl ⟨hres, rfl, rfl⟩⟩

/-- `post_reply` returns `e` before its fragment loop: the message has no fragment blueprints or
more than `min(max_fragments_per_message, surbs.len())` of them (`TooManyFragments`),
`post_session` fails with `e`, or the queue of the session has no room for the fragments
(`NotEnoughSpaceInQueue`). -/
def ReplyRejected (s : Mixnet E) (surbs : List E.Surb) (sessionIndex : SessionIndex)
    (messageId : E.MessageId) (data : List UInt8) (e : PostErr E.TopologyErr) : Prop :=
  (∀ bps, E.fragmentBlueprints messageId data 0 = some bps →
      min s.config.maxFragmentsPerMessage surbs.length < bps.length) ∧ e = .tooManyFragments ∨
  ∃ bps, E.fragmentBlueprints messageId data 0 = some bps ∧
    bps.length ≤ s.config.maxFragmentsPerMessage ∧ bps.length ≤ surbs.length ∧
    (postSession s.sessions s.sessionStatus sessionIndex = .error e ∨
      ∃ rel S, postSession s.sessions s.sessionStatus sessionIndex = .ok (rel, S) ∧
        S.authoredPacketQueue.remainingCapacity < bps.length ∧ e = .notEnoughSpaceInQueue)

/-- What `post_reply` can do: return an error before its fragment loop, changing nothing, or run
the loop on the authored packet queue of the session it posts to and on `surbs`, and write both
back whatever the loop returns; `none` is the loop's panic. -/
theorem postReply_eq_some {s s' : Mixnet E} {surbs surbs' : List E.Surb}
    {sessionIndex : SessionIndex} {messageId : E.MessageId} {data : List UInt8}
    {res : Except (PostErr E.TopologyErr) Unit}
    (h : s.postReply surbs sessionIndex messageId data = some (s', surbs', res)) :
    (s' = s ∧ surbs' = surbs ∧
      ∃ e, res = .error e ∧ s.ReplyRejected surbs sessionIndex messageId data e) ∨
    ∃ bps rel S q,
      E.fragmentBlueprints messageId data 0 = some bps ∧
      bps.length ≤ s.config.maxFragmentsPerMessage ∧ bps.length ≤ surbs.length ∧
      postSession s.sessions s.sessionStatus sessionIndex = .ok (rel, S) ∧
      bps.length ≤ S.authoredPacketQueue.remainingCapacity ∧
      completeReplies S.topology bps S.authoredPacketQueue surbs = some (res, q, surbs') ∧
      s' = s.setSession rel { S with authoredPacketQueue := q } := by
  unfold postReply at h
  split at h
  · rename_i hf
    cases h
    exact .inl ⟨rfl, rfl, _, rfl, .inl ⟨fun bps hb => Nat.lt_of_not_le fun hle =>
      Option.noConfusion (hf.symm.trans (Option.filter_eq_some.mpr ⟨hb, decide_eq_true hle⟩)),
      rfl⟩⟩
  rename_i bps hbps
  obtain ⟨hbps, hmax⟩ := Option.filter_eq_some.mp hbps
  have hmax := Nat.le_min.mp (of_decide_eq_true hmax)
  split at h
  · rename_i e hS
    cases h; exact .inl ⟨rfl, rfl, _, rfl, .inr ⟨bps, hbps, hmax.1, hmax.2, .inl hS⟩⟩
  rename_i rel S hS
  split at h
  · rename_i hcap
    cases h
    exact .inl ⟨rfl, rfl, _, rfl, .inr ⟨bps, hbps, hmax.1, hmax.2, .inr ⟨rel, S, hS, hcap, rfl⟩⟩⟩
  rename_i hcap
  obtain ⟨⟨res', q, surbs''⟩, hc, h⟩ := Option.map_eq_some'.mp h
  cases h
  exact .inr ⟨bps, rel, S, q, hbps, hmax.1, hmax.2, hS, Nat.le_of_not_gt hcap, hc, rfl⟩

/-- `post_request` only changes the authored packet queue of the session it posts to and the
SURB keystore. -/
theorem postRequest_frame {s s' : Mixnet E} {destination destination' : Option MixnodeId}
    {data : List UInt8} {numSurbs : ℕ} {ns : E.NetworkStatus} {rng : E.Rng}
    {res : Except (PostErr E.TopologyErr) Duration}
    (h : s.postRequest destination data numSurbs ns rng = some (s', destination', res)) :
    s'.config = s.config ∧ s'.sessionStatus = s.sessionStatus ∧ s'.kxStore = s.kxStore ∧
      s.sessions.Evolves s'.sessions ∧ s'.invalidated = s.invalidated ∧
      s'.forwardPacketQueue = s.forwardPacketQueue ∧
      s'.fragmentAssembler = s.fragmentAssembler := by
  rcases postRequest_eq_some h with ⟨rfl, -⟩ | ⟨bps, _, rel, S, rb, rng', _, st, -, -, -, hS, -, -,
    hb, rfl, -⟩
  · exact ⟨rfl, rfl, rfl, Sessions.Evolves.refl _, rfl, rfl, rfl⟩
  · obtain ⟨packets, hq, -⟩ := buildPackets_queue rb s.config.numHops bps
      ⟨S.authoredPacketQueue, s.surbKeystore, 0, 0, rng'⟩
    rw [hb] at hq
    exact ⟨rfl, rfl, rfl, Sessions.evolves_set (postSession_ok hS)
      (S.evolves_queue _ (by rw [hq])), rfl, rfl, rfl⟩

/-- `post_reply` only changes the authored packet queue of the session it posts to. -/
theorem postReply_frame {s s' : Mixnet E} {surbs surbs' : List E.Surb}
    {sessionIndex : SessionIndex} {messageId : E.MessageId} {data : List UInt8}
    {res : Except (PostErr E.TopologyErr) Unit}
    (h : s.postReply surbs sessionIndex messageId data = some (s', surbs', res)) :
    s'.config = s.config ∧ s'.sessionStatus = s.sessionStatus ∧ s'.kxStore = s.kxStore ∧
      s.sessions.Evolves s'.sessions ∧ s'.invalidated = s.invalidated ∧
      s'.forwardPacketQueue = s.forwardPacketQueue ∧
      s'.fragmentAssembler = s.fragmentAssembler ∧ s'.surbKeystore = s.surbKeystore := by
  rcases postReply_eq_some h with ⟨rfl, -⟩ | ⟨_, rel, S, q, -, -, -, hS, -, hc, rfl⟩
  · exact ⟨rfl, rfl, rfl, Sessions.Evolves.refl _, rfl, rfl, rfl, rfl⟩
  · obtain ⟨packets, used, rfl, -⟩ := completeReplies_queue S.topology hc
    exact ⟨rfl, rfl, rfl, Sessions.evolves_set (postSession_ok hS) (S.evolves_queue _ rfl), rfl,
      rfl, rfl, rfl⟩

end Mixnet

/-! ### Steps that keep the sessions -/

theorem KxPublicStore.publicForSession_sessions {st : KxPublicStore} {i j : SessionIndex}
    (hj : j ∈ st.sessions) : j ∈ (st.publicForSession (E := E) i).1.sessions := by
  unfold KxPublicStore.publicForSession
  split_ifs <;> simp [hj]

/-- A public key is returned only for a session whose key pair the store then holds. -/
theorem KxPublicStore.publicForSession_some {st : KxPublicStore} {i : SessionIndex}
    {k : E.KxPublic} (h : (st.publicForSession (E := E) i).2 = some k) :
    i ∈ (st.publicForSession (E := E) i).1.sessions ∧ k = E.sessionKxPublic i := by
  unfold KxPublicStore.publicForSession at h ⊢
  split_ifs at h ⊢ <;> cases h <;> simp_all

/-- The operations that neither add, drop nor move a session. -/
def Op.keepsSessions : Op E → Bool
  | .setSessionStatus _ | .maybeSetMixnodes .. => false
  | _ => true

/-- A step by an operation that keeps the sessions keeps the configuration and the session
status, lets the sessions evolve, and keeps every key pair of the public key-exchange store. -/
theorem Mixnet.step_keepsSessions {s s' : Mixnet E} {op : Op E} (h : s.step op = some s')
    (hop : op.keepsSessions) :
    s'.config = s.config ∧ s'.sessionStatus = s.sessionStatus ∧ s.sessions.Evolves s'.sessions ∧
      ∀ i ∈ s.kxStore.public.sessions, i ∈ s'.kxStore.public.sessions := by
  have hrefl := Sessions.Evolves.refl s.sessions
  cases op with
  | setSessionStatus | maybeSetMixnodes => cases hop
  | handlePacket packet now =>
    obtain ⟨⟨s'', m⟩, h', rfl⟩ := Option.map_eq_some'.mp h
    obtain ⟨h1, h2, h3, h4, -⟩ := Mixnet.handlePacket_frame h'
    exact ⟨h1, h2, h4, by rw [h3]; exact fun _ h => h⟩
  | popNextForwardPacket => cases h; exact ⟨rfl, rfl, hrefl, fun _ h => h⟩
  | popNextAuthoredPacket ns rng =>
    obtain ⟨-, rfl⟩ := Mixnet.step_popNextAuthoredPacket h
    obtain ⟨h1, h2, h3, h4, -⟩ := Mixnet.popNextAuthoredPacket_frame s ns rng
    exact ⟨h1, h2, h4, by rw [h3]; exact fun _ h => h⟩
  | postRequest =>
    obtain ⟨⟨s'', d, r⟩, h', rfl⟩ := Option.map_eq_some'.mp h
    obtain ⟨h1, h2, h3, h4, -⟩ := Mixnet.postRequest_frame h'
    exact ⟨h1, h2, h4, by rw [h3]; exact fun _ h => h⟩
  | postReply =>
    obtain ⟨⟨s'', d, r⟩, h', rfl⟩ := Option.map_eq_some'.mp h
    obtain ⟨h1, h2, h3, h4, -⟩ := Mixnet.postReply_frame h'
    exact ⟨h1, h2, h4, by rw [h3]; exact fun _ h => h⟩
  | takeInvalidated => cases h; exact ⟨rfl, rfl, hrefl, fun _ h => h⟩
  | publicForSession i =>
    cases h
    exact ⟨rfl, rfl, hrefl, fun _ h => KxPublicStore.publicForSession_sessions h⟩

end MixnetCore
