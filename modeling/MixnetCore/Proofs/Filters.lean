import MixnetCore.Proofs.Bounds
import MixnetCore.Proofs.Replay

/-!
# What the replay filters hold

`handle_packet` inserts a packet's key into a session's replay filter only when the packet has
peeled under that session's secret to a packet to forward or a request, and only after checking
that the local node is a mixnode of the session ("to avoid inserting anything into the replay
filters for sessions where we are not a mixnode"); never for a reply (`Mixnet.InsertsKey`).
`maybe_set_mixnodes` builds every session with an empty filter, `set_session_status` moves a
session between slots only with its index, and the other operations touch only authored packet
queues. So a key in a filter after a step was in the filter of the same session before it, or the
step is a `handle_packet` call that inserted it (`Mixnet.step_filter_key`).

Two results follow. Along every run from `Mixnet::new` every key in the filter of a session was
inserted by a `handle_packet` call of the run that accepted a packet with that key in that
session, so `handle_packet` drops a packet as replayed only when such a packet was accepted
before (`replay_drops_genuine`); and the filter of a session in which the local node is not a
mixnode is empty (`nonmixnode_filters_empty`).
-/

namespace MixnetCore

variable {E : Env}

namespace Mixnet

/-- The call `handle_packet(packet, _)` in the state `s` inserts the key of `packet` into the
replay filter of the session of index `i`: its search peels the packet in a full slot of index
`i` to a packet to forward or a request, the local node is a mixnode of that slot's session, and
a packet to forward finds room in the forward packet queue. -/
def InsertsKey (s : Mixnet E) (packet : E.Packet) (i : SessionIndex) : Prop :=
  ∃ rel S action out, s.addPendingSessionSecrets.findPeeled packet s.sessions.enumerate =
      some (.peeled rel S i action out) ∧ E.isMixnode S.topology ∧
    ((∃ target delay, action = .forwardTo target delay) ∧
        0 < s.forwardPacketQueue.remainingCapacity ∨ action = .deliverRequest)

/-- `set_mixnodes` disables the slot or builds a session with an empty replay filter. -/
theorem setMixnodes_sessions (s : Mixnet E) (rel : RelSessionIndex) (i : SessionIndex)
    (mixnodes : List E.Mixnode) (rng : E.Rng) :
    (s.setMixnodes rel i mixnodes rng).sessions = s.sessions.set rel .disabled ∨
      ∃ S : Session E, S.replayFilter = .new ∧
        (s.setMixnodes rel i mixnodes rng).sessions = s.sessions.set rel (.full S) := by
  unfold setMixnodes
  split
  · exact .inl rfl
  · rcases s.kxStore.public.publicForSession (E := E) i with ⟨public, _ | k⟩
    · exact .inl rfl
    · dsimp only
      split
      · exact .inl rfl
      · exact .inr ⟨_, rfl, rfl⟩

/-- The `match action` of `handle_packet` changes a session only by inserting into its replay
filter, for a packet to forward that finds room in the forward packet queue or for a request,
and only when the local node is one of its mixnodes. -/
theorem handleAction_sessions (s : Mixnet E) (packet : E.Packet) (now : Instant)
    (rel : RelSessionIndex) (S : Session E) (i : SessionIndex) (out : E.Packet)
    (action : Action E.Target E.SurbId) :
    (s.handleAction packet now rel S i out action).1.sessions = s.sessions ∨
      E.isMixnode S.topology ∧
      ((∃ target delay, action = .forwardTo target delay) ∧
          0 < s.forwardPacketQueue.remainingCapacity ∨ action = .deliverRequest) ∧
      (s.handleAction packet now rel S i out action).1.sessions =
        s.sessions.set rel
          (.full { S with replayFilter := S.replayFilter.insert (E.kxPublic packet) }) := by
  cases action with
  | forwardTo target delay =>
    simp only [handleAction]
    split_ifs with hm hc
    · exact .inl rfl
    · exact .inl rfl
    · exact .inr ⟨by simpa using hm, .inl ⟨⟨target, delay, rfl⟩, Nat.pos_of_ne_zero hc⟩,
        by split <;> rfl⟩
  | deliverRequest =>
    simp only [handleAction]
    split_ifs with hm
    · exact .inl rfl
    · exact .inr ⟨by simpa using hm, .inr trivial, rfl⟩
  | deliverReply X =>
    left
    simp only [handleAction]
    split
    · rfl
    · split <;> rfl
  | deliverCover => exact .inl rfl

/-- A step that keeps the session status and changes at most the authored packet queue of one
full session leaves every key in the filter of the same session. -/
theorem filter_key_of_queue {s s' : Mixnet E} (hst : s'.sessionStatus = s.sessionStatus)
    (hss : s'.sessions = s.sessions ∨ ∃ rel T q, s.sessions.get rel = .full T ∧
      s'.sessions = s.sessions.set rel (.full { T with authoredPacketQueue := q }))
    {r : RelSessionIndex} {S : Session E} (hS : s'.sessions.get r = .full S) {k : E.KxPublic}
    (hk : k ∈ S.replayFilter.publics) :
    ∃ r₀ S₀, s.sessions.get r₀ = .full S₀ ∧ S₀.topology = S.topology ∧
      k ∈ S₀.replayFilter.publics ∧
      ∀ i, r.add s'.sessionStatus.currentIndex = some i →
        r₀.add s.sessionStatus.currentIndex = some i := by
  rw [hst]
  rcases hss with hss | ⟨rel, T, q, hT, hss⟩ <;> rw [hss] at hS
  · exact ⟨r, S, hS, rfl, hk, fun _ => id⟩
  · rw [Sessions.get_set] at hS
    split_ifs at hS with hr
    · cases hS
      exact ⟨rel, T, hT, rfl, hk, hr ▸ fun _ => id⟩
    · exact ⟨r, S, hS, rfl, hk, fun _ => id⟩

/-- **Where a key in a replay filter comes from.** A key in the filter of the session of a full
slot after a step was in the filter of a session with the same topology and session index before
it, or the step is a `handle_packet` call that inserted the key of its packet into that session's
filter, and the local node is a mixnode of that session. -/
theorem step_filter_key {s s' : Mixnet E} {op : Op E} (hs : s.step op = some s')
    {r : RelSessionIndex} {S : Session E} (hS : s'.sessions.get r = .full S) {k : E.KxPublic}
    (hk : k ∈ S.replayFilter.publics) :
    (∃ r₀ S₀, s.sessions.get r₀ = .full S₀ ∧ S₀.topology = S.topology ∧
        k ∈ S₀.replayFilter.publics ∧
        ∀ i, r.add s'.sessionStatus.currentIndex = some i →
          r₀.add s.sessionStatus.currentIndex = some i) ∨
      ∃ packet now, op = .handlePacket packet now ∧ E.kxPublic packet = k ∧
        E.isMixnode S.topology ∧
        ∀ i, r.add s'.sessionStatus.currentIndex = some i → s.InsertsKey packet i := by
  cases op with
  | setSessionStatus status =>
    rcases setSessionStatus_eq_some hs with ⟨-, rfl⟩ | ⟨-, before, -, rfl⟩
    · exact .inl (filter_key_of_queue rfl (.inl rfl) hS hk)
    · obtain ⟨r₀, hS₀, hidx, -⟩ := sessionsAfter_full hS
      exact .inl ⟨r₀, S, hS₀, rfl, hk, fun i hi => hidx.symm.trans hi⟩
  | maybeSetMixnodes rel mixnodes rng =>
    obtain ⟨⟨s'', res⟩, hm, rfl⟩ := Option.map_eq_some'.mp hs
    rcases maybeSetMixnodes_eq_some hm with rfl | ⟨-, i, ms, -, rfl⟩
    · exact .inl (filter_key_of_queue rfl (.inl rfl) hS hk)
    obtain ⟨-, hst, -, -, -, -, hother, -⟩ := s.setMixnodes_slots rel i ms rng
    by_cases hr : r = rel
    · subst hr
      rcases s.setMixnodes_sessions r i ms rng with hss | ⟨S', hS', hss⟩ <;>
        rw [hss, Sessions.get_set, if_pos rfl] at hS <;> cases hS
      rw [hS'] at hk
      cases hk
    · rw [hother r hr] at hS
      exact .inl ⟨r, S, hS, rfl, hk, fun _ hi => by rwa [hst] at hi⟩
  | handlePacket packet now =>
    obtain ⟨⟨s'', m⟩, hh, rfl⟩ := Option.map_eq_some'.mp hs
    obtain ⟨-, ha, ⟨-, rfl, -⟩ | ⟨rel, T, i, action, out, rfl, -, rfl, -⟩⟩ :=
      handlePacket_eq_some hh
    · exact .inl (filter_key_of_queue rfl (.inl rfl) hS hk)
    obtain ⟨hT, hi, -⟩ := findPeeled_peeled_spec ha
    obtain ⟨-, hst, -⟩ :=
      handleAction_fields s.addPendingSessionSecrets packet now rel T i out action
    rcases handleAction_sessions s.addPendingSessionSecrets packet now rel T i out action with
      hss | ⟨hmix, hact, hss⟩
    · exact .inl (filter_key_of_queue hst (.inl hss) hS hk)
    rw [hss, Sessions.get_set] at hS
    split_ifs at hS with hr
    · subst hr
      cases hS
      rcases List.mem_cons.mp hk with rfl | hk
      · refine .inr ⟨packet, now, rfl, rfl, hmix, fun j hj => ?_⟩
        rw [hst] at hj
        obtain rfl := Option.some.inj (hj.symm.trans hi)
        exact ⟨r, T, action, out, ha, hmix, hact⟩
      · exact .inl ⟨r, T, hT, rfl, hk, fun _ hj => by rwa [hst] at hj⟩
    · exact .inl ⟨r, S, hS, rfl, hk, fun _ hj => by rwa [hst] at hj⟩
  | popNextForwardPacket => cases hs; exact .inl (filter_key_of_queue rfl (.inl rfl) hS hk)
  | popNextAuthoredPacket ns rng =>
    obtain ⟨-, rfl⟩ := Mixnet.step_popNextAuthoredPacket hs
    obtain ⟨-, hst, -, -, -, -, hss | ⟨-, -, hss | ⟨rel, T, hT, hss⟩⟩⟩ :=
      popNextAuthoredPacket_fields s ns rng
    · exact .inl (filter_key_of_queue hst (.inl (congrArg Mixnet.sessions hss)) hS hk)
    · exact .inl (filter_key_of_queue hst (.inl hss) hS hk)
    · exact .inl (filter_key_of_queue hst (.inr ⟨rel, T, _, hT, hss⟩) hS hk)
  | postRequest =>
    obtain ⟨⟨s'', d, res⟩, hp, rfl⟩ := Option.map_eq_some'.mp hs
    refine .inl (filter_key_of_queue (postRequest_frame hp).2.1 ?_ hS hk)
    rcases postRequest_pushes hp with ⟨hss, -⟩ | ⟨-, rel, T, _, -, hT, -, -, -, hss⟩
    · exact .inl hss
    · exact .inr ⟨rel, T, _, hT, hss⟩
  | postReply =>
    obtain ⟨⟨s'', surbs', res⟩, hp, rfl⟩ := Option.map_eq_some'.mp hs
    refine .inl (filter_key_of_queue (postReply_frame hp).2.1 ?_ hS hk)
    rcases postReply_pushes hp with ⟨hss, -⟩ | ⟨-, rel, T, _, -, hT, -, -, -, hss⟩
    · exact .inl hss
    · exact .inr ⟨rel, T, _, hT, hss⟩
  | takeInvalidated => cases hs; exact .inl (filter_key_of_queue rfl (.inl rfl) hS hk)
  | publicForSession => cases hs; exact .inl (filter_key_of_queue rfl (.inl rfl) hS hk)

/-- A key in the filter of a session after a run was in the filter of a session of the same
index at its start, or was inserted into that session's filter by a `handle_packet` call of the
run. -/
theorem run_filter_key {s₀ s : Mixnet E} :
    ∀ {ops : List (Op E)}, s₀.run ops = some s → ∀ r S i, s.sessions.get r = .full S →
      r.add s.sessionStatus.currentIndex = some i → ∀ k ∈ S.replayFilter.publics,
      (∃ r₀ S₀, s₀.sessions.get r₀ = .full S₀ ∧ r₀.add s₀.sessionStatus.currentIndex = some i ∧
          k ∈ S₀.replayFilter.publics) ∨
        ∃ packet now s₁, s₀.Calls ops (.handlePacket packet now) s₁ ∧ E.kxPublic packet = k ∧
          s₁.InsertsKey packet i
  | [], h, r, S, i, hS, hi, k, hk => by cases h; exact .inl ⟨r, S, hS, hi, hk⟩
  | op :: ops, h, r, S, i, hS, hi, k, hk => by
    rw [run_cons, Option.bind_eq_some] at h
    obtain ⟨s₁, h₁, h⟩ := h
    rcases run_filter_key h r S i hS hi k hk with
      ⟨r₁, S₁, hS₁, hi₁, hk₁⟩ | ⟨packet, now, t, hc, hpk, hins⟩
    · rcases step_filter_key h₁ hS₁ hk₁ with
        ⟨r₀, S₀, hS₀, -, hk₀, hidx⟩ | ⟨packet, now, rfl, hpk, -, hins⟩
      · exact .inl ⟨r₀, S₀, hS₀, hidx i hi₁, hk₀⟩
      · exact .inr ⟨packet, now, s₀, calls_head s₀ _ ops, hpk, hins i hi₁⟩
    · exact .inr ⟨packet, now, t, hc.cons h₁, hpk, hins⟩

/-- One attempt of the search of `handle_packet` finds a replay only when the session's filter
holds the packet's key. -/
theorem peelAttempt_replayed {s : Mixnet E} {packet : E.Packet} {rel : RelSessionIndex}
    {S : Session E} (h : s.peelAttempt packet rel S = some .replayed) :
    E.kxPublic packet ∈ S.replayFilter.publics := by
  unfold peelAttempt at h
  split at h
  · rename_i hc
    simpa [ReplayFilter.contains] using hc
  · cases hj : rel.add s.sessionStatus.currentIndex with
    | none => simp [hj] at h
    | some j =>
      simp only [hj, Option.map_some', Option.some.injEq] at h
      split at h
      · cases h
      · split at h <;> cases h

/-- The search of `handle_packet` stops at a replay only at a listed session whose filter holds
the packet's key. -/
theorem findPeeled_replayed {s : Mixnet E} {packet : E.Packet} :
    ∀ {l : List (RelSessionIndex × Session E)}, s.findPeeled packet l = some .replayed →
      ∃ r S, (r, S) ∈ l ∧ E.kxPublic packet ∈ S.replayFilter.publics
  | [], h => by cases h
  | (r, S) :: l, h => by
    simp only [findPeeled, Option.bind_eq_bind, Option.bind_eq_some] at h
    obtain ⟨a, ha, h⟩ := h
    cases a with
    | next =>
      obtain ⟨r', S', hm, hk⟩ := findPeeled_replayed h
      exact ⟨r', S', List.mem_cons_of_mem _ hm, hk⟩
    | replayed => exact ⟨r, S, List.mem_cons_self _ _, peelAttempt_replayed ha⟩
    | _ => cases h

end Mixnet

/-- Every key in the replay filter of a full slot belongs to a session the local node mixes
in. -/
theorem Reachable.filters_mixnode {s : Mixnet E} (h : Reachable E s) :
    ∀ r S, s.sessions.get r = .full S → ∀ k ∈ S.replayFilter.publics, E.isMixnode S.topology := by
  induction h with
  | new config kxPublicStore => intro r S hS; cases r <;> cases hS
  | step _ _ hs ih =>
    intro r S hS k hk
    rcases Mixnet.step_filter_key hs hS hk with ⟨r₀, S₀, hS₀, htop, hk₀, -⟩ | ⟨-, -, -, -, hmix, -⟩
    · exact htop ▸ ih r₀ S₀ hS₀ k hk₀
    · exact hmix

/-- **Only sessions the local node mixes in use a replay filter.** In every reachable state the
replay filter of a session in which the local node is not a mixnode is empty. -/
theorem nonmixnode_filters_empty {s : Mixnet E} (h : Reachable E s) {r : RelSessionIndex}
    {S : Session E} (hS : s.sessions.get r = .full S) (hm : E.isMixnode S.topology = false) :
    S.replayFilter.publics = [] :=
  List.eq_nil_iff_forall_not_mem.mpr fun k hk =>
    Bool.noConfusion (hm.symm.trans (h.filters_mixnode r S hS k hk))

/-- Collaborators under which the local node is never a mixnode. -/
@[reducible] def Env.neverMixnode : Env := { Env.basic with isMixnode := fun _ => false }

/-- A fresh engine that is not a mixnode of its current session, once `maybe_set_mixnodes` has
built it with the configuration's non-mixnode session settings. -/
theorem nonmixnode_filters_empty_current :
    let s : Mixnet Env.neverMixnode :=
      (Mixnet.new Config.example KxPublicStore.new).setMixnodes .current 0 [0, 0, 0] 0
    Reachable Env.neverMixnode s ∧ ∃ S, s.sessions.get .current = .full S ∧
      Env.neverMixnode.isMixnode S.topology = false ∧ S.replayFilter.publics = [] :=
  have hreach : Reachable Env.neverMixnode
      ((Mixnet.new Config.example KxPublicStore.new).setMixnodes .current 0 [0, 0, 0] 0) :=
    .step (.maybeSetMixnodes .current (.ok [0, 0, 0]) 0)
      (.new Config.example KxPublicStore.new) rfl
  ⟨hreach, _, rfl, rfl, nonmixnode_filters_empty (r := .current) hreach rfl rfl⟩

/-- **A replay drop is never spurious.** Along every run from `Mixnet::new`, every key in the
replay filter of the session of a full slot was inserted by a `handle_packet` call of the run
that accepted, in that session, a packet with that key: the packet peeled under the session's
key to a packet to forward or a request, and the local node is a mixnode of the session. So when
the search of `handle_packet` stops at "Packet key-exchange public key found in replay filter",
a packet with the same key was accepted in that session before. -/
theorem replay_drops_genuine {config : Config} {kxPublicStore : KxPublicStore}
    {ops : List (Op E)} {s : Mixnet E} (h : (Mixnet.new config kxPublicStore).run ops = some s) :
    (∀ r S i, s.sessions.get r = .full S → r.add s.sessionStatus.currentIndex = some i →
      ∀ k ∈ S.replayFilter.publics, ∃ packet now s₁,
        (Mixnet.new config kxPublicStore).Calls ops (.handlePacket packet now) s₁ ∧
          E.kxPublic packet = k ∧ s₁.InsertsKey packet i) ∧
    ∀ packet, s.addPendingSessionSecrets.findPeeled packet s.sessions.enumerate = some .replayed →
      ∃ r S i, s.sessions.get r = .full S ∧ r.add s.sessionStatus.currentIndex = some i ∧
        ∃ packet' now s₁,
          (Mixnet.new config kxPublicStore).Calls ops (.handlePacket packet' now) s₁ ∧
          E.kxPublic packet' = E.kxPublic packet ∧ s₁.InsertsKey packet' i := by
  have hkeys : ∀ r S i, s.sessions.get r = .full S → r.add s.sessionStatus.currentIndex = some i →
      ∀ k ∈ S.replayFilter.publics, ∃ packet now s₁,
        (Mixnet.new config kxPublicStore).Calls ops (.handlePacket packet now) s₁ ∧
          E.kxPublic packet = k ∧ s₁.InsertsKey packet i := fun r S i hS hi k hk =>
    (Mixnet.run_filter_key h r S i hS hi k hk).resolve_left fun ⟨r₀, _, hS₀, _⟩ => by
      cases r₀ <;> cases hS₀
  refine ⟨hkeys, fun packet hrep => ?_⟩
  obtain ⟨r, S, hmem, hk⟩ := Mixnet.findPeeled_replayed hrep
  have hS := Sessions.mem_enumerate.mp hmem
  obtain ⟨i, hi, -⟩ := ((Reachable.new config kxPublicStore).run h).slotsInvariant.built r S hS
  exact ⟨r, S, i, hS, hi, hkeys r S i hS hi _ hk⟩

/-- Packet `0`, forwarded in session `0`, comes again: the search of `handle_packet` stops at the
replay filter of the current session, into which the first call put packet `0`'s key. -/
theorem replay_drops_genuine_second_copy :
    let s₀ : Mixnet Env.peelsAtZero := Mixnet.new Config.example KxPublicStore.new
    let ops : List (Op Env.peelsAtZero) :=
      [.maybeSetMixnodes .current (.ok [0, 0, 0]) 0, .handlePacket 0 0]
    ∃ s, s₀.run ops = some s ∧
      s.addPendingSessionSecrets.findPeeled 0 s.sessions.enumerate = some .replayed ∧
      (∀ r S i, s.sessions.get r = .full S → r.add s.sessionStatus.currentIndex = some i →
        ∀ k ∈ S.replayFilter.publics, ∃ packet now s₁,
          s₀.Calls ops (.handlePacket packet now) s₁ ∧
            Env.peelsAtZero.kxPublic packet = k ∧ s₁.InsertsKey packet i) ∧
      ∀ packet, s.addPendingSessionSecrets.findPeeled packet s.sessions.enumerate = some .replayed →
        ∃ r S i, s.sessions.get r = .full S ∧ r.add s.sessionStatus.currentIndex = some i ∧
          ∃ packet' now s₁, s₀.Calls ops (.handlePacket packet' now) s₁ ∧
            Env.peelsAtZero.kxPublic packet' = Env.peelsAtZero.kxPublic packet ∧
            s₁.InsertsKey packet' i :=
  ⟨_, rfl, rfl, replay_drops_genuine rfl⟩

end MixnetCore
