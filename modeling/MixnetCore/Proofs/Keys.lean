import MixnetCore.Proofs.Replay

/-!
# Erasure of session keys

When `set_session_status` changes the status it calls
`kx_store.discard_sessions_before(min_needed_rel_session_index + current_index)`: the keys of the
sessions the new phase no longer needs are dropped. They stay dropped. The public store raises its
threshold to the index and refuses to generate a key pair below it again, a later
`discard_sessions_before` never lowers the threshold, `add_pending_session_secrets` only takes
what the public store holds, and no other operation touches a key.

`KxStore.Erased b` says this of one store: every key it holds is of a session `b` or later, and
the threshold is at least `b`. Each operation of the store keeps it (`Erased.discardSessionsBefore`,
`Erased.addPendingSessionSecrets`, `Erased.publicForSession`), so each step of the engine does
(`Mixnet.step_kxStore`, `Mixnet.step_erased`) and so does every run (`Mixnet.run_erased`). A
status change sets it up (`Mixnet.setSessionStatus_erased`), and from there on `handle_packet`
peels no packet under a dropped key (`session_keys_erased`), and `maybe_set_mixnodes` never
builds a session whose key was dropped, even when the status moves back to it
(`discarded_sessions_stay_down`).

The other way round, no key is dropped too early. `KeysAhead` says that the threshold of the
public store is at most the index of every session `maybe_set_mixnodes` may still build: a status
change raises it only to the oldest session the new phase needs, and a previous slot that is
empty afterwards belongs to that phase (`Mixnet.sessionsAfter_empty`). Every step that does not
lower the session index keeps it (`Mixnet.KeysAhead.step`), so along such runs
`maybe_set_mixnodes` disables a slot only for too few mixnodes or for want of session settings,
never for discarded keys (`needed_session_keys_kept`).
-/

namespace MixnetCore

variable {E : Env}

namespace KxStore

/-- The keys of the sessions before `b` are gone from `ks` and cannot come back: the public store
refuses every session before `b`. -/
structure Erased (b : SessionIndex) (ks : KxStore) : Prop where
  threshold : b ≤ ks.public.discardedSessionsBefore
  public : ∀ j ∈ ks.public.sessions, b ≤ j
  secrets : ∀ j ∈ ks.sessionSecrets, b ≤ j

variable {ks : KxStore} {b : SessionIndex}

/-- `discard_sessions_before(b)` erases the keys before `b`. -/
theorem discardSessionsBefore_erased (ks : KxStore) (b : SessionIndex) :
    (ks.discardSessionsBefore b).Erased b where
  threshold := by
    dsimp only [discardSessionsBefore]
    split_ifs with h
    exacts [h, BitVec.le_refl b]
  public _ hj := of_decide_eq_true (List.mem_filter.mp hj).2
  secrets _ hj := of_decide_eq_true (List.mem_filter.mp hj).2

/-- A later `discard_sessions_before` never lowers the threshold. -/
theorem Erased.discardSessionsBefore (h : ks.Erased b) (i : SessionIndex) :
    (ks.discardSessionsBefore i).Erased b where
  threshold := by
    have := h.threshold
    dsimp only [KxStore.discardSessionsBefore]
    split_ifs <;> bv_omega
  public j hj := h.public j (List.mem_filter.mp hj).1
  secrets j hj := h.secrets j (List.mem_filter.mp hj).1

/-- `add_pending_session_secrets` takes only the secrets the public store holds. -/
theorem Erased.addPendingSessionSecrets (h : ks.Erased b) : ks.addPendingSessionSecrets.Erased b :=
  ⟨h.threshold, h.public, h.public⟩

/-- `public_for_session` generates a key pair only at or above the threshold. -/
theorem Erased.publicForSession (h : ks.Erased b) (i : SessionIndex) :
    ({ ks with public := (ks.public.publicForSession (E := E) i).1 } : KxStore).Erased b where
  threshold := by
    unfold KxPublicStore.publicForSession
    split_ifs <;> exact h.threshold
  public j hj := by
    unfold KxPublicStore.publicForSession at hj
    split_ifs at hj with hi
    · exact h.public j hj
    · exact h.public j hj
    · rcases List.mem_cons.mp hj with rfl | hj
      · have := h.threshold
        bv_omega
      · exact h.public j hj
  secrets := h.secrets

/-- Below the threshold `public_for_session` returns `None`. -/
theorem Erased.publicForSession_none (h : ks.Erased b) {j : SessionIndex} (hj : j < b) :
    (ks.public.publicForSession (E := E) j).2 = none := by
  have := h.threshold
  unfold KxPublicStore.publicForSession
  rw [if_pos (by bv_omega)]

/-- A later `discard_sessions_before` raises the threshold no further than its own index. -/
theorem discardSessionsBefore_threshold_le {i j : SessionIndex}
    (h : ks.public.discardedSessionsBefore ≤ j) (hi : i ≤ j) :
    (ks.discardSessionsBefore i).public.discardedSessionsBefore ≤ j := by
  dsimp only [discardSessionsBefore]
  split_ifs <;> assumption

end KxStore

namespace KxPublicStore

/-- `public_for_session` never moves the threshold. -/
theorem publicForSession_threshold (st : KxPublicStore) (i : SessionIndex) :
    (st.publicForSession (E := E) i).1.discardedSessionsBefore = st.discardedSessionsBefore := by
  unfold publicForSession
  split_ifs <;> rfl

/-- At or above the threshold `public_for_session` returns the session's public key. -/
theorem publicForSession_of_threshold_le (st : KxPublicStore) {i : SessionIndex}
    (h : st.discardedSessionsBefore ≤ i) :
    (st.publicForSession (E := E) i).2 = some (E.sessionKxPublic i) := by
  unfold publicForSession
  rw [if_neg (by bv_omega)]

end KxPublicStore

namespace Mixnet

/-- `set_mixnodes` touches the key-exchange store only through `public_for_session`. -/
theorem setMixnodes_kxStore (s : Mixnet E) (rel : RelSessionIndex) (i : SessionIndex)
    (mixnodes : List E.Mixnode) (rng : E.Rng) :
    (s.setMixnodes rel i mixnodes rng).kxStore = s.kxStore ∨
      (s.setMixnodes rel i mixnodes rng).kxStore =
        { s.kxStore with public := (s.kxStore.public.publicForSession (E := E) i).1 } := by
  unfold setMixnodes
  split
  · exact .inl rfl
  · right
    rcases s.kxStore.public.publicForSession (E := E) i with ⟨public, _ | k⟩
    · rfl
    · dsimp only
      split <;> rfl

/-- What a step does to the key-exchange store: nothing, take the pending secrets, drop the keys
before an index, or generate the key pair of one session. -/
theorem step_kxStore {s s' : Mixnet E} {op : Op E} (h : s.step op = some s') :
    s'.kxStore = s.kxStore ∨ s'.kxStore = s.kxStore.addPendingSessionSecrets ∨
      (∃ status i, op = .setSessionStatus status ∧
        s'.kxStore = s.kxStore.discardSessionsBefore i) ∨
      ∃ i, s'.kxStore =
        { s.kxStore with public := (s.kxStore.public.publicForSession (E := E) i).1 } := by
  cases op with
  | setSessionStatus status =>
    rcases setSessionStatus_eq_some h with ⟨-, rfl⟩ | ⟨-, i, -, rfl⟩
    exacts [.inl rfl, .inr (.inr (.inl ⟨status, i, rfl, rfl⟩))]
  | maybeSetMixnodes rel mixnodes rng =>
    obtain ⟨⟨s'', r⟩, h', rfl⟩ := Option.map_eq_some'.mp h
    rcases maybeSetMixnodes_eq_some h' with rfl | ⟨-, i, ms, -, rfl⟩
    · exact .inl rfl
    · exact (setMixnodes_kxStore s rel i ms rng).imp_right fun h => .inr (.inr ⟨i, h⟩)
  | handlePacket packet now =>
    obtain ⟨⟨s'', m⟩, h', rfl⟩ := Option.map_eq_some'.mp h
    exact .inr (.inl (handlePacket_frame h').2.2.1)
  | popNextForwardPacket => cases h; exact .inl rfl
  | popNextAuthoredPacket ns rng =>
    obtain ⟨-, rfl⟩ := Mixnet.step_popNextAuthoredPacket h
    exact .inl (popNextAuthoredPacket_frame s ns rng).2.2.1
  | postRequest =>
    obtain ⟨⟨s'', d, r⟩, h', rfl⟩ := Option.map_eq_some'.mp h
    exact .inl (postRequest_frame h').2.2.1
  | postReply =>
    obtain ⟨⟨s'', d, r⟩, h', rfl⟩ := Option.map_eq_some'.mp h
    exact .inl (postReply_frame h').2.2.1
  | takeInvalidated => cases h; exact .inl rfl
  | publicForSession i => cases h; exact .inr (.inr (.inr ⟨i, rfl⟩))

variable {b : SessionIndex}

theorem step_erased {s s' : Mixnet E} {op : Op E} (hk : s.kxStore.Erased b)
    (h : s.step op = some s') : s'.kxStore.Erased b := by
  rcases step_kxStore h with h | h | ⟨-, i, -, h⟩ | ⟨i, h⟩ <;> rw [h]
  exacts [hk, hk.addPendingSessionSecrets, hk.discardSessionsBefore i, hk.publicForSession i]

theorem run_erased {s s' : Mixnet E} {ops : List (Op E)} (hk : s.kxStore.Erased b)
    (h : s.run ops = some s') : s'.kxStore.Erased b := by
  induction ops generalizing s with
  | nil => cases h; exact hk
  | cons op ops ih =>
    rw [run_cons, Option.bind_eq_some] at h
    obtain ⟨s₁, h₁, h⟩ := h
    exact ih (step_erased hk h₁) h

/-- A status change drops the keys before the oldest session the new phase needs. -/
theorem setSessionStatus_erased {s s' : Mixnet E} {status : SessionStatus}
    (h : s.setSessionStatus status = some s') (hne : s.sessionStatus ≠ status)
    (hb : (if status.phase.needPrev then RelSessionIndex.prev else .current).add
      status.currentIndex = some b) :
    s'.kxStore.Erased b := by
  rcases setSessionStatus_eq_some h with ⟨heq, -⟩ | ⟨-, before, hbefore, rfl⟩
  · exact absurd heq hne
  · cases hb.symm.trans hbefore
    exact KxStore.discardSessionsBefore_erased _ _

/-- With the keys before `b` erased, `handle_packet` peels packets only under sessions `b` or
later. -/
theorem findPeeled_of_erased {s : Mixnet E} {packet : E.Packet} {rel : RelSessionIndex}
    {S : Session E} {j : SessionIndex} {action : Action E.Target E.SurbId} {out : E.Packet}
    (hk : s.kxStore.Erased b)
    (h : s.addPendingSessionSecrets.findPeeled packet s.sessions.enumerate =
      some (.peeled rel S j action out)) : b ≤ j := by
  obtain ⟨-, hp⟩ := findPeeled_peeled h
  obtain ⟨-, -, -, -, k, hex, -⟩ := peelAttempt_peeled hp
  unfold KxStore.sessionExchange at hex
  split_ifs at hex with hj
  exact hk.addPendingSessionSecrets.secrets j hj

/-- Without a key pair for session `i`, `set_mixnodes` disables the slot. -/
theorem setMixnodes_of_publicForSession_none (s : Mixnet E) (rel : RelSessionIndex)
    {i : SessionIndex} (mixnodes : List E.Mixnode) (rng : E.Rng)
    (h : (s.kxStore.public.publicForSession (E := E) i).2 = none) :
    (s.setMixnodes rel i mixnodes rng).sessions.get rel = .disabled := by
  unfold setMixnodes
  split
  · simp
  · rcases hp : s.kxStore.public.publicForSession (E := E) i with ⟨public, _ | k⟩
    · simp
    · rw [hp] at h
      cases h

/-- With the keys before `b` erased, `maybe_set_mixnodes` for a slot of a session before `b`
leaves the slot as it is or disables it: it never builds the session. -/
theorem maybeSetMixnodes_of_erased {ε : Type} {s s' : Mixnet E} {rel : RelSessionIndex}
    {mixnodes : Except ε (List E.Mixnode)} {rng : E.Rng} {res : Except ε Unit}
    (hk : s.kxStore.Erased b)
    (hj : ∀ j, rel.add s.sessionStatus.currentIndex = some j → j < b)
    (h : s.maybeSetMixnodes rel mixnodes rng = some (s', res)) :
    s'.sessions.get rel = s.sessions.get rel ∨ s'.sessions.get rel = .disabled := by
  rcases maybeSetMixnodes_eq_some h with rfl | ⟨-, i, ms, hi, rfl⟩
  · exact .inl rfl
  · exact .inr (s.setMixnodes_of_publicForSession_none rel ms rng
      (hk.publicForSession_none (hj i hi)))

/-! ### Keys that are still needed -/

/-- A step by an operation that keeps the sessions keeps the threshold of the public store. -/
theorem step_threshold {s s' : Mixnet E} {op : Op E} (h : s.step op = some s')
    (hop : op.keepsSessions) :
    s'.kxStore.public.discardedSessionsBefore = s.kxStore.public.discardedSessionsBefore := by
  rcases step_kxStore h with h | h | ⟨status, -, rfl, -⟩ | ⟨i, h⟩
  · rw [h]
  · rw [h]; rfl
  · cases hop
  · rw [h]; exact KxPublicStore.publicForSession_threshold _ _

/-- An empty slot after a status change is not the previous slot of a phase that disables it,
and if the index stayed, the slot was empty before. -/
theorem sessionsAfter_empty {ss : Sessions E} {old status : SessionStatus} {r : RelSessionIndex}
    (h : (sessionsAfter ss old status).get r = .empty) :
    (r = .prev → status.phase.needPrev = true) ∧
      (old.currentIndex = status.currentIndex → ss.get r = .empty) := by
  unfold sessionsAfter at h
  constructor
  · rintro rfl
    cases hp : status.phase.needPrev
    · simp [hp] at h
    · rfl
  · intro hc
    simp only [hc, ne_eq, not_true_eq_false, if_false] at h
    split at h
    · cases r
      · exact h
      · cases h
    · exact h

/-- The key pair of every session `maybe_set_mixnodes` may build can still be generated: the
threshold of the public store is at most the current session index and at most the session index
of every empty slot. -/
structure KeysAhead (s : Mixnet E) : Prop where
  current : s.kxStore.public.discardedSessionsBefore ≤ s.sessionStatus.currentIndex
  empty : ∀ r i, s.sessions.get r = .empty → r.add s.sessionStatus.currentIndex = some i →
    s.kxStore.public.discardedSessionsBefore ≤ i

theorem keysAhead_new (config : Config) {kxPublicStore : KxPublicStore}
    (h : kxPublicStore.discardedSessionsBefore = 0) :
    KeysAhead (Mixnet.new config kxPublicStore : Mixnet E) :=
  have h0 (i : SessionIndex) : kxPublicStore.discardedSessionsBefore ≤ i := by rw [h]; bv_omega
  ⟨h0 _, fun _ i _ _ => h0 i⟩

theorem KeysAhead.keepsSessions {s s' : Mixnet E} (h : KeysAhead s)
    (hstatus : s'.sessionStatus = s.sessionStatus) (hev : s.sessions.Evolves s'.sessions)
    (hthr : s'.kxStore.public.discardedSessionsBefore =
      s.kxStore.public.discardedSessionsBefore) : KeysAhead s' := by
  refine ⟨?_, fun r i hr hi => ?_⟩ <;> rw [hthr, hstatus] at *
  · exact h.current
  · exact h.empty r i (SessionSlot.Evolves.empty_right (hr ▸ hev r)) hi

/-- A status change that does not lower the index discards no key an empty slot needs: the new
threshold is the oldest session the phase needs, and an empty previous slot after it is needed
by the phase and is either new, of the session before a higher index, or was empty before. -/
theorem KeysAhead.setSessionStatus {s s' : Mixnet E} {status : SessionStatus} (h : KeysAhead s)
    (hs : s.setSessionStatus status = some s')
    (hmono : s.sessionStatus.currentIndex ≤ status.currentIndex) : KeysAhead s' := by
  rcases setSessionStatus_eq_some hs with ⟨-, rfl⟩ | ⟨-, before, hb, rfl⟩
  · exact h
  have hc := h.current
  refine ⟨KxStore.discardSessionsBefore_threshold_le (BitVec.le_trans hc hmono)
    (RelSessionIndex.le_of_add hb), fun r i hr hi => ?_⟩
  obtain ⟨hprev, hsame⟩ := sessionsAfter_empty hr
  refine KxStore.discardSessionsBefore_threshold_le ?_ (le_of_minNeeded hb hi hprev)
  by_cases hidx : s.sessionStatus.currentIndex = status.currentIndex
  · exact h.empty r i (hsame hidx) (hidx ▸ hi)
  · rcases RelSessionIndex.add_eq_some.mp hi with ⟨-, rfl⟩ | ⟨-, -, rfl⟩ <;> bv_omega

theorem KeysAhead.maybeSetMixnodes {ε : Type} {s s' : Mixnet E} {rel : RelSessionIndex}
    {mixnodes : Except ε (List E.Mixnode)} {rng : E.Rng} {res : Except ε Unit} (h : KeysAhead s)
    (hs : s.maybeSetMixnodes rel mixnodes rng = some (s', res)) : KeysAhead s' := by
  rcases maybeSetMixnodes_eq_some hs with rfl | ⟨-, j, ms, -, rfl⟩
  · exact h
  obtain ⟨-, hstatus, -, -, -, -, hother, hrel⟩ := s.setMixnodes_slots rel j ms rng
  have hthr : (s.setMixnodes rel j ms rng).kxStore.public.discardedSessionsBefore =
      s.kxStore.public.discardedSessionsBefore := by
    rcases setMixnodes_kxStore s rel j ms rng with hk | hk <;> rw [hk]
    exact KxPublicStore.publicForSession_threshold _ _
  refine ⟨?_, fun r i hr hi => ?_⟩ <;> rw [hthr, hstatus] at *
  · exact h.current
  · by_cases hrr : r = rel
    · subst hrr
      rcases hrel with ⟨hd, -⟩ | ⟨S, hd, -⟩ <;> rw [hr] at hd <;> cases hd
    · exact h.empty r i (hother r hrr ▸ hr) hi

/-- Every step that does not lower the session index keeps the invariant. -/
theorem KeysAhead.step {s s' : Mixnet E} {op : Op E} (h : KeysAhead s)
    (hs : s.step op = some s') (hmono : s.nondecreasingAt op = true) : KeysAhead s' := by
  cases op with
  | setSessionStatus status => exact h.setSessionStatus hs (of_decide_eq_true hmono)
  | maybeSetMixnodes rel mixnodes rng =>
    obtain ⟨⟨s'', res⟩, hm, rfl⟩ := Option.map_eq_some'.mp hs
    exact h.maybeSetMixnodes hm
  | _ =>
    obtain ⟨-, hstatus, hev, -⟩ := step_keepsSessions hs rfl
    exact h.keepsSessions hstatus hev (step_threshold hs rfl)

theorem KeysAhead.run {s s' : Mixnet E} (h : KeysAhead s) :
    ∀ {ops : List (Op E)}, s.run ops = some s' → s.indicesNondecreasing ops = true →
      KeysAhead s'
  | [], hrun, _ => by cases hrun; exact h
  | op :: ops, hrun, hmono => by
    rw [run_cons, Option.bind_eq_some] at hrun
    obtain ⟨t, ht, hrun⟩ := hrun
    simp only [indicesNondecreasing, ht, Option.all_some, Bool.and_eq_true] at hmono
    exact (h.step ht hmono.1).run hrun hmono.2

/-- `maybe_set_mixnodes` for an empty slot calls `set_mixnodes` with what the producer returns. -/
theorem maybeSetMixnodes_of_empty {ε : Type} (s : Mixnet E) {rel : RelSessionIndex}
    {i : SessionIndex} (h : s.sessions.get rel = .empty)
    (hi : rel.add s.sessionStatus.currentIndex = some i) (mixnodes : List E.Mixnode)
    (rng : E.Rng) :
    s.maybeSetMixnodes rel (.ok mixnodes : Except ε _) rng =
      some (s.setMixnodes rel i mixnodes rng, .ok ()) := by
  simp [maybeSetMixnodes, h, hi, SessionSlot.isEmpty]

/-- With the session's key pair at hand, `set_mixnodes` disables the slot only for too few
mixnodes, or when the local node is not a mixnode of the topology it builds and the configuration
has no session settings for such a node. -/
theorem setMixnodes_disabled {s : Mixnet E} {rel : RelSessionIndex} {i : SessionIndex}
    {mixnodes : List E.Mixnode} {rng : E.Rng} {k : E.KxPublic}
    (hk : (s.kxStore.public.publicForSession (E := E) i).2 = some k)
    (h : (s.setMixnodes rel i mixnodes rng).sessions.get rel = .disabled) :
    mixnodes.length < s.config.minMixnodes ∨
      E.isMixnode (E.topologyNew rng (mixnodes.take (E.maxMixnodeIndex + 1)) k
        s.config.numGatewayMixnodes) = false ∧ s.config.nonMixnodeSession = none := by
  have htake : (if mixnodes.length > E.maxMixnodeIndex + 1 then
      mixnodes.take (E.maxMixnodeIndex + 1) else mixnodes) =
      mixnodes.take (E.maxMixnodeIndex + 1) := by
    split_ifs with hl
    · rfl
    · exact (List.take_of_length_le (Nat.le_of_not_gt hl)).symm
  unfold setMixnodes at h
  split at h
  · exact .inl ‹_›
  · right
    rcases hp : s.kxStore.public.publicForSession (E := E) i with ⟨public, _ | k'⟩
    · rw [hp] at hk; cases hk
    · rw [hp] at hk h
      obtain rfl : k' = k := Option.some.inj hk
      dsimp only at h
      rw [htake] at h
      split at h
      · rename_i hc
        split_ifs at hc with hm
        exact ⟨Bool.eq_false_iff.mpr hm, hc⟩
      · simp [setSession, Sessions.get_set] at h

end Mixnet

/-- **Dropped session keys stay dropped.** After `set_session_status` changes the status, let `b`
be the index of the oldest session the new phase needs. In the state after any later run, no key
pair and no secret of a session before `b` is held, `public_for_session` refuses to generate one,
and `handle_packet` peels no packet under one. -/
theorem session_keys_erased {s s₁ s₂ : Mixnet E} {status : SessionStatus} {b : SessionIndex}
    {ops : List (Op E)} (hs : s.setSessionStatus status = some s₁)
    (hne : s.sessionStatus ≠ status)
    (hb : (if status.phase.needPrev then RelSessionIndex.prev else .current).add
      status.currentIndex = some b)
    (hrun : s₁.run ops = some s₂) :
    ∀ j, j < b → j ∉ s₂.kxStore.public.sessions ∧ j ∉ s₂.kxStore.sessionSecrets ∧
      (s₂.kxStore.public.publicForSession (E := E) j).2 = none ∧
      ∀ packet rel S action out, s₂.addPendingSessionSecrets.findPeeled packet
        s₂.sessions.enumerate ≠ some (.peeled rel S j action out) := by
  have hk := Mixnet.run_erased (Mixnet.setSessionStatus_erased hs hne hb) hrun
  intro j hj
  refine ⟨fun hm => ?_, fun hm => ?_, hk.publicForSession_none hj,
    fun packet rel S action out hp => ?_⟩
  · have := hk.public j hm
    bv_omega
  · have := hk.secrets j hm
    bv_omega
  · have := Mixnet.findPeeled_of_erased hk hp
    bv_omega

/-- The fresh engine's first status change, to session `5` with the previous session
disconnected, drops every key before session `5`. -/
theorem session_keys_erased_first_status :
    ∃ s₁ : Mixnet Env.basic,
      (Mixnet.new Config.example KxPublicStore.new).setSessionStatus ⟨5, .disconnectFromPrev⟩ =
        some s₁ ∧
      ∀ j, j < 5 → j ∉ s₁.kxStore.public.sessions ∧ j ∉ s₁.kxStore.sessionSecrets ∧
        (s₁.kxStore.public.publicForSession (E := Env.basic) j).2 = none ∧
        ∀ packet rel S action out, s₁.addPendingSessionSecrets.findPeeled packet
          s₁.sessions.enumerate ≠ some (.peeled rel S j action out) :=
  ⟨_, rfl, @session_keys_erased Env.basic (.new Config.example KxPublicStore.new) _ _
    ⟨5, .disconnectFromPrev⟩ 5 [] rfl (by decide) rfl rfl⟩

/-- **A session whose keys were dropped is never brought up again.** After `set_session_status`
changes the status, with `b` the index of the oldest session the new phase needs, no later
`maybe_set_mixnodes` builds a session before `b`, even after the status has moved back to such a
session: for a slot of a session before `b` it leaves the slot as it is or disables it ("mixnet
will not be available"). -/
theorem discarded_sessions_stay_down {ε : Type} {s s₁ s₂ s₃ : Mixnet E} {status : SessionStatus}
    {b : SessionIndex} {ops : List (Op E)} {rel : RelSessionIndex}
    {mixnodes : Except ε (List E.Mixnode)} {rng : E.Rng} {res : Except ε Unit}
    (hs : s.setSessionStatus status = some s₁) (hne : s.sessionStatus ≠ status)
    (hb : (if status.phase.needPrev then RelSessionIndex.prev else .current).add
      status.currentIndex = some b)
    (hrun : s₁.run ops = some s₂)
    (hj : ∀ j, rel.add s₂.sessionStatus.currentIndex = some j → j < b)
    (h : s₂.maybeSetMixnodes rel mixnodes rng = some (s₃, res)) :
    s₃.sessions.get rel = s₂.sessions.get rel ∨ s₃.sessions.get rel = .disabled :=
  Mixnet.maybeSetMixnodes_of_erased
    (Mixnet.run_erased (Mixnet.setSessionStatus_erased hs hne hb) hrun) hj h

/-- A fresh engine moved to session `5`, then back to session `3`: `maybe_set_mixnodes` disables
the current slot of session `3` even though the producer returns enough mixnodes. -/
theorem discarded_sessions_stay_down_back_to_three :
    ∃ s₁ s₂ s₃ : Mixnet Env.basic,
      (Mixnet.new Config.example KxPublicStore.new).setSessionStatus ⟨5, .disconnectFromPrev⟩ =
        some s₁ ∧
      s₁.run [.setSessionStatus ⟨3, .disconnectFromPrev⟩] = some s₂ ∧
      s₂.maybeSetMixnodes .current (.ok [0, 0, 0] : Except String (List ℕ)) 0 =
        some (s₃, .ok ()) ∧
      s₂.sessions.get .current = .empty ∧
      (s₃.sessions.get .current = s₂.sessions.get .current ∨
        s₃.sessions.get .current = .disabled) :=
  ⟨_, _, _, rfl, rfl, rfl, rfl,
    @discarded_sessions_stay_down Env.basic String (.new Config.example KxPublicStore.new) _ _ _
      ⟨5, .disconnectFromPrev⟩ 5 [.setSessionStatus ⟨3, .disconnectFromPrev⟩] .current
      (.ok [0, 0, 0]) 0 (.ok ()) rfl (by decide) rfl rfl
      (fun j hj => by
        rw [RelSessionIndex.add_current] at hj
        cases hj
        decide) rfl⟩

/-- **No key is discarded before its session is built, while the session index does not go
back.** Along any run from `Mixnet::new` with a public store that has discarded nothing, in which
`set_session_status` never lowers the session index, `maybe_set_mixnodes` never finds the keys of
a session it is to build discarded: for every empty slot the public store still generates the
session's key pair, and `maybe_set_mixnodes` disables the slot only for too few mixnodes, or when
the local node is not a mixnode of the topology it builds and the configuration has no session
settings for such a node. -/
theorem needed_session_keys_kept {config : Config} {kxPublicStore : KxPublicStore}
    {ops : List (Op E)} {s : Mixnet E} (h0 : kxPublicStore.discardedSessionsBefore = 0)
    (hrun : (Mixnet.new config kxPublicStore : Mixnet E).run ops = some s)
    (hmono : (Mixnet.new config kxPublicStore : Mixnet E).indicesNondecreasing ops = true)
    {r : RelSessionIndex} {i : SessionIndex} (hempty : s.sessions.get r = .empty)
    (hi : r.add s.sessionStatus.currentIndex = some i) :
    (s.kxStore.public.publicForSession (E := E) i).2 = some (E.sessionKxPublic i) ∧
      ∀ (ε : Type) (mixnodes : List E.Mixnode) rng s' (res : Except ε Unit),
        s.maybeSetMixnodes r (.ok mixnodes) rng = some (s', res) →
        s'.sessions.get r = .disabled →
        mixnodes.length < s.config.minMixnodes ∨
          E.isMixnode (E.topologyNew rng (mixnodes.take (E.maxMixnodeIndex + 1))
            (E.sessionKxPublic i) s.config.numGatewayMixnodes) = false ∧
          s.config.nonMixnodeSession = none := by
  have hk := ((Mixnet.keysAhead_new config h0).run hrun hmono).empty r i hempty hi
  have hpub := KxPublicStore.publicForSession_of_threshold_le (E := E) _ hk
  refine ⟨hpub, fun ε mixnodes rng s' res h hd => ?_⟩
  rw [s.maybeSetMixnodes_of_empty hempty hi, Option.some.injEq, Prod.mk.injEq] at h
  rw [← h.1] at hd
  exact Mixnet.setMixnodes_disabled hpub hd

/-- A fresh engine moved to session `5` with the previous session disconnected, then on to
session `6`: the previous slot, of session `5`, is empty, and the key pair of session `5` can
still be generated. -/
theorem needed_session_keys_kept_next_session :
    ∃ s : Mixnet Env.basic,
      (Mixnet.new Config.example KxPublicStore.new).run
          [.setSessionStatus ⟨5, .disconnectFromPrev⟩, .setSessionStatus ⟨6, .connectToCurrent⟩] =
        some s ∧ s.sessions.get .prev = .empty ∧
      (s.kxStore.public.publicForSession (E := Env.basic) 5).2 =
        some (Env.basic.sessionKxPublic 5) ∧
      ∀ (ε : Type) (mixnodes : List ℕ) rng s' (res : Except ε Unit),
        s.maybeSetMixnodes .prev (.ok mixnodes) rng = some (s', res) →
        s'.sessions.get .prev = .disabled →
        mixnodes.length < s.config.minMixnodes ∨
          Env.basic.isMixnode (Env.basic.topologyNew rng
            (mixnodes.take (Env.basic.maxMixnodeIndex + 1)) (Env.basic.sessionKxPublic 5)
            s.config.numGatewayMixnodes) = false ∧
          s.config.nonMixnodeSession = none :=
  ⟨_, rfl, rfl, @needed_session_keys_kept Env.basic Config.example KxPublicStore.new
    [.setSessionStatus ⟨5, .disconnectFromPrev⟩, .setSessionStatus ⟨6, .connectToCurrent⟩] _ rfl
    rfl rfl .prev 5 rfl rfl⟩

end MixnetCore
