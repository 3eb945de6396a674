import MixnetCore.Proofs.Frame

/-!
# The session slots

`SlotsInvariant` holds in every reachable state (`Reachable.slotsInvariant`):

* a full slot `r` holds a session built, as `maybe_set_mixnodes` builds one, for the session
  index `r + current_index`, whose key pair the key-exchange store still holds;
* when the phase no longer needs the previous session, the previous slot is disabled.

It rests on two facts about `set_session_status`: a full slot after it is a full slot before it
that denotes the same session index (`sessionsAfter_full`), and it discards no key at or after
the session index of a slot it keeps (`le_of_minNeeded`). In particular the previous slot is
never full in session `0` (`SlotsInvariant.currentIndex_ne_zero`).
-/

namespace MixnetCore

variable {E : Env}

/-! ### Session index arithmetic -/

/-- `saturating_sub(new, old) == 1`: `old` is the session before `new`. -/
theorem prev_add_of_saturatingSub {a b : SessionIndex} (h : saturatingSub a b = 1) :
    RelSessionIndex.prev.add a = some b := by
  unfold saturatingSub at h
  split at h
  · rw [RelSessionIndex.add_prev, if_neg (by bv_omega), Option.some.injEq]; bv_omega
  · exact absurd h (by decide)

/-- The threshold `set_session_status` discards keys before is at most the session index of any
slot it keeps. -/
theorem le_of_minNeeded {phase : SessionPhase} {c before i : SessionIndex} {r : RelSessionIndex}
    (hb : (if phase.needPrev then RelSessionIndex.prev else .current).add c = some before)
    (hi : r.add c = some i) (hr : r = .prev → phase.needPrev = true) : before ≤ i := by
  cases r with
  | current => cases hi; exact RelSessionIndex.le_of_add hb
  | prev => rw [if_pos (hr rfl), hi] at hb; cases hb; exact BitVec.le_refl _

/-! ### `set_session_status` and `maybe_set_mixnodes` -/

namespace Mixnet

theorem setSessionStatus_eq_some {s s' : Mixnet E} {status : SessionStatus}
    (h : s.setSessionStatus status = some s') :
    s.sessionStatus = status ∧ s' = s ∨
      s.sessionStatus ≠ status ∧ ∃ before,
        (if status.phase.needPrev then RelSessionIndex.prev else .current).add
          status.currentIndex = some before ∧
        s' = { s with
          sessions := sessionsAfter s.sessions s.sessionStatus status
          kxStore := s.kxStore.discardSessionsBefore before
          invalidated := s.invalidated ||| Invalidated.RESERVED_PEERS |||
            Invalidated.NEXT_AUTHORED_PACKET_DEADLINE
          sessionStatus := status } := by
  unfold setSessionStatus at h
  split at h
  · exact .inl ⟨‹_›, (Option.some.inj h).symm⟩
  · obtain ⟨before, hb, rfl⟩ := Option.map_eq_some'.mp h
    exact .inr ⟨‹_›, before, hb, rfl⟩

/-- A full slot after a status change holds a session that was in a full slot before, and both
slots denote the same session index. -/
theorem sessionsAfter_full {ss : Sessions E} {old status : SessionStatus} {r : RelSessionIndex}
    {S : Session E} (h : (sessionsAfter ss old status).get r = .full S) :
    ∃ r₀, ss.get r₀ = .full S ∧ r.add status.currentIndex = r₀.add old.currentIndex ∧
      (r = .prev → status.phase.needPrev = true) := by
  have shift : ∀ r, (if old.currentIndex ≠ status.currentIndex then
      if saturatingSub status.currentIndex old.currentIndex = 1 then ss.advanceByOne
      else Sessions.default else ss).get r = .full S →
      ∃ r₀, ss.get r₀ = .full S ∧ r.add status.currentIndex = r₀.add old.currentIndex := by
    intro r h
    split_ifs at h with hne hadv
    · cases r with
      | current => cases h
      | prev => exact ⟨.current, h, prev_add_of_saturatingSub hadv⟩
    · cases r <;> cases h
    · exact ⟨r, h, by rw [not_not.mp hne]⟩
  unfold sessionsAfter at h
  cases hp : status.phase.needPrev
  · simp only [hp, Bool.not_false, if_true] at h
    cases r with
    | current => exact (shift .current h).imp fun _ h => ⟨h.1, h.2, nofun⟩
    | prev => cases h
  · simp only [hp, Bool.not_true, Bool.false_eq_true, if_false] at h
    exact (shift r h).imp fun _ h => ⟨h.1, h.2, fun _ => rfl⟩

/-- On an advance of the session index by one, with the previous session still needed, the
current session becomes the previous one whole: topology, replay filter, authored packet queue
and period. -/
theorem setSessionStatus_advance {s s' : Mixnet E} {status : SessionStatus}
    (h : s.setSessionStatus status = some s')
    (hadv : status.currentIndex.toNat = s.sessionStatus.currentIndex.toNat + 1)
    (hp : status.phase.needPrev = true) :
    s'.sessions.prev = s.sessions.current ∧ s'.sessions.current = .empty := by
  rcases setSessionStatus_eq_some h with ⟨heq, -⟩ | ⟨-, before, -, rfl⟩
  · rw [heq] at hadv; omega
  · have hne : s.sessionStatus.currentIndex ≠ status.currentIndex := by
      intro h; rw [h] at hadv; omega
    have hsat : saturatingSub status.currentIndex s.sessionStatus.currentIndex = 1 := by
      unfold saturatingSub; rw [if_pos (by bv_omega)]; bv_omega
    simp [sessionsAfter, hne, hsat, hp, Sessions.advanceByOne]

theorem maybeSetMixnodes_eq_some {ε : Type} {s s' : Mixnet E} {rel : RelSessionIndex}
    {mixnodes : Except ε (List E.Mixnode)} {rng : E.Rng} {res : Except ε Unit}
    (h : s.maybeSetMixnodes rel mixnodes rng = some (s', res)) :
    s' = s ∨ s.sessions.get rel = .empty ∧ ∃ i ms, rel.add s.sessionStatus.currentIndex = some i ∧
      s' = s.setMixnodes rel i ms rng := by
  unfold maybeSetMixnodes at h
  split at h
  · exact .inl (Prod.ext_iff.mp (Option.some.inj h)).1.symm
  · rename_i hempty
    obtain ⟨i, hi, h⟩ := Option.map_eq_some'.mp h
    split at h
    · exact .inl (Prod.ext_iff.mp h).1.symm
    · refine .inr ⟨?_, i, _, hi, (Prod.ext_iff.mp h).1.symm⟩
      revert hempty; cases s.sessions.get rel <;> simp [SessionSlot.isEmpty]

end Mixnet

/-! ### The invariant -/

/-- `S` is a session `maybe_set_mixnodes` builds for session `i` under `config`: its topology is
built from at most `MAX_MIXNODE_INDEX + 1` mixnodes and session `i`'s local key-exchange public
key, and its period and queue capacity are those of the session configuration of its role. -/
def Session.BuiltFor (S : Session E) (config : Config) (i : SessionIndex) : Prop :=
  (∃ rng mixnodes, mixnodes.length ≤ E.maxMixnodeIndex + 1 ∧
    S.topology = E.topologyNew rng mixnodes (E.sessionKxPublic i) config.numGatewayMixnodes) ∧
  ∃ sc, (if E.isMixnode S.topology then some config.mixnodeSession
      else config.nonMixnodeSession) = some sc ∧
    S.meanAuthoredPacketPeriod = sc.meanAuthoredPacketPeriod ∧
    S.authoredPacketQueue.capacity = sc.authoredPacketQueueCapacity

theorem Session.BuiltFor.evolves {S S' : Session E} {config : Config} {i : SessionIndex}
    (h : S.BuiltFor config i) (hS : S.Evolves S') : S'.BuiltFor config i := by
  obtain ⟨⟨rng, ms, hms, ht⟩, sc, hsc, hp, hc⟩ := h
  exact ⟨⟨rng, ms, hms, hS.topology.trans ht⟩, sc, by rw [hS.topology]; exact hsc,
    hS.period.trans hp, hS.capacity.trans hc⟩

/-- The invariant of the session slots. -/
structure SlotsInvariant (s : Mixnet E) : Prop where
  /-- A full slot `r` holds a session built for session `r + current_index`, whose key pair the
  key-exchange store still holds. -/
  built : ∀ r S, s.sessions.get r = .full S → ∃ i, r.add s.sessionStatus.currentIndex = some i ∧
    S.BuiltFor s.config i ∧ i ∈ s.kxStore.public.sessions
  /-- When the phase no longer needs the previous session, its slot is disabled. -/
  prevDisabled : s.sessionStatus.phase.needPrev = false → s.sessions.prev = .disabled

/-- There is no previous session in session `0`: the previous slot is then never full. -/
theorem SlotsInvariant.currentIndex_ne_zero {s : Mixnet E} (h : SlotsInvariant s) {S : Session E}
    (hS : s.sessions.prev = .full S) : s.sessionStatus.currentIndex ≠ 0 := by
  intro h0
  obtain ⟨i, hi, -⟩ := h.built .prev S hS
  simp [RelSessionIndex.add_prev, h0] at hi

theorem slotsInvariant_new (config : Config) (kxPublicStore : KxPublicStore) :
    SlotsInvariant (Mixnet.new config kxPublicStore : Mixnet E) :=
  ⟨(fun r S h => by cases r <;> cases h), fun h => by simp [Mixnet.new, SessionPhase.needPrev] at h⟩

theorem SlotsInvariant.keepsSessions {s s' : Mixnet E} (h : SlotsInvariant s)
    (hconfig : s'.config = s.config) (hstatus : s'.sessionStatus = s.sessionStatus)
    (hev : s.sessions.Evolves s'.sessions)
    (hkx : ∀ i ∈ s.kxStore.public.sessions, i ∈ s'.kxStore.public.sessions) : SlotsInvariant s' := by
  refine ⟨fun r S' hS' => ?_, fun hp => ?_⟩
  · obtain ⟨S, hS, hev'⟩ := SessionSlot.Evolves.full_right (hS' ▸ hev r)
    obtain ⟨i, hi, hb, hk⟩ := h.built r S hS
    exact ⟨i, hstatus ▸ hi, hconfig ▸ hb.evolves hev', hkx i hk⟩
  · have := hev .prev
    rw [Sessions.get_prev, h.prevDisabled (hstatus ▸ hp), Sessions.get_prev] at this
    generalize s'.sessions.prev = slot at this ⊢
    cases this; rfl

theorem SlotsInvariant.setSessionStatus {s s' : Mixnet E} {status : SessionStatus}
    (h : SlotsInvariant s) (hs : s.setSessionStatus status = some s') : SlotsInvariant s' := by
  rcases Mixnet.setSessionStatus_eq_some hs with ⟨-, rfl⟩ | ⟨-, before, hb, rfl⟩
  · exact h
  refine ⟨fun r S hS => ?_, fun hp => ?_⟩
  · obtain ⟨r₀, hS₀, hidx, hr⟩ := Mixnet.sessionsAfter_full hS
    obtain ⟨i, hi, hbuilt, hk⟩ := h.built r₀ S hS₀
    rw [← hidx] at hi
    refine ⟨i, hi, hbuilt, ?_⟩
    simp only [KxStore.discardSessionsBefore, List.mem_filter, decide_eq_true_eq]
    exact ⟨hk, le_of_minNeeded hb hi hr⟩
  · simp [Mixnet.sessionsAfter, hp]

/-- What `maybe_set_mixnodes` changes once the producer has returned: the key-exchange public
store, which only gains key pairs, and the empty slot `rel`, which becomes disabled, or full with
a session built for session `i` and an empty queue, raising two flags. -/
theorem Mixnet.setMixnodes_slots (s : Mixnet E) (rel : RelSessionIndex) (i : SessionIndex)
    (ms : List E.Mixnode) (rng : E.Rng) :
    let s' := s.setMixnodes rel i ms rng
    s'.config = s.config ∧ s'.sessionStatus = s.sessionStatus ∧
      s'.forwardPacketQueue = s.forwardPacketQueue ∧ s'.surbKeystore = s.surbKeystore ∧
      s'.fragmentAssembler = s.fragmentAssembler ∧
      (∀ j ∈ s.kxStore.public.sessions, j ∈ s'.kxStore.public.sessions) ∧
      (∀ r, r ≠ rel → s'.sessions.get r = s.sessions.get r) ∧
      (s'.sessions.get rel = .disabled ∧ s'.invalidated = s.invalidated ∨
        ∃ S, s'.sessions.get rel = .full S ∧ S.BuiltFor s.config i ∧
          i ∈ s'.kxStore.public.sessions ∧ S.authoredPacketQueue.queue = [] ∧
          s'.invalidated = s.invalidated ||| Invalidated.RESERVED_PEERS |||
            Invalidated.NEXT_AUTHORED_PACKET_DEADLINE) := by
  have other : ∀ slot : SessionSlot E, ∀ r, r ≠ rel → (s.sessions.set rel slot).get r =
      s.sessions.get r := fun slot r hr => by rw [Sessions.get_set, if_neg hr]
  unfold Mixnet.setMixnodes
  split
  · exact ⟨rfl, rfl, rfl, rfl, rfl, fun _ h => h, other _, .inl ⟨by simp, rfl⟩⟩
  · have hmono : ∀ j ∈ s.kxStore.public.sessions,
        j ∈ (s.kxStore.public.publicForSession (E := E) i).1.sessions :=
      fun _ h => KxPublicStore.publicForSession_sessions h
    have hsome := @KxPublicStore.publicForSession_some E s.kxStore.public i
    rcases hpub : s.kxStore.public.publicForSession (E := E) i with ⟨public, _ | k⟩
    · rw [hpub] at hmono
      exact ⟨rfl, rfl, rfl, rfl, rfl, hmono, other _, .inl ⟨by simp, rfl⟩⟩
    · rw [hpub] at hmono hsome
      obtain ⟨hi, rfl⟩ := hsome rfl
      dsimp only
      split
      · exact ⟨rfl, rfl, rfl, rfl, rfl, hmono, other _, .inl ⟨by simp, rfl⟩⟩
      · rename_i sc hsc
        refine ⟨rfl, rfl, rfl, rfl, rfl, hmono, other _, .inr ⟨_, Mixnet.setSession_get _ _ _,
          ⟨⟨rng, _, ?_, rfl⟩, sc, hsc, rfl, rfl⟩, hi, rfl, rfl⟩⟩
        split_ifs
        · exact List.length_take_le _ _
        · omega

theorem SlotsInvariant.maybeSetMixnodes {ε : Type} {s s' : Mixnet E} {rel : RelSessionIndex}
    {mixnodes : Except ε (List E.Mixnode)} {rng : E.Rng} {res : Except ε Unit}
    (h : SlotsInvariant s) (hs : s.maybeSetMixnodes rel mixnodes rng = some (s', res)) :
    SlotsInvariant s' := by
  rcases Mixnet.maybeSetMixnodes_eq_some hs with rfl | ⟨hempty, i, ms, hi, rfl⟩
  · exact h
  obtain ⟨hconfig, hstatus, -, -, -, hkx, hother, hrel⟩ := s.setMixnodes_slots rel i ms rng
  refine ⟨fun r S hS => ?_, fun hp => ?_⟩
  · by_cases hr : r = rel
    · subst hr
      rcases hrel with ⟨hd, -⟩ | ⟨S', hS', hb, hk, -⟩
      · rw [hd] at hS; cases hS
      · rw [hS'] at hS; cases hS
        exact ⟨i, hstatus ▸ hi, hconfig ▸ hb, hk⟩
    · rw [hother r hr] at hS
      obtain ⟨j, hj, hb, hk⟩ := h.built r S hS
      exact ⟨j, hstatus ▸ hj, hconfig ▸ hb, hkx j hk⟩
  · have hprev := h.prevDisabled (hstatus ▸ hp)
    have : rel ≠ .prev := by rintro rfl; rw [Sessions.get_prev, hprev] at hempty; cases hempty
    exact (hother .prev this.symm).trans hprev

theorem SlotsInvariant.step {s s' : Mixnet E} {op : Op E} (h : SlotsInvariant s)
    (hs : s.step op = some s') : SlotsInvariant s' := by
  cases op with
  | setSessionStatus status => exact h.setSessionStatus hs
  | maybeSetMixnodes rel mixnodes rng =>
    obtain ⟨⟨s'', res⟩, hm, rfl⟩ := Option.map_eq_some'.mp hs
    exact h.maybeSetMixnodes hm
  | _ =>
    obtain ⟨h1, h2, h3, h4⟩ := Mixnet.step_keepsSessions hs rfl
    exact h.keepsSessions h1 h2 h3 h4

theorem Reachable.slotsInvariant {s : Mixnet E} (h : Reachable E s) : SlotsInvariant s := by
  induction h with
  | new config kxPublicStore => exact slotsInvariant_new config kxPublicStore
  | step _ _ hs ih => exact ih.step hs

/-- Only `set_session_status` replaces or drops the session of a full slot: under every other
operation it stays in its slot and evolves. -/
theorem Mixnet.step_full {s s' : Mixnet E} {op : Op E} (hop : ∀ status, op ≠ .setSessionStatus status)
    (hs : s.step op = some s') {r : RelSessionIndex} {S : Session E}
    (hS : s.sessions.get r = .full S) : ∃ S', s'.sessions.get r = .full S' ∧ S.Evolves S' := by
  cases op with
  | setSessionStatus status => exact absurd rfl (hop status)
  | maybeSetMixnodes rel mixnodes rng =>
    obtain ⟨⟨s'', res⟩, hm, rfl⟩ := Option.map_eq_some'.mp hs
    rcases Mixnet.maybeSetMixnodes_eq_some hm with rfl | ⟨hempty, i, ms, -, rfl⟩
    · exact ⟨S, hS, Session.Evolves.refl S⟩
    · have hr : r ≠ rel := by rintro rfl; rw [hS] at hempty; cases hempty
      exact ⟨S, ((s.setMixnodes_slots rel i ms rng).2.2.2.2.2.2.1 r hr).trans hS,
        Session.Evolves.refl S⟩
  | _ => exact SessionSlot.Evolves.full_left (hS ▸ (Mixnet.step_keepsSessions hs rfl).2.2.1 r)

/-- **Session slots.** In every reachable state a full slot `r` holds a session that
`maybe_set_mixnodes` built for the session index `r + current_index` (the current index for the
current slot, the one before it for the previous slot), and the key-exchange store still holds
that session's key pair; the previous slot is disabled whenever the phase does not need it. An
advance of the index by one carries the current session whole into the previous slot, and no
operation but `set_session_status` replaces or drops the session of a full slot. -/
theorem session_slots {s : Mixnet E} (h : Reachable E s) :
    SlotsInvariant s ∧
      (∀ status s', s.setSessionStatus status = some s' →
        status.currentIndex.toNat = s.sessionStatus.currentIndex.toNat + 1 →
        status.phase.needPrev = true →
        s'.sessions.prev = s.sessions.current ∧ s'.sessions.current = .empty) ∧
      (∀ op s' r S, (∀ status, op ≠ .setSessionStatus status) → s.step op = some s' →
        s.sessions.get r = .full S → ∃ S', s'.sessions.get r = .full S' ∧ S.Evolves S') :=
  ⟨h.slotsInvariant, fun _ _ hs hadv hp => Mixnet.setSessionStatus_advance hs hadv hp,
    fun _ _ _ _ hop hs hS => Mixnet.step_full hop hs hS⟩

/-- Once session `0` is set up, its session stays in the current slot through a posted reply, and
when `set_session_status` advances to session `1` it becomes the previous session. -/
theorem session_slots_rotation :
    let s₁ : Mixnet Env.basic :=
      (Mixnet.new Config.example KxPublicStore.new).setMixnodes .current 0 [0, 0, 0] 0
    ∃ S s₂ s₃, s₁.sessions.current = .full S ∧ s₁.step (.postReply [5] 0 0 []) = some s₂ ∧
      (∃ S', s₂.sessions.get .current = .full S' ∧ S.Evolves S') ∧ SlotsInvariant s₂ ∧
      s₂.setSessionStatus ⟨1, .connectToCurrent⟩ = some s₃ ∧
      s₃.sessions.prev = s₂.sessions.current ∧ s₃.sessions.current = .empty :=
  have hreach₁ : Reachable Env.basic
      ((Mixnet.new Config.example KxPublicStore.new).setMixnodes .current 0 [0, 0, 0] 0) :=
    .step (.maybeSetMixnodes .current (.ok [0, 0, 0]) 0) (.new Config.example KxPublicStore.new) rfl
  have hreach₂ := hreach₁.step (Op.postReply (E := Env.basic) [5] 0 0 []) rfl
  ⟨_, _, _, rfl, rfl, (session_slots hreach₁).2.2 (.postReply [5] 0 0 []) _ .current _
      (fun _ => nofun) rfl rfl,
    (session_slots hreach₂).1, rfl,
    (session_slots hreach₂).2.1 ⟨1, .connectToCurrent⟩ _ rfl rfl rfl⟩

/-! ### The previous session of session `0` -/

/-- Right after `Mixnet::new`, in session `0`, the previous slot is empty, so
`maybe_set_mixnodes` for it forms the previous-session index `Prev + 0` and panics; and
`set_session_status` to a phase of session `0` that needs the previous session forms the same
index for the key-discard threshold and panics too. -/
theorem prev_index_formed_at_session_zero (config : Config) (kxPublicStore : KxPublicStore)
    (mixnodes : Except String (List E.Mixnode)) (rng : E.Rng) :
    (Mixnet.new config kxPublicStore : Mixnet E).maybeSetMixnodes .prev mixnodes rng = none ∧
      (Mixnet.new config kxPublicStore : Mixnet E).setSessionStatus ⟨0, .coverToCurrent⟩ =
        none :=
  ⟨rfl, rfl⟩

end MixnetCore
