import MixnetCore.Proofs.Handle
import MixnetCore.Proofs.Slots

/-!
# Replay protection

`handle_packet` acts at most once on a packet. A packet it forwards or delivers as a request
leaves its key-exchange public key in the replay filter of the session that peeled it; a reply
removes its SURB id from the SURB keystore. Both stick for the rest of the run
(`replay_protection`), under the assumptions the protection rests on:

* the packet peels, with a result other than a bad MAC, under the secret of one session index at
  most (`PeelsUnderOneIndex`), so only the sessions of that index can act on it;
* `set_session_status` never lowers the session index (`Mixnet.indicesNondecreasing`), and the
  SURB keystore never reissues an id (`Mixnet.noReissue`).

The filter side is the invariant `Mixnet.Guarded`: the accepting session is not after the
current one, every full slot of it holds the key in its filter, and no slot of it is empty, so
`maybe_set_mixnodes` cannot build that session again with a fresh filter. The accepting call
establishes it (`Mixnet.guarded_of_accepts`) and every step keeps it (`Mixnet.Guarded.step`).
-/

namespace MixnetCore

variable {E : Env}

/-! ### Session index arithmetic -/

/-- Once the index has moved up from `c` to `c'`, a slot denotes a session `i ≤ c` only as the
previous slot of an advance by one, and then `i = c`. -/
theorem RelSessionIndex.add_of_advance {r : RelSessionIndex} {c c' i : SessionIndex}
    (hi : i ≤ c) (hc : c ≤ c') (hne : c ≠ c') (h : r.add c' = some i) :
    r = .prev ∧ i = c ∧ saturatingSub c' c = 1 := by
  rcases RelSessionIndex.add_eq_some.mp h with ⟨-, rfl⟩ | ⟨rfl, -, rfl⟩
  · exact absurd (by bv_omega) hne
  · refine ⟨rfl, by bv_omega, ?_⟩
    unfold saturatingSub
    rw [if_pos hc]
    bv_omega

/-! ### The assumptions -/

/-- The packet-level assumption of replay protection: peeling `packet` gives a result other than
a bad MAC under the key-exchange secret of at most one session index. -/
def PeelsUnderOneIndex (E : Env) (packet : E.Packet) : Prop :=
  ∀ i j, E.peel packet (E.kxSharedSecret i (E.kxPublic packet)) ≠ .error .mac →
    E.peel packet (E.kxSharedSecret j (E.kxPublic packet)) ≠ .error .mac → i = j

namespace Mixnet

/-- `op` does not lower the session index of `s`. -/
def nondecreasingAt (s : Mixnet E) : Op E → Bool
  | .setSessionStatus status => decide (s.sessionStatus.currentIndex ≤ status.currentIndex)
  | _ => true

/-- Along the run of `ops` from `s`, `set_session_status` never lowers the session index. -/
def indicesNondecreasing (s : Mixnet E) : List (Op E) → Bool
  | [] => true
  | op :: ops => s.nondecreasingAt op && (s.step op).all (·.indicesNondecreasing ops)

/-- Along the run of `ops` from `s`, the SURB keystore never holds again an id of `retired`, nor
an id that has left it during the run. -/
def noReissue (s : Mixnet E) (retired : List E.SurbId) : List (Op E) → Bool
  | [] => true
  | op :: ops => (s.step op).all fun s' =>
    retired.all (· ∉ s'.surbKeystore.ids) &&
      s'.noReissue (retired ++ s.surbKeystore.ids.filter (· ∉ s'.surbKeystore.ids)) ops

/-- An id of `retired` that `s` does not hold is held by no later state of a run that reissues
no id. -/
theorem not_mem_ids_of_noReissue {X : E.SurbId} :
    ∀ {s s' : Mixnet E} {retired : List E.SurbId} {ops : List (Op E)},
      s.noReissue retired ops = true → X ∈ retired → X ∉ s.surbKeystore.ids →
      s.run ops = some s' → X ∉ s'.surbKeystore.ids
  | _, _, _, [], _, _, hX, hrun => by cases hrun; exact hX
  | _, _, _, op :: ops, h, hR, _, hrun => by
    rw [run_cons, Option.bind_eq_some] at hrun
    obtain ⟨t, ht, hrun⟩ := hrun
    simp only [noReissue, ht, Option.all_some, Bool.and_eq_true, List.all_eq_true,
      decide_eq_true_eq] at h
    exact not_mem_ids_of_noReissue h.2 (List.mem_append_left _ hR) (h.1 X hR) hrun

/-! ### Accepting a packet -/

/-- `handle_packet` decrypts a reply payload of `packet` with the keys of the SURB id `X`: the
search peels the packet as a reply to `X`, and the SURB keystore holds `X`. -/
def DecryptsWith (s : Mixnet E) (packet : E.Packet) (X : E.SurbId) : Prop :=
  ∃ rel S i out, s.addPendingSessionSecrets.findPeeled packet s.sessions.enumerate =
    some (.peeled rel S i (.deliverReply X) out) ∧ (s.surbKeystore.entry X).isSome

/-- The paths on which `handle_packet` acts on a packet: it forwards it (into the forward packet
queue, or nowhere when its target has no peer id, once its key is in the replay filter), passes
a request to the fragment assembler, or decrypts a reply. -/
inductive Accepts (s : Mixnet E) (packet : E.Packet) : Prop
  | forward {rel S i target delay out} :
      s.addPendingSessionSecrets.findPeeled packet s.sessions.enumerate =
        some (.peeled rel S i (.forwardTo target delay) out) →
      E.isMixnode S.topology = true → 0 < s.forwardPacketQueue.remainingCapacity →
      Accepts s packet
  | request {rel S i out} :
      s.addPendingSessionSecrets.findPeeled packet s.sessions.enumerate =
        some (.peeled rel S i .deliverRequest out) →
      E.isMixnode S.topology = true → Accepts s packet
  | reply {X} : s.DecryptsWith packet X → Accepts s packet

theorem KxStore.sessionExchange_eq_some {ks : KxStore} {i : SessionIndex} {k : E.KxPublic}
    {x : E.KxSharedSecret} (h : ks.sessionExchange i k = some x) : x = E.kxSharedSecret i k := by
  unfold KxStore.sessionExchange at h
  split at h
  · exact (Option.some.inj h).symm
  · cases h

/-- When the search peels a packet, the slot holds the session it names, the slot denotes the
session index it names, and the packet peels so under that index's secret. -/
theorem findPeeled_peeled_spec {s : Mixnet E} {packet : E.Packet} {rel : RelSessionIndex}
    {S : Session E} {i : SessionIndex} {action : Action E.Target E.SurbId} {out : E.Packet}
    (h : s.addPendingSessionSecrets.findPeeled packet s.sessions.enumerate =
      some (.peeled rel S i action out)) :
    s.sessions.get rel = .full S ∧ rel.add s.sessionStatus.currentIndex = some i ∧
      E.peel packet (E.kxSharedSecret i (E.kxPublic packet)) = .ok (action, out) := by
  obtain ⟨hmem, hp⟩ := findPeeled_peeled h
  obtain ⟨-, -, hi, -, k, hk, hpk⟩ := peelAttempt_peeled hp
  exact ⟨Sessions.mem_enumerate.mp hmem, hi, KxStore.sessionExchange_eq_some hk ▸ hpk⟩

/-- Forwarding a packet, or delivering a request, inserts its public key into the replay filter
of the session that peeled it. -/
theorem handleAction_inserts {s : Mixnet E} {packet : E.Packet} {now : Instant}
    {rel : RelSessionIndex} {S : Session E} {i : SessionIndex} {out : E.Packet}
    {action : Action E.Target E.SurbId} (hm : E.isMixnode S.topology = true)
    (ha : (∃ target delay, action = .forwardTo target delay) ∧
        0 < s.forwardPacketQueue.remainingCapacity ∨ action = .deliverRequest) :
    (s.handleAction packet now rel S i out action).1.sessions = s.sessions.set rel
      (.full { S with replayFilter := S.replayFilter.insert (E.kxPublic packet) }) := by
  rcases ha with ⟨⟨target, delay, rfl⟩, hc⟩ | rfl
  · simp only [handleAction, hm, Bool.not_true, Bool.false_eq_true, if_false,
      if_neg (Nat.pos_iff_ne_zero.mp hc)]
    split <;> rfl
  · simp only [handleAction, hm, Bool.not_true, Bool.false_eq_true, if_false]
    rfl

/-- Decrypting a reply removes its SURB id from the keystore. -/
theorem handleAction_deliverReply_surbKeystore {s : Mixnet E} {packet : E.Packet}
    {now : Instant} {rel : RelSessionIndex} {S : Session E} {i : SessionIndex} {out : E.Packet}
    {X : E.SurbId} (hX : (s.surbKeystore.entry X).isSome) :
    (s.handleAction packet now rel S i out (.deliverReply X)).1.surbKeystore =
      s.surbKeystore.remove X := by
  obtain ⟨keys, hk⟩ := Option.isSome_iff_exists.mp hX
  simp only [handleAction, hk]
  split <;> rfl

/-- A call that decrypts with the keys of `X` holds `X` before and not after. -/
theorem DecryptsWith.removes {s s' : Mixnet E} {packet : E.Packet} {now : Instant}
    {m : Option (Message E.MessageId E.Surb)} {X : E.SurbId} (hd : s.DecryptsWith packet X)
    (hs : s.handlePacket packet now = some (s', m)) :
    X ∈ s.surbKeystore.ids ∧ X ∉ s'.surbKeystore.ids := by
  obtain ⟨rel, S, i, out, h, hX⟩ := hd
  rw [handlePacket_of_peeled h, Option.some.injEq] at hs
  obtain rfl := congrArg Prod.fst hs
  rw [handleAction_deliverReply_surbKeystore (s := s.addPendingSessionSecrets) hX,
    SurbKeystore.mem_ids_remove]
  exact ⟨(SurbKeystore.entry_isSome_iff _ _).mp hX, fun h => h.2 rfl⟩

/-- Once a call has decrypted with the keys of `X`, no later state of a run that reissues no id
holds `X`. -/
theorem DecryptsWith.not_mem_ids {s₁ s₂ s₃ : Mixnet E} {packet : E.Packet} {now : Instant}
    {m : Option (Message E.MessageId E.Surb)} {X : E.SurbId} {ops : List (Op E)}
    (hd : s₁.DecryptsWith packet X) (hs : s₁.handlePacket packet now = some (s₂, m))
    (hrun : s₂.run ops = some s₃) (hno : s₁.noReissue [] (.handlePacket packet now :: ops) = true) :
    X ∉ s₃.surbKeystore.ids := by
  obtain ⟨hX₁, hX₂⟩ := hd.removes hs
  simp only [noReissue, step, hs, Option.map_some', Option.all_some, List.all_nil,
    Bool.true_and] at hno
  exact not_mem_ids_of_noReissue hno
    (List.mem_append_right _ (List.mem_filter.mpr ⟨hX₁, decide_eq_true hX₂⟩)) hX₂ hrun

/-! ### The replay-filter invariant -/

/-- What the replay filters keep after `handle_packet` accepted a packet with public key `k` in
session `i` and inserted `k` into that session's filter. -/
structure Guarded (k : E.KxPublic) (i : SessionIndex) (s : Mixnet E) : Prop where
  /-- Session `i` is not after the current session. -/
  le : i ≤ s.sessionStatus.currentIndex
  /-- A full slot of session `i` has `k` in its replay filter. -/
  filter : ∀ r S, s.sessions.get r = .full S → r.add s.sessionStatus.currentIndex = some i →
    k ∈ S.replayFilter.publics
  /-- No slot of session `i` is empty, so `maybe_set_mixnodes` cannot build session `i` again. -/
  notEmpty : ∀ r, r.add s.sessionStatus.currentIndex = some i → s.sessions.get r ≠ .empty

variable {k : E.KxPublic} {i : SessionIndex}

/-- The call that accepts a packet on a path that inserts into the replay filter establishes the
invariant for the packet's key and the session that peeled it. -/
theorem guarded_of_accepts {s s' : Mixnet E} {packet : E.Packet} {now : Instant}
    {m : Option (Message E.MessageId E.Surb)} {rel : RelSessionIndex} {S : Session E}
    {action : Action E.Target E.SurbId} {out : E.Packet}
    (h : s.addPendingSessionSecrets.findPeeled packet s.sessions.enumerate =
      some (.peeled rel S i action out))
    (hm : E.isMixnode S.topology = true)
    (ha : (∃ target delay, action = .forwardTo target delay) ∧
        0 < s.forwardPacketQueue.remainingCapacity ∨ action = .deliverRequest)
    (hs : s.handlePacket packet now = some (s', m)) : Guarded (E.kxPublic packet) i s' := by
  obtain ⟨-, hi, -⟩ := findPeeled_peeled_spec h
  rw [handlePacket_of_peeled h, Option.some.injEq] at hs
  obtain rfl := congrArg Prod.fst hs
  have hss := @handleAction_inserts E s.addPendingSessionSecrets packet now rel S i out action hm ha
  obtain ⟨-, hstatus, -⟩ := handleAction_fields s.addPendingSessionSecrets packet now rel S i out
    action
  refine ⟨hstatus ▸ RelSessionIndex.le_of_add hi, fun r S' hS' hr => ?_, fun r hr => ?_⟩ <;>
    rw [hstatus] at hr <;> obtain rfl := RelSessionIndex.eq_of_add hr hi
  · rw [hss, Sessions.get_set, if_pos rfl, SessionSlot.full.injEq] at hS'
    rw [← hS']
    exact List.mem_cons_self _ _
  · rw [hss, Sessions.get_set, if_pos rfl]
    nofun

theorem SessionSlot.Evolves.empty_right {slot : SessionSlot E} (h : slot.Evolves .empty) :
    slot = .empty := by
  cases h; rfl

theorem Guarded.keepsSessions {s s' : Mixnet E} (h : Guarded k i s)
    (hstatus : s'.sessionStatus = s.sessionStatus) (hev : s.sessions.Evolves s'.sessions) :
    Guarded k i s' := by
  refine ⟨hstatus ▸ h.le, fun r S' hS' hr => ?_, fun r hr hE => ?_⟩ <;> rw [hstatus] at hr
  · obtain ⟨S, hS, hSS⟩ := SessionSlot.Evolves.full_right (hS' ▸ hev r)
    exact hSS.filter k (h.filter r S hS hr)
  · exact h.notEmpty r hr (SessionSlot.Evolves.empty_right (hE ▸ hev r))

/-- A slot of a session `i ≤ c` is not empty after the index moves up from `c`, when no slot
of session `i` was empty before. -/
theorem sessionsAfter_ne_empty {ss : Sessions E} {old status : SessionStatus}
    {r : RelSessionIndex} (hle : i ≤ old.currentIndex)
    (hmono : old.currentIndex ≤ status.currentIndex)
    (hne : ∀ r, r.add old.currentIndex = some i → ss.get r ≠ .empty)
    (hr : r.add status.currentIndex = some i) : (sessionsAfter ss old status).get r ≠ .empty := by
  unfold sessionsAfter
  by_cases hc : old.currentIndex = status.currentIndex
  · rw [← hc] at hr
    simp only [hc, ne_eq, not_true_eq_false, if_false]
    split
    · cases r
      · exact hne .current hr
      · nofun
    · exact hne r hr
  · obtain ⟨rfl, rfl, hsat⟩ := RelSessionIndex.add_of_advance hle hmono hc hr
    simp only [ne_eq, hc, not_false_eq_true, if_true, hsat]
    split
    · nofun
    · exact hne .current rfl

theorem Guarded.setSessionStatus {s s' : Mixnet E} {status : SessionStatus} (h : Guarded k i s)
    (hs : s.setSessionStatus status = some s')
    (hmono : s.sessionStatus.currentIndex ≤ status.currentIndex) : Guarded k i s' := by
  rcases setSessionStatus_eq_some hs with ⟨-, rfl⟩ | ⟨-, before, -, rfl⟩
  · exact h
  refine ⟨BitVec.le_trans h.le hmono, fun r S hS hr => ?_,
    fun r hr => sessionsAfter_ne_empty h.le hmono h.notEmpty hr⟩
  obtain ⟨r₀, hS₀, hidx, -⟩ := sessionsAfter_full hS
  exact h.filter r₀ S hS₀ (hidx ▸ hr)

theorem Guarded.maybeSetMixnodes {ε : Type} {s s' : Mixnet E} {rel : RelSessionIndex}
    {mixnodes : Except ε (List E.Mixnode)} {rng : E.Rng} {res : Except ε Unit} (h : Guarded k i s)
    (hs : s.maybeSetMixnodes rel mixnodes rng = some (s', res)) : Guarded k i s' := by
  rcases maybeSetMixnodes_eq_some hs with rfl | ⟨hempty, j, ms, -, rfl⟩
  · exact h
  obtain ⟨-, hstatus, -, -, -, -, hother, -⟩ := s.setMixnodes_slots rel j ms rng
  have hrel : ∀ r, r.add s.sessionStatus.currentIndex = some i → r ≠ rel :=
    fun r hr hrr => h.notEmpty r hr (hrr ▸ hempty)
  refine ⟨hstatus ▸ h.le, fun r S hS hr => ?_, fun r hr => ?_⟩ <;> rw [hstatus] at hr <;>
    rw [hother r (hrel r hr)] at *
  · exact h.filter r S hS hr
  · exact h.notEmpty r hr

/-- Every step that does not lower the session index keeps the invariant. -/
theorem Guarded.step {s s' : Mixnet E} {op : Op E} (h : Guarded k i s)
    (hs : s.step op = some s') (hmono : s.nondecreasingAt op = true) : Guarded k i s' := by
  cases op with
  | setSessionStatus status => exact h.setSessionStatus hs (of_decide_eq_true hmono)
  | maybeSetMixnodes rel mixnodes rng =>
    obtain ⟨⟨s'', res⟩, hm, rfl⟩ := Option.map_eq_some'.mp hs
    exact h.maybeSetMixnodes hm
  | _ =>
    obtain ⟨-, hstatus, hev, -⟩ := step_keepsSessions hs rfl
    exact h.keepsSessions hstatus hev

theorem Guarded.run {s s' : Mixnet E} (h : Guarded k i s) :
    ∀ {ops : List (Op E)}, s.run ops = some s' → s.indicesNondecreasing ops = true →
      Guarded k i s'
  | [], hrun, _ => by cases hrun; exact h
  | op :: ops, hrun, hmono => by
    rw [run_cons, Option.bind_eq_some] at hrun
    obtain ⟨t, ht, hrun⟩ := hrun
    simp only [indicesNondecreasing, ht, Option.all_some, Bool.and_eq_true] at hmono
    exact (h.step ht hmono.1).run hrun hmono.2

/-! ### Later calls -/

/-- One attempt of the search, on a slot of session `j`, for a packet that peels to
`(action, out)` under session `i`'s secret and to a bad MAC under any other: the packet is found
replayed, the search moves on, or the slot is of session `i`, lacks the key in its filter, and
peels the packet. -/
theorem peelAttempt_of_peelsUnder {s : Mixnet E} {packet : E.Packet} {rel : RelSessionIndex}
    {S : Session E} {j : SessionIndex} {action : Action E.Target E.SurbId} {out : E.Packet}
    (hpeel : PeelsUnderOneIndex E packet)
    (hi : E.peel packet (E.kxSharedSecret i (E.kxPublic packet)) = .ok (action, out))
    (hj : rel.add s.sessionStatus.currentIndex = some j) :
    s.peelAttempt packet rel S = some .replayed ∨ s.peelAttempt packet rel S = some .next ∨
      j = i ∧ S.replayFilter.contains (E.kxPublic packet) = false ∧
        s.peelAttempt packet rel S = some (.peeled rel S i action out) := by
  unfold peelAttempt KxStore.sessionExchange
  cases hf : S.replayFilter.contains (E.kxPublic packet)
  · simp only [hj, Bool.false_eq_true, if_false, Option.map_some', Option.some.injEq]
    split_ifs
    · by_cases hji : j = i
      · subst hji
        simp [hi]
      · have hmac : E.peel packet (E.kxSharedSecret j (E.kxPublic packet)) = .error .mac :=
          not_not.mp fun hne => hji (hpeel j i hne (by rw [hi]; nofun))
        simp [hmac]
    · simp
  · simp

theorem findPeeled_of_forall {s : Mixnet E} {packet : E.Packet} (P : PeelAttempt E → Prop)
    (hnext : P .next) :
    ∀ {l : List (RelSessionIndex × Session E)},
      (∀ x ∈ l, ∃ a, s.peelAttempt packet x.1 x.2 = some a ∧ P a) →
      ∃ a, s.findPeeled packet l = some a ∧ P a
  | [], _ => ⟨.next, rfl, hnext⟩
  | (rel, S) :: l, h => by
    obtain ⟨a, ha, hP⟩ := h (rel, S) (List.mem_cons_self _ _)
    simp only [findPeeled, ha, Option.bind_eq_bind, Option.some_bind]
    cases a with
    | next => exact findPeeled_of_forall P hnext fun x hx => h x (List.mem_cons_of_mem _ hx)
    | _ => exact ⟨_, rfl, hP⟩

/-- In a state of the slots invariant, the search for such a packet finds it replayed, finds no
session to peel it, or peels it in a full slot of session `i` that lacks its key. -/
theorem findPeeled_of_peelsUnder {s : Mixnet E} {packet : E.Packet}
    {action : Action E.Target E.SurbId} {out : E.Packet} (hinv : SlotsInvariant s)
    (hpeel : PeelsUnderOneIndex E packet)
    (hi : E.peel packet (E.kxSharedSecret i (E.kxPublic packet)) = .ok (action, out)) :
    ∃ a, s.addPendingSessionSecrets.findPeeled packet s.sessions.enumerate = some a ∧
      (a = .replayed ∨ a = .next ∨ ∃ rel S, s.sessions.get rel = .full S ∧
        rel.add s.sessionStatus.currentIndex = some i ∧
        S.replayFilter.contains (E.kxPublic packet) = false ∧ a = .peeled rel S i action out) := by
  refine findPeeled_of_forall _ (.inr (.inl rfl)) fun ⟨rel, S⟩ hx => ?_
  have hS := Sessions.mem_enumerate.mp hx
  obtain ⟨j, hj, -⟩ := hinv.built rel S hS
  rcases peelAttempt_of_peelsUnder (s := s.addPendingSessionSecrets) (S := S) hpeel hi hj with
    h | h | ⟨rfl, hf, h⟩
  · exact ⟨_, h, .inl rfl⟩
  · exact ⟨_, h, .inr (.inl rfl)⟩
  · exact ⟨_, h, .inr (.inr ⟨rel, S, hS, hj, hf, rfl⟩)⟩

/-- A later call drops a packet whose key the filters of its session hold. -/
theorem dropReason_of_guarded {s : Mixnet E} {packet : E.Packet}
    {action : Action E.Target E.SurbId} {out : E.Packet} (hinv : SlotsInvariant s)
    (hpeel : PeelsUnderOneIndex E packet)
    (hi : E.peel packet (E.kxSharedSecret i (E.kxPublic packet)) = .ok (action, out))
    (hg : Guarded (E.kxPublic packet) i s) : s.DropReason packet := by
  obtain ⟨a, ha, rfl | rfl | ⟨rel, S, hS, hr, hf, -⟩⟩ := findPeeled_of_peelsUnder hinv hpeel hi
  · exact .replayed ha
  · exact .notPeeled ha
  · simp [ReplayFilter.contains, hg.filter rel S hS hr] at hf

/-- A later call drops a reply whose SURB id the keystore no longer holds. -/
theorem dropReason_of_retired {s : Mixnet E} {packet : E.Packet} {X : E.SurbId}
    {out : E.Packet} (hinv : SlotsInvariant s) (hpeel : PeelsUnderOneIndex E packet)
    (hi : E.peel packet (E.kxSharedSecret i (E.kxPublic packet)) = .ok (.deliverReply X, out))
    (hX : X ∉ s.surbKeystore.ids) : s.DropReason packet := by
  obtain ⟨a, ha, rfl | rfl | ⟨rel, S, -, -, -, rfl⟩⟩ := findPeeled_of_peelsUnder hinv hpeel hi
  · exact .replayed ha
  · exact .notPeeled ha
  · exact .unknownSurb ha
      (Option.not_isSome_iff_eq_none.mp (mt (SurbKeystore.entry_isSome_iff _ _).mp hX))

end Mixnet

/-- **Replay protection.** Take a packet that peels, with a result other than a bad MAC, under
the key-exchange secret of one session index at most. (i) Once `handle_packet` has acted on it in
a reachable state (forwarded it, passed it to the fragment assembler as a request, or decrypted
it as a reply), every later `handle_packet` of it, after any run along which the session index is
never lowered and the SURB keystore reissues no id, returns `None` and changes nothing but the
pending key-exchange secrets it promotes. (ii) Once a call has decrypted a reply payload with the
keys of a SURB id, no later call of such a run decrypts with them again. -/
theorem replay_protection {packet : E.Packet} (hpeel : PeelsUnderOneIndex E packet) :
    (∀ (s₁ s₂ s₃ : Mixnet E) m now now' ops, Reachable E s₁ → s₁.Accepts packet →
      s₁.handlePacket packet now = some (s₂, m) → s₂.run ops = some s₃ →
      s₂.indicesNondecreasing ops = true →
      s₁.noReissue [] (.handlePacket packet now :: ops) = true →
      s₃.handlePacket packet now' = some (s₃.addPendingSessionSecrets, none)) ∧
    ∀ (s₁ s₂ s₃ : Mixnet E) (p p' : E.Packet) m now ops X,
      s₁.handlePacket p now = some (s₂, m) → s₁.DecryptsWith p X → s₂.run ops = some s₃ →
      s₁.noReissue [] (.handlePacket p now :: ops) = true → ¬ s₃.DecryptsWith p' X := by
  refine ⟨fun s₁ s₂ s₃ m now now' ops hreach hacc hs hrun hmono hno => ?_,
    fun s₁ s₂ s₃ p p' m now ops X hs hd hrun hno ⟨_, _, _, _, _, hX⟩ =>
      hd.not_mem_ids hs hrun hno ((SurbKeystore.entry_isSome_iff _ _).mp hX)⟩
  have hinv : SlotsInvariant s₃ :=
    ((hreach.step (.handlePacket packet now) (by simp [Mixnet.step, hs])).run hrun).slotsInvariant
  apply Mixnet.handlePacket_of_dropReason
  cases hacc with
  | forward h hm hc =>
    exact Mixnet.dropReason_of_guarded hinv hpeel (Mixnet.findPeeled_peeled_spec h).2.2
      ((Mixnet.guarded_of_accepts h hm (.inl ⟨⟨_, _, rfl⟩, hc⟩) hs).run hrun hmono)
  | request h hm =>
    exact Mixnet.dropReason_of_guarded hinv hpeel (Mixnet.findPeeled_peeled_spec h).2.2
      ((Mixnet.guarded_of_accepts h hm (.inr rfl) hs).run hrun hmono)
  | reply hd =>
    have hX := hd.not_mem_ids hs hrun hno
    obtain ⟨_, _, _, _, h, -⟩ := hd
    exact Mixnet.dropReason_of_retired hinv hpeel (Mixnet.findPeeled_peeled_spec h).2.2 hX

/-- Packet `0`, forwarded in session `0` after `maybe_set_mixnodes` built it, is dropped when it
comes again. -/
theorem replay_protection_forwarded :
    let s₁ : Mixnet Env.peelsAtZero :=
      (Mixnet.new Config.example KxPublicStore.new).setMixnodes .current 0 [0, 0, 0] 0
    PeelsUnderOneIndex Env.peelsAtZero 0 ∧ ∃ s₂ m, s₁.handlePacket 0 0 = some (s₂, m) ∧
      s₂.handlePacket 0 1 = some (s₂.addPendingSessionSecrets, none) := by
  intro s₁
  have hpeel : PeelsUnderOneIndex Env.peelsAtZero 0 := by
    have key : ∀ i : SessionIndex, Env.peelsAtZero.peel 0
        (Env.peelsAtZero.kxSharedSecret i (Env.peelsAtZero.kxPublic 0)) ≠ .error .mac → i = 0 :=
      fun i h => BitVec.eq_of_toNat_eq (not_not.mp fun hi => h (if_neg hi))
    exact fun i j hi hj => (key i hi).trans (key j hj).symm
  have hreach : Reachable Env.peelsAtZero s₁ :=
    .step (.maybeSetMixnodes .current (.ok [0, 0, 0]) 0) (.new Config.example KxPublicStore.new) rfl
  obtain ⟨s₂, m, hs⟩ : ∃ s₂ m, s₁.handlePacket 0 0 = some (s₂, m) := ⟨_, _, rfl⟩
  exact ⟨hpeel, s₂, m, hs, (replay_protection hpeel).1 s₁ s₂ s₂ m 0 1 [] hreach
    (.forward rfl rfl (by show 0 < 300; decide)) hs rfl rfl rfl⟩

end MixnetCore
