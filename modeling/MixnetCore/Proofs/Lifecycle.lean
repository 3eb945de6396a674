import MixnetCore.Proofs.Slots

/-!
# Slot lifecycle within a session index

While the session index stays, a slot only moves forward (`SessionSlot.Advances`). An empty slot
may be filled by `maybe_set_mixnodes`, with a session or disabled; a full slot keeps its session,
which evolves, until a phase that no longer needs the previous session disables it; a disabled
slot stays disabled, which is what "mixnet will not be available during this session" in
`maybe_set_mixnodes` promises. So `maybe_set_mixnodes` builds each slot at most once per session
index: once a slot is not empty, every later call for it returns `Ok(())` and changes nothing,
whatever its producer would return (`slot_lifecycle`).
-/

namespace MixnetCore

variable {E : Env}

/-- How a slot may change while the session index stays: an empty slot may become anything, a
full slot keeps an evolving session or is disabled, a disabled slot stays disabled. -/
inductive SessionSlot.Advances : SessionSlot E → SessionSlot E → Prop
  | empty (slot : SessionSlot E) : SessionSlot.Advances .empty slot
  | full {S S' : Session E} : S.Evolves S' → SessionSlot.Advances (.full S) (.full S')
  | retire (S : Session E) : SessionSlot.Advances (.full S) .disabled
  | disabled : SessionSlot.Advances .disabled .disabled

namespace SessionSlot.Advances

theorem refl : ∀ slot : SessionSlot E, slot.Advances slot
  | .empty => .empty _
  | .full S => .full (Session.Evolves.refl S)
  | .disabled => .disabled

theorem of_evolves {a b : SessionSlot E} (h : a.Evolves b) : a.Advances b := by
  cases h with
  | empty => exact .empty _
  | disabled => exact .disabled
  | full h => exact .full h

theorem to_disabled : ∀ slot : SessionSlot E, slot.Advances .disabled
  | .empty => .empty _
  | .full S => .retire S
  | .disabled => .disabled

theorem trans {a b c : SessionSlot E} (h : a.Advances b) (h' : b.Advances c) : a.Advances c := by
  cases h with
  | empty => exact .empty _
  | full hS =>
    cases h' with
    | full hS' => exact .full (hS.trans hS')
    | retire => exact .retire _
  | retire => cases h' with | disabled => exact .retire _
  | disabled => exact h'

/-- A slot that is not empty never becomes empty again. -/
theorem ne_empty {a b : SessionSlot E} (h : a.Advances b) (ha : a ≠ .empty) : b ≠ .empty := by
  cases h <;> first | exact absurd rfl ha | nofun

end SessionSlot.Advances

namespace Mixnet

/-- `maybe_set_mixnodes` leaves a slot that is not empty as it is and returns `Ok(())`, without
looking at what the producer returns. -/
theorem maybeSetMixnodes_of_ne_empty {ε : Type} (s : Mixnet E) {rel : RelSessionIndex}
    (h : s.sessions.get rel ≠ .empty) (mixnodes : Except ε (List E.Mixnode)) (rng : E.Rng) :
    s.maybeSetMixnodes rel mixnodes rng = some (s, .ok ()) := by
  unfold maybeSetMixnodes
  rw [if_pos (by cases hs : s.sessions.get rel <;> simp_all [SessionSlot.isEmpty])]

/-- A step whose status change, if any, keeps the session index moves every slot forward. -/
theorem step_advances {s s' : Mixnet E} {op : Op E}
    (hop : ∀ status, op = .setSessionStatus status →
      status.currentIndex = s.sessionStatus.currentIndex)
    (h : s.step op = some s') :
    s'.sessionStatus.currentIndex = s.sessionStatus.currentIndex ∧
      ∀ r, (s.sessions.get r).Advances (s'.sessions.get r) := by
  cases op with
  | setSessionStatus status =>
    have hidx := hop status rfl
    rcases setSessionStatus_eq_some h with ⟨-, rfl⟩ | ⟨-, before, -, rfl⟩
    · exact ⟨rfl, fun r => .refl _⟩
    · refine ⟨hidx, fun r => ?_⟩
      simp only [sessionsAfter, hidx, ne_eq, not_true_eq_false, if_false]
      split
      · cases r
        · exact .refl _
        · exact .to_disabled _
      · exact .refl _
  | maybeSetMixnodes rel mixnodes rng =>
    obtain ⟨⟨s'', res⟩, hm, rfl⟩ := Option.map_eq_some'.mp h
    rcases maybeSetMixnodes_eq_some hm with rfl | ⟨hempty, i, ms, -, rfl⟩
    · exact ⟨rfl, fun r => .refl _⟩
    · obtain ⟨-, hst, -, -, -, -, hother, -⟩ := s.setMixnodes_slots rel i ms rng
      refine ⟨congrArg (·.currentIndex) hst, fun r => ?_⟩
      by_cases hr : r = rel
      · subst hr
        rw [hempty]
        exact .empty _
      · rw [hother r hr]
        exact .refl _
  | _ =>
    obtain ⟨-, hst, hev, -⟩ := step_keepsSessions h rfl
    exact ⟨congrArg (·.currentIndex) hst, fun r => .of_evolves (hev r)⟩

theorem run_advances {s s' : Mixnet E} {ops : List (Op E)}
    (hops : ∀ op ∈ ops, ∀ status, op = .setSessionStatus status →
      status.currentIndex = s.sessionStatus.currentIndex)
    (h : s.run ops = some s') :
    s'.sessionStatus.currentIndex = s.sessionStatus.currentIndex ∧
      ∀ r, (s.sessions.get r).Advances (s'.sessions.get r) := by
  induction ops generalizing s with
  | nil =>
    cases h
    exact ⟨rfl, fun r => .refl _⟩
  | cons op ops ih =>
    rw [run_cons, Option.bind_eq_some] at h
    obtain ⟨s₁, h₁, h⟩ := h
    obtain ⟨hidx₁, hadv₁⟩ := step_advances (hops op (List.mem_cons_self _ _)) h₁
    obtain ⟨hidx, hadv⟩ := ih (fun op hop status hst =>
      (hops op (List.mem_cons_of_mem _ hop) status hst).trans hidx₁.symm) h
    exact ⟨hidx.trans hidx₁, fun r => (hadv₁ r).trans (hadv r)⟩

end Mixnet

/-- **Slots only move forward within a session index.** Along any run whose status changes keep
the session index, the index stays and every slot advances: an empty slot may be filled, a full
slot keeps its session, evolved, or is disabled, and a disabled slot stays disabled. A slot that
is not empty at the start is not rebuilt: at the end `maybe_set_mixnodes` for it returns `Ok(())`
and changes nothing, whatever its producer would return. -/
theorem slot_lifecycle {s s' : Mixnet E} {ops : List (Op E)}
    (hops : ∀ op ∈ ops, ∀ status, op = .setSessionStatus status →
      status.currentIndex = s.sessionStatus.currentIndex)
    (h : s.run ops = some s') :
    s'.sessionStatus.currentIndex = s.sessionStatus.currentIndex ∧
      ∀ r, (s.sessions.get r).Advances (s'.sessions.get r) ∧
        (s.sessions.get r ≠ .empty →
          ∀ (ε : Type) (mixnodes : Except ε (List E.Mixnode)) rng,
            s'.maybeSetMixnodes r mixnodes rng = some (s', .ok ())) := by
  obtain ⟨hidx, hadv⟩ := Mixnet.run_advances hops h
  exact ⟨hidx, fun r => ⟨hadv r, fun hne _ mixnodes rng =>
    s'.maybeSetMixnodes_of_ne_empty ((hadv r).ne_empty hne) mixnodes rng⟩⟩

/-- Once session `0` is set up, a reply is posted to its session and the phase moves on to
disconnect from the previous session: the full current slot keeps its session and cannot be
rebuilt, and the empty previous slot is disabled. -/
theorem slot_lifecycle_full_current :
    let s : Mixnet Env.basic :=
      (Mixnet.new Config.example KxPublicStore.new).setMixnodes .current 0 [0, 0, 0] 0
    ∃ s', s.run [.postReply [5] 0 0 [], .setSessionStatus ⟨0, .disconnectFromPrev⟩] = some s' ∧
      s.sessions.current ≠ .empty ∧ s'.sessions.prev = .disabled ∧
      s'.sessionStatus.currentIndex = s.sessionStatus.currentIndex ∧
      ∀ r, (s.sessions.get r).Advances (s'.sessions.get r) ∧
        (s.sessions.get r ≠ .empty →
          ∀ (ε : Type) (mixnodes : Except ε (List Env.basic.Mixnode)) rng,
            s'.maybeSetMixnodes r mixnodes rng = some (s', .ok ())) :=
  have hs : ((Mixnet.new (E := Env.basic) Config.example KxPublicStore.new).setMixnodes .current 0
      [0, 0, 0] 0).run [.postReply [5] 0 0 [], .setSessionStatus ⟨0, .disconnectFromPrev⟩] =
      some _ := rfl
  ⟨_, hs, nofun, rfl, slot_lifecycle (fun op hop status heq => by
    simp only [List.mem_cons, List.mem_singleton, List.not_mem_nil, or_false] at hop
    rcases hop with rfl | rfl <;> cases heq
    rfl) hs⟩

end MixnetCore
