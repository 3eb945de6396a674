import MixnetCore.Engine

/-!
# Runs of the engine

The engine is driven by one loop that calls its public operations in any order (`Op`); the
key-announcement code, which shares the key-exchange public store, may also ask that store for
a session's public key at any time (`Op.publicForSession`). The read-only operations
(`reserved_peer_addresses`, `next_forward_packet_deadline`, `next_authored_packet_delay`) do
not change the engine and are left out of `Op`.

`Mixnet.step` runs one operation and drops its result; `Mixnet.run` runs a list of them, and is
`none` if one of them panics. `Reachable` is the set of states some run from `Mixnet::new`
ends in.
-/

namespace MixnetCore

variable {E : Env}

/-- A call of a public operation of the engine, with its arguments. -/
inductive Op (E : Env)
  | setSessionStatus (status : SessionStatus)
  | maybeSetMixnodes (rel : RelSessionIndex) (mixnodes : Except String (List E.Mixnode))
      (rng : E.Rng)
  | handlePacket (packet : E.Packet) (now : Instant)
  | popNextForwardPacket
  | popNextAuthoredPacket (ns : E.NetworkStatus) (rng : E.Rng)
  | postRequest (destination : Option MixnodeId) (data : List UInt8) (numSurbs : ℕ)
      (ns : E.NetworkStatus) (rng : E.Rng)
  | postReply (surbs : List E.Surb) (sessionIndex : SessionIndex) (messageId : E.MessageId)
      (data : List UInt8)
  | takeInvalidated
  /-- The key-announcement code calls `public_for_session` on the shared store. -/
  | publicForSession (sessionIndex : SessionIndex)

namespace Mixnet

/-- One operation; `none` if it panics. -/
def step (s : Mixnet E) : Op E → Option (Mixnet E)
  | .setSessionStatus status => s.setSessionStatus status
  | .maybeSetMixnodes rel mixnodes rng => (s.maybeSetMixnodes rel mixnodes rng).map (·.1)
  | .handlePacket packet now => (s.handlePacket packet now).map (·.1)
  | .popNextForwardPacket => some s.popNextForwardPacket.1
  | .popNextAuthoredPacket ns rng =>
    if s.authoredChoicePanics then none else some (s.popNextAuthoredPacket ns rng).1
  | .postRequest destination data numSurbs ns rng =>
    (s.postRequest destination data numSurbs ns rng).map (·.1)
  | .postReply surbs sessionIndex messageId data =>
    (s.postReply surbs sessionIndex messageId data).map (·.1)
  | .takeInvalidated => some s.takeInvalidated.1
  | .publicForSession sessionIndex =>
    some { s with
      kxStore := { s.kxStore with
        public := (s.kxStore.public.publicForSession (E := E) sessionIndex).1 } }

/-- A list of operations, from `s`; `none` if one of them panics. -/
def run (s : Mixnet E) : List (Op E) → Option (Mixnet E)
  | [] => some s
  | op :: ops => (s.step op).bind (·.run ops)

@[simp] theorem run_nil (s : Mixnet E) : s.run [] = some s := rfl

theorem run_cons (s : Mixnet E) (op : Op E) (ops : List (Op E)) :
    s.run (op :: ops) = (s.step op).bind (·.run ops) := rfl

/-- A pop of an authored packet that does not panic is `pop_next_authored_packet`. -/
theorem step_popNextAuthoredPacket {s s' : Mixnet E} {ns : E.NetworkStatus} {rng : E.Rng}
    (h : s.step (.popNextAuthoredPacket ns rng) = some s') :
    s.authoredChoicePanics = false ∧ s' = (s.popNextAuthoredPacket ns rng).1 := by
  simp only [step] at h
  split at h
  · cases h
  · rename_i hp
    exact ⟨Bool.eq_false_iff.mpr hp, (Option.some.inj h).symm⟩

theorem run_append (s : Mixnet E) (ops ops' : List (Op E)) :
    s.run (ops ++ ops') = (s.run ops).bind (·.run ops') := by
  induction ops generalizing s with
  | nil => rfl
  | cons op ops ih =>
    simp only [List.cons_append, run_cons, Option.bind_assoc]
    cases s.step op <;> simp [ih]

/-- One operation, with the authored packets it hands to the caller to send: what
`pop_next_authored_packet` returns. -/
def stepAuthored (s : Mixnet E) :
    Op E → Option (Mixnet E × List (AddressedPacket E.PeerId E.Packet))
  | .popNextAuthoredPacket ns rng =>
    if s.authoredChoicePanics then none
    else some ((s.popNextAuthoredPacket ns rng).1, (s.popNextAuthoredPacket ns rng).2.toList)
  | op => (s.step op).map (·, [])

/-- A run, with the authored packets it sends, in order. -/
def runAuthored (s : Mixnet E) :
    List (Op E) → Option (Mixnet E × List (AddressedPacket E.PeerId E.Packet))
  | [] => some (s, [])
  | op :: ops => (s.stepAuthored op).bind fun (s', out) =>
    (s'.runAuthored ops).map fun (s'', sent) => (s'', out ++ sent)

theorem stepAuthored_fst (s : Mixnet E) (op : Op E) :
    (s.stepAuthored op).map (·.1) = s.step op := by
  cases op
  case popNextAuthoredPacket => simp only [stepAuthored, step]; split <;> rfl
  all_goals simp only [stepAuthored, Option.map_map, Function.comp_def, Option.map_id']

/-- Recording the authored packets does not change the run. -/
theorem runAuthored_fst (s : Mixnet E) (ops : List (Op E)) :
    (s.runAuthored ops).map (·.1) = s.run ops := by
  induction ops generalizing s with
  | nil => rfl
  | cons op ops ih =>
    rw [run_cons, ← stepAuthored_fst, runAuthored]
    cases s.stepAuthored op with
    | none => rfl
    | some r => simp [← ih, Option.map_map, Function.comp_def]

end Mixnet

/-- The states some run from `Mixnet::new` ends in. -/
inductive Reachable (E : Env) : Mixnet E → Prop
  | new (config : Config) (kxPublicStore : KxPublicStore) :
      Reachable E (Mixnet.new config kxPublicStore)
  | step {s s' : Mixnet E} (op : Op E) : Reachable E s → s.step op = some s' → Reachable E s'

theorem Reachable.run {s s' : Mixnet E} (h : Reachable E s) :
    ∀ {ops : List (Op E)}, s.run ops = some s' → Reachable E s'
  | [], hrun => by cases hrun; exact h
  | op :: ops, hrun => by
    rw [Mixnet.run_cons, Option.bind_eq_some] at hrun
    obtain ⟨t, ht, hrun⟩ := hrun
    exact (h.step op ht).run hrun

/-- A state is reachable iff a run from `Mixnet::new` ends in it. -/
theorem reachable_iff_run {s : Mixnet E} :
    Reachable E s ↔ ∃ config kxPublicStore ops,
      (Mixnet.new config kxPublicStore : Mixnet E).run ops = some s := by
  constructor
  · intro h
    induction h with
    | new config kxPublicStore => exact ⟨config, kxPublicStore, [], rfl⟩
    | step op _ hs ih =>
      obtain ⟨config, kxPublicStore, ops, hrun⟩ := ih
      exact ⟨config, kxPublicStore, ops ++ [op],
        by simp [Mixnet.run_append, hrun, Mixnet.run_cons, hs]⟩
  · rintro ⟨config, kxPublicStore, ops, hrun⟩
    exact (Reachable.new config kxPublicStore).run hrun

namespace Mixnet

/-- The run `ops` from `s₀` makes the call `op` in the state `s`: the operations before it lead
from `s₀` to `s`. -/
def Calls (s₀ : Mixnet E) (ops : List (Op E)) (op : Op E) (s : Mixnet E) : Prop :=
  ∃ ops₁ ops₂, ops = ops₁ ++ op :: ops₂ ∧ s₀.run ops₁ = some s

/-- The first operation of a run is a call made in the state the run starts from. -/
theorem calls_head (s₀ : Mixnet E) (op : Op E) (ops : List (Op E)) : s₀.Calls (op :: ops) op s₀ :=
  ⟨[], ops, rfl, rfl⟩

/-- A call of the rest of a run is a call of the run. -/
theorem Calls.cons {s₀ s₁ s : Mixnet E} {op op' : Op E} {ops : List (Op E)}
    (h : s₁.Calls ops op' s) (hs : s₀.step op = some s₁) : s₀.Calls (op :: ops) op' s := by
  obtain ⟨ops₁, ops₂, rfl, h₁⟩ := h
  exact ⟨op :: ops₁, ops₂, rfl, by rw [run_cons, hs]; exact h₁⟩

end Mixnet

end MixnetCore
