import MixnetCore.Env

/-!
# Queues and stores owned by the engine

`packet_queues.rs`, `replay_filter.rs`, `surb_keystore.rs` and `kx_store.rs` are not among the
sources; each structure here is modelled from the spec's description of it.

* `ForwardPacketQueue`: a min-heap keyed by deadline with a capacity, kept as the list of its
  packets in deadline order (ties in insertion order); `insert` says whether the deadline at the
  head changed.
* `AuthoredPacketQueue`: a bounded FIFO.
* `ReplayFilter`: an exact set of key-exchange public keys (no false positives, no false
  negatives).
* `SurbKeystore`: a bounded map from SURB ids to payload keys, oldest entry first; inserting
  at capacity evicts the oldest entry.
* `KxPublicStore` and `KxStore`: the per-session key pairs. A key pair is generated on demand by
  `public_for_session` and never again once its session is discarded, so a session's key is a
  function of its index (`Env.sessionKxPublic`, `Env.kxSharedSecret`) and the stores only record
  which sessions have one.
-/

namespace MixnetCore

variable {E : Env}

/-! ### Forward packet queue -/

/-- `ForwardPacket`: a packet to forward once its deadline has passed. -/
structure ForwardPacket (E : Env) where
  deadline : Instant
  packet : AddressedPacket E.PeerId E.Packet

/-- Modelled from the spec: `ForwardPacketQueue`. -/
structure ForwardPacketQueue (E : Env) where
  capacity : ℕ
  /-- The packets, in deadline order. -/
  queue : List (ForwardPacket E)

namespace ForwardPacketQueue

def new (capacity : ℕ) : ForwardPacketQueue E := ⟨capacity, []⟩

def remainingCapacity (q : ForwardPacketQueue E) : ℕ := q.capacity - q.queue.length

/-- `next_deadline`: the deadline at the head. -/
def nextDeadline (q : ForwardPacketQueue E) : Option Instant := q.queue.head?.map (·.deadline)

/-- Insertion into a deadline-ordered list, after the packets with the same deadline. -/
def insertSorted (p : ForwardPacket E) : List (ForwardPacket E) → List (ForwardPacket E)
  | [] => [p]
  | q :: qs => if p.deadline < q.deadline then p :: q :: qs else q :: insertSorted p qs

/-- `insert`: also returns whether the deadline at the head changed. -/
def insert (q : ForwardPacketQueue E) (p : ForwardPacket E) : ForwardPacketQueue E × Bool :=
  let q' := { q with queue := insertSorted p q.queue }
  (q', decide (q'.nextDeadline ≠ q.nextDeadline))

/-- `pop`: the packet at the head. -/
def pop (q : ForwardPacketQueue E) : ForwardPacketQueue E × Option (ForwardPacket E) :=
  match q.queue with
  | [] => (q, none)
  | p :: ps => ({ q with queue := ps }, some p)

@[simp] theorem length_insertSorted (p : ForwardPacket E) (qs : List (ForwardPacket E)) :
    (insertSorted p qs).length = qs.length + 1 := by
  induction qs with
  | nil => rfl
  | cons q qs ih => unfold insertSorted; split <;> simp [ih]

@[simp] theorem insert_capacity (q : ForwardPacketQueue E) (p : ForwardPacket E) :
    (q.insert p).1.capacity = q.capacity := rfl

@[simp] theorem insert_queue_length (q : ForwardPacketQueue E) (p : ForwardPacket E) :
    (q.insert p).1.queue.length = q.queue.length + 1 := by
  simp [insert]

/-- The flag `insert` returns is exactly a change of the head deadline. -/
theorem insert_snd (q : ForwardPacketQueue E) (p : ForwardPacket E) :
    (q.insert p).2 = true ↔ (q.insert p).1.nextDeadline ≠ q.nextDeadline := by
  simp [insert]

@[simp] theorem pop_capacity (q : ForwardPacketQueue E) : q.pop.1.capacity = q.capacity := by
  unfold pop; split <;> rfl

theorem pop_queue_length_le (q : ForwardPacketQueue E) :
    q.pop.1.queue.length ≤ q.queue.length := by
  unfold pop; split <;> simp_all

end ForwardPacketQueue

/-! ### Authored packet queue -/

/-- Modelled from the spec: `AuthoredPacketQueue`, a bounded FIFO. -/
structure AuthoredPacketQueue (E : Env) where
  capacity : ℕ
  /-- The packets, oldest first. -/
  queue : List (AddressedPacket E.PeerId E.Packet)

namespace AuthoredPacketQueue

def new (capacity : ℕ) : AuthoredPacketQueue E := ⟨capacity, []⟩

def remainingCapacity (q : AuthoredPacketQueue E) : ℕ := q.capacity - q.queue.length

def push (q : AuthoredPacketQueue E) (p : AddressedPacket E.PeerId E.Packet) :
    AuthoredPacketQueue E :=
  { q with queue := q.queue ++ [p] }

def pop (q : AuthoredPacketQueue E) :
    AuthoredPacketQueue E × Option (AddressedPacket E.PeerId E.Packet) :=
  match q.queue with
  | [] => (q, none)
  | p :: ps => ({ q with queue := ps }, some p)

@[simp] theorem push_capacity (q : AuthoredPacketQueue E) (p) : (q.push p).capacity = q.capacity :=
  rfl

@[simp] theorem push_queue (q : AuthoredPacketQueue E) (p) : (q.push p).queue = q.queue ++ [p] :=
  rfl

@[simp] theorem pop_capacity (q : AuthoredPacketQueue E) : q.pop.1.capacity = q.capacity := by
  unfold pop; split <;> rfl

theorem pop_queue_length_le (q : AuthoredPacketQueue E) :
    q.pop.1.queue.length ≤ q.queue.length := by
  unfold pop; split <;> simp_all

end AuthoredPacketQueue

/-! ### Replay filter -/

/-- Modelled from the spec: `ReplayFilter`, as an exact set of key-exchange public keys. -/
structure ReplayFilter (E : Env) where
  publics : List E.KxPublic

namespace ReplayFilter

/-- `ReplayFilter::new`: the seed drawn from the RNG does not matter to an exact set. -/
def new : ReplayFilter E := ⟨[]⟩

def contains (f : ReplayFilter E) (k : E.KxPublic) : Bool := decide (k ∈ f.publics)

def insert (f : ReplayFilter E) (k : E.KxPublic) : ReplayFilter E := ⟨k :: f.publics⟩

@[simp] theorem contains_insert (f : ReplayFilter E) (k k' : E.KxPublic) :
    (f.insert k).contains k' = (k' == k || f.contains k') := by
  by_cases h : k' = k <;> simp [contains, insert, h]

end ReplayFilter

/-! ### SURB keystore -/

/-- Modelled from the spec: `SurbKeystore`, a bounded map from SURB ids to payload keys. -/
structure SurbKeystore (E : Env) where
  capacity : ℕ
  /-- The entries, oldest first. -/
  entries : List (E.SurbId × E.SurbKeys)

namespace SurbKeystore

def new (capacity : ℕ) : SurbKeystore E := ⟨capacity, []⟩

/-- The ids the keystore holds. -/
def ids (ks : SurbKeystore E) : List E.SurbId := ks.entries.map (·.1)

/-- `insert`: a fresh id and keys drawn from the RNG, evicting the oldest entry at capacity. -/
def insert (ks : SurbKeystore E) (rng : E.Rng) :
    (E.SurbId × E.SurbKeys) × SurbKeystore E × E.Rng :=
  let ((id, keys), rng) := E.genSurbIdKeys rng
  let kept := if ks.capacity ≤ ks.entries.length then ks.entries.tail else ks.entries
  ((id, keys), { ks with entries := kept ++ [(id, keys)] }, rng)

/-- `entry(&id)` followed by `keys()`: the keys of an id, if it is held. -/
def entry (ks : SurbKeystore E) (id : E.SurbId) : Option E.SurbKeys :=
  (ks.entries.find? (·.1 = id)).map (·.2)

/-- `entry.remove()`. -/
def remove (ks : SurbKeystore E) (id : E.SurbId) : SurbKeystore E :=
  { ks with entries := ks.entries.filter (·.1 ≠ id) }

theorem entry_isSome_iff (ks : SurbKeystore E) (id : E.SurbId) :
    (ks.entry id).isSome ↔ id ∈ ks.ids := by
  simp [entry, ids, List.find?_isSome]

theorem mem_ids_remove (ks : SurbKeystore E) (id id' : E.SurbId) :
    id' ∈ (ks.remove id).ids ↔ id' ∈ ks.ids ∧ id' ≠ id := by
  simp [remove, ids, and_comm]

end SurbKeystore

/-! ### Key-exchange stores -/

/-- Modelled from the spec: `KxPublicStore`, shared with the key-announcement code. -/
structure KxPublicStore where
  /-- The sessions whose key pair has been generated and not discarded. -/
  sessions : List SessionIndex
  /-- No key pair is generated for a session before this one. -/
  discardedSessionsBefore : SessionIndex

namespace KxPublicStore

def new : KxPublicStore := ⟨[], 0⟩

/-- `public_for_session`: the session's public key, generating its key pair on demand, or
`None` once the session has been discarded. -/
def publicForSession (st : KxPublicStore) (i : SessionIndex) :
    KxPublicStore × Option E.KxPublic :=
  if i < st.discardedSessionsBefore then (st, none)
  else ({ st with sessions := if i ∈ st.sessions then st.sessions else i :: st.sessions },
    some (E.sessionKxPublic i))

end KxPublicStore

/-- Modelled from the spec: `KxStore`, holding the secrets taken from the public store. -/
structure KxStore where
  public : KxPublicStore
  /-- The sessions whose secret the store has taken from the public store. -/
  sessionSecrets : List SessionIndex

namespace KxStore

def new (public : KxPublicStore) : KxStore := ⟨public, []⟩

/-- `add_pending_session_secrets`: take every secret generated so far. -/
def addPendingSessionSecrets (ks : KxStore) : KxStore :=
  { ks with sessionSecrets := ks.public.sessions }

/-- `discard_sessions_before`: forget the keys of the sessions before `i`, for good. -/
def discardSessionsBefore (ks : KxStore) (i : SessionIndex) : KxStore :=
  ⟨⟨ks.public.sessions.filter (i ≤ ·),
      if i ≤ ks.public.discardedSessionsBefore then ks.public.discardedSessionsBefore else i⟩,
    ks.sessionSecrets.filter (i ≤ ·)⟩

/-- `session_exchange`: the shared secret with a packet's public key, if the session's secret is
held. -/
def sessionExchange (ks : KxStore) (i : SessionIndex) (k : E.KxPublic) :
    Option E.KxSharedSecret :=
  if i ∈ ks.sessionSecrets then some (E.kxSharedSecret i k) else none

end KxStore

end MixnetCore
