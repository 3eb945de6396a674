import Mathlib.Data.List.Basic

/-!
# The data model of the mixnet core

The plain data of `src/core/mod.rs`: session indices and phases, the invalidation flags, the
configuration, the errors of `post_request`/`post_reply` and the delivered messages, together
with the few data types of the Sphinx and topology modules that `mod.rs` and `cover.rs` take
apart (`Action`, `RouteKind`).

Machine integers: a `SessionIndex` is a `u32`, so it is `BitVec 32` and `wrapping_sub` is
`BitVec` subtraction. Lengths and capacities (`usize`) are `ℕ`. A `Duration` and an `Instant`
are counts of nanoseconds, and a Sphinx `Delay` is a count of forwarding-delay units.

`RelSessionIndex + SessionIndex` lives in `sessions.rs`, which is not part of the sources: it is
modelled from the spec ("the previous session is always `current_index - 1`"), and taking `1`
from the `u32` session index `0` underflows, which the model makes a panic (`none`).
-/

namespace MixnetCore

/-- `SessionIndex = u32`. -/
abbrev SessionIndex := BitVec 32

/-- `std::time::Duration`, in nanoseconds. -/
abbrev Duration := ℕ

/-- `std::time::Instant`, in nanoseconds. -/
abbrev Instant := ℕ

/-- The Sphinx `Delay`: a forwarding delay in units of the mean forwarding delay. -/
abbrev Delay := ℕ

/-- `MixnodeIndex`: an index into a session's mixnode list. -/
abbrev MixnodeIndex := ℕ

/-- `Duration::as_secs_f64`. -/
def Duration.asSecsF64 (d : Duration) : Float := d.toFloat / 1000000000

/-! ### Sessions and phases -/

/-- `RelSessionIndex`: a session slot, relative to the current session. -/
inductive RelSessionIndex
  | current
  | prev
deriving DecidableEq, Repr

/-- Modelled from the spec: `impl Add<SessionIndex> for RelSessionIndex` (in `sessions.rs`, not
among the sources). The previous session of `current_index` is `current_index - 1`; at
`current_index = 0` the subtraction underflows, which is a panic (`none`). -/
def RelSessionIndex.add : RelSessionIndex → SessionIndex → Option SessionIndex
  | .current, i => some i
  | .prev, i => if i = 0 then none else some (i - 1)

@[simp] theorem RelSessionIndex.add_current (i : SessionIndex) :
    RelSessionIndex.current.add i = some i := rfl

theorem RelSessionIndex.add_prev (i : SessionIndex) :
    RelSessionIndex.prev.add i = if i = 0 then none else some (i - 1) := rfl

theorem RelSessionIndex.add_eq_some {r : RelSessionIndex} {c i : SessionIndex} :
    r.add c = some i ↔ r = .current ∧ i = c ∨ r = .prev ∧ c ≠ 0 ∧ i = c - 1 := by
  cases r <;> by_cases hc : c = 0 <;> simp [RelSessionIndex.add_prev, hc, eq_comm]

theorem RelSessionIndex.le_of_add {r : RelSessionIndex} {c i : SessionIndex}
    (h : r.add c = some i) : i ≤ c := by
  rcases RelSessionIndex.add_eq_some.mp h with ⟨-, rfl⟩ | ⟨-, hc, rfl⟩ <;> bv_omega

/-- Two slots never denote the same session. -/
theorem RelSessionIndex.eq_of_add {r r' : RelSessionIndex} {c i : SessionIndex}
    (h : r.add c = some i) (h' : r'.add c = some i) : r = r' := by
  rcases RelSessionIndex.add_eq_some.mp h with ⟨rfl, rfl⟩ | ⟨rfl, -, rfl⟩ <;>
    rcases RelSessionIndex.add_eq_some.mp h' with ⟨rfl, h'⟩ | ⟨rfl, -, h'⟩ <;>
    first | rfl | bv_omega

/-- `SessionPhase`, with the phases the spec lists, in their order. -/
inductive SessionPhase
  | connectToCurrent
  | coverToCurrent
  | requestsAndRepliesToCurrent
  | coverToPrevRequestsToCurrent
  | disconnectFromPrev
deriving DecidableEq, Repr

/-- Modelled from the spec: `SessionPhase::need_prev` (in `sessions.rs`, not among the
sources). The previous session is needed in every phase before `DisconnectFromPrev`. -/
def SessionPhase.needPrev (phase : SessionPhase) : Bool :=
  phase != .disconnectFromPrev

/-- `SessionStatus`: index and phase of the current session. -/
structure SessionStatus where
  currentIndex : SessionIndex
  phase : SessionPhase
deriving DecidableEq, Repr

/-! ### Invalidation flags -/

/-- `Invalidated`, the `bitflags!` set over `u32`, with one field per flag. -/
structure Invalidated where
  /-- `RESERVED_PEERS`: the reserved peers returned by `reserved_peer_addresses()`. -/
  reservedPeers : Bool
  /-- `NEXT_FORWARD_PACKET_DEADLINE`: the deadline of `next_forward_packet_deadline()`. -/
  nextForwardPacketDeadline : Bool
  /-- `NEXT_AUTHORED_PACKET_DEADLINE`: the deadline of `next_authored_packet_delay()`. -/
  nextAuthoredPacketDeadline : Bool
deriving DecidableEq, Repr

namespace Invalidated

/-- `Invalidated::empty()`. -/
def empty : Invalidated := ⟨false, false, false⟩

def RESERVED_PEERS : Invalidated := ⟨true, false, false⟩

def NEXT_FORWARD_PACKET_DEADLINE : Invalidated := ⟨false, true, false⟩

def NEXT_AUTHORED_PACKET_DEADLINE : Invalidated := ⟨false, false, true⟩

/-- The union of two flag sets, `|`. -/
instance : OrOp Invalidated :=
  ⟨fun a b => ⟨a.reservedPeers || b.reservedPeers,
    a.nextForwardPacketDeadline || b.nextForwardPacketDeadline,
    a.nextAuthoredPacketDeadline || b.nextAuthoredPacketDeadline⟩⟩

/-- `a ⊆ b`: every flag of `a` is set in `b`. -/
def Subset (a b : Invalidated) : Prop :=
  (a.reservedPeers → b.reservedPeers) ∧
    (a.nextForwardPacketDeadline → b.nextForwardPacketDeadline) ∧
    (a.nextAuthoredPacketDeadline → b.nextAuthoredPacketDeadline)

@[simp] theorem or_reservedPeers (a b : Invalidated) :
    (a ||| b).reservedPeers = (a.reservedPeers || b.reservedPeers) := rfl

@[simp] theorem or_nextForwardPacketDeadline (a b : Invalidated) :
    (a ||| b).nextForwardPacketDeadline =
      (a.nextForwardPacketDeadline || b.nextForwardPacketDeadline) := rfl

@[simp] theorem or_nextAuthoredPacketDeadline (a b : Invalidated) :
    (a ||| b).nextAuthoredPacketDeadline =
      (a.nextAuthoredPacketDeadline || b.nextAuthoredPacketDeadline) := rfl

@[simp] theorem or_empty (a : Invalidated) : a ||| empty = a := by
  obtain ⟨r, f, n⟩ := a
  cases r <;> cases f <;> cases n <;> rfl

theorem subset_or (a b : Invalidated) : a.Subset (a ||| b) := by
  simp +contextual [Subset]

theorem Subset.trans {a b c : Invalidated} (h₁ : a.Subset b) (h₂ : b.Subset c) : a.Subset c :=
  ⟨fun h => h₂.1 (h₁.1 h), fun h => h₂.2.1 (h₁.2.1 h), fun h => h₂.2.2 (h₁.2.2 h)⟩

theorem Subset.refl (a : Invalidated) : a.Subset a := ⟨id, id, id⟩

end Invalidated

/-! ### Configuration -/

/-- `SessionConfig`: the per-role part of the configuration. -/
structure SessionConfig where
  authoredPacketQueueCapacity : ℕ
  meanAuthoredPacketPeriod : Duration

/-- `Config`, with the options the core reads (`log_target` only names the log target). -/
structure Config where
  numGatewayMixnodes : ℕ
  minMixnodes : ℕ
  numHops : ℕ
  meanForwardingDelay : Duration
  genCoverPackets : Bool
  loopCoverProportion : Float
  mixnodeSession : SessionConfig
  nonMixnodeSession : Option SessionConfig
  forwardPacketQueueCapacity : ℕ
  surbKeystoreCapacity : ℕ
  maxFragmentsPerMessage : ℕ
  maxIncompleteMessages : ℕ
  maxIncompleteFragments : ℕ

/-! ### Collaborator data read by the core -/

/-- `PeelErr`: the core only tells a bad MAC apart from the other errors, which it logs. -/
inductive PeelErr
  | mac
  | other
deriving DecidableEq, Repr

/-- The Sphinx `Action` a peeled packet asks for. -/
inductive Action (Target SurbId : Type)
  | forwardTo (target : Target) (delay : Delay)
  | deliverRequest
  | deliverReply (surbId : SurbId)
  | deliverCover

/-- The `RouteKind`s that `cover.rs` builds. -/
inductive RouteKind
  | toMixnode (index : MixnodeIndex)
  | loop

/-- `CoverKind`. -/
inductive CoverKind
  | drop
  | loop
deriving DecidableEq, Repr

/-- `AddressedPacket`: a packet and the peer to send it to. -/
structure AddressedPacket (PeerId Packet : Type) where
  peerId : PeerId
  packet : Packet

/-- A message completed by the fragment assembler. -/
structure AssembledMessage (MessageId Surb : Type) where
  id : MessageId
  data : List UInt8
  surbs : List Surb

/-! ### The engine's own types -/

/-- `MixnodeId`: a mixnode of a session. -/
structure MixnodeId where
  sessionIndex : SessionIndex
  mixnodeIndex : MixnodeIndex
deriving DecidableEq, Repr

/-- `Message`: what `handle_packet` delivers. -/
inductive Message (MessageId Surb : Type)
  | request (sessionIndex : SessionIndex) (data : List UInt8) (surbs : List Surb)
  | reply (id : MessageId) (data : List UInt8)

/-- `PostErr`: the errors of `post_request` and `post_reply`. -/
inductive PostErr (TopologyErr : Type)
  | tooManyFragments
  | badSessionIndex (index : SessionIndex)
  | requestsAndRepliesBlocked (index : SessionIndex)
  | sessionEmpty (index : SessionIndex)
  | sessionDisabled (index : SessionIndex)
  | notEnoughSpaceInQueue
  | topology (err : TopologyErr)
  | badSurb
deriving DecidableEq

end MixnetCore
