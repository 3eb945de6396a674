import MixnetCore.Sessions

/-!
# Cover packet generation

`gen_cover_packet` of `cover.rs`: nothing when cover packets are disabled in the configuration;
otherwise a route of `num_hops` hops from the topology's route generator (a loop back to the
local node, or to a randomly chosen destination mixnode), a Sphinx cover packet along it, and
the peer id of its first hop. A topology error is logged and yields no packet.
-/

namespace MixnetCore

variable {E : Env}

/-- The closure `gen` of `gen_cover_packet`. -/
def genCoverPacketGen (rng : E.Rng) (topology : E.Topology) (lns : E.NetworkStatus)
    (kind : CoverKind) (config : Config) :
    Except E.TopologyErr (AddressedPacket E.PeerId E.Packet) := do
  let (routeKind, rng) ← match kind with
    | .drop => do
      let (index, rng) ← E.chooseDestinationIndex topology lns rng
      pure (RouteKind.toMixnode index, rng)
    | .loop => pure (RouteKind.loop, rng)
  let ((targets, theirKxPublics, firstMixnodeIndex), rng) ←
    E.genRoute topology lns rng routeKind config.numHops
  let peerId ← E.mixnodeIndexToPeerId topology firstMixnodeIndex
  pure ⟨peerId, E.buildCoverPacket rng targets theirKxPublics⟩

/-- `gen_cover_packet`. -/
def genCoverPacket (rng : E.Rng) (topology : E.Topology) (lns : E.NetworkStatus)
    (kind : CoverKind) (config : Config) : Option (AddressedPacket E.PeerId E.Packet) :=
  if !config.genCoverPackets then none
  else
    match genCoverPacketGen rng topology lns kind config with
    | .ok packet => some packet
    | .error _ => none

/-- With cover packets disabled, no cover packet is generated. -/
theorem genCoverPacket_of_not_genCoverPackets {rng : E.Rng} {topology : E.Topology}
    {lns : E.NetworkStatus} {kind : CoverKind} {config : Config}
    (h : config.genCoverPackets = false) : genCoverPacket rng topology lns kind config = none := by
  simp [genCoverPacket, h]

end MixnetCore
