import MixnetCore.Basic

/-!
# The collaborators of the core

`mod.rs` and `cover.rs` call into modules of the crate that are not among the sources: the
Sphinx primitive, the topology and its route generator, the fragment code, the request builder,
the key material of the key-exchange store, and the thread-local RNG. `Env` collects their
types, opaque here, and their functions, which are parameters of the whole development: every
result holds for every choice of them, apart from the assumptions a result states by name.

Code that mutates through `&mut` returns the new value. The thread-local RNG is a value of type
`Rng` that the random functions consume and return. The request builder's `build_packet` calls a
closure that mutates the engine, and a failure does not undo those mutations: both closure and
`buildPacket` return their state next to an `Except`, so that the state survives an error.

The session-phase tables `allow_requests_and_replies`, `gen_cover_packets` and
`default_request_session` are here as well: the spec calls them an external contract and gives
only the names of the phases.
-/

namespace MixnetCore

/-- The collaborators of the mixnet core (see the module docstring). -/
structure Env where
  Packet : Type
  KxPublic : Type
  [kxPublicDecEq : DecidableEq KxPublic]
  KxSharedSecret : Type
  PeerId : Type
  Multiaddr : Type
  Mixnode : Type
  Topology : Type
  TopologyErr : Type
  NetworkStatus : Type
  Target : Type
  SurbId : Type
  [surbIdDecEq : DecidableEq SurbId]
  SurbKeys : Type
  Surb : Type
  MessageId : Type
  PayloadData : Type
  FragmentBlueprint : Type
  FragmentAssembler : Type
  RequestBuilder : Type
  Rng : Type
  /-- `MAX_MIXNODE_INDEX`. -/
  maxMixnodeIndex : ℕ
  /-- `SessionPhase::allow_requests_and_replies`. -/
  allowRequestsAndReplies : SessionPhase → RelSessionIndex → Bool
  /-- `SessionPhase::gen_cover_packets`. -/
  genCoverPackets : SessionPhase → RelSessionIndex → Bool
  /-- `SessionPhase::default_request_session`. -/
  defaultRequestSession : SessionPhase → RelSessionIndex
  /-- The local key-exchange public key of a session, as `public_for_session` returns it. -/
  sessionKxPublic : SessionIndex → KxPublic
  /-- The shared secret of a session's key-exchange key with a packet's public key. -/
  kxSharedSecret : SessionIndex → KxPublic → KxSharedSecret
  /-- `kx_public(packet)`. -/
  kxPublic : Packet → KxPublic
  /-- `peel(&mut out, packet, &kx_shared_secret)`, returning the action and `out`. -/
  peel : Packet → KxSharedSecret → Except PeelErr (Action Target SurbId × Packet)
  /-- `array_ref![out, 0, PAYLOAD_DATA_SIZE]`. -/
  outPayloadData : Packet → PayloadData
  /-- `decrypt_reply_payload` on `array_mut_ref![out, 0, PAYLOAD_SIZE]`. -/
  decryptReplyPayload : Packet → SurbKeys → Option Packet
  /-- `default_boxed_array()`. -/
  defaultPacket : Packet
  /-- Writing through `mut_payload_data(&mut packet)`. -/
  mutPayloadData : Packet → (PayloadData → PayloadData) → Packet
  /-- `complete_reply_packet`: the first hop, and the completed packet. -/
  completeReplyPacket : Packet → Surb → Option (MixnodeIndex × Packet)
  /-- `build_cover_packet(.., rng, targets, their_kx_publics, None)`. -/
  buildCoverPacket : Rng → List Target → List KxPublic → Packet
  /-- `Delay::to_duration`. -/
  delayToDuration : Delay → Duration → Duration
  /-- `Topology::new(rng, mixnodes, local_kx_public, num_gateway_mixnodes)`. -/
  topologyNew : Rng → List Mixnode → KxPublic → ℕ → Topology
  /-- `Topology::is_mixnode`. -/
  isMixnode : Topology → Bool
  /-- `Topology::target_to_peer_id`. -/
  targetToPeerId : Topology → Target → Except TopologyErr PeerId
  /-- `Topology::mixnode_index_to_peer_id`. -/
  mixnodeIndexToPeerId : Topology → MixnodeIndex → Except TopologyErr PeerId
  /-- `Topology::reserved_peer_addresses`. -/
  reservedPeerAddresses : Topology → List Multiaddr
  /-- `RouteGenerator::choose_destination_index`. -/
  chooseDestinationIndex :
    Topology → NetworkStatus → Rng → Except TopologyErr (MixnodeIndex × Rng)
  /-- `RouteGenerator::gen_route`: the targets, their key-exchange publics and the first hop. -/
  genRoute : Topology → NetworkStatus → Rng → RouteKind → ℕ →
    Except TopologyErr ((List Target × List KxPublic × MixnodeIndex) × Rng)
  /-- `fragment_blueprints(message_id, data, num_surbs)`. -/
  fragmentBlueprints : MessageId → List UInt8 → ℕ → Option (List FragmentBlueprint)
  /-- `FragmentBlueprint::write_except_surbs`. -/
  writeExceptSurbs : FragmentBlueprint → PayloadData → PayloadData
  /-- The number of SURB slots `FragmentBlueprint::surbs` yields. -/
  surbSlots : FragmentBlueprint → ℕ
  /-- `FragmentAssembler::new`. -/
  fragmentAssemblerNew : ℕ → ℕ → ℕ → FragmentAssembler
  /-- `FragmentAssembler::insert`. -/
  fragmentAssemblerInsert :
    FragmentAssembler → PayloadData → FragmentAssembler × Option (AssembledMessage MessageId Surb)
  /-- `RequestBuilder::new`. -/
  requestBuilderNew : Rng → Topology → NetworkStatus → Option MixnodeIndex →
    Except TopologyErr (RequestBuilder × Rng)
  /-- `RequestBuilder::build_packet`, calling a fragment-writing closure with state `σ`. -/
  buildPacket : {σ : Type} → RequestBuilder → Rng →
    (PayloadData → Rng → σ → Except TopologyErr (PayloadData × Rng) × σ) → σ → ℕ →
    Except TopologyErr ((AddressedPacket PeerId Packet × Delay) × Rng) × σ
  /-- `RequestBuilder::build_surb` into the given SURB slot of a fragment. -/
  buildSurb : RequestBuilder → PayloadData → ℕ → SurbKeys → Rng → SurbId → ℕ →
    Except TopologyErr ((Delay × PayloadData) × Rng)
  /-- `RequestBuilder::destination_index`. -/
  destinationIndex : RequestBuilder → MixnodeIndex
  /-- `rng.fill_bytes(&mut message_id)`. -/
  fillMessageId : Rng → MessageId × Rng
  /-- The fresh id and keys the SURB keystore draws for a new entry. -/
  genSurbIdKeys : Rng → (SurbId × SurbKeys) × Rng
  /-- `rng.gen_bool(p)`. -/
  genBool : Rng → Float → Bool × Rng
  /-- `mean.mul_f64(delay.min(10.0))` with `delay` drawn from `Exp1`. -/
  sampleAuthoredDelay : Rng → Duration → Duration

attribute [instance] Env.kxPublicDecEq Env.surbIdDecEq

/-- A concrete choice of the collaborators: every type is `ℕ`, peeling always fails with a bad
MAC, routes and packets are empty, every message is one fragment without SURBs, and the RNG is a
counter. Structure updates of it give the collaborators a result is evaluated with. -/
@[reducible] def Env.basic : Env where
  Packet := ℕ
  KxPublic := ℕ
  KxSharedSecret := ℕ
  PeerId := ℕ
  Multiaddr := ℕ
  Mixnode := ℕ
  Topology := ℕ
  TopologyErr := ℕ
  NetworkStatus := ℕ
  Target := ℕ
  SurbId := ℕ
  SurbKeys := ℕ
  Surb := ℕ
  MessageId := ℕ
  PayloadData := ℕ
  FragmentBlueprint := ℕ
  FragmentAssembler := ℕ
  RequestBuilder := ℕ
  Rng := ℕ
  maxMixnodeIndex := 255
  allowRequestsAndReplies _ _ := true
  genCoverPackets _ _ := true
  defaultRequestSession _ := .current
  sessionKxPublic i := i.toNat
  kxSharedSecret i k := i.toNat + k
  kxPublic packet := packet
  peel _ _ := .error .mac
  outPayloadData out := out
  decryptReplyPayload out _ := some out
  defaultPacket := 0
  mutPayloadData packet write := write packet
  completeReplyPacket packet _ := some (0, packet)
  buildCoverPacket _ _ _ := 0
  delayToDuration delay mean := delay * mean
  topologyNew _ _ _ _ := 0
  isMixnode _ := true
  targetToPeerId _ target := .ok target
  mixnodeIndexToPeerId _ index := .ok index
  reservedPeerAddresses _ := []
  chooseDestinationIndex _ _ rng := .ok (0, rng)
  genRoute _ _ rng _ _ := .ok (([], [], 0), rng)
  fragmentBlueprints _ _ _ := some [0]
  writeExceptSurbs _ fragment := fragment
  surbSlots _ := 0
  fragmentAssemblerNew _ _ _ := 0
  fragmentAssemblerInsert fa _ := (fa, none)
  requestBuilderNew rng _ _ _ := .ok (0, rng)
  buildPacket _ rng write st _ :=
    match write 0 rng st with
    | (.ok (_, rng), st) => (.ok ((⟨0, 0⟩, 0), rng), st)
    | (.error e, st) => (.error e, st)
  buildSurb _ fragment _ _ rng _ _ := .ok ((0, fragment), rng)
  destinationIndex _ := 0
  fillMessageId rng := (rng, rng + 1)
  genSurbIdKeys rng := ((rng, rng), rng + 1)
  genBool rng _ := (false, rng)
  sampleAuthoredDelay _ mean := mean

/-- A configuration, with the defaults the spec mentions (three mixnodes at least). -/
def Config.example : Config where
  numGatewayMixnodes := 3
  minMixnodes := 3
  numHops := 3
  meanForwardingDelay := 1000000000
  genCoverPackets := true
  loopCoverProportion := 0.25
  mixnodeSession := ⟨40, 1000000000⟩
  nonMixnodeSession := some ⟨25, 1000000000⟩
  forwardPacketQueueCapacity := 300
  surbKeystoreCapacity := 1000
  maxFragmentsPerMessage := 25
  maxIncompleteMessages := 2000
  maxIncompleteFragments := 50000

end MixnetCore
