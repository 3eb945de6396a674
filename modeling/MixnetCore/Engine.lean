import MixnetCore.Cover

/-!
# The engine

`Mixnet` and its public operations, from `src/core/mod.rs`: `new`, `set_session_status`,
`maybe_set_mixnodes`, `reserved_peer_addresses`, `handle_packet`,
`next_forward_packet_deadline`, `pop_next_forward_packet`, `next_authored_packet_delay`,
`pop_next_authored_packet`, `post_request`, `post_reply` and `take_invalidated`, with the free
function `post_session`.

An operation returns the new engine next to its result. The thread-local RNG of an operation is
an argument. `RelSessionIndex + SessionIndex` can panic (`RelSessionIndex.add`), so the
operations that form a session index return an `Option`, `none` being the panic; so does
`post_reply`, whose `surbs.pop().expect(..)` panics on an empty vector. Logging has no effect on
the state and is left out.
-/

namespace MixnetCore

variable {E : Env}

/-- `Mixnet`: the mixnet engine. -/
structure Mixnet (E : Env) where
  config : Config
  /-- Index and phase of the current session. -/
  sessionStatus : SessionStatus
  /-- Keystore for the per-session key-exchange keys. -/
  kxStore : KxStore
  /-- Current and previous sessions. -/
  sessions : Sessions E
  /-- Queue of packets to be forwarded, after some delay. -/
  forwardPacketQueue : ForwardPacketQueue E
  /-- Keystore for SURB payload encryption keys. -/
  surbKeystore : SurbKeystore E
  /-- Reassembles fragments into messages. -/
  fragmentAssembler : E.FragmentAssembler
  /-- Flags to indicate which previously queried things are now invalid. -/
  invalidated : Invalidated

/-- `u32::saturating_sub`. -/
def saturatingSub (a b : SessionIndex) : SessionIndex := if b ≤ a then a - b else 0

/-- The slot `post_session` picks from `current_index.wrapping_sub(index)`. -/
def relOfWrappingSub (d : SessionIndex) : Option RelSessionIndex :=
  if d = 0 then some .current else if d = 1 then some .prev else none

/-- `post_session`: the session a request or reply for session `index` is posted to. -/
def postSession (sessions : Sessions E) (status : SessionStatus) (index : SessionIndex) :
    Except (PostErr E.TopologyErr) (RelSessionIndex × Session E) :=
  match relOfWrappingSub (status.currentIndex - index) with
  | none => .error (.badSessionIndex index)
  | some rel =>
    if !E.allowRequestsAndReplies status.phase rel then .error (.requestsAndRepliesBlocked index)
    else
      match sessions.get rel with
      | .empty => .error (.sessionEmpty index)
      | .disabled => .error (.sessionDisabled index)
      | .full session => .ok (rel, session)

/-- `Vec::pop`: the last element and the rest. -/
def popLast {α : Type} (l : List α) : Option (α × List α) := l.getLast?.map (·, l.dropLast)

namespace Mixnet

/-- `Mixnet::new`. -/
def new (config : Config) (kxPublicStore : KxPublicStore) : Mixnet E where
  config := config
  sessionStatus := ⟨0, .connectToCurrent⟩
  kxStore := KxStore.new kxPublicStore
  sessions := Sessions.default
  forwardPacketQueue := ForwardPacketQueue.new config.forwardPacketQueueCapacity
  surbKeystore := SurbKeystore.new config.surbKeystoreCapacity
  fragmentAssembler := E.fragmentAssemblerNew config.maxIncompleteMessages
    config.maxIncompleteFragments config.maxFragmentsPerMessage
  invalidated := .empty

/-- Store a session in a slot. -/
def setSession (s : Mixnet E) (rel : RelSessionIndex) (session : Session E) : Mixnet E :=
  { s with sessions := s.sessions.set rel (.full session) }

/-! ### Sessions -/

/-- The slots `set_session_status` leaves when the status changes from `old` to `status`. -/
def sessionsAfter (sessions : Sessions E) (old status : SessionStatus) : Sessions E :=
  -- Shift sessions when the current session changes
  let sessions :=
    if old.currentIndex ≠ status.currentIndex then
      if saturatingSub status.currentIndex old.currentIndex = 1 then sessions.advanceByOne
      else Sessions.default
    else sessions
  -- Discard sessions which are no longer needed
  if !status.phase.needPrev then { sessions with prev := .disabled } else sessions

/-- `set_session_status`. -/
def setSessionStatus (s : Mixnet E) (status : SessionStatus) : Option (Mixnet E) :=
  if s.sessionStatus = status then some s
  else
    let minNeededRelSessionIndex := if status.phase.needPrev then RelSessionIndex.prev else .current
    (minNeededRelSessionIndex.add status.currentIndex).map fun before =>
      { s with
        sessions := sessionsAfter s.sessions s.sessionStatus status
        kxStore := s.kxStore.discardSessionsBefore before
        invalidated := s.invalidated ||| Invalidated.RESERVED_PEERS |||
          Invalidated.NEXT_AUTHORED_PACKET_DEADLINE
        sessionStatus := status }

/-- `maybe_set_mixnodes` once the producer has returned the mixnodes, for the empty slot `rel`
of session `sessionIndex`. -/
def setMixnodes (s : Mixnet E) (rel : RelSessionIndex) (sessionIndex : SessionIndex)
    (mixnodes : List E.Mixnode) (rng : E.Rng) : Mixnet E :=
  if mixnodes.length < s.config.minMixnodes then
    { s with sessions := s.sessions.set rel .disabled }
  else
    let maxMixnodes := E.maxMixnodeIndex + 1
    let mixnodes := if mixnodes.length > maxMixnodes then mixnodes.take maxMixnodes else mixnodes
    let (public, localKxPublic) := s.kxStore.public.publicForSession (E := E) sessionIndex
    let s := { s with kxStore := { s.kxStore with public } }
    match localKxPublic with
    | none => { s with sessions := s.sessions.set rel .disabled }
    | some localKxPublic =>
      let topology := E.topologyNew rng mixnodes localKxPublic s.config.numGatewayMixnodes
      let config :=
        if E.isMixnode topology then some s.config.mixnodeSession else s.config.nonMixnodeSession
      match config with
      | none => { s with sessions := s.sessions.set rel .disabled }
      | some config =>
        { s.setSession rel
            { topology
              authoredPacketQueue := .new config.authoredPacketQueueCapacity
              meanAuthoredPacketPeriod := config.meanAuthoredPacketPeriod
              replayFilter := .new } with
          invalidated := s.invalidated ||| Invalidated.RESERVED_PEERS |||
            Invalidated.NEXT_AUTHORED_PACKET_DEADLINE }

/-- `maybe_set_mixnodes`: the producer's error, if it fails, is returned unchanged. -/
def maybeSetMixnodes {ε : Type} (s : Mixnet E) (rel : RelSessionIndex)
    (mixnodes : Except ε (List E.Mixnode)) (rng : E.Rng) : Option (Mixnet E × Except ε Unit) :=
  if !(s.sessions.get rel).isEmpty then some (s, .ok ())
  else
    (rel.add s.sessionStatus.currentIndex).map fun sessionIndex =>
      match mixnodes with
      | .error e => (s, .error e)
      | .ok mixnodes => (s.setMixnodes rel sessionIndex mixnodes rng, .ok ())

/-- `reserved_peer_addresses`. -/
def reservedPeerAddresses (s : Mixnet E) : List E.Multiaddr :=
  s.sessions.iter.flatMap fun session => E.reservedPeerAddresses session.topology

/-! ### Inbound packets -/

/-- What the closure of `handle_packet`'s `find_map` makes of one session. -/
inductive PeelAttempt (E : Env)
  /-- `None`: try the next session. -/
  | next
  /-- The packet's key-exchange public key is in the session's replay filter. -/
  | replayed
  /-- Peeling failed with an error other than a bad MAC. -/
  | failed
  /-- Peeled with the key of session `sessionIndex`, in slot `rel`. -/
  | peeled (rel : RelSessionIndex) (session : Session E) (sessionIndex : SessionIndex)
      (action : Action E.Target E.SurbId) (out : E.Packet)

/-- The closure of `handle_packet`'s `find_map`, for the session in slot `rel`. -/
def peelAttempt (s : Mixnet E) (packet : E.Packet) (rel : RelSessionIndex) (session : Session E) :
    Option (PeelAttempt E) :=
  if session.replayFilter.contains (E.kxPublic packet) then some .replayed
  else
    (rel.add s.sessionStatus.currentIndex).map fun sessionIndex =>
      match s.kxStore.sessionExchange sessionIndex (E.kxPublic packet) with
      | none => .next
      | some kxSharedSecret =>
        match E.peel packet kxSharedSecret with
        | .error .mac => .next
        | .error .other => .failed
        | .ok (action, out) => .peeled rel session sessionIndex action out

/-- The `find_map` of `handle_packet` over the full slots. -/
def findPeeled (s : Mixnet E) (packet : E.Packet) :
    List (RelSessionIndex × Session E) → Option (PeelAttempt E)
  | [] => some .next
  | (rel, session) :: rest => do
    match ← s.peelAttempt packet rel session with
    | .next => s.findPeeled packet rest
    | attempt => pure attempt

/-- The `match action` of `handle_packet`, for a packet peeled in slot `rel`. -/
def handleAction (s : Mixnet E) (packet : E.Packet) (now : Instant) (rel : RelSessionIndex)
    (session : Session E) (sessionIndex : SessionIndex) (out : E.Packet) :
    Action E.Target E.SurbId → Mixnet E × Option (Message E.MessageId E.Surb)
  | .forwardTo target delay =>
    if !E.isMixnode session.topology then (s, none)
    else if s.forwardPacketQueue.remainingCapacity = 0 then (s, none)
    else
      let session := { session with replayFilter := session.replayFilter.insert (E.kxPublic packet) }
      let s := s.setSession rel session
      match E.targetToPeerId session.topology target with
      | .ok peerId =>
        let deadline := now + E.delayToDuration delay s.config.meanForwardingDelay
        let (forwardPacketQueue, changed) := s.forwardPacketQueue.insert ⟨deadline, ⟨peerId, out⟩⟩
        ({ s with
            forwardPacketQueue
            invalidated :=
              if changed then s.invalidated ||| Invalidated.NEXT_FORWARD_PACKET_DEADLINE
              else s.invalidated }, none)
      | .error _ => (s, none)
  | .deliverRequest =>
    if !E.isMixnode session.topology then (s, none)
    else
      let session := { session with replayFilter := session.replayFilter.insert (E.kxPublic packet) }
      let s := s.setSession rel session
      let (fragmentAssembler, message) := E.fragmentAssemblerInsert s.fragmentAssembler
        (E.outPayloadData out)
      ({ s with fragmentAssembler },
        message.map fun message => .request sessionIndex message.data message.surbs)
  | .deliverReply surbId =>
    match s.surbKeystore.entry surbId with
    | none => (s, none)
    | some keys =>
      let res := E.decryptReplyPayload out keys
      let s := { s with surbKeystore := s.surbKeystore.remove surbId }
      match res with
      | none => (s, none)
      | some out =>
        let (fragmentAssembler, message) := E.fragmentAssemblerInsert s.fragmentAssembler
          (E.outPayloadData out)
        ({ s with fragmentAssembler }, message.map fun message => .reply message.id message.data)
  | .deliverCover => (s, none)

/-- The first step of `handle_packet`: `self.kx_store.add_pending_session_secrets()`. -/
def addPendingSessionSecrets (s : Mixnet E) : Mixnet E :=
  { s with kxStore := s.kxStore.addPendingSessionSecrets }

/-- `handle_packet`, with the time `Instant::now()` reads. -/
def handlePacket (s : Mixnet E) (packet : E.Packet) (now : Instant) :
    Option (Mixnet E × Option (Message E.MessageId E.Surb)) := do
  let s := s.addPendingSessionSecrets
  match ← s.findPeeled packet s.sessions.enumerate with
  | .peeled rel session sessionIndex action out =>
    pure (s.handleAction packet now rel session sessionIndex out action)
  | _ => pure (s, none)

/-! ### Outbound packets -/

/-- `next_forward_packet_deadline`. -/
def nextForwardPacketDeadline (s : Mixnet E) : Option Instant :=
  s.forwardPacketQueue.nextDeadline

/-- `pop_next_forward_packet`. -/
def popNextForwardPacket (s : Mixnet E) :
    Mixnet E × Option (AddressedPacket E.PeerId E.Packet) :=
  let (forwardPacketQueue, packet) := s.forwardPacketQueue.pop
  ({ s with
      forwardPacketQueue
      invalidated := s.invalidated ||| Invalidated.NEXT_FORWARD_PACKET_DEADLINE },
    packet.map (·.packet))

/-- The sessions cover packets are generated for, in the current phase. -/
def coverSessions (s : Mixnet E) : List (RelSessionIndex × Session E) :=
  s.sessions.enumerate.filter fun (rel, _) => E.genCoverPackets s.sessionStatus.phase rel

/-- The mean `next_authored_packet_delay` draws the delay from: the least mean authored packet
period of the sessions cover packets are generated for. -/
def authoredPacketPeriod (s : Mixnet E) : Option Duration :=
  (s.coverSessions.map (·.2.meanAuthoredPacketPeriod)).min?

/-- `next_authored_packet_delay`. -/
def nextAuthoredPacketDelay (s : Mixnet E) (rng : E.Rng) : Option Duration :=
  s.authoredPacketPeriod.map (E.sampleAuthoredDelay rng)

/-- The session `pop_next_authored_packet` picks: with two sessions, the first with probability
`periods[1] / (periods[0] + periods[1])`. -/
def chooseAuthoredSession (s : Mixnet E) (rng : E.Rng) :
    Option ((RelSessionIndex × Session E) × E.Rng) :=
  match s.coverSessions with
  | [session0, session1] =>
    let period0 := session0.2.meanAuthoredPacketPeriod.asSecsF64
    let period1 := session1.2.meanAuthoredPacketPeriod.asSecsF64
    let (first, rng) := E.genBool rng (period1 / (period0 + period1))
    some (if first then session0 else session1, rng)
  | [session] => some (session, rng)
  | _ => none

/-- Whether the `rng.gen_bool(periods[1] / (periods[0] + periods[1]))` of
`pop_next_authored_packet` panics. `Bernoulli::new` rejects a probability outside `[0, 1]`, and
`gen_bool` unwraps its result. The periods are durations, so the probability is in `[0, 1]` unless
both are zero, when it is `0.0 / 0.0`, which is NaN. -/
def authoredChoicePanics (s : Mixnet E) : Bool :=
  match s.coverSessions with
  | [session0, session1] =>
    session0.2.meanAuthoredPacketPeriod + session1.2.meanAuthoredPacketPeriod == 0
  | _ => false

/-- `pop_next_authored_packet`, where it does not panic (see `authoredChoicePanics`): the step
`Op.popNextAuthoredPacket` is `none` when the choice of session panics. The second `gen_bool`,
of `loop_cover_proportion`, cannot panic for a proportion in `[0, 1]`, as the spec requires of
the configuration. -/
def popNextAuthoredPacket (s : Mixnet E) (ns : E.NetworkStatus) (rng : E.Rng) :
    Mixnet E × Option (AddressedPacket E.PeerId E.Packet) :=
  match s.chooseAuthoredSession rng with
  | none => (s, none)
  | some ((rel, session), rng) =>
    let s := { s with invalidated := s.invalidated ||| Invalidated.NEXT_AUTHORED_PACKET_DEADLINE }
    let (loop, rng) := E.genBool rng s.config.loopCoverProportion
    if loop then (s, genCoverPacket rng session.topology ns .loop s.config)
    else
      let popped :=
        if E.allowRequestsAndReplies s.sessionStatus.phase rel then
          some session.authoredPacketQueue.pop
        else none
      match popped with
      | some (queue, some packet) => (s.setSession rel { session with authoredPacketQueue := queue },
          some packet)
      | _ => (s, genCoverPacket rng session.topology ns .drop s.config)

/-! ### Posting requests and replies -/

/-- The `for surb in fragment_blueprint.surbs(fragment)` loop of `post_request`'s closure, over
the SURB slots, mutating the SURB keystore and `max_reply_delay`. -/
def buildSurbs (rb : E.RequestBuilder) (numHops : ℕ) :
    List ℕ → E.PayloadData → E.Rng → SurbKeystore E × Delay →
      Except E.TopologyErr (E.PayloadData × E.Rng) × (SurbKeystore E × Delay)
  | [], fragment, rng, st => (.ok (fragment, rng), st)
  | slot :: slots, fragment, rng, (surbKeystore, maxReplyDelay) =>
    let ((id, keys), surbKeystore, rng) := surbKeystore.insert rng
    match E.buildSurb rb fragment slot keys rng id numHops with
    | .error e => (.error e, (surbKeystore, maxReplyDelay))
    | .ok ((delay, fragment), rng) =>
      buildSurbs rb numHops slots fragment rng (surbKeystore, max maxReplyDelay delay)

/-- The closure `post_request` passes to `build_packet`. -/
def writeFragment (rb : E.RequestBuilder) (numHops : ℕ) (fragmentBlueprint : E.FragmentBlueprint)
    (fragment : E.PayloadData) (rng : E.Rng) (st : SurbKeystore E × Delay) :
    Except E.TopologyErr (E.PayloadData × E.Rng) × (SurbKeystore E × Delay) :=
  buildSurbs rb numHops (List.range (E.surbSlots fragmentBlueprint))
    (E.writeExceptSurbs fragmentBlueprint fragment) rng st

/-- What `post_request`'s fragment loop mutates: the session's authored packet queue, the SURB
keystore and the two maximum delays; and the RNG. -/
structure RequestLoop (E : Env) where
  queue : AuthoredPacketQueue E
  surbKeystore : SurbKeystore E
  maxRequestDelay : Delay
  maxReplyDelay : Delay
  rng : E.Rng

/-- The `for fragment_blueprint in fragment_blueprints` loop of `post_request`. -/
def buildPackets (rb : E.RequestBuilder) (numHops : ℕ) :
    List E.FragmentBlueprint → RequestLoop E → Except (PostErr E.TopologyErr) Unit × RequestLoop E
  | [], st => (.ok (), st)
  | fragmentBlueprint :: rest, st =>
    match E.buildPacket rb st.rng (writeFragment rb numHops fragmentBlueprint)
        (st.surbKeystore, st.maxReplyDelay) numHops with
    | (.error e, (surbKeystore, maxReplyDelay)) =>
      (.error (.topology e), { st with surbKeystore, maxReplyDelay })
    | (.ok ((packet, delay), rng), (surbKeystore, maxReplyDelay)) =>
      buildPackets rb numHops rest
        { queue := st.queue.push packet
          surbKeystore
          maxRequestDelay := max st.maxRequestDelay delay
          maxReplyDelay
          rng }

/-- The session index of `post_request`: `destination.map_or_else(..)`, the phase's default
request session when no destination is given. -/
def requestSessionIndex (s : Mixnet E) : Option MixnodeId → Option SessionIndex
  | none => (E.defaultRequestSession s.sessionStatus.phase).add s.sessionStatus.currentIndex
  | some destination => some destination.sessionIndex

/-- `post_request`: the engine, the new value of `*destination`, and the result. -/
def postRequest (s : Mixnet E) (destination : Option MixnodeId) (data : List UInt8)
    (numSurbs : ℕ) (ns : E.NetworkStatus) (rng : E.Rng) :
    Option (Mixnet E × Option MixnodeId × Except (PostErr E.TopologyErr) Duration) := do
  let (messageId, rng) := E.fillMessageId rng
  match (E.fragmentBlueprints messageId data numSurbs).filter
      (·.length ≤ s.config.maxFragmentsPerMessage) with
  | none => pure (s, destination, .error .tooManyFragments)
  | some fragmentBlueprints =>
    let sessionIndex ← s.requestSessionIndex destination
    match postSession s.sessions s.sessionStatus sessionIndex with
    | .error e => pure (s, destination, .error e)
    | .ok (rel, session) =>
      if fragmentBlueprints.length > session.authoredPacketQueue.remainingCapacity then
        pure (s, destination, .error .notEnoughSpaceInQueue)
      else
        match E.requestBuilderNew rng session.topology ns (destination.map (·.mixnodeIndex)) with
        | .error e => pure (s, destination, .error (.topology e))
        | .ok (rb, rng) =>
          let (res, st) := buildPackets rb s.config.numHops fragmentBlueprints
            ⟨session.authoredPacketQueue, s.surbKeystore, 0, 0, rng⟩
          let s := { s.setSession rel { session with authoredPacketQueue := st.queue } with
            surbKeystore := st.surbKeystore }
          match res with
          | .error e => pure (s, destination, .error e)
          | .ok () =>
            pure (s, some ⟨sessionIndex, E.destinationIndex rb⟩,
              .ok (E.delayToDuration (st.maxRequestDelay + st.maxReplyDelay)
                s.config.meanForwardingDelay))

/-- The `for fragment_blueprint in fragment_blueprints` loop of `post_reply`: `none` is the
panic of `surbs.pop().expect(..)`. -/
def completeReplies (topology : E.Topology) :
    List E.FragmentBlueprint → AuthoredPacketQueue E → List E.Surb →
      Option (Except (PostErr E.TopologyErr) Unit × AuthoredPacketQueue E × List E.Surb)
  | [], queue, surbs => some (.ok (), queue, surbs)
  | fragmentBlueprint :: rest, queue, surbs => do
    let packet := E.mutPayloadData E.defaultPacket (E.writeExceptSurbs fragmentBlueprint)
    let (surb, surbs) ← popLast surbs
    match E.completeReplyPacket packet surb with
    | none => pure (.error .badSurb, queue, surbs)
    | some (mixnodeIndex, packet) =>
      match E.mixnodeIndexToPeerId topology mixnodeIndex with
      | .error e => pure (.error (.topology e), queue, surbs)
      | .ok peerId => completeReplies topology rest (queue.push ⟨peerId, packet⟩) surbs

/-- `post_reply`: the engine, the new value of `*surbs`, and the result. -/
def postReply (s : Mixnet E) (surbs : List E.Surb) (sessionIndex : SessionIndex)
    (messageId : E.MessageId) (data : List UInt8) :
    Option (Mixnet E × List E.Surb × Except (PostErr E.TopologyErr) Unit) :=
  match (E.fragmentBlueprints messageId data 0).filter
      (·.length ≤ min s.config.maxFragmentsPerMessage surbs.length) with
  | none => some (s, surbs, .error .tooManyFragments)
  | some fragmentBlueprints =>
    match postSession s.sessions s.sessionStatus sessionIndex with
    | .error e => some (s, surbs, .error e)
    | .ok (rel, session) =>
      if fragmentBlueprints.length > session.authoredPacketQueue.remainingCapacity then
        some (s, surbs, .error .notEnoughSpaceInQueue)
      else
        (completeReplies session.topology fragmentBlueprints session.authoredPacketQueue
            surbs).map fun (res, queue, surbs) =>
          (s.setSession rel { session with authoredPacketQueue := queue }, surbs, res)

/-- `take_invalidated`. -/
def takeInvalidated (s : Mixnet E) : Mixnet E × Invalidated :=
  ({ s with invalidated := .empty }, s.invalidated)

end Mixnet

end MixnetCore
