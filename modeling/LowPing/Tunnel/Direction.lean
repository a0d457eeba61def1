import LowPing.Library.Machine
import LowPing.Bridge.Footprint
import LowPing.Tunnel.Handshake

/-!
# Direction of a tunnel's frames

One bridge, any number of clients and a network that delivers whatever bytes it likes, wherever it
likes. Sealings are kept as history, so that an ideal AEAD is a condition on the openings of a run:
each opens a ciphertext that a key holder sealed with the same nonce and associated data. Both
receive paths use one key and ignore the opened header, so a payload is known to come from the other
endpoint only while no endpoint opens a frame that its own side sealed.
-/

namespace LowPing.Tunnel

open LowPing.Bridge LowPing.Client Library.Machine

/-- What a sealing was made for. -/
inductive Direction where
  /-- A client's SYN. -/
  | syn
  /-- A data frame of the client with a tunnel. -/
  | upstream (tunnel : Nat)
  /-- A frame of the bridge for a session. -/
  | downstream (session : SessionId)
  deriving DecidableEq

/-- One AEAD sealing, as its maker called it. -/
structure Seal where
  /-- Who made it. -/
  direction : Direction
  /-- The key. -/
  aeadKey : AeadKey
  /-- The nonce. -/
  nonce : Nonce
  /-- The associated data. -/
  aad : Bytes
  /-- The plaintext. -/
  payload : Bytes
  deriving DecidableEq

/-- The sealing of a data frame. -/
def dataSeal (direction : Direction) (aeadKey : AeadKey) (header : Header) (payload : Bytes) :
    Seal :=
  ⟨direction, aeadKey, deriveNonce header.connectionId header.sequence, header.encode, payload⟩

/-- The sealing of a SYN. -/
def synSeal (aeadKey : AeadKey) (header : Header) (clientPubkey : PublicKey) (payload : Bytes) :
    Seal :=
  ⟨.syn, aeadKey, deriveNonce header.connectionId header.sequence,
    header.encode ++ clientPubkey.toList, payload⟩

/-- The bridge, the clients' tunnels and the history of both. -/
structure World where
  /-- The bridge process. -/
  bridge : BridgeState
  /-- Every tunnel ever opened by a client. -/
  tunnels : List Sender
  /-- History: what clients sealed. -/
  sealed : List Seal
  /-- History: what receive loops wrote to their local sockets, by tunnel. -/
  locals : List (Nat × Bytes)

/-- Nothing is open yet. -/
def World.start (clock : Instant) : World := ⟨.start clock, [], [], []⟩

/-- One step of an endpoint, or of the network towards one. -/
inductive WorldEvent where
  /-- A client opens a tunnel. -/
  | openTunnel (bridgePubkeyHex licenseToken : String) (connect : ConnectRequest)
      (clientSk : StaticSecret) (connectionId : UInt32)
  /-- A client sends a payload. -/
  | clientSend (tunnel : Nat) (payload : Bytes)
  /-- The network delivers bytes to a client. -/
  | clientReceive (tunnel : Nat) (wire : Bytes)
  /-- The bridge takes a step; a `receive` delivers bytes under any source address. -/
  | bridge (event : Event)

/-- What a client's tunnel adds to the history of sealings. -/
def sentSeals (tunnel : Nat) (sender : Sender) (payload : Bytes) :
    Except ProtocolError Bytes → List Seal
  | .ok _ => [dataSeal (.upstream tunnel) sender.tunnel.aeadKey sender.nextHeader payload]
  | .error _ => []

/-- One step of the world. -/
def World.step (env : BridgeEnv) (text : TextCodec) (world : World) :
    WorldEvent → Option World
  | .openTunnel bridgePubkeyHex licenseToken connect clientSk connectionId =>
    match openTunnelTo env.crypto text bridgePubkeyHex licenseToken connect clientSk connectionId,
        LicenseToken.fromStringB64 text licenseToken with
    | .ok (tunnel, _), .ok token => some { world with
        tunnels := world.tunnels ++ [tunnel.sender]
        sealed := world.sealed ++ [synSeal tunnel.aeadKey (synHeader connectionId)
          (env.crypto.publicKey clientSk) (synPayload token connect)] }
    | _, _ => none
  | .clientSend tunnel payload =>
    match world.tunnels[tunnel]? with
    | none => none
    | some sender =>
      let sent := sender.encryptUpstream env.crypto payload
      some { world with
        tunnels := world.tunnels.set tunnel sent.1
        sealed := world.sealed ++ sentSeals tunnel sender payload sent.2 }
  | .clientReceive tunnel wire =>
    match world.tunnels[tunnel]? with
    | none => none
    | some sender =>
      match sender.tunnel.receive env.crypto wire with
      | none => some world
      | some payload => some { world with locals := world.locals ++ [(tunnel, payload)] }
  | .bridge event => (Bridge.step env world.bridge event).map fun bridge => { world with bridge }

/-- The sealing behind a downstream encryption. -/
def Output.madeSeal (cells : List SessionCell) : Output → Option Seal
  | .encrypted queued session header _ => (cells[session]?).map fun cell =>
    dataSeal (.downstream session) cell.session.aeadKey header queued.packet.payload
  | _ => none

/-- Every sealing so far. -/
def World.seals (world : World) : List Seal :=
  world.sealed ++ world.bridge.trace.filterMap (Output.madeSeal world.bridge.cells)

/-- A data frame that an event opens: who opens it, with which key. -/
structure Opening where
  /-- Opened by the bridge. -/
  atBridge : Bool
  /-- The key. -/
  aeadKey : AeadKey
  /-- The header read from the frame. -/
  header : Header
  /-- The frame. -/
  wire : Bytes

/-- A frame that opens under a key. -/
def openingOf (crypto : Crypto) (atBridge : Bool) (aeadKey : AeadKey) (wire : Bytes) :
    Option Opening :=
  match decryptFrame crypto aeadKey wire with
  | .ok (header, _) => some ⟨atBridge, aeadKey, header, wire⟩
  | .error _ => none

/-- The data frame an event opens. -/
def World.opening (env : BridgeEnv) (world : World) : WorldEvent → Option Opening
  | .clientReceive tunnel wire =>
    (world.tunnels[tunnel]?).bind fun sender =>
      openingOf env.crypto false sender.tunnel.aeadKey wire
  | .bridge (.lock task) =>
    match world.bridge.tasks[task]? with
    | some (.locking _ session pkt) =>
      (world.bridge.cells[session]?).bind fun cell =>
        openingOf env.crypto true cell.session.aeadKey pkt
    | _ => none
  | _ => none

/-- A sealing with the key, nonce, associated data and ciphertext of an opening. -/
def Opening.matches (crypto : Crypto) (opening : Opening) (made : Seal) : Bool :=
  decide (made.aeadKey = opening.aeadKey ∧
    made.nonce = deriveNonce opening.header.connectionId opening.header.sequence ∧
    made.aad = opening.wire.take headerLen ∧
    crypto.encrypt made.aeadKey made.nonce made.aad made.payload = opening.wire.drop headerLen)

/-- An ideal AEAD: what an event opens, a key holder sealed with that nonce and associated data. -/
def idealOpening (env : BridgeEnv) (world : World) (event : WorldEvent) : Bool :=
  match world.opening env event with
  | some opening => world.seals.any fun made => opening.matches env.crypto made
  | none => true

/-- Whether a sealing was made on the side that opens. -/
def Opening.ownSide (opening : Opening) (made : Seal) : Bool :=
  match made.direction with
  | .syn => false
  | .upstream _ => !opening.atBridge
  | .downstream _ => opening.atBridge

/-- No side opens a frame it sealed itself. -/
def noReflection (env : BridgeEnv) (world : World) (event : WorldEvent) : Bool :=
  match world.opening env event with
  | some opening => world.seals.all fun made =>
      !opening.matches env.crypto made || !opening.ownSide made
  | none => true

/-- A payload written to a destination was sealed upstream by the client with the session's key. -/
def World.upstreamAuthentic (world : World) (output : Output) : Prop :=
  match output with
  | .write _ session _ payload _ =>
    ∃ cell tunnel sender, world.bridge.cells[session]? = some cell ∧
      world.tunnels[tunnel]? = some sender ∧
      sender.tunnel.aeadKey = cell.session.aeadKey ∧
      ∃ made ∈ world.seals, made.direction = .upstream tunnel ∧
        made.aeadKey = cell.session.aeadKey ∧ made.payload = payload
  | _ => True

/-- A payload written to a local socket was sealed downstream by the bridge for a session with the
tunnel's key. -/
def World.downstreamAuthentic (world : World) (written : Nat × Bytes) : Prop :=
  ∃ cell session sender, world.tunnels[written.1]? = some sender ∧
    world.bridge.cells[session]? = some cell ∧ cell.session.aeadKey = sender.tunnel.aeadKey ∧
    ∃ made ∈ world.seals, made.direction = .downstream session ∧
      made.aeadKey = sender.tunnel.aeadKey ∧ made.payload = written.2

section

variable {env : BridgeEnv} {text : TextCodec} {world next : World} {event : WorldEvent}

/-- What one step of the world can do. -/
inductive WorldAfter (env : BridgeEnv) (world : World) : WorldEvent → World → Prop where
  /-- A tunnel is opened and its SYN sealed. -/
  | opened (event : WorldEvent) (tunnel : OpenedTunnel) (header : Header)
      (clientPubkey : PublicKey) (payload : Bytes) (quiet : world.opening env event = none) :
      WorldAfter env world event { world with
        tunnels := world.tunnels ++ [tunnel.sender]
        sealed := world.sealed ++ [synSeal tunnel.aeadKey header clientPubkey payload] }
  /-- A client counts, and seals what fits. -/
  | sent (tunnel : Nat) (payload : Bytes) (sender : Sender) (made : List Seal)
      (present : world.tunnels[tunnel]? = some sender)
      (own : ∀ one ∈ made, one.direction = .upstream tunnel ∧
        one.aeadKey = sender.tunnel.aeadKey) :
      WorldAfter env world (.clientSend tunnel payload) { world with
        tunnels := world.tunnels.set tunnel { sender with txSequence := sender.txSequence + 1 }
        sealed := world.sealed ++ made }
  /-- A client drops what does not open. -/
  | dropped (tunnel : Nat) (wire : Bytes) : WorldAfter env world (.clientReceive tunnel wire) world
  /-- A client writes what it opens. -/
  | received (tunnel : Nat) (wire : Bytes) (sender : Sender) (header : Header) (payload : Bytes)
      (present : world.tunnels[tunnel]? = some sender)
      (opened : decryptFrame env.crypto sender.tunnel.aeadKey wire = .ok (header, payload)) :
      WorldAfter env world (.clientReceive tunnel wire)
        { world with locals := world.locals ++ [(tunnel, payload)] }
  /-- The bridge steps. -/
  | stepped (event : Event) (bridge : BridgeState)
      (taken : Bridge.step env world.bridge event = some bridge) :
      WorldAfter env world (.bridge event) { world with bridge }

/-- Every step of the world is one of these. -/
theorem step_after (taken : world.step env text event = some next) :
    WorldAfter env world event next := by
  cases event with
  | openTunnel bridgePubkeyHex licenseToken connect clientSk connectionId =>
    simp only [World.step] at taken
    split at taken
    · obtain rfl := Option.some.inj taken
      exact .opened _ _ _ _ _ rfl
    · contradiction
  | clientSend tunnel payload =>
    simp only [World.step] at taken
    split at taken
    · contradiction
    · rename_i sender present
      obtain rfl := Option.some.inj taken
      refine .sent tunnel payload sender _ present ?_
      intro one member
      unfold sentSeals at member
      split at member
      · obtain rfl := List.mem_singleton.mp member
        exact ⟨rfl, rfl⟩
      · contradiction
  | clientReceive tunnel wire =>
    simp only [World.step, OpenedTunnel.receive] at taken
    split at taken
    · contradiction
    · rename_i sender present
      cases opened : decryptFrame env.crypto sender.tunnel.aeadKey wire with
      | error failure =>
        simp only [opened] at taken
        obtain rfl := Option.some.inj taken
        exact .dropped tunnel wire
      | ok frame =>
        simp only [opened] at taken
        obtain rfl := Option.some.inj taken
        exact .received tunnel wire sender frame.1 frame.2 present opened
  | bridge event =>
    obtain ⟨bridge, stepped, rfl⟩ := Option.map_eq_some_iff.mp taken
    exact .stepped event bridge stepped

/-- A tunnel keeps its key and connection id. -/
theorem tunnels_step {tunnel : Nat} {sender : Sender}
    (taken : world.step env text event = some next)
    (present : world.tunnels[tunnel]? = some sender) :
    ∃ later, next.tunnels[tunnel]? = some later ∧ later.tunnel = sender.tunnel := by
  have bound := (List.getElem?_eq_some_iff.mp present).1
  cases step_after taken with
  | opened _ added header clientPubkey payload quiet =>
    exact ⟨sender, by rw [List.getElem?_append_left bound, present], rfl⟩
  | sent sending payload counted made found own =>
    by_cases same : tunnel = sending
    · subst same
      obtain rfl := Option.some.inj (present.symm.trans found)
      exact ⟨_, List.getElem?_set_self bound, rfl⟩
    · exact ⟨sender, by rw [List.getElem?_set_ne (Ne.symm same), present], rfl⟩
  | _ => exact ⟨sender, present, rfl⟩

/-- A session keeps its key. -/
theorem sessions_step {session : SessionId} {cell : SessionCell}
    (taken : world.step env text event = some next)
    (present : world.bridge.cells[session]? = some cell) :
    ∃ last, next.bridge.cells[session]? = some last ∧
      last.session.aeadKey = cell.session.aeadKey := by
  cases step_after taken with
  | stepped inner bridge stepped =>
    obtain ⟨last, found, moved⟩ := cell_step stepped present
    exact ⟨last, found, moved.aeadKey⟩
  | _ => exact ⟨cell, present, rfl⟩

/-- A bridge step keeps every sealing of the bridge on record. -/
theorem bridgeSeals_step {state later : BridgeState} {inner : Event} {made : Seal}
    (taken : Bridge.step env state inner = some later)
    (member : made ∈ state.trace.filterMap (Output.madeSeal state.cells)) :
    made ∈ later.trace.filterMap (Output.madeSeal later.cells) := by
  obtain ⟨output, recorded, sealing⟩ := List.mem_filterMap.mp member
  refine List.mem_filterMap.mpr ⟨output, (step_footprint taken).trace_grows.subset recorded, ?_⟩
  cases output with
  | encrypted queued session header time =>
    obtain ⟨cell, present, rfl⟩ := Option.map_eq_some_iff.mp sealing
    obtain ⟨last, found, moved⟩ := cell_step taken present
    rw [Output.madeSeal, found, Option.map_some, moved.aeadKey]
  | _ => contradiction

/-- No step forgets a sealing. -/
theorem seals_step (taken : world.step env text event = some next) :
    world.seals ⊆ next.seals := by
  intro made member
  rcases List.mem_append.mp member with client | bridge
  · apply List.mem_append_left
    cases step_after taken with
    | opened => exact List.mem_append_left _ client
    | sent => exact List.mem_append_left _ client
    | _ => exact client
  · apply List.mem_append_right
    cases step_after taken with
    | stepped inner later stepped => exact bridgeSeals_step stepped bridge
    | _ => exact bridge

/-- An authentic destination write stays authentic. -/
theorem upstreamAuthentic_step {output : Output} (taken : world.step env text event = some next)
    (held : world.upstreamAuthentic output) : next.upstreamAuthentic output := by
  cases output with
  | write key session header payload time =>
    obtain ⟨cell, tunnel, sender, present, opened, shared, made, member, direction, same, plain⟩ :=
      held
    obtain ⟨last, found, lastKey⟩ := sessions_step taken present
    obtain ⟨later, kept, laterTunnel⟩ := tunnels_step taken opened
    refine ⟨last, tunnel, later, found, kept, ?_, made, seals_step taken member, direction, ?_,
      plain⟩
    · rw [laterTunnel, lastKey, shared]
    · rw [lastKey, same]
  | _ => trivial

/-- An authentic local write stays authentic. -/
theorem downstreamAuthentic_step {written : Nat × Bytes}
    (taken : world.step env text event = some next) (held : world.downstreamAuthentic written) :
    next.downstreamAuthentic written := by
  obtain ⟨cell, session, sender, opened, present, shared, made, member, direction, same, plain⟩ :=
    held
  obtain ⟨last, found, lastKey⟩ := sessions_step taken present
  obtain ⟨later, kept, laterTunnel⟩ := tunnels_step taken opened
  refine ⟨last, session, later, kept, found, ?_, made, seals_step taken member, direction, ?_,
    plain⟩
  · rw [laterTunnel, lastKey, shared]
  · rw [laterTunnel, same]

/-- What a client's sealing record says about each entry. -/
def World.ownSeal (world : World) (made : Seal) : Prop :=
  match made.direction with
  | .syn => made.aad.length = synHeaderLen
  | .upstream tunnel =>
    ∃ sender, world.tunnels[tunnel]? = some sender ∧ sender.tunnel.aeadKey = made.aeadKey
  | .downstream _ => False

/-- Every record is authentic. -/
structure Authentic (world : World) : Prop where
  /-- The clients' sealings. -/
  own : ∀ made ∈ world.sealed, world.ownSeal made
  /-- The destination writes. -/
  upstream : ∀ output ∈ world.bridge.trace, world.upstreamAuthentic output
  /-- The local writes. -/
  downstream : ∀ written ∈ world.locals, world.downstreamAuthentic written

/-- Under an ideal AEAD without reflection, an opened frame was sealed with its key and payload for
the direction of the opening. -/
theorem opened_sealed (laws : CryptoLaws env.crypto) (held : Authentic world)
    {opening : Opening} {header : Header} {payload : Bytes}
    (ideal : idealOpening env world event = true) (apart : noReflection env world event = true)
    (opens : world.opening env event = some opening)
    (opened : decryptFrame env.crypto opening.aeadKey opening.wire = .ok (header, payload))
    (read : opening.header = header) :
    ∃ made ∈ world.seals, made.aeadKey = opening.aeadKey ∧ made.payload = payload ∧
      made.direction ≠ .syn ∧ opening.ownSide made = false := by
  obtain ⟨made, member, matched⟩ : ∃ made ∈ world.seals,
      opening.matches env.crypto made = true := by
    simpa [idealOpening, opens, List.any_eq_true] using ideal
  obtain ⟨sameKey, sameNonce, sameAad, sameText⟩ := of_decide_eq_true matched
  obtain ⟨long, front, body⟩ := decryptFrame_ok opened
  have plain : made.payload = payload := by
    rw [← read, ← sameText, ← sameAad, ← sameNonce, ← sameKey, laws.decrypt_encrypt] at body
    exact Option.some.inj body
  have foreign : opening.ownSide made = false := by
    simp only [noReflection, opens] at apart
    have other := List.all_eq_true.mp apart made member
    simpa [matched] using other
  refine ⟨made, member, sameKey, plain, ?_, foreign⟩
  intro syn
  rcases List.mem_append.mp member with client | bridge
  · have shape := held.own made client
    rw [World.ownSeal, syn] at shape
    have cut : made.aad.length = headerLen := by
      rw [sameAad, List.length_take]
      simp only [minFrameLen] at long
      omega
    simp only [synHeaderLen, headerLen, pubkeyLen] at shape cut
    omega
  · obtain ⟨output, _, sealing⟩ := List.mem_filterMap.mp bridge
    cases output with
    | encrypted queued session header time =>
      obtain ⟨cell, _, rfl⟩ := Option.map_eq_some_iff.mp sealing
      contradiction
    | _ => contradiction

/-- Under an ideal AEAD without reflection, what the bridge writes is authentic. -/
theorem write_authentic (laws : CryptoLaws env.crypto) (held : Authentic world) {task : Nat}
    {key : SessionKey} {session : SessionId} {pkt payload : Bytes} {cell : SessionCell}
    {header : Header} {time : Instant}
    (ideal : idealOpening env world (.bridge (.lock task)) = true)
    (apart : noReflection env world (.bridge (.lock task)) = true)
    (point : world.bridge.tasks[task]? = some (.locking key session pkt))
    (present : world.bridge.cells[session]? = some cell)
    (opened : decryptFrame env.crypto cell.session.aeadKey pkt = .ok (header, payload)) :
    world.upstreamAuthentic (.write key session header payload time) := by
  have opens : world.opening env (.bridge (.lock task)) =
      some ⟨true, cell.session.aeadKey, header, pkt⟩ := by
    simp [World.opening, openingOf, point, present, opened]
  obtain ⟨made, member, same, plain, data, foreign⟩ :=
    opened_sealed laws held ideal apart opens opened rfl
  cases direction : made.direction with
  | syn => contradiction
  | downstream other =>
    rw [Opening.ownSide, direction] at foreign
    contradiction
  | upstream tunnel =>
    rcases List.mem_append.mp member with client | bridge
    · have own := held.own made client
      rw [World.ownSeal, direction] at own
      obtain ⟨sender, kept, shared⟩ := own
      exact ⟨cell, tunnel, sender, present, kept, shared.trans same, made, member, direction, same,
        plain⟩
    · obtain ⟨output, _, sealing⟩ := List.mem_filterMap.mp bridge
      cases output with
      | encrypted queued target front stamp =>
        obtain ⟨source, _, rfl⟩ := Option.map_eq_some_iff.mp sealing
        contradiction
      | _ => contradiction

/-- Under an ideal AEAD without reflection, what a client writes locally is authentic. -/
theorem receive_authentic (laws : CryptoLaws env.crypto) (held : Authentic world) {tunnel : Nat}
    {wire payload : Bytes} {sender : Sender} {header : Header}
    (ideal : idealOpening env world (.clientReceive tunnel wire) = true)
    (apart : noReflection env world (.clientReceive tunnel wire) = true)
    (present : world.tunnels[tunnel]? = some sender)
    (opened : decryptFrame env.crypto sender.tunnel.aeadKey wire = .ok (header, payload)) :
    world.downstreamAuthentic (tunnel, payload) := by
  have opens : world.opening env (.clientReceive tunnel wire) =
      some ⟨false, sender.tunnel.aeadKey, header, wire⟩ := by
    simp [World.opening, openingOf, present, opened]
  obtain ⟨made, member, same, plain, data, foreign⟩ :=
    opened_sealed laws held ideal apart opens opened rfl
  cases direction : made.direction with
  | syn => contradiction
  | upstream other =>
    rw [Opening.ownSide, direction] at foreign
    contradiction
  | downstream session =>
    rcases List.mem_append.mp member with client | bridge
    · have own := held.own made client
      rw [World.ownSeal, direction] at own
      contradiction
    · obtain ⟨output, _, sealing⟩ := List.mem_filterMap.mp bridge
      cases output with
      | encrypted queued target front stamp =>
        obtain ⟨cell, found, rfl⟩ := Option.map_eq_some_iff.mp sealing
        obtain rfl := Direction.downstream.inj direction
        exact ⟨cell, target, sender, present, found, same, _, member, rfl, same, plain⟩
      | _ => contradiction

/-- The records stay authentic while the AEAD is ideal and nothing is reflected. -/
theorem authentic_step (laws : CryptoLaws env.crypto) (held : Authentic world)
    (ideal : idealOpening env world event = true) (apart : noReflection env world event = true)
    (taken : world.step env text event = some next) : Authentic next where
  own := by
    have kept : ∀ made, world.ownSeal made → next.ownSeal made := by
      intro made own
      unfold World.ownSeal at own ⊢
      cases direction : made.direction with
      | syn =>
        rw [direction] at own
        exact own
      | upstream tunnel =>
        rw [direction] at own
        obtain ⟨sender, present, shared⟩ := own
        obtain ⟨later, found, same⟩ := tunnels_step taken present
        exact ⟨later, found, by rw [same, shared]⟩
      | downstream session =>
        rw [direction] at own
        contradiction
    intro made member
    cases after : step_after taken with
    | opened _ tunnel header clientPubkey payload quiet =>
      rcases List.mem_append.mp member with before | added
      · exact kept made (held.own made before)
      · obtain rfl := List.mem_singleton.mp added
        simp [World.ownSeal, synSeal, synHeaderLen, pubkeyLen]
    | sent tunnel payload sender sealed present own =>
      rcases List.mem_append.mp member with before | added
      · exact kept made (held.own made before)
      · obtain ⟨direction, shared⟩ := own made added
        obtain ⟨later, found, same⟩ := tunnels_step taken present
        rw [World.ownSeal, direction]
        exact ⟨later, found, by rw [same, shared]⟩
    | _ => exact kept made (held.own made member)
  upstream := by
    intro output member
    have old : output ∈ world.bridge.trace → next.upstreamAuthentic output := fun before =>
      upstreamAuthentic_step taken (held.upstream output before)
    cases step_after taken with
    | stepped inner bridge stepped =>
      obtain ⟨outputs, grown, added⟩ := (step_footprint stepped).trace
      rw [grown] at member
      rcases List.mem_append.mp member with before | new
      · exact old before
      · cases added with
        | opened task key session pkt cell header payload point present free opened =>
          obtain rfl := List.mem_singleton.mp new
          exact upstreamAuthentic_step taken
            (write_authentic laws held ideal apart point present opened)
        | reaped toDrop listed =>
          obtain ⟨key, _, session, _, rfl⟩ := mem_reapedOutputs new
          trivial
        | none => contradiction
        | _ =>
          obtain rfl := List.mem_singleton.mp new
          trivial
    | _ => exact old member
  downstream := by
    intro written member
    have old : written ∈ world.locals → next.downstreamAuthentic written := fun before =>
      downstreamAuthentic_step taken (held.downstream written before)
    cases step_after taken with
    | received tunnel wire sender header payload present opened =>
      rcases List.mem_append.mp member with before | added
      · exact old before
      · obtain rfl := List.mem_singleton.mp added
        exact downstreamAuthentic_step taken
          (receive_authentic laws held ideal apart present opened)
    | _ => exact old member

/-- In every run with an ideal AEAD in which no side opens a frame it sealed itself, what the bridge
writes to a session's destination was sealed upstream by that session's client, and what a client
writes to its local socket was sealed downstream for its tunnel. -/
theorem directions_authentic (laws : CryptoLaws env.crypto) {clock : Instant}
    {events : List WorldEvent} {final : World}
    (ideal : Along (World.step env text) (fun world event => idealOpening env world event = true)
      (.start clock) events)
    (apart : Along (World.step env text) (fun world event => noReflection env world event = true)
      (.start clock) events)
    (reached : run (World.step env text) (.start clock) events = some final) :
    (∀ output ∈ final.bridge.trace, final.upstreamAuthentic output) ∧
      ∀ written ∈ final.locals, final.downstreamAuthentic written := by
  have initially : Authentic (.start clock) :=
    ⟨fun made member => by contradiction, fun output member => by contradiction,
      fun written member => by contradiction⟩
  have both := along_and ideal apart
  have held : Authentic final := run_invariant (fun world event next held met taken =>
    authentic_step laws held met.1 met.2 taken) initially both reached
  exact ⟨held.upstream, held.downstream⟩

end

/-- The first client opens its tunnel, and the bridge accepts it. -/
def worldAccept : List WorldEvent :=
  .openTunnel sampleRule.bridgeX25519PubkeyHex sampleRule.licenseToken
    ⟨.udp, sampleRule.destIp, sampleRule.destPort⟩ (List.Vector.replicate 32 1) 5 ::
    firstAccept.map .bridge

/-- A frame in each direction, each delivered to the other side. -/
def exchangedFrames : List WorldEvent :=
  worldAccept ++ [.clientSend 0 [1, 2], .bridge (.receive (samplePeer 1) (firstFrame 0 [1, 2])),
    .bridge (.poll 1 1000), .bridge (.lock 1), .bridge (.writeDone 1)] ++
    firstAnswer.map .bridge ++ [.clientReceive 0 (firstReply [1, 2, 3])]

/-- Both writes of the sample run are authentic. -/
theorem exchangedFrames_authentic : ∃ final,
    run (World.step (sampleEnv 8) standardText) (.start 0) exchangedFrames = some final ∧
      (∀ output ∈ final.bridge.trace, final.upstreamAuthentic output) ∧
      ∀ written ∈ final.locals, final.downstreamAuthentic written := by
  have sample : (run (World.step (sampleEnv 8) standardText) (.start 0)
        exchangedFrames).isSome = true ∧
      Along (World.step (sampleEnv 8) standardText) (fun world event =>
        idealOpening (sampleEnv 8) world event = true ∧
          noReflection (sampleEnv 8) world event = true) (.start 0) exchangedFrames := by
    decide +kernel
  obtain ⟨completes, conditions⟩ := sample
  obtain ⟨final, reached⟩ := Option.isSome_iff_exists.mp completes
  exact ⟨final, reached, directions_authentic (sampleEnv_laws 8)
    (along_imp (fun _ _ met => met.1) conditions) (along_imp (fun _ _ met => met.2) conditions)
    reached⟩

/-- A client's frame comes back to it. -/
def reflectedFrame : List WorldEvent :=
  worldAccept ++ [.clientSend 0 [1], .clientReceive 0 (firstFrame 0 [1])]

/-- Some run under an ideal AEAD writes a payload to a local socket that the bridge never sealed. -/
theorem reflected_frame_written : ¬ ∀ (env : BridgeEnv) (text : TextCodec) (clock : Instant)
    (events : List WorldEvent) (final : World), CryptoLaws env.crypto →
    Along (World.step env text) (fun world event => idealOpening env world event = true)
      (.start clock) events →
    run (World.step env text) (.start clock) events = some final →
    (∀ output ∈ final.bridge.trace, final.upstreamAuthentic output) ∧
      ∀ written ∈ final.locals, final.downstreamAuthentic written := by
  intro authentic
  have sample : ((run (World.step (sampleEnv 8) standardText) (.start 0) reflectedFrame).map
        fun final => (final.locals, final.seals.map Seal.direction)) =
        some ([(0, [1])], [.syn, .upstream 0]) ∧
      Along (World.step (sampleEnv 8) standardText)
        (fun world event => idealOpening (sampleEnv 8) world event = true) (.start 0)
        reflectedFrame := by
    decide +kernel
  obtain ⟨outcome, ideal⟩ := sample
  obtain ⟨final, reached, records⟩ := Option.map_eq_some_iff.mp outcome
  obtain ⟨locals, directions⟩ := Prod.mk.inj records
  have written : (0, [1]) ∈ final.locals := by
    rw [locals]
    exact List.mem_cons_self
  obtain ⟨_, session, _, _, _, _, made, member, downstream, _⟩ :=
    (authentic (sampleEnv 8) standardText 0 reflectedFrame final (sampleEnv_laws 8) ideal
      reached).2 (0, [1]) written
  have listed : made.direction ∈ final.seals.map Seal.direction := List.mem_map_of_mem member
  rw [directions, downstream] at listed
  simp at listed

end LowPing.Tunnel
