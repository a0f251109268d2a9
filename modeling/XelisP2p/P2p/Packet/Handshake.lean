import XelisP2p.Globals

namespace XelisP2p.Packet

/-!
# Packet — the handshake and its wire form

`p2p/packet/handshake.rs`: the first message on every connection.  `Handshake::write`
serializes the fields in declared order; `Handshake::read` reads them back, checking the
lengths as it goes, and ends with `Handshake::new`, whose `assert!`s panic on a value out of
bounds.

* `Handshake` — the fields of the struct together with the `assert!`s of `new`, its only
  constructor;
* `Handshake.read_write` — **round trip**: `read` of what `write` wrote, followed by any
  bytes, stops right after it and returns the same handshake but for the `flowinfo` and
  `scope_id` of its IPv6 peers, which the wire form does not carry (`Handshake.onWire`);
* `Handshake.read_write_scoped` — so a peer `[fe80::1%2]:2125` comes back as `[fe80::1]:2125`,
  a different `SocketAddr`;
* `Handshake.write_of_read` — **canonical form**: whatever `read` accepts is, byte for byte,
  what `write` writes for the handshake it returns;
* `Handshake.read_safe` — on any bytes `read` never panics and stays within them.
-/

/-- `Handshake::MAX_LEN`. -/
def Handshake.MAX_LEN : Nat := 16

/-- `packet::handshake::Handshake`.  Its fields are private and `Handshake::new` is its only
    constructor, so every value satisfies the `assert!`s of `new`, kept here as fields. -/
structure Handshake where
  version : RString
  node_tag : Option RString
  network_id : FixedBytes 16
  peer_id : UInt64
  local_port : UInt16
  utc_time : UInt64
  block_height : UInt64
  block_top_hash : Hash
  peers : List SocketAddr
  version_len : 0 < version.len ∧ version.len ≤ Handshake.MAX_LEN
  node_tag_len : ∀ t ∈ node_tag, 0 < t.len ∧ t.len ≤ Handshake.MAX_LEN
  peers_len : peers.length ≤ Handshake.MAX_LEN
deriving DecidableEq

/-- `Handshake::new`; `none` is a failed `assert!` (a panic). -/
def Handshake.new (version : RString) (node_tag : Option RString) (network_id : FixedBytes 16)
    (peer_id : UInt64) (local_port : UInt16) (utc_time : UInt64) (block_height : UInt64)
    (block_top_hash : Hash) (peers : List SocketAddr) : Option Handshake :=
  if h₁ : 0 < version.len ∧ version.len ≤ Handshake.MAX_LEN then
    if h₂ : ∀ t ∈ node_tag, 0 < t.len ∧ t.len ≤ Handshake.MAX_LEN then
      if h₃ : peers.length ≤ Handshake.MAX_LEN then
        some ⟨version, node_tag, network_id, peer_id, local_port, utc_time, block_height,
          block_top_hash, peers, h₁, h₂, h₃⟩
      else none
    else none
  else none

/-- `new` rebuilds every handshake from its own fields. -/
theorem Handshake.new_fields (h : Handshake) :
    Handshake.new h.version h.node_tag h.network_id h.peer_id h.local_port h.utc_time
      h.block_height h.block_top_hash h.peers = some h := by
  rw [Handshake.new, dif_pos h.version_len, dif_pos h.node_tag_len, dif_pos h.peers_len]

/-! ### `write` -/

/-- `Serializer::write` for `Handshake`. -/
def Handshake.write (h : Handshake) (writer : Writer) : Writer :=
  let writer := writer.writeString h.version
  let writer := writer.writeOptionalString h.node_tag
  let writer := writer.writeBytes h.network_id.data
  let writer := writer.writeU64 h.peer_id
  let writer := writer.writeU16 h.local_port
  let writer := writer.writeU64 h.utc_time
  let writer := writer.writeU64 h.block_height
  let writer := writer.writeHash h.block_top_hash
  let writer := writer.writeU8 (UInt8.ofNat h.peers.length)
  h.peers.foldl (fun writer peer => writer.writeBytes (ipToBytes peer)) writer

theorem Writer.foldl_writeBytes_bytes (peers : List SocketAddr) (w : Writer) :
    (peers.foldl (fun writer peer => writer.writeBytes (ipToBytes peer)) w).bytes =
      w.bytes ++ peers.flatMap ipToBytes := by
  induction peers generalizing w with
  | nil => simp
  | cons p ps ih => simp [ih, List.append_assoc]

/-- The wire layout of §6: the fields in declared order, then the peer count and peers. -/
theorem Handshake.write_bytes (h : Handshake) (w : Writer) :
    (h.write w).bytes = w.bytes ++ (UInt8.ofNat h.version.len :: h.version.bytes) ++
      (Writer.new.writeOptionalString h.node_tag).bytes ++ h.network_id.data ++
      beBytes 8 h.peer_id.toNat ++ beBytes 2 h.local_port.toNat ++ beBytes 8 h.utc_time.toNat ++
      beBytes 8 h.block_height.toNat ++ h.block_top_hash.bytes.data ++
      [UInt8.ofNat h.peers.length] ++ h.peers.flatMap ipToBytes := by
  cases hn : h.node_tag <;> simp [Handshake.write, hn, Writer.foldl_writeBytes_bytes]

/-! ### `read` -/

/-- `if let Some(tag) = &node_tag { if tag.len() > MAX_LEN { return Err(InvalidSize) } }`. -/
def checkNodeTag : Option RString → ReaderM Unit
  | some tag => Method.failIf (tag.len > Handshake.MAX_LEN) .InvalidSize
  | none => pure ()

/-- The loop `for _ in 0..peers_len { peers.push(ip_from_bytes(reader)?) }`. -/
def readPeers : Nat → ReaderM (List SocketAddr)
  | 0 => pure []
  | n + 1 => do
    let peer ← ipFromBytes
    let peers ← readPeers n
    pure (peer :: peers)

/-- `Serializer::read` for `Handshake`. -/
def Handshake.read : ReaderM Handshake := do
  let version ← readString
  Method.failIf (version.len = 0 ∨ version.len > Handshake.MAX_LEN) .InvalidSize
  let node_tag ← readOptionalString
  checkNodeTag node_tag
  let network_id ← readArray 16
  let peer_id ← readU64
  let local_port ← readU16
  let utc_time ← readU64
  let block_height ← readU64
  let top ← readBytes32
  let block_top_hash := Hash.mk top
  let peers_len ← readU8
  Method.failIf (peers_len.toNat > Handshake.MAX_LEN) .InvalidSize
  let peers ← readPeers peers_len.toNat
  match Handshake.new version node_tag network_id peer_id local_port utc_time block_height
      block_top_hash peers with
  | some h => pure h
  | none => Method.abort

/-! ### Round trip -/

/-- The handshake `read` gives back for `h`: its IPv6 peers without their `flowinfo` and
    `scope_id`. -/
def Handshake.onWire (h : Handshake) : Handshake :=
  { h with peers := h.peers.map SocketAddr.onWire, peers_len := by simpa using h.peers_len }

/-- `onWire` changes a handshake exactly when one of its peers has a `flowinfo` or a
    `scope_id`. -/
theorem Handshake.onWire_eq_self (h : Handshake) :
    h.onWire = h ↔ ∀ p ∈ h.peers, p.onWire = p := by
  obtain ⟨_, _, _, _, _, _, _, _, peers, _, _, hl⟩ := h
  simp only [Handshake.onWire, Handshake.mk.injEq, true_and, and_true]
  clear hl
  induction peers with
  | nil => simp
  | cons p ps ih => simp [ih]

theorem readPeers_reads (peers : List SocketAddr) :
    (readPeers peers.length).Reads (peers.flatMap ipToBytes) (peers.map SocketAddr.onWire) := by
  induction peers with
  | nil => exact ReaderM.reads_pure []
  | cons p ps ih =>
    refine ReaderM.Reads.congr ?_
      (show ipToBytes p ++ (ps.flatMap ipToBytes ++ []) = _ by simp)
    exact ReaderM.reads_bind (ipFromBytes_reads p) (ReaderM.reads_bind ih (ReaderM.reads_pure _))

theorem checkNodeTag_reads {o : Option RString} (h : ∀ t ∈ o, t.len ≤ Handshake.MAX_LEN) :
    (checkNodeTag o).Reads [] () := by
  cases o with
  | none => exact ReaderM.reads_pure ()
  | some t => exact ReaderM.reads_failIf (Nat.not_lt.mpr (h t rfl)) _

/-- `read` takes exactly the bytes `write` wrote and returns the handshake they came from,
    as the wire form carries it. -/
theorem Handshake.read_reads (h : Handshake) :
    Handshake.read.Reads (h.write Writer.new).bytes h.onWire := by
  obtain ⟨hv₀, hv₁⟩ := h.version_len
  have hmax : Handshake.MAX_LEN = 16 := rfl
  have hlen : (UInt8.ofNat h.peers.length).toNat = h.peers.length := by
    have := h.peers_len; rw [uint8_toNat_ofNat]; omega
  refine ReaderM.Reads.congr ?_ (show (UInt8.ofNat h.version.len :: h.version.bytes) ++
      ((Writer.new.writeOptionalString h.node_tag).bytes ++ (h.network_id.data ++
      (beBytes 8 h.peer_id.toNat ++ (beBytes 2 h.local_port.toNat ++ (beBytes 8 h.utc_time.toNat ++
      (beBytes 8 h.block_height.toNat ++ (h.block_top_hash.bytes.data ++
      ([UInt8.ofNat h.peers.length] ++ h.peers.flatMap ipToBytes)))))))) = _ by
    rw [Handshake.write_bytes]; simp only [List.append_assoc, Writer.new_bytes, List.nil_append])
  unfold Handshake.read
  refine ReaderM.reads_bind (readString_reads (by omega)) ?_
  refine ReaderM.reads_bind_nil (ReaderM.reads_failIf (by omega) _) ?_
  refine ReaderM.reads_bind (readOptionalString_reads fun t ht => ?_) ?_
  · have := h.node_tag_len t ht; omega
  refine ReaderM.reads_bind_nil (checkNodeTag_reads fun t ht => (h.node_tag_len t ht).2) ?_
  refine ReaderM.reads_bind (readArray_reads h.network_id) ?_
  refine ReaderM.reads_bind (readU64_reads h.peer_id) ?_
  refine ReaderM.reads_bind (readU16_reads h.local_port) ?_
  refine ReaderM.reads_bind (readU64_reads h.utc_time) ?_
  refine ReaderM.reads_bind (readU64_reads h.block_height) ?_
  refine ReaderM.reads_bind (readArray_reads h.block_top_hash.bytes) ?_
  refine ReaderM.reads_bind (readU8_reads _) ?_
  refine ReaderM.reads_bind_nil
    (ReaderM.reads_failIf (by rw [hlen]; exact Nat.not_lt.mpr h.peers_len) _) ?_
  rw [hlen]
  refine ReaderM.Reads.congr (ReaderM.reads_bind (readPeers_reads h.peers) ?_) (List.append_nil _)
  rw [show (⟨h.block_top_hash.bytes⟩ : Hash) = h.block_top_hash from rfl,
    show Handshake.new h.version h.node_tag h.network_id h.peer_id h.local_port h.utc_time
      h.block_height h.block_top_hash (h.peers.map SocketAddr.onWire) = some h.onWire from
      Handshake.new_fields h.onWire]
  exact ReaderM.reads_pure h.onWire

/-- **Handshake round trip.** For every handshake `h` and every byte suffix `s`, reading the
    bytes `write` wrote for `h`, followed by `s`, stops right after them and returns `h` with
    the `flowinfo` and `scope_id` of its IPv6 peers cleared, so a frame holding exactly one
    handshake is read in full; the handshake read is `h` itself exactly when no peer had
    either. -/
theorem Handshake.read_write (h : Handshake) (s : List UInt8) :
    Handshake.read (Reader.new ((h.write Writer.new).bytes ++ s)) =
      .ok h.onWire ⟨(h.write Writer.new).bytes ++ s, (h.write Writer.new).bytes.length⟩ ∧
    (h.onWire = h ↔ ∀ p ∈ h.peers, p.onWire = p) := by
  refine ⟨?_, h.onWire_eq_self⟩
  rw [h.read_reads _ s (Reader.valid_new _) rfl]
  simp [Reader.new, Reader.advance]

/-- The handshake of the spec's first scenario: version `0.1.0`, no tag, network id `[0; 16]`,
    peer id 42, port 2125, time 1 700 000 000, height 0, zero top hash, no peers. -/
def scenarioHandshake : Handshake where
  version := ⟨[0x30, 0x2E, 0x31, 0x2E, 0x30], by decide⟩
  node_tag := none
  network_id := FixedBytes.zero 16
  peer_id := 42
  local_port := 2125
  utc_time := 1700000000
  block_height := 0
  block_top_hash := Hash.zero
  peers := []
  version_len := by decide
  node_tag_len := by simp
  peers_len := by decide

/-- Its 82 wire bytes, beginning `05 30 2E 31 2E 30 00 00`. -/
def scenarioBytes : List UInt8 :=
  [0x05, 0x30, 0x2E, 0x31, 0x2E, 0x30, 0x00] ++ List.replicate 16 0 ++
    [0, 0, 0, 0, 0, 0, 0, 0x2A, 0x08, 0x4D, 0, 0, 0, 0, 0x65, 0x53, 0xF1, 0x00] ++
    List.replicate 8 0 ++ List.replicate 32 0 ++ [0]

example : (scenarioHandshake.write Writer.new).bytes = scenarioBytes := rfl

/-- The scenario's handshake listing one peer, the link-local `[fe80::1%2]:2125`: scope id
    `2`, flowinfo `0`. -/
def scopedHandshake : Handshake :=
  { scenarioHandshake with
    peers := [.V6 ⟨[0xFE, 0x80, 0, 0, 0, 0, 0, 0, 0, 0, 0, 0, 0, 0, 0, 1], rfl⟩ 2125 0 2]
    peers_len := by decide }

/-- **A scoped peer does not come back.**  `read` of the bytes `write` wrote for
    `scopedHandshake` succeeds, but its peer is `[fe80::1]:2125`, scope id `0`: the handshake
    it returns differs from the one written. -/
theorem Handshake.read_write_scoped :
    ∃ h r, Handshake.read (Reader.new (scopedHandshake.write Writer.new).bytes) = .ok h r ∧
      h.peers = [.V6 ⟨[0xFE, 0x80, 0, 0, 0, 0, 0, 0, 0, 0, 0, 0, 0, 0, 0, 1], rfl⟩ 2125 0 0] ∧
      h ≠ scopedHandshake :=
  ⟨_, _, rfl, rfl, by decide⟩

/-! ### Canonical form -/

theorem readPeers_canonical (n : Nat) :
    (readPeers n).Sound (fun l peers => l = peers.flatMap ipToBytes ∧ peers.length = n) := by
  induction n with
  | zero => exact ReaderM.sound_pure ⟨rfl, rfl⟩
  | succ n ih =>
    refine ReaderM.sound_bind ipFromBytes_canonical fun l p hp => ?_
    refine ReaderM.sound_bind ih fun l' ps ⟨hl', hn⟩ => ?_
    exact ReaderM.sound_pure (by simp [hp, hl', hn])

theorem checkNodeTag_sound (o : Option RString) :
    (checkNodeTag o).Sound (fun l _ => l = [] ∧ ∀ t ∈ o, t.len ≤ Handshake.MAX_LEN) := by
  cases o with
  | none => exact ReaderM.sound_pure ⟨rfl, by simp⟩
  | some t =>
    exact (ReaderM.sound_failIf _ _).mono fun l _ ⟨hl, ht⟩ => ⟨hl, by simpa using ht⟩

/-- `read` never panics, and what it accepts is exactly what `write` writes for its result. -/
theorem Handshake.read_canonical :
    Handshake.read.Sound (fun l h => l = (h.write Writer.new).bytes) := by
  unfold Handshake.read
  refine ReaderM.sound_bind readString_sound fun l₁ version ⟨hl₁, _⟩ => ?_
  refine ReaderM.sound_bind_nil (ReaderM.sound_failIf _ _) fun _ hv => ?_
  refine ReaderM.sound_bind readOptionalString_canonical fun l₃ node_tag ⟨hl₃, ht₀⟩ => ?_
  refine ReaderM.sound_bind_nil (checkNodeTag_sound node_tag) fun _ ht₁ => ?_
  refine ReaderM.sound_bind (readArray_sound 16) fun l₅ network_id hl₅ => ?_
  refine ReaderM.sound_bind readU64_canonical fun l₆ peer_id hl₆ => ?_
  refine ReaderM.sound_bind readU16_canonical fun l₇ local_port hl₇ => ?_
  refine ReaderM.sound_bind readU64_canonical fun l₈ utc_time hl₈ => ?_
  refine ReaderM.sound_bind readU64_canonical fun l₉ block_height hl₉ => ?_
  refine ReaderM.sound_bind (readArray_sound 32) fun l₁₀ top hl₁₀ => ?_
  refine ReaderM.sound_bind readU8_sound fun l₁₁ peers_len hl₁₁ => ?_
  refine ReaderM.sound_bind_nil (ReaderM.sound_failIf _ _) fun _ hp => ?_
  refine ReaderM.sound_bind (readPeers_canonical _) fun l₁₃ peers ⟨hl₁₃, hn⟩ => ?_
  have h₁ : 0 < version.len ∧ version.len ≤ Handshake.MAX_LEN := by omega
  have h₂ : ∀ t ∈ node_tag, 0 < t.len ∧ t.len ≤ Handshake.MAX_LEN :=
    fun t ht => ⟨(ht₀ t ht).1, ht₁ t ht⟩
  have h₃ : peers.length ≤ Handshake.MAX_LEN := by omega
  rw [Handshake.new, dif_pos h₁, dif_pos h₂, dif_pos h₃]
  refine ReaderM.sound_pure ?_
  have hc : UInt8.ofNat peers.length = peers_len := by rw [hn, uint8_ofNat_toNat]
  subst_vars
  rw [Handshake.write_bytes]
  simp only [List.append_assoc, List.append_nil, Writer.new_bytes, List.nil_append]

/-- **Canonical form.** Whenever `read` succeeds on a byte slice `b`, consuming `k` bytes,
    the bytes `write` writes for the handshake it returned are exactly `b[0..k]`. -/
theorem Handshake.write_of_read {b : List UInt8} {h : Handshake} {r : Reader}
    (hr : Handshake.read (Reader.new b) = .ok h r) :
    (h.write Writer.new).bytes = b.take r.totalRead :=
  (Handshake.read_canonical.prefix_of_ok hr).1.symm

/-- `read` accepts the scenario's bytes, and `write` gives them back. -/
theorem scenario_write_of_read : (scenarioHandshake.write Writer.new).bytes = scenarioBytes.take 82 :=
  Handshake.write_of_read
    (show Handshake.read (Reader.new scenarioBytes) = .ok scenarioHandshake ⟨scenarioBytes, 82⟩
      from rfl)

/-- **`read` is safe on any bytes.**  From `Reader::new(b)`, `read` returns `Ok` or `Err`,
    never a panic: every `assert!` of `new` holds for what it read.  An `Ok(h)` carries those
    bounds, and `read` consumed no more than `b.len()` bytes. -/
theorem Handshake.read_safe (b : List UInt8) :
    Handshake.read (Reader.new b) ≠ .panic ∧
      ∀ h r, Handshake.read (Reader.new b) = .ok h r →
        (0 < h.version.len ∧ h.version.len ≤ Handshake.MAX_LEN) ∧
        (∀ t ∈ h.node_tag, 0 < t.len ∧ t.len ≤ Handshake.MAX_LEN) ∧
        h.peers.length ≤ Handshake.MAX_LEN ∧ r.totalRead ≤ b.length :=
  ⟨Handshake.read_canonical.ne_panic (Reader.valid_new b), fun h _ hr =>
    ⟨h.version_len, h.node_tag_len, h.peers_len, (Handshake.read_canonical.prefix_of_ok hr).2⟩⟩

end XelisP2p.Packet
