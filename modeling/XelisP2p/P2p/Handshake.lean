import XelisP2p.P2p.Error
import XelisP2p.Globals

namespace XelisP2p

/-!
# P2P — the server's handshake and its hand-written wire form

`p2p/handshake.rs`, the handshake that `P2pServer` sends and checks.  `to_bytes` writes
each string as a one-byte length followed by its bytes.  `from_bytes` reads them back with a
read position `n` and a running `expected_size`, the least length `data` must have for what
has been read so far, which it checks before each variable-length part.  It bounds the
version, the node tag and the number of peers by `MAX_LEN`, as `new` does, and it also
bounds the length of each peer string by `MAX_LEN`, which `new` does not.

* `Handshake.fromBytes_toBytes` — **round trip** for every handshake whose peer strings are
  1 to 16 bytes long;
* `Handshake.fromBytes_toBytes_rejects` — every handshake with a peer string of 0 or 17 to
  255 bytes is rejected with `InvalidPeerSize`.
-/

/-- `Handshake::MAX_LEN`. -/
def Handshake.MAX_LEN : Nat := 16

/-- `p2p::handshake::Handshake`.  `Handshake::new` is its only constructor, so every value
    satisfies the `assert!`s of `new`, kept here as fields. -/
structure Handshake where
  version : RString
  node_tag : Option RString
  network_id : FixedBytes 16
  peer_id : UInt64
  utc_time : UInt64
  block_height : UInt64
  block_top_hash : Hash
  peers : List RString
  version_len : 0 < version.len ∧ version.len ≤ Handshake.MAX_LEN
  node_tag_len : ∀ t ∈ node_tag, 0 < t.len ∧ t.len ≤ Handshake.MAX_LEN
  peers_len : peers.length ≤ Handshake.MAX_LEN
deriving DecidableEq

/-- `Handshake::new`; `none` is a failed `assert!` (a panic). -/
def Handshake.new (version : RString) (node_tag : Option RString) (network_id : FixedBytes 16)
    (peer_id utc_time block_height : UInt64) (block_top_hash : Hash) (peers : List RString) :
    Option Handshake :=
  if h₁ : 0 < version.len ∧ version.len ≤ Handshake.MAX_LEN then
    if h₂ : ∀ t ∈ node_tag, 0 < t.len ∧ t.len ≤ Handshake.MAX_LEN then
      if h₃ : peers.length ≤ Handshake.MAX_LEN then
        some ⟨version, node_tag, network_id, peer_id, utc_time, block_height, block_top_hash,
          peers, h₁, h₂, h₃⟩
      else none
    else none
  else none

/-- `new` rebuilds every handshake from its own fields. -/
theorem Handshake.new_fields (h : Handshake) :
    Handshake.new h.version h.node_tag h.network_id h.peer_id h.utc_time h.block_height
      h.block_top_hash h.peers = some h := by
  rw [Handshake.new, dif_pos h.version_len, dif_pos h.node_tag_len, dif_pos h.peers_len]

/-! ### `to_bytes` -/

/-- `to_bytes`: every `push` and `extend` of the source, in order. -/
def Handshake.toBytes (h : Handshake) : List UInt8 :=
  let bytes := [UInt8.ofNat h.version.len] ++ h.version.bytes
  let bytes := match h.node_tag with
    | some tag => bytes ++ [UInt8.ofNat tag.len] ++ (if tag.len > 0 then tag.bytes else [])
    | none => bytes ++ [0]
  let bytes := bytes ++ h.network_id.data
  let bytes := bytes ++ beBytes 8 h.peer_id.toNat
  let bytes := bytes ++ beBytes 8 h.utc_time.toNat
  let bytes := bytes ++ beBytes 8 h.block_height.toNat
  let bytes := bytes ++ h.block_top_hash.bytes.data
  let bytes := bytes ++ [UInt8.ofNat h.peers.length]
  h.peers.foldl (fun bytes peer => bytes ++ [UInt8.ofNat peer.len] ++ peer.bytes) bytes

/-- The node tag as `to_bytes` writes it: its length and bytes, or one byte `0`. -/
def Handshake.nodeTagBytes : Option RString → List UInt8
  | some tag => UInt8.ofNat tag.len :: tag.bytes
  | none => [0]

/-- The peers as `to_bytes` writes them: each as its length and its bytes. -/
def Handshake.peersBytes (peers : List RString) : List UInt8 :=
  peers.flatMap fun peer => UInt8.ofNat peer.len :: peer.bytes

theorem Handshake.foldl_peers (peers : List RString) (bytes : List UInt8) :
    peers.foldl (fun bytes peer => bytes ++ [UInt8.ofNat peer.len] ++ peer.bytes) bytes =
      bytes ++ Handshake.peersBytes peers := by
  induction peers generalizing bytes with
  | nil => simp [Handshake.peersBytes]
  | cons p ps ih => rw [List.foldl_cons, ih]; simp [Handshake.peersBytes]

/-- The wire layout: the fields in declared order, then the peer count and the peers. -/
theorem Handshake.toBytes_eq (h : Handshake) :
    h.toBytes = (UInt8.ofNat h.version.len :: h.version.bytes) ++
      (Handshake.nodeTagBytes h.node_tag ++ (h.network_id.data ++ (beBytes 8 h.peer_id.toNat ++
      (beBytes 8 h.utc_time.toNat ++ (beBytes 8 h.block_height.toNat ++
      (h.block_top_hash.bytes.data ++ (UInt8.ofNat h.peers.length ::
      Handshake.peersBytes h.peers))))))) := by
  simp only [Handshake.toBytes, Handshake.foldl_peers]
  cases hn : h.node_tag with
  | none => simp [Handshake.nodeTagBytes]
  | some tag =>
    have htag : (if tag.len > 0 then tag.bytes else []) = tag.bytes :=
      if_pos (h.node_tag_len tag (hn ▸ rfl)).1
    simp [htag, Handshake.nodeTagBytes]

/-! ### `from_bytes` -/

/-- The locals of `from_bytes` that its body updates: the read position `n` and
    `expected_size`. -/
structure Handshake.Cursor where
  n : Nat
  expected_size : Nat
deriving DecidableEq, Repr

/-- The body of `from_bytes` from some point on, over its locals. -/
abbrev Handshake.FromBytesM (α : Type) : Type := Method Handshake.Cursor P2pError α

/-- `expected_size`. -/
def Handshake.expectedSize : Handshake.FromBytesM Nat := fun s => .ok s.expected_size s

/-- `expected_size += k`, then `expected_size`. -/
def Handshake.expect (k : Nat) : Handshake.FromBytesM Nat := fun s =>
  .ok (s.expected_size + k) { s with expected_size := s.expected_size + k }

/-- `n += k`. -/
def Handshake.advance (k : Nat) : Handshake.FromBytesM Unit := fun s =>
  .ok () { s with n := s.n + k }

/-- `data[n] as usize`; past the end, a panic. -/
def Handshake.byteAt (data : List UInt8) : Handshake.FromBytesM Nat := fun s =>
  match data[s.n]? with
  | some b => .ok b.toNat s
  | none => .panic

/-- `data[n..n + len]`; past the end, a panic. -/
def Handshake.sliceAt (data : List UInt8) (len : Nat) : Handshake.FromBytesM (List UInt8) :=
  fun s => if s.n + len ≤ data.length then .ok ((data.drop s.n).take len) s else .panic

/-- `data[n..n + len].try_into().unwrap()` into `[u8; len]`, then `n += len`. -/
def Handshake.arrayAt (data : List UInt8) (len : Nat) : Handshake.FromBytesM (FixedBytes len) := do
  let array ← Method.unwrap (FixedBytes.tryFrom len (← Handshake.sliceAt data len))
  Handshake.advance len
  pure array

/-- `u64::from_be_bytes(data[n..n + 8].try_into().unwrap())`, then `n += 8`. -/
def Handshake.u64At (data : List UInt8) : Handshake.FromBytesM UInt64 := do
  let array ← Handshake.arrayAt data 8
  pure (UInt64.ofNat (beNat array.data))

/-- The daemon version part of `from_bytes`. -/
def Handshake.fromBytesVersion (data : List UInt8) : Handshake.FromBytesM RString := do
  let version_len ← Handshake.byteAt data
  let expected_size ← Handshake.expect version_len
  Handshake.advance 1
  Method.failIf (version_len = 0 ∨ version_len > Handshake.MAX_LEN ∨ data.length < expected_size)
    (.InvalidVersionSize version_len)
  let version ← Method.unwrap (RString.fromUtf8 (← Handshake.sliceAt data version_len))
  Handshake.advance version_len
  pure version

/-- The node tag part of `from_bytes`. -/
def Handshake.fromBytesNodeTag (data : List UInt8) : Handshake.FromBytesM (Option RString) := do
  let node_tag_len ← Handshake.byteAt data
  let expected_size ← Handshake.expect node_tag_len
  Handshake.advance 1
  Method.failIf (node_tag_len > Handshake.MAX_LEN ∨ data.length < expected_size)
    (.InvalidTagSize node_tag_len)
  let node_tag ← if node_tag_len = 0 then pure none else do
    match RString.fromUtf8 (← Handshake.sliceAt data node_tag_len) with
    | some v => pure (some v)
    | none => Method.fail .InvalidUtf8Sequence
  Handshake.advance node_tag_len
  pure node_tag

/-- The loop `for _ in 0..peers_len` of `from_bytes`, after the peers read so far. -/
def Handshake.fromBytesPeers (data : List UInt8) :
    Nat → List RString → Handshake.FromBytesM (List RString)
  | 0, peers => pure peers
  | k + 1, peers => do
    let size ← Handshake.byteAt data
    let expected_size ← Handshake.expect size
    Method.failIf (size = 0 ∨ size > Handshake.MAX_LEN ∨ data.length < expected_size)
      (.InvalidPeerSize expected_size)
    Handshake.advance 1
    let peer ← Method.unwrap (RString.fromUtf8 (← Handshake.sliceAt data size))
    Handshake.advance size
    Handshake.fromBytesPeers data k (peers ++ [peer])

/-- The body of `from_bytes`. -/
def Handshake.fromBytesBody (data : List UInt8) : Handshake.FromBytesM Handshake := do
  let expected_size ← Handshake.expectedSize
  Method.failIf (data.length < expected_size) (.InvalidMinSize data.length)
  let version ← Handshake.fromBytesVersion data
  let node_tag ← Handshake.fromBytesNodeTag data
  let network_id ← Handshake.arrayAt data 16
  let peer_id ← Handshake.u64At data
  let utc_time ← Handshake.u64At data
  let block_height ← Handshake.u64At data
  let block_top_hash := Hash.mk (← Handshake.arrayAt data HASH_SIZE)
  let peers_len ← Handshake.byteAt data
  let expected_size ← Handshake.expect peers_len
  Method.failIf (peers_len > Handshake.MAX_LEN ∨ data.length < expected_size)
    (.InvalidPeerSize peers_len)
  Handshake.advance 1
  let peers ← Handshake.fromBytesPeers data peers_len []
  Method.unwrap (Handshake.new version node_tag network_id peer_id utc_time block_height
    block_top_hash peers)

/-- `Handshake::from_bytes`, with `expected_size` starting at 75 and `n` at 0; `none` is a
    panic. -/
def Handshake.fromBytes (data : List UInt8) : Option (Except P2pError Handshake) :=
  (Handshake.fromBytesBody data ⟨0, 75⟩).result

/-! ### The read position -/

/-- The read position `n` stands before `rest`, the last bytes of `data`. -/
def Handshake.At (data : List UInt8) (n : Nat) (rest : List UInt8) : Prop :=
  n + rest.length = data.length ∧ data.drop n = rest

theorem Handshake.At.start {data l : List UInt8} (h : data = l) : Handshake.At data 0 l :=
  ⟨by simp [h], by simp [h]⟩

theorem Handshake.At.drop {data l r : List UInt8} {n k : Nat} (h : Handshake.At data n (l ++ r))
    (hl : l.length = k) : Handshake.At data (n + k) r := by
  obtain ⟨h₁, h₂⟩ := h
  refine ⟨by simp only [List.length_append] at h₁; omega, ?_⟩
  rw [← hl, ← List.drop_drop, h₂, List.drop_left]

@[simp] theorem Handshake.expectedSize_apply (n e : Nat) :
    Handshake.expectedSize ⟨n, e⟩ = .ok e ⟨n, e⟩ := rfl

@[simp] theorem Handshake.expect_apply (k n e : Nat) :
    Handshake.expect k ⟨n, e⟩ = .ok (e + k) ⟨n, e + k⟩ := rfl

@[simp] theorem Handshake.advance_apply (k n e : Nat) :
    Handshake.advance k ⟨n, e⟩ = .ok () ⟨n + k, e⟩ := rfl

theorem Handshake.byteAt_of_at {data r : List UInt8} {b : UInt8} {n : Nat} (e : Nat)
    (h : Handshake.At data n (b :: r)) : Handshake.byteAt data ⟨n, e⟩ = .ok b.toNat ⟨n, e⟩ := by
  have hb : data[n]? = some b := by
    rw [← Nat.add_zero n, ← List.getElem?_drop, h.2, List.getElem?_cons_zero]
  simp only [Handshake.byteAt, hb]

theorem Handshake.sliceAt_of_at {data l r : List UInt8} {n k : Nat} (e : Nat)
    (h : Handshake.At data n (l ++ r)) (hl : l.length = k) :
    Handshake.sliceAt data k ⟨n, e⟩ = .ok l ⟨n, e⟩ := by
  have hk : n + k ≤ data.length := by rw [← h.1, List.length_append]; omega
  simp only [Handshake.sliceAt, if_pos hk, h.2, List.take_left' hl]

theorem Handshake.arrayAt_of_at {data r : List UInt8} {n k : Nat} (e : Nat) (a : FixedBytes k)
    (h : Handshake.At data n (a.data ++ r)) :
    Handshake.arrayAt data k ⟨n, e⟩ = .ok a ⟨n + k, e⟩ := by
  simp only [Handshake.arrayAt, Method.bind_apply, Handshake.sliceAt_of_at e h a.length_eq,
    Outcome.bind_ok, FixedBytes.tryFrom_data, Method.unwrap_some, Method.pure_apply,
    Handshake.advance_apply]

theorem Handshake.u64At_of_at {data r : List UInt8} {n : Nat} (e : Nat) (v : UInt64)
    (h : Handshake.At data n (beBytes 8 v.toNat ++ r)) :
    Handshake.u64At data ⟨n, e⟩ = .ok v ⟨n + 8, e⟩ := by
  have hv : beNat (beBytes 8 v.toNat) = v.toNat :=
    (beNat_beBytes 8 v.toNat).trans (Nat.mod_eq_of_lt v.toNat_lt_size)
  simp only [Handshake.u64At, Method.bind_apply,
    Handshake.arrayAt_of_at e ⟨beBytes 8 v.toNat, length_beBytes 8 _⟩ h, Outcome.bind_ok,
    Method.pure_apply, hv, uint64_ofNat_toNat]

theorem Handshake.At.cons {data r : List UInt8} {b : UInt8} {n : Nat}
    (h : Handshake.At data n (b :: r)) : Handshake.At data (n + 1) r :=
  Handshake.At.drop (show Handshake.At data n ([b] ++ r) from h) rfl

/-! ### The parts of `from_bytes` -/

theorem Handshake.toNat_ofNat_len {s : RString} (h : s.len ≤ Handshake.MAX_LEN) :
    (UInt8.ofNat s.len).toNat = s.len := by
  rw [uint8_toNat_ofNat]; unfold Handshake.MAX_LEN at h; omega

/-- A string of 1 to `MAX_LEN` bytes, read as the version. -/
theorem Handshake.fromBytesVersion_of_at {data r : List UInt8} {n e : Nat} {v : RString}
    (hv : 0 < v.len ∧ v.len ≤ Handshake.MAX_LEN) (he : e + v.len ≤ data.length)
    (h : Handshake.At data n ((UInt8.ofNat v.len :: v.bytes) ++ r)) :
    Handshake.fromBytesVersion data ⟨n, e⟩ = .ok v ⟨n + (1 + v.len), e + v.len⟩ := by
  have hc : ¬(v.len = 0 ∨ v.len > Handshake.MAX_LEN ∨ data.length < e + v.len) := by omega
  simp only [Handshake.fromBytesVersion, Method.bind_apply, Handshake.byteAt_of_at e h,
    Handshake.toNat_ofNat_len hv.2, Outcome.bind_ok, Handshake.expect_apply,
    Handshake.advance_apply, Method.failIf, if_neg hc, Method.pure_apply,
    Handshake.sliceAt_of_at _ h.cons (show v.bytes.length = v.len from rfl),
    RString.fromUtf8_bytes, Method.unwrap_some, Nat.add_assoc]

/-- The length byte `to_bytes` writes for the node tag. -/
def Handshake.nodeTagLen : Option RString → Nat
  | some tag => tag.len
  | none => 0

/-- A node tag of 1 to `MAX_LEN` bytes, or none, read as the node tag. -/
theorem Handshake.fromBytesNodeTag_of_at {data r : List UInt8} {n e : Nat} {t : Option RString}
    (ht : ∀ x ∈ t, 0 < x.len ∧ x.len ≤ Handshake.MAX_LEN)
    (he : e + Handshake.nodeTagLen t ≤ data.length)
    (h : Handshake.At data n (Handshake.nodeTagBytes t ++ r)) :
    Handshake.fromBytesNodeTag data ⟨n, e⟩ =
      .ok t ⟨n + (1 + Handshake.nodeTagLen t), e + Handshake.nodeTagLen t⟩ := by
  cases t with
  | none =>
    have hc : ¬(0 > Handshake.MAX_LEN ∨ data.length < e + 0) := by
      simp only [Handshake.nodeTagLen] at he; omega
    simp only [Handshake.fromBytesNodeTag, Method.bind_apply, Handshake.byteAt_of_at e h,
      UInt8.toNat_zero, Outcome.bind_ok, Handshake.expect_apply, Handshake.advance_apply,
      Method.failIf, if_neg hc, Method.pure_apply, if_true, Handshake.nodeTagLen, Nat.add_assoc]
  | some x =>
    obtain ⟨hx₁, hx₂⟩ := ht x rfl
    have hc : ¬(x.len > Handshake.MAX_LEN ∨ data.length < e + x.len) := by
      simp only [Handshake.nodeTagLen] at he; omega
    simp only [Handshake.fromBytesNodeTag, Method.bind_apply, Handshake.byteAt_of_at e h,
      Handshake.toNat_ofNat_len hx₂, Outcome.bind_ok, Handshake.expect_apply,
      Handshake.advance_apply, Method.failIf, if_neg hc, Method.pure_apply,
      if_neg (Nat.pos_iff_ne_zero.mp hx₁),
      Handshake.sliceAt_of_at _ h.cons (show x.bytes.length = x.len from rfl),
      RString.fromUtf8_bytes, Handshake.nodeTagLen, Nat.add_assoc]

theorem Handshake.peersBytes_cons (p : RString) (ps : List RString) :
    Handshake.peersBytes (p :: ps) = (UInt8.ofNat p.len :: p.bytes) ++ Handshake.peersBytes ps :=
  rfl

theorem Handshake.length_le_peersBytes (ps : List RString) :
    ps.length ≤ (Handshake.peersBytes ps).length := by
  induction ps with
  | nil => simp [Handshake.peersBytes]
  | cons p ps ih =>
    simp only [Handshake.peersBytes_cons, List.length_append, List.length_cons]; omega

/-- One pass of the peer loop over a peer string of 1 to `MAX_LEN` bytes. -/
theorem Handshake.fromBytesPeers_step {data r : List UInt8} {p : RString} {acc : List RString}
    {n e k : Nat} (hp : 0 < p.len ∧ p.len ≤ Handshake.MAX_LEN) (he : e + p.len ≤ data.length)
    (h : Handshake.At data n ((UInt8.ofNat p.len :: p.bytes) ++ r)) :
    Handshake.fromBytesPeers data (k + 1) acc ⟨n, e⟩ =
      Handshake.fromBytesPeers data k (acc ++ [p]) ⟨n + (1 + p.len), e + p.len⟩ := by
  have hc : ¬(p.len = 0 ∨ p.len > Handshake.MAX_LEN ∨ data.length < e + p.len) := by omega
  simp only [Handshake.fromBytesPeers, Method.bind_apply, Handshake.byteAt_of_at e h,
    Handshake.toNat_ofNat_len hp.2, Outcome.bind_ok, Handshake.expect_apply,
    Handshake.advance_apply, Method.failIf, if_neg hc, Method.pure_apply,
    Handshake.sliceAt_of_at _ h.cons (show p.bytes.length = p.len from rfl),
    RString.fromUtf8_bytes, Method.unwrap_some, Nat.add_assoc]

/-- A peer string of 0 or more than `MAX_LEN` bytes (and fewer than 256) stops the loop. -/
theorem Handshake.fromBytesPeers_bad_step {data r : List UInt8} {p : RString}
    {acc : List RString} {n e k : Nat} (hp : p.len = 0 ∨ Handshake.MAX_LEN < p.len)
    (h256 : p.len < 256) (h : Handshake.At data n (UInt8.ofNat p.len :: r)) :
    Handshake.fromBytesPeers data (k + 1) acc ⟨n, e⟩ =
      .err (.InvalidPeerSize (e + p.len)) ⟨n, e + p.len⟩ := by
  have hb : (UInt8.ofNat p.len).toNat = p.len := by rw [uint8_toNat_ofNat]; omega
  have hc : p.len = 0 ∨ p.len > Handshake.MAX_LEN ∨ data.length < e + p.len := by omega
  simp only [Handshake.fromBytesPeers, Method.bind_apply, Handshake.byteAt_of_at e h, hb,
    Outcome.bind_ok, Handshake.expect_apply, Method.failIf, if_pos hc, Method.fail_apply,
    Outcome.bind_err]

/-- **The peer loop reads back what `to_bytes` wrote** for peer strings of 1 to `MAX_LEN`
    bytes.  `expected_size` runs ahead of `n` by one byte for each peer still to read. -/
theorem Handshake.fromBytesPeers_of_at {data r : List UInt8} :
    ∀ (peers acc : List RString) (n e : Nat),
      (∀ p ∈ peers, 0 < p.len ∧ p.len ≤ Handshake.MAX_LEN) → e = n + peers.length →
      Handshake.At data n (Handshake.peersBytes peers ++ r) →
      Handshake.fromBytesPeers data peers.length acc ⟨n, e⟩ =
        .ok (acc ++ peers) ⟨n + (Handshake.peersBytes peers).length,
          n + (Handshake.peersBytes peers).length⟩
  | [], acc, n, e, _, he, _ => by simp [Handshake.fromBytesPeers, Handshake.peersBytes, he]
  | p :: ps, acc, n, e, hgood, he, h => by
    rw [Handshake.peersBytes_cons, List.append_assoc] at h
    have hlen := h.1
    have hps := Handshake.length_le_peersBytes ps
    simp only [List.length_append, List.length_cons] at hlen he
    have hp := hgood p (List.mem_cons_self _ _)
    rw [List.length_cons, Handshake.fromBytesPeers_step hp (by unfold RString.len at *; omega) h,
      Handshake.fromBytesPeers_of_at ps (acc ++ [p]) _ _
        (fun q hq => hgood q (List.mem_cons_of_mem _ hq)) (by omega)
        (h.drop (by simp [RString.len, Nat.add_comm]))]
    simp only [List.append_assoc, List.singleton_append, Handshake.peersBytes_cons,
      List.length_append, List.length_cons, RString.len]
    congr 2 <;> omega

/-- **The peer loop stops at a peer string it refuses**: one of 0 or more than `MAX_LEN`
    bytes, however many acceptable ones come before it. -/
theorem Handshake.fromBytesPeers_rejects_of_at {data r : List UInt8} :
    ∀ (peers acc : List RString) (n e : Nat), (∀ p ∈ peers, p.len < 256) →
      (∃ p ∈ peers, p.len = 0 ∨ Handshake.MAX_LEN < p.len) → e = n + peers.length →
      Handshake.At data n (Handshake.peersBytes peers ++ r) →
      ∃ size s, Handshake.fromBytesPeers data peers.length acc ⟨n, e⟩ =
        .err (.InvalidPeerSize size) s
  | [], _, _, _, _, ⟨_, hq, _⟩, _, _ => absurd hq (List.not_mem_nil _)
  | p :: ps, acc, n, e, hshort, hbad, he, h => by
    rw [Handshake.peersBytes_cons, List.append_assoc] at h
    by_cases hp : p.len = 0 ∨ Handshake.MAX_LEN < p.len
    · exact ⟨_, _, Handshake.fromBytesPeers_bad_step hp (hshort p (List.mem_cons_self _ _)) h⟩
    · have hlen := h.1
      have hps := Handshake.length_le_peersBytes ps
      simp only [List.length_append, List.length_cons] at hlen he
      obtain ⟨q, hq, hqbad⟩ := hbad
      have hq' : q ∈ ps := by
        rcases List.mem_cons.mp hq with rfl | hq'
        · exact absurd hqbad hp
        · exact hq'
      rw [List.length_cons, Handshake.fromBytesPeers_step (by omega)
        (by unfold RString.len at *; omega) h]
      exact Handshake.fromBytesPeers_rejects_of_at ps (acc ++ [p]) _ _
        (fun q hq => hshort q (List.mem_cons_of_mem _ hq)) ⟨q, hq', hqbad⟩ (by omega)
        (h.drop (by simp [RString.len, Nat.add_comm]))

theorem Handshake.length_nodeTagBytes (t : Option RString) :
    (Handshake.nodeTagBytes t).length = 1 + Handshake.nodeTagLen t := by
  cases t <;> simp [Handshake.nodeTagBytes, Handshake.nodeTagLen, RString.len, Nat.add_comm]

/-- **`from_bytes` reads the fixed part back**: on what `to_bytes` wrote, it gets through the
    version, the node tag, the fixed fields and the peer count, and enters the peer loop at
    the first peer, with `expected_size` one byte ahead for each peer. -/
theorem Handshake.fromBytesBody_toBytes (h : Handshake) :
    ∃ n e, e = n + h.peers.length ∧
      Handshake.At h.toBytes n (Handshake.peersBytes h.peers) ∧
      Handshake.fromBytesBody h.toBytes ⟨0, 75⟩ =
        (Handshake.fromBytesPeers h.toBytes h.peers.length [] ⟨n, e⟩).bind fun peers =>
          Method.unwrap (Handshake.new h.version h.node_tag h.network_id h.peer_id h.utc_time
            h.block_height h.block_top_hash peers) := by
  have h0 := Handshake.At.start (Handshake.toBytes_eq h)
  have hlen : h.toBytes.length = 75 + h.version.len + Handshake.nodeTagLen h.node_tag +
      (Handshake.peersBytes h.peers).length := by
    rw [Handshake.toBytes_eq]
    simp only [List.length_append, List.length_cons, Handshake.length_nodeTagBytes,
      h.network_id.length_eq, length_beBytes, h.block_top_hash.bytes.length_eq, HASH_SIZE,
      RString.len]
    omega
  have hps := Handshake.length_le_peersBytes h.peers
  have hk : h.peers.length ≤ Handshake.MAX_LEN := h.peers_len
  have hnt : ∀ x ∈ h.node_tag, 0 < x.len ∧ x.len ≤ Handshake.MAX_LEN := h.node_tag_len
  have h1 := h0.drop (show (UInt8.ofNat h.version.len :: h.version.bytes).length =
    1 + h.version.len by simp [RString.len, Nat.add_comm])
  have h2 := h1.drop (Handshake.length_nodeTagBytes h.node_tag)
  have h3 := h2.drop h.network_id.length_eq
  have h4 := h3.drop (length_beBytes 8 h.peer_id.toNat)
  have h5 := h4.drop (length_beBytes 8 h.utc_time.toNat)
  have h6 := h5.drop (length_beBytes 8 h.block_height.toNat)
  have h7 := h6.drop h.block_top_hash.bytes.length_eq
  have hb : (UInt8.ofNat h.peers.length).toNat = h.peers.length := by
    rw [uint8_toNat_ofNat]; unfold Handshake.MAX_LEN at hk; omega
  have hc₀ : ¬h.toBytes.length < 75 := by omega
  have hc : ¬(h.peers.length > Handshake.MAX_LEN ∨ h.toBytes.length <
      75 + h.version.len + Handshake.nodeTagLen h.node_tag + h.peers.length) := by omega
  refine ⟨_, 75 + h.version.len + Handshake.nodeTagLen h.node_tag + h.peers.length,
    by unfold HASH_SIZE; omega, h7.cons, ?_⟩
  simp only [Handshake.fromBytesBody, Method.bind_apply, Handshake.expectedSize_apply,
    Outcome.bind_ok, Method.failIf, if_neg hc₀, Method.pure_apply,
    Handshake.fromBytesVersion_of_at h.version_len
      (show 75 + h.version.len ≤ h.toBytes.length by omega) h0,
    Handshake.fromBytesNodeTag_of_at hnt
      (show 75 + h.version.len + Handshake.nodeTagLen h.node_tag ≤ h.toBytes.length by omega) h1,
    Handshake.arrayAt_of_at _ h.network_id h2, Handshake.u64At_of_at _ h.peer_id h3,
    Handshake.u64At_of_at _ h.utc_time h4, Handshake.u64At_of_at _ h.block_height h5,
    Handshake.arrayAt_of_at _ h.block_top_hash.bytes h6, Handshake.byteAt_of_at _ h7, hb,
    Handshake.expect_apply, if_neg hc, Handshake.advance_apply]

/-! ### Round trip -/

/-- The body of `from_bytes` reads back, to its end, what `to_bytes` wrote for a handshake
    whose peer strings are 1 to `MAX_LEN` bytes long. -/
theorem Handshake.fromBytesBody_toBytes_ok (h : Handshake)
    (hpeers : ∀ p ∈ h.peers, 0 < p.len ∧ p.len ≤ Handshake.MAX_LEN) :
    ∃ s, Handshake.fromBytesBody h.toBytes ⟨0, 75⟩ = .ok h s := by
  obtain ⟨n, e, he, hat, hbody⟩ := h.fromBytesBody_toBytes
  rw [hbody, Handshake.fromBytesPeers_of_at h.peers [] n e hpeers he (by rwa [List.append_nil])]
  simp only [List.nil_append, Outcome.bind_ok, Handshake.new_fields, Method.unwrap_some,
    Method.pure_apply]
  exact ⟨_, rfl⟩

/-- **Round trip.** `from_bytes` of what `to_bytes` wrote is the same handshake, for every
    handshake whose peer strings are 1 to `MAX_LEN` bytes long. -/
theorem Handshake.fromBytes_toBytes (h : Handshake)
    (hpeers : ∀ p ∈ h.peers, 0 < p.len ∧ p.len ≤ Handshake.MAX_LEN) :
    Handshake.fromBytes h.toBytes = some (.ok h) := by
  obtain ⟨s, hs⟩ := h.fromBytesBody_toBytes_ok hpeers
  rw [Handshake.fromBytes, hs]
  rfl

/-- The handshake a server sends with one inbound peer, connected from `10.0.0.1:2125`. -/
def Handshake.scenarioShortPeer : Handshake where
  version := ⟨[49, 46, 48, 46, 48], rfl⟩
  node_tag := none
  network_id := FixedBytes.zero 16
  peer_id := 1
  utc_time := 0
  block_height := 0
  block_top_hash := Hash.zero
  peers := [SocketAddr.formatV4 ⟨[10, 0, 0, 1], rfl⟩ 2125]
  version_len := by decide
  node_tag_len := by simp
  peers_len := by decide

theorem scenario_short_peer_round_trip :
    (∀ p ∈ Handshake.scenarioShortPeer.peers, 0 < p.len ∧ p.len ≤ Handshake.MAX_LEN) ∧
      Handshake.fromBytes Handshake.scenarioShortPeer.toBytes =
        some (.ok Handshake.scenarioShortPeer) :=
  ⟨by decide, Handshake.fromBytes_toBytes _ (by decide)⟩

/-- **A peer string longer than `MAX_LEN` is refused.** `to_bytes` writes peer strings of
    any length below 256 and `new` accepts them, but `from_bytes` refuses one of 0 or more than
    `MAX_LEN` bytes with `InvalidPeerSize`, wherever it stands in the list. -/
theorem Handshake.fromBytes_toBytes_rejects (h : Handshake) (hshort : ∀ p ∈ h.peers, p.len < 256)
    (hbad : ∃ p ∈ h.peers, p.len = 0 ∨ Handshake.MAX_LEN < p.len) :
    ∃ size, Handshake.fromBytes h.toBytes = some (.error (.InvalidPeerSize size)) := by
  obtain ⟨n, e, he, hat, hbody⟩ := h.fromBytesBody_toBytes
  obtain ⟨size, s, hrej⟩ := Handshake.fromBytesPeers_rejects_of_at h.peers [] n e hshort hbad he
    (by rwa [List.append_nil])
  exact ⟨size, by rw [Handshake.fromBytes, hbody, hrej]; rfl⟩

/-- The handshake a server sends with one inbound peer, connected from
    `192.168.100.200:2125`: a peer string of 20 bytes. -/
def Handshake.scenarioLongPeer : Handshake :=
  { Handshake.scenarioShortPeer with
    peers := [SocketAddr.formatV4 ⟨[192, 168, 100, 200], rfl⟩ 2125]
    peers_len := by decide }

/-- The receiving node refuses it, at `expected_size` 101 = 75 + 5 + 0 + 1 + 20. -/
theorem scenario_long_peer_rejected :
    Handshake.fromBytes Handshake.scenarioLongPeer.toBytes =
        some (.error (.InvalidPeerSize 101)) ∧
      ∃ size, Handshake.fromBytes Handshake.scenarioLongPeer.toBytes =
        some (.error (.InvalidPeerSize size)) :=
  ⟨rfl, Handshake.fromBytes_toBytes_rejects _ (by decide) (by decide)⟩

end XelisP2p
