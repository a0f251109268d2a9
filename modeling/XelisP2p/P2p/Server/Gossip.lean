import XelisP2p.P2p.Server.Registry

namespace XelisP2p

/-!
# P2P — the peer lists nodes gossip

A node tells every node it meets which peers connected to it: `build_handshake` puts
`format!("{}", addr)` of its inbound connections in the handshake it sends, and the node that
receives it runs `verify_handshake`, which parses each string back with `str::parse`, keeps the
addresses it is not connected to, up to its free slots, and hands them to the main task to dial.

* `SocketAddr.parseV4_formatV4` — `parse` reads back the address `format!` wrote, so an IPv4
  address reaches the other node as it was;
* `P2pServer.buildHandshake` — `build_handshake`, its loop `P2pServer.buildHandshakePeers`
  in closed form in `P2pServer.buildHandshakePeers_eq`;
* `World.buildHandshake_reachable` — in every reachable state it panics only on an invalid
  `VERSION`, and advertises the first `MAX_LEN` inbound peers;
* `P2pServer.buildHandshake_fits` — with IPv4 peers the handshake fits the 512-byte buffer
  the receiving node reads it into;
* `World.gossip_peers` — what the receiving node keeps of `P2pServer.advertised`, the
  inbound addresses the other node put in the bytes it sent, when each of their texts is at
  most `MAX_LEN` bytes (`from_bytes` refuses a longer one).
-/

/-! ### Decimal numbers as text -/

section Decimal

theorem decimalDigits_of_lt : ∀ {f g n : Nat}, n < f → n < g →
    decimalDigits f n = decimalDigits g n
  | 0, _, _, hf, _ => absurd hf (Nat.not_lt_zero _)
  | _ + 1, 0, _, _, hg => absurd hg (Nat.not_lt_zero _)
  | f + 1, g + 1, n, hf, hg => by
    simp only [decimalDigits]
    split
    · rfl
    · rw [@decimalDigits_of_lt f g (n / 10) (by omega) (by omega)]

/-- `decimal` without its fuel: the digits of `n / 10`, then the last one. -/
theorem decimal_eq (n : Nat) :
    decimal n = (if n < 10 then [] else decimal (n / 10)) ++ [UInt8.ofNat (48 + n % 10)] := by
  show decimalDigits (n + 1) n = _
  simp only [decimalDigits]
  split
  · rfl
  · rw [decimal, @decimalDigits_of_lt n (n / 10 + 1) (n / 10) (by omega) (by omega)]

theorem decimal_ne_nil (n : Nat) : decimal n ≠ [] := by
  rw [decimal_eq]; simp

theorem decimal_digit (n : Nat) : ∀ b ∈ decimal n, 48 ≤ b.toNat ∧ b.toNat ≤ 57 := by
  induction n using Nat.strong_induction_on with
  | _ n ih =>
    rw [decimal_eq]
    intro b hb
    rcases List.mem_append.mp hb with hb | hb
    · split at hb
      · cases hb
      · exact ih (n / 10) (by omega) b hb
    · rw [List.mem_singleton.mp hb, uint8_toNat_ofNat]; omega

/-- The value `parse` reads off the digits `format!` wrote. -/
theorem foldl_decimal (n : Nat) :
    ((decimal n).map fun b => b.toNat - 48).foldl (fun acc d => acc * 10 + d) 0 = n := by
  induction n using Nat.strong_induction_on with
  | _ n ih =>
    rw [decimal_eq, List.map_append, List.foldl_append]
    split
    · simp only [List.map_nil, List.foldl_nil, List.map_cons, List.foldl_cons, uint8_toNat_ofNat]
      omega
    · simp only [ih (n / 10) (by omega), List.map_cons, List.map_nil, List.foldl_cons,
        List.foldl_nil, uint8_toNat_ofNat]
      omega

theorem length_decimal_le {k : Nat} :
    ∀ {n : Nat}, n < 10 ^ (k + 1) → (decimal n).length ≤ k + 1 := by
  induction k with
  | zero => intro n hn; rw [decimal_eq, if_pos (by simpa using hn)]; simp
  | succ k ih =>
    intro n hn
    rw [decimal_eq, List.length_append]
    split
    · simp
    · have := @ih (n / 10) (by rw [pow_succ] at hn; omega)
      simp only [List.length_singleton]; omega

/-- The first digit of a positive number is not `0`. -/
theorem head_decimal_pos {n : Nat} (hn : 0 < n) :
    ((decimal n).map fun b => b.toNat - 48).head? ≠ some 0 := by
  induction n using Nat.strong_induction_on with
  | _ n ih =>
    rw [decimal_eq]
    split
    · simp only [List.nil_append, List.map_cons, List.map_nil, List.head?_cons, ne_eq,
        Option.some.injEq, uint8_toNat_ofNat]
      omega
    · obtain ⟨d, ds, hd⟩ := List.exists_cons_of_ne_nil (decimal_ne_nil (n / 10))
      have := ih (n / 10) (by omega) (by omega)
      rw [hd] at this ⊢
      simpa using this

/-- `format!` writes no leading `0`: only `0` itself starts with one, and it is one digit. -/
theorem decimal_head (n : Nat) :
    ¬ (((decimal n).map fun b => b.toNat - 48).head? = some 0 ∧ 1 < (decimal n).length) := by
  rintro ⟨h, hl⟩
  rcases Nat.eq_zero_or_pos n with rfl | hn
  · exact absurd hl (by decide)
  · exact head_decimal_pos hn h

theorem spanDigits_append {rest : List UInt8}
    (hrest : ∀ b ∈ rest.head?, ¬ (48 ≤ b.toNat ∧ b.toNat ≤ 57)) :
    ∀ ds : List UInt8, (∀ b ∈ ds, 48 ≤ b.toNat ∧ b.toNat ≤ 57) →
      spanDigits (ds ++ rest) = (ds.map fun b => b.toNat - 48, rest)
  | [], _ => by
    cases rest with
    | nil => rfl
    | cons b s => rw [List.nil_append, spanDigits, if_neg (hrest b rfl)]; rfl
  | d :: ds, h => by
    rw [List.cons_append, spanDigits, if_pos (h d (List.mem_cons_self _ _)),
      spanDigits_append hrest ds fun b hb => h b (List.mem_cons_of_mem _ hb)]
    rfl

/-- `read_number` reads back the number `format!` wrote, when it fits the integer type and
    the digit limit, and stops at the first byte that is not a digit. -/
theorem readNumber_decimal {bound n : Nat} {max_digits : Option Nat} {z : Bool}
    {rest : List UInt8} (hn : n < bound) (hmax : ∀ k ∈ max_digits, (decimal n).length ≤ k)
    (hrest : ∀ b ∈ rest.head?, ¬ (48 ≤ b.toNat ∧ b.toNat ≤ 57)) :
    readNumber bound max_digits z (decimal n ++ rest) = some (n, rest) := by
  rw [readNumber, spanDigits_append hrest _ (decimal_digit n)]
  dsimp only
  rw [foldl_decimal, if_neg]
  rintro (h | h | h | ⟨-, h⟩)
  · exact decimal_ne_nil n (List.map_eq_nil_iff.mp h)
  · omega
  · cases max_digits with
    | none => cases h
    | some k => have := hmax k rfl; simp at h; omega
  · exact decimal_head n (by rwa [List.length_map] at h)

end Decimal

/-! ### Socket addresses as text -/

section Address

theorem length_decimal_octet (o : UInt8) : (decimal o.toNat).length ≤ 3 :=
  @length_decimal_le 2 _ (lt_of_lt_of_le o.toNat_lt_size (by decide))

theorem length_decimal_port (port : UInt16) : (decimal port.toNat).length ≤ 5 :=
  @length_decimal_le 4 _ (lt_of_lt_of_le port.toNat_lt_size (by decide))

/-- An octet written by `format!` and followed by a separator. -/
theorem readNumber_octet (o : UInt8) {c : UInt8} (hc : c.toNat < 48 ∨ 57 < c.toNat)
    (s : List UInt8) :
    readNumber 256 (some 3) false (decimal o.toNat ++ c :: s) = some (o.toNat, c :: s) :=
  readNumber_decimal o.toNat_lt_size (fun _ hk => by cases hk; exact length_decimal_octet o)
    (fun b hb => by cases hb; omega)

@[simp] theorem readGivenChar_cons_self (c : UInt8) (s : List UInt8) :
    readGivenChar c (c :: s) = some s := by
  simp [readGivenChar]

/-- **Addresses round-trip through their text.**  `str::parse::<SocketAddr>` of what
    `format!("{}", addr)` wrote for an IPv4 socket address is that address. -/
theorem SocketAddr.parseV4_formatV4 (ip : FixedBytes 4) (port : UInt16) :
    SocketAddr.parseV4 (SocketAddr.formatV4 ip port) = some (.V4 ip port) := by
  obtain ⟨data, hl⟩ := ip
  match data, hl with
  | [a, b, c, d], hl =>
    have hport : readNumber 65536 none true (decimal port.toNat) = some (port.toNat, []) := by
      rw [← List.append_nil (decimal port.toNat)]
      exact readNumber_decimal port.toNat_lt_size (fun _ hk => by cases hk)
        (fun _ hb => by cases hb)
    simp only [SocketAddr.parseV4, SocketAddr.formatV4, dottedDecimal, List.append_assoc,
      List.cons_append, readNumber_octet _ (.inl (by decide) : (46 : UInt8).toNat < 48 ∨ _),
      readNumber_octet _ (.inr (by decide) : _ ∨ 57 < (58 : UInt8).toNat), readGivenChar_cons_self,
      hport, Option.bind_eq_bind, Option.some_bind, if_pos, uint8_ofNat_toNat,
      uint16_ofNat_toNat]

/-- The text of an IPv4 socket address is at most `255.255.255.255:65535`, 21 bytes. -/
theorem SocketAddr.len_formatV4 (ip : FixedBytes 4) (port : UInt16) :
    (SocketAddr.formatV4 ip port).len ≤ 21 := by
  obtain ⟨data, hl⟩ := ip
  match data, hl with
  | [a, b, c, d], _ =>
    have := length_decimal_octet a
    have := length_decimal_octet b
    have := length_decimal_octet c
    have := length_decimal_octet d
    have := length_decimal_port port
    simp only [RString.len, SocketAddr.formatV4, dottedDecimal, List.length_append,
      List.length_cons]
    omega

end Address

/-! ### `build_handshake` -/

section Build

/-- The loop of `build_handshake`: while fewer than `MAX_LEN` peers are collected, the next
    connection of the iterator, whose address is pushed unless it is outgoing; the end of the
    iterator breaks out.  `display` is `format!("{}", ..)` of an address. -/
def P2pServer.buildHandshakePeers (display : SocketAddr → RString) :
    List RString → List Conn → List RString
  | peers, [] => peers
  | peers, v :: iter =>
    if peers.length < Handshake.MAX_LEN then
      P2pServer.buildHandshakePeers display (if !v.out then peers ++ [display v.addr] else peers)
        iter
    else peers

/-- `build_handshake`.  `VERSION` and `get_current_time()` are not among the sources and are
    parameters; the block height is `0` and the top hash `Hash::zero()`, as the source sets
    them.  `none` is a failed `assert!` of `Handshake::new`. -/
def P2pServer.buildHandshake (cfg : Config) (display : SocketAddr → RString) (VERSION : RString)
    (utc_time : UInt64) (s : P2pServer) : Option Handshake :=
  Handshake.new VERSION s.tag cfg.NETWORK_ID s.peer_id utc_time 0 Hash.zero
    (P2pServer.buildHandshakePeers display [] s.connections.values)

/-- `format!("{}", addr)`: the IPv4 text of `SocketAddr.formatV4`; the IPv6 text
    `[ip%scope_id]:port`, which no modelled run reads back, is the parameter `v6` of the
    address, the port and the scope id (`Display` leaves `flowinfo` out). -/
def SocketAddr.format (v6 : FixedBytes 16 → UInt16 → UInt32 → RString) : SocketAddr → RString
  | .V4 ip port => SocketAddr.formatV4 ip port
  | .V6 ip port _ scope_id => v6 ip port scope_id

/-- The addresses of the inbound connections among `conns`, as `format!` writes them. -/
def inboundPeers (display : SocketAddr → RString) (conns : List Conn) : List RString :=
  (conns.filter fun v => !v.out).map fun v => display v.addr

/-- The loop in closed form: it appends the inbound addresses, in the iterator's order, until
    `MAX_LEN` are collected. -/
theorem P2pServer.buildHandshakePeers_eq (display : SocketAddr → RString) :
    ∀ (peers : List RString) (iter : List Conn), peers.length ≤ Handshake.MAX_LEN →
      P2pServer.buildHandshakePeers display peers iter =
        peers ++ (inboundPeers display iter).take (Handshake.MAX_LEN - peers.length)
  | peers, [], _ => by simp [P2pServer.buildHandshakePeers, inboundPeers]
  | peers, v :: iter, h => by
    rw [P2pServer.buildHandshakePeers]
    split
    · obtain ⟨m, hm⟩ : ∃ m, Handshake.MAX_LEN - peers.length = m + 1 :=
        ⟨Handshake.MAX_LEN - peers.length - 1, by omega⟩
      cases hv : v.out
      · simp only [hv, Bool.not_false, ↓reduceIte]
        rw [P2pServer.buildHandshakePeers_eq display (peers ++ [display v.addr]) iter
          (by simp only [List.length_append, List.length_singleton]; omega)]
        have hi : inboundPeers display (v :: iter) = display v.addr :: inboundPeers display iter :=
          by simp [inboundPeers, hv]
        rw [hi, hm, List.take_succ_cons, List.length_append, List.length_singleton,
          show Handshake.MAX_LEN - (peers.length + 1) = m by omega, List.append_assoc,
          List.singleton_append]
      · simp only [hv, Bool.not_true, Bool.false_eq_true, ↓reduceIte]
        rw [P2pServer.buildHandshakePeers_eq display _ iter h]
        simp [inboundPeers, hv]
    · rw [show Handshake.MAX_LEN - peers.length = 0 by omega]
      simp

/-- The handshake `build_handshake` builds, when `Handshake::new` accepts it: the first
    `MAX_LEN` inbound addresses, under the server's own id and tag and the configured
    network. -/
theorem P2pServer.buildHandshake_spec {cfg : Config} {s : P2pServer}
    {display : SocketAddr → RString} {VERSION : RString} {utc_time : UInt64} {h : Handshake}
    (hb : s.buildHandshake cfg display VERSION utc_time = some h) :
    h.peers = (inboundPeers display s.connections.values).take Handshake.MAX_LEN ∧
      h.version = VERSION ∧ h.node_tag = s.tag ∧ h.peer_id = s.peer_id ∧
      h.network_id = cfg.NETWORK_ID ∧ h.utc_time = utc_time := by
  unfold P2pServer.buildHandshake Handshake.new at hb
  split_ifs at hb
  cases hb
  refine ⟨?_, rfl, rfl, rfl, rfl, rfl⟩
  show P2pServer.buildHandshakePeers display [] _ = _
  rw [P2pServer.buildHandshakePeers_eq display [] _ (Nat.zero_le _)]
  rfl

end Build

/-! ### In every reachable state -/

section Reachable

variable {w w' : World} {cfg : Config} {parse : RString → Option SocketAddr}

theorem P2pServer.new_tag {peer_id : UInt64} {tag : Option RString} {max_peers : Nat}
    {multi_threaded : Bool} {s : P2pServer}
    (h : P2pServer.new peer_id tag max_peers multi_threaded = some s) :
    ∀ t ∈ s.tag, 0 < t.len ∧ t.len ≤ Handshake.MAX_LEN := by
  unfold P2pServer.new at h
  split at h
  · split_ifs at h with ht
    cases h
    rintro t ⟨⟩
    exact ht
  · cases h
    rintro t ⟨⟩

/-- No step changes the tag the server was built with. -/
theorem World.next_tag {a : Action} (hn : w.next cfg parse a = some w') :
    w'.server.tag = w.server.tag := by
  rcases World.next_cases hn with ⟨hs, -⟩ | ⟨k, b, hr⟩ | ⟨c, peers, w₀, -, hs₀, -, hreg⟩
  · rw [hs]
  · obtain ⟨-, hs | ⟨-, hs⟩ | ⟨-, hs⟩⟩ := World.removeConnection_cases hr <;> rw [hs]
  · obtain ⟨r, w₁, h₁, h₂⟩ := World.registerConnection_cases hreg
    obtain ⟨-, -, -, hs₁⟩ := World.addConnection_spec h₁
    rcases h₂ with ⟨hs, -⟩ | ⟨w₂, b, hs₂, -, hr₂⟩
    · rw [hs, hs₁, hs₀]
    · obtain ⟨-, hs | ⟨-, hs⟩ | ⟨-, hs⟩⟩ := World.removeConnection_cases hr₂ <;>
        rw [hs, hs₂, hs₁, hs₀]

/-- The tag passes the `assert!` of `P2pServer::new` in every reachable state. -/
theorem World.Reachable.tag_len (hw : World.Reachable cfg parse w) :
    ∀ t ∈ w.server.tag, 0 < t.len ∧ t.len ≤ Handshake.MAX_LEN :=
  World.Reachable.invariant cfg parse
    (fun w => ∀ t ∈ w.server.tag, 0 < t.len ∧ t.len ≤ Handshake.MAX_LEN)
    (fun hs => by have := P2pServer.new_tag hs; unfold World.start; split <;> exact this)
    (fun _ h hn t ht => h t (World.next_tag hn ▸ ht)) hw

/-- **`build_handshake` panics only on a bad `VERSION`.**  In every reachable state the
    `Handshake::new` it calls accepts exactly when `VERSION` is 1 to `MAX_LEN` bytes long: the
    tag passed the same check in `P2pServer::new`, and the loop stops at `MAX_LEN` peers.  The
    handshake it builds advertises the first `MAX_LEN` inbound connections, in the order the
    iterator gives them, under the server's own id and tag and the configured network. -/
theorem World.buildHandshake_reachable (hw : World.Reachable cfg parse w)
    (display : SocketAddr → RString) (VERSION : RString) (utc_time : UInt64) :
    ((w.server.buildHandshake cfg display VERSION utc_time).isSome ↔
      0 < VERSION.len ∧ VERSION.len ≤ Handshake.MAX_LEN) ∧
    ∀ h ∈ w.server.buildHandshake cfg display VERSION utc_time,
      h.peers = (inboundPeers display w.server.connections.values).take Handshake.MAX_LEN ∧
      h.version = VERSION ∧ h.node_tag = w.server.tag ∧ h.peer_id = w.server.peer_id ∧
      h.network_id = cfg.NETWORK_ID ∧ h.utc_time = utc_time := by
  refine ⟨?_, fun h hh => P2pServer.buildHandshake_spec hh⟩
  have hlen : (P2pServer.buildHandshakePeers display [] w.server.connections.values).length ≤
      Handshake.MAX_LEN := by
    rw [P2pServer.buildHandshakePeers_eq display [] _ (Nat.zero_le _)]
    exact List.length_take_le _ _
  unfold P2pServer.buildHandshake Handshake.new
  by_cases hv : 0 < VERSION.len ∧ VERSION.len ≤ Handshake.MAX_LEN
  · rw [dif_pos hv, dif_pos hw.tag_len, dif_pos hlen]; simp [hv]
  · rw [dif_neg hv]; simp [hv]

/-- Node `1` of the multi-threaded mode registers peer `2`, connected from `10.0.0.2:40000`:
    the handshake of version `1.0.0` it then builds advertises that address. -/
theorem World.buildHandshake_reachable_accept :
    ∃ w, World.run Config.noSeeds SocketAddr.parseV4
        (World.start Config.noSeeds ⟨1, none, 8, true, KeyMap.empty, KeyMap.empty⟩)
        World.acceptPeer2 = some w ∧ w.server.connections.keys = [2] ∧
      World.Reachable Config.noSeeds SocketAddr.parseV4 w ∧
      ((w.server.buildHandshake Config.noSeeds (SocketAddr.format fun _ _ _ => ⟨[], rfl⟩)
          ⟨[49, 46, 48, 46, 48], rfl⟩ 0).isSome ↔
        0 < RString.len ⟨[49, 46, 48, 46, 48], rfl⟩ ∧
          RString.len ⟨[49, 46, 48, 46, 48], rfl⟩ ≤ Handshake.MAX_LEN) ∧
      ∀ h ∈ w.server.buildHandshake Config.noSeeds (SocketAddr.format fun _ _ _ => ⟨[], rfl⟩)
          ⟨[49, 46, 48, 46, 48], rfl⟩ 0,
        h.peers = (inboundPeers (SocketAddr.format fun _ _ _ => ⟨[], rfl⟩)
          w.server.connections.values).take Handshake.MAX_LEN ∧
        h.version = ⟨[49, 46, 48, 46, 48], rfl⟩ ∧ h.node_tag = w.server.tag ∧
        h.peer_id = w.server.peer_id ∧ h.network_id = Config.noSeeds.NETWORK_ID ∧ h.utc_time = 0 :=
  have hw := World.reachable_of_run Config.noSeeds SocketAddr.parseV4
    (rfl : P2pServer.new 1 none 8 true = some _) (rfl : World.run _ _ _ World.acceptPeer2 = _)
  ⟨_, rfl, rfl, hw, World.buildHandshake_reachable hw _ _ 0⟩

/-- Every peer string of the handshake `build_handshake` builds is the address of one of the
    server's inbound connections. -/
theorem P2pServer.mem_buildHandshake_peers {s : P2pServer} {display : SocketAddr → RString}
    {VERSION : RString} {utc_time : UInt64} {h : Handshake}
    (hb : s.buildHandshake cfg display VERSION utc_time = some h) :
    ∀ p ∈ h.peers, ∃ v ∈ s.connections.values, v.out = false ∧ p = display v.addr := by
  intro p hp
  rw [(P2pServer.buildHandshake_spec hb).1] at hp
  obtain ⟨v, hv, rfl⟩ := List.mem_map.mp (List.mem_of_mem_take hp)
  obtain ⟨hv, hin⟩ := List.mem_filter.mp hv
  exact ⟨v, hv, by simpa using hin, rfl⟩

end Reachable

/-! ### The handshake on the wire -/

section Wire

theorem Handshake.length_toBytes (h : Handshake) :
    h.toBytes.length = 1 + h.version.len + (1 + Handshake.nodeTagLen h.node_tag) + 16 + 24 +
      32 + 1 + (Handshake.peersBytes h.peers).length := by
  rw [Handshake.toBytes_eq]
  simp only [List.length_cons, List.length_append, Handshake.length_nodeTagBytes,
    h.network_id.length_eq, length_beBytes, h.block_top_hash.bytes.length_eq, HASH_SIZE]
  rw [show h.version.bytes.length = h.version.len from rfl]
  omega

theorem Handshake.length_peersBytes_le : ∀ ps : List RString, (∀ p ∈ ps, p.len ≤ 21) →
    (Handshake.peersBytes ps).length ≤ 22 * ps.length
  | [], _ => by simp [Handshake.peersBytes]
  | p :: ps, h => by
    have := h p (List.mem_cons_self _ _)
    have := Handshake.length_peersBytes_le ps fun q hq => h q (List.mem_cons_of_mem _ hq)
    rw [Handshake.peersBytes_cons, List.length_append, List.length_cons]
    simp only [List.length_cons]
    rw [show p.bytes.length = p.len from rfl]
    omega

/-- A handshake whose peer strings are at most 21 bytes, the longest IPv4 text, is at most
    459 bytes on the wire: a version and a tag of at most 16 bytes, 74 fixed bytes, and at
    most 16 peers of at most 22 bytes each. -/
theorem Handshake.length_toBytes_le (h : Handshake) (hpeers : ∀ p ∈ h.peers, p.len ≤ 21) :
    h.toBytes.length ≤ 459 := by
  have htag : Handshake.nodeTagLen h.node_tag ≤ 16 := by
    cases ht : h.node_tag with
    | none => exact Nat.zero_le _
    | some t => exact (h.node_tag_len t ht).2
  have hlen := Handshake.length_toBytes h
  have := Handshake.length_peersBytes_le h.peers hpeers
  have := h.version_len.2
  have := h.peers_len
  simp only [Handshake.MAX_LEN] at *
  omega

/-- **A node's handshake fits the buffer it is read into.**  When the inbound connections of a
    server have IPv4 addresses, the handshake `build_handshake` builds is at most 459 bytes on
    the wire: a version and a tag of at most 16 bytes, 74 fixed bytes, and at most 16 peers of
    at most 21 bytes of text each.  The 512-byte buffer `handle_new_connection` reads it into
    holds all of it. -/
theorem P2pServer.buildHandshake_fits {cfg : Config} {s : P2pServer}
    (v6 : FixedBytes 16 → UInt16 → UInt32 → RString) {VERSION : RString} {utc_time : UInt64}
    {h : Handshake} (hb : s.buildHandshake cfg (SocketAddr.format v6) VERSION utc_time = some h)
    (hv4 : ∀ v ∈ s.connections.values, v.out = false → ∃ ip port, v.addr = .V4 ip port) :
    h.toBytes.length ≤ 459 ∧ h.toBytes.take 512 = h.toBytes := by
  have hle := h.length_toBytes_le fun p hp => by
    obtain ⟨v, hv, hout, rfl⟩ := P2pServer.mem_buildHandshake_peers hb p hp
    obtain ⟨ip, port, he⟩ := hv4 v hv hout
    rw [he]
    exact SocketAddr.len_formatV4 ip port
  exact ⟨hle, List.take_of_length_le (by omega)⟩

/-- Node `1` of the multi-threaded mode, with one inbound peer `2` connected from
    `10.0.0.2:40000`. -/
def P2pServer.gossipScenario : P2pServer :=
  ⟨1, none, 8, true, (KeyMap.empty.insert 2 ⟨0, 2, .V4 ⟨[10, 0, 0, 2], rfl⟩ 40000, false⟩).2,
    (KeyMap.empty.insert 2 0).2⟩

/-- The handshake node `1` of `P2pServer.gossipScenario` sends fits the buffer: 95 bytes. -/
theorem P2pServer.buildHandshake_fits_scenario :
    ∃ h, P2pServer.gossipScenario.buildHandshake Config.noSeeds
        (SocketAddr.format fun _ _ _ => ⟨[], rfl⟩) ⟨[49, 46, 48, 46, 48], rfl⟩ 0 = some h ∧
      h.toBytes.length ≤ 459 ∧ h.toBytes.take 512 = h.toBytes := by
  obtain ⟨h, hb⟩ : ∃ h, P2pServer.gossipScenario.buildHandshake Config.noSeeds
      (SocketAddr.format fun _ _ _ => ⟨[], rfl⟩) ⟨[49, 46, 48, 46, 48], rfl⟩ 0 = some h :=
    ⟨_, rfl⟩
  have hv : P2pServer.gossipScenario.connections.values =
      [⟨0, 2, .V4 ⟨[10, 0, 0, 2], rfl⟩ 40000, false⟩] := rfl
  exact ⟨h, hb, P2pServer.buildHandshake_fits _ hb
    fun v hin _ => by rw [hv, List.mem_singleton] at hin; exact ⟨_, _, congrArg Conn.addr hin⟩⟩

end Wire

/-! ### What the receiving node keeps -/

section Receive

variable {w : World} {cfg : Config} {parse : RString → Option SocketAddr}

/-- `verify_handshake` of a handshake of the right network, from a peer id the server is not
    connected to, whose peer strings all parse: it opens the connection's socket and returns
    the parsed addresses it is not connected to, cut to its free slots. -/
theorem World.verifyHandshake_of_mapM {addr : SocketAddr} {handshake : Handshake} {out : Bool}
    {addrs : List SocketAddr} {slots : Nat} (hid : handshake.network_id = cfg.NETWORK_ID)
    (hnew : w.server.isConnectedTo handshake.peer_id = false)
    (hp : handshake.peers.mapM parse = some addrs)
    (hs : w.server.getSlotsAvailable cfg.overflow_checks = some slots) :
    World.verifyHandshake cfg parse addr handshake out w =
      .ok (⟨w.socks.length, handshake.peer_id, addr, out⟩,
        (addrs.filter fun a => !w.server.isConnectedToAddr a).take slots)
        { w with socks := w.socks ++ [⟨false, []⟩] } := by
  unfold World.verifyHandshake
  rw [if_neg (not_not.mpr hid), if_neg (by simp [hnew])]
  simp only [hp, hs]

/-- `parse` reads back every IPv4 address of a list `format!` wrote. -/
theorem mapM_parseV4_format (v6 : FixedBytes 16 → UInt16 → UInt32 → RString) :
    ∀ addrs : List SocketAddr, (∀ a ∈ addrs, ∃ ip port, a = .V4 ip port) →
      (addrs.map (SocketAddr.format v6)).mapM SocketAddr.parseV4 = some addrs
  | [], _ => rfl
  | a :: addrs, h => by
    obtain ⟨ip, port, rfl⟩ := h a (List.mem_cons_self _ _)
    rw [List.map_cons, List.mapM_cons, SocketAddr.format, SocketAddr.parseV4_formatV4,
      mapM_parseV4_format v6 addrs fun a ha => h a (List.mem_cons_of_mem _ ha)]
    rfl

/-- The text of an IPv4 socket address is never empty. -/
theorem SocketAddr.len_formatV4_pos (ip : FixedBytes 4) (port : UInt16) :
    0 < (SocketAddr.formatV4 ip port).len := by
  simp only [RString.len, SocketAddr.formatV4, List.length_append, List.length_cons]
  omega

/-- The addresses a server advertises in the handshake it builds: those of its first `MAX_LEN`
    inbound connections, in the order of its iterator. -/
def P2pServer.advertised (s : P2pServer) : List SocketAddr :=
  ((s.connections.values.filter fun v => !v.out).map Conn.addr).take Handshake.MAX_LEN

/-- The peer strings of the handshake `build_handshake` builds are `format!` of the advertised
    addresses. -/
theorem P2pServer.buildHandshake_peers {s : P2pServer}
    {v6 : FixedBytes 16 → UInt16 → UInt32 → RString} {VERSION : RString} {utc_time : UInt64}
    {h : Handshake} (hb : s.buildHandshake cfg (SocketAddr.format v6) VERSION utc_time = some h) :
    h.peers = s.advertised.map (SocketAddr.format v6) := by
  rw [(P2pServer.buildHandshake_spec hb).1, inboundPeers, P2pServer.advertised, List.map_take,
    List.map_map]
  rfl

/-- **What a node learns from another's handshake, over the wire.**  Node A, in any state,
    builds its handshake with `build_handshake` and sends `to_bytes` of it; node B, of the same
    network, reads those bytes into its 512-byte buffer and runs `from_bytes` and
    `verify_handshake` on them.  When A advertises IPv4 addresses whose text is at most
    `MAX_LEN` bytes, A's peer id is new to B and B has free slots, B accepts the connection and
    keeps, for its main task to dial, the addresses A advertised, in A's order, less those B is
    connected to, cut to B's free slots.  (`from_bytes` refuses a longer peer text:
    `Handshake.fromBytes_toBytes_rejects`.) -/
theorem World.gossip_peers {wA wB : World} (v6 : FixedBytes 16 → UInt16 → UInt32 → RString)
    {VERSION : RString} {utc_time : UInt64} {h : Handshake} {slots : Nat}
    (hb : wA.server.buildHandshake cfg (SocketAddr.format v6) VERSION utc_time = some h)
    (hv4 : ∀ a ∈ wA.server.advertised,
      ∃ ip port, a = .V4 ip port ∧ (SocketAddr.formatV4 ip port).len ≤ Handshake.MAX_LEN)
    (hnew : wB.server.isConnectedTo wA.server.peer_id = false)
    (hslots : wB.server.getSlotsAvailable cfg.overflow_checks = some slots)
    (addr : SocketAddr) (out : Bool) :
    wB.receiveHandshake cfg SocketAddr.parseV4 addr h.toBytes out true =
      { wB with
        socks := wB.socks ++ [⟨false, []⟩]
        main := { wB.main with pending := some (⟨wB.socks.length, wA.server.peer_id, addr, out⟩,
          (wA.server.advertised.filter fun a => !wB.server.isConnectedToAddr a).take slots) } } := by
  obtain ⟨-, -, -, hid, hnet, -⟩ := P2pServer.buildHandshake_spec hb
  have hpeers := P2pServer.buildHandshake_peers hb
  -- every peer string is an IPv4 text of 1 to `MAX_LEN` bytes
  have hlen : ∀ p ∈ h.peers, 0 < p.len ∧ p.len ≤ Handshake.MAX_LEN := fun p hp => by
    rw [hpeers] at hp
    obtain ⟨a, ha, rfl⟩ := List.mem_map.mp hp
    obtain ⟨ip, port, rfl, hle⟩ := hv4 a ha
    exact ⟨SocketAddr.len_formatV4_pos ip port, hle⟩
  -- so the handshake fits the buffer and `from_bytes` reads it back
  have hfit : h.toBytes.take 512 = h.toBytes := List.take_of_length_le
    ((h.length_toBytes_le fun p hp => (hlen p hp).2.trans (by decide)).trans (by decide))
  obtain ⟨s, hs⟩ := h.fromBytesBody_toBytes_ok hlen
  have hparse : h.peers.mapM SocketAddr.parseV4 = some wA.server.advertised := by
    rw [hpeers]
    exact mapM_parseV4_format v6 _ fun a ha =>
      let ⟨ip, port, he, _⟩ := hv4 a ha; ⟨ip, port, he⟩
  rw [← hid] at hnew ⊢
  simp only [World.receiveHandshake, hfit, Handshake.fromBytes, hs, Outcome.result,
    World.verifyHandshake_of_mapM hnet hnew hparse hslots, if_true]

/-- It tells node `3`, which has just started, about peer `2`: node `3` reads node `1`'s
    handshake off the wire and will dial `10.0.0.2:40000`. -/
theorem World.gossip_peers_scenario :
    ∃ h, P2pServer.gossipScenario.buildHandshake Config.noSeeds
        (SocketAddr.format fun _ _ _ => ⟨[], rfl⟩) ⟨[49, 46, 48, 46, 48], rfl⟩ 0 = some h ∧
      (World.start Config.noSeeds ⟨3, none, 8, true, KeyMap.empty, KeyMap.empty⟩).receiveHandshake
          Config.noSeeds SocketAddr.parseV4 (.V4 ⟨[10, 0, 0, 1], rfl⟩ 2125) h.toBytes false true =
        ⟨⟨3, none, 8, true, KeyMap.empty, KeyMap.empty⟩, [⟨false, []⟩], [],
          ⟨true, [], some (⟨0, 1, .V4 ⟨[10, 0, 0, 1], rfl⟩ 2125, false⟩,
            [.V4 ⟨[10, 0, 0, 2], rfl⟩ 40000])⟩, [], none⟩ := by
  obtain ⟨h, hb⟩ : ∃ h, P2pServer.gossipScenario.buildHandshake Config.noSeeds
      (SocketAddr.format fun _ _ _ => ⟨[], rfl⟩) ⟨[49, 46, 48, 46, 48], rfl⟩ 0 = some h :=
    ⟨_, rfl⟩
  have hv : (World.start Config.noSeeds P2pServer.gossipScenario).server.advertised =
      [.V4 ⟨[10, 0, 0, 2], rfl⟩ 40000] := rfl
  exact ⟨h, hb, @World.gossip_peers Config.noSeeds
    (World.start Config.noSeeds P2pServer.gossipScenario)
    (World.start Config.noSeeds ⟨3, none, 8, true, KeyMap.empty, KeyMap.empty⟩) _ _ _ _ 8 hb
    (fun a ha => by rw [hv, List.mem_singleton] at ha; exact ⟨_, _, ha, by decide⟩)
    rfl rfl _ _⟩

end Receive

end XelisP2p
