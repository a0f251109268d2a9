import XelisP2p.Core.Writer

namespace XelisP2p

/-!
# Globals — socket addresses on the wire

`globals::ip_to_bytes` and `globals::ip_from_bytes` are not among the sources; the packet
handshake calls them for its peer list, and §6 of the spec gives their wire form: a kind byte
(`0` IPv4, `1` IPv6), the 4 or 16 address bytes, the port as a big-endian `u16`, and any
other kind byte rejected.

* `SocketAddr` — an address, with the `flowinfo` and `scope_id` of an IPv6 one, which the wire
  form does not carry (`SocketAddr.onWire`);
* `ipFromBytes_reads` — `ip_from_bytes` reads back what `ip_to_bytes` wrote, with those two
  cleared;
* `ipFromBytes_canonical` — and it accepts nothing else;
* `SocketAddr.formatV4` — `format!("{}", addr)` of an IPv4 socket address, the text the
  server puts in its handshake's peer list.
-/

/-- `std::net::SocketAddr`: the octets of an IPv4 address and a port, or those of an IPv6
    address, a port and the `flowinfo` and `scope_id` of `SocketAddrV6`, which its `==`
    compares as well. -/
inductive SocketAddr
  | V4 (ip : FixedBytes 4) (port : UInt16)
  | V6 (ip : FixedBytes 16) (port : UInt16) (flowinfo : UInt32) (scope_id : UInt32)
deriving DecidableEq, Repr

/-- The address as the wire form of §6 carries it: an IPv6 address loses its `flowinfo` and
    `scope_id`, which `SocketAddr::new` sets to `0`. -/
def SocketAddr.onWire : SocketAddr → SocketAddr
  | .V4 ip port => .V4 ip port
  | .V6 ip port _ _ => .V6 ip port 0 0

/-- Modelled from the spec: `globals::ip_to_bytes` (§6), kind byte, address, port. -/
def ipToBytes : SocketAddr → List UInt8
  | .V4 ip port => 0 :: ip.data ++ beBytes 2 port.toNat
  | .V6 ip port _ _ => 1 :: ip.data ++ beBytes 2 port.toNat

/-- Modelled from the spec: `globals::ip_from_bytes` (§6); a kind byte other than `0` or
    `1` is rejected. -/
def ipFromBytes : ReaderM SocketAddr := do
  let kind ← readU8
  if kind = 0 then
    let ip ← readArray 4
    let port ← readU16
    pure (.V4 ip port)
  else if kind = 1 then
    let ip ← readArray 16
    let port ← readU16
    pure (.V6 ip port 0 0)
  else Method.fail .InvalidValue

/-- `ip_from_bytes` reads back what `ip_to_bytes` wrote, less what the wire form drops. -/
theorem ipFromBytes_reads (a : SocketAddr) : ipFromBytes.Reads (ipToBytes a) a.onWire := by
  unfold ipFromBytes
  cases a with
  | V4 ip port =>
    refine ReaderM.Reads.congr ?_
      (show [0] ++ (ip.data ++ (beBytes 2 port.toNat ++ [])) = _ by simp [ipToBytes])
    refine ReaderM.reads_bind (readU8_reads 0) ?_
    refine ReaderM.reads_bind (readArray_reads ip) ?_
    exact ReaderM.reads_bind (readU16_reads port) (ReaderM.reads_pure _)
  | V6 ip port _ _ =>
    refine ReaderM.Reads.congr ?_
      (show [1] ++ (ip.data ++ (beBytes 2 port.toNat ++ [])) = _ by simp [ipToBytes])
    refine ReaderM.reads_bind (readU8_reads 1) ?_
    simp only [show (1 : UInt8) ≠ 0 by decide, if_false, if_true]
    refine ReaderM.reads_bind (readArray_reads ip) ?_
    exact ReaderM.reads_bind (readU16_reads port) (ReaderM.reads_pure _)

/-- The bytes `ip_from_bytes` accepts are exactly `ip_to_bytes` of the address it returns. -/
theorem ipFromBytes_canonical : ipFromBytes.Sound (fun l a => l = ipToBytes a) := by
  refine ReaderM.sound_bind readU8_sound fun l kind hl => ?_
  subst hl
  split_ifs with h0 h1
  · refine ReaderM.sound_bind (readArray_sound 4) fun l₁ ip h₁ => ?_
    refine ReaderM.sound_bind readU16_canonical fun l₂ port h₂ => ?_
    exact ReaderM.sound_pure (by simp [ipToBytes, h0, h₁, h₂])
  · refine ReaderM.sound_bind (readArray_sound 16) fun l₁ ip h₁ => ?_
    refine ReaderM.sound_bind readU16_canonical fun l₂ port h₂ => ?_
    exact ReaderM.sound_pure (by simp [ipToBytes, h1, h₁, h₂])
  · exact ReaderM.sound_fail _

/-! ### Socket addresses as text -/

/-- The decimal digits of `n`, most significant first; `fuel` bounds their number. -/
def decimalDigits : Nat → Nat → List UInt8
  | 0, _ => []
  | fuel + 1, n =>
    (if n < 10 then [] else decimalDigits fuel (n / 10)) ++ [UInt8.ofNat (48 + n % 10)]

/-- `format!("{}", n)` of an unsigned integer: its decimal digits in ASCII. -/
def decimal (n : Nat) : List UInt8 := decimalDigits (n + 1) n

/-- `Display` of `Ipv4Addr`: the octets in decimal, joined by `.`. -/
def dottedDecimal : List UInt8 → List UInt8
  | [] => []
  | [o] => decimal o.toNat
  | o :: os => decimal o.toNat ++ 46 :: dottedDecimal os

theorem ascii_ofNat {n : Nat} (h : n < 0x80) : UInt8.ofNat n < 0x80 := by
  rw [UInt8.lt_def, BitVec.lt_def]
  show (UInt8.ofNat n).toNat < 128
  rw [uint8_toNat_ofNat]; omega

theorem decimalDigits_ascii : ∀ (fuel n : Nat), ∀ b ∈ decimalDigits fuel n, b < 0x80
  | 0, _ => by simp [decimalDigits]
  | fuel + 1, n => by
    intro b hb
    simp only [decimalDigits, List.mem_append, List.mem_singleton] at hb
    rcases hb with hb | rfl
    · split at hb
      · simp at hb
      · exact decimalDigits_ascii fuel _ b hb
    · exact ascii_ofNat (by omega)

theorem dottedDecimal_ascii : ∀ (l : List UInt8), ∀ b ∈ dottedDecimal l, b < 0x80
  | [] => by simp [dottedDecimal]
  | [o] => decimalDigits_ascii _ _
  | o :: p :: os => by
    intro b hb
    simp only [dottedDecimal, List.mem_append, List.mem_cons] at hb
    rcases hb with hb | rfl | hb
    · exact decimalDigits_ascii _ _ b hb
    · decide
    · exact dottedDecimal_ascii (p :: os) b (by simpa [dottedDecimal] using hb)

/-- `format!("{}", addr)` of an IPv4 socket address: `a.b.c.d:port`. -/
def SocketAddr.formatV4 (ip : FixedBytes 4) (port : UInt16) : RString :=
  ⟨dottedDecimal ip.data ++ 58 :: decimal port.toNat, utf8Valid_of_ascii _ fun b hb => by
    simp only [List.mem_append, List.mem_cons] at hb
    rcases hb with hb | rfl | hb
    · exact dottedDecimal_ascii _ b hb
    · decide
    · exact decimalDigits_ascii _ _ b hb⟩

/-- `192.168.100.200:2125` is 20 bytes of text. -/
example : (SocketAddr.formatV4 ⟨[192, 168, 100, 200], rfl⟩ 2125).bytes =
    [49, 57, 50, 46, 49, 54, 56, 46, 49, 48, 48, 46, 50, 48, 48, 58, 50, 49, 50, 53] := by
  decide

/-- The ASCII digits at the front of `s`, and what follows them. -/
def spanDigits : List UInt8 → List Nat × List UInt8
  | b :: s =>
    if 48 ≤ b.toNat ∧ b.toNat ≤ 57 then
      match spanDigits s with
      | (ds, rest) => ((b.toNat - 48) :: ds, rest)
    else ([], b :: s)
  | [] => ([], [])

/-- `Parser::read_number` of std in base 10, into an integer type whose values are those below
    `bound`: at least one digit, at most `max_digits`, no leading `0` unless allowed, and
    `none` on overflow. -/
def readNumber (bound : Nat) (max_digits : Option Nat) ( allow_zero_prefix : Bool)
    (s : List UInt8) : Option (Nat × List UInt8) :=
  match spanDigits s with
  | (ds, rest) =>
    let v := ds.foldl (fun acc d => acc * 10 + d) 0
    if ds = [] ∨ bound ≤ v ∨ max_digits.any (· < ds.length) ∨
        ( allow_zero_prefix = false ∧ ds.head? = some 0 ∧ 1 < ds.length) then none
    else some (v, rest)

/-- `Parser::read_given_char`. -/
def readGivenChar (c : UInt8) : List UInt8 → Option (List UInt8)
  | b :: s => if b = c then some s else none
  | [] => none

/-- `str::parse::<SocketAddr>` of std for the IPv4 form `a.b.c.d:port`: four numbers below
    256 of at most three digits and without a leading `0`, then a port below 65536, and
    nothing after.  Modelled from the spec: std's parser; the IPv6 form is not read here. -/
def SocketAddr.parseV4 (s : RString) : Option SocketAddr := do
  let (a, s) ← readNumber 256 (some 3) false s.bytes
  let s ← readGivenChar 46 s
  let (b, s) ← readNumber 256 (some 3) false s
  let s ← readGivenChar 46 s
  let (c, s) ← readNumber 256 (some 3) false s
  let s ← readGivenChar 46 s
  let (d, s) ← readNumber 256 (some 3) false s
  let s ← readGivenChar 58 s
  let (port, s) ← readNumber 65536 none true s
  if s = [] then
    some (.V4 ⟨[UInt8.ofNat a, UInt8.ofNat b, UInt8.ofNat c, UInt8.ofNat d], rfl⟩ (UInt16.ofNat port))
  else none

end XelisP2p
