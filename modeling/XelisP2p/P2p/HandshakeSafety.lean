import XelisP2p.P2p.Handshake

namespace XelisP2p

/-!
# P2P — where the legacy `from_bytes` can panic

`Handshake::from_bytes` of `p2p/handshake.rs` indexes `data` directly, guarded by its running
`expected_size`.  Tracing the guard shows that every index and every slice is in range: before
each variable-length part, `expected_size` runs ahead of `n` by the fixed bytes still due (75
at the start, one per peer in the loop), and it never passes `data.len()` once checked.  The
`assert!`s of `new` hold too.  What is left are the `String::from_utf8(..).unwrap()` of the
version and of each peer string: they panic on bytes that are not UTF-8, which an adversarial
peer can send.

* `Handshake.unwrapCursors` — where `from_bytes` reads the length byte of a string it unwraps:
  the version's at `0`, then each peer's in turn, past the node tag and the fixed fields;
* `Handshake.Safe` — what a part of `from_bytes` may come back with: an `Ok` with a
  postcondition, any `Err`, or a panic of which a proposition is known;
* `Handshake.fromBytesBody_safe` — the body, part by part, from `n = 0`, `expected_size = 75`;
* `Handshake.fromBytes_panic_only_utf8` — every panic of `from_bytes` is at one of those
  strings, 1 to `MAX_LEN` bytes within `data` that are not UTF-8, so that on ASCII data it never
  panics (`Handshake.fromBytes_ascii`);
* `Handshake.fromBytes_bad_version` — and a version of 1 to `MAX_LEN` bytes that is not UTF-8
  does panic.
-/

/-- `data[i] as usize`, the length byte of a string, and `0` past the end. -/
def Handshake.lenAt (data : List UInt8) (i : Nat) : Nat := (data[i]?.map UInt8.toNat).getD 0

/-- Where the peers loop of `from_bytes` reads the length byte of each of `k` peer strings, the
    first at `n`: each peer string is its length byte and that many bytes. -/
def Handshake.peerCursors (data : List UInt8) : Nat → Nat → List Nat
  | 0, _ => []
  | k + 1, n => n :: Handshake.peerCursors data k (n + 1 + Handshake.lenAt data n)

/-- Where `from_bytes` reads the length byte of a string it unwraps with
    `String::from_utf8(..).unwrap()`: the version's at `0`; then, past the version (`v` bytes),
    the node tag (`t` bytes, its length at `1 + v`), the 72 bytes of the network id, the peer
    id, the time, the height and the top hash, and the peer count at `74 + v + t`, each peer
    string in turn. -/
def Handshake.unwrapCursors (data : List UInt8) : List Nat :=
  let v := Handshake.lenAt data 0
  let t := Handshake.lenAt data (1 + v)
  0 :: Handshake.peerCursors data (Handshake.lenAt data (74 + v + t)) (75 + v + t)

/-- The string whose length byte is at `n`, `data[n + 1..n + 1 + data[n]]`, is 1 to `MAX_LEN`
    bytes long, lies within `data`, and is not UTF-8. -/
def Handshake.BadUtf8At (data : List UInt8) (n : Nat) : Prop :=
  0 < Handshake.lenAt data n ∧ Handshake.lenAt data n ≤ Handshake.MAX_LEN ∧
    n + 1 + Handshake.lenAt data n ≤ data.length ∧
    RString.fromUtf8 ((data.drop (n + 1)).take (Handshake.lenAt data n)) = none

/-- A string that `from_bytes` unwraps is not UTF-8. -/
def Handshake.BadUtf8 (data : List UInt8) : Prop :=
  ∃ n ∈ Handshake.unwrapCursors data, Handshake.BadUtf8At data n

/-- What a part of `from_bytes` may come back with: an `Ok` with `Q`, any `Err`, or a panic
    where `B` holds. -/
def Handshake.Safe {α : Type} (B : Prop) (Q : Handshake.Cursor → α → Prop) :
    Outcome Handshake.Cursor P2pError α → Prop
  | .ok v s => Q s v
  | .err _ _ => True
  | .panic => B

/-- `expected_size` is at least `k` bytes past `n`, and `data` is that long. -/
def Handshake.Ahead (data : List UInt8) (k : Nat) (s : Handshake.Cursor) : Prop :=
  s.n + k ≤ s.expected_size ∧ s.expected_size ≤ data.length

section Safe

variable {data : List UInt8} {α β : Type} {B B' : Prop}

/-- A part followed by the rest: safe when the part is, and the rest is from what the part's
    postcondition allows. -/
theorem Handshake.safe_bind {x : Outcome Handshake.Cursor P2pError α}
    {f : α → Handshake.Cursor → Outcome Handshake.Cursor P2pError β}
    {Q : Handshake.Cursor → α → Prop} {R : Handshake.Cursor → β → Prop}
    (hx : Handshake.Safe B Q x) (hf : ∀ s v, Q s v → Handshake.Safe B R (f v s)) :
    Handshake.Safe B R (x.bind f) := by
  cases x with
  | ok v s => exact hf s v hx
  | err => trivial
  | panic => exact hx

/-- A weaker postcondition, and a weaker fact about a panic. -/
theorem Handshake.Safe.mono {x : Outcome Handshake.Cursor P2pError α}
    {Q Q' : Handshake.Cursor → α → Prop} (hx : Handshake.Safe B Q x) (hB : B → B')
    (h : ∀ s v, Q s v → Q' s v) : Handshake.Safe B' Q' x := by
  cases x with
  | ok v s => exact h s v hx
  | err => trivial
  | panic => exact hB hx

/-- `?` on a part of `from_bytes`. -/
theorem Handshake.safe_bindM {m : Handshake.FromBytesM α} {f : α → Handshake.FromBytesM β}
    {s : Handshake.Cursor} {Q : Handshake.Cursor → α → Prop} {R : Handshake.Cursor → β → Prop}
    (hm : Handshake.Safe B Q (m s)) (hf : ∀ s v, Q s v → Handshake.Safe B R (f v s)) :
    Handshake.Safe B R ((m >>= f) s) :=
  Handshake.safe_bind hm hf

/-- `return Err(..)` in a part, or go on. -/
theorem Handshake.safe_failIf {c : Prop} [Decidable c] {e : P2pError} {s : Handshake.Cursor}
    {f : Unit → Handshake.Cursor → Outcome Handshake.Cursor P2pError β}
    {R : Handshake.Cursor → β → Prop} (hf : ¬c → Handshake.Safe B R (f () s)) :
    Handshake.Safe B R (((Method.failIf c e : Handshake.FromBytesM Unit) s).bind f) := by
  unfold Method.failIf
  split_ifs with hc
  · trivial
  · exact hf hc

/-- `data[n]` below `data.len()`. -/
theorem Handshake.byteAt_of_lt {n : Nat} (e : Nat) (h : n < data.length) :
    Handshake.byteAt data ⟨n, e⟩ = .ok (Handshake.lenAt data n) ⟨n, e⟩ := by
  simp [Handshake.byteAt, Handshake.lenAt, List.getElem?_eq_getElem h]

/-- `data[n..n + len]` within `data`. -/
theorem Handshake.sliceAt_of_le {n len : Nat} (e : Nat) (h : n + len ≤ data.length) :
    Handshake.sliceAt data len ⟨n, e⟩ = .ok ((data.drop n).take len) ⟨n, e⟩ := if_pos h

/-- `String::from_utf8(data[n + 1..n + 1 + data[n]]).unwrap()` on a string of 1 to `MAX_LEN`
    bytes within `data`: a string of that length, or a panic at a string that is not UTF-8. -/
theorem Handshake.safe_unwrap {n : Nat} {s : Handshake.Cursor}
    {f : RString → Handshake.Cursor → Outcome Handshake.Cursor P2pError β}
    {R : Handshake.Cursor → β → Prop}
    (hlen : 0 < Handshake.lenAt data n ∧ Handshake.lenAt data n ≤ Handshake.MAX_LEN)
    (hin : n + 1 + Handshake.lenAt data n ≤ data.length) (hB : Handshake.BadUtf8At data n → B)
    (hf : ∀ str : RString, str.len = Handshake.lenAt data n → Handshake.Safe B R (f str s)) :
    Handshake.Safe B R
      (((Method.unwrap (RString.fromUtf8 ((data.drop (n + 1)).take (Handshake.lenAt data n))) :
        Handshake.FromBytesM RString) s).bind f) := by
  cases h : RString.fromUtf8 ((data.drop (n + 1)).take (Handshake.lenAt data n)) with
  | none => exact hB ⟨hlen.1, hlen.2, hin, h⟩
  | some str =>
    refine hf str ?_
    rw [RString.len, RString.eq_of_fromUtf8 h, List.length_take, List.length_drop]
    omega

/-! ### The parts of `from_bytes` -/

/-- The version, its length byte at `n`: a string of 1 to `MAX_LEN` bytes, after which `n`
    stands past it and `expected_size` 74 bytes ahead; or a panic at it. -/
theorem Handshake.fromBytesVersion_safe {n e : Nat} (hs : Handshake.Ahead data 75 ⟨n, e⟩) :
    Handshake.Safe (Handshake.BadUtf8At data n)
      (fun s' (v : RString) => Handshake.Ahead data 74 s' ∧
        s'.n = n + 1 + Handshake.lenAt data n ∧ 0 < v.len ∧ v.len ≤ Handshake.MAX_LEN)
      (Handshake.fromBytesVersion data ⟨n, e⟩) := by
  obtain ⟨h₁, h₂⟩ : n + 75 ≤ e ∧ e ≤ data.length := hs
  simp only [Handshake.fromBytesVersion, Method.bind_apply,
    Handshake.byteAt_of_lt e (show n < data.length by omega), Outcome.bind_ok,
    Handshake.expect_apply, Handshake.advance_apply]
  refine Handshake.safe_failIf fun hc => ?_
  simp only [Method.bind_apply, Handshake.sliceAt_of_le _
    (show n + 1 + Handshake.lenAt data n ≤ data.length by omega), Outcome.bind_ok]
  refine Handshake.safe_unwrap (by omega) (by omega) id fun str hstr => ?_
  simp only [Method.bind_apply, Handshake.advance_apply, Outcome.bind_ok, Method.pure_apply]
  exact ⟨⟨by simp only; omega, by simp only; omega⟩, rfl, by omega, by omega⟩

/-- The node tag, its length byte at `n`: none, or a string of 1 to `MAX_LEN` bytes, after
    which `n` stands past it; a tag that is not UTF-8 is an `Err`, and nothing panics. -/
theorem Handshake.fromBytesNodeTag_safe {n e : Nat} (hs : Handshake.Ahead data 74 ⟨n, e⟩) :
    Handshake.Safe False
      (fun s' (t : Option RString) => Handshake.Ahead data 73 s' ∧
        s'.n = n + 1 + Handshake.lenAt data n ∧ ∀ x ∈ t, 0 < x.len ∧ x.len ≤ Handshake.MAX_LEN)
      (Handshake.fromBytesNodeTag data ⟨n, e⟩) := by
  obtain ⟨h₁, h₂⟩ : n + 74 ≤ e ∧ e ≤ data.length := hs
  simp only [Handshake.fromBytesNodeTag, Method.bind_apply,
    Handshake.byteAt_of_lt e (show n < data.length by omega), Outcome.bind_ok,
    Handshake.expect_apply, Handshake.advance_apply]
  refine Handshake.safe_failIf fun hc => ?_
  split_ifs with h0
  · simp only [Method.bind_apply, Method.pure_apply, Outcome.bind_ok, Handshake.advance_apply]
    exact ⟨⟨by simp only; omega, by simp only; omega⟩, by simp [h0], by simp⟩
  · simp only [Method.bind_apply, Handshake.sliceAt_of_le _
      (show n + 1 + Handshake.lenAt data n ≤ data.length by omega), Outcome.bind_ok]
    cases h : RString.fromUtf8 ((data.drop (n + 1)).take (Handshake.lenAt data n)) with
    | none => trivial
    | some x =>
      have hx : x.len = Handshake.lenAt data n := by
        rw [RString.len, RString.eq_of_fromUtf8 h, List.length_take, List.length_drop]; omega
      simp only [Method.pure_apply, Outcome.bind_ok, Handshake.advance_apply]
      refine ⟨⟨by simp only; omega, by simp only; omega⟩, rfl, fun y hy => ?_⟩
      cases hy
      omega

/-- `data[n..n + len].try_into().unwrap()`: in range, and always of length `len`. -/
theorem Handshake.arrayAt_safe {k len : Nat} {s : Handshake.Cursor}
    (hs : Handshake.Ahead data (k + len) s) :
    Handshake.Safe False
      (fun s' (_ : FixedBytes len) => Handshake.Ahead data k s' ∧ s'.n = s.n + len)
      (Handshake.arrayAt data len s) := by
  obtain ⟨n, e⟩ := s
  obtain ⟨h₁, h₂⟩ : n + (k + len) ≤ e ∧ e ≤ data.length := hs
  have hl : ((data.drop n).take len).length = len := by
    rw [List.length_take, List.length_drop]; omega
  simp only [Handshake.arrayAt, Method.bind_apply, Handshake.sliceAt_of_le e
    (show n + len ≤ data.length by omega), Outcome.bind_ok,
    FixedBytes.tryFrom_of_length hl, Method.unwrap_some, Method.pure_apply,
    Handshake.advance_apply]
  exact ⟨⟨by simp only; omega, h₂⟩, rfl⟩

/-- `u64::from_be_bytes(data[n..n + 8].try_into().unwrap())`: in range. -/
theorem Handshake.u64At_safe {k : Nat} {s : Handshake.Cursor}
    (hs : Handshake.Ahead data (k + 8) s) :
    Handshake.Safe False (fun s' (_ : UInt64) => Handshake.Ahead data k s' ∧ s'.n = s.n + 8)
      (Handshake.u64At data s) :=
  Handshake.safe_bind (Handshake.arrayAt_safe hs) fun _ _ h => h

/-- The peer loop, `k` passes from its end with `expected_size` `k` bytes ahead: `k` more
    peers, or a panic at a peer string that is not UTF-8, at one of the `k` cursors the loop
    reads from `n` on. -/
theorem Handshake.fromBytesPeers_safe :
    ∀ (k : Nat) (acc : List RString) (n e : Nat), Handshake.Ahead data k ⟨n, e⟩ →
      Handshake.Safe (∃ m ∈ Handshake.peerCursors data k n, Handshake.BadUtf8At data m)
        (fun _ (peers : List RString) => peers.length = acc.length + k)
        (Handshake.fromBytesPeers data k acc ⟨n, e⟩)
  | 0, acc, _, _, _ => rfl
  | k + 1, acc, n, e, ⟨(h₁ : n + (k + 1) ≤ e), (h₂ : e ≤ data.length)⟩ => by
    simp only [Handshake.fromBytesPeers, Method.bind_apply,
      Handshake.byteAt_of_lt e (show n < data.length by omega), Outcome.bind_ok,
      Handshake.expect_apply]
    refine Handshake.safe_failIf fun hc => ?_
    simp only [Method.bind_apply, Handshake.advance_apply, Outcome.bind_ok,
      Handshake.sliceAt_of_le _ (show n + 1 + Handshake.lenAt data n ≤ data.length by omega)]
    refine Handshake.safe_unwrap (by omega) (by omega)
      (fun hb => ⟨n, List.mem_cons_self _ _, hb⟩) fun str _ => ?_
    simp only [Method.bind_apply, Handshake.advance_apply, Outcome.bind_ok]
    refine (Handshake.fromBytesPeers_safe k (acc ++ [str]) _ _ ⟨by simp only; omega,
      by simp only; omega⟩).mono (fun ⟨m, hm, hb⟩ => ⟨m, List.mem_cons_of_mem _ hm, hb⟩)
      fun _ _ h => ?_
    simp only [h, List.length_append, List.length_singleton]
    omega

/-- **The body of `from_bytes` stays within `data`**, from `n = 0` and `expected_size = 75`:
    its only panic is at a string it unwraps that is not UTF-8. -/
theorem Handshake.fromBytesBody_safe (data : List UInt8) :
    Handshake.Safe (Handshake.BadUtf8 data) (fun _ _ => True)
      (Handshake.fromBytesBody data ⟨0, 75⟩) := by
  have hF : False → Handshake.BadUtf8 data := False.elim
  simp only [Handshake.fromBytesBody, Method.bind_apply, Handshake.expectedSize_apply,
    Outcome.bind_ok]
  refine Handshake.safe_failIf fun h75 => ?_
  refine Handshake.safe_bindM ((Handshake.fromBytesVersion_safe
    (show 0 + 75 ≤ 75 ∧ 75 ≤ data.length by omega)).mono
      (fun hb => ⟨0, List.mem_cons_self _ _, hb⟩) fun _ _ h => h)
    fun ⟨n₁, e₁⟩ version ⟨hs₁, hn₁, hv⟩ => ?_
  refine Handshake.safe_bindM ((Handshake.fromBytesNodeTag_safe hs₁).mono hF fun _ _ h => h)
    fun s₂ node_tag ⟨hs₂, hn₂, ht⟩ => ?_
  refine Handshake.safe_bindM ((Handshake.arrayAt_safe hs₂).mono hF fun _ _ h => h)
    fun s₃ network_id ⟨hs₃, hn₃⟩ => ?_
  refine Handshake.safe_bindM ((Handshake.u64At_safe hs₃).mono hF fun _ _ h => h)
    fun s₄ peer_id ⟨hs₄, hn₄⟩ => ?_
  refine Handshake.safe_bindM ((Handshake.u64At_safe hs₄).mono hF fun _ _ h => h)
    fun s₅ utc_time ⟨hs₅, hn₅⟩ => ?_
  refine Handshake.safe_bindM ((Handshake.u64At_safe hs₅).mono hF fun _ _ h => h)
    fun s₆ block_height ⟨hs₆, hn₆⟩ => ?_
  refine Handshake.safe_bindM ((Handshake.arrayAt_safe hs₆).mono hF fun _ _ h => h)
    fun ⟨n, e⟩ top ⟨hs₇, hn₇⟩ => ?_
  /- the peer count stands at `74 + v + t`, as `unwrapCursors` has it -/
  simp only [HASH_SIZE] at hn₁ hn₂ hn₃ hn₄ hn₅ hn₆ hn₇
  subst hn₁
  have hn : n = 74 + Handshake.lenAt data 0 + Handshake.lenAt data (1 + Handshake.lenAt data 0) :=
    by rw [Nat.zero_add] at hn₂; omega
  have hn' : n + 1 = 75 + Handshake.lenAt data 0 +
      Handshake.lenAt data (1 + Handshake.lenAt data 0) := by omega
  obtain ⟨h₁, h₂⟩ : n + 1 ≤ e ∧ e ≤ data.length := hs₇
  simp only [Method.bind_apply, Handshake.byteAt_of_lt e (show n < data.length by omega),
    Outcome.bind_ok, Handshake.expect_apply]
  refine Handshake.safe_failIf fun hc => ?_
  simp only [Method.bind_apply, Handshake.advance_apply, Outcome.bind_ok]
  refine Handshake.safe_bind ((Handshake.fromBytesPeers_safe _ [] _ _
    ⟨by simp only; omega, by simp only; omega⟩).mono
      (fun ⟨m, hm, hb⟩ => ⟨m, List.mem_cons_of_mem _ (by rwa [hn', hn] at hm), hb⟩)
      fun _ _ h => h)
    fun s₈ peers hpeers => ?_
  rw [List.length_nil, Nat.zero_add] at hpeers
  rw [Handshake.new, dif_pos hv, dif_pos ht, dif_pos (show peers.length ≤ Handshake.MAX_LEN by
    omega)]
  trivial

/-- `from_bytes` panics exactly when its body does. -/
theorem Handshake.fromBytes_eq_none {data : List UInt8} (h : Handshake.fromBytes data = none) :
    Handshake.fromBytesBody data ⟨0, 75⟩ = .panic := by
  unfold Handshake.fromBytes Outcome.result at h
  split at h <;> first | assumption | cases h

/-- **Every panic of `from_bytes` is a string that is not UTF-8.**  Every index and slice of
    `data` it takes is in range and the `assert!`s of `new` hold for what it builds, so it
    panics only at `String::from_utf8(..).unwrap()`, on the version or on a peer string at the
    cursor the peers loop reached, of 1 to `MAX_LEN` bytes within `data`, that is not
    UTF-8. -/
theorem Handshake.fromBytes_panic_only_utf8 (data : List UInt8)
    (h : Handshake.fromBytes data = none) : Handshake.BadUtf8 data := by
  have hs := Handshake.fromBytesBody_safe data
  rwa [Handshake.fromBytes_eq_none h] at hs

/-- A handshake with a time of `1 700 000 000` carries the byte `0xF1` on the wire, yet no string
    `from_bytes` unwraps of it is bad. -/
example :
    ¬Handshake.BadUtf8 { Handshake.scenarioShortPeer with utc_time := 1700000000 }.toBytes := by
  unfold Handshake.BadUtf8 Handshake.BadUtf8At
  decide

/-- On ASCII data, `from_bytes` never panics: every string it unwraps is UTF-8. -/
theorem Handshake.fromBytes_ascii (data : List UInt8) (h : ∀ b ∈ data, b < 0x80) :
    Handshake.fromBytes data ≠ none := by
  intro hnone
  have hs := Handshake.fromBytesBody_safe data
  rw [Handshake.fromBytes_eq_none hnone] at hs
  obtain ⟨n, -, -, -, -, hbad⟩ := hs
  have hv := utf8Valid_of_ascii ((data.drop (n + 1)).take (Handshake.lenAt data n)) fun b hb =>
    h b (List.mem_of_mem_drop (List.mem_of_mem_take hb))
  rw [RString.fromUtf8, dif_pos hv] at hbad
  cases hbad

end Safe

/-- The bytes of a handshake whose version, one byte long, is `0xFF`: 76 bytes, enough for
    the fixed part and the version. -/
def Handshake.scenarioBadVersion : List UInt8 := [1, 0xFF] ++ List.replicate 74 0

theorem scenario_bad_version_panic_only_utf8 :
    Handshake.fromBytes Handshake.scenarioBadVersion = none ∧
      Handshake.BadUtf8 Handshake.scenarioBadVersion :=
  ⟨rfl, Handshake.fromBytes_panic_only_utf8 _ rfl⟩

/-- **A version that is not UTF-8 panics.**  `from_bytes` unwraps `String::from_utf8` of the
    version: on every `data` long enough for a version of 1 to `MAX_LEN` bytes that is not
    UTF-8, it panics instead of returning `Err`. -/
theorem Handshake.fromBytes_bad_version (b : UInt8) (rest : List UInt8)
    (hv : 0 < b.toNat ∧ b.toNat ≤ Handshake.MAX_LEN) (hlen : 74 + b.toNat ≤ rest.length)
    (hbad : RString.fromUtf8 (rest.take b.toNat) = none) :
    Handshake.fromBytes (b :: rest) = none := by
  have hc₀ : ¬(b :: rest).length < 75 := by rw [List.length_cons]; omega
  have hc : ¬(b.toNat = 0 ∨ b.toNat > Handshake.MAX_LEN ∨ (b :: rest).length < 75 + b.toNat) := by
    rw [List.length_cons]; omega
  have hb : Handshake.byteAt (b :: rest) ⟨0, 75⟩ = .ok b.toNat ⟨0, 75⟩ := by
    simp [Handshake.byteAt]
  have hs : Handshake.sliceAt (b :: rest) b.toNat ⟨1, 75 + b.toNat⟩ =
      .ok (rest.take b.toNat) ⟨1, 75 + b.toNat⟩ :=
    Handshake.sliceAt_of_le _ (by rw [List.length_cons]; omega)
  simp only [Handshake.fromBytes, Handshake.fromBytesBody, Handshake.fromBytesVersion,
    Method.bind_apply, Handshake.expectedSize_apply, Outcome.bind_ok, Method.failIf, if_neg hc₀,
    Method.pure_apply, hb,
    Handshake.expect_apply, Handshake.advance_apply, if_neg hc, Nat.zero_add, hs, hbad,
    Method.unwrap, Method.abort_apply, Outcome.bind_panic]
  rfl

theorem scenario_bad_version_panics :
    (0 < (1 : UInt8).toNat ∧ (1 : UInt8).toNat ≤ Handshake.MAX_LEN) ∧
      74 + (1 : UInt8).toNat ≤ (0xFF :: List.replicate 74 0 : List UInt8).length ∧
      RString.fromUtf8 ((0xFF :: List.replicate 74 0 : List UInt8).take (1 : UInt8).toNat) = none ∧
      Handshake.fromBytes Handshake.scenarioBadVersion = none :=
  ⟨by decide, by decide, by decide,
    Handshake.fromBytes_bad_version 1 _ (by decide) (by decide) (by decide)⟩

end XelisP2p
