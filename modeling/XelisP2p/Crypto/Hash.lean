import XelisP2p.Globals

namespace XelisP2p

/-!
# Crypto — `Hash` as text

`crypto/hash.rs`.  A hash is shown, and serialized, as `hex::encode` of its 32 bytes: two
lowercase digits per byte, the high half first.  `Deserialize` takes a string back: it
refuses any length but 64, decodes the digits with `hex::decode`, which reads digits of
either case, and turns the 32 bytes into a hash.  The `hex` crate is not among the sources;
its two functions are modelled from the spec's "lowercase 64-char textual form" and the
crate's documented behaviour.  A serde format hands `String::deserialize` the string
`serialize_str` was given, so the serialized form of a hash is `to_hex` itself.

* `Hash.deserialize_serialize` — the round trip;
* `Hash.deserialize_eq_ok` — what is accepted is 64 hexadecimal digits, and `to_hex` of the
  result is the string in lowercase;
* `Hash.deserialize_of_hex` — 64 hexadecimal digits are accepted;
* `hash_text` — the three together.
-/

/-! ### The `hex` crate -/

/-- Modelled from the spec: the digit `hex::encode` writes for a value below 16, `0`–`9` and
    then `a`–`f`. -/
def hexDigit (v : Nat) : UInt8 := if v < 10 then UInt8.ofNat (48 + v) else UInt8.ofNat (87 + v)

/-- Modelled from the spec: `hex::encode`, two lowercase digits per byte, the high half
    first. -/
def hexEncode (bytes : List UInt8) : List UInt8 :=
  bytes.flatMap fun b => [hexDigit (b.toNat / 16), hexDigit (b.toNat % 16)]

/-- Modelled from the spec: the value of a hexadecimal digit of either case. -/
def hexValue (c : UInt8) : Option Nat :=
  if 48 ≤ c.toNat ∧ c.toNat ≤ 57 then some (c.toNat - 48)
  else if 97 ≤ c.toNat ∧ c.toNat ≤ 102 then some (c.toNat - 87)
  else if 65 ≤ c.toNat ∧ c.toNat ≤ 70 then some (c.toNat - 55)
  else none

/-- Modelled from the spec: `hex::FromHexError`. -/
inductive FromHexError
  | InvalidHexCharacter (c : UInt8) (index : Nat)
  | OddLength
deriving DecidableEq, Repr

/-- Modelled from the spec: the digits of `hex::decode` two by two, from position `i`. -/
def hexPairs : List UInt8 → Nat → Except FromHexError (List UInt8)
  | hi :: lo :: rest, i =>
    match hexValue hi, hexValue lo with
    | some h, some l => (hexPairs rest (i + 2)).map (UInt8.ofNat (16 * h + l) :: ·)
    | none, _ => .error (.InvalidHexCharacter hi i)
    | some _, none => .error (.InvalidHexCharacter lo (i + 1))
  | _, _ => .ok []

/-- Modelled from the spec: `hex::decode`, an odd number of digits refused first. -/
def hexDecode (s : List UInt8) : Except FromHexError (List UInt8) :=
  if s.length % 2 = 0 then hexPairs s 0 else .error .OddLength

/-- `char::to_ascii_lowercase` on one byte. -/
def asciiLowercase (c : UInt8) : UInt8 :=
  if 65 ≤ c.toNat ∧ c.toNat ≤ 90 then UInt8.ofNat (c.toNat + 32) else c

theorem hexDigit_ascii {v : Nat} (hv : v < 16) : hexDigit v < 0x80 := by
  unfold hexDigit; split <;> exact ascii_ofNat (by omega)

theorem hexEncode_ascii (l : List UInt8) : ∀ c ∈ hexEncode l, c < 0x80 := by
  intro c hc
  simp only [hexEncode, List.mem_flatMap, List.mem_cons, List.mem_singleton,
    List.not_mem_nil, or_false] at hc
  obtain ⟨b, -, rfl | rfl⟩ := hc <;>
    exact hexDigit_ascii (by have : b.toNat < 256 := b.toNat_lt_size; omega)

/-! ### `Hash` -/

/-- `to_hex`: `hex::encode` of the bytes, which is ASCII and so a `String`. -/
def Hash.toHex (h : Hash) : RString :=
  ⟨hexEncode h.bytes.data, utf8Valid_of_ascii _ (hexEncode_ascii _)⟩

/-- `Serialize`: `serialize_str(&self.to_hex())`. -/
def Hash.serialize (h : Hash) : RString := h.toHex

/-- The errors of `Deserialize`: `SerdeError::custom` with a message, or of `hex::decode`. -/
inductive HashError
  | custom (msg : String)
  | hex (e : FromHexError)
deriving DecidableEq, Repr

/-- `Deserialize`, on the string `String::deserialize` returned. -/
def Hash.deserialize (hex : RString) : Except HashError Hash :=
  if hex.len ≠ 64 then .error (.custom "Invalid hex length")
  else
    match hexDecode hex.bytes with
    | .error e => .error (.hex e)
    | .ok decoded_hex =>
      match FixedBytes.tryFrom HASH_SIZE decoded_hex with
      | some bytes => .ok ⟨bytes⟩
      | none => .error (.custom "Could not transform hex to bytes array for Hash")

/-! ### Digits -/

theorem hexDigit_toNat {v : Nat} (hv : v < 16) :
    (hexDigit v).toNat = if v < 10 then 48 + v else 87 + v := by
  unfold hexDigit; split <;> rw [uint8_toNat_ofNat, Nat.mod_eq_of_lt (by omega)]

theorem hexValue_hexDigit {v : Nat} (hv : v < 16) : hexValue (hexDigit v) = some v := by
  rw [hexValue, hexDigit_toNat hv]
  by_cases h : v < 10
  · rw [if_pos h, if_pos (by omega)]; congr 1; omega
  · rw [if_neg h, if_neg (by omega), if_pos (by omega)]; congr 1; omega

/-- A digit of either case is written back as its lowercase self. -/
theorem hexDigit_hexValue {c : UInt8} {v : Nat} (h : hexValue c = some v) :
    hexDigit v = asciiLowercase c := by
  apply UInt8.toNat.inj
  unfold hexValue at h
  split_ifs at h with h₁ h₂ <;> cases h <;> rw [hexDigit_toNat (by omega), asciiLowercase]
  · rw [if_pos (by omega), if_neg (by omega)]; omega
  · rw [if_neg (by omega), if_neg (by omega)]; omega
  · rw [if_neg (by omega), if_pos (by omega), uint8_toNat_ofNat]; omega

theorem hexValue_lt {c : UInt8} {v : Nat} (h : hexValue c = some v) : v < 16 := by
  unfold hexValue at h
  split_ifs at h <;> cases h <;> omega

/-- `hexValue` accepts exactly the digits `0`–`9`, `a`–`f` and `A`–`F`. -/
theorem hexValue_isSome (c : UInt8) :
    (hexValue c).isSome ↔ (48 ≤ c.toNat ∧ c.toNat ≤ 57) ∨ (97 ≤ c.toNat ∧ c.toNat ≤ 102) ∨
      (65 ≤ c.toNat ∧ c.toNat ≤ 70) := by
  unfold hexValue
  split_ifs <;> simp_all

/-! ### Decoding what was encoded, and what decodes -/

theorem length_hexEncode (l : List UInt8) : (hexEncode l).length = 2 * l.length := by
  induction l with
  | nil => rfl
  | cons b l ih => simp only [hexEncode, List.flatMap_cons] at ih ⊢; simp [ih]; omega

theorem hexPairs_hexEncode (l : List UInt8) (i : Nat) : hexPairs (hexEncode l) i = .ok l := by
  induction l generalizing i with
  | nil => rfl
  | cons b l ih =>
    have hb : b.toNat < 256 := b.toNat_lt_size
    have hv : UInt8.ofNat (16 * (b.toNat / 16) + b.toNat % 16) = b :=
      UInt8.toNat.inj (by rw [uint8_toNat_ofNat]; omega)
    have ih' : hexPairs (hexEncode l) (i + 2) = .ok l := ih (i + 2)
    simp only [hexEncode, List.flatMap_cons, List.cons_append, List.nil_append] at ih' ⊢
    rw [hexPairs, hexValue_hexDigit (by omega), hexValue_hexDigit (by omega)]
    simp only [ih', hv]
    rfl

/-- What the digit pairs decode to: half as many bytes, every digit a hexadecimal one, and
    the lowercase digits are their encoding. -/
theorem hexPairs_ok {s d : List UInt8} {i : Nat} (hs : s.length % 2 = 0)
    (h : hexPairs s i = .ok d) :
    2 * d.length = s.length ∧ (∀ c ∈ s, (hexValue c).isSome) ∧
      hexEncode d = s.map asciiLowercase := by
  induction s, i using hexPairs.induct generalizing d with
  | case1 hi lo rest i h' l hl hh ih =>
    rw [hexPairs, hh, hl] at h
    cases hr : hexPairs rest (i + 2) with
    | error e => rw [hr] at h; cases h
    | ok d' =>
      rw [hr] at h; cases h
      obtain ⟨hlen, hhex, henc⟩ := ih (by simp at hs; omega) hr
      have hh' := hexValue_lt hh
      have hl' := hexValue_lt hl
      refine ⟨by simp; omega, ?_, ?_⟩
      · intro c hc
        rcases List.mem_cons.mp hc with rfl | hc
        · simp [hh]
        rcases List.mem_cons.mp hc with rfl | hc
        · simp [hl]
        exact hhex c hc
      · have hhi : (16 * h' + l) / 16 = h' := by omega
        have hlo : (16 * h' + l) % 16 = l := by omega
        simp only [hexEncode, List.flatMap_cons, List.map_cons] at henc ⊢
        rw [uint8_toNat_ofNat, Nat.mod_eq_of_lt (by omega), hhi, hlo, hexDigit_hexValue hh,
          hexDigit_hexValue hl, henc]
        rfl
  | case2 hi lo rest i hh => rw [hexPairs, hh] at h; cases h
  | case3 hi lo rest i h' hl hh => rw [hexPairs, hh, hl] at h; cases h
  | case4 s i hne =>
    cases s with
    | nil => cases h; simp [hexEncode]
    | cons c s =>
      cases s with
      | nil => simp at hs
      | cons c' s => exact absurd rfl (hne c c' s)

/-- Digit pairs of hexadecimal digits decode. -/
theorem hexPairs_of_hex {s : List UInt8} {i : Nat} (hs : s.length % 2 = 0)
    (hhex : ∀ c ∈ s, (hexValue c).isSome) : ∃ d, hexPairs s i = .ok d := by
  induction s, i using hexPairs.induct with
  | case1 hi lo rest i h l hl hh ih =>
    obtain ⟨d, hd⟩ := ih (by simp at hs; omega) fun c hc => hhex c (by simp [hc])
    exact ⟨_, by rw [hexPairs, hh, hl, hd]; rfl⟩
  | case2 hi lo rest i hh => simp [hh] at hhex
  | case3 hi lo rest i h hl hh => simp [hl] at hhex
  | case4 s i hne => exact ⟨[], by cases s with
      | nil => rfl
      | cons c s => cases s with
        | nil => rfl
        | cons c' s => exact absurd rfl (hne c c' s)⟩

/-! ### `Hash` as text -/

theorem Hash.deserialize_serialize (h : Hash) : Hash.deserialize h.serialize = .ok h := by
  have hlen : h.serialize.len = 64 := by
    simp [Hash.serialize, Hash.toHex, RString.len, length_hexEncode, h.bytes.length_eq, HASH_SIZE]
  have hdec : hexDecode h.serialize.bytes = .ok h.bytes.data := by
    simp only [hexDecode, Hash.serialize, Hash.toHex, length_hexEncode, Nat.mul_mod_right,
      if_true, hexPairs_hexEncode]
  simp only [Hash.deserialize, hlen, ne_eq, not_true_eq_false, if_false, hdec,
    FixedBytes.tryFrom_data]

/-- What `Deserialize` accepts: 64 digits, each hexadecimal, and `to_hex` of the hash is the
    string in lowercase. -/
theorem Hash.deserialize_eq_ok {s : RString} {h : Hash} (hd : Hash.deserialize s = .ok h) :
    s.len = 64 ∧ (∀ c ∈ s.bytes, (hexValue c).isSome) ∧
      h.toHex.bytes = s.bytes.map asciiLowercase := by
  unfold Hash.deserialize at hd
  split_ifs at hd with hlen
  rw [not_not] at hlen
  have hs : s.bytes.length % 2 = 0 := by unfold RString.len at hlen; omega
  rw [hexDecode, if_pos hs] at hd
  split at hd
  · cases hd
  · rename_i d hpairs
    split at hd
    · rename_i bytes hbytes
      cases hd
      obtain ⟨-, hhex, henc⟩ := hexPairs_ok hs hpairs
      exact ⟨hlen, hhex, by rw [← henc, ← FixedBytes.eq_of_tryFrom hbytes]; rfl⟩
    · cases hd

/-- 64 hexadecimal digits are accepted. -/
theorem Hash.deserialize_of_hex {s : RString} (hlen : s.len = 64)
    (hhex : ∀ c ∈ s.bytes, (hexValue c).isSome) : ∃ h, Hash.deserialize s = .ok h := by
  have hs : s.bytes.length % 2 = 0 := by unfold RString.len at hlen; omega
  obtain ⟨d, hd⟩ : ∃ d, hexPairs s.bytes 0 = .ok d := hexPairs_of_hex hs hhex
  have hd32 : d.length = HASH_SIZE := by
    have := (hexPairs_ok hs hd).1; unfold RString.len at hlen; unfold HASH_SIZE; omega
  refine ⟨⟨⟨d, hd32⟩⟩, ?_⟩
  simp only [Hash.deserialize, hlen, ne_eq, not_true_eq_false, if_false, hexDecode, if_pos hs,
    hd, FixedBytes.tryFrom_of_length hd32]

/-- **`Hash` as text.**  Deserializing what serializing `h` produced gives `h` back; a string
    is accepted iff it is 64 hexadecimal digits (`0`–`9`, `a`–`f`, `A`–`F`); and then `to_hex`
    of the result is the string in lowercase. -/
theorem hash_text :
    (∀ h : Hash, Hash.deserialize h.serialize = .ok h) ∧
    (∀ s : RString, (∃ h, Hash.deserialize s = .ok h) ↔ s.len = 64 ∧ ∀ c ∈ s.bytes,
      (48 ≤ c.toNat ∧ c.toNat ≤ 57) ∨ (97 ≤ c.toNat ∧ c.toNat ≤ 102) ∨
        (65 ≤ c.toNat ∧ c.toNat ≤ 70)) ∧
    (∀ (s : RString) (h : Hash), Hash.deserialize s = .ok h →
      h.toHex.bytes = s.bytes.map asciiLowercase) := by
  refine ⟨Hash.deserialize_serialize, fun s => ?_, fun s h hd => (Hash.deserialize_eq_ok hd).2.2⟩
  simp only [← hexValue_isSome]
  exact ⟨fun ⟨h, hd⟩ => ⟨(Hash.deserialize_eq_ok hd).1, (Hash.deserialize_eq_ok hd).2.1⟩,
    fun ⟨hlen, hhex⟩ => Hash.deserialize_of_hex hlen hhex⟩

end XelisP2p
