import Mathlib.Data.UInt
import Mathlib.Data.List.Basic

namespace XelisP2p

/-!
# Core — byte arrays, big-endian integers, UTF-8 strings and `Hash`

The value types the codec reads and writes, as Rust has them:

* `FixedBytes n` — `[u8; n]`, a byte list whose length is part of its type, with the
  `TryFrom<&[u8]>` conversion `FixedBytes.tryFrom` that `Reader::read_bytes` relies on;
* `beBytes w v` / `beNat` — `to_be_bytes` and `from_be_bytes` of a `w`-byte unsigned
  integer; `beNat_beBytes` and `beBytes_beNat` are the two round trips;
* `utf8Valid` and `RString` — Rust's `String`: a byte vector that is valid UTF-8 (the
  well-formed byte sequences of Unicode Table 3-7, checked by a four-state automaton),
  with `len` its byte length and `RString.fromUtf8` the checked conversion `String::from_utf8`;
* `Hash` — `crypto::hash::Hash`, a wrapper over `[u8; HASH_SIZE]`.
-/

/-! ### `[u8; n]` -/

/-- `[u8; n]`: exactly `n` bytes. -/
structure FixedBytes (n : Nat) where
  data : List UInt8
  length_eq : data.length = n
deriving DecidableEq, Repr

/-- `<[u8; n]>::try_from(slice)`: succeeds exactly on slices of length `n`. -/
def FixedBytes.tryFrom (n : Nat) (l : List UInt8) : Option (FixedBytes n) :=
  if h : l.length = n then some ⟨l, h⟩ else none

theorem FixedBytes.tryFrom_of_length {n : Nat} {l : List UInt8} (h : l.length = n) :
    FixedBytes.tryFrom n l = some ⟨l, h⟩ := dif_pos h

@[simp] theorem FixedBytes.tryFrom_data {n : Nat} (a : FixedBytes n) :
    FixedBytes.tryFrom n a.data = some a := dif_pos a.length_eq

/-- `[0; n]`. -/
def FixedBytes.zero (n : Nat) : FixedBytes n := ⟨List.replicate n 0, List.length_replicate n 0⟩

/-! ### Big-endian integers -/

/-- `to_be_bytes` of a `w`-byte unsigned integer of value `v` (most significant byte first;
    only `v % 256 ^ w` is written). -/
def beBytes : Nat → Nat → List UInt8
  | 0, _ => []
  | w + 1, v => beBytes w (v / 256) ++ [UInt8.ofNat v]

/-- `from_be_bytes`: the unsigned value of a big-endian byte string. -/
def beNat (l : List UInt8) : Nat := l.foldl (fun acc b => acc * 256 + b.toNat) 0

@[simp] theorem length_beBytes (w v : Nat) : (beBytes w v).length = w := by
  induction w generalizing v with
  | zero => rfl
  | succ w ih => simp [beBytes, ih]

theorem uint8_toNat_ofNat (n : Nat) : (UInt8.ofNat n).toNat = n % 256 := by
  simp [UInt8.toNat, UInt8.ofNat]

theorem uint8_ofNat_toNat (b : UInt8) : UInt8.ofNat b.toNat = b :=
  UInt8.toNat.inj (by rw [uint8_toNat_ofNat]; exact Nat.mod_eq_of_lt b.toNat_lt_size)

theorem uint16_ofNat_toNat (v : UInt16) : UInt16.ofNat v.toNat = v :=
  UInt16.toNat.inj (UInt16.toNat_ofNat_of_lt v.toNat_lt_size)

theorem uint64_ofNat_toNat (v : UInt64) : UInt64.ofNat v.toNat = v :=
  UInt64.toNat.inj (UInt64.toNat_ofNat_of_lt v.toNat_lt_size)

theorem beNat_append_singleton (l : List UInt8) (b : UInt8) :
    beNat (l ++ [b]) = beNat l * 256 + b.toNat := by
  simp [beNat, List.foldl_append]

/-- **Decoding inverts encoding** up to the width: `from_be_bytes ∘ to_be_bytes` keeps the
    low `w` bytes. -/
theorem beNat_beBytes (w v : Nat) : beNat (beBytes w v) = v % 256 ^ w := by
  induction w generalizing v with
  | zero => simp [beBytes, beNat, Nat.mod_one]
  | succ w ih =>
    rw [beBytes, beNat_append_singleton, ih, uint8_toNat_ofNat, pow_succ', Nat.mod_mul]
    omega

/-- The big-endian value of `l` fits in `l.length` bytes. -/
theorem beNat_lt (l : List UInt8) : beNat l < 256 ^ l.length := by
  induction l using List.reverseRecOn with
  | nil => simp [beNat]
  | append_singleton l b ih =>
    rw [beNat_append_singleton, List.length_append, List.length_singleton, pow_succ]
    have := b.toNat_lt_size
    change b.toNat < 256 at this
    omega

theorem beNat_lt_of_length {l : List UInt8} {w : Nat} (hl : l.length = w) : beNat l < 256 ^ w :=
  hl ▸ beNat_lt l

/-- **Encoding inverts decoding**: every byte string is the big-endian form of its value,
    so a fixed-width integer has exactly one encoding. -/
theorem beBytes_beNat (l : List UInt8) : beBytes l.length (beNat l) = l := by
  induction l using List.reverseRecOn with
  | nil => rfl
  | append_singleton l b ih =>
    have hb := b.toNat_lt_size
    change b.toNat < 256 at hb
    have hdiv : (beNat l * 256 + b.toNat) / 256 = beNat l := by omega
    have hlow : UInt8.ofNat (beNat l * 256 + b.toNat) = b :=
      UInt8.toNat.inj (by rw [uint8_toNat_ofNat]; omega)
    rw [List.length_append, List.length_singleton, beBytes, beNat_append_singleton, hdiv, hlow, ih]

/-! ### UTF-8 strings -/

/-- The lead byte of a UTF-8 sequence: how many continuation bytes follow, and the range
    allowed for the first of them (Unicode Table 3-7); `none` for a byte that cannot
    start a character. -/
def utf8Lead (b : UInt8) : Option (Nat × UInt8 × UInt8) :=
  if b < 0x80 then some (0, 0x80, 0xBF)
  else if 0xC2 ≤ b && b ≤ 0xDF then some (1, 0x80, 0xBF)
  else if b = 0xE0 then some (2, 0xA0, 0xBF)
  else if b = 0xED then some (2, 0x80, 0x9F)
  else if 0xE1 ≤ b && b ≤ 0xEF then some (2, 0x80, 0xBF)
  else if b = 0xF0 then some (3, 0x90, 0xBF)
  else if b = 0xF4 then some (3, 0x80, 0x8F)
  else if 0xF1 ≤ b && b ≤ 0xF3 then some (3, 0x80, 0xBF)
  else none

/-- The UTF-8 automaton: `pending` continuation bytes are still due, the next one in
    `[lo, hi]` and the others in `[0x80, 0xBF]`. -/
def utf8Go : Nat → UInt8 → UInt8 → List UInt8 → Bool
  | 0, _, _, [] => true
  | _ + 1, _, _, [] => false
  | 0, _, _, b :: rest =>
    match utf8Lead b with
    | some (k, lo, hi) => utf8Go k lo hi rest
    | none => false
  | k + 1, lo, hi, c :: rest => lo ≤ c && c ≤ hi && utf8Go k 0x80 0xBF rest

/-- The byte string is well-formed UTF-8 (what `String::from_utf8` accepts). -/
def utf8Valid (l : List UInt8) : Bool := utf8Go 0 0x80 0xBF l

/-- ASCII text is valid UTF-8. -/
theorem utf8Valid_of_ascii (l : List UInt8) (h : ∀ b ∈ l, b < 0x80) : utf8Valid l = true := by
  induction l with
  | nil => rfl
  | cons b l ih =>
    have hb : utf8Lead b = some (0, 0x80, 0xBF) := by
      simp [utf8Lead, h b (List.mem_cons_self _ _)]
    simp only [utf8Valid, utf8Go, hb]
    exact ih (fun x hx => h x (List.mem_cons_of_mem _ hx))

/-- Rust's `String`: its UTF-8 bytes, which are valid by construction. -/
structure RString where
  bytes : List UInt8
  valid : utf8Valid bytes = true
deriving DecidableEq, Repr

/-- `String::len`: the length in bytes. -/
def RString.len (s : RString) : Nat := s.bytes.length

/-- `String::from_utf8`: `none` on bytes that are not valid UTF-8. -/
def RString.fromUtf8 (l : List UInt8) : Option RString :=
  if h : utf8Valid l = true then some ⟨l, h⟩ else none

@[simp] theorem RString.fromUtf8_bytes (s : RString) : RString.fromUtf8 s.bytes = some s :=
  dif_pos s.valid

theorem RString.eq_of_fromUtf8 {l : List UInt8} {s : RString} (h : RString.fromUtf8 l = some s) :
    s.bytes = l := by
  unfold RString.fromUtf8 at h
  split at h
  · cases h; rfl
  · cases h

/-! ### `Hash` -/

/-- `HASH_SIZE`: 32 bytes, 256 bits. -/
def HASH_SIZE : Nat := 32

/-- `crypto::hash::Hash`: a 32-byte digest. -/
structure Hash where
  bytes : FixedBytes HASH_SIZE
deriving DecidableEq, Repr

/-- `Hash::zero()`. -/
def Hash.zero : Hash := ⟨FixedBytes.zero HASH_SIZE⟩

end XelisP2p
