import XelisP2p.Core.Bytes
import XelisP2p.Core.Method

namespace XelisP2p

/-!
# Core — `Reader`, the cursor every decoder reads through

`core/reader.rs`: a `Reader` is a byte slice and a cursor `total`; each `read_*` checks the
bytes left (`size()`), takes a slice or one byte, and moves the cursor.  The `&mut self`
methods are `Method Reader ReaderError α`: an `Ok` or an `Err` together with the
reader as the call leaves it (an `Err` can still have moved the cursor), or a Rust panic —
an out-of-range slice or index, or the `usize` underflow of `size()`.

* `readBytes`, `readU8` — the two methods that touch the slice; every other read is built
  from them as the source builds it;
* `readBytes_of_valid`, `readU8_of_valid` — their behaviour on a reader whose cursor lies
  within its bytes (`Reader.Valid`): no panic, and exactly the documented result;
* `ReadOp` / `ReadOp.Contract` / `reachable_contract` — the contract of every read, from
  every reader that some sequence of reads reaches from `Reader::new`.
-/

/-- `ReaderError`. -/
inductive ReaderError
  | InvalidSize
  | InvalidValue
  | InvalidHex
  | ErrorTryInto
deriving DecidableEq, Repr

/-- `Reader { bytes, total }`. -/
structure Reader where
  bytes : List UInt8
  total : Nat
deriving DecidableEq, Repr

/-- `Reader::new`. -/
def Reader.new (bytes : List UInt8) : Reader := ⟨bytes, 0⟩

/-- `size()`: `bytes.len() - total`, `none` where the `usize` subtraction underflows. -/
def Reader.size (r : Reader) : Option Nat :=
  if r.total ≤ r.bytes.length then some (r.bytes.length - r.total) else none

/-- `total_read()`. -/
def Reader.totalRead (r : Reader) : Nat := r.total

/-- A method of `Reader` returning `Result<α, ReaderError>`. -/
abbrev ReaderM (α : Type) : Type := Method Reader ReaderError α

/-! ### The reads -/

/-- `&bytes[a..b]`: panics (`none`) unless `a ≤ b ≤ bytes.len()`. -/
def sliceRange (l : List UInt8) (a b : Nat) : Option (List UInt8) :=
  if a ≤ b ∧ b ≤ l.length then some ((l.drop a).take (b - a)) else none

/-- `read_bytes::<T>(n)`: `InvalidSize` when fewer than `n` bytes are left; otherwise the
    cursor moves by `n` whether or not `T::try_from` accepts the slice. -/
def readBytes {T : Type} (tryInto : List UInt8 → Option T) (n : Nat) : ReaderM T := fun r =>
  match r.size with
  | none => .panic
  | some size =>
    if n > size then .err .InvalidSize r
    else
      match sliceRange r.bytes r.total (r.total + n) with
      | none => .panic
      | some s =>
        match tryInto s with
        | some v => .ok v { r with total := r.total + n }
        | none => .err .ErrorTryInto { r with total := r.total + n }

/-- `read_u8`. -/
def readU8 : ReaderM UInt8 := fun r =>
  match r.size with
  | none => .panic
  | some size =>
    if size = 0 then .err .InvalidSize r
    else
      match r.bytes.get? r.total with
      | none => .panic
      | some b => .ok b { r with total := r.total + 1 }

/-- `read_bool`: one byte, `true` iff it is `1`. -/
def readBool : ReaderM Bool := do
  let b ← readU8
  pure (b == 1)

/-- `read_bytes::<[u8; n]>(n)`. -/
def readArray (n : Nat) : ReaderM (FixedBytes n) := readBytes (FixedBytes.tryFrom n) n

/-- `read_bytes::<Vec<u8>>(n)`: `Vec::try_from` accepts every slice. -/
def readVec (n : Nat) : ReaderM (List UInt8) := readBytes some n

/-- `read_bytes_32`. -/
def readBytes32 : ReaderM (FixedBytes 32) := readArray 32

/-- `read_bytes_64`. -/
def readBytes64 : ReaderM (FixedBytes 64) := readArray 64

/-- `read_hash`. -/
def readHash : ReaderM Hash := do
  let b ← readBytes32
  pure (Hash.mk b)

/-- `uN::from_be_bytes(self.read_bytes(w)?)`, as a natural number. -/
def readBe (w : Nat) : ReaderM Nat := do
  let a ← readArray w
  pure (beNat a.data)

/-- `read_u16`. -/
def readU16 : ReaderM UInt16 := UInt16.ofNat <$> readBe 2

/-- `read_u64`. -/
def readU64 : ReaderM UInt64 := UInt64.ofNat <$> readBe 8

/-- `read_u128`. -/
def readU128 : ReaderM (BitVec 128) := BitVec.ofNat 128 <$> readBe 16

/-- `read_string_with_size`: the bytes are consumed before `String::from_utf8` checks them. -/
def readStringWithSize (size : Nat) : ReaderM RString := do
  let bytes ← readVec size
  match RString.fromUtf8 bytes with
  | some v => pure v
  | none => Method.fail .InvalidValue

/-- `read_string`: a length byte, then that many UTF-8 bytes. -/
def readString : ReaderM RString := do
  let size ← readU8
  readStringWithSize size.toNat

/-- `read_optional_string`: a length byte, `0` for `None`. -/
def readOptionalString : ReaderM (Option RString) := do
  let n ← readU8
  if n = 0 then pure none
  else
    let s ← readStringWithSize n.toNat
    pure (some s)

/-! ### Readers whose cursor lies within their bytes -/

/-- The cursor lies within the bytes (`total <= bytes.len()`), so `size()` does not
    underflow. -/
def Reader.Valid (r : Reader) : Prop := r.total ≤ r.bytes.length

/-- The bytes not read yet: `&bytes[total..]`. -/
def Reader.remaining (r : Reader) : List UInt8 := r.bytes.drop r.total

/-- The reader after `total += k`. -/
def Reader.advance (r : Reader) (k : Nat) : Reader := { r with total := r.total + k }

/-- `r'` is `r` after consuming exactly the bytes `l`. -/
def Reader.Consumes (r : Reader) (l : List UInt8) (r' : Reader) : Prop :=
  r' = r.advance l.length ∧ r.remaining = l ++ r'.remaining

section Valid

variable {r : Reader}

@[simp] theorem Reader.advance_bytes (r : Reader) (k : Nat) : (r.advance k).bytes = r.bytes := rfl

@[simp] theorem Reader.advance_total (r : Reader) (k : Nat) :
    (r.advance k).total = r.total + k := rfl

@[simp] theorem Reader.remaining_advance (r : Reader) (k : Nat) :
    (r.advance k).remaining = r.remaining.drop k := by
  simp [Reader.remaining, Reader.advance, List.drop_drop, Nat.add_comm]

@[simp] theorem Reader.length_remaining (r : Reader) :
    r.remaining.length = r.bytes.length - r.total := List.length_drop _ _

theorem Reader.valid_new (b : List UInt8) : (Reader.new b).Valid := Nat.zero_le _

theorem Reader.size_of_valid (h : r.Valid) : r.size = some r.remaining.length := by
  simp [Reader.size, show r.total ≤ r.bytes.length from h]

theorem Reader.Valid.advance (h : r.Valid) {k : Nat} (hk : k ≤ r.remaining.length) :
    (r.advance k).Valid := by
  simp only [Reader.Valid, Reader.advance_bytes, Reader.advance_total, Reader.length_remaining] at *
  omega

/-- Taking `n` of the bytes left consumes exactly them. -/
theorem Reader.consumes_take {n : Nat} (hn : n ≤ r.remaining.length) :
    r.Consumes (r.remaining.take n) (r.advance n) := by
  refine ⟨by rw [List.length_take_of_le hn], ?_⟩
  rw [Reader.remaining_advance, List.take_append_drop]

/-- A reader that consumed bytes out of a valid one is valid. -/
theorem Reader.Consumes.valid {l : List UInt8} {r' : Reader} (hc : r.Consumes l r')
    (h : r.Valid) : r'.Valid := by
  obtain ⟨rfl, hrem⟩ := hc
  exact h.advance (by rw [hrem, List.length_append]; omega)

/-- **`read_bytes` on a valid reader**: no panic; `InvalidSize` with the cursor unmoved when
    fewer than `n` bytes are left, else the first `n` bytes left go to `T::try_from` and the
    cursor moves by `n`. -/
theorem readBytes_of_valid {T : Type} (tryInto : List UInt8 → Option T) (n : Nat)
    (h : r.Valid) :
    readBytes tryInto n r =
      if n ≤ r.remaining.length then
        match tryInto (r.remaining.take n) with
        | some v => .ok v (r.advance n)
        | none => .err .ErrorTryInto (r.advance n)
      else .err .InvalidSize r := by
  have hv : r.total ≤ r.bytes.length := h
  simp only [readBytes, Reader.size_of_valid h, Reader.length_remaining]
  by_cases hn : n ≤ r.bytes.length - r.total
  · have hs : sliceRange r.bytes r.total (r.total + n) = some (r.remaining.take n) := by
      simp [sliceRange, Reader.remaining, Nat.add_sub_cancel_left]; omega
    simp only [if_pos hn, show ¬ n > r.bytes.length - r.total by omega, if_false, hs]
    rfl
  · simp only [if_neg hn, show n > r.bytes.length - r.total by omega, if_true]

/-- **`read_u8` on a valid reader**: no panic; the next byte, or `InvalidSize` with the
    cursor unmoved at the end. -/
theorem readU8_of_valid (h : r.Valid) :
    readU8 r =
      match r.remaining with
      | [] => .err .InvalidSize r
      | b :: _ => .ok b (r.advance 1) := by
  have hv : r.total ≤ r.bytes.length := h
  have hget : r.bytes.get? r.total = r.remaining.head? := by
    simp [Reader.remaining, List.head?_drop]
  simp only [readU8, Reader.size_of_valid h, hget]
  cases hr : r.remaining with
  | nil => simp
  | cons b t => simp; rfl

theorem Reader.advance_advance (r : Reader) (j k : Nat) :
    (r.advance j).advance k = r.advance (j + k) := by
  simp [Reader.advance, Nat.add_assoc]

/-- Consuming `l₁` and then `l₂` consumes `l₁ ++ l₂`. -/
theorem Reader.Consumes.trans {l₁ l₂ : List UInt8} {r₁ r₂ : Reader} (h₁ : r.Consumes l₁ r₁)
    (h₂ : r₁.Consumes l₂ r₂) : r.Consumes (l₁ ++ l₂) r₂ := by
  obtain ⟨rfl, h₁⟩ := h₁
  obtain ⟨rfl, h₂⟩ := h₂
  exact ⟨by rw [Reader.advance_advance, List.length_append], by rw [h₁, h₂, List.append_assoc]⟩

theorem Reader.consumes_nil (r : Reader) : r.Consumes [] r := ⟨by simp [Reader.advance], rfl⟩

end Valid

/-! ### Soundness of a read: no panic, and what an `Ok` consumed -/

/-- What a read may come back with from `r`: never a panic; an `Ok v` that consumed bytes
    `l` of `r` with `P l v`; an `Err` that leaves a valid reader over the same bytes. -/
def Outcome.Sound {α : Type} (r : Reader) (P : List UInt8 → α → Prop) :
    Outcome Reader ReaderError α → Prop
  | .ok v r' => ∃ l, r.Consumes l r' ∧ P l v
  | .err _ r' => r'.bytes = r.bytes ∧ r'.Valid
  | .panic => False

/-- From every valid reader, `p` comes back with a `Outcome.Sound` result. -/
def ReaderM.Sound {α : Type} (p : ReaderM α) (P : List UInt8 → α → Prop) : Prop :=
  ∀ r, r.Valid → (p r).Sound r P

section Sound

variable {α β : Type} {p : ReaderM α} {P : List UInt8 → α → Prop}

theorem ReaderM.Sound.mono {Q : List UInt8 → α → Prop} (hp : p.Sound P)
    (hq : ∀ l v, P l v → Q l v) : p.Sound Q := by
  intro r hr
  have := hp r hr
  revert this
  cases p r with
  | ok v r' => exact fun ⟨l, hc, hl⟩ => ⟨l, hc, hq l v hl⟩
  | err e r' => exact id
  | panic => exact id

theorem ReaderM.sound_pure {a : α} (h : P [] a) : (pure a : ReaderM α).Sound P :=
  fun r _ => ⟨[], r.consumes_nil, h⟩

theorem ReaderM.sound_fail (e : ReaderError) : ReaderM.Sound (Method.fail e : ReaderM α) P :=
  fun _ hr => ⟨rfl, hr⟩

/-- **Sequencing**: the bytes `f` consumes follow the ones `p` consumed. -/
theorem ReaderM.sound_bind {f : α → ReaderM β} {Q : List UInt8 → β → Prop} (hp : p.Sound P)
    (hf : ∀ l a, P l a → (f a).Sound (fun l' b => Q (l ++ l') b)) : (p >>= f).Sound Q := by
  intro r hr
  have h₁ := hp r hr
  simp only [Method.bind_apply]
  revert h₁
  cases p r with
  | ok a r₁ =>
    rintro ⟨l, hc, hl⟩
    have h₂ := hf l a hl r₁ (hc.valid hr)
    revert h₂
    simp only [Outcome.bind_ok]
    cases f a r₁ with
    | ok b r₂ => exact fun ⟨l', hc', hl'⟩ => ⟨l ++ l', hc.trans hc', hl'⟩
    | err e r₂ => exact fun ⟨hb, hv⟩ => ⟨by rw [hb, hc.1, Reader.advance_bytes], hv⟩
    | panic => exact id
  | err e r₁ => exact id
  | panic => exact id

theorem ReaderM.sound_failIf (c : Prop) [Decidable c] (e : ReaderError) :
    ReaderM.Sound (Method.failIf c e : ReaderM Unit) (fun l _ => l = [] ∧ ¬c) := by
  unfold Method.failIf
  split_ifs with hc
  · exact ReaderM.sound_fail e
  · exact ReaderM.sound_pure ⟨rfl, hc⟩

/-- A step that consumes nothing, such as a length check that passes. -/
theorem ReaderM.sound_bind_nil {f : α → ReaderM β} {Q : List UInt8 → β → Prop} {R : α → Prop}
    (hp : p.Sound (fun l a => l = [] ∧ R a)) (hf : ∀ a, R a → (f a).Sound Q) :
    (p >>= f).Sound Q :=
  ReaderM.sound_bind hp fun l a ⟨hl, ha⟩ => by subst hl; exact hf a ha

theorem ReaderM.sound_map {f : α → β} {Q : List UInt8 → β → Prop} (hp : p.Sound P)
    (hq : ∀ l a, P l a → Q l (f a)) : (f <$> p).Sound Q :=
  ReaderM.sound_bind hp fun l a h => ReaderM.sound_pure (by simpa using hq l a h)

/-- A sound read never panics. -/
theorem ReaderM.Sound.ne_panic (hp : p.Sound P) {r : Reader} (hr : r.Valid) : p r ≠ .panic :=
  fun h => by simpa [h] using hp r hr

/-- From `Reader::new(b)`, what a sound read accepted is the first `total_read()` bytes of
    `b`, and it read no further than the end of `b`. -/
theorem ReaderM.Sound.prefix_of_ok (hp : p.Sound P) {b : List UInt8} {v : α} {r : Reader}
    (h : p (Reader.new b) = .ok v r) : P (b.take r.totalRead) v ∧ r.totalRead ≤ b.length := by
  have hs := hp _ (Reader.valid_new b)
  rw [h] at hs
  obtain ⟨l, ⟨rfl, hrem⟩, hl⟩ := hs
  have hb : b = l ++ (b.drop l.length) := by simpa [Reader.new, Reader.remaining] using hrem
  have hlen : l.length ≤ b.length := by rw [hb, List.length_append]; omega
  have ht : b.take l.length = l := by
    conv_lhs => rw [hb]
    exact List.take_left _ _
  exact ⟨by simpa [Reader.totalRead, Reader.new, ht] using hl,
    by simpa [Reader.totalRead, Reader.new] using hlen⟩

end Sound

/-! ### Every read is sound -/

theorem FixedBytes.eq_of_tryFrom {n : Nat} {l : List UInt8} {a : FixedBytes n}
    (h : FixedBytes.tryFrom n l = some a) : a.data = l := by
  unfold FixedBytes.tryFrom at h
  split at h
  · cases h; rfl
  · cases h

theorem readBytes_sound {T : Type} (tryInto : List UInt8 → Option T) (n : Nat) :
    (readBytes tryInto n).Sound (fun l v => l.length = n ∧ tryInto l = some v) := by
  intro r hr
  rw [readBytes_of_valid tryInto n hr]
  split_ifs with hn
  · cases hv : tryInto (r.remaining.take n) with
    | some v => exact ⟨_, r.consumes_take hn, List.length_take_of_le hn, hv⟩
    | none => exact ⟨rfl, hr.advance hn⟩
  · exact ⟨rfl, hr⟩

theorem readU8_sound : readU8.Sound (fun l b => l = [b]) := by
  intro r hr
  rw [readU8_of_valid hr]
  cases hrem : r.remaining with
  | nil => exact ⟨rfl, hr⟩
  | cons b t => exact ⟨[b], ⟨rfl, by rw [hrem, Reader.remaining_advance, hrem]; rfl⟩, rfl⟩

theorem readBool_sound : readBool.Sound (fun l v => ∃ b, l = [b] ∧ v = (b == 1)) :=
  ReaderM.sound_bind readU8_sound fun l b h => ReaderM.sound_pure ⟨b, by simpa using h, rfl⟩

theorem readArray_sound (n : Nat) : (readArray n).Sound (fun l a => l = a.data) :=
  (readBytes_sound _ n).mono fun _ _ h => (FixedBytes.eq_of_tryFrom h.2).symm

theorem readVec_sound (n : Nat) : (readVec n).Sound (fun l v => l = v ∧ l.length = n) :=
  (readBytes_sound _ n).mono fun _ _ h => ⟨Option.some_injective _ h.2, h.1⟩

theorem readHash_sound : readHash.Sound (fun l h => l = h.bytes.data) :=
  ReaderM.sound_bind (readArray_sound 32) fun l a h => ReaderM.sound_pure (by simpa using h)

theorem readBe_sound (w : Nat) : (readBe w).Sound (fun l v => l.length = w ∧ v = beNat l) :=
  ReaderM.sound_bind (readArray_sound w) fun l a h =>
    ReaderM.sound_pure (by simp [h, a.length_eq])

theorem readStringWithSize_sound (n : Nat) :
    (readStringWithSize n).Sound (fun l s => l = s.bytes ∧ s.len = n) := by
  refine ReaderM.sound_bind (readVec_sound n) fun l v ⟨hv, hl⟩ => ?_
  cases hs : RString.fromUtf8 v with
  | some s =>
    have hb := RString.eq_of_fromUtf8 hs
    exact ReaderM.sound_pure (by simp [RString.len, hb, ← hv, hl])
  | none => exact ReaderM.sound_fail _

/-- The length byte of a string read is its byte length. -/
theorem readString_sound :
    readString.Sound (fun l s => l = UInt8.ofNat s.len :: s.bytes ∧ s.len < 256) :=
  ReaderM.sound_bind readU8_sound fun l b hb =>
    (readStringWithSize_sound b.toNat).mono fun l' s ⟨hl, hs⟩ => by
      subst hb hl
      refine ⟨by rw [hs, uint8_ofNat_toNat]; rfl, hs ▸ b.toNat_lt_size⟩

theorem readOptionalString_sound :
    readOptionalString.Sound (fun l o => match o with
      | none => l = [0]
      | some s => l = UInt8.ofNat s.len :: s.bytes ∧ 0 < s.len ∧ s.len < 256) := by
  refine ReaderM.sound_bind readU8_sound fun l b hb => ?_
  subst hb
  by_cases h0 : b = 0
  · simp only [h0, if_true]
    exact ReaderM.sound_pure rfl
  · simp only [h0, if_false]
    refine ReaderM.sound_bind (readStringWithSize_sound b.toNat) fun l' s ⟨hl, hs⟩ => ?_
    refine ReaderM.sound_pure ?_
    have hpos : 0 < b.toNat := Nat.pos_of_ne_zero fun h => h0 (UInt8.toNat.inj h)
    subst hl
    refine ⟨by rw [hs, uint8_ofNat_toNat]; simp, hs ▸ hpos, hs ▸ b.toNat_lt_size⟩

/-! ### Fixed-width reads fail without moving -/

/-- From every valid reader, an `Err` of `p` is `InvalidSize` with the cursor unmoved. -/
def ReaderM.Unmoved {α : Type} (p : ReaderM α) : Prop :=
  ∀ r e r', r.Valid → p r = .err e r' → e = .InvalidSize ∧ r' = r

/-- `read_bytes::<T>(n)` fails only with `InvalidSize` when `T::try_from` accepts every
    slice of length `n`. -/
theorem readBytes_unmoved {T : Type} (tryInto : List UInt8 → Option T) (n : Nat)
    (htry : ∀ l : List UInt8, l.length = n → ∃ v, tryInto l = some v) :
    (readBytes tryInto n).Unmoved := by
  intro r e r' hr h
  rw [readBytes_of_valid _ n hr] at h
  split_ifs at h with hn
  · obtain ⟨v, hv⟩ := htry _ (List.length_take_of_le hn)
    rw [hv] at h
    cases h
  · cases h
    exact ⟨rfl, rfl⟩

theorem readArray_unmoved (n : Nat) : (readArray n).Unmoved :=
  readBytes_unmoved _ n fun _ hl => ⟨_, FixedBytes.tryFrom_of_length hl⟩

theorem readU8_unmoved : readU8.Unmoved := by
  intro r e r' hr h
  rw [readU8_of_valid hr] at h
  cases hrem : r.remaining with
  | nil => rw [hrem] at h; cases h; exact ⟨rfl, rfl⟩
  | cons b t => rw [hrem] at h; cases h

theorem ReaderM.Unmoved.bind_pure {α β : Type} {p : ReaderM α} {f : α → β} (hp : p.Unmoved) :
    (p >>= fun a => pure (f a)).Unmoved := by
  intro r e r' hr h
  simp only [Method.bind_apply] at h
  cases hx : p r with
  | ok a r₁ => rw [hx] at h; cases h
  | err e' r₁ => rw [hx] at h; cases h; exact hp r e r' hr hx
  | panic => rw [hx] at h; cases h

/-! ### The contract of every read -/

/-- The reads of `Reader`, with their arguments (`read_bytes` at `T = [u8; n]` and at
    `T = Vec<u8>`). -/
inductive ReadOp
  | u8 | bool | u16 | u64 | u128
  | array (n : Nat) | vec (n : Nat) | bytes32 | bytes64 | hash
  | stringWithSize (size : Nat) | string | optionalString
deriving DecidableEq, Repr

/-- What each read returns. -/
def ReadOp.Ret : ReadOp → Type
  | .u8 => UInt8
  | .bool => Bool
  | .u16 => UInt16
  | .u64 => UInt64
  | .u128 => BitVec 128
  | .array n => FixedBytes n
  | .vec _ => List UInt8
  | .bytes32 => FixedBytes 32
  | .bytes64 => FixedBytes 64
  | .hash => Hash
  | .stringWithSize _ => RString
  | .string => RString
  | .optionalString => Option RString

/-- The method each `ReadOp` calls. -/
def ReadOp.exec : (o : ReadOp) → ReaderM o.Ret
  | .u8 => readU8
  | .bool => readBool
  | .u16 => readU16
  | .u64 => readU64
  | .u128 => readU128
  | .array n => readArray n
  | .vec n => readVec n
  | .bytes32 => readBytes32
  | .bytes64 => readBytes64
  | .hash => readHash
  | .stringWithSize n => readStringWithSize n
  | .string => readString
  | .optionalString => readOptionalString

/-- `l` are exactly the bytes that make the value `v`: integers big-endian, strings after
    their length byte. -/
def ReadOp.Decodes : (o : ReadOp) → List UInt8 → o.Ret → Prop
  | .u8, l, v => l = [v]
  | .bool, l, v => ∃ b, l = [b] ∧ v = (b == 1)
  | .u16, l, v => l.length = 2 ∧ v.toNat = beNat l
  | .u64, l, v => l.length = 8 ∧ v.toNat = beNat l
  | .u128, l, v => l.length = 16 ∧ v.toNat = beNat l
  | .array _, l, v => l = v.data
  | .vec n, l, v => l = v ∧ l.length = n
  | .bytes32, l, v => l = v.data
  | .bytes64, l, v => l = v.data
  | .hash, l, v => l = v.bytes.data
  | .stringWithSize n, l, v => l = v.bytes ∧ v.len = n
  | .string, l, v => l = UInt8.ofNat v.len :: v.bytes ∧ v.len < 256
  | .optionalString, l, none => l = [0]
  | .optionalString, l, some s => l = UInt8.ofNat s.len :: s.bytes ∧ 0 < s.len ∧ s.len < 256

/-- The reads of a fixed number of bytes. -/
def ReadOp.FixedWidth : ReadOp → Bool
  | .stringWithSize _ | .string | .optionalString => false
  | _ => true

/-- The contract of one read from `r`: no panic; an `Ok` consumed exactly the bytes that
    decode to its value; an `Err` leaves the cursor within the bytes, and a fixed-width read
    fails only with `InvalidSize`, cursor unmoved. -/
def ReadOp.Contract (o : ReadOp) (r : Reader) : Prop :=
  (o.exec r).Sound r o.Decodes ∧
    (o.FixedWidth = true → ∀ e r', o.exec r = .err e r' → e = .InvalidSize ∧ r' = r)

theorem ReadOp.exec_sound (o : ReadOp) : o.exec.Sound o.Decodes := by
  cases o with
  | u8 => exact readU8_sound
  | bool => exact readBool_sound
  | u16 => exact ReaderM.sound_map (readBe_sound 2) fun l v ⟨hl, hv⟩ =>
      ⟨hl, by subst hv; exact UInt16.toNat_ofNat_of_lt (beNat_lt_of_length hl)⟩
  | u64 => exact ReaderM.sound_map (readBe_sound 8) fun l v ⟨hl, hv⟩ =>
      ⟨hl, by subst hv; exact UInt64.toNat_ofNat_of_lt (beNat_lt_of_length hl)⟩
  | u128 => exact ReaderM.sound_map (readBe_sound 16) fun l v ⟨hl, hv⟩ =>
      ⟨hl, by subst hv; exact Nat.mod_eq_of_lt (beNat_lt_of_length hl)⟩
  | array n => exact readArray_sound n
  | vec n => exact readVec_sound n
  | bytes32 => exact readArray_sound 32
  | bytes64 => exact readArray_sound 64
  | hash => exact readHash_sound
  | stringWithSize n => exact readStringWithSize_sound n
  | string => exact readString_sound
  | optionalString => exact readOptionalString_sound.mono fun l o h => by cases o <;> exact h

theorem ReadOp.exec_unmoved (o : ReadOp) (h : o.FixedWidth = true) : o.exec.Unmoved := by
  cases o with
  | u8 => exact readU8_unmoved
  | bool => exact readU8_unmoved.bind_pure
  | u16 | u64 | u128 => exact (readArray_unmoved _).bind_pure.bind_pure
  | array n => exact readArray_unmoved n
  | vec n => exact readBytes_unmoved _ n fun l _ => ⟨l, rfl⟩
  | bytes32 | bytes64 => exact readArray_unmoved _
  | hash => exact (readArray_unmoved 32).bind_pure
  | stringWithSize | string | optionalString => cases h

/-- The readers that some sequence of reads reaches from `Reader::new(b)`, whatever each
    read returned. -/
inductive ReadOp.Reachable (b : List UInt8) : Reader → Prop
  | new : ReadOp.Reachable b (Reader.new b)
  | ok {r r' : Reader} (o : ReadOp) (v : o.Ret) :
      ReadOp.Reachable b r → o.exec r = .ok v r' → ReadOp.Reachable b r'
  | err {r r' : Reader} (o : ReadOp) (e : ReaderError) :
      ReadOp.Reachable b r → o.exec r = .err e r' → ReadOp.Reachable b r'

/-- One read from a valid reader keeps its contract, whatever it returns. -/
theorem ReadOp.contract_of_valid (o : ReadOp) {r : Reader} (hr : r.Valid) : o.Contract r :=
  ⟨o.exec_sound r hr, fun h e r' => o.exec_unmoved h r e r' hr⟩

/-- **The reader contract.** Along every sequence of reads from `Reader::new(b)`, the cursor
    stays within `b` (so `size()` never underflows), and every next read keeps its contract:
    no out-of-range slice or index, an `Ok` advances the cursor by exactly the bytes that
    make its value, and a fixed-width read that fails leaves the cursor where it was. -/
theorem reachable_contract {b : List UInt8} {r : Reader} (h : ReadOp.Reachable b r) :
    r.bytes = b ∧ r.total ≤ b.length ∧ ∀ o : ReadOp, o.Contract r := by
  suffices hv : r.bytes = b ∧ r.Valid from
    ⟨hv.1, hv.1 ▸ hv.2, fun o => o.contract_of_valid hv.2⟩
  induction h with
  | new => exact ⟨rfl, Reader.valid_new b⟩
  | ok o v _ hx ih =>
    have := o.exec_sound _ ih.2
    rw [hx] at this
    obtain ⟨l, hc, -⟩ := this
    exact ⟨hc.1 ▸ ih.1, hc.valid ih.2⟩
  | err o e _ hx ih =>
    have := o.exec_sound _ ih.2
    rw [hx] at this
    exact ⟨this.1.trans ih.1, this.2⟩

/-- The contract after one `read_u8` from `Reader::new([7, 0, 1])`. -/
theorem reachable_contract_after_u8 :
    (⟨[7, 0, 1], 1⟩ : Reader).bytes = [7, 0, 1] ∧ (⟨[7, 0, 1], 1⟩ : Reader).total ≤ 3 ∧
      ∀ o : ReadOp, o.Contract ⟨[7, 0, 1], 1⟩ :=
  reachable_contract (.ok .u8 (7 : UInt8) .new rfl)

end XelisP2p
