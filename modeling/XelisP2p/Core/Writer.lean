import XelisP2p.Core.Reader

namespace XelisP2p

/-!
# Core — `Writer`, and the reads that invert its writes

`core/writer.rs` is not among the sources.  Its interface is what the serializers call, and
§4.1 and §6 of the spec fix its wire form: an append-only byte buffer, big-endian integers,
strings behind a one-byte length, `0` for an absent optional string.

* `Writer.write*` — the primitives, each appending its bytes;
* `ReaderM.Reads p l v` — from any valid reader whose bytes left start with `l`, `p` returns
  `v` and consumes exactly `l`; `reads_bind` sequences it the way `do` sequences the reads;
* `readU8_reads` … `readOptionalString_reads` — every read inverts the matching write.
-/

/-- Modelled from the spec: `core/writer.rs` (not among the sources) is an append-only
    byte buffer (§4.1). -/
structure Writer where
  bytes : List UInt8
deriving DecidableEq, Repr

/-- Modelled from the spec: `Writer::new`, an empty buffer. -/
def Writer.new : Writer := ⟨[]⟩

/-- Modelled from the spec: `write_bytes`, the raw bytes. -/
def Writer.writeBytes (w : Writer) (b : List UInt8) : Writer := ⟨w.bytes ++ b⟩

/-- Modelled from the spec: `write_u8`. -/
def Writer.writeU8 (w : Writer) (v : UInt8) : Writer := w.writeBytes [v]

/-- Modelled from the spec: `write_u16`, big-endian (§6). -/
def Writer.writeU16 (w : Writer) (v : UInt16) : Writer := w.writeBytes (beBytes 2 v.toNat)

/-- Modelled from the spec: `write_u64`, big-endian (§6). -/
def Writer.writeU64 (w : Writer) (v : UInt64) : Writer := w.writeBytes (beBytes 8 v.toNat)

/-- Modelled from the spec: `write_hash`, the 32 raw bytes (§6). -/
def Writer.writeHash (w : Writer) (h : Hash) : Writer := w.writeBytes h.bytes.data

/-- Modelled from the spec: `write_string`, a one-byte length (`len() as u8`) and the
    UTF-8 bytes (§6). -/
def Writer.writeString (w : Writer) (s : RString) : Writer :=
  (w.writeU8 (UInt8.ofNat s.len)).writeBytes s.bytes

/-- Modelled from the spec: `write_optional_string`, length `0` for `None` (§6). -/
def Writer.writeOptionalString (w : Writer) : Option RString → Writer
  | some s => w.writeString s
  | none => w.writeU8 0

@[simp] theorem Writer.writeBytes_bytes (w : Writer) (b : List UInt8) :
    (w.writeBytes b).bytes = w.bytes ++ b := rfl

@[simp] theorem Writer.writeU8_bytes (w : Writer) (v : UInt8) :
    (w.writeU8 v).bytes = w.bytes ++ [v] := rfl

@[simp] theorem Writer.writeU16_bytes (w : Writer) (v : UInt16) :
    (w.writeU16 v).bytes = w.bytes ++ beBytes 2 v.toNat := rfl

@[simp] theorem Writer.writeU64_bytes (w : Writer) (v : UInt64) :
    (w.writeU64 v).bytes = w.bytes ++ beBytes 8 v.toNat := rfl

@[simp] theorem Writer.writeHash_bytes (w : Writer) (h : Hash) :
    (w.writeHash h).bytes = w.bytes ++ h.bytes.data := rfl

@[simp] theorem Writer.writeString_bytes (w : Writer) (s : RString) :
    (w.writeString s).bytes = w.bytes ++ UInt8.ofNat s.len :: s.bytes := by
  simp [Writer.writeString]

@[simp] theorem Writer.writeOptionalString_none (w : Writer) :
    w.writeOptionalString none = w.writeU8 0 := rfl

@[simp] theorem Writer.writeOptionalString_some (w : Writer) (s : RString) :
    w.writeOptionalString (some s) = w.writeString s := rfl

@[simp] theorem Writer.new_bytes : Writer.new.bytes = [] := rfl

/-! ### Reads that invert writes -/

/-- From every valid reader whose bytes left start with `l`, `p` returns `v` and consumes
    exactly `l`. -/
def ReaderM.Reads {α : Type} (p : ReaderM α) (l : List UInt8) (v : α) : Prop :=
  ∀ r t, r.Valid → r.remaining = l ++ t → p r = .ok v (r.advance l.length)

section Reads

variable {α β : Type}

theorem ReaderM.reads_pure (a : α) : (pure a : ReaderM α).Reads [] a := by
  intro r t _ _
  simp [Reader.advance]

/-- **Sequencing**: `p` reads `a` off `l₁`, then `f a` reads `b` off `l₂`. -/
theorem ReaderM.reads_bind {p : ReaderM α} {f : α → ReaderM β} {l₁ l₂ : List UInt8} {a : α}
    {b : β} (hp : p.Reads l₁ a) (hf : (f a).Reads l₂ b) : (p >>= f).Reads (l₁ ++ l₂) b := by
  intro r t hr hrem
  have hlen : l₁.length ≤ r.remaining.length := by simp only [hrem, List.length_append]; omega
  rw [Method.bind_apply, hp r (l₂ ++ t) hr (by rw [hrem, List.append_assoc]),
    Outcome.bind_ok, hf _ t (hr.advance hlen) (by simp [hrem]), Reader.advance_advance,
    List.length_append]

theorem ReaderM.Reads.congr {p : ReaderM α} {l l' : List UInt8} {a : α} (hp : p.Reads l a)
    (h : l = l') : p.Reads l' a := h ▸ hp

/-- A step that consumes nothing, such as a length check that passes. -/
theorem ReaderM.reads_bind_nil {p : ReaderM α} {f : α → ReaderM β} {l : List UInt8} {a : α}
    {b : β} (hp : p.Reads [] a) (hf : (f a).Reads l b) : (p >>= f).Reads l b :=
  ReaderM.Reads.congr (ReaderM.reads_bind hp hf) (List.nil_append l)

theorem ReaderM.reads_map {p : ReaderM α} (f : α → β) {l : List UInt8} {a : α}
    (hp : p.Reads l a) : (f <$> p).Reads l (f a) :=
  (ReaderM.reads_bind hp (ReaderM.reads_pure (f a))).congr (List.append_nil l)

/-- From `Reader::new(l ++ s)`, a read of `l` returns its value with `total_read() = l.len()`. -/
theorem ReaderM.Reads.apply_new {p : ReaderM α} {l : List UInt8} {v : α} (hp : p.Reads l v)
    (s : List UInt8) : p (Reader.new (l ++ s)) = .ok v ⟨l ++ s, l.length⟩ := by
  rw [hp _ s (Reader.valid_new _) rfl]
  simp [Reader.new, Reader.advance]

/-- A read whose value is wrapped, as `return C(p?)` does. -/
theorem ReaderM.reads_bind_pure {p : ReaderM α} {f : α → β} {l : List UInt8} {a : α}
    (hp : p.Reads l a) : (p >>= fun x => pure (f x)).Reads l (f a) :=
  (ReaderM.reads_bind hp (ReaderM.reads_pure (f a))).congr (List.append_nil l)

theorem ReaderM.reads_failIf {c : Prop} [Decidable c] (hc : ¬c) (e : ReaderError) :
    ReaderM.Reads (Method.failIf c e : ReaderM Unit) [] () := by
  unfold Method.failIf
  rw [if_neg hc]
  exact ReaderM.reads_pure ()

end Reads

theorem readBytes_reads {T : Type} (tryInto : List UInt8 → Option T) {l : List UInt8} {v : T}
    (hv : tryInto l = some v) : (readBytes tryInto l.length).Reads l v := by
  intro r t hr hrem
  rw [readBytes_of_valid _ _ hr, if_pos (by simp [hrem]), hrem, List.take_left, hv]

theorem readU8_reads (v : UInt8) : readU8.Reads [v] v := by
  intro r t hr hrem
  rw [readU8_of_valid hr, hrem]
  rfl

theorem readArray_reads {n : Nat} (a : FixedBytes n) : (readArray n).Reads a.data a := by
  have := readBytes_reads (FixedBytes.tryFrom n) (FixedBytes.tryFrom_data a)
  rwa [a.length_eq] at this

theorem readHash_reads (h : Hash) : readHash.Reads h.bytes.data h := by
  unfold readHash
  exact ReaderM.Reads.congr (ReaderM.reads_bind (readArray_reads h.bytes) (ReaderM.reads_pure _))
    (List.append_nil _)

/-- `read_bytes(w)` of a big-endian integer below `256 ^ w` reads its value back. -/
theorem readBe_reads (w : Nat) {v : Nat} (hv : v < 256 ^ w) :
    (readBe w).Reads (beBytes w v) v := by
  unfold readBe
  refine ReaderM.Reads.congr
    (ReaderM.reads_bind (readArray_reads ⟨beBytes w v, length_beBytes w v⟩) ?_)
    (List.append_nil _)
  show (pure (beNat (beBytes w v)) : ReaderM Nat).Reads [] v
  rw [beNat_beBytes, Nat.mod_eq_of_lt hv]
  exact ReaderM.reads_pure v

theorem readU16_reads (v : UInt16) : readU16.Reads (beBytes 2 v.toNat) v := by
  have := ReaderM.reads_map UInt16.ofNat (readBe_reads 2 v.toNat_lt_size)
  rwa [uint16_ofNat_toNat] at this

theorem readU64_reads (v : UInt64) : readU64.Reads (beBytes 8 v.toNat) v := by
  have := ReaderM.reads_map UInt64.ofNat (readBe_reads 8 v.toNat_lt_size)
  rwa [uint64_ofNat_toNat] at this

theorem readStringWithSize_reads (s : RString) :
    (readStringWithSize s.len).Reads s.bytes s := by
  unfold readStringWithSize readVec
  refine ReaderM.Reads.congr
    (ReaderM.reads_bind (readBytes_reads some (rfl : some s.bytes = some s.bytes)) ?_)
    (List.append_nil _)
  simp only [RString.fromUtf8_bytes]
  exact ReaderM.reads_pure s

/-- `read_string` reads back what `write_string` wrote, for strings below 256 bytes. -/
theorem readString_reads {s : RString} (hs : s.len < 256) :
    readString.Reads (UInt8.ofNat s.len :: s.bytes) s := by
  unfold readString
  refine ReaderM.Reads.congr (ReaderM.reads_bind (readU8_reads (UInt8.ofNat s.len)) ?_) rfl
  rw [uint8_toNat_ofNat, Nat.mod_eq_of_lt hs]
  exact readStringWithSize_reads s

/-- `read_optional_string` reads back what `write_optional_string` wrote, for `None` and
    for strings of 1 to 255 bytes. -/
theorem readOptionalString_reads {o : Option RString} (ho : ∀ s ∈ o, 0 < s.len ∧ s.len < 256) :
    readOptionalString.Reads (Writer.new.writeOptionalString o).bytes o := by
  unfold readOptionalString
  cases o with
  | none =>
    refine ReaderM.Reads.congr (ReaderM.reads_bind (readU8_reads 0) ?_) rfl
    exact ReaderM.reads_pure none
  | some s =>
    obtain ⟨hpos, hs⟩ := ho s rfl
    have hb : (UInt8.ofNat s.len).toNat = s.len := by rw [uint8_toNat_ofNat, Nat.mod_eq_of_lt hs]
    have hne : UInt8.ofNat s.len ≠ 0 := fun h => by rw [h] at hb; simp at hb; omega
    rw [show (Writer.new.writeOptionalString (some s)).bytes = [UInt8.ofNat s.len] ++ s.bytes by
      simp]
    refine ReaderM.reads_bind (readU8_reads (UInt8.ofNat s.len)) ?_
    simp only [if_neg hne, hb]
    exact ReaderM.Reads.congr
      (ReaderM.reads_bind (readStringWithSize_reads s) (ReaderM.reads_pure _)) (List.append_nil _)

/-! ### Each accepted encoding is the written one -/

theorem readBe_canonical (w : Nat) :
    (readBe w).Sound (fun l v => l = beBytes w v ∧ v < 256 ^ w) :=
  (readBe_sound w).mono fun l v ⟨hl, hv⟩ => by
    subst hv
    exact ⟨by rw [← hl, beBytes_beNat], hl ▸ beNat_lt l⟩

theorem readU16_canonical : readU16.Sound (fun l v => l = beBytes 2 v.toNat) :=
  ReaderM.sound_map (readBe_canonical 2) fun l v ⟨hl, hv⟩ => by
    rw [UInt16.toNat_ofNat_of_lt hv]; exact hl

theorem readU64_canonical : readU64.Sound (fun l v => l = beBytes 8 v.toNat) :=
  ReaderM.sound_map (readBe_canonical 8) fun l v ⟨hl, hv⟩ => by
    rw [UInt64.toNat_ofNat_of_lt hv]; exact hl

/-- What `read_optional_string` accepts is `write_optional_string` of its result, and a
    present string is never empty. -/
theorem readOptionalString_canonical :
    readOptionalString.Sound (fun l o =>
      l = (Writer.new.writeOptionalString o).bytes ∧ ∀ s ∈ o, 0 < s.len ∧ s.len < 256) :=
  readOptionalString_sound.mono fun l o h => by
    cases o with
    | none => exact ⟨h, by simp⟩
    | some s => exact ⟨by simpa using h.1, by simpa using h.2⟩

end XelisP2p
