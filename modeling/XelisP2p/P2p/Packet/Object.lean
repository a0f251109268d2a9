import XelisP2p.Core.Writer

namespace XelisP2p.Packet

/-!
# P2P — object requests and responses on the wire

`p2p/packet/object.rs`.  An `ObjectRequest` asks a peer for a block or a transaction by its
hash: a kind byte, `0` or `1`, then the 32 bytes of the hash.  An `ObjectResponse` is a tag
byte, `0` for a block, `1` for a transaction and `2` for `NotFound`, then the block, the
transaction, or the request that found nothing.  `CompleteBlock` and `Transaction` are not
among the sources: their serializers are parameters of `ObjectResponse.write` and
`ObjectResponse.read`, and what is proved here holds for any.

* `ObjectRequest.read_reads`, `ObjectResponse.read_reads_notFound` — each read takes exactly
  the bytes the matching write wrote;
* `ObjectRequest.read_canonical` — and what `read` accepts is what `write` writes;
* `ObjectRequest.read_invalid`, `ObjectResponse.read_invalid` — an unknown first byte is
  `InvalidValue`;
* `object_codec` — the codec of both types over every request, suffix and first byte.
-/

/-- `ObjectRequest`. -/
inductive ObjectRequest
  | Block (hash : Hash)
  | Transaction (hash : Hash)
deriving DecidableEq, Repr

/-- `get_hash`. -/
def ObjectRequest.getHash : ObjectRequest → Hash
  | .Block hash => hash
  | .Transaction hash => hash

/-- `Serializer::write` for `ObjectRequest`: the kind byte, then the hash. -/
def ObjectRequest.write : ObjectRequest → Writer → Writer
  | .Block hash, writer => (writer.writeU8 0).writeHash hash
  | .Transaction hash, writer => (writer.writeU8 1).writeHash hash

/-- `Serializer::read` for `ObjectRequest`. -/
def ObjectRequest.read : ReaderM ObjectRequest := do
  let id ← readU8
  match id.toNat with
  | 0 => return .Block (← readHash)
  | 1 => return .Transaction (← readHash)
  | _ => Method.fail .InvalidValue

/-- `ObjectResponse`, over the types of blocks and transactions. -/
inductive ObjectResponse (β γ : Type)
  | Block (block : β)
  | Transaction (transaction : γ)
  | NotFound (request : ObjectRequest)
deriving DecidableEq, Repr

/-- `Serializer::write` for `ObjectResponse`, with the blocks' and transactions' own. -/
def ObjectResponse.write {β γ : Type} (writeBlock : β → Writer → Writer)
    (writeTransaction : γ → Writer → Writer) : ObjectResponse β γ → Writer → Writer
  | .Block block, writer => writeBlock block (writer.writeU8 0)
  | .Transaction transaction, writer => writeTransaction transaction (writer.writeU8 1)
  | .NotFound obj, writer => obj.write (writer.writeU8 2)

/-- `Serializer::read` for `ObjectResponse`, with the blocks' and transactions' own. -/
def ObjectResponse.read {β γ : Type} (readBlock : ReaderM β) (readTransaction : ReaderM γ) :
    ReaderM (ObjectResponse β γ) := do
  let id ← readU8
  match id.toNat with
  | 0 => return .Block (← readBlock)
  | 1 => return .Transaction (← readTransaction)
  | 2 => return .NotFound (← ObjectRequest.read)
  | _ => Method.fail .InvalidValue

/-! ### Requests -/

/-- The wire form of a request: its kind byte and its hash. -/
theorem ObjectRequest.write_bytes (r : ObjectRequest) (w : Writer) :
    (r.write w).bytes =
      w.bytes ++ (match r with | .Block _ => 0 | .Transaction _ => 1) :: r.getHash.bytes.data := by
  cases r <;> simp [ObjectRequest.write, ObjectRequest.getHash]

theorem ObjectRequest.length_write (r : ObjectRequest) :
    (r.write Writer.new).bytes.length = 33 := by
  rw [ObjectRequest.write_bytes, Writer.new_bytes, List.nil_append, List.length_cons,
    r.getHash.bytes.length_eq]
  rfl

/-- `read` takes exactly the 33 bytes `write` wrote and returns the request. -/
theorem ObjectRequest.read_reads (r : ObjectRequest) :
    ObjectRequest.read.Reads (r.write Writer.new).bytes r := by
  rw [ObjectRequest.write_bytes, Writer.new_bytes, List.nil_append]
  cases r with
  | Block h =>
    exact ReaderM.reads_bind (readU8_reads 0)
      (show (readHash >>= fun x => pure (ObjectRequest.Block x)).Reads _ _ from
        ReaderM.reads_bind_pure (readHash_reads h))
  | Transaction h =>
    exact ReaderM.reads_bind (readU8_reads 1)
      (show (readHash >>= fun x => pure (ObjectRequest.Transaction x)).Reads _ _ from
        ReaderM.reads_bind_pure (readHash_reads h))

/-- What `read` accepts is what `write` writes for its result. -/
theorem ObjectRequest.read_canonical :
    ObjectRequest.read.Sound (fun l r => l = (r.write Writer.new).bytes) := by
  refine ReaderM.sound_bind readU8_sound fun l id hl => ?_
  subst hl
  have hid : id.toNat < 256 := id.toNat_lt_size
  split
  · rename_i h0
    have : id = 0 := UInt8.toNat.inj h0
    subst this
    refine ReaderM.sound_bind readHash_sound fun l' h hl' => ReaderM.sound_pure ?_
    simp [hl', ObjectRequest.write]
  · rename_i h1
    have : id = 1 := UInt8.toNat.inj h1
    subst this
    refine ReaderM.sound_bind readHash_sound fun l' h hl' => ReaderM.sound_pure ?_
    simp [hl', ObjectRequest.write]
  · exact ReaderM.sound_fail _

/-- A first byte other than `0` and `1` is `InvalidValue`, after that byte. -/
theorem ObjectRequest.read_invalid {t : UInt8} (b : List UInt8) (h0 : t ≠ 0) (h1 : t ≠ 1) :
    ObjectRequest.read (Reader.new (t :: b)) = .err .InvalidValue ⟨t :: b, 1⟩ := by
  have h0' : t.toNat ≠ 0 := fun h => h0 (UInt8.toNat.inj h)
  have h1' : t.toNat ≠ 1 := fun h => h1 (UInt8.toNat.inj h)
  have hr : readU8 (Reader.new (t :: b)) = .ok t ⟨t :: b, 1⟩ := (readU8_reads t).apply_new b
  simp only [ObjectRequest.read, Method.bind_apply, hr, Outcome.bind_ok]
  rfl

/-! ### Responses -/

section Response

variable {β γ : Type} (readBlock : ReaderM β) (readTransaction : ReaderM γ)

/-- `read` takes exactly the 34 bytes `write` wrote for a `NotFound`. -/
theorem ObjectResponse.read_reads_notFound (writeBlock : β → Writer → Writer)
    (writeTransaction : γ → Writer → Writer) (r : ObjectRequest) :
    (ObjectResponse.read readBlock readTransaction).Reads
      ((ObjectResponse.NotFound r).write writeBlock writeTransaction Writer.new).bytes
      (.NotFound r) := by
  have hw : ((ObjectResponse.NotFound r : ObjectResponse β γ).write writeBlock writeTransaction
      Writer.new).bytes = [2] ++ ((r.write Writer.new).bytes ++ []) := by
    simp [ObjectResponse.write, ObjectRequest.write_bytes]
  rw [hw]
  exact ReaderM.reads_bind (readU8_reads 2)
    (ReaderM.reads_bind (ObjectRequest.read_reads r) (ReaderM.reads_pure _))

/-- A first byte other than `0`, `1` and `2` is `InvalidValue`, after that byte. -/
theorem ObjectResponse.read_invalid {t : UInt8} (b : List UInt8) (h0 : t ≠ 0) (h1 : t ≠ 1)
    (h2 : t ≠ 2) :
    ObjectResponse.read readBlock readTransaction (Reader.new (t :: b)) =
      .err .InvalidValue ⟨t :: b, 1⟩ := by
  have h0' : t.toNat ≠ 0 := fun h => h0 (UInt8.toNat.inj h)
  have h1' : t.toNat ≠ 1 := fun h => h1 (UInt8.toNat.inj h)
  have h2' : t.toNat ≠ 2 := fun h => h2 (UInt8.toNat.inj h)
  have hr : readU8 (Reader.new (t :: b)) = .ok t ⟨t :: b, 1⟩ := (readU8_reads t).apply_new b
  simp only [ObjectResponse.read, Method.bind_apply, hr, Outcome.bind_ok]
  rfl

end Response

/-- **The object codec.**  For every request `r` and every byte suffix `s`,
    `ObjectRequest::read` over `write(r) ++ s` returns `r` after exactly 33 bytes, and
    `ObjectResponse::read` over `write(NotFound(r)) ++ s` returns `NotFound(r)` after exactly
    34, whatever the serializers of blocks and transactions; what `ObjectRequest::read` accepts
    from a slice `b` after `k` bytes is written back as `b[0..k]`; and a first byte other than
    `0` and `1` (other than `0`, `1` and `2` for a response) is `InvalidValue`. -/
theorem object_codec :
    (∀ (r : ObjectRequest) (s : List UInt8),
      ObjectRequest.read (Reader.new ((r.write Writer.new).bytes ++ s)) =
        .ok r ⟨(r.write Writer.new).bytes ++ s, 33⟩) ∧
    (∀ {β γ : Type} (readBlock : ReaderM β) (readTransaction : ReaderM γ)
      (writeBlock : β → Writer → Writer) (writeTransaction : γ → Writer → Writer)
      (r : ObjectRequest) (s : List UInt8),
      ObjectResponse.read readBlock readTransaction (Reader.new
        (((ObjectResponse.NotFound r).write writeBlock writeTransaction Writer.new).bytes ++ s)) =
        .ok (.NotFound r) ⟨((ObjectResponse.NotFound r).write writeBlock writeTransaction
          Writer.new).bytes ++ s, 34⟩) ∧
    (∀ (b : List UInt8) (r : ObjectRequest) (rd : Reader),
      ObjectRequest.read (Reader.new b) = .ok r rd →
        (r.write Writer.new).bytes = b.take rd.totalRead) ∧
    (∀ (t : UInt8) (b : List UInt8), t ≠ 0 → t ≠ 1 →
      ObjectRequest.read (Reader.new (t :: b)) = .err .InvalidValue ⟨t :: b, 1⟩) ∧
    (∀ {β γ : Type} (readBlock : ReaderM β) (readTransaction : ReaderM γ) (t : UInt8)
      (b : List UInt8), t ≠ 0 → t ≠ 1 → t ≠ 2 →
      ObjectResponse.read readBlock readTransaction (Reader.new (t :: b)) =
        .err .InvalidValue ⟨t :: b, 1⟩) := by
  refine ⟨fun r s => ?_, fun readBlock readTransaction writeBlock writeTransaction r s => ?_,
    fun b r rd h => (ObjectRequest.read_canonical.prefix_of_ok h).1.symm,
    fun t b h0 h1 => ObjectRequest.read_invalid b h0 h1,
    fun readBlock readTransaction t b h0 h1 h2 =>
      ObjectResponse.read_invalid readBlock readTransaction b h0 h1 h2⟩
  · rw [(ObjectRequest.read_reads r).apply_new s, ObjectRequest.length_write]
  · have hlen : ((ObjectResponse.NotFound r).write writeBlock writeTransaction
        Writer.new).bytes.length = 34 := by
      simp [ObjectResponse.write, ObjectRequest.write_bytes, r.getHash.bytes.length_eq, HASH_SIZE]
    rw [(ObjectResponse.read_reads_notFound readBlock readTransaction writeBlock writeTransaction
      r).apply_new s, hlen]

/-! ### The response codec, for any codec of blocks and transactions -/

section Codec

variable {β γ : Type} {readBlock : ReaderM β} {readTransaction : ReaderM γ}
  {writeBlock : β → Writer → Writer} {writeTransaction : γ → Writer → Writer}

/-- The wire form of a response, when the serializers of blocks and transactions append what
    they write: the tag, then the block, the transaction or the request. -/
theorem ObjectResponse.write_bytes
    (hwb : ∀ b w, (writeBlock b w).bytes = w.bytes ++ (writeBlock b Writer.new).bytes)
    (hwt : ∀ t w, (writeTransaction t w).bytes = w.bytes ++ (writeTransaction t Writer.new).bytes)
    (resp : ObjectResponse β γ) :
    (resp.write writeBlock writeTransaction Writer.new).bytes =
      match resp with
      | .Block b => 0 :: (writeBlock b Writer.new).bytes
      | .Transaction t => 1 :: (writeTransaction t Writer.new).bytes
      | .NotFound r => 2 :: (r.write Writer.new).bytes := by
  cases resp with
  | Block b => rw [ObjectResponse.write, hwb]; rfl
  | Transaction t => rw [ObjectResponse.write, hwt]; rfl
  | NotFound r => simp [ObjectResponse.write, ObjectRequest.write_bytes]

/-- `read` takes exactly the bytes `write` wrote, for every response, when the blocks' and
    the transactions' own `read` do. -/
theorem ObjectResponse.read_reads
    (hwb : ∀ b w, (writeBlock b w).bytes = w.bytes ++ (writeBlock b Writer.new).bytes)
    (hwt : ∀ t w, (writeTransaction t w).bytes = w.bytes ++ (writeTransaction t Writer.new).bytes)
    (hrb : ∀ b, readBlock.Reads (writeBlock b Writer.new).bytes b)
    (hrt : ∀ t, readTransaction.Reads (writeTransaction t Writer.new).bytes t)
    (resp : ObjectResponse β γ) :
    (ObjectResponse.read readBlock readTransaction).Reads
      (resp.write writeBlock writeTransaction Writer.new).bytes resp := by
  rw [ObjectResponse.write_bytes hwb hwt]
  cases resp with
  | Block b =>
    exact ReaderM.reads_bind (readU8_reads 0)
      (show (readBlock >>= fun x => pure (ObjectResponse.Block x)).Reads _ _ from
        ReaderM.reads_bind_pure (hrb b))
  | Transaction t =>
    exact ReaderM.reads_bind (readU8_reads 1)
      (show (readTransaction >>= fun x => pure (ObjectResponse.Transaction x)).Reads _ _ from
        ReaderM.reads_bind_pure (hrt t))
  | NotFound r =>
    exact ReaderM.reads_bind (readU8_reads 2)
      (show (ObjectRequest.read >>= fun x => pure (ObjectResponse.NotFound x)).Reads _ _ from
        ReaderM.reads_bind_pure (ObjectRequest.read_reads r))

/-- What `read` accepts is what `write` writes for its result, when the same holds of the
    blocks' and the transactions' own `read`. -/
theorem ObjectResponse.read_canonical
    (hwb : ∀ b w, (writeBlock b w).bytes = w.bytes ++ (writeBlock b Writer.new).bytes)
    (hwt : ∀ t w, (writeTransaction t w).bytes = w.bytes ++ (writeTransaction t Writer.new).bytes)
    (hsb : readBlock.Sound fun l b => l = (writeBlock b Writer.new).bytes)
    (hst : readTransaction.Sound fun l t => l = (writeTransaction t Writer.new).bytes) :
    (ObjectResponse.read readBlock readTransaction).Sound
      fun l resp => l = (resp.write writeBlock writeTransaction Writer.new).bytes := by
  refine ReaderM.sound_bind readU8_sound fun l id hl => ?_
  subst hl
  have hid : id.toNat < 256 := id.toNat_lt_size
  split
  · rename_i h0
    cases UInt8.toNat.inj (h0.trans rfl : id.toNat = (0 : UInt8).toNat)
    exact ReaderM.sound_bind hsb fun l' b hl' => ReaderM.sound_pure (by
      simp [hl', ObjectResponse.write_bytes hwb hwt])
  · rename_i h1
    cases UInt8.toNat.inj (h1.trans rfl : id.toNat = (1 : UInt8).toNat)
    exact ReaderM.sound_bind hst fun l' t hl' => ReaderM.sound_pure (by
      simp [hl', ObjectResponse.write_bytes hwb hwt])
  · rename_i h2
    cases UInt8.toNat.inj (h2.trans rfl : id.toNat = (2 : UInt8).toNat)
    exact ReaderM.sound_bind ObjectRequest.read_canonical fun l' r hl' => ReaderM.sound_pure (by
      simp [hl', ObjectResponse.write_bytes hwb hwt])
  · exact ReaderM.sound_fail _

/-- **The response codec, for any codec of blocks and transactions.**  When the serializers
    of `CompleteBlock` and `Transaction` append what they write and each `read` reads back what
    its `write` wrote, `ObjectResponse::read` over `write(resp) ++ s` returns `resp` after
    exactly the bytes `write` wrote, for every response and every suffix; when, further, each of
    their `read`s accepts only what its `write` writes, what `ObjectResponse::read` accepts from
    a slice `b` after `k` bytes is written back as `b[0..k]`. -/
theorem ObjectResponse.codec
    (hwb : ∀ b w, (writeBlock b w).bytes = w.bytes ++ (writeBlock b Writer.new).bytes)
    (hwt : ∀ t w, (writeTransaction t w).bytes = w.bytes ++ (writeTransaction t Writer.new).bytes)
    (hrb : ∀ b, readBlock.Reads (writeBlock b Writer.new).bytes b)
    (hrt : ∀ t, readTransaction.Reads (writeTransaction t Writer.new).bytes t)
    (hsb : readBlock.Sound fun l b => l = (writeBlock b Writer.new).bytes)
    (hst : readTransaction.Sound fun l t => l = (writeTransaction t Writer.new).bytes) :
    (∀ (resp : ObjectResponse β γ) (s : List UInt8),
      ObjectResponse.read readBlock readTransaction
          (Reader.new ((resp.write writeBlock writeTransaction Writer.new).bytes ++ s)) =
        .ok resp ⟨(resp.write writeBlock writeTransaction Writer.new).bytes ++ s,
          (resp.write writeBlock writeTransaction Writer.new).bytes.length⟩) ∧
    ∀ (b : List UInt8) (resp : ObjectResponse β γ) (rd : Reader),
      ObjectResponse.read readBlock readTransaction (Reader.new b) = .ok resp rd →
        (resp.write writeBlock writeTransaction Writer.new).bytes = b.take rd.totalRead :=
  ⟨fun resp s => (ObjectResponse.read_reads hwb hwt hrb hrt resp).apply_new s,
    fun _ _ _ h => ((ObjectResponse.read_canonical hwb hwt hsb hst).prefix_of_ok h).1.symm⟩

/-- With hashes, written and read as `write_hash` and `read_hash` do, standing for blocks and
    transactions, the response codec holds. -/
theorem ObjectResponse.codec_of_hashes :
    (∀ (resp : ObjectResponse Hash Hash) (s : List UInt8),
      ObjectResponse.read readHash readHash (Reader.new ((resp.write (fun h w => w.writeHash h)
          (fun h w => w.writeHash h) Writer.new).bytes ++ s)) =
        .ok resp ⟨(resp.write (fun h w => w.writeHash h) (fun h w => w.writeHash h)
          Writer.new).bytes ++ s, (resp.write (fun h w => w.writeHash h)
            (fun h w => w.writeHash h) Writer.new).bytes.length⟩) ∧
    ∀ (b : List UInt8) (resp : ObjectResponse Hash Hash) (rd : Reader),
      ObjectResponse.read readHash readHash (Reader.new b) = .ok resp rd →
        (resp.write (fun h w => w.writeHash h) (fun h w => w.writeHash h) Writer.new).bytes =
          b.take rd.totalRead :=
  ObjectResponse.codec (fun _ _ => rfl) (fun _ _ => rfl) readHash_reads readHash_reads
    readHash_sound readHash_sound

end Codec

end XelisP2p.Packet
