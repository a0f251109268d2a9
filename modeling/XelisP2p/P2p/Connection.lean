import XelisP2p.P2p.Error
import XelisP2p.P2p.Packet.Handshake

namespace XelisP2p

/-!
# P2P — `Connection`: framed reads over one TCP stream

`p2p/connection.rs`.  A frame is a big-endian `u32` length and that many payload bytes.
`read_packet` reads the length with one call to `read_bytes_from_stream` on the first four
bytes of the scratch buffer, checks it against `max_size`, gathers the payload with
`read_all_bytes` — which loops over short reads — and decodes it with `Packet::read`, which
must consume the whole payload.

The socket is the network's: `TcpStream` holds the bytes the peer has sent and not yet been
read, and `ReadEvent`s saying how many of them each coming `read` returns, so that every
way TCP can split a byte stream into reads is one value of the model.

* `readPacket_of_whole_prefix` — a frame whose length prefix comes back whole from the
  first read is read and decoded, however the payload is split;
* `readPacket_rejects_split_prefix` — a frame whose length prefix is split over two reads
  is rejected with `InvalidPacketSize`.
-/

/-- `ConnectionMessage`. -/
inductive ConnectionMessage
  | Packet (bytes : List UInt8)
  | Exit
deriving DecidableEq, Repr

/-- `State`. -/
inductive State
  | Pending
  | Handshake
  | Success
deriving DecidableEq, Repr

/-- How one `read` on the socket comes back: `bytes n` returns at most `n` of the bytes in
    flight (none at all is the end of the stream), `error` an I/O error. -/
inductive ReadEvent
  | bytes (n : Nat)
  | error (e : IoError)
deriving DecidableEq, Repr

/-- The TCP stream as the reading side sees it: the bytes the peer has sent and not yet
    been read, and how the coming reads return them. -/
structure TcpStream where
  incoming : List UInt8
  reads : List ReadEvent
deriving DecidableEq, Repr

/-- `Connection`. -/
structure Connection where
  state : State
  stream : TcpStream
  addr : SocketAddr
  mailbox : List ConnectionMessage
  bytes_in : Nat
  bytes_out : Nat
  connected_on : UInt64
  closed : Bool
deriving DecidableEq, Repr

/-- An `async fn(&self, ..) -> P2pResult<α>` of `Connection`. -/
abbrev ConnM (α : Type) : Type := Method Connection P2pError α

/-- `read_bytes_from_stream` on a buffer of `len` bytes: one `read`; `0` bytes is
    `Disconnected`, otherwise `bytes_in` grows by what was read, and the bytes read are the
    first ones of the buffer. -/
def Connection.readBytesFromStream (len : Nat) : ConnM (List UInt8) := fun c =>
  match c.stream.reads with
  | [] => .err .Disconnected c
  | .error e :: rest => .err (.ErrorStd e) { c with stream := { c.stream with reads := rest } }
  | .bytes k :: rest =>
    let chunk := c.stream.incoming.take (min k len)
    let c := { c with stream := ⟨c.stream.incoming.drop chunk.length, rest⟩ }
    if chunk.length = 0 then .err .Disconnected c
    else .ok chunk { c with bytes_in := c.bytes_in + chunk.length }

/-- `read_packet_size`: one read into `buf[0..4]`, which panics on a buffer shorter than 4;
    anything but 4 bytes back is `InvalidPacketSize`. -/
def Connection.readPacketSize (bufLen : Nat) : ConnM UInt32 := do
  if bufLen < 4 then Method.abort
  let read ← Connection.readBytesFromStream 4
  Method.failIf (read.length ≠ 4) .InvalidPacketSize
  pure (UInt32.ofNat (beNat read))

/-- The `while left > 0` loop of `read_all_bytes`, given `fuel` passes (each pass reads at
    least one byte, so `left` passes always suffice); `left -= read as u32` panics on
    underflow. -/
def Connection.readAllBytesLoop (bufSize : Nat) : Nat → Nat → List UInt8 → ConnM (List UInt8)
  | _, 0, bytes => pure bytes
  | 0, _ + 1, _ => Method.abort
  | fuel + 1, left + 1, bytes => do
    let max := if bufSize > left + 1 then left + 1 else bufSize
    let read ← Connection.readBytesFromStream max
    if read.length > left + 1 then Method.abort
    Connection.readAllBytesLoop bufSize fuel (left + 1 - read.length) (bytes ++ read)

/-- `read_all_bytes`: `buf_size` is `buf.len() as u32`. -/
def Connection.readAllBytes (bufLen : Nat) (left : UInt32) : ConnM (List UInt8) :=
  Connection.readAllBytesLoop (bufLen % 2 ^ 32) left.toNat left.toNat []

/-- `read_packet`, with `Packet::read` as `decode`. -/
def Connection.readPacket {α : Type} (decode : ReaderM α) (bufLen : Nat) (max_size : UInt32) :
    ConnM α := do
  let size ← Connection.readPacketSize bufLen
  Method.failIf (size = 0 ∨ size > max_size) .InvalidPacketSize
  let bytes ← Connection.readAllBytes bufLen size
  match decode (Reader.new bytes) with
  | .ok packet reader =>
    if reader.totalRead ≠ bytes.length then Method.fail .InvalidPacketNotFullRead
    else pure packet
  | .err e _ => Method.fail (.ReaderError e)
  | .panic => Method.abort

/-! ### Reading a frame -/

/-- The coming reads all return at least one byte of what is in flight. -/
def TcpStream.Delivers (s : TcpStream) : Prop := ∀ e ∈ s.reads, ∃ n, e = .bytes n ∧ 0 < n

/-- One read that returns `m = min k len ≥ 1` bytes of what is in flight. -/
theorem Connection.readBytesFromStream_bytes (c : Connection) {len k : Nat} {rest : List ReadEvent}
    (hreads : c.stream.reads = .bytes k :: rest) (hm : 0 < min k len)
    (hin : min k len ≤ c.stream.incoming.length) :
    Connection.readBytesFromStream len c = .ok (c.stream.incoming.take (min k len))
      { c with stream := ⟨c.stream.incoming.drop (min k len), rest⟩,
               bytes_in := c.bytes_in + min k len } := by
  have hlen : (c.stream.incoming.take (min k len)).length = min k len := by
    rw [List.length_take]; omega
  simp only [Connection.readBytesFromStream, hreads, hlen]
  rw [if_neg (by omega)]

/-- **`read_all_bytes` gathers short reads.** From a stream whose next `left` bytes are `q`
    and whose coming reads each return at least one byte, the loop returns `q` after the
    bytes gathered so far, with `bytes_in` grown by `left`, and never runs out of passes
    when it has `left` of them. -/
theorem Connection.readAllBytesLoop_ok {bufSize : Nat} (hbuf : 0 < bufSize) :
    ∀ (fuel left : Nat) (bytes q t : List UInt8) (c : Connection), left ≤ fuel →
      q.length = left → c.stream.incoming = q ++ t → left ≤ c.stream.reads.length →
      c.stream.Delivers →
      ∃ reads', Connection.readAllBytesLoop bufSize fuel left bytes c =
        .ok (bytes ++ q) { c with stream := ⟨t, reads'⟩, bytes_in := c.bytes_in + left } := by
  intro fuel
  induction fuel with
  | zero =>
    intro left bytes q t c hf hq hin _ _
    obtain rfl : left = 0 := by omega
    obtain rfl : q = [] := List.eq_nil_of_length_eq_zero hq
    rw [List.nil_append] at hin
    exact ⟨c.stream.reads, by simp [Connection.readAllBytesLoop, ← hin]⟩
  | succ f ih =>
    intro left bytes q t c hf hq hin hlen hdel
    cases left with
    | zero =>
      obtain rfl : q = [] := List.eq_nil_of_length_eq_zero hq
      rw [List.nil_append] at hin
      exact ⟨c.stream.reads, by simp [Connection.readAllBytesLoop, ← hin]⟩
    | succ l =>
      obtain ⟨e, rest, hreads⟩ : ∃ e rest, c.stream.reads = e :: rest := by
        cases h : c.stream.reads with
        | nil => rw [h] at hlen; simp at hlen
        | cons e rest => exact ⟨e, rest, rfl⟩
      obtain ⟨n, rfl, hn⟩ := hdel e (by simp [hreads])
      set max := if bufSize > l + 1 then l + 1 else bufSize with hmax
      have hm : 0 < min n max ∧ min n max ≤ l + 1 := by
        constructor <;> split_ifs at hmax <;> omega
      have hread := c.readBytesFromStream_bytes hreads hm.1
        (by rw [hin, List.length_append]; omega)
      have htake : c.stream.incoming.take (min n max) = q.take (min n max) := by
        rw [hin, List.take_append_of_le_length (by omega)]
      have hdrop : c.stream.incoming.drop (min n max) = q.drop (min n max) ++ t := by
        rw [hin, List.drop_append_of_le_length (by omega)]
      obtain ⟨reads', hrec⟩ := ih (l + 1 - min n max) (bytes ++ q.take (min n max))
        (q.drop (min n max)) t
        { c with stream := ⟨c.stream.incoming.drop (min n max), rest⟩,
                 bytes_in := c.bytes_in + min n max }
        (by omega) (by simp [List.length_drop, hq]) hdrop
        (by simp only; rw [hreads] at hlen; simp at hlen; omega)
        (fun e he => hdel e (by simp [hreads, he]))
      refine ⟨reads', ?_⟩
      rw [Connection.readAllBytesLoop, Method.bind_apply, ← hmax, hread, Outcome.bind_ok,
        htake, List.length_take_of_le (by omega), if_neg (by omega), Method.bind_apply,
        Method.pure_apply, Outcome.bind_ok]
      refine hrec.trans ?_
      rw [List.append_assoc, List.take_append_drop]
      congr 2
      show c.bytes_in + min n max + (l + 1 - min n max) = _
      omega

/-! ### `read_all_bytes` on any stream -/

/-- What `read_all_bytes` may come back with from `c`, asked for `left` more bytes after
    `bytes`: never a panic; an `Ok` with exactly the next `left` bytes in flight, `bytes_in`
    grown by `left` and at most `left` reads made; or `Disconnected` or an I/O error. -/
def Connection.ReadAllResult (c : Connection) (left : Nat) (bytes : List UInt8) :
    Outcome Connection P2pError (List UInt8) → Prop
  | .ok out c' => out = bytes ++ c.stream.incoming.take left ∧ left ≤ c.stream.incoming.length ∧
      c' = { c with stream := ⟨c.stream.incoming.drop left, c'.stream.reads⟩,
                    bytes_in := c.bytes_in + left } ∧
      ∃ j ≤ left, c'.stream.reads = c.stream.reads.drop j
  | .err e _ => e = .Disconnected ∨ ∃ io, e = .ErrorStd io
  | .panic => False

/-- A read returns at most the `len` bytes it was given room for. -/
theorem Connection.readBytesFromStream_length_le {len : Nat} {c c' : Connection}
    {read : List UInt8} (h : Connection.readBytesFromStream len c = .ok read c') :
    read.length ≤ len := by
  unfold Connection.readBytesFromStream at h
  split at h
  · cases h
  · cases h
  · dsimp only at h
    split_ifs at h
    cases h
    rw [List.length_take]; omega

/-- One pass of the loop asks the stream for `min(buf_size, left)` bytes and takes what it got
    off `left`: the underflow check `read > left` never fires. -/
theorem Connection.readAllBytesLoop_pass (bufSize fuel l : Nat) (bytes : List UInt8) :
    Connection.readAllBytesLoop bufSize (fuel + 1) (l + 1) bytes =
      (Connection.readBytesFromStream (min bufSize (l + 1)) >>= fun read =>
        Connection.readAllBytesLoop bufSize fuel (l + 1 - read.length) (bytes ++ read)) := by
  have hmax : (if bufSize > l + 1 then l + 1 else bufSize) = min bufSize (l + 1) := by
    split <;> omega
  funext c
  simp only [Connection.readAllBytesLoop, hmax, Method.bind_apply]
  cases h : Connection.readBytesFromStream (min bufSize (l + 1)) c with
  | ok read c' =>
    have hle : ¬read.length > l + 1 := by
      have := Connection.readBytesFromStream_length_le h; omega
    simp only [Outcome.bind_ok, if_neg hle, Method.bind_apply, Method.pure_apply]
  | err e c' => rfl
  | panic => rfl

/-- The pass on a read of `k` bytes: it returns a `chunk` of what is in flight; an empty one
    is `Disconnected`. -/
theorem Connection.readAllBytesLoop_succ (bufSize fuel l : Nat) (bytes : List UInt8)
    (c : Connection) {k : Nat} {rest : List ReadEvent}
    (hreads : c.stream.reads = .bytes k :: rest) :
    Connection.readAllBytesLoop bufSize (fuel + 1) (l + 1) bytes c =
      let chunk := c.stream.incoming.take (min k (min bufSize (l + 1)))
      let c' := { c with stream := ⟨c.stream.incoming.drop chunk.length, rest⟩ }
      if chunk.length = 0 then .err .Disconnected c'
      else Connection.readAllBytesLoop bufSize fuel (l + 1 - chunk.length) (bytes ++ chunk)
        { c' with bytes_in := c.bytes_in + chunk.length } := by
  rw [Connection.readAllBytesLoop_pass, Method.bind_apply]
  simp only [Connection.readBytesFromStream, hreads]
  split_ifs <;> rfl

/-- **`read_all_bytes` on any stream**, given at least `left` passes: see `ReadAllResult`. -/
theorem Connection.readAllBytesLoop_result (bufSize : Nat) :
    ∀ (fuel left : Nat) (bytes : List UInt8) (c : Connection), left ≤ fuel →
      c.ReadAllResult left bytes (Connection.readAllBytesLoop bufSize fuel left bytes c)
  | fuel, 0, bytes, c, _ => by
    have h0 : Connection.readAllBytesLoop bufSize fuel 0 bytes c = .ok bytes c := by
      cases fuel <;> rfl
    rw [h0]
    refine ⟨by simp, Nat.zero_le _, ?_, 0, le_rfl, rfl⟩
    cases c; rfl
  | 0, _ + 1, _, _, hf => absurd hf (by omega)
  | fuel + 1, l + 1, bytes, c, hf => by
    cases hreads : c.stream.reads with
    | nil =>
      simp only [Connection.readAllBytesLoop, Method.bind_apply, Connection.readBytesFromStream,
        hreads, Outcome.bind_err]
      exact .inl rfl
    | cons e rest =>
      cases e with
      | error io =>
        simp only [Connection.readAllBytesLoop, Method.bind_apply,
          Connection.readBytesFromStream, hreads, Outcome.bind_err]
        exact .inr ⟨io, rfl⟩
      | bytes k =>
        rw [Connection.readAllBytesLoop_succ bufSize fuel l bytes c hreads]
        dsimp only
        split_ifs with h0
        · exact .inl rfl
        · set chunk := c.stream.incoming.take (min k (min bufSize (l + 1))) with hchunk
          have hm : chunk.length ≤ l + 1 ∧ chunk.length ≤ c.stream.incoming.length := by
            rw [hchunk, List.length_take]; omega
          have htake : c.stream.incoming.take chunk.length = chunk := by
            rw [hchunk, List.take_eq_take, List.length_take]; omega
          have ih := Connection.readAllBytesLoop_result bufSize fuel (l + 1 - chunk.length)
            (bytes ++ chunk)
            { c with stream := ⟨c.stream.incoming.drop chunk.length, rest⟩,
                     bytes_in := c.bytes_in + chunk.length } (by omega)
          revert ih
          cases Connection.readAllBytesLoop bufSize fuel (l + 1 - chunk.length) (bytes ++ chunk)
            { c with stream := ⟨c.stream.incoming.drop chunk.length, rest⟩,
                     bytes_in := c.bytes_in + chunk.length } with
          | ok out c' =>
            rintro ⟨hout, hin, hc', j, hj, hr⟩
            simp only [List.length_drop, List.drop_drop] at hin hc' hr hout
            have hd : chunk.length + (l + 1 - chunk.length) = l + 1 := by omega
            refine ⟨?_, by omega, hc'.trans ?_, j + 1, by omega, by rw [hr, hreads]; rfl⟩
            · rw [hout, List.append_assoc]
              calc bytes ++ (chunk ++ _)
                  = bytes ++ (c.stream.incoming.take chunk.length ++
                      (c.stream.incoming.drop chunk.length).take (l + 1 - chunk.length)) := by
                    rw [htake]
                _ = bytes ++ c.stream.incoming.take (l + 1) := by rw [← List.take_add, hd]
            · rw [Nat.add_assoc, hd]
          | err e c' => exact id
          | panic => exact id

/-- **`read_all_bytes` on any stream.**  With a buffer of `1 ≤ buf.len() < 2^32` bytes, each
    pass requests `min(buf.len(), left)` bytes and subtracts what it got without underflow;
    whatever the stream does, the call never panics, it fails only with `Disconnected` or an
    I/O error, and on `Ok` it has used at most `left` reads and returns the first `left` bytes
    in flight, with `bytes_in` grown by `left`; a first read of 0 bytes is `Disconnected`. -/
theorem Connection.readAllBytes_contract {bufLen : Nat} (hbuf : 1 ≤ bufLen ∧ bufLen < 2 ^ 32)
    (left : UInt32) :
    (∀ (fuel l : Nat) (bytes : List UInt8),
      Connection.readAllBytesLoop (bufLen % 2 ^ 32) (fuel + 1) (l + 1) bytes =
        (Connection.readBytesFromStream (min bufLen (l + 1)) >>= fun read =>
          Connection.readAllBytesLoop (bufLen % 2 ^ 32) fuel (l + 1 - read.length)
            (bytes ++ read))) ∧
    (∀ c : Connection, c.ReadAllResult left.toNat [] (Connection.readAllBytes bufLen left c)) ∧
    (∀ (c : Connection) (k : Nat) (rest : List ReadEvent), 0 < left.toNat →
      c.stream.reads = .bytes k :: rest →
      c.stream.incoming.take (min k (min bufLen left.toNat)) = [] →
      Connection.readAllBytes bufLen left c =
        .err .Disconnected { c with stream := ⟨c.stream.incoming, rest⟩ }) := by
  have hmod : bufLen % 2 ^ 32 = bufLen := Nat.mod_eq_of_lt hbuf.2
  refine ⟨fun fuel l bytes => by rw [hmod]; exact Connection.readAllBytesLoop_pass _ fuel l bytes,
    fun c => Connection.readAllBytesLoop_result _ _ _ _ _ le_rfl, fun c k rest hl hreads h0 => ?_⟩
  obtain ⟨l, hl⟩ : ∃ l, left.toNat = l + 1 := ⟨left.toNat - 1, by omega⟩
  rw [Connection.readAllBytes, hl, Connection.readAllBytesLoop_succ _ _ _ _ _ hreads]
  rw [hl] at h0
  rw [hmod]
  simp [h0]

theorem readAllBytes_contract_512 :
    (1 ≤ 512 ∧ 512 < 2 ^ 32) ∧
      ∀ c : Connection, c.ReadAllResult 100 [] (Connection.readAllBytes 512 100 c) :=
  ⟨by decide, (Connection.readAllBytes_contract ⟨by decide, by decide⟩ 100).2.1⟩

/-- One read returning the whole length prefix `beBytes 4 n` of a frame. -/
theorem Connection.readPacketSize_whole (c : Connection) {bufLen k n : Nat} {t : List UInt8}
    {rest : List ReadEvent} (hbuf : 4 ≤ bufLen) (hk : 4 ≤ k) (hn : n < 2 ^ 32)
    (hin : c.stream.incoming = beBytes 4 n ++ t) (hreads : c.stream.reads = .bytes k :: rest) :
    Connection.readPacketSize bufLen c =
      .ok (UInt32.ofNat n) { c with stream := ⟨t, rest⟩, bytes_in := c.bytes_in + 4 } := by
  have hread := c.readBytesFromStream_bytes hreads (show 0 < min k 4 by omega)
    (by rw [hin, List.length_append, length_beBytes]; omega)
  rw [Nat.min_eq_right hk, hin, List.take_left' (length_beBytes 4 n),
    List.drop_left' (length_beBytes 4 n)] at hread
  have hbe : beNat (beBytes 4 n) = n := by rw [beNat_beBytes]; exact Nat.mod_eq_of_lt hn
  simp only [Connection.readPacketSize, if_neg (show ¬bufLen < 4 by omega), Method.bind_apply,
    Method.pure_apply, Outcome.bind_ok, hread, Method.failIf, length_beBytes, ne_eq,
    not_true_eq_false, if_false, hbe]

/-- One read returning only `k < 4` bytes of the length prefix: `read != 4`. -/
theorem Connection.readPacketSize_short (c : Connection) {bufLen k : Nat} {rest : List ReadEvent}
    (hbuf : 4 ≤ bufLen) (hk : 0 < k ∧ k < 4) (hin : k ≤ c.stream.incoming.length)
    (hreads : c.stream.reads = .bytes k :: rest) :
    Connection.readPacketSize bufLen c = .err .InvalidPacketSize
      { c with stream := ⟨c.stream.incoming.drop k, rest⟩, bytes_in := c.bytes_in + k } := by
  have hread := c.readBytesFromStream_bytes hreads (show 0 < min k 4 by omega) (by omega)
  rw [Nat.min_eq_left (by omega : k ≤ 4)] at hread
  have hlen : (c.stream.incoming.take k).length = k := List.length_take_of_le hin
  simp only [Connection.readPacketSize, if_neg (show ¬bufLen < 4 by omega), Method.bind_apply,
    Method.pure_apply, Outcome.bind_ok, hread, Method.failIf, hlen, if_pos (show k ≠ 4 by omega),
    Method.fail_apply, Outcome.bind_err]

/-- **A whole length prefix.** A frame `beBytes 4 |p| ++ p`, with `0 < |p| ≤ max_size` and a
    payload that `decode` reads exactly, is read and decoded when its length prefix comes back
    from the first read, however the payload is split over the reads after it.  A schedule of
    `m` reads is padded with events it never reaches, so `|p|` of them cover every split. -/
theorem Connection.readPacket_of_whole_prefix {α : Type} {decode : ReaderM α} {v : α}
    {r : Reader} {max_size : UInt32} {bufLen k : Nat} {p t : List UInt8} {rest : List ReadEvent}
    (c : Connection) (hbuf : 4 ≤ bufLen ∧ bufLen < 2 ^ 32)
    (hp : 0 < p.length ∧ p.length ≤ max_size.toNat)
    (hdec : decode (Reader.new p) = .ok v r) (hr : r.totalRead = p.length)
    (hin : c.stream.incoming = beBytes 4 p.length ++ p ++ t)
    (hreads : c.stream.reads = .bytes k :: rest) (hk : 4 ≤ k)
    (hrest : p.length ≤ rest.length) (hdel : ∀ e ∈ rest, ∃ n, e = .bytes n ∧ 0 < n) :
    ∃ reads', Connection.readPacket decode bufLen max_size c =
      .ok v { c with stream := ⟨t, reads'⟩, bytes_in := c.bytes_in + 4 + p.length } := by
  have hn : p.length < 2 ^ 32 := lt_of_le_of_lt hp.2 max_size.toNat_lt_size
  have hsz : (UInt32.ofNat p.length).toNat = p.length := UInt32.toNat_ofNat_of_lt hn
  have hsize := c.readPacketSize_whole hbuf.1 hk hn (by rw [hin, List.append_assoc]) hreads
  have hcheck : ¬(UInt32.ofNat p.length = 0 ∨ UInt32.ofNat p.length > max_size) := by
    rintro (h | h)
    · have h0 := congrArg UInt32.toNat h
      rw [hsz, UInt32.toNat_zero] at h0
      omega
    · have hlt : max_size.toNat < (UInt32.ofNat p.length).toNat := h
      omega
  obtain ⟨reads', hloop⟩ := Connection.readAllBytesLoop_ok
    (show 0 < bufLen % 2 ^ 32 by rw [Nat.mod_eq_of_lt hbuf.2]; omega) p.length p.length [] p t
    { c with stream := ⟨p ++ t, rest⟩, bytes_in := c.bytes_in + 4 } le_rfl rfl rfl hrest hdel
  refine ⟨reads', ?_⟩
  simp only [Connection.readPacket, Method.bind_apply, hsize, Outcome.bind_ok, Method.failIf,
    if_neg hcheck, Method.pure_apply, Connection.readAllBytes, hsz, hloop, List.nil_append, hdec,
    hr, ne_eq, not_true_eq_false, if_false]

/-- The handshake frame of `Packet.scenarioBytes`, its payload returned in reads of 41 bytes. -/
theorem scenario_frame_read :
    ∃ reads', Connection.readPacket Packet.Handshake.read 512 512
        ⟨.Pending, ⟨beBytes 4 82 ++ Packet.scenarioBytes, .bytes 4 :: List.replicate 82 (.bytes 41)⟩,
          .V4 ⟨[127, 0, 0, 1], rfl⟩ 2125, [], 0, 0, 0, false⟩ =
      .ok Packet.scenarioHandshake
        ⟨.Pending, ⟨[], reads'⟩, .V4 ⟨[127, 0, 0, 1], rfl⟩ 2125, [], 86, 0, 0, false⟩ :=
  Connection.readPacket_of_whole_prefix _ (by decide) (by decide)
    (show Packet.Handshake.read (Reader.new Packet.scenarioBytes) =
      .ok Packet.scenarioHandshake ⟨Packet.scenarioBytes, 82⟩ from rfl) rfl
    (List.append_nil _).symm rfl (by decide) (by decide)
    (fun e he => ⟨41, (List.eq_of_mem_replicate he), by decide⟩)

/-- **A split length prefix is rejected.** When the first read returns only `k < 4` bytes of
    the length prefix, `read_packet` fails with `InvalidPacketSize`, whatever the frame and the
    packet decoder: `read_packet_size` reads once where `read_all_bytes` loops. -/
theorem Connection.readPacket_rejects_split_prefix {α : Type} (decode : ReaderM α)
    (max_size : UInt32) (c : Connection) {bufLen k : Nat} {rest : List ReadEvent}
    (hbuf : 4 ≤ bufLen) (hk : 0 < k ∧ k < 4) (hin : k ≤ c.stream.incoming.length)
    (hreads : c.stream.reads = .bytes k :: rest) :
    Connection.readPacket decode bufLen max_size c = .err .InvalidPacketSize
      { c with stream := ⟨c.stream.incoming.drop k, rest⟩, bytes_in := c.bytes_in + k } := by
  simp only [Connection.readPacket, Method.bind_apply, c.readPacketSize_short hbuf hk hin hreads,
    Outcome.bind_err]

/-- The handshake frame of `Packet.scenarioBytes`, whose payload the handshake decoder reads
    exactly, with its length prefix returned as two reads of two bytes. -/
theorem scenario_split_prefix_rejected :
    Packet.Handshake.read (Reader.new Packet.scenarioBytes) =
        .ok Packet.scenarioHandshake ⟨Packet.scenarioBytes, 82⟩ ∧
      Connection.readPacket Packet.Handshake.read 512 512
          ⟨.Pending, ⟨beBytes 4 82 ++ Packet.scenarioBytes, [.bytes 2, .bytes 2, .bytes 82]⟩,
            .V4 ⟨[127, 0, 0, 1], rfl⟩ 2125, [], 0, 0, 0, false⟩ =
        .err .InvalidPacketSize
          ⟨.Pending, ⟨(beBytes 4 82 ++ Packet.scenarioBytes).drop 2, [.bytes 2, .bytes 82]⟩,
            .V4 ⟨[127, 0, 0, 1], rfl⟩ 2125, [], 2, 0, 0, false⟩ :=
  ⟨rfl, Connection.readPacket_rejects_split_prefix _ _ _ (by decide) (by decide) (by decide) rfl⟩

end XelisP2p
