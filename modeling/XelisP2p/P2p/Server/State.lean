import XelisP2p.Core.KeyMap
import XelisP2p.P2p.Handshake

namespace XelisP2p

/-!
# P2P — the server's state and its methods

`p2p/server.rs`.  The server is shared by its tasks behind a `RwLock`: a method that takes
`&self` runs under the read lock and one that takes `&mut self` under the write lock, so each
method call is one atomic step of the world it acts on.  That world holds, besides the server,
what the tasks share outside it: the sockets of the connections, written to by the task that
services them, and the `mpsc` channels through which `send_to_peer` hands bytes to that task.

The server's own `Connection` type (with `get_peer_id`, `is_out`, `close`, `send_bytes`,
`read_bytes`) is not among the sources: `Conn` and `Sock` keep what the server reads of it.

* `World.sendToPeer`, `World.broadcastBytes` — the dispatch of bytes to the serving tasks;
* `World.addConnection`, `World.removeConnection` — registration, with the panics of the
  source as `none`;
* `World.verifyHandshake` — the checks a handshake passes before its connection is registered.
-/

/-- A connection as the server sees it through its `Arc<Connection>`: which socket it is
    (the `Arc`'s pointer), and `get_peer_id`, `get_peer_address` and `is_out`, fixed when
    `create_connection` builds it.  Modelled from the spec: the server's `Connection` is not
    among the sources. -/
structure Conn where
  handle : Nat
  peer_id : UInt64
  addr : SocketAddr
  out : Bool
deriving DecidableEq, Repr

/-- The state of a connection's socket: `is_closed`, and every payload `send_bytes` wrote on
    it.  Modelled from the spec, as `Conn`. -/
structure Sock where
  closed : Bool
  written : List (List UInt8)
deriving DecidableEq, Repr

/-- `Message`. -/
inductive Message
  | SendBytes (peer_id : UInt64) (bytes : List UInt8)
  | AddConnection (connection : Conn)
  | RemoveConnection (peer_id : UInt64)
  | Exit
deriving DecidableEq, Repr

/-- An `mpsc` channel: the messages sent and not yet received, and whether its receiver is
    still alive; `send` fails once the receiver is dropped. -/
structure Chan where
  queue : List Message
  receiving : Bool
deriving DecidableEq, Repr

/-- `P2pServer`, less `bind_address` and `thread_pool`; `channels` holds channel ids. -/
structure P2pServer where
  peer_id : UInt64
  tag : Option RString
  max_peers : Nat
  multi_threaded : Bool
  connections : KeyMap Conn
  channels : KeyMap Nat
deriving DecidableEq

/-- What a node is built with: `config::NETWORK_ID` and `config::SEED_NODES`, which are not
    among the sources, and whether the build checks integer overflow (cargo's
    `overflow-checks`: on in the dev profile, off in the release profile). -/
structure Config where
  NETWORK_ID : FixedBytes 16
  SEED_NODES : List SocketAddr
  overflow_checks : Bool

/-- `P2pServer::new`; `none` is its failed `assert!` on the tag. -/
def P2pServer.new (peer_id : UInt64) (tag : Option RString) (max_peers : Nat)
    (multi_threaded : Bool) : Option P2pServer :=
  match tag with
  | some t =>
    if 0 < t.len ∧ t.len ≤ 16 then
      some ⟨peer_id, tag, max_peers, multi_threaded, KeyMap.empty, KeyMap.empty⟩
    else none
  | none => some ⟨peer_id, tag, max_peers, multi_threaded, KeyMap.empty, KeyMap.empty⟩

theorem P2pServer.new_spec {peer_id : UInt64} {tag : Option RString} {max_peers : Nat}
    {multi_threaded : Bool} {s : P2pServer}
    (h : P2pServer.new peer_id tag max_peers multi_threaded = some s) :
    s.peer_id = peer_id ∧ s.multi_threaded = multi_threaded ∧
      s.connections = KeyMap.empty ∧ s.channels = KeyMap.empty := by
  unfold P2pServer.new at h
  split at h
  · split_ifs at h; cases h; exact ⟨rfl, rfl, rfl, rfl⟩
  · cases h; exact ⟨rfl, rfl, rfl, rfl⟩

/-! ### The tasks and the world -/

/-- The main task: the `connect_to_peer` calls still to make, next first (the seed nodes,
    then the peers each new connection's handshake listed), and a connection that
    `verify_handshake` accepted and that is not registered yet, with the peers it returned. -/
structure MainTask where
  alive : Bool
  dials : List SocketAddr
  pending : Option (Conn × List SocketAddr)
deriving DecidableEq, Repr

/-- A worker of the multi-threaded mode: the connection it serves and its channel. -/
structure Worker where
  conn : Conn
  chan : Nat
  running : Bool
deriving DecidableEq, Repr

/-- The listener of the single-threaded mode: its channel and its own map of connections. -/
structure Listener where
  chan : Nat
  connections : KeyMap Conn
  running : Bool
deriving DecidableEq

/-- Everything the tasks of one node share: the server, the sockets by handle, the channels by
    id, and the tasks. -/
structure World where
  server : P2pServer
  socks : List Sock
  chans : List Chan
  main : MainTask
  workers : List Worker
  listener : Option Listener
deriving DecidableEq

/-- A call made under the server's lock. -/
abbrev ServerM (α : Type) : Type := Method World P2pError α

/-! ### Channels and sockets -/

/-- `sender.send(msg)` on channel `c`: `false` when its receiver is gone. -/
def World.send (c : Nat) (msg : Message) (w : World) : Bool × World :=
  match w.chans[c]? with
  | some ch =>
    if ch.receiving then
      (true, { w with chans := w.chans.set c { ch with queue := ch.queue ++ [msg] } })
    else (false, w)
  | none => (false, w)

/-- `connection.is_closed()`. -/
def World.isClosed (h : Nat) (w : World) : Bool := (w.socks[h]?.map Sock.closed).getD true

/-- `connection.close()`. -/
def World.close (h : Nat) (w : World) : World :=
  match w.socks[h]? with
  | some s => { w with socks := w.socks.set h { s with closed := true } }
  | none => w

/-- `connection.send_bytes(bytes)` that succeeded. -/
def World.write (h : Nat) (bytes : List UInt8) (w : World) : World :=
  match w.socks[h]? with
  | some s => { w with socks := w.socks.set h { s with written := s.written ++ [bytes] } }
  | none => w

theorem World.close_frame (h : Nat) (w : World) :
    w.close h = { w with socks := (w.close h).socks } := by
  unfold World.close; split <;> rfl

theorem World.write_frame (h : Nat) (bytes : List UInt8) (w : World) :
    w.write h bytes = { w with socks := (w.write h bytes).socks } := by
  unfold World.write; split <;> rfl

@[simp] theorem World.send_server (c : Nat) (msg : Message) (w : World) :
    (w.send c msg).2.server = w.server := by
  unfold World.send; split <;> (try split) <;> rfl

@[simp] theorem World.send_main (c : Nat) (msg : Message) (w : World) :
    (w.send c msg).2.main = w.main := by
  unfold World.send; split <;> (try split) <;> rfl

@[simp] theorem World.close_server (h : Nat) (w : World) : (w.close h).server = w.server := by
  unfold World.close; split <;> rfl

@[simp] theorem World.close_main (h : Nat) (w : World) : (w.close h).main = w.main := by
  unfold World.close; split <;> rfl

@[simp] theorem World.write_server (h : Nat) (bytes : List UInt8) (w : World) :
    (w.write h bytes).server = w.server := by
  unfold World.write; split <;> rfl

@[simp] theorem World.write_main (h : Nat) (bytes : List UInt8) (w : World) :
    (w.write h bytes).main = w.main := by
  unfold World.write; split <;> rfl

/-! ### The methods of `P2pServer` -/

/-- `get_peer_count`. -/
def P2pServer.getPeerCount (s : P2pServer) : Nat := s.connections.len

/-- `accept_new_connections`. -/
def P2pServer.acceptNewConnections (s : P2pServer) : Bool := s.getPeerCount < s.max_peers

/-- `a - b` on a 64-bit `usize`.  On an underflow a build with overflow checks panics, `none`;
    one without them wraps around. -/
def usizeSub (overflow_checks : Bool) (a b : Nat) : Option Nat :=
  if b ≤ a then some (a - b)
  else if overflow_checks then none
  else some (BitVec.ofNat 64 a - BitVec.ofNat 64 b).toNat

/-- `usize` subtraction panics only on an underflow with overflow checks on. -/
theorem usizeSub_isSome (overflow_checks : Bool) (a b : Nat) :
    (usizeSub overflow_checks a b).isSome ↔ b ≤ a ∨ overflow_checks = false := by
  unfold usizeSub
  split_ifs <;> simp_all

/-- `get_slots_available`: `max_peers - connections.len()`. -/
def P2pServer.getSlotsAvailable (overflow_checks : Bool) (s : P2pServer) : Option Nat :=
  usizeSub overflow_checks s.max_peers s.connections.len

/-- `is_connected_to`: the server's own id counts as connected. -/
def P2pServer.isConnectedTo (s : P2pServer) (peer_id : UInt64) : Bool :=
  s.peer_id == peer_id || s.connections.containsKey peer_id

theorem P2pServer.isConnectedTo_eq_false {s : P2pServer} {peer_id : UInt64} :
    s.isConnectedTo peer_id = false ↔
      s.peer_id ≠ peer_id ∧ peer_id ∉ s.connections.keys := by
  simp [P2pServer.isConnectedTo, ← KeyMap.containsKey_iff]

/-- `is_connected_to_addr`. -/
def P2pServer.isConnectedToAddr (s : P2pServer) (peer_addr : SocketAddr) : Bool :=
  s.connections.values.any fun connection => connection.addr == peer_addr

/-- `get_channel_for_connection`: in the single-threaded mode, the one channel, whatever the
    peer. -/
def P2pServer.getChannelForConnection (s : P2pServer) (peer_id : UInt64) : Option Nat :=
  if s.multi_threaded then s.channels.get peer_id else s.channels.get s.peer_id

/-- `send_to_peer`: `true` whenever a channel was found, whether or not the send went
    through. -/
def World.sendToPeer (peer_id : UInt64) (bytes : List UInt8) (w : World) : Bool × World :=
  match w.server.getChannelForConnection peer_id with
  | some c => (true, (w.send c (.SendBytes peer_id bytes)).2)
  | none => (false, w)

@[simp] theorem World.sendToPeer_fst (peer_id : UInt64) (bytes : List UInt8) (w : World) :
    (w.sendToPeer peer_id bytes).1 = (w.server.getChannelForConnection peer_id).isSome := by
  unfold World.sendToPeer; split <;> simp_all

/-- `broadcast_bytes`: `send_to_peer` to every registered connection. -/
def World.broadcastBytes (buf : List UInt8) (w : World) : World :=
  w.server.connections.values.foldl (fun w connection => (w.sendToPeer connection.peer_id buf).2) w

@[simp] theorem World.sendToPeer_server (peer_id : UInt64) (bytes : List UInt8) (w : World) :
    (w.sendToPeer peer_id bytes).2.server = w.server := by
  unfold World.sendToPeer; split <;> simp

@[simp] theorem World.sendToPeer_main (peer_id : UInt64) (bytes : List UInt8) (w : World) :
    (w.sendToPeer peer_id bytes).2.main = w.main := by
  unfold World.sendToPeer; split <;> simp

theorem World.foldl_sendToPeer (buf : List UInt8) :
    ∀ (conns : List Conn) (w : World),
      (conns.foldl (fun w connection => (w.sendToPeer connection.peer_id buf).2) w).server =
        w.server ∧
      (conns.foldl (fun w connection => (w.sendToPeer connection.peer_id buf).2) w).main = w.main
  | [], _ => ⟨rfl, rfl⟩
  | c :: cs, w => by
    obtain ⟨h₁, h₂⟩ := World.foldl_sendToPeer buf cs (w.sendToPeer c.peer_id buf).2
    exact ⟨by simp [h₁], by simp [h₂]⟩

@[simp] theorem World.broadcastBytes_server (buf : List UInt8) (w : World) :
    (w.broadcastBytes buf).server = w.server :=
  (World.foldl_sendToPeer buf _ w).1

@[simp] theorem World.broadcastBytes_main (buf : List UInt8) (w : World) :
    (w.broadcastBytes buf).main = w.main :=
  (World.foldl_sendToPeer buf _ w).2

/-- `add_connection`: `none` is its panic on a peer id already registered.  In the
    multi-threaded mode it opens the connection's channel and returns its receiver. -/
def World.addConnection (connection : Conn) (w : World) : Option (Option Nat × World) :=
  match w.server.connections.insert connection.peer_id connection with
  | (some _, _) => none
  | (none, connections) =>
    let w := { w with server := { w.server with connections } }
    if w.server.multi_threaded then
      let c := w.chans.length
      some (some c, { w with
        chans := w.chans ++ [({ queue := [], receiving := true } : Chan)]
        server := { w.server with channels := (w.server.channels.insert connection.peer_id c).2 } })
    else some (none, w)

/-- `if !connection.is_closed() { connection.close() }`. -/
def World.closeIfOpen (h : Nat) (w : World) : World := if w.isClosed h then w else w.close h

theorem World.closeIfOpen_frame (h : Nat) (w : World) :
    w.closeIfOpen h = { w with socks := (w.closeIfOpen h).socks } := by
  unfold World.closeIfOpen; split
  · rfl
  · exact World.close_frame h w

@[simp] theorem World.closeIfOpen_server (h : Nat) (w : World) :
    (w.closeIfOpen h).server = w.server := by
  unfold World.closeIfOpen; split <;> simp

@[simp] theorem World.closeIfOpen_main (h : Nat) (w : World) :
    (w.closeIfOpen h).main = w.main := by
  unfold World.closeIfOpen; split <;> simp

/-- `remove_connection`: `none` is the panic of its `unwrap` on the single channel. -/
def World.removeConnection (peer_id : UInt64) (w : World) : Option (Bool × World) :=
  match w.server.connections.remove peer_id with
  | (none, _) => some (false, w)
  | (some connection, connections) =>
    let w := { w with server := { w.server with connections } }.closeIfOpen connection.handle
    if w.server.multi_threaded then
      match w.server.channels.remove peer_id with
      | (some c, channels) =>
        some (true, ({ w with server := { w.server with channels } }.send c .Exit).2)
      | (none, _) => some (true, w)
    else
      match w.server.getChannelForConnection peer_id with
      | some c => some (true, (w.send c (.RemoveConnection peer_id)).2)
      | none => none

/-- `verify_handshake`, with `create_connection` opening the connection's socket.  `parse`
    is `str::parse::<SocketAddr>`. -/
def World.verifyHandshake (cfg : Config) (parse : RString → Option SocketAddr)
    (addr : SocketAddr) (handshake : Handshake) (out : Bool) : ServerM (Conn × List SocketAddr) :=
  fun w =>
  if handshake.network_id ≠ cfg.NETWORK_ID then .err .InvalidNetworkID w
  else if w.server.isConnectedTo handshake.peer_id then
    .err (.PeerIdAlreadyUsed handshake.peer_id) w
  else
    let connection : Conn := ⟨w.socks.length, handshake.peer_id, addr, out⟩
    let w := { w with socks := w.socks ++ [({ closed := false, written := [] } : Sock)] }
    match handshake.peers.mapM parse with
    | none => .err .InvalidPeerAddress (w.close connection.handle)
    | some addrs =>
      let peers := addrs.filter fun peer_addr => !w.server.isConnectedToAddr peer_addr
      match w.server.getSlotsAvailable cfg.overflow_checks with
      | some slots => .ok (connection, peers.take slots) w
      | none => .panic

/-- What one `read_bytes` on a connection came back with: `ok` with the bytes read (none at
    all is the end of the stream), `WouldBlock`, or another error. -/
inductive ReadResult
  | ok (bytes : List UInt8)
  | wouldBlock
  | error
deriving DecidableEq, Repr

/-- `listen_connection` with a scratch buffer of 512 bytes. -/
def World.listenConnection (connection : Conn) (r : ReadResult) (w : World) : Option World :=
  match r with
  | .ok [] => (w.removeConnection connection.peer_id).map Prod.snd
  | .ok bytes => some (w.broadcastBytes (bytes.take 512))
  | .wouldBlock => some w
  | .error => (w.removeConnection connection.peer_id).map Prod.snd

end XelisP2p
