import XelisP2p.P2p.Server.State

namespace XelisP2p

/-!
# P2P — the tasks of a node, step by step

`P2pServer::start` runs a main task (dial the seed nodes, then accept connections) and, in
the single-threaded mode, one listener task for every connection; in the multi-threaded mode
`handle_new_connection` starts one worker per connection.  Each `Action` is one step of one
task, between two acquisitions of the server's lock, with what the network answered as its
arguments; `World.next` is the effect of that step.  Every run of the node is a list of
actions, interleaved in any order.

`World.next` returns `none` for a panic while the write lock is held, which would poison the
lock for every task; a panic anywhere else ends only the task that panicked.  A step whose
task cannot take it changes nothing.

The recursion of `handle_new_connection` into `connect_to_peer` for each gossiped peer is the
main task's stack `dials`: the peers of a new connection are dialled before the rest.  The
step between `verify_handshake` and `add_connection` is split in two (`accept` or `dial`,
then `register`), since the other tasks may take the lock in between.

`send_to_peer` and `broadcast_bytes` are public.  `start` takes the server by value and shares
it only with its own tasks, but the actions `sendToPeer` and `broadcastBytes` let a call of
either come between any two steps anyway, so what is proved of the runs holds whatever such
callers do.

* `World.Reachable` — the states of every run from `start`;
* `World.reachable_of_run` — a run computed by `World.run` reaches its last state.
-/

/-- One step of one task, with what the peers and the network answered. -/
inductive Action
  /-- The main task calls `connect_to_peer` on the next address; `reply` is the handshake the
      peer answered with, `none` when the connection, the handshake write or the read
      failed. -/
  | dial (reply : Option (List UInt8))
  /-- The main task takes a connection from `addr` off `listener.incoming()`; `reply` as for
      `dial`, and `sent` whether its own handshake went out. -/
  | accept (addr : SocketAddr) (reply : Option (List UInt8)) (sent : Bool)
  /-- The main task registers the connection it verified, `set_blocking(false)` having
      succeeded or not, and then dials the peers `verify_handshake` returned. -/
  | register (nonblocking : Bool)
  /-- Worker `i` receives a message; `sent` is whether a `send_bytes` it makes succeeds. -/
  | workerRecv (i : Nat) (sent : Bool)
  /-- Worker `i` calls `listen_connection`, whose read comes back with `r`. -/
  | workerListen (i : Nat) (r : ReadResult)
  /-- Worker `i` finds its connection closed and returns. -/
  | workerStop (i : Nat)
  /-- The listener receives a message; `sent` as for `workerRecv`. -/
  | listenerRecv (sent : Bool)
  /-- The listener calls `listen_connection` on its connection to `peer_id`. -/
  | listenerListen (peer_id : UInt64) (r : ReadResult)
  /-- A caller outside the node's own tasks calls the `pub` method `send_to_peer`. -/
  | sendToPeer (peer_id : UInt64) (bytes : List UInt8)
  /-- A caller outside the node's own tasks calls the `pub` method `broadcast_bytes`. -/
  | broadcastBytes (bytes : List UInt8)
deriving DecidableEq, Repr

section Steps

variable (cfg : Config) (parse : RString → Option SocketAddr)

/-- The main task panicked. -/
def World.killMain (w : World) : World := { w with main := { w.main with alive := false } }

/-- Worker `i` returned: its receiver is dropped with it. -/
def World.stopWorker (i : Nat) (w : World) : World :=
  match w.workers[i]? with
  | some wk =>
    { w with
      workers := w.workers.set i { wk with running := false }
      chans := match w.chans[wk.chan]? with
        | some ch => w.chans.set wk.chan { ch with receiving := false }
        | none => w.chans }
  | none => w

/-- The listener's own map of connections. -/
def World.setLocal (l : Listener) (connections : KeyMap Conn) (w : World) : World :=
  { w with listener := some { l with connections } }

/-- The listener returned. -/
def World.stopListener (l : Listener) (w : World) : World :=
  { w with
    listener := some { l with running := false }
    chans := match w.chans[l.chan]? with
      | some ch => w.chans.set l.chan { ch with receiving := false }
      | none => w.chans }

/-- Takes the first message off channel `c`. -/
def World.recv (c : Nat) (w : World) : Option (Message × World) :=
  match w.chans[c]? with
  | some ⟨msg :: rest, receiving⟩ =>
    some (msg, { w with chans := w.chans.set c ⟨rest, receiving⟩ })
  | _ => none

@[simp] theorem World.killMain_server (w : World) : w.killMain.server = w.server := rfl

@[simp] theorem World.killMain_pending (w : World) : w.killMain.main.pending = w.main.pending :=
  rfl

@[simp] theorem World.stopWorker_server (i : Nat) (w : World) :
    (w.stopWorker i).server = w.server := by
  unfold World.stopWorker; split <;> rfl

@[simp] theorem World.stopWorker_main (i : Nat) (w : World) : (w.stopWorker i).main = w.main := by
  unfold World.stopWorker; split <;> rfl

@[simp] theorem World.setLocal_server (l : Listener) (m : KeyMap Conn) (w : World) :
    (w.setLocal l m).server = w.server := rfl

@[simp] theorem World.setLocal_main (l : Listener) (m : KeyMap Conn) (w : World) :
    (w.setLocal l m).main = w.main := rfl

@[simp] theorem World.stopListener_server (l : Listener) (w : World) :
    (w.stopListener l).server = w.server := rfl

@[simp] theorem World.stopListener_main (l : Listener) (w : World) :
    (w.stopListener l).main = w.main := rfl

theorem World.recv_eq_some {c : Nat} {w w' : World} {msg : Message}
    (h : w.recv c = some (msg, w')) : ∃ rest receiving,
      w.chans[c]? = some ⟨msg :: rest, receiving⟩ ∧
      w' = { w with chans := w.chans.set c ⟨rest, receiving⟩ } := by
  unfold World.recv at h
  split at h
  · rename_i hc; cases h; exact ⟨_, _, hc, rfl⟩
  · cases h

theorem World.recv_spec {c : Nat} {w w' : World} {msg : Message} (h : w.recv c = some (msg, w')) :
    w'.server = w.server ∧ w'.main = w.main := by
  obtain ⟨_, _, _, rfl⟩ := World.recv_eq_some h
  exact ⟨rfl, rfl⟩

/-- `handle_new_connection` from the bytes read to `verify_handshake`: `from_bytes` on them,
    the check, and (for an accepted connection) the handshake sent back.  A verified
    connection waits for `register`; a panic ends the main task. -/
def World.receiveHandshake (addr : SocketAddr) (data : List UInt8) (out sent : Bool)
    (w : World) : World :=
  match Handshake.fromBytes (data.take 512) with
  | some (.ok handshake) =>
    match w.verifyHandshake cfg parse addr handshake out with
    | .ok (connection, peers) w =>
      if sent then { w with main := { w.main with pending := some (connection, peers) } }
      else w.close connection.handle
    | .err _ w => w
    | .panic => w.killMain
  | some (.error _) => w
  | none => w.killMain

/-- The registration in `handle_new_connection`: `add_connection`, then in the
    multi-threaded mode a worker on the new channel, and in the single-threaded mode an
    `AddConnection` to the listener, the connection being removed if that send fails. -/
def World.registerConnection (connection : Conn) (w : World) : Option World := do
  let (receiver, w) ← w.addConnection connection
  match receiver with
  | some c => pure { w with workers := w.workers ++ [⟨connection, c, true⟩] }
  | none =>
    match w.server.getChannelForConnection w.server.peer_id with
    | some c =>
      let (ok, w) := w.send c (.AddConnection connection)
      if ok then pure w else (w.removeConnection connection.peer_id).map Prod.snd
    | none => none

/-- The main task's steps. -/
def World.mainStep (w : World) : Action → Option World
  | .dial reply =>
    match w.main with
    | ⟨true, addr :: dials, none⟩ =>
      let w := { w with main := { w.main with dials } }
      match reply with
      | some data => some (w.receiveHandshake cfg parse addr data true true)
      | none => some w
    | _ => some w
  | .accept addr reply sent =>
    match w.main with
    | ⟨true, [], none⟩ =>
      if !w.server.acceptNewConnections then some w
      else
        match reply with
        | some data => some (w.receiveHandshake cfg parse addr data false sent)
        | none => some w
    | _ => some w
  | .register nonblocking =>
    match w.main with
    | ⟨true, dials, some (connection, peers)⟩ =>
      let w := { w with main := ⟨true, peers ++ dials, none⟩ }
      if nonblocking then w.registerConnection connection else some w
    | _ => some w
  | _ => some w

/-- A worker's steps: the `while !is_closed()` loop, its `try_recv` loop and
    `listen_connection`.  A `send_bytes` error ends the worker, as does the panic on a
    message it does not support. -/
def World.workerStep (w : World) (i : Nat) (wk : Worker) : Action → Option World
  | .workerRecv _ sent =>
    match w.recv wk.chan with
    | some (.SendBytes _ bytes, w) =>
      if sent then some (w.write wk.conn.handle bytes) else some (w.stopWorker i)
    | some (_, w) => some (w.stopWorker i)
    | none => some w
  | .workerListen _ r => w.listenConnection wk.conn r
  | .workerStop _ => if w.isClosed wk.conn.handle then some (w.stopWorker i) else some w
  | _ => some w

/-- The listener's steps: its `try_recv` loop and `listen_connection` on each connection of
    its own map.  A `send_bytes` error removes the connection from that map only. -/
def World.listenerStep (w : World) (l : Listener) : Action → Option World
  | .listenerRecv sent =>
    match w.recv l.chan with
    | some (.Exit, w) => some (w.stopListener l)
    | some (.AddConnection connection, w) =>
      some (w.setLocal l (l.connections.insert connection.peer_id connection).2)
    | some (.RemoveConnection peer_id, w) => some (w.setLocal l (l.connections.remove peer_id).2)
    | some (.SendBytes peer_id bytes, w) =>
      match l.connections.get peer_id with
      | some connection =>
        if sent then some (w.write connection.handle bytes)
        else some (w.setLocal l (l.connections.remove peer_id).2)
      | none => some w
    | none => some w
  | .listenerListen peer_id r =>
    match l.connections.get peer_id with
    | some connection => w.listenConnection connection r
    | none => some w
  | _ => some w

/-- The effect of one step; `none` is a panic under the write lock. -/
def World.next (w : World) (a : Action) : Option World :=
  match a with
  | .sendToPeer peer_id bytes => some (w.sendToPeer peer_id bytes).2
  | .broadcastBytes bytes => some (w.broadcastBytes bytes)
  | .workerRecv i _ | .workerListen i _ | .workerStop i =>
    match w.workers[i]? with
    | some wk => if wk.running then w.workerStep i wk a else some w
    | none => some w
  | .listenerRecv _ | .listenerListen _ _ =>
    match w.listener with
    | some l => if l.running then w.listenerStep l a else some w
    | none => some w
  | _ => w.mainStep cfg parse a

/-- The world right after `start`: the main task about to dial the seed nodes and, in the
    single-threaded mode, the one channel registered under the server's own id and the
    listener running on it. -/
def World.start (server : P2pServer) : World :=
  if server.multi_threaded then
    ⟨server, [], [], ⟨true, cfg.SEED_NODES, none⟩, [], none⟩
  else
    ⟨{ server with channels := (server.channels.insert server.peer_id 0).2 }, [],
      [⟨[], true⟩], ⟨true, cfg.SEED_NODES, none⟩, [], some ⟨0, KeyMap.empty, true⟩⟩

/-- A run: the steps in order, stopping at a panic under the write lock. -/
def World.run : World → List Action → Option World
  | w, [] => some w
  | w, a :: as => (w.next cfg parse a).bind fun w => World.run w as

/-- The states of every run of a server `P2pServer::new` built. -/
inductive World.Reachable : World → Prop
  | start {peer_id : UInt64} {tag : Option RString} {max_peers : Nat} {multi_threaded : Bool}
      {server : P2pServer} (h : P2pServer.new peer_id tag max_peers multi_threaded = some server) :
      World.Reachable (World.start cfg server)
  | step {w w' : World} (a : Action) : World.Reachable w → w.next cfg parse a = some w' →
      World.Reachable w'

theorem World.reachable_run {w w' : World} (hw : World.Reachable cfg parse w) :
    ∀ {actions : List Action}, World.run cfg parse w actions = some w' →
      World.Reachable cfg parse w'
  | [], h => by cases h; exact hw
  | a :: as, h => by
    simp only [World.run, Option.bind_eq_some] at h
    obtain ⟨w₁, h₁, h₂⟩ := h
    exact World.reachable_run (.step a hw h₁) h₂

/-- A property that every server `P2pServer.new` builds starts with and that every step keeps
    holds in every reachable state. -/
theorem World.Reachable.invariant (P : World → Prop)
    (hstart : ∀ {peer_id tag max_peers multi_threaded server},
      P2pServer.new peer_id tag max_peers multi_threaded = some server →
        P (World.start cfg server))
    (hstep : ∀ {w w' : World} (a : Action), P w → w.next cfg parse a = some w' → P w')
    {w : World} (hw : World.Reachable cfg parse w) : P w := by
  induction hw with
  | start hs => exact hstart hs
  | step a _ hn ih => exact hstep a ih hn

/-- A run computed by `World.run` from `start` reaches its last state. -/
theorem World.reachable_of_run {peer_id : UInt64} {tag : Option RString} {max_peers : Nat}
    {multi_threaded : Bool} {server : P2pServer} {actions : List Action} {w : World}
    (hs : P2pServer.new peer_id tag max_peers multi_threaded = some server)
    (hrun : World.run cfg parse (World.start cfg server) actions = some w) :
    World.Reachable cfg parse w :=
  World.reachable_run cfg parse (.start hs) hrun

/-- A run from `start` whose last state passes the check `p` reaches a state that passes
    it. -/
theorem World.reach_of_run {peer_id : UInt64} {tag : Option RString} {max_peers : Nat}
    {multi_threaded : Bool} {server : P2pServer} {actions : List Action} {p : World → Bool}
    (hs : P2pServer.new peer_id tag max_peers multi_threaded = some server)
    (hrun : (World.run cfg parse (World.start cfg server) actions).map p = some true) :
    ∃ w, World.Reachable cfg parse w ∧ p w = true := by
  cases hr : World.run cfg parse (World.start cfg server) actions with
  | none => simp [hr] at hrun
  | some w => exact ⟨w, World.reachable_of_run cfg parse hs hr, by simpa [hr] using hrun⟩

end Steps

/-! ### Nodes for concrete runs -/

/-- A dev build of a node on the network of id `0…0` with no seed node. -/
def Config.noSeeds : Config := ⟨FixedBytes.zero 16, [], true⟩

/-- The handshake of node `peer_id` on the network of id `0…0` with no peer to list:
    version `1.0.0`, no tag, time, height and top hash zero. -/
def Handshake.bare (peer_id : UInt64) : Handshake where
  version := ⟨[49, 46, 48, 46, 48], rfl⟩
  node_tag := none
  network_id := FixedBytes.zero 16
  peer_id := peer_id
  utc_time := 0
  block_height := 0
  block_top_hash := Hash.zero
  peers := []
  version_len := by decide
  node_tag_len := by simp
  peers_len := by decide

/-- Peer `2` connects from `10.0.0.2:40000` with the handshake of node `2`, the node answers
    with its own, and the main task registers the connection. -/
def World.acceptPeer2 : List Action :=
  [.accept (.V4 ⟨[10, 0, 0, 2], rfl⟩ 40000) (some (Handshake.bare 2).toBytes) true, .register true]

end XelisP2p
