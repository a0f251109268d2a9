import XelisP2p.P2p.Server.Dispatch

namespace XelisP2p

/-!
# P2P — two nodes on one connection

`listen_connection` hands every chunk it reads to `broadcast_bytes`, which queues it for every
registered peer, the one it was read from included.  Two nodes joined by a connection then send
a chunk back and forth for as long as they run.

The network is two nodes and the TCP connection between them: node `a`'s socket `ha` and node
`b`'s socket `hb` are its two ends.  What `a` reads on its end is what an external writer sent
towards `a`, then what `b` wrote on its end, in order, one payload a read (one of the ways TCP
may cut the stream); `b` reads what `a` wrote.  Any other step of a node is a step of its own
run.

* `Net.Reachable` — the runs of two linked nodes, each end of which is a reachable node
  (`Net.Reachable.nodes`);
* `Net.echo_unbounded` — a byte sent once makes the two nodes write any number of bytes;
* `Net.echo_exceeds_relay_bound` — four of them already, for one byte and two nodes.
-/

/-- Two nodes and the connection between them: its ends, what an external writer sent towards
    `a`, and how many payloads each node has read from its end. -/
structure Net where
  a : World
  b : World
  ha : Nat
  hb : Nat
  ext : List (List UInt8)
  readA : Nat
  readB : Nat

/-- What `send_bytes` wrote on socket `h`, payload by payload. -/
def World.written (w : World) (h : Nat) : List (List UInt8) :=
  (w.socks[h]?.map Sock.written).getD []

/-- Every byte the node wrote, on any socket. -/
def World.bytesWritten (w : World) : Nat := (w.socks.flatMap Sock.written).flatten.length

/-- What arrives at `a`'s end, in order. -/
def Net.inboundA (n : Net) : List (List UInt8) := n.ext ++ n.b.written n.hb

/-- What arrives at `b`'s end, in order. -/
def Net.inboundB (n : Net) : List (List UInt8) := n.a.written n.ha

/-- Whether a step reads from a connection. -/
def Action.reads : Action → Bool
  | .workerListen _ _ | .listenerListen _ _ => true
  | _ => false

/-- One step of the network. -/
inductive NetAction
  /-- A step of node `a` that reads nothing. -/
  | a (act : Action)
  /-- A step of node `b` that reads nothing. -/
  | b (act : Action)
  /-- Worker `i` of node `a` calls `listen_connection` on the connection, and reads the next
      payload that arrived at `a`'s end; with none there, the read would block. -/
  | readA (i : Nat)
  /-- The same for worker `i` of node `b`. -/
  | readB (i : Nat)
deriving DecidableEq, Repr

section Steps

variable (cfgA cfgB : Config) (parse : RString → Option SocketAddr)

/-- A read on one end: worker `i` of `w`, if it serves the connection on socket `h`, reads the
    first of the payloads `inbound` after the `read` it has read. -/
def World.readLink (cfg : Config) (w : World) (i h : Nat) (inbound : List (List UInt8))
    (read : Nat) : Option (World × Nat) :=
  match w.workers[i]?, inbound[read]? with
  | some wk, some p =>
    if wk.conn.handle = h then
      (w.next cfg parse (.workerListen i (.ok p))).map fun w => (w, read + 1)
    else some (w, read)
  | _, _ => some (w, read)

/-- The effect of one step; `none` is a panic under a node's write lock. -/
def Net.next (n : Net) : NetAction → Option Net
  | .a act => if act.reads then some n else (n.a.next cfgA parse act).map fun a => { n with a }
  | .b act => if act.reads then some n else (n.b.next cfgB parse act).map fun b => { n with b }
  | .readA i =>
    (World.readLink parse cfgA n.a i n.ha n.inboundA n.readA).map fun (a, readA) =>
      { n with a, readA }
  | .readB i =>
    (World.readLink parse cfgB n.b i n.hb n.inboundB n.readB).map fun (b, readB) =>
      { n with b, readB }

/-- A run: the steps in order. -/
def Net.run : Net → List NetAction → Option Net
  | n, [] => some n
  | n, x :: xs => (n.next cfgA cfgB parse x).bind fun n => Net.run n xs

/-- The runs of two nodes joined by one connection, from the moment each has registered the
    other on its end, nothing written on the connection yet and `ext` on its way to `a`. -/
inductive Net.Reachable : Net → Prop
  | link {a b : World} {ha hb : Nat} {ext : List (List UInt8)} {ca cb : Conn} :
      World.Reachable cfgA parse a → World.Reachable cfgB parse b →
      a.server.connections.get b.server.peer_id = some ca → ca.handle = ha →
      b.server.connections.get a.server.peer_id = some cb → cb.handle = hb →
      a.written ha = [] → b.written hb = [] →
      Net.Reachable ⟨a, b, ha, hb, ext, 0, 0⟩
  | step {n n' : Net} (x : NetAction) : Net.Reachable n → n.next cfgA cfgB parse x = some n' →
      Net.Reachable n'

theorem Net.reachable_run {n n' : Net} (hn : Net.Reachable cfgA cfgB parse n) :
    ∀ {xs : List NetAction}, Net.run cfgA cfgB parse n xs = some n' →
      Net.Reachable cfgA cfgB parse n'
  | [], h => by cases h; exact hn
  | x :: xs, h => by
    simp only [Net.run, Option.bind_eq_some] at h
    obtain ⟨n₁, h₁, h₂⟩ := h
    exact Net.reachable_run (.step x hn h₁) h₂

theorem World.readLink_reachable {cfg : Config} {w w' : World} {i h read read' : Nat}
    {inbound : List (List UInt8)} (hw : World.Reachable cfg parse w)
    (hr : World.readLink parse cfg w i h inbound read = some (w', read')) :
    World.Reachable cfg parse w' := by
  unfold World.readLink at hr
  split at hr
  · split at hr
    · obtain ⟨w₁, h₁, h₂⟩ := Option.map_eq_some'.1 hr
      cases h₂
      exact .step _ hw h₁
    · cases hr; exact hw
  · cases hr; exact hw

/-- **Each end of a reachable network is a reachable node.**  A network step is a step of one
    node or a read on one end, so every invariant of `World.Reachable` holds of both nodes. -/
theorem Net.Reachable.nodes {n : Net} (hn : Net.Reachable cfgA cfgB parse n) :
    World.Reachable cfgA parse n.a ∧ World.Reachable cfgB parse n.b := by
  induction hn with
  | link ha hb => exact ⟨ha, hb⟩
  | step x _ h ih =>
    cases x with
    | a act =>
      simp only [Net.next] at h
      split at h
      · cases h; exact ih
      · obtain ⟨a, ha, rfl⟩ := Option.map_eq_some'.1 h
        exact ⟨.step act ih.1 ha, ih.2⟩
    | b act =>
      simp only [Net.next] at h
      split at h
      · cases h; exact ih
      · obtain ⟨b, hb, rfl⟩ := Option.map_eq_some'.1 h
        exact ⟨ih.1, .step act ih.2 hb⟩
    | readA i =>
      obtain ⟨⟨a, r⟩, ha, rfl⟩ := Option.map_eq_some'.1 h
      exact ⟨World.readLink_reachable parse ih.1 ha, ih.2⟩
    | readB i =>
      obtain ⟨⟨b, r⟩, hb, rfl⟩ := Option.map_eq_some'.1 h
      exact ⟨ih.1, World.readLink_reachable parse ih.2 hb⟩

end Steps

/-! ### A byte sent back and forth -/

/-- Node `1`'s end: the connection it accepted from node `2`, at `10.0.0.2:40000`. -/
def Net.connA : Conn := ⟨0, 2, .V4 ⟨[10, 0, 0, 2], rfl⟩ 40000, false⟩

/-- Node `2`'s end: the connection it dialled to node `1`, at `10.0.0.1:2125`. -/
def Net.connB : Conn := ⟨0, 1, .V4 ⟨[10, 0, 0, 1], rfl⟩ 2125, true⟩

/-- A multi-threaded node `1` that registered node `2`, with what it wrote to it and what is
    queued for the worker. -/
def Net.nodeA (written : List (List UInt8)) (queue : List Message) : World :=
  ⟨⟨1, none, 8, true, ⟨[(2, Net.connA)], by decide⟩, ⟨[(2, 0)], by decide⟩⟩,
    [⟨false, written⟩], [⟨queue, true⟩], ⟨true, [], none⟩, [⟨Net.connA, 0, true⟩], none⟩

/-- A multi-threaded node `2` that registered node `1`, likewise. -/
def Net.nodeB (written : List (List UInt8)) (queue : List Message) : World :=
  ⟨⟨2, none, 8, true, ⟨[(1, Net.connB)], by decide⟩, ⟨[(1, 0)], by decide⟩⟩,
    [⟨false, written⟩], [⟨queue, true⟩], ⟨true, [], none⟩, [⟨Net.connB, 0, true⟩], none⟩

/-- A dev build of a node whose one seed node is node `1`, at `10.0.0.1:2125`. -/
def Config.seedNode1 : Config := ⟨FixedBytes.zero 16, [.V4 ⟨[10, 0, 0, 1], rfl⟩ 2125], true⟩

/-- The byte `7` written `j` times, one payload each. -/
def Net.echoLog : Nat → List (List UInt8)
  | 0 => []
  | j + 1 => Net.echoLog j ++ [[7]]

/-- The two nodes with the external writer's byte `7` sent to node `1`. -/
def Net.echo (wa : List (List UInt8)) (qa : List Message) (wb : List (List UInt8))
    (qb : List Message) (ra rb : Nat) : Net :=
  ⟨Net.nodeA wa qa, Net.nodeB wb qb, 0, 0, [[7]], ra, rb⟩

theorem Net.echoLog_eq (j : Nat) : Net.echoLog j = List.replicate j [7] := by
  induction j with
  | zero => rfl
  | succ j ih => rw [Net.echoLog, ih, List.replicate_succ']

theorem Net.getElem?_echoLog {j k : Nat} (h : k < j) : (Net.echoLog j)[k]? = some [7] := by
  rw [Net.echoLog_eq, List.getElem?_replicate_of_lt h]

theorem Net.length_flatten_echoLog (j : Nat) : (Net.echoLog j).flatten.length = j := by
  induction j with
  | zero => rfl
  | succ j ih => simp [Net.echoLog, ih]

theorem Net.bytesWritten_nodeA (j : Nat) (q : List Message) :
    (Net.nodeA (Net.echoLog j) q).bytesWritten = j := by
  simp only [World.bytesWritten, Net.nodeA, List.flatMap_cons, List.flatMap_nil, List.append_nil,
    Net.length_flatten_echoLog]

theorem Net.bytesWritten_nodeB (j : Nat) (q : List Message) :
    (Net.nodeB (Net.echoLog j) q).bytesWritten = j := by
  simp only [World.bytesWritten, Net.nodeB, List.flatMap_cons, List.flatMap_nil, List.append_nil,
    Net.length_flatten_echoLog]

section Echo

variable (j : Nat)

/-- Node `1` reads the byte and queues it for every peer: node `2`, the one it came from. -/
theorem Net.echo_readA :
    (Net.echo (Net.echoLog j) [] (Net.echoLog j) [] j j).next Config.noSeeds Config.seedNode1
      SocketAddr.parseV4 (.readA 0) =
      some (Net.echo (Net.echoLog j) [.SendBytes 2 [7]] (Net.echoLog j) [] (j + 1) j) := by
  have h : ([[7]] ++ Net.echoLog j)[j]? = some [7] := by
    rw [Net.echoLog_eq, List.singleton_append, ← List.replicate_succ]
    exact List.getElem?_replicate_of_lt (Nat.lt_succ_self j)
  simp only [Net.next, World.readLink, Net.echo, Net.inboundA, World.written, Net.nodeB,
    List.getElem?_cons_zero, Option.map_some', Option.getD_some, h]
  rfl

/-- Node `1`'s worker writes it back. -/
theorem Net.echo_writeA :
    (Net.echo (Net.echoLog j) [.SendBytes 2 [7]] (Net.echoLog j) [] (j + 1) j).next
      Config.noSeeds Config.seedNode1 SocketAddr.parseV4 (.a (.workerRecv 0 true)) =
      some (Net.echo (Net.echoLog (j + 1)) [] (Net.echoLog j) [] (j + 1) j) :=
  rfl

/-- Node `2` reads it and queues it for node `1`. -/
theorem Net.echo_readB :
    (Net.echo (Net.echoLog (j + 1)) [] (Net.echoLog j) [] (j + 1) j).next Config.noSeeds
      Config.seedNode1 SocketAddr.parseV4 (.readB 0) =
      some (Net.echo (Net.echoLog (j + 1)) [] (Net.echoLog j) [.SendBytes 1 [7]] (j + 1)
        (j + 1)) := by
  simp only [Net.next, World.readLink, Net.echo, Net.inboundB, World.written, Net.nodeA,
    List.getElem?_cons_zero, Option.map_some', Option.getD_some,
    Net.getElem?_echoLog (Nat.lt_succ_self j)]
  rfl

/-- Node `2`'s worker writes it back to node `1`. -/
theorem Net.echo_writeB :
    (Net.echo (Net.echoLog (j + 1)) [] (Net.echoLog j) [.SendBytes 1 [7]] (j + 1) (j + 1)).next
      Config.noSeeds Config.seedNode1 SocketAddr.parseV4 (.b (.workerRecv 0 true)) =
      some (Net.echo (Net.echoLog (j + 1)) [] (Net.echoLog (j + 1)) [] (j + 1) (j + 1)) :=
  rfl

end Echo

/-- One round: the byte goes from node `1` to node `2` and back. -/
def Net.echoRound : List NetAction :=
  [.readA 0, .a (.workerRecv 0 true), .readB 0, .b (.workerRecv 0 true)]

theorem Net.run_echoRound (j : Nat) :
    Net.run Config.noSeeds Config.seedNode1 SocketAddr.parseV4
      (Net.echo (Net.echoLog j) [] (Net.echoLog j) [] j j) Net.echoRound =
      some (Net.echo (Net.echoLog (j + 1)) [] (Net.echoLog (j + 1)) [] (j + 1) (j + 1)) := by
  simp only [Net.echoRound, Net.run, Net.echo_readA, Net.echo_writeA, Net.echo_readB,
    Net.echo_writeB, Option.some_bind]

/-- Node `1` accepts node `2`'s connection and node `2`, whose seed node is node `1`, dials
    it: each registers the other, and the byte is on its way to node `1`. -/
theorem Net.reachable_echo_start :
    Net.Reachable Config.noSeeds Config.seedNode1 SocketAddr.parseV4
      (Net.echo [] [] [] [] 0 0) := by
  have ha : World.run Config.noSeeds SocketAddr.parseV4
      (World.start Config.noSeeds ⟨1, none, 8, true, KeyMap.empty, KeyMap.empty⟩)
      [.accept (.V4 ⟨[10, 0, 0, 2], rfl⟩ 40000) (some (Handshake.bare 2).toBytes) true,
        .register true] = some (Net.nodeA [] []) := by
    decide
  have hb : World.run Config.seedNode1 SocketAddr.parseV4
      (World.start Config.seedNode1 ⟨2, none, 8, true, KeyMap.empty, KeyMap.empty⟩)
      [.dial (some (Handshake.bare 1).toBytes), .register true] = some (Net.nodeB [] []) := by
    decide
  exact .link (World.reachable_of_run _ _ (rfl : P2pServer.new 1 none 8 true = some _) ha)
    (World.reachable_of_run _ _ (rfl : P2pServer.new 2 none 8 true = some _) hb)
    (show (Net.nodeA [] []).server.connections.get 2 = some Net.connA from rfl) rfl
    (show (Net.nodeB [] []).server.connections.get 1 = some Net.connB from rfl) rfl rfl rfl

theorem Net.reachable_echo (j : Nat) :
    Net.Reachable Config.noSeeds Config.seedNode1 SocketAddr.parseV4
      (Net.echo (Net.echoLog j) [] (Net.echoLog j) [] j j) := by
  induction j with
  | zero => exact Net.reachable_echo_start
  | succ j ih => exact Net.reachable_run _ _ _ ih (Net.run_echoRound j)

/-- **A byte bounces between two nodes for ever.**  An external writer sends the byte `7`
    once to node `1`; each node's `listen_connection` queues what it reads for every peer, the
    one it read it from included, and its worker writes it back.  For every `m`, a run of the
    two nodes has each write the byte `m` times on the connection it read it from. -/
theorem Net.echo_unbounded (m : Nat) :
    ∃ n, Net.Reachable Config.noSeeds Config.seedNode1 SocketAddr.parseV4 n ∧ n.ext = [[7]] ∧
      n.a.written n.ha = Net.echoLog m ∧ n.b.written n.hb = Net.echoLog m ∧
      n.a.bytesWritten + n.b.bytesWritten = 2 * m :=
  ⟨_, Net.reachable_echo m, rfl, rfl, rfl, by
    simp only [Net.echo, Net.bytesWritten_nodeA, Net.bytesWritten_nodeB]; omega⟩

/-- **Over the relay bound.**  One byte sent once to one of two nodes, whose relays the bound
    `k * n * (n - 1)` would hold to `1 * 2 * 1` bytes, gets four written within two rounds. -/
theorem Net.echo_exceeds_relay_bound :
    ∃ n, Net.Reachable Config.noSeeds Config.seedNode1 SocketAddr.parseV4 n ∧ n.ext = [[7]] ∧
      1 * 2 * (2 - 1) < n.a.bytesWritten + n.b.bytesWritten :=
  ⟨_, Net.reachable_echo 2, rfl, by
    simp only [Net.echo, Net.bytesWritten_nodeA, Net.bytesWritten_nodeB]; omega⟩

end XelisP2p
