import XelisP2p.P2p.Server.Limit

namespace XelisP2p

/-!
# P2P — bytes from `send_to_peer` to a socket

`send_to_peer` looks a channel up with `get_channel_for_connection` and queues
`SendBytes(peer_id, bytes)` on it.  In the multi-threaded mode the channel is the peer's own,
read by the worker of the peer's connection, which writes what it reads to that connection; in
the single-threaded mode it is the listener's one channel, and the listener writes to the
connection its own map holds under `peer_id`.  What `send_to_peer` returns is whether it found
a channel, which in the single-threaded mode it always does.

A failed `send_bytes` ends the worker, or drops the connection from the listener's own map;
neither removes the peer from the registry.

* `World.queue`, `World.sendToPeer_queue` — the messages a channel holds, and the one
  `send_to_peer` appends to the channel it finds, if its receiver is still there;
* `World.Routed` — the routing invariant: a `SendBytes(k, _)` is only ever read by a task that
  writes it to a connection of peer `k`;
* `World.sendToPeer_of_reachable` — what `send_to_peer` returns in each mode, and where the
  bytes it queues are written;
* `World.sendToPeer_single_unregistered` — `true` for a peer that is not registered;
* `World.failed_send_keeps_peer` — a peer whose write failed stays registered, served by no
  task, and cannot connect again.
-/

/-! ### Queuing -/

section Queuing

variable {w : World}

/-- The messages queued on channel `c`. -/
def World.queue (w : World) (c : Nat) : List Message := (w.chans[c]?.map Chan.queue).getD []

/-- `send` queues the message at the end of channel `c` when it succeeds, and changes nothing
    else. -/
theorem World.send_queue (c : Nat) (msg : Message) (w : World) (c' : Nat) :
    (w.send c msg).2.queue c' =
      w.queue c' ++ if c' = c ∧ (w.send c msg).1 = true then [msg] else [] := by
  unfold World.send
  split
  · rename_i ch hch
    split
    · by_cases hc : c' = c
      · subst hc
        simp only [World.queue, hch]
        simp [List.getElem?_set, (List.getElem?_eq_some_iff.mp hch).1]
      · simp [World.queue, List.getElem?_set, Ne.symm hc, hc]
    · simp
  · simp

/-- A send changes the channels alone. -/
theorem World.send_frame (c : Nat) (msg : Message) (w : World) :
    (w.send c msg).2 = { w with chans := (w.send c msg).2.chans } := by
  unfold World.send; split <;> (try split) <;> rfl

/-- `send` succeeds on a channel whose receiver is alive. -/
theorem World.send_fst {c : Nat} {msg : Message}
    (h : (w.chans[c]?.map Chan.receiving) = some true) :
    (w.send c msg).1 = true := by
  unfold World.send
  split
  · rename_i ch hch
    simp only [hch, Option.map_some', Option.some.injEq] at h
    simp [h]
  · simp_all

/-- `send` succeeds exactly on a channel whose receiver is alive. -/
theorem World.send_fst_iff (c : Nat) (msg : Message) (w : World) :
    (w.send c msg).1 = true ↔ w.chans[c]?.map Chan.receiving = some true := by
  unfold World.send
  cases hch : w.chans[c]? with
  | none => simp
  | some ch => simp only [Option.map_some', Option.some.injEq]; split <;> simp_all

/-- `send_to_peer` changes only the channels. -/
theorem World.sendToPeer_frame (k : UInt64) (bytes : List UInt8) (w : World) :
    (w.sendToPeer k bytes).2 = { w with chans := (w.sendToPeer k bytes).2.chans } := by
  unfold World.sendToPeer; split
  · exact World.send_frame _ _ _
  · rfl

/-- What `send_to_peer` queues: `SendBytes(peer_id, bytes)` at the end of the channel
    `get_channel_for_connection` finds, when its receiver is alive, and nothing on any other
    channel. -/
theorem World.sendToPeer_queue (k : UInt64) (bytes : List UInt8) (w : World) (c : Nat) :
    (w.sendToPeer k bytes).2.queue c = w.queue c ++
      if w.server.getChannelForConnection k = some c ∧ w.chans[c]?.map Chan.receiving = some true
      then [.SendBytes k bytes] else [] := by
  unfold World.sendToPeer
  split
  · rename_i c₀ hc₀
    rw [World.send_queue, hc₀]
    simp only [World.send_fst_iff]
    rcases eq_or_ne c c₀ with rfl | hc
    · simp
    · simp [hc, Ne.symm hc]
  · rename_i hc₀
    simp [hc₀]

end Queuing

/-- An entry of a list after a `set` is the one set, or was there before. -/
theorem List.getElem?_set_eq_some {α : Type} {l : List α} {i j : Nat} {a b : α}
    (h : (l.set i a)[j]? = some b) : i = j ∧ b = a ∨ l[j]? = some b := by
  rw [List.getElem?_set] at h
  split_ifs at h with hij
  · cases h; exact .inl ⟨hij, rfl⟩
  · exact .inr h

/-- Where queued bytes go.  Every worker's channel exists; the workers reading the channel a
    peer id maps to serve that peer; the workers reading a channel that holds
    `SendBytes(k, _)` serve peer `k`; the single-threaded mode has no worker; and the listener's
    own map holds each connection under its peer id. -/
structure World.Routed (w : World) : Prop where
  worker_chan : ∀ wk ∈ w.workers, wk.chan < w.chans.length
  channel_peer : ∀ k c, w.server.channels.get k = some c →
    c < w.chans.length ∧ ∀ wk ∈ w.workers, wk.chan = c → wk.conn.peer_id = k
  queued_peer : ∀ c ch, w.chans[c]? = some ch → ∀ k bytes, Message.SendBytes k bytes ∈ ch.queue →
    ∀ wk ∈ w.workers, wk.chan = c → wk.conn.peer_id = k
  single_no_workers : w.server.multi_threaded = false → w.workers = []
  listener_peer : ∀ l, w.listener = some l → ∀ k conn, l.connections.get k = some conn →
    conn.peer_id = k

section Routing

variable {w w' : World} {cfg : Config} {parse : RString → Option SocketAddr}

/-- The routing invariant survives a step that serves no new peer: the workers keep their
    channels and connections, no channel goes away, no peer id gets a new channel, and what is
    queued is queued where the workers of its peer read. -/
theorem World.Routed.mono (h : w.Routed)
    (hworkers : ∀ wk' ∈ w'.workers, ∃ wk ∈ w.workers, wk.chan = wk'.chan ∧ wk.conn = wk'.conn)
    (hlen : w.chans.length ≤ w'.chans.length)
    (hchannels : ∀ k c, w'.server.channels.get k = some c → w.server.channels.get k = some c)
    (hqueue : ∀ c ch, w'.chans[c]? = some ch → ∀ k bytes, Message.SendBytes k bytes ∈ ch.queue →
      ∀ wk ∈ w.workers, wk.chan = c → wk.conn.peer_id = k)
    (hmt : w'.server.multi_threaded = w.server.multi_threaded)
    (hl : ∀ l, w'.listener = some l → ∀ k conn, l.connections.get k = some conn →
      conn.peer_id = k) : w'.Routed := by
  refine ⟨fun wk' hwk' => ?_, fun k c hc => ?_, fun c ch hch k bytes hm wk' hwk' hc => ?_,
    fun hs => ?_, hl⟩
  · obtain ⟨wk, hwk, hchan, -⟩ := hworkers wk' hwk'
    exact hchan ▸ (h.worker_chan wk hwk).trans_le hlen
  · obtain ⟨hlt, hpeer⟩ := h.channel_peer k c (hchannels k c hc)
    refine ⟨hlt.trans_le hlen, fun wk' hwk' hc' => ?_⟩
    obtain ⟨wk, hwk, hchan, hconn⟩ := hworkers wk' hwk'
    exact hconn ▸ hpeer wk hwk (hchan.trans hc')
  · obtain ⟨wk, hwk, hchan, hconn⟩ := hworkers wk' hwk'
    exact hconn ▸ hqueue c ch hch k bytes hm wk hwk (hchan.trans hc)
  · have hnil := h.single_no_workers (hmt ▸ hs)
    exact List.eq_nil_iff_forall_not_mem.mpr fun wk' hwk' => by
      obtain ⟨wk, hwk, -⟩ := hworkers wk' hwk'
      simp [hnil] at hwk

/-- A step that changes neither the server nor the channels, the workers or the listener. -/
theorem World.Routed.of_same (h : w.Routed) (hs : w'.server = w.server)
    (hc : w'.chans = w.chans) (hw : w'.workers = w.workers) (hl : w'.listener = w.listener) :
    w'.Routed :=
  h.mono (fun wk' hwk' => ⟨wk', hw ▸ hwk', rfl, rfl⟩) (by rw [hc])
    (fun k c h' => hs ▸ h') (fun c ch hch => h.queued_peer c ch (hc ▸ hch))
    (by rw [hs]) (fun l hl' => h.listener_peer l (hl ▸ hl'))

/-- The sockets and the main task are not what routing is about. -/
theorem World.Routed.frame (h : w.Routed) (socks : List Sock) (main : MainTask) :
    ({ w with socks, main } : World).Routed :=
  h.of_same rfl rfl rfl rfl

/-- Queuing a message keeps the invariant when a `SendBytes(k, _)` is queued where only workers
    of `k` read. -/
theorem World.Routed.send {c : Nat} {msg : Message} (h : w.Routed)
    (hmsg : ∀ k bytes, msg = .SendBytes k bytes →
      ∀ wk ∈ w.workers, wk.chan = c → wk.conn.peer_id = k) :
    (w.send c msg).2.Routed := by
  unfold World.send
  split
  · rename_i ch hch
    split
    · refine h.mono (fun wk' hwk' => ⟨wk', hwk', rfl, rfl⟩) (by simp) (fun _ _ h' => h')
        (fun c' ch' hch' k bytes hm => ?_) rfl h.listener_peer
      rcases List.getElem?_set_eq_some hch' with ⟨rfl, rfl⟩ | hold
      · simp only [List.mem_append, List.mem_singleton] at hm
        rcases hm with hm | hm
        · exact h.queued_peer _ ch hch k bytes hm
        · exact hmsg k bytes hm.symm
      · exact h.queued_peer c' ch' hold k bytes hm
    · exact h
  · exact h

/-- `send_to_peer` keeps the routing. -/
theorem World.Routed.sendToPeer {k : UInt64} {bytes : List UInt8} (h : w.Routed) :
    (w.sendToPeer k bytes).2.Routed := by
  unfold World.sendToPeer
  split
  · rename_i c hc
    refine h.send fun k' b hm wk hwk hchan => ?_
    cases hm
    unfold P2pServer.getChannelForConnection at hc
    split at hc
    · exact (h.channel_peer k c hc).2 wk hwk hchan
    · rename_i hmt
      simp [h.single_no_workers (by simpa using hmt)] at hwk
  · exact h

/-- `broadcast_bytes` keeps the routing. -/
theorem World.Routed.broadcastBytes {buf : List UInt8} (h : w.Routed) :
    (w.broadcastBytes buf).Routed := by
  unfold World.broadcastBytes
  generalize w.server.connections.values = conns
  induction conns generalizing w with
  | nil => exact h
  | cons c cs ih => exact ih h.sendToPeer

/-- A receive keeps the routing. -/
theorem World.Routed.recv {c : Nat} {msg : Message} (h : w.Routed)
    (hr : w.recv c = some (msg, w')) : w'.Routed := by
  obtain ⟨rest, receiving, hch, rfl⟩ := World.recv_eq_some hr
  refine h.mono (fun wk' hwk' => ⟨wk', hwk', rfl, rfl⟩) (by simp) (fun _ _ h' => h')
    (fun c' ch' hch' k bytes hm => ?_) rfl h.listener_peer
  rcases List.getElem?_set_eq_some hch' with ⟨rfl, rfl⟩ | hold
  · exact h.queued_peer _ _ hch k bytes (List.mem_cons_of_mem _ hm)
  · exact h.queued_peer c' ch' hold k bytes hm

/-- Dropping channel `c`'s receiver moves no queue. -/
theorem World.Routed.queued_drop (h : w.Routed) (c : Nat) :
    ∀ c' ch, (match w.chans[c]? with
      | some ch => w.chans.set c { ch with receiving := false }
      | none => w.chans)[c']? = some ch → ∀ k bytes, Message.SendBytes k bytes ∈ ch.queue →
      ∀ wk ∈ w.workers, wk.chan = c' → wk.conn.peer_id = k := by
  intro c' ch hch k bytes hm
  split at hch
  · rename_i ch₀ hch₀
    rcases List.getElem?_set_eq_some hch with ⟨rfl, rfl⟩ | hold
    · exact h.queued_peer _ ch₀ hch₀ k bytes hm
    · exact h.queued_peer c' ch hold k bytes hm
  · exact h.queued_peer c' ch hch k bytes hm

/-- Stopping a worker keeps the routing. -/
theorem World.Routed.stopWorker {i : Nat} (h : w.Routed) : (w.stopWorker i).Routed := by
  unfold World.stopWorker
  split
  · rename_i wk hwk
    refine h.mono (fun wk' hwk' => ?_) (by split <;> simp) (fun _ _ h' => h')
      (h.queued_drop wk.chan) rfl h.listener_peer
    rcases List.mem_or_eq_of_mem_set hwk' with h' | rfl
    · exact ⟨wk', h', rfl, rfl⟩
    · exact ⟨wk, List.getElem?_mem hwk, rfl, rfl⟩
  · exact h

/-- The listener's new local map keeps the routing if it files each connection under its id. -/
theorem World.Routed.setLocal {l : Listener} {m : KeyMap Conn} (h : w.Routed)
    (hm : ∀ k conn, m.get k = some conn → conn.peer_id = k) : (w.setLocal l m).Routed :=
  h.mono (fun wk' hwk' => ⟨wk', hwk', rfl, rfl⟩) le_rfl (fun _ _ h' => h') h.queued_peer rfl
    (fun l' hl' => by cases hl'; exact hm)

/-- Stopping the listener keeps the routing. -/
theorem World.Routed.stopListener {l : Listener} (h : w.Routed) (hl : w.listener = some l) :
    (w.stopListener l).Routed :=
  h.mono (fun wk' hwk' => ⟨wk', hwk', rfl, rfl⟩) (by unfold World.stopListener; split <;> simp)
    (fun _ _ h' => h') (h.queued_drop l.chan) rfl
    (fun l' hl' => by cases hl'; exact h.listener_peer l hl)

/-- The registry itself plays no part in the routing. -/
theorem World.Routed.setConnections (h : w.Routed) (m : KeyMap Conn) :
    ({ w with server := { w.server with connections := m } } : World).Routed :=
  h.mono (fun wk' hwk' => ⟨wk', hwk', rfl, rfl⟩) le_rfl (fun _ _ h' => h') h.queued_peer rfl
    h.listener_peer

/-- `remove_connection` keeps the routing. -/
theorem World.Routed.removeConnection {k : UInt64} {b : Bool} (h : w.Routed)
    (hr : w.removeConnection k = some (b, w')) : w'.Routed := by
  unfold World.removeConnection at hr
  split at hr
  · cases hr; exact h
  · rename_i conn connections _
    have h₁ : (({ w with server := { w.server with connections } } : World).closeIfOpen
        conn.handle).Routed := by
      rw [World.closeIfOpen_frame]; exact (h.setConnections connections).frame _ _
    simp only [World.closeIfOpen_server] at hr
    split at hr
    · split at hr
      · rename_i c channels hch
        cases hr
        have hc : channels = (w.server.channels.remove k).2 := by rw [hch]
        subst hc
        refine World.Routed.send ?_ fun _ _ hm => by cases hm
        refine h₁.mono (fun wk' hwk' => ⟨wk', hwk', rfl, rfl⟩) le_rfl (fun k' c' hc' => ?_)
          h₁.queued_peer (by simp) h₁.listener_peer
        rw [KeyMap.get_remove] at hc'
        split_ifs at hc'
        simpa using hc'
      · cases hr; exact h₁
    · split at hr
      · cases hr; exact h₁.send fun _ _ hm => by cases hm
      · cases hr

/-- The multi-threaded registration: a new channel at the end, the peer id mapped to it, and a
    worker of the connection reading it. -/
theorem World.Routed.addWorker {c : Conn} (h : w.Routed) (hmt : w.server.multi_threaded = true) :
    ({ w with
      server := { w.server with
        connections := (w.server.connections.insert c.peer_id c).2
        channels := (w.server.channels.insert c.peer_id w.chans.length).2 }
      chans := w.chans ++ [⟨[], true⟩]
      workers := w.workers ++ [⟨c, w.chans.length, true⟩] } : World).Routed := by
  have hnew : ∀ wk ∈ w.workers ++ [⟨c, w.chans.length, true⟩],
      wk ∈ w.workers ∨ wk = ⟨c, w.chans.length, true⟩ := by simp
  refine ⟨fun wk hwk => ?_, fun k c' hc' => ?_, fun c' ch hch k bytes hm wk hwk hc => ?_,
    fun hs => by simp [hmt] at hs, h.listener_peer⟩
  · rcases hnew wk hwk with hwk | rfl
    · simpa using (h.worker_chan wk hwk).trans (Nat.lt_succ_self _)
    · simp
  · simp only [KeyMap.get_insert] at hc'
    split_ifs at hc' with hk
    · cases hc'
      refine ⟨by simp, fun wk hwk hc => ?_⟩
      rcases hnew wk hwk with hwk | rfl
      · exact absurd hc (h.worker_chan wk hwk).ne
      · exact hk.symm
    · obtain ⟨hlt, hpeer⟩ := h.channel_peer k c' hc'
      refine ⟨by simp; omega, fun wk hwk hc => ?_⟩
      rcases hnew wk hwk with hwk | rfl
      · exact hpeer wk hwk hc
      · exact absurd hc hlt.ne'
  · simp only at hch
    by_cases hlt : c' < w.chans.length
    · rw [List.getElem?_append_left hlt] at hch
      rcases hnew wk hwk with hwk | rfl
      · exact h.queued_peer c' ch hch k bytes hm wk hwk hc
      · exact absurd hc hlt.ne'
    · rw [List.getElem?_append_right (by omega)] at hch
      obtain rfl := List.mem_singleton.mp (List.getElem?_mem hch)
      simp at hm

/-- The registration keeps the routing. -/
theorem World.Routed.registerConnection {c : Conn} (h : w.Routed)
    (hr : w.registerConnection c = some w') : w'.Routed := by
  obtain ⟨⟨r, w₁⟩, h₁, h₂⟩ := Option.bind_eq_some.mp hr
  obtain ⟨-, -, hr₁, hs₁⟩ := World.addConnection_spec h₁
  have hw₁ := World.addConnection_frame h₁
  simp only at h₂
  by_cases hmt : w.server.multi_threaded = true
  · rw [if_pos hmt] at hr₁ hs₁ hw₁
    subst hr₁
    cases h₂
    rw [hw₁, hs₁]
    exact h.addWorker hmt
  · rw [if_neg hmt] at hr₁ hs₁ hw₁
    subst hr₁
    have h₁' : w₁.Routed := by
      rw [hw₁, hs₁]; exact h.setConnections _
    split at h₂
    · cases ‹none = some _›
    split at h₂
    · rename_i ch _
      have h₂' : (w₁.send ch (.AddConnection c)).2.Routed := h₁'.send fun _ _ hm => by cases hm
      split at h₂
      · cases h₂; exact h₂'
      · obtain ⟨⟨b, _⟩, h₃, rfl⟩ := Option.map_eq_some'.mp h₂
        exact h₂'.removeConnection h₃
    · cases h₂

/-- One pass of `listen_connection` keeps the routing. -/
theorem World.Routed.listenConnection {c : Conn} {r : ReadResult} (h : w.Routed)
    (hl : w.listenConnection c r = some w') : w'.Routed := by
  unfold World.listenConnection at hl
  split at hl
  · obtain ⟨⟨b, _⟩, h₁, rfl⟩ := Option.map_eq_some'.mp hl; exact h.removeConnection h₁
  · cases hl; exact h.broadcastBytes
  · cases hl; exact h
  · obtain ⟨⟨b, _⟩, h₁, rfl⟩ := Option.map_eq_some'.mp hl; exact h.removeConnection h₁

/-- Receiving a handshake keeps the routing. -/
theorem World.Routed.receiveHandshake (h : w.Routed) (addr : SocketAddr) (data : List UInt8)
    (out sent : Bool) : (w.receiveHandshake cfg parse addr data out sent).Routed := by
  obtain ⟨socks, main, he⟩ : ∃ socks main,
      w.receiveHandshake cfg parse addr data out sent = { w with socks, main } :=
    World.receiveHandshake_frame addr data out sent
  rw [he]; exact h.frame socks main

/-- Each step of the main task keeps the routing. -/
theorem World.Routed.mainStep {a : Action} (h : w.Routed) (hn : w.mainStep cfg parse a = some w') :
    w'.Routed := by
  have hm : ∀ main : MainTask, ({ w with main } : World).Routed := h.frame w.socks
  cases a <;> simp only [World.mainStep] at hn
  case dial reply =>
    split at hn
    · split at hn <;> cases hn
      · exact (hm _).receiveHandshake _ _ _ _
      · exact hm _
    · cases hn; exact h
  case accept addr reply sent =>
    split at hn
    · split at hn
      · cases hn; exact h
      · split at hn <;> cases hn
        · exact h.receiveHandshake _ _ _ _
        · exact h
    · cases hn; exact h
  case register nonblocking =>
    split at hn
    · split at hn
      · exact (hm _).registerConnection hn
      · cases hn; exact hm _
    · cases hn; exact h
  all_goals cases hn; exact h

/-- Each step of a worker keeps the routing. -/
theorem World.Routed.workerStep {i : Nat} {wk : Worker} {a : Action} (h : w.Routed)
    (hn : w.workerStep i wk a = some w') : w'.Routed := by
  unfold World.workerStep at hn
  split at hn
  · split at hn
    · rename_i w₁ hr
      have h₁ := h.recv hr
      split at hn <;> cases hn
      · rw [World.write_frame]; exact h₁.of_same rfl rfl rfl rfl
      · exact h₁.stopWorker
    · cases hn; exact (h.recv ‹_›).stopWorker
    · cases hn; exact h
  · exact h.listenConnection hn
  · split at hn <;> cases hn
    · exact h.stopWorker
    · exact h
  · cases hn; exact h

/-- A map that holds each connection under its peer id still does after an insertion under
    the connection's own peer id. -/
theorem KeyMap.peer_id_of_get_insert {m : KeyMap Conn}
    (hm : ∀ k conn, m.get k = some conn → conn.peer_id = k) (c : Conn) :
    ∀ k conn, (m.insert c.peer_id c).2.get k = some conn → conn.peer_id = k := by
  intro k conn hk
  rw [KeyMap.get_insert] at hk
  split_ifs at hk with hkc
  · cases hk; exact hkc.symm
  · exact hm k conn hk

/-- The same after a removal. -/
theorem KeyMap.peer_id_of_get_remove {m : KeyMap Conn}
    (hm : ∀ k conn, m.get k = some conn → conn.peer_id = k) (k' : UInt64) :
    ∀ k conn, (m.remove k').2.get k = some conn → conn.peer_id = k := by
  intro k conn hk
  rw [KeyMap.get_remove] at hk
  split_ifs at hk
  exact hm k conn hk

/-- Each step of the listener keeps the routing. -/
theorem World.Routed.listenerStep {l : Listener} {a : Action} (h : w.Routed)
    (hl : w.listener = some l) (hn : w.listenerStep l a = some w') : w'.Routed := by
  have hkeys := h.listener_peer l hl
  cases a <;> simp only [World.listenerStep] at hn
  case listenerRecv sent =>
    cases hr : w.recv l.chan with
    | none => simp only [hr] at hn; cases hn; exact h
    | some r =>
      obtain ⟨msg, w₁⟩ := r
      have h₁ := h.recv hr
      obtain ⟨_, _, _, rfl⟩ := World.recv_eq_some hr
      simp only [hr] at hn
      cases msg <;> simp only at hn
      case Exit => cases hn; exact h₁.stopListener hl
      case AddConnection => cases hn; exact h₁.setLocal (KeyMap.peer_id_of_get_insert hkeys _)
      case RemoveConnection => cases hn; exact h₁.setLocal (KeyMap.peer_id_of_get_remove hkeys _)
      case SendBytes =>
        split at hn
        · split at hn <;> cases hn
          · rw [World.write_frame]; exact h₁.of_same rfl rfl rfl rfl
          · exact h₁.setLocal (KeyMap.peer_id_of_get_remove hkeys _)
        · cases hn; exact h₁
  case listenerListen =>
    split at hn
    · exact h.listenConnection hn
    · cases hn; exact h
  all_goals cases hn; exact h

/-- **One step keeps the routing.** -/
theorem World.Routed.next {a : Action} (h : w.Routed) (hn : w.next cfg parse a = some w') :
    w'.Routed := by
  unfold World.next at hn
  split at hn
  · cases hn; exact h.sendToPeer
  · cases hn; exact h.broadcastBytes
  all_goals first
    | exact h.mainStep hn
    | split at hn
      · split at hn
        · first
            | exact h.workerStep hn
            | exact h.listenerStep ‹_› hn
        · cases hn; exact h
      · cases hn; exact h

/-- `start` leaves no worker, and in the single-threaded mode the listener's channel under the
    server's own id and its map empty. -/
theorem World.routed_start {peer_id : UInt64} {tag : Option RString} {max_peers : Nat}
    {multi_threaded : Bool} {server : P2pServer}
    (hs : P2pServer.new peer_id tag max_peers multi_threaded = some server) :
    (World.start cfg server).Routed := by
  obtain ⟨-, -, -, hch⟩ := P2pServer.new_spec hs
  unfold World.start
  split
  · refine ⟨by simp, fun k c hc => ?_, fun c ch hc => ?_, fun _ => rfl, fun l hl => by cases hl⟩
    · simp [hch] at hc
    · simp at hc
  · refine ⟨by simp, fun k c hc => ⟨?_, by simp⟩, fun _ _ _ _ _ _ wk hwk => by simp at hwk,
      fun _ => rfl, fun l hl k conn hk => ?_⟩
    · simp only [hch, KeyMap.get_insert, KeyMap.get_empty] at hc
      split_ifs at hc
      cases hc; simp
    · cases hl; simp at hk

/-- Every reachable world is routed. -/
theorem World.Reachable.routed (hw : World.Reachable cfg parse w) : w.Routed :=
  World.Reachable.invariant cfg parse World.Routed World.routed_start
    (fun _ h hn => h.next hn) hw

end Routing

/-! ### What `send_to_peer` returns, and where the bytes go -/

section SendToPeer

variable {w : World} {cfg : Config} {parse : RString → Option SocketAddr}

/-- **`send_to_peer` in every reachable state.**  In the multi-threaded mode it returns `true`
    exactly for a registered peer, and otherwise changes nothing; in the single-threaded mode it
    returns `true` for every peer id.  In both it queues `SendBytes(peer_id, bytes)` at the end
    of the channel `get_channel_for_connection` found, when that channel's receiver is alive,
    and changes nothing else.  The bytes queued for peer `k` are written only to a connection
    of peer `k`: the worker that takes `SendBytes(k, _)` off its channel serves peer `k`, and
    the listener's own map holds each connection under its peer id. -/
theorem World.sendToPeer_of_reachable (hw : World.Reachable cfg parse w) (k : UInt64)
    (bytes : List UInt8) :
    (w.server.multi_threaded = true →
      ((w.sendToPeer k bytes).1 = true ↔ k ∈ w.server.connections.keys) ∧
      (k ∉ w.server.connections.keys → (w.sendToPeer k bytes).2 = w)) ∧
    (w.server.multi_threaded = false → (w.sendToPeer k bytes).1 = true) ∧
    (∀ c, (w.sendToPeer k bytes).2.queue c = w.queue c ++
      if w.server.getChannelForConnection k = some c ∧ w.chans[c]?.map Chan.receiving = some true
      then [.SendBytes k bytes] else []) ∧
    (w.sendToPeer k bytes).2 = { w with chans := (w.sendToPeer k bytes).2.chans } ∧
    (∀ (i : Nat) (wk : Worker), w.workers[i]? = some wk →
      ∀ (k' : UInt64) (b : List UInt8) (rest : List Message) (receiving : Bool),
      w.chans[wk.chan]? = some ⟨.SendBytes k' b :: rest, receiving⟩ → wk.conn.peer_id = k') ∧
    (∀ l, w.listener = some l → ∀ k' conn, l.connections.get k' = some conn →
      conn.peer_id = k') := by
  have hreg := World.Reachable.registry hw
  have hrouted := World.Reachable.routed hw
  refine ⟨fun hmt => ⟨?_, fun hk => ?_⟩, fun hmt => ?_, World.sendToPeer_queue k bytes w,
    World.sendToPeer_frame k bytes w,
    fun i wk hwk k' b rest receiving hch => hrouted.queued_peer _ _ hch k' b (by simp) wk
      (List.getElem?_mem hwk) rfl, hrouted.listener_peer⟩
  · simp [P2pServer.getChannelForConnection, hmt, KeyMap.get_isSome, hreg.channels_multi hmt]
  · have hnone : w.server.channels.get k = none :=
      KeyMap.get_eq_none.mpr fun hc => hk ((hreg.channels_multi hmt k).mp hc)
    simp [World.sendToPeer, P2pServer.getChannelForConnection, hmt, hnone]
  · simp [P2pServer.getChannelForConnection, hmt, KeyMap.get_isSome, hreg.channels_single hmt]

/-- After node `1` of the multi-threaded mode registered peer `2`, `send_to_peer(2, [0])`
    returns `true` and queues `SendBytes(2, [0])` on channel `0`, the one worker `0` reads. -/
theorem World.sendToPeer_after_accept :
    ∃ w, World.run Config.noSeeds SocketAddr.parseV4
        (World.start Config.noSeeds ⟨1, none, 8, true, KeyMap.empty, KeyMap.empty⟩)
        World.acceptPeer2 = some w ∧ w.server.connections.keys = [2] ∧
      (w.sendToPeer 2 [0]).2.queue 0 = [.SendBytes 2 [0]] ∧
      World.Reachable Config.noSeeds SocketAddr.parseV4 w ∧
      (w.server.multi_threaded = true →
        ((w.sendToPeer 2 [0]).1 = true ↔ 2 ∈ w.server.connections.keys) ∧
        (2 ∉ w.server.connections.keys → (w.sendToPeer 2 [0]).2 = w)) ∧
      (w.server.multi_threaded = false → (w.sendToPeer 2 [0]).1 = true) ∧
      (∀ c, (w.sendToPeer 2 [0]).2.queue c = w.queue c ++
        if w.server.getChannelForConnection 2 = some c ∧
          w.chans[c]?.map Chan.receiving = some true
        then [.SendBytes 2 [0]] else []) ∧
      (w.sendToPeer 2 [0]).2 = { w with chans := (w.sendToPeer 2 [0]).2.chans } ∧
      (∀ (i : Nat) (wk : Worker), w.workers[i]? = some wk →
        ∀ (k' : UInt64) (b : List UInt8) (rest : List Message) (receiving : Bool),
        w.chans[wk.chan]? = some ⟨.SendBytes k' b :: rest, receiving⟩ → wk.conn.peer_id = k') ∧
      (∀ l, w.listener = some l → ∀ k' conn, l.connections.get k' = some conn →
        conn.peer_id = k') :=
  have hw := World.reachable_of_run Config.noSeeds SocketAddr.parseV4
    (rfl : P2pServer.new 1 none 8 true = some _) (rfl : World.run _ _ _ World.acceptPeer2 = _)
  ⟨_, rfl, rfl, rfl, hw, World.sendToPeer_of_reachable hw 2 [0]⟩

/-- **`send_to_peer` tells the modes apart.**  Right after `start`, with no peer registered,
    `send_to_peer` to peer `7` returns `true` in the single-threaded mode and `false` in the
    multi-threaded one. -/
theorem World.sendToPeer_single_unregistered :
    World.Reachable Config.noSeeds SocketAddr.parseV4
      (World.start Config.noSeeds ⟨1, none, 8, false, KeyMap.empty, KeyMap.empty⟩) ∧
    (7 : UInt64) ∉ (World.start Config.noSeeds
      ⟨1, none, 8, false, KeyMap.empty, KeyMap.empty⟩).server.connections.keys ∧
    ((World.start Config.noSeeds ⟨1, none, 8, false, KeyMap.empty, KeyMap.empty⟩).sendToPeer 7
      [0]).1 = true ∧
    ((World.start Config.noSeeds ⟨1, none, 8, true, KeyMap.empty, KeyMap.empty⟩).sendToPeer 7
      [0]).1 = false :=
  ⟨.start (rfl : P2pServer.new 1 none 8 false = some _), by decide, by decide, by decide⟩

end SendToPeer

/-! ### A failed write -/

/-- A multi-threaded node registers peer `2`; the peer's worker reads one byte and broadcasts
    it, to peer `2` itself among the others, and the write of it fails. -/
def World.workerWriteFails : List Action :=
  [.accept (.V4 ⟨[10, 0, 0, 2], rfl⟩ 40000) (some (Handshake.bare 2).toBytes) true,
   .register true, .workerListen 0 (.ok [7]), .workerRecv 0 false]

/-- The same in the single-threaded mode: the listener adds peer `2` to its map, reads one
    byte from it and broadcasts it, and the write to peer `2` fails. -/
def World.listenerWriteFails : List Action :=
  [.accept (.V4 ⟨[10, 0, 0, 2], rfl⟩ 40000) (some (Handshake.bare 2).toBytes) true,
   .register true, .listenerRecv true, .listenerListen 2 (.ok [7]), .listenerRecv false]

/-- **A failed write leaves the peer registered.**  The worker returns on the error without
    `remove_connection`, and the listener drops the connection from its own map only: in both
    modes peer `2` stays in `connections`, no task serves it and nothing in flight will, and
    `verify_handshake` refuses its id when it connects again. -/
theorem World.failed_send_keeps_peer :
    (∃ w, World.Reachable Config.noSeeds SocketAddr.parseV4 w ∧ w.server.multi_threaded = true ∧
      (2 : UInt64) ∈ w.server.connections.keys ∧ (∀ wk ∈ w.workers, wk.running = false) ∧
      ∀ addr out, World.verifyHandshake Config.noSeeds SocketAddr.parseV4 addr (Handshake.bare 2)
        out w = .err (.PeerIdAlreadyUsed 2) w) ∧
    (∃ w, World.Reachable Config.noSeeds SocketAddr.parseV4 w ∧ w.server.multi_threaded = false ∧
      (2 : UInt64) ∈ w.server.connections.keys ∧
      (∃ l, w.listener = some l ∧ l.running = true ∧ (2 : UInt64) ∉ l.connections.keys) ∧
      (∀ ch ∈ w.chans, ch.queue = []) ∧
      ∀ addr out, World.verifyHandshake Config.noSeeds SocketAddr.parseV4 addr (Handshake.bare 2)
        out w = .err (.PeerIdAlreadyUsed 2) w) := by
  have hrefused : ∀ w : World, w.server.connections.containsKey 2 = true →
      ∀ addr out, World.verifyHandshake Config.noSeeds SocketAddr.parseV4 addr (Handshake.bare 2)
        out w = .err (.PeerIdAlreadyUsed 2) w :=
    fun w hk _ _ => World.verifyHandshake_connected rfl
      (by simp [P2pServer.isConnectedTo, Handshake.bare, hk])
  constructor
  · have hrun : (World.run Config.noSeeds SocketAddr.parseV4
        (World.start Config.noSeeds ⟨1, none, 8, true, KeyMap.empty, KeyMap.empty⟩)
        World.workerWriteFails).map (fun w => w.server.multi_threaded &&
          w.server.connections.containsKey 2 && w.workers.all fun wk => !wk.running) =
        some true := by
      decide
    obtain ⟨w, hw, hp⟩ := World.reach_of_run Config.noSeeds SocketAddr.parseV4
      (rfl : P2pServer.new 1 none 8 true = some _) hrun
    simp only [Bool.and_eq_true, List.all_eq_true, Bool.not_eq_true'] at hp
    exact ⟨w, hw, hp.1.1, KeyMap.containsKey_iff.mp hp.1.2, hp.2, hrefused w hp.1.2⟩
  · have hrun : (World.run Config.noSeeds SocketAddr.parseV4
        (World.start Config.noSeeds ⟨1, none, 8, false, KeyMap.empty, KeyMap.empty⟩)
        World.listenerWriteFails).map (fun w => !w.server.multi_threaded &&
          w.server.connections.containsKey 2 &&
          (match w.listener with
            | some l => l.running && !l.connections.containsKey 2
            | none => false) &&
          w.chans.all fun ch => ch.queue.isEmpty) = some true := by
      decide
    obtain ⟨w, hw, hp⟩ := World.reach_of_run Config.noSeeds SocketAddr.parseV4
      (rfl : P2pServer.new 1 none 8 false = some _) hrun
    simp only [Bool.and_eq_true, List.all_eq_true, Bool.not_eq_true',
      List.isEmpty_iff] at hp
    obtain ⟨⟨⟨hmt, hk⟩, hl⟩, hq⟩ := hp
    refine ⟨w, hw, hmt, KeyMap.containsKey_iff.mp hk, ?_, hq, hrefused w hk⟩
    split at hl
    · rename_i l hl'
      simp only [Bool.and_eq_true, Bool.not_eq_true'] at hl
      exact ⟨l, hl', hl.1, fun h => by simp [KeyMap.containsKey_iff.mpr h] at hl⟩
    · cases hl

end XelisP2p
