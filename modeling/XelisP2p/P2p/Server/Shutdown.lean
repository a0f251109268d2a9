import XelisP2p.P2p.Server.Order

namespace XelisP2p

/-!
# P2P — closing connections and stopping the tasks

A task stops serving a connection in one of three ways: a worker of the multi-threaded mode
finds `is_closed()` at the head of its loop, or takes `Exit` off its channel; the listener of
the single-threaded mode takes `Exit` off its channel.  `remove_connection` is what sends
them: it closes the connection and, in the multi-threaded mode, takes the peer's channel out of
`channels` and sends `Exit` on it.

* `World.SockStep` — what a step does to the sockets that were there before it: it closes
  some, reopens none;
* `World.SocketsOpen` — the invariant of the sockets: every registered connection's socket is
  open, no two registered peers share one, and the connection waiting for registration has an
  open socket of its own;
* `World.registered_sockets_open` — it holds in every reachable state: only
  `remove_connection` closes a registered connection, so a worker that finds its connection
  closed serves a connection no longer registered;
* `World.ExitLast` and `World.worker_channels` — in the multi-threaded mode every message ever
  queued on a channel is a `SendBytes` or an `Exit`, and an `Exit` comes last, once, after the
  worker's socket was closed and its peer unmapped.
-/

/-! ### What a step does to the sockets -/

section Sockets

variable {w w' w'' : World}

/-- A socket past the end is closed: an open one is one of the sockets. -/
theorem World.lt_of_isClosed_eq_false {h : Nat} (hc : w.isClosed h = false) :
    h < w.socks.length := by
  unfold World.isClosed at hc
  cases hs : w.socks[h]? with
  | none => simp [hs] at hc
  | some s => exact (List.getElem?_eq_some_iff.mp hs).1

/-- A write closes no socket. -/
@[simp] theorem World.isClosed_write (h h' : Nat) (bytes : List UInt8) (w : World) :
    (w.write h bytes).isClosed h' = w.isClosed h' := by
  unfold World.write World.isClosed
  split
  · rename_i s hs
    by_cases hh : h' = h
    · subst hh; simp [hs, List.getElem?_set, (List.getElem?_eq_some_iff.mp hs).1]
    · simp [List.getElem?_set, Ne.symm hh]
  · rfl

/-- Closing a socket closes that one alone. -/
theorem World.isClosed_close (h h' : Nat) (w : World) :
    (w.close h).isClosed h' = (h' == h || w.isClosed h') := by
  unfold World.close World.isClosed
  split
  · rename_i s hs
    by_cases hh : h' = h
    · subst hh; simp [hs, List.getElem?_set, (List.getElem?_eq_some_iff.mp hs).1]
    · simp [List.getElem?_set, Ne.symm hh, hh]
  · rename_i hs
    by_cases hh : h' = h
    · subst hh; simp [hs]
    · simp [hh]

/-- A shutdown closes its socket alone. -/
theorem World.isClosed_closeIfOpen (h h' : Nat) (w : World) :
    (w.closeIfOpen h).isClosed h' = (h' == h || w.isClosed h') := by
  unfold World.closeIfOpen
  split
  · rename_i hc
    by_cases hh : h' = h
    · subst hh; simp [hc]
    · simp [hh]
  · exact World.isClosed_close h h' w

/-- What a step does to the sockets that were there before it: it may open new ones after
    them; of the old ones it opens none again, and it closes none outside `S`. -/
structure World.SockStep (w w' : World) (S : Nat → Prop) : Prop where
  length : w.socks.length ≤ w'.socks.length
  closed : ∀ h, h < w.socks.length → w.isClosed h = true → w'.isClosed h = true
  open_of : ∀ h, w.isClosed h = false → ¬ S h → w'.isClosed h = false

/-- Whether a socket is closed is all of the sockets. -/
theorem World.isClosed_of_socks (hs : w'.socks = w.socks) (h : Nat) :
    w'.isClosed h = w.isClosed h := by
  simp [World.isClosed, hs]

/-- A step that keeps the sockets closes none. -/
theorem World.SockStep.of_socks (hs : w'.socks = w.socks) : World.SockStep w w' fun _ => False :=
  ⟨hs ▸ le_rfl, fun h _ hc => by rw [World.isClosed_of_socks hs, hc],
    fun h ho _ => by rw [World.isClosed_of_socks hs, ho]⟩

/-- Two steps close what either of them closes. -/
theorem World.SockStep.trans {S T : Nat → Prop} (h₁ : World.SockStep w w' S)
    (h₂ : World.SockStep w' w'' T) : World.SockStep w w'' fun h => S h ∨ T h :=
  ⟨h₁.length.trans h₂.length,
    fun h hh hc => h₂.closed h (hh.trans_le h₁.length) (h₁.closed h hh hc),
    fun h ho hST => h₂.open_of h (h₁.open_of h ho fun hS => hST (.inl hS)) fun hT => hST (.inr hT)⟩

/-- What a step may close can be widened, over the sockets that were open before it. -/
theorem World.SockStep.mono {S T : Nat → Prop} (h : World.SockStep w w' S)
    (hST : ∀ h, w.isClosed h = false → S h → T h) : World.SockStep w w' T :=
  ⟨h.length, h.closed, fun h' ho hT => h.open_of h' ho fun hS => hT (hST h' ho hS)⟩

/-- The sockets are all a `SockStep` is about. -/
theorem World.SockStep.socks_right {S : Nat → Prop} (h : World.SockStep w w' S)
    (hs : w''.socks = w'.socks) : World.SockStep w w'' S :=
  ⟨hs ▸ h.length, fun h' hh hc => by rw [World.isClosed_of_socks hs]; exact h.closed h' hh hc,
    fun h' ho hS => by rw [World.isClosed_of_socks hs]; exact h.open_of h' ho hS⟩

/-- A `SockStep` is about the sockets of its first world only. -/
theorem World.SockStep.socks_left {S : Nat → Prop} (h : World.SockStep w w' S)
    (hs : w''.socks = w.socks) : World.SockStep w'' w' S :=
  ⟨hs ▸ h.length, fun h' hh hc => h.closed h' (hs ▸ hh) (by rwa [World.isClosed_of_socks hs] at hc),
    fun h' ho hS => h.open_of h' (by rwa [World.isClosed_of_socks hs] at ho) hS⟩

/-- Closing a socket closes that one. -/
theorem World.sockStep_close (h : Nat) (w : World) : World.SockStep w (w.close h) (· = h) :=
  ⟨by simp, fun h' _ hc => by simp [World.isClosed_close, hc],
    fun h' ho hh => by simp [World.isClosed_close, ho, hh]⟩

/-- A shutdown closes its own socket. -/
theorem World.sockStep_closeIfOpen (h : Nat) (w : World) :
    World.SockStep w (w.closeIfOpen h) (· = h) := by
  refine ⟨?_, fun h' _ hc => by simp [World.isClosed_closeIfOpen, hc],
    fun h' ho hh => by simp [World.isClosed_closeIfOpen, ho, hh]⟩
  unfold World.closeIfOpen; split <;> simp

/-- A write closes no socket. -/
theorem World.sockStep_write (h : Nat) (bytes : List UInt8) (w : World) :
    World.SockStep w (w.write h bytes) fun _ => False :=
  ⟨by simp, fun _ _ hc => by simp [hc], fun _ ho _ => by simp [ho]⟩

/-- A send keeps the sockets. -/
theorem World.send_socks (c : Nat) (msg : Message) (w : World) :
    (w.send c msg).2.socks = w.socks := by
  rw [World.send_frame]

/-- `send_to_peer` keeps the sockets. -/
theorem World.sendToPeer_socks (k : UInt64) (bytes : List UInt8) (w : World) :
    (w.sendToPeer k bytes).2.socks = w.socks := by
  unfold World.sendToPeer; split
  · exact World.send_socks _ _ _
  · rfl

/-- `broadcast_bytes` keeps the sockets. -/
theorem World.broadcastBytes_socks (buf : List UInt8) (w : World) :
    (w.broadcastBytes buf).socks = w.socks := by
  unfold World.broadcastBytes
  generalize w.server.connections.values = conns
  induction conns generalizing w with
  | nil => rfl
  | cons c cs ih => exact (ih _).trans (World.sendToPeer_socks _ _ _)

/-- A socket opened by `create_connection`. -/
theorem World.sockStep_push (w : World) :
    World.SockStep w { w with socks := w.socks ++ [({ closed := false, written := [] } : Sock)] }
      fun _ => False :=
  ⟨by simp, fun h hh hc => by simpa [World.isClosed, List.getElem?_append_left hh] using hc,
    fun h ho _ => by
      simpa [World.isClosed, List.getElem?_append_left (World.lt_of_isClosed_eq_false ho)]
        using ho⟩

end Sockets

/-! ### The sockets each method closes -/

section Methods

variable {w w' : World} {cfg : Config} {parse : RString → Option SocketAddr}

/-- `verify_handshake` closes no socket that was there before it; the one it opens for a
    connection it accepts is open. -/
theorem World.verifyHandshake_sockStep {addr : SocketAddr} {handshake : Handshake} {out : Bool} :
    (∀ c peers w', World.verifyHandshake cfg parse addr handshake out w = .ok (c, peers) w' →
      World.SockStep w w' (fun _ => False) ∧ w'.isClosed c.handle = false) ∧
    (∀ e w', World.verifyHandshake cfg parse addr handshake out w = .err e w' →
      World.SockStep w w' fun _ => False) := by
  unfold World.verifyHandshake
  refine ⟨fun c peers w' h => ?_, fun e w' h => ?_⟩ <;> split_ifs at h
  · split at h
    · cases h
    · simp only at h
      split at h <;> cases h
      exact ⟨World.sockStep_push w, by simp [World.isClosed]⟩
  · cases h; exact .of_socks rfl
  · cases h; exact .of_socks rfl
  · split at h
    · cases h
      exact ((World.sockStep_push w).trans (World.sockStep_close _ _)).mono fun h ho hh =>
        absurd (World.lt_of_isClosed_eq_false ho) (by simp at hh; omega)
    · simp only at h
      split at h <;> cases h

/-- `handle_new_connection` up to the registration closes no socket that was there before it,
    and the connection it leaves pending has an open socket. -/
theorem World.receiveHandshake_sockStep (addr : SocketAddr) (data : List UInt8) (out sent : Bool) :
    World.SockStep w (w.receiveHandshake cfg parse addr data out sent) (fun _ => False) ∧
      ∀ c peers, (w.receiveHandshake cfg parse addr data out sent).main.pending = some (c, peers) →
        w.main.pending = some (c, peers) ∨
          (w.receiveHandshake cfg parse addr data out sent).isClosed c.handle = false := by
  unfold World.receiveHandshake
  split
  · split
    · rename_i c peers w₁ heq
      obtain ⟨hs, ho⟩ := World.verifyHandshake_sockStep.1 c peers w₁ heq
      obtain ⟨-, -, hc⟩ := World.verifyHandshake_socks.1 c peers w₁ heq
      obtain ⟨hw₁, -⟩ := World.verifyHandshake_ok heq
      split
      · exact ⟨hs.socks_right rfl, fun c' peers' h => by cases h; exact .inr ho⟩
      · refine ⟨(hs.trans (World.sockStep_close _ _)).mono fun h ho hh => ?_, fun c' peers' h => ?_⟩
        · exact absurd (World.lt_of_isClosed_eq_false ho) (by simp at hh; omega)
        · rw [World.close_main, hw₁] at h; exact .inl h
    · rename_i e w₁ heq
      exact ⟨World.verifyHandshake_sockStep.2 e w₁ heq, fun _ _ h => .inl
        (by rw [World.verifyHandshake_err heq] at h; exact h)⟩
    · exact ⟨.of_socks rfl, fun _ _ h => .inl h⟩
  · exact ⟨.of_socks rfl, fun _ _ h => .inl h⟩
  · exact ⟨.of_socks rfl, fun _ _ h => .inl h⟩

/-- `remove_connection` closes the socket of the connection it unregisters and no other. -/
theorem World.removeConnection_sockStep {k : UInt64} {b : Bool}
    (h : w.removeConnection k = some (b, w')) :
    World.SockStep w w' (fun h => ∃ conn, w.server.connections.get k = some conn ∧
      conn.handle = h) ∧
    ∀ conn, w.server.connections.get k = some conn → w'.isClosed conn.handle = true := by
  unfold World.removeConnection at h
  split at h
  · rename_i connections heq
    cases h
    have hk : w.server.connections.get k = none := by rw [← KeyMap.remove_fst, heq]
    exact ⟨(World.SockStep.of_socks rfl).mono fun _ _ h => h.elim, fun conn hc => by
      rw [hk] at hc; cases hc⟩
  · rename_i conn connections heq
    have hk : w.server.connections.get k = some conn := by rw [← KeyMap.remove_fst, heq]
    have hs : w'.socks = (({ w with server := { w.server with connections } } : World).closeIfOpen
        conn.handle).socks := by
      simp only [World.closeIfOpen_server] at h
      split at h
      · split at h <;> cases h
        · exact World.send_socks _ _ _
        · rfl
      · split at h <;> cases h
        exact World.send_socks _ _ _
    have h₀ : World.SockStep w (({ w with server := { w.server with connections } } :
        World).closeIfOpen conn.handle) (· = conn.handle) :=
      (World.sockStep_closeIfOpen conn.handle _).socks_left rfl
    have h₁ : World.SockStep w w' (· = conn.handle) := h₀.socks_right hs
    refine ⟨h₁.mono fun h _ hh => ⟨conn, hk, hh.symm⟩, fun conn' hc => ?_⟩
    rw [hk] at hc; cases hc
    rw [World.isClosed_of_socks hs, World.isClosed_closeIfOpen]; simp

/-- The registration: `add_connection` of the pending connection, then possibly its
    `remove_connection` when the listener is gone; the sockets are untouched up to that
    removal. -/
theorem World.registerConnection_socks {c : Conn} (h : w.registerConnection c = some w') :
    w.server.connections.get c.peer_id = none ∧ ∃ w₁ : World, w₁.socks = w.socks ∧
      w₁.main = w.main ∧ w₁.server.connections = (w.server.connections.insert c.peer_id c).2 ∧
      ((w'.socks = w₁.socks ∧ w'.server.connections = w₁.server.connections ∧
          w'.main = w₁.main) ∨ ∃ b, w₁.removeConnection c.peer_id = some (b, w')) := by
  obtain ⟨⟨r, w₁⟩, h₁, h₂⟩ := Option.bind_eq_some.mp h
  obtain ⟨hg, hm, -, hs⟩ := World.addConnection_spec h₁
  have hs₁ : w₁.socks = w.socks := by rw [World.addConnection_frame h₁]
  refine ⟨hg, ?_⟩
  simp only at h₂
  split at h₂
  · cases h₂; exact ⟨w₁, hs₁, hm, by rw [hs], .inl ⟨rfl, rfl, rfl⟩⟩
  · split at h₂
    · rename_i ch _
      have hw₂ : (w₁.send ch (.AddConnection c)).2 = { w₁ with
          chans := (w₁.send ch (.AddConnection c)).2.chans } := World.send_frame _ _ _
      split at h₂
      · cases h₂; exact ⟨w₁, hs₁, hm, by rw [hs], .inl ⟨by rw [hw₂], by rw [hw₂], by rw [hw₂]⟩⟩
      · obtain ⟨⟨b, w₃⟩, h₃, h₄⟩ := Option.map_eq_some'.mp h₂
        cases h₄
        exact ⟨_, by rw [hw₂, hs₁], by rw [hw₂, hm], by rw [hw₂, hs], .inr ⟨b, h₃⟩⟩
    · cases h₂

/-- The registry after `remove_connection`: the peer is gone, the others stay. -/
theorem World.removeConnection_get {k : UInt64} {b : Bool}
    (h : w.removeConnection k = some (b, w')) (k' : UInt64) :
    w'.server.connections.get k' = if k' = k then none else w.server.connections.get k' := by
  unfold World.removeConnection at h
  split at h
  · rename_i heq
    cases h
    have hk : w.server.connections.get k = none := by rw [← KeyMap.remove_fst, heq]
    split_ifs with he
    · rw [he, hk]
    · rfl
  · rename_i conn connections heq
    have hc : connections = (w.server.connections.remove k).2 := by rw [heq]
    subst hc
    simp only [World.closeIfOpen_server] at h
    split at h
    · split at h <;> cases h <;> simp [KeyMap.get_remove]
    · split at h <;> cases h; simp [KeyMap.get_remove]

end Methods

/-- A step of a worker or of the listener that removes no connection: the server and the main
    task stay as they are, and no socket is closed. -/
def World.Still (w w' : World) : Prop :=
  w'.server = w.server ∧ w'.main = w.main ∧ World.SockStep w w' fun _ => False

section Still

variable {w w' : World} {cfg : Config} {parse : RString → Option SocketAddr}

/-- A step that keeps the server, the main task and the sockets is still. -/
theorem World.Still.of_socks (hs : w'.server = w.server) (hm : w'.main = w.main)
    (hk : w'.socks = w.socks) : w.Still w' :=
  ⟨hs, hm, .of_socks hk⟩

/-- A receive is still. -/
theorem World.recv_still {c : Nat} {m : Message} (hr : w.recv c = some (m, w')) : w.Still w' := by
  obtain ⟨_, _, _, rfl⟩ := World.recv_eq_some hr
  exact .of_socks rfl rfl rfl

/-- A write after a still step leaves it still. -/
theorem World.Still.write (h : w.Still w') (k : Nat) (bytes : List UInt8) :
    w.Still (w'.write k bytes) :=
  ⟨by rw [World.write_server, h.1], by rw [World.write_main, h.2.1],
    (h.2.2.trans (World.sockStep_write _ _ _)).mono fun _ _ hh => hh.elim id id⟩

/-- Stopping a worker after a still step leaves it still. -/
theorem World.Still.stopWorker (h : w.Still w') (i : Nat) : w.Still (w'.stopWorker i) := by
  refine ⟨by rw [World.stopWorker_server, h.1], by rw [World.stopWorker_main, h.2.1],
    h.2.2.socks_right ?_⟩
  unfold World.stopWorker; split <;> rfl

/-- A still step is about the server, the main task and the sockets only. -/
theorem World.Still.congr {w'' : World} (h : w.Still w') (hs : w''.server = w'.server)
    (hm : w''.main = w'.main) (hk : w''.socks = w'.socks) : w.Still w'' :=
  ⟨hs.trans h.1, hm.trans h.2.1, h.2.2.socks_right hk⟩

/-- What `listen_connection` does: remove its connection, broadcast what it read, or
    nothing. -/
theorem World.listenConnection_shape {c : Conn} {r : ReadResult}
    (h : w.listenConnection c r = some w') :
    (∃ b, w.removeConnection c.peer_id = some (b, w')) ∨ (∃ buf, w' = w.broadcastBytes buf) ∨
      w' = w := by
  unfold World.listenConnection at h
  split at h
  · obtain ⟨⟨b, _⟩, h₁, rfl⟩ := Option.map_eq_some'.mp h; exact .inl ⟨b, h₁⟩
  · cases h; exact .inr (.inl ⟨_, rfl⟩)
  · cases h; exact .inr (.inr rfl)
  · obtain ⟨⟨b, _⟩, h₁, rfl⟩ := Option.map_eq_some'.mp h; exact .inl ⟨b, h₁⟩

/-- One pass of `listen_connection` is still, or removes its connection. -/
theorem World.listenConnection_still {c : Conn} {r : ReadResult}
    (h : w.listenConnection c r = some w') :
    w.Still w' ∨ ∃ b, w.removeConnection c.peer_id = some (b, w') := by
  rcases World.listenConnection_shape h with hr | ⟨buf, rfl⟩ | rfl
  · exact .inr hr
  · exact .inl (.of_socks (by simp) (by simp) (World.broadcastBytes_socks _ _))
  · exact .inl (.of_socks rfl rfl rfl)

/-- Each step of a worker is still, or removes a connection. -/
theorem World.workerStep_still {i : Nat} {wk : Worker} {a : Action}
    (h : w.workerStep i wk a = some w') :
    w.Still w' ∨ ∃ k b, w.removeConnection k = some (b, w') := by
  unfold World.workerStep at h
  split at h
  · split at h
    · have hs := World.recv_still ‹_›
      split at h <;> cases h
      exacts [.inl (hs.write _ _), .inl (hs.stopWorker _)]
    · cases h; exact .inl ((World.recv_still ‹_›).stopWorker _)
    · cases h; exact .inl (.of_socks rfl rfl rfl)
  · exact (World.listenConnection_still h).imp id fun ⟨b, hb⟩ => ⟨_, b, hb⟩
  · split at h <;> cases h
    exacts [.inl ((World.Still.of_socks rfl rfl rfl).stopWorker _), .inl (.of_socks rfl rfl rfl)]
  · cases h; exact .inl (.of_socks rfl rfl rfl)

/-- Each step of the listener is still, or removes a connection. -/
theorem World.listenerStep_still {l : Listener} {a : Action}
    (h : w.listenerStep l a = some w') :
    w.Still w' ∨ ∃ k b, w.removeConnection k = some (b, w') := by
  unfold World.listenerStep at h
  split at h
  · split at h
    all_goals first
      | (cases h; exact .inl (.of_socks rfl rfl rfl))
      | (have hs := World.recv_still ‹World.recv _ _ = _›
         cases h; exact .inl (hs.congr rfl rfl rfl))
      | skip
    have hs := World.recv_still ‹_›
    split at h
    · split at h <;> cases h
      exacts [.inl (hs.write _ _), .inl (hs.congr rfl rfl rfl)]
    · cases h; exact .inl hs
  · split at h
    · exact (World.listenConnection_still h).imp id fun ⟨b, hb⟩ => ⟨_, b, hb⟩
    · cases h; exact .inl (.of_socks rfl rfl rfl)
  · cases h; exact .inl (.of_socks rfl rfl rfl)

/-- **What a step can do to the sockets**: a step of a worker or of the listener that removes
    no connection, a `remove_connection`, or a step of the main task. -/
theorem World.next_still {a : Action} (h : w.next cfg parse a = some w') :
    w.Still w' ∨ (∃ k b, w.removeConnection k = some (b, w')) ∨
      w.mainStep cfg parse a = some w' := by
  unfold World.next at h
  split at h
  · cases h; exact .inl (.of_socks (by simp) (by simp) (World.sendToPeer_socks _ _ _))
  · cases h; exact .inl (.of_socks (by simp) (by simp) (World.broadcastBytes_socks _ _))
  all_goals first
    | exact .inr (.inr h)
    | split at h
      · split at h
        · first
            | exact (World.workerStep_still h).imp_right .inl
            | exact (World.listenerStep_still h).imp_right .inl
        · cases h; exact .inl (.of_socks rfl rfl rfl)
      · cases h; exact .inl (.of_socks rfl rfl rfl)

end Still

/-! ### The sockets of the registered connections -/

/-- The sockets of the registered connections.  Every registered connection's socket is open
    and no two peers share one; the connection waiting for registration has an open socket that
    no registered connection has. -/
structure World.SocketsOpen (w : World) : Prop where
  registered : ∀ k conn, w.server.connections.get k = some conn → w.isClosed conn.handle = false
  distinct : ∀ k k' conn conn', w.server.connections.get k = some conn →
    w.server.connections.get k' = some conn' → conn.handle = conn'.handle → k = k'
  pending : ∀ c peers, w.main.pending = some (c, peers) → w.isClosed c.handle = false ∧
    ∀ k conn, w.server.connections.get k = some conn → conn.handle ≠ c.handle

section SocketsOpen

variable {w w' : World} {cfg : Config} {parse : RString → Option SocketAddr}

/-- The invariant reads the sockets, the registry and the pending connection only. -/
theorem World.SocketsOpen.congr (h : w.SocketsOpen) (hs : w'.socks = w.socks)
    (hc : w'.server.connections = w.server.connections)
    (hp : w'.main.pending = w.main.pending) : w'.SocketsOpen := by
  refine ⟨fun k conn hk => ?_, fun k k' conn conn' hk hk' => ?_, fun c peers hc' => ?_⟩
  · rw [World.isClosed_of_socks hs]; exact h.registered k conn (hc ▸ hk)
  · exact h.distinct k k' conn conn' (hc ▸ hk) (hc ▸ hk')
  · rw [World.isClosed_of_socks hs, hc]; exact h.pending c peers (hp ▸ hc')

/-- A still step keeps the sockets of the registered connections open. -/
theorem World.SocketsOpen.still (h : w.SocketsOpen) (hs : w.Still w') : w'.SocketsOpen := by
  obtain ⟨hsv, hm, hk⟩ := hs
  refine ⟨fun k conn hc => ?_, by rw [hsv]; exact h.distinct, fun c peers hc => ?_⟩
  · rw [hsv] at hc; exact hk.open_of _ (h.registered k conn hc) id
  · rw [hm] at hc
    exact ⟨hk.open_of _ (h.pending c peers hc).1 id, by rw [hsv]; exact (h.pending c peers hc).2⟩

/-- `remove_connection` keeps the sockets of the registered connections open. -/
theorem World.SocketsOpen.removeConnection (h : w.SocketsOpen) {k : UInt64} {b : Bool}
    (hr : w.removeConnection k = some (b, w')) : w'.SocketsOpen := by
  have hget := World.removeConnection_get hr
  obtain ⟨hm, -⟩ := World.removeConnection_cases hr
  have hk := (World.removeConnection_sockStep hr).1
  /- a connection still registered is not the one removed, nor on its socket -/
  have hold : ∀ k' conn, w'.server.connections.get k' = some conn →
      w.server.connections.get k' = some conn ∧
        ¬ ∃ conn₀, w.server.connections.get k = some conn₀ ∧ conn₀.handle = conn.handle := by
    intro k' conn hc
    rw [hget] at hc
    split_ifs at hc with he
    exact ⟨hc, fun ⟨conn₀, h₀, hh⟩ => he (h.distinct k' k conn conn₀ hc h₀ hh.symm)⟩
  refine ⟨fun k' conn hc => ?_, fun k₁ k₂ c₁ c₂ h₁ h₂ => ?_, fun c peers hc => ?_⟩
  · obtain ⟨hc, hn⟩ := hold k' conn hc
    exact hk.open_of _ (h.registered k' conn hc) hn
  · exact h.distinct k₁ k₂ c₁ c₂ (hold k₁ c₁ h₁).1 (hold k₂ c₂ h₂).1
  · rw [hm] at hc
    obtain ⟨ho, hne⟩ := h.pending c peers hc
    exact ⟨hk.open_of _ ho fun ⟨conn₀, h₀, hh⟩ => hne k conn₀ h₀ hh,
      fun k' conn hc' => hne k' conn (hold k' conn hc').1⟩

/-- The registration keeps the invariant: the connection it registers brings its open socket,
    which no registered connection has. -/
theorem World.SocketsOpen.registerConnection (h : w.SocketsOpen) {c : Conn}
    {peers : List SocketAddr} (hp : w.main.pending = some (c, peers)) {main : MainTask}
    (hmain : main.pending = none)
    (hreg : ({ w with main } : World).registerConnection c = some w') : w'.SocketsOpen := by
  obtain ⟨hg, w₁, hs₁, hm₁, hc₁, hw'⟩ := World.registerConnection_socks hreg
  obtain ⟨hopen, hfresh⟩ := h.pending c peers hp
  have hget : ∀ k, w₁.server.connections.get k =
      if k = c.peer_id then some c else w.server.connections.get k := fun k => by
    rw [hc₁]; exact KeyMap.get_insert
  have h₁ : w₁.SocketsOpen := by
    refine ⟨fun k conn hk => ?_, fun k k' conn conn' hk hk' he => ?_, fun c' peers' hc' => ?_⟩
    · rw [World.isClosed_of_socks hs₁]
      rw [hget] at hk
      split_ifs at hk
      · cases hk; exact hopen
      · exact h.registered k conn hk
    · rw [hget] at hk hk'
      split_ifs at hk hk' with h₁ h₂ h₂
      · rw [h₁, h₂]
      · cases hk; exact absurd he.symm (hfresh k' conn' hk')
      · cases hk'; exact absurd he (hfresh k conn hk)
      · exact h.distinct k k' conn conn' hk hk' he
    · rw [hm₁, hmain] at hc'; cases hc'
  rcases hw' with ⟨hs, hc, hm⟩ | ⟨b, hr⟩
  · exact h₁.congr hs hc (by rw [hm])
  · exact h₁.removeConnection hr

/-- Each step of the main task keeps the sockets of the registered connections open. -/
theorem World.SocketsOpen.mainStep (h : w.SocketsOpen) {a : Action}
    (hn : w.mainStep cfg parse a = some w') : w'.SocketsOpen := by
  rcases World.mainStep_shape hn with
    ⟨main, addr, data, out, sent, rfl, hp⟩ | ⟨main, rfl, hp⟩ | ⟨c, peers, main, hp, hp', hreg⟩
  · obtain ⟨hk, hnew⟩ := @World.receiveHandshake_sockStep { w with main } cfg parse addr data out
      sent
    obtain ⟨-, -, hsock⟩ := @World.receiveHandshake_socks { w with main } cfg parse addr data out
      sent
    obtain ⟨socks, main', he⟩ := @World.receiveHandshake_frame { w with main } cfg parse addr data
      out sent
    refine ⟨fun k conn hc => ?_, by rw [he]; exact h.distinct, fun c peers hc => ?_⟩
    · rw [he] at hc; exact hk.open_of _ (h.registered k conn hc) id
    · rcases hsock c peers hc with hc' | ⟨hlen, -⟩
      · rw [hp] at hc'
        refine ⟨hk.open_of _ (h.pending c peers hc').1 id, ?_⟩
        rw [he]; exact (h.pending c peers hc').2
      · refine ⟨(hnew c peers hc).resolve_left fun hc' => ?_, fun k conn hk' he' => ?_⟩
        · rw [hp] at hc'
          have := World.lt_of_isClosed_eq_false (h.pending c peers hc').1
          simp only at hlen; omega
        · rw [he] at hk'
          have := World.lt_of_isClosed_eq_false (h.registered k conn hk')
          simp only at hlen; omega
  · refine ⟨h.registered, h.distinct, fun c peers hc => ?_⟩
    rcases hp with hp | hp <;> rw [hp] at hc
    exacts [h.pending c peers hc, nomatch hc]
  · exact h.registerConnection hp hp' hreg

/-- Every step keeps the sockets of the registered connections open. -/
theorem World.SocketsOpen.next (h : w.SocketsOpen) {a : Action}
    (hn : w.next cfg parse a = some w') : w'.SocketsOpen := by
  rcases World.next_still hn with hs | ⟨k, b, hr⟩ | hm
  · exact h.still hs
  · exact h.removeConnection hr
  · exact h.mainStep hm

/-- At the start no connection is registered and none is pending. -/
theorem World.socketsOpen_start {peer_id : UInt64} {tag : Option RString} {max_peers : Nat}
    {multi_threaded : Bool} {server : P2pServer}
    (hs : P2pServer.new peer_id tag max_peers multi_threaded = some server) :
    (World.start cfg server).SocketsOpen := by
  obtain ⟨-, -, hc, -⟩ := P2pServer.new_spec hs
  have hget : ∀ k, (World.start cfg server).server.connections.get k = none := fun k => by
    unfold World.start; split <;> simp [hc]
  refine ⟨fun k conn hk => ?_, fun k _ conn _ hk => ?_, fun c peers hp => ?_⟩
  · rw [hget] at hk; cases hk
  · rw [hget] at hk; cases hk
  · unfold World.start at hp; split at hp <;> cases hp

/-- In every reachable world the sockets of the registered connections are open. -/
theorem World.Reachable.socketsOpen (hw : World.Reachable cfg parse w) : w.SocketsOpen :=
  World.Reachable.invariant cfg parse World.SocketsOpen World.socketsOpen_start
    (fun _ h hn => h.next hn) hw

/-- **Only `remove_connection` closes a registered connection.**  In every reachable state the
    socket of every registered connection is open and no two registered peers share a socket;
    so a worker that finds its connection closed at the head of its loop serves a connection
    that is no longer the one registered under its peer id. -/
theorem World.registered_sockets_open (hw : World.Reachable cfg parse w) :
    (∀ k conn, w.server.connections.get k = some conn → w.isClosed conn.handle = false) ∧
    (∀ k k' conn conn', w.server.connections.get k = some conn →
      w.server.connections.get k' = some conn' → conn.handle = conn'.handle → k = k') ∧
    ∀ wk ∈ w.workers, w.isClosed wk.conn.handle = true →
      w.server.connections.get wk.conn.peer_id ≠ some wk.conn := by
  have h := World.Reachable.socketsOpen hw
  refine ⟨h.registered, h.distinct, fun wk _ hc hk => ?_⟩
  rw [h.registered _ _ hk] at hc; cases hc

/-- Node `1` of the multi-threaded mode registers peer `2`: its socket is open. -/
theorem World.registered_sockets_open_accept :
    ∃ w, World.run Config.noSeeds SocketAddr.parseV4
        (World.start Config.noSeeds ⟨1, none, 8, true, KeyMap.empty, KeyMap.empty⟩)
        World.acceptPeer2 = some w ∧ w.server.connections.keys = [2] ∧
      World.Reachable Config.noSeeds SocketAddr.parseV4 w ∧
      (∀ k conn, w.server.connections.get k = some conn → w.isClosed conn.handle = false) ∧
      (∀ k k' conn conn', w.server.connections.get k = some conn →
        w.server.connections.get k' = some conn' → conn.handle = conn'.handle → k = k') ∧
      ∀ wk ∈ w.workers, w.isClosed wk.conn.handle = true →
        w.server.connections.get wk.conn.peer_id ≠ some wk.conn :=
  have hw := World.reachable_of_run Config.noSeeds SocketAddr.parseV4
    (rfl : P2pServer.new 1 none 8 true = some _) (rfl : World.run _ _ _ World.acceptPeer2 = _)
  ⟨_, rfl, rfl, hw, World.registered_sockets_open hw⟩

end SocketsOpen

/-! ### What the multi-threaded mode queues -/

section MultiQueue

variable {w w' : World}

/-- In the multi-threaded mode, `send_to_peer` queues only on the channel its peer id maps to. -/
theorem World.sendToPeer_queue_multi (hmt : w.server.multi_threaded = true) (k : UInt64)
    (bytes : List UInt8) (c : Nat) : ∃ new, (w.sendToPeer k bytes).2.queue c = w.queue c ++ new ∧
      ∀ m ∈ new, m = .SendBytes k bytes ∧ w.server.channels.get k = some c := by
  unfold World.sendToPeer
  simp only [P2pServer.getChannelForConnection, hmt, if_true]
  split
  · rename_i c₀ hc₀
    refine ⟨_, World.send_queue _ _ _ c, fun m hm => ?_⟩
    split_ifs at hm with he
    · rw [List.mem_singleton.mp hm, he.1]; exact ⟨rfl, hc₀⟩
    · cases hm
  · exact ⟨[], (List.append_nil _).symm, fun _ hm => by cases hm⟩

/-- In the multi-threaded mode, `broadcast_bytes` queues `SendBytes(k, buf)` only on the
    channel `k` maps to. -/
theorem World.broadcastBytes_queue_multi (hmt : w.server.multi_threaded = true)
    (buf : List UInt8) (c : Nat) : ∃ new, (w.broadcastBytes buf).queue c = w.queue c ++ new ∧
      ∀ m ∈ new, ∃ k, m = .SendBytes k buf ∧ w.server.channels.get k = some c := by
  unfold World.broadcastBytes
  suffices ∀ (conns : List Conn) (w₀ : World), w₀.server = w.server → ∃ new,
      (conns.foldl (fun w connection => (w.sendToPeer connection.peer_id buf).2) w₀).queue c =
        w₀.queue c ++ new ∧ ∀ m ∈ new, ∃ k, m = .SendBytes k buf ∧ w.server.channels.get k = some c
    from this _ w rfl
  intro conns
  induction conns with
  | nil => exact fun w₀ _ => ⟨[], (List.append_nil _).symm, fun _ hm => by cases hm⟩
  | cons conn conns ih =>
    intro w₀ hs
    obtain ⟨new₁, h₁, hn₁⟩ := World.sendToPeer_queue_multi (hs ▸ hmt) conn.peer_id buf c
    obtain ⟨new₂, h₂, hn₂⟩ :=
      ih (w₀.sendToPeer conn.peer_id buf).2 (by rw [World.sendToPeer_server, hs])
    refine ⟨new₁ ++ new₂, by rw [List.foldl_cons, h₂, h₁, List.append_assoc], fun m hm => ?_⟩
    rcases List.mem_append.mp hm with hm | hm
    · obtain ⟨rfl, hk⟩ := hn₁ m hm; exact ⟨_, rfl, hs ▸ hk⟩
    · exact hn₂ m hm

/-- A shutdown keeps the channels. -/
@[simp] theorem World.closeIfOpen_chans (h : Nat) (w : World) :
    (w.closeIfOpen h).chans = w.chans := by
  rw [World.closeIfOpen_frame]

/-- In the multi-threaded mode, `remove_connection` of a registered peer takes its channel out
    of `channels` and queues `Exit` on that channel, and only there. -/
theorem World.removeConnection_multi (hmt : w.server.multi_threaded = true)
    (hkeys : ∀ k, k ∈ w.server.channels.keys ↔ k ∈ w.server.connections.keys) {k : UInt64}
    {b : Bool} (h : w.removeConnection k = some (b, w')) :
    (∀ k', w'.server.channels.get k' = if k' = k then none else w.server.channels.get k') ∧
    ∀ c, w'.queue c = w.queue c ∨
      w'.queue c = w.queue c ++ [.Exit] ∧ w.server.channels.get k = some c ∧
        ∃ conn, w.server.connections.get k = some conn := by
  unfold World.removeConnection at h
  split at h
  · rename_i heq
    cases h
    have hk : w.server.channels.get k = none := by
      rw [KeyMap.get_eq_none, hkeys, ← KeyMap.get_eq_none, ← KeyMap.remove_fst, heq]
    refine ⟨fun k' => ?_, fun _ => .inl rfl⟩
    split_ifs with he
    · rw [he, hk]
    · rfl
  · rename_i conn connections heq
    have hk : w.server.connections.get k = some conn := by rw [← KeyMap.remove_fst, heq]
    simp only [World.closeIfOpen_server, hmt, if_true] at h
    split at h
    · rename_i c₀ channels hch
      have hc₀ : w.server.channels.get k = some c₀ := by rw [← KeyMap.remove_fst, hch]
      have hch' : channels = (w.server.channels.remove k).2 := by rw [hch]
      cases h; subst hch'
      refine ⟨fun k' => by rw [World.send_server]; exact KeyMap.get_remove, fun c => ?_⟩
      rw [World.send_queue]
      split_ifs with he
      · exact .inr ⟨by simp only [World.queue, World.closeIfOpen_chans], he.1 ▸ hc₀, conn, hk⟩
      · exact .inl (by simp only [World.queue, World.closeIfOpen_chans, List.append_nil])
    · rename_i hch
      cases h
      have hc₀ : w.server.channels.get k = none := by rw [← KeyMap.remove_fst, hch]
      refine ⟨fun k' => ?_, fun c => .inl (by simp only [World.queue, World.closeIfOpen_chans])⟩
      rw [World.closeIfOpen_server]
      split_ifs with he
      · rw [he, hc₀]
      · rfl

end MultiQueue

/-! ### The channels of the multi-threaded mode -/

/-- The workers after a step read the channels and serve the connections of workers before
    it: `stop_worker` only marks a worker stopped. -/
def World.KeepsWorkers (w w' : World) : Prop :=
  ∀ wk' ∈ w'.workers, ∃ wk ∈ w.workers, wk.chan = wk'.chan ∧ wk.conn = wk'.conn

/-- A step that keeps the workers keeps them. -/
theorem World.KeepsWorkers.of_eq {w w' : World} (h : w'.workers = w.workers) : w.KeepsWorkers w' :=
  fun wk hwk => ⟨wk, h ▸ hwk, rfl, rfl⟩

/-- Stopping a worker keeps its channel and its connection. -/
theorem World.KeepsWorkers.stopWorker (i : Nat) (w : World) : w.KeepsWorkers (w.stopWorker i) := by
  intro wk' hwk'
  unfold World.stopWorker at hwk'
  split at hwk'
  · rename_i wk hwk
    rcases List.mem_or_eq_of_mem_set hwk' with hwk' | rfl
    · exact ⟨wk', hwk', rfl, rfl⟩
    · exact ⟨wk, List.getElem?_mem hwk, rfl, rfl⟩
  · exact ⟨wk', hwk', rfl, rfl⟩

/-- Stopping a worker closes no socket. -/
theorem World.isClosed_stopWorker (i : Nat) (w : World) (h : Nat) :
    (w.stopWorker i).isClosed h = w.isClosed h := by
  unfold World.stopWorker; split <;> rfl

/-- The channels of the multi-threaded mode, with `consumed c ++ w.queue c` everything ever
    queued on channel `c`.  Only `SendBytes` and `Exit` are queued; an `Exit` is the last
    message queued on its channel and the only one there, no peer id maps to its channel any
    more, and the socket of every worker reading that channel is closed.  A peer id maps to one
    channel, its own: the workers reading it serve the peer's registered connection. -/
structure World.ExitLast (consumed : Nat → List Message) (w : World) : Prop where
  kinds : ∀ c, ∀ m ∈ consumed c ++ w.queue c, (∃ k bytes, m = .SendBytes k bytes) ∨ m = .Exit
  last : ∀ c, .Exit ∈ consumed c ++ w.queue c →
    ∃ pre, consumed c ++ w.queue c = pre ++ [.Exit] ∧ .Exit ∉ pre
  unmapped : ∀ c, .Exit ∈ consumed c ++ w.queue c → ∀ k, w.server.channels.get k ≠ some c
  closed : ∀ c, .Exit ∈ consumed c ++ w.queue c → ∀ wk ∈ w.workers, wk.chan = c →
    w.isClosed wk.conn.handle = true
  inj : ∀ k k' c, w.server.channels.get k = some c → w.server.channels.get k' = some c → k = k'
  conn : ∀ k c, w.server.channels.get k = some c → ∃ conn, w.server.connections.get k = some conn ∧
    ∀ wk ∈ w.workers, wk.chan = c → wk.conn = conn

section ExitLast

variable {w w' : World} {consumed : Nat → List Message} {cfg : Config}
  {parse : RString → Option SocketAddr}

/-- A step that queues only `SendBytes(k, _)` on the channel `k` maps to, and keeps the
    server, the workers' connections and channels, and the closed sockets of the workers. -/
theorem World.ExitLast.appends (h : w.ExitLast consumed) {consumed' : Nat → List Message}
    (hs : w'.server = w.server) (hw : w.KeepsWorkers w')
    (hk : ∀ wk ∈ w.workers, w.isClosed wk.conn.handle = true → w'.isClosed wk.conn.handle = true)
    (happ : ∀ c, ∃ new, consumed' c ++ w'.queue c = consumed c ++ w.queue c ++ new ∧
      ∀ m ∈ new, ∃ k bytes, m = .SendBytes k bytes ∧ w.server.channels.get k = some c) :
    w'.ExitLast consumed' := by
  /- a channel that holds an `Exit` is unmapped, so nothing was queued on it -/
  have hold : ∀ c, .Exit ∈ consumed' c ++ w'.queue c →
      consumed' c ++ w'.queue c = consumed c ++ w.queue c := by
    intro c he
    obtain ⟨new, hc, hn⟩ := happ c
    rw [hc] at he ⊢
    rcases List.mem_append.mp he with he' | he'
    · cases new with
      | nil => exact List.append_nil _
      | cons m ms =>
        obtain ⟨k, -, -, hk⟩ := hn m (List.mem_cons_self _ _)
        exact absurd hk (h.unmapped c he' k)
    · obtain ⟨k, bytes, hm, -⟩ := hn _ he'; cases hm
  refine ⟨fun c m hm => ?_, fun c he => ?_, fun c he k => ?_, fun c he wk' hwk' hc => ?_,
    by rw [hs]; exact h.inj, fun k c hc => ?_⟩
  · obtain ⟨new, hc, hn⟩ := happ c
    rw [hc] at hm
    rcases List.mem_append.mp hm with hm | hm
    · exact h.kinds c m hm
    · obtain ⟨k, bytes, rfl, -⟩ := hn m hm; exact .inl ⟨k, bytes, rfl⟩
  · rw [hold c he]; exact h.last c (hold c he ▸ he)
  · rw [hs]; exact h.unmapped c (hold c he ▸ he) k
  · obtain ⟨wk, hwk, hch, hconn⟩ := hw wk' hwk'
    rw [← hconn]; exact hk wk hwk (h.closed c (hold c he ▸ he) wk hwk (hch.trans hc))
  · rw [hs] at hc ⊢
    obtain ⟨conn, hconn, hwk⟩ := h.conn k c hc
    refine ⟨conn, hconn, fun wk' hwk' hch => ?_⟩
    obtain ⟨wk, hwk₀, hch₀, hconn₀⟩ := hw wk' hwk'
    rw [← hconn₀]; exact hwk wk hwk₀ (hch₀.trans hch)

/-- `remove_connection` in the multi-threaded mode: the `Exit` it queues goes on the channel it
    unmaps, after it closed the socket of the connection the channel's workers serve. -/
theorem World.ExitLast.removeConnection (h : w.ExitLast consumed)
    (hmt : w.server.multi_threaded = true)
    (hkeys : ∀ k, k ∈ w.server.channels.keys ↔ k ∈ w.server.connections.keys)
    (hlt : ∀ wk ∈ w.workers, wk.conn.handle < w.socks.length) {k : UInt64} {b : Bool}
    (hr : w.removeConnection k = some (b, w')) : w'.ExitLast consumed := by
  obtain ⟨hch, hq⟩ := World.removeConnection_multi hmt hkeys hr
  obtain ⟨hsock, hclosed⟩ := World.removeConnection_sockStep hr
  have hworkers := (World.removeConnection_quiet hr).workers
  /- an `Exit` on a channel is an old one, or the one queued on the channel `k` mapped to -/
  have hexit : ∀ c, .Exit ∈ consumed c ++ w'.queue c → .Exit ∈ consumed c ++ w.queue c ∧
        consumed c ++ w'.queue c = consumed c ++ w.queue c ∨
      w.server.channels.get k = some c ∧ consumed c ++ w'.queue c = consumed c ++ w.queue c ++
        [.Exit] := by
    intro c he
    rcases hq c with hc | ⟨hc, hkc, -⟩
    · rw [hc] at he ⊢; exact .inl ⟨he, rfl⟩
    · exact .inr ⟨hkc, by rw [hc, List.append_assoc]⟩
  have hmapped : ∀ k' c, w'.server.channels.get k' = some c →
      w.server.channels.get k' = some c ∧ k' ≠ k := fun k' c hc => by
    rw [hch] at hc; split_ifs at hc with he; exact ⟨hc, he⟩
  refine ⟨fun c m hm => ?_, fun c he => ?_, fun c he k' hk' => ?_, fun c he wk hwk hc => ?_,
    fun k₁ k₂ c h₁ h₂ => h.inj k₁ k₂ c (hmapped k₁ c h₁).1 (hmapped k₂ c h₂).1,
    fun k' c hc => ?_⟩
  · rcases hq c with hc | ⟨hc, -⟩ <;> rw [hc] at hm
    · exact h.kinds c m hm
    · rw [← List.append_assoc] at hm
      rcases List.mem_append.mp hm with hm | hm
      · exact h.kinds c m hm
      · exact .inr (List.mem_singleton.mp hm)
  · rcases hexit c he with ⟨he, hc⟩ | ⟨hkc, hc⟩
    · rw [hc]; exact h.last c he
    · exact ⟨_, hc, fun he => h.unmapped c he k hkc⟩
  · obtain ⟨hk', hne⟩ := hmapped k' c hk'
    rcases hexit c he with ⟨he, -⟩ | ⟨hkc, -⟩
    · exact h.unmapped c he k' hk'
    · exact hne (h.inj k' k c hk' hkc)
  · rw [hworkers] at hwk
    rcases hexit c he with ⟨he, -⟩ | ⟨hkc, -⟩
    · exact hsock.closed _ (hlt wk hwk) (h.closed c he wk hwk hc)
    · obtain ⟨conn, hconn, hwc⟩ := h.conn k c hkc
      rw [hwc wk hwk hc]; exact hclosed conn hconn
  · obtain ⟨hc, hne⟩ := hmapped k' c hc
    obtain ⟨conn, hconn, hwc⟩ := h.conn k' c hc
    refine ⟨conn, by rw [World.removeConnection_get hr, if_neg hne]; exact hconn, ?_⟩
    rw [hworkers]; exact hwc

/-- The multi-threaded registration: the peer id, unmapped until then, maps to a new channel
    with nothing queued, read by the new worker of the registered connection. -/
theorem World.ExitLast.registerConnection (h : w.ExitLast consumed)
    (hmt : w.server.multi_threaded = true)
    (hkeys : ∀ k, k ∈ w.server.channels.keys ↔ k ∈ w.server.connections.keys)
    (hfresh : ∀ c : Nat, w.chans.length ≤ c → consumed c = []) (hr : w.Routed) {c : Conn}
    (hreg : w.registerConnection c = some w') : w'.ExitLast consumed ∧ w'.queue = w.queue := by
  obtain ⟨⟨r, w₁⟩, h₁, h₂⟩ := Option.bind_eq_some.mp hreg
  obtain ⟨hg, -, hr₁, hs₁⟩ := World.addConnection_spec h₁
  have hw₁ := World.addConnection_frame h₁
  rw [if_pos hmt] at hr₁ hw₁ hs₁
  subst hr₁
  cases h₂
  have hq : ({ w₁ with workers := w₁.workers ++ [⟨c, w.chans.length, true⟩] } : World).queue =
      w.queue := World.queue_of_push (by rw [hw₁])
  rw [hw₁] at hq ⊢
  simp only [hs₁] at hq ⊢
  /- the new channel has nothing queued, and every channel mapped so far is an older one -/
  have hnil : consumed w.chans.length ++ w.queue w.chans.length = [] := by
    rw [hfresh _ le_rfl]; simp [World.queue]
  have hexitL : ∀ c', .Exit ∈ consumed c' ++ w.queue c' → c' ≠ w.chans.length := fun c' he hc =>
    by rw [hc, hnil] at he; cases he
  have hcp : w.server.channels.get c.peer_id = none := by
    rw [KeyMap.get_eq_none, hkeys, ← KeyMap.get_eq_none]; exact hg
  have hworkers : ∀ wk, wk ∈ w.workers ++ [⟨c, w.chans.length, true⟩] →
      wk ∈ w.workers ∨ wk = ⟨c, w.chans.length, true⟩ := fun wk hwk => by
    simpa using hwk
  refine ⟨⟨fun c' m hm => ?_, fun c' he => ?_, fun c' he k hk => ?_,
    fun c' he wk hwk hc => ?_, fun k₁ k₂ c' h₁ h₂ => ?_, fun k c' hc => ?_⟩, hq⟩
  · rw [hq] at hm; exact h.kinds c' m hm
  · rw [hq] at he ⊢; exact h.last c' he
  · rw [hq] at he
    rw [KeyMap.get_insert] at hk
    split_ifs at hk
    · cases hk; exact hexitL _ he rfl
    · exact h.unmapped c' he k hk
  · rw [hq] at he
    rcases hworkers wk hwk with hwk | rfl
    · exact h.closed c' he wk hwk hc
    · exact absurd hc.symm (hexitL c' he)
  · rw [KeyMap.get_insert] at h₁ h₂
    split_ifs at h₁ h₂ with he₁ he₂ he₂
    · rw [he₁, he₂]
    · cases h₁; exact absurd (hr.channel_peer k₂ _ h₂).1 (lt_irrefl _)
    · cases h₂; exact absurd (hr.channel_peer k₁ _ h₁).1 (lt_irrefl _)
    · exact h.inj k₁ k₂ c' h₁ h₂
  · rw [KeyMap.get_insert] at hc
    simp only [KeyMap.get_insert]
    split_ifs at hc ⊢ with he
    · cases hc
      refine ⟨c, rfl, fun wk hwk hch => ?_⟩
      rcases hworkers wk hwk with hwk | rfl
      · exact absurd hch (hr.worker_chan wk hwk).ne
      · rfl
    · obtain ⟨conn, hconn, hwc⟩ := h.conn k c' hc
      refine ⟨conn, hconn, fun wk hwk hch => ?_⟩
      rcases hworkers wk hwk with hwk | rfl
      · exact hwc wk hwk hch
      · exact absurd hch.symm (hr.channel_peer k c' hc).1.ne

/-- A step that took `m` off channel `c` and queued nothing: everything ever queued is as it
    was. -/
theorem World.ExitLast.pop (h : w.ExitLast consumed) {c : Nat} {m : Message}
    (hq : w.queue c = m :: w'.queue c) (ho : ∀ c', c' ≠ c → w'.queue c' = w.queue c')
    (hs : w'.server = w.server) (hw : w.KeepsWorkers w')
    (hk : ∀ h, w'.isClosed h = w.isClosed h) : w'.ExitLast (World.log consumed w w') := by
  refine h.appends hs hw (fun wk _ hc => by rw [hk]; exact hc) fun c' => ⟨[], ?_, fun _ hm => by
    cases hm⟩
  rw [World.log_of_pop hq ho, List.append_nil]
  dsimp only
  split_ifs with he
  · subst he; rw [hq, List.append_assoc, List.singleton_append]
  · rw [ho c' he, List.append_nil]

/-- A step that only queued `SendBytes` on mapped channels, or nothing. -/
theorem World.ExitLast.grows (h : w.ExitLast consumed) (hs : w'.server = w.server)
    (hw : w.KeepsWorkers w') (hk : ∀ h, w'.isClosed h = w.isClosed h)
    (happ : ∀ c, ∃ new, w'.queue c = w.queue c ++ new ∧
      ∀ m ∈ new, ∃ k bytes, m = .SendBytes k bytes ∧ w.server.channels.get k = some c) :
    w'.ExitLast (World.log consumed w w') := by
  rw [World.log_of_grows fun c => by
    obtain ⟨new, hc, -⟩ := happ c; rw [hc]; exact List.prefix_append _ _]
  refine h.appends hs hw (fun wk _ hc => by rw [hk]; exact hc) fun c => ?_
  obtain ⟨new, hc, hn⟩ := happ c
  exact ⟨new, by rw [hc, List.append_assoc], hn⟩

/-- A step that keeps the server, the workers, the sockets and the queues keeps `Exit` last. -/
theorem World.ExitLast.same (h : w.ExitLast consumed) (hs : w'.server = w.server)
    (hw : w.KeepsWorkers w') (hk : ∀ h, w'.isClosed h = w.isClosed h)
    (hq : w'.queue = w.queue) : w'.ExitLast (World.log consumed w w') :=
  h.grows hs hw hk fun c => ⟨[], by rw [hq, List.append_nil], fun _ hm => by cases hm⟩

/-- `broadcast_bytes` queues only payloads, each on the channel of its peer. -/
theorem World.ExitLast.broadcastBytes (h : w.ExitLast consumed)
    (hmt : w.server.multi_threaded = true) (buf : List UInt8) :
    (w.broadcastBytes buf).ExitLast (World.log consumed w (w.broadcastBytes buf)) := by
  refine h.grows (World.broadcastBytes_server _ _) (.of_eq (World.broadcastBytes_quiet _ _).workers)
    (fun _ => World.isClosed_of_socks (World.broadcastBytes_socks _ _) _) fun c => ?_
  obtain ⟨new, hc, hnew⟩ := World.broadcastBytes_queue_multi hmt buf c
  exact ⟨new, hc, fun m hm => by obtain ⟨k, rfl, hk⟩ := hnew m hm; exact ⟨k, _, rfl, hk⟩⟩

/-- So does `send_to_peer`. -/
theorem World.ExitLast.sendToPeer (h : w.ExitLast consumed)
    (hmt : w.server.multi_threaded = true) (k : UInt64) (bytes : List UInt8) :
    (w.sendToPeer k bytes).2.ExitLast (World.log consumed w (w.sendToPeer k bytes).2) := by
  refine h.grows (World.sendToPeer_server _ _ _) (.of_eq (World.sendToPeer_quiet _ _ _).workers)
    (fun _ => World.isClosed_of_socks (World.sendToPeer_socks _ _ _) _) fun c => ?_
  obtain ⟨new, hc, hnew⟩ := World.sendToPeer_queue_multi hmt k bytes c
  exact ⟨new, hc, fun m hm => by obtain ⟨rfl, hk⟩ := hnew m hm; exact ⟨k, _, rfl, hk⟩⟩

/-- A worker's steps in the multi-threaded mode. -/
theorem World.ExitLast.workerStep (h : w.ExitLast consumed) (ho : w.WorkerOrder consumed)
    (hmt : w.server.multi_threaded = true)
    (hkeys : ∀ k, k ∈ w.server.channels.keys ↔ k ∈ w.server.connections.keys) {i : Nat}
    {wk : Worker} {a : Action} (hn : w.workerStep i wk a = some w') :
    w'.ExitLast (World.log consumed w w') := by
  /- the worker took a message off its channel, and then wrote or stopped -/
  have hrecv : ∀ {m w₁}, w.recv wk.chan = some (m, w₁) → ∀ {w'}, w'.queue = w₁.queue →
      w'.server = w₁.server → w₁.KeepsWorkers w' → (∀ h, w'.isClosed h = w₁.isClosed h) →
      w'.ExitLast (World.log consumed w w') := fun {m w₁} hr {w'} hq hs hw hk => by
    obtain ⟨hq₁, hq₁'⟩ := World.recv_queue hr
    obtain ⟨_, _, _, rfl⟩ := World.recv_eq_some hr
    exact h.pop (by rw [hq]; exact hq₁) (by rw [hq]; exact hq₁') hs hw hk
  have hstay : w.ExitLast (World.log consumed w w) := h.same rfl (.of_eq rfl) (fun _ => rfl) rfl
  unfold World.workerStep at hn
  split at hn
  · split at hn
    · rename_i k bytes w₁ hr
      split at hn <;> cases hn
      · exact hrecv hr (World.write_queue _ _ _) (World.write_server _ _ _)
          (.of_eq (World.write_workers _ _ _)) (World.isClosed_write _ · _ _)
      · exact hrecv hr (World.stopWorker_queue _ _) (World.stopWorker_server _ _)
          (World.KeepsWorkers.stopWorker _ _) (World.isClosed_stopWorker _ _)
    · rename_i m w₁ _ hr
      cases hn
      exact hrecv hr (World.stopWorker_queue _ _) (World.stopWorker_server _ _)
        (World.KeepsWorkers.stopWorker _ _) (World.isClosed_stopWorker _ _)
    · cases hn; exact hstay
  · rcases World.listenConnection_shape hn with ⟨b, hr⟩ | ⟨buf, rfl⟩ | rfl
    · rw [World.log_of_grows (World.removeConnection_quiet hr).queue]
      exact h.removeConnection hmt hkeys ho.handle_lt hr
    · exact h.broadcastBytes hmt buf
    · exact hstay
  · split at hn <;> cases hn
    · exact h.same (World.stopWorker_server _ _) (World.KeepsWorkers.stopWorker _ _)
        (World.isClosed_stopWorker _ _) (World.stopWorker_queue _ _)
    · exact hstay
  · cases hn; exact hstay

/-- The main task is not what `ExitLast` is about. -/
theorem World.ExitLast.setMain (h : w.ExitLast consumed) (main : MainTask) :
    ({ w with main } : World).ExitLast consumed :=
  ⟨h.kinds, h.last, h.unmapped, h.closed, h.inj, h.conn⟩

/-- A step that keeps the server, the workers and the channels, and reopens no socket. -/
theorem World.ExitLast.sockStep (h : w.ExitLast consumed) (ho : w.WorkerOrder consumed)
    (hs : w'.server = w.server) (hw : w'.workers = w.workers) (hc : w'.chans = w.chans)
    {S : Nat → Prop} (hk : World.SockStep w w' S) : w'.ExitLast (World.log consumed w w') := by
  rw [World.log_of_grows fun c => by rw [World.queue_of_chans hc]]
  exact h.appends hs (.of_eq hw) (fun wk hwk hcl => hk.closed _ (ho.handle_lt wk hwk) hcl)
    fun c => ⟨[], by rw [World.queue_of_chans hc, List.append_nil], fun _ hm => by cases hm⟩

/-- The main task's steps in the multi-threaded mode. -/
theorem World.ExitLast.mainStep (h : w.ExitLast consumed) (ho : w.WorkerOrder consumed)
    (hr : w.Routed) (hmt : w.server.multi_threaded = true)
    (hkeys : ∀ k, k ∈ w.server.channels.keys ↔ k ∈ w.server.connections.keys) {a : Action}
    (hn : w.mainStep cfg parse a = some w') : w'.ExitLast (World.log consumed w w') := by
  rcases World.mainStep_shape hn with
    ⟨main, addr, data, out, sent, rfl, -⟩ | ⟨main, rfl, -⟩ | ⟨c, peers, main, -, -, hreg⟩
  · have hk := (@World.receiveHandshake_sockStep { w with main } cfg parse addr data out sent).1
    obtain ⟨socks, main', he⟩ := @World.receiveHandshake_frame { w with main } cfg parse addr data
      out sent
    rw [he] at hk ⊢
    exact h.sockStep ho rfl rfl rfl (hk.socks_left rfl)
  · exact h.sockStep ho rfl rfl rfl (.of_socks rfl)
  · obtain ⟨h', hq⟩ := (h.setMain main).registerConnection hmt hkeys ho.fresh
      (hr.frame w.socks main) hreg
    rw [World.log_of_grows fun c => by rw [hq]; exact List.prefix_refl _]
    exact h'

/-- **One step keeps the channels of the multi-threaded mode in order.** -/
theorem World.ExitLast.next (h : w.ExitLast consumed) (ho : w.WorkerOrder consumed)
    (hr : w.Routed) (hreg : w.server.Registry w.main.pending)
    (hmt : w.server.multi_threaded = true) {a : Action} (hn : w.next cfg parse a = some w') :
    w'.ExitLast (World.log consumed w w') := by
  have hkeys := hreg.channels_multi hmt
  have hstay : w.ExitLast (World.log consumed w w) := h.same rfl (.of_eq rfl) (fun _ => rfl) rfl
  unfold World.next at hn
  split at hn
  · cases hn; exact h.sendToPeer hmt _ _
  · cases hn; exact h.broadcastBytes hmt _
  all_goals first
    | exact h.mainStep ho hr hmt hkeys hn
    | split at hn
      · split at hn
        · first
            | exact h.workerStep ho hmt hkeys hn
            | rw [ho.no_listener] at *; contradiction
        · cases hn; exact hstay
      · cases hn; exact hstay

/-- The start of the multi-threaded mode has no channel and no `Exit`. -/
theorem World.exitLast_start {server : P2pServer} (hmt : server.multi_threaded = true)
    (hch : server.channels = KeyMap.empty) : (World.start cfg server).ExitLast fun _ => [] := by
  unfold World.start
  rw [if_pos hmt]
  have hq : ∀ c, ([] : List Message) ++ World.queue ⟨server, [], [], ⟨true, cfg.SEED_NODES, none⟩,
      [], none⟩ c = [] := fun _ => rfl
  refine ⟨fun c m hm => ?_, fun c hm => ?_, fun c hm => ?_, fun c hm => ?_, fun k _ c hk => ?_,
    fun k c hk => ?_⟩ <;> first | rw [hq] at hm; cases hm | simp [hch] at hk

/-- In every logged world of the multi-threaded mode `Exit` is last. -/
theorem World.Logged.exitLast (h : World.Logged cfg parse w consumed) :
    w.server.multi_threaded = true → w.ExitLast consumed := by
  induction h with
  | start hs =>
    obtain ⟨-, rfl, -, hch⟩ := P2pServer.new_spec hs
    rw [World.start_multi_threaded]
    exact fun hmt => World.exitLast_start hmt hch
  | step a hlog hn ih =>
    intro hm
    have hmt := (World.next_multi_threaded hn).symm.trans hm
    have hw := hlog.reachable cfg parse
    exact (ih hmt).next (hlog.ordered.1 hmt) hw.routed hw.registry hmt hn

/-- **A worker's channel ends with its `Exit`.**  In every state of every run of the
    multi-threaded mode, with `consumed c` the messages the worker on channel `c` has taken off
    it: every message queued on a channel is a `SendBytes` or an `Exit`; once `remove_connection`
    has queued the `Exit` nothing is queued after it, no peer is mapped to that channel any more,
    and the socket of the worker that reads it is closed. -/
theorem World.worker_channels (h : World.Logged cfg parse w consumed)
    (hmt : w.server.multi_threaded = true) :
    (∀ c, ∀ m ∈ consumed c ++ w.queue c, (∃ k bytes, m = .SendBytes k bytes) ∨ m = .Exit) ∧
    ∀ c, .Exit ∈ consumed c ++ w.queue c →
      (∃ pre, consumed c ++ w.queue c = pre ++ [.Exit] ∧ .Exit ∉ pre) ∧
      (∀ k, w.server.channels.get k ≠ some c) ∧
      ∀ wk ∈ w.workers, wk.chan = c → w.isClosed wk.conn.handle = true := by
  have he := h.exitLast hmt
  exact ⟨he.kinds, fun c hc => ⟨he.last c hc, he.unmapped c hc, he.closed c hc⟩⟩

/-- Node `1` of the multi-threaded mode registers peer `2`, whose worker reads the byte `7`,
    broadcasts it, and then reads the end of the stream and removes the peer: channel `0` holds
    `SendBytes(2, [7])` and then `Exit`, last. -/
theorem World.worker_channels_accept :
    ∃ w consumed, World.run Config.noSeeds SocketAddr.parseV4
        (World.start Config.noSeeds ⟨1, none, 8, true, KeyMap.empty, KeyMap.empty⟩)
        (World.acceptPeer2 ++ [.workerListen 0 (.ok [7]), .workerListen 0 (.ok [])]) = some w ∧
      w.queue 0 = [.SendBytes 2 [7], .Exit] ∧
      World.Logged Config.noSeeds SocketAddr.parseV4 w consumed ∧
      w.server.multi_threaded = true ∧
      (∀ c, ∀ m ∈ consumed c ++ w.queue c, (∃ k bytes, m = .SendBytes k bytes) ∨ m = .Exit) ∧
      ∀ c, .Exit ∈ consumed c ++ w.queue c →
        (∃ pre, consumed c ++ w.queue c = pre ++ [.Exit] ∧ .Exit ∉ pre) ∧
        (∀ k, w.server.channels.get k ≠ some c) ∧
        ∀ wk ∈ w.workers, wk.chan = c → w.isClosed wk.conn.handle = true := by
  have hw := World.reachable_of_run Config.noSeeds SocketAddr.parseV4
    (rfl : P2pServer.new 1 none 8 true = some _)
    (rfl : World.run _ _ _ (World.acceptPeer2 ++ [.workerListen 0 (.ok [7]),
      .workerListen 0 (.ok [])]) = _)
  obtain ⟨consumed, hlog⟩ := hw.logged
  exact ⟨_, consumed, rfl, rfl, hlog, rfl, World.worker_channels hlog rfl⟩

end ExitLast

end XelisP2p
