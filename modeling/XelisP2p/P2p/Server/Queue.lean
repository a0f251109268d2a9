import XelisP2p.P2p.Server.Network

namespace XelisP2p

/-!
# P2P — what the channels carry

`send_to_peer` queues `SendBytes(peer_id, bytes)` on a channel; in the single-threaded mode
`add_connection` and `remove_connection` also queue the listener's `AddConnection` and
`RemoveConnection` on the one channel (`World.queue`, in the module before).  The task reading a
channel takes its messages in order.
An `mpsc` channel is first in, first out, so what has been queued on a channel is what its reader
has taken so far followed by what is still queued.  `World.Logged` runs the node with, for each
channel, the messages its reader has taken (`World.taken`); this log is a ghost of the proofs,
not part of the node.

* `sendPayloads`, `replayMap`, `route` — what a worker writes after a sequence of messages, and
  the listener's map and its writes to one socket;
* `World.Quiet` — the steps that only queue: `send_to_peer`, `broadcast_bytes`,
  `remove_connection`, `listen_connection`;
* `World.mainStep_shape` — what one step of the main task can do;
* `World.registerConnection_single`, `World.listenConnection_single` — in the single-threaded
  mode, the registry changes exactly as the messages queued on the one channel say.
-/

/-- The payloads of the `SendBytes` among `msgs`: what a worker reading them writes. -/
def sendPayloads (msgs : List Message) : List (List UInt8) :=
  msgs.filterMap fun
    | .SendBytes _ bytes => some bytes
    | _ => none

/-- The listener's map after `msgs`, from `m`: `AddConnection` inserts the connection under its
    peer id and `RemoveConnection` removes the peer. -/
def replayMap (m : KeyMap Conn) : List Message → KeyMap Conn
  | [] => m
  | .AddConnection c :: rest => replayMap (m.insert c.peer_id c).2 rest
  | .RemoveConnection k :: rest => replayMap (m.remove k).2 rest
  | _ :: rest => replayMap m rest

/-- The payloads among `msgs` that the listener, from the map `m`, writes to the socket of
    handle `h`: those of the `SendBytes(k, _)` whose peer `k` the map holds a connection of that
    socket under. -/
def route (m : KeyMap Conn) (h : Nat) : List Message → List (List UInt8)
  | [] => []
  | .SendBytes k bytes :: rest =>
    (if (m.get k).map Conn.handle = some h then [bytes] else []) ++ route m h rest
  | .AddConnection c :: rest => route (m.insert c.peer_id c).2 h rest
  | .RemoveConnection k :: rest => route (m.remove k).2 h rest
  | .Exit :: rest => route m h rest

/-- The connections that `msgs` add. -/
def addedConns (msgs : List Message) : List Conn :=
  msgs.filterMap fun
    | .AddConnection c => some c
    | _ => none

/-! ### Replaying messages -/

/-- The payloads of a log are those of its parts. -/
@[simp] theorem sendPayloads_append (xs ys : List Message) :
    sendPayloads (xs ++ ys) = sendPayloads xs ++ sendPayloads ys :=
  List.filterMap_append _ _ _

/-- The connections a log adds are those its parts add. -/
@[simp] theorem addedConns_append (xs ys : List Message) :
    addedConns (xs ++ ys) = addedConns xs ++ addedConns ys :=
  List.filterMap_append _ _ _

/-- Replaying a log replays its first part, and then its second over the result. -/
theorem replayMap_append (m : KeyMap Conn) (xs ys : List Message) :
    replayMap m (xs ++ ys) = replayMap (replayMap m xs) ys := by
  induction xs generalizing m with
  | nil => rfl
  | cons x xs ih => cases x <;> exact ih _

/-- The second part of a log is routed over the map the first part leaves. -/
theorem route_append (m : KeyMap Conn) (h : Nat) (xs ys : List Message) :
    route m h (xs ++ ys) = route m h xs ++ route (replayMap m xs) h ys := by
  induction xs generalizing m with
  | nil => rfl
  | cons x xs ih => cases x <;> simp [route, replayMap, ih]

/-- One `SendBytes` reaches the socket of its peer's connection in the map, and no other. -/
@[simp] theorem route_sendBytes (m : KeyMap Conn) (h : Nat) (k : UInt64) (bytes : List UInt8) :
    route m h [.SendBytes k bytes] =
      if (m.get k).map Conn.handle = some h then [bytes] else [] := by
  simp [route]

/-- A connection the map holds after `msgs` it held before, or `msgs` added it under its peer
    id. -/
theorem replayMap_get {k : UInt64} {c : Conn} (msgs : List Message) :
    ∀ {m : KeyMap Conn}, (replayMap m msgs).get k = some c →
      m.get k = some c ∨ (c ∈ addedConns msgs ∧ c.peer_id = k) := by
  induction msgs with
  | nil => exact .inl
  | cons x rest ih =>
    intro m h
    have hrest : c ∈ addedConns rest → c ∈ addedConns (x :: rest) :=
      fun hc => ((List.sublist_cons_self x rest).filterMap _).subset hc
    cases x with
    | AddConnection c' =>
      rcases ih h with h | ⟨hc, hk⟩
      · rw [KeyMap.get_insert] at h
        split_ifs at h with hkc
        · cases h; exact .inr ⟨List.mem_cons_self _ _, hkc.symm⟩
        · exact .inl h
      · exact .inr ⟨hrest hc, hk⟩
    | RemoveConnection k' =>
      rcases ih h with h | ⟨hc, hk⟩
      · rw [KeyMap.get_remove] at h
        split_ifs at h
        exact .inl h
      · exact .inr ⟨hrest hc, hk⟩
    | SendBytes | Exit => exact (ih h).imp_right fun ⟨hc, hk⟩ => ⟨hrest hc, hk⟩

/-- From the empty map, two peers whose connections share a socket are one peer, when no two
    connections added share a socket. -/
theorem replayMap_handle_inj {msgs : List Message}
    (hnd : ((addedConns msgs).map Conn.handle).Nodup) {k k' : UInt64} {c c' : Conn}
    (hk : (replayMap KeyMap.empty msgs).get k = some c)
    (hk' : (replayMap KeyMap.empty msgs).get k' = some c') (he : c.handle = c'.handle) :
    k = k' := by
  obtain ⟨hc, rfl⟩ := (replayMap_get msgs hk).resolve_left (by simp)
  obtain ⟨hc', rfl⟩ := (replayMap_get msgs hk').resolve_left (by simp)
  rw [List.inj_on_of_nodup_map hnd hc hc' he]

/-- Nothing is routed to a socket that neither the map nor the messages hold. -/
theorem route_eq_nil {h : Nat} (msgs : List Message) :
    ∀ {m : KeyMap Conn}, (∀ k c, m.get k = some c → c.handle ≠ h) →
      h ∉ (addedConns msgs).map Conn.handle → route m h msgs = [] := by
  induction msgs with
  | nil => exact fun _ _ => rfl
  | cons x rest ih =>
    intro m hm hn
    cases x with
    | SendBytes k bytes =>
      have hk : (m.get k).map Conn.handle ≠ some h := by
        cases hg : m.get k with
        | none => simp
        | some c => simpa using hm k c hg
      rw [route, if_neg hk, List.nil_append]
      exact ih hm hn
    | AddConnection c =>
      have hc : c.handle ≠ h := fun he => hn (he ▸ List.mem_cons_self _ _)
      refine ih (fun k c' hc' => ?_) fun hm' => hn (List.mem_cons_of_mem _ hm')
      rw [KeyMap.get_insert] at hc'
      split_ifs at hc'
      · cases hc'; exact hc
      · exact hm k c' hc'
    | RemoveConnection k =>
      refine ih (fun k' c' hc' => ?_) hn
      rw [KeyMap.get_remove] at hc'
      split_ifs at hc'
      exact hm k' c' hc'
    | Exit => exact ih hm hn

/-- Payloads only: the map stays, and nothing is added. -/
theorem replayMap_of_sends {xs : List Message} (hs : ∀ m ∈ xs, ∃ k bytes, m = .SendBytes k bytes)
    (m : KeyMap Conn) : replayMap m xs = m ∧ addedConns xs = [] ∧ Message.Exit ∉ xs := by
  induction xs with
  | nil => exact ⟨rfl, rfl, by simp⟩
  | cons x xs ih =>
    obtain ⟨k, bytes, rfl⟩ := hs x (List.mem_cons_self _ _)
    obtain ⟨h₁, h₂, h₃⟩ := ih fun m hm => hs m (List.mem_cons_of_mem _ hm)
    exact ⟨h₁, by simpa [addedConns] using h₂, by simpa using h₃⟩

/-- The payloads routed to a socket grow by the one a `SendBytes` carries there. -/
theorem route_append_sendBytes (xs : List Message) (h : Nat) (k : UInt64) (bytes : List UInt8) :
    route KeyMap.empty h (xs ++ [.SendBytes k bytes]) = route KeyMap.empty h xs ++
      if ((replayMap KeyMap.empty xs).get k).map Conn.handle = some h then [bytes] else [] := by
  rw [route_append, route_sendBytes]

/-! ### Queues, sockets and what a step takes -/

/-- What the reader of channel `c` took off it in the step from `w` to `w'`: the head of the
    queue when the step removed it, nothing otherwise. -/
def World.taken (w w' : World) (c : Nat) : List Message :=
  match w.queue c with
  | m :: rest => if w'.queue c = rest then [m] else []
  | [] => []

/-- The log after the step from `w` to `w'`: each channel's, with what the step took off it. -/
def World.log (consumed : Nat → List Message) (w w' : World) (c : Nat) : List Message :=
  consumed c ++ w.taken w' c

section Frame

variable {w w' : World}

/-- A step that only queues on channel `c` took nothing off it. -/
theorem World.taken_eq_nil {c : Nat} (h : w.queue c <+: w'.queue c) : w.taken w' c = [] := by
  unfold World.taken
  split
  · rename_i m rest hq
    refine if_neg fun he => ?_
    have hlen := h.length_le
    rw [hq, he, List.length_cons] at hlen
    omega
  · rfl

/-- A channel that lost its head message to a step took that one message. -/
theorem World.taken_pop {c : Nat} {m : Message} (h : w.queue c = m :: w'.queue c) :
    w.taken w' c = [m] := by
  simp [World.taken, h]

/-- A step that took nothing leaves the log as it is. -/
theorem World.log_of_grows {consumed : Nat → List Message} (h : ∀ c, w.queue c <+: w'.queue c) :
    World.log consumed w w' = consumed := by
  funext c; rw [World.log, World.taken_eq_nil (h c), List.append_nil]

/-- A step that took `m` off channel `c` adds it to that channel's log. -/
theorem World.log_of_pop {consumed : Nat → List Message} {c : Nat} {m : Message}
    (hq : w.queue c = m :: w'.queue c) (ho : ∀ c', c' ≠ c → w'.queue c' = w.queue c') :
    World.log consumed w w' = fun c' => consumed c' ++ if c' = c then [m] else [] := by
  funext c'
  by_cases hc : c' = c
  · subst hc; rw [World.log, World.taken_pop hq, if_pos rfl]
  · rw [World.log, World.taken_eq_nil (by rw [ho c' hc]), if_neg hc]

/-- The queues are all of the channels. -/
theorem World.queue_of_chans (h : w'.chans = w.chans) : w'.queue = w.queue := by
  funext c; simp [World.queue, h]

/-- A channel opened by `add_connection` has nothing queued. -/
theorem World.queue_of_push {r : Bool} (h : w'.chans = w.chans ++ [⟨[], r⟩]) :
    w'.queue = w.queue := by
  funext c
  rcases Nat.lt_or_ge c w.chans.length with hlt | hge
  · simp [World.queue, h, List.getElem?_append_left hlt]
  · have hle : w.chans.length ≤ c := hge
    rcases hge.eq_or_lt with heq | hgt
    · subst heq; simp [World.queue, h]
    · have hle' : (w.chans ++ [(⟨[], r⟩ : Chan)]).length ≤ c := by simp; omega
      simp [World.queue, h, List.getElem?_eq_none_iff.mpr hle, List.getElem?_eq_none_iff.mpr hle']

/-- What was written is all of the sockets. -/
theorem World.written_of_socks (h : w'.socks = w.socks) : w'.written = w.written := by
  funext c; simp [World.written, h]

/-- A receive pops the head of its channel and leaves the other channels alone. -/
theorem World.recv_queue {c : Nat} {msg : Message} (hr : w.recv c = some (msg, w')) :
    w.queue c = msg :: w'.queue c ∧ ∀ c', c' ≠ c → w'.queue c' = w.queue c' := by
  obtain ⟨rest, receiving, hch, rfl⟩ := World.recv_eq_some hr
  refine ⟨by simp [World.queue, hch, List.getElem?_set, (List.getElem?_eq_some_iff.mp hch).1],
    fun c' hc => ?_⟩
  simp [World.queue, List.getElem?_set, Ne.symm hc]

/-- A receive touches nothing but the channels. -/
theorem World.recv_frame {c : Nat} {msg : Message} (hr : w.recv c = some (msg, w')) :
    w'.written = w.written ∧ w'.socks.length = w.socks.length ∧ w'.server = w.server ∧
      w'.main = w.main ∧ w'.listener = w.listener ∧ w'.workers = w.workers := by
  obtain ⟨_, _, _, rfl⟩ := World.recv_eq_some hr
  exact ⟨rfl, rfl, rfl, rfl, rfl, rfl⟩

/-- A write keeps the workers. -/
@[simp] theorem World.write_workers (h : Nat) (bytes : List UInt8) (w : World) :
    (w.write h bytes).workers = w.workers := by
  rw [World.write_frame]

/-- A write keeps the listener. -/
@[simp] theorem World.write_listener (h : Nat) (bytes : List UInt8) (w : World) :
    (w.write h bytes).listener = w.listener := by
  rw [World.write_frame]

/-- A write keeps the channels. -/
@[simp] theorem World.write_chans (h : Nat) (bytes : List UInt8) (w : World) :
    (w.write h bytes).chans = w.chans := by
  rw [World.write_frame]

/-- A write opens no socket. -/
@[simp] theorem World.write_socks_length (h : Nat) (bytes : List UInt8) (w : World) :
    (w.write h bytes).socks.length = w.socks.length := by
  unfold World.write; split <;> simp

/-- A write keeps the queues. -/
@[simp] theorem World.write_queue (h : Nat) (bytes : List UInt8) (w : World) :
    (w.write h bytes).queue = w.queue :=
  World.queue_of_chans (World.write_chans h bytes w)

/-- A write appends its bytes to what its socket got, if that socket exists. -/
theorem World.write_written (h : Nat) (bytes : List UInt8) (w : World) (h' : Nat) :
    (w.write h bytes).written h' =
      w.written h' ++ if h' = h ∧ h < w.socks.length then [bytes] else [] := by
  unfold World.write
  split
  · rename_i s hs
    have hlt : h < w.socks.length := (List.getElem?_eq_some_iff.mp hs).1
    by_cases hh : h' = h
    · subst hh; simp [World.written, hs, hlt]
    · simp [World.written, List.getElem?_set, Ne.symm hh, hh]
  · rename_i hs
    simp [List.getElem?_eq_none_iff.mp hs |>.not_lt]

/-- Closing a socket keeps what was written to every socket. -/
@[simp] theorem World.close_written (h : Nat) (w : World) : (w.close h).written = w.written := by
  unfold World.close
  split
  · rename_i s hs
    funext h'
    by_cases hh : h' = h
    · subst hh; simp [World.written, hs, List.getElem?_set, (List.getElem?_eq_some_iff.mp hs).1]
    · simp [World.written, List.getElem?_set, Ne.symm hh]
  · rfl

/-- Closing a socket opens none. -/
@[simp] theorem World.close_socks_length (h : Nat) (w : World) :
    (w.close h).socks.length = w.socks.length := by
  unfold World.close; split <;> simp

/-- Updating the listener's local map keeps what was written. -/
@[simp] theorem World.setLocal_written (l : Listener) (m : KeyMap Conn) (w : World) :
    (w.setLocal l m).written = w.written := rfl

/-- A shutdown keeps what was written to every socket. -/
@[simp] theorem World.closeIfOpen_written (h : Nat) (w : World) :
    (w.closeIfOpen h).written = w.written := by
  unfold World.closeIfOpen; split <;> simp

/-- Stopping a worker keeps the queues. -/
theorem World.stopWorker_queue (i : Nat) (w : World) : (w.stopWorker i).queue = w.queue := by
  unfold World.stopWorker
  split
  · rename_i wk _
    funext c
    split
    · rename_i ch hch
      by_cases hc : c = wk.chan
      · subst hc
        simp only [World.queue, hch]
        simp [List.getElem?_set, (List.getElem?_eq_some_iff.mp hch).1]
      · simp [World.queue, List.getElem?_set, Ne.symm hc]
    · rfl
  · rfl

/-- Stopping a worker clears its running flag and changes nothing else. -/
theorem World.stopWorker_spec {i : Nat} {wk : Worker} (hwk : w.workers[i]? = some wk) :
    (w.stopWorker i).workers = w.workers.set i { wk with running := false } ∧
      (w.stopWorker i).socks = w.socks ∧ (w.stopWorker i).chans.length = w.chans.length ∧
      (w.stopWorker i).main = w.main ∧ (w.stopWorker i).listener = w.listener := by
  unfold World.stopWorker
  simp only [hwk, true_and, and_true]
  split <;> simp

/-! ### Steps that only queue -/

/-- A step that leaves the tasks, what the sockets hold and the main task as they are, and only
    queues messages: what `send_to_peer`, `broadcast_bytes` and `remove_connection` do. -/
structure World.Quiet (w w' : World) : Prop where
  workers : w'.workers = w.workers
  listener : w'.listener = w.listener
  main : w'.main = w.main
  written : w'.written = w.written
  socks : w'.socks.length = w.socks.length
  chans : w.chans.length ≤ w'.chans.length
  queue : ∀ c, w.queue c <+: w'.queue c
  receiving : ∀ c : Nat, w.chans[c]?.map Chan.receiving = some true →
    w'.chans[c]?.map Chan.receiving = some true

/-- A world is quiet towards itself. -/
theorem World.Quiet.refl (w : World) : w.Quiet w :=
  ⟨rfl, rfl, rfl, rfl, rfl, le_rfl, fun _ => List.prefix_refl _, fun _ => id⟩

/-- Quiet steps compose. -/
theorem World.Quiet.trans {w'' : World} (h₁ : w.Quiet w') (h₂ : w'.Quiet w'') : w.Quiet w'' :=
  ⟨h₂.workers.trans h₁.workers, h₂.listener.trans h₁.listener, h₂.main.trans h₁.main,
    h₂.written.trans h₁.written, h₂.socks.trans h₁.socks, h₁.chans.trans h₂.chans,
    fun c => (h₁.queue c).trans (h₂.queue c), fun c h => h₂.receiving c (h₁.receiving c h)⟩

/-- Changing the server's state alone is quiet. -/
theorem World.Quiet.server (w : World) (s : P2pServer) : w.Quiet { w with server := s } :=
  ⟨rfl, rfl, rfl, rfl, rfl, le_rfl, fun _ => List.prefix_refl _, fun _ => id⟩

/-- A send is quiet: it writes nothing and takes from no channel. -/
theorem World.send_quiet (c : Nat) (msg : Message) (w : World) : w.Quiet (w.send c msg).2 := by
  refine ⟨by rw [World.send_frame], by rw [World.send_frame], by rw [World.send_frame],
    World.written_of_socks (by rw [World.send_frame]), by rw [World.send_frame], ?_,
    fun c' => by rw [World.send_queue]; exact List.prefix_append _ _, fun c' hc => ?_⟩
  · unfold World.send; split <;> (try split) <;> simp
  · unfold World.send
    split
    · rename_i ch hch
      split
      · by_cases he : c' = c
        · subst he; simpa [List.getElem?_set, (List.getElem?_eq_some_iff.mp hch).1, hch] using hc
        · simpa [List.getElem?_set, Ne.symm he] using hc
      · exact hc
    · exact hc

/-- `send_to_peer` is quiet. -/
theorem World.sendToPeer_quiet (k : UInt64) (bytes : List UInt8) (w : World) :
    w.Quiet (w.sendToPeer k bytes).2 := by
  unfold World.sendToPeer; split
  · exact World.send_quiet _ _ _
  · exact .refl w

/-- `broadcast_bytes` is quiet. -/
theorem World.broadcastBytes_quiet (buf : List UInt8) (w : World) :
    w.Quiet (w.broadcastBytes buf) := by
  unfold World.broadcastBytes
  generalize w.server.connections.values = conns
  induction conns generalizing w with
  | nil => exact .refl w
  | cons c cs ih => exact (World.sendToPeer_quiet _ _ w).trans (ih _)

/-- A shutdown is quiet. -/
theorem World.closeIfOpen_quiet (h : Nat) (w : World) : w.Quiet (w.closeIfOpen h) := by
  rw [World.closeIfOpen_frame]
  exact ⟨rfl, rfl, rfl, by rw [← World.closeIfOpen_frame]; simp, by
    unfold World.closeIfOpen World.close; split <;> (try split) <;> simp,
    le_rfl, fun _ => List.prefix_refl _, fun _ => id⟩

/-- `remove_connection` is quiet. -/
theorem World.removeConnection_quiet {k : UInt64} {b : Bool}
    (h : w.removeConnection k = some (b, w')) : w.Quiet w' := by
  unfold World.removeConnection at h
  split at h
  · cases h; exact .refl w
  · rename_i conn connections _
    have h₁ : w.Quiet (({ w with server := { w.server with connections } } : World).closeIfOpen
        conn.handle) := (World.Quiet.server _ _).trans (World.closeIfOpen_quiet _ _)
    simp only [World.closeIfOpen_server] at h
    split at h
    · split at h
      · cases h; exact h₁.trans ((World.Quiet.server _ _).trans (World.send_quiet _ _ _))
      · cases h; exact h₁
    · split at h
      · cases h; exact h₁.trans (World.send_quiet _ _ _)
      · cases h

/-- One pass of `listen_connection` is quiet. -/
theorem World.listenConnection_quiet {c : Conn} {r : ReadResult}
    (h : w.listenConnection c r = some w') : w.Quiet w' := by
  unfold World.listenConnection at h
  split at h
  · obtain ⟨⟨b, _⟩, h₁, rfl⟩ := Option.map_eq_some'.mp h; exact World.removeConnection_quiet h₁
  · cases h; exact World.broadcastBytes_quiet _ _
  · cases h; exact .refl w
  · obtain ⟨⟨b, _⟩, h₁, rfl⟩ := Option.map_eq_some'.mp h; exact World.removeConnection_quiet h₁

end Frame

/-! ### A new socket -/

section Socket

variable {w : World} {cfg : Config} {parse : RString → Option SocketAddr}

/-- A socket opened by `create_connection` has nothing written on it. -/
@[simp] theorem World.written_push (w : World) (closed : Bool) :
    ({ w with socks := w.socks ++ [⟨closed, []⟩] } : World).written = w.written := by
  funext h
  rcases Nat.lt_or_ge h w.socks.length with hlt | hge
  · simp [World.written, List.getElem?_append_left hlt]
  · rcases hge.eq_or_lt with heq | hgt
    · subst heq; simp [World.written]
    · have hle : (w.socks ++ [(⟨closed, []⟩ : Sock)]).length ≤ h := by simp; omega
      simp [World.written, List.getElem?_eq_none_iff.mpr hgt.le, List.getElem?_eq_none_iff.mpr hle]

/-- `verify_handshake` opens one socket, with nothing written on it, for the connection it
    accepts; it writes on none. -/
theorem World.verifyHandshake_socks {addr : SocketAddr} {handshake : Handshake} {out : Bool} :
    (∀ c peers w', World.verifyHandshake cfg parse addr handshake out w = .ok (c, peers) w' →
      w'.written = w.written ∧ w'.socks.length = w.socks.length + 1 ∧
        c.handle = w.socks.length) ∧
    (∀ e w', World.verifyHandshake cfg parse addr handshake out w = .err e w' →
      w'.written = w.written ∧ w.socks.length ≤ w'.socks.length) := by
  unfold World.verifyHandshake
  refine ⟨fun c peers w' h => ?_, fun e w' h => ?_⟩ <;> split_ifs at h
  · split at h
    · cases h
    · simp only at h
      split at h <;> cases h
      exact ⟨by simp, by simp, rfl⟩
  · cases h; exact ⟨rfl, le_rfl⟩
  · cases h; exact ⟨rfl, le_rfl⟩
  · split at h
    · cases h
      refine ⟨by simp, ?_⟩
      unfold World.close; split <;> simp
    · simp only at h
      split at h <;> cases h

/-- `handle_new_connection` up to the registration writes on no socket, and what it leaves
    pending is a connection on the socket it opened. -/
theorem World.receiveHandshake_socks (addr : SocketAddr) (data : List UInt8) (out sent : Bool) :
    (w.receiveHandshake cfg parse addr data out sent).written = w.written ∧
      w.socks.length ≤ (w.receiveHandshake cfg parse addr data out sent).socks.length ∧
      ∀ c peers, (w.receiveHandshake cfg parse addr data out sent).main.pending = some (c, peers) →
        w.main.pending = some (c, peers) ∨
          c.handle = w.socks.length ∧
            c.handle < (w.receiveHandshake cfg parse addr data out sent).socks.length := by
  unfold World.receiveHandshake
  split
  · split
    · rename_i c peers w₁ heq
      obtain ⟨hw, hlen, hc⟩ := World.verifyHandshake_socks.1 c peers w₁ heq
      obtain ⟨hw₁, -⟩ := World.verifyHandshake_ok heq
      split
      · refine ⟨hw, show w.socks.length ≤ w₁.socks.length by omega, fun c' peers' h => .inr ?_⟩
        cases h; exact ⟨hc, show c.handle < w₁.socks.length by omega⟩
      · refine ⟨by simp [hw], by simp [hlen], fun c' peers' h => .inl ?_⟩
        rw [World.close_main, hw₁] at h; exact h
    · rename_i e w₁ heq
      obtain ⟨hw, hlen⟩ := World.verifyHandshake_socks.2 e w₁ heq
      rw [World.verifyHandshake_err heq] at hlen ⊢
      exact ⟨hw, hlen, fun _ _ h => .inl h⟩
    · exact ⟨rfl, le_rfl, fun _ _ h => .inl h⟩
  · exact ⟨rfl, le_rfl, fun _ _ h => .inl h⟩
  · exact ⟨rfl, le_rfl, fun _ _ h => .inl h⟩

end Socket

/-! ### What a step of the main task can do -/

section MainStep

variable {w w' : World} {cfg : Config} {parse : RString → Option SocketAddr}

/-- **The steps of the main task**: `handle_new_connection` up to the registration, with the
    pending connection kept; a change of the main task alone, which keeps the pending connection
    or drops it; or the registration of the pending connection. -/
theorem World.mainStep_shape {a : Action} (hn : w.mainStep cfg parse a = some w') :
    (∃ (main : MainTask) (addr : SocketAddr) (data : List UInt8) (out sent : Bool),
      w' = ({ w with main } : World).receiveHandshake cfg parse addr data out sent ∧
        main.pending = w.main.pending) ∨
    (∃ main : MainTask, w' = { w with main } ∧
      (main.pending = w.main.pending ∨ main.pending = none)) ∨
    (∃ (c : Conn) (peers : List SocketAddr) (main : MainTask), w.main.pending = some (c, peers) ∧
      main.pending = none ∧ ({ w with main } : World).registerConnection c = some w') := by
  have hsame : ∃ main : MainTask, w = { w with main } ∧
      (main.pending = w.main.pending ∨ main.pending = none) := ⟨w.main, rfl, .inl rfl⟩
  cases a <;> simp only [World.mainStep] at hn
  case dial reply =>
    split at hn
    · split at hn <;> cases hn
      · exact .inl ⟨_, _, _, _, _, rfl, rfl⟩
      · exact .inr (.inl ⟨_, rfl, .inl rfl⟩)
    · cases hn; exact .inr (.inl hsame)
  case accept addr reply sent =>
    split at hn
    · split at hn
      · cases hn; exact .inr (.inl hsame)
      · split at hn <;> cases hn
        · exact .inl ⟨w.main, _, _, _, _, rfl, rfl⟩
        · exact .inr (.inl hsame)
    · cases hn; exact .inr (.inl hsame)
  case register nonblocking =>
    split at hn
    · rename_i c peers hm
      split at hn
      · exact .inr (.inr ⟨c, peers, _, by rw [hm], rfl, hn⟩)
      · cases hn; exact .inr (.inl ⟨_, rfl, .inr rfl⟩)
    · cases hn; exact .inr (.inl hsame)
  all_goals cases hn; exact .inr (.inl hsame)

end MainStep

/-! ### What the single-threaded mode queues -/

section Single

variable {w w' : World} {c : Nat}

/-- In the single-threaded mode, `send_to_peer` queues on the one channel, whatever the peer. -/
theorem World.sendToPeer_single (hmt : w.server.multi_threaded = false)
    (hch : w.server.channels.get w.server.peer_id = some c)
    (hrecv : w.chans[c]?.map Chan.receiving = some true) (k : UInt64) (bytes : List UInt8) :
    (w.sendToPeer k bytes).2.queue c = w.queue c ++ [.SendBytes k bytes] := by
  have hget : w.server.getChannelForConnection k = some c := by
    simp [P2pServer.getChannelForConnection, hmt, hch]
  unfold World.sendToPeer
  rw [hget]
  exact (World.send_queue _ _ _ _).trans (by rw [if_pos ⟨rfl, World.send_fst hrecv⟩])

/-- In the single-threaded mode, a broadcast over some connections queues one `SendBytes` for
    each, in their order, on the listener's channel. -/
theorem World.foldl_sendToPeer_single (buf : List UInt8) :
    ∀ (conns : List Conn) (w : World), w.server.multi_threaded = false →
      w.server.channels.get w.server.peer_id = some c →
      w.chans[c]?.map Chan.receiving = some true →
      (conns.foldl (fun w connection => (w.sendToPeer connection.peer_id buf).2) w).queue c =
        w.queue c ++ conns.map fun connection => .SendBytes connection.peer_id buf
  | [], w, _, _, _ => by simp
  | conn :: conns, w, hmt, hch, hrecv => by
    have hq := World.sendToPeer_quiet conn.peer_id buf w
    rw [List.foldl_cons, World.foldl_sendToPeer_single buf conns _ (by simpa using hmt)
      (by simpa using hch) (hq.receiving c hrecv), World.sendToPeer_single hmt hch hrecv]
    simp

/-- In the single-threaded mode, `remove_connection` of a registered peer queues its
    `RemoveConnection` on the one channel. -/
theorem World.removeConnection_single (hmt : w.server.multi_threaded = false)
    (hch : w.server.channels.get w.server.peer_id = some c)
    (hrecv : w.chans[c]?.map Chan.receiving = some true) {k : UInt64} {b : Bool}
    (hr : w.removeConnection k = some (b, w')) :
    ∃ extra : List Message, (extra = [] ∨ extra = [.RemoveConnection k]) ∧
      w'.queue c = w.queue c ++ extra ∧
      w'.server = { w.server with connections := replayMap w.server.connections extra } := by
  unfold World.removeConnection at hr
  split at hr
  · cases hr; exact ⟨[], .inl rfl, by simp, rfl⟩
  · rename_i conn connections heq
    have hc : connections = (w.server.connections.remove k).2 := by rw [heq]
    subst hc
    have hchans : (({ w with server := { w.server with
        connections := (w.server.connections.remove k).2 } } : World).closeIfOpen
          conn.handle).chans = w.chans := by
      rw [World.closeIfOpen_frame]
    simp only [World.closeIfOpen_server] at hr
    split at hr
    · rename_i hm; simp [hmt] at hm
    · split at hr
      · rename_i c' hc'
        obtain rfl : c' = c := by
          simp only [P2pServer.getChannelForConnection, hmt] at hc'
          exact Option.some.inj (hc'.symm.trans hch)
        cases hr
        refine ⟨[.RemoveConnection k], .inr rfl, ?_, by simp [replayMap]⟩
        rw [World.send_queue, if_pos ⟨rfl, World.send_fst (by rw [hchans]; exact hrecv)⟩,
          World.queue_of_chans hchans]
      · cases hr

/-- In the single-threaded mode, what `listen_connection` queues on the one channel: payloads, or
    a `RemoveConnection`, and the registry follows. -/
theorem World.listenConnection_single (hmt : w.server.multi_threaded = false)
    (hch : w.server.channels.get w.server.peer_id = some c)
    (hrecv : w.chans[c]?.map Chan.receiving = some true) {conn : Conn} {r : ReadResult}
    (hl : w.listenConnection conn r = some w') :
    ∃ extra : List Message, w'.queue c = w.queue c ++ extra ∧
      w'.server = { w.server with connections := replayMap w.server.connections extra } ∧
      Message.Exit ∉ extra ∧ addedConns extra = [] := by
  have hremove : ∀ {b w''}, w.removeConnection conn.peer_id = some (b, w'') →
      ∃ extra : List Message, w''.queue c = w.queue c ++ extra ∧
        w''.server = { w.server with connections := replayMap w.server.connections extra } ∧
        Message.Exit ∉ extra ∧ addedConns extra = [] := by
    intro b w'' h₁
    obtain ⟨extra, hx, hq, hs⟩ := World.removeConnection_single hmt hch hrecv h₁
    exact ⟨extra, hq, hs, by rcases hx with rfl | rfl <;> simp, by rcases hx with rfl | rfl <;> rfl⟩
  unfold World.listenConnection at hl
  split at hl
  · obtain ⟨⟨b, _⟩, h₁, rfl⟩ := Option.map_eq_some'.mp hl; exact hremove h₁
  · rename_i bytes _
    cases hl
    have hsends : ∀ m ∈ w.server.connections.values.map fun connection =>
        Message.SendBytes connection.peer_id (bytes.take 512),
        ∃ k bytes, m = .SendBytes k bytes := by
      simp
    obtain ⟨hreg, hadd, hexit⟩ := replayMap_of_sends hsends w.server.connections
    exact ⟨_, World.foldl_sendToPeer_single _ _ w hmt hch hrecv, by simp [hreg], hexit, hadd⟩
  · cases hl; exact ⟨[], by simp, rfl, by simp, rfl⟩
  · obtain ⟨⟨b, _⟩, h₁, rfl⟩ := Option.map_eq_some'.mp hl; exact hremove h₁

/-- In the single-threaded mode, the registration queues the connection's `AddConnection` on the
    one channel, and the registry follows. -/
theorem World.registerConnection_single (hmt : w.server.multi_threaded = false)
    (hch : w.server.channels.get w.server.peer_id = some c)
    (hrecv : w.chans[c]?.map Chan.receiving = some true) {conn : Conn}
    (hreg : w.registerConnection conn = some w') :
    w.Quiet w' ∧ w'.queue c = w.queue c ++ [.AddConnection conn] ∧
      w'.server = { w.server with
        connections := replayMap w.server.connections [.AddConnection conn] } := by
  obtain ⟨⟨r, w₁⟩, h₁, h₂⟩ := Option.bind_eq_some.mp hreg
  obtain ⟨-, -, hr₁, hs₁⟩ := World.addConnection_spec h₁
  have hw₁ := World.addConnection_frame h₁
  rw [if_neg (by simp [hmt])] at hr₁ hs₁ hw₁
  subst hr₁
  have hget : w₁.server.getChannelForConnection w₁.server.peer_id = some c := by
    rw [hs₁]; simp [P2pServer.getChannelForConnection, hmt, hch]
  have hrecv₁ : w₁.chans[c]?.map Chan.receiving = some true := by rw [hw₁]; exact hrecv
  simp only [hget, World.send_fst hrecv₁, if_true] at h₂
  cases h₂
  refine ⟨(by rw [hw₁]; exact World.Quiet.server w _ : w.Quiet w₁).trans (World.send_quiet _ _ _),
    ?_, ?_⟩
  · rw [World.send_queue, if_pos ⟨rfl, World.send_fst hrecv₁⟩,
      World.queue_of_chans (by rw [hw₁] : w₁.chans = w.chans)]
  · rw [World.send_server, hs₁]; simp [replayMap, hmt]

end Single

/-! ### Runs with what each reader took -/

section Logged

variable (cfg : Config) (parse : RString → Option SocketAddr)

/-- The runs of `World.Reachable`, with, for each channel, the messages its reader has taken off
    it so far. -/
inductive World.Logged : World → (Nat → List Message) → Prop
  | start {peer_id : UInt64} {tag : Option RString} {max_peers : Nat} {multi_threaded : Bool}
      {server : P2pServer} (h : P2pServer.new peer_id tag max_peers multi_threaded = some server) :
      World.Logged (World.start cfg server) fun _ => []
  | step {w w' : World} {consumed : Nat → List Message} (a : Action) :
      World.Logged w consumed → w.next cfg parse a = some w' →
      World.Logged w' (World.log consumed w w')

/-- A logged world is reachable. -/
theorem World.Logged.reachable {w : World} {consumed : Nat → List Message}
    (h : World.Logged cfg parse w consumed) : World.Reachable cfg parse w := by
  induction h with
  | start hs => exact .start hs
  | step a _ hn ih => exact .step a ih hn

/-- Every reachable state has its log. -/
theorem World.Reachable.logged {w : World} (h : World.Reachable cfg parse w) :
    ∃ consumed, World.Logged cfg parse w consumed := by
  induction h with
  | start hs => exact ⟨_, .start hs⟩
  | step a _ hn ih => obtain ⟨consumed, hc⟩ := ih; exact ⟨_, .step a hc hn⟩

end Logged

/-! ### The mode -/

section Mode

variable {w w' : World} {cfg : Config} {parse : RString → Option SocketAddr}

/-- No step changes the mode. -/
theorem World.next_multi_threaded {a : Action} (hn : w.next cfg parse a = some w') :
    w'.server.multi_threaded = w.server.multi_threaded := by
  rcases World.next_cases hn with ⟨hs, -⟩ | ⟨k, b, hr⟩ | ⟨c, peers, w₀, -, hs₀, -, hreg⟩
  · rw [hs]
  · obtain ⟨-, hs | ⟨-, hs⟩ | ⟨-, hs⟩⟩ := World.removeConnection_cases hr <;> rw [hs]
  · obtain ⟨r, w₁, h₁, h₂⟩ := World.registerConnection_cases hreg
    obtain ⟨-, -, -, hs₁⟩ := World.addConnection_spec h₁
    rcases h₂ with ⟨hs, -⟩ | ⟨w₂, b, hs₂, -, hr₂⟩
    · rw [hs, hs₁, hs₀]
    · obtain ⟨-, hs | ⟨-, hs⟩ | ⟨-, hs⟩⟩ := World.removeConnection_cases hr₂ <;>
        rw [hs, hs₂, hs₁, hs₀]

/-- The start keeps the server's mode. -/
theorem World.start_multi_threaded (server : P2pServer) :
    (World.start cfg server).server.multi_threaded = server.multi_threaded := by
  unfold World.start; split <;> rfl

end Mode

end XelisP2p
