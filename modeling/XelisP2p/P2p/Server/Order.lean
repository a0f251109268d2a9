import XelisP2p.P2p.Server.Queue

namespace XelisP2p

/-!
# P2P — the order of the bytes sent to one connection

The task reading a channel writes what it takes to a connection: in the multi-threaded mode the
worker of the peer's connection, reading the channel `add_connection` opened for it; in the
single-threaded mode the listener, reading the one channel and keeping its own map of
connections, which the `AddConnection` and `RemoveConnection` queued on the same channel keep up
to date.  A worker stops at its first failed write; the listener drops a connection from its map
at its first failed write to it.

* `World.WorkerOrder` — the multi-threaded invariant: each worker has written to its socket the
  payloads it took, in order, and no socket is shared;
* `World.ListenerOrder` — the single-threaded invariant: the registry is the map of every message
  queued, the listener's map that of the messages it took, and each socket holds what the
  messages taken routed to it, all of it while the listener's map holds the socket;
* `World.written_in_queue_order` — so in every reachable state, what was written to a connection
  is a prefix of what was queued for it, in the order it was queued.
-/

/-! ### The multi-threaded mode: a worker for each connection -/

/-- Setting an entry to one with the same image keeps the image of the list. -/
theorem List.map_set_of_getElem? {α β : Type} {l : List α} {i : Nat} {a x : α} {f : α → β}
    (hx : l[i]? = some x) (hf : f a = f x) : (l.set i a).map f = l.map f := by
  apply List.ext_getElem?
  intro j
  simp only [List.getElem?_map, List.getElem?_set]
  split_ifs with hij hlt
  · subst hij; simp [hx, hf]
  · subst hij; simp [(List.getElem?_eq_some_iff.mp hx).1] at hlt
  · rfl

/-- An entry of a list after a `set` is the one set, or was there before at another index. -/
theorem List.getElem?_set_cases {α : Type} {l : List α} {i j : Nat} {a b : α}
    (h : (l.set i a)[j]? = some b) : i = j ∧ b = a ∨ i ≠ j ∧ l[j]? = some b := by
  rw [List.getElem?_set] at h
  split_ifs at h with hij
  · cases h; exact .inl ⟨hij, rfl⟩
  · exact .inr ⟨hij, h⟩

/-- An entry of a list with one more element is an old one or the new one. -/
theorem List.getElem?_concat_cases {α : Type} {l : List α} {j : Nat} {a b : α}
    (h : (l ++ [a])[j]? = some b) : l[j]? = some b ∨ j = l.length ∧ b = a := by
  rcases Nat.lt_or_ge j l.length with hj | hj
  · rw [List.getElem?_append_left hj] at h; exact .inl h
  · rw [List.getElem?_append_right hj] at h
    obtain ⟨hlt, he⟩ := List.getElem?_eq_some_iff.mp h
    simp only [List.length_singleton] at hlt
    have h0 : j - l.length = 0 := by omega
    simp only [h0, List.getElem_cons_zero] at he
    exact .inr ⟨by omega, he.symm⟩

/-- What the workers have written, in the multi-threaded mode.  Each worker has written to its
    socket the payloads of the `SendBytes` it took off its channel, in order: all of them while it
    runs, a prefix of them once it has stopped; and each `SendBytes` it took is for its peer.  No
    two workers share a socket or a channel, no socket that no worker serves was written to, and
    no channel not opened yet was read.  The connection waiting for registration has a socket of
    its own, and there is no listener. -/
structure World.WorkerOrder (consumed : Nat → List Message) (w : World) : Prop where
  written : ∀ (j : Nat) (wk : Worker), w.workers[j]? = some wk →
    w.written wk.conn.handle <+: sendPayloads (consumed wk.chan) ∧
      (wk.running = true → w.written wk.conn.handle = sendPayloads (consumed wk.chan))
  peer : ∀ wk ∈ w.workers, ∀ k bytes, Message.SendBytes k bytes ∈ consumed wk.chan →
    wk.conn.peer_id = k
  distinct : ∀ (i j : Nat) (wi wj : Worker), w.workers[i]? = some wi →
    w.workers[j]? = some wj → wi.conn.handle = wj.conn.handle ∨ wi.chan = wj.chan → i = j
  handle_lt : ∀ wk ∈ w.workers, wk.conn.handle < w.socks.length
  unserved : ∀ h : Nat, h ∉ w.workers.map (fun wk => wk.conn.handle) → w.written h = []
  fresh : ∀ c : Nat, w.chans.length ≤ c → consumed c = []
  pending : ∀ (c : Conn) (peers : List SocketAddr), w.main.pending = some (c, peers) →
    c.handle < w.socks.length ∧ c.handle ∉ w.workers.map (fun wk => wk.conn.handle)
  no_listener : w.listener = none

section Workers

variable {w w' : World} {consumed : Nat → List Message} {cfg : Config}
  {parse : RString → Option SocketAddr}

/-- A quiet step keeps the workers' order. -/
theorem World.WorkerOrder.quiet (h : w.WorkerOrder consumed) (hq : w.Quiet w') :
    w'.WorkerOrder consumed where
  written := by rw [hq.workers, hq.written]; exact h.written
  peer := by rw [hq.workers]; exact h.peer
  distinct := by rw [hq.workers]; exact h.distinct
  handle_lt := by rw [hq.workers, hq.socks]; exact h.handle_lt
  unserved := by rw [hq.workers, hq.written]; exact h.unserved
  fresh c hc := h.fresh c (hq.chans.trans hc)
  pending := by rw [hq.workers, hq.socks, hq.main]; exact h.pending
  no_listener := hq.listener.trans h.no_listener

/-- The main task is not what the workers' order is about, but the pending connection it
    waits on. -/
theorem World.WorkerOrder.setMain (h : w.WorkerOrder consumed) (main : MainTask)
    (hp : ∀ c peers, main.pending = some (c, peers) → w.main.pending = some (c, peers)) :
    ({ w with main } : World).WorkerOrder consumed :=
  ⟨h.written, h.peer, h.distinct, h.handle_lt, h.unserved, h.fresh,
    fun c peers hc => h.pending c peers (hp c peers hc), h.no_listener⟩

/-- Receiving a handshake keeps the workers' order. -/
theorem World.WorkerOrder.receiveHandshake (h : w.WorkerOrder consumed) (addr : SocketAddr)
    (data : List UInt8) (out sent : Bool) :
    (w.receiveHandshake cfg parse addr data out sent).WorkerOrder consumed := by
  obtain ⟨hwr, hlen, hp⟩ := @World.receiveHandshake_socks w cfg parse addr data out sent
  obtain ⟨socks, main, he⟩ := @World.receiveHandshake_frame w cfg parse addr data out sent
  rw [he] at hwr hlen hp ⊢
  refine ⟨by rw [hwr]; exact h.written, h.peer, h.distinct,
    fun wk hwk => (h.handle_lt wk hwk).trans_le hlen, by rw [hwr]; exact h.unserved, h.fresh,
    fun c peers hc => ?_, h.no_listener⟩
  rcases hp c peers hc with hc | ⟨hc, hlt⟩
  · exact ⟨(h.pending c peers hc).1.trans_le hlen, (h.pending c peers hc).2⟩
  · refine ⟨hlt, fun hm => ?_⟩
    obtain ⟨wk, hwk, he⟩ := List.mem_map.mp hm
    exact absurd (h.handle_lt wk hwk) (by omega)

/-- The one worker reading a channel. -/
theorem World.WorkerOrder.eq_of_chan (h : w.WorkerOrder consumed) {i : Nat} {wk wj : Worker}
    (hwk : w.workers[i]? = some wk) (hwj : wj ∈ w.workers) (hc : wj.chan = wk.chan) :
    wj = wk := by
  obtain ⟨n, hn⟩ := List.mem_iff_getElem?.mp hwj
  obtain rfl := h.distinct i n wk wj hwk hn (.inr hc.symm)
  exact Option.some.inj (hn.symm.trans hwk)

/-- A worker stops, having taken `extra` off its channel. -/
theorem World.WorkerOrder.stop (h : w.WorkerOrder consumed) {i : Nat} {wk : Worker}
    (hwk : w.workers[i]? = some wk) (hchan : wk.chan < w.chans.length) (extra : List Message)
    (hextra : ∀ k bytes, Message.SendBytes k bytes ∈ extra → wk.conn.peer_id = k)
    (hw : w'.workers = w.workers.set i { wk with running := false })
    (hwr : w'.written = w.written) (hs : w'.socks.length = w.socks.length)
    (hc : w'.chans.length = w.chans.length) (hm : w'.main = w.main)
    (hl : w'.listener = w.listener) :
    w'.WorkerOrder fun c => consumed c ++ if c = wk.chan then extra else [] := by
  have hmem : ∀ wk' ∈ w'.workers, wk' ∈ w.workers ∨ wk' = { wk with running := false } := by
    rw [hw]; exact fun _ h' => List.mem_or_eq_of_mem_set h'
  have hold : ∀ (j : Nat) (wj : Worker), w'.workers[j]? = some wj → ∃ wj₀ : Worker,
      w.workers[j]? = some wj₀ ∧ wj₀.conn = wj.conn ∧ wj₀.chan = wj.chan := by
    intro j wj hj
    rw [hw] at hj
    rcases List.getElem?_set_cases hj with ⟨rfl, rfl⟩ | ⟨-, hj⟩
    · exact ⟨wk, hwk, rfl, rfl⟩
    · exact ⟨wj, hj, rfl, rfl⟩
  have hmap : w'.workers.map (fun wk => wk.conn.handle) =
      w.workers.map (fun wk => wk.conn.handle) := by
    rw [hw]; exact List.map_set_of_getElem? hwk rfl
  refine ⟨fun j wj hj => ?_, fun wj hwj k bytes hk => ?_, fun i' j' wi wj hi hj he => ?_,
    fun wj hwj => ?_, by rw [hmap, hwr]; exact h.unserved, fun c hc' => ?_,
    by rw [hm, hs, hmap]; exact h.pending, hl.trans h.no_listener⟩
  · rw [hw] at hj
    rcases List.getElem?_set_cases hj with ⟨rfl, rfl⟩ | ⟨hij, hj⟩
    · refine ⟨?_, fun hr => by cases hr⟩
      rw [hwr, if_pos rfl]
      exact (h.written _ _ hwk).1.trans (by simp)
    · rw [hwr, if_neg fun he => hij (h.distinct i j wk wj hwk hj (.inr he.symm)),
        List.append_nil]
      exact h.written j wj hj
  · have hpeer : ∀ wj ∈ w.workers, wj.chan = wk.chan →
        Message.SendBytes k bytes ∈ consumed wk.chan ++ extra → wj.conn.peer_id = k := by
      intro wj hwj hc hk
      obtain rfl := h.eq_of_chan hwk hwj hc
      rcases List.mem_append.mp hk with hk | hk
      · exact h.peer wj hwj k bytes hk
      · exact hextra k bytes hk
    rcases hmem wj hwj with hwj | rfl
    · split_ifs at hk with hc
      · exact hpeer wj hwj hc (hc ▸ hk)
      · exact h.peer wj hwj k bytes (by simpa using hk)
    · exact hpeer wk (List.getElem?_mem hwk) rfl (by simpa using hk)
  · obtain ⟨wi₀, hi₀, hci, hchi⟩ := hold i' wi hi
    obtain ⟨wj₀, hj₀, hcj, hchj⟩ := hold j' wj hj
    exact h.distinct i' j' wi₀ wj₀ hi₀ hj₀ (by rw [hci, hchi, hcj, hchj]; exact he)
  · rw [hs]
    rcases hmem wj hwj with hwj | rfl
    · exact h.handle_lt wj hwj
    · exact h.handle_lt wk (List.getElem?_mem hwk)
  · rw [hc] at hc'
    rw [h.fresh c hc', if_neg (by omega), List.append_nil]

/-- A running worker writes the payload of the `SendBytes(k, bytes)` it took off its channel. -/
theorem World.WorkerOrder.write (h : w.WorkerOrder consumed) {i : Nat} {wk : Worker}
    (hwk : w.workers[i]? = some wk) (hchan : wk.chan < w.chans.length) (hrun : wk.running = true)
    {k : UInt64} {bytes : List UInt8}
    (hpeer : ∀ wj ∈ w.workers, wj.chan = wk.chan → wj.conn.peer_id = k)
    (hw : w'.workers = w.workers)
    (hwr : ∀ h', w'.written h' = w.written h' ++ if h' = wk.conn.handle then [bytes] else [])
    (hs : w'.socks.length = w.socks.length) (hc : w'.chans.length = w.chans.length)
    (hm : w'.main = w.main) (hl : w'.listener = w.listener) :
    w'.WorkerOrder fun c => consumed c ++ if c = wk.chan then [.SendBytes k bytes] else [] := by
  refine ⟨fun j wj hj => ?_, fun wj hwj k' b hk => ?_, by rw [hw]; exact h.distinct,
    by rw [hw, hs]; exact h.handle_lt, fun h' hh => ?_, fun c hc' => ?_,
    by rw [hm, hs, hw]; exact h.pending, hl.trans h.no_listener⟩
  · rw [hw] at hj
    by_cases hij : i = j
    · subst hij
      obtain rfl := Option.some.inj (hj.symm.trans hwk)
      have he : w'.written wj.conn.handle =
          sendPayloads (consumed wj.chan ++ [.SendBytes k bytes]) := by
        rw [hwr, if_pos rfl, (h.written i wj hwk).2 hrun]; simp [sendPayloads]
      rw [if_pos rfl, he]
      exact ⟨List.prefix_refl _, fun _ => rfl⟩
    · rw [hwr, if_neg fun he => hij (h.distinct i j wk wj hwk hj (.inl he.symm)),
        if_neg fun he => hij (h.distinct i j wk wj hwk hj (.inr he.symm)), List.append_nil,
        List.append_nil]
      exact h.written j wj hj
  · rw [hw] at hwj
    split_ifs at hk with hc
    · rcases List.mem_append.mp hk with hk | hk
      · exact h.peer wj hwj k' b hk
      · obtain ⟨rfl, -⟩ := Message.SendBytes.inj (List.mem_singleton.mp hk)
        exact hpeer wj hwj hc
    · exact h.peer wj hwj k' b (by simpa using hk)
  · rw [hw] at hh
    have hne : h' ≠ wk.conn.handle := fun he =>
      hh (List.mem_map.mpr ⟨wk, List.getElem?_mem hwk, he.symm⟩)
    rw [hwr, if_neg hne, List.append_nil]
    exact h.unserved h' hh
  · rw [hc] at hc'
    rw [h.fresh c hc', if_neg (by omega), List.append_nil]

/-- The multi-threaded registration: a new channel, and a new worker on it for the connection. -/
theorem World.WorkerOrder.registerConnection (h : w.WorkerOrder consumed) (hr : w.Routed)
    (hmt : w.server.multi_threaded = true) {c : Conn} (hp : w.main.pending = none)
    (hc : c.handle < w.socks.length ∧ c.handle ∉ w.workers.map (fun wk => wk.conn.handle))
    (hreg : w.registerConnection c = some w') :
    w'.WorkerOrder consumed ∧ ∀ c', w.queue c' <+: w'.queue c' := by
  obtain ⟨⟨r, w₁⟩, h₁, h₂⟩ := Option.bind_eq_some.mp hreg
  obtain ⟨-, -, hr₁, -⟩ := World.addConnection_spec h₁
  have hw₁ := World.addConnection_frame h₁
  rw [if_pos hmt] at hr₁ hw₁
  subst hr₁
  cases h₂
  have hchans : w₁.chans = w.chans ++ [⟨[], true⟩] := by rw [hw₁]
  have hq : ({ w₁ with workers := w₁.workers ++ [⟨c, w.chans.length, true⟩] } :
      World).queue = w.queue := World.queue_of_push hchans
  rw [hq, hw₁]
  have hnew : ∀ (j : Nat) (wj : Worker),
      (w.workers ++ [⟨c, w.chans.length, true⟩])[j]? = some wj →
      w.workers[j]? = some wj ∨ j = w.workers.length ∧ wj = ⟨c, w.chans.length, true⟩ :=
    fun _ _ hj => List.getElem?_concat_cases hj
  have hlt : ∀ (j : Nat) (wj : Worker), w.workers[j]? = some wj →
      wj.conn.handle ≠ c.handle ∧ wj.chan ≠ w.chans.length := fun j wj hj =>
    ⟨fun he => hc.2 (List.mem_map.mpr ⟨wj, List.getElem?_mem hj, he⟩),
      (hr.worker_chan wj (List.getElem?_mem hj)).ne⟩
  refine ⟨⟨fun j wj hj => ?_, fun wj hwj k bytes hk => ?_, fun i j wi wj hi hj he => ?_,
    fun wj hwj => ?_, fun h' hh => ?_, fun c' hc' => h.fresh c' (by simp at hc'; omega),
    fun _ _ hp' => by simp [hp] at hp', h.no_listener⟩, fun c' => ?_⟩
  · rcases hnew j wj hj with hj | ⟨-, rfl⟩
    · exact h.written j wj hj
    · have hnil : consumed w.chans.length = [] := h.fresh _ le_rfl
      have hw : w.written c.handle = [] := h.unserved _ hc.2
      simp only [World.written] at hw ⊢
      simp [hnil, sendPayloads, hw]
  · simp only [List.mem_append, List.mem_singleton] at hwj
    rcases hwj with hwj | rfl
    · exact h.peer wj hwj k bytes hk
    · simp [h.fresh _ le_rfl] at hk
  · rcases hnew i wi hi with hi | ⟨hi', rfl⟩ <;> rcases hnew j wj hj with hj | ⟨hj', rfl⟩
    · exact h.distinct i j wi wj hi hj he
    · exact he.elim (absurd · (hlt i wi hi).1) (absurd · (hlt i wi hi).2)
    · exact he.elim (absurd ·.symm (hlt j wj hj).1) (absurd ·.symm (hlt j wj hj).2)
    · rw [hi', hj']
  · simp only [List.mem_append, List.mem_singleton] at hwj
    rcases hwj with hwj | rfl
    · exact h.handle_lt wj hwj
    · exact hc.1
  · simp only [List.map_append, List.mem_append, not_or] at hh
    exact h.unserved h' hh.1
  · exact List.prefix_refl _

/-- A step that took nothing off any channel. -/
theorem World.WorkerOrder.grows (h : w'.WorkerOrder consumed)
    (hq : ∀ c, w.queue c <+: w'.queue c) : w'.WorkerOrder (World.log consumed w w') := by
  rw [World.log_of_grows hq]; exact h

/-- Each step of the main task keeps the workers' order. -/
theorem World.WorkerOrder.mainStep (h : w.WorkerOrder consumed) (hr : w.Routed)
    (hmt : w.server.multi_threaded = true) {a : Action} (hn : w.mainStep cfg parse a = some w') :
    w'.WorkerOrder (World.log consumed w w') := by
  rcases World.mainStep_shape hn with
    ⟨main, addr, data, out, sent, rfl, hp⟩ | ⟨main, rfl, hp⟩ | ⟨c, peers, main, hp, hp', hreg⟩
  · obtain ⟨socks, main', he⟩ := @World.receiveHandshake_frame { w with main } cfg parse
      addr data out sent
    refine ((h.setMain main fun _ _ hc => hp ▸ hc).receiveHandshake addr data out sent).grows ?_
    rw [he]; exact fun _ => List.prefix_refl _
  · refine (h.setMain main fun c peers hc => ?_).grows fun _ => List.prefix_refl _
    rcases hp with hp | hp <;> rw [hp] at hc
    exacts [hc, nomatch hc]
  · have h₀ := h.setMain main fun _ _ hc => by rw [hp'] at hc; cases hc
    obtain ⟨h', hq⟩ := h₀.registerConnection (hr.frame w.socks main) hmt hp' (h.pending c peers hp)
      hreg
    exact h'.grows hq

/-- Each step of a running worker keeps the workers' order. -/
theorem World.WorkerOrder.workerStep (h : w.WorkerOrder consumed) (hr : w.Routed) {i : Nat}
    {wk : Worker} (hwk : w.workers[i]? = some wk) (hrun : wk.running = true) {a : Action}
    (hn : w.workerStep i wk a = some w') : w'.WorkerOrder (World.log consumed w w') := by
  have hchan := hr.worker_chan wk (List.getElem?_mem hwk)
  /- the message a worker takes off its channel is for its peer -/
  have hpeer : ∀ {m w₁}, w.recv wk.chan = some (m, w₁) → ∀ k bytes,
      m = .SendBytes k bytes → ∀ wj ∈ w.workers, wj.chan = wk.chan → wj.conn.peer_id = k := by
    intro m w₁ hrecv k bytes hm wj hwj hc
    obtain ⟨rest, receiving, hch, -⟩ := World.recv_eq_some hrecv
    exact hr.queued_peer wk.chan _ hch k bytes (hm ▸ List.mem_cons_self _ _) wj hwj hc
  /- a worker that stops after taking `m` -/
  have hstop : ∀ {m w₁}, w.recv wk.chan = some (m, w₁) →
      (w₁.stopWorker i).WorkerOrder (World.log consumed w (w₁.stopWorker i)) := by
    intro m w₁ hrecv
    obtain ⟨hpop, hother⟩ := World.recv_queue hrecv
    have hp := hpeer hrecv
    obtain ⟨rest, receiving, -, rfl⟩ := World.recv_eq_some hrecv
    obtain ⟨hw, hs, hc, hm, hl⟩ := World.stopWorker_spec
      (w := { w with chans := w.chans.set wk.chan ⟨rest, receiving⟩ }) (i := i) hwk
    rw [World.log_of_pop (by rw [World.stopWorker_queue]; exact hpop)
      (by rw [World.stopWorker_queue]; exact hother)]
    exact h.stop hwk hchan [m] (fun k bytes hk =>
        hp k bytes (List.mem_singleton.mp hk).symm wk (List.getElem?_mem hwk) rfl) hw
      (World.written_of_socks hs) (by rw [hs]) (by rw [hc]; simp) hm hl
  unfold World.workerStep at hn
  split at hn
  · split at hn
    · rename_i k bytes w₁ hrecv
      split at hn <;> cases hn
      · obtain ⟨hpop, hother⟩ := World.recv_queue hrecv
        have hp := hpeer hrecv k bytes rfl
        obtain ⟨rest, receiving, -, rfl⟩ := World.recv_eq_some hrecv
        rw [World.log_of_pop (by rw [World.write_queue]; exact hpop)
          (by rw [World.write_queue]; exact hother)]
        refine h.write hwk hchan hrun hp (World.write_workers _ _ _) (fun h' => ?_)
          (World.write_socks_length _ _ _) (by simp) (World.write_main _ _ _)
          (World.write_listener _ _ _)
        rw [World.write_written]
        simp only [and_iff_left (h.handle_lt wk (List.getElem?_mem hwk))]
        rfl
      · exact hstop hrecv
    · cases hn; exact hstop ‹_›
    · cases hn; exact h.grows fun _ => List.prefix_refl _
  · have hq := World.listenConnection_quiet hn
    exact (h.quiet hq).grows hq.queue
  · split at hn <;> cases hn
    · obtain ⟨hw, hs, hc, hm, hl⟩ := World.stopWorker_spec hwk
      have h' : (w.stopWorker i).WorkerOrder consumed := by
        simpa using h.stop hwk hchan [] (by simp) hw (World.written_of_socks hs) (by rw [hs]) hc
          hm hl
      refine h'.grows ?_
      rw [World.stopWorker_queue]; exact fun _ => List.prefix_refl _
    · exact h.grows fun _ => List.prefix_refl _
  · cases hn; exact h.grows fun _ => List.prefix_refl _

/-- **One step keeps what the workers wrote in order.** -/
theorem World.WorkerOrder.next (h : w.WorkerOrder consumed) (hr : w.Routed)
    (hmt : w.server.multi_threaded = true) {a : Action} (hn : w.next cfg parse a = some w') :
    w'.WorkerOrder (World.log consumed w w') := by
  have hstay : w.WorkerOrder (World.log consumed w w) := h.grows fun _ => List.prefix_refl _
  unfold World.next at hn
  split at hn
  · rename_i k bytes
    cases hn
    have hq := World.sendToPeer_quiet k bytes w
    exact (h.quiet hq).grows hq.queue
  · rename_i bytes
    cases hn
    have hq := World.broadcastBytes_quiet bytes w
    exact (h.quiet hq).grows hq.queue
  all_goals first
    | exact h.mainStep hr hmt hn
    | split at hn
      · split at hn
        · first
            | exact h.workerStep hr ‹_› ‹_› hn
            | rw [h.no_listener] at *; contradiction
        · cases hn; exact hstay
      · cases hn; exact hstay

end Workers

/-! ### The single-threaded mode: one listener -/

/-- What the listener has written, in the single-threaded mode.  Of the messages queued on its
    channel so far, it has taken `consumed l.chan`, and the rest are still queued.  It runs, its
    channel is the one `get_channel_for_connection` finds under the server's own id and takes
    messages, and no `Exit` is queued.  The registry is the map that every message queued so far
    builds, and the listener's own map holds only what the messages it took built.  No two
    connections queued for adding share a socket, and each has one.  Every socket holds a prefix
    of what the messages taken routed to it, all of it for a socket the listener's map holds; the
    connection waiting for registration has a socket of its own. -/
structure World.ListenerOrder (consumed : Nat → List Message) (w : World) (l : Listener) :
    Prop where
  running : l.running = true
  chan : w.server.channels.get w.server.peer_id = some l.chan
  receiving : w.chans[l.chan]?.map Chan.receiving = some true
  no_exit : Message.Exit ∉ w.queue l.chan
  registry : w.server.connections = replayMap KeyMap.empty (consumed l.chan ++ w.queue l.chan)
  local_sub : ∀ (k : UInt64) (conn : Conn), l.connections.get k = some conn →
    (replayMap KeyMap.empty (consumed l.chan)).get k = some conn
  added_nodup : ((addedConns (consumed l.chan ++ w.queue l.chan)).map Conn.handle).Nodup
  added_lt : ∀ c ∈ addedConns (consumed l.chan ++ w.queue l.chan), c.handle < w.socks.length
  written : ∀ h : Nat, w.written h <+: route KeyMap.empty h (consumed l.chan)
  served : ∀ (k : UInt64) (conn : Conn), l.connections.get k = some conn →
    w.written conn.handle = route KeyMap.empty conn.handle (consumed l.chan)
  pending : ∀ (c : Conn) (peers : List SocketAddr), w.main.pending = some (c, peers) →
    c.handle < w.socks.length ∧
      c.handle ∉ (addedConns (consumed l.chan ++ w.queue l.chan)).map Conn.handle

section Listener

variable {w w' : World} {consumed : Nat → List Message} {l : Listener} {cfg : Config}
  {parse : RString → Option SocketAddr}

/-- A step that queues `extra` on the listener's channel and keeps the registry the map of what is
    queued: payloads and removals, or the pending connection's `AddConnection`. -/
theorem World.ListenerOrder.enqueue (h : w.ListenerOrder consumed l) (hq : w.Quiet w')
    {extra : List Message} (hl : w'.queue l.chan = w.queue l.chan ++ extra)
    (hreg : w'.server.connections = replayMap w.server.connections extra)
    (hch : w'.server.channels = w.server.channels) (hpeer : w'.server.peer_id = w.server.peer_id)
    (hexit : Message.Exit ∉ extra)
    (hadd : ∀ c ∈ addedConns extra, extra = [.AddConnection c] ∧ w.main.pending = none ∧
      c.handle < w.socks.length ∧
        c.handle ∉ (addedConns (consumed l.chan ++ w.queue l.chan)).map Conn.handle) :
    w'.ListenerOrder consumed l := by
  have hhist : consumed l.chan ++ w'.queue l.chan =
      consumed l.chan ++ w.queue l.chan ++ extra := by
    rw [hl, List.append_assoc]
  have hadded :
      ((addedConns (consumed l.chan ++ w.queue l.chan ++ extra)).map Conn.handle).Nodup ∧
      (∀ c ∈ addedConns (consumed l.chan ++ w.queue l.chan ++ extra),
        c.handle < w.socks.length) ∧
      ∀ c peers, w.main.pending = some (c, peers) →
        c.handle ∉ (addedConns (consumed l.chan ++ w.queue l.chan ++ extra)).map Conn.handle := by
    rw [addedConns_append (consumed l.chan ++ w.queue l.chan) extra]
    cases hx : addedConns extra with
    | nil =>
      rw [List.append_nil]
      exact ⟨h.added_nodup, h.added_lt, fun c peers hc => (h.pending c peers hc).2⟩
    | cons c cs =>
      obtain ⟨rfl, hp, hlt, hn⟩ := hadd c (by simp [hx])
      obtain rfl : cs = [] := (List.cons.inj hx.symm).2
      refine ⟨?_, fun c' hc' => ?_, fun _ _ hc => by rw [hp] at hc; cases hc⟩
      · rw [List.map_append]
        exact List.nodup_append.mpr ⟨h.added_nodup, List.nodup_singleton _,
          List.disjoint_singleton.mpr hn⟩
      · rcases List.mem_append.mp hc' with hc' | hc'
        · exact h.added_lt c' hc'
        · rw [List.mem_singleton.mp hc']; exact hlt
  refine ⟨h.running, by rw [hch, hpeer]; exact h.chan, hq.receiving _ h.receiving, ?_, ?_,
    h.local_sub, by rw [hhist]; exact hadded.1, ?_, by rw [hq.written]; exact h.written,
    by rw [hq.written]; exact h.served, fun c peers hc => ?_⟩
  · rw [hl]; simp [h.no_exit, hexit]
  · rw [hreg, hhist, replayMap_append, h.registry]
  · rw [hhist, hq.socks]; exact hadded.2.1
  · rw [hq.main] at hc
    rw [hq.socks, hhist]
    exact ⟨(h.pending c peers hc).1, hadded.2.2 c peers hc⟩

/-- A step that queues only payloads on the listener's channel and leaves the server as it is:
    a call of `send_to_peer` or `broadcast_bytes`. -/
theorem World.ListenerOrder.sends (h : w.ListenerOrder consumed l) (hq : w.Quiet w')
    {extra : List Message} (hl : w'.queue l.chan = w.queue l.chan ++ extra)
    (hs : ∀ m ∈ extra, ∃ k bytes, m = .SendBytes k bytes) (hserver : w'.server = w.server) :
    w'.ListenerOrder consumed l := by
  obtain ⟨hreg, hadd, hexit⟩ := replayMap_of_sends hs w.server.connections
  exact h.enqueue hq hl (by rw [hserver, hreg]) (by rw [hserver]) (by rw [hserver]) hexit
    (by simp [hadd])

/-- The main task is not what the listener's order is about, but the pending connection it
    waits on. -/
theorem World.ListenerOrder.setMain (h : w.ListenerOrder consumed l) (main : MainTask)
    (hp : ∀ c peers, main.pending = some (c, peers) → w.main.pending = some (c, peers)) :
    ({ w with main } : World).ListenerOrder consumed l :=
  ⟨h.running, h.chan, h.receiving, h.no_exit, h.registry, h.local_sub, h.added_nodup,
    h.added_lt, h.written, h.served, fun c peers hc => h.pending c peers (hp c peers hc)⟩

/-- Receiving a handshake keeps the listener's order. -/
theorem World.ListenerOrder.receiveHandshake (h : w.ListenerOrder consumed l) (addr : SocketAddr)
    (data : List UInt8) (out sent : Bool) :
    (w.receiveHandshake cfg parse addr data out sent).ListenerOrder consumed l := by
  obtain ⟨hwr, hlen, hp⟩ := @World.receiveHandshake_socks w cfg parse addr data out sent
  obtain ⟨socks, main, he⟩ := @World.receiveHandshake_frame w cfg parse addr data out sent
  rw [he] at hwr hlen hp ⊢
  refine ⟨h.running, h.chan, h.receiving, h.no_exit, h.registry, h.local_sub, h.added_nodup,
    fun c hc => (h.added_lt c hc).trans_le hlen, by rw [hwr]; exact h.written,
    by rw [hwr]; exact h.served, fun c peers hc => ?_⟩
  rcases hp c peers hc with hc | ⟨hc, hlt⟩
  · exact ⟨(h.pending c peers hc).1.trans_le hlen, (h.pending c peers hc).2⟩
  · refine ⟨hlt, fun hm => ?_⟩
    obtain ⟨c', hc', he⟩ := List.mem_map.mp hm
    exact absurd (h.added_lt c' hc') (by omega)

/-- No two connections the listener took for adding share a socket. -/
theorem World.ListenerOrder.nodup_taken (h : w.ListenerOrder consumed l) :
    ((addedConns (consumed l.chan)).map Conn.handle).Nodup := by
  have hnd := h.added_nodup
  rw [addedConns_append, List.map_append] at hnd
  exact (List.nodup_append.mp hnd).1

/-- A connection of the listener's map has its socket. -/
theorem World.ListenerOrder.handle_lt (h : w.ListenerOrder consumed l) {k : UInt64} {conn : Conn}
    (hk : l.connections.get k = some conn) : conn.handle < w.socks.length := by
  obtain ⟨hc, -⟩ := (replayMap_get _ (h.local_sub k conn hk)).resolve_left (by simp)
  exact h.added_lt conn (by rw [addedConns_append]; exact List.mem_append_left _ hc)

/-- The listener takes `m` off its channel; what it does with it is in the hypotheses on its map
    and on the sockets. -/
theorem World.ListenerOrder.take (h : w.ListenerOrder consumed l) {m : Message} {w₁ : World}
    (hrecv : w.recv l.chan = some (m, w₁)) {l' : Listener} (hchan : l'.chan = l.chan)
    (hrun : l'.running = true) (hw : w'.chans = w₁.chans) (hs : w'.server = w₁.server)
    (hm : w'.main = w₁.main) (hlen : w'.socks.length = w₁.socks.length)
    (hlocal : ∀ k conn, l'.connections.get k = some conn →
      (replayMap KeyMap.empty (consumed l.chan ++ [m])).get k = some conn)
    (hwritten : ∀ h, w'.written h <+: route KeyMap.empty h (consumed l.chan ++ [m]))
    (hserved : ∀ k conn, l'.connections.get k = some conn →
      w'.written conn.handle = route KeyMap.empty conn.handle (consumed l.chan ++ [m])) :
    w'.ListenerOrder (World.log consumed w w') l' := by
  obtain ⟨hpop, hother⟩ := World.recv_queue hrecv
  have hq : w'.queue = w₁.queue := World.queue_of_chans hw
  rw [World.log_of_pop (by rw [hq]; exact hpop) (by rw [hq]; exact hother)]
  obtain ⟨rest, receiving, hch, rfl⟩ := World.recv_eq_some hrecv
  obtain ⟨chan, conns, running⟩ := l'
  obtain rfl : chan = l.chan := hchan
  have hcons : (consumed l.chan ++ if l.chan = l.chan then [m] else []) =
      consumed l.chan ++ [m] := by
    rw [if_pos rfl]
  have hhist : consumed l.chan ++ [m] ++ w'.queue l.chan =
      consumed l.chan ++ w.queue l.chan := by
    rw [hq, List.append_assoc, List.singleton_append, ← hpop]
  have hrecv' : receiving = true := by simpa [hch] using h.receiving
  refine ⟨hrun, by rw [hs]; exact h.chan, ?_, fun he => h.no_exit ?_, ?_,
    by rw [hcons]; exact hlocal, by rw [hcons, hhist]; exact h.added_nodup,
    by rw [hcons, hhist, hlen]; exact h.added_lt,
    by rw [hcons]; exact hwritten, by rw [hcons]; exact hserved, fun c peers hc => ?_⟩
  · rw [hw]; simp [List.getElem?_set, (List.getElem?_eq_some_iff.mp hch).1, hrecv']
  · rw [hpop]; exact List.mem_cons_of_mem _ (by rw [← hq]; exact he)
  · rw [hs, hcons, hhist]; exact h.registry
  · rw [hm] at hc
    rw [hcons, hhist, hlen]; exact h.pending c peers hc

/-- The listener taking `AddConnection` keeps its order. -/
theorem World.ListenerOrder.takeAdd (h : w.ListenerOrder consumed l) {c : Conn} {w₁ : World}
    (hrecv : w.recv l.chan = some (.AddConnection c, w₁)) :
    (w₁.setLocal l (l.connections.insert c.peer_id c).2).ListenerOrder
      (World.log consumed w (w₁.setLocal l (l.connections.insert c.peer_id c).2))
      { l with connections := (l.connections.insert c.peer_id c).2 } := by
  obtain ⟨rest, receiving, hch, rfl⟩ := World.recv_eq_some hrecv
  /- the connection added has a socket nothing was routed to yet -/
  have hfresh : c.handle ∉ (addedConns (consumed l.chan)).map Conn.handle := by
    have hnd := h.added_nodup
    simp only [World.queue, hch, Option.map_some', Option.getD_some, addedConns_append] at hnd
    rw [show addedConns (.AddConnection c :: rest) = c :: addedConns rest from rfl,
      List.map_append, List.map_cons] at hnd
    exact fun hm => List.disjoint_of_nodup_append hnd hm (List.mem_cons_self _ _)
  have hnil : route KeyMap.empty c.handle (consumed l.chan) = [] :=
    route_eq_nil _ (by simp) hfresh
  refine h.take hrecv rfl h.running rfl rfl rfl rfl (fun k conn hk => ?_) (fun h' => ?_)
    (fun k conn hk => ?_)
  · rw [replayMap_append]
    simp only [replayMap, KeyMap.get_insert] at hk ⊢
    split_ifs at hk ⊢
    · exact hk
    · exact h.local_sub k conn hk
  · rw [route_append]; simpa [route] using h.written h'
  · rw [route_append]
    simp only [route, List.append_nil]
    rw [KeyMap.get_insert] at hk
    split_ifs at hk
    · cases hk
      rw [hnil]
      exact List.prefix_nil.mp (hnil ▸ h.written c.handle)
    · exact h.served k conn hk

/-- The listener taking `RemoveConnection` keeps its order. -/
theorem World.ListenerOrder.takeRemove (h : w.ListenerOrder consumed l) {k : UInt64} {w₁ : World}
    (hrecv : w.recv l.chan = some (.RemoveConnection k, w₁)) :
    (w₁.setLocal l (l.connections.remove k).2).ListenerOrder
      (World.log consumed w (w₁.setLocal l (l.connections.remove k).2))
      { l with connections := (l.connections.remove k).2 } := by
  have hwr : w₁.written = w.written := (World.recv_frame hrecv).1
  refine h.take hrecv rfl h.running rfl rfl rfl rfl (fun k' conn hk => ?_) (fun h' => ?_)
    (fun k' conn hk => ?_)
  · rw [KeyMap.get_remove] at hk
    split_ifs at hk with hne
    rw [replayMap_append]
    simp only [replayMap, KeyMap.get_remove, if_neg hne]
    exact h.local_sub k' conn hk
  · rw [World.setLocal_written, hwr, route_append]; simpa [route] using h.written h'
  · rw [KeyMap.get_remove] at hk
    split_ifs at hk
    rw [World.setLocal_written, hwr, route_append]; simpa [route] using h.served k' conn hk

/-- A `SendBytes(k, bytes)` for a peer the listener's map holds, written to its socket. -/
theorem World.ListenerOrder.takeWrite (h : w.ListenerOrder consumed l) {k : UInt64}
    {bytes : List UInt8} {w₁ : World} (hrecv : w.recv l.chan = some (.SendBytes k bytes, w₁))
    {conn : Conn} (hk : l.connections.get k = some conn) :
    (w₁.write conn.handle bytes).ListenerOrder
      (World.log consumed w (w₁.write conn.handle bytes)) l := by
  have hroute : ∀ h', route KeyMap.empty h' (consumed l.chan ++ [.SendBytes k bytes]) =
      route KeyMap.empty h' (consumed l.chan) ++ if h' = conn.handle then [bytes] else [] := by
    intro h'; rw [route_append_sendBytes, h.local_sub k conn hk]; simp [eq_comm]
  obtain ⟨hw₁, hlen, -⟩ := World.recv_frame hrecv
  have hwr : ∀ h', (w₁.write conn.handle bytes).written h' =
      w.written h' ++ if h' = conn.handle then [bytes] else [] := by
    intro h'
    rw [World.write_written, hw₁, hlen]
    simp only [and_iff_left (h.handle_lt hk)]
  refine h.take hrecv rfl h.running (World.write_chans _ _ _) (World.write_server _ _ _)
    (World.write_main _ _ _) (World.write_socks_length _ _ _) (fun k' conn' hk' => ?_)
    (fun h' => ?_) (fun k' conn' hk' => ?_)
  · rw [replayMap_append]; exact h.local_sub k' conn' hk'
  · rw [hwr, hroute]
    split_ifs with he
    · subst he; rw [h.served k conn hk]
    · simpa using h.written h'
  · rw [hwr, hroute, h.served k' conn' hk']

/-- A `SendBytes(k, _)` whose write failed: the listener drops peer `k` from its own map. -/
theorem World.ListenerOrder.takeDrop (h : w.ListenerOrder consumed l) {k : UInt64}
    {bytes : List UInt8} {w₁ : World} (hrecv : w.recv l.chan = some (.SendBytes k bytes, w₁))
    {conn : Conn} (hk : l.connections.get k = some conn) :
    (w₁.setLocal l (l.connections.remove k).2).ListenerOrder
      (World.log consumed w (w₁.setLocal l (l.connections.remove k).2))
      { l with connections := (l.connections.remove k).2 } := by
  have hR := h.local_sub k conn hk
  have hroute : ∀ h', route KeyMap.empty h' (consumed l.chan ++ [.SendBytes k bytes]) =
      route KeyMap.empty h' (consumed l.chan) ++ if h' = conn.handle then [bytes] else [] := by
    intro h'; rw [route_append_sendBytes, hR]; simp [eq_comm]
  have hwr : w₁.written = w.written := (World.recv_frame hrecv).1
  refine h.take hrecv rfl h.running rfl rfl rfl rfl (fun k' conn' hk' => ?_) (fun h' => ?_)
    (fun k' conn' hk' => ?_)
  · rw [KeyMap.get_remove] at hk'
    split_ifs at hk'
    rw [replayMap_append]; exact h.local_sub k' conn' hk'
  · rw [World.setLocal_written, hwr, hroute]; exact (h.written h').trans (List.prefix_append _ _)
  · rw [KeyMap.get_remove] at hk'
    split_ifs at hk' with hne
    /- the socket of another peer of the map is not the dropped one's -/
    have hother : conn'.handle ≠ conn.handle := fun he =>
      hne (replayMap_handle_inj h.nodup_taken hR (h.local_sub k' conn' hk') he.symm).symm
    rw [World.setLocal_written, hwr, hroute, if_neg hother, List.append_nil]
    exact h.served k' conn' hk'

/-- A `SendBytes(k, _)` for a peer the listener's map does not hold: nothing is written. -/
theorem World.ListenerOrder.takeSkip (h : w.ListenerOrder consumed l) {k : UInt64}
    {bytes : List UInt8} {w₁ : World} (hrecv : w.recv l.chan = some (.SendBytes k bytes, w₁))
    (hk : l.connections.get k = none) : w₁.ListenerOrder (World.log consumed w w₁) l := by
  have hwr : w₁.written = w.written := (World.recv_frame hrecv).1
  refine h.take hrecv rfl h.running rfl rfl rfl rfl (fun k' conn' hk' => ?_) (fun h' => ?_)
    (fun k' conn' hk' => ?_)
  · rw [replayMap_append]; exact h.local_sub k' conn' hk'
  · rw [hwr, route_append_sendBytes]; exact (h.written h').trans (List.prefix_append _ _)
  · rw [hwr, route_append_sendBytes, if_neg, List.append_nil]
    · exact h.served k' conn' hk'
    · intro he
      obtain ⟨c₀, hc₀, he⟩ := Option.map_eq_some'.mp he
      obtain rfl := replayMap_handle_inj h.nodup_taken hc₀ (h.local_sub k' conn' hk') he
      rw [hk] at hk'; cases hk'

/-- A step that took nothing off any channel. -/
theorem World.ListenerOrder.grows (h : w'.ListenerOrder consumed l)
    (hq : ∀ c, w.queue c <+: w'.queue c) : w'.ListenerOrder (World.log consumed w w') l := by
  rw [World.log_of_grows hq]; exact h

end Listener

section ListenerSteps

variable {w w' : World} {consumed : Nat → List Message} {l : Listener} {cfg : Config}
  {parse : RString → Option SocketAddr}

/-- Each step of the listener keeps its order, and it keeps running. -/
theorem World.ListenerOrder.listenerStep (h : w.ListenerOrder consumed l)
    (hl : w.listener = some l) (hmt : w.server.multi_threaded = false) {a : Action}
    (hn : w.listenerStep l a = some w') :
    ∃ l', w'.listener = some l' ∧ w'.ListenerOrder (World.log consumed w w') l' := by
  have hstay : ∃ l', w.listener = some l' ∧ w.ListenerOrder (World.log consumed w w) l' :=
    ⟨l, hl, h.grows fun _ => List.prefix_refl _⟩
  cases a <;> simp only [World.listenerStep] at hn
  case listenerRecv sent =>
    cases hr : w.recv l.chan with
    | none => simp only [hr] at hn; cases hn; exact hstay
    | some p =>
      obtain ⟨m, w₁⟩ := p
      simp only [hr] at hn
      have hl₁ : w₁.listener = some l := (World.recv_frame hr).2.2.2.2.1.trans hl
      cases m <;> simp only at hn
      case Exit =>
        exact absurd (by rw [(World.recv_queue hr).1]; exact List.mem_cons_self _ _) h.no_exit
      case AddConnection c => cases hn; exact ⟨_, rfl, h.takeAdd hr⟩
      case RemoveConnection k => cases hn; exact ⟨_, rfl, h.takeRemove hr⟩
      case SendBytes k bytes =>
        split at hn
        · rename_i conn hk
          split at hn <;> cases hn
          · exact ⟨l, by rw [World.write_listener, hl₁], h.takeWrite hr hk⟩
          · exact ⟨_, rfl, h.takeDrop hr hk⟩
        · rename_i hk
          cases hn; exact ⟨l, hl₁, h.takeSkip hr hk⟩
  case listenerListen peer_id r =>
    split at hn
    · obtain ⟨extra, hq, hs, hexit, hadd⟩ :=
        World.listenConnection_single hmt h.chan h.receiving hn
      have hquiet := World.listenConnection_quiet hn
      exact ⟨l, hquiet.listener.trans hl, (h.enqueue hquiet hq (by rw [hs]) (by rw [hs])
        (by rw [hs]) hexit (by simp [hadd])).grows hquiet.queue⟩
    · cases hn; exact hstay
  all_goals cases hn; exact hstay

/-- Each step of the main task keeps the listener's order. -/
theorem World.ListenerOrder.mainStep (h : w.ListenerOrder consumed l) (hl : w.listener = some l)
    (hmt : w.server.multi_threaded = false) {a : Action} (hn : w.mainStep cfg parse a = some w') :
    ∃ l', w'.listener = some l' ∧ w'.ListenerOrder (World.log consumed w w') l' := by
  rcases World.mainStep_shape hn with
    ⟨main, addr, data, out, sent, rfl, hp⟩ | ⟨main, rfl, hp⟩ | ⟨c, peers, main, hp, hp', hreg⟩
  · obtain ⟨socks, main', he⟩ := @World.receiveHandshake_frame { w with main } cfg parse
      addr data out sent
    refine ⟨l, by rw [he]; exact hl,
      ((h.setMain main fun _ _ hc => hp ▸ hc).receiveHandshake addr data out sent).grows ?_⟩
    rw [he]; exact fun _ => List.prefix_refl _
  · refine ⟨l, hl, (h.setMain main fun c peers hc => ?_).grows fun _ => List.prefix_refl _⟩
    rcases hp with hp | hp <;> rw [hp] at hc
    exacts [hc, nomatch hc]
  · have h₀ := h.setMain main fun _ _ hc => by rw [hp'] at hc; cases hc
    obtain ⟨hq, hqueue, hs⟩ := World.registerConnection_single (w := { w with main }) hmt h.chan
      h.receiving hreg
    refine ⟨l, hq.listener.trans hl, (h₀.enqueue hq hqueue (by rw [hs]) (by rw [hs])
      (by rw [hs]) (by simp) fun c' hc' => ?_).grows hq.queue⟩
    rw [show c' = c by simpa [addedConns] using hc']
    exact ⟨rfl, hp', h.pending c peers hp⟩

/-- **One step keeps what the listener wrote in order.** -/
theorem World.ListenerOrder.next (h : w.ListenerOrder consumed l) (hl : w.listener = some l)
    (hr : w.Routed) (hmt : w.server.multi_threaded = false) {a : Action}
    (hn : w.next cfg parse a = some w') :
    ∃ l', w'.listener = some l' ∧ w'.ListenerOrder (World.log consumed w w') l' := by
  have hstay : ∃ l', w.listener = some l' ∧ w.ListenerOrder (World.log consumed w w) l' :=
    ⟨l, hl, h.grows fun _ => List.prefix_refl _⟩
  have hnw := hr.single_no_workers hmt
  unfold World.next at hn
  split at hn
  · rename_i k bytes
    cases hn
    have hq := World.sendToPeer_quiet k bytes w
    exact ⟨l, hq.listener.trans hl, (h.sends hq
      (World.sendToPeer_single hmt h.chan h.receiving _ _) (by simp) (by simp)).grows hq.queue⟩
  · rename_i bytes
    cases hn
    have hq := World.broadcastBytes_quiet bytes w
    exact ⟨l, hq.listener.trans hl, (h.sends hq (World.foldl_sendToPeer_single _
      w.server.connections.values w hmt h.chan h.receiving) (by simp) (by simp)).grows hq.queue⟩
  all_goals first
    | exact h.mainStep hl hmt hn
    | split at hn
      · split at hn
        · first
            | (rename_i hwk _; simp [hnw] at hwk)
            | (rename_i l' hl' _; rw [hl] at hl'; cases hl'; exact h.listenerStep hl hmt hn)
        · cases hn; exact hstay
      · cases hn; exact hstay

end ListenerSteps

/-! ### Every run -/

section Runs

variable {w w' : World} {consumed : Nat → List Message} {cfg : Config}
  {parse : RString → Option SocketAddr}

/-- No two workers share a socket. -/
theorem World.WorkerOrder.handles_nodup (h : w.WorkerOrder consumed) :
    (w.workers.map fun wk => wk.conn.handle).Nodup := by
  rw [List.nodup_iff_getElem?_ne_getElem?]
  intro i j hij hj he
  rw [List.length_map] at hj
  obtain ⟨wi, hi⟩ : ∃ wi, w.workers[i]? = some wi :=
    ⟨_, List.getElem?_eq_getElem (by omega)⟩
  obtain ⟨wj, hj'⟩ : ∃ wj, w.workers[j]? = some wj := ⟨_, List.getElem?_eq_getElem hj⟩
  simp only [List.getElem?_map, hi, hj', Option.map_some', Option.some.injEq] at he
  exact absurd (h.distinct i j wi wj hi hj' (.inl he)) (by omega)

/-- The start of the multi-threaded mode is in order, with nothing taken. -/
theorem World.workerOrder_start {server : P2pServer} (hmt : server.multi_threaded = true) :
    (World.start cfg server).WorkerOrder fun _ => [] := by
  unfold World.start
  rw [if_pos hmt]
  refine ⟨fun _ _ h => ?_, fun _ h => ?_, fun _ _ _ _ h => ?_, fun _ h => ?_,
    fun _ _ => by simp [World.written], fun _ _ => rfl, fun _ _ h => (nomatch h), rfl⟩ <;>
    simp at h

/-- The start of the single-threaded mode has an empty listener, in order with nothing taken. -/
theorem World.listenerOrder_start {server : P2pServer} (hc : server.connections = KeyMap.empty)
    (hmt : server.multi_threaded = false) :
    (World.start cfg server).listener = some ⟨0, KeyMap.empty, true⟩ ∧
      (World.start cfg server).ListenerOrder (fun _ => []) ⟨0, KeyMap.empty, true⟩ := by
  unfold World.start
  rw [if_neg (by simp [hmt])]
  refine ⟨rfl, rfl, by simp [KeyMap.get_insert], rfl, by simp [World.queue], ?_, by simp,
    by simp [World.queue, addedConns], by simp [World.queue, addedConns],
    fun _ => by simp [World.written], by simp, fun _ _ h => by cases h⟩
  simp [World.queue, replayMap, hc]

/-- The invariant of every logged run: `WorkerOrder` in the multi-threaded mode, `ListenerOrder`
    in the single-threaded one. -/
def World.Ordered (consumed : Nat → List Message) (w : World) : Prop :=
  (w.server.multi_threaded = true → w.WorkerOrder consumed) ∧
    (w.server.multi_threaded = false → ∃ l, w.listener = some l ∧ w.ListenerOrder consumed l)

/-- Every logged world is in order. -/
theorem World.Logged.ordered (h : World.Logged cfg parse w consumed) : w.Ordered consumed := by
  induction h with
  | start hs =>
    obtain ⟨-, -, hc, -⟩ := P2pServer.new_spec hs
    rw [World.Ordered, World.start_multi_threaded]
    exact ⟨World.workerOrder_start, fun hmt => ⟨_, World.listenerOrder_start hc hmt⟩⟩
  | step a hlog hn ih =>
    have hr := (hlog.reachable cfg parse).routed
    have hmt := World.next_multi_threaded hn
    refine ⟨fun hm => (ih.1 (hmt ▸ hm)).next hr (hmt ▸ hm) hn, fun hm => ?_⟩
    obtain ⟨l, hl, hlo⟩ := ih.2 (hmt ▸ hm)
    exact hlo.next hl hr (hmt ▸ hm) hn

/-- **What is written to a connection is what was queued for it, in order.**  In every state of
    every run, with `consumed c` the messages the reader of channel `c` has taken off it, so that
    `consumed c ++ w.queue c` is everything queued on `c` in the order it was queued:

    * in the multi-threaded mode, no two workers share a socket and no socket without a worker
      was written to; each worker's channel holds only `SendBytes` for its own peer, and its
      socket holds a prefix of their payloads, in order;
    * in the single-threaded mode, the registry is the map that the `AddConnection` and
      `RemoveConnection` queued on the listener's channel build, and every socket holds a prefix
      of the payloads `route` sends there: those of the `SendBytes(k, _)` queued while the
      connection of peer `k` registered was the one on that socket, in order. -/
theorem World.written_in_queue_order (h : World.Logged cfg parse w consumed) :
    (w.server.multi_threaded = true →
      (w.workers.map fun wk => wk.conn.handle).Nodup ∧
      (∀ h, h ∉ w.workers.map (fun wk => wk.conn.handle) → w.written h = []) ∧
      ∀ wk ∈ w.workers,
        (∀ k bytes, Message.SendBytes k bytes ∈ consumed wk.chan ++ w.queue wk.chan →
          k = wk.conn.peer_id) ∧
        w.written wk.conn.handle <+: sendPayloads (consumed wk.chan ++ w.queue wk.chan)) ∧
    (w.server.multi_threaded = false → ∃ l, w.listener = some l ∧
      w.server.connections = replayMap KeyMap.empty (consumed l.chan ++ w.queue l.chan) ∧
      ∀ h, w.written h <+: route KeyMap.empty h (consumed l.chan ++ w.queue l.chan)) := by
  have ho := h.ordered
  have hr := (h.reachable cfg parse).routed
  refine ⟨fun hmt => ?_, fun hmt => ?_⟩
  · have hwo := ho.1 hmt
    refine ⟨hwo.handles_nodup, hwo.unserved, fun wk hwk => ⟨fun k bytes hk => ?_, ?_⟩⟩
    · rcases List.mem_append.mp hk with hk | hk
      · exact (hwo.peer wk hwk k bytes hk).symm
      · unfold World.queue at hk
        cases hch : w.chans[wk.chan]? with
        | none => simp [hch] at hk
        | some ch =>
          simp only [hch, Option.map_some', Option.getD_some] at hk
          exact (hr.queued_peer wk.chan ch hch k bytes hk wk hwk rfl).symm
    · obtain ⟨n, hn⟩ := List.mem_iff_getElem?.mp hwk
      rw [sendPayloads_append]
      exact (hwo.written n wk hn).1.trans (List.prefix_append _ _)
  · obtain ⟨l, hl, hlo⟩ := ho.2 hmt
    refine ⟨l, hl, hlo.registry, fun h' => ?_⟩
    rw [route_append]
    exact (hlo.written h').trans (List.prefix_append _ _)

/-- Node `1` of the single-threaded mode registers peer `2`; its listener adds it, reads the
    byte `7` from it, broadcasts it, and writes it back: what it wrote there is in queue order. -/
theorem World.written_in_queue_order_accept :
    ∃ w consumed, World.run Config.noSeeds SocketAddr.parseV4
        (World.start Config.noSeeds ⟨1, none, 8, false, KeyMap.empty, KeyMap.empty⟩)
        (World.acceptPeer2 ++ [.listenerRecv true, .listenerListen 2 (.ok [7]),
          .listenerRecv true]) = some w ∧ w.server.connections.keys = [2] ∧
      World.Logged Config.noSeeds SocketAddr.parseV4 w consumed ∧
      (w.server.multi_threaded = true →
        (w.workers.map fun wk => wk.conn.handle).Nodup ∧
        (∀ h, h ∉ w.workers.map (fun wk => wk.conn.handle) → w.written h = []) ∧
        ∀ wk ∈ w.workers,
          (∀ k bytes, Message.SendBytes k bytes ∈ consumed wk.chan ++ w.queue wk.chan →
            k = wk.conn.peer_id) ∧
          w.written wk.conn.handle <+: sendPayloads (consumed wk.chan ++ w.queue wk.chan)) ∧
      (w.server.multi_threaded = false → ∃ l, w.listener = some l ∧
        w.server.connections = replayMap KeyMap.empty (consumed l.chan ++ w.queue l.chan) ∧
        ∀ h, w.written h <+: route KeyMap.empty h (consumed l.chan ++ w.queue l.chan)) := by
  have hw := World.reachable_of_run Config.noSeeds SocketAddr.parseV4
    (rfl : P2pServer.new 1 none 8 false = some _)
    (rfl : World.run _ _ _ (World.acceptPeer2 ++ [.listenerRecv true, .listenerListen 2 (.ok [7]),
      .listenerRecv true]) = _)
  obtain ⟨consumed, hlog⟩ := hw.logged
  exact ⟨_, consumed, rfl, rfl, hlog, World.written_in_queue_order hlog⟩

end Runs

end XelisP2p
