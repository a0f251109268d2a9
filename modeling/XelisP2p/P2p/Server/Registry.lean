import XelisP2p.P2p.Server.Run

namespace XelisP2p

/-!
# P2P — the registry of a running server

`connections` and `channels` change only under the write lock, in `add_connection` and
`remove_connection`, and `add_connection` panics on a peer id already registered.  Its one
caller registers the connection `verify_handshake` accepted, whose id was then neither the
server's own nor registered; no other task registers a peer in between, and the removals the
other tasks make only shrink the registry.

* `World.removeConnection_cases`, `World.addConnection_spec`, `World.receiveHandshake_same`
  — what each method does to the server and to the connection waiting for registration;
* `World.next_cases` — and so what one step can do;
* `P2pServer.Admits` — what `verify_handshake` checked of the connection waiting for
  registration: a peer id neither the server's own nor registered, and a count of free slots
  the build's arithmetic gives (`get_slots_available`, see `usizeSub`);
* `P2pServer.Registry` — the invariant: the server's own id unregistered, the channels keyed
  as the mode requires, the waiting connection's id still free;
* `World.registry_of_reachable` — every reachable state keeps it, and no step from it panics
  under the write lock.
-/

/-- What `verify_handshake` checked of a connection it accepted, in a build `cfg`: its peer id
    is neither the server's own nor registered, and `get_slots_available` did not panic. -/
def P2pServer.Admits (cfg : Config) (s : P2pServer) (c : Conn) : Prop :=
  s.isConnectedTo c.peer_id = false ∧ (s.getSlotsAvailable cfg.overflow_checks).isSome

section Methods

variable {w w' : World}

/-- What `remove_connection` does to the server: nothing when the peer is not registered;
    otherwise it drops the peer from `connections` and, in the multi-threaded mode, from
    `channels` when it has a channel there. -/
theorem World.removeConnection_cases {k : UInt64} {b : Bool}
    (h : w.removeConnection k = some (b, w')) : w'.main = w.main ∧
    (w'.server = w.server ∨
      (w.server.multi_threaded = false ∨ k ∉ w.server.channels.keys) ∧
        w'.server = { w.server with connections := (w.server.connections.remove k).2 } ∨
      w.server.multi_threaded = true ∧ w'.server = { w.server with
        connections := (w.server.connections.remove k).2
        channels := (w.server.channels.remove k).2 }) := by
  unfold World.removeConnection at h
  split at h
  · cases h; exact ⟨rfl, .inl rfl⟩
  · rename_i conn connections heq
    have hc : connections = (w.server.connections.remove k).2 := by rw [heq]
    subst hc
    simp only [World.closeIfOpen_server] at h
    split at h
    · rename_i hm
      split at h
      · rename_i c channels hch
        have hc : channels = (w.server.channels.remove k).2 := by rw [hch]
        cases h; subst hc
        exact ⟨by simp, .inr (.inr ⟨hm, by simp⟩)⟩
      · rename_i hch
        have hk : k ∉ w.server.channels.keys := by
          rw [← KeyMap.get_eq_none, ← KeyMap.remove_fst, hch]
        cases h
        exact ⟨by simp, .inr (.inl ⟨.inr hk, by simp⟩)⟩
    · rename_i hm
      split at h
      · cases h
        exact ⟨by simp, .inr (.inl ⟨.inl (by simpa using hm), by simp⟩)⟩
      · cases h

/-- `add_connection` succeeds exactly on a peer id not yet registered, which it registers,
    with a new channel in the multi-threaded mode. -/
theorem World.addConnection_spec {c : Conn} {r : Option Nat}
    (h : w.addConnection c = some (r, w')) :
    w.server.connections.get c.peer_id = none ∧ w'.main = w.main ∧
    r = (if w.server.multi_threaded then some w.chans.length else none) ∧
    w'.server = { w.server with
      connections := (w.server.connections.insert c.peer_id c).2
      channels := if w.server.multi_threaded then
        (w.server.channels.insert c.peer_id w.chans.length).2 else w.server.channels } := by
  unfold World.addConnection at h
  split at h
  · cases h
  · rename_i connections heq
    have hg : w.server.connections.get c.peer_id = none := by
      rw [← KeyMap.insert_fst, heq]
    have hc : connections = (w.server.connections.insert c.peer_id c).2 := by rw [heq]
    subst hc
    simp only at h
    split at h <;> cases h <;> rename_i hm <;> simp [hg, hm]

theorem World.addConnection_frame {c : Conn} {r : Option Nat}
    (h : w.addConnection c = some (r, w')) : w' = { w with
      server := w'.server
      chans := if w.server.multi_threaded then w.chans ++ [⟨[], true⟩] else w.chans } := by
  unfold World.addConnection at h
  split at h
  · cases h
  · simp only at h
    split at h <;> cases h <;> rename_i hm <;> simp [hm]

theorem World.addConnection_ne_none {c : Conn} (h : w.server.connections.get c.peer_id = none) :
    w.addConnection c ≠ none := by
  unfold World.addConnection
  rw [show w.server.connections.insert c.peer_id c = (none, _) from
    Prod.ext (by rw [KeyMap.insert_fst, h]) rfl]
  dsimp only
  split <;> simp

variable {cfg : Config} {parse : RString → Option SocketAddr}

/-- `verify_handshake` changes only the sockets, and accepts only a connection the server
    admits. -/
theorem World.verifyHandshake_ok {addr : SocketAddr} {handshake : Handshake} {out : Bool}
    {c : Conn} {peers : List SocketAddr}
    (h : World.verifyHandshake cfg parse addr handshake out w = .ok (c, peers) w') :
    w' = { w with socks := w'.socks } ∧ w.server.Admits cfg c := by
  unfold World.verifyHandshake at h
  split_ifs at h with h₁ h₂
  split at h
  · cases h
  · simp only at h
    split at h
    · rename_i hslots
      cases h
      exact ⟨rfl, by simpa using h₂, by simp [hslots]⟩
    · cases h

theorem World.verifyHandshake_err {addr : SocketAddr} {handshake : Handshake} {out : Bool}
    {e : P2pError} (h : World.verifyHandshake cfg parse addr handshake out w = .err e w') :
    w' = { w with socks := w'.socks } := by
  unfold World.verifyHandshake at h
  split_ifs at h
  · cases h; rfl
  · cases h; rfl
  · split at h
    · cases h; rw [World.close_frame]
    · simp only at h
      split at h <;> cases h

/-- `verify_handshake` refuses a peer id the server is connected to. -/
theorem World.verifyHandshake_connected {addr : SocketAddr} {handshake : Handshake} {out : Bool}
    (hid : handshake.network_id = cfg.NETWORK_ID)
    (hc : w.server.isConnectedTo handshake.peer_id = true) :
    World.verifyHandshake cfg parse addr handshake out w =
      .err (.PeerIdAlreadyUsed handshake.peer_id) w := by
  simp [World.verifyHandshake, hid, hc]

/-- `handle_new_connection` up to the registration changes only the sockets and the main
    task. -/
theorem World.receiveHandshake_frame (addr : SocketAddr) (data : List UInt8) (out sent : Bool) :
    ∃ socks main, w.receiveHandshake cfg parse addr data out sent = { w with socks, main } := by
  unfold World.receiveHandshake
  split
  · split
    · rename_i w₁ heq
      rw [(World.verifyHandshake_ok heq).1]
      split
      · exact ⟨_, _, rfl⟩
      · rw [World.close_frame]; exact ⟨_, _, rfl⟩
    · rename_i heq
      rw [World.verifyHandshake_err heq]; exact ⟨_, _, rfl⟩
    · exact ⟨_, _, rfl⟩
  · exact ⟨_, _, rfl⟩
  · exact ⟨_, _, rfl⟩

/-- A step that leaves the server as it is and makes pending only a connection that was
    pending already or that the server admits. -/
def World.SameRegistry (cfg : Config) (w w' : World) : Prop :=
  w'.server = w.server ∧ ∀ c peers, w'.main.pending = some (c, peers) →
    w.main.pending = some (c, peers) ∨ w.server.Admits cfg c

theorem World.SameRegistry.of_eq (hs : w'.server = w.server) (hm : w'.main = w.main) :
    w.SameRegistry cfg w' :=
  ⟨hs, fun _ _ h => .inl (hm ▸ h)⟩

theorem World.SameRegistry.trans {w'' : World} (h₁ : w.SameRegistry cfg w')
    (h₂ : w'.SameRegistry cfg w'') : w.SameRegistry cfg w'' := by
  refine ⟨h₂.1.trans h₁.1, fun c peers h => ?_⟩
  rcases h₂.2 c peers h with h | h
  · exact h₁.2 c peers h
  · exact .inr (h₁.1 ▸ h)

/-- `handle_new_connection` up to the registration leaves the registry as it is. -/
theorem World.receiveHandshake_same (addr : SocketAddr) (data : List UInt8) (out sent : Bool) :
    w.SameRegistry cfg (w.receiveHandshake cfg parse addr data out sent) := by
  unfold World.receiveHandshake
  split
  · split
    · rename_i w₁ heq
      obtain ⟨hw, hc⟩ := World.verifyHandshake_ok heq
      rw [hw]
      split
      · exact ⟨rfl, fun c' peers' h => by cases h; exact .inr hc⟩
      · exact .of_eq (by simp) (by simp)
    · rename_i heq
      rw [World.verifyHandshake_err heq]
      exact .of_eq rfl rfl
    · exact ⟨rfl, fun _ _ h => .inl h⟩
  · exact .of_eq rfl rfl
  · exact ⟨rfl, fun _ _ h => .inl h⟩

/-- The registration in `handle_new_connection`: `add_connection`, then possibly its
    `remove_connection` when the listener is gone. -/
theorem World.registerConnection_cases {c : Conn} (h : w.registerConnection c = some w') :
    ∃ (r : Option Nat) (w₁ : World), w.addConnection c = some (r, w₁) ∧
      (w'.server = w₁.server ∧ w'.main = w₁.main ∨
        ∃ (w₂ : World) (b : Bool), w₂.server = w₁.server ∧ w₂.main = w₁.main ∧
          w₂.removeConnection c.peer_id = some (b, w')) := by
  obtain ⟨⟨r, w₁⟩, h₁, h₂⟩ := Option.bind_eq_some.mp h
  refine ⟨r, w₁, h₁, ?_⟩
  simp only at h₂
  split at h₂
  · cases h₂; exact .inl ⟨rfl, rfl⟩
  · split at h₂
    · split at h₂
      · cases h₂; exact .inl ⟨by simp, by simp⟩
      · obtain ⟨⟨b, w₃⟩, h₃, h₄⟩ := Option.map_eq_some'.mp h₂
        cases h₄
        exact .inr ⟨_, b, by simp, by simp, h₃⟩
    · cases h₂

/-- `listen_connection` removes the connection or leaves the registry as it is. -/
theorem World.listenConnection_cases {c : Conn} {r : ReadResult}
    (h : w.listenConnection c r = some w') :
    w.SameRegistry cfg w' ∨ ∃ b, w.removeConnection c.peer_id = some (b, w') := by
  unfold World.listenConnection at h
  split at h
  · obtain ⟨⟨b, _⟩, h₁, rfl⟩ := Option.map_eq_some'.mp h; exact .inr ⟨b, h₁⟩
  · cases h; exact .inl (.of_eq (by simp) (by simp))
  · cases h; exact .inl (.of_eq rfl rfl)
  · obtain ⟨⟨b, _⟩, h₁, rfl⟩ := Option.map_eq_some'.mp h; exact .inr ⟨b, h₁⟩

theorem World.workerStep_cases {i : Nat} {wk : Worker} {a : Action}
    (h : w.workerStep i wk a = some w') :
    w.SameRegistry cfg w' ∨ ∃ k b, w.removeConnection k = some (b, w') := by
  unfold World.workerStep at h
  split at h
  · split at h
    · obtain ⟨hs, hm⟩ := World.recv_spec ‹_›
      split at h <;> cases h <;> exact .inl (.of_eq (by simp [hs]) (by simp [hm]))
    · obtain ⟨hs, hm⟩ := World.recv_spec ‹_›
      cases h; exact .inl (.of_eq (by simp [hs]) (by simp [hm]))
    · cases h; exact .inl (.of_eq rfl rfl)
  · exact (World.listenConnection_cases h).imp id fun ⟨b, hb⟩ => ⟨_, b, hb⟩
  · split at h <;> cases h <;> exact .inl (.of_eq (by simp) (by simp))
  · cases h; exact .inl (.of_eq rfl rfl)

theorem World.listenerStep_cases {l : Listener} {a : Action}
    (h : w.listenerStep l a = some w') :
    w.SameRegistry cfg w' ∨ ∃ k b, w.removeConnection k = some (b, w') := by
  unfold World.listenerStep at h
  split at h
  · split at h
    · obtain ⟨hs, hm⟩ := World.recv_spec ‹_›
      cases h; exact .inl (.of_eq (by simp [hs]) (by simp [hm]))
    · obtain ⟨hs, hm⟩ := World.recv_spec ‹_›
      cases h; exact .inl (.of_eq (by simp [hs]) (by simp [hm]))
    · obtain ⟨hs, hm⟩ := World.recv_spec ‹_›
      cases h; exact .inl (.of_eq (by simp [hs]) (by simp [hm]))
    · obtain ⟨hs, hm⟩ := World.recv_spec ‹_›
      split at h
      · split at h <;> cases h <;> exact .inl (.of_eq (by simp [hs]) (by simp [hm]))
      · cases h; exact .inl (.of_eq hs hm)
    · cases h; exact .inl (.of_eq rfl rfl)
  · split at h
    · exact (World.listenConnection_cases h).imp id fun ⟨b, hb⟩ => ⟨_, b, hb⟩
    · cases h; exact .inl (.of_eq rfl rfl)
  · cases h; exact .inl (.of_eq rfl rfl)

theorem World.mainStep_cases {a : Action} (h : w.mainStep cfg parse a = some w') :
    w.SameRegistry cfg w' ∨ ∃ (c : Conn) (peers : List SocketAddr) (w₀ : World),
      w.main.pending = some (c, peers) ∧ w₀.server = w.server ∧ w₀.main.pending = none ∧
        w₀.registerConnection c = some w' := by
  cases a with
  | dial reply =>
    simp only [World.mainStep] at h
    split at h
    · rename_i hm
      have h₀ : w.SameRegistry cfg { w with main := { w.main with dials := _ } } :=
        ⟨rfl, fun _ _ h => .inl h⟩
      split at h <;> cases h
      · exact .inl (h₀.trans (World.receiveHandshake_same _ _ _ _))
      · exact .inl h₀
    · cases h; exact .inl (.of_eq rfl rfl)
  | accept addr reply sent =>
    simp only [World.mainStep] at h
    split at h
    · split at h
      · cases h; exact .inl (.of_eq rfl rfl)
      · split at h <;> cases h
        · exact .inl (World.receiveHandshake_same _ _ _ _)
        · exact .inl (.of_eq rfl rfl)
    · cases h; exact .inl (.of_eq rfl rfl)
  | register nonblocking =>
    simp only [World.mainStep] at h
    split at h
    · rename_i c peers hm
      split at h
      · refine .inr ⟨c, peers, _, by rw [hm], ?_, ?_, h⟩ <;> rfl
      · cases h; exact .inl ⟨rfl, fun _ _ h => by cases h⟩
    · cases h; exact .inl (.of_eq rfl rfl)
  | _ => simp only [World.mainStep] at h; cases h; exact .inl (.of_eq rfl rfl)

/-- **What one step can do to the registry**: leave it as it is, remove one peer, or register
    the connection waiting for it. -/
theorem World.next_cases {a : Action} (h : w.next cfg parse a = some w') :
    w.SameRegistry cfg w' ∨ (∃ k b, w.removeConnection k = some (b, w')) ∨
    ∃ (c : Conn) (peers : List SocketAddr) (w₀ : World), w.main.pending = some (c, peers) ∧
      w₀.server = w.server ∧ w₀.main.pending = none ∧ w₀.registerConnection c = some w' := by
  cases a <;> simp only [World.next] at h
  case dial | accept | register => exact (World.mainStep_cases h).imp_right .inr
  case sendToPeer | broadcastBytes => cases h; exact .inl (.of_eq (by simp) (by simp))
  all_goals
    split at h
    · split at h
      · first
          | exact (World.workerStep_cases h).imp_right .inl
          | exact (World.listenerStep_cases h).imp_right .inl
      · cases h; exact .inl (.of_eq rfl rfl)
    · cases h; exact .inl (.of_eq rfl rfl)

end Methods

/-! ### The invariant -/

/-- The registry invariant, of the server and of the connection the main task verified and
    has not registered yet. -/
structure P2pServer.Registry (s : P2pServer) (pending : Option (Conn × List SocketAddr)) :
    Prop where
  self_unregistered : s.peer_id ∉ s.connections.keys
  channels_multi : s.multi_threaded = true → ∀ k, k ∈ s.channels.keys ↔ k ∈ s.connections.keys
  channels_single : s.multi_threaded = false → s.channels.keys = [s.peer_id]
  pending_fresh : ∀ c peers, pending = some (c, peers) → s.isConnectedTo c.peer_id = false

section Invariant

variable {w w' : World} {cfg : Config} {parse : RString → Option SocketAddr}

theorem P2pServer.Registry.unpend {s : P2pServer} {pending : Option (Conn × List SocketAddr)}
    (h : s.Registry pending) : s.Registry none :=
  { h with pending_fresh := fun _ _ h => by cases h }

theorem P2pServer.isConnectedTo_remove {s : P2pServer} {k k' : UInt64}
    (h : s.isConnectedTo k' = false) :
    ({ s with connections := (s.connections.remove k).2 } : P2pServer).isConnectedTo k' =
      false := by
  rw [P2pServer.isConnectedTo_eq_false] at h ⊢
  exact ⟨h.1, fun hk => h.2 (KeyMap.mem_keys_remove.mp hk).2⟩

theorem P2pServer.Registry.same (h : w.server.Registry w.main.pending)
    (hs : w.SameRegistry cfg w') : w'.server.Registry w'.main.pending := by
  obtain ⟨hs, hp⟩ := hs
  rw [hs]
  exact { h with
    pending_fresh := fun c peers hc => (hp c peers hc).elim (h.pending_fresh c peers) And.left }

/-- `remove_connection` keeps the invariant. -/
theorem P2pServer.Registry.removeConnection {k : UInt64} {b : Bool}
    (h : w.server.Registry w.main.pending) (hr : w.removeConnection k = some (b, w')) :
    w'.server.Registry w'.main.pending := by
  have hself : w.server.peer_id ∉ (w.server.connections.remove k).2.keys := fun hk =>
    h.self_unregistered (KeyMap.mem_keys_remove.mp hk).2
  obtain ⟨hm, hs | ⟨hch, hs⟩ | ⟨hmt, hs⟩⟩ := World.removeConnection_cases hr
  · rw [hs, hm]; exact h
  · rw [hs, hm]
    refine ⟨hself, fun hmt x => ?_, h.channels_single,
      fun c peers hc => P2pServer.isConnectedTo_remove (h.pending_fresh c peers hc)⟩
    have hk : k ∉ w.server.channels.keys := hch.resolve_left (by simpa using hmt)
    rw [KeyMap.mem_keys_remove, ← h.channels_multi hmt]
    exact ⟨fun hx => ⟨fun hxk => hk (hxk ▸ hx), hx⟩, And.right⟩
  · rw [hs, hm]
    refine ⟨hself, fun _ x => ?_, fun hmt' => by simp_all,
      fun c peers hc => P2pServer.isConnectedTo_remove (h.pending_fresh c peers hc)⟩
    simp only [KeyMap.mem_keys_remove, h.channels_multi hmt]

/-- `add_connection` of a peer the server does not know keeps the invariant. -/
theorem P2pServer.Registry.insert {s : P2pServer} {c : Conn} {n : Nat} (h : s.Registry none)
    (hc : s.isConnectedTo c.peer_id = false) :
    ({ s with
      connections := (s.connections.insert c.peer_id c).2
      channels := if s.multi_threaded then (s.channels.insert c.peer_id n).2 else s.channels }
      : P2pServer).Registry none := by
  rw [P2pServer.isConnectedTo_eq_false] at hc
  refine ⟨?_, fun hmt x => ?_, fun hmt => ?_, fun _ _ h => by cases h⟩
  · rw [KeyMap.mem_keys_insert]
    exact fun hk => hk.elim hc.1 h.self_unregistered
  · simp only at hmt
    simp only [hmt, if_true, KeyMap.mem_keys_insert, h.channels_multi hmt]
  · simp only at hmt
    simp only [hmt]
    exact h.channels_single hmt

/-- The registration of a connection the server does not know keeps the invariant. -/
theorem P2pServer.Registry.registerConnection {c : Conn} (h : w.server.Registry none)
    (hc : w.server.isConnectedTo c.peer_id = false) (hp : w.main.pending = none)
    (hr : w.registerConnection c = some w') : w'.server.Registry w'.main.pending := by
  obtain ⟨r, w₁, h₁, h₂⟩ := World.registerConnection_cases hr
  obtain ⟨-, hm₁, -, hs₁⟩ := World.addConnection_spec h₁
  have h₁' : w₁.server.Registry w₁.main.pending := by
    rw [hs₁, hm₁, hp]; exact h.insert hc
  rcases h₂ with ⟨hs, hm⟩ | ⟨w₂, b, hs, hm, hr₂⟩
  · rw [hs, hm]; exact h₁'
  · exact P2pServer.Registry.removeConnection (by rw [hs, hm]; exact h₁') hr₂

/-- **One step keeps the invariant.** -/
theorem P2pServer.Registry.next {a : Action} (h : w.server.Registry w.main.pending)
    (hn : w.next cfg parse a = some w') : w'.server.Registry w'.main.pending := by
  rcases World.next_cases hn with hs | ⟨k, b, hr⟩ | ⟨c, peers, w₀, hp, hs₀, hp₀, hr⟩
  · exact h.same hs
  · exact h.removeConnection hr
  · exact P2pServer.Registry.registerConnection (by rw [hs₀]; exact h.unpend)
      (by rw [hs₀]; exact h.pending_fresh c peers hp) hp₀ hr

/-! ### No panic under the write lock -/

/-- `remove_connection` panics only in the single-threaded mode, when the one channel is
    missing. -/
theorem World.removeConnection_ne_none {k : UInt64}
    (h : w.server.multi_threaded = false → w.server.channels.keys = [w.server.peer_id]) :
    w.removeConnection k ≠ none := by
  unfold World.removeConnection
  split
  · simp
  · simp only [World.closeIfOpen_server]
    split
    · split <;> simp
    · rename_i hm
      have hmt : w.server.multi_threaded = false := by simpa using hm
      obtain ⟨c, hc⟩ := Option.isSome_iff_exists.mp
        (KeyMap.get_isSome.mpr (by rw [h hmt]; simp) :
          (w.server.channels.get w.server.peer_id).isSome)
      simp [P2pServer.getChannelForConnection, hmt, hc]

theorem World.listenConnection_ne_none {c : Conn} {r : ReadResult}
    (h : w.server.multi_threaded = false → w.server.channels.keys = [w.server.peer_id]) :
    w.listenConnection c r ≠ none := by
  unfold World.listenConnection
  split <;> simp [World.removeConnection_ne_none h]

/-- The registration of a connection the server does not know does not panic. -/
theorem World.registerConnection_ne_none {c : Conn} (h : w.server.Registry none)
    (hc : w.server.isConnectedTo c.peer_id = false) : w.registerConnection c ≠ none := by
  have hg : w.server.connections.get c.peer_id = none :=
    KeyMap.get_eq_none.mpr (P2pServer.isConnectedTo_eq_false.mp hc).2
  obtain ⟨⟨r, w₁⟩, h₁⟩ := Option.ne_none_iff_exists'.mp (World.addConnection_ne_none hg)
  obtain ⟨-, -, hr, hs₁⟩ := World.addConnection_spec h₁
  have h₁' : w₁.server.Registry none := by rw [hs₁]; exact h.insert hc
  unfold World.registerConnection
  rw [h₁]
  dsimp only [bind, Option.bind]
  split
  · simp
  · have hmt : w₁.server.multi_threaded = false := by
      rw [hs₁]
      cases hm : w.server.multi_threaded
      · rfl
      · simp [hm] at hr
    obtain ⟨ch, hch⟩ := Option.isSome_iff_exists.mp
      (KeyMap.get_isSome.mpr (by rw [h₁'.channels_single hmt]; simp) :
        (w₁.server.channels.get w₁.server.peer_id).isSome)
    simp only [P2pServer.getChannelForConnection, hmt, hch, Bool.false_eq_true, if_false]
    split
    · simp
    · have hrm : (w₁.send ch (.AddConnection c)).2.removeConnection c.peer_id ≠ none :=
        World.removeConnection_ne_none (by simpa using h₁'.channels_single)
      simp [hrm]

/-- In a state that keeps the invariant, no step panics under the write lock. -/
theorem World.next_ne_none (h : w.server.Registry w.main.pending) (a : Action) :
    w.next cfg parse a ≠ none := by
  have hl : ∀ c r, w.listenConnection c r ≠ none := fun _ _ =>
    World.listenConnection_ne_none h.channels_single
  cases a with
  | register nonblocking =>
    simp only [World.next, World.mainStep]
    split
    · rename_i c peers hm
      split
      · exact World.registerConnection_ne_none h.unpend (h.pending_fresh c peers (by rw [hm]))
      · simp
    · simp
  | workerListen i r =>
    simp only [World.next, World.workerStep]
    split <;> (try split) <;> simp [hl]
  | listenerListen k r =>
    simp only [World.next, World.listenerStep]
    split <;> (try split) <;> (try split) <;> simp [hl]
  | _ =>
    simp only [World.next, World.mainStep, World.workerStep, World.listenerStep]
    repeat' split
    all_goals simp

/-- The state `start` leaves keeps the invariant: no connection yet, and in the
    single-threaded mode the one channel under the server's own id. -/
theorem World.registry_start {peer_id : UInt64} {tag : Option RString} {max_peers : Nat}
    {multi_threaded : Bool} {server : P2pServer}
    (hs : P2pServer.new peer_id tag max_peers multi_threaded = some server) :
    (World.start cfg server).server.Registry (World.start cfg server).main.pending := by
  obtain ⟨-, -, hc, hch⟩ := P2pServer.new_spec hs
  unfold World.start
  split <;> refine ⟨?_, fun hmt k => ?_, fun hmt => ?_, fun _ _ h => by cases h⟩ <;>
    simp_all [KeyMap.keys_empty]

theorem World.Reachable.registry (hw : World.Reachable cfg parse w) :
    w.server.Registry w.main.pending :=
  World.Reachable.invariant cfg parse (fun w => w.server.Registry w.main.pending)
    World.registry_start (fun _ h hn => h.next hn) hw

/-- **The registry of every reachable state.**  The server's own id is never registered, the
    channels are keyed by the registered peers (multi-threaded) or by the server's own id
    alone (single-threaded), and no step panics under the write lock: in particular the
    duplicate-id panic of `add_connection` is never reached. -/
theorem World.registry_of_reachable (hw : World.Reachable cfg parse w) :
    w.server.peer_id ∉ w.server.connections.keys ∧
    (w.server.multi_threaded = true →
      ∀ k, k ∈ w.server.channels.keys ↔ k ∈ w.server.connections.keys) ∧
    (w.server.multi_threaded = false → w.server.channels.keys = [w.server.peer_id]) ∧
    ∀ a, w.next cfg parse a ≠ none := by
  have h := World.Reachable.registry hw
  exact ⟨h.self_unregistered, h.channels_multi, h.channels_single, World.next_ne_none h⟩

/-- Node `1` of the single-threaded mode registers peer `2`, and its listener adds it: there
    the server's own id is still unregistered, its one channel is under that id, and no step
    panics under the write lock. -/
theorem World.registry_after_accept :
    ∃ w, World.run Config.noSeeds SocketAddr.parseV4
        (World.start Config.noSeeds ⟨1, none, 8, false, KeyMap.empty, KeyMap.empty⟩)
        (World.acceptPeer2 ++ [.listenerRecv true]) = some w ∧ w.server.connections.keys = [2] ∧
      World.Reachable Config.noSeeds SocketAddr.parseV4 w ∧
      w.server.peer_id ∉ w.server.connections.keys ∧
      (w.server.multi_threaded = true →
        ∀ k, k ∈ w.server.channels.keys ↔ k ∈ w.server.connections.keys) ∧
      (w.server.multi_threaded = false → w.server.channels.keys = [w.server.peer_id]) ∧
      ∀ a, w.next Config.noSeeds SocketAddr.parseV4 a ≠ none :=
  have hw := World.reachable_of_run Config.noSeeds SocketAddr.parseV4
    (rfl : P2pServer.new 1 none 8 false = some _)
    (rfl : World.run _ _ _ (World.acceptPeer2 ++ [.listenerRecv true]) = _)
  ⟨_, rfl, rfl, hw, World.registry_of_reachable hw⟩

end Invariant

/-! ### Two connections from one address -/

/-- A peer at `10.0.0.2:40000` connects as node `2`; it restarts with a fresh id and connects
    again from the same address, as node `3`, before the first connection is dropped. -/
def World.sameAddressAccepts : List Action :=
  [.accept (.V4 ⟨[10, 0, 0, 2], rfl⟩ 40000) (some (Handshake.bare 2).toBytes) true, .register true,
   .accept (.V4 ⟨[10, 0, 0, 2], rfl⟩ 40000) (some (Handshake.bare 3).toBytes) true, .register true]

/-- Two registered connections of different peers from one address. -/
def P2pServer.sharesAddress (s : P2pServer) : Prop :=
  ∃ c₁ ∈ s.connections.values, ∃ c₂ ∈ s.connections.values,
    c₁.peer_id ≠ c₂.peer_id ∧ c₁.addr = c₂.addr

instance (s : P2pServer) : Decidable s.sharesAddress := by
  unfold P2pServer.sharesAddress; infer_instance

/-- The run `sameAddressAccepts` from node `1` in mode `mt`, checked by evaluation, reaches a
    registry with two connections from one address. -/
theorem World.sharesAddress_of_run (mt : Bool)
    (hrun : (World.run Config.noSeeds SocketAddr.parseV4
      (World.start Config.noSeeds ⟨1, none, 8, mt, KeyMap.empty, KeyMap.empty⟩)
      World.sameAddressAccepts).map
        (fun w => (w.server.multi_threaded == mt) && decide w.server.sharesAddress) = some true) :
    ∃ w, World.Reachable Config.noSeeds SocketAddr.parseV4 w ∧ w.server.multi_threaded = mt ∧
      w.server.sharesAddress := by
  obtain ⟨w, hw, hp⟩ := World.reach_of_run Config.noSeeds SocketAddr.parseV4
    (rfl : P2pServer.new 1 none 8 mt = some _) hrun
  simp only [Bool.and_eq_true, beq_iff_eq, decide_eq_true_eq] at hp
  exact ⟨w, hw, hp⟩

/-- **One address, two registered connections.**  What `verify_handshake` checks of a
    connection (`P2pServer.Admits`) is its peer id and the slots, not its address, and
    `is_connected_to_addr` filters only the gossiped peers: a second connection from an address
    already registered is registered under a fresh peer id, in either mode. -/
theorem World.duplicate_address :
    (∃ w, World.Reachable Config.noSeeds SocketAddr.parseV4 w ∧ w.server.multi_threaded = true ∧
      w.server.sharesAddress) ∧
    (∃ w, World.Reachable Config.noSeeds SocketAddr.parseV4 w ∧ w.server.multi_threaded = false ∧
      w.server.sharesAddress) :=
  ⟨World.sharesAddress_of_run true (by decide), World.sharesAddress_of_run false (by decide)⟩

end XelisP2p
