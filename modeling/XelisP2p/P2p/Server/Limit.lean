import XelisP2p.P2p.Server.Registry

namespace XelisP2p

/-!
# P2P — the peer limit

`accept_new_connections` turns an inbound connection away once `max_peers` peers are
registered, and `verify_handshake` keeps at most `get_slots_available()` of the gossiped
peers.  Nothing checks a dial against the limit, though, and the slots are counted before the
connection being verified is registered: the connection a dial verifies with no slot left is
still registered.  Once the registry is over the limit, `max_peers - connections.len()`
underflows in the next `verify_handshake`: with overflow checks (cargo's dev profile) the main
task panics, and without them (the release profile) the subtraction wraps around and the main
task goes on verifying and registering.

* `P2pServer.Bounded` — what the limit keeps with overflow checks: one connection over it at
  most, and none while a verified connection waits for registration;
* `World.connections_le_succ_max_peers` — every reachable state of such a build keeps it;
* `World.verifyHandshake_ne_panic` — without overflow checks `verify_handshake` never panics;
* `World.connections_exceed_max_peers` — and one reachable state is over the limit, with the
  main task ended by the underflow.
-/

/-- The bound the peer limit keeps, of the server and of the connection the main task verified
    and has not registered yet. -/
structure P2pServer.Bounded (s : P2pServer) (pending : Option (Conn × List SocketAddr)) :
    Prop where
  len_le : s.connections.len ≤ s.max_peers + 1
  pending_le : ∀ c peers, pending = some (c, peers) → s.connections.len ≤ s.max_peers

section Bound

variable {w w' : World} {cfg : Config} {parse : RString → Option SocketAddr}

theorem World.removeConnection_len {k : UInt64} {b : Bool}
    (hr : w.removeConnection k = some (b, w')) :
    w'.server.connections.len ≤ w.server.connections.len ∧
      w'.server.max_peers = w.server.max_peers ∧ w'.main = w.main := by
  obtain ⟨hm, hs | ⟨-, hs⟩ | ⟨-, hs⟩⟩ := World.removeConnection_cases hr <;> rw [hs] <;>
    exact ⟨by simp [KeyMap.len_remove_le], rfl, hm⟩

theorem P2pServer.Bounded.removeConnection {k : UInt64} {b : Bool}
    (h : w.server.Bounded w.main.pending) (hr : w.removeConnection k = some (b, w')) :
    w'.server.Bounded w'.main.pending := by
  obtain ⟨hlen, hmax, hm⟩ := World.removeConnection_len hr
  refine ⟨?_, fun c peers hc => ?_⟩ <;> rw [hmax]
  · exact hlen.trans h.len_le
  · exact hlen.trans (h.pending_le c peers (hm ▸ hc))

/-- Registering a connection verified with the registry within the limit leaves it at most one
    over. -/
theorem P2pServer.Bounded.registerConnection {c : Conn}
    (hle : w.server.connections.len ≤ w.server.max_peers) (hp : w.main.pending = none)
    (hr : w.registerConnection c = some w') : w'.server.Bounded w'.main.pending := by
  obtain ⟨r, w₁, h₁, h₂⟩ := World.registerConnection_cases hr
  obtain ⟨hg, hm₁, -, hs₁⟩ := World.addConnection_spec h₁
  have h₁' : w₁.server.Bounded w₁.main.pending := by
    rw [hs₁, hm₁, hp]
    exact ⟨by simp only [KeyMap.len_insert hg]; omega, fun _ _ h => by cases h⟩
  rcases h₂ with ⟨hs, hm⟩ | ⟨w₂, b, hs, hm, hr₂⟩
  · rw [hs, hm]; exact h₁'
  · exact P2pServer.Bounded.removeConnection (by rw [hs, hm]; exact h₁') hr₂

/-- With overflow checks, one step keeps the bound: `get_slots_available` returned for a
    connection `verify_handshake` accepted, so the registry was within the limit. -/
theorem P2pServer.Bounded.next {a : Action} (hc : cfg.overflow_checks = true)
    (h : w.server.Bounded w.main.pending)
    (hn : w.next cfg parse a = some w') : w'.server.Bounded w'.main.pending := by
  rcases World.next_cases hn with ⟨hs, hp⟩ | ⟨k, b, hr⟩ | ⟨c, peers, w₀, hp, hs₀, hp₀, hr⟩
  · rw [hs]
    exact ⟨h.len_le, fun c peers hpc => (hp c peers hpc).elim (h.pending_le c peers)
      fun hadm => ((usizeSub_isSome _ _ _).mp hadm.2).resolve_right (by simp [hc])⟩
  · exact h.removeConnection hr
  · exact P2pServer.Bounded.registerConnection (by rw [hs₀]; exact h.pending_le c peers hp)
      hp₀ hr

/-- **At most one connection over the limit, with overflow checks.**  In a build that checks
    integer overflow, a connection is registered only after `verify_handshake` found
    `connections.len() ≤ max_peers` (else `get_slots_available` panics on the underflow), and
    nothing is registered in between: every reachable state has at most `max_peers + 1`
    connections.  Without overflow checks the bound is lost: `World.verifyHandshake_ne_panic`. -/
theorem World.connections_le_succ_max_peers (hc : cfg.overflow_checks = true)
    (hw : World.Reachable cfg parse w) : w.server.connections.len ≤ w.server.max_peers + 1 := by
  refine (World.Reachable.invariant cfg parse (fun w => w.server.Bounded w.main.pending)
    (fun hs => ?_) (fun _ h hn => h.next hc hn) hw).len_le
  obtain ⟨-, -, hc, -⟩ := P2pServer.new_spec hs
  unfold World.start
  split <;> exact ⟨by simp [hc, KeyMap.len, KeyMap.empty], fun _ _ h => by cases h⟩

/-- Node `1` of the dev build with `max_peers = 1` accepts peer `2` and registers it: one
    connection, within the bound. -/
theorem World.connections_le_succ_max_peers_accept :
    ∃ w, World.run Config.noSeeds SocketAddr.parseV4
        (World.start Config.noSeeds ⟨1, none, 1, true, KeyMap.empty, KeyMap.empty⟩)
        World.acceptPeer2 = some w ∧ w.server.connections.keys = [2] ∧
      Config.noSeeds.overflow_checks = true ∧ World.Reachable Config.noSeeds SocketAddr.parseV4 w ∧
      w.server.connections.len ≤ w.server.max_peers + 1 :=
  have hw := World.reachable_of_run Config.noSeeds SocketAddr.parseV4
    (rfl : P2pServer.new 1 none 1 true = some _) (rfl : World.run _ _ _ World.acceptPeer2 = _)
  ⟨_, rfl, rfl, rfl, hw, World.connections_le_succ_max_peers rfl hw⟩

/-- Without overflow checks, `verify_handshake` never panics: its one panic is the underflow
    of `get_slots_available`, which such a build wraps around.  The main task then goes on
    registering whatever it verifies, however far over the limit. -/
theorem World.verifyHandshake_ne_panic (hc : cfg.overflow_checks = false) (addr : SocketAddr)
    (handshake : Handshake) (out : Bool) (w : World) :
    World.verifyHandshake cfg parse addr handshake out w ≠ .panic := by
  have hs : (w.server.getSlotsAvailable cfg.overflow_checks).isSome :=
    (usizeSub_isSome _ _ _).mpr (.inr hc)
  obtain ⟨slots, hslots⟩ := Option.isSome_iff_exists.mp hs
  unfold World.verifyHandshake
  split_ifs
  · simp
  · simp
  · -- the peers parse or not; the slots are there either way
    split <;> simp [hslots]

end Bound

/-! ### Over the limit -/

/-- A dev build of a node with three seed nodes, `10.0.0.3:2125`, `10.0.0.4:2125` and
    `10.0.0.5:2125`. -/
def Config.threeSeeds : Config :=
  ⟨FixedBytes.zero 16,
    [.V4 ⟨[10, 0, 0, 3], rfl⟩ 2125, .V4 ⟨[10, 0, 0, 4], rfl⟩ 2125, .V4 ⟨[10, 0, 0, 5], rfl⟩ 2125],
    true⟩

/-- The main task dials the three seed nodes, which answer as the nodes `3`, `4` and `5`, and
    registers each connection it verified. -/
def World.seedDials : List Action :=
  [.dial (some (Handshake.bare 3).toBytes), .register true,
   .dial (some (Handshake.bare 4).toBytes), .register true,
   .dial (some (Handshake.bare 5).toBytes)]

/-- **The peer limit is exceeded.**  A node with `max_peers = 1` registers its first two seed
    nodes: the second dial finds no slot left, which `verify_handshake` does not check.  Its
    third dial then underflows in `get_slots_available`, and the main task panics. -/
theorem World.connections_exceed_max_peers :
    ∃ w, World.Reachable Config.threeSeeds SocketAddr.parseV4 w ∧
      w.server.max_peers < w.server.connections.len ∧ w.server.getSlotsAvailable true = none ∧
      w.main.alive = false := by
  have hrun : (World.run Config.threeSeeds SocketAddr.parseV4
      (World.start Config.threeSeeds ⟨1, none, 1, true, KeyMap.empty, KeyMap.empty⟩)
      World.seedDials).map (fun w => decide (w.server.max_peers < w.server.connections.len) &&
        (w.server.getSlotsAvailable true).isNone && !w.main.alive) = some true := by
    decide
  obtain ⟨w, hw, hp⟩ := World.reach_of_run Config.threeSeeds SocketAddr.parseV4
    (rfl : P2pServer.new 1 none 1 true = some _) hrun
  simp only [Bool.and_eq_true, decide_eq_true_eq, Option.isNone_iff_eq_none,
    Bool.not_eq_true'] at hp
  exact ⟨w, hw, hp.1.1, hp.1.2, hp.2⟩

/-- The same node in a release build. -/
def Config.threeSeedsRelease : Config := { Config.threeSeeds with overflow_checks := false }

/-- Without overflow checks the third dial's subtraction wraps around instead: the main task
    lives on and registers all three seed nodes. -/
theorem World.seedDials_release :
    ∃ w, World.Reachable Config.threeSeedsRelease SocketAddr.parseV4 w ∧
      w.server.max_peers = 1 ∧ w.server.connections.len = 3 ∧ w.main.alive = true := by
  have hrun : (World.run Config.threeSeedsRelease SocketAddr.parseV4
      (World.start Config.threeSeedsRelease ⟨1, none, 1, true, KeyMap.empty, KeyMap.empty⟩)
      (World.seedDials ++ [.register true])).map (fun w => decide (w.server.max_peers = 1) &&
        decide (w.server.connections.len = 3) && w.main.alive) = some true := by
    decide
  obtain ⟨w, hw, hp⟩ := World.reach_of_run Config.threeSeedsRelease SocketAddr.parseV4
    (rfl : P2pServer.new 1 none 1 true = some _) hrun
  simp only [Bool.and_eq_true, decide_eq_true_eq] at hp
  exact ⟨w, hw, hp.1.1, hp.1.2, hp.2⟩

end XelisP2p
