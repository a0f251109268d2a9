import XelisP2p.P2p.Server.Registry

namespace XelisP2p

/-!
# P2P — `start`, with the main task already running

`P2pServer::start` hands the main task to the thread pool first, and only then takes the write
lock to open, in the single-threaded mode, the listener's channel under the server's own id and
start the listener on it.  `World.start` is the state once both are done; here the rest of
`start` is a step of its own, which the main task's steps may come before.

* `Launch.next` — the steps: the rest of `start` (`openListener`) and every step of `World.next`;
* `Launch.reachable_of_world` — every run of `World.Reachable` is a run here, with the rest of
  `start` first;
* `Launch.register_before_listener` — and in the single-threaded mode the main task can verify a
  seed node before the channel exists: registering it panics under the write lock.
-/

/-- The node once `start` has handed the main task to the thread pool, and whether `start` has
    since run its write-lock block. -/
structure Launch where
  world : World
  opened : Bool
deriving DecidableEq

/-- The block of `start` under the write lock: in the single-threaded mode, a new channel under
    the server's own id and the listener on it. -/
def World.startListener (w : World) : World :=
  if w.server.multi_threaded then w
  else
    let c := w.chans.length
    { w with
      server := { w.server with channels := (w.server.channels.insert w.server.peer_id c).2 }
      chans := w.chans ++ [⟨[], true⟩]
      listener := some ⟨c, KeyMap.empty, true⟩ }

/-- One step of the node during `start`: the rest of `start`, or a step of a task. -/
inductive LaunchAction
  | openListener
  | task (a : Action)
deriving DecidableEq, Repr

section Launch

variable (cfg : Config) (parse : RString → Option SocketAddr)

/-- The node right after `execute` of the main task: nothing opened yet. -/
def World.launch (server : P2pServer) : Launch :=
  ⟨⟨server, [], [], ⟨true, cfg.SEED_NODES, none⟩, [], none⟩, false⟩

/-- The effect of one step; `none` is a panic under the write lock. -/
def Launch.next (l : Launch) : LaunchAction → Option Launch
  | .openListener => if l.opened then some l else some ⟨l.world.startListener, true⟩
  | .task a => (l.world.next cfg parse a).map fun w => ⟨w, l.opened⟩

/-- A run, stopping at a panic under the write lock. -/
def Launch.run : Launch → List LaunchAction → Option Launch
  | l, [] => some l
  | l, a :: as => (l.next cfg parse a).bind fun l => Launch.run l as

/-- The states of every run of a server `P2pServer.new` built, from the moment `start` has
    handed the main task over. -/
inductive Launch.Reachable : Launch → Prop
  | launch {peer_id : UInt64} {tag : Option RString} {max_peers : Nat} {multi_threaded : Bool}
      {server : P2pServer} (h : P2pServer.new peer_id tag max_peers multi_threaded = some server) :
      Launch.Reachable (World.launch cfg server)
  | step {l l' : Launch} (a : LaunchAction) : Launch.Reachable l → l.next cfg parse a = some l' →
      Launch.Reachable l'

theorem Launch.reachable_run {l l' : Launch} (hl : Launch.Reachable cfg parse l) :
    ∀ {actions : List LaunchAction}, Launch.run cfg parse l actions = some l' →
      Launch.Reachable cfg parse l'
  | [], h => by cases h; exact hl
  | a :: as, h => by
    simp only [Launch.run, Option.bind_eq_some] at h
    obtain ⟨l₁, h₁, h₂⟩ := h
    exact Launch.reachable_run (.step a hl h₁) h₂

/-- `World.start` is the node once the rest of `start` has run, before any task's step. -/
theorem World.launch_startListener (server : P2pServer) :
    (World.launch cfg server).next cfg parse .openListener =
      some ⟨World.start cfg server, true⟩ := by
  cases h : server.multi_threaded <;>
    simp [Launch.next, World.launch, World.startListener, World.start, h]

/-- **The atomic `start` is one schedule.**  Every state `World.Reachable` describes is reached
    here too, the rest of `start` having run before any step of a task. -/
theorem Launch.reachable_of_world {w : World} (hw : World.Reachable cfg parse w) :
    Launch.Reachable cfg parse ⟨w, true⟩ := by
  induction hw with
  | start hs => exact .step .openListener (.launch hs) (World.launch_startListener cfg parse _)
  | step a _ hn ih => exact .step (.task a) ih (by simp [Launch.next, hn])

end Launch

/-! ### A registration before the listener's channel -/

/-- A dev build of a node with one seed node, `10.0.0.3:2125`. -/
def Config.oneSeed : Config := ⟨FixedBytes.zero 16, [.V4 ⟨[10, 0, 0, 3], rfl⟩ 2125], true⟩

/-- **The main task registers before `start` opens the channel.**  In the single-threaded mode,
    the main task dials the seed node, which answers as node `3`, before the rest of `start` has
    taken the write lock.  `verify_handshake` accepts it, and registering it finds no channel under
    the server's own id: "no channel for single thread" panics with the write lock held. -/
theorem Launch.register_before_listener :
    ∃ l, Launch.Reachable Config.oneSeed SocketAddr.parseV4 l ∧
      l.world.server.multi_threaded = false ∧ l.opened = false ∧
      l.world.server.channels.get l.world.server.peer_id = none ∧ l.world.main.pending.isSome ∧
      l.next Config.oneSeed SocketAddr.parseV4 (.task (.register true)) = none := by
  have hrun : (Launch.run Config.oneSeed SocketAddr.parseV4
      (World.launch Config.oneSeed ⟨1, none, 8, false, KeyMap.empty, KeyMap.empty⟩)
      [.task (.dial (some (Handshake.bare 3).toBytes))]).map (fun l =>
        !l.world.server.multi_threaded && !l.opened &&
          (l.world.server.channels.get l.world.server.peer_id).isNone &&
          l.world.main.pending.isSome &&
          (l.next Config.oneSeed SocketAddr.parseV4 (.task (.register true))).isNone) =
        some true := by
    decide
  cases hr : Launch.run Config.oneSeed SocketAddr.parseV4
      (World.launch Config.oneSeed ⟨1, none, 8, false, KeyMap.empty, KeyMap.empty⟩)
      [.task (.dial (some (Handshake.bare 3).toBytes))] with
  | none => simp [hr] at hrun
  | some l =>
    simp only [hr, Option.map_some', Option.some.injEq, Bool.and_eq_true, Bool.not_eq_true',
      Option.isNone_iff_eq_none] at hrun
    obtain ⟨⟨⟨⟨h₁, h₂⟩, h₃⟩, h₄⟩, h₅⟩ := hrun
    exact ⟨l, Launch.reachable_run _ _ (.launch (rfl : P2pServer.new 1 none 8 false = some _)) hr,
      h₁, h₂, h₃, h₄, h₅⟩

end XelisP2p
