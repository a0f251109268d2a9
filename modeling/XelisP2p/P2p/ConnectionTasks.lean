import XelisP2p.P2p.Connection

namespace XelisP2p

/-!
# P2P — `close` and `send_bytes` on one connection, from concurrent tasks

`p2p/connection.rs`.  `close()` stores `closed = true`, sends `Exit` on the connection's own
channel, then takes the stream's lock and shuts the stream down; `send_bytes(buf)` takes the
stream's lock, writes `buf`, adds its length to `bytes_out` and flushes.  Each `.await` is a
point where other tasks may run, so each call is a program counter and a step is one atomic
part of one call.  `send_bytes` never reads `closed`: what stops it is the shutdown, which
`close` makes only once it holds the stream's lock.

* `ConnTasks.next` — one step of `close` or of one `send_bytes` call;
* `ConnTasks.send_after_store` — a call made after `closed` is stored can still take the
  stream first, write, count its bytes and return `Ok`;
* `ConnTasks.Inv` — the stream's lock is held by the call that is past it, and after the
  shutdown only an empty buffer gets past `write_all`;
* `ConnTasks.frozen_after_shutdown` — so once the stream is shut down, `bytes_out` and what is
  on the wire stay as they are, and every call that returns `Ok` after that had nothing to
  write;
* `ConnTasks.send_after_close` — in particular a call made once `close()` has returned `Ok`
  is made with `is_closed()` true and returns `Ok` only with an empty buffer.
-/

/-- The call that holds the stream's `Mutex`. -/
inductive StreamHolder
  | close
  | send (i : Nat)
deriving DecidableEq, Repr

/-- Where `close()` is: at `closed.store(true)`, at `tx.send(Exit)`, waiting for the stream's
    lock, holding it at `shutdown()`, or returned. -/
inductive ClosePc
  | store
  | exit
  | lock
  | shutdown
  | ok
  | err (e : P2pError)
deriving DecidableEq, Repr

/-- Where a `send_bytes(buf)` call is: waiting for the stream's lock, holding it at
    `write_all`, at `bytes_out.fetch_add`, at `flush`, or returned. -/
inductive SendPc
  | lock
  | write
  | count
  | flush
  | ok
  | err (e : P2pError)
deriving DecidableEq, Repr

/-- A `send_bytes(buf)` call, and whether `is_closed()` was already true when it was made. -/
structure SendCall where
  buf : List UInt8
  pc : SendPc
  after_close : Bool
deriving DecidableEq, Repr

/-- One connection and the calls on it: the connection, the holder of its stream's lock,
    whether the stream is shut down, the bytes `write_all` put on the wire, the `close` call,
    and the `send_bytes` calls in the order they were made. -/
structure ConnTasks where
  conn : Connection
  holder : Option StreamHolder
  shut : Bool
  written : List UInt8
  close : ClosePc
  sends : List SendCall
deriving DecidableEq

/-- One step, with what the socket answered. -/
inductive ConnAction
  /-- The next part of `close()`; `ok` is whether `shutdown()` succeeds. -/
  | close (ok : Bool)
  /-- A task calls `send_bytes(buf)`. -/
  | call (buf : List UInt8)
  /-- The next part of the `i`-th call; `ok` is whether `write_all` and `flush` succeed. -/
  | send (i : Nat) (ok : Bool)
deriving DecidableEq, Repr

/-- The next part of `close()`.  `tx.send(Exit)` cannot fail: the receiver is a field of the
    same connection. -/
def ConnTasks.closeStep (t : ConnTasks) (ok : Bool) : ConnTasks :=
  match t.close with
  | .store => { t with conn := { t.conn with closed := true }, close := .exit }
  | .exit => { t with conn := { t.conn with mailbox := t.conn.mailbox ++ [.Exit] }, close := .lock }
  | .lock => if t.holder = none then { t with holder := some .close, close := .shutdown } else t
  | .shutdown =>
    if ok then { t with holder := none, shut := true, close := .ok }
    else { t with holder := none, close := .err (.ErrorStd .Other) }
  | _ => t

/-- The next part of the `i`-th `send_bytes` call.  `write_all` of an empty buffer returns at
    once; otherwise it fails on a stream that is shut down. -/
def ConnTasks.sendStep (t : ConnTasks) (i : Nat) (call : SendCall) (ok : Bool) : ConnTasks :=
  match call.pc with
  | .lock =>
    if t.holder = none then
      { t with holder := some (.send i), sends := t.sends.set i { call with pc := .write } }
    else t
  | .write =>
    if (t.shut ∨ ok = false) ∧ call.buf ≠ [] then
      { t with holder := none, sends := t.sends.set i { call with pc := .err (.ErrorStd .Other) } }
    else
      { t with written := t.written ++ call.buf, sends := t.sends.set i { call with pc := .count } }
  | .count =>
    { t with conn := { t.conn with bytes_out := t.conn.bytes_out + call.buf.length }
             sends := t.sends.set i { call with pc := .flush } }
  | .flush =>
    { t with holder := none
             sends := t.sends.set i { call with pc := if ok then .ok else .err (.ErrorStd .Other) } }
  | _ => t

/-- The effect of one step; a call that is waiting for the lock, or returned, does nothing. -/
def ConnTasks.next (t : ConnTasks) : ConnAction → ConnTasks
  | .close ok => t.closeStep ok
  | .call buf => { t with sends := t.sends ++ [⟨buf, .lock, t.conn.closed⟩] }
  | .send i ok =>
    match t.sends[i]? with
    | some call => t.sendStep i call ok
    | none => t

/-- The connection when `close()` is called: no call on it yet. -/
def ConnTasks.init (c : Connection) : ConnTasks := ⟨c, none, false, [], .store, []⟩

/-- The steps in order. -/
def ConnTasks.run (t : ConnTasks) (actions : List ConnAction) : ConnTasks :=
  actions.foldl ConnTasks.next t

/-- The states of every interleaving of `close()` with `send_bytes` calls on `c`. -/
inductive ConnTasks.Reachable (c : Connection) : ConnTasks → Prop
  | init : ConnTasks.Reachable c (ConnTasks.init c)
  | step {t : ConnTasks} (a : ConnAction) : ConnTasks.Reachable c t →
      ConnTasks.Reachable c (t.next a)

theorem ConnTasks.reachable_run {c : Connection} {t : ConnTasks} (ht : ConnTasks.Reachable c t) :
    ∀ actions, ConnTasks.Reachable c (t.run actions)
  | [] => ht
  | a :: as => ConnTasks.reachable_run (.step a ht) as

/-! ### A call made after `closed` is stored -/

/-- **`send_bytes` after `is_closed()`.**  On any connection, for any buffer: `close()` stores
    `closed = true`, then a task calls `send_bytes(buf)`, which takes the stream's lock before
    `close` does, writes, counts and flushes.  The call was made with `is_closed()` true, and
    it returns `Ok` with `bytes_out` grown by `buf.len()`. -/
theorem ConnTasks.send_after_store (c : Connection) (buf : List UInt8) :
    ∃ t, ConnTasks.Reachable c t ∧ t.conn.closed = true ∧
      t.sends = [⟨buf, .ok, true⟩] ∧ t.conn.bytes_out = c.bytes_out + buf.length :=
  ⟨_, ConnTasks.reachable_run .init
    [.close true, .call buf, .send 0 true, .send 0 true, .send 0 true, .send 0 true], by
      simp [ConnTasks.run, ConnTasks.next, ConnTasks.closeStep, ConnTasks.sendStep, ConnTasks.init]⟩

/-! ### The stream's lock and the shutdown -/

/-- What the stream's lock keeps: a call past the lock holds it, as `close` does at
    `shutdown()`; once the stream is shut down, `close` has returned, and a call past
    `write_all` had nothing to write. -/
structure ConnTasks.Inv (t : ConnTasks) : Prop where
  send_holds : ∀ (i : Nat) (call : SendCall), t.sends[i]? = some call →
    (call.pc = .write ∨ call.pc = .count ∨ call.pc = .flush) → t.holder = some (.send i)
  close_holds : t.close = .shutdown → t.holder = some .close
  shut_close : t.shut = true → t.close = .ok
  shut_empty : t.shut = true → ∀ (i : Nat) (call : SendCall), t.sends[i]? = some call →
    (call.pc = .count ∨ call.pc = .flush) → call.buf = []

section Inv

variable {t : ConnTasks}

theorem ConnTasks.Inv.init (c : Connection) : (ConnTasks.init c).Inv := by
  constructor <;> intros <;> simp_all [ConnTasks.init]

/-- No call is past the lock while it is free or `close` holds it. -/
theorem ConnTasks.Inv.no_send_past (h : t.Inv) (hfree : ∀ i, t.holder ≠ some (.send i))
    {i : Nat} {call : SendCall} (hc : t.sends[i]? = some call) :
    ¬(call.pc = .write ∨ call.pc = .count ∨ call.pc = .flush) :=
  fun hp => hfree i (h.send_holds i call hc hp)

theorem ConnTasks.Inv.closeStep (h : t.Inv) (ok : Bool) : (t.closeStep ok).Inv := by
  unfold ConnTasks.closeStep
  split
  · exact ⟨h.send_holds, fun hc => (nomatch hc),
      fun hs => absurd (h.shut_close hs) (by simp_all), h.shut_empty⟩
  · exact ⟨h.send_holds, fun hc => (nomatch hc),
      fun hs => absurd (h.shut_close hs) (by simp_all), h.shut_empty⟩
  · rename_i hclose
    split_ifs with hfree
    · refine ⟨fun i call hc hp => absurd hp (h.no_send_past (by simp [hfree]) hc), fun _ => rfl,
        fun hs => absurd (h.shut_close hs) (by simp_all), fun hs => ?_⟩
      exact absurd (h.shut_close hs) (by simp_all)
    · exact h
  · rename_i hclose
    have hfree : ∀ i, t.holder ≠ some (.send i) := by simp [h.close_holds hclose]
    split_ifs
    · refine ⟨fun i call hc hp => absurd hp (h.no_send_past hfree hc), fun hc => (nomatch hc),
        fun _ => rfl, fun _ i call hc hp => absurd (Or.inr hp) (h.no_send_past hfree hc)⟩
    · exact ⟨fun i call hc hp => absurd hp (h.no_send_past hfree hc), fun hc => (nomatch hc),
        fun hs => absurd (h.shut_close hs) (by simp_all), h.shut_empty⟩
  · exact h

/-- A new call is the last one. -/
theorem ConnTasks.getElem?_append_call {sends : List SendCall} {x c : SendCall} {j : Nat}
    (h : (sends ++ [x])[j]? = some c) : sends[j]? = some c ∨ c = x := by
  rw [List.getElem?_append] at h
  split_ifs at h
  · exact .inl h
  · rcases hk : j - sends.length with _ | k
    · rw [hk] at h; exact .inr (Option.some.inj h).symm
    · rw [hk] at h; simp at h

/-- The `i`-th call moved on to `pc`; the others are as they were. -/
theorem ConnTasks.getElem?_set_call {sends : List SendCall} {i j : Nat} {call c : SendCall}
    {pc : SendPc} (hi : sends[i]? = some call) (h : (sends.set i { call with pc })[j]? = some c) :
    (j = i ∧ c = { call with pc }) ∨ (j ≠ i ∧ sends[j]? = some c) := by
  by_cases hij : i = j
  · subst hij
    have hlt : i < sends.length := (List.getElem?_eq_some_iff.mp hi).1
    rw [List.getElem?_set_self hlt] at h
    exact .inl ⟨rfl, (Option.some.inj h).symm⟩
  · rw [List.getElem?_set_ne hij] at h
    exact .inr ⟨Ne.symm hij, h⟩

theorem ConnTasks.Inv.call (h : t.Inv) (buf : List UInt8) :
    (t.next (.call buf)).Inv := by
  refine ⟨fun j c hc hp => ?_, h.close_holds, h.shut_close, fun hs j c hc hp => ?_⟩ <;>
    rcases ConnTasks.getElem?_append_call hc with hc | rfl
  · exact h.send_holds j c hc hp
  · simp at hp
  · exact h.shut_empty hs j c hc hp
  · simp at hp

theorem ConnTasks.Inv.sendStep (h : t.Inv) {i : Nat} {call : SendCall}
    (hc : t.sends[i]? = some call) (ok : Bool) : (t.sendStep i call ok).Inv := by
  unfold ConnTasks.sendStep
  split
  · rename_i hpc
    split_ifs with hfree
    · refine ⟨fun j c hj hp => ?_, fun hcl => absurd (h.close_holds hcl) (by simp [hfree]),
        h.shut_close, fun hs j c hj hp => ?_⟩ <;>
        rcases ConnTasks.getElem?_set_call hc hj with ⟨rfl, rfl⟩ | ⟨hji, hj⟩
      · rfl
      · exact absurd (h.send_holds j c hj hp) (by simp [hfree])
      · simp at hp
      · exact h.shut_empty hs j c hj hp
    · exact h
  · rename_i hpc
    have hhold := h.send_holds i call hc (.inl hpc)
    split_ifs with hcond
    · refine ⟨fun j c hj hp => ?_, fun hcl => absurd (h.close_holds hcl) (by simp [hhold]),
        h.shut_close, fun hs j c hj hp => ?_⟩ <;>
        rcases ConnTasks.getElem?_set_call hc hj with ⟨rfl, rfl⟩ | ⟨hji, hj⟩
      · simp at hp
      · exact absurd (h.send_holds j c hj hp) (by simp [hhold, Ne.symm hji])
      · simp at hp
      · exact h.shut_empty hs j c hj hp
    · refine ⟨fun j c hj hp => ?_, h.close_holds, h.shut_close, fun hs j c hj hp => ?_⟩ <;>
        rcases ConnTasks.getElem?_set_call hc hj with ⟨rfl, rfl⟩ | ⟨hji, hj⟩
      · exact hhold
      · exact h.send_holds j c hj hp
      · exact not_not.mp (not_and.mp hcond (.inl hs))
      · exact h.shut_empty hs j c hj hp
  · rename_i hpc
    have hhold := h.send_holds i call hc (.inr (.inl hpc))
    refine ⟨fun j c hj hp => ?_, h.close_holds, h.shut_close, fun hs j c hj hp => ?_⟩ <;>
      rcases ConnTasks.getElem?_set_call hc hj with ⟨rfl, rfl⟩ | ⟨hji, hj⟩
    · exact hhold
    · exact h.send_holds j c hj hp
    · exact h.shut_empty hs j call hc (.inl hpc)
    · exact h.shut_empty hs j c hj hp
  · rename_i hpc
    have hhold := h.send_holds i call hc (.inr (.inr hpc))
    refine ⟨fun j c hj hp => ?_, fun hcl => absurd (h.close_holds hcl) (by simp [hhold]),
      h.shut_close, fun hs j c hj hp => ?_⟩ <;>
      rcases ConnTasks.getElem?_set_call hc hj with ⟨rfl, rfl⟩ | ⟨hji, hj⟩
    · cases ok <;> simp at hp
    · exact absurd (h.send_holds j c hj hp) (by simp [hhold, Ne.symm hji])
    · cases ok <;> simp at hp
    · exact h.shut_empty hs j c hj hp
  · exact h

theorem ConnTasks.Inv.next (h : t.Inv) : ∀ a, (t.next a).Inv
  | .close ok => h.closeStep ok
  | .call buf => h.call buf
  | .send i ok => by
    cases hc : t.sends[i]? with
    | none => simpa [ConnTasks.next, hc] using h
    | some call => simpa [ConnTasks.next, hc] using h.sendStep hc ok

theorem ConnTasks.Reachable.inv {c : Connection} (ht : ConnTasks.Reachable c t) : t.Inv := by
  induction ht with
  | init => exact ConnTasks.Inv.init c
  | step a _ ih => exact ih.next a

/-! ### After the shutdown -/

/-- One step once the stream is shut down: the stream stays shut, `bytes_out` and the bytes on
    the wire stay as they are, and a call that has returned `Ok` either had already, or had
    nothing to write. -/
def ConnTasks.Frozen (t t' : ConnTasks) : Prop :=
  t'.shut = true ∧ t'.conn.bytes_out = t.conn.bytes_out ∧ t'.written = t.written ∧
    ∀ (j : Nat) (c : SendCall), t'.sends[j]? = some c → c.pc = .ok →
      c.buf = [] ∨ t.sends[j]? = some c

theorem ConnTasks.Frozen.refl (hs : t.shut = true) : t.Frozen t :=
  ⟨hs, rfl, rfl, fun _ _ hc _ => .inr hc⟩

theorem ConnTasks.Frozen.trans {t' t'' : ConnTasks} (h₁ : t.Frozen t') (h₂ : t'.Frozen t'') :
    t.Frozen t'' := by
  refine ⟨h₂.1, h₂.2.1.trans h₁.2.1, h₂.2.2.1.trans h₁.2.2.1, fun j c hc hok => ?_⟩
  rcases h₂.2.2.2 j c hc hok with hb | hc'
  · exact .inl hb
  · exact h₁.2.2.2 j c hc' hok

/-- A call's step once the stream is shut down: a non-empty buffer fails at `write_all`. -/
theorem ConnTasks.Inv.sendStep_frozen (h : t.Inv) (hs : t.shut = true) {i : Nat}
    {call : SendCall} (hc : t.sends[i]? = some call) (ok : Bool) :
    t.Frozen (t.sendStep i call ok) := by
  have hset : ∀ {pc : SendPc}, pc ≠ .ok → ∀ (j : Nat) (c : SendCall),
      (t.sends.set i { call with pc })[j]? = some c → c.pc = .ok →
      c.buf = [] ∨ t.sends[j]? = some c :=
    fun hpc j c hj hok => by
      rcases ConnTasks.getElem?_set_call hc hj with ⟨rfl, rfl⟩ | ⟨-, hj⟩
      · exact absurd hok hpc
      · exact .inr hj
  unfold ConnTasks.sendStep
  split
  · split_ifs
    · exact ⟨hs, rfl, rfl, hset (by simp)⟩
    · exact ConnTasks.Frozen.refl hs
  · split_ifs with hcond
    · exact ⟨hs, rfl, rfl, hset (by simp)⟩
    · have hb : call.buf = [] := not_not.mp (not_and.mp hcond (.inl hs))
      exact ⟨hs, rfl, by simp [hb], hset (by simp)⟩
  · rename_i hpc
    have hb := h.shut_empty hs i call hc (.inl hpc)
    exact ⟨hs, by simp [hb], rfl, hset (by simp)⟩
  · rename_i hpc
    have hb := h.shut_empty hs i call hc (.inr hpc)
    refine ⟨hs, rfl, rfl, fun j c hj hok => ?_⟩
    rcases ConnTasks.getElem?_set_call hc hj with ⟨rfl, rfl⟩ | ⟨-, hj⟩
    · exact .inl hb
    · exact .inr hj
  · exact ConnTasks.Frozen.refl hs

theorem ConnTasks.Inv.next_frozen (h : t.Inv) (hs : t.shut = true) :
    ∀ a, t.Frozen (t.next a)
  | .close ok => by
    simpa [ConnTasks.next, ConnTasks.closeStep, h.shut_close hs] using ConnTasks.Frozen.refl hs
  | .call buf => ⟨hs, rfl, rfl, fun j c hc hok => by
      rcases ConnTasks.getElem?_append_call hc with hc | rfl
      · exact .inr hc
      · cases hok⟩
  | .send i ok => by
    cases hc : t.sends[i]? with
    | none => simpa [ConnTasks.next, hc] using ConnTasks.Frozen.refl hs
    | some call => simpa [ConnTasks.next, hc] using h.sendStep_frozen hs hc ok

/-- Once the stream is shut down, every run from there on is frozen. -/
theorem ConnTasks.Reachable.frozen_run {c : Connection} (ht : ConnTasks.Reachable c t)
    (hs : t.shut = true) (actions : List ConnAction) : t.Frozen (t.run actions) := by
  induction actions generalizing t with
  | nil => exact ConnTasks.Frozen.refl hs
  | cons a as ih =>
    have h₁ := ht.inv.next_frozen hs a
    exact h₁.trans (ih (.step a ht) h₁.1)

/-- **After the shutdown, nothing more is sent.**  From any state of any interleaving in which
    `close()` has shut the stream down, whatever the tasks do next: `bytes_out` and the bytes on
    the wire stay as they are, and every `send_bytes` call that returns `Ok` from then on had an
    empty buffer.  It is the shutdown, made under the stream's lock, and not `closed`, that stops
    `send_bytes`. -/
theorem ConnTasks.frozen_after_shutdown {c : Connection} (ht : ConnTasks.Reachable c t)
    (hs : t.shut = true) (actions : List ConnAction) :
    (t.run actions).conn.bytes_out = t.conn.bytes_out ∧ (t.run actions).written = t.written ∧
      ∀ (j : Nat) (call : SendCall), (t.run actions).sends[j]? = some call → call.pc = .ok →
        call.buf = [] ∨ t.sends[j]? = some call :=
  (ht.frozen_run hs actions).2

end Inv

/-! ### Once `close()` has returned -/

section Closed

variable {t : ConnTasks}

/-- A part of a `send_bytes` call leaves `close()`, `closed` and the shutdown alone, and moves
    at most the call itself on. -/
theorem ConnTasks.sendStep_frame (t : ConnTasks) (i : Nat) (call : SendCall) (ok : Bool) :
    (t.sendStep i call ok).close = t.close ∧ (t.sendStep i call ok).conn.closed = t.conn.closed ∧
      (t.sendStep i call ok).shut = t.shut ∧ ((t.sendStep i call ok).sends = t.sends ∨
        ∃ pc, (t.sendStep i call ok).sends = t.sends.set i { call with pc }) := by
  unfold ConnTasks.sendStep
  split <;> (try split_ifs) <;>
    first | exact ⟨rfl, rfl, rfl, .inl rfl⟩ | exact ⟨rfl, rfl, rfl, .inr ⟨_, rfl⟩⟩

/-- `close()` stores `closed` first, and returns `Ok` only after the shutdown. -/
theorem ConnTasks.Reachable.closed {c : Connection} (ht : ConnTasks.Reachable c t) :
    (t.close ≠ .store → t.conn.closed = true) ∧ (t.close = .ok → t.shut = true) := by
  induction ht with
  | init => exact ⟨fun h => absurd rfl h, fun h => nomatch h⟩
  | step a _ ih =>
    rename_i t _
    cases a with
    | close ok =>
      simp only [ConnTasks.next, ConnTasks.closeStep]
      split <;> (try split_ifs) <;> simp_all
    | call buf => exact ih
    | send i ok =>
      simp only [ConnTasks.next]
      split
      · obtain ⟨h₁, h₂, h₃, -⟩ := t.sendStep_frame i _ ok
        rwa [h₁, h₂, h₃]
      · exact ih

/-- A step keeps `closed` stored, and every call keeps the `is_closed()` it was made with. -/
theorem ConnTasks.next_after_close {L : Nat} (hc : t.conn.closed = true)
    (h : ∀ (j : Nat) (call : SendCall), L ≤ j → t.sends[j]? = some call →
      call.after_close = true) (a : ConnAction) :
    (t.next a).conn.closed = true ∧ ∀ (j : Nat) (call : SendCall), L ≤ j →
      (t.next a).sends[j]? = some call → call.after_close = true := by
  cases a with
  | close ok =>
    simp only [ConnTasks.next, ConnTasks.closeStep]
    split <;> (try split_ifs) <;> first | exact ⟨hc, h⟩ | exact ⟨rfl, h⟩
  | call buf =>
    refine ⟨hc, fun j c hj hjc => ?_⟩
    rcases ConnTasks.getElem?_append_call hjc with hjc | rfl
    exacts [h j c hj hjc, hc]
  | send i ok =>
    simp only [ConnTasks.next]
    split
    · rename_i call hcall
      obtain ⟨-, h₂, -, hs⟩ := t.sendStep_frame i call ok
      refine ⟨h₂ ▸ hc, fun j c hj hjc => ?_⟩
      rcases hs with hs | ⟨pc, hs⟩
      · exact h j c hj (hs ▸ hjc)
      · rcases ConnTasks.getElem?_set_call hcall (hs ▸ hjc) with ⟨rfl, rfl⟩ | ⟨-, hjc⟩
        exacts [h j call hj hcall, h j c hj hjc]
    · exact ⟨hc, h⟩

/-- So every call made after a state with `closed` stored is made with `is_closed()` true. -/
theorem ConnTasks.run_after_close {L : Nat} : ∀ {t : ConnTasks}, t.conn.closed = true →
    (∀ (j : Nat) (call : SendCall), L ≤ j → t.sends[j]? = some call →
      call.after_close = true) →
    ∀ (actions : List ConnAction) (j : Nat) (call : SendCall), L ≤ j →
      (t.run actions).sends[j]? = some call → call.after_close = true
  | _, _, h, [] => h
  | _, hc, h, a :: as =>
    let ⟨hc', h'⟩ := ConnTasks.next_after_close hc h a
    ConnTasks.run_after_close hc' h' as

/-- **A call made once `close()` has returned.**  From any state of any interleaving in which
    `close()` has returned `Ok`, whatever the tasks do next: every `send_bytes` call made from
    then on is made with `is_closed()` true and returns `Ok` only with an empty buffer, and
    `bytes_out` does not change again.  Before the shutdown a call made with `is_closed()`
    true can still write. -/
theorem ConnTasks.send_after_close {c : Connection} (ht : ConnTasks.Reachable c t)
    (hc : t.close = .ok) (actions : List ConnAction) :
    (t.run actions).conn.bytes_out = t.conn.bytes_out ∧
      ∀ (j : Nat) (call : SendCall), t.sends.length ≤ j → (t.run actions).sends[j]? = some call →
        call.after_close = true ∧ (call.pc = .ok → call.buf = []) := by
  obtain ⟨hclosed, hshut⟩ := ht.closed
  have hfz := ht.frozen_run (hshut hc) actions
  refine ⟨hfz.2.1, fun j call hj hcall => ⟨?_, fun hok => ?_⟩⟩
  · exact ConnTasks.run_after_close (hclosed (by simp [hc]))
      (fun j' _ hj' h' => by simp [List.getElem?_eq_none hj'] at h') actions j call hj hcall
  · rcases hfz.2.2.2 j call hcall hok with hb | hold
    · exact hb
    · simp [List.getElem?_eq_none hj] at hold

end Closed

/-- A connection from `10.0.0.2:2125` that has sent and received nothing. -/
def Connection.scenario : Connection :=
  ⟨.Success, ⟨[], []⟩, .V4 ⟨[10, 0, 0, 2], rfl⟩ 2125, [], 0, 0, 0, false⟩

/-- `close()` on it has run to its end: the stream is shut down. -/
def ConnTasks.scenarioShut : ConnTasks :=
  (ConnTasks.init Connection.scenario).run [.close true, .close true, .close true, .close true]

/-- On it, `close()` stores `closed = true`, and a call of `send_bytes([7])` made then takes
    the stream's lock first: it returns `Ok`, and `bytes_out` becomes `1`. -/
theorem send_after_store_scenario :
    ∃ t, ConnTasks.Reachable Connection.scenario t ∧ t.conn.closed = true ∧
      t.sends = [⟨[7], .ok, true⟩] ∧ t.conn.bytes_out = 1 :=
  ConnTasks.send_after_store _ _

/-- After the shutdown, a call of `send_bytes([7])` writes nothing and leaves `bytes_out` as it
    was. -/
theorem frozen_after_shutdown_scenario :
    ConnTasks.Reachable Connection.scenario ConnTasks.scenarioShut ∧
      ConnTasks.scenarioShut.shut = true ∧
      (ConnTasks.scenarioShut.run [.call [7], .send 0 true, .send 0 true]).conn.bytes_out =
        ConnTasks.scenarioShut.conn.bytes_out ∧
      (ConnTasks.scenarioShut.run [.call [7], .send 0 true, .send 0 true]).written =
        ConnTasks.scenarioShut.written ∧
      ∀ (j : Nat) (call : SendCall),
        (ConnTasks.scenarioShut.run [.call [7], .send 0 true, .send 0 true]).sends[j]? =
        some call → call.pc = .ok → call.buf = [] ∨ ConnTasks.scenarioShut.sends[j]? = some call :=
  have ht : ConnTasks.Reachable Connection.scenario ConnTasks.scenarioShut :=
    ConnTasks.reachable_run .init _
  ⟨ht, rfl, ConnTasks.frozen_after_shutdown ht rfl _⟩

/-- After `close()` returned on the scenario's connection, a call of `send_bytes([7])` is made
    with `is_closed()` true and fails at `write_all`; `bytes_out` stays `0`. -/
theorem send_after_close_scenario :
    ConnTasks.Reachable Connection.scenario ConnTasks.scenarioShut ∧
      ConnTasks.scenarioShut.close = .ok ∧
      (ConnTasks.scenarioShut.run [.call [7], .send 0 true, .send 0 true]).conn.bytes_out =
        ConnTasks.scenarioShut.conn.bytes_out ∧
      ∀ (j : Nat) (call : SendCall), ConnTasks.scenarioShut.sends.length ≤ j →
        (ConnTasks.scenarioShut.run [.call [7], .send 0 true, .send 0 true]).sends[j]? =
          some call → call.after_close = true ∧ (call.pc = .ok → call.buf = []) :=
  have ht : ConnTasks.Reachable Connection.scenario ConnTasks.scenarioShut :=
    ConnTasks.reachable_run .init _
  ⟨ht, rfl, ConnTasks.send_after_close ht rfl _⟩

end XelisP2p
