import Mathlib.Data.List.Basic

namespace XelisP2p

/-!
# Core — `&mut self` methods: `Ok`, `Err`, or a panic

A Rust method that takes `&mut self` and returns `Result<α, ε>` is a function
`σ → Outcome σ ε α` of the state `σ` it mutates.  An `Err` keeps the state as the method left
it (Rust does not undo what happened before the `?`), and a panic — an index out of range, a
failed `assert!`, an `unwrap` on `Err`, an integer underflow — is an outcome of its own, so
that "never panics" is a statement about the model.

* `Method σ ε` is a monad whose `bind` is Rust's `?`;
* `Outcome.bind_eq_ok` — an `Ok` after `?` came from an `Ok` of the first call.
-/

/-- What a `&mut self` method returning `Result<α, ε>` comes back with. -/
inductive Outcome (σ ε α : Type) where
  | ok (a : α) (s : σ)
  | err (e : ε) (s : σ)
  | panic
deriving DecidableEq, Repr

/-- `?`: continue with the value of an `Ok`, pass an `Err` or a panic on. -/
def Outcome.bind {σ ε α β : Type} (x : Outcome σ ε α) (f : α → σ → Outcome σ ε β) :
    Outcome σ ε β :=
  match x with
  | .ok a s => f a s
  | .err e s => .err e s
  | .panic => .panic

/-- A `&mut self` method of a value of type `σ` returning `Result<α, ε>`. -/
def Method (σ ε α : Type) : Type := σ → Outcome σ ε α

instance {σ ε : Type} : Monad (Method σ ε) where
  pure a := fun s => .ok a s
  bind x f := fun s => (x s).bind f

section Method

variable {σ ε α β : Type}

/-- `return Err(e)`. -/
def Method.fail (e : ε) : Method σ ε α := fun s => .err e s

/-- A panic: a failed `assert!`, an `unwrap` on `Err`, or an index out of range. -/
def Method.abort : Method σ ε α := fun _ => .panic

/-- `if cond { return Err(e) }`. -/
def Method.failIf (c : Prop) [Decidable c] (e : ε) : Method σ ε Unit :=
  if c then Method.fail e else pure ()

/-- `.unwrap()` on an `Option`: a panic on `None`. -/
def Method.unwrap : Option α → Method σ ε α
  | some a => pure a
  | none => Method.abort

/-- What a function that panics or returns `Result<α, ε>` returns, once the state it worked
    on is dropped: `none` is a panic. -/
def Outcome.result : Outcome σ ε α → Option (Except ε α)
  | .ok a _ => some (.ok a)
  | .err e _ => some (.error e)
  | .panic => none

@[simp] theorem Method.pure_apply (a : α) (s : σ) : (pure a : Method σ ε α) s = .ok a s := rfl

@[simp] theorem Method.bind_apply (x : Method σ ε α) (f : α → Method σ ε β) (s : σ) :
    (x >>= f) s = (x s).bind f := rfl

@[simp] theorem Method.map_apply (f : α → β) (x : Method σ ε α) (s : σ) :
    (f <$> x) s = (x s).bind (fun a s' => .ok (f a) s') := rfl

@[simp] theorem Method.fail_apply (e : ε) (s : σ) : (Method.fail e : Method σ ε α) s = .err e s :=
  rfl

@[simp] theorem Method.abort_apply (s : σ) : (Method.abort : Method σ ε α) s = .panic := rfl

@[simp] theorem Method.unwrap_some (a : α) : (Method.unwrap (some a) : Method σ ε α) = pure a :=
  rfl

@[simp] theorem Outcome.bind_ok (a : α) (s : σ) (f : α → σ → Outcome σ ε β) :
    (Outcome.ok a s).bind f = f a s := rfl

@[simp] theorem Outcome.bind_err (e : ε) (s : σ) (f : α → σ → Outcome σ ε β) :
    (Outcome.err e s : Outcome σ ε α).bind f = .err e s := rfl

@[simp] theorem Outcome.bind_panic (f : α → σ → Outcome σ ε β) :
    (Outcome.panic : Outcome σ ε α).bind f = .panic := rfl

/-- An `Ok` after `?` came from an `Ok` of the first call. -/
theorem Outcome.bind_eq_ok {x : Outcome σ ε α} {f : α → σ → Outcome σ ε β} {b : β} {s' : σ} :
    x.bind f = .ok b s' ↔ ∃ a s, x = .ok a s ∧ f a s = .ok b s' := by
  cases x with
  | ok a s => exact ⟨fun h => ⟨a, s, rfl, h⟩, fun ⟨_, _, he, h⟩ => by cases he; exact h⟩
  | err e s => simp [Outcome.bind]
  | panic => simp [Outcome.bind]

end Method

end XelisP2p
