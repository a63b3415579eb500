import Mathlib.Algebra.Group.Nat.Basic
import Mathlib.Data.List.Basic

namespace EnigmaCore

abbrev Bytes := List UInt8

-- A Rust `[u8; n]`: the length is part of the type, so a value of the wrong size cannot be built.
structure ByteArr (n : Nat) where
  bytes : Bytes
  length_eq : bytes.length = n
deriving DecidableEq

-- The errors the code itself raises (`P2PErr` on the host, `EnclaveError::WorkerAuthError` in the
-- enclave); `Other` is whatever a collaborator (store, enclave, decoder) reports.
inductive Error where
  | P2PErr (cmd msg : String)
  | WorkerAuthError (err : String)
  | Other (what : String)
deriving DecidableEq, Repr

-- How a Rust call ends when it does not return a value: an `Err` passed up by `?`, or a panic,
-- which no caller in this code catches.
inductive Fault where
  | err (e : Error)
  | panic (msg : String)
deriving DecidableEq, Repr

instance instDecidableEqExcept {ε α : Type} [DecidableEq ε] [DecidableEq α] :
    DecidableEq (Except ε α)
  | .ok a, .ok b => decidable_of_iff (a = b) ⟨congrArg _, Except.ok.inj⟩
  | .error a, .error b => decidable_of_iff (a = b) ⟨congrArg _, Except.error.inj⟩
  | .ok _, .error _ => isFalse nofun
  | .error _, .ok _ => isFalse nofun

-- `?` on a collaborator's `Result`.
instance : MonadLift (Except Error) (Except Fault) := ⟨fun x => x.mapError .err⟩

-- A Rust function that holds the lock on one global (`DATABASE` or `EPOCH`): the global is
-- threaded through, and an `Err` or a panic keeps the writes made before it.
abbrev RustM (σ : Type) := EStateM Fault σ

instance {σ : Type} : MonadLift (Except Fault) (RustM σ) where
  monadLift x := fun s => match x with
    | .ok a => .ok a s
    | .error e => .error e s

-- `<[u8; n]>::clone_from_slice`, which panics unless the slice has exactly `n` bytes.
def clone_from_slice (n : Nat) (src : Bytes) : Except Fault (ByteArr n) :=
  if h : src.length = n then pure ⟨src, h⟩
  else throw (.panic "destination and source slices have different lengths")

-- `assert_eq!`, with the first line of its panic text: the `Debug` forms of the two sides that
-- follow it are not modelled.
def assert_eq {α : Type} [DecidableEq α] (left right : α) : Except Fault Unit :=
  if left = right then pure () else throw (.panic "assertion failed: `(left == right)`")

-- `slice[i]`, which panics past the end.
def index {α : Type} (l : List α) (i : Nat) : Except Fault α :=
  match l.get? i with
  | some a => pure a
  | none => throw (.panic ("index out of bounds: the len is " ++ toString l.length ++
      " but the index is " ++ toString i))

theorem index_nil_zero {α : Type} :
    index ([] : List α) 0 = throw (.panic "index out of bounds: the len is 0 but the index is 0") :=
  congrArg (fun msg => throw (Fault.panic msg)) (by rw [List.length_nil]; decide)

-- `slice[start..stop]`, which panics past the end or on a reversed range.
def slice_range {α : Type} (l : List α) (start stop : Nat) : Except Fault (List α) :=
  if l.length < stop then
    throw (.panic ("range end index " ++ toString stop ++ " out of range for slice of length " ++
      toString l.length))
  else if stop < start then
    throw (.panic ("slice index starts at " ++ toString start ++ " but ends at " ++ toString stop))
  else pure ((l.take stop).drop start)

-- `str::parse::<u32>`: decimal digits after an optional `+`, at most `u32::MAX`.
def parse_u32 (s : String) : Except Error UInt32 :=
  let digits := match s.toList with
    | '+' :: ds => ds
    | ds => ds
  if digits = [] then throw (.Other "cannot parse integer from empty string")
  else if digits.all Char.isDigit then
    let n := digits.foldl (fun acc c => 10 * acc + (c.toNat - '0'.toNat)) 0
    if n < 2 ^ 32 then pure n.toUInt32 else throw (.Other "number too large to fit in target type")
  else throw (.Other "invalid digit found in string")

-- `FromHex` (`hex` and `rustc_hex`): pairs of hex digits of either case, one byte each.
def hexDigit (c : Char) : Option Nat :=
  if '0' ≤ c ∧ c ≤ '9' then some (c.toNat - '0'.toNat)
  else if 'a' ≤ c ∧ c ≤ 'f' then some (c.toNat - 'a'.toNat + 10)
  else if 'A' ≤ c ∧ c ≤ 'F' then some (c.toNat - 'A'.toNat + 10)
  else none

def hexBytes : List Char → Option Bytes
  | [] => some []
  | hi :: lo :: rest => do
      let h ← hexDigit hi
      let l ← hexDigit lo
      let bytes ← hexBytes rest
      pure ((h * 16 + l).toUInt8 :: bytes)
  | [_] => none

-- `str::from_utf8`
def from_utf8 (v : Bytes) : Except Error String :=
  match String.fromUTF8? ⟨v.toArray⟩ with
  | some s => pure s
  | none => throw (.Other "Utf8Error")

end EnigmaCore

open EnigmaCore

-- The global as the call left it, whether it returned or failed.
def EStateM.Result.state {ε σ α : Type} : EStateM.Result ε σ α → σ
  | .ok _ s => s
  | .error _ s => s

@[simp] theorem EStateM.Result.state_ok {ε σ α : Type} (a : α) (s : σ) :
    (EStateM.Result.ok a s : EStateM.Result ε σ α).state = s := rfl

@[simp] theorem EStateM.Result.state_error {ε σ α : Type} (e : ε) (s : σ) :
    (EStateM.Result.error e s : EStateM.Result ε σ α).state = s := rfl

-- Whether the call panicked, which poisons the lock it held.
def EStateM.Result.panicked {σ α : Type} : EStateM.Result Fault σ α → Bool
  | .error (.panic _) _ => true
  | _ => false

namespace Option

variable {α : Type}

def expect (o : Option α) (msg : String) : Except Fault α :=
  match o with
  | some a => pure a
  | none => throw (.panic msg)

def unwrap (o : Option α) : Except Fault α :=
  match o with
  | some a => pure a
  | none => throw (.panic "called `Option::unwrap()` on a `None` value")

def ok_or (o : Option α) (e : Error) : Except Error α :=
  match o with
  | some a => pure a
  | none => throw e

end Option

namespace Except

variable {ε α : Type}

-- `Result::unwrap` and `Result::expect` end their panic text with the `Debug` form of the error,
-- which is not modelled.
def unwrap (x : Except Error α) : Except Fault α :=
  match x with
  | .ok a => pure a
  | .error _ => throw (.panic "called `Result::unwrap()` on an `Err` value")

def expect (x : Except Error α) (msg : String) : Except Fault α :=
  match x with
  | .ok a => pure a
  | .error _ => throw (.panic msg)

def unwrap_or_default [Inhabited α] (x : Except Error α) : α :=
  match x with
  | .ok a => a
  | .error _ => default

def is_err (x : Except ε α) : Bool :=
  match x with
  | .ok _ => false
  | .error _ => true

end Except

namespace EnigmaCore

section Lemmas

variable {ε σ α β : Type}

@[simp] theorem ok_bind (a : α) (f : α → Except ε β) : (Except.ok a >>= f) = f a := rfl

@[simp] theorem error_bind (e : ε) (f : α → Except ε β) :
    (Except.error e >>= f) = (Except.error e : Except ε β) := rfl

@[simp] theorem pure_eq_ok (a : α) : (pure a : Except ε α) = .ok a := rfl

@[simp] theorem throw_eq_error (e : ε) : (throw e : Except ε α) = .error e := rfl

theorem bind_eq_ok {x : Except ε α} {f : α → Except ε β} {b : β} :
    x >>= f = .ok b ↔ ∃ a, x = .ok a ∧ f a = .ok b := by
  cases x <;> simp [bind, Except.bind]

@[simp] theorem lift_ok (a : α) :
    (monadLift (Except.ok a : Except Error α) : Except Fault α) = .ok a := rfl

@[simp] theorem lift_error (e : Error) :
    (monadLift (Except.error e : Except Error α) : Except Fault α) = .error (.err e) := rfl

theorem lift_eq_ok {x : Except Error α} {a : α} :
    (monadLift x : Except Fault α) = .ok a ↔ x = .ok a := by
  cases x <;> simp

theorem bind_of_ok {x : RustM σ α} {f : α → RustM σ β} {s s' : σ} {a : α}
    (h : x s = .ok a s') : (x >>= f) s = f a s' := by
  show EStateM.bind x f s = _
  simp only [EStateM.bind, h]

theorem bind_of_error {x : RustM σ α} {f : α → RustM σ β} {s s' : σ} {e : Fault}
    (h : x s = .error e s') : (x >>= f) s = .error e s' := by
  show EStateM.bind x f s = _
  simp only [EStateM.bind, h]

theorem bindM_eq_ok {x : RustM σ α} {f : α → RustM σ β} {s s' : σ} {b : β} :
    (x >>= f) s = .ok b s' ↔ ∃ a s₁, x s = .ok a s₁ ∧ f a s₁ = .ok b s' := by
  constructor
  · intro h
    rcases hx : x s with ⟨a, s₁⟩ | ⟨e, s₁⟩
    · exact ⟨a, s₁, rfl, by rwa [bind_of_ok hx] at h⟩
    · rw [bind_of_error hx] at h
      cases h
  · rintro ⟨a, s₁, hx, h⟩
    rwa [bind_of_ok hx]

theorem bindM_eq_error {x : RustM σ α} {f : α → RustM σ β} {s s' : σ} {e : Fault} :
    (x >>= f) s = .error e s' ↔
      x s = .error e s' ∨ ∃ a s₁, x s = .ok a s₁ ∧ f a s₁ = .error e s' := by
  constructor
  · intro h
    rcases hx : x s with ⟨a, s₁⟩ | ⟨e', s₁⟩
    · exact .inr ⟨a, s₁, rfl, by rwa [bind_of_ok hx] at h⟩
    · rw [bind_of_error hx] at h
      cases h
      exact .inl rfl
  · rintro (hx | ⟨a, s₁, hx, h⟩)
    · exact bind_of_error hx
    · rwa [bind_of_ok hx]

@[simp] theorem pure_apply (a : α) (s : σ) : (pure a : RustM σ α) s = .ok a s := rfl

@[simp] theorem pure_bind_apply (a : α) (f : α → RustM σ β) (s : σ) :
    ((pure a : RustM σ α) >>= f) s = f a s := rfl

@[simp] theorem liftExcept_apply (x : Except Fault α) (s : σ) :
    (monadLift x : RustM σ α) s = match x with
      | .ok a => .ok a s
      | .error e => .error e s := rfl

@[simp] theorem liftError_apply (x : Except Error α) (s : σ) :
    (monadLift x : RustM σ α) s = match x with
      | .ok a => .ok a s
      | .error e => .error (.err e) s := by
  cases x <;> rfl

@[simp] theorem throw_bind_apply (e : Fault) (f : α → RustM σ β) (s : σ) :
    ((throw e : RustM σ α) >>= f) s = .error e s := rfl

@[simp] theorem set_apply (s' s : σ) : (set s' : RustM σ PUnit) s = .ok ⟨⟩ s' := rfl

@[simp] theorem get_bind_apply (f : σ → RustM σ β) (s : σ) :
    ((get : RustM σ σ) >>= f) s = f s s := rfl

@[simp] theorem liftExcept_bind_apply (x : Except Fault α) (f : α → RustM σ β) (s : σ) :
    ((monadLift x : RustM σ α) >>= f) s = match x with
      | .ok a => f a s
      | .error e => .error e s := by
  cases x <;> rfl

@[simp] theorem liftError_bind_apply (x : Except Error α) (f : α → RustM σ β) (s : σ) :
    ((monadLift x : RustM σ α) >>= f) s = match x with
      | .ok a => f a s
      | .error e => .error (.err e) s := by
  cases x <;> rfl

end Lemmas

section Outcomes

variable {ε σ α β : Type}

-- What a call can return: every `Ok` it ends with satisfies `P`; an `Err` or a panic is not
-- constrained.
def Returns (P : α → Prop) (x : Except ε α) : Prop := ∀ a, x = .ok a → P a

def ReturnsM (P : α → Prop) (x : RustM σ α) : Prop := ∀ s a s', x s = .ok a s' → P a

theorem Returns.pure {P : α → Prop} {a : α} (h : P a) : Returns P (pure a : Except ε α) := by
  rintro b ⟨⟩
  exact h

theorem Returns.throw {P : α → Prop} {e : ε} : Returns P (throw e : Except ε α) := by
  rintro b ⟨⟩

theorem Returns.bind {P : β → Prop} {x : Except ε α} {f : α → Except ε β}
    (h : ∀ a, Returns P (f a)) : Returns P (x >>= f) := fun b hb =>
  let ⟨a, _, ha⟩ := bind_eq_ok.1 hb
  h a b ha

theorem ReturnsM.pure {P : α → Prop} {a : α} (h : P a) : ReturnsM P (pure a : RustM σ α) := by
  rintro s b s' ⟨⟩
  exact h

theorem ReturnsM.bind {P : β → Prop} {x : RustM σ α} {f : α → RustM σ β}
    (h : ∀ a, ReturnsM P (f a)) : ReturnsM P (x >>= f) := by
  intro s b s' hb
  rcases hx : x s with ⟨a, s₁⟩ | ⟨e, s₁⟩
  · rw [bind_of_ok hx] at hb
    exact h a s₁ b s' hb
  · rw [bind_of_error hx] at hb
    cases hb

theorem ReturnsM.lift {P : α → Prop} {x : Except Fault α} (h : Returns P x) :
    ReturnsM P (monadLift x : RustM σ α) := by
  intro s a s' ha
  cases x with
  | ok b =>
    cases ha
    exact h a rfl
  | error e => cases ha

-- A loop with `?` in its body (`for x in l { v.push(f(x)?) }`, or `collect` into a `Result`):
-- it returns when every turn does, with the values in order, and it ends with the first `Err`.
theorem mapM_eq_ok {f : α → Except ε β} {l : List α} {bs : List β} :
    l.mapM f = .ok bs ↔ List.Forall₂ (fun a b => f a = .ok b) l bs := by
  induction l generalizing bs with
  | nil =>
    rw [List.mapM_nil, pure_eq_ok]
    cases bs with
    | nil => simp
    | cons b bs => simp only [Except.ok.injEq, List.nil_eq, reduceCtorEq, false_iff]; rintro ⟨⟩
  | cons a l ih =>
    rw [List.mapM_cons]
    cases bs with
    | nil =>
      simp only [bind_eq_ok, pure_eq_ok, Except.ok.injEq, reduceCtorEq, and_false, exists_false,
        false_iff]
      rintro ⟨⟩
    | cons b bs => simp [bind_eq_ok, ← ih]

theorem mapM_eq_error {f : α → Except ε β} {l : List α} {e : ε} (h : l.mapM f = .error e) :
    ∃ a ∈ l, f a = .error e := by
  induction l with
  | nil => cases h
  | cons a l ih =>
    rw [List.mapM_cons] at h
    cases ha : f a with
    | error e' =>
      rw [ha] at h
      cases h
      exact ⟨a, List.mem_cons_self a l, ha⟩
    | ok b =>
      rw [ha, ok_bind] at h
      cases hl : l.mapM f with
      | error e' =>
        rw [hl] at h
        cases h
        obtain ⟨x, hx, hfx⟩ := ih hl
        exact ⟨x, List.mem_cons_of_mem a hx, hfx⟩
      | ok bs =>
        rw [hl] at h
        cases h

theorem mapM_error_of_mem {f : α → Except ε β} {l : List α} {a : α} {e : ε} (ha : a ∈ l)
    (h : f a = .error e) : ∃ e', l.mapM f = .error e' := by
  induction l with
  | nil => cases ha
  | cons x l ih =>
    rw [List.mapM_cons]
    cases hx : f x with
    | error e' => exact ⟨e', rfl⟩
    | ok b =>
      rcases List.mem_cons.1 ha with rfl | ha
      · rw [h] at hx
        cases hx
      · obtain ⟨e', he⟩ := ih ha
        exact ⟨e', by rw [ok_bind, he]; rfl⟩

-- A call that never panics: whatever it fails with is an `Err`.
def NoPanic (x : Except Fault α) : Prop := ∀ f, x = .error f → ∃ e, f = .err e

theorem NoPanic.pure {a : α} : NoPanic (pure a : Except Fault α) := by
  rintro f ⟨⟩

theorem NoPanic.lift {x : Except Error α} : NoPanic (monadLift x : Except Fault α) := by
  intro f h
  cases x with
  | ok a => cases h
  | error e =>
    cases h
    exact ⟨e, rfl⟩

theorem NoPanic.bind {x : Except Fault α} {f : α → Except Fault β} (hx : NoPanic x)
    (hf : ∀ a, NoPanic (f a)) : NoPanic (x >>= f) := by
  intro e h
  cases h' : x with
  | error e' =>
    rw [h'] at h
    cases h
    exact hx e h'
  | ok a =>
    rw [h', ok_bind] at h
    exact hf a e h

theorem NoPanic.mapM {f : α → Except Fault β} (hf : ∀ a, NoPanic (f a)) (l : List α) :
    NoPanic (l.mapM f) := fun e h =>
  let ⟨a, _, ha⟩ := mapM_eq_error h
  hf a e ha

theorem bind_pure_state {x : RustM σ α} {g : α → β} {s : σ} :
    ((x >>= fun a => pure (g a)) s).state = (x s).state := by
  rcases hx : x s with ⟨a, s'⟩ | ⟨e, s'⟩
  · rw [bind_of_ok hx]
    rfl
  · rw [bind_of_error hx]
    rfl

end Outcomes

end EnigmaCore
