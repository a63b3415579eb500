import EnigmaCore.Rust
import Mathlib.Data.List.AList

namespace EnigmaCore.EpochKeeper

-- An `ethabi::Uint` (U256) is a `Nat` below `2 ^ 256`. The only arithmetic on one is the nonce
-- increment, `U256 + U256`, which panics on overflow.
def u256_add (a b : Nat) : Except Fault Nat :=
  if a + b < 2 ^ 256 then pure (a + b) else throw (.panic "arithmetic operation overflow")

-- `U256::from(&[u8])`: the bytes read big-endian.
def from_big_endian (bytes : Bytes) : Nat :=
  bytes.foldl (fun acc b => acc * 256 + b.toNat) 0

-- `LenientTokenizer::tokenize_uint` on a hex string: 32 bytes of hex. (Its decimal fallback is
-- never reached by the one constant it is applied to here.)
def tokenize_uint (value : String) : Option (ByteArr 32) := do
  let bytes ← hexBytes value.toList
  if h : bytes.length = 32 then some ⟨bytes, h⟩ else none

def INIT_NONCE : Nat := 0

def PREVERIFIED_BLOCK_HASH : String :=
  "ae67b813aa89d47d4ba4d34dcd8b77a57bd433338ac0980137f5a6ca81ff9566"

structure Epoch (Params : Type) where
  seed : Nat
  worker_params : Option Params
  preverified_block_hash : ByteArr 32

-- `HashMap<Uint, Epoch>`; the map keeps its keys distinct.
abbrev EpochMap (Params : Type) := AList (fun _ : Nat => Epoch Params)

structure Receipt (Log : Type) where
  logs : List Log

-- What the epoch keeper calls outside this module: the enclave's signing key, the decoding of
-- a receipt log into worker parameters, the check `Epoch::set_worker_params` makes, and the
-- worker selection of an epoch.
structure Keeper (Params Log Addr : Type) where
  sign : ByteArr 32 → Except Error (ByteArr 65)
  try_from : Log → Except Error Params
  check_params : Epoch Params → Params → Except Error Unit
  get_selected_workers : Epoch Params → Addr → Except Error (List Addr)

section Ecalls

variable {Params Log Header Hashes Addr : Type} (k : Keeper Params Log Addr)

/-- Modelled from the spec: `Epoch::set_worker_params` (enigma-tools-t, not in this excerpt)
attaches the worker parameters to the epoch and changes nothing else; the check it makes first
is the keeper's `check_params`. -/
def Epoch.set_worker_params (epoch : Epoch Params) (params : Params) :
    Except Error (Epoch Params) := do
  k.check_params epoch params
  pure { epoch with worker_params := some params }

-- `HashMap::insert`: the previous value at the key, if any.
def insert (nonce : Nat) (epoch : Epoch Params) : RustM (EpochMap Params) (Option (Epoch Params)) :=
  fun guard => .ok (guard.lookup nonce) (guard.insert nonce epoch)

@[simp] theorem insert_bind_apply {β : Type} (nonce : Nat) (epoch : Epoch Params)
    (f : Option (Epoch Params) → RustM (EpochMap Params) β) (guard : EpochMap Params) :
    (insert nonce epoch >>= f) guard = f (guard.lookup nonce) (guard.insert nonce epoch) := rfl

def get_epoch (guard : EpochMap Params) (block_number : Option Nat) :
    Except Fault (Option (Epoch Params)) := do
  if block_number.isSome then
    throw (.err (.WorkerAuthError "Epoch lookup by block number not implemented."))
  if guard.keys.isEmpty then
    return none
  let nonce ← match guard.keys.max? with
    | some n => pure n
    | none => return none
  let epoch ← (guard.lookup nonce).unwrap
  pure (some epoch)

def ecall_generate_epoch_seed_internal (rand : Except Error (ByteArr 32)) :
    RustM (EpochMap Params) Nat := do
  let guard ← get
  let epoch ← get_epoch guard none
  let nonce ← match epoch with
    | some _ => u256_add (← guard.keys.max?.unwrap) 1
    | none => pure INIT_NONCE
  let rand_out ← rand
  let _sig ← k.sign rand_out
  let seed := from_big_endian rand_out.bytes
  let new_epoch ← match epoch with
    | some epoch =>
        pure { seed, worker_params := none, preverified_block_hash := epoch.preverified_block_hash }
    | none => do
        let init_block_hash ← (tokenize_uint PREVERIFIED_BLOCK_HASH).unwrap
        pure { seed, worker_params := none, preverified_block_hash := init_block_hash }
  match ← insert nonce new_epoch with
  | some _ => pure ()
  | none => throw (.err (.WorkerAuthError "Unable to store new Epoch"))
  pure nonce

def ecall_get_verified_worker_params_internal (receipt : Receipt Log) (_receipt_hashes : Hashes)
    (block_headers : List Header) : RustM (EpochMap Params) Params := do
  let _block_header ← match block_headers.head? with
    | some block_header => pure block_header
    | none => throw (.err (.WorkerAuthError "The BlockHeaders parameter is empty."))
  let guard ← get
  let _epoch ← match ← get_epoch guard none with
    | some epoch => pure epoch
    | none => throw (.err (.WorkerAuthError "No Epoch found in storage."))
  let _nonce ← guard.keys.max?.unwrap
  let params ← k.try_from (← index receipt.logs 0)
  pure params

def ecall_set_worker_params_internal (params : Params) : RustM (EpochMap Params) Unit := do
  let nonce : Nat := 1
  let epoch_guard ← get
  let epoch ← match epoch_guard.lookup nonce with
    | some value => pure value
    | none => throw (.err (.WorkerAuthError
        "Cannot set the workers parameters without a nonce in the Epoch mutex."))
  let epoch ← Epoch.set_worker_params k epoch params
  set (epoch_guard.insert nonce epoch)

def ecall_get_epoch_workers_internal (sc_addr : Addr) (block_number : Option Nat) :
    RustM (EpochMap Params) (List Addr) := do
  let guard ← get
  let epoch ← match ← get_epoch guard block_number with
    | some epoch => pure epoch
    | none =>
      throw (.err (.WorkerAuthError "Cannot verify receipt without a nonce in the Epoch mutex."))
  let workers ← k.get_selected_workers epoch sc_addr
  pure workers

end Ecalls

end EnigmaCore.EpochKeeper
