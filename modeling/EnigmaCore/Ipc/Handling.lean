import EnigmaCore.Ipc.Messages

namespace EnigmaCore.Ipc

section Handling

variable {δ : Type} (env : Env δ)

-- A handler that only reads the store: it sees the locked `DATABASE` and leaves it as it was.
def reading {α : Type} (f : δ → Except Fault α) : RustM δ α := fun s =>
  match f s with
  | .ok a => .ok a s
  | .error e => .error e s

-- One call on the locked `DATABASE` that may write it.
def withLock {α : Type} (f : δ → α × δ) : RustM δ α := fun s => .ok (f s).1 (f s).2

@[simp] theorem withLock_bind_apply {α β : Type} (f : δ → α × δ) (g : α → RustM δ β) (s : δ) :
    (withLock f >>= g) s = g (f s).1 (f s).2 := rfl

def get_registration_params (id : String) (eid : Eid) : Except Fault Message := do
  let sigining_key ← env.get_register_signing_address eid
  let enc_quote ← env.retry_quote eid env.spid 18
  let response ← env.get_report enc_quote
  let quote ← env.get_quote response
  let report_hex := env.to_hex response.result.report_string.toUTF8.toList
  let signature := response.result.signature
  let report_data ← from_utf8 quote.report_body.report_data
  assert_eq (report_data.dropRightWhile (· == '\x00')) sigining_key
  pure (.response
    (.GetRegistrationParams id (.RegistrationParams sigining_key report_hex signature)))

def identity_challange (id nonce : String) : Except Fault Message :=
  throw (.panic ("not implemented: identity_challenge: " ++ id ++ ", " ++ nonce))

def get_tip (id input : String) (db : δ) : Except Fault Message := do
  let address ← env.from_hex_32 input
  let (tip_key, tip_data) ← env.db.get_tip db address
  let key ← tip_key.key_type.unwrap_delta
  let delta : IpcDelta := { address := none, key, delta := some (env.to_hex tip_data) }
  pure (.response (.GetTip id delta))

def get_tips (id : String) (input : List String) (db : δ) : Except Fault Message := do
  let tips_results ← input.mapM fun data => do
    let address ← env.from_hex_32 data
    let (tip_key, tip_data) ← env.db.get_tip db address
    let delta ← env.from_delta_key tip_key tip_data
    pure delta
  pure (.response (.GetTips id (.Tips tips_results)))

def get_all_tips (id : String) (db : δ) : Except Fault Message := do
  let tips := (env.db.get_all_tips db).unwrap_or_default
  let tips_results ← tips.mapM fun (key, data) => do
    let delta ← env.from_delta_key key data
    pure delta
  pure (.response (.GetAllTips id (.Tips tips_results)))

def get_all_addrs (id : String) (db : δ) : Except Fault Message :=
  let addresses :=
    (env.db.get_all_addresses db).unwrap_or_default.map fun addr => env.to_hex addr.bytes
  pure (.response (.GetAllAddrs id (.Addresses addresses)))

def get_delta (id : String) (input : IpcDelta) (db : δ) : Except Fault Message := do
  let address ← env.from_hex_32 (← input.address.ok_or (.P2PErr "GetDelta" "Address Missing"))
  let delta_key : DeltaKey := ⟨address, .Delta input.key⟩
  let delta ← env.db.get_delta db delta_key
  pure (.response (.GetDelta id (.Delta (env.to_hex delta))))

def get_deltas (id : String) (input : List IpcGetDeltas) (db : δ) : Except Fault Message := do
  let results ← input.mapM fun data => do
    let address ← env.from_hex_32 data.address
    let from_key : DeltaKey := ⟨address, .Delta data.«from»⟩
    let to_key : DeltaKey := ⟨address, .Delta data.«to»⟩
    match ← env.db.get_deltas db from_key to_key with
    | none => pure [default]
    | some db_res => db_res.mapM fun (key, data) => do
        let delta ← env.from_delta_key key data
        pure delta
  pure (.response (.GetDeltas id (.Deltas results.flatten)))

def get_contract (id input : String) (db : δ) : Except Fault Message := do
  let address ← env.from_hex_32 input
  let data := (env.db.get_contract db address).unwrap_or_default
  pure (.response (.GetContract id (.Bytecode (env.to_hex data))))

def update_new_contract (id address bytecode : String) : RustM δ Message := do
  let address_arr ← env.from_hex_32 address
  let bytecode ← env.from_hex bytecode
  let delta_key : DeltaKey := ⟨address_arr, .ByteCode⟩
  let result ← withLock fun db => env.db.force_update db delta_key bytecode
  let () ← result
  pure (.response (.UpdateNewContract id address (.Status 0)))

-- One turn of the loop that builds the tuples of `update_deltas`.
def deltaTuple (delta : IpcDelta) : Except Fault (DeltaKey × Bytes) := do
  let address ← env.from_hex_32 (← delta.address.ok_or (.P2PErr "UpdateDeltas" "Address Missing"))
  let data ← env.from_hex (← delta.delta.ok_or (.P2PErr "UpdateDeltas" "Delta Data Missing"))
  let delta_key : DeltaKey := ⟨address, .Delta delta.key⟩
  pure (delta_key, data)

-- One turn of the loop over `tuples.zip(results)`.
def deltaResult (entry : (DeltaKey × Bytes) × Except Error Unit) : Except Fault IpcDeltaResult := do
  let ((deltakey, _), res) := entry
  let status : UInt8 := if res.is_err then 1 else 0
  let key ← deltakey.key_type.unwrap_delta
  let address := env.to_hex deltakey.hash.bytes
  pure { address, key, status }

def update_deltas (id : String) (deltas : List IpcDelta) : RustM δ Message := do
  let tuples ← (deltas.mapM (deltaTuple env) : Except Fault _)
  let results ← withLock fun db => env.db.insert_tuples db tuples
  let errors ← ((tuples.zip results).mapM (deltaResult env) : Except Fault _)
  pure (.response (.UpdateDeltas id (.UpdateDeltasResult 0 errors)))

def get_dh_user_key (id user_pubkey_hex : String) (eid : Eid) : Except Fault Message := do
  let user_pubkey ← clone_from_slice 64 (← (env.from_hex user_pubkey_hex).unwrap)
  let (msg, sig) ← env.get_user_key eid user_pubkey
  let res ← (env.pubkey_of_msg msg).unwrap
  let pubkey ← res
  pure (.response (.NewTaskEncryptionKey id (.DHKey (env.to_hex pubkey) (env.to_hex sig))))

def get_ptt_req (id : String) (addresses : List String) (eid : Eid) : Except Fault Message := do
  let addresses_arr ← addresses.mapM fun a => do
    let arr ← env.from_hex_32 a
    pure arr
  let (data, sig) ← env.ptt_req eid addresses_arr
  pure (.response (.GetPTTRequest id (.Request (env.to_hex data) (env.to_hex sig))))

def deploy_contract (id : String) (input : IpcTask) (eid : Eid) : Except Fault Message := do
  let bytecode ← env.from_hex (← input.pre_code.expect "Bytecode Missing")
  let contract_address ← env.from_hex_32 input.address
  let enc_args ← env.from_hex input.encrypted_args
  let constructor ← env.from_hex input.encrypted_fn
  let user_pubkey ← clone_from_slice 64 (← env.from_hex input.user_pubkey)
  let result ← env.deploy eid bytecode constructor enc_args contract_address user_pubkey
    input.gas_limit
  pure (.response (.DeploySecretContract id (.TaskResult (some (env.to_hex result.output))
    (some (env.to_hex (env.keccak256 bytecode))) result.used_gas none result.delta
    (env.to_hex result.signature))))

def compute_task (id : String) (input : IpcTask) (eid : Eid) (db : δ) : Except Fault Message := do
  let enc_args ← env.from_hex input.encrypted_args
  let address ← env.from_hex_32 input.address
  let callable ← env.from_hex input.encrypted_fn
  let user_pubkey ← clone_from_slice 64 (← env.from_hex input.user_pubkey)
  let bytecode ← env.db.get_contract db address
  let result ← env.execute eid bytecode callable enc_args user_pubkey address input.gas_limit
  pure (.response (.ComputeTask id (.TaskResult none none result.used_gas
    (some (env.to_hex result.output)) result.delta (env.to_hex result.signature))))

-- The `match msg.into()` of `handle_message`: one request routed to its handler.
def handleRequest (eid : Eid) : IpcRequest → RustM δ Message
  | .GetRegistrationParams id => get_registration_params env id eid
  | .IdentityChallenge id nonce => identity_challange id nonce
  | .GetTip id input => reading (get_tip env id input)
  | .GetTips id input => reading (get_tips env id input)
  | .GetAllTips id => reading (get_all_tips env id)
  | .GetAllAddrs id => reading (get_all_addrs env id)
  | .GetDelta id input => reading (get_delta env id input)
  | .GetDeltas id input => reading (get_deltas env id input)
  | .GetContract id input => reading (get_contract env id input)
  | .UpdateNewContract id address bytecode => update_new_contract env id address bytecode
  | .UpdateDeltas id deltas => update_deltas env id deltas
  | .NewTaskEncryptionKey id user_pubkey => get_dh_user_key env id user_pubkey eid
  | .DeploySecretContract id input => deploy_contract env id input eid
  | .ComputeTask id input => reading (compute_task env id input eid)
  | .GetPTTRequest id addresses => get_ptt_req env id addresses eid

-- `response_msg.unwrap_or_default()`: an `Err` becomes the empty frame; a panic is not caught.
def replyOf (x : RustM δ Message) : RustM δ Message := fun s =>
  match x s with
  | .error (.err _) s' => .ok default s'
  | r => r

def handle_message (request : List IpcRequest) (eid : Eid) : RustM δ (List Message) :=
  request.mapM fun msg => replyOf (handleRequest env eid msg)

end Handling

end EnigmaCore.Ipc
