import EnigmaCore.Rust

namespace EnigmaCore.Ipc

abbrev Eid := UInt64

-- `crate::db::Stype`: the slot a store key names under a contract address.
inductive Stype where
  | Delta (index : UInt32)
  | ByteCode
deriving DecidableEq, Repr

-- `crate::db::DeltaKey`: a contract address (`hash`) and a slot.
structure DeltaKey where
  hash : ByteArr 32
  key_type : Stype
deriving DecidableEq

-- `Stype::unwrap_delta`: the index of a `Delta` slot; any other slot panics.
def Stype.unwrap_delta : Stype → Except Fault UInt32
  | .Delta index => pure index
  | .ByteCode => throw (.panic "unwrap_delta on a ByteCode key")

@[simp] theorem Stype.unwrap_delta_Delta (index : UInt32) :
    (Stype.Delta index).unwrap_delta = .ok index := rfl

structure IpcDelta where
  address : Option String
  key : UInt32
  delta : Option String
deriving DecidableEq

instance : Inhabited IpcDelta := ⟨⟨none, 0, none⟩⟩

structure IpcGetDeltas where
  address : String
  «from» : UInt32
  «to» : UInt32
deriving DecidableEq

structure IpcTask where
  pre_code : Option String
  encrypted_args : String
  encrypted_fn : String
  user_pubkey : String
  gas_limit : UInt64
  address : String
deriving DecidableEq

structure IpcDeltaResult where
  address : String
  key : UInt32
  status : UInt8
deriving DecidableEq

inductive IpcResults where
  | RegistrationParams (sigining_key report signature : String)
  | Tips (tips : List IpcDelta)
  | Addresses (addresses : List String)
  | Delta (delta : String)
  | Deltas (deltas : List IpcDelta)
  | Bytecode (bytecode : String)
  | Status (status : UInt8)
  | UpdateDeltasResult (status : UInt8) (errors : List IpcDeltaResult)
  | DHKey (dh_key sig : String)
  | Request (request sig : String)
  | TaskResult (exe_code pre_code_hash : Option String) (used_gas : UInt64)
      (output : Option String) (delta : IpcDelta) (signature : String)
deriving DecidableEq

inductive IpcRequest where
  | GetRegistrationParams (id : String)
  | IdentityChallenge (id nonce : String)
  | GetTip (id input : String)
  | GetTips (id : String) (input : List String)
  | GetAllTips (id : String)
  | GetAllAddrs (id : String)
  | GetDelta (id : String) (input : IpcDelta)
  | GetDeltas (id : String) (input : List IpcGetDeltas)
  | GetContract (id input : String)
  | UpdateNewContract (id address bytecode : String)
  | UpdateDeltas (id : String) (deltas : List IpcDelta)
  | NewTaskEncryptionKey (id user_pubkey : String)
  | DeploySecretContract (id : String) (input : IpcTask)
  | ComputeTask (id : String) (input : IpcTask)
  | GetPTTRequest (id : String) (addresses : List String)
deriving DecidableEq

inductive IpcResponse where
  | GetRegistrationParams (id : String) (result : IpcResults)
  | GetTip (id : String) (result : IpcDelta)
  | GetTips (id : String) (result : IpcResults)
  | GetAllTips (id : String) (result : IpcResults)
  | GetAllAddrs (id : String) (result : IpcResults)
  | GetDelta (id : String) (result : IpcResults)
  | GetDeltas (id : String) (result : IpcResults)
  | GetContract (id : String) (result : IpcResults)
  | UpdateNewContract (id address : String) (result : IpcResults)
  | UpdateDeltas (id : String) (result : IpcResults)
  | NewTaskEncryptionKey (id : String) (result : IpcResults)
  | DeploySecretContract (id : String) (result : IpcResults)
  | ComputeTask (id : String) (result : IpcResults)
  | GetPTTRequest (id : String) (result : IpcResults)
deriving DecidableEq

-- A reply frame: the serialised response (`IpcResponse::into`), or `Message::default()`, the
-- empty frame.
inductive Message where
  | empty
  | response (r : IpcResponse)
deriving DecidableEq

instance : Inhabited Message := ⟨.empty⟩

@[simp] theorem Message.default_eq : (default : Message) = .empty := rfl

-- What the attestation service answers (`service::ASResponse`) and the quote inside it.
structure ASResult where
  report_string : String
  signature : String

structure ASResponse where
  result : ASResult

structure ReportBody where
  report_data : Bytes

structure Quote where
  report_body : ReportBody

-- What `wasm::deploy` and `wasm::execute` return from the enclave.
structure WasmResult where
  output : Bytes
  used_gas : UInt64
  delta : IpcDelta
  signature : Bytes

-- The `DATABASE` as the handlers see it (`crate::db`, not part of this excerpt): any state `δ`
-- and any answers. Only `force_update` and `insert_tuples` return a new state.
structure Database (δ : Type) where
  get_tip : δ → ByteArr 32 → Except Error (DeltaKey × Bytes)
  get_all_tips : δ → Except Error (List (DeltaKey × Bytes))
  get_all_addresses : δ → Except Error (List (ByteArr 32))
  get_delta : δ → DeltaKey → Except Error Bytes
  get_deltas : δ → DeltaKey → DeltaKey → Except Error (Option (List (DeltaKey × Bytes)))
  get_contract : δ → ByteArr 32 → Except Error Bytes
  force_update : δ → DeltaKey → Bytes → Except Error Unit × δ
  insert_tuples : δ → List (DeltaKey × Bytes) → List (Except Error Unit) × δ

-- Everything the handlers call besides the store: hex codecs (`hex`, `FromHex32`), the decoders
-- of `messages.rs`, and the enclave, key-management and attestation calls, each with any answer.
structure Env (δ : Type) where
  db : Database δ
  from_hex : String → Except Error Bytes
  from_hex_32 : String → Except Error (ByteArr 32)
  to_hex : Bytes → String
  keccak256 : Bytes → Bytes
  from_delta_key : DeltaKey → Bytes → Except Error IpcDelta
  spid : String
  get_register_signing_address : Eid → Except Error String
  retry_quote : Eid → String → Nat → Except Error String
  get_report : String → Except Error ASResponse
  get_quote : ASResponse → Except Error Quote
  get_user_key : Eid → ByteArr 64 → Except Error (Bytes × Bytes)
  -- msgpack `deserialize` of the key-exchange message (the outer `Err`, which is unwrapped) and
  -- `serde_json::from_value` of its `pubkey` field (the inner one, passed up by `?`)
  pubkey_of_msg : Bytes → Except Error (Except Error Bytes)
  ptt_req : Eid → List (ByteArr 32) → Except Error (Bytes × Bytes)
  deploy : Eid → Bytes → Bytes → Bytes → ByteArr 32 → ByteArr 64 → UInt64 →
    Except Error WasmResult
  execute : Eid → Bytes → Bytes → Bytes → ByteArr 64 → ByteArr 32 → UInt64 →
    Except Error WasmResult

end EnigmaCore.Ipc
