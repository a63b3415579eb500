import EnigmaCore.Rust

namespace EnigmaCore.Wasm

abbrev sgx_enclave_id_t := UInt64

-- `sgx_status_t`, an `enum` over `u32` in which `SGX_SUCCESS` is 0.
abbrev sgx_status_t := UInt32

def SGX_SUCCESS : sgx_status_t := 0

def MAX_EVM_RESULT : Nat := 100000

-- What `build_constructor` calls in `parity_wasm` and `pwasm_utils`, each with any answer.
-- `build` is called with `SourceTarget::Unknown`, no constructor symbol, an empty public API and
-- both flags off; only the stack size is passed on here.
structure Toolchain (Module : Type) where
  deserialize_buffer : Bytes → Except Error Module
  build : Module → UInt32 → Except Error (Module × Option Module)
  serialize : Module → Except Error Bytes

-- What the `ecall_deploy` boundary leaves behind: the status it returns, and the `retval`, the
-- output buffer and the `output_len` it wrote.
structure DeployCall where
  status : sgx_status_t
  retval : sgx_status_t
  output : ByteArr MAX_EVM_RESULT
  output_len : Nat

section Deploy

variable {Module : Type} (t : Toolchain Module)
  (ecall_deploy : sgx_enclave_id_t → Bytes → ByteArr MAX_EVM_RESULT → sgx_status_t → Nat →
    DeployCall)

def build_constructor (wasm_code : Bytes) : Except Fault Bytes := do
  let module ← t.deserialize_buffer wasm_code
  let stack_size ← (parse_u32 "49152").expect "New stack size is not valid u32"
  let (module, ctor_module) ← match t.build module stack_size with
    | .ok v => pure v
    | .error _ => throw (.panic "")
  let result := match ctor_module with
    | some ctor_module => t.serialize ctor_module
    | none => t.serialize module
  match result with
  | .ok v => pure v
  | .error _ => throw (.panic "")

-- `vec![0u8; MAX_EVM_RESULT]`
def zeroBuffer : ByteArr MAX_EVM_RESULT :=
  ⟨List.replicate MAX_EVM_RESULT 0, List.length_replicate _ _⟩

def deploy (eid : sgx_enclave_id_t) (bytecode : Bytes) : Except Fault Bytes := do
  let deploy_bytecode ← build_constructor t bytecode
  let retval : sgx_status_t := SGX_SUCCESS
  let output_len : Nat := 0
  let result := ecall_deploy eid deploy_bytecode zeroBuffer retval output_len
  let part ← slice_range result.output.bytes 0 result.output_len
  pure part

theorem parse_stack_size : parse_u32 "49152" = .ok 49152 := rfl

theorem slice_range_zero {α : Type} {l : List α} {n : Nat} (h : n ≤ l.length) :
    slice_range l 0 n = .ok (l.take n) := by
  simp only [slice_range, if_neg (Nat.not_lt.2 h), Nat.not_lt_zero, if_false, List.drop_zero,
    pure_eq_ok]

theorem slice_range_of_lt {α : Type} {l : List α} {n : Nat} (h : l.length < n) :
    slice_range l 0 n = .error (.panic ("range end index " ++ toString n ++
      " out of range for slice of length " ++ toString l.length)) := by
  simp only [slice_range, if_pos h, throw_eq_error]

-- `build_constructor` fails with an `Err` only when the bytes do not deserialize; a builder or
-- serializer failure is a panic.
theorem build_constructor_spec (wasm_code : Bytes) :
    build_constructor t wasm_code =
      match t.deserialize_buffer wasm_code with
      | .error e => .error (.err e)
      | .ok m => match t.build m 49152 with
        | .error _ => .error (.panic "")
        | .ok (m', ctor) => match t.serialize (ctor.getD m') with
          | .ok v => .ok v
          | .error _ => .error (.panic "") := by
  cases hd : t.deserialize_buffer wasm_code with
  | error e => simp only [build_constructor, hd, lift_error, error_bind]
  | ok m =>
    cases hb : t.build m 49152 with
    | error e => simp only [build_constructor, hd, hb, parse_stack_size, lift_ok, ok_bind,
        Except.expect, pure_eq_ok, throw_eq_error, error_bind]
    | ok v =>
      obtain ⟨m', ctor⟩ := v
      cases ctor with
      | none =>
        cases hs : t.serialize m' <;>
          simp only [build_constructor, hd, hb, hs, parse_stack_size, lift_ok, ok_bind,
            Except.expect, pure_eq_ok, throw_eq_error, Option.getD_none]
      | some ctor =>
        cases hs : t.serialize ctor <;>
          simp only [build_constructor, hd, hb, hs, parse_stack_size, lift_ok, ok_bind,
            Except.expect, pure_eq_ok, throw_eq_error, Option.getD_some]

-- `deploy` hands the built code to `ecall_deploy` and returns the first `output_len` bytes of the
-- buffer, whatever status and `retval` the call left; an `output_len` past the buffer panics.
theorem deploy_of_build {c : Bytes} (eid : sgx_enclave_id_t) {bytecode : Bytes}
    (h : build_constructor t bytecode = .ok c) :
    deploy t ecall_deploy eid bytecode =
      let r := ecall_deploy eid c zeroBuffer SGX_SUCCESS 0
      if r.output_len ≤ MAX_EVM_RESULT then .ok (r.output.bytes.take r.output_len)
      else .error (.panic ("range end index " ++ toString r.output_len ++
        " out of range for slice of length " ++ toString MAX_EVM_RESULT)) := by
  have hlen := (ecall_deploy eid c zeroBuffer SGX_SUCCESS 0).output.length_eq
  simp only [deploy, h, ok_bind]
  split
  · rw [slice_range_zero (by omega)]
    rfl
  · rw [slice_range_of_lt (by omega), hlen]
    rfl

theorem deploy_of_build_error {f : Fault} (eid : sgx_enclave_id_t) {bytecode : Bytes}
    (h : build_constructor t bytecode = .error f) :
    deploy t ecall_deploy eid bytecode = .error f := by
  simp only [deploy, h, error_bind]

theorem build_constructor_err_iff (wasm_code : Bytes) (e : Error) :
    build_constructor t wasm_code = .error (.err e) ↔
      t.deserialize_buffer wasm_code = .error e := by
  rw [build_constructor_spec]
  cases t.deserialize_buffer wasm_code with
  | error e' => simp
  | ok m =>
    simp only [reduceCtorEq, iff_false]
    split
    · simp
    · split <;> simp

theorem deploy_ne_err_of_build {c : Bytes} (eid : sgx_enclave_id_t) {bytecode : Bytes}
    (h : build_constructor t bytecode = .ok c) (e : Error) :
    deploy t ecall_deploy eid bytecode ≠ .error (.err e) := by
  rw [deploy_of_build t ecall_deploy eid h]
  dsimp only
  split <;> simp

end Deploy

section Samples

-- An `ecall_deploy` that fails with `SGX_ERROR_UNEXPECTED` (1) and writes nothing.
def failingEcall (_ : sgx_enclave_id_t) (_ : Bytes) (out : ByteArr MAX_EVM_RESULT)
    (retval : sgx_status_t) (output_len : Nat) : DeployCall :=
  ⟨1, retval, out, output_len⟩

-- An `ecall_deploy` that succeeds but reports one byte more than the buffer holds.
def overlongEcall (_ : sgx_enclave_id_t) (_ : Bytes) (out : ByteArr MAX_EVM_RESULT)
    (retval : sgx_status_t) (_ : Nat) : DeployCall :=
  ⟨SGX_SUCCESS, retval, out, MAX_EVM_RESULT + 1⟩

-- Over every toolchain and every bytecode: `deploy` fails with an `Err` exactly when the bytecode
-- does not deserialize, whatever `ecall_deploy` does. Once the module is built, an `ecall_deploy`
-- that fails and writes nothing gives `Ok` of no bytes, and one that reports one byte more than
-- the buffer holds panics. A module the builder or the serializer rejects panics.
theorem deploy_accepts_failed_ecall {Module : Type} (t : Toolchain Module) (eid : sgx_enclave_id_t)
    (bytecode : Bytes) :
    (∀ ecall_deploy e, deploy t ecall_deploy eid bytecode = .error (.err e) ↔
      t.deserialize_buffer bytecode = .error e) ∧
    (∀ c, build_constructor t bytecode = .ok c →
      deploy t failingEcall eid bytecode = .ok [] ∧
      deploy t overlongEcall eid bytecode =
        .error (.panic "range end index 100001 out of range for slice of length 100000")) ∧
    (∀ ecall_deploy m e, t.deserialize_buffer bytecode = .ok m → t.build m 49152 = .error e →
      deploy t ecall_deploy eid bytecode = .error (.panic "")) ∧
    (∀ ecall_deploy m m' ctor e, t.deserialize_buffer bytecode = .ok m →
      t.build m 49152 = .ok (m', ctor) → t.serialize (ctor.getD m') = .error e →
      deploy t ecall_deploy eid bytecode = .error (.panic "")) := by
  refine ⟨fun ecall_deploy e => ?_, fun c hb => ⟨?_, ?_⟩,
    fun ecall_deploy m e hd hb => deploy_of_build_error t ecall_deploy eid
      (by simp only [build_constructor_spec, hd, hb]),
    fun ecall_deploy m m' ctor e hd hb hs => deploy_of_build_error t ecall_deploy eid
      (by simp only [build_constructor_spec, hd, hb, hs])⟩
  · rw [← build_constructor_err_iff t bytecode e]
    cases hb : build_constructor t bytecode with
    | error f => rw [deploy_of_build_error t ecall_deploy eid hb]
    | ok c => simp only [deploy_ne_err_of_build t ecall_deploy eid hb e, reduceCtorEq]
  · rw [deploy_of_build t _ eid hb]
    exact if_pos (Nat.zero_le _)
  · rw [deploy_of_build t _ eid hb]
    exact (if_neg (Nat.not_succ_le_self _)).trans
      (congrArg (fun msg => Except.error (Fault.panic msg)) (by simp only [overlongEcall]; decide))

end Samples

end EnigmaCore.Wasm
