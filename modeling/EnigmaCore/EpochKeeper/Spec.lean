import EnigmaCore.EpochKeeper.Ecalls

namespace EnigmaCore.EpochKeeper

section Spec

variable {Params Log Header Hashes Addr : Type} (k : Keeper Params Log Addr)

-- The epoch `get_epoch` calls current: the entry at the largest nonce.
def current (m : EpochMap Params) : Option (Epoch Params) := m.keys.max?.bind m.lookup

-- The nonces in use are exactly `0, 1, ..., L - 1`.
def Dense (m : EpochMap Params) (L : Nat) : Prop := ∀ n, n ∈ m ↔ n < L

def init_block_hash : ByteArr 32 := (tokenize_uint PREVERIFIED_BLOCK_HASH).get (by decide)

theorem tokenize_uint_preverified : tokenize_uint PREVERIFIED_BLOCK_HASH = some init_block_hash :=
  (Option.some_get _).symm

-- Every entry carries the hardcoded block hash.
def HashesInit (m : EpochMap Params) : Prop :=
  ∀ n e, m.lookup n = some e → e.preverified_block_hash = init_block_hash

-- The entry a generate call stores, from the bytes `rsgx_read_rand` wrote.
def seededEpoch (rand_out : ByteArr 32) : Epoch Params :=
  ⟨from_big_endian rand_out.bytes, none, init_block_hash⟩

theorem get_epoch_none (m : EpochMap Params) : get_epoch m none = .ok (current m) := by
  cases hmax : m.keys.max? with
  | none => simp [get_epoch, current, hmax, List.max?_eq_none_iff.1 hmax]
  | some n =>
    have hn := (List.max?_eq_some_iff'.1 hmax).1
    obtain ⟨e, he⟩ := Option.isSome_iff_exists.1 (AList.lookup_isSome.2 (AList.mem_keys.2 hn))
    simp [get_epoch, current, hmax, List.ne_nil_of_mem hn, he, Option.unwrap]

-- Lookup by block number is refused; it never falls back to the current epoch.
theorem get_epoch_some (m : EpochMap Params) (block_number : Nat) :
    get_epoch m (some block_number) =
      .error (.err (.WorkerAuthError "Epoch lookup by block number not implemented.")) := rfl

theorem max?_keys {m : EpochMap Params} {L : Nat} (h : Dense m L) :
    m.keys.max? = if L = 0 then none else some (L - 1) := by
  split
  · rw [List.max?_eq_none_iff, List.eq_nil_iff_forall_not_mem]
    intro n hn
    have := (h n).1 (AList.mem_keys.2 hn)
    omega
  · rw [List.max?_eq_some_iff']
    exact ⟨AList.mem_keys.1 ((h _).2 (by omega)),
      fun b hb => by have := (h b).1 (AList.mem_keys.2 hb); omega⟩

theorem current_of_dense {m : EpochMap Params} {L : Nat} (h : Dense m L) :
    current m = m.lookup (L - 1) := by
  rw [current, max?_keys h]
  split
  · exact (AList.lookup_eq_none.2 fun hm => by have := (h _).1 hm; omega).symm
  · rfl

theorem generate_dense (rand : Except Error (ByteArr 32)) {m : EpochMap Params} {L : Nat}
    (hd : Dense m L) (hh : HashesInit m) :
    ecall_generate_epoch_seed_internal k rand m =
      if L < 2 ^ 256 then
        match rand with
        | .error e => .error (.err e) m
        | .ok r => match k.sign r with
          | .error e => .error (.err e) m
          | .ok _ => .error (.err (.WorkerAuthError "Unable to store new Epoch"))
              (m.insert L (seededEpoch r))
      else .error (.panic "arithmetic operation overflow") m := by
  have hfresh : m.lookup L = none :=
    AList.lookup_eq_none.2 fun hm => by have := (hd L).1 hm; omega
  have hge := get_epoch_none m
  rw [current_of_dense hd] at hge
  by_cases hL : L = 0
  · subst hL
    rw [if_pos (Nat.two_pow_pos 256)]
    cases rand with
    | error e => simp only [ecall_generate_epoch_seed_internal, get_bind_apply,
        liftExcept_bind_apply, liftError_bind_apply, pure_bind_apply, throw_bind_apply,
        insert_bind_apply, pure_eq_ok, throw_eq_error, hge, hfresh]
    | ok r =>
      cases hs : k.sign r <;>
        simp only [ecall_generate_epoch_seed_internal, get_bind_apply, liftExcept_bind_apply,
          liftError_bind_apply, pure_bind_apply, throw_bind_apply, insert_bind_apply, pure_eq_ok,
          throw_eq_error, hge, hs, INIT_NONCE, hfresh,
          tokenize_uint_preverified, Option.unwrap, seededEpoch]
  · obtain ⟨e, he⟩ := Option.isSome_iff_exists.1
      (AList.lookup_isSome.2 ((hd (L - 1)).2 (by omega)))
    have hmax : m.keys.max? = some (L - 1) := by simpa [hL] using max?_keys hd
    have hnonce : u256_add (L - 1) 1 =
        if L < 2 ^ 256 then .ok L else .error (.panic "arithmetic operation overflow") := by
      rw [u256_add, Nat.sub_add_cancel (Nat.pos_of_ne_zero hL)]
      rfl
    by_cases hb : L < 2 ^ 256
    · rw [if_pos hb] at hnonce ⊢
      cases rand with
      | error e => simp only [ecall_generate_epoch_seed_internal, get_bind_apply,
          liftExcept_bind_apply, liftError_bind_apply, pure_bind_apply, throw_bind_apply,
          insert_bind_apply, pure_eq_ok, throw_eq_error, hge, he, hmax, Option.unwrap, hnonce]
      | ok r =>
        cases hs : k.sign r <;>
          simp only [ecall_generate_epoch_seed_internal, get_bind_apply, liftExcept_bind_apply,
            liftError_bind_apply, pure_bind_apply, throw_bind_apply, insert_bind_apply, pure_eq_ok,
            throw_eq_error, hge, he, hmax, Option.unwrap, hnonce,
            hs, hfresh, seededEpoch, hh _ _ he]
    · rw [if_neg hb] at hnonce ⊢
      simp only [ecall_generate_epoch_seed_internal, get_bind_apply, liftExcept_bind_apply,
        liftError_bind_apply, pure_bind_apply, throw_bind_apply, insert_bind_apply, pure_eq_ok,
        throw_eq_error, hge, he, hmax, Option.unwrap, hnonce]

theorem get_verified_apply (receipt : Receipt Log) (receipt_hashes : Hashes)
    (block_headers : List Header) (m : EpochMap Params) :
    ecall_get_verified_worker_params_internal k receipt receipt_hashes block_headers m =
      match block_headers, current m, receipt.logs with
      | [], _, _ => .error (.err (.WorkerAuthError "The BlockHeaders parameter is empty.")) m
      | _ :: _, none, _ => .error (.err (.WorkerAuthError "No Epoch found in storage.")) m
      | _ :: _, some _, [] =>
        .error (.panic "index out of bounds: the len is 0 but the index is 0") m
      | _ :: _, some _, log :: _ => match k.try_from log with
        | .ok params => .ok params m
        | .error e => .error (.err e) m := by
  cases block_headers with
  | nil => simp [ecall_get_verified_worker_params_internal]
  | cons _ _ =>
    cases hc : current m with
    | none => simp [ecall_get_verified_worker_params_internal, get_epoch_none, hc]
    | some e =>
      obtain ⟨n, hn⟩ : ∃ n, m.keys.max? = some n := by
        unfold current at hc
        cases hmax : m.keys.max? <;> simp_all
      cases hl : receipt.logs with
      | nil => simp [ecall_get_verified_worker_params_internal, get_epoch_none, hc, hn, hl,
          index_nil_zero, Option.unwrap]
      | cons l _ =>
        cases ht : k.try_from l <;>
          simp [ecall_get_verified_worker_params_internal, get_epoch_none, hc, hn, hl, ht, index,
            Option.unwrap]

theorem get_verified_state (receipt : Receipt Log) (receipt_hashes : Hashes)
    (block_headers : List Header) (m : EpochMap Params) :
    (ecall_get_verified_worker_params_internal k receipt receipt_hashes block_headers m).state =
      m := by
  rw [get_verified_apply]
  split <;> (try split) <;> rfl

theorem set_worker_params_apply (params : Params) (m : EpochMap Params) :
    ecall_set_worker_params_internal k params m =
      match m.lookup 1 with
      | none => .error (.err (.WorkerAuthError
          "Cannot set the workers parameters without a nonce in the Epoch mutex.")) m
      | some e => match k.check_params e params with
        | .ok () => .ok () (m.insert 1 { e with worker_params := some params })
        | .error x => .error (.err x) m := by
  cases h : m.lookup 1 with
  | none => simp [ecall_set_worker_params_internal, h]
  | some e =>
    cases hc : k.check_params e params <;>
      simp [ecall_set_worker_params_internal, Epoch.set_worker_params, h, hc]

theorem get_epoch_workers_apply (sc_addr : Addr) (block_number : Option Nat)
    (m : EpochMap Params) :
    ecall_get_epoch_workers_internal k sc_addr block_number m =
      match block_number, current m with
      | some _, _ => .error (.err (.WorkerAuthError "Epoch lookup by block number not implemented.")) m
      | none, none => .error (.err (.WorkerAuthError
          "Cannot verify receipt without a nonce in the Epoch mutex.")) m
      | none, some epoch => match k.get_selected_workers epoch sc_addr with
        | .ok workers => .ok workers m
        | .error e => .error (.err e) m := by
  cases block_number with
  | some b => simp [ecall_get_epoch_workers_internal, get_epoch_some]
  | none =>
    cases hc : current m with
    | none => simp [ecall_get_epoch_workers_internal, get_epoch_none, hc]
    | some e =>
      cases hw : k.get_selected_workers e sc_addr <;>
        simp [ecall_get_epoch_workers_internal, get_epoch_none, hc, hw]

theorem get_epoch_workers_state (sc_addr : Addr) (block_number : Option Nat) (m : EpochMap Params) :
    (ecall_get_epoch_workers_internal k sc_addr block_number m).state = m := by
  rw [get_epoch_workers_apply]
  split <;> (try split) <;> rfl

-- The nonce one past the largest is never in the register.
theorem lookup_succ_of_max? {m : EpochMap Params} {n : Nat} (h : m.keys.max? = some n) :
    m.lookup (n + 1) = none :=
  AList.lookup_eq_none.2 fun hm => by
    have := (List.max?_eq_some_iff'.1 h).2 _ (AList.mem_keys.2 hm)
    omega

-- What a generate call can do, from any register whatever: fail and leave it as it was, or store
-- a new epoch without worker parameters at a nonce the register did not hold, and then fail.
theorem generate_cases (rand : Except Error (ByteArr 32)) (m : EpochMap Params) :
    (∃ f, ecall_generate_epoch_seed_internal k rand m = .error f m) ∨
    ∃ n r e, rand = .ok r ∧ m.lookup n = none ∧ e.seed = from_big_endian r.bytes ∧
      e.worker_params = none ∧
      ecall_generate_epoch_seed_internal k rand m =
        .error (.err (.WorkerAuthError "Unable to store new Epoch")) (m.insert n e) := by
  have hge := get_epoch_none m
  simp only [ecall_generate_epoch_seed_internal, get_bind_apply, liftExcept_bind_apply, hge]
  cases hmax : m.keys.max? with
  | none =>
    have hc : current m = none := by simp [current, hmax]
    have h0 : m.lookup INIT_NONCE = none := AList.lookup_eq_none.2 fun hm => by
      have : INIT_NONCE ∈ m.keys := AList.mem_keys.2 hm
      rw [List.max?_eq_none_iff.1 hmax] at this
      exact List.not_mem_nil _ this
    simp only [hc, pure_bind_apply, liftError_bind_apply]
    cases rand with
    | error e => exact .inl ⟨.err e, rfl⟩
    | ok r =>
      cases hs : k.sign r with
      | error e => exact .inl ⟨.err e, by simp only [hs]⟩
      | ok _ =>
        refine .inr ⟨_, r, ⟨from_big_endian r.bytes, none, init_block_hash⟩, rfl, h0, rfl, rfl, ?_⟩
        simp only [hs, pure_bind_apply, liftExcept_bind_apply, insert_bind_apply, h0,
          tokenize_uint_preverified, Option.unwrap, pure_eq_ok, throw_bind_apply, throw_eq_error]
  | some n =>
    obtain ⟨ep, hep⟩ := Option.isSome_iff_exists.1
      (AList.lookup_isSome.2 (AList.mem_keys.1 (List.max?_eq_some_iff'.1 hmax).1))
    have hc : current m = some ep := by simp [current, hmax, hep]
    simp only [hc, liftExcept_bind_apply, hmax, Option.unwrap, pure_eq_ok]
    by_cases hb : n + 1 < 2 ^ 256
    · have hnonce : u256_add n 1 = .ok (n + 1) := if_pos hb
      simp only [hnonce, liftError_bind_apply]
      cases rand with
      | error e => exact .inl ⟨.err e, rfl⟩
      | ok r =>
        cases hs : k.sign r with
        | error e => exact .inl ⟨.err e, by simp only [hs]⟩
        | ok _ =>
          refine .inr ⟨_, r, ⟨from_big_endian r.bytes, none, ep.preverified_block_hash⟩, rfl,
            lookup_succ_of_max? hmax, rfl, rfl, ?_⟩
          simp only [hs, pure_bind_apply, insert_bind_apply, lookup_succ_of_max? hmax,
            throw_bind_apply, throw_eq_error]
    · have hnonce : u256_add n 1 = .error (.panic "arithmetic operation overflow") := if_neg hb
      simp only [hnonce]
      exact .inl ⟨_, rfl⟩

end Spec

end EnigmaCore.EpochKeeper
