import EnigmaCore.EpochKeeper.Register

namespace EnigmaCore.EpochKeeper

section Outcomes

variable {Params Log Header Hashes Addr : Type} (k : Keeper Params Log Addr)

theorem current_isSome_iff (m : EpochMap Params) : (current m).isSome ↔ m.keys ≠ [] := by
  unfold current
  cases hmax : m.keys.max? with
  | none => simp [List.max?_eq_none_iff.1 hmax]
  | some n =>
    have hn := (List.max?_eq_some_iff'.1 hmax).1
    simp [List.ne_nil_of_mem hn, AList.lookup_isSome.2 (AList.mem_keys.2 hn)]

-- On every reachable register a generate call that gets its bytes signed stores the new epoch
-- at the next nonce, and then reports that it could not store it.
theorem generate_epoch_seed_stores_then_fails (calls : List (EpochCall Params Log Header Hashes Addr))
    (r : ByteArr 32) (sig : ByteArr 65) (hs : k.sign r = .ok sig)
    (hb : (seedLog k calls).length < 2 ^ 256) :
    ecall_generate_epoch_seed_internal k (.ok r) (run k calls ∅) =
      .error (.err (.WorkerAuthError "Unable to store new Epoch"))
        ((run k calls ∅).insert (seedLog k calls).length (seededEpoch r)) := by
  have h := refines_reachable k calls
  rw [generate_dense k _ h.dense h.hashes, if_pos hb]
  simp only [hs]

-- From any register whatever, reachable or not, a generate call never returns `Ok`: it fails
-- before touching the register, or it stores a new epoch without worker parameters at a nonce the
-- register did not hold, and then reports that it could not.
theorem generate_epoch_seed_never_ok (rand : Except Error (ByteArr 32)) (m : EpochMap Params) :
    (∀ v m', ecall_generate_epoch_seed_internal k rand m ≠ .ok v m') ∧
    ((∃ f, ecall_generate_epoch_seed_internal k rand m = .error f m) ∨
      ∃ n r e, rand = .ok r ∧ m.lookup n = none ∧ e.seed = from_big_endian r.bytes ∧
        e.worker_params = none ∧
        ecall_generate_epoch_seed_internal k rand m =
          .error (.err (.WorkerAuthError "Unable to store new Epoch")) (m.insert n e)) := by
  refine ⟨fun v m' hv => ?_, generate_cases k rand m⟩
  rcases generate_cases k rand m with ⟨f, hf⟩ | ⟨_, _, _, -, -, -, -, hf⟩ <;>
    rw [hf] at hv <;> cases hv

theorem set_worker_params_targets_nonce_one
    (calls : List (EpochCall Params Log Header Hashes Addr)) (params : Params) :
    let m := run k calls ∅
    let L := (seedLog k calls).length
    Dense m L ∧ current m = m.lookup (L - 1) ∧
      ((∃ m', ecall_set_worker_params_internal k params m = .ok () m') ↔
        2 ≤ L ∧ ∃ e, m.lookup 1 = some e ∧ k.check_params e params = .ok ()) ∧
      (ecall_set_worker_params_internal k params m).state.lookup 1 = (m.lookup 1).map (fun e =>
        if k.check_params e params = .ok () then { e with worker_params := some params } else e) ∧
      (∀ n, n ≠ 1 → (ecall_set_worker_params_internal k params m).state.lookup n = m.lookup n) ∧
      ∀ err m', ecall_set_worker_params_internal k params m = .error err m' → m' = m := by
  intro m L
  have h := refines_reachable k calls
  refine ⟨h.dense, current_of_dense h.dense, ?_⟩
  rw [set_worker_params_apply]
  cases he : m.lookup 1 with
  | none =>
    have : ¬ 1 < L := fun h1 => by simpa [← AList.lookup_isSome, m, he] using (h.dense 1).2 h1
    simp [this, he]
  | some e =>
    have h1 := lt_of_lookup h he
    cases hc : k.check_params e params with
    | error x => simp [hc, he]
    | ok _ =>
      refine ⟨?_, by simp [hc], fun n hn => by simp [hc, AList.lookup_insert_ne hn], by simp [hc]⟩
      simp [hc, he]
      omega

-- No header chain and no receipt is checked (the `BlockVerifier` calls are commented out): the
-- parameters are read from the first log of any receipt. A receipt without logs panics on
-- `receipt.logs[0]`, where the other missing inputs are refused with an `Err`.
theorem verified_worker_params_skip_verification (receipt : Receipt Log)
    (receipt_hashes : Hashes) (block_headers : List Header) (m : EpochMap Params) :
    (ecall_get_verified_worker_params_internal k receipt receipt_hashes block_headers m).state = m ∧
    (∀ params, (∃ m', ecall_get_verified_worker_params_internal k receipt receipt_hashes
        block_headers m = .ok params m') ↔
      block_headers ≠ [] ∧ m.keys ≠ [] ∧
        ∃ log logs, receipt.logs = log :: logs ∧ k.try_from log = .ok params) ∧
    (block_headers ≠ [] → m.keys ≠ [] → receipt.logs = [] →
      ecall_get_verified_worker_params_internal k receipt receipt_hashes block_headers m =
        .error (.panic "index out of bounds: the len is 0 but the index is 0") m) := by
  refine ⟨get_verified_state k receipt receipt_hashes block_headers m, fun params => ?_,
    fun hb hm hl => ?_⟩
  · rw [get_verified_apply, ← current_isSome_iff]
    rcases block_headers with _ | ⟨_, _⟩ <;> rcases current m with _ | _ <;>
      rcases hl : receipt.logs with _ | ⟨log, _⟩ <;> simp
    cases k.try_from log <;> simp
  · obtain ⟨_, _, rfl⟩ := List.exists_cons_of_ne_nil hb
    obtain ⟨e, he⟩ := Option.isSome_iff_exists.1 ((current_isSome_iff m).2 hm)
    rw [get_verified_apply, he, hl]

-- Worker selection reads the epoch at the highest nonce of a reachable register, the one with the
-- latest seed, and nothing else; a lookup by block number is always refused. Neither changes the
-- register.
theorem epoch_workers_use_latest (calls : List (EpochCall Params Log Header Hashes Addr))
    (sc_addr : Addr) (block_number : Nat) :
    let m := run k calls ∅
    let L := (seedLog k calls).length
    ecall_get_epoch_workers_internal k sc_addr (some block_number) m =
      .error (.err (.WorkerAuthError "Epoch lookup by block number not implemented.")) m ∧
    (m.lookup (L - 1)).map Epoch.seed = (seedLog k calls).getLast? ∧
    ecall_get_epoch_workers_internal k sc_addr none m =
      match m.lookup (L - 1) with
      | none => .error (.err (.WorkerAuthError
          "Cannot verify receipt without a nonce in the Epoch mutex.")) m
      | some e => match k.get_selected_workers e sc_addr with
        | .ok workers => .ok workers m
        | .error err => .error (.err err) m := by
  intro m L
  have h := refines_reachable k calls
  refine ⟨by rw [get_epoch_workers_apply], current_of_dense h.dense ▸ current_seed h, ?_⟩
  rw [get_epoch_workers_apply, current_of_dense h.dense]
  cases m.lookup (L - 1) <;> rfl

-- Where a run can poison `EPOCH`: on a reachable register of `L` epochs a generate call panics
-- only once `2 ^ 256` nonces are used, a verification only on a receipt without logs (given
-- headers and an epoch), and the commit and worker selection never.
theorem epoch_ecalls_panic_only (calls : List (EpochCall Params Log Header Hashes Addr)) :
    let m := run k calls ∅
    let L := (seedLog k calls).length
    (∀ rand, (ecall_generate_epoch_seed_internal k rand m).panicked = true ↔ 2 ^ 256 ≤ L) ∧
    (∀ (receipt : Receipt Log) (receipt_hashes : Hashes) (block_headers : List Header),
      (ecall_get_verified_worker_params_internal k receipt receipt_hashes block_headers
        m).panicked = true ↔ block_headers ≠ [] ∧ L ≠ 0 ∧ receipt.logs = []) ∧
    (∀ params, (ecall_set_worker_params_internal k params m).panicked = false) ∧
    ∀ sc_addr block_number,
      (ecall_get_epoch_workers_internal k sc_addr block_number m).panicked = false := by
  intro m L
  have h := refines_reachable k calls
  -- each conjunct is `panics_eq` at one call, read through `EpochCall.panics` and `seedPanics`
  have hp : ∀ c : EpochCall Params Log Header Hashes Addr,
      c.panics k m = seedPanics (seedLog k calls) c := panics_eq k h
  refine ⟨fun rand => ?_, fun receipt receipt_hashes block_headers => ?_,
    fun params => hp (.set_worker_params params),
    fun sc_addr block_number => hp (.get_epoch_workers sc_addr block_number)⟩
  · have hg : (ecall_generate_epoch_seed_internal k rand m).panicked = decide (2 ^ 256 ≤ L) :=
      hp (.generate_epoch_seed rand)
    rw [hg, decide_eq_true_iff]
  · have hv : (ecall_get_verified_worker_params_internal k receipt receipt_hashes block_headers
        m).panicked = (!block_headers.isEmpty && !(seedLog k calls).isEmpty && receipt.logs.isEmpty) :=
      hp (.get_verified_worker_params receipt receipt_hashes block_headers)
    simp [hv, List.isEmpty_iff, L, and_assoc]

end Outcomes

section Samples

def zeros (n : Nat) : ByteArr n := ⟨List.replicate n 0, List.length_replicate n 0⟩

-- A keeper whose every collaborator succeeds: it signs anything, reads a log as the worker
-- parameters, accepts any parameters and selects the contract's own address.
def acceptingKeeper : Keeper Nat Nat Nat where
  sign _ := .ok (zeros 65)
  try_from log := .ok log
  check_params _ _ := .ok ()
  get_selected_workers _ sc_addr := .ok [sc_addr]

-- The first generate call, with the randomness source writing 32 zero bytes.
def firstCall : EpochCall Nat Nat Unit Unit Nat := .generate_epoch_seed (.ok (zeros 32))

def firstEpoch : EpochMap Nat := (∅ : EpochMap Nat).insert 0 (seededEpoch (zeros 32))

theorem generate_epoch_seed_first_call_fails :
    ecall_generate_epoch_seed_internal acceptingKeeper (.ok (zeros 32)) ∅ =
      .error (.err (.WorkerAuthError "Unable to store new Epoch")) firstEpoch := by
  rw [generate_dense acceptingKeeper _ refines_empty.dense refines_empty.hashes]
  simp [acceptingKeeper, firstEpoch]

theorem generate_epoch_seed_second_call_fails :
    ecall_generate_epoch_seed_internal acceptingKeeper (.ok (zeros 32))
        (run acceptingKeeper [firstCall] ∅) =
      .error (.err (.WorkerAuthError "Unable to store new Epoch"))
        ((run acceptingKeeper [firstCall] ∅).insert (seedLog acceptingKeeper [firstCall]).length
          (seededEpoch (zeros 32))) :=
  generate_epoch_seed_stores_then_fails acceptingKeeper [firstCall] (zeros 32) (zeros 65) rfl
    (by decide)

end Samples

end EnigmaCore.EpochKeeper
