import EnigmaCore.EpochKeeper.Spec

namespace EnigmaCore.EpochKeeper

-- The ecalls on the register, each with its arguments; a generate call carries what the
-- randomness source yields for it.
inductive EpochCall (Params Log Header Hashes Addr : Type) where
  | generate_epoch_seed (rand : Except Error (ByteArr 32))
  | get_verified_worker_params (receipt : Receipt Log) (receipt_hashes : Hashes)
      (block_headers : List Header)
  | set_worker_params (params : Params)
  | get_epoch_workers (sc_addr : Addr) (block_number : Option Nat)

section Register

variable {Params Log Header Hashes Addr : Type} (k : Keeper Params Log Addr)

-- `EPOCH` after one ecall, whether it returned `Ok` or `Err` or panicked.
def EpochCall.apply : EpochCall Params Log Header Hashes Addr → EpochMap Params → EpochMap Params
  | .generate_epoch_seed rand, m => (ecall_generate_epoch_seed_internal k rand m).state
  | .get_verified_worker_params receipt receipt_hashes block_headers, m =>
      (ecall_get_verified_worker_params_internal k receipt receipt_hashes block_headers m).state
  | .set_worker_params params, m => (ecall_set_worker_params_internal k params m).state
  | .get_epoch_workers sc_addr block_number, m =>
      (ecall_get_epoch_workers_internal k sc_addr block_number m).state

-- Whether the ecall panicked.
def EpochCall.panics : EpochCall Params Log Header Hashes Addr → EpochMap Params → Bool
  | .generate_epoch_seed rand, m => (ecall_generate_epoch_seed_internal k rand m).panicked
  | .get_verified_worker_params receipt receipt_hashes block_headers, m =>
      (ecall_get_verified_worker_params_internal k receipt receipt_hashes block_headers m).panicked
  | .set_worker_params params, m => (ecall_set_worker_params_internal k params m).panicked
  | .get_epoch_workers sc_addr block_number, m =>
      (ecall_get_epoch_workers_internal k sc_addr block_number m).panicked

-- A run of ecalls on `EPOCH`. A panic while an ecall holds the guard poisons the mutex, and every
-- later `EPOCH.lock_expect` panics before it reads the register: the run ends there.
def run : List (EpochCall Params Log Header Hashes Addr) → EpochMap Params → EpochMap Params
  | [], m => m
  | c :: calls, m => if c.panics k m then c.apply k m else run calls (c.apply k m)

-- What the register is for: the seeds of the epochs, in nonce order. A generate call that gets
-- its random bytes signed, with a nonce below `2 ^ 256`, appends one; no other call changes it.
def seedStep (log : List Nat) : EpochCall Params Log Header Hashes Addr → List Nat
  | .generate_epoch_seed (.ok r) => match k.sign r with
    | .ok _ => if log.length < 2 ^ 256 then log ++ [from_big_endian r.bytes] else log
    | .error _ => log
  | _ => log

-- Where the ecalls panic: a generate call once `2 ^ 256` nonces are used, and a verification
-- given headers, on a register holding an epoch, of a receipt without logs.
def seedPanics (log : List Nat) : EpochCall Params Log Header Hashes Addr → Bool
  | .generate_epoch_seed _ => decide (2 ^ 256 ≤ log.length)
  | .get_verified_worker_params receipt _ block_headers =>
      !block_headers.isEmpty && !log.isEmpty && receipt.logs.isEmpty
  | _ => false

def seedRun : List (EpochCall Params Log Header Hashes Addr) → List Nat → List Nat
  | [], log => log
  | c :: calls, log => if seedPanics log c then seedStep k log c else seedRun calls (seedStep k log c)

def seedLog (calls : List (EpochCall Params Log Header Hashes Addr)) : List Nat :=
  seedRun k calls []

-- `EPOCH` holds the seed log: nonces `0 .. log.length - 1`, the `n`-th seed at nonce `n`, and the
-- hardcoded block hash everywhere.
structure Refines (m : EpochMap Params) (log : List Nat) : Prop where
  dense : Dense m log.length
  seeds : ∀ n e, m.lookup n = some e → log[n]? = some e.seed
  hashes : HashesInit m

theorem refines_empty : Refines (∅ : EpochMap Params) [] :=
  ⟨by simp [Dense], by simp, by simp [HashesInit]⟩

theorem lt_of_lookup {m : EpochMap Params} {log : List Nat} (h : Refines m log) {n : Nat}
    {e : Epoch Params} (he : m.lookup n = some e) : n < log.length :=
  (h.dense n).1 (AList.lookup_isSome.1 (by simp [he]))

theorem current_seed {m : EpochMap Params} {log : List Nat} (h : Refines m log) :
    (current m).map Epoch.seed = log.getLast? := by
  rw [current_of_dense h.dense, List.getLast?_eq_getElem?]
  cases he : m.lookup (log.length - 1) with
  | none =>
    have hl : log.length = 0 := by
      by_contra hl
      have hm := (h.dense (log.length - 1)).2 (by omega)
      simp [← AList.lookup_isSome, he] at hm
    simp [List.length_eq_zero.1 hl]
  | some e => simp [h.seeds _ _ he]

theorem refines_insert {m : EpochMap Params} {log : List Nat} (h : Refines m log)
    (r : ByteArr 32) :
    Refines (m.insert log.length (seededEpoch r)) (log ++ [from_big_endian r.bytes]) where
  dense n := by
    simp only [AList.mem_insert, h.dense n, List.length_append, List.length_singleton]
    omega
  seeds n e he := by
    by_cases hn : n = log.length
    · subst hn
      simp only [AList.lookup_insert, Option.some.injEq] at he
      simp [← he, seededEpoch]
    · rw [AList.lookup_insert_ne hn] at he
      rw [List.getElem?_append_left (lt_of_lookup h he)]
      exact h.seeds n e he
  hashes n e he := by
    by_cases hn : n = log.length
    · subst hn
      simp only [AList.lookup_insert, Option.some.injEq] at he
      simp [← he, seededEpoch]
    · exact h.hashes n e (by rwa [AList.lookup_insert_ne hn] at he)

-- Overwriting an entry with one of the same seed and block hash keeps the refinement.
theorem refines_overwrite {m : EpochMap Params} {log : List Nat} (h : Refines m log) {n : Nat}
    {e : Epoch Params} (he : m.lookup n = some e) (e' : Epoch Params) (hs : e'.seed = e.seed)
    (hb : e'.preverified_block_hash = e.preverified_block_hash) : Refines (m.insert n e') log where
  dense i := by
    have := h.dense n
    simp only [AList.mem_insert, h.dense i]
    have := lt_of_lookup h he
    omega
  seeds i e₁ he₁ := by
    by_cases hi : i = n
    · subst hi
      simp only [AList.lookup_insert, Option.some.injEq] at he₁
      rw [← he₁, hs]
      exact h.seeds i e he
    · exact h.seeds i e₁ (by rwa [AList.lookup_insert_ne hi] at he₁)
  hashes i e₁ he₁ := by
    by_cases hi : i = n
    · subst hi
      simp only [AList.lookup_insert, Option.some.injEq] at he₁
      rw [← he₁, hb]
      exact h.hashes i e he
    · exact h.hashes i e₁ (by rwa [AList.lookup_insert_ne hi] at he₁)

theorem refines_generate {m : EpochMap Params} {log : List Nat} (h : Refines m log)
    (rand : Except Error (ByteArr 32)) :
    Refines (ecall_generate_epoch_seed_internal k rand m).state
      (seedStep k log (.generate_epoch_seed rand : EpochCall Params Log Header Hashes Addr)) := by
  rw [generate_dense k rand h.dense h.hashes]
  by_cases hb : log.length < 2 ^ 256
  · rw [if_pos hb]
    cases rand with
    | error e => exact h
    | ok r =>
      cases hs : k.sign r with
      | error e => simpa only [seedStep, hs] using h
      | ok _ => simpa only [seedStep, hs, if_pos hb] using refines_insert h r
  · rw [if_neg hb]
    cases rand with
    | error e => exact h
    | ok r => cases hs : k.sign r <;> simpa only [seedStep, hs, if_neg hb] using h

theorem refines_set_worker_params {m : EpochMap Params} {log : List Nat} (h : Refines m log)
    (params : Params) : Refines (ecall_set_worker_params_internal k params m).state log := by
  rw [set_worker_params_apply]
  cases he : m.lookup 1 with
  | none => exact h
  | some e =>
    cases hc : k.check_params e params with
    | error _ => simpa [hc] using h
    | ok _ =>
      simpa [hc] using refines_overwrite h he { e with worker_params := some params } rfl rfl

theorem refines_apply {m : EpochMap Params} {log : List Nat} (h : Refines m log)
    (c : EpochCall Params Log Header Hashes Addr) : Refines (c.apply k m) (seedStep k log c) := by
  cases c with
  | generate_epoch_seed rand => exact refines_generate k h rand
  | get_verified_worker_params receipt receipt_hashes block_headers =>
    simpa [EpochCall.apply, seedStep, get_verified_state] using h
  | set_worker_params params => exact refines_set_worker_params k h params
  | get_epoch_workers sc_addr block_number =>
    simpa [EpochCall.apply, seedStep, get_epoch_workers_state] using h

-- The register panics where the seed log says it does.
theorem panics_eq {m : EpochMap Params} {log : List Nat} (h : Refines m log)
    (c : EpochCall Params Log Header Hashes Addr) : c.panics k m = seedPanics log c := by
  cases c with
  | generate_epoch_seed rand =>
    rw [EpochCall.panics, generate_dense k rand h.dense h.hashes, seedPanics]
    by_cases hb : log.length < 2 ^ 256
    · rw [if_pos hb, decide_eq_false (Nat.not_le.2 hb)]
      rcases rand with e | r
      · rfl
      · cases hs : k.sign r <;> simp only [hs] <;> rfl
    · rw [if_neg hb, decide_eq_true (Nat.not_lt.1 hb)]
      rfl
  | get_verified_worker_params receipt receipt_hashes block_headers =>
    have hcur := current_seed h
    rw [EpochCall.panics, get_verified_apply, seedPanics]
    rcases block_headers with _ | ⟨_, _⟩
    · rfl
    · cases hc : current m with
      | none =>
        have hlog : log = [] := List.getLast?_eq_none_iff.1 (by rw [← hcur, hc]; rfl)
        simp only [hc, hlog]
        rfl
      | some e =>
        have hlog : log.isEmpty = false := by
          rw [hc] at hcur
          cases log with
          | nil => cases hcur
          | cons _ _ => rfl
        cases hl : receipt.logs with
        | nil => simp only [hc, hl, hlog]; rfl
        | cons x _ => cases ht : k.try_from x <;> simp only [hc, hl, hlog, ht] <;> rfl
  | set_worker_params params =>
    rw [EpochCall.panics, set_worker_params_apply]
    split <;> (try split) <;> rfl
  | get_epoch_workers sc_addr block_number =>
    rw [EpochCall.panics, get_epoch_workers_apply]
    split <;> (try split) <;> rfl

theorem refines_run (calls : List (EpochCall Params Log Header Hashes Addr))
    {m : EpochMap Params} {log : List Nat} (h : Refines m log) :
    Refines (run k calls m) (seedRun k calls log) := by
  induction calls generalizing m log with
  | nil => exact h
  | cons c calls ih =>
    rw [run, seedRun, panics_eq k h c]
    cases seedPanics log c
    · exact ih (refines_apply k h c)
    · exact refines_apply k h c

-- Every register a run of ecalls builds from the empty `EPOCH` holds that run's seed log.
theorem refines_reachable (calls : List (EpochCall Params Log Header Hashes Addr)) :
    Refines (run k calls ∅) (seedLog k calls) :=
  refines_run k calls refines_empty

theorem seedStep_extends (log : List Nat) (c : EpochCall Params Log Header Hashes Addr) :
    log <+: seedStep k log c := by
  unfold seedStep
  split
  · split
    · split
      · exact List.prefix_append _ _
      · exact List.prefix_refl _
    · exact List.prefix_refl _
  · exact List.prefix_refl _

theorem seedRun_extends (calls : List (EpochCall Params Log Header Hashes Addr)) (log : List Nat) :
    log <+: seedRun k calls log := by
  induction calls generalizing log with
  | nil => exact List.prefix_refl _
  | cons c calls ih =>
    rw [seedRun]
    split
    · exact seedStep_extends k log c
    · exact (seedStep_extends k log c).trans (ih _)

-- Later calls only extend the log, also past a panic, after which nothing changes.
theorem seedRun_append (calls more : List (EpochCall Params Log Header Hashes Addr))
    (log : List Nat) : seedRun k calls log <+: seedRun k (calls ++ more) log := by
  induction calls generalizing log with
  | nil => exact seedRun_extends k more log
  | cons c calls ih =>
    rw [List.cons_append, seedRun, seedRun]
    by_cases hp : seedPanics log c = true
    · simp only [if_pos hp, List.prefix_refl]
    · rw [if_neg hp, if_neg hp]
      exact ih _

theorem seedLog_extends (calls more : List (EpochCall Params Log Header Hashes Addr)) :
    seedLog k calls <+: seedLog k (calls ++ more) :=
  seedRun_append k calls more []

theorem getElem?_of_extends {l₁ l₂ : List Nat} (h : l₁ <+: l₂) {n : Nat} (hn : n < l₁.length) :
    l₂[n]? = l₁[n]? := by
  obtain ⟨t, rfl⟩ := h
  exact List.getElem?_append_left hn

theorem epoch_register_invariant (calls : List (EpochCall Params Log Header Hashes Addr)) :
    (∀ n, n ∈ run k calls ∅ ↔ n < (seedLog k calls).length) ∧
    (∀ n e, (run k calls ∅).lookup n = some e →
      (seedLog k calls)[n]? = some e.seed ∧
      tokenize_uint PREVERIFIED_BLOCK_HASH = some e.preverified_block_hash) ∧
    (get_epoch (run k calls ∅) none).map (Option.map Epoch.seed) = .ok (seedLog k calls).getLast? ∧
    ∀ more n e, (run k calls ∅).lookup n = some e →
      ∃ e', (run k (calls ++ more) ∅).lookup n = some e' ∧ e'.seed = e.seed := by
  have h := refines_reachable k calls
  refine ⟨h.dense,
    fun n e he => ⟨h.seeds n e he, (h.hashes n e he).symm ▸ tokenize_uint_preverified⟩,
    by simp [get_epoch_none, Except.map, current_seed h], fun more n e he => ?_⟩
  have h' := refines_reachable k (calls ++ more)
  have hpre := seedLog_extends k calls more
  have hn := lt_of_lookup h he
  obtain ⟨e', he'⟩ := Option.isSome_iff_exists.1 (AList.lookup_isSome.2
    ((h'.dense n).2 (lt_of_lt_of_le hn hpre.length_le)))
  refine ⟨e', he', ?_⟩
  have := h'.seeds n e' he'
  rw [getElem?_of_extends hpre hn, h.seeds n e he] at this
  exact (Option.some.inj this).symm

end Register

end EnigmaCore.EpochKeeper
