import EnigmaCore.EpochKeeper.Register

namespace EnigmaCore.EpochKeeper

section WorkerParams

variable {Params Log Header Hashes Addr : Type} (k : Keeper Params Log Addr)

-- Only the epoch at nonce 1 carries worker parameters, and only parameters the keeper's check
-- accepted for that epoch.
def ParamsAtOne (m : EpochMap Params) : Prop :=
  ∀ n e p, m.lookup n = some e → e.worker_params = some p →
    n = 1 ∧ ∃ q, k.check_params { e with worker_params := q } p = .ok ()

theorem paramsAtOne_empty : ParamsAtOne k (∅ : EpochMap Params) := by
  intro n e p he
  simp at he

-- Storing an epoch without worker parameters keeps the invariant, at any nonce.
theorem paramsAtOne_insert_none {m : EpochMap Params} (h : ParamsAtOne k m) {n : Nat}
    {e : Epoch Params} (hw : e.worker_params = none) : ParamsAtOne k (m.insert n e) := by
  intro i e₁ p he₁ hp
  by_cases hi : i = n
  · subst hi
    simp only [AList.lookup_insert, Option.some.injEq] at he₁
    rw [← he₁, hw] at hp
    cases hp
  · exact h i e₁ p (by rwa [AList.lookup_insert_ne hi] at he₁) hp

-- So does setting, at nonce 1, parameters the check accepted for the epoch there.
theorem paramsAtOne_insert_one {m : EpochMap Params} (h : ParamsAtOne k m) {e : Epoch Params}
    {params : Params} (hc : k.check_params e params = .ok ()) :
    ParamsAtOne k (m.insert 1 { e with worker_params := some params }) := by
  intro i e₁ p he₁ hp
  by_cases hi : i = 1
  · subst hi
    simp only [AList.lookup_insert, Option.some.injEq] at he₁
    subst he₁
    cases hp
    exact ⟨rfl, e.worker_params, by cases e; exact hc⟩
  · exact h i e₁ p (by rwa [AList.lookup_insert_ne hi] at he₁) hp

theorem paramsAtOne_generate {m : EpochMap Params} (h : ParamsAtOne k m)
    (rand : Except Error (ByteArr 32)) :
    ParamsAtOne k (ecall_generate_epoch_seed_internal k rand m).state := by
  rcases generate_cases k rand m with ⟨f, hf⟩ | ⟨n, r, e, -, -, -, hw, hg⟩
  · rwa [hf]
  · rw [hg]
    exact paramsAtOne_insert_none k h hw

theorem paramsAtOne_set_worker_params {m : EpochMap Params} (h : ParamsAtOne k m)
    (params : Params) : ParamsAtOne k (ecall_set_worker_params_internal k params m).state := by
  rw [set_worker_params_apply]
  cases he : m.lookup 1 with
  | none => exact h
  | some e =>
    cases hc : k.check_params e params with
    | error _ => simpa [hc] using h
    | ok _ => simpa [hc] using paramsAtOne_insert_one k h hc

theorem paramsAtOne_apply {m : EpochMap Params} (h : ParamsAtOne k m)
    (c : EpochCall Params Log Header Hashes Addr) : ParamsAtOne k (c.apply k m) := by
  cases c with
  | generate_epoch_seed rand => exact paramsAtOne_generate k h rand
  | get_verified_worker_params receipt receipt_hashes block_headers =>
    rwa [EpochCall.apply, get_verified_state]
  | set_worker_params params => exact paramsAtOne_set_worker_params k h params
  | get_epoch_workers sc_addr block_number => rwa [EpochCall.apply, get_epoch_workers_state]

theorem paramsAtOne_run (calls : List (EpochCall Params Log Header Hashes Addr))
    {m : EpochMap Params} (h : ParamsAtOne k m) : ParamsAtOne k (run k calls m) := by
  induction calls generalizing m with
  | nil => exact h
  | cons c calls ih =>
    rw [run]
    split
    · exact paramsAtOne_apply k h c
    · exact ih (paramsAtOne_apply k h c)

-- In every register a run of ecalls builds, worker parameters sit at nonce 1 only, and only ones
-- the check accepted. The epoch that worker selection reads, the one at the highest nonce, so
-- never has any unless the register holds exactly two epochs.
theorem worker_params_only_at_nonce_one (calls : List (EpochCall Params Log Header Hashes Addr)) :
    (∀ n e p, (run k calls ∅).lookup n = some e → e.worker_params = some p →
      n = 1 ∧ ∃ q, k.check_params { e with worker_params := q } p = .ok ()) ∧
    ∀ e, current (run k calls ∅) = some e → (seedLog k calls).length ≠ 2 →
      e.worker_params = none := by
  have h := paramsAtOne_run k calls (paramsAtOne_empty k)
  refine ⟨h, fun e he hL => ?_⟩
  rw [current_of_dense (refines_reachable k calls).dense] at he
  cases hw : e.worker_params with
  | none => rfl
  | some p =>
    have := (h _ e p he hw).1
    omega

end WorkerParams

end EnigmaCore.EpochKeeper
