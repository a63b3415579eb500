import Mathlib.Data.List.Forall2
import EnigmaCore.Ipc.Batch

namespace EnigmaCore.Ipc

section Store

variable {δ : Type} (env : Env δ) (eid : Eid)

-- An entry that `update_deltas` turns into the tuple `t`: its address decodes to `t`'s 32 bytes,
-- its delta to `t`'s data, and `t`'s key is the entry's `Delta` slot.
def Decodes (d : IpcDelta) (t : DeltaKey × Bytes) : Prop :=
  ∃ a x, d.address = some a ∧ d.delta = some x ∧ env.from_hex_32 a = .ok t.1.hash ∧
    env.from_hex x = .ok t.2 ∧ t.1.key_type = .Delta d.key

-- An entry that cannot be turned into a tuple: its address or delta is missing, or does not
-- decode.
def Malformed (d : IpcDelta) : Prop :=
  match d.address, d.delta with
  | some a, some x => (env.from_hex_32 a).is_err ∨ (env.from_hex x).is_err
  | _, _ => True

theorem deltaTuple_eq_ok {d : IpcDelta} {t : DeltaKey × Bytes} :
    deltaTuple env d = .ok t ↔ Decodes env d t := by
  obtain ⟨address, key, delta⟩ := d
  obtain ⟨⟨hash, key_type⟩, data⟩ := t
  cases address <;> cases delta <;>
    simp [deltaTuple, Decodes, Option.ok_or, bind_eq_ok, lift_eq_ok, @eq_comm Stype, and_assoc,
      and_comm, and_left_comm]

theorem deltaTuple_noPanic (d : IpcDelta) : NoPanic (deltaTuple env d) :=
  .bind .lift fun _ => .bind .lift fun _ => .bind .lift fun _ => .bind .lift fun _ => .pure

theorem deltaTuple_error_of_malformed {d : IpcDelta} (h : Malformed env d) :
    ∃ f, deltaTuple env d = .error f := by
  cases ht : deltaTuple env d with
  | error f => exact ⟨f, rfl⟩
  | ok t =>
    obtain ⟨a, x, ha, hx, hh, hd, -⟩ := (deltaTuple_eq_ok env).1 ht
    simp only [Malformed, ha, hx, hh, hd, Except.is_err, Bool.false_eq_true, or_self] at h

theorem Decodes.delta_keys {deltas : List IpcDelta} {tuples : List (DeltaKey × Bytes)}
    (h : List.Forall₂ (Decodes env) deltas tuples) :
    ∀ t ∈ tuples, ∃ i, t.1.key_type = .Delta i := by
  induction h with
  | nil => simp
  | cons hd _ ih =>
    obtain ⟨_, _, _, _, _, _, hk⟩ := hd
    rintro t (_ | ⟨_, ht⟩)
    exacts [⟨_, hk⟩, ih t ht]

section Outcome

variable {id : String} {deltas : List IpcDelta} {s : δ}

theorem update_deltas_of_error {f : Fault} (h : deltas.mapM (deltaTuple env) = .error f) :
    update_deltas env id deltas s = .error f s := by
  simp only [update_deltas, liftExcept_bind_apply, h]

theorem update_deltas_of_ok {tuples : List (DeltaKey × Bytes)} {errors : List IpcDeltaResult}
    (h : deltas.mapM (deltaTuple env) = .ok tuples)
    (he : (tuples.zip (env.db.insert_tuples s tuples).1).mapM (deltaResult env) = .ok errors) :
    update_deltas env id deltas s =
      .ok (.response (.UpdateDeltas id (.UpdateDeltasResult 0 errors)))
        (env.db.insert_tuples s tuples).2 := by
  simp only [update_deltas, liftExcept_bind_apply, withLock_bind_apply, h, he, pure_apply]

theorem update_deltas_state {tuples : List (DeltaKey × Bytes)}
    (h : deltas.mapM (deltaTuple env) = .ok tuples) :
    (update_deltas env id deltas s).state = (env.db.insert_tuples s tuples).2 := by
  simp only [update_deltas, liftExcept_bind_apply, withLock_bind_apply, h]
  split <;> rfl

end Outcome

-- The report loop over `tuples.zip(results)`: one entry per decoded delta, in order.
theorem deltaResults_eq {deltas : List IpcDelta} {tuples : List (DeltaKey × Bytes)}
    (h : List.Forall₂ (Decodes env) deltas tuples) (results : List (Except Error Unit)) :
    (tuples.zip results).mapM (deltaResult env) =
      .ok ((deltas.zip (tuples.zip results)).map fun (d, t, r) =>
        { address := env.to_hex t.1.hash.bytes, key := d.key,
          status := if r.is_err then 1 else 0 }) := by
  induction h generalizing results with
  | nil => rfl
  | @cons d t deltas tuples hd _ ih =>
    obtain ⟨_, _, _, _, _, _, hk⟩ := hd
    cases results with
    | nil => rfl
    | cons r results =>
      obtain ⟨⟨hash, key_type⟩, data⟩ := t
      simp only at hk
      subst hk
      rw [List.zip_cons_cons, List.mapM_cons, ih]
      rfl

-- `update_deltas` with an entry it cannot decode, at any position: it fails with an `Err`
-- before taking the store's lock, so no entry is inserted.
theorem update_deltas_malformed_writes_nothing (id : String) (deltas : List IpcDelta) (s : δ)
    (d : IpcDelta) (hd : d ∈ deltas) (hbad : Malformed env d) :
    ∃ e, update_deltas env id deltas s = .error (.err e) s := by
  obtain ⟨f, hf⟩ := deltaTuple_error_of_malformed env hbad
  obtain ⟨f', hm⟩ := mapM_error_of_mem hd hf
  obtain ⟨e, rfl⟩ := NoPanic.mapM (deltaTuple_noPanic env) deltas f' hm
  exact ⟨e, update_deltas_of_error env hm⟩

-- Sample entries for `sampleEnv`: an address of 32 characters, which it decodes to 32 bytes.
def sampleAddress : String := String.mk (List.replicate 32 'a')

def sampleHash : ByteArr 32 := ⟨List.replicate 32 97, rfl⟩

def sampleDeltas : List IpcDelta :=
  [⟨some sampleAddress, 5, some "ab"⟩, ⟨some sampleAddress, 6, some "cd"⟩]

def sampleTuples : List (DeltaKey × Bytes) :=
  [(⟨sampleHash, .Delta 5⟩, [97, 98]), (⟨sampleHash, .Delta 6⟩, [99, 100])]

-- A store that already holds the second entry's key, so its insert fails.
def sampleDb : SampleDb := ⟨[], [(⟨sampleHash, .Delta 6⟩, [])]⟩

theorem update_deltas_malformed_sample :
    (⟨none, 7, some "ef"⟩ : IpcDelta) ∈ sampleDeltas ++ [⟨none, 7, some "ef"⟩] ∧
    Malformed sampleEnv ⟨none, 7, some "ef"⟩ ∧
    ∃ e, update_deltas sampleEnv "1" (sampleDeltas ++ [⟨none, 7, some "ef"⟩]) sampleDb =
      .error (.err e) sampleDb :=
  ⟨by simp, trivial,
    update_deltas_malformed_writes_nothing sampleEnv "1" _ sampleDb ⟨none, 7, some "ef"⟩ (by simp)
      trivial⟩

-- `update_deltas` on entries that all decode: one `insert_tuples` of their tuples in input
-- order, and one report entry per input delta, in the same order.
theorem update_deltas_reports_each (id : String) (deltas : List IpcDelta) (s : δ)
    (tuples : List (DeltaKey × Bytes)) (hdec : List.Forall₂ (Decodes env) deltas tuples)
    (hlen : (env.db.insert_tuples s tuples).1.length = tuples.length) :
    let results := (env.db.insert_tuples s tuples).1
    let errors := (deltas.zip (tuples.zip results)).map fun (d, t, r) =>
      ({ address := env.to_hex t.1.hash.bytes, key := d.key,
         status := if r.is_err then 1 else 0 } : IpcDeltaResult)
    update_deltas env id deltas s =
      .ok (.response (.UpdateDeltas id (.UpdateDeltasResult 0 errors)))
        (env.db.insert_tuples s tuples).2 ∧
    errors.length = deltas.length := by
  have hmap : deltas.mapM (deltaTuple env) = .ok tuples :=
    mapM_eq_ok.2 (hdec.imp fun _ _ => (deltaTuple_eq_ok env).2)
  have hl := hdec.length_eq
  intro results errors
  refine ⟨update_deltas_of_ok env hmap (deltaResults_eq env hdec _), ?_⟩
  simp only [errors, results, List.length_map, List.length_zip, hlen, hl, min_self]

theorem update_deltas_reports_each_sample :
    List.Forall₂ (Decodes sampleEnv) sampleDeltas sampleTuples ∧
    (sampleEnv.db.insert_tuples sampleDb sampleTuples).1.length = sampleTuples.length ∧
    update_deltas sampleEnv "1" sampleDeltas sampleDb =
      .ok (.response (.UpdateDeltas "1" (.UpdateDeltasResult 0
        [⟨sampleAddress, 5, 0⟩, ⟨sampleAddress, 6, 1⟩])))
        ⟨[], sampleTuples.reverse ++ sampleDb.deltas⟩ :=
  have hdec : List.Forall₂ (Decodes sampleEnv) sampleDeltas sampleTuples :=
    .cons ⟨_, _, rfl, rfl, rfl, rfl, rfl⟩ (.cons ⟨_, _, rfl, rfl, rfl, rfl, rfl⟩ .nil)
  ⟨hdec, rfl,
    (update_deltas_reports_each sampleEnv "1" sampleDeltas sampleDb sampleTuples hdec rfl).1⟩

-- The writes one request may make on the store: none; `force_update` of the `ByteCode` record
-- at the decoded address of an `UpdateNewContract`; one `insert_tuples` of the decoded `Delta`
-- tuples of an `UpdateDeltas`.
inductive StoreWrite : IpcRequest → δ → δ → Prop
  | unchanged (req : IpcRequest) (s : δ) : StoreWrite req s s
  | bytecode {id address bytecode : String} {s : δ} {a : ByteArr 32} {b : Bytes} :
      env.from_hex_32 address = .ok a → env.from_hex bytecode = .ok b →
      StoreWrite (.UpdateNewContract id address bytecode) s
        (env.db.force_update s ⟨a, .ByteCode⟩ b).2
  | deltas {id : String} {deltas : List IpcDelta} {s : δ} {tuples : List (DeltaKey × Bytes)} :
      List.Forall₂ (Decodes env) deltas tuples →
      StoreWrite (.UpdateDeltas id deltas) s (env.db.insert_tuples s tuples).2

-- The writes of a batch: those of its requests in order, up to the one that stopped it.
inductive StoreWrites : List IpcRequest → δ → δ → Prop
  | stop (reqs : List IpcRequest) (s : δ) : StoreWrites reqs s s
  | step {req : IpcRequest} {reqs : List IpcRequest} {s s₁ s₂ : δ} :
      StoreWrite env req s s₁ → StoreWrites reqs s₁ s₂ → StoreWrites (req :: reqs) s s₂

-- The two operations whose handlers take the store's lock to write.
def IpcRequest.isWrite : IpcRequest → Bool
  | .UpdateNewContract .. | .UpdateDeltas .. => true
  | _ => false

theorem StoreWrite.of_eq {req : IpcRequest} {s s' : δ} (h : s' = s) : StoreWrite env req s s' := by
  subst h
  exact .unchanged req _

theorem reading_state {α : Type} (f : δ → Except Fault α) (s : δ) : (reading f s).state = s := by
  unfold reading
  split <;> rfl

theorem lift_state {α : Type} (x : Except Fault α) (s : δ) :
    ((monadLift x : RustM δ α) s).state = s := by
  cases x <;> rfl

theorem replyOf_state (x : RustM δ Message) (s : δ) : (replyOf x s).state = (x s).state := by
  unfold replyOf
  rcases x s with ⟨a, s'⟩ | ⟨e | p, s'⟩ <;> rfl

theorem update_new_contract_state {id address bytecode : String} {s : δ} {a : ByteArr 32}
    {b : Bytes} (ha : env.from_hex_32 address = .ok a) (hb : env.from_hex bytecode = .ok b) :
    (update_new_contract env id address bytecode s).state =
      (env.db.force_update s ⟨a, .ByteCode⟩ b).2 := by
  simp only [update_new_contract, liftError_bind_apply, withLock_bind_apply, ha, hb]
  split <;> rfl

theorem handleRequest_writes (req : IpcRequest) (s : δ) :
    StoreWrite env req s (handleRequest env eid req s).state := by
  cases req with
  | UpdateNewContract id address bytecode =>
    show StoreWrite env _ s (update_new_contract env id address bytecode s).state
    cases ha : env.from_hex_32 address with
    | error e => exact .of_eq env (by simp only [update_new_contract, liftError_bind_apply, ha,
        EStateM.Result.state_error])
    | ok a =>
      cases hb : env.from_hex bytecode with
      | error e => exact .of_eq env (by simp only [update_new_contract, liftError_bind_apply, ha,
          hb, EStateM.Result.state_error])
      | ok b =>
        rw [update_new_contract_state env ha hb]
        exact .bytecode ha hb
  | UpdateDeltas id deltas =>
    show StoreWrite env _ s (update_deltas env id deltas s).state
    cases h : deltas.mapM (deltaTuple env) with
    | error f => exact .of_eq env (by rw [update_deltas_of_error env h]; rfl)
    | ok tuples =>
      rw [update_deltas_state env h]
      exact .deltas ((mapM_eq_ok.1 h).imp fun _ _ => (deltaTuple_eq_ok env).1)
  | GetTip | GetTips | GetAllTips | GetAllAddrs | GetDelta | GetDeltas | GetContract
  | ComputeTask =>
    dsimp only [handleRequest]
    exact .of_eq env (reading_state _ s)
  | GetRegistrationParams | IdentityChallenge | NewTaskEncryptionKey | DeploySecretContract
  | GetPTTRequest =>
    dsimp only [handleRequest]
    exact .of_eq env (lift_state _ s)

theorem handle_message_writes (reqs : List IpcRequest) (s : δ) :
    StoreWrites env reqs s (handle_message env reqs eid s).state := by
  induction reqs generalizing s with
  | nil => exact .stop [] s
  | cons req reqs ih =>
    have hw := handleRequest_writes env eid req s
    rw [← replyOf_state] at hw
    rcases hr : replyOf (handleRequest env eid req) s with ⟨msg, s₁⟩ | ⟨f, s₁⟩ <;> rw [hr] at hw
    · rw [handle_message_cons_ok env eid hr, bind_pure_state]
      exact .step hw (ih s₁)
    · rw [handle_message_cons_error env eid hr]
      exact .step hw (.stop reqs s₁)

theorem StoreWrite.eq_of_isWrite {req : IpcRequest} {s s' : δ} (h : StoreWrite env req s s')
    (hr : req.isWrite = false) : s' = s := by
  cases h with
  | unchanged => rfl
  | bytecode => cases hr
  | deltas => cases hr

theorem StoreWrites.eq_of_reads {reqs : List IpcRequest} {s s' : δ} (h : StoreWrites env reqs s s')
    (hr : ∀ req ∈ reqs, req.isWrite = false) : s' = s := by
  induction h with
  | stop => rfl
  | step hw _ ih =>
    rw [ih fun req h => hr req (List.mem_cons_of_mem _ h),
      hw.eq_of_isWrite env (hr _ (List.mem_cons_self _ _))]

section ContractRecords

-- What the store must do for the code records to be safe from `insert_tuples`: inserting tuples
-- keyed by `Delta` slots leaves what `get_contract` reads unchanged.
variable (hframe : ∀ s tuples, (∀ t ∈ tuples, ∃ i, t.1.key_type = Stype.Delta i) →
  ∀ a, env.db.get_contract (env.db.insert_tuples s tuples).2 a = env.db.get_contract s a)

include hframe in
theorem StoreWrites.get_contract_eq {reqs : List IpcRequest} {s s' : δ}
    (h : StoreWrites env reqs s s')
    (hr : ∀ req ∈ reqs, ∀ id address bytecode, req ≠ .UpdateNewContract id address bytecode)
    (a : ByteArr 32) : env.db.get_contract s' a = env.db.get_contract s a := by
  induction h with
  | stop => rfl
  | step hw _ ih =>
    rw [ih fun req h => hr req (List.mem_cons_of_mem _ h)]
    cases hw with
    | unchanged => rfl
    | bytecode => exact absurd rfl (hr _ (List.mem_cons_self _ _) _ _ _)
    | deltas hdec => exact hframe _ _ (Decodes.delta_keys env hdec) a

end ContractRecords

-- The store effects of a batch: each request writes nothing, or `UpdateNewContract` its address's
-- `ByteCode` record by `force_update`, or `UpdateDeltas` its decoded `Delta` tuples by one
-- `insert_tuples`. A batch without those two leaves the store as it was, and, on a store whose
-- `insert_tuples` keeps to the keys it is given, a batch without `UpdateNewContract` leaves every
-- contract record as it was.
theorem handle_message_store_effects (reqs : List IpcRequest) (s : δ) :
    StoreWrites env reqs s (handle_message env reqs eid s).state ∧
    ((∀ req ∈ reqs, req.isWrite = false) → (handle_message env reqs eid s).state = s) ∧
    ((∀ s tuples, (∀ t ∈ tuples, ∃ i, t.1.key_type = Stype.Delta i) →
        ∀ a, env.db.get_contract (env.db.insert_tuples s tuples).2 a = env.db.get_contract s a) →
      (∀ req ∈ reqs, ∀ id address bytecode, req ≠ .UpdateNewContract id address bytecode) →
      ∀ a, env.db.get_contract (handle_message env reqs eid s).state a = env.db.get_contract s a) :=
  have hw := handle_message_writes env eid reqs s
  ⟨hw, hw.eq_of_reads env, fun hframe hr => hw.get_contract_eq env hframe hr⟩

end Store

-- The list store of the samples files tuples under deltas only, so it meets the store law above,
-- and a batch of an `UpdateDeltas` and a read keeps every contract it holds.
theorem handle_message_store_effects_sample :
    (∀ s tuples, (∀ t ∈ tuples, ∃ i, t.1.key_type = Stype.Delta i) →
      ∀ a, sampleEnv.db.get_contract (sampleEnv.db.insert_tuples s tuples).2 a =
        sampleEnv.db.get_contract s a) ∧
    ∀ a, sampleEnv.db.get_contract (handle_message sampleEnv
      [.UpdateDeltas "1" sampleDeltas, .GetAllAddrs "2"] 0 sampleDb).state a =
        sampleEnv.db.get_contract sampleDb a :=
  have hlaw : ∀ s tuples, (∀ t ∈ tuples, ∃ i, t.1.key_type = Stype.Delta i) →
      ∀ a, sampleEnv.db.get_contract (sampleEnv.db.insert_tuples s tuples).2 a =
        sampleEnv.db.get_contract s a := fun _ _ _ _ => rfl
  ⟨hlaw, (handle_message_store_effects sampleEnv 0 _ sampleDb).2.2 hlaw (by simp)⟩

end EnigmaCore.Ipc
