import EnigmaCore.Ipc.Listener
import EnigmaCore.Ipc.Store

namespace EnigmaCore.Ipc

section ReadBack

variable {δ : Type} (env : Env δ) (eid : Eid)

-- What the store must do for a write to be read back: the `ByteCode` record `force_update` wrote
-- is what `get_contract` then returns for the address.
def ReadsBackContracts (db : Database δ) : Prop :=
  ∀ s a v s', db.force_update s ⟨a, .ByteCode⟩ v = (.ok (), s') → db.get_contract s' a = .ok v

-- And each tuple `insert_tuples` reports `Ok` for is what `get_delta` then returns for its key.
def ReadsBackDeltas (db : Database δ) : Prop :=
  ∀ (s : δ) (tuples : List (DeltaKey × Bytes)) (i : Nat) (k : DeltaKey) (v : Bytes),
    tuples[i]? = some (k, v) →
    (db.insert_tuples s tuples).1[i]? = some (.ok ()) →
    db.get_delta (db.insert_tuples s tuples).2 k = .ok v

theorem forall₂_of_getElem? {α β : Type} {R : α → β → Prop} {l₁ : List α} {l₂ : List β}
    (h : List.Forall₂ R l₁ l₂) {i : Nat} {a : α} {b : β} (ha : l₁[i]? = some a)
    (hb : l₂[i]? = some b) : R a b := by
  induction h generalizing i with
  | nil => simp at ha
  | cons hr _ ih =>
    cases i with
    | zero =>
      simp only [List.getElem?_cons_zero, Option.some.injEq] at ha hb
      subst ha hb
      exact hr
    | succ i =>
      simp only [List.getElem?_cons_succ] at ha hb
      exact ih ha hb

theorem replyOf_response {x : RustM δ Message} {s s' : δ} {r : IpcResponse}
    (h : replyOf x s = .ok (.response r) s') : x s = .ok (.response r) s' := by
  rcases replyOf_eq_ok.1 h with h | ⟨h, -⟩
  · exact h
  · cases h

-- Read-only requests between two others leave the second the store the first left.
theorem handle_message_reads_state {reads : List IpcRequest} {s s' : δ} {outs : List Message}
    (hreads : ∀ req ∈ reads, req.isWrite = false)
    (h : handle_message env reads eid s = .ok outs s') : s' = s := by
  have := (handle_message_writes env eid reads s).eq_of_reads env hreads
  rwa [h] at this

theorem update_new_contract_eq_ok {id address bytecode : String} {s s' : δ} {msg : Message}
    (h : update_new_contract env id address bytecode s = .ok msg s') :
    ∃ a b, env.from_hex_32 address = .ok a ∧ env.from_hex bytecode = .ok b ∧
      env.db.force_update s ⟨a, .ByteCode⟩ b = (.ok (), s') := by
  cases ha : env.from_hex_32 address with
  | error e => simp [update_new_contract, ha] at h
  | ok a =>
    cases hb : env.from_hex bytecode with
    | error e => simp [update_new_contract, ha, hb] at h
    | ok b =>
      refine ⟨a, b, rfl, rfl, ?_⟩
      rcases hf : env.db.force_update s ⟨a, .ByteCode⟩ b with ⟨_ | ⟨⟩, s₁⟩ <;>
        simp only [update_new_contract, liftError_bind_apply, withLock_bind_apply, ha, hb, hf,
          pure_apply, EStateM.Result.ok.injEq, reduceCtorEq] at h
      rw [h.2]

theorem update_deltas_eq_ok {id : String} {deltas : List IpcDelta} {s s' : δ} {msg : Message}
    (h : update_deltas env id deltas s = .ok msg s') :
    ∃ tuples, List.Forall₂ (Decodes env) deltas tuples ∧
      s' = (env.db.insert_tuples s tuples).2 ∧
      msg = .response (.UpdateDeltas id (.UpdateDeltasResult 0
        ((deltas.zip (tuples.zip (env.db.insert_tuples s tuples).1)).map fun (d, t, r) =>
          { address := env.to_hex t.1.hash.bytes, key := d.key,
            status := if r.is_err then 1 else 0 }))) := by
  cases hm : deltas.mapM (deltaTuple env) with
  | error f => rw [update_deltas_of_error env hm] at h; cases h
  | ok tuples =>
    have hdec := (mapM_eq_ok.1 hm).imp fun _ _ => (deltaTuple_eq_ok env).1
    rw [update_deltas_of_ok env hm (deltaResults_eq env hdec _)] at h
    cases h
    exact ⟨tuples, hdec, rfl, rfl⟩

theorem replyOf_reading_of_ok {f : δ → Except Fault Message} {s : δ} {msg : Message}
    (h : f s = .ok msg) : replyOf (reading f) s = .ok msg s := by
  simp only [replyOf, reading, h]

theorem get_contract_of {id address : String} {db : δ} {a : ByteArr 32} {v : Bytes}
    (ha : env.from_hex_32 address = .ok a) (hv : env.db.get_contract db a = .ok v) :
    get_contract env id address db = .ok (.response (.GetContract id (.Bytecode (env.to_hex v)))) := by
  simp only [get_contract, ha, hv, Except.unwrap_or_default, lift_ok, ok_bind, pure_eq_ok]

theorem get_delta_of {id : String} {q : IpcDelta} {db : δ} {a : String} {hash : ByteArr 32}
    {v : Bytes} (hq : q.address = some a) (ha : env.from_hex_32 a = .ok hash)
    (hv : env.db.get_delta db ⟨hash, .Delta q.key⟩ = .ok v) :
    get_delta env id q db = .ok (.response (.GetDelta id (.Delta (env.to_hex v)))) := by
  simp only [get_delta, hq, ha, hv, Option.ok_or, lift_ok, ok_bind, pure_eq_ok]

theorem getElem?_after {α : Type} (l₁ l₂ l₃ : List α) (x y : α) :
    (l₁ ++ x :: (l₂ ++ y :: l₃))[l₁.length + 1 + l₂.length]? = some y := by
  rw [List.getElem?_append_right (by omega), Nat.add_assoc, Nat.add_sub_cancel_left,
    Nat.add_comm, List.getElem?_cons_succ, List.getElem?_append_right (by omega), Nat.sub_self,
    List.getElem?_cons_zero]

-- In any batch, an `UpdateNewContract` answered with its status-0 response has stored the decoded
-- bytecode, and a `GetContract` of the same address after it, with only reading requests in
-- between, answers with that bytecode: on any store that reads back what `force_update` wrote.
theorem contract_read_back (hlaw : ReadsBackContracts env.db) (pre reads post : List IpcRequest)
    (id address bytecode id' : String) (s s' : δ) (outs : List Message)
    (hreads : ∀ req ∈ reads, req.isWrite = false)
    (h : handle_message env (pre ++ .UpdateNewContract id address bytecode ::
      (reads ++ .GetContract id' address :: post)) eid s = .ok outs s')
    (hw : outs[pre.length]? = some (.response (.UpdateNewContract id address (.Status 0)))) :
    ∃ b, env.from_hex bytecode = .ok b ∧
      outs[pre.length + 1 + reads.length]? =
        some (.response (.GetContract id' (.Bytecode (env.to_hex b)))) := by
  obtain ⟨s₁, msg, s₂, outs₁, outs₂, -, hu, hrest, rfl, hl₁⟩ := handle_message_at env eid h
  obtain ⟨s₃, msg', s₄, outs₃, outs₄, hr, hg, -, rfl, hl₃⟩ := handle_message_at env eid hrest
  rw [← hl₁, List.getElem?_append_right (Nat.le_refl _), Nat.sub_self, List.getElem?_cons_zero,
    Option.some.injEq] at hw
  subst hw
  obtain ⟨a, b, ha, hb, hf⟩ := update_new_contract_eq_ok env (replyOf_response hu)
  obtain rfl := handle_message_reads_state env eid hreads hr
  rw [handleRequest, replyOf_reading_of_ok (get_contract_of env ha (hlaw _ _ _ _ hf))] at hg
  obtain ⟨rfl, -⟩ := EStateM.Result.ok.inj hg
  exact ⟨b, hb, hl₁ ▸ hl₃ ▸ getElem?_after _ _ _ _ _⟩

-- In any batch, where an `UpdateDeltas` answers with its report, an entry of the report with
-- status 0 names a delta that was stored: a `GetDelta` of that delta's address and key after it,
-- with only reading requests in between, answers with the delta's decoded data. This holds on
-- any store that reads back the tuples `insert_tuples` reports `Ok` for.
theorem delta_read_back (hlaw : ReadsBackDeltas env.db) (pre reads post : List IpcRequest)
    (id id' : String) (deltas : List IpcDelta) (q : IpcDelta) (s s' : δ) (outs : List Message)
    (errors : List IpcDeltaResult) (i : Nat) (d : IpcDelta) (r : IpcDeltaResult)
    (hreads : ∀ req ∈ reads, req.isWrite = false)
    (h : handle_message env (pre ++ .UpdateDeltas id deltas ::
      (reads ++ .GetDelta id' q :: post)) eid s = .ok outs s')
    (hw : outs[pre.length]? = some (.response (.UpdateDeltas id (.UpdateDeltasResult 0 errors))))
    (hd : deltas[i]? = some d) (hr : errors[i]? = some r) (hstatus : r.status = 0)
    (haddr : q.address = d.address) (hkey : q.key = d.key) :
    ∃ x data, d.delta = some x ∧ env.from_hex x = .ok data ∧
      outs[pre.length + 1 + reads.length]? =
        some (.response (.GetDelta id' (.Delta (env.to_hex data)))) := by
  obtain ⟨s₁, msg, s₂, outs₁, outs₂, -, hu, hrest, rfl, hl₁⟩ := handle_message_at env eid h
  obtain ⟨s₃, msg', s₄, outs₃, outs₄, hrd, hg, -, rfl, hl₃⟩ := handle_message_at env eid hrest
  rw [← hl₁, List.getElem?_append_right (Nat.le_refl _), Nat.sub_self, List.getElem?_cons_zero,
    Option.some.injEq] at hw
  subst hw
  obtain ⟨tuples, hdec, rfl, hresp⟩ := update_deltas_eq_ok env (replyOf_response hu)
  obtain rfl := handle_message_reads_state env eid hreads hrd
  -- the report entry `i` is built from delta `i`, tuple `i` and insert result `i`
  simp only [Message.response.injEq, IpcResponse.UpdateDeltas.injEq,
    IpcResults.UpdateDeltasResult.injEq, true_and] at hresp
  rw [hresp, List.getElem?_map] at hr
  obtain ⟨⟨d', ⟨⟨hash, key_type⟩, data⟩, res⟩, hz, rfl⟩ := Option.map_eq_some'.1 hr
  obtain ⟨hd', hz⟩ := List.getElem?_zip_eq_some.1 hz
  obtain ⟨ht, hres⟩ := List.getElem?_zip_eq_some.1 hz
  obtain rfl : d' = d := Option.some.inj (hd'.symm.trans hd)
  -- status 0: the insert of that tuple succeeded
  obtain rfl : res = .ok () := by
    cases res with
    | ok u => rfl
    | error e => simp [Except.is_err] at hstatus
  obtain ⟨a, x, hda, hdx, hha, hhx, hk⟩ := forall₂_of_getElem? hdec hd ht
  simp only at hha hhx hk
  subst hk
  have hget := hlaw s₁ tuples i _ _ ht hres
  rw [← hkey] at hget
  rw [handleRequest, replyOf_reading_of_ok (get_delta_of env (haddr.trans hda) hha hget)] at hg
  obtain ⟨rfl, -⟩ := EStateM.Result.ok.inj hg
  exact ⟨x, data, hdx, hhx, hl₁ ▸ hl₃ ▸ getElem?_after _ _ _ _ _⟩

end ReadBack

section Samples

-- `insert_tuples` of a create-only store: each tuple in turn, refused when its key is held.
def createTuples : SampleDb → List (DeltaKey × Bytes) → List (Except Error Unit) × SampleDb
  | db, [] => ([], db)
  | db, t :: ts =>
    if (db.deltas.lookup t.1).isSome then
      let r := createTuples db ts
      (.error (.Other "key exists") :: r.1, r.2)
    else
      let r := createTuples { db with deltas := t :: db.deltas } ts
      (.ok () :: r.1, r.2)

-- `sampleEnv` over a create-only store.
def createEnv : Env SampleDb :=
  { sampleEnv with db := { sampleEnv.db with insert_tuples := createTuples } }

theorem createTuples_cons_held {db : SampleDb} {t : DeltaKey × Bytes} (ts : List (DeltaKey × Bytes))
    (h : (db.deltas.lookup t.1).isSome) :
    createTuples db (t :: ts) =
      (.error (.Other "key exists") :: (createTuples db ts).1, (createTuples db ts).2) := by
  rw [createTuples, if_pos h]

theorem createTuples_cons_fresh {db : SampleDb} {t : DeltaKey × Bytes}
    (ts : List (DeltaKey × Bytes)) (h : ¬(db.deltas.lookup t.1).isSome) :
    createTuples db (t :: ts) =
      (.ok () :: (createTuples { db with deltas := t :: db.deltas } ts).1,
        (createTuples { db with deltas := t :: db.deltas } ts).2) := by
  rw [createTuples, if_neg h]

-- A create-only store never overwrites a delta it holds.
theorem createTuples_keeps {db : SampleDb} {k : DeltaKey} {v : Bytes}
    (h : db.deltas.lookup k = some v) (ts : List (DeltaKey × Bytes)) :
    (createTuples db ts).2.deltas.lookup k = some v := by
  induction ts generalizing db with
  | nil => exact h
  | cons t ts ih =>
    obtain ⟨tk, tv⟩ := t
    by_cases hheld : (db.deltas.lookup tk).isSome
    · rw [createTuples_cons_held ts hheld]
      exact ih h
    · rw [createTuples_cons_fresh ts hheld]
      have hne : k ≠ tk := by
        rintro rfl
        simp [h] at hheld
      exact ih (by simpa [List.lookup_cons, beq_false_of_ne hne] using h)

-- Each tuple a create-only store reports `Ok` for is then held under its key.
theorem createTuples_reads_back (db : SampleDb) (ts : List (DeltaKey × Bytes)) (i : Nat)
    (k : DeltaKey) (v : Bytes) (ht : ts[i]? = some (k, v))
    (hr : (createTuples db ts).1[i]? = some (.ok ())) :
    (createTuples db ts).2.deltas.lookup k = some v := by
  induction ts generalizing db i with
  | nil => simp at ht
  | cons t ts ih =>
    by_cases hheld : (db.deltas.lookup t.1).isSome
    · rw [createTuples_cons_held ts hheld] at hr ⊢
      cases i with
      | zero => simp at hr
      | succ i => exact ih db i (by simpa using ht) (by simpa using hr)
    · rw [createTuples_cons_fresh ts hheld] at hr ⊢
      cases i with
      | zero =>
        simp only [List.getElem?_cons_zero, Option.some.injEq] at ht
        subst ht
        exact createTuples_keeps (by simp [List.lookup_cons]) ts
      | succ i => exact ih _ i (by simpa using ht) (by simpa using hr)

theorem createEnv_reads_back_contracts : ReadsBackContracts createEnv.db := by
  intro s a v s' h
  cases h
  simp [createEnv, sampleEnv, List.lookup_cons, Option.ok_or]

theorem createEnv_reads_back_deltas : ReadsBackDeltas createEnv.db := by
  intro s tuples i k v ht hr
  simp only [createEnv, sampleEnv, Option.ok_or] at hr ⊢
  rw [createTuples_reads_back s tuples i k v ht hr]
  rfl

-- A write, a read of the addresses, and the read-back.
theorem contract_read_back_sample :
    ReadsBackContracts createEnv.db ∧
    handle_message createEnv [.UpdateNewContract "1" sampleAddress "code", .GetAllAddrs "3",
        .GetContract "2" sampleAddress] 0 ⟨[], []⟩ =
      .ok [.response (.UpdateNewContract "1" sampleAddress (.Status 0)),
          .response (.GetAllAddrs "3" (.Addresses [sampleAddress])),
          .response (.GetContract "2" (.Bytecode "code"))]
        ⟨[(sampleHash, [99, 111, 100, 101])], []⟩ ∧
    ∃ b, createEnv.from_hex "code" = .ok b ∧
      ([.response (.UpdateNewContract "1" sampleAddress (.Status 0)),
          .response (.GetAllAddrs "3" (.Addresses [sampleAddress])),
          .response (.GetContract "2" (.Bytecode "code"))] : List Message)[2]? =
        some (.response (.GetContract "2" (.Bytecode (createEnv.to_hex b)))) :=
  have h : handle_message createEnv [.UpdateNewContract "1" sampleAddress "code", .GetAllAddrs "3",
      .GetContract "2" sampleAddress] 0 ⟨[], []⟩ =
    .ok [.response (.UpdateNewContract "1" sampleAddress (.Status 0)),
        .response (.GetAllAddrs "3" (.Addresses [sampleAddress])),
        .response (.GetContract "2" (.Bytecode "code"))]
      ⟨[(sampleHash, [99, 111, 100, 101])], []⟩ := rfl
  ⟨createEnv_reads_back_contracts, h,
    contract_read_back createEnv 0 createEnv_reads_back_contracts [] [.GetAllAddrs "3"] [] "1"
      sampleAddress "code" "2" _ _ _ (fun _ h => by rw [List.mem_singleton.1 h]; rfl) h rfl⟩

-- A write of two deltas, a read of the addresses, and the read-back of the first delta.
theorem delta_read_back_sample :
    ReadsBackDeltas createEnv.db ∧
    handle_message createEnv [.UpdateDeltas "1" sampleDeltas, .GetAllAddrs "3",
        .GetDelta "2" ⟨some sampleAddress, 5, none⟩] 0 ⟨[], []⟩ =
      .ok [.response (.UpdateDeltas "1" (.UpdateDeltasResult 0
            [⟨sampleAddress, 5, 0⟩, ⟨sampleAddress, 6, 0⟩])),
          .response (.GetAllAddrs "3" (.Addresses [])),
          .response (.GetDelta "2" (.Delta "ab"))]
        ⟨[], sampleTuples.reverse⟩ ∧
    ∃ x data, (⟨some sampleAddress, 5, some "ab"⟩ : IpcDelta).delta = some x ∧
      createEnv.from_hex x = .ok data ∧
      ([.response (.UpdateDeltas "1" (.UpdateDeltasResult 0
            [⟨sampleAddress, 5, 0⟩, ⟨sampleAddress, 6, 0⟩])),
          .response (.GetAllAddrs "3" (.Addresses [])),
          .response (.GetDelta "2" (.Delta "ab"))] : List Message)[2]? =
        some (.response (.GetDelta "2" (.Delta (createEnv.to_hex data)))) :=
  have h : handle_message createEnv [.UpdateDeltas "1" sampleDeltas, .GetAllAddrs "3",
      .GetDelta "2" ⟨some sampleAddress, 5, none⟩] 0 ⟨[], []⟩ =
    .ok [.response (.UpdateDeltas "1" (.UpdateDeltasResult 0
          [⟨sampleAddress, 5, 0⟩, ⟨sampleAddress, 6, 0⟩])),
        .response (.GetAllAddrs "3" (.Addresses [])),
        .response (.GetDelta "2" (.Delta "ab"))]
      ⟨[], sampleTuples.reverse⟩ := rfl
  ⟨createEnv_reads_back_deltas, h,
    delta_read_back createEnv 0 createEnv_reads_back_deltas [] [.GetAllAddrs "3"] [] "1" "2"
      sampleDeltas _ _ _ _ _ 0 ⟨some sampleAddress, 5, some "ab"⟩ ⟨sampleAddress, 5, 0⟩
      (fun _ h => by rw [List.mem_singleton.1 h]; rfl) h rfl rfl rfl rfl rfl rfl⟩

end Samples

end EnigmaCore.Ipc
