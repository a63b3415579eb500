import EnigmaCore.Ipc.Handling

namespace EnigmaCore.Ipc

section Batch

variable {δ : Type} (env : Env δ) (eid : Eid)

-- A batch served one request at a time, each on the store its predecessors left: a handler's
-- `Ok` frame is the reply, an `Err` becomes the empty frame, and the next request is served.
inductive Served : List IpcRequest → δ → List Message → δ → Prop
  | nil (s : δ) : Served [] s [] s
  | reply {req : IpcRequest} {reqs : List IpcRequest} {s s₁ s₂ : δ} {msg : Message}
      {outs : List Message} :
      handleRequest env eid req s = .ok msg s₁ → Served reqs s₁ outs s₂ →
      Served (req :: reqs) s (msg :: outs) s₂
  | empty {req : IpcRequest} {reqs : List IpcRequest} {s s₁ s₂ : δ} {e : Error}
      {outs : List Message} :
      handleRequest env eid req s = .error (.err e) s₁ → Served reqs s₁ outs s₂ →
      Served (req :: reqs) s (.empty :: outs) s₂

theorem Served.length_eq {reqs : List IpcRequest} {s s' : δ} {outs : List Message}
    (h : Served env eid reqs s outs s') : outs.length = reqs.length := by
  induction h with
  | nil => rfl
  | reply _ _ ih => simp [ih]
  | empty _ _ ih => simp [ih]

theorem replyOf_eq_ok {x : RustM δ Message} {s s' : δ} {msg : Message} :
    replyOf x s = .ok msg s' ↔ x s = .ok msg s' ∨ msg = .empty ∧ ∃ e, x s = .error (.err e) s' := by
  unfold replyOf
  rcases hx : x s with ⟨a, s₀⟩ | ⟨e | p, s₀⟩ <;> simp [hx, eq_comm]

theorem handle_message_nil (s : δ) : handle_message env [] eid s = .ok [] s := rfl

theorem handle_message_cons (req : IpcRequest) (reqs : List IpcRequest) :
    handle_message env (req :: reqs) eid = (replyOf (handleRequest env eid req) >>= fun msg =>
      handle_message env reqs eid >>= fun outs => pure (msg :: outs)) := by
  rw [handle_message, List.mapM_cons]
  rfl

theorem handle_message_cons_ok {req : IpcRequest} {reqs : List IpcRequest} {s s₁ : δ}
    {msg : Message} (h : replyOf (handleRequest env eid req) s = .ok msg s₁) :
    handle_message env (req :: reqs) eid s =
      (handle_message env reqs eid >>= fun outs => pure (msg :: outs)) s₁ := by
  rw [handle_message_cons, bind_of_ok h]

theorem handle_message_cons_error {req : IpcRequest} {reqs : List IpcRequest} {s s₁ : δ}
    {f : Fault} (h : replyOf (handleRequest env eid req) s = .error f s₁) :
    handle_message env (req :: reqs) eid s = .error f s₁ := by
  rw [handle_message_cons, bind_of_error h]

theorem handle_message_cons_eq_ok {req : IpcRequest} {reqs : List IpcRequest} {s s' : δ}
    {outs : List Message} :
    handle_message env (req :: reqs) eid s = .ok outs s' ↔
      ∃ msg s₁ outs₁, replyOf (handleRequest env eid req) s = .ok msg s₁ ∧
        handle_message env reqs eid s₁ = .ok outs₁ s' ∧ outs = msg :: outs₁ := by
  rw [handle_message_cons, bindM_eq_ok]
  simp only [bindM_eq_ok, pure_apply, EStateM.Result.ok.injEq]
  constructor
  · rintro ⟨msg, s₁, hr, outs₁, s₂, ht, rfl, rfl⟩
    exact ⟨msg, s₁, outs₁, hr, ht, rfl⟩
  · rintro ⟨msg, s₁, outs₁, hr, ht, rfl⟩
    exact ⟨msg, s₁, hr, outs₁, s', ht, rfl, rfl⟩

theorem served_cons_iff {req : IpcRequest} {reqs : List IpcRequest} {s s' : δ}
    {outs : List Message} :
    Served env eid (req :: reqs) s outs s' ↔
      ∃ msg s₁ outs₁, replyOf (handleRequest env eid req) s = .ok msg s₁ ∧
        Served env eid reqs s₁ outs₁ s' ∧ outs = msg :: outs₁ := by
  constructor
  · rintro (_ | ⟨h, hs⟩ | ⟨h, hs⟩)
    · exact ⟨_, _, _, replyOf_eq_ok.2 (.inl h), hs, rfl⟩
    · exact ⟨_, _, _, replyOf_eq_ok.2 (.inr ⟨rfl, _, h⟩), hs, rfl⟩
  · rintro ⟨msg, s₁, outs₁, hr, hs, rfl⟩
    rcases replyOf_eq_ok.1 hr with h | ⟨rfl, e, h⟩
    · exact .reply h hs
    · exact .empty h hs

theorem handle_message_eq_ok_iff (reqs : List IpcRequest) (s : δ) (outs : List Message) (s' : δ) :
    handle_message env reqs eid s = .ok outs s' ↔ Served env eid reqs s outs s' := by
  induction reqs generalizing s outs with
  | nil =>
    rw [handle_message_nil]
    constructor
    · rintro ⟨⟩
      exact .nil _
    · rintro ⟨⟩
      rfl
  | cons req reqs ih => simp only [handle_message_cons_eq_ok, served_cons_iff, ih]

theorem replyOf_ne_err (x : RustM δ Message) (s s' : δ) (e : Error) :
    replyOf x s ≠ .error (.err e) s' := by
  unfold replyOf
  rcases x s with ⟨a, s₀⟩ | ⟨e | p, s₀⟩ <;> simp

theorem handle_message_ne_err (reqs : List IpcRequest) (s : δ) (e : Error) (s' : δ) :
    handle_message env reqs eid s ≠ .error (.err e) s' := by
  induction reqs generalizing s with
  | nil => simp [handle_message_nil]
  | cons req reqs ih =>
    rw [handle_message_cons, Ne, bindM_eq_error]
    rintro (h | ⟨msg, s₁, -, h⟩)
    · exact replyOf_ne_err _ s s' e h
    · rcases bindM_eq_error.1 h with h | ⟨_, _, _, ⟨⟩⟩
      exact ih s₁ h

theorem handle_message_append (reqs₁ reqs₂ : List IpcRequest) :
    handle_message env (reqs₁ ++ reqs₂) eid = (do
      let outs₁ ← handle_message env reqs₁ eid
      let outs₂ ← handle_message env reqs₂ eid
      pure (outs₁ ++ outs₂)) :=
  List.mapM_append _

-- A batch run to its end, cut at a request: the frames before it, its own reply on the store they
-- left, and the frames after it.
theorem handle_message_at {pre rest : List IpcRequest} {req : IpcRequest} {s s' : δ}
    {outs : List Message} (h : handle_message env (pre ++ req :: rest) eid s = .ok outs s') :
    ∃ s₁ msg s₂ outs₁ outs₂, handle_message env pre eid s = .ok outs₁ s₁ ∧
      replyOf (handleRequest env eid req) s₁ = .ok msg s₂ ∧
      handle_message env rest eid s₂ = .ok outs₂ s' ∧
      outs = outs₁ ++ msg :: outs₂ ∧ outs₁.length = pre.length := by
  simp only [handle_message_append, bindM_eq_ok, pure_apply, EStateM.Result.ok.injEq] at h
  obtain ⟨outs₁, s₁, h₁, outs₂', _, h₂, rfl, rfl⟩ := h
  obtain ⟨msg, s₂, outs₂, hr, ht, rfl⟩ := (handle_message_cons_eq_ok env eid).1 h₂
  exact ⟨s₁, msg, s₂, outs₁, outs₂, h₁, hr, ht, rfl,
    ((handle_message_eq_ok_iff env eid pre s _ _).1 h₁).length_eq⟩

-- The `i`-th frame of a batch run to its end is the reply to the `i`-th request, on the store the
-- requests before it left.
theorem handle_message_getElem? {reqs : List IpcRequest} {i : Nat} {req : IpcRequest}
    {s s' s₁ : δ} {outs outs₀ : List Message} (h : handle_message env reqs eid s = .ok outs s')
    (hreq : reqs[i]? = some req) (hpre : handle_message env (reqs.take i) eid s = .ok outs₀ s₁) :
    ∃ msg s₂, replyOf (handleRequest env eid req) s₁ = .ok msg s₂ ∧ outs[i]? = some msg := by
  obtain ⟨hi, rfl⟩ := List.getElem?_eq_some_iff.1 hreq
  rw [← List.take_append_drop i reqs, List.drop_eq_getElem_cons hi] at h
  obtain ⟨s₃, msg, s₂, outs₁, outs₂, h₁, hr, -, rfl, hl⟩ := handle_message_at env eid h
  rw [hpre] at h₁
  obtain ⟨rfl, rfl⟩ := EStateM.Result.ok.inj h₁
  have hlen : outs₀.length = i := hl.trans (List.length_take_of_le hi.le)
  refine ⟨msg, s₂, hr, ?_⟩
  rw [List.getElem?_append_right hlen.le, hlen, Nat.sub_self, List.getElem?_cons_zero]

theorem replyOf_of_ok {x : RustM δ Message} {s s' : δ} {msg : Message} (h : x s = .ok msg s') :
    replyOf x s = .ok msg s' := by
  simp only [replyOf, h]

theorem replyOf_of_panic {x : RustM δ Message} {s s' : δ} {msg : String}
    (h : x s = .error (.panic msg) s') : replyOf x s = .error (.panic msg) s' := by
  simp only [replyOf, h]

theorem replyOf_of_err {x : RustM δ Message} {s s' : δ} {e : Error}
    (h : x s = .error (.err e) s') : replyOf x s = .ok .empty s' := by
  simp only [replyOf, h]
  rfl

-- `compute_task` passes a failed decoding of the key up with `?`, whatever the fields before it.
theorem compute_task_of_from_hex_error {input : IpcTask} {e : Error}
    (h : env.from_hex input.user_pubkey = .error e) (id : String) (db : δ) :
    ∃ e', compute_task env id input eid db = .error (.err e') := by
  unfold compute_task
  rcases env.from_hex input.encrypted_args with e₁ | _
  · exact ⟨e₁, rfl⟩
  rcases env.from_hex_32 input.address with e₂ | _
  · exact ⟨e₂, rfl⟩
  rcases env.from_hex input.encrypted_fn with e₃ | _
  · exact ⟨e₃, rfl⟩
  exact ⟨e, by simp [h]⟩

theorem replyOf_get_all_addrs (id : String) (s : δ) :
    replyOf (handleRequest env eid (.GetAllAddrs id)) s = .ok (.response (.GetAllAddrs id
      (.Addresses ((env.db.get_all_addresses s).unwrap_or_default.map fun addr =>
        env.to_hex addr.bytes)))) s := rfl

-- A batch whose second request panics, after a `GetAllAddrs`, panics as a whole.
theorem handle_message_pair_panics {id : String} {req : IpcRequest} {s s₁ : δ} {msg : String}
    (h : handleRequest env eid req s = .error (.panic msg) s₁) :
    handle_message env [.GetAllAddrs id, req] eid s = .error (.panic msg) s₁ := by
  rw [handle_message_cons_ok env eid (replyOf_get_all_addrs env eid id s),
    bind_of_error (handle_message_cons_error env eid (replyOf_of_panic h))]

-- And one whose second request fails with an `Err` answers it with the empty frame.
theorem handle_message_pair_err {id : String} {req : IpcRequest} {s s₁ : δ} {e : Error}
    (h : handleRequest env eid req s = .error (.err e) s₁) :
    ∃ reply, handle_message env [.GetAllAddrs id, req] eid s = .ok [reply, .empty] s₁ := by
  have hrest : handle_message env [req] eid s = .ok [.empty] s₁ := by
    rw [handle_message_cons_ok env eid (replyOf_of_err h)]
    rfl
  rw [handle_message_cons_ok env eid (replyOf_get_all_addrs env eid id s), bind_of_ok hrest]
  exact ⟨_, rfl⟩

-- `get_dh_user_key` unwraps the hex decoding of `user_pubkey` and `deploy_contract` expects its
-- `pre_code`, where `compute_task` passes a failed decoding up with `?`; and all three copy the key
-- with `clone_from_slice`, which panics unless it has 64 bytes. A batch holding a
-- `NewTaskEncryptionKey` whose key is not hex or not 64 bytes, or a `DeploySecretContract` without
-- code, panics and loses the frame already made for the request before it; a `ComputeTask` with a
-- key that is not hex gets the empty frame in its place.
theorem handle_message_aborts_on_malformed_field (s : δ) (id id' : String) (input : IpcTask)
    (e : Error) (hpk : env.from_hex input.user_pubkey = .error e) :
    (∃ msg s', handle_message env [.GetAllAddrs id, .NewTaskEncryptionKey id' input.user_pubkey]
      eid s = .error (.panic msg) s') ∧
    (∀ user_pubkey bytes, env.from_hex user_pubkey = .ok bytes → bytes.length ≠ 64 →
      ∃ msg s', handle_message env [.GetAllAddrs id, .NewTaskEncryptionKey id' user_pubkey] eid s =
        .error (.panic msg) s') ∧
    (input.pre_code = none → ∃ msg s', handle_message env
      [.GetAllAddrs id, .DeploySecretContract id' input] eid s = .error (.panic msg) s') ∧
    ∃ reply, handle_message env [.GetAllAddrs id, .ComputeTask id' input] eid s =
      .ok [reply, .empty] s := by
  have hkey : handleRequest env eid (.NewTaskEncryptionKey id' input.user_pubkey) s =
      .error (.panic "called `Result::unwrap()` on an `Err` value") s := by
    simp [handleRequest, get_dh_user_key, hpk, Except.unwrap]
  have hlen : ∀ user_pubkey bytes, env.from_hex user_pubkey = .ok bytes → bytes.length ≠ 64 →
      handleRequest env eid (.NewTaskEncryptionKey id' user_pubkey) s =
        .error (.panic "destination and source slices have different lengths") s := by
    intro user_pubkey bytes hb hl
    simp [handleRequest, get_dh_user_key, hb, Except.unwrap, clone_from_slice, hl]
  have hcode : input.pre_code = none → handleRequest env eid (.DeploySecretContract id' input) s =
      .error (.panic "Bytecode Missing") s := by
    intro hpre
    simp [handleRequest, deploy_contract, hpre, Option.expect]
  refine ⟨⟨_, s, handle_message_pair_panics env eid hkey⟩,
    fun user_pubkey bytes hb hl => ⟨_, s, handle_message_pair_panics env eid (hlen _ _ hb hl)⟩,
    fun hpre => ⟨_, s, handle_message_pair_panics env eid (hcode hpre)⟩, ?_⟩
  obtain ⟨e', he⟩ := compute_task_of_from_hex_error env eid hpk id' s
  have hc : handleRequest env eid (.ComputeTask id' input) s = .error (.err e') s := by
    simp only [handleRequest, reading, he]
  exact handle_message_pair_err env eid hc

-- The store of the samples: contract code by address, and deltas by key, newest first.
structure SampleDb where
  contracts : List (ByteArr 32 × Bytes)
  deltas : List (DeltaKey × Bytes)

-- A sample deployment: a list store whose `insert_tuples` refuses a key it already holds, codecs
-- that take each character for one byte, and enclave and attestation calls that all fail.
def sampleEnv : Env SampleDb where
  db := {
    get_tip := fun _ _ => .error (.Other "no tip")
    get_all_tips := fun db => .ok db.deltas
    get_all_addresses := fun db => .ok (db.contracts.map Prod.fst)
    get_delta := fun db k => (db.deltas.lookup k).ok_or (.Other "no delta")
    get_deltas := fun _ _ _ => .ok none
    get_contract := fun db a => (db.contracts.lookup a).ok_or (.Other "no contract")
    force_update := fun db k v => (.ok (), { db with contracts := (k.hash, v) :: db.contracts })
    insert_tuples := fun db ts =>
      (ts.map fun t =>
          if (db.deltas.lookup t.1).isSome then .error (.Other "key exists") else .ok (),
        { db with deltas := ts.reverse ++ db.deltas }) }
  from_hex := fun x => .ok (x.toList.map fun c => c.toNat.toUInt8)
  from_hex_32 := fun x =>
    if h : (x.toList.map fun c => c.toNat.toUInt8).length = 32 then .ok ⟨_, h⟩
    else .error (.Other "Invalid hex")
  to_hex := fun b => String.mk (b.map fun u => Char.ofNat u.toNat)
  keccak256 := id
  from_delta_key := fun _ _ => .error (.Other "no decoder")
  spid := ""
  get_register_signing_address := fun _ => .error (.Other "no enclave")
  retry_quote := fun _ _ _ => .error (.Other "no enclave")
  get_report := fun _ => .error (.Other "no attestation service")
  get_quote := fun _ => .error (.Other "no attestation service")
  get_user_key := fun _ _ => .error (.Other "no enclave")
  pubkey_of_msg := fun _ => .error (.Other "no enclave")
  ptt_req := fun _ _ => .error (.Other "no enclave")
  deploy := fun _ _ _ _ _ _ _ => .error (.Other "no enclave")
  execute := fun _ _ _ _ _ _ _ => .error (.Other "no enclave")

-- `sampleEnv` decoding hex as `FromHex` does: pairs of hex digits, anything else refused.
def hexEnv : Env SampleDb :=
  { sampleEnv with from_hex := fun x => (hexBytes x.toList).ok_or (.Other "Invalid character") }

theorem handle_message_aborts_on_bad_key :
    hexEnv.from_hex (⟨none, "", "", "zz", 0, ""⟩ : IpcTask).user_pubkey =
      .error (.Other "Invalid character") ∧
    (∃ msg s', handle_message hexEnv [.GetAllAddrs "1", .NewTaskEncryptionKey "2" "zz"] 0 ⟨[], []⟩ =
      .error (.panic msg) s') ∧
    (∀ user_pubkey bytes, hexEnv.from_hex user_pubkey = .ok bytes → bytes.length ≠ 64 →
      ∃ msg s', handle_message hexEnv [.GetAllAddrs "1", .NewTaskEncryptionKey "2" user_pubkey] 0
        ⟨[], []⟩ = .error (.panic msg) s') ∧
    ((⟨none, "", "", "zz", 0, ""⟩ : IpcTask).pre_code = none → ∃ msg s', handle_message hexEnv
      [.GetAllAddrs "1", .DeploySecretContract "2" ⟨none, "", "", "zz", 0, ""⟩] 0 ⟨[], []⟩ =
        .error (.panic msg) s') ∧
    ∃ reply, handle_message hexEnv [.GetAllAddrs "1", .ComputeTask "2" ⟨none, "", "", "zz", 0, ""⟩]
      0 ⟨[], []⟩ = .ok [reply, .empty] ⟨[], []⟩ :=
  ⟨rfl, handle_message_aborts_on_malformed_field hexEnv 0 ⟨[], []⟩ "1" "2"
    ⟨none, "", "", "zz", 0, ""⟩ _ rfl⟩

-- The frame that answers a request: the response variant of the same operation, carrying the
-- request's `id` (and, for `UpdateNewContract`, its address). A deployment's `TaskResult`
-- carries the built code and no output, a computation's the output and no code.
def Answers : IpcRequest → Message → Prop
  | .GetRegistrationParams id, .response (.GetRegistrationParams id' _) => id' = id
  | .GetTip id _, .response (.GetTip id' _) => id' = id
  | .GetTips id _, .response (.GetTips id' _) => id' = id
  | .GetAllTips id, .response (.GetAllTips id' _) => id' = id
  | .GetAllAddrs id, .response (.GetAllAddrs id' _) => id' = id
  | .GetDelta id _, .response (.GetDelta id' _) => id' = id
  | .GetDeltas id _, .response (.GetDeltas id' _) => id' = id
  | .GetContract id _, .response (.GetContract id' _) => id' = id
  | .UpdateNewContract id address _, .response (.UpdateNewContract id' address' _) =>
    id' = id ∧ address' = address
  | .UpdateDeltas id _, .response (.UpdateDeltas id' _) => id' = id
  | .NewTaskEncryptionKey id _, .response (.NewTaskEncryptionKey id' _) => id' = id
  | .DeploySecretContract id _,
    .response (.DeploySecretContract id' (.TaskResult (some _) _ _ none _ _)) => id' = id
  | .ComputeTask id _, .response (.ComputeTask id' (.TaskResult none _ _ (some _) _ _)) => id' = id
  | .GetPTTRequest id _, .response (.GetPTTRequest id' _) => id' = id
  | _, _ => False

theorem reading_returns {α : Type} {P : α → Prop} {f : δ → Except Fault α}
    (h : ∀ db, Returns P (f db)) : ReturnsM P (reading f) := by
  intro s a s' ha
  cases hf : f s with
  | ok b =>
    simp only [reading, hf] at ha
    cases ha
    exact h s a hf
  | error e => simp only [reading, hf] at ha; cases ha

theorem handleRequest_answers (req : IpcRequest) :
    ReturnsM (Answers req) (handleRequest env eid req) := by
  cases req with
  | GetRegistrationParams id =>
    exact .lift <| Returns.bind fun _ => Returns.bind fun _ => Returns.bind fun _ =>
      Returns.bind fun _ => Returns.bind fun _ => Returns.bind fun _ => Returns.pure rfl
  | IdentityChallenge id nonce => exact .lift Returns.throw
  | GetTip id input =>
    exact reading_returns fun _ => Returns.bind fun _ => Returns.bind fun ⟨_, _⟩ =>
      Returns.bind fun _ => Returns.pure rfl
  | GetTips id input => exact reading_returns fun _ => Returns.bind fun _ => Returns.pure rfl
  | GetAllTips id => exact reading_returns fun _ => Returns.bind fun _ => Returns.pure rfl
  | GetAllAddrs id => exact reading_returns fun _ => .pure (by rfl)
  | GetDelta id input =>
    exact reading_returns fun _ => Returns.bind fun _ => Returns.bind fun _ => Returns.bind fun _ =>
      Returns.pure rfl
  | GetDeltas id input => exact reading_returns fun _ => Returns.bind fun _ => Returns.pure rfl
  | GetContract id input => exact reading_returns fun _ => Returns.bind fun _ => Returns.pure rfl
  | UpdateNewContract id address bytecode =>
    exact ReturnsM.bind fun _ => ReturnsM.bind fun _ => ReturnsM.bind fun _ =>
      ReturnsM.bind fun ⟨⟩ => ReturnsM.pure ⟨rfl, rfl⟩
  | UpdateDeltas id deltas =>
    exact ReturnsM.bind fun _ => ReturnsM.bind fun _ => ReturnsM.bind fun _ => ReturnsM.pure rfl
  | NewTaskEncryptionKey id user_pubkey =>
    exact .lift <| Returns.bind fun _ => Returns.bind fun _ => Returns.bind fun ⟨_, _⟩ =>
      Returns.bind fun _ => Returns.bind fun _ => Returns.pure rfl
  | DeploySecretContract id input =>
    exact .lift <| Returns.bind fun _ => Returns.bind fun _ => Returns.bind fun _ =>
      Returns.bind fun _ => Returns.bind fun _ => Returns.bind fun _ => Returns.bind fun _ =>
      Returns.bind fun _ => Returns.pure rfl
  | ComputeTask id input =>
    exact reading_returns fun _ => Returns.bind fun _ => Returns.bind fun _ => Returns.bind fun _ =>
      Returns.bind fun _ => Returns.bind fun _ => Returns.bind fun _ => Returns.bind fun _ =>
      Returns.pure rfl
  | GetPTTRequest id addresses =>
    exact .lift <| Returns.bind fun _ => Returns.bind fun ⟨_, _⟩ => Returns.pure rfl

-- A batch run to its end is served request by request, and the frame at each position answers
-- its request: where the handler returns on the store the requests before it left, the frame is
-- its response, of the same operation and with the request's `id`; where it fails with an `Err`,
-- the frame is empty.
theorem handle_message_answers (reqs : List IpcRequest) (s : δ) (outs : List Message) (s' : δ)
    (h : handle_message env reqs eid s = .ok outs s') :
    Served env eid reqs s outs s' ∧
    ∀ i req outs₀ s₁, reqs[i]? = some req →
      handle_message env (reqs.take i) eid s = .ok outs₀ s₁ →
      (∀ msg s₂, handleRequest env eid req s₁ = .ok msg s₂ →
        outs[i]? = some msg ∧ Answers req msg) ∧
      (∀ e s₂, handleRequest env eid req s₁ = .error (.err e) s₂ → outs[i]? = some .empty) := by
  refine ⟨(handle_message_eq_ok_iff env eid reqs s outs s').1 h,
    fun i req outs₀ s₁ hreq hpre => ?_⟩
  obtain ⟨msg', s₂', hr, hi⟩ := handle_message_getElem? env eid h hreq hpre
  refine ⟨fun msg s₂ hok => ?_, fun e s₂ herr => ?_⟩
  · rw [replyOf_of_ok hok] at hr
    obtain ⟨rfl, rfl⟩ := EStateM.Result.ok.inj hr
    exact ⟨hi, handleRequest_answers env eid req s₁ msg s₂ hok⟩
  · rw [replyOf_of_err herr] at hr
    obtain ⟨rfl, rfl⟩ := EStateM.Result.ok.inj hr
    exact hi

theorem handle_message_answers_sample :
    handle_message sampleEnv [.GetAllAddrs "7", .GetContract "8" "x"] 0 ⟨[], []⟩ =
      .ok [.response (.GetAllAddrs "7" (.Addresses [])), .empty] ⟨[], []⟩ ∧
    ([.GetAllAddrs "7", .GetContract "8" "x"] : List IpcRequest)[0]? = some (.GetAllAddrs "7") ∧
    handle_message sampleEnv ([.GetAllAddrs "7", .GetContract "8" "x"].take 0) 0 ⟨[], []⟩ =
      .ok [] ⟨[], []⟩ ∧
    handleRequest sampleEnv 0 (.GetAllAddrs "7") ⟨[], []⟩ =
      .ok (.response (.GetAllAddrs "7" (.Addresses []))) ⟨[], []⟩ ∧
    ([.response (.GetAllAddrs "7" (.Addresses [])), .empty] : List Message)[0]? =
      some (.response (.GetAllAddrs "7" (.Addresses []))) ∧
    Answers (.GetAllAddrs "7") (.response (.GetAllAddrs "7" (.Addresses []))) :=
  have h : handle_message sampleEnv [.GetAllAddrs "7", .GetContract "8" "x"] 0 ⟨[], []⟩ =
      .ok [.response (.GetAllAddrs "7" (.Addresses [])), .empty] ⟨[], []⟩ := rfl
  ⟨h, rfl, rfl, rfl, ((handle_message_answers sampleEnv 0 _ _ _ _ h).2 0 _ [] ⟨[], []⟩ rfl rfl).1
    _ _ rfl⟩

end Batch

end EnigmaCore.Ipc
