import EnigmaCore.Ipc.Batch

namespace EnigmaCore.Ipc

-- What `IpcListener::run` has done once the socket has received some multiparts: the replies it
-- sent, the `DATABASE` as it is left, and the panic that ended the future, if one did.
structure Listening (δ : Type) where
  sent : List (List Message)
  store : δ
  stopped : Option Fault

section Listener

variable {δ : Type}

-- `IpcListener::run(f)`, that is `stream.map(f).forward(sink)`: each multipart received is
-- answered with `f` of it, in turn, on the `DATABASE` the earlier ones left. A panic in `f`
-- unwinds the future, and no later multipart is answered.
def IpcListener.run (f : List IpcRequest → RustM δ (List Message)) :
    List (List IpcRequest) → δ → Listening δ
  | [], s => ⟨[], s, none⟩
  | multi :: rest, s =>
    match f multi s with
    | .ok reply s₁ =>
      let r := IpcListener.run f rest s₁
      { r with sent := reply :: r.sent }
    | .error e s₁ => ⟨[], s₁, some e⟩

variable {f : List IpcRequest → RustM δ (List Message)} {multi : List IpcRequest}
  {rest : List (List IpcRequest)} {s s₁ : δ}

theorem run_cons_ok {reply : List Message} (h : f multi s = .ok reply s₁) :
    IpcListener.run f (multi :: rest) s =
      { IpcListener.run f rest s₁ with sent := reply :: (IpcListener.run f rest s₁).sent } := by
  rw [IpcListener.run, h]

theorem run_cons_error {e : Fault} (h : f multi s = .error e s₁) :
    IpcListener.run f (multi :: rest) s = ⟨[], s₁, some e⟩ := by
  rw [IpcListener.run, h]

-- The listener answers at most the multiparts it received, and all of them unless it stopped.
theorem run_sent_length (f : List IpcRequest → RustM δ (List Message))
    (batches : List (List IpcRequest)) (s : δ) :
    (IpcListener.run f batches s).sent.length ≤ batches.length ∧
    ((IpcListener.run f batches s).stopped = none ↔
      (IpcListener.run f batches s).sent.length = batches.length) := by
  induction batches generalizing s with
  | nil => simp [IpcListener.run]
  | cons multi rest ih =>
    rcases h : f multi s with ⟨reply, s₁⟩ | ⟨e, s₁⟩
    · rw [run_cons_ok h]
      simpa using ih s₁
    · rw [run_cons_error h]
      simp

variable (env : Env δ) (eid : Eid)

-- The listener the enclave app runs: `server.run(|multi| handle_message(multi, eid))`.
def serve : List (List IpcRequest) → δ → Listening δ :=
  IpcListener.run fun multi => handle_message env multi eid

theorem serve_cons_ok {reply : List Message} (h : handle_message env multi eid s = .ok reply s₁) :
    serve env eid (multi :: rest) s =
      { serve env eid rest s₁ with sent := reply :: (serve env eid rest s₁).sent } :=
  run_cons_ok h

theorem serve_cons_error {e : Fault} (h : handle_message env multi eid s = .error e s₁) :
    serve env eid (multi :: rest) s = ⟨[], s₁, some e⟩ :=
  run_cons_error h

-- Serving `handle_message`, the listener stops only on a panic.
theorem serve_stopped_panic (batches : List (List IpcRequest)) (s : δ) (e : Fault)
    (h : (serve env eid batches s).stopped = some e) : ∃ msg, e = .panic msg := by
  induction batches generalizing s with
  | nil => cases h
  | cons multi rest ih =>
    rcases hm : handle_message env multi eid s with ⟨reply, s₁⟩ | ⟨e', s₁⟩
    · rw [serve_cons_ok env eid hm] at h
      exact ih s₁ h
    · rw [serve_cons_error env eid hm] at h
      cases h
      rcases e with e | msg
      · exact absurd hm (handle_message_ne_err env eid multi s e s₁)
      · exact ⟨msg, rfl⟩

-- Each multipart answered gets one frame per request.
theorem serve_reply_lengths (batches : List (List IpcRequest)) (s : δ) :
    List.Forall₂ (fun multi reply => reply.length = multi.length)
      (batches.take (serve env eid batches s).sent.length) (serve env eid batches s).sent := by
  induction batches generalizing s with
  | nil => exact .nil
  | cons multi rest ih =>
    rcases hm : handle_message env multi eid s with ⟨reply, s₁⟩ | ⟨e, s₁⟩
    · simp only [serve_cons_ok env eid hm, List.length_cons, List.take_succ_cons]
      exact .cons ((handle_message_eq_ok_iff env eid multi s _ _).1 hm).length_eq (ih s₁)
    · simp only [serve_cons_error env eid hm, List.length_nil, List.take_zero]
      exact .nil

-- Serving the multiparts in turn is serving all their requests as one batch: the same frames, in
-- order, and the same store; or, when a panic stops the listener, the same panic and store, the
-- one batch losing every reply.
theorem serve_flatten (batches : List (List IpcRequest)) (s : δ) :
    handle_message env batches.flatten eid s =
      match (serve env eid batches s).stopped with
      | none => .ok (serve env eid batches s).sent.flatten (serve env eid batches s).store
      | some e => .error e (serve env eid batches s).store := by
  induction batches generalizing s with
  | nil => rfl
  | cons multi rest ih =>
    rw [List.flatten_cons, handle_message_append]
    rcases hm : handle_message env multi eid s with ⟨reply, s₁⟩ | ⟨e, s₁⟩
    · rw [bind_of_ok hm, serve_cons_ok env eid hm]
      rcases hr : (serve env eid rest s₁).stopped with _ | e
      · rw [bind_of_ok ((ih s₁).trans (by rw [hr]))]
        simp [hr]
      · rw [bind_of_error ((ih s₁).trans (by rw [hr]))]
    · rw [bind_of_error hm, serve_cons_error env eid hm]

-- The listener, over any multiparts received and any store, stops only on a panic, and then
-- answers nothing more. Each multipart before that gets one frame per request. What it sent, and
-- the store it leaves, are what one `handle_message` of all the requests received gives, except
-- that there a panic loses every reply.
theorem serve_answers_in_turn (batches : List (List IpcRequest)) (s : δ) :
    let r := serve env eid batches s
    (∀ e, r.stopped = some e → ∃ msg, e = .panic msg) ∧
    (r.stopped = none ↔ r.sent.length = batches.length) ∧
    List.Forall₂ (fun multi reply => reply.length = multi.length)
      (batches.take r.sent.length) r.sent ∧
    handle_message env batches.flatten eid s =
      match r.stopped with
      | none => .ok r.sent.flatten r.store
      | some e => .error e r.store :=
  ⟨serve_stopped_panic env eid batches s, (run_sent_length _ batches s).2,
    serve_reply_lengths env eid batches s, serve_flatten env eid batches s⟩

-- A request whose handler panics whatever the store holds, such as an `IdentityChallenge`.
def PanicsAlways (req : IpcRequest) : Prop :=
  ∀ s, ∃ msg s', handleRequest env eid req s = .error (.panic msg) s'

theorem Served.not_panicsAlways {reqs : List IpcRequest} {s s' : δ} {outs : List Message}
    (h : Served env eid reqs s outs s') {req : IpcRequest} (hreq : req ∈ reqs) :
    ¬PanicsAlways env eid req := by
  intro hp
  induction h with
  | nil => cases hreq
  | reply hr _ ih | empty hr _ ih =>
    rcases List.mem_cons.1 hreq with rfl | hreq
    · obtain ⟨msg, s', hs⟩ := hp _
      rw [hs] at hr
      cases hr
    · exact ih hreq

-- A batch holding such a request panics, whatever the store holds.
theorem handle_message_panics_of_mem {reqs : List IpcRequest} {req : IpcRequest}
    (hreq : req ∈ reqs) (hp : PanicsAlways env eid req) (s : δ) :
    ∃ msg s', handle_message env reqs eid s = .error (.panic msg) s' := by
  rcases h : handle_message env reqs eid s with ⟨outs, s'⟩ | ⟨e | msg, s'⟩
  · exact absurd hp (((handle_message_eq_ok_iff env eid reqs s outs s').1 h).not_panicsAlways
      env eid hreq)
  · exact absurd h (handle_message_ne_err env eid reqs s e s')
  · exact ⟨msg, s', rfl⟩

-- One request that panics on every store ends the service: once the listener has received a
-- multipart holding one, it has stopped on a panic, and neither that multipart nor any after it
-- is answered.
theorem serve_stops_at_panicking_request (batches : List (List IpcRequest)) (s : δ) (j : Nat)
    (b : List IpcRequest) (req : IpcRequest) (hb : batches[j]? = some b) (hreq : req ∈ b)
    (hp : PanicsAlways env eid req) :
    (∃ msg, (serve env eid batches s).stopped = some (.panic msg)) ∧
      (serve env eid batches s).sent.length ≤ j := by
  induction batches generalizing s j with
  | nil => cases hb
  | cons multi rest ih =>
    rcases hm : handle_message env multi eid s with ⟨reply, s₁⟩ | ⟨e, s₁⟩
    · rw [serve_cons_ok env eid hm]
      cases j with
      | zero =>
        rw [List.getElem?_cons_zero, Option.some.injEq] at hb
        subst hb
        obtain ⟨msg, s', hs⟩ := handle_message_panics_of_mem env eid hreq hp s
        rw [hs] at hm
        cases hm
      | succ j =>
        obtain ⟨hstop, hlen⟩ := ih s₁ j (by rwa [List.getElem?_cons_succ] at hb)
        exact ⟨hstop, Nat.succ_le_succ hlen⟩
    · rw [serve_cons_error env eid hm]
      obtain ⟨msg, rfl⟩ := serve_stopped_panic env eid (multi :: rest) s e
        (by rw [serve_cons_error env eid hm])
      exact ⟨⟨msg, rfl⟩, Nat.zero_le _⟩

theorem serve_stops_at_identity_challenge :
    PanicsAlways sampleEnv 0 (.IdentityChallenge "3" "n") ∧
    (serve sampleEnv 0 [[.GetAllAddrs "1"], [.GetAllAddrs "2", .IdentityChallenge "3" "n"],
      [.GetAllAddrs "4"]] ⟨[], []⟩).sent = [[.response (.GetAllAddrs "1" (.Addresses []))]] ∧
    (∃ msg, (serve sampleEnv 0 [[.GetAllAddrs "1"], [.GetAllAddrs "2", .IdentityChallenge "3" "n"],
      [.GetAllAddrs "4"]] ⟨[], []⟩).stopped = some (.panic msg)) ∧
    (serve sampleEnv 0 [[.GetAllAddrs "1"], [.GetAllAddrs "2", .IdentityChallenge "3" "n"],
      [.GetAllAddrs "4"]] ⟨[], []⟩).sent.length ≤ 1 :=
  have hp : PanicsAlways sampleEnv 0 (.IdentityChallenge "3" "n") := fun s => ⟨_, s, rfl⟩
  ⟨hp, rfl, serve_stops_at_panicking_request sampleEnv 0 _ ⟨[], []⟩ 1 _ _ rfl (by simp) hp⟩

end Listener

end EnigmaCore.Ipc
