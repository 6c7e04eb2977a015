import LogDelivery.Rehearsal.Delivery
import LogDelivery.Wire.Connection

/-!
# Exchanging the wires

What a post comes to for the batch, on each of the two wires: it is delivered, or it has failed in
one of three ways. The wires differ only in what they do with a key that no header can carry. The
direct wire leaves it out; the wire to the agent gives the batch up.
-/
namespace LogDelivery

namespace Failure

/-- What the result of a post means for its batch. -/
def outcome (r : Except Failure Unit) : Except Kind Unit := r.mapError kind

@[simp] theorem outcome_ok (u : Unit) : outcome (.ok u) = .ok u := rfl

@[simp] theorem outcome_error (f : Failure) : outcome (.error f) = .error f.kind := rfl

end Failure

namespace Reply

def outcome : Reply → Except Failure.Kind Unit
  | .answer status _ => Failure.outcome (Failure.ofStatus status)
  | .closed | .silence => .error .retryable

def isRefusal : Reply → Bool
  | .answer status _ => 400 ≤ status && status ≤ 499 && status ≠ 401
  | .closed | .silence => false

theorem outcome_eq_unrecoverable_iff (r : Reply) :
    r.outcome = .error .unrecoverable ↔ r.isRefusal = true := by
  cases r with
  | answer status body =>
    simp only [outcome, isRefusal, Failure.ofStatus]
    by_cases hok : 200 ≤ status ∧ status ≤ 299
    · have hlow : ¬ 400 ≤ status := by omega
      simp [hok, hlow]
    · by_cases hkey : status = 401
      · simp [hkey, Failure.kind]
      · by_cases hclient : 400 ≤ status ∧ status ≤ 499
        · simp [hok, hkey, hclient, Failure.kind]
        · simp only [hok, hkey, hclient, if_false, Failure.outcome_error, Failure.kind]
          simp [hkey, hclient]
  | closed => simp [outcome, isRefusal]
  | silence => simp [outcome, isRefusal]

end Reply

/-- An answer is only asked for what it means: results of one outcome leave a courier the same. -/
theorem Courier.answered_of_outcome_eq (c : Courier) (s : Sending) {r r' : Except Failure Unit}
    (h : Failure.outcome r = Failure.outcome r') : (c.answered s r).1 = (c.answered s r').1 := by
  cases r with
  | ok =>
    cases r' with
    | ok => rfl
    | error g => cases h
  | error f =>
    cases r' with
    | ok => cases h
    | error g =>
      have hkind : f.kind = g.kind := Except.error.inj h
      have hretry : f.isRetryable = g.isRetryable := by
        rw [Failure.isRetryable, Failure.isRetryable, hkind]
      match s with
      | .posting payload =>
        cases hg : g.isRetryable <;> simp [answered, Backlog.offer, Backlog.accepts, hretry, hg]
      | .replaying (.posting parcel count) payload =>
        simp [answered, Backlog.answered, Backlog.returned, hretry, afterReplay]
      | .replaying (.pausing count) payload => rfl
      | .replaying (.ended result) payload => rfl
      | .ended result => rfl

namespace AccessKey

def isUsable (k : AccessKey) : Bool := k.get.1.all Request.isHeaderValue

theorem get_again (k : AccessKey) : k.get.2.get.1 = k.get.1 := by
  cases k with
  | given key => rfl
  | resolver answers calls resolved => cases resolved <;> rfl

theorem isUsable_again (k : AccessKey) : k.get.2.isUsable = k.isUsable := by
  rw [isUsable, isUsable, get_again]

end AccessKey

namespace DirectWire

variable (w : DirectWire) {server : Server} (p : Payload)

theorem post_outcome (hs : server.obstacle = none) :
    ((w.post server p).1.answer?.map fun a => Failure.outcome a.1) =
      some (server.receive (w.request p)).1.outcome := by
  simp only [post, hs]
  cases hr : (server.receive (w.request p)).1 <;>
    simp [PeerMove.answer?, result, Reply.outcome, Failure.kind]

theorem server_post (hs : server.obstacle = none) :
    (w.post server p).2.2.1 = (server.receive (w.request p)).2 := by
  simp only [post, hs]
  cases hr : (server.receive (w.request p)).1 <;> rfl

end DirectWire

namespace AgentWire

variable {w : AgentWire} {target : String} {server : Server} (p : Payload)

theorem request_of_usable (hp : Request.targetOf w.path = .ok target)
    (hk : w.key.isUsable = true) :
    w.request p =
      .ok { target, body := p.body, compressed := p.compressed, accessKey := w.key.get.1 } := by
  rw [AccessKey.isUsable] at hk
  simp [request, hp, hk]

theorem request_of_unusable (hp : Request.targetOf w.path = .ok target)
    (hk : w.key.isUsable = false) :
    w.request p = .error (.encode "failed to build request: failed to parse header value") := by
  rw [AccessKey.isUsable] at hk
  simp [request, hp, hk]

theorem post_outcome {r : Request} (hs : server.obstacle = none) (hr : w.request p = .ok r) :
    ((w.post server p).1.answer?.map fun a => Failure.outcome a.1) =
      some (server.receive r).1.outcome := by
  simp only [post, hs, hr]
  cases hreply : (server.receive r).1 <;>
    simp [PeerMove.answer?, result, Reply.outcome, Failure.kind]

theorem server_post {r : Request} (hs : server.obstacle = none) (hr : w.request p = .ok r) :
    (w.post server p).2.1 = { w with key := w.key.get.2 } ∧
      (w.post server p).2.2.1 = (server.receive r).2 := by
  simp only [post, hs, hr]
  cases hreply : (server.receive r).1 <;> exact ⟨rfl, rfl⟩

theorem post_of_error {failure : Failure} (hs : server.obstacle = none)
    (hr : w.request p = .error failure) :
    w.post server p = (.answer (.error failure), { w with key := w.key.get.2 }, server, []) := by
  simp [post, hs, hr]

end AgentWire

namespace Connection

/-- What posts come to, one after the other; nothing if a post never gets its answer. -/
def outcomes : Connection → List Payload → List (Option (Except Failure.Kind Unit))
  | _, [] => []
  | c, p :: rest =>
    let (move, c, _) := c.post p
    (move.answer?.map fun a => Failure.outcome a.1) :: outcomes c rest

theorem outcomes_direct_cons (w : DirectWire) (server : Server) (p : Payload)
    (payloads : List Payload) :
    outcomes ⟨.direct w, server⟩ (p :: payloads) =
      ((w.post server p).1.answer?.map fun a => Failure.outcome a.1) ::
        outcomes ⟨.direct (w.post server p).2.1, (w.post server p).2.2.1⟩ payloads := rfl

theorem outcomes_agent_cons (w : AgentWire) (server : Server) (p : Payload)
    (payloads : List Payload) :
    outcomes ⟨.agent w, server⟩ (p :: payloads) =
      ((w.post server p).1.answer?.map fun a => Failure.outcome a.1) ::
        outcomes ⟨.agent (w.post server p).2.1, (w.post server p).2.2.1⟩ payloads := rfl

variable (posts : List (Payload × Reply)) (requests : List Request)

theorem outcomes_direct (w : DirectWire) :
    outcomes ⟨.direct w, { replies := posts.map Prod.snd, requests }⟩ (posts.map Prod.fst) =
      posts.map fun x => some x.2.outcome := by
  induction posts generalizing w requests with
  | nil => rfl
  | cons x posts ih =>
    obtain ⟨p, reply⟩ := x
    rw [List.map_cons, List.map_cons, List.map_cons, outcomes_direct_cons,
      DirectWire.post_outcome w p rfl, DirectWire.server_post w p rfl]
    exact congrArg _ (ih _ _)

theorem outcomes_agent_of_usable {w : AgentWire} {target : String}
    (hp : Request.targetOf w.path = .ok target) (hk : w.key.isUsable = true) :
    outcomes ⟨.agent w, { replies := posts.map Prod.snd, requests }⟩ (posts.map Prod.fst) =
      posts.map fun x => some x.2.outcome := by
  induction posts generalizing w requests with
  | nil => rfl
  | cons x posts ih =>
    obtain ⟨p, reply⟩ := x
    have hr := AgentWire.request_of_usable p hp hk
    let server : Server := ⟨none, reply :: posts.map Prod.snd, requests⟩
    obtain ⟨hw, hserver⟩ := AgentWire.server_post p (show server.obstacle = none from rfl) hr
    have hnext : ({ w with key := w.key.get.2 } : AgentWire).key.isUsable = true :=
      (AccessKey.isUsable_again _).trans hk
    rw [List.map_cons, List.map_cons, List.map_cons, outcomes_agent_cons,
      AgentWire.post_outcome p rfl hr, hw, hserver]
    exact congrArg _ (ih _ hp hnext)

theorem outcomes_agent_of_unusable {w : AgentWire} {target : String}
    (hp : Request.targetOf w.path = .ok target) (hk : w.key.isUsable = false) {server : Server}
    (hs : server.obstacle = none) (payloads : List Payload) :
    outcomes ⟨.agent w, server⟩ payloads = payloads.map fun _ => some (.error .unrecoverable) := by
  induction payloads generalizing w with
  | nil => rfl
  | cons p payloads ih =>
    have hpost := AgentWire.post_of_error p hs (AgentWire.request_of_unusable p hp hk)
    have hnext : ({ w with key := w.key.get.2 } : AgentWire).key.isUsable = false :=
      (AccessKey.isUsable_again _).trans hk
    rw [outcomes_agent_cons, hpost, List.map_cons]
    exact congrArg _ (ih (w := { w with key := w.key.get.2 }) hp hnext)

/-- On the two wires that the same settings ask for, posts that get the same replies come to the
same if a header can carry the key, and otherwise only if every payload is refused. Results that
come to the same leave a courier with the same backlog. -/
theorem outcomes_agree_iff (s : Settings) (key : AccessKey) {direct agent : Wire} {target : String}
    (hd : Wire.ofSettings { s with route := .direct } key = .ok direct)
    (ha : Wire.ofSettings { s with route := .agent } key = .ok agent)
    (hp : Request.targetOf s.logsPath = .ok target) :
    (∀ posts : List (Payload × Reply),
      outcomes ⟨direct, { replies := posts.map Prod.snd }⟩ (posts.map Prod.fst) =
        outcomes ⟨agent, { replies := posts.map Prod.snd }⟩ (posts.map Prod.fst) ↔
      key.isUsable = true ∨ ∀ x ∈ posts, x.2.isRefusal = true) ∧
    ∀ (c : Courier) (sending : Sending) (r r' : Except Failure Unit),
      Failure.outcome r = Failure.outcome r' →
      (c.answered sending r).1 = (c.answered sending r').1 := by
  constructor
  · intro posts
    have hdirect : direct = .direct (.ofSettings { s with route := .direct } key) :=
      (Except.ok.inj hd).symm
    have hagent : agent = .agent ⟨s.agentSocket, s.logsPath, key, s.requestTimeout⟩ := by
      cases hf : SocketPath.fault? s.agentSocket with
      | none => simpa [Wire.ofSettings, AgentWire.ofSettings, hf, eq_comm] using ha
      | some fault => simp [Wire.ofSettings, AgentWire.ofSettings, hf] at ha
    rw [hdirect, hagent, outcomes_direct]
    cases hk : key.isUsable with
    | true =>
      rw [outcomes_agent_of_usable (w := ⟨s.agentSocket, s.logsPath, key, s.requestTimeout⟩) posts
        [] hp hk]
      simp
    | false =>
      rw [outcomes_agent_of_unusable hp hk rfl, List.map_map, List.map_inj_left]
      simp only [Function.comp_def, Option.some.injEq, Reply.outcome_eq_unrecoverable_iff,
        Bool.false_eq_true, false_or]
  · intro c sending r r' h
    exact c.answered_of_outcome_eq sending h

def usualAgent (key : AccessKey) : Wire :=
  .agent ⟨"/var/run/log-shipper/agent.sock", "/api/v1/logs", key, .ofSeconds 15⟩

theorem ofSettings_usualAgent (key : AccessKey) :
    Wire.ofSettings { route := .agent } key = .ok (usualAgent key) := by
  have hf : SocketPath.fault? "/var/run/log-shipper/agent.sock" = none := by decide
  simp [Wire.ofSettings, AgentWire.ofSettings, hf, usualAgent]

theorem targetOf_usualPath : Request.targetOf "/api/v1/logs" = .ok "/api/v1/logs" := by
  have hsize : ¬ Request.maxTarget < "/api/v1/logs".utf8ByteSize := by decide
  rw [Request.targetOf, if_neg hsize]
  rfl

theorem outcomes_agree_with_usable_key :
    let s : Settings := {}
    let key := AccessKey.ofResolver [some "key"]
    let posts : List (Payload × Reply) :=
      [(⟨.json "", false, 1⟩, .answer 503 ""), (⟨.json "", false, 1⟩, .answer 202 "")]
    Wire.ofSettings { s with route := .direct } key = .ok (.direct (.ofSettings s key)) ∧
    Wire.ofSettings { s with route := .agent } key = .ok (usualAgent key) ∧
    Request.targetOf s.logsPath = .ok "/api/v1/logs" ∧ key.isUsable = true ∧
    outcomes ⟨.direct (.ofSettings s key), { replies := posts.map Prod.snd }⟩
        (posts.map Prod.fst) =
      outcomes ⟨usualAgent key, { replies := posts.map Prod.snd }⟩ (posts.map Prod.fst) := by
  intro s key posts
  have hagent := ofSettings_usualAgent key
  have husable : key.isUsable = true := by decide
  have hagree := outcomes_agree_iff s key rfl hagent targetOf_usualPath
  exact ⟨rfl, hagent, targetOf_usualPath, husable, (hagree.1 posts).mpr (Or.inl husable)⟩

/-- With a line end in the key, the batch is delivered on one wire and given up on the other. -/
theorem outcomes_differ_with_unusable_key :
    ¬ ∀ (s : Settings) (key : AccessKey) (direct agent : Wire) (target : String),
      Wire.ofSettings { s with route := .direct } key = .ok direct →
      Wire.ofSettings { s with route := .agent } key = .ok agent →
      Request.targetOf s.logsPath = .ok target →
      ∀ posts : List (Payload × Reply), (∀ x ∈ posts, ∃ status body, x.2 = .answer status body) →
        outcomes ⟨direct, { replies := posts.map Prod.snd }⟩ (posts.map Prod.fst) =
          outcomes ⟨agent, { replies := posts.map Prod.snd }⟩ (posts.map Prod.fst) := by
  intro h
  let key := AccessKey.ofText "bad\nkey"
  let posts : List (Payload × Reply) := [(⟨.json "", false, 1⟩, .answer 200 "")]
  have hsame := h {} key _ _ _ rfl (ofSettings_usualAgent key) targetOf_usualPath posts
    (by simp [posts])
  rw [outcomes_direct, usualAgent,
    outcomes_agent_of_unusable (w := ⟨_, _, key, _⟩) targetOf_usualPath (by decide) rfl] at hsame
  have hne : Reply.outcome (.answer 200 "") ≠ .error .unrecoverable := by
    rw [Ne, Reply.outcome_eq_unrecoverable_iff]
    decide
  exact hne (Option.some.inj (List.cons.inj hsame).1)

end Connection
end LogDelivery
