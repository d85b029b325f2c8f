import TwoPhaseLocking.Net.Exchange
import TwoPhaseLocking.Proofs.Protocol.Stream

/-!
The line transport refines the calls made in process. A call over a connection gives the
handler's response (`Net.exchange_encode`), so every call, and every sequence of calls, on the
coordinator or on a site has the effect of the call made in process
(`transport_refines_in_process`).
-/
namespace TwoPhaseLocking

namespace Coordinator

variable {ε : Type}

theorem nextSite_request (c : Coordinator ε) (o : Operation) : (c.request o).2.nextSite = c.nextSite := by
  unfold request
  split <;> rfl

theorem nextSite_bind {c c' : Coordinator ε} {s : SiteId} {e : ε} (h : c.bind s e = .ok c') :
    c'.nextSite = c.nextSite := by
  unfold bind at h
  split at h
  · cases h
    rfl
  · cases h

end Coordinator

theorem SiteCall.ids_request (k : SiteCall) : k.request.ids = [] := by
  cases k <;> rfl

namespace Net

variable {σ ε : Type}

/-! ### One call on a server -/

theorem firstLine_append_lf {a : List Char} (ha : '\n' ∉ a) (rest : List Char) :
    firstLine (a ++ '\n' :: rest) = a ++ ['\n'] := by
  induction a with
  | nil => rw [List.nil_append, firstLine, if_pos rfl, List.nil_append]
  | cons c a ih =>
    have hc : c ≠ '\n' := fun h => ha (h ▸ List.mem_cons_self)
    rw [List.cons_append, firstLine, if_neg hc, ih fun h => ha (List.mem_cons_of_mem c h),
      List.cons_append]

section Server

variable (handle : σ → Request → Response × σ)

theorem answerLine_compact (st : σ) (r : Request) (h : ∀ i ∈ r.ids, i < 4294967296) :
    answerLine handle st r.toJson.compact = handle st r := by
  -- unfolded by hand: the equation lemma of the reader's match is slow to generate
  delta answerLine
  rw [r.decode_compact h]

/-- A connection that brings one request's line is answered with the line of the handler's
response. -/
theorem serve_encode (st : σ) (r : Request) (h : ∀ i ∈ r.ids, i < 4294967296) :
    serve handle st r.encode = ((handle st r).1.encode, (handle st r).2) := by
  have hlines : Text.linesOf r.encode = [r.toJson.compact] := by
    rw [Request.encode, ← String.append_empty (s := r.toJson.compact ++ "\n"),
      r.frameText.linesOf_append]
    rfl
  simp only [serve, hlines, answerLines, r.frameText.nonblank, answerLine_compact handle st r h,
    Bool.false_eq_true, if_false, List.map_cons, List.map_nil, String.join_cons, String.join_nil,
    String.append_empty]

/-- One call on a server, when both frames cross the wire: the handler's response, an error
frame read as the remote error it carries, and the handler's state after it. -/
theorem exchange_encode (st : σ) (address : String) (r : Request) (h : ∀ i ∈ r.ids, i < 4294967296)
    (hresp : ∀ i ∈ (handle st r).1.ids, i < 4294967296) :
    exchange handle st address r = ((handle st r).1.toResult, (handle st r).2) := by
  have hline : firstLine (handle st r).1.encode.toList = (handle st r).1.encode.toList := by
    rw [Response.encode, String.toList_append]
    exact firstLine_append_lf (handle st r).1.frameText.noLf []
  simp only [exchange, serve_encode handle st r h, Response.encode_isEmpty, hline,
    String.ofList_toList, Response.decode_encode _ hresp, Bool.false_eq_true, if_false]

/-! ### A connection of many lines -/

/-- Every line answered in turn, each from the state the answers before it left. -/
def answerEach : σ → List String → List Response × σ
  | st, [] => ([], st)
  | st, line :: rest =>
    let (r, st₁) := answerLine handle st line
    let (rs, st₂) := answerEach st₁ rest
    (r :: rs, st₂)

theorem length_answerEach (st : σ) (lines : List String) :
    (answerEach handle st lines).1.length = lines.length := by
  induction lines generalizing st with
  | nil => rfl
  | cons line rest ih => simp [answerEach, ih]

/-- A server answers exactly the lines that are not blank, in turn; a blank line changes
nothing. -/
theorem answerLines_eq_answerEach (st : σ) (lines : List String) :
    answerLines handle st lines =
      answerEach handle st (lines.filter fun l => !(Text.trimString l).isEmpty) := by
  induction lines generalizing st with
  | nil => rfl
  | cons line rest ih =>
    by_cases hb : (Text.trimString line).isEmpty
    · simp [answerLines, hb, ih]
    · simp [answerLines, answerEach, hb, ih]

/-- What a server writes back on a connection: one line for each line it read that is not
blank, the response to it, in order. -/
theorem serve_lines (st : σ) (text : String) :
    Text.linesOf (serve handle st text).1 =
        (answerEach handle st ((Text.linesOf text).filter fun l => !(Text.trimString l).isEmpty)).1.map
          (·.toJson.compact) ∧
      (serve handle st text).2 =
        (answerEach handle st ((Text.linesOf text).filter fun l => !(Text.trimString l).isEmpty)).2 := by
  simp only [serve, answerLines_eq_answerEach, Response.linesOf_join_encode, and_self]

end Server

/-! ### Requests sent to the wrong side -/

theorem toResult_notServed (r : Request) (by_ : String) :
    (Coordinator.notServed r by_).toResult =
      .error (.remote "E104" ("Malformed message: '" ++ r.name ++ "' is not served by the " ++ by_)) := by
  have hlit : "Malformed message: " ++ "'" = "Malformed message: '" := by simp
  show (Except.error (.remote "E104" ("Malformed message: " ++
    ("'" ++ r.name ++ "' is not served by the " ++ by_))) : Except ProtocolError Response) = _
  rw [← hlit]
  simp only [String.append_assoc]

theorem ids_notServed (r : Request) (by_ : String) : (Coordinator.notServed r by_).ids = [] := rfl

/-- A call on a site sent to the coordinator is refused as a malformed message, and the
coordinator and its notices stay as they were. -/
theorem exchange_coordinator_siteCall (connect : String → ε) (address : String) (co : Coordinator ε)
    (k : SiteCall) :
    exchange (coordinatorServer connect) (co, []) address k.request =
      (.error (.remote "E104" ("Malformed message: '" ++ k.request.name ++
        "' is not served by the coordinator")), (co, [])) := by
  have hh : coordinatorServer connect (co, []) k.request =
      (Coordinator.notServed k.request "coordinator", co, []) := by
    cases k <;> rfl
  have hlit : "' is not served by the " ++ "coordinator" = "' is not served by the coordinator" := by
    simp
  rw [exchange_encode _ _ _ _ (by simp [k.ids_request]) (by simp [hh, ids_notServed]), hh,
    toResult_notServed, @String.append_assoc _ _ "coordinator", hlit]

/-- A request other than a call on a site, sent to a site, is refused as a malformed message,
and the site stays as it was. -/
theorem exchange_site_not_siteCall (address : String) (c : SiteControl) (r : Request)
    (hr : r.siteCall? = none) (h : ∀ i ∈ r.ids, i < 4294967296) :
    exchange SiteControl.handle c address r =
      (.error (.remote "E104" ("Malformed message: '" ++ r.name ++ "' is not served by the site")), c) := by
  have hh : SiteControl.handle c r = (Coordinator.notServed r "site", c) := by
    cases r <;> first | rfl | cases hr
  have hlit : "' is not served by the " ++ "site" = "' is not served by the site" := by simp
  rw [exchange_encode _ _ _ _ h (by simp [hh, ids_notServed]), hh, toResult_notServed,
    @String.append_assoc _ _ "site", hlit]

/-! ### Calls on the coordinator -/

namespace CoordinatorCall

variable (connect : String → ε) (address : String) (co : Coordinator ε)

/-- The only id a coordinator's response carries is the one a registration hands out. -/
theorem ids_handle (r : Request) :
    ∀ i ∈ (co.handle connect r).1.ids, r = .registerSite ∧ i = co.nextSite := by
  intro i hi
  cases r
  case bindSite s a =>
    rw [Coordinator.handle] at hi
    cases hb : co.bind s (connect a) <;> simp [hb, Response.ids, Response.ofError] at hi
  all_goals simp [Coordinator.handle, Coordinator.register, Coordinator.notServed, Response.ids,
    Response.ofError] at hi ⊢
  exact hi

/-- A call through the coordinator's server gives what the call made on the coordinator gives,
an error as the remote error with its code and message, and leaves the coordinator and the
notices as it leaves them. -/
theorem send_eq_perform (c : CoordinatorCall) (h : ∀ i ∈ c.request.ids, i < 4294967296)
    (hn : c.isRegister = true → co.nextSite < 4294967296) :
    c.send connect address co =
      ((c.perform connect co).1.mapError (fun e => .remote e.code e.message), (c.perform connect co).2) := by
  have hresp : ∀ i ∈ (coordinatorServer connect (co, []) c.request).1.ids, i < 4294967296 := by
    intro i hi
    obtain ⟨hr, rfl⟩ := ids_handle connect co c.request i hi
    cases c <;> simp_all [request, isRegister]
  rw [send, exchange_encode _ _ _ _ h hresp]
  cases c with
  | registerSite => rfl
  | bindSite s a =>
    simp only [perform, coordinatorServer, Coordinator.handle, request]
    cases co.bind s (connect a) <;> rfl
  | requestLock o => rfl
  | releaseLock t => rfl

theorem nextSite_perform (c : CoordinatorCall) :
    (c.perform connect co).2.1.nextSite = co.nextSite + if c.isRegister then 1 else 0 := by
  cases c with
  | registerSite => rfl
  | bindSite s a =>
    simp only [perform]
    cases hb : co.bind s (connect a) with
    | ok co' => exact Coordinator.nextSite_bind hb
    | error e => rfl
  | requestLock o => exact Coordinator.nextSite_request co o
  | releaseLock t => rfl

end CoordinatorCall

/-- Calls through the coordinator's server, one after another, give what the calls made on the
coordinator give, errors as remote errors with their code and message, and leave the
coordinator and the notices as they leave them, when the ids they carry and the ids handed out
fit in 32 bits. -/
theorem runCalls_send (connect : String → ε) (address : String) (co : Coordinator ε)
    (calls : List CoordinatorCall) (h : ∀ c ∈ calls, ∀ i ∈ c.request.ids, i < 4294967296)
    (hn : co.nextSite + calls.countP CoordinatorCall.isRegister ≤ 4294967296) :
    (runCalls (fun c => c.send connect address) co calls).1 =
        (runCalls (fun c => c.perform connect) co calls).1.map
          (Except.mapError fun e : ProtocolError => ProtocolError.remote e.code e.message) ∧
      (runCalls (fun c => c.send connect address) co calls).2 =
        (runCalls (fun c => c.perform connect) co calls).2 := by
  induction calls generalizing co with
  | nil => constructor <;> simp only [runCalls, List.map_nil]
  | cons c cs ih =>
    rw [List.countP_cons] at hn
    -- the first call hands out at most one id, and the rest of the budget goes to the others
    have hstep := c.send_eq_perform connect address co (h c List.mem_cons_self) fun hr => by
      rw [hr, if_pos rfl] at hn
      omega
    have htail := ih (c.perform connect co).2.1 (fun d hd => h d (List.mem_cons_of_mem c hd)) (by
      rw [CoordinatorCall.nextSite_perform]
      omega)
    simp only [runCalls, hstep, List.map_cons, htail.1, htail.2, and_self]

end Net

/-! ### Calls on a site -/

namespace SiteCall

/-- A call on a site through the site's server has the effect of the call made in process. -/
theorem send_eq_perform (k : SiteCall) (address : String) (c : SiteControl) :
    k.send address c = k.perform c := by
  have hh : SiteControl.handle c k.request = (.ack, c.receive k) := by
    cases k <;> rfl
  rw [send, Net.exchange_encode _ _ _ _ (by simp [k.ids_request]) (by simp [hh, Response.ids]), hh]
  rfl

end SiteCall

/-- The line transport refines the calls made in process. Calls on the coordinator through its
server give the values of the calls made on it, an error as the remote error with the same code
and message, and leave the coordinator (its lock table, site counter and bound sites) and the
notices it sends as those calls do, while the ids fit in 32 bits; calls on a site through its
server act on it as the direct calls do. A request sent to the side that does not serve it is
refused as a malformed message and changes nothing, and a server answers each line it reads
that is not blank with one line, the response to it, in order. -/
theorem transport_refines_in_process {ε : Type} :
    (∀ (connect : String → ε) (address : String) (co : Coordinator ε)
        (calls : List Net.CoordinatorCall),
      (∀ c ∈ calls, ∀ i ∈ c.request.ids, i < 4294967296) →
      co.nextSite + calls.countP Net.CoordinatorCall.isRegister ≤ 4294967296 →
      (Net.runCalls (fun c => c.send connect address) co calls).1 =
          (Net.runCalls (fun c => c.perform connect) co calls).1.map
            (Except.mapError fun e : ProtocolError => ProtocolError.remote e.code e.message) ∧
        (Net.runCalls (fun c => c.send connect address) co calls).2 =
          (Net.runCalls (fun c => c.perform connect) co calls).2) ∧
    (∀ (k : SiteCall) (address : String) (c : SiteControl), k.send address c = k.perform c) ∧
    (∀ (connect : String → ε) (address : String) (co : Coordinator ε) (k : SiteCall),
      Net.exchange (Net.coordinatorServer connect) (co, []) address k.request =
        (.error (.remote "E104" ("Malformed message: '" ++ k.request.name ++
          "' is not served by the coordinator")), (co, []))) ∧
    (∀ (address : String) (c : SiteControl) (r : Request),
      r.siteCall? = none → (∀ i ∈ r.ids, i < 4294967296) →
      Net.exchange SiteControl.handle c address r =
        (.error (.remote "E104" ("Malformed message: '" ++ r.name ++
          "' is not served by the site")), c)) ∧
    (∀ {σ : Type} (handle : σ → Request → Response × σ) (st : σ) (text : String),
      Text.linesOf (Net.serve handle st text).1 =
          (Net.answerEach handle st
            ((Text.linesOf text).filter fun l => !(Text.trimString l).isEmpty)).1.map
              (·.toJson.compact) ∧
        (Net.answerEach handle st
            ((Text.linesOf text).filter fun l => !(Text.trimString l).isEmpty)).1.length =
          ((Text.linesOf text).filter fun l => !(Text.trimString l).isEmpty).length ∧
        (Net.serve handle st text).2 =
          (Net.answerEach handle st
            ((Text.linesOf text).filter fun l => !(Text.trimString l).isEmpty)).2) :=
  ⟨Net.runCalls_send, SiteCall.send_eq_perform, Net.exchange_coordinator_siteCall,
    Net.exchange_site_not_siteCall, fun handle st text =>
      ⟨(Net.serve_lines handle st text).1, Net.length_answerEach handle st _,
        (Net.serve_lines handle st text).2⟩⟩

/-- Binding a site that was never registered, through the coordinator's server, fails as the
call made on the coordinator fails; a registration asked of a site is refused there. -/
theorem unregistered_bind_over_transport :
    ((∀ c ∈ [Net.CoordinatorCall.bindSite 1 "a"], ∀ i ∈ c.request.ids, i < 4294967296) ∧
      ({} : Coordinator String).nextSite +
          [Net.CoordinatorCall.bindSite 1 "a"].countP Net.CoordinatorCall.isRegister ≤ 4294967296 ∧
      (Net.runCalls (fun c => c.send id "coordinator") ({} : Coordinator String)
          [.bindSite 1 "a"]).1 =
        (Net.runCalls (fun c => c.perform id) ({} : Coordinator String) [.bindSite 1 "a"]).1.map
          (Except.mapError fun e : ProtocolError => ProtocolError.remote e.code e.message) ∧
      (Net.runCalls (fun c => c.send id "coordinator") ({} : Coordinator String)
          [.bindSite 1 "a"]).2 =
        (Net.runCalls (fun c => c.perform id) ({} : Coordinator String) [.bindSite 1 "a"]).2) ∧
    (Request.registerSite.siteCall? = none ∧ (∀ i ∈ Request.registerSite.ids, i < 4294967296) ∧
      Net.exchange SiteControl.handle (SiteControl.new 1) "site" .registerSite =
        (.error (.remote "E104" ("Malformed message: '" ++ Request.registerSite.name ++
          "' is not served by the site")), SiteControl.new 1)) :=
  have hbind : ∀ c ∈ [Net.CoordinatorCall.bindSite 1 "a"], ∀ i ∈ c.request.ids, i < 4294967296 := by
    decide
  have hcount : ({} : Coordinator String).nextSite +
      [Net.CoordinatorCall.bindSite 1 "a"].countP Net.CoordinatorCall.isRegister ≤ 4294967296 := by
    decide
  have hsite : Request.registerSite.siteCall? = none := rfl
  have hids : ∀ i ∈ Request.registerSite.ids, i < 4294967296 := by decide
  ⟨⟨hbind, hcount, transport_refines_in_process.1 id "coordinator" {} _ hbind hcount⟩,
    ⟨hsite, hids, (@transport_refines_in_process String).2.2.2.1 "site" (SiteControl.new 1) _ hsite hids⟩⟩

end TwoPhaseLocking
