import MockKeeper.Proofs.HeaderMaps
import MockKeeper.Proofs.UriReading
import MockKeeper.Proxy.Handle

/-! What becomes of one request at the proxy. It is sent on at most once, shown to the observer
only when the upstream's response came whole and in time, and answered once, after all else. -/

namespace MockKeeper.Proxy

def replies (deeds : List Deed) : List Response :=
  deeds.filterMap fun deed =>
    match deed with
    | .replied response => some response
    | _ => none

/-- An upstream answers in time, and its body is read to the end. -/
def Completes (limit : Option Elapsed) (reply : UpstreamReply × Elapsed) (status : Status)
    (headers : HeaderMap) (body : Bytes) : Prop :=
  reply.1 = .answered status headers (.ok body) ∧
    ∀ bound ∈ limit, reply.2.nanoseconds ≤ bound.nanoseconds

/-- The request as its client made it, at another place and without what concerns the connection. -/
structure Carries (request : ClientRequest) (body : Bytes) (uri : Uri) (sent : UpstreamRequest) : Prop where
  method : sent.method = request.method
  uri : sent.uri = uri
  headers : ∀ name, sent.headers.values name =
    if forwards .clientToUpstream name then request.headers.values name else []
  body : sent.body = body

structure Records (request : ClientRequest) (body : Bytes) (status : Status) (headers : HeaderMap)
    (answer : Bytes) (exchange : Exchange) : Prop where
  method : exchange.method = request.method
  path : exchange.path = Utf8.lossy request.uri.path
  requestHeaders : exchange.requestHeaders = request.headers
  requestBody : exchange.requestBody = body
  status : exchange.status = status
  responseHeaders : exchange.responseHeaders = headers
  responseBody : exchange.responseBody = answer

/-- The upstream's response, without what concerns the connection. -/
structure Answers (status : Status) (headers : HeaderMap) (answer : Bytes) (response : Response) : Prop where
  status : response.status = status
  headers : ∀ name, response.headers.values name =
    if forwards .upstreamToClient name then headers.values name else []
  body : response.body = answer

/-- The response to a failure: a status, and the failure's text as JSON. -/
structure Tells (code : Nat) (failure : Failure) (response : Response) : Prop where
  status : response.status.code = code
  headers : response.headers.toList = [(⟨"content-type"⟩, ⟨ascii "application/json"⟩)]
  body : response.body = Utf8.encode ("\x7b\"error\":" ++ Text.jsonString failure.message ++ "\x7d")

/-- The client is told what went wrong, after these deeds, and the log says the same. -/
def Refused (request : ClientRequest) (handled : Handled) (before : List Deed) (code : Nat) (failure : Failure) :
    Prop :=
  ∃ response, Tells code failure response ∧ handled.deeds = before ++ [.replied response] ∧
    handled.log = [.error (title request ++ ": " ++ failure.message)]

/-- Why an exchange is given up: the time is over first, or there is no response, or its body
breaks off. -/
inductive Fails (limit : Option Elapsed) (reply : UpstreamReply × Elapsed) : Failure → Prop
  | late {bound : Elapsed} (bounded : limit = some bound) (late : bound.nanoseconds < reply.2.nanoseconds) :
      Fails limit reply (.timeout bound)
  | failed {reason : String} (inTime : ∀ bound ∈ limit, reply.2.nanoseconds ≤ bound.nanoseconds)
      (failed : reply.1 = .failed reason) : Fails limit reply (.upstream reason)
  | broken {status : Status} {headers : HeaderMap} {reason : String}
      (inTime : ∀ bound ∈ limit, reply.2.nanoseconds ≤ bound.nanoseconds)
      (broken : reply.1 = .answered status headers (.error reason)) : Fails limit reply (.responseBody reason)

theorem errorResponse_tells (status : Status) (failure : Failure) :
    Tells status.code failure (errorResponse status failure.message) := by
  have named : jsonHeaders.toList = [(⟨"content-type"⟩, ⟨ascii "application/json"⟩)] := by decide +kernel
  exact ⟨rfl, named, rfl⟩

theorem refuse_refused (request : ClientRequest) (before : List Deed) (failure : Failure) :
    Refused request (refuse request before failure) before failure.status.code failure :=
  ⟨_, errorResponse_tells failure.status failure, rfl, rfl⟩

theorem joinUri_refused {base : String} {uri : Uri} {failure : Failure}
    (refused : joinUri base uri = .error failure) : failure.status = .badGateway := by
  unfold joinUri at refused
  dsimp only at refused
  split at refused
  next =>
    cases refused
    rfl
  next =>
    split at refused
    next =>
      cases refused
      rfl
    next => cases refused

variable {request : ClientRequest} {sent : UpstreamRequest} {limit : Option Elapsed}
  {reply : UpstreamReply × Elapsed}

theorem exchange_refused {failure : Failure} (refused : exchange request sent limit reply = .error failure) :
    Fails limit reply failure := by
  unfold exchange at refused
  split at refused
  next bound kept =>
    cases refused
    obtain ⟨bounded, late⟩ := Option.filter_eq_some_iff.mp kept
    exact .late bounded (by simpa using late)
  next kept =>
    have inTime : ∀ bound ∈ limit, reply.2.nanoseconds ≤ bound.nanoseconds := by
      intro bound member
      simpa using Option.filter_eq_none_iff.mp kept bound member
    split at refused
    next reason failed =>
      cases refused
      exact .failed inTime failed
    next reason broken =>
      cases refused
      exact .broken inTime broken
    next => cases refused

theorem Fails.status {failure : Failure} (fails : Fails limit reply failure) : failure.status = .badGateway := by
  cases fails <;> rfl

theorem exchange_fails (request : ClientRequest) (sent : UpstreamRequest) {failure : Failure}
    (fails : Fails limit reply failure) : exchange request sent limit reply = .error failure := by
  have kept (inTime : ∀ bound ∈ limit, reply.2.nanoseconds ≤ bound.nanoseconds) :
      (limit.filter fun bound => bound.nanoseconds < reply.2.nanoseconds) = none := by
    apply Option.filter_eq_none_iff.mpr
    intro bound member
    simpa using inTime bound member
  unfold exchange
  cases fails with
  | late bounded late => simp only [bounded, Option.filter_some, decide_eq_true late, if_true]
  | failed inTime failed => simp only [kept inTime, failed]
  | broken inTime broken => simp only [kept inTime, broken]

theorem exchange_completed (request : ClientRequest) {status : Status} {headers : HeaderMap} {answer : Bytes}
    (completes : Completes limit reply status headers answer) :
    ∃ exchange, Proxy.exchange request sent limit reply = .ok exchange ∧
      Records request sent.body status headers answer exchange := by
  obtain ⟨answered, inTime⟩ := completes
  have kept : (limit.filter fun bound => bound.nanoseconds < reply.2.nanoseconds) = none := by
    apply Option.filter_eq_none_iff.mpr
    intro bound member
    simpa using inTime bound member
  unfold Proxy.exchange
  rw [kept]
  simp only [answered]
  exact ⟨_, rfl, ⟨rfl, rfl, rfl, rfl, rfl, rfl, rfl⟩⟩

theorem completes_of_exchange {exchange : Exchange}
    (completed : Proxy.exchange request sent limit reply = .ok exchange) :
    ∃ status headers answer, Completes limit reply status headers answer := by
  unfold Proxy.exchange at completed
  split at completed
  next => cases completed
  next kept =>
    split at completed
    next => cases completed
    next => cases completed
    next status headers answer answered =>
      refine ⟨status, headers, answer, answered, ?_⟩
      intro bound member
      simpa using Option.filter_eq_none_iff.mp kept bound member

theorem upstreamRequest_carries {base : String} {body : Bytes} {uri : Uri} (whole : request.body = .ok body)
    (joined : joinUri base request.uri = .ok uri) :
    ∃ sent, upstreamRequest base request = .ok sent ∧ Carries request body uri sent := by
  unfold upstreamRequest
  simp only [whole, joined]
  refine ⟨_, rfl, rfl, rfl, ?_, rfl⟩
  intro name
  simp [values_filterInto, HeaderMap.values_empty]

/-- A response with a status that is one can always be put together. -/
theorem clientResponse_answers {body : Bytes} {status : Status} {headers : HeaderMap} {answer : Bytes}
    {exchange : Exchange} (records : Records request body status headers answer exchange) :
    ∃ response, clientResponse exchange = .ok response ∧ Answers status headers answer response := by
  refine ⟨_, rfl, records.status, ?_, records.responseBody⟩
  intro name
  simp [values_filterInto, HeaderMap.values_empty, records.responseHeaders]

theorem Refused.replied_last {request : ClientRequest} {handled : Handled} {before : List Deed} {code : Nat}
    {failure : Failure} (refused : Refused request handled before code failure) (silent : replies before = []) :
    ∃ before response, handled.deeds = before ++ [.replied response] ∧ replies before = [] := by
  obtain ⟨response, -, deeds, -⟩ := refused
  exact ⟨before, response, deeds, silent⟩

section Handling
variable (upstream : Upstream) (base : String)

theorem handle_unreadable {reason : String} (broken : request.body = .error reason) :
    Refused request (handle upstream base limit request) [] 400 (.requestBody reason) := by
  have none : upstreamRequest base request = .error (.requestBody reason) := by
    simp only [upstreamRequest, broken]
  simp only [handle, none]
  exact refuse_refused request [] (.requestBody reason)

theorem handle_unjoinable {body : Bytes} {failure : Failure} (whole : request.body = .ok body)
    (unjoinable : joinUri base request.uri = .error failure) :
    Refused request (handle upstream base limit request) [] 502 failure := by
  have none : upstreamRequest base request = .error failure := by
    simp only [upstreamRequest, whole, unjoinable]
  have refused := refuse_refused request [] failure
  rw [joinUri_refused unjoinable] at refused
  simp only [handle, none]
  exact refused

theorem handle_fails {base : String} (carried : upstreamRequest base request = .ok sent) {failure : Failure}
    (fails : Fails limit (upstream sent) failure) :
    Refused request (handle upstream base limit request) [.sent sent] 502 failure := by
  have refused := refuse_refused request [.sent sent] failure
  rw [fails.status] at refused
  simp only [handle, carried, exchange_fails request sent fails]
  exact refused

theorem fails_of_incomplete (request : ClientRequest) (sent : UpstreamRequest)
    (incomplete : ∀ status headers answer, ¬ Completes limit reply status headers answer) :
    ∃ failure, Fails limit reply failure := by
  cases completed : exchange request sent limit reply with
  | error failure => exact ⟨failure, exchange_refused completed⟩
  | ok done =>
    obtain ⟨status, headers, answer, completes⟩ := completes_of_exchange completed
    exact absurd completes (incomplete status headers answer)

theorem handle_complete {base : String} (carried : upstreamRequest base request = .ok sent) {status : Status}
    {headers : HeaderMap} {answer : Bytes} (completes : Completes limit (upstream sent) status headers answer) :
    ∃ exchange response, Records request sent.body status headers answer exchange ∧
      Answers status headers answer response ∧
      (handle upstream base limit request).deeds = [.sent sent, .observed exchange, .replied response] := by
  obtain ⟨exchange, completed, records⟩ := exchange_completed request completes
  obtain ⟨response, built, answers⟩ := clientResponse_answers records
  refine ⟨exchange, response, records, answers, ?_⟩
  simp only [handle, carried, completed, built]

/-- A request is answered once, after all else. It is refused before anything is sent where its
body cannot be read, and otherwise where it has nowhere to go. Else it is sent on once, as its
client made it. It is refused then, unseen by the observer, unless the upstream completes a
response in time; that response is shown to the observer as it is and passed on to the client,
which nothing can prevent. -/
theorem request_proxied_or_refused (limit : Option Elapsed) (request : ClientRequest) :
    (∃ before response, (handle upstream base limit request).deeds = before ++ [.replied response] ∧
        replies before = []) ∧
      (∀ reason, request.body = .error reason →
        Refused request (handle upstream base limit request) [] 400 (.requestBody reason)) ∧
      (∀ body failure, request.body = .ok body → joinUri base request.uri = .error failure →
        Refused request (handle upstream base limit request) [] 502 failure) ∧
      (∀ body uri, request.body = .ok body → joinUri base request.uri = .ok uri →
        ∃ sent, Carries request body uri sent ∧
          (∀ failure, Fails limit (upstream sent) failure →
            Refused request (handle upstream base limit request) [.sent sent] 502 failure) ∧
          ((∀ status headers answer, ¬ Completes limit (upstream sent) status headers answer) →
            ∃ failure, Fails limit (upstream sent) failure) ∧
          ∀ status headers answer, Completes limit (upstream sent) status headers answer →
            ∃ exchange response, Records request body status headers answer exchange ∧
              Answers status headers answer response ∧
              (handle upstream base limit request).deeds =
                [.sent sent, .observed exchange, .replied response]) ∧
      (∀ exchange, ∃ response, clientResponse exchange = .ok response) ∧
      ∀ bytes, Uri.ofBytes bytes = .ok request.uri → 0x3F ∉ request.uri.path := by
  refine ⟨?_, ?_, ?_, ?_, ?_, ?_⟩
  · cases whole : request.body with
    | error reason => exact (handle_unreadable upstream base whole).replied_last rfl
    | ok body =>
      cases joined : joinUri base request.uri with
      | error failure => exact (handle_unjoinable upstream base whole joined).replied_last rfl
      | ok uri =>
        obtain ⟨sent, carried, -⟩ := upstreamRequest_carries whole joined
        by_cases completes : ∃ status headers answer, Completes limit (upstream sent) status headers answer
        · obtain ⟨status, headers, answer, completes⟩ := completes
          obtain ⟨exchange, response, -, -, deeds⟩ := handle_complete upstream carried completes
          exact ⟨[.sent sent, .observed exchange], response, deeds, rfl⟩
        · have incomplete : ∀ status headers answer,
              ¬ Completes limit (upstream sent) status headers answer :=
            fun status headers answer holds => completes ⟨status, headers, answer, holds⟩
          obtain ⟨failure, fails⟩ := fails_of_incomplete request sent incomplete
          exact (handle_fails upstream carried fails).replied_last rfl
  · exact fun reason broken => handle_unreadable upstream base broken
  · exact fun body failure whole unjoinable => handle_unjoinable upstream base whole unjoinable
  · intro body uri whole joined
    obtain ⟨sent, carried, carries⟩ := upstreamRequest_carries whole joined
    refine ⟨sent, carries, fun failure => handle_fails upstream carried, fails_of_incomplete request sent, ?_⟩
    intro status headers answer completes
    rw [← carries.body]
    exact handle_complete upstream carried completes
  · exact fun exchange => ⟨_, rfl⟩
  · exact fun bytes read => Uri.path_before_query read

def pets : ClientRequest where
  method := ⟨"GET"⟩
  uri := ⟨none, [], ⟨ascii "/pets", some (ascii "limit=1")⟩⟩
  headers := (HeaderMap.empty.append hostName ⟨ascii "localhost"⟩).append ⟨"accept"⟩ ⟨ascii "*/*"⟩
  body := .ok []

def slowPets : Upstream := fun _ => (.answered .ok .empty (.ok (ascii "[]")), ⟨20⟩)

def brokenPets : Upstream := fun _ => (.answered .ok .empty (.error "connection reset"), ⟨20⟩)

def told (handled : Handled) : List (Nat × Bytes) :=
  (replies handled.deeds).map fun response => (response.status.code, response.body)

theorem Refused.told {handled : Handled} {before : List Deed} {code : Nat} {failure : Failure}
    (refused : Refused request handled before code failure) (silent : replies before = []) :
    told handled =
      [(code, Utf8.encode ("\x7b\"error\":" ++ Text.jsonString failure.message ++ "\x7d"))] := by
  obtain ⟨response, tells, deeds, -⟩ := refused
  have last : replies handled.deeds = [response] := by
    rw [deeds, replies, List.filterMap_append]
    exact congrArg (· ++ [response]) silent
  rw [Proxy.told, last, List.map_singleton, tells.status, tells.body]

theorem pets_proxied :
    (∃ sent exchange response, (handle slowPets "http://upstream:4010/api/" (some ⟨20⟩) pets).deeds =
        [.sent sent, .observed exchange, .replied response] ∧
      sent.headers.values hostName = [] ∧ exchange.requestHeaders.values hostName = [⟨ascii "localhost"⟩] ∧
      response.status = .ok) ∧
    told (handle slowPets "ftp://upstream" none { pets with body := .error "eof" }) =
      [(400, Utf8.encode "\x7b\"error\":\"error reading request body: eof\"\x7d")] ∧
    told (handle slowPets "ftp://upstream" none pets) =
      [(502, Utf8.encode ("\x7b\"error\":\"failed to build upstream URL from 'ftp://upstream' " ++
        "and '/pets?limit=1': unsupported scheme 'ftp'\"\x7d"))] ∧
    told (handle slowPets "http://upstream:4010/api/" (some ⟨19⟩) pets) =
      [(502, Utf8.encode "\x7b\"error\":\"upstream did not respond within 19ns\"\x7d")] ∧
    told (handle brokenPets "http://upstream:4010/api/" none pets) =
      [(502, Utf8.encode "\x7b\"error\":\"error reading upstream response body: connection reset\"\x7d")] := by
  have joined : joinUri "http://upstream:4010/api/" pets.uri =
      .ok ⟨some (ascii "http"), ascii "upstream:4010", ⟨ascii "/api/pets", some (ascii "limit=1")⟩⟩ := by
    decide +kernel
  have unjoinable : joinUri "ftp://upstream" pets.uri =
      .error (.upstreamUri "ftp://upstream" "/pets?limit=1" "unsupported scheme 'ftp'") := by
    decide +kernel
  have completes : ∀ sent, Completes (some ⟨20⟩) (slowPets sent) .ok .empty (ascii "[]") := by
    intro sent
    refine ⟨rfl, ?_⟩
    intro bound member
    cases member
    exact Nat.le_refl _
  refine ⟨?_, ?_, ?_, ?_, ?_⟩
  · obtain ⟨-, -, -, proxied, -⟩ :=
      request_proxied_or_refused slowPets "http://upstream:4010/api/" (some ⟨20⟩) pets
    obtain ⟨sent, carries, -, -, completed⟩ := proxied [] _ rfl joined
    obtain ⟨exchange, response, records, answers, deeds⟩ := completed _ _ _ (completes sent)
    refine ⟨sent, exchange, response, deeds, ?_, ?_, answers.status⟩
    · rw [carries.headers]
      rfl
    · rw [records.requestHeaders]
      decide
  · obtain ⟨-, unreadable, -⟩ :=
      request_proxied_or_refused slowPets "ftp://upstream" none { pets with body := .error "eof" }
    rw [(unreadable "eof" rfl).told rfl]
    decide +kernel
  · obtain ⟨-, -, refused, -⟩ := request_proxied_or_refused slowPets "ftp://upstream" none pets
    rw [(refused [] _ rfl unjoinable).told rfl]
    decide +kernel
  · obtain ⟨-, -, -, proxied, -⟩ :=
      request_proxied_or_refused slowPets "http://upstream:4010/api/" (some ⟨19⟩) pets
    obtain ⟨sent, -, fails, -⟩ := proxied [] _ rfl joined
    rw [(fails _ (.late rfl (show 19 < 20 by decide))).told rfl]
    decide +kernel
  · obtain ⟨-, -, -, proxied, -⟩ := request_proxied_or_refused brokenPets "http://upstream:4010/api/" none pets
    obtain ⟨sent, -, fails, -⟩ := proxied [] _ rfl joined
    rw [(fails _ (.broken nofun rfl)).told rfl]
    decide +kernel

end Handling

end MockKeeper.Proxy
