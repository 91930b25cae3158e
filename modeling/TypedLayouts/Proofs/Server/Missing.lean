import TypedLayouts.Proofs.Server.Discipline

/-!
# Layouts that a server reports missing

A server reports a missing layout with a code of its own, and a fetch that meets this code says that
the layout was not found. The code is looked for in every failed answer, and a fetch may ask twice:
first for a session, then for the layout. So a fetch says "not found" in two cases, and only one of
them is about the layout.
-/

namespace TypedLayouts.Server

open Json (Decoder)
open Layout (FetchError Metadata)

/-- The message in the envelope of a reply that reports a problem: the first with a code other than
`0`. -/
def Reply.problem? : Reply → Option Message
  | .answer _ body =>
    match Decoder.ofText Envelope.decoder body with
    | .ok envelope => envelope.messages.find? (·.code ≠ "0")
    | .error _ => none
  | .unreachable _ => none
  | .unreadable _ => none

/-- The envelope of the reply reports a missing layout. -/
def Exchange.ReportsMissing (e : Exchange) : Prop :=
  ∃ text, e.reply.problem? = some ⟨"105", text⟩

/-- A request for the layout was sent, and the answer to it reports a missing layout. -/
def LookupMissing (base layout : String) (sent : History) : Prop :=
  ∃ e ∈ sent, (∃ bearer, e.request.IsLookup base bearer layout) ∧ e.ReportsMissing

/-- A login was sent, and the answer to it reports a missing layout. -/
def LoginMissing (base : String) (sent : History) : Prop :=
  ∃ e ∈ sent, e.request.IsLogin base ∧ e.ReportsMissing

/-- What is sent for a layout and what is learned about it: a request with a token that is in hand
or that a login gives, or a login in vain. -/
inductive Asked (base layout : String) : History → Except ApiError LayoutResponse → Prop where
  /-- A bearer token was in hand. -/
  | held {lookup : Exchange} {bearer : String} (hg : lookup.request.IsLookup base bearer layout) :
      Asked base layout [lookup] lookup.layoutResponse
  /-- A login gave the bearer token. -/
  | opened {login lookup : Exchange} {bearer : String} (hl : login.request.IsLogin base)
      (ho : login.login = .ok bearer) (hg : lookup.request.IsLookup base bearer layout) :
      Asked base layout [login, lookup] lookup.layoutResponse
  /-- A login gave none. -/
  | refused {login : Exchange} {cause : ApiError} (hl : login.request.IsLogin base)
      (ho : login.login = .error cause) : Asked base layout [login] (.error cause)

/-! ## Where the code comes from -/

theorem ApiError.isLayoutMissing_iff {e : ApiError} :
    e.isLayoutMissing = true ↔ ∃ text, e = .api "105" text := by
  unfold isLayoutMissing code? layoutMissingCode
  cases e with
  | api code text => simp
  | _ => simp

/-- A reply fails with the server's own code exactly if a message in its envelope reports a problem,
and then with that message. -/
theorem Reply.response_eq_api_iff {reply : Reply} (url : String) {code text : String} :
    reply.response url = .error (.api code text) ↔ reply.problem? = some ⟨code, text⟩ := by
  cases reply with
  | unreachable cause => simp [Reply.response, problem?]
  | unreadable cause => simp [Reply.response, problem?]
  | answer status body =>
    unfold Reply.response problem? Server.response
    dsimp only
    cases Decoder.ofText Envelope.decoder body with
    | error e =>
      dsimp only
      split
      · simp
      · simp
    | ok envelope =>
      dsimp only
      cases envelope.messages.find? (·.code ≠ "0") with
      | none =>
        dsimp only
        split
        · simp
        · simp
      | some message =>
        obtain ⟨found, wording⟩ := message
        simp

namespace Exchange

variable {e : Exchange} {code text : String}

/-- Decoding the metadata of a layout, or looking for a token, has failures of its own, but none with
a code. -/
theorem layoutResponse_eq_api_iff :
    e.layoutResponse = .error (.api code text) ↔ e.reply.problem? = some ⟨code, text⟩ := by
  rw [← Reply.response_eq_api_iff e.request.url]
  unfold layoutResponse
  cases e.reply.response e.request.url with
  | error cause => simp [bind, Except.bind]
  | ok response =>
    simp only [bind, Except.bind, decodeResponse]
    split
    · simp
    · simp

theorem login_eq_api_iff :
    e.login = .error (.api code text) ↔ e.reply.problem? = some ⟨code, text⟩ := by
  rw [← Reply.response_eq_api_iff e.request.url]
  unfold login
  cases e.reply.response e.request.url with
  | error cause => simp [bind, Except.bind]
  | ok response =>
    simp only [bind, Except.bind]
    split
    · simp
    · simp

end Exchange

/-! ## What a fetch sends and says -/

namespace Session

variable (replies : Replies) (history : History) (s : Session)

/-- What becomes of the server's answer about a layout. -/
def found (layout : String) :
    Except ApiError LayoutResponse → Except (FetchError ApiError) Metadata
  | .ok response => .ok response.metadata
  | .error e => .error (if e.isLayoutMissing then .notFound layout else .failed layout e)

theorem found_eq_notFound_iff {layout name : String} {answer : Except ApiError LayoutResponse} :
    found layout answer = .error (.notFound name) ↔
      name = layout ∧ ∃ text, answer = .error (.api "105" text) := by
  cases answer with
  | ok response => simp [found]
  | error e =>
    unfold found
    dsimp only
    by_cases hmissing : e.isLayoutMissing = true
    · rw [if_pos hmissing]
      obtain ⟨text, rfl⟩ := ApiError.isLayoutMissing_iff.mp hmissing
      simp [eq_comm]
    · rw [if_neg hmissing]
      have hnone : ¬ ∃ text, e = .api "105" text := mt ApiError.isLayoutMissing_iff.mpr hmissing
      simpa using fun _ => not_exists.mp hnone

theorem found_eq_failed {layout name : String} {answer : Except ApiError LayoutResponse}
    {cause : ApiError} (h : found layout answer = .error (.failed name cause)) : name = layout := by
  cases answer with
  | ok response => cases h
  | error e =>
    unfold found at h
    dsimp only at h
    split at h
    · cases h
    · cases h
      rfl

/-- A bearer token is in hand, or it costs a login, which gives one or does not. -/
theorem bearer_cases :
    (∃ token, (bearer (recording replies) s).run history = ((.ok token, s), history)) ∨
      ∃ e : Exchange, e.request.IsLogin s.base ∧
        ((∃ token, e.login = .ok token ∧ (bearer (recording replies) s).run history =
            ((.ok token, { s with token := some token }), history ++ [e])) ∨
          ∃ cause, e.login = .error cause ∧ (bearer (recording replies) s).run history =
            ((.error cause, s), history ++ [e])) := by
  obtain ⟨base, credentials, token⟩ := s
  cases credentials with
  | apiKey key port => exact .inl ⟨key, bearer_apiKey rfl⟩
  | account username password =>
    cases token with
    | some token => exact .inl ⟨token, bearer_held rfl rfl⟩
    | none => exact .inr (bearer_login_cases replies history rfl rfl)

/-- What a fetch says is what becomes of the answer that was asked for. -/
theorem fetchMetadata_asked (layout : String) :
    ∃ answer s' sent, Asked s.base layout sent answer ∧
      (fetchMetadata (recording replies) layout s).run history =
        ((found layout answer, s'), history ++ sent) := by
  have hfound : ∀ {answer : Except ApiError LayoutResponse} {s' : Session} {sent : History},
      (layoutResponse (recording replies) layout s).run history =
          ((answer, s'), history ++ sent) →
        (fetchMetadata (recording replies) layout s).run history =
          ((found layout answer, s'), history ++ sent) := by
    intro answer s' sent hrun
    rw [fetchMetadata_run, hrun]
    cases answer with
    | ok response => rfl
    | error e => rfl
  obtain ⟨token, hrun⟩ | ⟨login, hl, ⟨token, ho, hrun⟩ | ⟨cause, ho, hrun⟩⟩ :=
    bearer_cases replies history s
  · refine ⟨_, _, _, ?_, hfound (layoutResponse_asked hrun)⟩
    exact .held ⟨rfl, rfl, rfl⟩
  · have hasked : (layoutResponse (recording replies) layout s).run history = _ :=
      layoutResponse_asked hrun
    dsimp only at hasked
    rw [List.append_assoc] at hasked
    refine ⟨_, _, _, ?_, hfound hasked⟩
    exact .opened hl ho ⟨rfl, rfl, rfl⟩
  · exact ⟨_, _, _, .refused hl ho, hfound (layoutResponse_refused hrun)⟩

end Session

/-! ## Which answers count -/

namespace Exchange

variable {base layout bearer : String} {e : Exchange}

theorem layoutResponse_missing_iff :
    (∃ text, e.layoutResponse = .error (.api "105" text)) ↔ e.ReportsMissing :=
  exists_congr fun _ => layoutResponse_eq_api_iff

theorem login_missing_iff :
    (∃ text, e.login = .error (.api "105" text)) ↔ e.ReportsMissing :=
  exists_congr fun _ => login_eq_api_iff

theorem not_isLogin_of_isLookup (h : e.request.IsLookup base bearer layout) :
    ¬ e.request.IsLogin base := by
  intro hlogin
  have hmethod : Method.get = .post := h.1.symm.trans hlogin.1
  cases hmethod

theorem not_isLookup_of_isLogin (h : e.request.IsLogin base) :
    ¬ ∃ bearer, e.request.IsLookup base bearer layout := by
  rintro ⟨bearer, hlookup⟩
  exact not_isLogin_of_isLookup hlookup h

end Exchange

namespace Asked

variable {base layout : String} {sent : History} {answer : Except ApiError LayoutResponse}

/-- The answer is the code of a missing layout exactly if the request about the layout or the login
was answered with it, and not both were. -/
theorem missing_iff (h : Asked base layout sent answer) :
    ((∃ text, answer = .error (.api "105" text)) ↔
      LookupMissing base layout sent ∨ LoginMissing base sent) ∧
      ¬ (LookupMissing base layout sent ∧ LoginMissing base sent) := by
  unfold LookupMissing LoginMissing
  cases h with
  | @held lookup bearer hg =>
    have hasked : ∃ bearer, lookup.request.IsLookup base bearer layout := ⟨bearer, hg⟩
    have hnot := Exchange.not_isLogin_of_isLookup hg
    simp [Exchange.layoutResponse_missing_iff, hasked, hnot]
  | @opened login lookup bearer hl ho hg =>
    have hasked : ∃ bearer, lookup.request.IsLookup base bearer layout := ⟨bearer, hg⟩
    have hnot := Exchange.not_isLogin_of_isLookup hg
    have hnot' : ¬ ∃ bearer, login.request.IsLookup base bearer layout :=
      Exchange.not_isLookup_of_isLogin hl
    have hopened : ¬ login.ReportsMissing := by
      rw [← Exchange.login_missing_iff, ho]
      simp
    simp [Exchange.layoutResponse_missing_iff, hasked, hnot, hnot', hopened]
  | @refused login cause hl ho =>
    have hnot : ¬ ∃ bearer, login.request.IsLookup base bearer layout :=
      Exchange.not_isLookup_of_isLogin hl
    have hmissing : (∃ text, cause = .api "105" text) ↔ login.ReportsMissing := by
      rw [← Exchange.login_missing_iff, ho]
      simp
    simp [hmissing, hl, hnot]

end Asked

end TypedLayouts.Server
