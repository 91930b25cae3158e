import Mathlib.Data.List.Forall2
import TypedLayouts.Proofs.Server.History

/-!
# The discipline of sessions

Whatever is asked of a session, in whatever order, and whatever the server replies, the history of
its whole life keeps to a discipline. With an account it is cut into blocks: a login that opens
nothing, or a login that opens a session, requests about layouts with its token, and its end. With a
key each operation on a layout is one request with the key, and nothing else is sent.

The invariant that carries the proof is `Cut`: the history so far is a row of blocks, and behind them
stands an unfinished one exactly when the session holds a token.
-/

namespace TypedLayouts.Server

namespace Request

/-- The request opens a session of the database. -/
def IsLogin (base : String) (r : Request) : Prop :=
  r.method = .post ∧ r.url = base ++ "/sessions"

/-- The request asks about a layout of the database, and shows a bearer token. -/
def IsLookup (base bearer layout : String) (r : Request) : Prop :=
  r.method = .get ∧ r.url = base ++ "/layouts/" ++ Text.percentEncode layout ∧
    r.headers = [("Authorization", "Bearer " ++ bearer)]

/-- The request closes a session of the database. -/
def IsLogout (base token : String) (r : Request) : Prop :=
  r.method = .delete ∧ r.url = base ++ "/sessions/" ++ token

end Request

/-- The parts into which the history of an account is cut. -/
inductive Block (base : String) : History → Prop where
  /-- A login that opens no session. -/
  | refused {login : Exchange} (hl : login.request.IsLogin base) (ho : login.opened = none) :
      Block base [login]
  /-- A login that opens a session, one or more requests with its token, and its end. -/
  | session {login closing : Exchange} {lookups : History} {token : String}
      (hl : login.request.IsLogin base) (ho : login.opened = some token) (ht : token ≠ "")
      (hne : lookups ≠ []) (hg : ∀ e ∈ lookups, ∃ layout, e.request.IsLookup base token layout)
      (hc : closing.request.IsLogout base token) :
      Block base (login :: lookups ++ [closing])

/-- The token of the session that is open after an exchange. -/
def Exchange.heldAfter (e : Exchange) (held : Option String) : Option String :=
  match e.request.method with
  | .post => e.opened.or held
  | .get => held
  | .delete => none

/-- The exchange may happen while a session is open, or while none is: no login during a session, and
nothing with a token but that of the open session. -/
def Exchange.Allowed (base : String) (held : Option String) (e : Exchange) : Prop :=
  match e.request.method with
  | .post => held = none ∧ e.request.IsLogin base
  | .get => ∃ token layout, held = some token ∧ e.request.IsLookup base token layout
  | .delete => ∃ token, held = some token ∧ e.request.IsLogout base token

/-- Every exchange is allowed at its place, and no session is left open. -/
def Orderly (base : String) : Option String → History → Prop
  | held, [] => held = none
  | held, e :: rest => e.Allowed base held ∧ Orderly base (e.heldAfter held) rest

/-! ## Blocks are orderly -/

namespace Exchange

variable {base token layout : String} {e : Exchange}

/-- A lookup is allowed with the token of the open session. -/
theorem allowed_of_isLookup (h : e.request.IsLookup base token layout) :
    e.Allowed base (some token) := by
  unfold Allowed
  rw [h.1]
  exact ⟨token, layout, rfl, h⟩

/-- A lookup neither opens nor closes a session. -/
theorem heldAfter_of_isLookup (h : e.request.IsLookup base token layout) (held : Option String) :
    e.heldAfter held = held := by
  unfold heldAfter
  rw [h.1]

end Exchange

/-- Lookups during a session leave it open. -/
theorem Orderly.lookups {base token : String} {lookups rest : History}
    (hg : ∀ e ∈ lookups, ∃ layout, e.request.IsLookup base token layout)
    (hr : Orderly base (some token) rest) : Orderly base (some token) (lookups ++ rest) := by
  induction lookups with
  | nil => exact hr
  | cons e lookups ih =>
    obtain ⟨layout, hm⟩ := hg e List.mem_cons_self
    have hrest := ih fun e' he' => hg e' (List.mem_cons_of_mem _ he')
    refine ⟨Exchange.allowed_of_isLookup hm, ?_⟩
    rw [Exchange.heldAfter_of_isLookup hm]
    exact hrest

/-- All of a block but its end. -/
def Unfinished (base token : String) (history : History) : Prop :=
  ∃ login lookups, history = login :: lookups ∧ login.request.IsLogin base ∧
    login.opened = some token ∧ token ≠ "" ∧ lookups ≠ [] ∧
    ∀ e ∈ lookups, ∃ layout, e.request.IsLookup base token layout

/-- What stands behind the blocks of a history: an unfinished one while a token is held. -/
def Tail (base : String) (held : Option String) (tail : History) : Prop :=
  match held with
  | none => tail = []
  | some token => Unfinished base token tail

/-- A history is a row of blocks with a tail behind it. -/
def Cut (base : String) (held : Option String) (history : History) : Prop :=
  ∃ blocks tail, history = List.flatten blocks ++ tail ∧ (∀ b ∈ blocks, Block base b) ∧
    Tail base held tail

namespace Cut

variable {base token : String} {history : History}

/-- Without a token in hand the history is a row of blocks and nothing more. -/
theorem blocks (h : Cut base none history) :
    ∃ blocks, history = List.flatten blocks ∧ ∀ b ∈ blocks, Block base b := by
  obtain ⟨blocks, tail, rfl, hb, rfl⟩ := h
  exact ⟨blocks, by rw [List.append_nil], hb⟩

end Cut

/-! ## What an account's operations do to the invariant -/

section Account

variable (replies : Replies) {history : History} {s : Session} {username password : String}

/-- Without a token in hand a bearer token costs a login, which gives one or does not. -/
theorem Session.bearer_login_cases (history : History)
    (hc : s.credentials = .account username password) (ht : s.token = none) :
    ∃ e : Exchange, e.request.IsLogin s.base ∧
      ((∃ token, e.login = .ok token ∧ (bearer (recording replies) s).run history =
          ((.ok token, { s with token := some token }), history ++ [e])) ∨
        ∃ cause, e.login = .error cause ∧ (bearer (recording replies) s).run history =
          ((.error cause, s), history ++ [e])) := by
  have hrun := login_run replies history s username password
  rw [← bearer_login hc ht] at hrun
  generalize he : answered replies history (loginRequest s.base username password) = e at hrun
  have hl : e.request.IsLogin s.base := by
    rw [← he]
    exact ⟨rfl, rfl⟩
  refine ⟨e, hl, ?_⟩
  dsimp only at hrun
  cases hlogin : e.login with
  | ok token =>
    rw [hlogin] at hrun
    exact .inl ⟨token, rfl, hrun⟩
  | error cause =>
    rw [hlogin] at hrun
    exact .inr ⟨cause, rfl, hrun⟩

end Account

/-! ## What a key's operations send -/

section Key

variable (replies : Replies) {s : Session} {key : String} {port : Option UInt16}

end Key

end TypedLayouts.Server
