import TypedLayouts.Proofs.Json.Integers
import TypedLayouts.Proofs.Json.Records
import TypedLayouts.Server.Envelope

/-!
# What an answer means

An answer is classified by three things in this order: whether its body is the text of an envelope,
which codes the messages of the envelope have, and what the status says. A body is described here by
what is read in it, so that its codes are strings and numbers as they are written. Messages of
success and the way in which an integer is written as a code make no difference.
-/

namespace TypedLayouts.Server

open Json (Decoder Fault Reading)
open Json.Decoder (SetBy list nullable readItems readMembers record require seenAfter string)

/-! ## What a body says -/

/-- The body is the text of an envelope. -/
def Decodes (body : String) : Prop :=
  ∃ e, Decoder.ofText Envelope.decoder body = .ok e

/-- The messages in a body. -/
def messagesIn (body : String) : List Reading :=
  match (Reading.ofText body).1.field? "messages" 1 with
  | some (.array items _) => items
  | _ => []

/-- The code of a message is the string `0` or the integer zero. -/
def SaysSuccess (m : Reading) : Prop :=
  m.field? "code" 0 = some (.string (.ok "0")) ∨
    m.field? "code" 0 = some (.number (.ok (.integer 0)))

/-- A message has a code, which stands for a text, and a wording, which may be left out. -/
structure Says (m : Reading) (code wording : String) : Prop where
  code : ∃ r v, m.field? "code" 0 = some r ∧ Decoder.value 3 r = .ok v ∧ Message.codeOf v = code
  wording : m.field? "message" 1 = some (.string (.ok wording)) ∨
    m.field? "message" 1 = none ∧ wording = ""

/-! ## Edits that make no difference -/

/-- A code that is an integer is written as a string instead. -/
inductive Recoded : Reading → Reading → Prop where
  /-- In a message written as an object. -/
  | object {n : Int} (hlow : -2 ^ 63 ≤ n) (hhigh : n < 2 ^ 64)
      (earlier later : List (Except Fault String × Reading)) (fault : Option Fault) :
      Recoded (.object (earlier ++ (.ok "code", (Reading.ofText (toString n)).1) :: later) fault)
        (.object (earlier ++ (.ok "code", .string (.ok (toString n))) :: later) fault)
  /-- In a message written as an array. -/
  | array {n : Int} (hlow : -2 ^ 63 ≤ n) (hhigh : n < 2 ^ 64) (later : List Reading)
      (fault : Option Fault) :
      Recoded (.array ((Reading.ofText (toString n)).1 :: later) fault)
        (.array (.string (.ok (toString n)) :: later) fault)

/-- Messages of success are put in and left out, and codes are written as strings. -/
inductive Edited : List Reading → List Reading → Prop where
  /-- No message is left. -/
  | nil : Edited [] []
  /-- A message stays as it is. -/
  | keep (m : Reading) {items items' : List Reading} (h : Edited items items') :
    Edited (m :: items) (m :: items')
  /-- A message of success is put in. -/
  | insert {m : Reading} {text : String} (hm : Message.decoder m = .ok ⟨"0", text⟩)
    {items items' : List Reading} (h : Edited items items') : Edited items (m :: items')
  /-- A message of success is left out. -/
  | remove {m : Reading} {text : String} (hm : Message.decoder m = .ok ⟨"0", text⟩)
    {items items' : List Reading} (h : Edited items items') : Edited (m :: items) items'
  /-- A code is written as a string. -/
  | recode {m m' : Reading} (hm : Recoded m m') {items items' : List Reading}
    (h : Edited items items') : Edited (m :: items) (m' :: items')

/-- The member of an envelope with the messages, unless there is none. -/
def messagesMember : Option (List Reading) → List (Except Fault String × Reading)
  | none => []
  | some items => [(.ok "messages", .array items none)]

/-- The item of an envelope with the messages, unless there is none. -/
def messagesItem : Option (List Reading) → List Reading
  | none => []
  | some items => [.array items none]

/-- The messages of an envelope are edited. The list may come or go with its messages. -/
inductive EditedEnvelope : Reading → Reading → Prop where
  /-- In an envelope written as an object. -/
  | object {earlier later : List (Except Fault String × Reading)} {fault : Option Fault}
      {listed listed' : Option (List Reading)}
      (hothers : ∀ r, (.ok "messages", r) ∉ earlier ++ later)
      (h : Edited (listed.getD []) (listed'.getD [])) :
      EditedEnvelope (.object (earlier ++ (messagesMember listed ++ later)) fault)
        (.object (earlier ++ (messagesMember listed' ++ later)) fault)
  /-- In an envelope written as an array. -/
  | array {response : Reading} {fault : Option Fault} {listed listed' : Option (List Reading)}
      (h : Edited (listed.getD []) (listed'.getD [])) :
      EditedEnvelope (.array (response :: messagesItem listed) fault)
        (.array (response :: messagesItem listed') fault)

/-- The messages in a body are edited, and nothing else. -/
def EditedBody (body body' : String) : Prop :=
  EditedEnvelope (Reading.ofText body).1 (Reading.ofText body').1 ∧
    (Reading.ofText body').2 = (Reading.ofText body).2

/-! ## Messages -/

theorem Message.codeOf_eq_zero_iff {v : Json} :
    codeOf v = "0" ↔ v = .string "0" ∨ v = .number (.integer 0) := by
  have hzero : toString (0 : Int) = "0" := rfl
  cases v with
  | string s => simp [codeOf]
  | _ =>
    -- a floating-point zero is written `0.0`, so only the integer is left
    unfold codeOf
    rw [← hzero, Json.render_eq_toString_iff]
    simp

def Message.codeField : Decoder.Field Draft :=
  ⟨"code", fun r d => return { d with code := some (codeOf (← Decoder.value 3 r)) }⟩

def Message.textField : Decoder.Field Draft :=
  ⟨"message", fun r d => return { d with text := ← string r }⟩

/-- The fields of a message. -/
def Message.fields : List (Decoder.Field Draft) :=
  [codeField, textField]

theorem Message.decoder_eq (r : Reading) :
    decoder r = (do
      let draft ← record fields {} r
      return ⟨← require draft.code, draft.text⟩) :=
  rfl

theorem Message.setBy_code :
    SetBy fields "code" 0 (Decoder.value 3) (fun v => some (codeOf v)) Draft.code :=
  ⟨[], _, [_], rfl, rfl, rfl, Decoder.Field.sets_of_set fun _ _ => rfl,
    List.forall_mem_singleton.mpr ⟨by decide, Decoder.Field.keeps_of_set fun _ _ => rfl⟩⟩

theorem Message.setBy_text : SetBy fields "message" 1 string id Draft.text :=
  ⟨[_], _, [], rfl, rfl, rfl, Decoder.Field.sets_of_set fun _ _ => rfl,
    List.forall_mem_singleton.mpr ⟨by decide, Decoder.Field.keeps_of_set fun _ _ => rfl⟩⟩

theorem Message.says_of_decoder {m : Reading} {message : Message} (h : decoder m = .ok message) :
    Says m message.code message.text := by
  rw [decoder_eq] at h
  obtain ⟨draft, hdraft, hrequire⟩ := bind_eq_ok_iff.mp h
  obtain ⟨code, hcode, hend⟩ := bind_eq_ok_iff.mp hrequire
  cases hend
  constructor
  · have hread := setBy_code.get_record hdraft
    cases hfield : m.field? "code" 0 with
    | none =>
      rw [hfield] at hread
      rw [show draft.code = none from hread] at hcode
      cases hcode
    | some r =>
      rw [hfield] at hread
      obtain ⟨v, hv, hset⟩ := hread
      rw [hset] at hcode
      cases hcode
      exact ⟨r, v, rfl, hv, rfl⟩
  · have hread := setBy_text.get_record hdraft
    cases hfield : m.field? "message" 1 with
    | none =>
      rw [hfield] at hread
      exact .inr ⟨rfl, hread⟩
    | some r =>
      rw [hfield] at hread
      obtain ⟨text, htext, hset⟩ := hread
      rw [Decoder.string_eq_ok_iff.mp htext]
      exact .inl (by rw [hset]; rfl)

theorem Says.code_eq_zero_iff {m : Reading} {code wording : String} (h : Says m code wording) :
    code = "0" ↔ SaysSuccess m := by
  obtain ⟨r, v, hfield, hv, rfl⟩ := h.code
  rw [Message.codeOf_eq_zero_iff]
  unfold SaysSuccess
  rw [hfield]
  constructor
  · rintro (rfl | rfl)
    · exact .inl (congrArg some (Decoder.eq_toReading_of_value (by simp) (by simp) hv))
    · exact .inr (congrArg some (Decoder.eq_toReading_of_value (by simp) (by simp) hv))
  · rintro (hr | hr)
    all_goals
      cases hr
      cases hv
    · exact .inl rfl
    · exact .inr rfl

/-! ## Envelopes -/

def Envelope.responseField : Decoder.Field Envelope :=
  ⟨"response", fun r e => return { e with response := ← nullable (Decoder.value 1) r }⟩

def Envelope.messagesField : Decoder.Field Envelope :=
  ⟨"messages", fun r e => return { e with messages := ← list Message.decoder r }⟩

/-- The fields of an envelope. -/
def Envelope.fields : List (Decoder.Field Envelope) :=
  [responseField, messagesField]

theorem Envelope.decoder_eq : decoder = record fields {} :=
  rfl

theorem Envelope.setBy_messages :
    SetBy fields "messages" 1 (list Message.decoder) id Envelope.messages :=
  ⟨[_], _, [], rfl, rfl, rfl, Decoder.Field.sets_of_set fun _ _ => rfl,
    List.forall_mem_singleton.mpr ⟨by decide, Decoder.Field.keeps_of_set fun _ _ => rfl⟩⟩

/-- The messages that are read in a list of messages. -/
abbrev AreMessages : List Reading → List Message → Prop :=
  List.Forall₂ fun m message => Message.decoder m = .ok message

theorem areMessages_messagesIn {body : String} {e : Envelope}
    (h : Decoder.ofText Envelope.decoder body = .ok e) :
    AreMessages (messagesIn body) e.messages := by
  have hread := Envelope.setBy_messages.get_record (Decoder.ofText_eq_ok_iff.mp h).1
  unfold messagesIn
  cases hfield : (Reading.ofText body).1.field? "messages" 1 with
  | none =>
    rw [hfield] at hread
    rw [show e.messages = [] from hread]
    exact .nil
  | some r =>
    rw [hfield] at hread
    obtain ⟨messages, hmessages, hset⟩ := hread
    obtain ⟨items, rfl, hall⟩ := Decoder.list_eq_ok_iff.mp hmessages
    rw [hset]
    exact hall

/-! ## The first problem -/

section Problems

variable {items : List Reading} {messages : List Message}

theorem find?_eq_none_iff (h : AreMessages items messages) :
    messages.find? (·.code ≠ "0") = none ↔ ∀ m ∈ items, SaysSuccess m := by
  rw [List.find?_eq_none]
  induction h with
  | nil => simp
  | cons hm _ ih =>
    have hzero := (Message.says_of_decoder hm).code_eq_zero_iff
    rw [List.forall_mem_cons, List.forall_mem_cons, ih, ← hzero]
    simp

theorem find?_eq_some_of_first {earlier later : List Reading} {m : Reading}
    (h : AreMessages (earlier ++ m :: later) messages) (hearlier : ∀ m ∈ earlier, SaysSuccess m)
    (hm : ¬ SaysSuccess m) :
    ∃ message, Message.decoder m = .ok message ∧
      messages.find? (·.code ≠ "0") = some message := by
  induction earlier generalizing messages with
  | nil =>
    cases h with
    | @cons _ message _ messages hread _ =>
      have hzero := (Message.says_of_decoder hread).code_eq_zero_iff
      exact ⟨message, hread, List.find?_cons_of_pos (by simpa [hzero] using hm)⟩
  | cons first earlier ih =>
    cases h with
    | @cons _ message _ messages hread hrest =>
      obtain ⟨hfirst, hearlier⟩ := List.forall_mem_cons.mp hearlier
      have hzero := (Message.says_of_decoder hread).code_eq_zero_iff
      obtain ⟨found, hfound, hfind⟩ := ih hrest hearlier
      exact ⟨found, hfound, by rw [List.find?_cons_of_neg (by simpa [hzero] using hfirst), hfind]⟩

end Problems

/-! ## Edited messages -/

theorem Message.codeField_read_integer {n : Int} (hlow : -2 ^ 63 ≤ n) (hhigh : n < 2 ^ 64) :
    codeField.read (Reading.ofText (toString n)).1 =
      codeField.read (.string (.ok (toString n))) := by
  rw [Json.ofText_integer hlow hhigh]
  rfl

theorem Recoded.record {m m' : Reading} (h : Recoded m m') {draft : Message.Draft}
    (hm : Decoder.record Message.fields {} m = .ok draft) :
    Decoder.record Message.fields {} m' = .ok draft := by
  cases h with
  | object hlow hhigh earlier later fault =>
    obtain ⟨read, hread, hend⟩ := bind_eq_ok_iff.mp hm
    obtain ⟨u, hearlier, hlater⟩ := Decoder.readMembers_append_ok_iff.mp hread
    rw [Decoder.readMembers_congr rfl (Message.codeField_read_integer hlow hhigh)] at hlater
    exact bind_eq_ok_iff.mpr
      ⟨read, Decoder.readMembers_append_ok_iff.mpr ⟨u, hearlier, hlater⟩, hend⟩
  | array hlow hhigh later fault =>
    obtain ⟨read, hread, hend⟩ := bind_eq_ok_iff.mp hm
    rw [Message.codeField_read_integer hlow hhigh] at hread
    exact bind_eq_ok_iff.mpr ⟨read, hread, hend⟩

theorem Recoded.decoder {m m' : Reading} (h : Recoded m m') {message : Message}
    (hm : Message.decoder m = .ok message) : Message.decoder m' = .ok message := by
  rw [Message.decoder_eq] at hm ⊢
  obtain ⟨draft, hdraft, hend⟩ := bind_eq_ok_iff.mp hm
  exact bind_eq_ok_iff.mpr ⟨draft, h.record hdraft, hend⟩

/-- Edited messages differ in nothing but messages of success. -/
theorem Edited.areMessages {items items' : List Reading} (h : Edited items items')
    {messages : List Message} (hmessages : AreMessages items messages) :
    ∃ messages', AreMessages items' messages' ∧
      messages'.filter (·.code ≠ "0") = messages.filter (·.code ≠ "0") := by
  induction h generalizing messages with
  | nil => exact ⟨messages, hmessages, rfl⟩
  | keep m _ ih =>
    cases hmessages with
    | @cons _ message _ _ hm hrest =>
      obtain ⟨messages', hmessages', hfilter⟩ := ih hrest
      exact ⟨message :: messages', .cons hm hmessages', by
        rw [List.filter_cons, List.filter_cons, hfilter]⟩
  | insert hm _ ih =>
    obtain ⟨messages', hmessages', hfilter⟩ := ih hmessages
    exact ⟨_ :: messages', .cons hm hmessages', by
      rw [List.filter_cons_of_neg (by simp), hfilter]⟩
  | remove hm _ ih =>
    cases hmessages with
    | cons hread hrest =>
      rw [hm] at hread
      cases hread
      obtain ⟨messages', hmessages', hfilter⟩ := ih hrest
      exact ⟨messages', hmessages', by rw [List.filter_cons_of_neg (by simp), hfilter]⟩
  | recode hm _ ih =>
    cases hmessages with
    | @cons _ message _ _ hread hrest =>
      obtain ⟨messages', hmessages', hfilter⟩ := ih hrest
      exact ⟨message :: messages', .cons (hm.decoder hread) hmessages', by
        rw [List.filter_cons, List.filter_cons, hfilter]⟩

/-! ## Edited envelopes -/

/-- Envelopes that mean the same: the answer is the same, and so are the messages of failure. -/
structure Envelope.MeansSame (e e' : Envelope) : Prop where
  response : e'.response = e.response
  failures : e'.messages.filter (·.code ≠ "0") = e.messages.filter (·.code ≠ "0")

namespace Envelope

variable {s s' t : Envelope} {seen : List String} {listed listed' : Option (List Reading)}
  {fault : Option Fault} {members : List (Except Fault String × Reading)} {k : String} {r : Reading}

theorem field_of_meansSame {field : Decoder.Field Envelope} (hfield : field ∈ fields) {r : Reading}
    (hs : s.MeansSame s') (h : field.read r s = .ok t) :
    ∃ t', field.read r s' = .ok t' ∧ t.MeansSame t' := by
  rcases List.mem_pair.mp hfield with rfl | rfl
  · obtain ⟨response, hresponse, rfl⟩ := Decoder.Field.read_eq_ok_iff.mp h
    exact ⟨_, Decoder.Field.read_eq_ok_iff.mpr ⟨response, hresponse, rfl⟩, rfl, hs.failures⟩
  · obtain ⟨messages, hmessages, rfl⟩ := Decoder.Field.read_eq_ok_iff.mp h
    exact ⟨_, Decoder.Field.read_eq_ok_iff.mpr ⟨messages, hmessages, rfl⟩, hs.response, rfl⟩

theorem read_messages_ok_iff {items : List Reading} :
    messagesField.read (.array items none) s = .ok t ↔
      ∃ messages, AreMessages items messages ∧ { s with messages } = t := by
  unfold messagesField
  rw [Decoder.Field.read_eq_ok_iff]
  simp [Decoder.list_eq_ok_iff]

theorem messages_not_mem_seenAfter (h : ∀ r, (.ok "messages", r) ∉ members) :
    "messages" ∉ seenAfter fields [] members := by
  intro hmem
  rcases Decoder.mem_of_mem_seenAfter hmem with hnil | ⟨r, hr⟩
  · exact List.not_mem_nil hnil
  · exact h r hr

theorem eq_of_mem_messagesMember (h : (.ok k, r) ∈ messagesMember listed) : k = "messages" := by
  cases listed with
  | none => exact absurd h List.not_mem_nil
  | some items =>
    cases List.mem_singleton.mp h
    rfl

/-- To members of which none has the messages it does not matter whether they have come. -/
theorem mem_seenAfter_messagesMember (h : ∀ r, (.ok "messages", r) ∉ members)
    (hr : (.ok k, r) ∈ members) (hk : k ∈ seenAfter fields seen (messagesMember listed')) :
    k ∈ seenAfter fields seen (messagesMember listed) := by
  rcases Decoder.mem_of_mem_seenAfter hk with hk | ⟨r', hr'⟩
  · exact Decoder.mem_seenAfter hk
  · rw [eq_of_mem_messagesMember hr'] at hr
    exact absurd hr (h r)

theorem readMembers_messagesMember (hseen : "messages" ∉ seen) (hs : s.messages = []) :
    readMembers fields seen s (messagesMember listed) = .ok t ↔
      ∃ messages, AreMessages (listed.getD []) messages ∧ { s with messages } = t := by
  cases listed with
  | none =>
    have hsame : { s with messages := [] } = s := by rw [← hs]
    simp [messagesMember, readMembers, hsame]
  | some items =>
    have hfind : fields.find? (·.name = "messages") = some messagesField := rfl
    rw [messagesMember, Decoder.readMembers_cons_ok_iff, hfind]
    simp [hseen, readMembers, read_messages_ok_iff]

theorem readItems_messagesItem (hs : s.messages = []) :
    readItems fault s [messagesField] (messagesItem listed) = .ok t ↔
      fault = none ∧ ∃ messages, AreMessages (listed.getD []) messages ∧
        { s with messages } = t := by
  cases listed with
  | none =>
    have hsame : { s with messages := [] } = s := by rw [← hs]
    simp [messagesItem, readItems, Decoder.finish_eq_ok_iff, hsame]
  | some items =>
    simp only [messagesItem, readItems, bind_eq_ok_iff, Decoder.finish_eq_ok_iff,
      read_messages_ok_iff, Option.getD_some]
    grind

end Envelope

/-- Edited messages leave what an envelope means. -/
theorem EditedEnvelope.record {r r' : Reading} (h : EditedEnvelope r r') {e : Envelope}
    (he : Decoder.record Envelope.fields {} r = .ok e) :
    ∃ e', Decoder.record Envelope.fields {} r' = .ok e' ∧ e.MeansSame e' := by
  cases h with
  | @object earlier later fault listed listed' hothers h =>
    obtain ⟨read, hread, hend⟩ := bind_eq_ok_iff.mp he
    obtain ⟨u, hearlier, hread⟩ := Decoder.readMembers_append_ok_iff.mp hread
    obtain ⟨v, hmember, hlater⟩ := Decoder.readMembers_append_ok_iff.mp hread
    -- the messages stand in the edited member alone, so up to it none have been read
    have hbefore : ∀ r, (.ok "messages", r) ∉ earlier :=
      fun r hr => hothers r (List.mem_append_left _ hr)
    have hbehind : ∀ r, (.ok "messages", r) ∉ later :=
      fun r hr => hothers r (List.mem_append_right _ hr)
    have hunseen := Envelope.messages_not_mem_seenAfter hbefore
    have hnone : u.messages = [] := by
      have hset := Envelope.setBy_messages.get_members List.not_mem_nil hearlier
      rwa [Json.memberAt_eq_none hbefore] at hset
    obtain ⟨messages, hmessages, rfl⟩ :=
      (Envelope.readMembers_messagesMember hunseen hnone).mp hmember
    obtain ⟨messages', hmessages', hfilter⟩ := h.areMessages hmessages
    have hmeans : Envelope.MeansSame { u with messages } { u with messages := messages' } :=
      ⟨rfl, hfilter⟩
    -- the two envelopes under construction differ in messages of success, and perhaps in whether
    -- the key of the messages has come; the later members look at neither
    obtain ⟨read', hlater', hsame⟩ := Decoder.readMembers_related
      (fun _ hfield _ _ _ _ => Envelope.field_of_meansSame hfield)
      (fun _ _ => Envelope.mem_seenAfter_messagesMember hbehind) hmeans hlater
    obtain ⟨rfl, rfl⟩ := Decoder.finish_eq_ok_iff.mp hend
    refine ⟨read', bind_eq_ok_iff.mpr ⟨read', Decoder.readMembers_append_ok_iff.mpr ⟨u, hearlier,
      Decoder.readMembers_append_ok_iff.mpr ⟨_, ?_, hlater'⟩⟩, rfl⟩, hsame⟩
    exact (Envelope.readMembers_messagesMember hunseen hnone).mpr ⟨messages', hmessages', rfl⟩
  | @array response fault listed listed' h =>
    obtain ⟨u, hresponse, hitem⟩ := bind_eq_ok_iff.mp he
    have hnone : u.messages = [] := by
      obtain ⟨_, -, rfl⟩ := Decoder.Field.read_eq_ok_iff.mp hresponse
      rfl
    obtain ⟨rfl, messages, hmessages, rfl⟩ := (Envelope.readItems_messagesItem hnone).mp hitem
    obtain ⟨messages', hmessages', hfilter⟩ := h.areMessages hmessages
    refine ⟨{ u with messages := messages' }, bind_eq_ok_iff.mpr ⟨u, hresponse, ?_⟩, rfl, hfilter⟩
    exact (Envelope.readItems_messagesItem hnone).mpr ⟨rfl, messages', hmessages', rfl⟩

/-! ## Answers -/

section Answers

variable {body body' : String} {e : Envelope} (url : String) (status : Nat)

theorem response_of_envelope (h : Decoder.ofText Envelope.decoder body = .ok e) :
    response url status body =
      match (e.messages.filter (·.code ≠ "0")).head? with
      | some message => .error (.api message.code message.text)
      | none =>
        if isFailure status then .error (.http status url) else .ok (e.response.getD .null) := by
  rw [List.head?_filter]
  unfold response
  rewrite [h]
  rfl

theorem response_of_not_decodes (h : ¬ Decodes body) :
    ∃ category, response url status body =
      if isFailure status then .error (.http status url)
      else .error (.unexpected url (.body body) category) := by
  unfold response
  cases hbody : Decoder.ofText Envelope.decoder body with
  | ok e => exact absurd ⟨e, hbody⟩ h
  | error problem => exact ⟨problem.inText, rfl⟩

/-- An answer delivers something exactly if its body is an envelope, every message says success and
so does the status. -/
theorem response_eq_ok_iff :
    (∃ v, response url status body = .ok v) ↔
      Decodes body ∧ (∀ m ∈ messagesIn body, SaysSuccess m) ∧ status < 400 := by
  by_cases hdecodes : Decodes body
  · obtain ⟨e, he⟩ := hdecodes
    rw [← find?_eq_none_iff (areMessages_messagesIn he), response_of_envelope url status he,
      List.head?_filter]
    cases e.messages.find? (·.code ≠ "0") with
    | some message => simp
    | none =>
      by_cases hstatus : 400 ≤ status
      · simp [isFailure, hstatus]
      · have hok : Decodes body := ⟨e, he⟩
        simp [isFailure, hstatus, hok, Nat.lt_of_not_le hstatus]
  · obtain ⟨category, hresponse⟩ := response_of_not_decodes url status hdecodes
    rw [hresponse]
    split
    · simp [hdecodes]
    · simp [hdecodes]

/-- The first message with another code is what an answer reports, whatever its status is. -/
theorem response_of_first {earlier later : List Reading} {m : Reading} (hdecodes : Decodes body)
    (hfirst : messagesIn body = earlier ++ m :: later) (hearlier : ∀ m ∈ earlier, SaysSuccess m)
    (hm : ¬ SaysSuccess m) :
    ∃ code wording, Says m code wording ∧
      ∀ url status, response url status body = .error (.api code wording) := by
  obtain ⟨e, he⟩ := hdecodes
  have hmessages := areMessages_messagesIn he
  rw [hfirst] at hmessages
  obtain ⟨message, hread, hfind⟩ := find?_eq_some_of_first hmessages hearlier hm
  refine ⟨message.code, message.text, Message.says_of_decoder hread, fun url status => ?_⟩
  rw [response_of_envelope url status he, List.head?_filter, hfind]

theorem response_of_failure (body : String) (h : 400 ≤ status) :
    (∃ code wording, response url status body = .error (.api code wording)) ∨
      response url status body = .error (.http status url) := by
  have hfailure : isFailure status = true := decide_eq_true h
  by_cases hdecodes : Decodes body
  · obtain ⟨e, he⟩ := hdecodes
    rw [response_of_envelope url status he]
    split
    · exact .inl ⟨_, _, rfl⟩
    · exact .inr (if_pos hfailure)
  · obtain ⟨category, hresponse⟩ := response_of_not_decodes url status hdecodes
    exact .inr (hresponse.trans (if_pos hfailure))

theorem response_ne_http (h : status < 400) (code : Nat) (asked : String) :
    response url status body ≠ .error (.http code asked) := by
  have hsuccess : ¬ isFailure status = true := by simpa [isFailure] using h
  by_cases hdecodes : Decodes body
  · obtain ⟨e, he⟩ := hdecodes
    rw [response_of_envelope url status he]
    split
    · simp
    · simp [hsuccess]
  · obtain ⟨category, hresponse⟩ := response_of_not_decodes url status hdecodes
    rw [hresponse, if_neg hsuccess]
    simp

/-- Edited messages change neither that a body is an envelope nor what it means. -/
theorem EditedBody.decodes (h : EditedBody body body')
    (he : Decoder.ofText Envelope.decoder body = .ok e) :
    ∃ e', Decoder.ofText Envelope.decoder body' = .ok e' ∧ e.MeansSame e' := by
  obtain ⟨hread, hrest⟩ := Decoder.ofText_eq_ok_iff.mp he
  obtain ⟨e', hread', hsame⟩ := h.1.record hread
  exact ⟨e', Decoder.ofText_eq_ok_iff.mpr ⟨hread', h.2.trans hrest⟩, hsame⟩

theorem response_of_editedBody (h : EditedBody body body') (hdecodes : Decodes body) :
    response url status body' = response url status body := by
  obtain ⟨e, he⟩ := hdecodes
  obtain ⟨e', he', hsame⟩ := h.decodes he
  rw [response_of_envelope url status he, response_of_envelope url status he', hsame.response,
    hsame.failures]

end Answers

/-- An answer delivers something exactly if its body is an envelope whose messages all say success
and its status does too. The first other message is reported whatever the status is; without one, a
failure status is, and a body that is no envelope only if the status says success. Messages of
success and the way in which codes are written do not matter. -/
theorem response_classified (body : String) :
    (∀ url status, (∃ v, response url status body = .ok v) ↔
      Decodes body ∧ (∀ m ∈ messagesIn body, SaysSuccess m) ∧ status < 400) ∧
    (∀ earlier m later, Decodes body → messagesIn body = earlier ++ m :: later →
      (∀ m ∈ earlier, SaysSuccess m) → ¬ SaysSuccess m →
        ∃ code wording, Says m code wording ∧
          ∀ url status, response url status body = .error (.api code wording)) ∧
    (∀ url status, 400 ≤ status → (∀ v, response url status body ≠ .ok v) ∧
      ∀ asked refused category,
        response url status body ≠ .error (.unexpected asked refused category)) ∧
    (∀ url status, status < 400 → ∀ code asked,
      response url status body ≠ .error (.http code asked)) ∧
    ∀ body', Decodes body → EditedBody body body' → Decodes body' ∧
      ∀ url status, response url status body' = response url status body := by
  refine ⟨response_eq_ok_iff, fun _ _ _ => response_of_first, fun url status hstatus => ?_,
    response_ne_http, fun body' hdecodes hedited => ⟨?_, fun url status => ?_⟩⟩
  · rcases response_of_failure url status body hstatus with ⟨code, wording, hresponse⟩ | hresponse
    · simp [hresponse]
    · simp [hresponse]
  · obtain ⟨e, he⟩ := hdecodes
    obtain ⟨e', he', -⟩ := hedited.decodes he
    exact ⟨e', he'⟩
  · exact response_of_editedBody url status hedited hdecodes

/-- The message with which a server reports a missing layout, with an integer as the code. -/
def missingLayout : Reading :=
  .object [(.ok "code", .number (.ok (.integer 105))),
    (.ok "message", .string (.ok "Gone"))] none

/-- A missing layout reported with an integer, and the same in a text with a message of success and
the code as a string. -/
theorem missing_layout_classified :
    let body := "\x7b\"messages\":[\x7b\"code\":105,\"message\":\"Gone\"\x7d]\x7d"
    let body' :=
      "\x7b\"messages\":[\x7b\"code\":\"0\"\x7d,\x7b\"code\":\"105\",\"message\":\"Gone\"\x7d]\x7d"
    (∃ code wording, Says missingLayout code wording ∧
      ∀ url status, response url status body = .error (.api code wording)) ∧
    (∀ v, response "https://fm.example.com" 500 body ≠ .ok v) ∧
    response "https://fm.example.com" 200 body ≠ .error (.http 200 "https://fm.example.com") ∧
    ∀ url status, response url status body' = response url status body := by
  intro body body'
  have hread : Reading.ofText body =
      (.object [(.ok "messages", .array [missingLayout] none)] none, false) := by
    simp only [Reading.ofText, body, String.reduceToList]
    rfl
  have hread' : Reading.ofText body' =
      (.object [(.ok "messages", .array [.object [(.ok "code", .string (.ok "0"))] none,
        .object [(.ok "code", .string (.ok "105")),
          (.ok "message", .string (.ok "Gone"))] none] none)] none, false) := by
    simp only [Reading.ofText, body', String.reduceToList]
    rfl
  have hdecodes : Decodes body := by
    refine ⟨⟨none, [⟨"105", "Gone"⟩]⟩, ?_⟩
    rw [Decoder.ofText_eq_ok_iff, hread]
    exact ⟨rfl, rfl⟩
  have hmessages : messagesIn body = [] ++ missingLayout :: [] := by
    unfold messagesIn
    rw [hread]
    rfl
  have hfailure : ¬ SaysSuccess missingLayout := by
    rintro (h | h)
    · cases h
    · cases h
  have hrecoded : Recoded missingLayout (.object [(.ok "code", .string (.ok "105")),
      (.ok "message", .string (.ok "Gone"))] none) := by
    have h := @Recoded.object 105 (by decide) (by decide) []
      [(.ok "message", .string (.ok "Gone"))] none
    rw [Json.ofText_integer (by decide) (by decide)] at h
    exact h
  have hsuccess : Message.decoder (.object [(.ok "code", .string (.ok "0"))] none) =
      .ok ⟨"0", ""⟩ := rfl
  have hedited : EditedBody body body' := by
    unfold EditedBody
    rw [hread, hread']
    exact ⟨@EditedEnvelope.object [] [] none (some _) (some _) (by simp)
      (.insert hsuccess (.recode hrecoded .nil)), rfl⟩
  obtain ⟨-, hfirst, hfailing, hdelivered, hedit⟩ := response_classified body
  exact ⟨hfirst [] missingLayout [] hdecodes hmessages (by simp) hfailure,
    (hfailing "https://fm.example.com" 500 (by decide)).1,
    hdelivered "https://fm.example.com" 200 (by decide) 200 "https://fm.example.com",
    (hedit body' hdecodes hedited).2⟩

end TypedLayouts.Server
