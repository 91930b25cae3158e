import TypedLayouts.Layout.MetadataFormat
import TypedLayouts.Proofs.Json.Rendering
import TypedLayouts.Proofs.Json.Shapes
import TypedLayouts.Server.Envelope
import TypedLayouts.Server.LayoutResponse

/-!
# Metadata as texts

Metadata can be written in the format in which they are stored, or in that of a server's answer
about a layout, and the answer can come in an envelope. In each of them members come in any order,
a member with the default value may be left out, and what is optional may be `null`. Whichever way
is taken from the text back to metadata, they are the same that were written.
-/

namespace TypedLayouts

open Json
open Json.Decoder (list map nullable record)
open Layout (Field Metadata ValueList)
open Server (Envelope FieldInfo ListInfo ListedValue LayoutResponse Message)

/-! ## The stored format -/

/-- A field. -/
def IsField (f : Field) : Json → Prop :=
  IsObject
    [⟨"name", IsString f.name, False⟩,
      ⟨"result", IsString f.result, f.result = ""⟩,
      ⟨"valueList", IsNullable IsString f.valueList, f.valueList = none⟩]

/-- A value list. -/
def IsValueList (l : ValueList) : Json → Prop :=
  IsObject
    [⟨"name", IsString l.name, False⟩,
      ⟨"values", IsArray IsString l.values, l.values = []⟩]

/-- Metadata as they are stored. -/
def IsStored (m : Metadata) : Json → Prop :=
  IsObject
    [⟨"fields", IsArray IsField m.fields, m.fields = []⟩,
      ⟨"portals", IsMap (IsArray IsField) m.portals, m.portals = ∅⟩,
      ⟨"valueLists", IsNullable (IsArray IsValueList) m.valueLists, m.valueLists = none⟩]

/-! ## The format of answers -/

/-- A value of a value list. -/
def IsListedValue (value : String) : Json → Prop :=
  IsObject [⟨"value", IsString value, False⟩]

/-- A value list. -/
def IsListInfo (l : ValueList) : Json → Prop :=
  IsObject
    [⟨"name", IsString l.name, False⟩,
      ⟨"values", IsArray IsListedValue l.values, l.values = []⟩]

/-- Metadata as the server's answer about a layout. -/
def IsAnswer (m : Metadata) : Json → Prop :=
  IsObject
    [⟨"fieldMetaData", IsArray IsField m.fields, m.fields = []⟩,
      ⟨"portalMetaData", IsMap (IsArray IsField) m.portals, m.portals = ∅⟩,
      ⟨"valueLists", IsNullable (IsArray IsListInfo) m.valueLists, m.valueLists = none⟩]

/-- A message of success, with its wording. -/
def IsSuccess (text : String) : Json → Prop :=
  IsObject [⟨"code", IsString "0", False⟩, ⟨"message", IsString text, text = ""⟩]

/-- An envelope around a response, with messages of success. -/
def IsEnvelope (response : Json) (messages : List String) : Json → Prop :=
  IsObject
    [⟨"response", (· = response), False⟩,
      ⟨"messages", IsArray IsSuccess messages, messages = []⟩]

/-! ## Decoding the stored format -/

theorem string_null (s : String) : Decoder.string .null ≠ .ok s := by
  intro h
  cases h

theorem list_null {α : Type} {d : Decoder α} (as : List α) : list d .null ≠ .ok as := by
  intro h
  cases h

section Stored

variable {v : Json}

theorem nullable_string {o : Option String} (h : IsNullable IsString o v) :
    nullable Decoder.string v.toReading = .ok o := by
  have hnullable := nullable_of_isNullable (g := id) h (fun _ _ => string_of_isString) string_null
  rwa [Option.map_id, id] at hnullable

theorem list_string {texts : List String} (h : IsArray IsString texts v) :
    list Decoder.string v.toReading = .ok texts := by
  have hlist := list_of_isArray (g := id) h fun _ _ => string_of_isString
  rwa [List.map_id] at hlist

theorem field_decoder {f : Field} (h : IsField f v) : Field.decoder v.toReading = .ok f := by
  unfold Field.decoder
  rw [record_of_isObject
    [(_, fun d => { d with name := some f.name }), (_, fun d => { d with result := f.result }),
      (_, fun d => { d with valueList := f.valueList })] h]
  · rfl
  · simp
  · simp only [List.forall_mem_cons]
    refine ⟨.of_decoder rfl (fun _ => string_of_isString) rfl False.elim,
      .of_decoder rfl (fun _ => string_of_isString) rfl fun hd => ?_,
      .of_decoder rfl (fun _ => nullable_string) rfl fun hd => ?_, by simp⟩
    · rw [hd]
    · rw [hd]
  · simp

theorem valueList_decoder {l : ValueList} (h : IsValueList l v) :
    ValueList.decoder v.toReading = .ok l := by
  unfold ValueList.decoder
  rw [record_of_isObject
    [(_, fun d => { d with name := some l.name }), (_, fun d => { d with values := l.values })] h]
  · rfl
  · simp
  · simp only [List.forall_mem_cons]
    refine ⟨.of_decoder rfl (fun _ => string_of_isString) rfl False.elim,
      .of_decoder rfl (fun _ => list_string) rfl fun hd => ?_, by simp⟩
    rw [hd]
  · simp

theorem list_field {fields : List Field} (h : IsArray IsField fields v) :
    list Field.decoder v.toReading = .ok fields := by
  have hlist := list_of_isArray (g := id) h fun _ _ => field_decoder
  rwa [List.map_id] at hlist

/-- Stored metadata are read as the metadata. -/
theorem metadata_decoder {m : Metadata} (h : IsStored m v) :
    Metadata.decoder v.toReading = .ok m := by
  unfold Metadata.decoder
  rw [record_of_isObject
    [(_, fun d => { d with fields := m.fields }), (_, fun d => { d with portals := m.portals }),
      (_, fun d => { d with valueLists := m.valueLists })] h]
  · rfl
  · simp
  · have hportals : ∀ v, IsMap (IsArray IsField) m.portals v →
        Decoder.map (list Field.decoder) v.toReading = .ok m.portals := by
      intro v hv
      have hmap := map_of_isMap (g := id) hv fun _ _ => list_field
      rwa [OrderedMap.map_id_eq] at hmap
    have hlists : ∀ lists v, IsArray IsValueList lists v →
        list ValueList.decoder v.toReading = .ok (id lists) := by
      intro lists v hv
      have hlist := list_of_isArray (g := id) hv fun _ _ => valueList_decoder
      rwa [List.map_id] at hlist
    have hnullable : ∀ v, IsNullable (IsArray IsValueList) m.valueLists v →
        nullable (list ValueList.decoder) v.toReading = .ok m.valueLists := by
      intro v hv
      have hread := nullable_of_isNullable hv hlists list_null
      rwa [Option.map_id, id] at hread
    simp only [List.forall_mem_cons]
    refine ⟨.of_decoder rfl (fun _ => list_field) rfl fun hd => ?_,
      .of_decoder rfl hportals rfl fun hd => ?_,
      .of_decoder rfl hnullable rfl fun hd => ?_, by simp⟩
    · rw [hd]
    · rw [hd]
    · rw [hd]
  · simp

end Stored

/-! ## Decoding answers -/

/-- A field with nothing more than generation needs. -/
def fieldInfo (f : Field) : FieldInfo where
  name := f.name
  result := f.result
  valueList := f.valueList

/-- A value list with nothing more than generation needs. -/
def listInfo (l : ValueList) : ListInfo where
  name := l.name
  values := l.values.map fun value => { value }

/-- An answer with nothing more than generation needs. -/
def answerOf (m : Metadata) : LayoutResponse where
  fields := m.fields.map fieldInfo
  portals := m.portals.map (List.map fieldInfo)
  valueLists := m.valueLists.map (List.map listInfo)

theorem map_field_fieldInfo (fields : List Field) :
    (fields.map fieldInfo).map FieldInfo.field = fields := by
  rw [List.map_map]
  exact List.map_id _

theorem map_listInfo (lists : List ValueList) :
    ((lists.map listInfo).map fun list => (⟨list.name, list.values.map ListedValue.value⟩ :
      ValueList)) = lists := by
  rw [List.map_map]
  refine (List.map_congr_left fun l _ => ?_).trans (List.map_id _)
  dsimp only [Function.comp, listInfo]
  rw [List.map_map]
  exact congrArg (ValueList.mk l.name) (List.map_id _)

/-- Generation needs all of the metadata. -/
theorem metadata_answerOf (m : Metadata) : (answerOf m).metadata = m := by
  obtain ⟨fields, portals, valueLists⟩ := m
  unfold LayoutResponse.metadata answerOf
  dsimp only
  rw [map_field_fieldInfo, OrderedMap.map_map_eq map_field_fieldInfo]
  cases valueLists with
  | none => rfl
  | some lists =>
    rw [Option.map_some, Option.map_some, map_listInfo]

section Answers

variable {v : Json}

theorem fieldInfo_decoder {f : Field} (h : IsField f v) :
    FieldInfo.decoder v.toReading = .ok (fieldInfo f) := by
  unfold FieldInfo.decoder
  rw [record_of_isObject
    [(_, fun d => { d with name := some f.name }), (_, fun d => { d with result := f.result }),
      (_, fun d => { d with valueList := f.valueList })] h]
  · rfl
  · simp
  · simp only [List.forall_mem_cons]
    refine ⟨.of_decoder rfl (fun _ => string_of_isString) rfl False.elim,
      .of_decoder rfl (fun _ => string_of_isString) rfl fun hd => ?_,
      .of_decoder rfl (fun _ => nullable_string) rfl fun hd => ?_, by simp⟩
    · rw [hd]
    · rw [hd]
  · simp

theorem listedValue_decoder {value : String} (h : IsListedValue value v) :
    ListedValue.decoder v.toReading = .ok { value } := by
  unfold ListedValue.decoder
  rw [record_of_isObject [(_, fun d => { d with value := some value })] h]
  · rfl
  · simp
  · simp only [List.forall_mem_cons]
    exact ⟨.of_decoder rfl (fun _ => string_of_isString) rfl False.elim, by simp⟩
  · simp

theorem listInfo_decoder {l : ValueList} (h : IsListInfo l v) :
    ListInfo.decoder v.toReading = .ok (listInfo l) := by
  unfold ListInfo.decoder
  rw [record_of_isObject
    [(_, fun d => { d with name := some l.name }),
      (_, fun d => { d with values := (listInfo l).values })] h]
  · rfl
  · simp
  · have hvalues : ∀ v, IsArray IsListedValue l.values v →
        list ListedValue.decoder v.toReading = .ok (listInfo l).values :=
      fun _ hv => list_of_isArray hv fun _ _ => listedValue_decoder
    simp only [List.forall_mem_cons]
    refine ⟨.of_decoder rfl (fun _ => string_of_isString) rfl False.elim,
      .of_decoder rfl hvalues rfl fun hd => ?_, by simp⟩
    dsimp only [listInfo]
    rw [hd]
    rfl
  · simp

/-- An answer is read as the metadata, with nothing more. -/
theorem answer_decoder {m : Metadata} (h : IsAnswer m v) :
    LayoutResponse.decoder v.toReading = .ok (answerOf m) := by
  unfold LayoutResponse.decoder
  rw [record_of_isObject
    [(_, fun d => { d with fields := (answerOf m).fields }),
      (_, fun d => { d with portals := (answerOf m).portals }),
      (_, fun d => { d with valueLists := (answerOf m).valueLists })] h]
  · rfl
  · simp
  · have hfields : ∀ fields v, IsArray IsField fields v →
        list FieldInfo.decoder v.toReading = .ok (fields.map fieldInfo) :=
      fun _ _ hfields => list_of_isArray hfields fun _ _ => fieldInfo_decoder
    have hlists : ∀ lists v, IsArray IsListInfo lists v →
        list ListInfo.decoder v.toReading = .ok (lists.map listInfo) :=
      fun _ _ hlists => list_of_isArray hlists fun _ _ => listInfo_decoder
    simp only [List.forall_mem_cons]
    refine ⟨.of_decoder rfl (hfields _) rfl fun hd => ?_,
      .of_decoder rfl (fun _ hv => map_of_isMap hv hfields) rfl fun hd => ?_,
      .of_decoder rfl (fun _ hv => nullable_of_isNullable hv hlists list_null) rfl fun hd => ?_,
      by simp⟩
    · dsimp only [answerOf]
      rw [hd]
      rfl
    · dsimp only [answerOf]
      rw [hd]
      rfl
    · dsimp only [answerOf]
      rw [hd]
      rfl
  · simp

/-! ## Answers in envelopes -/

theorem keeps_isField (f : Field) : Keeps 1 (IsField f) := by
  refine keeps_isObject (n := 0) ?_
  simp only [List.forall_mem_cons]
  exact ⟨keeps_isString _, keeps_isString _, keeps_isNullable keeps_isString _, by simp⟩

theorem keeps_isListInfo (l : ValueList) : Keeps 3 (IsListInfo l) := by
  have hvalue : ∀ value, Keeps 1 (IsListedValue value) := by
    intro value
    refine keeps_isObject (n := 0) ?_
    simp only [List.forall_mem_cons]
    exact ⟨keeps_isString _, by simp⟩
  refine keeps_isObject (n := 2) ?_
  simp only [List.forall_mem_cons]
  exact ⟨keeps_isString _, keeps_isArray hvalue _, by simp⟩

/-- An answer that is kept as a value is the same answer, with its members in another order. -/
theorem keeps_isAnswer (m : Metadata) : Keeps 5 (IsAnswer m) := by
  have hfields : ∀ fields, Keeps 2 (IsArray IsField fields) := keeps_isArray keeps_isField
  have hportals : Keeps 3 (IsMap (IsArray IsField) m.portals) := keeps_isMap hfields _
  have hlists : ∀ lists, Keeps 4 (IsArray IsListInfo lists) := keeps_isArray keeps_isListInfo
  refine keeps_isObject (n := 4) ?_
  simp only [List.forall_mem_cons]
  exact ⟨(hfields _).mono (by decide), hportals.mono (by decide), keeps_isNullable hlists _,
    by simp⟩

theorem message_decoder {text : String} (h : IsSuccess text v) :
    Message.decoder v.toReading = .ok { code := "0", text } := by
  unfold Message.decoder
  rw [record_of_isObject
    [(_, fun d => { d with code := some "0" }), (_, fun d => { d with text })] h]
  · rfl
  · simp
  · have hcode : ∀ v, IsString "0" v → Decoder.value 3 v.toReading = .ok (.string "0") := by
      rintro _ rfl
      rfl
    simp only [List.forall_mem_cons]
    refine ⟨.of_decoder rfl hcode rfl False.elim,
      .of_decoder rfl (fun _ => string_of_isString) rfl fun hd => ?_, by simp⟩
    rw [hd]
  · simp

/-- An envelope is read with its response kept as a value. -/
theorem envelope_decoder {m : Metadata} {answer : Json} {texts : List String}
    (ha : IsAnswer m answer) (h : IsEnvelope answer texts v) :
    ∃ kept, IsAnswer m kept ∧ Envelope.decoder v.toReading =
      .ok ⟨some kept, texts.map fun text => { code := "0", text }⟩ := by
  obtain ⟨kept, hkept, hfits⟩ := keeps_isAnswer m 1 answer (by decide) ha
  have hresponse : nullable (Decoder.value 1) answer.toReading = .ok (some kept) := by
    cases ha with
    | mk =>
      rw [toReading] at hkept ⊢
      unfold nullable
      dsimp only
      rw [hkept]
      rfl
  refine ⟨kept, hfits, ?_⟩
  unfold Envelope.decoder
  rw [record_of_isObject
    [(_, fun e => { e with response := some kept }),
      (_, fun e => { e with messages := texts.map fun text => { code := "0", text } })] h]
  · rfl
  · simp
  · simp only [List.forall_mem_cons]
    refine ⟨.of_decoder rfl (fun v hv => ?_) rfl False.elim,
      .of_decoder rfl (fun _ hv => list_of_isArray hv fun _ _ => message_decoder) rfl
        fun hd => ?_, by simp⟩
    · obtain rfl : v = answer := hv
      exact hresponse
    · rw [hd]
      rfl
  · simp

/-- An envelope with messages of success delivers its response, unless the status says failure. -/
theorem response_of_isEnvelope {m : Metadata} {answer : Json} {texts : List String}
    {envelope : String} {status : Nat} (hv : IsTextOf envelope v) (h : IsEnvelope answer texts v)
    (ha : IsAnswer m answer) (hstatus : status < 400) (url : String) :
    ∃ kept, IsAnswer m kept ∧ Server.response url status envelope = .ok kept := by
  obtain ⟨kept, hkept, henvelope⟩ := envelope_decoder ha h
  have hsuccess : (texts.map fun text => ({ code := "0", text } : Message)).find?
      (·.code ≠ "0") = none := by
    simp
  have hcode : Server.isFailure status = false := by
    unfold Server.isFailure
    exact decide_eq_false (by omega)
  refine ⟨kept, hkept, ?_⟩
  unfold Server.response
  rw [Decoder.ofText_eq hv, henvelope]
  dsimp only
  rw [hsuccess, hcode]
  rfl

end Answers

/-- Metadata that are written in the stored format, as an answer, or as an answer in an envelope
with messages of success, are the same again when they are read. -/
theorem Layout.Metadata.read_back (m : Metadata) {stored answer envelope : String}
    {v w e : Json} {texts : List String} {status : Nat} (hstored : IsTextOf stored v)
    (hv : IsStored m v) (hanswer : IsTextOf answer w) (hw : IsAnswer m w)
    (henvelope : IsTextOf envelope e) (he : IsEnvelope w texts e) (hstatus : status < 400)
    (url : String) :
    Decoder.ofText Metadata.decoder stored = .ok m ∧
    (Decoder.ofText LayoutResponse.decoder answer).map LayoutResponse.metadata = .ok m ∧
    ((Server.response url status envelope).bind
      (Server.decodeResponse LayoutResponse.decoder url)).map LayoutResponse.metadata = .ok m := by
  have hmetadata : ∀ w, IsAnswer m w →
      (LayoutResponse.decoder w.toReading).map LayoutResponse.metadata = .ok m := by
    intro w hw
    rw [answer_decoder hw]
    exact congrArg Except.ok (metadata_answerOf m)
  refine ⟨?_, ?_, ?_⟩
  · rw [Decoder.ofText_eq hstored]
    exact metadata_decoder hv
  · rw [Decoder.ofText_eq hanswer]
    exact hmetadata w hw
  · obtain ⟨kept, hkept, hresponse⟩ := response_of_isEnvelope henvelope he hw hstatus url
    have hdecoded : (Server.decodeResponse LayoutResponse.decoder url kept) = .ok (answerOf m) := by
      unfold Server.decodeResponse
      rw [answer_decoder hkept]
    rw [hresponse, Except.bind, hdecoded]
    exact congrArg Except.ok (metadata_answerOf m)

/-! ## A text for all metadata -/

/-- A value for a datum that may be missing. -/
def nullableJson {α : Type} (write : α → Json) : Option α → Json
  | none => .null
  | some a => write a

/-- A field. -/
def fieldJson (f : Field) : Json :=
  .object
    [("name", .string f.name), ("result", .string f.result),
      ("valueList", nullableJson .string f.valueList)]

/-- The fields of each portal. -/
def portalsJson (portals : OrderedMap String (List Field)) : Json :=
  .object (portals.entries.map fun e => (e.1, .array (e.2.map fieldJson)))

/-- Metadata as they are stored. -/
def storedJson (m : Metadata) : Json :=
  .object
    [("fields", .array (m.fields.map fieldJson)), ("portals", portalsJson m.portals),
      ("valueLists", nullableJson (fun lists => .array (lists.map fun l =>
        .object [("name", .string l.name), ("values", .array (l.values.map .string))]))
        m.valueLists)]

/-- Metadata as the server's answer about a layout. -/
def answerJson (m : Metadata) : Json :=
  .object
    [("fieldMetaData", .array (m.fields.map fieldJson)),
      ("portalMetaData", portalsJson m.portals),
      ("valueLists", nullableJson (fun lists => .array (lists.map fun l =>
        .object [("name", .string l.name),
          ("values", .array (l.values.map fun value => .object [("value", .string value)]))]))
        m.valueLists)]

/-- An answer in an envelope. -/
def envelopeJson (answer : Json) : Json :=
  .object
    [("response", answer),
      ("messages", .array [.object [("code", .string "0"), ("message", .string "OK")]])]

section Written

variable {α : Type} {P : α → Json → Prop} {write : α → Json}

/-- A value of a shape without numbers in it. -/
structure Writes (P : Json → Prop) (v : Json) : Prop where
  /-- It has the shape. -/
  fits : P v
  /-- It has no numbers. -/
  numberless : v.Numberless

theorem writes_string (s : String) : Writes (IsString s) (.string s) :=
  ⟨rfl, .string s⟩

theorem writes_nullable (h : ∀ a, Writes (P a) (write a)) (o : Option α) :
    Writes (IsNullable P o) (nullableJson write o) := by
  cases o with
  | none => exact ⟨.null, .null⟩
  | some a => exact ⟨.some (h a).fits, (h a).numberless⟩

theorem writes_array (h : ∀ a, Writes (P a) (write a)) (as : List α) :
    Writes (IsArray P as) (.array (as.map write)) := by
  constructor
  · exact .mk (List.forall₂_map_right_iff.mpr (List.forall₂_same.mpr fun a _ => (h a).fits))
  · refine .array fun v hv => ?_
    obtain ⟨a, -, rfl⟩ := List.mem_map.mp hv
    exact (h a).numberless

theorem writes_map (h : ∀ a, Writes (P a) (write a)) (m : OrderedMap String α) :
    Writes (IsMap P m) (.object (m.entries.map fun e => (e.1, write e.2))) := by
  constructor
  · refine .mk (.refl _) (List.forall₂_map_left_iff.mpr (List.forall₂_same.mpr fun e _ => ?_))
    exact ⟨rfl, (h e.2).fits⟩
  · refine .object fun member hmember => ?_
    obtain ⟨e, -, rfl⟩ := List.mem_map.mp hmember
    exact (h e.2).numberless

/-- The member is what a part asks for. -/
def Member (part : Part) (member : String × Json) : Prop :=
  part.key = member.1 ∧ Writes part.fits member.2

theorem exists_part {parts : List Part} {members : List (String × Json)}
    (h : List.Forall₂ Member parts members) :
    ∀ member ∈ members, ∃ part ∈ parts, Member part member := by
  induction h with
  | nil => simp
  | @cons part member parts members hmember _ ih =>
    refine List.forall_mem_cons.mpr ⟨⟨part, List.mem_cons_self, hmember⟩, fun m hm => ?_⟩
    obtain ⟨part', hpart', hm'⟩ := ih m hm
    exact ⟨part', List.mem_cons_of_mem _ hpart', hm'⟩

/-- An object with a member for each of its parts, in their order. -/
theorem writes_object {parts : List Part} {members : List (String × Json)}
    (h : List.Forall₂ Member parts members) (hkeys : (members.map Prod.fst).Nodup) :
    Writes (IsObject parts) (.object members) := by
  have hparts : parts.map Part.key = members.map Prod.fst := by
    rw [← List.forall₂_eq_eq_eq, List.forall₂_map_left_iff, List.forall₂_map_right_iff]
    exact h.imp fun _ _ hmember => hmember.1
  refine ⟨.mk ⟨hkeys, fun member hmember => ?_, fun part hpart habsent => ?_⟩,
    .object fun member hmember => ?_⟩
  · obtain ⟨part, hpart, hkey, hwrites⟩ := exists_part h member hmember
    exact ⟨part, hpart, hkey, hwrites.fits⟩
  · rw [← hparts] at habsent
    exact (habsent (List.mem_map_of_mem hpart)).elim
  · obtain ⟨part, -, -, hwrites⟩ := exists_part h member hmember
    exact hwrites.numberless

theorem writes_field (f : Field) : Writes (IsField f) (fieldJson f) := by
  refine writes_object (.cons ⟨rfl, writes_string _⟩ (.cons ⟨rfl, writes_string _⟩
    (.cons ⟨rfl, writes_nullable writes_string _⟩ .nil))) ?_
  simp

theorem writes_portals (portals : OrderedMap String (List Field)) :
    Writes (IsMap (IsArray IsField) portals) (portalsJson portals) :=
  writes_map (writes_array writes_field) portals

theorem writes_stored (m : Metadata) : Writes (IsStored m) (storedJson m) := by
  have hlist : ∀ l : ValueList, Writes (IsValueList l)
      (.object [("name", .string l.name), ("values", .array (l.values.map .string))]) := by
    intro l
    refine writes_object (.cons ⟨rfl, writes_string _⟩
      (.cons ⟨rfl, writes_array writes_string _⟩ .nil)) ?_
    simp
  refine writes_object (.cons ⟨rfl, writes_array writes_field _⟩
    (.cons ⟨rfl, writes_portals _⟩
      (.cons ⟨rfl, writes_nullable (writes_array hlist) _⟩ .nil))) ?_
  simp

theorem writes_answer (m : Metadata) : Writes (IsAnswer m) (answerJson m) := by
  have hvalue : ∀ value, Writes (IsListedValue value) (.object [("value", .string value)]) := by
    intro value
    refine writes_object (.cons ⟨rfl, writes_string _⟩ .nil) ?_
    simp
  have hlist : ∀ l : ValueList, Writes (IsListInfo l)
      (.object [("name", .string l.name),
        ("values", .array (l.values.map fun value => .object [("value", .string value)]))]) := by
    intro l
    refine writes_object (.cons ⟨rfl, writes_string _⟩
      (.cons ⟨rfl, writes_array hvalue _⟩ .nil)) ?_
    simp
  refine writes_object (.cons ⟨rfl, writes_array writes_field _⟩
    (.cons ⟨rfl, writes_portals _⟩
      (.cons ⟨rfl, writes_nullable (writes_array hlist) _⟩ .nil))) ?_
  simp

theorem writes_envelope {answer : Json} (h : answer.Numberless) :
    Writes (IsEnvelope answer ["OK"]) (envelopeJson answer) := by
  have hmessage : Writes (IsSuccess "OK")
      (.object [("code", .string "0"), ("message", .string "OK")]) := by
    refine writes_object (.cons ⟨rfl, writes_string _⟩ (.cons ⟨rfl, writes_string _⟩ .nil)) ?_
    simp
  refine writes_object (.cons ⟨rfl, rfl, h⟩ (.cons ⟨rfl, ?_⟩ .nil)) ?_
  · exact ⟨.mk (.cons hmessage.fits .nil), .array (by simpa using hmessage.numberless)⟩
  · simp

end Written

/-- Metadata with all there is, read back from their compact texts. -/
theorem Layout.Metadata.read_back_of_compact_texts :
    let m : Metadata :=
      { fields := [⟨"id", "number", none⟩, ⟨"state \"x\"\n", "", some "States"⟩]
        portals := .ofList [("Orders", [⟨"Orders::total", "number", none⟩]), ("Notes", [])]
        valueLists := some [⟨"States", ["Open", "Geschlossen \u00fc"]⟩, ⟨"Empty", []⟩] }
    Decoder.ofText Metadata.decoder (storedJson m).render = .ok m ∧
    (Decoder.ofText LayoutResponse.decoder (answerJson m).render).map LayoutResponse.metadata =
      .ok m ∧
    ((Server.response "https://fm.example.com" 200 (envelopeJson (answerJson m)).render).bind
      (Server.decodeResponse LayoutResponse.decoder "https://fm.example.com")).map
        LayoutResponse.metadata = .ok m := by
  intro m
  have hstored := writes_stored m
  have hanswer := writes_answer m
  have henvelope := writes_envelope hanswer.numberless
  exact m.read_back (isTextOf_render hstored.numberless) hstored.fits
    (isTextOf_render hanswer.numberless) hanswer.fits (isTextOf_render henvelope.numberless)
    henvelope.fits (by decide) _

end TypedLayouts
