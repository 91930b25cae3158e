import Mathlib.Data.List.Basic
import Mathlib.Logic.Relation
import TypedLayouts.TypeScript.TokenStore

/-!
# What the token store of a file depends on

The token store is looked up in the initial value of `config`, and nothing around it matters: other
statements may come and go, also ones with mistakes, the declaration may be exported, its value may
be wrapped, and the object literal may get other members. Each of these is an edit of the tree, and
a file in which any number of them are made has the same token store as before.

A statement matters through what it offers: the token store in the value that it gives to `config`,
if it gives one. The first statement that offers something decides, so that it is enough to know
what each edit does to the offers of the statements in its place.
-/

namespace TypedLayouts.TypeScript

namespace Tree

/-! ## Edits -/

/-- The node with other children, with which its text and the marks inside of it may change. -/
def rebuilt (t : Tree) (children : List (Role × Tree)) (text : String) (repaired : Bool) : Tree :=
  { t with children, text, repaired }

/-- The statement is an export of a node. -/
def Exports (statement declared : Tree) : Prop :=
  statement.kind = .exportStatement ∧ statement.child? .declaration = some declared

/-- The node is a declarator of the name `config`. -/
def DeclaresConfig (t : Tree) : Prop :=
  t.kind = .declarator ∧
    ∃ id, t.child? .name = some id ∧ id.kind = .identifier ∧ id.missing = false ∧
      id.text = configName

/-- The declaration gives no value to `config`: where it declares the name, an initial value is
absent, or what stands there is a mistake itself. -/
def LeavesConfigOpen (declaration : Tree) : Prop :=
  ∀ p ∈ declaration.children, p.2.DeclaresConfig →
    ∀ value, p.2.child? .value = some value → value.isPresent = false

/-- A statement that has no say in the value of `config`. -/
inductive Unrelated (t : Tree) : Prop where
  /-- It could not be read. -/
  | error (h : t.kind = .error)
  /-- It neither declares variables nor exports such a declaration. -/
  | other (h : t.isDeclaration = false) (hexports : ∀ d, t.Exports d → d.isDeclaration = false)
  /-- It declares variables and gives no value to `config`. -/
  | declaration (h : t.isDeclaration = true) (hopen : t.LeavesConfigOpen)
  /-- It exports such a declaration. -/
  | exported {d : Tree} (h : t.Exports d) (hd : d.isDeclaration = true)
    (hopen : d.LeavesConfigOpen)

/-- The key is the given name, as it is or between quotes. -/
def IsKey (name : String) (key : Tree) : Prop :=
  (key.kind = .propertyName ∧ key.text = name) ∨
    (key.kind = .string ∧ ∃ c ∈ ['"', '\''], ∃ d ∈ ['"', '\''],
      key.text.toList = c :: (name.toList ++ [d]))

/-- The member of an object literal is the property `tokenStore`: a pair with this key, or the name
alone. -/
inductive IsStoreProperty (t : Tree) : Prop where
  /-- A pair. -/
  | pair {key : Tree} (hkind : t.kind = .pair) (hkey : t.child? .key = some key)
    (hname : IsKey tokenStoreName key)
  /-- The name alone. -/
  | shorthand (hkind : t.kind = .shorthand) (hname : t.text = tokenStoreName)

/-- The node holds a value inside of any number of wrappers, each the first node of the one around
it. -/
inductive Wraps (value : Tree) : Tree → Prop where
  /-- The value itself. -/
  | value : Wraps value value
  /-- One more wrapper. What was put in where the file has nothing holds nothing. -/
  | wrapper {t inner : Tree} {role : Role} {rest : List (Role × Tree)}
    (hwrapper : t.isWrapper = true) (hstands : t.missing = false)
    (hchildren : t.children = (role, inner) :: rest) (h : Wraps value inner) : Wraps value t

/-- One edit of an initial value. -/
inductive ValueEdit : Tree → Tree → Prop where
  /-- The value gets wrappers. -/
  | wrap {v w : Tree} (hpresent : v.isPresent = true) (h : Wraps v w) : ValueEdit v w
  /-- An object literal gets members other than the token store. -/
  | addMembers {v : Tree} {front new behind : List (Role × Tree)} {text : String} {repaired : Bool}
    (hkind : v.kind = .object) (hchildren : v.children = front ++ behind)
    (hnew : ∀ p ∈ new, ¬ p.2.IsStoreProperty) :
    ValueEdit v (v.rebuilt (front ++ (new ++ behind)) text repaired)
  /-- The value inside of a wrapper is edited. -/
  | inside {v inner inner' : Tree} {role : Role} {rest : List (Role × Tree)} {text : String}
    {repaired : Bool} (hwrapper : v.isWrapper = true)
    (hchildren : v.children = (role, inner) :: rest)
    (h : ValueEdit inner inner') : ValueEdit v (v.rebuilt ((role, inner') :: rest) text repaired)

/-- The initial value of a declarator is edited. -/
inductive DeclaratorEdit (t : Tree) : Tree → Prop where
  | value {v v' : Tree} {front behind : List (Role × Tree)} {text : String} {repaired : Bool}
    (hchildren : t.children = front ++ (.value, v) :: behind)
    (hfirst : ∀ p ∈ front, p.1 ≠ .value) (h : ValueEdit v v') :
    DeclaratorEdit t (t.rebuilt (front ++ (.value, v') :: behind) text repaired)

/-- A declarator of a declaration is edited. -/
inductive DeclarationEdit (d : Tree) : Tree → Prop where
  | declarator {t t' : Tree} {role : Role} {front behind : List (Role × Tree)} {text : String}
    {repaired : Bool} (hchildren : d.children = front ++ (role, t) :: behind)
    (h : DeclaratorEdit t t') :
    DeclarationEdit d (d.rebuilt (front ++ (role, t') :: behind) text repaired)

/-- A declaration is edited where it stands. -/
inductive StatementEdit (s : Tree) : Tree → Prop where
  /-- As a statement. -/
  | declaration {s' : Tree} (hkind : s.isDeclaration = true) (h : DeclarationEdit s s') :
    StatementEdit s s'
  /-- In an export. -/
  | exported {d d' : Tree} {front behind : List (Role × Tree)} {text : String} {repaired : Bool}
    (hkind : s.kind = .exportStatement)
    (hchildren : s.children = front ++ (.declaration, d) :: behind)
    (hfirst : ∀ p ∈ front, p.1 ≠ .declaration) (hd : d.isDeclaration = true)
    (h : DeclarationEdit d d') :
    StatementEdit s (s.rebuilt (front ++ (.declaration, d') :: behind) text repaired)

/-- One edit of a file. -/
inductive Edit (file : Tree) : Tree → Prop where
  /-- Unrelated statements are put in. -/
  | addStatements {front new behind : List (Role × Tree)} {text : String} {repaired : Bool}
    (hchildren : file.children = front ++ behind) (hnew : ∀ p ∈ new, p.2.Unrelated) :
    Edit file (file.rebuilt (front ++ (new ++ behind)) text repaired)
  /-- A declaration becomes an export of it. -/
  | exportDeclaration {d e : Tree} {role role' : Role} {front behind : List (Role × Tree)}
    {text : String} {repaired : Bool} (hchildren : file.children = front ++ (role, d) :: behind)
    (hd : d.isDeclaration = true) (he : e.Exports d) :
    Edit file (file.rebuilt (front ++ (role', e) :: behind) text repaired)
  /-- A statement is edited. -/
  | editStatement {s s' : Tree} {role : Role} {front behind : List (Role × Tree)} {text : String}
    {repaired : Bool} (hchildren : file.children = front ++ (role, s) :: behind)
    (h : StatementEdit s s') :
    Edit file (file.rebuilt (front ++ (role, s') :: behind) text repaired)

/-! ## What statements offer -/

/-- The token store in a value of `config`. -/
def storeIn? (value : Tree) : Option Expr :=
  let object := unwrapped value
  if object.kind = .object then (find? tokenStoreName object).map Property.construction else none

/-- What a declaration offers: the token store in the value that it gives to `config`, if it gives
one. -/
def offerIn? (declaration : Tree) : Option (Option Expr) :=
  (initialIn? configName declaration).map storeIn?

/-- What a statement offers. -/
def offer? (statement : Tree) : Option (Option Expr) :=
  statement.declaration?.bind offerIn?

theorem initialIn?_eq (name : String) (declaration : Tree) :
    initialIn? name declaration = (declaration.children.find? fun p => p.2.declares name).bind
      fun p => (p.2.child? .value).filter isPresent :=
  rfl

/-- The first offer decides. -/
theorem tokenStore?_eq_join (file : Tree) :
    file.tokenStore? = (file.children.findSome? fun p => p.2.offer?).join := by
  have hoffers : (file.children.findSome? fun p => p.2.offer?) =
      (file.initial? configName).map storeIn? := by
    unfold initial?
    rw [List.map_findSome?]
    congr 1
    funext p
    exact (Option.map_bind ..).symm
  rw [hoffers]
  unfold tokenStore? storeIn?
  cases file.initial? configName with
  | none => rfl
  | some value =>
    simp only [Option.bind_eq_bind, Option.bind_some, Option.map_some, Option.join_some]
    split
    · exact (Option.map_eq_bind ..).symm
    · rfl

/-- Children of a file are exchanged for others that offer the same. -/
theorem tokenStore?_rebuilt {file : Tree} {front middle middle' behind : List (Role × Tree)}
    (hchildren : file.children = front ++ (middle ++ behind))
    (hoffers : middle'.findSome? (fun p => p.2.offer?) = middle.findSome? fun p => p.2.offer?)
    (text : String) (repaired : Bool) :
    (file.rebuilt (front ++ (middle' ++ behind)) text repaired).tokenStore? = file.tokenStore? := by
  rw [tokenStore?_eq_join, tokenStore?_eq_join, hchildren]
  unfold rebuilt
  simp only [List.findSome?_append, hoffers]

/-! ## Statements that offer nothing -/

variable {t d : Tree}

theorem declares_iff : t.declares configName = true ↔ t.DeclaresConfig := by
  unfold declares DeclaresConfig
  rw [Bool.and_eq_true, decide_eq_true_eq]
  refine and_congr_right fun _ => ?_
  cases t.child? .name with
  | none => simp
  | some id => simp [and_assoc]

theorem declaration?_of_isDeclaration (h : t.isDeclaration = true) : t.declaration? = some t :=
  if_pos h

theorem Exports.declaration? (h : t.Exports d) :
    t.declaration? = (some d).filter isDeclaration := by
  have hkind : t.isDeclaration = false := by
    unfold isDeclaration
    rw [h.1]
    rfl
  unfold Tree.declaration?
  rw [hkind, if_neg Bool.false_ne_true, if_neg (not_not.mpr h.1), h.2]

theorem offer?_of_isDeclaration (h : t.isDeclaration = true) : t.offer? = t.offerIn? := by
  unfold offer?
  rw [declaration?_of_isDeclaration h, Option.bind_some]

/-- An export of a declaration offers what the declaration does. -/
theorem Exports.offer? (h : t.Exports d) (hd : d.isDeclaration = true) : t.offer? = d.offerIn? := by
  unfold Tree.offer?
  rw [h.declaration?, Option.filter_some_pos hd, Option.bind_some]

theorem declaration?_eq_none (h : t.isDeclaration = false)
    (hexports : ∀ d, t.Exports d → d.isDeclaration = false) : t.declaration? = none := by
  unfold declaration?
  rw [h, if_neg Bool.false_ne_true]
  split
  · rfl
  · rename_i hkind
    cases hchild : t.child? .declaration with
    | none => rfl
    | some d =>
      have hd := hexports d ⟨not_not.mp hkind, hchild⟩
      exact Option.filter_some_neg hd

theorem LeavesConfigOpen.offerIn? (h : d.LeavesConfigOpen) : d.offerIn? = none := by
  unfold Tree.offerIn?
  rw [initialIn?_eq]
  cases hfound : d.children.find? fun p => p.2.declares configName with
  | none => rfl
  | some p =>
    have hdeclares : p.2.declares configName = true :=
      List.find?_some (p := fun p : Role × Tree => p.2.declares configName) hfound
    have hconfig := declares_iff.mp hdeclares
    have hvalue : (p.2.child? .value).filter isPresent = none := by
      rw [Option.filter_eq_none_iff]
      intro value hchild
      rw [h p (List.mem_of_find?_eq_some hfound) hconfig value hchild]
      exact Bool.false_ne_true
    rw [Option.bind_some, hvalue, Option.map_none]

theorem Unrelated.offer? (h : t.Unrelated) : t.offer? = none := by
  cases h with
  | error h =>
    have hnone : t.declaration? = none :=
      declaration?_eq_none (by simp [isDeclaration, h]) fun _ he => by cases he.1.symm.trans h
    unfold Tree.offer?
    rw [hnone, Option.bind_none]
  | other h hexports =>
    unfold Tree.offer?
    rw [declaration?_eq_none h hexports, Option.bind_none]
  | declaration h hopen => rw [offer?_of_isDeclaration h, hopen.offerIn?]
  | exported h hd hopen => rw [h.offer? hd, hopen.offerIn?]

/-! ## Edited values -/

theorem unwrapped_of_not_isWrapper (h : t.isWrapper = false) : t.unwrapped = t := by
  obtain ⟨kind, text, _ | ⟨⟨role, inner⟩, rest⟩, missing, repaired⟩ := t
  · rw [unwrapped]
  · rw [unwrapped, h, if_neg Bool.false_ne_true]

theorem unwrapped_of_isWrapper {role : Role} {inner : Tree} {rest : List (Role × Tree)}
    (h : t.isWrapper = true) (hchildren : t.children = (role, inner) :: rest) :
    t.unwrapped = inner.unwrapped := by
  obtain ⟨kind, text, children, missing, repaired⟩ := t
  obtain rfl : children = (role, inner) :: rest := hchildren
  rw [unwrapped, h, if_pos rfl]

theorem isPresent_of_isWrapper (h : t.isWrapper = true) (hstands : t.missing = false) :
    t.isPresent = true := by
  have hkind : t.kind ≠ .error := by
    intro he
    unfold isWrapper at h
    rw [he] at h
    cases h
  unfold isPresent
  rw [hstands, decide_eq_true hkind]
  rfl

theorem Wraps.unwrapped {v w : Tree} (h : Wraps v w) : w.unwrapped = v.unwrapped := by
  induction h with
  | value => rfl
  | wrapper hwrapper _ hchildren _ ih => rw [unwrapped_of_isWrapper hwrapper hchildren, ih]

theorem Wraps.isPresent {v w : Tree} (h : Wraps v w) (hv : v.isPresent = true) :
    w.isPresent = true := by
  cases h with
  | value => exact hv
  | wrapper hwrapper hstands _ _ => exact isPresent_of_isWrapper hwrapper hstands

theorem unquoted?_eq_some_iff {literal name : String} :
    unquoted? literal = some name ↔
      ∃ c ∈ ['"', '\''], ∃ d ∈ ['"', '\''], literal.toList = c :: (name.toList ++ [d]) := by
  unfold unquoted?
  cases literal.toList with
  | nil => simp
  | cons c rest =>
    rcases List.eq_nil_or_concat rest with rfl | ⟨inner, d, rfl⟩
    · simp
    · rw [List.concat_eq_append]
      dsimp only
      rw [List.getLast?_concat]
      dsimp only
      rw [List.dropLast_concat, Option.ite_none_right_eq_some, Option.some_inj]
      simp only [Bool.and_eq_true, Bool.or_eq_true, decide_eq_true_eq]
      constructor
      · rintro ⟨⟨hc, hd⟩, rfl⟩
        exact ⟨c, by simpa using hc, d, by simpa using hd, by rw [String.toList_ofList]⟩
      · rintro ⟨c', hc, d', hd, heq⟩
        obtain ⟨rfl, hrest⟩ := List.cons.inj heq
        obtain ⟨rfl, hlast⟩ := List.append_inj' hrest rfl
        obtain rfl := (List.cons.inj hlast).1
        exact ⟨⟨by simpa using hc, by simpa using hd⟩, String.ofList_toList⟩

theorem keyName?_eq_some_iff {name : String} : t.keyName? = some name ↔ IsKey name t := by
  unfold keyName? IsKey
  split
  · rename_i hkind
    simp [hkind]
  · rename_i hkind
    rw [unquoted?_eq_some_iff]
    simp [hkind]
  · rename_i hname hstring
    refine iff_of_false nofun ?_
    rintro (⟨hkind, -⟩ | ⟨hkind, -⟩)
    · exact hname hkind
    · exact hstring hkind

theorem isProperty_iff : t.isProperty tokenStoreName = true ↔ t.IsStoreProperty := by
  constructor
  · intro h
    unfold isProperty at h
    split at h
    · rename_i hkind
      obtain ⟨key, hkey, hname⟩ := Option.bind_eq_some_iff.mp (of_decide_eq_true h)
      exact .pair hkind hkey (keyName?_eq_some_iff.mp hname)
    · rename_i hkind
      exact .shorthand hkind (of_decide_eq_true h)
    · cases h
  · intro h
    unfold isProperty
    cases h with
    | pair hkind hkey hname =>
      rw [hkind, hkey]
      exact decide_eq_true (keyName?_eq_some_iff.mpr hname)
    | shorthand hkind hname =>
      rw [hkind]
      exact decide_eq_true hname

/-- Members other than the token store do not count. -/
theorem find?_rebuilt {object : Tree} {front new behind : List (Role × Tree)}
    (hchildren : object.children = front ++ behind) (hnew : ∀ p ∈ new, ¬ p.2.IsStoreProperty)
    (text : String) (repaired : Bool) :
    find? tokenStoreName (object.rebuilt (front ++ (new ++ behind)) text repaired) =
      find? tokenStoreName object := by
  have hnone : (new.find? fun p => p.2.isProperty tokenStoreName) = none := by
    rw [List.find?_eq_none]
    intro p hp
    exact fun h => hnew p hp (isProperty_iff.mp h)
  unfold find? rebuilt
  simp only [hchildren, List.find?_append, hnone, Option.none_or]

/-- An edited value stands in the file where it did, and has the same token store. -/
theorem ValueEdit.preserves {v v' : Tree} (h : ValueEdit v v') :
    v'.isPresent = v.isPresent ∧ storeIn? v' = storeIn? v := by
  induction h with
  | wrap hpresent h =>
    refine ⟨(h.isPresent hpresent).trans hpresent.symm, ?_⟩
    unfold storeIn?
    rw [h.unwrapped]
  | @addMembers v front new behind text repaired hkind hchildren hnew =>
    refine ⟨rfl, ?_⟩
    have hwrapper : ∀ children, (v.rebuilt children text repaired).isWrapper = false := by
      intro children
      unfold isWrapper rebuilt
      simp [hkind]
    have hv : v.isWrapper = false := hwrapper v.children
    unfold storeIn?
    dsimp only
    rw [unwrapped_of_not_isWrapper (hwrapper _), unwrapped_of_not_isWrapper hv,
      find?_rebuilt hchildren hnew]
    rfl
  | @inside v inner inner' role rest text repaired hwrapper hchildren h ih =>
    refine ⟨rfl, ?_⟩
    have hinner :
        storeIn? (v.rebuilt ((role, inner') :: rest) text repaired) = storeIn? inner' := by
      have hunwrapped := unwrapped_of_isWrapper
        (t := v.rebuilt ((role, inner') :: rest) text repaired)
        hwrapper rfl
      unfold storeIn?
      rw [hunwrapped]
    rw [hinner, ih.2]
    unfold storeIn?
    rw [unwrapped_of_isWrapper hwrapper hchildren]

/-! ## Edited statements -/

/-- Another child in the place of the first one with its role. -/
theorem child?_replaced {front behind : List (Role × Tree)} {role : Role} {child : Tree}
    (child' : Tree) (hchildren : t.children = front ++ (role, child) :: behind)
    (hfirst : ∀ p ∈ front, p.1 ≠ role) (text : String) (repaired : Bool) :
    t.child? role = some child ∧
    (t.rebuilt (front ++ (role, child') :: behind) text repaired).child? role = some child' ∧
    ∀ other ≠ role,
      (t.rebuilt (front ++ (role, child') :: behind) text repaired).child? other =
        t.child? other := by
  have hnone : front.lookup role = none := by
    rw [List.lookup_eq_none_iff]
    exact fun p hp => bne_iff_ne.mpr (hfirst p hp).symm
  unfold child? rebuilt
  rw [hchildren]
  refine ⟨?_, ?_, fun other hother => ?_⟩
  · rw [List.lookup_append, hnone, List.lookup_cons_self, Option.none_or]
  · rw [List.lookup_append, hnone, List.lookup_cons_self, Option.none_or]
  · have hne : (other == role) = false := beq_eq_false_iff_ne.mpr hother
    rw [List.lookup_append, List.lookup_append, List.lookup_cons, List.lookup_cons, hne]

theorem DeclaratorEdit.preserves {t' : Tree} (h : DeclaratorEdit t t') :
    t'.declares configName = t.declares configName ∧
      ((t'.child? .value).filter isPresent).map storeIn? =
        ((t.child? .value).filter isPresent).map storeIn? := by
  obtain ⟨hchildren, hfirst, h⟩ := h
  rename_i v v' front behind text repaired
  obtain ⟨hvalue, hvalue', hother⟩ :=
    child?_replaced v' hchildren hfirst text repaired
  obtain ⟨hpresent, hstore⟩ := h.preserves
  refine ⟨?_, ?_⟩
  · unfold declares
    rw [hother .name (by decide)]
    rfl
  · rw [hvalue, hvalue', Option.filter_some, Option.filter_some, hpresent]
    split
    · rw [Option.map_some, Option.map_some, hstore]
    · rfl

theorem DeclarationEdit.offerIn? {d' : Tree} (h : DeclarationEdit d d') :
    d'.offerIn? = d.offerIn? := by
  obtain ⟨hchildren, h⟩ := h
  rename_i t t' role front behind text repaired
  obtain ⟨hdeclares, hvalue⟩ := h.preserves
  unfold Tree.offerIn? rebuilt
  rw [initialIn?_eq, initialIn?_eq, hchildren]
  dsimp only
  rw [List.find?_append, List.find?_append, List.find?_cons, List.find?_cons, hdeclares]
  cases front.find? fun p => p.2.declares configName with
  | some p => rfl
  | none =>
    cases t.declares configName with
    | true => exact hvalue
    | false => rfl

theorem StatementEdit.offer? {s s' : Tree} (h : StatementEdit s s') : s'.offer? = s.offer? := by
  cases h with
  | declaration hkind h =>
    have hkind' : s'.isDeclaration = true := by
      obtain ⟨_, _⟩ := h
      exact hkind
    rw [offer?_of_isDeclaration hkind, offer?_of_isDeclaration hkind', h.offerIn?]
  | @exported d d' front behind text repaired hkind hchildren hfirst hd h =>
    obtain ⟨hchild, hchild', -⟩ := child?_replaced d' hchildren hfirst text repaired
    have hd' : d'.isDeclaration = true := by
      obtain ⟨_, _⟩ := h
      exact hd
    have hexports : s.Exports d := ⟨hkind, hchild⟩
    have hexports' : (s.rebuilt (front ++ (.declaration, d') :: behind) text repaired).Exports d' :=
      ⟨hkind, hchild'⟩
    rw [hexports.offer? hd, hexports'.offer? hd', h.offerIn?]

/-! ## Edited files -/

theorem Edit.tokenStore? {file edited : Tree} (h : Edit file edited) :
    edited.tokenStore? = file.tokenStore? := by
  cases h with
  | @addStatements front new behind text repaired hchildren hnew =>
    have hnone : (new.findSome? fun p => p.2.offer?) = none := by
      rw [List.findSome?_eq_none_iff]
      exact fun p hp => (hnew p hp).offer?
    exact @tokenStore?_rebuilt file front [] new behind hchildren hnone text repaired
  | @exportDeclaration d e role role' front behind text repaired hchildren hd he =>
    have hoffers : [(role', e)].findSome? (fun p => p.2.offer?) =
        [(role, d)].findSome? fun p => p.2.offer? := by
      simp only [List.findSome?_singleton, he.offer? hd, offer?_of_isDeclaration hd]
    exact tokenStore?_rebuilt hchildren hoffers text repaired
  | @editStatement s s' role front behind text repaired hchildren h =>
    have hoffers : [(role, s')].findSome? (fun p => p.2.offer?) =
        [(role, s)].findSome? fun p => p.2.offer? := by
      simp only [List.findSome?_singleton, h.offer?]
    exact tokenStore?_rebuilt hchildren hoffers text repaired

/-- A file has the same token store after any number of edits: unrelated statements put in, the
declaration exported, its value wrapped, other members put into the object literal. -/
theorem tokenStore?_of_edits {file edited : Tree} (h : Relation.ReflTransGen Edit file edited) :
    edited.tokenStore? = file.tokenStore? := by
  induction h with
  | refl => rfl
  | tail _ hedit ih => rw [hedit.tokenStore?, ih]

/-! ## A config that grows

Texts that nothing is asked about are left out in these trees. -/

/-- A node of some kind with some children. -/
def branch (kind : Kind) (children : List (Role × Tree)) : Tree :=
  ⟨kind, "", children, false, false⟩

/-- A node without children. -/
def leaf (kind : Kind) (text : String) : Tree :=
  ⟨kind, text, [], false, false⟩

/-- A declaration of `config`. -/
def configOf (declared : List (Role × Tree)) : Tree :=
  branch .lexicalDeclaration
    [(.part, branch .declarator ((.name, leaf .identifier "config") :: declared))]

/-- The member `tokenStore: makeStore`. -/
def storeMember : Role × Tree :=
  (.part, branch .pair
    [(.key, leaf .propertyName "tokenStore"), (.value, leaf .identifier "makeStore")])

/-- The member `...tokenStore`. -/
def spreadMember : Role × Tree :=
  (.part, branch .other [(.part, leaf .identifier "tokenStore")])

/-- Statements without a say: text that could not be read, and `let config;`. -/
def asides : List (Role × Tree) :=
  [(.part, leaf .error "const = ;"), (.part, configOf [])]

/-- The file `const config = { tokenStore: makeStore };`. -/
def smallConfig : Tree :=
  branch .file [(.part, configOf [(.value, branch .object [storeMember])])]

/-- A file in which, behind the asides, stands
`export const config = { ...tokenStore, tokenStore: makeStore } as Settings;`. -/
def grownConfig : Tree :=
  branch .file (asides ++ [(.part, branch .exportStatement [(.declaration,
    configOf [(.value, branch .asType
      [(.part, branch .object [spreadMember, storeMember]), (.part, leaf .other "Settings")])])])])

theorem asides_unrelated : ∀ p ∈ asides, p.2.Unrelated := by
  intro p hp
  simp only [asides, List.mem_cons, List.not_mem_nil, or_false] at hp
  rcases hp with rfl | rfl
  · exact .error rfl
  · refine .declaration rfl fun declarator hmem _ value hvalue => ?_
    obtain rfl := List.mem_singleton.mp hmem
    cases hvalue

theorem not_isStoreProperty_spreadMember : ∀ p ∈ [spreadMember], ¬ p.2.IsStoreProperty := by
  intro p hp
  obtain rfl := List.mem_singleton.mp hp
  rintro (⟨hkind, -, -⟩ | ⟨hkind, -⟩)
  · cases hkind
  · cases hkind

/-- The value of the only declaration behind the asides is edited. -/
theorem edit_configOf {v v' : Tree} (h : ValueEdit v v') :
    Edit (branch .file (asides ++ [(.part, configOf [(.value, v)])]))
      (branch .file (asides ++ [(.part, configOf [(.value, v')])])) := by
  have hdeclarator : DeclaratorEdit
      (branch .declarator [(.name, leaf .identifier "config"), (.value, v)])
      (branch .declarator [(.name, leaf .identifier "config"), (.value, v')]) :=
    @DeclaratorEdit.value _ v v' [(.name, leaf .identifier "config")] [] _ _ rfl (by simp) h
  have hdeclaration : DeclarationEdit (configOf [(.value, v)]) (configOf [(.value, v')]) :=
    @DeclarationEdit.declarator _ _ _ _ [] [] _ _ rfl hdeclarator
  exact .editStatement rfl (.declaration rfl hdeclaration)

/-- The small config grows by four edits, and keeps its token store. -/
theorem tokenStore?_of_grownConfig :
    Relation.ReflTransGen Edit smallConfig grownConfig ∧
      grownConfig.tokenStore? = some (.call (.ident "makeStore") [] []) := by
  let object (members : List (Role × Tree)) : Tree := branch .object members
  let cast (v : Tree) : Tree := branch .asType [(.part, v), (.part, leaf .other "Settings")]
  have hasides : Edit smallConfig
      (branch .file (asides ++ [(.part, configOf [(.value, object [storeMember])])])) :=
    @Edit.addStatements _ [] asides _ _ _ rfl asides_unrelated
  have hwrapped : ValueEdit (object [storeMember]) (cast (object [storeMember])) :=
    .wrap rfl (.wrapper rfl rfl rfl .value)
  have hspread : ValueEdit (cast (object [storeMember]))
      (cast (object [spreadMember, storeMember])) :=
    .inside rfl rfl
      (@ValueEdit.addMembers _ [] [spreadMember] _ _ _ rfl rfl not_isStoreProperty_spreadMember)
  have hexport : Edit
      (branch .file
        (asides ++ [(.part, configOf [(.value, cast (object [spreadMember, storeMember]))])]))
      grownConfig :=
    .exportDeclaration rfl rfl ⟨rfl, rfl⟩
  have hgrown : Relation.ReflTransGen Edit smallConfig grownConfig :=
    .head hasides (.head (edit_configOf hwrapped) (.head (edit_configOf hspread) (.single hexport)))
  have hstore : storeIn? (object [storeMember]) = some (.call (.ident "makeStore") [] []) := by
    unfold storeIn?
    rw [unwrapped_of_not_isWrapper rfl]
    rfl
  refine ⟨hgrown, ?_⟩
  rw [tokenStore?_of_edits hgrown, tokenStore?_eq_join]
  exact hstore

end Tree

end TypedLayouts.TypeScript
