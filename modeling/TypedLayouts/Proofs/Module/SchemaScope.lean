import TypedLayouts.Proofs.Module.Backends
import TypedLayouts.Proofs.TypeScript.Scope

/-!
# Scopes of schema modules

A schema module is closed: the validators of fields and value lists use the validator package alone,
types use nothing at all, and the table of portals uses the declarations of the portals, which stand
in front of it. The names that a module declares hold no dot, so they are looked up as they stand.
-/

namespace TypedLayouts.Module

open TypeScript Layout

/-! ## Built names are looked up as they stand -/

/-- No fragment holds a dot. -/
theorem dot_not_mem_fragment (name : String) : '.' ∉ (Identifier.fragment name).toList := by
  unfold Identifier.fragment
  rw [String.toList_ofList]
  intro h
  have hinner := (List.mem_filter.mp h).2
  revert hinner
  decide

/-- Joined texts hold no dot when their parts hold none. -/
theorem dot_not_mem_append {s t : String} (hs : '.' ∉ s.toList) (ht : '.' ∉ t.toList) :
    '.' ∉ (s ++ t).toList := by
  rw [String.toList_append, List.mem_append]
  rintro (h | h)
  · exact hs h
  · exact ht h

/-- No name of a type of records holds a dot. -/
theorem dot_not_mem_typeName (name : String) : '.' ∉ (typeName name).toList :=
  dot_not_mem_append (by decide) (dot_not_mem_fragment name)

/-- No name of a validator of records holds a dot. -/
theorem dot_not_mem_validatorName (name : String) : '.' ∉ (validatorName name).toList :=
  dot_not_mem_append (by decide) (dot_not_mem_fragment name)

/-- No name of a type of portals holds a dot. -/
theorem dot_not_mem_portalsTypeName (name : String) : '.' ∉ (portalsTypeName name).toList :=
  dot_not_mem_append (dot_not_mem_typeName name) (by decide)

/-- No name of a validator of portals holds a dot. -/
theorem dot_not_mem_portalsValidatorName (name : String) :
    '.' ∉ (portalsValidatorName name).toList :=
  dot_not_mem_append (dot_not_mem_validatorName name) (by decide)

/-! ## What the parts of a schema module use -/

/-- A call of the validator package uses its name and what the arguments use. -/
theorem names_zod (name : String) (arguments : List Expr) (hidden : List String) :
    (zod name arguments).names hidden = "z" :: Expr.namesAll hidden arguments := by
  unfold zod Expr.method
  rw [Expr.names, Expr.names, Expr.names, firstSegment_eq_self (by decide)]
  rfl

/-- String literals use no names. -/
theorem namesAll_strings (values : List String) (hidden : List String) :
    Expr.namesAll hidden (values.map Expr.string) = [] := by
  induction values with
  | nil => rfl
  | cons value values ih =>
    rw [List.map_cons, Expr.namesAll, ih]
    rfl

/-- Types of one string use no names. -/
theorem namesAll_literals (values : List String) :
    TypeExpr.namesAll (values.map TypeExpr.literal) = [] := by
  induction values with
  | nil => rfl
  | cons value values ih =>
    rw [List.map_cons, TypeExpr.namesAll, ih]
    rfl

/-- The validator of listed texts uses the validator package alone. -/
theorem names_choiceValidator (values : List String) :
    (choiceValidator values).names [] = ["z"] := by
  unfold choiceValidator
  rw [names_zod, Expr.namesAll, Expr.names, namesAll_strings]
  rfl

/-- The type of listed texts uses no names. -/
theorem names_choiceType (values : List String) : (choiceType values).names = [] := by
  unfold choiceType
  rw [TypeExpr.names, namesAll_literals]

/-- The validator of a field uses the validator package alone. -/
theorem mem_names_fieldValidator {strictNumbers : Bool} {kind : FieldKind} {name : String}
    (h : name ∈ (fieldValidator strictNumbers kind).names []) : name = "z" := by
  have htext : ∀ n ∈ (zod "string" []).names [], n = "z" := by decide
  have hall : ∀ n ∈ (fieldValidator strictNumbers kind).names [], n = "z" := by
    cases kind with
    | text => exact htext
    | number =>
      cases strictNumbers with
      | true => decide
      | false => decide
    | choice values =>
      cases values with
      | nil => exact htext
      | cons value values =>
        show ∀ n ∈ (choiceValidator (value :: values)).names [], n = "z"
        rw [names_choiceValidator]
        decide
  exact hall name h

/-- The type of a field uses no names. -/
theorem names_fieldType (strictNumbers : Bool) (kind : FieldKind) :
    (fieldType strictNumbers kind).names = [] := by
  cases kind with
  | text => rfl
  | number =>
    cases strictNumbers with
    | true => rfl
    | false => rfl
  | choice values =>
    cases values with
    | nil => rfl
    | cons value values => exact names_choiceType (value :: values)

/-- The properties of an object literal use what those values use whose keys are not hidden. -/
theorem mem_namesProperties {properties : List (String × Expr)} {hidden : List String}
    {name : String} (h : name ∈ Expr.namesProperties hidden properties) :
    ∃ p ∈ properties, p.1 ∉ hidden ∧ name ∈ p.2.names hidden := by
  induction properties with
  | nil => exact absurd h List.not_mem_nil
  | cons p properties ih =>
    obtain ⟨key, e⟩ := p
    rw [Expr.namesProperties] at h
    rcases List.mem_append.mp h with h | h
    · split at h
      · exact absurd h List.not_mem_nil
      · rename_i hkey
        exact ⟨(key, e), List.mem_cons_self, hkey, h⟩
    · obtain ⟨p, hp, hn⟩ := ih h
      exact ⟨p, List.mem_cons_of_mem _ hp, hn⟩

/-- The members of an object type use what their types use. -/
theorem mem_namesMembers {members : List (String × TypeExpr)} {name : String}
    (h : name ∈ TypeExpr.namesMembers members) : ∃ m ∈ members, name ∈ m.2.names := by
  induction members with
  | nil => exact absurd h List.not_mem_nil
  | cons m members ih =>
    obtain ⟨key, t⟩ := m
    rw [TypeExpr.namesMembers] at h
    rcases List.mem_append.mp h with h | h
    · exact ⟨(key, t), List.mem_cons_self, h⟩
    · obtain ⟨m, hm, hn⟩ := ih h
      exact ⟨m, List.mem_cons_of_mem _ hm, hn⟩

/-- The validator of an object uses the validator package and what the values use. -/
theorem mem_names_object {properties : List (String × Expr)} {name : String}
    (h : name ∈ (zod "object" [.object true properties]).names []) :
    name = "z" ∨ ∃ p ∈ properties, name ∈ p.2.names [] := by
  rw [names_zod, Expr.namesAll, Expr.names, Expr.namesAll, List.append_nil] at h
  rcases List.mem_cons.mp h with h | h
  · exact .inl h
  · obtain ⟨p, hp, _, hn⟩ := mem_namesProperties h
    exact .inr ⟨p, hp, hn⟩

namespace Blueprint

variable {b : Blueprint}

/-- The validator of records uses the validator package alone. -/
theorem names_recordValidator {name : String} {schema : Schema} {n : String}
    (h : n ∈ (b.recordDeclaration name schema).validator.names []) : n = "z" := by
  rcases mem_names_object h with h | ⟨p, hp, hn⟩
  · exact h
  · obtain ⟨entry, _, rfl⟩ := List.mem_map.mp hp
    exact mem_names_fieldValidator hn

/-- The type of records uses no names. -/
theorem names_recordType {name : String} {schema : Schema} {n : String}
    (h : n ∈ (b.recordDeclaration name schema).type.names) : False := by
  obtain ⟨m, hm, hn⟩ := mem_namesMembers h
  obtain ⟨entry, _, rfl⟩ := List.mem_map.mp hm
  rw [names_fieldType] at hn
  exact List.not_mem_nil hn

/-- The validator of the table of portals uses the validator package and those of the portals. -/
theorem names_portalsValidator {n : String} (h : n ∈ b.portalsDeclaration.validator.names []) :
    n = "z" ∨ ∃ portal ∈ b.schemas.portals, n = validatorName portal.name := by
  rcases mem_names_object h with h | ⟨p, hp, hn⟩
  · exact .inl h
  · obtain ⟨portal, hportal, rfl⟩ := List.mem_map.mp hp
    rw [names_zod, Expr.namesAll, Expr.names, Expr.namesAll,
      firstSegment_eq_self (dot_not_mem_validatorName portal.name)] at hn
    rcases List.mem_cons.mp hn with hn | hn
    · exact .inl hn
    · exact .inr ⟨portal, hportal, List.mem_singleton.mp hn⟩

/-- The type of the table of portals uses the types of the portals. -/
theorem names_portalsType {n : String} (h : n ∈ b.portalsDeclaration.type.names) :
    ∃ portal ∈ b.schemas.portals, n = typeName portal.name := by
  obtain ⟨m, hm, hn⟩ := mem_namesMembers h
  obtain ⟨portal, hportal, rfl⟩ := List.mem_map.mp hm
  rw [TypeExpr.names, TypeExpr.names, TypeExpr.namesAll,
    firstSegment_eq_self (dot_not_mem_typeName portal.name)] at hn
  exact ⟨portal, hportal, List.mem_singleton.mp hn⟩

end Blueprint

/-! ## The schema module is closed -/

namespace Declaration

/-- A validator and its type are in scope where the validator package and everything that the
validator uses are known. -/
theorem scoped_withValidator {d : Declaration} {known : List String} (hz : "z" ∈ known)
    (hn : ∀ n ∈ d.validator.names [], n ∈ known) (hd : '.' ∉ d.constant.toList) :
    Scoped known d.withValidator := by
  refine ⟨hn, ?_, trivial⟩
  intro n h
  have hnames : (TypeExpr.reference "z.infer" [.typeOf d.constant]).names = ["z", d.constant] := by
    have hinfer : firstSegment "z.infer" = "z" := by decide
    rw [TypeExpr.names, TypeExpr.namesAll, TypeExpr.names, TypeExpr.namesAll, hinfer,
      firstSegment_eq_self hd]
    rfl
  have hmem : n ∈ ["z", d.constant] := hnames ▸ h
  rcases List.mem_cons.mp hmem with rfl | hmem
  · exact List.mem_append_left _ hz
  · rw [List.mem_singleton.mp hmem]
    exact List.mem_append_right _ List.mem_cons_self

/-- A type is in scope where everything that it uses is known. -/
theorem scoped_typeAlone {d : Declaration} {known : List String}
    (hn : ∀ n ∈ d.type.names, n ∈ known) : Scoped known [d.typeAlone] :=
  ⟨hn, trivial⟩

/-- The validators of declarations are known behind them. -/
theorem constant_mem_declares {d : Declaration} {ds : List Declaration} (h : d ∈ ds) :
    d.constant ∈ (ds.flatMap withValidator).flatMap Statement.declares := by
  refine List.mem_flatMap.mpr ⟨.exportConst d.constant d.validator, ?_, List.mem_cons_self⟩
  exact List.mem_flatMap.mpr ⟨d, h, List.mem_cons_self⟩

/-- The types of declarations are known behind them. -/
theorem name_mem_declares {d : Declaration} {ds : List Declaration} (h : d ∈ ds) :
    d.name ∈ (ds.flatMap fun d => [d.typeAlone]).flatMap Statement.declares := by
  refine List.mem_flatMap.mpr ⟨d.typeAlone, ?_, List.mem_cons_self⟩
  exact List.mem_flatMap.mpr ⟨d, h, List.mem_cons_self⟩

end Declaration

namespace Blueprint

variable (b : Blueprint)

/-- The records of a portal are among those declared. -/
theorem portal_mem_recordDeclarations {portal : Portal} (h : portal ∈ b.schemas.portals) :
    b.recordDeclaration portal.name portal.schema ∈ b.recordDeclarations :=
  List.mem_cons_of_mem _ (List.mem_map_of_mem h)

/-- Declarations are in scope, however they are written, when the records and the value lists need
nothing of one another and the table of portals needs the records alone. -/
theorem scoped_declarations {known : List String} {write : Declaration → List Statement}
    (hrecord : ∀ name schema, Scoped known (write (b.recordDeclaration name schema)))
    (htable : Scoped (known ++ (b.recordDeclarations.flatMap write).flatMap Statement.declares)
      (write b.portalsDeclaration))
    (hlist : ∀ list, Scoped known (write (listDeclaration list))) :
    Scoped known (b.declarations.flatMap write) := by
  have hrecords : Scoped known (b.recordDeclarations.flatMap write) := by
    refine Scoped.flatMap fun d hd => ?_
    obtain ⟨name, schema, rfl⟩ := b.exists_of_mem_recordDeclarations hd
    exact hrecord name schema
  have htables : Scoped
      (known ++ (b.recordDeclarations.flatMap write).flatMap Statement.declares)
      ((if b.hasPortals then [b.portalsDeclaration] else []).flatMap write) := by
    refine Scoped.flatMap fun d hd => ?_
    split at hd
    · rw [List.mem_singleton.mp hd]
      exact htable
    · exact absurd hd List.not_mem_nil
  have hlists : Scoped known
      (((declaredLists b.schemas.valueLists).map listDeclaration).flatMap write) := by
    refine Scoped.flatMap fun d hd => ?_
    obtain ⟨list, _, rfl⟩ := List.mem_map.mp hd
    exact hlist list
  unfold declarations
  rw [List.flatMap_append, List.flatMap_append]
  refine .append (.append hrecords htables) (hlists.mono ?_)
  exact List.subset_append_left _ _

/-- In the module with validators every name is declared in front of its use. -/
theorem validatorModule_closed (hv : b.backend = .validator) : b.validatorModule.Closed := by
  apply Scoped.closed
  rw [validatorModule_body b hv]
  refine ⟨fun n hn => absurd hn List.not_mem_nil, ?_⟩
  show Scoped ["z"] (b.declarations.flatMap Declaration.withValidator)
  refine b.scoped_declarations ?record ?table ?list
  case record =>
    intro name schema
    refine Declaration.scoped_withValidator List.mem_cons_self ?_ (dot_not_mem_validatorName name)
    intro n hn
    rw [names_recordValidator hn]
    exact List.mem_cons_self
  case table =>
    refine Declaration.scoped_withValidator List.mem_cons_self ?_
      (dot_not_mem_portalsValidatorName b.name)
    intro n hn
    rcases names_portalsValidator hn with rfl | ⟨portal, hportal, rfl⟩
    · exact List.mem_cons_self
    · exact List.mem_append_right _
        (Declaration.constant_mem_declares (b.portal_mem_recordDeclarations hportal))
  case list =>
    intro list
    refine Declaration.scoped_withValidator List.mem_cons_self ?_
      (dot_not_mem_append (by decide) (dot_not_mem_fragment list.name))
    intro n hn
    have hmem : n ∈ ["z"] := names_choiceValidator list.values ▸ hn
    exact hmem

/-- In the module with types alone every name is declared in front of its use. -/
theorem typesModule_closed : b.typesModule.Closed := by
  apply Scoped.closed
  rw [typesModule_body, List.map_eq_flatMap]
  refine b.scoped_declarations ?record ?table ?list
  case record =>
    intro name schema
    exact Declaration.scoped_typeAlone fun n hn => (names_recordType hn).elim
  case table =>
    refine Declaration.scoped_typeAlone fun n hn => ?_
    obtain ⟨portal, hportal, rfl⟩ := names_portalsType hn
    exact Declaration.name_mem_declares (b.portal_mem_recordDeclarations hportal)
  case list =>
    intro list
    refine Declaration.scoped_typeAlone fun n hn => ?_
    have hmem : n ∈ ([] : List String) := names_choiceType list.values ▸ hn
    exact hmem

/-- In a schema module every name is declared in front of its use. -/
theorem schemaModule_closed : b.schemaModule.Closed := by
  unfold schemaModule
  cases hbackend : b.backend with
  | validator => exact b.validatorModule_closed hbackend
  | typesOnly => exact b.typesModule_closed

end Blueprint

end TypedLayouts.Module
