import TypedLayouts.Text.Shown

/-!
# Failed fetches

Fetching the metadata of a layout fails in two ways that are treated differently: a layout that does
not exist is passed over, and any other problem ends the run.
-/

namespace TypedLayouts.Layout

/-- Why there is no metadata of a layout, with causes of type `ε`. -/
inductive FetchError (ε : Type) where
  /-- There is no layout of that name. -/
  | notFound (layout : String)
  /-- Something else went wrong. -/
  | failed (layout : String) (cause : ε)
  deriving DecidableEq, Repr

/-- The wording of a failed fetch. -/
def FetchError.message {ε : Type} : FetchError ε → String
  | .notFound layout => "layout " ++ Text.shown layout ++ " not found"
  | .failed layout _ => "failed to fetch metadata for layout " ++ Text.shown layout

/-- The wording of a failed fetch and of what lies beneath it. -/
def FetchError.causes {ε : Type} (beneath : ε → List String) (e : FetchError ε) : List String :=
  match e with
  | .notFound _ => [e.message]
  | .failed _ cause => e.message :: beneath cause

end TypedLayouts.Layout
