/-
# The template store

Overrides are kept under a kind and, when they are for one theme only, the
theme's name in lower case.  A lookup prefers the override for the theme, then
the one for the kind, then the built-in template; it never fails.
-/

import CanvasPress.Template.Builtin

namespace CanvasPress.Template

/-- What an override is registered under. -/
structure Key where
  kind : Kind
  /-- In lower case; `none` stands for every theme. -/
  theme : Option String
deriving DecidableEq

/-- The key for a kind and a theme as people write it. -/
def Key.of (kind : Kind) (theme : Option String) : Key :=
  ⟨kind, theme.map Text.lowerAscii⟩

/-- A store of template overrides, each key once. -/
structure Store where
  overrides : List (Key × String)
deriving DecidableEq

namespace Store

/-- The store without overrides. -/
def empty : Store :=
  ⟨[]⟩

/-- Replace the value under a key, or add it. -/
def put (key : Key) (template : String) : List (Key × String) → List (Key × String)
  | [] => [(key, template)]
  | (k, t) :: rest =>
    if k = key then (key, template) :: rest else (k, t) :: put key template rest

/-- Register an override for a kind, and for one theme only if one is given. -/
def register (kind : Kind) (theme : Option String) (template : String) (store : Store) : Store :=
  ⟨put (.of kind theme) template store.overrides⟩

/-- The override under a key. -/
def override? (store : Store) (key : Key) : Option String :=
  (store.overrides.find? fun o => o.1 = key).map (·.2)

/-- The template of a kind in a theme. -/
def get (store : Store) (kind : Kind) (theme : String) : String :=
  match store.override? (.of kind (some theme)) with
  | some template => template
  | none =>
    match store.override? (.of kind none) with
    | some template => template
    | none => builtin kind (Theme.ofName theme)

/-- The template of the kind with a name; unknown names mean the fallback kind. -/
def getByName (store : Store) (name theme : String) : String :=
  store.get (Kind.ofName name) theme

/-- The number of overrides. -/
def size (store : Store) : Nat :=
  store.overrides.length

end Store

end CanvasPress.Template
