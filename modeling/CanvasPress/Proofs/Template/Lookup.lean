/-
# Looking up templates

A store comes about by loading a directory, or empty, and then by registering.  Whatever its
history, a lookup is answered by the history alone: by what was loaded or registered last for
the kind in the theme, else by what was loaded or registered last for the kind in every
theme, else by the built-in template in the palette that the theme names.  Names of themes and
kinds count up to the case of ASCII letters on every level.
-/

import CanvasPress.Proofs.Template.Loading

namespace CanvasPress

open Template Text

/-! ## Names -/

/-- A palette is the one that a name stands for; names of no palette stand for the
professional one. -/
def Theme.StandsFor (palette : Theme) (name : String) : Prop :=
  (palette ∈ Theme.all ∧ SameUpToCase palette.name name) ∨
    (palette = professional ∧ ∀ other ∈ Theme.all, ¬ SameUpToCase other.name name)

theorem Theme.eq_of_sameUpToCase {palette other : Theme} (hpalette : palette ∈ all)
    (hother : other ∈ all) (h : SameUpToCase palette.name other.name) : palette = other := by
  have hall : ∀ palette ∈ all, ∀ other ∈ all, SameUpToCase palette.name other.name →
      palette = other := by
    decide +kernel
  exact hall palette hpalette other hother h

/-- Every name stands for one palette. -/
theorem Theme.standsFor_iff {palette : Theme} {name : String} :
    palette.StandsFor name ↔ palette = ofName name := by
  rw [StandsFor, ofName]
  cases hfind : all.find? fun theme => sameAscii theme.name name with
  | none =>
      have hnone : ∀ other ∈ all, ¬ SameUpToCase other.name name := by
        intro other hother hsame
        exact List.find?_eq_none.1 hfind other hother (sameAscii_iff.2 hsame)
      constructor
      · rintro (⟨hmem, hsame⟩ | ⟨rfl, -⟩)
        · exact absurd hsame (hnone palette hmem)
        · rfl
      · rintro rfl
        exact .inr ⟨rfl, hnone⟩
  | some theme =>
      have hmem := List.mem_of_find?_eq_some hfind
      have hsame : SameUpToCase theme.name name :=
        sameAscii_iff.1 (by simpa using List.find?_some hfind)
      constructor
      · rintro (⟨hpalette, hown⟩ | ⟨-, hnone⟩)
        · exact eq_of_sameUpToCase hpalette hmem (hown.trans hsame.symm)
        · exact absurd hsame (hnone theme hmem)
      · rintro rfl
        exact .inl ⟨hmem, hsame⟩

theorem Theme.ofName_eq_of_sameUpToCase {name name' : String} (h : SameUpToCase name name') :
    ofName name = ofName name' := by
  rw [ofName, ofName]
  simp only [sameAscii, lowerAscii_eq_iff.2 h]

theorem Kind.ofName_eq_of_sameUpToCase {kind : Kind} {name : String}
    (h : SameUpToCase kind.name name) : ofName name = kind := by
  rw [ofName, ofName?_eq_some_iff.2 h, Option.getD_some]

theorem Kind.ofName_eq_fallback {name : String} (h : ∀ kind : Kind, ¬ SameUpToCase kind.name name) :
    ofName name = fallback := by
  have hnone : ofName? name = none := by
    rw [Option.eq_none_iff_forall_ne_some]
    exact fun kind hkind => h kind (ofName?_eq_some_iff.1 hkind)
  rw [ofName, hnone, Option.getD_none]

namespace Template.Store

variable {store : Store} {history : List Registration}

/-! ## Lookups and single registrations -/

theorem get_eq_of_sameUpToCase {theme theme' : String} (h : SameUpToCase theme theme')
    (store : Store) (kind : Kind) : store.get kind theme = store.get kind theme' := by
  have hkey : Key.of kind (some theme) = Key.of kind (some theme') := by
    rw [Key.of, Option.map_some, lowerAscii_eq_iff.2 h]
    rfl
  rw [get, get, hkey, Theme.ofName_eq_of_sameUpToCase h]

/-- A registration for something else does not change a lookup. -/
theorem get_add_of_apart {r : Registration} {kind : Kind} {theme : String}
    (hfor : ¬ r.IsFor kind theme) (hall : ¬ r.IsForAll kind) :
    (store.add r).get kind theme = store.get kind theme := by
  rw [get, get, override?_add, override?_add, if_neg (mt Registration.key_eq_some_iff.1 hfor),
    if_neg (mt Registration.key_eq_none_iff.1 hall)]

/-! ## Lookups and histories -/

/-- How a store comes about: empty or from a directory, and then by registering.  The history
has what was loaded and what was registered, oldest first. -/
inductive Arises : List Registration → Store → Prop where
  | new : Arises [] empty
  | loaded {entries : List (FileName × FileContent)} {history : List Registration}
    {store : Store} : Offered entries history → load (.found entries) = .ok store →
    Arises history store
  | registered {history : List Registration} {store : Store} (kind : Kind)
    (theme : Option String) (template : String) : Arises history store →
    Arises (history ++ [⟨kind, theme, template⟩]) (store.register kind theme template)

theorem Arises.reflects (h : Arises history store) : store.Reflects history := by
  induction h with
  | new => exact reflects_empty
  | loaded hoffered hload =>
      rw [load_of_offered hoffered] at hload
      cases hload
      exact reflects_registerAll _
  | registered kind theme template _ ih => exact ih.add ⟨kind, theme, template⟩

/-- A store answers as its history says. -/
structure Follows (store : Store) (history : List Registration) : Prop where
  /-- What came last for the kind in the theme is found, -/
  themed : ∀ kind theme r, IsLast (·.IsFor kind theme) history r →
    store.get kind theme = r.template
  /-- else what came last for the kind in every theme, -/
  general : ∀ kind theme, (∀ r ∈ history, ¬ r.IsFor kind theme) →
    ∀ r, IsLast (·.IsForAll kind) history r → store.get kind theme = r.template
  /-- else the built-in template. -/
  builtin : ∀ kind theme, (∀ r ∈ history, ¬ r.IsFor kind theme ∧ ¬ r.IsForAll kind) →
    ∃ palette : Theme, palette.StandsFor theme ∧ store.get kind theme = builtin kind palette
  caseless : ∀ kind theme theme', SameUpToCase theme theme' →
    store.get kind theme = store.get kind theme'
  size_eq : store.size = (history.map Registration.key).toFinset.card
  /-- A registration does not show in templates of other kinds, -/
  otherKind : ∀ kind kind' theme? template theme, kind ≠ kind' →
    (store.register kind theme? template).get kind' theme = store.get kind' theme
  /-- nor does one for a theme show in other themes. -/
  otherTheme : ∀ kind name template theme, ¬ SameUpToCase name theme →
    (store.register kind (some name) template).get kind theme = store.get kind theme
  /-- A kind may be given by its name; a name that no kind has means the business model. -/
  named : ∀ kind name theme, SameUpToCase (Kind.name kind) name →
    store.getByName name theme = store.get kind theme
  unnamed : ∀ name theme, (∀ kind : Kind, ¬ SameUpToCase kind.name name) →
    store.getByName name theme = store.get .businessModel theme

/-- **Lookups follow registrations.**  However a store came about, what a lookup finds, and
how many overrides there are, is determined by what was loaded and registered. -/
theorem lookups_follow_registrations (h : Arises history store) : store.Follows history where
  themed _ _ _ hlast := h.reflects.get_of_isFor hlast
  general _ _ hnone _ hlast := h.reflects.get_of_isForAll hnone hlast
  builtin _ theme hnone :=
    ⟨Theme.ofName theme, Theme.standsFor_iff.2 rfl, h.reflects.get_of_nothing hnone⟩
  caseless kind _ _ hsame := get_eq_of_sameUpToCase hsame store kind
  size_eq := h.reflects.size_eq
  otherKind kind _ theme? template _ hne :=
    get_add_of_apart (r := ⟨kind, theme?, template⟩) (fun hfor => hne hfor.1)
      fun hall => hne hall.1
  otherTheme kind name template theme hne := by
    refine get_add_of_apart (r := ⟨kind, some name, template⟩) ?_ ?_
    · rintro ⟨-, own, hown, hsame⟩
      cases hown
      exact hne hsame
    · rintro ⟨-, hown⟩
      cases hown
  named kind name theme hsame := by rw [getByName, Kind.ofName_eq_of_sameUpToCase hsame]
  unnamed name theme hnone := by
    rw [getByName, Kind.ofName_eq_fallback hnone]
    rfl

/-- Two themes that differ in the case of a letter outside ASCII, one loaded and one
registered, beside a template for every theme. -/
theorem lookups_follow_registrations_after_loading :
    let entries : List (FileName × FileContent) :=
      [(.ofText "businessModel_Été.svg", .bytes "<a/>".toUTF8.data.toList),
        (.ofText "notes.txt", .bytes [])]
    let history : List Registration :=
      [⟨.businessModel, some "Été", "<a/>"⟩, ⟨.businessModel, none, "<b/>"⟩,
        ⟨.businessModel, some "ÉTÉ", "<c/>"⟩]
    ∃ loaded, load (.found entries) = .ok loaded ∧
      let store := (loaded.register .businessModel none "<b/>").register .businessModel
        (some "ÉTÉ") "<c/>"
      Arises history store ∧ store.size = 3 ∧ store.get .businessModel "ÉTé" = "<a/>" ∧
        store.getByName "Lean" "modern" = "<b/>" := by
  intro entries history
  have hoffered : Offered entries [⟨.businessModel, some "Été", "<a/>"⟩] :=
    offered_iff.2 (by decide +kernel)
  have harises : Arises history _ :=
    ((Arises.loaded hoffered (load_of_offered hoffered)).registered .businessModel none
      "<b/>").registered .businessModel (some "ÉTÉ") "<c/>"
  have hfollows := lookups_follow_registrations harises
  refine ⟨_, load_of_offered hoffered, harises, hfollows.size_eq.trans (by decide +kernel), ?_, ?_⟩
  · exact hfollows.themed .businessModel "ÉTé" ⟨.businessModel, some "Été", "<a/>"⟩
      ⟨[], _, rfl, by decide, by decide⟩
  · have hkind : ∀ kind : Kind, ¬ SameUpToCase kind.name "Lean" := by
      intro kind
      cases kind <;> decide
    rw [hfollows.unnamed "Lean" "modern" hkind]
    exact hfollows.general .businessModel "modern" (by decide) ⟨.businessModel, none, "<b/>"⟩
      ⟨[⟨.businessModel, some "Été", "<a/>"⟩], _, rfl, by decide, by decide⟩

end Template.Store

end CanvasPress
