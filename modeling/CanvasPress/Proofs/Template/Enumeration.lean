/-
# The order of a directory

The system may list the entries of a directory in any order, and loading takes them as they
come.  Names of different files may come down to the same kind and theme, because case does
not count, and then the one that is listed last wins.  So the order matters for a kind and a
theme just if the entries that decide what is found for them do not all hold the same text;
the number of overrides never depends on it.
-/

import CanvasPress.Proofs.Template.Loading

namespace CanvasPress.Template

open Text

variable {entries order : List (FileName × FileContent)} {kind : Kind} {theme : String}
  {r r' : Registration}

/-! ## Which entries decide -/

/-- What decides the template of a kind in a theme: all that is offered for the kind in the
theme or, if that is nothing, all that is offered for the kind in every theme. -/
def Decides (entries : List (FileName × FileContent)) (kind : Kind) (theme : String)
    (r : Registration) : Prop :=
  (∃ entry ∈ entries, Offers entry r) ∧
    (r.IsFor kind theme ∨ (r.IsForAll kind ∧
      ∀ entry ∈ entries, ∀ other, Offers entry other → ¬ other.IsFor kind theme))

theorem mem_offers_iff : r ∈ entries.filterMap offer? ↔ ∃ entry ∈ entries, Offers entry r := by
  simp only [List.mem_filterMap, offer?_eq_some_iff]

/-- The order of the entries has no part in it. -/
theorem decides_iff_of_perm (h : order.Perm entries) :
    Decides order kind theme r ↔ Decides entries kind theme r := by
  simp only [Decides, h.mem_iff]

/-- All that decides is offered under one key. -/
theorem Decides.key_eq (h : Decides entries kind theme r) (h' : Decides entries kind theme r') :
    r.key = r'.key := by
  obtain ⟨⟨entry, hmem, hoffer⟩, hr⟩ := h
  obtain ⟨⟨entry', hmem', hoffer'⟩, hr'⟩ := h'
  rcases hr with hfor | ⟨hall, hnone⟩
  · rcases hr' with hfor' | ⟨-, hnone'⟩
    · rw [Registration.key_eq_some_iff.2 hfor, Registration.key_eq_some_iff.2 hfor']
    · exact absurd hfor (hnone' entry hmem r hoffer)
  · rcases hr' with hfor' | ⟨hall', -⟩
    · exact absurd hfor' (hnone entry' hmem' r' hoffer')
    · rw [Registration.key_eq_none_iff.2 hall, Registration.key_eq_none_iff.2 hall']

namespace Store

/-- The last of what decides is found. -/
theorem get_of_isLast_decides
    (h : IsLast (Decides entries kind theme) (entries.filterMap offer?) r) :
    (ofEntries entries).get kind theme = r.template := by
  have hreflects := reflects_ofEntries entries
  rcases h.holds.2 with hfor | ⟨hall, hnone⟩
  · obtain ⟨entry, hmem, hoffer⟩ := h.holds.1
    refine hreflects.get_of_isFor (h.congr fun other hother => ⟨?_, fun hown => ?_⟩)
    · rintro ⟨-, hown | ⟨-, hnone⟩⟩
      · exact hown
      · exact absurd hfor (hnone entry hmem r hoffer)
    · exact ⟨mem_offers_iff.1 hother, .inl hown⟩
  · have hnothing : ∀ other ∈ entries.filterMap offer?, ¬ other.IsFor kind theme := by
      intro other hother
      obtain ⟨entry, hmem, hoffer⟩ := mem_offers_iff.1 hother
      exact hnone entry hmem other hoffer
    refine hreflects.get_of_isForAll hnothing (h.congr fun other hother => ⟨?_, fun hown => ?_⟩)
    · rintro ⟨-, hfor | ⟨hown, -⟩⟩
      · exact absurd hfor (hnothing other hother)
      · exact hown
    · exact ⟨mem_offers_iff.1 hother, .inr ⟨hown, hnone⟩⟩

theorem get_of_not_decides (h : ∀ r, ¬ Decides entries kind theme r) :
    (ofEntries entries).get kind theme = builtin kind (Theme.ofName theme) := by
  have hreflects := reflects_ofEntries entries
  have hfor : ∀ r ∈ entries.filterMap offer?, ¬ r.IsFor kind theme :=
    fun r hr hown => h r ⟨mem_offers_iff.1 hr, .inl hown⟩
  refine hreflects.get_of_nothing fun r hr => ⟨hfor r hr, fun hall => ?_⟩
  refine h r ⟨mem_offers_iff.1 hr, .inr ⟨hall, fun entry hentry other hoffer => ?_⟩⟩
  exact hfor other (mem_offers_iff.2 ⟨entry, hentry, hoffer⟩)

/-- What is found is something that decides, if there is any. -/
theorem get_of_decides (h : Decides entries kind theme r) :
    ∃ last, Decides entries kind theme last ∧
      (ofEntries entries).get kind theme = last.template := by
  obtain ⟨last, hlast⟩ := exists_isLast (mem_offers_iff.2 h.1) h
  exact ⟨last, hlast.holds, get_of_isLast_decides hlast⟩

/-! ## Other orders -/

theorem size_ofEntries_of_perm (h : order.Perm entries) :
    (ofEntries order).size = (ofEntries entries).size := by
  have hkeys : ((order.filterMap offer?).map Registration.key).toFinset =
      ((entries.filterMap offer?).map Registration.key).toFinset := by
    ext key
    simp only [List.mem_toFinset, List.mem_map, mem_offers_iff, h.mem_iff]
  rw [(reflects_ofEntries order).size_eq, (reflects_ofEntries entries).size_eq, hkeys]

/-- Where all that decides has one text, this text is found in every order. -/
theorem get_ofEntries_of_perm (h : order.Perm entries)
    (hsame : ∀ r r', Decides entries kind theme r → Decides entries kind theme r' →
      r.template = r'.template) :
    (ofEntries order).get kind theme = (ofEntries entries).get kind theme := by
  by_cases hsome : ∃ r, Decides entries kind theme r
  · obtain ⟨r, hr⟩ := hsome
    obtain ⟨last, hlast, hget⟩ := get_of_decides hr
    obtain ⟨last', hlast', hget'⟩ := get_of_decides ((decides_iff_of_perm h).2 hr)
    rw [hget, hget']
    exact hsame last' last ((decides_iff_of_perm h).1 hlast') hlast
  · have hnone := not_exists.1 hsome
    rw [get_of_not_decides hnone,
      get_of_not_decides fun r => mt (decides_iff_of_perm h).1 (hnone r)]

/-- Whatever decides is found in some order. -/
theorem exists_perm_get_eq (h : Decides entries kind theme r) :
    ∃ order : List (FileName × FileContent), order.Perm entries ∧
      (ofEntries order).get kind theme = r.template := by
  obtain ⟨entry, hmem, hoffer⟩ := h.1
  obtain ⟨front, behind, rfl⟩ := List.append_of_mem hmem
  -- The entry is moved to the end, where nothing comes after it.
  have hperm : (front ++ behind ++ [entry]).Perm (front ++ entry :: behind) := by
    rw [List.append_assoc]
    exact List.perm_append_singleton entry behind |>.append_left front
  refine ⟨_, hperm, get_of_isLast_decides ?_⟩
  rw [List.filterMap_append, List.filterMap_cons, offer?_eq_some_iff.2 hoffer]
  exact isLast_append_singleton.2 (.inl ⟨(decides_iff_of_perm hperm).2 h, rfl⟩)

/-- **The order of a directory matters only for clashes.**

* The number of overrides is the same in every order of the entries.
* The template of a kind in a theme is the same in every order just if all that decides it
  has the same text.
* So all templates are the same in every order if no two entries offer something under the
  same key. -/
theorem order_matters_only_for_clashes (entries : List (FileName × FileContent)) :
    ∃ store, load (.found entries) = .ok store ∧
      (∀ order store', order.Perm entries → load (.found order) = .ok store' →
        store'.size = store.size) ∧
      (∀ kind theme,
        (∀ order store', order.Perm entries → load (.found order) = .ok store' →
          store'.get kind theme = store.get kind theme) ↔
        ∀ r r', Decides entries kind theme r → Decides entries kind theme r' →
          r.template = r'.template) ∧
      ((∀ offers, Offered entries offers → (offers.map Registration.key).Nodup) →
        ∀ order store', order.Perm entries → load (.found order) = .ok store' →
          ∀ kind theme, store'.get kind theme = store.get kind theme) := by
  refine ⟨ofEntries entries, rfl, ?_, fun kind theme => ⟨fun hsame r r' hr hr' => ?_, ?_⟩, ?_⟩
  · rintro order store' hperm ⟨⟩
    exact size_ofEntries_of_perm hperm
  · obtain ⟨order, hperm, hget⟩ := exists_perm_get_eq hr
    obtain ⟨order', hperm', hget'⟩ := exists_perm_get_eq hr'
    rw [← hget, ← hget', hsame order _ hperm rfl, hsame order' _ hperm' rfl]
  · rintro hsame order store' hperm ⟨⟩
    exact get_ofEntries_of_perm hperm hsame
  · rintro hsingle order store' hperm ⟨⟩ kind theme
    refine get_ofEntries_of_perm hperm fun r r' hr hr' => ?_
    have hnodup := hsingle _ (offered_iff.2 rfl)
    rw [List.inj_on_of_nodup_map hnodup (mem_offers_iff.2 hr.1) (mem_offers_iff.2 hr'.1)
      (hr.key_eq hr')]

/-- Files for two themes and one for every theme, the other way round. -/
theorem order_matters_only_for_clashes_of_plain_names :
    let modern : FileName × FileContent :=
      (.ofText "businessModel_Modern.svg", .bytes "<a/>".toUTF8.data.toList)
    let minimal : FileName × FileContent :=
      (.ofText "businessModel_minimal.svg", .bytes "<b/>".toUTF8.data.toList)
    let plain : FileName × FileContent :=
      (.ofText "businessModel.svg", .bytes "<c/>".toUTF8.data.toList)
    ∃ store store', load (.found [modern, minimal, plain]) = .ok store ∧
      load (.found [plain, minimal, modern]) = .ok store' ∧ store' ≠ store ∧
      store'.size = store.size ∧ ∀ kind theme, store'.get kind theme = store.get kind theme := by
  intro modern minimal plain
  obtain ⟨store, hload, hsize, -, hget⟩ := order_matters_only_for_clashes [modern, minimal, plain]
  have hperm : [plain, minimal, modern].Perm [modern, minimal, plain] :=
    (List.reverse_perm _ : [modern, minimal, plain].reverse.Perm _)
  have hsingle : ∀ offers, Offered [modern, minimal, plain] offers →
      (offers.map Registration.key).Nodup := by
    intro offers hoffers
    rw [offered_iff.1 hoffers]
    decide +kernel
  refine ⟨store, _, hload, rfl, ?_, hsize _ _ hperm rfl, hget hsingle _ _ hperm rfl⟩
  cases hload
  decide +kernel

/-- Two files whose names differ in one capital letter are for the same theme, and the one
listed last wins. -/
theorem not_every_order_agrees :
    let small : FileName × FileContent :=
      (.ofText "businessModel_modern.svg", .bytes "<a/>".toUTF8.data.toList)
    let capital : FileName × FileContent :=
      (.ofText "businessModel_Modern.svg", .bytes "<b/>".toUTF8.data.toList)
    small.1 ≠ capital.1 ∧ [capital, small].Perm [small, capital] ∧
      ∃ store store', load (.found [small, capital]) = .ok store ∧
        load (.found [capital, small]) = .ok store' ∧
        store.get .businessModel "modern" = "<b/>" ∧
        store'.get .businessModel "modern" = "<a/>" := by
  intro small capital
  refine ⟨by decide +kernel, List.Perm.swap small capital [], _, _, rfl, rfl, ?_, ?_⟩
  · decide +kernel
  · decide +kernel

end Store

end CanvasPress.Template
