/-
# Loading is registering

A directory entry offers a template when its name consists of the name of a kind, a theme
behind an underscore or none, and the extension of templates, and when its bytes are text.
Loading a directory comes to registering what its entries offer, one after the other; all
other entries might as well not be there.  What an entry offers is said here by putting its
name together, while loading takes the name apart.
-/

import CanvasPress.Proofs.Template.Occurrence
import CanvasPress.Proofs.Template.Overrides
import CanvasPress.Template.Directory

namespace CanvasPress

open Template Text

/-! ## Bytes and text -/

theorem textOfBytes?_eq_some_iff {data : List UInt8} {s : String} :
    textOfBytes? data = some s ↔ data = s.toUTF8.data.toList := by
  rw [textOfBytes?, String.fromUTF8?]
  constructor
  · intro h
    split at h
    · cases h
      simp [String.fromUTF8]
    · cases h
  · rintro rfl
    have hdata : ByteArray.mk s.toUTF8.data.toList.toArray = s.toByteArray := rfl
    rw [hdata, dif_pos s.isValidUTF8]
    rfl

theorem FileName.text?_eq_some_iff {name : FileName} {s : String} :
    name.text? = some s ↔ name = .ofText s := by
  obtain ⟨data⟩ := name
  rw [text?, textOfBytes?_eq_some_iff, ofText, FileName.mk.injEq]

theorem FileName.ofText_inj {s t : String} : ofText s = ofText t ↔ s = t := by
  rw [← text?_eq_some_iff, text?_eq_some_iff.2 rfl, Option.some.injEq]

/-- Only a file has a text, and only if its bytes are that text. -/
theorem FileContent.text_eq_ok_iff {content : FileContent} {s : String} :
    content.text = .ok s ↔ content = .bytes s.toUTF8.data.toList := by
  cases content with
  | directory => simp [text]
  | unreadable cause => simp [text]
  | bytes data =>
      rw [FileContent.bytes.injEq, ← textOfBytes?_eq_some_iff, text]
      cases textOfBytes? data <;> simp

/-! ## Names of kinds -/

theorem Kind.eq_of_sameUpToCase {kind other : Kind} (h : SameUpToCase kind.name other.name) :
    kind = other := by
  revert h
  cases kind <;> cases other <;> decide

theorem Kind.sameUpToCase_of_ofName? {name : String} {kind : Kind}
    (h : ofName? name = some kind) : SameUpToCase kind.name name := by
  rw [ofName?] at h
  have hsame := List.find?_some h
  exact sameAscii_iff.1 hsame

theorem Kind.ofName?_eq_some_iff {name : String} {kind : Kind} :
    ofName? name = some kind ↔ SameUpToCase kind.name name := by
  refine ⟨sameUpToCase_of_ofName?, fun h => ?_⟩
  have hall : kind ∈ all := by cases kind <;> decide
  have hsome : (ofName? name).isSome = true :=
    List.find?_isSome.2 ⟨kind, hall, sameAscii_iff.2 h⟩
  obtain ⟨other, hother⟩ := Option.isSome_iff_exists.1 hsome
  rw [hother, Kind.eq_of_sameUpToCase ((sameUpToCase_of_ofName? hother).trans h.symm)]

/-- A name of a kind has no underscore, in whatever case it is written. -/
theorem Kind.underscore_not_mem {kind : Kind} {name : String} (h : SameUpToCase kind.name name) :
    '_' ∉ name.toList := by
  intro hmem
  have hletter : ∀ d, SameLetter d '_' → d = '_' := by
    rintro d (rfl | h | h)
    · rfl
    · obtain ⟨hfirst, -, hnat⟩ := isCapitalOf_iff.1 h
      have hcode : ('_' : Char).toNat = 95 := rfl
      omega
    · obtain ⟨-, hlast, -⟩ := isCapitalOf_iff.1 h
      exact absurd hlast (by decide)
  have hown := h.mem hletter hmem
  revert hown
  cases kind <;> decide

theorem Kind.ne_empty_of_sameUpToCase {kind : Kind} {name : String}
    (h : SameUpToCase kind.name name) : name ≠ "" := by
  rintro rfl
  have hlength := h.length_eq
  revert hlength
  cases kind <;> decide

namespace Template

/-! ## Taking names apart -/

/-- A text is cut at the first place of a character. -/
theorem split_of_dropWhile {stop c : Char} {s behind : List Char}
    (h : s.dropWhile (· != stop) = c :: behind) :
    stop ∉ s.takeWhile (· != stop) ∧ s = s.takeWhile (· != stop) ++ stop :: behind := by
  have hc : c = stop := by
    have hhead := List.head?_dropWhile_not (· != stop) s
    rw [h] at hhead
    simpa using hhead
  refine ⟨fun hmem => by simpa using List.mem_takeWhile_imp hmem, ?_⟩
  rw [← hc, ← h, hc, List.takeWhile_append_dropWhile]

theorem cut_of_not_mem {stop : Char} {front : List Char} (h : stop ∉ front)
    (behind : List Char) : (front ++ stop :: behind).takeWhile (· != stop) = front ∧
      (front ++ stop :: behind).dropWhile (· != stop) = stop :: behind := by
  have hrun : ∀ c ∈ front, (c != stop) = true := by
    intro c hc
    rw [bne_iff_ne]
    rintro rfl
    exact h hc
  have hstop : ∀ c ∈ (stop :: behind).head?, (c != stop) = false := by simp
  exact ⟨takeWhile_eq_of_stop hrun hstop, dropWhile_eq_of_stop hrun hstop⟩

theorem eq_append_of_splitExtension {name stem : String}
    (h : Path.splitExtension name = (stem, some "svg")) : stem ≠ "" ∧ name = stem ++ ".svg" := by
  rw [Path.splitExtension] at h
  split at h
  · cases h
  · cases h
  · rename_i dot behind hne hdrop
    obtain ⟨-, hback⟩ := split_of_dropWhile hdrop
    split at h
    · cases h
    · simp only [Prod.mk.injEq, Option.some.injEq] at h
      obtain ⟨rfl, hextension⟩ := h
      have htail : (name.toList.reverse.takeWhile (· != '.')).reverse = "svg".toList := by
        rw [← hextension, String.toList_ofList]
      refine ⟨fun hempty => hne ?_, ?_⟩
      · have hnil := congrArg String.toList hempty
        rwa [String.toList_ofList, String.toList_empty, List.reverse_eq_nil_iff] at hnil
      · have hname := congrArg List.reverse hback
        rw [List.reverse_reverse, List.reverse_append, List.reverse_cons, htail] at hname
        rw [← String.toList_inj, hname, String.toList_append, String.toList_ofList]
        simp

theorem splitExtension_append {stem : String} (hne : stem ≠ "") :
    Path.splitExtension (stem ++ ".svg") = (stem, some "svg") := by
  have hback : (stem ++ ".svg").toList.reverse =
      ['g', 'v', 's'] ++ '.' :: stem.toList.reverse := by
    rw [String.toList_append, List.reverse_append]
    rfl
  have hparent : ¬ stem ++ ".svg" = ".." := by
    intro h
    have hdots : (stem ++ ".svg").toList.reverse = ['.', '.'] := by
      rw [h]
      rfl
    rw [hback] at hdots
    cases hdots
  have hextension : '.' ∉ ['g', 'v', 's'] := by decide
  obtain ⟨htake, hdrop⟩ := cut_of_not_mem hextension stem.toList.reverse
  rw [Path.splitExtension]
  simp only [hback, htake, hdrop]
  cases hstem : stem.toList.reverse with
  | nil => exact absurd (by simpa using hstem) hne
  | cons c more =>
      simp only [if_neg hparent, ← hstem, List.reverse_reverse, String.ofList_toList]
      rfl

/-- A name has the extension of templates just if it ends in it and does not consist of it. -/
theorem splitExtension_eq_iff {name stem : String} :
    Path.splitExtension name = (stem, some "svg") ↔ stem ≠ "" ∧ name = stem ++ ".svg" :=
  ⟨eq_append_of_splitExtension, fun ⟨hne, hname⟩ => hname ▸ splitExtension_append hne⟩

/-- What stands behind the kind in the name of a template. -/
def themeSuffix : Option String → String
  | none => ""
  | some theme => "_" ++ theme

theorem toList_themeSuffix_some (theme : String) :
    (themeSuffix (some theme)).toList = '_' :: theme.toList :=
  String.toList_append

/-- The stem is cut at its first underscore. -/
theorem splitStem_eq_iff {stem front : String} {theme : Option String} :
    splitStem stem = (front, theme) ↔
      '_' ∉ front.toList ∧ stem = front ++ themeSuffix theme := by
  constructor
  · intro h
    rw [splitStem] at h
    simp only at h
    split at h
    · rename_i hdrop
      cases h
      have hfree : '_' ∉ stem.toList := by
        intro hmem
        have hall := List.dropWhile_eq_nil_iff.1 hdrop _ hmem
        simp at hall
      exact ⟨hfree, by simp [themeSuffix]⟩
    · rename_i underscore behind hdrop
      cases h
      obtain ⟨hfree, hstem⟩ := split_of_dropWhile hdrop
      refine ⟨by rwa [String.toList_ofList], ?_⟩
      rw [← String.toList_inj, String.toList_append, toList_themeSuffix_some,
        String.toList_ofList, String.toList_ofList]
      exact hstem
  · rintro ⟨hfront, rfl⟩
    cases theme with
    | none =>
        have hdrop : front.toList.dropWhile (· != '_') = [] := by
          rw [List.dropWhile_eq_nil_iff]
          rintro c hc
          rw [bne_iff_ne]
          rintro rfl
          exact hfront hc
        simp [splitStem, themeSuffix, hdrop]
    | some theme =>
        obtain ⟨htake, hdrop⟩ := cut_of_not_mem hfront theme.toList
        simp only [splitStem, String.toList_append, toList_themeSuffix_some, htake, hdrop,
          String.ofList_toList]

/-! ## What an entry offers -/

/-- A directory entry offers a template for a kind and a theme. -/
structure Offers (entry : FileName × FileContent) (r : Registration) : Prop where
  /-- It is named for them; the name of the kind may be in any case. -/
  named : ∃ kindName, SameUpToCase r.kind.name kindName ∧
    entry.1 = .ofText (kindName ++ themeSuffix r.theme ++ ".svg")
  /-- It is a file that can be read, and what it holds is the template. -/
  holds : entry.2 = .bytes r.template.toUTF8.data.toList

theorem judge_eq_accepted_iff {name : String} {content : FileContent} {kind : Kind}
    {theme : Option String} {template : String} :
    judge name content = .accepted kind theme template ↔
      (∃ kindName, SameUpToCase kind.name kindName ∧
        name = kindName ++ themeSuffix theme ++ ".svg") ∧ content.text = .ok template := by
  constructor
  · intro h
    rw [judge] at h
    split at h
    · rename_i stem hextension
      obtain ⟨-, rfl⟩ := splitExtension_eq_iff.1 hextension
      obtain ⟨⟨kindName, theme'⟩, hsplit⟩ : ∃ parts, splitStem stem = parts := ⟨_, rfl⟩
      rw [hsplit] at h
      simp only at h
      split at h
      · cases h
      · rename_i kind' hkind
        split at h
        · rename_i template' htext
          cases h
          obtain ⟨-, rfl⟩ := splitStem_eq_iff.1 hsplit
          exact ⟨⟨kindName, Kind.ofName?_eq_some_iff.1 hkind, rfl⟩, htext⟩
        · cases h
    · cases h
  · rintro ⟨⟨kindName, hkind, rfl⟩, htext⟩
    have hstem : kindName ++ themeSuffix theme ≠ "" :=
      fun hempty => Kind.ne_empty_of_sameUpToCase hkind (String.append_eq_empty_iff.1 hempty).1
    have hextension := splitExtension_append hstem
    have hsplit : splitStem (kindName ++ themeSuffix theme) = (kindName, theme) :=
      splitStem_eq_iff.2 ⟨Kind.underscore_not_mem hkind, rfl⟩
    rw [judge, hextension]
    simp only [hsplit, Kind.ofName?_eq_some_iff.2 hkind, htext]

/-- What loading takes from an entry. -/
def offer? (entry : FileName × FileContent) : Option Registration :=
  match judgeEntry entry with
  | .accepted kind theme template => some ⟨kind, theme, template⟩
  | _ => none

/-- Loading takes from an entry just what it offers. -/
theorem offer?_eq_some_iff {entry : FileName × FileContent} {r : Registration} :
    offer? entry = some r ↔ Offers entry r := by
  have haccepted : offer? entry = some r ↔
      judgeEntry entry = .accepted r.kind r.theme r.template := by
    obtain ⟨kind, theme, template⟩ := r
    rw [offer?]
    cases judgeEntry entry <;> simp
  have hjudged : judgeEntry entry = .accepted r.kind r.theme r.template ↔
      ∃ name, entry.1 = .ofText name ∧
        judge name entry.2 = .accepted r.kind r.theme r.template := by
    simp only [← FileName.text?_eq_some_iff]
    rw [judgeEntry]
    cases entry.1.text? <;> simp
  rw [haccepted, hjudged]
  simp only [judge_eq_accepted_iff, FileContent.text_eq_ok_iff]
  constructor
  · rintro ⟨name, hname, ⟨kindName, hkind, rfl⟩, hholds⟩
    exact ⟨⟨kindName, hkind, hname⟩, hholds⟩
  · rintro ⟨⟨kindName, hkind, hname⟩, hholds⟩
    exact ⟨_, hname, ⟨kindName, hkind, rfl⟩, hholds⟩

theorem offer?_eq_none_iff {entry : FileName × FileContent} :
    offer? entry = none ↔ ∀ r, ¬ Offers entry r := by
  rw [Option.eq_none_iff_forall_ne_some]
  exact forall_congr' fun r => not_congr offer?_eq_some_iff

/-- Why a directory entry offers nothing. -/
inductive Unfit : FileName × FileContent → Prop where
  /-- Its name is no text. -/
  | nameless {name content} : (∀ s, name ≠ .ofText s) → Unfit (name, content)
  /-- Its name has no extension, or not that of templates. -/
  | extension {name content} : (∀ stem, name ≠ stem ++ ".svg") → Unfit (.ofText name, content)
  /-- What stands in front of the first underscore names no kind. -/
  | kind {front theme content} : '_' ∉ front.toList →
    (∀ kind : Kind, ¬ SameUpToCase kind.name front) →
    Unfit (.ofText (front ++ themeSuffix theme ++ ".svg"), content)
  | directory {name} : Unfit (name, .directory)
  | unreadable {name cause} : Unfit (name, .unreadable cause)
  /-- What it holds is no text. -/
  | bytes {name data} : (∀ s : String, data ≠ s.toUTF8.data.toList) → Unfit (name, .bytes data)

theorem Unfit.not_offers {entry : FileName × FileContent} (h : Unfit entry) (r : Registration) :
    ¬ Offers entry r := by
  rintro ⟨⟨kindName, hkind, hname⟩, hholds⟩
  cases h with
  | nameless h => exact h _ hname
  | extension h => exact h _ (FileName.ofText_inj.1 hname)
  | kind hfront h =>
      have hstem := (String.append_left_inj _).1 (FileName.ofText_inj.1 hname)
      have hcut := splitStem_eq_iff.2 ⟨hfront, hstem.symm⟩
      rw [splitStem_eq_iff.2 ⟨Kind.underscore_not_mem hkind, rfl⟩] at hcut
      exact h r.kind ((Prod.mk.inj hcut).1 ▸ hkind)
  | directory => cases hholds
  | unreadable => cases hholds
  | bytes h => exact h _ (FileContent.bytes.inj hholds)

/-- The reasons are all there are: without one, name and content offer a template. -/
theorem Unfit.of_not_offers {name : FileName} {content : FileContent}
    (hnothing : ∀ r, ¬ Offers (name, content) r) : Unfit (name, content) := by
  by_cases hname : ∃ s, name = .ofText s
  swap
  · exact .nameless (not_exists.1 hname)
  obtain ⟨s, rfl⟩ := hname
  by_cases hextension : ∃ stem, s = stem ++ ".svg"
  swap
  · exact .extension (not_exists.1 hextension)
  obtain ⟨stem, rfl⟩ := hextension
  obtain ⟨⟨front, theme⟩, hcut⟩ : ∃ parts, splitStem stem = parts := ⟨_, rfl⟩
  obtain ⟨hfront, rfl⟩ := splitStem_eq_iff.1 hcut
  by_cases hkind : ∃ kind : Kind, SameUpToCase kind.name front
  swap
  · exact .kind hfront (not_exists.1 hkind)
  obtain ⟨kind, hkind⟩ := hkind
  cases content with
  | directory => exact .directory
  | unreadable cause => exact .unreadable
  | bytes data =>
      refine .bytes fun template hdata => hnothing ⟨kind, theme, template⟩ ?_
      exact ⟨⟨front, hkind, rfl⟩, congrArg FileContent.bytes hdata⟩

/-- An entry that is not unfit offers a template. -/
theorem unfit_iff {entry : FileName × FileContent} : Unfit entry ↔ ∀ r, ¬ Offers entry r :=
  ⟨Unfit.not_offers, Unfit.of_not_offers⟩

/-- What the entries of a directory offer, in their order. -/
inductive Offered : List (FileName × FileContent) → List Registration → Prop where
  | nil : Offered [] []
  | take {entry entries r offers} : Offers entry r → Offered entries offers →
    Offered (entry :: entries) (r :: offers)
  | pass {entry entries offers} : (∀ r, ¬ Offers entry r) → Offered entries offers →
    Offered (entry :: entries) offers

theorem offered_iff {entries : List (FileName × FileContent)} {offers : List Registration} :
    Offered entries offers ↔ offers = entries.filterMap offer? := by
  constructor
  · intro h
    induction h with
    | nil => rfl
    | take hentry _ ih => rw [List.filterMap_cons, offer?_eq_some_iff.2 hentry, ← ih]
    | pass hentry _ ih => rw [List.filterMap_cons, offer?_eq_none_iff.2 hentry, ← ih]
  · rintro rfl
    induction entries with
    | nil => exact .nil
    | cons entry entries ih =>
        cases hentry : offer? entry with
        | none =>
            rw [List.filterMap_cons, hentry]
            exact .pass (offer?_eq_none_iff.1 hentry) ih
        | some r =>
            rw [List.filterMap_cons, hentry]
            exact .take (offer?_eq_some_iff.1 hentry) ih

/-! ## Loading -/

namespace Store

variable {entries : List (FileName × FileContent)} {offers : List Registration}

theorem apply_judgeEntry (store : Store) (entry : FileName × FileContent) :
    (judgeEntry entry).apply store = (offer? entry).elim store store.add := by
  rw [offer?]
  cases judgeEntry entry <;> rfl

theorem ofEntries_eq (entries : List (FileName × FileContent)) :
    ofEntries entries = empty.registerAll (entries.filterMap offer?) := by
  rw [ofEntries, registerAll, List.foldl_filterMap]
  simp only [apply_judgeEntry]
  congr 1
  funext store entry
  cases offer? entry <;> rfl

theorem reflects_ofEntries (entries : List (FileName × FileContent)) :
    (ofEntries entries).Reflects (entries.filterMap offer?) := by
  rw [ofEntries_eq]
  exact reflects_registerAll _

theorem load_of_offered (h : Offered entries offers) :
    load (.found entries) = .ok (empty.registerAll offers) := by
  rw [load, ofEntries_eq, offered_iff.1 h]

/-- What an entry offers that is the only one to offer something for its kind and theme is
found under every name of the theme. -/
theorem get_of_offers {front behind : List (FileName × FileContent)}
    {entry : FileName × FileContent} {r : Registration} {kind : Kind} {theme : String}
    (hentry : Offers entry r) (hfor : r.IsFor kind theme)
    (halone : ∀ other ∈ front ++ behind, ∀ r', Offers other r' → ¬ r'.IsFor kind theme)
    (hoffered : Offered (front ++ entry :: behind) offers) :
    (empty.registerAll offers).get kind theme = r.template := by
  have hoffers : offers = front.filterMap offer? ++ r :: behind.filterMap offer? := by
    rw [offered_iff.1 hoffered, List.filterMap_append, List.filterMap_cons,
      offer?_eq_some_iff.2 hentry]
  refine (reflects_registerAll offers).get_of_isFor ⟨_, _, hoffers, hfor, fun later hlater => ?_⟩
  obtain ⟨other, hother, hoffer⟩ := List.mem_filterMap.1 hlater
  exact halone other (List.mem_append_right _ hother) later (offer?_eq_some_iff.1 hoffer)

/-- **Loading a directory is registering what its entries offer.**

* What they offer is determined, and loading comes to registering it in the order of the
  entries on an empty store.
* An entry that is unfit, for whatever reason, has no effect, wherever it stands.
* The text of a file that is named for a kind and a theme is the template of the kind in that
  theme, up to case, if no other entry offers one for them. -/
theorem loading_is_registering (entries : List (FileName × FileContent)) :
    ∃ offers, Offered entries offers ∧ (∀ others, Offered entries others → others = offers) ∧
      load (.found entries) = .ok (empty.registerAll offers) ∧
      (∀ front entry behind, entries = front ++ entry :: behind → Unfit entry →
        load (.found (front ++ behind)) = load (.found entries)) ∧
      ∀ kind kindName theme template front behind, SameUpToCase (Kind.name kind) kindName →
        entries = front ++ (.ofText (kindName ++ "_" ++ theme ++ ".svg"),
          .bytes (String.toUTF8 template).data.toList) :: behind →
        (∀ entry ∈ front ++ behind, ∀ r, Offers entry r → ¬ r.IsFor kind theme) →
        ∀ name, SameUpToCase theme name →
          (empty.registerAll offers).get kind name = template := by
  have hoffered : Offered entries (entries.filterMap offer?) := offered_iff.2 rfl
  refine ⟨_, hoffered, fun others hothers => offered_iff.1 hothers, load_of_offered hoffered,
    ?_, ?_⟩
  · intro front entry behind hsplit hunfit
    have hnone : offer? entry = none := offer?_eq_none_iff.2 (unfit_iff.1 hunfit)
    rw [load_of_offered hoffered, load_of_offered (offered_iff.2 rfl), hsplit,
      List.filterMap_append, List.filterMap_append, List.filterMap_cons, hnone]
  · intro kind kindName theme template front behind hkind hsplit halone name hname
    rw [hsplit] at hoffered
    have hentry : Offers (.ofText (kindName ++ "_" ++ theme ++ ".svg"),
        .bytes template.toUTF8.data.toList) ⟨kind, some theme, template⟩ :=
      ⟨⟨kindName, hkind, by rw [themeSuffix, ← String.append_assoc]⟩, rfl⟩
    rw [hsplit]
    refine get_of_offers hentry ⟨rfl, theme, rfl, hname⟩ ?_ hoffered
    rintro other hother r hoffer ⟨hrkind, own, hown, hsame⟩
    exact halone other hother r hoffer ⟨hrkind, own, hown, hsame.trans hname.symm⟩

/-- A theme with a dot, an underscore and a letter outside ASCII, between a directory and a
file whose name is no text. -/
theorem loading_is_registering_of_odd_theme :
    let entry : FileName × FileContent :=
      (.ofText "TESTINGbusinessIdeas_Mo.dern_É.svg", .bytes "<svg/>".toUTF8.data.toList)
    let directory : FileName × FileContent := (.ofText "businessModel.svg", .directory)
    let nameless : FileName × FileContent := (⟨[255, 46, 115, 118, 103]⟩, .bytes [])
    ∃ store, load (.found [directory, entry, nameless]) = .ok store ∧
      load (.found [entry, nameless]) = .ok store ∧
      store.get .testingBusinessIdeas "mO.DERN_É" = "<svg/>" := by
  intro entry directory nameless
  obtain ⟨offers, -, -, hload, hunfit, hget⟩ :=
    loading_is_registering [directory, entry, nameless]
  refine ⟨_, hload, ?_, ?_⟩
  · rw [← hload]
    exact hunfit [] directory [entry, nameless] rfl .directory
  · refine hget .testingBusinessIdeas "TESTINGbusinessIdeas" "Mo.dern_É" "<svg/>" [directory]
      [nameless] (by decide) rfl ?_ "mO.DERN_É" (by decide)
    intro other hother r hoffer
    have hnone : offer? directory = none ∧ offer? nameless = none := by decide +kernel
    rw [← offer?_eq_some_iff] at hoffer
    rcases List.mem_cons.1 hother with rfl | hother
    · rw [hnone.1] at hoffer
      cases hoffer
    · rw [List.mem_singleton.1 hother, hnone.2] at hoffer
      cases hoffer

end Store

end Template

end CanvasPress
