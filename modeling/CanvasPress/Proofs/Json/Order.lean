/-
# Members in any order

A record is read member by member, each for itself: a member that belongs to a field sets this
field, any other member is skipped.  Where setting one field does not interfere with setting
another, the order of the members does not matter, and members that belong to no field do not
matter at all.
-/

import CanvasPress.Proofs.Json.Decoding
import Mathlib.Data.List.Pairwise
import Mathlib.Data.List.ReduceOption

namespace CanvasPress.Json

/-- The draft of an object with members in this order. -/
def Draft.record (members : List (String × Draft)) : Draft :=
  .object (named members) .closed

/-! ## Values that are skipped -/

mutual

/-- A value that nobody looks at is no trouble, however deeply it is nested. -/
theorem skip_ofJson (v : Json) : (Draft.ofJson v).skip = .ok () := by
  match v with
  | .null => rfl
  | .bool _ => rfl
  | .integer _ => rfl
  | .float _ => rfl
  | .text _ => rfl
  | .array items =>
      rw [Draft.ofJson, Draft.skip, skipItems_ofItems items]
      rfl
  | .object members =>
      rw [Draft.ofJson, Draft.skip, skipMembers_ofMembers members]
      rfl

/-- `skip_ofJson` for the items of an array. -/
theorem skipItems_ofItems (items : List Json) : Draft.skipItems (Draft.ofItems items) = .ok () := by
  match items with
  | [] => rfl
  | item :: rest =>
      rw [Draft.ofItems, Draft.skipItems, skip_ofJson item, skipItems_ofItems rest]
      rfl

/-- `skip_ofJson` for the members of an object. -/
theorem skipMembers_ofMembers (members : List (String × Json)) :
    Draft.skipMembers (Draft.ofMembers members) = .ok () := by
  match members with
  | [] => rfl
  | (_, value) :: rest =>
      rw [Draft.ofMembers, Draft.skipMembers, skip_ofJson value, skipMembers_ofMembers rest]
      rfl

end

/-- A list of members is skipped member by member. -/
theorem skip_of_skipMembers {members : List (String × Draft)}
    (h : Draft.skipMembers (named members) = .ok ()) : ∀ m ∈ members, m.2.skip = .ok () := by
  induction members with
  | nil => exact List.forall_mem_nil _
  | cons m rest ih =>
      change Draft.skipMembers ((some m.1, m.2) :: named rest) = _ at h
      rw [Draft.skipMembers] at h
      obtain ⟨⟨⟩, hfirst, hrest⟩ := exists_of_bind_eq_ok h
      exact List.forall_mem_cons.2 ⟨hfirst, ih hrest⟩

/-- No member of a text that lays out an object is trouble to a reader who skips it. -/
theorem Lays.skip_member {s : List Char} {members : List (String × Draft)}
    (h : Lays s (.record members)) : ∀ m ∈ members, m.2.skip = .ok () := by
  have hall : (Draft.record members).skip = .ok () := h.skip
  rw [Draft.record, Draft.skip] at hall
  obtain ⟨⟨⟩, hmembers, -⟩ := exists_of_bind_eq_ok hall
  exact skip_of_skipMembers hmembers

section Members

variable {σ α : Type} {fields : List (Field σ)} {place : Place}

/-! ## One member -/

/-- What one member makes of the names seen so far and of the record, if it is read. -/
inductive Takes (fields : List (Field σ)) (place : Place) :
    List String → σ → Option String × Draft → List String → σ → Prop where
  /-- The member belongs to no field. -/
  | skips {seen : List String} {record : σ} {name : String} {draft : Draft}
      (hfind : fields.find? (fun f => f.name == name) = none) (hskip : draft.skip = .ok ()) :
      Takes fields place seen record (some name, draft) seen record
  /-- The member sets its field, which was not set before. -/
  | sets {seen : List String} {record mid : σ} {name : String} {draft : Draft} {f : Field σ}
      (hfind : fields.find? (fun f => f.name == name) = some f) (hnew : name ∉ seen)
      (hset : f.set place draft record = .ok mid) :
      Takes fields place seen record (some name, draft) (name :: seen) mid

theorem setMembers_cons_eq_ok_iff {seen : List String} {member : Option String × Draft}
    {rest : List (Option String × Draft)} {record last : σ} :
    Shape.setMembers fields place seen (member :: rest) record = .ok last ↔
      ∃ seen' mid, Takes fields place seen record member seen' mid ∧
        Shape.setMembers fields place seen' rest mid = .ok last := by
  obtain ⟨key, draft⟩ := member
  cases key with
  | none =>
      refine ⟨nofun, ?_⟩
      rintro ⟨_, _, htakes, -⟩
      cases htakes
  | some name =>
      rw [Shape.setMembers]
      constructor
      · intro h
        cases hfind : fields.find? fun f => f.name == name with
        | none =>
            simp only [hfind] at h
            obtain ⟨_, hskip, hrest⟩ := exists_of_bind_eq_ok h
            cases hdraft : draft.skip with
            | error cause =>
                rw [hdraft] at hskip
                cases hskip
            | ok done => exact ⟨seen, record, .skips hfind hdraft, hrest⟩
        | some f =>
            simp only [hfind] at h
            split_ifs at h with hseen
            · cases h
            · obtain ⟨mid, hset, hrest⟩ := exists_of_bind_eq_ok h
              exact ⟨name :: seen, mid, .sets hfind (by simpa using hseen) hset, hrest⟩
      · rintro ⟨seen', mid, htakes, hrest⟩
        cases htakes with
        | skips hfind hskip =>
            simp only [hfind, hskip]
            exact hrest
        | sets hfind hnew hset =>
            have hunseen : seen.contains name = false := by simpa using hnew
            simp only [hfind, hunseen, hset]
            exact hrest

/-! ## All members -/

theorem Takes.congr {seen seen₁ again : List String} {record mid : σ}
    {member : Option String × Draft} (h : Takes fields place seen record member seen₁ mid)
    (hsame : ∀ name, name ∈ seen ↔ name ∈ again) :
    ∃ again₁, Takes fields place again record member again₁ mid ∧
      ∀ name, name ∈ seen₁ ↔ name ∈ again₁ := by
  cases h with
  | skips hfind hskip => exact ⟨again, .skips hfind hskip, hsame⟩
  | @sets _ name _ _ hfind hnew hset =>
      refine ⟨name :: again, .sets hfind (fun hmem => hnew ((hsame _).2 hmem)) hset, ?_⟩
      intro other
      rw [List.mem_cons, List.mem_cons, hsame]

/-- The names seen so far matter as a set. -/
theorem setMembers_congr {members : List (Option String × Draft)} {seen again : List String}
    {record last : σ} (hsame : ∀ name, name ∈ seen ↔ name ∈ again)
    (h : Shape.setMembers fields place seen members record = .ok last) :
    Shape.setMembers fields place again members record = .ok last := by
  induction members generalizing seen again record with
  | nil => exact h
  | cons member rest ih =>
      obtain ⟨seen₁, mid, htakes, hrest⟩ := setMembers_cons_eq_ok_iff.1 h
      obtain ⟨again₁, htakes', hsame₁⟩ := htakes.congr hsame
      exact setMembers_cons_eq_ok_iff.2 ⟨again₁, mid, htakes', ih hsame₁ hrest⟩

/-- Two fields can be set in either order. -/
def Field.Apart (f g : Field σ) : Prop :=
  ∀ place draft draft' record last,
    (∃ mid, f.set place draft record = .ok mid ∧ g.set place draft' mid = .ok last) ↔
      ∃ mid, g.set place draft' record = .ok mid ∧ f.set place draft mid = .ok last

instance : Std.Symm (@Field.Apart σ) where
  symm _ _ h := fun place draft draft' record last => (h place draft' draft record last).symm

theorem set_field_eq_ok_iff {name : String} {decode : Decoder α} {store : α → σ → σ} {draft : Draft}
    {record next : σ} : (field name decode store).set place draft record = .ok next ↔
      ∃ value, decode place draft = .ok value ∧ store value record = next := by
  constructor
  · exact exists_of_map_eq_ok
  · rintro ⟨value, hvalue, rfl⟩
    simp only [field, hvalue]
    rfl

/-- Fields that store in different parts of a record are apart. -/
theorem apart_field {β : Type} {name other : String} {decode : Decoder α} {decode' : Decoder β}
    {store : α → σ → σ} {store' : β → σ → σ}
    (hstore : ∀ value value' record,
      store' value' (store value record) = store value (store' value' record)) :
    (field name decode store).Apart (field other decode' store') := by
  intro place draft draft' record last
  simp only [set_field_eq_ok_iff]
  constructor
  · rintro ⟨_, ⟨value, hvalue, rfl⟩, value', hvalue', rfl⟩
    exact ⟨_, ⟨value', hvalue', rfl⟩, value, hvalue, (hstore _ _ _).symm⟩
  · rintro ⟨_, ⟨value', hvalue', rfl⟩, value, hvalue, rfl⟩
    exact ⟨_, ⟨value, hvalue, rfl⟩, value', hvalue', hstore _ _ _⟩

/-- Two neighbours may change places. -/
theorem Takes.swap (hapart : fields.Pairwise Field.Apart) {seen seen₁ seen₂ : List String}
    {record mid last : σ} {member member' : Option String × Draft}
    (h : Takes fields place seen record member seen₁ mid)
    (h' : Takes fields place seen₁ mid member' seen₂ last) :
    ∃ again₁ mid' again₂, Takes fields place seen record member' again₁ mid' ∧
      Takes fields place again₁ mid' member again₂ last ∧
      ∀ name, name ∈ seen₂ ↔ name ∈ again₂ := by
  cases h with
  | skips hfind hskip =>
      cases h' with
      | skips hfind' hskip' =>
          exact ⟨_, _, _, .skips hfind' hskip', .skips hfind hskip, fun _ => Iff.rfl⟩
      | sets hfind' hnew' hset' =>
          exact ⟨_, _, _, .sets hfind' hnew' hset', .skips hfind hskip, fun _ => Iff.rfl⟩
  | @sets _ name draft f hfind hnew hset =>
      cases h' with
      | skips hfind' hskip' =>
          exact ⟨_, _, _, .skips hfind' hskip', .sets hfind hnew hset, fun _ => Iff.rfl⟩
      | @sets _ name' draft' g hfind' hnew' hset' =>
          have hne : name ≠ name' := fun hsame => hnew' (hsame ▸ List.mem_cons_self)
          have hname : f.name = name := by simpa using List.find?_some hfind
          have hname' : g.name = name' := by simpa using List.find?_some hfind'
          have hfields : f ≠ g := fun hsame => hne (by rw [← hname, hsame, hname'])
          have hfg : f.Apart g :=
            hapart.forall (List.mem_of_find?_eq_some hfind) (List.mem_of_find?_eq_some hfind')
              hfields
          obtain ⟨mid', hmid', hlast⟩ := (hfg _ _ _ _ _).1 ⟨_, hset, hset'⟩
          have hnew₂ : name ∉ name' :: seen := by
            rw [List.mem_cons, not_or]
            exact ⟨hne, hnew⟩
          refine ⟨_, mid', _,
            .sets hfind' (fun hmem => hnew' (List.mem_cons_of_mem _ hmem)) hmid',
            .sets hfind hnew₂ hlast, fun other => ?_⟩
          simp only [List.mem_cons]
          exact or_left_comm

/-- The members of a record may stand in any order. -/
theorem setMembers_perm (hapart : fields.Pairwise Field.Apart)
    {members members' : List (Option String × Draft)} (hperm : members.Perm members')
    {seen : List String} {record last : σ}
    (h : Shape.setMembers fields place seen members record = .ok last) :
    Shape.setMembers fields place seen members' record = .ok last := by
  induction hperm generalizing seen record with
  | nil => exact h
  | cons member _ ih =>
      obtain ⟨seen', mid, htakes, hrest⟩ := setMembers_cons_eq_ok_iff.1 h
      exact setMembers_cons_eq_ok_iff.2 ⟨seen', mid, htakes, ih hrest⟩
  | swap first second rest =>
      obtain ⟨seen₁, mid, htakes, h⟩ := setMembers_cons_eq_ok_iff.1 h
      obtain ⟨seen₂, mid₂, htakes', hrest⟩ := setMembers_cons_eq_ok_iff.1 h
      obtain ⟨again₁, mid', again₂, htakes₁, htakes₂, hsame⟩ := htakes.swap hapart htakes'
      exact setMembers_cons_eq_ok_iff.2 ⟨again₁, mid', htakes₁,
        setMembers_cons_eq_ok_iff.2 ⟨again₂, mid₂, htakes₂, setMembers_congr hsame hrest⟩⟩
  | trans _ _ ih ih' => exact ih' (ih h)

/-- Members that belong to no field are skipped. -/
theorem setMembers_unknown {unknown : List (String × Draft)}
    (hunknown : ∀ m ∈ unknown, m.1 ∉ fields.map Field.name ∧ m.2.skip = .ok ())
    (members : List (Option String × Draft)) (seen : List String) (record : σ) :
    Shape.setMembers fields place seen (named unknown ++ members) record =
      Shape.setMembers fields place seen members record := by
  induction unknown with
  | nil => rfl
  | cons m unknown ih =>
      obtain ⟨hname, hskip⟩ := hunknown m List.mem_cons_self
      have hfind : fields.find? (fun f => f.name == m.1) = none := by
        rw [List.find?_eq_none]
        intro f hf hsame
        exact hname (List.mem_map.2 ⟨f, hf, by simpa using hsame⟩)
      change Shape.setMembers fields place seen ((some m.1, m.2) :: (named unknown ++ members)) _ =
        _
      rw [Shape.setMembers]
      simp only [hfind, hskip]
      exact ih fun other hother => hunknown other (List.mem_cons_of_mem _ hother)

/-! ## Members that may be left out -/

/-- A member that is there if its value is. -/
def givenMember (name : String) (value : Option Draft) : Option (String × Draft) :=
  value.map fun draft => (name, draft)

/-- A value that may be given has a draft where it is given. -/
theorem rel_map {P : α → Draft → Prop} {encode : α → Json} {given : Option α}
    (h : ∀ value ∈ given, P value (Draft.ofJson (encode value))) :
    Option.Rel P given (given.map fun value => Draft.ofJson (encode value)) := by
  cases given with
  | none => exact .none
  | some value => exact .some (h value rfl)

/-- A member that may be there fills its field, or the field keeps what it has. -/
theorem Accepts.given {name : String} {decode : Decoder α} {store : α → σ → σ} {given : Option α}
    {written : Option Draft} {record last : σ} {kept : α} {others : List (Option (String × Draft))}
    (hdecode : Option.Rel (fun value draft => decode place draft = .ok value) given written)
    (hkept : store kept record = record)
    (rest : Accepts place fields others.reduceOption (store (given.getD kept) record) last) :
    Accepts place (field name decode store :: fields)
      (givenMember name written :: others).reduceOption record last := by
  cases hdecode with
  | none =>
      rw [Option.getD_none, hkept] at rest
      exact .skip _ rest
  | some hvalue => exact .cons (set_field_eq_ok_iff.2 ⟨_, hvalue, rfl⟩) rest

/-- A record whose members fill its fields is decoded from them in any order, with any others
among them that belong to no field. -/
theorem Shape.decode_of_perm {shape : Shape σ α} {given unknown members : List (String × Draft)}
    {last : σ} {value : α} (hnames : (shape.fields.map Field.name).Nodup)
    (hapart : shape.fields.Pairwise Field.Apart)
    (hgiven : Accepts place.inner shape.fields given shape.blank last)
    (hunknown : ∀ m ∈ unknown, m.1 ∉ shape.fields.map Field.name ∧ m.2.skip = .ok ())
    (hperm : members.Perm (given ++ unknown)) (hfinish : shape.finish last = .ok value) :
    shape.decode place (.record members) = .ok value := by
  have hfilled : Shape.setMembers shape.fields place.inner [] (named given) shape.blank =
      .ok last :=
    setMembers_of_accepts hgiven (fun f hf => find?_of_nodup hnames hf) hnames
      fun _ _ => List.not_mem_nil
  have hall : Shape.setMembers shape.fields place.inner [] (named unknown ++ named given)
      shape.blank = .ok last := by
    rw [setMembers_unknown hunknown, hfilled]
  have hordered : (named unknown ++ named given).Perm (named members) := by
    simp only [named, ← List.map_append]
    exact ((hperm.trans List.perm_append_comm).map _).symm
  rw [Draft.record, Shape.decode, setMembers_perm hapart hordered hall]
  change shape.ofMembers last = .ok value
  rw [Shape.ofMembers, hfinish]

end Members

end CanvasPress.Json
