/-
# What decoders return

Two things are said of a decoder.  `Returns` is about every draft: whatever is returned has a
property, such as lying within a range.  The laws of the first part are the other way round:
a value that was written is decoded to what it was written from.

A record is decoded field by field, so both are proved of its fields one at a time.  `Fills`
lists the members of a written record beside the fields that they fill, in order; fields in
between may be left out.  `Accepts` does the same where the values are known only as drafts.
-/

import CanvasPress.Codec.Document
import CanvasPress.Proofs.Json.Members
import CanvasPress.Proofs.Json.Reading

namespace CanvasPress.Json

/-! ## Values that are kept whole -/

mutual

/-- How many containers stand inside each other at most. -/
def nesting : Json → Nat
  | .array items => nestingItems items + 1
  | .object members => nestingMembers members + 1
  | _ => 0

/-- The greatest nesting of an item. -/
def nestingItems : List Json → Nat
  | [] => 0
  | item :: rest => max item.nesting (nestingItems rest)

/-- The greatest nesting of a member's value. -/
def nestingMembers : List (String × Json) → Nat
  | [] => 0
  | (_, value) :: rest => max value.nesting (nestingMembers rest)

end

mutual

/-- The draft of a value that is not nested too deeply is kept as that value. -/
theorem close_ofJson (v : Json) {depth : Nat} (h : depth + v.nesting ≤ 127) :
    (Draft.ofJson v).close depth = .ok v := by
  match v with
  | .null => rfl
  | .bool _ => rfl
  | .integer _ => rfl
  | .float _ => rfl
  | .text _ => rfl
  | .array items =>
      rw [nesting] at h
      have hroom : ¬ 127 ≤ depth := by omega
      rw [Draft.ofJson, Draft.close, if_neg hroom,
        closeItems_ofItems items (show depth + 1 + nestingItems items ≤ 127 by omega)]
      rfl
  | .object members =>
      rw [nesting] at h
      have hroom : ¬ 127 ≤ depth := by omega
      rw [Draft.ofJson, Draft.close, if_neg hroom,
        closeMembers_ofMembers members (show depth + 1 + nestingMembers members ≤ 127 by omega)]
      rfl

/-- `close_ofJson` for the items of an array. -/
theorem closeItems_ofItems (items : List Json) {depth : Nat}
    (h : depth + nestingItems items ≤ 127) :
    Draft.closeItems depth (Draft.ofItems items) = .ok items := by
  match items with
  | [] => rfl
  | item :: rest =>
      rw [nestingItems] at h
      rw [Draft.ofItems, Draft.closeItems,
        close_ofJson item (show depth + item.nesting ≤ 127 by omega),
        closeItems_ofItems rest (show depth + nestingItems rest ≤ 127 by omega)]
      rfl

/-- `close_ofJson` for the members of an object. -/
theorem closeMembers_ofMembers (members : List (String × Json)) {depth : Nat}
    (h : depth + nestingMembers members ≤ 127) :
    Draft.closeMembers depth (Draft.ofMembers members) = .ok members := by
  match members with
  | [] => rfl
  | (key, value) :: rest =>
      rw [nestingMembers] at h
      rw [Draft.ofMembers, Draft.closeMembers,
        close_ofJson value (show depth + value.nesting ≤ 127 by omega),
        closeMembers_ofMembers rest (show depth + nestingMembers rest ≤ 127 by omega)]
      rfl

end

/-! ## Written values are decoded -/

theorem naturalUpTo_natural {limit n : Nat} (h : n ≤ limit) (type : String) (place : Place) :
    naturalUpTo limit type place (Draft.ofJson (natural n)) = .ok n := by
  have hrange : (0 : Int) ≤ n ∧ (n : Int) ≤ limit := by omega
  simp [natural, Draft.ofJson, naturalUpTo, hrange]

theorem string_text (s : String) (place : Place) :
    string place (Draft.ofJson (.text s)) = .ok s :=
  rfl

theorem boolean_bool (b : Bool) (place : Place) :
    boolean place (Draft.ofJson (.bool b)) = .ok b :=
  rfl

/-- What is written as null or as a value that is not null is decoded as an option. -/
theorem optional_ofJson {α : Type} {decode : Decoder α} {place : Place} {v : Json} {value : α}
    (hsome : v ≠ .null) (h : decode place (Draft.ofJson v) = .ok value) :
    optional decode place (Draft.ofJson v) = .ok (some value) := by
  cases v with
  | null => exact absurd rfl hsome
  | _ => exact congrArg (Except.map some) h

theorem optional_optionalText {decode : Decoder String} {place : Place}
    (h : ∀ s, decode place (.text s) = .ok s) (value : Option String) :
    optional decode place (Draft.ofJson (optionalText value)) = .ok value := by
  cases value with
  | none => rfl
  | some s => exact optional_ofJson nofun (h s)

theorem optional_optionalNatural {limit : Nat} {value : Option Nat} (h : ∀ n ∈ value, n ≤ limit)
    (type : String) (place : Place) :
    optional (naturalUpTo limit type) place (Draft.ofJson (optionalNatural value)) = .ok value := by
  cases value with
  | none => rfl
  | some n => exact optional_ofJson nofun (naturalUpTo_natural (h n rfl) type place)

theorem decodeItems_texts (texts : List String) (place : Place) :
    decodeItems string place (Draft.ofItems (texts.map .text)) = .ok texts := by
  induction texts with
  | nil => rfl
  | cons s rest ih =>
      rw [List.map_cons, Draft.ofItems, decodeItems, ih]
      rfl

theorem listOf_texts (texts : List String) (place : Place) :
    listOf string place (Draft.ofJson (.array (texts.map .text))) = .ok texts := by
  rw [Draft.ofJson, listOf, decodeItems_texts]
  rfl

/-- A name of an enumeration is decoded as the member that it names. -/
theorem enumeration_text {α : Type} {known : List (String × α)} {name : String} {value : α}
    (h : known.find? (fun v => v.1 == name) = some (name, value)) (place : Place) :
    enumeration known place (.text name) = .ok value := by
  have hvariant : variant known name = .ok value := by rw [variant, h]
  cases place <;> exact hvariant

/-- The members of an object with drafts for values. -/
def named (members : List (String × Draft)) : List (Option String × Draft) :=
  members.map fun m => (some m.1, m.2)

theorem ofMembers_eq_named (members : List (String × Json)) :
    Draft.ofMembers members = named (members.map fun m => (m.1, Draft.ofJson m.2)) := by
  induction members with
  | nil => rfl
  | cons m rest ih =>
      rw [Draft.ofMembers, ih]
      rfl

/-- Members are collected one by one, in whatever order they stand and however often a key
comes. -/
theorem decodeEntries_named {α : Type} {decode : Decoder α} {draft : α → Draft} {place : Place}
    (hdecode : ∀ value, decode place (draft value) = .ok value)
    (members entries : List (String × α)) :
    decodeEntries decode place (named (members.map fun m => (m.1, draft m.2))) entries =
      .ok (members.foldl (fun held m => insertMember m.1 m.2 held) entries) := by
  induction members generalizing entries with
  | nil => rfl
  | cons member members ih =>
      change decodeEntries decode place ((some member.1, draft member.2) :: named _) entries = _
      rw [decodeEntries, hdecode]
      exact ih _

/-- A dictionary is decoded from members in any order; of equal keys the last one stays. -/
theorem dictionary_named {α : Type} {decode : Decoder α} (draft : α → Draft) {place : Place}
    (hdecode : ∀ value, decode place.inner (draft value) = .ok value)
    (members : List (String × α)) :
    dictionary decode place
        (.object (named (members.map fun m => (m.1, draft m.2))) .closed) =
      .ok (sortMembers members) := by
  rw [dictionary, decodeEntries_named hdecode]
  rfl

theorem dictionary_ofJson {α : Type} {decode : Decoder α} {encode : α → Json} {place : Place}
    (hdecode : ∀ value, decode place.inner (Draft.ofJson (encode value)) = .ok value)
    {members : List (String × α)} (h : Ascending members) :
    dictionary decode place
        (Draft.ofJson (.object (members.map fun m => (m.1, encode m.2)))) = .ok members := by
  have hdictionary := dictionary_named (fun value => Draft.ofJson (encode value)) hdecode members
  rw [h.sortMembers_eq] at hdictionary
  rwa [Draft.ofJson, ofMembers_eq_named, List.map_map]

/-! ## Records -/

section Records

variable {σ α : Type} {place : Place}

theorem set_field {name : String} {decode : Decoder α} {store : α → σ → σ} {v : Json} {value : α}
    (h : decode place (Draft.ofJson v) = .ok value) (record : σ) :
    (field name decode store).set place (Draft.ofJson v) record = .ok (store value record) :=
  congrArg (Except.map fun value => store value record) h

/-- Drafts of members fill fields in order. -/
inductive Accepts (place : Place) : List (Field σ) → List (String × Draft) → σ → σ → Prop where
  | nil (record : σ) : Accepts place [] [] record record
  /-- A field is left out. -/
  | skip (f : Field σ) {fields : List (Field σ)} {members : List (String × Draft)}
      {record last : σ} (rest : Accepts place fields members record last) :
      Accepts place (f :: fields) members record last
  | cons {f : Field σ} {draft : Draft} {fields : List (Field σ)} {members : List (String × Draft)}
      {record mid last : σ} (hset : f.set place draft record = .ok mid)
      (rest : Accepts place fields members mid last) :
      Accepts place (f :: fields) ((f.name, draft) :: members) record last

/-- The members of a written record fill its fields in order. -/
inductive Fills (place : Place) : List (Field σ) → List (String × Json) → σ → σ → Prop where
  | nil (record : σ) : Fills place [] [] record record
  /-- A field is left out. -/
  | skip (f : Field σ) {fields : List (Field σ)} {members : List (String × Json)}
      {record last : σ} (rest : Fills place fields members record last) :
      Fills place (f :: fields) members record last
  | cons {f : Field σ} {v : Json} {fields : List (Field σ)} {members : List (String × Json)}
      {record mid last : σ} (hset : f.set place (Draft.ofJson v) record = .ok mid)
      (rest : Fills place fields members mid last) :
      Fills place (f :: fields) ((f.name, v) :: members) record last

theorem Fills.accepts {fields : List (Field σ)} {members : List (String × Json)} {record last : σ}
    (h : Fills place fields members record last) :
    Accepts place fields (members.map fun m => (m.1, Draft.ofJson m.2)) record last := by
  induction h with
  | nil record => exact .nil record
  | skip f _ ih => exact .skip f ih
  | cons hset _ ih => exact .cons hset ih

theorem find?_of_nodup {fields : List (Field σ)} (hnames : (fields.map Field.name).Nodup)
    {f : Field σ} (hf : f ∈ fields) : fields.find? (fun g => g.name == f.name) = some f := by
  induction fields with
  | nil => cases hf
  | cons g fields ih =>
      obtain ⟨hnew, hrest⟩ := List.nodup_cons.1 hnames
      rw [List.find?_cons]
      rcases List.mem_cons.1 hf with rfl | hf
      · rw [beq_self_eq_true]
      · have hne : g.name ≠ f.name := fun hsame => hnew (hsame ▸ List.mem_map_of_mem hf)
        rw [beq_false_of_ne hne]
        exact ih hrest hf

/-- Members that fill fields of different names are decoded. -/
theorem setMembers_of_accepts {all fields : List (Field σ)} {members : List (String × Draft)}
    {record last : σ} (h : Accepts place fields members record last)
    (hfind : ∀ f ∈ fields, all.find? (fun g => g.name == f.name) = some f)
    (hnames : (fields.map Field.name).Nodup) {seen : List String}
    (hseen : ∀ f ∈ fields, f.name ∉ seen) :
    Shape.setMembers all place seen (named members) record = .ok last := by
  induction h generalizing seen with
  | nil record => rfl
  | @skip f fields members record last rest ih =>
      have hlater {g : Field σ} (hg : g ∈ fields) : g ∈ f :: fields := List.mem_cons_of_mem _ hg
      exact ih (fun g hg => hfind g (hlater hg)) (List.nodup_cons.1 hnames).2
        fun g hg => hseen g (hlater hg)
  | @cons f draft fields members record mid last hset rest ih =>
      have hlater {g : Field σ} (hg : g ∈ fields) : g ∈ f :: fields := List.mem_cons_of_mem _ hg
      obtain ⟨hapart, hothers⟩ := List.nodup_cons.1 hnames
      have hunseen : ∀ g ∈ fields, g.name ∉ f.name :: seen := by
        intro g hg hmem
        rcases List.mem_cons.1 hmem with hsame | hmem
        · exact hapart (hsame ▸ List.mem_map_of_mem hg)
        · exact hseen g (hlater hg) hmem
      have hrest := ih (fun g hg => hfind g (hlater hg)) hothers hunseen
      have hnew : seen.contains f.name = false := by
        simpa using hseen f List.mem_cons_self
      change Shape.setMembers all place seen ((some f.name, draft) :: named members) record = _
      rw [Shape.setMembers]
      simp only [hfind f List.mem_cons_self, hnew, hset]
      exact hrest

/-- A record is decoded from the object that it is written as. -/
theorem Shape.decode_of_fills {shape : Shape σ α} {members : List (String × Json)} {last : σ}
    {value : α} (hnames : (shape.fields.map Field.name).Nodup)
    (hfills : Fills place.inner shape.fields members shape.blank last)
    (hfinish : shape.finish last = .ok value) :
    shape.decode place (Draft.ofJson (.object members)) = .ok value := by
  have hunseen : ∀ f ∈ shape.fields, f.name ∉ [] := fun _ _ => List.not_mem_nil
  have hmembers :=
    setMembers_of_accepts hfills.accepts (fun f hf => find?_of_nodup hnames hf) hnames hunseen
  rw [Draft.ofJson, Shape.decode, ofMembers_eq_named, hmembers]
  change shape.ofMembers last = .ok value
  rw [Shape.ofMembers, hfinish]

end Records

/-! ## Whatever is returned -/

/-- A computation that returns something has returned something before. -/
theorem exists_of_bind_eq_ok {ε α β : Type} {first : Except ε α} {next : α → Except ε β} {value : β}
    (h : (first >>= next) = .ok value) :
    ∃ before, first = .ok before ∧ next before = .ok value := by
  cases first with
  | error refusal => cases h
  | ok before => exact ⟨before, rfl, h⟩

theorem exists_of_map_eq_ok {ε α β : Type} {first : Except ε α} {f : α → β} {value : β}
    (h : first.map f = .ok value) : ∃ before, first = .ok before ∧ f before = value := by
  cases first with
  | error refusal => cases h
  | ok before => exact ⟨before, rfl, Except.ok.inj h⟩

theorem eq_some_of_requireField {α : Type} {name : String} {found : Option α} {value : α}
    (h : requireField name found = .ok value) : found = some value := by
  cases found with
  | none => cases h
  | some other => rw [Except.ok.inj h]

/-- Whatever a decoder returns has a property. -/
def Returns {α : Type} (decode : Decoder α) (P : α → Prop) : Prop :=
  ∀ place draft value, decode place draft = .ok value → P value

section Returns

variable {σ α : Type} {P : α → Prop} {Q : σ → Prop}

/-- Nothing that is refused is returned. -/
theorem wrongType_ne_ok {expected : String} {draft : Draft} {value : α} :
    wrongType expected draft ≠ .ok value := by
  cases draft <;> exact nofun

theorem returns_naturalUpTo (limit : Nat) (type : String) :
    Returns (naturalUpTo limit type) (· ≤ limit) := by
  intro place draft value h
  unfold naturalUpTo at h
  split at h
  next n =>
    split_ifs at h with hrange
    · cases h
      omega
    · cases h
  next => exact absurd h wrongType_ne_ok

theorem Returns.optional {decode : Decoder α} (hdecode : Returns decode P) :
    Returns (Json.optional decode) fun value => ∀ v ∈ value, P v := by
  intro place draft value h
  unfold Json.optional at h
  split at h
  next =>
    cases h
    exact nofun
  next other =>
    obtain ⟨found, hfound, rfl⟩ := exists_of_map_eq_ok h
    intro v hv
    cases hv
    exact hdecode place draft found hfound

theorem ascending_decodeEntries {decode : Decoder α} {place : Place}
    {members : List (Option String × Draft)} {entries found : List (String × α)}
    (hentries : Ascending entries) (h : decodeEntries decode place members entries = .ok found) :
    Ascending found := by
  induction members generalizing entries with
  | nil =>
      cases h
      exact hentries
  | cons member members ih =>
      obtain ⟨key, draft⟩ := member
      cases key with
      | none => cases h
      | some key =>
          obtain ⟨value, -, hrest⟩ := exists_of_bind_eq_ok h
          exact ih (hentries.insertMember key value) hrest

theorem returns_dictionary (decode : Decoder α) : Returns (dictionary decode) Ascending := by
  intro place draft found h
  unfold dictionary at h
  split at h
  next members ending =>
    obtain ⟨entries, hentries, hbehind⟩ := exists_of_bind_eq_ok h
    obtain ⟨-, -, hfound⟩ := exists_of_bind_eq_ok hbehind
    cases hfound
    exact ascending_decodeEntries ascending_nil hentries
  next => exact absurd h wrongType_ne_ok

/-- Whatever a field reads, a record keeps a property. -/
def Field.Keeps (f : Field σ) (Q : σ → Prop) : Prop :=
  ∀ place draft record next, Q record → f.set place draft record = .ok next → Q next

theorem keeps_field {decode : Decoder α} (hdecode : Returns decode P) (name : String)
    {store : α → σ → σ} (hstore : ∀ value record, P value → Q record → Q (store value record)) :
    (field name decode store).Keeps Q := by
  intro place draft record next hrecord hset
  obtain ⟨value, hvalue, rfl⟩ := exists_of_map_eq_ok hset
  exact hstore value record (hdecode place draft value hvalue) hrecord

theorem kept_setMembers {fields : List (Field σ)} (hfields : ∀ f ∈ fields, f.Keeps Q)
    {place : Place} {seen : List String} {members : List (Option String × Draft)}
    {record last : σ} (hrecord : Q record)
    (h : Shape.setMembers fields place seen members record = .ok last) : Q last := by
  induction members generalizing seen record with
  | nil =>
      cases h
      exact hrecord
  | cons member members ih =>
      obtain ⟨key, draft⟩ := member
      cases key with
      | none => cases h
      | some key =>
          rw [Shape.setMembers] at h
          cases hfound : fields.find? fun f => f.name == key with
          | none =>
              simp only [hfound] at h
              obtain ⟨-, -, hrest⟩ := exists_of_bind_eq_ok h
              exact ih hrecord hrest
          | some f =>
              simp only [hfound] at h
              split_ifs at h
              · cases h
              · obtain ⟨next, hset, hrest⟩ := exists_of_bind_eq_ok h
                have hkeeps := hfields f (List.mem_of_find?_eq_some hfound)
                exact ih (hkeeps place draft record next hrecord hset) hrest

theorem kept_setItems {place : Place} {fields : List (Field σ)}
    (hfields : ∀ f ∈ fields, f.Keeps Q) {items excess : List Draft} {record last : σ}
    (hrecord : Q record) (h : Shape.setItems place fields items record = .ok (last, excess)) :
    Q last := by
  induction fields generalizing items record with
  | nil =>
      cases h
      exact hrecord
  | cons f fields ih =>
      cases items with
      | nil =>
          cases h
          exact hrecord
      | cons item items =>
          obtain ⟨next, hset, hrest⟩ := exists_of_bind_eq_ok h
          have hnext := hfields f List.mem_cons_self place item record next hrecord hset
          exact ih (fun g hg => hfields g (List.mem_cons_of_mem _ hg)) hnext hrest

theorem Shape.finish_of_ofMembers {shape : Shape σ α} {record : σ} {value : α}
    (h : shape.ofMembers record = .ok value) : shape.finish record = .ok value := by
  unfold Shape.ofMembers at h
  split at h
  next hfinished =>
    cases h
    exact hfinished
  next => cases h

theorem Shape.finish_of_ofItems {shape : Shape σ α} {record : σ} {value : α}
    (h : shape.ofItems record = .ok value) : shape.finish record = .ok value := by
  unfold Shape.ofItems at h
  split at h
  next hfinished =>
    cases h
    exact hfinished
  next => cases h

/-- An array that is decoded as a record has been read item by item. -/
theorem Shape.exists_of_decodeArray {shape : Shape σ α} {place : Place} {items : List Draft}
    {ending : Ending} {value : α} (h : shape.decodeArray place items ending = .ok value) :
    ∃ last excess, Shape.setItems place.inner shape.fields items shape.blank = .ok (last, excess) ∧
      shape.finish last = .ok value := by
  obtain ⟨⟨last, excess⟩, hlast, hbehind⟩ := exists_of_bind_eq_ok h
  refine ⟨last, excess, hlast, ?_⟩
  dsimp only at hbehind
  split at hbehind
  on_goal 1 => obtain ⟨-, -, hbehind⟩ := exists_of_bind_eq_ok hbehind
  all_goals
    obtain ⟨found, hfound, htail⟩ := exists_of_bind_eq_ok hbehind
    split_ifs at htail
    · obtain ⟨-, -, hsame⟩ := exists_of_bind_eq_ok htail
      cases hsame
      exact Shape.finish_of_ofItems hfound
    · split at htail <;> cases htail

/-- Whatever is decoded as a record comes from a record that its fields have kept in order. -/
theorem Shape.returns_decode {shape : Shape σ α} (hblank : Q shape.blank)
    (hfields : ∀ f ∈ shape.fields, f.Keeps Q)
    (hfinish : ∀ record value, Q record → shape.finish record = .ok value → P value) :
    Returns shape.decode P := by
  intro place draft value h
  unfold Shape.decode at h
  split at h
  next members ending =>
    obtain ⟨last, hlast, hbehind⟩ := exists_of_bind_eq_ok h
    obtain ⟨-, -, hvalue⟩ := exists_of_bind_eq_ok hbehind
    exact hfinish last value (kept_setMembers hfields hblank hlast)
      (Shape.finish_of_ofMembers hvalue)
  next items ending =>
    obtain ⟨last, excess, hlast, hvalue⟩ := Shape.exists_of_decodeArray h
    exact hfinish last value (kept_setItems hfields hblank hlast) hvalue
  next => exact absurd h wrongType_ne_ok

/-- A field that has nothing to do with a property keeps it. -/
theorem keeps_field_of_apart (name : String) (decode : Decoder α) {store : α → σ → σ}
    (hstore : ∀ value record, Q record → Q (store value record)) :
    (field name decode store).Keeps Q := by
  have hdecode : Returns decode fun _ => True := fun _ _ _ _ => trivial
  exact keeps_field hdecode name fun value record _ => hstore value record

end Returns

end CanvasPress.Json
