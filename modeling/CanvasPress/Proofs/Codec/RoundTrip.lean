/-
# Encoding and decoding

The compact text of a document, of render options, of launch settings, of settings and of
batch options is decoded to the value that it was written from.  Numbers have a width in
these values, and the sections of a document stand in the order of their keys; whatever is
decoded from a text is such a value, so writing it and reading it again changes nothing.
-/

import CanvasPress.Codec.Options
import CanvasPress.Proofs.Json.Decoding

namespace CanvasPress

open Json

/-! ## Names -/

theorem Kind.decode_encode (kind : Kind) (place : Place) :
    Kind.decode place (Draft.ofJson kind.encode) = .ok kind := by
  cases kind <;> exact enumeration_text rfl place

theorem Format.decode_encode (format : Format) (place : Place) :
    Format.decode place (Draft.ofJson format.encode) = .ok format := by
  cases format <;> exact enumeration_text rfl place

theorem Encoding.decode_encode (encoding : Encoding) (place : Place) :
    Encoding.decode place (Draft.ofJson encoding.encode) = .ok encoding := by
  cases encoding <;> exact enumeration_text rfl place

/-! ## Numbers -/

theorem octet_natural {n : Nat} (h : n < 2 ^ 8) (place : Place) :
    octet place (Draft.ofJson (.natural n)) = .ok n :=
  naturalUpTo_natural (Nat.le_pred_of_lt h) _ place

theorem word_natural {n : Nat} (h : n < 2 ^ 32) (place : Place) :
    word place (Draft.ofJson (.natural n)) = .ok n :=
  naturalUpTo_natural (Nat.le_pred_of_lt h) _ place

theorem long_natural {n : Nat} (h : n < 2 ^ 64) (place : Place) :
    long place (Draft.ofJson (.natural n)) = .ok n :=
  naturalUpTo_natural (Nat.le_pred_of_lt h) _ place

theorem count_natural {n : Nat} (h : n < 2 ^ 64) (place : Place) :
    count place (Draft.ofJson (.natural n)) = .ok n :=
  naturalUpTo_natural (Nat.le_pred_of_lt h) _ place

theorem returns_naturalBelow (bits : Nat) (type : String) :
    Returns (naturalUpTo (twoTo bits - 1) type) (· < 2 ^ bits) := by
  intro place draft n h
  have hle := returns_naturalUpTo _ type place draft n h
  have hpositive : 0 < 2 ^ bits := Nat.two_pow_pos bits
  have hsame : twoTo bits = 2 ^ bits := rfl
  rw [hsame] at hle
  omega

/-! ## Documents -/

theorem Section.textsOf?_texts (texts : List String) :
    Section.textsOf? (texts.map .text) = some texts := by
  induction texts with
  | nil => rfl
  | cons s rest ih =>
      rw [List.map_cons, Section.textsOf?, ih]
      rfl

theorem Section.nesting_encode (s : Section) : s.encode.nesting ≤ 1 := by
  cases s with
  | text content => exact Nat.zero_le 1
  | list entries =>
      have hflat : nestingItems (entries.map .text) = 0 := by
        induction entries with
        | nil => rfl
        | cons entry rest ih =>
            rw [List.map_cons, nestingItems, ih]
            rfl
      rw [Section.encode, nesting, hflat]

theorem Section.ofJson?_encode (s : Section) : Section.ofJson? s.encode = some s := by
  cases s with
  | text content => rfl
  | list entries =>
      rw [Section.encode, Section.ofJson?, textsOf?_texts]
      rfl

theorem Section.decode_encode (s : Section) {depth : Nat} (hdepth : depth < 127) :
    Section.decode (.text depth) (Draft.ofJson s.encode) = .ok s := by
  have hnesting := s.nesting_encode
  have hclose := close_ofJson s.encode (show depth + s.encode.nesting ≤ 127 by omega)
  rw [Section.decode, Section.depthOf, hclose]
  simp only [orUnreadable, bind, Except.bind, s.ofJson?_encode]
  rfl

theorem Section.isPortable_encode (s : Section) : s.encode.IsPortable := by
  cases s with
  | text content => trivial
  | list entries => exact arePortable_texts entries

namespace Document

/-- The sections stand in ascending order of their keys, each key once. -/
def IsOrdered (doc : Document) : Prop :=
  Ascending doc.sections

theorem isPortable_encode (doc : Document) : doc.encode.IsPortable := by
  have hsections : MembersPortable (doc.sections.map fun s => (s.1, s.2.encode)) := by
    apply membersPortable_of_forall
    intro m hm
    obtain ⟨s, -, rfl⟩ := List.mem_map.1 hm
    exact s.2.isPortable_encode
  obtain ⟨id, kind, sections⟩ := doc
  cases id with
  | none => exact ⟨trivial, hsections, trivial⟩
  | some id => exact ⟨trivial, trivial, hsections, trivial⟩

theorem nodup_fields : (shape.fields.map Field.name).Nodup := by
  decide

theorem decode_encode {doc : Document} (h : doc.IsOrdered) :
    decode (.text 0) (Draft.ofJson doc.encode) = .ok doc := by
  have hsections : dictionary Section.decode (.text 1)
      (Draft.ofJson (.object (doc.sections.map fun s => (s.1, s.2.encode)))) = .ok doc.sections :=
    dictionary_ofJson (fun s => s.decode_encode (by decide)) h
  have hrest (record : Partial) : Fills (.text 1)
      [field "type" Kind.decode fun v r => { r with kind := some v },
        field "sections" (dictionary Section.decode) fun v r => { r with sections := v }]
      [("type", doc.kind.encode),
        ("sections", .object (doc.sections.map fun s => (s.1, s.2.encode)))]
      record { record with kind := some doc.kind, sections := doc.sections } :=
    .cons (set_field (doc.kind.decode_encode _) record) <|
    .cons (set_field hsections _) <| .nil _
  obtain ⟨id, kind, sections⟩ := doc
  cases id with
  | none => exact Shape.decode_of_fills nodup_fields (.skip _ (hrest _)) rfl
  | some id =>
      have hid : optional string (.text 1) (Draft.ofJson (.text id)) = .ok (some id) :=
        optional_ofJson nofun rfl
      exact Shape.decode_of_fills nodup_fields (.cons (set_field hid _) (hrest _)) rfl

theorem returns_decode : Returns decode IsOrdered := by
  have hfields : ∀ f ∈ shape.fields, f.Keeps fun r => Ascending r.sections := by
    simp only [shape, List.forall_mem_cons]
    exact ⟨keeps_field_of_apart _ _ fun _ _ h => h, keeps_field_of_apart _ _ fun _ _ h => h,
      keeps_field (returns_dictionary _) _ fun _ _ h _ => h, fun _ h => absurd h List.not_mem_nil⟩
  refine Shape.returns_decode ascending_nil hfields fun record doc hrecord hfinish => ?_
  obtain ⟨id, kind, sections⟩ := record
  cases kind with
  | none => cases hfinish
  | some kind =>
      cases hfinish
      exact hrecord

end Document

/-! ## Render options -/

namespace RenderOptions

/-- Sizes and density have 32 bits. -/
structure IsBounded (options : RenderOptions) : Prop where
  width : options.width < 2 ^ 32
  height : options.height < 2 ^ 32
  dpi : options.dpi < 2 ^ 32

/-- What has been collected is bounded. -/
structure Partial.IsBounded (record : Partial) : Prop where
  width : ∀ n ∈ record.width, n < 2 ^ 32
  height : ∀ n ∈ record.height, n < 2 ^ 32
  dpi : ∀ n ∈ record.dpi, n < 2 ^ 32

theorem membersPortable_members {options : RenderOptions} (h : options.IsBounded) :
    MembersPortable options.members := by
  obtain ⟨hwidth, hheight, hdpi⟩ := h
  exact ⟨trivial, trivial, isPortable_natural (by omega), isPortable_natural (by omega),
    isPortable_natural (by omega), trivial, trivial, trivial⟩

theorem nodup_fields : (shape.fields.map Field.name).Nodup := by
  decide

theorem decode_encode {options : RenderOptions} (h : options.IsBounded) (place : Place) :
    decode place (Draft.ofJson options.encode) = .ok options := by
  have hfills : Fills place.inner shape.fields options.members shape.blank
      ⟨some options.format, some options.theme, some options.width, some options.height,
        some options.dpi, some options.includeMetadata, options.encoding⟩ :=
    .cons (set_field (options.format.decode_encode _) _) <|
    .cons (set_field (string_text _ _) _) <|
    .cons (set_field (word_natural h.width _) _) <|
    .cons (set_field (word_natural h.height _) _) <|
    .cons (set_field (word_natural h.dpi _) _) <|
    .cons (set_field (boolean_bool _ _) _) <|
    .cons (set_field (options.encoding.decode_encode _) _) <|
    .nil _
  exact Shape.decode_of_fills nodup_fields hfills rfl

theorem returns_decode : Returns decode IsBounded := by
  have hfields : ∀ f ∈ shape.fields, f.Keeps Partial.IsBounded := by
    simp only [shape, List.forall_mem_cons]
    exact ⟨keeps_field_of_apart _ _ fun _ _ h => { h with },
      keeps_field_of_apart _ _ fun _ _ h => { h with },
      keeps_field (returns_naturalBelow 32 _) _ fun _ _ hn h => { h with width := by simpa },
      keeps_field (returns_naturalBelow 32 _) _ fun _ _ hn h => { h with height := by simpa },
      keeps_field (returns_naturalBelow 32 _) _ fun _ _ hn h => { h with dpi := by simpa },
      keeps_field_of_apart _ _ fun _ _ h => { h with },
      keeps_field_of_apart _ _ fun _ _ h => { h with }, nofun⟩
  refine Shape.returns_decode ⟨nofun, nofun, nofun⟩ hfields fun record options hrecord h => ?_
  obtain ⟨format, -, h⟩ := exists_of_bind_eq_ok h
  obtain ⟨theme, -, h⟩ := exists_of_bind_eq_ok h
  obtain ⟨width, hwidth, h⟩ := exists_of_bind_eq_ok h
  obtain ⟨height, hheight, h⟩ := exists_of_bind_eq_ok h
  obtain ⟨dpi, hdpi, h⟩ := exists_of_bind_eq_ok h
  obtain ⟨includeMetadata, -, h⟩ := exists_of_bind_eq_ok h
  cases h
  exact ⟨hrecord.width _ (eq_some_of_requireField hwidth),
    hrecord.height _ (eq_some_of_requireField hheight),
    hrecord.dpi _ (eq_some_of_requireField hdpi)⟩

end RenderOptions

/-! ## Settings -/

namespace LaunchSettings

/-- The time limit has 64 bits. -/
def IsBounded (settings : LaunchSettings) : Prop :=
  settings.launchTimeoutMs < 2 ^ 64

theorem isPortable_encode {settings : LaunchSettings} (h : settings.IsBounded) :
    settings.encode.IsPortable :=
  ⟨trivial, trivial, trivial, isPortable_natural h, arePortable_texts _,
    isPortable_optionalText _, trivial⟩

theorem nodup_fields : (shape.fields.map Field.name).Nodup := by
  decide

theorem decode_encode {settings : LaunchSettings} (h : settings.IsBounded) (place : Place) :
    decode place (Draft.ofJson settings.encode) = .ok settings := by
  have hpath : optional path place.inner (Draft.ofJson (optionalText settings.chromePath)) =
      .ok settings.chromePath :=
    optional_optionalText (fun _ => rfl) settings.chromePath
  have hfills : Fills place.inner shape.fields _ shape.blank settings :=
    .cons (set_field (boolean_bool settings.headless _) _) <|
    .cons (set_field (boolean_bool settings.sandbox _) _) <|
    .cons (set_field (boolean_bool settings.singleProcess _) _) <|
    .cons (set_field (long_natural h _) _) <|
    .cons (set_field (listOf_texts settings.extraArgs _) _) <|
    .cons (set_field hpath _) <|
    .nil _
  exact Shape.decode_of_fills nodup_fields hfills rfl

theorem returns_decode : Returns decode IsBounded := by
  have hfields : ∀ f ∈ shape.fields, f.Keeps IsBounded := by
    simp only [shape, List.forall_mem_cons]
    exact ⟨keeps_field_of_apart _ _ fun _ _ h => h, keeps_field_of_apart _ _ fun _ _ h => h,
      keeps_field_of_apart _ _ fun _ _ h => h,
      keeps_field (returns_naturalBelow 64 _) _ fun _ _ hn _ => hn,
      keeps_field_of_apart _ _ fun _ _ h => h, keeps_field_of_apart _ _ fun _ _ h => h, nofun⟩
  refine Shape.returns_decode (show (30000 : Nat) < 2 ^ 64 by decide) hfields ?_
  intro record settings hrecord hfinish
  cases hfinish
  exact hrecord

end LaunchSettings

namespace Settings

/-- Every number fits the width of its field. -/
structure IsBounded (settings : Settings) : Prop where
  defaultDpi : settings.defaultDpi < 2 ^ 32
  cacheExpiryMs : settings.cacheExpiryMs < 2 ^ 64
  maxConcurrentRenders : settings.maxConcurrentRenders < 2 ^ 64
  rasterQuality : settings.rasterQuality < 2 ^ 8
  maxQueueDepth : ∀ n ∈ settings.maxQueueDepth, n < 2 ^ 64
  renderTimeoutMs : ∀ n ∈ settings.renderTimeoutMs, n < 2 ^ 64
  engine : settings.engine.IsBounded

theorem isBounded_default : ({} : Settings).IsBounded :=
  ⟨by decide, by decide, by decide, by decide, nofun, nofun,
    show (30000 : Nat) < 2 ^ 64 by decide⟩

theorem isPortable_encode {settings : Settings} (h : settings.IsBounded) :
    settings.encode.IsPortable := by
  have hdpi := h.defaultDpi
  have hquality := h.rasterQuality
  exact ⟨isPortable_optionalText _, isPortable_optionalText _, trivial,
    isPortable_natural (by omega), trivial, isPortable_natural h.cacheExpiryMs,
    isPortable_natural h.maxConcurrentRenders, isPortable_natural (by omega),
    isPortable_optionalNatural h.maxQueueDepth, isPortable_optionalNatural h.renderTimeoutMs,
    LaunchSettings.isPortable_encode h.engine, trivial⟩

theorem nodup_fields : (shape.fields.map Field.name).Nodup := by
  decide

theorem decode_encode {settings : Settings} (h : settings.IsBounded) (place : Place) :
    decode place (Draft.ofJson settings.encode) = .ok settings := by
  have hpath (value : Option String) :
      optional path place.inner (Draft.ofJson (optionalText value)) = .ok value :=
    optional_optionalText (fun _ => rfl) value
  have hnumber {value : Option Nat} (hvalue : ∀ n ∈ value, n < 2 ^ 64) (type : String) :
      optional (naturalUpTo (twoTo 64 - 1) type) place.inner
        (Draft.ofJson (optionalNatural value)) = .ok value :=
    optional_optionalNatural (fun n hn => Nat.le_pred_of_lt (hvalue n hn)) type place.inner
  have hfills : Fills place.inner shape.fields _ shape.blank settings :=
    .cons (set_field (hpath settings.templatesPath) _) <|
    .cons (set_field (hpath settings.outputPath) _) <|
    .cons (set_field (string_text settings.defaultTheme _) _) <|
    .cons (set_field (word_natural h.defaultDpi _) _) <|
    .cons (set_field (boolean_bool settings.enableCaching _) _) <|
    .cons (set_field (long_natural h.cacheExpiryMs _) _) <|
    .cons (set_field (count_natural h.maxConcurrentRenders _) _) <|
    .cons (set_field (octet_natural h.rasterQuality _) _) <|
    .cons (set_field (hnumber h.maxQueueDepth _) _) <|
    .cons (set_field (hnumber h.renderTimeoutMs _) _) <|
    .cons (set_field (LaunchSettings.decode_encode h.engine _) _) <|
    .nil _
  exact Shape.decode_of_fills nodup_fields hfills rfl

theorem returns_decode : Returns decode IsBounded := by
  have hfields : ∀ f ∈ shape.fields, f.Keeps IsBounded := by
    simp only [shape, List.forall_mem_cons]
    exact ⟨keeps_field_of_apart _ _ fun _ _ h => { h with },
      keeps_field_of_apart _ _ fun _ _ h => { h with },
      keeps_field_of_apart _ _ fun _ _ h => { h with },
      keeps_field (returns_naturalBelow 32 _) _ fun _ _ hn h => { h with defaultDpi := hn },
      keeps_field_of_apart _ _ fun _ _ h => { h with },
      keeps_field (returns_naturalBelow 64 _) _ fun _ _ hn h => { h with cacheExpiryMs := hn },
      keeps_field (returns_naturalBelow 64 _) _ fun _ _ hn h =>
        { h with maxConcurrentRenders := hn },
      keeps_field (returns_naturalBelow 8 _) _ fun _ _ hn h => { h with rasterQuality := hn },
      keeps_field (returns_naturalBelow 64 _).optional _ fun _ _ hn h =>
        { h with maxQueueDepth := hn },
      keeps_field (returns_naturalBelow 64 _).optional _ fun _ _ hn h =>
        { h with renderTimeoutMs := hn },
      keeps_field LaunchSettings.returns_decode _ fun _ _ hn h => { h with engine := hn }, nofun⟩
  refine Shape.returns_decode isBounded_default hfields fun record settings hrecord hfinish => ?_
  cases hfinish
  exact hrecord

end Settings

/-! ## Batch options -/

namespace BatchOptions

/-- The size of a group has 64 bits, and the shared options are bounded. -/
structure IsBounded (batch : BatchOptions) : Prop where
  concurrency : batch.concurrency < 2 ^ 64
  options : batch.options.IsBounded

theorem isPortable_encode {batch : BatchOptions} (h : batch.IsBounded) :
    batch.encode.IsPortable :=
  ⟨isPortable_natural h.concurrency, RenderOptions.membersPortable_members h.options⟩

/-- Members that are not the own field are set aside whole, in order. -/
theorem readMembers_ofMembers {place : Place} {depth : Nat} (hplace : place = .text depth)
    {members : List (String × Json)}
    (hmembers : ∀ m ∈ members, m.1 ≠ "concurrency" ∧ depth + m.2.nesting ≤ 127)
    (own : Option Nat) (others : List (String × Json)) :
    readMembers place (Draft.ofMembers members) own others =
      .ok (own, others.reverse ++ members) := by
  subst hplace
  induction members generalizing others with
  | nil =>
      rw [List.append_nil]
      rfl
  | cons member members ih =>
      obtain ⟨key, value⟩ := member
      obtain ⟨hkey, hnesting⟩ := hmembers _ List.mem_cons_self
      have hrest := ih (fun m hm => hmembers m (List.mem_cons_of_mem _ hm)) ((key, value) :: others)
      rw [List.reverse_cons, List.append_assoc, List.singleton_append] at hrest
      simp only [Draft.ofMembers, readMembers, if_neg hkey, close_ofJson value hnesting]
      exact hrest

theorem decode_encode {batch : BatchOptions} (h : batch.IsBounded) :
    decode (.text 0) (Draft.ofJson batch.encode) = .ok batch := by
  have hflat : ∀ m ∈ batch.options.members, m.1 ≠ "concurrency" ∧ m.2.nesting = 0 := by
    simp only [RenderOptions.members, List.forall_mem_cons]
    exact ⟨⟨by decide, rfl⟩, ⟨by decide, rfl⟩, ⟨by decide, rfl⟩, ⟨by decide, rfl⟩,
      ⟨by decide, rfl⟩, ⟨by decide, rfl⟩, ⟨by decide, rfl⟩, nofun⟩
  have hshared : ∀ m ∈ batch.options.members, m.1 ≠ "concurrency" ∧ 1 + m.2.nesting ≤ 127 := by
    intro m hm
    obtain ⟨hkey, hnesting⟩ := hflat m hm
    exact ⟨hkey, by omega⟩
  have hothers := readMembers_ofMembers rfl hshared (some batch.concurrency) []
  have hmembers : readMembers (.text 1)
      (Draft.ofMembers (("concurrency", .natural batch.concurrency) :: batch.options.members))
      none [] = .ok (some batch.concurrency, batch.options.members) := by
    rw [Draft.ofMembers, readMembers, if_pos rfl, count_natural h.concurrency]
    exact hothers
  have hoptions : RenderOptions.decode .buffered
      (Draft.ofJson (.object batch.options.members)) = .ok batch.options :=
    RenderOptions.decode_encode h.options .buffered
  rw [encode, Draft.ofJson, decode]
  change (readMembers (.text 1) _ none [] >>= _) = _
  rw [hmembers]
  change (RenderOptions.decode .buffered _ >>= _) = _
  rw [hoptions]
  rfl

theorem bounded_of_readMembers {place : Place} {members : List (Option String × Draft)}
    {own found : Option Nat} {others rest : List (String × Json)}
    (hown : ∀ n ∈ own, n < 2 ^ 64)
    (h : readMembers place members own others = .ok (found, rest)) : ∀ n ∈ found, n < 2 ^ 64 := by
  induction members generalizing own others with
  | nil =>
      cases h
      exact hown
  | cons member members ih =>
      obtain ⟨key, draft⟩ := member
      cases key with
      | none => cases h
      | some key =>
          by_cases hkey : key = "concurrency"
          · cases own with
            | some n =>
                simp only [readMembers, if_pos hkey] at h
                cases h
            | none =>
                simp only [readMembers, if_pos hkey] at h
                obtain ⟨n, hn, hrest⟩ := exists_of_bind_eq_ok h
                have hbounded := returns_naturalBelow 64 _ place draft n hn
                exact ih (by simpa using hbounded) hrest
          · simp only [readMembers, if_neg hkey] at h
            obtain ⟨value, -, hrest⟩ := exists_of_bind_eq_ok h
            exact ih hown hrest

theorem returns_decode : Returns decode IsBounded := by
  intro place draft batch h
  unfold decode at h
  split at h
  next members ending =>
    obtain ⟨⟨own, others⟩, hmembers, h⟩ := exists_of_bind_eq_ok h
    obtain ⟨-, -, h⟩ := exists_of_bind_eq_ok h
    obtain ⟨options, hoptions, h⟩ := exists_of_bind_eq_ok h
    cases h
    have hnone : ∀ n ∈ (none : Option Nat), n < 2 ^ 64 := nofun
    have hown := bounded_of_readMembers hnone hmembers
    have hconcurrency : own.getD defaultConcurrency < 2 ^ 64 := by
      cases own with
      | none => exact show (3 : Nat) < 2 ^ 64 by decide
      | some n => exact hown n rfl
    exact ⟨hconcurrency, RenderOptions.returns_decode _ _ _ hoptions⟩
  next => exact absurd h wrongType_ne_ok

end BatchOptions

/-! ## The theorem -/

theorem Json.of_decodeText {α : Type} {decode : Decoder α} {P : α → Prop} (h : Returns decode P)
    {text : String} {value : α} (hread : decodeText decode text = .ok value) : P value := by
  obtain ⟨found, hfound, hend⟩ := exists_of_bind_eq_ok hread
  split_ifs at hend
  cases hend
  exact h _ _ _ hfound

/-- A value comes back when its compact text is decoded. -/
def Json.Survives {α : Type} (decode : Decoder α) (encode : α → Json) (value : α) : Prop :=
  decodeText decode (encode value).compact = .ok value

/-- Decoding undoes encoding.  A document whose sections stand in the order of their keys
comes back when its compact text is decoded, and so do render options, launch settings,
settings and batch options whose numbers fit their fields.  Nothing else can be decoded from
any text, so what has been decoded once comes back too. -/
theorem written_values_survive :
    ((∀ doc : Document, doc.IsOrdered → Survives Document.decode Document.encode doc) ∧
        ∀ text doc, decodeText Document.decode text = .ok doc →
          doc.IsOrdered ∧ Survives Document.decode Document.encode doc) ∧
      ((∀ options : RenderOptions, options.IsBounded →
          Survives RenderOptions.decode RenderOptions.encode options) ∧
        ∀ text options, decodeText RenderOptions.decode text = .ok options →
          options.IsBounded ∧ Survives RenderOptions.decode RenderOptions.encode options) ∧
      ((∀ settings : LaunchSettings, settings.IsBounded →
          Survives LaunchSettings.decode LaunchSettings.encode settings) ∧
        ∀ text settings, decodeText LaunchSettings.decode text = .ok settings →
          settings.IsBounded ∧ Survives LaunchSettings.decode LaunchSettings.encode settings) ∧
      ((∀ settings : Settings, settings.IsBounded →
          Survives Settings.decode Settings.encode settings) ∧
        ∀ text settings, decodeText Settings.decode text = .ok settings →
          settings.IsBounded ∧ Survives Settings.decode Settings.encode settings) ∧
      (∀ batch : BatchOptions, batch.IsBounded →
          Survives BatchOptions.decode BatchOptions.encode batch) ∧
        ∀ text batch, decodeText BatchOptions.decode text = .ok batch →
          batch.IsBounded ∧ Survives BatchOptions.decode BatchOptions.encode batch := by
  have hdocument (doc : Document) (h : doc.IsOrdered) :
      Survives Document.decode Document.encode doc :=
    (decodeText_compact _ doc.isPortable_encode).trans (Document.decode_encode h)
  have hoptions (options : RenderOptions) (h : options.IsBounded) :
      Survives RenderOptions.decode RenderOptions.encode options :=
    (decodeText_compact _ (v := options.encode) (RenderOptions.membersPortable_members h)).trans
      (RenderOptions.decode_encode h _)
  have hlaunch (settings : LaunchSettings) (h : settings.IsBounded) :
      Survives LaunchSettings.decode LaunchSettings.encode settings :=
    (decodeText_compact _ (LaunchSettings.isPortable_encode h)).trans
      (LaunchSettings.decode_encode h _)
  have hsettings (settings : Settings) (h : settings.IsBounded) :
      Survives Settings.decode Settings.encode settings :=
    (decodeText_compact _ (Settings.isPortable_encode h)).trans (Settings.decode_encode h _)
  have hbatch (batch : BatchOptions) (h : batch.IsBounded) :
      Survives BatchOptions.decode BatchOptions.encode batch :=
    (decodeText_compact _ (BatchOptions.isPortable_encode h)).trans (BatchOptions.decode_encode h)
  refine ⟨⟨hdocument, ?_⟩, ⟨hoptions, ?_⟩, ⟨hlaunch, ?_⟩, ⟨hsettings, ?_⟩, hbatch, ?_⟩
  · intro text doc hread
    have hordered := of_decodeText Document.returns_decode hread
    exact ⟨hordered, hdocument doc hordered⟩
  · intro text options hread
    have hbounded := of_decodeText RenderOptions.returns_decode hread
    exact ⟨hbounded, hoptions options hbounded⟩
  · intro text settings hread
    have hbounded := of_decodeText LaunchSettings.returns_decode hread
    exact ⟨hbounded, hlaunch settings hbounded⟩
  · intro text settings hread
    have hbounded := of_decodeText Settings.returns_decode hread
    exact ⟨hbounded, hsettings settings hbounded⟩
  · intro text batch hread
    have hbounded := of_decodeText BatchOptions.returns_decode hread
    exact ⟨hbounded, hbatch batch hbounded⟩

/-- Quotes, controls, letters outside ASCII, empty keys, empty lists and the greatest numbers
come back; so does a document from a text with a member twice and members unknown. -/
theorem written_values_survive_of_hostile_text :
    let doc : Document := ⟨some "\"\\", .businessModel,
      [("", .list []), ("\x01\n", .text "é😀\x7f"), ("title", .list ["", "\t/"])]⟩
    let options : RenderOptions := ⟨.paginated, "\\u0041", 4294967295, 0, 300, false, .jpeg⟩
    let settings : Settings := {
      templatesPath := some "a b/ü", cacheExpiryMs := 18446744073709551615, rasterQuality := 255,
      maxQueueDepth := some 0, engine := { extraArgs := [], chromePath := some "" } }
    let text := "[null , \x7b\"valueProposition\":null\x7d,\n" ++
      "\x7b\"b\":\"x\",\"a\":[],\"b\":[\"y\"]\x7d]"
    let read : Document := ⟨none, .valueProposition, [("a", .list []), ("b", .list ["y"])]⟩
    (doc.IsOrdered ∧ Survives Document.decode Document.encode doc) ∧
      (options.IsBounded ∧ Survives RenderOptions.decode RenderOptions.encode options) ∧
      (settings.engine.IsBounded ∧
        Survives LaunchSettings.decode LaunchSettings.encode settings.engine) ∧
      (settings.IsBounded ∧ Survives Settings.decode Settings.encode settings) ∧
      ((⟨0, options⟩ : BatchOptions).IsBounded ∧
        Survives BatchOptions.decode BatchOptions.encode ⟨0, options⟩) ∧
      decodeText Document.decode text = .ok read ∧
        Survives Document.decode Document.encode read := by
  intro doc options settings text read
  have hordered : doc.IsOrdered := by
    unfold Document.IsOrdered Ascending
    decide
  have hoptions : options.IsBounded := ⟨by decide, by decide, by decide⟩
  have hengine : settings.engine.IsBounded := by
    unfold LaunchSettings.IsBounded
    decide
  have hsettings : settings.IsBounded :=
    ⟨by decide, by decide, by decide, by decide, fun n hn => by cases hn; decide, nofun, hengine⟩
  have hbatch : (⟨0, options⟩ : BatchOptions).IsBounded := ⟨by decide, hoptions⟩
  have hread : decodeText Document.decode text = .ok read := by decide +kernel
  obtain ⟨⟨hdocuments, hdecoded⟩, ⟨hrenders, -⟩, ⟨hlaunches, -⟩, ⟨hall, -⟩, hbatches, -⟩ :=
    written_values_survive
  exact ⟨⟨hordered, hdocuments doc hordered⟩, ⟨hoptions, hrenders options hoptions⟩,
    ⟨hengine, hlaunches settings.engine hengine⟩, ⟨hsettings, hall settings hsettings⟩,
    ⟨hbatch, hbatches _ hbatch⟩, hread, (hdecoded text read hread).2⟩

end CanvasPress
