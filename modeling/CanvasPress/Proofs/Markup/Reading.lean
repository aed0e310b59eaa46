/-
# Drafts are read back

The reader takes one character after the other, so what it makes of a written draft is put
together from what it makes of the parts, each from the place where the part begins to the
place where it ends.  Between tags a written draft leads from text to text, and the innermost
open element has gained what the draft says.  By induction over drafts that holds of whole
trees, and it fails only for characters that no markup may hold.
-/

import CanvasPress.Markup.Reader
import CanvasPress.Proofs.Markup.Legality
import Mathlib.Data.List.Nodup

namespace CanvasPress.Markup

open Text Draft

namespace Progress

variable {inner : Progress → List Char → Option Progress} {entities : Entities}
  {p q r : Progress} {s s' : List Char} {c : Char}

/-! ## Reading a part -/

/-- Reading a text leads from one progress to another. -/
def Reads (inner : Progress → List Char → Option Progress) (entities : Entities) (p : Progress)
    (s : List Char) (q : Progress) : Prop :=
  s.foldlM (step? inner entities) p = some q

theorem Reads.refl : Reads inner entities p [] p :=
  rfl

theorem Reads.append (h : Reads inner entities p s q) (h' : Reads inner entities q s' r) :
    Reads inner entities p (s ++ s') r := by
  rw [Reads, List.foldlM_append, h]
  exact h'

theorem Reads.one (hlegal : isLegal c = true) (h : p.legalStep? inner entities c = some q) :
    Reads inner entities p [c] q := by
  rw [Reads, List.foldlM_cons, step?, if_pos hlegal, h]
  rfl

theorem Reads.cons (hlegal : isLegal c = true) (h : p.legalStep? inner entities c = some q)
    (h' : Reads inner entities q s r) : Reads inner entities p (c :: s) r :=
  (Reads.one hlegal h).append h'

/-- Nothing is read of a text with a character that markup may not hold. -/
theorem Reads.isLegal (h : Reads inner entities p s q) : ∀ c ∈ s, isLegal c = true := by
  induction s generalizing p with
  | nil =>
      intro c hc
      cases hc
  | cons d s ih =>
      rw [Reads, List.foldlM_cons, step?] at h
      by_cases hd : Markup.isLegal d = true
      · rw [if_pos hd] at h
        obtain ⟨next, -, hrest⟩ := Option.bind_eq_some_iff.1 h
        intro c hc
        rcases List.mem_cons.1 hc with rfl | hc
        · exact hd
        · exact ih hrest c hc
      · rw [if_neg hd] at h
        cases h

/-- Characters that are collected in a place, the last one in front. -/
theorem reads_collected (place : List Char → Place)
    (hstep : ∀ written, ∀ c ∈ s,
      (p.goTo (place written)).legalStep? inner entities c = some (p.goTo (place (c :: written))))
    (hlegal : ∀ c ∈ s, isLegal c = true) (written : List Char) :
    Reads inner entities (p.goTo (place written)) s (p.goTo (place (s.reverse ++ written))) := by
  induction s generalizing written with
  | nil => exact .refl
  | cons c s ih =>
      rw [List.reverse_cons, List.append_assoc]
      exact .cons (hlegal c List.mem_cons_self) (hstep written c List.mem_cons_self)
        (ih (fun written d hd => hstep written d (List.mem_cons_of_mem _ hd))
          (fun d hd => hlegal d (List.mem_cons_of_mem _ hd)) (c :: written))

/-! ## Values and text -/

variable (inner entities)

/-- An escaped value is read as it is seen. -/
theorem reads_value (hlevels : p.levels = Entity.maxLevels) (hs : ∀ c ∈ s, isLegal c = true)
    (tag : Tag) (key : QName) (written : List Char) (returned : Bool) :
    ∃ returned', Reads inner entities (p.goTo (.value tag key '"' written returned)) (escapeList s)
      (p.goTo (.value tag key '"' ((seen returned s).reverse ++ written) returned')) := by
  induction s generalizing written returned with
  | nil => exact ⟨returned, .refl⟩
  | cons c s ih =>
      have hc := hs c List.mem_cons_self
      have hrest := fun d hd => hs d (List.mem_cons_of_mem _ hd)
      rw [escapeList_cons]
      -- White space is never escaped, so a carriage return is lost sight of only by itself.
      rcases escapeChar_spelled c with
        ⟨name, hform, hname, hmeans, -, hspace⟩ | ⟨hamp, hplain, hform⟩
      · obtain ⟨returned', hreads⟩ := ih hrest (c :: written) false
        have hbreak : c ≠ '\n' ∧ c ≠ '\r' := by
          constructor <;>
          · rintro rfl
            cases hspace
        have hseen : seen returned (c :: s) = c :: seen false s := by
          rw [seen, Entity.plain, hspace]
          simp [hbreak]
        have hmeant : Reads inner entities (p.goTo (.value tag key '"' written returned))
            (escapeChar c) (p.goTo (.value tag key '"' (c :: written) false)) := by
          rw [hform]
          refine .cons (by decide) rfl (.append (q := p.goTo
            (.valueReference tag key '"' written (name.reverse ++ []))) ?_ (.one (by decide) ?_))
          · exact reads_collected (.valueReference tag key '"' written)
              (fun _ d hd => if_neg (hname d hd).2) (fun d hd => (hname d hd).1) []
          · change valueReferenceEnd? entities _ tag key '"' written (name.reverse ++ []) = _
            have hinside : (p.goTo (.valueReference tag key '"' written
                (name.reverse ++ []))).isInside = false := by
              rw [isInside]
              exact decide_eq_false (by rw [goTo, hlevels]; exact Nat.lt_irrefl _)
            rw [valueReferenceEnd?, List.append_nil, List.reverse_reverse, hmeans]
            rw [List.append_nil] at hinside
            simp only [hinside]
            rfl
        refine ⟨returned', hmeant.append ?_⟩
        rw [hseen, List.reverse_cons, List.append_assoc]
        exact hreads
      · rw [hform]
        simp only [isMarkup, Bool.or_eq_false_iff, decide_eq_false_iff_not] at hplain
        obtain ⟨⟨⟨hlt, -⟩, hquote⟩, -⟩ := hplain
        have hstep : (p.goTo (.value tag key '"' written returned)).legalStep? inner entities c =
            if returned && c = '\n' then some (p.goTo (.value tag key '"' written false))
            else some (p.goTo (.value tag key '"' (Entity.plain c :: written) (c = '\r'))) := by
          change valueStep? _ tag key '"' written returned c = _
          rw [valueStep?, if_neg hquote, if_neg hlt, if_neg hamp]
          rfl
        by_cases hskipped : (returned && decide (c = '\n')) = true
        · obtain ⟨returned', hreads⟩ := ih hrest written false
          rw [if_pos hskipped] at hstep
          refine ⟨returned', .append (.one hc hstep) ?_⟩
          rw [seen, if_pos hskipped]
          exact hreads
        · obtain ⟨returned', hreads⟩ := ih hrest (Entity.plain c :: written) (c = '\r')
          rw [if_neg hskipped] at hstep
          refine ⟨returned', .append (.one hc hstep) ?_⟩
          rw [seen, if_neg hskipped, List.reverse_cons, List.append_assoc]
          exact hreads

/-- Escaped text between tags is written into the innermost open element. -/
theorem reads_text (hs : ∀ c ∈ s, isLegal c = true) {f : Frame} {rest : List Frame}
    (hstack : p.stack = f :: rest) (brackets : Nat) :
    ∃ brackets', Reads inner entities (p.goTo (.text brackets)) (escapeList s)
      { p with place := .text brackets', stack := s.foldl Frame.write f :: rest } := by
  induction s generalizing p f brackets with
  | nil =>
      refine ⟨brackets, ?_⟩
      rw [List.foldl_nil, ← hstack]
      exact .refl
  | cons c s ih =>
      have hc := hs c List.mem_cons_self
      have hwrite (place place' : Place) : (p.goTo place).write c place' =
          { p with place := place', stack := f.write c :: rest } := by
        rw [write, goTo, hstack]
      have hrest (place : Nat) : ∃ brackets',
          Reads inner entities { p with place := .text place, stack := f.write c :: rest }
            (escapeList s)
            { p with place := .text brackets', stack := (c :: s).foldl Frame.write f :: rest } :=
        ih (p := { p with stack := f.write c :: rest })
          (fun d hd => hs d (List.mem_cons_of_mem _ hd)) rfl place
      -- One character leads to a place where the rest of the text goes on.
      have hfirst : ∃ place, Reads inner entities (p.goTo (.text brackets)) (escapeChar c)
          { p with place := .text place, stack := f.write c :: rest } := by
        have hfull : (p.goTo (.text brackets)).stack.isEmpty = false := by
          rw [goTo, hstack]
          rfl
        rcases escapeChar_spelled c with ⟨name, hform, hname, hmeans, -⟩ | ⟨hamp, hplain, hform⟩
        · refine ⟨0, ?_⟩
          rw [hform]
          have hbegins : (p.goTo (.text brackets)).legalStep? inner entities '&' =
              some (p.goTo (.reference [])) := by
            change textStep? _ brackets '&' = _
            rw [textStep?, if_neg (by decide), hfull, if_neg (by decide), if_pos rfl]
            rfl
          have hends : (p.goTo (.reference (name.reverse ++ []))).legalStep? inner entities ';' =
              some { p with place := .text 0, stack := f.write c :: rest } := by
            change referenceEnd? inner entities _ (name.reverse ++ []) = _
            rw [referenceEnd?, List.append_nil, List.reverse_reverse, hmeans, ← hwrite]
            rfl
          refine .cons (by decide) hbegins (.append ?_ (.one (by decide) hends))
          exact reads_collected .reference
            (fun _ d hd => if_neg (hname d hd).2) (fun d hd => (hname d hd).1) []
        · simp only [isMarkup, Bool.or_eq_false_iff, decide_eq_false_iff_not] at hplain
          obtain ⟨⟨⟨hlt, hgt⟩, -⟩, -⟩ := hplain
          rw [hform]
          have hstep : (p.goTo (.text brackets)).legalStep? inner entities c =
              if c = ']' then some ((p.goTo (.text brackets)).write c
                (.text (min 2 (brackets + 1))))
              else some ((p.goTo (.text brackets)).write c (.text 0)) := by
            change textStep? _ brackets c = _
            have hends : ¬ (c = '>' ∧ brackets = 2) := fun h => hgt h.1
            rw [textStep?, if_neg hlt, hfull, if_neg (by decide), if_neg hamp, if_neg hends]
          rw [hwrite, hwrite] at hstep
          by_cases hbracket : c = ']'
          · exact ⟨_, .one hc (hstep.trans (if_pos hbracket))⟩
          · exact ⟨_, .one hc (hstep.trans (if_neg hbracket))⟩
      obtain ⟨place, hfirst⟩ := hfirst
      obtain ⟨brackets', hreads⟩ := hrest place
      rw [escapeList_cons]
      exact ⟨brackets', hfirst.append hreads⟩

/-! ## Opening tags -/

/-- An attribute as it is collected. -/
def pair (a : String × String) : QName × String :=
  (⟨"", a.1⟩, String.ofList (seen false a.2.toList))

/-- A place in an opening tag where the tag may end or one more attribute may follow. -/
def IsBehind (tag : Tag) : Place → Prop
  | .name written => QName.ofChars? written.reverse = some tag.name ∧ tag.attributes = []
  | .between found false => found = tag
  | _ => False

/-- Such places are told apart only by names that are longer. -/
theorem legalStep?_of_isBehind {tag : Tag} {place : Place} (h : IsBehind tag place)
    (hc : isQualifiedChar c = false) :
    (p.goTo place).legalStep? inner entities c = (p.goTo place).betweenStep? tag false c := by
  obtain ⟨name, attributes⟩ := tag
  cases place with
  | name written =>
      obtain ⟨hname, hattributes⟩ := h
      change nameStep? _ written c = _
      rw [nameStep?, hc, if_neg Bool.false_ne_true, hname, Option.bind_some]
      subst hattributes
      rfl
  | between found spaced =>
      cases spaced with
      | false =>
          cases (show found = ⟨name, attributes⟩ from h)
          rfl
      | true => exact absurd h id
  | _ => exact absurd h id

theorem reads_attribute {tag : Tag} {place : Place} (hplace : IsBehind tag place)
    (hlevels : p.levels = Entity.maxLevels) {a : String × String} (hname : IsName a.1)
    (hvalue : IsLegalText a.2) :
    Reads inner entities (p.goTo place) (writeAttribute a)
      (p.goTo (.between ⟨tag.name, pair a :: tag.attributes⟩ false)) := by
  obtain ⟨key, value⟩ := a
  obtain ⟨c, rest, hkey, hc, hrest⟩ := hname.eq_cons
  have hspace : (p.goTo place).legalStep? inner entities ' ' =
      some (p.goTo (.between tag true)) := by
    rw [legalStep?_of_isBehind inner entities hplace (by decide)]
    rfl
  have hbegins : (p.goTo (.between tag true)).legalStep? inner entities c =
      some (p.goTo (.key tag [c])) := by
    change betweenStep? _ tag true c = _
    rw [betweenStep?, isSpace_of_isNameChar hc, if_neg Bool.false_ne_true,
      if_neg (ne_of_isNameChar hc (by decide)), if_neg (ne_of_isNameChar hc (by decide)),
      isQualifiedChar_of_isNameChar hc]
    rfl
  have hcollected : Reads inner entities (p.goTo (.key tag [c])) rest
      (p.goTo (.key tag (rest.reverse ++ [c]))) :=
    reads_collected (.key tag)
      (fun _ d hd => if_pos (isQualifiedChar_of_isNameChar (hrest d hd)))
      (fun d hd => isLegal_of_isNameChar (hrest d hd)) [c]
  have hequals : (p.goTo (.key tag (rest.reverse ++ [c]))).legalStep? inner entities '=' =
      some (p.goTo (.quote tag ⟨"", key⟩)) := by
    change keyStep? _ tag (rest.reverse ++ [c]) '=' = _
    have hreversed : (rest.reverse ++ [c]).reverse = key.toList := by
      rw [List.reverse_append, List.reverse_reverse, hkey]
      rfl
    rw [keyStep?, if_neg (by decide), hreversed, hname.ofChars?]
    rfl
  obtain ⟨returned, hread⟩ := reads_value inner entities hlevels hvalue tag ⟨"", key⟩ [] false
  have hends : (p.goTo (.value tag ⟨"", key⟩ '"' ((seen false value.toList).reverse ++ [])
      returned)).legalStep? inner entities '"' =
        some (p.goTo (.between ⟨tag.name, pair (key, value) :: tag.attributes⟩ false)) := by
    change valueStep? _ tag ⟨"", key⟩ '"' _ returned '"' = _
    rw [valueStep?, if_pos rfl, List.append_nil, List.reverse_reverse]
    rfl
  have hquote : (p.goTo (.quote tag ⟨"", key⟩)).legalStep? inner entities '"' =
      some (p.goTo (.value tag ⟨"", key⟩ '"' [] false)) :=
    rfl
  have hform : writeAttribute (key, value) =
      ' ' :: c :: (rest ++ '=' :: '"' :: (escapeList value.toList ++ ['"'])) := by
    simp only [writeAttribute, hkey, List.cons_append, List.append_assoc]
  rw [hform]
  exact .cons (by decide) hspace (.cons (isLegal_of_isNameChar hc) hbegins (hcollected.append
    (.cons (by decide) hequals (.cons (by decide) hquote (hread.append (.one (by decide) hends))))))

theorem reads_attributes {attributes : List (String × String)} {tag : Tag} {place : Place}
    (hplace : IsBehind tag place) (hlevels : p.levels = Entity.maxLevels)
    (hnames : ∀ a ∈ attributes, IsName a.1) (hvalues : ∀ a ∈ attributes, IsLegalText a.2) :
    ∃ place', IsBehind ⟨tag.name, (attributes.map pair).reverse ++ tag.attributes⟩ place' ∧
      Reads inner entities (p.goTo place) (attributes.flatMap writeAttribute) (p.goTo place') := by
  induction attributes generalizing tag place with
  | nil => exact ⟨place, hplace, .refl⟩
  | cons a attributes ih =>
      have hfirst := reads_attribute inner entities hplace hlevels
        (hnames a List.mem_cons_self) (hvalues a List.mem_cons_self)
      have hplace' : IsBehind ⟨tag.name, pair a :: tag.attributes⟩
          (.between ⟨tag.name, pair a :: tag.attributes⟩ false) :=
        rfl
      obtain ⟨place', hbehind, hrest⟩ := ih hplace'
        (fun b hb => hnames b (List.mem_cons_of_mem _ hb))
        (fun b hb => hvalues b (List.mem_cons_of_mem _ hb))
      refine ⟨place', ?_, ?_⟩
      · rw [List.map_cons, List.reverse_cons, List.append_assoc]
        exact hbehind
      · rw [List.flatMap_cons]
        exact hfirst.append hrest

/-- An opening tag is read up to the mark that ends it. -/
theorem reads_opening {name : String} {attributes : List (String × String)}
    (hname : IsName name) (hnames : ∀ a ∈ attributes, IsName a.1)
    (hvalues : ∀ a ∈ attributes, IsLegalText a.2) (hlevels : p.levels = Entity.maxLevels)
    (hroot : p.stack = [] → p.root = none) (brackets : Nat) :
    ∃ place, IsBehind ⟨⟨"", name⟩, (attributes.map pair).reverse⟩ place ∧
      Reads inner entities (p.goTo (.text brackets)) (opening name attributes) (p.goTo place) := by
  obtain ⟨c, rest, hform, hc, hrest⟩ := hname.eq_cons
  have hangle : (p.goTo (.text brackets)).legalStep? inner entities '<' = some (p.goTo .angle) :=
    rfl
  have hbegins : (p.goTo .angle).legalStep? inner entities c = some (p.goTo (.name [c])) := by
    change angleStep? _ c = _
    have hopen : ((p.goTo .angle).stack.isEmpty && (p.goTo .angle).root.isSome) = false := by
      rw [Bool.and_eq_false_iff]
      by_cases hstack : p.stack = []
      · right
        rw [goTo, hroot hstack]
        rfl
      · left
        rw [goTo, List.isEmpty_eq_false_iff]
        exact hstack
    rw [angleStep?, if_neg (ne_of_isNameChar hc (by decide)),
      if_neg (ne_of_isNameChar hc (by decide)), if_neg (ne_of_isNameChar hc (by decide)), hopen,
      if_neg Bool.false_ne_true, if_pos (isQualifiedChar_of_isNameChar hc)]
    rfl
  have hcollected : Reads inner entities (p.goTo (.name [c])) rest
      (p.goTo (.name (rest.reverse ++ [c]))) :=
    reads_collected .name (fun _ d hd => if_pos (isQualifiedChar_of_isNameChar (hrest d hd)))
      (fun d hd => isLegal_of_isNameChar (hrest d hd)) [c]
  have hbehind : IsBehind ⟨⟨"", name⟩, []⟩ (.name (rest.reverse ++ [c])) := by
    refine ⟨?_, rfl⟩
    rw [List.reverse_append, List.reverse_reverse]
    exact (congrArg _ hform.symm).trans hname.ofChars?
  obtain ⟨place, hplace, hattributes⟩ :=
    reads_attributes inner entities hbehind hlevels hnames hvalues
  refine ⟨place, ?_, ?_⟩
  · rw [List.append_nil] at hplace
    exact hplace
  · rw [opening, hform]
    exact .cons (by decide) hangle (.cons (isLegal_of_isNameChar hc) hbegins
      (hcollected.append hattributes))

end Progress

/-! ## The frames of tags -/

namespace Draft

variable {name : String} {attributes : List (String × String)}

/-- Attributes that bind nothing stay, and change no prefixes. -/
theorem ofAttribute_pair (h : AreAttributes attributes) :
    ∀ a ∈ attributes.map Progress.pair, Scope.Binding.ofAttribute a = .plain := by
  intro a ha
  obtain ⟨b, hb, rfl⟩ := List.mem_map.1 ha
  have hpref : (Progress.pair b).1.pref ≠ "xmlns" := by
    show "" ≠ "xmlns"
    decide
  rw [Scope.Binding.ofAttribute, if_neg hpref]
  exact if_neg (h.1 b hb).2

theorem resolve?_pair (h : AreAttributes attributes) (scope : Scope) :
    scope.resolve? (attributes.map Progress.pair) = some (attributes.map readAttribute) := by
  have hkept : (attributes.map Progress.pair).filter
      (fun a => Scope.Binding.ofAttribute a == .plain) = attributes.map Progress.pair :=
    List.filter_eq_self.2 fun a ha => by rw [ofAttribute_pair h a ha]; rfl
  rw [Scope.resolve?, hkept, List.mapM_map]
  exact List.mapM_pure

theorem nodup_readAttribute (h : AreAttributes attributes) :
    ((attributes.map readAttribute).map Attribute.name).Nodup := by
  have hnames : (attributes.map readAttribute).map Attribute.name =
      (attributes.map (·.1)).map fun base => ⟨none, base⟩ := by
    rw [List.map_map, List.map_map]
    rfl
  rw [hnames]
  exact List.Nodup.map (fun _ _ heq => (Name.mk.inj heq).2) h.2

/-- Attributes that bind nothing add no entries. -/
theorem filterMap_entry?_pair (h : AreAttributes attributes) :
    ((attributes.map Progress.pair).map Scope.Binding.ofAttribute).filterMap
      Scope.Binding.entry? = [] := by
  refine List.filterMap_eq_nil_iff.2 fun binding hbinding => ?_
  obtain ⟨a, ha, rfl⟩ := List.mem_map.1 hbinding
  rw [ofAttribute_pair h a ha]
  rfl

theorem all_isProper_pair (h : AreAttributes attributes) :
    ((attributes.map Progress.pair).map Scope.Binding.ofAttribute).all
      Scope.Binding.isProper = true := by
  refine List.all_eq_true.2 fun binding hbinding => ?_
  obtain ⟨a, ha, rfl⟩ := List.mem_map.1 hbinding
  rw [ofAttribute_pair h a ha]
  rfl

/-- A tag that binds no prefixes begins an element in the namespace around it. -/
theorem ofTag?_of_areAttributes (h : AreAttributes attributes) (scope : Scope) (name : String) :
    Frame.ofTag? scope ⟨⟨"", name⟩, (attributes.map Progress.pair).reverse⟩ =
      some (frame scope name attributes) := by
  have hbind : scope.bind? (attributes.map Progress.pair) = some scope := by
    rw [Scope.bind?, all_isProper_pair h, filterMap_entry?_pair h]
    rfl
  have hname : scope.elementName? ⟨"", name⟩ = some ⟨scope.bound? "", name⟩ :=
    if_pos rfl
  rw [Frame.ofTag?, List.reverse_reverse, hbind]
  simp only [Option.bind_eq_bind, Option.bind_some, hname, resolve?_pair h,
    if_pos (nodup_readAttribute h)]
  rfl

/-- A tag that declares a namespace and binds no prefixes begins an element in it. -/
theorem ofTag?_of_declaration {space : String} (h : AreAttributes attributes)
    (hseen : seen false space.toList = space.toList) (hfree : space ≠ Scope.declaring)
    (hreserved : space ≠ Scope.reserved) (name : String) :
    Frame.ofTag? [] ⟨⟨"", name⟩, ((("xmlns", space) :: attributes).map Progress.pair).reverse⟩ =
      some (frame [("", space)] name attributes) := by
  have hdeclared : Progress.pair ("xmlns", space) = (⟨"", "xmlns"⟩, space) := by
    rw [Progress.pair, hseen, String.ofList_toList]
  have hbinding : Scope.Binding.ofAttribute (⟨"", "xmlns"⟩, space) = .default space := by
    rw [Scope.Binding.ofAttribute]
    rfl
  have hproper : (Scope.Binding.default space).isProper = true := by
    simp [Scope.Binding.isProper, hfree, hreserved]
  have hbind : Scope.bind? [] ((⟨"", "xmlns"⟩, space) :: attributes.map Progress.pair) =
      some [("", space)] := by
    rw [Scope.bind?, List.map_cons, hbinding, List.all_cons, hproper, all_isProper_pair h,
      List.filterMap_cons, filterMap_entry?_pair h]
    rfl
  have hresolve : Scope.resolve? [("", space)]
      ((⟨"", "xmlns"⟩, space) :: attributes.map Progress.pair) =
        some (attributes.map readAttribute) := by
    rw [← resolve?_pair h, Scope.resolve?, Scope.resolve?, List.filter_cons, hbinding]
    rfl
  have hname : Scope.elementName? [("", space)] ⟨"", name⟩ =
      some ⟨Scope.bound? [("", space)] "", name⟩ :=
    if_pos rfl
  rw [Frame.ofTag?, List.reverse_reverse, List.map_cons, hdeclared, hbind]
  simp only [Option.bind_eq_bind, Option.bind_some, hname, hresolve,
    if_pos (nodup_readAttribute h)]
  rfl

end Draft

/-! ## Whole drafts -/

namespace Progress

variable (inner : Progress → List Char → Option Progress) (entities : Entities) {p : Progress}

/-- A closing tag completes the innermost open element. -/
theorem reads_closing {name : String} (hname : IsName name) {f : Frame} {rest : List Frame}
    (hstack : p.stack = f :: rest) (hwritten : f.written = ⟨"", name⟩) (hopened : 0 < p.opened)
    (brackets : Nat) :
    Reads inner entities (p.goTo (.text brackets)) (closing name)
      (({ p with opened := p.opened - 1 } : Progress).settle rest f.close) := by
  have hangle : (p.goTo (.text brackets)).legalStep? inner entities '<' = some (p.goTo .angle) :=
    rfl
  have hslash : (p.goTo .angle).legalStep? inner entities '/' = some (p.goTo (.closing [])) := by
    change angleStep? _ '/' = _
    have hfull : (p.goTo .angle).stack.isEmpty = false := by
      rw [goTo, hstack]
      rfl
    rw [angleStep?, if_neg (by decide), if_neg (by decide), if_pos rfl, hfull]
    rfl
  have hnames := List.all_eq_true.1 hname.2
  have hcollected : Reads inner entities (p.goTo (.closing [])) name.toList
      (p.goTo (.closing (name.toList.reverse ++ []))) :=
    reads_collected .closing
      (fun _ c hc => if_pos (isQualifiedChar_of_isNameChar (hnames c hc)))
      (fun c hc => isLegal_of_isNameChar (hnames c hc)) []
  have hends : (p.goTo (.closing (name.toList.reverse ++ []))).legalStep? inner entities '>' =
      some (({ p with opened := p.opened - 1 } : Progress).settle rest f.close) := by
    have hread : QName.ofChars? (name.toList.reverse ++ []).reverse = some ⟨"", name⟩ := by
      rw [List.append_nil, List.reverse_reverse, hname.ofChars?]
    have hclose (place : Place) : (p.goTo place).close? ⟨"", name⟩ =
        some (({ p with opened := p.opened - 1 } : Progress).settle rest f.close) := by
      rw [close?, goTo, hstack]
      simp only [hwritten, hopened, and_self, if_true]
      cases rest <;> rfl
    have hstep (place : List Char) : (p.goTo (.closing place)).legalStep? inner entities '>' =
        (QName.ofChars? place.reverse).bind fun found =>
          (p.goTo (.closing place)).closedStep? found '>' := by
      have hno : ¬ isQualifiedChar '>' = true := by decide
      exact @if_neg _ _ hno _ (some (p.goTo (.closing ('>' :: place)))) _
    rw [hstep, hread, Option.bind_some, closedStep?, if_pos rfl, hclose]
  exact .cons (by decide) hangle (.cons (by decide) hslash
    (hcollected.append (.one (by decide) hends)))

/-- An opening tag opens an element, if it makes a frame. -/
theorem reads_open {name : String} {attributes : List (String × String)} (hname : IsName name)
    (hnames : ∀ a ∈ attributes, IsName a.1) (hvalues : ∀ a ∈ attributes, IsLegalText a.2)
    (hlevels : p.levels = Entity.maxLevels) (hroot : p.stack = [] → p.root = none) {f : Frame}
    (hframe : Frame.ofTag? p.scope ⟨⟨"", name⟩, (attributes.map pair).reverse⟩ = some f)
    (brackets : Nat) :
    Reads inner entities (p.goTo (.text brackets)) (opening name attributes ++ ['>'])
      { p with place := .text 0, stack := f :: p.stack, opened := p.opened + 1 } := by
  obtain ⟨place, hbehind, hreads⟩ :=
    reads_opening inner entities hname hnames hvalues hlevels hroot brackets
  refine hreads.append (.one (by decide) ?_)
  rw [legalStep?_of_isBehind inner entities hbehind (by decide)]
  change open? _ _ = _
  have hscope : (p.goTo place).scope = p.scope := rfl
  rw [open?, hscope, hframe]
  rfl

/-- A tag without content completes an element at once. -/
theorem reads_leaf {name : String} {attributes : List (String × String)} (hname : IsName name)
    (hnames : ∀ a ∈ attributes, IsName a.1) (hvalues : ∀ a ∈ attributes, IsLegalText a.2)
    (hlevels : p.levels = Entity.maxLevels) (hroot : p.stack = [] → p.root = none) {f : Frame}
    (hframe : Frame.ofTag? p.scope ⟨⟨"", name⟩, (attributes.map pair).reverse⟩ = some f)
    (brackets : Nat) :
    Reads inner entities (p.goTo (.text brackets)) (opening name attributes ++ ['/', '>'])
      (p.settle p.stack f.close) := by
  obtain ⟨place, hbehind, hreads⟩ :=
    reads_opening inner entities hname hnames hvalues hlevels hroot brackets
  have hslash : (p.goTo place).legalStep? inner entities '/' =
      some (p.goTo (.slash ⟨⟨"", name⟩, (attributes.map pair).reverse⟩)) := by
    rw [legalStep?_of_isBehind inner entities hbehind (by decide)]
    rfl
  refine hreads.append (.cons (by decide) hslash (.one (by decide) ?_))
  have hscope (place : Place) : (p.goTo place).scope = p.scope := rfl
  change empty? _ _ = _
  rw [empty?, hscope, hframe, Option.map_some, goTo]
  cases p.stack <;> rfl

mutual

/-- **A draft is read back.**  Between tags, a written draft is read into the innermost open
element. -/
theorem reads_write : ∀ (draft : Draft), draft.IsProper → draft.IsLegal →
    ∀ {p : Progress} {f : Frame} {rest : List Frame}, p.stack = f :: rest →
      p.levels = Entity.maxLevels → ∀ brackets, ∃ brackets',
        Reads inner entities (p.goTo (.text brackets)) draft.write
          { p with place := .text brackets', stack := join f draft :: rest }
  | .text content, _, hlegal, p, f, rest, hstack, _, brackets =>
      reads_text inner entities hlegal hstack brackets
  | .leaf name attributes, hproper, hlegal, p, f, rest, hstack, hlevels, brackets => by
      obtain ⟨hname, hattributes⟩ := hproper
      have hscope : p.scope = f.scope := by
        rw [scope, hstack]
      have hframe := ofTag?_of_areAttributes hattributes p.scope name
      have hreads := reads_leaf inner entities hname (fun a ha => (hattributes.1 a ha).1) hlegal
        hlevels (fun hnil => absurd (hstack.symm.trans hnil) (List.cons_ne_nil _ _)) hframe brackets
      refine ⟨0, ?_⟩
      rw [hstack, hscope] at hreads
      exact hreads
  | .element name attributes children, hproper, hlegal, p, f, rest, hstack, hlevels, brackets => by
      obtain ⟨hname, hattributes, hchildren⟩ := hproper
      obtain ⟨hvalues, hlegal⟩ := hlegal
      have hscope : p.scope = f.scope := by
        rw [scope, hstack]
      have hframe := ofTag?_of_areAttributes hattributes p.scope name
      have hopen := reads_open inner entities hname (fun a ha => (hattributes.1 a ha).1) hvalues
        hlevels (fun hnil => absurd (hstack.symm.trans hnil) (List.cons_ne_nil _ _)) hframe brackets
      rw [hstack, hscope] at hopen
      let opened : Progress :=
        { p with stack := frame f.scope name attributes :: f :: rest, opened := p.opened + 1 }
      obtain ⟨between, hread⟩ :=
        reads_writeAll children hchildren hlegal (p := opened) rfl hlevels 0
      have hclose := reads_closing inner entities hname
        (p := { opened with
          stack := joinAll (frame f.scope name attributes) children :: f :: rest })
        rfl (written_joinAll _ children).1 (Nat.succ_pos _) between
      have hform : (Draft.element name attributes children).write =
          opening name attributes ++ ['>'] ++ writeAll children ++ closing name := by
        simp only [Draft.write, List.append_assoc, List.cons_append, List.nil_append]
      refine ⟨0, ?_⟩
      rw [hform]
      exact (hopen.append hread).append hclose

/-- Several drafts are read into the innermost open element, one after the other. -/
theorem reads_writeAll : ∀ (drafts : List Draft), AreProper drafts → AreLegal drafts →
    ∀ {p : Progress} {f : Frame} {rest : List Frame}, p.stack = f :: rest →
      p.levels = Entity.maxLevels → ∀ brackets, ∃ brackets',
        Reads inner entities (p.goTo (.text brackets)) (writeAll drafts)
          { p with place := .text brackets', stack := joinAll f drafts :: rest }
  | [], _, _, p, f, rest, hstack, _, brackets => by
      refine ⟨brackets, ?_⟩
      rw [joinAll, ← hstack]
      exact .refl
  | draft :: drafts, hproper, hlegal, p, f, rest, hstack, hlevels, brackets => by
      obtain ⟨between, hfirst⟩ := reads_write draft hproper.1 hlegal.1 hstack hlevels brackets
      obtain ⟨brackets', hrest⟩ := reads_writeAll drafts hproper.2 hlegal.2
        (p := { p with stack := join f draft :: rest }) rfl hlevels between
      exact ⟨brackets', hfirst.append hrest⟩

end

end Progress

/-! ## Whole texts -/

/-- A text that begins with the name of an element has nothing in front of it. -/
theorem Manuscript.ofChars?_of_tag {c : Char} {s : List Char} (hc : isNameChar c = true) :
    Manuscript.ofChars? ('<' :: c :: s) = some ⟨[], '<' :: c :: s⟩ := by
  have hmark : '!' ≠ c ∧ '?' ≠ c :=
    ⟨(ne_of_isNameChar hc (by decide)).symm, (ne_of_isNameChar hc (by decide)).symm⟩
  have hafter (mark : Char) (word : String)
      (hword : word.toList = '<' :: mark :: word.toList.drop 2)
      (hne : mark ≠ c) : afterWord? word ('<' :: c :: s) = none := by
    rw [afterWord?, hword, after?, if_pos rfl, after?, if_neg hne]
  have hbody : Declaration.body? ('<' :: c :: s) = some ('<' :: c :: s) := by
    rw [Declaration.body?, hafter '?' "<?xml " (by decide) hmark.2]
  have hfront (fuel : Nat) : skipAsides? fuel ('<' :: c :: s) = some ('<' :: c :: s) := by
    have hskip : skipSpace ('<' :: c :: s) = '<' :: c :: s :=
      List.dropWhile_cons_of_neg (by decide)
    cases fuel with
    | zero => rw [skipAsides?, hskip]
    | succ fuel =>
        simp only [skipAsides?, hskip, hafter '!' "<!--" (by decide) hmark.1,
          hafter '?' "<?" (by decide) hmark.2]
  have hmark' : withoutMark ('<' :: c :: s) = '<' :: c :: s := rfl
  rw [Manuscript.ofChars?, hmark', hbody]
  simp only [Option.bind_eq_bind, Option.bind_some, hfront,
    hafter '!' "<!DOCTYPE" (by decide) hmark.1]

namespace Draft

variable {space name : String} {attributes : List (String × String)} {children : List Draft}

/-- The whole text of a draft that declares a namespace. -/
def page (space name : String) (attributes : List (String × String)) (children : List Draft) :
    List Char :=
  (element name (("xmlns", space) :: attributes) children).write ++ ['\n']

/-- The tree that the text of a draft describes. -/
def tree (space name : String) (attributes : List (String × String)) (children : List Draft) :
    Node :=
  (joinAll (frame [("", space)] name attributes) children).close

/-- A space that can be declared is read as it is written, and it is not reserved. -/
structure IsSpace (space : String) : Prop where
  seen : seen false space.toList = space.toList
  free : space ≠ Scope.declaring ∧ space ≠ Scope.reserved

/-- A text is read from its first character on. -/
theorem ofText?_page (hname : IsName name) {text : String}
    (htext : text.toList = page space name attributes children) :
    Node.ofText? text = (Progress.start.run? [] text.toList).bind Progress.element? := by
  obtain ⟨c, rest, hform, hc, -⟩ := hname.eq_cons
  have hbegins : ∃ behind, text.toList = '<' :: c :: behind := by
    rw [htext, page, write, opening, hform]
    exact ⟨_, rfl⟩
  obtain ⟨behind, hbegins⟩ := hbegins
  rw [Node.ofText?, hbegins, Manuscript.ofChars?_of_tag hc]
  rfl

/-- Markup may hold the text of a draft just if it may hold what the draft says. -/
theorem isLegal_page_iff (hname : IsName name) (hattributes : AreAttributes attributes)
    (hchildren : AreProper children) :
    (∀ c ∈ page space name attributes children, isLegal c = true) ↔
      IsLegalText space ∧ (∀ a ∈ attributes, IsLegalText a.2) ∧ AreLegal children := by
  have hxmlns : IsName "xmlns" := by decide
  have hnames : ∀ a ∈ ("xmlns", space) :: attributes, IsName a.1 :=
    List.forall_mem_cons.2 ⟨hxmlns, fun a ha => (hattributes.1 a ha).1⟩
  have hmark : isLegal '>' = true := rfl
  have hbreak : ∀ c ∈ ['\n'], isLegal c = true := List.all_eq_true.1 rfl
  rw [page, write, List.forall_mem_append, List.forall_mem_append, List.forall_mem_cons,
    List.forall_mem_append, isLegal_opening_iff hname hnames, List.forall_mem_cons,
    isLegal_writeAll_iff children hchildren, and_iff_left hbreak, and_iff_right hmark,
    and_iff_left (isLegal_closing hname), and_assoc]

/-- The text of a draft is read as the tree of the draft. -/
theorem ofText?_eq_tree (hname : IsName name) (hattributes : AreAttributes attributes)
    (hchildren : AreProper children) (hspace : IsSpace space) {text : String}
    (htext : text.toList = page space name attributes children) (hlegal : IsLegalText text) :
    Node.ofText? text = some (tree space name attributes children) := by
  let inner := Progress.runWithin? [] Entity.maxLevels
  have hxmlns : IsName "xmlns" := by decide
  have hnames : ∀ a ∈ ("xmlns", space) :: attributes, IsName a.1 :=
    List.forall_mem_cons.2 ⟨hxmlns, fun a ha => (hattributes.1 a ha).1⟩
  have hform : (element name (("xmlns", space) :: attributes) children).write =
      opening name (("xmlns", space) :: attributes) ++ ['>'] ++ writeAll children ++
        closing name := by
    simp only [write, List.append_assoc, List.cons_append, List.nil_append]
  rw [IsLegalText, htext, isLegal_page_iff hname hattributes hchildren] at hlegal
  obtain ⟨hdeclared, hvalues, htexts⟩ := hlegal
  have hframe := ofTag?_of_declaration hattributes hspace.seen hspace.free.1 hspace.free.2 name
  have hopen := Progress.reads_open inner [] (p := .start) hname hnames
    (List.forall_mem_cons.2 ⟨hdeclared, hvalues⟩) rfl (fun _ => rfl) hframe 0
  let opened : Progress :=
    { Progress.start with stack := [frame [("", space)] name attributes], opened := 1 }
  obtain ⟨brackets, hread⟩ :=
    Progress.reads_writeAll inner [] children hchildren htexts (p := opened) rfl rfl 0
  have hclose := Progress.reads_closing inner [] hname
    (p := { opened with stack := [joinAll (frame [("", space)] name attributes) children] })
    rfl (written_joinAll _ children).1 (Nat.one_pos) brackets
  have hbreak : Progress.Reads inner []
      { Progress.start with root := some (tree space name attributes children) } ['\n']
      { Progress.start with root := some (tree space name attributes children) } :=
    .one (by decide) rfl
  have hrun : Progress.start.run? [] text.toList =
      some { Progress.start with root := some (tree space name attributes children) } := by
    rw [htext, page, hform]
    exact ((hopen.append hread).append hclose).append hbreak
  rw [ofText?_page hname htext, hrun]
  rfl

/-- **Written drafts are well-formed.**  The text of a draft is read just if markup may hold
all its characters, and then it is read as the tree of the draft. -/
theorem ofText?_eq_some_iff (hname : IsName name) (hattributes : AreAttributes attributes)
    (hchildren : AreProper children) (hspace : IsSpace space) {text : String}
    (htext : text.toList = page space name attributes children) (n : Node) :
    Node.ofText? text = some n ↔
      IsLegalText text ∧ n = tree space name attributes children := by
  have hread := ofText?_eq_tree hname hattributes hchildren hspace htext
  constructor
  · intro h
    have hlegal : IsLegalText text := by
      rw [ofText?_page hname htext] at h
      obtain ⟨progress, hrun, -⟩ := Option.bind_eq_some_iff.1 h
      exact Progress.Reads.isLegal hrun
    rw [hread hlegal, Option.some.injEq] at h
    exact ⟨hlegal, h.symm⟩
  · rintro ⟨hlegal, rfl⟩
    exact hread hlegal

end Draft

end CanvasPress.Markup
