/-
# Drawings without copies

Where no element is a copy of another, expansion is a walk through the tree: it takes one
element of the room for each element that the drawing knows, passes over all that it does not
know, and looks into no text.  So it succeeds just if there is room enough, as long as the tree
is not too deep; and what it makes of the outermost element keeps the attributes that were
written.
-/

import CanvasPress.Drawing.Expansion

namespace CanvasPress.Drawing

open Markup (Head Node)
open Stylesheet (Sheet Site)

/-! ## Plain trees -/

/-- The names of the elements that change what others are. -/
def activeNames : List String :=
  ["use", "style"]

/-- A node with at most so many elements inside each other, none of which changes what others
are. -/
def IsPlain : (levels : Nat) → Node → Prop
  | 0, _ => False
  | levels + 1, .element head children =>
    head.name.base ∉ activeNames ∧ ∀ child ∈ children, IsPlain levels child
  | _ + 1, _ => True

/-- How many elements come from one, if so many come from what is inside it. -/
def countFor (tag : Option Tag) (inside : Nat) : Nat :=
  match tag with
  | none | some .style => 0
  | some .text | some .use => 1
  | some _ => inside + 1

mutual

/-- How many elements a drawing has from a node. -/
def count : Node → Nat
  | .element head children => countFor (Tag.ofName? head.name) (countAll children)
  | _ => 0

/-- How many elements a drawing has from several nodes. -/
def countAll : List Node → Nat
  | [] => 0
  | n :: rest => count n + countAll rest

end

/-- An element that is no copy by its name is none. -/
theorem ofName?_ne_use {name : Markup.Name} (h : name.base ∉ activeNames) :
    Tag.ofName? name ≠ some .use := by
  have huse : Tag.named.lookup name.base ≠ some .use := by
    intro hlookup
    obtain ⟨front, rest, hnamed, -⟩ := List.lookup_eq_some_iff.1 hlookup
    have hall : ∀ entry ∈ Tag.named, entry.2 = .use → entry.1 ∈ activeNames := by decide
    have hmem : (name.base, Tag.use) ∈ Tag.named :=
      hnamed ▸ List.mem_append_right _ List.mem_cons_self
    exact h (hall _ hmem rfl)
  unfold Tag.ofName?
  cases hlookup : Tag.named.lookup name.base with
  | some tag =>
      rw [hlookup] at huse
      split
      · exact huse
      · nofun
  | none =>
      split
      · simp only
        split <;> nofun
      · nofun

/-- Plain trees hold no stylesheets. -/
theorem sheetsBefore_of_isPlain {levels : Nat} {n : Node} (h : IsPlain levels n)
    (further : List String) : Styled.sheetsBefore further n = further := by
  induction levels generalizing n further with
  | zero => exact absurd h id
  | succ levels ih =>
      cases n with
      | element head children =>
          obtain ⟨hname, hchildren⟩ := h
          have hnone : Styled.sheetOf? head children = none := by
            have hbase : head.name.base ≠ "style" := fun heq =>
              hname (heq ▸ List.mem_cons_of_mem _ List.mem_cons_self)
            simp [Styled.sheetOf?, hbase]
          have hall (nodes : List Node) (hnodes : ∀ child ∈ nodes, IsPlain levels child) :
              Styled.sheetsOfAllBefore further nodes = further := by
            induction nodes with
            | nil => rfl
            | cons node nodes ihnodes =>
                rw [Styled.sheetsOfAllBefore, ih (hnodes node List.mem_cons_self),
                  ihnodes fun child hchild => hnodes child (List.mem_cons_of_mem _ hchild)]
          rw [Styled.sheetsBefore, hnone, hall children hchildren]
          rfl
      | text content => rfl
      | aside => rfl

/-! ## Expansion -/

namespace Expansion

/-- What is left of the room. -/
def left? (room count : Nat) : Option Nat :=
  if count ≤ room then some (room - count) else none

theorem left?_add (room count count' : Nat) :
    (left? room count).bind (fun room => left? room count') = left? room (count + count') := by
  unfold left?
  by_cases hfirst : count ≤ room
  · rw [if_pos hfirst, Option.bind_some, Nat.sub_sub]
    by_cases hboth : count + count' ≤ room
    · rw [if_pos hboth, if_pos (by omega)]
    · rw [if_neg hboth, if_neg (by omega)]
  · rw [if_neg hfirst, if_neg (by omega)]
    rfl

variable {all : List Styled}

/-- Several nodes take what each of them takes. -/
theorem room_collect {expand : Nat → Styled → Option Yield} {sheet : Sheet}
    {before around : Option Site} {serial : Nat} {nodes : List Node}
    (h : ∀ n ∈ nodes, ∀ before serial room,
      (expand room (Styled.ofNode sheet before around serial n).1).map Yield.room =
        left? room (count n)) (room : Nat) :
    (collect expand room (Styled.ofNodes sheet before around serial nodes).1).map Yield.room =
      left? room (countAll nodes) := by
  induction nodes generalizing before serial room with
  | nil => rfl
  | cons n nodes ih =>
      obtain ⟨before', serial', hform⟩ : ∃ before' serial',
          (Styled.ofNodes sheet before around serial (n :: nodes)).1 =
            (Styled.ofNode sheet before around serial n).1 ::
              (Styled.ofNodes sheet before' around serial' nodes).1 :=
        ⟨_, _, rfl⟩
      have hfirst := h n List.mem_cons_self before serial room
      have hrest (room : Nat) : (collect expand room
          (Styled.ofNodes sheet before' around serial' nodes).1).map Yield.room =
            left? room (countAll nodes) :=
        ih (fun m hm => h m (List.mem_cons_of_mem _ hm)) room
      rw [countAll, ← left?_add, ← hfirst, hform, collect]
      cases expand room (Styled.ofNode sheet before around serial n).1 with
      | none => rfl
      | some first =>
          simp only [Option.map_some, Option.bind_some, Option.bind_eq_bind, ← hrest]
          cases collect expand first.room (Styled.ofNodes sheet before' around serial' nodes).1 <;>
            rfl

/-- An element with elements inside is expanded around them. -/
theorem expand_container {depth serial room : Nat} {above : List Element} {tag : Tag}
    {head : Head} {attributes styles : List Setting} {children : List Styled}
    (hstyle : tag ≠ .style) (htext : tag ≠ .text) (huse : tag ≠ .use) :
    expand all (depth + 1) none above room (.element serial (some tag) head attributes styles
      children) =
        if room = 0 then none
        else
          (collect (expand all depth none (.node tag (settle above attributes styles) [] :: above))
            (room - 1) children).bind fun inside =>
              some ⟨[.node tag (settle above attributes styles) inside.elements],
                inside.room⟩ := by
  cases tag with
  | style => exact absurd rfl hstyle
  | text => exact absurd rfl htext
  | use => exact absurd rfl huse
  | _ => rfl

/-- **Plain trees take the room of their elements.** -/
theorem room_expand {sheet : Sheet} {before around : Option Site} {serial levels depth : Nat}
    {n : Node} (h : IsPlain levels n) (hdepth : levels ≤ depth) (above : List Element)
    (room : Nat) :
    (expand all depth none above room (Styled.ofNode sheet before around serial n).1).map
      Yield.room = left? room (count n) := by
  induction levels generalizing before around serial depth n above room with
  | zero => exact absurd h id
  | succ levels ih =>
      obtain ⟨depth, rfl⟩ : ∃ less, depth = less + 1 := ⟨depth - 1, by omega⟩
      have hnothing : some room = left? room 0 := (if_pos (Nat.zero_le room)).symm
      have hone (e : Element) : (if room = 0 then none else some ⟨[e], room - 1⟩ : Option Yield).map
          Yield.room = left? room 1 := by
        unfold left?
        by_cases hroom : room = 0
        · rw [if_pos hroom, if_neg (by omega)]
          rfl
        · rw [if_neg hroom, if_pos (by omega)]
          rfl
      cases n with
      | text content => exact hnothing
      | aside => exact hnothing
      | element head children =>
          obtain ⟨hname, hchildren⟩ := h
          have hcopy := ofName?_ne_use hname
          obtain ⟨attributes, styles, hform⟩ : ∃ attributes styles,
              (Styled.ofNode sheet before around serial (.element head children)).1 =
                .element serial (Tag.ofName? head.name) head attributes styles
                  (Styled.ofNodes sheet none (some ⟨head, before, around⟩) (serial + 1)
                    children).1 :=
            ⟨_, _, rfl⟩
          rw [hform, count]
          -- Only what is no text and no stylesheet is looked into.
          generalize Tag.ofName? head.name = tag at hcopy
          cases tag with
          | none => exact hnothing
          | some tag =>
              by_cases hstyle : tag = .style
              · subst hstyle
                exact hnothing
              by_cases htext : tag = .text
              · subst htext
                exact hone _
              have huse : tag ≠ .use := fun heq => hcopy (heq ▸ rfl)
              have hcount : countFor (some tag) (countAll children) = 1 + countAll children := by
                rw [Nat.add_comm]
                cases tag with
                | style => exact absurd rfl hstyle
                | text => exact absurd rfl htext
                | use => exact absurd rfl huse
                | _ => rfl
              have hinside : (collect (expand all depth none
                  (.node tag (settle above attributes styles) [] :: above)) (room - 1)
                    (Styled.ofNodes sheet none (some ⟨head, before, around⟩) (serial + 1)
                      children).1).map Yield.room = left? (room - 1) (countAll children) :=
                room_collect (fun n hn _ _ room => ih (hchildren n hn)
                  (Nat.le_of_succ_le_succ hdepth) _ room) (room - 1)
              rw [expand_container hstyle htext huse, hcount, ← left?_add]
              by_cases hroom : room = 0
              · rw [if_pos hroom, left?, if_neg (by omega)]
                rfl
              · have hleft : left? room 1 = some (room - 1) := if_pos (by omega)
                rw [if_neg hroom, hleft, Option.bind_some, ← hinside]
                cases collect (expand all depth none
                  (.node tag (settle above attributes styles) [] :: above)) (room - 1)
                    (Styled.ofNodes sheet none (some ⟨head, before, around⟩) (serial + 1)
                      children).1 <;> rfl

end Expansion

/-! ## Roots -/

/-- The settings that the attributes of an outermost element make. -/
def rootSettings (head : Head) : List Setting :=
  (head.attributes.filterMap Setting.ofAttribute?).filterMap (Expansion.resolved? [])

/-- **A plain tree is a drawing just if it is not too large.**  Its outermost element keeps the
settings that its attributes make. -/
theorem ofRoot?_of_isPlain {levels : Nat} {head : Head} {children : List Node}
    (h : IsPlain levels (.element head children)) (hlevels : levels ≤ Expansion.maxDepth + 1)
    (htag : Tag.ofName? head.name = some .svg) (hstyle : head.attribute? "style" = none) :
    (countAll children < Expansion.maxElements → ∃ inside,
        Element.ofRoot? (.ofRoot (.element head children)) =
          some (.node .svg (rootSettings head) inside)) ∧
      (Expansion.maxElements ≤ countAll children →
        Element.ofRoot? (.ofRoot (.element head children)) = none) := by
  have hsheets : Styled.sheetsIn (.element head children) = [] := sheetsBefore_of_isPlain h []
  have hsheet : Sheet.ofTexts (Styled.sheetsIn (.element head children)) = [] := by
    rw [hsheets]
    exact List.mergeSort_nil
  have hstyled : Styled.ofRoot (.element head children) =
      .element 0 (some .svg) head (head.attributes.filterMap Setting.ofAttribute?) []
        (Styled.ofNodes [] none (some ⟨head, none, none⟩) 1 children).1 := by
    rw [Styled.ofRoot, hsheet, Styled.ofNode]
    simp only [htag, hstyle]
    rfl
  obtain ⟨levels, rfl⟩ : ∃ less, levels = less + 1 := by
    cases levels with
    | zero => exact absurd h id
    | succ levels => exact ⟨levels, rfl⟩
  generalize hall : Styled.elements (.ofRoot (.element head children)) = all
  generalize habove : (Element.node .svg (rootSettings head) []) = outermost
  have hinside : (Expansion.collect (Expansion.expand all Expansion.maxDepth none [outermost])
      (Expansion.maxElements - 1)
        (Styled.ofNodes [] none (some ⟨head, none, none⟩) 1 children).1).map Expansion.Yield.room =
      Expansion.left? (Expansion.maxElements - 1) (countAll children) :=
    Expansion.room_collect (fun n hn _ _ room => Expansion.room_expand (h.2 n hn)
      (Nat.le_of_succ_le_succ hlevels) _ room) _
  have hexpand : Expansion.expand all (Expansion.maxDepth + 1) none [] Expansion.maxElements
      (.ofRoot (.element head children)) =
        (Expansion.collect (Expansion.expand all Expansion.maxDepth none [outermost])
          (Expansion.maxElements - 1)
            (Styled.ofNodes [] none (some ⟨head, none, none⟩) 1 children).1).bind fun inside =>
              some ⟨[.node .svg (rootSettings head) inside.elements], inside.room⟩ := by
    rw [hstyled, Expansion.expand_container (by decide) (by decide) (by decide),
      if_neg (by decide), ← habove]
    rfl
  rw [Element.ofRoot?, hall, hexpand]
  cases hcollected : Expansion.collect (Expansion.expand all Expansion.maxDepth none [outermost])
      (Expansion.maxElements - 1)
        (Styled.ofNodes [] none (some ⟨head, none, none⟩) 1 children).1 with
  | none =>
      rw [hcollected] at hinside
      refine ⟨fun hless => ?_, fun _ => rfl⟩
      rw [Expansion.left?, if_pos (Nat.le_sub_one_of_lt hless)] at hinside
      cases hinside
  | some inside =>
      rw [hcollected] at hinside
      refine ⟨fun _ => ⟨inside.elements, rfl⟩, fun hmore => ?_⟩
      have hpositive : 0 < Expansion.maxElements := by decide
      rw [Expansion.left?, if_neg (by omega)] at hinside
      cases hinside

end CanvasPress.Drawing
