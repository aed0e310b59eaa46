/-
# Cache keys

The key of a request is a digest of its written form.  The written forms of two
requests are equal only when the requests are, so two requests share a key only
if the digests of different texts do.  A key is written in hexadecimal digits and
so has a name, whatever the digest: its first eight digits.

A cache serves what was stored under the key of a request, so keys have to tell requests
apart and must not depend on how a request came about.  What a key is computed from does
both, and the key does as far as the digest tells apart what the keys in question are
computed from.
-/

import CanvasPress.Cache
import CanvasPress.Proofs.Canvas.Building
import CanvasPress.Proofs.Json.Unambiguous
import Mathlib.Data.List.Basic
import Mathlib.Data.Set.Function

namespace CanvasPress

open Json Text

/-! ## Requests as values -/

theorem Json.areExact_of_forall {items : List Json} (h : ∀ item ∈ items, item.IsExact) :
    AreExact items := by
  induction items with
  | nil => trivial
  | cons item rest ih =>
      exact ⟨h item List.mem_cons_self, ih fun other hmem => h other (List.mem_cons_of_mem _ hmem)⟩

theorem Json.membersExact_of_forall {members : List (String × Json)}
    (h : ∀ member ∈ members, member.2.IsExact) : MembersExact members := by
  induction members with
  | nil => trivial
  | cons member rest ih =>
      exact ⟨h member List.mem_cons_self,
        ih fun other hmem => h other (List.mem_cons_of_mem _ hmem)⟩

theorem Section.isExact_encode (s : Section) : s.encode.IsExact := by
  cases s with
  | text content => trivial
  | list entries =>
      refine areExact_of_forall fun item hitem => ?_
      obtain ⟨entry, -, rfl⟩ := List.mem_map.1 hitem
      trivial

theorem Section.encode_injective : Function.Injective Section.encode := by
  intro s s' h
  have htexts : Function.Injective (List.map Json.text) :=
    List.map_injective_iff.2 fun _ _ h => Json.text.inj h
  cases s with
  | text content =>
      cases s' with
      | text content' => rw [Json.text.inj h]
      | list entries' => cases h
  | list entries =>
      cases s' with
      | text content' => cases h
      | list entries' => rw [htexts (Json.array.inj h)]

theorem Document.isExact_encode (document : Document) : document.encode.IsExact := by
  have hsections : MembersExact (document.sections.map fun s => (s.1, s.2.encode)) := by
    refine membersExact_of_forall fun member hmember => ?_
    obtain ⟨s, -, rfl⟩ := List.mem_map.1 hmember
    exact s.2.isExact_encode
  cases hid : document.id with
  | none =>
      rw [Document.encode, hid]
      exact ⟨trivial, hsections, trivial⟩
  | some id =>
      rw [Document.encode, hid]
      exact ⟨trivial, trivial, hsections, trivial⟩

theorem Kind.name_injective : Function.Injective Kind.name := by
  intro kind kind' h
  cases kind <;> cases kind' <;> first | rfl | exact absurd h (by decide)

theorem Document.encode_injective : Function.Injective Document.encode := by
  intro document document' h
  have hsections : Function.Injective
      (List.map fun s : String × Section => (s.1, s.2.encode)) :=
    List.map_injective_iff.2 fun s s' h =>
      Prod.ext (Prod.mk.inj h).1 (Section.encode_injective (Prod.mk.inj h).2)
  obtain ⟨id, kind, sections⟩ := document
  obtain ⟨id', kind', sections'⟩ := document'
  -- A document without a reference has two members, one with a reference has three.
  cases id <;> cases id' <;>
    simp only [Document.encode, Kind.encode, List.nil_append, List.cons_append, Json.object.injEq,
      List.cons.injEq, Prod.mk.injEq, Json.text.injEq, reduceCtorEq, and_false,
      and_true, true_and] at h
  · obtain ⟨hkind, hmembers⟩ := h
    rw [Kind.name_injective hkind, hsections hmembers]
  · obtain ⟨rfl, hkind, hmembers⟩ := h
    rw [Kind.name_injective hkind, hsections hmembers]

theorem Format.name_injective : Function.Injective Format.name := by
  intro format format' h
  cases format <;> cases format' <;> first | rfl | exact absurd h (by decide)

theorem Encoding.name_injective : Function.Injective Encoding.name := by
  intro encoding encoding' h
  cases encoding <;> cases encoding' <;> first | rfl | exact absurd h (by decide)

theorem RenderOptions.isExact_encode (options : RenderOptions) : options.encode.IsExact :=
  ⟨trivial, trivial, trivial, trivial, trivial, trivial, trivial, trivial⟩

theorem RenderOptions.encode_injective : Function.Injective RenderOptions.encode := by
  intro options options' h
  simp only [RenderOptions.encode, RenderOptions.members, Format.encode, Encoding.encode, natural,
    Json.object.injEq, List.cons.injEq, Prod.mk.injEq, Json.text.injEq, Json.integer.injEq,
    Json.bool.injEq, Int.natCast_inj, true_and, and_true] at h
  obtain ⟨hformat, htheme, hwidth, hheight, hdpi, hmetadata, hencoding⟩ := h
  have hformats := Format.name_injective hformat
  have hencodings := Encoding.name_injective hencoding
  cases options
  cases options'
  simp_all only

/-! ## Keys -/

/-- The written form of a request tells the request. -/
theorem keyMaterial_inj {document document' : Document} {options options' : RenderOptions}
    (h : keyMaterial document options = keyMaterial document' options') :
    document = document' ∧ options = options' := by
  have hexact (document : Document) (options : RenderOptions) :
      (Json.object [("document", document.encode), ("options", options.encode)]).IsExact :=
    ⟨document.isExact_encode, options.isExact_encode, trivial⟩
  have hrequest := compact_inj (hexact document options) (hexact document' options') h
  simp only [Json.object.injEq, List.cons.injEq, Prod.mk.injEq, true_and, and_true] at hrequest
  exact ⟨Document.encode_injective hrequest.1, RenderOptions.encode_injective hrequest.2⟩

/-! ## Digits of keys -/

/-- The hexadecimal digits. -/
def hexDigits : List Char :=
  "0123456789abcdef".toList

theorem digitChar_mem_hexDigits {n : Nat} (hn : n < 16) : n.digitChar ∈ hexDigits := by
  revert n
  decide

theorem mem_hexDigits_of_mem_toDigits {n : Nat} {c : Char} (hc : c ∈ Nat.toDigits 16 n) :
    c ∈ hexDigits := by
  induction n using Nat.strongRecOn with
  | ind n ih =>
      rw [Nat.toDigits_eq_if (by decide)] at hc
      split_ifs at hc with hsmall
      · rw [List.mem_singleton.1 hc]
        exact digitChar_mem_hexDigits hsmall
      · rcases List.mem_append.1 hc with hc | hc
        · exact ih (n / 16) (by omega) hc
        · rw [List.mem_singleton.1 hc]
          exact digitChar_mem_hexDigits (Nat.mod_lt _ (by decide))

theorem length_hexWord (word : UInt32) : (Digest.hexWord word).length = 8 := by
  have hfits : (Nat.toDigits 16 word.toNat).length ≤ 8 :=
    (Nat.length_toDigits_le_iff (by decide) (by decide)).2 word.toNat_lt
  rw [Digest.hexWord, List.length_append, List.length_replicate]
  omega

theorem mem_hexDigits_of_mem_cacheKey {document : Document} {options : RenderOptions} {c : Char}
    (hc : c ∈ (cacheKey document options).toList) : c ∈ hexDigits := by
  rw [cacheKey, Digest.sha256Hex, String.toList_ofList] at hc
  obtain ⟨word, -, hword⟩ := List.mem_flatMap.1 hc
  rcases List.mem_append.1 hword with hzero | hdigit
  · rw [List.eq_of_mem_replicate hzero]
    decide
  · exact mem_hexDigits_of_mem_toDigits hdigit

/-- A key has eight digits for each of the eight words of the digest. -/
theorem length_cacheKey (document : Document) (options : RenderOptions) :
    (cacheKey document options).toList.length = 64 := by
  rw [cacheKey, Digest.sha256Hex, String.toList_ofList, List.length_flatMap]
  simp [Digest.sha256, length_hexWord]

theorem utf8Size_of_mem_cacheKey {document : Document} {options : RenderOptions} {c : Char}
    (hc : c ∈ (cacheKey document options).toList) : c.utf8Size = 1 := by
  have hnarrow : (hexDigits.all fun digit => digit.utf8Size == 1) = true := by decide
  exact beq_iff_eq.1 (List.all_eq_true.1 hnarrow c (mem_hexDigits_of_mem_cacheKey hc))

/-! ## Names of keys -/

/-- Where every character takes one byte, a text has as many bytes as characters. -/
theorem byteLength_of_narrow {cs : List Char} (h : ∀ c ∈ cs, c.utf8Size = 1) :
    byteLength cs = cs.length := by
  induction cs with
  | nil => rfl
  | cons c rest ih =>
      have hrest := ih fun d hd => h d (List.mem_cons_of_mem _ hd)
      rw [byteLength, hrest, h c List.mem_cons_self, List.length_cons, Nat.add_comm]

/-- Where every character takes one byte, a text can be cut anywhere. -/
theorem takeBytes?_of_narrow {cs : List Char} (h : ∀ c ∈ cs, c.utf8Size = 1) {n : Nat}
    (hn : n ≤ cs.length) : takeBytes? n cs = some (cs.take n) := by
  induction cs generalizing n with
  | nil =>
      obtain rfl : n = 0 := Nat.le_zero.1 hn
      rfl
  | cons c rest ih =>
      cases n with
      | zero => rfl
      | succ n =>
          have hc := h c List.mem_cons_self
          have hrest := ih (fun d hd => h d (List.mem_cons_of_mem _ hd))
            (Nat.le_of_succ_le_succ hn)
          simp [takeBytes?, hc, hrest]

/-- The name of the key of a request is its first eight characters. -/
theorem shortKey?_cacheKey (document : Document) (options : RenderOptions) :
    shortKey? (cacheKey document options) =
      some (String.ofList ((cacheKey document options).toList.take 8)) := by
  have hnarrow : ∀ c ∈ (cacheKey document options).toList, c.utf8Size = 1 :=
    fun c => utf8Size_of_mem_cacheKey
  unfold shortKey?
  rw [byteLength_of_narrow hnarrow]
  split_ifs with hshort
  · rw [List.take_of_length_le hshort, String.ofList_toList]
  · rw [takeBytes?_of_narrow hnarrow (Nat.le_of_not_le hshort), Option.map_some]

/-- The key of a request has a name. -/
theorem isSome_shortKey?_cacheKey (document : Document) (options : RenderOptions) :
    (shortKey? (cacheKey document options)).isSome := by
  rw [shortKey?_cacheKey, Option.isSome_some]

theorem shortKey_cacheKey (document : Document) (options : RenderOptions) :
    shortKey (cacheKey document options) =
      String.ofList ((cacheKey document options).toList.take 8) := by
  rw [shortKey, shortKey?_cacheKey, Option.getD_some]

/-! ## Requests and their keys -/

section Requests

open Edit

theorem keyMaterial_bytes_eq_iff {document document' : Document}
    {options options' : RenderOptions} :
    (keyMaterial document options).toUTF8 = (keyMaterial document' options').toUTF8 ↔
      document = document' ∧ options = options' := by
  constructor
  · intro h
    exact keyMaterial_inj (String.toByteArray_inj.1 h)
  · rintro ⟨rfl, rfl⟩
    rfl

/-- Two requests with one key are the same, or what their keys are computed from is a
collision of the digest. -/
theorem eq_or_collision_of_cacheKey_eq {document document' : Document}
    {options options' : RenderOptions}
    (h : cacheKey document options = cacheKey document' options') :
    (document = document' ∧ options = options') ∨
      (keyMaterial document options ≠ keyMaterial document' options' ∧
        Digest.sha256Hex (keyMaterial document options) =
          Digest.sha256Hex (keyMaterial document' options')) := by
  by_cases hmaterial : keyMaterial document options = keyMaterial document' options'
  · exact .inl (keyMaterial_inj hmaterial)
  · exact .inr ⟨hmaterial, h⟩

/-- **Keys tell requests apart, and nothing else.**

* What the keys of two requests are computed from is the same, byte by byte, just if the
  documents and the options are the same.
* Wherever the digest is free of collisions, the keys of two requests are the same just if
  the requests are.
* Two documents of a kind have the same key, with all options, if they were built by edits
  of which the last reference and the last section under each key are the same. -/
theorem cacheKey_eq_iff_of_collisionFree (document document' : Document)
    (options options' : RenderOptions) :
    ((keyMaterial document options).toUTF8 = (keyMaterial document' options').toUTF8 ↔
        document = document' ∧ options = options') ∧
      (∀ texts : Set String, texts.InjOn Digest.sha256Hex →
        keyMaterial document options ∈ texts → keyMaterial document' options' ∈ texts →
          (cacheKey document options = cacheKey document' options' ↔
            document = document' ∧ options = options')) ∧
      ∀ (kind : Kind) (edits edits' : List Edit), lastId? edits = lastId? edits' →
        (∀ key, lastSection? edits key = lastSection? edits' key) →
          cacheKey (Document.build kind edits) options =
            cacheKey (Document.build kind edits') options := by
  refine ⟨keyMaterial_bytes_eq_iff, ?_, ?_⟩
  · intro texts hfree hmem hmem'
    constructor
    · intro h
      rcases eq_or_collision_of_cacheKey_eq h with hsame | ⟨hdiffer, hcollide⟩
      · exact hsame
      · exact absurd (hfree hmem hmem' hcollide) hdiffer
    · rintro ⟨rfl, rfl⟩
      rfl
  · intro kind edits edits' hid hsections
    rw [Document.build_eq_build_iff.2 ⟨hid, hsections⟩]

/-- Edits in another order, some of which are undone by later ones. -/
theorem cacheKey_eq_of_reordered_edits :
    let edits := [Edit.text "gains" "a", .list "pains" ["b", ""], .reference "r",
      .text "gains" "\""]
    let edits' := [Edit.reference "", .text "gains" "\"", .reference "r", .list "pains" ["b", ""]]
    let document := Document.build .valueProposition edits
    let document' := Document.build .valueProposition edits'
    let options := RenderOptions.ofSettings {}
    let texts : Set String := {keyMaterial document options}
    lastId? edits = lastId? edits' ∧
      (∀ key, lastSection? edits key = lastSection? edits' key) ∧
      cacheKey document options = cacheKey document' options ∧
      texts.InjOn Digest.sha256Hex ∧ keyMaterial document options ∈ texts ∧
      keyMaterial document' options ∈ texts ∧ document = document' := by
  intro edits edits' document document' options texts
  have hsections : ∀ key, lastSection? edits key = lastSection? edits' key := by
    intro key
    by_cases hgains : "gains" = key
    · subst hgains
      rfl
    · by_cases hpains : "pains" = key
      · subst hpains
        rfl
      · simp [lastSection?, edits, edits', section?, List.findSome?, hgains, hpains]
  obtain ⟨-, hkeys, hedits⟩ :=
    cacheKey_eq_iff_of_collisionFree document document' options options
  have hkey : cacheKey document options = cacheKey document' options :=
    hedits .valueProposition edits edits' rfl hsections
  have hsame : document' = document := by decide
  have hmem : keyMaterial document' options ∈ texts := by
    rw [hsame]
    rfl
  exact ⟨rfl, hsections, hkey, Set.injOn_singleton _ _, rfl, hmem,
    ((hkeys texts (Set.injOn_singleton _ _) rfl hmem).1 hkey).1⟩

end Requests

end CanvasPress
