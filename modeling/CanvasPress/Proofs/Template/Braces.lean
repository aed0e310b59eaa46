/-
# Only braces matter

How much is found between double braces depends on the braces of a text, and on which of
them stand next to each other; what else stands between two braces does not matter, as long
as something does.  `Alike` says of two texts that just as much is found with the one as with
the other behind any front.  So texts of which the search finds the same are put together
from the right, a piece of text at a time: escaping changes nothing, and a tag may be
replaced by a line break.
-/

import CanvasPress.Proofs.Template.Leftovers
import CanvasPress.Proofs.Text.Escape

namespace CanvasPress.Template

open Text

/-! ## Text without braces -/

/-- No brace is in a text. -/
def IsSmooth (s : List Char) : Prop :=
  '\x7b' ∉ s ∧ '\x7d' ∉ s

instance (s : List Char) : Decidable (IsSmooth s) :=
  inferInstanceAs (Decidable (_ ∧ _))

theorem isSmooth_append_iff {s t : List Char} :
    IsSmooth (s ++ t) ↔ IsSmooth s ∧ IsSmooth t := by
  simp only [IsSmooth, List.mem_append, not_or]
  tauto

theorem isSmooth_cons_iff {c : Char} {s : List Char} :
    IsSmooth (c :: s) ↔ (c ≠ '\x7b' ∧ c ≠ '\x7d') ∧ IsSmooth s := by
  simp only [IsSmooth, List.mem_cons, not_or]
  tauto

theorem isSmooth_nil : IsSmooth [] :=
  ⟨List.not_mem_nil, List.not_mem_nil⟩

/-- A text is without braces, or it has a first one. -/
theorem isSmooth_or_exists_brace (s : List Char) : IsSmooth s ∨
    ∃ run brace rest, IsSmooth run ∧ (brace = '\x7b' ∨ brace = '\x7d') ∧
      s = run ++ brace :: rest := by
  induction s with
  | nil => exact .inl isSmooth_nil
  | cons c s ih =>
      by_cases hc : c = '\x7b' ∨ c = '\x7d'
      · exact .inr ⟨[], c, s, isSmooth_nil, hc, rfl⟩
      · have hplain := not_or.1 hc
        rcases ih with hsmooth | ⟨run, brace, rest, hrun, hbrace, rfl⟩
        · exact .inl (isSmooth_cons_iff.2 ⟨hplain, hsmooth⟩)
        · exact .inr ⟨c :: run, brace, rest, isSmooth_cons_iff.2 ⟨hplain, hrun⟩, hbrace, rfl⟩

/-! ## Where nothing is found -/

theorem leftover?_cons_of_ne {c : Char} (h : c ≠ '\x7b') (s : List Char) :
    leftover? (c :: s) = none := by
  rw [Option.eq_none_iff_forall_ne_some]
  rintro ⟨source, rest⟩ hfound
  obtain ⟨⟨inside, -, -, rfl⟩, heq⟩ := leftover?_eq_some_iff.1 hfound
  exact h (List.cons.inj heq).1

theorem leftover?_cons_cons_of_ne (c : Char) {d : Char} (h : d ≠ '\x7b') (s : List Char) :
    leftover? (c :: d :: s) = none := by
  rw [Option.eq_none_iff_forall_ne_some]
  rintro ⟨source, rest⟩ hfound
  obtain ⟨⟨inside, -, -, rfl⟩, heq⟩ := leftover?_eq_some_iff.1 hfound
  exact h (List.cons.inj (List.cons.inj heq).2).1

/-- Behind two opening braces the next brace decides, together with what follows it. -/
theorem leftover?_of_brace {run : List Char} (hrun : IsSmooth run) {brace : Char}
    (hbrace : brace = '\x7b' ∨ brace = '\x7d') (rest : List Char)
    (h : ∀ more, brace :: rest ≠ '\x7d' :: '\x7d' :: more) :
    leftover? ('\x7b' :: '\x7b' :: (run ++ brace :: rest)) = none := by
  have hother : ∀ c ∈ run, (c != '\x7b' && c != '\x7d') = true := by
    intro c hc
    rw [Bool.and_eq_true, bne_iff_ne, bne_iff_ne]
    exact ⟨fun heq => hrun.1 (heq ▸ hc), fun heq => hrun.2 (heq ▸ hc)⟩
  have hstop : ∀ c ∈ (brace :: rest).head?, (c != '\x7b' && c != '\x7d') = false := by
    intro c hc
    cases hc
    rcases hbrace with rfl | rfl <;> rfl
  rw [leftover?]
  simp only [dropWhile_eq_of_stop hother hstop]

theorem leftover?_of_isSmooth {run : List Char} (hrun : IsSmooth run) :
    leftover? ('\x7b' :: '\x7b' :: run) = none := by
  rw [Option.eq_none_iff_forall_ne_some]
  rintro ⟨source, rest⟩ hfound
  obtain ⟨⟨inside, -, -, rfl⟩, heq⟩ := leftover?_eq_some_iff.1 hfound
  refine hrun.2 ?_
  rw [(List.cons.inj (List.cons.inj heq).2).2]
  simp

theorem leftovers_append_of_isSmooth {run : List Char} (hrun : IsSmooth run) (s : List Char) :
    leftovers (run ++ s) = leftovers s := by
  induction run with
  | nil => rfl
  | cons c run ih =>
      obtain ⟨hc, hrun⟩ := isSmooth_cons_iff.1 hrun
      rw [List.cons_append, leftovers_cons_of_none (leftover?_cons_of_ne hc.1 _), ih hrun]

/-- Whatever is found stands between double braces in the text. -/
theorem isBraced_infix_of_mem_leftovers {s source : List Char} (h : source ∈ leftovers s) :
    IsBraced source ∧ source <:+: s := by
  induction s using leftovers.induct with
  | case1 =>
      rw [leftovers_nil] at h
      cases h
  | case2 c more source' rest found ih =>
      obtain ⟨hbraced, hcons⟩ := leftover?_eq_some_iff.1 found
      rw [hcons] at h ⊢
      rw [leftovers_of_isBraced hbraced, List.mem_cons] at h
      rcases h with rfl | h
      · exact ⟨hbraced, (List.prefix_append source rest).isInfix⟩
      · exact ⟨(ih h).1, (ih h).2.trans (List.suffix_append source' rest).isInfix⟩
  | case3 c more found ih =>
      rw [leftovers_cons_of_none found] at h
      exact ⟨(ih h).1, (ih h).2.trans (List.suffix_cons c more).isInfix⟩

/-! ## Alike texts -/

/-- Just as much is found with one text as with another, behind any front. -/
def Alike (s s' : List Char) : Prop :=
  ∀ front, (leftovers (front ++ s)).length = (leftovers (front ++ s')).length

theorem Alike.refl (s : List Char) : Alike s s :=
  fun _ => rfl

theorem Alike.trans {s s' s'' : List Char} (h : Alike s s') (h' : Alike s' s'') : Alike s s'' :=
  fun front => (h front).trans (h' front)

theorem Alike.append_left {s s' : List Char} (h : Alike s s') (front : List Char) :
    Alike (front ++ s) (front ++ s') := by
  intro before
  rw [← List.append_assoc, ← List.append_assoc]
  exact h (before ++ front)

/-- What begins in front of a run without braces ends there, or behind the run, or nothing
begins; and which of these it is, and where it ends, does not depend on the run. -/
theorem leftover?_append_run (c : Char) (front rest : List Char) :
    (∀ run, IsSmooth run → run ≠ [] → leftover? (c :: (front ++ (run ++ rest))) = none) ∨
    (∃ more, more.length < (c :: front).length ∧ ∀ run, IsSmooth run → run ≠ [] →
      ∃ source, leftover? (c :: (front ++ (run ++ rest))) = some (source, more ++ (run ++ rest))) ∨
    ∃ behind, ∀ run, IsSmooth run → run ≠ [] →
      ∃ source, leftover? (c :: (front ++ (run ++ rest))) = some (source, behind) := by
  by_cases hc : c = '\x7b'
  swap
  · exact .inl fun run _ _ => leftover?_cons_of_ne hc _
  subst hc
  cases front with
  | nil =>
      refine .inl fun run hrun hne => ?_
      obtain ⟨d, run, rfl⟩ := List.exists_cons_of_ne_nil hne
      exact leftover?_cons_cons_of_ne _ (isSmooth_cons_iff.1 hrun).1.1 _
  | cons d front =>
      by_cases hd : d = '\x7b'
      swap
      · exact .inl fun run _ _ => leftover?_cons_cons_of_ne _ hd _
      subst hd
      simp only [List.cons_append]
      rcases isSmooth_or_exists_brace front with hfront | ⟨lead, brace, more, hlead, hbrace, rfl⟩
      · -- The run lies inside, and the first brace behind it decides.
        rcases isSmooth_or_exists_brace rest with hrest | ⟨gap, brace, behind, hgap, hbrace, rfl⟩
        · refine .inl fun run hrun _ => leftover?_of_isSmooth ?_
          exact isSmooth_append_iff.2 ⟨hfront, isSmooth_append_iff.2 ⟨hrun, hrest⟩⟩
        · have hinside {run : List Char} (hrun : IsSmooth run) :
              IsSmooth (front ++ (run ++ gap)) :=
            isSmooth_append_iff.2 ⟨hfront, isSmooth_append_iff.2 ⟨hrun, hgap⟩⟩
          by_cases hclosed : ∃ more, brace :: behind = '\x7d' :: '\x7d' :: more
          · obtain ⟨more, hmore⟩ := hclosed
            refine .inr (.inr ⟨more, fun run hrun _ => ⟨_, leftover?_eq_some_iff.2
              ⟨⟨front ++ (run ++ gap), (hinside hrun).1, (hinside hrun).2, rfl⟩, ?_⟩⟩⟩)
            simp [hmore]
          · refine .inl fun run hrun _ => ?_
            have hnone := leftover?_of_brace (hinside hrun) hbrace behind (not_exists.1 hclosed)
            simpa using hnone
      · -- The first brace stands in front of the run.
        cases more with
        | nil =>
            refine .inl fun run hrun hne => ?_
            obtain ⟨e, run, rfl⟩ := List.exists_cons_of_ne_nil hne
            have hnone := leftover?_of_brace hlead hbrace (e :: (run ++ rest))
              fun more heq => (isSmooth_cons_iff.1 hrun).1.2
                (List.cons.inj (List.cons.inj heq).2).1
            simpa using hnone
        | cons e more =>
            by_cases hclosed : brace = '\x7d' ∧ e = '\x7d'
            · obtain ⟨rfl, rfl⟩ := hclosed
              refine .inr (.inl ⟨more, by simp; omega, fun run _ _ => ⟨_,
                leftover?_eq_some_iff.2 ⟨⟨lead, hlead.1, hlead.2, rfl⟩, ?_⟩⟩⟩)
              simp
            · refine .inl fun run _ _ => ?_
              have hnone := leftover?_of_brace hlead hbrace (e :: (more ++ (run ++ rest)))
                fun more heq => hclosed ⟨(List.cons.inj heq).1,
                  (List.cons.inj (List.cons.inj heq).2).1⟩
              simpa using hnone

/-- **A run without braces may be replaced by another one**, as long as something stays. -/
theorem alike_of_runs {run run' : List Char} (hrun : IsSmooth run) (hrun' : IsSmooth run')
    (hne : run ≠ []) (hne' : run' ≠ []) (rest : List Char) :
    Alike (run ++ rest) (run' ++ rest) := by
  intro front
  induction hlength : front.length using Nat.strongRecOn generalizing front with
  | ind length ih =>
      cases front with
      | nil =>
          rw [List.nil_append, List.nil_append, leftovers_append_of_isSmooth hrun,
            leftovers_append_of_isSmooth hrun']
      | cons c front =>
          rw [List.cons_append, List.cons_append]
          rcases leftover?_append_run c front rest with
            hnone | ⟨more, hshorter, hends⟩ | ⟨behind, hends⟩
          · rw [leftovers_cons_of_none (hnone run hrun hne),
              leftovers_cons_of_none (hnone run' hrun' hne')]
            exact ih front.length (by rw [← hlength]; simp) front rfl
          · obtain ⟨source, hfound⟩ := hends run hrun hne
            obtain ⟨source', hfound'⟩ := hends run' hrun' hne'
            obtain ⟨hbraced, heq⟩ := leftover?_eq_some_iff.1 hfound
            obtain ⟨hbraced', heq'⟩ := leftover?_eq_some_iff.1 hfound'
            rw [heq, heq', leftovers_of_isBraced hbraced, leftovers_of_isBraced hbraced',
              List.length_cons, List.length_cons, ih more.length (by omega) more rfl]
          · obtain ⟨source, hfound⟩ := hends run hrun hne
            obtain ⟨source', hfound'⟩ := hends run' hrun' hne'
            obtain ⟨hbraced, heq⟩ := leftover?_eq_some_iff.1 hfound
            obtain ⟨hbraced', heq'⟩ := leftover?_eq_some_iff.1 hfound'
            rw [heq, heq', leftovers_of_isBraced hbraced, leftovers_of_isBraced hbraced',
              List.length_cons, List.length_cons]

theorem Alike.runs {run run' s s' : List Char} (h : Alike s s') (hrun : IsSmooth run)
    (hrun' : IsSmooth run') (hne : run ≠ []) (hne' : run' ≠ []) :
    Alike (run ++ s) (run' ++ s') :=
  (alike_of_runs hrun hrun' hne hne' s).trans (h.append_left run')

/-- A brace is escaped as itself, and any other character as text without braces. -/
theorem escapeChar_braces (c : Char) :
    escapeChar c = [c] ∨ (IsSmooth (escapeChar c) ∧ escapeChar c ≠ [] ∧ IsSmooth [c]) := by
  rcases escapeChar_cases c with ⟨hentity, -⟩ | ⟨-, -, hform⟩
  · have hall : ∀ entity ∈ entities, ('\x7b' ∉ entity ∧ '\x7d' ∉ entity) ∧ entity ≠ [] := by
      decide
    obtain ⟨hsmooth, hne⟩ := hall _ hentity
    have hplain (brace : Char) (hself : escapeChar brace = [brace])
        (hbrace : brace ∉ escapeChar c) : brace ∉ [c] := by
      intro hmem
      rw [← List.mem_singleton.1 hmem, hself] at hbrace
      exact hbrace List.mem_cons_self
    exact .inr ⟨hsmooth, hne, hplain _ (by decide) hsmooth.1, hplain _ (by decide) hsmooth.2⟩
  · exact .inl hform

/-- Escaping changes nothing of what is found. -/
theorem Alike.escape {s s' : List Char} (h : Alike s s') (text : List Char) :
    Alike (escapeList text ++ s) (text ++ s') := by
  induction text with
  | nil => exact h
  | cons c text ih =>
      rw [escapeList_cons, List.append_assoc]
      rcases escapeChar_braces c with hform | ⟨hsmooth, hne, hplain⟩
      · rw [hform]
        exact ih.append_left [c]
      · exact ih.runs hsmooth hplain hne (List.cons_ne_nil _ _)

end CanvasPress.Template
