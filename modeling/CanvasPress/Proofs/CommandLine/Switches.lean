/-
# How switches are read

Behind a command any of its switches may stand, in any order and each at most once.  A switch is
written by its long name or by its letter, and its value stands behind an equals sign or in the
next word.  However they are written, every switch comes to its value and no other switch comes
to any.
-/

import CanvasPress.CommandLine.Invocation
import Mathlib.Data.List.Forall2
import Mathlib.Data.List.TakeWhile

namespace CanvasPress.CommandLine

/-- The words that write a switch with a value. -/
inductive Writes (s : Switch) : String → List String → Prop where
  /-- A switch that takes no value. -/
  | bare (htakes : s.operand = .nothing) : Writes s "" ["--" ++ s.long]
  | joined {value : String} (htakes : s.operand ≠ .nothing) :
      Writes s value ["--" ++ s.long ++ "=" ++ value]
  | apart {value : String} (htakes : s.operand ≠ .nothing) (hvalue : isSwitch value = false) :
      Writes s value ["--" ++ s.long, value]
  | letterJoined {letter : Char} {value : String} (hletter : s.letter = some letter)
      (htakes : s.operand ≠ .nothing) :
      Writes s value [String.ofList ('-' :: letter :: '=' :: value.toList)]
  | letterApart {letter : Char} {value : String} (hletter : s.letter = some letter)
      (htakes : s.operand ≠ .nothing) (hvalue : isSwitch value = false) :
      Writes s value [String.ofList ['-', letter], value]

/-- A switch can be told from all others in a table, and from the requests for help. -/
structure Knows (table : List Switch) (s : Switch) : Prop where
  long : table.find? (fun t => t.long == s.long) = some s
  nonempty : s.long.toList ≠ []
  noEquals : ∀ c ∈ s.long.toList, c ≠ '='
  noHelp : s.long ≠ "help"
  noVersion : s.long ≠ "version"
  letter : ∀ c ∈ s.letter, table.find? (fun t => t.letter == some c) = some s ∧
    c ≠ '-' ∧ c ≠ 'h' ∧ c ≠ 'V'

/-- The switches of a command can be told from each other. -/
theorem knows_ofVerb (verb : Verb) {s : Switch} (hs : s ∈ Switch.ofVerb verb) :
    Knows (Switch.ofVerb verb) s := by
  -- The letters are tested one by one: a decision for all of them would go through every character.
  have hall : ∀ s ∈ Switch.ofVerb verb,
      (Switch.ofVerb verb).find? (fun t => t.long == s.long) = some s ∧ s.long.toList ≠ [] ∧
        s.long.toList.all (fun c => c ≠ '=') = true ∧ s.long ≠ "help" ∧ s.long ≠ "version" ∧
        s.letter.all (fun c => (Switch.ofVerb verb).find? (fun t => t.letter == some c) = some s ∧
          c ≠ '-' ∧ c ≠ 'h' ∧ c ≠ 'V') = true := by
    cases verb <;> decide
  obtain ⟨hlong, hnonempty, hequals, hhelp, hversion, hletter⟩ := hall s hs
  refine ⟨hlong, hnonempty, fun c hc => ?_, hhelp, hversion, fun c hc => ?_⟩
  · exact of_decide_eq_true (List.all_eq_true.1 hequals c hc)
  · rw [hc] at hletter
    exact of_decide_eq_true hletter

variable {table : List Switch} {hasVersion : Bool} {s : Switch} {value : String}

theorem read_joined (h : Knows table s) (value : String) :
    Word.read table hasVersion ("--" ++ s.long ++ "=" ++ value) = .switch s (some value) := by
  have hlist : ("--" ++ s.long ++ "=" ++ value).toList =
      '-' :: '-' :: (s.long.toList ++ '=' :: value.toList) := by simp
  have hname : (s.long.toList ++ '=' :: value.toList).takeWhile (· ≠ '=') = s.long.toList := by
    rw [List.takeWhile_append_of_pos (by simpa using h.noEquals)]
    simp
  have hbehind : (s.long.toList ++ '=' :: value.toList).dropWhile (· ≠ '=') =
      '=' :: value.toList := by
    rw [List.dropWhile_append_of_pos (by simpa using h.noEquals)]
    simp
  rw [Word.read, hlist]
  simp only [Word.ofLong, hname, hbehind, String.ofList_toList]
  simp [h.noHelp, h.noVersion, h.long]

theorem read_long (h : Knows table s) :
    Word.read table hasVersion ("--" ++ s.long) = .switch s none := by
  have hlist : ("--" ++ s.long).toList = '-' :: '-' :: s.long.toList := by simp
  have hname : s.long.toList.takeWhile (· ≠ '=') = s.long.toList :=
    List.takeWhile_eq_self_iff.2 (by simpa using h.noEquals)
  have hbehind : s.long.toList.dropWhile (· ≠ '=') = [] :=
    List.dropWhile_eq_nil_iff.2 (by simpa using h.noEquals)
  rw [Word.read, hlist]
  simp only [Word.ofLong, hname, hbehind, String.ofList_toList]
  simp [h.noHelp, h.noVersion, h.long, h.nonempty]

theorem read_letter (h : Knows table s) {letter : Char} (hletter : s.letter = some letter)
    (rest : List Char) :
    Word.read table hasVersion (String.ofList ('-' :: letter :: rest)) =
      Word.ofLetter table hasVersion letter rest := by
  obtain ⟨-, hhyphen, -, -⟩ := h.letter letter hletter
  rw [Word.read, String.toList_ofList]
  split
  next heq => simp_all
  next heq =>
    cases heq
    rfl
  next _ hno => exact absurd rfl (hno _ _)

/-- A switch that is written is added to those given before. -/
theorem readSwitches_of_writes (h : Knows table s) {words : List String}
    (hwrites : Writes s value words) (haccepts : s.operand ≠ .nothing → s.operand.accepts value)
    {g : Given} (hnew : g.has s.topic = false) (rest : List String) :
    readSwitches table hasVersion g (words ++ rest) =
      readSwitches table hasVersion ((s.topic, value) :: g) rest := by
  have hadd (htakes : s.operand ≠ .nothing) : add? g s value = some ((s.topic, value) :: g) := by
    simp [add?, hnew, haccepts htakes]
  have hofLetter {letter : Char} (hletter : s.letter = some letter) :
      Word.ofLetter table hasVersion letter [] = .switch s none ∧
        ∀ more, Word.ofLetter table hasVersion letter ('=' :: more) =
          .switch s (some (String.ofList more)) := by
    obtain ⟨hfind, -, hh, hV⟩ := h.letter letter hletter
    simp [Word.ofLetter, hh, hV, hfind]
  cases hwrites with
  | bare htakes =>
      rw [List.singleton_append, readSwitches, read_long h]
      simp [htakes, hnew]
  | joined htakes =>
      rw [List.singleton_append, readSwitches, read_joined h]
      simp [hadd htakes]
  | apart htakes hvalue =>
      rw [List.cons_append, readSwitches, read_long h]
      simp [htakes, hvalue, hadd htakes]
  | letterJoined hletter htakes =>
      rw [List.singleton_append, readSwitches, read_letter h hletter, (hofLetter hletter).2]
      simp [hadd htakes]
  | letterApart hletter htakes hvalue =>
      rw [List.cons_append, readSwitches, read_letter h hletter, (hofLetter hletter).1]
      simp [htakes, hvalue, hadd htakes]

theorem value?_cons (topic other : Topic) (value : String) (g : Given) :
    Given.value? ((topic, value) :: g) other =
      if topic = other then some value else g.value? other := by
  by_cases h : topic = other <;> simp [Given.value?, h]

/-- Switches of a table, each at most once and each with a value that it takes, and the words
that write them one after the other. -/
structure AreWritten (table : List Switch) (given : List (Switch × String))
    (parts : List (List String)) : Prop where
  known : ∀ e ∈ given, e.1 ∈ table
  accepted : ∀ e ∈ given, e.1.operand ≠ .nothing → e.1.operand.accepts e.2
  once : (given.map fun e => e.1.topic).Nodup
  written : List.Forall₂ (fun e part => Writes e.1 e.2 part) given parts

/-- Switches are read one after the other: each comes to its value, and for no other topic
anything changes. -/
theorem exists_readSwitches {given : List (Switch × String)} {parts : List (List String)}
    (hknows : ∀ s ∈ table, Knows table s) (h : AreWritten table given parts) (hasVersion : Bool)
    (g : Given) (hnew : ∀ e ∈ given, g.has e.1.topic = false) :
    ∃ last, readSwitches table hasVersion g parts.flatten = .given last [] ∧
      (∀ e ∈ given, last.value? e.1.topic = some e.2) ∧
        ∀ topic, (∀ e ∈ given, e.1.topic ≠ topic) → last.value? topic = g.value? topic := by
  obtain ⟨hknown, haccepted, honce, hwritten⟩ := h
  induction hwritten generalizing g with
  | nil => exact ⟨g, by rw [List.flatten_nil, readSwitches], nofun, fun _ _ => rfl⟩
  | @cons e part given parts hwrites hwritten ih =>
      rw [List.forall_mem_cons] at hknown haccepted hnew
      rw [List.map_cons, List.nodup_cons] at honce
      obtain ⟨hapart, honce⟩ := honce
      have hothers : ∀ e' ∈ given, e'.1.topic ≠ e.1.topic := fun e' he' hsame =>
        hapart (List.mem_map.2 ⟨e', he', hsame⟩)
      have hstill : ∀ e' ∈ given, Given.has ((e.1.topic, e.2) :: g) e'.1.topic = false := by
        intro e' he'
        rw [Given.has, value?_cons, if_neg (hothers e' he').symm]
        exact hnew.2 e' he'
      obtain ⟨last, hread, hvalues, hrest⟩ := ih _ hstill hknown.2 haccepted.2 honce
      refine ⟨last, ?_, List.forall_mem_cons.2 ⟨?_, hvalues⟩, fun topic htopic => ?_⟩
      · rw [List.flatten_cons,
          readSwitches_of_writes (hknows _ hknown.1) hwrites haccepted.1 hnew.1, hread]
      · rw [hrest _ hothers, value?_cons, if_pos rfl]
      · rw [List.forall_mem_cons] at htopic
        rw [hrest _ htopic.2, value?_cons, if_neg htopic.1]

/-- The words behind a command are read as the switches that they write.  What is asked for
follows from the values of the switches alone. -/
theorem exists_ofWords {verb : Verb} {given : List (Switch × String)} {parts : List (List String)}
    (h : AreWritten (Switch.ofVerb verb) given parts) :
    ∃ g : Given, (∀ e ∈ given, g.value? e.1.topic = some e.2) ∧
      (∀ topic, (∀ e ∈ given, e.1.topic ≠ topic) → g.value? topic = none) ∧
      ∀ command, Command.ofGiven? verb g = some command →
        Wish.ofWords (verb.name :: parts.flatten) = .perform ⟨g.value? .config, command⟩ := by
  obtain ⟨g, hread, hvalues, hothers⟩ := exists_readSwitches
    (fun s hs => knows_ofVerb verb hs) h false [] fun _ _ => rfl
  refine ⟨g, hvalues, hothers, fun command hcommand => ?_⟩
  have hverb : Wish.ofWords (verb.name :: parts.flatten) =
      Wish.ofVerb verb none parts.flatten := by
    cases verb <;> rfl
  rw [hverb, Wish.ofVerb, hread]
  simp only [hcommand]
  rw [Option.orElse_eq_orElse]
  cases g.value? .config <;> rfl

end CanvasPress.CommandLine
