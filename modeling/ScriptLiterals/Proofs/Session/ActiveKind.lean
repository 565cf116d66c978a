import Mathlib.Logic.Basic
import Mathlib.Logic.ExistsUnique
import ScriptLiterals.Proofs.Session.ScannedEntries

/-!
# What a session remembers

A session remembers the kind it looks for, and only an entry that names one to the command for the
kind changes it (`Chooses`). What any single entry does to a session is said once, in `respond_next`:
it ends the session, or the kind behind it is the one it chose, or the one in front of it.

From there on entries are taken one after the other. The kind in front of an entry is what the last
entry before it chose that chose anything (`Active`), and the answers up to there do not depend on
what follows (`run_append`). So an entry that neither ends the session nor chooses could as well be
left out: the answers to all others stay the same.
-/

set_option autoImplicit false

namespace ScriptLiterals.Session

open Text

variable {entry name : List Char} {earlier later : List (List Char)}
variable {start next kind kind' : Option Kind}

/-! ## What an entry asks for -/

/-- What the name stands for in the command for the kind: the kind that goes by it, or any. -/
inductive Names (name : List Char) : Option Kind → Prop where
  | any (h : String.ofList name = "any") : Names name none
  | kind {found : Kind} (h : Kind.ofName? (String.ofList name) = some found) :
      Names name (some found)

/-- The entry changes the kind that is looked for. -/
def Chooses (entry : List Char) (kind : Option Kind) : Prop :=
  ∃ name, Command.parse? entry = some (.kind, some name) ∧ Names name kind

/-- The entry leaves the kind that is looked for as it is. -/
def KeepsKind (entry : List Char) : Prop := ∀ kind, ¬Chooses entry kind

/-- The entry ends the session. -/
def Ends (entry : List Char) : Prop := ∃ argument, Command.parse? entry = some (.exit, argument)

/-- No kind goes by the name for no particular one. -/
theorem ofName?_any : Kind.ofName? "any" = none := rfl

theorem Names.unique (h : Names name kind) (h' : Names name kind') : kind = kind' := by
  cases h with
  | any h =>
    cases h' with
    | any h' => rfl
    | kind h' =>
      rw [h, ofName?_any] at h'
      exact absurd h' (by simp)
  | kind h =>
    cases h' with
    | any h' =>
      rw [h', ofName?_any] at h
      exact absurd h (by simp)
    | kind h' => exact h.symm.trans h'

theorem Chooses.unique (h : Chooses entry kind) (h' : Chooses entry kind') : kind = kind' := by
  obtain ⟨name, hcommand, hname⟩ := h
  obtain ⟨name', hcommand', hname'⟩ := h'
  rw [hcommand] at hcommand'
  obtain rfl : name = name' := by simpa using hcommand'
  exact hname.unique hname'

/-- Only the command for the kind changes it. -/
theorem keepsKind_of_parse? (h : ∀ name, Command.parse? entry ≠ some (.kind, some name)) :
    KeepsKind entry := by
  rintro kind ⟨name, hcommand, -⟩
  exact h name hcommand

theorem not_ends_of_parse? (h : ∀ argument, Command.parse? entry ≠ some (.exit, argument)) :
    ¬Ends entry := by
  rintro ⟨argument, hcommand⟩
  exact h argument hcommand

/-! ## The kind behind some entries -/

/-- What a session looks for behind the entries `earlier`, if it looked for `start` in front of them:
what the last of them chose that chose anything. -/
inductive Active (start : Option Kind) : List (List Char) → Option Kind → Prop where
  | unchanged {earlier : List (List Char)} (h : ∀ entry ∈ earlier, KeepsKind entry) :
      Active start earlier start
  | chosen {before behind : List (List Char)} {entry : List Char} {kind : Option Kind}
      (h : Chooses entry kind) (hbehind : ∀ entry ∈ behind, KeepsKind entry) :
      Active start (before ++ entry :: behind) kind

theorem active_iff : Active start earlier kind ↔
    (kind = start ∧ ∀ entry ∈ earlier, KeepsKind entry) ∨
      ∃ before entry behind, earlier = before ++ entry :: behind ∧ Chooses entry kind ∧
        ∀ entry ∈ behind, KeepsKind entry := by
  constructor
  · intro h
    cases h with
    | unchanged h => exact Or.inl ⟨rfl, h⟩
    | chosen h hbehind => exact Or.inr ⟨_, _, _, rfl, h, hbehind⟩
  · rintro (⟨rfl, h⟩ | ⟨before, entry, behind, rfl, h, hbehind⟩)
    · exact .unchanged h
    · exact .chosen h hbehind

/-- The last of the entries that choose is one entry. -/
theorem Chooses.eq_of_append {before before' behind behind' : List (List Char)}
    {entry entry' : List Char} (h : Chooses entry kind) (h' : Chooses entry' kind')
    (hbehind : ∀ entry ∈ behind, KeepsKind entry) (hbehind' : ∀ entry ∈ behind', KeepsKind entry)
    (heq : before ++ entry :: behind = before' ++ entry' :: behind') : entry = entry' := by
  rcases List.append_eq_append_iff.mp heq with ⟨middle, -, hmiddle⟩ | ⟨middle, -, hmiddle⟩
  · cases middle with
    | nil => exact (List.cons.inj hmiddle).1
    | cons first middle =>
      obtain ⟨-, rfl⟩ := List.cons.inj hmiddle
      exact absurd h' (hbehind entry' (by simp) kind')
  · cases middle with
    | nil => exact (List.cons.inj hmiddle).1.symm
    | cons first middle =>
      obtain ⟨-, rfl⟩ := List.cons.inj hmiddle
      exact absurd h (hbehind' entry (by simp) kind)

/-- There is one kind behind some entries. -/
theorem Active.unique (h : Active start earlier kind) (h' : Active start earlier kind') :
    kind = kind' := by
  rcases active_iff.mp h with ⟨rfl, hkeep⟩ | ⟨before, entry, behind, rfl, hchoose, hbehind⟩
  · rcases active_iff.mp h' with ⟨rfl, -⟩ | ⟨before, entry, behind, rfl, hchoose, -⟩
    · rfl
    · exact absurd hchoose (hkeep entry (by simp) kind')
  · rcases active_iff.mp h' with ⟨rfl, hkeep⟩ | ⟨before', entry', behind', heq, hchoose', hbehind'⟩
    · exact absurd hchoose (hkeep entry (by simp) kind)
    · obtain rfl := hchoose.eq_of_append hchoose' hbehind hbehind' heq
      exact hchoose.unique hchoose'

/-- Entries are taken one after the other. -/
theorem Active.trans (h : Active start earlier next) (h' : Active next later kind) :
    Active start (earlier ++ later) kind := by
  cases h' with
  | chosen hchoose hbehind =>
    rw [← List.append_assoc]
    exact .chosen hchoose hbehind
  | unchanged hlater =>
    cases h with
    | unchanged hearlier =>
      refine .unchanged fun entry hmem => ?_
      exact (List.mem_append.mp hmem).elim (hearlier entry) (hlater entry)
    | chosen hchoose hbehind =>
      rw [List.append_assoc, List.cons_append]
      refine .chosen hchoose fun entry hmem => ?_
      exact (List.mem_append.mp hmem).elim (hbehind entry) (hlater entry)

theorem Active.of_keepsKind (h : KeepsKind entry) : Active start [entry] start := by
  refine .unchanged fun e he => ?_
  rw [List.mem_singleton.mp he]
  exact h

theorem Active.of_chooses (h : Chooses entry kind) : Active start [entry] kind := by
  rw [← List.nil_append [entry]]
  exact .chosen h (by simp)

theorem exists_active (start : Option Kind) (earlier : List (List Char)) :
    ∃ kind, Active start earlier kind := by
  induction earlier generalizing start with
  | nil => exact ⟨start, .unchanged (by simp)⟩
  | cons entry earlier ih =>
    by_cases hkeeps : KeepsKind entry
    · obtain ⟨kind, hactive⟩ := ih start
      exact ⟨kind, (Active.of_keepsKind hkeeps).trans hactive⟩
    · obtain ⟨next, hchoose⟩ := not_forall_not.mp hkeeps
      obtain ⟨kind, hactive⟩ := ih next
      exact ⟨kind, (Active.of_chooses hchoose).trans hactive⟩

/-! ## One entry -/

/-- The answer to the command for the kind: behind it is the kind that its argument names, or the same
as before. -/
theorem respondKind_next (kind : Option Kind) {argument : Option (List Char)}
    (h : Command.parse? entry = some (.kind, argument)) :
    ∃ next, (respondKind kind argument).2 = .active next ∧ Active kind [entry] next := by
  cases argument with
  | none => exact ⟨kind, rfl, .of_keepsKind (keepsKind_of_parse? (by simp [h]))⟩
  | some name =>
    rw [respondKind]
    split
    · rename_i hany
      exact ⟨none, rfl, .of_chooses ⟨name, h, .any hany⟩⟩
    · rename_i hany
      cases hfound : Kind.ofName? (String.ofList name) with
      | some found => exact ⟨some found, rfl, .of_chooses ⟨name, h, .kind hfound⟩⟩
      | none =>
        refine ⟨kind, rfl, .of_keepsKind ?_⟩
        rintro kind' ⟨name', hcommand, hname⟩
        rw [h] at hcommand
        obtain rfl : name = name' := by simpa using hcommand
        cases hname with
        | any hany' => exact hany hany'
        | kind hfound' => exact absurd (hfound.symm.trans hfound') (by simp)

/-- **What an entry does to a session**: it ends it, or the session goes on with the kind that the entry
chose or that was looked for before. -/
theorem respond_next (kind : Option Kind) (entry : List Char) :
    (Ends entry ∧ (respond kind entry).2 = .ended) ∨
      (¬Ends entry ∧ ∃ next, (respond kind entry).2 = .active next ∧ Active kind [entry] next) := by
  rw [respond]
  split
  · rename_i hblank
    have hcommand : Command.parse? entry = none := by
      rw [Command.parse?, List.isEmpty_iff.mp hblank]
    exact Or.inr ⟨not_ends_of_parse? (by simp [hcommand]), kind, rfl,
      .of_keepsKind (keepsKind_of_parse? (by simp [hcommand]))⟩
  · cases hcommand : Command.parse? entry with
    | none =>
      exact Or.inr ⟨not_ends_of_parse? (by simp [hcommand]), kind, rfl,
        .of_keepsKind (keepsKind_of_parse? (by simp [hcommand]))⟩
    | some found =>
      obtain ⟨command, argument⟩ := found
      cases command with
      | exit => exact Or.inl ⟨⟨argument, hcommand⟩, rfl⟩
      | kind => exact Or.inr ⟨not_ends_of_parse? (by simp [hcommand]), respondKind_next kind hcommand⟩
      | help | clear | version =>
        exact Or.inr ⟨not_ends_of_parse? (by simp [hcommand]), kind, rfl,
          .of_keepsKind (keepsKind_of_parse? (by simp [hcommand]))⟩

/-! ## All entries -/

theorem run_cons_of_ends (h : Ends entry) (kind : Option Kind) (later : List (List Char)) :
    run kind (entry :: later) = [⟨kind, [(respond kind entry).1, .result "\n"]⟩] := by
  have hended := ((respond_next kind entry).resolve_right fun hgoes => hgoes.1 h).2
  rw [run]
  generalize respond kind entry = answer at hended
  obtain ⟨output, what⟩ := answer
  obtain rfl : what = .ended := hended
  rfl

theorem exists_run_cons (h : ¬Ends entry) (kind : Option Kind) :
    ∃ next, Active kind [entry] next ∧ ∀ later,
      run kind (entry :: later) = ⟨kind, [(respond kind entry).1]⟩ :: run next later := by
  obtain ⟨-, next, hnext, hactive⟩ := (respond_next kind entry).resolve_left fun hends => h hends.1
  refine ⟨next, hactive, fun later => ?_⟩
  rw [run]
  generalize respond kind entry = answer at hnext
  obtain ⟨output, what⟩ := answer
  obtain rfl : what = .active next := hnext
  rfl

/-- **A session answers its entries one after the other**, each in a step of its own, and goes on with
the kind behind them. -/
theorem run_append (h : ∀ entry ∈ earlier, ¬Ends entry) (start : Option Kind) :
    ∃ steps kind, steps.length = earlier.length ∧ Active start earlier kind ∧
      ∀ later, run start (earlier ++ later) = steps ++ run kind later := by
  induction earlier generalizing start with
  | nil => exact ⟨[], start, rfl, .unchanged (by simp), fun later => rfl⟩
  | cons entry earlier ih =>
    obtain ⟨next, hactive, hstep⟩ := exists_run_cons (h entry (by simp)) start
    obtain ⟨steps, kind, hlength, hactive', hrun⟩ :=
      ih (fun entry' hmem => h entry' (List.mem_cons_of_mem _ hmem)) next
    refine ⟨⟨start, [(respond start entry).1]⟩ :: steps, kind, by simp [hlength],
      hactive.trans hactive', fun later => ?_⟩
    rw [List.cons_append, hstep, hrun, List.cons_append]

/-- What follows the end of a session has no part in it. -/
theorem run_of_ends (h : Ends entry) (start : Option Kind) (earlier later : List (List Char)) :
    run start (earlier ++ entry :: later) = run start (earlier ++ [entry]) := by
  induction earlier generalizing start with
  | nil => rw [List.nil_append, List.nil_append, run_cons_of_ends h, run_cons_of_ends h]
  | cons first earlier ih =>
    by_cases hfirst : Ends first
    · rw [List.cons_append, List.cons_append, run_cons_of_ends hfirst, run_cons_of_ends hfirst]
    · obtain ⟨next, -, hstep⟩ := exists_run_cons hfirst start
      rw [List.cons_append, List.cons_append, hstep, hstep, ih]

/-- **An entry that changes nothing can be left out**: the other steps stay the same. -/
theorem run_eraseIdx (hends : ¬Ends entry) (hkeeps : KeepsKind entry) (start : Option Kind)
    (earlier later : List (List Char)) : run start (earlier ++ later) =
      (run start (earlier ++ entry :: later)).eraseIdx earlier.length := by
  induction earlier generalizing start with
  | nil =>
    obtain ⟨next, hactive, hstep⟩ := exists_run_cons hends start
    obtain rfl := hactive.unique (.of_keepsKind hkeeps)
    rw [List.nil_append, List.nil_append, hstep]
    rfl
  | cons first earlier ih =>
    by_cases hfirst : Ends first
    · rw [List.cons_append, List.cons_append, run_cons_of_ends hfirst, run_cons_of_ends hfirst]
      rfl
    · obtain ⟨next, -, hstep⟩ := exists_run_cons hfirst start
      rw [List.cons_append, List.cons_append, hstep, hstep, ih next]
      rfl

/-- The step is that of the entry in a session that looks for `kind`. A blank entry is passed over in
silence. One that is neither blank nor a command is scanned, and what the scan comes to is printed. -/
structure Step.Answers (step : Step) (kind : Option Kind) (entry : List Char) : Prop where
  kind_eq : step.kind = kind
  output_head : step.output.head? = some (respond kind entry).1
  of_blank : (trim entry).isEmpty = true → step.output = [.result ""]
  of_text : (trim entry).isEmpty = false → Command.parse? entry = none →
    step.output = [showScan (scanEntry kind entry)]
  prints : (trim entry).isEmpty = false → Command.parse? entry = none →
    ∃ output, step.output = [output] ∧ Prints entry kind output

/-- The first step of a session is that of its first entry. -/
theorem exists_answers (kind : Option Kind) (entry : List Char) (later : List (List Char)) :
    ∃ step, (run kind (entry :: later)).head? = some step ∧ step.Answers kind entry := by
  by_cases hends : Ends entry
  · obtain ⟨argument, hcommand⟩ := id hends
    have htext : Command.parse? entry ≠ none := by simp [hcommand]
    refine ⟨_, by rw [run_cons_of_ends hends]; rfl, rfl, rfl, ?_, fun _ hnone => absurd hnone htext,
      fun _ hnone => absurd hnone htext⟩
    intro hblank
    rw [Command.parse?, List.isEmpty_iff.mp hblank] at hcommand
    exact absurd hcommand (by simp)
  · obtain ⟨next, -, hstep⟩ := exists_run_cons hends kind
    refine ⟨_, by rw [hstep]; rfl, rfl, rfl, ?_, ?_, ?_⟩
    · intro hblank
      rw [respond, if_pos hblank]
    · intro hvisible htext
      rw [respond_of_text hvisible htext]
    · intro hvisible htext
      rw [respond_of_text hvisible htext]
      exact ⟨_, rfl, prints_showScan kind entry⟩

/-- **What a session remembers, over all its entries.** In front of each entry there is one kind that is
looked for: the one that the last entry before it chose that chose anything, and any at the beginning.
An entry is answered for that kind, and a text is scanned for it and prints what the scan comes to, as
long as no entry before has ended the session. What follows the end has no effect. And an entry that neither ends the session nor chooses
can be left out without a change to any other step. -/
theorem run_active (earlier later : List (List Char)) (entry : List Char) :
    (∃! kind, Active none earlier kind) ∧
    (∀ kind, Active none earlier kind → (∀ before ∈ earlier, ¬Ends before) →
      ∃ step, (run none (earlier ++ entry :: later))[earlier.length]? = some step ∧
        step.Answers kind entry) ∧
    (Ends entry → run none (earlier ++ entry :: later) = run none (earlier ++ [entry])) ∧
    (¬Ends entry → KeepsKind entry → run none (earlier ++ later) =
      (run none (earlier ++ entry :: later)).eraseIdx earlier.length) := by
  refine ⟨?_, ?_, fun hends => run_of_ends hends none earlier later,
    fun hends hkeeps => run_eraseIdx hends hkeeps none earlier later⟩
  · obtain ⟨kind, hactive⟩ := exists_active none earlier
    exact ⟨kind, hactive, fun kind' hactive' => hactive'.unique hactive⟩
  · intro kind hactive hgoes
    obtain ⟨steps, kind', hlength, hactive', hrun⟩ := run_append hgoes none
    obtain rfl := hactive.unique hactive'
    obtain ⟨step, hhead, hanswers⟩ := exists_answers kind entry later
    refine ⟨step, ?_, hanswers⟩
    rw [hrun, ← hlength, List.getElem?_append_right (Nat.le_refl _), Nat.sub_self,
      ← List.head?_eq_getElem?]
    exact hhead

/-- The kind is chosen by a short name, and an unknown name chooses none. So a keyword is scanned as a
number, which fails, and the number behind the exit is not scanned at all. -/
theorem run_active_number :
    Active none [".k num".toList, ".kind nil".toList] (some .number) ∧
      (∃ step, (run none [".k num".toList, ".kind nil".toList, "true".toList, ".Q 1".toList,
        "1".toList])[2]? = some step ∧
          step.output = [showScan (scanEntry (some .number) "true".toList)] ∧
          step.output = [.complaint (complaint (ScanError.noMatch .number 0).kind.name
            (ScanError.noMatch .number 0).message)]) ∧
      run none [".k num".toList, ".Q 1".toList, "1".toList] =
        run none [".k num".toList, ".Q 1".toList] ∧
      run none [".k num".toList, "true".toList] =
        (run none [".k num".toList, ".kind nil".toList, "true".toList]).eraseIdx 1 := by
  have hchoose : Command.parse? ".k num".toList = some (.kind, some "num".toList) := by decide
  have hunknown : Command.parse? ".kind nil".toList = some (.kind, some "nil".toList) := by decide
  have hexit : Command.parse? ".Q 1".toList = some (.exit, some "1".toList) := by decide
  have hkeeps : KeepsKind ".kind nil".toList := by
    rintro kind ⟨name, hcommand, hname⟩
    rw [hunknown] at hcommand
    obtain rfl : "nil".toList = name := by simpa using hcommand
    cases hname with
    | any hany => exact absurd hany (by decide)
    | kind hfound => exact absurd hfound (by simp [Kind.ofName?])
  have hactive : Active none [".k num".toList, ".kind nil".toList] (some .number) :=
    (Active.of_chooses ⟨_, hchoose, .kind rfl⟩).trans (.of_keepsKind hkeeps)
  have hgoes : ∀ before ∈ [".k num".toList, ".kind nil".toList], ¬Ends before := by
    intro before hmem
    rcases List.mem_cons.mp hmem with rfl | hmem
    · exact not_ends_of_parse? fun argument => by rw [hchoose]; simp
    · rw [List.mem_singleton.mp hmem]
      exact not_ends_of_parse? fun argument => by rw [hunknown]; simp
  refine ⟨hactive, ?_, ?_, ?_⟩
  · obtain ⟨step, hstep, hanswers⟩ :=
      (run_active [".k num".toList, ".kind nil".toList] [".Q 1".toList, "1".toList]
        "true".toList).2.1 _ hactive hgoes
    have hscan : scanAs .number { strict := true } "true".toList = .error (.noMatch .number 0) := rfl
    obtain ⟨output, houtput, hprints⟩ := hanswers.prints (by decide) (by decide)
    have hcomplaint : output = .complaint (complaint _ _) :=
      hprints.eq_showScan.trans (prints_iff.mp (.failed hscan)).symm
    exact ⟨step, hstep, hanswers.of_text (by decide) (by decide), by rw [houtput, hcomplaint]⟩
  · exact (run_active [".k num".toList] ["1".toList] ".Q 1".toList).2.2.1 ⟨_, hexit⟩
  · exact (run_active [".k num".toList] ["true".toList] ".kind nil".toList).2.2.2
      (hgoes _ (by simp)) hkeeps

end ScriptLiterals.Session
