import ScriptLiterals.Proofs.Pattern.Stands

/-!
# Classes are passed from bracket to bracket

A class may hold other classes, and the reader goes down into each. Whatever it finds there, it
comes out behind a closing bracket, and then no class is open as far as the brackets say, though the
reader may still be in the class around. The two readers that call each other are done together, by
induction on the bound of the descent.
-/

set_option autoImplicit false

namespace ScriptLiterals.Pattern

open Text Reader
open Regexp (isInert)

variable {opens calm : Bool} {st st' : ReaderState}

/-! ## Members -/

/-- No set of ASCII characters has a backslash in its name. -/
theorem isInert_of_asciiClass? {name : List Char} {k : AsciiClass} (h : asciiClass? name = some k) :
    ∀ c ∈ name, isInert true c = true := by
  obtain ⟨entry, hfind, -⟩ := Option.map_eq_some_iff.mp h
  have hname : entry.1.toList = name := by simpa using List.find?_some hfind
  have hnames := (List.all_eq_true (p := fun entry : String × AsciiClass =>
    entry.1.toList.all (isInert true))).mp (by decide) entry
      (List.mem_of_find?_eq_some hfind)
  exact List.all_eq_true.mp (hname ▸ hnames)

/-- A named set is passed, or what looked like one is read anew from where it began. -/
theorem Stands.asciiItem? {found : Option ClassItem} (h : Stands true opens calm st)
    (hrun : Pattern.asciiItem? st = some (found, st')) :
    Stands true opens calm st' ∧ (found = none → st' = st) := by
  rw [Pattern.asciiItem?, get_bind] at hrun
  obtain ⟨opened, here, hopen, hrun⟩ := bind_inv hrun
  have hback : ∀ last, (do set st; return none : Reader (Option ClassItem)) last =
      some (found, st') → Stands true opens calm st' ∧ (found = none → st' = st) := by
    intro last hrun
    obtain ⟨_, back, hset, hrun⟩ := bind_inv hrun
    obtain ⟨-, rfl⟩ := pure_inv hrun
    obtain ⟨-, rfl⟩ := pure_inv hset
    exact ⟨h, fun _ => rfl⟩
  rcases ite_inv hrun with ⟨-, hrun⟩ | ⟨-, hrun⟩
  · obtain ⟨caret, inside, hcaret, hrun⟩ := bind_inv hrun
    obtain ⟨name, behind, hname, hrun⟩ := bind_inv hrun
    obtain ⟨closed, last, hclose, hrun⟩ := bind_inv hrun
    rcases ite_inv hrun with ⟨-, hrun⟩ | ⟨-, hrun⟩
    · rw [pure_bind] at hrun
      cases hclass : asciiClass? name with
      | none =>
        rw [hclass] at hrun
        exact hback last hrun
      | some k =>
        rw [hclass] at hrun
        obtain ⟨rfl, rfl⟩ := pure_inv hrun
        have hbehind := ((h.eatWord (by decide) hopen).eatWord (by decide) hcaret).takeWhile hname
          (isInert_of_asciiClass? hclass)
        exact ⟨hbehind.eatWord (by decide) hclose, by simp⟩
    · exact hback last hrun
  · exact hback here hrun

theorem Stands.classMember {a : Atom} (h : Stands true opens calm st)
    (hrun : Pattern.classMember st = some (a, st')) (ha : a.Inert) :
    Stands true opens calm st' := by
  rw [Pattern.classMember] at hrun
  obtain ⟨c, cs, hrest, hrun⟩ := current_bind_inv hrun
  rcases ite_inv hrun with ⟨hback, hrun⟩ | ⟨hback, hrun⟩
  · rw [beq_iff_eq.mp hback] at hrest
    exact h.escape hrest hrun ha
  · obtain ⟨_, last, hbump, hrun⟩ := bind_inv hrun
    obtain ⟨-, rfl⟩ := pure_inv hrun
    exact (h.nears hrest (by simpa [isInert] using hback)).bump hbump

theorem Atom.inert_of_toItem? {a : Atom} {item : ClassItem} (h : a.toItem? = some item)
    (hitem : item.Meaningful) : a.Inert := by
  cases a with
  | property name negated =>
    obtain rfl := Option.some.inj h
    exact hitem.inert
  | _ => trivial

theorem Stands.classRange {item : ClassItem} (h : Stands true opens calm st)
    (hrun : Pattern.classRange st = some (item, st')) (hitem : item.Meaningful) :
    Stands true opens calm st' := by
  rw [Pattern.classRange] at hrun
  obtain ⟨first, mid, hfirst, hrun⟩ := bind_inv hrun
  obtain ⟨_, here, hskip, hrun⟩ := bind_inv hrun
  obtain ⟨c, cs, hrest, hrun⟩ := current_bind_inv hrun
  obtain ⟨behind, hrun⟩ := peekOver_bind_inv hrun
  rcases ite_inv hrun with ⟨-, hrun⟩ | ⟨hdash, hrun⟩
  · obtain ⟨hfound, rfl⟩ := liftOption_inv hrun
    exact (h.classMember hfirst (Atom.inert_of_toItem? hfound hitem)).skipIgnored hskip
  · obtain ⟨_, there, hto, hrun⟩ := bind_inv hrun
    obtain ⟨second, last, hsecond, hrun⟩ := bind_inv hrun
    obtain ⟨_, hto⟩ := discard_inv hto
    have hc : c = '-' := by
      by_contra hc
      exact hdash (by simp [hc])
    rw [hc] at hrest
    -- a range goes from one character to another: properties are not in it
    have hends : first.Inert ∧ second.Inert ∧ st' = last := by
      split at hrun
      · obtain ⟨-, hrun⟩ := require_bind_inv hrun
        exact ⟨trivial, trivial, (pure_inv hrun).2⟩
      · exact (fail_inv hrun).elim
    obtain ⟨hinert, hinert', rfl⟩ := hends
    have hhere := (h.classMember hfirst hinert).skipIgnored hskip
    exact ((hhere.nears hrest (by decide)).bumpTo hto).1.classMember hsecond hinert'

theorem Stands.setOp? {found : Option SetOp} (h : Stands true opens calm st)
    (hrun : Pattern.setOp? st = some (found, st')) : Stands true opens calm st' := by
  rw [Pattern.setOp?] at hrun
  obtain ⟨found, here, hand, hrun⟩ := bind_inv hrun
  have hhere := h.eatWord (by decide) hand
  rcases ite_inv hrun with ⟨-, hrun⟩ | ⟨-, hrun⟩
  · exact (pure_inv hrun).2 ▸ hhere
  obtain ⟨found, there, hminus, hrun⟩ := bind_inv hrun
  have hthere := hhere.eatWord (by decide) hminus
  rcases ite_inv hrun with ⟨-, hrun⟩ | ⟨-, hrun⟩
  · exact (pure_inv hrun).2 ▸ hthere
  obtain ⟨found, last, htilde, hrun⟩ := bind_inv hrun
  have hlast := hthere.eatWord (by decide) htilde
  rcases ite_inv hrun with ⟨-, hrun⟩ | ⟨-, hrun⟩
  · exact (pure_inv hrun).2 ▸ hlast
  · exact (pure_inv hrun).2 ▸ hlast

theorem Stands.leadingMarks {bound : Nat} {dashes : List ClassItem} (h : Stands true opens calm st)
    (hrun : Pattern.leadingMarks bound st = some (dashes, st')) : Stands true opens calm st' := by
  induction bound generalizing st dashes with
  | zero => exact (fail_inv hrun).elim
  | succ bound ih =>
    rw [Pattern.leadingMarks] at hrun
    obtain ⟨c, cs, hrest, hrun⟩ := current_bind_inv hrun
    rcases ite_inv hrun with ⟨hdash, hrun⟩ | ⟨-, hrun⟩
    · rw [beq_iff_eq.mp hdash] at hrest
      obtain ⟨_, here, hto, hrun⟩ := bind_inv hrun
      obtain ⟨others, last, hothers, hrun⟩ := bind_inv hrun
      obtain ⟨rfl, rfl⟩ := pure_inv hrun
      obtain ⟨_, hto⟩ := discard_inv hto
      exact ih ((h.nears hrest (by decide)).bumpTo hto).1 hothers
    · exact (pure_inv hrun).2 ▸ h

/-- What the class is made of is what its items and operators are made of. -/
theorem meaningful_of_combineWith {left : Option (SetOp × ClassItem)} {items : List ClassItem}
    (h : (combineWith left items).Meaningful) :
    (∀ found ∈ left, found.2.Meaningful) ∧ ∀ item ∈ items, item.Meaningful := by
  cases left with
  | none => exact ⟨by simp, fun item hitem => h.of_ofList item (List.mem_reverse.mpr hitem)⟩
  | some found =>
    obtain ⟨hleft, hitems⟩ := ClassItem.Meaningful.of_combine h
    exact ⟨by simpa using hleft,
      fun item hitem => hitems.of_ofList item (List.mem_reverse.mpr hitem)⟩

/-! ## Whole classes -/

/-- The rest of a class leads out of it. That what was read before has a meaning follows from what
is made of it in the end, so it is at hand before the rest is gone through. -/
def ClassBodyKeeps (opens : Bool) (bound : Nat) : Prop :=
  ∀ {calm left items st item st'}, classBody bound left items st = some (item, st') →
    item.Meaningful →
    (∀ found ∈ left, found.2.Meaningful) ∧ (∀ item ∈ items, item.Meaningful) ∧
      (Stands true opens calm st → Stands false opens calm st')

/-- From its opening bracket on a class leads out of itself, and with it out of all around it. -/
def BracketKeeps (opens : Bool) (bound : Nat) : Prop :=
  ∀ {calm st negated item st'}, bracket bound st = some ((negated, item), st') →
    item.Meaningful → Nears true opens calm st → Stands false opens calm st'

theorem bracketKeeps_succ {bound : Nat} (hbody : ClassBodyKeeps opens bound) :
    BracketKeeps opens (bound + 1) := by
  intro calm st negated item st' hrun hitem h
  rw [bracket] at hrun
  obtain ⟨c, here, hto, hrun⟩ := bind_inv hrun
  obtain ⟨hhere, cs, hrest⟩ := h.bumpTo hto
  -- behind the marks that come first
  have hmarks : ∀ {there}, Stands true opens calm there →
      (do
        let dashes ← leadingMarks (← get).cursor.rest.length
        if dashes.isEmpty && (← current) == ']' then
          discard bumpTo
          return (c == '^', ← classBody bound none [.literal ⟨']', false⟩])
        else return (c == '^', ← classBody bound none dashes.reverse) : Reader (Bool × ClassItem))
        there = some ((negated, item), st') → Stands false opens calm st' := by
    intro there hthere hrun
    rw [get_bind] at hrun
    obtain ⟨dashes, inside, hdashes, hrun⟩ := bind_inv hrun
    have hinside := hthere.leadingMarks hdashes
    obtain ⟨d, ds, hrest, hrun⟩ := current_bind_inv hrun
    rcases ite_inv hrun with ⟨hclose, hrun⟩ | ⟨-, hrun⟩
    · rw [beq_iff_eq.mp (Bool.and_eq_true_iff.mp hclose).2] at hrest
      obtain ⟨_, behind, hto, hrun⟩ := bind_inv hrun
      obtain ⟨_, hto⟩ := discard_inv hto
      obtain ⟨body, last, hlast, hrun⟩ := bind_inv hrun
      obtain ⟨hpair, rfl⟩ := pure_inv hrun
      obtain ⟨-, rfl⟩ := Prod.mk.inj hpair
      exact (hbody hlast hitem).2.2 ((hinside.nears hrest (by decide)).bumpTo hto).1
    · obtain ⟨body, last, hlast, hrun⟩ := bind_inv hrun
      obtain ⟨hpair, rfl⟩ := pure_inv hrun
      obtain ⟨-, rfl⟩ := Prod.mk.inj hpair
      exact (hbody hlast hitem).2.2 hinside
  rcases ite_inv hrun with ⟨hcaret, hrun⟩ | ⟨-, hrun⟩
  · rw [beq_iff_eq.mp hcaret] at hrest
    obtain ⟨_, there, hto, hrun⟩ := bind_inv hrun
    obtain ⟨_, hto⟩ := discard_inv hto
    exact hmarks ((hhere.nears hrest (by decide)).bumpTo hto).1 hrun
  · exact hmarks hhere hrun

theorem classBodyKeeps_succ {bound : Nat} (hbracket : BracketKeeps opens bound)
    (hbody : ClassBodyKeeps opens bound) : ClassBodyKeeps opens (bound + 1) := by
  intro calm left items st item st' hrun hitem
  rw [classBody] at hrun
  obtain ⟨_, here, hskip, hrun⟩ := bind_inv hrun
  obtain ⟨c, cs, hrest, hrun⟩ := current_bind_inv hrun
  -- what another opening bracket begins, whose own closing one leaves the reader in this class
  rcases ite_inv hrun with ⟨hc, hrun⟩ | ⟨-, hrun⟩
  · rw [beq_iff_eq.mp hc] at hrest
    obtain ⟨found, mid, hascii, hrun⟩ := bind_inv hrun
    cases found with
    | some found =>
      obtain ⟨hleft, hitems, hend⟩ := hbody hrun hitem
      refine ⟨hleft, (List.forall_mem_cons.mp hitems).2, fun h => ?_⟩
      exact hend ((h.skipIgnored hskip).asciiItem? hascii).1
    | none =>
      obtain ⟨⟨negated, inner⟩, behind, hinner, hrun⟩ := bind_inv hrun
      obtain ⟨hleft, hitems, hend⟩ := hbody hrun hitem
      obtain ⟨hmeaning, hitems⟩ := List.forall_mem_cons.mp hitems
      refine ⟨hleft, hitems, fun h => ?_⟩
      have hhere := h.skipIgnored hskip
      rw [(hhere.asciiItem? hascii).2 rfl] at hinner
      exact hend (hbracket hinner hmeaning.of_bracket (hhere.nears hrest (by decide))).weaken
  -- the end of this class
  rcases ite_inv hrun with ⟨hc, hrun⟩ | ⟨-, hrun⟩
  · rw [beq_iff_eq.mp hc] at hrest
    obtain ⟨_, last, hbump, hrun⟩ := bind_inv hrun
    obtain ⟨rfl, rfl⟩ := pure_inv hrun
    obtain ⟨hleft, hitems⟩ := meaningful_of_combineWith hitem
    exact ⟨hleft, hitems, fun h => ((h.skipIgnored hskip).nears_closing hrest).bump hbump⟩
  -- an operator or a member
  obtain ⟨op, there, hop, hrun⟩ := bind_inv hrun
  cases op with
  | some op =>
    obtain ⟨hcombined, -, hend⟩ := hbody hrun hitem
    obtain ⟨hleft, hitems⟩ := meaningful_of_combineWith (hcombined _ rfl)
    exact ⟨hleft, hitems, fun h => hend ((h.skipIgnored hskip).setOp? hop)⟩
  | none =>
    obtain ⟨range, behind, hrange, hrun⟩ := bind_inv hrun
    obtain ⟨hleft, hitems, hend⟩ := hbody hrun hitem
    obtain ⟨hmeaning, hitems⟩ := List.forall_mem_cons.mp hitems
    exact ⟨hleft, hitems,
      fun h => hend (((h.skipIgnored hskip).setOp? hop).classRange hrange hmeaning)⟩

/-- **A class is passed from bracket to bracket**, with all the classes in it. -/
theorem classKeeps (opens : Bool) (bound : Nat) :
    BracketKeeps opens bound ∧ ClassBodyKeeps opens bound := by
  induction bound with
  | zero =>
    exact ⟨fun hrun => absurd hrun (by simp [bracket, fail]),
      fun hrun => absurd hrun (by simp [classBody, fail])⟩
  | succ bound ih => exact ⟨bracketKeeps_succ ih.2, classBodyKeeps_succ ih.1 ih.2⟩

end ScriptLiterals.Pattern
