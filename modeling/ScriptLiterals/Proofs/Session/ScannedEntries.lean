import ScriptLiterals.Proofs.Recognizer
import ScriptLiterals.Session.Run

/-!
# What a scanned entry prints

An entry that is neither blank nor a command is scanned, and the session goes on as before
(`respond_of_text`). `Prints` says what is printed then, by what there is in the entry: a literal is
described, and if there is none, that depends on what was looked for. A session that looks for a kind
complains, with the error of the scan; one that looks for literals of any kind says as a result that it has
found nothing.

The two functions that a session scans and prints with could do more than this: a scan for a kind might
find nothing without an error. It never does, because it is strict, so they do exactly this
(`prints_iff`).
-/

set_option autoImplicit false

namespace ScriptLiterals.Session

open Text

variable {entry : List Char} {kind : Option Kind} {output : Output}

/-- What a scan of the entry prints in a session that looks for literals of a kind, or of any. -/
inductive Prints (entry : List Char) : Option Kind → Output → Prop where
  | detected {token : AnyToken} (h : detect entry = some token) :
      Prints entry none (.result (Report.describe false token ++ "\n"))
  | undetected (h : detect entry = none) : Prints entry none (.result nothingFound)
  | found {kind : Kind} {token : AnyToken}
      (h : scanAs kind { strict := true } entry = .ok (some token)) :
      Prints entry (some kind) (.result (Report.describe false token ++ "\n"))
  | failed {kind : Kind} {e : ScanError} (h : scanAs kind { strict := true } entry = .error e) :
      Prints entry (some kind) (.complaint (complaint e.kind.name e.message))

theorem Prints.eq_showScan (h : Prints entry kind output) :
    output = showScan (scanEntry kind entry) := by
  cases h with
  | detected h => rw [scanEntry_none, h, showScan_found]
  | undetected h => rw [scanEntry_none, h, showScan_nothing]
  | found h => rw [scanEntry_some, h, showScan_found]
  | failed h => rw [scanEntry_some, h, showScan_error]

theorem prints_showScan (kind : Option Kind) (entry : List Char) :
    Prints entry kind (showScan (scanEntry kind entry)) := by
  cases kind with
  | none =>
    rw [scanEntry_none]
    cases hdetect : detect entry with
    | none => exact .undetected hdetect
    | some token => exact .detected hdetect
  | some kind =>
    rw [scanEntry_some]
    cases hscan : scanAs kind { strict := true } entry with
    | error e => exact .failed hscan
    | ok found =>
      cases found with
      | some token => exact .found hscan
      | none => exact absurd (settle_eq_ok_none_iff.mp hscan).1 (by simp)

/-- **What is printed of a scan is said by what it comes to.** -/
theorem prints_iff : Prints entry kind output ↔ output = showScan (scanEntry kind entry) := by
  constructor
  · intro h
    exact h.eq_showScan
  · rintro rfl
    exact prints_showScan kind entry

/-- **An entry that is neither blank nor a command is scanned.** -/
theorem respond_of_text (hvisible : (trim entry).isEmpty = false)
    (htext : Command.parse? entry = none) (kind : Option Kind) :
    respond kind entry = (showScan (scanEntry kind entry), .active kind) := by
  rw [respond, hvisible, if_neg (by simp), htext]

end ScriptLiterals.Session
