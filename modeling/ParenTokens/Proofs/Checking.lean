import ParenTokens.Command.Run
import Mathlib.Data.List.Basic

namespace ParenTokens

/-!
# Checking files against listing their tokens

Checking some files reports what listing the tokens of each of them reports, in the same order, and goes on after every
fault.  The two subcommands read and report on their own; this file takes both apart into what is reported on one file.

* `Path.hasNul_ofText` — a text without the code point zero denotes a path without it.
* `Command.report?` — what is reported on one file; `Command.runTokenize_of_load` — by listing its tokens.
* `Command.checkFiles_eq` — by checking it after others.
* `Command.check_eq_flatMap_tokenize` — both against each other, for any files in any order.
-/

/-! ### Paths -/

theorem Text.mem_of_mem_splitOn {sep c : CodePoint} {t part : Text} (hpart : part ∈ t.splitOn sep) (hc : c ∈ part) :
    c ∈ t := by
  induction t generalizing part with
  | nil =>
    obtain rfl : part = [] := by simpa [splitOn] using hpart
    cases hc
  | cons d t ih =>
    rw [splitOn] at hpart
    split at hpart
    · rcases List.mem_cons.1 hpart with rfl | hmem
      · cases hc
      · exact List.mem_cons_of_mem _ (ih hmem hc)
    · split at hpart
      · obtain rfl : part = [d] := by simpa using hpart
        exact List.mem_cons.2 (.inl (List.mem_singleton.1 hc))
      · next first parts hsplit =>
        rw [hsplit] at ih
        rcases List.mem_cons.1 hpart with rfl | hmem
        · rcases List.mem_cons.1 hc with rfl | hc
          · exact List.mem_cons_self
          · exact List.mem_cons_of_mem _ (ih List.mem_cons_self hc)
        · exact List.mem_cons_of_mem _ (ih (List.mem_cons_of_mem _ hmem) hc)

theorem Path.hasNul_ofText {t : Text} (h : ∀ c ∈ t, c.val ≠ 0) : (Path.ofText t).hasNul = false := by
  rw [hasNul, List.any_eq_false]
  intro part hpart hzero
  obtain ⟨c, hc, hval⟩ := List.any_eq_true.1 hzero
  have hmem : part ∈ t.splitOn slash := (List.mem_filter.1 hpart).1
  exact h c (Text.mem_of_mem_splitOn hmem hc) (beq_iff_eq.1 hval)

namespace Command

/-! ### One file -/

/-- What is reported on the file of a name, if anything is: the fault in it, or that it cannot be read. -/
def report? (w : World) (color : Bool) (file : Text) : Option Text :=
  match readInput w file with
  | .ok bytes => (faultLine? color file bytes).map line
  | .error (.told message) => some (errorLine message)
  | .error (.interrupted _) => none

/-- A name without the code point zero is read, or refused in words. -/
theorem readInput_ne_interrupted (w : World) {file : Text} (h : ∀ c ∈ file, c.val ≠ 0) (i : Interruption) :
    readInput w file ≠ .error (.interrupted i) := by
  have hnul : ¬ (Path.ofText file).hasNul = true := by simp [Path.hasNul_ofText h]
  rw [readInput, if_neg hnul]
  cases w.read (Path.ofText file) with
  | ok bytes => simp
  | error fault => simp

theorem isSome_faultLine? (color : Bool) (label : Text) (bytes : List UInt8) :
    (faultLine? color label bytes).isSome = (Transcript.record bytes.toArray label).fault.isSome :=
  Option.isSome_map

/-- Listing the tokens of a file reports on it, and ends well iff there is nothing to report. -/
theorem runTokenize_of_load {w : World} {choice : SettingsChoice} {settings : Settings}
    (hload : choice.load w = .ok settings) (input : List UInt8) (plain : Bool) {file : Text}
    (hname : file ≠ standardInput) (hnul : ∀ c ∈ file, c.val ≠ 0) :
    let o := runTokenize w input file (some .text) plain choice
    let found := report? w (settings.color && !plain) file
    o.err = found.getD [] ∧ o.verdict = exitCode found.isSome := by
  intro o found
  simp only [o, found, runTokenize, withSettings, hload, if_neg hname, Option.getD_some, report?]
  cases hread : readInput w file with
  | ok bytes =>
    simp only [printTokens, ← isSome_faultLine? (settings.color && !plain) file bytes, Option.isSome_map, and_true]
    cases faultLine? (settings.color && !plain) file bytes with
    | none => rfl
    | some fault => exact List.flatMap_singleton line fault
  | error failure =>
    cases failure with
    | told message => exact ⟨rfl, rfl⟩
    | interrupted i => exact absurd hread (readInput_ne_interrupted w hnul i)

/-! ### Any number of files -/

/-- The line for files that were checked and found without faults. -/
def summary (count : Nat) : Text :=
  line (("Checked " : Text) ++ Decimal.ofNat count ++ (" file(s), no issues found." : Text))

/-- **Checking.** What is reported on each file is added to the report so far, whatever was found before. -/
theorem checkFiles_eq (w : World) (color : Bool) (count : Nat) (faulty : Bool) (before : Text) {files : List Text}
    (hnul : ∀ file ∈ files, ∀ c ∈ file, c.val ≠ 0) :
    let found := faulty || files.any fun file => (report? w color file).isSome
    checkFiles w color count faulty before files =
      { verdict := exitCode found, out := if found then [] else summary count,
        err := before ++ files.flatMap fun file => (report? w color file).getD [], world := w } := by
  -- On the files; what was found in those before is in `faulty` and `before`.
  induction files generalizing faulty before with
  | nil => simp [checkFiles, summary]
  | cons file files ih =>
    have hmore := fun faulty before => ih faulty before fun file hfile => hnul file (List.mem_cons_of_mem _ hfile)
    rw [checkFiles, List.any_cons, List.flatMap_cons, report?]
    cases hread : readInput w file with
    | ok bytes =>
      cases hfault : faultLine? color file bytes with
      | none => simp [hfault, hmore]
      | some fault => simp [hfault, hmore]
    | error failure =>
      cases failure with
      | told message => simp [hmore]
      | interrupted i => exact absurd hread (readInput_ne_interrupted w (hnul file List.mem_cons_self) i)

/-- Checking files, told by the report on each of them. -/
theorem run_check_of_load {w : World} {choice : SettingsChoice} {settings : Settings}
    (hload : choice.load w = .ok settings) (input : List UInt8) (plain : Bool) {files : List Text}
    (hnul : ∀ file ∈ files, ∀ c ∈ file, c.val ≠ 0) :
    let report := report? w (settings.color && !plain)
    let found := files.any fun file => (report file).isSome
    (Invocation.check files plain choice).run w input =
      { verdict := exitCode found, out := if found then [] else summary files.length,
        err := files.flatMap fun file => (report file).getD [], world := w } := by
  intro report found
  have hrun : (Invocation.check files plain choice).run w input =
      checkFiles w (settings.color && !plain) files.length false [] files := by
    simp only [Invocation.run, runCheck, withSettings, hload]
  rw [hrun, checkFiles_eq w _ _ _ _ hnul, Bool.false_or, List.nil_append]

theorem exitCode_eq_exit_zero_iff {faulty : Bool} : exitCode faulty = .exit 0 ↔ faulty = false := by
  cases faulty <;> simp [exitCode]

/-- **Checking agrees with listing.** Let the settings load, and let none of some files be standard input or have a
    name with the code point zero; they may be missing, be directories or be named twice.  What checking them reports
    is what listing the tokens of each of them reports, one after another.  Checking ends well iff listing does for
    every file, and only then prints its summary; otherwise it ends with the code one.  No order of the files changes
    more than the order of the reports. -/
theorem check_eq_flatMap_tokenize {w : World} {choice : SettingsChoice} {settings : Settings}
    (hload : choice.load w = .ok settings) (input : List UInt8) (plain : Bool) {files : List Text}
    (hname : ∀ file ∈ files, file ≠ standardInput) (hnul : ∀ file ∈ files, ∀ c ∈ file, c.val ≠ 0) :
    let check := fun files => (Invocation.check files plain choice).run w input
    let list := fun file => (Invocation.tokenize file (some .text) plain choice).run w input
    (check files).err = (files.flatMap fun file => (list file).err) ∧
      ((check files).verdict = .exit 0 ↔ ∀ file ∈ files, (list file).verdict = .exit 0) ∧
      ((check files).verdict ≠ .exit 0 → (check files).verdict = .exit 1) ∧
      (check files).out = (if (check files).verdict = .exit 0 then summary files.length else []) ∧
      (check files).world = w ∧
      ∀ files' : List Text, files'.Perm files → (check files').err = (files'.flatMap fun file => (list file).err) ∧
        (check files').verdict = (check files).verdict ∧ (check files').out = (check files).out ∧
        (check files').world = (check files).world := by
  intro check list
  -- Both sides are told by the report on each file.
  let report := report? w (settings.color && !plain)
  let found := fun files : List Text => files.any fun file => (report file).isSome
  have hcheck : check files =
      { verdict := exitCode (found files), out := if found files then [] else summary files.length,
        err := files.flatMap fun file => (report file).getD [], world := w } :=
    run_check_of_load hload input plain hnul
  have hlist : ∀ file ∈ files, (list file).err = (report file).getD [] ∧
      (list file).verdict = exitCode (report file).isSome :=
    fun file hfile => runTokenize_of_load hload input plain (hname file hfile) (hnul file hfile)
  rw [hcheck]
  refine ⟨?_, ?_, ?_, ?_, rfl, ?_⟩
  · exact List.flatMap_congr fun file hfile => (hlist file hfile).1.symm
  · rw [exitCode_eq_exit_zero_iff, List.any_eq_false]
    refine forall₂_congr fun file hfile => ?_
    rw [(hlist file hfile).2, exitCode_eq_exit_zero_iff, Bool.not_eq_true]
  · cases found files with
    | false => exact fun hne => absurd rfl hne
    | true => exact fun _ => rfl
  · cases found files with
    | false => rfl
    | true => rfl
  · intro files' hperm
    have hmem : ∀ file ∈ files', file ∈ files := fun file => hperm.mem_iff.1
    have hcheck' : check files' =
        { verdict := exitCode (found files'), out := if found files' then [] else summary files'.length,
          err := files'.flatMap fun file => (report file).getD [], world := w } :=
      run_check_of_load hload input plain fun file hfile => hnul file (hmem file hfile)
    have hfound : found files' = found files := by
      rw [Bool.eq_iff_iff, List.any_eq_true, List.any_eq_true]
      simp only [hperm.mem_iff]
    rw [hcheck', hfound, hperm.length_eq]
    exact ⟨List.flatMap_congr fun file hfile => (hlist file (hmem file hfile)).1.symm, rfl, rfl, rfl⟩

/-- A faulty file, a missing one and a good one, the first of them named twice. -/
theorem check_eq_flatMap_tokenize_mixed :
    let w : World := ⟨.directory [("a", .file (Text.utf8 "(a)")), ("b", .file (Text.utf8 "(\n b]"))], []⟩
    let files : List Text := ["b", "c", "a", "b"]
    SettingsChoice.near.load w = .ok {} ∧ (∀ file ∈ files, file ≠ standardInput) ∧
      (∀ file ∈ files, ∀ c ∈ file, c.val ≠ 0) ∧
      ((Invocation.check files true .near).run w []).err =
        files.flatMap (fun file => ((Invocation.tokenize file (some .text) true .near).run w []).err) ∧
      ((Invocation.check files true .near).run w []).err =
        (("b:2:3: error: Unexpected character: ']'\n" : Text) ++
          ("Error: cannot read 'c': [Errno 2] No such file or directory: 'c'\n" : Text) ++
          ("b:2:3: error: Unexpected character: ']'\n" : Text)) := by
  intro w files
  have hload : SettingsChoice.near.load w = .ok {} := by decide +kernel
  have hname : ∀ file ∈ files, file ≠ standardInput := by decide +kernel
  have hnul : ∀ file ∈ files, ∀ c ∈ file, c.val ≠ 0 := by decide +kernel
  exact ⟨hload, hname, hnul, (check_eq_flatMap_tokenize hload [] true hname hnul).1, by decide +kernel⟩

end Command
end ParenTokens
