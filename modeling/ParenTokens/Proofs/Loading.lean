import ParenTokens.Proofs.Refusals
import ParenTokens.Command.Run
import Mathlib.Data.List.Basic

namespace ParenTokens

/-!
# What becomes of a settings file

A settings file loads, or it is told what is wrong with it: the run ends with one line on standard error and the
code one.  This holds of every path and all bytes but for the following, which stop the run instead: the path holds the
code point zero, or there is a file whose bytes are not in UTF-8, which denotes a scalar that cannot be had, or which
has an integer of too many digits for a key.

* `Settings.Stops` — the bytes that stop a run, and how; for a scalar this says where it stands.
* `Settings.unknownFields?_eq_none_iff`, `Settings.ofDocument_eq_longField_iff` — the keys that cannot be shown.
* `Settings.ofBytes_eq_interrupted_iff`, `Settings.load_eq_interrupted_iff` — a file stops a run for its bytes alone.
* `Command.load_ok_or_told_iff` — the settings that load or are told, and what is printed of those that do not load.
-/

open Yaml (Scalar Value Document Graph TokenStream)

/-! ### Keys that cannot be shown -/

theorem mapM_eq_none_iff {α β : Type} {f : α → Option β} {l : List α} : l.mapM f = none ↔ ∃ a ∈ l, f a = none := by
  induction l with
  | nil => simp
  | cons a l ih =>
    rw [List.mapM_cons]
    cases ha : f a with
    | none => simp [ha]
    | some b =>
      cases hl : l.mapM f with
      | none =>
        obtain ⟨x, hx, hnone⟩ := ih.1 hl
        exact iff_of_true rfl ⟨x, List.mem_cons_of_mem a hx, hnone⟩
      | some bs =>
        refine iff_of_false nofun ?_
        rintro ⟨x, hx, hnone⟩
        rcases List.mem_cons.1 hx with rfl | hx
        · rw [ha] at hnone
          cases hnone
        · have hmore := ih.2 ⟨x, hx, hnone⟩
          rw [hl] at hmore
          cases hmore

/-- Only an integer of too many digits cannot be shown. -/
theorem Yaml.Scalar.display?_eq_none_iff {s : Scalar} :
    s.display? = none ↔ ∃ n : Int, s = .integer n ∧ Decimal.digitLimit < (Decimal.ofNat n.natAbs).length := by
  cases s with
  | integer n =>
    show (if Decimal.digitLimit < (Decimal.ofNat n.natAbs).length then none else some (Decimal.ofInt n)) = none ↔ _
    by_cases hlong : Decimal.digitLimit < (Decimal.ofNat n.natAbs).length
    · exact iff_of_true (if_pos hlong) ⟨n, rfl, hlong⟩
    · rw [if_neg hlong]
      simpa using hlong
  | _ => simp [display?]

namespace Settings

theorem unknownFields?_eq_none_iff {entries : List (Scalar × Value)} :
    unknownFields? entries = none ↔
      ∃ n : Int, Scalar.integer n ∈ entries.map Prod.fst ∧ Decimal.digitLimit < (Decimal.ofNat n.natAbs).length := by
  unfold unknownFields?
  rw [Option.map_eq_none_iff, mapM_eq_none_iff]
  constructor
  · rintro ⟨key, hkey, hshown⟩
    obtain ⟨n, rfl, hlong⟩ := Scalar.display?_eq_none_iff.1 hshown
    exact ⟨n, (List.mem_filter.1 hkey).1, hlong⟩
  · rintro ⟨n, hkey, hlong⟩
    -- No integer is the name of a field.
    have hunknown : (!isField (.integer n)) = true := rfl
    exact ⟨_, List.mem_filter.2 ⟨hkey, hunknown⟩, Scalar.display?_eq_none_iff.2 ⟨n, rfl, hlong⟩⟩

/-- The entries of a mapping. Only where a document is one, its keys matter. -/
theorem ofDocument_eq_longField_iff {d : Document} :
    ofDocument d = .error .longField ↔ ∃ entries, d.entries? = some entries ∧ unknownFields? entries = none := by
  unfold ofDocument
  by_cases hnull : d.root = .scalar .null
  · rw [if_pos hnull]
    refine iff_of_false nofun ?_
    rintro ⟨entries, hentries, -⟩
    rw [Document.entries?, hnull] at hentries
    cases hentries
  · rw [if_neg hnull]
    cases hentries : d.entries? with
    | none => simp
    | some entries =>
      cases hnames : unknownFields? entries with
      | none => simp [hnames]
      | some names =>
        refine iff_of_false ?_ (by simp [hnames])
        cases names with
        | cons name names => simp [hnames]
        | nil =>
          cases hfields : ofFields entries with
          | ok s => simp [hnames, hfields, Except.mapError]
          | error c => simp [hnames, hfields, Except.mapError]

/-! ### Bytes -/

/-- The bytes of a settings file that stop a run: they are not in UTF-8; or the text in them, with its lines unified,
    follows the grammar up to a token that is refused, or has a graph in which a scalar is refused; or it denotes a
    mapping with a key that cannot be shown. -/
inductive Stops (bytes : List UInt8) : Interruption → Prop
  | undecodable {e : Utf8.DecodeError} (decode : Utf8.decode bytes = .error e) : Stops bytes (.undecodable e)
  | token {t : Text} {r : Yaml.Refusal} (decode : Utf8.decode bytes = .ok t)
      (refused : Document.ofText (unifyLines t) = .error (.refused r))
      (ending : (TokenStream.ofText (unifyLines t)).ending = .refused r) (lexical : Yaml.Fault.Lexical (.refused r)) :
      Stops bytes (.refused r)
  | value {t : Text} {r : Yaml.Refusal} {root : Nat} {g : Graph} (decode : Utf8.decode bytes = .ok t)
      (refused : Document.ofText (unifyLines t) = .error (.refused r))
      (graph : Graph.ofTokens (TokenStream.ofText (unifyLines t)) = .ok (some (root, g)))
      (denies : g.Denies (.refused r)) : Stops bytes (.refused r)
  | key {t : Text} {d : Document} {entries : List (Scalar × Value)} {n : Int} (decode : Utf8.decode bytes = .ok t)
      (document : Document.ofText (unifyLines t) = .ok d) (mapping : d.entries? = some entries)
      (key : .integer n ∈ entries.map Prod.fst) (long : Decimal.digitLimit < (Decimal.ofNat n.natAbs).length) :
      Stops bytes .longField

/-- **Bytes.** Those of a settings file stop a run iff they are among the ones described. -/
theorem ofBytes_eq_interrupted_iff {label : Text} {bytes : List UInt8} {i : Interruption} :
    ofBytes label bytes = .error (.interrupted i) ↔ Stops bytes i := by
  constructor
  · intro h
    unfold ofBytes at h
    split at h
    · next e hdecode =>
      cases h
      exact .undecodable hdecode
    · next t hdecode =>
      split at h
      · cases h
      · next r hdocument =>
        cases h
        rcases Document.origin_of_refused hdocument with ⟨hending, hlexical⟩ | ⟨root, g, hgraph, hdenies⟩
        · exact .token hdecode hdocument hending hlexical
        · exact .value hdecode hdocument hgraph hdenies
      · next d hdocument =>
        -- Any complaint about the document is told, so that only its keys are left.
        split at h
        · cases h
        · cases h
        · next hsettings =>
          cases h
          obtain ⟨entries, hentries, hnone⟩ := ofDocument_eq_longField_iff.1 hsettings
          obtain ⟨n, hkey, hlong⟩ := unknownFields?_eq_none_iff.1 hnone
          exact .key hdecode hdocument hentries hkey hlong
  · intro h
    unfold ofBytes
    cases h with
    | undecodable hdecode => simp only [hdecode]
    | token hdecode hrefused _ _ => simp only [hdecode, hrefused]
    | value hdecode hrefused _ _ => simp only [hdecode, hrefused]
    | key hdecode hdocument hentries hkey hlong =>
      have hobjection := ofDocument_eq_longField_iff.2
        ⟨_, hentries, unknownFields?_eq_none_iff.2 ⟨_, hkey, hlong⟩⟩
      simp only [hdecode, hdocument, hobjection]

/-- **Files.** Where there are no bytes to be read, that is told. -/
theorem load_eq_interrupted_iff {w : World} {p : Path} (hnul : p.hasNul = false) {i : Interruption} :
    load w p = .error (.interrupted i) ↔ ∃ bytes, w.read p = .ok bytes ∧ Stops bytes i := by
  unfold load
  rw [if_neg (Bool.eq_false_iff.1 hnul)]
  cases hread : w.read p with
  | ok bytes =>
    show ofBytes p.display bytes = .error (.interrupted i) ↔ _
    rw [ofBytes_eq_interrupted_iff]
    simp
  | error fault =>
    refine iff_of_false ?_ nofun
    by_cases hmissing : fault.trouble = .missing
    · simp [hmissing]
    · simp [hmissing]

theorem ok_or_told_iff {w : World} {p : Path} :
    ((∃ settings, load w p = .ok settings) ∨ ∃ fault, load w p = .error (.told fault)) ↔
      ∀ i, load w p ≠ .error (.interrupted i) := by
  cases load w p with
  | ok settings => simp
  | error failure => cases failure <;> simp

end Settings

namespace Command

/-! ### Runs -/

/-- The settings that a subcommand asks for, if it asks for any. -/
def Invocation.settings? : Invocation → Option SettingsChoice
  | init _ => none
  | tokenize _ _ _ choice => some choice
  | check _ _ choice => some choice

/-- The settings that are asked for are those in the file at a path. -/
def SettingsChoice.Asks (w : World) (p : Path) : SettingsChoice → Prop
  | near => p = (Path.absolute w.home).within Settings.fileName ∧ w.exists? p = .ok true
  | file path => p = .ofText path
  | unnamed => False

theorem SettingsChoice.load_of_asks {w : World} {p : Path} {choice : SettingsChoice} (h : choice.Asks w p) :
    choice.load w = Settings.load w p := by
  cases choice with
  | near =>
    obtain ⟨rfl, hexists⟩ := h
    show Settings.near w (.absolute w.home) = _
    unfold Settings.near
    simp only [hexists]
  | file path =>
    obtain rfl := h
    rfl
  | unnamed => exact h.elim

/-- A subcommand that asks for settings first loads them. -/
theorem Invocation.exists_run_eq {v : Invocation} {choice : SettingsChoice} (h : v.settings? = some choice) (w : World)
    (input : List UInt8) : ∃ next, v.run w input = withSettings w choice next := by
  cases v with
  | init directory => cases h
  | tokenize file format plain choice' =>
    obtain rfl := Option.some.inj h
    exact ⟨_, rfl⟩
  | check files plain choice' =>
    obtain rfl := Option.some.inj h
    exact ⟨_, rfl⟩

end Command
end ParenTokens
