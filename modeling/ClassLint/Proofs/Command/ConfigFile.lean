import ClassLint.Command.Run
import ClassLint.Proofs.Config.Reports
import ClassLint.Proofs.Json.LongNumbers
import ClassLint.Proofs.Text.Utf8

/-!
# Configuration files

The content of a configuration file is read as an object or refused with a report, if its bytes are
those of a text and the reader comes to no integer of too many digits in it. The commands crash
exactly where the file is not of this sort, or where the object that it holds, with the settings put
into it, breaks off the reading of the configuration.
-/

namespace ClassLint

/-! ## Reading a file -/

namespace Config

variable {files : Files} {path : Text} {bytes : List UInt8}

/-- Bytes that can be read or refused: they are those of a text, and the reader comes to no integer
of too many digits in it. -/
def Readable (bytes : List UInt8) : Prop :=
  ∃ text, bytes = Utf8.encode text ∧ ∀ count rest,
    Json.read (Utf8.normalizeNewlines text) ≠ .error ⟨.longNumber count, rest⟩

/-- The bytes of a text can be read or refused if it has no more digits in a row than allowed. -/
theorem readable_encode {text : Text}
    (h : ∀ count, Text.digitLimit < count →
      ¬ Json.HasDigits (Utf8.normalizeNewlines text) count) :
    Readable (Utf8.encode text) := by
  refine ⟨text, rfl, fun count rest hread => ?_⟩
  obtain ⟨hlimit, hdigits⟩ := Json.hasDigits_of_read hread
  exact h count hlimit hdigits

/-- The reading of a file breaks off exactly if its bytes cannot be read or refused. -/
theorem exists_breaksOff_readFile_iff (hfile : files path = .file bytes) :
    (∃ failure, BreaksOff (readFile files path) failure) ↔ ¬ Readable bytes := by
  rw [readFile, Files.readText_of_file hfile]
  cases hdecode : Utf8.decode bytes with
  | error fault =>
    refine iff_of_true ⟨.undecodable fault, rfl, id⟩ fun h => ?_
    obtain ⟨text, htext, -⟩ := h
    rw [Utf8.decode_eq_ok_iff.2 htext] at hdecode
    cases hdecode
  | ok text =>
    -- Bytes are those of one text only, so that the reader is asked about this one.
    have hreadable : Readable bytes ↔ ∀ count rest,
        Json.read (Utf8.normalizeNewlines text) ≠ .error ⟨.longNumber count, rest⟩ := by
      constructor
      · intro h
        obtain ⟨other, hother, h⟩ := h
        rw [Utf8.decode_eq_ok_iff.2 hother] at hdecode
        cases hdecode
        exact h
      · intro h
        exact ⟨text, Utf8.decode_eq_ok_iff.1 hdecode, h⟩
    rw [hreadable]
    dsimp only [bind, Except.bind]
    cases hread : Json.read (Utf8.normalizeNewlines text) with
    | ok value =>
      refine iff_of_false (fun h => ?_) fun h => h fun count rest hlong => by cases hlong
      obtain ⟨failure, h⟩ := h
      cases value with
      | object members => exact BreaksOff.not_ok _ h
      | null | bool _ | integer _ | floating _ | text _ | list _ => exact BreaksOff.not_rejected _ h
    | error fault =>
      obtain ⟨kind, rest⟩ := fault
      cases kind with
      | longNumber count =>
        exact iff_of_true ⟨.longNumber count, rfl, id⟩ fun h => h count rest rfl
      | _ =>
        refine iff_of_false (fun h => ?_) fun h => h fun count rest hlong => by cases hlong
        obtain ⟨failure, h⟩ := h
        exact BreaksOff.not_rejected _ h

end Config

/-! ## Obtaining the configuration -/

namespace Settings

variable {files : Files} {settings : Settings} {failure : ConfigFailure}

/-- The settings are put into members, or a report is given. -/
theorem not_breaksOff_merge (members : Members) : ¬ BreaksOff (settings.merge members) failure := by
  rw [merge]
  split
  · exact BreaksOff.not_ok _
  · split
    · exact BreaksOff.not_ok _
    · split
      · exact BreaksOff.not_ok _
      · exact BreaksOff.not_rejected _

/-- The object of the configuration file breaks off the reading of the configuration, with the
settings put into it. -/
def MergedBreaks (settings : Settings) (files : Files) (failure : ConfigFailure) : Prop :=
  ∃ members merged, settings.fileMembers files = .ok members ∧ settings.merge members = .ok merged ∧
    Config.Breaks (.object merged) failure

/-- The configuration breaks off where the reading of its file does, or where the object does that
the file holds. -/
theorem breaksOff_config_iff :
    BreaksOff (settings.config files) failure ↔
      BreaksOff (settings.fileMembers files) failure ∨ settings.MergedBreaks files failure := by
  simp only [config, BreaksOff.bind_iff, not_breaksOff_merge, false_or, MergedBreaks,
    ← Config.breaksOff_ofJson_iff, Config.ofJson, exists_and_left]

end Settings

/-! ## Commands -/

namespace Outcome

/-- A run ends with a failure that it does not handle. -/
def IsCrash (outcome : Outcome) : Prop :=
  ∃ failure output errors, outcome = .crashed failure output errors

/-- A run without a configuration crashes exactly if the failure is not reported. -/
theorem isCrash_ofConfigFailure {errors : Text} {failure : ConfigFailure} :
    IsCrash (ofConfigFailure errors failure) ↔ ¬ failure.IsReported := by
  cases failure <;> simp [IsCrash, ofConfigFailure, ConfigFailure.IsReported]

/-- A run that ends well with every configuration crashes exactly if it cannot obtain one and the
failure is not reported. -/
theorem isCrash_match_iff {reading : Except ConfigFailure Config} {errors : Text}
    {next : Config → Outcome} (hnext : ∀ config, ¬ (next config).IsCrash) :
    IsCrash (match reading with
      | .error failure => ofConfigFailure errors failure
      | .ok config => next config) ↔ ∃ failure, BreaksOff reading failure := by
  cases reading with
  | error failure => simp [isCrash_ofConfigFailure, BreaksOff]
  | ok config => simp [hnext config, BreaksOff]

end Outcome

section

variable {files : Files} {settings : Settings}

/-- The linting command crashes exactly if its configuration breaks off. -/
theorem LintCommand.isCrash_runWith_iff (verbose : Bool) (arguments : List Text) :
    (runWith verbose files settings arguments).IsCrash ↔
      ∃ failure, BreaksOff (settings.config files) failure :=
  Outcome.isCrash_match_iff fun _ => nofun

/-- The inspecting command crashes exactly if its configuration breaks off. -/
theorem InspectCommand.isCrash_runWith_iff (verbose : Bool) (text : Text) :
    (runWith verbose files settings text).IsCrash ↔
      ∃ failure, BreaksOff (settings.config files) failure :=
  Outcome.isCrash_match_iff fun _ => nofun

/-- A run that cannot obtain its configuration file for a reported error tells nothing but that. -/
theorem Settings.config_of_rejected {error : ConfigError}
    (h : settings.fileMembers files = .error (.rejected error)) :
    settings.config files = .error (.rejected error) ∧ settings.configEvents files = [] := by
  rw [config, configEvents, h]
  exact ⟨rfl, rfl⟩

/-- Nothing is told of no events. -/
theorem Outcome.verboseLines_nil (verbose : Bool) : verboseLines verbose [] = [] := by
  cases verbose <;> rfl

end

/-- The content of an existing configuration file is read as an object or refused with a report
exactly if its bytes are those of a text in which the reader comes to no integer of too many digits;
having no more digits in a row than allowed is enough for the latter. The commands report the
refusal and exit with two. They crash exactly if the bytes are not of this sort, or if they hold an
object that breaks off the reading of the configuration. The text may be nested to any depth: the
limit on the recursion of a running program, and the crash at it, are left out. -/
theorem Config.file_reported_exactly {files : Files} {given : Text} {bytes : List UInt8}
    (hfile : files (Path.normalize given) = .file bytes) {settings : Settings}
    (hpath : settings.configPath = some given) :
    ((∃ members, readFile files (Path.normalize given) = .ok members) ∨
        (∃ error, readFile files (Path.normalize given) = .error (.rejected error)) ↔
      Readable bytes) ∧
    (∀ text, bytes = Utf8.encode text →
      (∀ count, Text.digitLimit < count →
        ¬ Json.HasDigits (Utf8.normalizeNewlines text) count) → Readable bytes) ∧
    ∀ verbose arguments selector,
      (∀ error, readFile files (Path.normalize given) = .error (.rejected error) →
        LintCommand.runWith verbose files settings arguments =
            .exited 2 [] (Outcome.printed ["Config error: " ++ error.message]) ∧
          InspectCommand.runWith verbose files settings selector =
            .exited 2 [] (Outcome.printed ["Config error: " ++ error.message])) ∧
      ((LintCommand.runWith verbose files settings arguments).IsCrash ↔
        ¬ Readable bytes ∨ ∃ failure, settings.MergedBreaks files failure) ∧
      ((InspectCommand.runWith verbose files settings selector).IsCrash ↔
        ¬ Readable bytes ∨ ∃ failure, settings.MergedBreaks files failure) := by
  have hmembers : settings.fileMembers files = readFile files (Path.normalize given) := by
    rw [Settings.fileMembers, hpath]
  have hbreaks : (∃ failure, BreaksOff (settings.config files) failure) ↔
      ¬ Readable bytes ∨ ∃ failure, settings.MergedBreaks files failure := by
    simp only [Settings.breaksOff_config_iff, exists_or, hmembers,
      exists_breaksOff_readFile_iff hfile]
  refine ⟨?_, ?_, fun verbose arguments selector => ⟨?_, ?_, ?_⟩⟩
  · rw [← BreaksOff.not_exists_iff, exists_breaksOff_readFile_iff hfile, not_not]
  · rintro text rfl hshort
    exact readable_encode hshort
  · intro error herror
    obtain ⟨hconfig, hevents⟩ := Settings.config_of_rejected (hmembers.trans herror)
    rw [LintCommand.runWith, InspectCommand.runWith, hconfig, hevents, Outcome.verboseLines_nil]
    exact ⟨rfl, rfl⟩
  · rw [LintCommand.isCrash_runWith_iff, hbreaks]
  · rw [InspectCommand.isCrash_runWith_iff, hbreaks]

/-- A file with a list, given by a path that is not tidy, is refused with a report. -/
theorem Config.file_reported_exactly_list :
    let files : Files := fun path =>
      if path = "c.json" then .file (Utf8.encode "[]") else .missing
    let settings : Settings := { configPath := some "./c.json" }
    Readable (Utf8.encode "[]") ∧
      ∃ error, readFile files "c.json" = .error (.rejected error) ∧
        LintCommand.runWith true files settings ["a.css"] =
          .exited 2 [] (Outcome.printed ["Config error: " ++ error.message]) ∧
        InspectCommand.runWith true files settings ".a" =
          .exited 2 [] (Outcome.printed ["Config error: " ++ error.message]) := by
  intro files settings
  have hfile : files (Path.normalize "./c.json") = .file (Utf8.encode "[]") := by decide
  have hread : readFile files "c.json" = .error (.ofProblem (.notJsonObject "c.json")) := by
    rw [readFile, Files.readText_of_file (if_pos rfl), Utf8.decode_eq_ok_iff.2 rfl]
    with_unfolding_all rfl
  have hpath : settings.configPath = some "./c.json".toList := rfl
  obtain ⟨hreported, -, hrun⟩ := file_reported_exactly hfile hpath
  obtain ⟨hlint, hinspect⟩ := (hrun true ["a.css"] ".a").1 _ hread
  exact ⟨hreported.1 (.inr ⟨_, hread⟩), _, hread, hlint, hinspect⟩

/-- Bytes that are not those of a text crash both commands. -/
theorem Config.file_undecodable_crashes :
    let files : Files := fun _ => .file [0xFF]
    let settings : Settings := { configPath := some "c.json" }
    (∃ fault, readFile files "c.json" = .error (.undecodable fault)) ∧
      (LintCommand.runWith false files settings ["a.css"]).IsCrash ∧
      (InspectCommand.runWith false files settings ".a").IsCrash := by
  refine ⟨⟨_, rfl⟩, ⟨_, _, _, rfl⟩, ⟨_, _, _, rfl⟩⟩

end ClassLint
