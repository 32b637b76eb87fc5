import DefLang.Proofs.CommandLine.Production
import Mathlib.Data.List.Basic

/-!
# All or nothing

A run either fails, and then it has printed nothing and left every file as it
was, or it delivers one text: to the output, or into one file.  All that is read
has been read before the text is delivered, so it makes no difference if that
file is also the source or a part of the frame.

Of the files nothing is known but that they hold bytes in places.  What can be
read and what can be written is left to the system, so a file that was read may
well refuse to be written.
-/

namespace DefLang

/-- Reading and writing act on a map from places to bytes; several paths may
lead to one place.  A write that fails changes nothing. -/
structure FileSystem.ActsOn {σ κ : Type} (system : FileSystem σ)
    (held : σ → κ → Option Bytes) (place : String → κ) : Prop where
  read_ok : ∀ files path bytes, system.read files path = .ok bytes →
    held files (place path) = some bytes
  write_here : ∀ files path bytes after,
    system.write files path bytes = (.ok (), after) →
    held after (place path) = some bytes
  write_elsewhere : ∀ files path bytes after,
    system.write files path bytes = (.ok (), after) →
    ∀ other, other ≠ place path → held after other = held files other
  write_error : ∀ files path bytes error after,
    system.write files path bytes = (.error error, after) →
    held after = held files

section

variable {σ κ : Type} {system : FileSystem σ} {held : σ → κ → Option Bytes}
  {place : String → κ} {options : Options} {world : World σ} {text : String}

structure Outcome.IsNothing (outcome : Outcome σ)
    (held : σ → κ → Option Bytes) (world : World σ) : Prop where
  exitCode_eq : outcome.exitCode = 1
  output_eq : outcome.output = ""
  files_eq : held outcome.files = held world.files

/-- The file that the path leads to holds the text, and no other file has
changed. -/
structure IsStored (system : FileSystem σ) (held : σ → κ → Option Bytes)
    (place : String → κ) (path text : String) (before after : σ) : Prop where
  here : held after (place path) = some (encodeText text)
  elsewhere : ∀ other, other ≠ place path → held after other = held before other
  readBack : ∀ bytes, system.read after path = .ok bytes →
    bytes = encodeText text

def Outcome.Delivers (outcome : Outcome σ) (system : FileSystem σ)
    (held : σ → κ → Option Bytes) (place : String → κ) (world : World σ)
    (text : String) : Option String → Prop
  | none =>
      outcome.exitCode = 0 ∧ outcome.output = text ∧
        held outcome.files = held world.files
  | some path =>
      outcome.exitCode = 0 ∧ outcome.output = "" ∧
        IsStored system held place path text world.files outcome.files

private theorem FileSystem.ActsOn.isStored {path : String} {before after : σ}
    (acts : system.ActsOn held place)
    (written : system.write before path (encodeText text) = (.ok (), after)) :
    IsStored system held place path text before after where
  here := acts.write_here _ _ _ _ written
  elsewhere := acts.write_elsewhere _ _ _ _ written
  readBack bytes read := by
    have found := acts.read_ok _ _ _ read
    rw [acts.write_here _ _ _ _ written] at found
    exact (Option.some.inj found).symm

namespace Options

def sendTo (options : Options) (output : Option String) : Options :=
  { options with output := output }

/-- No text is made, or the one that is made cannot be written. -/
inductive Fails (options : Options) (system : FileSystem σ)
    (world : World σ) : Prop
  | making : options.Stumbles (world.surroundings system) →
      Fails options system world
  | writing {text path error after} :
      options.Makes (world.surroundings system) text →
      options.output = some path →
      system.write world.files path (encodeText text) = (.error error, after) →
      Fails options system world

theorem makes_sendTo_iff {around : Surroundings} {output : Option String} :
    (options.sendTo output).Makes around text ↔
      options.Makes around text := by
  rw [← produce_eq_ok_iff, ← produce_eq_ok_iff]
  exact Iff.rfl

private theorem exists_makes_of_not_fails (h : ¬ options.Fails system world) :
    ∃ text, options.Makes (world.surroundings system) text := by
  cases produced : options.produce (world.surroundings system) with
  | ok text => exact ⟨text, produce_eq_ok_iff.mp produced⟩
  | error failure =>
      exact absurd (.making (isError_produce_iff.mp ⟨failure, produced⟩)) h

private theorem outcome_isNothing_of_fails (acts : system.ActsOn held place)
    (h : options.Fails system world) :
    (options.outcome system world).IsNothing held world := by
  cases h with
  | making stumbles =>
      obtain ⟨failure, failed⟩ := isError_produce_iff.mpr stumbles
      constructor <;> simp [outcome, failed]
  | writing makes sent failed =>
      have produced := produce_eq_ok_iff.mpr makes
      have unchanged := acts.write_error _ _ _ _ _ failed
      constructor <;> simp [outcome, produced, sent, failed, unchanged]

private theorem outcome_delivers_of_not_fails (acts : system.ActsOn held place)
    (h : ¬ options.Fails system world)
    (makes : options.Makes (world.surroundings system) text) :
    (options.outcome system world).Delivers system held place world text
      options.output := by
  have produced := produce_eq_ok_iff.mpr makes
  cases sent : options.output with
  | none => simp [outcome, Outcome.Delivers, produced, sent]
  | some path =>
      cases written : system.write world.files path (encodeText text) with
      | mk result after =>
          cases result with
          | error error => exact absurd (.writing makes sent written) h
          | ok done =>
              simpa [outcome, Outcome.Delivers, produced, sent, written] using
                acts.isStored written

end Options

end

/-- A run that fails delivers nothing, and one that does not delivers the one
text that its options ask for, wherever it is sent. -/
theorem outcome_is_all_or_nothing {σ κ : Type} (system : FileSystem σ)
    (held : σ → κ → Option Bytes) (place : String → κ)
    (acts : system.ActsOn held place) (options : Options) (world : World σ) :
    ∃ text, ∀ output,
      ((options.sendTo output).Fails system world →
        ((options.sendTo output).outcome system world).IsNothing held world) ∧
      (¬ (options.sendTo output).Fails system world →
        options.Makes (world.surroundings system) text ∧
          ((options.sendTo output).outcome system world).Delivers system held
            place world text output) := by
  by_cases made : ∃ text, options.Makes (world.surroundings system) text
  · obtain ⟨text, makes⟩ := made
    refine ⟨text, fun output =>
      ⟨Options.outcome_isNothing_of_fails acts, fun succeeds => ⟨makes, ?_⟩⟩⟩
    exact Options.outcome_delivers_of_not_fails acts succeeds
      (Options.makes_sendTo_iff.mpr makes)
  · -- Without a text every run fails, so any text will do.
    refine ⟨"", fun output =>
      ⟨Options.outcome_isNothing_of_fails acts, fun succeeds => ?_⟩⟩
    obtain ⟨text, makes⟩ := Options.exists_makes_of_not_fails succeeds
    exact absurd ⟨text, Options.makes_sendTo_iff.mp makes⟩ made

/-- Files by their names, of which one can be read but not written. -/
def lockingSystem : FileSystem (String → Option Bytes) where
  read files path :=
    match files path with
    | some bytes => .ok bytes
    | none => .error .notFound
  write files path bytes :=
    if path = "locked" then (.error .permissionDenied, files)
    else (.ok (), fun other => if other = path then some bytes else files other)

private theorem lockingSystem_actsOn : lockingSystem.ActsOn id id where
  read_ok files path bytes read := by
    cases found : files path <;> simp_all [lockingSystem]
  write_here files path bytes after written := by
    simp only [lockingSystem] at written
    split at written
    · cases written
    · cases written
      simp
  write_elsewhere files path bytes after written other apart := by
    simp only [lockingSystem] at written
    split at written
    · cases written
    · cases written
      simpa using fun same => absurd same apart
  write_error files path bytes error after written := by
    simp only [lockingSystem] at written
    split at written
    · cases written
      rfl
    · cases written

def listingOptions : Options := { file := some "source", emit := some .tokens }

def sourceWorld : World (String → Option Bytes) where
  files _ := some (encodeText "end")
  input := .error .permissionDenied
  launch _ _ := .error (.starting .notFound)

/-- The listing replaces the source that it was made from, but not a file that
cannot be written. -/
theorem listing_is_all_or_nothing :
    lockingSystem.ActsOn id id ∧
      ((listingOptions.sendTo (some "locked")).outcome lockingSystem
        sourceWorld).IsNothing id sourceWorld ∧
      ((listingOptions.sendTo (some "source")).outcome lockingSystem
        sourceWorld).Delivers lockingSystem id id sourceWorld "end end\n"
          (some "source") := by
  obtain ⟨text, result⟩ := outcome_is_all_or_nothing lockingSystem id id
    lockingSystem_actsOn listingOptions sourceWorld
  have produced : listingOptions.produce
      (sourceWorld.surroundings lockingSystem) = .ok "end end\n" := by
    decide +kernel
  have makes := Options.produce_eq_ok_iff.mp produced
  have fails : (listingOptions.sendTo (some "locked")).Fails lockingSystem
      sourceWorld :=
    .writing (Options.makes_sendTo_iff.mpr makes) rfl rfl
  have succeeds : ¬ (listingOptions.sendTo (some "source")).Fails lockingSystem
      sourceWorld := by
    rintro (stumbles | ⟨-, sent, failed⟩)
    · obtain ⟨failure, failed⟩ := Options.isError_produce_iff.mpr stumbles
      change listingOptions.produce _ = _ at failed
      simp [produced] at failed
    · cases sent
      cases failed
  obtain ⟨makes', delivers⟩ := (result (some "source")).2 succeeds
  have same : text = "end end\n" := by
    have again := Options.produce_eq_ok_iff.mpr makes'
    rw [produced] at again
    exact (Except.ok.inj again).symm
  exact ⟨lockingSystem_actsOn, (result (some "locked")).1 fails,
    same ▸ delivers⟩

end DefLang
