import DefLang.Compile
import DefLang.Fixture.Loading
import DefLang.Proofs.Text.Utf8
import Mathlib.Data.List.Perm.Basic

/-!
# Cases and their directories

Loading succeeds exactly on a listing that has a case and no broken one.  What
it gives then is fixed by the set of the entries alone: one case for each
directory that is one, in the strict byte order of their names.  The order of
the listing decides at most which broken case is reported.
-/

namespace DefLang

variable {decode : String → Option CaseDescription} {directory : String}

namespace ListedEntry

/-- A directory with a description, which may be broken. -/
def IsCase (entry : ListedEntry) : Prop :=
  entry.isDirectory = true ∧ entry.description ≠ .missing

instance : DecidablePred IsCase := fun _ => inferInstanceAs (Decidable (_ ∧ _))

structure IsComplete (decode : String → Option CaseDescription)
    (entry : ListedEntry) : Prop where
  program : entry.hasProgram = true
  name : ∃ name, entry.name = encodeText name
  description : ∃ text description,
    entry.description = .contents (encodeText text) ∧
      decode text = some description

structure Holds (decode : String → Option CaseDescription)
    (above : String) (entry : ListedEntry) (fixture : Case) : Prop where
  program : entry.hasProgram = true
  name : entry.name = encodeText fixture.name
  directory : fixture.directory = joinPath above fixture.name
  programPath : fixture.programPath =
    joinPath (joinPath above fixture.name) "program.def"
  description : ∃ text,
    entry.description = .contents (encodeText text) ∧
      decode text = some fixture.description

variable {entry : ListedEntry}

theorem isComplete_iff (directory : String) :
    entry.IsComplete decode ↔
      ∃ fixture, entry.Holds decode directory fixture := by
  constructor
  · rintro ⟨program, ⟨name, named⟩, ⟨text, description, described, decoded⟩⟩
    exact ⟨⟨name, joinPath directory name, description⟩,
      program, named, rfl, rfl, text, described, decoded⟩
  · rintro ⟨fixture, holds⟩
    obtain ⟨text, described, decoded⟩ := holds.description
    exact ⟨holds.program, ⟨_, holds.name⟩, text, _, described, decoded⟩

theorem not_isCase_iff : ¬ entry.IsCase ↔
    (!entry.isDirectory || entry.description = .missing) = true := by
  simp [IsCase, Decidable.imp_iff_not_or]

private theorem loadBy?_of_not_isCase (h : ¬ entry.IsCase) :
    entry.loadBy? decode directory = .ok none := by
  rw [loadBy?, if_pos (not_isCase_iff.mp h)]

private theorem Holds.loadBy?_eq {fixture : Case} (h : entry.IsCase)
    (holds : entry.Holds decode directory fixture) :
    entry.loadBy? decode directory = .ok (some fixture) := by
  obtain ⟨text, described, decoded⟩ := holds.description
  simp [loadBy?, h.1, described, holds.program, holds.name,
    decodeText?_encodeText, decodeLossy_encodeText, decoded, ← holds.directory]

theorem loadBy?_eq_ok_iff {found : Option Case} (h : entry.IsCase) :
    entry.loadBy? decode directory = .ok found ↔
      ∃ fixture, found = some fixture ∧
        entry.Holds decode directory fixture := by
  constructor
  · -- Of the ways through the checks, one neither skips the entry nor fails.
    fun_cases loadBy? decode directory entry with
    | case1 skipped => exact absurd h (not_isCase_iff.mpr skipped)
    | case6 path kept program name named bytes described text read
        description decoded =>
        intro loaded
        rw [decodeText?_eq_some_iff] at named read
        have below : path = joinPath directory name := by
          rw [← decodeLossy_encodeText name, ← named]
        exact ⟨_, (Except.ok.inj loaded).symm, by simpa using program, named,
          below, congrArg (joinPath · "program.def") below, text,
          read ▸ described, decoded⟩
    | _ => exact nofun
  · rintro ⟨fixture, rfl, holds⟩
    exact holds.loadBy?_eq h

theorem loadAllBy_eq_ok_iff {listing : List ListedEntry} {cases : List Case} :
    loadAllBy decode directory listing = .ok cases ↔
      List.Forall₂ (Holds decode directory) (listing.filter IsCase) cases := by
  induction listing generalizing cases with
  | nil => simp [loadAllBy, eq_comm]
  | cons entry listing ih =>
      simp only [loadAllBy, bind_eq_ok_iff]
      by_cases isCase : entry.IsCase
      · rw [List.filter_cons_of_pos (by simpa using isCase),
          List.forall₂_cons_left_iff]
        constructor
        · rintro ⟨found, loaded, others, all, same⟩
          obtain ⟨fixture, rfl, holds⟩ := (loadBy?_eq_ok_iff isCase).mp loaded
          exact ⟨fixture, others, holds, ih.mp all, (Except.ok.inj same).symm⟩
        · rintro ⟨fixture, others, holds, all, rfl⟩
          exact ⟨some fixture, holds.loadBy?_eq isCase, others, ih.mpr all, rfl⟩
      · rw [List.filter_cons_of_neg (by simpa using isCase), ← ih,
          loadBy?_of_not_isCase isCase]
        constructor
        · rintro ⟨found, loaded, others, all, same⟩
          cases loaded
          cases same
          exact all
        · intro all
          exact ⟨none, rfl, cases, all, rfl⟩

private theorem names_of_holds {entries : List ListedEntry} {cases : List Case}
    (h : List.Forall₂ (Holds decode directory) entries cases) :
    cases.map (fun fixture => encodeText fixture.name) =
      entries.map ListedEntry.name := by
  induction h with
  | nil => rfl
  | cons holds _ ih => rw [List.map_cons, List.map_cons, ih, holds.name]

theorem exists_holds_iff {entries : List ListedEntry} :
    (∃ cases, List.Forall₂ (Holds decode directory) entries cases) ↔
      ∀ entry ∈ entries, entry.IsComplete decode := by
  induction entries with
  | nil => simp
  | cons entry entries ih =>
      rw [List.forall_mem_cons, ← ih, isComplete_iff directory]
      simp only [List.forall₂_cons_left_iff]
      constructor
      · rintro ⟨_, fixture, others, holds, all, -⟩
        exact ⟨⟨fixture, holds⟩, others, all⟩
      · rintro ⟨⟨fixture, holds⟩, others, all⟩
        exact ⟨_, fixture, others, holds, all, rfl⟩

end ListedEntry

/-! ## The order of the cases -/

namespace Case

/-- By the bytes of the names, of which no two are equal. -/
def IsAscending (cases : List Case) : Prop :=
  cases.Pairwise fun first second =>
    encodeText first.name < encodeText second.name

instance : DecidablePred IsAscending :=
  fun cases => inferInstanceAs (Decidable (cases.Pairwise _))

private theorem isAscending_mergeSort {cases : List Case}
    (distinct : (cases.map fun fixture => encodeText fixture.name).Nodup) :
    IsAscending (cases.mergeSort before) := by
  have sorted : (cases.mergeSort before).Pairwise
      (fun first second => before first second = true) :=
    List.pairwise_mergeSort
      (fun _ _ _ low high => by
        simp only [before, decide_eq_true_eq] at low high ⊢
        exact List.le_trans low high)
      (fun first second => by
        simpa [before] using List.le_total _ _)
      cases
  have distinct' : ((cases.mergeSort before).map
      fun fixture => encodeText fixture.name).Nodup :=
    ((List.mergeSort_perm cases before).map _).nodup_iff.mpr distinct
  refine sorted.imp₂ ?_ (List.pairwise_map.mp distinct')
  intro first second low different
  simp only [before, decide_eq_true_eq] at low
  exact List.not_le.mp fun high => different (List.le_antisymm low high)

private theorem IsAscending.eq_of_perm {cases cases' : List Case}
    (h : IsAscending cases) (h' : IsAscending cases')
    (same : cases.Perm cases') : cases = cases' :=
  same.eq_of_pairwise
    (fun _ _ _ _ low high => absurd high (List.lt_asymm low)) h h'

end Case

structure IsLoaded (decode : String → Option CaseDescription)
    (directory : String) (listing : List ListedEntry)
    (cases : List Case) : Prop where
  nonempty : cases ≠ []
  lossless : ∃ found,
    List.Forall₂ (ListedEntry.Holds decode directory)
      (listing.filter ListedEntry.IsCase) found ∧ cases.Perm found
  ascending : Case.IsAscending cases

variable {listing : List ListedEntry} {cases : List Case}

private theorem ofListingBy_eq_ok_iff_exists :
    Case.ofListingBy decode directory listing = .ok cases ↔
      ∃ found, List.Forall₂ (ListedEntry.Holds decode directory)
          (listing.filter ListedEntry.IsCase) found ∧
        found ≠ [] ∧ found.mergeSort Case.before = cases := by
  simp only [Case.ofListingBy, bind_eq_ok_iff,
    ListedEntry.loadAllBy_eq_ok_iff]
  refine exists_congr fun found => and_congr_right fun _ => ?_
  cases found with
  | nil => simp
  | cons fixture others => simp [pure, Except.pure]

/-- Only one order of the cases is strict, and sorting finds it. -/
theorem ofListingBy_eq_ok_iff
    (distinct : (listing.map ListedEntry.name).Nodup) :
    Case.ofListingBy decode directory listing = .ok cases ↔
      IsLoaded decode directory listing cases := by
  have ascending {found : List Case}
      (holds : List.Forall₂ (ListedEntry.Holds decode directory)
        (listing.filter ListedEntry.IsCase) found) :
      Case.IsAscending (found.mergeSort Case.before) := by
    apply Case.isAscending_mergeSort
    rw [ListedEntry.names_of_holds holds]
    exact distinct.sublist (List.filter_sublist.map _)
  rw [ofListingBy_eq_ok_iff_exists]
  constructor
  · rintro ⟨found, holds, nonempty, rfl⟩
    have same := List.mergeSort_perm found Case.before
    exact ⟨fun empty => nonempty (empty ▸ same).symm.eq_nil,
      ⟨found, holds, same⟩, ascending holds⟩
  · rintro ⟨nonempty, ⟨found, holds, same⟩, sorted⟩
    refine ⟨found, holds, fun empty => nonempty (empty ▸ same).eq_nil, ?_⟩
    exact (ascending holds).eq_of_perm sorted
      ((List.mergeSort_perm found Case.before).trans same.symm)

private theorem IsLoaded.of_perm {listing' : List ListedEntry}
    (loaded : IsLoaded decode directory listing cases)
    (h : listing'.Perm listing) :
    IsLoaded decode directory listing' cases := by
  obtain ⟨found, holds, same⟩ := loaded.lossless
  obtain ⟨found', holds', same'⟩ :=
    List.perm_comp_forall₂ (h.filter ListedEntry.IsCase) holds
  exact ⟨loaded.nonempty, ⟨found', holds', same.trans same'.symm⟩,
    loaded.ascending⟩

theorem exists_ofListingBy_eq_ok_iff :
    (∃ cases, Case.ofListingBy decode directory listing = .ok cases) ↔
      (∃ entry ∈ listing, entry.IsCase) ∧
        ∀ entry ∈ listing, entry.IsCase → entry.IsComplete decode := by
  have isCase : (∃ entry ∈ listing, entry.IsCase) ↔
      listing.filter ListedEntry.IsCase ≠ [] := by
    simp [List.filter_eq_nil_iff]
  have complete :
      (∀ entry ∈ listing, entry.IsCase → entry.IsComplete decode) ↔
        ∀ entry ∈ listing.filter ListedEntry.IsCase,
          entry.IsComplete decode := by
    simp [List.mem_filter]
  rw [isCase, complete, ← @ListedEntry.exists_holds_iff decode directory]
  simp only [ofListingBy_eq_ok_iff_exists]
  constructor
  · rintro ⟨_, found, holds, nonempty, -⟩
    refine ⟨fun empty => nonempty ?_, found, holds⟩
    rwa [empty, List.forall₂_nil_left_iff] at holds
  · rintro ⟨nonempty, found, holds⟩
    refine ⟨_, found, holds, fun empty => nonempty ?_, rfl⟩
    rwa [empty, List.forall₂_nil_right_iff] at holds

/-- Loading depends only on which entries there are.  It succeeds if there is a
case and all are complete; then every order of the listing, that in which the
directory gives the names among them, leads to the same cases. -/
theorem loading_ignores_order_and_loses_none
    (decode : String → Option CaseDescription) (directory : String)
    (listing : List ListedEntry)
    (distinct : (listing.map ListedEntry.name).Nodup) :
    ((∃ cases, Case.ofListingBy decode directory listing = .ok cases) ↔
      (∃ entry ∈ listing, entry.IsCase) ∧
        ∀ entry ∈ listing, entry.IsCase → entry.IsComplete decode) ∧
    ∀ cases, Case.ofListingBy decode directory listing = .ok cases →
      IsLoaded decode directory listing cases ∧
      (∀ listing' : List ListedEntry, listing'.Perm listing →
        Case.ofListingBy decode directory listing' = .ok cases) ∧
      ∀ (files : CaseFiles) (names : List Bytes),
        files.names directory = .ok names →
        listing.Perm (names.map (files.listedEntry directory)) →
        files.loadCasesBy decode directory = .ok cases := by
  refine ⟨exists_ofListingBy_eq_ok_iff, fun cases loaded => ?_⟩
  have isLoaded := (ofListingBy_eq_ok_iff distinct).mp loaded
  have reordered (listing' : List ListedEntry) (h : listing'.Perm listing) :
      Case.ofListingBy decode directory listing' = .ok cases :=
    (ofListingBy_eq_ok_iff ((h.map _).nodup_iff.mpr distinct)).mpr
      (isLoaded.of_perm h)
  refine ⟨isLoaded, reordered, fun files names found h => ?_⟩
  rw [CaseFiles.loadCasesBy, found]
  exact reordered _ h.symm

def decodeScanError (text : String) : Option CaseDescription :=
  if text = "class: lex_error\nexpected:\n  error_contains_file: error\n" then
    some ⟨.scanError, false, false, none, none, some "error"⟩
  else
    none

def mixedFiles : CaseFiles where
  names _ := .ok (["b", "notes", "a"].map encodeText)
  isDirectory _ name := name != encodeText "notes"
  find? _ _ file :=
    match file with
    | "case.yaml" => some (.ok (encodeText
        "class: lex_error\nexpected:\n  error_contains_file: error\n"))
    | "program.def" => some (.ok [])
    | _ => none

def mixedListing : List ListedEntry :=
  (["b", "notes", "a"].map encodeText).map (mixedFiles.listedEntry "cases")

def mixedCases : List Case :=
  ["a", "b"].map fun name => ⟨name, "cases/" ++ name,
    ⟨.scanError, false, false, none, none, some "error"⟩⟩

theorem mixedListing_loads :
    IsLoaded decodeScanError "cases" mixedListing mixedCases ∧
      Case.ofListingBy decodeScanError "cases" mixedListing.reverse =
        .ok mixedCases ∧
      mixedFiles.loadCasesBy decodeScanError "cases" = .ok mixedCases := by
  have distinct : (mixedListing.map ListedEntry.name).Nodup := by
    decide +kernel
  have found : ListedEntry.loadAllBy decodeScanError "cases" mixedListing =
      .ok mixedCases.reverse := by
    decide +kernel
  have loaded : Case.ofListingBy decodeScanError "cases" mixedListing =
      .ok mixedCases :=
    (ofListingBy_eq_ok_iff distinct).mpr ⟨by decide,
      ⟨_, ListedEntry.loadAllBy_eq_ok_iff.mp found,
        (List.reverse_perm mixedCases).symm⟩, by decide +kernel⟩
  obtain ⟨isLoaded, reordered, fromFiles⟩ :=
    (loading_ignores_order_and_loses_none _ _ _ distinct).2 _ loaded
  exact ⟨isLoaded, reordered _ (List.reverse_perm _),
    fromFiles mixedFiles _ rfl (List.Perm.refl mixedListing)⟩

end DefLang
