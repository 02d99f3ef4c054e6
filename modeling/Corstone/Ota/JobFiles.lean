import Corstone.Ota.JsonDevice
import Corstone.Ota.Orchestrator

/-!
# The files of a job document

Model of `jobDocumentParser` (`ota_orchestrator_helpers.c`, lines 51–84) with the
calls of `otaParser_parseJobDocFile`. The loop is a big-step relation, so that it
has a result only where it ends. The file index is an `int8_t`.

* `parserLoop_total`, `ParserLoop.spec`: the loop ends, and how.
* `jobDocumentParserLoop_eq`: a loop of at most 128 turns is the one of the
  orchestrator's model.
* `jobDocumentParser_iff`: the parser calls once for each file in order and returns
  true for exactly the documents whose files are parsed, iff there is a document
  with a file, and 128 files at most up to the first that fails.
* `not_parsesAll_noDocument`: a message without a job document.
-/

namespace Corstone.Ota

open Corstone.Lib

/-! ## The parser -/

section Parser

variable (L : Libraries) (message : Bytes)

/-- `fileIndex = otaParser_parseJobDocFile( … )` (lines 73–76) with the conversion to
    `int8_t`. -/
def parseFile (jobDoc : ℕ × ℕ) (fileIndex : ℤ) (jobFields : AfrOtaJobDocumentFields) :
    ℤ × AfrOtaJobDocumentFields :=
  let (fileIndex, jobFields) := L.otaParserParseJobDocFile message jobDoc fileIndex jobFields
  (fileIndex.bmod (2 ^ 8), jobFields)

/-- The `do` loop (lines 66–77): from a file index and the fields to the indices of the
    calls, the last file index and the fields. -/
inductive ParserLoop (jobDoc : ℕ × ℕ) :
    ℤ → AfrOtaJobDocumentFields → List ℤ → ℤ × AfrOtaJobDocumentFields → Prop
  | last {fileIndex : ℤ} {jobFields : AfrOtaJobDocumentFields}
      (h : ¬ (parseFile L message jobDoc fileIndex jobFields).1 > 0) :
    ParserLoop jobDoc fileIndex jobFields [fileIndex]
      (parseFile L message jobDoc fileIndex jobFields)
  | again {fileIndex : ℤ} {jobFields : AfrOtaJobDocumentFields} {calls : List ℤ}
      {p : ℤ × AfrOtaJobDocumentFields}
      (h : (parseFile L message jobDoc fileIndex jobFields).1 > 0)
      (hrest : ParserLoop jobDoc (parseFile L message jobDoc fileIndex jobFields).1
        (parseFile L message jobDoc fileIndex jobFields).2 calls p) :
    ParserLoop jobDoc fileIndex jobFields (fileIndex :: calls) p

/-- `jobDocumentParser`: the indices of the calls, the result and the fields. -/
inductive JobDocumentParser (jobFields : AfrOtaJobDocumentFields) :
    List ℤ → Bool × AfrOtaJobDocumentFields → Prop
  | noDocument (h : (L.jobsGetJobDocument message).2 = 0) :
    JobDocumentParser jobFields [] ((0 : ℤ) == 0, jobFields)
  | document {calls : List ℤ} {p : ℤ × AfrOtaJobDocumentFields}
      (h : (L.jobsGetJobDocument message).2 ≠ 0)
      (hloop : ParserLoop L message (L.jobsGetJobDocument message) 0 jobFields calls p) :
    JobDocumentParser jobFields calls (p.1 == 0, p.2)

end Parser

/-! ## Files -/

/-- What `otaParser_parseJobDocFile` returns for a file index: the next one, 0 behind
    the last file, -1 for a file that cannot be parsed and for one that is not there.
    The list says of each file whether it can be parsed. -/
def nextFileIndex (files : List Bool) (i : ℕ) : ℤ :=
  if files[i]? = some true then if i + 1 < files.length then i + 1 else 0 else -1

/-- The parser library finds these files in the job document of the message. -/
def HasFiles (L : Libraries) (message : Bytes) (files : List Bool) : Prop :=
  ∀ (i : ℕ) jobFields, (L.otaParserParseJobDocFile message (L.jobsGetJobDocument message) i
    jobFields).1 = nextFileIndex files i

/-- One call for each file in the order of the files, up to the first that fails; and
    the result is true iff there is a document and every file has been parsed. -/
structure ParsesAll (present : Prop) (files : List Bool) (calls : List ℤ) (result : Bool) :
    Prop where
  once : ∃ m ≤ files.length, calls = (List.range m).map Nat.cast ∧
    (m = files.length ∨ ∃ i, m = i + 1 ∧ files[i]? = some false)
  parsed : result = true ↔ present ∧ ∀ file ∈ files, file = true

theorem nextFileIndex_pos_iff {files : List Bool} {i : ℕ} (hi : i ≤ 127) :
    (nextFileIndex files i).bmod (2 ^ 8) > 0 ↔
      files[i]? = some true ∧ i + 1 < files.length ∧ i < 127 := by
  unfold nextFileIndex
  split_ifs with hparsed hmore
  · rw [and_iff_right hparsed, and_iff_right hmore]
    by_cases hlast : i = 127
    · subst hlast
      decide
    · rw [Int.bmod_eq_of_le (by push_cast; omega) (by push_cast; omega)]
      omega
  · simp [hmore]
  · simp [hparsed]

/-! ## The loop -/

section Loop

variable {L : Libraries} {message : Bytes} {jobDoc : ℕ × ℕ} {fileIndex : ℤ}
  {jobFields : AfrOtaJobDocumentFields} {calls : List ℤ}
  {p : ℤ × AfrOtaJobDocumentFields} {files : List Bool}

theorem parseFile_index (hfiles : HasFiles L message files) (i : ℕ)
    (jobFields : AfrOtaJobDocumentFields) :
    (parseFile L message (L.jobsGetJobDocument message) i jobFields).1 =
      (nextFileIndex files i).bmod (2 ^ 8) := by
  rw [← hfiles i jobFields]
  rfl

/-- A positive index is the next one. -/
theorem nextFileIndex_of_pos {i : ℕ} (hi : i ≤ 127)
    (hpos : (nextFileIndex files i).bmod (2 ^ 8) > 0) :
    (nextFileIndex files i).bmod (2 ^ 8) = ((i + 1 : ℕ) : ℤ) := by
  obtain ⟨hparsed, hmore, hlt⟩ := (nextFileIndex_pos_iff hi).mp hpos
  rw [nextFileIndex, if_pos hparsed, if_pos hmore,
    Int.bmod_eq_of_le (by push_cast; omega) (by push_cast; omega)]
  push_cast
  rfl

/-- The loop ends: the index grows, and there is none behind 127. -/
theorem parserLoop_total (hfiles : HasFiles L message files) {i : ℕ} (hi : i ≤ 127) :
    ∃ calls p, ParserLoop L message (L.jobsGetJobDocument message) i jobFields calls p := by
  induction hleft : 127 - i generalizing i jobFields with
  | zero =>
    refine ⟨_, _, .last ?_⟩
    rw [parseFile_index hfiles, nextFileIndex_pos_iff hi]
    rintro ⟨-, -, hlt⟩
    omega
  | succ d ih =>
    by_cases hpos : (nextFileIndex files i).bmod (2 ^ 8) > 0
    · have hindex := parseFile_index hfiles i jobFields
      have hrest : ∃ calls p, ParserLoop L message (L.jobsGetJobDocument message) (i + 1 : ℕ)
          (parseFile L message (L.jobsGetJobDocument message) i jobFields).2 calls p :=
        ih (by omega) (by omega)
      rw [← nextFileIndex_of_pos hi hpos, ← hindex] at hrest
      rw [← hindex] at hpos
      obtain ⟨calls, p, hrest⟩ := hrest
      exact ⟨_, p, .again hpos hrest⟩
    · refine ⟨_, _, .last ?_⟩
      rw [parseFile_index hfiles]
      exact hpos

/-- How the loop has run: the calls are consecutive, every file but the last one called
    has been parsed and has a successor, and the last call has ended the loop. -/
theorem ParserLoop.spec (hfiles : HasFiles L message files)
    (h : ParserLoop L message (L.jobsGetJobDocument message) fileIndex jobFields calls p) {i : ℕ}
    (hindex : fileIndex = i) (hi : i ≤ 127) :
    ∃ k, calls = (List.range' i (k + 1)).map Nat.cast ∧ i + k ≤ 127 ∧
      (∀ j, i ≤ j → j < i + k → files[j]? = some true ∧ j + 1 < files.length) ∧
      p.1 = (nextFileIndex files (i + k)).bmod (2 ^ 8) ∧ ¬ p.1 > 0 := by
  induction h generalizing i with
  | last hlast =>
    subst hindex
    exact ⟨0, rfl, hi, fun j hle hlt => absurd hlt (by omega), parseFile_index hfiles i _,
      hlast⟩
  | again hagain hrest ih =>
    subst hindex
    rw [parseFile_index hfiles] at hagain
    obtain ⟨hparsed, hmore, hlt⟩ := (nextFileIndex_pos_iff hi).mp hagain
    obtain ⟨k, hcalls, hle, hbefore, hlast, hend⟩ :=
      ih ((parseFile_index hfiles i _).trans (nextFileIndex_of_pos hi hagain)) (by omega)
    refine ⟨k + 1, ?_, by omega, fun j hij hj => ?_, ?_, hend⟩
    · rw [hcalls, List.range'_succ (s := i), List.map_cons]
    · by_cases hfirst : j = i
      · rw [hfirst]
        exact ⟨hparsed, hmore⟩
      · exact hbefore j (by omega) (by omega)
    · rw [hlast]
      congr 2
      omega

/-- The loop of the orchestrator's model, where the library returns an `int8_t`. -/
theorem jobDocumentParserLoop_eq
    (h : ParserLoop L message jobDoc fileIndex jobFields calls p)
    (hint8 : ∀ i jobFields,
      ((L.otaParserParseJobDocFile message jobDoc i jobFields).1).bmod (2 ^ 8) =
        (L.otaParserParseJobDocFile message jobDoc i jobFields).1)
    {fuel : ℕ} (hfuel : calls.length ≤ fuel) :
    jobDocumentParserLoop L message jobDoc fuel fileIndex jobFields = p := by
  have hparse : ∀ i jobFields, parseFile L message jobDoc i jobFields =
      L.otaParserParseJobDocFile message jobDoc i jobFields :=
    fun i jobFields => Prod.ext (hint8 i jobFields) rfl
  induction h generalizing fuel with
  | last hlast =>
    obtain ⟨fuel, rfl⟩ : ∃ n, fuel = n + 1 := ⟨fuel - 1, by simp at hfuel; omega⟩
    rw [hparse] at hlast ⊢
    rw [jobDocumentParserLoop]
    exact if_neg hlast
  | again hagain hrest ih =>
    obtain ⟨fuel, rfl⟩ : ∃ n, fuel = n + 1 := ⟨fuel - 1, by simp at hfuel; omega⟩
    have hrun := @ih fuel (by simpa using hfuel)
    rw [hparse] at hagain hrun
    rw [jobDocumentParserLoop]
    exact (if_pos hagain).trans hrun

end Loop

/-! ## The result -/

section Result

variable {L : Libraries} {message : Bytes} {files : List Bool}

/-- How `jobDocumentParser` has run on a message with a document. -/
theorem JobDocumentParser.spec (hfiles : HasFiles L message files)
    (hpresent : (L.jobsGetJobDocument message).2 ≠ 0) {jobFields : AfrOtaJobDocumentFields}
    {calls : List ℤ} {p : Bool × AfrOtaJobDocumentFields}
    (h : JobDocumentParser L message jobFields calls p) :
    ∃ k ≤ 127, calls = (List.range (k + 1)).map Nat.cast ∧
      (∀ j < k, files[j]? = some true ∧ j + 1 < files.length) ∧
      (p.1 = true ↔ (nextFileIndex files k).bmod (2 ^ 8) = 0) ∧
      ¬ (nextFileIndex files k).bmod (2 ^ 8) > 0 := by
  cases h with
  | noDocument hnone => exact absurd hnone hpresent
  | document _ hloop =>
    obtain ⟨k, hcalls, hle, hbefore, hlast, hend⟩ :=
      hloop.spec hfiles (i := 0) Nat.cast_zero.symm (by omega)
    rw [Nat.zero_add] at hle hlast hbefore
    rw [hlast] at hend
    refine ⟨k, hle, ?_, fun j hj => hbefore j (Nat.zero_le j) hj, ?_, hend⟩
    · rw [hcalls, List.range_eq_range']
    · rw [hlast, beq_iff_eq]

/-- `jobDocumentParser` returns. -/
theorem jobDocumentParser_total (hfiles : HasFiles L message files)
    (jobFields : AfrOtaJobDocumentFields) :
    ∃ calls p, JobDocumentParser L message jobFields calls p := by
  by_cases hpresent : (L.jobsGetJobDocument message).2 = 0
  · exact ⟨_, _, .noDocument hpresent⟩
  · obtain ⟨calls, p, hloop⟩ : ∃ calls p, ParserLoop L message (L.jobsGetJobDocument message)
        (0 : ℕ) jobFields calls p := parserLoop_total hfiles (by omega)
    exact ⟨calls, _, .document hpresent hloop⟩

/-- A run that ends at a file with no more than 128 files before it is right. -/
theorem parsesAll_of_files {k : ℕ} (hk : k ≤ 127) {result : Bool}
    (hbefore : ∀ j < k, files[j]? = some true ∧ j + 1 < files.length)
    (hresult : result = true ↔ (nextFileIndex files k).bmod (2 ^ 8) = 0)
    (hend : ¬ (nextFileIndex files k).bmod (2 ^ 8) > 0) (hnonempty : files ≠ [])
    (hfew : files.length ≤ 128 ∨ false ∈ files.take 128) :
    ParsesAll True files ((List.range (k + 1)).map Nat.cast) result := by
  have hlt : k < files.length := by
    cases k with
    | zero => exact List.length_pos_iff.mpr hnonempty
    | succ j => exact (hbefore j (by omega)).2
  have htrue : ∀ j < k, files[j]? = some true := fun j hj => (hbefore j hj).1
  cases hfile : files[k] with
  | false =>
    have hget : files[k]? = some false := by rw [List.getElem?_eq_getElem hlt, hfile]
    refine ⟨⟨k + 1, hlt, rfl, Or.inr ⟨k, rfl, hget⟩⟩, iff_of_false ?_ ?_⟩
    · rw [hresult, nextFileIndex, if_neg (by rw [hget]; decide)]
      decide
    · rintro ⟨-, hall⟩
      exact absurd (hall _ (List.getElem_mem hlt)) (by rw [hfile]; decide)
  | true =>
    have hget : files[k]? = some true := by rw [List.getElem?_eq_getElem hlt, hfile]
    by_cases hmore : k + 1 < files.length
    · -- the loop has ended at file 127 because there is no index behind it
      exfalso
      have hlast : k = 127 := by
        by_contra hne
        exact hend ((nextFileIndex_pos_iff hk).mpr ⟨hget, hmore, by omega⟩)
      rcases hfew with hshort | hfails
      · omega
      · obtain ⟨j, hj, hjfile⟩ := List.getElem_of_mem hfails
        rw [List.length_take] at hj
        rw [List.getElem_take] at hjfile
        have hjget : files[j]? = some true := by
          by_cases hjk : j = k
          · rw [hjk]
            exact hget
          · exact htrue j (by omega)
        rw [List.getElem?_eq_getElem (by omega), hjfile] at hjget
        exact absurd hjget (by decide)
    · refine ⟨⟨k + 1, hlt, rfl, Or.inl (by omega)⟩, iff_of_true ?_ ⟨trivial, ?_⟩⟩
      · rw [hresult, nextFileIndex, if_pos hget, if_neg hmore]
        decide
      · intro file hmem
        obtain ⟨j, hj, rfl⟩ := List.getElem_of_mem hmem
        have hjget : files[j]? = some true := by
          by_cases hjk : j = k
          · rw [hjk]
            exact hget
          · exact htrue j (by omega)
        rw [List.getElem?_eq_getElem hj] at hjget
        exact Option.some.inj hjget

/-- **The job document parser** returns, after one call for each file, true for exactly
    the messages with a document whose files are all parsed, iff there is a document
    with a file, and no more than 128 files or one among the first 128 that fails. -/
theorem jobDocumentParser_iff (hfiles : HasFiles L message files)
    (jobFields : AfrOtaJobDocumentFields) :
    ((∃ calls p, JobDocumentParser L message jobFields calls p) ∧
      ∀ calls p, JobDocumentParser L message jobFields calls p →
        ParsesAll ((L.jobsGetJobDocument message).2 ≠ 0) files calls p.1) ↔
      (L.jobsGetJobDocument message).2 ≠ 0 ∧ files ≠ [] ∧
        (files.length ≤ 128 ∨ false ∈ files.take 128) := by
  constructor
  · rintro ⟨⟨calls, p, hrun⟩, hright⟩
    have hparses := hright calls p hrun
    have hpresent : (L.jobsGetJobDocument message).2 ≠ 0 := by
      intro hnone
      exact (hright [] _ (.noDocument hnone)).parsed.mp rfl |>.1 hnone
    obtain ⟨k, hk, hcalls, hbefore, -, -⟩ := hrun.spec hfiles hpresent
    obtain ⟨m, hm, hcalls', hlast⟩ := hparses.once
    have hlength : m = k + 1 := by
      simpa using congrArg List.length (hcalls'.symm.trans hcalls)
    refine ⟨hpresent, ?_, ?_⟩
    · rintro rfl
      simp at hm
      omega
    · by_cases hshort : files.length ≤ 128
      · exact Or.inl hshort
      · obtain hall | ⟨i, hi, hfails⟩ := hlast
        · omega
        · refine Or.inr (List.mem_of_getElem? (i := i) ?_)
          rw [List.getElem?_take, if_pos (by omega)]
          exact hfails
  · rintro ⟨hpresent, hnonempty, hfew⟩
    refine ⟨jobDocumentParser_total hfiles jobFields, fun calls p hrun => ?_⟩
    obtain ⟨k, hk, rfl, hbefore, hresult, hend⟩ := hrun.spec hfiles hpresent
    have hparses := parsesAll_of_files hk hbefore hresult hend hnonempty hfew
    exact ⟨hparses.once, by rw [hparses.parsed, and_iff_right trivial, and_iff_right hpresent]⟩

/-- A parser library that finds two files in every document. -/
def twoFilesDevice : Libraries :=
  { jsonDevice with
    otaParserParseJobDocFile := fun _ _ i jobFields =>
      (if i = 0 then 1 else if i = 1 then 0 else -1, jobFields) }

theorem hasFiles_twoFilesDevice (message : Bytes) :
    HasFiles twoFilesDevice message [true, true] := by
  intro i jobFields
  match i with
  | 0 => rfl
  | 1 => rfl
  | i + 2 =>
    have h0 : ((i + 2 : ℕ) : ℤ) ≠ 0 := by omega
    have h1 : ((i + 2 : ℕ) : ℤ) ≠ 1 := by omega
    show (if ((i + 2 : ℕ) : ℤ) = 0 then (1 : ℤ) else if ((i + 2 : ℕ) : ℤ) = 1 then 0 else -1) = -1
    rw [if_neg h0, if_neg h1]

set_option maxRecDepth 4000 in
theorem jobDocumentParser_iff_twoFiles :
    (∃ calls p, JobDocumentParser twoFilesDevice
        (startNextAccepted (ascii "A") [] 3 (ascii "MEUC")) {} calls p) ∧
      ∀ calls p, JobDocumentParser twoFilesDevice
          (startNextAccepted (ascii "A") [] 3 (ascii "MEUC")) {} calls p →
        ParsesAll ((twoFilesDevice.jobsGetJobDocument
          (startNextAccepted (ascii "A") [] 3 (ascii "MEUC"))).2 ≠ 0) [true, true] calls p.1 :=
  (jobDocumentParser_iff (hasFiles_twoFilesDevice _) {}).mpr
    ⟨by decide, by decide, Or.inl (by decide)⟩

/-- A message with the id of a job and no job document. -/
def noJobDocument : Bytes := ascii "\x7b\"execution\":\x7b\"jobId\":\"A\"\x7d\x7d"

/-- The parser library finds no file there, and `jobDocumentParser` returns true. -/
theorem not_parsesAll_noDocument :
    HasFiles jsonDevice noJobDocument [] ∧
      ∃ calls p, JobDocumentParser jsonDevice noJobDocument {} calls p ∧
        ¬ ParsesAll ((jsonDevice.jobsGetJobDocument noJobDocument).2 ≠ 0) [] calls p.1 := by
  have hnone : (jsonDevice.jobsGetJobDocument noJobDocument).2 = 0 := by decide
  refine ⟨fun i jobFields => rfl, [], _, .noDocument hnone, ?_⟩
  intro hparses
  exact (hparses.parsed.mp rfl).1 hnone

end Result

end Corstone.Ota
