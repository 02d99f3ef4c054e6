import Corstone.Ota.JobDocument
import Corstone.Ota.JsonDevice

/-!
# The local copies of a job document's strings

The strings of a job document are not NUL-terminated. `printJobParams` and
`receivedJobDocumentHandler` (`ota_orchestrator.c`, lines 582–614 and 815–846)
copy them into arrays of their length and terminate the copies. The writes are
modelled by their indices; the length of the certificate name, which nothing else
uses, is a parameter.

* `outOfBounds_terminatedCopy`: of one copy, the NUL alone is written behind the
  array.
* `outOfBounds_copies`: which writes of the handler are.
* `copies_not_inBounds`: for no accepted document all writes are in bounds.
-/

namespace Corstone.Ota.LocalCopies

open Corstone.Lib

/-! ## The writes -/

/-- The local arrays. -/
inductive LocalArray
  | streamName | filePath | certFile | sig | updatedByBuffer
  deriving DecidableEq, Repr

/-- An array, its size, and the indices that are written, in their order. -/
structure LocalCopy where
  array : LocalArray
  size : ℕ
  writes : List ℕ
  deriving DecidableEq

/-- `char copy[ length ]`, a `memcpy` of `length` bytes, and
    `copy[ length ] = '\0'`. -/
def terminatedCopy (array : LocalArray) (length : ℕ) : LocalCopy where
  array := array
  size := length
  writes := List.range length ++ [length]

/-- `printJobParams`. -/
def printJobParams (jobFields : AfrOtaJobDocumentFields) (certfileLen : ℕ) : List LocalCopy :=
  [terminatedCopy .streamName jobFields.imageRefLen, terminatedCopy .filePath jobFields.filepathLen,
    terminatedCopy .certFile certfileLen, terminatedCopy .sig jobFields.signatureLen]

/-- The copies of `receivedJobDocumentHandler`, with those of `printJobParams`. -/
def copies (L : Libraries) (r : Results) (certfileLen : ℕ) (s : OtaAgent) : List LocalCopy :=
  let s := clearJobFields s
  let jobId := L.jobsGetJobId s.jobDocument
  if jobId.length ≠ 0 then
    if strncmp s.globalJobId jobId jobId.length ≠ 0 then
      let (s, handled) := jobDocumentParsed L (recordJobId s jobId)
      if handled then
        printJobParams s.jobFields certfileLen ++
          if otaPalGetPlatformImageState r s = .pendingCommit then
            [terminatedCopy .updatedByBuffer s.jobStatusDetails.updatedByLen]
          else []
      else []
    else []
  else []

/-! ## The bounds -/

/-- Every write is at an index below the size of its array. -/
def InBounds (l : List LocalCopy) : Prop := ∀ copy ∈ l, ∀ i ∈ copy.writes, i < copy.size

/-- The writes that are not. -/
def outOfBounds (l : List LocalCopy) : List (LocalArray × ℕ) :=
  l.flatMap fun copy => (copy.writes.filter fun i => copy.size ≤ i).map (copy.array, ·)

theorem inBounds_iff (l : List LocalCopy) : InBounds l ↔ outOfBounds l = [] := by
  unfold InBounds outOfBounds
  rw [List.flatMap_eq_nil_iff]
  refine forall₂_congr fun copy _ => ?_
  rw [List.map_eq_nil_iff, List.filter_eq_nil_iff]
  refine forall₂_congr fun i _ => ?_
  rw [decide_eq_true_eq, not_le]

theorem outOfBounds_append (l l' : List LocalCopy) :
    outOfBounds (l ++ l') = outOfBounds l ++ outOfBounds l' := List.flatMap_append

/-- Of a copy the NUL is written behind the array, and nothing else. -/
theorem outOfBounds_terminatedCopy (array : LocalArray) (length : ℕ) :
    outOfBounds [terminatedCopy array length] = [(array, length)] := by
  have hcopied : (List.range length).filter (fun i => length ≤ i) = [] := by
    refine List.filter_eq_nil_iff.mpr fun i hi => ?_
    have hlt := List.mem_range.mp hi
    rw [decide_eq_true_eq]
    omega
  show ((List.range length ++ [length]).filter fun i => length ≤ i).map (array, ·) ++ [] = _
  rw [List.filter_append, hcopied, List.nil_append, List.append_nil, List.filter_singleton]
  simp

theorem outOfBounds_printJobParams (jobFields : AfrOtaJobDocumentFields) (certfileLen : ℕ) :
    outOfBounds (printJobParams jobFields certfileLen) =
      [(.streamName, jobFields.imageRefLen), (.filePath, jobFields.filepathLen),
        (.certFile, certfileLen), (.sig, jobFields.signatureLen)] := by
  show outOfBounds ([terminatedCopy .streamName jobFields.imageRefLen] ++
    ([terminatedCopy .filePath jobFields.filepathLen] ++
      ([terminatedCopy .certFile certfileLen] ++
        [terminatedCopy .sig jobFields.signatureLen]))) = _
  rw [outOfBounds_append, outOfBounds_append, outOfBounds_append, outOfBounds_terminatedCopy,
    outOfBounds_terminatedCopy, outOfBounds_terminatedCopy, outOfBounds_terminatedCopy]
  rfl

/-- The document names a new job, and the parsers accept it. -/
def Accepted (L : Libraries) (s : OtaAgent) : Prop :=
  NewJob L s ∧ (newJobParsed L s).2 = true

/-- The copies of an accepted document. -/
theorem copies_of_accepted {L : Libraries} {s : OtaAgent} (h : Accepted L s) (r : Results)
    (certfileLen : ℕ) :
    copies L r certfileLen s =
      printJobParams (newJobParsed L s).1.jobFields certfileLen ++
        if otaPalGetPlatformImageState r (newJobParsed L s).1 = .pendingCommit then
          [terminatedCopy .updatedByBuffer (newJobParsed L s).1.jobStatusDetails.updatedByLen]
        else [] := by
  obtain ⟨⟨hid, hnew⟩, hparsed⟩ := h
  have hlength : (L.jobsGetJobId (clearJobFields s).jobDocument).length ≠ 0 := fun hzero =>
    hid (List.length_eq_zero_iff.mp hzero)
  show (if (L.jobsGetJobId (clearJobFields s).jobDocument).length ≠ 0 then
    if strncmp s.globalJobId (s.jobId L) (s.jobId L).length ≠ 0 then
      if (newJobParsed L s).2 then _ else [] else [] else []) = _
  rw [if_pos hlength, if_pos hnew, if_pos hparsed]
  rfl

/-- The writes of an accepted document that are out of bounds. -/
theorem outOfBounds_copies {L : Libraries} {s : OtaAgent} (h : Accepted L s) (r : Results)
    (certfileLen : ℕ) :
    outOfBounds (copies L r certfileLen s) =
      [(.streamName, (newJobParsed L s).1.jobFields.imageRefLen),
        (.filePath, (newJobParsed L s).1.jobFields.filepathLen), (.certFile, certfileLen),
        (.sig, (newJobParsed L s).1.jobFields.signatureLen)] ++
      if otaPalGetPlatformImageState r (newJobParsed L s).1 = .pendingCommit then
        [(.updatedByBuffer, (newJobParsed L s).1.jobStatusDetails.updatedByLen)]
      else [] := by
  rw [copies_of_accepted h, outOfBounds_append, outOfBounds_printJobParams]
  congr 1
  split_ifs
  · exact outOfBounds_terminatedCopy _ _
  · rfl

/-- **The bounds.** Whatever the lengths in an accepted document are, not all writes are
    in bounds. -/
theorem copies_not_inBounds (L : Libraries) (r : Results) (certfileLen : ℕ) (s : OtaAgent)
    (h : Accepted L s) : ¬ InBounds (copies L r certfileLen s) := by
  rw [inBounds_iff, outOfBounds_copies h]
  exact List.cons_ne_nil _ _

/-- A device that has received the document. -/
def received (message : Bytes) : OtaAgent :=
  { OtaAgent.boot jsonDevice with jobDocBuffer := ⟨message, message.length⟩ }

/-- A job for the secure image, with a signature of four characters. -/
def document : Bytes := startNextAccepted (ascii "A") (statusDetails (ascii "7")) 3 (ascii "MEUC")

set_option maxRecDepth 20000 in
theorem copies_not_inBounds_document :
    ¬ InBounds (copies jsonDevice {} 1 (received document)) :=
  copies_not_inBounds jsonDevice {} 1 (received document) ⟨by decide, by decide⟩

set_option maxRecDepth 20000 in
/-- The NUL of the signature is at index 4 of an array of four bytes. -/
theorem not_inBounds_signature :
    ¬ InBounds
      (copies jsonDevice { platformImageState := .pendingCommit } 1 (received document)) := by
  intro h
  have hsig : terminatedCopy .sig 4 ∈
      copies jsonDevice { platformImageState := .pendingCommit } 1 (received document) := by decide
  exact absurd (h _ hsig 4 (by decide)) (by decide)

end Corstone.Ota.LocalCopies
