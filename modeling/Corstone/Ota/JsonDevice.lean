import Corstone.Lib.Decimal
import Corstone.Ota.EventLoop

/-!
# A device that searches its messages for keys

An instance of `Libraries` for the concrete runs of the other modules, with the
messages these runs send. Its functions find a value behind the first
occurrence of its key. On the flat messages built here this is what the JSON
search, the job parser, the base64 decoder and the stream library find too.

* `jobsGetJobId_startNextAccepted`: the id that was put into a message is read
  out of it.
-/

namespace Corstone.Ota

open Corstone.Lib

/-! ## Searching -/

/-- The quotation mark. -/
def quote : UInt8 := 34

/-- The offset behind the first occurrence of `key`. -/
def offsetBehind (key : Bytes) : Bytes → Option ℕ
  | [] => none
  | b :: m =>
    if key.isPrefixOf (b :: m) then some key.length else (offsetBehind key m).map (· + 1)

/-- A byte inside a string: neither the quote nor a control character. -/
def isStringByte (b : UInt8) : Bool := b != quote && 32 ≤ b

/-- Offset and length of the string value behind a key and its quote. -/
def stringValue (key m : Bytes) : Option (ℕ × ℕ) :=
  (offsetBehind key m).map fun o => (o, ((m.drop o).takeWhile isStringByte).length)

/-- The bytes of a string value, none if there is no such key. -/
def stringBytes (key m : Bytes) : Bytes :=
  match stringValue key m with
  | some (offset, length) => (m.drop offset).take length
  | none => []

/-- The number behind a key. -/
def numberValue (key m : Bytes) : UInt32 :=
  match offsetBehind key m with
  | some o => strtoul (m.drop o)
  | none => 0

/-- The value of a letter or digit in base64. -/
def base64Digit (b : UInt8) : Option ℕ :=
  if 65 ≤ b ∧ b ≤ 90 then some (b.toNat - 65)
  else if 97 ≤ b ∧ b ≤ 122 then some (b.toNat - 71)
  else if 48 ≤ b ∧ b ≤ 57 then some (b.toNat + 4)
  else none

/-- Base64 groups, of which the last one may stand for one byte. -/
def base64 : Bytes → Option Bytes
  | [] => some []
  | a :: b :: c :: d :: rest =>
    if c = 61 ∧ d = 61 ∧ rest = [] then do
      let x := (← base64Digit a) * 2 ^ 6 + (← base64Digit b)
      some [UInt8.ofNat (x / 2 ^ 4)]
    else do
      let x := (← base64Digit a) * 2 ^ 18 + (← base64Digit b) * 2 ^ 12 +
        (← base64Digit c) * 2 ^ 6 + (← base64Digit d)
      let bytes ← base64 rest
      some (UInt8.ofNat (x / 2 ^ 16) :: UInt8.ofNat (x / 2 ^ 8) :: UInt8.ofNat x :: bytes)
  | _ => none

/-! ## The device -/

/-- The topic of the answer to a request for a job document. -/
def startNextAcceptedTopic : Bytes := ascii "$aws/things/thing/jobs/start-next/accepted"

/-- The job parser for a document with one file. -/
def parseJobDocFile (m : Bytes) (fields : AfrOtaJobDocumentFields) :
    ℤ × AfrOtaJobDocumentFields :=
  match stringValue (ascii "\"filepath\":\"") m,
    stringValue (ascii "\"sig-sha256-ecdsa\":\"") m with
  | some (filepath, filepathLen), some (signature, signatureLen) =>
    (0,
      { signature := .jobDoc signature
        signatureLen := signatureLen
        filepath := .jobDoc filepath
        filepathLen := filepathLen
        fileId := numberValue (ascii "\"fileid\":") m
        fileSize := numberValue (ascii "\"filesize\":") m })
  | _, _ => (-1, fields)

/-- Two firmware components, signatures in another format than DER, and the
    functions that search for keys. -/
def jsonDevice : Libraries where
  fwuComponentNumber := 2
  signatureAsn1Der := false
  jobsIsStartNextAccepted := fun topic => topic == startNextAcceptedTopic
  jobsGetJobId := stringBytes (ascii "\"jobId\":\"")
  jobsGetJobDocument := fun m =>
    match offsetBehind (ascii "\"jobDocument\":") m with
    | some offset => (offset, m.length - 2 - offset)
    | none => (0, 0)
  otaParserParseJobDocFile := fun m _ _ fields => parseJobDocFile m fields
  jsonSearchUpdatedBy := stringValue (ascii "\"updatedBy\":\"")
  base64Decode := fun size m => (base64 m).filter fun bytes => bytes.length ≤ size
  mqttDownloaderInit := fun streamName =>
    { topicStreamData := ascii "$aws/things/thing/streams/" ++ streamName ++ ascii "/data/json"
      topicGetStream := ascii "$aws/things/thing/streams/" ++ streamName ++ ascii "/get/json" }
  mqttDownloaderProcessReceivedDataBlock := fun _ m =>
    { fileId := (numberValue (ascii "\"f\":") m).toNat
      blockId := (numberValue (ascii "\"i\":") m).toNat
      blockSize := (numberValue (ascii "\"l\":") m).toNat
      decodedData := (base64 (stringBytes (ascii "\"p\":\"") m)).getD [] }

/-! ## Messages -/

/-- The status details of a job that a device has reported on. -/
def statusDetails (updatedBy : Bytes) : Bytes :=
  ascii ",\"statusDetails\":\x7b\"updatedBy\":\"" ++ (updatedBy ++ ascii "\"\x7d")

/-- A job document for the secure image: the id of the job, its status details,
    the size of the file and its signature. -/
def startNextAccepted (jobId details : Bytes) (filesize : ℕ) (signature : Bytes) : Bytes :=
  ascii "\x7b\"execution\":\x7b\"jobId\":\"" ++ (jobId ++ (quote :: details ++
    (ascii ",\"jobDocument\":\x7b\"afr_ota\":\x7b\"protocols\":[\"MQTT\"],\"streamname\":\"s\"," ++
    (ascii "\"files\":[\x7b\"filepath\":\"secure image\",\"filesize\":" ++ (decimal filesize ++
    (ascii ",\"fileid\":0,\"certfile\":\"c\",\"sig-sha256-ecdsa\":\"" ++ (signature ++
    ascii "\"\x7d]\x7d\x7d\x7d\x7d")))))))

/-- An answer without an execution. -/
def noJob : Bytes := ascii "\x7b\"clientToken\":\"t\"\x7d"

/-- A block of a stream, its payload in base64. -/
def streamBlock (fileId blockId : ℕ) (payload : Bytes) : Bytes :=
  ascii "\x7b\"f\":" ++ (decimal fileId ++ (ascii ",\"i\":" ++ (decimal blockId ++
    (ascii ",\"l\":3,\"p\":\"" ++ (payload ++ ascii "\"\x7d")))))

/-- A string value ends at its quote. -/
theorem takeWhile_isStringByte {value : Bytes} (h : ∀ b ∈ value, isStringByte b = true)
    (rest : Bytes) : (value ++ quote :: rest).takeWhile isStringByte = value := by
  rw [List.takeWhile_append_of_pos h, List.takeWhile_cons_of_neg (by decide), List.append_nil]

/-- The id of a job is read out of its document. -/
theorem jobsGetJobId_startNextAccepted {jobId : Bytes} (h : ∀ b ∈ jobId, isStringByte b = true)
    (details : Bytes) (filesize : ℕ) (signature : Bytes) :
    jsonDevice.jobsGetJobId (startNextAccepted jobId details filesize signature) = jobId := by
  have hoffset : offsetBehind (ascii "\"jobId\":\"")
      (startNextAccepted jobId details filesize signature) = some 23 := rfl
  have hdrop : ∃ rest, (startNextAccepted jobId details filesize signature).drop 23 =
      jobId ++ quote :: rest := ⟨_, rfl⟩
  obtain ⟨rest, hrest⟩ := hdrop
  show stringBytes (ascii "\"jobId\":\"") (startNextAccepted jobId details filesize signature) =
    jobId
  rw [stringBytes, stringValue, hoffset, Option.map_some, hrest, takeWhile_isStringByte h]
  simp [hrest]

/-- No id has a NUL byte. -/
theorem jobsGetJobId_noNul (m : Bytes) : 0 ∉ jsonDevice.jobsGetJobId m := by
  show 0 ∉ stringBytes (ascii "\"jobId\":\"") m
  rw [stringBytes, stringValue]
  cases offsetBehind (ascii "\"jobId\":\"") m with
  | none => simp
  | some offset =>
    show 0 ∉ (m.drop offset).take ((m.drop offset).takeWhile isStringByte).length
    have hvalue := List.prefix_iff_eq_take.mp
      (List.takeWhile_prefix (l := m.drop offset) isStringByte)
    rw [← hvalue]
    intro hmem
    have hzero := List.mem_takeWhile_imp hmem
    exact absurd hzero (by decide)

end Corstone.Ota
