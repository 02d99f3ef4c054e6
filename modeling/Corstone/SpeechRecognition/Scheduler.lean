import Corstone.SpeechRecognition.GenericNodes

/-!
# The audio graph and the DSP task

Models of the nodes of the graph (`speech_recognition/dsp/inc/AppNodes.h`), of
`ulScheduler` (`dsp/src/scheduler.cpp`) and of the loop of `vDspTask`
(`dsp/src/dsp_task.cc`). A step without a result is one that leaves an array or
copies between overlapping ranges.

The samples come from a signal: what the calls of `pxGetCurrentBuffer` give, one
after the other. The noise reduction of libspeex is a parameter.

* `Session`, `Sessions.step`: what the graph is for, counted in nodes run.
* `windows`: the windows of a session, each the last 47360 processed samples.
-/

namespace Corstone.SpeechRecognition

open Corstone.Lib

/-- `speex_preprocess_run`, which works in place. -/
structure Preprocess (S : Type) where
  run : S → List Int16 → S × List Int16
  length_run : ∀ den b, (run den b).2.length = b.length

/-- `MicrophoneSource<int16_t, 1600>`. -/
def micOutputSize : ℕ := 1600

/-- `DSP<int16_t, 320, int16_t, 320>`. -/
def dspInputSize : ℕ := 320

inductive Node
  | mic | dsp | audioWin | ml
  deriving DecidableEq

/-- The calls of one iteration (lines 74–196). -/
def schedule : List Node :=
  (List.replicate 10 (Node.mic :: List.replicate 5 Node.dsp)).flatten ++ [.audioWin, .ml]

/-- The FIFOs and the members of the nodes. -/
structure Graph (S : Type) where
  fifo0 : Fifo Int16 1600 false
  fifo1 : Fifo Int16 16000 false
  fifo2 : Fifo Int16 47360 true
  mDen : Option S
  memory : Memory Int16 31360
  mFrameCount : UInt32
  nbSchedule : UInt32

/-- The objects that `ulScheduler` makes (lines 52–68), over the static buffers. -/
def Graph.new {S : Type} (buf0 : Memory Int16 1600) (buf1 : Memory Int16 16000)
    (buf2 : Memory Int16 47360) (mDen : Option S) : Graph S where
  fifo0 := Fifo.new false buf0
  fifo1 := Fifo.new false buf1
  fifo2 := Fifo.new true buf2
  mDen := mDen
  memory := Memory.fill 31360 0
  mFrameCount := 0
  nbSchedule := 0

/-- The DSP task, with what it has handed over to the ML task. -/
structure System (S : Type) where
  /-- `EVENT_MASK_DSP_START`. -/
  started : Bool
  graph : Graph S
  /-- The next call of the schedule; `none` at `xEventGroupWaitBits`. -/
  next : Option ℕ
  /-- The blocks taken from the source. -/
  blocks : ℕ
  /-- The windows copied to the DSP buffer and swapped, oldest first. -/
  handed : List (List Int16)
  /-- `error` and `nbSched` of each `ulScheduler`, oldest first. -/
  returned : List (ℤ × UInt32)

/-- What happens to the DSP task. -/
inductive Event (S : Type)
  | vDspStart
  | vDspStop
  /-- The task goes on from `xEventGroupWaitBits`, and
      `speex_preprocess_state_init` gives `mDen`. -/
  | launch (mDen : Option S)
  /-- The next node runs, and `CHECKERROR_OR_PAUSE`. -/
  | node

section Steps

variable {S : Type} (p : Preprocess S) (audio : ℕ → Int16)

/-- `MicrophoneSource::run` (lines 69–82), after the wait. -/
def micRun (σ : System S) : Option (ℤ × System S) :=
  (σ.graph.fifo0.write (segment audio (micOutputSize * σ.blocks) micOutputSize)).map fun fifo0 =>
    (0, { σ with graph := { σ.graph with fifo0 := fifo0 }, blocks := σ.blocks + 1 })

/-- `if( mDen ) speex_preprocess_run( mDen, b )` on the `n` samples at `b`. -/
def preprocessRun {length : ℕ} (mDen : Option S) (buffer : Memory Int16 length) (b n : ℕ) :
    Option (Option S × Memory Int16 length) :=
  match mDen with
  | none => some (none, buffer)
  | some den => do
    let block ← buffer.read b n
    let buffer ← buffer.write b (p.run den block).2
    return (some (p.run den block).1, buffer)

/-- `DSP::run` (lines 164–179). -/
def dspRun (σ : System S) : Option (ℤ × System S) := do
  let (a, fifo0) := σ.graph.fifo0.pxGetReadBuffer dspInputSize
  let (b, fifo1) ← σ.graph.fifo1.pxGetWriteBuffer dspInputSize
  let input ← fifo0.mBuffer.read a dspInputSize
  let buffer ← fifo1.mBuffer.write b input
  let (mDen, buffer) ← preprocessRun p σ.graph.mDen buffer b dspInputSize
  return (0, { σ with
    graph := { σ.graph with fifo0 := fifo0, fifo1 := fifo1.withBuffer buffer, mDen := mDen } })

/-- `run` of `SlidingBuffer<int16_t, 47360, 31360>`. -/
def audioWinRun (σ : System S) : Option (ℤ × System S) :=
  (SlidingBuffer.run 47360 31360 σ.graph.memory σ.graph.fifo1 σ.graph.fifo2).map
    fun (memory, fifo1, fifo2) =>
      (0, { σ with graph := { σ.graph with memory := memory, fifo1 := fifo1, fifo2 := fifo2 } })

/-- `run` of `ML<int16_t, 47360>` (lines 100–121). -/
def mlRun (σ : System S) : Option (ℤ × System S) := do
  let (b, fifo2) := σ.graph.fifo2.pxGetReadBuffer 47360
  if σ.graph.mFrameCount < 2 then
    return (0, { σ with
      graph := { σ.graph with fifo2 := fifo2, mFrameCount := σ.graph.mFrameCount + 1 } })
  else
    let window ← fifo2.mBuffer.read b 47360
    return (0, { σ with
      graph := { σ.graph with fifo2 := fifo2 }, handed := σ.handed ++ [window] })

def nodeRun : Node → System S → Option (ℤ × System S)
  | .mic => micRun audio
  | .dsp => dspRun p
  | .audioWin => audioWinRun
  | .ml => mlRun

/-- `ulScheduler` returns. -/
def leave (sdfError : ℤ) (σ : System S) : System S :=
  { σ with next := none, returned := σ.returned ++ [(sdfError, σ.graph.nbSchedule)] }

/-- What follows a node: `CHECKERROR_OR_PAUSE` (lines 43–51), and behind the last
    one the end of the loop (lines 199–206). -/
def proceed (k : ℕ) (sdfError : ℤ) (σ : System S) : System S :=
  if sdfError < 0 then leave sdfError σ
  else if σ.started = false then leave sdfError σ
  else if k + 1 < schedule.length then { σ with next := some (k + 1) }
  else
    let σ := { σ with graph := { σ.graph with nbSchedule := σ.graph.nbSchedule + 1 } }
    if sdfError = 0 then { σ with next := some 0 } else leave sdfError σ

def step (σ : System S) : Event S → Option (System S)
  | .vDspStart => some { σ with started := true }
  | .vDspStop => some { σ with started := false }
  | .launch mDen =>
    if σ.next = none ∧ σ.started = true then
      some { σ with
        next := some 0
        graph := Graph.new σ.graph.fifo0.mBuffer σ.graph.fifo1.mBuffer σ.graph.fifo2.mBuffer mDen }
    else some σ
  | .node =>
    match σ.next with
    | none => some σ
    | some k => do
      let node ← schedule[k]?
      let (sdfError, σ) ← nodeRun p audio node σ
      return proceed k sdfError σ

/-- `vDspTask` before the first launch. The static buffers are zero. -/
def init : System S where
  started := false
  graph := Graph.new (Memory.fill 1600 0) (Memory.fill 16000 0) (Memory.fill 47360 0) none
  next := none
  blocks := 0
  handed := []
  returned := []

end Steps

/-! ## What the graph is for -/

/-- What the node `DSP` does to a block, with a preprocessor or without. -/
def Preprocess.apply {S : Type} (p : Preprocess S) :
    Option S → List Int16 → Option S × List Int16
  | none, b => (none, b)
  | some den, b => (some (p.run den b).1, (p.run den b).2)

/-- A call of `ulScheduler`. -/
structure Session (S : Type) where
  /-- The number of the first block that it takes. -/
  first : ℕ
  /-- The preprocessor that it starts with. -/
  mDen : Option S
  /-- The nodes that it has run. -/
  nodes : ℕ

namespace Session

variable {S : Type} (s : Session S)

/-- The nodes of the current iteration before the window. -/
def rest : ℕ := min (s.nodes % 62) 60

def mics : ℕ := 10 * (s.nodes / 62) + (s.rest + 5) / 6

def dsps : ℕ := 50 * (s.nodes / 62) + (s.rest - (s.rest + 5) / 6)

def wins : ℕ := (s.nodes + 1) / 62

def mls : ℕ := s.nodes / 62

variable (p : Preprocess S) (audio : ℕ → Int16)

/-- The samples that it takes. -/
def input (i : ℕ) : Int16 := audio (1600 * s.first + i)

/-- The preprocessor after `d` blocks of 320 samples. -/
def mDenAt : ℕ → Option S
  | 0 => s.mDen
  | d + 1 => (p.apply (mDenAt d) (segment (s.input audio) (320 * d) 320)).1

/-- The block of 320 samples with the number `d`, processed. -/
def block (d : ℕ) : List Int16 :=
  (p.apply (s.mDenAt p audio d) (segment (s.input audio) (320 * d) 320)).2

/-- The processed samples. -/
def processed (i : ℕ) : Int16 := (s.block p audio (i / 320)).getD (i % 320) 0

/-- The windows handed over: from the third second on, each time the last 47360
    processed samples. -/
def windows : List (List Int16) :=
  (List.range (s.mls - 2)).map fun k =>
    segment (s.processed p audio) (16000 * (k + 3) - 47360) 47360

end Session

/-- The sessions of the DSP task. -/
structure Sessions (S : Type) where
  started : Bool
  past : List (Session S)
  current : Option (Session S)
  blocks : ℕ

namespace Sessions

variable {S : Type}

def init : Sessions S := ⟨false, [], none, 0⟩

def step (τ : Sessions S) : Event S → Sessions S
  | .vDspStart => { τ with started := true }
  | .vDspStop => { τ with started := false }
  | .launch mDen =>
    if τ.current.isNone = true ∧ τ.started = true then
      { τ with current := some ⟨τ.blocks, mDen, 0⟩ }
    else τ
  | .node =>
    match τ.current with
    | none => τ
    | some s =>
      let s : Session S := { s with nodes := s.nodes + 1 }
      if τ.started = true then
        { τ with current := some s, blocks := s.first + s.mics }
      else { τ with past := τ.past ++ [s], current := none, blocks := s.first + s.mics }

/-- All sessions, the oldest first. -/
def all (τ : Sessions S) : List (Session S) := τ.past ++ τ.current.toList

end Sessions

end Corstone.SpeechRecognition
