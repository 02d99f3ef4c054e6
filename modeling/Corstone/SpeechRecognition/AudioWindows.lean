import Corstone.SpeechRecognition.Scheduler

/-!
# The windows that the ML task gets

The audio graph, run node by node with its FIFOs and static buffers, does what
its sessions say.

* `simulates_node`: a node of the schedule keeps the relation to the session.
* `run_eq_sessions`: in every order of starts, stops, launches and nodes no step
  leaves an array or copies between overlapping ranges, and what is handed over
  are the windows of the sessions.
-/

namespace Corstone.SpeechRecognition

open Corstone.Lib

theorem Preprocess.length_apply {S : Type} (p : Preprocess S) (mDen : Option S)
    (b : List Int16) : (p.apply mDen b).2.length = b.length := by
  cases mDen with
  | none => rfl
  | some den => exact p.length_run den b

namespace Session

variable {S : Type} (s : Session S) (p : Preprocess S) (audio : ℕ → Int16)

@[simp] theorem length_block (d : ℕ) : (s.block p audio d).length = 320 :=
  (p.length_apply _ _).trans (length_segment _ _ _)

/-- A block of 320 processed samples. -/
theorem segment_processed (d : ℕ) :
    segment (s.processed p audio) (320 * d) 320 = s.block p audio d := by
  apply List.ext_getElem?
  intro j
  by_cases hj : j < 320
  · have hdiv : (320 * d + j) / 320 = d := by omega
    have hmod : (320 * d + j) % 320 = j := by omega
    have hlength := s.length_block p audio d
    rw [getElem?_segment _ _ hj, processed, hdiv, hmod, List.getD_eq_getElem?_getD,
      List.getElem?_eq_getElem (by omega), Option.getD_some]
  · rw [List.getElem?_eq_none (by simp; omega), List.getElem?_eq_none (by simp; omega)]

/-- The processed samples behind the zeros that the window starts with. -/
def extended : ℕ → Int16 := padded 31360 0 (s.processed p audio)

theorem segment_extended (i n : ℕ) :
    segment (s.extended p audio) (i + 31360) n = segment (s.processed p audio) i n := by
  rw [Nat.add_comm]
  exact segment_padded _ _ _ _ _

/-- After a node of the schedule. -/
def after : Session S := { s with nodes := s.nodes + 1 }

@[simp] theorem mDenAt_after (d : ℕ) : s.after.mDenAt p audio d = s.mDenAt p audio d := by
  induction d with
  | zero => rfl
  | succ d ih =>
    rw [mDenAt, mDenAt, ih]
    rfl

@[simp] theorem block_after (d : ℕ) : s.after.block p audio d = s.block p audio d := by
  unfold block
  rw [mDenAt_after]
  rfl

@[simp] theorem processed_after : s.after.processed p audio = s.processed p audio := by
  funext i
  rw [processed, block_after]
  rfl

@[simp] theorem extended_after : s.after.extended p audio = s.extended p audio := by
  rw [extended, processed_after]
  rfl

@[simp] theorem input_after : s.after.input audio = s.input audio := rfl

/-! ## The places of the schedule -/

/-- The node that the session runs next, and what it counts. -/
inductive Next (s : Session S) : Node → Prop
  | mic : s.after.mics = s.mics + 1 → s.after.dsps = s.dsps → s.after.wins = s.wins →
      s.after.mls = s.mls → 1600 * s.mics = 320 * s.dsps → Next s .mic
  | dsp : s.after.mics = s.mics → s.after.dsps = s.dsps + 1 → s.after.wins = s.wins →
      s.after.mls = s.mls → 320 * (s.dsps + 1) ≤ 1600 * s.mics → 16000 * s.wins ≤ 320 * s.dsps →
      320 * (s.dsps + 1) ≤ 16000 * (s.wins + 1) → Next s .dsp
  | audioWin : s.after.mics = s.mics → s.after.dsps = s.dsps → s.after.wins = s.wins + 1 →
      s.after.mls = s.mls → 320 * s.dsps = 16000 * (s.wins + 1) → Next s .audioWin
  | ml : s.after.mics = s.mics → s.after.dsps = s.dsps → s.after.wins = s.wins →
      s.after.mls = s.mls + 1 → s.wins = s.mls + 1 → Next s .ml

theorem getElem?_schedule :
    ∀ k < 62, schedule[k]? =
      some (if k = 60 then .audioWin else if k = 61 then .ml
        else if k % 6 = 0 then .mic else .dsp) := by
  decide

/-- The next call of the schedule is the node that the counts ask for. -/
theorem exists_next : ∃ node, schedule[s.nodes % 62]? = some node ∧ s.Next node := by
  rw [getElem?_schedule _ (Nat.mod_lt _ (by decide))]
  refine ⟨_, rfl, ?_⟩
  by_cases hwin : s.nodes % 62 = 60
  · rw [if_pos hwin]
    constructor <;> simp only [after, mics, dsps, wins, mls, rest] <;> omega
  · rw [if_neg hwin]
    by_cases hml : s.nodes % 62 = 61
    · rw [if_pos hml]
      constructor <;> simp only [after, mics, dsps, wins, mls, rest] <;> omega
    · rw [if_neg hml]
      by_cases hmic : s.nodes % 62 % 6 = 0
      · rw [if_pos hmic]
        constructor <;> simp only [after, mics, dsps, wins, mls, rest] <;> omega
      · rw [if_neg hmic]
        constructor <;> simp only [after, mics, dsps, wins, mls, rest] <;> omega

/-! ## The windows -/

theorem windows_of_mls_eq (h : s.after.mls = s.mls) :
    s.after.windows p audio = s.windows p audio := by
  rw [windows, windows, processed_after, h]

/-- The first two windows are not handed over. -/
theorem windows_of_lt (h : s.after.mls = s.mls + 1) (hmls : s.mls < 2) :
    s.after.windows p audio = s.windows p audio := by
  rw [windows, windows, processed_after, h, show s.mls + 1 - 2 = s.mls - 2 by omega]

theorem windows_of_le (h : s.after.mls = s.mls + 1) (hmls : 2 ≤ s.mls) :
    s.after.windows p audio =
      s.windows p audio ++ [segment (s.extended p audio) (16000 * s.mls) 47360] := by
  have hplace : 16000 * s.mls = 16000 * (s.mls - 2 + 3) - 47360 + 31360 := by omega
  rw [windows, windows, processed_after, h, show s.mls + 1 - 2 = s.mls - 2 + 1 by omega,
    List.range_succ, List.map_append, List.map_singleton, hplace, segment_extended]

end Session

/-! ## The graph follows the session -/

section Simulation

variable {S : Type} (p : Preprocess S) (audio : ℕ → Int16)

/-- The graph is where the session is. -/
structure Tracks (g : Graph S) (s : Session S) : Prop where
  valid0 : g.fifo0.Valid
  contents0 : g.fifo0.contents =
    segment (s.input audio) (320 * s.dsps) (1600 * s.mics - 320 * s.dsps)
  valid1 : g.fifo1.Valid
  contents1 : g.fifo1.contents =
    segment (s.processed p audio) (16000 * s.wins) (320 * s.dsps - 16000 * s.wins)
  gap1 : g.fifo1.readPos = 0 ∨ g.fifo1.contents = []
  mDen : g.mDen = s.mDenAt p audio s.dsps
  memory : g.memory.cells = segment (s.extended p audio) (16000 * s.wins) 31360
  window : s.wins ≠ 0 →
    g.fifo2.mBuffer.cells = segment (s.extended p audio) (16000 * (s.wins - 1)) 47360
  mFrameCount : g.mFrameCount = UInt32.ofNat (min 2 s.mls)

/-- What a node does to the rest of the task. -/
structure Ran (s : Session S) (σ σ' : System S) : Prop where
  tracks : Tracks p audio σ'.graph s.after
  started : σ'.started = σ.started
  returned : σ'.returned = σ.returned
  nbSchedule : σ'.graph.nbSchedule = σ.graph.nbSchedule
  blocks : σ'.blocks = s.first + s.after.mics
  handed : ∀ h, σ.handed = h ++ s.windows p audio → σ'.handed = h ++ s.after.windows p audio

variable {p audio} {s : Session S} {σ : System S}

/-- The microphone fills the FIFO, which is empty. -/
theorem exists_micRun (h : Tracks p audio σ.graph s) (hnext : s.Next .mic)
    (hblocks : σ.blocks = s.first + s.mics) :
    ∃ σ', micRun audio σ = some (0, σ') ∧ Ran p audio s σ σ' := by
  obtain ⟨hmics, hdsps, hwins, hmls, hdrained⟩ := hnext
  have hempty : σ.graph.fifo0.contents = [] := by
    rw [h.contents0, hdrained, Nat.sub_self, segment_zero]
  have hcurrent : segment audio (micOutputSize * σ.blocks) micOutputSize =
      segment (s.input audio) (1600 * s.mics) 1600 := by
    apply segment_congr
    intro j _
    rw [hblocks, micOutputSize, Session.input]
    congr 1
    ring
  have hroom : σ.graph.fifo0.Room (segment (s.input audio) (1600 * s.mics) 1600).length := by
    rw [Fifo.Room, hempty, length_segment]
    exact ⟨le_rfl, Or.inr (Nat.zero_le _)⟩
  obtain ⟨fifo0, hfifo0, hvalid, hcontents, -⟩ := Fifo.exists_write h.valid0 hroom
  refine ⟨{ σ with graph := { σ.graph with fifo0 := fifo0 }, blocks := σ.blocks + 1 },
    by rw [micRun, hcurrent, hfifo0]; rfl, ?_, rfl, rfl, rfl, ?_, ?_⟩
  · refine ⟨hvalid, ?_, h.valid1, ?_, h.gap1, ?_, ?_, ?_, ?_⟩
    · rw [hcontents, hempty, List.nil_append, hmics, hdsps, hdrained, Session.input_after]
      congr 1
      omega
    · rw [hdsps, hwins, Session.processed_after]
      exact h.contents1
    · rw [hdsps, Session.mDenAt_after]
      exact h.mDen
    · rw [hwins, Session.extended_after]
      exact h.memory
    · rw [hwins, Session.extended_after]
      exact h.window
    · rw [hmls]
      exact h.mFrameCount
  · show σ.blocks + 1 = _
    rw [hblocks, hmics, Nat.add_assoc]
  · intro t ht
    rw [s.windows_of_mls_eq p audio hmls]
    exact ht

/-- The noise reduction of a block that has been written. -/
theorem exists_preprocessRun (p : Preprocess S) {length b n : ℕ} {m m' : Memory Int16 length}
    {input : List Int16} (mDen : Option S) (hm : m.write b input = some m')
    (hn : input.length = n) :
    ∃ buffer, preprocessRun p mDen m' b n =
        some ((p.apply mDen input).1, buffer) ∧
      buffer.cells.take (b + n) = m.cells.take b ++ (p.apply mDen input).2 := by
  subst hn
  cases mDen with
  | none => exact ⟨m', rfl, Memory.take_write_end hm⟩
  | some den =>
    have hlength := p.length_run den input
    have hinside := Memory.le_of_write hm
    obtain ⟨buffer, hbuffer, -⟩ := m'.exists_write b (p.run den input).2 (by omega)
    refine ⟨buffer, ?_, ?_⟩
    · simp [preprocessRun, Memory.read_write_same hm, hbuffer, Preprocess.apply]
    · have hend := Memory.take_write_end hbuffer
      rwa [hlength, Memory.take_write hm] at hend

/-- A block is processed, from one FIFO to the other. -/
theorem exists_dspRun (h : Tracks p audio σ.graph s) (hnext : s.Next .dsp)
    (hblocks : σ.blocks = s.first + s.mics) :
    ∃ σ', dspRun p σ = some (0, σ') ∧ Ran p audio s σ σ' := by
  rcases hnext with - | ⟨hmics, hdsps, hwins, hmls, hread, hbefore, hfits⟩
  have hlength0 : dspInputSize ≤ σ.graph.fifo0.contents.length := by
    rw [h.contents0, length_segment, dspInputSize]
    omega
  have hinput : σ.graph.fifo0.mBuffer.read σ.graph.fifo0.readPos dspInputSize =
      some (segment (s.input audio) (320 * s.dsps) 320) := by
    rw [Fifo.read_mBuffer h.valid0 hlength0, h.contents0, dspInputSize, take_segment]
    omega
  have hlength1 : σ.graph.fifo1.contents.length = 320 * s.dsps - 16000 * s.wins := by
    rw [h.contents1, length_segment]
  have hroom : σ.graph.fifo1.Room dspInputSize := by
    refine ⟨by rw [hlength1, dspInputSize]; omega, h.gap1.imp_right fun hempty => ?_⟩
    rw [hempty]
    exact Nat.zero_le _
  obtain ⟨b, fifo1, hfifo1, hinside, hreadPos, hwritePos, hcells⟩ :=
    Fifo.exists_pxGetWriteBuffer h.valid1 hroom
  obtain ⟨m, hm, -⟩ := fifo1.mBuffer.exists_write b (segment (s.input audio) (320 * s.dsps) 320)
    (by rw [length_segment]; exact hinside)
  obtain ⟨buffer, hbuffer, hend⟩ :=
    exists_preprocessRun (n := dspInputSize) p σ.graph.mDen hm (length_segment _ _ _)
  -- what the two FIFOs hold afterwards
  have hblock : buffer.cells.take (b + dspInputSize) =
      segment (s.processed p audio) (16000 * s.wins) (320 * (s.dsps + 1) - 16000 * s.wins) := by
    rw [hend, hcells, h.mDen, h.contents1, show 320 * (s.dsps + 1) - 16000 * s.wins =
      (320 * s.dsps - 16000 * s.wins) + 320 by omega, segment_add, Nat.add_sub_of_le hbefore,
      Session.segment_processed]
    rfl
  obtain ⟨hvalid, hcontents⟩ := Fifo.contents_withBuffer hreadPos hwritePos hinside hblock
  refine ⟨{ σ with graph := { σ.graph with
      fifo0 := σ.graph.fifo0.advance dspInputSize
      fifo1 := fifo1.withBuffer buffer
      mDen := (p.apply σ.graph.mDen (segment (s.input audio) (320 * s.dsps) 320)).1 } },
    ?_, ?_, rfl, rfl, rfl, ?_, ?_⟩
  · simp only [dspRun, Fifo.pxGetReadBuffer_eq, hfifo1, Option.bind_eq_bind, Option.bind_some]
    rw [show (σ.graph.fifo0.advance dspInputSize).mBuffer = σ.graph.fifo0.mBuffer from rfl, hinput]
    simp only [Option.bind_some, hm, hbuffer]
    rfl
  · refine ⟨Fifo.valid_advance h.valid0 hlength0, ?_, hvalid, ?_, Or.inl hreadPos, ?_, ?_, ?_, ?_⟩
    · have hplace : 320 * (s.dsps + 1) = 320 * s.dsps + 320 := by ring
      have hrest : 1600 * s.mics - 320 * s.dsps - 320 =
          1600 * s.mics - (320 * s.dsps + 320) := by omega
      rw [hmics, hdsps, Session.input_after, hplace, ← hrest, ← drop_segment _ _ (by omega),
        ← h.contents0]
      exact Fifo.contents_advance 320
    · show (fifo1.withBuffer buffer).contents = _
      rw [hcontents, hdsps, hwins, Session.processed_after]
    · rw [hdsps, Session.mDenAt_after, Session.mDenAt, ← h.mDen]
    · rw [hwins, Session.extended_after]
      exact h.memory
    · rw [hwins, Session.extended_after]
      exact h.window
    · rw [hmls]
      exact h.mFrameCount
  · show σ.blocks = _
    rw [hblocks, hmics]
  · intro t ht
    rw [s.windows_of_mls_eq p audio hmls]
    exact ht

/-- The window moves on by the second that the FIFO holds. -/
theorem exists_audioWinRun (h : Tracks p audio σ.graph s) (hnext : s.Next .audioWin)
    (hblocks : σ.blocks = s.first + s.mics) :
    ∃ σ', audioWinRun σ = some (0, σ') ∧ Ran p audio s σ σ' := by
  rcases hnext with - | - | ⟨hmics, hdsps, hwins, hmls, hfull⟩
  have hhop : 47360 - 31360 = 16000 := rfl
  have hcontents1 : σ.graph.fifo1.contents =
      segment (s.processed p audio) (16000 * s.wins) 16000 := by
    rw [h.contents1, show 320 * s.dsps - 16000 * s.wins = 16000 by omega]
  have hnew : 47360 - 31360 ≤ σ.graph.fifo1.contents.length := by
    rw [hcontents1, length_segment, hhop]
  obtain ⟨memory, fifo1, fifo2, hrun, hwindow, hmemory, hvalid, hrest, -⟩ :=
    SlidingBuffer.exists_run σ.graph.memory (by decide) h.valid1 hnew σ.graph.fifo2
  -- the zeros and the processed samples are one signal
  have hsegment : fifo2.mBuffer.cells = segment (s.extended p audio) (16000 * s.wins) 47360 := by
    rw [hwindow, hhop, h.memory, hcontents1, take_segment _ _ le_rfl,
      ← Session.segment_extended, ← segment_add]
  have hempty : fifo1.contents = [] := by
    rw [hrest, hcontents1, hhop, drop_segment _ _ le_rfl, Nat.sub_self, segment_zero]
  refine ⟨{ σ with graph := { σ.graph with memory := memory, fifo1 := fifo1, fifo2 := fifo2 } },
    by rw [audioWinRun, hrun]; rfl, ?_, rfl, rfl, rfl, ?_, ?_⟩
  · refine ⟨h.valid0, ?_, hvalid, ?_, Or.inr hempty, ?_, ?_, ?_, ?_⟩
    · rw [hmics, hdsps, Session.input_after]
      exact h.contents0
    · rw [hdsps, hwins, hfull, Nat.sub_self, segment_zero]
      exact hempty
    · rw [hdsps, Session.mDenAt_after]
      exact h.mDen
    · have hplace : 16000 * (s.wins + 1) = 16000 * s.wins + 16000 := by ring
      show memory.cells = _
      rw [hmemory, hhop, hsegment, drop_segment _ _ (by decide), hwins, Session.extended_after,
        hplace]
    · intro _
      show fifo2.mBuffer.cells = _
      rw [hsegment, hwins, Session.extended_after, Nat.add_sub_cancel]
    · rw [hmls]
      exact h.mFrameCount
  · show σ.blocks = _
    rw [hblocks, hmics]
  · intro t ht
    rw [s.windows_of_mls_eq p audio hmls]
    exact ht

/-- A node that only touches the frame counter, or nothing, keeps the places. -/
theorem Tracks.of_ml (h : Tracks p audio σ.graph s) (hmics : s.after.mics = s.mics)
    (hdsps : s.after.dsps = s.dsps) (hwins : s.after.wins = s.wins) {mFrameCount : UInt32}
    (hcount : mFrameCount = UInt32.ofNat (min 2 s.after.mls)) :
    Tracks p audio { σ.graph with mFrameCount := mFrameCount } s.after where
  valid0 := h.valid0
  contents0 := by
    rw [hmics, hdsps, Session.input_after]
    exact h.contents0
  valid1 := h.valid1
  contents1 := by
    rw [hdsps, hwins, Session.processed_after]
    exact h.contents1
  gap1 := h.gap1
  mDen := by
    rw [hdsps, Session.mDenAt_after]
    exact h.mDen
  memory := by
    rw [hwins, Session.extended_after]
    exact h.memory
  window := by
    rw [hwins, Session.extended_after]
    exact h.window
  mFrameCount := hcount

/-- The window is handed over from the third call on. -/
theorem exists_mlRun (h : Tracks p audio σ.graph s) (hnext : s.Next .ml)
    (hblocks : σ.blocks = s.first + s.mics) :
    ∃ σ', mlRun σ = some (0, σ') ∧ Ran p audio s σ σ' := by
  rcases hnext with - | - | - | ⟨hmics, hdsps, hwins, hmls, hwin⟩
  have hblocks' : σ.blocks = s.first + s.after.mics := by rw [hblocks, hmics]
  have hcount := h.mFrameCount
  by_cases hfew : s.mls < 2
  · have hlt : σ.graph.mFrameCount < 2 := by
      rw [hcount]
      interval_cases s.mls <;> decide
    have hnextCount : σ.graph.mFrameCount + 1 = UInt32.ofNat (min 2 s.after.mls) := by
      rw [hcount, hmls]
      interval_cases s.mls <;> decide
    refine ⟨{ σ with graph := { σ.graph with mFrameCount := σ.graph.mFrameCount + 1 } },
      ?_, h.of_ml hmics hdsps hwins hnextCount, rfl, rfl, rfl, hblocks', ?_⟩
    · simp only [mlRun, if_pos hlt]
      rfl
    · intro t ht
      rw [s.windows_of_lt p audio hmls hfew]
      exact ht
  · have hle : 2 ≤ s.mls := not_lt.mp hfew
    have hcount2 : σ.graph.mFrameCount = 2 := by
      rw [hcount, Nat.min_eq_left hle]
      rfl
    have hnotlt : ¬ σ.graph.mFrameCount < 2 := by
      rw [hcount2]
      decide
    have hwindow : σ.graph.fifo2.mBuffer.read 0 47360 =
        some (segment (s.extended p audio) (16000 * s.mls) 47360) := by
      have hcells := h.window (by omega)
      rw [hwin, Nat.add_sub_cancel] at hcells
      exact σ.graph.fifo2.mBuffer.read_all.trans (congrArg some hcells)
    have hsame : Tracks p audio σ.graph s.after := by
      have hcount' : σ.graph.mFrameCount = UInt32.ofNat (min 2 s.after.mls) := by
        rw [hcount2, hmls, Nat.min_eq_left (by omega)]
        rfl
      exact h.of_ml hmics hdsps hwins hcount'
    refine ⟨{ σ with
        handed := σ.handed ++ [segment (s.extended p audio) (16000 * s.mls) 47360] },
      ?_, hsame, rfl, rfl, rfl, hblocks', ?_⟩
    · have hread : σ.graph.fifo2.pxGetReadBuffer 47360 = (0, σ.graph.fifo2) := rfl
      simp only [mlRun, hread, if_neg hnotlt, hwindow]
      rfl
    · intro t ht
      rw [s.windows_of_le p audio hmls hle, ← List.append_assoc, ← ht]

/-- **A node.** The node that the schedule has next stays inside the arrays, and
    the graph follows the session. -/
theorem exists_nodeRun (h : Tracks p audio σ.graph s) (hblocks : σ.blocks = s.first + s.mics) :
    ∃ node σ', schedule[s.nodes % 62]? = some node ∧ nodeRun p audio node σ = some (0, σ') ∧
      Ran p audio s σ σ' := by
  obtain ⟨node, hnode, hnext⟩ := s.exists_next
  have hrun : ∃ σ', nodeRun p audio node σ = some (0, σ') ∧ Ran p audio s σ σ' := by
    cases node with
    | mic => exact exists_micRun h hnext hblocks
    | dsp => exact exists_dspRun h hnext hblocks
    | audioWin => exact exists_audioWinRun h hnext hblocks
    | ml => exact exists_mlRun h hnext hblocks
  obtain ⟨σ', hσ', hran⟩ := hrun
  exact ⟨node, σ', hnode, hσ', hran⟩

/-- A session that has run no node. -/
theorem counts_new (first : ℕ) (mDen : Option S) :
    (⟨first, mDen, 0⟩ : Session S).mics = 0 ∧ (⟨first, mDen, 0⟩ : Session S).dsps = 0 ∧
      (⟨first, mDen, 0⟩ : Session S).wins = 0 ∧ (⟨first, mDen, 0⟩ : Session S).mls = 0 := by
  simp [Session.mics, Session.dsps, Session.wins, Session.mls, Session.rest]

/-- A new graph is at the start of a session. -/
theorem tracks_new (buf0 : Memory Int16 1600) (buf1 : Memory Int16 16000)
    (buf2 : Memory Int16 47360) (mDen : Option S) (first : ℕ) :
    Tracks p audio (Graph.new buf0 buf1 buf2 mDen) ⟨first, mDen, 0⟩ := by
  obtain ⟨hmics, hdsps, hwins, hmls⟩ := counts_new first mDen
  refine ⟨Fifo.valid_new buf0, ?_, Fifo.valid_new buf1, ?_, Or.inl rfl, ?_, ?_, ?_, ?_⟩
  · rw [hmics, hdsps, segment_zero]
    exact Fifo.contents_new buf0
  · rw [hdsps, hwins, segment_zero]
    exact Fifo.contents_new buf1
  · rw [hdsps]
    rfl
  · rw [hwins]
    exact (segment_padded_start _ _ _).symm
  · exact fun hne => absurd hwins hne
  · rw [hmls]
    rfl

/-! ## Runs -/

/-- The DSP task is where its sessions are. -/
structure Follows (p : Preprocess S) (audio : ℕ → Int16) (σ : System S) (τ : Sessions S) :
    Prop where
  started : σ.started = τ.started
  blocks : σ.blocks = τ.blocks
  handed : σ.handed = τ.all.flatMap fun s => s.windows p audio
  returned : σ.returned = τ.past.map fun s => (0, UInt32.ofNat ((s.nodes - 1) / 62))
  idle : τ.current = none → σ.next = none
  busy : ∀ s, τ.current = some s → σ.next = some (s.nodes % 62) ∧ Tracks p audio σ.graph s ∧
    σ.blocks = s.first + s.mics ∧ σ.graph.nbSchedule = UInt32.ofNat (s.nodes / 62)

theorem follows_init : Follows p audio init Sessions.init where
  started := rfl
  blocks := rfl
  handed := rfl
  returned := rfl
  idle _ := rfl
  busy _ h := Option.noConfusion rfl (heq_of_eq h)

variable {τ : Sessions S}

/-- The task is launched. -/
theorem follows_launch (h : Follows p audio σ τ) (mDen : Option S) :
    ∃ σ', step p audio σ (.launch mDen) = some σ' ∧
      Follows p audio σ' (τ.step (.launch mDen)) := by
  cases hcurrent : τ.current with
  | some s =>
    have hnext := (h.busy s hcurrent).1
    refine ⟨σ, by simp [step, hnext], ?_⟩
    rw [Sessions.step, if_neg (by simp [hcurrent])]
    exact h
  | none =>
    have hnext := h.idle hcurrent
    cases hstarted : τ.started with
    | false =>
      have hstarted' := h.started.trans hstarted
      refine ⟨σ, by simp [step, hstarted'], ?_⟩
      rw [Sessions.step, if_neg (by simp [hstarted])]
      exact h
    | true =>
      have hstarted' := h.started.trans hstarted
      refine ⟨_, by rw [step, if_pos ⟨hnext, hstarted'⟩], ?_⟩
      rw [Sessions.step, if_pos ⟨by rw [hcurrent]; rfl, hstarted⟩]
      refine ⟨h.started, h.blocks, ?_, h.returned, fun hnone => ?_, ?_⟩
      · have hhanded := h.handed
        rw [Sessions.all, hcurrent, Option.toList_none, List.append_nil] at hhanded
        show σ.handed = (τ.past ++ [_]).flatMap _
        rw [List.flatMap_append, hhanded, List.flatMap_singleton, Session.windows,
          (counts_new τ.blocks mDen).2.2.2]
        exact (List.append_nil _).symm
      · exact absurd hnone (by simp)
      · rintro s hs
        obtain rfl := Option.some.inj hs
        refine ⟨rfl, tracks_new _ _ _ mDen _, ?_, ?_⟩
        · show σ.blocks = τ.blocks + _
          rw [(counts_new τ.blocks mDen).1]
          exact h.blocks
        · show (0 : UInt32) = UInt32.ofNat (0 / 62)
          decide

/-- A node runs, and the task goes on or leaves `ulScheduler`. -/
theorem follows_node (h : Follows p audio σ τ) :
    ∃ σ', step p audio σ .node = some σ' ∧ Follows p audio σ' (τ.step .node) := by
  cases hcurrent : τ.current with
  | none =>
    refine ⟨σ, by simp [step, h.idle hcurrent], ?_⟩
    simpa only [Sessions.step, hcurrent] using h
  | some s =>
    obtain ⟨hnext, htracks, hblocks, hcount⟩ := h.busy s hcurrent
    obtain ⟨node, σ', hnode, hσ', hran⟩ := exists_nodeRun htracks hblocks
    refine ⟨proceed (s.nodes % 62) 0 σ', by simp [step, hnext, hnode, hσ'], ?_⟩
    have hhanded : σ'.handed =
        (τ.past.flatMap fun s => s.windows p audio) ++ s.after.windows p audio := by
      apply hran.handed
      rw [h.handed, Sessions.all, hcurrent, Option.toList_some, List.flatMap_append,
        List.flatMap_singleton]
    have hstarted := hran.started.trans h.started
    have hcount' := hran.nbSchedule.trans hcount
    have hlength : schedule.length = 62 := by decide
    simp only [Sessions.step, hcurrent]
    cases hτ : τ.started with
    | false =>
      rw [hτ] at hstarted
      have hleave : proceed (s.nodes % 62) 0 σ' = leave 0 σ' := by
        rw [proceed, if_neg (by decide), if_pos hstarted]
      rw [hleave, if_neg (by decide)]
      refine ⟨hstarted, hran.blocks, ?_, ?_, fun _ => rfl, fun _ hs => ?_⟩
      · show σ'.handed = ((τ.past ++ [s.after]) ++ []).flatMap _
        rw [List.append_nil, List.flatMap_append, List.flatMap_singleton, hhanded]
      · show σ'.returned ++ [(0, σ'.graph.nbSchedule)] = (τ.past ++ [s.after]).map _
        rw [List.map_append, hran.returned, h.returned, hcount']
        rfl
      · exact absurd hs (by simp)
    | true =>
      rw [hτ] at hstarted
      rw [if_pos rfl]
      have hnotstopped : ¬ σ'.started = false := by
        rw [hstarted]
        decide
      by_cases hlast : s.nodes % 62 + 1 < 62
      · have hproceed : proceed (s.nodes % 62) 0 σ' =
            { σ' with next := some (s.nodes % 62 + 1) } := by
          rw [proceed, if_neg (by decide), if_neg hnotstopped,
            if_pos (by rw [hlength]; exact hlast)]
        rw [hproceed]
        refine ⟨hstarted, hran.blocks, ?_, ?_, fun hnone => ?_, ?_⟩
        · show σ'.handed = (τ.past ++ [s.after]).flatMap _
          rw [List.flatMap_append, List.flatMap_singleton, hhanded]
        · exact hran.returned.trans h.returned
        · exact absurd hnone (by simp)
        · rintro t ht
          obtain rfl := Option.some.inj ht
          refine ⟨congrArg some ?_, hran.tracks, hran.blocks, hcount'.trans ?_⟩
          · show s.nodes % 62 + 1 = (s.nodes + 1) % 62
            omega
          · show UInt32.ofNat (s.nodes / 62) = UInt32.ofNat ((s.nodes + 1) / 62)
            congr 1
            omega
      · have hproceed : proceed (s.nodes % 62) 0 σ' =
            { σ' with
              graph := { σ'.graph with nbSchedule := σ'.graph.nbSchedule + 1 }
              next := some 0 } := by
          rw [proceed, if_neg (by decide), if_neg hnotstopped,
            if_neg (by rw [hlength]; exact hlast)]
          rfl
        rw [hproceed]
        refine ⟨hstarted, hran.blocks, ?_, ?_, fun hnone => ?_, ?_⟩
        · show σ'.handed = (τ.past ++ [s.after]).flatMap _
          rw [List.flatMap_append, List.flatMap_singleton, hhanded]
        · exact hran.returned.trans h.returned
        · exact absurd hnone (by simp)
        · rintro t ht
          obtain rfl := Option.some.inj ht
          have htracks' := hran.tracks
          refine ⟨congrArg some ?_, ⟨htracks'.valid0, htracks'.contents0, htracks'.valid1,
            htracks'.contents1, htracks'.gap1, htracks'.mDen, htracks'.memory, htracks'.window,
            htracks'.mFrameCount⟩, hran.blocks, ?_⟩
          · show 0 = (s.nodes + 1) % 62
            omega
          · show σ'.graph.nbSchedule + 1 = UInt32.ofNat ((s.nodes + 1) / 62)
            rw [hcount', show (s.nodes + 1) / 62 = s.nodes / 62 + 1 by omega, UInt32.ofNat_add]
            rfl

/-- Every event has a result, and the task goes on following its sessions. -/
theorem follows_step (h : Follows p audio σ τ) (e : Event S) :
    ∃ σ', step p audio σ e = some σ' ∧ Follows p audio σ' (τ.step e) := by
  cases e with
  | vDspStart => exact ⟨_, rfl, { h with started := rfl }⟩
  | vDspStop => exact ⟨_, rfl, { h with started := rfl }⟩
  | launch mDen => exact follows_launch h mDen
  | node => exact follows_node h

end Simulation

/-- The state after an event, if all accesses so far were inside the arrays. -/
def stepOption {S : Type} (p : Preprocess S) (audio : ℕ → Int16) (σ : Option (System S))
    (e : Event S) : Option (System S) := σ.bind fun σ => step p audio σ e

/-- **The audio graph.** In every order of starts, stops, launches and nodes, no
    access leaves an array and no `memcpy` overlaps. The ML task is handed the
    windows of the sessions, and each session reports the complete iterations
    before its last node. -/
theorem run_eq_sessions {S : Type} (p : Preprocess S) (audio : ℕ → Int16) (es : List (Event S)) :
    ∃ σ, run (stepOption p audio) (some init) es = some σ ∧
      σ.handed = (run Sessions.step Sessions.init es).all.flatMap (fun s => s.windows p audio) ∧
      σ.returned = (run Sessions.step Sessions.init es).past.map
        (fun s => (0, UInt32.ofNat ((s.nodes - 1) / 62))) ∧
      σ.blocks = (run Sessions.step Sessions.init es).blocks := by
  have hsim : ∃ σ, run (stepOption p audio) (some init) es = some σ ∧
      Follows p audio σ (run Sessions.step Sessions.init es) := by
    apply run_sim (R := fun (o : Option (System S)) τ => ∃ σ, o = some σ ∧ Follows p audio σ τ)
    · rintro _ τ e ⟨σ, rfl, hσ⟩
      exact follows_step hσ e
    · exact ⟨init, rfl, follows_init⟩
  obtain ⟨σ, hσ, hfollows⟩ := hsim
  exact ⟨σ, hσ, hfollows.handed, hfollows.returned, hfollows.blocks⟩

end Corstone.SpeechRecognition
