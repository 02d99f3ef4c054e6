import Corstone.ObjectDetection.DisplayGate

/-!
# The border tile of a detection

Models of the rest of `prvHandleDownscaledFrame` and of `prvDrawFrameOnTile` (`isp_config.c`,
lines 246–304 and 384–416): the region of a detection in the full-resolution frame and the tile that
is filled for it in `ucBorderTileBuffer`. The width and the height are bounded from below, not from
above. A `float` that holds an integer is this integer. The drawing itself is left out.

* `toFloat_of_lt`: the integers that occur are exact.
* `frameRegion_eq`: the region of a detection inside the frame.
* `tile_fits_iff`: its tile fits into the buffer iff the area of the detection, times both factors,
  does.
* `all_tiles_fit_iff`: the largest detection is the whole frame.
* `whole_frame`: one that does not fit.
-/

namespace Corstone.ObjectDetection.BorderTile

open DisplayGate (Frame LastFrame maxInferFrameSize)

/-! ## Numbers -/

/-- A natural number rounded to 24 significant bits, to nearest and ties to even. -/
def roundSignificand (n : ℕ) : ℕ :=
  let ulp := 2 ^ (n.log2 - 23)
  if 2 * (n % ulp) < ulp ∨ (2 * (n % ulp) = ulp ∧ n / ulp % 2 = 0) then n / ulp * ulp
  else (n / ulp + 1) * ulp

/-- An integer as a `float`. -/
def toFloat (z : ℤ) : ℤ := z.sign * roundSignificand z.natAbs

/-- A `float` as an `int16_t`, which is not defined out of its range. -/
def toInt16? (z : ℤ) : Option ℤ := if -2 ^ 15 ≤ z ∧ z < 2 ^ 15 then some z else none

/-- The integers below `2 ^ 24` are exact. -/
theorem roundSignificand_of_lt {n : ℕ} (hn : n < 2 ^ 24) : roundSignificand n = n := by
  have hlog : n.log2 - 23 = 0 := by
    rcases Nat.eq_zero_or_pos n with rfl | hpos
    · rfl
    · have := (Nat.log2_lt (by omega)).mpr hn
      omega
  unfold roundSignificand
  dsimp only
  rw [hlog, pow_zero, Nat.mod_one, Nat.div_one, mul_one]
  exact if_pos (.inl (by omega))

theorem toFloat_of_lt {n : ℕ} (hn : n < 2 ^ 24) : toFloat n = n := by
  unfold toFloat
  rw [Int.natAbs_natCast, roundSignificand_of_lt hn]
  rcases Nat.eq_zero_or_pos n with rfl | hpos
  · rfl
  · rw [Int.sign_eq_one_of_pos (by omega), one_mul]

/-! ## The tiles -/

/-- `DetectRegion_t`. -/
structure DetectRegion where
  ulX : UInt32
  ulY : UInt32
  ulW : UInt32
  ulH : UInt32
  deriving DecidableEq

/-- `arm_2d_region_t`, with the fields of `tLocation` and `tSize`. -/
structure Arm2dRegion where
  iX : ℤ
  iY : ℤ
  iWidth : ℤ
  iHeight : ℤ
  deriving DecidableEq

/-- `hdlcd_pixel_format`, without the format that is not supported. -/
inductive PixelFormat
  | rgb565 | rgb32 | a2r10g10b10
  deriving DecidableEq

/-- `HDLCD_MODES[ eFormat ].bytes_per_pixel`. -/
def PixelFormat.bytesPerPixel : PixelFormat → ℕ
  | .rgb565 => 2
  | .rgb32 => 4
  | .a2r10g10b10 => 4

/-- `isp_configHIGHLIGHTED_FRAME_WIDTH`. -/
def highlightedFrameWidth : ℤ := 2

/-- `isp_configBORDER_BUFFER_SIZE`. -/
def borderBufferSize : ℕ := 320 * 240 * 4

/-- `xBorderTile`, whose buffer is `ucBorderTileBuffer`, and `xBlendRegion`. -/
structure Tile where
  iWidth : ℤ
  iHeight : ℤ
  eFormat : PixelFormat
  xBlendRegion : Arm2dRegion
  deriving DecidableEq

/-- The tile of `prvDrawFrameOnTile` for `pxFrame`. -/
def prvDrawFrameOnTile (pxFrame : Arm2dRegion) (eFormat : PixelFormat) : Tile where
  iWidth := pxFrame.iWidth
  iHeight := pxFrame.iHeight
  eFormat := eFormat
  xBlendRegion :=
    { iX := highlightedFrameWidth
      iY := highlightedFrameWidth
      iWidth := (pxFrame.iWidth - 2 * highlightedFrameWidth).bmod (2 ^ 16)
      iHeight := (pxFrame.iHeight - 2 * highlightedFrameWidth).bmod (2 ^ 16) }

/-- The factor of a length in the frame to the one of the full resolution. -/
def upscale (full part : UInt32) : ℤ := toFloat (full / part).toNat

/-- `( int ) ulLength * xUpscale`. -/
def scaled (ulLength : UInt32) (xUpscale : ℤ) : ℤ :=
  toFloat (toFloat ulLength.toBitVec.toInt * xUpscale)

/-- The lower bound of a width or a height. -/
def atLeastBorder (size : ℤ) : ℤ :=
  if size < highlightedFrameWidth * 3 then highlightedFrameWidth * 3 else size

/-- `xFrameRegion` for a result of the inference. -/
def frameRegion (xUpscaleWidth xUpscaleHeight : ℤ) (result : DetectRegion) :
    Option Arm2dRegion := do
  let iWidth ← toInt16? (scaled result.ulW xUpscaleWidth)
  let iHeight ← toInt16? (scaled result.ulH xUpscaleHeight)
  let iX ← toInt16? (scaled result.ulX xUpscaleWidth)
  let iY ← toInt16? (scaled result.ulY xUpscaleHeight)
  return { iX, iY, iWidth := atLeastBorder iWidth, iHeight := atLeastBorder iHeight }

/-- The tiles that `prvHandleDownscaledFrame` draws for the results of the inference; `none` where
    a division or a conversion is not defined. -/
def prvHandleDownscaledFrame (s : LastFrame) (frame : Frame) (xResults : List DetectRegion) :
    Option (List Tile) :=
  if frame.ulWidth = 0 ∨ frame.ulHeight = 0 then none
  else
    let xUpscaleWidth := upscale s.ulWidth frame.ulWidth
    let xUpscaleHeight := upscale s.ulHeight frame.ulHeight
    if frame.ulWidth * frame.ulHeight > maxInferFrameSize then some []
    else xResults.mapM fun result =>
      (frameRegion xUpscaleWidth xUpscaleHeight result).map fun xFrameRegion =>
        prvDrawFrameOnTile xFrameRegion .rgb565

/-! ## The purpose -/

/-- The tile fits into its buffer, and its inner region has a positive width and height. -/
def Tile.Fits (t : Tile) : Prop :=
  t.iWidth * t.iHeight * t.eFormat.bytesPerPixel ≤ borderBufferSize ∧
    0 < t.xBlendRegion.iWidth ∧ 0 < t.xBlendRegion.iHeight

/-- A frame that has pixels, at most 192 times 192. -/
def Inferable (frame : Frame) : Prop :=
  0 < frame.ulWidth.toNat ∧ 0 < frame.ulHeight.toNat ∧
    frame.ulWidth.toNat * frame.ulHeight.toNat ≤ 192 * 192

/-- The last full-resolution frame has at most 2048 times 1080 pixels. -/
def Displayable (s : LastFrame) : Prop := s.ulWidth.toNat ≤ 2048 ∧ s.ulHeight.toNat ≤ 1080

/-- The detection lies inside the frame. -/
def DetectRegion.Inside (box : DetectRegion) (frame : Frame) : Prop :=
  box.ulX.toNat + box.ulW.toNat ≤ frame.ulWidth.toNat ∧
    box.ulY.toNat + box.ulH.toNat ≤ frame.ulHeight.toNat

/-- Both factors together. -/
def areaFactor (s : LastFrame) (frame : Frame) : ℕ :=
  (s.ulWidth.toNat / frame.ulWidth.toNat) * (s.ulHeight.toNat / frame.ulHeight.toNat)

/-- The area of the detection, in pixels of the full resolution, fits into the buffer. -/
def AreaFits (s : LastFrame) (frame : Frame) (box : DetectRegion) : Prop :=
  box.ulW.toNat * box.ulH.toNat * areaFactor s frame * PixelFormat.rgb565.bytesPerPixel ≤
    borderBufferSize

section Region

variable {s : LastFrame} {frame : Frame} {box : DetectRegion}

theorem toInt16?_of_lt {n : ℕ} (hn : n < 2 ^ 15) : toInt16? n = some (n : ℤ) :=
  if_pos ⟨by omega, by omega⟩

theorem toInt_toBitVec {u : UInt32} (hu : u.toNat < 2 ^ 31) : u.toBitVec.toInt = u.toNat :=
  BitVec.toInt_eq_toNat_of_lt (by
    show 2 * u.toNat < 2 ^ 32
    omega)

/-- A length of the frame in pixels of the full resolution. -/
def upscaled (full part u : UInt32) : ℕ := u.toNat * (full.toNat / part.toNat)

theorem upscaled_le {full part u : UInt32} (hu : u.toNat ≤ part.toNat) :
    upscaled full part u ≤ full.toNat :=
  (Nat.mul_le_mul_right _ hu).trans (Nat.mul_div_le _ _)

/-- It is computed exactly. -/
theorem scaled_eq {full part u : UInt32} (hfull : full.toNat ≤ 2048) (hu : u.toNat ≤ part.toNat)
    (hpart : part.toNat ≤ 192 * 192) : scaled u (upscale full part) = upscaled full part u := by
  have hfactor : full.toNat / part.toNat ≤ full.toNat := Nat.div_le_self _ _
  have hle : upscaled full part u ≤ full.toNat := upscaled_le hu
  have hupscale : upscale full part = (full.toNat / part.toNat : ℕ) := by
    unfold upscale
    rw [UInt32.toNat_div, toFloat_of_lt (by omega)]
  unfold scaled upscaled at *
  rw [hupscale, toInt_toBitVec (by omega), toFloat_of_lt (by omega), ← Nat.cast_mul,
    toFloat_of_lt (by omega)]

theorem toInt16?_scaled {full part u : UInt32} (hfull : full.toNat ≤ 2048)
    (hu : u.toNat ≤ part.toNat) (hpart : part.toNat ≤ 192 * 192) :
    toInt16? (scaled u (upscale full part)) = some (upscaled full part u : ℤ) := by
  have hle : upscaled full part u ≤ full.toNat := upscaled_le hu
  rw [scaled_eq hfull hu hpart, toInt16?_of_lt (by omega)]

theorem atLeastBorder_natCast (n : ℕ) : atLeastBorder n = (max 6 n : ℕ) := by
  unfold atLeastBorder highlightedFrameWidth
  split_ifs with hn
  · omega
  · omega

/-- Each side of a frame has at most as many pixels as the frame. -/
theorem Inferable.sides_le (h : Inferable frame) :
    frame.ulWidth.toNat ≤ 192 * 192 ∧ frame.ulHeight.toNat ≤ 192 * 192 := by
  obtain ⟨hwidth, hheight, harea⟩ := h
  exact ⟨(Nat.le_mul_of_pos_right _ hheight).trans harea,
    (Nat.le_mul_of_pos_left _ hwidth).trans harea⟩

/-- The fields of a detection inside a frame are sides of the frame at most. -/
theorem DetectRegion.Inside.le (h : box.Inside frame) :
    (box.ulX.toNat ≤ frame.ulWidth.toNat ∧ box.ulY.toNat ≤ frame.ulHeight.toNat) ∧
      box.ulW.toNat ≤ frame.ulWidth.toNat ∧ box.ulH.toNat ≤ frame.ulHeight.toNat := by
  obtain ⟨hx, hy⟩ := h
  omega

/-- The region of a detection inside the frame. -/
def regionOf (s : LastFrame) (frame : Frame) (box : DetectRegion) : Arm2dRegion where
  iX := upscaled s.ulWidth frame.ulWidth box.ulX
  iY := upscaled s.ulHeight frame.ulHeight box.ulY
  iWidth := (max 6 (upscaled s.ulWidth frame.ulWidth box.ulW) : ℕ)
  iHeight := (max 6 (upscaled s.ulHeight frame.ulHeight box.ulH) : ℕ)

theorem frameRegion_eq (hframe : Inferable frame) (hs : Displayable s) (hbox : box.Inside frame) :
    frameRegion (upscale s.ulWidth frame.ulWidth) (upscale s.ulHeight frame.ulHeight) box =
      some (regionOf s frame box) := by
  obtain ⟨hwidth, hheight⟩ := hframe.sides_le
  obtain ⟨hfullWidth, hfullHeight⟩ := hs
  obtain ⟨⟨hx, hy⟩, hw, hh⟩ := hbox.le
  unfold frameRegion
  rw [toInt16?_scaled hfullWidth hw hwidth, toInt16?_scaled (by omega) hh hheight,
    toInt16?_scaled hfullWidth hx hwidth, toInt16?_scaled (by omega) hy hheight]
  simp only [Option.bind_eq_bind, Option.bind_some, atLeastBorder_natCast]
  rfl

theorem bmod_inner {n : ℕ} (hn : n < 2 ^ 15) :
    ((max 6 n : ℕ) - 2 * highlightedFrameWidth : ℤ).bmod (2 ^ 16) = (max 6 n : ℕ) - 4 := by
  unfold highlightedFrameWidth
  exact Int.bmod_eq_of_le (by omega) (by omega)

/-- A side that the lower bound replaces is so short that the tile fits in any case. -/
theorem max_mul_max_le_iff {w h : ℕ} (hw : w ≤ 2048) (hh : h ≤ 1080) :
    max 6 w * max 6 h * 2 ≤ borderBufferSize ↔ w * h * 2 ≤ borderBufferSize := by
  have hsize : borderBufferSize = 307200 := rfl
  have hle : ∀ a b : ℕ, a ≤ 6 → b ≤ 2048 → a * b ≤ 6 * 2048 := fun a b => Nat.mul_le_mul
  rcases Nat.lt_or_ge w 6 with hshort | hlong
  · have hmax : max 6 w = 6 := by omega
    have htile := hle 6 (max 6 h) le_rfl (by omega)
    have harea := hle w h (by omega) (by omega)
    rw [hmax]
    omega
  · rcases Nat.lt_or_ge h 6 with hflat | htall
    · have hmax : max 6 h = 6 := by omega
      have htile := hle 6 (max 6 w) le_rfl (by omega)
      have harea := hle h w (by omega) (by omega)
      rw [hmax, Nat.mul_comm (max 6 w), Nat.mul_comm w]
      omega
    · rw [Nat.max_eq_right hlong, Nat.max_eq_right htall]

/-- The tile of a detection inside the frame. -/
theorem fits_tile_iff (hs : Displayable s) (hbox : box.Inside frame) :
    (prvDrawFrameOnTile (regionOf s frame box) .rgb565).Fits ↔ AreaFits s frame box := by
  obtain ⟨-, hw, hh⟩ := hbox.le
  have hwidth := (upscaled_le hw).trans hs.1
  have hheight := (upscaled_le hh).trans hs.2
  have harea : AreaFits s frame box ↔ upscaled s.ulWidth frame.ulWidth box.ulW *
      upscaled s.ulHeight frame.ulHeight box.ulH * 2 ≤ borderBufferSize := by
    unfold AreaFits areaFactor upscaled
    rw [mul_mul_mul_comm]
    rfl
  rw [harea, ← max_mul_max_le_iff hwidth hheight]
  unfold Tile.Fits prvDrawFrameOnTile regionOf
  dsimp only
  rw [bmod_inner (by omega), bmod_inner (by omega)]
  constructor
  · rintro ⟨hbytes, -, -⟩
    exact_mod_cast hbytes
  · intro hbytes
    refine ⟨by exact_mod_cast hbytes, ?_, ?_⟩
    · omega
    · omega

/-- The tiles for detections that lie inside the frame. -/
theorem prvHandleDownscaledFrame_eq {xResults : List DetectRegion} (hframe : Inferable frame)
    (hs : Displayable s) (hinside : ∀ box ∈ xResults, box.Inside frame) :
    prvHandleDownscaledFrame s frame xResults =
      some (xResults.map fun box => prvDrawFrameOnTile (regionOf s frame box) .rgb565) := by
  have hdivisions : ¬ (frame.ulWidth = 0 ∨ frame.ulHeight = 0) := by
    rintro (h | h)
    · exact absurd hframe.1 (by simp [h])
    · exact absurd hframe.2.1 (by simp [h])
  have hsmall : ¬ frame.ulWidth * frame.ulHeight > maxInferFrameSize := by
    have harea := hframe.2.2
    rw [gt_iff_lt, UInt32.lt_iff_toNat_lt, UInt32.toNat_mul, Nat.mod_eq_of_lt (by omega), not_lt]
    exact harea
  unfold prvHandleDownscaledFrame
  rw [if_neg hdivisions]
  dsimp only
  rw [if_neg hsmall]
  induction xResults with
  | nil => rfl
  | cons box xResults ih =>
    obtain ⟨hbox, hrest⟩ := List.forall_mem_cons.mp hinside
    rw [List.mapM_cons, ih hrest, frameRegion_eq hframe hs hbox]
    rfl

end Region

/-! ## The buffer -/

/-- **The border tile and its buffer.** For detections inside an inference frame of at most 192
    times 192 pixels the region of each is defined, and its tile fits into the buffer, with an inner
    region that is not empty, iff the area of the detection in full resolution does. -/
theorem tile_fits_iff (s : LastFrame) (frame : Frame) (xResults : List DetectRegion)
    (hframe : Inferable frame) (hs : Displayable s)
    (hinside : ∀ box ∈ xResults, box.Inside frame) :
    ∃ tiles, prvHandleDownscaledFrame s frame xResults = some tiles ∧
      List.Forall₂ (fun box tile => tile.Fits ↔ AreaFits s frame box) xResults tiles := by
  refine ⟨_, prvHandleDownscaledFrame_eq hframe hs hinside, ?_⟩
  rw [List.forall₂_map_right_iff, List.forall₂_same]
  intro box hbox
  exact fits_tile_iff hs (hinside box hbox)

/-- A detection of 100 times 100 pixels, three times as large on the display. -/
theorem tile_fits_iff_hundred :
    ∃ tiles, prvHandleDownscaledFrame ⟨1, 0, 0, 640, 480⟩ ⟨0, 192, 192, 0, 1⟩ [⟨10, 10, 100, 100⟩] =
        some tiles ∧
      List.Forall₂ (fun box tile => tile.Fits ↔
        AreaFits ⟨1, 0, 0, 640, 480⟩ ⟨0, 192, 192, 0, 1⟩ box) [⟨10, 10, 100, 100⟩] tiles :=
  tile_fits_iff _ _ _ ⟨by decide, by decide, by decide⟩ ⟨by decide, by decide⟩ (by
    rintro box hbox
    obtain rfl := List.mem_singleton.mp hbox
    exact ⟨by decide, by decide⟩)

/-- All tiles of a frame fit iff the one of a detection of the whole frame does. -/
theorem all_tiles_fit_iff (s : LastFrame) (frame : Frame) (hframe : Inferable frame)
    (hs : Displayable s) :
    (∀ xResults : List DetectRegion, (∀ box ∈ xResults, box.Inside frame) →
      ∀ tiles, prvHandleDownscaledFrame s frame xResults = some tiles → ∀ tile ∈ tiles, tile.Fits) ↔
      AreaFits s frame ⟨0, 0, frame.ulWidth, frame.ulHeight⟩ := by
  have hwhole : DetectRegion.Inside ⟨0, 0, frame.ulWidth, frame.ulHeight⟩ frame :=
    ⟨(Nat.zero_add _).le, (Nat.zero_add _).le⟩
  constructor
  · intro h
    have hinside : ∀ box ∈ [(⟨0, 0, frame.ulWidth, frame.ulHeight⟩ : DetectRegion)],
        box.Inside frame := fun box hbox => by
      obtain rfl := List.mem_singleton.mp hbox
      exact hwhole
    have hfits := h _ hinside _ (prvHandleDownscaledFrame_eq hframe hs hinside)
    exact (fits_tile_iff hs hwhole).mp (hfits _ (List.mem_cons_self))
  · intro harea xResults hinside tiles htiles tile htile
    obtain rfl := Option.some_injective _
      ((prvHandleDownscaledFrame_eq hframe hs hinside).symm.trans htiles)
    obtain ⟨box, hbox, rfl⟩ := List.mem_map.mp htile
    obtain ⟨-, hw, hh⟩ := (hinside box hbox).le
    rw [fits_tile_iff hs (hinside box hbox)]
    have hle := Nat.mul_le_mul hw hh
    exact (Nat.mul_le_mul_right _ (Nat.mul_le_mul_right _ hle)).trans harea

/-- A detection of the whole frame of 192 times 192 pixels needs 1920 times 960 pixels on a display
    of 2048 times 1080. -/
theorem whole_frame :
    Inferable ⟨0, 192, 192, 0, 1⟩ ∧ Displayable ⟨1, 0, 0, 2048, 1080⟩ ∧
    DetectRegion.Inside ⟨0, 0, 192, 192⟩ ⟨0, 192, 192, 0, 1⟩ ∧
    ∃ tile, prvHandleDownscaledFrame ⟨1, 0, 0, 2048, 1080⟩ ⟨0, 192, 192, 0, 1⟩ [⟨0, 0, 192, 192⟩] =
        some [tile] ∧ tile.iWidth = 1920 ∧ tile.iHeight = 960 ∧ ¬ tile.Fits := by
  refine ⟨⟨by decide, by decide, by decide⟩, ⟨by decide, by decide⟩, ⟨by decide, by decide⟩,
    prvDrawFrameOnTile ⟨0, 0, 1920, 960⟩ .rgb565, by decide +kernel, rfl, rfl, ?_⟩
  rintro ⟨hbytes, -, -⟩
  exact absurd hbytes (by decide)

end Corstone.ObjectDetection.BorderTile
