import Corstone.Lib.RecordFile
import Corstone.Ota.Pal

/-!
# FRM files

Model of `frm_converter.py`: `write_frm` and `read_frm` (lines 44–102) with the options of `main`
that they get (lines 126–186). A frame is a header of six lines and the samples, of which each is
one colour of its pixel, shifted to the bit depth.

The numbers 1 and 2 of the Bayer modes stand for `GB` and `GR` in `write_frm`, and for `GR` and `GB`
in `rggb_modes`. The images are loaded as RGB and written as BGR. For `GR` and `GB` the two cancel.

* `readFrm_writeFrm`: a frame that has been written is read, whatever follows.
* `sample_shiftRight`: the samples that are read.
* `roundTrip_iff`: all frames are read, and the colours are those of the mode iff the written ones
  are, in the bits of the container.
* `not_prescribed_rg`: a red pixel in the mode `RG`.
-/

namespace Corstone.Tools

open Corstone.Lib
open Corstone.Ota (ascii)

/-! ## Images -/

inductive Colour
  | red
  | green
  | blue
  deriving DecidableEq

/-- A pixel as it is loaded: with the channels red, green, blue. -/
structure Rgb where
  red : UInt8
  green : UInt8
  blue : UInt8
  deriving DecidableEq

def Rgb.value (p : Rgb) : Colour → UInt8
  | .red => p.red
  | .green => p.green
  | .blue => p.blue

/-- `data_bgr[r, c, channel]`. -/
def Rgb.channel (p : Rgb) : Fin 3 → UInt8
  | 0 => p.red
  | 1 => p.green
  | 2 => p.blue

/-- An image, whose pixels have a row and a column. -/
structure Image where
  width : ℕ
  height : ℕ
  pixel : ℕ → ℕ → Rgb

/-! ## The options -/

inductive BayerMode
  | rg
  | gr
  | gb
  | bg
  deriving DecidableEq

/-- `rggb_modes`. -/
def rggbModes : List BayerMode := [.rg, .gr, .gb, .bg]

/-- `rggb_modes.index(bayer)`. -/
def BayerMode.rggb (mode : BayerMode) : Fin 4 :=
  ⟨rggbModes.idxOf mode, by cases mode <;> decide⟩

/-- The choices of `--depth` and `--container`. -/
def depths : List ℕ := [8, 10, 12, 14, 16, 20]

def containers : List ℕ := [8, 16, 32]

/-- The options of `main`. -/
structure EncodeOptions where
  depth : ℕ
  depth_mem : depth ∈ depths
  containerOption : Option ℕ
  container_mem : ∀ container ∈ containerOption, container ∈ containers
  bayer : BayerMode

/-- The container that is used: without the option it follows from the depth. -/
def EncodeOptions.container (o : EncodeOptions) : ℕ :=
  match o.containerOption with
  | none => if o.depth > 16 then 32 else if o.depth > 8 then 16 else 8
  | some container => container

/-! ## Writing -/

/-- `bpp_to_np_dtype`: the bits of the type. Another number of bytes is an error when an array of
    this type is made. -/
def bppToNpDtype : ℕ → Option ℕ
  | 1 => some 8
  | 2 => some 16
  | 4 => some 32
  | _ => none

/-- The channel in `bayer8[r, c]` (lines 74–97). -/
def bayerChannel (rggb : Fin 4) (r c : ℕ) : Fin 3 :=
  match rggb, r % 2, c % 2 with
  -- RG GB
  | 0, 0, 0 => 2
  | 0, 0, _ => 1
  | 0, _, 0 => 1
  | 0, _, _ => 0
  -- GB RG
  | 1, 0, 0 => 1
  | 1, 0, _ => 0
  | 1, _, 0 => 2
  | 1, _, _ => 1
  -- GR BG
  | 2, 0, 0 => 1
  | 2, 0, _ => 2
  | 2, _, 0 => 0
  | 2, _, _ => 1
  -- BG GR
  | 3, 0, 0 => 0
  | 3, 0, _ => 1
  | 3, _, 0 => 1
  | 3, _, _ => 2

/-- The samples in `bayer`, row after row: shifted by `np.left_shift` and cut off to the bits of the
    type. -/
def bayerSamples (image : Image) (depth : ℕ) (rggb : Fin 4) (bits : ℕ) : List ℕ :=
  (List.range (image.height * image.width)).map fun i =>
    let r := i / image.width
    let c := i % image.width
    ((image.pixel r c).channel (bayerChannel rggb r c)).toNat <<< (depth - 8) % 2 ^ bits

/-- The six lines of the header, without their ends. -/
def headerLines (width height depth container layers : ℕ) : List Bytes :=
  [ascii "#ISP1.width.height.depth.type.layers:", zeroPadded 7 width, zeroPadded 7 height,
    decimal depth, decimal container, zeroPadded 3 layers]

/-- `write_frm`: what it writes, `none` for an error. -/
def writeFrm (image : Image) (depth : ℕ) (rggb : Fin 4) (container : ℕ) : Option Bytes :=
  let bpp := container / 8
  (bppToNpDtype bpp).map fun bits =>
    (headerLines image.width image.height depth container 1).flatMap (· ++ [10]) ++
      (bayerSamples image depth rggb bits).flatMap (toBytes bpp)

/-- The file of `main` with `--encode`. -/
def encode (o : EncodeOptions) (images : List Image) : Option Bytes :=
  (images.mapM fun image => writeFrm image o.depth o.bayer.rggb o.container).map List.flatten

/-! ## Reading -/

/-- What `read_frm` returns; the last index of the array is the layer. -/
@[ext]
structure Frame where
  width : ℕ
  height : ℕ
  depth : ℕ
  type : ℕ
  layers : ℕ
  data : List ℕ
  length_data : data.length = height * width * layers

/-- `data[r, c, 0]`. -/
def Frame.sample (f : Frame) (r c : ℕ) : ℕ := f.data.getD ((r * f.width + c) * f.layers) 0

/-- `int(rf.readline())`. -/
def readInt (rf : Bytes) : Option (ℕ × Bytes) :=
  (toInt (readline rf).1).map fun n => (n, (readline rf).2)

/-- `read_frm`: `some none` at the end of the file, `none` for an error. A buffer that does not have
    the size of the array is one. -/
def readFrm (rf : Bytes) : Option (Option (Frame × Bytes)) :=
  if (readline rf).1 = [] then some none
  else do
    let (width, rf) ← readInt (readline rf).2
    let (height, rf) ← readInt rf
    let (depth, rf) ← readInt rf
    let (type, rf) ← readInt rf
    let bpp := type / 8
    let (layers, rf) ← readInt rf
    let _ ← bppToNpDtype bpp
    let count := height * width * layers
    if (rf.take (bpp * count)).length = bpp * count then
      some (some (⟨width, height, depth, type, layers, fromBytes bpp count (rf.take (bpp * count)),
        length_fromBytes _ _ _⟩, rf.drop (bpp * count)))
    else none

/-! ## The purpose -/

/-- The colour that the pattern of the mode has at row `r` and column `c`. -/
def BayerMode.colour (mode : BayerMode) (r c : ℕ) : Colour :=
  match mode, r % 2, c % 2 with
  | .rg, 0, 0 => .red
  | .rg, 0, _ => .green
  | .rg, _, 0 => .green
  | .rg, _, _ => .blue
  | .gr, 0, 0 => .green
  | .gr, 0, _ => .red
  | .gr, _, 0 => .blue
  | .gr, _, _ => .green
  | .gb, 0, 0 => .green
  | .gb, 0, _ => .blue
  | .gb, _, 0 => .red
  | .gb, _, _ => .green
  | .bg, 0, 0 => .blue
  | .bg, 0, _ => .green
  | .bg, _, 0 => .green
  | .bg, _, _ => .red

/-- The frame has the size of the image and the depth and container of the options. -/
structure SameShape (o : EncodeOptions) (image : Image) (f : Frame) : Prop where
  width : f.width = image.width
  height : f.height = image.height
  depth : f.depth = o.depth
  type : f.type = o.container
  layers : f.layers = 1

/-- Each sample is the colour that the mode prescribes. -/
def Prescribed (o : EncodeOptions) (image : Image) (f : Frame) : Prop :=
  ∀ r < image.height, ∀ c < image.width,
    f.sample r c >>> (o.depth - 8) =
      ((image.pixel r c).value (o.bayer.colour r c)).toNat

/-- The file that is written is read as frames that have the shapes and the colours of the images,
    with `fuel` calls more than are needed. -/
def RoundTrip (o : EncodeOptions) (images : List Image) (fuel : ℕ) : Prop :=
  ∃ file, encode o images = some file ∧
    ∃ frames, readAll readFrm (images.length + 1 + fuel) file = some frames ∧
      List.Forall₂ (fun image f => SameShape o image f ∧ Prescribed o image f) images frames

/-- Red for blue and blue for red. -/
def Colour.exchange : Colour → Colour
  | .red => .blue
  | .green => .green
  | .blue => .red

/-- In the modes `RG` and `BG` red and blue are exchanged. -/
def BayerMode.written (mode : BayerMode) (r c : ℕ) : Colour :=
  match mode with
  | .rg | .bg => (mode.colour r c).exchange
  | .gr | .gb => mode.colour r c

/-- At each pixel the colour that is written, in the bits that the container has for it, is the one
    that the mode prescribes. -/
def Faithful (o : EncodeOptions) (image : Image) : Prop :=
  ∀ r < image.height, ∀ c < image.width,
    ((image.pixel r c).value (o.bayer.written r c)).toNat % 2 ^ (o.container - (o.depth - 8)) =
      ((image.pixel r c).value (o.bayer.colour r c)).toNat

/-! ## The samples -/

theorem EncodeOptions.container_cases (o : EncodeOptions) :
    o.container = 8 ∨ o.container = 16 ∨ o.container = 32 := by
  have hmem : o.container ∈ containers := by
    unfold EncodeOptions.container
    split
    · split_ifs <;> decide
    · next container hcontainer => exact o.container_mem container (by rw [hcontainer]; rfl)
  simpa [containers] using hmem

theorem EncodeOptions.depth_bounds (o : EncodeOptions) : 8 ≤ o.depth ∧ o.depth ≤ 20 := by
  have hmem := o.depth_mem
  simp only [depths, List.mem_cons, List.not_mem_nil, or_false] at hmem
  omega

/-- The type has the bits of the container. -/
theorem bppToNpDtype_container (o : EncodeOptions) :
    bppToNpDtype (o.container / 8) = some o.container := by
  rcases o.container_cases with h | h | h <;> rw [h] <;> rfl

theorem pow_container (o : EncodeOptions) : 256 ^ (o.container / 8) = 2 ^ o.container := by
  rcases o.container_cases with h | h | h <;> rw [h] <;> rfl

/-- The channel is the one of the colour that is written. -/
theorem channel_bayerChannel (p : Rgb) (mode : BayerMode) (r c : ℕ) :
    p.channel (bayerChannel mode.rggb r c) = p.value (mode.written r c) := by
  obtain hr | hr := Nat.mod_two_eq_zero_or_one r <;>
    obtain hc | hc := Nat.mod_two_eq_zero_or_one c <;>
    cases mode <;>
    simp only [BayerMode.written, BayerMode.colour, bayerChannel, hr, hc] <;>
    rfl

/-- Shifted there and back, a value keeps the bits that the type has for it. -/
theorem shiftLeft_mod_shiftRight (v k bits : ℕ) :
    (v <<< k % 2 ^ bits) >>> k = v % 2 ^ (bits - k) := by
  rw [Nat.shiftLeft_eq, Nat.shiftRight_eq_div_pow]
  obtain hle | hlt := le_or_gt k bits
  · have hbits : 2 ^ bits = 2 ^ (bits - k) * 2 ^ k := by
      rw [← pow_add, Nat.sub_add_cancel hle]
    rw [hbits, Nat.mul_mod_mul_right, Nat.mul_div_cancel _ (by positivity)]
  · have hdvd : 2 ^ bits ∣ v * 2 ^ k := (pow_dvd_pow 2 hlt.le).mul_left v
    rw [Nat.mod_eq_zero_of_dvd hdvd, Nat.sub_eq_zero_of_le hlt.le, pow_zero, Nat.mod_one,
      Nat.zero_div]

theorem length_bayerSamples (image : Image) (depth : ℕ) (rggb : Fin 4) (bits : ℕ) :
    (bayerSamples image depth rggb bits).length = image.height * image.width := by
  rw [bayerSamples, List.length_map, List.length_range]

/-- The frame of an image. -/
def EncodeOptions.frame (o : EncodeOptions) (image : Image) : Frame where
  width := image.width
  height := image.height
  depth := o.depth
  type := o.container
  layers := 1
  data := bayerSamples image o.depth o.bayer.rggb o.container
  length_data := by rw [length_bayerSamples, Nat.mul_one]

theorem sameShape_frame (o : EncodeOptions) (image : Image) :
    SameShape o image (o.frame image) := ⟨rfl, rfl, rfl, rfl, rfl⟩

/-- A sample, shifted back. -/
theorem sample_shiftRight (o : EncodeOptions) (image : Image) {r c : ℕ} (hr : r < image.height)
    (hc : c < image.width) :
    (o.frame image).sample r c >>> (o.depth - 8) =
      ((image.pixel r c).value (o.bayer.written r c)).toNat %
        2 ^ (o.container - (o.depth - 8)) := by
  have hlt : r * image.width + c < image.height * image.width :=
    calc r * image.width + c < r * image.width + image.width := by omega
      _ = (r + 1) * image.width := by ring
      _ ≤ image.height * image.width := Nat.mul_le_mul_right _ hr
  have hrow : (r * image.width + c) / image.width = r := by
    rw [Nat.mul_comm, Nat.mul_add_div (by omega), Nat.div_eq_of_lt hc, Nat.add_zero]
  have hcolumn : (r * image.width + c) % image.width = c := by
    rw [Nat.mul_comm, Nat.mul_add_mod, Nat.mod_eq_of_lt hc]
  have hsample : (o.frame image).sample r c =
      ((image.pixel r c).value (o.bayer.written r c)).toNat <<< (o.depth - 8) %
        2 ^ o.container := by
    show (bayerSamples image o.depth o.bayer.rggb o.container).getD
      ((r * image.width + c) * 1) 0 = _
    rw [Nat.mul_one, bayerSamples, List.getD_eq_getElem?_getD, List.getElem?_map,
      List.getElem?_range hlt]
    simp only [Option.map_some, Option.getD_some, hrow, hcolumn, channel_bayerChannel]
  rw [hsample, shiftLeft_mod_shiftRight]

theorem prescribed_iff (o : EncodeOptions) (image : Image) :
    Prescribed o image (o.frame image) ↔ Faithful o image := by
  constructor
  · intro h r hr c hc
    rw [← sample_shiftRight o image hr hc]
    exact h r hr c hc
  · intro h r hr c hc
    rw [sample_shiftRight o image hr hc]
    exact h r hr c hc

/-! ## The file -/

/-- What is written for an image. -/
def EncodeOptions.bytes (o : EncodeOptions) (image : Image) : Bytes :=
  (headerLines image.width image.height o.depth o.container 1).flatMap (· ++ [10]) ++
    (o.frame image).data.flatMap (toBytes (o.container / 8))

theorem encode_eq (o : EncodeOptions) (images : List Image) :
    encode o images = some (images.flatMap o.bytes) := by
  have hwrite : (fun image => writeFrm image o.depth o.bayer.rggb o.container) =
      fun image => some (o.bytes image) := by
    funext image
    unfold writeFrm
    dsimp only
    rw [bppToNpDtype_container]
    rfl
  have hmap : images.mapM (fun image => some (o.bytes image)) = some (images.map o.bytes) :=
    List.mapM_pure
  rw [encode, hwrite, hmap, Option.map_some, List.flatMap_def]

theorem readInt_line {text : Bytes} {n : ℕ} (rest : Bytes) (hdigits : ∀ b ∈ text, isDigit b = true)
    (hn : toInt (text ++ [10]) = some n) : readInt (text ++ 10 :: rest) = some (n, rest) := by
  rw [readInt, readline_append text rest (ne_newline_of_digits hdigits), hn]
  rfl

theorem readInt_zeroPadded (width n : ℕ) (rest : Bytes) :
    readInt (zeroPadded width n ++ 10 :: rest) = some (n, rest) :=
  readInt_line rest (zeroPadded_digits width n) (toInt_zeroPadded width n)

theorem readInt_decimal (n : ℕ) (rest : Bytes) :
    readInt (decimal n ++ 10 :: rest) = some (n, rest) :=
  readInt_line rest (decimal_digits n) (toInt_decimal n)

/-- The samples that are written are read. -/
theorem fromBytes_data (o : EncodeOptions) (image : Image) :
    fromBytes (o.container / 8) (image.height * image.width)
      ((o.frame image).data.flatMap (toBytes (o.container / 8))) = (o.frame image).data := by
  have hlength : (o.frame image).data.length = image.height * image.width :=
    length_bayerSamples image o.depth o.bayer.rggb o.container
  rw [← hlength]
  apply fromBytes_toBytes
  intro x hx
  obtain ⟨i, -, rfl⟩ := List.mem_map.mp hx
  rw [pow_container]
  exact Nat.mod_lt _ (by positivity)

/-- The description is one line. -/
theorem description_line : ∀ b ∈ ascii "#ISP1.width.height.depth.type.layers:", b ≠ 10 := by
  simp [ascii]

theorem readFrm_writeFrm (o : EncodeOptions) (image : Image) (rest : Bytes) :
    readFrm (o.bytes image ++ rest) = some (some (o.frame image, rest)) := by
  have hbytes : o.bytes image ++ rest =
      ascii "#ISP1.width.height.depth.type.layers:" ++ 10 ::
        (zeroPadded 7 image.width ++ 10 :: (zeroPadded 7 image.height ++ 10 ::
          (decimal o.depth ++ 10 :: (decimal o.container ++ 10 :: (zeroPadded 3 1 ++ 10 ::
            ((o.frame image).data.flatMap (toBytes (o.container / 8)) ++ rest)))))) := by
    simp [EncodeOptions.bytes, headerLines]
  have hlength : ((o.frame image).data.flatMap (toBytes (o.container / 8))).length =
      o.container / 8 * (image.height * image.width) := by
    rw [length_flatMap_toBytes]
    exact congrArg _ (length_bayerSamples image o.depth o.bayer.rggb o.container)
  rw [hbytes, readFrm, readline_append _ _ description_line]
  simp only [readInt_zeroPadded, readInt_decimal, bppToNpDtype_container, Option.bind_eq_bind,
    Option.bind_some, Nat.mul_one, List.take_left' hlength, List.drop_left' hlength, hlength,
    if_true, fromBytes_data]
  rfl

/-! ## The round trip -/

/-- The frames of the images are read, in any mode, depth and container. -/
theorem readAll_encode (o : EncodeOptions) (images : List Image) (fuel : ℕ) :
    readAll readFrm (images.length + 1 + fuel) (images.flatMap o.bytes) =
      some (images.map o.frame) :=
  readAll_flatMap rfl (readFrm_writeFrm o) images fuel

theorem RoundTrip.faithful {o : EncodeOptions} {images : List Image} {fuel : ℕ}
    (h : RoundTrip o images fuel) : ∀ image ∈ images, Faithful o image := by
  obtain ⟨file, hfile, frames, hframes, hall⟩ := h
  obtain rfl : images.flatMap o.bytes = file := by
    rw [encode_eq] at hfile
    exact Option.some.inj hfile
  obtain rfl : images.map o.frame = frames := by
    rw [readAll_encode] at hframes
    exact Option.some.inj hframes
  rw [List.forall₂_map_right_iff, List.forall₂_same] at hall
  intro image himage
  exact (prescribed_iff o image).mp (hall image himage).2

/-- The frames have the colours of the mode iff the colours that are written, in the bits of the
    container, are these. -/
theorem roundTrip_iff (o : EncodeOptions) (images : List Image) (fuel : ℕ) :
    RoundTrip o images fuel ↔ ∀ image ∈ images, Faithful o image := by
  constructor
  · exact RoundTrip.faithful
  · intro h
    refine ⟨_, encode_eq o images, _, readAll_encode o images fuel, ?_⟩
    rw [List.forall₂_map_right_iff, List.forall₂_same]
    intro image himage
    exact ⟨sameShape_frame o image, (prescribed_iff o image).mpr (h image himage)⟩

/-- A yellow pixel. -/
def yellow : Image := ⟨1, 1, fun _ _ => ⟨255, 255, 0⟩⟩

/-- `--bayer RG`, with 8 bits. -/
def optionsRg : EncodeOptions := ⟨8, by decide, none, by decide, .rg⟩

/-- `--bayer GB`, with 20 bits in 8. -/
def optionsDeep : EncodeOptions := ⟨20, by decide, some 8, by decide, .gb⟩

/-- In the mode `RG` the first sample is the blue of the pixel, and 20 bits in 8 leave nothing of
    the green. -/
theorem not_prescribed_rg :
    ¬ RoundTrip optionsRg [yellow] 0 ∧ ¬ RoundTrip optionsDeep [yellow] 0 := by
  constructor
  · intro h
    have hpixel := h.faithful yellow (by simp) 0 (by decide) 0 (by decide)
    exact absurd hpixel (by decide)
  · intro h
    have hpixel := h.faithful yellow (by simp) 0 (by decide) 0 (by decide)
    exact absurd hpixel (by decide)

/-- A container that has the bits of the depth keeps all colours. -/
theorem faithful_iff_of_depth_le (o : EncodeOptions) (image : Image)
    (h : o.depth ≤ o.container) :
    Faithful o image ↔ ∀ r < image.height, ∀ c < image.width,
      (image.pixel r c).value (o.bayer.written r c) =
        (image.pixel r c).value (o.bayer.colour r c) := by
  have hdepth := o.depth_bounds
  have hbits : 2 ^ 8 ≤ 2 ^ (o.container - (o.depth - 8)) :=
    Nat.pow_le_pow_right (by omega) (by omega)
  have hkept : ∀ b : UInt8, b.toNat % 2 ^ (o.container - (o.depth - 8)) = b.toNat := by
    intro b
    have hb := b.toNat_lt
    exact Nat.mod_eq_of_lt (by omega)
  simp only [Faithful, hkept, UInt8.toNat_inj]

/-- The two slips cancel. -/
theorem faithful_of_gr_gb (o : EncodeOptions) (image : Image) (h : o.depth ≤ o.container)
    (hmode : o.bayer = .gr ∨ o.bayer = .gb) : Faithful o image := by
  rw [faithful_iff_of_depth_le o image h]
  intro r _ c _
  rcases hmode with hmode | hmode <;> rw [hmode] <;> rfl

end Corstone.Tools
