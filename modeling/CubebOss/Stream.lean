import Mathlib.Algebra.Order.Ring.Rat

/-!
This file holds the data model of the OSS backend of cubeb (`src/cubeb_oss.c`): the result
codes and stream states it exchanges with the application, the sample formats and stream
parameters it negotiates, and the two halves of a `cubeb_stream` -- the configuration that
`oss_stream_init` fixes once, and the triple `running`, `volume`, `frames_written` that the
stream mutex protects and that both threads touch.

Integers follow the source's C types: `int` and `long` are `Int`, `unsigned int` and `size_t`
are `Nat`. The three conversions the source relies on between them are spelled out, each with
its wrap-around, where a value can cross the boundary. A `float` is a `FloatValue`: what the
source does with one is compare and store it, and for that a finite value, an infinity and NaN
are the three cases that matter.
-/

namespace Cubeb.Oss

/-! ### Result codes and stream states -/

/-- Modelled from the spec: the result codes are declared in `cubeb.h`, which is not part of
the source; the values are cubeb's. -/
def cubebOk : Int := 0

/-- Modelled from the spec: `CUBEB_ERROR`, also the data callback's error sentinel. -/
def cubebError : Int := -1

/-- Modelled from the spec: `CUBEB_ERROR_INVALID_FORMAT`. -/
def cubebErrorInvalidFormat : Int := -2

/-- Modelled from the spec: `CUBEB_ERROR_NOT_SUPPORTED`. -/
def cubebErrorNotSupported : Int := -4

/-- Modelled from the spec: `CUBEB_ERROR_DEVICE_UNAVAILABLE`. -/
def cubebErrorDeviceUnavailable : Int := -5

/-- `cubeb_state`: what the state callback reports. -/
inductive CubebState where
  | started
  | stopped
  | drained
  | error
  deriving DecidableEq, Repr

/-- The states `oss_io_routine` can end in. -/
def CubebState.Terminal (state : CubebState) : Prop :=
  state = .stopped ∨ state = .drained ∨ state = .error

instance (state : CubebState) : Decidable state.Terminal :=
  inferInstanceAs (Decidable (_ ∨ _ ∨ _))

/-! ### Machine integers -/

/-- An `int` or `long` value converted to `unsigned int`: reduced modulo `2 ^ 32`. -/
def unsignedOf (value : Int) : Nat := (value % 2 ^ 32).toNat

/-- A `long` value converted to `size_t`: reduced modulo `2 ^ 64`. -/
def sizeOfLong (value : Int) : Nat := (value % 2 ^ 64).toNat

/-- A `uint32_t` value stored into an `int`: the values from `2 ^ 31` on wrap to negative. -/
def signedOf (value : Nat) : Int :=
  if value < 2 ^ 31 then value else (value : Int) - 2 ^ 32

theorem unsignedOf_lt (value : Int) : unsignedOf value < 2 ^ 32 := by
  unfold unsignedOf
  omega

theorem sizeOfLong_of_nonneg {value : Int} (nonneg : 0 ≤ value) (small : value < 2 ^ 64) :
    sizeOfLong value = value.toNat := by
  rw [sizeOfLong, Int.emod_eq_of_lt nonneg small]

/-! ### Floats -/

/-- A C `float` as the source's comparisons and stores see it: a finite value (every finite
`float` is a rational number), an infinity, or NaN. -/
inductive FloatValue where
  | finite (value : ℚ)
  | infinity (negative : Bool)
  | nan
  deriving DecidableEq, Repr

namespace FloatValue

/-- The C `<` on floats: IEEE 754 ordering, false whenever a side is NaN. -/
def lt : FloatValue → FloatValue → Bool
  | finite first, finite second => decide (first < second)
  | infinity true, finite _ => true
  | infinity true, infinity false => true
  | finite _, infinity false => true
  | _, _ => false

/-- A volume in the closed unit interval. -/
def InUnit : FloatValue → Prop
  | finite value => 0 ≤ value ∧ value ≤ 1
  | _ => False

instance : DecidablePred InUnit
  | finite _ => inferInstanceAs (Decidable (_ ∧ _))
  | infinity _ => isFalse id
  | nan => isFalse id

end FloatValue

/-! ### Formats and parameters -/

/-- Modelled from the spec: `cubeb_sample_format` is declared in `cubeb.h`. Of its tags the
backend accepts `CUBEB_SAMPLE_S16LE`, `CUBEB_SAMPLE_S16BE` and the native-endian
`CUBEB_SAMPLE_FLOAT32NE`; `float32Foreign` stands for the float tag of the other byte order,
which it rejects. -/
inductive SampleFormat where
  | s16le
  | s16be
  | float32ne
  | float32Foreign
  deriving DecidableEq, Repr

/-- Modelled from the spec: the fields of `cubeb_stream_params` the backend reads. `loopback`
is the `CUBEB_STREAM_PREF_LOOPBACK` bit of `prefs`. -/
structure StreamParams where
  format : SampleFormat
  rate : Nat
  channels : Nat
  loopback : Bool
  deriving DecidableEq, Repr

/-- `struct stream_info`: what one direction negotiated with its device. -/
structure StreamInfo where
  channels : Int
  sampleRate : Int
  fmt : Int
  precision : Int
  deriving DecidableEq, Repr

/-- The zeroed `stream_info` of a freshly `calloc`ed stream. -/
def StreamInfo.zero : StreamInfo := ⟨0, 0, 0, 0⟩

/-! ### The stream -/

/-- `struct oss_stream`: one direction of a stream. `fd` is `-1` when the direction is not
open. The buffer is not a field: it is `nfr * frameSize` bytes, allocated by
`oss_stream_init`, and the model records every access to it as an event. The device name is
left out: the source passes it to `open`, whose answer the model takes as an input, and to
`oss_get_current_device`, which only reports it. -/
structure OssStream where
  fd : Int
  info : StreamInfo
  frameSize : Nat
  floating : Bool
  deriving DecidableEq, Repr

/-- A direction is active when its device is open. -/
def OssStream.Active (direction : OssStream) : Prop := direction.fd ≠ -1

instance (direction : OssStream) : Decidable direction.Active :=
  inferInstanceAs (Decidable (_ ≠ _))

/-- The bytes of a direction's buffer. -/
def OssStream.bufferBytes (direction : OssStream) (nfr : Nat) : Nat := nfr * direction.frameSize

/-- The part of `struct cubeb_stream` that `oss_stream_init` fixes: both directions and the
block size `nfr`, an `unsigned int`. The callbacks and the user pointer are not fields: their
calls are events whose results the environment chooses. -/
structure Stream where
  play : OssStream
  record : OssStream
  nfr : Nat
  nfr_lt : nfr < 2 ^ 32
  deriving DecidableEq, Repr

/-- The fields of `struct cubeb_stream` that `mutex` protects. -/
structure Shared where
  running : Bool
  volume : FloatValue
  framesWritten : Nat
  deriving DecidableEq, Repr

/-- The shared fields right after `oss_stream_init`: `calloc` zeroed `running` and
`frames_written`, and `volume` was set to `1.0`. -/
def Shared.initial : Shared := ⟨false, .finite 1, 0⟩

end Cubeb.Oss
