import CubebOss.Control

/-!
This file models `oss_copy_params` and `oss_stream_init`, which open the requested devices,
negotiate each direction's format, channel count and rate, size the processing block from the
devices' queues and allocate the buffers.

The devices are inputs: for every `ioctl` the model takes the device's answer -- a failure, or
the value it writes back, which may be the request or an adjustment of it -- and for every
`open`, `calloc` and `pthread_mutex_init` its outcome. On a failure the source jumps to its
`error` label and destroys what it has built so far; the model does the same with
`ossStreamDestroy`, so the calls of every failure path are recorded with it.
-/

namespace Cubeb.Oss

/-! ### Devices and requests -/

/-- `audio_buf_info`, as `SNDCTL_DSP_GETOSPACE` and `SNDCTL_DSP_GETISPACE` fill it; the source
reads two of its fields. -/
structure AudioBufInfo where
  fragstotal : Int
  fragsize : Int
  deriving DecidableEq, Repr

/-- What an opened OSS device answers to the `ioctl`s of `oss_stream_init`. For
`SNDCTL_DSP_SETFMT`, `SNDCTL_DSP_CHANNELS` and `SNDCTL_DSP_SPEED` the answer to a requested
value is `none` when the call returns `-1`, else the value the device writes back through the
argument: the request, or one it adjusted. `space` is the queue `SNDCTL_DSP_GETOSPACE` or
`SNDCTL_DSP_GETISPACE` reports, `none` when that call fails. -/
structure Dsp where
  setfmt : Int → Option Int
  channels : Int → Option Int
  speed : Int → Option Int
  space : Option AudioBufInfo

/-- What the outside world answers to the calls of `oss_stream_init`: `calloc` of the stream,
`open` of each device (an fd, or `-1`), the devices' `ioctl`s, `pthread_mutex_init`, and
`calloc` of each buffer. -/
structure InitWorld where
  streamCalloc : Bool
  recordOpen : Int
  recordDsp : Dsp
  playOpen : Int
  playDsp : Dsp
  mutexInit : Bool
  playCalloc : Bool
  recordCalloc : Bool

/-- The arguments of `oss_stream_init` that shape the stream: the parameters of each direction,
`none` for a direction not requested. The device names only reach `open`, whose answer is in
`InitWorld`; the stream name and the latency are ignored by the source; the callbacks and the
user pointer are only stored. -/
structure InitRequest where
  inputParams : Option StreamParams
  outputParams : Option StreamParams
  deriving DecidableEq, Repr

/-- `OSS_DEFAULT_NFRAMES`: the block size of a stream with no direction open. -/
def ossDefaultNframes : Nat := 32

/-! ### `oss_copy_params` -/

/-- The switch of `oss_copy_params` (lines 507-522): the hardware code and the precision it
assigns a sample tag, `none` for a tag it rejects. Modelled from the spec are only the values of
the `AFMT_*` codes, which `sys/soundcard.h` defines outside the source: they are OSS's,
`AFMT_S32_NE` being `AFMT_S32_LE` on a little-endian host. -/
def formatCode : SampleFormat → Option (Int × Int)
  | .s16le => some (0x10, 16)
  | .s16be => some (0x20, 16)
  | .float32ne => some (0x1000, 32)
  | .float32Foreign => none

/-- `oss_copy_params`: the info of one direction after asking its device for the format, the
channel count and the rate, in that order, or the error code. The info keeps what the device
wrote back. -/
def ossCopyParams (dsp : Dsp) (params : StreamParams) : Except Int StreamInfo :=
  match formatCode params.format with
  | none => .error cubebErrorInvalidFormat
  | some (code, precision) =>
    match dsp.setfmt code with
    | none => .error cubebError
    | some fmt =>
      match dsp.channels (signedOf params.channels) with
      | none => .error cubebError
      | some channels =>
        match dsp.speed (signedOf params.rate) with
        | none => .error cubebError
        | some sampleRate => .ok ⟨channels, sampleRate, fmt, precision⟩

theorem ossCopyParams_ok {dsp : Dsp} {params : StreamParams} {info : StreamInfo}
    (negotiated : ossCopyParams dsp params = .ok info) :
    ∃ code, formatCode params.format = some (code, info.precision) ∧
      dsp.setfmt code = some info.fmt ∧
      dsp.channels (signedOf params.channels) = some info.channels ∧
      dsp.speed (signedOf params.rate) = some info.sampleRate := by
  unfold ossCopyParams at negotiated
  split at negotiated
  · cases negotiated
  · rename_i code precision tag
    split at negotiated
    · cases negotiated
    · split at negotiated
      · cases negotiated
      · split at negotiated
        · cases negotiated
        · cases negotiated
          exact ⟨code, tag, by assumption, by assumption, by assumption⟩

/-! ### `oss_stream_init` -/

/-- A direction of a freshly `calloc`ed stream, its device marked closed. -/
def OssStream.closed : OssStream := ⟨-1, StreamInfo.zero, 0, false⟩

/-- The block of `oss_stream_init` for one requested direction: refuse loopback, open the
device, negotiate, and note whether its samples are floats. It returns the direction as the
block leaves it, the block's result code and its calls. (The source opens the device under a
test that its fd is `-1`, which always holds there.) -/
def openDirection (params : StreamParams) (opened : Int) (dsp : Dsp) :
    OssStream × Int × List Call :=
  if params.loopback then (.closed, cubebErrorNotSupported, [])
  else if opened = -1 then (.closed, cubebErrorDeviceUnavailable, [.openDevice opened])
  else
    match ossCopyParams dsp params with
    | .error code => ({ OssStream.closed with fd := opened }, code, [.openDevice opened])
    | .ok info =>
      ({ fd := opened, info, frameSize := 0, floating := params.format = .float32ne }, cubebOk,
        [.openDevice opened])

/-- A direction's block when it is requested, and the closed direction with no call when it is
not. -/
def requestDirection (params : Option StreamParams) (opened : Int) (dsp : Dsp) :
    OssStream × Int × List Call :=
  match params with
  | none => (.closed, cubebOk, [])
  | some params => openDirection params opened dsp

/-- `frame_size = channels * (precision / 8)`: an `int` stored into an `unsigned int`. -/
def frameSizeOf (info : StreamInfo) : Nat := unsignedOf (info.channels * info.precision.tdiv 8)

/-- The block size an open direction allows: its device's queue counted in frames, at least
one; one when the queue query fails.

Where C is undefined the model still computes a value. A frame size of zero, from a device that
wrote back no channels, makes lines 808 and 819 divide by zero; `Nat` division gives `0`, and so
a block of one frame. `fragstotal * fragsize` is an `int` product whose overflow C leaves
undefined; the model wraps it as the conversion to `unsigned int` would. `QueueDefined` names
the queues for which neither happens. -/
def queueFrames (space : Option AudioBufInfo) (frameSize : Nat) : Nat :=
  match space with
  | none => 1
  | some info => max 1 (unsignedOf (info.fragstotal * info.fragsize) / frameSize)

/-- The block size: the smaller queue when both directions are open, the open direction's queue
when one is, `OSS_DEFAULT_NFRAMES` when none is. -/
def blockFrames (play record : OssStream) (playnfr recnfr : Nat) : Nat :=
  if play.Active ∧ record.Active then min playnfr recnfr
  else if play.Active then playnfr
  else if record.Active then recnfr
  else ossDefaultNframes

theorem queueFrames_lt (space : Option AudioBufInfo) (frameSize : Nat) :
    queueFrames space frameSize < 2 ^ 32 := by
  unfold queueFrames
  split
  · decide
  · exact max_lt (by decide) (lt_of_le_of_lt (Nat.div_le_self _ _) (unsignedOf_lt _))

/-- The block size a direction allows, one when it is not open. -/
def directionFrames (direction : OssStream) (space : Option AudioBufInfo) : Nat :=
  if direction.Active then queueFrames space direction.frameSize else 1

theorem directionFrames_lt (direction : OssStream) (space : Option AudioBufInfo) :
    directionFrames direction space < 2 ^ 32 := by
  unfold directionFrames
  split
  · exact queueFrames_lt _ _
  · decide

theorem blockFrames_lt {play record : OssStream} {playnfr recnfr : Nat}
    (playSmall : playnfr < 2 ^ 32) (recordSmall : recnfr < 2 ^ 32) :
    blockFrames play record playnfr recnfr < 2 ^ 32 := by
  unfold blockFrames
  split_ifs
  exacts [lt_of_le_of_lt (min_le_left _ _) playSmall, playSmall, recordSmall, by decide]

/-- The result of `oss_stream_init`: the code it returns, the stream it stores into `*stream`
(`none` when it stores none), and the calls it made. -/
structure InitResult where
  ret : Int
  stream : Option StreamState
  calls : List Call

/-- The stream after both directions' blocks, once the mutex exists: frame sizes, block size
and buffers. -/
def sizeAndAllocate (world : InitWorld) (ret : Int) (calls : List Call) (play record : OssStream) :
    InitResult :=
  let play := { play with frameSize := frameSizeOf play.info }
  let record := { record with frameSize := frameSizeOf record.info }
  let stream : Stream :=
    ⟨play, record, blockFrames play record (directionFrames play world.playDsp.space)
        (directionFrames record world.recordDsp.space),
      blockFrames_lt (directionFrames_lt _ _) (directionFrames_lt _ _)⟩
  let state : StreamState := ⟨stream, Shared.initial, false, false⟩
  let playCalls := if play.Active then [Call.calloc .playBuf world.playCalloc] else []
  if play.Active ∧ !world.playCalloc then
    ⟨cubebError, none, calls ++ playCalls ++ ossStreamDestroy state⟩
  else
    let state := { state with playBuf := decide play.Active }
    let recordCalls := if record.Active then [Call.calloc .recordBuf world.recordCalloc] else []
    if record.Active ∧ !world.recordCalloc then
      ⟨cubebError, none, calls ++ playCalls ++ recordCalls ++ ossStreamDestroy state⟩
    else
      ⟨ret, some { state with recordBuf := decide record.Active },
        calls ++ playCalls ++ recordCalls⟩

/-- `oss_stream_init`. On each failure it destroys what it built and returns the code held in
`ret` at that point; that code is `CUBEB_OK` when `pthread_mutex_init` fails, the source not
setting `ret` on that path. -/
def ossStreamInit (request : InitRequest) (world : InitWorld) : InitResult :=
  if !world.streamCalloc then ⟨cubebError, none, [.calloc .stream false]⟩
  else
    let fresh : StreamState :=
      ⟨⟨.closed, .closed, ossDefaultNframes, by decide⟩, ⟨false, .finite 0, 0⟩, false,
        false⟩
    let (record, ret, recordCalls) :=
      requestDirection request.inputParams world.recordOpen world.recordDsp
    let calls := [.calloc .stream true] ++ recordCalls
    let built := { fresh with stream := { fresh.stream with record := record } }
    if ret ≠ cubebOk then ⟨ret, none, calls ++ ossStreamDestroy built⟩
    else
      let (play, ret, playCalls) :=
        requestDirection request.outputParams world.playOpen world.playDsp
      let calls := calls ++ playCalls
      let built := { built with stream := { built.stream with play := play } }
      if ret ≠ cubebOk then ⟨ret, none, calls ++ ossStreamDestroy built⟩
      else if !world.mutexInit then
        ⟨ret, none, calls ++ [.mutexInit false] ++
          ossStreamDestroy { built with shared := Shared.initial }⟩
      else sizeAndAllocate world ret (calls ++ [.mutexInit true]) play record

end Cubeb.Oss

namespace Cubeb.Oss

theorem sizeAndAllocate_stored {world : InitWorld} {ret : Int} {calls : List Call}
    {play record : OssStream} {state : StreamState}
    (stored : (sizeAndAllocate world ret calls play record).stream = some state) :
    state.stream.play = { play with frameSize := frameSizeOf play.info } ∧
      state.stream.record = { record with frameSize := frameSizeOf record.info } := by
  unfold sizeAndAllocate at stored
  dsimp only at stored
  split at stored
  · cases stored
  split at stored
  · cases stored
  · cases stored
    exact ⟨rfl, rfl⟩

theorem ossStreamInit_stored {request : InitRequest} {world : InitWorld} {state : StreamState}
    (stored : (ossStreamInit request world).stream = some state) :
    ∃ record play recordCalls playCalls,
      requestDirection request.inputParams world.recordOpen world.recordDsp =
          (record, cubebOk, recordCalls) ∧
        requestDirection request.outputParams world.playOpen world.playDsp =
          (play, cubebOk, playCalls) ∧
        state.stream.record = { record with frameSize := frameSizeOf record.info } ∧
        state.stream.play = { play with frameSize := frameSizeOf play.info } := by
  unfold ossStreamInit at stored
  rcases recordBlock : requestDirection request.inputParams world.recordOpen world.recordDsp with
    ⟨record, recordRet, recordCalls⟩
  rcases playBlock : requestDirection request.outputParams world.playOpen world.playDsp with
    ⟨play, playRet, playCalls⟩
  simp only [recordBlock, playBlock] at stored
  split_ifs at stored with _ recordOk playOk
  obtain rfl := not_not.mp recordOk
  obtain rfl := not_not.mp playOk
  obtain ⟨playEq, recordEq⟩ := sizeAndAllocate_stored stored
  exact ⟨record, play, recordCalls, playCalls, rfl, rfl, recordEq, playEq⟩

theorem ossCopyParams_error {dsp : Dsp} {params : StreamParams} {code : Int}
    (failed : ossCopyParams dsp params = .error code) : code ≠ cubebOk := by
  unfold ossCopyParams at failed
  repeat' split at failed
  all_goals cases failed
  all_goals decide

theorem requestDirection_ok {params : StreamParams} {opened : Int} {dsp : Dsp}
    {direction : OssStream} {calls : List Call}
    (block : requestDirection (some params) opened dsp = (direction, cubebOk, calls)) :
    direction.fd = opened ∧ ossCopyParams dsp params = .ok direction.info ∧
      direction.floating = decide (params.format = .float32ne) := by
  simp only [requestDirection, openDirection] at block
  split_ifs at block
  · exact absurd (Prod.mk.inj_iff.mp (Prod.mk.inj_iff.mp block).2).1 (by decide)
  · exact absurd (Prod.mk.inj_iff.mp (Prod.mk.inj_iff.mp block).2).1 (by decide)
  · split at block
    · rename_i code failed
      obtain ⟨-, rfl, -⟩ := Prod.mk.inj_iff.mp block
      exact absurd rfl (ossCopyParams_error failed)
    · rename_i info negotiated
      cases block
      exact ⟨rfl, negotiated, rfl⟩

end Cubeb.Oss
