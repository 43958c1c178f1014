import StreamerPlus.Streaming.FrameId

/-!
# Encoded frames

`EncodedFrame` (`public/encoded_frame.h`) as the sender is handed it, and the metadata part of
it that a receiver fills in while the frame is being collected. The capture begin and end
times only feed statistics and are left out.
-/

namespace StreamerPlus

/-- `EncodedFrame::Dependency`. -/
inductive Dependency
  | unknown | dependent | independent | keyFrame
  deriving DecidableEq, Repr

/-- `EncodedFrame`. -/
structure EncodedFrame where
  dependency : Dependency
  frameId : ℤ
  referencedFrameId : ℤ
  rtpTimestamp : ℤ
  referenceTime : ℤ
  newPlayoutDelay : ℤ
  data : List UInt8
  deriving DecidableEq, Repr

/-- `EncryptedFrame`: the same record with encrypted data. -/
abbrev EncryptedFrame := EncodedFrame

/-- The metadata of an `EncodedFrame` under collection; ids are null until they are known. -/
structure FrameMetadata where
  dependency : Dependency := .unknown
  frameId : Option ℤ := none
  referencedFrameId : Option ℤ := none
  rtpTimestamp : ℤ := 0
  newPlayoutDelay : ℤ := 0
  deriving DecidableEq, Repr

end StreamerPlus
