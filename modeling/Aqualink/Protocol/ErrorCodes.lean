import Mathlib.Init

/-!
# Error codes

The two error categories that a message generator can report.  Codes are
compared together with their category, so `ErrorCode` is the sum of both.
-/

namespace AqualinkAutomate.Protocol

inductive ProtocolErrorCode where
  | dataAvailableToProcess
  | waitingForMoreData
  | invalidPacketFormat
  | unknownFailure
  | checksumFailure
  | overlappingPackets
  deriving DecidableEq

inductive MessageErrorCode where
  | invalidMessageData
  | cannotFindGenerator
  | unknownMessageType
  | generatorFailed
  | failedToSerialize
  | failedToDeserialize
  deriving DecidableEq

inductive ErrorCode where
  | protocol (code : ProtocolErrorCode)
  | message (code : MessageErrorCode)
  deriving DecidableEq

namespace ErrorCode

abbrev dataAvailableToProcess : ErrorCode := .protocol .dataAvailableToProcess
abbrev waitingForMoreData : ErrorCode := .protocol .waitingForMoreData
abbrev invalidPacketFormat : ErrorCode := .protocol .invalidPacketFormat
abbrev checksumFailure : ErrorCode := .protocol .checksumFailure
abbrev overlappingPackets : ErrorCode := .protocol .overlappingPackets
abbrev cannotFindGenerator : ErrorCode := .message .cannotFindGenerator
abbrev failedToDeserialize : ErrorCode := .message .failedToDeserialize

end ErrorCode

end AqualinkAutomate.Protocol
