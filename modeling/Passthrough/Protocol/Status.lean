/-!
# Passthrough — completion statuses

Every request completes with one of twelve statuses, each a 32-bit number that the operating system
knows.  `Status.ofCode?` reads a number back.
-/

namespace Passthrough

/-- How a request completed. -/
inductive Status where
  | success
  | unsuccessful
  | invalidParameter
  | invalidDeviceRequest
  | noMemory
  | alreadyCommitted
  | insufficientResources
  | notSupported
  | notSameDevice
  | deviceConfigurationError
  | invalidDeviceState
  | invalidBufferSize
deriving DecidableEq, Inhabited

namespace Status

def code : Status → UInt32
  | .success => 0x00000000
  | .unsuccessful => 0xC0000001
  | .invalidParameter => 0xC000000D
  | .invalidDeviceRequest => 0xC0000010
  | .noMemory => 0xC0000017
  | .alreadyCommitted => 0xC0000021
  | .insufficientResources => 0xC000009A
  | .notSupported => 0xC00000BB
  | .notSameDevice => 0xC00000D4
  | .deviceConfigurationError => 0xC0000182
  | .invalidDeviceState => 0xC0000184
  | .invalidBufferSize => 0xC0000206

def name : Status → String
  | .success => "Success"
  | .unsuccessful => "Unsuccessful"
  | .invalidParameter => "InvalidParameter"
  | .invalidDeviceRequest => "InvalidDeviceRequest"
  | .noMemory => "NoMemory"
  | .alreadyCommitted => "AlreadyCommitted"
  | .insufficientResources => "InsufficientResources"
  | .notSupported => "NotSupported"
  | .notSameDevice => "NotSameDevice"
  | .deviceConfigurationError => "DeviceConfigurationError"
  | .invalidDeviceState => "InvalidDeviceState"
  | .invalidBufferSize => "InvalidBufferSize"

def message : Status → String
  | .success => "success"
  | .unsuccessful => "unsuccessful"
  | .invalidParameter => "invalid parameter"
  | .invalidDeviceRequest => "invalid device request"
  | .noMemory => "no memory"
  | .alreadyCommitted => "hardware already mapped"
  | .insufficientResources => "insufficient resources"
  | .notSupported => "not supported"
  | .notSameDevice => "request addressed to a different device"
  | .deviceConfigurationError => "device configuration error"
  | .invalidDeviceState => "invalid device state"
  | .invalidBufferSize => "invalid buffer size"

def all : List Status :=
  [.success, .unsuccessful, .invalidParameter, .invalidDeviceRequest, .noMemory, .alreadyCommitted,
    .insufficientResources, .notSupported, .notSameDevice, .deviceConfigurationError,
    .invalidDeviceState, .invalidBufferSize]

def ofCode? (n : UInt32) : Option Status := all.find? fun s => s.code = n

end Status

end Passthrough
